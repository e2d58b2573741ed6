import Mathlib.Data.List.Basic
import Mathlib.Data.List.Induction
import AppletGateway.Proofs.Messages
import AppletGateway.Proofs.Offers
import AppletGateway.Proofs.Pieces

/-!
# Requests on the wire

Which requests a channel is sent can be told from the calls made to it alone: whoever is at its
other end puts the messages of a connection together and reads requests off the complete frames. A
message counts as offered, even if the channel took a part of it or none.

A link that is only told to make requests of a certain kind sends no others, whatever the channel
answers. Between two steps it has either no connection, or one that has carried the frames around
such requests and nothing else; what is sent of a further frame makes it no other request. A frame
that breaks off in the middle takes its connection with it.

Results:
* `Observed.asked_append`: what one more call asks for.
* `Observed.requestsIn_carried`: what has reached the other end was asked for.
* `Link.ends_exchange_restrained`: an exchange makes no request but its own, and if it succeeds it
  has made that.
* `Link.listens_restrained`, `Link.restrained_connect`, `Link.restrained_disconnect`: the rest makes
  none.
-/

namespace AppletGateway

open AppletGateway.Frame (Decoder Frames)
open Packed (pack)
open Scripted (Call)

/-! ## What bytes ask for -/

/-- The payloads of the frames that are complete at the start of some bytes. -/
def Frame.payloads (b : Bytes) : List Bytes := (Decoder.drain ⟨none, b⟩).1

/-- Bytes behind others complete more frames, and take none back. -/
theorem Frame.payloads_append (b more : Bytes) : payloads b <+: payloads (b ++ more) := by
  have hpart := Decoder.drains_drain (Decoder.valid_new b)
  have hwhole : Decoder.Drains (Decoder.feed ⟨none, b⟩ more) (Decoder.drain ⟨none, b ++ more⟩) :=
    Decoder.drains_drain (Decoder.valid_new (b ++ more))
  unfold payloads
  generalize Decoder.drain ⟨none, b⟩ = out at hpart
  obtain ⟨qs, _ | e, d⟩ := out
  · obtain ⟨_, -, hend⟩ := hpart.frames (Decoder.valid_new b)
    obtain ⟨-, hvalid, -⟩ := hend rfl
    have hmore := hpart.feed (Decoder.valid_new b) (Decoder.drains_drain (hvalid.feed more))
    exact ⟨_, (congrArg Prod.fst (hwhole.unique hmore)).symm⟩
  · have hmore := hpart.feed_of_error (Decoder.valid_new b) more
    exact hwhole.unique hmore ▸ List.prefix_rfl

theorem Frame.payloads_eq {ps : List Bytes} {b : Bytes} (h : Frames ps b) : payloads b = ps :=
  congrArg Prod.fst ((Decoder.drains_drain (Decoder.valid_new b)).unique (Decoder.drains_frames h))

namespace Observed

/-- The bytes that a connection has carried to the channel after one more call. -/
def carry : Bytes → Call → Bytes
  | b, .send m answer => b ++ m.take (answer.getD 0)
  | b, .receive _ _ => b
  | _, .connect _ _ | _, .disconnect => []

/-- The bytes that the last connection has carried to the channel. -/
def carried (calls : List Call) : Bytes := calls.foldl carry []

/-- The requests that can be read off the complete frames at the start of some bytes. -/
def requestsIn (b : Bytes) : List Applet.Request := (Frame.payloads b).filterMap Packed.read?

/-- The requests that can be read off what a connection has carried before a call and the message
that the call offers. -/
def askedBy : Bytes → Call → List Applet.Request
  | b, .send m _ => requestsIn (b ++ m)
  | _, .connect _ _ | _, .receive _ _ | _, .disconnect => []

/-- The same for calls in a row, the connection having carried `b` before them. -/
def askedBehind : (b : Bytes) → List Call → List Applet.Request
  | _, [] => []
  | b, c :: calls => askedBy b c ++ askedBehind (carry b c) calls

/-- The requests that the calls ask for. One is listed again with every further message that is
offered on its connection. -/
def asked (calls : List Call) : List Applet.Request := askedBehind [] calls

variable {calls : List Call} {P : Applet.Request → Prop}

theorem carried_append (c : Call) : carried (calls ++ [c]) = carry (carried calls) c := by
  rw [carried, List.foldl_append]
  rfl

theorem askedBehind_append (b : Bytes) (c : Call) :
    askedBehind b (calls ++ [c]) = askedBehind b calls ++ askedBy (calls.foldl carry b) c := by
  induction calls generalizing b with
  | nil => exact List.append_nil _
  | cons c' calls ih =>
    rw [List.cons_append, askedBehind, ih, askedBehind, List.append_assoc]
    rfl

/-- What one more call asks for. -/
theorem asked_append (c : Call) : asked (calls ++ [c]) = asked calls ++ askedBy (carried calls) c :=
  askedBehind_append [] c

theorem requestsIn_subset {b whole : Bytes} (h : b <+: whole) :
    requestsIn b ⊆ requestsIn whole := by
  obtain ⟨more, rfl⟩ := h
  exact ((Frame.payloads_append b more).filterMap _).subset

/-- Off the frames around some requests these requests are read. -/
theorem requestsIn_eq {qs : List Applet.Request} {b : Bytes} (h : Frames (qs.map pack) b) :
    requestsIn b = qs := by
  have hread : ∀ q ∈ qs, Packed.read? (pack q) = some q := fun q hq =>
    Packed.read?_pack q <|
      Nat.lt_of_le_of_lt (h.lengths _ (List.mem_map_of_mem hq)).2 (by decide)
  rw [requestsIn, Frame.payloads_eq h, List.filterMap_map]
  exact (List.filterMap_congr hread).trans List.filterMap_some

/-- What a connection has carried was asked for. -/
theorem requestsIn_carried (calls : List Call) : requestsIn (carried calls) ⊆ asked calls := by
  induction calls using List.reverseRecOn with
  | nil => exact nofun
  | append_singleton calls c ih =>
    rw [carried_append, asked_append]
    cases c with
    | send m answer =>
      -- The channel has taken the beginning of what it was offered.
      have hpart : carried calls ++ m.take (answer.getD 0) <+: carried calls ++ m :=
        (List.prefix_append_right_inj _).mpr (List.take_prefix _ _)
      exact List.Subset.trans (requestsIn_subset hpart) (List.subset_append_right _ _)
    | receive room answer => exact List.Subset.trans ih (List.subset_append_left _ _)
    | connect client answer => exact nofun
    | disconnect => exact nofun

/-- The calls ask for nothing but requests of the kind `P`. -/
def Asking (P : Applet.Request → Prop) (calls : List Call) : Prop := ∀ q ∈ asked calls, P q

theorem asking_nil : Asking P [] := nofun

theorem Asking.append (h : Asking P calls) {c : Call} (hc : ∀ q ∈ askedBy (carried calls) c, P q) :
    Asking P (calls ++ [c]) := by
  rw [Asking, asked_append]
  exact List.forall_mem_append.mpr ⟨h, hc⟩

end Observed

namespace Link

open Observed (Asking asked asked_append requestsIn requestsIn_subset requestsIn_eq carried
  carried_append)

variable {τ : Type} {l l' : Link (Observed τ)} {P : Applet.Request → Prop}

/-- What holds of a link between two steps, if it was only told to make requests of the kind `P`: it
has asked for no others, and a connection has carried the frames around such requests. -/
structure Restrained (P : Applet.Request → Prop) (l : Link (Observed τ)) : Prop where
  room : 0 < l.maxMessage
  asking : Asking P l.transport.calls
  whole : l.connected = true →
    ∃ qs : List Applet.Request, (∀ q ∈ qs, P q) ∧ Frames (qs.map pack) (carried l.transport.calls)

theorem restrained_unused (client : Guid) (t : τ) : Restrained P (unused client t) :=
  ⟨Nat.zero_lt_succ _, Observed.asking_nil, nofun⟩

/-- What becomes of the channel by itself is no request. -/
theorem Restrained.becomes (h : Restrained P l) (t : τ) :
    Restrained P { l with transport := Link.becomes t l.transport } :=
  ⟨h.room, h.asking, h.whole⟩

/-! ## Sending -/

/-- From `l` to `l'` the channel was sent `b`, or a part of it if that failed, and asked for nothing
but requests of the kind `P`. -/
structure Delivers (P : Applet.Request → Prop) (b : Bytes) (l : Link (Observed τ))
    (r : Except LinkError Unit) (l' : Link (Observed τ)) : Prop where
  asking : Asking P l'.transport.calls
  maxMessage : l'.maxMessage = l.maxMessage
  carried : r = .ok () → carried l'.transport.calls = carried l.transport.calls ++ b

theorem Delivers.trans {b b' : Bytes} {r : Except LinkError Unit} {l'' : Link (Observed τ)}
    (h : Delivers P b l (.ok ()) l') (h' : Delivers P b' l' r l'') :
    Delivers P (b ++ b') l r l'' where
  asking := h'.asking
  maxMessage := h'.maxMessage.trans h.maxMessage
  carried hr := by rw [h'.carried hr, h.carried rfl, List.append_assoc]

theorem delivers_error {b : Bytes} {e : LinkError} (h : Asking P l'.transport.calls)
    (hmax : l'.maxMessage = l.maxMessage) : Delivers P b l (.error e) l' :=
  ⟨h, hmax, nofun⟩

theorem Delivers.broken {b : Bytes} {e : LinkError} (h : Delivers P b l (.error e) l')
    (b' : Bytes) : Delivers P b' l (.error e) l' :=
  delivers_error h.asking h.maxMessage

theorem delivers_nil (h : Asking P l.transport.calls) : Delivers P [] l (.ok ()) l :=
  ⟨h, rfl, fun _ => (List.append_nil _).symm⟩

variable [Transport τ] {whole : Bytes}

/-- A message is sent that belongs to bytes which ask for nothing else. -/
theorem delivers_sendMessage (hwhole : ∀ q ∈ requestsIn whole, P q) (limit : Nat) :
    ∀ (message : Bytes) (l : Link (Observed τ)), Asking P l.transport.calls →
      carried l.transport.calls ++ message <+: whole →
        Ends (sendMessage limit message) l (Delivers P message l) := by
  induction limit with
  | zero =>
    rintro (_ | ⟨b, message⟩) l h _
    · exact delivers_nil h
    · exact delivers_error h rfl
  | succ limit ih =>
    rintro (_ | ⟨b, message⟩) l h hpart
    · exact delivers_nil h
    simp only [sendMessage, ends_bind, ends_get, andThen_ok, ends_set]
    have hobserved : (Transport.send (b :: message) l.transport).1 =
      (Transport.send (b :: message) l.transport.channel).1 := rfl
    rw [hobserved]
    have hcalls : (Transport.send (b :: message) l.transport).2.calls = l.transport.calls ++
      [.send (b :: message) (Transport.send (b :: message) l.transport.channel).1] := rfl
    have hasking : Asking P (Transport.send (b :: message) l.transport).2.calls := by
      rw [hcalls]
      exact h.append fun q hq => hwhole q (requestsIn_subset hpart hq)
    cases htaken : (Transport.send (b :: message) l.transport.channel).1 with
    | none => exact delivers_error hasking rfl
    | some n =>
      cases n with
      | zero => exact delivers_error hasking rfl
      | succ n =>
        -- The rest of the message goes behind what was taken of it.
        have hcarried : carried (Transport.send (b :: message) l.transport).2.calls =
            carried l.transport.calls ++ (b :: message).take (n + 1) := by
          rw [hcalls, carried_append, htaken]
          rfl
        have hfirst : Delivers P ((b :: message).take (n + 1)) l (.ok ())
            { l with transport := (Transport.send (b :: message) l.transport).2 } :=
          ⟨hasking, rfl, fun _ => hcarried⟩
        refine (ih ((b :: message).drop (n + 1)) _ hasking ?_).mono fun r l' hrest => ?_
        · rwa [hcarried, List.append_assoc, List.take_append_drop]
        · have hboth := hfirst.trans hrest
          rwa [List.take_append_drop] at hboth

theorem delivers_messages (hwhole : ∀ q ∈ requestsIn whole, P q) (ms : List Bytes) :
    ∀ l : Link (Observed τ), Asking P l.transport.calls →
      carried l.transport.calls ++ ms.flatten <+: whole →
        Ends (ms.forM fun message => sendMessage message.length message) l
          (Delivers P ms.flatten l) := by
  induction ms with
  | nil => exact fun l h _ => delivers_nil h
  | cons m ms ih =>
    intro l h hpart
    rw [List.flatten_cons, ← List.append_assoc] at hpart
    show Ends (sendMessage m.length m >>= fun _ => _) l _
    rw [ends_bind]
    refine (delivers_sendMessage hwhole _ m l h ((List.prefix_append _ _).trans hpart)).mono
      fun r l' hm => ?_
    rw [List.flatten_cons]
    cases r with
    | error e => exact hm.broken _
    | ok _ =>
      rw [← hm.carried rfl] at hpart
      exact (ih l' hm.asking hpart).mono fun r l'' hms => hm.trans hms

/-- A frame is sent in messages. -/
theorem delivers_sendFrame {frame : Bytes} (hroom : 0 < l.maxMessage)
    (h : Asking P l.transport.calls)
    (hwhole : ∀ q ∈ requestsIn (carried l.transport.calls ++ frame), P q) :
    Ends (sendFrame frame) l (Delivers P frame l) := by
  have hflat := Bytes.flatten_chunks hroom frame
  have hmessages := delivers_messages hwhole (Bytes.chunks l.maxMessage frame) l h
  rw [hflat] at hmessages
  rw [sendFrame, ends_bind, ends_get, andThen_ok]
  exact hmessages List.prefix_rfl

/-! ## The steps of a link -/

/-- Listening asks for nothing. -/
theorem listens_restrained : Listens (τ := Observed τ) (Restrained P) where
  next _ h := ⟨h.room, h.asking, h.whole⟩
  feed _ _ h := ⟨h.room, h.asking, h.whole⟩
  emitted _ _ h := ⟨h.room, h.asking, h.whole⟩
  receive l room h := by
    have hcarried : carried (Transport.receive room l.transport).2.calls =
        carried l.transport.calls := carried_append _
    refine ⟨h.room, h.asking.append nofun, fun hc => ?_⟩
    obtain ⟨qs, hqs, hframes⟩ := h.whole hc
    exact ⟨qs, hqs, hcarried ▸ hframes⟩

/-- A connection begins with nothing. -/
theorem restrained_openChannel (hroom : 0 < l.maxMessage) (h : Asking P l.transport.calls) :
    Restrained P (openChannel.run l).2 := by
  obtain ⟨answer, hopen⟩ := attempted_openChannel l
  refine ⟨stable_room.opened l hroom, ?_, fun _ => ⟨[], nofun, ?_⟩⟩
  · rw [hopen.calls]
    exact h.append nofun
  · rw [hopen.calls, carried_append]
    exact .nil

theorem restrained_closeChannel (hroom : 0 < l.maxMessage) (h : Asking P l.transport.calls) :
    Restrained P (closeChannel.run l).2 :=
  ⟨hroom, h.append nofun, fun hc => nomatch hc⟩

/-- Whatever was on its way is gone once the link starts over. -/
theorem restrained_reset (hroom : 0 < l.maxMessage) (h : Asking P l.transport.calls) :
    Restrained P (reset.run l).2 :=
  have hclosed := restrained_closeChannel hroom h
  restrained_openChannel hclosed.room hclosed.asking

/-- Nothing that was asked for is taken back. -/
theorem listens_asked (q : Applet.Request) :
    Listens fun l : Link (Observed τ) => q ∈ asked l.transport.calls where
  next _ h := h
  feed _ _ h := h
  emitted _ _ h := h
  receive l room h := by
    have hcalls : asked (Transport.receive room l.transport).2.calls =
        asked l.transport.calls ++ [] := asked_append _
    rw [hcalls, List.append_nil]
    exact h

/-- How a request and the wait for its reply end: nothing else was asked for, and if there is a
reply, the request was made. -/
structure Trips (P : Applet.Request → Prop) (q : Applet.Request) (r : Except LinkError Applet.Reply)
    (l : Link (Observed τ)) : Prop where
  room : 0 < l.maxMessage
  asking : Asking P l.transport.calls
  kept : ∀ reply, r = .ok reply → Restrained P l ∧ q ∈ asked l.transport.calls

theorem trips_roundTrip (h : Restrained P l) (hc : l.connected = true) {q : Applet.Request}
    (hq : P q) {frame : Bytes} (hframe : Frame.encode (pack q) = some frame) :
    Ends (roundTrip frame) l (Trips P q) := by
  obtain ⟨qs, hqs, hframes⟩ := h.whole hc
  have hall : ∀ q' ∈ qs ++ [q], P q' :=
    List.forall_mem_append.mpr ⟨hqs, List.forall_mem_singleton.mpr hq⟩
  -- The frame goes behind whole ones: off all of them one more request is read.
  have hmore : Frames ((qs ++ [q]).map pack) (carried l.transport.calls ++ frame) := by
    rw [List.map_append]
    exact hframes.append (.single hframe)
  have hwhole : ∀ q' ∈ requestsIn (carried l.transport.calls ++ frame), P q' := by
    rw [requestsIn_eq hmore]
    exact hall
  rw [roundTrip, ends_bind]
  refine (delivers_sendFrame h.room h.asking hwhole).mono fun r l' hsent => ?_
  have hroom : 0 < l'.maxMessage := hsent.maxMessage ▸ h.room
  cases r with
  | error e => exact ⟨hroom, hsent.asking, by rintro _ ⟨⟩⟩
  | ok _ =>
    rw [← hsent.carried rfl] at hmore
    have hrestrained : Restrained P l' := ⟨hroom, hsent.asking, fun _ => ⟨_, hall, hmore⟩⟩
    have hasked : q ∈ asked l'.transport.calls := by
      refine Observed.requestsIn_carried _ ?_
      rw [requestsIn_eq hmore]
      exact List.mem_append_right qs (List.mem_singleton_self q)
    have hwait : Ends (awaitReply (Transport.backlog l'.transport + 1)) l' fun _ l'' =>
        Restrained P l'' ∧ q ∈ asked l''.transport.calls :=
      (listens_restrained.awaitReply _ l' hrestrained).and
        ((listens_asked q).awaitReply _ l' hasked)
    rw [andThen_ok, ends_bind, ends_get, andThen_ok]
    exact hwait.mono fun r l'' hwaited => ⟨hwaited.1.room, hwaited.1.asking, fun _ _ => hwaited⟩

/-- An exchange makes no request but its own, and if it succeeds it has made that. -/
theorem ends_exchange_restrained (h : Restrained P l) {q : Applet.Request} (hq : P q) :
    Ends (exchange q) l fun r l' =>
      Restrained P l' ∧ ∀ reply, r = .ok reply → q ∈ asked l'.transport.calls := by
  have herror (e : LinkError) {l' : Link (Observed τ)} (h' : Restrained P l') : Restrained P l' ∧
      ∀ reply : Applet.Reply, Except.error e = .ok reply → q ∈ asked l'.transport.calls :=
    ⟨h', by rintro _ ⟨⟩⟩
  simp only [exchange, ends_bind, ends_get, andThen_ok]
  cases hc : l.connected with
  | false => exact herror _ h
  | true =>
    cases hframe : Frame.encode (pack q) with
    | none => exact herror _ h
    | some frame =>
      refine (ends_orReset _).mpr ((trips_roundTrip h hc hq hframe).mono fun r l' htrip => ?_)
      cases r with
      | ok reply =>
        obtain ⟨hrestrained, hasked⟩ := htrip.kept reply rfl
        exact ⟨hrestrained, fun _ _ => hasked⟩
      | error e =>
        -- A part of the frame may have been sent, but its connection is given up.
        exact herror e (restrained_reset htrip.room htrip.asking)

theorem restrained_exchange {q : Applet.Request} (hq : P q) :
    Keeps (Restrained (τ := τ) P) (exchange q) :=
  fun _ h => (ends_exchange_restrained h hq).mono fun _ _ h => h.1

theorem restrained_pollEvents : Keeps (Restrained (τ := τ) P) pollEvents := by
  refine keeps_get fun l hl => ?_
  split
  · exact hl
  refine keeps_get (fun l hl => (ends_orReset _).mpr ?_) l hl
  refine (listens_restrained.drainEvents _ 0 l hl).mono fun r l' hdrained => ?_
  cases r with
  | ok _ => exact hdrained
  | error e => exact restrained_reset hdrained.room hdrained.asking

theorem restrained_connect : Keeps (Restrained (τ := τ) P) connect := by
  refine keeps_get fun l hl => ?_
  split
  · exact hl
  · rw [ends_bind, ends_lift, andThen_ok]
    have hopen := restrained_openChannel hl.room hl.asking
    split
    · exact hopen
    · exact hopen

theorem restrained_disconnect (h : Restrained P l) : Restrained P (disconnect.run l).2 := by
  rw [run_disconnect]
  split
  · exact restrained_closeChannel h.room h.asking
  · exact h

end Link

end AppletGateway
