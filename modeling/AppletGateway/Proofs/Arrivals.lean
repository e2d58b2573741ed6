import AppletGateway.Gateway
import AppletGateway.Proofs.Lending
import AppletGateway.Proofs.Messages
import AppletGateway.Proofs.Pieces

/-!
# What a call over a connection brings to the dispatcher

A call goes through a connection as one frame. The gateway's end reads the frame in pieces, and when
the last of them is there it hands one transaction to the workers, in which the stand-ins take the
place of the client's handlers. If the client knows that the other end is gone, if the call is too
long for a frame, if the connection is not served any more or the workers have been stopped, the
dispatcher does not notice the call.

Results:
* `Socket.ServerEnd.readAll_frame`: a frame that is read in pieces is served as one message.
* `Gateway.delivered`: the stand-ins that come with a call.
* `Gateway.transacted`: what a call over a connection does to its two ends and to the dispatcher.
-/

namespace AppletGateway

open Socket (ClientEnd ServerEnd Message)

/-! ## Reading a call -/

namespace Socket.ServerEnd

open AppletGateway.Frame (Decoder)

variable {σ : Type} [Operator σ] {caller : Caller} {held : σ → Handler → Bool} {s : ServerEnd}

theorem complete_of_part {d : Decoder} {p f more : Bytes} (hd : d.Valid)
    (hframe : Frame.encode p = some f) (hf : f = d.stream ++ more) (hmore : more ≠ []) :
    ∃ d', complete d = some ([], d') ∧ d'.Valid ∧ d'.stream = d.stream := by
  obtain ⟨d', hn, hvalid, hstream⟩ := Decoder.next_of_part hframe hf hmore
  rw [← Decoder.next_eq_stream hd] at hn
  refine ⟨d', ?_, hvalid, hstream⟩
  simp only [complete, Decoder.drain, Decoder.drainUpTo, hn]
  rfl

theorem complete_of_whole {d : Decoder} {m : Message} {f : Bytes} (hd : d.Valid)
    (hframe : m.frame = some f) (hf : d.stream = f) : complete d = some ([m], {}) := by
  have hencode : Frame.encode (Packed.pack m) = some f := hframe
  have hlen := (Frame.eq_of_encode hencode).2.2
  have hmax : Frame.maxPayload < UInt64.size := by decide
  have hread : Packed.read? (Packed.pack m) = some m := Packed.read?_pack m (by omega)
  have hn := Decoder.next_of_whole hd hencode hf
  have hempty (limit : Nat) : Decoder.drainUpTo limit {} = ([], none, {}) := by
    cases limit <;> rfl
  simp only [complete, Decoder.drain, Decoder.drainUpTo, hn, hempty]
  simp [hread]

theorem run_read_of_part (caller : Caller) (held : σ → Handler → Bool)
    {received more f p : Bytes} (hlive : s.live = true)
    (hd : s.decoder.Valid) (hframe : Frame.encode p = some f)
    (hf : f = s.decoder.stream ++ received ++ more) (hmore : more ≠ []) (pool : Pool σ) :
    ∃ d, (read caller held received s).run pool = (([], { s with decoder := d }), pool) ∧
      d.Valid ∧ d.stream = s.decoder.stream ++ received := by
  obtain ⟨d, hcomplete, hvalid, hstream⟩ := complete_of_part (hd.feed received) hframe
    (by rw [Decoder.stream_feed]; exact hf) hmore
  rw [Decoder.stream_feed] at hstream
  refine ⟨d, ?_, hvalid, hstream⟩
  simp only [read, hlive, hcomplete]
  rfl

theorem run_read_of_whole {received f : Bytes} {m : Message} (hlive : s.live = true)
    (hd : s.decoder.Valid) (hframe : m.frame = some f) (hf : s.decoder.stream ++ received = f) :
    read caller held received s = serve caller held [m] { s with decoder := {} } := by
  have hcomplete := complete_of_whole (hd.feed received) hframe
    (by rw [Decoder.stream_feed]; exact hf)
  simp only [read, hlive, hcomplete]
  rfl

/-- A frame that is read in pieces is served as one message when the last piece has come. -/
theorem readAll_frame {m : Message} {f : Bytes} (hframe : m.frame = some f)
    (hlive : s.live = true) (pool : Pool σ) {pieces : List Bytes} (hne : pieces ≠ [])
    (hpieces : ∀ b ∈ pieces, b ≠ []) (hd : s.decoder.Valid)
    (hf : s.decoder.stream ++ pieces.flatten = f) :
    (readAll caller held pieces s).run pool =
      (serve caller held [m] { s with decoder := {} }).run pool := by
  induction pieces generalizing s with
  | nil => exact absurd rfl hne
  | cons received rest ih =>
    rw [List.flatten_cons, ← List.append_assoc] at hf
    cases rest with
    | nil =>
      rw [List.flatten_nil, List.append_nil] at hf
      simp only [readAll, run_read_of_whole hlive hd hframe hf, StateT.run_bind, pure_bind,
        StateT.run_pure, List.append_nil]
      exact bind_pure _
    | cons next rest =>
      have hmore : (next :: rest).flatten ≠ [] := by
        have := hpieces next (by simp)
        rw [List.flatten_cons]
        exact fun h => this (List.append_eq_nil_iff.mp h).1
      obtain ⟨d, hrun, hvalid, hstream⟩ :=
        run_read_of_part caller held hlive hd hframe hf.symm hmore pool
      have hrest := ih (s := { s with decoder := d }) hlive (by simp)
        (fun b hb => hpieces b (List.mem_cons_of_mem _ hb)) hvalid (by rw [hstream]; exact hf)
      rw [readAll, StateT.run_bind, hrun]
      show (readAll caller held (next :: rest) { s with decoder := d } >>= pure).run pool = _
      rw [bind_pure]
      exact hrest

/-- A connection that is not served any more takes nothing. -/
theorem readAll_of_not_live (hlive : s.live = false) (pieces : List Bytes) :
    (readAll caller held pieces s : StateM (Pool σ) _) = pure ([], s) := by
  induction pieces with
  | nil => rfl
  | cons received rest ih =>
    have hread : (read caller held received s : StateM (Pool σ) _) = pure ([], s) := by
      simp only [read, hlive]
      rfl
    simp only [readAll, hread, pure_bind, ih, List.append_nil]

/-- The stand-ins for the handlers of a call, made when those that are not held any more have been
forgotten. -/
def standInsFor (held : Handler → Bool) (objects : List UInt32) (s : ServerEnd) :
    List Handler × ServerEnd := (s.purge held).proxiesFor objects

/-- A call hands one transaction to the workers, with a stand-in for each handler. -/
theorem run_serve_call (caller : Caller) (held : σ → Handler → Bool) (code : UInt32) (data : Bytes)
    {objects : List UInt32} {pool : Pool σ} {standIns : List Handler} {s' : ServerEnd}
    (h : s.standInsFor (held pool.dispatcher.operator) objects = (standIns, s')) :
    ∃ written live, (serve caller held [.call code data objects] s).run pool =
      ((written, { s' with live := live }),
        ((Pool.submit caller code { data := data, objects := standIns }).run pool).2) := by
  rw [standInsFor] at h
  simp only [serve, StateT.run_bind, StateT.run_get, pure_bind, h]
  generalize (Pool.submit caller code { data := data, objects := standIns }).run pool = answer
  obtain ⟨_ | envelope, pool'⟩ := answer
  · exact ⟨[], false, rfl⟩
  · show ∃ written live, StateT.run (if (Message.reply envelope.data).frame.isNone = true then _
      else _) pool' = _
    split
    · exact ⟨[], false, rfl⟩
    · exact ⟨_, s'.live, rfl⟩

end Socket.ServerEnd

/-! ## A call over a connection -/

namespace Gateway

open Socket.ServerEnd (readAll readAll_frame readAll_of_not_live run_serve_call readLength)

variable {τ : Type} [Transport τ] {n : Nat} {c : ClientEnd} {s : ServerEnd} {g : Gateway τ}

/-- The stand-ins that the dispatcher gets for the handlers of a call over a connection; none if the
call does not get through. -/
def delivered (n : Nat) (code : UInt32) (envelope : Envelope) (g : Gateway τ) :
    Option (List Handler) :=
  match g.clientEnds.get? n, g.serverEnds.get? n with
  | some c, some s =>
    let objects := (c.numbers envelope.objects).1
    if c.closed ∨ (Message.call code envelope.data objects).frame.isNone ∨ !s.live ∨
        g.pool.stopped then none
    else some (s.standInsFor (held g.service) objects).1
  | _, _ => none

/-- A connection that is served gets the message that the bytes are the frame of. -/
theorem run_write {bytes : Bytes} {m : Message} (hs : g.serverEnds.get? n = some s)
    (hframe : m.frame = some bytes) (hclean : s.decoder = {}) (hlive : s.live = true) :
    (write n bytes).run g =
      let served := (Socket.ServerEnd.serve s.peer held [m] s).run g.pool
      (served.1.1, { g with pool := served.2, serverEnds := g.serverEnds.set n served.1.2 }) := by
  have hflat : (Bytes.chunks readLength bytes).flatten = bytes :=
    Bytes.flatten_chunks (by decide) bytes
  have hne : Bytes.chunks readLength bytes ≠ [] := fun hnil => by
    rw [hnil] at hflat
    exact Frame.encode_ne_nil hframe hflat.symm
  have hread :
      (s.receive s.peer held bytes : StateM (Pool (Service τ)) _).run g.pool =
        (Socket.ServerEnd.serve s.peer held [m] s).run g.pool := by
    have hvalid : s.decoder.Valid := hclean ▸ Frame.Decoder.valid_new []
    have hstream : s.decoder.stream ++ (Bytes.chunks readLength bytes).flatten = bytes := by
      rw [hclean, hflat]
      rfl
    have hsame : { s with decoder := {} } = s := by
      cases s
      cases hclean
      rfl
    rw [Socket.ServerEnd.receive, readAll_frame hframe hlive g.pool hne
      (fun b hb => Bytes.ne_nil_of_mem_chunksUpTo (by decide) hb) hvalid hstream, hsame]
  show write n bytes g = _
  simp only [write, hs, hread]
  rfl

/-- A connection that is not served any more does not get anything. -/
theorem run_write_of_not_live (bytes : Bytes) (hs : g.serverEnds.get? n = some s)
    (hlive : s.live = false) : (write n bytes).run g = ([], g) := by
  have hread :
      (s.receive s.peer held bytes : StateM (Pool (Service τ)) _).run g.pool =
        (([], s), g.pool) := by
    rw [Socket.ServerEnd.receive, readAll_of_not_live hlive]
    rfl
  show write n bytes g = _
  simp only [write, hs, hread, Table.set_get? hs]

/-- Workers that have been stopped take nothing. -/
theorem pool_submit_of_stopped {σ : Type} [Operator σ] {p : Pool σ} {caller : Caller}
    {code : UInt32} {envelope : Envelope} (h : p.stopped = true) :
    ((Pool.submit caller code envelope).run p).2 = p := by
  show (Pool.submit caller code envelope p).2 = p
  rw [Pool.submit, if_pos h]

omit [Transport τ] in
theorem delivered_eq (hc : g.clientEnds.get? n = some c) (hs : g.serverEnds.get? n = some s)
    (code : UInt32) (envelope : Envelope) : delivered n code envelope g =
      if c.closed ∨ (Message.call code envelope.data (c.numbers envelope.objects).1).frame.isNone ∨
          !s.live ∨ g.pool.stopped then none
      else some (s.standInsFor (held g.service) (c.numbers envelope.objects).1).1 := by
  simp only [delivered, hc, hs]

/-- What the other end of a connection makes of a call that fits into a frame. -/
structure Written (n : Nat) (code : UInt32) (envelope : Envelope) (g : Gateway τ) (c : ClientEnd)
    (s s' : ServerEnd) (pool : Pool (Service τ)) : Prop where
  server : ∃ live, s' = { (s.standInsFor (held g.service)
      (c.numbers envelope.objects).1).2 with live := live } ∨
    s' = { s with live := live } ∧ delivered n code envelope g = none
  dispatched : pool = match delivered n code envelope g with
    | some standIns => ((Pool.submit s.peer code
        { data := envelope.data, objects := standIns }).run g.pool).2
    | none => g.pool

theorem written (hc : g.clientEnds.get? n = some c) (hs : g.serverEnds.get? n = some s)
    (hclean : s.decoder = {}) (hclosed : c.closed = false) {code : UInt32} {envelope : Envelope}
    {bytes : Bytes} (hframe : (Message.call code envelope.data
      (c.numbers envelope.objects).1).frame = some bytes) (clientEnds : Table Nat ClientEnd) :
    ∃ messages s' pool, (write n bytes).run { g with clientEnds := clientEnds } =
        (messages, { g with
          pool := pool, clientEnds := clientEnds, serverEnds := g.serverEnds.set n s' }) ∧
      Written n code envelope g c s s' pool := by
  have hdelivered := delivered_eq hc hs code envelope
  let g' : Gateway τ := { g with clientEnds := clientEnds }
  have hs' : g'.serverEnds.get? n = some s := hs
  cases hlive : s.live with
  | false =>
    have hnone : delivered n code envelope g = none := by
      rw [hdelivered, if_pos (.inr (.inr (.inl (by simp [hlive]))))]
    refine ⟨[], s, g.pool, ?_, ⟨s.live, .inr ⟨rfl, hnone⟩⟩, by rw [hnone]⟩
    rw [run_write_of_not_live bytes hs' hlive, Table.set_get? hs]
  | true =>
    have hstand : s.standInsFor (held g.pool.dispatcher.operator) (c.numbers envelope.objects).1 =
        (_, _) := rfl
    obtain ⟨messages, live, hserve⟩ :=
      run_serve_call s.peer held code envelope.data hstand
    have hrun := run_write hs' hframe hclean hlive
    rw [hserve] at hrun
    refine ⟨messages, _, _, hrun, ⟨live, .inl rfl⟩, ?_⟩
    cases hstopped : g.pool.stopped with
    | true =>
      have hnone : delivered n code envelope g = none := by
        rw [hdelivered, if_pos (.inr (.inr (.inr hstopped)))]
      rw [hnone]
      exact pool_submit_of_stopped hstopped
    | false =>
      rw [hdelivered, if_neg (by simp [hclosed, hframe, hlive, hstopped])]
      rfl

/-- The client's end when a call has been made over it, but for whether the other end is gone. Who
waits for the answer has read the events that came before. -/
def calledEnd (code : UInt32) (envelope : Envelope) (c : ClientEnd) : ClientEnd :=
  let (objects, numbered) := c.numbers envelope.objects
  if c.closed then c
  else if (Message.call code envelope.data objects).frame.isNone then numbered
  else numbered.readEvents

/-- What a call over a connection makes of a gateway and of the two ends of the connection. -/
structure Transacted (n : Nat) (code : UInt32) (envelope : Envelope) (g g' : Gateway τ)
    (c : ClientEnd) (s : ServerEnd) : Prop where
  /-- The client has given numbers to the handlers, unless it knows that the other end is gone. -/
  client : ∃ closed, g'.clientEnds.get? n =
    some { calledEnd code envelope c with closed := closed }
  /-- The other end has made stand-ins for them if the call has come so far, and the dispatcher has
  taken the call with those that were delivered. -/
  server : ∃ s', g'.serverEnds.get? n = some s' ∧ Written n code envelope g c s s' g'.pool
  /-- No handler has taken an event. -/
  taken : g'.taken = g.taken

/-- What a call over a connection does to its two ends and to the dispatcher. -/
theorem transacted (hc : g.clientEnds.get? n = some c) (hs : g.serverEnds.get? n = some s)
    (hclean : s.decoder = {}) (code : UInt32) (envelope : Envelope) :
    Transacted n code envelope g ((transactOver n code envelope).run g).2 c s := by
  have hdelivered := delivered_eq hc hs code envelope
  have hunwritten (hnone : delivered n code envelope g = none) :
      Written n code envelope g c s s g.pool :=
    ⟨⟨s.live, .inr ⟨rfl, hnone⟩⟩, by rw [hnone]⟩
  cases hclosed : c.closed with
  | true =>
    have hrun : (transactOver n code envelope).run g = (.error .disconnected, g) := by
      simp only [transactOver, StateT.run_bind, StateT.run_get, pure_bind, hc, hclosed, if_true]
      rfl
    have hcalled : calledEnd code envelope c = c := if_pos hclosed
    rw [hrun]
    refine ⟨⟨c.closed, ?_⟩, ⟨s, hs, hunwritten (by rw [hdelivered, if_pos (.inl hclosed)])⟩, rfl⟩
    rw [hcalled]
    exact hc
  | false =>
    have hopen : ¬ c.closed = true := by simp [hclosed]
    simp only [transactOver, StateT.run_bind, StateT.run_get, StateT.run_modify, pure_bind, hc,
      hclosed, Bool.false_eq_true, if_false]
    cases hframe : (Message.call code envelope.data (c.numbers envelope.objects).1).frame with
    | none =>
      have hcalled : calledEnd code envelope c = (c.numbers envelope.objects).2 := by
        simp only [calledEnd, if_neg hopen, hframe, Option.isNone_none, if_true]
      refine ⟨⟨(c.numbers envelope.objects).2.closed, ?_⟩, ⟨s, hs, hunwritten ?_⟩, rfl⟩
      · rw [hcalled]
        exact Table.get?_set_self _ _ _
      · rw [hdelivered, hframe, if_pos (.inr (.inl rfl))]
    | some bytes =>
      have hcalled : calledEnd code envelope c = (c.numbers envelope.objects).2.readEvents := by
        simp only [calledEnd, if_neg hopen, hframe, Option.isNone_some, Bool.false_eq_true,
          if_false]
      obtain ⟨messages, s', pool, hwrite, hwritten⟩ := written hc hs hclean hclosed hframe
        (g.clientEnds.set n (c.numbers envelope.objects).2)
      have hserver : (g.serverEnds.set n s').get? n = some s' := Table.get?_set_self _ _ _
      simp only [StateT.run_bind, hwrite]
      dsimp only [bind]
      cases firstReply messages with
      | some data =>
        refine ⟨⟨(c.numbers envelope.objects).2.readEvents.closed, ?_⟩, ⟨s', hserver, hwritten⟩,
          rfl⟩
        rw [hcalled]
        exact Table.get?_set_self _ _ _
      | none =>
        refine ⟨⟨true, ?_⟩, ⟨s', hserver, hwritten⟩, rfl⟩
        rw [hcalled]
        exact Table.get?_set_self _ _ _

end Gateway

end AppletGateway
