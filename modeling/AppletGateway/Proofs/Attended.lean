import AppletGateway.Device.Channel
import AppletGateway.Proofs.Packing
import AppletGateway.Proofs.Streams

/-!
# The simulated co-processor with an operator at it

Faults do not wait for an operation to end: the device can be taken off line, told to refuse a
request or to send an unreadable frame at any moment. It looks at these settings when the link
connects and when a message arrives. So an `Attended` channel has an agenda, and before each of
these calls the operator does what comes next on it; with the agenda of a run chosen freely, any
single request of any operation can meet any fault.

Results:
* `Attended.Disturbs.sameSessions`: whatever the operator does, the sessions stay as they are.
* `Channel.send_part`, `Channel.send_whole`: a message that ends a request makes the device serve
  it, and no other message makes it serve anything.
* `Channel.receive_cases`: bytes are received in the order in which they were sent, until none is
  left.
-/

namespace AppletGateway

open AppletGateway.Frame (Frames Decoder)

/-! ## The operator -/

/-- Something that an operator does to the device. -/
inductive Control
  | install (app : String)
  | inject (app : String) (data : Bytes)
  | offline (on : Bool)
  | refuse (code : UInt32)
  | garble
  deriving DecidableEq

/-- The device after the operator has done something. -/
def Control.apply : Control → Device → Device
  | install app, d => d.install app
  | inject app data, d => d.inject app data
  | offline on, d => { d with offline := on }
  | refuse code, d => { d with refuseNext := some code }
  | garble, d => { d with garbleNext := true }

/-- A simulated co-processor, and what its operator is going to do before each attempt to connect
and before each message. -/
structure Attended where
  channel : Channel
  agenda : List (List Control) := []
  deriving Inhabited

namespace Attended

/-- The device of the channel. -/
abbrev device (a : Attended) : Device := a.channel.device

/-- The channel with a device in some state. -/
def withDevice (a : Attended) (d : Device) : Attended :=
  { a with channel := { a.channel with device := d } }

/-- The operator takes a turn. -/
def attend (a : Attended) : Attended :=
  { a.withDevice ((a.agenda.headD []).foldl (fun d c => c.apply d) a.device) with
    agenda := a.agenda.tail }

instance : Transport Attended where
  connect client a :=
    let (answer, c) := Transport.connect client a.attend.channel
    (answer, { a.attend with channel := c })
  send message a :=
    let (taken, c) := Transport.send message a.attend.channel
    (taken, { a.attend with channel := c })
  receive room a :=
    let (received, c) := Transport.receive room a.channel
    (received, { a with channel := c })
  available a := Transport.available a.channel
  disconnect a := { a with channel := Transport.disconnect a.channel }
  backlog a := Transport.backlog a.channel

/-- The channel `b` is `a` after some turns of the operator. -/
inductive Disturbs : (a b : Attended) → Prop
  | refl (a : Attended) : Disturbs a a
  | step {a b : Attended} (rest : Disturbs a.attend b) : Disturbs a b

theorem Disturbs.trans {a b c : Attended} (h : Disturbs a b) (h' : Disturbs b c) :
    Disturbs a c := by
  induction h with
  | refl => exact h'
  | step _ ih => exact .step (ih h')

/-- With nothing on the agenda nothing is done. -/
theorem Disturbs.eq_of_idle {a b : Attended} (h : Disturbs a b) (hi : a.agenda = []) : b = a := by
  have hattend : ∀ {a : Attended}, a.agenda = [] → a.attend = a := by
    rintro ⟨c, agenda⟩ rfl
    rfl
  induction h with
  | refl => rfl
  | step _ ih =>
    rw [hattend hi] at ih
    exact ih hi

end Attended

/-! ## What the operator cannot change -/

/-- Two states of the device with the same sessions and the same requests behind them. -/
structure Device.SameSessions (d d' : Device) : Prop where
  sessions : d'.sessions = d.sessions
  subscribed : d'.subscribed = d.subscribed
  provisioning : d'.provisioning = d.provisioning
  nextHandle : d'.nextHandle = d.nextHandle
  received : d'.received = d.received

namespace Device.SameSessions

theorem refl (d : Device) : SameSessions d d := ⟨rfl, rfl, rfl, rfl, rfl⟩

theorem trans {d d' d'' : Device} (h : SameSessions d d') (h' : SameSessions d' d'') :
    SameSessions d d'' :=
  ⟨h'.sessions.trans h.sessions, h'.subscribed.trans h.subscribed,
    h'.provisioning.trans h.provisioning, h'.nextHandle.trans h.nextHandle,
    h'.received.trans h.received⟩

theorem apply (c : Control) (d : Device) : SameSessions d (c.apply d) := by
  cases c <;> exact ⟨rfl, rfl, rfl, rfl, rfl⟩

theorem foldl_apply (cs : List Control) (d : Device) :
    SameSessions d (cs.foldl (fun d c => c.apply d) d) := by
  induction cs generalizing d with
  | nil => exact refl d
  | cons c cs ih => exact (apply c d).trans (ih _)

end Device.SameSessions

/-- Whatever the operator does, the sessions stay as they are. -/
theorem Attended.Disturbs.sameSessions {a b : Attended} (h : Disturbs a b) :
    a.device.SameSessions b.device := by
  induction h with
  | refl => exact .refl _
  | @step a _ _ ih => exact (Device.SameSessions.foldl_apply (a.agenda.headD []) a.device).trans ih

/-- Only the device and the agenda change when the operator takes a turn. -/
theorem Attended.Disturbs.channel_eq {a b : Attended} (h : Disturbs a b) :
    b.channel = { a.channel with device := b.device } := by
  induction h with
  | refl => rfl
  | step _ ih => exact ih

namespace Channel

/-! ## Messages to the device -/

/-- The channel with the requests in its inbox in some state. -/
def withInbox (inbox : Decoder) (c : Channel) : Channel := { c with inbox := inbox }

/-- An inbox without a complete request leaves the channel as it is. -/
theorem serveInbox_of_none {c : Channel} {inbox : Decoder} (h : c.inbox.next = (.ok none, inbox))
    (limit : Nat) : serveInbox (limit + 1) c = c.withInbox inbox := by
  simp only [serveInbox, h]
  rfl

theorem serveInbox_of_some {c : Channel} {p : Bytes} {inbox : Decoder}
    (h : c.inbox.next = (.ok (some p), inbox)) (limit : Nat) :
    serveInbox (limit + 1) c = serveInbox limit ((c.withInbox inbox).serve p) := by
  simp only [serveInbox, h]
  rfl

/-- A message that can be sent is fed to the inbox, and what is complete then is served. -/
theorem send_of_reachable {c : Channel} {m : Bytes} (hc : c.connected)
    (ho : c.device.offline = false) (hm : m.length ≤ maxMessage) :
    c.send m = (.ok m.length,
      serveInbox ((c.inbox.feed m).buffered + 1) (c.withInbox (c.inbox.feed m))) := by
  obtain ⟨device, inbox, outbox, connected⟩ := c
  obtain rfl : connected = true := hc
  have htake : m.take maxMessage = m := List.take_of_length_le hm
  have ho : device.offline = false := ho
  simp [send, ho, htake, withInbox]

/-- A message that leaves the request incomplete is kept. -/
theorem send_part {c : Channel} {p f s m more : Bytes} (hc : c.connected)
    (ho : c.device.offline = false) (hv : c.inbox.Valid) (hs : c.inbox.stream = s)
    (hp : Frame.encode p = some f) (hf : f = s ++ m ++ more) (hmore : more ≠ [])
    (hm : m.length ≤ maxMessage) :
    ∃ inbox : Decoder, inbox.Valid ∧ inbox.stream = s ++ m ∧
      c.send m = (.ok m.length, c.withInbox inbox) := by
  obtain ⟨inbox, hn, hv', hs'⟩ := Decoder.next_of_part hp hf hmore
  refine ⟨inbox, hv', hs', ?_⟩
  have hnext : (c.inbox.feed m).next = (.ok none, inbox) := by
    rw [Decoder.next_eq_stream (hv.feed m), Decoder.stream_feed, hs, hn]
  rw [send_of_reachable hc ho hm, serveInbox_of_none hnext]
  rfl

/-- A message that completes the request makes the device serve it. -/
theorem send_whole {c : Channel} {p f s m : Bytes} (hc : c.connected)
    (ho : c.device.offline = false) (hv : c.inbox.Valid) (hs : c.inbox.stream = s)
    (hp : Frame.encode p = some f) (hf : f = s ++ m) (hm : m.length ≤ maxMessage) :
    c.send m = (.ok m.length, (c.withInbox {}).serve p) := by
  have hnext : (c.inbox.feed m).next = (.ok (some p), {}) :=
    Decoder.next_of_whole (hv.feed m) hp (by rw [Decoder.stream_feed, hs, hf])
  have hinbox : ((c.withInbox {}).serve p).inbox = {} := by
    unfold serve
    split <;> rfl
  have hlast (limit : Nat) :
      serveInbox limit ((c.withInbox {}).serve p) = (c.withInbox {}).serve p := by
    cases limit with
    | zero => rfl
    | succ limit =>
      generalize (c.withInbox {}).serve p = c' at hinbox
      have hn : c'.inbox.next = (.ok none, c'.inbox) := by
        rw [hinbox]
        rfl
      exact serveInbox_of_none hn limit
  rw [send_of_reachable hc ho hm, serveInbox_of_some hnext]
  exact congrArg (Prod.mk _) (hlast _)

/-! ## Messages from the device -/

/-- The bytes that the device has still to hand over, with those of the events raised. -/
def toCome (c : Channel) : Bytes := c.outbox ++ c.device.pending.flatMap fun e => frameOf (.event e)

theorem length_toCome (c : Channel) : c.toCome.length = c.underway := List.length_append

/-- If no message is waiting on a connected channel, nothing is to come. -/
theorem toCome_of_not_available {c : Channel} (hc : c.connected) (h : ¬ c.available) :
    c.toCome = [] := by
  obtain ⟨device, inbox, outbox, connected⟩ := c
  obtain rfl : connected = true := hc
  cases outbox with
  | cons _ _ => simp [available] at h
  | nil =>
    cases hp : device.pending with
    | cons _ _ => simp [available, hp] at h
    | nil => simp [toCome, hp]

/-- The channel `c'` is `c` after some of what it had to hand over has been received. -/
def Drains (c c' : Channel) : Prop :=
  ∃ outbox pending,
    c' = { c with outbox := outbox, device := { c.device with pending := pending } } ∧
    (pending = c.device.pending ∨ pending = [])

theorem Drains.refl (c : Channel) : Drains c c := ⟨c.outbox, c.device.pending, rfl, .inl rfl⟩

theorem Drains.trans {c c' c'' : Channel} (h : Drains c c') (h' : Drains c' c'') :
    Drains c c'' := by
  obtain ⟨_, _, rfl, hp⟩ := h
  obtain ⟨outbox, pending, rfl, hp'⟩ := h'
  refine ⟨outbox, pending, rfl, ?_⟩
  rcases hp' with rfl | rfl
  · exact hp
  · exact .inr rfl

theorem Drains.connected {c c' : Channel} (h : Drains c c') : c'.connected = c.connected := by
  obtain ⟨_, _, rfl, _⟩ := h
  rfl

theorem drains_flushEvents (c : Channel) : Drains c c.flushEvents := ⟨_, [], rfl, .inr rfl⟩

theorem toCome_flushEvents (c : Channel) : c.flushEvents.toCome = c.toCome :=
  List.append_nil _

/-- Bytes are received in the order in which they were sent, until none is left. -/
theorem receive_cases {c : Channel} {room : Nat} (hc : c.connected) (hr : 0 < room) :
    ∃ c', Drains c c' ∧
      ((c.toCome = [] ∧ c.receive room = (.error .idle, c') ∧ c'.toCome = []) ∨
        ∃ b, b ≠ [] ∧ b.length ≤ room ∧ c.receive room = (.ok b, c') ∧
          c.toCome = b ++ c'.toCome) := by
  have hout : c.flushEvents.outbox = c.toCome := rfl
  by_cases h : c.toCome = []
  · refine ⟨c.flushEvents, drains_flushEvents c, .inl ⟨h, ?_, by rw [toCome_flushEvents, h]⟩⟩
    simp [receive, hc, hout, h]
  · let n := min room maxMessage
    have hn : 0 < n := by
      simp only [n, maxMessage]
      omega
    let c' : Channel := { c.flushEvents with outbox := c.toCome.drop n }
    refine ⟨c', (drains_flushEvents c).trans ⟨c.toCome.drop n, [], rfl, .inr rfl⟩, .inr ?_⟩
    refine ⟨c.toCome.take n, ?_, ?_, ?_, ?_⟩
    · intro ht
      rcases List.take_eq_nil_iff.mp ht with h0 | h0
      · omega
      · exact h h0
    · rw [List.length_take]
      simp only [n]
      omega
    · simp [receive, hc, hout, h, c', n]
    · show c.toCome = c.toCome.take n ++ (c.toCome.drop n ++ [])
      rw [List.append_nil, List.take_append_drop]

/-- A message that is received leaves fewer bytes to come. -/
theorem underway_receive_lt {c : Channel} {room : Nat} {r : Received}
    (hr : (Transport.receive room c).1 = some r) (hcount : r.count ≠ 0) :
    (Transport.receive room c).2.underway < c.underway := by
  obtain ⟨b, hb, rfl⟩ := Option.map_eq_some_iff.mp hr
  have hlength : b.length ≠ 0 := hcount
  by_cases hc : c.connected = true
  · by_cases hroom : 0 < room
    · obtain ⟨c', -, hidle | ⟨b', hne, -, hreceive, htoCome⟩⟩ := receive_cases hc hroom
      · rw [hidle.2.1] at hb
        cases hb
      · have hafter : (Transport.receive room c).2 = c' := congrArg Prod.snd hreceive
        have := List.length_pos_iff.mpr hne
        rw [hafter, ← length_toCome, ← length_toCome, htoCome, List.length_append]
        omega
    · -- Into a buffer without room nothing is received.
      obtain rfl : room = 0 := by omega
      by_cases hout : c.flushEvents.outbox = []
      · simp [receive, hc, hout, Except.toOption] at hb
      · have hnil : b = [] := by
          simpa [receive, hc, hout, Except.toOption, eq_comm] using hb
        exact absurd (congrArg List.length hnil) hlength
  · simp [receive, hc, Except.toOption] at hb

instance : Transport.Bounded Channel where
  givesAtMost _ _ := Transport.givesAtMost_of_lt (fun _ _ => underway_receive_lt) (Nat.le_refl _)

end Channel

end AppletGateway
