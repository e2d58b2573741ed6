import AppletGateway.Proofs.Exchange
import AppletGateway.Proofs.Handles

/-!
# How the gateway stands with the device on an app

For one app the device holds a session, which may be a shared one, and a subscription to its events:
the seat of the app. A request changes the seat of the app that it is about only, and only if it is
answered as done.

Of the link an app has to know whether it is connected, under which epoch, and which requests have
reached the device. An exchange either leaves all of this as it was, or the device has taken the
request and has answered it, or the connection was lost. With a connection every seat goes.

Results:
* `Device.seat_handle`: what a request does to the seat of an app.
* `Link.standing_exchange`: what an exchange does to the standing of an app.
* `Link.standing_pollEvents`, `Link.standing_connect`: the same for the other operations.
-/

namespace AppletGateway

open Packed (pack)

/-! ## Seats -/

/-- What the device holds for an app. -/
structure Seat where
  /-- The session, if there is one: whether it is shared. -/
  session : Option Bool
  subscribed : Bool
  deriving DecidableEq

namespace Seat

/-- The seat of an app without a session. -/
def vacant : Seat := ⟨none, false⟩

/-- An exclusive session whose events are subscribed to. -/
def live : Seat := ⟨some false, true⟩

/-- What the answer to a request does to the seat of the app that it is about. -/
inductive Answered (app : String) (a : Seat) : Applet.Request → Applet.Reply → Seat → Prop
  /-- Nothing has changed; a request that could have changed the seat has failed then. -/
  | same {q : Applet.Request} {reply : Applet.Reply}
    (h : q.seats = true → ∃ code, reply = .failed code) : Answered app a q reply a
  | opened (shared : Bool) :
    Answered app a (.openSession app shared) .done { a with session := some shared }
  | closed {q : Applet.Request} (hq : q = .closeSession app ∨ q = .uninstall app) :
    Answered app a q .done vacant
  /-- Only an exclusive session can be subscribed to. -/
  | subscribed (h : a.session = some false) :
    Answered app a (.subscribe app) .done { a with subscribed := true }
  | unsubscribed : Answered app a (.unsubscribe app) .done { a with subscribed := false }

end Seat

namespace Device

/-- What the device holds for an app. -/
def seat (d : Device) (app : String) : Seat := ⟨d.sessions.get? app, d.isSubscribed app⟩

theorem SameSessions.seat {d d' : Device} (h : d.SameSessions d') (app : String) :
    d'.seat app = d.seat app := by
  rw [Device.seat, isSubscribed, h.sessions, h.subscribed]
  rfl

theorem Closed.seat {d : Device} (h : d.Closed) (app : String) : d.seat app = .vacant := by
  rw [Device.seat, isSubscribed, h.sessions, h.subscribed]
  rfl

/-! ### Changes of the seats -/

theorem seat_open (d : Device) (a app : String) (shared : Bool) :
    Device.seat { d with sessions := d.sessions.set a shared } app =
      if a = app then { d.seat app with session := some shared } else d.seat app := by
  unfold seat isSubscribed
  rw [Table.get?_set]
  split <;> rfl

theorem seat_close (d : Device) (a app : String) :
    (d.close a).seat app = if a = app then .vacant else d.seat app := by
  unfold seat isSubscribed close
  rw [Table.get?_erase]
  split
  · rename_i h
    simp [h, Seat.vacant]
  · rename_i h
    simp [Ne.symm h]

theorem seat_subscribe (d : Device) (a app : String) :
    Device.seat { d with subscribed := d.subscribed.insert a } app =
      if a = app then { d.seat app with subscribed := true } else d.seat app := by
  unfold seat isSubscribed
  split
  · rename_i h
    simp [h]
  · rename_i h
    simp [Ne.symm h]

theorem seat_unsubscribe (d : Device) (a app : String) :
    Device.seat { d with subscribed := d.subscribed.filter (· ≠ a) } app =
      if a = app then { d.seat app with subscribed := false } else d.seat app := by
  unfold seat isSubscribed
  split
  · rename_i h
    simp [h]
  · rename_i h
    simp [Ne.symm h]

/-- What a request does to the seat of an app: only the app that it is about is concerned. -/
theorem seat_handle (d : Device) (q : Applet.Request) (app : String) :
    if q.app = app then (d.seat app).Answered app q (d.handle q).1 ((d.handle q).2.seat app)
    else (d.handle q).2.seat app = d.seat app := by
  let P (reply : Applet.Reply) (d' : Device) : Prop :=
    if q.app = app then (d.seat app).Answered app q reply (d'.seat app)
    else d'.seat app = d.seat app
  have hsame {reply : Applet.Reply} {d' : Device} (hseat : d'.seat app = d.seat app)
      (h : q.seats = true → ∃ code, reply = .failed code) : P reply d' := by
    show if q.app = app then _ else _
    rw [hseat]
    split
    · exact .same h
    · rfl
  have hchanged {a : String} {reply : Applet.Reply} {d' : Device} {seat : Seat} (ha : q.app = a)
      (hseat : d'.seat app = if a = app then seat else d.seat app)
      (h : a = app → (d.seat app).Answered app q reply seat) : P reply d' := by
    show if q.app = app then _ else _
    rw [hseat, ha]
    split
    · rename_i happ
      exact h happ
    · rfl
  refine handle_cases (P := P) q (fun code _ => hsame rfl fun _ => ⟨code, rfl⟩) fun _ => ?_
  cases hcalm : q.seats with
  | false =>
    have hkeeps : Keeps (fun d' => d'.seat app = d.seat app) (answer q) :=
      keeps_answer fun d₁ d₂ hs h => by
        obtain ⟨hsessions, hsubscribed⟩ := hs.seats hcalm
        rw [← h, seat, seat, isSubscribed, isSubscribed, hsessions, hsubscribed]
    refine (hkeeps { d with received := d.received ++ [q] } rfl).mono fun _ _ h => hsame h ?_
    rw [hcalm]
    exact nofun
  | true =>
    cases q with
    | openSession a shared =>
      simp only [answer, ends_bind, ends_get, andThen_ok, ends_ite]
      split
      · exact hsame rfl fun _ => ⟨_, rfl⟩
      · refine hchanged rfl (seat_open _ a app shared) fun h => ?_
        exact h ▸ .opened shared
    | closeSession a =>
      refine hchanged rfl (seat_close _ a app) fun h => ?_
      exact h ▸ .closed (.inl rfl)
    | uninstall a =>
      simp only [answer, ends_bind, ends_get, andThen_ok, ends_ite]
      split
      · exact hsame rfl fun _ => ⟨_, rfl⟩
      · refine hchanged rfl (seat_close _ a app) fun h => ?_
        exact h ▸ .closed (.inr rfl)
    | subscribe a =>
      simp only [answer, ends_bind, ends_requireOpen]
      split
      · rename_i shared hopen
        cases shared with
        | true => exact hsame rfl fun _ => ⟨_, rfl⟩
        | false =>
          refine hchanged rfl (seat_subscribe _ a app) fun h => ?_
          subst h
          exact .subscribed hopen
      · exact hsame rfl fun _ => ⟨_, rfl⟩
    | unsubscribe a =>
      refine hchanged rfl (seat_unsubscribe _ a app) fun h => ?_
      exact h ▸ .unsubscribed
    | _ => cases hcalm

end Device

/-! ## Standings -/

/-- What the link has to do with an app. -/
structure Standing where
  connected : Bool
  epoch : Nat
  seat : Seat
  /-- The requests that have reached the device, oldest first. -/
  received : List Applet.Request

namespace Standing

/-- The connection was lost: the seat is gone, and the epoch has moved on if there is a new one. -/
structure Lost (a a' : Standing) : Prop where
  seat : a'.seat = .vacant
  epoch : a'.epoch = if a'.connected then a.epoch + 1 else a.epoch

/-- Nothing has reached the device: the standing is as it was, or the connection was lost. -/
def Drifted (a a' : Standing) : Prop := a' = a ∨ (a.Lost a' ∧ a'.received = a.received)

/-- The ways in which an exchange can end for an app. -/
inductive Exchanged (app : String) (q : Applet.Request) (a : Standing) :
    Except LinkError Applet.Reply → Standing → Prop
  /-- Nothing was sent. -/
  | unsent (e : LinkError) (h : a.connected = false ∨ Frame.encode (pack q) = none) :
    Exchanged app q a (.error e) a
  /-- The exchange broke off; the device may have taken the request. -/
  | lost {a' : Standing} (e : LinkError) (hlost : a.Lost a')
    (hr : a'.received = a.received ∨ a'.received = a.received ++ [q]) :
    Exchanged app q a (.error e) a'
  /-- The device has answered. -/
  | served {reply : Applet.Reply} {seat : Seat} (hc : a.connected = true)
    (hseat : if q.app = app then a.seat.Answered app q reply seat else seat = a.seat) :
    Exchanged app q a (.ok reply)
      { a with seat := seat, received := a.received ++ [q] }

end Standing

namespace Link

variable {l l' : Link Attended}

/-- The standing of an app. -/
def standing (l : Link Attended) (app : String) : Standing :=
  ⟨l.connected, l.epoch, l.transport.device.seat app, l.transport.device.received⟩

theorem standing_of_sameSessions (hc : l'.connected = l.connected) (he : l'.epoch = l.epoch)
    (hd : l.transport.device.SameSessions l'.transport.device) (app : String) :
    l'.standing app = l.standing app := by
  rw [standing, hc, he, hd.seat, hd.received]
  rfl

theorem StartedOver.lost {d : Device} (h : StartedOver l.epoch d l') (app : String) :
    (l.standing app).Lost (l'.standing app) :=
  ⟨h.closed.seat app, h.epoch⟩

/-- What an exchange does to the standing of an app. -/
theorem standing_exchange (h : Quiet l) (q : Applet.Request) (app : String) :
    (l.standing app).Exchanged app q ((exchange q).run l).1
      (((exchange q).run l).2.standing app) := by
  refine (ends_exchange h q).mono (R := fun r l' =>
    (l.standing app).Exchanged app q r (l'.standing app)) fun r l' hx => ?_
  cases hx with
  | down hc => exact .unsent _ (.inl hc)
  | unsent _ hq => exact .unsent _ (.inr hq)
  | @lost b _ d _ _ _ hb _ hd anew =>
    refine .lost _ (anew.lost app) ?_
    show l'.transport.device.received = _ ∨ l'.transport.device.received = _
    rw [anew.received]
    rcases hd with hd | hd
    · exact .inl (hd.received.trans hb.sameSessions.received)
    · rw [hd.received, (Device.settings_handle b.device q).2.2.2, hb.sameSessions.received]
      exact .inr rfl
  | @served b _ hc hb _ hc' hepoch _ hdev =>
    have hseat := Device.seat_handle b.device q app
    rw [hb.sameSessions.seat] at hseat
    have hstanding : l'.standing app = { l.standing app with
        seat := (b.device.handle q).2.seat app
        received := (l.standing app).received ++ [q] } := by
      rw [standing, hc', hepoch, hdev]
      show Standing.mk _ _ _ (b.device.handle q).2.received = _
      rw [(Device.settings_handle b.device q).2.2.2, hb.sameSessions.received, ← hc]
      rfl
    rw [hstanding]
    exact .served hc hseat

/-- Handing events on leaves the standing as it was, unless the connection is lost. -/
theorem standing_pollEvents (h : Quiet l) (app : String) :
    Ends pollEvents l fun _ l' => (l.standing app).Drifted (l'.standing app) := by
  refine (ends_pollEvents h).mono fun r l' hp => ?_
  rcases hp with ⟨_, _, _, hc, he, hsame⟩ | ⟨_, _, hover⟩
  · exact .inl (standing_of_sameSessions hc he hsame app)
  · exact .inr ⟨hover.lost app, hover.received⟩

/-- Connecting leaves the standing as it was, or there was no connection. -/
theorem standing_connect (h : Quiet l) (app : String) :
    Ends connect l fun _ l' => (l.standing app).Drifted (l'.standing app) := by
  refine (ends_connect h).mono fun r l' hp => ?_
  rcases hp with ⟨_, _, rfl⟩ | ⟨_, hover, _⟩
  · exact .inl rfl
  · exact .inr ⟨hover.lost app, hover.received⟩

end Link

end AppletGateway
