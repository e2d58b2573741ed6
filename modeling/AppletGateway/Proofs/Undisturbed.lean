import AppletGateway.Proofs.DirectCalls
import AppletGateway.Proofs.Reachable
import AppletGateway.Proofs.RoundTrips
import AppletGateway.Proofs.Stranding

/-!
# Operations that nothing disturbs

A device that is on line, with no fault set up and an operator without plans, answers every request
that fits into a frame and whose reply does. A session with an installed app can then be had at any
time: whether the row of the app has none, has one of an earlier connection or has one that is open,
and whether or not a handler is bound.

Results:
* `Applet.Request.fits_of_le`: a request that carries little data fits.
* `Link.Undisturbed.ends_exchange`: the device is asked, and nothing else happens.
* `Service.Prepared.ends_ensureLoaded`: a session is open afterwards.
-/

namespace AppletGateway

open Applet (Inbound noHandle)
open Packed (pack packTag packLength)

/-! ## What fits into a frame -/

namespace Packed

theorem length_packTag_le (n : Nat) : (packTag n).length ≤ 5 := Varint.length_write 5 n

theorem length_pack_word_le (n : UInt32) : (pack n).length ≤ 5 := Varint.length_write 5 n.toNat

theorem length_pack_blob_le (b : Bytes) : (pack b).length ≤ 10 + b.length := by
  have hlength := Varint.length_write 10 b.length
  show (packLength b.length ++ b).length ≤ _
  rw [List.length_append]
  exact Nat.add_le_add_right hlength _

theorem length_pack_text_le (s : String) : (pack s).length ≤ 10 + s.utf8ByteSize := by
  rw [← Bytes.length_ofText]
  exact length_pack_blob_le (Bytes.ofText s)

theorem length_pack_bool (b : Bool) : (pack b).length = 1 := rfl

end Packed

namespace Applet

/-- The data that a request carries. -/
def Request.blobs : Request → List Bytes
  | sendData _ _ _ data | sendAndReceive _ _ _ data _ => [data]
  | getOtp _ _ token vendorData _ _ => [token, vendorData]
  | _ => []

/-- The number of bytes that it takes, besides the name of its app, to say what a request asks
for. -/
def Request.load : Request → Nat
  | install _ source => (pack source).length
  | q => q.blobs.flatten.length

theorem Request.length_pack_le (q : Request) :
    (pack q).length ≤ 50 + q.app.utf8ByteSize + q.load := by
  cases q
  all_goals
    delta instPackedRequest
    simp only [List.length_append, app, load, blobs, List.flatten_cons, List.flatten_nil,
      List.length_nil]
    grind [Packed.length_packTag_le, Packed.length_pack_word_le, Packed.length_pack_blob_le,
      Packed.length_pack_text_le, Packed.length_pack_bool]

/-- Two blobs of the largest length fit into a request, whatever the app. -/
theorem Request.fits_of_le {q : Request} (happ : q.app.utf8ByteSize ≤ 32)
    (hload : q.load ≤ 262000) : Fits q := by
  have hlength := length_pack_le q
  show (pack q).length ≤ 262144
  omega

theorem Reply.fits_of_length_le {r : Reply} (h : (pack r).length ≤ 262000) :
    Fits (Inbound.reply r) := by
  have htag := Packed.length_packTag_le 0
  show (packTag 0 ++ pack r).length ≤ 262144
  rw [List.length_append]
  omega

/-- A reply without data fits. -/
theorem Reply.Brief.fits_inbound {r : Reply} (h : r.Brief) : Fits (Inbound.reply r) :=
  ((Frame.encode_isSome_iff _).mp h.fits).2

/-- So do the lengths of outputs that were too long. -/
theorem Reply.fits_tooSmall (required : Lengths) :
    Fits (Inbound.reply (.tooSmall required.toList)) := by
  have hwords (ws : List UInt32) : (ws.flatMap pack).length ≤ 5 * ws.length := by
    induction ws with
    | nil => exact Nat.le_refl 0
    | cons w ws ih =>
      have hword := Packed.length_pack_word_le w
      rw [List.flatMap_cons, List.length_append, List.length_cons]
      omega
  have htag := Packed.length_packTag_le 5
  have hlength : (packLength required.toList.length).length ≤ 10 := Varint.length_write 10 _
  have htwo := required.length_le
  have hall := hwords required.toList
  refine fits_of_length_le ?_
  show (packTag 5 ++ (packLength required.toList.length ++ required.toList.flatMap pack)).length ≤ _
  simp only [List.length_append]
  omega

/-- An output that is not too long fits, and otherwise its length does. -/
theorem Reply.fits_ofData {data : Bytes} (h : data.length ≤ 65535) (capacity : UInt32) :
    Fits (Inbound.reply (.ofData (Negotiation.fit data capacity))) := by
  by_cases hfits : data.length ≤ capacity.toNat
  · have hblob := Packed.length_pack_blob_le data
    have htag := Packed.length_packTag_le 3
    rw [Negotiation.fit_of_le hfits]
    refine fits_of_length_le ?_
    show (packTag 3 ++ pack data).length ≤ _
    rw [List.length_append]
    omega
  · rw [Negotiation.fit_of_lt (Nat.lt_of_not_le hfits)]
    exact fits_tooSmall _

/-- A one-time password fits with a token that is not too long. -/
theorem Reply.fits_otp {password token : Bytes} (h : password.length + token.length ≤ 200000) :
    Fits (Inbound.reply (.otp password token)) := by
  have hpassword := Packed.length_pack_blob_le password
  have htoken := Packed.length_pack_blob_le token
  have htag := Packed.length_packTag_le 4
  refine fits_of_length_le ?_
  show (packTag 4 ++ pack password ++ pack token).length ≤ _
  simp only [List.length_append]
  omega

end Applet

/-! ## Exchanges -/

namespace Link

variable {l l' : Link Attended}

/-- What an exchange that nothing disturbs leaves behind: the device is in the state `d`, apart from
the events raised, which have been handed on. -/
structure Asked (l : Link Attended) (d : Device) (l' : Link Attended) : Prop where
  undisturbed : Undisturbed l'
  epoch : l'.epoch = l.epoch
  device : l'.transport.device = { d with pending := [], garbleNext := false }

/-- The device is asked, and nothing else happens. -/
theorem Undisturbed.ends_exchange (h : Undisturbed l) {q : Applet.Request} (hq : Fits q)
    (hreply : Fits (Inbound.reply (l.transport.device.handle q).1)) :
    Ends (exchange q) l fun r l' => r = .ok (l.transport.device.handle q).1 ∧
      Asked l (l.transport.device.handle q).2 l' := by
  obtain ⟨hoff, hrefuse, hgarble, _⟩ := Device.settings_handle l.transport.device q
  refine (Link.ends_exchange h.quiet q).mono fun r l' hx => ?_
  cases hx with
  | down hc => exact absurd (hc.symm.trans h.connected) nofun
  | unsent _ hno =>
    obtain ⟨f, hf⟩ := hq.request
    rw [hno] at hf
    cases hf
  | served hc hb quiet hc' epoch agenda device =>
    obtain rfl := hb.eq_of_idle h.calm.agenda
    refine ⟨rfl, ⟨quiet, hc', agenda.trans h.calm.agenda, ?_, ?_, ?_⟩, epoch, device⟩
    · rw [device]
      exact hoff.trans h.calm.offline
    · rw [device]
      exact hrefuse
    · rw [device]
  | lost hc he hb fault hd _ =>
    obtain rfl := hb.eq_of_idle h.calm.agenda
    rcases fault with hf | hf | hf
    · exact absurd (h.calm.offline.symm.trans hf) nofun
    · exact absurd ((hgarble.trans h.calm.garbleNext).symm.trans hf) nofun
    · have hsome := hreply.inbound
      rw [hf] at hsome
      cases hsome

end Link

/-! ## Answers -/

namespace Device

variable {d : Device} {app : String}

/-- With nothing to be refused a request is answered. -/
theorem handle_eq {q : Applet.Request} {reply : Applet.Reply} {d' : Device}
    (hr : d.refuseNext = none) (h : Ends (answer q) { d with received := d.received ++ [q] }
      fun r d₁ => (match r with | .ok reply => reply | .error reply => reply) = reply ∧ d₁ = d') :
    d.handle q = (reply, d') :=
  Prod.ext_iff.mpr <| handle_cases (P := fun r d₁ => r = reply ∧ d₁ = d') q
    (fun _ hc => absurd (hr.symm.trans hc) nofun) fun _ => h

theorem handle_openSession (hr : d.refuseNext = none) (hi : d.isInstalled app = true)
    (shared : Bool) : d.handle (.openSession app shared) = (.done, { d with
      sessions := d.sessions.set app shared
      received := d.received ++ [.openSession app shared] }) := by
  refine handle_eq hr ?_
  have hi : Device.isInstalled { d with received := d.received ++ [.openSession app shared] } app =
      true := hi
  simp only [answer, ends_bind, ends_get, andThen_ok, hi, Bool.not_true, Bool.false_eq_true,
    if_false, ends_modify, ends_pure]
  exact ⟨trivial, trivial⟩

theorem handle_subscribe (hr : d.refuseNext = none) (hs : d.sessions.get? app = some false) :
    d.handle (.subscribe app) = (.done, { d with
      subscribed := d.subscribed.insert app
      received := d.received ++ [.subscribe app] }) := by
  refine handle_eq hr ?_
  simp only [answer, ends_bind, ends_requireOpen, hs, andThen_ok, Bool.false_eq_true, if_false,
    ends_modify, ends_pure]
  exact ⟨trivial, trivial⟩

/-- Without a handle a request only needs the session. -/
theorem ends_requireSession {α : Type} {shared : Bool} (hs : d.sessions.get? app = some shared)
    {x : Answering α} {Q : Except Applet.Reply α → Device → Prop} (hx : Ends x d Q) :
    Ends (do
      let _ ← requireOpen app
      requireHandle app noHandle
      x) d Q := by
  simp only [ends_bind, ends_requireOpen, hs, andThen_ok]
  exact hx

theorem handle_sendData (hr : d.refuseNext = none) {shared : Bool}
    (hs : d.sessions.get? app = some shared) (dataType : UInt32) (data : Bytes) :
    d.handle (.sendData app noHandle dataType data) = (.done, { d with
      mailbox := d.mailbox.set (app, dataType) data
      received := d.received ++ [.sendData app noHandle dataType data] }) :=
  handle_eq hr (ends_requireSession (by exact hs) (by exact ⟨rfl, rfl⟩))

/-- Data that is not there is not received. -/
theorem handle_receiveData_none (hr : d.refuseNext = none) {shared : Bool}
    (hs : d.sessions.get? app = some shared) {dataType : UInt32}
    (hm : d.mailbox.get? (app, dataType) = none) (capacity : UInt32) :
    d.handle (.receiveData app noHandle dataType capacity) =
      (.ofStatus .appletInvalidMessage, { d with
        received := d.received ++ [.receiveData app noHandle dataType capacity] }) := by
  refine handle_eq hr (ends_requireSession (by exact hs) ?_)
  simp only [ends_bind, ends_get, andThen_ok, hm]
  exact ⟨rfl, rfl⟩

/-- Data is received once: it stays as long as it does not fit. -/
theorem handle_receiveData_some (hr : d.refuseNext = none) {shared : Bool}
    (hs : d.sessions.get? app = some shared) {dataType : UInt32} {data : Bytes}
    (hm : d.mailbox.get? (app, dataType) = some data) (capacity : UInt32) :
    d.handle (.receiveData app noHandle dataType capacity) =
      (.ofData (Negotiation.fit data capacity), { d with
        mailbox := if capacity.toNat < data.length then d.mailbox
          else d.mailbox.erase (app, dataType)
        received := d.received ++ [.receiveData app noHandle dataType capacity] }) := by
  refine handle_eq hr (ends_requireSession (by exact hs) ?_)
  simp only [ends_bind, ends_get, andThen_ok, hm, ends_ite]
  unfold Negotiation.fit
  split <;> exact ⟨rfl, rfl⟩

end Device

/-! ## Opening a session -/

namespace Link

/-- The session with the app is open, and the device has been asked for nothing but sessions and
subscriptions since it was behind `l`. -/
structure Seated (app : String) (l l' : Link Attended) : Prop where
  undisturbed : Undisturbed l'
  session : ∃ shared, l'.transport.device.sessions.get? app = some shared
  installed : l'.transport.device.installed = l.transport.device.installed
  mailbox : l'.transport.device.mailbox = l.transport.device.mailbox
  received : ∃ qs, l'.transport.device.received = l.transport.device.received ++ qs ∧
    ∀ q ∈ qs, q.seats = true

end Link

namespace Service

open Link (Undisturbed Asked Seated)

variable {app : String} {t t' : Turn Attended} {α : Type}

/-- A turn on the row of an installed app, on a link that nothing disturbs. -/
structure Prepared (app : String) (t : Turn Attended) : Prop where
  own_name : t.row.app = app
  undisturbed : Undisturbed t.link
  installed : t.link.transport.device.isInstalled app = true
  mirrors : Mirrors t.row (t.link.standing app)
  exclusive : t.row.callback.isSome = true → t.row.shared = false

/-- A request and its answer. -/
theorem ends_call_undisturbed (h : Undisturbed t.link) {q : Applet.Request} {reply : Applet.Reply}
    {d : Device} (hq : Fits q) (hreply : Fits (Inbound.reply reply))
    (hd : t.link.transport.device.handle q = (reply, d)) {f : Applet.Reply → OnRow Attended α}
    {Q : Except Status α → Turn Attended → Prop}
    (hf : ∀ l, Asked t.link d l → Ends (f reply) { t with link := l } Q) :
    Ends (call q >>= f) t Q := by
  rw [ends_bind, ends_call]
  refine (h.ends_exchange hq (by rwa [hd])).mono fun r l ⟨hr, hasked⟩ => ?_
  rw [hr, hd, andThen_mapError_ok]
  rw [hd] at hasked
  exact hf l hasked

/-- An exclusive session can be subscribed to. -/
theorem ends_subscribe_undisturbed (h : Undisturbed t.link)
    (hs : t.link.transport.device.sessions.get? t.row.app = some false)
    (happ : t.row.app.utf8ByteSize ≤ 32) : Ends subscribe t fun r t' => r = .ok () ∧
      Asked t.link { t.link.transport.device with
        subscribed := t.link.transport.device.subscribed.insert t.row.app
        received := t.link.transport.device.received ++ [.subscribe t.row.app] } t'.link := by
  rw [subscribe, ends_bind, ends_get, andThen_ok]
  have hfits : Fits (Applet.Request.subscribe t.row.app) :=
    Applet.Request.fits_of_le happ (Nat.zero_le _)
  exact ends_call_undisturbed h hfits (Applet.Reply.Brief.fits_inbound (.inl rfl))
    (Device.handle_subscribe h.calm.refuseNext hs) fun l hasked => ⟨rfl, hasked⟩

/-- A session that is open on this connection is there. -/
theorem Prepared.seated (h : Prepared app t) (hl : t.row.loaded = true)
    (ho : t.row.openedOn = t.link.epoch) : Seated app t.link t.link :=
  have hsession := (h.mirrors.session hl).trans (if_pos ⟨h.undisturbed.connected, ho⟩)
  ⟨h.undisturbed, ⟨t.row.shared, hsession⟩, rfl, rfl, [], (List.append_nil _).symm, nofun⟩

/-- The session of a row without one is opened; if a handler is bound, its events are subscribed
to. -/
theorem Prepared.ends_open (h : Prepared app t) (happ : app.utf8ByteSize ≤ 32) (epoch : Nat) :
    Ends (do
      ofExcept (← call (.openSession t.row.app t.row.shared)).asDone
      modifyRow fun row => { row with loaded := true, openedOn := epoch }
      if t.row.callback.isSome then subscribe) t
      fun r t' => r = .ok () ∧ Seated app t.link t'.link := by
  have hname := h.own_name
  have hopen := Device.handle_openSession h.undisturbed.calm.refuseNext h.installed t.row.shared
  have hfits : Fits (Applet.Request.openSession app t.row.shared) :=
    Applet.Request.fits_of_le happ (Nat.zero_le _)
  rw [hname]
  refine ends_call_undisturbed h.undisturbed hfits
    (Applet.Reply.Brief.fits_inbound (.inl rfl)) hopen fun l hasked => ?_
  simp only [Applet.Reply.asDone, ofExcept, ends_bind, ends_pure, andThen_ok, modifyRow,
    ends_modify, ends_ite]
  have hdevice := hasked.device
  have hsession : l.transport.device.sessions.get? app = some t.row.shared := by
    rw [hdevice]
    exact Table.get?_set_self _ _ _
  split
  · rename_i hbound
    rw [h.exclusive hbound] at hsession
    refine (ends_subscribe_undisturbed (t := ⟨_, t.tokens, l⟩) hasked.undisturbed
      (by exact hname ▸ hsession) (by exact hname ▸ happ)).mono fun r t' hsub => ?_
    obtain ⟨hr, hsub⟩ := hsub
    have hdevice' := hsub.device
    refine ⟨hr, hsub.undisturbed, ⟨false, ?_⟩, ?_, ?_,
      [.openSession app t.row.shared, .subscribe app], ?_, ?_⟩
    · rw [hdevice']
      exact hsession
    · rw [hdevice', hdevice]
    · rw [hdevice', hdevice]
    · rw [hdevice', hdevice]
      simp [hname]
    · simp [Applet.Request.seats]
  · refine ⟨trivial, hasked.undisturbed, ⟨_, hsession⟩, ?_, ?_,
      [.openSession app t.row.shared], ?_, ?_⟩
    · rw [hdevice]
    · rw [hdevice]
    · rw [hdevice]
    · simp [Applet.Request.seats]

/-- A row that forgets a session of an earlier connection. -/
theorem Prepared.dropped (h : Prepared app t) : Prepared app
    { t with row := { t.row with loaded := false }.endProvisioning } :=
  ⟨h.own_name, h.undisturbed, h.installed, mirrors_of_unloaded rfl _, h.exclusive⟩

/-- A session is open afterwards. -/
theorem Prepared.ends_ensureLoaded (h : Prepared app t) (happ : app.utf8ByteSize ≤ 32) :
    Ends ensureLoaded t fun r t' => r = .ok () ∧ Seated app t.link t'.link := by
  simp only [ensureLoaded, ends_bind]
  refine ends_dropStale.mono fun r t₁ hdropped => ?_
  obtain ⟨rfl, ht₁⟩ := hdropped
  rw [andThen_ok, ends_bind, ends_get, andThen_ok, ends_ite]
  by_cases hl : t.row.loaded = true
  · by_cases ho : t.row.openedOn = t.link.epoch
    · rw [if_neg fun hstale => hstale.2 ho] at ht₁
      subst ht₁
      rw [if_pos hl]
      exact ⟨rfl, h.seated hl ho⟩
    · rw [if_pos ⟨hl, ho⟩] at ht₁
      subst ht₁
      rw [if_neg (by exact Bool.false_ne_true)]
      exact h.dropped.ends_open happ _
  · rw [if_neg fun hstale => hl hstale.1] at ht₁
    subst ht₁
    rw [if_neg hl]
    exact h.ends_open happ _

end Service

end AppletGateway
