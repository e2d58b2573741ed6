import AppletGateway.Proofs.Stacks
import AppletGateway.Proofs.Undisturbed

/-!
# Data sent and received

Data for an app is kept by the device until it is received. A call that receives it does not know
its length: it asks with the capacity that the client was made with, and if the answer is "too
small" it asks again with the length in the answer. The data stays until a request had room for it,
and is gone afterwards.

On the way the session of the app may have to be opened, or to be opened again because the
connection was lost. In every reachable state this succeeds if nothing disturbs it.

Results:
* `Service.Available.sendData`, `Service.Available.receiveData_some`: one operation of the gateway.
* `Client.negotiated_transfer`: data sent by a client and received by it, from any reachable state
  of the stack.
-/

namespace AppletGateway

open Applet (Inbound noHandle)

/-- Whether a request is for data that was kept. -/
def Applet.Request.receives : Applet.Request → Bool
  | receiveData .. => true
  | _ => false

/-- The number of requests for such data that have reached the device. -/
def Device.receipts (d : Device) : Nat := d.received.countP Applet.Request.receives

theorem Device.receipts_handle (d : Device) (q : Applet.Request) :
    (d.handle q).2.receipts = d.receipts + if q.receives then 1 else 0 := by
  rw [receipts, (settings_handle d q).2.2.2, List.countP_append, List.countP_singleton]
  rfl

/-- Opening a session is not receiving data. -/
theorem Link.Seated.receipts {app : String} {l l' : Link Attended} (h : Seated app l l') :
    l'.transport.device.receipts = l.transport.device.receipts := by
  obtain ⟨qs, hreceived, hseats⟩ := h.received
  have hnone : qs.countP Applet.Request.receives = 0 := by
    refine List.countP_eq_zero.mpr fun q hq hreceives => ?_
    have hs := hseats q hq
    cases q with
    | receiveData => cases hs
    | _ => cases hreceives
  rw [Device.receipts, hreceived, List.countP_append, hnone]
  rfl

/-- An output that was fitted to its capacity is taken as it is. -/
theorem Applet.Reply.asData_ofData (data : Bytes) (capacity : UInt32) :
    (Applet.Reply.ofData (Negotiation.fit data capacity)).asData capacity =
      .ok (Negotiation.fit data capacity) := by
  by_cases h : data.length ≤ capacity.toNat
  · rw [Negotiation.fit_of_le h]
    exact congrArg Except.ok (Negotiation.fit_of_le h)
  · rw [Negotiation.fit_of_lt (Nat.lt_of_not_le h)]
    rfl

namespace Service

open Link (Undisturbed Asked Seated)

variable {app : String} {s : Service Attended} {α : Type}

/-- The app is installed, the link is connected, and nothing disturbs it. -/
structure Available (app : String) (s : Service Attended) : Prop where
  reachable : Reachable s
  connected : s.link.connected = true
  calm : s.link.transport.Calm
  installed : s.link.transport.device.isInstalled app = true

theorem Available.prepared (h : Available app s) : Prepared app (s.turn app) where
  own_name := h.reachable.healthy.sound.app_rowOrFresh app
  undisturbed := ⟨h.reachable.healthy.sane.quiet, h.connected, h.calm⟩
  installed := h.installed
  mirrors := h.reachable.mirrors app
  exclusive := h.reachable.boundExclusive app

/-- An operation without a handle that makes one request of an open session. -/
theorem Available.ends_request (h : Available app s) (happ : app.utf8ByteSize ≤ 32)
    {request : UInt32 → Applet.Request} {f : Applet.Reply → OnRow Attended α}
    (result : Applet.Reply → Except Status α) (hf : ∀ reply t, (f reply).run t = (result reply, t))
    (hq : Fits (request noHandle)) (hreply : ∀ l, Seated app s.link l →
      Fits (Inbound.reply (l.transport.device.handle (request noHandle)).1)) :
    Ends (onRow app do
      let handle ← sessionHandle none
      ensureLoaded
      f (← call (request handle))) s fun r s' => ∃ l, Seated app s.link l ∧
        r = result (l.transport.device.handle (request noHandle)).1 ∧
        Asked l (l.transport.device.handle (request noHandle)).2 s'.link := by
  refine ends_onRow.mpr ?_
  rw [ends_bind, sessionHandle, ends_pure, andThen_ok, ends_bind]
  refine (h.prepared.ends_ensureLoaded happ).mono fun r t hloaded => ?_
  obtain ⟨rfl, hseated⟩ := hloaded
  rw [andThen_ok]
  refine ends_call_undisturbed hseated.undisturbed hq (hreply t.link hseated) rfl fun l hasked => ?_
  unfold Ends
  rw [hf]
  exact ⟨t.link, hseated, rfl, hasked⟩

/-- The app stays available if the device keeps what is installed. -/
theorem Available.perform (h : Available app s) {o : Operation} {l : Link Attended} {d : Device}
    (hseated : Seated app s.link l) (hasked : Asked l d (move (.perform o) s).link)
    (hd : d.installed = l.transport.device.installed) : Available app (move (.perform o) s) where
  reachable := h.reachable.move (.perform o)
  connected := hasked.undisturbed.connected
  calm := hasked.undisturbed.calm
  installed := by
    have hkept : (move (.perform o) s).link.transport.device.installed =
        s.link.transport.device.installed := by
      rw [hasked.device]
      exact hd.trans hseated.installed
    rw [Device.isInstalled, hkept]
    exact h.installed

theorem run_ofExcept {σ : Type} (x : Except Status α) (t : σ) : (ofExcept x).run t = (x, t) := by
  cases x <;> rfl

/-- Data that is sent is kept. -/
theorem Available.sendData (h : Available app s) (happ : app.utf8ByteSize ≤ 32)
    (dataType : UInt32) {data : Bytes} (hdata : ValidData data) :
    Ends (sendData app none dataType data) s fun r s' => r = .ok () ∧ Available app s' ∧
      s'.link.transport.device.mailbox.get? (app, dataType) = some data := by
  have hfits : Fits (Applet.Request.sendData app noHandle dataType data) := by
    refine Applet.Request.fits_of_le happ ?_
    have hle := hdata.2
    show (data ++ []).length ≤ 262000
    rw [List.append_nil]
    omega
  have hdevice {l : Link Attended} (hl : Seated app s.link l) :=
    Device.handle_sendData hl.undisturbed.calm.refuseNext hl.session.choose_spec dataType data
  have hne : data ≠ [] := List.ne_nil_of_length_pos hdata.1
  suffices hrun : Ends (Service.sendData app none dataType data) s fun r s' =>
      ∃ l, Seated app s.link l ∧ r = .ok () ∧ Asked l { l.transport.device with
        mailbox := l.transport.device.mailbox.set (app, dataType) data
        received := l.transport.device.received ++ [.sendData app noHandle dataType data] }
        s'.link by
    obtain ⟨l, hl, hr, hasked⟩ := hrun
    refine ⟨hr, h.perform (o := .sendData app none dataType data) hl hasked rfl, ?_⟩
    rw [hasked.device]
    exact Table.get?_set_self _ _ _
  refine guards_requireInit.pass h.connected ?_
  dsimp only
  rw [if_neg hne]
  refine (h.ends_request happ _ (fun _ _ => run_ofExcept _ _) hfits fun l hl => ?_).mono
    fun r s' ⟨l, hl, hr, hasked⟩ => ⟨l, hl, ?_, ?_⟩
  · rw [hdevice hl]
    exact Applet.Reply.Brief.fits_inbound (.inl rfl)
  · rw [hr, hdevice hl]
    rfl
  · rwa [hdevice hl] at hasked

/-- Receiving asks the device for the data that it has kept. -/
theorem Available.ends_receive (h : Available app s) (happ : app.utf8ByteSize ≤ 32)
    (dataType : UInt32) {capacity : UInt32} (hcapacity : capacity ≠ 0)
    (hreply : ∀ l, Seated app s.link l → Fits (Inbound.reply
      (l.transport.device.handle (.receiveData app noHandle dataType capacity)).1)) :
    Ends (receiveData app none dataType capacity) s fun r s' => ∃ l, Seated app s.link l ∧
      r = (l.transport.device.handle (.receiveData app noHandle dataType capacity)).1.asData
        capacity ∧
      Asked l (l.transport.device.handle (.receiveData app noHandle dataType capacity)).2
        s'.link := by
  have hfits : Fits (Applet.Request.receiveData app noHandle dataType capacity) :=
    Applet.Request.fits_of_le happ (Nat.zero_le _)
  unfold receiveData
  dsimp only
  rw [if_neg hcapacity]
  exact guards_requireInit.pass h.connected
    (h.ends_request happ _ (fun _ _ => run_ofExcept _ _) hfits hreply)

/-- Data that is not kept is not received. -/
theorem Available.receiveData_none (h : Available app s) (happ : app.utf8ByteSize ≤ 32)
    {dataType capacity : UInt32} (hcapacity : capacity ≠ 0)
    (hm : s.link.transport.device.mailbox.get? (app, dataType) = none) :
    Ends (receiveData app none dataType capacity) s fun r _ =>
      r = .error .appletInvalidMessage := by
  have hdevice {l : Link Attended} (hl : Seated app s.link l) :=
    have hkept : l.transport.device.mailbox.get? (app, dataType) = none := hl.mailbox ▸ hm
    Device.handle_receiveData_none hl.undisturbed.calm.refuseNext hl.session.choose_spec hkept
      capacity
  refine (h.ends_receive happ dataType hcapacity fun l hl => ?_).mono fun r s' ⟨l, hl, hr, _⟩ => ?_
  · rw [hdevice hl]
    exact Applet.Reply.Brief.fits_inbound (.inr ⟨_, rfl⟩)
  · rw [hr, hdevice hl]
    exact congrArg Except.error (by decide)

/-- Data that is kept is received if it fits, and else its length is. It is kept until it is
received. -/
theorem Available.receiveData_some (h : Available app s) (happ : app.utf8ByteSize ≤ 32)
    {dataType capacity : UInt32} (hcapacity : capacity ≠ 0) {data : Bytes}
    (hm : s.link.transport.device.mailbox.get? (app, dataType) = some data)
    (hlength : data.length ≤ 65535) :
    Ends (receiveData app none dataType capacity) s fun r s' =>
      r = .ok (Negotiation.fit data capacity) ∧ Available app s' ∧
      s'.link.transport.device.receipts = s.link.transport.device.receipts + 1 ∧
      s'.link.transport.device.mailbox.get? (app, dataType) =
        if capacity.toNat < data.length then some data else none := by
  have hdevice {l : Link Attended} (hl : Seated app s.link l) :=
    have hkept : l.transport.device.mailbox.get? (app, dataType) = some data := hl.mailbox ▸ hm
    Device.handle_receiveData_some hl.undisturbed.calm.refuseNext hl.session.choose_spec hkept
      capacity
  obtain ⟨l, hl, hr, hasked⟩ := h.ends_receive happ dataType hcapacity fun l hl => by
    rw [hdevice hl]
    exact Applet.Reply.fits_ofData hlength capacity
  rw [hdevice hl] at hr
  refine ⟨hr.trans (Applet.Reply.asData_ofData data capacity), ?_, ?_, ?_⟩
  · refine h.perform (o := .receiveData app none dataType capacity) hl hasked ?_
    rw [hdevice hl]
  · rw [hasked.device]
    exact (Device.receipts_handle _ _).trans (congrArg (· + 1) hl.receipts)
  · rw [hasked.device, hdevice hl]
    show (if _ then _ else _ : Table _ _).get? _ = _
    split
    · exact hl.mailbox ▸ hm
    · exact Table.get?_erase_self _ _

end Service

namespace Client

variable {c : Client (Direct (Service Attended))} {app : String} {dataType capacity : UInt32}
  {data : Bytes}

-- What a call gives is known from its lemmas; running it is not needed to see that.
seal callData perform

/-- The device at the end of the stack. -/
abbrev device (c : Client (Direct (Service Attended))) : Device :=
  c.remote.dispatcher.operator.link.transport.device

/-- The client can have a session with the app at any time. -/
structure Serves (app : String) (c : Client (Direct (Service Attended))) : Prop where
  fronts : Fronts c
  available : Service.Available app c.remote.dispatcher.operator

/-- What follows the first attempt of a call that retries by itself. -/
def retry (request : UInt32 → Request) (first : UInt32) :
    Negotiated Bytes → Run (Direct (Service Attended)) Bytes
  | .complete v => pure v
  | .tooSmall required => do
    complete (← callData (request
      (((Lengths.ofList [first]).corrected required).toList.head?.getD first)))

theorem retry_tooSmall (request : UInt32 → Request) (first n : UInt32) :
    retry request first (.tooSmall (.ofList [n])) =
      (callData (request (max n first)) >>= complete) := rfl

theorem ends_negotiateData {request : UInt32 → Request}
    {Q : Except Status Bytes → Client (Direct (Service Attended)) → Prop} :
    Ends (negotiateData request) c Q =
      Ends (callData (request c.initialLength)) c (andThen (retry request c.initialLength) Q) := by
  rw [negotiateData, ends_bind, ends_get, andThen_ok, ends_bind, Negotiation.retryOnce, ends_bind]
  refine congrArg (Ends _ c) (funext fun r => funext fun c' => ?_)
  rcases r with _ | (v | required)
  · rfl
  · rfl
  · rw [andThen_ok, andThen_ok, retry, ends_bind]

/-- One attempt to receive data is what the gateway makes of it, if a reply can carry this. -/
theorem ends_attempt (h : Fronts c) (happ : ValidApp app) (hcapacity : ValidCapacity capacity)
    (dataType : UInt32) :
    let done := (Service.receiveData app none dataType capacity).run c.remote.dispatcher.operator
    Ends (callData (.receiveData app 0 dataType capacity)) c fun r c' => Fronts c' ∧
      c'.remote.dispatcher.operator = done.2 ∧
      (Conveyable .receiveData .data done.1 → r = done.1) := by
  intro done
  have hkeeps := keeps_callData (fun q _ => outlasts_fronts.call q)
    (q := .receiveData app 0 dataType capacity) rfl c h
  have hstands : Call.StandsFor c.remote.caller (.receiveData app 0 dataType capacity) .receiveData
      (.receiveData app none dataType capacity) := .receiveData happ hcapacity
  have hcall := ends_perform_direct hstands h.descriptor h.short
  rw [perform, ends_bind] at hcall
  refine (hkeeps.and hcall).mono fun r c' hboth => ?_
  obtain ⟨hfronts, hdone⟩ := hboth
  refine ⟨hfronts, ?_⟩
  cases r with
  | error e =>
    refine ⟨hdone.1, fun hconveyed => ?_⟩
    have hanswer : .error e = done.1.map (Answer.of .data) := hdone.2 hconveyed
    cases hresult : done.1 with
    | error e' =>
      rw [hresult] at hanswer
      exact congrArg Except.error (Except.error.inj hanswer)
    | ok out =>
      rw [hresult] at hanswer
      cases hanswer
  | ok out =>
    refine ⟨hdone.1, fun hconveyed => ?_⟩
    have hanswer : .ok (.data out) = done.1.map (Answer.of .data) := hdone.2 hconveyed
    cases hresult : done.1 with
    | error e =>
      rw [hresult] at hanswer
      cases hanswer
    | ok out' =>
      rw [hresult] at hanswer
      exact congrArg Except.ok (Answer.data.inj (Except.ok.inj hanswer))

/-- An attempt to receive data that the device has kept. -/
theorem Serves.ends_attempt_some (h : Serves app c) (happ : ValidApp app)
    (hcapacity : ValidCapacity capacity) (hm : c.device.mailbox.get? (app, dataType) = some data)
    (hdata : ValidData data) :
    Ends (callData (.receiveData app 0 dataType capacity)) c fun r c' =>
      r = .ok (Negotiation.fit data capacity) ∧ Serves app c' ∧
      c'.device.receipts = c.device.receipts + 1 ∧
      c'.device.mailbox.get? (app, dataType) =
        if capacity.toNat < data.length then some data else none := by
  obtain ⟨hresult, havailable, hreceipts, hmailbox⟩ :=
    h.available.receiveData_some happ.2 hcapacity.ne_zero hm hdata.2
  refine (ends_attempt h.fronts happ hcapacity dataType).mono fun r c' ⟨hfronts, hop, hr⟩ => ?_
  rw [hresult] at hr
  refine ⟨hr ?_, ⟨hfronts, ?_⟩, ?_, ?_⟩
  · have hle := hdata.2
    unfold Negotiation.fit
    split
    · exact Nat.le_refl 1
    · show data.length < 2147483648
      omega
  · rw [hop]
    exact havailable
  · rw [device, hop]
    exact hreceipts
  · rw [device, hop]
    exact hmailbox

/-- An attempt to receive data that the device has not kept. -/
theorem Serves.ends_attempt_none (h : Serves app c) (happ : ValidApp app)
    (hcapacity : ValidCapacity capacity) (hm : c.device.mailbox.get? (app, dataType) = none) :
    Ends (callData (.receiveData app 0 dataType capacity)) c fun r _ =>
      r = .error .appletInvalidMessage := by
  have hresult := h.available.receiveData_none happ.2 hcapacity.ne_zero hm
  refine (ends_attempt h.fronts happ hcapacity dataType).mono fun r c' ⟨_, _, hr⟩ => ?_
  have hresult : ((Service.receiveData app none dataType capacity).run
      c.remote.dispatcher.operator).1 = .error .appletInvalidMessage := hresult
  rw [hresult] at hr
  exact hr ⟨by decide, nofun, nofun⟩

/-- The larger of the length of some data and a valid capacity is a valid capacity. -/
theorem validCapacity_max (hdata : ValidData data) (h : ValidCapacity capacity) :
    ValidCapacity (max (UInt32.ofNat data.length) capacity) ∧
      data.length ≤ (max (UInt32.ofNat data.length) capacity).toNat := by
  obtain ⟨hpos, hle⟩ := hdata
  obtain ⟨hpos', hle'⟩ := h
  have hlength : (UInt32.ofNat data.length).toNat = data.length := by
    simp only [UInt32.toNat_ofNat']
    omega
  rw [ValidCapacity, toNat_max, hlength]
  omega

/-- A call that makes its retry by itself receives what the device has kept, with two attempts at
most. -/
theorem Serves.ends_negotiated_some (h : Serves app c) (happ : ValidApp app)
    (hm : c.device.mailbox.get? (app, dataType) = some data) (hdata : ValidData data) :
    Ends (perform (.receiveDataNegotiated app 0 dataType)) c fun r c' => r = .ok (.bytes data) ∧
      Serves app c' ∧ c'.device.receipts ≤ c.device.receipts + 2 ∧
      c'.device.mailbox.get? (app, dataType) = none := by
  have hfirst := h.fronts.initialLength
  rw [perform, ends_bind, ends_negotiateData]
  have hattempt := h.ends_attempt_some happ hfirst hm hdata
  refine hattempt.mono fun r c₁ hr => ?_
  obtain ⟨rfl, h₁, hreceipts₁, hm₁⟩ := hr
  by_cases hfits : data.length ≤ c.initialLength.toNat
  · rw [if_neg (Nat.not_lt_of_le hfits)] at hm₁
    rw [Negotiation.fit_of_le hfits, andThen_ok, retry, ends_pure, andThen_ok, ends_pure]
    exact ⟨rfl, h₁, by omega, hm₁⟩
  · have hshort := Nat.lt_of_not_le hfits
    obtain ⟨hcapacity, hlength⟩ := validCapacity_max hdata hfirst
    rw [if_pos hshort] at hm₁
    rw [Negotiation.fit_of_lt hshort, andThen_ok, retry_tooSmall, ends_bind]
    have hsecond := h₁.ends_attempt_some happ hcapacity hm₁ hdata
    refine hsecond.mono fun r c₂ hr => ?_
    obtain ⟨rfl, h₂, hreceipts₂, hm₂⟩ := hr
    rw [if_neg (Nat.not_lt_of_le hlength)] at hm₂
    rw [Negotiation.fit_of_le hlength, andThen_ok, complete, ends_pure, andThen_ok, ends_pure]
    exact ⟨rfl, h₂, by omega, hm₂⟩

/-- A call that makes its retry by itself does not receive what the device has not kept. -/
theorem Serves.ends_negotiated_none (h : Serves app c) (happ : ValidApp app)
    (hm : c.device.mailbox.get? (app, dataType) = none) :
    Ends (perform (.receiveDataNegotiated app 0 dataType)) c fun r _ =>
      r = .error .appletInvalidMessage := by
  rw [perform, ends_bind, ends_negotiateData]
  have hfirst := h.ends_attempt_none happ h.fronts.initialLength hm
  refine hfirst.mono fun r c' hr => ?_
  subst hr
  exact rfl

/-- Data that is sent is kept by the device. -/
theorem Serves.ends_sendData (h : Serves app c) (happ : ValidApp app) (hdata : ValidData data)
    (dataType : UInt32) :
    Ends (perform (.sendData app 0 dataType data)) c fun r c' => r = .ok .done ∧ Serves app c' ∧
      c'.device.mailbox.get? (app, dataType) = some data := by
  obtain ⟨hresult, havailable, hmailbox⟩ := h.available.sendData happ.2 dataType hdata
  have hfronts := outlasts_fronts.perform (.sendData app 0 dataType data) c h.fronts
  have hstands : Call.StandsFor c.remote.caller (.sendData app 0 dataType data) .sendData
      (.sendData app none dataType data) := .sendData happ hdata
  have hcall := ends_perform_direct hstands h.fronts.descriptor h.fronts.short
  have hdone : ((Operator.perform (.sendData app none dataType data)).run
      c.remote.dispatcher.operator).1 = .ok () := hresult
  refine (hfronts.and hcall).mono fun r c' ⟨hfronts, hop, hr⟩ => ⟨?_, ⟨hfronts, ?_⟩, ?_⟩
  · have hconveyed : Conveyable .sendData .empty ((Operator.perform
        (.sendData app none dataType data)).run c.remote.dispatcher.operator).1 := by
      rw [hdone]
      exact trivial
    exact (hr hconveyed).trans (congrArg (Except.map (Answer.of .empty)) hdone)
  · rw [hop]
    exact havailable
  · rw [device, hop]
    exact hmailbox

/-- Whatever has happened to the stack before, once the link is connected, the device is on line
with no fault set up and an app is installed: data of up to 65535 bytes can be sent to it, a call
that makes its retry by itself receives this data with two requests at most, whatever capacity the
client begins with, and whoever asks for it again is told that there is none. -/
theorem negotiated_transfer (h : Reachable c)
    (hconnected : c.remote.dispatcher.operator.link.connected = true)
    (hcalm : c.remote.dispatcher.operator.link.transport.Calm)
    (hinstalled : c.device.isInstalled app = true) (happ : ValidApp app) (hdata : ValidData data)
    (dataType : UInt32) :
    Ends (perform (.sendData app 0 dataType data)) c fun r c₁ => r = .ok .done ∧
      Ends (perform (.receiveDataNegotiated app 0 dataType)) c₁ fun r c₂ => r = .ok (.bytes data) ∧
        c₂.device.receipts ≤ c₁.device.receipts + 2 ∧
        (Ends (perform (.receiveDataNegotiated app 0 dataType)) c₂ fun r _ =>
          r = .error .appletInvalidMessage) ∧
        ∀ capacity, ValidCapacity capacity →
          Ends (perform (.receiveData app 0 dataType capacity)) c₂ fun r _ =>
            r = .error .appletInvalidMessage := by
  have hserves : Serves app c :=
    ⟨h.fronts, h.fronts.reachable, hconnected, hcalm, hinstalled⟩
  refine (hserves.ends_sendData happ hdata dataType).mono fun r c₁ ⟨hsent, hserves₁, hkept⟩ =>
    ⟨hsent, ?_⟩
  refine (hserves₁.ends_negotiated_some happ hkept hdata).mono
    fun r c₂ ⟨hreceived, hserves₂, hreceipts, hgone⟩ => ⟨hreceived, hreceipts, ?_, ?_⟩
  · exact hserves₂.ends_negotiated_none happ hgone
  · intro capacity hcapacity
    rw [perform, ends_bind]
    refine (hserves₂.ends_attempt_none happ hcapacity hgone).mono fun r c' hr => ?_
    rw [hr]
    exact rfl

/-- A client whose first capacity is a single byte, in front of a gateway with one app. -/
def onlyByte : Client (Direct (Service Attended)) :=
  .new ⟨{ operator := Service.start ["a"] Guid.nil {} [], descriptor := "i" }, ⟨.self, 0⟩⟩ "i" 1

/-- Three bytes are received with a first capacity of one. -/
theorem negotiated_transfer_three :
    ∃ c, c = ((perform .init).run onlyByte).2 ∧ Reachable c ∧ c.initialLength = 1 ∧
      Ends (perform (.sendData "a" 0 2 [1, 2, 3])) c fun _ c₁ =>
        Ends (perform (.receiveDataNegotiated "a" 0 2)) c₁ fun r _ =>
          r = .ok (.bytes [1, 2, 3]) := by
  refine ⟨_, rfl, ?_⟩
  have hreach : Reachable ((perform .init).run onlyByte).2 :=
    (Reachable.new _ _ _ _ _ _ (by decide)).perform .init
  generalize hc : ((perform .init).run onlyByte).2 = c at hreach ⊢
  have hfacts : c.initialLength = 1 ∧ c.remote.dispatcher.operator.link.connected = true ∧
      c.remote.dispatcher.operator.link.transport.agenda = [] ∧ c.device.offline = false ∧
      c.device.refuseNext = none ∧ c.device.garbleNext = false ∧
      c.device.isInstalled "a" = true := by
    rw [← hc]
    decide +kernel
  obtain ⟨hinitial, hconnected, hagenda, hoffline, hrefuse, hgarble, hinstalled⟩ := hfacts
  have happ : ValidApp "a" := ⟨by decide, by decide⟩
  have hdata : ValidData [1, 2, 3] := ⟨by decide, by decide⟩
  have htransfer := negotiated_transfer hreach hconnected ⟨hagenda, hoffline, hrefuse, hgarble⟩
    hinstalled happ hdata 2
  refine ⟨hreach, hinitial, htransfer.mono fun r c₁ ⟨_, hreceive⟩ => ?_⟩
  exact hreceive.mono fun r c₂ ⟨hreceived, _⟩ => hreceived

end Client

end AppletGateway
