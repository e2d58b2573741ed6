import AppletGateway.Proofs.Admission
import AppletGateway.Proofs.LostHandles
import AppletGateway.Proofs.Transfers

/-!
# Sixteen-bit lengths

Lengths and capacities have sixteen bits on the co-processor. The dispatcher checks the data that is
sent and every capacity against this bound. It does not check the token and the vendor data of a
request for a one-time password, so these are forwarded as long as they are, up to what a frame
holds.

Results:
* `Request.Admits.narrow_iff`: which admitted operations ask for something within the bounds.
* `Service.narrow_but_tokens`: what is forwarded breaks the bounds exactly if it is a request for a
  one-time password with a token or vendor data that is too long.
-/

namespace AppletGateway

open Applet (Inbound noHandle)
open Packed (pack packTag packLength)

/-- The capacities that a request declares. -/
def Applet.Request.capacities : Applet.Request → List UInt32
  | endProvisioning _ _ capacity | receiveData _ _ _ capacity | sendAndReceive _ _ _ _ capacity
  | capabilities _ _ capacity => [capacity]
  | getOtp _ _ _ _ otpCapacity tokenCapacity => [otpCapacity, tokenCapacity]
  | _ => []

/-- All lengths of the request fit into sixteen bits. -/
structure Applet.Request.Narrow (q : Applet.Request) : Prop where
  blobs : ∀ b ∈ q.blobs, b.length ≤ 65535
  capacities : ∀ c ∈ q.capacities, c.toNat ≤ 65535

/-- The operation asks for a one-time password with a token or vendor data that is too long. -/
def Operation.Overlong : Operation → Prop
  | .getOtp _ r => 65535 < r.token.length ∨ 65535 < r.vendorData.length
  | _ => False

theorem Applet.Request.narrow_of_seats {q : Applet.Request} (h : q.seats = true) : q.Narrow := by
  cases q with
  | openSession | closeSession | uninstall | subscribe | unsubscribe => exact ⟨nofun, nofun⟩
  | _ => cases h

/-- What an admitted operation is there to ask for is within the bounds, unless a token or vendor
data is too long. -/
theorem Request.Admits.narrow_iff {caller : Caller} {request : Request} {o : Operation}
    {q : Applet.Request} (h : request.Admits caller o) (hq : o.request? = some q) :
    q.Narrow ↔ ¬ o.Overlong := by
  cases h with
  | init | deinit | getVersion | getAppInstance | registerEvents | unregisterEvents
  | startInstance | stopInstance => cases hq
  | startProvisioning | install | installOtps | uninstall | uninstallOtps | getOtpsStatus =>
    cases hq
    exact iff_of_true ⟨nofun, nofun⟩ id
  | endProvisioning _ hcapacity | receiveData _ hcapacity | getSvpMessage _ hcapacity
  | getCapabilities _ hcapacity | getOtpCapabilities _ hcapacity =>
    cases hq
    exact iff_of_true ⟨nofun, List.forall_mem_singleton.mpr hcapacity.2⟩ id
  | sendData _ hdata | processSvpMessage _ hdata =>
    cases hq
    exact iff_of_true ⟨List.forall_mem_singleton.mpr hdata.2, nofun⟩ id
  | sendAndReceiveData _ hdata hcapacity =>
    cases hq
    exact iff_of_true ⟨List.forall_mem_singleton.mpr hdata.2,
      List.forall_mem_singleton.mpr hcapacity.2⟩ id
  | @getOtp app handle token vendorData _ _ _ hotp htoken _ =>
    cases hq
    show _ ↔ ¬ (65535 < token.length ∨ 65535 < vendorData.length)
    rw [not_or, Nat.not_lt, Nat.not_lt]
    constructor
    · intro hnarrow
      exact ⟨hnarrow.blobs token List.mem_cons_self,
        hnarrow.blobs vendorData (List.mem_cons_of_mem _ List.mem_cons_self)⟩
    · rintro ⟨hshort, hvendor⟩
      exact ⟨List.forall_mem_cons.mpr ⟨hshort, List.forall_mem_singleton.mpr hvendor⟩,
        List.forall_mem_cons.mpr ⟨hotp.2, List.forall_mem_singleton.mpr htoken⟩⟩

namespace Service

open Link (Undisturbed Asked Seated)

variable {s : Service Attended}

/-- Whoever calls, with whatever envelope, in whatever reachable state: if the dispatcher has the
gateway perform an operation, the requests that this makes of the co-processor are within the bounds
of sixteen bits, except that a token or vendor data that is too long is forwarded in the request for
a one-time password. Otherwise nothing is forwarded. -/
theorem narrow_but_tokens (h : Reachable s) (descriptor : String) (served : Nat) (caller : Caller)
    (code : UInt32) (envelope : Envelope) :
    let after := (Dispatcher.transact caller code envelope).run ⟨s, descriptor, served⟩
    (∃ request o, Request.decode code descriptor envelope = .ok request ∧
      request.Admits caller o ∧ after.2.operator = move (.perform o) s ∧
      ∃ talk, Talks o s talk ∧
        ∀ e ∈ talk, ¬ e.1.Narrow ↔ o.Overlong ∧ o.request? = some e.1) ∨
    (¬ ∃ request o, Request.decode code descriptor envelope = .ok request ∧
      request.Admits caller o) ∧ after.2.operator = s := by
  intro after
  rcases Dispatcher.transact_cases ⟨s, descriptor, served⟩ caller code envelope with
    ⟨request, o, hdecode, hadmits, hafter⟩ | ⟨hno, hafter, _⟩
  · refine .inl ⟨request, o, hdecode, hadmits, hafter, ?_⟩
    obtain ⟨talk, htalks, hown⟩ := talks_own h.healthy.sound o
    refine ⟨talk, htalks, fun e he => ?_⟩
    by_cases hq : o.request? = some e.1
    · rw [and_iff_left hq]
      exact (not_congr (hadmits.narrow_iff hq)).trans Classical.not_not
    · have hnarrow := Applet.Request.narrow_of_seats ((hown e he).resolve_right hq)
      exact iff_of_false (not_not_intro hnarrow) fun h => hq h.2
  · exact .inr ⟨hno, hafter⟩

/-! ## A token that is too long -/

/-- Two outputs that are given are given whole, or the second is left out. -/
theorem of_fitPair {first second first' second' : Bytes} {firstCapacity secondCapacity : UInt32}
    (h : Negotiation.fitPair first firstCapacity second secondCapacity =
      .complete (first', second')) : first' = first ∧ second'.length ≤ second.length := by
  -- What is left of the second output is the same in both cases below.
  have hkept : (if secondCapacity = 0 then [] else second).length ≤ second.length := by
    split
    · exact Nat.zero_le _
    · exact Nat.le_refl _
  rw [Negotiation.fitPair] at h
  generalize (if secondCapacity = 0 then [] else second) = kept at h hkept
  split at h
  · obtain ⟨rfl, rfl⟩ := Prod.mk.inj (Negotiated.complete.inj h)
    exact ⟨rfl, hkept⟩
  · cases h

/-- The reply to a request for a one-time password fits if the token does. -/
theorem fits_getOtp (d : Device) (app : String) (handle : UInt32) {token : Bytes}
    (htoken : token.length ≤ 100000) (vendorData : Bytes) (otpCapacity tokenCapacity : UInt32) :
    Fits (Inbound.reply (d.handle
      (.getOtp app handle token vendorData otpCapacity tokenCapacity)).1) := by
  have hbrief (code : UInt32) : Fits (Inbound.reply (.failed code)) :=
    Applet.Reply.Brief.fits_inbound (.inr ⟨code, rfl⟩)
  refine Device.handle_cases (P := fun r _ => Fits (Inbound.reply r)) _ (fun code _ => hbrief code)
    fun _ => ?_
  simp only [Device.answer, ends_bind, Device.ends_requireOpen]
  split
  · simp only [andThen_ok, ends_ite]
    split
    · exact hbrief _
    · rw [ends_bind]
      refine Device.ends_requireHandle (fun _ => ?_) (hbrief _)
      simp only [andThen_ok, Device.nextOtp, ends_bind, ends_modify, ends_get, ends_pure]
      split
      · rename_i password refreshed hcomplete
        obtain ⟨rfl, hrefreshed⟩ := of_fitPair hcomplete
        have hshort : refreshed.length ≤ token.length := by
          refine Nat.le_trans hrefreshed ?_
          split
          · exact Nat.zero_le _
          · exact Nat.le_of_eq (List.length_map _)
        refine Applet.Reply.fits_otp ?_
        show 8 + refreshed.length ≤ 200000
        omega
      · exact Applet.Reply.fits_tooSmall _
  · exact hbrief _

/-- The request for a one-time password reaches the device with the token that the caller gave. -/
theorem Available.getOtp {app : String} (h : Available app s) (happ : app.utf8ByteSize ≤ 32)
    {token : Bytes} (htoken : token ≠ []) (vendorData : Bytes)
    (hlength : token.length + vendorData.length ≤ 100000) {otpCapacity : UInt32}
    (hcapacity : otpCapacity ≠ 0) (tokenCapacity : UInt32) :
    .getOtp app noHandle token vendorData otpCapacity tokenCapacity ∈
      (move (.perform (.getOtp app ⟨none, token, vendorData, otpCapacity, tokenCapacity⟩))
        s).link.transport.device.received := by
  suffices hrun : Ends (Service.getOtp app ⟨none, token, vendorData, otpCapacity, tokenCapacity⟩) s
      fun _ s' => .getOtp app noHandle token vendorData otpCapacity tokenCapacity ∈
        s'.link.transport.device.received from hrun
  have hfits : Fits (Applet.Request.getOtp app noHandle token vendorData otpCapacity
      tokenCapacity) := by
    refine Applet.Request.fits_of_le happ ?_
    show (token ++ (vendorData ++ [])).length ≤ 262000
    rw [List.append_nil, List.length_append]
    omega
  unfold Service.getOtp
  dsimp only
  rw [if_neg hcapacity, if_neg (fun h => htoken h.2)]
  refine guards_requireInit.pass h.connected ?_
  refine (h.ends_request happ (fun reply => (reply.asOtp otpCapacity tokenCapacity).map
      (Negotiated.map fun out => (⟨out.1, out.2⟩ : Otp)))
    (fun reply t => ?_) hfits fun l hl => ?_).mono fun _ s' hrequest => ?_
  · cases reply.asOtp otpCapacity tokenCapacity <;> rfl
  · exact fits_getOtp _ _ _ (by omega) _ _ _
  · obtain ⟨l, _, _, hasked⟩ := hrequest
    rw [hasked.device]
    show _ ∈ (Device.handle _ _).2.received
    rw [(Device.settings_handle _ _).2.2.2]
    exact List.mem_append_right _ List.mem_cons_self

/-- A token of 65536 bytes is taken by the dispatcher and reaches the device. -/
theorem long_token_received :
    ∃ (s : Service Attended) (token : Bytes) (o : Operation),
      s = run [.perform .init] (start ["a"] Guid.nil {} []) ∧ token.length = 65536 ∧
      o = .getOtp "a" ⟨none, token, [], 64, 0⟩ ∧ o.Overlong ∧
      let after := (Dispatcher.transact ⟨.self, 0⟩ Opcode.getOtp.code
        ((Request.getOtp "a" 0 token [] 64 0).encode "i")).run ⟨s, "i", 0⟩
      after.2.operator = move (.perform o) s ∧
      (∃ talk, Talks o s talk ∧
        ∀ e ∈ talk, ¬ e.1.Narrow ↔ o.Overlong ∧ o.request? = some e.1) ∧
      ∃ q ∈ after.2.operator.link.transport.device.received, ¬ q.Narrow := by
  have hlength : (List.replicate 65536 1 : Bytes).length = 65536 := List.length_replicate
  -- Nothing depends on the bytes of the token.
  generalize (List.replicate 65536 1 : Bytes) = token at hlength
  have hne : token ≠ [] := List.ne_nil_of_length_pos (by omega)
  have hlong : (Operation.getOtp "a" ⟨none, token, [], 64, 0⟩).Overlong := .inl (by
    show 65535 < token.length
    omega)
  refine ⟨_, token, _, rfl, hlength, rfl, hlong, ?_⟩
  have hreach : Reachable (run [.perform .init] (start ["a"] Guid.nil {} [])) :=
    (Reachable.start ["a"] Guid.nil {} []).move (.perform .init)
  generalize hs : run [.perform .init] (start ["a"] Guid.nil {} []) = s at hreach ⊢
  have hready : s.link.connected = true ∧ s.link.transport.agenda = [] ∧
      s.link.transport.device.offline = false ∧ s.link.transport.device.refuseNext = none ∧
      s.link.transport.device.garbleNext = false ∧
      s.link.transport.device.isInstalled "a" = true := by
    rw [← hs]
    decide +kernel
  obtain ⟨hconnected, hagenda, hoffline, hrefuse, hgarble, hinstalled⟩ := hready
  have havailable : Available "a" s :=
    ⟨hreach, hconnected, ⟨hagenda, hoffline, hrefuse, hgarble⟩, hinstalled⟩
  have happ : ValidApp "a" := ⟨by decide, by decide⟩
  have hdecode : Request.decode Opcode.getOtp.code "i"
      ((Request.getOtp "a" 0 token [] 64 0).encode "i") = .ok (.getOtp "a" 0 token [] 64 0) := by
    have htoken : Envelope.Fits .blob token := by
      show token.length < 2147483648
      omega
    have hvendor : Envelope.Fits .blob [] := Nat.two_pow_pos 31
    exact Request.decode_encode (q := .getOtp "a" 0 token [] 64 0) (by decide)
      ⟨happ.fits, trivial, htoken, hvendor, trivial, trivial, trivial⟩
  have hadmits : (Request.getOtp "a" 0 token [] 64 0).Admits ⟨.self, 0⟩
      (.getOtp "a" ⟨none, token, [], 64, 0⟩) :=
    .getOtp happ ⟨by decide, by decide⟩ (by decide) (.inr ⟨rfl, hne⟩)
  rcases narrow_but_tokens hreach "i" 0 ⟨.self, 0⟩ Opcode.getOtp.code
      ((Request.getOtp "a" 0 token [] 64 0).encode "i") with
    ⟨request, o, hdecode', hadmits', hafter, htalk⟩ | ⟨hno, _⟩
  · obtain rfl := Except.ok.inj (hdecode.symm.trans hdecode')
    obtain rfl := hadmits.unique hadmits'
    have hcapacity : (64 : UInt32) ≠ 0 := by decide
    have hreceived := havailable.getOtp happ.2 hne [] (by
      show token.length + 0 ≤ 100000
      omega) hcapacity 0
    refine ⟨hafter, htalk, .getOtp "a" noHandle token [] 64 0, ?_, fun hnarrow => ?_⟩
    · rw [hafter]
      exact hreceived
    have hshort := hnarrow.blobs token List.mem_cons_self
    omega
  · exact absurd ⟨_, _, hdecode, hadmits⟩ hno

end Service

end AppletGateway
