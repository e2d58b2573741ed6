import AppletGateway.Proofs.Rejections
import AppletGateway.Proofs.Sizes
import AppletGateway.Transport.Scripted

/-!
# Declared capacities

Whatever the co-processor answers, no operation gives out more than its caller has declared. An
operation with an output either fails before it has made its own request, or this is the last
request that it makes, and the answer decides: an output that fits is given as it was sent, and
instead of one that does not fit its length is told. A caller who ends a provisioning and has
declared too little keeps the handle and can ask again.

Results:
* `Service.fitted_asData`, `Service.fittedOtp_otpOf`: what is told of a reply.
* `Service.Reached.valid`: no header that the link has read announces more than a frame holds.
* `Service.outputs_fit`: what the operations tell of the answers to their requests.
-/

namespace AppletGateway

open Link (Talk Converses)

namespace Service

variable {τ : Type} [Transport τ] {α : Type} {o : Operation} {app : String} {s : Service τ}
  {t : Turn τ} {l l' : Link τ} {q : Applet.Request} {handle : Option UInt32}

/-! ## What the caller is told -/

/-- The lengths of the outputs, as they are. -/
def Tells (required : Lengths) (lengths : List Nat) : Prop :=
  required.toList.map UInt32.toNat = lengths

/-- What a caller who has declared the capacity is told of the answer: the data that was sent if it
fits, and its length if it does not. If the co-processor says itself what it needs, that is passed
on, and other answers are failures. -/
inductive Fitted (capacity : UInt32) :
    Except LinkError Applet.Reply → Except Status (Negotiated Bytes) → Prop
  | complete {d : Bytes} (hfits : d.length ≤ capacity.toNat) :
    Fitted capacity (.ok (.data d)) (.ok (.complete d))
  | tooSmall {d : Bytes} {required : Lengths} (hlong : capacity.toNat < d.length)
    (htold : Tells required [d.length]) : Fitted capacity (.ok (.data d)) (.ok (.tooSmall required))
  | passedOn (required : List UInt32) :
    Fitted capacity (.ok (.tooSmall required)) (.ok (.tooSmall (.ofList required)))
  | failed {answer : Except LinkError Applet.Reply} (hdata : ∀ d, answer ≠ .ok (.data d))
    (hneeds : ∀ required, answer ≠ .ok (.tooSmall required)) (e : Status) :
    Fitted capacity answer (.error e)

/-- The same for a one-time password and a token. Both lengths are told if one of them does not fit,
and a token for which there is no room is not asked for: it counts as empty. -/
inductive FittedOtp (request : OtpRequest) :
    Except LinkError Applet.Reply → Except Status (Negotiated Otp) → Prop
  | complete {password token kept : Bytes}
    (hkept : kept = if request.tokenCapacity = 0 then [] else token)
    (hpassword : password.length ≤ request.otpCapacity.toNat)
    (htoken : kept.length ≤ request.tokenCapacity.toNat) :
    FittedOtp request (.ok (.otp password token)) (.ok (.complete ⟨password, kept⟩))
  | tooSmall {password token kept : Bytes} {required : Lengths}
    (hkept : kept = if request.tokenCapacity = 0 then [] else token)
    (hlong : request.otpCapacity.toNat < password.length ∨
      request.tokenCapacity.toNat < kept.length)
    (htold : Tells required [password.length, kept.length]) :
    FittedOtp request (.ok (.otp password token)) (.ok (.tooSmall required))
  | passedOn (required : List UInt32) :
    FittedOtp request (.ok (.tooSmall required)) (.ok (.tooSmall (.ofList required)))
  | failed {answer : Except LinkError Applet.Reply}
    (hotp : ∀ password token, answer ≠ .ok (.otp password token))
    (hneeds : ∀ required, answer ≠ .ok (.tooSmall required)) (e : Status) :
    FittedOtp request answer (.error e)

/-- The length of an output that has come in a reply is told as it is. -/
theorem tells_one {reply : Applet.Reply} (hsize : reply.size ≤ Frame.maxPayload) {n : Nat}
    (hn : n ≤ reply.size) : Tells (.ofList [UInt32.ofNat n]) [n] := by
  show [(UInt32.ofNat n).toNat] = [n]
  rw [Frame.toNat_length (Nat.le_trans hn hsize)]

/-- So are the lengths of two. -/
theorem tells_two {reply : Applet.Reply} (hsize : reply.size ≤ Frame.maxPayload) {m n : Nat}
    (hm : m ≤ reply.size) (hn : n ≤ reply.size) :
    Tells (.ofList [UInt32.ofNat m, UInt32.ofNat n]) [m, n] := by
  show [(UInt32.ofNat m).toNat, (UInt32.ofNat n).toNat] = [m, n]
  rw [Frame.toNat_length (Nat.le_trans hm hsize), Frame.toNat_length (Nat.le_trans hn hsize)]

theorem fitted_asData {capacity : UInt32} {reply : Applet.Reply}
    (hsize : reply.size ≤ Frame.maxPayload) :
    Fitted capacity (.ok reply) (reply.asData capacity) := by
  cases reply with
  | data d =>
    show Fitted capacity _ (.ok (Negotiation.fit d capacity))
    rcases Nat.lt_or_ge capacity.toNat d.length with hlong | hfits
    · rw [Negotiation.fit_of_lt hlong]
      exact .tooSmall hlong (tells_one hsize (Nat.le_refl d.length))
    · rw [Negotiation.fit_of_le hfits]
      exact .complete hfits
  | tooSmall required => exact .passedOn required
  | _ =>
    refine Fitted.failed ?_ ?_ _
    · rintro _ ⟨⟩
    · rintro _ ⟨⟩

theorem fittedOtp_otpOf {request : OtpRequest} {reply : Applet.Reply}
    (hsize : reply.size ≤ Frame.maxPayload) :
    FittedOtp request (.ok reply) (otpOf request reply) := by
  cases reply with
  | otp password token =>
    show FittedOtp request _ (.ok ((Negotiation.fitPair password request.otpCapacity token
      request.tokenCapacity).map fun out => ⟨out.1, out.2⟩))
    have hkept : (if request.tokenCapacity = 0 then [] else token).length ≤ token.length := by
      split
      · exact Nat.zero_le _
      · exact Nat.le_refl _
    by_cases hfits : password.length ≤ request.otpCapacity.toNat ∧
        (if request.tokenCapacity = 0 then [] else token).length ≤ request.tokenCapacity.toNat
    · rw [Negotiation.fitPair_of_fits hfits]
      exact .complete rfl hfits.1 hfits.2
    · rw [Negotiation.fitPair_of_not_fits hfits]
      have hlong : request.otpCapacity.toNat < password.length ∨ request.tokenCapacity.toNat <
          (if request.tokenCapacity = 0 then [] else token).length := by
        rw [← Nat.not_le, ← Nat.not_le]
        exact Decidable.not_and_iff_not_or_not.mp hfits
      refine .tooSmall rfl hlong (tells_two hsize ?_ ?_)
      · exact Nat.le_add_right password.length token.length
      · exact Nat.le_trans hkept (Nat.le_add_left token.length password.length)
  | tooSmall required => exact .passedOn required
  | _ =>
    refine FittedOtp.failed ?_ ?_ _
    · rintro _ _ ⟨⟩
    · rintro _ ⟨⟩

/-! ## What every access keeps -/

/-- What every access to the channel keeps, the operations keep. -/
theorem stable_perform {I : Link τ → Prop} (hI : Link.Stable I) (hs : s.registry.Sound)
    (o : Operation) (h : I s.link) : I ((perform o).run s).2.link := by
  by_cases hi : o = .init
  · subst hi
    exact hI.connect s.link h
  by_cases hd : o = .deinit
  · subst hd
    have hrun : ((perform .deinit).run s).2 = _ := congrArg Prod.snd (run_deinit s)
    rw [hrun]
    split
    · obtain ⟨_, hc, _⟩ := converses_closeDrained (Registry.drain.run s.registry).1 s.link
      exact hI.disconnect (hc.keeps (fun l e _ hl => hI.exchange e.1 l hl) h)
    · exact h
  have hgoes := ends_goes hs hi hd
  unfold Ends at hgoes
  generalize ((perform o).run s).2 = s' at hgoes
  cases hgoes with
  | nothing => exact h
  | turn _ hended =>
    obtain ⟨_, hc, _⟩ := hended.conversed (hs.app_rowOrFresh _)
    exact hc.keeps (fun l e _ hl => hI.exchange e.1 l hl) h

/-- No header that the link has read announces more than a frame holds. -/
theorem Reached.valid {s : Service (Observed τ)} (h : Reached s) : s.link.decoder.Valid := by
  induction h with
  | start => exact Frame.Decoder.valid_new []
  | perform h o ih => exact stable_perform Link.stable_valid h.tidy.1 o ih
  | @poll s _ ih => exact Link.stable_valid.pollEvents s.link ih
  | collect _ ih => exact ih
  | outside _ _ ih => exact ih

/-! ## How a result comes about -/

/-- How an operation has come by its result, on the way of the link from `l` to another state. It
has failed before its own request was made; or its own request was the last one that it made, and
the result is what `reads` allows for the answer. Before, it asks for sessions and subscriptions
only. -/
inductive Answered (o : Operation)
    (reads : Except LinkError Applet.Reply → Except Status α → Prop) (l : Link τ) :
    Except Status α → Link τ → Prop
  | unasked {talk : Talk} {l' : Link τ} (hc : Converses l talk l')
    (hseats : ∀ e ∈ talk, e.1.seats = true) (e : Status) : Answered o reads l (.error e) l'
  | asked {talk : Talk} {l' : Link τ} {q : Applet.Request} {r : Except Status α}
    (hc : Converses l talk l') (hseats : ∀ e ∈ talk, e.1.seats = true) (hq : o.request? = some q)
    (h : reads ((Link.exchange q).run l').1 r) :
    Answered o reads l r ((Link.exchange q).run l').2

variable {reads : Except LinkError Applet.Reply → Except Status α → Prop}

theorem answered_refused (e : Status) : Answered o reads l (.error e) l := .unasked (.nil l) nofun e

/-- An answer that is read holds no more than a frame, if the decoder has read good headers only. -/
theorem Answered.of_valid {reads' : Except LinkError Applet.Reply → Except Status α → Prop}
    {r : Except Status α} (h : Answered o reads l r l') (hvalid : l.decoder.Valid)
    (hreads : ∀ answer r, (∀ reply, answer = .ok reply → reply.size ≤ Frame.maxPayload) →
      reads answer r → reads' answer r) : Answered o reads' l r l' := by
  cases h with
  | unasked hc hseats e => exact .unasked hc hseats e
  | @asked talk l' q r hc hseats hq hr =>
    have hkept : l'.decoder.Valid :=
      hc.keeps (fun l e _ hl => Link.stable_valid.exchange e.1 l hl) hvalid
    exact .asked hc hseats hq (hreads _ r (Link.ends_exchange_size hkept q) hr)

/-- A result is read off the answer to the operation's own request. -/
theorem Answered.reads_of_ok {a : α} (h : Answered o reads l (.ok a) l') :
    ∃ answer, reads answer (.ok a) := by
  cases h with
  | asked _ _ _ hr => exact ⟨_, hr⟩

/-- The result is what `convert` makes of the answer, or the failure of the link. -/
def ConvertsTo (convert : Applet.Reply → Except Status α)
    (answer : Except LinkError Applet.Reply) (r : Except Status α) : Prop :=
  r = (answer.mapError LinkError.status).bind convert

variable {convert : Applet.Reply → Except Status α}

/-- What follows the operation's own request. -/
theorem answered_call {talk : Talk} (hc : Converses l talk t.link)
    (hseats : ∀ e ∈ talk, e.1.seats = true) (hq : o.request? = some q)
    {next : Applet.Reply → OnRow τ α}
    (hnext : ∀ reply t, Ends (next reply) t fun r t' => r = convert reply ∧ t'.link = t.link) :
    Ends (call q >>= next) t fun r t' => Answered o (ConvertsTo convert) l r t'.link := by
  refine ends_call_bind (fun e ha => ?_) fun reply ha => ?_
  · have hread : ConvertsTo convert (t.answer q) (.error e.status) := by
      rw [ha]
      rfl
    exact .asked hc hseats hq hread
  · refine (hnext reply (t.after q)).mono fun r t' hend => ?_
    obtain ⟨rfl, hlink⟩ := hend
    have hread : ConvertsTo convert (t.answer q) (convert reply) := by
      rw [ha]
      rfl
    rw [hlink]
    exact .asked hc hseats hq hread

omit [Transport τ] in
theorem ends_convert (reply : Applet.Reply) (t : Turn τ) :
    Ends (ofExcept (convert reply)) t fun r t' => r = convert reply ∧ t'.link = t.link := by
  cases convert reply <;> exact ⟨rfl, rfl⟩

/-- A request over an open session. -/
theorem answered_session (ht : t.row.app = app) (request : UInt32 → Applet.Request)
    (hq : o.request? = some (request (handle.getD Applet.noHandle))) :
    Ends (do
      let handle ← sessionHandle handle
      ensureLoaded
      ofExcept (convert (← call (request handle)))) t fun r t' =>
        Answered o (ConvertsTo convert) t.link r t'.link := by
  rw [ends_bind]
  refine (ends_sessionHandle handle).mono fun r t₁ hhandle => ?_
  obtain ⟨rfl, hsent⟩ := hhandle
  cases r with
  | error e => exact answered_refused e
  | ok sent =>
    obtain rfl := hsent sent rfl
    rw [andThen_ok, ends_bind]
    -- Opening the session asks for nothing else, whatever operation it is for.
    refine (ends_ensureLoaded (o := .version) ht).mono fun r t₂ hopened => ?_
    obtain ⟨talk, hc, hasks⟩ := hopened.1.conversed ht
    have hseats : ∀ e ∈ talk, e.1.seats = true := fun e he =>
      (hasks e he).seats.resolve_right nofun
    cases r with
    | error e => exact .unasked hc hseats e
    | ok _ => exact answered_call hc hseats hq ends_convert

/-! ## The operations -/

/-- The call `x` performs an operation with one output, for which it declares the capacity. -/
inductive OneOutput : Operation → UInt32 → Act (Service τ) (Negotiated Bytes) → Prop
  | endProvisioning (app : String) (handle capacity : UInt32) :
    OneOutput (.endProvisioning app handle capacity) capacity (endProvisioning app handle capacity)
  | receiveData (app : String) (handle : Option UInt32) (dataType capacity : UInt32) :
    OneOutput (.receiveData app handle dataType capacity) capacity
      (receiveData app handle dataType capacity)
  | sendAndReceive (app : String) (handle : Option UInt32) (dataType : UInt32) (data : Bytes)
      (capacity : UInt32) :
    OneOutput (.sendAndReceive app handle dataType data capacity) capacity
      (sendAndReceive app handle dataType data capacity)
  | capabilities (app : String) (capType capacity : UInt32) :
    OneOutput (.capabilities app capType capacity) capacity (capabilities app capType capacity)

/-- An inquiry makes its request last and reads the reply. -/
theorem Inquiry.answered {request : UInt32 → Applet.Request}
    {read : Applet.Reply → Except Status o.Answer} (h : Inquiry o app handle request read)
    (hs : s.registry.Sound) : Ends (perform o) s fun r s' =>
      Answered o (ConvertsTo read) s.link r s'.link := by
  refine ends_perform_of_tasks ?_ ?_ (fun e _ => answered_refused e) (fun _ hidle => ?_)
    fun app' x _ htask => ?_
  · rintro rfl
    cases h
  · rintro rfl
    cases h
  · obtain rfl | ⟨_, rfl, _⟩ := hidle <;> cases h
  · obtain ⟨rfl, rfl⟩ := h.task htask
    exact answered_session (t := s.turn app') (hs.app_rowOrFresh app') request h.request?

theorem answered_endProvisioning (handle capacity : UInt32) :
    Ends (endProvisioning app handle capacity) s fun r s' =>
      Answered (.endProvisioning app handle capacity) (ConvertsTo (Applet.Reply.asData capacity))
        s.link r s'.link := by
  refine guards_requireInit.ends (fun _ => answered_refused _) fun _ => ?_
  rw [ends_onExisting]
  split
  · exact answered_refused _
  · rw [ends_bind, ends_get, andThen_ok, ends_bind]
    cases (s.turn app).row.expectProvisioning handle with
    | error e => exact answered_refused e
    | ok _ =>
      refine answered_call (t := s.turn app) (.nil s.link) nofun rfl fun reply t => ?_
      rcases reply.asData capacity with e | (token | required)
      · dsimp only
        split
        · exact ⟨rfl, rfl⟩
        · exact ⟨rfl, rfl⟩
      · exact ⟨rfl, rfl⟩
      · exact ⟨rfl, rfl⟩

theorem OneOutput.answered {capacity : UInt32} {x : Act (Service τ) (Negotiated Bytes)}
    (h : OneOutput o capacity x) (hs : s.registry.Sound) : Ends x s fun r s' =>
      Answered o (ConvertsTo (Applet.Reply.asData capacity)) s.link r s'.link := by
  cases h with
  | endProvisioning app handle => exact answered_endProvisioning handle capacity
  | receiveData app handle dataType =>
    exact (Inquiry.receiveData app handle dataType capacity).answered hs
  | sendAndReceive app handle dataType data =>
    exact (Inquiry.sendAndReceive app handle dataType data capacity).answered hs
  | capabilities app capType => exact (Inquiry.capabilities app capType capacity).answered hs

/-- A caller who ends a provisioning and has declared too little keeps the handle. -/
theorem ends_endProvisioning_tooSmall (hs : s.registry.Sound) {handle capacity : UInt32} :
    Ends (endProvisioning app handle capacity) s fun r s' =>
      ∀ required, r = .ok (.tooSmall required) →
        ∃ row, s.registry.row? app = some row ∧ row.provisioning = some handle ∧
          s'.registry.row? app = some row := by
  refine guards_requireInit.ends (fun _ => by rintro _ ⟨⟩) fun _ => ?_
  rw [ends_onExisting]
  cases hrow : s.registry.row? app with
  | none => rintro _ ⟨⟩
  | some row =>
    have hsame : (s.turn app).row = row := Registry.rowOrFresh_of_row? hrow
    rw [if_neg (by exact Bool.false_ne_true), ends_bind, ends_get, andThen_ok, ends_bind, hsame,
      Row.expectProvisioning]
    split
    · rename_i hactive
      rw [ofExcept, ends_pure, andThen_ok]
      refine ends_call_bind (fun e _ => by rintro _ ⟨⟩) fun reply _ => ?_
      rcases reply.asData capacity with e | (token | required)
      · dsimp only
        split
        · rintro _ ⟨⟩
        · rintro _ ⟨⟩
      · rintro _ ⟨⟩
      · refine fun _ _ => ⟨row, rfl, hactive, ?_⟩
        show (s.registry.settle app ⟨(s.turn app).row, s.registry.tokens⟩).row? app = some row
        rw [Registry.row?_settle, hsame, hs.staying app row hrow, Row.isVacant, hactive]
        simp
    · rintro _ ⟨⟩

/-- In any state that can be reached, over any channel, and for any capacities. An operation with
one output gives no more than was declared: what it has heard in reply to its own request if that
fits, and the length of it otherwise. A one-time password and a token are given if both fit, and the
token is left out if none was asked for; otherwise both lengths are told. A provisioning that was to
be ended keeps its handle if too little was declared. -/
theorem outputs_fit {s : Service (Observed τ)} (h : Reached s) :
    (∀ o capacity x, OneOutput o capacity x → Ends x s fun r s' =>
      Answered o (Fitted capacity) s.link r s'.link ∧
        ∀ d, r = .ok (.complete d) → d.length ≤ capacity.toNat) ∧
    (∀ app request, Ends (getOtp app request) s fun r s' =>
      Answered (.getOtp app request) (FittedOtp request) s.link r s'.link ∧
        ∀ out, r = .ok (.complete out) → out.password.length ≤ request.otpCapacity.toNat ∧
          out.token.length ≤ request.tokenCapacity.toNat ∧
          (request.tokenCapacity = 0 → out.token = [])) ∧
    ∀ app handle capacity, Ends (endProvisioning app handle capacity) s fun r s' =>
      ∀ required, r = .ok (.tooSmall required) →
        ∃ row, s.registry.row? app = some row ∧ row.provisioning = some handle ∧
          s'.registry.row? app = some row := by
  have hs := h.tidy.1
  refine ⟨fun o capacity x hx => ?_, fun app request => ?_, fun app handle capacity => ?_⟩
  · refine (hx.answered hs).mono fun r s' hr => ?_
    have hfitted : Answered o (Fitted capacity) s.link r s'.link := by
      refine hr.of_valid h.valid ?_
      rintro (e | reply) _ hsize rfl
      · exact .failed (by rintro _ ⟨⟩) (by rintro _ ⟨⟩) _
      · exact fitted_asData (hsize reply rfl)
    refine ⟨hfitted, ?_⟩
    rintro d rfl
    obtain ⟨answer, hread⟩ := hfitted.reads_of_ok
    cases hread with
    | complete hfits => exact hfits
  · refine ((Inquiry.getOtp app request).answered hs).mono fun r s' hr => ?_
    have hfitted : Answered (.getOtp app request) (FittedOtp request) s.link r s'.link := by
      refine hr.of_valid h.valid ?_
      rintro (e | reply) _ hsize rfl
      · exact .failed (by rintro _ _ ⟨⟩) (by rintro _ ⟨⟩) _
      · exact fittedOtp_otpOf (hsize reply rfl)
    refine ⟨hfitted, ?_⟩
    rintro out rfl
    obtain ⟨answer, hread⟩ := hfitted.reads_of_ok
    cases hread with
    | complete hkept hpassword htoken =>
      exact ⟨hpassword, htoken, fun hzero => hkept.trans (if_pos hzero)⟩
  · exact ends_endProvisioning_tooSmall hs

/-- A co-processor that sends a token of three bytes whatever is declared: if three bytes are
declared, the token is given, and if two are, its length is told and the handle stays. -/
theorem token_of_three_bytes : ∃ s : Service (Observed Scripted), Reached s ∧
    ((endProvisioning "clock" 0x1000 3).run s).1 = .ok (.complete [7, 8, 9]) ∧
    Answered (.endProvisioning "clock" 0x1000 3) (Fitted 3) s.link (.ok (.complete [7, 8, 9]))
      ((endProvisioning "clock" 0x1000 3).run s).2.link ∧
    ((endProvisioning "clock" 0x1000 2).run s).1 = .ok (.tooSmall (.ofList [3])) ∧
    ∃ row, ((endProvisioning "clock" 0x1000 2).run s).2.registry.row? "clock" = some row ∧
      row.provisioning = some 0x1000 := by
  let frame (reply : Applet.Reply) : Scripted.Delivery :=
    .data ((Frame.encode (Packed.pack (Applet.Inbound.reply reply))).getD [])
  let channel : Scripted :=
    { deliveries := [frame .done, frame (.handle 0x1000), frame (.data [7, 8, 9])] }
  have hreached := ((Reached.start Guid.nil channel {}).perform .init).perform
    (.startProvisioning "clock")
  generalize hs : ((perform (.startProvisioning "clock")).run ((perform .init).run
    (new (Link.unused Guid.nil channel) {})).2).2 = s at hreached
  have hrun : ((endProvisioning "clock" 0x1000 3).run s).1.toOption =
        some (.complete [7, 8, 9]) ∧
      ((endProvisioning "clock" 0x1000 2).run s).1.toOption = some (.tooSmall (.ofList [3])) := by
    rw [← hs]
    decide +kernel
  have hgiven := eq_ok_of_toOption hrun.1
  have htold := eq_ok_of_toOption hrun.2
  obtain ⟨hone, _, hkept⟩ := outputs_fit hreached
  obtain ⟨hanswered, _⟩ := hone _ _ _ (.endProvisioning "clock" 0x1000 3)
  obtain ⟨row, _, hactive, hrow⟩ := hkept "clock" 0x1000 2 _ htold
  exact ⟨s, hreached, hgiven, hgiven ▸ hanswered, htold, row, hrow, hactive⟩

end Service

end AppletGateway
