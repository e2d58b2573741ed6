import AppletGateway.Proofs.Handles

/-!
# Attempts with too little room

A request whose capacity is too small for its output is answered with the length that is needed, and
the caller asks again. The output should be there still: the device looks at the capacity before it
gives up a token or the data that it keeps, and what is computed from the request alone is computed
again.

A one-time password is the exception. It is drawn before the capacities are looked at, and a
password that has been drawn is never given again. So the attempt leaves everything as it was but
the counter of passwords, and the next attempt gets another password than the one that there was no
room for.

Results:
* `Device.handle_of_tooSmall`: what the device is after such an attempt.
* `Device.overlooks_answer`: no request depends on the record of requests, and only one for a
  password depends on the counter of passwords.
* `Device.tooSmall_costs_password`: what is lost by such an attempt, and what a later request gets.
-/

namespace AppletGateway

open Applet (noHandle)

/-- Whether a request is for a one-time password. -/
def Applet.Request.draws : Applet.Request → Bool
  | getOtp .. => true
  | _ => false

namespace Device

variable {d : Device} {q : Applet.Request} {required : List UInt32}

/-! ## What an attempt leaves -/

/-- The password that is drawn as the `count`-th. -/
def passwordAt (count : UInt32) : Bytes :=
  eightDigits ((count * 7919 + 13579) % 100000000).toNat

theorem ends_nextOtp {Q : Except Applet.Reply Bytes → Device → Prop} :
    Ends nextOtp d Q =
      Q (.ok (passwordAt (d.otpCount + 1))) { d with otpCount := d.otpCount + 1 } := rfl

/-- The device after an attempt at `q` that came to nothing. -/
def attempted (q : Applet.Request) (d : Device) : Device :=
  { d with
    received := d.received ++ [q]
    otpCount := if q.draws then d.otpCount + 1 else d.otpCount }

/-- A request that is answered as too small was not refused, and has left the device as it was but
for its record and the counter of passwords. -/
theorem handle_of_tooSmall (h : (d.handle q).1 = .tooSmall required) :
    d.refuseNext = none ∧ (d.handle q).2 = d.attempted q := by
  let Short (reply : Applet.Reply) (d' : Device) : Prop :=
    reply = .tooSmall required → d.refuseNext = none ∧ d' = d.attempted q
  suffices hshort : Short (d.handle q).1 (d.handle q).2 from hshort h
  refine handle_cases q (fun _ _ => by rintro ⟨⟩) fun hr => ?_
  cases q with
  | openSession app shared =>
    simp only [answer, ends_bind, ends_get, andThen_ok, ends_ite]
    split <;> rintro ⟨⟩
  | closeSession app | unsubscribe app => rintro ⟨⟩
  | install app source =>
    simp only [answer, ends_ite]
    split <;> rintro ⟨⟩
  | uninstall app =>
    simp only [answer, ends_bind, ends_get, andThen_ok, ends_ite]
    split <;> rintro ⟨⟩
  | startProvisioning app =>
    simp only [answer, ends_bind, ends_requireOpen]
    split <;> rintro ⟨⟩
  | endProvisioning app handle capacity =>
    simp only [answer, ends_ite]
    split
    · rintro ⟨⟩
    · simp only [ends_bind]
      refine ends_requireHandle (fun _ => ?_) (by rintro ⟨⟩)
      simp only [andThen_ok, ends_bind, ends_get]
      cases d.provisioning.get? handle with
      | none => rintro ⟨⟩
      | some p =>
        simp only [ends_ite]
        split
        · exact fun _ => ⟨hr, rfl⟩
        · rintro ⟨⟩
  | sendData app handle dataType data =>
    exact ends_admitted (fun _ => by rintro ⟨⟩) fun _ _ => by rintro ⟨⟩
  | receiveData app handle dataType capacity =>
    refine ends_admitted (fun _ => by rintro ⟨⟩) fun _ _ => ?_
    simp only [ends_bind, ends_get, andThen_ok]
    cases d.mailbox.get? (app, dataType) with
    | none => rintro ⟨⟩
    | some data =>
      simp only [ends_ite]
      split
      · exact fun _ => ⟨hr, rfl⟩
      · rintro ⟨⟩
  | sendAndReceive app handle dataType data capacity =>
    exact ends_admitted (fun _ => by rintro ⟨⟩) fun _ _ _ => ⟨hr, rfl⟩
  | capabilities app capType capacity =>
    simp only [answer, ends_bind, ends_requireOpen]
    split
    · rw [andThen_ok]
      split
      · exact fun _ => ⟨hr, rfl⟩
      · exact fun _ => ⟨hr, rfl⟩
      · rintro ⟨⟩
    · rintro ⟨⟩
  | getOtp app handle token vendorData otpCapacity tokenCapacity =>
    simp only [answer, ends_bind, ends_requireOpen]
    split
    · rw [andThen_ok, ends_ite]
      split
      · rintro ⟨⟩
      · rw [ends_bind]
        refine ends_requireHandle (fun _ => ?_) (by rintro ⟨⟩)
        rw [andThen_ok, ends_bind, ends_nextOtp, andThen_ok]
        split <;> exact fun _ => ⟨hr, rfl⟩
    · rintro ⟨⟩
  | otpsStatus app handle statusType =>
    exact ends_admitted (fun _ => by rintro ⟨⟩) fun _ _ => by rintro ⟨⟩
  | subscribe app =>
    simp only [answer, ends_bind, ends_requireOpen]
    split
    · rw [andThen_ok, ends_ite]
      split <;> rintro ⟨⟩
    · rintro ⟨⟩

/-! ## What a later request depends on -/

/-- The device with another record of requests and another count of passwords. -/
def recounted (record : List Applet.Request) (count : UInt32 → UInt32) (d : Device) : Device :=
  { d with received := record, otpCount := count d.otpCount }

/-- The step gives the same whether or not the device has been changed by `f`, and it leaves the
change alone. -/
def Overlooks {α : Type} (f : Device → Device) (x : Answering α) : Prop :=
  ∀ d, x.run (f d) = ((x.run d).1, f (x.run d).2)

section Overlooks

variable {α β : Type} {f : Device → Device} {x : Answering α} {g : α → Answering β}

theorem Overlooks.bind (hx : Overlooks f x) (hg : ∀ a, Overlooks f (g a)) :
    Overlooks f (x >>= g) := by
  intro d
  rw [run_bind, run_bind, hx d]
  rcases x.run d with ⟨_ | a, d'⟩
  · rfl
  · exact hg a d'

theorem overlooks_pure (a : α) : Overlooks f (pure a) := fun _ => rfl

theorem overlooks_refuse (s : Status) : Overlooks f (refuse s : Answering α) := fun _ => rfl

theorem overlooks_refuse_bind (s : Status) : Overlooks f (refuse s >>= g) := fun _ => rfl

theorem overlooks_ite {c : Prop} [Decidable c] {y : Answering α} (hx : Overlooks f x)
    (hy : Overlooks f y) : Overlooks f (if c then x else y) := by
  split
  · exact hx
  · exact hy

/-- A step that looks at nothing of the device that is changed. -/
theorem overlooks_get {g : Device → Answering β} (hsame : ∀ d, g (f d) = g d)
    (hg : ∀ d, Overlooks f (g d)) : Overlooks f (get >>= g) := by
  intro d
  have hrun (d : Device) : (get >>= g).run d = (g d).run d := run_bind get g d
  rw [hrun, hrun, hsame]
  exact hg d d

end Overlooks

variable {record : List Applet.Request} {count : UInt32 → UInt32}

theorem overlooks_requireOpen (app : String) :
    Overlooks (recounted record count) (requireOpen app) := by
  refine overlooks_get (fun _ => rfl) fun d => ?_
  cases d.sessions.get? app with
  | none => exact overlooks_refuse _
  | some shared => exact overlooks_pure shared

theorem overlooks_requireHandle (app : String) (handle : UInt32) :
    Overlooks (recounted record count) (requireHandle app handle) := by
  refine overlooks_ite (overlooks_pure ()) (overlooks_get (fun _ => rfl) fun d => ?_)
  cases d.provisioning.get? handle with
  | none => exact overlooks_refuse _
  | some p => exact overlooks_ite (overlooks_pure ()) (overlooks_refuse _)

theorem overlooks_admitted {α : Type} {app : String} {handle : UInt32} {x : Answering α}
    (hx : Overlooks (recounted record count) x) : Overlooks (recounted record count) (do
      let _ ← requireOpen app
      requireHandle app handle
      x) :=
  (overlooks_requireOpen app).bind fun _ => (overlooks_requireHandle app handle).bind fun _ => hx

/-- No answer depends on the record of requests, and only one that draws a password depends on the
count of passwords. -/
theorem overlooks_answer (record : List Applet.Request) (q : Applet.Request)
    (hcount : q.draws = true → count = id) : Overlooks (recounted record count) (answer q) := by
  have hedit {u : Device → Device}
      (h : ∀ d, u (recounted record count d) = recounted record count (u d))
      (reply : Applet.Reply) : Overlooks (recounted record count) (do
        modify u
        return reply : Answering Applet.Reply) := fun d => congrArg (Prod.mk _) (h d)
  cases q with
  | openSession app shared =>
    refine overlooks_get (fun _ => rfl) fun d => ?_
    exact overlooks_ite (overlooks_refuse_bind _) (hedit (fun _ => by rfl) _)
  | closeSession app | unsubscribe app => exact hedit (fun _ => by rfl) _
  | install app source =>
    exact overlooks_ite (overlooks_refuse_bind _) (hedit (fun _ => by rfl) _)
  | uninstall app =>
    refine overlooks_get (fun _ => rfl) fun d => ?_
    exact overlooks_ite (overlooks_refuse_bind _) (hedit (fun _ => by rfl) _)
  | startProvisioning app =>
    refine (overlooks_requireOpen app).bind fun _ => overlooks_get (fun _ => rfl) fun d => ?_
    exact hedit (fun _ => by rfl) _
  | endProvisioning app handle capacity =>
    refine overlooks_ite (overlooks_refuse_bind _) ?_
    refine (overlooks_requireHandle app handle).bind fun _ => ?_
    refine overlooks_get (fun _ => rfl) fun d => ?_
    cases d.provisioning.get? handle with
    | none => exact overlooks_refuse _
    | some p => exact overlooks_ite (overlooks_pure _) (hedit (fun _ => by rfl) _)
  | sendData app handle dataType data =>
    exact overlooks_admitted (hedit (fun _ => by rfl) _)
  | receiveData app handle dataType capacity =>
    refine overlooks_admitted (overlooks_get (fun _ => rfl) fun d => ?_)
    cases d.mailbox.get? (app, dataType) with
    | none => exact overlooks_refuse _
    | some data => exact overlooks_ite (overlooks_pure _) (hedit (fun _ => by rfl) _)
  | sendAndReceive | otpsStatus => exact overlooks_admitted (overlooks_pure _)
  | capabilities app capType capacity =>
    refine (overlooks_requireOpen app).bind fun _ => ?_
    split
    · exact overlooks_pure _
    · exact overlooks_pure _
    · exact overlooks_refuse _
  | getOtp app handle token vendorData otpCapacity tokenCapacity =>
    obtain rfl := hcount rfl
    refine (overlooks_requireOpen app).bind fun _ => overlooks_ite (overlooks_refuse_bind _) ?_
    refine (overlooks_requireHandle app handle).bind fun _ => ?_
    have hdraw : Overlooks (recounted record id) nextOtp := fun _ => rfl
    refine hdraw.bind fun password => ?_
    split <;> exact overlooks_pure _
  | subscribe app =>
    refine (overlooks_requireOpen app).bind fun _ => ?_
    exact overlooks_ite (overlooks_refuse_bind _) (hedit (fun _ => by rfl) _)

/-- So it is with the reply to a request. -/
theorem reply_recounted (record : List Applet.Request) (q : Applet.Request)
    (hcount : q.draws = true → count = id) (d : Device) :
    ((d.recounted record count).handle q).1 = (d.handle q).1 := by
  have hanswer := overlooks_answer (record ++ [q]) q hcount
    { d with received := d.received ++ [q] }
  unfold handle
  cases hr : d.refuseNext with
  | some code => simp only [recounted, hr]
  | none =>
    simp only [recounted, hr] at hanswer ⊢
    rw [hanswer]
    generalize (answer q).run _ = out
    rcases out with ⟨reply | reply, d'⟩ <;> rfl

/-! ## Passwords -/

/-- Whether a password is given for this session, handle and token, if there is room for it. -/
structure Grants (d : Device) (app : String) (handle : UInt32) (token : Bytes) : Prop where
  accepts : d.refuseNext = none
  session : ∃ shared, d.sessions.get? app = some shared
  credential : ¬(handle = noHandle ∧ token = [])
  live : handle = noHandle ∨ ∃ token, d.provisioning.get? handle = some (app, token)

/-- The reply with a password and a token of which each has its own room. -/
def passwordReply (password token : Bytes) (otpCapacity tokenCapacity : UInt32) : Applet.Reply :=
  match Negotiation.fitPair password otpCapacity
    (if tokenCapacity = 0 then [] else token.map (· + 1)) tokenCapacity with
  | .complete (password, token) => .otp password token
  | .tooSmall required => .tooSmall required.toList

section Password

variable {app : String} {handle : UInt32} {token : Bytes} {vendorData : Bytes}
  {otpCapacity tokenCapacity : UInt32}

theorem ends_requireHandle_of_live {Q : Except Applet.Reply Unit → Device → Prop}
    (hlive : handle = noHandle ∨ ∃ token, d.provisioning.get? handle = some (app, token))
    (hQ : Q (.ok ()) d) : Ends (requireHandle app handle) d Q := by
  simp only [requireHandle, ends_ite]
  split
  · exact hQ
  · rename_i hne
    obtain ⟨token, hp⟩ := hlive.resolve_left hne
    simp only [ends_bind, ends_get, andThen_ok, hp, if_true]
    exact hQ

/-- The password that is given is the next one, whatever the room. -/
theorem Grants.reply (h : d.Grants app handle token) :
    (d.handle (.getOtp app handle token vendorData otpCapacity tokenCapacity)).1 =
      passwordReply (passwordAt (d.otpCount + 1)) token otpCapacity tokenCapacity := by
  obtain ⟨shared, hopen⟩ := h.session
  let Given (reply : Applet.Reply) : Prop :=
    reply = passwordReply (passwordAt (d.otpCount + 1)) token otpCapacity tokenCapacity
  suffices hgiven : Given (d.handle _).1 from hgiven
  refine handle_cases (P := fun reply _ => Given reply) _
    (fun _ hr => absurd (h.accepts.symm.trans hr) nofun) fun _ => ?_
  simp only [answer, ends_bind, ends_requireOpen, hopen, andThen_ok, ends_ite]
  rw [if_neg h.credential]
  refine ends_requireHandle_of_live h.live ?_
  rw [andThen_ok, ends_bind, ends_nextOtp, andThen_ok]
  simp only [Given, passwordReply]
  split <;> rename_i hfit <;> rw [hfit] <;> rfl

/-- A request for a password that is not answered by a failure meets the conditions for one. -/
theorem grants_of_answered
    (h : ∀ code, (d.handle (.getOtp app handle token vendorData otpCapacity tokenCapacity)).1 ≠
      .failed code) : d.Grants app handle token := by
  let Met (reply : Applet.Reply) : Prop :=
    (∀ code, reply ≠ .failed code) → d.Grants app handle token
  suffices hmet : Met (d.handle _).1 from hmet h
  have hfailed (code : UInt32) : Met (.failed code) := fun h => absurd rfl (h code)
  refine handle_cases (P := fun reply _ => Met reply) _ (fun code _ => hfailed code) fun hr => ?_
  simp only [answer, ends_bind, ends_requireOpen]
  cases hopen : d.sessions.get? app with
  | none => exact hfailed _
  | some shared =>
    dsimp only
    rw [andThen_ok, ends_ite]
    split
    · exact hfailed _
    · rename_i hcredential
      rw [ends_bind]
      refine ends_requireHandle (fun hlive => ?_) (hfailed _)
      have hgrants : d.Grants app handle token := ⟨hr, ⟨shared, hopen⟩, hcredential, hlive⟩
      rw [andThen_ok, ends_bind, ends_nextOtp, andThen_ok]
      split <;> exact fun _ => hgrants

end Password

/-- Two digits that are written alike are the same. -/
theorem digit_injective {m n : Nat} (h : UInt8.ofNat (48 + m % 10) = UInt8.ofNat (48 + n % 10)) :
    m % 10 = n % 10 := by
  have := congrArg UInt8.toNat h
  simp only [UInt8.toNat_ofNat'] at this
  omega

/-- Two numbers with the same lower digits and the same next digit. -/
theorem mod_mul_ten_eq {m n k : Nat} (hlow : m % k = n % k) (hnext : m / k % 10 = n / k % 10) :
    m % (k * 10) = n % (k * 10) := by
  rw [Nat.mod_mul, Nat.mod_mul, hlow, hnext]

theorem eightDigits_injective {m n : Nat} (hm : m < 100000000) (hn : n < 100000000)
    (h : eightDigits m = eightDigits n) : m = n := by
  simp only [eightDigits, List.map_cons, List.map_nil, List.cons.injEq, and_true] at h
  obtain ⟨h7, h6, h5, h4, h3, h2, h1, h0⟩ := h
  have hlow : m % 1 = n % 1 := by rw [Nat.mod_one, Nat.mod_one]
  replace hlow := mod_mul_ten_eq hlow (digit_injective h0)
  replace hlow := mod_mul_ten_eq hlow (digit_injective h1)
  replace hlow := mod_mul_ten_eq hlow (digit_injective h2)
  replace hlow := mod_mul_ten_eq hlow (digit_injective h3)
  replace hlow := mod_mul_ten_eq hlow (digit_injective h4)
  replace hlow := mod_mul_ten_eq hlow (digit_injective h5)
  replace hlow := mod_mul_ten_eq hlow (digit_injective h6)
  replace hlow := mod_mul_ten_eq hlow (digit_injective h7)
  rwa [Nat.mod_eq_of_lt hm, Nat.mod_eq_of_lt hn] at hlow

@[simp]
theorem length_passwordAt (count : UInt32) : (passwordAt count).length = 8 := rfl

/-- The next password is another one. -/
theorem passwordAt_succ_ne (count : UInt32) : passwordAt (count + 1) ≠ passwordAt count := by
  intro h
  have hlt (n : UInt32) : (n % 100000000).toNat < 100000000 := by
    rw [UInt32.toNat_mod]
    exact Nat.mod_lt _ (by decide)
  have heq := eightDigits_injective (hlt _) (hlt _) h
  have hnext : (count + 1) * 7919 + 13579 = count * 7919 + 13579 + 7919 := by grind
  -- A step of 7919 shows in the last eight digits, also where the sum starts over.
  rw [hnext, UInt32.toNat_mod, UInt32.toNat_mod, UInt32.toNat_add] at heq
  generalize (count * 7919 + 13579 : UInt32) = x at heq
  have hx := x.toNat_lt
  have h1 : (7919 : UInt32).toNat = 7919 := rfl
  have h2 : (100000000 : UInt32).toNat = 100000000 := rfl
  rw [h1, h2] at heq
  omega

/-- A password of the same length in place of another is given, or not, with the same token. -/
theorem passwordReply_replaced {password other token p t : Bytes}
    {otpCapacity tokenCapacity : UInt32} (hlen : other.length = password.length)
    (h : passwordReply password token otpCapacity tokenCapacity = .otp p t) :
    p = password ∧ passwordReply other token otpCapacity tokenCapacity = .otp other t := by
  unfold passwordReply Negotiation.fitPair at h ⊢
  rw [hlen]
  generalize (if tokenCapacity = 0 then [] else token.map (· + 1)) = second at h ⊢
  dsimp only at h ⊢
  generalize (if tokenCapacity = 0 then [] else second) = kept at h ⊢
  by_cases hroom : password.length ≤ otpCapacity.toNat ∧ kept.length ≤ tokenCapacity.toNat
  · rw [if_pos hroom] at h ⊢
    cases h
    exact ⟨rfl, rfl⟩
  · rw [if_neg hroom] at h
    cases h

/-! ## What is lost -/

/-- An attempt with too little room leaves every table and the counter of handles as they were, and
the counter of passwords unless it is for a password. Then every request gets the reply that it
would have got before. But if it is for a password, what would have been given before the attempt is
lost: the next request for a password that is complete gets the one behind it. -/
theorem tooSmall_costs_password (h : (d.handle q).1 = .tooSmall required) :
    let d' := (d.handle q).2
    (d'.installed = d.installed ∧ d'.sessions = d.sessions ∧ d'.subscribed = d.subscribed ∧
      d'.provisioning = d.provisioning ∧ d'.mailbox = d.mailbox ∧ d'.nextHandle = d.nextHandle) ∧
    d'.otpCount = (if q.draws then d.otpCount + 1 else d.otpCount) ∧
    (∀ q' : Applet.Request, q.draws = false ∨ q'.draws = false →
      (d'.handle q').1 = (d.handle q').1) ∧
    ∀ app handle token vendorData otpCapacity tokenCapacity password refreshed,
      let retry := Applet.Request.getOtp app handle token vendorData otpCapacity tokenCapacity
      q.draws = true → (d.handle retry).1 = .otp password refreshed →
        password = passwordAt (d.otpCount + 1) ∧
        (d'.handle retry).1 = .otp (passwordAt (d.otpCount + 2)) refreshed ∧
        passwordAt (d.otpCount + 2) ≠ password := by
  obtain ⟨haccepts, hafter⟩ := handle_of_tooSmall h
  intro d'
  have hd' : d' = d.attempted q := hafter
  rw [hd']
  refine ⟨⟨rfl, rfl, rfl, rfl, rfl, rfl⟩, rfl, fun q' hsame => ?_, ?_⟩
  · let count (n : UInt32) : UInt32 := if q.draws then n + 1 else n
    have hcount : q'.draws = true → count = id := fun hdraws => by
      have hq : q.draws = false := hsame.resolve_right (by simp [hdraws])
      funext n
      simp [count, hq]
    exact reply_recounted (d.received ++ [q]) q' hcount d
  · intro app handle token vendorData otpCapacity tokenCapacity password refreshed retry
      hdraws hgiven
    have hgrants : d.Grants app handle token :=
      grants_of_answered fun code => by
        rw [hgiven]
        exact nofun
    have hgrants' : (d.attempted q).Grants app handle token :=
      ⟨hgrants.accepts, hgrants.session, hgrants.credential, hgrants.live⟩
    have hcount : (d.attempted q).otpCount + 1 = d.otpCount + 2 := by
      simp only [attempted, hdraws, if_true]
      grind
    rw [hgrants.reply] at hgiven
    rw [hgrants'.reply, hcount]
    have hlen : (passwordAt (d.otpCount + 2)).length = (passwordAt (d.otpCount + 1)).length :=
      (length_passwordAt _).trans (length_passwordAt _).symm
    obtain ⟨hpassword, hnext⟩ := passwordReply_replaced hlen hgiven
    have hbehind : d.otpCount + 2 = d.otpCount + 1 + 1 := by grind
    refine ⟨hpassword, hnext, ?_⟩
    rw [hpassword, hbehind]
    exact passwordAt_succ_ne _

/-- A password of eight digits is asked for with room for four, and then with room for eight. -/
theorem getOtp_skips_password :
    let d : Device := { ofApps ["a"] with sessions := Table.empty.set "a" true }
    let short := Applet.Request.getOtp "a" noHandle [1] [] 4 0
    let retry := Applet.Request.getOtp "a" noHandle [1] [] 8 0
    (d.handle short).1 = .tooSmall [8, 0] ∧
    (d.handle retry).1 = .otp (Bytes.ofText "00021498") [] ∧
    ((d.handle short).2.handle retry).1 = .otp (Bytes.ofText "00029417") [] := by
  intro d short retry
  have hshort : (d.handle short).1 = .tooSmall [8, 0] := by decide +kernel
  have hretry : (d.handle retry).1 = .otp (Bytes.ofText "00021498") [] := by decide +kernel
  have hnext : passwordAt (d.otpCount + 2) = Bytes.ofText "00029417" := by decide +kernel
  obtain ⟨-, -, -, hlost⟩ := tooSmall_costs_password hshort
  have hlost := hlost "a" noHandle [1] [] 8 0 _ _ rfl hretry
  rw [hnext] at hlost
  exact ⟨hshort, hretry, hlost.2.1⟩

end Device

end AppletGateway
