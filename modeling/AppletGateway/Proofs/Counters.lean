import AppletGateway.Proofs.Reachable

/-!
# Counters that have not started over

Instance tokens and provisioning handles are numbered by counters of 32 bits, which count up and
start over when they overflow. An operation issues one token at most, and asks for one handle at
most, with its last request. So a counter has started over in a move exactly if it is lower after
the move than before. Until that happens each counter is ahead of all that is in use, and what is
given out is new.

Results:
* `Device.Ahead.handle`: a request leaves the counter of handles ahead.
* `Service.Unwrapped.ahead`: both counters are ahead in every state before one has started over.
-/

namespace AppletGateway

/-- A counter that does not go down by one step goes up by one. -/
theorem toNat_succ_of_le {n : UInt32} (h : n ≤ n + 1) : (n + 1).toNat = n.toNat + 1 := by
  have hone : (1 : UInt32).toNat = 1 := rfl
  have hle := UInt32.le_iff_toNat_le.mp h
  rw [UInt32.toNat_add, hone] at hle ⊢
  have := n.toNat_lt
  omega

/-! ## Tokens -/

namespace Registry

variable {r : Registry} {app other : String} {f f' f'' : Focus}

/-- The counter is ahead of every token, and the token of a row stands for the app of the row. -/
structure Ordered (r : Registry) : Prop where
  below : ∀ id i, r.resolve id = some i → id.toNat < r.tokens.next.toNat
  owned : ∀ app row id, r.row? app = some row → row.token = some id →
    ∃ owner, r.resolve id = some ⟨app, owner⟩

theorem ordered_of_empty (hrows : r.rows = Table.empty) (hlive : r.tokens.live = Table.empty) :
    r.Ordered := by
  refine ⟨fun id i hi => ?_, fun app row id hrow _ => ?_⟩
  · rw [resolve, hlive, Table.get?_empty] at hi
    cases hi
  · rw [row?, hrows, Table.get?_empty] at hrow
    cases hrow

/-- The next token is not in use. -/
theorem Ordered.next_unused (h : r.Ordered) (i : Instance) : r.resolve r.tokens.next ≠ some i :=
  fun hi => Nat.lt_irrefl _ (h.below _ _ hi)

/-- The token that an update of an app begins with stands for the app. -/
theorem Ordered.owned_rowOrFresh (h : r.Ordered) {id : UInt32}
    (htok : (r.rowOrFresh app).token = some id) : ∃ owner, r.resolve id = some ⟨app, owner⟩ := by
  cases hrow : r.row? app with
  | none =>
    rw [rowOrFresh, hrow] at htok
    cases htok
  | some row =>
    rw [rowOrFresh_of_row? hrow] at htok
    exact h.owned app row id hrow htok

/-- An update of one app leaves the tokens of other apps alone. -/
theorem Ordered.resolve_settle_of_ne (h : r.Ordered)
    (hf : Issued app ⟨r.rowOrFresh app, r.tokens⟩ f) (hne : app ≠ other) (id : UInt32)
    (owner : ProcessId) : (r.settle app f).resolve id = some ⟨other, owner⟩ ↔
      r.resolve id = some ⟨other, owner⟩ :=
  Registry.resolve_settle_of_ne hf (fun _ => h.owned_rowOrFresh)
    (fun _ => Option.eq_none_iff_forall_ne_some.mpr h.next_unused) hne id owner

/-- An update in which the counter has not started over keeps the tokens in order. -/
theorem Ordered.settle (h : r.Ordered) (hf : Issued app ⟨r.rowOrFresh app, r.tokens⟩ f)
    (hup : r.tokens.next ≤ f.tokens.next) : (r.settle app f).Ordered := by
  refine ⟨fun id i hi => ?_, fun other row id hrow htok => ?_⟩
  · rw [next_settle]
    have hlive := (live_of_resolve_settle hi).1
    cases hf with
    | same _ _ htokens =>
      rw [htokens] at hlive ⊢
      exact h.below id i hlive
    | first owner _ _ _ htokens =>
      rw [htokens] at hup hlive ⊢
      have hnext : (r.tokens.next + 1).toNat = r.tokens.next.toNat + 1 := toNat_succ_of_le hup
      show id.toNat < (r.tokens.next + 1).toNat
      rw [Table.get?_set] at hlive
      split at hlive
      · rename_i hid
        obtain rfl : r.tokens.next = id := hid
        omega
      · have := h.below id i hlive
        omega
  · by_cases hne : app = other
    · subst hne
      rw [row?_settle] at hrow
      split at hrow
      · cases hrow
      rename_i hstay
      obtain rfl := Option.some.inj hrow
      rw [resolve_settle, if_neg fun hdrop => hstay hdrop.1]
      cases hf with
      | same hsame _ htokens =>
        rw [htokens]
        exact h.owned_rowOrFresh (hsame.symm.trans htok)
      | first owner _ hnew _ htokens =>
        obtain rfl := Option.some.inj (hnew.symm.trans htok)
        exact ⟨owner, by rw [htokens]; exact Table.get?_set_self _ _ _⟩
    · rw [get?_settle_of_ne r f hne] at hrow
      obtain ⟨owner, hown⟩ := h.owned other row id hrow htok
      exact ⟨owner, (h.resolve_settle_of_ne hf hne id owner).mpr hown⟩

end Registry

/-! ## Handles -/

namespace Device

variable {d d' : Device} {q : Applet.Request}

theorem Ahead.of_sameSessions (h : d.Ahead) (hd : d.SameSessions d') : d'.Ahead := by
  intro a p ha
  rw [hd.provisioning] at ha
  rw [hd.nextHandle]
  exact h a p ha

theorem Closed.ahead (h : d.Closed) : d.Ahead := by
  intro a p ha
  rw [h.provisioning] at ha
  cases ha

theorem Ahead.of_fewer (h : d.Ahead) (hn : d'.nextHandle = d.nextHandle)
    (hp : ∀ a p, d'.provisioning.get? a = some p → d.provisioning.get? a = some p) : d'.Ahead := by
  intro a p ha
  rw [hn]
  exact h a p (hp a p ha)

/-- Only a request to start a provisioning moves the counter. -/
theorem nextHandle_handle (hq : q.starts = false) : (d.handle q).2.nextHandle = d.nextHandle := by
  have hr := reissued_handle d q
  generalize (d.handle q).1 = reply at hr
  generalize (d.handle q).2 = d' at hr
  cases hr with
  | same _ hn _ => exact hn
  | issued hq' _ _ =>
    subst hq'
    cases hq
  | ended _ _ _ _ hn => exact hn
  | closed _ _ hn => exact hn

/-- A request in which the counter has not started over leaves it ahead. -/
theorem Ahead.handle (h : d.Ahead) (hup : d.nextHandle ≤ (d.handle q).2.nextHandle) :
    (d.handle q).2.Ahead := by
  have hr := reissued_handle d q
  generalize (d.handle q).1 = reply at hr
  generalize (d.handle q).2 = d' at hr hup
  cases hr with
  | same hp hn _ => exact h.of_fewer hn fun _ _ ha => hp ▸ ha
  | issued _ hp hn =>
    have hmax := toNat_max d.nextHandle firstHandle
    have hnext : d'.nextHandle.toNat = max d.nextHandle.toNat firstHandle.toNat + 1 := by
      rw [hn] at hup ⊢
      rw [← hmax]
      refine toNat_succ_of_le (UInt32.le_iff_toNat_le.mpr ?_)
      have hle := UInt32.le_iff_toNat_le.mp hup
      have hadd := UInt32.toNat_add (max d.nextHandle firstHandle) 1
      have hone : (1 : UInt32).toNat = 1 := rfl
      have hfirst : firstHandle.toNat = 4096 := rfl
      have hsize := (max d.nextHandle firstHandle).toNat_lt
      rw [hone] at hadd
      omega
    intro a p ha
    rw [hp, Table.get?_set] at ha
    rw [hnext]
    split at ha
    · rename_i hnew
      rw [← hnew, hmax]
      omega
    · have := h a p ha
      omega
  | ended _ _ _ hp hn =>
    refine h.of_fewer hn fun a p ha => ?_
    rw [hp, Table.get?_erase] at ha
    split at ha
    · cases ha
    · exact ha
  | closed _ hp hn =>
    refine h.of_fewer hn fun a p ha => ?_
    rw [hp, Table.get?_filter] at ha
    exact (Option.filter_eq_some_iff.mp ha).1

end Device

namespace Link

variable {l l' : Link Attended} {q : Applet.Request} {r : Except LinkError Applet.Reply}

/-- An exchange moves the counter only if it is to start a provisioning. -/
theorem Exchanged.nextHandle (hx : Exchanged l q r l') (hq : q.starts = false) :
    l'.transport.device.nextHandle = l.transport.device.nextHandle := by
  cases hx with
  | down _ => rfl
  | unsent _ _ => rfl
  | served _ hb _ _ _ _ device =>
    rw [device]
    exact (Device.nextHandle_handle hq).trans hb.sameSessions.nextHandle
  | lost _ _ hb _ hd anew =>
    rw [anew.nextHandle, ← hb.sameSessions.nextHandle]
    rcases hd with hd | hd
    · exact hd.nextHandle
    · exact hd.nextHandle.trans (Device.nextHandle_handle hq)

/-- An exchange in which the counter has not started over leaves it ahead. -/
theorem Exchanged.ahead (hx : Exchanged l q r l') (h : l.transport.device.Ahead)
    (hup : l.transport.device.nextHandle ≤ l'.transport.device.nextHandle) :
    l'.transport.device.Ahead := by
  cases hx with
  | down _ => exact h
  | unsent _ _ => exact h
  | @served b _ _ hb _ _ _ _ device =>
    rw [device] at hup ⊢
    rw [← hb.sameSessions.nextHandle] at hup
    exact Device.Ahead.handle (h.of_sameSessions hb.sameSessions) hup
  | lost _ _ _ _ _ anew => exact anew.closed.ahead

end Link

namespace Service

open Link (Converses)

/-! ## What is given out in a turn -/

section Turns

variable {τ : Type} [Transport τ] {α : Type} {app : String} {o : Operation} {s : Service τ}
  {t t' : Turn τ}

/-- What an operation asks for besides a provisioning does not start one. -/
theorem starts_eq_false {q : Applet.Request} (h : q.seats = true ∨ o.request? = some q)
    (ho : ∀ app, o ≠ .startProvisioning app) : q.starts = false := by
  cases q with
  | startProvisioning app =>
    refine absurd (h.resolve_left nofun) fun hq => ?_
    cases o with
    | startProvisioning app => exact ho app rfl
    | _ => cases hq
  | _ => rfl

/-- A provisioning is asked for with the last request of the operation, if at all. -/
theorem ends_startProvisioning (hs : s.registry.Sound) : Ends (startProvisioning app) s
    fun _ s' => ∃ l talk, Converses s.link talk l ∧ (∀ e ∈ talk, e.1.app = app ∧
      e.1.starts = false) ∧
      (s'.link = l ∨ s'.link = ((Link.exchange (.startProvisioning app)).run l).2) := by
  have happ := hs.app_rowOrFresh app
  refine guards_requireInit.ends (fun _ => ⟨s.link, [], .nil _, nofun, .inl rfl⟩) fun _ => ?_
  rw [ends_onRow, ends_bind, ends_get, andThen_ok, ends_ite]
  split
  · exact ⟨s.link, [], .nil _, nofun, .inl rfl⟩
  rw [ends_bind]
  -- Opening a session follows a course of any operation, hence of one without a request of its own.
  refine (follows_ensureLoaded (s.turn app) happ).mono
    fun r t' (h : Ended .version app _ r t') => ?_
  obtain ⟨talk, hc, hasks⟩ := h.conversed happ
  have htalk : ∀ e ∈ talk, e.1.app = app ∧ e.1.starts = false :=
    fun e he => ⟨(hasks e he).app, starts_eq_false (hasks e he).seats nofun⟩
  cases r with
  | error e => exact ⟨t'.link, talk, hc, htalk, .inl rfl⟩
  | ok _ =>
    rw [andThen_ok]
    refine ends_call_bind (fun _ _ => ⟨t'.link, talk, hc, htalk, .inr rfl⟩) fun reply _ => ?_
    have hlast : Ends (ofExcept reply.asHandle >>= fun handle =>
        changeRow (Row.beginProvisioning handle) >>= fun _ => pure handle)
        (t'.after (.startProvisioning app)) fun _ t'' =>
          t''.link = (t'.after (.startProvisioning app)).link := by
      cases reply.asHandle with
      | error e => rfl
      | ok handle =>
        simp only [ofExcept, ends_bind, ends_pure, andThen_ok, changeRow, ends_get]
        cases Row.beginProvisioning handle (t'.after (.startProvisioning app)).row <;> rfl
    exact hlast.mono fun _ _ hl => ⟨t'.link, talk, hc, htalk, .inr hl⟩

/-- The requests of an operation are about its app, and only the last can start a provisioning. -/
theorem ends_converses (hs : s.registry.Sound) (hi : o ≠ .init) (hd : o ≠ .deinit) :
    Ends (perform o) s fun _ s' => ∃ l talk, Converses s.link talk l ∧
      (∀ e ∈ talk, target s o = some e.1.app ∧ e.1.starts = false) ∧
      (s'.link = l ∨ ∃ app, o = .startProvisioning app ∧
        s'.link = ((Link.exchange (.startProvisioning app)).run l).2) := by
  by_cases ho : ∃ app, o = .startProvisioning app
  · obtain ⟨app, rfl⟩ := ho
    refine (ends_startProvisioning hs).mono (R := fun _ s' => ∃ l talk, Converses s.link talk l ∧
      (∀ e ∈ talk, some app = some e.1.app ∧ e.1.starts = false) ∧ _) fun r s' h => ?_
    obtain ⟨l, talk, hc, htalk, hl⟩ := h
    refine ⟨l, talk, hc, fun e he => ⟨?_, (htalk e he).2⟩, hl.imp_right fun hl => ⟨app, rfl, hl⟩⟩
    rw [(htalk e he).1]
  · refine (ends_goes hs hi hd).mono fun r s' hg => ?_
    cases hg with
    | nothing => exact ⟨s.link, [], .nil _, nofun, .inl rfl⟩
    | @turn app t _ ha hended =>
      obtain ⟨talk, hc, hasks⟩ := hended.conversed (hs.app_rowOrFresh app)
      refine ⟨t.link, talk, hc, fun e he => ⟨?_, ?_⟩, .inl rfl⟩
      · rw [ha.target, (hasks e he).app]
      · exact starts_eq_false (hasks e he).seats fun app h => ho ⟨app, h⟩

end Turns

/-! ## States before a counter has started over -/

variable {o : Operation} {s s' : Service Attended}

/-- No counter has gone down. -/
structure CountsUp (s s' : Service Attended) : Prop where
  tokens : s.registry.tokens.next ≤ s'.registry.tokens.next
  handles : s.link.transport.device.nextHandle ≤ s'.link.transport.device.nextHandle

/-- A gateway in front of a device with some apps installed, after any moves in which no counter
has started over. -/
inductive Unwrapped : Service Attended → Prop
  | start (apps : List String) (client : Guid) (options : ServiceOptions)
    (agenda : List (List Control)) : Unwrapped (start apps client options agenda)
  | move {s : Service Attended} (h : Unwrapped s) (m : Move) (hup : CountsUp s (move m s)) :
    Unwrapped (move m s)
  /-- The events handed on are collected. -/
  | collect {s : Service Attended} (h : Unwrapped s) : Unwrapped (takeEvents.run s).2

theorem Unwrapped.reachable (h : Unwrapped s) : Reachable s := by
  induction h with
  | start apps client options agenda => exact .start apps client options agenda
  | move _ m _ ih => exact ih.move m
  | collect _ ih => exact ih.collect

/-- Both counters are ahead of what is in use. -/
structure Ahead (s : Service Attended) : Prop where
  tokens : s.registry.Ordered
  handles : s.link.transport.device.Ahead

/-- The requests of an operation ahead of its last leave the counter of handles where it was. -/
theorem ahead_of_converses {l l' : Link Attended} {talk : Link.Talk} (hs : l.Sane)
    (h : l.transport.device.Ahead) (hc : Converses l talk l')
    (hstarts : ∀ e ∈ talk, e.1.starts = false) : l'.Sane ∧ l'.transport.device.Ahead ∧
      l'.transport.device.nextHandle = l.transport.device.nextHandle := by
  refine hc.keeps (P := fun l' => l'.Sane ∧ l'.transport.device.Ahead ∧
    l'.transport.device.nextHandle = l.transport.device.nextHandle) (fun l₁ e he h₁ => ?_)
    ⟨hs, h, rfl⟩
  obtain ⟨hsane, hahead, hn⟩ := h₁
  have hx := Link.ends_exchange hsane.quiet e.1
  have hnext := hx.nextHandle (hstarts e he)
  exact ⟨hx.sane hsane, hx.ahead hahead (UInt32.le_of_eq hnext.symm), hnext.trans hn⟩

theorem Ahead.handles_perform (hs : Healthy s) (h : s.link.transport.device.Ahead)
    (hup : s.link.transport.device.nextHandle ≤
      (Service.move (.perform o) s).link.transport.device.nextHandle) :
    (Service.move (.perform o) s).link.transport.device.Ahead := by
  by_cases hi : o = .init
  · subst hi
    suffices hinit : Ends init s fun _ s' => s'.link.transport.device.Ahead from hinit
    refine ends_init.mpr ((Link.ends_connect hs.sane.quiet).mono fun r l hl => ?_)
    rcases hl with ⟨_, _, rfl⟩ | ⟨_, hover, _⟩
    · exact h
    · exact hover.closed.ahead
  by_cases hd : o = .deinit
  · subst hd
    refine (ends_deinit hs.sane).mono (R := fun _ s' => s'.link.transport.device.Ahead)
      fun r s' h' => ?_
    rcases h' with ⟨_, ⟨_, rfl⟩ | ⟨_, _, hsane, hdown⟩⟩
    · exact h
    · exact (hsane.quiet.closed hdown).ahead
  obtain ⟨l, talk, hc, htalk, hl⟩ := ends_converses hs.sound hi hd
  obtain ⟨hsane, hahead, hn⟩ := ahead_of_converses hs.sane h hc fun e he => (htalk e he).2
  rcases hl with hl | ⟨app, _, hl⟩
  · exact hl ▸ hahead
  · have hx := Link.ends_exchange hsane.quiet (.startProvisioning app)
    unfold Ends at hx
    rw [← hl] at hx
    exact hx.ahead hahead (hn ▸ hup)

theorem Ahead.tokens_perform (hs : Healthy s) (h : s.registry.Ordered)
    (hup : s.registry.tokens.next ≤ (Service.move (.perform o) s).registry.tokens.next) :
    (Service.move (.perform o) s).registry.Ordered := by
  by_cases hi : o = .init
  · subst hi
    exact h
  by_cases hd : o = .deinit
  · subst hd
    refine (ends_deinit hs.sane).mono (R := fun _ s' => s'.registry.Ordered) fun r s' h' => ?_
    rcases h' with ⟨_, ⟨_, rfl⟩ | ⟨_, hreg, _, _⟩⟩
    · exact h
    · rw [hreg]
      exact Registry.ordered_of_empty rfl rfl
  have hp := ends_perform hs.sound hi hd
  unfold Ends at hp
  generalize hrun : ((perform o).run s).1 = r at hp
  have hmove : ((perform o).run s).2 = Service.move (.perform o) s := rfl
  rw [hmove] at hp
  generalize Service.move (.perform o) s = s' at hp hup
  cases hp with
  | refused => exact h
  | idle => exact h
  | turn htarget hturned =>
    refine h.settle (hturned.issued (hs.sound.app_rowOrFresh _)) ?_
    rwa [settled, Registry.next_settle] at hup

/-- A move in which no counter has started over leaves both ahead. -/
theorem Ahead.move (hs : Healthy s) (h : Ahead s) {m : Move} (hup : CountsUp s (Service.move m s)) :
    Ahead (Service.move m s) := by
  cases m with
  | perform o =>
    exact ⟨Ahead.tokens_perform hs h.tokens hup.tokens,
      Ahead.handles_perform hs h.handles hup.handles⟩
  | poll =>
    suffices hpoll : Ends pollEvents s fun _ s' => Ahead s' from hpoll
    refine ends_pollEvents.mpr ((Link.ends_pollEvents hs.sane.quiet).mono fun r l hp => ?_)
    rcases hp with ⟨_, _, _, _, _, hsame⟩ | ⟨_, _, hover⟩
    · exact ⟨h.tokens, h.handles.of_sameSessions hsame⟩
    · exact ⟨h.tokens, hover.closed.ahead⟩
  | control c => exact ⟨h.tokens, h.handles.of_sameSessions (.apply c _)⟩

/-- Both counters are ahead as long as neither has started over. -/
theorem Unwrapped.ahead (h : Unwrapped s) : Ahead s := by
  induction h with
  | start apps client options agenda =>
    exact ⟨Registry.ordered_of_empty rfl rfl, nofun⟩
  | move h m hup ih => exact ih.move h.reachable.healthy hup
  | collect _ ih => exact ⟨ih.tokens, ih.handles⟩

end Service

end AppletGateway
