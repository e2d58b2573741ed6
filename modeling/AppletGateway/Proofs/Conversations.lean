import AppletGateway.Proofs.Offers

/-!
# Conversations with the co-processor

What the link exchanges with the co-processor, one request and its answer after the other. A request
is refused by the link itself, and changes nothing, if there is no connection or if it does not fit
into a frame. The others go out.

Results:
* `Link.Converses.append`: conversations are put together.
* `Link.Converses.keeps`: what every request of a conversation keeps, the conversation keeps.
* `Link.Converses.submits`: what goes out of a conversation leads to the same state, and everything
  that has been replied to is among it.
-/

namespace AppletGateway.Link

open Packed (pack)

/-- Requests and their answers, in order. -/
abbrev Talk := List (Applet.Request × Except LinkError Applet.Reply)

variable {τ : Type} [Transport τ]

/-- The link has come from one state to another by making these requests and getting these
answers. -/
inductive Converses : Link τ → Talk → Link τ → Prop
  | nil (l : Link τ) : Converses l [] l
  | cons {l l' : Link τ} {talk : Talk} (q : Applet.Request)
    (rest : Converses ((exchange q).run l).2 talk l') :
    Converses l ((q, ((exchange q).run l).1) :: talk) l'

/-- The same by requests that have all gone out. -/
inductive Submits : Link τ → Talk → Link τ → Prop
  | nil (l : Link τ) : Submits l [] l
  | cons {l l' : Link τ} {talk : Talk} (q : Applet.Request) (hup : l.connected = true)
    (hfits : Frame.encode (pack q) ≠ none) (rest : Submits ((exchange q).run l).2 talk l') :
    Submits l ((q, ((exchange q).run l).1) :: talk) l'

variable {l l' l'' : Link τ} {talk talk' : Talk}

theorem Converses.append (h : Converses l talk l') (h' : Converses l' talk' l'') :
    Converses l (talk ++ talk') l'' := by
  induction h with
  | nil l => exact h'
  | cons q _ ih => exact .cons q (ih h')

theorem Converses.single (l : Link τ) (q : Applet.Request) :
    Converses l [(q, ((exchange q).run l).1)] ((exchange q).run l).2 :=
  .cons q (.nil _)

/-- What every request of a conversation keeps, the conversation keeps. -/
theorem Converses.keeps {P : Link τ → Prop} (h : Converses l talk l')
    (hkeep : ∀ l, ∀ e ∈ talk, P l → P ((exchange e.1).run l).2) (hl : P l) : P l' := by
  induction h with
  | nil l => exact hl
  | @cons l l' talk q _ ih =>
    have hfirst : P ((exchange q).run l).2 :=
      hkeep l (q, ((exchange q).run l).1) List.mem_cons_self hl
    exact ih (fun l e he => hkeep l e (List.mem_cons_of_mem _ he)) hfirst

/-- Without a connection nothing comes of a request. -/
theorem exchange_of_down (hc : l.connected = false) (q : Applet.Request) :
    Ends (exchange q) l fun r l' => r = .error .notConnected ∧ l' = l := by
  simp only [exchange, ends_bind, ends_get, andThen_ok, hc]
  exact ⟨rfl, rfl⟩

/-- After a reply there still is a connection. -/
theorem connected_of_replied {q : Applet.Request} {reply : Applet.Reply}
    (h : ((exchange q).run l).1 = .ok reply) : ((exchange q).run l).2.connected = true := by
  have hkept : ((exchange q).run l).2.connected = l.connected := ends_exchange_connected q l reply h
  rw [hkept]
  refine Bool.of_not_eq_false fun hdown => ?_
  cases h.symm.trans (exchange_of_down hdown q).1

/-! ## What goes out -/

theorem Submits.append (h : Submits l talk l') (h' : Submits l' talk' l'') :
    Submits l (talk ++ talk') l'' := by
  induction h with
  | nil l => exact h'
  | cons q hup hfits _ ih => exact .cons q hup hfits (ih h')

theorem Submits.single (hup : l.connected = true) {q : Applet.Request}
    (hfits : Frame.encode (pack q) ≠ none) :
    Submits l [(q, ((exchange q).run l).1)] ((exchange q).run l).2 :=
  .cons q hup hfits (.nil _)

theorem Submits.fits (h : Submits l talk l') : ∀ e ∈ talk, Frame.encode (pack e.1) ≠ none := by
  induction h with
  | nil => nofun
  | cons q _ hfits _ ih => exact List.forall_mem_cons.mpr ⟨hfits, ih⟩

theorem Submits.eq_nil_of_down (h : Submits l talk l') (hc : l.connected = false) : talk = [] := by
  cases h with
  | nil => rfl
  | cons _ hup => cases hup.symm.trans hc

/-- What goes out of a conversation leads to the same state, and everything that has been replied to
is among it. -/
theorem Converses.submits (h : Converses l talk l') : ∃ sent, Submits l sent l' ∧ sent ⊆ talk ∧
    ∀ e ∈ talk, (∃ reply, e.2 = .ok reply) → e ∈ sent := by
  induction h with
  | nil l => exact ⟨[], .nil l, List.Subset.refl [], nofun⟩
  | @cons l l' talk q rest ih =>
    obtain ⟨sent, hsent, hpart, hreplied⟩ := ih
    -- The first request has gone out, or it was refused and nothing is changed.
    by_cases hout : l.connected = true ∧ Frame.encode (pack q) ≠ none
    · refine ⟨_, .cons q hout.1 hout.2 hsent, List.cons_subset_cons _ hpart, ?_⟩
      rintro e (_ | ⟨_, he⟩) hr
      · exact List.mem_cons_self
      · exact List.mem_cons_of_mem _ (hreplied e he hr)
    · have hrefused : Ends (exchange q) l fun r l' => (∃ e, r = .error e) ∧ l' = l := by
        rcases Decidable.not_and_iff_not_or_not.mp hout with hdown | hunfit
        · exact (exchange_of_down (Bool.eq_false_iff.mpr hdown) q).mono
            fun _ _ ⟨hr, hl⟩ => ⟨⟨_, hr⟩, hl⟩
        · exact exchange_of_unfit (Decidable.not_not.mp hunfit)
      have hstay : ((exchange q).run l).2 = l := hrefused.2
      rw [hstay] at hsent
      refine ⟨sent, hsent, fun e he => List.mem_cons_of_mem _ (hpart he), ?_⟩
      rintro e (_ | ⟨_, he⟩) hr
      · obtain ⟨_, hfailed⟩ := hrefused.1
        obtain ⟨_, hreply⟩ := hr
        cases hreply.symm.trans hfailed
      · exact hreplied e he hr

end AppletGateway.Link
