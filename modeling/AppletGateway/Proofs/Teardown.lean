import AppletGateway.Proofs.Runs

/-!
# Tearing a gateway down

Tearing down always succeeds, and afterwards the link is down and the device holds no session: if
the link is down already, the last failure or teardown has closed whatever was open. The registry is
a different matter. It is emptied only on the way through a connected link. After a failed exchange
whose reconnection failed as well, its rows stay, with the handlers and the tokens in them.

Results:
* `Service.deinit_releases_iff`: what tearing down achieves after any run, and when exactly the
  registry is released.
-/

namespace AppletGateway

/-- A registry that holds nothing: no row, no handler, no token. -/
structure Registry.Released (r : Registry) : Prop where
  rows : r.rows = Table.empty
  handlers : ∀ app, r.callbackFor app = none
  tokens : ∀ id, r.resolve id = none

/-- A sound registry without rows holds nothing. -/
theorem Registry.Sound.released_iff {r : Registry} (h : r.Sound) :
    r.Released ↔ r.rows = Table.empty := by
  refine ⟨fun hr => hr.rows, fun hrows => ⟨hrows, fun app => ?_, h.resolve_eq_none hrows⟩⟩
  rw [callbackFor, row?, hrows]
  rfl

namespace Service

/-- Tearing down a gateway whose link is down changes nothing. -/
theorem run_deinit_of_down {τ : Type} [Transport τ] {s : Service τ} (h : s.link.connected = false) :
    deinit.run s = (.ok (), s) := by
  simp [deinit, ExceptT.run, h]

/-- Whatever has happened, tearing down succeeds, leaves the link down and no session open, and a
second time changes nothing. The registry is released exactly if the link was connected or there was
no row. -/
theorem deinit_releases_iff (apps : List String) (client : Guid) (options : ServiceOptions)
    (agenda : List (List Control)) (ms : List Move) :
    let s := run ms (start apps client options agenda)
    let s' := (deinit.run s).2
    (deinit.run s).1 = .ok () ∧
      s'.link.connected = false ∧
      s'.link.transport.device.Closed ∧
      deinit.run s' = (.ok (), s') ∧
      (s'.registry.Released ↔ s.link.connected = true ∨ s.registry.rows = Table.empty) := by
  intro s s'
  have hs : Healthy s := (healthy_start apps client options agenda).run ms
  obtain ⟨hok, ⟨hdown, heq⟩ | ⟨hup, hreg, hsane, hdown⟩⟩ := ends_deinit hs.sane
  · have heq : s' = s := heq
    rw [heq]
    refine ⟨hok, hdown, hs.sane.quiet.closed hdown, run_deinit_of_down hdown, ?_⟩
    rw [hs.sound.released_iff, hdown]
    simp
  · have hreg : s'.registry = (Registry.drain.run s.registry).2 := hreg
    have hdown : s'.link.connected = false := hdown
    refine ⟨hok, hdown, hsane.quiet.closed hdown, run_deinit_of_down hdown, ?_⟩
    refine iff_of_true ?_ (.inl hup)
    rw [hreg, (Registry.sound_drain s.registry).released_iff]
    rfl

/-- A device that goes away takes the connection along. The handler stays bound through the teardown
that follows. -/
theorem deinit_keeps_handler :
    ∃ s, s = run [.perform .init, .perform (.registerEvents "a" (.own "h")),
        .control (.offline true), .perform (.startProvisioning "a")]
        (start ["a"] Guid.nil {} []) ∧
      (deinit.run s).1 = .ok () ∧ ¬ (deinit.run s).2.registry.Released := by
  refine ⟨_, rfl, ?_⟩
  obtain ⟨hok, _, _, _, hreleased⟩ := deinit_releases_iff ["a"] Guid.nil {} []
    [.perform .init, .perform (.registerEvents "a" (.own "h")), .control (.offline true),
      .perform (.startProvisioning "a")]
  refine ⟨hok, fun h => ?_⟩
  rcases hreleased.mp h with hup | hrows
  · exact absurd hup (by decide +kernel)
  · exact absurd (congrArg Table.size hrows) (by decide +kernel)

end Service

end AppletGateway
