import Ezpn.Server.Panes
import Ezpn.Session.Rollback

/-!
# Consent to clipboard writes

A prompt remembers the pane it is about by its id in the active tab. As long as no
other process comes to stand under that id, an answer reaches the process whose
payloads wait for it.
-/

set_option autoImplicit false

namespace Ezpn

/-- Under the prompted id the tab has no other process than the one whose payloads are queued. -/
def Osc52ConfirmState.AskedBy {R G : Type} (prompt : Osc52ConfirmState) (tab : Tab R G) : Prop :=
  ∀ pane, tab.panes[prompt.paneId]? = some pane → ∀ e ∈ prompt.queuedPayloads, e.origin = pane.process

theorem Osc52ConfirmState.AskedBy.evolve {R G : Type} {prompt : Osc52ConfirmState} {tab next : Tab R G}
    (asked : prompt.AskedBy tab)
    (evolve : PaneMap.Evolve (fun old pane => pane.process = old.process) tab.panes next.panes) : prompt.AskedBy next := by
  intro pane found e member
  obtain ⟨old, had, same⟩ := evolve prompt.paneId pane found
  exact (asked old had e member).trans same.symm

namespace Core
variable {R G : Type} [RatioOps R] [Vt100 G] {c : Core R G}

theorem newTab_spawned {world : World} {s : Session R G} (starts : world.spawnError s.spawns s.shell = none)
    (name : Option String) : (s.newTab world name).2 = true := by
  have spawned (cols rows : Nat) (cwd : Option String) :
      ∃ pane, (spawnPaneIn world s.spawns s.shell .shell (max cols 1) (max rows 1) s.scrollback cwd :
        Except String (Pane G)) = .ok pane := by
    have wide : max cols 1 ≠ 0 := by omega
    have high : max rows 1 ≠ 0 := by omega
    simp [spawnPaneIn, Pane.spawnInner, starts, wide, high]
  simp only [Session.newTab]
  split
  · rfl
  · rename_i failed
    obtain ⟨_, started⟩ := spawned _ _ _
    cases failed.symm.trans started

end Core

end Ezpn
