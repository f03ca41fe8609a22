import Ezpn.Server.Loop.Rules
import Ezpn.Server.Policies
import Ezpn.Session.Rollback

/-!
# The configured clipboard policy over whole runs

Panes that the loop has met, and those of background tabs, have the configured
policy as long as no process is spawned where the loop will not meet it as new.
-/

set_option autoImplicit false

namespace Ezpn

namespace Core
variable {R G : Type} [RatioOps R] [Vt100 G]

/-- The policy is in force, but for panes of the active tab that the loop has not met. -/
structure Policed (policy : ClipboardPolicy) (c : Core R G) : Prop where
  configured : c.session.clipboardPolicy = policy
  active : ∀ (id : Nat) (pane : Pane G), c.session.tab.panes[id]? = some pane → id ∈ c.spawnedSeen ∨ policy = {} →
    pane.clipboardPolicy = policy
  stored : ∀ tab ∈ c.session.tabMgr.tabs, tab.panes.All fun pane => pane.clipboardPolicy = policy

/-- No pane of the active tab waits for the loop to meet it. -/
def Settled (c : Core R G) : Prop :=
  ∀ (id : Nat) (pane : Pane G), c.session.tab.panes[id]? = some pane → id ∉ c.spawnedSeen →
    pane.clipboardPolicy = c.session.clipboardPolicy

variable {policy : ClipboardPolicy} {c : Core R G}

omit [RatioOps R] in
/-- The loop has met every pane of the active tab before it reads them. -/
theorem Policed.detectSpawned (policed : c.Policed policy) :
    c.detectSpawned.session.AllPanes fun pane => pane.clipboardPolicy = policy := by
  let ids := c.session.tab.panes.keys.filter fun pid => !c.spawnedSeen.contains pid
  obtain ⟨panes, detected, _⟩ := configure_evolve (R := R) Pane.Steady Pane.Steady.refl Pane.Steady.trans ids c.session
    fun pane => pane.configured_steady _ _
  refine ⟨fun id pane found => ?_, ?_⟩
  · refine (configure_policy ids c.session (fun old had => ?_) found).trans policed.configured
    by_cases seen : id ∈ c.spawnedSeen
    · exact .inr ((policed.active id old had (.inl seen)).trans policed.configured.symm)
    · refine .inl (List.mem_filter.mpr ⟨?_, by simp [seen]⟩)
      exact Std.ExtTreeMap.mem_keys.mpr (IdMap.mem_of_getElem? had)
  · simp only [Core.detectSpawned, ids] at detected ⊢
    rw [detected]
    exact policed.stored

/-! ## Fixed by the operations of a tab -/

end Core

section Boot
variable {R G : Type} [RatioOps R] [Vt100 G]

end Boot

namespace Loop
variable {R G U : Type} [RatioOps R] [Vt100 G] {format : SnapshotFormat R} {policy : ClipboardPolicy}

variable [Interface U]

/-- A configuration without clipboard writes. -/
def denyingConfig : LaunchConfig := { plainConfig with clipboardPolicy := { set := .deny } }

def denyingShell : Session ℚ RawDisplay :=
  (boot plainFormat {} denyingConfig (.grid 1 1 [])).toOption.getD oneShell

/-- A pane is split off; the shell of the first one ends, and Enter starts it again under its id. -/
def respawned : List (World × LoopOp ℚ RawDisplay Unit) :=
  [({}, .front fun _ _ => [.op (.split 0 .horizontal) (@rfl Bool true)]), ({}, .upkeep (exitOf 0)), ({}, .front fun _ _ => [.op .respawn (@rfl Bool true)])]

theorem respawned_unpoliced :
    ¬∀ (log : List (Loop ℚ RawDisplay Unit × (World × LoopOp ℚ RawDisplay Unit))) (l : Loop ℚ RawDisplay Unit),
      Machine.History (step plainFormat) { core := { session := denyingShell }, ui := () } log l →
      ∀ entry ∈ log, ∀ world feeds, entry.2 = (world, .upkeep feeds) →
        entry.1.core.detectSpawned.session.AllPanes fun pane => pane.clipboardPolicy = denyingConfig.clipboardPolicy := by
  intro claimed
  have run := Machine.History.of_labels (step plainFormat)
    ({ core := { session := denyingShell }, ui := () } : Loop ℚ RawDisplay Unit) respawned
  have all := (claimed _ _ (run.step ({}, .upkeep fun _ => {})) _ (List.mem_append_right _ (List.mem_singleton_self _)) {}
    (fun _ => {}) rfl).1
  have spawned : ((respawned.foldl (step plainFormat) { core := { session := denyingShell }, ui := () }).core.detectSpawned
      |>.session.tab.panes[0]?).map (·.clipboardPolicy) = some ({} : ClipboardPolicy) := by
    decide +kernel
  obtain ⟨pane, found, default⟩ := Option.map_eq_some_iff.mp spawned
  cases default.symm.trans (all 0 pane found)

end Loop

end Ezpn
