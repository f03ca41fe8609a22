import Ezpn.Server.Processes
import Ezpn.Server.Secrecy
import Ezpn.Session.Rollback
import Ezpn.Session.RoundTrip
import Mathlib.Data.Rat.Defs

/-!
# Sessions of one project under different environments

Both sessions start from the same project file and take the same operations.
Their snapshots are the same as long as no split hands the directory of a hidden
pane on.
-/

set_option autoImplicit false

namespace Ezpn

namespace Core
variable {R G : Type} [RatioOps R] [Vt100 G] {c d : Core R G} {w w' : World}

omit [RatioOps R] [Vt100 G] in
theorem replaceStored_single {mgr : TabManager R G} (single : mgr.tabs = []) : (mgr.replaceStored []).tabs = [] := by
  rw [TabManager.replaceStored, dif_pos (by rw [single])]

theorem capture_single (format : SnapshotFormat R) (world : World) {s : Session R G} (single : s.tabMgr.tabs = []) :
    ((s.capture format world).1).tabMgr.tabs = [] := by
  simp only [Session.capture, single, List.zip_nil_left, captureStored]
  split
  · exact single
  · exact replaceStored_single single

/-- A tab that nothing is opened beside stays the only one. -/
theorem apply_single {format : SnapshotFormat R} (single : c.session.tabMgr.tabs = []) {op : Op R} (inTab : InTab op) :
    (c.apply format w op).session.tabMgr.tabs = [] := by
  cases stays : op.stays with
  | true =>
      by_cases own : op ≠ .restartInactive ∧ op ≠ .save
      · rw [c.apply_tabMgr format w op stays own, single]
      · rcases not_and_or.mp own with background | saved
        · rw [not_not.mp background]
          simp only [apply, restartInactive, restartedTabs, single, restartTabs, List.map_nil]
          exact replaceStored_single single
        · rw [not_not.mp saved]
          exact capture_single format w single
  | false =>
      cases op with
      | read feeds =>
          obtain ⟨panes, detected, _⟩ := c.detectSpawned_session
          simp only [apply, readAll, detected]
          exact List.map_eq_nil_iff.mpr single
      | goToTab target =>
          simp only [apply, Session.goToTab, switchTo_single single]
          exact single
      | closeTab =>
          simp only [apply, Session.closeTab, closeActive_single single]
          exact single
      | newTab name => exact inTab.elim
      | load path => exact inTab.elim
      | _ => cases stays

/-- Both servers take the operation, each in its own surroundings. -/
def stepBoth (format : SnapshotFormat R) (both : Core R G × Core R G) (label : (World × World) × Op R) :
    Core R G × Core R G :=
  (both.1.apply format label.1.1 label.2, both.2.apply format label.1.2 label.2)

/-- Steps of the sessions' own tab with the same reports, whose splits inherit the same directory where
they are made of a pane that snapshots leave out. -/
structure SameRun (both : Core R G × Core R G) (label : (World × World) × Op R) : Prop where
  reports : SameReports both.1 both.2 label.1.1 label.1.2
  inTab : InTab label.2
  inherits : InheritsSame both.1 both.2 label.1.1 label.1.2 label.2

/-- Alike servers with a single tab. -/
structure Paired (both : Core R G × Core R G) : Prop where
  alike : both.1.Alike both.2
  single : both.1.session.tabMgr.tabs = []

theorem run_paired {format : SnapshotFormat R} {start both : Core R G × Core R G}
    (run : Machine.Run (stepBoth format) SameRun start both) (paired : Paired start) : Paired both :=
  run.invariant (fun _ _ paired allowed =>
    ⟨apply_alike paired.alike paired.single allowed.reports allowed.inTab allowed.inherits,
      apply_single paired.single allowed.inTab⟩) paired

/-- The same snapshot in either server. -/
theorem capture_same {format : SnapshotFormat R} (alike : c.Alike d) (same : w.Alike w') :
    (d.session.capture format w').2 = (c.session.capture format w).2 := by
  obtain ⟨others, rfl, pairs⟩ : ∃ others, d = c.withPanes others ∧ c.session.tab.panes.Alike others :=
    ⟨_, alike.rest, alike.panes⟩
  exact (capture_alike same pairs format).1

/-- What an expansion reports as plain is the same wherever the same names are defined, and so are the snapshots
of one project's sessions. -/
theorem environment_secret :
    (∀ (a b : EnvContext), a.SameNames b → ∀ template text : String,
      EnvContext.expandWithSensitivity template a = .ok (text, false) →
        EnvContext.expandWithSensitivity template b = .ok (text, false)) ∧
      ∀ (a b : EnvContext), a.SameNames b →
        ∀ (project : ProjectConfig) (dir : String) (p q : ResolvedProject R),
          loadProjectFrom project dir a = .ok p → loadProjectFrom project dir b = .ok q →
        ∀ (config : LaunchConfig) (boot boot' : World) (s t : Session R G),
          bootProject boot config p = .ok s → bootProject boot' config q = .ok t →
        ∀ (format : SnapshotFormat R) (both : Core R G × Core R G),
          Machine.Run (stepBoth format) SameRun ({ session := s }, { session := t }) both →
        ∀ w w' : World, w.Alike w' →
          (both.2.session.capture format w').2 = (both.1.session.capture format w).2 := by
  refine ⟨fun a b same template text plain => ?_, ?_⟩
  · exact (EnvContext.expandWithSensitivity_agrees same template).eq_of_insensitive plain
  · intro a b same project dir p q loaded loadedOther config boot boot' s t booted bootedOther format both run w w' alike
    obtain ⟨rest, panes, single⟩ := bootProject_alike (loadProjectFrom_alike same loaded loadedOther) booted bootedOther
    have start : Core.Alike { session := s } { session := t } := by
      refine ⟨?_, panes⟩
      simp only [withPanes, ← rest, panes.keys]
    exact capture_same (run_paired run ⟨start, single⟩).alike alike

/-! ## A split of a pane that has exited -/

/-- The first pane starts in a directory that only the environment names. -/
def dataProject : ProjectConfig := { pane := [{ cwd := some "$DATA" }, {}] }

def dataContext (value : String) : EnvContext := { process := Std.ExtTreeMap.ofList [("DATA", value)] compare }

def plainConfig : LaunchConfig :=
  { shell := "/bin/sh", border := .rounded, showStatusBar := true, showTabBar := true, scrollback := 100
    scrollbackBytes := 0, clipboardPolicy := {}, persistScrollback := false }

def dataSession (value : String) : Except String (Session ℚ RawDisplay) :=
  (loadProjectFrom dataProject "/project" (dataContext value)).bind (bootProject {} plainConfig)

def exitOf (process : Nat) : Op ℚ :=
  .read fun other => if other = process then { disconnected := true, exited := some 0 } else {}

def noFiles : SnapshotFormat ℚ := ⟨id, fun _ => .ok, fun _ => 0, fun _ => .error "no such file"⟩

/-- The first pane exits, it is split, and the new pane exits. -/
def splitExited (c : Core ℚ RawDisplay) : Core ℚ RawDisplay :=
  ((c.apply noFiles {} (exitOf 0)).apply noFiles {} (.split 0 .horizontal)).apply noFiles {} (exitOf 2)

def splitExitedFrom (value : String) : Core ℚ RawDisplay :=
  splitExited { session := (dataSession value).toOption.getD Session.twoTabs }

theorem dataSession_started (value : String) (starts : (dataSession value).toOption.isSome = true) :
    ∃ (p : ResolvedProject ℚ) (s : Session ℚ RawDisplay),
      loadProjectFrom dataProject "/project" (dataContext value) = .ok p ∧ bootProject {} plainConfig p = .ok s ∧
        splitExitedFrom value = splitExited { session := s } := by
  rw [splitExitedFrom]
  rw [dataSession] at starts ⊢
  cases loaded : loadProjectFrom (R := ℚ) dataProject "/project" (dataContext value) with
  | error message =>
      rw [loaded] at starts
      cases starts
  | ok p =>
      rw [loaded] at starts
      cases booted : bootProject (G := RawDisplay) {} plainConfig p with
      | error message =>
          simp only [Except.bind, booted] at starts
          cases starts
      | ok s => exact ⟨p, s, rfl, booted, by simp only [Except.bind, booted]; rfl⟩

theorem splitExited_captured :
    ((splitExitedFrom "/alpha").session.capture noFiles {}).2 = .ok ((splitExitedFrom "/alpha").session.fromLive {}) := by
  have unkept : ∀ id ∈ (splitExitedFrom "/alpha").session.tab.layout.paneIds,
      (persistOverrides (splitExitedFrom "/alpha").session.tab.panes)[id]?.getD
        (splitExitedFrom "/alpha").session.persistScrollback = false := by
    decide +kernel
  have single : (splitExitedFrom "/alpha").session.tabMgr.tabs = [] := List.length_eq_zero_iff.mp (by decide +kernel)
  have first : (splitExitedFrom "/alpha").session.tabMgr.activeIdx = 0 := by decide +kernel
  have valid : (snapshotTab {} (splitExitedFrom "/alpha").session.tab).Valid := by
    have unzoomed : (snapshotTab {} (splitExitedFrom "/alpha").session.tab).zoomedPane = none := by decide +kernel
    have bare : ∀ pane ∈ (snapshotTab {} (splitExitedFrom "/alpha").session.tab).panes, pane.scrollback.isNone = true := by
      decide +kernel
    refine ⟨by decide +kernel, by decide +kernel, by decide +kernel, by decide +kernel, by decide +kernel,
      by decide +kernel, by decide +kernel, by decide +kernel, ?_, ?_⟩
    · intro id zoomed
      rw [unzoomed] at zoomed
      cases zoomed
    · intro pane member blob saved
      have none := bare pane member
      rw [saved] at none
      cases none
  have accepted : ((splitExitedFrom "/alpha").session.fromLive {}).validate = .ok () := by
    refine WorkspaceSnapshot.validate_ok_iff.mpr ⟨by decide +kernel, by decide +kernel, by decide +kernel,
      by decide +kernel, by decide +kernel, by decide +kernel, fun tab member => ?_, by decide +kernel⟩
    rw [Session.fromLive_tabs, Session.tabs, TabManager.withActive_eq, single, first] at member
    rw [List.mem_singleton.mp member]
    exact valid
  rw [Session.capture_unkept single unkept, accepted]
  rfl

theorem splitExited_leaks :
    ¬∀ (a b : EnvContext), a.SameNames b →
        ∀ (project : ProjectConfig) (dir : String) (p q : ResolvedProject ℚ),
          loadProjectFrom project dir a = .ok p → loadProjectFrom project dir b = .ok q →
        ∀ (config : LaunchConfig) (boot boot' : World) (s t : Session ℚ RawDisplay),
          bootProject boot config p = .ok s → bootProject boot' config q = .ok t →
        ∀ (format : SnapshotFormat ℚ) (both : Core ℚ RawDisplay × Core ℚ RawDisplay),
          Machine.Run (stepBoth format)
            (fun both label => SameReports both.1 both.2 label.1.1 label.1.2 ∧ InTab label.2)
            ({ session := s }, { session := t }) both →
        ∀ w w' : World, w.Alike w' →
          (both.2.session.capture format w').2 = (both.1.session.capture format w).2 := by
  intro claimed
  obtain ⟨p, s, loaded, booted, runA⟩ := dataSession_started "/alpha" (by decide +kernel)
  obtain ⟨q, t, loadedB, bootedB, runB⟩ := dataSession_started "/beta" (by decide +kernel)
  have same : (dataContext "/alpha").SameNames (dataContext "/beta") :=
    ⟨rfl, fun name => by simp [EnvContext.Defines, dataContext]⟩
  have alike : World.Alike {} {} := ⟨rfl, rfl, rfl, rfl, rfl⟩
  have reports (c d : Core ℚ RawDisplay) : SameReports c d {} {} := ⟨alike, fun _ => rfl, fun _ _ _ _ _ _ => rfl⟩
  let Allowed (both : Core ℚ RawDisplay × Core ℚ RawDisplay) (label : (World × World) × Op ℚ) : Prop :=
    SameReports both.1 both.2 label.1.1 label.1.2 ∧ InTab label.2
  have allowed (both : Core ℚ RawDisplay × Core ℚ RawDisplay) (op : Op ℚ) (inTab : InTab op) :
      Allowed both (({}, {}), op) := ⟨reports _ _, inTab⟩
  have exited : Machine.Run (stepBoth noFiles) Allowed _ _ :=
    .step .start (({}, {}), exitOf 0) (allowed (({ session := s } : Core ℚ RawDisplay), { session := t }) (exitOf 0) trivial)
  have halved := exited.step (({}, {}), .split 0 .horizontal) (allowed _ (.split 0 .horizontal) trivial)
  have run := halved.step (({}, {}), exitOf 2) (allowed _ (exitOf 2) trivial)
  have captured := claimed _ _ same dataProject "/project" p q loaded loadedB plainConfig {} {} s t booted bootedB noFiles
    _ run {} {} alike
  simp only [stepBoth] at captured
  rw [splitExited] at runA runB
  rw [← runA, ← runB, splitExited_captured] at captured
  have shown := (Session.capture_ok captured).2.2
  have cwds := congrArg (fun tabs => tabs.map fun tab : TabSnapshot ℚ => tab.panes.map (·.cwd)) shown
  revert cwds
  decide +kernel

/-- A split of the other pane keeps the secret. -/
theorem splitVisible_secret :
    ∃ s t : Session ℚ RawDisplay, dataSession "/alpha" = .ok s ∧ dataSession "/beta" = .ok t ∧
      ((({ session := t } : Core ℚ RawDisplay).apply noFiles {} (.split 1 .vertical)).session.capture noFiles {}).2 =
        ((({ session := s } : Core ℚ RawDisplay).apply noFiles {} (.split 1 .vertical)).session.capture noFiles {}).2 := by
  obtain ⟨p, s, loaded, booted, _⟩ := dataSession_started "/alpha" (by decide +kernel)
  obtain ⟨q, t, loadedB, bootedB, _⟩ := dataSession_started "/beta" (by decide +kernel)
  have started : dataSession "/alpha" = .ok s := by rw [dataSession, loaded]; exact booted
  refine ⟨s, t, started, by rw [dataSession, loadedB]; exact bootedB, ?_⟩
  have visible : ((dataSession "/alpha").toOption.bind fun s => s.tab.panes[1]?).any (·.snapshotSensitive) = false := by
    decide +kernel
  have alike : World.Alike {} {} := ⟨rfl, rfl, rfl, rfl, rfl⟩
  have same : (dataContext "/alpha").SameNames (dataContext "/beta") :=
    ⟨rfl, fun name => by simp [EnvContext.Defines, dataContext]⟩
  have allowed : SameRun (({ session := s } : Core ℚ RawDisplay), ({ session := t } : Core ℚ RawDisplay))
      (({}, {}), .split 1 .vertical) := by
    refine ⟨⟨alike, fun _ => rfl, fun _ _ _ _ _ _ => rfl⟩, trivial, fun _ pane _ found _ hidden => ?_⟩
    rw [started, Except.toOption, Option.bind_some, found, Option.any_some, hidden] at visible
    cases visible
  exact environment_secret.2 _ _ same dataProject "/project" p q loaded loadedB plainConfig {} {} s t booted bootedB noFiles
    _ (.step .start _ allowed) {} {} alike

end Core

end Ezpn
