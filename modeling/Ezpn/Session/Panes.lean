import Ezpn.Session.Tabs

/-!
# What every pane keeps

A property of a pane that its spawn establishes, and that reading, resizing and
saving keep, holds of all panes of all tabs of a session from its start.
-/

set_option autoImplicit false

namespace Ezpn

section Stable
variable {R G : Type} [RatioOps R] [Vt100 G]

/-- A property of the display, the terminal state and the process of a pane that a spawn
establishes and that the server keeps when it serves the pane. -/
structure Pane.Stable (P : Pane G → Prop) : Prop where
  alike : ∀ a b : Pane G, b.parser = a.parser → b.state = a.state → b.process = a.process → P a → P b
  spawned : ∀ (pane : Pane G) (rect : Rect), pane.SpawnedAt rect → P pane
  budgeted : ∀ (byteBudget : Nat) (pane : Pane G), P pane → P (pane.setScrollbackBudget byteBudget)
  resized : ∀ (world : World) (cols rows : Nat) (pane : Pane G), P pane → P (pane.resize world cols rows)
  read : ∀ (world : World) (feed : Feed) (pane : Pane G), P pane → P (pane.readOutput world feed).1
  closed : ∀ pane : Pane G, P pane → P { pane with state.syncOpenedAt := none }
  asked : ∀ pane : Pane G, P pane → P pane.takeOsc52PendingConfirm.1
  drawn : ∀ pane : Pane G, P pane → P pane.syncScrollback.resetScrollbackView
  dumped : ∀ (includeScrollback : Bool) (pane : Pane G), P pane → P (pane.dumpText includeScrollback).1
  replayed : ∀ (rows : List String) (pane : Pane G), P pane → P (pane.restoreScrollback rows)

def PaneMap.All (P : Pane G → Prop) (panes : PaneMap G) : Prop :=
  ∀ (id : Nat) (pane : Pane G), panes[id]? = some pane → P pane

namespace PaneMap.All
variable {P : Pane G → Prop} {panes after : PaneMap G}

omit [Vt100 G] in
theorem empty : PaneMap.All P (∅ : PaneMap G) := by
  intro id pane found
  simp at found

omit [Vt100 G] in
theorem evolve (all : panes.All P) (evolve : PaneMap.Evolve (fun old pane => P old → P pane) panes after) :
    after.All P := by
  intro id pane found
  obtain ⟨old, foundOld, kept⟩ := evolve id pane found
  exact kept (all id old foundOld)

omit [Vt100 G] in
theorem insert (all : panes.All P) {id : Nat} {pane : Pane G} (new : P pane) :
    PaneMap.All P (Std.ExtTreeMap.insert panes id pane) := by
  intro other found here
  rw [IdMap.getElem?_insert] at here
  split at here
  · cases here
    exact new
  · exact all other found here

omit [Vt100 G] in
theorem map {f : Nat → Pane G → Pane G} (all : panes.All P) (kept : ∀ id pane, P pane → P (f id pane)) :
    PaneMap.All P (Std.ExtTreeMap.map f panes) :=
  all.evolve (.map kept)

omit [Vt100 G] in
theorem modify {id : Nat} {f : Pane G → Pane G} (all : panes.All P) (kept : ∀ pane, P pane → P (f pane)) :
    PaneMap.All P (Std.ExtTreeMap.modify panes id f) :=
  all.evolve (.modify (fun _ same => same) fun pane _ => kept pane)

variable (stable : Pane.Stable P)
include stable

theorem resizeAll (all : panes.All P) (world : World) (layout : Layout R) (tw th : Nat) (settings : Settings) :
    (Ezpn.resizeAll world panes layout tw th settings).All P := by
  refine all.map fun id pane kept => ?_
  split
  · exact stable.resized _ _ _ _ kept
  · exact kept

theorem resizeZoomedPane (all : panes.All P) (world : World) (id tw th : Nat) (settings : Settings) :
    (Ezpn.resizeZoomedPane world panes id tw th settings).All P := by
  simp only [Ezpn.resizeZoomedPane]
  split
  · rename_i pane found
    exact all.insert (stable.resized _ _ _ _ (all id pane found))
  · exact all

theorem restartPanes (all : panes.All P) (world : World) (spawns : Nat) (layout : Layout R)
    (policies : IdMap RestartPolicy) (state : RestartState) (shell : String) (tw th : Nat) (settings : Settings)
    (scrollback : Nat) :
    (Ezpn.restartPanes world spawns panes layout policies state shell tw th settings scrollback).panes.All P :=
  restartPanes_invariant (fun panes _ => panes.All P) all fun _ _ _ rect pane all _ _ fresh =>
    all.insert (stable.spawned pane rect fresh)

end PaneMap.All

namespace Pane.Stable
variable {P : Pane G → Prop} (stable : Pane.Stable P)
include stable

theorem configured (byteBudget : Nat) (policy : ClipboardPolicy) (pane : Pane G) (kept : P pane) :
    P ((pane.setScrollbackBudget byteBudget).setClipboardPolicy policy) :=
  stable.alike (pane.setScrollbackBudget byteBudget) _ rfl rfl rfl (stable.budgeted byteBudget pane kept)

theorem inner {world : World} {attempt : Nat} {shell : String} {launch : PaneLaunch} {rect : Rect}
    {scrollback : Nat} {cwd : Option String} {env : EnvMap} {pane : Pane G}
    (started : Pane.spawnInner world attempt shell launch (max rect.w 1) (max rect.h 1) scrollback cwd env =
      .ok pane) : P pane :=
  stable.spawned pane rect (Pane.spawnInner_spawnedAt started)

omit [RatioOps R] in
theorem spawnSnapshotPane {format : SnapshotFormat R} {world : World} {rects : IdMap Rect} {shell : String}
    {scrollback attempt : Nat} {saved : PaneSnapshot} {pane : Pane G}
    (started : Ezpn.spawnSnapshotPane format world rects shell scrollback saved attempt = .ok pane) : P pane := by
  simp only [Ezpn.spawnSnapshotPane] at started
  split at started
  · cases started
  rename_i fresh spawned
  have named : P { fresh with name := saved.name, initialShell := saved.shell } :=
    stable.alike fresh _ rfl rfl rfl (stable.inner spawned)
  split at started
  · cases started
    exact named
  split at started
  · cases started
  · cases started
    exact named
  · cases started
    exact stable.replayed _ _ named

theorem spawnSnapshotPanes {format : SnapshotFormat R} {world : World} {spawns after : Nat} {layout : Layout R}
    {tab : TabSnapshot R} {shell : String} {tw th : Nat} {settings : Settings} {scrollback : Nat} {panes : PaneMap G}
    (spawned : Ezpn.spawnSnapshotPanes format world spawns layout tab shell tw th settings scrollback =
      (.ok panes, after)) : panes.All P := by
  intro id pane found
  refine spawnEach_forall (P := fun _ pane => P pane) spawned (fun entry member attempt pane started => ?_) (by simp) found
  obtain ⟨saved, _, rfl⟩ := List.mem_map.mp member
  exact stable.spawnSnapshotPane started

theorem spawnTabs {format : SnapshotFormat R} {world : World} {shell : String} {tw th : Nat} {settings : Settings}
    {scrollback : Nat} {ready : Nat → Option (PaneMap G)} {idx spawns after : Nat} {saved : List (TabSnapshot R)}
    {tabs : List (Tab R G)} (had : ∀ idx panes, ready idx = some panes → panes.All P)
    (spawned : Ezpn.spawnTabs format world shell tw th settings scrollback ready idx spawns saved = (.ok tabs, after)) :
    ∀ tab ∈ tabs, tab.panes.All P := by
  induction saved generalizing idx spawns after tabs with
  | nil =>
      cases spawned
      simp
  | cons tab rest ih =>
      simp only [Ezpn.spawnTabs] at spawned
      split at spawned
      · cases spawned
      rename_i panes next result
      have here : panes.All P := by
        split at result
        · rename_i found
          cases result
          exact had _ _ found
        · exact stable.spawnSnapshotPanes result
      split at spawned
      · cases spawned
      rename_i later last restResult
      cases spawned
      intro tab member
      rcases List.mem_cons.mp member with rfl | member
      · exact here
      · exact ih restResult tab member

end Pane.Stable

end Stable

/-! ## Sessions -/

namespace Session
variable {R G : Type} [RatioOps R] [Vt100 G] {P : Pane G → Prop}

/-- The property holds of every pane of every tab. -/
def AllPanes (P : Pane G → Prop) (s : Session R G) : Prop := s.AllTabs fun tab => tab.panes.All P

variable (stable : Pane.Stable P)
include stable

theorem AllPanes.resizeAll {s : Session R G} (all : s.AllPanes P) (world : World) : (s.resizeAll world).AllPanes P :=
  ⟨all.1.resizeAll stable world _ _ _ _, all.2⟩

theorem AllPanes.load {s : Session R G} (all : s.AllPanes P) (format : SnapshotFormat R) (world : World) (path : String) :
    (s.load format world path).1.AllPanes P := by
  simp only [Session.load]
  split
  · exact all
  split
  · exact all
  rename_i spawned
  split
  · exact allTabs_takeOut (stable.spawnTabs (fun _ _ found => by cases found) spawned) _
  · exact all

theorem AllPanes.newTab {s : Session R G} (all : s.AllPanes P) (world : World) (name : Option String) :
    (s.newTab world name).1.AllPanes P := by
  have stored : ∀ tab ∈ s.tabs, tab.panes.All P := allTabs_iff.mp all
  rcases s.newTab_cases world name with
    ⟨mgr, tab, failed, _, _, kept⟩ | ⟨rect, pane, title, opened, _, fresh, _, spawned, rfl⟩
  · rw [failed]
    have entered := kept _ all
    refine ⟨?_, entered.2⟩
    exact PaneMap.All.resizeAll stable entered.1 world _ _ _ _
  · rw [opened]
    exact ⟨PaneMap.All.empty.insert (stable.configured _ _ _ (stable.spawned fresh rect spawned)), stored⟩

/-- A session starts with the property. -/
theorem boot_allPanes {format : SnapshotFormat R} {world : World} {config : LaunchConfig} {startup : Startup R}
    {s : Session R G} (booted : boot format world config startup = .ok s) : s.AllPanes P := by
  have configured {panes : PaneMap G} (all : panes.All P) : (configureAll config panes).All P :=
    all.map fun _ pane kept => stable.configured _ _ pane kept
  have layout (layout : Layout R) (launches : IdMap PaneLaunch) (s : Session R G)
      (booted : bootLayout world config layout launches = .ok s) : s.AllPanes P := by
    simp only [bootLayout] at booted
    split at booted
    · cases booted
    · rename_i panes spawns spawned
      cases booted
      refine ⟨configured fun id pane found => ?_, by simp [LaunchConfig.session]⟩
      simp only [spawnLayoutPanes, Prod.mk.injEq] at spawned
      refine spawnEach_forall (P := fun _ pane => P pane) (Prod.ext spawned.1 rfl)
        (fun entry member attempt pane started => ?_) (by simp) found
      obtain ⟨task, _, rfl⟩ := List.mem_map.mp member
      exact stable.inner started
  cases startup with
  | restore path =>
      simp only [boot, bootSnapshot] at booted
      split at booted
      · cases booted
      split at booted
      · cases booted
      split at booted
      · cases booted
      rename_i panes spawns active
      split at booted
      · cases booted
      rename_i tabs after spawned
      split at booted
      · cases booted
        refine allTabs_takeOut (stable.spawnTabs (fun idx panes found => ?_) spawned) _
        split at found
        · cases found
          exact configured (stable.spawnSnapshotPanes active)
        · cases found
      · cases booted
  | project proj =>
      simp only [boot, bootProject] at booted
      split at booted
      · cases booted
      · rename_i panes spawns spawned
        cases booted
        refine ⟨configured fun id pane found => ?_, by simp [LaunchConfig.session]⟩
        refine spawnEach_forall (P := fun _ pane => P pane) spawned (fun entry member attempt pane started => ?_)
          (by simp) found
        obtain ⟨⟨id, rect⟩, _, rfl⟩ := List.mem_map.mp member
        simp only [spawnProjectPane] at started
        split at started
        · cases started
        · rename_i fresh made
          cases started
          exact stable.alike fresh _ rfl rfl rfl (stable.inner made)
  | procfile contents =>
      simp only [boot] at booted
      split at booted
      · exact layout _ _ s booted
      · exact layout _ _ s booted
  | grid rows cols commands => exact layout _ _ s booted
  | spec spec commands =>
      simp only [boot] at booted
      split at booted
      · cases booted
      · exact layout _ _ s booted

end Session

end Ezpn
