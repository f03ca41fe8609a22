import Ezpn.Session.Rollback
import Ezpn.Session.Snapshot
import Ezpn.Workspace.Soundness
import Mathlib.Data.List.InsertIdx

/-!
# Loading and saving again

What a load puts into the live session, and what a save then reads back from it: what
was loaded, but for the history limit, which a load does not take over. A load that fails
leaves the session alone.
-/

set_option autoImplicit false

namespace Ezpn

/-! ## Sameness of snapshots -/

/-- Equal but for working directory, history and cursor. -/
structure PaneSnapshot.Same (p q : PaneSnapshot) : Prop where
  id : q.id = p.id
  launch : q.launch = p.launch
  name : q.name = p.name
  env : q.env = p.env
  restart : q.restart = p.restart
  shell : q.shell = p.shell

structure TabSnapshot.Same {R : Type} (a b : TabSnapshot R) : Prop where
  name : b.name = a.name
  layout : b.layout = a.layout
  activePane : b.activePane = a.activePane
  zoomedPane : b.zoomedPane = a.zoomedPane
  broadcast : b.broadcast = a.broadcast
  ids : b.paneIds.Perm a.paneIds
  panes : ∀ p ∈ a.panes, ∃ q ∈ b.panes, p.Same q

structure WorkspaceSnapshot.Same {R : Type} (s t : WorkspaceSnapshot R) : Prop where
  shell : t.shell = s.shell
  borderStyle : t.borderStyle = s.borderStyle
  showStatusBar : t.showStatusBar = s.showStatusBar
  showTabBar : t.showTabBar = s.showTabBar
  scrollback : t.scrollback = s.scrollback
  activeTab : t.activeTab = s.activeTab
  tabs : List.Forall₂ TabSnapshot.Same s.tabs t.tabs

/-! ## Capture -/

section Capture
variable {R G : Type} [Vt100 G]

def PaneSnapshot.withoutHistory (saved : PaneSnapshot) : PaneSnapshot :=
  { saved with scrollback := none, cursorPos := none }

omit [Vt100 G] in
theorem snapshotPane_id (world : World) (panes : PaneMap G) (policies : IdMap RestartPolicy) (id : Nat) :
    (snapshotPane world panes policies id).id = id := by
  simp only [snapshotPane]
  split <;> rfl

/-- Panes that are kept out of snapshots are saved as plain shells. -/
def Redacted (panes : PaneMap G) (saved : PaneSnapshot) : Prop :=
  panes[saved.id]?.any (·.snapshotSensitive) → saved = plainShellSnapshot saved.id

omit [Vt100 G] in
theorem snapshotPane_redacted (world : World) (panes : PaneMap G) (policies : IdMap RestartPolicy) (id : Nat) :
    Redacted panes (snapshotPane world panes policies id) := by
  intro sensitive
  rw [snapshotPane_id] at sensitive
  simp only [snapshotPane, sensitive, if_true]
  rfl

/-- Capturing history changes nothing else of a saved pane, nor which panes are sensitive. -/
theorem captureScrollback_cases (format : SnapshotFormat R) (persistDefault : Bool) (overrides : IdMap Bool)
    {panes : PaneMap G} {saved : PaneSnapshot} (redacted : Redacted panes saved) :
    let outcome := captureScrollback format persistDefault overrides panes saved
    (∀ other, Redacted panes other → Redacted outcome.1 other) ∧
      ∀ out, outcome.2 = .ok out → out.withoutHistory = saved.withoutHistory := by
  simp only [captureScrollback]
  split
  · refine ⟨fun _ => id, fun out captured => ?_⟩
    cases captured
    rfl
  rename_i pane found
  split
  · rename_i sensitive
    refine ⟨fun _ => id, fun out captured => ?_⟩
    cases captured
    have plain := redacted (by simp [found, sensitive])
    rw [plain]
    rfl
  split
  · refine ⟨fun _ => id, fun out captured => ?_⟩
    cases captured
    rfl
  have kept (other : PaneSnapshot) (before : Redacted panes other) :
      Redacted (panes.insert saved.id (pane.dumpText true).1) other := by
    intro sensitive
    apply before
    rw [IdMap.getElem?_insert] at sensitive
    split at sensitive
    · rename_i same
      have unchanged : (pane.dumpText true).1.snapshotSensitive = pane.snapshotSensitive := rfl
      simpa [same, found, unchanged] using sensitive
    · exact sensitive
  split
  · refine ⟨kept, fun out captured => ?_⟩
    cases captured
  · refine ⟨kept, fun out captured => ?_⟩
    cases captured
    rfl

theorem capturePanes_ok {format : SnapshotFormat R} {persistDefault : Bool} {overrides : IdMap Bool}
    {panes after : PaneMap G} {saved out : List PaneSnapshot}
    (captured : capturePanes format persistDefault overrides panes saved = (after, .ok out))
    (redacted : ∀ pane ∈ saved, Redacted panes pane) :
    out.map (·.withoutHistory) = saved.map (·.withoutHistory) := by
  induction saved generalizing panes after out with
  | nil =>
      cases captured
      rfl
  | cons pane rest ih =>
      have first := captureScrollback_cases format persistDefault overrides (redacted pane List.mem_cons_self)
      simp only [capturePanes] at captured
      split at captured
      · cases captured
      rename_i next saved result
      split at captured
      · cases captured
      rename_i last tail restResult
      cases captured
      rw [result] at first
      have later := ih restResult fun other member => first.1 other (redacted other (List.mem_cons_of_mem _ member))
      rw [List.map_cons, List.map_cons, later, first.2 saved rfl]

def TabSnapshot.withoutHistory (saved : TabSnapshot R) : TabSnapshot R :=
  { saved with panes := saved.panes.map (·.withoutHistory) }

omit [Vt100 G] in
@[simp] theorem snapshotPane_withoutHistory (world : World) (panes : PaneMap G) (policies : IdMap RestartPolicy)
    (id : Nat) : (snapshotPane world panes policies id).withoutHistory = snapshotPane world panes policies id := by
  simp only [snapshotPane]
  split <;> rfl

theorem captureTabScrollback_ok {format : SnapshotFormat R} {persistDefault : Bool} {world : World}
    {tab after : Tab R G} {out : TabSnapshot R}
    (captured : captureTabScrollback format persistDefault tab (snapshotTab world tab) = (after, .ok out)) :
    out.withoutHistory = snapshotTab world tab := by
  simp only [captureTabScrollback] at captured
  split at captured
  · cases captured
  rename_i panes saved result
  cases captured
  have kept := capturePanes_ok result fun pane member => by
    obtain ⟨id, _, rfl⟩ := List.mem_map.mp member
    exact snapshotPane_redacted world tab.panes tab.restartPolicies id
  simp only [TabSnapshot.withoutHistory, kept, snapshotTab, List.map_map]
  congr 1
  exact List.map_congr_left fun id _ => snapshotPane_withoutHistory ..

theorem captureStored_ok {format : SnapshotFormat R} {persistDefault : Bool} {world : World}
    {tabs after : List (Tab R G)} {out : List (TabSnapshot R)}
    (captured : captureStored format persistDefault (tabs.zip (tabs.map (snapshotTab world))) = (after, .ok out)) :
    out.map (·.withoutHistory) = tabs.map (snapshotTab world) := by
  induction tabs generalizing after out with
  | nil =>
      cases captured
      rfl
  | cons tab tabs ih =>
      simp only [List.map_cons, List.zip_cons_cons, captureStored] at captured
      split at captured
      · cases captured
      rename_i next saved result
      split at captured
      · cases captured
      rename_i last rest restResult
      cases captured
      rw [List.map_cons, List.map_cons, captureTabScrollback_ok result, ih restResult]

end Capture

namespace Session
variable {R G : Type} [RatioOps R] [Vt100 G]

omit [RatioOps R] [Vt100 G] in
theorem fromLive_tabs (world : World) (s : Session R G) :
    (s.fromLive world).tabs = s.tabs.map (snapshotTab world) := by
  rw [fromLive, TabManager.filterMap_tabs s.tabMgr s.tab fun _ => snapshotTab world, tabs]
  conv_rhs => rw [← List.zipIdx_map_fst 0 (s.tabMgr.withActive s.tab), List.map_map]
  rfl

/-- A captured snapshot is valid and shows the live session, with history attached. -/
theorem capture_ok {format : SnapshotFormat R} {world : World} {s : Session R G} {saved : WorkspaceSnapshot R}
    (captured : (s.capture format world).2 = .ok saved) :
    saved.validate = .ok () ∧ saved = { s.fromLive world with tabs := saved.tabs } ∧
      saved.tabs.map (·.withoutHistory) = s.tabs.map (snapshotTab world) := by
  have stored : (s.fromLive world).tabs.eraseIdx s.tabMgr.activeIdx = s.tabMgr.tabs.map (snapshotTab world) := by
    rw [fromLive_tabs, List.eraseIdx_map, tabs, TabManager.eraseIdx_withActive]
  simp only [capture, stored] at captured
  split at captured
  · cases captured
  rename_i tab active activeResult
  split at captured
  · cases captured
  rename_i after inactive result
  cases checked : ({ s.fromLive world with
      tabs := inactive.insertIdx s.tabMgr.activeIdx active } : WorkspaceSnapshot R).validate with
  | error message => simp [checked, Except.map] at captured
  | ok =>
      simp only [checked, Except.map, Except.ok.injEq] at captured
      subst captured
      refine ⟨checked, rfl, ?_⟩
      rw [List.map_insertIdx, captureStored_ok result, captureTabScrollback_ok activeResult, tabs,
        TabManager.withActive_eq, List.map_insertIdx]

end Session

/-! ## Without history -/

section Unkept
variable {R G : Type} [RatioOps R] [Vt100 G]

omit [RatioOps R] in
theorem capturePanes_unkept {format : SnapshotFormat R} {persistDefault : Bool} {overrides : IdMap Bool}
    {panes : PaneMap G} {saved : List PaneSnapshot}
    (unkept : ∀ pane ∈ saved, overrides[pane.id]?.getD persistDefault = false)
    (redacted : ∀ pane ∈ saved, Redacted panes pane) (bare : ∀ pane ∈ saved, pane.withoutHistory = pane) :
    capturePanes format persistDefault overrides panes saved = (panes, .ok saved) := by
  induction saved with
  | nil => rfl
  | cons pane saved ih =>
      have first : captureScrollback format persistDefault overrides panes pane = (panes, .ok pane) := by
        have plain : { pane with scrollback := none, cursorPos := none } = pane := bare pane List.mem_cons_self
        have notKept := unkept pane List.mem_cons_self
        simp only [captureScrollback, plain, notKept]
        split
        · rfl
        · rename_i live found
          split
          · rename_i sensitive
            rw [redacted pane List.mem_cons_self (by simp [found, sensitive])]
            rfl
          · rfl
      simp only [capturePanes, first, ih (fun p m => unkept p (List.mem_cons_of_mem _ m))
        (fun p m => redacted p (List.mem_cons_of_mem _ m)) fun p m => bare p (List.mem_cons_of_mem _ m)]

/-- A single tab without history is saved as it is. -/
theorem Session.capture_unkept {format : SnapshotFormat R} {world : World} {s : Session R G} (single : s.tabMgr.tabs = [])
    (unkept : ∀ id ∈ s.tab.layout.paneIds, (persistOverrides s.tab.panes)[id]?.getD s.persistScrollback = false) :
    (s.capture format world).2 = (s.fromLive world).validate.map fun () => s.fromLive world := by
  have active : captureTabScrollback format s.persistScrollback s.tab (snapshotTab world s.tab) =
      (s.tab, .ok (snapshotTab world s.tab)) := by
    have captured : capturePanes format s.persistScrollback (persistOverrides s.tab.panes) s.tab.panes
        (snapshotTab world s.tab).panes = (s.tab.panes, .ok (snapshotTab world s.tab).panes) := by
      refine capturePanes_unkept ?_ ?_ ?_
      · intro pane member
        obtain ⟨id, leaf, rfl⟩ := List.mem_map.mp member
        rw [snapshotPane_id]
        exact unkept id leaf
      · intro pane member
        obtain ⟨id, _, rfl⟩ := List.mem_map.mp member
        exact snapshotPane_redacted _ _ _ _
      · intro pane member
        obtain ⟨id, _, rfl⟩ := List.mem_map.mp member
        exact snapshotPane_withoutHistory ..
    simp only [captureTabScrollback, captured]
  have tabs : ([].insertIdx s.tabMgr.activeIdx (snapshotTab world s.tab)) = (s.fromLive world).tabs := by
    rw [fromLive_tabs, Session.tabs, TabManager.withActive_eq, List.map_insertIdx, single, List.map_nil]
  simp only [capture, active, single, List.zip_nil_left, captureStored, tabs]

end Unkept

/-! ## Restore -/

section Restore
variable {R G : Type} [RatioOps R] [Vt100 G]

/-- A pane as its snapshot says, with nothing kept out of later snapshots. -/
structure Pane.RestoredFrom (saved : PaneSnapshot) (pane : Pane G) : Prop where
  launch : pane.launch = saved.launch
  name : pane.name = saved.name
  env : pane.initialEnv = saved.env
  shell : pane.initialShell = saved.shell
  shown : pane.snapshotSensitive = false
  noOverride : pane.persistScrollbackOverride = none

omit [RatioOps R] in
theorem Pane.RestoredFrom.restoreScrollback {saved : PaneSnapshot} {pane : Pane G}
    (restored : pane.RestoredFrom saved) (rows : List String) : (pane.restoreScrollback rows).RestoredFrom saved := by
  simp only [Pane.restoreScrollback]
  split
  · exact restored
  · exact ⟨restored.launch, restored.name, restored.env, restored.shell, restored.shown, restored.noOverride⟩

omit [RatioOps R] in
theorem spawnSnapshotPane_ok {format : SnapshotFormat R} {world : World} {rects : IdMap Rect} {shell : String}
    {scrollback attempt : Nat} {saved : PaneSnapshot} {pane : Pane G}
    (started : spawnSnapshotPane format world rects shell scrollback saved attempt = .ok pane) :
    pane.RestoredFrom saved := by
  simp only [spawnSnapshotPane] at started
  split at started
  · cases started
  rename_i fresh spawned
  have base : Pane.RestoredFrom saved { fresh with name := saved.name, initialShell := saved.shell } := by
    rw [Pane.spawnInner_ok spawned]
    exact ⟨rfl, rfl, rfl, rfl, rfl, rfl⟩
  split at started
  · cases started
    exact base
  split at started
  · cases started
  · cases started
    exact base
  · cases started
    exact base.restoreScrollback _

theorem spawnSnapshotPanes_restored {format : SnapshotFormat R} {world : World} {spawns after : Nat}
    {tab : TabSnapshot R} {shell : String} {tw th : Nat} {settings : Settings} {scrollback : Nat}
    {panes : PaneMap G} (distinct : tab.paneIds.Nodup)
    (spawned : spawnSnapshotPanes format world spawns tab.layout tab shell tw th settings scrollback =
      (.ok panes, after)) {saved : PaneSnapshot} (member : saved ∈ tab.panes) :
    ∃ pane, panes[saved.id]? = some pane ∧ pane.RestoredFrom saved := by
  have keys : ((tab.panes.map fun saved =>
      (saved.id, spawnSnapshotPane (G := G) format world (tab.layout.paneRects (terminalContentArea tw th settings))
        shell scrollback saved)).map (·.1)) = tab.paneIds := by
    rw [List.map_map]
    rfl
  obtain ⟨attempt, pane, started, found⟩ :=
    spawnEach_getElem spawned (keys ▸ distinct) (List.mem_map.mpr ⟨saved, member, rfl⟩)
  exact ⟨pane, found, spawnSnapshotPane_ok started⟩

/-! ### Restart policies -/

private theorem restartsFrom_getElem {saved : List PaneSnapshot} {restarts : IdMap RestartPolicy} {id : Nat}
    (absent : id ∉ saved.map (·.id)) :
    (saved.foldl (fun restarts pane =>
      if pane.restart = .never then restarts else restarts.insert pane.id pane.restart) restarts)[id]? =
        restarts[id]? := by
  induction saved generalizing restarts with
  | nil => rfl
  | cons pane rest ih =>
      simp only [List.map_cons, List.mem_cons, not_or] at absent
      rw [List.foldl_cons, ih absent.2]
      split
      · rfl
      · rw [IdMap.getElem?_insert, if_neg absent.1]

/-- Each pane gets its own policy back; one that never restarts has no entry. -/
theorem restartsOf_getElem {saved : List PaneSnapshot} (distinct : (saved.map (·.id)).Nodup)
    {pane : PaneSnapshot} (member : pane ∈ saved) : (restartsOf saved)[pane.id]?.getD .never = pane.restart := by
  have general (restarts : IdMap RestartPolicy) (fresh : restarts[pane.id]? = none) :
      (saved.foldl (fun restarts pane =>
        if pane.restart = .never then restarts else restarts.insert pane.id pane.restart) restarts)[pane.id]?.getD
          .never = pane.restart := by
    induction saved generalizing restarts with
    | nil => cases member
    | cons first rest ih =>
        have unique := List.nodup_cons.mp distinct
        rw [List.foldl_cons]
        rcases List.mem_cons.mp member with rfl | later
        · rw [restartsFrom_getElem unique.1]
          split
          · rename_i never
            rw [fresh, never]
            rfl
          · rw [IdMap.getElem?_insert, if_pos rfl]
            rfl
        · have other : pane.id ≠ first.id := by
            intro same
            apply unique.1
            change first.id ∈ rest.map (·.id)
            exact same ▸ List.mem_map_of_mem later
          apply ih unique.2 later
          split
          · exact fresh
          · rw [IdMap.getElem?_insert, if_neg other, fresh]
  exact general ∅ (by simp)

/-! ### Tabs -/

/-- A tab whose panes are the ones its snapshot describes. -/
structure Tab.RestoredFrom (saved : TabSnapshot R) (tab : Tab R G) : Prop where
  restored : tab = Tab.restore saved tab.panes
  panes : ∀ pane ∈ saved.panes, ∃ live, tab.panes[pane.id]? = some live ∧ live.RestoredFrom pane

omit [RatioOps R] [Vt100 G] in
/-- Saving a restored tab shows its snapshot again. -/
theorem Tab.RestoredFrom.same {saved : TabSnapshot R} {tab : Tab R G} (restored : tab.RestoredFrom saved)
    (distinct : saved.paneIds.Nodup) (leaves : saved.paneIds.Perm saved.layout.paneIds) (world : World)
    {out : TabSnapshot R} (captured : out.withoutHistory = snapshotTab world tab) : saved.Same out := by
  have shown : out.withoutHistory = snapshotTab world (Tab.restore saved tab.panes) := by
    rw [captured, ← restored.restored]
  have ids : out.paneIds = saved.layout.paneIds := by
    have panes := congrArg (fun t => t.panes.map (·.id)) shown
    simpa [TabSnapshot.withoutHistory, PaneSnapshot.withoutHistory, snapshotTab, Tab.restore, Function.comp_def,
      snapshotPane_id, TabSnapshot.paneIds] using panes
  refine ⟨congrArg (·.name) shown, congrArg (·.layout) shown, congrArg (·.activePane) shown,
    congrArg (·.zoomedPane) shown, congrArg (·.broadcast) shown, ids ▸ leaves.symm, fun p member => ?_⟩
  obtain ⟨live, found, as⟩ := restored.panes p member
  have leaf : p.id ∈ saved.layout.paneIds := leaves.mem_iff.mp (List.mem_map_of_mem member)
  have listed : snapshotPane world tab.panes (restartsOf saved.panes) p.id ∈ out.withoutHistory.panes := by
    rw [shown]
    exact List.mem_map_of_mem leaf
  obtain ⟨q, present, same⟩ := List.mem_map.mp listed
  have fields : q.withoutHistory = snapshotPane world tab.panes (restartsOf saved.panes) p.id := same
  have shows : snapshotPane world tab.panes (restartsOf saved.panes) p.id =
      { id := p.id, launch := p.launch, name := p.name, cwd := live.liveCwd world, env := p.env
        restart := p.restart, shell := p.shell, scrollback := none, cursorPos := none } := by
    simp [snapshotPane, found, as.shown, as.launch, as.name, as.env, as.shell, restartsOf_getElem distinct member]
  rw [shows] at fields
  exact ⟨q, present, congrArg (·.id) fields, congrArg (·.launch) fields, congrArg (·.name) fields,
    congrArg (·.env) fields, congrArg (·.restart) fields, congrArg (·.shell) fields⟩

/-- A tab whose panes were spawned from its snapshot. -/
def Tab.SpawnedFrom (format : SnapshotFormat R) (world : World) (shell : String) (tw th : Nat) (settings : Settings)
    (scrollback : Nat) (saved : TabSnapshot R) (tab : Tab R G) : Prop :=
  tab = Tab.restore saved tab.panes ∧ ∃ before after,
    spawnSnapshotPanes format world before saved.layout saved shell tw th settings scrollback = (.ok tab.panes, after)

/-- Every tab was spawned from its snapshot or had its panes ready. -/
theorem spawnTabs_cases {format : SnapshotFormat R} {world : World} {shell : String} {tw th : Nat}
    {settings : Settings} {scrollback : Nat} {ready : Nat → Option (PaneMap G)} {idx spawns after : Nat}
    {saved : List (TabSnapshot R)} {tabs : List (Tab R G)}
    (spawned : spawnTabs format world shell tw th settings scrollback ready idx spawns saved = (.ok tabs, after)) :
    List.Forall₂ (fun saved tab => Tab.SpawnedFrom format world shell tw th settings scrollback saved.1 tab ∨
      tab = Tab.restore saved.1 tab.panes ∧ ready saved.2 = some tab.panes) (saved.zipIdx idx) tabs := by
  induction saved generalizing idx spawns after tabs with
  | nil =>
      cases spawned
      exact .nil
  | cons tab rest ih =>
      simp only [spawnTabs] at spawned
      split at spawned
      · cases spawned
      rename_i panes next result
      split at spawned
      · cases spawned
      rename_i later last restResult
      cases spawned
      refine .cons ?_ (ih restResult)
      split at result
      · rename_i had
        cases result
        exact .inr ⟨rfl, had⟩
      · exact .inl ⟨rfl, _, _, result⟩

theorem Tab.SpawnedFrom.restoredFrom {format : SnapshotFormat R} {world : World} {shell : String} {tw th : Nat}
    {settings : Settings} {scrollback : Nat} {saved : TabSnapshot R} {tab : Tab R G}
    (spawned : Tab.SpawnedFrom format world shell tw th settings scrollback saved tab)
    (distinct : saved.paneIds.Nodup) : tab.RestoredFrom saved := by
  obtain ⟨restored, _, _, result⟩ := spawned
  exact ⟨restored, fun pane member => spawnSnapshotPanes_restored distinct result member⟩

/-! ### The session -/

/-- The settings that a load spawns its panes under. -/
def WorkspaceSnapshot.settings (saved : WorkspaceSnapshot R) : Settings :=
  { Settings.new saved.borderStyle with
    tabCount := saved.tabs.length
    showStatusBar := saved.showStatusBar
    showTabBar := saved.showTabBar }

/-- A failed load leaves the session as it was; a successful one restores every tab. -/
theorem Session.load_cases (format : SnapshotFormat R) (world : World) (path : String) (s : Session R G) :
    (∃ message spawns, s.load format world path = ({ s with spawns }, .error message)) ∨
      ∃ saved next, loadSnapshot format path = .ok saved ∧ s.load format world path = (next, .ok ()) ∧
        List.Forall₂ (Tab.SpawnedFrom format world saved.shell s.tw s.th saved.settings saved.scrollback)
          saved.tabs next.tabs ∧
        next =
          { s with
            tab := next.tab
            tabMgr := next.tabMgr
            shell := saved.shell
            spawns := next.spawns
            settings :=
              { s.settings with
                borderStyle := saved.borderStyle
                showStatusBar := saved.showStatusBar
                showTabBar := saved.showTabBar
                tabCount := saved.tabs.length } } ∧
        next.tabMgr.activeIdx = saved.activeTab := by
  simp only [Session.load]
  split
  · exact .inl ⟨_, s.spawns, rfl⟩
  rename_i saved accepted
  split
  · exact .inl ⟨_, _, rfl⟩
  rename_i tabs spawns spawned
  have cases := spawnTabs_cases spawned
  have length : saved.tabs.length = tabs.length := by simpa using cases.length_eq
  have active := (loadSnapshot_valid accepted).active
  rw [dif_pos (by omega)]
  have position : min saved.activeTab (tabs.length - 1) = saved.activeTab := by omega
  refine .inr ⟨saved, _, accepted, rfl, ?_, ?_, position⟩
  · have each : List.Forall₂
        (Tab.SpawnedFrom format world saved.shell s.tw s.th saved.settings saved.scrollback) saved.tabs tabs := by
      rw [← List.zipIdx_map_fst 0 saved.tabs, List.forall₂_map_left_iff]
      refine cases.imp fun entry tab alternatives => ?_
      rcases alternatives with spawned | ⟨_, had⟩
      · exact spawned
      · cases had
    simpa only [Session.tabs, TabManager.fromTabs, TabManager.takeOut_withActive] using each
  · simp only [TabManager.fromTabs, TabManager.takeOut, length]
    rfl

private theorem forall₂_of_mem {α β : Type} {Rel Wider : α → β → Prop} {as : List α} {bs : List β}
    (related : List.Forall₂ Rel as bs) (wider : ∀ a b, a ∈ as → Rel a b → Wider a b) : List.Forall₂ Wider as bs := by
  induction related with
  | nil => exact .nil
  | cons here rest ih =>
      exact .cons (wider _ _ List.mem_cons_self here) (ih fun a b member => wider a b (List.mem_cons_of_mem _ member))

omit [Vt100 G] in
private theorem same_of_restored {world : World} {saved out : List (TabSnapshot R)} {tabs : List (Tab R G)}
    (valid : ∀ tab ∈ saved, tab.Valid) (restored : List.Forall₂ Tab.RestoredFrom saved tabs)
    (captured : out.map (·.withoutHistory) = tabs.map (snapshotTab world)) :
    List.Forall₂ TabSnapshot.Same saved out := by
  induction restored generalizing out with
  | nil =>
      rw [List.map_nil, List.map_eq_nil_iff] at captured
      rw [captured]
      exact .nil
  | cons first rest ih =>
      rw [List.map_cons, List.map_eq_cons_iff] at captured
      obtain ⟨tab, later, rfl, here, there⟩ := captured
      have formed := valid _ List.mem_cons_self
      exact .cons (first.same formed.distinct formed.leaves world here)
        (ih (fun other member => valid other (List.mem_cons_of_mem _ member)) there)

/-- Saving right after a load gives the loaded snapshot back exactly when its history
limit is the running session's. -/
theorem Session.load_capture_same_iff {format : SnapshotFormat R} {world later : World} {path : String}
    {s next : Session R G} {saved out : WorkspaceSnapshot R} (accepted : loadSnapshot format path = .ok saved)
    (loaded : s.load format world path = (next, .ok ())) (captured : (next.capture format later).2 = .ok out) :
    saved.Same out ↔ saved.scrollback = s.scrollback := by
  rcases s.load_cases format world path with ⟨_, _, failed⟩ | ⟨found, _, read, result, restored, fields, active⟩
  · rw [loaded] at failed
    cases failed
  rw [accepted] at read
  cases read
  rw [loaded] at result
  cases result
  obtain ⟨_, shown, tabs⟩ := Session.capture_ok captured
  have valid := loadSnapshot_valid accepted
  have limit : out.scrollback = s.scrollback := by rw [shown, fields]; rfl
  refine ⟨fun same => same.scrollback.symm.trans limit, fun same => ?_⟩
  refine ⟨?_, ?_, ?_, ?_, limit.trans same.symm, ?_, same_of_restored valid.tabs ?_ tabs⟩
  · rw [shown, fields]
    rfl
  · rw [shown, fields]
    rfl
  · rw [shown, fields]
    rfl
  · rw [shown, fields]
    rfl
  · rw [shown]
    exact active
  · exact forall₂_of_mem restored fun tab _ member spawned => spawned.restoredFrom (valid.tabs tab member).distinct

end Restore

/-! ## A load and the save after it -/

section LoadSave
variable {R G : Type} [RatioOps R] [Vt100 G]

/-- After a successful load, a successful save shows the loaded snapshot exactly when its
history limit is the session's; after a failed one nothing has changed. -/
theorem Session.load_save (format : SnapshotFormat R) (world later : World) (path : String) (s : Session R G) :
    (∀ saved next out, loadSnapshot format path = .ok saved → s.load format world path = (next, .ok ()) →
      (next.capture format later).2 = .ok out → (saved.Same out ↔ saved.scrollback = s.scrollback)) ∧
    (∀ next message, s.load format world path = (next, .error message) → next = { s with spawns := next.spawns }) := by
  constructor
  · intro saved next out accepted loaded captured
    exact load_capture_same_iff accepted loaded captured
  · intro next message failed
    rcases s.load_cases format world path with ⟨_, spawns, result⟩ | ⟨_, _, _, result, _⟩
    · rw [failed] at result
      cases result
      rfl
    · rw [failed] at result
      cases result

end LoadSave

/-! ## A history limit that is lost -/

/-- A snapshot file with two panes and room for 10000 rows. -/
def pairFile : SnapshotFormat ℚ := ⟨id, fun _ => .ok, fun _ => 0, fun _ => .ok zoomedPair⟩

theorem pairFile_accepted : loadSnapshot pairFile "pair.json" = .ok zoomedPair := by
  have decoded : decodeAll pairFile (zoomedPair.tabs.flatMap (·.panes)) = .ok () := rfl
  have read : pairFile.read "pair.json" = .ok zoomedPair := rfl
  simp only [loadSnapshot, read, zoomedPair_valid, decoded]

def pairTabs : Except String (List (Tab ℚ RawDisplay)) × Nat :=
  spawnTabs pairFile {} zoomedPair.shell Session.twoTabs.tw Session.twoTabs.th zoomedPair.settings
    zoomedPair.scrollback (fun _ => none) 0 Session.twoTabs.spawns zoomedPair.tabs

/-- What the load puts in place of the session's two tabs. -/
def loadedPair : Session ℚ RawDisplay :=
  match pairTabs with
  | (.error _, _) => Session.twoTabs
  | (.ok tabs, spawns) =>
      if nonempty : 0 < tabs.length then
        let (mgr, active) := TabManager.fromTabs tabs zoomedPair.activeTab nonempty
        { Session.twoTabs with
          tab := active
          tabMgr := mgr
          shell := zoomedPair.shell
          spawns
          settings :=
            { Session.twoTabs.settings with
              borderStyle := zoomedPair.settings.borderStyle
              showStatusBar := zoomedPair.settings.showStatusBar
              showTabBar := zoomedPair.settings.showTabBar
              tabCount := mgr.count } }
      else Session.twoTabs

theorem loadedPair_loaded : Session.twoTabs.load pairFile {} "pair.json" = (loadedPair, .ok ()) := by
  have spawned : pairTabs.1.toOption.any (fun tabs => 0 < tabs.length) = true := by decide +kernel
  cases result : pairTabs with
  | mk outcome spawns =>
      rw [result] at spawned
      cases outcome with
      | error message => cases spawned
      | ok tabs =>
          have nonempty : 0 < tabs.length := of_decide_eq_true spawned
          simp only [loadedPair, result, dif_pos nonempty, Session.load, pairFile_accepted]
          split
          · next message after failed => cases result.symm.trans failed
          · next others after started =>
              cases result.symm.trans started
              rw [dif_pos nonempty]
              rfl

/-- The snapshot saved right after shows the limit of the session that loaded it. -/
theorem loadedPair_captured : (loadedPair.capture pairFile {}).2 = .ok (loadedPair.fromLive {}) := by
  have unkept : ∀ id ∈ loadedPair.tab.layout.paneIds,
      (persistOverrides loadedPair.tab.panes)[id]?.getD loadedPair.persistScrollback = false := by
    decide +kernel
  have single : loadedPair.tabMgr.tabs = [] := List.length_eq_zero_iff.mp (by decide +kernel)
  have first : loadedPair.tabMgr.activeIdx = 0 := by decide +kernel
  have valid : (snapshotTab {} loadedPair.tab).Valid := by
    have bare : ∀ pane ∈ (snapshotTab {} loadedPair.tab).panes, pane.scrollback.isNone = true := by decide +kernel
    refine ⟨by decide +kernel, by decide +kernel, by decide +kernel, by decide +kernel, by decide +kernel,
      by decide +kernel, by decide +kernel, by decide +kernel, ?_, ?_⟩
    · have zoomed : (snapshotTab {} loadedPair.tab).zoomedPane = some 1 := by decide +kernel
      intro id found
      cases zoomed.symm.trans found
      decide +kernel
    · intro pane member blob saved
      have none := bare pane member
      rw [saved] at none
      cases none
  have accepted : (loadedPair.fromLive {}).validate = .ok () := by
    refine WorkspaceSnapshot.validate_ok_iff.mpr ⟨by decide +kernel, by decide +kernel, by decide +kernel,
      by decide +kernel, by decide +kernel, by decide +kernel, fun tab member => ?_, by decide +kernel⟩
    rw [Session.fromLive_tabs, Session.tabs, TabManager.withActive_eq, single, first] at member
    rw [List.mem_singleton.mp member]
    exact valid
  rw [Session.capture_unkept single unkept, accepted]
  rfl

theorem loadedPair_not_same : ∃ out, loadSnapshot pairFile "pair.json" = .ok zoomedPair ∧
    Session.twoTabs.load pairFile {} "pair.json" = (loadedPair, .ok ()) ∧
    (loadedPair.capture pairFile {}).2 = .ok out ∧ ¬ zoomedPair.Same out := by
  refine ⟨_, pairFile_accepted, loadedPair_loaded, loadedPair_captured, fun same => ?_⟩
  have limit : (loadedPair.fromLive {}).scrollback = 100 := by decide +kernel
  have kept := same.scrollback
  rw [limit] at kept
  cases kept

end Ezpn
