import Ezpn.Server.Loop
import Ezpn.Server.Steps
import Ezpn.Session.Processes

/-!
# Processes in the server

Which processes each operation of the core leaves in the active tab, and that the
numbers stay distinct in every tab.
-/

set_option autoImplicit false

namespace Ezpn

/-- The active tab stays and its output is not read. -/
def Op.stays {R : Type} : Op R → Bool
  | .read _ | .newTab _ | .goToTab _ | .closeTab | .load _ => false
  | _ => true

section Single
variable {G : Type} [Vt100 G]

theorem PaneOp.apply_steady (op : PaneOp) (pane : Pane G) : pane.Steady (op.apply pane) := by
  cases op <;> exact ⟨rfl, rfl, rfl⟩

theorem Pane.configured_steady (byteBudget : Nat) (policy : ClipboardPolicy) (pane : Pane G) :
    pane.Steady ((pane.setScrollbackBudget byteBudget).setClipboardPolicy policy) := by
  simp only [setScrollbackBudget]
  split <;> exact ⟨rfl, rfl, rfl⟩

theorem Pane.serve_process (world : World) (feed : Feed) (pane : Pane G) :
    (pane.serve world feed).process = pane.process := (pane.serve_continues world feed).process

end Single

namespace Core
variable {R G : Type} [RatioOps R] [Vt100 G]

/-- Places of the active tab that get a new process. -/
def fresh (world : World) (op : Op R) (c : Core R G) : List Nat :=
  let s := c.session
  match op with
  | .restart => (c.restarting world).restarted
  | .split target dir => if (s.doSplit world target dir).2.isOk then [s.tab.layout.nextId] else []
  | .respawn => if (c.givenUp world .respawn).isEmpty then [] else [s.tab.activePane]
  | .exec id command =>
      if s.tab.panes.contains id && (s.replacePane world id (.command command) s.shell).2.isOk then [id] else []
  | _ => []

omit [RatioOps R] [Vt100 G] in
/-- Panes, possibly with a later count of spawns, as they were. -/
theorem steady_renewed {spawns later : Nat} {panes after : PaneMap G} (evolve : PaneMap.Evolve Pane.Steady panes after)
    (le : spawns ≤ later) : PaneMap.Renewed Pane.Steady spawns later [] panes after :=
  evolve.renewed (fun _ _ steady => steady.process) le

omit [RatioOps R] [Vt100 G] in
theorem unchanged_renewed (spawns : Nat) (panes : PaneMap G) :
    PaneMap.Renewed Pane.Steady spawns spawns [] panes panes :=
  steady_renewed (.refl .refl panes) (Nat.le_refl _)

theorem refit_steady (world : World) (s : Session R G) :
    PaneMap.Evolve Pane.Steady s.tab.panes (s.resizeAll world).tab.panes :=
  resizeAll_steady world _ _ _ _ _

omit [RatioOps R] in
theorem resizeZoomedPane_steady (world : World) (s : Session R G) (id : Nat) :
    PaneMap.Evolve Pane.Steady s.tab.panes (s.resizeZoomedPane world id).tab.panes := by
  simp only [Session.resizeZoomedPane, Session.setPanes, resizeZoomedPane]
  split
  · rename_i pane found
    exact .insert .refl found (pane.resize_steady world _ _)
  · exact .refl .refl _

theorem refitZoomed_steady (world : World) (c : Core R G) :
    PaneMap.Evolve Pane.Steady c.session.tab.panes (c.refitZoomed world).session.tab.panes := by
  have fitted := refit_steady world c.session
  simp only [refitZoomed]
  split
  · exact fitted.trans Pane.Steady.trans (resizeZoomedPane_steady world (c.refit world).session _)
  · exact fitted

theorem refresh_steady (world : World) (c : Core R G) :
    PaneMap.Evolve Pane.Steady c.session.tab.panes (c.refresh world).session.tab.panes := by
  have rebuilt : c.rebuildBorders.session = c.session := by
    simp only [rebuildBorders]
    split <;> rfl
  simp only [refresh, followZoom, rebuilt]
  split
  · exact resizeZoomedPane_steady world { c.session with tab.zoomedPane := some c.session.tab.activePane } _
  · rw [rebuilt]
    exact .refl .refl _

omit [RatioOps R] [Vt100 G] in
theorem modifyPane_steady {change : Pane G → Pane G} (steady : ∀ pane, Pane.Steady pane (change pane)) (id : Nat)
    (c : Core R G) : PaneMap.Evolve Pane.Steady c.session.tab.panes (c.modifyPane id change).session.tab.panes :=
  .modify .refl fun pane _ => steady pane

omit [RatioOps R] in
theorem draw_steady (targets : List Nat) (c : Core R G) :
    PaneMap.Evolve Pane.Steady c.session.tab.panes (c.draw targets).session.tab.panes := by
  induction targets generalizing c with
  | nil => exact .refl .refl _
  | cons id targets ih =>
      have steady (pane : Pane G) : pane.Steady pane.syncScrollback.resetScrollbackView := ⟨rfl, rfl, rfl⟩
      have first := modifyPane_steady steady id c
      exact first.trans Pane.Steady.trans (ih _)

omit [RatioOps R] [Vt100 G] in
theorem drainPrompt_steady (c : Core R G) :
    PaneMap.Evolve Pane.Steady c.session.tab.panes c.drainPrompt.session.tab.panes := by
  simp only [drainPrompt]
  split
  · exact .refl .refl _
  split
  · exact .refl .refl _
  · rename_i id pane found
    have present := Std.ExtTreeMap.mem_toList_iff_getElem?_eq_some.mp (List.mem_of_find?_eq_some found)
    exact .insert .refl present ⟨rfl, rfl, rfl⟩

/-- Restarting replaces panes, and configures those it has restarted. -/
theorem restart_session (world : World) (c : Core R G) :
    ∃ panes, (c.restart world).session =
        { c.session with
          tab.panes := panes, tab.restartState := (c.restarting world).state, spawns := (c.restarting world).spawns } ∧
      PaneMap.Evolve Pane.Steady (c.restarting world).panes panes := by
  obtain ⟨panes, configured, evolve⟩ := configure_evolve (R := R) Pane.Steady Pane.Steady.refl
    Pane.Steady.trans (c.restarting world).restarted
    { c.session with
      tab.panes := (c.restarting world).panes, tab.restartState := (c.restarting world).state
      spawns := (c.restarting world).spawns }
    fun pane => pane.configured_steady _ _
  exact ⟨panes, configured, evolve⟩

theorem restart_renewed (world : World) (c : Core R G) :
    PaneMap.Renewed Pane.Steady c.session.spawns (c.restart world).session.spawns (c.restarting world).restarted
      c.session.tab.panes (c.restart world).session.tab.panes := by
  have renewed := restartPanes_renewed world c.session.spawns c.session.tab.panes c.session.tab.layout
    c.session.tab.restartPolicies c.session.tab.restartState c.session.shell c.session.tw c.session.th
    c.session.settings c.session.scrollback
  obtain ⟨panes, after, evolve⟩ := c.restart_session world
  have whole := renewed.trans (fun _ _ steady => steady.process) Pane.Steady.trans
    (steady_renewed evolve (Nat.le_refl (c.restarting world).spawns))
  rw [List.append_nil] at whole
  rw [after]
  exact whole

theorem panel_steady (world : World) (outcome : Settings × SettingsAction) (c : Core R G) :
    PaneMap.Evolve Pane.Steady c.session.tab.panes (c.panel world outcome).session.tab.panes := by
  simp only [panel]
  split
  · exact resizeAll_steady world _ _ _ _ _
  · exact .refl .refl _

omit [RatioOps R] [Vt100 G] in
theorem answer_steady (reply : Osc52Answer) (c : Core R G) :
    PaneMap.Evolve Pane.Steady c.session.tab.panes (c.answer reply).session.tab.panes := by
  simp only [answer]
  split
  · exact .refl .refl _
  · refine modifyPane_steady (fun pane => ?_) _ c
    cases reply <;> exact ⟨rfl, rfl, rfl⟩

theorem respawn_renewed (world : World) (c : Core R G) :
    PaneMap.Renewed Pane.Steady c.session.spawns (c.session.respawn world).spawns (c.fresh world .respawn)
      c.session.tab.panes (c.session.respawn world).tab.panes := by
  simp only [Session.respawn]
  split
  · rename_i found
    have none : c.fresh world .respawn = [] := by simp [fresh, givenUp, found]
    rw [none]
    exact unchanged_renewed _ _
  rename_i old found
  split
  · rename_i alive
    have none : c.fresh world .respawn = [] := by simp [fresh, givenUp, found, alive]
    rw [none]
    exact unchanged_renewed _ _
  rename_i dead
  simp only [Bool.not_eq_true] at dead
  have renewed := replacePane_renewed world c.session.spawns c.session.tab.panes c.session.tab.layout
    c.session.tab.activePane old.launch (old.initialShell.getD c.session.shell) c.session.tw c.session.th
    c.session.settings c.session.scrollback
  split
  · rename_i message failed
    have none : c.fresh world .respawn = [] := by simp [fresh, givenUp, found, dead, failed, Except.isOk, Except.toBool]
    simp only [Session.replacePane] at failed
    simp only [failed] at renewed
    rw [none]
    exact renewed
  · rename_i accepted
    have one : c.fresh world .respawn = [c.session.tab.activePane] := by
      simp [fresh, givenUp, found, dead, accepted, Except.isOk, Except.toBool]
    simp only [Session.replacePane] at accepted
    simp only [accepted] at renewed
    rw [one]
    exact renewed.modify_fresh (List.mem_singleton_self _) fun _ => rfl

theorem exec_renewed (world : World) (id : Nat) (command : String) (c : Core R G) :
    let after : Session R G := if c.session.tab.panes.contains id then
        (c.session.replacePane world id (.command command) c.session.shell).1 else c.session
    PaneMap.Renewed Pane.Steady c.session.spawns after.spawns (c.fresh world (.exec id command)) c.session.tab.panes
      after.tab.panes := by
  have renewed := replacePane_renewed world c.session.spawns c.session.tab.panes c.session.tab.layout id
    (.command command) c.session.shell c.session.tw c.session.th c.session.settings c.session.scrollback
  simp only [fresh]
  split
  · rename_i present
    simp only [present, Bool.true_and]
    exact renewed
  · rename_i absent
    simp only [absent, Bool.false_and]
    exact unchanged_renewed _ _

/-! ### The count of spawns -/

theorem restartTabs_spawns (world : World) (shell : String) (tw th : Nat) (settings : Settings) (scrollback spawns : Nat)
    (tabs : List (Tab R G)) : spawns ≤ (restartTabs world shell tw th settings scrollback spawns tabs).2 := by
  induction tabs generalizing spawns with
  | nil => exact Nat.le_refl _
  | cons tab tabs ih =>
      exact (restartPanes_renewed world spawns tab.panes tab.layout tab.restartPolicies tab.restartState shell tw th
        settings scrollback).le.trans (ih _)

theorem refitZoomed_renewed (world : World) {panes : PaneMap G} {spawns : Nat} {c : Core R G}
    (had : c.session.tab.panes = panes) (counted : c.session.spawns = spawns) :
    PaneMap.Renewed Pane.Steady spawns (c.refitZoomed world).session.spawns [] panes
      (c.refitZoomed world).session.tab.panes := by
  have same : (c.refitZoomed world).session.spawns = c.session.spawns := by
    simp only [refitZoomed]
    split <;> rfl
  rw [← had, ← counted]
  exact steady_renewed (c.refitZoomed_steady world) same.ge

theorem panel_spawns (world : World) (outcome : Settings × SettingsAction) (c : Core R G) :
    (c.panel world outcome).session.spawns = c.session.spawns := by
  simp only [panel]
  split <;> rfl

theorem render_spawns (world : World) (targets : List Nat) (c : Core R G) :
    ((c.refresh world).draw targets).session.spawns = c.session.spawns := by
  have drawn (targets : List Nat) (c : Core R G) : (c.draw targets).session.spawns = c.session.spawns := by
    induction targets generalizing c with
    | nil => rfl
    | cons id targets ih => exact ih (c.modifyPane id _)
  rw [drawn]
  simp only [refresh, followZoom, rebuildBorders]
  repeat' split
  all_goals rfl

theorem goToTab_spawns (world : World) (target : Nat) (c : Core R G) :
    (((c.session.goToTab world target).map c.retab).getD c).session.spawns = c.session.spawns := by
  cases moved : c.session.goToTab world target with
  | none => rfl
  | some next =>
      obtain ⟨mgr, tab, rfl, _⟩ := Session.goToTab_cases moved
      rfl

theorem closeTab_spawns (world : World) (c : Core R G) :
    (((c.session.closeTab world).map c.retab).getD c).session.spawns = c.session.spawns := by
  cases closed : c.session.closeTab world with
  | none => rfl
  | some next =>
      obtain ⟨mgr, tab, rfl, _⟩ := Session.closeTab_cases closed
      rfl

/-- Where the active tab stays, its panes are the ones it had, but for new processes in some places. -/
theorem apply_renewed (format : SnapshotFormat R) (world : World) (op : Op R) (c : Core R G) (stays : op.stays = true) :
    PaneMap.Renewed Pane.Steady c.session.spawns (c.apply format world op).session.spawns (c.fresh world op)
      c.session.tab.panes (c.apply format world op).session.tab.panes := by
  have unchanged := unchanged_renewed c.session.spawns c.session.tab.panes
  have steady {after : PaneMap G} (evolve : PaneMap.Evolve Pane.Steady c.session.tab.panes after) :
      PaneMap.Renewed Pane.Steady c.session.spawns c.session.spawns [] c.session.tab.panes after :=
    steady_renewed evolve (Nat.le_refl _)
  cases op with
  | read feeds => cases stays
  | prompt =>
      have spawns : c.drainPrompt.session.spawns = c.session.spawns := by
        simp only [drainPrompt]
        repeat' split
        all_goals rfl
      exact steady_renewed c.drainPrompt_steady spawns.ge
  | restart => exact c.restart_renewed world
  | restartInactive => exact steady_renewed (.refl .refl _) (restartTabs_spawns ..)
  | unzoomMissing =>
      simp only [apply]
      split
      · exact steady (resizeAll_steady world _ _ _ _ _)
      · exact unchanged
  | render targets =>
      have drawn := (c.refresh_steady world).trans Pane.Steady.trans (draw_steady (targets.getD []) (c.refresh world))
      exact steady_renewed drawn (render_spawns world (targets.getD []) c).ge
  | resizeTerminal tw th =>
      exact refitZoomed_renewed world rfl rfl
  | reload border showStatusBar showTabBar themeChanged =>
      simp only [apply]
      split
      · exact refitZoomed_renewed world rfl rfl
      · exact unchanged
  | requestReload requested => exact unchanged
  | markBorders => exact unchanged
  | split target dir =>
      exact doSplit_renewed world c.session.spawns c.session.tab.layout c.session.tab.panes target dir c.session.shell
        c.session.tw c.session.th c.session.settings c.session.scrollback
  | close target =>
      have erased : PaneMap.Evolve Pane.Steady c.session.tab.panes (c.session.tab.panes.erase target) := .erase .refl
      exact steady (erased.trans Pane.Steady.trans (resizeAll_steady world _ _ _ _ _))
  | equalize => exact steady (resizeAll_steady world _ _ _ _ _)
  | refit => exact steady (resizeAll_steady world _ _ _ _ _)
  | resizePane dir delta =>
      simp only [apply]
      split
      · exact steady (resizeAll_steady world _ _ _ _ _)
      · exact unchanged
  | setRatio path ratio => exact steady (resizeAll_steady world _ _ _ _ _)
  | swap other => exact unchanged
  | reconfigure spec =>
      simp only [apply]
      split
      · exact steady (resizeAll_steady world _ _ _ _ _)
      · exact unchanged
  | focus id => exact unchanged
  | zoom id => exact steady (resizeZoomedPane_steady world { c.session with tab.zoomedPane := some id } id)
  | unzoom => exact steady (resizeAll_steady world _ _ _ _ _)
  | setBroadcast on => exact unchanged
  | showStatusBar on => exact steady (resizeAll_steady world _ _ _ _ _)
  | showTabBar on => exact steady (resizeAll_steady world _ _ _ _ _)
  | togglePanel => exact unchanged
  | panelKey key => exact steady_renewed (panel_steady world _ c) (panel_spawns world _ c).ge
  | panelClick x y => exact steady_renewed (panel_steady world _ c) (panel_spawns world _ c).ge
  | pane id op => exact steady (modifyPane_steady op.apply_steady id c)
  | respawn => exact c.respawn_renewed world
  | exec id command =>
      have renewed := c.exec_renewed world id command
      simp only [apply]
      split at renewed <;> rename_i present <;> simp only [present] <;> exact renewed
  | answer reply =>
      have spawns : (c.answer reply).session.spawns = c.session.spawns := by
        simp only [answer]
        split <;> rfl
      exact steady_renewed (answer_steady reply c) spawns.ge
  | newTab name => cases stays
  | goToTab target => cases stays
  | closeTab => cases stays
  | renameTab name => exact unchanged
  | save =>
      obtain ⟨tab, tabs, captured, active, stored⟩ := c.session.capture_evolve Pane.Steady Pane.Steady.refl Pane.Steady.trans
        (fun _ => ⟨rfl, rfl, rfl⟩) format world
      simp only [apply, captured]
      exact steady active.panes
  | load path => cases stays

/-! ### Every tab -/

theorem render_tabMgr (world : World) (targets : List Nat) (c : Core R G) :
    ((c.refresh world).draw targets).session.tabMgr = c.session.tabMgr := by
  have drawn (targets : List Nat) (c : Core R G) : (c.draw targets).session.tabMgr = c.session.tabMgr := by
    induction targets generalizing c with
    | nil => rfl
    | cons id targets ih => exact ih (c.modifyPane id _)
  rw [drawn]
  simp only [refresh, followZoom, rebuildBorders]
  repeat' split
  all_goals rfl

theorem refitZoomed_tabMgr (world : World) (c : Core R G) : (c.refitZoomed world).session.tabMgr = c.session.tabMgr := by
  simp only [refitZoomed]
  split <;> rfl

/-- Only these operations reach the stored tabs. -/
theorem apply_tabMgr (format : SnapshotFormat R) (world : World) (op : Op R) (c : Core R G) (stays : op.stays = true)
    (own : op ≠ .restartInactive ∧ op ≠ .save) : (c.apply format world op).session.tabMgr = c.session.tabMgr := by
  cases op with
  | restartInactive => exact absurd rfl own.1
  | save => exact absurd rfl own.2
  | read feeds => cases stays
  | newTab name => cases stays
  | goToTab target => cases stays
  | closeTab => cases stays
  | load path => cases stays
  | prompt =>
      simp only [apply, drainPrompt]
      repeat' split
      all_goals rfl
  | restart =>
      obtain ⟨panes, after, _⟩ := c.restart_session world
      exact congrArg (·.tabMgr) after
  | render targets => exact render_tabMgr world _ c
  | resizeTerminal tw th => exact refitZoomed_tabMgr world _
  | reload border showStatusBar showTabBar themeChanged =>
      simp only [apply]
      split
      · exact refitZoomed_tabMgr world _
      · rfl
  | panelKey key =>
      simp only [apply, panel]
      split <;> rfl
  | panelClick x y =>
      simp only [apply, panel]
      split <;> rfl
  | respawn =>
      simp only [apply]
      rcases c.session.respawn_cases world with unchanged | ⟨rect, pane, _, _, _, replaced⟩
      · rw [unchanged]
      · rw [replaced]
  | answer reply =>
      simp only [apply, answer]
      split <;> rfl
  | unzoomMissing | resizePane dir delta | reconfigure spec | exec id command =>
      simp only [apply]
      split <;> rfl
  | requestReload _ | markBorders | split _ _ | close _ | equalize | refit | setRatio _ _ | swap _ | focus _ | zoom _
  | unzoom | setBroadcast _ | showStatusBar _ | showTabBar _ | togglePanel | pane _ _ | renameTab _ => rfl

theorem restartTabs_numbered {world : World} {shell : String} {tw th : Nat} {settings : Settings}
    {scrollback : Nat} (spawns : Nat) {tabs : List (Tab R G)} (numbered : ∀ tab ∈ tabs, tab.panes.Numbered spawns) :
    let out := restartTabs world shell tw th settings scrollback spawns tabs
    ∀ entry ∈ out.1, entry.1.panes.Numbered out.2 := by
  induction tabs generalizing spawns with
  | nil => simp [restartTabs]
  | cons tab tabs ih =>
      have renewed := restartPanes_renewed world spawns tab.panes tab.layout tab.restartPolicies tab.restartState shell
        tw th settings scrollback
      have first := renewed.numbered (numbered tab List.mem_cons_self)
      have later := ih (restartPanes world spawns tab.panes tab.layout tab.restartPolicies tab.restartState
        shell tw th settings scrollback).spawns fun tab member =>
          (numbered tab (List.mem_cons_of_mem _ member)).mono renewed.le
      intro out entry member
      rcases List.mem_cons.mp member with rfl | member
      · exact first.mono (restartTabs_spawns ..)
      · exact later entry member

/-- A new tab has one process, the next one. -/
theorem newTab_numbered {world : World} {s : Session R G} (numbered : s.Numbered) (name : Option String) :
    (s.newTab world name).1.Numbered := by
  have stored : ∀ tab ∈ s.tabs, tab.panes.Numbered s.spawns := Session.allTabs_iff.mp numbered
  rcases s.newTab_cases world name with ⟨mgr, tab, failed, _, _, all⟩ | ⟨rect, pane, title, opened, _, fresh, process, _, rfl⟩
  · rw [failed]
    have entered := all (fun tab => tab.panes.Numbered (s.spawns + 1))
      (numbered.mono fun tab numbered => numbered.mono (Nat.le_succ _))
    refine ⟨?_, entered.2⟩
    exact (steady_renewed (resizeAll_steady world _ _ _ _ _) (Nat.le_refl _)).numbered entered.1
  · rw [opened]
    refine ⟨?_, fun tab member => (stored tab member).mono (Nat.le_succ _)⟩
    have shown := (fresh.configured_steady s.scrollbackBytes s.clipboardPolicy).process.trans process
    exact (PaneMap.renewed_insert Pane.Steady.refl shown).numbered (.empty s.spawns)

omit [RatioOps R] in
theorem detectSpawned_session (c : Core R G) :
    ∃ panes, c.detectSpawned.session = c.session.setPanes panes ∧
      PaneMap.Evolve Pane.Steady c.session.tab.panes panes :=
  configure_evolve Pane.Steady Pane.Steady.refl Pane.Steady.trans _ c.session fun pane => pane.configured_steady _ _

/-- Reading keeps every process in its place. -/
theorem read_processes (format : SnapshotFormat R) (world : World) (feeds : Nat → Pane.Feed) (c : Core R G) :
    PaneMap.Evolve (fun old pane => pane.process = old.process) c.session.tab.panes
      (c.apply format world (.read feeds)).session.tab.panes := by
  obtain ⟨panes, detected, evolve⟩ := c.detectSpawned_session
  have served : PaneMap.Evolve (fun old pane => pane.process = old.process) panes
      (Std.ExtTreeMap.map (fun _ pane => pane.serve world (feeds pane.process)) panes) :=
    .map fun _ pane => pane.serve_process world _
  simp only [apply, readAll, detected, Session.setPanes]
  exact (evolve.weaken fun _ _ steady => steady.process).trans (fun _ _ _ first second => second.trans first) served

theorem read_numbered (format : SnapshotFormat R) (world : World) (feeds : Nat → Pane.Feed) {c : Core R G}
    (numbered : c.session.Numbered) : (c.apply format world (.read feeds)).session.Numbered := by
  obtain ⟨panes, detected, _⟩ := c.detectSpawned_session
  have active := ((c.read_processes format world feeds).renewed (fun _ _ same => same)
    (Nat.le_refl c.session.spawns)).numbered numbered.1
  simp only [apply, readAll, detected, Session.setPanes] at active ⊢
  refine ⟨active, fun tab member => ?_⟩
  obtain ⟨old, oldMember, rfl⟩ := List.mem_map.mp member
  have same : PaneMap.Evolve (fun old pane => pane.process = old.process) old.panes
      (Std.ExtTreeMap.map (fun _ pane => (pane.readOutput world (feeds pane.process)).1) old.panes) :=
    .map fun _ pane => (pane.readOutput_continues world _).process
  exact (same.renewed (fun _ _ same => same) (Nat.le_refl _)).numbered (numbered.2 old oldMember)

theorem restartInactive_numbered {world : World} {c : Core R G} (numbered : c.session.Numbered) :
    (c.restartInactive world).session.Numbered := by
  have related : List.Forall₂ (fun _ _ : Tab R G => True) c.session.tabMgr.tabs
      ((c.restartedTabs world).1.map (·.1)) :=
    List.forall₂_map_right_iff.mpr (restartTabs_forall₂ fun _ _ => trivial)
  refine ⟨numbered.1.mono (restartTabs_spawns ..), fun tab member => ?_⟩
  simp only [restartInactive, TabManager.replaceStored_tabs related] at member
  obtain ⟨entry, entryMember, rfl⟩ := List.mem_map.mp member
  exact restartTabs_numbered _ numbered.2 entry entryMember

theorem save_numbered {format : SnapshotFormat R} {world : World} {c : Core R G} (numbered : c.session.Numbered) :
    (c.session.capture format world).1.Numbered := by
  obtain ⟨tab, tabs, captured, active, stored⟩ := c.session.capture_evolve Pane.Steady Pane.Steady.refl Pane.Steady.trans
    (fun _ => ⟨rfl, rfl, rfl⟩) format world
  rw [captured]
  refine ⟨(steady_renewed active.panes (Nat.le_refl _)).numbered numbered.1, ?_⟩
  rw [TabManager.replaceStored_tabs stored]
  exact forall_of_forall₂ stored numbered.2 fun before after evolve numbered =>
    (steady_renewed evolve.panes (Nat.le_refl _)).numbered numbered

theorem load_numbered {format : SnapshotFormat R} {world : World} {path : String} {c : Core R G}
    (numbered : c.session.Numbered) : (c.load format world path).session.Numbered := by
  have counted := c.session.load_spawns format world path
  simp only [load]
  rcases c.session.load_cases format world path with ⟨message, spawns, failed⟩ | ⟨saved, next, _, loaded, _⟩
  · rw [failed] at counted ⊢
    have kept : Session.Numbered { c.session with spawns } :=
      ⟨numbered.1.mono counted, fun tab member => (numbered.2 tab member).mono counted⟩
    exact kept
  · rw [loaded]
    exact (Session.load_spawned loaded).mono fun tab spawned => spawned.numbered

theorem resizeAll_numbered {world : World} {s : Session R G} (numbered : s.Numbered) : (s.resizeAll world).Numbered :=
  ⟨(steady_renewed (resizeAll_steady world _ _ _ _ _) (Nat.le_refl _)).numbered numbered.1, numbered.2⟩

/-- The processes stay distinct in every tab, and below the count of spawns. -/
theorem apply_numbered (format : SnapshotFormat R) (world : World) (op : Op R) {c : Core R G}
    (numbered : c.session.Numbered) : (c.apply format world op).session.Numbered := by
  cases stays : op.stays with
  | true =>
      by_cases background : op = .restartInactive
      · subst background
        exact restartInactive_numbered numbered
      by_cases saved : op = .save
      · subst saved
        exact save_numbered numbered
      have renewed := c.apply_renewed format world op stays
      have stored := c.apply_tabMgr format world op stays ⟨background, saved⟩
      refine ⟨renewed.numbered numbered.1, fun tab member => ?_⟩
      rw [stored] at member
      exact (numbered.2 tab member).mono renewed.le
  | false =>
      cases op with
      | read feeds => exact read_numbered format world feeds numbered
      | newTab name => exact newTab_numbered numbered name
      | goToTab target =>
          simp only [apply]
          cases moved : c.session.goToTab world target with
          | none => exact numbered
          | some next =>
              obtain ⟨mgr, tab, rfl, _, _, all⟩ := Session.goToTab_cases moved
              have entered : (c.session.enter mgr tab).Numbered := all _ numbered
              exact resizeAll_numbered entered
      | closeTab =>
          simp only [apply]
          cases closed : c.session.closeTab world with
          | none => exact numbered
          | some next =>
              obtain ⟨mgr, tab, rfl, _, _, all⟩ := Session.closeTab_cases closed
              have entered : (c.session.enter mgr tab).syncTabCount.Numbered := all _ numbered
              exact resizeAll_numbered entered
      | load path => exact load_numbered numbered
      | _ => cases stays

end Core

end Ezpn
