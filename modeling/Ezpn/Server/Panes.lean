import Ezpn.Server.Processes
import Ezpn.Session.Panes

/-!
# What every pane keeps in the server

The operations of the core keep a stable property of panes in every tab. What a
handler does to single panes, and an answer to the prompt, are asked for.
-/

set_option autoImplicit false

namespace Ezpn

namespace Core
variable {R G : Type} [RatioOps R] [Vt100 G] {P : Pane G → Prop}

/-- What an answer does to the pane that the prompt is about. -/
def settles (payloads : List Envelope) : Osc52Answer → Pane G → Pane G
  | .yes => Pane.acceptOsc52 payloads
  | .no => Pane.setOsc52Decision .denied
  | .later => Pane.requeueOsc52PendingConfirm payloads

/-- The operation's own change of a single pane keeps the property. -/
def Keeps (P : Pane G → Prop) (c : Core R G) : Op R → Prop
  | .pane id op => ∀ pane, c.session.tab.panes[id]? = some pane → P pane → P (op.apply pane)
  | .answer reply => ∀ prompt, c.osc52Confirm = some prompt →
      ∀ pane, c.session.tab.panes[prompt.paneId]? = some pane → P pane → P (settles prompt.queuedPayloads reply pane)
  | _ => True

variable (stable : Pane.Stable P)
include stable

omit [RatioOps R] in
theorem configure_all {s : Session R G} (all : s.tab.panes.All P) (ids : List Nat) :
    (ids.foldl (fun s id => s.configurePane id) s).tab.panes.All P := by
  obtain ⟨panes, configured, evolve⟩ := configure_evolve (fun old pane => P old → P pane) (fun _ same => same)
    (fun _ _ _ first second kept => second (first kept)) ids s fun pane => stable.configured _ _ pane
  rw [configured]
  exact all.evolve evolve

omit [RatioOps R] in
theorem detectSpawned_allPanes {c : Core R G} (all : c.session.AllPanes P) : c.detectSpawned.session.AllPanes P := by
  obtain ⟨panes, detected, evolve⟩ := configure_evolve (fun old pane => P old → P pane) (fun _ same => same)
    (fun _ _ _ first second kept => second (first kept))
    (c.session.tab.panes.keys.filter fun pid => !c.spawnedSeen.contains pid) c.session
    fun pane => stable.configured _ _ pane
  simp only [detectSpawned, detected]
  exact ⟨all.1.evolve evolve, all.2⟩

omit [RatioOps R] in
theorem readAll_allPanes {c : Core R G} (all : c.session.AllPanes P) (world : World) (feeds : Nat → Pane.Feed) :
    (c.readAll world feeds).session.AllPanes P := by
  have served (pane : Pane G) (feed : Pane.Feed) (kept : P pane) : P (pane.serve world feed) := by
    have watched : P ((pane.readOutput world feed).1.syncWatchdog world).1 := by
      simp only [Pane.syncWatchdog]
      split
      · exact stable.closed _ (stable.read world feed pane kept)
      · exact stable.read world feed pane kept
    exact stable.alike ((pane.readOutput world feed).1.syncWatchdog world).1 _ rfl rfl rfl watched
  refine ⟨all.1.map fun id pane => served pane _, fun tab member => ?_⟩
  obtain ⟨old, oldMember, rfl⟩ := List.mem_map.mp member
  exact (all.2 old oldMember).map fun id pane => stable.read world _ pane

theorem refitZoomed_all {c : Core R G} (all : c.session.tab.panes.All P) (world : World) :
    (c.refitZoomed world).session.tab.panes.All P := by
  have fitted : (c.refit world).session.tab.panes.All P := all.resizeAll stable world _ _ _ _
  simp only [refitZoomed]
  split
  · exact fitted.resizeZoomedPane stable world _ _ _ _
  · exact fitted

theorem refresh_all {c : Core R G} (all : c.session.tab.panes.All P) (world : World) :
    (c.refresh world).session.tab.panes.All P := by
  have rebuilt : c.rebuildBorders.session = c.session := by
    simp only [rebuildBorders]
    split <;> rfl
  simp only [refresh, followZoom, rebuilt]
  split
  · exact all.resizeZoomedPane stable world _ _ _ _
  · rw [rebuilt]
    exact all

omit [RatioOps R] in
theorem draw_all {c : Core R G} (all : c.session.tab.panes.All P) (targets : List Nat) :
    (c.draw targets).session.tab.panes.All P := by
  induction targets generalizing c with
  | nil => exact all
  | cons id targets ih => exact ih (c := c.modifyPane id _) (all.modify stable.drawn)

omit [RatioOps R] in
theorem drainPrompt_all {c : Core R G} (all : c.session.tab.panes.All P) : c.drainPrompt.session.tab.panes.All P := by
  simp only [drainPrompt]
  split
  · exact all
  split
  · exact all
  · rename_i id pane found
    have present := Std.ExtTreeMap.mem_toList_iff_getElem?_eq_some.mp (List.mem_of_find?_eq_some found)
    exact all.insert (stable.asked pane (all id pane present))

theorem panel_all {c : Core R G} (all : c.session.tab.panes.All P) (world : World) (outcome : Settings × SettingsAction) :
    (c.panel world outcome).session.tab.panes.All P := by
  simp only [panel]
  split
  · exact all.resizeAll stable world _ _ _ _
  · exact all

theorem exec_all {c : Core R G} (all : c.session.tab.panes.All P) (world : World) (id : Nat) (launch : PaneLaunch)
    (shell : String) : (c.session.replacePane world id launch shell).1.tab.panes.All P := by
  rcases c.session.replacePane_cases world id launch shell with ⟨message, _, failed⟩ | ⟨rect, pane, _, _, fresh, replaced⟩
  · rw [failed]
    exact all
  · rw [replaced]
    exact all.insert (stable.spawned pane rect fresh)

/-- Where the active tab stays, its panes keep the property. -/
theorem apply_all (format : SnapshotFormat R) (world : World) {op : Op R} {c : Core R G} (stays : op.stays = true)
    (all : c.session.tab.panes.All P) (keeps : c.Keeps P op) : (c.apply format world op).session.tab.panes.All P := by
  cases op with
  | read feeds => cases stays
  | newTab name => cases stays
  | goToTab target => cases stays
  | closeTab => cases stays
  | load path => cases stays
  | prompt => exact drainPrompt_all stable all
  | restart =>
      exact configure_all stable
        (s := { c.session with
          tab.panes := (c.restarting world).panes, tab.restartState := (c.restarting world).state
          spawns := (c.restarting world).spawns })
        (all.restartPanes stable world _ _ _ _ _ _ _ _ _) (c.restarting world).restarted
  | unzoomMissing =>
      simp only [apply]
      split
      · exact all.resizeAll stable world _ _ _ _
      · exact all
  | render targets => exact draw_all stable (refresh_all stable all world) _
  | resizeTerminal tw th => exact refitZoomed_all stable (c := { c with session := { c.session with tw, th } }) all world
  | reload border showStatusBar showTabBar themeChanged =>
      simp only [apply]
      split
      · refine refitZoomed_all stable ?_ world
        exact all
      · exact all
  | split target dir =>
      simp only [apply, Session.doSplit]
      rcases doSplit_cases world c.session.spawns c.session.tab.layout c.session.tab.panes target dir c.session.shell
          c.session.tw c.session.th c.session.settings c.session.scrollback with
        ⟨message, _, same⟩ | ⟨rect, cwd, pane, _, _, _, _, _, _, started, _, next⟩
      · rw [same]
        exact all
      · rw [next]
        exact PaneMap.All.resizeAll stable (all.insert (stable.inner started)) world _ _ _ _
  | close target =>
      have erased : PaneMap.All P (c.session.tab.panes.erase target) := all.evolve (.erase fun _ same => same)
      exact erased.resizeAll stable world _ _ _ _
  | resizePane dir delta =>
      simp only [apply]
      split
      · exact all.resizeAll stable world _ _ _ _
      · exact all
  | reconfigure spec =>
      simp only [apply]
      split
      · exact all.resizeAll stable world _ _ _ _
      · exact all
  | zoom id => exact all.resizeZoomedPane stable world _ _ _ _
  | panelKey key => exact panel_all stable all world _
  | panelClick x y => exact panel_all stable all world _
  | pane id op => exact all.evolve (.modify (fun _ same => same) fun pane found => keeps pane found)
  | respawn =>
      simp only [apply]
      rcases c.session.respawn_cases world with unchanged | ⟨rect, pane, _, _, fresh, replaced⟩
      · rw [unchanged]
        exact all
      · rw [replaced]
        exact all.insert (stable.spawned pane rect fresh)
  | exec id command =>
      simp only [apply]
      split
      · exact exec_all stable all world id _ _
      · exact all
  | answer reply =>
      simp only [apply, answer]
      split
      · exact all
      · rename_i prompt asked
        have settled := keeps prompt asked
        refine all.evolve (.modify (fun _ same => same) fun pane found kept => ?_)
        have := settled pane found kept
        cases reply <;> exact this
  | save =>
      obtain ⟨tab, tabs, captured, active, _⟩ := c.session.capture_evolve (fun old pane => P old → P pane)
        (fun _ same => same) (fun _ _ _ first second kept => second (first kept)) (stable.dumped true) format world
      simp only [apply, captured]
      exact all.evolve active.panes
  | equalize | refit | setRatio _ _ | unzoom | showStatusBar _ | showTabBar _ => exact all.resizeAll stable world _ _ _ _
  | restartInactive | requestReload _ | markBorders | swap _ | focus _ | setBroadcast _ | togglePanel | renameTab _ =>
      exact all

/-- Every operation keeps the property in every tab. -/
theorem apply_allPanes (format : SnapshotFormat R) (world : World) {op : Op R} {c : Core R G}
    (all : c.session.AllPanes P) (keeps : c.Keeps P op) : (c.apply format world op).session.AllPanes P := by
  cases stays : op.stays with
  | true =>
      refine ⟨apply_all stable format world stays all.1 keeps, ?_⟩
      by_cases background : op = .restartInactive
      · subst background
        have related : List.Forall₂ (fun before after : Tab R G => before.panes.All P → after.panes.All P)
            c.session.tabMgr.tabs ((c.restartedTabs world).1.map (·.1)) :=
          List.forall₂_map_right_iff.mpr <| restartTabs_forall₂ fun spawns tab all =>
            all.restartPanes stable world _ _ _ _ _ _ _ _ _
        intro tab member
        simp only [apply, restartInactive, TabManager.replaceStored_tabs related] at member
        exact forall_of_forall₂ related all.2 (fun before after kept all => kept all) tab member
      by_cases saved : op = .save
      · subst saved
        obtain ⟨tab, tabs, captured, _, stored⟩ := c.session.capture_evolve (fun old pane => P old → P pane)
          (fun _ same => same) (fun _ _ _ first second kept => second (first kept)) (stable.dumped true) format world
        intro tab member
        simp only [apply, captured, TabManager.replaceStored_tabs stored] at member
        exact forall_of_forall₂ stored all.2 (fun before after evolve all => all.evolve evolve.panes) tab member
      rw [c.apply_tabMgr format world op stays ⟨background, saved⟩]
      exact all.2
  | false =>
      cases op with
      | read feeds => exact readAll_allPanes stable (detectSpawned_allPanes stable all) world feeds
      | newTab name => exact Session.AllPanes.newTab stable all world name
      | goToTab target =>
          simp only [apply]
          cases moved : c.session.goToTab world target with
          | none => exact all
          | some next =>
              obtain ⟨mgr, tab, rfl, _, _, kept⟩ := Session.goToTab_cases moved
              exact Session.AllPanes.resizeAll stable (kept _ all) world
      | closeTab =>
          simp only [apply]
          cases closed : c.session.closeTab world with
          | none => exact all
          | some next =>
              obtain ⟨mgr, tab, rfl, _, _, kept⟩ := Session.closeTab_cases closed
              exact ⟨(kept _ all).1.resizeAll stable world _ _ _ _, (kept _ all).2⟩
      | load path =>
          have loaded := Session.AllPanes.load stable all format world path
          simp only [apply, load]
          split
          · rename_i result
            rw [result] at loaded
            exact loaded
          · rename_i result
            rw [result] at loaded
            exact loaded
      | _ => cases stays

end Core

end Ezpn
