import Ezpn.Server.Loop.Rules
import Ezpn.Server.Steps
import Ezpn.Server.TabBar

/-!
# The tab list on screen

The names that a frame shows are cached behind a dirty flag. Every operation that
changes them raises the flag, but the close of a dead tab does not.
-/

set_option autoImplicit false

namespace Ezpn

/-! ## What the list depends on -/

section Titles
variable {R G : Type}

/-- The same tab names in the same order, with the same active tab. -/
structure Session.SameTitles (s t : Session R G) : Prop where
  active : t.tab.name = s.tab.name
  stored : t.tabMgr.tabs.map (·.name) = s.tabMgr.tabs.map (·.name)
  activeIdx : t.tabMgr.activeIdx = s.tabMgr.activeIdx
  count : t.tabMgr.count = s.tabMgr.count

theorem Session.SameTitles.refl (s : Session R G) : s.SameTitles s := ⟨rfl, rfl, rfl, rfl⟩

theorem Session.SameTitles.trans {s t u : Session R G} (first : s.SameTitles t) (second : t.SameTitles u) :
    s.SameTitles u :=
  ⟨second.active.trans first.active, second.stored.trans first.stored, second.activeIdx.trans first.activeIdx,
    second.count.trans first.count⟩

/-- Only the names of stored tabs enter the list. -/
theorem tabNamesFrom_congr (activeIdx : Nat) (name : String) (visits i : Nat) {left right : List (Tab R G)}
    (names : left.map (·.name) = right.map (·.name)) :
    TabManager.tabNamesFrom activeIdx name visits i left = TabManager.tabNamesFrom activeIdx name visits i right := by
  induction visits generalizing i left right with
  | zero => rfl
  | succ visits ih =>
      simp only [TabManager.tabNamesFrom]
      split
      · rw [ih _ names]
      · cases left with
        | nil =>
            obtain rfl : right = [] := by simpa using names.symm
            rfl
        | cons first left =>
            cases right with
            | nil => simp at names
            | cons other right =>
                simp only [List.map_cons, List.cons.injEq] at names
                simp only [names.1, ih _ names.2]

theorem Session.SameTitles.tabNames {s t : Session R G} (same : s.SameTitles t) :
    t.tabMgr.tabNames t.tab.name = s.tabMgr.tabNames s.tab.name := by
  simp only [TabManager.tabNames, same.active, same.activeIdx, same.count]
  exact tabNamesFrom_congr _ _ _ _ same.stored

/-- Stored tabs changed in place but for their panes keep their names. -/
theorem stored_names {Rel : Pane G → Pane G → Prop} {before after : List (Tab R G)}
    (evolve : List.Forall₂ (Tab.Evolve Rel) before after) : after.map (·.name) = before.map (·.name) := by
  induction evolve with
  | nil => rfl
  | cons here rest ih => rw [List.map_cons, List.map_cons, ih, here.rest]

end Titles

namespace Core
variable {R G : Type} [RatioOps R] [Vt100 G]

omit [RatioOps R] in
theorem configure_titles (ids : List Nat) (s : Session R G) :
    s.SameTitles (ids.foldl (fun s id => s.configurePane id) s) := by
  obtain ⟨panes, result, _⟩ := configure_evolve (fun _ _ => True) (fun _ => trivial) (fun _ _ _ _ _ => trivial)
    ids s fun _ => trivial
  rw [result]
  exact ⟨rfl, rfl, rfl, rfl⟩

omit [RatioOps R] [Vt100 G] in
theorem replaceStored_titles {s : Session R G} {tabs : List (Tab R G)} {spawns : Nat}
    (names : tabs.map (·.name) = s.tabMgr.tabs.map (·.name)) :
    s.SameTitles { s with tabMgr := s.tabMgr.replaceStored tabs, spawns } := by
  have same : tabs.length = s.tabMgr.tabs.length := by simpa using congrArg List.length names
  simp only [TabManager.replaceStored, same, dif_pos]
  exact ⟨rfl, names, rfl, rfl⟩

theorem restartedTabs_names (world : World) (c : Core R G) :
    ((c.restartedTabs world).1.map (·.1)).map (·.name) = c.session.tabMgr.tabs.map (·.name) := by
  have each : List.Forall₂ (fun before after => after.1.name = before.name) c.session.tabMgr.tabs
      (c.restartedTabs world).1 := restartTabs_forall₂ fun _ _ => rfl
  have names {before : List (Tab R G)} {after : List (Tab R G × List Nat)}
      (related : List.Forall₂ (fun before after => after.1.name = before.name) before after) :
      (after.map (·.1)).map (·.name) = before.map (·.name) := by
    induction related with
    | nil => rfl
    | cons here rest ih => rw [List.map_cons, List.map_cons, List.map_cons, ih, here]
  exact names each

omit [RatioOps R] in
theorem draw_titles (targets : List Nat) (c : Core R G) : c.session.SameTitles (c.draw targets).session := by
  induction targets generalizing c with
  | nil => exact .refl _
  | cons id targets ih =>
      let first := c.modifyPane id fun pane => pane.syncScrollback.resetScrollbackView
      have kept : c.session.SameTitles first.session := ⟨rfl, rfl, rfl, rfl⟩
      exact kept.trans (ih first)

theorem refresh_titles (world : World) (c : Core R G) : c.session.SameTitles (c.refresh world).session := by
  simp only [refresh, followZoom, rebuildBorders]
  split <;> split <;> exact ⟨rfl, rfl, rfl, rfl⟩

theorem refitZoomed_titles (world : World) {s : Session R G} {c : Core R G} (same : s.SameTitles c.session) :
    s.SameTitles (c.refitZoomed world).session := by
  refine same.trans ?_
  simp only [refitZoomed]
  split <;> exact ⟨rfl, rfl, rfl, rfl⟩

theorem panel_titles (world : World) (outcome : Settings × SettingsAction) (c : Core R G) :
    c.session.SameTitles (c.panel world outcome).session := by
  simp only [panel]
  split <;> exact ⟨rfl, rfl, rfl, rfl⟩

/-- What does not raise the flag leaves the list as it was. -/
theorem apply_titles (format : SnapshotFormat R) (world : World) (op : Op R) (c : Core R G)
    (quiet : c.renames format world op = false) : c.session.SameTitles (c.apply format world op).session := by
  have same : c.session.SameTitles c.session := .refl _
  cases op with
  | read feeds =>
      exact (configure_titles _ c.session).trans ⟨rfl, List.map_map .., rfl, rfl⟩
  | prompt =>
      simp only [apply, drainPrompt]
      split
      · exact same
      split <;> exact ⟨rfl, rfl, rfl, rfl⟩
  | restart =>
      let s := c.session
      let outcome := c.restarting world
      let restarted : Session R G :=
        { s with tab.panes := outcome.panes, tab.restartState := outcome.state, spawns := outcome.spawns }
      have kept : s.SameTitles restarted := ⟨rfl, rfl, rfl, rfl⟩
      exact kept.trans (configure_titles outcome.restarted restarted)
  | restartInactive => exact replaceStored_titles (c.restartedTabs_names world)
  | unzoomMissing =>
      simp only [apply]
      split <;> exact ⟨rfl, rfl, rfl, rfl⟩
  | render targets => exact (refresh_titles world c).trans (draw_titles _ _)
  | resizeTerminal tw th => exact refitZoomed_titles world ⟨rfl, rfl, rfl, rfl⟩
  | reload border showStatusBar showTabBar themeChanged =>
      simp only [apply]
      split
      · exact refitZoomed_titles world ⟨rfl, rfl, rfl, rfl⟩
      · exact ⟨rfl, rfl, rfl, rfl⟩
  | requestReload requested => exact ⟨rfl, rfl, rfl, rfl⟩
  | markBorders => exact same
  | split target dir => exact ⟨rfl, rfl, rfl, rfl⟩
  | close target => exact ⟨rfl, rfl, rfl, rfl⟩
  | equalize => exact ⟨rfl, rfl, rfl, rfl⟩
  | refit => exact ⟨rfl, rfl, rfl, rfl⟩
  | resizePane dir delta =>
      simp only [apply]
      split <;> exact ⟨rfl, rfl, rfl, rfl⟩
  | setRatio path ratio => exact ⟨rfl, rfl, rfl, rfl⟩
  | swap other => exact ⟨rfl, rfl, rfl, rfl⟩
  | reconfigure spec =>
      simp only [apply]
      split <;> exact ⟨rfl, rfl, rfl, rfl⟩
  | focus id => exact ⟨rfl, rfl, rfl, rfl⟩
  | zoom id => exact ⟨rfl, rfl, rfl, rfl⟩
  | unzoom => exact ⟨rfl, rfl, rfl, rfl⟩
  | setBroadcast on => exact ⟨rfl, rfl, rfl, rfl⟩
  | showStatusBar on => exact ⟨rfl, rfl, rfl, rfl⟩
  | showTabBar on => exact ⟨rfl, rfl, rfl, rfl⟩
  | togglePanel => exact ⟨rfl, rfl, rfl, rfl⟩
  | panelKey key => exact panel_titles world _ c
  | panelClick x y => exact panel_titles world _ c
  | pane id op => exact ⟨rfl, rfl, rfl, rfl⟩
  | respawn =>
      simp only [apply]
      rcases c.session.respawn_cases world with unchanged | ⟨rect, pane, _, _, _, replaced⟩
      · rw [unchanged]
        exact ⟨rfl, rfl, rfl, rfl⟩
      · rw [replaced]
        exact ⟨rfl, rfl, rfl, rfl⟩
  | exec id command =>
      simp only [apply]
      split <;> exact ⟨rfl, rfl, rfl, rfl⟩
  | answer reply =>
      simp only [apply, answer]
      split <;> exact ⟨rfl, rfl, rfl, rfl⟩
  | newTab name => cases quiet
  | goToTab target =>
      simp only [renames, Option.isSome_eq_false_iff, Option.isNone_iff_eq_none] at quiet
      simp only [apply, quiet]
      exact same
  | closeTab =>
      simp only [renames, Option.isSome_eq_false_iff, Option.isNone_iff_eq_none] at quiet
      simp only [apply, quiet]
      exact same
  | renameTab name => cases quiet
  | save =>
      obtain ⟨tab, tabs, captured, active, stored⟩ := c.session.capture_evolve (fun _ _ => True)
        (fun _ => trivial) (fun _ _ _ _ _ => trivial) (fun _ => trivial) format world
      simp only [apply, captured]
      refine Session.SameTitles.trans (t := { c.session with tab }) ⟨?_, rfl, rfl, rfl⟩ ?_
      · rw [active.rest]
      · exact replaceStored_titles (s := { c.session with tab }) (stored_names stored)
  | load path =>
      simp only [renames] at quiet
      simp only [apply, load]
      rcases c.session.load_cases format world path with ⟨message, spawns, failed⟩ | ⟨saved, next, _, loaded, _⟩
      · rw [failed]
        exact ⟨rfl, rfl, rfl, rfl⟩
      · rw [loaded] at quiet
        cases quiet

end Core

namespace Loop
variable {R G U : Type} [RatioOps R] [Vt100 G] {format : SnapshotFormat R}

/-! ## The cached list -/

/-- The flag is up, or the cached list is the current one. -/
def NamesFresh (l : Loop R G U) : Prop := l.tabNamesDirty = true ∨ l.tabNamesCache = l.core.tabNames

theorem perform_namesFresh {world : World} {l : Loop R G U} (fresh : l.NamesFresh) (op : Op R) :
    (l.perform format world op).NamesFresh := by
  cases renamed : l.core.renames format world op with
  | true => exact .inl (by simp [perform, renamed])
  | false =>
      rcases fresh with dirty | same
      · exact .inl (by simp [perform, dirty])
      · exact .inr (same.trans (l.core.apply_titles format world op renamed).tabNames.symm)

omit [RatioOps R] [Vt100 G] in
theorem namesFresh_indifferent : Indifferent (NamesFresh (R := R) (G := G) (U := U)) :=
  { ui := fun _ _ fresh => fresh
    ended := fun _ fresh => fresh
    marked := fun _ _ fresh => fresh
    clients := fun _ _ _ _ _ _ fresh => fresh }

/-- A composed frame passes the current list to the renderer. -/
theorem frame_names {world : World} {input : FrameInput} {l : Loop R G U} (fresh : l.NamesFresh)
    (composed : l.composes world input = true) :
    (l.frame format world input).tabNamesCache = (l.frame format world input).core.tabNames := by
  have drawn := (l.core.apply_titles format world (.render (some (l.synced world input))) rfl).tabNames
  have refreshed := (l.core.refresh_titles world).tabNames
  have passed : (if l.tabNamesDirty then (l.core.refresh world).tabNames else l.tabNamesCache) =
      (l.core.apply format world (.render (some (l.synced world input)))).tabNames := by
    split
    · exact refreshed.trans drawn.symm
    · rename_i clean
      rcases fresh with dirty | same
      · exact absurd dirty clean
      · exact same.trans drawn.symm
  simp only [frame, composed, if_true]
  split <;> exact passed

theorem frame_namesFresh {world : World} {l : Loop R G U} (fresh : l.NamesFresh) (input : FrameInput) :
    (l.frame format world input).NamesFresh := by
  cases composed : l.composes world input with
  | true => exact .inr (frame_names fresh composed)
  | false =>
      simp only [frame, composed, Bool.false_eq_true, if_false]
      rcases fresh with dirty | same
      · exact .inl dirty
      · exact .inr (same.trans (l.core.apply_titles format world (.render none) rfl).tabNames.symm)

variable [Interface U]

/-- No dead tab is closed while the cached list is taken for current. -/
def KeepsNames (format : SnapshotFormat R) (l : Loop R G U) : World × LoopOp R G U → Prop
  | (world, .upkeep feeds) =>
      let checked := (l.detect format world feeds).restartAll format world
      checked.core.activeTabDead = true → 1 < checked.core.session.tabMgr.count → l.tabNamesDirty = true
  | _ => True

theorem upkeep_namesFresh {world : World} {feeds : Nat → Pane.Feed} {l : Loop R G U} (fresh : l.NamesFresh)
    (keeps : l.KeepsNames format (world, .upkeep feeds)) : (l.upkeep format world feeds).NamesFresh := by
  have checked : ((l.detect format world feeds).restartAll format world).NamesFresh := by
    have detected : (l.detect format world feeds).NamesFresh :=
      perform_namesFresh (perform_namesFresh fresh (.read feeds)) .prompt
    exact perform_namesFresh (perform_namesFresh detected .restart) .restartInactive
  have closed : (((l.detect format world feeds).restartAll format world).closeDeadTab format world).NamesFresh := by
    simp only [closeDeadTab]
    split
    · exact checked
    rename_i dead
    split
    · exact checked
    rename_i several
    have dirty := keeps (by simpa using dead) (by omega)
    exact .inl (by simp [detect, restartAll, perform, announceExits, dirty])
  simp only [upkeep]
  split
  · exact closed
  · exact perform_namesFresh closed .unzoomMissing

theorem step_namesFresh {l : Loop R G U} (fresh : l.NamesFresh) (label : World × LoopOp R G U)
    (keeps : l.KeepsNames format label) : (l.step format label).NamesFresh := by
  obtain ⟨world, op⟩ := label
  have performs (l : Loop R G U) (op : Op R) (fresh : l.NamesFresh) (_ : op.handled = true) (_ : True) :
      (l.perform format world op).NamesFresh := perform_namesFresh fresh op
  have resizes (l : Loop R G U) (tw th : Nat) (fresh : l.NamesFresh) :
      (l.perform format world (.resizeTerminal tw th)).NamesFresh := perform_namesFresh fresh _
  simp only [step]
  split
  · exact fresh
  cases op with
  | upkeep feeds =>
      have served : (l.upkeep format world feeds).NamesFresh := upkeep_namesFresh fresh keeps
      exact served
  | front handler =>
      exact handle_invariant namesFresh_indifferent.toInert performs fresh handler (each_of_forall (fun _ _ => trivial) _ _)
  | attach w h mode connected =>
      exact acceptClient_invariant namesFresh_indifferent resizes (fun _ _ _ _ fresh => fresh) (fun _ fresh => fresh)
        fresh w h mode connected
  | message id msg =>
      exact message_invariant namesFresh_indifferent performs fresh id msg (handles_of_forall (fun _ _ => trivial) _ _)
  | outputFailed id => exact fresh
  | settle =>
      exact settle_invariant namesFresh_indifferent resizes (fun _ fresh => perform_namesFresh fresh .save) fresh
  | frame input => exact frame_namesFresh fresh input
  | kill => exact fresh

/-- As long as no dead tab is closed behind a clean list, every frame shows the current
tabs, and a click on a label of that frame selects the tab it stands for. -/
theorem tabList_current (format : SnapshotFormat R) (strWidth : String → Nat) (start : Core R G) (ui : U)
    {log : List (Loop R G U × (World × LoopOp R G U))} {l : Loop R G U}
    (history : Machine.History (step format) { core := start, ui } log l)
    (keeps : ∀ entry ∈ log, entry.1.KeepsNames format entry.2) :
    ∀ entry ∈ log, ∀ world input, entry.2 = (world, .frame input) → entry.1.composes world input = true →
      let after := entry.1.frame format world input
      after.tabNamesCache = after.core.tabNames ∧
        ∀ label ∈ TabBar.drawTabBar strWidth after.core.session.tw after.core.session.th
            after.core.session.settings.showStatusBar after.tabNamesCache,
          ∀ x, label.Covers x →
            TabBar.tabBarHit strWidth x after.core.tabNames after.core.session.tw = some label.index := by
  intro entry member world input _ composed
  have fresh := (history.invariant NamesFresh (KeepsNames format)
    (fun l label fresh keeps => step_namesFresh fresh label keeps) (.inl rfl) keeps).2 entry member
  have names : (entry.1.frame format world input).tabNamesCache = (entry.1.frame format world input).core.tabNames :=
    frame_names fresh composed
  exact ⟨names, fun label drawn x covers => names ▸ TabBar.tabBarHit_of_drawn drawn covers⟩

/-- A second tab is drawn in the bar, and its only process ends. -/
def deadTab : List (World × LoopOp ℚ RawDisplay Unit) :=
  [({}, .attach 80 24 .shared true), ({}, .front fun _ _ => [.op (.newTab none)]), ({}, .frame { due := true }),
    ({}, .upkeep (exitOf 1))]

theorem deadTab_shown :
    ¬∀ (log : List (Loop ℚ RawDisplay Unit × (World × LoopOp ℚ RawDisplay Unit))) (l : Loop ℚ RawDisplay Unit),
      Machine.History (step plainFormat) { core := { session := oneShell }, ui := () } log l →
      ∀ entry ∈ log, ∀ world input, entry.2 = (world, .frame input) → entry.1.composes world input = true →
        (entry.1.frame plainFormat world input).tabNamesCache =
          (entry.1.frame plainFormat world input).core.tabNames := by
  intro claimed
  have run := Machine.History.of_labels (step plainFormat)
    ({ core := { session := oneShell }, ui := () } : Loop ℚ RawDisplay Unit) deadTab
  have same := claimed _ _ (run.step ({}, .frame { due := true })) _
    (List.mem_append_right _ (List.mem_singleton_self _)) {} { due := true } rfl (by decide +kernel)
  revert same
  decide +kernel

theorem secondTab_current :
    let labels : List (World × LoopOp ℚ RawDisplay Unit) :=
      [({}, .attach 80 24 .shared true), ({}, .front fun _ _ => [.op (.newTab none)]), ({}, .upkeep fun _ => {})]
    let last := labels.foldl (step plainFormat) { core := { session := oneShell }, ui := () }
    (last.frame plainFormat {} { due := true }).tabNamesCache =
      (last.frame plainFormat {} { due := true }).core.tabNames := by
  intro labels last
  have run := (Machine.History.of_labels (step plainFormat)
    ({ core := { session := oneShell }, ui := () } : Loop ℚ RawDisplay Unit) labels).step ({}, .frame { due := true })
  have current := tabList_current plainFormat String.length { session := oneShell } () run ?_ (last, _)
    (List.mem_append_right _ (List.mem_singleton_self _)) {} { due := true } rfl (by decide +kernel)
  · exact current.1
  · simp only [labels, Machine.trace, List.cons_append, List.nil_append, List.forall_mem_cons]
    exact ⟨trivial, trivial, by simp only [KeepsNames]; decide +kernel, trivial, by simp⟩

end Loop

end Ezpn
