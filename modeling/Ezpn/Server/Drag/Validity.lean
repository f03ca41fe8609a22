import Ezpn.Server.Drag
import Ezpn.Server.Geometry
import Ezpn.Server.Loop
import Ezpn.Session.Rollback

/-!
# What a drag moves

An undisturbed drag addresses the separator that it grabbed, and the next drag event
moves that one only.
-/

set_option autoImplicit false

namespace Ezpn

namespace Dragging
variable {R G : Type} [RatioOps R] [Vt100 G]

/-- The layout and the content area of two cores are the same. -/
structure SamePlace (c next : Core R G) : Prop where
  layout : next.session.tab.layout = c.session.tab.layout
  area : next.session.contentArea = c.session.contentArea

variable {format : SnapshotFormat R} {world : World} {c next : Core R G} {drag : DragState}

omit [RatioOps R] [Vt100 G] in
theorem SamePlace.of_same (layout : next.session.tab.layout = c.session.tab.layout)
    (tw : next.session.tw = c.session.tw) (th : next.session.th = c.session.th)
    (settings : next.session.settings = c.session.settings) : SamePlace c next :=
  ⟨layout, by simp only [Session.contentArea, tw, th, settings]⟩

omit [Vt100 G] in
theorem Addresses.keep (addresses : Addresses c drag) (spine : KeepsSpine c drag next.session.tab.layout)
    (area : next.session.contentArea = c.session.contentArea) : Addresses next drag := by
  unfold Addresses at addresses ⊢
  rw [LayoutNode.splitAt_spine] at addresses ⊢
  rw [spine, area, addresses]

omit [Vt100 G] in
theorem Addresses.same (addresses : Addresses c drag) (place : SamePlace c next) : Addresses next drag :=
  addresses.keep (by unfold KeepsSpine; rw [place.layout]) place.area

/-! ## Operations that touch neither the layout nor the area -/

omit [RatioOps R] in
theorem configure_place (ids : List Nat) (s : Session R G) :
    ∃ panes, ids.foldl (fun s id => s.configurePane id) s = s.setPanes panes := by
  obtain ⟨panes, result, _⟩ := Core.configure_evolve (R := R) (fun _ _ : Pane G => True) (fun _ => trivial)
    (fun _ _ _ _ _ => trivial) ids s fun _ => trivial
  exact ⟨panes, result⟩

theorem restart_place : SamePlace c (c.restart world) := by
  simp only [Core.restart]
  obtain ⟨panes, result⟩ := configure_place (R := R) (G := G) _ _
  rw [result]
  exact .of_same rfl rfl rfl rfl

omit [RatioOps R] in
theorem draw_place (targets : List Nat) (c : Core R G) : SamePlace c (c.draw targets) := by
  induction targets generalizing c with
  | nil => exact ⟨rfl, rfl⟩
  | cons id targets ih =>
      have rest := ih (c.modifyPane id fun pane => pane.syncScrollback.resetScrollbackView)
      exact ⟨rest.layout, rest.area⟩

theorem render_place (targets : List Nat) : SamePlace c ((c.refresh world).draw targets) := by
  have refreshed : SamePlace c (c.refresh world) := by
    simp only [Core.refresh, Core.rebuildBorders, Core.followZoom]
    split <;> split <;> exact ⟨rfl, rfl⟩
  have drawn := draw_place targets (c.refresh world)
  exact ⟨drawn.layout.trans refreshed.layout, drawn.area.trans refreshed.area⟩

omit [RatioOps R] [Vt100 G] in
theorem prompt_place : SamePlace c c.drainPrompt := by
  simp only [Core.drainPrompt]
  split
  · exact ⟨rfl, rfl⟩
  · split <;> exact ⟨rfl, rfl⟩

omit [RatioOps R] [Vt100 G] in
theorem answer_place (reply : Osc52Answer) : SamePlace c (c.answer reply) := by
  simp only [Core.answer]
  split <;> exact ⟨rfl, rfl⟩

theorem refitZoomed_place : SamePlace c (c.refitZoomed world) := by
  simp only [Core.refitZoomed]
  split <;> exact ⟨rfl, rfl⟩

omit [RatioOps R] [Vt100 G] in
theorem replace_place {session : Session R G} {panes : PaneMap G} {spawns : Nat}
    (replaced : session = { c.session with tab.panes := panes, spawns }) : SamePlace c { c with session } := by
  subst replaced
  exact ⟨rfl, rfl⟩

theorem respawn_place : SamePlace c { c with session := c.session.respawn world } := by
  rcases c.session.respawn_cases world with same | ⟨rect, pane, _, _, _, replaced⟩
  · rw [same]
    exact ⟨rfl, rfl⟩
  · exact replace_place replaced

theorem exec_place (id : Nat) (command : String) :
    SamePlace c { c with session := (c.session.replacePane world id (.command command) c.session.shell).1 } := by
  rcases c.session.replacePane_cases world id (.command command) c.session.shell with
    ⟨_, _, same⟩ | ⟨_, _, _, _, _, replaced⟩
  · rw [same]
    exact ⟨rfl, rfl⟩
  · exact replace_place replaced

theorem save_place : SamePlace c { c with session := (c.session.capture format world).1 } := by
  obtain ⟨tab, tabs, captured, active, _⟩ := c.session.capture_evolve (fun _ _ : Pane G => True) (fun _ => trivial)
    (fun _ _ _ _ _ => trivial) (fun _ => trivial) format world
  rw [captured]
  exact .of_same (by rw [active.rest]) rfl rfl rfl

/-! ## Operations that touch them -/

theorem split_addresses (addresses : Addresses c drag) {target : Nat} {dir : Direction}
    (keeps : KeepsGrabbed world c drag (.split target dir)) :
    Addresses (c.apply format world (.split target dir)) drag := by
  simp only [KeepsGrabbed, Session.doSplit] at keeps
  simp only [Core.apply, Session.doSplit]
  rcases doSplit_cases world c.session.spawns c.session.tab.layout c.session.tab.panes target dir c.session.shell
      c.session.tw c.session.th c.session.settings c.session.scrollback with
    ⟨message, failed, same⟩ | ⟨rect, cwd, pane, accepted, _, _, _, _, _, _, _, next⟩
  · simp only [same]
    exact addresses.keep rfl rfl
  · rw [accepted] at keeps
    simp only [next]
    exact addresses.keep (keeps rfl) rfl

theorem panel_addresses (addresses : Addresses c drag) {outcome : Settings × SettingsAction}
    (keeps : KeepsArea c outcome.1) : Addresses (c.panel world outcome) drag := by
  simp only [Core.panel]
  split
  · exact addresses.keep rfl keeps
  · exact addresses.keep rfl keeps

theorem newTab_addresses (addresses : Addresses c drag) {name : Option String}
    (keeps : KeepsGrabbed world c drag (.newTab name)) (stays : (c.session.newTab world name).2 = false) :
    Addresses (c.apply format world (.newTab name)) drag := by
  cases spawned : world.spawnError c.session.spawns c.session.shell with
  | none =>
      have starts (cols rows : Nat) (cwd : Option String) : ∃ pane, (spawnPaneIn world c.session.spawns c.session.shell
          .shell (max cols 1) (max rows 1) c.session.scrollback cwd : Except String (Pane G)) = .ok pane := by
        have wide : max cols 1 ≠ 0 := by omega
        have high : max rows 1 ≠ 0 := by omega
        simp only [spawnPaneIn, Pane.spawnInner, wide, high, decide_false, Bool.or_self, Bool.false_eq_true, if_false,
          spawned]
        exact ⟨_, rfl⟩
      simp only [Session.newTab] at stays
      split at stays
      · cases stays
      · rename_i failed
        obtain ⟨pane, started⟩ := starts _ _ _
        cases failed.symm.trans started
  | some message =>
      -- the last tab of the list is restored, which is the one that was active
      obtain ⟨last, area⟩ := keeps.resolve_left (by simp [spawned])
      have taken := congrArg (·.2) (Session.takeOut_last last (c.session.tabMgr.nextId + 1))
      simp only [Core.apply, Session.newTab_failed name spawned, Core.retab]
      refine addresses.keep ?_ area
      unfold KeepsSpine
      dsimp only [Session.resizeAll, Session.setPanes]
      rw [show c.session.tabs.get ⟨c.session.tabMgr.count - 1, c.session.last_lt_tabs⟩ = c.session.tab from taken]

theorem apply_addresses (addresses : Addresses c drag) {op : Op R} (keeps : KeepsGrabbed world c drag op)
    (stays : resets format world c op = false) : Addresses (c.apply format world op) drag := by
  cases op with
  | read feeds =>
      obtain ⟨panes, result⟩ := configure_place (R := R)
        (c.session.tab.panes.keys.filter fun pid => !c.spawnedSeen.contains pid) c.session
      refine addresses.same ?_
      simp only [Core.apply, Core.readAll, Core.detectSpawned, result]
      exact .of_same rfl rfl rfl rfl
  | prompt => exact addresses.same prompt_place
  | restart => exact addresses.same restart_place
  | unzoomMissing =>
      simp only [Core.apply]
      split
      · exact addresses.keep rfl rfl
      · exact addresses
  | render targets => exact addresses.same (render_place _)
  | resizeTerminal tw th =>
      simp only [resets, Bool.or_eq_false_iff, decide_eq_false_iff_not, not_not] at stays
      obtain ⟨rfl, rfl⟩ := stays
      exact addresses.same refitZoomed_place
  | reload border showStatusBar showTabBar themeChanged =>
      simp only [Core.apply]
      split
      · let reloaded : Core R G := { c with session.settings :=
          { c.session.settings with borderStyle := border, showStatusBar, showTabBar } }
        have kept : Addresses reloaded drag := addresses.keep rfl keeps
        exact kept.same refitZoomed_place
      · exact addresses.keep rfl keeps
  | split target dir => exact split_addresses addresses keeps
  | close target => exact addresses.keep keeps rfl
  | equalize => exact addresses.keep keeps rfl
  | resizePane dir delta =>
      simp only [KeepsGrabbed] at keeps
      simp only [Core.apply]
      split
      · rename_i layout result
        rw [result] at keeps
        exact addresses.keep keeps rfl
      · exact addresses
  | setRatio path ratio => exact addresses.keep keeps rfl
  | reconfigure spec =>
      simp only [KeepsGrabbed] at keeps
      simp only [Core.apply]
      split
      · rename_i layout result
        rw [result] at keeps
        exact addresses.keep keeps rfl
      · exact addresses
  | swap other => exact addresses.keep (LayoutNode.spine_swapLeafIds _ _ _ _) rfl
  | showStatusBar on => exact addresses.keep rfl keeps
  | showTabBar on => exact addresses.keep rfl keeps
  | panelKey key => exact panel_addresses addresses keeps
  | panelClick x y => exact panel_addresses addresses keeps
  | respawn => exact addresses.same respawn_place
  | exec id command =>
      simp only [Core.apply]
      split
      · exact addresses.same (exec_place id command)
      · exact addresses
  | answer reply => exact addresses.same (answer_place reply)
  | newTab name => exact newTab_addresses addresses keeps stays
  | goToTab target =>
      simp only [resets, Option.isSome_eq_false_iff, Option.isNone_iff_eq_none] at stays
      simp only [Core.apply, stays]
      exact addresses
  | closeTab =>
      simp only [resets, Option.isSome_eq_false_iff, Option.isNone_iff_eq_none] at stays
      simp only [Core.apply, stays]
      exact addresses
  | save => exact addresses.same save_place
  | load path =>
      rcases c.session.load_cases format world path with ⟨message, spawns, failed⟩ | ⟨saved, next, _, loaded, _⟩
      · simp only [Core.apply, Core.load, failed]
        exact addresses.same ⟨rfl, rfl⟩
      · simp only [resets, loaded] at stays
        cases stays
  | _ => exact addresses.same ⟨rfl, rfl⟩

/-! ## Runs -/

omit [Vt100 G] in
theorem press_valid {s : Dragging R G} (valid : s.Valid) {x y : Nat}
    (current : ∀ cache, s.core.borderCache = some cache → cache.inner = s.core.session.contentArea) :
    (s.press x y).Valid := by
  simp only [press]
  split
  · exact valid
  rename_i cache cached
  split
  · exact valid
  split
  · exact valid
  rename_i hit found
  intro drag grabbed
  cases grabbed
  obtain ⟨turns, path, there⟩ := LayoutNode.findSepAt_splitAt found
  rw [List.nil_append] at path
  simp only [Addresses, DragState.fromHit, path]
  rw [← current cache cached]
  exact there

theorem move_valid {s : Dragging R G} (valid : s.Valid) (x y : Nat) : (s.move format world x y).Valid := by
  simp only [move]
  split
  · exact valid
  · rename_i drag grabbed
    intro other same
    rw [grabbed] at same
    cases same
    exact (valid drag grabbed).keep (LayoutNode.spine_setRatioAt _ _ _) rfl

theorem step_valid {s : Dragging R G} (valid : s.Valid) {label : World × DragAction R}
    (undisturbed : s.Undisturbed label) : (s.step format label).Valid := by
  obtain ⟨world, action⟩ := label
  cases action with
  | press x y => exact press_valid valid undisturbed
  | drag x y => exact move_valid valid x y
  | release =>
      simp only [step, apply, release]
      split
      · exact valid
      · exact nofun
  | abandon => exact nofun
  | op op =>
      intro drag grabbed
      simp only [step, apply] at grabbed ⊢
      split at grabbed
      · cases grabbed
      · rename_i stays
        exact apply_addresses (valid drag grabbed) (undisturbed drag grabbed) (by simpa using stays)

/-- The next drag event moves the addressed separator and no other. -/
theorem move_ratios {s : Dragging R G} (grabbed : s.drag = some drag) (addresses : Addresses s.core drag) (x y : Nat) :
    (∀ other, other ≠ drag.path → (s.move format world x y).core.session.tab.layout.root.ratioAt other =
      s.core.session.tab.layout.root.ratioAt other) ∧
    (RatioOps.isFinite (drag.calcRatio x y : R) = true →
      (s.move format world x y).core.session.tab.layout.root.ratioAt drag.path =
        some (RatioOps.clamp (drag.calcRatio x y))) := by
  have moved : (s.move format world x y).core.session.tab.layout.root =
      s.core.session.tab.layout.root.setRatioAt (drag.calcRatio x y) drag.path := by
    simp only [move, grabbed]
    rfl
  rw [moved]
  constructor
  · intro other elsewhere
    cases finite : RatioOps.isFinite (drag.calcRatio x y : R) with
    | false => rw [LayoutNode.setRatioAt_infinite _ _ finite]
    | true => rw [LayoutNode.ratioAt_setRatioAt _ finite, if_neg elsewhere]
  · intro finite
    obtain ⟨ratio, before⟩ := LayoutNode.ratioAt_splitAt addresses
    rw [LayoutNode.ratioAt_setRatioAt _ finite, if_pos rfl, before]
    rfl

/-- In a run of undisturbed steps every drag addresses the separator that it grabbed, and moves
that one only. -/
theorem drag_addresses {start s : Dragging R G} (idle : start.drag = none)
    {log : List (Dragging R G × World × DragAction R)} (history : Machine.History (step format) start log s)
    (undisturbed : ∀ entry ∈ log, entry.1.Undisturbed entry.2) (grabbed : s.drag = some drag) :
    Addresses s.core drag ∧ ∀ world x y,
      (∀ other, other ≠ drag.path → (s.move format world x y).core.session.tab.layout.root.ratioAt other =
        s.core.session.tab.layout.root.ratioAt other) ∧
      (RatioOps.isFinite (drag.calcRatio x y : R) = true →
        (s.move format world x y).core.session.tab.layout.root.ratioAt drag.path =
          some (RatioOps.clamp (drag.calcRatio x y))) := by
  have initial : start.Valid := by
    intro drag grabbed
    rw [idle] at grabbed
    cases grabbed
  obtain ⟨valid, _⟩ := history.invariant Valid Undisturbed (fun _ _ valid allowed => step_valid valid allowed) initial
    undisturbed
  have addresses := valid drag grabbed
  exact ⟨addresses, fun world x y => move_ratios grabbed addresses x y⟩

/-! ## A pane closed during a drag -/

def run (start : Dragging ℚ RawDisplay) (actions : List (DragAction ℚ)) : Dragging ℚ RawDisplay :=
  (actions.map (Prod.mk ({} : World))).foldl (step plainFormat) start

/-- Three columns on the 80x24 screen. -/
def threeColumns : Dragging ℚ RawDisplay :=
  run { core := { session := oneShell } } [.op (.split 0 .horizontal), .op (.split 1 .horizontal), .op (.render none)]

/-- What `press 53 10` grabs there. -/
def secondSeparator : DragState := { path := [true], direction := .horizontal, area := ⟨27, 1, 52, 21⟩ }

theorem threeColumns_grab : threeColumns.drag = none ∧
    threeColumns.core.borderCache.map (·.inner) = some threeColumns.core.session.contentArea ∧
    (run threeColumns [.press 53 10]).drag = some secondSeparator := by
  decide +kernel

theorem closed_unaddressed : (run threeColumns [.press 53 10, .op (.close 0)]).drag = some secondSeparator ∧
    (run threeColumns [.press 53 10, .op (.close 0)]).core.session.tab.layout.root.splitAt [true]
      (run threeColumns [.press 53 10, .op (.close 0)]).core.session.contentArea.clipped = none := by
  decide +kernel

theorem drag_unaddressed :
    boot plainFormat {} plainConfig (.grid 1 1 []) = .ok oneShell ∧
    ¬∀ log s, Machine.History (step plainFormat) ({ core := { session := oneShell } } : Dragging ℚ RawDisplay) log s →
      ∀ drag, s.drag = some drag → Addresses s.core drag := by
  refine ⟨oneShell_booted, fun claimed => ?_⟩
  have history := Machine.History.of_labels (step plainFormat) ({ core := { session := oneShell } } : Dragging ℚ RawDisplay)
    ([.op (.split 0 .horizontal), .op (.split 1 .horizontal), .op (.render none), .press 53 10, .op (.close 0)].map
      (Prod.mk ({} : World)))
  have addresses := claimed _ _ history secondSeparator closed_unaddressed.1
  cases addresses.symm.trans closed_unaddressed.2

theorem drag_addresses_grabbed :
    Addresses (run threeColumns [.press 53 10]).core secondSeparator ∧
    ((run threeColumns [.press 53 10]).move plainFormat {} 60 10).core.session.tab.layout.root.ratioAt [] =
      (run threeColumns [.press 53 10]).core.session.tab.layout.root.ratioAt [] := by
  have current : ∀ entry ∈ [(threeColumns, ({} : World), (DragAction.press 53 10 : DragAction ℚ))], entry.1.Undisturbed entry.2 := by
    intro entry member
    rw [List.mem_singleton.mp member]
    intro cache cached
    have inner := threeColumns_grab.2.1
    rw [cached] at inner
    exact Option.some.inj inner
  obtain ⟨addresses, moves⟩ := drag_addresses threeColumns_grab.1
    (Machine.History.start.step (({} : World), DragAction.press 53 10)) current threeColumns_grab.2.2
  exact ⟨addresses, (moves {} 60 10).1 [] (by decide)⟩

end Dragging

end Ezpn
