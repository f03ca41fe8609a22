import Ezpn.Server.Loop.Rules
import Ezpn.Server.Processes

/-!
# Output on its way to the screen

A pane with output that no frame has painted is marked, or in a synchronized update
whose end will mark it. Under a zoom this holds of the zoomed pane only: the others
are not on screen, and the end of the zoom marks them all.
-/

set_option autoImplicit false

namespace Ezpn

/-! ## Reading -/

section Read
variable {G : Type} [Vt100 G]

/-- A read ends the pane's synchronized update and reports no change: it finds the end of the
output and nothing else, and the child still runs. -/
def Pane.ClosesSilently (world : World) (feed : Feed) (pane : Pane G) : Prop :=
  pane.inSync = true ∧ (pane.readOutput world feed).1.inSync = false ∧ (pane.readOutput world feed).2 = false

theorem Pane.serve_inSync (world : World) (feed : Feed) (pane : Pane G) :
    (pane.serve world feed).inSync = ((pane.readOutput world feed).1.syncWatchdog world).1.inSync := rfl

/-- Without a change the pane has read nothing. -/
theorem Pane.readOutput_unchanged {world : World} {feed : Feed} {pane : Pane G}
    (unchanged : (pane.readOutput world feed).2 = false) : feed.chunks = [] := by
  simp only [readOutput, Bool.or_eq_false_iff, Bool.not_eq_false'] at unchanged
  have none := List.isEmpty_iff.mp unchanged.1
  cases chunks : feed.chunks with
  | nil => rfl
  | cons chunk rest => simp [chunks, maxDrain] at none

/-- A served pane is marked, is still in its update, or has read nothing and was in none. -/
theorem Pane.serve_cases {world : World} {feed : Feed} {pane : Pane G} (loud : ¬pane.ClosesSilently world feed) :
    pane.repaints world feed = true ∨ (pane.serve world feed).inSync = true ∨
      (feed.chunks = [] ∧ pane.inSync = false) := by
  cases changed : (pane.readOutput world feed).2 with
  | true =>
      cases window : (pane.serve world feed).inSync with
      | true => exact .inr (.inl rfl)
      | false =>
          rw [Pane.serve_inSync] at window
          exact .inl (by simp [repaints, changed, window])
  | false =>
      cases inside : pane.inSync with
      | false => exact .inr (.inr ⟨Pane.readOutput_unchanged changed, rfl⟩)
      | true =>
          have still : (pane.readOutput world feed).1.inSync = true := by
            cases after : (pane.readOutput world feed).1.inSync with
            | true => rfl
            | false => exact absurd ⟨inside, after, changed⟩ loud
          cases window : (pane.serve world feed).inSync with
          | true => exact .inr (.inl rfl)
          | false =>
              -- only the watchdog can have closed it, and it reports so
              rw [Pane.serve_inSync] at window
              have fired : ((pane.readOutput world feed).1.syncWatchdog world).2 = true := by
                simp only [syncWatchdog] at window ⊢
                split
                · rfl
                · rename_i early
                  rw [if_neg early] at window
                  exact absurd still (by simp [window])
              exact .inl (by simp [repaints, changed, fired, window])

end Read

namespace Core
variable {R G : Type}

/-- The zoomed pane when there is one, and any pane otherwise. -/
def Visible (c : Core R G) (id : Nat) : Prop := c.session.tab.zoomedPane = none ∨ id = c.session.tab.activePane

/-- The same panes are on screen. -/
structure SameView (c d : Core R G) : Prop where
  zoomed : d.session.tab.zoomedPane = c.session.tab.zoomedPane
  active : d.session.tab.activePane = c.session.tab.activePane

theorem SameView.refl (c : Core R G) : c.SameView c := ⟨rfl, rfl⟩

theorem SameView.visible {c d : Core R G} (same : c.SameView d) {id : Nat} (visible : d.Visible id) : c.Visible id := by
  rw [Visible, same.zoomed, same.active] at visible
  exact visible

variable [RatioOps R] [Vt100 G]

theorem refitZoomed_view (world : World) (c : Core R G) : c.SameView (c.refitZoomed world) := by
  simp only [refitZoomed]
  split <;> exact ⟨rfl, rfl⟩

omit [RatioOps R] in
theorem detectSpawned_view (c : Core R G) : c.SameView c.detectSpawned := by
  obtain ⟨panes, detected, _⟩ := c.detectSpawned_session
  constructor
  · rw [detected]
    rfl
  · rw [detected]
    rfl

/-- What does not ask for a full redraw leaves the same panes on screen. -/
theorem apply_view (format : SnapshotFormat R) (world : World) (op : Op R) (c : Core R G) (stays : op.stays = true)
    (drawn : ∀ targets, op ≠ .render targets) (partly : (c.marks format world op).fullRedraw = false) :
    c.SameView (c.apply format world op) := by
  cases op with
  | read feeds => cases stays
  | newTab name => cases stays
  | goToTab target => cases stays
  | closeTab => cases stays
  | load path => cases stays
  | render targets => exact absurd rfl (drawn targets)
  | close _ | focus _ | zoom _ | unzoom => cases partly
  | unzoomMissing =>
      simp only [marks] at partly
      simp only [apply]
      split
      · rename_i missing
        rw [if_pos missing] at partly
        cases partly
      · exact .refl c
  | prompt =>
      simp only [apply, drainPrompt]
      repeat' split
      all_goals exact ⟨rfl, rfl⟩
  | restart =>
      obtain ⟨panes, after, _⟩ := c.restart_session world
      simp only [apply]
      exact ⟨by rw [after], by rw [after]⟩
  | resizeTerminal tw th => exact ⟨(refitZoomed_view world _).zoomed, (refitZoomed_view world _).active⟩
  | reload border showStatusBar showTabBar themeChanged =>
      simp only [apply]
      split
      · exact ⟨(refitZoomed_view world _).zoomed, (refitZoomed_view world _).active⟩
      · exact ⟨rfl, rfl⟩
  | panelKey key =>
      simp only [apply, panel]
      split <;> exact ⟨rfl, rfl⟩
  | panelClick x y =>
      simp only [apply, panel]
      split <;> exact ⟨rfl, rfl⟩
  | respawn =>
      simp only [apply]
      rcases c.session.respawn_cases world with unchanged | ⟨rect, pane, _, _, _, replaced⟩
      · exact ⟨by rw [unchanged], by rw [unchanged]⟩
      · exact ⟨by rw [replaced], by rw [replaced]⟩
  | answer reply =>
      simp only [apply, answer]
      split <;> exact ⟨rfl, rfl⟩
  | save =>
      obtain ⟨tab, tabs, captured, active, _⟩ := c.session.capture_evolve Pane.Steady Pane.Steady.refl Pane.Steady.trans
        (fun _ => ⟨rfl, rfl, rfl⟩) format world
      simp only [apply, captured]
      exact ⟨by rw [active.rest], by rw [active.rest]⟩
  | resizePane _ _ | reconfigure _ | exec _ _ =>
      simp only [apply]
      split <;> exact ⟨rfl, rfl⟩
  | restartInactive | requestReload _ | markBorders | split _ _ | equalize | refit | setRatio _ _ | swap _
  | setBroadcast _ | showStatusBar _ | showTabBar _ | togglePanel | pane _ _ | renameTab _ => exact ⟨rfl, rfl⟩

/-- A place with a new process is marked. -/
theorem marks_fresh (format : SnapshotFormat R) (world : World) (op : Op R) (c : Core R G) {id : Nat}
    (new : id ∈ c.fresh world op) : (c.marks format world op).Covers id := by
  cases op with
  | restart => exact .inr new
  | split target dir =>
      simp only [fresh] at new
      split at new
      · rename_i accepted
        simp only [marks, accepted, if_true]
        exact .inl rfl
      · cases new
  | respawn =>
      simp only [fresh] at new
      split at new
      · cases new
      · exact .inr new
  | exec target command =>
      simp only [fresh] at new
      split at new
      · rename_i accepted
        simp only [marks, accepted, if_true]
        exact .inr new
      · cases new
  | _ => cases new

/-- A frame leaves the same panes on screen; under a zoom that is the pane it shows. -/
theorem refresh_visible {world : World} {c : Core R G} {id : Nat} (visible : (c.refresh world).Visible id) :
    c.Visible id ∧ ((c.refresh world).session.tab.zoomedPane = none ∨
      (c.refresh world).session.tab.zoomedPane = some id) := by
  have rebuilt : c.rebuildBorders.session = c.session := by
    simp only [rebuildBorders]
    split <;> rfl
  simp only [Visible, refresh, followZoom, rebuilt] at visible ⊢
  split at visible
  · rename_i zoomed
    obtain rfl : id = c.session.tab.activePane := visible.resolve_left (by simp [Session.resizeZoomedPane, Session.setPanes])
    rw [if_pos zoomed]
    exact ⟨.inr rfl, .inr rfl⟩
  · rename_i unzoomed
    rw [rebuilt] at visible
    rw [if_neg unzoomed, rebuilt]
    have none : c.session.tab.zoomedPane = none := by simpa using unzoomed
    exact ⟨visible, .inl none⟩

omit [RatioOps R] in
theorem draw_view (targets : List Nat) (c : Core R G) : c.SameView (c.draw targets) := by
  induction targets generalizing c with
  | nil => exact .refl c
  | cons id targets ih =>
      have rest := ih (c.modifyPane id fun pane => pane.syncScrollback.resetScrollbackView)
      exact ⟨rest.zoomed, rest.active⟩

end Core

namespace Loop
variable {R G U : Type} [RatioOps R] [Vt100 G] {format : SnapshotFormat R} {world : World}

/-! ## What is on its way -/

/-- With a client, every pane on screen with unpainted output is marked or in a synchronized update. -/
def Covered (l : Loop R G U) : Prop :=
  l.clients = [] ∨ ∀ (id : Nat) (pane : Pane G), l.core.session.tab.panes[id]? = some pane → l.core.Visible id →
    pane.process ∈ l.unpainted → l.update.Covers id ∨ pane.inSync = true

omit [RatioOps R] [Vt100 G] in
theorem covered_of_full {l : Loop R G U} (full : l.update.fullRedraw = true) : l.Covered :=
  .inr fun _ _ _ _ _ => .inl (.inl full)

omit [RatioOps R] [Vt100 G] in
theorem covered_indifferent : Indifferent (Covered (R := R) (G := G) (U := U)) :=
  { ui := fun _ _ covered => covered
    ended := fun _ covered => covered
    marked := fun _ _ covered => covered.imp id fun all id pane found visible unpainted =>
      (all id pane found visible unpainted).imp (fun marked => RenderUpdate.covers_merge.mpr (.inl marked)) fun open_ => open_
    clients := fun l clients _ _ _ none covered => by
      rcases covered with empty | all
      · by_cases left : clients = []
        · exact .inl left
        · exact absurd empty (none left)
      · exact .inr all }

theorem perform_covered {l : Loop R G U} (covered : l.Covered) (op : Op R) (drawn : ∀ targets, op ≠ .render targets)
    (silent : ∀ feeds, op ≠ .read feeds) : (l.perform format world op).Covered := by
  cases marked : (l.core.marks format world op).fullRedraw with
  | true => exact covered_of_full (by simp [perform, RenderUpdate.merge, marked])
  | false =>
      have none : l.core.outputs op = [] := by
        cases op with
        | read feeds => exact absurd rfl (silent feeds)
        | _ => rfl
      refine covered.imp id fun all id pane found visible unpainted => ?_
      simp only [perform, none, List.append_nil] at found visible unpainted
      simp only [perform, RenderUpdate.covers_merge]
      cases stays : op.stays with
      | true =>
          have same := l.core.apply_view format world op stays drawn marked
          rcases (l.core.apply_renewed format world op stays).pane id pane found with
            ⟨_, old, foundOld, steady⟩ | ⟨new, _⟩
          · rw [steady.process] at unpainted
            refine (all id old foundOld (same.visible visible) unpainted).imp .inl fun inside => ?_
            rw [steady.inSync, inside]
          · exact .inl (.inr (l.core.marks_fresh format world op new))
      | false =>
          -- without a redraw the operation was refused
          have refused : (l.core.apply format world op).session.tab = l.core.session.tab := by
            cases op with
            | read feeds => exact absurd rfl (silent feeds)
            | newTab name => cases marked
            | goToTab target =>
                simp only [Core.marks] at marked
                simp only [Core.apply]
                cases moved : l.core.session.goToTab world target with
                | none => rfl
                | some next =>
                    rw [moved] at marked
                    cases marked
            | closeTab =>
                simp only [Core.marks] at marked
                simp only [Core.apply]
                cases closed : l.core.session.closeTab world with
                | none => rfl
                | some next =>
                    rw [closed] at marked
                    cases marked
            | load path =>
                simp only [Core.marks] at marked
                simp only [Core.apply, Core.load]
                rcases l.core.session.load_cases format world path with ⟨message, spawns, failed⟩ | ⟨saved, next, _, loaded, _⟩
                · rw [failed]
                · rw [loaded] at marked
                  cases marked
            | _ => cases stays
          rw [refused] at found
          rw [Core.Visible, refused] at visible
          exact (all id pane found visible unpainted).imp .inl fun inside => inside

/-- No synchronized update of a pane on screen ends with the output, in silence. -/
def Loud (world : World) (feeds : Nat → Pane.Feed) (l : Loop R G U) : Prop :=
  ∀ (id : Nat) (pane : Pane G), l.core.detectSpawned.session.tab.panes[id]? = some pane → l.core.Visible id →
    ¬pane.ClosesSilently world (feeds pane.process)

/-- A pane that is served and changed is marked, unless its update goes on. -/
theorem read_marks {l : Loop R G U} {feeds : Nat → Pane.Feed} {id : Nat} {pane : Pane G}
    (found : l.core.detectSpawned.session.tab.panes[id]? = some pane)
    (repaints : pane.repaints world (feeds pane.process) = true) :
    (l.perform format world (.read feeds)).update.Covers id := by
  refine RenderUpdate.covers_merge.mpr (.inr (.inr ?_))
  refine List.mem_map.mpr ⟨(id, pane), List.mem_filter.mpr ⟨?_, repaints⟩, rfl⟩
  exact Std.ExtTreeMap.mem_toList_iff_getElem?_eq_some.mpr found

theorem read_covered {l : Loop R G U} {feeds : Nat → Pane.Feed} (covered : l.Covered) (loud : l.Loud world feeds) :
    (l.perform format world (.read feeds)).Covered := by
  obtain ⟨panes, detected, evolve⟩ := l.core.detectSpawned_session
  have same := l.core.detectSpawned_view
  refine covered.imp id fun all id pane found visible unpainted => ?_
  simp only [perform, Core.apply, Core.readAll, Session.setPanes, Std.ExtTreeMap.getElem?_map, Option.map_eq_some_iff] at found
  obtain ⟨old, foundOld, rfl⟩ := found
  have onScreen : l.core.Visible id := same.visible visible
  rcases Pane.serve_cases (loud id old foundOld onScreen) with repaints | inside | ⟨none, outside⟩
  · exact .inl (read_marks foundOld repaints)
  · exact .inr inside
  · have foundOld' : panes[id]? = some old := by
      rw [detected] at foundOld
      exact foundOld
    obtain ⟨before, foundBefore, steady⟩ := evolve id old foundOld'
    rw [Pane.serve_process] at unpainted
    have earlier : old.process ∈ l.unpainted := by
      simp only [perform, Core.outputs, List.mem_append, List.mem_filter] at unpainted
      rcases unpainted with earlier | ⟨_, some⟩
      · exact earlier
      · simp [none] at some
    rw [steady.process] at earlier
    refine (all id before foundBefore onScreen earlier).imp (fun marked => ?_) fun inside => ?_
    · exact RenderUpdate.covers_merge.mpr (.inl marked)
    · rw [steady.inSync, inside] at outside
      cases outside

/-- A frame paints every marked pane on screen. -/
theorem mem_painted {l : Loop R G U} (input : FrameInput) {id : Nat}
    (present : id ∈ (l.core.refresh world).session.tab.panes) (visible : (l.core.refresh world).Visible id)
    (covered : (l.pending world).1.Covers id) : id ∈ l.painted world input := by
  simp only [painted]
  rcases (Core.refresh_visible visible).2 with unzoomed | zoomed
  · rw [unzoomed]
    let update : RenderUpdate :=
      { (l.pending world).1 with fullRedraw := (l.pending world).1.fullRedraw || input.flashExpired }
    have flashed : update.Covers id := covered.imp (fun redraw => by simp [update, redraw]) fun dirty => dirty
    exact mem_collectRenderTargets_of_unzoomed present flashed
  · rw [zoomed]
    simp [collectRenderTargets, Std.ExtTreeMap.contains_iff_mem.mpr present]

/-- The panes of a frame are those before it, and the refreshed ones in between. -/
theorem render_panes {l : Loop R G U} {targets : List Nat} {id : Nat} {pane : Pane G}
    (found : ((l.core.refresh world).draw targets).session.tab.panes[id]? = some pane)
    (visible : ((l.core.refresh world).draw targets).Visible id) :
    l.core.Visible id ∧ (l.core.refresh world).Visible id ∧ ∃ before refreshed, l.core.session.tab.panes[id]? = some before ∧
      (l.core.refresh world).session.tab.panes[id]? = some refreshed ∧ before.Steady refreshed ∧ refreshed.Steady pane := by
  obtain ⟨refreshed, foundRefreshed, drawn⟩ := Core.draw_steady targets (l.core.refresh world) id pane found
  obtain ⟨before, foundBefore, steady⟩ := l.core.refresh_steady world id refreshed foundRefreshed
  have still := (Core.draw_view targets (l.core.refresh world)).visible visible
  exact ⟨(Core.refresh_visible still).1, still, before, refreshed, foundBefore, foundRefreshed, steady, drawn⟩

/-- What a frame leaves unpainted stays marked. -/
theorem frame_covered {l : Loop R G U} (covered : l.Covered) (input : FrameInput) :
    (l.frame format world input).Covered := by
  let defer : Nat → Bool := fun id => ((l.core.refresh world).session.tab.panes[id]?).any (·.inSync)
  have kept {id : Nat} (marked : l.update.Covers id) : (l.pending world).1.Covers id ∨
      ((l.core.refresh world).session.tab.panes[id]?.any (·.inSync) = true ∧ id ∈ (l.pending world).2) :=
    marked.deferred defer
  have unsent {targets : Option (List Nat)} {update : RenderUpdate}
      (held : ∀ id, l.update.Covers id → update.Covers id) :
      Covered { l with core := l.core.apply format world (.render targets), update } := by
    refine covered.imp id fun all id pane found visible unpainted => ?_
    obtain ⟨before, _, old, refreshed, foundOld, _, first, second⟩ := render_panes found visible
    have steady := Pane.Steady.trans _ _ _ first second
    rw [steady.process] at unpainted
    exact (all id old foundOld before unpainted).imp (held id) fun inside => by rw [steady.inSync, inside]
  have whole {redraw : Bool} (id : Nat) (marked : l.update.Covers id)
      (wider : (l.pending world).1.fullRedraw = true → redraw = true) : RenderUpdate.Covers
        { (l.pending world).1 with
          dirtyPanes := (l.pending world).1.dirtyPanes ++ (l.pending world).2, fullRedraw := redraw } id := by
    rcases kept marked with now | ⟨_, later⟩
    · exact now.imp wider fun dirty => List.mem_append_left _ dirty
    · exact .inr (List.mem_append_right _ later)
  simp only [frame]
  split
  · split
    · refine covered.imp id fun all id pane found visible unpainted => ?_
      obtain ⟨before, still, old, refreshed, foundOld, foundRefreshed, first, second⟩ := render_panes found visible
      obtain ⟨earlier, hidden⟩ := List.mem_filter.mp unpainted
      have steady := Pane.Steady.trans _ _ _ first second
      rw [steady.process] at earlier
      rcases all id old foundOld before earlier with marked | inside
      · rcases kept marked with now | ⟨_, later⟩
        · have present := Std.ExtTreeMap.mem_iff_isSome_getElem?.mpr (Option.isSome_of_eq_some foundRefreshed)
          have painted := mem_painted input present still now
          have shown : pane.process ∈ l.shown world input :=
            List.mem_filterMap.mpr ⟨id, painted, by simp [foundRefreshed, second.process]⟩
          simp [shown] at hidden
        · exact .inl (.inr later)
      · exact .inr (by rw [steady.inSync, inside])
    · exact unsent fun id marked => whole id marked fun redraw => by simp [redraw]
  · by_cases empty : l.clients = []
    · exact .inl empty
    · rw [if_neg (by simpa using empty)]
      exact unsent fun id marked => whole id marked fun redraw => redraw

/-! ## Runs -/

variable [Interface U]

/-- No read ends the synchronized update of a pane on screen in silence. -/
def PaintsOutput (l : Loop R G U) : World × LoopOp R G U → Prop
  | (world, .upkeep feeds) => l.Loud world feeds
  | _ => True

theorem acceptClient_covered {l : Loop R G U} (covered : l.Covered) (w h : Nat) (mode : AttachMode) (connected : Bool) :
    (l.acceptClient format world w h mode connected).Covered := by
  simp only [acceptClient]
  split
  · exact covered
  · refine covered_of_full ?_
    simp [RenderUpdate.merge, RenderUpdate.all]

theorem closeDeadTab_covered {l : Loop R G U} (covered : l.Covered) : (l.closeDeadTab format world).Covered := by
  simp only [closeDeadTab]
  split
  · exact covered
  split
  · exact covered
  · exact covered_of_full (by simp [RenderUpdate.merge, RenderUpdate.all])

theorem upkeep_covered {l : Loop R G U} {feeds : Nat → Pane.Feed} (covered : l.Covered) (loud : l.Loud world feeds) :
    (l.upkeep format world feeds).Covered := by
  have detected : (l.detect format world feeds).Covered :=
    perform_covered (read_covered covered loud) .prompt (by simp) (by simp)
  have restarted : ((l.detect format world feeds).restartAll format world).Covered :=
    perform_covered (perform_covered detected .restart (by simp) (by simp)) .restartInactive (by simp) (by simp)
  have closed : (((l.detect format world feeds).restartAll format world).closeDeadTab format world).Covered :=
    closeDeadTab_covered restarted
  simp only [upkeep]
  split
  · exact closed
  · exact perform_covered closed .unzoomMissing (by simp) (by simp)

theorem step_covered {l : Loop R G U} (covered : l.Covered) (label : World × LoopOp R G U)
    (paints : l.PaintsOutput label) : (l.step format label).Covered := by
  obtain ⟨world, op⟩ := label
  have performs (l : Loop R G U) (op : Op R) (covered : l.Covered) (handled : op.handled = true) (_ : True) :
      (l.perform format world op).Covered :=
    perform_covered covered op (fun targets same => by rw [same] at handled; cases handled)
      fun feeds same => by rw [same] at handled; cases handled
  have resizes (l : Loop R G U) (tw th : Nat) (covered : l.Covered) :
      (l.perform format world (.resizeTerminal tw th)).Covered := perform_covered covered _ (by simp) (by simp)
  simp only [step]
  split
  · exact covered
  cases op with
  | upkeep feeds =>
      have kept : (l.upkeep format world feeds).Covered := upkeep_covered covered paints
      exact kept
  | front handler =>
      exact handle_invariant covered_indifferent.toInert performs covered handler (each_of_forall (fun _ _ => trivial) _ _)
  | attach w h mode connected => exact acceptClient_covered covered w h mode connected
  | message id msg =>
      exact message_invariant covered_indifferent performs covered id msg (handles_of_forall (fun _ _ => trivial) _ _)
  | outputFailed id => exact covered
  | settle =>
      exact settle_invariant covered_indifferent resizes
        (fun _ covered => perform_covered covered .save (by simp) (by simp)) covered
  | frame input => exact frame_covered covered input
  | kill => exact covered

/-- As long as no synchronized update of a pane on screen ends in silence: with a client attached,
unpainted output on screen is marked or held back by an update that is still open, and the read that
ends the update marks the pane. With nothing pending and no update open, all of it is painted. -/
theorem output_painted (format : SnapshotFormat R) (start : Core R G) (ui : U)
    {log : List (Loop R G U × (World × LoopOp R G U))} {l : Loop R G U}
    (history : Machine.History (step format) { core := start, ui } log l)
    (paints : ∀ entry ∈ log, entry.1.PaintsOutput entry.2) :
    (l.clients ≠ [] → ∀ (id : Nat) (pane : Pane G), l.core.session.tab.panes[id]? = some pane → l.core.Visible id →
      (pane.process ∈ l.unpainted → l.update.Covers id ∨ pane.inSync = true) ∧
        (¬l.update.Covers id → pane.inSync = false → pane.process ∉ l.unpainted)) ∧
      ∀ entry ∈ log, ∀ world feeds, entry.2 = (world, .upkeep feeds) →
        ∀ (id : Nat) (pane : Pane G), entry.1.core.detectSpawned.session.tab.panes[id]? = some pane →
          entry.1.core.Visible id → pane.inSync = true → (pane.serve world (feeds pane.process)).inSync = false →
            (entry.1.perform format world (.read feeds)).update.Covers id := by
  have initial : Covered ({ core := start, ui } : Loop R G U) := .inl rfl
  have kept := history.invariant Covered PaintsOutput
    (fun l label covered paints => step_covered covered label paints) initial paints
  refine ⟨fun attached id pane found visible => ?_, ?_⟩
  · have all := kept.1.resolve_left attached id pane found visible
    refine ⟨all, fun unmarked closed unpainted => ?_⟩
    rcases all unpainted with marked | inside
    · exact unmarked marked
    · rw [closed] at inside
      cases inside
  · intro entry member world feeds upkeep id pane found visible inside closed
    have loud : entry.1.PaintsOutput entry.2 := paints entry member
    rw [upkeep] at loud
    rcases Pane.serve_cases (loud id pane found visible) with repaints | still | ⟨_, outside⟩
    · exact read_marks found repaints
    · rw [closed] at still
      cases still
    · rw [inside] at outside
      cases outside

/-- A second pane prints something. -/
def secondPrints : World × LoopOp ℚ RawDisplay Unit :=
  ({}, .upkeep fun process => if process = 1 then { chunks := [[120]] } else {})

/-- The first pane is zoomed, and a frame is sent while the second one prints. -/
def zoomedPrint : List (World × LoopOp ℚ RawDisplay Unit) :=
  [({}, .attach 80 24 .shared true), ({}, .front fun _ _ => [.op (.split 0 .horizontal) (@rfl Bool true), .op (.zoom 0) (@rfl Bool true)]), secondPrints,
    ({}, .frame { due := true })]

theorem zoomedPrint_unmarked :
    ¬∀ (log : List (Loop ℚ RawDisplay Unit × (World × LoopOp ℚ RawDisplay Unit))) (l : Loop ℚ RawDisplay Unit),
      Machine.History (step plainFormat) { core := { session := oneShell }, ui := () } log l →
      l.clients ≠ [] → ∀ (id : Nat) (pane : Pane RawDisplay), l.core.session.tab.panes[id]? = some pane →
        pane.process ∈ l.unpainted → l.update.Covers id ∨ pane.inSync = true := by
  intro claimed
  have run := Machine.History.of_labels (step plainFormat)
    ({ core := { session := oneShell }, ui := () } : Loop ℚ RawDisplay Unit) zoomedPrint
  have facts : let l := zoomedPrint.foldl (step plainFormat) { core := { session := oneShell }, ui := () }
      l.clients ≠ [] ∧ (l.core.session.tab.panes[1]?).map (fun pane => (pane.process, pane.inSync)) = some (1, false) ∧
        1 ∈ l.unpainted ∧ ¬l.update.Covers 1 := by decide +kernel
  generalize zoomedPrint.foldl (step plainFormat) { core := { session := oneShell }, ui := () } = l at run facts
  obtain ⟨attached, second, unpainted, unmarked⟩ := facts
  obtain ⟨pane, found, same⟩ := Option.map_eq_some_iff.mp second
  simp only [Prod.mk.injEq] at same
  rcases claimed _ l run attached 1 pane found (same.1 ▸ unpainted) with covered | inside
  · exact unmarked covered
  · rw [same.2] at inside
    cases inside

theorem secondPrint_marked :
    let labels : List (World × LoopOp ℚ RawDisplay Unit) :=
      [({}, .attach 80 24 .shared true), ({}, .front fun _ _ => [.op (.split 0 .horizontal)]), ({}, .frame { due := true }),
        secondPrints]
    let l := labels.foldl (step plainFormat) { core := { session := oneShell }, ui := () }
    ∀ pane, l.core.session.tab.panes[1]? = some pane → pane.process ∈ l.unpainted →
      l.update.Covers 1 ∨ pane.inSync = true := by
  intro labels l pane found
  have run := Machine.History.of_labels (step plainFormat)
    ({ core := { session := oneShell }, ui := () } : Loop ℚ RawDisplay Unit) labels
  have painted := output_painted plainFormat { session := oneShell } () run ?_
  · exact (painted.1 (by decide +kernel) 1 pane found (.inl (by decide +kernel))).1
  · simp only [labels, Machine.trace, List.forall_mem_cons]
    refine ⟨trivial, trivial, trivial, ?_, by simp⟩
    intro id pane found _ silent
    have apart : ∀ entry ∈ ([({}, .attach 80 24 .shared true), ({}, .front fun _ _ => [.op (.split 0 .horizontal)]),
        ({}, .frame { due := true })].foldl (step plainFormat)
          ({ core := { session := oneShell }, ui := () } : Loop ℚ RawDisplay Unit)).core.detectSpawned.session.tab.panes.toList,
        entry.2.inSync = false := by decide +kernel
    have outside := apart (id, pane) (Std.ExtTreeMap.mem_toList_iff_getElem?_eq_some.mpr found)
    rw [silent.1] at outside
    cases outside

end Loop

end Ezpn
