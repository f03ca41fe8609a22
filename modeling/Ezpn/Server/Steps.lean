import Ezpn.Server.Core
import Ezpn.Session.Tabs

/-!
# What the core operations do to panes

One statement for each operation that touches many panes at once: whose panes
continue, and which are replaced.
-/

set_option autoImplicit false

namespace Ezpn

/-- The same tab but for its panes and the state of their restarts. -/
structure Tab.Evolve {R G : Type} (Rel : Pane G → Pane G → Prop) (before after : Tab R G) : Prop where
  rest : after = { before with panes := after.panes, restartState := after.restartState }
  panes : PaneMap.Evolve Rel before.panes after.panes

section Capture
variable {R G : Type} [RatioOps R] [Vt100 G] {Rel : Pane G → Pane G → Prop}

omit [RatioOps R] in
theorem captureScrollback_evolve (same : ∀ pane, Rel pane pane)
    (dumped : ∀ pane : Pane G, Rel pane (pane.dumpText true).1) (format : SnapshotFormat R) (persistDefault : Bool)
    (overrides : IdMap Bool) (panes : PaneMap G) (saved : PaneSnapshot) :
    PaneMap.Evolve Rel panes (captureScrollback format persistDefault overrides panes saved).1 := by
  simp only [captureScrollback]
  split
  · exact .refl same panes
  rename_i pane found
  split
  · exact .refl same panes
  split
  · exact .refl same panes
  split
  · exact .insert same found (dumped pane)
  · exact .insert same found (dumped pane)

omit [RatioOps R] in
theorem capturePanes_evolve (same : ∀ pane, Rel pane pane) (chain : ∀ a b c, Rel a b → Rel b c → Rel a c)
    (dumped : ∀ pane : Pane G, Rel pane (pane.dumpText true).1) (format : SnapshotFormat R) (persistDefault : Bool)
    (overrides : IdMap Bool) (panes : PaneMap G) (saved : List PaneSnapshot) :
    PaneMap.Evolve Rel panes (capturePanes format persistDefault overrides panes saved).1 := by
  induction saved generalizing panes with
  | nil => exact .refl same panes
  | cons pane rest ih =>
      have first := captureScrollback_evolve same dumped format persistDefault overrides panes pane
      simp only [capturePanes]
      split
      · rename_i result
        rwa [result] at first
      · rename_i next saved result
        rw [result] at first
        have later := ih next
        split
        · rename_i restResult
          rw [restResult] at later
          exact first.trans chain later
        · rename_i restResult
          rw [restResult] at later
          exact first.trans chain later

omit [RatioOps R] in
theorem captureTabScrollback_evolve (same : ∀ pane, Rel pane pane)
    (chain : ∀ a b c, Rel a b → Rel b c → Rel a c) (dumped : ∀ pane : Pane G, Rel pane (pane.dumpText true).1)
    (format : SnapshotFormat R) (persistDefault : Bool) (tab : Tab R G) (saved : TabSnapshot R) :
    tab.Evolve Rel (captureTabScrollback format persistDefault tab saved).1 := by
  have panes := capturePanes_evolve same chain dumped format persistDefault (persistOverrides tab.panes) tab.panes
    saved.panes
  simp only [captureTabScrollback]
  split
  · rename_i result
    rw [result] at panes
    exact ⟨rfl, panes⟩
  · rename_i result
    rw [result] at panes
    exact ⟨rfl, panes⟩

omit [RatioOps R] [Vt100 G] in
private theorem evolve_refl (same : ∀ pane, Rel pane pane) (tabs : List (Tab R G)) :
    List.Forall₂ (Tab.Evolve Rel) tabs tabs :=
  List.forall₂_same.mpr fun _ _ => ⟨rfl, .refl same _⟩

omit [RatioOps R] in
theorem captureStored_evolve (same : ∀ pane, Rel pane pane) (chain : ∀ a b c, Rel a b → Rel b c → Rel a c)
    (dumped : ∀ pane : Pane G, Rel pane (pane.dumpText true).1) (format : SnapshotFormat R) (persistDefault : Bool)
    (stored : List (Tab R G × TabSnapshot R)) :
    List.Forall₂ (Tab.Evolve Rel) (stored.map (·.1)) (captureStored format persistDefault stored).1 := by
  induction stored with
  | nil => exact .nil
  | cons entry rest ih =>
      obtain ⟨tab, saved⟩ := entry
      have first := captureTabScrollback_evolve same chain dumped format persistDefault tab saved
      simp only [List.map_cons, captureStored]
      split
      · rename_i result
        rw [result] at first
        exact .cons first (evolve_refl same _)
      · rename_i result
        rw [result] at first
        split
        · rename_i restResult
          rw [restResult] at ih
          exact .cons first ih
        · rename_i restResult
          rw [restResult] at ih
          exact .cons first ih

/-- Capturing dumps panes in place and changes nothing else. -/
theorem Session.capture_evolve (Rel : Pane G → Pane G → Prop) (same : ∀ pane, Rel pane pane)
    (chain : ∀ a b c, Rel a b → Rel b c → Rel a c) (dumped : ∀ pane : Pane G, Rel pane (pane.dumpText true).1) (format : SnapshotFormat R) (world : World)
    (s : Session R G) :
    ∃ tab tabs, (s.capture format world).1 = { s with tab, tabMgr := s.tabMgr.replaceStored tabs } ∧
      s.tab.Evolve Rel tab ∧ List.Forall₂ (Tab.Evolve Rel) s.tabMgr.tabs tabs := by
  have active := captureTabScrollback_evolve same chain dumped format s.persistScrollback s.tab (snapshotTab world s.tab)
  have unchanged : s.tabMgr.replaceStored s.tabMgr.tabs = s.tabMgr := by simp [TabManager.replaceStored]
  simp only [Session.capture]
  split
  · rename_i tab message result
    rw [result] at active
    exact ⟨tab, s.tabMgr.tabs, by rw [unchanged], active, evolve_refl same _⟩
  rename_i tab saved result
  rw [result] at active
  have stored := captureStored_evolve same chain dumped format s.persistScrollback
    (s.tabMgr.tabs.zip ((s.fromLive world).tabs.eraseIdx s.tabMgr.activeIdx))
  have every : (s.tabMgr.tabs.zip ((s.fromLive world).tabs.eraseIdx s.tabMgr.activeIdx)).map (·.1) =
      s.tabMgr.tabs := by
    apply List.map_fst_zip
    rw [Session.fromLive_tabs, List.eraseIdx_map, Session.tabs, TabManager.eraseIdx_withActive, List.length_map]
  rw [every] at stored
  split
  · rename_i tabs message storedResult
    rw [storedResult] at stored
    exact ⟨tab, tabs, rfl, active, stored⟩
  · rename_i tabs inactive storedResult
    rw [storedResult] at stored
    exact ⟨tab, tabs, rfl, active, stored⟩

end Capture

section Stored
variable {R G : Type}

/-- Tabs changed in place take the places of the old ones. -/
theorem TabManager.replaceStored_tabs {Rel : Tab R G → Tab R G → Prop} {mgr : TabManager R G} {tabs : List (Tab R G)}
    (related : List.Forall₂ Rel mgr.tabs tabs) : (mgr.replaceStored tabs).tabs = tabs := by
  simp only [replaceStored, related.length_eq, dif_pos]

theorem TabManager.replaceStored_count (mgr : TabManager R G) (tabs : List (Tab R G)) :
    (mgr.replaceStored tabs).count = mgr.count := by
  simp only [replaceStored]
  split <;> rfl

theorem forall_of_forall₂ {α β : Type} {Rel : α → β → Prop} {P : α → Prop} {Q : β → Prop} {before : List α}
    {after : List β} (related : List.Forall₂ Rel before after) (all : ∀ a ∈ before, P a)
    (step : ∀ a b, Rel a b → P a → Q b) : ∀ b ∈ after, Q b := by
  induction related with
  | nil => simp
  | cons here rest ih =>
      intro b member
      rcases List.mem_cons.mp member with rfl | later
      · exact step _ _ here (all _ List.mem_cons_self)
      · exact ih (fun a member => all a (List.mem_cons_of_mem _ member)) b later

end Stored

/-! ## Single panes -/

section Single
variable {G : Type} [Vt100 G]

theorem Pane.configured_asks {pane : Pane G} {byteBudget : Nat} {policy : ClipboardPolicy} (asks : pane.AsksForItself) :
    ((pane.setScrollbackBudget byteBudget).setClipboardPolicy policy).AsksForItself := by
  simp only [setScrollbackBudget]
  split <;> exact asks

theorem Pane.serve_continues (world : World) (feed : Feed) (pane : Pane G) : pane.Continues (pane.serve world feed) := by
  refine Continues.trans _ _ _ (pane.readOutput_continues world feed) ?_
  simp only [serve, syncWatchdog, takeOsc52]
  split <;> exact ⟨rfl, rfl, id⟩

variable [LawfulVt100 G]

theorem PaneOp.apply_sameGrid (op : PaneOp) (pane : Pane G) : pane.SameGrid (op.apply pane) := by
  cases op with
  | write bytes => exact Pane.SameGrid.refl pane
  | scrollUp lines => exact (LawfulVt100.size_setScrollback _ _).trans (LawfulVt100.size_setScrollback _ _)
  | scrollDown lines => exact Pane.SameGrid.refl pane
  | snapToBottom => exact Pane.SameGrid.refl pane
  | syncScrollback => exact LawfulVt100.size_setScrollback _ _
  | resetScrollbackView => exact LawfulVt100.size_setScrollback _ _
  | copyOut payload => exact Pane.SameGrid.refl pane
  | dump includeScrollback => exact pane.dumpText_sameGrid includeScrollback

theorem Pane.serve_sameGrid (world : World) (feed : Feed) (pane : Pane G) : pane.SameGrid (pane.serve world feed) := by
  refine SameGrid.trans _ _ _ (pane.readOutput_sameGrid world feed) ?_
  simp only [serve, syncWatchdog, takeOsc52]
  split <;> exact SameGrid.refl _

end Single

namespace Core
variable {R G : Type} [RatioOps R] [Vt100 G]

/-! ## Configured panes -/

omit [RatioOps R] in
/-- Configuring panes changes only the panes named, one by one. -/
theorem configure_evolve (Rel : Pane G → Pane G → Prop) (same : ∀ pane, Rel pane pane)
    (chain : ∀ a b c, Rel a b → Rel b c → Rel a c) (ids : List Nat) (s : Session R G)
    (configured : ∀ pane, Rel pane ((pane.setScrollbackBudget s.scrollbackBytes).setClipboardPolicy s.clipboardPolicy)) :
    ∃ panes, ids.foldl (fun s id => s.configurePane id) s = s.setPanes panes ∧ PaneMap.Evolve Rel s.tab.panes panes := by
  induction ids generalizing s with
  | nil => exact ⟨s.tab.panes, rfl, .refl same _⟩
  | cons id ids ih =>
      obtain ⟨panes, result, evolve⟩ := ih (s.configurePane id) configured
      refine ⟨panes, result, PaneMap.Evolve.trans chain ?_ evolve⟩
      exact .modify same fun pane _ => configured pane

omit [RatioOps R] in
/-- A configured pane has the configured policy, as has one that had it already. -/
theorem configure_policy (ids : List Nat) (s : Session R G) {id : Nat} {pane : Pane G}
    (before : ∀ old, s.tab.panes[id]? = some old → id ∈ ids ∨ old.clipboardPolicy = s.clipboardPolicy)
    (found : (ids.foldl (fun s id => s.configurePane id) s).tab.panes[id]? = some pane) :
    pane.clipboardPolicy = s.clipboardPolicy := by
  induction ids generalizing s with
  | nil => simpa using before pane found
  | cons first ids ih =>
      refine ih (s.configurePane first) (fun old foundOld => ?_) found
      simp only [Session.configurePane, Session.setPanes] at foundOld
      rw [IdMap.getElem?_modify] at foundOld
      split at foundOld
      · obtain ⟨older, _, rfl⟩ := Option.map_eq_some_iff.mp foundOld
        exact .inr rfl
      · rename_i other
        rcases before old foundOld with member | already
        · rcases List.mem_cons.mp member with here | later
          · exact absurd here other
          · exact .inl later
        · exact .inr already

/-! ## Background tabs -/

theorem restartTabs_forall₂ {world : World} {shell : String} {tw th : Nat} {settings : Settings}
    {scrollback spawns : Nat} {tabs : List (Tab R G)} {Rel : Tab R G → Tab R G × List Nat → Prop}
    (each : ∀ spawns (tab : Tab R G),
      let outcome := restartPanes world spawns tab.panes tab.layout tab.restartPolicies tab.restartState shell tw th
        settings scrollback
      Rel tab ({ tab with panes := outcome.panes, restartState := outcome.state }, outcome.restarted)) :
    List.Forall₂ Rel tabs (restartTabs world shell tw th settings scrollback spawns tabs).1 := by
  induction tabs generalizing spawns with
  | nil => exact .nil
  | cons tab tabs ih => exact .cons (each spawns tab) ih

end Core

end Ezpn
