import Ezpn.Session.Snapshot

/-!
# Undoing a failed new tab

A new tab whose pane cannot be spawned is closed again. Creating puts the current
tab into storage and opens a gap at the end; closing takes out the last stored
tab, which is the current one only if it was the last.
-/

set_option autoImplicit false

namespace Ezpn

namespace Session
variable {R G : Type} [RatioOps R] [Vt100 G]

omit [RatioOps R] [Vt100 G] in
theorem activeIdx_lt_tabs (s : Session R G) : s.tabMgr.activeIdx < s.tabs.length := by
  rw [tabs, TabManager.withActive_length]
  exact s.tabMgr.inRange

omit [RatioOps R] [Vt100 G] in
theorem last_lt_tabs (s : Session R G) : s.tabMgr.count - 1 < s.tabs.length := by
  rw [tabs, TabManager.withActive_length]
  have := s.tabMgr.inRange
  omega

/-- What a failed new tab leaves: the last tab of the old list is active. -/
theorem newTab_failed {world : World} {s : Session R G} {message : String} (requestedName : Option String)
    (fails : world.spawnError s.spawns s.shell = some message) :
    s.newTab world requestedName =
      (resizeAll world
        { s with
          tabMgr := (TabManager.takeOut s.tabs (s.tabMgr.count - 1) (s.tabMgr.nextId + 1) s.last_lt_tabs).1
          tab := s.tabs.get ⟨s.tabMgr.count - 1, s.last_lt_tabs⟩
          settings.tabCount := s.tabMgr.count
          spawns := s.spawns + 1 }, false) := by
  have refused (cols rows : Nat) (cwd : Option String) :
      ∃ message, (spawnPaneIn world s.spawns s.shell .shell cols rows s.scrollback cwd : Except String (Pane G)) =
        .error message := by
    simp only [spawnPaneIn, Pane.spawnInner, fails]
    split
    · exact ⟨_, rfl⟩
    · exact ⟨_, rfl⟩
  simp only [newTab]
  split
  · rename_i pane started
    obtain ⟨_, failed⟩ := refused _ _ _
    cases failed.symm.trans started
  · simp only [enter, syncTabCount, TabManager.closeActive_createTab, tabs]
    congr 2
    simp [TabManager.takeOut]

/-- The active tab with its panes refitted to their rectangles. -/
def refitted (world : World) (s : Session R G) : Tab R G := (s.syncTabCount.resizeAll world).tab

omit [RatioOps R] [Vt100 G] in
/-- The last of the tabs is the active one exactly when it is active in the last position. -/
theorem takeOut_last {s : Session R G} (last : s.tabMgr.activeIdx + 1 = s.tabMgr.count) (nextId : Nat) :
    TabManager.takeOut s.tabs (s.tabMgr.count - 1) nextId s.last_lt_tabs = ({ s.tabMgr with nextId }, s.tab) := by
  have position : s.tabMgr.count - 1 = s.tabMgr.activeIdx := by omega
  have stored : s.tabs.eraseIdx s.tabMgr.activeIdx = s.tabMgr.tabs := by
    rw [tabs, TabManager.eraseIdx_withActive]
  have length : s.tabs.length = s.tabMgr.count := by rw [tabs, TabManager.withActive_length]
  have active : s.tabs.get ⟨s.tabMgr.activeIdx, s.activeIdx_lt_tabs⟩ = s.tab := by
    apply Option.some_inj.mp
    rw [List.get_eq_getElem, ← List.getElem?_eq_getElem s.activeIdx_lt_tabs, tabs, TabManager.getElem_withActive]
  rw [List.get_eq_getElem] at active
  simp only [TabManager.takeOut, position, stored, length, active]

/-- Two shells in the first tab and one in the second, the first tab active. -/
def twoTabs : Session ℚ RawDisplay :=
  let config : LaunchConfig :=
    { shell := "/bin/sh", border := .rounded, showStatusBar := true, showTabBar := true, scrollback := 100
      scrollbackBytes := 0, clipboardPolicy := {}, persistScrollback := false }
  let format : SnapshotFormat ℚ := ⟨id, fun _ => .ok, fun _ => 0, fun _ => .error "no such file"⟩
  let empty : Session ℚ RawDisplay := config.session { name := "1", layout := .fromGrid 1 1, panes := ∅, activePane := 0 } 0
  let started := (boot format {} config (.grid 1 2 [])).toOption.getD empty
  let opened := (started.newTab {} none).1
  (opened.goToTab {} 0).getD opened

/-- No process can be spawned any more. -/
def exhausted : World := { spawnError := fun _ _ => some "Resource temporarily unavailable" }

end Session

end Ezpn
