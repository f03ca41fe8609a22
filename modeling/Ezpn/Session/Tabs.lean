import Ezpn.Pane.Evolve
import Ezpn.Session.RoundTrip

/-!
# Properties of every tab

What holds of all tabs of a session survives any change of the active one. The
lemmas here say what each operation that moves tabs or spawns panes leaves behind.
-/

set_option autoImplicit false

namespace Ezpn

/-! ## Spawned panes -/

section Spawned
variable {R G : Type} [RatioOps R] [Vt100 G]

/-- A pane as its spawn made it: a blank display of its rectangle's size, the default
policy and no output read. -/
structure Pane.SpawnedAt (pane : Pane G) (rect : Rect) : Prop where
  grid : ∃ scrollback, pane.parser = Vt100.new (max rect.h 1) (max rect.w 1) scrollback
  state : pane.state = {}
  policy : pane.clipboardPolicy = {}

omit [RatioOps R] in
theorem Pane.spawnInner_spawnedAt {world : World} {attempt : Nat} {shell : String} {launch : PaneLaunch}
    {rect : Rect} {scrollback : Nat} {cwd : Option String} {env : EnvMap} {pane : Pane G}
    (started : Pane.spawnInner world attempt shell launch (max rect.w 1) (max rect.h 1) scrollback cwd env =
      .ok pane) : pane.SpawnedAt rect := by
  rw [Pane.spawnInner_ok started]
  exact ⟨⟨_, rfl⟩, rfl, rfl⟩

omit [RatioOps R] in
theorem Pane.SpawnedAt.fits [LawfulVt100 G] {pane : Pane G} {rect : Rect} (spawned : pane.SpawnedAt rect) :
    pane.FitsRect rect := by
  obtain ⟨scrollback, grid⟩ := spawned.grid
  rw [Pane.FitsRect, grid]
  exact LawfulVt100.size_new _ _ _

/-- A replacement fails and changes nothing, or spawns one pane in its place. -/
theorem replacePane_spawned (world : World) (spawns : Nat) (panes : PaneMap G) (layout : Layout R) (paneId : Nat)
    (launch : PaneLaunch) (shell : String) (tw th : Nat) (settings : Settings) (scrollback : Nat) :
    let outcome := replacePane world spawns panes layout paneId launch shell tw th settings scrollback
    (∃ message, outcome.result = .error message ∧ outcome.state = panes) ∨
      ∃ rect pane, outcome.result = .ok () ∧
        (layout.paneRects (terminalContentArea tw th settings))[paneId]? = some rect ∧
        Pane.SpawnedAt pane rect ∧ outcome.state = panes.insert paneId pane := by
  rcases replacePane_cases world spawns panes layout paneId launch shell tw th settings scrollback with
    failed | ⟨rect, cwd, env, pane, accepted, _, placed, started, replaced⟩
  · exact .inl failed
  · have spawned := Pane.spawnInner_spawnedAt started
    refine .inr ⟨rect, _, accepted, placed, ?_, replaced⟩
    exact ⟨spawned.grid, spawned.state, spawned.policy⟩

theorem insert_modify {α : Type} (m : IdMap α) (id : Nat) (v : α) (f : α → α) :
    (m.insert id v).modify id f = m.insert id (f v) := by
  apply Std.ExtTreeMap.ext_getElem?
  intro other
  rw [IdMap.getElem?_modify, IdMap.getElem?_insert, IdMap.getElem?_insert]
  split <;> rfl

theorem restartPane_cases (world : World) (layout : Layout R) (shell : String) (tw th : Nat)
    (settings : Settings) (scrollback : Nat) (acc : Restarts G) (id : Nat) :
    let next := restartPane world layout shell tw th settings scrollback acc id
    (next.panes = acc.panes ∧ next.restarted = acc.restarted) ∨
      ∃ rect pane, (layout.paneRects (terminalContentArea tw th settings))[id]? = some rect ∧ id ∈ acc.panes ∧
        Pane.SpawnedAt pane rect ∧ next.panes = acc.panes.insert id pane ∧
        next.restarted = acc.restarted ++ [id] := by
  simp only [restartPane]
  split
  · exact .inl ⟨rfl, rfl⟩
  split
  · exact .inl ⟨rfl, rfl⟩
  rename_i old found
  rcases replacePane_spawned world acc.spawns acc.panes layout id old.launch (old.initialShell.getD shell) tw th
      settings scrollback with ⟨message, failed, same⟩ | ⟨rect, pane, accepted, placed, spawned, replaced⟩
  · rw [failed, same]
    exact .inl ⟨rfl, rfl⟩
  · rw [accepted, replaced]
    refine .inr ⟨rect, { pane with name := old.name, initialShell := old.initialShell }, placed,
      IdMap.mem_of_getElem? found, ⟨spawned.grid, spawned.state, spawned.policy⟩, ?_, rfl⟩
    exact insert_modify _ _ _ _

/-- Restarting puts spawned panes in the places of old ones, one after another. -/
theorem restartPanes_invariant {world : World} {spawns : Nat} {panes : PaneMap G} {layout : Layout R}
    {policies : IdMap RestartPolicy} {state : RestartState} {shell : String} {tw th : Nat} {settings : Settings}
    {scrollback : Nat} (Inv : PaneMap G → List Nat → Prop) (initial : Inv panes [])
    (replaced : ∀ panes restarted id rect pane, Inv panes restarted → id ∈ panes →
      (layout.paneRects (terminalContentArea tw th settings))[id]? = some rect → Pane.SpawnedAt pane rect →
      Inv (panes.insert id pane) (restarted ++ [id])) :
    let outcome := restartPanes world spawns panes layout policies state shell tw th settings scrollback
    Inv outcome.panes outcome.restarted := by
  have steps (ids : List Nat) (acc : Restarts G) (before : Inv acc.panes acc.restarted) :
      Inv (ids.foldl (restartPane world layout shell tw th settings scrollback) acc).panes
        (ids.foldl (restartPane world layout shell tw th settings scrollback) acc).restarted := by
    induction ids generalizing acc with
    | nil => exact before
    | cons id ids ih =>
        apply ih
        rcases restartPane_cases world layout shell tw th settings scrollback acc id with
          ⟨samePanes, sameRestarted⟩ | ⟨rect, pane, placed, present, spawned, panes, restarted⟩
        · rwa [samePanes, sameRestarted]
        · rw [panes, restarted]
          exact replaced _ _ _ _ _ before present placed spawned
  exact steps _ _ initial

omit [Vt100 G] in
/-- What every spawn of a list guarantees holds of all panes it leaves. -/
theorem spawnEach_forall {entries : List (Nat × (Nat → Except String (Pane G)))} {spawns after : Nat}
    {panes out : PaneMap G} {P : Nat → Pane G → Prop}
    (accepted : spawnEach entries spawns panes = (.ok out, after))
    (spawned : ∀ entry ∈ entries, ∀ attempt pane, entry.2 attempt = .ok pane → P entry.1 pane)
    (before : ∀ id pane, panes[id]? = some pane → P id pane) {id : Nat} {pane : Pane G}
    (found : out[id]? = some pane) : P id pane := by
  induction entries generalizing spawns panes with
  | nil =>
      simp only [spawnEach, Prod.mk.injEq, Except.ok.injEq] at accepted
      rw [← accepted.1] at found
      exact before id pane found
  | cons entry entries ih =>
      obtain ⟨pid, spawn⟩ := entry
      simp only [spawnEach] at accepted
      cases result : spawn spawns with
      | error message => simp [result] at accepted
      | ok first =>
          simp only [result] at accepted
          refine ih accepted (fun entry member => spawned entry (List.mem_cons_of_mem _ member)) ?_
          intro other pane found
          rw [IdMap.getElem?_insert] at found
          split at found
          · rename_i here
            cases found
            rw [here]
            exact spawned _ List.mem_cons_self _ _ result
          · exact before other pane found

/-- A pane from which nothing has been read, on a grid of its rectangle if it has one. -/
structure Pane.Unread (rects : IdMap Rect) (id : Nat) (pane : Pane G) : Prop where
  state : pane.state = {}
  fits : ∀ rect, rects[id]? = some rect → pane.FitsRect rect

omit [RatioOps R] in
theorem spawnInner_unread [LawfulVt100 G] {world : World} {attempt : Nat} {shell : String} {launch : PaneLaunch}
    {rects : IdMap Rect} {id scrollback : Nat} {rect : Rect} {cwd : Option String} {env : EnvMap} {pane : Pane G}
    (placed : ∀ other, rects[id]? = some other → other = rect)
    (started : Pane.spawnInner world attempt shell launch (max rect.w 1) (max rect.h 1) scrollback cwd env =
      .ok pane) : pane.clipboardPolicy = {} ∧ pane.Unread rects id := by
  have spawned := Pane.spawnInner_spawnedAt started
  exact ⟨spawned.policy, spawned.state, fun other found => placed other found ▸ spawned.fits⟩

omit [RatioOps R] in
/-- Replaying history reads nothing. -/
theorem spawnSnapshotPane_unread [LawfulVt100 G] {format : SnapshotFormat R} {world : World} {rects : IdMap Rect}
    {shell : String} {scrollback attempt : Nat} {saved : PaneSnapshot} {pane : Pane G}
    (started : spawnSnapshotPane format world rects shell scrollback saved attempt = .ok pane) :
    pane.clipboardPolicy = {} ∧ pane.Unread rects saved.id := by
  simp only [spawnSnapshotPane] at started
  split at started
  · cases started
  rename_i fresh spawned
  obtain ⟨policy, state, fits⟩ : fresh.clipboardPolicy = {} ∧ fresh.Unread rects saved.id :=
    spawnInner_unread (fun other found => by rw [found]; rfl) spawned
  split at started
  · cases started
    exact ⟨policy, state, fits⟩
  split at started
  · cases started
  · cases started
    exact ⟨policy, state, fits⟩
  · rename_i rows decoded
    cases started
    let named : Pane G := { fresh with name := saved.name, initialShell := saved.shell }
    have grid := named.restoreScrollback_sameGrid (rows.map (·.text))
    have kept : (named.restoreScrollback (rows.map (·.text))).clipboardPolicy = named.clipboardPolicy ∧
        (named.restoreScrollback (rows.map (·.text))).state = named.state := by
      simp only [Pane.restoreScrollback]
      split <;> exact ⟨rfl, rfl⟩
    exact ⟨kept.1.trans policy, kept.2.trans state, fun rect found => Eq.trans grid (fits rect found)⟩

theorem spawnSnapshotPanes_unread [LawfulVt100 G] {format : SnapshotFormat R} {world : World} {spawns after : Nat}
    {layout : Layout R} {tab : TabSnapshot R} {shell : String} {tw th : Nat} {settings : Settings} {scrollback : Nat}
    {panes : PaneMap G}
    (spawned : spawnSnapshotPanes format world spawns layout tab shell tw th settings scrollback =
      (.ok panes, after)) {id : Nat} {pane : Pane G} (found : panes[id]? = some pane) :
    pane.clipboardPolicy = {} ∧ pane.Unread (layout.paneRects (terminalContentArea tw th settings)) id := by
  refine spawnEach_forall
    (P := fun id pane => pane.clipboardPolicy = {} ∧
      pane.Unread (layout.paneRects (terminalContentArea tw th settings)) id)
    spawned (fun entry member attempt pane started => ?_) (by simp) found
  obtain ⟨saved, _, rfl⟩ := List.mem_map.mp member
  exact spawnSnapshotPane_unread started

end Spawned

namespace Session
variable {R G : Type}

/-- A property of every tab, active or stored. -/
def AllTabs (P : Tab R G → Prop) (s : Session R G) : Prop := P s.tab ∧ ∀ tab ∈ s.tabMgr.tabs, P tab

theorem allTabs_iff {P : Tab R G → Prop} {s : Session R G} : s.AllTabs P ↔ ∀ tab ∈ s.tabs, P tab := by
  simp only [AllTabs, tabs, TabManager.withActive_eq, List.mem_insertIdx s.tabMgr.activeIdx_le, forall_eq_or_imp]

theorem AllTabs.mono {P Q : Tab R G → Prop} {s : Session R G} (weaker : ∀ tab, P tab → Q tab) (all : s.AllTabs P) :
    s.AllTabs Q :=
  ⟨weaker _ all.1, fun tab member => weaker _ (all.2 tab member)⟩

theorem allTabs_takeOut {P : Tab R G → Prop} {tabs : List (Tab R G)} (all : ∀ tab ∈ tabs, P tab) {idx nextId : Nat}
    (inRange : idx < tabs.length) :
    P (TabManager.takeOut tabs idx nextId inRange).2 ∧
      ∀ tab ∈ (TabManager.takeOut tabs idx nextId inRange).1.tabs, P tab :=
  ⟨all _ (List.getElem_mem inRange), fun tab member => all tab (List.mem_of_mem_eraseIdx member)⟩

variable [RatioOps R] [Vt100 G]

/-- A switch unpacks one of the tabs and refits its panes. -/
theorem goToTab_cases {world : World} {target : Nat} {s next : Session R G}
    (moved : s.goToTab world target = some next) :
    ∃ mgr tab, next = (s.enter mgr tab).resizeAll world ∧ mgr.count = s.tabMgr.count ∧
      (s.enter mgr tab).tabs = s.tabs ∧ ∀ P, s.AllTabs P → (s.enter mgr tab).AllTabs P := by
  obtain ⟨⟨mgr, tab⟩, switched, rfl⟩ := Option.map_eq_some_iff.mp moved
  simp only [TabManager.switchTo] at switched
  split at switched
  · cases switched
  · cases switched
    refine ⟨_, _, rfl, TabManager.withActive_length _ _, TabManager.takeOut_withActive .., fun P all => ?_⟩
    exact allTabs_takeOut (allTabs_iff.mp all) _

/-- Closing the active tab unpacks a stored one and refits its panes. -/
theorem closeTab_cases {world : World} {s next : Session R G} (closed : s.closeTab world = some next) :
    ∃ mgr tab, next = ((s.enter mgr tab).syncTabCount).resizeAll world ∧ mgr.count + 1 = s.tabMgr.count ∧
      (s.enter mgr tab).tabs = s.tabMgr.tabs ∧ ∀ P, s.AllTabs P → (s.enter mgr tab).AllTabs P := by
  obtain ⟨⟨mgr, tab⟩, switched, rfl⟩ := Option.map_eq_some_iff.mp closed
  simp only [TabManager.closeActive] at switched
  split at switched
  · cases switched
  · cases switched
    exact ⟨_, _, rfl, s.tabMgr.stored, TabManager.takeOut_withActive .., fun P all => allTabs_takeOut all.2 _⟩

omit [Vt100 G] in
/-- The one rectangle of a layout with one leaf. -/
private theorem fromGrid_head (area : Rect) (default : Nat × Rect) :
    ∃ rect, ((Layout.fromGrid 1 1 : Layout R).paneRects area).toList.head?.getD default = (0, rect) ∧
      ((Layout.fromGrid 1 1 : Layout R).paneRects area)[0]? = some rect := by
  have leaf : (0 : Nat) ∈ (Layout.fromGrid 1 1 : Layout R).paneRects area := by
    rw [Layout.mem_paneRects]
    exact List.mem_singleton_self 0
  cases entries : ((Layout.fromGrid 1 1 : Layout R).paneRects area).toList with
  | nil =>
      rw [Std.ExtTreeMap.toList_eq_nil_iff] at entries
      simp [entries] at leaf
  | cons entry rest =>
      obtain ⟨id, rect⟩ := entry
      have found : ((Layout.fromGrid 1 1 : Layout R).paneRects area)[id]? = some rect := by
        rw [← Std.ExtTreeMap.mem_toList_iff_getElem?_eq_some, entries]
        exact List.mem_cons_self
      have only : id = 0 := List.mem_singleton.mp (Layout.mem_paneRects.mp (IdMap.mem_of_getElem? found))
      exact ⟨rect, by rw [only]; rfl, only ▸ found⟩

/-- A new tab stores the current one and spawns one pane, or the last tab of the old
list is unpacked. -/
theorem newTab_cases (world : World) (name : Option String) (s : Session R G) :
    (∃ mgr tab, s.newTab world name =
        ((({ s with spawns := s.spawns + 1 }.enter mgr tab).syncTabCount).resizeAll world, false) ∧
      mgr.count = s.tabMgr.count ∧ (s.enter mgr tab).tabs = s.tabs ∧
      ∀ P, s.AllTabs P → (s.enter mgr tab).AllTabs P) ∨
    ∃ rect pane title, s.newTab world name =
        (({ s with spawns := s.spawns + 1 }.enter (s.tabMgr.createTab s.tab).1
          { name := title, layout := Layout.fromGrid 1 1, panes := (∅ : PaneMap G).insert 0 pane, activePane := 0
            broadcast := false }).syncTabCount, true) ∧
      ((Layout.fromGrid 1 1 : Layout R).paneRects
        { s with settings.tabCount := s.tabMgr.count + 1 }.contentArea)[0]? = some rect ∧
      ∃ fresh : Pane G, fresh.process = s.spawns ∧ Pane.SpawnedAt fresh rect ∧
        pane = (fresh.setScrollbackBudget s.scrollbackBytes).setClipboardPolicy s.clipboardPolicy := by
  obtain ⟨rect, first, placed⟩ := fromGrid_head (R := R) { s with settings.tabCount := s.tabMgr.count + 1 }.contentArea
    (0, { s with settings.tabCount := s.tabMgr.count + 1 }.contentArea)
  have created : (s.tabMgr.createTab s.tab).1.count = s.tabMgr.count + 1 := rfl
  simp only [newTab, enter, syncTabCount, contentArea, created] at first placed ⊢
  simp only [first]
  split
  · rename_i pane started
    exact .inr ⟨rect, _, _, rfl, placed, pane, by rw [Pane.spawnInner_ok started],
      Pane.spawnInner_spawnedAt started, rfl⟩
  · simp only [TabManager.closeActive_createTab]
    refine .inl ⟨_, _, rfl, TabManager.withActive_length _ _, TabManager.takeOut_withActive .., fun P all => ?_⟩
    exact allTabs_takeOut (allTabs_iff.mp all) _

/-! ## Replaced processes -/

theorem replacePane_cases (world : World) (target : Nat) (launch : PaneLaunch) (shell : String) (s : Session R G) :
    let outcome := s.replacePane world target launch shell
    (∃ message, outcome.2 = .error message ∧ outcome.1 = { s with spawns := outcome.1.spawns }) ∨
      ∃ rect pane, outcome.2 = .ok () ∧ (s.tab.layout.paneRects s.contentArea)[target]? = some rect ∧
        Pane.SpawnedAt pane rect ∧
        outcome.1 = { s with tab.panes := s.tab.panes.insert target pane, spawns := outcome.1.spawns } := by
  simp only [Session.replacePane]
  rcases replacePane_spawned world s.spawns s.tab.panes s.tab.layout target launch shell s.tw s.th s.settings
      s.scrollback with ⟨message, failed, same⟩ | ⟨rect, pane, accepted, placed, spawned, replaced⟩
  · exact .inl ⟨message, failed, by rw [same]⟩
  · exact .inr ⟨rect, pane, accepted, placed, spawned, by rw [replaced]⟩

/-- A respawn changes nothing but the count of spawns, or spawns a pane under the focus. -/
theorem respawn_cases (world : World) (s : Session R G) :
    s.respawn world = { s with spawns := (s.respawn world).spawns } ∨
      ∃ rect pane, s.tab.activePane ∈ s.tab.panes ∧
        (s.tab.layout.paneRects s.contentArea)[s.tab.activePane]? = some rect ∧ Pane.SpawnedAt pane rect ∧
        s.respawn world =
          { s with tab.panes := s.tab.panes.insert s.tab.activePane pane, spawns := (s.respawn world).spawns } := by
  simp only [respawn]
  split
  · exact .inl rfl
  rename_i old found
  split
  · exact .inl rfl
  rcases s.replacePane_cases world s.tab.activePane old.launch (old.initialShell.getD s.shell) with
    ⟨message, failed, same⟩ | ⟨rect, pane, accepted, placed, spawned, replaced⟩
  · rw [failed]
    exact .inl same
  · rw [accepted]
    refine .inr ⟨rect, { pane with name := old.name, initialShell := old.initialShell.or pane.initialShell },
      IdMap.mem_of_getElem? found, placed, ⟨spawned.grid, spawned.state, spawned.policy⟩, ?_⟩
    rw [replaced]
    simp only [setPanes, insert_modify]

end Session

end Ezpn
