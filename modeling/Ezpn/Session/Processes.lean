import Ezpn.Session.Tabs

/-!
# Process numbers

Every spawn takes the next process number, so a process that a later spawn made is
never one that was there before. The lemmas here follow the numbers through the
operations that spawn.
-/

set_option autoImplicit false

namespace Ezpn

/-- The pane still shows the same process, in the same synchronized update if any. -/
structure Pane.Steady {G : Type} (pane later : Pane G) : Prop where
  process : later.process = pane.process
  alive : later.alive = pane.alive
  window : later.state.syncOpenedAt = pane.state.syncOpenedAt

theorem Pane.Steady.inSync {G : Type} {pane later : Pane G} (steady : pane.Steady later) : later.inSync = pane.inSync := by
  simp only [Pane.inSync, steady.window]

theorem Pane.Steady.refl {G : Type} (pane : Pane G) : pane.Steady pane := ⟨rfl, rfl, rfl⟩

theorem Pane.Steady.trans {G : Type} (a b c : Pane G) (first : a.Steady b) (second : b.Steady c) : a.Steady c :=
  ⟨second.process.trans first.process, second.alive.trans first.alive, second.window.trans first.window⟩

namespace PaneMap
variable {G : Type}

/-- The processes are distinct and were made by one of the first spawns. -/
structure Numbered (spawns : Nat) (panes : PaneMap G) : Prop where
  below : ∀ (id : Nat) (pane : Pane G), panes[id]? = some pane → pane.process < spawns
  distinct : ∀ (id other : Nat) (pane twin : Pane G), panes[id]? = some pane → panes[other]? = some twin →
    pane.process = twin.process → id = other

theorem Numbered.empty (spawns : Nat) : Numbered spawns (∅ : PaneMap G) :=
  ⟨fun _ _ found => by simp at found, fun _ _ _ _ found => by simp at found⟩

theorem Numbered.mono {spawns later : Nat} {panes : PaneMap G} (numbered : panes.Numbered spawns)
    (le : spawns ≤ later) : panes.Numbered later :=
  ⟨fun id pane found => (numbered.below id pane found).trans_le le, numbered.distinct⟩

/-- Between two counts of spawns the listed places got fresh processes; the other panes are related
to those they had. -/
structure Renewed (Rel : Pane G → Pane G → Prop) (spawns later : Nat) (fresh : List Nat) (before after : PaneMap G) :
    Prop where
  le : spawns ≤ later
  numbered : before.Numbered spawns → after.Numbered later
  pane : ∀ (id : Nat) (pane : Pane G), after[id]? = some pane →
    (id ∉ fresh ∧ ∃ old, before[id]? = some old ∧ Rel old pane) ∨ (id ∈ fresh ∧ spawns ≤ pane.process)

section Renewed
variable {Rel : Pane G → Pane G → Prop} {spawns mid later : Nat} {before between after : PaneMap G}
  {fresh added : List Nat}

theorem Evolve.renewed (evolve : Evolve Rel before after) (same : ∀ a b, Rel a b → b.process = a.process)
    (le : spawns ≤ later) : Renewed Rel spawns later [] before after := by
  refine ⟨le, fun numbered => ⟨fun id pane found => ?_, fun id other pane twin found foundTwin equal => ?_⟩,
    fun id pane found => .inl ⟨List.not_mem_nil, evolve id pane found⟩⟩
  · obtain ⟨old, foundOld, related⟩ := evolve id pane found
    rw [same _ _ related]
    exact (numbered.below id old foundOld).trans_le le
  · obtain ⟨old, foundOld, related⟩ := evolve id pane found
    obtain ⟨oldTwin, foundOldTwin, relatedTwin⟩ := evolve other twin foundTwin
    rw [same _ _ related, same _ _ relatedTwin] at equal
    exact numbered.distinct id other old oldTwin foundOld foundOldTwin equal

theorem Renewed.trans (same : ∀ a b, Rel a b → b.process = a.process) (chain : ∀ a b c, Rel a b → Rel b c → Rel a c)
    (first : Renewed Rel spawns mid fresh before between) (second : Renewed Rel mid later added between after) :
    Renewed Rel spawns later (fresh ++ added) before after := by
  refine ⟨first.le.trans second.le, fun numbered => second.numbered (first.numbered numbered), fun id pane found => ?_⟩
  rcases second.pane id pane found with ⟨kept, old, foundOld, related⟩ | ⟨new, above⟩
  · rcases first.pane id old foundOld with ⟨keptFirst, older, foundOlder, relatedFirst⟩ | ⟨newFirst, above⟩
    · exact .inl ⟨by simp [kept, keptFirst], older, foundOlder, chain _ _ _ relatedFirst related⟩
    · exact .inr ⟨List.mem_append_left _ newFirst, by rw [same _ _ related]; exact above⟩
  · exact .inr ⟨List.mem_append_right _ new, first.le.trans above⟩

/-- A fresh process in one place. -/
theorem renewed_insert {id : Nat} {pane : Pane G} (reflexive : ∀ a, Rel a a) (process : pane.process = spawns) :
    Renewed Rel spawns (spawns + 1) [id] before (Std.ExtTreeMap.insert before id pane) := by
  refine ⟨Nat.le_succ _, fun numbered => ⟨fun other found => ?_, fun other third found twin => ?_⟩,
    fun other found => ?_⟩
  · intro here
    rw [IdMap.getElem?_insert] at here
    split at here
    · cases here
      omega
    · have := numbered.below other found here
      omega
  · intro foundOther foundThird equal
    rw [IdMap.getElem?_insert] at foundOther foundThird
    split at foundOther <;> split at foundThird
    · rename_i here there
      exact here.trans there.symm
    · cases foundOther
      have := numbered.below third twin foundThird
      omega
    · cases foundThird
      have := numbered.below other found foundOther
      omega
    · exact numbered.distinct other third found twin foundOther foundThird equal
  · intro foundOther
    rw [IdMap.getElem?_insert] at foundOther
    split at foundOther
    · rename_i here
      cases foundOther
      exact .inr ⟨by simp [here], process.ge⟩
    · rename_i elsewhere
      exact .inl ⟨by simpa [eq_comm] using elsewhere, found, foundOther, reflexive found⟩

/-- A new pane may still be changed as long as it shows its process. -/
theorem Renewed.modify_fresh {id : Nat} {finish : Pane G → Pane G} (renewed : Renewed Rel spawns later fresh before after)
    (new : id ∈ fresh) (same : ∀ pane, (finish pane).process = pane.process) :
    Renewed Rel spawns later fresh before (Std.ExtTreeMap.modify after id finish) := by
  have evolve : Evolve (fun old pane => pane.process = old.process) after (Std.ExtTreeMap.modify after id finish) :=
    .modify (fun _ => rfl) fun pane _ => same pane
  have numbered := (evolve.renewed (fun _ _ same => same) (Nat.le_refl later)).numbered
  refine ⟨renewed.le, fun before => numbered (renewed.numbered before), fun other pane found => ?_⟩
  rw [IdMap.getElem?_modify] at found
  split at found
  · rename_i here
    obtain ⟨old, foundOld, rfl⟩ := Option.map_eq_some_iff.mp found
    rcases renewed.pane other old foundOld with ⟨kept, _⟩ | ⟨_, above⟩
    · exact absurd (here ▸ new) kept
    · exact .inr ⟨here ▸ new, by rw [same]; exact above⟩
  · exact renewed.pane other pane found

end Renewed

end PaneMap

/-! ## Operations that spawn -/

section Operations
variable {R G : Type} [RatioOps R] [Vt100 G] {Rel : Pane G → Pane G → Prop}

theorem Pane.resize_steady (world : World) (cols rows : Nat) (pane : Pane G) :
    pane.Steady (pane.resize world cols rows) := by
  simp only [resize]
  repeat' split
  all_goals exact ⟨rfl, rfl, rfl⟩

theorem resizeAll_steady (world : World) (panes : PaneMap G) (layout : Layout R) (tw th : Nat) (settings : Settings) :
    PaneMap.Evolve Pane.Steady panes (resizeAll world panes layout tw th settings) := by
  refine .map fun id pane => ?_
  split
  · exact pane.resize_steady world _ _
  · exact .refl pane

/-- A split gives the next leaf a fresh process, or changes no pane. -/
theorem doSplit_renewed (world : World) (spawns : Nat) (layout : Layout R) (panes : PaneMap G) (active : Nat)
    (dir : Direction) (shell : String) (tw th : Nat) (settings : Settings) (scrollback : Nat) :
    let outcome := doSplit world spawns layout panes active dir shell tw th settings scrollback
    PaneMap.Renewed Pane.Steady spawns outcome.spawns (if outcome.result.isOk then [layout.nextId] else []) panes
      outcome.state.2 := by
  have counted : spawns ≤ (doSplit world spawns layout panes active dir shell tw th settings scrollback).spawns := by
    simp only [doSplit]
    repeat' split
    all_goals simp
  rcases doSplit_cases world spawns layout panes active dir shell tw th settings scrollback with
    ⟨message, failed, same⟩ | ⟨rect, cwd, pane, accepted, _, _, _, _, _, started, spawned, next⟩
  · simp only [failed, same]
    exact PaneMap.Evolve.renewed (.refl .refl panes) (fun _ _ steady => steady.process) counted
  · have process : pane.process = spawns := by rw [Pane.spawnInner_ok started]
    have inserted : PaneMap.Renewed Pane.Steady spawns (spawns + 1) [layout.nextId] panes (panes.insert layout.nextId pane) :=
      PaneMap.renewed_insert Pane.Steady.refl process
    have fitted := (resizeAll_steady world (panes.insert layout.nextId pane) (layout.split active dir).1 tw th
      settings).renewed (fun _ _ steady => steady.process) (Nat.le_refl (spawns + 1))
    have renewed := inserted.trans (fun _ _ steady => steady.process) Pane.Steady.trans fitted
    simp only [accepted, next, spawned]
    exact renewed

theorem replacePane_spawns (world : World) (spawns : Nat) (panes : PaneMap G) (layout : Layout R) (paneId : Nat)
    (launch : PaneLaunch) (shell : String) (tw th : Nat) (settings : Settings) (scrollback : Nat) :
    spawns ≤ (replacePane world spawns panes layout paneId launch shell tw th settings scrollback).spawns := by
  simp only [replacePane]
  repeat' split
  all_goals simp

/-- A replacement puts a fresh process in the pane's place, or changes no pane. -/
theorem replacePane_renewed (world : World) (spawns : Nat) (panes : PaneMap G) (layout : Layout R) (paneId : Nat)
    (launch : PaneLaunch) (shell : String) (tw th : Nat) (settings : Settings) (scrollback : Nat) :
    let outcome := replacePane world spawns panes layout paneId launch shell tw th settings scrollback
    PaneMap.Renewed Pane.Steady spawns outcome.spawns (if outcome.result.isOk then [paneId] else []) panes
      outcome.state := by
  have counted := replacePane_spawns world spawns panes layout paneId launch shell tw th settings scrollback
  rcases replacePane_cases world spawns panes layout paneId launch shell tw th settings scrollback with
    ⟨message, failed, unchanged⟩ | ⟨rect, cwd, env, pane, accepted, spawned, _, started, replaced⟩
  · simp only [failed, unchanged]
    exact PaneMap.Evolve.renewed (.refl .refl panes) (fun _ _ steady => steady.process) counted
  · have process : pane.process = spawns := by rw [Pane.spawnInner_ok started]
    simp only [accepted, replaced, spawned]
    exact PaneMap.renewed_insert Pane.Steady.refl process

theorem restartPane_renewed (world : World) (layout : Layout R) (shell : String) (tw th : Nat) (settings : Settings)
    (scrollback : Nat) (acc : Restarts G) (id : Nat) :
    let next := restartPane world layout shell tw th settings scrollback acc id
    ∃ fresh, next.restarted = acc.restarted ++ fresh ∧
      PaneMap.Renewed Pane.Steady acc.spawns next.spawns fresh acc.panes next.panes := by
  have unchanged : PaneMap.Renewed Pane.Steady acc.spawns acc.spawns [] acc.panes acc.panes :=
    PaneMap.Evolve.renewed (.refl .refl _) (fun _ _ steady => steady.process) (Nat.le_refl _)
  simp only [restartPane]
  split
  · exact ⟨[], (List.append_nil _).symm, unchanged⟩
  split
  · exact ⟨[], (List.append_nil _).symm, unchanged⟩
  rename_i old found
  have renewed := replacePane_renewed world acc.spawns acc.panes layout id old.launch (old.initialShell.getD shell) tw
    th settings scrollback
  split
  · rename_i message failed
    simp only [failed] at renewed
    exact ⟨[], (List.append_nil _).symm, renewed⟩
  · rename_i accepted
    simp only [accepted] at renewed
    exact ⟨[id], rfl, renewed.modify_fresh (List.mem_singleton_self id) fun _ => rfl⟩

/-- Restarting gives each restarted pane a fresh process. -/
theorem restartPanes_renewed (world : World) (spawns : Nat) (panes : PaneMap G) (layout : Layout R)
    (policies : IdMap RestartPolicy) (state : RestartState) (shell : String) (tw th : Nat) (settings : Settings)
    (scrollback : Nat) :
    let outcome := restartPanes world spawns panes layout policies state shell tw th settings scrollback
    PaneMap.Renewed Pane.Steady spawns outcome.spawns outcome.restarted panes outcome.panes := by
  have steps (ids : List Nat) (acc : Restarts G)
      (before : PaneMap.Renewed Pane.Steady spawns acc.spawns acc.restarted panes acc.panes) :
      let next := ids.foldl (restartPane world layout shell tw th settings scrollback) acc
      PaneMap.Renewed Pane.Steady spawns next.spawns next.restarted panes next.panes := by
    induction ids generalizing acc with
    | nil => exact before
    | cons id ids ih =>
        apply ih
        obtain ⟨fresh, restarted, renewed⟩ := restartPane_renewed world layout shell tw th settings scrollback acc id
        rw [restarted]
        exact before.trans (fun _ _ steady => steady.process) Pane.Steady.trans renewed
  exact steps _ _ (PaneMap.Evolve.renewed (.refl .refl panes) (fun _ _ steady => steady.process) (Nat.le_refl spawns))

/-! ## Whole pane maps -/

omit [Vt100 G] in
/-- Spawns that keep the number of their attempt leave the processes distinct. -/
theorem spawnEach_numbered {entries : List (Nat × (Nat → Except String (Pane G)))} {spawns after : Nat}
    {panes out : PaneMap G} (spawned : spawnEach entries spawns panes = (.ok out, after))
    (attempts : ∀ entry ∈ entries, ∀ attempt pane, entry.2 attempt = .ok pane → pane.process = attempt) :
    PaneMap.Renewed Pane.Steady spawns after (entries.map (·.1)) panes out ∧ after = spawns + entries.length := by
  induction entries generalizing spawns panes with
  | nil =>
      cases spawned
      exact ⟨PaneMap.Evolve.renewed (.refl .refl _) (fun _ _ steady => steady.process) (Nat.le_refl _), rfl⟩
  | cons entry entries ih =>
      obtain ⟨pid, spawn⟩ := entry
      simp only [spawnEach] at spawned
      cases result : spawn spawns with
      | error message => simp [result] at spawned
      | ok pane =>
          simp only [result] at spawned
          have first : PaneMap.Renewed Pane.Steady spawns (spawns + 1) [pid] panes (panes.insert pid pane) :=
            PaneMap.renewed_insert .refl (attempts _ List.mem_cons_self _ _ result)
          obtain ⟨rest, counted⟩ := ih spawned fun entry member => attempts entry (List.mem_cons_of_mem _ member)
          refine ⟨first.trans (fun _ _ steady => steady.process) Pane.Steady.trans rest, ?_⟩
          rw [counted, List.length_cons]
          omega

omit [RatioOps R] in
theorem spawnSnapshotPane_process {format : SnapshotFormat R} {world : World} {rects : IdMap Rect} {shell : String}
    {scrollback attempt : Nat} {saved : PaneSnapshot} {pane : Pane G}
    (started : spawnSnapshotPane format world rects shell scrollback saved attempt = .ok pane) :
    pane.process = attempt := by
  simp only [spawnSnapshotPane] at started
  split at started
  · cases started
  rename_i fresh spawned
  have process : fresh.process = attempt := by rw [Pane.spawnInner_ok spawned]
  split at started
  · cases started
    exact process
  split at started
  · cases started
  · cases started
    exact process
  · rename_i rows decoded
    cases started
    simp only [Pane.restoreScrollback]
    split <;> exact process

/-- All processes are distinct and from a stretch of spawns. -/
structure PaneMap.Spawned (first later : Nat) (panes : PaneMap G) : Prop where
  numbered : panes.Numbered later
  from_first : ∀ (id : Nat) (pane : Pane G), panes[id]? = some pane → first ≤ pane.process

omit [Vt100 G] in
theorem PaneMap.Spawned.mono {low first later last : Nat} {panes : PaneMap G} (spawned : panes.Spawned first later)
    (earlier : low ≤ first) (le : later ≤ last) : panes.Spawned low last :=
  ⟨spawned.numbered.mono le, fun id pane found => earlier.trans (spawned.from_first id pane found)⟩

omit [Vt100 G] in
theorem spawnEach_spawned {entries : List (Nat × (Nat → Except String (Pane G)))} {spawns after : Nat}
    {out : PaneMap G} (spawned : spawnEach entries spawns ∅ = (.ok out, after))
    (attempts : ∀ entry ∈ entries, ∀ attempt pane, entry.2 attempt = .ok pane → pane.process = attempt) :
    out.Spawned spawns after ∧ after = spawns + entries.length := by
  obtain ⟨renewed, counted⟩ := spawnEach_numbered spawned attempts
  refine ⟨⟨renewed.numbered (.empty spawns), fun id pane found => ?_⟩, counted⟩
  rcases renewed.pane id pane found with ⟨_, old, foundOld, _⟩ | ⟨_, above⟩
  · simp at foundOld
  · exact above

theorem spawnSnapshotPanes_spawned {format : SnapshotFormat R} {world : World} {spawns after : Nat} {layout : Layout R}
    {tab : TabSnapshot R} {shell : String} {tw th : Nat} {settings : Settings} {scrollback : Nat} {panes : PaneMap G}
    (spawned : spawnSnapshotPanes format world spawns layout tab shell tw th settings scrollback =
      (.ok panes, after)) : panes.Spawned spawns after ∧ spawns ≤ after := by
  obtain ⟨made, counted⟩ := spawnEach_spawned spawned fun entry member attempt pane started => by
    obtain ⟨saved, _, rfl⟩ := List.mem_map.mp member
    exact spawnSnapshotPane_process started
  exact ⟨made, by omega⟩

theorem spawnLayoutPanes_spawned {world : World} {spawns after : Nat} {layout : Layout R} {launches : IdMap PaneLaunch}
    {shell : String} {tw th : Nat} {settings : Settings} {scrollback : Nat} {panes : PaneMap G}
    (spawned : spawnLayoutPanes world spawns layout launches shell tw th settings scrollback = (.ok panes, after)) :
    panes.Spawned spawns after := by
  simp only [spawnLayoutPanes, Prod.mk.injEq] at spawned
  obtain ⟨started, rfl⟩ := spawned
  obtain ⟨made, counted⟩ := spawnEach_spawned (Prod.ext started rfl) fun entry member attempt pane started => by
    obtain ⟨task, _, rfl⟩ := List.mem_map.mp member
    rw [Pane.spawnInner_ok started]
  exact made.mono (Nat.le_refl _) (by rw [counted, List.length_map])

theorem spawnProjectPanes_spawned {world : World} {spawns after : Nat} {proj : ResolvedProject R} {shell : String}
    {tw th : Nat} {settings : Settings} {scrollback : Nat} {panes : PaneMap G}
    (spawned : spawnProjectPanes world spawns proj shell tw th settings scrollback = (.ok panes, after)) :
    panes.Spawned spawns after :=
  (spawnEach_spawned spawned fun entry member attempt pane started => by
    obtain ⟨⟨id, rect⟩, _, rfl⟩ := List.mem_map.mp member
    simp only [spawnProjectPane] at started
    split at started
    · cases started
    · rename_i fresh made
      cases started
      rw [Pane.spawnInner_ok made]).1

/-- The tabs of a restored session are spawned one after another. -/
theorem spawnTabs_spawned {format : SnapshotFormat R} {world : World} {shell : String} {tw th : Nat}
    {settings : Settings} {scrollback : Nat} {ready : Nat → Option (PaneMap G)} {idx first spawns after : Nat}
    {saved : List (TabSnapshot R)} {tabs : List (Tab R G)} (earlier : first ≤ spawns)
    (had : ∀ idx panes, ready idx = some panes → panes.Spawned first spawns)
    (spawned : spawnTabs format world shell tw th settings scrollback ready idx spawns saved = (.ok tabs, after)) :
    spawns ≤ after ∧ ∀ tab ∈ tabs, tab.panes.Spawned first after := by
  induction saved generalizing idx spawns after tabs with
  | nil =>
      cases spawned
      exact ⟨Nat.le_refl _, by simp⟩
  | cons tab rest ih =>
      simp only [spawnTabs] at spawned
      split at spawned
      · cases spawned
      rename_i panes next result
      have here : panes.Spawned first next ∧ spawns ≤ next := by
        split at result
        · rename_i found
          cases result
          exact ⟨had _ _ found, Nat.le_refl _⟩
        · obtain ⟨made, le⟩ := spawnSnapshotPanes_spawned result
          exact ⟨made.mono earlier (Nat.le_refl _), le⟩
      split at spawned
      · cases spawned
      rename_i later last restResult
      cases spawned
      obtain ⟨le, others⟩ := ih (earlier.trans here.2)
        (fun idx panes found => (had idx panes found).mono (Nat.le_refl _) here.2) restResult
      refine ⟨here.2.trans le, fun tab member => ?_⟩
      rcases List.mem_cons.mp member with rfl | member
      · exact here.1.mono (Nat.le_refl _) le
      · exact others tab member

/-! ## Counting spawns -/

omit [RatioOps R] [Vt100 G] in
theorem spawnEach_spawns (entries : List (Nat × (Nat → Except String (Pane G)))) (spawns : Nat) (panes : PaneMap G) :
    spawns ≤ (spawnEach entries spawns panes).2 := by
  induction entries generalizing spawns panes with
  | nil => exact Nat.le_refl _
  | cons entry entries ih =>
      obtain ⟨pid, spawn⟩ := entry
      simp only [spawnEach]
      split
      · exact Nat.le_succ _
      · exact (Nat.le_succ _).trans (ih _ _)

/-- A tab that is ready spawns nothing. -/
theorem ready_spawns (format : SnapshotFormat R) (world : World) (shell : String) (tw th : Nat) (settings : Settings)
    (scrollback : Nat) (ready : Nat → Option (PaneMap G)) (idx spawns : Nat) (tab : TabSnapshot R) :
    spawns ≤ (match ready idx with
      | some panes => (Except.ok panes, spawns)
      | none => spawnSnapshotPanes format world spawns tab.layout tab shell tw th settings scrollback).2 := by
  split
  · exact Nat.le_refl _
  · exact spawnEach_spawns _ _ _

theorem spawnTabs_spawns (format : SnapshotFormat R) (world : World) (shell : String) (tw th : Nat)
    (settings : Settings) (scrollback : Nat) (ready : Nat → Option (PaneMap G)) (idx spawns : Nat)
    (saved : List (TabSnapshot R)) :
    spawns ≤ (spawnTabs format world shell tw th settings scrollback ready idx spawns saved).2 := by
  induction saved generalizing idx spawns with
  | nil => exact Nat.le_refl _
  | cons tab rest ih =>
      have here := ready_spawns format world shell tw th settings scrollback ready idx spawns tab
      simp only [spawnTabs]
      split
      · rename_i message later result
        exact le_of_le_of_eq here (congrArg Prod.snd result)
      · rename_i panes later result
        have first : spawns ≤ later := le_of_le_of_eq here (congrArg Prod.snd result)
        have others := ih (idx + 1) later
        split
        · rename_i rest
          rw [rest] at others
          exact first.trans others
        · rename_i rest
          rw [rest] at others
          exact first.trans others

end Operations

/-! ## Sessions -/

namespace Session
variable {R G : Type} [RatioOps R] [Vt100 G]

/-- Within each tab the processes are distinct, and the session has counted their spawns. -/
def Numbered (s : Session R G) : Prop := s.AllTabs fun tab => tab.panes.Numbered s.spawns

omit [RatioOps R] in
theorem configureAll_spawned {config : LaunchConfig} {first later : Nat} {panes : PaneMap G}
    (spawned : panes.Spawned first later) : (configureAll config panes).Spawned first later := by
  have evolve : PaneMap.Evolve (fun old pane => pane.process = old.process) panes (configureAll config panes) :=
    .map fun id pane => by
      simp only [Pane.setScrollbackBudget, Pane.setClipboardPolicy]
      split <;> rfl
  refine ⟨(evolve.renewed (fun _ _ same => same) (Nat.le_refl later)).numbered spawned.numbered,
    fun id pane found => ?_⟩
  obtain ⟨old, foundOld, same⟩ := evolve id pane found
  rw [same]
  exact spawned.from_first id old foundOld

/-- A successful load replaces every process. -/
theorem load_spawned {format : SnapshotFormat R} {world : World} {path : String} {s next : Session R G}
    (loaded : s.load format world path = (next, .ok ())) :
    next.AllTabs fun tab => tab.panes.Spawned s.spawns next.spawns := by
  simp only [load] at loaded
  split at loaded
  · cases loaded
  rename_i snapshot read
  split at loaded
  · cases loaded
  rename_i tabs spawns spawned
  split at loaded
  · rename_i nonempty
    cases loaded
    have all := (spawnTabs_spawned (Nat.le_refl _) (fun _ _ found => by cases found) spawned).2
    exact allTabs_takeOut all _
  · cases loaded

theorem newTab_spawns (world : World) (name : Option String) (s : Session R G) :
    s.spawns ≤ (s.newTab world name).1.spawns := by
  rcases s.newTab_cases world name with ⟨mgr, tab, failed, _⟩ | ⟨rect, pane, title, opened, _⟩
  · rw [failed]
    exact Nat.le_succ _
  · rw [opened]
    exact Nat.le_succ _

/-- A failed load has tried some spawns. -/
theorem load_spawns (format : SnapshotFormat R) (world : World) (path : String) (s : Session R G) :
    s.spawns ≤ (s.load format world path).1.spawns := by
  simp only [load]
  split
  · exact Nat.le_refl _
  rename_i snapshot read
  have counted := spawnTabs_spawns (G := G) format world snapshot.shell s.tw s.th snapshot.settings snapshot.scrollback
    (fun _ => none) 0 s.spawns snapshot.tabs
  simp only [WorkspaceSnapshot.settings] at counted
  split
  · rename_i result
    rw [result] at counted
    exact counted
  · rename_i result
    rw [result] at counted
    split <;> exact counted

theorem boot_numbered {format : SnapshotFormat R} {world : World} {config : LaunchConfig} {startup : Startup R}
    {s : Session R G} (booted : boot format world config startup = .ok s) : s.Numbered := by
  have layout (layout : Layout R) (launches : IdMap PaneLaunch) (s : Session R G)
      (booted : bootLayout world config layout launches = .ok s) : s.Numbered := by
    simp only [bootLayout] at booted
    split at booted
    · cases booted
    · rename_i panes spawns spawned
      cases booted
      exact ⟨(configureAll_spawned (spawnLayoutPanes_spawned spawned)).numbered, by simp [LaunchConfig.session]⟩
  cases startup with
  | restore path =>
      simp only [boot, bootSnapshot] at booted
      split at booted
      · cases booted
      rename_i snapshot read
      split at booted
      · cases booted
      rename_i saved chosen
      split at booted
      · cases booted
      rename_i panes spawns active
      have made := spawnSnapshotPanes_spawned active
      split at booted
      · cases booted
      rename_i tabs after spawned
      split at booted
      · rename_i nonempty
        cases booted
        have all := (spawnTabs_spawned (Nat.zero_le _) (fun idx panes found => by
          split at found
          · cases found
            exact configureAll_spawned made.1
          · cases found) spawned).2
        exact (allTabs_takeOut (fun tab member => (all tab member).numbered) _)
      · cases booted
  | project proj =>
      simp only [boot, bootProject] at booted
      split at booted
      · cases booted
      · rename_i panes spawns spawned
        cases booted
        exact ⟨(configureAll_spawned (spawnProjectPanes_spawned spawned)).numbered, by simp [LaunchConfig.session]⟩
  | procfile contents =>
      simp only [boot] at booted
      split at booted
      · exact layout _ _ s booted
      · exact layout _ _ s booted
  | grid rows cols commands => exact layout _ _ s booted
  | spec spec commands =>
      simp only [boot] at booted
      split at booted
      · cases booted
      · exact layout _ _ s booted

end Session

end Ezpn
