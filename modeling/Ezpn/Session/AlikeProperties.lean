import Ezpn.Project.Sensitivity
import Ezpn.Session.Alike
import Ezpn.Session.Tabs

/-!
# Sessions under different environments

Operations of two sessions with alike panes go the same way in both, and a
snapshot shows nothing of what sensitive panes were launched with.
-/

set_option autoImplicit false

namespace Ezpn

section Operations
variable {R G : Type} [RatioOps R] [Vt100 G] {w w' : World} {panes others : PaneMap G}

omit [RatioOps R] in
/-- A program that starts in both makes two panes that differ in their origin. -/
theorem Pane.spawnInner_pair {shell other : String} (starts : w.StartAlike w' shell other) (attempt : Nat)
    (launch launch' : PaneLaunch) (cols rows scrollback : Nat) (cwd cwd' : Option String) (env env' : EnvMap) :
    (∃ message message', (Pane.spawnInner w attempt shell launch cols rows scrollback cwd env : Except String (Pane G)) =
        .error message ∧ (Pane.spawnInner w' attempt other launch' cols rows scrollback cwd' env' :
          Except String (Pane G)) = .error message') ∨
      ∃ pane : Pane G, Pane.spawnInner w attempt shell launch cols rows scrollback cwd env = .ok pane ∧
        Pane.spawnInner w' attempt other launch' cols rows scrollback cwd' env' =
          .ok (pane.withOrigin { launch := launch', name := none, cwd := cwd', env := env', shell := none }) ∧
        pane.origin = { launch, name := none, cwd, env, shell := none } := by
  simp only [Pane.spawnInner]
  split
  · exact .inl ⟨_, _, rfl, rfl⟩
  have both := starts attempt
  cases fails : w.spawnError attempt shell with
  | none =>
      cases failsOther : w'.spawnError attempt other with
      | none => exact .inr ⟨_, rfl, rfl, rfl⟩
      | some message => simp [fails, failsOther] at both
  | some message =>
      cases failsOther : w'.spawnError attempt other with
      | none => simp [fails, failsOther] at both
      | some message' => exact .inl ⟨_, _, rfl, rfl⟩

theorem resizeAll_alike (same : w.Alike w') (alike : panes.Alike others) (layout : Layout R) (tw th : Nat)
    (settings : Settings) :
    (resizeAll w panes layout tw th settings).Alike (resizeAll w' others layout tw th settings) := by
  refine alike.map fun id => ?_
  split
  · exact Pane.resize_oblivious same _ _
  · exact .id

omit [RatioOps R] in
theorem resizeZoomedPane_alike (same : w.Alike w') (alike : panes.Alike others) (id tw th : Nat) (settings : Settings) :
    (resizeZoomedPane w panes id tw th settings).Alike (resizeZoomedPane w' others id tw th settings) := by
  simp only [resizeZoomedPane]
  rcases alike.cases id with ⟨none, noneOther⟩ | ⟨pane, other, found, foundOther, pair⟩
  · rw [none, noneOther]
    exact alike
  · rw [found, foundOther]
    exact alike.insert id ((Pane.resize_oblivious same _ _).alike pair)

/-- Both splits end in the same way, when a split that is made inherits the same directory. -/
theorem doSplit_alike (same : w.Alike w') {shell : String} (starts : w.StartAlike w' shell shell)
    (alike : panes.Alike others) (spawns : Nat) (layout : Layout R) (active : Nat) (dir : Direction) (tw th : Nat)
    (settings : Settings) (scrollback : Nat)
    (cwd : (doSplit w spawns layout panes active dir shell tw th settings scrollback).result = .ok () →
      panes[active]?.bind (·.liveCwd w) = others[active]?.bind (·.liveCwd w')) :
    let left := doSplit w spawns layout panes active dir shell tw th settings scrollback
    let right := doSplit w' spawns layout others active dir shell tw th settings scrollback
    right.spawns = left.spawns ∧ right.result.isOk = left.result.isOk ∧ right.state.1 = left.state.1 ∧
      left.state.2.Alike right.state.2 := by
  simp only [doSplit, alike.contains, alike.size] at cwd ⊢
  split
  · exact ⟨rfl, rfl, rfl, alike⟩
  rename_i known
  rw [if_neg known] at cwd
  split
  · exact ⟨rfl, rfl, rfl, alike⟩
  rename_i few
  rw [if_neg few] at cwd
  split
  · exact ⟨rfl, rfl, rfl, alike⟩
  rename_i room
  rw [if_neg room] at cwd
  split
  · exact ⟨rfl, rfl, rfl, alike⟩
  rename_i rect placed
  simp only [placed] at cwd
  split
  · exact ⟨rfl, rfl, rfl, alike⟩
  rename_i large
  rw [if_neg large] at cwd
  split
  · exact ⟨rfl, rfl, rfl, alike⟩
  rename_i fresh placedFresh
  simp only [placedFresh] at cwd
  rcases Pane.spawnInner_pair (G := G) starts spawns .shell .shell (max fresh.w 1) (max fresh.h 1) scrollback
      (panes[active]?.bind (·.liveCwd w)) (others[active]?.bind (·.liveCwd w')) ∅ ∅ with
    ⟨message, message', failed, failedOther⟩ | ⟨pane, started, startedOther, origin⟩
  · simp only [spawnPaneIn, failed, failedOther]
    exact ⟨trivial, rfl, trivial, alike⟩
  · simp only [spawnPaneIn, started, startedOther] at cwd ⊢
    refine ⟨trivial, trivial, trivial, resizeAll_alike same (alike.insert _ (.inl ?_)) _ _ _ _⟩
    rw [← cwd trivial, ← origin]
    rfl

/-- Both replacements end in the same way: a pane that snapshots show is replaced by the same one. -/
theorem replacePane_pair (same : w.Alike w') {shell other : String} (starts : w.StartAlike w' shell other)
    (spawns : Nat) (layout : Layout R) {id : Nat} {pane twin : Pane G} (found : panes[id]? = some pane)
    (foundTwin : others[id]? = some twin) (pair : pane.Alike twin) {launch launch' : PaneLaunch}
    (launches : pane.snapshotSensitive = false → launch' = launch) (tw th : Nat) (settings : Settings) (scrollback : Nat) :
    let left := replacePane w spawns panes layout id launch shell tw th settings scrollback
    let right := replacePane w' spawns others layout id launch' other tw th settings scrollback
    right.spawns = left.spawns ∧
      ((∃ message message', left.result = .error message ∧ right.result = .error message' ∧ left.state = panes ∧
        right.state = others) ∨
      ∃ fresh fresh', left.result = .ok () ∧ right.result = .ok () ∧ left.state = panes.insert id fresh ∧
        right.state = others.insert id fresh' ∧ fresh.Alike fresh' ∧
        fresh.snapshotSensitive = pane.snapshotSensitive) := by
  simp only [replacePane, found, foundTwin]
  split
  · exact ⟨rfl, .inl ⟨_, _, rfl, rfl, rfl, rfl⟩⟩
  rename_i rect placed
  rcases Pane.spawnInner_pair (G := G) starts spawns launch launch' (max rect.w 1) (max rect.h 1) scrollback
      ((some pane).bind fun pane => (pane.liveCwd w).or pane.initialCwd)
      ((some twin).bind fun pane => (pane.liveCwd w').or pane.initialCwd)
      (((some pane).map (·.initialEnv)).getD ∅) (((some twin).map (·.initialEnv)).getD ∅) with
    ⟨message, message', failed, failedOther⟩ | ⟨fresh, started, startedOther, origin⟩
  · simp only [failed, failedOther]
    exact ⟨trivial, .inl ⟨_, _, rfl, rfl, trivial, trivial⟩⟩
  · simp only [started, startedOther]
    refine ⟨trivial, .inr ⟨_, _, trivial, trivial, rfl, rfl, ?_, rfl⟩⟩
    simp only [Option.any_some, Option.bind_some, pair.sensitive, pair.persist]
    refine .inherit fun shown => ?_
    cases pair.eq shown
    cases launches shown
    rw [Pane.liveCwd_congr same]
    simp only [Option.bind_some] at origin
    rw [← origin]
    rfl

omit [RatioOps R] [Vt100 G] in
/-- A new name and shell, which are the same where snapshots show them. -/
theorem Pane.Alike.rename {pane other : Pane G} (pair : pane.Alike other) {name name' shell shell' : Option String}
    (same : pane.snapshotSensitive = false → name' = name ∧ shell' = shell) :
    Pane.Alike { pane with name, initialShell := shell } { other with name := name', initialShell := shell' } := by
  rcases pair with rfl | ⟨sensitive, origin, rfl⟩
  · by_cases sensitive : other.snapshotSensitive = true
    · exact .inr ⟨sensitive, { other.origin with name := name', shell := shell' }, rfl⟩
    · obtain ⟨rfl, rfl⟩ := same (by simpa using sensitive)
      exact .refl _
  · exact .inr ⟨sensitive, { origin with name := name', shell := shell' }, rfl⟩

/-- The programs that the panes run start in the same attempts. -/
def StartsAlike (w w' : World) (shell : String) (panes others : PaneMap G) : Prop :=
  ∀ (id : Nat) (pane other : Pane G), panes[id]? = some pane → others[id]? = some other →
    w.StartAlike w' (pane.initialShell.getD shell) (other.initialShell.getD shell)

/-- Restarts that have gone the same way so far. -/
structure Restarts.Alike (w w' : World) (shell : String) (acc other : Restarts G) : Prop where
  panes : acc.panes.Alike other.panes
  starts : StartsAlike w w' shell acc.panes other.panes
  state : other.state = acc.state
  restarted : other.restarted = acc.restarted
  spawns : other.spawns = acc.spawns

theorem restartPane_alike (same : w.Alike w') (layout : Layout R) {shell : String} (tw th : Nat) (settings : Settings)
    (scrollback : Nat) {acc other : Restarts G} (alike : acc.Alike w w' shell other) (id : Nat) :
    (restartPane w layout shell tw th settings scrollback acc id).Alike w w' shell
      (restartPane w' layout shell tw th settings scrollback other id) := by
  simp only [restartPane, alike.state, same.now]
  split
  · exact { alike with state := rfl }
  rcases alike.panes.cases id with ⟨none, noneOther⟩ | ⟨old, twin, found, foundTwin, pair⟩
  · simp only [none, noneOther]
    exact { alike with state := rfl }
  · simp only [found, foundTwin, alike.spawns]
    have launches (shown : old.snapshotSensitive = false) : twin.launch = old.launch := by rw [pair.eq shown]
    obtain ⟨spawns, ⟨message, message', failed, failedOther, kept, keptOther⟩ |
        ⟨fresh, fresh', made, madeOther, state, stateOther, freshPair, sensitive⟩⟩ :=
      replacePane_pair same (alike.starts id old twin found foundTwin) acc.spawns layout found foundTwin pair launches
        tw th settings scrollback
    · simp only [failed, failedOther, kept, keptOther]
      exact { alike with state := rfl, spawns := spawns }
    · simp only [made, madeOther, state, stateOther]
      have renamed : Pane.Alike { fresh with name := old.name, initialShell := old.initialShell }
          { fresh' with name := twin.name, initialShell := twin.initialShell } :=
        freshPair.rename fun shown => by
          rw [pair.eq (sensitive.symm.trans shown)]
          exact ⟨rfl, rfl⟩
      have modified (panes : PaneMap G) (pane : Pane G) (name shell : Option String) :
          Std.ExtTreeMap.modify (Std.ExtTreeMap.insert panes id pane) id
            (fun pane => { pane with name, initialShell := shell }) =
            Std.ExtTreeMap.insert panes id { pane with name, initialShell := shell } := by
        refine Std.ExtTreeMap.ext_getElem? fun key => ?_
        rw [IdMap.getElem?_modify, IdMap.getElem?_insert, IdMap.getElem?_insert]
        split <;> rfl
      simp only [modified]
      refine ⟨alike.panes.insert id renamed, fun key pane other foundPane foundOther => ?_, rfl, by rw [alike.restarted],
        spawns⟩
      rw [IdMap.getElem?_insert] at foundPane foundOther
      by_cases here : key = id
      · rw [if_pos here] at foundPane foundOther
        cases foundPane
        cases foundOther
        exact alike.starts id old twin found foundTwin
      · rw [if_neg here] at foundPane foundOther
        exact alike.starts key pane other foundPane foundOther

theorem restartPanes_alike (same : w.Alike w') {shell : String} (starts : StartsAlike w w' shell panes others)
    (alike : panes.Alike others) (spawns : Nat) (layout : Layout R) (policies : IdMap RestartPolicy)
    (state : RestartState) (tw th : Nat) (settings : Settings) (scrollback : Nat) :
    (restartPanes w spawns panes layout policies state shell tw th settings scrollback).Alike w w' shell
      (restartPanes w' spawns others layout policies state shell tw th settings scrollback) := by
  have recent (pid : Nat) (started : Int) :
      (others[pid]?).any (fun pane => !pane.alive || (w'.now : Int) - started < 30000) =
        (panes[pid]?).any fun pane => !pane.alive || (w.now : Int) - started < 30000 := by
    rcases alike.cases pid with ⟨none, noneOther⟩ | ⟨pane, other, found, foundOther, pair⟩
    · rw [none, noneOther]
      rfl
    · simp only [found, foundOther, Option.any_some, pair.alive, same.now]
  simp only [restartPanes, recent]
  rw [alike.filter_ids fun id pane other pair => by simp only [pair.alive, pair.exitCode]]
  generalize (panes.toList.filter _).map _ = candidates
  generalize state.filter _ = state
  suffices related : ∀ acc other : Restarts G, acc.Alike w w' shell other →
      (candidates.foldl (restartPane w layout shell tw th settings scrollback) acc).Alike w w' shell
        (candidates.foldl (restartPane w' layout shell tw th settings scrollback) other) from
    related _ _ ⟨alike, starts, rfl, rfl, rfl⟩
  induction candidates with
  | nil => exact fun _ _ alike => alike
  | cons id candidates ih => exact fun acc other alike => ih _ _ (restartPane_alike same layout tw th settings scrollback alike id)

omit [RatioOps R] [Vt100 G] in
theorem snapshotPane_congr (same : w.Alike w') (alike : panes.Alike others) (policies : IdMap RestartPolicy) (id : Nat) :
    snapshotPane w' others policies id = snapshotPane w panes policies id := by
  simp only [snapshotPane]
  rcases alike.cases id with ⟨none, noneOther⟩ | ⟨pane, other, found, foundOther, pair⟩
  · simp only [none, noneOther, Option.any_none, Option.map_none, Option.bind_none]
  · simp only [found, foundOther, Option.any_some, pair.sensitive]
    cases shown : pane.snapshotSensitive with
    | true => rfl
    | false => simp only [pair.eq shown, Option.map_some, Option.bind_some, Pane.liveCwd_congr same]

omit [RatioOps R] in
theorem captureScrollback_alike (alike : panes.Alike others) (format : SnapshotFormat R) (persistDefault : Bool)
    (overrides : IdMap Bool) (saved : PaneSnapshot) :
    (captureScrollback format persistDefault overrides panes saved).1.Alike
        (captureScrollback format persistDefault overrides others saved).1 ∧
      (captureScrollback format persistDefault overrides others saved).2 =
        (captureScrollback format persistDefault overrides panes saved).2 := by
  simp only [captureScrollback]
  rcases alike.cases saved.id with ⟨none, noneOther⟩ | ⟨pane, other, found, foundOther, pair⟩
  · rw [none, noneOther]
    exact ⟨alike, rfl⟩
  · simp only [found, foundOther, pair.sensitive]
    split
    · exact ⟨alike, rfl⟩
    rename_i shown
    rw [pair.eq (by simpa using shown)]
    split
    · exact ⟨alike, rfl⟩
    split
    · exact ⟨alike.insert _ (.refl _), rfl⟩
    · exact ⟨alike.insert _ (.refl _), rfl⟩

omit [RatioOps R] in
theorem capturePanes_alike (alike : panes.Alike others) (format : SnapshotFormat R) (persistDefault : Bool)
    (overrides : IdMap Bool) (saved : List PaneSnapshot) :
    (capturePanes format persistDefault overrides panes saved).1.Alike
        (capturePanes format persistDefault overrides others saved).1 ∧
      (capturePanes format persistDefault overrides others saved).2 =
        (capturePanes format persistDefault overrides panes saved).2 := by
  induction saved generalizing panes others with
  | nil => exact ⟨alike, rfl⟩
  | cons pane rest ih =>
      have first := captureScrollback_alike alike format persistDefault overrides pane
      simp only [capturePanes]
      generalize captureScrollback format persistDefault overrides panes pane = left at first ⊢
      generalize captureScrollback format persistDefault overrides others pane = right at first ⊢
      obtain ⟨panes, out⟩ := left
      obtain ⟨others, outRight⟩ := right
      obtain ⟨alike, rfl⟩ : panes.Alike others ∧ outRight = out := first
      cases outRight with
      | error message => exact ⟨alike, rfl⟩
      | ok saved =>
          have later := ih alike
          simp only
          generalize capturePanes format persistDefault overrides panes rest = left at later ⊢
          generalize capturePanes format persistDefault overrides others rest = right at later ⊢
          obtain ⟨panes, out⟩ := left
          obtain ⟨others, outRight⟩ := right
          obtain ⟨alike, rfl⟩ : panes.Alike others ∧ outRight = out := later
          cases outRight with
          | error message => exact ⟨alike, rfl⟩
          | ok rest => exact ⟨alike, rfl⟩

omit [RatioOps R] [Vt100 G] in
theorem persistOverrides_congr (alike : panes.Alike others) : persistOverrides others = persistOverrides panes := by
  refine Std.ExtTreeMap.ext_getElem? fun id => ?_
  simp only [persistOverrides, Std.ExtTreeMap.getElem?_filterMap']
  rcases alike.cases id with ⟨none, noneOther⟩ | ⟨pane, other, found, foundOther, pair⟩
  · rw [none, noneOther]
  · simp only [found, foundOther, Option.bind_some, pair.persist]

/-! ## Start-up -/

omit [RatioOps R] in
/-- A pane of the same section, started in both. -/
theorem spawnProjectPane_alike {p q : ResolvedProject R} (alike : p.Alike q) {shell : String} {scrollback pid attempt : Nat}
    {rect : Rect} {pane other : Pane G} (started : spawnProjectPane p w shell scrollback pid rect attempt = .ok pane)
    (startedOther : spawnProjectPane q w' shell scrollback pid rect attempt = .ok other) : pane.Alike other := by
  simp only [spawnProjectPane] at started startedOther
  split at started
  · cases started
  rename_i fresh spawned
  split at startedOther
  · cases startedOther
  rename_i freshOther spawnedOther
  cases started
  cases startedOther
  rw [Pane.spawnInner_ok spawned, Pane.spawnInner_ok spawnedOther]
  by_cases excluded : pid ∈ p.snapshotExcludedPanes
  · refine .inr ⟨by simpa using excluded, ⟨q.launches[pid]?.getD .shell, q.names[pid]?, q.cwds[pid]?,
      q.envs[pid]?.getD ∅, q.shells[pid]?⟩, ?_⟩
    simp only [Pane.withOrigin, alike.excluded, alike.persistScrollback]
  · refine .inl ?_
    simp only [alike.launches pid excluded, alike.names pid excluded, alike.cwds pid excluded,
      alike.envs pid excluded, alike.shells pid excluded, alike.excluded, alike.persistScrollback]

omit [RatioOps R] [Vt100 G] in
theorem spawnEach_alike {α : Type} {entry entryOther : α → Nat × (Nat → Except String (Pane G))}
    (ids : ∀ task, (entryOther task).1 = (entry task).1)
    (pairs : ∀ task attempt pane other, (entry task).2 attempt = .ok pane → (entryOther task).2 attempt = .ok other →
      pane.Alike other)
    {tasks : List α} {spawns after afterOther : Nat} {out outOther : PaneMap G} (alike : panes.Alike others)
    (spawned : spawnEach (tasks.map entry) spawns panes = (.ok out, after))
    (spawnedOther : spawnEach (tasks.map entryOther) spawns others = (.ok outOther, afterOther)) :
    out.Alike outOther ∧ afterOther = after := by
  induction tasks generalizing spawns panes others with
  | nil =>
      cases spawned
      cases spawnedOther
      exact ⟨alike, rfl⟩
  | cons task tasks ih =>
      simp only [List.map_cons, spawnEach] at spawned spawnedOther
      split at spawned
      · cases spawned
      rename_i pane started
      split at spawnedOther
      · cases spawnedOther
      rename_i other startedOther
      rw [ids task] at spawnedOther
      exact ih (alike.insert _ (pairs task spawns pane other started startedOther)) spawned spawnedOther

/-- Sessions of two alike projects that have both started. -/
theorem bootProject_alike {p q : ResolvedProject R} (alike : p.Alike q) {config : LaunchConfig} {s t : Session R G}
    (booted : bootProject w config p = .ok s) (bootedOther : bootProject w' config q = .ok t) :
    t = s.setPanes t.tab.panes ∧ s.tab.panes.Alike t.tab.panes ∧ s.tabMgr.tabs = [] := by
  simp only [bootProject] at booted bootedOther
  split at booted
  · cases booted
  rename_i panes spawns spawned
  split at bootedOther
  · cases bootedOther
  rename_i others spawnsOther spawnedOther
  cases booted
  cases bootedOther
  simp only [spawnProjectPanes, alike.layout] at spawned spawnedOther
  obtain ⟨pairs, rfl⟩ := spawnEach_alike (by intro task; rfl)
    (by intro task attempt pane other; exact spawnProjectPane_alike alike) (.refl ∅) spawned spawnedOther
  refine ⟨?_, pairs.map fun _ => Pane.configured_oblivious _ _, rfl⟩
  simp only [Session.setPanes, LaunchConfig.session, alike.layout, alike.restarts]

end Operations

end Ezpn
