import Ezpn.Bootstrap
import Mathlib.Data.List.Find

/-!
# Panes under different environments

Two sessions of one project differ at most in what their sensitive panes were
launched with. Most of what happens to a pane neither reads nor writes that.
-/

set_option autoImplicit false

namespace Ezpn

/-- The same reports of processes; spawns may end differently. -/
structure World.Alike (w w' : World) : Prop where
  now : w'.now = w.now
  hostname : w'.hostname = w.hostname
  procCwd : w'.procCwd = w.procCwd
  resizeFails : w'.resizeFails = w.resizeFails
  killStatus : w'.killStatus = w.killStatus

/-- Both programs start in the same attempts. -/
def World.StartAlike (w w' : World) (shell other : String) : Prop :=
  ∀ attempt, (w.spawnError attempt shell).isSome = (w'.spawnError attempt other).isSome

/-! ## Panes -/

/-- What a pane has from its launch. -/
structure PaneOrigin where
  launch : PaneLaunch
  name : Option String
  cwd : Option String
  env : EnvMap
  shell : Option String

namespace Pane
variable {G : Type}

def origin (pane : Pane G) : PaneOrigin :=
  { launch := pane.launch, name := pane.name, cwd := pane.initialCwd, env := pane.initialEnv, shell := pane.initialShell }

def withOrigin (pane : Pane G) (origin : PaneOrigin) : Pane G :=
  { pane with
    launch := origin.launch
    name := origin.name
    initialCwd := origin.cwd
    initialEnv := origin.env
    initialShell := origin.shell }

/-- The same pane, but for the origin of one that snapshots leave out. -/
def Alike (pane other : Pane G) : Prop :=
  other = pane ∨ pane.snapshotSensitive = true ∧ ∃ origin, other = pane.withOrigin origin

theorem Alike.refl (pane : Pane G) : pane.Alike pane := .inl rfl

theorem Alike.sensitive {pane other : Pane G} (alike : pane.Alike other) :
    other.snapshotSensitive = pane.snapshotSensitive := by
  rcases alike with rfl | ⟨_, origin, rfl⟩ <;> rfl

theorem Alike.alive {pane other : Pane G} (alike : pane.Alike other) : other.alive = pane.alive := by
  rcases alike with rfl | ⟨_, origin, rfl⟩ <;> rfl

theorem Alike.exitCode {pane other : Pane G} (alike : pane.Alike other) : other.exitCode = pane.exitCode := by
  rcases alike with rfl | ⟨_, origin, rfl⟩ <;> rfl

theorem Alike.state {pane other : Pane G} (alike : pane.Alike other) : other.state = pane.state := by
  rcases alike with rfl | ⟨_, origin, rfl⟩ <;> rfl

theorem Alike.persist {pane other : Pane G} (alike : pane.Alike other) :
    other.persistScrollbackOverride = pane.persistScrollbackOverride := by
  rcases alike with rfl | ⟨_, origin, rfl⟩ <;> rfl

/-- A pane that snapshots show is the same in both. -/
theorem Alike.eq {pane other : Pane G} (alike : pane.Alike other) (shown : pane.snapshotSensitive = false) :
    other = pane := by
  rcases alike with same | ⟨sensitive, _⟩
  · exact same
  · rw [shown] at sensitive
    cases sensitive

/-- A fresh pane that takes over whether snapshots show it. -/
theorem Alike.inherit {fresh : Pane G} {origin : PaneOrigin} {sensitive : Bool} {persist : Option Bool}
    (shown : sensitive = false → fresh.withOrigin origin = fresh) :
    Alike { fresh with snapshotSensitive := sensitive, persistScrollbackOverride := persist }
      { fresh.withOrigin origin with snapshotSensitive := sensitive, persistScrollbackOverride := persist } := by
  cases sensitive with
  | true => exact .inr ⟨rfl, origin, rfl⟩
  | false => exact .inl (by rw [shown rfl])

theorem liveCwd_congr {w w' : World} (same : w.Alike w') (pane : Pane G) : pane.liveCwd w' = pane.liveCwd w := by
  simp only [liveCwd, reportedCwd, same.now, same.procCwd]

/-- What neither reads nor writes the origin. -/
structure Oblivious (f f' : Pane G → Pane G) : Prop where
  commutes : ∀ pane origin, f' (pane.withOrigin origin) = (f pane).withOrigin origin
  origin : ∀ pane, (f pane).origin = pane.origin
  sensitive : ∀ pane, (f pane).snapshotSensitive = pane.snapshotSensitive

theorem Oblivious.eq {f f' : Pane G → Pane G} (oblivious : Oblivious f f') (pane : Pane G) : f' pane = f pane := by
  calc f' pane = (f pane).withOrigin pane.origin := oblivious.commutes pane pane.origin
    _ = (f pane).withOrigin (f pane).origin := by rw [oblivious.origin]

theorem Oblivious.alike {f f' : Pane G → Pane G} (oblivious : Oblivious f f') {pane other : Pane G}
    (alike : pane.Alike other) : (f pane).Alike (f' other) := by
  rcases alike with rfl | ⟨sensitive, origin, rfl⟩
  · exact .inl (oblivious.eq _)
  · exact .inr ⟨(oblivious.sensitive pane).trans sensitive, origin, oblivious.commutes pane origin⟩

theorem Oblivious.comp {f f' g g' : Pane G → Pane G} (first : Oblivious f f') (second : Oblivious g g') :
    Oblivious (fun pane => g (f pane)) fun pane => g' (f' pane) :=
  ⟨fun pane origin => by rw [first.commutes, second.commutes], fun pane => (second.origin _).trans (first.origin pane),
    fun pane => (second.sensitive _).trans (first.sensitive pane)⟩

theorem Oblivious.id : Oblivious (fun pane : Pane G => pane) fun pane => pane :=
  ⟨fun _ _ => rfl, fun _ => rfl, fun _ => rfl⟩

variable [Vt100 G] {w w' : World}

theorem resize_oblivious (same : w.Alike w') (cols rows : Nat) :
    Oblivious (fun pane : Pane G => pane.resize w cols rows) fun pane => pane.resize w' cols rows := by
  constructor
  · intro pane origin
    simp only [resize, same.resizeFails, withOrigin]
    repeat' split
    all_goals rfl
  all_goals
    intro pane
    simp only [resize]
    repeat' split
    all_goals rfl

theorem setScrollbackBudget_oblivious (byteBudget : Nat) :
    Oblivious (fun pane : Pane G => pane.setScrollbackBudget byteBudget) fun pane => pane.setScrollbackBudget byteBudget := by
  constructor
  · intro pane origin
    cases output : pane.parserHasOutput <;> simp [setScrollbackBudget, withOrigin, output]
  all_goals
    intro pane
    simp only [setScrollbackBudget]
    split <;> rfl

theorem configured_oblivious (byteBudget : Nat) (policy : ClipboardPolicy) :
    Oblivious (fun pane : Pane G => (pane.setScrollbackBudget byteBudget).setClipboardPolicy policy)
      fun pane => (pane.setScrollbackBudget byteBudget).setClipboardPolicy policy :=
  have policed : Oblivious (fun pane : Pane G => pane.setClipboardPolicy policy) fun pane => pane.setClipboardPolicy policy :=
    ⟨fun _ _ => rfl, fun _ => rfl, fun _ => rfl⟩
  (setScrollbackBudget_oblivious byteBudget).comp policed

theorem readChunk_oblivious (same : w.Alike w') (chunk : Bytes) :
    Oblivious (fun pane : Pane G => pane.readChunk w chunk) fun pane => pane.readChunk w' chunk := by
  have surroundings (pane : Pane G) (origin : PaneOrigin) :
      (pane.withOrigin origin).interceptEnv w' = pane.interceptEnv w := by
    simp only [interceptEnv, same.now, same.hostname, withOrigin]
  refine ⟨fun pane origin => ?_, fun _ => rfl, fun _ => rfl⟩
  simp only [readChunk, intercept, surroundings]
  rfl

theorem readChunks_oblivious (same : w.Alike w') (chunks : List Bytes) :
    Oblivious (fun pane : Pane G => chunks.foldl (fun pane chunk => pane.readChunk w chunk) pane)
      fun pane => chunks.foldl (fun pane chunk => pane.readChunk w' chunk) pane := by
  induction chunks with
  | nil => exact .id
  | cons chunk chunks ih => exact (readChunk_oblivious same chunk).comp ih

theorem readOutput_oblivious (same : w.Alike w') (feed : Feed) :
    Oblivious (fun pane : Pane G => (pane.readOutput w feed).1) fun pane => (pane.readOutput w' feed).1 := by
  have chunks := readChunks_oblivious (G := G) same (feed.chunks.take maxDrain)
  refine ⟨fun pane origin => ?_, fun pane => chunks.origin pane, fun pane => chunks.sensitive pane⟩
  have read := chunks.commutes pane origin
  simp only [readOutput, read]
  rfl

omit [Vt100 G] in
theorem syncWatchdog_oblivious (same : w.Alike w') :
    Oblivious (fun pane : Pane G => (pane.syncWatchdog w).1) fun pane => (pane.syncWatchdog w').1 := by
  constructor
  · intro pane origin
    simp only [syncWatchdog, same.now, withOrigin]
    split <;> rfl
  all_goals
    intro pane
    simp only [syncWatchdog]
    split <;> rfl

theorem dumpText_oblivious (includeScrollback : Bool) :
    Oblivious (fun pane : Pane G => (pane.dumpText includeScrollback).1) fun pane => (pane.dumpText includeScrollback).1 :=
  ⟨fun _ _ => rfl, fun _ => rfl, fun _ => rfl⟩

end Pane

/-! ## Pane maps -/

/-- Panes under the same ids, one pair like the other. -/
def PaneMap.Alike {G : Type} (panes others : PaneMap G) : Prop :=
  ∀ id : Nat, Option.Rel Pane.Alike panes[id]? others[id]?

namespace PaneMap.Alike
variable {G : Type} {panes others : PaneMap G}

theorem refl (panes : PaneMap G) : panes.Alike panes := by
  intro id
  cases panes[id]? with
  | none => exact .none
  | some pane => exact .some (.refl pane)

theorem cases (alike : panes.Alike others) (id : Nat) :
    (panes[id]? = none ∧ others[id]? = none) ∨
      ∃ pane other, panes[id]? = some pane ∧ others[id]? = some other ∧ pane.Alike other := by
  have related := alike id
  cases found : panes[id]? with
  | none =>
      rw [found] at related
      cases foundOther : others[id]? with
      | none => exact .inl ⟨rfl, rfl⟩
      | some other =>
          rw [foundOther] at related
          cases related
  | some pane =>
      rw [found] at related
      cases foundOther : others[id]? with
      | none =>
          rw [foundOther] at related
          cases related
      | some other =>
          rw [foundOther] at related
          cases related with
          | some pair => exact .inr ⟨pane, other, rfl, rfl, pair⟩

theorem mem (alike : panes.Alike others) {id : Nat} : id ∈ others ↔ id ∈ panes := by
  rw [Std.ExtTreeMap.mem_iff_isSome_getElem?, Std.ExtTreeMap.mem_iff_isSome_getElem?]
  rcases alike.cases id with ⟨none, noneOther⟩ | ⟨pane, other, found, foundOther, _⟩
  · rw [none, noneOther]
  · rw [found, foundOther]
    simp

/-- The second map, as one made from the first. -/
theorem eq_map (alike : panes.Alike others) :
    others = Std.ExtTreeMap.map (fun id pane => others[id]?.getD pane) panes := by
  refine Std.ExtTreeMap.ext_getElem? fun id => ?_
  rw [Std.ExtTreeMap.getElem?_map]
  rcases alike.cases id with ⟨none, noneOther⟩ | ⟨pane, other, found, foundOther, _⟩
  · rw [none, noneOther, Option.map_none]
  · rw [found, foundOther, Option.map_some, Option.getD_some]

theorem keys (alike : panes.Alike others) : others.keys = panes.keys := by
  rw [alike.eq_map, Std.ExtTreeMap.keys_map]

theorem size (alike : panes.Alike others) : others.size = panes.size := by
  rw [alike.eq_map, Std.ExtTreeMap.size_map]

theorem contains (alike : panes.Alike others) (id : Nat) : others.contains id = panes.contains id := by
  rw [Bool.eq_iff_iff, Std.ExtTreeMap.contains_iff_mem, Std.ExtTreeMap.contains_iff_mem]
  exact alike.mem

theorem map {f f' : Nat → Pane G → Pane G} (alike : panes.Alike others) (oblivious : ∀ id, Pane.Oblivious (f id) (f' id)) :
    PaneMap.Alike (Std.ExtTreeMap.map f panes) (Std.ExtTreeMap.map f' others) := by
  intro id
  rw [Std.ExtTreeMap.getElem?_map, Std.ExtTreeMap.getElem?_map]
  rcases alike.cases id with ⟨none, noneOther⟩ | ⟨pane, other, found, foundOther, pair⟩
  · rw [none, noneOther]
    exact .none
  · rw [found, foundOther]
    exact .some ((oblivious id).alike pair)

theorem modify {f f' : Pane G → Pane G} (alike : panes.Alike others) (target : Nat)
    (pairs : ∀ pane other, panes[target]? = some pane → others[target]? = some other → pane.Alike other →
      (f pane).Alike (f' other)) :
    PaneMap.Alike (Std.ExtTreeMap.modify panes target f) (Std.ExtTreeMap.modify others target f') := by
  intro id
  rw [IdMap.getElem?_modify, IdMap.getElem?_modify]
  split
  · rename_i here
    subst here
    rcases alike.cases id with ⟨none, noneOther⟩ | ⟨pane, other, found, foundOther, pair⟩
    · rw [none, noneOther]
      exact .none
    · rw [found, foundOther]
      exact .some (pairs pane other found foundOther pair)
  · exact alike id

theorem insert {pane other : Pane G} (alike : panes.Alike others) (target : Nat) (pair : pane.Alike other) :
    PaneMap.Alike (Std.ExtTreeMap.insert panes target pane) (Std.ExtTreeMap.insert others target other) := by
  intro id
  rw [IdMap.getElem?_insert, IdMap.getElem?_insert]
  split
  · exact .some pair
  · exact alike id

theorem erase (alike : panes.Alike others) (target : Nat) :
    PaneMap.Alike (Std.ExtTreeMap.erase panes target) (Std.ExtTreeMap.erase others target) := by
  intro id
  rw [IdMap.getElem?_erase, IdMap.getElem?_erase]
  split
  · exact .none
  · exact alike id

theorem toList (alike : panes.Alike others) :
    others.toList = panes.toList.map fun entry => (entry.1, others[entry.1]?.getD entry.2) := by
  have listed := congrArg Std.ExtTreeMap.toList alike.eq_map
  rwa [Std.ExtTreeMap.toList_map] at listed

theorem selects (alike : panes.Alike others) {p : Nat × Pane G → Bool}
    (same : ∀ id pane other, pane.Alike other → p (id, other) = p (id, pane)) {entry : Nat × Pane G}
    (member : entry ∈ panes.toList) : p (entry.1, others[entry.1]?.getD entry.2) = p entry := by
  have found : panes[entry.1]? = some entry.2 := Std.ExtTreeMap.mem_toList_iff_getElem?_eq_some.mp member
  rcases alike.cases entry.1 with ⟨none, _⟩ | ⟨pane, other, foundPane, foundOther, pair⟩
  · cases none.symm.trans found
  · cases found.symm.trans foundPane
    rw [foundOther, Option.getD_some]
    exact same _ _ _ pair

/-- What alike panes have in common finds the same one. -/
theorem find? (alike : panes.Alike others) {p : Nat × Pane G → Bool}
    (same : ∀ id pane other, pane.Alike other → p (id, other) = p (id, pane)) :
    others.toList.find? p = (panes.toList.find? p).map fun entry => (entry.1, others[entry.1]?.getD entry.2) := by
  rw [alike.toList, List.find?_map]
  exact congrArg (Option.map _) (List.find?_congr fun entry member => alike.selects same member)

/-- What alike panes have in common selects the same ids. -/
theorem filter_ids (alike : panes.Alike others) {p : Nat × Pane G → Bool}
    (same : ∀ id pane other, pane.Alike other → p (id, other) = p (id, pane)) :
    (others.toList.filter p).map (·.1) = (panes.toList.filter p).map (·.1) := by
  rw [alike.toList, List.filter_map, List.map_map]
  exact congrArg (List.map _) (List.filter_congr fun entry member => alike.selects same member)

end PaneMap.Alike

end Ezpn
