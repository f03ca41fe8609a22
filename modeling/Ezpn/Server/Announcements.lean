import Ezpn.Layout.Geometry
import Ezpn.Lib.Machine
import Mathlib.Data.List.Chain

/-!
# Announcements of panes

Subscribers and hooks are told when a pane has been spawned and when its working
directory has changed. The loop knows panes by their ids, which are those of the active
tab. A pane is announced once, and its directory when it has changed, as long as what the
loop knows under the ids of a tab that it enters is about the panes of that tab.
-/

set_option autoImplicit false

namespace Ezpn.Announcements

/-- A pane with what has been told about it, which the loop does not record. -/
structure AnnouncedPane where
  /-- at start-up, by split, new tab or load, and not in the place of another pane -/
  created : Bool := true
  /-- how often `PaneSpawned` and `AfterPaneSpawn` were fired -/
  announced : Nat := 0
  /-- its tab has been active for an iteration -/
  met : Bool := false
  /-- what `PaneCwdChanged` said, in order -/
  cwds : List String := []
  deriving DecidableEq

def freshPanes (ids : List Nat) : IdMap AnnouncedPane := ids.foldl (fun panes id => panes.insert id {}) ∅

structure AnnouncingLoop where
  panes : IdMap AnnouncedPane
  /-- the other tabs, in no particular order -/
  stored : List (IdMap AnnouncedPane) := []
  sessionCreatedEmitted : Bool := false
  spawnedSeen : List Nat := []
  prevCwd : IdMap String := ∅

inductive Move where
  /-- the announcements at the top of the loop -/
  | detect
  /-- live directories of the panes of the active tab, by id -/
  | poll (cwds : Nat → Option String)
  | split (id : Nat)
  /-- restart, respawn or replacement -/
  | replace (id : Nat)
  | replaceStored (tab id : Nat)
  | close (id : Nat)
  | newTab (id : Nat)
  /-- its pane cannot be spawned, and another tab than the one that was left is restored -/
  | newTabFailed (restored : Nat)
  | goToTab (tab : Nat)
  /-- by the user, or because all its panes are dead -/
  | closeTab (next : Nat)
  | load (panes : List Nat) (stored : List (List Nat))

namespace AnnouncingLoop

def announce (s : AnnouncingLoop) (pid : Nat) : AnnouncingLoop :=
  { s with
    spawnedSeen := pid :: s.spawnedSeen
    panes := s.panes.modify pid fun pane => { pane with announced := pane.announced + 1 } }

/-- `SessionCreated`, with the panes that were spawned at boot. -/
def emitCreated (s : AnnouncingLoop) : AnnouncingLoop :=
  if s.sessionCreatedEmitted then s
  else { s with
    sessionCreatedEmitted := true
    spawnedSeen := s.spawnedSeen ++ s.panes.keys
    panes := s.panes.map fun _ pane => { pane with announced := pane.announced + 1 } }

/-- Panes that are not known are announced, and ids without a pane are forgotten. -/
def detectSpawned (s : AnnouncingLoop) : AnnouncingLoop :=
  let s := s.panes.keys.foldl (fun s pid => if s.spawnedSeen.contains pid then s else s.announce pid) s
  { s with
    spawnedSeen := s.spawnedSeen.filter s.panes.contains
    panes := s.panes.map fun _ pane => { pane with met := true } }

def pollPane (cwds : Nat → Option String) (s : AnnouncingLoop) (pid : Nat) : AnnouncingLoop :=
  match cwds pid with
  | none => s
  | some cwd =>
      if s.prevCwd[pid]? = some cwd then s
      else { s with
        prevCwd := s.prevCwd.insert pid cwd
        panes := s.panes.modify pid fun pane => { pane with cwds := pane.cwds ++ [cwd] } }

def poll (cwds : Nat → Option String) (s : AnnouncingLoop) : AnnouncingLoop := s.panes.keys.foldl (pollPane cwds) s

def step (s : AnnouncingLoop) : Move → AnnouncingLoop
  | .detect => s.emitCreated.detectSpawned
  | .poll cwds => s.poll cwds
  | .split id => { s with panes := s.panes.insert id {} }
  | .replace id => { s with panes := s.panes.insert id { created := false } }
  | .replaceStored tab id => { s with stored := s.stored.modify tab (·.insert id { created := false }) }
  | .close id => { s with panes := s.panes.erase id }
  -- the pane is announced here, and its id is not made known
  | .newTab id => { s with panes := (∅ : IdMap AnnouncedPane).insert id { announced := 1 }, stored := s.panes :: s.stored }
  | .newTabFailed tab | .goToTab tab =>
      match s.stored[tab]? with
      | none => s
      | some entered => { s with panes := entered, stored := s.stored.set tab s.panes }
  | .closeTab next =>
      match s.stored[next]? with
      | none => s
      | some entered => { s with panes := entered, stored := s.stored.eraseIdx next }
  | .load panes stored =>
      { s with panes := freshPanes panes, stored := stored.map freshPanes, spawnedSeen := [], prevCwd := ∅ }

end AnnouncingLoop

/-! ## One pane -/

namespace AnnouncedPane
variable {pane : AnnouncedPane} {seen : Bool} {prev : Option String}

/-- Announced at most once, and once it has been met; no directory twice in a row. -/
structure Fine (pane : AnnouncedPane) : Prop where
  once : pane.created = true → pane.announced ≤ 1
  met : pane.created = true → pane.met = true → pane.announced = 1
  changed : pane.cwds.IsChain (· ≠ ·)

/-- What is known under the id of the pane is about the pane. -/
structure Matches (pane : AnnouncedPane) (seen : Bool) (prev : Option String) : Prop where
  seen : pane.created = true → pane.announced = if seen then 1 else 0
  prev : pane.cwds ≠ [] → prev = pane.cwds.getLast?

instance (pane : AnnouncedPane) (seen : Bool) (prev : Option String) : Decidable (pane.Matches seen prev) :=
  decidable_of_iff
    ((pane.created = true → pane.announced = if seen then 1 else 0) ∧ (pane.cwds ≠ [] → prev = pane.cwds.getLast?))
    ⟨fun both => ⟨both.1, both.2⟩, fun known => ⟨known.seen, known.prev⟩⟩

theorem Fine.fresh (created : Bool) : ({ created } : AnnouncedPane).Fine :=
  ⟨fun _ => Nat.zero_le 1, fun _ met => absurd met Bool.false_ne_true, .nil⟩

theorem Matches.fresh (prev : Option String) : ({} : AnnouncedPane).Matches false prev :=
  ⟨fun _ => rfl, fun some => absurd rfl some⟩

theorem Matches.replaced (seen : Bool) (prev : Option String) : ({ created := false } : AnnouncedPane).Matches seen prev :=
  ⟨fun created => absurd created Bool.false_ne_true, fun some => absurd rfl some⟩

end AnnouncedPane

/-! ## The loop -/

namespace AnnouncingLoop
variable {s : AnnouncingLoop}

def Known (s : AnnouncingLoop) (panes : IdMap AnnouncedPane) : Prop :=
  ∀ (id : Nat) (pane : AnnouncedPane), panes[id]? = some pane → pane.Matches (s.spawnedSeen.contains id) s.prevCwd[id]?

instance (s : AnnouncingLoop) (panes : IdMap AnnouncedPane) : Decidable (s.Known panes) :=
  decidable_of_iff (∀ entry ∈ panes.toList, entry.2.Matches (s.spawnedSeen.contains entry.1) s.prevCwd[entry.1]?)
    ⟨fun all id pane found => all (id, pane) (Std.ExtTreeMap.mem_toList_iff_getElem?_eq_some.mpr found),
      fun known entry member => known entry.1 entry.2 (Std.ExtTreeMap.mem_toList_iff_getElem?_eq_some.mp member)⟩

def AllFine (panes : IdMap AnnouncedPane) : Prop :=
  ∀ (id : Nat) (pane : AnnouncedPane), panes[id]? = some pane → pane.Fine

/-- No id that is known stands for a pane that is new, or was announced elsewhere. -/
def Fair (s : AnnouncingLoop) : Move → Prop
  | .split id => id ∉ s.spawnedSeen
  | .newTab id => id ∈ s.spawnedSeen
  | .newTabFailed tab | .goToTab tab | .closeTab tab => ∀ entered ∈ s.stored[tab]?, s.Known entered
  | _ => True

instance (s : AnnouncingLoop) : (move : Move) → Decidable (s.Fair move)
  | .split id => inferInstanceAs (Decidable (id ∉ s.spawnedSeen))
  | .newTab id => inferInstanceAs (Decidable (id ∈ s.spawnedSeen))
  | .newTabFailed tab | .goToTab tab | .closeTab tab =>
      inferInstanceAs (Decidable (∀ entered ∈ s.stored[tab]?, s.Known entered))
  | .detect | .poll _ | .replace _ | .replaceStored _ _ | .close _ | .load _ _ => inferInstanceAs (Decidable True)

/-- What is known is about the panes of the active tab, and nothing was told twice. -/
structure Sound (s : AnnouncingLoop) : Prop where
  boot : s.sessionCreatedEmitted = false → s.spawnedSeen = []
  known : s.Known s.panes
  fine : AllFine s.panes
  away : ∀ panes ∈ s.stored, AllFine panes

theorem modified {panes : IdMap AnnouncedPane} {id other : Nat} {f : AnnouncedPane → AnnouncedPane} {pane : AnnouncedPane}
    (found : (panes.modify id f)[other]? = some pane) :
    ∃ before, panes[other]? = some before ∧ pane = if other = id then f before else before := by
  rw [IdMap.getElem?_modify] at found
  split at found
  · rename_i same
    obtain ⟨before, had, rfl⟩ := Option.map_eq_some_iff.mp found
    exact ⟨before, had, (if_pos same).symm⟩
  · rename_i different
    exact ⟨pane, found, (if_neg different).symm⟩

theorem fresh_of_freshPanes {ids : List Nat} {id : Nat} {pane : AnnouncedPane} (found : (freshPanes ids)[id]? = some pane) :
    pane = {} :=
  IdMap.value_of_inserts ids ∅ (fun id pane found => by simp at found) found

theorem allFine_freshPanes (ids : List Nat) : AllFine (freshPanes ids) := by
  intro id pane found
  rw [fresh_of_freshPanes found]
  exact .fresh true

theorem Sound.emitCreated (sound : s.Sound) : s.emitCreated.Sound := by
  unfold AnnouncingLoop.emitCreated
  split
  · exact sound
  · rename_i first
    have none := sound.boot (Bool.not_eq_true _ ▸ first)
    refine ⟨fun emitted => absurd emitted.symm Bool.false_ne_true, ?_, ?_, sound.away⟩
    · intro id pane found
      obtain ⟨before, had, rfl⟩ := Option.map_eq_some_iff.mp (Std.ExtTreeMap.getElem?_map.symm.trans found)
      have known := sound.known id before had
      have listed : id ∈ s.panes.keys := Std.ExtTreeMap.mem_keys.mpr (IdMap.mem_of_getElem? had)
      refine ⟨fun created => ?_, known.prev⟩
      have unannounced := known.seen created
      rw [none] at unannounced
      simp only [none, List.nil_append, List.contains_iff_mem, listed, if_true]
      simpa using unannounced
    · intro id pane found
      obtain ⟨before, had, rfl⟩ := Option.map_eq_some_iff.mp (Std.ExtTreeMap.getElem?_map.symm.trans found)
      have known := sound.known id before had
      have unannounced (created : before.created = true) : before.announced = 0 := by
        have zero := known.seen created
        rw [none] at zero
        exact zero
      have fine := sound.fine id before had
      exact ⟨fun created => by simp [unannounced created], fun created _ => by simp [unannounced created], fine.changed⟩

theorem Sound.announce (sound : s.Sound) {pid : Nat} (unknown : s.spawnedSeen.contains pid = false)
    (emitted : s.sessionCreatedEmitted = true) : (s.announce pid).Sound where
  boot first := absurd (first.symm.trans emitted) Bool.false_ne_true
  known id pane found := by
    obtain ⟨before, had, rfl⟩ := modified found
    have known := sound.known id before had
    by_cases here : id = pid
    · subst here
      rw [if_pos rfl]
      refine ⟨fun created => ?_, known.prev⟩
      have zero := known.seen created
      rw [unknown] at zero
      simpa [AnnouncingLoop.announce] using zero
    · rw [if_neg here]
      have same : (s.announce pid).spawnedSeen.contains id = s.spawnedSeen.contains id := by
        simp [AnnouncingLoop.announce, here]
      rw [same]
      exact known
  fine id pane found := by
    obtain ⟨before, had, rfl⟩ := modified found
    have fine := sound.fine id before had
    split
    · rename_i here
      have zero (created : before.created = true) : before.announced = 0 := by
        have known := (sound.known id before had).seen created
        rw [here, unknown] at known
        exact known
      exact ⟨fun created => by simp [zero created], fun created _ => by simp [zero created], fine.changed⟩
    · exact fine
  away := sound.away

/-- Panes with an id that the loop has met are known from then on. -/
theorem detected (ids : List Nat) (sound : s.Sound) (emitted : s.sessionCreatedEmitted = true) :
    let t := ids.foldl (fun s pid => if s.spawnedSeen.contains pid then s else s.announce pid) s
    t.Sound ∧ t.sessionCreatedEmitted = true ∧ (∀ id, id ∈ s.spawnedSeen ∨ id ∈ ids → id ∈ t.spawnedSeen) ∧
      ∀ id, id ∈ t.panes ↔ id ∈ s.panes := by
  induction ids generalizing s with
  | nil => exact ⟨sound, emitted, fun id => fun known => known.resolve_right List.not_mem_nil, fun _ => Iff.rfl⟩
  | cons pid ids ih =>
      simp only [List.foldl_cons]
      cases known : s.spawnedSeen.contains pid with
      | true =>
          rw [if_pos rfl]
          obtain ⟨after, emittedAfter, all, keys⟩ := ih sound emitted
          refine ⟨after, emittedAfter, fun id place => all id ?_, keys⟩
          rcases place with seen | listed
          · exact .inl seen
          · rcases List.mem_cons.mp listed with rfl | later
            · exact .inl (List.contains_iff_mem.mp known)
            · exact .inr later
      | false =>
          rw [if_neg Bool.false_ne_true]
          obtain ⟨after, emittedAfter, all, keys⟩ := ih (sound.announce known emitted) emitted
          refine ⟨after, emittedAfter, fun id place => all id ?_, fun id => (keys id).trans ?_⟩
          · rcases place with seen | listed
            · exact .inl (List.mem_cons_of_mem pid seen)
            · rcases List.mem_cons.mp listed with rfl | later
              · exact .inl List.mem_cons_self
              · exact .inr later
          · exact Std.ExtTreeMap.mem_modify

theorem Sound.detectSpawned (sound : s.Sound) (emitted : s.sessionCreatedEmitted = true) : s.detectSpawned.Sound := by
  obtain ⟨after, emittedAfter, all, keys⟩ := detected s.panes.keys sound emitted
  unfold AnnouncingLoop.detectSpawned
  generalize s.panes.keys.foldl (fun s pid => if s.spawnedSeen.contains pid then s else s.announce pid) s = t at *
  have seen {id : Nat} {pane : AnnouncedPane} (found : t.panes[id]? = some pane) : t.spawnedSeen.contains id = true :=
    List.contains_iff_mem.mpr (all id (.inr (Std.ExtTreeMap.mem_keys.mpr ((keys id).mp (IdMap.mem_of_getElem? found)))))
  refine ⟨fun first => absurd (first.symm.trans emittedAfter) Bool.false_ne_true, ?_, ?_, after.away⟩
  · intro id pane found
    obtain ⟨before, had, rfl⟩ := Option.map_eq_some_iff.mp (Std.ExtTreeMap.getElem?_map.symm.trans found)
    have known := after.known id before had
    rw [seen had] at known
    have kept : (t.spawnedSeen.filter t.panes.contains).contains id = true :=
      List.contains_iff_mem.mpr (List.mem_filter.mpr ⟨List.contains_iff_mem.mp (seen had), IdMap.mem_of_getElem? had⟩)
    simp only [kept]
    exact ⟨known.seen, known.prev⟩
  · intro id pane found
    obtain ⟨before, had, rfl⟩ := Option.map_eq_some_iff.mp (Std.ExtTreeMap.getElem?_map.symm.trans found)
    have known := after.known id before had
    rw [seen had] at known
    have fine := after.fine id before had
    exact ⟨fine.once, fun created _ => known.seen created, fine.changed⟩

theorem Sound.pollPane (sound : s.Sound) (cwds : Nat → Option String) (pid : Nat) :
    (AnnouncingLoop.pollPane cwds s pid).Sound := by
  unfold AnnouncingLoop.pollPane
  split
  · exact sound
  · rename_i cwd live
    split
    · exact sound
    · rename_i changed
      refine ⟨sound.boot, ?_, ?_, sound.away⟩
      · intro id pane found
        obtain ⟨before, had, rfl⟩ := modified found
        have known := sound.known id before had
        simp only [IdMap.getElem?_insert]
        by_cases here : id = pid
        · rw [if_pos here, if_pos here]
          exact ⟨known.seen, fun _ => List.getLast?_concat.symm⟩
        · rw [if_neg here, if_neg here]
          exact known
      · intro id pane found
        obtain ⟨before, had, rfl⟩ := modified found
        have known := sound.known id before had
        have fine := sound.fine id before had
        split
        · rename_i here
          refine ⟨fine.once, fine.met, List.IsChain.append fine.changed (List.isChain_singleton _) ?_⟩
          intro last isLast first isFirst same
          have some : before.cwds ≠ [] := by
            intro none
            rw [none] at isLast
            cases isLast
          have remembered := (known.prev some).trans isLast
          rw [here, same, ← Option.some.inj isFirst] at remembered
          exact changed remembered
        · exact fine

theorem Sound.poll (sound : s.Sound) (cwds : Nat → Option String) : (s.poll cwds).Sound := by
  unfold AnnouncingLoop.poll
  generalize s.panes.keys = ids
  induction ids generalizing s with
  | nil => exact sound
  | cons pid ids ih => exact ih (sound.pollPane cwds pid)

/-- A pane is put where nothing is known, or in the place of another. -/
theorem Sound.insert (sound : s.Sound) {id : Nat} {pane : AnnouncedPane} (fine : pane.Fine)
    (known : pane.Matches (s.spawnedSeen.contains id) s.prevCwd[id]?) :
    ({ s with panes := s.panes.insert id pane } : AnnouncingLoop).Sound where
  boot := sound.boot
  known other found there := by
    rw [IdMap.getElem?_insert] at there
    split at there
    · rename_i here
      rw [here, ← Option.some.inj there]
      exact known
    · exact sound.known other found there
  fine other found there := by
    rw [IdMap.getElem?_insert] at there
    split at there
    · rw [← Option.some.inj there]
      exact fine
    · exact sound.fine other found there
  away := sound.away

/-- A tab is entered of whose panes the loop knows what is so. -/
theorem Sound.enter (sound : s.Sound) {entered : IdMap AnnouncedPane} {stored : List (IdMap AnnouncedPane)}
    (known : s.Known entered) (fine : AllFine entered) (away : ∀ panes ∈ stored, AllFine panes) :
    ({ s with panes := entered, stored } : AnnouncingLoop).Sound := ⟨sound.boot, known, fine, away⟩

theorem Sound.switch (sound : s.Sound) {tab : Nat} {entered : IdMap AnnouncedPane} (found : s.stored[tab]? = some entered)
    (known : s.Known entered) :
    ({ s with panes := entered, stored := s.stored.set tab s.panes } : AnnouncingLoop).Sound := by
  refine sound.enter known (sound.away entered (List.mem_of_getElem? found)) fun panes member => ?_
  rcases List.mem_or_eq_of_mem_set member with old | rfl
  · exact sound.away panes old
  · exact sound.fine

theorem Sound.step (sound : s.Sound) (move : Move) (fair : s.Fair move) : (s.step move).Sound := by
  cases move with
  | detect =>
      refine sound.emitCreated.detectSpawned ?_
      unfold AnnouncingLoop.emitCreated
      split
      · assumption
      · rfl
  | poll cwds => exact sound.poll cwds
  | split id =>
      refine sound.insert (.fresh true) ?_
      have unseen : id ∉ s.spawnedSeen := fair
      have unknown : s.spawnedSeen.contains id = false := by simpa using unseen
      rw [unknown]
      exact .fresh _
  | replace id => exact sound.insert (.fresh false) (.replaced _ _)
  | replaceStored tab id =>
      refine ⟨sound.boot, sound.known, sound.fine, fun panes member => ?_⟩
      obtain ⟨position, found⟩ := List.mem_iff_getElem?.mp member
      simp only [AnnouncingLoop.step, List.getElem?_modify] at found
      obtain ⟨before, had, rfl⟩ := Option.map_eq_some_iff.mp found
      have fine := sound.away before (List.mem_of_getElem? had)
      split
      · intro other pane there
        rw [IdMap.getElem?_insert] at there
        split at there
        · rw [← Option.some.inj there]
          exact .fresh false
        · exact fine other pane there
      · exact fine
  | close id =>
      have there {other : Nat} {pane : AnnouncedPane} (found : (s.panes.erase id)[other]? = some pane) :
          s.panes[other]? = some pane := by
        rw [IdMap.getElem?_erase] at found
        split at found
        · cases found
        · exact found
      exact ⟨sound.boot, fun other pane found => sound.known other pane (there found),
        fun other pane found => sound.fine other pane (there found), sound.away⟩
  | newTab id =>
      have only {other : Nat} {pane : AnnouncedPane}
          (found : ((∅ : IdMap AnnouncedPane).insert id { announced := 1 })[other]? = some pane) :
          other = id ∧ pane = { announced := 1 } := by
        rw [IdMap.getElem?_insert] at found
        split at found
        · exact ⟨‹_›, (Option.some.inj found).symm⟩
        · simp at found
      refine sound.enter (fun other pane found => ?_) (fun other pane found => ?_)
        (List.forall_mem_cons.mpr ⟨sound.fine, sound.away⟩)
      · obtain ⟨rfl, rfl⟩ := only found
        rw [List.contains_iff_mem.mpr fair]
        exact ⟨fun _ => rfl, fun some => absurd rfl some⟩
      · obtain ⟨rfl, rfl⟩ := only found
        exact ⟨fun _ => Nat.le_refl 1, fun _ _ => rfl, .nil⟩
  | newTabFailed tab | goToTab tab =>
      simp only [AnnouncingLoop.step]
      split
      · exact sound
      · rename_i entered found
        exact sound.switch found (fair entered found)
  | closeTab next =>
      simp only [AnnouncingLoop.step]
      split
      · exact sound
      · rename_i entered found
        exact sound.enter (fair entered found) (sound.away entered (List.mem_of_getElem? found))
          fun panes member => sound.away panes (List.mem_of_mem_eraseIdx member)
  | load panes stored =>
      refine ⟨fun _ => rfl, fun id pane found => ?_, allFine_freshPanes panes, fun panes member => ?_⟩
      · rw [fresh_of_freshPanes found]
        exact .fresh _
      · obtain ⟨ids, _, rfl⟩ := List.mem_map.mp member
        exact allFine_freshPanes ids

/-! ## Whole runs -/

/-- Panes that were spawned at boot, none of which has been announced. -/
structure Start (s : AnnouncingLoop) : Prop where
  first : s.spawnedSeen = []
  tabs : ∀ panes ∈ s.panes :: s.stored, ∀ (id : Nat) (pane : AnnouncedPane), panes[id]? = some pane → pane = {}

theorem Start.sound (start : s.Start) : s.Sound where
  boot _ := start.first
  known id pane found := by
    rw [start.tabs _ List.mem_cons_self id pane found, start.first]
    exact .fresh _
  fine id pane found := by
    rw [start.tabs _ List.mem_cons_self id pane found]
    exact .fresh true
  away panes member id pane found := by
    rw [start.tabs panes (List.mem_cons_of_mem _ member) id pane found]
    exact .fresh true

/-- In every run whose steps are fair, every pane of every tab has been announced once if its tab has
been active for an iteration, and never twice, and no directory is published twice in a row. -/
theorem fine_of_fair {start : AnnouncingLoop} (starts : start.Start) (run : Machine.Run AnnouncingLoop.step Fair start s) :
    ∀ panes ∈ s.panes :: s.stored, AllFine panes := by
  have sound : s.Sound :=
    @Machine.Run.invariant _ _ _ _ AnnouncingLoop.Sound (fun _ move sound fair => sound.step move fair) _ _ starts.sound run
  exact List.forall_mem_cons.mpr ⟨sound.fine, sound.away⟩

def oneShell : AnnouncingLoop := { panes := freshPanes [0] }

theorem oneShell_start : oneShell.Start where
  first := rfl
  tabs panes member id pane found := by
    rw [List.mem_singleton.mp member] at found
    exact fresh_of_freshPanes found

/-- A second tab of one pane, in the same directory, and back to the first one. -/
theorem fine_there_and_back :
    AllFine (([.detect, .poll fun _ => some "/", .newTab 0, .detect, .poll fun _ => some "/", .goToTab 0, .detect] :
        List Move).foldl AnnouncingLoop.step oneShell).panes ∧
      ∀ panes ∈ (([.detect, .poll fun _ => some "/", .newTab 0, .detect, .poll fun _ => some "/", .goToTab 0, .detect] :
        List Move).foldl AnnouncingLoop.step oneShell).stored, AllFine panes := by
  have run := @Machine.Run.start _ _ AnnouncingLoop.step Fair oneShell
  have run := (run.step .detect trivial).step (.poll fun _ => some "/") trivial
  have run := (run.step (.newTab 0) (by decide +kernel)).step .detect trivial
  have run := (run.step (.poll fun _ => some "/") trivial).step (.goToTab 0) (by decide +kernel)
  exact List.forall_mem_cons.mp (fine_of_fair oneShell_start (run.step .detect trivial))

/-- Two panes are split, and left for a new tab: the second is announced again on the way back. -/
theorem second_pane_announced_twice :
    ¬∀ start s, start.Start → Machine.Run AnnouncingLoop.step (fun _ _ => True) start s →
      ∀ panes ∈ s.panes :: s.stored, AllFine panes := by
  intro fine
  have all := fine oneShell _ oneShell_start
    (.of_labels AnnouncingLoop.step oneShell [.detect, .split 1, .detect, .newTab 0, .detect, .goToTab 0, .detect])
  have once := (all _ List.mem_cons_self 1 { announced := 2, met := true } (by decide +kernel)).once rfl
  exact absurd once (by decide)

end AnnouncingLoop

end Ezpn.Announcements
