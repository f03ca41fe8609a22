import Ezpn.Server.Loop.Rules
import Ezpn.Server.Processes

/-!
# The announcement of exits

The loop announces a dead pane unless the fired set has its id. Ids are those of one
tab, and the set is shared by all tabs; it keeps an id through most replacements of
the pane. Where neither matters, every exit is announced once.
-/

set_option autoImplicit false

namespace Ezpn

/-! ## What the fired set stands for -/

section Accounted
variable {R G : Type}

/-- The fired set has just the panes of the active tab whose exit has been announced, and
none has been announced twice. -/
structure Session.Accounted (s : Session R G) (fired announced : List Nat) : Prop where
  numbered : s.Numbered
  below : ∀ process ∈ announced, process < s.spawns
  synced : ∀ (id : Nat) (pane : Pane G), s.tab.panes[id]? = some pane → (id ∈ fired ↔ pane.process ∈ announced)
  nodup : announced.Nodup

namespace Session.Accounted
variable {s t : Session R G} {fired rearmed announced : List Nat}

/-- New processes need places that the set does not know. -/
theorem advance {Rel : Pane G → Pane G → Prop} {fresh : List Nat} (accounted : s.Accounted fired announced)
    (numbered : t.Numbered) (renewed : PaneMap.Renewed Rel s.spawns t.spawns fresh s.tab.panes t.tab.panes)
    (same : ∀ a b, Rel a b → b.process = a.process) (freed : ∀ id ∈ fresh, id ∉ rearmed)
    (kept : ∀ id, id ∉ fresh → (id ∈ rearmed ↔ id ∈ fired)) : t.Accounted rearmed announced := by
  refine ⟨numbered, fun process member => (accounted.below process member).trans_le renewed.le,
    fun id pane found => ?_, accounted.nodup⟩
  rcases renewed.pane id pane found with ⟨old, before, foundBefore, related⟩ | ⟨new, above⟩
  · rw [kept id old, same _ _ related]
    exact accounted.synced id before foundBefore
  · constructor
    · intro member
      exact absurd member (freed id new)
    · intro member
      have := accounted.below _ member
      omega

/-- Entering a tab whose panes the set describes. -/
theorem enter (accounted : s.Accounted fired announced) (numbered : t.Numbered) (le : s.spawns ≤ t.spawns)
    (synced : ∀ (id : Nat) (pane : Pane G), t.tab.panes[id]? = some pane →
      (id ∈ fired ↔ pane.process ∈ announced)) : t.Accounted fired announced :=
  ⟨numbered, fun process member => (accounted.below process member).trans_le le, synced, accounted.nodup⟩

end Session.Accounted

end Accounted

namespace Loop
variable {R G U : Type}

/-- Everything announced once, and nothing lost. -/
structure ExitsKept (l : Loop R G U) : Prop where
  accounted : l.core.session.Accounted l.exitedFired l.announced
  lost : l.lost = []

/-- Every dead pane of the active tab has been announced. -/
def Detected (l : Loop R G U) : Prop :=
  ∀ (id : Nat) (pane : Pane G), l.core.session.tab.panes[id]? = some pane → pane.alive = false →
    pane.process ∈ l.announced

instance (l : Loop R G U) : Decidable l.Detected :=
  decidable_of_iff (∀ entry ∈ l.core.session.tab.panes.toList, entry.2.alive = false → entry.2.process ∈ l.announced) <| by
    constructor
    · intro all id pane found dead
      exact all (id, pane) (Std.ExtTreeMap.mem_toList_iff_getElem?_eq_some.mpr found) dead
    · intro detected entry member dead
      exact detected entry.1 entry.2 (Std.ExtTreeMap.mem_toList_iff_getElem?_eq_some.mp member) dead

/-! ## Detection -/

theorem mem_exiting {l : Loop R G U} {id : Nat} {pane : Pane G} :
    (id, pane) ∈ l.exiting ↔
      l.core.session.tab.panes[id]? = some pane ∧ pane.alive = false ∧ id ∉ l.exitedFired := by
  simp [exiting, List.mem_filter, Std.ExtTreeMap.mem_toList_iff_getElem?_eq_some]

theorem exiting_nodup {l : Loop R G U} (numbered : l.core.session.Numbered) :
    (l.exiting.map (·.2.process)).Nodup := by
  have keys : l.exiting.Pairwise fun a b => a.1 ≠ b.1 := by
    refine List.Pairwise.filter _ (List.Pairwise.imp ?_ Std.ExtTreeMap.distinct_keys_toList)
    intro a b different same
    exact different (by rw [same]; exact Std.ReflCmp.compare_self)
  refine List.pairwise_map.mpr (keys.imp_of_mem ?_)
  intro a b memberA memberB different same
  exact different (numbered.1.distinct _ _ _ _ (mem_exiting.mp memberA).1 (mem_exiting.mp memberB).1 same)

theorem announceExits_detected {l : Loop R G U} (accounted : l.core.session.Accounted l.exitedFired l.announced) :
    l.announceExits.Detected := by
  intro id pane found dead
  simp only [announceExits, List.mem_append]
  by_cases fired : id ∈ l.exitedFired
  · exact .inl ((accounted.synced id pane found).mp fired)
  · exact .inr (List.mem_map.mpr ⟨(id, pane), mem_exiting.mpr ⟨found, dead, fired⟩, rfl⟩)

theorem announceExits_kept {l : Loop R G U} (kept : l.ExitsKept) : l.announceExits.ExitsKept := by
  have accounted := kept.accounted
  refine ⟨⟨accounted.numbered, fun process member => ?_, fun id pane found => ?_, ?_⟩, kept.lost⟩
  · rcases List.mem_append.mp member with old | new
    · exact accounted.below process old
    · obtain ⟨⟨id, pane⟩, exits, rfl⟩ := List.mem_map.mp new
      exact accounted.numbered.1.below id pane (mem_exiting.mp exits).1
  · have before := accounted.synced id pane found
    simp only [announceExits, List.mem_append, before, List.mem_map]
    constructor
    · rintro (old | ⟨⟨other, twin⟩, exits, rfl⟩)
      · exact .inl old
      · have same := Option.some.inj ((mem_exiting.mp exits).1.symm.trans found)
        exact .inr ⟨(other, twin), exits, congrArg Pane.process same⟩
    · rintro (old | ⟨⟨other, twin⟩, exits, same⟩)
      · exact .inl old
      · have here := accounted.numbered.1.distinct other id twin pane (mem_exiting.mp exits).1 found same
        exact .inr ⟨(other, twin), exits, here⟩
  · refine List.nodup_append.mpr ⟨accounted.nodup, exiting_nodup accounted.numbered, ?_⟩
    intro process old other new same
    obtain ⟨⟨id, pane⟩, exits, rfl⟩ := List.mem_map.mp new
    obtain ⟨found, _, unfired⟩ := mem_exiting.mp exits
    exact unfired ((accounted.synced id pane found).mpr (same ▸ old))

/-! ## Operations -/

section Operations
variable [RatioOps R] [Vt100 G] {format : SnapshotFormat R} {world : World}

/-- The set describes the panes of the tab that is entered. -/
def Entering (l : Loop R G U) (after : Core R G) : Prop :=
  ∀ (id : Nat) (pane : Pane G), after.session.tab.panes[id]? = some pane →
    (id ∈ l.exitedFired ↔ pane.process ∈ l.announced)

/-- What the announcements depend on: a pane is given up while it runs or once its exit is
announced; a process that is not a restart gets an id that the set does not know; and the set
describes the tab that is entered. -/
structure KeepsExits (format : SnapshotFormat R) (world : World) (l : Loop R G U) (op : Op R) : Prop where
  givenUp : ∀ old ∈ l.core.givenUp world op, old.alive = false → old.process ∈ l.announced
  fresh : op ≠ .restart → ∀ id ∈ l.core.fresh world op, id ∉ l.exitedFired
  enters : op.stays = false → (∀ feeds, op ≠ .read feeds) → (∀ path, op ≠ .load path) →
    l.Entering (l.core.apply format world op)

theorem perform_lost {l : Loop R G U} {op : Op R} (lost : l.lost = [])
    (givenUp : ∀ old ∈ l.core.givenUp world op, old.alive = false → old.process ∈ l.announced) :
    (l.perform format world op).lost = [] := by
  have none : ((l.core.givenUp world op).filter fun pane => !pane.alive && !l.announced.contains pane.process) = [] := by
    rw [List.filter_eq_nil_iff]
    intro old member
    have announced := givenUp old member
    cases alive : old.alive <;> simp [alive] at announced ⊢
    exact announced
  simp only [perform, lost, none, List.map_nil, List.append_nil]

theorem read_exitsKept {l : Loop R G U} (kept : l.ExitsKept) (feeds : Nat → Pane.Feed) :
    (l.perform format world (.read feeds)).ExitsKept := by
  have counted : (l.core.apply format world (.read feeds)).session.spawns = l.core.session.spawns := by
    obtain ⟨panes, detected, _⟩ := l.core.detectSpawned_session
    simp only [Core.apply, Core.readAll, detected]
    rfl
  have renewed := (l.core.read_processes format world feeds).renewed (fun _ _ same => same) counted.ge
  refine ⟨?_, perform_lost kept.lost fun old member => by cases member⟩
  exact kept.accounted.advance (l.core.read_numbered format world feeds kept.accounted.numbered) renewed
    (fun _ _ same => same) (fun id new => by cases new) fun id _ => Iff.rfl

theorem load_exitsKept {l : Loop R G U} (kept : l.ExitsKept) (path : String) :
    (l.perform format world (.load path)).ExitsKept := by
  have numbered := l.core.apply_numbered format world (.load path) kept.accounted.numbered
  have counted := l.core.session.load_spawns format world path
  refine ⟨?_, perform_lost kept.lost fun old member => by cases member⟩
  rcases l.core.session.load_cases format world path with ⟨message, spawns, failed⟩ | ⟨saved, next, _, loaded, _⟩
  · simp only [perform, rearmed, Core.apply, Core.load, failed] at numbered counted ⊢
    exact kept.accounted.enter numbered counted kept.accounted.synced
  · have fresh := (Session.load_spawned loaded).1.from_first
    simp only [perform, rearmed, Core.apply, Core.load, loaded, Except.isOk, Except.toBool, if_true] at numbered counted ⊢
    refine ⟨numbered, fun process member => (kept.accounted.below process member).trans_le counted,
      fun id pane found => ⟨fun none => absurd none List.not_mem_nil, fun member => ?_⟩, kept.accounted.nodup⟩
    have := fresh id pane found
    have := kept.accounted.below _ member
    omega

theorem perform_exitsKept {l : Loop R G U} (kept : l.ExitsKept) (op : Op R) (keeps : l.KeepsExits format world op) :
    (l.perform format world op).ExitsKept := by
  have numbered := l.core.apply_numbered format world op kept.accounted.numbered
  cases stays : op.stays with
  | true =>
      refine ⟨?_, perform_lost kept.lost keeps.givenUp⟩
      have renewed := l.core.apply_renewed format world op stays
      by_cases restart : op = .restart
      · subst restart
        refine kept.accounted.advance numbered renewed (fun _ _ steady => steady.process) ?_ ?_
        · intro id new member
          have old := (List.mem_filter.mp member).2
          have new : id ∈ (l.core.restarting world).restarted := new
          simp [new] at old
        · intro id old
          have old : id ∉ (l.core.restarting world).restarted := old
          simp [perform, rearmed, old]
      · have same : (l.perform format world op).exitedFired = l.exitedFired := by
          cases op <;> first | rfl | exact absurd rfl restart | cases stays
        rw [same]
        exact kept.accounted.advance numbered renewed (fun _ _ steady => steady.process) (keeps.fresh restart)
          fun id _ => Iff.rfl
  | false =>
      have entered (counted : l.core.session.spawns ≤ (l.core.apply format world op).session.spawns)
          (same : (l.perform format world op).exitedFired = l.exitedFired)
          (synced : l.Entering (l.core.apply format world op)) : (l.perform format world op).ExitsKept :=
        ⟨same ▸ kept.accounted.enter numbered counted synced, perform_lost kept.lost keeps.givenUp⟩
      cases op with
      | read feeds => exact read_exitsKept kept feeds
      | load path => exact load_exitsKept kept path
      | newTab name =>
          exact entered (Session.newTab_spawns world name _) rfl (keeps.enters rfl (by simp) (by simp))
      | goToTab target => exact entered (l.core.goToTab_spawns world target).ge rfl (keeps.enters rfl (by simp) (by simp))
      | closeTab => exact entered (l.core.closeTab_spawns world).ge rfl (keeps.enters rfl (by simp) (by simp))
      | _ => cases stays

/-- An operation that spawns nothing and gives up nothing in a tab that stays. -/
theorem quiet_keepsExits {l : Loop R G U} {op : Op R} (stays : op.stays = true) (givenUp : l.core.givenUp world op = [])
    (fresh : l.core.fresh world op = []) : l.KeepsExits format world op :=
  ⟨by simp [givenUp], by simp [fresh], by simp [stays]⟩

theorem restart_keepsExits {l : Loop R G U} (detected : l.Detected) : l.KeepsExits format world .restart := by
  refine ⟨fun old member dead => ?_, fun other => absurd rfl other, fun leaves => by cases leaves⟩
  obtain ⟨id, _, found⟩ := List.mem_filterMap.mp member
  exact detected id old found dead

theorem detect_exitsKept {l : Loop R G U} (kept : l.ExitsKept) (feeds : Nat → Pane.Feed) :
    (l.detect format world feeds).ExitsKept ∧ (l.detect format world feeds).Detected := by
  have prompted : ((l.perform format world (.read feeds)).perform format world .prompt).ExitsKept :=
    perform_exitsKept (read_exitsKept kept feeds) .prompt (quiet_keepsExits rfl rfl rfl)
  exact ⟨announceExits_kept prompted, announceExits_detected prompted.accounted⟩

theorem frame_exitsKept {l : Loop R G U} (kept : l.ExitsKept) (input : FrameInput) :
    (l.frame format world input).ExitsKept := by
  have rendered (targets : Option (List Nat)) :
      (l.core.apply format world (.render targets)).session.Accounted l.exitedFired l.announced :=
    kept.accounted.advance (l.core.apply_numbered format world (.render targets) kept.accounted.numbered)
      (l.core.apply_renewed format world (.render targets) rfl) (fun _ _ steady => steady.process)
      (fun id new => absurd new List.not_mem_nil) fun id _ => Iff.rfl
  simp only [frame]
  split
  · split <;> exact ⟨rendered _, kept.lost⟩
  · exact ⟨rendered _, kept.lost⟩

omit [RatioOps R] [Vt100 G] in
theorem exitsKept_indifferent : Indifferent (ExitsKept (R := R) (G := G) (U := U)) :=
  { ui := fun _ _ kept => ⟨kept.accounted, kept.lost⟩
    ended := fun _ kept => ⟨kept.accounted, kept.lost⟩
    marked := fun _ _ kept => ⟨kept.accounted, kept.lost⟩
    clients := fun _ _ _ _ _ _ kept => ⟨kept.accounted, kept.lost⟩ }

/-! ## Runs -/

variable [Interface U]

/-- The conditions of one step: those of the operations that its handlers run, of restarts in
background tabs, and of a dead tab's close. -/
def AnnouncesOnce (format : SnapshotFormat R) (l : Loop R G U) : World × LoopOp R G U → Prop
  | (world, .upkeep feeds) =>
      let restarted := (l.detect format world feeds).perform format world .restart
      let all := restarted.perform format world .restartInactive
      restarted.KeepsExits format world .restartInactive ∧
        (all.core.activeTabDead = true → 1 < all.core.session.tabMgr.count →
          all.Entering (all.core.apply format world .closeTab))
  | (world, op) => l.Handles format world (KeepsExits format world) op

theorem closeDeadTab_exitsKept {l : Loop R G U} (kept : l.ExitsKept)
    (closes : l.core.activeTabDead = true → 1 < l.core.session.tabMgr.count →
      l.Entering (l.core.apply format world .closeTab)) : (l.closeDeadTab format world).ExitsKept := by
  simp only [closeDeadTab]
  split
  · exact kept
  rename_i dead
  split
  · exact ⟨kept.accounted, kept.lost⟩
  rename_i several
  have numbered := l.core.apply_numbered format world .closeTab kept.accounted.numbered
  have counted := l.core.closeTab_spawns world
  have entering := closes (by simpa using dead) (by omega)
  exact ⟨kept.accounted.enter numbered counted.ge entering, kept.lost⟩

theorem upkeep_exitsKept {l : Loop R G U} (kept : l.ExitsKept) (feeds : Nat → Pane.Feed)
    (once : l.AnnouncesOnce format (world, .upkeep feeds)) : (l.upkeep format world feeds).ExitsKept := by
  obtain ⟨background, closes⟩ := once
  have ⟨detected, announced⟩ : (l.detect format world feeds).ExitsKept ∧ (l.detect format world feeds).Detected :=
    detect_exitsKept kept feeds
  have all : ((l.detect format world feeds).restartAll format world).ExitsKept :=
    perform_exitsKept (perform_exitsKept detected .restart (restart_keepsExits announced)) .restartInactive background
  have closed := closeDeadTab_exitsKept all closes
  simp only [upkeep]
  split
  · exact closed
  · exact perform_exitsKept closed .unzoomMissing (quiet_keepsExits rfl rfl rfl)

theorem step_exitsKept {l : Loop R G U} (kept : l.ExitsKept) (label : World × LoopOp R G U)
    (once : l.AnnouncesOnce format label) : (l.step format label).ExitsKept := by
  obtain ⟨world, op⟩ := label
  have performs (l : Loop R G U) (op : Op R) (kept : l.ExitsKept) (_ : op.handled = true)
      (keeps : l.KeepsExits format world op) : (l.perform format world op).ExitsKept := perform_exitsKept kept op keeps
  have resizes (l : Loop R G U) (tw th : Nat) (kept : l.ExitsKept) :
      (l.perform format world (.resizeTerminal tw th)).ExitsKept :=
    perform_exitsKept kept _ (quiet_keepsExits rfl rfl rfl)
  simp only [step]
  split
  · exact kept
  cases op with
  | upkeep feeds =>
      have served : (l.upkeep format world feeds).ExitsKept := upkeep_exitsKept kept feeds once
      exact served
  | front handler => exact handle_invariant exitsKept_indifferent.toInert performs kept handler once
  | attach w h mode connected =>
      exact acceptClient_invariant exitsKept_indifferent resizes (fun _ _ _ _ kept => ⟨kept.accounted, kept.lost⟩)
        (fun _ kept => ⟨kept.accounted, kept.lost⟩) kept w h mode connected
  | message id msg => exact message_invariant exitsKept_indifferent performs kept id msg once
  | outputFailed id => exact ⟨kept.accounted, kept.lost⟩
  | settle =>
      exact settle_invariant exitsKept_indifferent resizes
        (fun _ kept => perform_exitsKept kept .save (quiet_keepsExits rfl rfl rfl)) kept
  | frame input => exact frame_exitsKept kept input
  | kill => exact ⟨kept.accounted, kept.lost⟩

/-- In a run whose steps meet the conditions no exit is announced twice or lost, and once the
upkeep has read the panes every dead one of the active tab has been announced. -/
theorem exits_once (format : SnapshotFormat R) {bootWorld : World} {config : LaunchConfig} {startup : Startup R}
    {session : Session R G} (booted : boot format bootWorld config startup = .ok session) (ui : U)
    {log : List (Loop R G U × (World × LoopOp R G U))} {l : Loop R G U}
    (history : Machine.History (step format) { core := { session }, ui } log l)
    (once : ∀ entry ∈ log, entry.1.AnnouncesOnce format entry.2) :
    (l.announced.Nodup ∧ l.lost = []) ∧
      ∀ entry ∈ log, ∀ world feeds, entry.2 = (world, .upkeep feeds) →
        (entry.1.detect format world feeds).announced.Nodup ∧ (entry.1.detect format world feeds).Detected := by
  have initial : ExitsKept ({ core := { session }, ui } : Loop R G U) := by
    refine ⟨⟨Session.boot_numbered booted, by simp, by simp, by simp⟩, rfl⟩
  have kept := history.invariant ExitsKept (AnnouncesOnce format)
    (fun l label kept once => step_exitsKept kept label once) initial once
  refine ⟨⟨kept.1.accounted.nodup, kept.1.lost⟩, fun entry member world feeds _ => ?_⟩
  have ⟨detected, announced⟩ : (entry.1.detect format world feeds).ExitsKept ∧
      (entry.1.detect format world feeds).Detected := detect_exitsKept (kept.2 entry member) feeds
  exact ⟨detected.accounted.nodup, announced⟩

end Operations

/-- A pane is split off, then the shell of the first one ends. -/
def firstExit : List (World × LoopOp ℚ RawDisplay Unit) :=
  [({}, .front fun _ _ => [.op (.split 0 .horizontal) (@rfl Bool true)]), ({}, .upkeep (exitOf 0))]

/-- Enter starts the shell again, under the id that the fired set has kept. -/
theorem respawned_exit_unannounced :
    ¬∀ (log : List (Loop ℚ RawDisplay Unit × (World × LoopOp ℚ RawDisplay Unit))) (l : Loop ℚ RawDisplay Unit),
      Machine.History (step plainFormat) { core := { session := oneShell }, ui := () } log l →
      ∀ entry ∈ log, ∀ world feeds, entry.2 = (world, .upkeep feeds) →
        (entry.1.detect plainFormat world feeds).Detected := by
  intro claimed
  have run := (Machine.History.of_labels (step plainFormat)
    ({ core := { session := oneShell }, ui := () } : Loop ℚ RawDisplay Unit) firstExit).step
    ({}, .front fun _ _ => [.op .respawn])
  have detected := claimed _ _ (run.step ({}, .upkeep (exitOf 2))) _
    (List.mem_append_right _ (List.mem_singleton_self _)) {} (exitOf 2) rfl
  revert detected
  decide +kernel

theorem firstExit_announced :
    let l := firstExit.foldl (step plainFormat) { core := { session := oneShell }, ui := () }
    (l.announced.Nodup ∧ l.lost = []) ∧ l.announced = [0] := by
  intro l
  have run := Machine.History.of_labels (step plainFormat)
    ({ core := { session := oneShell }, ui := () } : Loop ℚ RawDisplay Unit) firstExit
  refine ⟨(exits_once plainFormat oneShell_booted () run ?_).1, by decide +kernel⟩
  simp only [firstExit, Machine.trace, List.forall_mem_cons]
  refine ⟨⟨fun _ => ⟨by simp [Core.givenUp], fun _ => by decide +kernel, by simp [Op.stays]⟩, trivial⟩, ⟨?_, ?_⟩,
    by simp⟩
  · refine quiet_keepsExits rfl (List.eq_nil_of_length_eq_zero ?_) rfl
    decide +kernel
  · intro dead
    have alive : ∀ l : Loop ℚ RawDisplay Unit, l.core.activeTabDead = false → ¬l.core.activeTabDead = true := by simp
    exact absurd dead (alive _ (by decide +kernel))

end Loop

end Ezpn
