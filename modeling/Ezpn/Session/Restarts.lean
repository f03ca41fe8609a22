import Ezpn.Session.Tabs

/-!
# One pass over the dead panes

What a pass of `restartPanes` does to each pane and to the ledger of attempts. A
pass first forgets the entries of panes that have run for long, or are gone; then
every candidate whose turn has come uses up one attempt, and nothing else changes.
-/

set_option autoImplicit false

namespace Ezpn
variable {R G : Type} [RatioOps R] [Vt100 G]

/-! ## Whose turn it is -/

/-- The entry a candidate has, or is given. -/
def restartEntry (now : Nat) (state : RestartState) (id : Nat) : Int × Nat := state[id]?.getD ((now : Int) - 2000, 0)

/-- The budget is not used up, and the back-off delay is over. -/
def restartDue (now : Nat) (state : RestartState) (id : Nat) : Bool :=
  let (started, attempts) := restartEntry now state id
  !(attempts ≥ maxRestartRetries || (now : Int) - started < restartDelay attempts)

/-- The ledger without the panes that are gone or have run for 30 seconds since their entry. -/
def retainedRestarts (now : Nat) (panes : PaneMap G) (state : RestartState) : RestartState :=
  state.filter fun pid (started, _) => (panes[pid]?).any fun pane => !pane.alive || (now : Int) - started < 30000

/-- The policy of a dead pane allows its exit status. -/
def restartable (policies : IdMap RestartPolicy) (id : Nat) (pane : Pane G) : Bool :=
  !pane.alive && (policies[id]?).any fun policy => restartAllowed policy pane.exitCode

def restartCandidates (panes : PaneMap G) (policies : IdMap RestartPolicy) : List Nat :=
  (panes.toList.filter fun (id, pane) => restartable policies id pane).map (·.1)

/-- The panes that a pass tries to restart. -/
def restartAttempts (now : Nat) (panes : PaneMap G) (policies : IdMap RestartPolicy) (state : RestartState) : List Nat :=
  (restartCandidates panes policies).filter (restartDue now (retainedRestarts now panes state))

omit [Vt100 G] in
theorem mem_restartCandidates {panes : PaneMap G} {policies : IdMap RestartPolicy} {id : Nat} :
    id ∈ restartCandidates panes policies ↔ ∃ pane, panes[id]? = some pane ∧ restartable policies id pane = true := by
  simp only [restartCandidates, List.mem_map, List.mem_filter]
  constructor
  · rintro ⟨⟨_, pane⟩, ⟨listed, allowed⟩, rfl⟩
    exact ⟨pane, Std.ExtTreeMap.mem_toList_iff_getElem?_eq_some.mp listed, allowed⟩
  · intro ⟨pane, found, allowed⟩
    exact ⟨(id, pane), ⟨Std.ExtTreeMap.mem_toList_iff_getElem?_eq_some.mpr found, allowed⟩, rfl⟩

omit [Vt100 G] in
theorem restartCandidates_nodup (panes : PaneMap G) (policies : IdMap RestartPolicy) :
    (restartCandidates panes policies).Nodup := by
  refine List.pairwise_map.mpr (List.Pairwise.filter _ (List.Pairwise.imp ?_ Std.ExtTreeMap.distinct_keys_toList))
  intro left right different same
  exact different (by simp [same])

omit [Vt100 G] in
theorem getElem?_retainedRestarts {now : Nat} {panes : PaneMap G} {state : RestartState} {id : Nat} :
    (retainedRestarts now panes state)[id]? = state[id]?.filter fun entry =>
      (panes[id]?).any fun pane => !pane.alive || (now : Int) - entry.1 < 30000 :=
  Std.ExtTreeMap.getElem?_filter'

theorem restartDue_iff {now : Nat} {state : RestartState} {id : Nat} :
    restartDue now state id = true ↔
      (restartEntry now state id).2 < maxRestartRetries ∧
        (restartDelay (restartEntry now state id).2 : Int) ≤ (now : Int) - (restartEntry now state id).1 := by
  simp [restartDue]

/-- A pane without an entry has its turn at once. -/
theorem restartDue_of_none {now : Nat} {state : RestartState} {id : Nat} (none : state[id]? = none) :
    restartDue now state id = true := by
  rw [restartDue_iff, restartEntry, none]
  simp [maxRestartRetries, restartDelay]

/-! ## One candidate -/

theorem restartPane_waits {world : World} {layout : Layout R} {shell : String} {tw th : Nat} {settings : Settings}
    {scrollback : Nat} {acc : Restarts G} {id : Nat} (waits : restartDue world.now acc.state id = false) :
    restartPane world layout shell tw th settings scrollback acc id =
      { acc with state := acc.state.insert id (restartEntry world.now acc.state id) } := by
  simp only [restartDue, Bool.not_eq_false'] at waits
  unfold restartPane
  rw [← restartEntry]
  dsimp only
  split
  · rfl
  · rename_i otherwise
    exact absurd waits otherwise

/-- A replacement fails only for want of a rectangle or of a process. -/
theorem replacePane_succeeds {world : World} (faultless : ∀ attempt shell, world.spawnError attempt shell = none)
    {layout : Layout R} {paneId : Nat} (leaf : paneId ∈ layout.paneIds) (spawns : Nat) (panes : PaneMap G)
    (launch : PaneLaunch) (shell : String) (tw th : Nat) (settings : Settings) (scrollback : Nat) :
    (replacePane world spawns panes layout paneId launch shell tw th settings scrollback).result = .ok () := by
  obtain ⟨rect, placed⟩ := IdMap.getElem?_of_mem
    (Layout.mem_paneRects.mpr leaf : paneId ∈ layout.paneRects (terminalContentArea tw th settings))
  have wide : max rect.w 1 ≠ 0 := by omega
  have high : max rect.h 1 ≠ 0 := by omega
  simp [replacePane, placed, Pane.spawnInner, wide, high, faultless]

/-- What an attempt for a pane leaves behind. -/
structure Attempted (world : World) (layout : Layout R) (id : Nat) (acc next : Restarts G) : Prop where
  state : next.state = acc.state.insert id ((world.now : Int), (restartEntry world.now acc.state id).2 + 1)
  others : ∀ other, other ≠ id → next.panes[other]? = acc.panes[other]?
  keys : ∀ other, other ∈ next.panes ↔ other ∈ acc.panes
  restarted : next.restarted = acc.restarted ∨ next.restarted = acc.restarted ++ [id]
  succeeds : (∀ attempt shell, world.spawnError attempt shell = none) → id ∈ layout.paneIds →
    next.restarted = acc.restarted ++ [id]

theorem restartPane_attempts {world : World} {layout : Layout R} {shell : String} {tw th : Nat} {settings : Settings}
    {scrollback : Nat} {acc : Restarts G} {id : Nat} {old : Pane G}
    (turn : restartDue world.now acc.state id = true) (found : acc.panes[id]? = some old) :
    Attempted world layout id acc (restartPane world layout shell tw th settings scrollback acc id) := by
  have present := IdMap.mem_of_getElem? found
  simp only [restartDue, Bool.not_eq_true'] at turn
  unfold restartPane
  rw [← restartEntry]
  dsimp only
  split
  · rename_i otherwise
    exact absurd otherwise (ne_true_of_eq_false turn)
  simp only [found]
  rcases replacePane_cases world acc.spawns acc.panes layout id old.launch (old.initialShell.getD shell) tw th
      settings scrollback with ⟨message, failed, same⟩ | ⟨rect, cwd, env, pane, accepted, _, placed, started, replaced⟩
  · rw [failed, same]
    refine ⟨rfl, fun _ _ => rfl, fun _ => Iff.rfl, .inl rfl, fun faultless leaf => ?_⟩
    have succeeds := replacePane_succeeds faultless leaf acc.spawns acc.panes old.launch
      (old.initialShell.getD shell) tw th settings scrollback
    rw [failed] at succeeds
    cases succeeds
  · rw [accepted, replaced]
    refine ⟨rfl, fun other different => ?_, fun other => ?_, .inr rfl, fun _ _ => rfl⟩
    · simp only [insert_modify, IdMap.getElem?_insert, if_neg different]
    · simp only [insert_modify, IdMap.mem_insert_iff]
      constructor
      · rintro (rfl | member)
        · exact present
        · exact member
      · exact .inr

/-! ## All candidates -/

/-- What a pass over candidates leaves behind: the ones whose turn it was have made an attempt. -/
structure Passed (world : World) (layout : Layout R) (ids : List Nat) (acc out : Restarts G) : Prop where
  attempted : ∀ id ∈ ids, restartDue world.now acc.state id = true →
    out.state[id]? = some ((world.now : Int), (restartEntry world.now acc.state id).2 + 1)
  waiting : ∀ id ∈ ids, restartDue world.now acc.state id = false →
    out.state[id]? = some (restartEntry world.now acc.state id)
  others : ∀ id, id ∉ ids → out.state[id]? = acc.state[id]?
  untouched : ∀ id, id ∉ ids.filter (restartDue world.now acc.state) → out.panes[id]? = acc.panes[id]?
  keys : ∀ id, id ∈ out.panes ↔ id ∈ acc.panes
  restarted : ∃ fresh, fresh.Sublist (ids.filter (restartDue world.now acc.state)) ∧ out.restarted = acc.restarted ++ fresh
  succeeds : (∀ attempt shell, world.spawnError attempt shell = none) → (∀ id ∈ ids, id ∈ layout.paneIds) →
    out.restarted = acc.restarted ++ ids.filter (restartDue world.now acc.state)

omit [RatioOps R] [Vt100 G] in
theorem Passed.nil (world : World) (layout : Layout R) (acc : Restarts G) : Passed world layout [] acc acc where
  attempted _ member := nomatch member
  waiting _ member := nomatch member
  others _ _ := rfl
  untouched _ _ := rfl
  keys _ := Iff.rfl
  restarted := ⟨[], .refl _, (List.append_nil _).symm⟩
  succeeds _ _ := (List.append_nil _).symm

omit [RatioOps R] [Vt100 G] in
/-- Entries of other panes do not change whose turn it is. -/
theorem restartEntry_of_same {now : Nat} {state next : RestartState} {id : Nat} (same : next[id]? = state[id]?) :
    restartEntry now next id = restartEntry now state id := by
  rw [restartEntry, restartEntry, same]

theorem restartDue_of_same {now : Nat} {state next : RestartState} {id : Nat} (same : next[id]? = state[id]?) :
    restartDue now next id = restartDue now state id := by
  rw [restartDue, restartDue, restartEntry_of_same same]

omit [RatioOps R] [Vt100 G] in
theorem filter_restartDue_insert {now : Nat} {state : RestartState} {ids : List Nat} {id : Nat} {entry : Int × Nat}
    (new : id ∉ ids) :
    ids.filter (restartDue now (state.insert id entry)) = ids.filter (restartDue now state) := by
  refine List.filter_congr fun other member => restartDue_of_same ?_
  rw [IdMap.getElem?_insert, if_neg fun (same : other = id) => new (same ▸ member)]

section Cons
variable {world : World} {layout : Layout R} {acc next out : Restarts G} {id : Nat} {ids : List Nat}

omit [RatioOps R] [Vt100 G] in
theorem Passed.cons_waiting (new : id ∉ ids) (waits : restartDue world.now acc.state id = false)
    (passed : Passed world layout ids
      { acc with state := acc.state.insert id (restartEntry world.now acc.state id) } out) :
    Passed world layout (id :: ids) acc out := by
  have kept : (acc.state.insert id (restartEntry world.now acc.state id))[id]? =
      some (restartEntry world.now acc.state id) := by
    rw [IdMap.getElem?_insert, if_pos rfl]
  have same (other : Nat) (different : other ≠ id) :
      (acc.state.insert id (restartEntry world.now acc.state id))[other]? = acc.state[other]? := by
    rw [IdMap.getElem?_insert, if_neg different]
  have turns : (id :: ids).filter (restartDue world.now acc.state) = ids.filter (restartDue world.now acc.state) :=
    List.filter_cons_of_neg (by simp [waits])
  have apart (other : Nat) (member : other ∈ ids) : other ≠ id := fun same => new (same ▸ member)
  refine ⟨fun other member turn => ?_, fun other member turn => ?_, fun other outside => ?_, ?_, passed.keys, ?_, ?_⟩
  · rcases List.mem_cons.mp member with rfl | later
    · rw [waits] at turn
      cases turn
    · have sameHere := same other (apart other later)
      have made := passed.attempted other later ((restartDue_of_same sameHere).trans turn)
      rw [made, restartEntry_of_same sameHere]
  · rcases List.mem_cons.mp member with rfl | later
    · rw [passed.others other new, kept]
    · have sameHere := same other (apart other later)
      have made := passed.waiting other later ((restartDue_of_same sameHere).trans turn)
      rw [made, restartEntry_of_same sameHere]
  · have outside := not_or.mp (mt List.mem_cons.mpr outside)
    rw [passed.others other outside.2, same other outside.1]
  · rw [turns]
    simpa only [filter_restartDue_insert new] using passed.untouched
  · rw [turns]
    simpa only [filter_restartDue_insert new] using passed.restarted
  · intro faultless leaves
    rw [turns, ← filter_restartDue_insert new]
    exact passed.succeeds faultless fun other member => leaves other (List.mem_cons_of_mem _ member)

omit [RatioOps R] [Vt100 G] in
theorem Passed.cons_attempted (new : id ∉ ids) (turn : restartDue world.now acc.state id = true)
    (attempted : Attempted world layout id acc next) (passed : Passed world layout ids next out) :
    Passed world layout (id :: ids) acc out := by
  have same (other : Nat) (different : other ≠ id) : next.state[other]? = acc.state[other]? := by
    rw [attempted.state, IdMap.getElem?_insert, if_neg different]
  have rest : ids.filter (restartDue world.now next.state) = ids.filter (restartDue world.now acc.state) := by
    rw [attempted.state]
    exact filter_restartDue_insert new
  have turns : (id :: ids).filter (restartDue world.now acc.state) =
      id :: ids.filter (restartDue world.now acc.state) := List.filter_cons_of_pos turn
  have apart (other : Nat) (member : other ∈ ids) : other ≠ id := fun same => new (same ▸ member)
  refine ⟨fun other member turn => ?_, fun other member turn => ?_, fun other outside => ?_, fun other outside => ?_,
    fun other => (passed.keys other).trans (attempted.keys other), ?_, ?_⟩
  · rcases List.mem_cons.mp member with rfl | later
    · rw [passed.others other new, attempted.state, IdMap.getElem?_insert, if_pos rfl]
    · have sameHere := same other (apart other later)
      have made := passed.attempted other later ((restartDue_of_same sameHere).trans turn)
      rw [made, restartEntry_of_same sameHere]
  · rcases List.mem_cons.mp member with rfl | later
    · rename_i first
      rw [first] at turn
      cases turn
    · have sameHere := same other (apart other later)
      have made := passed.waiting other later ((restartDue_of_same sameHere).trans turn)
      rw [made, restartEntry_of_same sameHere]
  · have outside := not_or.mp (mt List.mem_cons.mpr outside)
    rw [passed.others other outside.2, same other outside.1]
  · rw [turns, List.mem_cons, not_or] at outside
    rw [passed.untouched other (rest ▸ outside.2), attempted.others other outside.1]
  · obtain ⟨fresh, sublist, restarted⟩ := passed.restarted
    rw [rest] at sublist
    rw [turns]
    rcases attempted.restarted with failed | made
    · exact ⟨fresh, sublist.cons _, restarted.trans (by rw [failed])⟩
    · exact ⟨id :: fresh, sublist.cons_cons _, restarted.trans (by rw [made, List.append_assoc]; rfl)⟩
  · intro faultless leaves
    have made := attempted.succeeds faultless (leaves id List.mem_cons_self)
    have later := passed.succeeds faultless fun other member => leaves other (List.mem_cons_of_mem _ member)
    rw [later, made, turns, rest, List.append_assoc]
    rfl

end Cons

theorem restartPane_passes {world : World} {layout : Layout R} {shell : String} {tw th : Nat} {settings : Settings}
    {scrollback : Nat} {acc : Restarts G} {ids : List Nat} (distinct : ids.Nodup) (present : ∀ id ∈ ids, id ∈ acc.panes) :
    Passed world layout ids acc (ids.foldl (restartPane world layout shell tw th settings scrollback) acc) := by
  induction ids generalizing acc with
  | nil => exact .nil world layout acc
  | cons id ids ih =>
      obtain ⟨new, distinct⟩ := List.nodup_cons.mp distinct
      rw [List.foldl_cons]
      cases turn : restartDue world.now acc.state id with
      | false =>
          rw [restartPane_waits turn]
          exact .cons_waiting new turn (ih distinct fun other member => present other (List.mem_cons_of_mem _ member))
      | true =>
          obtain ⟨old, found⟩ := IdMap.getElem?_of_mem (present id List.mem_cons_self)
          have attempted : Attempted world layout id acc (restartPane world layout shell tw th settings scrollback acc id) :=
            restartPane_attempts turn found
          refine .cons_attempted new turn attempted (ih distinct fun other member => ?_)
          exact (attempted.keys other).mpr (present other (List.mem_cons_of_mem _ member))

/-! ## The whole pass -/

/-- What `restartPanes` leaves behind. -/
structure RestartsOf (world : World) (panes : PaneMap G) (layout : Layout R) (policies : IdMap RestartPolicy)
    (state : RestartState) (out : Restarts G) : Prop where
  attempted : ∀ id ∈ restartAttempts world.now panes policies state,
    out.state[id]? =
      some ((world.now : Int), (restartEntry world.now (retainedRestarts world.now panes state) id).2 + 1)
  retained : ∀ id, id ∉ restartAttempts world.now panes policies state →
    out.state[id]? = (retainedRestarts world.now panes state)[id]?
  untouched : ∀ id, id ∉ restartAttempts world.now panes policies state → out.panes[id]? = panes[id]?
  keys : ∀ id, id ∈ out.panes ↔ id ∈ panes
  restarted : out.restarted.Sublist (restartAttempts world.now panes policies state)
  succeeds : (∀ attempt shell, world.spawnError attempt shell = none) → (∀ id ∈ panes, id ∈ layout.paneIds) →
    out.restarted = restartAttempts world.now panes policies state

/-- A pass makes one attempt for every pane whose turn it is, and leaves the others as they were. -/
theorem restartPanes_spec (world : World) (spawns : Nat) (panes : PaneMap G) (layout : Layout R)
    (policies : IdMap RestartPolicy) (state : RestartState) (shell : String) (tw th : Nat) (settings : Settings)
    (scrollback : Nat) :
    RestartsOf world panes layout policies state
      (restartPanes world spawns panes layout policies state shell tw th settings scrollback) := by
  have present : ∀ id ∈ restartCandidates panes policies, id ∈ panes := by
    intro id member
    obtain ⟨pane, found, _⟩ := mem_restartCandidates.mp member
    exact IdMap.mem_of_getElem? found
  have passed : Passed world layout (restartCandidates panes policies)
      { panes, state := retainedRestarts world.now panes state, restarted := [], spawns }
      (restartPanes world spawns panes layout policies state shell tw th settings scrollback) :=
    restartPane_passes (restartCandidates_nodup panes policies) present
  refine ⟨fun id member => ?_, fun id outside => ?_, passed.untouched, passed.keys, ?_, fun faultless leaves => ?_⟩
  · obtain ⟨candidate, turn⟩ := List.mem_filter.mp member
    exact passed.attempted id candidate turn
  · by_cases candidate : id ∈ restartCandidates panes policies
    · have waits : restartDue world.now (retainedRestarts world.now panes state) id = false := by
        rw [← Bool.not_eq_true]
        exact fun turn => outside (List.mem_filter.mpr ⟨candidate, turn⟩)
      rw [passed.waiting id candidate waits]
      -- a pane without an entry would have had its turn
      cases entry : (retainedRestarts world.now panes state)[id]? with
      | none =>
          rw [restartDue_of_none entry] at waits
          cases waits
      | some entry => simp [restartEntry, entry]
    · exact passed.others id candidate
  · obtain ⟨fresh, sublist, restarted⟩ := passed.restarted
    rw [restarted]
    exact sublist
  · exact passed.succeeds faultless fun id member => leaves id (present id member)

end Ezpn
