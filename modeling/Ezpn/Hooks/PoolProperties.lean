import Ezpn.Hooks.Pool
import Mathlib.Data.List.Range
import Mathlib.Data.List.Perm.Basic

/-!
# What the pool keeps

Every accepted job is queued, started or thrown away, and every started job is
running or complete. A queued job has a worker that is awake.
-/

set_option autoImplicit false

namespace Ezpn.Hooks

/-- One place of a list, and the lists that differ from it there. -/
theorem exists_split_of_getElem? {α : Type} {xs : List α} {i : Nat} {x : α} (found : xs[i]? = some x) :
    ∃ before after, xs = before ++ x :: after ∧ ∀ y, xs.set i y = before ++ y :: after := by
  obtain ⟨bound, rfl⟩ := List.getElem?_eq_some_iff.mp found
  refine ⟨xs.take i, xs.drop (i + 1), ?_, fun y => ?_⟩
  · rw [List.getElem_cons_drop bound, List.take_append_drop]
  · rw [List.set_eq_take_append_cons_drop, if_pos bound]

def Worker.awake : Worker → Bool
  | ready | running _ | finished => true
  | asleep | gone => false

@[simp] theorem Worker.busy_wake (worker : Worker) : worker.wake.busy = worker.busy := by cases worker <;> rfl

@[simp] theorem Worker.job?_wake (worker : Worker) : worker.wake.job? = worker.job? := by cases worker <;> rfl

theorem Worker.awake_wake {worker : Worker} (awake : worker.awake = true) : worker.wake.awake = true := by
  cases worker <;> first | rfl | cases awake

theorem Worker.wake_eq_gone {worker : Worker} : worker.wake = .gone ↔ worker = .gone := by
  cases worker <;> simp [Worker.wake]

theorem Caller.wake_eq_returned {caller : Caller} {drained : Bool} :
    caller.wake = .returned drained ↔ caller = .returned drained := by
  cases caller <;> simp [Caller.wake]

@[simp] theorem Caller.isReturned_wake (caller : Caller) : caller.wake.isReturned = caller.isReturned := by
  cases caller <;> rfl

namespace HookPool

/-- Somebody has called `shutdown`, or the pool is gone. -/
def Closed (pool : HookPool) : Prop := pool.callers ≠ [] ∨ pool.dropped = true

/-- A shutdown has returned, or the pool is gone. -/
def Stopped (pool : HookPool) : Prop := (∃ drained, .returned drained ∈ pool.callers) ∨ pool.dropped = true

structure Sound (pool : HookPool) : Prop where
  threads : pool.workers.length ≤ hookWorkers
  depth : pool.jobs.length ≤ hookQueueDepth
  active : pool.active = pool.workers.countP Worker.busy
  /-- what became of the accepted jobs -/
  fates : (pool.started ++ pool.jobs.map Prod.fst ++ pool.cancelled ++ pool.abandoned).Perm (List.range pool.accepted)
  runs : pool.started.Perm (pool.workers.filterMap Worker.job? ++ pool.completed)
  served : pool.jobs ≠ [] → ∃ worker ∈ pool.workers, worker.awake = true
  closed : pool.Closed → pool.accepting = false
  left : .gone ∈ pool.workers → pool.accepting = false ∧ pool.jobs = []
  cancelled : pool.cancelled ≠ [] → .returned false ∈ pool.callers
  abandoned : pool.abandoned ≠ [] → pool.dropped = true
  stopped : pool.Stopped → pool.jobs = []
  drained : .returned true ∈ pool.callers → pool.active = 0 ∧ pool.abandoned = []
  /-- nobody is left to call a pool that is being dropped -/
  dropping : pool.dropping = true → ∀ caller ∈ pool.callers, caller.isReturned = true
  dropped : pool.dropped = true → pool.dropping = true

theorem new_sound {threads : Nat} (few : threads ≤ hookWorkers) : (new threads).Sound where
  threads := by rw [new, List.length_replicate]; exact few
  depth := Nat.zero_le _
  active := by simp [new, List.countP_replicate, Worker.busy]
  fates := .refl _
  runs := by simp [new, Worker.job?]
  served := by simp [new]
  closed closed := by rcases closed with called | dropped <;> simp [new] at *
  left gone := by simp [new] at gone
  cancelled := by simp [new]
  abandoned := by simp [new]
  stopped _ := rfl
  drained := by simp [new]
  dropping := by simp [new]
  dropped := by simp [new]

/-! ## Wake-ups -/

def Worker.Woken (old new : Worker) : Prop := new = old ∨ new = old.wake

def Caller.Woken (old new : Caller) : Prop := new = old ∨ new = old.wake

theorem woken_all (workers : List Worker) : List.Forall₂ Worker.Woken workers (workers.map Worker.wake) := by
  induction workers with
  | nil => exact .nil
  | cons worker workers ih => exact .cons (.inr rfl) ih

theorem woken_all_callers (callers : List Caller) : List.Forall₂ Caller.Woken callers (callers.map Caller.wake) := by
  induction callers with
  | nil => exact .nil
  | cons caller callers ih => exact .cons (.inr rfl) ih

theorem woken_none (workers : List Worker) : List.Forall₂ Worker.Woken workers workers :=
  List.forall₂_same.mpr fun _ _ => .inl rfl

theorem woken_no_caller (callers : List Caller) : List.Forall₂ Caller.Woken callers callers :=
  List.forall₂_same.mpr fun _ _ => .inl rfl

theorem woken_one (workers : List Worker) (i : Nat) :
    List.Forall₂ Worker.Woken workers (workers.modify i Worker.wake) := by
  induction workers generalizing i with
  | nil => simp
  | cons worker workers ih =>
      cases i with
      | zero => exact .cons (.inr rfl) (woken_none workers)
      | succ i => exact .cons (.inl rfl) (ih i)

theorem woken_one_caller (callers : List Caller) (k : Nat) :
    List.Forall₂ Caller.Woken callers (callers.modify k Caller.wake) := by
  induction callers generalizing k with
  | nil => simp
  | cons caller callers ih =>
      cases k with
      | zero => exact .cons (.inr rfl) (woken_no_caller callers)
      | succ k => exact .cons (.inl rfl) (ih k)

/-- Wake-ups change nothing but who sleeps. -/
structure SameWork (old new : List Worker) : Prop where
  length : new.length = old.length
  busy : new.countP Worker.busy = old.countP Worker.busy
  jobs : new.filterMap Worker.job? = old.filterMap Worker.job?
  awake : (∃ worker ∈ old, worker.awake = true) → ∃ worker ∈ new, worker.awake = true
  gone : .gone ∈ new → .gone ∈ old

theorem sameWork_of_woken {old new : List Worker} (woken : List.Forall₂ Worker.Woken old new) : SameWork old new := by
  induction woken with
  | nil => exact ⟨rfl, rfl, rfl, id, id⟩
  | @cons worker later workers others first rest ih =>
      have busy : later.busy = worker.busy := by rcases first with rfl | rfl <;> simp
      have job : later.job? = worker.job? := by rcases first with rfl | rfl <;> simp
      refine ⟨congrArg (· + 1) ih.length, ?_, ?_, ?_, ?_⟩
      · rw [List.countP_cons, List.countP_cons, busy, ih.busy]
      · rw [List.filterMap_cons, List.filterMap_cons, job, ih.jobs]
      · rintro ⟨awakened, member, awake⟩
        rcases List.mem_cons.mp member with rfl | member
        · refine ⟨later, List.mem_cons_self, ?_⟩
          rcases first with rfl | rfl
          · exact awake
          · exact Worker.awake_wake awake
        · obtain ⟨other, present, awake⟩ := ih.awake ⟨awakened, member, awake⟩
          exact ⟨other, List.mem_cons_of_mem _ present, awake⟩
      · intro member
        rcases List.mem_cons.mp member with same | member
        · rcases first with rfl | rfl
          · exact same ▸ List.mem_cons_self
          · exact Worker.wake_eq_gone.mp same.symm ▸ List.mem_cons_self
        · exact List.mem_cons_of_mem _ (ih.gone member)

theorem returned_woken {old new : List Caller} (woken : List.Forall₂ Caller.Woken old new) (drained : Bool) :
    .returned drained ∈ new ↔ .returned drained ∈ old := by
  induction woken with
  | nil => rfl
  | @cons caller later callers others first rest ih =>
      have same : later = .returned drained ↔ caller = .returned drained := by
        rcases first with rfl | rfl
        · rfl
        · exact Caller.wake_eq_returned
      simp only [List.mem_cons, ih, eq_comm (a := Caller.returned drained), same]

theorem allReturned_woken {old new : List Caller} (woken : List.Forall₂ Caller.Woken old new)
    (returned : ∀ caller ∈ old, caller.isReturned = true) : ∀ caller ∈ new, caller.isReturned = true := by
  induction woken with
  | nil => exact returned
  | @cons caller later callers others first rest ih =>
      obtain ⟨head, tail⟩ := List.forall_mem_cons.mp returned
      have same : later.isReturned = caller.isReturned := by rcases first with rfl | rfl <;> simp
      exact List.forall_mem_cons.mpr ⟨same ▸ head, ih tail⟩

section Steps
variable {pool : HookPool}

theorem Sound.woken (sound : pool.Sound) {workers : List Worker} {callers : List Caller}
    (work : List.Forall₂ Worker.Woken pool.workers workers) (calls : List.Forall₂ Caller.Woken pool.callers callers) :
    ({ pool with workers, callers } : HookPool).Sound := by
  have same := sameWork_of_woken work
  have returned := returned_woken calls
  have called : callers ≠ [] → pool.callers ≠ [] := by
    rintro some none
    rw [none] at calls
    cases calls
    exact some rfl
  constructor
  case threads => exact same.length ▸ sound.threads
  case depth => exact sound.depth
  case active => exact sound.active.trans same.busy.symm
  case fates => exact sound.fates
  case runs => exact same.jobs ▸ sound.runs
  case served => exact fun queued => same.awake (sound.served queued)
  case closed => exact fun closed => sound.closed (closed.imp_left called)
  case left => exact fun gone => sound.left (same.gone gone)
  case cancelled => exact fun some => (returned false).mpr (sound.cancelled some)
  case abandoned => exact sound.abandoned
  case stopped => exact fun stopped => sound.stopped (stopped.imp_left fun ⟨drained, member⟩ => ⟨drained, (returned drained).mp member⟩)
  case drained => exact fun member => sound.drained ((returned true).mp member)
  case dropped => exact sound.dropped
  case dropping => exact fun dropping => allReturned_woken calls (sound.dropping dropping)

theorem Sound.notifyAll (sound : pool.Sound) : pool.notifyAll.Sound := sound.woken (woken_all _) (woken_all_callers _)

/-! ## Workers -/

/-- A worker does something that concerns no other worker. -/
structure Replaced (old new : List Worker) (worker later : Worker) : Prop where
  length : new.length = old.length
  busy : new.countP Worker.busy + worker.busy.toNat = old.countP Worker.busy + later.busy.toNat
  awake : later.awake = true → ∃ worker ∈ new, worker.awake = true
  gone : .gone ∈ new → .gone ∈ old ∨ later = .gone

theorem replaced_set {workers : List Worker} {i : Nat} {worker : Worker} (found : workers[i]? = some worker)
    (later : Worker) : Replaced workers (workers.set i later) worker later := by
  obtain ⟨before, after, eq, set⟩ := exists_split_of_getElem? found
  rw [set, eq]
  refine ⟨by simp, ?_, fun awake => ⟨later, by simp, awake⟩, fun gone => ?_⟩
  · simp only [List.countP_append, List.countP_cons]
    cases worker.busy <;> cases later.busy <;> simp <;> omega
  · simp only [List.mem_append, List.mem_cons] at gone ⊢
    rcases gone with front | same | back
    · exact .inl (.inl front)
    · exact .inr same.symm
    · exact .inl (.inr (.inr back))

/-- The running jobs, with one that starts or ends. -/
theorem jobs_set {workers : List Worker} {i : Nat} {worker : Worker} (found : workers[i]? = some worker)
    (later : Worker) :
    (worker.job?.toList ++ (workers.set i later).filterMap Worker.job?).Perm
      (later.job?.toList ++ workers.filterMap Worker.job?) := by
  obtain ⟨before, after, eq, set⟩ := exists_split_of_getElem? found
  rw [set, eq]
  have moved (worker : Worker) : ((before ++ worker :: after).filterMap Worker.job?).Perm
      (worker.job?.toList ++ (before ++ after).filterMap Worker.job?) := by
    simp only [List.filterMap_append, List.filterMap_cons]
    cases worker.job? with
    | none => exact .refl _
    | some serial => exact List.perm_middle
  calc (worker.job?.toList ++ (before ++ later :: after).filterMap Worker.job?).Perm
        (worker.job?.toList ++ (later.job?.toList ++ (before ++ after).filterMap Worker.job?)) := (moved later).append_left _
    _ |>.Perm (later.job?.toList ++ (worker.job?.toList ++ (before ++ after).filterMap Worker.job?)) := by
        simp only [← List.append_assoc]
        exact List.perm_append_comm.append_right _
    _ |>.Perm (later.job?.toList ++ (before ++ worker :: after).filterMap Worker.job?) := (moved worker).symm.append_left _

/-- A worker that holds no job goes to sleep or away, or comes back from there. -/
theorem Sound.setIdle (sound : pool.Sound) {i : Nat} {worker later : Worker} (found : pool.workers[i]? = some worker)
    (idle : worker.busy = false ∧ worker.job? = none) (stays : later.busy = false ∧ later.job? = none)
    (served : pool.jobs ≠ [] → later.awake = true) (left : later = .gone → pool.accepting = false ∧ pool.jobs = []) :
    (pool.setWorker i later).Sound := by
  have replaced := replaced_set found later
  have jobs := jobs_set found later
  rw [idle.2, stays.2] at jobs
  have busy := replaced.busy
  rw [idle.1, stays.1] at busy
  exact { sound with
    threads := replaced.length ▸ sound.threads
    active := sound.active.trans busy.symm
    runs := sound.runs.trans (jobs.symm.append_right _)
    served := fun queued => replaced.awake (served queued)
    left := fun gone => (replaced.gone gone).elim sound.left left }

theorem Sound.take (sound : pool.Sound) (i : Nat) : (pool.take i).Sound := by
  simp only [HookPool.take]
  split
  · rename_i found
    split
    · rename_i empty
      split
      · exact sound.setIdle found ⟨rfl, rfl⟩ ⟨rfl, rfl⟩ (fun queued => absurd empty queued) nofun
      · rename_i closed
        exact sound.setIdle found ⟨rfl, rfl⟩ ⟨rfl, rfl⟩ (fun queued => absurd empty queued) fun _ =>
          ⟨by simpa using closed, empty⟩
    · rename_i serial job jobs queued
      have replaced := replaced_set found (.running serial)
      have running := jobs_set found (.running serial)
      have busy := replaced.busy
      have active := sound.active
      have depth := sound.depth
      have some : pool.jobs ≠ [] := by simp [queued]
      simp only [Worker.busy, Bool.toNat_false, Bool.toNat_true] at busy
      exact { sound with
        threads := replaced.length ▸ sound.threads
        depth := by
          rw [queued, List.length_cons] at depth
          exact Nat.le_of_succ_le depth
        active := by
          simp only [setWorker]
          omega
        fates := by
          have fates := sound.fates
          rw [queued] at fates
          simpa [setWorker, List.append_assoc] using fates
        runs := by
          have runs := sound.runs.append_right [serial]
          refine runs.trans ?_
          simp only [Worker.job?, Option.toList_none, List.nil_append, Option.toList_some] at running
          refine List.perm_append_comm.trans ?_
          rw [← List.append_assoc]
          exact running.symm.append_right _
        served := fun _ => replaced.awake rfl
        left := fun gone => (replaced.gone gone).elim (fun old => absurd (sound.left old).2 some) nofun
        stopped := fun stopped => absurd (sound.stopped stopped) some
        drained := fun member => absurd (sound.stopped (.inl ⟨true, member⟩)) some }
  · exact sound

theorem Sound.complete (sound : pool.Sound) (i : Nat) : (pool.complete i).Sound := by
  simp only [HookPool.complete]
  split
  · rename_i serial found
    have replaced := replaced_set found .finished
    have ended := jobs_set found .finished
    have busy := replaced.busy
    have active := sound.active
    simp only [Worker.busy, Bool.toNat_true] at busy
    simp only [Worker.job?, Option.toList_some, Option.toList_none, List.nil_append] at ended
    exact { sound with
      threads := replaced.length ▸ sound.threads
      active := by
        simp only [setWorker]
        omega
      runs := by
        refine sound.runs.trans ((ended.symm.append_right _).trans ?_)
        exact List.perm_middle.symm.trans ((List.perm_append_singleton serial _).symm.append_left _)
      served := fun _ => replaced.awake rfl
      left := fun gone => (replaced.gone gone).elim sound.left nofun }
  · exact sound

theorem Sound.settle (sound : pool.Sound) (i : Nat) : (pool.settle i).Sound := by
  simp only [HookPool.settle]
  split
  · rename_i found
    have replaced := replaced_set found .ready
    have ended := jobs_set found .ready
    have busy := replaced.busy
    have active := sound.active
    simp only [Worker.busy, Bool.toNat_true, Bool.toNat_false] at busy
    simp only [Worker.job?, Option.toList_none, List.nil_append] at ended
    have settled : ({ pool with active := pool.active - 1 }.setWorker i .ready).Sound := { sound with
      threads := replaced.length ▸ sound.threads
      active := by
        simp only [setWorker]
        omega
      runs := sound.runs.trans (ended.symm.append_right _)
      served := fun _ => replaced.awake rfl
      left := fun gone => (replaced.gone gone).elim sound.left nofun
      drained := fun member => by
        have drained := sound.drained member
        exact ⟨by simp only [setWorker]; omega, drained.2⟩ }
    exact settled.notifyAll
  · exact sound

/-! ## Callers -/

/-- A call goes on, or returns after everything has been done. -/
theorem Sound.setCallers (sound : pool.Sound) (closed : pool.accepting = false) (kept : pool.dropping = false)
    {callers : List Caller} (old : ∀ drained, .returned drained ∈ pool.callers → .returned drained ∈ callers)
    (new : ∀ drained, .returned drained ∈ callers →
      .returned drained ∈ pool.callers ∨ drained = true ∧ pool.active = 0 ∧ pool.jobs = []) :
    ({ pool with callers } : HookPool).Sound := by
  have present : pool.dropped ≠ true := fun dropped => by simp [sound.dropped dropped] at kept
  exact { sound with
    closed := fun _ => closed
    cancelled := fun some => old false (sound.cancelled some)
    stopped := by
      rintro (⟨drained, member⟩ | dropped)
      · rcases new drained member with before | ⟨_, _, empty⟩
        · exact sound.stopped (.inl ⟨drained, before⟩)
        · exact empty
      · exact absurd dropped present
    drained := fun member => by
      rcases new true member with before | ⟨_, idle, _⟩
      · exact sound.drained before
      · refine ⟨idle, ?_⟩
        by_contra some
        exact present (sound.abandoned some)
    dropping := fun dropping => by simp [kept] at dropping }

/-- The time of a call is up. -/
theorem Sound.expire (sound : pool.Sound) (closed : pool.accepting = false) (kept : pool.dropping = false)
    (callers : List Caller)
    (new : ∀ drained, .returned drained ∈ callers → .returned drained ∈ pool.callers ∨ drained = false)
    (expired : .returned false ∈ callers) :
    ({ pool with
        cancel := true, jobs := [], cancelled := pool.cancelled ++ pool.jobs.map Prod.fst, callers } : HookPool).Sound :=
  { sound with
    depth := Nat.zero_le _
    fates := by
      refine List.Perm.trans ?_ sound.fates
      simp only [List.map_nil, List.append_nil, List.append_assoc]
      exact (List.perm_append_comm_assoc _ _ _).append_left _
    served := fun some => absurd rfl some
    closed := fun _ => closed
    left := fun gone => ⟨(sound.left gone).1, rfl⟩
    cancelled := fun _ => expired
    stopped := fun _ => rfl
    drained := fun member => sound.drained ((new true member).resolve_right nofun)
    dropping := fun dropping => by simp [kept] at dropping }

theorem Sound.close (sound : pool.Sound) : ({ pool with accepting := false } : HookPool).Sound :=
  { sound with
    closed := fun _ => rfl
    left := fun gone => ⟨rfl, (sound.left gone).2⟩ }

/-- The loop of a shutdown, whose caller's place in the list is `place`. -/
theorem Sound.drain (sound : pool.Sound) (closed : pool.accepting = false) (kept : pool.dropping = false) (expired : Bool)
    (place : List Caller → Caller → List Caller)
    (map : ∀ callers caller, caller.wake = caller → place (callers.map Caller.wake) caller =
      (place callers caller).map Caller.wake)
    (members : ∀ caller drained, .returned drained ∈ place pool.callers caller ↔
      .returned drained ∈ pool.callers ∨ caller = .returned drained) :
    ({ (pool.drain expired).1 with callers := place (pool.drain expired).1.callers (pool.drain expired).2 } :
      HookPool).Sound := by
  simp only [HookPool.drain]
  split
  · split
    · have cleared := sound.expire closed kept (place pool.callers (.returned false))
        (fun drained member => ((members _ _).mp member).imp_right fun same => by cases same; rfl)
        ((members _ _).mpr (.inr rfl))
      have woken := cleared.notifyAll
      simp only [HookPool.notifyAll, ← map _ _ (rfl : (Caller.returned false).wake = .returned false)] at woken
      exact woken
    · exact sound.setCallers closed kept (fun drained member => (members _ _).mpr (.inl member))
        fun drained member => ((members _ _).mp member).imp_right nofun
  · rename_i idle
    simp only [Bool.or_eq_true, decide_eq_true_eq, Bool.not_eq_true', not_or, Nat.not_lt, Bool.not_eq_false,
      List.isEmpty_iff] at idle
    refine sound.setCallers closed kept (fun drained member => (members _ _).mpr (.inl member)) fun drained member => ?_
    refine ((members _ _).mp member).imp_right fun same => ?_
    cases same
    exact ⟨rfl, Nat.le_zero.mp idle.1, idle.2⟩

theorem Sound.shutdown (sound : pool.Sound) (kept : pool.dropping = false) (expired : Bool) :
    (pool.shutdown expired).Sound := by
  refine sound.close.notifyAll.drain rfl kept expired (fun callers caller => callers ++ [caller]) ?_ ?_
  · intro callers caller same
    rw [List.map_append, List.map_singleton, same]
  · intro caller drained
    rw [List.mem_append, List.mem_singleton, eq_comm (a := Caller.returned drained)]

theorem Sound.resume (sound : pool.Sound) (k : Nat) (expired : Bool) : (pool.resume k expired).Sound := by
  simp only [HookPool.resume]
  split
  · rename_i found
    have member : Caller.ready ∈ pool.callers := List.mem_of_getElem? found
    have closed := sound.closed (.inl (List.ne_nil_of_mem member))
    have kept : pool.dropping = false := by
      by_contra dropping
      have returned := sound.dropping (by simpa using dropping) _ member
      cases returned
    refine sound.drain closed kept expired (fun callers caller => callers.set k caller) ?_ ?_
    · intro callers caller same
      rw [List.map_set, same]
    · intro caller drained
      obtain ⟨before, after, eq, set⟩ := exists_split_of_getElem? found
      rw [set, eq]
      simp only [List.mem_append, List.mem_cons, reduceCtorEq, false_or, eq_comm (a := Caller.returned drained)]
      tauto
  · exact sound

theorem Sound.drop (sound : pool.Sound) (dropping : pool.dropping = true) : pool.drop.Sound := by
  have dropped : ({ pool with
      accepting := false, jobs := [], abandoned := pool.abandoned ++ pool.jobs.map Prod.fst, dropped := true } :
      HookPool).Sound := { sound with
    depth := Nat.zero_le _
    fates := by
      refine List.Perm.trans ?_ sound.fates
      simp only [List.map_nil, List.append_nil, List.append_assoc]
      refine List.Perm.append_left _ ?_
      rw [← List.append_assoc, ← List.append_assoc]
      exact List.perm_append_comm.trans (by simp)
    served := fun some => absurd rfl some
    closed := fun _ => rfl
    left := fun _ => ⟨rfl, rfl⟩
    abandoned := fun _ => rfl
    stopped := fun _ => rfl
    drained := fun member => by
      have drained := sound.drained member
      have empty := sound.stopped (.inl ⟨true, member⟩)
      exact ⟨drained.1, by simp [drained.2, empty]⟩
    dropped := fun _ => dropping }
  exact dropped.notifyAll

/-! ## Submitters -/

theorem Sound.push (sound : pool.Sound) (job : HookJob) (accepting : pool.accepting = true)
    (room : pool.jobs.length < hookQueueDepth) (awake : ∃ worker ∈ pool.workers, worker.awake = true) :
    ({ pool with jobs := pool.jobs ++ [(pool.accepted, job)], accepted := pool.accepted + 1 } : HookPool).Sound := by
  have opened : ¬pool.Closed := fun closed => by simp [sound.closed closed] at accepting
  obtain ⟨noCaller, present⟩ := not_or.mp opened
  exact { sound with
    depth := by
      simp only [List.length_append, List.length_singleton]
      exact room
    fates := by
      have fates := sound.fates.append_right [pool.accepted]
      rw [← List.range_succ] at fates
      refine List.Perm.trans ?_ fates
      simp only [List.map_append, List.map_cons, List.map_nil, List.append_assoc]
      refine List.Perm.append_left _ (List.Perm.append_left _ ?_)
      rw [← List.append_assoc pool.cancelled]
      exact List.perm_append_comm
    served := fun _ => awake
    left := fun gone => by simp [(sound.left gone).1] at accepting
    stopped := by
      rintro (⟨drained, member⟩ | dropped)
      · exact absurd (List.ne_nil_of_mem member) noCaller
      · exact absurd dropped present }

/-- The notice of a submit finds a worker unless one is awake. -/
theorem Sound.notified (sound : pool.Sound) (some : pool.workers ≠ []) (accepting : pool.accepting = true) {wake : Waiter}
    (reaches : pool.Sleeps wake ∨ ∀ other, ¬pool.Sleeps other) :
    ∃ worker ∈ (pool.notifyOne wake).workers, worker.awake = true := by
  rcases reaches with sleeps | nobody
  · cases wake with
    | worker i =>
        refine ⟨.ready, List.mem_of_getElem? (i := i) ?_, rfl⟩
        have found : pool.workers[i]? = _ := sleeps
        simp only [notifyOne, List.getElem?_modify, found, Option.map_eq_map, Option.map_some, if_true, Worker.wake]
    | caller k =>
        have closed := sound.closed (.inl (List.ne_nil_of_mem (List.mem_of_getElem? sleeps)))
        simp [closed] at accepting
  · obtain ⟨worker, member⟩ := List.exists_mem_of_ne_nil _ some
    have awake : worker.awake = true := by
      cases worker with
      | asleep =>
          obtain ⟨i, bound, here⟩ := List.getElem_of_mem member
          exact absurd (List.getElem?_eq_some_iff.mpr ⟨bound, here⟩) (nobody (.worker i))
      | gone => simp [(sound.left member).1] at accepting
      | _ => rfl
    have woken : List.Forall₂ Worker.Woken pool.workers (pool.notifyOne wake).workers := by
      cases wake with
      | worker i => exact woken_one _ i
      | caller k => exact woken_none _
    exact (sameWork_of_woken woken).awake ⟨worker, member, awake⟩

theorem Sound.notifyOne (sound : pool.Sound) (wake : Waiter) : (pool.notifyOne wake).Sound := by
  cases wake with
  | worker i => exact sound.woken (woken_one _ i) (woken_no_caller _)
  | caller k => exact sound.woken (woken_none _) (woken_one_caller _ k)

theorem Sound.submit (sound : pool.Sound) (job : HookJob) {wake : Waiter}
    (reaches : pool.Sleeps wake ∨ ∀ other, ¬pool.Sleeps other) : (pool.submit job wake).Sound := by
  simp only [HookPool.submit]
  split
  · exact sound
  · rename_i accepted
    simp only [Bool.or_eq_true, List.isEmpty_iff, Bool.not_eq_true', decide_eq_true_eq, not_or, Bool.not_eq_false,
      Nat.not_le] at accepted
    obtain ⟨⟨some, accepting⟩, room⟩ := accepted
    have notified := sound.notified some accepting reaches
    -- the notice and the push commute
    cases wake with
    | worker i => exact (sound.notifyOne (.worker i)).push job accepting room notified
    | caller k => exact (sound.notifyOne (.caller k)).push job accepting room notified

theorem Sound.step (sound : pool.Sound) {op : PoolOp} (allowed : pool.Allowed op) : (pool.step op).Sound := by
  cases op with
  | submit job wake => exact sound.submit job allowed.2
  | take i => exact sound.take i
  | complete i => exact sound.complete i
  | settle i => exact sound.settle i
  | rouse i => exact sound.woken (woken_one _ i) (woken_no_caller _)
  | shutdown expired => exact sound.shutdown allowed expired
  | resume k expired => exact sound.resume k expired
  | alarm k => exact sound.woken (woken_none _) (woken_one_caller _ k)
  | beginDrop => exact { sound with dropping := fun _ => allowed.2, dropped := fun _ => rfl }
  | drop => exact sound.drop allowed.1

theorem run_sound {threads : Nat} (few : threads ≤ hookWorkers) (run : Machine.Run step Allowed (new threads) pool) :
    pool.Sound :=
  run.invariant (fun pool _ (sound : Sound pool) allowed => sound.step allowed) (new_sound few)

end Steps

end HookPool

end Ezpn.Hooks
