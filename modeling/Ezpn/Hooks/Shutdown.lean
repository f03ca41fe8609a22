import Ezpn.Hooks.PoolProperties

/-!
# Shutting the pool down

What a caller of `shutdown` can rely on, in every schedule of the threads.
-/

set_option autoImplicit false

namespace Ezpn.Hooks.HookPool

variable {pool later : HookPool}

theorem drain_cases (expired : Bool) (pool : HookPool) :
    pool.drain expired = (pool, .asleep) ∨ pool.drain expired = (pool, .returned true) ∨
      pool.drain expired =
        ({ pool with cancel := true, jobs := [], cancelled := pool.cancelled ++ pool.jobs.map Prod.fst }.notifyAll,
          .returned false) := by
  simp only [drain]
  split
  · split
    · exact .inr (.inr rfl)
    · exact .inl rfl
  · exact .inr (.inl rfl)

theorem drain_kept (expired : Bool) (pool : HookPool) :
    (pool.drain expired).1.accepted = pool.accepted ∧ (pool.drain expired).1.started = pool.started ∧
      (pool.drain expired).1.dropped = pool.dropped ∧
        List.Forall₂ Caller.Woken pool.callers (pool.drain expired).1.callers := by
  rcases drain_cases expired pool with eq | eq | eq <;> rw [eq]
  · exact ⟨rfl, rfl, rfl, woken_no_caller _⟩
  · exact ⟨rfl, rfl, rfl, woken_no_caller _⟩
  · exact ⟨rfl, rfl, rfl, woken_all_callers _⟩

/-- No step takes a caller or an answer away, or brings the pool back. -/
structure Goes (pool later : HookPool) : Prop where
  callers : pool.callers.length ≤ later.callers.length
  returned : ∀ drained, .returned drained ∈ pool.callers → .returned drained ∈ later.callers
  dropped : pool.dropped = true → later.dropped = true

theorem Goes.refl (pool : HookPool) : pool.Goes pool := ⟨Nat.le_refl _, fun _ => id, id⟩

theorem goes_of_woken (calls : List.Forall₂ Caller.Woken pool.callers later.callers)
    (dropped : pool.dropped = true → later.dropped = true) : pool.Goes later :=
  ⟨calls.length_eq.le, fun drained member => (returned_woken calls drained).mpr member, dropped⟩

theorem step_goes (pool : HookPool) (op : PoolOp) : pool.Goes (pool.step op) := by
  cases op with
  | submit job wake =>
      simp only [step, submit]
      split
      · exact .refl pool
      · cases wake with
        | worker i => exact ⟨Nat.le_refl _, fun _ => id, id⟩
        | caller k => exact goes_of_woken (woken_one_caller _ k) id
  | take i =>
      simp only [step, take]
      repeat' split
      all_goals exact ⟨Nat.le_refl _, fun _ => id, id⟩
  | complete i =>
      simp only [step, complete]
      split <;> exact ⟨Nat.le_refl _, fun _ => id, id⟩
  | settle i =>
      simp only [step, settle]
      split
      · exact goes_of_woken (woken_all_callers _) id
      · exact .refl pool
  | rouse i => exact ⟨Nat.le_refl _, fun _ => id, id⟩
  | shutdown expired =>
      obtain ⟨_, _, dropped, calls⟩ := drain_kept expired ({ pool with accepting := false } : HookPool).notifyAll
      have woken := woken_all_callers pool.callers
      refine ⟨?_, fun drained member => ?_, fun gone => dropped.trans gone⟩
      · simp only [step, shutdown, List.length_append, List.length_singleton]
        have first := woken.length_eq
        have second : (pool.callers.map Caller.wake).length = _ := calls.length_eq
        omega
      · exact List.mem_append_left _ ((returned_woken calls drained).mpr ((returned_woken woken drained).mpr member))
  | resume k expired =>
      simp only [step, resume]
      split
      · rename_i found
        obtain ⟨_, _, dropped, calls⟩ := drain_kept expired pool
        refine ⟨?_, fun drained member => ?_, fun gone => dropped.trans gone⟩
        · simp only [List.length_set]
          exact calls.length_eq.le
        · have kept := (returned_woken calls drained).mpr member
          obtain ⟨before, after, eq, set⟩ := @exists_split_of_getElem? _ (pool.drain expired).1.callers k
            .ready (by
              rcases drain_cases expired pool with eq | eq | eq <;> rw [eq]
              · exact found
              · exact found
              · simp only [notifyAll, List.getElem?_map, found, Option.map_some, Caller.wake])
          rw [eq] at kept
          rw [set]
          simp only [List.mem_append, List.mem_cons, reduceCtorEq, false_or] at kept ⊢
          tauto
      · exact .refl pool
  | alarm k => exact goes_of_woken (woken_one_caller _ k) id
  | beginDrop => exact ⟨Nat.le_refl _, fun _ => id, id⟩
  | drop => exact goes_of_woken (woken_all_callers _) fun _ => rfl

/-- A pool that does not accept jobs has accepted its last one. -/
theorem step_accepted {op : PoolOp} (closed : pool.accepting = false) : (pool.step op).accepted = pool.accepted := by
  cases op with
  | submit job wake => simp [step, submit, closed]
  | take i =>
      simp only [step, take]
      repeat' split
      all_goals rfl
  | complete i =>
      simp only [step, complete]
      split <;> rfl
  | settle i =>
      simp only [step, settle]
      split <;> rfl
  | shutdown expired => exact (drain_kept expired _).1
  | resume k expired =>
      simp only [step, resume]
      split
      · exact (drain_kept expired pool).1
      · rfl
  | rouse | alarm | beginDrop | drop => rfl

/-- An empty queue that stays empty starts nothing. -/
theorem step_started {op : PoolOp} (empty : pool.jobs = []) : (pool.step op).started = pool.started := by
  cases op with
  | submit job wake =>
      simp only [step, submit]
      split
      · rfl
      · cases wake <;> rfl
  | take i =>
      simp only [step, take, empty]
      repeat' split
      all_goals rfl
  | complete i =>
      simp only [step, complete]
      split <;> rfl
  | settle i =>
      simp only [step, settle]
      split <;> rfl
  | shutdown expired => exact (drain_kept expired _).2.1
  | resume k expired =>
      simp only [step, resume]
      split
      · exact (drain_kept expired pool).2.1
      · rfl
  | rouse | alarm | beginDrop | drop => rfl

/-- After a shutdown has started, no job is accepted. -/
theorem run_accepted (sound : pool.Sound) (called : pool.callers ≠ []) (run : Machine.Run step Allowed pool later) :
    later.accepted = pool.accepted := by
  have kept : later.Sound ∧ later.callers ≠ [] ∧ later.accepted = pool.accepted := by
    induction run with
    | start => exact ⟨sound, called, rfl⟩
    | @step pool _ op allowed ih =>
        obtain ⟨sound, called, same⟩ := ih
        refine ⟨sound.step allowed, fun none => ?_, (step_accepted (sound.closed (.inl called))).trans same⟩
        have grown := (step_goes pool op).callers
        rw [none] at grown
        exact called (List.length_eq_zero_iff.mp (Nat.le_zero.mp grown))
  exact kept.2.2

/-- After a shutdown has returned, or the pool is gone, no job is started. -/
theorem run_started (sound : pool.Sound) (stopped : pool.Stopped) (run : Machine.Run step Allowed pool later) :
    later.started = pool.started := by
  have kept : later.Sound ∧ later.Stopped ∧ later.started = pool.started := by
    induction run with
    | start => exact ⟨sound, stopped, rfl⟩
    | @step pool _ op allowed ih =>
        obtain ⟨sound, stopped, same⟩ := ih
        refine ⟨sound.step allowed, ?_, (step_started (sound.stopped stopped)).trans same⟩
        have goes := step_goes pool op
        exact stopped.imp (fun ⟨drained, member⟩ => ⟨drained, goes.returned drained member⟩) goes.dropped
  exact kept.2.2

/-- When a shutdown has drained the pool, every job is done that no shutdown cancelled. -/
theorem Sound.all_done (sound : pool.Sound) (drained : .returned true ∈ pool.callers) {serial : Nat}
    (accepted : serial < pool.accepted) :
    serial ∈ pool.completed ∨ serial ∈ pool.cancelled ∧ .returned false ∈ pool.callers := by
  obtain ⟨idle, kept⟩ := sound.drained drained
  have empty := sound.stopped (.inl ⟨true, drained⟩)
  have notRunning : pool.workers.filterMap Worker.job? = [] := by
    have none := sound.active.symm.trans idle
    rw [List.countP_eq_zero] at none
    refine List.filterMap_eq_nil_iff.mpr fun worker member => ?_
    have free := none worker member
    cases worker <;> simp [Worker.busy, Worker.job?] at free ⊢
  have fate := (sound.fates.mem_iff (a := serial)).mpr (List.mem_range.mpr accepted)
  simp only [empty, kept, List.map_nil, List.append_nil, List.mem_append] at fate
  rcases fate with started | cancelled
  · have ran := sound.runs.mem_iff.mp started
    rw [notRunning] at ran
    exact .inl ran
  · exact .inr ⟨cancelled, sound.cancelled (List.ne_nil_of_mem cancelled)⟩

/-- What every schedule of the pool's threads keeps. -/
theorem hooks_run_once {threads : Nat} (few : threads ≤ hookWorkers)
    (run : Machine.Run step Allowed (new threads) pool) :
    -- a job is started at most once, if it was accepted
    (pool.started.Nodup ∧ ∀ serial ∈ pool.started, serial < pool.accepted) ∧
      pool.jobs.length ≤ hookQueueDepth ∧
      (pool.active = pool.workers.countP Worker.busy ∧ pool.active ≤ hookWorkers) ∧
      (pool.jobs ≠ [] → ∃ worker ∈ pool.workers, worker.awake = true) ∧
      (pool.callers ≠ [] → ∀ later, Machine.Run step Allowed pool later → later.accepted = pool.accepted) ∧
      (.returned true ∈ pool.callers → ∀ serial < pool.accepted,
        serial ∈ pool.completed ∨ serial ∈ pool.cancelled ∧ .returned false ∈ pool.callers) ∧
      (.returned false ∈ pool.callers ∨ pool.dropped = true →
        ∀ later, Machine.Run step Allowed pool later → later.started = pool.started) := by
  have sound := run_sound few run
  have fates := sound.fates
  rw [List.append_assoc, List.append_assoc] at fates
  refine ⟨⟨?_, fun serial member => ?_⟩, sound.depth, ⟨sound.active, ?_⟩, sound.served,
    fun called later => run_accepted sound called, fun drained serial => sound.all_done drained,
    fun stopped later => run_started sound (stopped.imp_left fun member => ⟨false, member⟩)⟩
  · exact (List.nodup_append.mp (fates.nodup_iff.mpr List.nodup_range)).1
  · exact List.mem_range.mp (fates.mem_iff.mp (List.mem_append_left _ member))
  · rw [sound.active]
    exact List.countP_le_length.trans sound.threads

/-! ## A shutdown after one that gave up -/

def oneHook : PoolOp := .submit { event := "after_attach", argv := ["/bin/true"], logDir := "/tmp" } (.worker 0)

/-- A job is queued when the time of a shutdown is up; another one follows. -/
def gaveUp : HookPool := (((new hookWorkers).step oneHook).step (.shutdown true)).step (.shutdown false)

theorem gaveUp_run : Machine.Run step Allowed (new hookWorkers) gaveUp := by
  have nobody : ∀ other, ¬(new hookWorkers).Sleeps other := by
    intro other sleeps
    cases other with
    | worker i =>
        have asleep : Worker.asleep ∈ List.replicate hookWorkers Worker.ready := List.mem_of_getElem? sleeps
        exact absurd (List.eq_of_mem_replicate asleep) nofun
    | caller k => cases sleeps
  have submitted : Machine.Run step Allowed (new hookWorkers) _ := .step .start oneHook ⟨rfl, .inr nobody⟩
  exact (submitted.step (.shutdown true) rfl).step (.shutdown false) rfl

theorem gaveUp_drained_undone :
    ¬∀ pool, Machine.Run step Allowed (new hookWorkers) pool → .returned true ∈ pool.callers →
      ∀ serial < pool.accepted, serial ∈ pool.completed := by
  intro claimed
  have done := claimed gaveUp gaveUp_run (by decide) 0 (by decide)
  revert done
  decide

theorem gaveUp_cancelled : 0 ∈ gaveUp.completed ∨ 0 ∈ gaveUp.cancelled ∧ .returned false ∈ gaveUp.callers :=
  (hooks_run_once (Nat.le_refl _) gaveUp_run).2.2.2.2.2.1 (by decide) 0 (by decide)

end Ezpn.Hooks.HookPool
