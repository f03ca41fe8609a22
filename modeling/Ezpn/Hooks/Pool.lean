import Ezpn.Lib.Machine
import Mathlib.Data.List.Basic

/-!
# The pool of hook workers

Workers, submitters and shutdown callers share a queue under a mutex and one
condition variable. A step is a critical section, the return of a running job,
or a wake-up without a notice.
-/

set_option autoImplicit false

namespace Ezpn.Hooks

def hookWorkers : Nat := 4

def hookQueueDepth : Nat := 64

structure HookJob where
  event : String
  argv : List String
  logDir : String
  deriving DecidableEq, Repr

/-- A job is known by the number of jobs accepted before it. -/
inductive Worker where
  /-- before the lock of the loop head, at first or after a wake-up -/
  | ready
  /-- in `ready.wait` -/
  | asleep
  /-- in `run_one` -/
  | running (serial : Nat)
  /-- before the lock that ends the job -/
  | finished
  /-- the thread has returned -/
  | gone
  deriving DecidableEq, Repr

/-- A call of `shutdown`. -/
inductive Caller where
  | ready
  /-- in `ready.wait_timeout` -/
  | asleep
  | returned (drained : Bool)
  deriving DecidableEq, Repr

inductive Waiter where
  | worker (i : Nat)
  | caller (k : Nat)

structure HookPool where
  workers : List Worker
  jobs : List (Nat × HookJob) := []
  active : Nat := 0
  accepting : Bool := true
  cancel : Bool := false
  callers : List Caller := []
  dropping : Bool := false
  dropped : Bool := false
  /-- how many jobs were accepted, and what became of them -/
  accepted : Nat := 0
  started : List Nat := []
  completed : List Nat := []
  /-- cleared by a shutdown whose time was up -/
  cancelled : List Nat := []
  /-- cleared by the drop -/
  abandoned : List Nat := []

inductive PoolOp where
  /-- `wake` is the waiter that `notify_one` reaches -/
  | submit (job : HookJob) (wake : Waiter)
  /-- the loop head of a worker -/
  | take (i : Nat)
  /-- `run_one` returns -/
  | complete (i : Nat)
  /-- the end of the loop body -/
  | settle (i : Nat)
  /-- a worker wakes up without a notice -/
  | rouse (i : Nat)
  /-- a call of `shutdown` takes the lock; `expired` says whether its time is up -/
  | shutdown (expired : Bool)
  /-- a woken caller has the lock again -/
  | resume (k : Nat) (expired : Bool)
  /-- a caller wakes up without a notice, or since its time is up -/
  | alarm (k : Nat)
  /-- the drop raises the cancel flag -/
  | beginDrop
  | drop

def Worker.wake : Worker → Worker
  | asleep => ready
  | worker => worker

def Caller.wake : Caller → Caller
  | asleep => ready
  | caller => caller

def Caller.isReturned : Caller → Bool
  | returned _ => true
  | _ => false

/-- Holds a place in `active`. -/
def Worker.busy : Worker → Bool
  | running _ | finished => true
  | _ => false

def Worker.job? : Worker → Option Nat
  | running serial => some serial
  | _ => none

namespace HookPool

/-- `HookPool::new`, with the threads that could be spawned. -/
def new (threads : Nat) : HookPool := { workers := List.replicate threads .ready }

def notifyAll (pool : HookPool) : HookPool :=
  { pool with workers := pool.workers.map Worker.wake, callers := pool.callers.map Caller.wake }

def notifyOne (wake : Waiter) (pool : HookPool) : HookPool :=
  match wake with
  | .worker i => { pool with workers := pool.workers.modify i Worker.wake }
  | .caller k => { pool with callers := pool.callers.modify k Caller.wake }

def setWorker (i : Nat) (worker : Worker) (pool : HookPool) : HookPool :=
  { pool with workers := pool.workers.set i worker }

def submit (job : HookJob) (wake : Waiter) (pool : HookPool) : HookPool :=
  if pool.workers.isEmpty || !pool.accepting || pool.jobs.length ≥ hookQueueDepth then pool
  else { pool with jobs := pool.jobs ++ [(pool.accepted, job)], accepted := pool.accepted + 1 }.notifyOne wake

def take (i : Nat) (pool : HookPool) : HookPool :=
  match pool.workers[i]? with
  | some .ready =>
      match pool.jobs with
      | [] => if pool.accepting then pool.setWorker i .asleep else pool.setWorker i .gone
      | (serial, _) :: jobs =>
          { pool with jobs, active := pool.active + 1, started := pool.started ++ [serial] }.setWorker i (.running serial)
  | _ => pool

def complete (i : Nat) (pool : HookPool) : HookPool :=
  match pool.workers[i]? with
  | some (.running serial) => { pool with completed := pool.completed ++ [serial] }.setWorker i .finished
  | _ => pool

def settle (i : Nat) (pool : HookPool) : HookPool :=
  match pool.workers[i]? with
  | some .finished => ({ pool with active := pool.active - 1 }.setWorker i .ready).notifyAll
  | _ => pool

/-- The loop of `shutdown`, up to its next wait. -/
def drain (expired : Bool) (pool : HookPool) : HookPool × Caller :=
  if pool.active > 0 || !pool.jobs.isEmpty then
    if expired then
      ({ pool with cancel := true, jobs := [], cancelled := pool.cancelled ++ pool.jobs.map Prod.fst }.notifyAll,
        .returned false)
    else (pool, .asleep)
  else (pool, .returned true)

def shutdown (expired : Bool) (pool : HookPool) : HookPool :=
  let (pool, caller) := { pool with accepting := false }.notifyAll.drain expired
  { pool with callers := pool.callers ++ [caller] }

def resume (k : Nat) (expired : Bool) (pool : HookPool) : HookPool :=
  match pool.callers[k]? with
  | some .ready =>
      let (pool, caller) := pool.drain expired
      { pool with callers := pool.callers.set k caller }
  | _ => pool

def drop (pool : HookPool) : HookPool :=
  { pool with
    accepting := false
    jobs := []
    abandoned := pool.abandoned ++ pool.jobs.map Prod.fst
    dropped := true }.notifyAll

def step (pool : HookPool) : PoolOp → HookPool
  | .submit job wake => pool.submit job wake
  | .take i => pool.take i
  | .complete i => pool.complete i
  | .settle i => pool.settle i
  | .rouse i => { pool with workers := pool.workers.modify i Worker.wake }
  | .shutdown expired => pool.shutdown expired
  | .resume k expired => pool.resume k expired
  | .alarm k => { pool with callers := pool.callers.modify k Caller.wake }
  | .beginDrop => { pool with cancel := true, dropping := true }
  | .drop => pool.drop

def Sleeps (pool : HookPool) : Waiter → Prop
  | .worker i => pool.workers[i]? = some .asleep
  | .caller k => pool.callers[k]? = some .asleep

/-- What threads can do. A notice reaches a sleeper if there is one, and the pool is dropped when nobody calls it
any more. -/
def Allowed (pool : HookPool) : PoolOp → Prop
  | .submit _ wake => pool.dropping = false ∧ (pool.Sleeps wake ∨ ∀ other, ¬pool.Sleeps other)
  | .shutdown _ => pool.dropping = false
  | .beginDrop => pool.dropping = false ∧ ∀ caller ∈ pool.callers, caller.isReturned = true
  | .drop => pool.dropping = true ∧ pool.dropped = false
  | _ => True

end HookPool

end Ezpn.Hooks
