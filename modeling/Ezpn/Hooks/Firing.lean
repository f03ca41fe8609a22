import Ezpn.Hooks.Pool
import Ezpn.Hooks.Substitution
import Ezpn.Text

/-!
# Firing hooks

An event hands one job to the pool for each of its hooks, with the templates of the
hook expanded, or leaves the hook out. Other threads use the pool in the meantime.
-/

set_option autoImplicit false

namespace Ezpn.Hooks

/-! ## Predicates -/

inductive WhenOp where
  | eq
  | ne
  deriving DecidableEq

inductive WhenRhs where
  | str (s : String)
  | int (n : Int)

structure WhenPredicate where
  lhs : String
  op : WhenOp
  rhs : WhenRhs

/-- `str::parse::<i64>`. -/
def parseI64 (text : List Char) : Option Int :=
  match text with
  | '-' :: digits =>
      match digits with
      | [] | '+' :: _ => none
      | _ => (Text.digits? (2 ^ 63) 0 digits).map fun n => -(n : Int)
  | _ => (Text.parseUnsigned (2 ^ 63 - 1) text).map Int.ofNat

def WhenPredicate.evaluate (payload : HookPayload) (pred : WhenPredicate) : Bool :=
  let lhsVal := (payload.get pred.lhs).getD ""
  let cmpEq := match pred.rhs with
    | .str s => lhsVal == s
    | .int n => parseI64 lhsVal.toList == some n
  match pred.op with
  | .eq => cmpEq
  | .ne => !cmpEq

structure Hook where
  exec : List String
  when : Option WhenPredicate := none

/-! ## Firing -/

/-- Rounds that the scanner may take for a template. -/
def rounds (template : String) : Nat := template.toList.length + 1

/-- Expand the templates, as long as they are valid; the outer `none` is a panic. -/
def expandArgv (payload : HookPayload) : List String → (bytes : Nat) → (argv : List String) → Option (Option (List String))
  | [], _, argv => some (some argv)
  | template :: exec, bytes, argv =>
      match substituteChecked payload (rounds template) template.toList with
      | none => none
      | some none => some none
      | some (some arg) =>
          if '\x00' ∉ arg ∧ byteLen arg ≤ hookArgvMaxBytes - bytes then
            expandArgv payload exec (bytes + byteLen arg) (argv ++ [String.ofList arg])
          else some none

/-- The argument vector to submit for a hook, if any. -/
def Hook.argv (payload : HookPayload) (hook : Hook) : Option (Option (List String)) :=
  if hook.when.all (·.evaluate payload) then
    match expandArgv payload hook.exec 0 [] with
    | none => none
    | some none => some none
    | some (some argv) => some (if argv.head?.all (· == "") then none else some argv)
  else some none

/-- The pool takes a job. -/
def HookPool.accepts (pool : HookPool) : Bool :=
  !(pool.workers.isEmpty || !pool.accepting || pool.jobs.length ≥ hookQueueDepth)

/-- What became of a hook. -/
inductive Report where
  | skipped
  | submitted (job : HookJob) (accepted : Bool)

/-- The elements of `exec`, each expanded. -/
def Expansion (payload : HookPayload) (exec argv : List String) : Prop :=
  List.Forall₂ (fun template arg => Expands payload template.toList arg.toList) exec argv

def totalBytes (argv : List String) : Nat := (argv.map fun arg => byteLen arg.toList).sum

/-- What a hook must be for its job to be submitted. -/
structure Valid (payload : HookPayload) (hook : Hook) (argv : List String) : Prop where
  wanted : ∀ pred ∈ hook.when, pred.evaluate payload = true
  templates : ∀ template ∈ hook.exec, byteLen template.toList ≤ hookArgvMaxBytes
  total : totalBytes argv ≤ hookArgvMaxBytes
  noNul : ∀ arg ∈ argv, '\x00' ∉ arg.toList
  program : ∃ first rest, argv = first :: rest ∧ first ≠ ""

theorem Expansion.total (payload : HookPayload) (exec : List String) : ∃ argv, Expansion payload exec argv := by
  induction exec with
  | nil => exact ⟨[], .nil⟩
  | cons template exec ih =>
      obtain ⟨argv, expanded⟩ := ih
      obtain ⟨out, one⟩ := Expands.total payload template.toList
      exact ⟨String.ofList out :: argv, .cons (by rwa [String.toList_ofList]) expanded⟩

section Argv
variable {payload : HookPayload}

end Argv

/-- The answer of the pool: a job it takes is the last of its queue. -/
theorem submit_accepts (pool : HookPool) (job : HookJob) (wake : Waiter) :
    (pool.submit job wake).jobs = (if pool.accepts then pool.jobs ++ [(pool.accepted, job)] else pool.jobs) ∧
      (pool.submit job wake).accepted = if pool.accepts then pool.accepted + 1 else pool.accepted := by
  unfold HookPool.submit HookPool.accepts
  cases pool.workers.isEmpty || !pool.accepting || pool.jobs.length ≥ hookQueueDepth with
  | true => exact ⟨rfl, rfl⟩
  | false => cases wake <;> exact ⟨rfl, rfl⟩

end Ezpn.Hooks
