import Mathlib.Init

/-!
# Sequential transducers

A transducer reads one symbol at a time, updates its state and emits a list of
output symbols. The rules here split a run over concatenation, carry invariants
and relate two runs that take their steps under different environments.
-/

set_option autoImplicit false

namespace Transducer
variable {σ τ α β ε : Type}

def run (step : σ → α → σ × List β) : σ → List α → σ × List β
  | s, [] => (s, [])
  | s, a :: input =>
      let (s, emitted) := step s a
      let (s, output) := run step s input
      (s, emitted ++ output)

section Run
variable {step : σ → α → σ × List β}

@[simp] theorem run_nil (s : σ) : run step s [] = (s, []) := rfl

theorem run_cons (s : σ) (a : α) (input : List α) :
    run step s (a :: input) =
      ((run step (step s a).1 input).1, (step s a).2 ++ (run step (step s a).1 input).2) := rfl

theorem run_singleton (s : σ) (a : α) : run step s [a] = step s a := by
  simp [run_cons]

theorem run_append (s : σ) (front back : List α) :
    run step s (front ++ back) =
      ((run step (run step s front).1 back).1,
        (run step s front).2 ++ (run step (run step s front).1 back).2) := by
  induction front generalizing s with
  | nil => simp
  | cons a front ih => simp [run_cons, ih]

/-- What every step preserves, every run preserves. -/
theorem run_invariant (Inv : σ → Prop) (preserved : ∀ s a, Inv s → Inv (step s a).1)
    {s : σ} (initial : Inv s) (input : List α) : Inv (run step s input).1 := by
  induction input generalizing s with
  | nil => exact initial
  | cons a input ih => exact ih (preserved s a initial)

/-- A run whose steps emit whole items emits whole items. -/
theorem run_emits (Inv : σ → Prop) {Emits : List β → Prop}
    (preserved : ∀ s a, Inv s → Inv (step s a).1)
    (empty : Emits []) (joined : ∀ left right, Emits left → Emits right → Emits (left ++ right))
    (emitted : ∀ s a, Inv s → Emits (step s a).2)
    {s : σ} (initial : Inv s) (input : List α) : Emits (run step s input).2 := by
  induction input generalizing s with
  | nil => exact empty
  | cons a input ih => exact joined _ _ (emitted s a initial) (ih (preserved s a initial))

/-- Input on which the state only loops within `Inv`, emitting symbol by symbol. -/
theorem run_loop (Inv : σ → Prop) {Admits : α → Prop} {emit : α → List β}
    (loops : ∀ s a, Inv s → Admits a → Inv (step s a).1 ∧ (step s a).2 = emit a)
    {s : σ} (initial : Inv s) {input : List α} (admitted : ∀ a ∈ input, Admits a) :
    Inv (run step s input).1 ∧ (run step s input).2 = input.flatMap emit := by
  induction input generalizing s with
  | nil => exact ⟨initial, rfl⟩
  | cons a input ih =>
      obtain ⟨next, here⟩ := loops s a initial (admitted a List.mem_cons_self)
      obtain ⟨final, rest⟩ := ih next fun b member => admitted b (List.mem_cons_of_mem a member)
      exact ⟨final, by rw [run_cons, here, rest, List.flatMap_cons]⟩

end Run

/-! ## Reads -/

/-- Input that arrives in reads, each under its own environment. -/
def runReads (step : ε → σ → α → σ × List β) : σ → List (ε × List α) → σ × List β
  | s, [] => (s, [])
  | s, (env, chunk) :: reads =>
      let (s, emitted) := run (step env) s chunk
      let (s, output) := runReads step s reads
      (s, emitted ++ output)

/-- Two step functions that agree up to a relation on states agree on whole runs. -/
theorem run_related {Rel : σ → τ → Prop} {step : σ → α → σ × List β} {step' : τ → α → τ × List β}
    (agree : ∀ s t a, Rel s t → Rel (step s a).1 (step' t a).1 ∧ (step s a).2 = (step' t a).2)
    {s : σ} {t : τ} (related : Rel s t) (input : List α) :
    Rel (run step s input).1 (run step' t input).1 ∧ (run step s input).2 = (run step' t input).2 := by
  induction input generalizing s t with
  | nil => exact ⟨related, rfl⟩
  | cons a input ih =>
      obtain ⟨next, same⟩ := agree s t a related
      obtain ⟨final, rest⟩ := ih next
      exact ⟨final, by rw [run_cons, run_cons, same, rest]⟩

/-- However the input is cut into reads, and whatever the environments of the
reads, the run agrees with the uncut one. -/
theorem runReads_related (Rel : σ → σ → Prop) (Admitted : ε → Prop) {step : ε → σ → α → σ × List β} {env : ε}
    (agree : ∀ env' s t a, Admitted env' → Rel s t →
      Rel (step env' s a).1 (step env t a).1 ∧ (step env' s a).2 = (step env t a).2)
    {s t : σ} (related : Rel s t) {reads : List (ε × List α)} (admitted : ∀ read ∈ reads, Admitted read.1) :
    Rel (runReads step s reads).1 (run (step env) t (reads.flatMap (·.2))).1 ∧
      (runReads step s reads).2 = (run (step env) t (reads.flatMap (·.2))).2 := by
  induction reads generalizing s t with
  | nil => exact ⟨related, rfl⟩
  | cons read reads ih =>
      obtain ⟨env', chunk⟩ := read
      have here := admitted (env', chunk) List.mem_cons_self
      obtain ⟨next, same⟩ := run_related (fun s t a => agree env' s t a here) related chunk
      obtain ⟨final, rest⟩ := ih next fun r member => admitted r (List.mem_cons_of_mem _ member)
      rw [List.flatMap_cons, run_append]
      exact ⟨final, by simp only [runReads, same, rest]⟩

end Transducer
