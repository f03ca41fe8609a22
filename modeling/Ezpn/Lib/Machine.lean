import Mathlib.Init

/-!
# Labelled machines

A machine takes labelled steps; a label may be allowed in some states only. A
run is a finite sequence of allowed steps. The rules here carry an invariant and
a preorder from single steps to whole runs, and a measure to their goal.
-/

set_option autoImplicit false

namespace Machine
variable {σ α : Type}

/-- Runs from a state whose every step is allowed where it is taken. -/
inductive Run (step : σ → α → σ) (Allowed : σ → α → Prop) (start : σ) : σ → Prop where
  | start : Run step Allowed start start
  | step {s : σ} (earlier : Run step Allowed start s) (a : α) (allowed : Allowed s a) :
      Run step Allowed start (step s a)

section Run
variable {step : σ → α → σ} {Allowed : σ → α → Prop}

/-- What every allowed step preserves, every run preserves. -/
theorem Run.invariant {Inv : σ → Prop} (preserved : ∀ s a, Inv s → Allowed s a → Inv (step s a))
    {start s : σ} (initial : Inv start) (run : Run step Allowed start s) : Inv s := by
  induction run with
  | start => exact initial
  | step earlier a allowed ih => exact preserved _ a ih allowed

/-- A preorder every allowed step follows, where an invariant holds, relates the ends of a run. -/
theorem Run.related {Inv : σ → Prop} {Rel : σ → σ → Prop}
    (preserved : ∀ s a, Inv s → Allowed s a → Inv (step s a))
    (refl : ∀ s, Rel s s) (trans : ∀ s t u, Rel s t → Rel t u → Rel s u)
    (follows : ∀ s a, Inv s → Allowed s a → Rel s (step s a))
    {start s : σ} (initial : Inv start) (run : Run step Allowed start s) : Rel start s := by
  induction run with
  | start => exact refl _
  | step earlier a allowed ih =>
      exact trans _ _ _ ih (follows _ a (earlier.invariant preserved initial) allowed)

theorem Run.trans {start s t : σ} (front : Run step Allowed start s) (back : Run step Allowed s t) :
    Run step Allowed start t := by
  induction back with
  | start => exact front
  | step earlier a allowed ih => exact .step ih a allowed

/-- A run under a condition is a run under any weaker one. -/
theorem Run.weaken {Wider : σ → α → Prop} (wider : ∀ s a, Allowed s a → Wider s a)
    {start s : σ} (run : Run step Allowed start s) : Run step Wider start s := by
  induction run with
  | start => exact .start
  | step earlier a allowed ih => exact .step ih a (wider _ a allowed)

/-- Every list of labels makes a run, where all are allowed. -/
theorem Run.of_labels (step : σ → α → σ) (start : σ) (labels : List α) :
    Run step (fun _ _ => True) start (labels.foldl step start) := by
  induction labels generalizing start with
  | nil => exact .start
  | cons a labels ih => exact (Run.start.step a trivial).trans (ih (step start a))

end Run

/-! ## Inevitability -/

/-- Whatever allowed steps are taken, they lead to the goal, and one can be taken until then. -/
inductive Inevitable (step : σ → α → σ) (Allowed : σ → α → Prop) (Goal : σ → Prop) : σ → Prop where
  | reached {s : σ} (goal : Goal s) : Inevitable step Allowed Goal s
  | next {s : σ} (possible : ∃ a, Allowed s a) (every : ∀ a, Allowed s a → Inevitable step Allowed Goal (step s a)) :
      Inevitable step Allowed Goal s

/-- Steps that lower a measure, and that are possible short of the goal, lead there. -/
theorem Inevitable.of_measure {step : σ → α → σ} {Allowed : σ → α → Prop} {Goal Inv : σ → Prop} (measure : σ → Nat)
    (preserved : ∀ s a, Inv s → Allowed s a → Inv (step s a))
    (progress : ∀ s, Inv s → Goal s ∨ ((∃ a, Allowed s a) ∧ ∀ a, Allowed s a → measure (step s a) < measure s))
    {s : σ} (inv : Inv s) : Inevitable step Allowed Goal s := by
  induction bound : measure s using Nat.strongRecOn generalizing s with
  | ind n ih =>
      rcases progress s inv with goal | ⟨possible, lower⟩
      · exact .reached goal
      · refine .next possible fun a allowed => ?_
        exact ih _ (bound ▸ lower a allowed) (preserved s a inv allowed) rfl

/-! ## Histories -/

/-- Every step of a run, with the state it was taken in. -/
inductive History (step : σ → α → σ) (start : σ) : List (σ × α) → σ → Prop where
  | start : History step start [] start
  | step {log : List (σ × α)} {s : σ} (earlier : History step start log s) (a : α) :
      History step start (log ++ [(s, a)]) (step s a)

section History
variable {step : σ → α → σ} {start s : σ} {log : List (σ × α)}

/-- An invariant that every recorded step keeps holds at the end and wherever a step was taken. -/
theorem History.invariant (Inv : σ → Prop) (Good : σ → α → Prop)
    (preserved : ∀ s a, Inv s → Good s a → Inv (step s a)) (initial : Inv start)
    (history : History step start log s) (good : ∀ entry ∈ log, Good entry.1 entry.2) :
    Inv s ∧ ∀ entry ∈ log, Inv entry.1 := by
  induction history with
  | start => exact ⟨initial, by simp⟩
  | step earlier a ih =>
      have before := ih fun entry member => good entry (List.mem_append_left _ member)
      have last := good (_, a) (List.mem_append_right _ (List.mem_singleton_self _))
      refine ⟨preserved _ a before.1 last, fun entry member => ?_⟩
      rcases List.mem_append.mp member with old | new
      · exact before.2 entry old
      · rw [List.mem_singleton.mp new]
        exact before.1

/-- The steps that a list of labels records. -/
def trace (step : σ → α → σ) : σ → List α → List (σ × α)
  | _, [] => []
  | s, a :: labels => (s, a) :: trace step (step s a) labels

theorem History.extend (history : History step start log s) (labels : List α) :
    History step start (log ++ trace step s labels) (labels.foldl step s) := by
  induction labels generalizing log s with
  | nil => simpa [trace] using history
  | cons a labels ih => simpa [trace] using ih (history.step a)

/-- Every list of labels makes a history. -/
theorem History.of_labels (step : σ → α → σ) (start : σ) (labels : List α) :
    History step start (trace step start labels) (labels.foldl step start) :=
  History.extend .start labels

end History

/-- A state that carries how it came about. -/
structure Journal (step : σ → α → σ) (start : σ) where
  state : σ
  log : List (σ × α)
  history : History step start log state

namespace Journal
variable {step : σ → α → σ} {start : σ}

def new (step : σ → α → σ) (start : σ) : Journal step start := { state := start, log := [], history := .start }

def perform (a : α) (journal : Journal step start) : Journal step start :=
  { state := step journal.state a
    log := journal.log ++ [(journal.state, a)]
    history := .step journal.history a }

@[simp] theorem perform_state (a : α) (journal : Journal step start) :
    (journal.perform a).state = step journal.state a := rfl

end Journal

end Machine
