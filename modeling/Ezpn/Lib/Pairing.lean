import Mathlib.Init

/-!
# Paired runs

Two runs of one machine that take some steps together, with related labels, and
others alone. A relation that both kinds of steps keep holds between all states
that the runs reach together.
-/

set_option autoImplicit false

namespace Machine
variable {σ α : Type}

/-- Two runs from one state, up to where they have taken their common steps. -/
inductive Paired (step : σ → α → σ) (Alone : σ → α → Prop) (Together : σ → σ → α → α → Prop) (start : σ) :
    σ → σ → Prop where
  | start : Paired step Alone Together start start start
  | left {s t : σ} (earlier : Paired step Alone Together start s t) (a : α) (alone : Alone s a) :
      Paired step Alone Together start (step s a) t
  | right {s t : σ} (earlier : Paired step Alone Together start s t) (a : α) (alone : Alone t a) :
      Paired step Alone Together start s (step t a)
  | both {s t : σ} (earlier : Paired step Alone Together start s t) (a b : α) (together : Together s t a b) :
      Paired step Alone Together start (step s a) (step t b)

variable {step : σ → α → σ} {Alone : σ → α → Prop} {Together : σ → σ → α → α → Prop} {start s t : σ}

/-- Steps that either run takes alone need to keep a symmetric relation on one side only. -/
theorem Paired.related {Rel : σ → σ → Prop} (symm : ∀ s t, Rel s t → Rel t s)
    (alone : ∀ s t a, Rel s t → Alone s a → Rel (step s a) t)
    (together : ∀ s t a b, Rel s t → Together s t a b → Rel (step s a) (step t b)) (initial : Rel start start)
    (paired : Paired step Alone Together start s t) : Rel s t := by
  induction paired with
  | start => exact initial
  | left earlier a quiet ih => exact alone _ _ a ih quiet
  | right earlier a quiet ih => exact symm _ _ (alone _ _ a (symm _ _ ih) quiet)
  | both earlier a b common ih => exact together _ _ a b ih common

end Machine
