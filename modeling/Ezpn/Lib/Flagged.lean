import Mathlib.Init

/-!
# Flagged results

A computation that may fail returns a value with a flag, which says that private
inputs were read. Two computations agree when they give the same result or when
neither gives one without the flag. Agreement passes through sequences whose
later parts keep a flag that is set.
-/

set_option autoImplicit false

namespace Flagged
variable {ε α β γ : Type}

/-- A result, if there is one, has its flag set. -/
def Sensitive (result : Except ε (α × Bool)) : Prop := ∀ v, result ≠ .ok (v, false)

/-- The results are the same, or none comes without the flag. -/
def Agrees (left right : Except ε (α × Bool)) : Prop := left = right ∨ Sensitive left ∧ Sensitive right

theorem sensitive_ok (v : α) : Sensitive (.ok (v, true) : Except ε (α × Bool)) := nofun

theorem sensitive_error (e : ε) : Sensitive (.error e : Except ε (α × Bool)) := nofun

/-- What follows a flagged result and keeps its flag. -/
theorem Sensitive.bind {result : Except ε (α × Bool)} (sensitive : Sensitive result)
    {next : α × Bool → Except ε (β × Bool)} (keeps : ∀ v, Sensitive (next (v, true))) :
    Sensitive (result >>= next) := by
  match result with
  | .error e => exact sensitive_error e
  | .ok (v, true) => exact keeps v
  | .ok (v, false) => exact absurd rfl (sensitive v)

theorem Agrees.refl (result : Except ε (α × Bool)) : Agrees result result := .inl rfl

theorem Agrees.bind {left right : Except ε (α × Bool)} (agrees : Agrees left right)
    {next nextRight : α × Bool → Except ε (β × Bool)} (same : ∀ v flag, Agrees (next (v, flag)) (nextRight (v, flag)))
    (keeps : ∀ v, Sensitive (next (v, true))) (keepsRight : ∀ v, Sensitive (nextRight (v, true))) :
    Agrees (left >>= next) (right >>= nextRight) := by
  rcases agrees with rfl | ⟨sensitive, sensitiveRight⟩
  · match left with
    | .error e => exact .refl _
    | .ok (v, flag) => exact same v flag
  · exact .inr ⟨sensitive.bind keeps, sensitiveRight.bind keepsRight⟩

/-- A check that both make in the same way. -/
theorem Agrees.after {check : Except ε γ} {next nextRight : γ → Except ε (β × Bool)}
    (same : ∀ v, Agrees (next v) (nextRight v)) : Agrees (check >>= next) (check >>= nextRight) := by
  match check with
  | .error e => exact .refl _
  | .ok v => exact same v

theorem Sensitive.after {check : Except ε γ} {next : γ → Except ε (β × Bool)} (sensitive : ∀ v, Sensitive (next v)) :
    Sensitive (check >>= next) := by
  match check with
  | .error e => exact sensitive_error e
  | .ok v => exact sensitive v

theorem Sensitive.map {result : Except ε (α × Bool)} (sensitive : Sensitive result) (f : α → β) :
    Sensitive (result.map fun (v, flag) => (f v, flag)) := by
  match result with
  | .error e => exact sensitive_error e
  | .ok (v, true) => exact sensitive_ok (f v)
  | .ok (v, false) => exact absurd rfl (sensitive v)

theorem Agrees.map {left right : Except ε (α × Bool)} (agrees : Agrees left right) (f : α → β) :
    Agrees (left.map fun (v, flag) => (f v, flag)) (right.map fun (v, flag) => (f v, flag)) :=
  agrees.imp (congrArg _) fun ⟨sensitive, sensitiveRight⟩ => ⟨sensitive.map f, sensitiveRight.map f⟩

theorem Agrees.mapError {δ : Type} {left right : Except ε (α × Bool)} (agrees : Agrees left right) (f : ε → δ) :
    Agrees (left.mapError f) (right.mapError f) := by
  have kept (result : Except ε (α × Bool)) (sensitive : Sensitive result) : Sensitive (result.mapError f) := by
    match result with
    | .error e => exact sensitive_error _
    | .ok (v, true) => exact sensitive_ok v
    | .ok (v, false) => exact absurd rfl (sensitive v)
  exact agrees.imp (congrArg _) fun ⟨sensitive, sensitiveRight⟩ => ⟨kept _ sensitive, kept _ sensitiveRight⟩

/-- Two results that agree have the same flag, and without it the same value. -/
theorem Agrees.ok {left right : Except ε (α × Bool)} (agrees : Agrees left right) {v w : α} {flag flagRight : Bool}
    (ok : left = .ok (v, flag)) (okRight : right = .ok (w, flagRight)) :
    flagRight = flag ∧ (flag = false → w = v) := by
  rcases agrees with same | ⟨sensitive, sensitiveRight⟩
  · cases ok.symm.trans (same.trans okRight)
    exact ⟨rfl, fun _ => rfl⟩
  · cases flag with
    | false => exact absurd ok (sensitive v)
    | true =>
        cases flagRight with
        | false => exact absurd okRight (sensitiveRight w)
        | true => exact ⟨rfl, nofun⟩

/-- A result without the flag is the other one, too. -/
theorem Agrees.eq_of_insensitive {left right : Except ε (α × Bool)} (agrees : Agrees left right) {v : α}
    (insensitive : left = .ok (v, false)) : right = .ok (v, false) := by
  rcases agrees with same | ⟨sensitive, _⟩
  · exact same ▸ insensitive
  · exact absurd insensitive (sensitive v)

end Flagged
