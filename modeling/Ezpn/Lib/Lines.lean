import Mathlib.Data.List.Basic

/-!
# Delimited lines

The lines of a stream, each with its delimiter. What comes after the last
delimiter is a line only once the stream has ended.
-/

set_option autoImplicit false

namespace Lines
variable {α : Type} {d : α} {ended : Bool} {body line rest stream : List α}

def Terminated (d : α) (line : List α) : Prop := ∃ body, d ∉ body ∧ line = body ++ [d]

variable [DecidableEq α]

/-- The terminated lines, the first of them begun already, and what is left over. -/
def split (d : α) (line : List α) : List α → List (List α) × List α
  | [] => ([], line)
  | a :: stream =>
      if a = d then ((line ++ [a]) :: (split d [] stream).1, (split d [] stream).2)
      else split d (line ++ [a]) stream

def pieces (d : α) (ended : Bool) (stream : List α) : List (List α) :=
  let left := (split d [] stream).2
  (split d [] stream).1 ++ if ended && !left.isEmpty then [left] else []

theorem split_free (free : d ∉ body) : split d line (body ++ rest) = split d (line ++ body) rest := by
  induction body generalizing line with
  | nil => simp
  | cons a body ih =>
      obtain ⟨other, free⟩ := not_or.mp (mt List.mem_cons.mpr free)
      rw [List.cons_append, split, if_neg (Ne.symm other), ih free, List.append_assoc, List.singleton_append]

theorem pieces_nil : pieces d ended [] = [] := by
  simp [pieces, split]

theorem pieces_terminated (terminated : Terminated d line) :
    pieces d ended (line ++ rest) = line :: pieces d ended rest := by
  obtain ⟨body, free, rfl⟩ := terminated
  simp only [pieces, List.append_assoc, split_free free, List.nil_append, split, if_true,
    List.cons_append]

theorem pieces_flatten {lines : List (List α)} (terminated : ∀ line ∈ lines, Terminated d line) :
    pieces d ended (lines.flatten ++ rest) = lines ++ pieces d ended rest := by
  induction lines with
  | nil => rfl
  | cons line lines ih =>
      rw [List.flatten_cons, List.append_assoc, pieces_terminated (terminated line List.mem_cons_self),
        ih fun line member => terminated line (List.mem_cons_of_mem _ member), List.cons_append]

theorem pieces_free (free : d ∉ rest) : pieces d ended rest = if ended && !rest.isEmpty then [rest] else [] := by
  have whole : split d [] rest = ([], rest) := by
    rw [← List.append_nil rest, split_free free, List.append_nil, split, List.nil_append]
  simp only [pieces, whole, List.nil_append]

/-- A first line that has begun is the beginning of the first piece. -/
theorem pieces_begun (free : d ∉ body) {piece : List α} {others : List (List α)}
    (cut : pieces d ended (body ++ rest) = piece :: others) : body <+: piece := by
  have begun (line : List α) (rest : List α) {piece : List α} {others : List (List α)}
      (first : (split d line rest).1 = piece :: others) : line <+: piece := by
    induction rest generalizing line with
    | nil => cases first
    | cons a rest ih =>
        rw [split] at first
        split at first
        · cases first
          exact List.prefix_append _ _
        · exact (List.prefix_append _ _).trans (ih _ first)
  have left (line : List α) (rest : List α) (none : (split d line rest).1 = []) : line <+: (split d line rest).2 := by
    induction rest generalizing line with
    | nil => exact List.prefix_refl _
    | cons a rest ih =>
        rw [split] at none ⊢
        split at none
        · cases none
        · rename_i other
          rw [if_neg other]
          exact (List.prefix_append _ _).trans (ih _ none)
  simp only [pieces, split_free free, List.nil_append] at cut
  cases lines : (split d body rest).1 with
  | cons first others' =>
      rw [lines, List.cons_append, List.cons.injEq] at cut
      exact cut.1 ▸ begun body rest lines
  | nil =>
      rw [lines, List.nil_append] at cut
      split at cut
      · cases cut
        exact left body rest lines
      · cases cut

end Lines
