import Ezpn.Screen.Lines

/-!
# Replaying lines

Lines that are printed one after the other, each followed by a line break, on a screen
that was blank. The screen and its history hold the most recent of them, each once.
-/

set_option autoImplicit false

namespace Ezpn

namespace LiveGrid

/-- What a history of some capacity keeps. -/
def latest {α : Type} (capacity : Nat) (all : List α) : List α := all.drop (all.length - capacity)

theorem latest_push {α : Type} (capacity : Nat) (all : List α) (x : α) :
    latest capacity (latest capacity all ++ [x]) = latest capacity (all ++ [x]) := by
  unfold latest
  rcases Nat.le_total all.length capacity with few | many
  · rw [Nat.sub_eq_zero_of_le few, List.drop_zero]
  · have length : (all.drop (all.length - capacity)).length = capacity := by
      rw [List.length_drop]
      omega
    rw [List.length_append, length, List.length_append, List.length_singleton, Nat.add_sub_cancel_left]
    rw [show all.length + 1 - capacity = all.length - capacity + 1 by omega, ← List.drop_drop]
    congr 1
    rw [List.drop_append_of_le_length (by omega)]

/-- The rows that have left the screen, of those that were finished, are its history. -/
structure Replayed (height width capacity : Nat) (done : List Row) (grid : LiveGrid) : Prop where
  size : grid.height = height ∧ grid.width = width ∧ grid.scrollbackLen = capacity
  row : grid.row = min done.length (height - 1)
  col : grid.col = 0
  rows : grid.rows = done.drop (done.length - grid.row) ++ List.replicate (height - grid.row) (newRow width)
  scrollback : grid.scrollback = latest capacity (done.take (done.length - grid.row))

theorem new_replayed (height width capacity : Nat) : Replayed height width capacity [] (new height width capacity) where
  size := ⟨rfl, rfl, rfl⟩
  row := (Nat.zero_min _).symm
  col := rfl
  rows := rfl
  scrollback := by simp [latest, new]

theorem newRow_eq (width : Nat) : newRow width = TypedLine.row width {} := rfl

/-- The cursor is at the start of a blank line. -/
theorem Replayed.start {height width capacity : Nat} {done : List Row} {grid : LiveGrid} (positive : 0 < height)
    (replayed : Replayed height width capacity done grid) (explicit : ∀ row ∈ done, row.wrapped = false) :
    TypedLine.At (done.drop (done.length - grid.row)) (List.replicate (height - grid.row - 1) (newRow width)) {} grid where
  rows := by
    have row := replayed.row
    obtain ⟨blanks, more⟩ := Nat.exists_eq_add_of_lt (show grid.row < height by omega)
    rw [replayed.rows, replayed.size.2.1, ← newRow_eq, show height - grid.row = blanks + 1 by omega]
    rfl
  placed := by
    have row := replayed.row
    rw [List.length_drop]
    omega
  col := replayed.col
  explicit row member := explicit row (List.mem_of_mem_drop member)

theorem scrollUp_fields {grid : LiveGrid} {removed : Row} {rest : List Row} (rows : grid.rows = removed :: rest) :
    grid.scrollUp.height = grid.height ∧ grid.scrollUp.width = grid.width ∧
      grid.scrollUp.scrollbackLen = grid.scrollbackLen ∧ grid.scrollUp.row = grid.row ∧ grid.scrollUp.col = grid.col ∧
      grid.scrollUp.rows = rest ++ [newRow grid.width] := by
  unfold scrollUp
  rw [rows, List.cons_append]
  dsimp only
  split <;> exact ⟨rfl, rfl, rfl, rfl, rfl, rfl⟩

/-- The row that leaves the screen is the latest of the history. -/
theorem scrollUp_scrollback {grid : LiveGrid} {removed : Row} {rest : List Row} (rows : grid.rows = removed :: rest)
    (none_kept : grid.scrollbackLen = 0 → grid.scrollback = []) :
    grid.scrollUp.scrollback = latest grid.scrollbackLen (grid.scrollback ++ [removed]) := by
  unfold scrollUp
  rw [rows, List.cons_append]
  dsimp only
  split
  · rename_i off
    simp [none_kept off, off, latest]
  · rfl

/-- A line is finished. -/
theorem Replayed.next {height width capacity : Nat} {done : List Row} {grid : LiveGrid} (positive : 0 < height)
    (replayed : Replayed height width capacity done grid) (line : TypedLine) :
    Replayed height width capacity (done ++ [line.row width])
      (TypedLine.onGrid (done.drop (done.length - grid.row)) (List.replicate (height - grid.row - 1) (newRow width)) line
        grid).cr.lf := by
  obtain ⟨⟨height_eq, width_eq, capacity_eq⟩, row, col, rows, scrollback⟩ := replayed
  generalize typed : (TypedLine.onGrid (done.drop (done.length - grid.row))
    (List.replicate (height - grid.row - 1) (newRow width)) line grid).cr = after
  have fields : after.height = height ∧ after.width = width ∧ after.scrollbackLen = capacity ∧ after.row = grid.row ∧
      after.col = 0 ∧ after.scrollback = grid.scrollback ∧
      after.rows = done.drop (done.length - grid.row) ++ line.row width ::
        List.replicate (height - grid.row - 1) (newRow width) := by
    subst typed
    exact ⟨height_eq, width_eq, capacity_eq, rfl, rfl, rfl, by rw [← width_eq]; rfl⟩
  obtain ⟨height_after, width_after, capacity_after, row_after, col_after, scrollback_after, rows_after⟩ := fields
  have count : (done ++ [line.row width]).length = done.length + 1 := by simp
  unfold lf rowIncScroll
  rw [row_after]
  split
  · -- The last row of the screen: the top one goes to the history.
    rename_i bottom
    have last : grid.row = height - 1 := by omega
    have many : height - 1 ≤ done.length := by omega
    have top : done.length - grid.row < (done ++ [line.row width]).length := by omega
    have rows_now : after.rows = (done ++ [line.row width])[done.length - grid.row] ::
        (done ++ [line.row width]).drop (done.length - grid.row + 1) := by
      rw [rows_after, ← List.drop_eq_getElem_cons top, List.drop_append_of_le_length (by omega),
        show height - grid.row - 1 = 0 by omega]
      rfl
    have fields := @scrollUp_fields { after with row := after.height - 1 } _ _ rows_now
    have history := @scrollUp_scrollback { after with row := after.height - 1 } _ _ rows_now fun off => by
      simp only [capacity_after] at off
      simp only [scrollback_after, scrollback, off, latest, Nat.sub_zero, List.drop_length]
    dsimp only at fields history ⊢
    have gone : done.length + 1 - (height - 1) = done.length - grid.row + 1 := by omega
    have before : (done ++ [line.row width]).take (done.length - grid.row) = done.take (done.length - grid.row) :=
      List.take_append_of_le_length (by omega)
    refine ⟨⟨fields.1.trans height_after, fields.2.1.trans width_after, fields.2.2.1.trans capacity_after⟩, ?_,
      fields.2.2.2.2.1.trans col_after, ?_, ?_⟩
    · rw [fields.2.2.2.1, count]
      omega
    · rw [fields.2.2.2.1, fields.2.2.2.2.2, count, height_after, gone, width_after,
        show height - (height - 1) = 1 by omega]
      rfl
    · rw [history, fields.2.2.2.1, count, height_after, gone, capacity_after, scrollback_after, scrollback, latest_push,
        ← before, List.take_append_getElem]
  · rename_i above
    have few : grid.row = done.length := by omega
    refine ⟨⟨height_after, width_after, capacity_after⟩, ?_, col_after, ?_, ?_⟩
    · simp only
      omega
    · simp only [rows_after, List.drop_zero, count, few, Nat.sub_self, List.append_assoc, List.singleton_append,
        Nat.sub_sub]
    · simp only [scrollback_after, scrollback, count, few, Nat.sub_self, List.take_zero]

/-- History and screen: the most recent rows, and blank ones below them. -/
theorem Replayed.all {height width capacity : Nat} {done : List Row} {grid : LiveGrid} (positive : 0 < height)
    (replayed : Replayed height width capacity done grid) :
    grid.scrollback ++ grid.rows = latest (capacity + (height - 1)) done ++
      List.replicate (height - min done.length (height - 1)) (newRow width) := by
  have row := replayed.row
  rw [replayed.rows, replayed.scrollback, ← List.append_assoc, row]
  congr 1
  generalize gone : done.length - min done.length (height - 1) = k
  have length : (done.take k).length = k := by
    rw [List.length_take]
    omega
  calc latest capacity (done.take k) ++ done.drop k
      = (done.take k ++ done.drop k).drop (k - capacity) := by
        rw [latest, length, List.drop_append_of_le_length (by omega)]
    _ = done.drop (done.length - (capacity + (height - 1))) := by
        rw [List.take_append_drop]
        congr 1
        omega

end LiveGrid

end Ezpn
