import Ezpn.CopyMode

/-!
# Motions of copy mode

The word motions come to an end, and every motion stays on the screen.
-/

set_option autoImplicit false

namespace Ezpn

theorem sub?_of_le {a b : Nat} (le : b ≤ a) : sub? a b = some (a - b) := if_pos le

/-- The number of a cell in reading order. -/
theorem position_lt {rows cols r c : Nat} (row : r < rows) (col : c < cols) : r * cols + c < rows * cols := by
  have next : (r + 1) * cols ≤ rows * cols := Nat.mul_le_mul_right cols row
  rw [Nat.succ_mul] at next
  omega

namespace Stop

def Inside (rows cols : Nat) : Stop → Prop
  | .at r c => r < rows ∧ c < cols
  | .edge => True

end Stop

variable {tables : UnicodeTables} {screen : Grid} {rows cols r c : Nat}

theorem nextCell_cases (row : r < rows) (col : c < cols) :
    nextCell rows cols r c = none ∨ ∃ r' c', nextCell rows cols r c = some (r', c') ∧ r' < rows ∧ c' < cols ∧
      r' * cols + c' = r * cols + c + 1 := by
  unfold nextCell
  split
  · rename_i last
    split
    · exact .inl rfl
    · refine .inr ⟨r + 1, 0, rfl, by omega, by omega, ?_⟩
      rw [Nat.succ_mul]
      omega
  · exact .inr ⟨r, c + 1, rfl, row, by omega, rfl⟩

theorem skipWordClass_ends (tables : UnicodeTables) (screen : Grid) (startWord : Bool) {fuel : Nat} (row : r < rows) (col : c < cols)
    (enough : rows * cols ≤ fuel + (r * cols + c)) :
    ∃ stop, skipWordClass tables screen rows cols startWord fuel r c = some stop ∧ stop.Inside rows cols := by
  induction fuel generalizing r c with
  | zero =>
      have bound := position_lt row col
      omega
  | succ fuel ih =>
      rw [skipWordClass]
      rcases nextCell_cases row col with none | ⟨r', c', next, row', col', position⟩
      · exact ⟨.edge, by rw [none], trivial⟩
      · have further := ih row' col' (by omega)
        simp only [next]
        split
        · exact further
        · split
          · exact ⟨.at r' c', rfl, row', col'⟩
          · exact further

theorem skipBlanks_ends (screen : Grid) {fuel : Nat} (row : r < rows) (col : c < cols) (enough : rows * cols ≤ fuel + (r * cols + c)) :
    ∃ stop, skipBlanks screen rows cols fuel r c = some stop ∧ stop.Inside rows cols := by
  induction fuel generalizing r c with
  | zero =>
      have bound := position_lt row col
      omega
  | succ fuel ih =>
      rw [skipBlanks]
      split
      · exact ⟨.at r c, rfl, row, col⟩
      · rcases nextCell_cases row col with none | ⟨r', c', next, row', col', position⟩
        · exact ⟨.edge, by rw [none], trivial⟩
        · simp only [next]
          exact ih row' col' (by omega)

theorem previousCell_cases (row : r < rows) (col : c < cols) :
    previousCell cols r c = some .edge ∨ ∃ r' c', previousCell cols r c = some (.at r' c') ∧ r' < rows ∧ c' < cols ∧
      r' * cols + c' + 1 = r * cols + c := by
  unfold previousCell
  split
  · rename_i first
    split
    · exact .inl rfl
    · rename_i below
      obtain ⟨above, rfl⟩ := Nat.exists_eq_succ_of_ne_zero below
      have positive : 1 ≤ cols := by omega
      rw [sub?_of_le (Nat.succ_pos above), sub?_of_le positive]
      refine .inr ⟨above, cols - 1, rfl, by omega, by omega, ?_⟩
      rw [Nat.succ_mul]
      omega
  · rename_i inner
    rw [sub?_of_le (Nat.pos_of_ne_zero inner)]
    exact .inr ⟨r, c - 1, rfl, row, by omega, by omega⟩

theorem glyphCol_lt (screen : Grid) (r : Nat) (col : c < cols) : ∃ c', glyphCol screen r c = some c' ∧ c' < cols := by
  unfold glyphCol
  split
  · rename_i shadow
    rw [Bool.and_eq_true, decide_eq_true_eq] at shadow
    exact ⟨c - 1, sub?_of_le shadow.1, by omega⟩
  · exact ⟨c, rfl, col⟩

theorem skipBlanksBack_ends (screen : Grid) {fuel : Nat} (row : r < rows) (col : c < cols) (enough : r * cols + c < fuel) :
    ∃ stop, skipBlanksBack screen cols fuel r c = some stop ∧ stop.Inside rows cols := by
  induction fuel generalizing r c with
  | zero => omega
  | succ fuel ih =>
      rw [skipBlanksBack]
      split
      · exact ⟨.at r c, rfl, row, col⟩
      · rcases previousCell_cases row col with edge | ⟨r', c', previous, row', col', position⟩
        · rw [edge]
          exact ⟨.edge, rfl, trivial⟩
        · rw [previous]
          exact ih row' col' (by omega)

theorem skipWordBack_ends (tables : UnicodeTables) (screen : Grid) (r : Nat) (targetWord : Bool) {fuel : Nat} (enough : c < fuel) :
    ∃ c', skipWordBack tables screen targetWord r fuel c = some c' ∧ c' ≤ c := by
  induction fuel generalizing c with
  | zero => omega
  | succ fuel ih =>
      rw [skipWordBack]
      split
      · exact ⟨c, rfl, Nat.le_refl c⟩
      · rename_i inner
        rw [sub?_of_le (Nat.pos_of_ne_zero inner)]
        simp only [Option.bind_eq_bind, Option.bind_some]
        generalize left : (if isContinuation screen r (c - 1) = true then c - 1 - 1 else c - 1) = previousCol
        have lower : previousCol < c := by
          split at left <;> omega
        split
        · exact ⟨c, rfl, Nat.le_refl c⟩
        · obtain ⟨c', ended, bound⟩ := ih (c := previousCol) (by omega)
          exact ⟨c', ended, by omega⟩

namespace CopyModeState

/-- The cursor and the anchor are on a screen of this size. -/
structure Inside (state : CopyModeState) (rows cols : Nat) : Prop where
  row : state.cursorRow < rows
  col : state.cursorCol < cols
  anchor : match state.phase with
    | .visualChar anchorRow anchorCol => anchorRow < rows ∧ anchorCol < cols
    | .visualLine anchorRow => anchorRow < rows
    | _ => True

variable {state : CopyModeState}

/-- What a motion leaves alone. -/
def Moved (state next : CopyModeState) : Prop :=
  ∃ cursorRow cursorCol, next = { state with cursorRow, cursorCol } ∧ cursorRow < state.paneRows ∧ cursorCol < state.paneCols

theorem moved_to {cursorRow cursorCol : Nat} (row : cursorRow < state.paneRows) (col : cursorCol < state.paneCols) :
    Moved state { state with cursorRow, cursorCol } := ⟨cursorRow, cursorCol, rfl, row, col⟩

theorem Inside.stays (inside : state.Inside state.paneRows state.paneCols) : Moved state state :=
  ⟨state.cursorRow, state.cursorCol, rfl, inside.row, inside.col⟩

theorem moveWordForward_moved (tables : UnicodeTables) (screen : Grid) (inside : state.Inside state.paneRows state.paneCols) :
    ∃ next, moveWordForward tables screen state = some next ∧ Moved state next := by
  unfold moveWordForward
  rw [if_neg (by have := inside.row; have := inside.col; omega)]
  obtain ⟨stop, skipped, within⟩ := skipWordClass_ends tables screen
    (isWordChar tables (cellChar screen state.cursorRow state.cursorCol)) inside.row inside.col (Nat.le_add_right _ _)
  simp only [skipped, Option.bind_eq_bind, Option.bind_some]
  cases stop with
  | edge => exact ⟨state, rfl, inside.stays⟩
  | «at» r c =>
      obtain ⟨stop, ended, inner⟩ := skipBlanks_ends screen within.1 within.2 (Nat.le_add_right _ _)
      simp only [ended, Option.bind_some]
      cases stop with
      | edge => exact ⟨state, rfl, inside.stays⟩
      | «at» r c => exact ⟨_, rfl, moved_to inner.1 inner.2⟩

theorem moveWordBackward_moved (tables : UnicodeTables) (screen : Grid) (inside : state.Inside state.paneRows state.paneCols) :
    ∃ next, moveWordBackward tables screen state = some next ∧ Moved state next := by
  have row := inside.row
  have col := inside.col
  unfold moveWordBackward
  rw [if_neg (by omega)]
  rcases previousCell_cases row col with edge | ⟨r, c, previous, row', col', _⟩
  · rw [edge]
    exact ⟨state, rfl, inside.stays⟩
  · obtain ⟨c', start, col'⟩ := glyphCol_lt screen r col'
    obtain ⟨stop, skipped, within⟩ := skipBlanksBack_ends screen row' col' (position_lt row' col')
    simp only [previous, Option.bind_eq_bind, Option.bind_some]
    simp only [start, Option.bind_some, skipped]
    cases stop with
    | edge => exact ⟨_, rfl, moved_to (by omega) (by omega)⟩
    | «at» r c =>
        obtain ⟨c', ended, left⟩ := skipWordBack_ends tables screen r
          (isWordChar tables (cellChar screen r c)) within.2
        have inner : c < state.paneCols := within.2
        simp only [ended, Option.bind_some]
        exact ⟨_, rfl, moved_to within.1 (by omega)⟩

theorem lineEnd_lt (positive : 0 < state.paneCols) : state.lineEnd screen < state.paneCols := by
  have bound (columns : List Nat) (inner : ∀ c ∈ columns, c < state.paneCols) (last : Nat) (start : last < state.paneCols) :
      columns.foldl (fun last c => if cellChar screen state.cursorRow c ≠ ' ' then c else last) last < state.paneCols := by
    induction columns generalizing last with
    | nil => exact start
    | cons c columns ih =>
        rw [List.foldl_cons]
        refine ih (fun d member => inner d (List.mem_cons_of_mem _ member)) _ ?_
        split
        · exact inner c List.mem_cons_self
        · exact start
  exact bound _ (fun c member => List.mem_range.mp member) 0 positive

theorem firstNonBlank_lt (positive : 0 < state.paneCols) : state.firstNonBlank screen < state.paneCols := by
  unfold firstNonBlank
  cases found : (List.range state.paneCols).find? fun c => cellChar screen state.cursorRow c ≠ ' ' with
  | none => exact positive
  | some c => exact List.mem_range.mp (List.mem_of_find?_eq_some found)

end CopyModeState

end Ezpn
