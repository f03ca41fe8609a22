import Ezpn.Screen.Printing
import Ezpn.Lib.Checked
import Mathlib.Data.List.InsertIdx

/-!
# Cells and rows of the bundled parser

`vt100/attrs.rs`, `vt100/cell.rs` and the changes of `vt100/row.rs`. A row that
readers see is the row here without its attributes. `none` is a panic.

Every change of a row keeps the continuations right of the wide cells, also where
a row is cut inside of a pair. So the parser finds the other half where it looks.
-/

set_option autoImplicit false

namespace Ezpn.Emulator

inductive Color where
  | default
  | idx (i : Nat)
  | rgb (r g b : Nat)
  deriving DecidableEq, Repr

/-- `TEXT_MODE_INTENSITY`. -/
inductive Intensity where
  | normal | bold | dim
  deriving DecidableEq, Repr

/-- The bits of `mode` are fields. -/
structure Attrs where
  fgcolor : Color := .default
  bgcolor : Color := .default
  intensity : Intensity := .normal
  italic : Bool := false
  underline : Bool := false
  inverse : Bool := false
  deriving DecidableEq, Repr

/-- Columns that `unicode-width` gives each character; a control has none. -/
abbrev Width := Char → Option Nat

def Width.columns (width : Width) (c : Char) : Nat := (width c).getD 1

/-- What the parser's safety rests on: a space takes one column, and control characters are known as such. -/
structure Width.Lawful (width : Width) : Prop where
  blank : width ' ' = some 1
  newline : width '\n' = none

theorem Width.Lawful.columns_blank {width : Width} (lawful : width.Lawful) : width.columns ' ' ≤ 1 := by
  simp [Width.columns, lawful.blank]

/-- Combining marks are of zero width, CJK ideographs are wide, and control characters have no width. -/
def plainWidth : Width := fun c =>
  if c.toNat < 0x20 then none
  else some (if 0x300 ≤ c.toNat ∧ c.toNat ≤ 0x36F then 0 else if 0x4E00 ≤ c.toNat ∧ c.toNat ≤ 0x9FFF then 2 else 1)

theorem plainWidth_lawful : plainWidth.Lawful := ⟨rfl, rfl⟩

structure Cell extends Ezpn.Cell where
  attrs : Attrs := {}
  deriving DecidableEq, Repr

namespace Cell

def set (width : Width) (c : Char) (attrs : Attrs) : Cell := { Ezpn.Cell.set width.columns c with attrs }

def append (c : Char) (cell : Cell) : Cell := { cell.toCell.append c with attrs := cell.attrs }

def clear (attrs : Attrs) : Cell := { attrs }

@[simp] theorem toCell_clear (attrs : Attrs) : (clear attrs).toCell = {} := rfl

@[simp] theorem toCell_set (width : Width) (c : Char) (attrs : Attrs) :
    (set width c attrs).toCell = .set width.columns c := rfl

@[simp] theorem toCell_append (c : Char) (cell : Cell) : (cell.append c).toCell = cell.toCell.append c := rfl

end Cell

structure Row where
  cells : List Cell
  wrapped : Bool := false
  deriving DecidableEq, Repr

namespace Row

def new (cols : Nat) : Row := { cells := List.replicate cols {} }

def clear (attrs : Attrs) (row : Row) : Row := { cells := row.cells.map fun _ => .clear attrs, wrapped := false }

def wrap (wrap : Bool) (row : Row) : Row := { row with wrapped := wrap }

/-- `get_mut` and what is done to the cell there. -/
def update (col : Nat) (f : Cell → Cell) (row : Row) : Option Row :=
  (Checked.update col (fun cell => some (f cell)) row.cells).map fun cells => { row with cells }

def insert (i : Nat) (cell : Cell) (row : Row) : Option Row :=
  (Checked.insert i cell row.cells).map fun cells => { cells, wrapped := false }

/-- The other half of a wide character is cleared, where there is one. -/
def clearWide (col : Nat) (row : Row) : Row :=
  match row.cells[col]? with
  | none => row
  | some cell =>
      if cell.wide then { row with cells := row.cells.modify (col + 1) fun other => .clear other.attrs }
      else if cell.wideContinuation ∧ 0 < col then
        { row with cells := row.cells.modify (col - 1) fun other => .clear other.attrs }
      else row

def remove (i : Nat) (row : Row) : Option Row :=
  (Checked.remove i (row.clearWide i).cells).map fun cells => { cells, wrapped := false }

def erase (i : Nat) (attrs : Attrs) (row : Row) : Option Row := do
  let cell ← row.cells[i]?
  let row ← (row.clearWide i).update i fun _ => .clear attrs
  return if i = row.cells.length - (if cell.wide then 2 else 1) then row.wrap false else row

/-- Half of a wide character at the new end is cleared. -/
def truncate (len : Nat) (row : Row) : Row :=
  let cells := row.cells.take len
  match cells.getLast? with
  | some last =>
      if last.wide then { cells := cells.dropLast ++ [.clear last.attrs], wrapped := false }
      else { cells, wrapped := false }
  | none => { cells, wrapped := false }

def resize (len : Nat) (cell : Cell) (row : Row) : Row :=
  if len < row.cells.length then row.truncate len
  else { cells := row.cells ++ List.replicate (len - row.cells.length) cell, wrapped := false }

def setContinuation (wide : Bool) (col : Nat) (row : Row) : Option Row :=
  row.update col fun cell => { cell with wideContinuation := wide }

/-- One round of `insert_cells`, at a column that shows the second half of a wide character or not. -/
def insertCell (wide : Bool) (col : Nat) (row : Row) : Option Row := do
  let row ← (if wide then row.setContinuation false col else some row)
  let row ← row.insert col {}
  if wide then row.setContinuation true col else some row

/-! ### The row of `text`, for a character that takes columns -/

/-- The first half of a wide character goes, when its second half is drawn over. -/
def clearBefore (attrs : Attrs) (col : Nat) (row : Row) : Option Row := do
  let cell ← row.cells[col]?
  if cell.wideContinuation then do
    let left ← Checked.sub col 1
    row.update left fun _ => .clear attrs
  else some row

/-- The second half of a wide character becomes a space, when its first half is drawn over. -/
def blankAfter (width : Width) (attrs : Attrs) (col : Nat) (row : Row) : Option Row := do
  let cell ← row.cells[col]?
  if cell.wide then row.update (col + 1) fun _ => .set width ' ' attrs else some row

/-- The column right of a wide character becomes its second half. -/
def continueWide (attrs : Attrs) (cols col : Nat) (row : Row) : Option Row := do
  let next ← row.cells[col]?
  let row ←
    (if next.wide then
      (row.update (col + 1) fun _ => .clear attrs).map fun row => if col + 1 = cols - 1 then row.wrap false else row
    else some row)
  row.update col fun _ => { Cell.clear {} with wideContinuation := true }

def place (width : Width) (c : Char) (attrs : Attrs) (cols col : Nat) (row : Row) : Option Row := do
  let row ← row.clearBefore attrs col
  let row ← row.blankAfter width attrs col
  let row ← row.update col fun _ => .set width c attrs
  if width.columns c > 1 then row.continueWide attrs cols (col + 1) else some row

end Row

/-! ## Wide characters stay in pairs -/

open Checked (Ensures)

namespace Row

/-- The row without its attributes. -/
def plain (row : Row) : Ezpn.Row := { cells := row.cells.map Cell.toCell, wrapped := row.wrapped }

@[simp] theorem length_plain (row : Row) : row.plain.cells.length = row.cells.length := List.length_map _

theorem get_plain (row : Row) (col : Nat) : row.plain.get col = (row.cells[col]?.map Cell.toCell).getD {} := by
  simp [Ezpn.Row.get, plain]

theorem get_plain_of_some {row : Row} {col : Nat} {cell : Cell} (shown : row.cells[col]? = some cell) :
    row.plain.get col = cell.toCell := by
  simp [get_plain, shown]

/-- Two rows of the same cells are paired alike. -/
theorem paired_congr {row other : Ezpn.Row} (same : ∀ col, row.get col = other.get col) (paired : other.Paired) :
    row.Paired where
  cells col := same col ▸ paired.cells col
  first := same 0 ▸ paired.first
  next col := by rw [same, same, paired.next]

@[simp] theorem wrap_cells (wrapped : Bool) (row : Row) : (row.wrap wrapped).cells = row.cells := rfl

theorem wrap_paired {row : Row} (paired : row.plain.Paired) (wrapped : Bool) : (row.wrap wrapped).plain.Paired :=
  @paired_congr (row.wrap wrapped).plain row.plain (fun _ => rfl) paired

@[simp] theorem length_new (cols : Nat) : (new cols).cells.length = cols := List.length_replicate

theorem new_paired (cols : Nat) : (new cols).plain.Paired := by
  have blank : (new cols).plain = LiveGrid.newRow cols := by simp [new, plain, LiveGrid.newRow]
  rw [blank]
  exact LiveGrid.newRow_paired cols

@[simp] theorem length_clear (attrs : Attrs) (row : Row) : (row.clear attrs).cells.length = row.cells.length :=
  List.length_map _

theorem clear_paired (attrs : Attrs) (row : Row) : (row.clear attrs).plain.Paired := by
  have blank : (row.clear attrs).plain = (new row.cells.length).plain := by
    simp [clear, plain, new]
  rw [blank]
  exact new_paired _

/-! ## One cell -/

/-- A change of one cell, as readers see it. -/
theorem ensures_update {row : Row} {col : Nat} {f : Cell → Cell} {g : Ezpn.Cell → Ezpn.Cell}
    (inside : col < row.cells.length) (alike : ∀ cell, (f cell).toCell = g cell.toCell) :
    Ensures (row.update col f) fun next =>
      next.plain = row.plain.modifyCell col g ∧ next.cells.length = row.cells.length := by
  refine .map (P := fun cells => cells = row.cells.set col (f row.cells[col])) ?_ ?_
  · exact Checked.ensures_update inside (.some rfl)
  · rintro cells rfl
    refine ⟨?_, List.length_set⟩
    have same : (row.cells.set col (f row.cells[col])).map Cell.toCell = (row.cells.map Cell.toCell).modify col g := by
      rw [List.map_set, alike, List.modify_eq_set_getElem?]
      simp [inside]
    simp only [plain, Ezpn.Row.modifyCell, same]

theorem get_modify (row : Row) (col : Nat) (f : Cell → Cell) (g : Ezpn.Cell → Ezpn.Cell)
    (alike : ∀ cell, (f cell).toCell = g cell.toCell) :
    ({ row with cells := row.cells.modify col f } : Row).plain = row.plain.modifyCell col g := by
  have same : (row.cells.modify col f).map Cell.toCell = (row.cells.map Cell.toCell).modify col g := by
    apply List.ext_getElem?
    intro i
    simp only [List.getElem?_map, List.getElem?_modify]
    cases row.cells[i]? with
    | none => simp
    | some cell => by_cases here : col = i <;> simp [here, alike]
  simp only [plain, Ezpn.Row.modifyCell, same]

@[simp] theorem length_clearWide (col : Nat) (row : Row) : (row.clearWide col).cells.length = row.cells.length := by
  unfold clearWide
  split
  · rfl
  · split_ifs <;> simp

/-- Only the other half of a pair changes. -/
theorem get_clearWide {row : Row} (paired : row.plain.Paired) {col : Nat} (inside : col < row.cells.length)
    (other : Nat) :
    (row.clearWide col).plain.get other =
      if other = col + 1 ∧ (row.plain.get col).wide then {}
      else if other + 1 = col ∧ (row.plain.get col).wideContinuation then {}
      else row.plain.get other := by
  have shown := List.getElem?_eq_getElem inside
  have here := get_plain_of_some shown
  have own := @Ezpn.Row.Paired.own row.plain paired col
  have first := paired.first
  unfold clearWide
  rw [shown]
  dsimp only
  cases wide : row.cells[col].wide with
  | true =>
      have room := paired.room (show (row.plain.get col).wide = true by rw [here, wide])
      rw [if_pos rfl, get_modify _ _ _ (fun _ => {}) fun _ => rfl, Ezpn.Row.get_modifyCell]
      grind
  | false =>
      cases shadow : row.cells[col].wideContinuation with
      | false => grind
      | true =>
          have positive : 0 < col := by
            rcases Nat.eq_zero_or_pos col with rfl | positive
            · rw [here, shadow] at first
              exact absurd first (by decide)
            · exact positive
          rw [if_neg (by decide), if_pos ⟨rfl, positive⟩, get_modify _ _ _ (fun _ => {}) fun _ => rfl,
            Ezpn.Row.get_modifyCell, length_plain]
          grind

/-! ## Changes of a whole row -/

theorem ensures_erase {row : Row} (paired : row.plain.Paired) {i : Nat} (inside : i < row.cells.length) (attrs : Attrs) :
    Ensures (row.erase i attrs) fun next => next.plain.Paired ∧ next.cells.length = row.cells.length := by
  unfold erase
  rw [List.getElem?_eq_getElem inside]
  refine .bind (.some rfl) fun cell found => ?_
  subst found
  refine .bind (ensures_update (g := fun _ => {}) (by simpa using inside) fun _ => rfl) ?_
  rintro next ⟨view, length⟩
  have kept : next.plain.Paired := by
    have cell := get_clearWide paired inside
    have shown (other : Nat) : next.plain.get other = if other = i then {} else (row.clearWide i).plain.get other := by
      rw [view, Ezpn.Row.get_modifyCell, length_plain, length_clearWide]
      grind
    have formed := paired.cells
    have first := paired.first
    have pairs := paired.next
    have own := fun col => @Ezpn.Row.Paired.own row.plain paired col
    refine ⟨fun other => ?_, ?_, fun other => ?_⟩
    · rw [shown, cell]
      split_ifs
      · exact ⟨by simp, by simp, by simp⟩
      · exact ⟨by simp, by simp, by simp⟩
      · exact ⟨by simp, by simp, by simp⟩
      · exact formed other
    · rw [shown, cell]
      grind
    · rw [shown, shown, cell, cell]
      have := pairs other
      have := pairs (other + 1)
      grind
  refine .pure ?_
  rw [length_clearWide] at length
  by_cases last : i = next.cells.length - (if row.cells[i].wide then 2 else 1)
  · rw [if_pos last]
    exact ⟨wrap_paired kept false, length⟩
  · rw [if_neg last]
    exact ⟨kept, length⟩

/-- A blank cell is inserted left of a cell. -/
theorem ensures_insert {row : Row} {i : Nat} (inside : i ≤ row.cells.length) :
    Ensures (row.insert i {}) fun next => next.cells.length = row.cells.length + 1 ∧ ∀ other,
      next.plain.get other =
        if other < i then row.plain.get other else if other = i then {} else row.plain.get (other - 1) := by
  refine .map (P := fun cells => cells = row.cells.insertIdx i {}) (Checked.ensures_insert inside rfl) ?_
  rintro cells rfl
  refine ⟨List.length_insertIdx_of_le_length inside _, fun other => ?_⟩
  simp only [get_plain, List.getElem?_insertIdx]
  split_ifs <;> simp

theorem ensures_remove {row : Row} (paired : row.plain.Paired) {i : Nat} (inside : i < row.cells.length) :
    Ensures (row.remove i) fun next => next.plain.Paired ∧ next.cells.length + 1 = row.cells.length := by
  refine .map (P := fun cells => cells = (row.clearWide i).cells.eraseIdx i)
    (Checked.ensures_remove (by simpa using inside) rfl) ?_
  rintro cells rfl
  refine ⟨?_, by rw [List.length_eraseIdx_of_lt (by simpa using inside), length_clearWide]; omega⟩
  have cell := get_clearWide paired inside
  have shown (other : Nat) : (plain { cells := (row.clearWide i).cells.eraseIdx i, wrapped := false }).get other =
      if other < i then (row.clearWide i).plain.get other else (row.clearWide i).plain.get (other + 1) := by
    simp only [get_plain, List.getElem?_eraseIdx]
    split_ifs <;> rfl
  have formed := paired.cells
  have first := paired.first
  have pairs := paired.next
  refine ⟨fun other => ?_, ?_, fun other => ?_⟩
  · rw [shown, cell, cell]
    split_ifs
    all_goals first | exact formed _ | exact ⟨by simp, by simp, by simp⟩
  · rw [shown, cell, cell]
    have := pairs 0
    split_ifs <;> grind
  · rw [shown, shown, cell, cell, cell]
    have here := pairs other
    have next := pairs (other + 1)
    have alone := @Ezpn.Row.Paired.own row.plain paired (other + 1)
    split_ifs <;> grind

theorem truncate_paired {row : Row} (paired : row.plain.Paired) {len : Nat} (inside : len ≤ row.cells.length) :
    (row.truncate len).plain.Paired ∧ (row.truncate len).cells.length = len := by
  cases len with
  | zero => exact ⟨by simpa [truncate, new] using new_paired 0, by simp [truncate]⟩
  | succ last =>
      have present : last < row.cells.length := by omega
      have ends : (row.cells.take (last + 1)).getLast? = some row.cells[last] := by
        simp [List.getLast?_eq_getElem?, Nat.min_eq_left inside]
      have here := get_plain_of_some (List.getElem?_eq_getElem present)
      have shorter : (row.cells.take (last + 1)).dropLast = row.cells.take last := by
        rw [List.dropLast_eq_take, List.take_take]
        simp [Nat.min_eq_left inside]
      have length : (row.truncate (last + 1)).cells.length = last + 1 := by
        unfold truncate
        dsimp only
        rw [ends, shorter]
        dsimp only
        split_ifs
        · simp [Nat.le_of_lt present]
        · simp [Nat.min_eq_left inside]
      have shown (other : Nat) : (row.truncate (last + 1)).plain.get other =
          if last < other then {} else if other = last ∧ (row.plain.get last).wide then {} else row.plain.get other := by
        have kept := Nat.min_eq_left (Nat.le_of_lt present)
        unfold truncate
        dsimp only
        rw [ends, shorter, here]
        dsimp only
        cases row.cells[last].wide with
        | true =>
            simp only [if_true, and_true, get_plain, List.getElem?_append, List.length_take, kept, List.getElem?_take]
            rcases Nat.lt_trichotomy other last with before | rfl | after
            · simp [before, show ¬ last < other by omega, show other ≠ last by omega]
            · simp
            · simp [after, show ¬ other < last by omega, List.getElem?_eq_none (show [Cell.clear _].length ≤ other - last by simp; omega)]
        | false =>
            simp only [Bool.false_eq_true, if_false, and_false, get_plain, List.getElem?_take]
            by_cases after : last < other
            · simp [after, show ¬ other < last + 1 by omega]
            · simp [after, show other < last + 1 by omega]
      have formed := paired.cells
      have first := paired.first
      have pairs := paired.next
      have own := fun col => @Ezpn.Row.Paired.own row.plain paired col
      refine ⟨⟨fun other => ?_, ?_, fun other => ?_⟩, length⟩
      · rw [shown]
        split_ifs
        all_goals first | exact formed _ | exact ⟨by simp, by simp, by simp⟩
      · rw [shown]
        grind
      · rw [shown, shown]
        have := pairs other
        grind

theorem resize_paired {row : Row} (paired : row.plain.Paired) (len : Nat) :
    (row.resize len {}).plain.Paired ∧ (row.resize len {}).cells.length = len := by
  unfold resize
  split
  · rename_i shorter
    exact truncate_paired paired (Nat.le_of_lt shorter)
  · rename_i longer
    refine ⟨paired_congr (fun col => ?_) paired, by simp; omega⟩
    simp only [get_plain, List.getElem?_append, List.getElem?_replicate]
    by_cases inside : col < row.cells.length
    · simp [inside]
    · simp only [inside, if_false, List.getElem?_eq_none (Nat.le_of_not_lt inside)]
      split_ifs <;> rfl

/-- A pair is not torn: the blank takes the place of the continuation that it is inserted at. -/
theorem ensures_insertCell {row : Row} (paired : row.plain.Paired) {col : Nat} (inside : col ≤ row.cells.length)
    {wide : Bool} (here : (row.plain.get col).wideContinuation = wide) :
    Ensures (row.insertCell wide col) fun next => next.plain.Paired ∧ next.cells.length = row.cells.length + 1 ∧
      (next.plain.get col).wideContinuation = wide := by
  have formed := paired.cells
  have first := paired.first
  have pairs := paired.next
  cases wide with
  | false =>
      refine .bind (x := some row) (P := fun next => next = row) (.some rfl) ?_
      rintro next rfl
      refine .bind (ensures_insert inside) ?_
      rintro next ⟨length, shown⟩
      refine .some ?_
      refine ⟨⟨fun other => ?_, ?_, fun other => ?_⟩, length, by simp [shown]⟩
      · rw [shown]
        split_ifs
        all_goals first | exact formed _ | exact ⟨by simp, by simp, by simp⟩
      · rw [shown]
        grind
      · rw [shown, shown]
        have := pairs other
        have := pairs (other - 1)
        grind
  | true =>
      have within : col < row.cells.length := by
        by_contra outside
        rw [Ezpn.Row.get_outside (by simpa using outside)] at here
        exact absurd here (by decide)
      have empty := (formed col).shadow here
      have own := fun other => @Ezpn.Row.Paired.own row.plain paired other
      refine .bind (ensures_update (g := fun cell => { cell with wideContinuation := false }) within fun _ => rfl) ?_
      rintro opened ⟨view, length⟩
      refine .bind (ensures_insert (by omega)) ?_
      rintro longer ⟨length', shown⟩
      refine .mono (ensures_update (g := fun cell => { cell with wideContinuation := true }) (by omega) fun _ => rfl) ?_
      rintro last ⟨view', length''⟩
      have blank : opened.plain.get col = {} := by
        rw [view, Ezpn.Row.get_modifyCell, if_pos ⟨rfl, by simpa using within⟩]
        simp [empty]
      have final (other : Nat) : last.plain.get other =
          if other < col then row.plain.get other else if other = col then { wideContinuation := true }
          else if other = col + 1 then {} else row.plain.get (other - 1) := by
        have apart (k : Nat) (away : k ≠ col) : opened.plain.get k = row.plain.get k := by
          rw [view, Ezpn.Row.get_modifyCell, if_neg fun both => away both.1.symm]
        rw [view', Ezpn.Row.get_modifyCell, shown, shown, length_plain, length', length]
        have before := apart other
        have after := apart (other - 1)
        grind
      refine ⟨⟨fun other => ?_, ?_, fun other => ?_⟩, by omega, by simp [final]⟩
      · rw [final]
        split_ifs
        all_goals first | exact formed _ | exact ⟨by simp, by simp, by simp⟩
      · rw [final]
        grind
      · rw [final, final]
        have pair := pairs other
        have pair' := pairs (other - 1)
        have alone := own other
        grind

/-! ## Drawing a character -/

/-- What is at a column of the row, as readers see it. -/
theorem ensures_cell {row : Row} {col : Nat} (inside : col < row.cells.length) :
    Ensures row.cells[col]? fun cell => cell.toCell = row.plain.get col :=
  ⟨row.cells[col], List.getElem?_eq_getElem inside, (get_plain_of_some (List.getElem?_eq_getElem inside)).symm⟩

theorem ensures_clearBefore {row : Row} (paired : row.plain.Paired) {col : Nat} (inside : col < row.cells.length)
    (attrs : Attrs) :
    Ensures (row.clearBefore attrs col) fun next =>
      next.plain = (if (row.plain.get col).wideContinuation then row.plain.modifyCell (col - 1) (fun _ => {})
        else row.plain) ∧ next.cells.length = row.cells.length := by
  refine (ensures_cell inside).bind fun cell here => ?_
  rw [← here]
  cases shadow : cell.wideContinuation with
  | false => exact .some ⟨rfl, rfl⟩
  | true =>
      have positive : 1 ≤ col := by
        rcases Nat.eq_zero_or_pos col with rfl | positive
        · exact absurd paired.first (by simp [← here, shadow])
        · exact positive
      rw [if_pos rfl, Checked.sub_of_le positive]
      exact ensures_update (show col - 1 < row.cells.length by omega) fun _ => rfl

theorem ensures_blankAfter {width : Width} {row : Row} {col : Nat} (inside : col < row.cells.length)
    (room : (row.plain.get col).wide = true → col + 1 < row.cells.length) (attrs : Attrs) :
    Ensures (row.blankAfter width attrs col) fun next =>
      next.plain = (if (row.plain.get col).wide then row.plain.modifyCell (col + 1) (fun _ => .set width.columns ' ')
        else row.plain) ∧ next.cells.length = row.cells.length := by
  refine (ensures_cell inside).bind fun cell here => ?_
  rw [← here] at room ⊢
  cases wide : cell.wide with
  | false => exact .some ⟨rfl, rfl⟩
  | true => exact ensures_update (room wide) fun _ => rfl

theorem ensures_continueWide {row : Row} {col : Nat} (inside : col < row.cells.length)
    (room : (row.plain.get col).wide = true → col + 1 < row.cells.length) (attrs : Attrs) (cols : Nat) :
    Ensures (row.continueWide attrs cols col) fun next =>
      next.plain = row.plain.continueWide (cols - 1) col ∧ next.cells.length = row.cells.length := by
  refine (ensures_cell inside).bind fun cell here => ?_
  unfold Ezpn.Row.continueWide
  rw [← here] at room ⊢
  cases wide : cell.wide with
  | false => exact @ensures_update row col _ (fun _ => { wideContinuation := true }) inside fun _ => rfl
  | true =>
      refine .bind (.map (ensures_update (g := fun _ => {}) (room wide) fun _ => rfl) fun next made => ?_)
        (P := fun (next : Row) => next.cells.length = row.cells.length ∧ next.plain =
          if col + 1 = cols - 1 then { row.plain.modifyCell (col + 1) (fun _ => {}) with wrapped := false }
          else row.plain.modifyCell (col + 1) fun _ => {}) fun next made => ?_
      · rw [← made.1, ← made.2]
        split_ifs <;> exact ⟨rfl, rfl⟩
      · refine (ensures_update (g := fun _ => { wideContinuation := true }) (by omega) fun _ => rfl).mono ?_
        rintro last ⟨view, length⟩
        exact ⟨by rw [view, made.2]; rfl, by omega⟩

theorem wide_after {width : Char → Nat} {row : Ezpn.Row} (paired : row.Paired) (blank : width ' ' ≤ 1) (c : Char)
    (col : Nat) :
    (((row.vacate width col).modifyCell col fun _ => .set width c).get (col + 1)).wide = true →
      (row.get (col + 1)).wide = true := by
  rw [Ezpn.Row.get_modifyCell, if_neg (by omega), Ezpn.Row.get_vacate paired]
  split_ifs
  · intro wide
    simp only [Ezpn.Cell.set, decide_eq_true_eq] at wide
    omega
  · intro wide
    exact absurd wide (by decide)
  · exact id

/-- With its attributes left out, a drawn character changes its row as in the model without attributes. -/
theorem ensures_place {width : Width} {row : Row} (paired : row.plain.Paired) {c : Char} {attrs : Attrs}
    {cols col : Nat} (inside : col + (if width.columns c > 1 then 2 else 1) ≤ row.cells.length)
    (blank : width.columns ' ' ≤ 1) :
    Ensures (row.place width c attrs cols col) fun next =>
      next.plain = row.plain.place width.columns c (cols - 1) col ∧ next.cells.length = row.cells.length := by
  have present : col < row.cells.length := by split at inside <;> omega
  refine (ensures_clearBefore paired present attrs).bind ?_
  rintro first ⟨view, length⟩
  have here : first.plain.get col = row.plain.get col := by
    rw [view]
    split
    · rename_i shadow
      have positive : 0 < col := by
        rcases Nat.eq_zero_or_pos col with rfl | positive
        · exact absurd paired.first (by simp [shadow])
        · exact positive
      rw [Ezpn.Row.get_modifyCell, if_neg (by omega)]
    · rfl
  refine (@ensures_blankAfter width first col (by omega) (fun wide => ?_) attrs).bind ?_
  · rw [length, ← length_plain]
    exact paired.room (here ▸ wide)
  rintro second ⟨view', length'⟩
  have vacated : second.plain = row.plain.vacate width.columns col := by
    rw [view', view]
    rfl
  refine (ensures_update (g := fun _ => .set width.columns c) (show col < second.cells.length by omega)
    fun _ => rfl).bind ?_
  rintro third ⟨view'', length''⟩
  rw [vacated] at view''
  unfold Ezpn.Row.place
  dsimp only
  rw [← view'']
  by_cases broad : width.columns c > 1
  · rw [if_pos broad] at inside
    rw [if_pos broad, if_pos broad]
    refine (ensures_continueWide (by omega) (fun wide => ?_) attrs cols).mono fun last made => ⟨made.1, by omega⟩
    rw [view''] at wide
    have room := paired.room (wide_after paired blank c col wide)
    rw [length_plain] at room
    omega
  · rw [if_neg broad, if_neg broad]
    exact .some ⟨rfl, by omega⟩

end Row

end Ezpn.Emulator
