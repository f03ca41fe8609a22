import Ezpn.Screen

/-!
# Printing text

What the bundled parser does with a printed character, a carriage return and a line
feed, while the scroll region is the whole screen. Attributes are left out, and the
widths of characters are a parameter. The pairs of wide cells and continuations that
readers rely on are kept by every one of these operations.
-/

set_option autoImplicit false

namespace Ezpn

namespace Cell

/-- Bytes of the contents in UTF-8. -/
def len (cell : Cell) : Nat := (cell.contents.map Char.utf8Size).sum

/-- `CONTENT_BYTES`. -/
def contentBytes : Nat := 22

def set (width : Char → Nat) (c : Char) : Cell := { contents := [c], wide := width c > 1 }

/-- Add a zero-width character, while there is room for another one. -/
def append (c : Char) (cell : Cell) : Cell :=
  if cell.len ≥ contentBytes - 4 then cell
  else if cell.len = 0 then { cell with contents := [' ', c] }
  else { cell with contents := cell.contents ++ [c] }

theorem set_formed {width : Char → Nat} {c : Char} (blank : width ' ' ≤ 1) (unbroken : c ≠ '\n') :
    (set width c).Formed where
  unbroken := by simpa [set] using unbroken.symm
  glyph wide := by
    refine ⟨c, [], rfl, ?_⟩
    rintro rfl
    simp only [set, decide_eq_true_eq] at wide
    omega
  shadow shadow := by simp [set] at shadow

@[simp] theorem wide_append (c : Char) (cell : Cell) : (append c cell).wide = cell.wide := by
  unfold append
  split_ifs <;> rfl

@[simp] theorem wideContinuation_append (c : Char) (cell : Cell) :
    (append c cell).wideContinuation = cell.wideContinuation := by
  unfold append
  split_ifs <;> rfl

theorem Formed.append {c : Char} {cell : Cell} (formed : cell.Formed) (unbroken : c ≠ '\n')
    (own : cell.wideContinuation = false) : (append c cell).Formed := by
  refine ⟨?_, fun wide => ?_, fun shadow => by simp [own] at shadow⟩
  · unfold Cell.append
    split_ifs
    · exact formed.unbroken
    · simpa using unbroken.symm
    · simpa [unbroken.symm] using formed.unbroken
  · rw [wide_append] at wide
    obtain ⟨base, marks, contents, drawn⟩ := formed.glyph wide
    have filled : 0 < cell.len := by
      rw [len, contents]
      simp only [List.map_cons, List.sum_cons]
      have := Char.utf8Size_pos base
      omega
    unfold Cell.append
    rw [if_neg (show ¬ cell.len = 0 by omega)]
    split_ifs
    · exact ⟨base, marks, contents, drawn⟩
    · exact ⟨base, marks ++ [c], by simp [contents], drawn⟩

end Cell

namespace Row

/-- `get`, for the columns that the parser asks for: they are on the row. -/
def get (col : Nat) (row : Row) : Cell := row.cells[col]?.getD {}

def modifyCell (col : Nat) (f : Cell → Cell) (row : Row) : Row := { row with cells := row.cells.modify col f }

@[simp] theorem length_modifyCell (col : Nat) (f : Cell → Cell) (row : Row) :
    (row.modifyCell col f).cells.length = row.cells.length := List.length_modify _ _ _

theorem get_modifyCell (col : Nat) (f : Cell → Cell) (row : Row) (other : Nat) :
    (row.modifyCell col f).get other =
      if col = other ∧ col < row.cells.length then f (row.get col) else row.get other := by
  simp only [get, modifyCell, List.getElem?_modify]
  by_cases same : col = other
  · subst same
    by_cases inside : col < row.cells.length
    · simp [inside]
    · simp [inside]
  · simp [same]

theorem get_of_mem {row : Row} {cell : Cell} (member : cell ∈ row.cells) :
    ∃ col, col < row.cells.length ∧ row.get col = cell := by
  obtain ⟨col, inside, rfl⟩ := List.getElem_of_mem member
  exact ⟨col, inside, by simp [get, inside]⟩

/-- The continuations are the cells right of the wide ones. -/
structure Paired (row : Row) : Prop where
  cells : ∀ col, (row.get col).Formed
  first : (row.get 0).wideContinuation = false
  next : ∀ col, (row.get (col + 1)).wideContinuation = (row.get col).wide

theorem Paired.formed {row : Row} (paired : row.Paired) : row.Formed := by
  refine ⟨fun cell member => ?_, fun col cell shown shadow => ?_⟩
  · obtain ⟨col, -, rfl⟩ := get_of_mem member
    exact paired.cells col
  · have here : row.get col = cell := by simp [get, shown]
    cases col with
    | zero => exact absurd paired.first (by simp [here, shadow])
    | succ left =>
        have wide := paired.next left
        rw [here, shadow] at wide
        have inside : left < row.cells.length := by
          have := (List.getElem?_eq_some_iff.mp shown).1
          omega
        exact ⟨left, row.cells[left], rfl, List.getElem?_eq_getElem inside, by simpa [get, inside] using wide.symm⟩

/-- A cell that is wide is no continuation. -/
theorem Paired.own {row : Row} (paired : row.Paired) {col : Nat} (wide : (row.get col).wide = true) :
    (row.get col).wideContinuation = false := by
  cases shadow : (row.get col).wideContinuation with
  | false => rfl
  | true => exact absurd ((paired.cells col).shadow shadow).2 (by simp [wide])

/-- Contents may change where they stand. -/
theorem Paired.modifyCell {row : Row} (paired : row.Paired) {col : Nat} {f : Cell → Cell}
    (wide : ∀ cell, (f cell).wide = cell.wide) (shadow : ∀ cell, (f cell).wideContinuation = cell.wideContinuation)
    (formed : (f (row.get col)).Formed) : (row.modifyCell col f).Paired := by
  have flags (other : Nat) : ((row.modifyCell col f).get other).wide = (row.get other).wide ∧
      ((row.modifyCell col f).get other).wideContinuation = (row.get other).wideContinuation := by
    rw [get_modifyCell]
    split
    · rename_i here
      rw [wide, shadow, here.1]
      exact ⟨rfl, rfl⟩
    · exact ⟨rfl, rfl⟩
  refine ⟨fun other => ?_, ?_, fun other => ?_⟩
  · rw [get_modifyCell]
    split
    · exact formed
    · exact paired.cells other
  · rw [(flags 0).2, paired.first]
  · rw [(flags _).2, (flags _).1, paired.next]

/-- Blank the other half of a wide character that a column belongs to. -/
def vacate (width : Char → Nat) (col : Nat) (row : Row) : Row :=
  let row := if (row.get col).wideContinuation then row.modifyCell (col - 1) (fun _ => {}) else row
  if (row.get col).wide then row.modifyCell (col + 1) (fun _ => .set width ' ') else row

/-- The column right of a wide character becomes its continuation. -/
def continueWide (last col : Nat) (row : Row) : Row :=
  let row :=
    if (row.get col).wide then
      let row := row.modifyCell (col + 1) (fun _ => {})
      if col + 1 = last then { row with wrapped := false } else row
    else row
  row.modifyCell col (fun _ => { wideContinuation := true })

/-- A character that is not of zero width is put on the row. -/
def place (width : Char → Nat) (c : Char) (last col : Nat) (row : Row) : Row :=
  let row := (row.vacate width col).modifyCell col (fun _ => .set width c)
  if width c > 1 then row.continueWide last (col + 1) else row

/-- What is right of a wide cell is on the row. -/
theorem Paired.room {row : Row} (paired : row.Paired) {col : Nat} (wide : (row.get col).wide = true) :
    col + 1 < row.cells.length := by
  have shadow := paired.next col
  rw [wide] at shadow
  by_contra outside
  simp [get, List.getElem?_eq_none (Nat.le_of_not_lt outside)] at shadow

@[simp] theorem length_vacate (width : Char → Nat) (col : Nat) (row : Row) :
    (row.vacate width col).cells.length = row.cells.length := by
  unfold vacate
  dsimp only
  split_ifs <;> simp

@[simp] theorem length_place (width : Char → Nat) (c : Char) (last col : Nat) (row : Row) :
    (row.place width c last col).cells.length = row.cells.length := by
  unfold place continueWide
  dsimp only
  split_ifs <;> simp

theorem get_vacate {width : Char → Nat} {col : Nat} {row : Row} (paired : row.Paired) (other : Nat) :
    (row.vacate width col).get other =
      if other = col + 1 ∧ (row.get col).wide then .set width ' '
      else if other + 1 = col ∧ (row.get col).wideContinuation then {}
      else row.get other := by
  cases shadow : (row.get col).wideContinuation with
  | true =>
      have narrow := ((paired.cells col).shadow shadow).2
      cases col with
      | zero => exact absurd paired.first (by simp [shadow])
      | succ left =>
          have wide : (row.get left).wide = true := (paired.next left).symm.trans shadow
          have inside := paired.room wide
          have kept : ((row.modifyCell left fun _ => {}).get (left + 1)).wide = false := by
            rw [get_modifyCell, if_neg (by omega), narrow]
          have vacated : row.vacate width (left + 1) = row.modifyCell left fun _ => {} := by
            simp [vacate, shadow, kept]
          rw [vacated, get_modifyCell, narrow]
          by_cases here : left = other
          · simp [here, show other < row.cells.length by omega]
          · simp [here, Ne.symm here]
  | false =>
      cases wide : (row.get col).wide with
      | true =>
          have inside := paired.room wide
          have vacated : row.vacate width col = row.modifyCell (col + 1) fun _ => .set width ' ' := by
            simp [vacate, shadow, wide]
          rw [vacated, get_modifyCell]
          by_cases here : col + 1 = other
          · subst here
            simp [inside]
          · simp [here, Ne.symm here]
      | false => simp [vacate, shadow, wide]

theorem get_outside {row : Row} {col : Nat} (outside : row.cells.length ≤ col) : row.get col = {} := by
  simp [get, List.getElem?_eq_none outside]

theorem get_continueWide {last col : Nat} {row : Row} (inside : col < row.cells.length) (other : Nat) :
    (row.continueWide last col).get other =
      if other = col then { wideContinuation := true }
      else if other = col + 1 ∧ (row.get col).wide then {}
      else row.get other := by
  have cleared (row' : Row) (same : row'.cells = (row.modifyCell (col + 1) fun _ => {}).cells) :
      (row'.modifyCell col fun _ => { wideContinuation := true }).get other =
        if other = col then { wideContinuation := true } else if other = col + 1 then {} else row.get other := by
    have get_same (k : Nat) : row'.get k = (row.modifyCell (col + 1) fun _ => {}).get k := by simp only [get, same]
    rw [get_modifyCell, same, length_modifyCell, get_same, get_modifyCell]
    by_cases here : other = col
    · simp [here, inside]
    · by_cases after : other = col + 1
      · subst after
        by_cases kept : col + 1 < row.cells.length
        · simp [kept]
        · simp [kept, get_outside (Nat.le_of_not_lt kept)]
      · simp [here, after, Ne.symm here, Ne.symm after]
  unfold continueWide
  cases wide : (row.get col).wide with
  | true =>
      simp only [if_true, and_true]
      split
      · exact cleared _ rfl
      · exact cleared _ rfl
  | false =>
      simp only [Bool.false_eq_true, if_false, and_false]
      rw [get_modifyCell]
      by_cases here : col = other
      · subst here
        simp [inside]
      · simp [here, Ne.symm here]

/-- What is in each column after a character has been put on the row. -/
theorem get_place {width : Char → Nat} {c : Char} {last col : Nat} {row : Row} (paired : row.Paired)
    (blank : width ' ' ≤ 1)
    (inside : col + (if width c > 1 then 2 else 1) ≤ row.cells.length) (other : Nat) :
    (row.place width c last col).get other =
      if other = col then .set width c
      else if other = col + 1 ∧ width c > 1 then { wideContinuation := true }
      else if other = col + 1 ∧ (row.get col).wide then .set width ' '
      else if other = col + 2 ∧ width c > 1 ∧ (row.get (col + 1)).wide then {}
      else if other + 1 = col ∧ (row.get col).wideContinuation then {}
      else row.get other := by
  have single (other : Nat) : ((row.vacate width col).modifyCell col fun _ => .set width c).get other =
      if other = col then .set width c else (row.vacate width col).get other := by
    rw [get_modifyCell, length_vacate]
    have inside : col < row.cells.length := by split at inside <;> omega
    by_cases here : col = other
    · simp [here, here ▸ inside]
    · simp [here, Ne.symm here]
  unfold place
  by_cases broad : width c > 1
  · have after : (((row.vacate width col).modifyCell col fun _ => .set width c).get (col + 1)).wide =
        (row.get (col + 1)).wide := by
      rw [single, if_neg (by omega), get_vacate paired]
      cases wide : (row.get col).wide with
      | true =>
          have narrow := ((paired.cells _).shadow ((paired.next col).trans wide)).2
          simp [Cell.set, narrow, blank]
      | false => simp [show ¬col + 1 + 1 = col by omega]
    have inside : col + 1 < row.cells.length := by
      rw [if_pos broad] at inside
      omega
    have kept := paired.next col
    have own (wide : (row.get (col + 1)).wide = true) := paired.own wide
    rw [if_pos broad, get_continueWide (by simpa using inside), after, single, get_vacate paired]
    grind
  · simp only [broad, if_false, single, get_vacate paired, and_false, false_and]

theorem Paired.place {width : Char → Nat} {c : Char} {last col : Nat} {row : Row} (paired : row.Paired)
    (blank : width ' ' ≤ 1) (unbroken : c ≠ '\n') (inside : col + (if width c > 1 then 2 else 1) ≤ row.cells.length) :
    (row.place width c last col).Paired := by
  have shown := @get_place width c last col row paired blank inside
  refine ⟨fun other => ?_, ?_, fun other => ?_⟩
  · rw [shown]
    split_ifs
    · exact Cell.set_formed blank unbroken
    · exact ⟨by simp, by simp, by simp⟩
    · exact Cell.set_formed blank (by decide)
    · exact ⟨by simp, by simp, by simp⟩
    · exact ⟨by simp, by simp, by simp⟩
    · exact paired.cells other
  · have first := paired.first
    have next := paired.next 0
    rw [shown]
    grind [Cell.set]
  · have here := paired.next other
    have before (left : Nat) (at_left : other = left + 1) := paired.next left
    have after := paired.next (other + 1)
    have own := fun col wide => @Paired.own row paired col wide
    rw [shown, shown]
    grind [Cell.set]

end Row

/-- The main grid with its cursor. The column after the last one is that of a pending wrap. -/
structure LiveGrid where
  height : Nat
  width : Nat
  rows : List Row
  row : Nat := 0
  col : Nat := 0
  scrollback : List Row := []
  scrollbackLen : Nat
  scrollbackOffset : Nat := 0
  deriving DecidableEq, Repr

namespace LiveGrid

def newRow (width : Nat) : Row := { cells := List.replicate width {} }

/-- `Grid::new`, with its rows allocated. -/
def new (height width scrollbackLen : Nat) : LiveGrid :=
  { height, width, rows := List.replicate height (newRow width), scrollbackLen }

def setScrollback (rows : Nat) (grid : LiveGrid) : LiveGrid :=
  { grid with scrollbackOffset := min rows grid.scrollback.length }

def drawingRow (row : Nat) (grid : LiveGrid) : Row := grid.rows[row]?.getD { cells := [] }

def modifyRow (row : Nat) (f : Row → Row) (grid : LiveGrid) : LiveGrid :=
  { grid with rows := grid.rows.modify row f }

/-- `scroll_up` by one row: the top one goes to the history, if there is one. -/
def scrollUp (grid : LiveGrid) : LiveGrid :=
  match grid.rows ++ [newRow grid.width] with
  | [] => grid
  | removed :: rows =>
      if grid.scrollbackLen = 0 then { grid with rows }
      else
        let scrollback := grid.scrollback ++ [removed]
        let scrollback := scrollback.drop (scrollback.length - grid.scrollbackLen)
        { grid with
          rows
          scrollback
          scrollbackOffset :=
            if grid.scrollbackOffset > 0 then min scrollback.length (grid.scrollbackOffset + 1)
            else grid.scrollbackOffset }

/-- `row_inc_scroll` by one row, with the rows that the screen has scrolled. -/
def rowIncScroll (grid : LiveGrid) : LiveGrid × Nat :=
  if grid.row + 1 > grid.height - 1 then
    ({ grid with row := grid.height - 1 }.scrollUp, grid.row + 1 - (grid.height - 1))
  else ({ grid with row := grid.row + 1 }, 0)

def lf (grid : LiveGrid) : LiveGrid := grid.rowIncScroll.1

def cr (grid : LiveGrid) : LiveGrid := { grid with col := 0 }

/-- Go to the next row, if a character of this width does not fit on the present one. -/
def colWrap (width : Nat) (wrap : Bool) (grid : LiveGrid) : LiveGrid :=
  if grid.col > grid.width - width then
    let marked := { grid.modifyRow grid.row (fun row => { row with wrapped := wrap }) with col := 0 }
    let (next, scrolled) := marked.rowIncScroll
    if scrolled = 0 ∧ next.row = grid.row then next.modifyRow grid.row (fun row => { row with wrapped := false })
    else next
  else grid

/-- Add a zero-width character to the one that ends in a column. -/
def join (c : Char) (row last : Nat) (grid : LiveGrid) : LiveGrid :=
  let col := if ((grid.drawingRow row).get last).wideContinuation then last - 1 else last
  grid.modifyRow row (Row.modifyCell col (Cell.append c))

/-- The character before the cursor may be on a row that has wrapped. -/
def combine (c : Char) (grid : LiveGrid) : LiveGrid :=
  if grid.col > 0 then grid.join c grid.row (grid.col - 1)
  else if grid.row > 0 ∧ (grid.drawingRow (grid.row - 1)).wrapped then grid.join c (grid.row - 1) (grid.width - 1)
  else grid

/-- `Screen::text`, for a character that is no control. -/
def text (width : Char → Nat) (c : Char) (grid : LiveGrid) : LiveGrid :=
  if width c > grid.width then grid
  else
    let last := (grid.drawingRow grid.row).get (grid.width - 1)
    let wrap := grid.col > grid.width - width c && (last.contents ≠ [] || last.wideContinuation || width c > 1)
    let grid := grid.colWrap (width c) wrap
    if width c = 0 then grid.combine c
    else
      { grid.modifyRow grid.row (Row.place width c (grid.width - 1) grid.col) with
        col := grid.col + if width c > 1 then 2 else 1 }

/-- `Perform::print`, for a character that is no control: the replacement character is not drawn. -/
def print (width : Char → Nat) (c : Char) (grid : LiveGrid) : LiveGrid :=
  if c = '\uFFFD' then grid else grid.text width c

/-! ## What printing keeps -/

structure Sound (grid : LiveGrid) : Prop where
  height_pos : 0 < grid.height
  width_pos : 0 < grid.width
  representable : grid.height ≤ u16Max ∧ grid.width ≤ u16Max
  allocated : grid.rows.length = grid.height
  spanned : ∀ row ∈ grid.rows, row.cells.length = grid.width
  paired : ∀ row ∈ grid.scrollback ++ grid.rows, row.Paired
  in_history : grid.scrollbackOffset ≤ grid.scrollback.length
  placed : grid.row < grid.height

theorem newRow_paired (width : Nat) : (newRow width).Paired := by
  have blank (col : Nat) : (newRow width).get col = {} := by
    unfold Row.get newRow
    rcases Nat.lt_or_ge col width with inside | outside
    · simp [inside]
    · simp [outside]
  refine ⟨fun col => ?_, by rw [blank], fun col => by rw [blank, blank]⟩
  rw [blank]
  exact ⟨by simp, by simp, by simp⟩

theorem new_sound {height width scrollbackLen : Nat} (positive : 0 < height ∧ 0 < width)
    (representable : height ≤ u16Max ∧ width ≤ u16Max) : (new height width scrollbackLen).Sound where
  height_pos := positive.1
  width_pos := positive.2
  representable := representable
  allocated := List.length_replicate
  spanned row member := by
    rw [List.eq_of_mem_replicate member]
    exact List.length_replicate
  paired row member := by
    rw [List.eq_of_mem_replicate (show row ∈ List.replicate height (newRow width) from member)]
    exact newRow_paired width
  in_history := Nat.le_refl _
  placed := positive.1

theorem Sound.setScrollback {grid : LiveGrid} (sound : grid.Sound) (rows : Nat) : (grid.setScrollback rows).Sound :=
  { sound with in_history := Nat.min_le_right _ _ }

theorem Sound.move {grid : LiveGrid} (sound : grid.Sound) (row col : Nat) (placed : row < grid.height) :
    Sound { grid with row, col } :=
  { sound with placed }

/-- A row may be replaced by one that is as long and as well paired. -/
theorem Sound.modifyRow {grid : LiveGrid} (sound : grid.Sound) {row : Nat} {f : Row → Row}
    (kept : (grid.drawingRow row).Paired → (grid.drawingRow row).cells.length = grid.width →
      (f (grid.drawingRow row)).Paired ∧ (f (grid.drawingRow row)).cells.length = grid.width) :
    (grid.modifyRow row f).Sound := by
  have changed (other : Row) (member : other ∈ grid.rows.modify row f) :
      other.Paired ∧ other.cells.length = grid.width := by
    obtain ⟨n, shown⟩ := List.mem_iff_getElem?.mp member
    rw [List.getElem?_modify] at shown
    obtain ⟨before, present, rfl⟩ := Option.map_eq_some_iff.mp shown
    have old := List.mem_of_getElem? present
    have paired := sound.paired before (List.mem_append.mpr (.inr old))
    split
    · rename_i here
      have drawn : grid.drawingRow row = before := by simp [drawingRow, here, present]
      rw [drawn] at kept
      exact kept paired (sound.spanned before old)
    · exact ⟨paired, sound.spanned before old⟩
  refine { sound with
    allocated := by simpa [LiveGrid.modifyRow] using sound.allocated
    spanned := fun other member => (changed other member).2
    paired := fun other member => ?_ }
  rcases List.mem_append.mp member with history | live
  · exact sound.paired other (List.mem_append.mpr (.inl history))
  · exact (changed other live).1

theorem Sound.scrollUp {grid : LiveGrid} (sound : grid.Sound) : grid.scrollUp.Sound := by
  have allocated := sound.allocated
  have positive := sound.height_pos
  unfold LiveGrid.scrollUp
  cases live : grid.rows with
  | nil => simp [live] at allocated; omega
  | cons removed rows =>
      have below (row : Row) (member : row ∈ rows ++ [newRow grid.width]) :
          row.Paired ∧ row.cells.length = grid.width := by
        rcases List.mem_append.mp member with kept | fresh
        · exact ⟨sound.paired row (by simp [live, kept]), sound.spanned row (by simp [live, kept])⟩
        · rw [List.mem_singleton.mp fresh]
          exact ⟨newRow_paired _, List.length_replicate⟩
      have count : (rows ++ [newRow grid.width]).length = grid.height := by
        rw [← allocated, live]
        simp
      rw [List.cons_append]
      dsimp only
      split
      · refine { sound with
          allocated := count
          spanned := fun row member => (below row member).2
          paired := fun row member => ?_ }
        rcases List.mem_append.mp member with history | live
        · exact sound.paired row (List.mem_append.mpr (.inl history))
        · exact (below row live).1
      · refine { sound with
          allocated := count
          spanned := fun row member => (below row member).2
          paired := fun row member => ?_
          in_history := ?_ }
        · rcases List.mem_append.mp member with history | live
          · have old := List.mem_of_mem_drop history
            exact sound.paired row (by simp only [live, List.mem_append, List.mem_cons] at old ⊢; tauto)
          · exact (below row live).1
        · dsimp only
          have kept := sound.in_history
          split
          · exact Nat.min_le_left _ _
          · omega

theorem Sound.rowIncScroll {grid : LiveGrid} (sound : grid.Sound) : grid.rowIncScroll.1.Sound := by
  have positive := sound.height_pos
  unfold LiveGrid.rowIncScroll
  split
  · exact (sound.move _ grid.col (by omega)).scrollUp
  · exact sound.move _ grid.col (by omega)

theorem Sound.lf {grid : LiveGrid} (sound : grid.Sound) : grid.lf.Sound := sound.rowIncScroll

theorem Sound.cr {grid : LiveGrid} (sound : grid.Sound) : grid.cr.Sound := sound.move _ 0 sound.placed

theorem Sound.wrapRow {grid : LiveGrid} (sound : grid.Sound) (row : Nat) (wrap : Bool) :
    (grid.modifyRow row fun row => { row with wrapped := wrap }).Sound :=
  sound.modifyRow fun paired length => ⟨⟨paired.cells, paired.first, paired.next⟩, length⟩

theorem Sound.colWrap {grid : LiveGrid} (sound : grid.Sound) (width : Nat) (wrap : Bool) :
    (grid.colWrap width wrap).Sound := by
  have marked := (sound.wrapRow grid.row wrap).move grid.row 0 sound.placed
  unfold LiveGrid.colWrap
  dsimp only
  split_ifs
  · exact marked.rowIncScroll.wrapRow _ _
  · exact marked.rowIncScroll
  · exact sound

theorem scrollUp_size (grid : LiveGrid) : grid.scrollUp.height = grid.height ∧ grid.scrollUp.width = grid.width := by
  unfold scrollUp
  split
  · exact ⟨rfl, rfl⟩
  · split <;> exact ⟨rfl, rfl⟩

theorem scrollUp_col (grid : LiveGrid) : grid.scrollUp.col = grid.col := by
  unfold scrollUp
  split
  · rfl
  · split <;> rfl

theorem rowIncScroll_width (grid : LiveGrid) :
    grid.rowIncScroll.1.width = grid.width ∧ grid.rowIncScroll.1.col = grid.col := by
  unfold rowIncScroll
  split
  · exact ⟨(scrollUp_size _).2, scrollUp_col _⟩
  · exact ⟨rfl, rfl⟩

/-- After a possible wrap the character fits. -/
theorem colWrap_fits {width : Nat} {wrap : Bool} {grid : LiveGrid} (narrow : width ≤ grid.width) :
    (grid.colWrap width wrap).width = grid.width ∧ (grid.colWrap width wrap).col + width ≤ grid.width := by
  have moved := rowIncScroll_width { grid.modifyRow grid.row (fun row => { row with wrapped := wrap }) with col := 0 }
  unfold colWrap
  dsimp only at moved ⊢
  split_ifs
  · refine ⟨moved.1, ?_⟩
    simp only [modifyRow] at moved ⊢
    omega
  · exact ⟨moved.1, by rw [moved.2]; omega⟩
  · exact ⟨rfl, by omega⟩

theorem Sound.join {grid : LiveGrid} (sound : grid.Sound) {c : Char} (unbroken : c ≠ '\n') (row last : Nat) :
    (grid.join c row last).Sound := by
  refine sound.modifyRow fun paired length => ⟨?_, by rw [Row.length_modifyCell, length]⟩
  refine paired.modifyCell (fun _ => Cell.wide_append c _) (fun _ => Cell.wideContinuation_append c _) ?_
  refine (paired.cells _).append unbroken ?_
  cases shadow : ((grid.drawingRow row).get last).wideContinuation with
  | false => simpa using shadow
  | true =>
      cases last with
      | zero => exact absurd paired.first (by simp [shadow])
      | succ left => exact paired.own ((paired.next left).symm.trans shadow)

theorem Sound.combine {grid : LiveGrid} (sound : grid.Sound) {c : Char} (unbroken : c ≠ '\n') :
    (grid.combine c).Sound := by
  unfold LiveGrid.combine
  split_ifs
  · exact sound.join unbroken _ _
  · exact sound.join unbroken _ _
  · exact sound

theorem Sound.text {grid : LiveGrid} (sound : grid.Sound) {width : Char → Nat} (blank : width ' ' ≤ 1) {c : Char}
    (unbroken : c ≠ '\n') : (grid.text width c).Sound := by
  unfold LiveGrid.text
  split
  · exact sound
  · rename_i narrow
    dsimp only
    generalize (decide (grid.col > _) && _) = wrap
    have fits := @colWrap_fits (width c) wrap grid (Nat.le_of_not_lt narrow)
    have wrapped := sound.colWrap (width c) wrap
    split
    · exact wrapped.combine unbroken
    · refine (wrapped.modifyRow fun paired length => ?_).move (grid.colWrap _ wrap).row _ wrapped.placed
      rw [Row.length_place]
      refine ⟨paired.place blank unbroken ?_, length⟩
      rw [length, fits.1]
      split <;> omega

theorem Sound.print {grid : LiveGrid} (sound : grid.Sound) {width : Char → Nat} (blank : width ' ' ≤ 1) {c : Char}
    (unbroken : c ≠ '\n') : (grid.print width c).Sound := by
  unfold LiveGrid.print
  split
  · exact sound
  · exact sound.text blank unbroken

/-- A grid for readers. -/
def Sound.grid {grid : LiveGrid} (sound : grid.Sound) (bounded : grid.scrollback.length ≤ usizeMax / 2) : Grid where
  height := grid.height
  width := grid.width
  rows := grid.rows
  scrollback := grid.scrollback
  scrollbackOffset := grid.scrollbackOffset
  height_pos := sound.height_pos
  width_pos := sound.width_pos
  representable := sound.representable
  allocated := sound.allocated
  bounded := bounded
  in_history := sound.in_history
  formed row member := (sound.paired row member).formed

end LiveGrid

end Ezpn
