import Ezpn.Screen.Printing

/-!
# Lines of text

What printing leaves on a line that was blank: the glyphs printed so far, with blank
cells up to the width. As long as the characters fit, nothing else on the screen
changes, and reading the row gives back the contents of the glyphs.
-/

set_option autoImplicit false

namespace Ezpn

/-- The cells of a glyph. -/
def Cell.spread (glyph : Cell) : List Cell :=
  if glyph.wide then [glyph, { wideContinuation := true }] else [glyph]

/-- The glyphs of a line, the last one first. -/
structure TypedLine where
  glyphs : List Cell := []
  deriving DecidableEq, Repr

namespace TypedLine

def cells (line : TypedLine) : List Cell := line.glyphs.reverse.flatMap Cell.spread

def text (line : TypedLine) : List Char := line.glyphs.reverse.flatMap Cell.contents

def row (width : Nat) (line : TypedLine) : Row :=
  { cells := line.cells ++ List.replicate (width - line.cells.length) {} }

/-- One more character. -/
def type (width : Char → Nat) (line : TypedLine) (c : Char) : TypedLine :=
  if c = '\uFFFD' then line
  else if width c = 0 then
    match line.glyphs with
    | [] => line
    | glyph :: before => ⟨glyph.append c :: before⟩
  else ⟨.set width c :: line.glyphs⟩

/-- Every glyph shows something, and is no continuation. -/
def Shown (line : TypedLine) : Prop := ∀ glyph ∈ line.glyphs, glyph.contents ≠ [] ∧ glyph.wideContinuation = false

theorem cells_cons (glyph : Cell) (before : List Cell) :
    cells ⟨glyph :: before⟩ = cells ⟨before⟩ ++ glyph.spread := by
  simp [cells]

theorem text_cons (glyph : Cell) (before : List Cell) :
    text ⟨glyph :: before⟩ = text ⟨before⟩ ++ glyph.contents := by
  simp [text]

theorem Shown.type {line : TypedLine} (shown : line.Shown) (width : Char → Nat) (c : Char) :
    (line.type width c).Shown := by
  unfold TypedLine.type
  split
  · exact shown
  split
  · split
    · exact shown
    · rename_i glyph before glyphs
      rw [Shown, glyphs, List.forall_mem_cons] at shown
      refine List.forall_mem_cons.mpr ⟨⟨?_, ?_⟩, shown.2⟩
      · unfold Cell.append
        split_ifs
        · exact shown.1.1
        · exact List.cons_ne_nil _ _
        · simp
      · rw [Cell.wideContinuation_append, shown.1.2]
  · exact List.forall_mem_cons.mpr ⟨⟨List.cons_ne_nil _ _, rfl⟩, shown⟩

/-- A character takes no more columns than it is wide. -/
theorem length_type (width : Char → Nat) (line : TypedLine) (c : Char) :
    (line.type width c).cells.length ≤ line.cells.length + width c := by
  unfold type
  split
  · omega
  split
  · split
    · omega
    · rename_i glyph before glyphs
      obtain ⟨_⟩ := line
      simp only at glyphs
      subst glyphs
      simp only [cells_cons, Cell.spread, Cell.wide_append, List.length_append]
      split <;> simp
  · obtain ⟨glyphs⟩ := line
    simp only [cells_cons, Cell.spread, Cell.set, List.length_append, decide_eq_true_eq]
    split <;> simp <;> omega

end TypedLine

/-! ## Printing on a line -/

theorem modify_middle {α : Type} (before : List α) (x : α) (after : List α) (f : α → α) :
    (before ++ x :: after).modify before.length f = before ++ f x :: after := by
  induction before with
  | nil => rfl
  | cons y before ih => simpa using ih

namespace TypedLine

/-- A zero-width character joins the last glyph. -/
theorem join_row {glyph : Cell} {before : List Cell} (own : glyph.wideContinuation = false) (c : Char) (width : Nat) :
    let row := row width ⟨glyph :: before⟩
    let last := (cells ⟨glyph :: before⟩).length - 1
    row.modifyCell (if (row.get last).wideContinuation then last - 1 else last) (Cell.append c) =
      TypedLine.row width ⟨glyph.append c :: before⟩ := by
  dsimp only
  have joined (after : List Cell) (tail : List Cell) :
      Row.modifyCell (cells ⟨before⟩).length (Cell.append c) { cells := cells ⟨before⟩ ++ (glyph :: after ++ tail) } =
        { cells := cells ⟨before⟩ ++ (glyph.append c :: after ++ tail) } := by
    simp only [Row.modifyCell, List.cons_append, modify_middle]
  cases wide : glyph.wide with
  | true =>
      simp only [row, cells_cons, Cell.spread, wide, Cell.wide_append, if_true, List.append_assoc, List.length_append,
        List.length_cons, List.length_nil]
      have shadow : (Row.get ((cells ⟨before⟩).length + 2 - 1) { cells := cells ⟨before⟩ ++ ([glyph,
          { wideContinuation := true }] ++ List.replicate (width - ((cells ⟨before⟩).length + 2)) {}) }) =
          { wideContinuation := true } := by
        simp [Row.get]
      rw [shadow, if_pos rfl]
      exact joined [{ wideContinuation := true }] _
  | false =>
      simp only [row, cells_cons, Cell.spread, wide, Cell.wide_append, Bool.false_eq_true, if_false, List.append_assoc,
        List.length_append, List.length_cons, List.length_nil]
      have single : (Row.get ((cells ⟨before⟩).length + 1 - 1) { cells := cells ⟨before⟩ ++ ([glyph] ++
          List.replicate (width - ((cells ⟨before⟩).length + 1)) {}) }) = glyph := by
        simp [Row.get]
      rw [single, own]
      exact joined [] _

/-- A character that fits is put after the last glyph. -/
theorem place_row {line : TypedLine} {width : Char → Nat} {c : Char} {cols : Nat} (visible : width c ≠ 0)
    (fits : line.cells.length + width c ≤ cols) :
    (line.row cols).place width c (cols - 1) line.cells.length = TypedLine.row cols ⟨.set width c :: line.glyphs⟩ := by
  have room : line.cells.length < cols := by omega
  have free : (line.row cols).get line.cells.length = {} := by
    simp [Row.get, row, room]
  have vacated : (line.row cols).vacate width line.cells.length = line.row cols := by
    simp [Row.vacate, free]
  have blanks (n : Nat) (positive : 0 < n) : List.replicate n ({} : Cell) = {} :: List.replicate (n - 1) {} := by
    obtain ⟨m, rfl⟩ := Nat.exists_eq_succ_of_ne_zero (Nat.ne_of_gt positive)
    rfl
  have set_first : (line.row cols).modifyCell line.cells.length (fun _ => .set width c) =
      { cells := line.cells ++ Cell.set width c :: List.replicate (cols - line.cells.length - 1) {} } := by
    simp only [Row.modifyCell, row]
    rw [blanks _ (by omega), modify_middle]
  unfold Row.place
  rw [vacated, set_first]
  by_cases broad : width c > 1
  · have wide : (Cell.set width c).wide = true := by simpa [Cell.set] using broad
    have next : Row.get (line.cells.length + 1)
        { cells := line.cells ++ Cell.set width c :: List.replicate (cols - line.cells.length - 1) {} } = {} := by
      simp [Row.get, show 0 < cols - line.cells.length - 1 by omega]
    have length : (line.cells ++ [Cell.set width c]).length = line.cells.length + 1 := by simp
    rw [if_pos broad, Row.continueWide, next]
    simp only [Bool.false_eq_true, if_false, Row.modifyCell, row, cells_cons, Cell.spread, wide, if_true]
    rw [blanks (cols - line.cells.length - 1) (by omega), List.append_cons, ← length, modify_middle]
    simp [Nat.sub_sub]
  · have narrow : (Cell.set width c).wide = false := by simpa [Cell.set] using broad
    rw [if_neg broad]
    simp [row, cells_cons, Cell.spread, narrow, Nat.sub_sub]

/-- The cursor is behind a line, below rows that have not wrapped. -/
structure At (above below : List Row) (line : TypedLine) (grid : LiveGrid) : Prop where
  rows : grid.rows = above ++ line.row grid.width :: below
  placed : grid.row = above.length
  col : grid.col = line.cells.length
  explicit : ∀ row ∈ above, row.wrapped = false

theorem At.drawingRow {above below : List Row} {line : TypedLine} {grid : LiveGrid} (here : At above below line grid) :
    grid.drawingRow grid.row = line.row grid.width := by
  simp [LiveGrid.drawingRow, here.rows, here.placed]

theorem At.modifyRow {above below : List Row} {line : TypedLine} {grid : LiveGrid} (here : At above below line grid)
    (f : Row → Row) :
    grid.modifyRow grid.row f = { grid with rows := above ++ f (line.row grid.width) :: below } := by
  rw [LiveGrid.modifyRow, here.rows, here.placed, modify_middle]

/-- The grid with a line at its cursor. -/
def onGrid (above below : List Row) (line : TypedLine) (grid : LiveGrid) : LiveGrid :=
  { grid with rows := above ++ line.row grid.width :: below, col := line.cells.length }

theorem At.eq_onGrid {above below : List Row} {line : TypedLine} {grid : LiveGrid} (here : At above below line grid) :
    grid = TypedLine.onGrid above below line grid := by
  rw [TypedLine.onGrid, ← here.rows, ← here.col]

theorem At.print {above below : List Row} {line : TypedLine} {grid : LiveGrid} (here : At above below line grid)
    (shown : line.Shown) {width : Char → Nat} {c : Char} (fits : line.cells.length + width c ≤ grid.width) :
    grid.print width c = TypedLine.onGrid above below (line.type width c) grid := by
  unfold LiveGrid.print TypedLine.type
  split
  · exact here.eq_onGrid
  have unwrapped (wrap : Bool) : grid.colWrap (width c) wrap = grid := by
    rw [LiveGrid.colWrap, here.col, if_neg (by omega)]
  rw [LiveGrid.text, if_neg (by omega)]
  dsimp only
  rw [unwrapped]
  split
  · -- A zero-width character.
    unfold LiveGrid.combine
    rw [here.col]
    obtain ⟨glyphs⟩ := line
    cases glyphs with
    | nil =>
        have first : ¬(cells ⟨[]⟩).length > 0 := by simp [cells]
        have explicit : ¬(grid.row > 0 ∧ (grid.drawingRow (grid.row - 1)).wrapped = true) := by
          rintro ⟨below, wrapped⟩
          have inside : grid.row - 1 < above.length := by have := here.placed; omega
          have drawn : grid.drawingRow (grid.row - 1) = above[grid.row - 1] := by
            simp [LiveGrid.drawingRow, here.rows, List.getElem?_append_left inside, inside]
          rw [drawn, here.explicit _ (List.getElem_mem inside)] at wrapped
          exact absurd wrapped (by decide)
        rw [if_neg first, if_neg explicit]
        exact here.eq_onGrid
    | cons glyph before =>
        have behind : (cells ⟨glyph :: before⟩).length > 0 := by
          rw [cells_cons, List.length_append, Cell.spread]
          split <;> simp
        have same : (cells ⟨glyph.append c :: before⟩).length = (cells ⟨glyph :: before⟩).length := by
          simp only [cells_cons, List.length_append, Cell.spread, Cell.wide_append]
          split <;> rfl
        rw [if_pos behind, LiveGrid.join, here.drawingRow]
        dsimp only
        rw [here.modifyRow, join_row (shown glyph List.mem_cons_self).2, TypedLine.onGrid, same, ← here.col]
  · rename_i visible
    rw [here.modifyRow, here.col, place_row visible fits]
    have length : (cells ⟨.set width c :: line.glyphs⟩).length =
        line.cells.length + if width c > 1 then 2 else 1 := by
      simp only [cells_cons, List.length_append, Cell.spread, Cell.set, decide_eq_true_eq]
      split <;> rfl
    rw [TypedLine.onGrid, length]

theorem At.next {above below : List Row} {line : TypedLine} {grid : LiveGrid} (here : At above below line grid)
    (other : TypedLine) : At above below other (TypedLine.onGrid above below other grid) :=
  ⟨rfl, here.placed, rfl, here.explicit⟩

/-- A text that fits is typed on its line. -/
theorem At.print_all {above below : List Row} {line : TypedLine} {grid : LiveGrid} (here : At above below line grid)
    (shown : line.Shown) {width : Char → Nat} {cs : List Char}
    (fits : line.cells.length + (cs.map width).sum ≤ grid.width) :
    cs.foldl (fun grid c => grid.print width c) grid = TypedLine.onGrid above below (cs.foldl (TypedLine.type width) line) grid := by
  induction cs generalizing grid line with
  | nil => exact here.eq_onGrid
  | cons c cs ih =>
      rw [List.map_cons, List.sum_cons] at fits
      have length := length_type width line c
      rw [List.foldl_cons, List.foldl_cons, here.print shown (by omega)]
      exact ih (here.next _) (shown.type width c) (by simp only [TypedLine.onGrid]; omega)

/-! ## Reading a line -/

/-- Cells that are read one after the other, from a column. -/
def read (writer : Row.Writer) (col : Nat) (cells : List Cell) : Row.Writer :=
  (cells.zipIdx col).foldl (fun (writer : Row.Writer) (entry : Cell × Nat) => writer.cell entry.2 entry.1) writer

theorem read_append (writer : Row.Writer) (col : Nat) (before after : List Cell) :
    read writer col (before ++ after) = read (read writer col before) (col + before.length) after := by
  rw [read, List.zipIdx_append, List.foldl_append]
  rfl

theorem read_spread {glyph : Cell} (filled : glyph.contents ≠ []) (before : List Char) (col : Nat) :
    read { contents := before, prevCol := col } col glyph.spread =
      { contents := before ++ glyph.contents, prevCol := col + glyph.spread.length } := by
  unfold Cell.spread
  cases wide : glyph.wide with
  | true => simp [read, Row.Writer.cell, filled, wide]
  | false => simp [read, Row.Writer.cell, filled, wide]

theorem read_glyphs {glyphs : List Cell} (filled : ∀ glyph ∈ glyphs, glyph.contents ≠ []) (before : List Char)
    (col : Nat) :
    read { contents := before, prevCol := col } col (glyphs.flatMap Cell.spread) =
      { contents := before ++ glyphs.flatMap Cell.contents, prevCol := col + (glyphs.flatMap Cell.spread).length } := by
  induction glyphs generalizing before col with
  | nil => simp [read]
  | cons glyph glyphs ih =>
      rw [List.forall_mem_cons] at filled
      rw [List.flatMap_cons, read_append, read_spread filled.1, ih filled.2, List.flatMap_cons, List.append_assoc,
        List.length_append, Nat.add_assoc]

/-- Blank cells at the end of a row are not written. -/
theorem read_blanks (n : Nat) (before : List Char) (prevCol col : Nat) :
    (read { contents := before, prevCol } col (List.replicate n {})).contents = before := by
  induction n generalizing col with
  | zero => rfl
  | succ n ih =>
      rw [List.replicate_succ, ← List.singleton_append, read_append]
      exact ih _

theorem writeContents_row {line : TypedLine} (shown : line.Shown) {width : Nat} (fits : line.cells.length ≤ width) :
    (line.row width).writeContents 0 width = String.ofList line.text := by
  have length : (line.row width).cells.length = width := by
    simp only [row, List.length_append, List.length_replicate]
    omega
  have filled (glyph : Cell) (member : glyph ∈ line.glyphs.reverse) : glyph.contents ≠ [] :=
    (shown glyph (List.mem_reverse.mp member)).1
  rw [Row.writeContents, List.drop_zero, List.take_of_length_le (by simp [length])]
  change String.ofList (read { prevCol := 0 } 0 (line.row width).cells).contents = _
  rw [row, read_append, cells, read_glyphs filled, read_blanks]
  rfl

/-- Of a text, what a line keeps: no replacement character, and a zero-width character only
behind a glyph that has room for it. -/
def kept (width : Char → Nat) : (glyph : Option Nat) → List Char → List Char
  | _, [] => []
  | glyph, c :: cs =>
      if c = '\uFFFD' then kept width glyph cs
      else if width c = 0 then
        match glyph with
        | none => kept width none cs
        | some bytes =>
            if bytes ≥ Cell.contentBytes - 4 then kept width (some bytes) cs
            else c :: kept width (some (bytes + c.utf8Size)) cs
      else c :: kept width (some c.utf8Size) cs

/-- Bytes of the last glyph. -/
def lastLen (line : TypedLine) : Option Nat := line.glyphs.head?.map Cell.len

theorem text_typed {line : TypedLine} (shown : line.Shown) (width : Char → Nat) (cs : List Char) :
    (cs.foldl (TypedLine.type width) line).text = line.text ++ kept width line.lastLen cs := by
  induction cs generalizing line with
  | nil => simp [kept]
  | cons c cs ih =>
      rw [List.foldl_cons, ih (shown.type width c), kept.eq_def width line.lastLen]
      unfold TypedLine.type
      dsimp only
      split
      · rfl
      split
      · obtain ⟨glyphs⟩ := line
        cases glyphs with
        | nil => rfl
        | cons glyph before =>
            have some_len : 0 < glyph.len := by
              obtain ⟨base, marks, contents⟩ := List.exists_cons_of_ne_nil (shown glyph List.mem_cons_self).1
              have := Char.utf8Size_pos base
              rw [Cell.len, contents, List.map_cons, List.sum_cons]
              omega
            have last : lastLen ⟨glyph :: before⟩ = some glyph.len := rfl
            simp only [last, text_cons, Cell.append]
            by_cases full : glyph.len ≥ Cell.contentBytes - 4
            · simp only [full, if_true, last]
            · simp only [full, if_false, Nat.ne_of_gt some_len]
              simp [lastLen, Cell.len]
      · simp [text, lastLen, Cell.set, Cell.len]

/-- A character with the marks that its glyph has room for. -/
structure Cluster (width : Char → Nat) (cluster : List Char) : Prop where
  drawn : '\uFFFD' ∉ cluster
  headed : ∃ base marks, cluster = base :: marks ∧ width base ≠ 0 ∧ ∀ c ∈ marks, width c = 0
  room : (cluster.dropLast.map Char.utf8Size).sum < Cell.contentBytes - 4

theorem kept_marks {width : Char → Nat} {marks : List Char} (drawn : '\uFFFD' ∉ marks)
    (zero : ∀ c ∈ marks, width c = 0) {bytes : Nat}
    (room : marks ≠ [] → bytes + (marks.dropLast.map Char.utf8Size).sum < Cell.contentBytes - 4) (rest : List Char) :
    kept width (some bytes) (marks ++ rest) =
      marks ++ kept width (some (bytes + (marks.map Char.utf8Size).sum)) rest := by
  induction marks generalizing bytes with
  | nil => simp
  | cons c marks ih =>
      have here := room (List.cons_ne_nil _ _)
      rw [List.mem_cons, not_or] at drawn
      rw [List.forall_mem_cons] at zero
      have free : ¬bytes ≥ Cell.contentBytes - 4 := by
        omega
      have next := @ih drawn.2 zero.2 (bytes + c.utf8Size) fun more => by
        rw [List.dropLast_cons_of_ne_nil more, List.map_cons, List.sum_cons] at here
        omega
      rw [List.cons_append, kept.eq_def]
      simp only [Ne.symm drawn.1, zero.1, free, if_true, if_false, next, List.map_cons, List.sum_cons,
        List.cons_append, Nat.add_assoc]

/-- Nothing is lost of a text of such clusters. -/
theorem kept_clusters {width : Char → Nat} {clusters : List (List Char)}
    (fine : ∀ cluster ∈ clusters, Cluster width cluster) (glyph : Option Nat) :
    kept width glyph clusters.flatten = clusters.flatten := by
  induction clusters generalizing glyph with
  | nil => simp [kept]
  | cons cluster clusters ih =>
      rw [List.forall_mem_cons] at fine
      obtain ⟨base, marks, rfl, visible, zero⟩ := fine.1.headed
      have drawn := fine.1.drawn
      rw [List.mem_cons, not_or] at drawn
      have room := fine.1.room
      rw [List.flatten_cons, List.cons_append, kept.eq_def]
      simp only [Ne.symm drawn.1, visible, if_false]
      rw [kept_marks drawn.2 zero, ih fine.2]
      intro more
      rwa [List.dropLast_cons_of_ne_nil more, List.map_cons, List.sum_cons] at room

end TypedLine

end Ezpn
