import Ezpn.Screen.Painting

/-!
# Drawn panes

The loops take the frontier over each row, whatever is still in the buffer: the
display that counts is the one after the buffer has been written too.
-/

set_option autoImplicit false

namespace Ezpn

open Display

/-! ## Locals -/

/-- The display once the buffer is written too. -/
def Painter.display (widths : CharWidths) (start : Display) (painter : Painter) : Display :=
  start.feed widths (painter.out ++ painter.buf)

section Locals
variable {widths : CharWidths} {start : Display} {painter : Painter}

theorem feed_space {display : Display} (ground : display.mode = .ground) (fits : display.col + 1 ≤ display.width) :
    display.feed widths [' '] = display.write [' '] 1 :=
  feed_glyph ground (.inl rfl) (widths.ascii ' ' (by decide)) nofun fits

theorem feed_stay {display : Display} (ground : display.mode = .ground) {x y : Nat} (inside : x < display.width ∧ y < display.height)
    (row : display.row = y) (col : display.col = x) : display.feed widths (moveToText x y) = display := by
  rw [feed_moveTo widths ground inside, ← row, ← col]

/-- A missing cell is a blank, with nothing set. -/
theorem Painter.missing_display (ground : (painter.display widths start).mode = .ground)
    (pen : (painter.display widths start).pen = painter.lastStyle.getD {})
    (fits : (painter.display widths start).col + 1 ≤ (painter.display widths start).width) :
    painter.missing.display widths start = ({ painter.display widths start with pen := {} } : Display).write [' '] 1 := by
  unfold Painter.missing
  cases style : painter.lastStyle with
  | none =>
      rw [style] at pen
      change start.feed widths (painter.out ++ (painter.buf ++ [' '])) = _
      rw [← List.append_assoc, feed_append]
      have plain : ({ painter.display widths start with pen := {} } : Display) = painter.display widths start := by
        change ({ painter.display widths start with pen := (none : Option Pen).getD {} } : Display) = _
        rw [← pen]
      rw [plain]
      exact feed_space ground fits
  | some style =>
      change start.feed widths (painter.out ++ painter.buf ++ resetText ++ resetText ++ ([] ++ [' '])) = _
      rw [List.nil_append, feed_append, feed_append, feed_append]
      change (((painter.display widths start).feed widths resetText).feed widths resetText).feed widths [' '] = _
      rw [feed_reset widths ground, @feed_reset widths { painter.display widths start with pen := {} } ground]
      exact @feed_space widths { painter.display widths start with pen := {} } ground fits

theorem Painter.missing_lastStyle : painter.missing.lastStyle = none := by
  unfold Painter.missing
  cases style : painter.lastStyle with
  | none => exact style
  | some style => rfl

theorem Painter.missing_matchIndex : painter.missing.matchIndex = painter.matchIndex := by
  unfold Painter.missing
  cases style : painter.lastStyle <;> rfl

/-- The style is set before what is drawn with it. -/
theorem Painter.setStyle_display (ground : (painter.display widths start).mode = .ground)
    (pen : (painter.display widths start).pen = painter.lastStyle.getD {}) (style : Pen) :
    (painter.setStyle style).display widths start = { painter.display widths start with pen := style } ∧
      (painter.setStyle style).lastStyle = some style ∧ (painter.setStyle style).matchIndex = painter.matchIndex := by
  unfold Painter.setStyle
  split
  · rename_i same
    rw [same] at pen
    refine ⟨?_, same, rfl⟩
    change _ = ({ painter.display widths start with pen := (some style).getD {} } : Display)
    rw [← pen]
  · refine ⟨?_, rfl, rfl⟩
    change start.feed widths (painter.out ++ painter.buf ++ styleText style ++ []) = _
    rw [List.append_nil, feed_append]
    exact feed_style widths ground style

theorem Cell.columns_cases (cell : Cell) : cell.columns = 1 ∨ cell.columns = 2 := by
  unfold Cell.columns
  split
  · exact .inr rfl
  · exact .inl rfl

/-- Whether a cell is drawn as a blank. -/
def Blank (rect : Rect) (c : Nat) (cell : Cell) : Prop := cell.contents = [] ∨ (cell.wide = true ∧ rect.w ≤ c + 1)

theorem blank_iff {rect : Rect} {c : Nat} {cell : Cell} :
    (decide (cell.contents = []) || (cell.wide && decide (c + 1 ≥ rect.w))) = true ↔ Blank rect c cell := by
  simp only [Blank, Bool.or_eq_true, Bool.and_eq_true, decide_eq_true_eq, ge_iff_le]

theorem Painter.contents_blank {rect : Rect} {r c : Nat} {cell : Cell} (blank : Blank rect c cell)
    (ground : (painter.display widths start).mode = .ground)
    (fits : (painter.display widths start).col + 1 ≤ (painter.display widths start).width) :
    (painter.contents rect r c cell).display widths start = (painter.display widths start).write [' '] 1 := by
  rw [Painter.contents, if_pos (blank_iff.mpr blank)]
  change start.feed widths (painter.out ++ (painter.buf ++ [' '])) = _
  rw [← List.append_assoc, feed_append]
  exact feed_space ground fits

/-- The contents are drawn at the frontier, and the cursor is at the frontier afterwards. -/
theorem Painter.contents_glyph {rect : Rect} {r c : Nat} {cell : Cell} (printable : cell.Printable widths)
    (drawn : ¬Blank rect c cell) (ground : (painter.display widths start).mode = .ground)
    (row : (painter.display widths start).row = rect.y + r) (col : (painter.display widths start).col = rect.x + c)
    (fits : c + cell.columns ≤ rect.w) (wide : rect.x + rect.w ≤ (painter.display widths start).width)
    (high : rect.y + r < (painter.display widths start).height) :
    (painter.contents rect r c cell).display widths start =
      (painter.display widths start).write cell.contents cell.columns := by
  obtain ⟨base, marks, text⟩ := List.exists_cons_of_ne_nil fun empty => drawn (.inl empty)
  obtain ⟨printed, attached⟩ := printable.glyph base marks text
  have positive := cell.columns_cases
  have glyph : (painter.display widths start).feed widths cell.contents =
      (painter.display widths start).write cell.contents cell.columns := by
    rw [text]
    exact feed_glyph ground cell.columns_cases printed attached (by omega)
  rw [Painter.contents, if_neg (mt blank_iff.mp drawn)]
  split
  · change start.feed widths (painter.out ++ (painter.buf ++ cell.contents)) = _
    rw [← List.append_assoc, feed_append]
    exact glyph
  · have anchored : start.feed widths (painter.out ++ painter.buf ++ (moveToText (rect.x + c) (rect.y + r) ++ cell.contents)) =
        (painter.display widths start).write cell.contents cell.columns := by
      rw [feed_append, feed_append]
      change ((painter.display widths start).feed widths _).feed widths _ = _
      rw [feed_stay ground (by omega) row col]
      exact glyph
    dsimp only
    split
    · rename_i more
      change start.feed widths (painter.out ++ painter.buf ++ (moveToText (rect.x + c) (rect.y + r) ++ cell.contents) ++
        moveToText (rect.x + (c + cell.columns)) (rect.y + r) ++ []) = _
      rw [List.append_nil, feed_append, anchored]
      refine @feed_stay widths ((painter.display widths start).write cell.contents cell.columns) ground _ _ ⟨?_, high⟩ row ?_
      · change rect.x + (c + cell.columns) < (painter.display widths start).width
        omega
      · change (painter.display widths start).col + cell.columns = _
        omega
    · change start.feed widths (painter.out ++ painter.buf ++ (moveToText (rect.x + c) (rect.y + r) ++ cell.contents) ++ []) = _
      rw [List.append_nil, anchored]

theorem Painter.contents_kept (rect : Rect) (r c : Nat) (cell : Cell) :
    (painter.contents rect r c cell).lastStyle = painter.lastStyle ∧
      (painter.contents rect r c cell).matchIndex = painter.matchIndex := by
  unfold Painter.contents
  split
  · exact ⟨rfl, rfl⟩
  · split <;> exact ⟨rfl, rfl⟩

end Locals

/-! ## Cells, rows and panes -/

section Draw
variable {widths : CharWidths} {screen : PaneScreen widths} {rect : Rect} {isAlive : Bool} {selection : Option Selected}
  {found : List SearchMatch} {start : Display} {painter : Painter} {r c : Nat}

def PaneScreen.isContinuation (screen : PaneScreen widths) (r c : Nat) : Bool := (screen.cell r c).any (·.wideContinuation)

/-- Each wide cell is followed by its continuation. -/
def PaneScreen.Followed (screen : PaneScreen widths) : Prop :=
  ∀ (r c : Nat) (cell : PaneCell), screen.cell r c = some cell → cell.wide = true →
    ∃ next, screen.cell r (c + 1) = some next ∧ next.wideContinuation = true

theorem PaneScreen.cell_row {cell : PaneCell} (shown : screen.cell r c = some cell) :
    ∃ row, screen.rows[r]? = some row ∧ row[c]? = some cell := Option.bind_eq_some_iff.mp shown

theorem PaneScreen.cell_printable {cell : PaneCell} (shown : screen.cell r c = some cell) : cell.toCell.Printable widths := by
  obtain ⟨row, there, here⟩ := screen.cell_row shown
  exact screen.printable row (List.mem_of_getElem? there) cell (List.mem_of_getElem? here)

theorem PaneScreen.isContinuation_left (continued : screen.isContinuation r c = true) :
    ∃ left cell, c = left + 1 ∧ screen.cell r left = some cell ∧ cell.wide = true := by
  obtain ⟨cell, shown, shadow⟩ := (Option.any_eq_true_iff_get _ _).mp continued |>.elim fun there shadow =>
    (⟨_, Option.some_get there |>.symm, shadow⟩ : ∃ cell, screen.cell r c = some cell ∧ cell.wideContinuation = true)
  obtain ⟨row, there, here⟩ := screen.cell_row shown
  obtain ⟨left, cell', same, before, wide⟩ := screen.paired row (List.mem_of_getElem? there) c cell here shadow
  refine ⟨left, cell', same, ?_, wide⟩
  rw [PaneScreen.cell, there]
  exact before

theorem PaneScreen.isContinuation_some {cell : PaneCell} (shown : screen.cell r c = some cell) :
    screen.isContinuation r c = cell.wideContinuation := by
  rw [isContinuation, shown]
  rfl

/-- The column up to which a row is painted when the loop comes to a column. -/
def frontier (screen : PaneScreen widths) (rect : Rect) (r c : Nat) : Nat :=
  if c < rect.w ∧ screen.isContinuation r c = true then c + 1 else c

theorem frontier_after_narrow (narrow : ∀ cell, screen.cell r c = some cell → cell.wide = false) :
    frontier screen rect r (c + 1) = c + 1 := by
  refine if_neg ?_
  rintro ⟨-, continued⟩
  obtain ⟨left, cell, same, shown, wide⟩ := screen.isContinuation_left continued
  cases same
  rw [narrow cell shown] at wide
  nomatch wide

theorem frontier_after_blank {cell : PaneCell} (shown : screen.cell r c = some cell) (blank : Blank rect c cell.toCell) :
    frontier screen rect r (c + 1) = c + 1 := by
  rcases blank with empty | ⟨-, cut⟩
  · refine frontier_after_narrow fun other same => ?_
    rw [shown] at same
    cases same
    exact Bool.eq_false_iff.mpr fun wide => (screen.cell_printable shown).full wide empty
  · exact if_neg fun continued => by omega

theorem fits_of_not_blank {cell : PaneCell} (within : c < rect.w) (solid : ¬Blank rect c cell.toCell) :
    c + cell.columns ≤ rect.w := by
  unfold Cell.columns
  split
  · rename_i broad
    by_contra cut
    exact solid (.inr ⟨broad, by omega⟩)
  · exact within

theorem frontier_after_glyph (followed : screen.Followed) {cell : PaneCell} (shown : screen.cell r c = some cell)
    (fits : c + cell.columns ≤ rect.w) : frontier screen rect r (c + 1) = c + cell.columns := by
  unfold Cell.columns at fits ⊢
  split
  · rename_i broad
    obtain ⟨after, there, shadow⟩ := followed r c cell shown broad
    rw [if_pos broad] at fits
    exact if_pos ⟨by omega, (screen.isContinuation_some there).trans shadow⟩
  · rename_i narrow
    refine frontier_after_narrow fun other same => ?_
    rw [shown] at same
    cases same
    exact Bool.eq_false_iff.mpr narrow

/-- What holds when the loop comes to a cell. -/
structure Painter.Ready (screen : PaneScreen widths) (rect : Rect) (isAlive : Bool) (selection : Option Selected)
    (found : List SearchMatch) (start : Display) (r c : Nat) (painter : Painter) : Prop where
  painted : Painted start rect (shownAt screen rect isAlive selection found) r (frontier screen rect r c)
    (painter.display widths start)
  pen : (painter.display widths start).pen = painter.lastStyle.getD {}
  passed : MatchesPassed found r c painter.matchIndex

theorem Painter.Ready.missing (inside : rect.OnDisplay start) (unbroken : Unbroken start rect) (lower : r < rect.h)
    (within : c < rect.w) (shown : screen.cell r c = none)
    (ready : painter.Ready screen rect isAlive selection found start r c) :
    (painter.cell screen rect isAlive selection found r c).Ready screen rect isAlive selection found start r (c + 1) := by
  obtain ⟨painted, pen, passed⟩ := ready
  obtain ⟨wide, high⟩ := inside
  have ground := painted.ground
  have width := painted.size.1
  have here : frontier screen rect r c = c := if_neg fun continued => by
    rw [PaneScreen.isContinuation, shown] at continued
    nomatch continued.2
  have next : frontier screen rect r (c + 1) = c + 1 := frontier_after_narrow fun cell same => by
    rw [shown] at same
    nomatch same
  rw [here] at painted
  have col := painted.col
  have drawn := painter.missing_display ground pen (by omega)
  unfold Painter.cell
  rw [shown]
  refine ⟨?_, ?_, ?_⟩
  · rw [next, drawn]
    refine (painted.pen {}).write ⟨wide, high⟩ unbroken lower (.inl rfl) within ?_ nofun
    rw [shownAt, shown]
    rfl
  · rw [drawn, Painter.missing_lastStyle]
    rfl
  · rw [Painter.missing_matchIndex]
    exact passed.mono (Nat.le_succ c)

/-- With the style of the cell set, its contents are written. -/
theorem Painter.Ready.contents (followed : screen.Followed) (inside : rect.OnDisplay start) (unbroken : Unbroken start rect)
    (lower : r < rect.h) (within : c < rect.w) {cell : PaneCell} (shown : screen.cell r c = some cell)
    (plain : ¬cell.wideContinuation = true) {current : Painter}
    (painted : Painted start rect (shownAt screen rect isAlive selection found) r c (current.display widths start))
    (pen : (current.display widths start).pen = computedStyle isAlive selection found r c cell)
    (style : current.lastStyle = some (computedStyle isAlive selection found r c cell))
    (passed : MatchesPassed found r c current.matchIndex) :
    (current.contents rect r c cell.toCell).Ready screen rect isAlive selection found start r (c + 1) := by
  obtain ⟨wide, high⟩ := inside
  obtain ⟨lastKept, matchKept⟩ := current.contents_kept rect r c cell.toCell
  have size := painted.size
  have row := painted.row
  have col := painted.col
  have passedOn : MatchesPassed found r (c + 1) (current.contents rect r c cell.toCell).matchIndex := by
    rw [matchKept]
    exact passed.mono (Nat.le_succ c)
  have penKept (text : List Char) (k : Nat) :
      ((current.display widths start).write text k).pen = (current.contents rect r c cell.toCell).lastStyle.getD {} := by
    rw [lastKept, style]
    exact pen
  by_cases blank : Blank rect c cell.toCell
  · have drawn := @Painter.contents_blank widths start current rect r c cell.toCell blank painted.ground (by omega)
    refine ⟨?_, ?_, passedOn⟩
    · rw [frontier_after_blank shown blank, drawn]
      refine painted.write ⟨wide, high⟩ unbroken lower (.inl rfl) within ?_ nofun
      rw [shownAt, shown, pen]
      dsimp only
      rw [if_neg plain, if_pos (blank_iff.mpr blank)]
      rfl
    · rw [drawn]
      exact penKept _ _
  · have fits := fits_of_not_blank within blank
    have drawn := @Painter.contents_glyph widths start current rect r c cell.toCell (screen.cell_printable shown) blank
      painted.ground row col fits (by omega) (by omega)
    refine ⟨?_, ?_, passedOn⟩
    · rw [frontier_after_glyph followed shown fits, drawn]
      refine painted.write ⟨wide, high⟩ unbroken lower cell.columns_cases fits ?_ fun double => ?_
      · rw [shownAt, shown, pen]
        dsimp only
        rw [if_neg plain, if_neg (mt blank_iff.mp blank)]
      · have broad : cell.wide = true := by
          unfold Cell.columns at double
          split at double
          · assumption
          · nomatch double
        obtain ⟨after, there, shadow⟩ := followed r c cell shown broad
        rw [shownAt, there, pen]
        dsimp only
        rw [if_pos shadow, Nat.add_sub_cancel, shown]
    · rw [drawn]
      exact penKept _ _

/-- One cell takes the frontier on. -/
theorem Painter.Ready.cell (sorted : SearchMatch.Sorted found) (followed : screen.Followed) (inside : rect.OnDisplay start)
    (unbroken : Unbroken start rect) (lower : r < rect.h) (within : c < rect.w)
    (ready : painter.Ready screen rect isAlive selection found start r c) :
    (painter.cell screen rect isAlive selection found r c).Ready screen rect isAlive selection found start r (c + 1) := by
  cases shown : screen.cell r c with
  | none => exact ready.missing inside unbroken lower within shown
  | some cell =>
      obtain ⟨painted, pen, passed⟩ := ready
      have continuation := screen.isContinuation_some shown
      unfold Painter.cell
      rw [shown]
      dsimp only
      split
      · rename_i shadow
        have here : frontier screen rect r c = c + 1 := if_pos ⟨within, continuation.trans shadow⟩
        have next : frontier screen rect r (c + 1) = c + 1 := frontier_after_narrow fun cell' same => by
          rw [shown] at same
          cases same
          exact (screen.cell_printable shown).shadow shadow
        rw [here] at painted
        refine ⟨?_, pen, passed.mono (Nat.le_succ c)⟩
        rw [next]
        exact painted
      · rename_i plain
        have here : frontier screen rect r c = c := if_neg fun continued => plain (continuation.symm.trans continued.2)
        rw [here] at painted
        obtain ⟨skipped, hits⟩ := passed.skip sorted cell.columns
        rw [hits]
        obtain ⟨styled, styleKept, indexKept⟩ := @Painter.setStyle_display widths start
          { painter with matchIndex := skipMatches found r c painter.matchIndex } painted.ground pen
          (computedStyle isAlive selection found r c cell)
        have penned := painted.pen (computedStyle isAlive selection found r c cell)
        change Painter.Ready screen rect isAlive selection found start r (c + 1)
          (Painter.contents rect r c cell.toCell (Painter.setStyle (computedStyle isAlive selection found r c cell)
            { painter with matchIndex := skipMatches found r c painter.matchIndex }))
        refine Painter.Ready.contents followed inside unbroken lower within shown plain ?_ ?_ styleKept ?_
        · rw [styled]
          exact penned
        · rw [styled]
        · rw [indexKept]
          exact skipped

/-- What holds between two rows: those from this one on are as they were. -/
structure Painter.Between (screen : PaneScreen widths) (rect : Rect) (isAlive : Bool) (selection : Option Selected)
    (found : List SearchMatch) (start : Display) (r : Nat) (painter : Painter) : Prop where
  flushed : painter.buf = []
  painted : RowsPainted start rect (shownAt screen rect isAlive selection found) r (painter.display widths start)
  pen : (painter.display widths start).pen = painter.lastStyle.getD {}
  below : ∀ r', r ≤ r' → ∀ col, (painter.display widths start).cells (rect.y + r') col = start.cells (rect.y + r') col

theorem Painter.Between.row (sorted : SearchMatch.Sorted found) (followed : screen.Followed) (inside : rect.OnDisplay start)
    (unbroken : Unbroken start rect) (lower : r < rect.h) (nonempty : 0 < rect.w)
    (between : painter.Between screen rect isAlive selection found start r) :
    (painter.row screen rect isAlive selection found r).Between screen rect isAlive selection found start (r + 1) := by
  obtain ⟨flushed, painted, pen, below⟩ := between
  obtain ⟨width, height, tears⟩ := painted.size
  obtain ⟨wide, high⟩ := inside
  have top : (painter.startRow rect found r).display widths start =
      { painter.display widths start with row := rect.y + r, col := rect.x } := by
    change start.feed widths (painter.out ++ moveToText rect.x (rect.y + r) ++ []) = _
    have written : start.feed widths painter.out = painter.display widths start := by
      rw [Painter.display, flushed, List.append_nil]
    rw [List.append_nil, feed_append, written]
    exact feed_moveTo widths painted.ground (by omega)
  have first : frontier screen rect r 0 = 0 := if_neg fun continued => by
    obtain ⟨left, -, same, -⟩ := screen.isContinuation_left continued.2
    nomatch same
  have ready (n : Nat) (le : n ≤ rect.w) : Painter.Ready screen rect isAlive selection found start r n
      ((List.range n).foldl (fun painter c => painter.cell screen rect isAlive selection found r c)
        (painter.startRow rect found r)) := by
    induction n with
    | zero =>
        refine ⟨?_, ?_, .start sorted⟩
        · rw [List.range_zero, List.foldl_nil, top, first]
          refine { painted with row := rfl, col := rfl, left := nofun, edge := fun torn within => ?_, below := ?_ }
          · change ((painter.display widths start).cells (rect.y + r) rect.x).isRest = false
            rw [below r (Nat.le_refl r)]
            exact unbroken (tears ▸ torn) r lower rect.x (.inl rfl) (width ▸ within)
          · exact fun r' later col => below r' (Nat.le_of_lt later) col
        · rw [List.range_zero, List.foldl_nil, top]
          exact pen
    | succ n ih =>
        rw [List.range_succ, List.foldl_append]
        exact (ih (Nat.le_of_succ_le le)).cell sorted followed ⟨wide, high⟩ unbroken lower le
  obtain ⟨done, donePen, -⟩ := ready rect.w (Nat.le_refl _)
  have last : frontier screen rect r rect.w = rect.w := if_neg fun continued => absurd continued.1 (Nat.lt_irrefl _)
  rw [last] at done
  have same : (painter.row screen rect isAlive selection found r).display widths start =
      ((List.range rect.w).foldl (fun painter c => painter.cell screen rect isAlive selection found r c)
        (painter.startRow rect found r)).display widths start := by
    unfold Painter.row Painter.display
    rw [List.append_nil]
  refine ⟨rfl, ?_, ?_, ?_⟩
  · rw [same]
    refine { done with above := fun r' earlier c within => ?_ }
    rcases Nat.lt_succ_iff_lt_or_eq.mp earlier with before | rfl
    · exact done.above r' before c within
    · exact done.left c within
  · rw [same]
    exact donePen
  · intro r' later col
    rw [same]
    exact done.below r' later col

/-- The pane shows its cells, and nothing else has changed. -/
theorem drawScreenContentWithMatches_exact (screen : PaneScreen widths) (followed : screen.Followed) (rect : Rect) (isAlive : Bool)
    (selection : Option Selected) (found : List SearchMatch) (sorted : SearchMatch.Sorted found) (start : Display)
    (ground : start.mode = .ground) (inside : rect.OnDisplay start) (unbroken : Unbroken start rect) :
    (∀ row col, ¬rect.Holds row col →
        (start.feed widths (drawScreenContentWithMatches screen rect isAlive selection found)).cells row col = start.cells row col) ∧
      ∀ r < rect.h, ∀ c < rect.w,
        (start.feed widths (drawScreenContentWithMatches screen rect isAlive selection found)).cells (rect.y + r) (rect.x + c) =
          shownAt screen rect isAlive selection found r c := by
  unfold drawScreenContentWithMatches
  split
  · rename_i empty
    refine ⟨fun row col _ => rfl, fun r lower c within => ?_⟩
    rw [Bool.or_eq_true, decide_eq_true_eq, decide_eq_true_eq] at empty
    omega
  · rename_i nonempty
    have positive : 0 < rect.w := by
      rw [Bool.or_eq_true, decide_eq_true_eq, decide_eq_true_eq] at nonempty
      omega
    have between (n : Nat) (le : n ≤ rect.h) : Painter.Between screen rect isAlive selection found start n
        ((List.range n).foldl (fun painter r => painter.row screen rect isAlive selection found r)
          { out := resetText ++ resetText }) := by
      induction n with
      | zero =>
          have reset : ({ out := resetText ++ resetText } : Painter).display widths start = { start with pen := {} } := by
            change start.feed widths (resetText ++ resetText ++ []) = _
            rw [List.append_nil, feed_append, feed_reset widths ground, @feed_reset widths { start with pen := {} } ground]
          rw [List.range_zero, List.foldl_nil]
          refine ⟨rfl, ?_, ?_, ?_⟩
          · rw [reset]
            exact ⟨ground, ⟨rfl, rfl, rfl⟩, fun row col _ => rfl, nofun⟩
          · rw [reset]
            rfl
          · rw [reset]
            exact fun r' _ col => rfl
      | succ n ih =>
          rw [List.range_succ, List.foldl_append]
          exact (ih (Nat.le_of_succ_le le)).row sorted followed inside unbroken le positive
    obtain ⟨flushed, painted, -, -⟩ := between rect.h (Nat.le_refl _)
    dsimp only
    generalize (List.range rect.h).foldl (fun (painter : Painter) r => painter.row screen rect isAlive selection found r)
      { out := resetText ++ resetText } = painter at flushed painted
    have ended : start.feed widths (painter.out ++ resetText ++ resetText) = { painter.display widths start with pen := {} } := by
      have written : start.feed widths painter.out = painter.display widths start := by
        rw [Painter.display, flushed, List.append_nil]
      rw [feed_append, feed_append, written, feed_reset widths painted.ground,
        @feed_reset widths { painter.display widths start with pen := {} } painted.ground]
    rw [ended]
    exact ⟨painted.beside, fun r lower c within => painted.above r lower c within⟩

end Draw

/-- Among matches that are not empty, a cell is hit if one of them covers one of its columns. -/
theorem hit_iff {found : List SearchMatch} (sorted : SearchMatch.Sorted found) (filled : ∀ m ∈ found, 0 < m.len)
    {r c columns : Nat} :
    hit found r c columns = true ↔ ∃ m ∈ found, m.row = r ∧ m.col < saturatingAdd c columns ∧ c < m.stop := by
  have going (m : SearchMatch) : (decide (m.row = r) && decide (m.stop > c)) = true ↔ m.row = r ∧ c < m.stop := by
    simp only [Bool.and_eq_true, decide_eq_true_eq, gt_iff_lt]
  induction found with
  | nil => exact iff_of_false nofun nofun
  | cons first later ih =>
      obtain ⟨before, sorted⟩ := List.pairwise_cons.mp sorted
      obtain ⟨firstFilled, filled⟩ := List.forall_mem_cons.mp filled
      by_cases decides : first.row = r ∧ c < first.stop
      · have chosen : hit (first :: later) r c columns = (decide (0 < first.len) && decide (first.col < saturatingAdd c columns)) := by
          rw [hit, List.find?_cons, (going first).mpr decides]
        rw [chosen, Bool.and_eq_true, decide_eq_true_eq, decide_eq_true_eq]
        constructor
        · rintro ⟨-, starts⟩
          exact ⟨first, List.mem_cons_self, decides.1, starts, decides.2⟩
        · rintro ⟨m, member, same, starts, -⟩
          refine ⟨firstFilled, ?_⟩
          rcases List.mem_cons.mp member with rfl | member
          · exact starts
          · rcases before m member with above | ⟨-, le⟩
            · exact absurd (decides.1.trans same.symm) (Nat.ne_of_lt above)
            · exact Nat.lt_of_le_of_lt le starts
      · have skipped : hit (first :: later) r c columns = hit later r c columns := by
          rw [hit, List.find?_cons, Bool.eq_false_iff.mpr (mt (going first).mp decides)]
          rfl
        rw [skipped]
        refine (ih sorted filled).trans ?_
        constructor
        · rintro ⟨m, member, covers⟩
          exact ⟨m, List.mem_cons_of_mem _ member, covers⟩
        · rintro ⟨m, member, same, starts, after⟩
          rcases List.mem_cons.mp member with rfl | member
          · exact absurd ⟨same, after⟩ decides
          · exact ⟨m, member, same, starts, after⟩

/-! ## A wide character and a mark -/

/-- Hangul is wide, and the combining acute accent is a mark. -/
def hangulWidths : CharWidths where
  width c :=
    if c.toNat < 128 then if 32 ≤ c.toNat ∧ c.toNat ≠ 127 then some 1 else none
    else if c = '\u0301' then some 0 else some 2
  ascii _ small := if_pos small

def hangulScreen : PaneScreen hangulWidths where
  rows := [[{ contents := ['a'] }, { contents := ['한'], wide := true }, { wideContinuation := true }, { contents := ['e', '\u0301'] }]]
  printable row member cell inside := by
    cases List.mem_singleton.mp member
    simp only [List.mem_cons, List.not_mem_nil, or_false] at inside
    rcases inside with rfl | rfl | rfl | rfl
    · exact ⟨fun _ _ same => by cases same; exact ⟨rfl, nofun⟩, nofun, nofun⟩
    · exact ⟨fun _ _ same => by cases same; exact ⟨rfl, nofun⟩, fun _ => nofun, nofun⟩
    · exact ⟨nofun, nofun, fun _ => rfl⟩
    · exact ⟨fun _ _ same => by cases same; exact ⟨rfl, List.forall_mem_singleton.mpr rfl⟩, nofun, nofun⟩
  paired row member col cell shown shadow := by
    cases List.mem_singleton.mp member
    match col with
    | 0 | 1 | 3 =>
        cases shown
        nomatch shadow
    | 2 => exact ⟨1, _, rfl, rfl, rfl⟩
    | _ + 4 => nomatch shown

theorem hangulScreen_followed : hangulScreen.Followed := by
  intro r c cell shown wide
  match r, c with
  | 0, 0 | 0, 2 | 0, 3 =>
      cases shown
      nomatch wide
  | 0, 1 => exact ⟨_, rfl, rfl⟩
  | 0, _ + 4 => nomatch shown
  | _ + 1, _ => nomatch shown

/-- A display of dots that tears. -/
def dots : Display where
  width := 6
  height := 2
  tears := true
  cells _ _ := .glyph ['.'] {}
  row := 1
  col := 0

theorem hangul_cut :
    (∀ row col, ¬Rect.Holds ⟨1, 0, 2, 1⟩ row col →
        (dots.feed hangulWidths (drawScreenContentWithMatches hangulScreen ⟨1, 0, 2, 1⟩ true none [⟨0, 0, 1⟩])).cells row col =
          .glyph ['.'] {}) ∧
      ∀ r < 1, ∀ c < 2,
        (dots.feed hangulWidths (drawScreenContentWithMatches hangulScreen ⟨1, 0, 2, 1⟩ true none [⟨0, 0, 1⟩])).cells (0 + r) (1 + c) =
          shownAt hangulScreen ⟨1, 0, 2, 1⟩ true none [⟨0, 0, 1⟩] r c :=
  drawScreenContentWithMatches_exact hangulScreen hangulScreen_followed ⟨1, 0, 2, 1⟩ true none [⟨0, 0, 1⟩]
    (List.pairwise_singleton _ _) dots rfl (by unfold Rect.OnDisplay; decide) fun _ _ _ _ _ _ => rfl

end Ezpn
