import Ezpn.Selection

/-!
# When both ways of copying agree

A drag copies a space for the second half of each wide character and a line break
for each row. A yank does neither, so the two agree where neither shows.
-/

set_option autoImplicit false

namespace Ezpn

open Trimmed (trim IsBlank)

/-! ## One row -/

namespace Row

/-- The text at a column, nothing past the end. -/
def piece (row : Row) (col : Nat) : List Char := ((row.cells[col]?).map Cell.shown).getD []

/-- The columns that a drag copies and a yank does not: second halves of wide
characters, and cells past the width of the screen. -/
def dragOnly (row : Row) (width col : Nat) : Bool :=
  match row.cells[col]? with
  | none => false
  | some cell => cell.wideContinuation || width ≤ col

/-- No text from a column to another. -/
def TextFree (row : Row) (first last : Nat) : Prop :=
  ∀ (col : Nat) (cell : Cell), first ≤ col → col ≤ last → row.cells[col]? = some cell →
    IsBlank Text.isWhitespace cell.contents

/-- No text follows a column that only a drag copies, and a wide character
that the range cuts in half is white space. -/
def Agrees (row : Row) (width first last : Nat) : Prop :=
  (∀ col, first ≤ col → col ≤ last → row.dragOnly width col = true → row.TextFree col last) ∧
    ∀ cell glyph, row.cells[first]? = some cell → cell.wideContinuation = true → row.cells[first - 1]? = some glyph →
      IsBlank Text.isWhitespace glyph.contents

theorem isBlank_shown {cell : Cell} :
    IsBlank Text.isWhitespace cell.shown ↔ IsBlank Text.isWhitespace cell.contents := by
  unfold Cell.shown
  split
  · rename_i empty
    rw [empty]
    refine iff_of_true (fun c member => ?_) Trimmed.isBlank_nil
    obtain rfl := List.mem_singleton.mp member
    decide
  · exact Iff.rfl

theorem isBlank_pieces {row : Row} {first count : Nat} :
    IsBlank Text.isWhitespace ((List.range' first count).flatMap row.piece) ↔
      ∀ (col : Nat) (cell : Cell), first ≤ col → col < first + count → row.cells[col]? = some cell →
        IsBlank Text.isWhitespace cell.contents := by
  constructor
  · intro blank col cell from_first before_last shown
    refine isBlank_shown.mp fun c member => blank c (List.mem_flatMap.mpr ⟨col, ?_, ?_⟩)
    · exact List.mem_range'_1.mpr ⟨from_first, before_last⟩
    · simpa [piece, shown] using member
  · intro free c member
    obtain ⟨col, inRange, inPiece⟩ := List.mem_flatMap.mp member
    obtain ⟨from_first, before_last⟩ := List.mem_range'_1.mp inRange
    cases shown : row.cells[col]? with
    | none => simp [piece, shown] at inPiece
    | some cell =>
        simp only [piece, shown, Option.map_some, Option.getD_some] at inPiece
        exact isBlank_shown.mpr (free col cell from_first before_last shown) c inPiece

/-- What a yank copies of the columns of a drag, leaving aside a first half before them. -/
def yanked (row : Row) (width first count : Nat) : List Char :=
  ((List.range' first count).filter fun col => !row.dragOnly width col).flatMap row.piece

theorem yanked_succ (row : Row) (width first count : Nat) :
    row.yanked width first (count + 1) =
      (if row.dragOnly width first then [] else row.piece first) ++ row.yanked width (first + 1) count := by
  rw [yanked, List.range'_succ]
  cases only : row.dragOnly width first <;> simp [only, yanked]

theorem trim_yanked_iff (row : Row) (width first count : Nat) :
    trim Text.isWhitespace ((List.range' first count).flatMap row.piece) =
        trim Text.isWhitespace (row.yanked width first count) ↔
      ∀ col, first ≤ col → col < first + count → row.dragOnly width col = true →
        ∀ (later : Nat) (cell : Cell), col ≤ later → later < first + count → row.cells[later]? = some cell →
          IsBlank Text.isWhitespace cell.contents := by
  have solid : ∀ col ∈ List.range' first count, (!row.dragOnly width col) = false → row.piece col ≠ [] := by
    intro col _ only
    cases shown : row.cells[col]? with
    | none => simp [dragOnly, shown] at only
    | some cell => simpa [piece, shown] using cell.shown_ne_nil
  rw [yanked, Trimmed.trim_filter_iff _ _ solid]
  have tail {col : Nat} (from_first : first ≤ col) (before_last : col < first + count) :
      List.range' first count = List.range' first (col - first) ++ col :: List.range' (col + 1) (first + count - (col + 1)) := by
    have whole : count = (col - first) + (1 + (first + count - (col + 1))) := by omega
    rw [whole, ← List.range'_append_1, ← List.range'_append_1, Nat.add_sub_cancel' from_first]
    have rest : first + ((col - first) + (1 + (first + count - (col + 1)))) - (col + 1) = first + count - (col + 1) := by omega
    rw [rest]
    rfl
  constructor
  · intro below col from_first before_last only later cell after last shown
    have blank := below _ col _ (tail from_first before_last) (by simp [only])
    have longer : first + count - col = (first + count - (col + 1)) + 1 := by omega
    have blankTail : IsBlank Text.isWhitespace ((List.range' col (first + count - col)).flatMap row.piece) := by
      rw [longer, List.range'_succ]
      exact blank
    exact isBlank_pieces.mp blankTail later cell after (by omega) shown
  · intro free before col after split only c member
    have sorted := List.pairwise_lt_range' (s := first) (n := count)
    rw [split] at sorted
    have later_of_mem {later : Nat} (inTail : later ∈ col :: after) : col ≤ later := by
      rcases List.mem_cons.mp inTail with rfl | inAfter
      · exact Nat.le_refl _
      · exact Nat.le_of_lt (List.rel_of_pairwise_cons (List.pairwise_append.mp sorted).2.1 inAfter)
    have bounds {later : Nat} (inTail : later ∈ col :: after) : first ≤ later ∧ later < first + count :=
      List.mem_range'_1.mp (split ▸ List.mem_append_right _ inTail)
    obtain ⟨later, inTail, inPiece⟩ := List.mem_flatMap.mp member
    have here := bounds List.mem_cons_self
    cases shown : row.cells[later]? with
    | none => simp [piece, shown] at inPiece
    | some cell =>
        simp only [piece, shown, Option.map_some, Option.getD_some] at inPiece
        exact isBlank_shown.mpr (free col here.1 here.2 (by simpa using only) later cell (later_of_mem inTail)
          (bounds inTail).2 shown) c inPiece

/-- Columns past the width add nothing to a yank. -/
theorem yanked_clip (row : Row) {width first : Nat} (count : Nat) (inside : first ≤ width) :
    row.yanked width first count = row.yanked width first (min count (width - first)) := by
  by_cases short : count ≤ width - first
  · rw [Nat.min_eq_left short]
  · rw [Nat.min_eq_right (by omega)]
    have whole : count = (width - first) + (count - (width - first)) := by omega
    have past : ((List.range' (first + (width - first)) (count - (width - first))).filter
        fun col => !row.dragOnly width col).flatMap row.piece = [] := by
      refine List.flatMap_eq_nil_iff.mpr fun col member => ?_
      obtain ⟨inRange, kept⟩ := List.mem_filter.mp member
      have wide := (List.mem_range'_1.mp inRange).1
      cases shown : row.cells[col]? with
      | none => simp [piece, shown]
      | some cell =>
          have reached : width ≤ col := by omega
          simp [dragOnly, shown, reached] at kept
    rw [yanked, whole, ← List.range'_append_1, List.filter_append, List.flatMap_append, past, List.append_nil]
    rfl

theorem yankedRow_text {screen : Grid} {r : Nat} {row : Row} (visible : screen.visibleRow r = some row)
    {first last : Nat} (inside : last < screen.width) :
    (yankedRow screen r first last).text = row.yanked screen.width first (last + 1 - first) := by
  have walk (count col : Nat) (before : YankedRow) (limit : col + count ≤ screen.width) :
      ((List.range' col count).foldl (YankedRow.column screen r) before).text =
        before.text ++ row.yanked screen.width col count := by
    induction count generalizing col before with
    | zero => simp [yanked]
    | succ count ih =>
        rw [List.range'_succ, List.foldl_cons, ih (col + 1) _ (by omega), yanked_succ]
        have there : screen.cell r col = row.cells[col]? := by simp [Grid.cell, visible]
        cases shown : row.cells[col]? with
        | none => simp [YankedRow.column, there, shown, dragOnly, piece]
        | some cell =>
            have narrow : ¬screen.width ≤ col := by omega
            cases second : cell.wideContinuation with
            | true => simp [YankedRow.column, there, shown, YankedRow.cell, second, dragOnly]
            | false =>
                by_cases empty : cell.contents = []
                · simp [YankedRow.column, there, shown, YankedRow.cell, second, empty, dragOnly, narrow, piece, Cell.shown]
                · simp [YankedRow.column, there, shown, YankedRow.cell, second, empty, dragOnly, narrow, piece, Cell.shown]
  by_cases backwards : last + 1 ≤ first
  · simp [yankedRow, yanked, Nat.sub_eq_zero_of_le backwards]
  · exact walk (last + 1 - first) first {} (by omega)

theorem draggedCells_eq {screen : Grid} {r : Nat} {row : Row} (visible : screen.visibleRow r = some row)
    (last count col : Nat) (reaches : col + count = last + 1) :
    draggedCells screen r last count col = (List.range' col count).flatMap row.piece := by
  induction count generalizing col with
  | zero => rfl
  | succ count ih =>
      have inside : ¬col > last := by omega
      rw [draggedCells, if_neg inside, List.range'_succ, List.flatMap_cons]
      cases shown : row.cells[col]? with
      | none =>
          have there : screen.cell r col = none := by simp [Grid.cell, visible, shown]
          have past : (List.range' (col + 1) count).flatMap row.piece = [] := by
            refine List.flatMap_eq_nil_iff.mpr fun later member => ?_
            have ended := List.getElem?_eq_none_iff.mp shown
            have reached := (List.mem_range'_1.mp member).1
            have none_later : row.cells[later]? = none := List.getElem?_eq_none_iff.mpr (by omega)
            simp [piece, none_later]
          simp [there, piece, shown, past]
      | some cell =>
          have there : screen.cell r col = some cell := by simp [Grid.cell, visible, shown]
          simp only [there, ih (col + 1) (by omega)]
          simp [piece, shown]

theorem draggedRow_eq {screen : Grid} {r : Nat} {row : Row} (visible : screen.visibleRow r = some row)
    {first last : Nat} (ordered : first ≤ last) :
    draggedRow screen r first last = trim Text.isWhitespace ((List.range' first (last + 1 - first)).flatMap row.piece) := by
  rw [draggedRow, draggedCells_eq visible last _ first (by omega)]
  rfl

theorem TextFree_iff {row : Row} {first last col : Nat} (ordered : first ≤ last) :
    row.TextFree col last ↔ ∀ (later : Nat) (cell : Cell), col ≤ later → later < first + (last + 1 - first) →
      row.cells[later]? = some cell → IsBlank Text.isWhitespace cell.contents := by
  have limit : first + (last + 1 - first) = last + 1 := by omega
  simp only [TextFree, limit, Nat.lt_add_one_iff]

/-- A first column that is the second half of a wide character is copied as a space
by a drag, and as the wide character by a yank. -/
theorem trim_glyph_iff {c : Char} {marks rest copied : List Char} (glyph : c ≠ ' ') :
    trim Text.isWhitespace (c :: marks ++ copied) = trim Text.isWhitespace (' ' :: rest) ↔
      IsBlank Text.isWhitespace (c :: marks ++ copied) ∧ IsBlank Text.isWhitespace (' ' :: rest) := by
  constructor
  · intro same
    cases trimmed : trim Text.isWhitespace (' ' :: rest) with
    | nil => exact ⟨Trimmed.trim_eq_nil_iff.mp (same.trans trimmed), Trimmed.trim_eq_nil_iff.mp trimmed⟩
    | cons d ds =>
        have fromDrag := Trimmed.trim_front Text.isWhitespace (' ' :: rest)
        have fromYank := Trimmed.trim_front Text.isWhitespace (c :: marks ++ copied)
        rw [trimmed] at fromDrag
        rw [same, trimmed] at fromYank
        exact absurd ((List.cons_prefix_cons.mp fromYank).1.symm.trans (List.cons_prefix_cons.mp fromDrag).1) glyph
  · rintro ⟨yankBlank, dragBlank⟩
    rw [Trimmed.trim_eq_nil_iff.mpr yankBlank, Trimmed.trim_eq_nil_iff.mpr dragBlank]

theorem trim_free_iff (row : Row) (width : Nat) {first last : Nat} (ordered : first ≤ last) :
    trim Text.isWhitespace ((List.range' first (last + 1 - first)).flatMap row.piece) =
        trim Text.isWhitespace (row.yanked width first (last + 1 - first)) ↔
      ∀ col, first ≤ col → col ≤ last → row.dragOnly width col = true → row.TextFree col last := by
  have limit : first + (last + 1 - first) = last + 1 := by omega
  rw [trim_yanked_iff]
  simp only [TextFree_iff ordered, limit, Nat.lt_add_one_iff]

theorem yankedRow_clip {screen : Grid} {r : Nat} {row : Row} (visible : screen.visibleRow r = some row)
    {first : Nat} (last : Nat) (inside : first < screen.width) :
    (yankedRow screen r first (min last (screen.width - 1))).text = row.yanked screen.width first (last + 1 - first) := by
  have counts : min (last + 1 - first) (screen.width - first) = min last (screen.width - 1) + 1 - first := by omega
  rw [yankedRow_text visible (by omega), row.yanked_clip (last + 1 - first) (Nat.le_of_lt inside), counts]

/-- The two ways of copying from the second half of a wide character. -/
theorem agrees_cut {screen : Grid} {r : Nat} {row : Row} (visible : screen.visibleRow r = some row) {left last : Nat}
    (ordered : left + 1 ≤ last) (inside : left + 1 < screen.width) {glyph cell : Cell}
    (shownGlyph : row.cells[left]? = some glyph) (wide : glyph.wide = true) (shown : row.cells[left + 1]? = some cell)
    (second : cell.wideContinuation = true) :
    Text.trimEnd (yankedRow screen r left (min last (screen.width - 1))).text = draggedRow screen r (left + 1) last ↔
      row.Agrees screen.width (left + 1) last := by
  have formed := Grid.visibleRow_formed visible
  have glyphFormed := formed.cells glyph (List.mem_of_getElem? shownGlyph)
  obtain ⟨c, marks, contents, dark⟩ := glyphFormed.glyph wide
  have emptySecond := ((formed.cells cell (List.mem_of_getElem? shown)).shadow second).1
  have glyphKept : row.dragOnly screen.width left = false := by
    have notSecond : glyph.wideContinuation = false := by
      by_contra isSecond
      have narrow := (glyphFormed.shadow (by simpa using isSecond)).2
      simp [wide] at narrow
    have narrow : ¬screen.width ≤ left := by omega
    simp [dragOnly, shownGlyph, notSecond, narrow]
  have text : (yankedRow screen r left (min last (screen.width - 1))).text =
      c :: marks ++ row.yanked screen.width (left + 1) (last + 1 - (left + 1)) := by
    have longer : last + 1 - left = (last + 1 - (left + 1)) + 1 := by omega
    rw [yankedRow_clip visible last (Nat.lt_of_succ_lt inside), longer, yanked_succ, glyphKept]
    simp [piece, shownGlyph, Cell.shown, contents]
  have dragged : (List.range' (left + 1) (last + 1 - (left + 1))).flatMap row.piece =
      ' ' :: (List.range' (left + 2) (last - (left + 1))).flatMap row.piece := by
    have longer : last + 1 - (left + 1) = (last - (left + 1)) + 1 := by omega
    rw [longer, List.range'_succ, List.flatMap_cons]
    simp [piece, shown, Cell.shown, emptySecond]
  have cutOnly : row.dragOnly screen.width (left + 1) = true := by simp [dragOnly, shown, second]
  have wholes := row.trim_free_iff screen.width ordered
  rw [draggedRow_eq visible ordered, text, dragged, Text.trimEnd, trim_glyph_iff dark, ← dragged]
  constructor
  · rintro ⟨yankBlank, dragBlank⟩
    obtain ⟨glyphBlank, restBlank⟩ := IsBlank.append.mp yankBlank
    refine ⟨wholes.mp ?_, fun _ other _ _ shownOther => ?_⟩
    · rw [Trimmed.trim_eq_nil_iff.mpr dragBlank, Trimmed.trim_eq_nil_iff.mpr restBlank]
    · rw [Nat.add_sub_cancel, shownGlyph] at shownOther
      obtain rfl := Option.some.inj shownOther
      rwa [contents]
  · rintro ⟨free, glyphBlank⟩
    have dragBlank : IsBlank Text.isWhitespace ((List.range' (left + 1) (last + 1 - (left + 1))).flatMap row.piece) :=
      isBlank_pieces.mpr ((TextFree_iff ordered).mp (free (left + 1) (Nat.le_refl _) ordered cutOnly))
    have same := wholes.mpr free
    rw [Trimmed.trim_eq_nil_iff.mpr dragBlank] at same
    have firstHalf := glyphBlank cell glyph shown second shownGlyph
    rw [contents] at firstHalf
    exact ⟨IsBlank.append.mpr ⟨firstHalf, Trimmed.trim_eq_nil_iff.mp same.symm⟩, dragBlank⟩

/-- Both ways of copying agree on a row exactly if nothing that only a drag copies shows. -/
theorem agrees_iff {screen : Grid} {r : Nat} {row : Row} (visible : screen.visibleRow r = some row)
    {first last : Nat} (ordered : first ≤ last) (inside : first < screen.width) :
    Text.trimEnd (yankedRow screen r (wholeStart screen r first) (min last (screen.width - 1))).text =
        draggedRow screen r first last ↔ row.Agrees screen.width first last := by
  have there (col : Nat) : screen.cell r col = row.cells[col]? := by simp [Grid.cell, visible]
  by_cases cut : ∃ cell, row.cells[first]? = some cell ∧ cell.wideContinuation = true
  · obtain ⟨cell, shown, second⟩ := cut
    obtain ⟨left, glyph, rfl, shownGlyph, wide⟩ := (Grid.visibleRow_formed visible).paired first cell shown second
    have whole : wholeStart screen r (left + 1) = left := by
      simp [wholeStart, isContinuation, there, shown, second]
    rw [whole]
    exact agrees_cut visible ordered inside shownGlyph wide shown second
  · have whole : wholeStart screen r first = first := by
      have notCut : isContinuation screen r first = false := by
        unfold isContinuation
        rw [there]
        cases shown : row.cells[first]? with
        | none => rfl
        | some cell =>
            by_contra second
            exact cut ⟨cell, shown, by simpa using second⟩
      simp [wholeStart, notCut]
    rw [draggedRow_eq visible ordered, whole, yankedRow_clip visible last inside, Text.trimEnd, eq_comm,
      row.trim_free_iff screen.width ordered]
    exact ⟨fun free => ⟨free, fun cell _ shown second => absurd ⟨cell, shown, second⟩ cut⟩, fun agrees => agrees.1⟩

end Row

/-! ## Rows together -/

/-- Texts of consecutive rows, with a line break after each but the last and the soft-wrapped ones. -/
def joined (text : Nat → List Char) (soft : Nat → Bool) (first last : Nat) : List Char :=
  (List.range' first (last + 1 - first)).flatMap fun r =>
    if r < last && soft r then text r else if r < last then text r ++ ['\n'] else text r

theorem joined_last (text : Nat → List Char) (soft : Nat → Bool) (last : Nat) : joined text soft last last = text last := by
  simp [joined]

theorem joined_succ (text : Nat → List Char) (soft : Nat → Bool) {first last : Nat} (before : first < last) :
    joined text soft first last =
      text first ++ ((if soft first then [] else ['\n']) ++ joined text soft (first + 1) last) := by
  have longer : last + 1 - first = (last + 1 - (first + 1)) + 1 := by omega
  rw [joined, longer, List.range'_succ, List.flatMap_cons]
  cases wrapped : soft first <;> simp [before, joined]

theorem count_joined (text : Nat → List Char) (soft : Nat → Bool) {first last : Nat} (ordered : first ≤ last)
    (unbroken : ∀ r, first ≤ r → r ≤ last → '\n' ∉ text r) :
    (joined text soft first last).count '\n' ≤ last - first ∧
      ((∀ r, soft r = false) → (joined text soft first last).count '\n' = last - first) := by
  induction gap : last - first generalizing first with
  | zero =>
      obtain rfl : first = last := by omega
      have none_here := List.count_eq_zero_of_not_mem (unbroken first (Nat.le_refl _) (Nat.le_refl _))
      rw [joined_last, none_here]
      exact ⟨Nat.le_refl _, fun _ => rfl⟩
  | succ gap ih =>
      have before : first < last := by omega
      have none_here := List.count_eq_zero_of_not_mem (unbroken first (Nat.le_refl _) ordered)
      obtain ⟨few, all⟩ := ih (show first + 1 ≤ last from before) (fun r after => unbroken r (by omega)) (by omega)
      rw [joined_succ text soft before, List.count_append, List.count_append, none_here]
      constructor
      · have one : (if soft first then ([] : List Char) else ['\n']).count '\n' ≤ 1 := by
          split <;> simp
        omega
      · intro hard
        rw [all hard, hard first]
        simp
        omega

/-- A text before a first line break is determined. -/
theorem append_break_iff {a b x y : List Char} (unbrokenA : '\n' ∉ a) (unbrokenB : '\n' ∉ b) :
    a ++ '\n' :: x = b ++ '\n' :: y ↔ a = b ∧ x = y := by
  induction a generalizing b with
  | nil =>
      cases b with
      | nil => simp
      | cons d b =>
          refine iff_of_false (fun same => unbrokenB ?_) fun same => nomatch same.1
          exact (List.cons.inj same).1 ▸ List.mem_cons_self
  | cons c a ih =>
      cases b with
      | nil =>
          refine iff_of_false (fun same => unbrokenA ?_) fun same => nomatch same.1
          exact (List.cons.inj same).1 ▸ List.mem_cons_self
      | cons d b =>
          rw [List.cons_append, List.cons_append, List.cons.injEq, List.cons.injEq,
            ih (fun member => unbrokenA (List.mem_cons_of_mem c member))
              (fun member => unbrokenB (List.mem_cons_of_mem d member)), and_assoc]

theorem joined_iff {dragged yanked : Nat → List Char} {soft : Nat → Bool} {first last : Nat} (ordered : first ≤ last)
    (unbrokenDragged : ∀ r, first ≤ r → r ≤ last → '\n' ∉ dragged r)
    (unbrokenYanked : ∀ r, first ≤ r → r ≤ last → '\n' ∉ yanked r) :
    joined yanked soft first last = joined dragged (fun _ => false) first last ↔
      (∀ r, first ≤ r → r < last → soft r = false) ∧ ∀ r, first ≤ r → r ≤ last → yanked r = dragged r := by
  induction gap : last - first generalizing first with
  | zero =>
      obtain rfl : first = last := by omega
      rw [joined_last, joined_last]
      constructor
      · intro same
        refine ⟨fun r from_first before => by omega, fun r from_first to_last => ?_⟩
        obtain rfl : r = first := by omega
        exact same
      · intro agree
        exact agree.2 first (Nat.le_refl _) (Nat.le_refl _)
  | succ gap ih =>
      have before : first < last := by omega
      have ih := ih (show first + 1 ≤ last from before) (fun r after => unbrokenDragged r (by omega))
        (fun r after => unbrokenYanked r (by omega)) (by omega)
      have breaksDragged := (count_joined dragged (fun _ => false) ordered unbrokenDragged).2 fun _ => rfl
      rw [joined_succ yanked soft before]
      cases wrapped : soft first with
      | true =>
          refine iff_of_false (fun same => ?_) fun agree => ?_
          · have breaks := congrArg (List.count '\n') same
            have none_here := List.count_eq_zero_of_not_mem (unbrokenYanked first (Nat.le_refl _) ordered)
            have few := (count_joined yanked soft (show first + 1 ≤ last from before)
              fun r after => unbrokenYanked r (by omega)).1
            rw [breaksDragged, List.count_append, if_pos rfl, List.nil_append, none_here] at breaks
            omega
          · exact absurd (agree.1 first (Nat.le_refl _) before) (by simp [wrapped])
      | false =>
          rw [joined_succ dragged (fun _ => false) before]
          simp only [Bool.false_eq_true, if_false, List.singleton_append]
          rw [append_break_iff (unbrokenYanked first (Nat.le_refl _) ordered)
            (unbrokenDragged first (Nat.le_refl _) ordered), ih]
          constructor
          · rintro ⟨here, hard, below⟩
            refine ⟨fun r from_first to_last => ?_, fun r from_first to_last => ?_⟩
            · rcases Nat.eq_or_lt_of_le from_first with rfl | later
              · exact wrapped
              · exact hard r later to_last
            · rcases Nat.eq_or_lt_of_le from_first with rfl | later
              · exact here
              · exact below r later to_last
          · rintro ⟨hard, agree⟩
            exact ⟨agree first (Nat.le_refl _) ordered, fun r after => hard r (by omega),
              fun r after => agree r (by omega)⟩

theorem unbroken_pieces {row : Row} (formed : row.Formed) (cols : List Nat) : '\n' ∉ cols.flatMap row.piece := by
  intro member
  obtain ⟨col, _, inPiece⟩ := List.mem_flatMap.mp member
  cases shown : row.cells[col]? with
  | none => simp [Row.piece, shown] at inPiece
  | some cell =>
      simp only [Row.piece, shown, Option.map_some, Option.getD_some] at inPiece
      unfold Cell.shown at inPiece
      split at inPiece
      · simp at inPiece
      · exact (formed.cells cell (List.mem_of_getElem? shown)).unbroken inPiece

theorem draggedRow_none {screen : Grid} {r : Nat} (hidden : screen.visibleRow r = none) (first last : Nat) :
    draggedRow screen r first last = [] := by
  have there : screen.cell r first = none := by simp [Grid.cell, hidden]
  cases count : last + 1 - first with
  | zero =>
      rw [draggedRow, count]
      rfl
  | succ count' =>
      have inside : ¬first > last := by omega
      rw [draggedRow, count, draggedCells, if_neg inside]
      simp only [there]
      rfl

theorem unbroken_dragged (screen : Grid) (r : Nat) {first last : Nat} (ordered : first ≤ last) :
    '\n' ∉ draggedRow screen r first last := by
  cases visible : screen.visibleRow r with
  | none =>
      rw [draggedRow_none visible]
      exact List.not_mem_nil
  | some row =>
      intro member
      rw [Row.draggedRow_eq visible ordered] at member
      exact unbroken_pieces (Grid.visibleRow_formed visible) _ ((Trimmed.trim_front _ _).subset member)

theorem unbroken_yanked {screen : Grid} {r : Nat} {row : Row} (visible : screen.visibleRow r = some row)
    (first : Nat) {last : Nat} (inside : last < screen.width) : '\n' ∉ (yankedRow screen r first last).text := by
  rw [Row.yankedRow_text visible inside]
  exact unbroken_pieces (Grid.visibleRow_formed visible) _

/-! ## Agreement -/

/-- The condition on a screen and a range in reading order: the range is on the screen with no
soft-wrapped row before its last, and the copies of each row agree; or else it is blank. -/
def CopiesAgree (screen : Grid) (sr sc er ec : Nat) : Prop :=
  if screen.height ≤ sr ∨ screen.width ≤ sc then
    sr = er ∧ ∀ row, screen.visibleRow sr = some row → row.TextFree sc ec
  else
    er < screen.height ∧ (∀ r, sr ≤ r → r < er → screen.rowWrapped r = false) ∧
      ∀ r row, sr ≤ r → r ≤ er → screen.visibleRow r = some row →
        row.Agrees screen.width (if r = sr then sc else 0) (if r = er then ec else u16Max)

theorem normalize_ordered {row col row' col' sr sc er ec : Nat} (range : normalize row col row' col' = (sr, sc, er, ec)) :
    sr ≤ er ∧ (sr = er → sc ≤ ec) := by
  unfold normalize at range
  split at range
  · simp only [Prod.mk.injEq] at range
    omega
  · simp only [Prod.mk.injEq] at range
    omega

/-- The two extractors on a range in reading order. -/
def yankText (screen : Grid) (sr sc er ec : Nat) : List Char :=
  if sr ≥ screen.height ∨ sc ≥ screen.width ∨ screen.width = 0 then []
  else
    let er := min er (screen.height - 1)
    joined (fun r =>
      let row := yankedRow screen r (wholeStart screen r (if r = sr then sc else 0))
        (if r = er then min ec (screen.width - 1) else screen.width - 1)
      if r < er && screen.rowWrapped r then row.text.take row.contentEnd else Text.trimEnd row.text)
      screen.rowWrapped sr er

def dragText (screen : Grid) (sr sc er ec : Nat) : List Char :=
  joined (fun r => draggedRow screen r (if r = sr then sc else 0) (if r = er then ec else u16Max)) (fun _ => false) sr er

theorem extractSelectedText_eq (screen : Grid) (startRow startCol endRow endCol : Nat) :
    extractSelectedText screen startRow startCol endRow endCol =
      let (sr, sc, er, ec) := normalize startRow startCol endRow endCol
      dragText screen sr sc er ec := by
  simp [extractSelectedText, dragText, joined]

theorem extractSelection_eq {state : CopyModeState} {screen : Grid} {anchorRow anchorCol : Nat}
    (visual : state.phase = .visualChar anchorRow anchorCol) (rows : state.paneRows = screen.height)
    (cols : state.paneCols = screen.width) :
    (extractSelection state screen).getD [] =
      let (sr, sc, er, ec) := normalize anchorRow anchorCol state.cursorRow state.cursorCol
      yankText screen sr sc er ec := by
  have height := screen.height_pos
  have width := screen.width_pos
  have sized : ¬(state.paneRows = 0 ∨ state.paneCols = 0) := by omega
  have linewise : state.linewise = false := by simp [CopyModeState.linewise, visual]
  simp only [extractSelection, CopyModeState.selection, if_neg sized, visual, linewise]
  obtain ⟨sr, sc, er, ec⟩ := normalize anchorRow anchorCol state.cursorRow state.cursorCol
  simp only [yankText]
  split
  · rfl
  · have getD_ite (text : List Char) : (if text = [] then none else some text).getD [] = text := by
      split
      · rename_i empty
        rw [empty]
        rfl
      · rfl
    rw [getD_ite, joined]
    refine congrArg (fun row => (List.range' sr (min er (screen.height - 1) + 1 - sr)).flatMap row) (funext fun r => ?_)
    cases wrapped : screen.rowWrapped r <;> by_cases before : r < min er (screen.height - 1) <;> simp [before]

/-- The text of a row in a yank. -/
def yankTextRow (screen : Grid) (sr sc er ec r : Nat) : List Char :=
  let row := yankedRow screen r (wholeStart screen r (if r = sr then sc else 0))
    (if r = er then min ec (screen.width - 1) else screen.width - 1)
  if r < er && screen.rowWrapped r then row.text.take row.contentEnd else Text.trimEnd row.text

theorem unbroken_yankTextRow {screen : Grid} {r : Nat} (visible : r < screen.height) (sr sc er ec : Nat) :
    '\n' ∉ yankTextRow screen sr sc er ec r := by
  have width := screen.width_pos
  cases shown : screen.visibleRow r with
  | none => exact absurd (Grid.visibleRow_none_iff.mp shown) (by omega)
  | some row =>
      have inside : (if r = er then min ec (screen.width - 1) else screen.width - 1) < screen.width := by
        split <;> omega
      have unbroken := unbroken_yanked shown (wholeStart screen r (if r = sr then sc else 0)) inside
      intro member
      unfold yankTextRow at member
      dsimp only at member
      split at member
      · exact unbroken (List.mem_of_mem_take member)
      · exact unbroken ((Trimmed.trim_front _ _).subset member)

/-- A range that starts outside the screen is not yanked at all. -/
theorem dragText_outside_iff {screen : Grid} {sr sc er ec : Nat} (ordered : sr ≤ er) (ordered_cols : sr = er → sc ≤ ec) :
    dragText screen sr sc er ec = [] ↔ sr = er ∧ ∀ row, screen.visibleRow sr = some row → row.TextFree sc ec := by
  rcases Nat.eq_or_lt_of_le ordered with rfl | before
  · rw [dragText, joined_last, if_pos rfl, if_pos rfl]
    cases visible : screen.visibleRow sr with
    | none => exact iff_of_true (draggedRow_none visible _ _) ⟨rfl, fun row shown => nomatch shown⟩
    | some row =>
        rw [Row.draggedRow_eq visible (ordered_cols rfl), Trimmed.trim_eq_nil_iff, Row.isBlank_pieces,
          ← Row.TextFree_iff (ordered_cols rfl)]
        constructor
        · rintro free
          refine ⟨rfl, fun other shown => ?_⟩
          obtain rfl := Option.some.inj shown
          exact free
        · rintro ⟨-, free⟩
          exact free row rfl
  · rw [dragText, joined_succ _ _ before]
    refine iff_of_false (fun empty => ?_) fun same => Nat.ne_of_lt before same.1
    simp at empty

/-- A drag and a yank of a range in reading order copy the same exactly under the condition. -/
theorem copies_agree_ordered {screen : Grid} {sr sc er ec : Nat} (ordered : sr ≤ er) (ordered_cols : sr = er → sc ≤ ec) :
    yankText screen sr sc er ec = dragText screen sr sc er ec ↔ CopiesAgree screen sr sc er ec := by
  have fits := screen.representable.2
  have height := screen.height_pos
  unfold CopiesAgree
  by_cases outside : screen.height ≤ sr ∨ screen.width ≤ sc
  · rw [if_pos outside, yankText, if_pos (by omega), eq_comm]
    exact dragText_outside_iff ordered ordered_cols
  · have ordered_row (r : Nat) : (if r = sr then sc else 0) ≤ if r = er then ec else u16Max := by
      split <;> split <;> omega
    have unbrokenDragged (r : Nat) (_ : sr ≤ r) (_ : r ≤ er) :=
      unbroken_dragged screen r (ordered_row r)
    have text : yankText screen sr sc er ec =
        joined (yankTextRow screen sr sc (min er (screen.height - 1)) ec) screen.rowWrapped sr (min er (screen.height - 1)) := by
      rw [yankText, if_neg (by omega)]
      rfl
    rw [if_neg outside, text]
    by_cases tall : er < screen.height
    · rw [Nat.min_eq_left (by omega), dragText,
        joined_iff ordered unbrokenDragged fun r _ to_last => unbroken_yankTextRow (by omega) sr sc er ec]
      refine Iff.trans (and_congr_right fun hard => ?_) (and_iff_right tall).symm
      have row_iff (r : Nat) (from_first : sr ≤ r) (to_last : r ≤ er) {row : Row} (visible : screen.visibleRow r = some row) :
          yankTextRow screen sr sc er ec r =
              draggedRow screen r (if r = sr then sc else 0) (if r = er then ec else u16Max) ↔
            row.Agrees screen.width (if r = sr then sc else 0) (if r = er then ec else u16Max) := by
        have inside : (if r = sr then sc else 0) < screen.width := by
          split <;> omega
        have clipped : (if r = er then min ec (screen.width - 1) else screen.width - 1) =
            min (if r = er then ec else u16Max) (screen.width - 1) := by
          split <;> omega
        have unwrapped : ¬(r < er && screen.rowWrapped r) = true := by
          intro wrapped
          simp only [Bool.and_eq_true, decide_eq_true_eq] at wrapped
          exact absurd wrapped.2 (by simp [hard r from_first wrapped.1])
        rw [← Row.agrees_iff visible (ordered_row r) inside, yankTextRow, clipped]
        simp only [if_neg unwrapped]
      constructor
      · intro same r row from_first to_last visible
        exact (row_iff r from_first to_last visible).mp (same r from_first to_last)
      · intro agree r from_first to_last
        cases visible : screen.visibleRow r with
        | none => exact absurd (Grid.visibleRow_none_iff.mp visible) (by omega)
        | some row => exact (row_iff r from_first to_last visible).mpr (agree r row from_first to_last visible)
    · refine iff_of_false (fun same => ?_) fun agree => tall agree.1
      have few := (count_joined (yankTextRow screen sr sc (min er (screen.height - 1)) ec) screen.rowWrapped
        (show sr ≤ min er (screen.height - 1) by omega)
        fun r _ to_last => unbroken_yankTextRow (by omega) sr sc _ ec).1
      have all := (count_joined _ (fun _ => false) ordered unbrokenDragged).2 fun _ => rfl
      rw [same, dragText, all] at few
      omega

/-- Both ways of copying agree exactly if nothing that only one of them copies shows. -/
theorem copies_agree_iff {state : CopyModeState} {screen : Grid} {anchorRow anchorCol sr sc er ec : Nat}
    (visual : state.phase = .visualChar anchorRow anchorCol) (rows : state.paneRows = screen.height)
    (cols : state.paneCols = screen.width)
    (range : normalize anchorRow anchorCol state.cursorRow state.cursorCol = (sr, sc, er, ec)) :
    (extractSelection state screen).getD [] =
        extractSelectedText screen anchorRow anchorCol state.cursorRow state.cursorCol ↔
      CopiesAgree screen sr sc er ec := by
  have ordered := normalize_ordered range
  rw [extractSelection_eq visual rows cols, extractSelectedText_eq, range]
  exact copies_agree_ordered ordered.1 ordered.2

/-- Rows of narrow cells no wider than the screen are copied alike. -/
theorem Row.agrees_of_narrow {row : Row} (narrow : ∀ cell ∈ row.cells, cell.Narrow) {width : Nat}
    (fits : row.cells.length ≤ width) (first last : Nat) : row.Agrees width first last := by
  constructor
  · intro col _ _ only
    cases shown : row.cells[col]? with
    | none => simp [dragOnly, shown] at only
    | some cell =>
        have inside := (List.getElem?_eq_some_iff.mp shown).1
        have apart : ¬width ≤ col := by omega
        simp [dragOnly, shown, (narrow cell (List.mem_of_getElem? shown)).2.2, apart] at only
  · intro cell glyph shown second
    exact absurd (narrow cell (List.mem_of_getElem? shown)).2.2 (by simp [second])

/-- A row of narrow letters. -/
def lettersRow (letters : List Char) (wrapped : Bool) : Row :=
  { cells := letters.map fun c => { contents := [c] }, wrapped }

/-- Two rows, of which the first may continue on the second. -/
def twoLines (wrapped : Bool) : Grid :=
  .narrow 2 [lettersRow ['a', 'b'] wrapped, lettersRow ['c', 'd'] false] [] (by simp) (by simp [u16Max]) (by decide)
    (by cases wrapped <;> decide)

/-- Copy mode with all of such a screen selected. -/
def allSelected : CopyModeState :=
  { phase := .visualChar 0 0, cursorRow := 1, cursorCol := 1, paneRows := 2, paneCols := 2 }

theorem twoLines_agree :
    (extractSelection allSelected (twoLines false)).getD [] = extractSelectedText (twoLines false) 0 0 1 1 := by
  have range : normalize 0 0 1 1 = (0, 0, 1, 1) := rfl
  refine (copies_agree_iff rfl rfl rfl range).mpr ?_
  rw [CopiesAgree, if_neg (by decide)]
  refine ⟨by decide, fun r _ before => ?_, fun r row _ _ shown => ?_⟩
  · obtain rfl : r = 0 := by omega
    decide
  · have member : row ∈ (twoLines false).visibleRows := List.mem_of_getElem? shown
    have narrow : ∀ row ∈ (twoLines false).visibleRows, (∀ cell ∈ row.cells, cell.Narrow) ∧ row.cells.length ≤ 2 := by
      decide
    exact Row.agrees_of_narrow (narrow row member).1 (narrow row member).2 _ _

/-- A soft-wrapped line is copied as one line by a yank, and in two by a drag. -/
theorem wrapped_disagree :
    extractSelection allSelected (twoLines true) = some ['a', 'b', 'c', 'd'] ∧
      extractSelectedText (twoLines true) 0 0 1 1 = ['a', 'b', '\n', 'c', 'd'] := by
  decide +kernel

end Ezpn
