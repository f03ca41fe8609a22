import Mathlib.Data.List.TakeWhile
import Ezpn.Screen.Content

/-!
# Painting a rectangle

The sequences as a display takes them, the match that decides about a cell, and cells
painted from the left: up to the frontier the rectangle shows what it should, and
nothing has changed beside it.
-/

set_option autoImplicit false

namespace Ezpn

open Display

/-! ## Sequences -/

section Sequences
variable (widths : CharWidths) {display : Display} (ground : display.mode = .ground)
include ground

theorem feed_pen (params : List Nat) (last : Nat) :
    display.feed widths (csiText (params ++ [last]) 'm') = { display with pen := attributes (params ++ [last]) display.pen } :=
  feed_csi widths ground params last (.inr rfl)

theorem feed_reset : display.feed widths resetText = { display with pen := {} } := feed_pen widths ground [] 0

theorem feed_moveTo {x y : Nat} (inside : x < display.width ∧ y < display.height) :
    display.feed widths (moveToText x y) = { display with row := y, col := x } := by
  have moved := @feed_csi widths display ground [y + 1] (x + 1) 'H' (.inl rfl)
  refine moved.trans ?_
  change ({ display with row := min y (display.height - 1), col := min x (display.width - 1) } : Display) = _
  rw [Nat.min_eq_left (by omega), Nat.min_eq_left (by omega)]

theorem feed_foreground (color : Color) :
    display.feed widths (writePaneColor color true) = { display with pen := { display.pen with fg := color } } := by
  cases color with
  | default => exact feed_pen widths ground [] 39
  | idx i =>
      refine (feed_pen widths ground [38, 5] i.toNat).trans ?_
      change ({ display with pen := { display.pen with fg := .idx (UInt8.ofNat i.toNat) } } : Display) = _
      rw [UInt8.ofNat_toNat]
  | rgb r g b =>
      refine (feed_pen widths ground [38, 2, r.toNat, g.toNat] b.toNat).trans ?_
      change ({ display with pen := { display.pen with
        fg := .rgb (UInt8.ofNat r.toNat) (UInt8.ofNat g.toNat) (UInt8.ofNat b.toNat) } } : Display) = _
      rw [UInt8.ofNat_toNat, UInt8.ofNat_toNat, UInt8.ofNat_toNat]

theorem feed_background (color : Color) :
    display.feed widths (writePaneColor color false) = { display with pen := { display.pen with bg := color } } := by
  cases color with
  | default => exact feed_pen widths ground [] 49
  | idx i =>
      refine (feed_pen widths ground [48, 5] i.toNat).trans ?_
      change ({ display with pen := { display.pen with bg := .idx (UInt8.ofNat i.toNat) } } : Display) = _
      rw [UInt8.ofNat_toNat]
  | rgb r g b =>
      refine (feed_pen widths ground [48, 2, r.toNat, g.toNat] b.toNat).trans ?_
      change ({ display with pen := { display.pen with
        bg := .rgb (UInt8.ofNat r.toNat) (UInt8.ofNat g.toNat) (UInt8.ofNat b.toNat) } } : Display) = _
      rw [UInt8.ofNat_toNat, UInt8.ofNat_toNat, UInt8.ofNat_toNat]

theorem feed_codes (codes : List Nat) :
    display.feed widths (codes.flatMap fun code => csiText [code] 'm') =
      { display with pen := codes.foldl (fun pen code => plainCode code pen) display.pen } := by
  induction codes generalizing display with
  | nil => rfl
  | cons code codes ih =>
      have one : attributes [code] display.pen = plainCode code display.pen := by
        rw [attributes, attributes]
        all_goals exact nofun
      rw [List.flatMap_cons, feed_append]
      have first := feed_pen widths ground [] code
      rw [List.nil_append, one] at first
      rw [first, @ih { display with pen := plainCode code display.pen } ground]
      rfl

/-- After the text of a style the pen is that style, whatever it was. -/
theorem feed_style (style : Pen) : display.feed widths (styleText style) = { display with pen := style } := by
  have set : (attributeCodes style).foldl (fun pen code => plainCode code pen) { fg := style.fg, bg := style.bg } = style := by
    obtain ⟨fg, bg, bold, italic, underline, reverse, dim⟩ := style
    cases bold <;> cases italic <;> cases underline <;> cases reverse <;> cases dim <;> rfl
  unfold styleText
  rw [feed_append, feed_append, feed_append, feed_reset widths ground]
  rw [@feed_foreground widths { display with pen := {} } ground,
    @feed_background widths { display with pen := { fg := style.fg } } ground,
    @feed_codes widths { display with pen := { fg := style.fg, bg := style.bg } } ground]
  exact congrArg (fun pen => { display with pen }) set

end Sequences

/-! ## Matches -/

section Matches
variable {found : List SearchMatch} {r c index : Nat}

/-- The matches before an index are over, and no later one is in a row above. -/
def MatchesPassed (found : List SearchMatch) (r c index : Nat) : Prop :=
  (∀ m ∈ found.take index, m.row < r ∨ (m.row = r ∧ m.stop ≤ c)) ∧ ∀ m ∈ found.drop index, r ≤ m.row

theorem MatchesPassed.mono {c' : Nat} (passed : MatchesPassed found r c index) (le : c ≤ c') : MatchesPassed found r c' index :=
  ⟨fun m member => (passed.1 m member).imp_right fun ended => ⟨ended.1, ended.2.trans le⟩, passed.2⟩

theorem take_length_takeWhile {α : Type} (p : α → Bool) (xs : List α) : xs.take (xs.takeWhile p).length = xs.takeWhile p :=
  (List.prefix_iff_eq_take.mp (List.takeWhile_prefix p)).symm

theorem drop_length_takeWhile {α : Type} (p : α → Bool) (xs : List α) : xs.drop (xs.takeWhile p).length = xs.dropWhile p := by
  induction xs with
  | nil => rfl
  | cons x xs ih =>
      cases here : p x with
      | true =>
          rw [List.takeWhile_cons_of_pos here, List.dropWhile_cons_of_pos here]
          exact ih
      | false =>
          have stop : ¬p x = true := Bool.eq_false_iff.mp here
          rw [List.takeWhile_cons_of_neg stop, List.dropWhile_cons_of_neg stop]
          rfl

theorem SearchMatch.Sorted.rows {m : SearchMatch} {later : List SearchMatch} (sorted : Sorted (m :: later)) :
    ∀ m' ∈ later, m.row ≤ m'.row := by
  intro m' member
  rcases (List.pairwise_cons.mp sorted).1 m' member with below | ⟨same, -⟩
  · exact Nat.le_of_lt below
  · exact Nat.le_of_eq same

theorem MatchesPassed.start (sorted : SearchMatch.Sorted found) : MatchesPassed found r c (partitionPoint found r) := by
  refine ⟨fun m member => ?_, fun m member => ?_⟩
  · rw [partitionPoint, take_length_takeWhile] at member
    have above := List.mem_takeWhile_imp member
    exact .inl (of_decide_eq_true above)
  · rw [partitionPoint, drop_length_takeWhile] at member
    induction found with
    | nil => nomatch member
    | cons first later ih =>
        rw [List.dropWhile_cons] at member
        by_cases above : first.row < r
        · rw [if_pos (decide_eq_true above)] at member
          exact ih (List.pairwise_cons.mp sorted).2 member
        · rw [if_neg (mt of_decide_eq_true above)] at member
          rcases List.mem_cons.mp member with rfl | after
          · exact Nat.not_lt.mp above
          · exact (Nat.not_lt.mp above).trans (sorted.rows m after)

/-- Skipping leads to the match that decides. -/
theorem MatchesPassed.skip (sorted : SearchMatch.Sorted found) (passed : MatchesPassed found r c index) (columns : Nat) :
    MatchesPassed found r c (skipMatches found r c index) ∧
      (found[skipMatches found r c index]?.map (matchHit r c columns)).getD false = hit found r c columns := by
  have rest : found.drop (skipMatches found r c index) =
      (found.drop index).dropWhile (fun m => decide (m.row = r) && decide (m.stop ≤ c)) := by
    rw [skipMatches, ← List.drop_drop, drop_length_takeWhile]
  have front : ∀ m ∈ found.take (skipMatches found r c index), m.row < r ∨ (m.row = r ∧ m.stop ≤ c) := by
    intro m member
    rw [skipMatches, List.take_add, take_length_takeWhile] at member
    rcases List.mem_append.mp member with early | skipped
    · exact passed.1 m early
    · have ended := List.mem_takeWhile_imp skipped
      simp only [Bool.and_eq_true, decide_eq_true_eq] at ended
      exact .inr ended
  have back : ∀ m ∈ found.drop (skipMatches found r c index), r ≤ m.row := by
    intro m member
    rw [rest] at member
    exact passed.2 m ((List.dropWhile_suffix _).subset member)
  refine ⟨⟨front, back⟩, ?_⟩
  have decides : found.find? (fun m => decide (m.row = r) && decide (m.stop > c)) =
      (found.drop (skipMatches found r c index)).find? fun m => decide (m.row = r) && decide (m.stop > c) := by
    conv_lhs => rw [← List.take_append_drop (skipMatches found r c index) found, List.find?_append]
    have none : (found.take (skipMatches found r c index)).find? (fun m => decide (m.row = r) && decide (m.stop > c)) = none := by
      refine List.find?_eq_none.mpr fun m member => ?_
      simp only [Bool.and_eq_true, decide_eq_true_eq]
      rintro ⟨same, after⟩
      rcases front m member with above | ⟨-, ended⟩ <;> omega
    rw [none]
    rfl
  have later : SearchMatch.Sorted (found.drop (skipMatches found r c index)) := sorted.sublist (List.drop_sublist _ _)
  rw [hit, decides, ← List.head?_drop]
  cases shape : found.drop (skipMatches found r c index) with
  | nil => rfl
  | cons m more =>
      rw [shape] at later back rest
      have going : ¬(decide (m.row = r) && decide (m.stop ≤ c)) = true := by
        have first := List.head?_dropWhile_not (fun m : SearchMatch => decide (m.row = r) && decide (m.stop ≤ c)) (found.drop index)
        rw [← rest] at first
        exact Bool.eq_false_iff.mp first
      by_cases same : m.row = r
      · have after : m.stop > c := by
          rw [same, decide_eq_true rfl, Bool.true_and, decide_eq_true_eq] at going
          omega
        rw [List.find?_cons_of_pos (by simp [same, after])]
        simp only [List.head?_cons, Option.map_some, Option.getD_some, matchHit, same, after, decide_true, Bool.true_and,
          Bool.and_true]
      · have below : r < m.row := Nat.lt_of_le_of_ne (back m List.mem_cons_self) (Ne.symm same)
        have nothing : (m :: more).find? (fun m => decide (m.row = r) && decide (m.stop > c)) = none := by
          refine List.find?_eq_none.mpr fun m' member => ?_
          have lower : m.row ≤ m'.row := by
            rcases List.mem_cons.mp member with rfl | after
            · exact Nat.le_refl _
            · exact later.rows m' after
          simp only [Bool.and_eq_true, decide_eq_true_eq]
          omega
        rw [nothing]
        simp only [List.head?_cons, Option.map_some, Option.getD_some, matchHit, same, decide_false, Bool.false_and]

end Matches

/-! ## Painted cells -/

/-- No wide glyph lies across an edge of the rectangle, where that would tear. -/
def Unbroken (display : Display) (rect : Rect) : Prop :=
  display.tears = true → ∀ r < rect.h, ∀ col, col = rect.x ∨ col = rect.x + rect.w → col < display.width →
    (display.cells (rect.y + r) col).isRest = false

def Rect.Holds (rect : Rect) (row col : Nat) : Prop :=
  rect.y ≤ row ∧ row < rect.y + rect.h ∧ rect.x ≤ col ∧ col < rect.x + rect.w

def Rect.OnDisplay (rect : Rect) (display : Display) : Prop :=
  rect.x + rect.w ≤ display.width ∧ rect.y + rect.h ≤ display.height

/-- What stays of a display, and the rows of the rectangle that are painted. -/
structure RowsPainted (start : Display) (rect : Rect) (target : Nat → Nat → Shown) (r : Nat) (display : Display) : Prop where
  ground : display.mode = .ground
  size : display.width = start.width ∧ display.height = start.height ∧ display.tears = start.tears
  beside : ∀ row col, ¬rect.Holds row col → display.cells row col = start.cells row col
  above : ∀ r' < r, ∀ c < rect.w, display.cells (rect.y + r') (rect.x + c) = target r' c

/-- A row painted up to the frontier, where the cursor is. -/
structure Painted (start : Display) (rect : Rect) (target : Nat → Nat → Shown) (r n : Nat) (display : Display) : Prop
    extends RowsPainted start rect target r display where
  row : display.row = rect.y + r
  col : display.col = rect.x + n
  left : ∀ c < n, display.cells (rect.y + r) (rect.x + c) = target r c
  edge : display.tears = true → rect.x + n < display.width → (display.cells (rect.y + r) (rect.x + n)).isRest = false
  below : ∀ r', r < r' → ∀ col, display.cells (rect.y + r') col = start.cells (rect.y + r') col

section Painted
variable {start display : Display} {rect : Rect} {target : Nat → Nat → Shown} {r n : Nat}

/-- The pen does not matter. -/
theorem Painted.pen (painted : Painted start rect target r n display) (pen : Pen) :
    Painted start rect target r n { display with pen } :=
  { painted with }

/-- A glyph at the frontier. -/
theorem Painted.write (painted : Painted start rect target r n display) (inside : rect.OnDisplay start)
    (unbroken : Unbroken start rect) (lower : r < rect.h) {text : List Char} {k : Nat} (columns : k = 1 ∨ k = 2)
    (fits : n + k ≤ rect.w) (glyph : target r n = .glyph text display.pen)
    (half : k = 2 → target r (n + 1) = .rest display.pen) :
    Painted start rect target r (n + k) (display.write text k) := by
  obtain ⟨m, rfl⟩ : ∃ m, k = m + 1 := ⟨k - 1, by omega⟩
  obtain ⟨width, height, tears⟩ := painted.size
  obtain ⟨wide, high⟩ := inside
  have edge := painted.edge
  rw [← painted.row, ← painted.col] at edge
  have col := painted.col
  -- A glyph beyond the rectangle is whole, and so is what is to the left of the frontier.
  have whole {c : Nat} (other : c < display.col ∨ display.col + (m + 1) ≤ c) (out : c = display.col + (m + 1) → n + (m + 1) = rect.w) :
      (display.write text (m + 1)).cells display.row c = display.cells display.row c := by
    rw [write_beside other]
    refine torn_whole (fun torn => edge torn (by omega)) fun torn last within => ?_
    have ended := out last
    have unheld : ¬rect.Holds display.row (display.col + (m + 1)) := by
      rintro ⟨-, -, -, before⟩
      omega
    rw [painted.beside _ _ unheld, painted.row]
    exact unbroken (tears ▸ torn) r lower _ (.inr (by omega)) (by omega)
  refine { ground := painted.ground, size := painted.size, beside := ?_, above := ?_, row := painted.row, col := ?_, left := ?_,
           edge := ?_, below := ?_ }
  · intro row c unheld
    by_cases same : row = display.row
    · subst same
      have outer : c < rect.x ∨ rect.x + rect.w ≤ c := by
        by_contra inner
        refine unheld ⟨?_, ?_, ?_, ?_⟩ <;> have := painted.row <;> omega
      rw [whole (by omega) (by omega)]
      exact painted.beside _ _ unheld
    · rw [write_otherRow same]
      exact painted.beside _ _ unheld
  · intro r' earlier c within
    have row := painted.row
    rw [write_otherRow (by omega)]
    exact painted.above r' earlier c within
  · change display.col + (m + 1) = _
    omega
  · intro c within
    rw [← painted.row]
    by_cases before : c < n
    · rw [whole (by omega) (by omega), painted.row]
      exact painted.left c before
    · by_cases here : c = n
      · subst here
        rw [← painted.col, write_here]
        exact glyph.symm
      · have second : c = n + 1 ∧ m + 1 = 2 := by omega
        rw [write_rest (by omega) (by omega), second.1]
        exact (half second.2).symm
  · intro torn within
    rw [← painted.row]
    have place : rect.x + (n + (m + 1)) = display.col + (m + 1) := by omega
    rw [place, write_beside (.inr (Nat.le_refl _))]
    exact torn_last torn (by
      change rect.x + (n + (m + 1)) < display.width at within
      omega)
  · intro r' later c
    have row := painted.row
    rw [write_otherRow (by omega)]
    exact painted.below r' later c

end Painted

end Ezpn
