import Ezpn.CopyMode.Search

/-!
# What the matches cover

Every occurrence in the lower-cased text of a row gives one match, and the match
covers the cells that the occurrence touches, wide cells whole.
-/

set_option autoImplicit false

namespace Ezpn

/-- Where a text occurs, as indices of characters. -/
def occurrences (pattern text : List Char) : List Nat :=
  (List.range text.length).filter fun i => pattern.isPrefixOf (text.drop i)

/-- A character of the occurrence is in the cell of this column. -/
def Touched (chars : List (Char × Nat)) (length i x : Nat) : Prop :=
  ∃ j ch, i ≤ j ∧ j < i + length ∧ chars[j]? = some (ch, x)

/-- A match is of the cells that an occurrence touches; the second half of a wide cell goes with the first. -/
structure Covers (screen : Grid) (cols r : Nat) (chars : List (Char × Nat)) (length i : Nat) (m : Nat × Nat × Nat) : Prop where
  row : m.1 = r
  nonempty : 1 ≤ m.2.2
  inside : m.2.1 + m.2.2 ≤ cols
  cells : ∀ (x : Nat) (cell : Cell), x < cols → screen.cell r x = some cell →
    ((m.2.1 ≤ x ∧ x < m.2.1 + m.2.2) ↔
      if cell.wideContinuation then ∃ left, x = left + 1 ∧ Touched chars length i left else Touched chars length i x)

variable {tables : UnicodeTables} {screen : Grid} {cols r : Nat}

theorem matchesFrom_eq (pattern : List Char) (chars : List (Char × Nat)) :
    matchesFrom screen cols r pattern chars =
      (occurrences pattern (chars.map Prod.fst)).map fun i => matchHere screen cols r pattern.length (chars.drop i) := by
  induction chars with
  | nil => rfl
  | cons entry chars ih =>
      have later : occurrences pattern ((entry :: chars).map Prod.fst) =
          (if pattern.isPrefixOf ((entry :: chars).map Prod.fst) then [0] else []) ++
            (occurrences pattern (chars.map Prod.fst)).map Nat.succ := by
        simp only [occurrences, List.map_cons, List.length_cons, List.range_succ_eq_map, List.filter_cons, List.drop_zero,
          List.filter_map]
        split
        · rfl
        · rfl
      rw [later, List.map_append, List.map_map, matchesFrom, ih]
      split
      · rfl
      · rfl

/-! ## The characters of a row -/

theorem mem_rowChars {ch : Char} {c : Nat} :
    (ch, c) ∈ rowChars screen cols r ↔
      ∃ cell, c < cols ∧ screen.cell r c = some cell ∧ cell.wideContinuation = false ∧ ch ∈ cell.shown := by
  simp only [rowChars, List.mem_flatMap, List.mem_map, Prod.mk.injEq]
  constructor
  · rintro ⟨⟨d, cell⟩, member, ch', shown, rfl, rfl⟩
    obtain ⟨bound, found, glyph⟩ := mem_searchCells.mp member
    exact ⟨cell, bound, found, glyph, shown⟩
  · rintro ⟨cell, bound, found, glyph, shown⟩
    exact ⟨(c, cell), mem_searchCells.mpr ⟨bound, found, glyph⟩, ch, shown, rfl, rfl⟩

theorem rowChars_sorted : (rowChars screen cols r).Pairwise fun a b => a.2 ≤ b.2 := by
  have columns : (searchCells screen cols r).Pairwise fun a b => a.1 < b.1 := by
    refine List.Pairwise.filterMap _ (fun c d before entry chosen entry' chosen' => ?_) List.pairwise_lt_range
    have same {c : Nat} {entry : Nat × Cell}
        (chosen : ((screen.cell r c).bind fun cell => if cell.wideContinuation then none else some (c, cell)) = some entry) :
        entry.1 = c := by
      obtain ⟨cell, _, kept⟩ := Option.bind_eq_some_iff.mp chosen
      split at kept
      · cases kept
      · cases kept
        rfl
    rw [same chosen, same chosen']
    exact before
  refine List.pairwise_flatMap.mpr ⟨fun entry _ => ?_, columns.imp fun before x here y there => ?_⟩
  · refine List.pairwise_map.mpr (List.pairwise_of_forall fun _ _ => Nat.le_refl _)
  · obtain ⟨_, _, rfl⟩ := List.mem_map.mp here
    obtain ⟨_, _, rfl⟩ := List.mem_map.mp there
    exact Nat.le_of_lt before

theorem lowered_origin {before : List Char} {chars : List (Char × Nat)} {x : Char × Nat}
    (member : x ∈ lowered tables before chars) : ∃ y ∈ chars, y.2 = x.2 := by
  induction chars generalizing before with
  | nil => cases member
  | cons entry chars ih =>
      rw [lowered] at member
      rcases List.mem_append.mp member with here | later
      · obtain ⟨_, _, rfl⟩ := List.mem_map.mp here
        exact ⟨entry, List.mem_cons_self, rfl⟩
      · obtain ⟨y, from_, same⟩ := ih later
        exact ⟨y, List.mem_cons_of_mem _ from_, same⟩

theorem lowerAt_ne_nil (tables : UnicodeTables) (before after : List Char) (c : Char) : tables.lowerAt before c after ≠ [] := by
  unfold UnicodeTables.lowerAt
  split
  · simp
  · exact tables.lower_ne_nil c

theorem lowered_reaches (tables : UnicodeTables) (before : List Char) {chars : List (Char × Nat)} {y : Char × Nat} (member : y ∈ chars) :
    ∃ x ∈ lowered tables before chars, x.2 = y.2 := by
  induction chars generalizing before with
  | nil => cases member
  | cons entry chars ih =>
      rcases List.mem_cons.mp member with rfl | later
      · obtain ⟨c, image⟩ := List.exists_mem_of_ne_nil _ (lowerAt_ne_nil tables before (chars.map Prod.fst) y.1)
        exact ⟨(c, y.2), List.mem_append_left _ (List.mem_map.mpr ⟨c, image, rfl⟩), rfl⟩
      · obtain ⟨x, there, same⟩ := ih (before ++ [entry.1]) later
        exact ⟨x, List.mem_append_right _ there, same⟩

theorem lowered_sorted {before : List Char} {chars : List (Char × Nat)} (sorted : chars.Pairwise fun a b => a.2 ≤ b.2) :
    (lowered tables before chars).Pairwise fun a b => a.2 ≤ b.2 := by
  induction chars generalizing before with
  | nil => exact .nil
  | cons entry chars ih =>
      obtain ⟨least, rest⟩ := List.pairwise_cons.mp sorted
      refine List.pairwise_append.mpr ⟨?_, ih rest, fun x here y later => ?_⟩
      · exact List.pairwise_map.mpr (List.pairwise_of_forall fun _ _ => Nat.le_refl _)
      · obtain ⟨_, _, rfl⟩ := List.mem_map.mp here
        obtain ⟨z, member, same⟩ := lowered_origin later
        exact same ▸ least z member

/-- What the characters of a row say about its cells. -/
theorem mem_lowerRow {entry : Char × Nat} (member : entry ∈ lowerRow tables screen cols r) :
    ∃ cell, entry.2 < cols ∧ screen.cell r entry.2 = some cell ∧ cell.wideContinuation = false := by
  obtain ⟨⟨ch, c⟩, from_, same⟩ := lowered_origin member
  obtain ⟨cell, bound, found, glyph, _⟩ := mem_rowChars.mp from_
  exact ⟨cell, same ▸ bound, same ▸ found, glyph⟩

theorem stopCol_eq {c : Nat} {cell : Cell} (found : screen.cell r c = some cell) :
    stopCol screen cols r c = min (c + if cell.wide then 2 else 1) cols := by
  simp only [stopCol, found, Cell.endCol]

theorem lowerRow_ordered : Ordered screen cols r (lowerRow tables screen cols r) where
  sorted := lowered_sorted rowChars_sorted
  wide entry member := by
    obtain ⟨cell, bound, found, _⟩ := mem_lowerRow member
    rw [stopCol_eq found]
    split <;> omega

theorem Ordered.le {chars : List (Char × Nat)} (ordered : Ordered screen cols r chars) {j k : Nat} {a b : Char × Nat}
    (first : chars[j]? = some a) (second : chars[k]? = some b) (before : j ≤ k) : a.2 ≤ b.2 := by
  obtain ⟨inside, rfl⟩ := List.getElem?_eq_some_iff.mp first
  obtain ⟨inside', rfl⟩ := List.getElem?_eq_some_iff.mp second
  rcases Nat.lt_or_eq_of_le before with less | rfl
  · exact List.pairwise_iff_getElem.mp ordered.sorted j k inside inside' less
  · exact Nat.le_refl _

/-- Between the ends of an occurrence every cell is touched. -/
theorem touched_between {length i x : Nat} {a b : Char × Nat} {cell : Cell} (positive : 0 < length)
    (first : (lowerRow tables screen cols r)[i]? = some a) (last : (lowerRow tables screen cols r)[i + length - 1]? = some b)
    (bound : x < cols) (found : screen.cell r x = some cell) (glyph : cell.wideContinuation = false)
    (after : a.2 ≤ x) (before : x ≤ b.2) : Touched (lowerRow tables screen cols r) length i x := by
  obtain ⟨ch, shown⟩ := List.exists_mem_of_ne_nil _ cell.shown_ne_nil
  have member : (ch, x) ∈ rowChars screen cols r := mem_rowChars.mpr ⟨cell, bound, found, glyph, shown⟩
  obtain ⟨⟨ch', c⟩, there, same⟩ := lowered_reaches tables [] member
  obtain ⟨j, index⟩ := List.getElem?_of_mem there
  have index : (lowerRow tables screen cols r)[j]? = some (ch', c) := index
  obtain rfl : c = x := same
  by_cases early : j ≤ i
  · have back := lowerRow_ordered.le index first early
    obtain rfl : a.2 = c := Nat.le_antisymm after back
    exact ⟨i, a.1, Nat.le_refl i, by omega, first⟩
  · by_cases late : i + length - 1 ≤ j
    · have forth := lowerRow_ordered.le last index late
      obtain rfl : b.2 = c := Nat.le_antisymm forth before
      exact ⟨i + length - 1, b.1, by omega, by omega, last⟩
    · exact ⟨j, ch', by omega, by omega, index⟩

/-! ## Matches -/

theorem cell_paired {x : Nat} {cell : Cell} (found : screen.cell r x = some cell) (shadow : cell.wideContinuation = true) :
    ∃ left cell', x = left + 1 ∧ screen.cell r left = some cell' ∧ cell'.wide = true ∧ cell'.wideContinuation = false := by
  obtain ⟨row, visible, here⟩ := Option.bind_eq_some_iff.mp found
  have formed := screen.visibleRow_formed visible
  obtain ⟨left, cell', next, there, wide⟩ := formed.paired x cell here shadow
  refine ⟨left, cell', next, by rw [Grid.cell, visible]; exact there, wide, ?_⟩
  by_contra both
  have narrow := ((formed.cells cell' (List.mem_of_getElem? there)).shadow (by simpa using both)).2
  rw [wide] at narrow
  cases narrow

theorem cell_whole {screen : WholeGrid} {x : Nat} {cell next : Cell} (found : screen.cell r x = some cell)
    (wide : cell.wide = true) (right : screen.cell r (x + 1) = some next) : next.wideContinuation = true := by
  obtain ⟨row, visible, here⟩ := Option.bind_eq_some_iff.mp found
  rw [Grid.cell, visible] at right
  have member : row ∈ screen.visibleRows := List.mem_of_getElem? visible
  refine screen.whole row (List.mem_append.mpr ?_) x cell next here wide right
  rcases List.mem_append.mp member with history | live
  · exact .inl (List.mem_of_mem_drop (List.mem_of_mem_take history))
  · exact .inr (List.mem_of_mem_take live)

/-- The match of an occurrence covers it. -/
theorem matchHere_covers {screen : WholeGrid} {pattern : List Char} (nonempty : pattern ≠ []) {i : Nat}
    (occurs : i ∈ occurrences pattern ((lowerRow tables screen.toGrid cols r).map Prod.fst)) :
    Covers screen.toGrid cols r (lowerRow tables screen.toGrid cols r) pattern.length i
      (matchHere screen.toGrid cols r pattern.length ((lowerRow tables screen.toGrid cols r).drop i)) := by
  have positive := List.length_pos_iff.mpr nonempty
  have begins : pattern.isPrefixOf (((lowerRow tables screen.toGrid cols r).map Prod.fst).drop i) = true :=
    (List.mem_filter.mp occurs).2
  have fits := isPrefixOf_length begins
  rw [List.length_drop, List.length_map] at fits
  generalize chars_eq : lowerRow tables screen.toGrid cols r = chars at *
  obtain ⟨a, first⟩ : ∃ a, chars[i]? = some a := ⟨_, List.getElem?_eq_getElem (by omega)⟩
  obtain ⟨b, last⟩ : ∃ b, chars[i + pattern.length - 1]? = some b := ⟨_, List.getElem?_eq_getElem (by omega)⟩
  have ordered : Ordered screen.toGrid cols r chars := chars_eq ▸ lowerRow_ordered
  have forward : a.2 ≤ b.2 := ordered.le first last (by omega)
  have here : matchHere screen.toGrid cols r pattern.length (chars.drop i) =
      (r, a.2, stopCol screen.toGrid cols r b.2 - a.2) := by
    have final : (chars.drop i)[pattern.length - 1]? = some b := by
      rw [List.getElem?_drop, ← last]
      congr 1
      omega
    rw [matchHere, final, List.head?_drop, first]
    rfl
  obtain ⟨cellA, boundA, foundA, glyphA⟩ := mem_lowerRow (chars_eq ▸ List.mem_of_getElem? first)
  obtain ⟨cellB, boundB, foundB, glyphB⟩ := mem_lowerRow (chars_eq ▸ List.mem_of_getElem? last)
  have stop : stopCol screen.toGrid cols r b.2 = _ := stopCol_eq foundB
  have past : b.2 < stopCol screen.toGrid cols r b.2 := ordered.wide b (List.mem_of_getElem? last)
  have clipped : stopCol screen.toGrid cols r b.2 ≤ cols := by
    rw [stop]
    exact Nat.min_le_right _ _
  have between {x : Nat} {cell : Cell} (bound : x < cols) (found : screen.cell r x = some cell)
      (glyph : cell.wideContinuation = false) (after : a.2 ≤ x) (before : x ≤ b.2) :
      Touched chars pattern.length i x := by
    subst chars_eq
    exact touched_between positive first last bound found glyph after before
  have ends {x : Nat} (touched : Touched chars pattern.length i x) : a.2 ≤ x ∧ x ≤ b.2 := by
    obtain ⟨j, ch, least, most, index⟩ := touched
    exact ⟨ordered.le first index least, ordered.le index last (by omega)⟩
  rw [here]
  refine ⟨rfl, by dsimp only; omega, by dsimp only; omega, fun x cell bound found => ?_⟩
  have range : (a.2 ≤ x ∧ x < a.2 + (stopCol screen.toGrid cols r b.2 - a.2)) ↔
      a.2 ≤ x ∧ x < stopCol screen.toGrid cols r b.2 := by omega
  rw [range]
  split
  · -- the second half of a wide cell
    rename_i shadow
    obtain ⟨left, cell', rfl, foundL, wideL, glyphL⟩ := cell_paired found shadow
    constructor
    · rintro ⟨after, before⟩
      refine ⟨left, rfl, between (by omega) foundL glyphL ?_ ?_⟩
      · rcases Nat.lt_or_eq_of_le after with less | same
        · omega
        · rw [same, found] at foundA
          cases foundA
          rw [shadow] at glyphA
          cases glyphA
      · rw [stop] at before
        split at before <;> omega
    · rintro ⟨left', next, touched⟩
      obtain rfl : left = left' := by omega
      obtain ⟨after, before⟩ := ends touched
      refine ⟨by omega, ?_⟩
      rcases Nat.lt_or_eq_of_le before with less | same
      · omega
      · rw [← same, foundL] at foundB
        cases foundB
        rw [stop, if_pos wideL, ← same]
        omega
  · rename_i glyph
    have glyph : cell.wideContinuation = false := by simpa using glyph
    constructor
    · rintro ⟨after, before⟩
      refine between bound found glyph after ?_
      by_contra beyond
      rw [stop] at before
      split at before
      · rename_i wide
        obtain rfl : x = b.2 + 1 := by omega
        have shadow := cell_whole foundB wide found
        rw [glyph] at shadow
        cases shadow
      · omega
    · intro touched
      obtain ⟨after, before⟩ := ends touched
      exact ⟨after, by omega⟩

/-- Every match of a row, in order, is of the occurrence in its place. -/
theorem matchesFrom_covers {screen : WholeGrid} {pattern : List Char} (nonempty : pattern ≠ []) :
    List.Forall₂ (Covers screen.toGrid cols r (lowerRow tables screen.toGrid cols r) pattern.length)
      (occurrences pattern ((lowerRow tables screen.toGrid cols r).map Prod.fst))
      (matchesFrom screen.toGrid cols r pattern (lowerRow tables screen.toGrid cols r)) := by
  rw [matchesFrom_eq, List.forall₂_map_right_iff]
  exact List.forall₂_same.mpr fun i occurs => matchHere_covers nonempty occurs

end Ezpn
