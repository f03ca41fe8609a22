import Ezpn.CopyMode.Motions

/-!
# The search loop

The loop of `execute_search` works on byte offsets and a table from bytes to
columns. Here it is the plain search over characters that know their columns:
the table has the lengths of the lower-cased row, whatever the context does.
-/

set_option autoImplicit false

namespace Ezpn

variable {tables : UnicodeTables} {screen : Grid} {cols r : Nat}

/-! ## Lengths of lower-cased text -/

/-- The bytes of a character in lower case; the two small sigmas are as long as each other. -/
def lowerLen (tables : UnicodeTables) (c : Char) : Nat := if c = 'Σ' then 2 else textLen (tables.lower c)

theorem textLen_lowerAt (before after : List Char) (c : Char) : textLen (tables.lowerAt before c after) = lowerLen tables c := by
  unfold UnicodeTables.lowerAt lowerLen
  split
  · split <;> decide
  · rfl

theorem textLen_append (a b : List Char) : textLen (a ++ b) = textLen a + textLen b := Expansion.weight_append a b

theorem textLen_toLowercaseFrom (before text : List Char) :
    textLen (tables.toLowercaseFrom before text) = Expansion.weight (lowerLen tables) text := by
  induction text generalizing before with
  | nil => rfl
  | cons c text ih => rw [UnicodeTables.toLowercaseFrom, textLen_append, textLen_lowerAt, ih, Expansion.weight_cons]

/-! ## Characters with their columns -/

/-- The cells of a row that the search looks at. -/
def searchCells (screen : Grid) (cols r : Nat) : List (Nat × Cell) :=
  (List.range cols).filterMap fun c =>
    (screen.cell r c).bind fun cell => if cell.wideContinuation then none else some (c, cell)

/-- Their text, each character with the column of its cell. -/
def rowChars (screen : Grid) (cols r : Nat) : List (Char × Nat) :=
  (searchCells screen cols r).flatMap fun (c, cell) => cell.shown.map (·, c)

/-- The text in lower case; what becomes of a character stays in its cell. -/
def lowered (tables : UnicodeTables) (before : List Char) : List (Char × Nat) → List (Char × Nat)
  | [] => []
  | (ch, c) :: after =>
      (tables.lowerAt before ch (after.map Prod.fst)).map (·, c) ++ lowered tables (before ++ [ch]) after

/-- The lower-cased text of a row. -/
def lowerRow (tables : UnicodeTables) (screen : Grid) (cols r : Nat) : List (Char × Nat) :=
  lowered tables [] (rowChars screen cols r)

/-- The column after a cell. -/
def stopCol (screen : Grid) (cols r c : Nat) : Nat :=
  match screen.cell r c with
  | none => c
  | some cell => cell.endCol cols c

theorem mem_searchCells {c : Nat} {cell : Cell} :
    (c, cell) ∈ searchCells screen cols r ↔ c < cols ∧ screen.cell r c = some cell ∧ cell.wideContinuation = false := by
  simp only [searchCells, List.mem_filterMap, List.mem_range]
  constructor
  · rintro ⟨d, bound, chosen⟩
    obtain ⟨found, shown, kept⟩ := Option.bind_eq_some_iff.mp chosen
    split at kept
    · cases kept
    · rename_i glyph
      cases kept
      exact ⟨bound, shown, by simpa using glyph⟩
  · rintro ⟨bound, shown, glyph⟩
    exact ⟨c, bound, by simp [shown, glyph]⟩

theorem rowText_eq :
    (rowText tables screen cols r).text = (rowChars screen cols r).map Prod.fst ∧
      (rowText tables screen cols r).colMap = (searchCells screen cols r).flatMap fun entry =>
        List.replicate (textLen (tables.toLowercase entry.2.shown)) (entry.1, entry.2.endCol cols entry.1) := by
  have folded (columns : List Nat) (row : RowText) :
      columns.foldl (RowText.column tables screen cols r) row =
      let cells := columns.filterMap fun c =>
        (screen.cell r c).bind fun cell => if cell.wideContinuation then none else some (c, cell)
      { text := row.text ++ (cells.flatMap fun entry => entry.2.shown)
        colMap := row.colMap ++ cells.flatMap fun entry =>
          List.replicate (textLen (tables.toLowercase entry.2.shown)) (entry.1, entry.2.endCol cols entry.1) } := by
    induction columns generalizing row with
    | nil => simp
    | cons c columns ih =>
        rw [List.foldl_cons, ih]
        cases shown : screen.cell r c with
        | none => simp [shown, RowText.column]
        | some cell =>
            by_cases shadow : cell.wideContinuation = true
            · simp [shown, shadow, RowText.column, RowText.cell]
            · simp [shown, shadow, RowText.column, RowText.cell]
  have whole := folded (List.range cols) {}
  rw [rowText, whole]
  refine ⟨?_, rfl⟩
  simp [rowChars, searchCells, List.map_flatMap, Function.comp_def]

theorem map_fst_lowered (tables : UnicodeTables) (before : List Char) (chars : List (Char × Nat)) :
    (lowered tables before chars).map Prod.fst = tables.toLowercaseFrom before (chars.map Prod.fst) := by
  induction chars generalizing before with
  | nil => rfl
  | cons entry chars ih =>
      rw [lowered, List.map_append, ih, List.map_cons, UnicodeTables.toLowercaseFrom, List.map_map]
      simp [Function.comp_def]

/-- The table of a text from bytes to columns. -/
def columnTable (screen : Grid) (cols r : Nat) (chars : List (Char × Nat)) : List (Nat × Nat) :=
  Expansion.expand (fun entry : Char × Nat => entry.1.utf8Size) (fun entry => (entry.2, stopCol screen cols r entry.2)) chars

theorem columnTable_lowered (before : List Char) (chars : List (Char × Nat)) :
    columnTable screen cols r (lowered tables before chars) =
      chars.flatMap fun entry => List.replicate (lowerLen tables entry.1) (entry.2, stopCol screen cols r entry.2) := by
  induction chars generalizing before with
  | nil => rfl
  | cons entry chars ih =>
      have single (image : List Char) : columnTable screen cols r (image.map (·, entry.2)) =
          List.replicate (textLen image) (entry.2, stopCol screen cols r entry.2) := by
        rw [columnTable, Expansion.expand_const, Expansion.weight_map]
        · rfl
        · intro x member
          obtain ⟨c, _, rfl⟩ := List.mem_map.mp member
          rfl
      rw [lowered, columnTable, Expansion.expand_append, ← columnTable, ← columnTable, ih, single, textLen_lowerAt,
        List.flatMap_cons]

/-- The table of `execute_search` is the table of the lower-cased row. -/
theorem colMap_eq : (rowText tables screen cols r).colMap = columnTable screen cols r (lowerRow tables screen cols r) := by
  rw [rowText_eq.2, lowerRow, columnTable_lowered, rowChars, List.flatMap_assoc]
  refine List.flatMap_congr fun entry member => ?_
  obtain ⟨c, cell⟩ := entry
  obtain ⟨_, shown, _⟩ := mem_searchCells.mp member
  have stop : stopCol screen cols r c = cell.endCol cols c := by rw [stopCol, shown]
  have table : Expansion.expand (lowerLen tables) (fun _ => (c, cell.endCol cols c)) cell.shown = _ :=
    Expansion.expand_const (b := (c, cell.endCol cols c)) fun _ _ => rfl
  rw [UnicodeTables.toLowercase, textLen_toLowercaseFrom, ← table, List.flatMap_map]
  simp only [stop]
  rfl

theorem lowerText_eq :
    tables.toLowercase (rowText tables screen cols r).text = (lowerRow tables screen cols r).map Prod.fst := by
  rw [rowText_eq.1, lowerRow, map_fst_lowered, UnicodeTables.toLowercase]

/-! ## Slices and finds -/

theorem sliceFrom_append (front back : List Char) : sliceFrom (textLen front) (front ++ back) = some back := by
  induction front with
  | nil => cases back <;> rfl
  | cons c front ih =>
      have positive := c.utf8Size_pos
      have length : textLen (c :: front) = c.utf8Size + textLen front := Expansion.weight_cons c front
      rw [List.cons_append, sliceFrom, length, if_neg (by omega), if_neg (by omega), Nat.add_sub_cancel_left]
      exact ih

theorem findText_none {pattern text : List Char} (nonempty : pattern ≠ []) (absent : findText pattern text = none)
    {front back : List Char} (cut : text = front ++ back) : pattern.isPrefixOf back = false := by
  induction text generalizing front with
  | nil =>
      obtain ⟨rfl, rfl⟩ := List.append_eq_nil_iff.mp cut.symm
      cases pattern with
      | nil => exact absurd rfl nonempty
      | cons _ _ => rfl
  | cons c text ih =>
      rw [findText] at absent
      split at absent
      · cases absent
      · rename_i here
        cases front with
        | nil =>
            rw [List.nil_append] at cut
            rw [← cut]
            exact eq_false_of_ne_true here
        | cons d front =>
            rw [List.cons_append, List.cons.injEq] at cut
            exact ih (by simpa using absent) cut.2

/-- A find stops at the first occurrence. -/
theorem findText_some {pattern text : List Char} (nonempty : pattern ≠ []) {pos : Nat} (found : findText pattern text = some pos) :
    ∃ front back, text = front ++ back ∧ pos = textLen front ∧ pattern.isPrefixOf back = true ∧
      ∀ (early late : List Char), front = early ++ late → late ≠ [] → pattern.isPrefixOf (late ++ back) = false := by
  induction text generalizing pos with
  | nil =>
      rw [findText, if_neg nonempty] at found
      cases found
  | cons c text ih =>
      rw [findText] at found
      split at found
      · rename_i here
        cases found
        refine ⟨[], c :: text, rfl, rfl, here, fun early late cut later => ?_⟩
        exact absurd (List.append_eq_nil_iff.mp cut.symm).2 later
      · rename_i here
        obtain ⟨k, further, rfl⟩ := Option.map_eq_some_iff.mp found
        obtain ⟨front, back, rfl, rfl, begins, before⟩ := ih further
        refine ⟨c :: front, back, rfl, (Expansion.weight_cons c front).symm, begins, fun early late cut later => ?_⟩
        cases early with
        | nil =>
            rw [List.nil_append] at cut
            rw [← cut]
            exact eq_false_of_ne_true here
        | cons d early =>
            rw [List.cons_append, List.cons.injEq] at cut
            exact before early late cut.2 later

/-! ## The loop -/

/-- The match that starts with the first character of a text. -/
def matchHere (screen : Grid) (cols r : Nat) (length : Nat) (chars : List (Char × Nat)) : Nat × Nat × Nat :=
  let col := (chars.head?.map Prod.snd).getD 0
  let last := (chars[length - 1]?.map Prod.snd).getD 0
  (r, col, stopCol screen cols r last - col)

def matchesFrom (screen : Grid) (cols r : Nat) (pattern : List Char) : List (Char × Nat) → List (Nat × Nat × Nat)
  | [] => []
  | entry :: chars =>
      if pattern.isPrefixOf ((entry :: chars).map Prod.fst) then
        matchHere screen cols r pattern.length (entry :: chars) :: matchesFrom screen cols r pattern chars
      else matchesFrom screen cols r pattern chars

theorem matchesFrom_skip {pattern : List Char} {front back : List (Char × Nat)}
    (before : ∀ early late, front = early ++ late → late ≠ [] → pattern.isPrefixOf ((late ++ back).map Prod.fst) = false) :
    matchesFrom screen cols r pattern (front ++ back) = matchesFrom screen cols r pattern back := by
  induction front with
  | nil => rfl
  | cons entry front ih =>
      have here := before [] (entry :: front) rfl (by simp)
      rw [List.cons_append] at here ⊢
      rw [matchesFrom, if_neg (by simp only [here]; exact Bool.false_ne_true)]
      exact ih fun early late cut later => before (entry :: early) late (by rw [cut]; rfl) later

theorem isPrefixOf_length {pattern text : List Char} (begins : pattern.isPrefixOf text = true) :
    pattern.length ≤ text.length := (List.isPrefixOf_iff_prefix.mp begins).length_le

/-- Columns do not go back along a row, and every cell has a width. -/
structure Ordered (screen : Grid) (cols r : Nat) (chars : List (Char × Nat)) : Prop where
  sorted : chars.Pairwise fun a b => a.2 ≤ b.2
  wide : ∀ entry ∈ chars, entry.2 < stopCol screen cols r entry.2

theorem textLen_chars (front back : List (Char × Nat)) :
    textLen ((front ++ back).map Prod.fst) = textLen (front.map Prod.fst) + textLen (back.map Prod.fst) := by
  rw [List.map_append, textLen_append]

theorem columnTable_getElem? {front back : List (Char × Nat)} {entry : Char × Nat} {k : Nat} (inside : k < entry.1.utf8Size) :
    (columnTable screen cols r (front ++ entry :: back))[textLen (front.map Prod.fst) + k]? =
      some (entry.2, stopCol screen cols r entry.2) := by
  rw [textLen, Expansion.weight_map]
  exact Expansion.getElem?_expand (w := fun entry : Char × Nat => entry.1.utf8Size) inside

/-- The characters of an occurrence, and the last of them. -/
theorem occurrence_cut {pattern : List Char} (nonempty : pattern ≠ []) {chars : List (Char × Nat)}
    (begins : pattern.isPrefixOf (chars.map Prod.fst) = true) :
    ∃ init last more, chars = init ++ last :: more ∧ pattern = (init ++ [last]).map Prod.fst := by
  obtain ⟨after, cut⟩ := List.isPrefixOf_iff_prefix.mp begins
  obtain ⟨occurrence, more, rfl, same, _⟩ := List.map_eq_append_iff.mp cut.symm
  rcases List.eq_nil_or_concat occurrence with rfl | ⟨init, last, rfl⟩
  · exact absurd same.symm nonempty
  · exact ⟨init, last, more, by simp, by simpa using same.symm⟩

theorem searchRow_eq {pattern : List Char} (nonempty : pattern ≠ []) {chars : List (Char × Nat)}
    (ordered : Ordered screen cols r chars) {fuel : Nat} {front back : List (Char × Nat)} (cut : chars = front ++ back)
    (enough : back.length < fuel) (found : List (Nat × Nat × Nat)) :
    searchRow pattern (chars.map Prod.fst) (columnTable screen cols r chars) r fuel (textLen (front.map Prod.fst)) found =
      some (found ++ matchesFrom screen cols r pattern back) := by
  induction fuel generalizing front back found with
  | zero => omega
  | succ fuel ih =>
      have slice (front back : List (Char × Nat)) (cut : chars = front ++ back) :
          sliceFrom (textLen (front.map Prod.fst)) (chars.map Prod.fst) = some (back.map Prod.fst) := by
        rw [cut, List.map_append]
        exact sliceFrom_append _ _
      simp only [searchRow, slice front back cut, Option.bind_eq_bind, Option.bind_some]
      cases search : findText pattern (back.map Prod.fst) with
      | none =>
          have none : matchesFrom screen cols r pattern (back ++ []) = matchesFrom screen cols r pattern [] :=
            matchesFrom_skip fun early late cut' _ => findText_none nonempty search (by rw [cut', List.map_append, List.append_nil])
          rw [List.append_nil] at none
          rw [none]
          exact congrArg some (List.append_nil _).symm
      | some pos =>
          obtain ⟨midText, restText, cutText, rfl, begins, before⟩ := findText_some nonempty search
          obtain ⟨mid, rest, rfl, rfl, rfl⟩ := List.map_eq_append_iff.mp cutText
          obtain ⟨init, last, more, occurrence, letters⟩ := occurrence_cut nonempty begins
          have whole : chars = (front ++ mid ++ init) ++ last :: more := by
            rw [cut, occurrence]
            simp
          have bytes := (textLen_chars front mid).symm
          have positive := last.1.utf8Size_pos
          have end_ : sub? (textLen ((front ++ mid).map Prod.fst) + textLen pattern) 1 =
              some (textLen ((front ++ mid ++ init).map Prod.fst) + (last.1.utf8Size - 1)) := by
            have length : textLen pattern = textLen (init.map Prod.fst) + last.1.utf8Size := by
              rw [letters, textLen_chars]
              rfl
            rw [textLen_chars (front ++ mid), length, sub?_of_le (by omega)]
            congr 1
            omega
          have final : (columnTable screen cols r chars)[textLen ((front ++ mid ++ init).map Prod.fst) + (last.1.utf8Size - 1)]? =
              some (last.2, stopCol screen cols r last.2) := by
            rw [whole]
            exact columnTable_getElem? (by omega)
          cases rest with
          | nil => simp at occurrence
          | cons entry rest =>
              have first : (columnTable screen cols r chars)[textLen ((front ++ mid).map Prod.fst)]? =
                  some (entry.2, stopCol screen cols r entry.2) := by
                rw [cut, ← List.append_assoc]
                exact columnTable_getElem? entry.1.utf8Size_pos
              have forward : entry.2 ≤ last.2 := by
                have sorted := (List.pairwise_append.mp (List.pairwise_append.mp (cut ▸ ordered.sorted)).2.1).2.1
                have member : last ∈ entry :: rest := by
                  rw [occurrence]
                  simp
                rcases List.mem_cons.mp member with rfl | later
                · exact Nat.le_refl _
                · exact List.rel_of_pairwise_cons sorted later
              have wide : last.2 < stopCol screen cols r last.2 := ordered.wide last (by rw [whole]; simp)
              have here : matchHere screen cols r pattern.length (entry :: rest) =
                  (r, entry.2, stopCol screen cols r last.2 - entry.2) := by
                have index : (entry :: rest)[pattern.length - 1]? = some last := by
                  rw [occurrence, letters]
                  simp
                rw [matchHere, index]
                rfl
              have skipped : matchesFrom screen cols r pattern (mid ++ entry :: rest) =
                  matchesFrom screen cols r pattern (entry :: rest) :=
                matchesFrom_skip fun early late cut' later => by
                  rw [List.map_append]
                  exact before (early.map Prod.fst) (late.map Prod.fst) (by rw [cut', List.map_append]) (by simpa using later)
              have next : textLen ((front ++ mid).map Prod.fst) + entry.1.utf8Size =
                  textLen ((front ++ mid ++ [entry]).map Prod.fst) := by
                rw [textLen_chars (front ++ mid)]
                rfl
              have inner := slice (front ++ mid) (entry :: rest) (by rw [cut, List.append_assoc])
              simp only [bytes, first, end_, final, inner, Option.bind_some, sub?_of_le (forward.trans (Nat.le_of_lt wide)),
                List.map_cons, List.head?_cons, next]
              have shorter : rest.length < fuel := by
                rw [List.length_append, List.length_cons] at enough
                omega
              have further := ih (show chars = (front ++ mid ++ [entry]) ++ rest by rw [cut]; simp) shorter
                (found ++ [(r, entry.2, stopCol screen cols r last.2 - entry.2)])
              rw [further, skipped, matchesFrom, if_pos begins, here, List.append_assoc, List.singleton_append]

end Ezpn
