import Ezpn.CopyMode.Coverage

/-!
# Copy mode over whole runs

Any keys, with any screens behind them.
-/

set_option autoImplicit false

namespace Ezpn

variable {tables : UnicodeTables}

/-! ## Yank -/

theorem yankedRow_contentEnd (screen : Grid) (r cStart cEnd : Nat) :
    (yankedRow screen r cStart cEnd).contentEnd ≤ (yankedRow screen r cStart cEnd).text.length := by
  have folded (columns : List Nat) (row : YankedRow) (start : row.contentEnd ≤ row.text.length) :
      (columns.foldl (YankedRow.column screen r) row).contentEnd ≤
        (columns.foldl (YankedRow.column screen r) row).text.length := by
    induction columns generalizing row with
    | nil => exact start
    | cons c columns ih =>
        refine ih _ ?_
        unfold YankedRow.column
        split
        · exact start
        · unfold YankedRow.cell
          split
          · exact start
          · split
            · simp only [List.length_append]
              omega
            · exact Nat.le_refl _
  exact folded _ {} (Nat.le_refl 0)

theorem glyphCol_eq (screen : Grid) (r c : Nat) : glyphCol screen r c = some (wholeStart screen r c) := by
  unfold glyphCol wholeStart
  split
  · rename_i shadow
    rw [Bool.and_eq_true, decide_eq_true_eq] at shadow
    exact sub?_of_le shadow.1
  · rfl

/-- A yank does not panic. -/
theorem CopyModeState.yankText_eq (state : CopyModeState) (screen : Grid) :
    state.yankText screen = some (extractSelection state screen) := by
  unfold yankText extractSelection
  cases state.selection with
  | none => rfl
  | some range =>
      obtain ⟨sr, sc, er, ec⟩ := range
      have positive : 1 ≤ screen.width := screen.width_pos
      have row (last sr sc er ec r : Nat) : state.yankRow screen last sr sc er ec r =
          some (let row := yankedRow screen r (wholeStart screen r (if r = sr then sc else 0)) (if r = er then ec else last)
            if r < er && screen.rowWrapped r && !state.linewise then row.text.take row.contentEnd
            else if r < er then Text.trimEnd row.text ++ ['\n']
            else Text.trimEnd row.text) := by
        simp only [yankRow, glyphCol_eq, Option.bind_eq_bind, Option.bind_some, truncateText, if_pos (yankedRow_contentEnd ..)]
        split
        · rfl
        · split
          · rfl
          · rfl
      simp only
      split
      · rfl
      · simp only [sub?_of_le positive, Option.bind_eq_bind, Option.bind_some, funext (row _ _ _ _ _)]
        have all (rows : List Nat) (f : Nat → List Char) : rows.mapM (fun r => some (f r)) = some (rows.map f) := List.mapM_pure
        rw [all, Option.bind_some, List.flatMap_def]

/-! ## Searches -/

namespace CopyModeState

def InRange (state : CopyModeState) : Prop := ∀ idx, state.currentMatchIdx = some idx → idx < state.searchMatches.length

end CopyModeState

/-- The matches of a search, row by row; an empty query is no search. -/
def Exact (tables : UnicodeTables) (screen : WholeGrid) (query : List Char) (found : List (Nat × Nat × Nat)) : Prop :=
  if query = [] then found = []
  else ∃ rowMatches : Nat → List (Nat × Nat × Nat), found = (List.range screen.height).flatMap rowMatches ∧
    ∀ r < screen.height,
      List.Forall₂
        (Covers screen.toGrid screen.width r (lowerRow tables screen.toGrid screen.width r) (tables.toLowercase query).length)
        (occurrences (tables.toLowercase query) (tables.toLowercase ((rowChars screen.toGrid screen.width r).map Prod.fst)))
        (rowMatches r)

theorem toLowercase_ne_nil (tables : UnicodeTables) {query : List Char} (nonempty : query ≠ []) : tables.toLowercase query ≠ [] := by
  cases query with
  | nil => exact absurd rfl nonempty
  | cons c query =>
      rw [UnicodeTables.toLowercase, UnicodeTables.toLowercaseFrom]
      exact List.append_ne_nil_of_left_ne_nil (lowerAt_ne_nil tables _ _ _) _

theorem searchRows_eq {screen : Grid} {cols : Nat} {lowerQuery : List Char} (nonempty : lowerQuery ≠ []) (rows : List Nat)
    (found : List (Nat × Nat × Nat)) :
    searchRows tables screen lowerQuery cols rows found =
      some (found ++ rows.flatMap fun r => matchesFrom screen cols r lowerQuery (lowerRow tables screen cols r)) := by
  induction rows generalizing found with
  | nil => simp [searchRows]
  | cons r rows ih =>
      have row : searchRow lowerQuery (tables.toLowercase (rowText tables screen cols r).text)
          (rowText tables screen cols r).colMap r ((tables.toLowercase (rowText tables screen cols r).text).length + 1) 0 found =
          some (found ++ matchesFrom screen cols r lowerQuery (lowerRow tables screen cols r)) := by
        rw [lowerText_eq, colMap_eq]
        refine searchRow_eq nonempty lowerRow_ordered (List.nil_append _).symm ?_ found
        rw [List.length_map]
        exact Nat.lt_succ_self _
      simp only [searchRows, row, Option.bind_eq_bind, Option.bind_some, ih, List.flatMap_cons, List.append_assoc]

theorem forall₂_origin {α β : Type} {R : α → β → Prop} {xs : List α} {ys : List β} (related : List.Forall₂ R xs ys) {y : β}
    (member : y ∈ ys) : ∃ x, R x y := by
  induction related with
  | nil => cases member
  | cons here _ ih =>
      rcases List.mem_cons.mp member with rfl | later
      · exact ⟨_, here⟩
      · exact ih later

/-- Matches are on the screen. -/
theorem Exact.inside {screen : WholeGrid} {query : List Char} {found : List (Nat × Nat × Nat)}
    (exact : Exact tables screen query found) {m : Nat × Nat × Nat} (member : m ∈ found) :
    m.1 < screen.height ∧ m.2.1 < screen.width := by
  unfold Exact at exact
  split at exact
  · rw [exact] at member
    cases member
  · obtain ⟨rowMatches, rfl, covered⟩ := exact
    obtain ⟨r, row, here⟩ := List.mem_flatMap.mp member
    have bound := List.mem_range.mp row
    obtain ⟨i, covers⟩ := forall₂_origin (covered r bound) here
    have inside := covers.inside
    have nonempty := covers.nonempty
    exact ⟨covers.row ▸ bound, by omega⟩

theorem nearest_lt (state : CopyModeState) {found : List (Nat × Nat × Nat)} (some_ : found ≠ []) :
    ∃ idx, state.nearest found = some idx ∧ idx < found.length := by
  have positive := List.length_pos_iff.mpr some_
  simp only [CopyModeState.nearest]
  split
  · split
    · rename_i idx ahead
      exact ⟨idx, rfl, (List.findIdx?_eq_some_iff_getElem.mp ahead).1⟩
    · exact ⟨0, rfl, positive⟩
  · split
    · rename_i idx behind
      have bound := (List.findIdx?_eq_some_iff_getElem.mp behind).1
      rw [List.length_reverse] at bound
      simp only [sub?_of_le positive, Option.bind_eq_bind, Option.bind_some]
      exact ⟨_, sub?_of_le (by omega), by omega⟩
    · exact ⟨_, sub?_of_le positive, by omega⟩

namespace CopyModeState
variable {state : CopyModeState} {screen : WholeGrid}

/-- What a search changes. -/
structure Searched (tables : UnicodeTables) (screen : WholeGrid) (state next : CopyModeState) : Prop where
  exact : Exact tables screen state.searchQuery next.searchMatches
  current : next.InRange
  row : next.cursorRow < screen.height
  col : next.cursorCol < screen.width
  phase : next.phase = state.phase

theorem executeSearch_searched (tables : UnicodeTables) (screen : WholeGrid) (state : CopyModeState)
    (rows : state.paneRows = screen.height) (cols : state.paneCols = screen.width) (row : state.cursorRow < screen.height)
    (col : state.cursorCol < screen.width) :
    ∃ next, state.executeSearch tables screen.toGrid = some next ∧ Searched tables screen state next := by
  unfold executeSearch
  split
  · rename_i empty
    exact ⟨_, rfl, by rw [Exact, if_pos empty], by rintro _ ⟨⟩, row, col, rfl⟩
  · rename_i query
    have lower := toLowercase_ne_nil tables query
    simp only [searchRows_eq lower, List.nil_append, Option.bind_eq_bind, Option.bind_some, rows, cols]
    generalize found_eq : ((List.range screen.height).flatMap fun r =>
      matchesFrom screen.toGrid screen.width r (tables.toLowercase state.searchQuery)
        (lowerRow tables screen.toGrid screen.width r)) = found
    have exact : Exact tables screen state.searchQuery found := by
      rw [Exact, if_neg query]
      refine ⟨_, found_eq.symm, fun r _ => ?_⟩
      have text := map_fst_lowered tables [] (rowChars screen.toGrid screen.width r)
      rw [UnicodeTables.toLowercase, UnicodeTables.toLowercase, ← text]
      exact matchesFrom_covers lower
    split
    · exact ⟨_, rfl, exact, by rintro _ ⟨⟩, row, col, rfl⟩
    · rename_i some_
      obtain ⟨idx, chosen, bound⟩ := nearest_lt state some_
      have inside := exact.inside (List.getElem_mem bound)
      simp only [chosen, Option.bind_some, List.getElem?_eq_getElem bound]
      refine ⟨_, rfl, exact, fun k same => ?_, inside.1, inside.2, rfl⟩
      cases same
      exact bound

/-! ## Keys -/

/-- The query of the search that a key makes. -/
def searchesFor (state : CopyModeState) (key : CopyKey) : Option (List Char) :=
  match state.phase with
  | .search _ query =>
      match key.code with
      | .enter => some query
      | .backspace => some query.dropLast
      | .char c => if key.ctrl then none else some (query ++ [c])
      | _ => none
  | _ =>
      match key.code with
      | .char 'n' | .char 'N' => state.lastSearch
      | _ => none

/-- What holds after a key that was pressed, or repeated. -/
structure After (tables : UnicodeTables) (screen : WholeGrid) (key : CopyKey) (state next : CopyModeState) : Prop where
  inside : next.Inside screen.height screen.width
  current : next.InRange
  searched : ∀ query, state.searchesFor key = some query → Exact tables screen query next.searchMatches

theorem clamp_inside (state : CopyModeState) (screen : WholeGrid) :
    (state.clamp screen.toGrid).Inside screen.height screen.width := by
  have rows := screen.height_pos
  have cols := screen.width_pos
  refine ⟨?_, ?_, ?_⟩
  · simp only [clamp]
    omega
  · simp only [clamp]
    omega
  · simp only [clamp]
    cases state.phase with
    | visualChar anchorRow anchorCol => exact ⟨by omega, by omega⟩
    | visualLine anchorRow =>
        dsimp only
        omega
    | navigate => trivial
    | search forward query => trivial

theorem searchesFor_clamp (state : CopyModeState) (screen : Grid) (key : CopyKey) :
    (state.clamp screen).searchesFor key = state.searchesFor key := by
  simp only [searchesFor, clamp]
  cases state.phase <;> rfl

/-- A state on this screen. -/
structure Shown (screen : WholeGrid) (state : CopyModeState) : Prop where
  rows : state.paneRows = screen.height
  cols : state.paneCols = screen.width
  inside : state.Inside screen.height screen.width
  current : state.InRange

theorem Shown.inside_pane (shown : Shown screen state) : state.Inside state.paneRows state.paneCols := by
  rw [shown.rows, shown.cols]
  exact shown.inside

variable {key : CopyKey}

/-- A key that makes no search and leaves the matches alone. -/
theorem Shown.after_quiet (shown : Shown screen state) (quiet : state.searchesFor key = none) {next : CopyModeState}
    (inside : next.Inside screen.height screen.width) (searchMatches : next.searchMatches = state.searchMatches)
    (currentMatchIdx : next.currentMatchIdx = state.currentMatchIdx) : After tables screen key state next where
  inside := inside
  current idx here := by
    rw [searchMatches]
    exact shown.current idx (currentMatchIdx ▸ here)
  searched query search := by
    rw [quiet] at search
    cases search

theorem Shown.after_moved (shown : Shown screen state) (quiet : state.searchesFor key = none) {next : CopyModeState}
    (moved : Moved state next) : After tables screen key state next := by
  obtain ⟨row, col, rfl, inRow, inCol⟩ := moved
  rw [shown.rows] at inRow
  rw [shown.cols] at inCol
  exact shown.after_quiet quiet ⟨inRow, inCol, shown.inside.anchor⟩ rfl rfl

/-- A search whose result goes on in another phase, or with other settings. -/
theorem Searched.after {next last : CopyModeState} (searched : Searched tables screen state next)
    {before : CopyModeState} (search : before.searchesFor key = some state.searchQuery)
    (cursorRow : last.cursorRow = next.cursorRow) (cursorCol : last.cursorCol = next.cursorCol)
    (searchMatches : last.searchMatches = next.searchMatches) (currentMatchIdx : last.currentMatchIdx = next.currentMatchIdx)
    (anchor : match last.phase with
      | .visualChar anchorRow anchorCol => anchorRow < screen.height ∧ anchorCol < screen.width
      | .visualLine anchorRow => anchorRow < screen.height
      | _ => True) : After tables screen key before last where
  inside := ⟨cursorRow ▸ searched.row, cursorCol ▸ searched.col, anchor⟩
  current idx here := by
    rw [searchMatches]
    exact searched.current idx (currentMatchIdx ▸ here)
  searched query same := by
    rw [search] at same
    cases same
    rw [searchMatches]
    exact searched.exact

theorem searchKey_after (key : CopyKey) (shown : Shown screen state) {forward : Bool} {query : List Char}
    (phase : state.phase = .search forward query) :
    ∃ outcome, state.searchKey tables screen.toGrid key forward query = some outcome ∧
      After tables screen key state outcome.state := by
  have inside := shown.inside
  have stays (quiet : state.searchesFor key = none) : After tables screen key state state :=
    shown.after_quiet quiet inside rfl rfl
  unfold searchKey
  split
  · rename_i code
    obtain ⟨next, ended, searched⟩ := executeSearch_searched tables screen
      { state with lastSearch := some query, lastSearchForward := forward } shown.rows shown.cols inside.row inside.col
    simp only [ended, Option.bind_eq_bind, Option.bind_some]
    refine ⟨_, rfl, searched.after ?_ rfl rfl rfl rfl trivial⟩
    simp only [searchesFor, phase, code, searchQuery]
  · rename_i code
    refine ⟨_, rfl, ⟨inside.row, inside.col, trivial⟩, nofun, fun query search => ?_⟩
    simp only [searchesFor, phase, code] at search
    cases search
  · rename_i code
    obtain ⟨next, ended, searched⟩ := executeSearch_searched tables screen
      { state with phase := .search forward query.dropLast } shown.rows shown.cols inside.row inside.col
    simp only [ended, Option.bind_eq_bind, Option.bind_some]
    refine ⟨_, rfl, searched.after ?_ rfl rfl rfl rfl ?_⟩
    · simp only [searchesFor, phase, code, searchQuery]
    · rw [searched.phase]
      trivial
  · rename_i c code
    split
    · rename_i ctrl
      exact ⟨_, rfl, stays (by simp only [searchesFor, phase, code, ctrl, if_true])⟩
    · rename_i plain
      obtain ⟨next, ended, searched⟩ := executeSearch_searched tables screen
        { state with phase := .search forward (query ++ [c]) } shown.rows shown.cols inside.row inside.col
      simp only [ended, Option.bind_eq_bind, Option.bind_some]
      refine ⟨_, rfl, searched.after ?_ rfl rfl rfl rfl ?_⟩
      · simp only [searchesFor, phase, code, searchQuery, if_neg plain]
      · rw [searched.phase]
        trivial
  · rename_i notEnter _ notBackspace notChar
    refine ⟨_, rfl, stays ?_⟩
    simp only [searchesFor, phase]

/-- Outside the search prompt only `n` and `N` search. -/
theorem searchesFor_none (calm : ∀ forward query, state.phase ≠ .search forward query)
    (code : key.code ≠ .char 'n' ∧ key.code ≠ .char 'N') : state.searchesFor key = none := by
  unfold searchesFor
  split
  · rename_i search
    exact absurd search (calm _ _)
  · split
    · rename_i n
      exact absurd n code.1
    · rename_i n
      exact absurd n code.2
    · rfl

theorem searchesFor_last (calm : ∀ forward query, state.phase ≠ .search forward query)
    (code : key.code = .char 'n' ∨ key.code = .char 'N') : state.searchesFor key = state.lastSearch := by
  unfold searchesFor
  split
  · rename_i search
    exact absurd search (calm _ _)
  · rcases code with n | n
    · simp only [n]
    · simp only [n]

/-- The last search runs again, in one direction or the other. -/
theorem search_again (tables : UnicodeTables) (shown : Shown screen state)
    (calm : ∀ forward query, state.phase ≠ .search forward query)
    (code : key.code = .char 'n' ∨ key.code = .char 'N') (searched : state.lastSearch.isSome = true) (forward : Bool) :
    ∃ next, ({ state with lastSearchForward := forward } : CopyModeState).executeSearch tables screen.toGrid = some next ∧
      ∀ back, After tables screen key state { next with lastSearchForward := back } := by
  have inside := shown.inside
  obtain ⟨next, ended, found⟩ := executeSearch_searched tables screen { state with lastSearchForward := forward }
    shown.rows shown.cols inside.row inside.col
  have same : state.lastSearch = some ({ state with lastSearchForward := forward } : CopyModeState).searchQuery := by
    obtain ⟨query, last⟩ := Option.isSome_iff_exists.mp searched
    unfold searchQuery
    split
    · rename_i search
      exact absurd search (calm _ _)
    · rw [last]
      rfl
  refine ⟨next, ended, fun back => found.after ((searchesFor_last calm code).trans same) rfl rfl rfl rfl ?_⟩
  dsimp only
  rw [found.phase]
  exact inside.anchor

theorem motionKey_after (shown : Shown screen state) (calm : ∀ forward query, state.phase ≠ .search forward query) :
    ∃ outcome, state.motionKey tables screen.toGrid key = some outcome ∧ After tables screen key state outcome.state := by
  have inside := shown.inside
  have row := shown.inside_pane.row
  have col := shown.inside_pane.col
  have moves {next : CopyModeState} (code : key.code ≠ .char 'n' ∧ key.code ≠ .char 'N') (moved : Moved state next) :
      After tables screen key state next := shown.after_moved (searchesFor_none calm code) moved
  have stays (code : key.code ≠ .char 'n' ∧ key.code ≠ .char 'N') : After tables screen key state state :=
    moves code shown.inside_pane.stays
  have turns {next : CopyModeState} (code : key.code ≠ .char 'n' ∧ key.code ≠ .char 'N')
      (inside : next.Inside screen.height screen.width) (searchMatches : next.searchMatches = state.searchMatches)
      (currentMatchIdx : next.currentMatchIdx = state.currentMatchIdx) : After tables screen key state next :=
    shown.after_quiet (searchesFor_none calm code) inside searchMatches currentMatchIdx
  have left (code : key.code ≠ .char 'n' ∧ key.code ≠ .char 'N') :
      After tables screen key state { state with cursorCol := state.cursorCol - 1 } := moves code (moved_to row (by omega))
  have right (code : key.code ≠ .char 'n' ∧ key.code ≠ .char 'N') : After tables screen key state
      (if state.cursorCol + 1 < state.paneCols then { state with cursorCol := state.cursorCol + 1 } else state) := by
    split
    · rename_i inner
      exact moves code (moved_to row inner)
    · exact stays code
  have down (code : key.code ≠ .char 'n' ∧ key.code ≠ .char 'N') :
      ∃ outcome, (if state.cursorRow + 1 < state.paneRows then
        some ({ state := { state with cursorRow := state.cursorRow + 1 } } : CopyOutcome)
        else some { state, scroll := some (.down 1) }) = some outcome ∧ After tables screen key state outcome.state := by
    split
    · rename_i inner
      exact ⟨_, rfl, moves code (moved_to inner col)⟩
    · exact ⟨_, rfl, stays code⟩
  have up (code : key.code ≠ .char 'n' ∧ key.code ≠ .char 'N') :
      ∃ outcome, (if state.cursorRow > 0 then
        (do some ({ state := { state with cursorRow := ← sub? state.cursorRow 1 } } : CopyOutcome))
        else some { state, scroll := some (.up 1) }) = some outcome ∧ After tables screen key state outcome.state := by
    split
    · rename_i inner
      simp only [sub?_of_le inner, Option.bind_eq_bind, Option.bind_some]
      exact ⟨_, rfl, moves code (moved_to (by omega) col)⟩
    · exact ⟨_, rfl, stays code⟩
  have yanks (code : key.code ≠ .char 'n' ∧ key.code ≠ .char 'N') :
      ∃ outcome, state.yank screen.toGrid = some outcome ∧ After tables screen key state outcome.state := by
    simp only [yank, yankText_eq, Option.bind_eq_bind, Option.bind_some]
    split
    · exact ⟨_, rfl, stays code⟩
    · exact ⟨_, rfl, stays code⟩
  have opens (code : key.code ≠ .char 'n' ∧ key.code ≠ .char 'N') (forward : Bool) :
      After tables screen key state { state with phase := .search forward [] } :=
    turns code ⟨inside.row, inside.col, trivial⟩ rfl rfl
  have unsearched (code : key.code = .char 'n' ∨ key.code = .char 'N') (never : ¬state.lastSearch.isSome = true) :
      After tables screen key state state := by
    refine shown.after_quiet ?_ inside rfl rfl
    rw [searchesFor_last calm code]
    simpa using never
  unfold motionKey
  split
  all_goals rename_i code
  · exact ⟨_, rfl, left (by simp [code])⟩
  · exact ⟨_, rfl, left (by simp [code])⟩
  · exact ⟨_, rfl, right (by simp [code])⟩
  · exact ⟨_, rfl, right (by simp [code])⟩
  · exact down (by simp [code])
  · exact down (by simp [code])
  · exact up (by simp [code])
  · exact up (by simp [code])
  · obtain ⟨next, ended, moved⟩ := moveWordForward_moved tables screen.toGrid shown.inside_pane
    simp only [ended, Option.bind_eq_bind, Option.bind_some]
    exact ⟨_, rfl, moves (by simp [code]) moved⟩
  · obtain ⟨next, ended, moved⟩ := moveWordBackward_moved tables screen.toGrid shown.inside_pane
    simp only [ended, Option.bind_eq_bind, Option.bind_some]
    exact ⟨_, rfl, moves (by simp [code]) moved⟩
  · exact ⟨_, rfl, moves (by simp [code]) (moved_to row (by omega))⟩
  · exact ⟨_, rfl, moves (by simp [code]) (moved_to row (lineEnd_lt (by omega)))⟩
  · exact ⟨_, rfl, moves (by simp [code]) (moved_to row (firstNonBlank_lt (by omega)))⟩
  · exact ⟨_, rfl, moves (by simp [code]) (moved_to (by omega) (by omega))⟩
  · exact ⟨_, rfl, moves (by simp [code]) (moved_to (by omega) (by omega))⟩
  · split
    · exact ⟨_, rfl, stays (by simp [code])⟩
    · exact ⟨_, rfl, stays (by simp [code])⟩
  · split
    · exact ⟨_, rfl, stays (by simp [code])⟩
    · exact ⟨_, rfl, stays (by simp [code])⟩
  · exact ⟨_, rfl, stays (by simp [code])⟩
  · exact ⟨_, rfl, stays (by simp [code])⟩
  · exact ⟨_, rfl, moves (by simp [code]) (moved_to (by omega) col)⟩
  · exact ⟨_, rfl, moves (by simp [code]) (moved_to (by omega) col)⟩
  · exact ⟨_, rfl, moves (by simp [code]) (moved_to (by omega) col)⟩
  · split
    · exact ⟨_, rfl, turns (by simp [code]) ⟨inside.row, inside.col, trivial⟩ rfl rfl⟩
    · exact ⟨_, rfl, turns (by simp [code]) ⟨inside.row, inside.col, inside.row, inside.col⟩ rfl rfl⟩
  · split
    · exact ⟨_, rfl, turns (by simp [code]) ⟨inside.row, inside.col, trivial⟩ rfl rfl⟩
    · exact ⟨_, rfl, turns (by simp [code]) ⟨inside.row, inside.col, inside.row⟩ rfl rfl⟩
  · split
    · exact ⟨_, rfl, turns (by simp [code]) ⟨inside.row, inside.col, inside.row, inside.col⟩ rfl rfl⟩
    · exact ⟨_, rfl, stays (by simp [code])⟩
  · exact yanks (by simp [code])
  · exact yanks (by simp [code])
  · exact ⟨_, rfl, opens (by simp [code]) true⟩
  · exact ⟨_, rfl, opens (by simp [code]) false⟩
  · split
    · rename_i searched
      obtain ⟨next, ended, after⟩ := search_again tables shown calm (.inl code) searched state.lastSearchForward
      simp only [ended, Option.bind_eq_bind, Option.bind_some]
      exact ⟨_, rfl, after next.lastSearchForward⟩
    · rename_i never
      exact ⟨_, rfl, unsearched (.inl code) never⟩
  · split
    · rename_i searched
      obtain ⟨next, ended, after⟩ := search_again tables shown calm (.inr code) searched (!state.lastSearchForward)
      simp only [ended, Option.bind_eq_bind, Option.bind_some]
      exact ⟨_, rfl, after (!next.lastSearchForward)⟩
    · rename_i never
      exact ⟨_, rfl, unsearched (.inr code) never⟩
  · exact ⟨_, rfl, stays (by simp [code])⟩
  · exact ⟨_, rfl, stays (by simp [code])⟩
  · exact ⟨_, rfl, stays ⟨by assumption, by assumption⟩⟩

/-- `handle_key` never panics, comes to an end, and keeps copy mode on the screen. -/
theorem handleKey_after (tables : UnicodeTables) (screen : WholeGrid) (key : CopyKey) (current : state.InRange) :
    ∃ outcome, state.handleKey tables screen.toGrid key = some outcome ∧ outcome.state.InRange ∧
      (key.release = true → outcome.state = state) ∧ (key.release = false → After tables screen key state outcome.state) := by
  simp only [handleKey]
  split
  · rename_i release
    exact ⟨_, rfl, current, fun _ => rfl, fun pressed => by simp [release] at pressed⟩
  · rename_i pressed
    have shown : Shown screen (state.clamp screen.toGrid) := ⟨rfl, rfl, clamp_inside state screen, current⟩
    have clamped {next : CopyModeState} (after : After tables screen key (state.clamp screen.toGrid) next) :
        After tables screen key state next :=
      ⟨after.inside, after.current, searchesFor_clamp state screen.toGrid key ▸ after.searched⟩
    split
    · rename_i forward query phase
      obtain ⟨outcome, ended, after⟩ := searchKey_after key shown phase
      exact ⟨outcome, ended, after.current, fun release => absurd release pressed, fun _ => clamped after⟩
    · rename_i calm
      obtain ⟨outcome, ended, after⟩ := motionKey_after shown calm
      exact ⟨outcome, ended, after.current, fun release => absurd release pressed, fun _ => clamped after⟩

/-- Keys, each with the screen that is shown when it comes. -/
def typed (tables : UnicodeTables) (keys : List (CopyKey × WholeGrid)) (state : CopyModeState) : Option CopyModeState :=
  keys.foldlM (fun state entry => (state.handleKey tables entry.2.toGrid entry.1).map (·.state)) state

theorem typed_inRange (tables : UnicodeTables) (state : CopyModeState) (keys : List (CopyKey × WholeGrid))
    (current : state.InRange) :
    ∃ next, state.typed tables keys = some next ∧ next.InRange := by
  induction keys generalizing state with
  | nil => exact ⟨state, rfl, current⟩
  | cons entry keys ih =>
      obtain ⟨outcome, ended, further, _⟩ := handleKey_after tables entry.2 entry.1 current
      obtain ⟨next, rest, last⟩ := ih outcome.state further
      refine ⟨next, ?_, last⟩
      rw [typed, List.foldlM_cons, ended]
      exact rest

/-- After any keys in copy mode, with the screen changing as it likes between them, the next key does what it should. -/
theorem copyMode_stays (tables : UnicodeTables) (paneRows paneCols : Nat) (keys : List (CopyKey × WholeGrid)) (key : CopyKey)
    (screen : WholeGrid) :
    ∃ state outcome, (CopyModeState.new paneRows paneCols).typed tables keys = some state ∧
      state.handleKey tables screen.toGrid key = some outcome ∧ (key.release = true → outcome.state = state) ∧
      (key.release = false → After tables screen key state outcome.state) := by
  obtain ⟨state, ended, current⟩ := typed_inRange tables (new paneRows paneCols) keys nofun
  obtain ⟨outcome, handled, _, release, pressed⟩ := handleKey_after tables screen key current
  exact ⟨state, outcome, ended, handled, release, pressed⟩

end CopyModeState

end Ezpn
