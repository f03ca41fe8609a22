import Ezpn.Lib.Trimmed
import Ezpn.Screen

/-!
# Selected text

The two extractors of selected text: the one behind a mouse drag in `bootstrap.rs`
and the one behind a yank in `copy_mode.rs`, with the state it reads.
-/

set_option autoImplicit false

namespace Ezpn

namespace Text

/-- `str::trim_end`. -/
def trimEnd (cs : List Char) : List Char := Trimmed.trim isWhitespace cs

end Text

/-- The endpoints of a selection in reading order. -/
def normalize (sr sc er ec : Nat) : Nat × Nat × Nat × Nat :=
  if sr < er ∨ (sr = er ∧ sc ≤ ec) then (sr, sc, er, ec) else (er, ec, sr, sc)

namespace Cell

/-- A cell as selected text: blank cells are spaces. -/
def shown (cell : Cell) : List Char := if cell.contents = [] then [' '] else cell.contents

theorem shown_ne_nil (cell : Cell) : cell.shown ≠ [] := by
  unfold shown
  split
  · simp
  · assumption

end Cell

/-! ## Mouse drag -/

/-- The cells from a column on, up to the last column or the end of the row. -/
def draggedCells (screen : Grid) (r colEnd : Nat) : (fuel c : Nat) → List Char
  | 0, _ => []
  | fuel + 1, c =>
      if c > colEnd then []
      else match screen.cell r c with
        | none => []
        | some cell => cell.shown ++ draggedCells screen r colEnd fuel (c + 1)

def draggedRow (screen : Grid) (r colStart colEnd : Nat) : List Char :=
  Text.trimEnd (draggedCells screen r colEnd (colEnd + 1 - colStart) colStart)

/-- `extract_selected_text`. -/
def extractSelectedText (screen : Grid) (startRow startCol endRow endCol : Nat) : List Char :=
  let (sr, sc, er, ec) := normalize startRow startCol endRow endCol
  (List.range' sr (er + 1 - sr)).flatMap fun r =>
    let trimmed := draggedRow screen r (if r = sr then sc else 0) (if r = er then ec else u16Max)
    if r < er then trimmed ++ ['\n'] else trimmed

/-! ## Copy mode -/

/-- The sub-phases of copy mode. -/
inductive Phase where
  | navigate
  | visualChar (anchorRow anchorCol : Nat)
  | visualLine (anchorRow : Nat)
  | search (forward : Bool) (query : List Char)
  deriving DecidableEq, Repr

structure CopyModeState where
  phase : Phase := .navigate
  cursorRow : Nat
  cursorCol : Nat := 0
  paneRows : Nat
  paneCols : Nat
  lastSearch : Option (List Char) := none
  lastSearchForward : Bool := true
  /-- row, column and length -/
  searchMatches : List (Nat × Nat × Nat) := []
  currentMatchIdx : Option Nat := none
  deriving DecidableEq, Repr

namespace CopyModeState

def new (paneRows paneCols : Nat) : CopyModeState where
  cursorRow := paneRows - 1
  paneRows := paneRows
  paneCols := paneCols

/-- The selected range, if any. -/
def selection (state : CopyModeState) : Option (Nat × Nat × Nat × Nat) :=
  if state.paneRows = 0 ∨ state.paneCols = 0 then none
  else match state.phase with
    | .visualChar anchorRow anchorCol => some (normalize anchorRow anchorCol state.cursorRow state.cursorCol)
    | .visualLine anchorRow =>
        let (sr, er) := if anchorRow ≤ state.cursorRow then (anchorRow, state.cursorRow) else (state.cursorRow, anchorRow)
        some (sr, 0, er, state.paneCols - 1)
    | _ => none

def linewise (state : CopyModeState) : Bool :=
  match state.phase with
  | .visualLine _ => true
  | _ => false

end CopyModeState

/-- The text of a row so far, and where its last contents end. -/
structure YankedRow where
  text : List Char := []
  contentEnd : Nat := 0

def YankedRow.cell (row : YankedRow) (cell : Cell) : YankedRow :=
  if cell.wideContinuation then row
  else if cell.contents = [] then { row with text := row.text ++ [' '] }
  else { text := row.text ++ cell.contents, contentEnd := (row.text ++ cell.contents).length }

def isContinuation (screen : Grid) (r c : Nat) : Bool :=
  match screen.cell r c with
  | none => false
  | some cell => cell.wideContinuation

/-- A wide character is copied whole from either half. -/
def wholeStart (screen : Grid) (r c : Nat) : Nat :=
  if c > 0 && isContinuation screen r c then c - 1 else c

def YankedRow.column (screen : Grid) (r : Nat) (row : YankedRow) (c : Nat) : YankedRow :=
  match screen.cell r c with
  | none => row
  | some cell => row.cell cell

def yankedRow (screen : Grid) (r cStart cEnd : Nat) : YankedRow :=
  (List.range' cStart (cEnd + 1 - cStart)).foldl (YankedRow.column screen r) {}

/-- `extract_selection`. -/
def extractSelection (state : CopyModeState) (screen : Grid) : Option (List Char) :=
  match state.selection with
  | none => none
  | some (sr, sc, er, ec) =>
      if sr ≥ screen.height ∨ sc ≥ screen.width ∨ screen.width = 0 then none
      else
        let er := min er (screen.height - 1)
        let ec := min ec (screen.width - 1)
        let text := (List.range' sr (er + 1 - sr)).flatMap fun r =>
          let row := yankedRow screen r (wholeStart screen r (if r = sr then sc else 0))
            (if r = er then ec else screen.width - 1)
          if r < er && screen.rowWrapped r && !state.linewise then row.text.take row.contentEnd
          else if r < er then Text.trimEnd row.text ++ ['\n']
          else Text.trimEnd row.text
        if text = [] then none else some text

end Ezpn
