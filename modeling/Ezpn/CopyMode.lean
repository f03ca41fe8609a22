import Ezpn.Lib.Expansion
import Ezpn.Selection

/-!
# Copy mode

`handle_key` of `copy_mode.rs` with its motions and its search. Nothing is the
outcome of a panic, or of a loop that has not ended within the given rounds.
-/

set_option autoImplicit false

namespace Ezpn

/-- A screen where the parser keeps every wide character whole. -/
structure WholeGrid extends Grid where
  whole : ∀ row ∈ scrollback ++ rows, ∀ (col : Nat) (cell next : Cell), row.cells[col]? = some cell → cell.wide = true →
    row.cells[col + 1]? = some next → next.wideContinuation = true

/-- What the code takes from the tables of Unicode. -/
structure UnicodeTables where
  /-- `char::is_alphanumeric` -/
  alphanumeric : Char → Bool
  /-- `char::to_lowercase` -/
  lower : Char → List Char
  /-- whether a capital sigma ends a word, from the texts before and after it -/
  finalSigma : List Char → List Char → Bool
  lower_ne_nil : ∀ c, lower c ≠ []

namespace UnicodeTables

def lowerAt (tables : UnicodeTables) (before : List Char) (c : Char) (after : List Char) : List Char :=
  if c = 'Σ' then [if tables.finalSigma before after then 'ς' else 'σ'] else tables.lower c

def toLowercaseFrom (tables : UnicodeTables) (before : List Char) : List Char → List Char
  | [] => []
  | c :: after => tables.lowerAt before c after ++ tables.toLowercaseFrom (before ++ [c]) after

/-- `str::to_lowercase`. -/
def toLowercase (tables : UnicodeTables) (text : List Char) : List Char := tables.toLowercaseFrom [] text

end UnicodeTables

/-! ## Arithmetic and slices that may panic -/

def sub? (a b : Nat) : Option Nat := if b ≤ a then some (a - b) else none

/-- `str::len`. -/
def textLen (text : List Char) : Nat := Expansion.weight Char.utf8Size text

/-- `&text[start..]`. -/
def sliceFrom (start : Nat) : List Char → Option (List Char)
  | [] => if start = 0 then some [] else none
  | c :: text =>
      if start = 0 then some (c :: text)
      else if start < c.utf8Size then none
      else sliceFrom (start - c.utf8Size) text

/-- `str::find`. -/
def findText (pattern : List Char) : List Char → Option Nat
  | [] => if pattern = [] then some 0 else none
  | c :: text =>
      if pattern.isPrefixOf (c :: text) then some 0 else (findText pattern text).map (c.utf8Size + ·)

/-! ## Motions -/

def cellChar (screen : Grid) (r c : Nat) : Char :=
  match screen.cell r c with
  | none => ' '
  | some cell => cell.contents.headD ' '

def isWordChar (tables : UnicodeTables) (ch : Char) : Bool := tables.alphanumeric ch || ch == '_'

namespace CopyModeState

def lineEnd (state : CopyModeState) (screen : Grid) : Nat :=
  (List.range state.paneCols).foldl (fun last c => if cellChar screen state.cursorRow c ≠ ' ' then c else last) 0

def firstNonBlank (state : CopyModeState) (screen : Grid) : Nat :=
  ((List.range state.paneCols).find? fun c => cellChar screen state.cursorRow c ≠ ' ').getD 0

end CopyModeState

/-- Where a loop over cells stops. -/
inductive Stop where
  | at (r c : Nat)
  /-- no cell is left -/
  | edge
  deriving DecidableEq

/-- The next cell in reading order. -/
def nextCell (rows cols r c : Nat) : Option (Nat × Nat) :=
  if c + 1 ≥ cols then if r + 1 ≥ rows then none else some (r + 1, 0) else some (r, c + 1)

section Forward
variable (tables : UnicodeTables) (screen : Grid) (rows cols : Nat)

def skipWordClass (startWord : Bool) : (fuel r c : Nat) → Option Stop
  | 0, _, _ => none
  | fuel + 1, r, c =>
      match nextCell rows cols r c with
      | none => some .edge
      | some (r, c) =>
          let ch := cellChar screen r c
          if isContinuation screen r c then skipWordClass startWord fuel r c
          else if isWordChar tables ch != startWord || ch == ' ' then some (.at r c)
          else skipWordClass startWord fuel r c

def skipBlanks : (fuel r c : Nat) → Option Stop
  | 0, _, _ => none
  | fuel + 1, r, c =>
      if cellChar screen r c ≠ ' ' then some (.at r c)
      else match nextCell rows cols r c with
        | none => some .edge
        | some (r, c) => skipBlanks fuel r c

end Forward

def moveWordForward (tables : UnicodeTables) (screen : Grid) (state : CopyModeState) : Option CopyModeState :=
  if state.paneRows = 0 ∨ state.paneCols = 0 then some state
  else do
    let rounds := state.paneRows * state.paneCols
    let startWord := isWordChar tables (cellChar screen state.cursorRow state.cursorCol)
    match ← skipWordClass tables screen state.paneRows state.paneCols startWord rounds state.cursorRow state.cursorCol with
    | .edge => some state
    | .at r c =>
        match ← skipBlanks screen state.paneRows state.paneCols rounds r c with
        | .edge => some state
        | .at r c => some { state with cursorRow := r, cursorCol := c }

/-- The cell before in reading order. -/
def previousCell (cols r c : Nat) : Option Stop :=
  if c = 0 then
    if r = 0 then some .edge
    else do some (.at (← sub? r 1) (← sub? cols 1))
  else do some (.at r (← sub? c 1))

def skipBlanksBack (screen : Grid) (cols : Nat) : (fuel r c : Nat) → Option Stop
  | 0, _, _ => none
  | fuel + 1, r, c =>
      if cellChar screen r c ≠ ' ' then some (.at r c)
      else do
        match ← previousCell cols r c with
        | .edge => some .edge
        | .at r c => skipBlanksBack screen cols fuel r c

def skipWordBack (tables : UnicodeTables) (screen : Grid) (targetWord : Bool) (r : Nat) : (fuel c : Nat) → Option Nat
  | 0, _ => none
  | fuel + 1, c =>
      if c = 0 then some c
      else do
        let left ← sub? c 1
        let previousCol := if isContinuation screen r left then left - 1 else left
        let prev := cellChar screen r previousCol
        if isWordChar tables prev != targetWord || prev == ' ' then some c
        else skipWordBack tables screen targetWord r fuel previousCol

/-- The column of a wide character, from either half. -/
def glyphCol (screen : Grid) (r c : Nat) : Option Nat := if c > 0 && isContinuation screen r c then sub? c 1 else some c

def moveWordBackward (tables : UnicodeTables) (screen : Grid) (state : CopyModeState) : Option CopyModeState :=
  if state.paneRows = 0 ∨ state.paneCols = 0 then some state
  else do
    match ← previousCell state.paneCols state.cursorRow state.cursorCol with
    | .edge => some state
    | .at r c =>
        let c ← glyphCol screen r c
        match ← skipBlanksBack screen state.paneCols (state.paneRows * state.paneCols) r c with
        | .edge => some { state with cursorRow := 0, cursorCol := 0 }
        | .at r c =>
            let targetWord := isWordChar tables (cellChar screen r c)
            let c ← skipWordBack tables screen targetWord r state.paneCols c
            some { state with cursorRow := r, cursorCol := c }

/-! ## Yank -/

/-- `String::truncate`. -/
def truncateText (length : Nat) (text : List Char) : Option (List Char) :=
  if length ≤ text.length then some (text.take length) else none

namespace CopyModeState

/-- A row of `extract_selection`; `lastCol` is the last column of the screen. -/
def yankRow (screen : Grid) (state : CopyModeState) (lastCol sr sc er ec r : Nat) : Option (List Char) := do
  let cStart ← glyphCol screen r (if r = sr then sc else 0)
  let row := yankedRow screen r cStart (if r = er then ec else lastCol)
  if r < er && screen.rowWrapped r && !state.linewise then truncateText row.contentEnd row.text
  else if r < er then some (Text.trimEnd row.text ++ ['\n'])
  else some (Text.trimEnd row.text)

/-- `extract_selection`, with what may panic in it. -/
def yankText (screen : Grid) (state : CopyModeState) : Option (Option (List Char)) :=
  match state.selection with
  | none => some none
  | some (sr, sc, er, ec) =>
      if sr ≥ screen.height ∨ sc ≥ screen.width ∨ screen.width = 0 then some none
      else do
        let lastCol ← sub? screen.width 1
        let er := min er (screen.height - 1)
        let rows ← (List.range' sr (er + 1 - sr)).mapM (state.yankRow screen lastCol sr sc er (min ec lastCol))
        some (if rows.flatten = [] then none else some rows.flatten)

end CopyModeState

/-! ## Search -/

/-- `row_text` and `col_map`. -/
structure RowText where
  text : List Char := []
  colMap : List (Nat × Nat) := []

def Cell.endCol (cell : Cell) (cols c : Nat) : Nat := min (c + if cell.wide then 2 else 1) cols

def RowText.cell (tables : UnicodeTables) (cols : Nat) (row : RowText) (c : Nat) (cell : Cell) : RowText :=
  if cell.wideContinuation then row
  else
    { text := row.text ++ cell.shown
      colMap := row.colMap ++ List.replicate (textLen (tables.toLowercase cell.shown)) (c, cell.endCol cols c) }

def RowText.column (tables : UnicodeTables) (screen : Grid) (cols r : Nat) (row : RowText) (c : Nat) : RowText :=
  match screen.cell r c with
  | none => row
  | some cell => row.cell tables cols c cell

def rowText (tables : UnicodeTables) (screen : Grid) (cols r : Nat) : RowText :=
  (List.range cols).foldl (RowText.column tables screen cols r) {}

/-- The loop over the matches of a row. -/
def searchRow (lowerQuery lowerText : List Char) (colMap : List (Nat × Nat)) (r : Nat) :
    (fuel start : Nat) → List (Nat × Nat × Nat) → Option (List (Nat × Nat × Nat))
  | 0, _, _ => none
  | fuel + 1, start, found => do
      let rest ← sliceFrom start lowerText
      match findText lowerQuery rest with
      | none => some found
      | some pos =>
          let bytePos := start + pos
          let (col, _) ← colMap[bytePos]?
          let last ← sub? (bytePos + textLen lowerQuery) 1
          let (_, endCol) ← colMap[last]?
          let len ← sub? endCol col
          let next ← (← sliceFrom bytePos lowerText).head?
          searchRow lowerQuery lowerText colMap r fuel (bytePos + next.utf8Size) (found ++ [(r, col, len)])

def searchRows (tables : UnicodeTables) (screen : Grid) (lowerQuery : List Char) (cols : Nat) :
    List Nat → List (Nat × Nat × Nat) → Option (List (Nat × Nat × Nat))
  | [], found => some found
  | r :: rs, found => do
      let row := rowText tables screen cols r
      let lowerText := tables.toLowercase row.text
      searchRows tables screen lowerQuery cols rs
        (← searchRow lowerQuery lowerText row.colMap r (lowerText.length + 1) 0 found)

/-- `(r, c) > cursor`, and `<` the other way. -/
def isBefore (a b : Nat × Nat) : Bool := a.1 < b.1 || (a.1 == b.1 && a.2 < b.2)

namespace CopyModeState

def searching (state : CopyModeState) : Bool :=
  match state.phase with
  | .search .. => true
  | _ => false

def searchQuery (state : CopyModeState) : List Char :=
  match state.phase with
  | .search _ query => query
  | _ => state.lastSearch.getD []

def searchForward (state : CopyModeState) : Bool :=
  match state.phase with
  | .search forward _ => forward
  | _ => state.lastSearchForward

/-- The match that the search jumps to. -/
def nearest (state : CopyModeState) (found : List (Nat × Nat × Nat)) : Option Nat :=
  let cursor := (state.cursorRow, state.cursorCol)
  if state.searchForward then
    match found.findIdx? fun (r, c, _) => isBefore cursor (r, c) || (state.searching && (r, c) == cursor) with
    | some idx => some idx
    | none => some 0
  else
    match found.reverse.findIdx? fun (r, c, _) => isBefore (r, c) cursor || (state.searching && (r, c) == cursor) with
    | some idx => do sub? (← sub? found.length 1) idx
    | none => sub? found.length 1

/-- `execute_search`. -/
def executeSearch (tables : UnicodeTables) (screen : Grid) (state : CopyModeState) : Option CopyModeState :=
  if state.searchQuery = [] then some { state with searchMatches := [], currentMatchIdx := none }
  else do
    let found ← searchRows tables screen (tables.toLowercase state.searchQuery) state.paneCols (List.range state.paneRows) []
    if found = [] then some { state with searchMatches := found, currentMatchIdx := none }
    else
      let idx ← state.nearest found
      let (r, c, _) ← found[idx]?
      some { state with searchMatches := found, currentMatchIdx := some idx, cursorRow := r, cursorCol := c }

/-! ## Keys -/

/-- The clamps at the start of `handle_key`. -/
def clamp (state : CopyModeState) (screen : Grid) : CopyModeState :=
  { state with
    paneRows := screen.height
    paneCols := screen.width
    cursorRow := min state.cursorRow (screen.height - 1)
    cursorCol := min state.cursorCol (screen.width - 1)
    phase := match state.phase with
      | .visualChar anchorRow anchorCol => .visualChar (min anchorRow (screen.height - 1)) (min anchorCol (screen.width - 1))
      | .visualLine anchorRow => .visualLine (min anchorRow (screen.height - 1))
      | phase => phase }

end CopyModeState

inductive CopyKeyCode where
  | char (c : Char)
  | left | right | up | down | enter | esc | backspace | pageUp | pageDown | other
  deriving DecidableEq

structure CopyKey where
  code : CopyKeyCode
  ctrl : Bool := false
  release : Bool := false

inductive CopyAction where
  | redraw
  | copyAndExit (text : List Char)
  | exit
  | none
  deriving DecidableEq

/-- A call of `scroll_up` or of `scroll_down`. -/
inductive ScrollCall where
  | up (lines : Nat)
  | down (lines : Nat)
  deriving DecidableEq

structure CopyOutcome where
  state : CopyModeState
  action : CopyAction := .redraw
  scroll : Option ScrollCall := none

namespace CopyModeState

/-- The keys of the search prompt. -/
def searchKey (tables : UnicodeTables) (screen : Grid) (key : CopyKey) (forward : Bool) (query : List Char)
    (state : CopyModeState) : Option CopyOutcome :=
  match key.code with
  | .enter => do
      let searched ← { state with lastSearch := some query, lastSearchForward := forward }.executeSearch tables screen
      some { state := { searched with phase := .navigate } }
  | .esc => some { state := { state with searchMatches := [], currentMatchIdx := none, phase := .navigate } }
  | .backspace => do
      some { state := ← { state with phase := .search forward query.dropLast }.executeSearch tables screen }
  | .char c =>
      if key.ctrl then some { state, action := .none }
      else do some { state := ← { state with phase := .search forward (query ++ [c]) }.executeSearch tables screen }
  | _ => some { state, action := .none }

def yank (screen : Grid) (state : CopyModeState) : Option CopyOutcome := do
  match ← state.yankText screen with
  | some text => some { state, action := .copyAndExit text }
  | none => some { state, action := .none }

def visualChar (state : CopyModeState) : CopyModeState :=
  { state with phase := .visualChar state.cursorRow state.cursorCol }

/-- The keys outside of the search prompt. -/
def motionKey (tables : UnicodeTables) (screen : Grid) (key : CopyKey) (state : CopyModeState) : Option CopyOutcome :=
  match key.code with
  | .left | .char 'h' => some { state := { state with cursorCol := state.cursorCol - 1 } }
  | .right | .char 'l' =>
      some { state := if state.cursorCol + 1 < state.paneCols then { state with cursorCol := state.cursorCol + 1 } else state }
  | .down | .char 'j' =>
      if state.cursorRow + 1 < state.paneRows then some { state := { state with cursorRow := state.cursorRow + 1 } }
      else some { state, scroll := some (.down 1) }
  | .up | .char 'k' =>
      if state.cursorRow > 0 then do some { state := { state with cursorRow := ← sub? state.cursorRow 1 } }
      else some { state, scroll := some (.up 1) }
  | .char 'w' => do some { state := ← moveWordForward tables screen state }
  | .char 'b' => do some { state := ← moveWordBackward tables screen state }
  | .char '0' => some { state := { state with cursorCol := 0 } }
  | .char '$' => some { state := { state with cursorCol := state.lineEnd screen } }
  | .char '^' => some { state := { state with cursorCol := state.firstNonBlank screen } }
  | .char 'g' => some { state := { state with cursorRow := 0, cursorCol := 0 }, scroll := some (.up usizeMax) }
  | .char 'G' =>
      some { state := { state with cursorRow := state.paneRows - 1, cursorCol := 0 }, scroll := some (.down usizeMax) }
  | .char 'u' => if key.ctrl then some { state, scroll := some (.up (state.paneRows / 2)) } else some { state, action := .none }
  | .char 'd' => if key.ctrl then some { state, scroll := some (.down (state.paneRows / 2)) } else some { state, action := .none }
  | .pageUp => some { state, scroll := some (.up state.paneRows) }
  | .pageDown => some { state, scroll := some (.down state.paneRows) }
  | .char 'H' => some { state := { state with cursorRow := 0 } }
  | .char 'M' => some { state := { state with cursorRow := state.paneRows / 2 } }
  | .char 'L' => some { state := { state with cursorRow := state.paneRows - 1 } }
  | .char 'v' =>
      match state.phase with
      | .visualChar .. => some { state := { state with phase := .navigate } }
      | _ => some { state := state.visualChar }
  | .char 'V' =>
      match state.phase with
      | .visualLine _ => some { state := { state with phase := .navigate } }
      | _ => some { state := { state with phase := .visualLine state.cursorRow } }
  | .char ' ' =>
      match state.phase with
      | .navigate => some { state := state.visualChar }
      | _ => some { state, action := .none }
  | .enter | .char 'y' => state.yank screen
  | .char '/' => some { state := { state with phase := .search true [] } }
  | .char '?' => some { state := { state with phase := .search false [] } }
  | .char 'n' =>
      if state.lastSearch.isSome then do some { state := ← state.executeSearch tables screen } else some { state }
  | .char 'N' =>
      if state.lastSearch.isSome then do
        let searched ← { state with lastSearchForward := !state.lastSearchForward }.executeSearch tables screen
        some { state := { searched with lastSearchForward := !searched.lastSearchForward } }
      else some { state }
  | .esc | .char 'q' => some { state, action := .exit }
  | _ => some { state, action := .none }

/-- `handle_key`. -/
def handleKey (tables : UnicodeTables) (screen : Grid) (key : CopyKey) (state : CopyModeState) : Option CopyOutcome :=
  if key.release then some { state, action := .none }
  else
    let state := state.clamp screen
    match state.phase with
    | .search forward query => state.searchKey tables screen key forward query
    | _ => state.motionKey tables screen key

end CopyModeState

end Ezpn
