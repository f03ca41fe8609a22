import Ezpn.Keymap
import Ezpn.Server.Execute

/-!
# Command palette

The prompt for typed commands with its list of suggestions: the fuzzy index, the
keys of the prompt, and the rows that the overlay shows. How a text matches an
entry is a parameter.
-/

set_option autoImplicit false

namespace Ezpn

/-! ## Fuzzy index -/

inductive EntryKind where
  | session
  | pane
  | tab
  | command
  | recent
  deriving DecidableEq, Repr

structure Entry where
  kind : EntryKind
  display : String
  payload : String
  bias : Int := 0
  deriving DecidableEq, Repr

namespace Entry

def new (kind : EntryKind) (display : String) : Entry := { kind, display, payload := display }

def withPayload (payload : String) (entry : Entry) : Entry := { entry with payload }

def withBias (bias : Int) (entry : Entry) : Entry := { entry with bias }

end Entry

structure Match where
  index : Nat
  score : Int
  deriving DecidableEq, Repr

/-- The order of the sort: higher scores first, then the order of declaration. -/
def Match.before (a b : Match) : Bool := b.score < a.score || a.score = b.score && a.index ≤ b.index

namespace FuzzyIndex

/-- `FuzzyIndex::search`. The score of a query and a display text comes from the matcher. -/
def search (score : List Char → String → Option Int) (entries : List Entry) (query : List Char) (limit : Nat) :
    List Match :=
  if query = [] then (entries.zipIdx.take limit).map fun (entry, i) => ⟨i, entry.bias⟩
  else
    let scored := entries.zipIdx.filterMap fun (entry, i) =>
      (score query entry.display).map fun score => ({ index := i, score := score + entry.bias } : Match)
    (scored.mergeSort Match.before).take limit

theorem search_index {score : List Char → String → Option Int} {entries : List Entry} {query : List Char} {limit : Nat}
    {m : Match} (found : m ∈ search score entries query limit) : m.index < entries.length := by
  unfold search at found
  split at found
  · obtain ⟨⟨entry, i⟩, member, rfl⟩ := List.mem_map.mp found
    exact (List.mem_zipIdx' (List.mem_of_mem_take member)).1
  · have member := List.mem_mergeSort.mp (List.mem_of_mem_take found)
    obtain ⟨⟨entry, i⟩, listed, scored⟩ := List.mem_filterMap.mp member
    obtain ⟨_, -, rfl⟩ := Option.map_eq_some_iff.mp scored
    exact (List.mem_zipIdx' listed).1

end FuzzyIndex

/-! ## History -/

def historyCap : Nat := 200

def historyViewCap : Nat := 20

def historyMaxCommand : Nat := 4096

structure History where
  commands : List String := []
  deriving DecidableEq

namespace History

def push (cmd : String) (history : History) : History :=
  if Text.trim cmd.toList = [] ∨ historyMaxCommand < cmd.utf8ByteSize then history
  else { commands := (cmd :: history.commands.filter fun c => c ≠ cmd).take historyCap }

def asEntries (history : History) : List Entry :=
  (history.commands.take historyViewCap).map fun c => (Entry.new .recent c).withBias 500

end History

/-! ## Prompt -/

section Build
variable {R G : Type}

/-- The entry of a live pane. -/
def paneEntry (panes : PaneMap G) (pid : Nat) : Entry :=
  let label := (panes[pid]?.bind (·.name)).getD ("pane " ++ toString pid)
  (Entry.new .pane ("pane: " ++ label)).withPayload ("select-pane " ++ toString pid)

/-- The candidates of `build_palette_index`. -/
def paletteEntries (history : History) (panes : PaneMap G) (layout : Layout R) (sessionName : String) : List Entry :=
  Keymap.vocabulary.map (Entry.new .command) ++ history.asEntries ++ layout.paneIds.map (paneEntry panes) ++
    [(Entry.new .session ("@" ++ sessionName)).withPayload "display-message current"]

end Build

/-- The input mode, `some` buffer in the prompt, and what the loop keeps beside it. -/
structure Palette where
  buffer : Option (List Char)
  query : List Char
  selected : Nat
  fuzzyIndex : Option (List Entry)
  history : History
  deriving DecidableEq

namespace Palette

/-- `enter_command_palette`, once the candidates are listed. -/
def enter (entries : List Entry) (history : History) : Palette where
  buffer := some []
  query := []
  selected := 0
  fuzzyIndex := some entries
  history := history

/-- The prompt is left. -/
def leave (history : History) : Palette where
  buffer := none
  query := []
  selected := 0
  fuzzyIndex := none
  history := history

variable (score : List Char → String → Option Int)

/-- The entry that completion picks: the match at the selected index, if there is one. -/
def picked (p : Palette) : Option Entry :=
  p.fuzzyIndex.bind fun entries =>
    (FuzzyIndex.search score entries p.query 6)[p.selected]?.bind fun m => entries[m.index]?

def complete (p : Palette) : Palette :=
  match p.picked score with
  | some entry => { p with buffer := some entry.payload.toList, query := entry.payload.toList, selected := 0 }
  | none => p

/-- A key in the prompt, and the command line that Enter executes. -/
def key (code : KeyCode) (ctrl : Bool) (p : Palette) : Palette × Option String :=
  match p.buffer with
  | none => (p, none)
  | some buffer =>
      match code with
      | .char c =>
          if ctrl then (p, none)
          else ({ p with buffer := some (buffer ++ [c]), query := p.query ++ [c], selected := 0 }, none)
      | .backspace => ({ p with buffer := some buffer.dropLast, query := p.query.dropLast, selected := 0 }, none)
      | .up => ({ p with selected := p.selected - 1 }, none)
      | .down => ({ p with selected := min (p.selected + 1) usizeMax }, none)
      | .tab => (p.complete score, none)
      | .enter =>
          let cmd := String.ofList buffer
          (leave (if Text.trim buffer = [] then p.history else p.history.push cmd), some cmd)
      | .esc => (leave p.history, none)
      | _ => (p, none)

/-- The loop over a pasted text, which ends at the first character that does not fit. -/
def pasteInto (buffer : List Char) : List Char → List Char
  | [] => buffer
  | c :: cs =>
      if (String.ofList buffer).utf8ByteSize + c.utf8Size > 4096 then buffer else pasteInto (buffer ++ [c]) cs

def paste (text : String) (p : Palette) : Palette :=
  match p.buffer with
  | none => p
  | some buffer =>
      let buffer := pasteInto buffer (text.toList.filter fun c => !Text.isControl c)
      { p with buffer := some buffer, query := buffer }

end Palette

/-! ## Overlay -/

structure PaletteOverlayState where
  query : List Char
  «matches» : List Match
  selected : Nat
  entries : List Entry

/-- What the loop hands to the overlay. -/
def Palette.overlay (score : List Char → String → Option Int) (p : Palette) : Option PaletteOverlayState :=
  match p.buffer, p.fuzzyIndex with
  | some _, some entries =>
      let «matches» := FuzzyIndex.search score entries p.query 6
      some { query := p.query, «matches», selected := min p.selected («matches».length - 1), entries }
  | _, _ => none

namespace PaletteOverlayState

/-- The match rows that `draw_palette_overlay` paints from the top, and which of them is highlighted. -/
def rows (state : PaletteOverlayState) (termWidth termHeight : Nat) : List (Bool × Option Entry) :=
  if termWidth < 10 ∨ termHeight < 8 then []
  else
    let visibleRows := 6
    let first := state.selected - (visibleRows - 1)
    ((state.matches.drop first).take visibleRows).zipIdx.map fun (m, i) =>
      (i + first = state.selected, state.entries[m.index]?)

/-- The entry in the highlighted row. -/
def highlighted (state : PaletteOverlayState) (termWidth termHeight : Nat) : Option Entry :=
  ((state.rows termWidth termHeight).find? (·.1)).bind (·.2)

end PaletteOverlayState

end Ezpn
