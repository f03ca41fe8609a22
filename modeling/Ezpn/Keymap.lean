import Ezpn.Settings
import Ezpn.Text
import Ezpn.Toml

/-!
# Key bindings

The tables of key bindings: the syntax of keys and of actions, the common form
of a key and of a reported event, and the tables of a configuration.
-/

set_option autoImplicit false

namespace Ezpn

namespace Keymap

/-! ## Actions -/

inductive Dir where
  | up
  | down
  | left
  | right
  deriving DecidableEq, Repr

def Dir.parse (s : String) : Option Dir :=
  match s with
  | "up" | "U" | "u" => some .up
  | "down" | "D" | "d" => some .down
  | "left" | "L" | "l" => some .left
  | "right" | "R" | "r" => some .right
  | _ => none

inductive Action where
  | splitWindowH
  | splitWindowV
  | killPane
  | newWindow (name : Option String)
  | renameWindow
  | killWindow
  | selectWindow (index : Nat)
  | nextWindow
  | previousWindow
  | selectPane (dir : Dir)
  | resizePane (dir : Dir) (amount : Nat)
  | swapPane (up : Bool)
  | equalize
  | selectLayout (name : String)
  | detachSession
  | killSession
  | copyMode
  | cancel
  | beginSelection
  | copySelectionAndCancel
  | reloadConfig
  | commandPrompt
  | toggleSettings
  | toggleBroadcast
  | displayMessage (text : String)
  | setOption (key value : String)
  | setBuffer (name value : String)
  | pasteBuffer (name : Option String)
  | listBuffers
  deriving DecidableEq, Repr

/-- `Action::vocabulary`. -/
def vocabulary : List String :=
  ["split-window-h", "split-window-v", "kill-pane", "new-window", "rename-window", "kill-window", "select-window",
   "next-window", "previous-window", "select-pane", "resize-pane", "swap-pane", "equalize", "select-layout",
   "detach-session", "kill-session", "copy-mode", "cancel", "begin-selection", "copy-selection-and-cancel",
   "reload-config", "command-prompt", "toggle-settings", "toggle-broadcast", "display-message", "set-option",
   "set-buffer", "paste-buffer", "list-buffers"]

inductive ActionParseError where
  | empty
  | unknownAction (name : String)
  | missingArgument (action arg : String)
  | invalidArgument (action arg : String)
  deriving DecidableEq, Repr

/-- `Display for ActionParseError`. -/
def ActionParseError.display : ActionParseError → String
  | .empty => "empty action"
  | .unknownAction name => "unknown action: " ++ name
  | .missingArgument action arg => action ++ ": missing argument <" ++ arg ++ ">"
  | .invalidArgument action arg => action ++ ": invalid argument: " ++ arg

/-- The first word and the trimmed rest, where there is a white space. -/
def splitWord (s : String) : Option (String × String) :=
  (Text.splitOnce Text.isWhitespace s.toList).map fun (head, rest) =>
    (String.ofList head, String.ofList (Text.trim rest))

def parseNewWindow (rest : String) : Except ActionParseError Action :=
  if rest = "" then .ok (.newWindow none)
  else match Text.stripPrefix "-n".toList rest.toList with
    | some stripped =>
        let name := String.ofList (Text.trim stripped)
        if name = "" then .error (.missingArgument "new-window" "NAME") else .ok (.newWindow (some name))
    | none => .ok (.newWindow (some rest))

def parseResizePane (rest : String) : Except ActionParseError Action :=
  let (dirPart, amountPart) := (splitWord rest).getD (rest, "")
  match Dir.parse dirPart with
  | none => .error (.invalidArgument "resize-pane" dirPart)
  | some dir =>
      if amountPart = "" then .ok (.resizePane dir 1)
      else match Text.parseUnsigned 65535 amountPart.toList with
        | none => .error (.invalidArgument "resize-pane" amountPart)
        | some amount => .ok (.resizePane dir amount)

def parseSwapPane (rest : String) : Except ActionParseError Action :=
  match rest with
  | "up" | "U" | "u" | "" => .ok (.swapPane true)
  | "down" | "D" | "d" => .ok (.swapPane false)
  | other => .error (.invalidArgument "swap-pane" other)

def parseSelectWindow (rest : String) : Except ActionParseError Action :=
  match Text.parseUnsigned usizeMax rest.toList with
  | none => .error (.invalidArgument "select-window" rest)
  | some index => .ok (.selectWindow index)

/-- An action whose argument is the rest of the text, which must not be empty. -/
def parseArgument (action arg : String) (build : String → Action) (rest : String) : Except ActionParseError Action :=
  if rest = "" then .error (.missingArgument action arg) else .ok (build rest)

/-- An action with a key and a value. -/
def parsePair (action : String) (build : String → String → Action) (rest : String) : Except ActionParseError Action :=
  match splitWord rest with
  | none => .error (.missingArgument action "VALUE")
  | some (key, value) => .ok (build key value)

def parseAction (input : String) : Except ActionParseError Action :=
  let trimmed := String.ofList (Text.trim input.toList)
  if trimmed = "" then .error .empty
  else
    let (head, rest) := (splitWord trimmed).getD (trimmed, "")
    match head with
    | "split-window-h" => .ok .splitWindowH
    | "split-window-v" => .ok .splitWindowV
    | "kill-pane" => .ok .killPane
    | "kill-window" => .ok .killWindow
    | "new-window" => parseNewWindow rest
    | "rename-window" => .ok .renameWindow
    | "select-window" => parseSelectWindow rest
    | "next-window" => .ok .nextWindow
    | "previous-window" => .ok .previousWindow
    | "select-pane" =>
        match Dir.parse rest with
        | none => .error (.invalidArgument "select-pane" rest)
        | some dir => .ok (.selectPane dir)
    | "resize-pane" => parseResizePane rest
    | "swap-pane" => parseSwapPane rest
    | "equalize" => .ok .equalize
    | "select-layout" => parseArgument "select-layout" "NAME" .selectLayout rest
    | "detach-session" => .ok .detachSession
    | "kill-session" => .ok .killSession
    | "copy-mode" => .ok .copyMode
    | "cancel" => .ok .cancel
    | "begin-selection" => .ok .beginSelection
    | "copy-selection-and-cancel" => .ok .copySelectionAndCancel
    | "reload-config" => .ok .reloadConfig
    | "command-prompt" => .ok .commandPrompt
    | "toggle-settings" => .ok .toggleSettings
    | "toggle-broadcast" => .ok .toggleBroadcast
    | "display-message" => parseArgument "display-message" "TEXT" .displayMessage rest
    | "set-option" => parsePair "set-option" .setOption rest
    | "set-buffer" =>
        if rest = "" then .error (.missingArgument "set-buffer" "NAME") else parsePair "set-buffer" .setBuffer rest
    | "paste-buffer" => .ok (.pasteBuffer (if rest = "" then none else some rest))
    | "list-buffers" => .ok .listBuffers
    | other => .error (.unknownAction other)

/-! ## Keys -/

/-- All modifiers that a terminal can report. -/
structure EventModifiers extends KeyModifiers where
  superKey : Bool := false
  hyper : Bool := false
  metaKey : Bool := false
  deriving DecidableEq, Repr

/-- A `KeyEvent` as the terminal library hands it over. -/
structure KeyReport where
  code : KeyCode
  modifiers : EventModifiers := {}
  deriving DecidableEq, Repr

structure KeyChord where
  code : KeyCode
  mods : KeyModifiers
  deriving DecidableEq, Repr

namespace KeyChord

def new (code : KeyCode) (mods : KeyModifiers) : KeyChord :=
  match code with
  | .char c =>
      if c.isAlpha then
        let mods := if c.isUpper && !mods.control then { mods with shift := true } else mods
        { code := .char c.toLower, mods }
      else { code := .char c, mods := { mods with shift := false } }
  | other => { code := other, mods }

def fromEvent (ev : KeyReport) : KeyChord :=
  let mods : KeyModifiers :=
    { shift := ev.modifiers.shift, control := ev.modifiers.control, alt := ev.modifiers.alt }
  new ev.code mods

end KeyChord

inductive KeyParseError where
  | empty
  | unknownNamedKey (s : String)
  | invalidModifier (s : String)
  | danglingModifier
  deriving DecidableEq, Repr

/-- `Display for KeyParseError`. -/
def KeyParseError.display : KeyParseError → String
  | .empty => "empty key spec"
  | .unknownNamedKey s => "unknown named key: " ++ s
  | .invalidModifier s => "invalid modifier: " ++ s
  | .danglingModifier => "modifier without a key"

/-- The loop over the modifiers, which stops at the first character that starts none. -/
def modifiers (mods : KeyModifiers) : List Char → KeyModifiers × List Char
  | c :: '-' :: rest =>
      if c = 'C' ∨ c = 'c' then modifiers { mods with control := true } rest
      else if c = 'M' ∨ c = 'm' then modifiers { mods with alt := true } rest
      else if c = 'S' ∨ c = 's' then modifiers { mods with shift := true } rest
      else (mods, c :: '-' :: rest)
  | rest => (mods, rest)

def functionKey : List Char → Option KeyCode
  | c :: num =>
      if c = 'F' ∨ c = 'f' then
        match Text.parseUnsigned 255 num with
        | some n => if 1 ≤ n ∧ n ≤ 12 then some (.f n) else none
        | none => none
      else none
  | [] => none

def namedKeys : List (String × KeyCode) :=
  [("Enter", .enter), ("enter", .enter), ("Return", .enter), ("return", .enter),
   ("Esc", .esc), ("esc", .esc), ("Escape", .esc), ("escape", .esc),
   ("Tab", .tab), ("tab", .tab),
   ("BackTab", .backTab), ("backtab", .backTab),
   ("Backspace", .backspace), ("backspace", .backspace), ("BS", .backspace),
   ("Delete", .delete), ("delete", .delete), ("Del", .delete),
   ("Insert", .insert), ("insert", .insert), ("Ins", .insert),
   ("Home", .home), ("home", .home),
   ("End", .end), ("end", .end),
   ("PageUp", .pageUp), ("pageup", .pageUp), ("PgUp", .pageUp),
   ("PageDown", .pageDown), ("pagedown", .pageDown), ("PgDn", .pageDown), ("PgDown", .pageDown),
   ("Up", .up), ("up", .up),
   ("Down", .down), ("down", .down),
   ("Left", .left), ("left", .left),
   ("Right", .right), ("right", .right),
   ("Space", .char ' '), ("space", .char ' ')]

/-- What is left after the modifiers: a function key, a named key or a single character. -/
def keyCode (rest : List Char) : Except KeyParseError KeyCode :=
  match functionKey rest with
  | some code => .ok code
  | none =>
      match namedKeys.lookup (String.ofList rest), rest with
      | some code, _ => .ok code
      | none, [c] => .ok (.char c)
      | none, other => .error (.unknownNamedKey (String.ofList other))

def parseChord (input : String) : Except KeyParseError KeyChord :=
  match Text.trim input.toList with
  | [] => .error .empty
  | trimmed =>
      match modifiers {} trimmed with
      | (_, []) => .error .danglingModifier
      | (mods, rest) => do
          let code ← keyCode rest
          .ok (.new code mods)

example :
    parseChord "C-Right" = .ok ⟨.right, { control := true }⟩ ∧ parseChord " A" = .ok ⟨.char 'a', { shift := true }⟩ ∧
      parseChord "M-S-f12" = .ok ⟨.f 12, { alt := true, shift := true }⟩ ∧ parseChord "C-" = .error .danglingModifier ∧
      parseChord "F13" = .error (.unknownNamedKey "F13") := by
  decide +kernel

end Keymap

/-! ## Tables -/

inductive KeymapTable where
  | prefixTable
  | normal
  | copyMode
  deriving DecidableEq, Repr

namespace KeymapTable

def name : KeymapTable → String
  | .prefixTable => "prefix"
  | .normal => "normal"
  | .copyMode => "copy_mode"

def fromStr (s : String) : Option KeymapTable :=
  match s with
  | "prefix" => some .prefixTable
  | "normal" => some .normal
  | "copy_mode" | "copy-mode" => some .copyMode
  | _ => none

def all : List KeymapTable := [.prefixTable, .normal, .copyMode]

end KeymapTable

open Keymap in
structure Keymap where
  tables : KeymapTable → KeyChord → Option Action := fun _ _ => none
  cleared : List KeymapTable := []

structure KeymapLoadError where
  table : String
  key : String
  message : String
  deriving DecidableEq, Repr

/-- `Display for KeymapLoadError`. -/
def KeymapLoadError.display (error : KeymapLoadError) : String :=
  "[keymap." ++ error.table ++ "] " ++ error.key ++ ": " ++ error.message

namespace Keymap

def lookup (keymap : Keymap) (table : KeymapTable) (chord : KeyChord) : Option Action :=
  keymap.tables table chord

def bind (keymap : Keymap) (table : KeymapTable) (chord : KeyChord) (action : Action) : Keymap :=
  { keymap with
    tables := fun t c => if t = table ∧ c = chord then some action else keymap.tables t c }

def clear (keymap : Keymap) (table : KeymapTable) : Keymap where
  tables t c := if t = table then none else keymap.tables t c
  cleared := table :: keymap.cleared

def allowsBuiltinFallback (keymap : Keymap) (table : KeymapTable) : Bool := !keymap.cleared.contains table

/-- The flag `clear` of a table, which drops the bindings of the layers below. -/
def applyClear (keymap : Keymap) (table : KeymapTable) (raw : List (String × Toml)) : Except KeymapLoadError Keymap :=
  match raw.lookup "clear" with
  | none => .ok keymap
  | some v =>
      match v.asBool with
      | some true => .ok (keymap.clear table)
      | some false => .ok keymap
      | none => .error { table := table.name, key := "clear", message := "must be a boolean" }

/-- The chord and the action of an entry. -/
def parseEntry (table : KeymapTable) (key : String) (value : Toml) : Except KeymapLoadError (KeyChord × Action) := do
  let fail (message : String) : KeymapLoadError := { table := table.name, key, message }
  match value.asStr with
  | none => .error (fail "value must be a string action")
  | some actionStr =>
      let chord ← (parseChord key).mapError fun e => fail ("invalid key: " ++ e.display)
      let action ← (parseAction actionStr).mapError fun e => fail ("invalid action: " ++ e.display)
      .ok (chord, action)

/-- The loop of `apply_table`, with the warnings so far. -/
def applyEntries (table : KeymapTable) : List (String × Toml) → Keymap → List String →
    Except KeymapLoadError (Keymap × List String)
  | [], keymap, warnings => .ok (keymap, warnings)
  | (key, value) :: raw, keymap, warnings =>
      if key = "clear" then applyEntries table raw keymap warnings
      else do
        let (chord, action) ← parseEntry table key value
        let warnings :=
          if (keymap.lookup table chord).isSome then
            warnings ++ ["[keymap." ++ table.name ++ "] " ++ key ++ " overrides previous binding"]
          else warnings
        applyEntries table raw (keymap.bind table chord action) warnings

def applyTable (keymap : Keymap) (table : KeymapTable) (raw : List (String × Toml)) :
    Except KeymapLoadError (Keymap × List String) := do
  let keymap ← keymap.applyClear table raw
  applyEntries table raw keymap []

/-- The loop of `apply_keymap_section`. -/
def applyTables : List (String × Toml) → Keymap → List String → Except KeymapLoadError (Keymap × List String)
  | [], keymap, warnings => .ok (keymap, warnings)
  | (subName, subValue) :: raw, keymap, warnings =>
      match KeymapTable.fromStr subName with
      | none =>
          .error
            { table := subName, key := ""
              message := "unknown keymap table (valid: " ++ ", ".intercalate (KeymapTable.all.map KeymapTable.name) ++ ")" }
      | some table =>
          match subValue.asTable with
          | none => .error { table := subName, key := "", message := "must be a table" }
          | some subTable => do
              let (keymap, more) ← keymap.applyTable table subTable
              applyTables raw keymap (warnings ++ more)

def applyKeymapSection (keymap : Keymap) (raw : List (String × Toml)) : Except KeymapLoadError (Keymap × List String) :=
  applyTables raw keymap []

/-- The tables of the shipped default keymap. -/
def defaultKeymap : List (String × Toml) :=
  [("copy_mode", .table
     [("Enter", .string "copy-selection-and-cancel"), ("Esc", .string "cancel"), ("q", .string "cancel"),
      ("v", .string "begin-selection"), ("y", .string "copy-selection-and-cancel")]),
   ("normal", .table
     [("F1", .string "toggle-settings"), ("F2", .string "equalize"), ("M-Down", .string "select-pane down"),
      ("M-Left", .string "select-pane left"), ("M-Right", .string "select-pane right"),
      ("M-Up", .string "select-pane up")]),
   ("prefix", .table
     [("\"", .string "split-window-v"), ("%", .string "split-window-h"), ("&", .string "kill-window"),
      (",", .string "rename-window"), ("0", .string "select-window 0"), ("1", .string "select-window 1"),
      ("2", .string "select-window 2"), ("3", .string "select-window 3"), ("4", .string "select-window 4"),
      ("5", .string "select-window 5"), ("6", .string "select-window 6"), ("7", .string "select-window 7"),
      ("8", .string "select-window 8"), ("9", .string "select-window 9"), (":", .string "command-prompt"),
      ("=", .string "equalize"), ("Down", .string "select-pane down"), ("Left", .string "select-pane left"),
      ("Right", .string "select-pane right"), ("Up", .string "select-pane up"), ("[", .string "copy-mode"),
      ("c", .string "new-window"), ("d", .string "detach-session"), ("n", .string "next-window"),
      ("p", .string "previous-window"), ("r", .string "reload-config"), ("x", .string "kill-pane"),
      ("\x7b", .string "swap-pane up"), ("\x7d", .string "swap-pane down")])]

/-- The keymap that the bindings of the user are layered on. The tables are part of
the program, which does not start when they are invalid. -/
def loadDefaults : Keymap :=
  match applyKeymapSection {} defaultKeymap with
  | .ok (keymap, _) => keymap
  | .error _ => {}

end Keymap

end Ezpn
