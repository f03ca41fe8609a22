import Ezpn.Hooks.Loading
import Ezpn.Keymap
import Ezpn.Pane
import Ezpn.Terminal.State
import Ezpn.Theme

/-!
# Configuration

The configuration file: its sections, the strict check of a whole document, and
the lenient reading that keeps a default wherever a value cannot be used. The
lenient reading also takes the older flat format.
-/

set_option autoImplicit false

namespace Ezpn

open Hooks (EventHook RawHook)

/-! ## Values -/

inductive ScrollbackEviction where
  | oldestLine
  | largestLine
  deriving DecidableEq, Repr

def ScrollbackEviction.fromStr (s : String) : Option ScrollbackEviction :=
  match s with
  | "oldest_line" => some .oldestLine
  | "largest_line" => some .largestLine
  | _ => none

def BorderStyle.fromStr (s : String) : Option BorderStyle :=
  match s with
  | "single" => some .single
  | "rounded" => some .rounded
  | "heavy" => some .heavy
  | "double" => some .double
  | "none" | "borderless" => some .none
  | _ => Option.none

inductive HintMode where
  | auto
  | normal
  | prefixMode
  | copyMode
  | search
  deriving DecidableEq, Repr

def HintMode.fromStr (s : String) : Option HintMode :=
  match s with
  | "auto" => some .auto
  | "normal" => some .normal
  | "prefix" => some .prefixMode
  | "copy_mode" => some .copyMode
  | "search" => some .search
  | _ => none

structure KeyHint where
  key : String
  label : String
  deriving DecidableEq, Repr

inductive SegmentKind where
  | builtin (name : String)
  | keyHints (mode : HintMode) (maxWidth : Nat) (keys : List KeyHint)
  | literal (text : String)
  deriving DecidableEq, Repr

structure StatusBarSegment where
  name : String
  kind : SegmentKind
  deriving DecidableEq, Repr

structure StatusBarConfig where
  left : List String := []
  right : List String := []
  segments : List StatusBarSegment := []
  deriving DecidableEq, Repr

structure EzpnConfig where
  border : BorderStyle
  shell : String
  scrollback : Nat
  scrollbackBytes : Nat
  scrollbackEviction : ScrollbackEviction
  showStatusBar : Bool
  showTabBar : Bool
  prefixKey : Char
  clipboard : ClipboardPolicy
  clipboardCopyCommand : List String
  clipboardPasteCommand : List String
  theme : Theme
  statusBar : StatusBarConfig
  persistScrollback : Bool

def scrollbackMax : Nat := 100000

def scrollbackBytesMax : Nat := 4 * 1024 * 1024 * 1024

/-- The largest `clipboard.osc52_max_bytes`. -/
def clipboardHardCap : Nat := 16 * 1024 * 1024

/-- The variable `SHELL` of the process, and its floating point: a decimal number
times a multiplier, rounded to a machine word, if the text is a number. -/
class ConfigEnv where
  shell : Option String
  scaled : List Char → Nat → Option Nat

section Environment
variable [TomlCrate] [ConfigEnv]

def EzpnConfig.default : EzpnConfig where
  border := .rounded
  shell := ConfigEnv.shell.getD "/bin/sh"
  scrollback := 10000
  scrollbackBytes := defaultScrollbackBytes
  scrollbackEviction := .oldestLine
  showStatusBar := true
  showTabBar := true
  prefixKey := 'b'
  clipboard := {}
  clipboardCopyCommand := []
  clipboardPasteCommand := []
  theme := Theme.defaultTheme
  statusBar := {}
  persistScrollback := false

/-! ## Sections -/

structure RawConfig where
  global : Option (List (String × Toml))
  keys : Option (List (String × Toml))
  hooks : List RawHook
  keymap : Option (List (String × Toml))
  clipboard : Option (List (String × Toml))
  theme : Option (List (String × Toml))
  statusBar : Option (List (String × Toml))

structure GlobalSection where
  border : Option String
  shell : Option String
  scrollback : Option Int
  scrollbackBytes : Option Toml
  scrollbackEviction : Option String
  statusBar : Option Bool
  tabBar : Option Bool
  persistScrollback : Option Bool

structure KeysSection where
  prefixKey : Option String

structure ClipboardSection where
  osc52Set : Option Osc52SetPolicy
  osc52Get : Option Osc52GetPolicy
  osc52MaxBytes : Option Int
  copyCommand : Option (List String)
  pasteCommand : Option (List String)

def Osc52SetPolicy.ofToml (v : Toml) : Option Osc52SetPolicy :=
  match v.asStr with
  | some "allow" => some .allow
  | some "confirm" => some .confirm
  | some "deny" => some .deny
  | _ => none

def Osc52GetPolicy.ofToml (v : Toml) : Option Osc52GetPolicy :=
  match v.asStr with
  | some "allow" => some .allow
  | some "deny" => some .deny
  | _ => none

/-- `toml::from_str::<RawConfig>`. -/
def RawConfig.parse (contents : String) : Except String RawConfig := do
  let doc ← TomlCrate.document contents
  let table (key : String) := Toml.optional doc key Toml.asTable "a map"
  let hooks ← Toml.optional doc "hooks" Toml.asArray "a sequence"
  .ok
    { global := ← table "global"
      keys := ← table "keys"
      hooks := ← (hooks.getD []).mapM RawHook.ofToml
      keymap := ← table "keymap"
      clipboard := ← table "clipboard"
      theme := ← table "theme"
      statusBar := ← table "status_bar" }

def GlobalSection.ofTable (tbl : List (String × Toml)) : Except String GlobalSection := do
  .ok
    { border := ← Toml.optional tbl "border" Toml.asStr "a string"
      shell := ← Toml.optional tbl "shell" Toml.asStr "a string"
      scrollback := ← Toml.optional tbl "scrollback" Toml.asInteger "i64"
      scrollbackBytes := ← Toml.optional tbl "scrollback_bytes" some "any valid TOML value"
      scrollbackEviction := ← Toml.optional tbl "scrollback_eviction" Toml.asStr "a string"
      statusBar := ← Toml.optional tbl "status_bar" Toml.asBool "a boolean"
      tabBar := ← Toml.optional tbl "tab_bar" Toml.asBool "a boolean"
      persistScrollback := ← Toml.optional tbl "persist_scrollback" Toml.asBool "a boolean" }

def KeysSection.ofTable (tbl : List (String × Toml)) : Except String KeysSection := do
  .ok { prefixKey := ← Toml.optional tbl "prefix" Toml.asStr "a string" }

def ClipboardSection.ofTable (tbl : List (String × Toml)) : Except String ClipboardSection := do
  .ok
    { osc52Set := ← Toml.optional tbl "osc52_set" Osc52SetPolicy.ofToml "`allow`, `confirm` or `deny`"
      osc52Get := ← Toml.optional tbl "osc52_get" Osc52GetPolicy.ofToml "`allow` or `deny`"
      osc52MaxBytes := ← Toml.optional tbl "osc52_max_bytes" Toml.asInteger "i64"
      copyCommand := ← Toml.optional tbl "copy_command" Toml.asStrings "a sequence"
      pasteCommand := ← Toml.optional tbl "paste_command" Toml.asStrings "a sequence" }

/-! ## Fields -/

def parsePrefix (value : String) : Option Char :=
  match value.toList with
  | [c] => if c.isAlpha then some c.toLower else none
  | _ => none

def validCommandArgv (argv : List String) : Bool :=
  !(argv.head?.any fun s => Text.trim s.toList = []) && !(argv.any fun s => '\x00' ∈ s.toList)

/-- The factor of a size suffix. -/
def sizeMultiplier (suffix : String) : Option Nat :=
  match suffix with
  | "" | "b" => some 1
  | "k" | "kb" | "kib" => some 1024
  | "m" | "mb" | "mib" => some (1024 * 1024)
  | "g" | "gb" | "gib" => some (1024 * 1024 * 1024)
  | _ => none

def parseByteSizeStr (s : String) : Except String Nat :=
  let trimmed := Text.trim s.toList
  if trimmed = [] then .error "empty string"
  else
    let numeric (c : Char) : Bool := c.isDigit || c = '.' || c = '-'
    let numPart := Text.trim (trimmed.takeWhile numeric)
    let suffix := String.ofList ((Text.trim (trimmed.dropWhile numeric)).map Char.toLower)
    if numPart = [] then .error ("missing numeric prefix in '" ++ s ++ "'")
    else if numPart.head? = some '-' then .error "must be non-negative"
    else
      match sizeMultiplier suffix with
      | none => .error ("unknown suffix '" ++ suffix ++ "'")
      | some multiplier =>
          if '.' ∈ numPart then
            match ConfigEnv.scaled numPart multiplier with
            | none => .error ("cannot parse number '" ++ String.ofList numPart ++ "'")
            | some bytes => .ok bytes
          else
            match Text.parseUnsigned (2 ^ 64 - 1) numPart with
            | none => .error ("cannot parse integer '" ++ String.ofList numPart ++ "'")
            | some v => .ok (min (v * multiplier) (2 ^ 64 - 1))

def parseScrollbackBytes : Toml → Except String Nat
  | .integer n => if n < 0 then .error "must be non-negative" else .ok n.toNat
  | .string s => parseByteSizeStr s
  | other => .error ("expected integer or string, got " ++ other.typeStr)

def stripBraces (s : String) : String :=
  let trimmed := Text.trim s.toList
  match Text.stripPrefix ['\x7b'] trimmed with
  | some inner => if inner.getLast? = some '\x7d' then String.ofList (Text.trim inner.dropLast) else String.ofList trimmed
  | none => String.ofList trimmed

/-- The loop of `value_as_string_array`. -/
def stringEntries (i : Nat) : List Toml → Except String (List String)
  | [] => .ok []
  | item :: items =>
      match item.asStr with
      | none => .error ("entry " ++ toString i ++ " must be a string, got " ++ item.typeStr)
      | some s => do
          let rest ← stringEntries (i + 1) items
          .ok (stripBraces s :: rest)

def valueAsStringArray (v : Toml) : Except String (List String) :=
  match v.asArray with
  | none => .error ("expected array, got " ++ v.typeStr)
  | some items => stringEntries 0 items

/-- A text field of a segment, or the error for its absence. -/
def segmentText (tbl : List (String × Toml)) (key error : String) : Except String String :=
  match (tbl.lookup key).bind Toml.asStr with
  | none => .error error
  | some s => .ok s

def parseHintMode (tbl : List (String × Toml)) : Except String HintMode :=
  match tbl.lookup "mode" with
  | none => .ok .auto
  | some (.string s) =>
      match HintMode.fromStr s with
      | none => .error ("unknown key_hints mode '" ++ s ++ "'")
      | some mode => .ok mode
  | some _ => .error "key_hints mode must be a string"

def parseMaxWidth (tbl : List (String × Toml)) : Except String Nat :=
  match tbl.lookup "max_width" with
  | none => .ok 60
  | some (.integer n) =>
      if n < 0 ∨ 65535 < n then .error ("max_width out of range: " ++ toString n) else .ok n.toNat
  | some other => .error ("max_width must be a non-negative integer, got " ++ other.typeStr)

/-- The loop over the keys of a segment. -/
def parseHints (i : Nat) : List Toml → Except String (List KeyHint)
  | [] => .ok []
  | entry :: entries =>
      match entry.asTable with
      | none => .error ("keys[" ++ toString i ++ "] must be a table")
      | some tbl => do
          let key ← segmentText tbl "key" ("keys[" ++ toString i ++ "] missing `key`")
          let label ← segmentText tbl "label" ("keys[" ++ toString i ++ "] missing `label`")
          let rest ← parseHints (i + 1) entries
          .ok ({ key, label } :: rest)

def parseHintKeys (tbl : List (String × Toml)) : Except String (List KeyHint) :=
  match tbl.lookup "keys" with
  | none => .ok []
  | some (.array items) => parseHints 0 items
  | some _ => .error "key_hints keys must be an array"

def parseSegmentKind (tbl : List (String × Toml)) (kind : String) : Except String SegmentKind :=
  match kind with
  | "builtin" => (segmentText tbl "name" "builtin segment requires `name`").map .builtin
  | "literal" => (segmentText tbl "text" "literal segment requires `text`").map .literal
  | "key_hints" => do .ok (.keyHints (← parseHintMode tbl) (← parseMaxWidth tbl) (← parseHintKeys tbl))
  | other => .error ("unknown segment type '" ++ other ++ "'")

def parseSegment (name : String) (raw : Toml) : Except String StatusBarSegment :=
  match raw.asTable with
  | none => .error ("expected table, got " ++ raw.typeStr)
  | some tbl => do
      let kind ← segmentText tbl "type" "missing required `type` field"
      .ok { name, kind := ← parseSegmentKind tbl kind }

/-- Whether `[theme]` only names a built-in theme. -/
def onlyName (tbl : List (String × Toml)) : Bool := tbl.length = 1 && (tbl.lookup "name").isSome

/-- A full inline palette, encoded again for the theme parser. -/
def inlineTheme (tbl : List (String × Toml)) : Except String Theme := do
  let serialized ← TomlCrate.encode [("theme", .table tbl)]
  (Theme.fromToml serialized).mapError ThemeError.display

/-! ## Strict check -/

/-- Fail with a message if a value is there that is not valid. -/
def demand {α : Type} (value : Option α) (valid : α → Bool) (message : String) : Except String Unit :=
  if value.all valid then .ok () else .error message

/-- Check a section if there is one. -/
def checkSome {α : Type} (value : Option α) (check : α → Except String Unit) : Except String Unit :=
  match value with
  | none => .ok ()
  | some a => check a

def checkGlobal (tbl : List (String × Toml)) : Except String Unit := do
  let g ← GlobalSection.ofTable tbl
  demand g.border (fun v => (BorderStyle.fromStr v).isSome) "invalid global.border"
  demand g.shell (fun v => !(Text.trim v.toList = [] || '\x00' ∈ v.toList)) "global.shell must be a non-empty program"
  demand g.scrollback (fun n => !(n < 0)) "global.scrollback must be non-negative"
  checkSome g.scrollbackBytes fun v => (parseScrollbackBytes v).map fun _ => ()
  demand g.scrollbackEviction (fun s => (ScrollbackEviction.fromStr s).isSome) "invalid global.scrollback_eviction"

def checkKeys (tbl : List (String × Toml)) : Except String Unit := do
  let keys ← KeysSection.ofTable tbl
  demand keys.prefixKey (fun p => (parsePrefix p).isSome) "keys.prefix must be one ASCII letter"

def checkClipboard (tbl : List (String × Toml)) : Except String Unit := do
  let c ← ClipboardSection.ofTable tbl
  demand c.osc52MaxBytes (fun v => !(v ≤ 0)) "clipboard.osc52_max_bytes must be positive"
  demand c.copyCommand validCommandArgv "clipboard command has an empty program or NUL byte"
  demand c.pasteCommand validCommandArgv "clipboard command has an empty program or NUL byte"

def checkTheme (tbl : List (String × Toml)) : Except String Unit :=
  if onlyName tbl then
    match ((tbl.lookup "name").bind Toml.asStr).bind Theme.builtin with
    | none => .error "unknown theme name"
    | some _ => .ok ()
  else (inlineTheme tbl).map fun _ => ()

def checkStatusBar (tbl : List (String × Toml)) : Except String Unit := do
  checkSome (tbl.lookup "left") fun v => (valueAsStringArray v).map fun _ => ()
  checkSome (tbl.lookup "right") fun v => (valueAsStringArray v).map fun _ => ()
  checkSome (tbl.lookup "segments") fun v =>
    match v.asTable with
    | none => .error "status_bar.segments must be a table"
    | some segments => segments.forM fun (name, value) => (parseSegment name value).map fun _ => ()

def checkHooks (hooks : List RawHook) : Except String (List EventHook) :=
  hooks.mapM fun hook => (EventHook.fromRaw hook).mapError (·.display)

def checkKeymap (tbl : List (String × Toml)) : Except String Keymap :=
  match Keymap.loadDefaults.applyKeymapSection tbl with
  | .error e => .error e.display
  | .ok (keymap, _) => .ok keymap

def checkRaw (raw : RawConfig) : Except String Unit := do
  checkSome raw.global checkGlobal
  checkSome raw.keys checkKeys
  checkSome raw.clipboard checkClipboard
  checkSome raw.theme checkTheme
  checkSome raw.statusBar checkStatusBar
  let _ ← checkHooks raw.hooks
  checkSome raw.keymap fun tbl => (checkKeymap tbl).map fun _ => ()

/-! ## Lenient reading -/

/-- The value where it can be used, else what there is already. -/
def orKeep {α β : Type} (value : Option α) (use : α → Option β) (kept : β) : β := (value.bind use).getD kept

def applyGlobal (g : GlobalSection) (config : EzpnConfig) : EzpnConfig :=
  { config with
    border := orKeep g.border BorderStyle.fromStr config.border
    shell := orKeep g.shell some config.shell
    scrollback := orKeep g.scrollback (fun n => if n < 0 then none else some (min n.toNat scrollbackMax)) config.scrollback
    scrollbackBytes :=
      orKeep g.scrollbackBytes (fun v => (parseScrollbackBytes v).toOption.map (min · scrollbackBytesMax)) config.scrollbackBytes
    scrollbackEviction := orKeep g.scrollbackEviction ScrollbackEviction.fromStr config.scrollbackEviction
    showStatusBar := orKeep g.statusBar some config.showStatusBar
    showTabBar := orKeep g.tabBar some config.showTabBar
    persistScrollback := orKeep g.persistScrollback some config.persistScrollback }

def applyKeys (k : KeysSection) (config : EzpnConfig) : EzpnConfig :=
  { config with prefixKey := orKeep k.prefixKey parsePrefix config.prefixKey }

/-- A command override that can be run. -/
def usableArgv (argv : List String) : Option (List String) := if validCommandArgv argv then some argv else none

def applyClipboard (c : ClipboardSection) (config : EzpnConfig) : EzpnConfig :=
  { config with
    clipboard :=
      { set := orKeep c.osc52Set some config.clipboard.set
        get := orKeep c.osc52Get some config.clipboard.get
        maxBytes :=
          orKeep c.osc52MaxBytes (fun n => if n ≤ 0 then none else some (min n.toNat clipboardHardCap))
            config.clipboard.maxBytes }
    clipboardCopyCommand := orKeep c.copyCommand usableArgv config.clipboardCopyCommand
    clipboardPasteCommand := orKeep c.pasteCommand usableArgv config.clipboardPasteCommand }

def applyTheme (tbl : List (String × Toml)) (config : EzpnConfig) : EzpnConfig :=
  if onlyName tbl then
    match (tbl.lookup "name").bind Toml.asStr with
    | none => config
    | some name => { config with theme := (Theme.builtin name).getD config.theme }
  else { config with theme := (inlineTheme tbl).toOption.getD config.theme }

def applyStatusBar (tbl : List (String × Toml)) (config : EzpnConfig) : EzpnConfig :=
  let segments := match tbl.lookup "segments" with
    | some (.table segments) => segments.filterMap fun (name, raw) => (parseSegment name raw).toOption
    | _ => []
  { config with
    statusBar :=
      { left := orKeep (tbl.lookup "left") (fun v => (valueAsStringArray v).toOption) []
        right := orKeep (tbl.lookup "right") (fun v => (valueAsStringArray v).toOption) []
        segments } }

/-- Apply a section if there is one that can be read. -/
def applySection {α : Type} (tbl : Option (List (String × Toml))) (read : List (String × Toml) → Except String α)
    (apply : α → EzpnConfig → EzpnConfig) (config : EzpnConfig) : EzpnConfig :=
  match tbl.map read with
  | some (.ok a) => apply a config
  | _ => config

def applyRaw (raw : RawConfig) (config : EzpnConfig) : EzpnConfig :=
  let config := applySection raw.global GlobalSection.ofTable applyGlobal config
  let config := applySection raw.keys KeysSection.ofTable applyKeys config
  let config := applySection raw.clipboard ClipboardSection.ofTable applyClipboard config
  let config := applySection raw.theme .ok applyTheme config
  applySection raw.statusBar .ok applyStatusBar config

/-! ## Flat format -/

/-- A text without the two equal quotes around it. -/
def stripQuotes (value : List Char) : List Char := (Hooks.stripQuotes value).getD value

/-- The lines that are neither blank nor comments. -/
def legacyLines (contents : String) : List (List Char) :=
  ((Text.lines contents.toList).map Text.trim).filter fun line => line ≠ [] && line.head? ≠ some '#'

/-- The key and the value of a line. -/
def legacyEntry (line : List Char) : Option (String × String) :=
  (Text.splitOnce (· = '=') line).map fun (key, value) =>
    (String.ofList (Text.trim key), String.ofList (stripQuotes (Text.trim value)))

def legacyValid (key value : String) : Bool :=
  match key with
  | "border" => (BorderStyle.fromStr value).isSome
  | "shell" => !(Text.trim value.toList = []) && !('\x00' ∈ value.toList)
  | "scrollback" => (Text.parseUnsigned usizeMax value.toList).isSome
  | "status_bar" | "tab_bar" => value = "true" || value = "false"
  | "prefix" => (parsePrefix value).isSome
  | _ => true

def checkLegacy : List (List Char) → Except String Unit
  | [] => .ok ()
  | line :: lines =>
      match legacyEntry line with
      | none => .error "expected key = value in legacy config"
      | some (key, value) =>
          if legacyValid key value then checkLegacy lines else .error ("invalid legacy config key " ++ key)

def applyLegacyEntry (config : EzpnConfig) (key value : String) : EzpnConfig :=
  match key with
  | "border" => { config with border := (BorderStyle.fromStr value).getD config.border }
  | "shell" => { config with shell := value }
  | "scrollback" =>
      match Text.parseUnsigned usizeMax value.toList with
      | some n => { config with scrollback := min n scrollbackMax }
      | none => config
  | "status_bar" => { config with showStatusBar := value = "true" }
  | "tab_bar" => { config with showTabBar := value = "true" }
  | "prefix" => { config with prefixKey := (parsePrefix value).getD config.prefixKey }
  | _ => config

def applyLegacyFlat (contents : String) (config : EzpnConfig) : EzpnConfig :=
  (legacyLines contents).foldl (fun config line =>
    match legacyEntry line with
    | none => config
    | some (key, value) => applyLegacyEntry config key value) config

/-! ## Documents -/

def knownTopLevel : List String := ["global", "keys", "hooks", "keymap", "clipboard", "theme", "status_bar"]

def hasTomlTableHeader (contents : String) : Bool :=
  (Text.lines contents.toList).any (fun l => (Text.trimStart l).head? = some '[') ||
    match TomlCrate.document contents with
    | .error _ => false
    | .ok tbl => tbl.any fun (key, value) => knownTopLevel.contains key && (value.asTable.isSome || value.asArray.isSome)

def parseConfig (contents : String) : EzpnConfig :=
  if hasTomlTableHeader contents then
    match RawConfig.parse contents with
    | .ok raw => applyRaw raw .default
    | .error _ => .default
  else if Text.trim contents.toList ≠ [] then applyLegacyFlat contents .default
  else .default

def parseConfigChecked (contents : String) : Except String EzpnConfig := do
  if hasTomlTableHeader contents then
    let raw ← RawConfig.parse contents
    checkRaw raw
  else checkLegacy (legacyLines contents)
  .ok (parseConfig contents)

def parseHooksChecked (contents : String) : Except String (List EventHook) := do
  if hasTomlTableHeader contents then
    let raw ← RawConfig.parse contents
    checkHooks raw.hooks
  else .ok []

def parseKeymapChecked (contents : String) : Except String Keymap := do
  if hasTomlTableHeader contents then
    let raw ← RawConfig.parse contents
    match raw.keymap with
    | some table => checkKeymap table
    | none => .ok Keymap.loadDefaults
  else .ok Keymap.loadDefaults

end Environment

end Ezpn
