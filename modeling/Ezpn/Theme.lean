import Ezpn.Text
import Ezpn.Toml

/-!
# Themes

Colour palettes: their hexadecimal form, the built-in ones, and what is left of
them on terminals with fewer colours.
-/

set_option autoImplicit false

namespace Ezpn

/-! ## Colours -/

structure RgbColor where
  r : Nat
  g : Nat
  b : Nat
  deriving DecidableEq, Repr

inductive ThemeError where
  | badHex (s : String)
  | toml (message : String)
  deriving DecidableEq, Repr

/-- `Display for ThemeError`. -/
def ThemeError.display : ThemeError → String
  | .badHex s => "invalid hex colour: " ++ s
  | .toml message => "theme TOML error: " ++ message

/-- `Debug for char` of a byte. -/
def debugByte (n : Nat) : String :=
  let c := Char.ofNat n
  let escaped :=
    if c = '\x00' then "\\0" else if c = '\t' then "\\t" else if c = '\r' then "\\r" else if c = '\n' then "\\n"
    else if c = '\'' then "\\'" else if c = '\\' then "\\\\"
    else if Text.isControl c || n = 0xA0 || n = 0xAD then "\\u\x7b" ++ String.ofList (Nat.toDigits 16 n) ++ "\x7d"
    else c.toString
  "'" ++ escaped ++ "'"

def parseNibble (c : UInt8) : Except ThemeError Nat :=
  let n := c.toNat
  if 0x30 ≤ n && n ≤ 0x39 then .ok (n - 0x30)
  else if 0x61 ≤ n && n ≤ 0x66 then .ok (n - 0x61 + 10)
  else if 0x41 ≤ n && n ≤ 0x46 then .ok (n - 0x41 + 10)
  else .error (.badHex ("non-hex digit " ++ debugByte n))

def parseByte (hi lo : UInt8) : Except ThemeError Nat := do
  .ok ((← parseNibble hi) * 16 + (← parseNibble lo))

namespace RgbColor

def parseHex (s : String) : Except ThemeError RgbColor :=
  let raw := Text.trim s.toList
  let stripped := (Text.stripPrefix ['#'] raw).getD raw
  match (String.ofList stripped).toUTF8.toList with
  | [r, g, b] => do
      let r ← parseNibble r
      let g ← parseNibble g
      let b ← parseNibble b
      .ok ⟨r * 17, g * 17, b * 17⟩
  | [r, r', g, g', b, b'] => do .ok ⟨← parseByte r r', ← parseByte g g', ← parseByte b b'⟩
  | _ => .error (.badHex s)

end RgbColor

/-! ## Depth -/

inductive ColorDepth where
  | trueColor
  | palette256
  | palette16
  deriving DecidableEq, Repr

inductive Resolved where
  | rgb (color : RgbColor)
  | indexed (index : Nat)
  deriving DecidableEq, Repr

def distSq (a b : RgbColor) : Nat :=
  ((a.r : Int) - b.r).natAbs ^ 2 + ((a.g : Int) - b.g).natAbs ^ 2 + ((a.b : Int) - b.b).natAbs ^ 2

/-- The first of the least distances. -/
def nearest {α : Type} (dist : α → Nat) (best : α) : List α → α
  | [] => best
  | a :: rest => nearest dist (if dist a < dist best then a else best) rest

def cubeLevels : List Nat := [0, 95, 135, 175, 215, 255]

def nearestCubeAxis (v : Nat) : Nat :=
  nearest (fun i => ((v : Int) - (cubeLevels.getD i 0 : Nat)).natAbs) 0 (List.range 6)

def nearestCube (rgb : RgbColor) : Nat × Nat :=
  let r := nearestCubeAxis rgb.r
  let g := nearestCubeAxis rgb.g
  let b := nearestCubeAxis rgb.b
  (16 + 36 * r + 6 * g + b, distSq rgb ⟨cubeLevels.getD r 0, cubeLevels.getD g 0, cubeLevels.getD b 0⟩)

def grayLevel (i : Nat) : RgbColor := ⟨8 + 10 * i, 8 + 10 * i, 8 + 10 * i⟩

def nearestGrayscale (rgb : RgbColor) : Nat × Nat :=
  let best := nearest (fun i => distSq rgb (grayLevel i)) 0 (List.range 24)
  (232 + best, distSq rgb (grayLevel best))

def rgbToXterm256 (rgb : RgbColor) : Nat :=
  let (cubeIdx, cubeDist) := nearestCube rgb
  let (grayIdx, grayDist) := nearestGrayscale rgb
  if grayDist ≤ cubeDist then grayIdx else cubeIdx

def ansi16 : List RgbColor :=
  [⟨0, 0, 0⟩, ⟨170, 0, 0⟩, ⟨0, 170, 0⟩, ⟨170, 85, 0⟩, ⟨0, 0, 170⟩, ⟨170, 0, 170⟩, ⟨0, 170, 170⟩, ⟨170, 170, 170⟩,
   ⟨85, 85, 85⟩, ⟨255, 85, 85⟩, ⟨85, 255, 85⟩, ⟨255, 255, 85⟩, ⟨85, 85, 255⟩, ⟨255, 85, 255⟩, ⟨85, 255, 255⟩,
   ⟨255, 255, 255⟩]

def rgbToAnsi16 (rgb : RgbColor) : Nat :=
  nearest (fun i => distSq rgb (ansi16.getD i ⟨0, 0, 0⟩)) 0 (List.range 16)

def RgbColor.downgradeTo (color : RgbColor) : ColorDepth → Resolved
  | .trueColor => .rgb color
  | .palette256 => .indexed (rgbToXterm256 color)
  | .palette16 => .indexed (rgbToAnsi16 color)

example : rgbToXterm256 ⟨255, 0, 0⟩ = 196 ∧ rgbToXterm256 ⟨128, 128, 128⟩ = 244 ∧ rgbToAnsi16 ⟨250, 10, 10⟩ = 1 := by
  decide +kernel

/-! ## Themes -/

/-- The colours of a theme or of a palette. -/
structure Colors (α : Type) where
  fg : α
  bg : α
  border : α
  borderActive : α
  statusBg : α
  statusFg : α
  tabActiveBg : α
  tabActiveFg : α
  tabInactiveFg : α
  selection : α
  searchMatch : α
  broadcastIndicator : α
  copyModeIndicator : α
  deriving DecidableEq

structure Theme extends Colors RgbColor where
  name : String
  deriving DecidableEq

abbrev ResolvedPalette := Colors Resolved

def Theme.resolve (theme : Theme) (depth : ColorDepth) : ResolvedPalette where
  fg := theme.fg.downgradeTo depth
  bg := theme.bg.downgradeTo depth
  border := theme.border.downgradeTo depth
  borderActive := theme.borderActive.downgradeTo depth
  statusBg := theme.statusBg.downgradeTo depth
  statusFg := theme.statusFg.downgradeTo depth
  tabActiveBg := theme.tabActiveBg.downgradeTo depth
  tabActiveFg := theme.tabActiveFg.downgradeTo depth
  tabInactiveFg := theme.tabInactiveFg.downgradeTo depth
  selection := theme.selection.downgradeTo depth
  searchMatch := theme.searchMatch.downgradeTo depth
  broadcastIndicator := theme.broadcastIndicator.downgradeTo depth
  copyModeIndicator := theme.copyModeIndicator.downgradeTo depth

section Parsing
variable [TomlCrate]

/-- `Theme::from_toml`. -/
def Theme.fromToml (src : String) : Except ThemeError Theme := do
  let raw ← (do
    let file ← TomlCrate.document src
    let theme ← Toml.required file "theme" Toml.asTable "struct RawTheme"
    let text (key : String) : Except String String := Toml.required theme key Toml.asStr "a string"
    let name ← text "name"
    let fg ← text "fg"
    let bg ← text "bg"
    let border ← text "border"
    let borderActive ← text "border_active"
    let statusBg ← text "status_bg"
    let statusFg ← text "status_fg"
    let tabActiveBg ← text "tab_active_bg"
    let tabActiveFg ← text "tab_active_fg"
    let tabInactiveFg ← text "tab_inactive_fg"
    let selection ← text "selection"
    let searchMatch ← text "search_match"
    let broadcastIndicator ← text "broadcast_indicator"
    let copyModeIndicator ← text "copy_mode_indicator"
    .ok (name, ({ fg, bg, border, borderActive, statusBg, statusFg,
                  tabActiveBg, tabActiveFg, tabInactiveFg, selection, searchMatch, broadcastIndicator, copyModeIndicator } : Colors String))).mapError ThemeError.toml
  let (name, colors) := raw
  let fg ← RgbColor.parseHex colors.fg
  let bg ← RgbColor.parseHex colors.bg
  let border ← RgbColor.parseHex colors.border
  let borderActive ← RgbColor.parseHex colors.borderActive
  let statusBg ← RgbColor.parseHex colors.statusBg
  let statusFg ← RgbColor.parseHex colors.statusFg
  let tabActiveBg ← RgbColor.parseHex colors.tabActiveBg
  let tabActiveFg ← RgbColor.parseHex colors.tabActiveFg
  let tabInactiveFg ← RgbColor.parseHex colors.tabInactiveFg
  let selection ← RgbColor.parseHex colors.selection
  let searchMatch ← RgbColor.parseHex colors.searchMatch
  let broadcastIndicator ← RgbColor.parseHex colors.broadcastIndicator
  let copyModeIndicator ← RgbColor.parseHex colors.copyModeIndicator
  .ok
    { name, fg, bg, border, borderActive, statusBg, statusFg, tabActiveBg,
      tabActiveFg, tabInactiveFg, selection, searchMatch, broadcastIndicator, copyModeIndicator }

/-- The themes among the assets. -/
def builtinSource (name : String) : Option String :=
  match name with
  | "ezpn-dark" =>
      some ("[theme]\nname = \"ezpn-dark\"\nfg = \"#e6e1cf\"\nbg = \"#1f2430\"\nborder = \"#5c6370\"\n" ++
        "border_active = \"#73d0ff\"\nstatus_bg = \"#1c1e26\"\nstatus_fg = \"#9da5b4\"\n" ++
        "tab_active_bg = \"#73d0ff\"\ntab_active_fg = \"#1c1e26\"\ntab_inactive_fg = \"#5c6370\"\n" ++
        "selection = \"#3a3d4a\"\nsearch_match = \"#ffd866\"\nbroadcast_indicator = \"#ff6188\"\n" ++
        "copy_mode_indicator = \"#a9dc76\"\n")
  | "ezpn-light" =>
      some ("[theme]\nname = \"ezpn-light\"\nfg = \"#1c1e26\"\nbg = \"#fafafa\"\nborder = \"#bfc7d5\"\n" ++
        "border_active = \"#0184bc\"\nstatus_bg = \"#ececec\"\nstatus_fg = \"#383a42\"\n" ++
        "tab_active_bg = \"#0184bc\"\ntab_active_fg = \"#ffffff\"\ntab_inactive_fg = \"#a0a1a7\"\n" ++
        "selection = \"#dfe5ee\"\nsearch_match = \"#c18401\"\nbroadcast_indicator = \"#e45649\"\n" ++
        "copy_mode_indicator = \"#50a14f\"\n")
  | "solarized-dark" =>
      some ("[theme]\nname = \"solarized-dark\"\nfg = \"#93a1a1\"\nbg = \"#002b36\"\nborder = \"#586e75\"\n" ++
        "border_active = \"#268bd2\"\nstatus_bg = \"#002b36\"\nstatus_fg = \"#93a1a1\"\n" ++
        "tab_active_bg = \"#268bd2\"\ntab_active_fg = \"#002b36\"\ntab_inactive_fg = \"#657b83\"\n" ++
        "selection = \"#073642\"\nsearch_match = \"#b58900\"\nbroadcast_indicator = \"#dc322f\"\n" ++
        "copy_mode_indicator = \"#859900\"\n")
  | "gruvbox-dark" =>
      some ("[theme]\nname = \"gruvbox-dark\"\nfg = \"#ebdbb2\"\nbg = \"#282828\"\nborder = \"#665c54\"\n" ++
        "border_active = \"#83a598\"\nstatus_bg = \"#1d2021\"\nstatus_fg = \"#a89984\"\n" ++
        "tab_active_bg = \"#83a598\"\ntab_active_fg = \"#1d2021\"\ntab_inactive_fg = \"#665c54\"\n" ++
        "selection = \"#3c3836\"\nsearch_match = \"#fabd2f\"\nbroadcast_indicator = \"#fb4934\"\n" ++
        "copy_mode_indicator = \"#b8bb26\"\n")
  | "nord" =>
      some ("[theme]\nname = \"nord\"\nfg = \"#d8dee9\"\nbg = \"#2e3440\"\nborder = \"#4c566a\"\n" ++
        "border_active = \"#88c0d0\"\nstatus_bg = \"#3b4252\"\nstatus_fg = \"#d8dee9\"\n" ++
        "tab_active_bg = \"#88c0d0\"\ntab_active_fg = \"#2e3440\"\ntab_inactive_fg = \"#4c566a\"\n" ++
        "selection = \"#434c5e\"\nsearch_match = \"#ebcb8b\"\nbroadcast_indicator = \"#bf616a\"\n" ++
        "copy_mode_indicator = \"#a3be8c\"\n")
  | _ => none

def Theme.builtin (name : String) : Option Theme := do
  let src ← builtinSource name
  (Theme.fromToml src).toOption

/-- The default theme, `ezpn-dark`, with a copy for the case that the asset is unreadable. -/
def Theme.defaultTheme : Theme :=
  (Theme.builtin "ezpn-dark").getD
    { name := "ezpn-dark"
      fg := ⟨0xe6, 0xe1, 0xcf⟩
      bg := ⟨0x1f, 0x24, 0x30⟩
      border := ⟨0x5c, 0x63, 0x70⟩
      borderActive := ⟨0x73, 0xd0, 0xff⟩
      statusBg := ⟨0x1c, 0x1e, 0x26⟩
      statusFg := ⟨0x9d, 0xa5, 0xb4⟩
      tabActiveBg := ⟨0x73, 0xd0, 0xff⟩
      tabActiveFg := ⟨0x1c, 0x1e, 0x26⟩
      tabInactiveFg := ⟨0x5c, 0x63, 0x70⟩
      selection := ⟨0x3a, 0x3d, 0x4a⟩
      searchMatch := ⟨0xff, 0xd8, 0x66⟩
      broadcastIndicator := ⟨0xff, 0x61, 0x88⟩
      copyModeIndicator := ⟨0xa9, 0xdc, 0x76⟩ }

end Parsing

end Ezpn
