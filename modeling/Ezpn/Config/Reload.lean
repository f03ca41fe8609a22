import Mathlib.Data.List.Induction
import Mathlib.Data.List.Nodup
import Mathlib.Data.List.TakeWhile
import Ezpn.Config
import Ezpn.Lib.Machine

/-!
# Reloading the configuration

A reload takes effect as a whole or not at all. What the text says is stated field
by field, and the lenient reading of a text that passes the strict check leaves
nothing of it out. Some fields keep their value until the next start, through
every sequence of reloads.
-/

set_option autoImplicit false

namespace Ezpn

open Hooks (EventHook RawHook)

/-! ## Values that are used -/

/-- The value in a text is the one that is used, or the default stands where there is none. -/
def Said {α β : Type} (value : Option α) (use : α → Option β) (default result : β) : Prop :=
  match value with
  | none => result = default
  | some a => use a = some result

/-- A section of the text, or one without fields where it is left out. -/
def Section {α : Type} (tbl : Option (List (String × Toml))) (read : List (String × Toml) → Except String α) (a : α) : Prop :=
  read (tbl.getD []) = .ok a

theorem demand_eq_ok {α : Type} {value : Option α} {valid : α → Bool} {message : String} :
    demand value valid message = .ok () ↔ value.all valid = true := by
  unfold demand
  split
  · rename_i good
    exact iff_of_true rfl good
  · rename_i bad
    exact iff_of_false nofun bad

/-- A value that can be used is what the text says. -/
theorem said_orKeep {α β : Type} {value : Option α} {use : α → Option β} (kept : β)
    (usable : ∀ a ∈ value, (use a).isSome) : Said value use kept (orKeep value use kept) := by
  cases value with
  | none => rfl
  | some a =>
      obtain ⟨b, used⟩ := Option.isSome_iff_exists.mp (usable a rfl)
      simp only [Said, orKeep, Option.bind_some, used, Option.getD_some]

theorem said_some {α : Type} (value : Option α) (kept : α) : Said value some kept (orKeep value some kept) :=
  said_orKeep kept fun _ _ => rfl

section Environment
variable [TomlCrate] [ConfigEnv]

/-! ## Reload -/

/-- The registries of a reload, until the loop takes them. -/
structure ReloadedBindings where
  hooks : List EventHook
  keymap : Keymap

/-- The settings with what a reload reads and writes. The palette is the theme in the
colours of the terminal. -/
structure LiveSettings where
  settings : Settings
  runtime : Option EzpnConfig
  reloadDirty : Bool
  theme : Theme
  colorDepth : ColorDepth
  resolvedPalette : ResolvedPalette
  resolved : resolvedPalette = theme.resolve colorDepth
  reloadedBindings : Option ReloadedBindings

inductive ReloadOutcome where
  | reloaded (nonReloadableChanged : List String)
  | error (message : String)

/-- The fields that a reload does not apply. -/
inductive NonReloadable where
  | shell
  | scrollback
  | scrollbackBytes
  | scrollbackEviction
  | clipboardCopyCommand
  | clipboardPasteCommand
  | persistScrollback
  | clipboard
  deriving DecidableEq, Repr

namespace NonReloadable

/-- In the order of the comparisons. -/
def all : List NonReloadable :=
  [.shell, .scrollback, .scrollbackBytes, .scrollbackEviction, .clipboardCopyCommand, .clipboardPasteCommand,
   .persistScrollback, .clipboard]

def name : NonReloadable → String
  | .shell => "shell"
  | .scrollback => "scrollback"
  | .scrollbackBytes => "scrollback_bytes"
  | .scrollbackEviction => "scrollback_eviction"
  | .clipboardCopyCommand => "clipboard_copy_command"
  | .clipboardPasteCommand => "clipboard_paste_command"
  | .persistScrollback => "persist_scrollback"
  | .clipboard => "clipboard"

/-- Two configurations have the same value of the field. -/
def Same (a b : EzpnConfig) : NonReloadable → Prop
  | .shell => a.shell = b.shell
  | .scrollback => a.scrollback = b.scrollback
  | .scrollbackBytes => a.scrollbackBytes = b.scrollbackBytes
  | .scrollbackEviction => a.scrollbackEviction = b.scrollbackEviction
  | .clipboardCopyCommand => a.clipboardCopyCommand = b.clipboardCopyCommand
  | .clipboardPasteCommand => a.clipboardPasteCommand = b.clipboardPasteCommand
  | .persistScrollback => a.persistScrollback = b.persistScrollback
  | .clipboard =>
      a.clipboard.set = b.clipboard.set ∧ a.clipboard.get = b.clipboard.get ∧ a.clipboard.maxBytes = b.clipboard.maxBytes

instance (a b : EzpnConfig) : (field : NonReloadable) → Decidable (field.Same a b)
  | .shell => inferInstanceAs (Decidable (a.shell = b.shell))
  | .scrollback => inferInstanceAs (Decidable (a.scrollback = b.scrollback))
  | .scrollbackBytes => inferInstanceAs (Decidable (a.scrollbackBytes = b.scrollbackBytes))
  | .scrollbackEviction => inferInstanceAs (Decidable (a.scrollbackEviction = b.scrollbackEviction))
  | .clipboardCopyCommand => inferInstanceAs (Decidable (a.clipboardCopyCommand = b.clipboardCopyCommand))
  | .clipboardPasteCommand => inferInstanceAs (Decidable (a.clipboardPasteCommand = b.clipboardPasteCommand))
  | .persistScrollback => inferInstanceAs (Decidable (a.persistScrollback = b.persistScrollback))
  | .clipboard => inferInstanceAs (Decidable (_ ∧ _ ∧ _))

end NonReloadable

namespace EzpnConfig

/-- The names of the fields that differ from the previous configuration. -/
def nonReloadableChanged (previous new : EzpnConfig) : List String :=
  (NonReloadable.all.filter fun field => ¬field.Same new previous).map NonReloadable.name

/-- The new configuration with the values that stay in force. -/
def preserve (previous new : EzpnConfig) : EzpnConfig :=
  { new with
    shell := previous.shell
    scrollback := previous.scrollback
    scrollbackBytes := previous.scrollbackBytes
    scrollbackEviction := previous.scrollbackEviction
    clipboardCopyCommand := previous.clipboardCopyCommand
    clipboardPasteCommand := previous.clipboardPasteCommand
    persistScrollback := previous.persistScrollback
    clipboard := previous.clipboard }

end EzpnConfig

namespace LiveSettings

/-- The values in force. -/
def config (s : LiveSettings) : EzpnConfig := s.runtime.getD .default

def takeReloadedBindings (s : LiveSettings) : LiveSettings := { s with reloadedBindings := none }

def setTheme (theme : Theme) (depth : ColorDepth) (s : LiveSettings) : LiveSettings :=
  { s with theme, colorDepth := depth, resolvedPalette := theme.resolve depth, resolved := rfl }

/-- Whether what is on the screen differs between the settings and a new configuration. -/
def visualChanged (s : LiveSettings) (new : EzpnConfig) : Bool :=
  s.settings.borderStyle ≠ new.border || s.settings.showStatusBar ≠ new.showStatusBar ||
    s.settings.showTabBar ≠ new.showTabBar || s.theme ≠ new.theme || s.config.statusBar ≠ new.statusBar

/-- Put a configuration in force. -/
def install (new : EzpnConfig) (bindings : ReloadedBindings) (s : LiveSettings) : LiveSettings :=
  let visual := s.visualChanged new
  let settings :=
    { s.settings with borderStyle := new.border, showStatusBar := new.showStatusBar, showTabBar := new.showTabBar }
  let themed := if s.theme ≠ new.theme then s.setTheme new.theme s.colorDepth else s
  { themed with
    settings
    runtime := some new
    reloadedBindings := some bindings
    reloadDirty := s.reloadDirty || visual }

/-- `reload_config`, of a file as it is read. -/
def reloadConfig (file : Except String String) (s : LiveSettings) : LiveSettings × ReloadOutcome :=
  let s := { s with reloadedBindings := none }
  match file with
  | .error msg => (s, .error msg)
  | .ok contents =>
      match parseConfigChecked contents with
      | .error msg => (s, .error msg)
      | .ok new =>
          match parseHooksChecked contents, parseKeymapChecked contents with
          | .ok hooks, .ok keymap =>
              (s.install (s.config.preserve new) { hooks, keymap }, .reloaded (s.config.nonReloadableChanged new))
          | .error msg, _ => (s, .error msg)
          | .ok _, .error msg => (s, .error msg)

end LiveSettings

/-! ## What a text says -/

def SaysGlobal (g : GlobalSection) (config : EzpnConfig) : Prop :=
  let default := EzpnConfig.default
  Said g.border BorderStyle.fromStr default.border config.border ∧
    Said g.shell some default.shell config.shell ∧
    Said g.scrollback (fun n => if n < 0 then none else some (min n.toNat scrollbackMax)) default.scrollback config.scrollback ∧
    Said g.scrollbackBytes (fun v => (parseScrollbackBytes v).toOption.map (min · scrollbackBytesMax))
      default.scrollbackBytes config.scrollbackBytes ∧
    Said g.scrollbackEviction ScrollbackEviction.fromStr default.scrollbackEviction config.scrollbackEviction ∧
    Said g.statusBar some default.showStatusBar config.showStatusBar ∧
    Said g.tabBar some default.showTabBar config.showTabBar ∧
    Said g.persistScrollback some default.persistScrollback config.persistScrollback

def SaysKeys (k : KeysSection) (config : EzpnConfig) : Prop :=
  Said k.prefixKey parsePrefix EzpnConfig.default.prefixKey config.prefixKey

def SaysClipboard (c : ClipboardSection) (config : EzpnConfig) : Prop :=
  let default := EzpnConfig.default
  Said c.osc52Set some default.clipboard.set config.clipboard.set ∧
    Said c.osc52Get some default.clipboard.get config.clipboard.get ∧
    Said c.osc52MaxBytes (fun n => if n ≤ 0 then none else some (min n.toNat clipboardHardCap))
      default.clipboard.maxBytes config.clipboard.maxBytes ∧
    Said c.copyCommand usableArgv default.clipboardCopyCommand config.clipboardCopyCommand ∧
    Said c.pasteCommand usableArgv default.clipboardPasteCommand config.clipboardPasteCommand

/-- The theme that a section names or spells out. -/
def sectionTheme (tbl : List (String × Toml)) : Option Theme :=
  if onlyName tbl then ((tbl.lookup "name").bind Toml.asStr).bind Theme.builtin else (inlineTheme tbl).toOption

def SaysStatusBar (tbl : List (String × Toml)) (bar : StatusBarConfig) : Prop :=
  Said (tbl.lookup "left") (fun v => (valueAsStringArray v).toOption) [] bar.left ∧
    Said (tbl.lookup "right") (fun v => (valueAsStringArray v).toOption) [] bar.right ∧
    Said (tbl.lookup "segments")
      (fun v => v.asTable.bind fun segments => (segments.mapM fun (name, raw) => parseSegment name raw).toOption) [] bar.segments

/-- A document with sections. -/
structure SaysDocument (raw : RawConfig) (config : EzpnConfig) (bindings : ReloadedBindings) : Prop where
  global : ∃ g, Section raw.global GlobalSection.ofTable g ∧ SaysGlobal g config
  keys : ∃ k, Section raw.keys KeysSection.ofTable k ∧ SaysKeys k config
  clipboard : ∃ c, Section raw.clipboard ClipboardSection.ofTable c ∧ SaysClipboard c config
  theme : Said raw.theme sectionTheme EzpnConfig.default.theme config.theme
  statusBar : ∀ tbl ∈ raw.statusBar, SaysStatusBar tbl config.statusBar
  noStatusBar : raw.statusBar = none → config.statusBar = EzpnConfig.default.statusBar
  hooks : checkHooks raw.hooks = .ok bindings.hooks
  keymap : Said raw.keymap (fun tbl => (checkKeymap tbl).toOption) Keymap.loadDefaults bindings.keymap

/-- The value in the last line with a key. -/
def lastValue (lines : List (List Char)) (key : String) : Option String :=
  (lines.filterMap legacyEntry).reverse.lookup key

/-- The fields that the flat format does not have. -/
def EzpnConfig.beyondFlat (config : EzpnConfig) :=
  (config.scrollbackBytes, config.scrollbackEviction, config.clipboard, config.clipboardCopyCommand,
    config.clipboardPasteCommand, config.theme, config.statusBar, config.persistScrollback)

/-- A text of the flat format, which has neither hooks nor key bindings. -/
structure SaysFlat (lines : List (List Char)) (config : EzpnConfig) (bindings : ReloadedBindings) : Prop where
  entries : ∀ line ∈ lines, (legacyEntry line).isSome
  border : Said (lastValue lines "border") BorderStyle.fromStr EzpnConfig.default.border config.border
  shell : Said (lastValue lines "shell") some EzpnConfig.default.shell config.shell
  scrollback : Said (lastValue lines "scrollback")
    (fun v => (Text.parseUnsigned usizeMax v.toList).map (min · scrollbackMax)) EzpnConfig.default.scrollback config.scrollback
  showStatusBar : Said (lastValue lines "status_bar") (fun v => some (v = "true" : Bool)) true config.showStatusBar
  showTabBar : Said (lastValue lines "tab_bar") (fun v => some (v = "true" : Bool)) true config.showTabBar
  prefixKey : Said (lastValue lines "prefix") parsePrefix EzpnConfig.default.prefixKey config.prefixKey
  others : config.beyondFlat = EzpnConfig.default.beyondFlat
  hooks : bindings.hooks = []
  keymap : bindings.keymap = Keymap.loadDefaults

/-- All of a text. -/
def Says (contents : String) (config : EzpnConfig) (bindings : ReloadedBindings) : Prop :=
  if hasTomlTableHeader contents then ∃ raw, RawConfig.parse contents = .ok raw ∧ SaysDocument raw config bindings
  else SaysFlat (legacyLines contents) config bindings

/-! ## The lenient reading of a checked text -/

omit [TomlCrate] [ConfigEnv] in
/-- What the check of a section leaves, and how the section is applied. -/
theorem section_cases {α : Type} {tbl : Option (List (String × Toml))} {read : List (String × Toml) → Except String α}
    {check : List (String × Toml) → Except String Unit} {Good : α → Prop} {empty : α} (reads : read [] = .ok empty)
    (good : Good empty) (checks : ∀ tbl, check tbl = .ok () → ∃ a, read tbl = .ok a ∧ Good a)
    {apply : α → EzpnConfig → EzpnConfig} (idle : ∀ config, apply empty config = config)
    (checked : checkSome tbl check = .ok ()) :
    ∃ a, Section tbl read a ∧ Good a ∧ ∀ config, applySection tbl read apply config = apply a config := by
  cases tbl with
  | none => exact ⟨empty, reads, good, fun config => (idle config).symm⟩
  | some tbl =>
      obtain ⟨a, read, good⟩ := checks tbl checked
      refine ⟨a, read, good, fun config => ?_⟩
      simp only [applySection, Option.map_some, read]

theorem checkGlobal_ok {tbl : List (String × Toml)} (checked : checkGlobal tbl = .ok ()) :
    ∃ g, GlobalSection.ofTable tbl = .ok g ∧ SaysGlobal g (applyGlobal g .default) := by
  obtain ⟨g, read, checked⟩ := except_bind_eq_ok.mp checked
  obtain ⟨⟨⟩, border, checked⟩ := except_bind_eq_ok.mp checked
  obtain ⟨⟨⟩, -, checked⟩ := except_bind_eq_ok.mp checked
  obtain ⟨⟨⟩, scrollback, checked⟩ := except_bind_eq_ok.mp checked
  obtain ⟨⟨⟩, bytes, eviction⟩ := except_bind_eq_ok.mp checked
  rw [demand_eq_ok, Option.all_eq_true] at border scrollback eviction
  refine ⟨g, read, said_orKeep _ border, said_some _ _, said_orKeep _ fun n some => ?_, said_orKeep _ fun v some => ?_,
    said_orKeep _ eviction, said_some _ _, said_some _ _, said_some _ _⟩
  · have natural := scrollback n some
    simp only [Bool.not_eq_true', decide_eq_false_iff_not] at natural
    rw [if_neg natural]
    rfl
  · rw [some] at bytes
    cases parsed : parseScrollbackBytes v with
    | error e =>
        rw [checkSome, parsed] at bytes
        nomatch bytes
    | ok n => rfl

omit [ConfigEnv] in
theorem checkKeys_ok {tbl : List (String × Toml)} (checked : checkKeys tbl = .ok ()) :
    ∃ k, KeysSection.ofTable tbl = .ok k ∧ ∀ p ∈ k.prefixKey, (parsePrefix p).isSome := by
  obtain ⟨k, read, letter⟩ := except_bind_eq_ok.mp checked
  rw [demand_eq_ok, Option.all_eq_true] at letter
  exact ⟨k, read, letter⟩

omit [ConfigEnv] in
theorem checkClipboard_ok {tbl : List (String × Toml)} (checked : checkClipboard tbl = .ok ()) :
    ∃ c, ClipboardSection.ofTable tbl = .ok c ∧ (∀ n ∈ c.osc52MaxBytes, ¬n ≤ 0) ∧
      (∀ argv ∈ c.copyCommand, (usableArgv argv).isSome) ∧ ∀ argv ∈ c.pasteCommand, (usableArgv argv).isSome := by
  have usable {argv : List String} (valid : validCommandArgv argv = true) : (usableArgv argv).isSome := by
    rw [usableArgv, if_pos valid]
    rfl
  obtain ⟨c, read, checked⟩ := except_bind_eq_ok.mp checked
  obtain ⟨⟨⟩, bytes, checked⟩ := except_bind_eq_ok.mp checked
  obtain ⟨⟨⟩, copy, paste⟩ := except_bind_eq_ok.mp checked
  rw [demand_eq_ok, Option.all_eq_true] at bytes copy paste
  refine ⟨c, read, fun n some => ?_, fun argv some => usable (copy argv some), fun argv some => usable (paste argv some)⟩
  simpa only [Bool.not_eq_true', decide_eq_false_iff_not] using bytes n some

omit [ConfigEnv] in
theorem checkTheme_ok {tbl : List (String × Toml)} (checked : checkTheme tbl = .ok ()) :
    ∃ theme, sectionTheme tbl = some theme ∧ ∀ config, applyTheme tbl config = { config with theme } := by
  unfold checkTheme at checked
  unfold sectionTheme applyTheme
  split at checked
  · rename_i named
    cases name : (tbl.lookup "name").bind Toml.asStr with
    | none =>
        rw [name] at checked
        nomatch checked
    | some name' =>
        cases builtin : Theme.builtin name' with
        | none =>
            rw [name, Option.bind_some, builtin] at checked
            nomatch checked
        | some theme =>
            simp only [named, if_true, Option.bind_some, builtin, Option.getD_some]
            exact ⟨theme, rfl, fun _ => rfl⟩
  · rename_i named
    cases inline : inlineTheme tbl with
    | error e =>
        rw [inline] at checked
        nomatch checked
    | ok theme =>
        simp only [named, Bool.false_eq_true, if_false]
        exact ⟨theme, rfl, fun _ => rfl⟩

omit [TomlCrate] [ConfigEnv] in
/-- Segments that are all valid are all kept. -/
theorem segments_kept {segments : List (String × Toml)}
    (checked : (segments.forM fun (name, value) => (parseSegment name value).map fun _ => ()) = .ok ()) :
    (segments.mapM fun (name, raw) => parseSegment name raw) =
      .ok (segments.filterMap fun (name, raw) => (parseSegment name raw).toOption) := by
  induction segments with
  | nil => rfl
  | cons entry segments ih =>
      obtain ⟨⟨⟩, first, rest⟩ := except_bind_eq_ok.mp checked
      cases parsed : parseSegment entry.1 entry.2 with
      | error e =>
          simp only [parsed] at first
          nomatch first
      | ok segment =>
          rw [List.mapM_cons, ih rest, List.filterMap_cons]
          simp only [parsed]
          rfl

omit [TomlCrate] [ConfigEnv] in
theorem usable_side {v : Option Toml} (checked : checkSome v (fun v => (valueAsStringArray v).map fun _ => ()) = .ok ()) :
    ∀ a ∈ v, (valueAsStringArray a).toOption.isSome := by
  rintro a rfl
  change (valueAsStringArray a).map _ = _ at checked
  cases parsed : valueAsStringArray a with
  | error e =>
      rw [parsed] at checked
      nomatch checked
  | ok list => rfl

omit [TomlCrate] [ConfigEnv] in
theorem checkStatusBar_ok {tbl : List (String × Toml)} (checked : checkStatusBar tbl = .ok ()) :
    ∃ bar, SaysStatusBar tbl bar ∧ ∀ config, applyStatusBar tbl config = { config with statusBar := bar } := by
  obtain ⟨⟨⟩, left, checked⟩ := except_bind_eq_ok.mp checked
  obtain ⟨⟨⟩, right, segments⟩ := except_bind_eq_ok.mp checked
  refine ⟨_, ⟨said_orKeep _ (usable_side left), said_orKeep _ (usable_side right), ?_⟩, fun _ => rfl⟩
  cases listed : tbl.lookup "segments" with
  | none => rfl
  | some v =>
      rw [listed] at segments
      cases v with
      | table entries =>
          change (entries.forM fun (name, value) => (parseSegment name value).map fun _ => ()) = .ok () at segments
          simp only [Said, Toml.asTable, Option.bind_some, segments_kept segments]
          rfl
      | _ => nomatch segments

theorem checkRaw_says {raw : RawConfig} {bindings : ReloadedBindings} (checked : checkRaw raw = .ok ())
    (hooks : checkHooks raw.hooks = .ok bindings.hooks)
    (keymap : Said raw.keymap (fun tbl => (checkKeymap tbl).toOption) Keymap.loadDefaults bindings.keymap) :
    SaysDocument raw (applyRaw raw .default) bindings := by
  obtain ⟨⟨⟩, globalOk, checked⟩ := except_bind_eq_ok.mp checked
  obtain ⟨⟨⟩, keysOk, checked⟩ := except_bind_eq_ok.mp checked
  obtain ⟨⟨⟩, clipboardOk, checked⟩ := except_bind_eq_ok.mp checked
  obtain ⟨⟨⟩, themeOk, checked⟩ := except_bind_eq_ok.mp checked
  obtain ⟨⟨⟩, statusBarOk, -⟩ := except_bind_eq_ok.mp checked
  obtain ⟨g, global, globalSays, globalApplied⟩ :=
    @section_cases GlobalSection raw.global GlobalSection.ofTable checkGlobal (fun g => SaysGlobal g (applyGlobal g .default))
      ⟨none, none, none, none, none, none, none, none⟩ rfl ⟨rfl, rfl, rfl, rfl, rfl, rfl, rfl, rfl⟩
      (fun _ => checkGlobal_ok) applyGlobal (fun _ => rfl) globalOk
  obtain ⟨k, keys, letter, keysApplied⟩ :=
    @section_cases KeysSection raw.keys KeysSection.ofTable checkKeys (fun k => ∀ p ∈ k.prefixKey, (parsePrefix p).isSome)
      ⟨none⟩ rfl nofun (fun _ => checkKeys_ok) applyKeys (fun _ => rfl) keysOk
  obtain ⟨c, clipboard, ⟨bytes, copy, paste⟩, clipboardApplied⟩ :=
    @section_cases ClipboardSection raw.clipboard ClipboardSection.ofTable checkClipboard
      (fun c => (∀ n ∈ c.osc52MaxBytes, ¬n ≤ 0) ∧ (∀ argv ∈ c.copyCommand, (usableArgv argv).isSome) ∧
        ∀ argv ∈ c.pasteCommand, (usableArgv argv).isSome)
      ⟨none, none, none, none, none⟩ rfl ⟨nofun, nofun, nofun⟩ (fun _ => checkClipboard_ok) applyClipboard (fun _ => rfl)
      clipboardOk
  obtain ⟨theme, themeSays, themeApplied⟩ : ∃ theme, Said raw.theme sectionTheme EzpnConfig.default.theme theme ∧
      ∀ config : EzpnConfig, config.theme = EzpnConfig.default.theme →
        applySection raw.theme .ok applyTheme config = { config with theme } := by
    cases tbl : raw.theme with
    | none => exact ⟨_, rfl, fun config same => by rw [← same]; rfl⟩
    | some tbl' =>
        rw [tbl] at themeOk
        obtain ⟨theme, meant, applied⟩ := checkTheme_ok themeOk
        exact ⟨theme, meant, fun config _ => applied config⟩
  obtain ⟨bar, barSays, noBar, barApplied⟩ : ∃ bar, (∀ tbl ∈ raw.statusBar, SaysStatusBar tbl bar) ∧
      (raw.statusBar = none → bar = EzpnConfig.default.statusBar) ∧
      ∀ config : EzpnConfig, config.statusBar = EzpnConfig.default.statusBar →
        applySection raw.statusBar .ok applyStatusBar config = { config with statusBar := bar } := by
    cases tbl : raw.statusBar with
    | none => exact ⟨_, nofun, fun _ => rfl, fun config same => by rw [← same]; rfl⟩
    | some tbl' =>
        rw [tbl] at statusBarOk
        obtain ⟨bar, meant, applied⟩ := checkStatusBar_ok statusBarOk
        refine ⟨bar, fun other equal => ?_, nofun, fun config _ => applied config⟩
        obtain rfl := Option.some.inj equal
        exact meant
  have result : applyRaw raw .default =
      { applyClipboard c (applyKeys k (applyGlobal g .default)) with theme, statusBar := bar } := by
    simp only [applyRaw, globalApplied, keysApplied, clipboardApplied]
    rw [themeApplied (applyClipboard c (applyKeys k (applyGlobal g .default))) rfl,
      barApplied { applyClipboard c (applyKeys k (applyGlobal g .default)) with theme } rfl]
  rw [result]
  refine ⟨⟨g, global, globalSays⟩, ⟨k, keys, said_orKeep _ letter⟩, ⟨c, clipboard, said_some _ _, said_some _ _, ?_,
    said_orKeep _ copy, said_orKeep _ paste⟩, themeSays, barSays, noBar, hooks, keymap⟩
  refine said_orKeep _ fun n some => ?_
  rw [if_neg (bytes n some)]
  rfl

/-! ## Flat texts -/

omit [TomlCrate] [ConfigEnv] in
theorem checkLegacy_ok {lines : List (List Char)} (checked : checkLegacy lines = .ok ()) :
    (∀ line ∈ lines, (legacyEntry line).isSome) ∧ ∀ entry ∈ lines.filterMap legacyEntry, legacyValid entry.1 entry.2 = true := by
  induction lines with
  | nil => exact ⟨nofun, nofun⟩
  | cons line lines ih =>
      rw [checkLegacy] at checked
      cases read : legacyEntry line with
      | none =>
          rw [read] at checked
          nomatch checked
      | some entry =>
          obtain ⟨key, value⟩ := entry
          rw [read] at checked
          dsimp only at checked
          split at checked
          · rename_i valid
            obtain ⟨entries, valids⟩ := ih checked
            rw [List.filterMap_cons, read]
            refine ⟨List.forall_mem_cons.mpr ⟨by rw [read]; rfl, entries⟩, List.forall_mem_cons.mpr ⟨valid, valids⟩⟩
          · nomatch checked

omit [TomlCrate] [ConfigEnv] in
theorem applyLegacyFlat_eq (contents : String) (config : EzpnConfig) :
    applyLegacyFlat contents config =
      ((legacyLines contents).filterMap legacyEntry).foldl (fun config entry => applyLegacyEntry config entry.1 entry.2) config := by
  unfold applyLegacyFlat
  rw [List.foldl_filterMap]
  congr 1
  funext config line
  cases legacyEntry line <;> rfl

omit [TomlCrate] [ConfigEnv] in
/-- A field follows the last line with its key. -/
theorem said_last {β : Type} {entries : List (String × String)} {field : EzpnConfig → β} {key : String}
    {use : String → Option β} (valid : ∀ entry ∈ entries, legacyValid entry.1 entry.2 = true)
    (hit : ∀ config value, legacyValid key value = true → use value = some (field (applyLegacyEntry config key value)))
    (miss : ∀ config other value, other ≠ key → field (applyLegacyEntry config other value) = field config)
    (start : EzpnConfig) :
    Said (entries.reverse.lookup key) use (field start)
      (field (entries.foldl (fun config entry => applyLegacyEntry config entry.1 entry.2) start)) := by
  induction entries using List.reverseRecOn with
  | nil => rfl
  | append_singleton entries entry ih =>
      obtain ⟨other, value⟩ := entry
      have earlier := ih fun entry member => valid entry (List.mem_append_left _ member)
      have last := valid (other, value) (List.mem_append_right _ List.mem_cons_self)
      rw [List.reverse_append, List.foldl_append]
      simp only [List.reverse_singleton, List.singleton_append, List.foldl_cons, List.foldl_nil, List.lookup_cons]
      by_cases same : key = other
      · subst same
        rw [beq_self_eq_true]
        exact hit _ value last
      · rw [beq_eq_false_iff_ne.mpr same, miss _ other value (Ne.symm same)]
        exact earlier

omit [TomlCrate] [ConfigEnv] in
/-- A line leaves the fields of every other key. -/
theorem applyLegacyEntry_other (config : EzpnConfig) (other value : String) :
    let result := applyLegacyEntry config other value
    (other ≠ "border" → result.border = config.border) ∧ (other ≠ "shell" → result.shell = config.shell) ∧
      (other ≠ "scrollback" → result.scrollback = config.scrollback) ∧
      (other ≠ "status_bar" → result.showStatusBar = config.showStatusBar) ∧
      (other ≠ "tab_bar" → result.showTabBar = config.showTabBar) ∧
      (other ≠ "prefix" → result.prefixKey = config.prefixKey) ∧ result.beyondFlat = config.beyondFlat := by
  have same {p : Prop} {β : Type} (b : β) : p → b = b := fun _ => rfl
  unfold applyLegacyEntry
  split
  · exact ⟨absurd rfl, same _, same _, same _, same _, same _, rfl⟩
  · exact ⟨same _, absurd rfl, same _, same _, same _, same _, rfl⟩
  · split
    · exact ⟨same _, same _, absurd rfl, same _, same _, same _, rfl⟩
    · exact ⟨same _, same _, same _, same _, same _, same _, rfl⟩
  · exact ⟨same _, same _, same _, absurd rfl, same _, same _, rfl⟩
  · exact ⟨same _, same _, same _, same _, absurd rfl, same _, rfl⟩
  · exact ⟨same _, same _, same _, same _, same _, absurd rfl, rfl⟩
  · exact ⟨same _, same _, same _, same _, same _, same _, rfl⟩

theorem checkLegacy_says {contents : String} {bindings : ReloadedBindings} (checked : checkLegacy (legacyLines contents) = .ok ())
    (hooks : bindings.hooks = []) (keymap : bindings.keymap = Keymap.loadDefaults) :
    SaysFlat (legacyLines contents) (applyLegacyFlat contents .default) bindings := by
  obtain ⟨entries, valid⟩ := checkLegacy_ok checked
  have other := applyLegacyEntry_other
  rw [applyLegacyFlat_eq]
  refine ⟨entries,
    said_last valid ?_ (fun config key value => (other config key value).1) _,
    said_last valid (fun _ _ _ => rfl) (fun config key value => (other config key value).2.1) _,
    said_last valid ?_ (fun config key value => (other config key value).2.2.1) _,
    said_last valid (fun _ _ _ => rfl) (fun config key value => (other config key value).2.2.2.1) _,
    said_last valid (fun _ _ _ => rfl) (fun config key value => (other config key value).2.2.2.2.1) _,
    said_last valid ?_ (fun config key value => (other config key value).2.2.2.2.2.1) _, ?_, hooks, keymap⟩
  · intro config value valid
    obtain ⟨style, known⟩ := Option.isSome_iff_exists.mp valid
    change _ = some ((BorderStyle.fromStr value).getD config.border)
    rw [known]
    rfl
  · intro config value valid
    obtain ⟨n, number⟩ := Option.isSome_iff_exists.mp valid
    unfold applyLegacyEntry
    simp only [number]
    rfl
  · intro config value valid
    obtain ⟨letter, known⟩ := Option.isSome_iff_exists.mp valid
    change _ = some ((parsePrefix value).getD config.prefixKey)
    rw [known]
    rfl
  · generalize (legacyLines contents).filterMap legacyEntry = entries
    suffices kept : ∀ config : EzpnConfig,
        (entries.foldl (fun config entry => applyLegacyEntry config entry.1 entry.2) config).beyondFlat = config.beyondFlat from
      kept _
    induction entries with
    | nil => exact fun _ => rfl
    | cons entry entries ih => exact fun config => (ih _).trans (other config entry.1 entry.2).2.2.2.2.2.2

omit [TomlCrate] [ConfigEnv] in
/-- A blank text has no lines that count. -/
theorem legacyLines_blank {contents : String} (blank : Text.trim contents.toList = []) : legacyLines contents = [] := by
  have trim_nil {cs : List Char} : Text.trim cs = [] ↔ ∀ c ∈ cs, Text.isWhitespace c := by
    rw [Text.trim, List.reverse_eq_nil_iff, Text.trimStart, List.dropWhile_eq_nil_iff]
    constructor
    · intro spaces c member
      by_cases front : c ∈ cs.takeWhile Text.isWhitespace
      · exact List.mem_takeWhile_imp front
      · refine spaces c (List.mem_reverse.mpr ?_)
        rw [← @List.takeWhile_append_dropWhile _ Text.isWhitespace cs] at member
        exact (List.mem_append.mp member).resolve_left front
    · exact fun spaces c member => spaces c ((List.dropWhile_suffix _).subset (List.mem_reverse.mp member))
  rw [legacyLines, List.filter_eq_nil_iff]
  intro line member
  obtain ⟨piece, listed, rfl⟩ := List.mem_map.mp member
  suffices none : Text.trim piece = [] by
    rw [none]
    decide
  refine trim_nil.mpr fun c inside => trim_nil.mp blank c ?_
  obtain ⟨part, split, rfl⟩ := List.mem_map.mp listed
  have inside : c ∈ part := by
    split at inside
    · exact (List.dropLast_subset _) inside
    · exact inside
  refine Text.mem_of_mem_splitOn (a := '\n') ?_ inside
  split at split
  · exact (List.dropLast_subset _) split
  · exact split

/-- A text that passes the checks is said in full. -/
theorem reload_says {contents : String} {new : EzpnConfig} {bindings : ReloadedBindings}
    (parsed : parseConfigChecked contents = .ok new) (hooks : parseHooksChecked contents = .ok bindings.hooks)
    (keymap : parseKeymapChecked contents = .ok bindings.keymap) : Says contents new bindings := by
  unfold parseConfigChecked at parsed
  unfold parseHooksChecked at hooks
  unfold parseKeymapChecked at keymap
  unfold Says
  cases format : hasTomlTableHeader contents with
  | true =>
      simp only [format, if_true] at parsed hooks keymap ⊢
      obtain ⟨raw, read, hooks⟩ := except_bind_eq_ok.mp hooks
      rw [read] at parsed keymap
      change (checkRaw raw >>= fun _ => .ok (parseConfig contents)) = .ok new at parsed
      obtain ⟨⟨⟩, checked, result⟩ := except_bind_eq_ok.mp parsed
      obtain rfl := Except.ok.inj result
      refine ⟨raw, read, ?_⟩
      rw [parseConfig, if_pos format, read]
      refine checkRaw_says checked hooks ?_
      dsimp only [bind, Except.bind] at keymap
      cases table : raw.keymap with
      | none =>
          rw [table] at keymap
          exact (Except.ok.inj keymap).symm
      | some tbl =>
          rw [table] at keymap
          have keymap : checkKeymap tbl = .ok bindings.keymap := keymap
          change (checkKeymap tbl).toOption = _
          rw [keymap]
          rfl
  | false =>
      simp only [format, Bool.false_eq_true, if_false] at parsed hooks keymap ⊢
      obtain ⟨⟨⟩, checked, result⟩ := except_bind_eq_ok.mp parsed
      obtain rfl := Except.ok.inj result
      have flat := checkLegacy_says checked (Except.ok.inj hooks).symm (Except.ok.inj keymap).symm
      rw [parseConfig, if_neg (by simp only [format, Bool.false_eq_true, not_false_eq_true])]
      split
      · exact flat
      · rename_i blank
        rw [applyLegacyFlat, legacyLines_blank (not_not.mp blank)] at flat
        rw [legacyLines_blank (not_not.mp blank)]
        exact flat

end Environment

/-! ## Reloads -/

theorem NonReloadable.mem_all (field : NonReloadable) : field ∈ all := by cases field <;> decide

theorem NonReloadable.name_injective : Function.Injective NonReloadable.name := by
  intro a b
  cases a <;> cases b <;> decide

/-- The names are those of the fields that differ, each once. -/
theorem nonReloadableChanged_names (previous new : EzpnConfig) :
    (previous.nonReloadableChanged new).Nodup ∧
      ∀ name, name ∈ previous.nonReloadableChanged new ↔ ∃ field : NonReloadable, field.name = name ∧ ¬field.Same new previous := by
  constructor
  · refine List.Nodup.map NonReloadable.name_injective (List.Nodup.filter _ ?_)
    decide
  · intro name
    constructor
    · intro member
      obtain ⟨field, differs, rfl⟩ := List.mem_map.mp member
      exact ⟨field, rfl, of_decide_eq_true (List.mem_filter.mp differs).2⟩
    · rintro ⟨field, rfl, differs⟩
      exact List.mem_map_of_mem (List.mem_filter.mpr ⟨field.mem_all, decide_eq_true differs⟩)

theorem NonReloadable.Same.refl (config : EzpnConfig) (field : NonReloadable) : field.Same config config := by
  cases field with
  | clipboard => exact ⟨rfl, rfl, rfl⟩
  | _ => rfl

theorem NonReloadable.same_preserve (previous new : EzpnConfig) (field : NonReloadable) :
    field.Same (previous.preserve new) previous := by
  cases field with
  | clipboard => exact ⟨rfl, rfl, rfl⟩
  | _ => rfl

theorem NonReloadable.Same.trans {a b c : EzpnConfig} {field : NonReloadable} (first : field.Same a b)
    (second : field.Same b c) : field.Same a c := by
  cases field with
  | clipboard => exact ⟨first.1.trans second.1, first.2.1.trans second.2.1, first.2.2.trans second.2.2⟩
  | _ => exact Eq.trans first second

section Reloads
variable [TomlCrate] [ConfigEnv]

namespace LiveSettings

/-- What the screen shows of the settings. -/
def visible (s : LiveSettings) :=
  (s.settings.borderStyle, s.settings.showStatusBar, s.settings.showTabBar, s.theme, s.resolvedPalette, s.config.statusBar)

/-- What happens to the settings: a file is loaded again, the loop takes the bindings or
redraws, and the panel changes what it shows. -/
inductive Change where
  | reload (file : Except String String)
  | takeBindings
  | redraw
  | panel (change : Settings → Settings)

def change (s : LiveSettings) : Change → LiveSettings
  | .reload file => (s.reloadConfig file).1
  | .takeBindings => s.takeReloadedBindings
  | .redraw => { s with reloadDirty := false }
  | .panel change => { s with settings := change s.settings }

/-- All of a configuration and its bindings is in force, next to what is kept from before. -/
structure Applied (before : LiveSettings) (new : EzpnConfig) (bindings : ReloadedBindings) (after : LiveSettings) : Prop where
  settings : after.settings =
    { before.settings with borderStyle := new.border, showStatusBar := new.showStatusBar, showTabBar := new.showTabBar }
  theme : after.theme = new.theme
  palette : after.resolvedPalette = new.theme.resolve before.colorDepth
  depth : after.colorDepth = before.colorDepth
  runtime : after.runtime = some (before.config.preserve new)
  bindings : after.reloadedBindings = some bindings

/-- A reload fails with the settings as they were, or puts a whole text in force. -/
theorem reload_cases (s : LiveSettings) (file : Except String String) :
    (∃ message, s.reloadConfig file = (s.takeReloadedBindings, .error message)) ∨
      ∃ text new bindings, file = .ok text ∧ Says text new bindings ∧
        s.reloadConfig file =
          (s.takeReloadedBindings.install (s.config.preserve new) bindings, .reloaded (s.config.nonReloadableChanged new)) := by
  unfold reloadConfig
  cases file with
  | error message => exact .inl ⟨message, rfl⟩
  | ok text =>
      cases parsed : parseConfigChecked text with
      | error message => exact .inl ⟨message, by simp only [parsed]; rfl⟩
      | ok new =>
          cases hooks : parseHooksChecked text with
          | error message => exact .inl ⟨message, by simp only [parsed, hooks]; rfl⟩
          | ok hooks' =>
              cases keymap : parseKeymapChecked text with
              | error message => exact .inl ⟨message, by simp only [parsed, hooks, keymap]; rfl⟩
              | ok keymap' =>
                  refine .inr ⟨text, new, ⟨hooks', keymap'⟩, rfl, reload_says parsed hooks keymap, ?_⟩
                  simp only [parsed, hooks, keymap]
                  rfl

theorem install_applied (s : LiveSettings) (new : EzpnConfig) (bindings : ReloadedBindings) :
    Applied s new bindings (s.install (s.config.preserve new) bindings) := by
  unfold install
  split
  · exact ⟨rfl, rfl, rfl, rfl, rfl, rfl⟩
  · rename_i same
    have same : s.theme = new.theme := not_not.mp same
    exact ⟨rfl, same, by rw [← same]; exact s.resolved, rfl, rfl, rfl⟩

/-- A visible change asks for a redraw. -/
theorem install_dirty (s : LiveSettings) (new : EzpnConfig) (bindings : ReloadedBindings)
    (differs : (s.install new bindings).visible ≠ s.visible) : (s.install new bindings).reloadDirty = true := by
  refine Bool.or_eq_true_iff.mpr (.inr ?_)
  by_contra unchanged
  simp only [visualChanged, ne_eq, Bool.or_eq_true, decide_eq_true_eq, not_or, not_not] at unchanged
  obtain ⟨⟨⟨⟨border, statusBar⟩, tabBar⟩, theme⟩, bar⟩ := unchanged
  refine differs ?_
  rw [install, if_neg (not_not.mpr theme), visible, visible, border, statusBar, tabBar, bar]
  rfl

theorem change_config (s : LiveSettings) (c : Change) (field : NonReloadable) : field.Same (s.change c).config s.config := by
  cases c with
  | reload file =>
      rcases s.reload_cases file with ⟨message, failed⟩ | ⟨text, new, bindings, -, -, reloaded⟩
      · rw [change, failed]
        exact .refl _ field
      · rw [change, reloaded]
        exact field.same_preserve s.config new
  | _ => exact .refl _ field

theorem changes_config (start : LiveSettings) (changes : List Change) (field : NonReloadable) :
    field.Same (changes.foldl change start).config start.config :=
  @Machine.Run.invariant _ _ change _ (fun s => field.Same s.config start.config)
    (fun s c same _ => (s.change_config c field).trans same) _ _ (.refl _ field) (.of_labels change start changes)

/-- After any changes, a reload of settings whose bindings have been taken is transactional. -/
theorem reload_transactional (start : LiveSettings) (changes : List Change) (file : Except String String) :
    let s := (changes.foldl change start).takeReloadedBindings
    let (after, outcome) := s.reloadConfig file
    (match outcome with
      | .error _ => after = s
      | .reloaded changed => ∃ text new bindings, file = .ok text ∧ Says text new bindings ∧ Applied s new bindings after ∧
          changed.Nodup ∧ ∀ name, name ∈ changed ↔ ∃ field : NonReloadable, field.name = name ∧ ¬field.Same new s.config) ∧
      (∀ field : NonReloadable, field.Same after.config start.config) ∧
      (s.reloadDirty = true → after.reloadDirty = true) ∧ (after.visible ≠ s.visible → after.reloadDirty = true) := by
  have kept := changes_config start changes
  generalize changes.foldl change start = s at kept ⊢
  intro s
  rcases s.reload_cases file with ⟨message, failed⟩ | ⟨text, new, bindings, read, meant, reloaded⟩
  · rw [failed]
    exact ⟨rfl, kept, id, absurd rfl⟩
  · rw [reloaded]
    refine ⟨⟨text, new, bindings, read, meant, s.install_applied new bindings, nonReloadableChanged_names s.config new⟩,
      fun field => (field.same_preserve _ new).trans (kept field), ?_, s.install_dirty _ bindings⟩
    intro dirty
    exact Bool.or_eq_true_iff.mpr (.inl dirty)

end LiveSettings

end Reloads

end Ezpn
