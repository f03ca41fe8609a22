import Mathlib
import Ezpn.Keymap

/-!
# Reported keys

What a key of a binding spells, which key press that is, and how a terminal
reports the press. The chord of the report is the chord of the binding for all
but a few spellings, and where none of those is used every binding of a table
is found on its key press.
-/

set_option autoImplicit false

namespace Ezpn.Keymap

/-! ## Spellings -/

/-- The names of a key. -/
inductive Names : List Char → KeyCode → Prop where
  | function {c : Char} {num : List Char} {n : Nat} :
      c = 'F' ∨ c = 'f' → Text.parseUnsigned 255 num = some n → 1 ≤ n ∧ n ≤ 12 → Names (c :: num) (.f n)
  | named {name : String} {code : KeyCode} : (name, code) ∈ namedKeys → Names name.toList code
  | char {c : Char} : Names [c] (.char c)

/-- A name after any number of modifiers. -/
inductive Spells : List Char → KeyModifiers → KeyCode → Prop where
  | key {spec : List Char} {code : KeyCode} : Names spec code → Spells spec {} code
  | control {c : Char} {spec : List Char} {mods : KeyModifiers} {code : KeyCode} :
      c = 'C' ∨ c = 'c' → Spells spec mods code → Spells (c :: '-' :: spec) { mods with control := true } code
  | alt {c : Char} {spec : List Char} {mods : KeyModifiers} {code : KeyCode} :
      c = 'M' ∨ c = 'm' → Spells spec mods code → Spells (c :: '-' :: spec) { mods with alt := true } code
  | shift {c : Char} {spec : List Char} {mods : KeyModifiers} {code : KeyCode} :
      c = 'S' ∨ c = 's' → Spells spec mods code → Spells (c :: '-' :: spec) { mods with shift := true } code

/-- A name is read as its code, and is neither a single character nor a chord. -/
theorem namedKeys_spec : ∀ entry ∈ namedKeys, keyCode entry.1.toList = .ok entry.2 ∧
    entry.1.toList[1]? ≠ some '-' ∧ entry.1.toList.length ≠ 1 := by
  decide +kernel

theorem lookup_mem {rest : String} {code : KeyCode} (found : namedKeys.lookup rest = some code) :
    (rest, code) ∈ namedKeys := by
  obtain ⟨before, after, equal, -⟩ := List.lookup_eq_some_iff.mp found
  rw [equal]
  exact List.mem_append_right _ List.mem_cons_self

theorem functionKey_eq_some {rest : List Char} {code : KeyCode} (found : functionKey rest = some code) :
    Names rest code := by
  cases rest with
  | nil => nomatch found
  | cons c num =>
      simp only [functionKey] at found
      split at found
      · rename_i letter
        split at found
        · rename_i n parsed
          split at found
          · rename_i small
            obtain rfl := Option.some.inj found
            exact .function letter parsed small
          · nomatch found
        · nomatch found
      · nomatch found

theorem keyCode_eq_ok_iff {rest : List Char} {code : KeyCode} : keyCode rest = .ok code ↔ Names rest code := by
  constructor
  · intro parsed
    unfold keyCode at parsed
    split at parsed
    · rename_i found
      obtain rfl := Except.ok.inj parsed
      exact functionKey_eq_some found
    · split at parsed
      · rename_i found
        obtain rfl := Except.ok.inj parsed
        have member := lookup_mem found
        have spelled := Names.named member
        rwa [String.toList_ofList] at spelled
      · obtain rfl := Except.ok.inj parsed
        exact .char
      · nomatch parsed
  · intro named
    cases named with
    | function letter parsed small => simp only [keyCode, functionKey, if_pos letter, parsed, if_pos small]
    | named member => exact (namedKeys_spec _ member).1
    | @char c =>
        have function : functionKey [c] = none := by
          simp only [functionKey, Text.parseUnsigned]
          exact ite_self none
        have unnamed : namedKeys.lookup (String.ofList [c]) = none := by
          refine Option.eq_none_iff_forall_ne_some.mpr fun code found => ?_
          have length := (namedKeys_spec _ (lookup_mem found)).2.2
          rw [String.toList_ofList] at length
          exact length rfl
        simp only [keyCode, function, unnamed]

/-- A name does not look like a modifier. -/
theorem Names.second {spec : List Char} {code : KeyCode} (names : Names spec code) : spec[1]? ≠ some '-' := by
  cases names with
  | @function c num n letter parsed small =>
      intro dash
      cases num with
      | nil => nomatch dash
      | cons d num =>
          obtain rfl : d = '-' := Option.some.inj dash
          simp [Text.parseUnsigned, Text.digits?, Text.digit?] at parsed
  | named member => exact (namedKeys_spec _ member).2.1
  | char => simp

theorem Names.ne_nil {spec : List Char} {code : KeyCode} (names : Names spec code) : spec ≠ [] := by
  rintro rfl
  have parsed := keyCode_eq_ok_iff.mpr names
  revert parsed
  have none : keyCode [] = .error (.unknownNamedKey "") := by decide +kernel
  rw [none]
  exact fun parsed => nomatch parsed

/-- The modifiers of both. -/
def union (a b : KeyModifiers) : KeyModifiers where
  shift := a.shift || b.shift
  control := a.control || b.control
  alt := a.alt || b.alt

theorem modifiers_names {spec : List Char} {code : KeyCode} (names : Names spec code) (mods : KeyModifiers) :
    modifiers mods spec = (mods, spec) := by
  have second := names.second
  match spec with
  | [] => rfl
  | [c] => rfl
  | c :: d :: spec =>
      have other : d ≠ '-' := fun dash => second (congrArg some dash)
      unfold modifiers
      split
      · rename_i equal
        exact absurd (List.cons.inj (List.cons.inj equal).2).1 other
      · rfl

/-- The loop splits a spelling into its modifiers and its name. -/
theorem Spells.split {spec : List Char} {mods : KeyModifiers} {code : KeyCode} (spells : Spells spec mods code)
    (held : KeyModifiers) : ∃ rest, modifiers held spec = (union held mods, rest) ∧ Names rest code := by
  induction spells generalizing held with
  | key names =>
      refine ⟨_, ?_, names⟩
      rw [modifiers_names names, union]
      simp only [Bool.or_false]
  | control letter _ ih =>
      obtain ⟨rest, read, names⟩ := ih { held with control := true }
      refine ⟨rest, ?_, names⟩
      rw [modifiers, if_pos letter, read]
      simp only [union, Bool.true_or, Bool.or_true]
  | alt letter _ ih =>
      obtain ⟨rest, read, names⟩ := ih { held with alt := true }
      refine ⟨rest, ?_, names⟩
      rw [modifiers, if_neg (by rcases letter with rfl | rfl <;> decide), if_pos letter, read]
      simp only [union, Bool.true_or, Bool.or_true]
  | shift letter _ ih =>
      obtain ⟨rest, read, names⟩ := ih { held with shift := true }
      refine ⟨rest, ?_, names⟩
      rw [modifiers, if_neg (by rcases letter with rfl | rfl <;> decide),
        if_neg (by rcases letter with rfl | rfl <;> decide), if_pos letter, read]
      simp only [union, Bool.true_or, Bool.or_true]

theorem spells_of_modifiers {spec rest : List Char} {held mods : KeyModifiers} {code : KeyCode}
    (read : modifiers held spec = (mods, rest)) (names : Names rest code) :
    ∃ added, Spells spec added code ∧ mods = union held added := by
  fun_induction modifiers held spec with
  | case1 held c spec letter ih =>
      obtain ⟨added, spells, rfl⟩ := ih read
      exact ⟨_, .control letter spells, by simp only [union, Bool.true_or, Bool.or_true]⟩
  | case2 held c spec _ letter ih =>
      obtain ⟨added, spells, rfl⟩ := ih read
      exact ⟨_, .alt letter spells, by simp only [union, Bool.true_or, Bool.or_true]⟩
  | case3 held c spec _ _ letter ih =>
      obtain ⟨added, spells, rfl⟩ := ih read
      exact ⟨_, .shift letter spells, by simp only [union, Bool.true_or, Bool.or_true]⟩
  | case4 held c spec _ _ _ =>
      obtain ⟨rfl, rfl⟩ := Prod.mk.inj read
      exact absurd rfl names.second
  | case5 held spec _ =>
      obtain ⟨rfl, rfl⟩ := Prod.mk.inj read
      exact ⟨_, .key names, by simp only [union, Bool.or_false]⟩

theorem union_empty (mods : KeyModifiers) : union {} mods = mods := rfl

/-- A text is parsed exactly when it spells a key. -/
theorem parseChord_eq_ok_iff {input : String} {chord : KeyChord} :
    parseChord input = .ok chord ↔
      ∃ mods code, Spells (Text.trim input.toList) mods code ∧ chord = .new code mods := by
  unfold parseChord
  constructor
  · intro parsed
    split at parsed
    · nomatch parsed
    · split at parsed
      · nomatch parsed
      · rename_i mods rest _ read
        cases named : keyCode rest with
        | error e =>
            rw [named] at parsed
            nomatch parsed
        | ok code =>
            rw [named] at parsed
            obtain rfl := Except.ok.inj parsed
            obtain ⟨added, spells, rfl⟩ := spells_of_modifiers read (keyCode_eq_ok_iff.mp named)
            exact ⟨added, code, spells, rfl⟩
  · rintro ⟨mods, code, spells, rfl⟩
    obtain ⟨rest, read, names⟩ := spells.split {}
    rw [union_empty] at read
    split
    · rename_i empty
      rw [empty] at read
      obtain ⟨-, rfl⟩ := Prod.mk.inj read
      exact absurd rfl names.ne_nil
    · rw [read]
      split
      · rename_i empty
        exact absurd (Prod.mk.inj empty).2 names.ne_nil
      · rename_i equal
        obtain ⟨rfl, rfl⟩ := Prod.mk.inj equal
        rw [keyCode_eq_ok_iff.mpr names]
        rfl

theorem Spells.unique {spec : List Char} {mods mods' : KeyModifiers} {code code' : KeyCode}
    (spells : Spells spec mods code) (other : Spells spec mods' code') : mods = mods' ∧ code = code' := by
  obtain ⟨rest, read, names⟩ := spells.split {}
  obtain ⟨rest', read', names'⟩ := other.split {}
  rw [read] at read'
  obtain ⟨same, rfl⟩ := Prod.mk.inj read'
  have codes := keyCode_eq_ok_iff.mpr names
  rw [keyCode_eq_ok_iff.mpr names'] at codes
  exact ⟨same, (Except.ok.inj codes).symm⟩

/-! ## Chords -/

namespace KeyChord

theorem new_letter {c : Char} (letter : c.isAlpha = true) (mods : KeyModifiers) :
    new (.char c) mods =
      ⟨.char c.toLower, { mods with shift := mods.shift || c.isUpper && !mods.control }⟩ := by
  simp only [new, letter, if_true]
  cases c.isUpper && !mods.control with
  | false => simp only [Bool.false_eq_true, if_false, Bool.or_false]
  | true => simp only [if_true, Bool.or_true]

theorem new_glyph {c : Char} (glyph : c.isAlpha = false) (mods : KeyModifiers) :
    new (.char c) mods = ⟨.char c, { mods with shift := false }⟩ := by
  simp only [new, glyph, Bool.false_eq_true, if_false]

theorem new_code {code : KeyCode} (key : ∀ c, code ≠ .char c) (mods : KeyModifiers) : new code mods = ⟨code, mods⟩ := by
  cases code with
  | char c => exact absurd rfl (key c)
  | _ => rfl

/-- A chord is its own common form. -/
theorem new_new (code : KeyCode) (mods : KeyModifiers) : new (new code mods).code (new code mods).mods = new code mods := by
  cases code with
  | char c =>
      cases alpha : c.isAlpha with
      | true =>
          rw [new_letter alpha, new_letter (by rw [Char.isAlpha_toLower_eq_isAlpha, alpha])]
          simp only [Char.toLower_toLower_eq_toLower, Char.isUpper_toLower_eq_false, Bool.false_and, Bool.or_false]
      | false => rw [new_glyph alpha, new_glyph alpha]
  | _ => rfl

@[simp] theorem fromEvent_mk (code : KeyCode) (held : KeyModifiers) (superKey hyper metaKey : Bool) :
    fromEvent ⟨code, ⟨held, superKey, hyper, metaKey⟩⟩ = new code held := rfl

end KeyChord

/-! ## Terminals -/

/-- What a key is: a letter of the alphabet, a character as it is typed, or a key without one. -/
inductive Key where
  | letter (c : Char)
  | glyph (c : Char)
  | tab
  | other (code : KeyCode)
  deriving DecidableEq

structure KeyPress where
  key : Key
  held : KeyModifiers
  deriving DecidableEq

/-- What differs from one terminal and keyboard to the next: whether Shift is
reported beside Ctrl and a letter, and the capital that Shift makes of a small
letter outside the alphabet. -/
structure Terminal where
  reportsShift : Bool
  capital : Char → Option Char
  capital_ne : ∀ c large, capital c = some large → large ≠ c

/-- The press of a chord in common form. -/
def KeyChord.pressed (chord : KeyChord) : KeyPress :=
  match chord.code with
  | .char c => if c.isAlpha then ⟨.letter c, chord.mods⟩ else ⟨.glyph c, chord.mods⟩
  | .tab => ⟨.tab, chord.mods⟩
  | .backTab => ⟨.tab, chord.mods⟩
  | code => ⟨.other code, chord.mods⟩

namespace Terminal
variable (terminal : Terminal)

/-- The press that a spelling denotes. A large letter is typed with Shift, unless
Ctrl makes its case meaningless, and `BackTab` is Shift and `Tab`. The Shift of a
typed character is in the character. -/
def press (mods : KeyModifiers) : KeyCode → KeyPress
  | .char c =>
      if c.isAlpha then
        { key := .letter c.toLower, held := { mods with shift := mods.shift || c.isUpper && !mods.control } }
      else
        { key := .glyph (if mods.shift then (terminal.capital c).getD c else c), held := { mods with shift := false } }
  | .tab => { key := .tab, held := mods }
  | .backTab => { key := .tab, held := { mods with shift := true } }
  | code => { key := .other code, held := mods }

def Denotes (spec : String) (press : KeyPress) : Prop :=
  ∃ mods code, Spells (Text.trim spec.toList) mods code ∧ press = terminal.press mods code

/-- The events with which a terminal can report a press. Modifiers that no
binding can name are reported or not. -/
inductive Reports : KeyPress → KeyReport → Prop where
  | letter {c : Char} {held : KeyModifiers} {superKey hyper metaKey : Bool} : held.control = false →
      Reports ⟨.letter c, held⟩ ⟨.char (if held.shift then c.toUpper else c), ⟨held, superKey, hyper, metaKey⟩⟩
  | control {c : Char} {held : KeyModifiers} {superKey hyper metaKey : Bool} : held.control = true →
      Reports ⟨.letter c, held⟩
        ⟨.char c, ⟨{ held with shift := held.shift && terminal.reportsShift }, superKey, hyper, metaKey⟩⟩
  | glyph {c : Char} {held : KeyModifiers} {superKey hyper metaKey : Bool} (shift : Bool) :
      Reports ⟨.glyph c, held⟩ ⟨.char c, ⟨{ held with shift := shift }, superKey, hyper, metaKey⟩⟩
  | tab {held : KeyModifiers} {superKey hyper metaKey : Bool} : held.shift = false →
      Reports ⟨.tab, held⟩ ⟨.tab, ⟨held, superKey, hyper, metaKey⟩⟩
  | backTab {held : KeyModifiers} {superKey hyper metaKey : Bool} : held.shift = true →
      Reports ⟨.tab, held⟩ ⟨.backTab, ⟨held, superKey, hyper, metaKey⟩⟩
  | other {code : KeyCode} {held : KeyModifiers} {superKey hyper metaKey : Bool} :
      Reports ⟨.other code, held⟩ ⟨code, ⟨held, superKey, hyper, metaKey⟩⟩

/-- The spellings whose chord is not the one of the reports: Shift with `Tab`,
`BackTab` without Shift, Shift with Ctrl and a letter where the terminal leaves
Shift out, and Shift with a small letter outside the alphabet. -/
def Misread (mods : KeyModifiers) : KeyCode → Prop
  | .char c =>
      if c.isAlpha then mods.control = true ∧ mods.shift = true ∧ terminal.reportsShift = false
      else mods.shift = true ∧ (terminal.capital c).isSome
  | .tab => mods.shift = true
  | .backTab => mods.shift = false
  | _ => False

def MisreadSpec (spec : String) : Prop :=
  ∃ mods code, Spells (Text.trim spec.toList) mods code ∧ terminal.Misread mods code

section
variable {terminal : Terminal} {mods : KeyModifiers}

theorem press_letter {c : Char} (letter : c.isAlpha = true) :
    terminal.press mods (.char c) =
      ⟨.letter c.toLower, { mods with shift := mods.shift || c.isUpper && !mods.control }⟩ :=
  if_pos letter

theorem press_glyph {c : Char} (glyph : c.isAlpha = false) :
    terminal.press mods (.char c) =
      ⟨.glyph (if mods.shift then (terminal.capital c).getD c else c), { mods with shift := false }⟩ :=
  if_neg (Bool.not_eq_true _ ▸ glyph)

theorem misread_letter {c : Char} (letter : c.isAlpha = true) :
    terminal.Misread mods (.char c) ↔ mods.control = true ∧ mods.shift = true ∧ terminal.reportsShift = false :=
  iff_of_eq (if_pos letter)

theorem misread_glyph {c : Char} (glyph : c.isAlpha = false) :
    terminal.Misread mods (.char c) ↔ mods.shift = true ∧ (terminal.capital c).isSome :=
  iff_of_eq (if_neg (Bool.not_eq_true _ ▸ glyph))

/-- A spelling that is read types the character that it names. -/
theorem typed_eq {c : Char} (glyph : c.isAlpha = false) (well : ¬terminal.Misread mods (.char c)) :
    (if mods.shift then (terminal.capital c).getD c else c) = c := by
  rw [misread_glyph glyph] at well
  split
  · rename_i held
    cases large : terminal.capital c with
    | none => rfl
    | some _ => exact absurd ⟨held, by rw [large]; rfl⟩ well
  · rfl

/-- Whatever the terminal reports of a press is read as the chord that spells it. -/
theorem fromEvent_of_reports {code : KeyCode} {ev : KeyReport} (well : ¬terminal.Misread mods code)
    (report : terminal.Reports (terminal.press mods code) ev) : KeyChord.fromEvent ev = .new code mods := by
  cases code with
  | char c =>
      cases alpha : c.isAlpha with
      | true =>
          rw [press_letter alpha] at report
          rw [misread_letter alpha] at well
          rw [KeyChord.new_letter alpha]
          cases report with
          | letter free =>
              change mods.control = false at free
              rw [KeyChord.fromEvent_mk, KeyChord.new_letter (by split <;> simp [alpha])]
              simp only [free, Bool.not_false, Bool.and_true]
              cases shift : mods.shift || c.isUpper <;> simp [alpha]
          | control held =>
              change mods.control = true at held
              rw [KeyChord.fromEvent_mk, KeyChord.new_letter (by simp [alpha])]
              simp only [held, Bool.not_true, Bool.and_false, Bool.or_false, Char.toLower_toLower_eq_toLower]
              cases shift : mods.shift with
              | false => rfl
              | true =>
                  cases reported : terminal.reportsShift with
                  | false => exact absurd ⟨held, shift, reported⟩ well
                  | true => rfl
      | false =>
          rw [press_glyph alpha, typed_eq alpha well] at report
          rw [KeyChord.new_glyph alpha]
          cases report with
          | glyph shift => rw [KeyChord.fromEvent_mk, KeyChord.new_glyph alpha]
  | tab =>
      cases report with
      | tab => rfl
      | backTab shift => exact absurd shift well
  | backTab =>
      have held : mods.shift = true := Bool.not_eq_false _ ▸ well
      cases report with
      | tab free => nomatch free
      | backTab _ =>
          rw [KeyChord.fromEvent_mk]
          cases mods
          subst held
          rfl
  | _ => cases report with | other => rfl

/-- A misread spelling has a report that is read as another chord. -/
theorem exists_report_ne {code : KeyCode} (misread : terminal.Misread mods code) :
    ∃ ev, terminal.Reports (terminal.press mods code) ev ∧ KeyChord.fromEvent ev ≠ .new code mods := by
  cases code with
  | char c =>
      cases alpha : c.isAlpha with
      | true =>
          obtain ⟨control, shift, left⟩ := (misread_letter alpha).mp misread
          rw [press_letter alpha]
          refine ⟨_, @Reports.control terminal _ _ false false false control, fun equal => ?_⟩
          rw [KeyChord.fromEvent_mk, KeyChord.new_letter (by simp [alpha]), KeyChord.new_letter alpha] at equal
          simp [left, shift] at equal
      | false =>
          obtain ⟨shift, large⟩ := (misread_glyph alpha).mp misread
          obtain ⟨large, isLarge⟩ := Option.isSome_iff_exists.mp large
          rw [press_glyph alpha, if_pos shift, isLarge, Option.getD_some]
          refine ⟨_, @Reports.glyph terminal _ _ false false false true, fun equal => ?_⟩
          rw [KeyChord.fromEvent_mk, KeyChord.new_glyph alpha] at equal
          cases letter : large.isAlpha with
          | true =>
              rw [KeyChord.new_letter letter] at equal
              have codes := KeyCode.char.inj (congrArg KeyChord.code equal)
              rw [← codes, Char.isAlpha_toLower_eq_isAlpha, letter] at alpha
              nomatch alpha
          | false =>
              rw [KeyChord.new_glyph letter] at equal
              exact terminal.capital_ne c large isLarge (KeyCode.char.inj (congrArg KeyChord.code equal))
  | tab => exact ⟨_, @Reports.backTab terminal _ false false false misread, by simp [KeyChord.new]⟩
  | backTab =>
      refine ⟨_, @Reports.backTab terminal _ false false false rfl, fun equal => ?_⟩
      have held := congrArg (fun chord : KeyChord => chord.mods.shift) equal
      change true = mods.shift at held
      rw [misread] at held
      nomatch held
  | _ => exact misread.elim

/-- A spelling that is read denotes the press of its chord. -/
theorem press_eq_pressed {code : KeyCode} (well : ¬terminal.Misread mods code) :
    terminal.press mods code = (KeyChord.new code mods).pressed := by
  cases code with
  | char c =>
      cases alpha : c.isAlpha with
      | true =>
          rw [press_letter alpha, KeyChord.new_letter alpha]
          exact (if_pos (by rw [Char.isAlpha_toLower_eq_isAlpha, alpha])).symm
      | false =>
          rw [press_glyph alpha, typed_eq alpha well, KeyChord.new_glyph alpha]
          exact (if_neg (Bool.not_eq_true _ ▸ alpha)).symm
  | backTab =>
      have held : mods.shift = true := Bool.not_eq_false _ ▸ well
      cases mods
      subst held
      rfl
  | _ => rfl

variable (terminal) in
/-- Two keys denote a common press. -/
def Alike (spec other : String) : Prop := ∃ press, terminal.Denotes spec press ∧ terminal.Denotes other press

variable (terminal) in
/-- Every report of every press that the key denotes is read as this chord. -/
def Read (spec : String) (chord : KeyChord) : Prop :=
  ∀ press ev, terminal.Denotes spec press → terminal.Reports press ev → KeyChord.fromEvent ev = chord

theorem read_iff {spec : String} {chord : KeyChord} (parsed : parseChord spec = .ok chord) :
    terminal.Read spec chord ↔ ¬terminal.MisreadSpec spec := by
  obtain ⟨mods, code, spells, rfl⟩ := parseChord_eq_ok_iff.mp parsed
  constructor
  · rintro read ⟨mods', code', spells', misread⟩
    obtain ⟨rfl, rfl⟩ := spells.unique spells'
    obtain ⟨ev, report, other⟩ := exists_report_ne misread
    exact other (read _ ev ⟨mods, code, spells, rfl⟩ report)
  · rintro well press ev ⟨mods', code', spells', rfl⟩ report
    obtain ⟨rfl, rfl⟩ := spells.unique spells'
    exact fromEvent_of_reports (fun misread => well ⟨mods, code, spells, misread⟩) report

theorem exists_report (mods : KeyModifiers) (code : KeyCode) :
    ∃ ev, terminal.Reports (terminal.press mods code) ev := by
  cases code with
  | char c =>
      cases alpha : c.isAlpha with
      | true =>
          rw [press_letter alpha]
          cases control : mods.control with
          | true => exact ⟨_, @Reports.control terminal _ _ false false false rfl⟩
          | false => exact ⟨_, @Reports.letter terminal _ _ false false false rfl⟩
      | false =>
          rw [press_glyph alpha]
          exact ⟨_, @Reports.glyph terminal _ _ false false false false⟩
  | tab =>
      cases shift : mods.shift with
      | true => exact ⟨_, @Reports.backTab terminal _ false false false shift⟩
      | false => exact ⟨_, @Reports.tab terminal _ false false false shift⟩
  | backTab => exact ⟨_, @Reports.backTab terminal _ false false false rfl⟩
  | _ => exact ⟨_, @Reports.other terminal _ _ false false false⟩

/-- Keys that are read have one chord exactly when they denote a common press. -/
theorem alike_iff {spec other : String} {chord chord' : KeyChord} (parsed : parseChord spec = .ok chord)
    (parsed' : parseChord other = .ok chord') (well : ¬terminal.MisreadSpec spec) (well' : ¬terminal.MisreadSpec other) :
    terminal.Alike spec other ↔ chord = chord' := by
  constructor
  · rintro ⟨press, denotes, denotes'⟩
    obtain ⟨ev, report⟩ : ∃ ev, terminal.Reports press ev := by
      obtain ⟨mods, code, -, rfl⟩ := denotes
      exact exists_report mods code
    exact ((read_iff parsed).mpr well press ev denotes report).symm.trans
      ((read_iff parsed').mpr well' press ev denotes' report)
  · rintro rfl
    obtain ⟨mods, code, spells, equal⟩ := parseChord_eq_ok_iff.mp parsed
    obtain ⟨mods', code', spells', equal'⟩ := parseChord_eq_ok_iff.mp parsed'
    refine ⟨chord.pressed, ⟨mods, code, spells, ?_⟩, ⟨mods', code', spells', ?_⟩⟩
    · rw [press_eq_pressed fun misread => well ⟨mods, code, spells, misread⟩, equal]
    · rw [press_eq_pressed fun misread => well' ⟨mods', code', spells', misread⟩, equal']

end

end Terminal

/-! ## Tables -/

theorem lookup_bind (keymap : Keymap) (table : KeymapTable) (chord other : KeyChord) (action : Action) :
    (keymap.bind table chord action).lookup table other = if other = chord then some action else keymap.lookup table other := by
  simp only [lookup, bind, true_and]

theorem parseEntry_eq_ok {table : KeymapTable} {key : String} {value : Toml} {chord : KeyChord} {action : Action}
    (parsed : parseEntry table key value = .ok (chord, action)) :
    ∃ text, value = .string text ∧ parseChord key = .ok chord ∧ parseAction text = .ok action := by
  unfold parseEntry at parsed
  cases value with
  | string text =>
      simp only [Toml.asStr] at parsed
      cases spec : parseChord key with
      | error e =>
          rw [spec] at parsed
          nomatch parsed
      | ok chord =>
          cases named : parseAction text with
          | error e =>
              rw [spec, named] at parsed
              nomatch parsed
          | ok action =>
              rw [spec, named] at parsed
              obtain ⟨rfl, rfl⟩ := Prod.mk.inj (Except.ok.inj parsed)
              exact ⟨text, rfl, rfl, named⟩
  | _ => nomatch parsed

/-- One entry of the loop. -/
theorem applyEntries_cons {table : KeymapTable} {key : String} {value : Toml} {raw : List (String × Toml)}
    {keymap : Keymap} {warnings : List String} {result : Keymap × List String} (binds : key ≠ "clear")
    (applied : applyEntries table ((key, value) :: raw) keymap warnings = .ok result) :
    ∃ text chord action after, value = .string text ∧ parseChord key = .ok chord ∧ parseAction text = .ok action ∧
      applyEntries table raw (keymap.bind table chord action) after = .ok result := by
  rw [applyEntries, if_neg binds] at applied
  cases entry : parseEntry table key value with
  | error e =>
      rw [entry] at applied
      nomatch applied
  | ok parsed =>
      rw [entry] at applied
      obtain ⟨text, string, spec, named⟩ := parseEntry_eq_ok entry
      exact ⟨text, parsed.1, parsed.2, _, string, spec, named, applied⟩

theorem applyEntries_clear {table : KeymapTable} {value : Toml} {raw : List (String × Toml)} {keymap : Keymap}
    {warnings : List String} :
    applyEntries table (("clear", value) :: raw) keymap warnings = applyEntries table raw keymap warnings := by
  rw [applyEntries, if_pos rfl]

theorem applyEntries_append {table : KeymapTable} {front back : List (String × Toml)} {keymap : Keymap}
    {warnings : List String} {result : Keymap × List String}
    (applied : applyEntries table (front ++ back) keymap warnings = .ok result) :
    ∃ between after, applyEntries table back between after = .ok result := by
  induction front generalizing keymap warnings with
  | nil => exact ⟨keymap, warnings, applied⟩
  | cons entry front ih =>
      obtain ⟨key, value⟩ := entry
      by_cases flag : key = "clear"
      · subst flag
        rw [List.cons_append, applyEntries_clear] at applied
        exact ih applied
      · obtain ⟨_, _, _, _, _, _, _, rest⟩ := applyEntries_cons flag applied
        exact ih rest

/-- The keys of a table that is applied are parsed. -/
theorem applyEntries_parsed {table : KeymapTable} {raw : List (String × Toml)} {keymap : Keymap}
    {warnings : List String} {result : Keymap × List String} (applied : applyEntries table raw keymap warnings = .ok result)
    {entry : String × Toml} (member : entry ∈ raw) (binds : entry.1 ≠ "clear") :
    ∃ chord, parseChord entry.1 = .ok chord := by
  obtain ⟨front, back, rfl⟩ := List.append_of_mem member
  obtain ⟨between, after, rest⟩ := applyEntries_append applied
  obtain ⟨_, chord, _, _, _, spec, _⟩ := applyEntries_cons binds rest
  exact ⟨chord, spec⟩

/-- A chord that no entry has keeps its binding. -/
theorem applyEntries_lookup {table : KeymapTable} {raw : List (String × Toml)} {keymap keymap' : Keymap}
    {warnings warnings' : List String} {chord : KeyChord}
    (applied : applyEntries table raw keymap warnings = .ok (keymap', warnings'))
    (others : ∀ entry ∈ raw, entry.1 ≠ "clear" → parseChord entry.1 ≠ .ok chord) :
    keymap'.lookup table chord = keymap.lookup table chord := by
  induction raw generalizing keymap warnings with
  | nil =>
      obtain ⟨rfl, -⟩ := Prod.mk.inj (Except.ok.inj applied)
      rfl
  | cons entry raw ih =>
      obtain ⟨key, value⟩ := entry
      have later : ∀ entry ∈ raw, entry.1 ≠ "clear" → parseChord entry.1 ≠ .ok chord :=
        fun entry member => others entry (List.mem_cons_of_mem _ member)
      by_cases flag : key = "clear"
      · subst flag
        rw [applyEntries_clear] at applied
        exact ih applied later
      · obtain ⟨text, bound, action, after, -, spec, -, rest⟩ := applyEntries_cons flag applied
        have other : chord ≠ bound := by
          rintro rfl
          exact others (key, value) List.mem_cons_self flag spec
        rw [ih rest later, lookup_bind, if_neg other]

theorem applyTable_entries {keymap : Keymap} {table : KeymapTable} {raw : List (String × Toml)}
    {result : Keymap × List String} (applied : keymap.applyTable table raw = .ok result) :
    ∃ cleared, applyEntries table raw cleared [] = .ok result := by
  unfold applyTable at applied
  cases flag : keymap.applyClear table raw with
  | error e =>
      rw [flag] at applied
      nomatch applied
  | ok cleared =>
      rw [flag] at applied
      exact ⟨cleared, applied⟩

/-- The bindings of a table after it is applied: each key is read as its chord on
every press, keys of one press have one chord, and the press finds the action of
the last key that denotes it. -/
structure Live (terminal : Terminal) (table : KeymapTable) (raw : List (String × Toml)) (keymap : Keymap) : Prop where
  read : ∀ entry ∈ raw, entry.1 ≠ "clear" → ∀ chord, parseChord entry.1 = .ok chord → terminal.Read entry.1 chord
  common : ∀ entry ∈ raw, ∀ other ∈ raw, entry.1 ≠ "clear" → other.1 ≠ "clear" → terminal.Alike entry.1 other.1 →
    parseChord entry.1 = parseChord other.1
  found : ∀ front key value back, raw = front ++ (key, value) :: back → key ≠ "clear" →
    (∀ later ∈ back, later.1 ≠ "clear" → ¬terminal.Alike key later.1) →
    ∃ text action, value = .string text ∧ parseAction text = .ok action ∧
      ∀ press ev, terminal.Denotes key press → terminal.Reports press ev →
        keymap.lookup table (.fromEvent ev) = some action

theorem live_iff {terminal : Terminal} {keymap keymap' : Keymap} {table : KeymapTable} {raw : List (String × Toml)}
    {warnings : List String} (applied : keymap.applyTable table raw = .ok (keymap', warnings)) :
    Live terminal table raw keymap' ↔ ∀ entry ∈ raw, entry.1 ≠ "clear" → ¬terminal.MisreadSpec entry.1 := by
  obtain ⟨cleared, entries⟩ := applyTable_entries applied
  constructor
  · intro live entry member binds
    obtain ⟨chord, spec⟩ := applyEntries_parsed entries member binds
    exact (Terminal.read_iff spec).mp (live.read entry member binds chord spec)
  · intro well
    refine ⟨fun entry member binds chord spec => (Terminal.read_iff spec).mpr (well entry member binds), ?_, ?_⟩
    · intro entry member other member' binds binds' alike
      obtain ⟨chord, spec⟩ := applyEntries_parsed entries member binds
      obtain ⟨chord', spec'⟩ := applyEntries_parsed entries member' binds'
      rw [spec, spec', (Terminal.alike_iff spec spec' (well entry member binds) (well other member' binds')).mp alike]
    · rintro front key value back rfl binds last
      obtain ⟨between, before, rest⟩ := applyEntries_append entries
      obtain ⟨text, chord, action, after, string, spec, named, rest⟩ := applyEntries_cons binds rest
      have good := well (key, value) (List.mem_append_right _ List.mem_cons_self) binds
      have others : ∀ entry ∈ back, entry.1 ≠ "clear" → parseChord entry.1 ≠ .ok chord := by
        intro later member binds' spec'
        have good' := well later (List.mem_append_right _ (List.mem_cons_of_mem _ member)) binds'
        exact last later member binds' ((Terminal.alike_iff spec spec' good good').mpr rfl)
      refine ⟨text, action, string, named, fun press ev denotes report => ?_⟩
      rw [(Terminal.read_iff spec).mpr good press ev denotes report, applyEntries_lookup rest others, lookup_bind,
        if_pos rfl]

/-- What a terminal reports of a key press is the chord of the key that spells it,
unless the key is misread, and a chord is its own common form. Keys that are read
have one chord when they denote one press, and only then. A table that binds no
misread key is found on every press of its keys, where the last key of a press wins. -/
theorem bindings_live (terminal : Terminal) :
    (∀ spec chord, parseChord spec = .ok chord → (terminal.Read spec chord ↔ ¬terminal.MisreadSpec spec)) ∧
      (∀ code mods, KeyChord.new (KeyChord.new code mods).code (KeyChord.new code mods).mods = .new code mods) ∧
      (∀ spec other chord chord', parseChord spec = .ok chord → parseChord other = .ok chord' →
        ¬terminal.MisreadSpec spec → ¬terminal.MisreadSpec other → (terminal.Alike spec other ↔ chord = chord')) ∧
      ∀ (keymap keymap' : Keymap) table raw warnings, keymap.applyTable table raw = .ok (keymap', warnings) →
        (Live terminal table raw keymap' ↔ ∀ entry ∈ raw, entry.1 ≠ "clear" → ¬terminal.MisreadSpec entry.1) :=
  ⟨fun _ _ parsed => Terminal.read_iff parsed, KeyChord.new_new,
    fun _ _ _ _ parsed parsed' well well' => Terminal.alike_iff parsed parsed' well well',
    fun _ _ _ _ _ applied => live_iff applied⟩

/-- A terminal on which Shift changes the letters of the alphabet only. -/
def plainTerminal : Terminal where
  reportsShift := true
  capital _ := none
  capital_ne _ _ large := nomatch large

theorem spells_shiftTab : Spells (Text.trim "S-Tab".toList) { shift := true } .tab := by
  have names : Names "Tab".toList .tab := .named (by decide)
  exact .shift (.inl rfl) (.key names)

/-- `S-Tab` is accepted, its key press is reported as `BackTab` with Shift, and the
table that binds it has no action for that event. -/
theorem shiftTab_dead :
    parseChord "S-Tab" = .ok ⟨.tab, { shift := true }⟩ ∧
      plainTerminal.Denotes "S-Tab" ⟨.tab, { shift := true }⟩ ∧
      plainTerminal.Reports ⟨.tab, { shift := true }⟩ ⟨.backTab, { shift := true }⟩ ∧
      KeyChord.fromEvent ⟨.backTab, { shift := true }⟩ ≠ ⟨.tab, { shift := true }⟩ ∧
      ∃ keymap warnings, applyTable {} .normal [("S-Tab", .string "equalize")] = .ok (keymap, warnings) ∧
        keymap.lookup .normal (.fromEvent ⟨.backTab, { shift := true }⟩) = none := by
  refine ⟨by decide +kernel, ⟨_, _, spells_shiftTab, rfl⟩, .backTab rfl, by decide, _, _, rfl, ?_⟩
  decide +kernel

end Ezpn.Keymap
