import Ezpn.Keymap
import Ezpn.Lib.CharBytes
import Ezpn.Pane.Mouse

/-!
# Keys for the child

A key event is sent to the child as plain text or as an escape sequence, by the flags of
the Kitty keyboard protocol that the child has set. A child that has asked for keys to
be told apart learns the key, the modifiers and the kind of event.
-/

set_option autoImplicit false

namespace Ezpn.Keys

open Keymap (EventModifiers)

/-! ## Events -/

inductive MediaKey where
  | play
  | pause
  | playPause
  | reverse
  | stop
  | fastForward
  | rewind
  | trackNext
  | trackPrevious
  | record
  | lowerVolume
  | raiseVolume
  | muteVolume
  deriving DecidableEq, Repr

inductive ModifierKey where
  | leftShift
  | leftControl
  | leftAlt
  | leftSuper
  | leftHyper
  | leftMeta
  | rightShift
  | rightControl
  | rightAlt
  | rightSuper
  | rightHyper
  | rightMeta
  | isoLevel3Shift
  | isoLevel5Shift
  deriving DecidableEq, Repr

/-- Every `KeyCode`, with those that a terminal reports only when it is asked to. -/
inductive Code where
  | key (code : KeyCode)
  | capsLock
  | scrollLock
  | numLock
  | printScreen
  | pause
  | menu
  | keypadBegin
  | media (key : MediaKey)
  | modifier (key : ModifierKey)
  deriving DecidableEq, Repr

inductive Kind where
  | press
  | «repeat»
  | release
  deriving DecidableEq, Repr

structure Event where
  code : Code
  modifiers : EventModifiers := {}
  kind : Kind := .press
  keypad : Bool := false
  capsLock : Bool := false
  numLock : Bool := false
  deriving DecidableEq, Repr

/-! ## Tables -/

def legacyControl (c : Char) : Option UInt8 :=
  match c with
  | ' ' | '@' | '2' => some 0
  | '[' | '3' => some 0x1b
  | '\\' | '4' => some 0x1c
  | ']' | '5' => some 0x1d
  | '^' | '6' => some 0x1e
  | '_' | '/' | '7' => some 0x1f
  | '?' | '8' => some 0x7f
  | c => if c.isAlpha then some (UInt8.ofNat (c.toLower.toNat - 'a'.toNat + 1)) else none

def kittyKeypadKey (code : Code) : Option (Nat × Char) :=
  match code with
  | .key (.char '.') => some (57409, 'u')
  | .key (.char '/') => some (57410, 'u')
  | .key (.char '*') => some (57411, 'u')
  | .key (.char '-') => some (57412, 'u')
  | .key (.char '+') => some (57413, 'u')
  | .key .enter => some (57414, 'u')
  | .key (.char '=') => some (57415, 'u')
  | .key (.char ',') => some (57416, 'u')
  | .key .left => some (57417, 'u')
  | .key .right => some (57418, 'u')
  | .key .up => some (57419, 'u')
  | .key .down => some (57420, 'u')
  | .key .pageUp => some (57421, 'u')
  | .key .pageDown => some (57422, 'u')
  | .key .home => some (57423, 'u')
  | .key .end => some (57424, 'u')
  | .key .insert => some (57425, 'u')
  | .key .delete => some (57426, 'u')
  | .key (.char c) => if c.isDigit then some (57399 + (c.toNat - '0'.toNat), 'u') else none
  | _ => none

def MediaKey.number : MediaKey → Nat
  | .play => 57428
  | .pause => 57429
  | .playPause => 57430
  | .reverse => 57431
  | .stop => 57432
  | .fastForward => 57433
  | .rewind => 57434
  | .trackNext => 57435
  | .trackPrevious => 57436
  | .record => 57437
  | .lowerVolume => 57438
  | .raiseVolume => 57439
  | .muteVolume => 57440

def ModifierKey.number : ModifierKey → Nat
  | .leftShift => 57441
  | .leftControl => 57442
  | .leftAlt => 57443
  | .leftSuper => 57444
  | .leftHyper => 57445
  | .leftMeta => 57446
  | .rightShift => 57447
  | .rightControl => 57448
  | .rightAlt => 57449
  | .rightSuper => 57450
  | .rightHyper => 57451
  | .rightMeta => 57452
  | .isoLevel3Shift => 57453
  | .isoLevel5Shift => 57454

def kittyFunctionalKey (code : Code) : Option (Nat × Char) :=
  match code with
  | .key .esc => some (27, 'u')
  | .key .enter => some (13, 'u')
  | .key .tab | .key .backTab => some (9, 'u')
  | .key .backspace => some (127, 'u')
  | .key .insert => some (2, '~')
  | .key .delete => some (3, '~')
  | .key .left => some (1, 'D')
  | .key .right => some (1, 'C')
  | .key .up => some (1, 'A')
  | .key .down => some (1, 'B')
  | .key .pageUp => some (5, '~')
  | .key .pageDown => some (6, '~')
  | .key .home => some (1, 'H')
  | .key .end => some (1, 'F')
  | .key (.f 1) => some (1, 'P')
  | .key (.f 2) => some (1, 'Q')
  | .key (.f 3) => some (13, '~')
  | .key (.f 4) => some (1, 'S')
  | .key (.f n) =>
      if 5 ≤ n ∧ n ≤ 12 then some ([15, 17, 18, 19, 20, 21, 23, 24].getD (n - 5) 0, '~')
      else if 13 ≤ n ∧ n ≤ 35 then some (57376 + (n - 13), 'u')
      else none
  | .capsLock => some (57358, 'u')
  | .scrollLock => some (57359, 'u')
  | .numLock => some (57360, 'u')
  | .printScreen => some (57361, 'u')
  | .pause => some (57362, 'u')
  | .menu => some (57363, 'u')
  | .key .null => some (0, 'u')
  | .media key => some (key.number, 'u')
  | .modifier key => some (key.number, 'u')
  | .key (.char _) | .keypadBegin => none

/-! ## Encoding -/

def arrowWithMods (code : Char) (hasMods : Bool) (modsParam : Nat) : Bytes :=
  if hasMods then ascii s!"\x1b[1;{modsParam}{code}" else ascii s!"\x1b[{code}"

def tildeWithMods (n : Nat) (hasMods : Bool) (modsParam : Nat) : Bytes :=
  if hasMods then ascii s!"\x1b[{n};{modsParam}~" else ascii s!"\x1b[{n}~"

def encodeFKeyWithMods (n : Nat) (hasMods : Bool) (modsParam : Nat) : Bytes :=
  if hasMods then
    match n with
    | 1 => arrowWithMods 'P' true modsParam
    | 2 => arrowWithMods 'Q' true modsParam
    | 3 => arrowWithMods 'R' true modsParam
    | 4 => arrowWithMods 'S' true modsParam
    | 5 => ascii s!"\x1b[15;{modsParam}~"
    | 6 => ascii s!"\x1b[17;{modsParam}~"
    | 7 => ascii s!"\x1b[18;{modsParam}~"
    | 8 => ascii s!"\x1b[19;{modsParam}~"
    | 9 => ascii s!"\x1b[20;{modsParam}~"
    | 10 => ascii s!"\x1b[21;{modsParam}~"
    | 11 => ascii s!"\x1b[23;{modsParam}~"
    | 12 => ascii s!"\x1b[24;{modsParam}~"
    | _ => []
  else
    match n with
    | 1 => ascii "\x1bOP"
    | 2 => ascii "\x1bOQ"
    | 3 => ascii "\x1bOR"
    | 4 => ascii "\x1bOS"
    | 5 => ascii "\x1b[15~"
    | 6 => ascii "\x1b[17~"
    | 7 => ascii "\x1b[18~"
    | 8 => ascii "\x1b[19~"
    | 9 => ascii "\x1b[20~"
    | 10 => ascii "\x1b[21~"
    | 11 => ascii "\x1b[23~"
    | 12 => ascii "\x1b[24~"
    | _ => []

namespace Event

/-- A back tab is a tab with shift. -/
def normalized (event : Event) : Event :=
  if event.code = .key .backTab then
    { event with code := .key .tab, modifiers := { event.modifiers with shift := true } }
  else event

def modsParam (event : Event) : Nat :=
  1 + event.modifiers.shift.toNat + 2 * event.modifiers.alt.toNat + 4 * event.modifiers.control.toNat

/-- `all`, `disambiguate` and `events`. -/
def reportsAll (flags : UInt8) : Bool := flags &&& 0b01000 ≠ 0

def disambiguates (flags : UInt8) : Bool := reportsAll flags || flags &&& 0b00001 ≠ 0

def reportsEvents (flags : UInt8) : Bool := flags &&& 0b00010 ≠ 0

/-- `keypad` -/
def keypadKey (flags : UInt8) (event : Event) : Option (Nat × Char) :=
  if disambiguates flags && event.keypad then kittyKeypadKey event.code else none

/-- `functional` -/
def functionalKey (flags : UInt8) (event : Event) : Option (Nat × Char) :=
  (event.keypadKey flags).or (kittyFunctionalKey event.code)

/-- `special_legacy` -/
def isSpecialLegacy (flags : UInt8) (event : Event) : Bool :=
  (event.keypadKey flags).isNone && event.modifiers = {} &&
    (event.code = .key .enter || event.code = .key .tab || event.code = .key .backspace)

/-- `as_escape` -/
def asEscape (flags : UInt8) (event : Event) : Bool :=
  reportsAll flags || (!event.isSpecialLegacy flags &&
    ((event.functionalKey flags).isSome || disambiguates flags &&
      (event.modifiers.control || event.modifiers.alt ||
        (event.modifiers.superKey || event.modifiers.hyper || event.modifiers.metaKey) || event.code = .key .esc)))

/-- The number and the last byte of an escape sequence. -/
def number (flags : UInt8) (event : Event) : Option (Nat × Char) :=
  (event.keypadKey flags).or <|
    match event.code with
    | .key (.char c) => some (c.toLower.toNat, 'u')
    | _ => event.functionalKey flags

/-- `mods`, with all modifiers and the locks. -/
def mods (event : Event) : Nat :=
  event.modsParam + 8 * event.modifiers.superKey.toNat + 16 * event.modifiers.hyper.toNat + 32 * event.modifiers.metaKey.toNat +
    64 * event.capsLock.toNat + 128 * event.numLock.toNat

/-- `event` -/
def kindText (flags : UInt8) : Kind → String
  | .press => ""
  | .repeat => if reportsEvents flags then ":2" else ""
  | .release => ":3"

/-- What is sent without an escape sequence of the protocol. -/
def legacyBytes (event : Event) (applicationCursor : Bool) : Bytes :=
  let hasMods : Bool := event.modsParam ≠ 1
  let alted (bytes : Bytes) : Bytes := if event.modifiers.alt then 0x1b :: bytes else bytes
  let cursor (code : Char) : Bytes :=
    if applicationCursor && !hasMods then ascii s!"\x1bO{code}" else arrowWithMods code hasMods event.modsParam
  match event.code with
  | .key (.char c) =>
      alted (if event.modifiers.control then
        match legacyControl c with
        | some control => [control]
        | none => String.utf8EncodeChar c
      else String.utf8EncodeChar c)
  | .key .enter => alted (ascii "\r")
  | .key .backspace => alted [if event.modifiers.control then 0x08 else 0x7f]
  | .key .tab => alted (if event.modifiers.shift then ascii "\x1b[Z" else ascii "\t")
  | .key .esc => alted [0x1b]
  | .key .up => cursor 'A'
  | .key .down => cursor 'B'
  | .key .right => cursor 'C'
  | .key .left => cursor 'D'
  | .key .home => cursor 'H'
  | .key .end => cursor 'F'
  | .key .delete => tildeWithMods 3 hasMods event.modsParam
  | .key .pageUp => tildeWithMods 5 hasMods event.modsParam
  | .key .pageDown => tildeWithMods 6 hasMods event.modsParam
  | .key .insert => tildeWithMods 2 hasMods event.modsParam
  | .key (.f n) => encodeFKeyWithMods n hasMods event.modsParam
  | _ => []

def isModifier (event : Event) : Bool :=
  match event.code with
  | .modifier _ => true
  | _ => false

end Event

open Event

def encodeKeyForChild (event : Event) (flags : UInt8) (applicationCursor : Bool) : Bytes :=
  let event := event.normalized
  let bits := flags &&& KittyKbdStack.all
  if event.isModifier && !reportsAll bits then []
  else if event.kind = .release && !(reportsEvents bits && event.asEscape bits) then []
  else if bits ≠ 0 && event.asEscape bits then
    match event.number bits with
    | some (number, suffix) => ascii s!"\x1b[{number};{event.mods}{kindText bits event.kind}{suffix}"
    | none => []
  else if event.kind = .release then []
  else event.legacyBytes applicationCursor

/-! ## What is said of an event -/

/-- The key has a number in the protocol. -/
def Code.isReportable : Code → Bool
  | .key (.f n) => 1 ≤ n && n ≤ 35
  | .keypadBegin => false
  | _ => true

/-- The key is said in lower case, and apart from the same key elsewhere if it is on the keypad. -/
structure Report where
  code : Code
  keypad : Bool
  modifiers : EventModifiers
  capsLock : Bool
  numLock : Bool
  kind : Kind
  deriving DecidableEq, Repr

inductive Heard where
  | text (c : Char)
  /-- Enter, Tab or Backspace, as on any terminal -/
  | plain (code : Code)
  | report (report : Report)
  deriving DecidableEq, Repr

def Code.lowered : Code → Code
  | .key (.char c) => .key (.char c.toLower)
  | code => code

namespace Event

/-- A key that can be told from the others by what it types. -/
def typed? (event : Event) : Option Heard :=
  match event.code with
  | .key (.char c) => if event.modifiers = { shift := event.modifiers.shift } then some (.text c) else none
  | .key .enter | .key .tab | .key .backspace => if event.modifiers = {} then some (.plain event.code) else none
  | _ => none

def onKeypad (event : Event) : Bool := event.keypad && (kittyKeypadKey event.code).isSome

/-- What a child with some flags is to learn of an event. -/
def heard (flags : UInt8) (event : Event) : Option Heard :=
  let event := event.normalized
  match if reportsAll flags || event.onKeypad then none else event.typed? with
  | some heard => if event.kind = .release then none else some heard
  | none =>
      if (event.isModifier && !reportsAll flags) || !event.code.isReportable || (event.kind = .release && !reportsEvents flags) then none
      else some <| .report
        { code := event.code.lowered
          keypad := event.onKeypad
          modifiers := event.modifiers
          capsLock := event.capsLock
          numLock := event.numLock
          kind := if reportsEvents flags then event.kind else .press }

end Event

/-! ## Reading -/

def keypadKeys : List Code :=
  (['0', '1', '2', '3', '4', '5', '6', '7', '8', '9', '.', '/', '*', '-', '+', '=', ','].map fun c => .key (.char c)) ++
    ([.enter, .left, .right, .up, .down, .pageUp, .pageDown, .home, .end, .insert, .delete] : List KeyCode).map .key

def functionalKeys : List Code :=
  ([.esc, .enter, .tab, .backspace, .insert, .delete, .left, .right, .up, .down, .pageUp, .pageDown, .home, .end, .null] :
      List KeyCode).map .key ++
    (List.range' 1 35).map (fun n => .key (.f n)) ++
    [.capsLock, .scrollLock, .numLock, .printScreen, .pause, .menu] ++
    [.play, .pause, .playPause, .reverse, .stop, .fastForward, .rewind, .trackNext, .trackPrevious, .record, .lowerVolume,
      .raiseVolume, .muteVolume].map .media ++
    [.leftShift, .leftControl, .leftAlt, .leftSuper, .leftHyper, .leftMeta, .rightShift, .rightControl, .rightAlt, .rightSuper,
      .rightHyper, .rightMeta, .isoLevel3Shift, .isoLevel5Shift].map .modifier

/-- The key with some number, and whether it is one of the keypad. -/
def codeOf (number : Nat) (last : Char) : Option (Code × Bool) :=
  match keypadKeys.find? fun code => kittyKeypadKey code = some (number, last) with
  | some code => some (code, true)
  | none =>
      match functionalKeys.find? fun code => kittyFunctionalKey code = some (number, last) with
      | some code => some (code, false)
      | none => if last = 'u' then some (.key (.char (Char.ofNat number)), false) else none

def modifiersOf (mods : Nat) : EventModifiers :=
  let held := mods - 1
  { shift := held % 2 = 1
    alt := held / 2 % 2 = 1
    control := held / 4 % 2 = 1
    superKey := held / 8 % 2 = 1
    hyper := held / 16 % 2 = 1
    metaKey := held / 32 % 2 = 1 }

def kindOf : List Char → Option Kind
  | ['1'] => some .press
  | ['2'] => some .repeat
  | ['3'] => some .release
  | _ => none

/-- The rest of a sequence after its introducer. -/
def decodeReport (rest : List Char) : Option Report := do
  let last ← rest.getLast?
  let (number, fields) ← Text.splitOnce (· == ';') rest.dropLast
  let (mods, kind) := (Text.splitOnce (· == ':') fields).getD (fields, ['1'])
  let (code, keypad) ← codeOf (← MouseEncoding.number number) last
  let mods ← MouseEncoding.number mods
  return { code
           keypad
           modifiers := modifiersOf mods
           capsLock := (mods - 1) / 64 % 2 = 1
           numLock := (mods - 1) / 128 % 2 = 1
           kind := ← kindOf kind }

/-- Read what was sent for one key. -/
def decode (bytes : Bytes) : Option Heard :=
  if bytes = [0x0d] then some (.plain (.key .enter))
  else if bytes = [0x09] then some (.plain (.key .tab))
  else if bytes = [0x7f] then some (.plain (.key .backspace))
  else
    match Text.stripPrefix ['\x1b', '['] (bytes.map fun b => Char.ofNat b.toNat) with
    | some rest => (decodeReport rest).map .report
    | none =>
        match (Text.fromUtf8 bytes).map String.toList with
        | some [c] => some (.text c)
        | _ => none

/-! ## Numbers of keys -/

/-- Code points that the protocol uses for keys. -/
def Reserved (c : Char) : Prop := c.toNat < 32 ∨ c.toNat = 127 ∨ (57344 ≤ c.toNat ∧ c.toNat ≤ 63743)

theorem digit_mem {c : Char} (digit : c.isDigit = true) : Code.key (.char c) ∈ keypadKeys := by
  have all : ∀ n ∈ List.range' 48 10, Code.key (.char (Char.ofNat n)) ∈ keypadKeys := by decide
  have inside : 48 ≤ c.toNat ∧ c.toNat ≤ 57 := by
    rw [Char.isDigit, Bool.and_eq_true, decide_eq_true_eq, decide_eq_true_eq] at digit
    exact digit
  rw [← Char.ofNat_toNat c]
  exact all _ (List.mem_range'_1.mpr (by omega))

theorem kittyFunctionalKey_beyond {n : Nat} (beyond : 35 < n) : kittyFunctionalKey (.key (.f n)) = none := by
  obtain ⟨k, rfl⟩ : ∃ k, n = k + 36 := ⟨n - 36, by omega⟩
  change (if 5 ≤ k + 36 ∧ k + 36 ≤ 12 then some ([15, 17, 18, 19, 20, 21, 23, 24].getD (k + 36 - 5) 0, '~')
    else if 13 ≤ k + 36 ∧ k + 36 ≤ 35 then some (57376 + (k + 36 - 13), 'u') else none) = none
  rw [if_neg (by omega), if_neg (by omega)]

theorem keypadKeys_complete {code : Code} (numbered : (kittyKeypadKey code).isSome) : code ∈ keypadKeys := by
  unfold kittyKeypadKey at numbered
  split at numbered
  case h_19 c _ _ _ _ _ _ _ =>
    split_ifs at numbered with digit
    · exact digit_mem digit
    · exact absurd numbered Bool.false_ne_true
  case h_20 => exact absurd numbered Bool.false_ne_true
  all_goals decide

theorem functionalKeys_complete {code : Code} (numbered : (kittyFunctionalKey code).isSome) (other : code ≠ .key .backTab) :
    code ∈ functionalKeys := by
  cases code with
  | key code =>
      cases code with
      | char c => exact absurd numbered Bool.false_ne_true
      | backTab => exact absurd rfl other
      | f n =>
          have low : n ≠ 0 := by
            rintro rfl
            exact absurd numbered Bool.false_ne_true
          have high : ¬35 < n := fun beyond => by
            rw [kittyFunctionalKey_beyond beyond] at numbered
            exact absurd numbered Bool.false_ne_true
          have inside : n ∈ List.range' 1 35 := List.mem_range'_1.mpr (by omega)
          simp only [functionalKeys, List.mem_append]
          exact .inl (.inl (.inl (.inr (List.mem_map_of_mem inside))))
      | _ => decide
  | keypadBegin => exact absurd numbered Bool.false_ne_true
  | media key => cases key <;> decide
  | modifier key => cases key <;> decide
  | _ => decide

theorem codeOf_keypad : ∀ code ∈ keypadKeys, ∀ key ∈ kittyKeypadKey code,
    codeOf key.1 key.2 = some (code.lowered, true) ∧ key.2.toNat < 128 ∧ 57344 ≤ key.1 ∧ key.1 ≤ 63743 := by
  decide +kernel

theorem codeOf_functional : ∀ code ∈ functionalKeys, ∀ key ∈ kittyFunctionalKey code,
    codeOf key.1 key.2 = some (code, false) ∧ key.2.toNat < 128 ∧ key.1 ≤ 63743 ∧
      (key.2 = 'u' → key.1 < 32 ∨ key.1 = 127 ∨ 57344 ≤ key.1) := by
  decide +kernel

theorem codeOf_char {c : Char} (free : ¬Reserved c) : codeOf c.toNat 'u' = some (.key (.char c), false) := by
  have keypad : keypadKeys.find? (fun code => kittyKeypadKey code = some (c.toNat, 'u')) = none := by
    refine List.find?_eq_none.mpr fun code member number => ?_
    have inside := codeOf_keypad code member _ (of_decide_eq_true number)
    exact free (.inr (.inr inside.2.2))
  have functional : functionalKeys.find? (fun code => kittyFunctionalKey code = some (c.toNat, 'u')) = none := by
    refine List.find?_eq_none.mpr fun code member number => ?_
    obtain ⟨-, -, high, low⟩ := codeOf_functional code member _ (of_decide_eq_true number)
    exact free ((low rfl).imp_right (·.imp_right (⟨·, high⟩)))
  unfold codeOf
  rw [keypad, functional]
  simp

theorem Reserved.lowered {c : Char} (free : ¬Reserved c) : ¬Reserved c.toLower := by
  by_cases large : c.val ≥ 'A'.val ∧ c.val ≤ 'Z'.val
  · have low : 65 ≤ c.toNat := large.1
    have high : c.toNat ≤ 90 := large.2
    have lower : c.toLower.toNat = c.toNat + 32 := by
      unfold Char.toLower
      rw [dif_pos large]
      change (c.val + ('a'.val - 'A'.val)).toNat = _
      rw [UInt32.toNat_add]
      change (c.toNat + 32) % 4294967296 = _
      omega
    unfold Reserved
    omega
  · have same : c.toLower = c := dif_neg large
    rwa [same]

/-! ## Fields of a sequence -/

theorem bit_eq {n : Nat} {b : Bool} (bit : n = b.toNat) : decide (n = 1) = b := by
  subst bit
  cases b <;> rfl

theorem modifiersOf_sum (modifiers : EventModifiers) (capsLock numLock : Bool) {mods : Nat}
    (sum : mods = 1 + modifiers.shift.toNat + 2 * modifiers.alt.toNat + 4 * modifiers.control.toNat + 8 * modifiers.superKey.toNat +
      16 * modifiers.hyper.toNat + 32 * modifiers.metaKey.toNat + 64 * capsLock.toNat + 128 * numLock.toNat) :
    modifiersOf mods = modifiers ∧ decide ((mods - 1) / 64 % 2 = 1) = capsLock ∧ decide ((mods - 1) / 128 % 2 = 1) = numLock ∧
      mods ≤ 256 := by
  obtain ⟨⟨shift, control, alt⟩, superKey, hyper, metaKey⟩ := modifiers
  dsimp only at sum
  have bits := And.intro shift.toNat_le (And.intro alt.toNat_le (And.intro control.toNat_le (And.intro superKey.toNat_le
    (And.intro hyper.toNat_le (And.intro metaKey.toNat_le (And.intro capsLock.toNat_le numLock.toNat_le))))))
  have bit0 : decide ((mods - 1) % 2 = 1) = shift := bit_eq (by omega)
  have bit1 : decide ((mods - 1) / 2 % 2 = 1) = alt := bit_eq (by omega)
  have bit2 : decide ((mods - 1) / 4 % 2 = 1) = control := bit_eq (by omega)
  have bit3 : decide ((mods - 1) / 8 % 2 = 1) = superKey := bit_eq (by omega)
  have bit4 : decide ((mods - 1) / 16 % 2 = 1) = hyper := bit_eq (by omega)
  have bit5 : decide ((mods - 1) / 32 % 2 = 1) = metaKey := bit_eq (by omega)
  have bit6 : decide ((mods - 1) / 64 % 2 = 1) = capsLock := bit_eq (by omega)
  have bit7 : decide ((mods - 1) / 128 % 2 = 1) = numLock := bit_eq (by omega)
  refine ⟨?_, bit6, bit7, by omega⟩
  simp only [modifiersOf, bit0, bit1, bit2, bit3, bit4, bit5]

/-- Nothing of the modifiers and locks is lost in their sum. -/
theorem modifiersOf_mods (event : Event) :
    modifiersOf event.mods = event.modifiers ∧ decide ((event.mods - 1) / 64 % 2 = 1) = event.capsLock ∧
      decide ((event.mods - 1) / 128 % 2 = 1) = event.numLock ∧ event.mods ≤ 256 :=
  modifiersOf_sum event.modifiers event.capsLock event.numLock rfl

/-- How the kind of event stands behind the modifiers. -/
inductive Written : Kind → List Char → Prop where
  | press : Written .press []
  | again : Written .repeat [':', '2']
  | release : Written .release [':', '3']

theorem digit_ne {n : Nat} {mark : Char} (other : mark.isDigit = false) : ∀ c ∈ Nat.toDigits 10 n, (c == mark) = false := by
  intro c member
  rw [beq_eq_false_iff_ne]
  rintro rfl
  exact Bool.false_ne_true (other.symm.trans (MouseEncoding.digit_plain member))

theorem Written.split {kind : Kind} {suffix : List Char} (written : Written kind suffix) (mods : Nat) :
    ∃ digit, (Text.splitOnce (· == ':') (Nat.toDigits 10 mods ++ suffix)).getD (Nat.toDigits 10 mods ++ suffix, ['1']) =
        (Nat.toDigits 10 mods, digit) ∧ kindOf digit = some kind := by
  have plain := @digit_ne mods ':' rfl
  cases written with
  | press =>
      rw [List.append_nil, Text.splitOnce_none plain]
      exact ⟨_, rfl, rfl⟩
  | again =>
      rw [Text.splitOnce_some plain rfl rfl]
      exact ⟨_, rfl, rfl⟩
  | release =>
      rw [Text.splitOnce_some plain rfl rfl]
      exact ⟨_, rfl, rfl⟩

theorem decodeReport_text {number : Nat} {last : Char} {code : Code} {keypad : Bool} (small : number ≤ u32Max)
    (key : codeOf number last = some (code, keypad)) (event : Event) {kind : Kind} {suffix : List Char}
    (written : Written kind suffix) :
    decodeReport (Nat.toDigits 10 number ++ ';' :: (Nat.toDigits 10 event.mods ++ suffix) ++ [last]) =
      some { code, keypad, modifiers := event.modifiers, capsLock := event.capsLock, numLock := event.numLock, kind } := by
  obtain ⟨modifiers, capsLock, numLock, bound⟩ := modifiersOf_mods event
  obtain ⟨digit, split, read⟩ := written.split event.mods
  unfold decodeReport
  rw [List.getLast?_concat, List.dropLast_concat, Text.splitOnce_some (digit_ne rfl) rfl rfl]
  simp only [Option.bind_eq_bind, Option.bind_some, split, read, MouseEncoding.number_toDigits small, key,
    MouseEncoding.number_toDigits (Nat.le_trans bound (by decide : 256 ≤ u32Max)), modifiers, capsLock, numLock]
  rfl

theorem Written.plain {kind : Kind} {suffix : List Char} (written : Written kind suffix) : ∀ c ∈ suffix, c.toNat < 256 := by
  cases written <;> simp

theorem decode_escape {bytes : Bytes} {rest : List Char} (text : bytes.map (fun b => Char.ofNat b.toNat) = ['\x1b', '['] ++ rest) :
    decode bytes = (decodeReport rest).map .report := by
  have long (b : UInt8) : bytes ≠ [b] := by
    rintro rfl
    exact absurd (congrArg List.length text) (by simp)
  unfold decode
  rw [if_neg (long _), if_neg (long _), if_neg (long _), text, Text.stripPrefix_append]

/-- A sequence as it is sent. -/
theorem decode_sequence {number : Nat} {last : Char} {code : Code} {keypad : Bool} (small : number ≤ u32Max)
    (key : codeOf number last = some (code, keypad)) (single : last.toNat < 128) (event : Event) {kind : Kind} {suffix : String}
    (written : Written kind suffix.toList) :
    decode (ascii s!"\x1b[{number};{event.mods}{suffix}{last}") =
      some (.report { code, keypad, modifiers := event.modifiers, capsLock := event.capsLock, numLock := event.numLock, kind }) := by
  have text : (s!"\x1b[{number};{event.mods}{suffix}{last}").toList =
      ['\x1b', '['] ++ (Nat.toDigits 10 number ++ ';' :: (Nat.toDigits 10 event.mods ++ suffix.toList) ++ [last]) := by
    simp [toString, Nat.toList_repr]
  have digits (n : Nat) (c : Char) (member : c ∈ Nat.toDigits 10 n) : c.toNat < 256 :=
    (@MouseEncoding.written_plain n n n) c (List.mem_append_left _ member)
  have plain : ∀ c ∈ (s!"\x1b[{number};{event.mods}{suffix}{last}").toList, c.toNat < 256 := by
    intro c member
    rw [text] at member
    simp only [List.cons_append, List.nil_append, List.mem_cons, List.mem_append, List.not_mem_nil, or_false] at member
    rcases member with rfl | rfl | (inside | rfl | inside | inside) | rfl
    · decide
    · decide
    · exact digits _ c inside
    · decide
    · exact digits _ c inside
    · exact written.plain c inside
    · omega
  rw [decode_escape ((MouseEncoding.map_ascii plain).trans text), decodeReport_text small key event written]
  rfl

/-! ## Text -/

theorem fromUtf8_char (c : Char) : (Text.fromUtf8 (String.utf8EncodeChar c)).map String.toList = some [c] := by
  have whole : (⟨(String.utf8EncodeChar c).toArray⟩ : ByteArray) = (String.ofList [c]).toByteArray := by
    rw [String.toByteArray_ofList, List.utf8Encode_singleton]
    exact ByteArray.ext List.data_toByteArray.symm
  unfold Text.fromUtf8 String.fromUTF8?
  rw [whole, dif_pos (String.ofList [c]).isValidUTF8]
  exact congrArg some String.toList_ofList

theorem decode_text {c : Char} (free : ¬Reserved c) : decode (String.utf8EncodeChar c) = some (.text c) := by
  have other {b : UInt8} (low : b.toNat < 128) (other : c.toNat ≠ b.toNat) (rest : Bytes) : String.utf8EncodeChar c ≠ b :: rest := by
    intro bytes
    by_cases ascii : c.toNat < 128
    · rw [CharBytes.encode_ascii ascii] at bytes
      have same : UInt8.ofNat c.toNat = b := (List.cons.inj bytes).1
      rw [← same, UInt8.toNat_ofNat', Nat.mod_eq_of_lt (by omega)] at other
      exact other rfl
    · have high := CharBytes.encode_other (Nat.le_of_not_lt ascii) b (by rw [bytes]; exact List.mem_cons_self)
      omega
  have named {n : Nat} (named : n < 32 ∨ n = 127) : c.toNat ≠ n := fun same => free (by unfold Reserved; omega)
  have unescaped : Text.stripPrefix ['\x1b', '['] ((String.utf8EncodeChar c).map fun b => Char.ofNat b.toNat) = none := by
    cases bytes : String.utf8EncodeChar c with
    | nil => exact absurd bytes String.utf8EncodeChar_ne_nil
    | cons b rest =>
        have escape : b ≠ 0x1b := by
          rintro rfl
          exact other (by decide) (named (by decide)) rest bytes
        have first : Char.ofNat b.toNat ≠ '\x1b' := by
          intro same
          have point : (Char.ofNat b.toNat).toNat = b.toNat := by
            have valid : b.toNat.isValidChar := .inl (Nat.lt_trans b.toNat_lt (by decide))
            rw [Char.ofNat, dif_pos valid]
            rfl
          rw [same] at point
          exact escape (UInt8.toNat.inj point.symm)
        unfold Text.stripPrefix
        rw [if_neg]
        simp [List.isPrefixOf, first.symm]
  unfold decode
  rw [if_neg (other (by decide) (named (by decide)) _), if_neg (other (by decide) (named (by decide)) _),
    if_neg (other (by decide) (named (by decide)) _), unescaped, fromUtf8_char]

/-! ## Every event -/

theorem flags_masked (flags : UInt8) :
    reportsAll (flags &&& KittyKbdStack.all) = reportsAll flags ∧
      disambiguates (flags &&& KittyKbdStack.all) = disambiguates flags ∧
      reportsEvents (flags &&& KittyKbdStack.all) = reportsEvents flags := by
  have mask (flag : UInt8) (inside : KittyKbdStack.all &&& flag = flag) : flags &&& KittyKbdStack.all &&& flag = flags &&& flag := by
    rw [UInt8.and_assoc, inside]
  unfold disambiguates reportsAll reportsEvents
  rw [mask _ (by decide), mask _ (by decide), mask _ (by decide)]
  exact ⟨rfl, rfl, rfl⟩

theorem flags_ne_zero {flags : UInt8} (apart : disambiguates flags = true) : flags ≠ 0 := by
  rintro rfl
  exact absurd apart (by decide)

theorem normalized_code (event : Event) : event.normalized.code ≠ .key .backTab := by
  unfold Event.normalized
  split_ifs with back
  · exact fun same => nomatch same
  · exact back

theorem normalized_char {event : Event} {c : Char} (code : event.normalized.code = .key (.char c)) : event.code = .key (.char c) := by
  unfold Event.normalized at code
  split_ifs at code
  · nomatch code
  · exact code

theorem normalized_kind (event : Event) : event.normalized.kind = event.kind := by
  unfold Event.normalized
  split_ifs <;> rfl

section Normalized
variable {flags : UInt8} {event : Event}

theorem keypadKey_on (apart : disambiguates flags = true) (on : event.onKeypad = true) :
    event.keypadKey flags = kittyKeypadKey event.code := by
  obtain ⟨keypad, -⟩ := (Bool.and_eq_true _ _).mp on
  unfold Event.keypadKey
  rw [apart, keypad]
  rfl

theorem keypadKey_off (off : event.onKeypad = false) : event.keypadKey flags = none := by
  unfold Event.keypadKey
  split_ifs with both
  · obtain ⟨-, keypad⟩ := (Bool.and_eq_true _ _).mp both
    rw [Event.onKeypad, keypad, Bool.true_and] at off
    exact Option.not_isSome_iff_eq_none.mp (Bool.eq_false_iff.mp off)
  · rfl

theorem functionalKey_off (off : event.onKeypad = false) : event.functionalKey flags = kittyFunctionalKey event.code := by
  unfold Event.functionalKey
  rw [keypadKey_off off]
  rfl

/-- Every reportable key but the characters has a number of its own. -/
theorem functional_isSome {code : Code} (reportable : code.isReportable = true) (key : ∀ c, code ≠ .key (.char c)) :
    (kittyFunctionalKey code).isSome = true := by
  cases code with
  | key code =>
      cases code with
      | char c => exact absurd rfl (key c)
      | f n =>
          have inside : n ∈ List.range' 1 35 := by
            simp only [Code.isReportable, Bool.and_eq_true, decide_eq_true_eq] at reportable
            exact List.mem_range'_1.mpr (by omega)
          have all : ∀ n ∈ List.range' 1 35, (kittyFunctionalKey (.key (.f n))).isSome = true := by decide
          exact all n inside
      | _ => rfl
  | keypadBegin => exact absurd reportable Bool.false_ne_true
  | _ => rfl

theorem number_off (off : event.onKeypad = false) (key : ∀ c, event.code ≠ .key (.char c)) :
    event.number flags = kittyFunctionalKey event.code := by
  unfold Event.number
  rw [keypadKey_off off, functionalKey_off off]
  cases code : event.code with
  | key plain =>
      cases plain with
      | char c => exact absurd code (key c)
      | _ => rfl
  | _ => rfl

/-- The number that is sent names the key. -/
theorem number_read (apart : disambiguates flags = true) (tab : event.code ≠ .key .backTab)
    (free : ∀ c, event.code = .key (.char c) → ¬Reserved c) (reportable : event.code.isReportable = true) :
    ∃ number last, event.number flags = some (number, last) ∧ codeOf number last = some (event.code.lowered, event.onKeypad) ∧
      last.toNat < 128 ∧ number ≤ u32Max := by
  cases on : event.onKeypad with
  | true =>
      have numbered : (kittyKeypadKey event.code).isSome := ((Bool.and_eq_true _ _).mp on).2
      obtain ⟨⟨number, last⟩, key⟩ := Option.isSome_iff_exists.mp numbered
      obtain ⟨code, small, -, bound⟩ := codeOf_keypad _ (keypadKeys_complete numbered) _ key
      refine ⟨number, last, ?_, code, small, Nat.le_trans bound (by decide)⟩
      rw [Event.number, keypadKey_on apart on, key]
      rfl
  | false =>
      by_cases char : ∃ c, event.code = .key (.char c)
      · obtain ⟨c, code⟩ := char
        refine ⟨c.toLower.toNat, 'u', ?_, ?_, by decide, ?_⟩
        · rw [Event.number, keypadKey_off on, code]
          rfl
        · have off : event.onKeypad = false := on
          rw [code]
          exact codeOf_char (Reserved.lowered (free c code))
        · have valid : c.toLower.toNat < 1114112 := by
            rcases c.toLower.valid with low | ⟨-, high⟩
            · exact Nat.lt_trans low (by decide)
            · exact high
          exact Nat.le_trans (Nat.le_of_lt valid) (by decide)
      · have key (c : Char) : event.code ≠ .key (.char c) := fun code => char ⟨c, code⟩
        have numbered := functional_isSome reportable key
        obtain ⟨⟨number, last⟩, found⟩ := Option.isSome_iff_exists.mp numbered
        obtain ⟨code, small, bound, -⟩ := codeOf_functional _ (functionalKeys_complete numbered tab) _ found
        have lowered : event.code.lowered = event.code := by
          cases shape : event.code with
          | key plain =>
              cases plain with
              | char c => exact absurd shape (key c)
              | _ => rfl
          | _ => rfl
        exact ⟨number, last, (number_off on key).trans found, by rw [lowered]; exact code, small, Nat.le_trans bound (by decide)⟩

/-- Some modifier besides shift. -/
def held (modifiers : EventModifiers) : Bool :=
  modifiers.control || modifiers.alt || (modifiers.superKey || modifiers.hyper || modifiers.metaKey)

theorem held_eq_false_iff (modifiers : EventModifiers) : held modifiers = false ↔ modifiers = { shift := modifiers.shift } := by
  obtain ⟨⟨shift, control, alt⟩, superKey, hyper, metaKey⟩ := modifiers
  simp [held, Bool.or_eq_false_iff, and_assoc]

theorem asEscape_char (apart : disambiguates flags = true) (off : event.onKeypad = false) {c : Char}
    (code : event.code = .key (.char c)) : event.asEscape flags = (reportsAll flags || held event.modifiers) := by
  have special : event.isSpecialLegacy flags = false := by simp [Event.isSpecialLegacy, code]
  have functional : event.functionalKey flags = none := by
    rw [functionalKey_off off, code]
    rfl
  unfold Event.asEscape
  rw [special, functional, apart, code]
  simp [held]

theorem asEscape_key (reportable : event.code.isReportable = true) (key : ∀ c, event.code ≠ .key (.char c)) :
    event.asEscape flags = (reportsAll flags || !event.isSpecialLegacy flags) := by
  have functional : (event.functionalKey flags).isSome = true := by
    rw [Event.functionalKey, Option.isSome_or, functional_isSome reportable key, Bool.or_true]
  unfold Event.asEscape
  rw [functional, Bool.true_or, Bool.and_true]

theorem isSpecialLegacy_on (apart : disambiguates flags = true) (on : event.onKeypad = true) :
    event.isSpecialLegacy flags = false := by
  have numbered : (kittyKeypadKey event.code).isSome := ((Bool.and_eq_true _ _).mp on).2
  rw [Event.isSpecialLegacy, keypadKey_on apart on, ← Option.not_isSome, numbered]
  rfl

theorem asEscape_of_untyped (apart : disambiguates flags = true) (reportable : event.code.isReportable = true)
    (untyped : (if reportsAll flags || event.onKeypad then none else event.typed?) = none) : event.asEscape flags = true := by
  cases on : event.onKeypad with
  | true =>
      have numbered : (kittyKeypadKey event.code).isSome := ((Bool.and_eq_true _ _).mp on).2
      have functional : (event.functionalKey flags).isSome = true := by
        rw [Event.functionalKey, keypadKey_on apart on, Option.isSome_or, numbered, Bool.true_or]
      rw [Event.asEscape, functional, isSpecialLegacy_on apart on]
      simp
  | false =>
      rw [on, Bool.or_false] at untyped
      cases all : reportsAll flags with
      | true => rw [Event.asEscape, all, Bool.true_or]
      | false =>
          rw [all, if_neg Bool.false_ne_true] at untyped
          by_cases char : ∃ c, event.code = .key (.char c)
          · obtain ⟨c, code⟩ := char
            rw [asEscape_char apart on code, all, Bool.false_or]
            by_contra free
            have only := (held_eq_false_iff event.modifiers).mp (Bool.eq_false_iff.mpr free)
            rw [Event.typed?, code] at untyped
            dsimp only at untyped
            rw [if_pos only] at untyped
            nomatch untyped
          · rw [asEscape_key reportable fun c code => char ⟨c, code⟩, all, Bool.false_or, Bool.not_eq_true']
            by_contra special
            simp only [Bool.not_eq_false, Event.isSpecialLegacy, Bool.and_eq_true, Bool.or_eq_true, decide_eq_true_eq] at special
            obtain ⟨⟨-, bare⟩, (code | code) | code⟩ := special
            all_goals
              rw [Event.typed?, code] at untyped
              dsimp only at untyped
              rw [if_pos bare] at untyped
              nomatch untyped

/-- What the keys that are typed send. -/
def Heard.typed : Heard → Bytes
  | .text c => String.utf8EncodeChar c
  | .plain (.key .enter) => [0x0d]
  | .plain (.key .tab) => [0x09]
  | _ => [0x7f]

theorem asEscape_special (all : reportsAll flags = false) (off : event.onKeypad = false) (bare : event.modifiers = {})
    (code : event.code = .key .enter ∨ event.code = .key .tab ∨ event.code = .key .backspace) : event.asEscape flags = false := by
  have special : event.isSpecialLegacy flags = true := by
    rw [Event.isSpecialLegacy, keypadKey_off off, bare]
    rcases code with code | code | code <;> rw [code] <;> rfl
  have reportable : event.code.isReportable = true := by rcases code with code | code | code <;> rw [code] <;> rfl
  have key (c : Char) : event.code ≠ .key (.char c) := by rcases code with code | code | code <;> rw [code] <;> exact nofun
  rw [asEscape_key reportable key, all, special]
  rfl

theorem typed?_cases {heard : Heard} (typed : event.typed? = some heard) :
    (∃ c, event.code = .key (.char c) ∧ event.modifiers = { shift := event.modifiers.shift } ∧ heard = .text c) ∨
      ((event.code = .key .enter ∨ event.code = .key .tab ∨ event.code = .key .backspace) ∧ event.modifiers = {} ∧
        heard = .plain event.code) := by
  unfold Event.typed? at typed
  cases code : event.code with
  | key key =>
      rw [code] at typed
      cases key with
      | char c =>
          dsimp only at typed
          split_ifs at typed with only
          exact .inl ⟨c, rfl, only, (Option.some.inj typed).symm⟩
      | enter =>
          dsimp only at typed
          split_ifs at typed with bare
          exact .inr ⟨.inl rfl, bare, (Option.some.inj typed).symm⟩
      | tab =>
          dsimp only at typed
          split_ifs at typed with bare
          exact .inr ⟨.inr (.inl rfl), bare, (Option.some.inj typed).symm⟩
      | backspace =>
          dsimp only at typed
          split_ifs at typed with bare
          exact .inr ⟨.inr (.inr rfl), bare, (Option.some.inj typed).symm⟩
      | _ => nomatch typed
  | _ =>
      rw [code] at typed
      nomatch typed

theorem typed_bytes {heard : Heard} (apart : disambiguates flags = true) (all : reportsAll flags = false)
    (off : event.onKeypad = false) (typed : event.typed? = some heard) (applicationCursor : Bool) :
    event.asEscape flags = false ∧ event.isModifier = false ∧ event.legacyBytes applicationCursor = heard.typed := by
  rcases typed?_cases typed with ⟨c, code, only, rfl⟩ | ⟨code, bare, rfl⟩
  · have free := (held_eq_false_iff event.modifiers).mpr only
    have unheld : event.modifiers.control = false ∧ event.modifiers.alt = false := by
      rw [only]
      exact ⟨rfl, rfl⟩
    refine ⟨by rw [asEscape_char apart off code, all, free]; rfl, by rw [Event.isModifier, code], ?_⟩
    rw [Event.legacyBytes, code]
    dsimp only
    rw [unheld.1, unheld.2]
    rfl
  · refine ⟨asEscape_special all off bare code, ?_, ?_⟩
    · rw [Event.isModifier]
      rcases code with code | code | code <;> rw [code]
    · rw [Event.legacyBytes, bare]
      rcases code with code | code | code <;> rw [code] <;> rfl

theorem encodeFKeyWithMods_beyond {n : Nat} (beyond : n = 0 ∨ 35 < n) (hasMods : Bool) (modsParam : Nat) :
    encodeFKeyWithMods n hasMods modsParam = [] := by
  rcases beyond with rfl | beyond
  · cases hasMods <;> rfl
  · obtain ⟨k, rfl⟩ : ∃ k, n = k + 36 := ⟨n - 36, by omega⟩
    cases hasMods <;> rfl

/-- Keys without a number in the protocol send nothing at all. -/
theorem unreportable (hidden : event.code.isReportable = false) (applicationCursor : Bool) :
    event.number flags = none ∧ event.legacyBytes applicationCursor = [] ∧ event.typed? = none := by
  obtain ⟨code, modifiers, kind, keypad, capsLock, numLock⟩ := event
  change code.isReportable = false at hidden
  cases code with
  | key code =>
      cases code with
      | f n =>
          have off : Event.onKeypad ⟨.key (.f n), modifiers, kind, keypad, capsLock, numLock⟩ = false := Bool.and_false _
          have beyond : n = 0 ∨ 35 < n := by
            simp only [Code.isReportable, Bool.and_eq_false_iff, decide_eq_false_iff_not] at hidden
            omega
          refine ⟨(number_off off fun _ => nofun).trans ?_, encodeFKeyWithMods_beyond beyond _ _, rfl⟩
          rcases beyond with rfl | beyond
          · rfl
          · exact kittyFunctionalKey_beyond beyond
      | _ => nomatch hidden
  | keypadBegin =>
      have off : Event.onKeypad ⟨.keypadBegin, modifiers, kind, keypad, capsLock, numLock⟩ = false := Bool.and_false _
      exact ⟨number_off off (fun _ => nofun), rfl, rfl⟩
  | _ => nomatch hidden

end Normalized

theorem decode_typed {event : Event} {heard : Heard} (free : ∀ c, event.code = .key (.char c) → ¬Reserved c)
    (typed : event.typed? = some heard) : decode heard.typed = some heard := by
  rcases typed?_cases typed with ⟨c, code, -, rfl⟩ | ⟨code, -, rfl⟩
  · exact decode_text (free c code)
  · rcases code with code | code | code <;> rw [code] <;> rfl

/-- A child that has asked for keys to be told apart reads each of them as it was pressed, and nothing is sent
of the events that it is not to learn of. -/
theorem decode_encodeKeyForChild {flags : UInt8} (apart : disambiguates flags = true) (event : Event)
    (free : ∀ c, event.code = .key (.char c) → ¬Reserved c) (applicationCursor : Bool) :
    decode (encodeKeyForChild event flags applicationCursor) = event.heard flags ∧
      (encodeKeyForChild event flags applicationCursor = [] ↔ event.heard flags = none) := by
  have silent : decode [] = none := by decide +kernel
  obtain ⟨sameAll, sameApart, sameEvents⟩ := flags_masked flags
  rw [← sameApart] at apart
  have nonzero := flags_ne_zero apart
  have tab := normalized_code event
  have free (c : Char) (code : event.normalized.code = .key (.char c)) : ¬Reserved c := free c (normalized_char code)
  suffices sent : (event.heard flags = none ∧ encodeKeyForChild event flags applicationCursor = []) ∨
      ∃ heard, event.heard flags = some heard ∧ decode (encodeKeyForChild event flags applicationCursor) = some heard by
    rcases sent with ⟨unsaid, unsent⟩ | ⟨heard, said, read⟩
    · rw [unsaid, unsent]
      exact ⟨silent, fun _ => rfl, fun _ => rfl⟩
    · refine ⟨read.trans said.symm, fun unsent => ?_, fun unsaid => ?_⟩
      · rw [unsent, silent] at read
        nomatch read
      · rw [unsaid] at said
        nomatch said
  unfold encodeKeyForChild Event.heard
  dsimp only
  rw [← sameAll, ← sameEvents]
  generalize flags &&& KittyKbdStack.all = flags at apart nonzero
  generalize event.normalized = event at tab free
  cases typed : (if reportsAll flags || event.onKeypad then none else event.typed?) with
  | some heard =>
      split_ifs at typed with other
      obtain ⟨all, off⟩ := Bool.or_eq_false_iff.mp (Bool.eq_false_iff.mpr other)
      obtain ⟨plain, key, bytes⟩ := typed_bytes apart all off typed applicationCursor
      rw [plain, key, bytes]
      by_cases release : event.kind = .release
      · exact .inl (by simp [release])
      · exact .inr ⟨heard, by simp [release], by simpa [release] using decode_typed free typed⟩
  | none =>
      by_cases modifier : (event.isModifier && !reportsAll flags) = true
      · exact .inl (by simp [modifier])
      · cases reportable : event.code.isReportable with
        | false =>
            obtain ⟨number, bytes, -⟩ := @unreportable flags event reportable applicationCursor
            refine .inl ⟨by simp, ?_⟩
            rw [if_neg modifier, number, bytes]
            simp
        | true =>
            have escape := asEscape_of_untyped apart reportable typed
            by_cases unheard : (event.kind = .release && !reportsEvents flags) = true
            · exact .inl (by simp [unheard, escape])
            · obtain ⟨number, last, sent, code, single, small⟩ := number_read apart tab free reportable
              have written : Written (if reportsEvents flags then event.kind else .press) (kindText flags event.kind).toList := by
                unfold kindText
                cases events : reportsEvents flags <;> cases kind : event.kind
                case false.release => exact absurd unheard (by simp [kind, events])
                all_goals constructor
              refine .inr ⟨_, by rw [if_neg (by simp [modifier, unheard])], ?_⟩
              rw [if_neg modifier, if_neg (by rwa [escape, Bool.and_true]), escape, if_pos (by simp [nonzero]), sent]
              exact decode_sequence small code single event written

/-- The release of control and `C`, for a child that listens to everything. -/
theorem control_released :
    encodeKeyForChild { code := .key (.char 'C'), modifiers := { control := true }, kind := .release } 0b01011 true =
        ascii "\x1b[99;5:3u" ∧
      decode (encodeKeyForChild { code := .key (.char 'C'), modifiers := { control := true }, kind := .release } 0b01011 true) =
        some (.report ⟨.key (.char 'c'), false, { control := true }, false, false, .release⟩) :=
  ⟨by decide +kernel,
    (@decode_encodeKeyForChild 0b01011 (by decide) { code := .key (.char 'C'), modifiers := { control := true }, kind := .release }
      (fun c code => by
        cases code
        unfold Reserved
        decide) true).1⟩

end Ezpn.Keys
