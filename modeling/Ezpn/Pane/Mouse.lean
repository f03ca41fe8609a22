import Ezpn.CommandsProperties
import Ezpn.EnvInterp.Grammar
import Ezpn.Layout.Spec
import Ezpn.Settings
import Ezpn.Terminal.State

/-!
# Mouse reports

An event is reported to the child in the encoding it asked for, or not at all. A
child that reads a report by the rules of that encoding learns the button, the
modifiers and the cell.
-/

set_option autoImplicit false

namespace Ezpn

/-! ## Encoding -/

def encodeMouseReport (encoding : MouseEncoding) (button col row : Nat) (release : Bool) : Option Bytes :=
  let x := col + 1
  let y := row + 1
  let code := (if release then (button &&& 28) ||| 3 else button) + 32
  let last := if release then 'm' else 'M'
  if button > 255 then none
  else match encoding with
    | .sgr => some (ascii s!"\x1b[<{button};{x};{y}{last}")
    | .urxvt => some (ascii s!"\x1b[{code};{x};{y}M")
    | .utf8 =>
        if x ≤ 2015 ∧ y ≤ 2015 then
          if code.isValidChar ∧ (x + 32).isValidChar ∧ (y + 32).isValidChar then
            some (ascii "\x1b[M" ++ [code, x + 32, y + 32].flatMap fun value => String.utf8EncodeChar (Char.ofNat value))
          else none
        else none
    | .x10 =>
        if x ≤ 223 ∧ y ≤ 223 ∧ code ≤ 255 then
          some [0x1b, 0x5b, 0x4d, UInt8.ofNat code, UInt8.ofNat (x + 32), UInt8.ofNat (y + 32)]
        else none

def MouseButton.code : MouseButton → Nat
  | .left => 0
  | .middle => 1
  | .right => 2

def KeyModifiers.mouseBits (modifiers : KeyModifiers) : Nat :=
  (if modifiers.shift then 4 else 0) ||| (if modifiers.alt then 8 else 0) ||| (if modifiers.control then 16 else 0)

def encodeMouseEvent (mode : MouseMode) (event : MouseEvent) : Option Bytes :=
  let coded : Option (Nat × Bool) :=
    match mode.protocol, event.kind with
    | .off, _ => none
    | _, .down button => some (button.code, false)
    | .press, _ => none
    | _, .up button => some (button.code, true)
    | .btn, .drag button | .any, .drag button => some (32 + button.code, false)
    | .any, .moved => some (35, false)
    | _, .scrollUp => some (64, false)
    | _, .scrollDown => some (65, false)
    | _, .scrollLeft => some (66, false)
    | _, .scrollRight => some (67, false)
    | _, _ => none
  match coded with
  | none => none
  | some (button, release) =>
      let button := if mode.protocol ≠ .press then button ||| event.modifiers.mouseBits else button
      encodeMouseReport mode.encoding button event.column event.row release

/-! ## What a report says -/

structure MouseReport where
  button : Nat
  x : Nat
  y : Nat
  release : Bool
  deriving DecidableEq, Repr

/-- The protocol reports such events. -/
def MouseProtocol.Reports : MouseProtocol → MouseEventKind → Bool
  | .off, _ => false
  | .press, .down _ => true
  | .press, _ => false
  | .x10, .drag _ | .x10, .moved | .btn, .moved => false
  | .x10, _ | .btn, _ | .any, _ => true

/-- Largest coordinate of an encoding, counted from one. -/
def MouseEncoding.limit : MouseEncoding → Option Nat
  | .x10 => some 223
  | .utf8 => some 2015
  | .urxvt | .sgr => none

def MouseEncoding.Represents (encoding : MouseEncoding) (x y : Nat) : Prop :=
  ∀ limit ∈ encoding.limit, x ≤ limit ∧ y ≤ limit

/-- Number of the button; motion counts 32, the wheel 64. -/
def MouseEventKind.button : MouseEventKind → Nat
  | .down button | .up button => button.code
  | .drag button => 32 + button.code
  | .moved => 32 + 3
  | .scrollUp => 64
  | .scrollDown => 65
  | .scrollLeft => 66
  | .scrollRight => 67

def MouseEventKind.isUp : MouseEventKind → Bool
  | .up _ => true
  | _ => false

/-- Shift counts 4, alt 8 and control 16; plain presses carry none. -/
def MouseProtocol.modifiers (protocol : MouseProtocol) (modifiers : KeyModifiers) : Nat :=
  if protocol = .press then 0
  else modifiers.shift.toNat * 4 + modifiers.alt.toNat * 8 + modifiers.control.toNat * 16

/-- What a child should learn of an event. Only SGR says which button was released. -/
def MouseEvent.report (mode : MouseMode) (event : MouseEvent) : MouseReport :=
  { button :=
      (if event.kind.isUp ∧ mode.encoding ≠ .sgr then 3 else event.kind.button) + mode.protocol.modifiers event.modifiers
    x := event.column + 1
    y := event.row + 1
    release := event.kind.isUp && mode.encoding = .sgr }

/-! ## Decoding -/

namespace MouseEncoding

/-- A number, without the final byte after it. -/
def number (cs : List Char) : Option Nat := Text.parseUnsigned u32Max cs

/-- Three decimal fields. -/
def fields (cs : List Char) : Option (Nat × Nat × Nat) := do
  let (button, rest) ← Text.splitOnce (· == ';') cs
  let (x, y) ← Text.splitOnce (· == ';') rest
  return (← number button, ← number x, ← number y)

/-- Three fields between an introducer and a final character. -/
def decimals (introducer final : List Char) (bytes : Bytes) : Option (Nat × Nat × Nat) := do
  let rest ← Text.stripPrefix introducer (bytes.map fun b => Char.ofNat b.toNat)
  if rest.drop (rest.length - final.length) = final then fields (rest.take (rest.length - final.length)) else none

/-- A value in one or two bytes of UTF-8. -/
def utf8Value : Bytes → Option (Nat × Bytes)
  | [] => none
  | b :: rest =>
      if b.toNat < 0x80 then some (b.toNat, rest)
      else match rest with
        | c :: rest =>
            if 0xC2 ≤ b.toNat ∧ b.toNat < 0xE0 ∧ 0x80 ≤ c.toNat ∧ c.toNat < 0xC0 then
              some ((b.toNat - 0xC0) * 64 + (c.toNat - 0x80), rest)
            else none
        | [] => none

/-- Read a report by the rules of the encoding. -/
def decode : MouseEncoding → Bytes → Option MouseReport
  | .sgr, bytes =>
      match decimals "\x1b[<".toList ['M'] bytes with
      | some (button, x, y) => some { button, x, y, release := false }
      | none => (decimals "\x1b[<".toList ['m'] bytes).map fun (button, x, y) => { button, x, y, release := true }
  | .urxvt, bytes =>
      (decimals "\x1b[".toList ['M'] bytes).map fun (code, x, y) => { button := code - 32, x, y, release := false }
  | .utf8, 0x1b :: 0x5b :: 0x4d :: rest => do
      let (code, rest) ← utf8Value rest
      let (x, rest) ← utf8Value rest
      let (y, rest) ← utf8Value rest
      if rest = [] then some { button := code - 32, x := x - 32, y := y - 32, release := false } else none
  | .x10, [0x1b, 0x5b, 0x4d, code, x, y] =>
      some { button := code.toNat - 32, x := x.toNat - 32, y := y.toNat - 32, release := false }
  | _, _ => none

/-! ## Decimal fields -/

theorem number_toDigits {n : Nat} (small : n ≤ u32Max) : number (Nat.toDigits 10 n) = some n :=
  Text.parseUnsigned_toDigits small

theorem digit_plain {n : Nat} {c : Char} (member : c ∈ Nat.toDigits 10 n) : c.isDigit = true :=
  Nat.isDigit_of_mem_toDigits (by omega) (by omega) member

theorem toDigits_no_semicolon (n : Nat) : ∀ c ∈ Nat.toDigits 10 n, (c == ';') = false := by
  intro c member
  have digit := digit_plain member
  rw [beq_eq_false_iff_ne]
  rintro rfl
  exact absurd digit (by decide)

theorem fields_toDigits {button x y : Nat} (small : button ≤ u32Max ∧ x ≤ u32Max ∧ y ≤ u32Max) :
    fields (Nat.toDigits 10 button ++ ';' :: (Nat.toDigits 10 x ++ ';' :: Nat.toDigits 10 y)) = some (button, x, y) := by
  unfold fields
  rw [Text.splitOnce_some (toDigits_no_semicolon button) rfl rfl]
  simp only [Option.bind_eq_bind, Option.bind_some]
  rw [Text.splitOnce_some (toDigits_no_semicolon x) rfl rfl]
  simp only [Option.bind_some, number_toDigits small.1, number_toDigits small.2.1, number_toDigits small.2.2]
  rfl

theorem map_ascii {s : String} (plain : ∀ c ∈ s.toList, c.toNat < 256) :
    (ascii s).map (fun b => Char.ofNat b.toNat) = s.toList := by
  rw [ascii, List.map_map]
  refine (List.map_congr_left fun c member => ?_).trans (List.map_id _)
  have small := plain c member
  simp only [Function.comp_apply, UInt8.toNat_ofNat', id]
  rw [Nat.mod_eq_of_lt small, Char.ofNat_toNat]

theorem decimals_eq {s : String} {introducer body : List Char} {written final : Char} (plain : ∀ c ∈ s.toList, c.toNat < 256)
    (text : s.toList = introducer ++ (body ++ [written])) :
    decimals introducer [final] (ascii s) = if written = final then fields body else none := by
  unfold decimals
  rw [map_ascii plain, text]
  have stripped : Text.stripPrefix introducer (introducer ++ (body ++ [written])) = some (body ++ [written]) := by
    simp [Text.stripPrefix]
  rw [stripped]
  simp only [Option.bind_eq_bind, Option.bind_some, List.length_append, List.length_singleton, Nat.add_sub_cancel,
    List.drop_left, List.take_left, List.cons.injEq, and_true]

/-- Three decimal numbers, as they are written. -/
def written (button x y : Nat) : List Char :=
  Nat.toDigits 10 button ++ ';' :: (Nat.toDigits 10 x ++ ';' :: Nat.toDigits 10 y)

theorem written_plain {button x y : Nat} : ∀ c ∈ written button x y, c.toNat < 256 := by
  have digits (n : Nat) (c : Char) (member : c ∈ Nat.toDigits 10 n) : c.toNat < 256 := by
    have digit := digit_plain member
    simp only [Char.isDigit, Bool.and_eq_true, decide_eq_true_eq] at digit
    have high : c.toNat ≤ 57 := digit.2
    omega
  intro c member
  simp only [written, List.mem_append, List.mem_cons] at member
  rcases member with button | rfl | x | rfl | y
  · exact digits _ c button
  · decide
  · exact digits _ c x
  · decide
  · exact digits _ c y

section Decimal
variable {button x y : Nat}

theorem decode_sgr (small : button ≤ u32Max ∧ x ≤ u32Max ∧ y ≤ u32Max) {release : Bool} {last : Char}
    (kind : last = if release then 'm' else 'M') :
    decode .sgr (ascii s!"\x1b[<{button};{x};{y}{last}") = some { button, x, y, release } := by
  have text : (s!"\x1b[<{button};{x};{y}{last}").toList =
      "\x1b[<".toList ++ (written button x y ++ [last]) := by
    simp [written, toString, Nat.toList_repr]
  have plain : ∀ c ∈ (s!"\x1b[<{button};{x};{y}{last}").toList, c.toNat < 256 := by
    intro c member
    rw [text, List.mem_append, List.mem_append, List.mem_singleton] at member
    rcases member with introducer | digits | rfl
    · revert c
      simp
    · exact written_plain c digits
    · rw [kind]
      cases release <;> decide
  simp only [decode, decimals_eq plain text]
  have read : fields (written button x y) = some (button, x, y) := fields_toDigits small
  cases release with
  | false => simp [read, kind]
  | true => simp [read, kind]

theorem decode_urxvt (small : button ≤ u32Max ∧ x ≤ u32Max ∧ y ≤ u32Max) :
    decode .urxvt (ascii s!"\x1b[{button};{x};{y}M") = some { button := button - 32, x, y, release := false } := by
  have text : (s!"\x1b[{button};{x};{y}M").toList = "\x1b[".toList ++ (written button x y ++ ['M']) := by
    simp [written, toString, Nat.toList_repr]
  have plain : ∀ c ∈ (s!"\x1b[{button};{x};{y}M").toList, c.toNat < 256 := by
    intro c member
    rw [text, List.mem_append, List.mem_append, List.mem_singleton] at member
    rcases member with introducer | digits | rfl
    · revert c
      simp
    · exact written_plain c digits
    · decide
  simp only [decode, decimals_eq plain text, if_true]
  have read : fields (written button x y) = some (button, x, y) := fields_toDigits small
  simp [read]

end Decimal

/-! ## Byte fields -/

/-- Values below 2048 take one or two bytes. -/
theorem utf8Value_encode {value : Nat} (small : value < 2048) (rest : Bytes) :
    utf8Value (String.utf8EncodeChar (Char.ofNat value) ++ rest) = some (value, rest) := by
  have valid : value.isValidChar := .inl (by omega)
  have point : (Char.ofNat value).val.toNat = value := by
    rw [Char.ofNat, dif_pos valid]
    rfl
  simp only [String.utf8EncodeChar, point]
  split
  · rename_i one
    have byte : (UInt8.ofNat value).toNat = value := Nat.mod_eq_of_lt (by omega)
    simp only [List.cons_append, List.nil_append, utf8Value, byte]
    rw [if_pos (by omega)]
  · rename_i more
    have first : (UInt8.ofNat (value / 64 % 0x20 + 0xc0)).toNat = value / 64 + 0xc0 := by
      rw [UInt8.toNat_ofNat']
      omega
    have second : (UInt8.ofNat (value % 0x40 + 0x80)).toNat = value % 64 + 0x80 := by
      rw [UInt8.toNat_ofNat']
      omega
    rw [if_pos (by omega)]
    simp only [List.cons_append, List.nil_append, utf8Value, first, second]
    rw [if_neg (by omega), if_pos (by omega)]
    have sum : (value / 64 + 0xc0 - 0xc0) * 64 + (value % 64 + 0x80 - 0x80) = value := by omega
    rw [sum]

theorem decode_utf8 {code x y : Nat} (small : code < 2048 ∧ x < 2048 ∧ y < 2048) :
    decode .utf8 (ascii "\x1b[M" ++ [code, x, y].flatMap fun value => String.utf8EncodeChar (Char.ofNat value)) =
      some { button := code - 32, x := x - 32, y := y - 32, release := false } := by
  have introducer : ascii "\x1b[M" = [0x1b, 0x5b, 0x4d] := rfl
  have last := utf8Value_encode small.2.2 []
  rw [List.append_nil] at last
  simp only [introducer, List.flatMap_cons, List.flatMap_nil, List.append_nil, List.cons_append, List.nil_append, decode]
  rw [utf8Value_encode small.1]
  simp only [Option.bind_eq_bind, Option.bind_some]
  rw [utf8Value_encode small.2.1]
  simp only [Option.bind_some, last, if_true]

theorem decode_x10 {code x y : Nat} (small : code < 256 ∧ x < 256 ∧ y < 256) :
    decode .x10 [0x1b, 0x5b, 0x4d, UInt8.ofNat code, UInt8.ofNat x, UInt8.ofNat y] =
      some { button := code - 32, x := x - 32, y := y - 32, release := false } := by
  simp only [decode, UInt8.toNat_ofNat', Nat.mod_eq_of_lt small.1, Nat.mod_eq_of_lt small.2.1, Nat.mod_eq_of_lt small.2.2]

end MouseEncoding

/-! ## Every event -/

/-- Buttons fit in seven bits. -/
theorem encodeMouseReport_decodes {encoding : MouseEncoding} {button col row : Nat} (release : Bool)
    (small : button < 128) (cell : col < 65536 ∧ row < 65536) :
    (encoding.Represents (col + 1) (row + 1) →
      ∃ bytes, encodeMouseReport encoding button col row release = some bytes ∧
        encoding.decode bytes = some
          { button := if release = true ∧ encoding ≠ .sgr then (button &&& 28) ||| 3 else button
            x := col + 1
            y := row + 1
            release := release && encoding = .sgr }) ∧
      (¬ encoding.Represents (col + 1) (row + 1) → encodeMouseReport encoding button col row release = none) := by
  have kept : (if release then (button &&& 28) ||| 3 else button) < 128 := by
    split
    · have masked : button &&& 28 ≤ 28 := Nat.and_le_right
      exact Nat.or_lt_two_pow (n := 7) (by omega) (by decide)
    · exact small
  have fits : ¬ button > 255 := by omega
  simp only [encodeMouseReport, if_neg fits]
  generalize shown : (if release then (button &&& 28) ||| 3 else button) = code at kept
  have limits : u32Max = 4294967295 := rfl
  cases encoding with
  | sgr =>
      refine ⟨fun _ => ⟨_, rfl, ?_⟩, fun hidden => absurd (fun _ none => nomatch none) hidden⟩
      rw [MouseEncoding.decode_sgr (by omega) rfl]
      simp
  | urxvt =>
      refine ⟨fun _ => ⟨_, rfl, ?_⟩, fun hidden => absurd (fun _ none => nomatch none) hidden⟩
      rw [MouseEncoding.decode_urxvt (by omega)]
      simp [← shown]
  | utf8 =>
      have range : MouseEncoding.Represents .utf8 (col + 1) (row + 1) ↔ col + 1 ≤ 2015 ∧ row + 1 ≤ 2015 := by
        simp [MouseEncoding.Represents, MouseEncoding.limit]
      rw [range]
      refine ⟨fun inside => ?_, fun outside => by simp only [if_neg outside]⟩
      have valid : (code + 32).isValidChar ∧ (col + 1 + 32).isValidChar ∧ (row + 1 + 32).isValidChar :=
        ⟨.inl (by omega), .inl (by omega), .inl (by omega)⟩
      simp only [if_pos inside, if_pos valid]
      refine ⟨_, rfl, ?_⟩
      rw [MouseEncoding.decode_utf8 (by omega)]
      simp [← shown]
  | x10 =>
      have range : MouseEncoding.Represents .x10 (col + 1) (row + 1) ↔ col + 1 ≤ 223 ∧ row + 1 ≤ 223 := by
        simp [MouseEncoding.Represents, MouseEncoding.limit]
      rw [range]
      constructor
      · intro inside
        have all : col + 1 ≤ 223 ∧ row + 1 ≤ 223 ∧ code + 32 ≤ 255 := ⟨inside.1, inside.2, by omega⟩
        simp only [if_pos all]
        refine ⟨_, rfl, ?_⟩
        rw [MouseEncoding.decode_x10 (by omega)]
        simp [← shown]
      · intro outside
        exact if_neg fun all => outside ⟨all.1, all.2.1⟩

/-- The bits of modifiers and buttons are apart. -/
theorem mouseBits_eq (modifiers : KeyModifiers) (button : MouseButton) (kind : MouseEventKind) :
    kind.button ||| modifiers.mouseBits =
        kind.button + (modifiers.shift.toNat * 4 + modifiers.alt.toNat * 8 + modifiers.control.toNat * 16) ∧
      kind.button ||| modifiers.mouseBits < 128 ∧
      ((button.code ||| modifiers.mouseBits) &&& 28) ||| 3 =
        3 + (modifiers.shift.toNat * 4 + modifiers.alt.toNat * 8 + modifiers.control.toNat * 16) := by
  obtain ⟨shift, control, alt⟩ := modifiers
  cases shift <;> cases control <;> cases alt <;> cases button <;> rcases kind with button | button | button | _ | _ | _ | _ | _ <;>
    first
      | (cases button <;> decide)
      | decide

/-- The button field and the release flag of an event that is reported. -/
theorem encodeMouseEvent_eq (mode : MouseMode) (event : MouseEvent) :
    encodeMouseEvent mode event =
      if mode.protocol.Reports event.kind then
        encodeMouseReport mode.encoding (event.kind.button + mode.protocol.modifiers event.modifiers) event.column event.row
          event.kind.isUp
      else none := by
  have bits (button : MouseButton) (kind : MouseEventKind) := (mouseBits_eq event.modifiers button kind).1
  obtain ⟨protocol, encoding⟩ := mode
  obtain ⟨kind, column, row, modifiers⟩ := event
  cases protocol with
  | off => rfl
  | press => cases kind <;> simp [encodeMouseEvent, MouseProtocol.Reports, MouseProtocol.modifiers, MouseEventKind.button,
      MouseEventKind.isUp]
  | x10 | btn | any =>
      have sums := bits .left kind
      cases kind <;>
        simp only [encodeMouseEvent, MouseProtocol.Reports, MouseProtocol.modifiers, MouseEventKind.button,
          MouseEventKind.isUp, reduceCtorEq, ne_eq, not_false_eq_true, if_true, if_false, Bool.false_eq_true] at sums ⊢ <;>
        rw [sums]

/-- A report says of the event what the encoding can say; there is none for an event that the
protocol leaves out, or for a cell beyond the encoding. -/
theorem mouse_reports (mode : MouseMode) (kind : MouseEventKind) (column row : UInt16) (modifiers : KeyModifiers) :
    let event : MouseEvent := { kind, column := column.toNat, row := row.toNat, modifiers }
    (∀ bytes, encodeMouseEvent mode event = some bytes → mode.encoding.decode bytes = some (event.report mode)) ∧
      (encodeMouseEvent mode event = none ↔
        mode.protocol.Reports kind = false ∨ ¬ mode.encoding.Represents (column.toNat + 1) (row.toNat + 1)) := by
  intro event
  have cell : column.toNat < 65536 ∧ row.toNat < 65536 := ⟨column.toNat_lt, row.toNat_lt⟩
  rw [encodeMouseEvent_eq]
  cases reported : mode.protocol.Reports kind with
  | false => simp
  | true =>
      have apart (button : MouseButton) := mouseBits_eq modifiers button kind
      have small : kind.button + mode.protocol.modifiers modifiers < 128 := by
        rw [MouseProtocol.modifiers]
        split
        · have plain := (mouseBits_eq {} .left kind).2.1
          simp only [KeyModifiers.mouseBits, Bool.false_eq_true, if_false, Nat.or_zero] at plain
          exact plain
        · rw [← (apart .left).1]
          exact (apart .left).2.1
      have released (button : MouseButton) (up : kind = .up button) :
          ((kind.button + mode.protocol.modifiers modifiers) &&& 28) ||| 3 = 3 + mode.protocol.modifiers modifiers := by
        have sum := (apart button).1
        have masked := (apart button).2.2
        have loud : mode.protocol ≠ .press := by
          intro press
          rw [press, up] at reported
          cases reported
        rw [MouseProtocol.modifiers, if_neg loud, ← sum, up]
        exact masked
      obtain ⟨shown, hidden⟩ := @encodeMouseReport_decodes mode.encoding _ _ _ kind.isUp small cell
      have expected : (⟨if kind.isUp = true ∧ mode.encoding ≠ .sgr then
            ((kind.button + mode.protocol.modifiers modifiers) &&& 28) ||| 3 else
              kind.button + mode.protocol.modifiers modifiers,
          column.toNat + 1, row.toNat + 1, kind.isUp && mode.encoding = .sgr⟩ : MouseReport) = event.report mode := by
        simp only [MouseEvent.report, event]
        split
        · rename_i legacy
          obtain ⟨button, up⟩ : ∃ button, kind = .up button := by
            cases kind <;> first | exact ⟨_, rfl⟩ | exact absurd legacy.1 Bool.false_ne_true
          rw [released button up]
        · rfl
      rw [if_pos rfl]
      by_cases inside : mode.encoding.Represents (column.toNat + 1) (row.toNat + 1)
      · obtain ⟨bytes, written, read⟩ := shown inside
        have same : encodeMouseReport mode.encoding (event.kind.button + mode.protocol.modifiers event.modifiers)
            event.column event.row event.kind.isUp = some bytes := written
        rw [same]
        refine ⟨fun other equal => ?_, by simp [inside]⟩
        rw [← Option.some.inj equal, read, expected]
      · have none : encodeMouseReport mode.encoding (event.kind.button + mode.protocol.modifiers event.modifiers)
            event.column event.row event.kind.isUp = none := hidden inside
        rw [none]
        exact ⟨nofun, by simp [inside]⟩

end Ezpn
