import Mathlib.Data.Nat.Notation

/-!
# Displays

A terminal that prints each character with its width: cells, a cursor, a pen, and
the control sequences that move the one and set the other. A character in the last
column leaves the cursor beyond it, and the next one wraps. On a display that tears,
a wide glyph that is overwritten in one half is blank in the other.
-/

set_option autoImplicit false

namespace Ezpn

inductive Color where
  | default
  | idx (i : UInt8)
  | rgb (r g b : UInt8)
  deriving DecidableEq, Repr

structure Pen where
  fg : Color := .default
  bg : Color := .default
  bold : Bool := false
  italic : Bool := false
  underline : Bool := false
  reverse : Bool := false
  dim : Bool := false
  deriving DecidableEq, Repr

/-- How many columns a character takes; a control character is not printed. -/
structure CharWidths where
  width : Char → Option Nat
  ascii : ∀ c : Char, c.toNat < 128 → width c = if 32 ≤ c.toNat ∧ c.toNat ≠ 127 then some 1 else none

/-- What a cell shows: a glyph with its marks, or the right half of a wide one. -/
inductive Shown where
  | glyph (text : List Char) (pen : Pen)
  | rest (pen : Pen)
  deriving DecidableEq, Repr

def Shown.blank (pen : Pen) : Shown := .glyph [' '] pen

def Shown.isRest : Shown → Bool
  | .rest _ => true
  | .glyph _ _ => false

def Shown.text : Shown → List Char
  | .glyph text _ => text
  | .rest _ => []

def Shown.mark (c : Char) : Shown → Shown
  | .glyph text pen => .glyph (text ++ [c]) pen
  | .rest pen => .rest pen

inductive FeedMode where
  | ground
  | escape
  | csi (params : List Nat) (param : Nat)
  deriving DecidableEq, Repr

structure Display where
  width : Nat
  height : Nat
  tears : Bool
  cells : (row col : Nat) → Shown
  row : Nat
  col : Nat
  pen : Pen := {}
  mode : FeedMode := .ground

namespace Display

/-! ## Printing -/

def newLine (display : Display) : Display :=
  if display.row + 1 < display.height then { display with row := display.row + 1, col := 0 }
  else
    { display with
      col := 0
      cells := fun row col => if row + 1 < display.height then display.cells (row + 1) col else .blank {} }

/-- What is left of a cell next to columns `first` to `last`, once these are overwritten. -/
def torn (display : Display) (row first last col : Nat) : Shown :=
  if display.tears ∧ ((col + 1 = first ∧ (display.cells row first).isRest) ∨
      (col = last ∧ col < display.width ∧ (display.cells row last).isRest)) then .blank {}
  else display.cells row col

/-- A glyph on some columns. -/
def write (text : List Char) (n : Nat) (display : Display) : Display :=
  { display with
    cells := fun row col =>
      if row ≠ display.row then display.cells row col
      else if col = display.col then .glyph text display.pen
      else if display.col < col ∧ col < display.col + n then .rest display.pen
      else display.torn row display.col (display.col + n) col
    col := display.col + n }

/-- A mark on the glyph to the left of the cursor. -/
def attach (c : Char) (display : Display) : Display :=
  if display.col = 0 then display
  else
    let col := display.col - 1
    let col := if (display.cells display.row col).isRest then col - 1 else col
    { display with
      cells := fun row other =>
        if row = display.row ∧ other = col then (display.cells row other).mark c else display.cells row other }

def print (widths : CharWidths) (c : Char) (display : Display) : Display :=
  match widths.width c with
  | none => display
  | some 0 => display.attach c
  | some n =>
      if display.width < n then display
      else if display.width < display.col + n then display.newLine.write [c] n
      else display.write [c] n

/-! ## Control sequences -/

/-- One attribute. Others than these are ignored. -/
def plainCode (code : Nat) (pen : Pen) : Pen :=
  match code with
  | 0 => {}
  | 1 => { pen with bold := true }
  | 2 => { pen with dim := true }
  | 3 => { pen with italic := true }
  | 4 => { pen with underline := true }
  | 7 => { pen with reverse := true }
  | 39 => { pen with fg := .default }
  | 49 => { pen with bg := .default }
  | _ => pen

def attributes : List Nat → Pen → Pen
  | [], pen => pen
  | 38 :: 5 :: i :: rest, pen => attributes rest { pen with fg := .idx (UInt8.ofNat i) }
  | 48 :: 5 :: i :: rest, pen => attributes rest { pen with bg := .idx (UInt8.ofNat i) }
  | 38 :: 2 :: r :: g :: b :: rest, pen =>
      attributes rest { pen with fg := .rgb (UInt8.ofNat r) (UInt8.ofNat g) (UInt8.ofNat b) }
  | 48 :: 2 :: r :: g :: b :: rest, pen =>
      attributes rest { pen with bg := .rgb (UInt8.ofNat r) (UInt8.ofNat g) (UInt8.ofNat b) }
  | code :: rest, pen => attributes rest (plainCode code pen)

/-- Rows and columns of a sequence count from 1. -/
def moveTo (row col : Nat) (display : Display) : Display :=
  { display with row := min (row - 1) (display.height - 1), col := min (col - 1) (display.width - 1) }

def dispatch (params : List Nat) (final : Char) (display : Display) : Display :=
  if final = 'H' then display.moveTo (params.headD 1) (params.tail.headD 1)
  else if final = 'm' then { display with pen := attributes params display.pen }
  else display

def step (widths : CharWidths) (display : Display) (c : Char) : Display :=
  match display.mode with
  | .ground => if c = '\x1b' then { display with mode := .escape } else display.print widths c
  | .escape => { display with mode := if c = '[' then .csi [] 0 else .ground }
  | .csi params param =>
      if c.isDigit then { display with mode := .csi params (10 * param + (c.toNat - '0'.toNat)) }
      else if c = ';' then { display with mode := .csi (params ++ [param]) 0 }
      else if 0x40 ≤ c.toNat then dispatch (params ++ [param]) c { display with mode := .ground }
      else display

def feed (widths : CharWidths) (display : Display) (text : List Char) : Display := text.foldl (step widths) display

/-! ## Sequences -/

variable (widths : CharWidths)

theorem feed_nil (display : Display) : display.feed widths [] = display := rfl

theorem feed_append (display : Display) (front back : List Char) :
    display.feed widths (front ++ back) = (display.feed widths front).feed widths back := List.foldl_append

/-- Decimal numbers, with semicolons between them. -/
def paramText : List Nat → List Char
  | [] => []
  | [n] => Nat.toDigits 10 n
  | n :: more => Nat.toDigits 10 n ++ ';' :: paramText more

/-- A control sequence. -/
def csiText (params : List Nat) (final : Char) : List Char := '\x1b' :: '[' :: (paramText params ++ [final])

theorem feed_digits {display : Display} {params : List Nat} {param : Nat} (mode : display.mode = .csi params param)
    {digits : List Char} (decimal : ∀ c ∈ digits, c.isDigit = true) :
    display.feed widths digits = { display with mode := .csi params (Nat.ofDigitChars 10 digits param) } := by
  induction digits generalizing display param with
  | nil =>
      rw [Nat.ofDigitChars_nil, ← mode]
      rfl
  | cons c digits ih =>
      obtain ⟨digit, later⟩ := List.forall_mem_cons.mp decimal
      have first : step widths display c = { display with mode := .csi params (10 * param + (c.toNat - '0'.toNat)) } := by
        rw [step, mode]
        dsimp only
        rw [if_pos digit]
      change (step widths display c).feed widths digits = _
      rw [first, @ih { display with mode := .csi params (10 * param + (c.toNat - '0'.toNat)) } _ rfl later,
        Nat.ofDigitChars_cons]

theorem feed_number {display : Display} {params : List Nat} (mode : display.mode = .csi params 0) (n : Nat) :
    display.feed widths (Nat.toDigits 10 n) = { display with mode := .csi params n } := by
  have decimal : ∀ c ∈ Nat.toDigits 10 n, c.isDigit = true := fun c member =>
    Nat.isDigit_of_mem_toDigits (by decide) (by decide) member
  rw [feed_digits widths mode decimal, Nat.ofDigitChars_ten_toDigits]

theorem feed_params {display : Display} {done : List Nat} (mode : display.mode = .csi done 0) (params : List Nat) (last : Nat) :
    display.feed widths (paramText (params ++ [last])) = { display with mode := .csi (done ++ params) last } := by
  induction params generalizing display done with
  | nil =>
      rw [List.append_nil]
      exact feed_number widths mode last
  | cons n params ih =>
      have text : paramText (n :: params ++ [last]) = Nat.toDigits 10 n ++ ';' :: paramText (params ++ [last]) := by
        cases params <;> rfl
      rw [text, feed_append, feed_number widths mode]
      have next : step widths { display with mode := .csi done n } ';' = { display with mode := .csi (done ++ [n]) 0 } := rfl
      change (step widths { display with mode := .csi done n } ';').feed widths _ = _
      rw [next, @ih { display with mode := .csi (done ++ [n]) 0 } _ rfl, List.append_assoc]
      rfl

theorem feed_csi {display : Display} (ground : display.mode = .ground) (params : List Nat) (last : Nat) {final : Char}
    (dispatched : final = 'H' ∨ final = 'm') :
    display.feed widths (csiText (params ++ [last]) final) = dispatch (params ++ [last]) final display := by
  have opened : step widths (step widths display '\x1b') '[' = { display with mode := .csi [] 0 } := by
    have first : step widths display '\x1b' = { display with mode := .escape } := by
      rw [step, ground]
      rfl
    rw [first]
    rfl
  change (step widths (step widths display '\x1b') '[').feed widths (paramText (params ++ [last]) ++ [final]) = _
  rw [opened, feed_append, @feed_params widths { display with mode := .csi [] 0 } [] rfl, List.nil_append]
  have same : ({ display with mode := .ground } : Display) = display := by rw [← ground]
  change step widths { display with mode := .csi params last } final = _
  rcases dispatched with rfl | rfl
  · exact congrArg (dispatch (params ++ [last]) 'H') same
  · exact congrArg (dispatch (params ++ [last]) 'm') same

/-! ## Glyphs -/

variable {widths}

theorem CharWidth.not_escape {c : Char} {n : Nat} (printed : widths.width c = some n) : c ≠ '\x1b' := by
  rintro rfl
  rw [widths.ascii '\x1b' (by decide)] at printed
  nomatch printed

/-- A printed character that fits. -/
theorem step_write {display : Display} (ground : display.mode = .ground) {c : Char} {n : Nat}
    (printed : widths.width c = some (n + 1)) (fits : display.col + (n + 1) ≤ display.width) :
    step widths display c = display.write [c] (n + 1) := by
  rw [step, ground]
  dsimp only
  rw [if_neg (CharWidth.not_escape printed), print, printed]
  change (if display.width < n + 1 then display else if display.width < display.col + (n + 1) then display.newLine.write [c] (n + 1)
    else display.write [c] (n + 1)) = _
  rw [if_neg (by omega), if_neg (by omega)]

theorem step_attach {display : Display} (ground : display.mode = .ground) {c : Char} (mark : widths.width c = some 0) :
    step widths display c = display.attach c := by
  rw [step, ground]
  dsimp only
  rw [if_neg (CharWidth.not_escape mark), print, mark]
  rfl

section Write
variable {text : List Char} {n : Nat} {display : Display}

theorem write_here : (display.write text (n + 1)).cells display.row display.col = .glyph text display.pen := by
  change (if display.row ≠ display.row then _ else if display.col = display.col then _ else _) = _
  rw [if_neg (not_not_intro rfl), if_pos rfl]

theorem write_rest {col : Nat} (after : display.col < col) (inside : col < display.col + n) :
    (display.write text n).cells display.row col = .rest display.pen := by
  change (if display.row ≠ display.row then _ else if col = display.col then _ else
    if display.col < col ∧ col < display.col + n then _ else _) = _
  rw [if_neg (not_not_intro rfl), if_neg (Nat.ne_of_gt after), if_pos ⟨after, inside⟩]

theorem write_otherRow {row col : Nat} (other : row ≠ display.row) :
    (display.write text n).cells row col = display.cells row col := if_pos other

theorem write_beside {col : Nat} (beside : col < display.col ∨ display.col + (n + 1) ≤ col) :
    (display.write text (n + 1)).cells display.row col = display.torn display.row display.col (display.col + (n + 1)) col := by
  change (if display.row ≠ display.row then _ else if col = display.col then _ else
    if display.col < col ∧ col < display.col + (n + 1) then _ else _) = _
  rw [if_neg (not_not_intro rfl), if_neg (by omega), if_neg (by omega)]

theorem torn_whole {row first last col : Nat} (start : display.tears = true → (display.cells row first).isRest = false)
    (stop : display.tears = true → col = last → col < display.width → (display.cells row last).isRest = false) :
    display.torn row first last col = display.cells row col := by
  refine if_neg ?_
  rintro ⟨tears, ⟨-, rest⟩ | ⟨same, inside, rest⟩⟩
  · exact Bool.false_ne_true ((start tears).symm.trans rest)
  · exact Bool.false_ne_true ((stop tears same inside).symm.trans rest)

/-- No half is left of a glyph whose other half was overwritten. -/
theorem torn_last {row first last : Nat} (tears : display.tears = true) (inside : last < display.width) :
    (display.torn row first last last).isRest = false := by
  unfold torn
  split
  · rfl
  · rename_i whole
    exact Bool.eq_false_iff.mpr fun rest => whole ⟨tears, .inr ⟨rfl, inside, rest⟩⟩

/-- A mark goes to the glyph that has just been written. -/
theorem attach_write {c : Char} (columns : n = 1 ∨ n = 2) :
    (display.write text n).attach c = display.write (text ++ [c]) n := by
  have place : (if ((display.write text n).cells display.row (display.col + n - 1)).isRest then display.col + n - 1 - 1
      else display.col + n - 1) = display.col := by
    rcases columns with rfl | rfl
    · rw [Nat.add_sub_cancel, write_here]
      exact if_neg Bool.false_ne_true
    · rw [write_rest (by omega) (by omega)]
      exact if_pos rfl
  have marked : (display.write text n).attach c =
      { display.write text n with
        cells := fun row other =>
          if row = display.row ∧ other = display.col then ((display.write text n).cells row other).mark c
          else (display.write text n).cells row other } := by
    have moved : (display.write text n).col ≠ 0 := by
      change display.col + n ≠ 0
      omega
    rw [attach, if_neg moved]
    change ({ display.write text n with cells := fun row other => if row = display.row ∧ other =
      (if ((display.write text n).cells display.row (display.col + n - 1)).isRest then display.col + n - 1 - 1
        else display.col + n - 1) then _ else _ } : Display) = _
    rw [place]
  rw [marked]
  refine congrArg (fun cells => { display with cells := cells, col := display.col + n }) ?_
  funext row col
  by_cases there : row = display.row ∧ col = display.col
  · obtain ⟨rfl, rfl⟩ := there
    obtain ⟨m, rfl⟩ : ∃ m, n = m + 1 := ⟨n - 1, by omega⟩
    rw [if_pos ⟨rfl, rfl⟩, write_here]
    exact write_here.symm
  · rw [if_neg there]
    by_cases same : row = display.row
    · change (if row ≠ display.row then _ else if col = display.col then _ else _) =
        (if row ≠ display.row then _ else if col = display.col then _ else _)
      rw [if_neg (not_not_intro same), if_neg fun here => there ⟨same, here⟩, if_neg (not_not_intro same),
        if_neg fun here => there ⟨same, here⟩]
    · exact (write_otherRow same).trans (write_otherRow same).symm

/-- A glyph with its marks, where it fits. -/
theorem feed_glyph (ground : display.mode = .ground) {base : Char} {marks : List Char} (columns : n = 1 ∨ n = 2)
    (printed : widths.width base = some n) (attached : ∀ m ∈ marks, widths.width m = some 0)
    (fits : display.col + n ≤ display.width) : display.feed widths (base :: marks) = display.write (base :: marks) n := by
  have more (text : List Char) : (display.write text n).feed widths marks = display.write (text ++ marks) n := by
    induction marks generalizing text with
    | nil =>
        rw [List.append_nil]
        rfl
    | cons m marks ih =>
        obtain ⟨mark, others⟩ := List.forall_mem_cons.mp attached
        have first : step widths (display.write text n) m = display.write (text ++ [m]) n := by
          rw [@step_attach widths (display.write text n) ground m mark]
          exact attach_write columns
        change (step widths (display.write text n) m).feed widths marks = _
        rw [first, ih others, List.append_assoc]
        rfl
  obtain ⟨k, rfl⟩ : ∃ k, n = k + 1 := ⟨n - 1, by omega⟩
  change (step widths display base).feed widths marks = _
  rw [step_write ground printed fits]
  exact more [base]

end Write

/-! ## Lines of text -/

section Lines
variable {start display : Display} {first : Nat} {line : List Char}

/-- The columns that a text takes. -/
def columns (widths : CharWidths) : List Char → Nat
  | [] => 0
  | c :: text => (widths.width c).getD 0 + columns widths text

/-- What is printed of a text. -/
def printed (widths : CharWidths) (text : List Char) : List Char := text.filter fun c => (widths.width c).isSome

/-- The text in some columns of a row. -/
def textIn (display : Display) (row first count : Nat) : List Char :=
  (List.range' first count).flatMap fun col => (display.cells row col).text

theorem textIn_add (display : Display) (row first count more : Nat) :
    display.textIn row first (count + more) = display.textIn row first count ++ display.textIn row (first + count) more := by
  unfold textIn
  rw [← List.range'_append_1, List.flatMap_append]

theorem textIn_congr {display other : Display} {row first count : Nat}
    (same : ∀ col, first ≤ col → col < first + count → display.cells row col = other.cells row col) :
    display.textIn row first count = other.textIn row first count := by
  refine congrArg List.flatten (List.map_congr_left fun col member => ?_)
  obtain ⟨low, high⟩ := List.mem_range'_1.mp member
  rw [same col low high]

theorem textIn_one (display : Display) (row col : Nat) : display.textIn row col 1 = (display.cells row col).text := by
  simp [textIn]

theorem textIn_rests {display : Display} {row first count : Nat}
    (rests : ∀ col, first ≤ col → col < first + count → (display.cells row col).isRest = true) : display.textIn row first count = [] := by
  refine List.flatMap_eq_nil_iff.mpr fun col member => ?_
  obtain ⟨low, high⟩ := List.mem_range'_1.mp member
  have rest := rests col low high
  cases shown : display.cells row col with
  | glyph text pen => rw [shown] at rest; exact absurd rest Bool.false_ne_true
  | rest pen => rfl

/-- A line of text is being printed from column `first` on: only the columns printed so far have changed, these
show the line, and no wide glyph lies across the place that the text has reached. -/
structure Printed (start : Display) (first : Nat) (line : List Char) (display : Display) : Prop where
  ground : display.mode = .ground
  size : display.width = start.width ∧ display.height = start.height ∧ display.tears = start.tears
  row : display.row = start.row
  pen : display.pen = start.pen
  reached : first ≤ display.col
  beside : ∀ row col, ¬(row = start.row ∧ first ≤ col ∧ col < display.col) → display.cells row col = start.cells row col
  ahead : ∀ col, display.col ≤ col → (display.cells start.row col).isRest = false
  shown : display.textIn start.row first (display.col - first) = line
  last : first < display.col → (display.cells start.row (display.col - 1)).isRest = false ∨
    (first + 2 ≤ display.col ∧ (display.cells start.row (display.col - 1)).isRest = true ∧
      (display.cells start.row (display.col - 1 - 1)).isRest = false)

theorem Printed.refl (ground : start.mode = .ground) (ahead : ∀ col, start.col ≤ col → (start.cells start.row col).isRest = false) :
    Printed start start.col [] start where
  ground := ground
  size := ⟨rfl, rfl, rfl⟩
  row := rfl
  pen := rfl
  reached := Nat.le_refl _
  beside _ _ _ := rfl
  ahead := ahead
  shown := by rw [Nat.sub_self]; rfl
  last moved := absurd moved (Nat.lt_irrefl _)

/-- The place that the text has reached is whole, so a glyph there tears nothing. -/
theorem Printed.write_whole (printed : Printed start first line display) (text : List Char) {n col : Nat}
    (other : col < display.col ∨ display.col + (n + 1) ≤ col) :
    (display.write text (n + 1)).cells start.row col = display.cells start.row col := by
  rw [← printed.row, write_beside other]
  refine torn_whole (fun _ => ?_) fun _ _ _ => ?_
  · rw [printed.row]
    exact printed.ahead _ (Nat.le_refl _)
  · rw [printed.row]
    exact printed.ahead _ (Nat.le_add_right _ _)

/-- A glyph of one or two columns, at the place that the text has reached. -/
theorem Printed.write (printed : Printed start first line display) (text : List Char) {n : Nat} (narrow : n + 1 ≤ 2) :
    Printed start first (line ++ text) (display.write text (n + 1)) := by
  have place := printed.reached
  have here : (display.write text (n + 1)).cells start.row display.col = .glyph text display.pen := by
    rw [← printed.row]
    exact write_here
  have rest (one : n = 1) : (display.write text (n + 1)).cells start.row (display.col + 1) = .rest display.pen := by
    rw [← printed.row]
    exact write_rest (Nat.lt_succ_self _) (by omega)
  refine { printed with reached := ?_, beside := ?_, ahead := ?_, shown := ?_, last := ?_ }
  · change first ≤ display.col + (n + 1)
    omega
  · intro row col outside
    change ¬(row = start.row ∧ first ≤ col ∧ col < display.col + (n + 1)) at outside
    by_cases same : row = start.row
    · subst same
      have beyond : col < first ∨ display.col + (n + 1) ≤ col := by omega
      rw [printed.write_whole text (by omega)]
      exact printed.beside _ _ (by omega)
    · rw [write_otherRow fun same' => same (same'.trans printed.row)]
      exact printed.beside _ _ fun inside => same inside.1
  · intro col after
    change display.col + (n + 1) ≤ col at after
    rw [printed.write_whole text (.inr after)]
    exact printed.ahead col (by omega)
  · change (display.write text (n + 1)).textIn start.row first (display.col + (n + 1) - first) = _
    have split : display.col + (n + 1) - first = (display.col - first) + (n + 1) := by omega
    rw [split, textIn_add, Nat.add_sub_cancel' place]
    congr 1
    · rw [← printed.shown]
      exact textIn_congr fun col _ before => printed.write_whole text (.inl (by omega))
    · cases n with
      | zero => simp [textIn, here, Shown.text]
      | succ m =>
          obtain rfl : m = 0 := by omega
          simp [textIn, List.range', here, rest rfl, Shown.text]
  · intro _
    change (_ ∨ (first + 2 ≤ display.col + (n + 1) ∧ _ ∧ _))
    cases n with
    | zero => exact .inl (congrArg Shown.isRest here)
    | succ m =>
        obtain rfl : m = 0 := by omega
        exact .inr ⟨by omega, congrArg Shown.isRest (rest rfl), congrArg Shown.isRest here⟩

/-- A mark goes to the last glyph of the line. -/
theorem Printed.last_glyph (printed : Printed start first line display) (begun : first < display.col) (c : Char) :
    ∃ place cells, first ≤ place ∧ place < display.col ∧ (display.cells start.row place).isRest = false ∧
      (∀ col, place < col → col < display.col → (display.cells start.row col).isRest = true) ∧
      display.attach c = { display with cells } ∧ cells start.row place = (display.cells start.row place).mark c ∧
      ∀ row col, ¬(row = start.row ∧ col = place) → cells row col = display.cells row col := by
  have moved : display.col ≠ 0 := by omega
  obtain ⟨place, low, high, glyph, after, same⟩ : ∃ place, first ≤ place ∧ place < display.col ∧
      (display.cells start.row place).isRest = false ∧
      (∀ col, place < col → col < display.col → (display.cells start.row col).isRest = true) ∧
      (if (display.cells start.row (display.col - 1)).isRest then display.col - 1 - 1 else display.col - 1) = place := by
    rcases printed.last begun with whole | ⟨two, half, whole⟩
    · refine ⟨display.col - 1, by omega, by omega, whole, fun col _ _ => by omega, ?_⟩
      rw [if_neg (Bool.eq_false_iff.mp whole)]
    · refine ⟨display.col - 1 - 1, by omega, by omega, whole, fun col _ _ => ?_, if_pos half⟩
      obtain rfl : col = display.col - 1 := by omega
      exact half
  refine ⟨place, _, low, high, glyph, after, (if_neg moved).trans rfl, ?_, fun row col other => ?_⟩
  · rw [printed.row, same]
    exact if_pos ⟨rfl, rfl⟩
  · rw [printed.row, same]
    exact if_neg other

theorem Printed.attach (printed : Printed start first line display) (begun : first < display.col) (c : Char) :
    Printed start first (line ++ [c]) (display.attach c) := by
  obtain ⟨place, cells, low, high, glyph, after, same, there, elsewhere⟩ := printed.last_glyph begun c
  have rests (col : Nat) : (cells start.row col).isRest = (display.cells start.row col).isRest := by
    by_cases here : col = place
    · rw [here, there]
      cases display.cells start.row place <;> rfl
    · rw [elsewhere _ _ fun both => here both.2]
  have count : display.col - first = (place - first) + (1 + (display.col - (place + 1))) := by omega
  have line_eq (display' : Display) (rest : ∀ col, place < col → col < display.col → (display'.cells start.row col).isRest = true) :
      display'.textIn start.row first (display.col - first) =
        display'.textIn start.row first (place - first) ++ (display'.cells start.row place).text := by
    rw [count, textIn_add, textIn_add, Nat.add_sub_cancel' low, textIn_one,
      textIn_rests fun col before after => rest col before (by omega), List.append_nil]
  rw [same]
  refine { printed with beside := ?_, ahead := ?_, shown := ?_, last := ?_ }
  · intro row col outside
    exact (elsewhere row col fun here => outside ⟨here.1, by rw [here.2]; exact ⟨low, high⟩⟩).trans (printed.beside row col outside)
  · intro col beyond
    exact (rests col).trans (printed.ahead col beyond)
  · have marked : (cells start.row place).text = (display.cells start.row place).text ++ [c] := by
      rw [there]
      cases shown : display.cells start.row place with
      | glyph text pen => rfl
      | rest pen => rw [shown] at glyph; exact absurd glyph Bool.noConfusion
    refine (line_eq { display with cells } fun col before beyond => (rests col).trans (after col before beyond)).trans ?_
    rw [← printed.shown, line_eq display after, List.append_assoc, ← marked]
    congr 1
    exact textIn_congr fun col _ before => elsewhere _ _ (by omega)
  · intro _
    exact (printed.last begun).imp (fun whole => (rests _).trans whole) fun ⟨two, half, whole⟩ =>
      ⟨two, (rests _).trans half, (rests _).trans whole⟩

/-- One character that fits; a mark needs something to go to. -/
theorem Printed.print {widths : CharWidths} (narrow : ∀ c n, widths.width c = some n → n ≤ 2)
    (printing : Printed start first line display) {c : Char} (fits : display.col + (widths.width c).getD 0 ≤ display.width)
    (begins : first < display.col ∨ 0 < (widths.width c).getD 0) :
    Printed start first (line ++ printed widths [c]) (display.print widths c) ∧
      (display.print widths c).col = display.col + (widths.width c).getD 0 := by
  cases width : widths.width c with
  | none =>
      have unseen : printed widths [c] = [] := by simp [printed, width]
      rw [Display.print, width, unseen, List.append_nil]
      exact ⟨printing, rfl⟩
  | some n =>
      have seen : printed widths [c] = [c] := by simp [printed, width]
      rw [width] at fits begins
      rw [seen]
      cases n with
      | zero =>
          have marked : display.print widths c = display.attach c := by
            rw [Display.print, width]
            rfl
          rw [marked]
          refine ⟨printing.attach (begins.resolve_right (Nat.lt_irrefl 0)) c, ?_⟩
          change (display.attach c).col = display.col
          unfold Display.attach
          split <;> rfl
      | succ n =>
          change display.col + (n + 1) ≤ display.width at fits
          have written : display.print widths c = display.write [c] (n + 1) := by
            rw [Display.print, width]
            change (if display.width < n + 1 then _ else if display.width < display.col + (n + 1) then _ else _) = _
            rw [if_neg (by omega), if_neg (by omega)]
          rw [written]
          exact ⟨printing.write [c] (narrow c _ width), rfl⟩

/-- A text that fits and does not begin with a mark. -/
theorem Printed.feed {widths : CharWidths} (narrow : ∀ c n, widths.width c = some n → n ≤ 2) {text : List Char}
    (printing : Printed start first line display) (plain : ∀ c ∈ text, c ≠ '\x1b')
    (fits : display.col + columns widths text ≤ display.width)
    (begins : first < display.col ∨ ∀ c ∈ text.head?, 0 < (widths.width c).getD 0) :
    Printed start first (line ++ printed widths text) (display.feed widths text) ∧
      (display.feed widths text).col = display.col + columns widths text := by
  induction text generalizing display line with
  | nil =>
      rw [show printed widths [] = [] from rfl, List.append_nil]
      exact ⟨printing, rfl⟩
  | cons c text ih =>
      obtain ⟨other, later⟩ := List.forall_mem_cons.mp plain
      have total : columns widths (c :: text) = (widths.width c).getD 0 + columns widths text := rfl
      have seen : line ++ printed widths (c :: text) = (line ++ printed widths [c]) ++ printed widths text := by
        rw [List.append_assoc, printed, printed, printed, ← List.filter_append]
        rfl
      have stepped : step widths display c = display.print widths c := by
        rw [step, printing.ground]
        exact if_neg other
      rw [total] at fits ⊢
      have head : first < display.col ∨ 0 < (widths.width c).getD 0 := begins.imp_right fun positive => positive c rfl
      obtain ⟨next, col⟩ := printing.print narrow (by omega) head
      have size : (display.print widths c).width = display.width := by rw [next.size.1, printing.size.1]
      have reached := printing.reached
      obtain ⟨done, stop⟩ := ih next later (by rw [col, size]; omega) (.inl (by rw [col]; omega))
      change Printed _ _ _ ((step widths display c).feed widths text) ∧ ((step widths display c).feed widths text).col = _
      rw [stepped, seen]
      exact ⟨done, by rw [stop, col, Nat.add_assoc]⟩

end Lines

end Display

end Ezpn
