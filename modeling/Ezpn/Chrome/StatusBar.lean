import Ezpn.Config
import Ezpn.Screen.Drawn
import Ezpn.Text

/-!
# The configured status bar

`server/status_bar.rs`: the two sides of the bar are put together from session names,
literals and key hints, cut to the columns that are left, and drawn in the last row.
The commands of `crossterm` are taken by what they do.
-/

set_option autoImplicit false

namespace Ezpn.StatusBar

/-- What the built-in segments show; the clock is read by the caller. -/
structure Context where
  session : String
  tabCount : Nat
  mode : String
  time : String

structure Text where
  text : List Char := []
  columns : Nat := 0
  limit : Nat
  deriving DecidableEq, Repr

/-- Controls, and marks that turn the direction of writing. -/
def hidden (ch : Char) : Bool :=
  Ezpn.Text.isControl ch || (0x202A ≤ ch.toNat && ch.toNat ≤ 0x202E) || (0x2066 ≤ ch.toNat && ch.toNat ≤ 0x2069)

def byteLen (text : List Char) : Nat := (text.map Char.utf8Size).sum

section Building
variable (widths : CharWidths)

namespace Text

/-- The loop of `append`. It ends at the first character that has no room. -/
def appendChars (byteLimit : Nat) (out : Text) : List Char → Text
  | [] => out
  | ch :: rest =>
      if hidden ch then appendChars byteLimit out rest
      else
        let width := (widths.width ch).getD 0
        if width = 0 ∧ out.text = [] then appendChars byteLimit out rest
        else if out.columns + width > out.limit ∨ byteLen out.text + ch.utf8Size > byteLimit then out
        else appendChars byteLimit { out with text := out.text ++ [ch], columns := out.columns + width } rest

def append (value : List Char) (out : Text) : Text :=
  if out.limit = 0 then out
  else
    let byteLimit := max (min (out.limit * 16) usizeMax) 64
    appendChars widths byteLimit out (value.take byteLimit)

def item (out next : Text) : Text :=
  if next.text = [] then out
  else
    let out := if out.text ≠ [] then out.append widths [' '] else out
    out.append widths next.text

end Text

def builtin (context : Context) (name : String) (out : Text) : Text :=
  match name with
  | "session" => out.append widths context.session.toList
  | "tab_count" => out.append widths (toString context.tabCount).toList
  | "mode" => out.append widths (if context.mode = "" then "NORMAL" else context.mode).toList
  | "time" => out.append widths context.time.toList
  | _ => out

/-- The columns that are left for one more item and the blank before it. -/
def Text.remaining (out : Text) : Nat := out.limit - (out.columns + (if out.text ≠ [] then 1 else 0))

def pair (hint : KeyHint) (limit : Nat) : Text :=
  let pair := Text.append widths hint.key.toList { limit }
  let pair := if pair.text ≠ [] ∧ hint.label ≠ "" then pair.append widths [' '] else pair
  pair.append widths hint.label.toList

def hints (item : Text) : List KeyHint → Text
  | [] => item
  | hint :: keys =>
      if item.columns ≥ item.limit then item
      else hints (item.item widths (pair widths hint item.remaining)) keys

/-- One segment, alone. -/
def segment (config : StatusBarConfig) (context : Context) (name : String) (limit : Nat) : Text :=
  match (config.segments.find? (·.name = name)).map StatusBarSegment.kind with
  | some (.literal text) => Text.append widths text.toList { limit }
  | some (.builtin name) => builtin widths context name { limit }
  | some (.keyHints _ maxWidth keys) => hints widths { limit := min limit maxWidth } (keys.take 128)
  | none => builtin widths context name { limit }

/-- The loop of `side`. -/
def sideLoop (config : StatusBarConfig) (context : Context) (out : Text) : List String → Text
  | [] => out
  | name :: names =>
      if out.columns ≥ out.limit then out
      else sideLoop config context (out.item widths (segment widths config context name out.remaining)) names

def side (names : List String) (config : StatusBarConfig) (context : Context) (limit : Nat) : Text :=
  sideLoop widths config context { limit } (names.take 128)

end Building

/-! ## Drawing -/

inductive Command where
  | moveTo (x y : Nat)
  | resetAttributes
  | background (color : Color)
  | foreground (color : Color)
  | clearCurrentLine
  | print (text : List Char)
  | resetColor
  deriving DecidableEq, Repr

/-- `resolved_to_crossterm`, as a color of the display. -/
def shownColor : Resolved → Color
  | .rgb color => .rgb (UInt8.ofNat color.r) (UInt8.ofNat color.g) (UInt8.ofNat color.b)
  | .indexed index => .idx (UInt8.ofNat index)

section Draw
variable (widths : CharWidths)

/-- Whether the bar is the configured one, and what is drawn. -/
def draw (config : StatusBarConfig) (context : Context) (tw th : Nat) (palette : ResolvedPalette) : Bool × List Command :=
  if config.left = [] ∧ config.right = [] then (false, [])
  else if tw = 0 ∨ th = 0 then (true, [])
  else
    let right := side widths config.right config context tw
    let leftLimit := tw - (right.columns + (if right.text ≠ [] then 1 else 0))
    let left := side widths config.left config context leftLimit
    let row := th - 1
    (true, [.moveTo 0 row, .resetAttributes, .background (shownColor palette.statusBg), .foreground (shownColor palette.statusFg),
        .clearCurrentLine, .print left.text] ++
      (if right.text ≠ [] then [.moveTo (tw - right.columns) row, .print right.text] else []) ++
      [.moveTo 0 row, .resetColor, .resetAttributes])

namespace Command

/-- What a terminal does. Cells are erased to the background of the pen. -/
def run (display : Display) : Command → Display
  | .moveTo x y => { display with row := min y (display.height - 1), col := min x (display.width - 1) }
  | .resetAttributes => { display with pen := {} }
  | .background color => { display with pen := { display.pen with bg := color } }
  | .foreground color => { display with pen := { display.pen with fg := color } }
  | .clearCurrentLine =>
      { display with cells := fun row col => if row = display.row then .blank { bg := display.pen.bg } else display.cells row col }
  | .print text => display.feed widths text
  | .resetColor => { display with pen := { display.pen with fg := .default, bg := .default } }

def runAll (display : Display) (commands : List Command) : Display := commands.foldl (run widths) display

end Command

end Draw

/-! ## What is put together -/

section Formed
variable {widths : CharWidths}

/-- A text that a terminal prints as it stands, within its limit. -/
structure Text.Formed (widths : CharWidths) (text : Text) : Prop where
  counted : text.columns = Display.columns widths text.text
  fits : text.columns ≤ text.limit
  visible : ∀ c ∈ text.text, hidden c = false
  begins : ∀ c ∈ text.text.head?, 0 < (widths.width c).getD 0

theorem Text.new_formed (limit : Nat) : Text.Formed widths { limit } := by
  refine ⟨rfl, Nat.zero_le _, ?_, ?_⟩ <;> simp

theorem columns_append (front back : List Char) :
    Display.columns widths (front ++ back) = Display.columns widths front + Display.columns widths back := by
  induction front with
  | nil => exact (Nat.zero_add _).symm
  | cons c front ih =>
      rw [List.cons_append, Display.columns, Display.columns, ih, Nat.add_assoc]

/-- One more character that has room. -/
theorem Text.Formed.push {text : Text} (formed : text.Formed widths) {ch : Char} (shown : hidden ch = false)
    (starts : ¬((widths.width ch).getD 0 = 0 ∧ text.text = [])) (room : text.columns + (widths.width ch).getD 0 ≤ text.limit) :
    Text.Formed widths { text with text := text.text ++ [ch], columns := text.columns + (widths.width ch).getD 0 } := by
  refine ⟨?_, room, ?_, ?_⟩
  · show _ = Display.columns widths (text.text ++ [ch])
    rw [columns_append, ← formed.counted]
    simp [Display.columns]
  · intro c member
    rcases List.mem_append.mp member with old | new
    · exact formed.visible c old
    · rwa [List.mem_singleton.mp new]
  · intro c head
    cases old : text.text with
    | nil =>
        obtain rfl : ch = c := by simpa [old] using head
        exact Nat.pos_of_ne_zero fun zero => starts ⟨zero, old⟩
    | cons first rest =>
        refine formed.begins c ?_
        simpa [old] using head

theorem Text.appendChars_formed (byteLimit : Nat) {out : Text} (formed : out.Formed widths) (value : List Char) :
    (out.appendChars widths byteLimit value).Formed widths ∧ (out.appendChars widths byteLimit value).limit = out.limit := by
  induction value generalizing out with
  | nil => exact ⟨formed, rfl⟩
  | cons ch rest ih =>
      unfold Text.appendChars
      dsimp only
      split_ifs with unseen mark full
      · exact ih formed
      · exact ih formed
      · exact ⟨formed, rfl⟩
      · exact ih (formed.push (Bool.eq_false_iff.mpr unseen) mark (Nat.not_lt.mp fun wide => full (.inl wide)))

theorem Text.append_formed {out : Text} (formed : out.Formed widths) (value : List Char) :
    (out.append widths value).Formed widths ∧ (out.append widths value).limit = out.limit := by
  unfold Text.append
  split_ifs
  · exact ⟨formed, rfl⟩
  · exact Text.appendChars_formed _ formed _

theorem Text.item_formed {out : Text} (formed : out.Formed widths) (next : Text) :
    (out.item widths next).Formed widths ∧ (out.item widths next).limit = out.limit := by
  unfold Text.item
  dsimp only
  split_ifs
  · exact ⟨formed, rfl⟩
  · obtain ⟨spaced, limit⟩ := Text.append_formed formed [' ']
    obtain ⟨done, limit'⟩ := Text.append_formed spaced next.text
    exact ⟨done, limit'.trans limit⟩
  · exact Text.append_formed formed _

theorem sideLoop_formed (config : StatusBarConfig) (context : Context) {out : Text} (formed : out.Formed widths)
    (names : List String) :
    (sideLoop widths config context out names).Formed widths ∧ (sideLoop widths config context out names).limit = out.limit := by
  induction names generalizing out with
  | nil => exact ⟨formed, rfl⟩
  | cons name names ih =>
      unfold sideLoop
      split_ifs
      · exact ⟨formed, rfl⟩
      · obtain ⟨longer, limit⟩ := Text.item_formed formed (segment widths config context name out.remaining)
        obtain ⟨done, limit'⟩ := ih longer
        exact ⟨done, limit'.trans limit⟩

theorem side_formed (names : List String) (config : StatusBarConfig) (context : Context) (limit : Nat) :
    (side widths names config context limit).Formed widths ∧ (side widths names config context limit).columns ≤ limit := by
  obtain ⟨formed, same⟩ := sideLoop_formed config context (@Text.new_formed widths limit) (names.take 128)
  exact ⟨formed, formed.fits.trans_eq same⟩

theorem Text.Formed.unescaped {text : Text} (formed : text.Formed widths) : ∀ c ∈ text.text, c ≠ '\x1b' := by
  rintro c member rfl
  exact absurd (formed.visible _ member) (by decide)

/-- A text that is not empty takes a column. -/
theorem Text.Formed.columns_pos {text : Text} (formed : text.Formed widths) (shown : text.text ≠ []) : 0 < text.columns := by
  cases content : text.text with
  | nil => exact absurd content shown
  | cons first rest =>
      have positive := formed.begins first (by simp [content])
      rw [formed.counted, content, Display.columns]
      omega

end Formed

/-! ## What is drawn -/

section Drawn
variable {widths : CharWidths}

/-- The configured bar is the last row of the screen and nothing else: the left side begins in the first column, the right
one ends in the last, each shows its text, and what lies between them is blank, a column at least where there are both.
Nothing scrolls, and the cursor is at the start of the bar. -/
structure Shows (widths : CharWidths) (palette : ResolvedPalette) (left right : Text) (before after : Display) : Prop where
  kept : after = { before with cells := after.cells, row := before.height - 1, col := 0, pen := {} }
  above : ∀ row col, row ≠ before.height - 1 → after.cells row col = before.cells row col
  leftText : after.textIn (before.height - 1) 0 left.columns = Display.printed widths left.text
  rightText : after.textIn (before.height - 1) (before.width - right.columns) right.columns = Display.printed widths right.text
  between : ∀ col, left.columns ≤ col → col < before.width - right.columns →
    after.cells (before.height - 1) col = .blank { bg := shownColor palette.statusBg }
  apart : left.columns + right.columns ≤ before.width ∧
    (0 < left.columns → 0 < right.columns → left.columns + 1 + right.columns ≤ before.width)
  visible : ∀ c, c ∈ left.text ∨ c ∈ right.text → hidden c = false

/-- A row that has been cleared, with one text in it. -/
theorem Text.Formed.printed (narrow : ∀ c n, widths.width c = some n → n ≤ 2) {text : Text} (formed : text.Formed widths)
    {display : Display} (ground : display.mode = .ground)
    (ahead : ∀ col, display.col ≤ col → (display.cells display.row col).isRest = false)
    (fits : display.col + text.columns ≤ display.width) :
    Display.Printed display display.col (Display.printed widths text.text) (display.feed widths text.text) ∧
      (display.feed widths text.text).col = display.col + text.columns := by
  rw [formed.counted] at fits ⊢
  exact (Display.Printed.refl ground ahead).feed narrow formed.unescaped fits (.inr formed.begins)

theorem runAll_append (front back : List Command) (display : Display) :
    Command.runAll widths display (front ++ back) = Command.runAll widths (Command.runAll widths display front) back :=
  List.foldl_append

/-- The last row, cleared, with the cursor in its first column. -/
def cleared (palette : ResolvedPalette) (display : Display) : Display :=
  { display with
    row := display.height - 1
    col := 0
    pen := { fg := shownColor palette.statusFg, bg := shownColor palette.statusBg }
    cells := fun row col => if row = display.height - 1 then .blank { bg := shownColor palette.statusBg } else display.cells row col }

theorem cleared_blank (palette : ResolvedPalette) (display : Display) (col : Nat) :
    (cleared palette display).cells (display.height - 1) col = .blank { bg := shownColor palette.statusBg } := if_pos rfl

theorem runAll_left (palette : ResolvedPalette) (display : Display) (text : List Char) :
    Command.runAll widths display [.moveTo 0 (display.height - 1), .resetAttributes, .background (shownColor palette.statusBg),
      .foreground (shownColor palette.statusFg), .clearCurrentLine, .print text] = (cleared palette display).feed widths text := by
  have moved : Command.run widths display (.moveTo 0 (display.height - 1)) =
      { display with row := display.height - 1, col := 0 } := by
    show ({ display with row := min (display.height - 1) (display.height - 1), col := min 0 (display.width - 1) } : Display) = _
    rw [Nat.min_self, Nat.zero_min]
  unfold Command.runAll
  rw [List.foldl_cons, moved]
  rfl

theorem runAll_right {display : Display} {row col : Nat} (low : row < display.height) (left : col < display.width)
    (text : List Char) :
    Command.runAll widths display [.moveTo col row, .print text] = Display.feed widths { display with row, col } text := by
  show Display.feed widths { display with row := min row (display.height - 1), col := min col (display.width - 1) } text = _
  rw [Nat.min_eq_left (by omega), Nat.min_eq_left (by omega)]

/-- The cursor goes back to the start of the bar. -/
theorem runAll_finish {start done : Display} (ground : start.mode = .ground) (ground' : done.mode = .ground)
    (size : done.width = start.width ∧ done.height = start.height ∧ done.tears = start.tears) {row : Nat}
    (low : row < start.height) :
    Command.runAll widths done [.moveTo 0 row, .resetColor, .resetAttributes] =
      { start with cells := done.cells, row, col := 0, pen := {} } := by
  obtain ⟨width, height, tears⟩ := size
  have ends : Command.runAll widths done [.moveTo 0 row, .resetColor, .resetAttributes] =
      { done with row := min row (done.height - 1), col := min 0 (done.width - 1), pen := {} } := rfl
  rw [ends, Nat.zero_min, Nat.min_eq_left (by omega)]
  cases start
  cases done
  subst width height tears ground ground'
  rfl

theorem draw_commands {config : StatusBarConfig} (configured : config.left ≠ [] ∨ config.right ≠ []) (context : Context)
    (palette : ResolvedPalette) {tw th : Nat} (wide : 0 < tw) (high : 0 < th) :
    let right := side widths config.right config context tw
    let left := side widths config.left config context (tw - (right.columns + (if right.text ≠ [] then 1 else 0)))
    draw widths config context tw th palette =
      (true, [.moveTo 0 (th - 1), .resetAttributes, .background (shownColor palette.statusBg), .foreground (shownColor palette.statusFg),
          .clearCurrentLine, .print left.text] ++
        (if right.text ≠ [] then [.moveTo (tw - right.columns) (th - 1), .print right.text] else []) ++
        [.moveTo 0 (th - 1), .resetColor, .resetAttributes]) := by
  intro right left
  unfold draw
  rw [if_neg fun both => configured.elim (· both.1) (· both.2), if_neg (by omega)]

/-- The texts of the sides have their columns, and a blank between them. -/
theorem sides_apart {left right : Text} {tw : Nat} (leftFits : left.columns ≤ tw - (right.columns + (if right.text ≠ [] then 1 else 0)))
    (rightFits : right.columns ≤ tw) (nothing : right.text = [] → right.columns = 0) :
    left.columns + right.columns ≤ tw ∧ (0 < left.columns → 0 < right.columns → left.columns + 1 + right.columns ≤ tw) := by
  by_cases shown : right.text ≠ []
  · rw [if_pos shown] at leftFits
    omega
  · rw [if_neg shown] at leftFits
    have none := nothing (not_not.mp shown)
    omega

theorem draw_shows (narrow : ∀ c n, widths.width c = some n → n ≤ 2) (config : StatusBarConfig) (context : Context)
    (palette : ResolvedPalette) {display : Display} (ground : display.mode = .ground) (wide : 0 < display.width)
    (high : 0 < display.height) (configured : config.left ≠ [] ∨ config.right ≠ []) :
    let right := side widths config.right config context display.width
    let left := side widths config.left config context (display.width - (right.columns + (if right.text ≠ [] then 1 else 0)))
    (draw widths config context display.width display.height palette).1 = true ∧
      Shows widths palette left right display
        (Command.runAll widths display (draw widths config context display.width display.height palette).2) := by
  intro right left
  obtain ⟨rightFormed, rightFits⟩ := @side_formed widths config.right config context display.width
  obtain ⟨leftFormed, leftFits⟩ := @side_formed widths config.left config context
    (display.width - (right.columns + (if right.text ≠ [] then 1 else 0)))
  change right.columns ≤ display.width at rightFits
  have nothing (none : right.text = []) : right.columns = 0 := by
    rw [rightFormed.counted, show (side widths config.right config context display.width).text = [] from none]
    rfl
  have apart := sides_apart leftFits rightFits nothing
  change left.columns + right.columns ≤ _ ∧ (0 < left.columns → 0 < right.columns → left.columns + 1 + _ ≤ _) at apart
  have visible : ∀ c, c ∈ left.text ∨ c ∈ right.text → hidden c = false := fun c member =>
    member.elim (leftFormed.visible c) (rightFormed.visible c)
  have low : display.height - 1 < display.height := Nat.sub_lt high Nat.one_pos
  -- The left side is printed in the cleared row.
  obtain ⟨printed, reached⟩ := @Text.Formed.printed _ narrow _ leftFormed (cleared palette display) ground
    (fun x _ => congrArg Shown.isRest (cleared_blank palette display x))
    (by show 0 + left.columns ≤ display.width; omega)
  change Display.Printed (cleared palette display) 0 (Display.printed widths left.text)
    ((cleared palette display).feed widths left.text) at printed
  change ((cleared palette display).feed widths left.text).col = 0 + left.columns at reached
  rw [draw_commands configured context palette wide high, runAll_append, runAll_append, runAll_left]
  change _ ∧ Shows widths palette left right display (Command.runAll widths
    (Command.runAll widths ((cleared palette display).feed widths left.text) (if right.text ≠ [] then _ else _)) _)
  refine ⟨rfl, ?_⟩
  generalize (cleared palette display).feed widths left.text = leftDone at printed reached
  have width : leftDone.width = display.width := printed.size.1
  have height : leftDone.height = display.height := printed.size.2.1
  have above (y x : Nat) (other : y ≠ display.height - 1) : leftDone.cells y x = display.cells y x :=
    (printed.beside y x fun inside => other inside.1).trans (if_neg other)
  have unprinted (x : Nat) (after : left.columns ≤ x) :
      leftDone.cells (display.height - 1) x = .blank { bg := shownColor palette.statusBg } :=
    (printed.beside _ x (by omega)).trans (cleared_blank palette display x)
  have leftText : leftDone.textIn (display.height - 1) 0 left.columns = Display.printed widths left.text := by
    rw [← printed.shown, reached, Nat.zero_add, Nat.sub_zero]
    rfl
  by_cases shown : right.text ≠ []
  · have least : 0 < right.columns := rightFormed.columns_pos shown
    rw [if_pos shown, runAll_right (height ▸ low) (by show display.width - right.columns < leftDone.width; omega)]
    -- The right side begins after a blank, in the cleared part of the row.
    obtain ⟨printed', reached'⟩ := @Text.Formed.printed _ narrow _ rightFormed
      { leftDone with row := display.height - 1, col := display.width - right.columns } printed.ground
      (fun x after => by
        change display.width - right.columns ≤ x at after
        exact congrArg Shown.isRest (unprinted x (by omega)))
      (by
        show display.width - right.columns + right.columns ≤ leftDone.width
        omega)
    change Display.Printed _ (display.width - right.columns) (Display.printed widths right.text)
      (Display.feed widths { leftDone with row := display.height - 1, col := display.width - right.columns } right.text) at printed'
    change (Display.feed widths { leftDone with row := display.height - 1, col := display.width - right.columns } right.text).col =
      display.width - right.columns + right.columns at reached'
    generalize Display.feed widths { leftDone with row := display.height - 1, col := display.width - right.columns } right.text = done
      at printed' reached'
    have before (x : Nat) (inside : x < display.width - right.columns) :
        done.cells (display.height - 1) x = leftDone.cells (display.height - 1) x :=
      printed'.beside _ x fun within => absurd within.2.1 (Nat.not_le.mpr inside)
    rw [runAll_finish ground printed'.ground ⟨printed'.size.1.trans printed.size.1, printed'.size.2.1.trans printed.size.2.1,
      printed'.size.2.2.trans printed.size.2.2⟩ low]
    refine ⟨rfl, fun y x other => ?_, ?_, ?_, fun x start stop => ?_, apart, visible⟩
    · exact (printed'.beside y x fun inside => other inside.1).trans (above y x other)
    · exact leftText ▸ Display.textIn_congr fun x _ inside => before x (by omega)
    · show done.textIn _ _ _ = _
      rw [← printed'.shown, reached', Nat.add_sub_cancel_left]
    · exact (before x stop).trans (unprinted x start)
  · have none := not_not.mp shown
    rw [if_neg shown]
    show Shows widths palette left right display (Command.runAll widths leftDone _)
    rw [runAll_finish ground printed.ground printed.size low]
    refine ⟨rfl, above, leftText, ?_, fun x start _ => unprinted x start, apart, visible⟩
    rw [nothing none, none]
    rfl

/-- The name of the session is cut where a wide character and the mark on it have no room left of the clock. -/
theorem wide_session_cut :
    let config : StatusBarConfig := { left := ["session"], right := ["time"] }
    let context : Context := ⟨"ab\u202e\u0301한한", 1, "", "09:30"⟩
    let palette := Colors.mk (Resolved.indexed 0) (.indexed 0) (.indexed 0) (.indexed 0) (.indexed 4) (.indexed 7) (.indexed 0) (.indexed 0)
      (.indexed 0) (.indexed 0) (.indexed 0) (.indexed 0) (.indexed 0)
    let display : Display := { dots with width := 11 }
    let right := side hangulWidths config.right config context display.width
    let left := side hangulWidths config.left config context (display.width - (right.columns + (if right.text ≠ [] then 1 else 0)))
    (left.text = ['a', 'b', '\u0301', '한'] ∧ right.text = ['0', '9', ':', '3', '0']) ∧
      Shows hangulWidths palette left right display
        (Command.runAll hangulWidths display (draw hangulWidths config context display.width display.height palette).2) := by
  intro config context palette display right left
  have narrow : ∀ c n, hangulWidths.width c = some n → n ≤ 2 := by
    intro c n printed
    unfold hangulWidths at printed
    dsimp only at printed
    split_ifs at printed <;> cases printed <;> decide
  exact ⟨by decide +kernel, (draw_shows narrow config context palette rfl (by decide) (by decide) (.inl (List.cons_ne_nil _ _))).2⟩

end Drawn

end Ezpn.StatusBar
