import Ezpn.Pane.Dump
import Ezpn.Screen.Replay

/-!
# Restored history

Saved rows are replayed into a pane that has shown nothing yet. A dump then gives back
the most recent of them that fit, as the display parser draws them, each once.
-/

set_option autoImplicit false

namespace Ezpn

/-- A display parser that draws text, as long as no escape sequence has been read. -/
class TextVt100 (G : Type) [Vt100 G] extends ScreenVt100 G where
  live : G → LiveGrid
  Plain : G → Prop
  shown : ∀ {g : G}, Plain g → (grid g).rows = (live g).rows ∧ (grid g).scrollback = (live g).scrollback ∧
    (grid g).height = (live g).height ∧ (grid g).width = (live g).width
  new : ∀ {height width : Nat} (scrollbackLen : Nat), 0 < height ∧ 0 < width → height ≤ u16Max ∧ width ≤ u16Max →
    Plain (Vt100.new height width scrollbackLen : G) ∧
      live (Vt100.new height width scrollbackLen : G) = .new height width scrollbackLen
  /-- A character arrives in its UTF-8 form, and memory holds what it leaves. -/
  print : ∀ {g : G} {c : Char}, Plain g → Text.isControl c = false →
    ((live g).print (Vt100.charWidth G) c).scrollback.length ≤ usizeMax / 2 →
    Plain (Vt100.process (String.singleton c).toUTF8.data.toList g) ∧
      live (Vt100.process (String.singleton c).toUTF8.data.toList g) = (live g).print (Vt100.charWidth G) c
  newline : ∀ {g : G}, Plain g → (live g).cr.lf.scrollback.length ≤ usizeMax / 2 →
    Plain (Vt100.process (ascii "\r\n") g) ∧ live (Vt100.process (ascii "\r\n") g) = (live g).cr.lf

/-- A display that reads text and line breaks, as far as memory reaches: what the parser is
before the first escape sequence. -/
structure TextDisplay where
  live : LiveGrid
  sound : live.Sound
  bounded : live.scrollback.length ≤ usizeMax / 2

namespace TextDisplay

/-- Combining diacritical marks are of zero width, CJK ideographs are wide. -/
def charWidth (c : Char) : Nat :=
  if 0x300 ≤ c.toNat ∧ c.toNat ≤ 0x36F then 0 else if 0x4E00 ≤ c.toNat ∧ c.toNat ≤ 0x9FFF then 2 else 1

theorem live_sound {height width : Nat} (scrollbackLen : Nat)
    (sized : (0 < height ∧ 0 < width) ∧ height ≤ u16Max ∧ width ≤ u16Max) :
    (LiveGrid.new height width scrollbackLen).Sound := LiveGrid.new_sound sized.1 sized.2

theorem cell_sound (scrollbackLen : Nat) : (LiveGrid.new 1 1 scrollbackLen).Sound :=
  live_sound scrollbackLen (by decide)

theorem live_bounded (height width scrollbackLen : Nat) :
    (LiveGrid.new height width scrollbackLen).scrollback.length ≤ usizeMax / 2 := Nat.zero_le _

def new (height width scrollbackLen : Nat) : TextDisplay :=
  if sized : (0 < height ∧ 0 < width) ∧ height ≤ u16Max ∧ width ≤ u16Max then
    ⟨.new height width scrollbackLen, live_sound scrollbackLen sized, live_bounded height width scrollbackLen⟩
  else ⟨.new 1 1 scrollbackLen, cell_sound scrollbackLen, live_bounded 1 1 scrollbackLen⟩

def change (display : TextDisplay) (live : LiveGrid) (sound : live.Sound) : TextDisplay :=
  if bounded : live.scrollback.length ≤ usizeMax / 2 then ⟨live, sound, bounded⟩ else display

def read (display : TextDisplay) (c : Char) : TextDisplay :=
  if c = '\r' then display.change _ display.sound.cr
  else if unbroken : c = '\n' then display.change _ display.sound.lf
  else if Text.isControl c then display
  else display.change _ (@LiveGrid.Sound.print _ display.sound charWidth (by decide) _ unbroken)

def decode (bytes : Bytes) : List Char := ((ByteArray.mk bytes.toArray).utf8Decode?.map Array.toList).getD []

instance : Vt100 TextDisplay where
  new := new
  size display := (display.live.height, display.live.width)
  setSize rows cols display := new rows cols display.live.scrollbackLen
  process bytes display := (decode bytes).foldl read display
  setScrollback offset display := ⟨display.live.setScrollback offset, display.sound.setScrollback offset, display.bounded⟩
  scrollback display := display.live.scrollbackOffset
  rows display := (display.sound.grid display.bounded).rowTexts 0 display.live.width
  applicationCursor _ := false
  cursorPosition display := (display.live.row, display.live.col)
  charWidth := charWidth

theorem decode_singleton (c : Char) : decode (String.singleton c).toUTF8.data.toList = [c] := by
  have whole : ByteArray.mk (String.singleton c).toUTF8.data.toList.toArray = [c].utf8Encode := by
    rw [Array.toArray_toList, ← String.toByteArray_singleton]
    rfl
  rw [decode, whole, List.utf8Decode?_utf8Encode]
  rfl

theorem decode_newline : decode (ascii "\r\n") = ['\r', '\n'] := by
  have whole : ByteArray.mk (ascii "\r\n").toArray = ['\r', '\n'].utf8Encode := by decide +kernel
  rw [decode, whole, List.utf8Decode?_utf8Encode]
  rfl

theorem change_live {display : TextDisplay} {live : LiveGrid} (sound : live.Sound)
    (bounded : live.scrollback.length ≤ usizeMax / 2) : (display.change live sound).live = live := by
  rw [change, dif_pos bounded]

instance : TextVt100 TextDisplay where
  grid display := display.sound.grid display.bounded
  size_eq _ := rfl
  scrollback_eq _ := rfl
  rows_eq _ := rfl
  grid_setScrollback _ _ := rfl
  live := TextDisplay.live
  Plain _ := True
  shown _ := ⟨rfl, rfl, rfl, rfl⟩
  new scrollbackLen positive representable := by
    refine ⟨trivial, ?_⟩
    change (new _ _ scrollbackLen).live = _
    rw [new, dif_pos ⟨positive, representable⟩]
  print {display c} _ plain bounded := by
    refine ⟨trivial, ?_⟩
    change ((decode (String.singleton c).toUTF8.data.toList).foldl read display).live = _
    have carriage : c ≠ '\r' := by
      rintro rfl
      exact absurd plain (by decide)
    have unbroken : c ≠ '\n' := by
      rintro rfl
      exact absurd plain (by decide)
    rw [decode_singleton, List.foldl_cons, List.foldl_nil, read, if_neg carriage, dif_neg unbroken, plain]
    exact change_live _ bounded
  newline {display} _ bounded := by
    refine ⟨trivial, ?_⟩
    change ((decode (ascii "\r\n")).foldl read display).live = _
    have returned : (display.read '\r').live = display.live.cr := change_live _ display.bounded
    rw [decode_newline, List.foldl_cons, List.foldl_cons, List.foldl_nil]
    have fed : ((display.read '\r').read '\n').live = (display.read '\r').live.lf :=
      change_live _ (by rw [returned]; exact bounded)
    rw [fed, returned]

end TextDisplay

/-- What is left of a text in so many columns: up to the first character that does not fit. -/
structure Cut (width : Char → Nat) (cols : Nat) (text cut : List Char) : Prop where
  fits : (cut.map width).sum ≤ cols
  whole : ∃ rest, text = cut ++ rest ∧ ∀ c ∈ rest.head?, cols < (cut.map width).sum + width c

namespace Pane
variable {G : Type} [Vt100 G]

/-- A pane that has shown nothing, and may be shown its history. -/
structure Fresh (height width : Nat) (pane : Pane G) : Prop where
  parser : pane.parser =
    Vt100.new height width (budgetedScrollbackLines pane.scrollbackLines width pane.scrollbackByteBudget)
  silent : pane.parserHasOutput = false
  shareable : pane.snapshotSensitive = false

theorem fitRow_fits (cols used : Nat) (cs : List Char) (inside : used ≤ cols) :
    used + ((fitRow G cols used cs).map (Vt100.charWidth G)).sum ≤ cols := by
  induction cs generalizing used with
  | nil => simpa [fitRow] using inside
  | cons c cs ih =>
      unfold fitRow
      split
      · exact ih used inside
      split
      · simpa using inside
      · have rest := ih (used + Vt100.charWidth G c) (by omega)
        simp only [List.map_cons, List.sum_cons]
        omega

theorem fitRow_whole (cols used : Nat) (cs : List Char) :
    ∃ rest, cs.filter (fun c => !Text.isControl c) = fitRow G cols used cs ++ rest ∧
      ∀ c ∈ rest.head?, cols < used + ((fitRow G cols used cs).map (Vt100.charWidth G)).sum + Vt100.charWidth G c := by
  induction cs generalizing used with
  | nil => exact ⟨[], rfl, by simp⟩
  | cons c cs ih =>
      unfold fitRow
      split
      · rename_i control
        rw [List.filter_cons_of_neg (by simp [control])]
        exact ih used
      rename_i plain
      rw [List.filter_cons_of_pos (by simpa using plain)]
      split
      · rename_i wide
        exact ⟨c :: cs.filter fun c => !Text.isControl c, rfl, by simpa using wide⟩
      · obtain ⟨rest, whole, stops⟩ := ih (used + Vt100.charWidth G c)
        refine ⟨rest, by rw [whole, List.cons_append], fun next first => ?_⟩
        have over_by := stops next first
        simp only [List.map_cons, List.sum_cons]
        omega

/-- A saved row, without its control characters, is cut to the width. -/
theorem fitRow_cut (cols : Nat) (cs : List Char) :
    Cut (Vt100.charWidth G) cols (cs.filter fun c => !Text.isControl c) (fitRow G cols 0 cs) where
  fits := by simpa using fitRow_fits (G := G) cols 0 cs (Nat.zero_le _)
  whole := by simpa using fitRow_whole (G := G) cols 0 cs

theorem fitRow_plain (cols used : Nat) (cs : List Char) :
    ∀ c ∈ fitRow G cols used cs, Text.isControl c = false := by
  induction cs generalizing used with
  | nil => simp [fitRow]
  | cons c cs ih =>
      unfold fitRow
      split
      · exact ih used
      split
      · simp
      · rename_i plain _
        exact List.forall_mem_cons.mpr ⟨by simpa using plain, ih _⟩

/-- What a dump shows of a saved row. -/
def drawnText (G : Type) [Vt100 G] (cols : Nat) (text : String) : String :=
  String.ofList (TypedLine.kept (Vt100.charWidth G) none (fitRow G cols 0 text.toList))

/-- The line that a saved row becomes. -/
def lineOf (G : Type) [Vt100 G] (cols : Nat) (text : String) : TypedLine :=
  (fitRow G cols 0 text.toList).foldl (TypedLine.type (Vt100.charWidth G)) {}

theorem lineOf_shown (cols : Nat) (text : String) : (lineOf G cols text).Shown := by
  have typed (cs : List Char) (line : TypedLine) (shown : line.Shown) :
      (cs.foldl (TypedLine.type (Vt100.charWidth G)) line).Shown := by
    induction cs generalizing line with
    | nil => exact shown
    | cons c cs ih => exact ih _ (shown.type _ c)
  exact typed _ {} (by simp [TypedLine.Shown])

theorem lineOf_fits (cols : Nat) (text : String) : (lineOf G cols text).cells.length ≤ cols := by
  have typed (cs : List Char) (line : TypedLine) : (cs.foldl (TypedLine.type (Vt100.charWidth G)) line).cells.length ≤
      line.cells.length + (cs.map (Vt100.charWidth G)).sum := by
    induction cs generalizing line with
    | nil => simp
    | cons c cs ih =>
        have first := TypedLine.length_type (Vt100.charWidth G) line c
        have rest := ih (line.type (Vt100.charWidth G) c)
        simp only [List.foldl_cons, List.map_cons, List.sum_cons]
        omega
  have fits := fitRow_fits (G := G) cols 0 text.toList (Nat.zero_le _)
  have length := typed (fitRow G cols 0 text.toList) {}
  simp only [TypedLine.cells, List.reverse_nil, List.flatMap_nil, List.length_nil] at length
  exact length.trans fits

theorem lineOf_text (cols : Nat) (text : String) :
    (TypedLine.row cols (lineOf G cols text)).writeContents 0 cols = drawnText G cols text := by
  rw [TypedLine.writeContents_row (lineOf_shown cols text) (lineOf_fits cols text), lineOf,
    TypedLine.text_typed (by simp [TypedLine.Shown])]
  rfl

/-! ## The replay -/

section Replay
variable [TextVt100 G]

open TextVt100 (live Plain)

/-- The characters of a row arrive one by one. -/
theorem live_type {above below : List Row} {cs : List Char} {line : TypedLine} {g : G} (plain : Plain g)
    (here : TypedLine.At above below line (live g)) (shown : line.Shown)
    (fits : line.cells.length + (cs.map (Vt100.charWidth G)).sum ≤ (live g).width)
    (printable : ∀ c ∈ cs, Text.isControl c = false) (held : (live g).scrollback.length ≤ usizeMax / 2) :
    Plain (cs.foldl (fun g c => Vt100.process (String.singleton c).toUTF8.data.toList g) g) ∧
      live (cs.foldl (fun g c => Vt100.process (String.singleton c).toUTF8.data.toList g) g) =
        TypedLine.onGrid above below (cs.foldl (TypedLine.type (Vt100.charWidth G)) line) (live g) := by
  induction cs generalizing line g with
  | nil => exact ⟨plain, here.eq_onGrid⟩
  | cons c cs ih =>
      rw [List.forall_mem_cons] at printable
      rw [List.map_cons, List.sum_cons] at fits
      have length := TypedLine.length_type (Vt100.charWidth G) line c
      have typed := @TypedLine.At.print _ _ _ _ here shown (Vt100.charWidth G) c (by omega)
      obtain ⟨plain', drawn⟩ := TextVt100.print plain printable.1 (by rw [typed]; exact held)
      rw [typed] at drawn
      obtain ⟨plain'', rest⟩ := ih plain' (by rw [drawn]; exact here.next _) (shown.type _ c)
        (by rw [drawn]; simp only [TypedLine.onGrid]; omega) printable.2 (by rw [drawn]; exact held)
      refine ⟨plain'', ?_⟩
      rw [List.foldl_cons, rest, drawn]
      rfl

/-- What `restoreScrollback` does for one row. -/
def replayRow (G : Type) [Vt100 G] (cols : Nat) (grid : G) (text : String) : G :=
  Vt100.process (ascii "\r\n") ((fitRow G cols 0 text.toList).foldl
    (fun grid c => Vt100.process (String.singleton c).toUTF8.data.toList grid) grid)

theorem live_replayRow {height width capacity : Nat} {done : List Row} {g : G} (positive : 0 < height)
    (plain : Plain g) (replayed : LiveGrid.Replayed height width capacity done (live g))
    (explicit : ∀ row ∈ done, row.wrapped = false) (held : done.length < usizeMax / 2) (text : String) :
    Plain (replayRow G width g text) ∧
      LiveGrid.Replayed height width capacity (done ++ [(lineOf G width text).row width])
        (live (replayRow G width g text)) := by
  have bounded {done : List Row} {grid : LiveGrid} (replayed : LiveGrid.Replayed height width capacity done grid) :
      grid.scrollback.length ≤ done.length := by
    rw [replayed.scrollback, LiveGrid.latest, List.length_drop, List.length_take]
    omega
  have fits := fitRow_fits (G := G) width 0 text.toList (Nat.zero_le _)
  obtain ⟨plain', typed⟩ := live_type plain (replayed.start positive explicit) (by simp [TypedLine.Shown])
    (by rw [replayed.size.2.1]; simpa [TypedLine.cells] using fits) (fitRow_plain width 0 text.toList)
    ((bounded replayed).trans (Nat.le_of_lt held))
  have next := replayed.next positive (lineOf G width text)
  have held' := bounded next
  rw [List.length_append, List.length_singleton] at held'
  rw [← lineOf] at typed
  rw [← typed] at next held'
  obtain ⟨plain'', finished⟩ := TextVt100.newline plain' (by omega)
  exact ⟨plain'', by rw [replayRow, finished]; exact next⟩

/-- The rows are replayed in order. -/
theorem live_replay {height width capacity : Nat} {texts : List String} {done : List Row} {g : G}
    (positive : 0 < height) (plain : Plain g) (replayed : LiveGrid.Replayed height width capacity done (live g))
    (explicit : ∀ row ∈ done, row.wrapped = false) (held : done.length + texts.length ≤ usizeMax / 2) :
    Plain (texts.foldl (replayRow G width) g) ∧
      LiveGrid.Replayed height width capacity (done ++ texts.map fun text => (lineOf G width text).row width)
        (live (texts.foldl (replayRow G width) g)) := by
  induction texts generalizing done g with
  | nil => exact ⟨plain, by simpa using replayed⟩
  | cons text texts ih =>
      rw [List.length_cons] at held
      obtain ⟨plain', one⟩ := live_replayRow positive plain replayed explicit (by omega) text
      have explicit' (row : Row) (member : row ∈ done ++ [(lineOf G width text).row width]) : row.wrapped = false := by
        rcases List.mem_append.mp member with old | last
        · exact explicit row old
        · rw [List.mem_singleton.mp last]
          rfl
      have rest := ih plain' one explicit' (by rw [List.length_append, List.length_singleton]; omega)
      rwa [List.append_assoc] at rest

/-- What fits of the saved rows: the history, and the screen without the row of the cursor. -/
theorem dump_restored {height width : Nat} {pane : Pane G} (fresh : pane.Fresh height width)
    (positive : 0 < height ∧ 0 < width) (representable : height ≤ u16Max ∧ width ≤ u16Max) {saved : List String}
    (held : saved.length ≤ usizeMax / 2) :
    ((pane.restoreScrollback saved).dumpText true).2 =
      (LiveGrid.latest (budgetedScrollbackLines pane.scrollbackLines width pane.scrollbackByteBudget + (height - 1))
        saved).map (drawnText G width) ++ List.replicate (height - min saved.length (height - 1)) "" := by
  generalize budgeted : budgetedScrollbackLines pane.scrollbackLines width pane.scrollbackByteBudget = capacity
  obtain ⟨plain, blank⟩ := TextVt100.new (G := G) capacity positive representable
  have parser := fresh.parser
  rw [budgeted] at parser
  rw [← parser] at plain blank
  have size : Vt100.size pane.parser = (height, width) := by
    obtain ⟨-, -, height_eq, width_eq⟩ := TextVt100.shown plain
    rw [ScreenVt100.size_eq, height_eq, width_eq, blank]
    rfl
  have restored : (pane.restoreScrollback saved).parser =
      (saved.drop (saved.length - (capacity + height))).foldl (replayRow G width) pane.parser := by
    simp only [restoreScrollback, fresh.silent, fresh.shareable, size, budgeted, Bool.or_false, Bool.false_eq_true,
      if_false]
    rfl
  obtain ⟨plain', replayed⟩ := @live_replay G _ _ height width capacity
    (saved.drop (saved.length - (capacity + height))) [] pane.parser positive.1 plain
    (by rw [blank]; exact LiveGrid.new_replayed height width capacity) (by simp)
    (by rw [List.length_drop, List.length_nil]; omega)
  rw [← restored] at plain' replayed
  obtain ⟨rows, scrollback, -, width_eq⟩ := TextVt100.shown plain'
  have text : rowText (ScreenVt100.grid (pane.restoreScrollback saved).parser) = Row.writeContents 0 width := by
    funext row
    rw [rowText, width_eq, replayed.size.2.1]
  have blank_row : Row.writeContents 0 width (LiveGrid.newRow width) = "" := by
    rw [LiveGrid.newRow_eq, TypedLine.writeContents_row (by simp [TypedLine.Shown]) (by simp [TypedLine.cells])]
    rfl
  rw [dumpText_lines, dumpRows, if_pos rfl, rows, scrollback, replayed.all positive.1, text, List.map_append,
    List.map_replicate, blank_row, List.nil_append, LiveGrid.latest, List.length_map, List.length_drop]
  congr 1
  · rw [← List.map_drop, List.map_map, List.drop_drop, LiveGrid.latest]
    rw [show saved.length - (capacity + height) + (saved.length - (saved.length - (capacity + height)) -
      (capacity + (height - 1))) = saved.length - (capacity + (height - 1)) by omega]
    exact List.map_congr_left fun saved_text _ => lineOf_text width saved_text
  · congr 1
    omega

/-- A dump of a restored pane shows the most recent rows, each once, as the parser draws them: without
control characters, cut to the width, and whole wherever each character has room for its marks. -/
theorem restored_history {height width : Nat} {pane : Pane G} (fresh : pane.Fresh height width)
    (positive : 0 < height ∧ 0 < width) (representable : height ≤ u16Max ∧ width ≤ u16Max) {saved : List String}
    (held : saved.length ≤ usizeMax / 2) :
    ((pane.restoreScrollback saved).dumpText true).2 =
      (LiveGrid.latest (budgetedScrollbackLines pane.scrollbackLines width pane.scrollbackByteBudget + (height - 1))
        saved).map (drawnText G width) ++ List.replicate (height - min saved.length (height - 1)) "" ∧
      ∀ text : String,
        Cut (Vt100.charWidth G) width (text.toList.filter fun c => !Text.isControl c) (fitRow G width 0 text.toList) ∧
        ∀ clusters : List (List Char), (∀ cluster ∈ clusters, TypedLine.Cluster (Vt100.charWidth G) cluster) →
          fitRow G width 0 text.toList = clusters.flatten → drawnText G width text = String.ofList clusters.flatten := by
  refine ⟨dump_restored fresh positive representable held, fun text => ⟨fitRow_cut width text.toList, ?_⟩⟩
  intro clusters fine cut
  rw [drawnText, cut, TypedLine.kept_clusters fine]

end Replay

/-- A fresh pane of two rows and three columns, with a history of one row. -/
def twoRows : Pane TextDisplay where
  process := 0
  parser := Vt100.new 2 3 (budgetedScrollbackLines 1 3 defaultScrollbackBytes)
  launch := .shell
  scrollbackLines := 1
  initialCwd := none
  initialEnv := ∅
  scrollbackByteBudget := defaultScrollbackBytes

theorem twoRows_fresh : twoRows.Fresh 2 3 := ⟨rfl, rfl, rfl⟩

/-- The first row is not retained, and full rows do not wrap. -/
theorem restored_rows_that_fit : ((twoRows.restoreScrollback ["abc", "def", "ghij"]).dumpText true).2 = ["def", "ghi", ""] :=
  (restored_history twoRows_fresh (by decide) (by decide) (by decide)).1.trans (by decide +kernel)

/-- A replacement character, a mark with nothing before it, and a mark too many are not shown. -/
theorem undrawn_characters_lost :
    ¬∀ (height width : Nat) (pane : Pane TextDisplay) (saved : List String), pane.Fresh height width →
      0 < height ∧ 0 < width → height ≤ u16Max ∧ width ≤ u16Max → saved.length ≤ usizeMax / 2 →
      ((pane.restoreScrollback saved).dumpText true).2 =
        (LiveGrid.latest (budgetedScrollbackLines pane.scrollbackLines width pane.scrollbackByteBudget + (height - 1))
          saved).map (fun text => String.ofList (fitRow TextDisplay width 0 text.toList)) ++
        List.replicate (height - min saved.length (height - 1)) "" := by
  intro same
  have whole := same 2 3 twoRows ["\uFFFDa"] twoRows_fresh (by decide) (by decide) (by decide)
  rw [dump_restored twoRows_fresh (by decide) (by decide) (by decide)] at whole
  exact absurd whole (by decide +kernel)

/-! ## Fresh panes -/

theorem fresh_of_spawnInner {world : World} {attempt : Nat} {shell : String} {launch : PaneLaunch}
    {cols rows scrollback : Nat} {cwd : Option String} {env : EnvMap} {pane : Pane G}
    (spawned : spawnInner world attempt shell launch cols rows scrollback cwd env = .ok pane) :
    pane.Fresh rows cols ∧ 0 < rows ∧ 0 < cols := by
  unfold spawnInner at spawned
  split at spawned
  · cases spawned
  · rename_i sized
    split at spawned
    · cases spawned
    · cases spawned
      simp only [Bool.or_eq_true, decide_eq_true_eq, not_or] at sized
      exact ⟨⟨rfl, rfl, rfl⟩, by omega, by omega⟩

theorem Fresh.setScrollbackBudget [TextVt100 G] {height width : Nat} {pane : Pane G} (fresh : pane.Fresh height width)
    (positive : 0 < height ∧ 0 < width) (representable : height ≤ u16Max ∧ width ≤ u16Max) (byteBudget : Nat) :
    (pane.setScrollbackBudget byteBudget).Fresh height width := by
  obtain ⟨plain, blank⟩ := TextVt100.new (G := G)
    (budgetedScrollbackLines pane.scrollbackLines width pane.scrollbackByteBudget) positive representable
  rw [← fresh.parser] at plain blank
  have size : Vt100.size pane.parser = (height, width) := by
    obtain ⟨-, -, height_eq, width_eq⟩ := TextVt100.shown plain
    rw [ScreenVt100.size_eq, height_eq, width_eq, blank]
    rfl
  constructor
  · simp only [Pane.setScrollbackBudget, fresh.silent, Bool.false_eq_true, if_false, size]
  · simp only [Pane.setScrollbackBudget, fresh.silent, Bool.false_eq_true, if_false]
  · simp only [Pane.setScrollbackBudget, fresh.silent, Bool.false_eq_true, if_false, fresh.shareable]

end Pane

end Ezpn
