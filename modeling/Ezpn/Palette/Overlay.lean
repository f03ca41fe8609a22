import Ezpn.Lib.Machine
import Ezpn.Palette

/-!
# The palette and its overlay

The buffer that Enter executes is the query on display. The highlighted row is
the one that Tab inserts as long as the selection has not left the matches, which
neither the keys nor a paste prevent. The entries of panes select none.
-/

set_option autoImplicit false

namespace Ezpn

/-! ## Highlighting -/

namespace PaletteOverlayState

/-- With the selection on a match the overlay highlights that match. -/
theorem highlighted_eq {state : PaletteOverlayState} {termWidth termHeight : Nat}
    (large : ¬(termWidth < 10 ∨ termHeight < 8)) (few : state.matches.length ≤ 6)
    (inside : state.selected < state.matches.length) :
    state.highlighted termWidth termHeight = state.entries[state.matches[state.selected].index]? := by
  have first : state.selected - (6 - 1) = 0 := by omega
  have whole : (state.matches.drop 0).take 6 = state.matches := by rw [List.drop_zero, List.take_of_length_le few]
  have row :
      (state.rows termWidth termHeight).find? (·.1) =
        some (true, state.entries[state.matches[state.selected].index]?) := by
    simp only [rows, if_neg large, first, whole, Nat.add_zero]
    rw [List.find?_eq_some_iff_getElem]
    refine ⟨rfl, state.selected, by simpa using inside, by simp, fun j earlier => ?_⟩
    simp [Nat.ne_of_lt earlier]
  rw [highlighted, row, Option.bind_some]

theorem highlighted_none {state : PaletteOverlayState} {termWidth termHeight : Nat}
    (empty : termWidth < 10 ∨ termHeight < 8 ∨ state.matches = []) : state.highlighted termWidth termHeight = none := by
  have rows : state.rows termWidth termHeight = [] := by
    unfold rows
    split
    · rfl
    · rename_i large
      have none : state.matches = [] := by
        rcases empty with narrow | low | none
        · exact absurd (.inl narrow) large
        · exact absurd (.inr low) large
        · exact none
      simp [none]
  rw [highlighted, rows]
  rfl

end PaletteOverlayState

namespace Palette

variable (score : List Char → String → Option Int)

/-! ## Steps -/

/-- What happens in the prompt while it is open. -/
inductive Edit where
  | key (code : KeyCode) (ctrl : Bool)
  | paste (text : String)

def step (p : Palette) : Edit → Palette
  | .key code ctrl => (p.key score code ctrl).1
  | .paste text => p.paste text

/-- Keys that do not leave the prompt. -/
def Stays (_ : Palette) : Edit → Prop
  | .key code _ => code ≠ .enter ∧ code ≠ .esc
  | .paste _ => True

/-- The matches of a query. -/
def found (entries : List Entry) (query : List Char) : List Match := FuzzyIndex.search score entries query 6

/-- The selection is on one of the matches, if there are any. -/
def OnMatch (selected : Nat) («matches» : List Match) : Prop := «matches» = [] ∨ selected < «matches».length

/-- Edits that keep the selection on the matches: Down stops at the last one, and
a paste leaves as many as are needed. -/
def Steady (p : Palette) (edit : Edit) : Prop :=
  p.Stays edit ∧
    match edit with
    | .key .down _ => ∀ entries ∈ p.fuzzyIndex, OnMatch (p.selected + 1) (found score entries p.query)
    | .paste text => ∀ entries ∈ p.fuzzyIndex, OnMatch p.selected (found score entries (p.paste text).query)
    | _ => True

/-- The prompt is open, and its buffer is the query. -/
structure Open (entries : List Entry) (p : Palette) : Prop where
  buffer : p.buffer = some p.query
  index : p.fuzzyIndex = some entries

variable {score} {entries : List Entry} {p : Palette}

theorem Open.complete (opened : p.Open entries) : (p.complete score).Open entries := by
  unfold Palette.complete
  split
  · exact ⟨rfl, opened.index⟩
  · exact opened

theorem Open.step (opened : p.Open entries) {edit : Edit} (stays : p.Stays edit) : (p.step score edit).Open entries := by
  obtain ⟨buffer, index⟩ := opened
  cases edit with
  | paste text =>
      simp only [Palette.step, paste, buffer]
      exact ⟨rfl, index⟩
  | key code ctrl =>
      change Open entries (p.key score code ctrl).1
      unfold Palette.key
      rw [buffer]
      cases code with
      | char c =>
          cases ctrl with
          | true => exact ⟨buffer, index⟩
          | false => exact ⟨rfl, index⟩
      | backspace => exact ⟨rfl, index⟩
      | up => exact ⟨rfl, index⟩
      | down => exact ⟨rfl, index⟩
      | tab => exact Open.complete ⟨buffer, index⟩
      | enter => exact absurd rfl stays.1
      | esc => exact absurd rfl stays.2
      | _ => exact ⟨buffer, index⟩

theorem enter_open (entries : List Entry) (history : History) : (enter entries history).Open entries := ⟨rfl, rfl⟩

theorem Open.enter (opened : p.Open entries) (ctrl : Bool) :
    (p.key score .enter ctrl).2 = some (String.ofList p.query) := by
  simp only [key, opened.buffer]

theorem Open.overlay (opened : p.Open entries) :
    p.overlay score =
      some ⟨p.query, found score entries p.query, min p.selected ((found score entries p.query).length - 1), entries⟩ := by
  simp only [Palette.overlay, opened.buffer, opened.index, found]

/-! ## Completion -/

variable (score) in
/-- Tab inserts whatever entry the overlay highlights. -/
def Completes (termWidth termHeight : Nat) (p : Palette) : Prop :=
  ∀ overlay entry, p.overlay score = some overlay → overlay.highlighted termWidth termHeight = some entry →
    (p.key score .tab false).1 =
      { p with buffer := some entry.payload.toList, query := entry.payload.toList, selected := 0 }

theorem found_length (score : List Char → String → Option Int) (entries : List Entry) (query : List Char) :
    (found score entries query).length ≤ 6 := by
  unfold found FuzzyIndex.search
  split
  · rw [List.length_map]
    exact List.length_take_le _ _
  · exact List.length_take_le _ _

theorem Open.picked (opened : p.Open entries) :
    p.picked score = (found score entries p.query)[p.selected]?.bind fun m => entries[m.index]? := by
  simp only [Palette.picked, opened.index, Option.bind_some, found]

theorem Open.tab (opened : p.Open entries) : (p.key score .tab false).1 = p.complete score := by
  simp only [key, opened.buffer]

/-- The highlighted row is the inserted one exactly while the selection is on a match. -/
theorem Open.completes_iff (opened : p.Open entries) {termWidth termHeight : Nat}
    (large : ¬(termWidth < 10 ∨ termHeight < 8)) :
    p.Completes score termWidth termHeight ↔ OnMatch p.selected (found score entries p.query) := by
  have few := found_length score entries p.query
  unfold Completes OnMatch
  rw [opened.overlay, opened.tab]
  constructor
  · intro completes
    by_cases none : found score entries p.query = []
    · exact .inl none
    · refine .inr (Nat.lt_of_not_le fun past => ?_)
      have some := List.length_pos_iff.mpr none
      have last : min p.selected ((found score entries p.query).length - 1) < (found score entries p.query).length := by
        omega
      have row := @PaletteOverlayState.highlighted_eq
        ⟨p.query, found score entries p.query, min p.selected ((found score entries p.query).length - 1), entries⟩
        termWidth termHeight large few last
      have listed := FuzzyIndex.search_index (List.getElem_mem last)
      rw [List.getElem?_eq_getElem listed] at row
      have inserted := completes _ _ rfl row
      have missing : p.picked score = .none := by
        rw [opened.picked, List.getElem?_eq_none past, Option.bind_none]
      simp only [Palette.complete, missing] at inserted
      have reset : p.selected = 0 := congrArg Palette.selected inserted
      omega
  · rintro onMatch overlay entry equal row
    obtain rfl := Option.some.inj equal
    rcases onMatch with none | inside
    · rw [PaletteOverlayState.highlighted_none (.inr (.inr none))] at row
      nomatch row
    · have same : min p.selected ((found score entries p.query).length - 1) = p.selected := by omega
      rw [PaletteOverlayState.highlighted_eq large few (by rw [same]; exact inside)] at row
      simp only [same] at row
      have chosen : p.picked score = some entry := by
        rw [opened.picked, List.getElem?_eq_getElem inside, Option.bind_some, row]
      simp only [Palette.complete, chosen]

theorem completes_small {termWidth termHeight : Nat} (small : termWidth < 10 ∨ termHeight < 8) :
    p.Completes score termWidth termHeight := by
  intro overlay entry _ row
  rw [PaletteOverlayState.highlighted_none (by rcases small with narrow | low; exacts [.inl narrow, .inr (.inl low)])] at row
  nomatch row

/-! ## Runs -/

theorem onMatch_zero («matches» : List Match) : OnMatch 0 «matches» := by
  cases «matches» with
  | nil => exact .inl rfl
  | cons => exact .inr (Nat.succ_pos _)

/-- Steady edits keep the selection on the matches. -/
theorem Open.onMatch_step (opened : p.Open entries) (onMatch : OnMatch p.selected (found score entries p.query))
    {edit : Edit} (steady : p.Steady score edit) :
    OnMatch (p.step score edit).selected (found score entries (p.step score edit).query) := by
  obtain ⟨buffer, index⟩ := opened
  obtain ⟨stays, steady⟩ := steady
  cases edit with
  | paste text =>
      have kept : (p.paste text).selected = p.selected := by simp only [paste, buffer]
      change OnMatch (p.paste text).selected _
      rw [kept]
      exact steady entries index
  | key code ctrl =>
      cases code with
      | char c =>
          cases ctrl with
          | true => simpa only [Palette.step, key, buffer, if_true] using onMatch
          | false =>
              simp only [Palette.step, key, buffer, Bool.false_eq_true, if_false]
              exact onMatch_zero _
      | backspace =>
          simp only [Palette.step, key, buffer]
          exact onMatch_zero _
      | up =>
          simp only [Palette.step, key, buffer]
          exact onMatch.imp_right fun inside => by omega
      | down =>
          simp only [Palette.step, key, buffer]
          exact (steady entries index).imp_right fun inside => by omega
      | tab =>
          simp only [Palette.step, key, buffer, Palette.complete]
          split
          · exact onMatch_zero _
          · exact onMatch
      | enter => exact absurd rfl stays.1
      | esc => exact absurd rfl stays.2
      | _ => simpa only [Palette.step, key, buffer] using onMatch

/-! ## Panes -/

theorem isDigit_of_mem_toString {pid : Nat} {c : Char} (member : c ∈ (toString pid).toList) : c.isDigit = true := by
  rw [show (toString pid).toList = Nat.toDigits 10 pid from Nat.toList_repr] at member
  exact Nat.isDigit_of_mem_toDigits (by omega) (by omega) member

/-- A number is no direction. -/
theorem dirParse_toString (pid : Nat) : Commands.Dir.parse (toString pid) = none := by
  have flag {text : String} (dash : '-' ∈ text.toList) : toString pid ≠ text := by
    rintro equal
    rw [← equal] at dash
    exact absurd (isDigit_of_mem_toString dash) (by decide)
  have other {upper lower : String} (dash : '-' ∈ upper.toList) (dash' : '-' ∈ lower.toList) :
      ¬(toString pid = upper ∨ toString pid = lower) := by
    rintro (equal | equal)
    · exact flag dash equal
    · exact flag dash' equal
  unfold Commands.Dir.parse
  rw [if_neg (other (by decide) (by decide)), if_neg (other (by decide) (by decide)),
    if_neg (other (by decide) (by decide)), if_neg (other (by decide) (by decide))]

theorem spells_toString (pid : Nat) : Commands.Spells (toString pid) (toString pid) := by
  refine .plain ?_ fun c member => Commands.isPlain_of_isDigit (isDigit_of_mem_toString member)
  rw [show (toString pid).toList = Nat.toDigits 10 pid from Nat.toList_repr]
  exact Nat.toDigits_ne_nil

/-- The parser of commands refuses the payload of a pane. -/
theorem parse_paneEntry {G : Type} (panes : PaneMap G) (pid : Nat) :
    Commands.parse (paneEntry panes pid).payload = .error (.invalidArgument "select-pane" (toString pid)) := by
  have line : Commands.Line ("select-pane " ++ toString pid) ["select-pane", toString pid] :=
    .word "select-pane" (by decide) (by decide) (by rw [String.append_assoc]; rfl) (.last (spells_toString pid))
  have direction : Commands.parseDirOnly [toString pid] "select-pane" = .error (.invalidArgument "select-pane" (toString pid)) := by
    simp only [Commands.parseDirOnly, dirParse_toString]
  have tokens : Commands.parseTokens ["select-pane", toString pid] =
      (Commands.parseDirOnly [toString pid] "select-pane").map .selectPane := rfl
  change Commands.parse ("select-pane " ++ toString pid) = _
  simp only [Commands.parse, line.tokenize, bind, Except.bind, tokens, direction]
  rfl

/-- What the palette shows and what it does. Enter executes the query on display;
Tab inserts the highlighted row exactly while the selection is on the matches, so
always after steady edits; and executing the entry of a pane focuses the pane only
if it is active already. -/
theorem palette_shows (score : List Char → String → Option Int) (entries : List Entry) (history : History) :
    (∀ p, Machine.Run (step score) Stays (enter entries history) p →
      (∀ overlay, p.overlay score = some overlay → ∀ ctrl, (p.key score .enter ctrl).2 = some (String.ofList overlay.query)) ∧
        ∀ termWidth termHeight, p.Completes score termWidth termHeight ↔
          termWidth < 10 ∨ termHeight < 8 ∨ OnMatch p.selected (found score entries p.query)) ∧
      (∀ p, Machine.Run (step score) (Steady score) (enter entries history) p →
        ∀ termWidth termHeight, p.Completes score termWidth termHeight) ∧
      ∀ {R G : Type} [RatioOps R] [Vt100 G] (format : SnapshotFormat R) (world : World) (c : Core R G)
        (tabAction : Option TabAction), ∀ pid ∈ c.session.tab.layout.paneIds,
        ((c.executeCommand format world (paneEntry c.session.tab.panes pid).payload tabAction).core.session.tab.activePane = pid ↔
          c.session.tab.activePane = pid) := by
  have opened {p : Palette} (run : Machine.Run (step score) Stays (enter entries history) p) : p.Open entries :=
    run.invariant (fun _ _ opened stays => opened.step stays) (enter_open entries history)
  have completes {p : Palette} (opened : p.Open entries) (termWidth termHeight : Nat) :
      p.Completes score termWidth termHeight ↔
        termWidth < 10 ∨ termHeight < 8 ∨ OnMatch p.selected (found score entries p.query) := by
    by_cases small : termWidth < 10 ∨ termHeight < 8
    · refine iff_of_true (completes_small small) ?_
      rcases small with narrow | low
      · exact .inl narrow
      · exact .inr (.inl low)
    · rw [opened.completes_iff small]
      obtain ⟨wide, high⟩ := not_or.mp small
      simp only [wide, high, false_or]
  refine ⟨fun p run => ⟨?_, completes (opened run)⟩, fun p run termWidth termHeight => ?_, ?_⟩
  · intro overlay equal ctrl
    rw [(opened run).overlay] at equal
    obtain rfl := Option.some.inj equal
    exact (opened run).enter ctrl
  · have kept :=
      @Machine.Run.invariant _ _ _ _ (fun p => p.Open entries ∧ OnMatch p.selected (found score entries p.query))
        (fun _ _ inv steady => ⟨inv.1.step steady.1, inv.1.onMatch_step inv.2 steady⟩) _ _
        ⟨enter_open entries history, onMatch_zero _⟩ run
    exact (completes kept.1 termWidth termHeight).mpr (.inr (.inr kept.2))
  · intro R G _ _ format world c tabAction pid _
    rw [Core.executeCommand_error format world c tabAction (parse_paneEntry c.session.tab.panes pid)]

/-- Down once too often: the overlay still highlights the last match, Tab does nothing.
The entry of a pane is no command. -/
theorem down_past :
    let score : List Char → String → Option Int := fun _ _ => none
    let p := (step score · (.key .down false))^[6] (enter (Keymap.vocabulary.map (Entry.new .command)) {})
    Machine.Run (step score) Stays (enter (Keymap.vocabulary.map (Entry.new .command)) {}) p ∧
      (p.overlay score).bind (·.highlighted 80 24) = some (Entry.new .command "kill-window") ∧
      (p.key score .tab false).1 = p ∧
      Commands.parse (@paneEntry Unit ∅ 1).payload = .error (.invalidArgument "select-pane" "1") := by
  have down (p : Palette) : p.Stays (.key .down false) := ⟨by decide, by decide⟩
  refine ⟨?_, by decide +kernel, by decide +kernel, parse_paneEntry ∅ 1⟩
  exact .step (.step (.step (.step (.step (.step .start _ (down _)) _ (down _)) _ (down _)) _ (down _)) _ (down _)) _
    (down _)

end Palette

end Ezpn
