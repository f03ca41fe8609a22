import Ezpn.CopyMode
import Ezpn.Pane.Dump

/-!
# Scrolling in copy mode

`handle_key` asks for scrolls through its callbacks. The server stubs these out and
scrolls the pane itself, from a table of its own, before it calls `handle_key`.
-/

set_option autoImplicit false

namespace Ezpn

/-- A scroll that the server makes. -/
inductive ServerScroll where
  | scrollUp (lines : Nat)
  | scrollDown (lines : Nat)
  | snapToBottom
  deriving DecidableEq

namespace ServerScroll

def run {G : Type} [Vt100 G] : ServerScroll → Pane G → Pane G
  | scrollUp lines, pane => pane.scrollUp lines
  | scrollDown lines, pane => pane.scrollDown lines
  | snapToBottom, pane => pane.snapToBottom

/-- The callback that stands for the scroll. -/
def call : ServerScroll → ScrollCall
  | scrollUp lines => .up lines
  | scrollDown lines => .down lines
  | snapToBottom => .down usizeMax

end ServerScroll

def ScrollCall.run {G : Type} [Vt100 G] : ScrollCall → Pane G → Pane G
  | up lines, pane => pane.scrollUp lines
  | down lines, pane => pane.scrollDown lines

/-- A scroll does what its callback is for; offsets are machine words. -/
theorem ServerScroll.run_call {G : Type} [Vt100 G] (scroll : ServerScroll) {pane : Pane G}
    (word : pane.scrollOffset ≤ usizeMax) : scroll.run pane = scroll.call.run pane := by
  cases scroll with
  | scrollUp lines => rfl
  | scrollDown lines => rfl
  | snapToBottom => simp [run, call, ScrollCall.run, Pane.snapToBottom, Pane.scrollDown, Nat.sub_eq_zero_of_le word]

namespace CopyModeState

/-- The scroll at the top of the copy mode branch of `process_key`; releases do not get there. -/
def serverScroll (key : CopyKey) (state : CopyModeState) : Option ServerScroll :=
  if key.release then none
  else match key.code with
    | .char 'k' | .up => if state.cursorRow = 0 then some (.scrollUp 1) else none
    | .char 'j' | .down => if state.cursorRow ≥ state.paneRows - 1 then some (.scrollDown 1) else none
    | .char 'g' => if key.ctrl then none else some (.scrollUp usizeMax)
    | .char 'G' => some .snapToBottom
    | .char 'u' => if key.ctrl then some (.scrollUp (state.paneRows / 2)) else none
    | .char 'd' => if key.ctrl then some (.scrollDown (state.paneRows / 2)) else none
    | .pageUp => some (.scrollUp state.paneRows)
    | .pageDown => some (.scrollDown state.paneRows)
    | _ => none

/-- What `handle_key` asks for. -/
def requestedScroll (tables : UnicodeTables) (screen : Grid) (key : CopyKey) (state : CopyModeState) : Option ScrollCall :=
  (state.handleKey tables screen key).bind (·.scroll)

/-- The requests, as a table. -/
def motionScroll (key : CopyKey) (state : CopyModeState) : Option ScrollCall :=
  match key.code with
  | .char 'k' | .up => if state.cursorRow > 0 then none else some (.up 1)
  | .char 'j' | .down => if state.cursorRow + 1 < state.paneRows then none else some (.down 1)
  | .char 'g' => some (.up usizeMax)
  | .char 'G' => some (.down usizeMax)
  | .char 'u' => if key.ctrl then some (.up (state.paneRows / 2)) else none
  | .char 'd' => if key.ctrl then some (.down (state.paneRows / 2)) else none
  | .pageUp => some (.up state.paneRows)
  | .pageDown => some (.down state.paneRows)
  | _ => none

/-- The prompt never asks for a scroll. -/
theorem searchKey_scroll (tables : UnicodeTables) (screen : Grid) (key : CopyKey) (forward : Bool) (query : List Char)
    (state : CopyModeState) : (state.searchKey tables screen key forward query).bind (·.scroll) = none := by
  unfold searchKey
  split
  · cases { state with lastSearch := some query, lastSearchForward := forward }.executeSearch tables screen <;> rfl
  · rfl
  · cases { state with phase := .search forward query.dropLast }.executeSearch tables screen <;> rfl
  · split
    · rfl
    · rename_i c _ _
      cases { state with phase := .search forward (query ++ [c]) }.executeSearch tables screen <;> rfl
  · rfl

/-- Outside of the prompt the requests follow the table, whatever else the key does. -/
theorem motionKey_scroll (tables : UnicodeTables) (screen : Grid) (key : CopyKey) (state : CopyModeState) :
    (state.motionKey tables screen key).bind (·.scroll) = state.motionScroll key := by
  have yanks (s : CopyModeState) : (s.yank screen).bind (·.scroll) = none := by
    unfold yank
    rcases s.yankText screen with _ | _ | _ <;> rfl
  have moves (moved : Option CopyModeState) (f : CopyModeState → CopyModeState) :
      (moved.bind fun next => some ({ state := f next } : CopyOutcome)).bind (·.scroll) = none := by
    cases moved <;> rfl
  unfold motionKey
  split
  case h_5 | h_6 =>
    rename_i code
    simp only [motionScroll, code]
    by_cases above : state.cursorRow + 1 < state.paneRows
    · rw [if_pos above, if_pos above]
      rfl
    · rw [if_neg above, if_neg above]
      rfl
  case h_7 | h_8 =>
    rename_i code
    simp only [motionScroll, code]
    by_cases below : state.cursorRow > 0
    · rw [if_pos below, if_pos below]
      cases sub? state.cursorRow 1 <;> rfl
    · rw [if_neg below, if_neg below]
      rfl
  case h_30 | h_31 =>
    rename_i code
    simp only [motionScroll, code]
    by_cases searched : state.lastSearch.isSome = true
    · rw [if_pos searched]
      exact moves _ _
    · rw [if_neg searched]
      rfl
  -- no other key reads the scroll state
  all_goals rename_i code; simp only [motionScroll, code]
  all_goals first
    | rfl
    | exact yanks _
    | exact moves _ _
    | (split <;> rfl)

theorem requestedScroll_eq (tables : UnicodeTables) (screen : Grid) (key : CopyKey) (state : CopyModeState) :
    state.requestedScroll tables screen key =
      if key.release || state.searching then none else (state.clamp screen).motionScroll key := by
  unfold requestedScroll handleKey
  cases released : key.release with
  | true => rfl
  | false =>
      simp only [Bool.false_eq_true, if_false, Bool.false_or]
      cases phase : state.phase with
      | search forward query =>
          have prompt : (state.clamp screen).phase = .search forward query := by simp only [clamp, phase]
          simp only [prompt, searching, phase, if_true]
          exact searchKey_scroll tables screen key forward query _
      | navigate | visualChar | visualLine =>
          have elsewhere : ∀ forward query, (state.clamp screen).phase ≠ .search forward query := by
            simp only [clamp, phase]
            exact fun _ _ other => nomatch other
          simp only [searching, phase, Bool.false_eq_true, if_false]
          exact motionKey_scroll tables screen key _

/-- The two tables agree on a key. With the prompt open the server's table must ask for nothing;
otherwise it must not matter that it reads the stored cursor and size instead of the actual ones,
and that it leaves out Ctrl-g. -/
def scrollsAlike (height : Nat) (key : CopyKey) (state : CopyModeState) : Bool :=
  key.release || match key.code with
    | .char 'k' | .up => if state.searching then state.cursorRow ≠ 0 else state.cursorRow = 0 || height ≠ 1
    | .char 'j' | .down =>
        if state.searching then state.cursorRow + 1 < state.paneRows
        else (state.cursorRow + 1 < state.paneRows) == (state.cursorRow + 1 < height)
    | .char 'g' => state.searching == key.ctrl
    | .char 'G' => !state.searching
    | .char 'u' | .char 'd' => !key.ctrl || (!state.searching && state.paneRows / 2 = height / 2)
    | .pageUp | .pageDown => !state.searching && state.paneRows = height
    | _ => true

/-- The server makes the scroll that `handle_key` asks for just where the two tables agree. -/
theorem serverScroll_requested_iff (tables : UnicodeTables) (screen : Grid) (key : CopyKey) (state : CopyModeState) :
    (state.serverScroll key).map ServerScroll.call = state.requestedScroll tables screen key ↔
      state.scrollsAlike screen.height key = true := by
  rw [requestedScroll_eq]
  have positive := screen.height_pos
  have rows : (state.clamp screen).paneRows = screen.height := rfl
  have row : (state.clamp screen).cursorRow = min state.cursorRow (screen.height - 1) := rfl
  cases released : key.release with
  | true => simp [serverScroll, scrollsAlike, released]
  | false =>
      simp only [serverScroll, scrollsAlike, motionScroll, rows, row, released, Bool.false_or, Bool.false_eq_true, if_false]
      cases prompt : state.searching with
      | true =>
          split <;> simp [ServerScroll.call]
      | false =>
          split <;> simp [ServerScroll.call]
          case h_1 | h_2 | h_3 | h_4 => split <;> split <;> simp <;> omega
          case h_7 | h_8 => cases key.ctrl <;> simp

/-- The prompt of a search forward, with nothing typed, and the cursor at the bottom of ten rows. -/
def emptyPrompt : CopyModeState := { phase := .search true [], cursorRow := 9, paneRows := 10, paneCols := 20 }

/-- A letter typed into the prompt throws the view back to the bottom. -/
theorem emptyPrompt_snaps : ∃ (tables : UnicodeTables) (screen : Grid),
    emptyPrompt.serverScroll { code := .char 'G' } = some .snapToBottom ∧
      emptyPrompt.requestedScroll tables screen { code := .char 'G' } = none := by
  refine ⟨⟨Char.isAlphanum, fun c => [c.toLower], fun _ _ => false, fun _ => List.cons_ne_nil _ _⟩,
    (StillDisplay.blank 10 20).grid, rfl, ?_⟩
  rw [requestedScroll_eq]
  rfl

end CopyModeState

end Ezpn
