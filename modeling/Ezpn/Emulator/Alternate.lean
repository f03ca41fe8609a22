import Ezpn.Emulator.Safety
import Ezpn.Terminal.Vt100

/-!
# The alternate screen

While the alternate screen is in use, what a program prints does not reach the main
screen, and leaving it brings the main screen back with its cursor. The bit that
says which screen is in use is the one that the terminal's state is told by.
-/

set_option autoImplicit false

namespace Ezpn.Emulator

open Checked (Ensures)

/-- A reset, or a private sequence that goes back to the main screen. -/
def Call.Leaves : Call → Prop
  | .escDispatch intermediates b => intermediates = [] ∧ b = 0x63
  | .csiDispatch params intermediates c =>
      intermediates.head? = some 0x3F ∧ c = 'l' ∧ ([47] ∈ params ∨ [1049] ∈ params)
  | _ => False

/-- A call that saves the cursor, and the attributes with it. -/
def Call.Saves : Call → Prop
  | .escDispatch intermediates b => intermediates = [] ∧ b = 0x37
  | .csiDispatch params intermediates c => intermediates.head? = some 0x3F ∧ c = 'h' ∧ [1049] ∈ params
  | _ => False

def Event.Saves : Event → Prop
  | .call made => made.Saves
  | _ => False

/-- Calls that stay on the alternate screen, and scrolling; no resizes, which reach both screens. -/
def Event.Stays : Event → Prop
  | .call made => ¬ made.Leaves
  | .setSize _ _ => False
  | .setScrollback _ => True

namespace Screen

/-! ## Apart from the main screen -/

variable {Quiet : Prop}

/-- The alternate screen is still in use, and the main grid is what it was. Where nothing
is saved meanwhile, the attributes are saved as they were. -/
structure Apart (Quiet : Prop) (screen next : Screen) : Prop where
  main : next.main = screen.main
  inUse : next.modes.alternateScreen = true
  saved : Quiet → next.savedAttrs = screen.savedAttrs

/-- Whatever the computation returns is apart. -/
def StaysApart (Quiet : Prop) (screen : Screen) (result : Option Screen) : Prop :=
  ∀ next, result = some next → Apart Quiet screen next

variable {screen : Screen}

theorem staysApart_some {next : Screen} (apart : Apart Quiet screen next) : StaysApart Quiet screen (some next) :=
  fun _ same => Option.some.inj same ▸ apart

theorem staysApart_bind {α : Type} {x : Option α} {f : α → Option Screen} (each : ∀ a, StaysApart Quiet screen (f a)) :
    StaysApart Quiet screen (x >>= f) := by
  intro next result
  obtain ⟨a, -, rest⟩ := Option.bind_eq_some_iff.mp result
  exact each a next rest

theorem Apart.trans {next last : Screen} (earlier : Apart Quiet screen next) (later : Apart Quiet next last) : Apart Quiet screen last :=
  ⟨later.main.trans earlier.main, later.inUse, fun quiet => (later.saved quiet).trans (earlier.saved quiet)⟩

theorem staysApart_tryGrid (used : screen.modes.alternateScreen = true) (f : Grid → Option Grid) :
    StaysApart Quiet screen (screen.tryGrid f) := by
  intro next result
  rw [Screen.tryGrid, if_pos used] at result
  obtain ⟨grid, -, rfl⟩ := Option.map_eq_some_iff.mp result
  exact ⟨rfl, used, fun _ => rfl⟩

theorem apart_onGrid (used : screen.modes.alternateScreen = true) (f : Grid → Grid) : Apart Quiet screen (screen.onGrid f) :=
  staysApart_tryGrid used _ _ (onGrid_eq f screen)

theorem apart_self (used : screen.modes.alternateScreen = true) : Apart Quiet screen screen := ⟨rfl, used, fun _ => rfl⟩

theorem apart_enterAlternateGrid (used : screen.modes.alternateScreen = true) :
    Apart Quiet screen screen.enterAlternateGrid :=
  have viewed : Apart Quiet screen _ := apart_onGrid used (.setScrollback 0)
  ⟨viewed.main, rfl, viewed.saved⟩

theorem apart_decsc (used : screen.modes.alternateScreen = true) (loud : ¬ Quiet) : Apart Quiet screen screen.decsc :=
  have saved : Apart Quiet screen _ := apart_onGrid used .saveCursor
  ⟨saved.main, saved.inUse, fun quiet => absurd quiet loud⟩

theorem apart_decrc (used : screen.modes.alternateScreen = true) : Apart Quiet screen screen.decrc :=
  have restored : Apart Quiet screen _ := apart_onGrid used .restoreCursor
  ⟨restored.main, restored.inUse, restored.saved⟩

theorem apart_decsetParam (used : screen.modes.alternateScreen = true) {param : List Nat}
    (loud : Quiet → param ≠ [1049]) : Apart Quiet screen (screen.decsetParam param) := by
  unfold Screen.decsetParam
  split
  case h_2 => exact apart_onGrid used _
  case h_5 => exact apart_enterAlternateGrid used
  case h_11 =>
    have saved := apart_decsc used fun quiet => loud quiet rfl
    have cleared : Apart Quiet screen.decsc { screen.decsc with alternate := screen.decsc.alternate.clear } :=
      ⟨rfl, saved.inUse, fun _ => rfl⟩
    exact (saved.trans cleared).trans (apart_enterAlternateGrid cleared.inUse)
  all_goals exact ⟨rfl, used, fun _ => rfl⟩

theorem apart_clearMouse (used : screen.modes.alternateScreen = true) (mode : MouseProtocolMode)
    (encoding : MouseProtocolEncoding) :
    Apart Quiet screen (screen.clearMouseMode mode) ∧ Apart Quiet screen (screen.clearMouseEncoding encoding) := by
  unfold Screen.clearMouseMode Screen.clearMouseEncoding
  constructor
  · split <;> exact ⟨rfl, used, fun _ => rfl⟩
  · split <;> exact ⟨rfl, used, fun _ => rfl⟩

theorem apart_decrstParam (used : screen.modes.alternateScreen = true) {param : List Nat}
    (stays : ¬ (param = [47] ∨ param = [1049])) : Apart Quiet screen (screen.decrstParam param) := by
  unfold Screen.decrstParam
  split
  case h_2 => exact apart_onGrid used _
  case h_5 => exact absurd (.inl rfl) stays
  case h_11 => exact absurd (.inr rfl) stays
  all_goals
    first
    | exact ⟨rfl, used, fun _ => rfl⟩
    | exact (apart_clearMouse used _ .default).1
    | exact (apart_clearMouse used .none _).2

theorem apart_foldl {step : Screen → List Nat → Screen} {params : List (List Nat)}
    (each : ∀ screen : Screen, screen.modes.alternateScreen = true → ∀ param ∈ params,
      Apart Quiet screen (step screen param))
    (used : screen.modes.alternateScreen = true) : Apart Quiet screen (params.foldl step screen) := by
  induction params generalizing screen with
  | nil => exact apart_self used
  | cons param params ih =>
      have first := each screen used param (List.mem_cons_self ..)
      exact first.trans (ih (fun screen used other member => each screen used other (List.mem_cons_of_mem _ member))
        first.inUse)

theorem staysApart_csi (used : screen.modes.alternateScreen = true) (params : List (List Nat)) (c : Char) :
    StaysApart Quiet screen (screen.csi params c) := by
  have grid (f : Grid → Grid) : StaysApart Quiet screen (some (screen.onGrid f)) := staysApart_some (apart_onGrid used f)
  have drawn (f : Grid → Option Grid) : StaysApart Quiet screen (screen.tryGrid f) := staysApart_tryGrid used f
  have self : StaysApart Quiet screen (some screen) := staysApart_some (apart_self used)
  unfold Screen.csi Screen.ed Screen.el Screen.sgr
  dsimp only
  split
  all_goals try split
  all_goals
    first
    | exact drawn _
    | exact grid _
    | exact self
    | exact staysApart_bind fun _ => grid _
    | exact staysApart_bind fun _ => staysApart_bind fun _ => grid _
    | exact staysApart_some ⟨rfl, used, fun _ => rfl⟩

theorem staysApart_csiPrivate (used : screen.modes.alternateScreen = true) {params : List (List Nat)} {c : Char}
    (stays : ¬ (c = 'l' ∧ ([47] ∈ params ∨ [1049] ∈ params))) (loud : Quiet → ¬ (c = 'h' ∧ [1049] ∈ params)) :
    StaysApart Quiet screen (screen.csiPrivate params c) := by
  unfold Screen.csiPrivate
  split
  · exact staysApart_csi used params 'J'
  · exact staysApart_csi used params 'K'
  · refine staysApart_some (apart_foldl (fun screen used param member => apart_decsetParam used ?_) used)
    rintro quiet rfl
    exact loud quiet ⟨rfl, member⟩
  · refine staysApart_some (apart_foldl (fun screen used param member => apart_decrstParam used ?_) used)
    rintro (rfl | rfl)
    · exact stays ⟨rfl, .inl member⟩
    · exact stays ⟨rfl, .inr member⟩
  · exact staysApart_some (apart_self used)

theorem staysApart_escDispatch (used : screen.modes.alternateScreen = true) {intermediates : List Nat} {b : Nat}
    (stays : ¬ (intermediates = [] ∧ b = 0x63)) (loud : Quiet → ¬ (intermediates = [] ∧ b = 0x37)) :
    StaysApart Quiet screen (screen.escDispatch intermediates b) := by
  unfold Screen.escDispatch
  split_ifs with longer save restore keypad plain index reset
  · exact staysApart_some (apart_self used)
  · exact staysApart_some (apart_decsc used fun quiet => loud quiet ⟨not_not.mp longer, save⟩)
  · exact staysApart_some (apart_decrc used)
  · exact staysApart_some ⟨rfl, used, fun _ => rfl⟩
  · exact staysApart_some ⟨rfl, used, fun _ => rfl⟩
  · exact staysApart_tryGrid used _
  · exact absurd ⟨not_not.mp longer, reset⟩ stays
  · exact staysApart_some (apart_self used)

theorem staysApart_perform {width : Width} (used : screen.modes.alternateScreen = true) {call : Call}
    (stays : ¬ call.Leaves) (loud : Quiet → ¬ call.Saves) : StaysApart Quiet screen (screen.perform width call) := by
  have self : StaysApart Quiet screen (some screen) := staysApart_some (apart_self used)
  cases call with
  | print c =>
      show StaysApart Quiet screen (screen.print width c)
      unfold Screen.print Screen.text
      split_ifs
      all_goals first | exact self | exact staysApart_tryGrid used _
  | execute b =>
      show StaysApart Quiet screen (screen.execute b)
      unfold Screen.execute
      split
      all_goals first | exact self | exact staysApart_tryGrid used _ | exact staysApart_some (apart_onGrid used _)
  | escDispatch intermediates b => exact staysApart_escDispatch used stays loud
  | csiDispatch params intermediates c =>
      show StaysApart Quiet screen (screen.csiDispatch params intermediates c)
      unfold Screen.csiDispatch
      split
      · exact staysApart_csi used params c
      · rename_i first
        exact staysApart_csiPrivate used (fun leaves => stays ⟨first, leaves⟩) fun quiet saves => loud quiet ⟨first, saves⟩
      · exact self
  | oscDispatch params => exact self

/-- On the alternate screen, a run of calls that neither leaves nor resets, with the view scrolled between them. -/
theorem staysApart_run {width : Width} (used : screen.modes.alternateScreen = true) {events : List Event}
    (stay : ∀ event ∈ events, event.Stays) (loud : Quiet → ∀ event ∈ events, ¬ event.Saves) :
    StaysApart Quiet screen (screen.run width events) := by
  induction events generalizing screen with
  | nil => exact staysApart_some (apart_self used)
  | cons event events ih =>
      intro next result
      obtain ⟨middle, first, rest⟩ := Option.bind_eq_some_iff.mp result
      have apart : Apart Quiet screen middle := by
        have stays := stay event (List.mem_cons_self ..)
        have quiet := fun quiet => loud quiet event (List.mem_cons_self ..)
        cases event with
        | call call => exact staysApart_perform used stays quiet middle first
        | setSize rows cols => exact stays.elim
        | setScrollback rows => exact staysApart_some (apart_onGrid used _) middle first
      exact apart.trans (ih apart.inUse (fun other member => stay other (List.mem_cons_of_mem _ member))
        (fun quiet other member => loud quiet other (List.mem_cons_of_mem _ member)) next rest)

/-! ## There and back -/

/-- `CSI ? 1049 h` and `CSI ? 1049 l`. -/
def enterFullScreen : Event := .call (.csiDispatch [[1049]] [0x3F] 'h')

def leaveFullScreen : Event := .call (.csiDispatch [[1049]] [0x3F] 'l')

theorem onGrid_main (onMain : screen.modes.alternateScreen = false) (f : Grid → Grid) :
    screen.onGrid f = { screen with main := f screen.main } := if_neg (by simp [onMain])

/-- The main screen is left with its cursor saved and its end in view. -/
theorem decsetParam_enter (onMain : screen.modes.alternateScreen = false) :
    screen.decsetParam [1049] = { screen with
      main := (screen.main.setScrollback 0).saveCursor
      alternate := screen.alternate.clear.allocateRows
      savedAttrs := screen.attrs
      modes := { screen.modes with alternateScreen := true } } := by
  have saved : screen.decsc = { screen with main := screen.main.saveCursor, savedAttrs := screen.attrs } := by
    rw [Screen.decsc, onGrid_main onMain]
  have cleared : Screen.modes { screen.decsc with alternate := screen.decsc.alternate.clear } = screen.modes := by rw [saved]
  show enterAlternateGrid { screen.decsc with alternate := screen.decsc.alternate.clear } = _
  rw [Screen.enterAlternateGrid, onGrid_main (by rw [cleared]; exact onMain), saved]
  rfl

theorem decrstParam_leave (screen : Screen) :
    screen.decrstParam [1049] = { screen with
      main := screen.main.restoreCursor
      attrs := screen.savedAttrs
      modes := { screen.modes with alternateScreen := false } } := by
  show screen.exitAlternateGrid.decrc = _
  rw [Screen.decrc, onGrid_main rfl]
  rfl

/-- From the main screen, a full-screen program that enters the alternate screen, draws
whatever it likes and leaves it again brings the main screen back as it was: its rows,
its history and its cursor, in view from the bottom. The attributes are those of before
as well, where the program has not saved the cursor in between. -/
theorem full_screen_round_trip {width : Width} (lawful : width.Lawful) (sound : screen.Sound)
    (onMain : screen.modes.alternateScreen = false) {events : List Event} (stay : ∀ event ∈ events, event.Stays) :
    ∃ next, screen.run width (enterFullScreen :: events ++ [leaveFullScreen]) = some next ∧
      next.main = (screen.main.setScrollback 0).saveCursor ∧ next.grid = next.main ∧
      ((∀ event ∈ events, ¬ event.Saves) → next.attrs = screen.attrs) := by
  have entering := (sound.decsetParam [1049]).sound
  have shape := decsetParam_enter onMain
  generalize entered : screen.decsetParam [1049] = inside at entering shape
  have used : inside.modes.alternateScreen = true := by rw [shape]
  obtain ⟨drawn, drawing, drawnSound⟩ : Ensures (inside.run width events) Screen.Sound := by
    refine Checked.ensures_foldlM events (fun _ event member sound => sound.apply_sound lawful ?_) entering
    have stays := stay event member
    cases event with
    | call _ | setScrollback _ => trivial
    | setSize _ _ => exact stays.elim
  have apart : Apart (∀ event ∈ events, ¬ event.Saves) inside drawn := staysApart_run used stay id drawn drawing
  have left := decrstParam_leave drawn
  refine ⟨drawn.decrstParam [1049], ?_, ?_, ?_, fun quiet => ?_⟩
  · have first : screen.apply width enterFullScreen = some inside := congrArg some entered
    have last : drawn.apply width leaveFullScreen = some (drawn.decrstParam [1049]) := rfl
    show List.foldlM _ _ _ = _
    rw [List.cons_append, List.foldlM_cons, first]
    show List.foldlM _ _ _ = _
    rw [List.foldlM_append, show events.foldlM (Screen.apply width) inside = some drawn from drawing]
    show List.foldlM _ _ _ = _
    rw [List.foldlM_cons, last]
    rfl
  · rw [left]
    show drawn.main.restoreCursor = _
    rw [apart.main, shape]
    rfl
  · rw [left]
    rfl
  · rw [left]
    show drawn.savedAttrs = _
    rw [apart.saved quiet, shape]

/-- A word is typed on the alternate screen, and scrolled. -/
theorem editor_round_trip : ∃ next, (new { rows := 2, cols := 3 } 10).run plainWidth (enterFullScreen ::
      [.call (.print 'v'), .call (.print 'i'), .setScrollback 1, .call (.execute 10)] ++ [leaveFullScreen]) = some next ∧
    next.main = ((new { rows := 2, cols := 3 } 10).main.setScrollback 0).saveCursor ∧ next.grid = next.main ∧
    ((∀ event ∈ [Event.call (.print 'v'), .call (.print 'i'), .setScrollback 1, .call (.execute 10)], ¬ event.Saves) →
      next.attrs = {}) :=
  full_screen_round_trip plainWidth_lawful (new_sound ⟨by decide, by decide, by decide, by decide⟩ 10) rfl <| by
    simp [Event.Stays, Call.Leaves]

/-! ## Which screen is in use -/

/-- Whatever the computation returns has the alternate screen in use or not. -/
def Uses (result : Option Screen) (alternate : Bool) : Prop := ∀ next, result = some next → next.modes.alternateScreen = alternate

theorem uses_some {next : Screen} {alternate : Bool} (uses : next.modes.alternateScreen = alternate) :
    Uses (some next) alternate := fun _ same => Option.some.inj same ▸ uses

theorem uses_bind {α : Type} {x : Option α} {f : α → Option Screen} {alternate : Bool}
    (each : ∀ a, Uses (f a) alternate) : Uses (x >>= f) alternate := by
  intro next result
  obtain ⟨a, -, rest⟩ := Option.bind_eq_some_iff.mp result
  exact each a next rest

theorem uses_tryGrid (f : Grid → Option Grid) (screen : Screen) :
    Uses (screen.tryGrid f) screen.modes.alternateScreen := by
  intro next result
  unfold Screen.tryGrid at result
  split at result
  · obtain ⟨grid, -, rfl⟩ := Option.map_eq_some_iff.mp result
    rfl
  · obtain ⟨grid, -, rfl⟩ := Option.map_eq_some_iff.mp result
    rfl

@[simp] theorem onGrid_modes (f : Grid → Grid) (screen : Screen) : (screen.onGrid f).modes = screen.modes := by
  unfold Screen.onGrid
  split <;> rfl

theorem setScreen_other {param : List Nat} (other : param ≠ [47] ∧ param ≠ [1049]) (on alternate : Bool) :
    setScreen on alternate param = alternate := by simp [setScreen, other]

theorem decsetParam_alternateScreen (screen : Screen) (param : List Nat) :
    (screen.decsetParam param).modes.alternateScreen = setScreen true screen.modes.alternateScreen param := by
  unfold Screen.decsetParam
  split
  case h_13 => exact (setScreen_other ⟨by assumption, by assumption⟩ true _).symm
  all_goals simp [setScreen, Screen.enterAlternateGrid]

theorem decrstParam_alternateScreen (screen : Screen) (param : List Nat) :
    (screen.decrstParam param).modes.alternateScreen = setScreen false screen.modes.alternateScreen param := by
  have mode (mode : MouseProtocolMode) : (screen.clearMouseMode mode).modes = screen.modes := by
    unfold Screen.clearMouseMode
    split <;> rfl
  have encoding (encoding : MouseProtocolEncoding) : (screen.clearMouseEncoding encoding).modes = screen.modes := by
    unfold Screen.clearMouseEncoding
    split <;> rfl
  unfold Screen.decrstParam
  split
  case h_13 => exact (setScreen_other ⟨by assumption, by assumption⟩ false _).symm
  all_goals simp [setScreen, Screen.exitAlternateGrid, Screen.decrc, mode, encoding]

theorem foldl_alternateScreen {step : Screen → List Nat → Screen} {on : Bool}
    (each : ∀ screen param, (step screen param).modes.alternateScreen = setScreen on screen.modes.alternateScreen param)
    (params : List (List Nat)) (screen : Screen) :
    (params.foldl step screen).modes.alternateScreen = params.foldl (setScreen on) screen.modes.alternateScreen := by
  induction params generalizing screen with
  | nil => rfl
  | cons param params ih => rw [List.foldl_cons, List.foldl_cons, ih, each]

theorem uses_csi (params : List (List Nat)) (c : Char) (screen : Screen) :
    Uses (screen.csi params c) screen.modes.alternateScreen := by
  have grid (f : Grid → Grid) : Uses (some (screen.onGrid f)) screen.modes.alternateScreen :=
    uses_some (by rw [onGrid_modes])
  have drawn (f : Grid → Option Grid) := uses_tryGrid f screen
  have self : Uses (some screen) screen.modes.alternateScreen := uses_some rfl
  unfold Screen.csi Screen.ed Screen.el Screen.sgr
  dsimp only
  split
  all_goals try split
  all_goals
    first
    | exact drawn _
    | exact grid _
    | exact self
    | exact uses_bind fun _ => grid _
    | exact uses_bind fun _ => uses_bind fun _ => grid _
    | exact uses_some rfl

end Screen

/-- The calls that are made for one of the calls the terminal's state looks at. How the
`vte` crate splits text into characters does not matter. -/
def calls (decode : Bytes → List Char) : Perform → List Call
  | .print text => (decode text).map .print
  | .execute b => [.execute b.toNat]
  | .oscDispatch _ => [.oscDispatch []]
  | .escDispatch intermediates b => [.escDispatch (intermediates.map UInt8.toNat) b.toNat]
  | .csiDispatch params intermediates c => [.csiDispatch params (intermediates.map UInt8.toNat) (Char.ofNat c.toNat)]

namespace Screen

variable {width : Width}

theorem uses_print (c : Char) (screen : Screen) : Uses (screen.print width c) screen.modes.alternateScreen := by
  unfold Screen.print Screen.text
  split_ifs
  all_goals first | exact uses_some rfl | exact uses_tryGrid _ screen

theorem uses_execute (b : Nat) (screen : Screen) : Uses (screen.execute b) screen.modes.alternateScreen := by
  unfold Screen.execute
  split
  all_goals first | exact uses_some rfl | exact uses_tryGrid _ screen | exact uses_some (by rw [onGrid_modes])

theorem uses_escDispatch (intermediates : Bytes) (b : UInt8) (screen : Screen) :
    Uses (screen.escDispatch (intermediates.map UInt8.toNat) b.toNat)
      (Perform.screen screen.modes.alternateScreen (.escDispatch intermediates b)) := by
  cases intermediates with
  | cons i rest => exact uses_some rfl
  | nil =>
      show Uses _ (if b == 0x63 then false else screen.modes.alternateScreen)
      have same (k : UInt8) : b.toNat = k.toNat ↔ b = k := UInt8.toNat_inj
      unfold Screen.escDispatch
      rw [if_neg (by simp)]
      by_cases reset : b = 0x63
      · subst reset
        exact uses_some rfl
      · rw [if_neg (show ¬ (b == 0x63) = true by simpa using reset)]
        have kept : ¬ b.toNat = 0x63 := fun equal => reset ((same 0x63).mp equal)
        split_ifs
        all_goals
          first
          | exact uses_tryGrid _ screen
          | exact uses_some rfl
          | exact uses_some (by rw [Screen.decsc, onGrid_modes])
          | exact uses_some (by rw [Screen.decrc, onGrid_modes])

/-- The final byte of a sequence is a character of its own. -/
theorem charOfByte_inj {c k : UInt8} (same : Char.ofNat c.toNat = Char.ofNat k.toNat) : c = k := by
  have value (b : UInt8) : (Char.ofNat b.toNat).val.toNat = b.toNat := by
    have byte := b.toNat_lt
    have valid : b.toNat.isValidChar := .inl (by omega)
    rw [Char.ofNat, dif_pos valid]
    rfl
  have equal := congrArg (fun c : Char => c.val.toNat) same
  rw [value, value] at equal
  exact UInt8.toNat_inj.mp equal

theorem uses_csiPrivate (params : List (List Nat)) (c : Char) (screen : Screen) :
    Uses (screen.csiPrivate params c)
      (if c = 'h' then params.foldl (setScreen true) screen.modes.alternateScreen
      else if c = 'l' then params.foldl (setScreen false) screen.modes.alternateScreen
      else screen.modes.alternateScreen) := by
  unfold Screen.csiPrivate
  split
  · exact uses_csi params 'J' screen
  · exact uses_csi params 'K' screen
  · exact uses_some (foldl_alternateScreen decsetParam_alternateScreen params screen)
  · exact uses_some (foldl_alternateScreen decrstParam_alternateScreen params screen)
  · rename_i set reset
    rw [if_neg set, if_neg reset]
    exact uses_some rfl

theorem uses_csiDispatch (params : List (List Nat)) (intermediates : Bytes) (c : UInt8) (screen : Screen) :
    Uses (screen.csiDispatch params (intermediates.map UInt8.toNat) (Char.ofNat c.toNat))
      (Perform.screen screen.modes.alternateScreen (.csiDispatch params intermediates c)) := by
  have byte (k : UInt8) : (c == k) = decide (Char.ofNat c.toNat = Char.ofNat k.toNat) := by
    rw [Bool.eq_iff_iff, beq_iff_eq, decide_eq_true_eq]
    exact ⟨fun same => congrArg (fun b : UInt8 => Char.ofNat b.toNat) same, charOfByte_inj⟩
  simp only [Perform.screen, byte]
  cases intermediates with
  | nil => exact uses_csi params _ screen
  | cons i rest =>
      by_cases question : i = 0x3F
      · subst question
        have uses := uses_csiPrivate params (Char.ofNat c.toNat) screen
        simp only [List.head?_cons, decide_true, Bool.true_and, decide_eq_true_eq]
        exact uses
      · have other : i.toNat ≠ 0x3F := fun equal => question (UInt8.toNat_inj.mp equal)
        have quiet : screen.csiDispatch params ((i :: rest).map UInt8.toNat) (Char.ofNat c.toNat) = some screen := by
          unfold Screen.csiDispatch
          split
          · rename_i empty
            simp at empty
          · rename_i first
            exact absurd (Option.some.inj first) other
          · rfl
        rw [quiet]
        exact uses_some (by simp [question])

/-- The characters of a text are printed one after the other. -/
theorem run_append (front back : List Event) (screen : Screen) :
    screen.run width (front ++ back) = screen.run width front >>= Screen.run width back := List.foldlM_append ..

theorem uses_calls (decode : Bytes → List Char) (perform : Perform) (screen : Screen) :
    Uses (screen.run width ((calls decode perform).map .call)) (perform.screen screen.modes.alternateScreen) := by
  cases perform with
  | print text =>
      show Uses (screen.run width (((decode text).map Call.print).map .call)) screen.modes.alternateScreen
      induction decode text generalizing screen with
      | nil => exact uses_some rfl
      | cons c rest ih =>
          intro next result
          obtain ⟨middle, first, rest⟩ := Option.bind_eq_some_iff.mp result
          rw [← uses_print c screen middle first]
          exact ih middle next rest
  | execute b =>
      intro next result
      obtain ⟨middle, first, rest⟩ := Option.bind_eq_some_iff.mp result
      obtain rfl := Option.some.inj rest
      exact uses_execute b.toNat screen middle first
  | oscDispatch payload => exact uses_some rfl
  | escDispatch intermediates b =>
      intro next result
      obtain ⟨middle, first, rest⟩ := Option.bind_eq_some_iff.mp result
      obtain rfl := Option.some.inj rest
      exact uses_escDispatch intermediates b screen middle first
  | csiDispatch params intermediates c =>
      intro next result
      obtain ⟨middle, first, rest⟩ := Option.bind_eq_some_iff.mp result
      obtain rfl := Option.some.inj rest
      exact uses_csiDispatch params intermediates c screen middle first

/-- The screen that the parser has in use is the one that the terminal's state computes from the same calls. -/
theorem run_alternateScreen (decode : Bytes → List Char) {performs : List Perform} {screen next : Screen}
    (ran : screen.run width ((performs.flatMap (calls decode)).map .call) = some next) :
    next.modes.alternateScreen = performAll screen.modes.alternateScreen performs := by
  induction performs generalizing screen with
  | nil =>
      obtain rfl := Option.some.inj ran
      rfl
  | cons perform performs ih =>
      rw [List.flatMap_cons, List.map_append, run_append] at ran
      obtain ⟨middle, first, rest⟩ := Option.bind_eq_some_iff.mp ran
      rw [ih rest, uses_calls decode perform screen middle first]
      rfl

theorem alternate_after_entering :
    ((new { rows := 1, cols := 2 } 0).decsetParam [1049]).modes.alternateScreen =
      performAll false [.oscDispatch [], .csiDispatch [[1049]] [0x3F] 0x68] :=
  @run_alternateScreen plainWidth (fun _ => []) _ (new { rows := 1, cols := 2 } 0) _ rfl

end Screen

end Ezpn.Emulator
