import Ezpn.Layout.Geometry

/-!
# Settings

The display settings, their panel, and the content area that terminal size and
settings leave for panes.
-/

set_option autoImplicit false

namespace Ezpn

/-! ## Terminal events -/

inductive KeyCode where
  | char (c : Char)
  | enter
  | esc
  | backspace
  | tab
  | backTab
  | left
  | right
  | up
  | down
  | home
  | «end»
  | pageUp
  | pageDown
  | insert
  | delete
  | f (n : Nat)
  | null
  deriving DecidableEq, Repr

structure KeyModifiers where
  shift : Bool := false
  control : Bool := false
  alt : Bool := false
  deriving DecidableEq, Repr

structure KeyEvent where
  code : KeyCode
  modifiers : KeyModifiers := {}
  deriving DecidableEq, Repr

inductive MouseButton where
  | left
  | right
  | middle
  deriving DecidableEq, Repr

inductive MouseEventKind where
  | down (button : MouseButton)
  | up (button : MouseButton)
  | drag (button : MouseButton)
  | moved
  | scrollUp
  | scrollDown
  | scrollLeft
  | scrollRight
  deriving DecidableEq, Repr

structure MouseEvent where
  kind : MouseEventKind
  column : Nat
  row : Nat
  modifiers : KeyModifiers := {}
  deriving DecidableEq, Repr

/-! ## Settings -/

inductive BorderStyle where
  | single
  | rounded
  | heavy
  | double
  | none
  deriving DecidableEq, Repr

def BorderStyle.isNone (style : BorderStyle) : Bool := style = .none

/-- The theme, the message line and the loaded config file are left out: nothing modelled reads them. -/
structure Settings where
  visible : Bool := false
  borderStyle : BorderStyle
  showStatusBar : Bool := true
  showTabBar : Bool := true
  /-- Live tab count, for reserving a borderless tab footer. -/
  tabCount : Nat := 1
  /-- focused row of the panel; opens on `Rounded` -/
  focused : Nat := 1
  reloadRequest : Bool := false
  deriving DecidableEq, Repr

inductive SettingsAction where
  | none
  | close
  | changed
  | broadcastToggle
  deriving DecidableEq, Repr

namespace Settings

/-! ## Panel -/

/-- Panel width and height. -/
def panelW : Nat := 52
def panelH : Nat := 20

/-- Row of each item from the top of the panel. -/
def itemY : List Nat := [5, 6, 7, 8, 9, 12, 13, 14, 16]

def itemCount : Nat := 9

def new (border : BorderStyle) : Settings := { borderStyle := border }

/-- The styles in panel order. -/
def borderItems : List BorderStyle := [.single, .rounded, .heavy, .double, .none]

def borderItem (style : BorderStyle) : Nat := (borderItems.findIdx? (· = style)).getD 1

def toggle (settings : Settings) : Settings :=
  let visible := !settings.visible
  { settings with visible, focused := if visible then borderItem settings.borderStyle else settings.focused }

def setBorder (style : BorderStyle) (focused : Nat) (settings : Settings) : Settings × SettingsAction :=
  ({ settings with borderStyle := style, focused }, .changed)

def adjust (delta : Int) (settings : Settings) : Settings × SettingsAction :=
  match settings.focused with
  | 0 | 1 | 2 | 3 | 4 =>
      let n := ((borderItem settings.borderStyle + delta) % 5).toNat
      ({ settings with borderStyle := borderItems.getD n .rounded, focused := n }, .changed)
  | 5 => ({ settings with showStatusBar := !settings.showStatusBar }, .changed)
  | 6 => ({ settings with showTabBar := !settings.showTabBar }, .changed)
  | 7 => (settings, .broadcastToggle)
  | _ => (settings, .none)

def activate (item : Nat) (settings : Settings) : Settings × SettingsAction :=
  match item with
  | 0 => settings.setBorder .single 0
  | 1 => settings.setBorder .rounded 1
  | 2 => settings.setBorder .heavy 2
  | 3 => settings.setBorder .double 3
  | 4 => settings.setBorder .none 4
  | 5 => ({ settings with showStatusBar := !settings.showStatusBar }, .changed)
  | 6 => ({ settings with showTabBar := !settings.showTabBar }, .changed)
  | 7 => (settings, .broadcastToggle)
  | 8 => ({ settings with visible := false }, .close)
  | _ => (settings, .none)

def handleKey (key : KeyEvent) (settings : Settings) : Settings × SettingsAction :=
  match key.code with
  | .esc | .char 'q' => ({ settings with visible := false }, .close)
  | .up | .backTab | .char 'k' => ({ settings with focused := settings.focused - 1 }, .none)
  | .down | .tab | .char 'j' => ({ settings with focused := min (settings.focused + 1) (itemCount - 1) }, .none)
  | .left | .char 'h' => settings.adjust (-1)
  | .right | .char 'l' => settings.adjust 1
  | .char '1' => settings.setBorder .single 0
  | .char '2' => settings.setBorder .rounded 1
  | .char '3' => settings.setBorder .heavy 2
  | .char '4' => settings.setBorder .double 3
  | .char '5' => settings.setBorder .none 4
  | .enter | .char ' ' => settings.activate settings.focused
  | _ => (settings, .none)

def origin (tw th : Nat) : Nat × Nat := ((tw - panelW) / 2, (th - panelH) / 2)

def handleClick (mx my tw th : Nat) (settings : Settings) : Settings × SettingsAction :=
  let (ox, oy) := origin tw th
  if mx < ox || mx ≥ ox + panelW || my < oy || my ≥ oy + panelH then
    ({ settings with visible := false }, .close)
  else match itemY.findIdx? (fun row => my = oy + row) with
    | some item => ({ settings with focused := item }).activate item
    | .none => (settings, .none)

/-! The panel does not touch the tab count. -/

theorem activate_tabCount (item : Nat) (settings : Settings) :
    (settings.activate item).1.tabCount = settings.tabCount := by
  unfold activate setBorder
  split <;> rfl

theorem handleKey_tabCount (key : KeyEvent) (settings : Settings) :
    (settings.handleKey key).1.tabCount = settings.tabCount := by
  have adjusted (delta : Int) : (settings.adjust delta).1.tabCount = settings.tabCount := by
    unfold adjust
    split <;> rfl
  unfold handleKey
  split
  all_goals first | exact adjusted _ | exact activate_tabCount _ settings | rfl

theorem handleClick_tabCount (mx my tw th : Nat) (settings : Settings) :
    (settings.handleClick mx my tw th).1.tabCount = settings.tabCount := by
  simp only [handleClick]
  split
  · rfl
  split
  · exact activate_tabCount _ _
  · rfl

end Settings

/-! ## Content area -/

/-- Pane content inside the terminal area supplied by the caller. -/
def contentArea (termW termH : Nat) (showStatusBar : Bool) (style : BorderStyle) : Rect :=
  let borderH := termH - showStatusBar.toNat
  let side := (!style.isNone).toNat
  { x := min side termW, y := min 1 borderH, w := termW - side * 2, h := borderH - (1 + side) }

/-- Tab chrome occupies the bottom border, or one content row without borders. -/
def terminalRenderHeight (height : Nat) (settings : Settings) : Nat :=
  height - (settings.borderStyle.isNone && settings.showTabBar && settings.tabCount > 1).toNat

def terminalContentArea (width height : Nat) (settings : Settings) : Rect :=
  contentArea width (terminalRenderHeight height settings) settings.showStatusBar settings.borderStyle

end Ezpn
