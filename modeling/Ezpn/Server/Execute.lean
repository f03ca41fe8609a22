import Ezpn.CommandsProperties
import Ezpn.Server.Core

/-!
# Typed commands

What a typed command line does to the server: each command is a sequence of
operations, an unreadable line does nothing.
-/

set_option autoImplicit false

namespace Ezpn

/-- What a command leaves to the loop. -/
inductive TabAction where
  | newTab (name : Option String)
  | closeTab
  | rename (name : String)
  deriving DecidableEq, Repr

/-- `str::to_ascii_lowercase`. -/
def asciiLowercase (cs : List Char) : List Char := cs.map Char.toLower

def parseBoolOpt (s : String) : Option Bool :=
  match String.ofList (asciiLowercase (Text.trim s.toList)) with
  | "on" | "true" | "1" | "yes" => some true
  | "off" | "false" | "0" | "no" => some false
  | _ => none

/-- `dir_to_nav`. -/
def Commands.Dir.toNav : Commands.Dir → NavDir
  | .up => .up
  | .down => .down
  | .left => .left
  | .right => .right

/-- The server and the tab action after a command, and its message or its error. -/
structure Executed (R G : Type) where
  core : Core R G
  tabAction : Option TabAction
  result : Except String (Option String)

namespace Core
variable {R G : Type} [RatioOps R] [Vt100 G]

/-- A switch of `set-option`. -/
def setSwitch (format : SnapshotFormat R) (world : World) (key value : String) (op : Bool → Op R) (c : Core R G)
    (tabAction : Option TabAction) : Executed R G :=
  match parseBoolOpt value with
  | none => ⟨c, tabAction, .error ("set-option " ++ key ++ ": expected on/off, got `" ++ value ++ "`")⟩
  | some on => ⟨c.apply format world (op on), tabAction, .ok none⟩

def setOption (format : SnapshotFormat R) (world : World) (key value : String) (c : Core R G)
    (tabAction : Option TabAction) : Executed R G :=
  match key with
  | "status" | "status-bar" | "show-status-bar" => c.setSwitch format world key value .showStatusBar tabAction
  | "tab-bar" | "show-tab-bar" => c.setSwitch format world key value .showTabBar tabAction
  | "broadcast" => c.setSwitch format world key value .setBroadcast tabAction
  | other => ⟨c, tabAction, .error ("set-option: unknown key `" ++ other ++ "`")⟩

def executeParsed (format : SnapshotFormat R) (world : World) (command : Commands.Command) (c : Core R G)
    (tabAction : Option TabAction) : Executed R G :=
  let tab := c.session.tab
  let run (op : Op R) : Executed R G := ⟨c.apply format world op, tabAction, .ok none⟩
  match command with
  | .splitHorizontal =>
      ⟨c.apply format world (.split tab.activePane .horizontal), tabAction,
        (c.session.doSplit world tab.activePane .horizontal).2.map fun _ => none⟩
  | .splitVertical =>
      ⟨c.apply format world (.split tab.activePane .vertical), tabAction,
        (c.session.doSplit world tab.activePane .vertical).2.map fun _ => none⟩
  | .killPane => run (.close tab.activePane)
  | .killWindow => ⟨c, some .closeTab, .ok none⟩
  | .newWindow name => ⟨c, some (.newTab name), .ok none⟩
  | .renameWindow name => ⟨c, some (.rename name), .ok none⟩
  | .selectPane dir =>
      match tab.layout.navigate tab.activePane dir.toNav c.session.contentArea with
      | some next => run (.focus next)
      | none => ⟨c, tabAction, .ok none⟩
  | .resizePane dir amount => run (.resizePane dir.toNav (RatioOps.twentieths (max amount.toNat 1)))
  | .swapPane up =>
      let other := if up then tab.layout.prevPane tab.activePane else tab.layout.nextPane tab.activePane
      if other ≠ tab.activePane then run (.swap other) else ⟨c, tabAction, .ok none⟩
  | .selectLayout name =>
      ⟨c.apply format world (.reconfigure name), tabAction, (reconfigureLayout tab.layout name).2.map fun _ => none⟩
  | .setOption key value => c.setOption format world key value tabAction
  | .displayMessage text => ⟨c, tabAction, .ok (some text)⟩

def executeCommand (format : SnapshotFormat R) (world : World) (cmd : String) (c : Core R G)
    (tabAction : Option TabAction) : Executed R G :=
  match Commands.parse cmd with
  | .ok parsed => c.executeParsed format world parsed tabAction
  | .error .empty => ⟨c, tabAction, .ok none⟩
  | .error e => ⟨c, tabAction, .error e.display⟩

/-- A line that is not read changes nothing. -/
theorem executeCommand_error (format : SnapshotFormat R) (world : World) {cmd : String} (c : Core R G)
    (tabAction : Option TabAction) {e : Commands.ParseError} (unread : Commands.parse cmd = .error e) :
    (c.executeCommand format world cmd tabAction).core = c := by
  simp only [executeCommand, unread]
  cases e <;> rfl

end Core

end Ezpn
