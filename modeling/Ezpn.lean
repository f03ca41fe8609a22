import Ezpn.Lib.Transducer
import Ezpn.Text
import Ezpn.Layout.Tree
import Ezpn.Layout.Geometry
import Ezpn.Layout.Spec
import Ezpn.Layout.TreeProperties
import Ezpn.Layout.Invariant
import Ezpn.Layout.Moves
import Ezpn.Layout.Overflow
import Ezpn.Terminal.State
import Ezpn.Terminal.Control
import Ezpn.Terminal.Timing
import Ezpn.Terminal.Display
import Ezpn.Terminal.Lexeme
import Ezpn.Terminal.Filter
import Ezpn.Pane
import Ezpn.Terminal.Clipboard
import Ezpn.Pane.Osc52
import Ezpn.Settings
import Ezpn.Workspace
import Ezpn.Workspace.Validation
import Ezpn.Bootstrap
import Ezpn.Arrangement
import Ezpn.Workspace.Soundness
import Ezpn.Tab
import Ezpn.Tab.Refinement
import Ezpn.Session
import Ezpn.Session.Snapshot
import Ezpn.Session.Rollback
import Ezpn.Session.RoundTrip
import Ezpn.Border
import Ezpn.Server.Core
import Ezpn.Pane.Evolve
import Ezpn.Session.Tabs
import Ezpn.Server.Steps
import Ezpn.Server.Geometry
import Ezpn.Protocol.Frame
import Ezpn.Server.Output.Delivery
import Ezpn.Server.TabBar
import Ezpn.Server.Loop.Names
import Ezpn.Server.Loop.Exits
import Ezpn.Server.Loop.Painting
import Ezpn.Server.Loop.Watchers
import Ezpn.Server.Environment
import Ezpn.RenderDiff
import Ezpn.Events.Accounting
import Ezpn.Hooks.Shutdown
import Ezpn.Server.Input.Delivery
import Ezpn.Pane.Paste
import Ezpn.Workspace.Migration
import Ezpn.Terminal.KeyboardStream
import Ezpn.Server.Drag.Validity
import Ezpn.Server.Loop.Frames
import Ezpn.Server.Loop.Policies
import Ezpn.Server.Loop.Consent
import Ezpn.CommandsProperties
import Ezpn.Server.Drag.Placement
import Ezpn.Server.Dump
import Ezpn.Selection.Agreement
import Ezpn.Server.CloseConfirm
import Ezpn.Ipc.Replies
import Ezpn.CopyMode.Session
import Ezpn.Layout.Navigation
import Ezpn.Layout.Equal
import Ezpn.Reflow
import Ezpn.Workspace.History
import Ezpn.Buffers.Refinement
import Ezpn.EnvInterp.Scanner
import Ezpn.Server.Restarts
import Ezpn.Pane.Mouse
import Ezpn.CopyMode.Scrolling
import Ezpn.Hooks.Firing
import Ezpn.Keymap.Reports
import Ezpn.Palette.Overlay
import Ezpn.Config.Reload
import Ezpn.Server.Handshake
import Ezpn.Procfile.Import
import Ezpn.Screen.Drawn
import Ezpn.Clipboard
import Ezpn.Chrome.Agreement
import Ezpn.Server.Idle.Waiting
import Ezpn.Server.Focus
import Ezpn.Server.Announcements
import Ezpn.Pane.Restore
import Ezpn.Emulator.Alternate
import Ezpn.Emulator.Printing
import Ezpn.Emulator.History
import Ezpn.Emulator.Regions
import Ezpn.Chrome.StatusBar
import Ezpn.Pane.Keys
