import Ezpn.Lib.Cursor
import Ezpn.Tab

/-!
# Tabs as a list with a cursor

A manager and the unpacked tab stand for one ordered list with the active tab under
its cursor. Every operation of the manager is the operation of that name on the list.
-/

set_option autoImplicit false

namespace Ezpn

/-- The manager with the tab that its caller has unpacked. -/
structure TabState (R G : Type) where
  mgr : TabManager R G
  current : Tab R G

/-- Calls on the manager; `edit` is what the caller does to its unpacked tab in between. -/
inductive TabOp (R G : Type) where
  /-- with the new tab that the caller sets up -/
  | createTab (opened : Tab R G)
  | switchTo (target : Nat)
  | closeActive
  | edit (current : Tab R G)

namespace TabState
variable {R G : Type}

/-- A call that returns no tab leaves the caller with its own. -/
def unpack (s : TabState R G) : Option (TabManager R G × Tab R G) → TabState R G
  | none => s
  | some (mgr, current) => { mgr, current }

def step (s : TabState R G) : TabOp R G → TabState R G
  | .createTab opened => { mgr := (s.mgr.createTab s.current).1, current := opened }
  | .switchTo target => s.unpack (s.mgr.switchTo target s.current)
  | .closeActive => s.unpack s.mgr.closeActive
  | .edit current => { s with current }

def cursor (s : TabState R G) : Cursor (Tab R G) :=
  { items := s.mgr.withActive s.current
    pos := s.mgr.activeIdx
    inRange := by rw [TabManager.withActive_length]; exact s.mgr.inRange }

theorem start_inRange {tabs : List (Tab R G)} (activeIdx : Nat) (nonempty : 0 < tabs.length) :
    min activeIdx (tabs.length - 1) < tabs.length := by omega

/-- Where a manager starts, and the list it stands for. -/
inductive Initial : TabState R G → Cursor (Tab R G) → Prop where
  | new (current : Tab R G) : Initial { mgr := {}, current } { items := [current], pos := 0, inRange := Nat.one_pos }
  | fromTabs (tabs : List (Tab R G)) (activeIdx : Nat) (nonempty : 0 < tabs.length) :
      Initial
        { mgr := (TabManager.fromTabs tabs activeIdx nonempty).1
          current := (TabManager.fromTabs tabs activeIdx nonempty).2 }
        { items := tabs, pos := min activeIdx (tabs.length - 1), inRange := start_inRange activeIdx nonempty }

/-- A switch is refused exactly where the caller sees that there is nowhere to go. -/
theorem switchTo_eq_none_iff (mgr : TabManager R G) (target : Nat) (current : Tab R G) :
    mgr.switchTo target current = none ↔ target = mgr.activeIdx ∨ mgr.count ≤ target := by
  simp only [TabManager.switchTo]
  split
  · rename_i refused
    simpa using refused
  · rename_i valid
    simpa using valid

end TabState

end Ezpn
