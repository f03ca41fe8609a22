import Ezpn.Bootstrap

/-!
# Pending redraws

What the next frame has to repaint, and which panes it repaints. `border_dirty`
is kept with the border cache.
-/

set_option autoImplicit false

namespace Ezpn

structure RenderUpdate where
  dirtyPanes : List Nat := []
  fullRedraw : Bool := false
  statusDirty : Bool := false
  tabsDirty : Bool := false
  deriving DecidableEq, Repr

namespace RenderUpdate

/-- What `mark_all` adds: every leaf, and both bars. -/
def all {R : Type} (layout : Layout R) : RenderUpdate :=
  { dirtyPanes := layout.paneIds, fullRedraw := true, statusDirty := true, tabsDirty := true }

def full : RenderUpdate := { fullRedraw := true }

def pane (id : Nat) : RenderUpdate := { dirtyPanes := [id] }

def merge (update other : RenderUpdate) : RenderUpdate :=
  { dirtyPanes := update.dirtyPanes ++ other.dirtyPanes
    fullRedraw := update.fullRedraw || other.fullRedraw
    statusDirty := update.statusDirty || other.statusDirty
    tabsDirty := update.tabsDirty || other.tabsDirty }

def needsRender (update : RenderUpdate) : Bool :=
  update.fullRedraw || !update.dirtyPanes.isEmpty || update.statusDirty || update.tabsDirty

/-- Hold dirty panes back while they are in a synchronized batch; a full redraw holds none. -/
def deferDirtyPanes (update : RenderUpdate) (defer : Nat → Bool) : RenderUpdate × List Nat :=
  if update.fullRedraw then (update, [])
  else ({ update with dirtyPanes := update.dirtyPanes.filter fun id => !defer id }, update.dirtyPanes.filter defer)

/-- The pane's next frame is on its way. -/
def Covers (update : RenderUpdate) (id : Nat) : Prop := update.fullRedraw = true ∨ id ∈ update.dirtyPanes

instance (update : RenderUpdate) (id : Nat) : Decidable (update.Covers id) := inferInstanceAs (Decidable (_ ∨ _))

theorem covers_merge {update other : RenderUpdate} {id : Nat} :
    (update.merge other).Covers id ↔ update.Covers id ∨ other.Covers id := by
  simp only [Covers, merge, Bool.or_eq_true, List.mem_append]
  tauto

@[simp] theorem covers_all {R : Type} (layout : Layout R) (id : Nat) : (all layout).Covers id := .inl rfl

@[simp] theorem covers_full (id : Nat) : full.Covers id := .inl rfl

@[simp] theorem covers_pane (id : Nat) : (pane id).Covers id := .inr (List.mem_singleton_self id)

/-- Deferring moves marks, and keeps back only panes in a batch. -/
theorem Covers.deferred {update : RenderUpdate} {id : Nat} (covered : update.Covers id) (defer : Nat → Bool) :
    let (now, later) := update.deferDirtyPanes defer
    now.Covers id ∨ (defer id = true ∧ id ∈ later) := by
  simp only [deferDirtyPanes]
  split
  · rename_i redraw
    exact .inl (.inl redraw)
  · rename_i partly
    have dirty : id ∈ update.dirtyPanes := covered.resolve_left partly
    cases held : defer id with
    | true => exact .inr ⟨rfl, List.mem_filter.mpr ⟨dirty, held⟩⟩
    | false => exact .inl (.inr (List.mem_filter.mpr ⟨dirty, by simp [held]⟩))

end RenderUpdate

/-- The panes of a frame, before a selection asks for another. -/
def collectRenderTargets {G : Type} (panes : PaneMap G) (dirtyPanes : List Nat) (fullRedraw : Bool)
    (zoomedPane : Option Nat) : List Nat :=
  match zoomedPane with
  | some id => if panes.contains id then [id] else []
  | none => if fullRedraw then panes.keys else dirtyPanes.filter panes.contains

theorem mem_collectRenderTargets_of_unzoomed {G : Type} {panes : PaneMap G} {update : RenderUpdate} {id : Nat}
    (present : id ∈ panes) (covered : update.Covers id) :
    id ∈ collectRenderTargets panes update.dirtyPanes update.fullRedraw none := by
  simp only [collectRenderTargets]
  split
  · exact Std.ExtTreeMap.mem_keys.mpr present
  · rename_i partly
    rcases covered with redraw | dirty
    · exact absurd redraw partly
    · exact List.mem_filter.mpr ⟨dirty, Std.ExtTreeMap.contains_iff_mem.mpr present⟩

end Ezpn
