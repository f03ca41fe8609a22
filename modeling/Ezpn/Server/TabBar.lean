import Ezpn.Text

/-!
# The tab bar

Labels are drawn from left to right until one does not fit. The hit test walks
the same list; both measure a label by `tab_label_parts`.
-/

set_option autoImplicit false

namespace Ezpn.TabBar

/-- `(index, name, is_active)` -/
abbrev Entry : Type := Nat × String × Bool

/-- Cells of a label: a prefix with the tab's number, the name without control
characters, two blanks. `strWidth` is the display width of a string. -/
def labelWidth (strWidth : String → Nat) (index : Nat) (name : String) : Nat :=
  let pre := s!"  {index + 1}: "
  let name := String.ofList (name.toList.filter fun c => !Text.isControl c)
  pre.utf8ByteSize + strWidth name + 2

structure Label where
  index : Nat
  /-- column of its first cell -/
  start : Nat
  width : Nat
  deriving DecidableEq, Repr

/-- The labels that `draw_tab_bar` prints from column `col` on. -/
def labels (strWidth : String → Nat) (termW : Nat) : (col : Nat) → List Entry → List Label
  | _, [] => []
  | col, (index, name, _) :: rest =>
      let width := labelWidth strWidth index name
      if col + width + 2 > termW then []
      else { index, start := col, width } :: labels strWidth termW (col + width + 2) rest

def drawTabBar (strWidth : String → Nat) (termW termH : Nat) (showStatusBar : Bool) (tabs : List Entry) :
    List Label :=
  if tabs.length ≤ 1 || termW = 0 || termH ≤ showStatusBar.toNat then [] else labels strWidth termW 1 tabs

def hitFrom (strWidth : String → Nat) (x termW : Nat) : (col : Nat) → List Entry → Option Nat
  | _, [] => none
  | col, (index, name, _) :: rest =>
      let width := labelWidth strWidth index name
      if col + width + 2 > termW then none
      else if x ≥ col ∧ x < col + width then some index
      else hitFrom strWidth x termW (col + width + 2) rest

def tabBarHit (strWidth : String → Nat) (x : Nat) (tabs : List Entry) (termW : Nat) : Option Nat :=
  if tabs.length ≤ 1 then none else hitFrom strWidth x termW 1 tabs

/-- The label is drawn in column `x`. -/
def Label.Covers (label : Label) (x : Nat) : Prop := label.start ≤ x ∧ x < label.start + label.width

variable {strWidth : String → Nat} {termW : Nat}

theorem start_of_mem {col : Nat} {tabs : List Entry} {label : Label} (drawn : label ∈ labels strWidth termW col tabs) :
    col ≤ label.start := by
  induction tabs generalizing col with
  | nil => cases drawn
  | cons entry rest ih =>
      obtain ⟨index, name, active⟩ := entry
      simp only [labels] at drawn
      split at drawn
      · cases drawn
      · rcases List.mem_cons.mp drawn with rfl | later
        · exact Nat.le_refl _
        · have := ih later
          omega

theorem hitFrom_iff {x col index : Nat} {tabs : List Entry} :
    hitFrom strWidth x termW col tabs = some index ↔
      ∃ label ∈ labels strWidth termW col tabs, label.Covers x ∧ label.index = index := by
  induction tabs generalizing col with
  | nil => simp [hitFrom, labels]
  | cons entry rest ih =>
      obtain ⟨first, name, active⟩ := entry
      simp only [hitFrom, labels]
      split
      · simp
      rename_i fits
      simp only [List.mem_cons, exists_eq_or_imp, Label.Covers]
      split
      · rename_i here
        constructor
        · intro same
          exact .inl ⟨here, Option.some.inj same⟩
        · rintro (⟨_, same⟩ | ⟨label, later, covers, _⟩)
          · rw [same]
          · have := start_of_mem later
            omega
      · rename_i elsewhere
        rw [ih]
        constructor
        · exact .inr
        · rintro (⟨covers, _⟩ | hit)
          · exact absurd covers elsewhere
          · exact hit

/-- A click on a drawn label selects the tab whose label it is. -/
theorem tabBarHit_of_drawn {termH x : Nat} {showStatusBar : Bool} {tabs : List Entry} {label : Label}
    (drawn : label ∈ drawTabBar strWidth termW termH showStatusBar tabs) (covers : label.Covers x) :
    tabBarHit strWidth x tabs termW = some label.index := by
  simp only [drawTabBar] at drawn
  split at drawn
  · cases drawn
  · rename_i shown
    simp only [Bool.or_eq_true, decide_eq_true_eq, not_or] at shown
    simp only [tabBarHit, shown.1.1, if_false]
    exact hitFrom_iff.mpr ⟨label, drawn, covers, rfl⟩

end Ezpn.TabBar
