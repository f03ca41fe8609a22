import Mathlib.Data.List.Basic

/-!
# Layers

Paint applied in order to the cells of a canvas. What is seen in a cell is what
the last layer covering it put there.
-/

set_option autoImplicit false

namespace Layers

structure Layer (Cell Paint : Type) where
  covers : Cell → Bool
  paint : Paint

variable {Cell Paint Entry : Type}

/-- What is seen in a cell; `none` where no layer reaches. -/
def topmost : List (Layer Cell Paint) → Cell → Option Paint
  | [], _ => none
  | layer :: later, cell => (topmost later cell).or (if layer.covers cell then some layer.paint else none)

@[simp] theorem topmost_nil (cell : Cell) : topmost ([] : List (Layer Cell Paint)) cell = none := rfl

@[simp] theorem topmost_cons (layer : Layer Cell Paint) (later : List (Layer Cell Paint)) (cell : Cell) :
    topmost (layer :: later) cell = (topmost later cell).or (if layer.covers cell then some layer.paint else none) := rfl

@[simp] theorem topmost_append (below above : List (Layer Cell Paint)) (cell : Cell) :
    topmost (below ++ above) cell = (topmost above cell).or (topmost below cell) := by
  induction below with
  | nil => simp
  | cons layer below ih => rw [List.cons_append, topmost_cons, topmost_cons, ih, Option.or_assoc]

/-- A layer over the whole canvas hides what was painted before. -/
theorem topmost_of_cover {layer : Layer Cell Paint} {cell : Cell} (covers : layer.covers cell = true)
    (below above : List (Layer Cell Paint)) :
    topmost (below ++ layer :: above) cell = topmost (layer :: above) cell := by
  rw [topmost_append, topmost_cons, covers, if_pos rfl, Option.or_assoc, Option.some_or]

theorem topmost_eq_none {layers : List (Layer Cell Paint)} {cell : Cell}
    (clear : ∀ layer ∈ layers, layer.covers cell = false) : topmost layers cell = none := by
  induction layers with
  | nil => rfl
  | cons layer layers ih =>
      have here := clear layer List.mem_cons_self
      rw [topmost_cons, ih fun other later => clear other (List.mem_cons_of_mem _ later), here]
      rfl

theorem topmost_isSome {layers : List (Layer Cell Paint)} {cell : Cell} {layer : Layer Cell Paint}
    (member : layer ∈ layers) (covers : layer.covers cell = true) : (topmost layers cell).isSome = true := by
  obtain ⟨before, after, rfl⟩ := List.append_of_mem member
  rw [topmost_of_cover covers, topmost_cons, covers]
  simp

theorem exists_of_topmost {layers : List (Layer Cell Paint)} {cell : Cell} {paint : Paint}
    (seen : topmost layers cell = some paint) : ∃ layer ∈ layers, layer.covers cell = true ∧ layer.paint = paint := by
  induction layers with
  | nil => cases seen
  | cons layer layers ih =>
      rw [topmost_cons, Option.or_eq_some_iff] at seen
      rcases seen with later | ⟨_, here⟩
      · obtain ⟨other, member, covers, same⟩ := ih later
        exact ⟨other, List.mem_cons_of_mem _ member, covers, same⟩
      · simp only [Option.ite_none_right_eq_some, Option.some.injEq] at here
        exact ⟨layer, List.mem_cons_self, here⟩

/-- Groups of layers that share no cell can be painted in any order. -/
theorem topmost_flatMap_eq_some_iff {entries : List Entry} {group : Entry → List (Layer Cell Paint)} {cell : Cell}
    (apart : ∀ one ∈ entries, ∀ other ∈ entries, topmost (group one) cell ≠ none → topmost (group other) cell ≠ none →
      one = other) (paint : Paint) :
    topmost (entries.flatMap group) cell = some paint ↔ ∃ entry ∈ entries, topmost (group entry) cell = some paint := by
  induction entries generalizing paint with
  | nil => simp
  | cons entry entries ih =>
      have later := ih fun one member other memberOther =>
        apart one (List.mem_cons_of_mem _ member) other (List.mem_cons_of_mem _ memberOther)
      rw [List.flatMap_cons, topmost_append, Option.or_eq_some_iff, later]
      simp only [List.mem_cons, exists_eq_or_imp]
      constructor
      · rintro (above | ⟨_, here⟩)
        · exact .inr above
        · exact .inl here
      · rintro (here | above)
        · cases again : topmost (entries.flatMap group) cell with
          | none => exact .inr ⟨rfl, here⟩
          | some seen =>
              -- what is painted over it belongs to the same group
              obtain ⟨other, member, paints⟩ := (later seen).mp again
              have same := apart entry List.mem_cons_self other (List.mem_cons_of_mem _ member) (by simp [here])
                (by simp [paints])
              exact .inl ⟨other, member, same ▸ here⟩
        · exact .inl above

end Layers
