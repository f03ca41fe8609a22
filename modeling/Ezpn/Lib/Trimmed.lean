import Mathlib.Data.List.DropRight

/-!
# Trimmed lists

Lists with the elements that satisfy a predicate dropped at the end, and what leaving
out some of the pieces of a concatenation changes about the trimmed result.
-/

set_option autoImplicit false

namespace Ezpn

namespace Trimmed

section
variable {β : Type} (p : β → Bool)

/-- Nothing but what is trimmed. -/
def IsBlank (cs : List β) : Prop := ∀ c ∈ cs, p c = true

def trim (cs : List β) : List β := cs.rdropWhile p

variable {p}

theorem IsBlank.append {cs ds : List β} : IsBlank p (cs ++ ds) ↔ IsBlank p cs ∧ IsBlank p ds := by
  simp only [IsBlank, List.mem_append, or_imp, forall_and]

theorem isBlank_nil : IsBlank p ([] : List β) := fun _ member => nomatch member

theorem trim_eq_nil_iff {cs : List β} : trim p cs = [] ↔ IsBlank p cs := List.rdropWhile_eq_nil_iff

theorem trim_append_blank {cs ds : List β} (blank : IsBlank p ds) : trim p (cs ++ ds) = trim p cs := by
  induction ds using List.reverseRecOn with
  | nil => rw [List.append_nil]
  | append_singleton ds d ih =>
      obtain ⟨before, last⟩ := IsBlank.append.mp blank
      rw [← List.append_assoc, trim, List.rdropWhile_concat_pos _ _ _ (last d (List.mem_singleton_self d))]
      exact ih before

theorem trim_append {cs ds : List β} (text : ¬IsBlank p ds) : trim p (cs ++ ds) = cs ++ trim p ds := by
  induction ds using List.reverseRecOn with
  | nil => exact absurd isBlank_nil text
  | append_singleton ds d ih =>
      unfold trim at ih ⊢
      rw [← List.append_assoc, List.rdropWhile_concat, List.rdropWhile_concat]
      split
      · rename_i white
        refine ih fun blank => text (IsBlank.append.mpr ⟨blank, ?_⟩)
        rintro c member
        obtain rfl := List.mem_singleton.mp member
        exact white
      · exact List.append_assoc ..

variable (p) in
theorem trim_front (cs : List β) : trim p cs <+: cs := List.rdropWhile_prefix _ _

/-- A common front does not matter. -/
theorem trim_append_left_iff {front cs ds : List β} :
    trim p (front ++ cs) = trim p (front ++ ds) ↔ trim p cs = trim p ds := by
  by_cases blankC : IsBlank p cs
  · by_cases blankD : IsBlank p ds
    · rw [trim_append_blank blankC, trim_append_blank blankD, trim_eq_nil_iff.mpr blankC,
        trim_eq_nil_iff.mpr blankD]
      exact iff_of_true rfl rfl
    · rw [trim_append_blank blankC, trim_append blankD, trim_eq_nil_iff.mpr blankC]
      refine iff_of_false (fun same => ?_) fun same => blankD (trim_eq_nil_iff.mp same.symm)
      have length := (trim_front p front).length_le
      rw [same, List.length_append] at length
      exact blankD (trim_eq_nil_iff.mp (List.eq_nil_of_length_eq_zero (by omega)))
  · by_cases blankD : IsBlank p ds
    · rw [trim_append_blank blankD, trim_append blankC, trim_eq_nil_iff.mpr blankD]
      refine iff_of_false (fun same => ?_) fun same => blankC (trim_eq_nil_iff.mp same)
      have length := (trim_front p front).length_le
      rw [← same, List.length_append] at length
      exact blankC (trim_eq_nil_iff.mp (List.eq_nil_of_length_eq_zero (by omega)))
    · rw [trim_append blankC, trim_append blankD, List.append_cancel_left_eq]

/-! ## Pieces left out -/

variable {α : Type} (piece : α → List β) (good : α → Bool)

variable (p) in
theorem length_trim_filter_le (xs : List α) :
    (trim p ((xs.filter good).flatMap piece)).length ≤ (trim p (xs.flatMap piece)).length := by
  induction xs with
  | nil => exact Nat.le_refl _
  | cons x xs ih =>
      by_cases blank : IsBlank p (xs.flatMap piece)
      · have blankFiltered : IsBlank p ((xs.filter good).flatMap piece) := by
          rw [trim_eq_nil_iff.mpr blank, List.length_nil, Nat.le_zero] at ih
          exact trim_eq_nil_iff.mp (List.eq_nil_of_length_eq_zero ih)
        cases kept : good x with
        | true =>
            rw [List.filter_cons_of_pos kept, List.flatMap_cons, List.flatMap_cons, trim_append_blank blank,
              trim_append_blank blankFiltered]
        | false =>
            rw [List.filter_cons_of_neg (by simp [kept]), trim_eq_nil_iff.mpr blankFiltered]
            exact Nat.zero_le _
      · have longer : (trim p ((x :: xs).flatMap piece)).length = (piece x).length + (trim p (xs.flatMap piece)).length := by
          rw [List.flatMap_cons, trim_append blank, List.length_append]
        cases kept : good x with
        | true =>
            rw [List.filter_cons_of_pos kept, List.flatMap_cons, longer]
            by_cases blankFiltered : IsBlank p ((xs.filter good).flatMap piece)
            · rw [trim_append_blank blankFiltered]
              have := (trim_front p (piece x)).length_le
              omega
            · rw [trim_append blankFiltered, List.length_append]
              omega
        | false =>
            rw [List.filter_cons_of_neg (by simp [kept]), longer]
            omega

/-- Leaving pieces out does not show exactly if no text follows any of them. -/
theorem trim_filter_iff {xs : List α} (solid : ∀ x ∈ xs, good x = false → piece x ≠ []) :
    trim p (xs.flatMap piece) = trim p ((xs.filter good).flatMap piece) ↔
      ∀ before x after, xs = before ++ x :: after → good x = false → IsBlank p ((x :: after).flatMap piece) := by
  induction xs with
  | nil =>
      refine iff_of_true rfl fun before x after split => ?_
      simp at split
  | cons y ys ih =>
      have ih := ih fun x member => solid x (List.mem_cons_of_mem y member)
      cases kept : good y with
      | true =>
          rw [List.filter_cons_of_pos kept, List.flatMap_cons, List.flatMap_cons, trim_append_left_iff, ih]
          constructor
          · intro below before x after split bad
            cases before with
            | nil =>
                obtain ⟨rfl, rfl⟩ := List.cons.inj split
                exact absurd kept (by simp [bad])
            | cons z before => exact below before x after (List.cons.inj split).2 bad
          · intro below before x after split bad
            exact below (y :: before) x after (by rw [split, List.cons_append]) bad
      | false =>
          rw [List.filter_cons_of_neg (by simp [kept])]
          have fewer := length_trim_filter_le p piece good ys
          constructor
          · intro same before x after split bad
            have blank : IsBlank p ((y :: ys).flatMap piece) := by
              by_contra text
              have longer : (trim p (ys.flatMap piece)).length < (trim p ((y :: ys).flatMap piece)).length := by
                rw [List.flatMap_cons]
                by_cases blank : IsBlank p (ys.flatMap piece)
                · rw [trim_eq_nil_iff.mpr blank]
                  refine List.length_pos_of_ne_nil fun empty => text ?_
                  rw [List.flatMap_cons]
                  exact trim_eq_nil_iff.mp empty
                · have some_char := List.length_pos_of_ne_nil (solid y List.mem_cons_self kept)
                  rw [trim_append blank, List.length_append]
                  omega
              rw [same] at longer
              omega
            rw [split, List.flatMap_append, IsBlank.append] at blank
            exact blank.2
          · intro below
            have blank := below [] y ys rfl kept
            rw [trim_eq_nil_iff.mpr blank]
            rw [List.flatMap_cons, IsBlank.append] at blank
            rw [trim_eq_nil_iff.mpr blank.2, List.length_nil, Nat.le_zero] at fewer
            exact (List.eq_nil_of_length_eq_zero fewer).symm

end

end Trimmed

end Ezpn
