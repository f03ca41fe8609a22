import Ezpn.EnvInterp.Evaluation

/-!
# Expansion with nothing set

A text without references stands for itself. Where no variable is set, an expansion
only leaves characters out of the text, and no line end.
-/

set_option autoImplicit false

namespace Ezpn.EnvContext

theorem expandFrom_plain (ctx : EnvContext) {cs : List Char} (plain : '$' ∉ cs) (pos : Nat) (read : Bool) :
    ctx.expandFrom 0 pos read cs = .ok (cs, read) := by
  induction cs generalizing pos with
  | nil => rw [expandFrom]
  | cons c cs ih =>
      obtain ⟨first, rest⟩ := not_or.mp (mt List.mem_cons.mpr plain)
      rw [expandFrom.eq_def]
      dsimp only
      rw [if_neg (Ne.symm first), ih rest]
      rfl

/-- A text without references stands for itself. -/
theorem expand_plain (ctx : EnvContext) {template : String} (plain : '$' ∉ template.toList) :
    expandWithSensitivity template ctx = .ok (template, false) := by
  rw [expandWithSensitivity, expand, ctx.expandFrom_plain plain]
  simp only [Except.map, String.ofList_toList]

/-- Some characters of a text, with all its line ends. -/
structure Shortened (cs out : List Char) : Prop where
  sublist : out.Sublist cs
  lineEnds : '\n' ∈ cs → '\n' ∈ out

theorem Shortened.append {cs out ds more : List Char} (front : Shortened cs out) (back : Shortened ds more) :
    Shortened (cs ++ ds) (out ++ more) := by
  refine ⟨front.sublist.append back.sublist, fun member => ?_⟩
  rcases List.mem_append.mp member with early | late
  · exact List.mem_append_left _ (front.lineEnds early)
  · exact List.mem_append_right _ (back.lineEnds late)

theorem Shortened.none {cs : List Char} (oneLine : '\n' ∉ cs) : Shortened cs [] :=
  ⟨List.nil_sublist cs, fun member => absurd member oneLine⟩

theorem value_unset (name : List Char) : ({} : EnvContext).value name = [] := rfl

theorem identifier_oneLine {name : List Char} (identifier : Identifier name) : '\n' ∉ name := by
  intro member
  nomatch identifier_plain identifier '\n' member

theorem braced_unset {inner : List Char} {pos : Nat} (fine : (Item.braced inner).failure {} pos = .none) :
    Shortened (Item.source (.braced inner)) (Item.text {} (.braced inner)) := by
  rw [Item.failure] at fine
  cases found : reference? inner with
  | none =>
      rw [found] at fine
      cases fine
  | some reference =>
      rw [found] at fine
      have refers := reference?_iff.mp found
      have braces {out : List Char} (shortened : Shortened inner out) : Shortened (Item.source (.braced inner)) out := by
        have opened : Shortened ['$', '{'] [] := .none (by decide)
        have closed : Shortened ['}'] [] := .none (by decide)
        have whole := (opened.append shortened).append closed
        rw [List.append_nil] at whole
        exact whole
      rw [Item.text, found]
      cases refers with
      | secret _ => cases fine
      | plain identifier => exact braces (.none (identifier_oneLine identifier))
      | @orDefault name text identifier _ =>
          have operator : Shortened [':', '-'] [] := .none (by decide)
          have kept : Shortened text text := ⟨List.Sublist.refl text, id⟩
          have whole := (Shortened.none (identifier_oneLine identifier)).append (operator.append kept)
          exact braces whole
      | required _ _ => cases fine

theorem evaluate_cons_ok {ctx : EnvContext} {item : Item} {items : List Item} {pos : Nat} {read flag : Bool} {out : List Char}
    (evaluates : ctx.evaluate pos read (item :: items) = .ok (out, flag)) :
    item.failure ctx pos = .none ∧ ∃ rest, out = item.text ctx ++ rest ∧
      ctx.evaluate (pos + (CharBytes.encode item.source).length) (read || item.external ctx) items = .ok (rest, flag) := by
  rw [evaluate_cons] at evaluates
  cases fault : item.failure ctx pos with
  | some e =>
      rw [fault] at evaluates
      nomatch evaluates
  | none =>
      rw [fault] at evaluates
      dsimp only at evaluates
      cases later : ctx.evaluate (pos + (CharBytes.encode item.source).length) (read || item.external ctx) items with
      | error e =>
          rw [later] at evaluates
          nomatch evaluates
      | ok result =>
          rw [later] at evaluates
          cases evaluates
          exact ⟨rfl, _, rfl, rfl⟩

theorem evaluate_unset {cs : List Char} {items : List Item} (reading : Reading cs items) {pos : Nat} {read flag : Bool}
    {out : List Char} (evaluates : ({} : EnvContext).evaluate pos read items = .ok (out, flag)) : Shortened cs out := by
  induction reading generalizing pos read flag out with
  | nil =>
      cases evaluates
      exact ⟨List.Sublist.refl [], id⟩
  | char _ _ ih =>
      obtain ⟨-, rest, rfl, later⟩ := evaluate_cons_ok evaluates
      exact (⟨List.Sublist.refl _, id⟩ : Shortened [_] [_]).append (ih later)
  | doubled _ ih =>
      obtain ⟨-, rest, rfl, later⟩ := evaluate_cons_ok evaluates
      exact (⟨by decide, by decide⟩ : Shortened ['$', '$'] ['$']).append (ih later)
  | @braced inner cs items _ _ ih =>
      obtain ⟨fine, rest, rfl, later⟩ := evaluate_cons_ok evaluates
      have whole := (braced_unset fine).append (ih later)
      rw [Item.source, List.cons_append, List.cons_append, List.append_assoc] at whole
      exact whole
  | unterminated _ =>
      obtain ⟨fine, -⟩ := evaluate_cons_ok evaluates
      cases fine
  | @name id cs items identifier _ _ ih =>
      obtain ⟨-, rest, rfl, later⟩ := evaluate_cons_ok evaluates
      have oneLine : '\n' ∉ '$' :: id := fun member => (List.mem_cons.mp member).elim (by rintro ⟨⟩) (identifier_oneLine identifier)
      exact (Shortened.none oneLine).append (ih later)
  | dollar _ _ _ _ ih =>
      obtain ⟨-, rest, rfl, later⟩ := evaluate_cons_ok evaluates
      exact (⟨List.Sublist.refl _, id⟩ : Shortened ['$'] ['$']).append (ih later)

/-- Where nothing is set, an expansion only leaves characters out. -/
theorem expand_unset {template value : String} {flag : Bool}
    (expands : expandWithSensitivity template {} = .ok (value, flag)) : Shortened template.toList value.toList := by
  obtain ⟨items, reading⟩ := reading_exists template.toList
  rw [expandWithSensitivity, expand, expandFrom_eq reading] at expands
  cases evaluates : ({} : EnvContext).evaluate 0 false items with
  | error e =>
      rw [evaluates] at expands
      cases expands
  | ok result =>
      rw [evaluates] at expands
      cases expands
      rw [String.toList_ofList]
      exact evaluate_unset reading evaluates

/-- The first character stays where it is, unless it starts a reference. -/
theorem expand_first (ctx : EnvContext) {template value : String} {flag : Bool} {c : Char} {cs : List Char}
    (starts : template.toList = c :: cs) (plain : c ≠ '$') (expands : expandWithSensitivity template ctx = .ok (value, flag)) :
    value.toList.head? = some c := by
  rw [expandWithSensitivity, expand, starts, expandFrom.eq_def] at expands
  dsimp only at expands
  rw [if_neg plain] at expands
  cases later : ctx.expandFrom 0 (0 + c.utf8Size) false cs with
  | error e =>
      rw [later] at expands
      cases expands
  | ok result =>
      rw [later] at expands
      cases expands
      rw [String.toList_ofList]
      rfl

end Ezpn.EnvContext
