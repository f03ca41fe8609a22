import Ezpn.EnvInterp
import Ezpn.Lib.CharBytes
import Mathlib.Data.List.TakeWhile

/-!
# The grammar of templates

The items that a template consists of, read from left to right, and what each item
stands for or fails with.
-/

set_option autoImplicit false

namespace Ezpn

namespace Text

theorem splitOnce_some {p : Char → Bool} {cs front back : List Char} {c : Char} (before : ∀ d ∈ front, p d = false)
    (inside : p c = true) (whole : cs = front ++ c :: back) : splitOnce p cs = some (front, back) := by
  have pass : ∀ d ∈ front, (!p d) = true := fun d member => by rw [before d member]; rfl
  unfold splitOnce
  rw [whole, List.dropWhile_append_of_pos pass, List.takeWhile_append_of_pos pass, List.dropWhile_cons, List.takeWhile_cons,
    inside]
  simp only [Bool.not_true, Bool.false_eq_true, if_false, List.append_nil]

theorem splitOnce_none {p : Char → Bool} {cs : List Char} (absent : ∀ c ∈ cs, p c = false) : splitOnce p cs = none := by
  have pass : ∀ d ∈ cs, (!p d) = true := fun d member => by rw [absent d member]; rfl
  unfold splitOnce
  rw [List.dropWhile_eq_nil_iff.mpr pass]

theorem splitOnce_cases (p : Char → Bool) (cs : List Char) :
    (∃ front c back, cs = front ++ c :: back ∧ (∀ d ∈ front, p d = false) ∧ p c = true ∧ splitOnce p cs = some (front, back)) ∨
      (∀ c ∈ cs, p c = false) ∧ splitOnce p cs = none := by
  induction cs with
  | nil => exact .inr ⟨nofun, rfl⟩
  | cons c cs ih =>
      cases inside : p c with
      | true => exact .inl ⟨[], c, cs, rfl, nofun, inside, splitOnce_some nofun inside rfl⟩
      | false =>
          rcases ih with ⟨front, d, back, rfl, before, here, _⟩ | ⟨absent, _⟩
          · have before' : ∀ e ∈ c :: front, p e = false := List.forall_mem_cons.mpr ⟨inside, before⟩
            exact .inl ⟨c :: front, d, back, rfl, before', here, splitOnce_some before' here rfl⟩
          · have absent' : ∀ e ∈ c :: cs, p e = false := List.forall_mem_cons.mpr ⟨inside, absent⟩
            exact .inr ⟨absent', splitOnce_none absent'⟩

theorem stripPrefix_append (start rest : List Char) : stripPrefix start (start ++ rest) = some rest := by
  unfold stripPrefix
  rw [if_pos (List.isPrefixOf_iff_prefix.mpr (List.prefix_append start rest)), List.drop_left]

theorem stripPrefix_some {start cs rest : List Char} (stripped : stripPrefix start cs = some rest) : cs = start ++ rest := by
  unfold stripPrefix at stripped
  split at stripped
  · rename_i prefixed
    obtain ⟨tail, rfl⟩ := List.isPrefixOf_iff_prefix.mp prefixed
    rw [List.drop_left] at stripped
    rw [Option.some.inj stripped]
  · cases stripped

end Text

namespace EnvContext

/-! ## Items -/

/-- `[A-Za-z_][A-Za-z0-9_]*` -/
def Identifier : List Char → Prop
  | [] => False
  | c :: cs => isNameStart c = true ∧ ∀ d ∈ cs, isNameRest d = true

/-- One piece of a template. -/
inductive Item where
  | char (c : Char)
  | doubled
  | braced (inner : List Char)
  | unterminated (rest : List Char)
  | name (id : List Char)
  | dollar

/-- The text starts with no character of a class. -/
def Ends (p : Char → Bool) : List Char → Prop
  | [] => True
  | c :: _ => p c = false

/-- The text is read as the items, each the longest one. -/
inductive Reading : List Char → List Item → Prop where
  | nil : Reading [] []
  | char {c : Char} {cs : List Char} {items : List Item} : c ≠ '$' → Reading cs items → Reading (c :: cs) (.char c :: items)
  | doubled {cs : List Char} {items : List Item} : Reading cs items → Reading ('$' :: '$' :: cs) (.doubled :: items)
  | braced {inner cs : List Char} {items : List Item} : '}' ∉ inner → Reading cs items →
      Reading ('$' :: '{' :: (inner ++ '}' :: cs)) (.braced inner :: items)
  | unterminated {rest : List Char} : '}' ∉ rest → Reading ('$' :: '{' :: rest) [.unterminated rest]
  | name {id cs : List Char} {items : List Item} : Identifier id → Ends isNameRest cs → Reading cs items →
      Reading ('$' :: (id ++ cs)) (.name id :: items)
  | dollar {cs : List Char} {items : List Item} : Ends (· == '$') cs → Ends (· == '{') cs → Ends isNameStart cs →
      Reading cs items → Reading ('$' :: cs) (.dollar :: items)

/-- The first item and the text after it. -/
def nextItem : List Char → Option (Item × List Char)
  | [] => none
  | '$' :: '$' :: cs => some (.doubled, cs)
  | '$' :: '{' :: cs =>
      match Text.splitOnce (· == '}') cs with
      | some (inner, rest) => some (.braced inner, rest)
      | none => some (.unterminated cs, [])
  | '$' :: cs =>
      let name := scanIdentifier cs
      if name = [] then some (.dollar, cs) else some (.name name, cs.drop name.length)
  | c :: cs => some (.char c, cs)

theorem isNameRest_of_start {c : Char} (start : isNameStart c = true) : isNameRest c = true := by
  unfold isNameStart at start
  unfold isNameRest Char.isAlphanum
  rw [Bool.or_eq_true] at start ⊢
  rcases start with alpha | underscore
  · left
    rw [alpha]
    rfl
  · exact .inr underscore

theorem scanIdentifier_append {id cs : List Char} (identifier : Identifier id) (ends : Ends isNameRest cs) :
    scanIdentifier (id ++ cs) = id := by
  cases id with
  | nil => exact identifier.elim
  | cons c id =>
      rw [List.cons_append, scanIdentifier, if_pos identifier.1, List.takeWhile_append_of_pos identifier.2]
      cases cs with
      | nil => simp
      | cons d cs =>
          have out : isNameRest d = false := ends
          simp [out]

theorem scanIdentifier_nil {cs : List Char} (ends : Ends isNameStart cs) : scanIdentifier cs = [] := by
  cases cs with
  | nil => rfl
  | cons c cs =>
      have out : isNameStart c = false := ends
      rw [scanIdentifier, out]
      rfl

/-- What the scanned identifier is of a text. -/
theorem scanIdentifier_cases (cs : List Char) :
    (scanIdentifier cs = [] ∧ Ends isNameStart cs) ∨
      Identifier (scanIdentifier cs) ∧ ∃ rest, cs = scanIdentifier cs ++ rest ∧ Ends isNameRest rest := by
  cases cs with
  | nil => exact .inl ⟨rfl, trivial⟩
  | cons c cs =>
      rw [scanIdentifier]
      split
      · rename_i start
        right
        refine ⟨⟨start, fun d member => List.mem_takeWhile_imp member⟩, cs.dropWhile isNameRest, ?_, ?_⟩
        · rw [List.cons_append, List.takeWhile_append_dropWhile]
        · cases rest : cs.dropWhile isNameRest with
          | nil => trivial
          | cons d ds =>
              have out := List.head?_dropWhile_not isNameRest cs
              rw [rest] at out
              exact Bool.eq_false_iff.mpr (by simpa using out)
      · rename_i other
        exact .inl ⟨rfl, Bool.eq_false_iff.mpr other⟩

theorem not_nameStart_dollar : isNameStart '$' = false := by decide

theorem not_nameStart_brace : isNameStart '{' = false := by decide

theorem nextItem_char {c : Char} (other : c ≠ '$') (cs : List Char) : nextItem (c :: cs) = some (.char c, cs) := by
  unfold nextItem
  split
  · rename_i same
    cases same
  · rename_i same
    cases same
    exact absurd rfl other
  · rename_i same
    cases same
    exact absurd rfl other
  · rename_i same
    cases same
    exact absurd rfl other
  · rename_i same
    cases same
    rfl

/-- Text after a dollar that starts neither an escape nor a brace. -/
theorem nextItem_dollar {cs : List Char} (single : Ends (· == '$') cs) (bare : Ends (· == '{') cs) :
    nextItem ('$' :: cs) =
      if scanIdentifier cs = [] then some (.dollar, cs) else some (.name (scanIdentifier cs), cs.drop (scanIdentifier cs).length) := by
  unfold nextItem
  split
  · rename_i same
    cases same
  · rename_i same
    cases same
    cases single
  · rename_i same
    cases same
    cases bare
  · rename_i same
    cases same
    rfl
  · rename_i other same
    cases same
    exact (other rfl).elim

theorem Ends.of_identifier {id cs : List Char} {p : Char → Bool} (identifier : Identifier id)
    (out : ∀ c, isNameStart c = true → p c = false) : Ends p (id ++ cs) := by
  cases id with
  | nil => exact identifier.elim
  | cons c id => exact out c identifier.1

/-- A reading starts with the next item and goes on after it. -/
theorem Reading.next {cs : List Char} {item : Item} {items : List Item} (reading : Reading cs (item :: items)) :
    ∃ rest, nextItem cs = some (item, rest) ∧ Reading rest items := by
  cases reading with
  | char other later => exact ⟨_, nextItem_char other _, later⟩
  | doubled later => exact ⟨_, rfl, later⟩
  | @braced inner cs _ closed later =>
      have before : ∀ c ∈ inner, (c == '}') = false := by
        intro c member
        rw [beq_eq_false_iff_ne]
        rintro rfl
        exact closed member
      have found := @Text.splitOnce_some (· == '}') (inner ++ '}' :: cs) inner cs '}' before (by decide) rfl
      exact ⟨cs, by rw [nextItem, found], later⟩
  | @unterminated rest closed =>
      have absent : ∀ c ∈ rest, (c == '}') = false := by
        intro c member
        rw [beq_eq_false_iff_ne]
        rintro rfl
        exact closed member
      exact ⟨[], by rw [nextItem, Text.splitOnce_none absent], .nil⟩
  | @name id cs _ identifier ends later =>
      have dollar : Ends (· == '$') (id ++ cs) := .of_identifier identifier fun c start => by
        rw [beq_eq_false_iff_ne]
        rintro rfl
        cases start
      have brace : Ends (· == '{') (id ++ cs) := .of_identifier identifier fun c start => by
        rw [beq_eq_false_iff_ne]
        rintro rfl
        cases start
      refine ⟨cs, ?_, later⟩
      rw [nextItem_dollar dollar brace, scanIdentifier_append identifier ends]
      cases id with
      | nil => exact identifier.elim
      | cons c id => rw [if_neg (List.cons_ne_nil c id), List.drop_left]
  | dollar single bare start later =>
      refine ⟨_, ?_, later⟩
      rw [nextItem_dollar single bare, if_pos (scanIdentifier_nil start)]

/-- A text has only one reading. -/
theorem Reading.unique {cs : List Char} {items others : List Item} (reading : Reading cs items) (other : Reading cs others) :
    items = others := by
  induction items generalizing cs others with
  | nil =>
      cases reading
      cases other
      rfl
  | cons item items ih =>
      obtain ⟨rest, first, later⟩ := reading.next
      cases others with
      | nil =>
          cases other
          cases first
      | cons otherItem others =>
          obtain ⟨otherRest, otherFirst, otherLater⟩ := other.next
          rw [first] at otherFirst
          cases otherFirst
          rw [ih later otherLater]

/-- Every text has a reading. -/
theorem reading_exists (cs : List Char) : ∃ items, Reading cs items := by
  induction length : cs.length using Nat.strong_induction_on generalizing cs with
  | _ n ih =>
      have shorter (rest : List Char) (less : rest.length < cs.length) : ∃ items, Reading rest items :=
        ih rest.length (length ▸ less) rest rfl
      cases cs with
      | nil => exact ⟨[], .nil⟩
      | cons c cs =>
          by_cases dollar : c = '$'
          · subst dollar
            by_cases single : Ends (· == '$') cs
            · by_cases bare : Ends (· == '{') cs
              · rcases scanIdentifier_cases cs with ⟨_, start⟩ | ⟨identifier, rest, whole, ends⟩
                · obtain ⟨items, later⟩ := shorter cs (Nat.lt_succ_self _)
                  exact ⟨_, .dollar single bare start later⟩
                · have size := congrArg List.length whole
                  rw [List.length_append] at size
                  obtain ⟨items, later⟩ := shorter rest (by rw [List.length_cons]; omega)
                  rw [whole]
                  exact ⟨_, .name identifier ends later⟩
              · cases cs with
                | nil => exact absurd trivial bare
                | cons d cs =>
                    obtain rfl : d = '{' := by simpa [Ends] using bare
                    rcases Text.splitOnce_cases (· == '}') cs with ⟨inner, e, rest, whole, before, brace, _⟩ | ⟨absent, _⟩
                    · obtain rfl : e = '}' := by simpa using brace
                      have size := congrArg List.length whole
                      rw [List.length_append, List.length_cons] at size
                      obtain ⟨items, later⟩ := shorter rest (by rw [List.length_cons, List.length_cons]; omega)
                      rw [whole]
                      refine ⟨_, .braced ?_ later⟩
                      intro member
                      have out := before '}' member
                      cases out
                    · refine ⟨_, .unterminated ?_⟩
                      intro member
                      have out := absent '}' member
                      cases out
            · cases cs with
              | nil => exact absurd trivial single
              | cons d cs =>
                  obtain rfl : d = '$' := by simpa [Ends] using single
                  obtain ⟨items, later⟩ := shorter cs (by rw [List.length_cons, List.length_cons]; omega)
                  exact ⟨_, .doubled later⟩
          · obtain ⟨items, later⟩ := shorter cs (Nat.lt_succ_self _)
            exact ⟨_, .char dollar later⟩

end EnvContext

end Ezpn
