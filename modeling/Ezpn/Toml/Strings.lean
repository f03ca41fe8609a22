import Mathlib.Data.List.TakeWhile
import Ezpn.Toml.Reader

/-!
# Strings of simple documents

How much of the text a string takes, against what it says: an escape is longer than
its character. A text with escaped quotes is read back.
-/

set_option autoImplicit false

namespace Ezpn

namespace Toml.Reader

/-- The length of a text, with quotes and backslashes counted twice. -/
def weight (cs : List Char) : Nat := cs.length + cs.count '"' + cs.count '\\'

theorem weight_nil : weight [] = 0 := rfl

theorem weight_append (cs ds : List Char) : weight (cs ++ ds) = weight cs + weight ds := by
  simp only [weight, List.length_append, List.count_append]
  omega

theorem weight_cons (c : Char) (cs : List Char) : weight (c :: cs) = weight [c] + weight cs := weight_append [c] cs

theorem weight_sublist {cs ds : List Char} (sublist : cs.Sublist ds) : weight cs ≤ weight ds := by
  have length := sublist.length_le
  have quotes := sublist.count_le '"'
  have slashes := sublist.count_le '\\'
  unfold weight
  omega

theorem weight_single_le (c : Char) : weight [c] ≤ 2 := by
  by_cases quote : c = '"'
  · subst quote
    decide
  · by_cases slash : c = '\\'
    · subst slash
      decide
    · simp [weight, quote, slash]

theorem weight_plain {c : Char} (quote : c ≠ '"') (slash : c ≠ '\\') : weight [c] = 1 := by simp [weight, quote, slash]

/-! ## Escapes -/

theorem hexDigit_allowed {c : Char} {n : Nat} (digit : hexDigit c = some n) : forbidden c = false := by
  have letter : '0'.toNat ≤ c.toNat ∧ c.toNat ≤ 'f'.toNat := by
    unfold hexDigit at digit
    split at digit
    · rename_i number
      simp only [Char.isDigit, Bool.and_eq_true, decide_eq_true_eq, ge_iff_le, UInt32.le_iff_toNat_le] at number
      exact ⟨number.1, number.2.trans (by decide)⟩
    · split at digit
      · rename_i lower
        simp only [Bool.and_eq_true, decide_eq_true_eq, Char.le_def, UInt32.le_iff_toNat_le] at lower
        exact ⟨Nat.le_trans (by decide) lower.1, lower.2⟩
      · split at digit
        · rename_i upper
          simp only [Bool.and_eq_true, decide_eq_true_eq, Char.le_def, UInt32.le_iff_toNat_le] at upper
          exact ⟨Nat.le_trans (by decide) upper.1, upper.2.trans (by decide)⟩
        · nomatch digit
  have zero : '0'.toNat = 48 := rfl
  have last : 'f'.toNat = 102 := rfl
  unfold forbidden
  rw [Bool.or_eq_false_iff, Bool.and_eq_false_iff]
  exact ⟨.inl (decide_eq_false (by omega)), decide_eq_false (by omega)⟩

theorem isSome_of_mapM {α β : Type} {f : α → Option β} {xs : List α} {ys : List β} (valid : xs.mapM f = some ys) :
    ∀ x ∈ xs, ∃ y, f x = some y := by
  induction xs generalizing ys with
  | nil => exact nofun
  | cons x xs ih =>
      rw [List.mapM_cons] at valid
      obtain ⟨y, first, valid⟩ := Option.bind_eq_some_iff.mp valid
      obtain ⟨rest, more, -⟩ := Option.bind_eq_some_iff.mp valid
      exact List.forall_mem_cons.mpr ⟨⟨y, first⟩, ih more⟩

theorem hexEscape_spec {n : Nat} {cs rest : List Char} {c : Char} (read : hexEscape n cs = some (c, rest)) :
    ∃ digits, cs = digits ++ rest ∧ digits.length = n ∧ ∀ d ∈ digits, forbidden d = false := by
  unfold hexEscape at read
  split at read
  · nomatch read
  · rename_i long
    split at read
    · nomatch read
    · rename_i values valid
      dsimp only at read
      split at read
      · cases read
        refine ⟨cs.take n, (List.take_append_drop n cs).symm, ?_, fun d member => ?_⟩
        · rw [List.length_take]
          omega
        · obtain ⟨value, digit⟩ := isSome_of_mapM valid d member
          exact hexDigit_allowed digit
      · nomatch read

theorem shortEscape_allowed {e c : Char} (short : shortEscape e = some c) : forbidden e = false := by
  unfold shortEscape at short
  repeat' split at short
  all_goals first | (subst_vars; rfl) | cases short

/-- A character of a string takes at least its weight of the text. -/
theorem unit_spec {cs rest : List Char} {c : Char} (plain : cs.head? ≠ some '"') (read : unit cs = some (c, rest)) :
    ∃ raw, cs = raw ++ rest ∧ weight [c] ≤ raw.length ∧ raw ≠ [] ∧ ∀ d ∈ raw, forbidden d = false := by
  cases cs with
  | nil => nomatch read
  | cons d cs =>
      have light := weight_single_le c
      rw [unit.eq_def] at read
      dsimp only at read
      split at read
      · rename_i slash
        subst slash
        cases cs with
        | nil => nomatch read
        | cons e cs =>
            have hex {n : Nat} (positive : 0 < n) (marker : forbidden e = false) (read : hexEscape n cs = some (c, rest)) :
                ∃ raw, '\\' :: e :: cs = raw ++ rest ∧ weight [c] ≤ raw.length ∧ raw ≠ [] ∧ ∀ d ∈ raw, forbidden d = false := by
              obtain ⟨digits, rfl, length, allowed⟩ := hexEscape_spec read
              refine ⟨'\\' :: e :: digits, rfl, ?_, List.cons_ne_nil _ _, ?_⟩
              · simp only [List.length_cons]
                omega
              · exact List.forall_mem_cons.mpr ⟨rfl, List.forall_mem_cons.mpr ⟨marker, allowed⟩⟩
            dsimp only at read
            split at read
            · rename_i marker
              exact hex (by decide) (marker ▸ rfl) read
            · split at read
              · rename_i marker
                exact hex (by decide) (marker ▸ rfl) read
              · obtain ⟨c', short, same⟩ := Option.map_eq_some_iff.mp read
                cases same
                refine ⟨['\\', e], rfl, light, List.cons_ne_nil _ _, ?_⟩
                exact List.forall_mem_cons.mpr ⟨rfl, List.forall_mem_singleton.mpr (shortEscape_allowed short)⟩
      · rename_i slash
        split at read
        · nomatch read
        · rename_i allowed
          cases read
          refine ⟨[c], rfl, Nat.le_of_eq (weight_plain (fun quote => plain (congrArg some quote)) slash), List.cons_ne_nil c [], ?_⟩
          exact List.forall_mem_singleton.mpr (Bool.not_eq_true _ ▸ allowed)

/-! ## One line -/

/-- What a string says weighs no more than the text it takes, which has no control characters. -/
theorem basic_spec {fuel : Nat} {cs value rest : List Char} (read : basic fuel cs = some (value, rest)) :
    ∃ body, cs = body ++ '"' :: rest ∧ weight value ≤ body.length ∧ ∀ c ∈ body, forbidden c = false := by
  induction fuel generalizing cs value with
  | zero => cases read
  | succ fuel ih =>
      unfold basic at read
      split at read
      · rename_i closed
        cases read
        cases cs with
        | nil => cases closed
        | cons c cs => exact ⟨[], by rw [Option.some.inj closed]; rfl, Nat.le_refl 0, by rintro _ ⟨⟩⟩
      · rename_i opened
        split at read
        · cases read
        · rename_i c after one
          obtain ⟨⟨value', rest'⟩, more, same⟩ := Option.map_eq_some_iff.mp read
          cases same
          obtain ⟨raw, rfl, light, -, allowed⟩ := unit_spec opened one
          obtain ⟨body, rfl, lighter, inside⟩ := ih more
          refine ⟨raw ++ body, by rw [List.append_assoc], ?_, ?_⟩
          · rw [weight_cons, List.length_append]
            omega
          · exact List.forall_mem_append.mpr ⟨allowed, inside⟩

/-- A character as it is written, with escaped quotes. -/
def escaped (cs : List Char) : List Char := cs.flatMap fun c => if c = '"' then ['\\', '"'] else [c]

/-- Characters that are kept where only quotes are escaped. -/
def Kept (cs : List Char) : Prop := ∀ c ∈ cs, c ≠ '\\' ∧ forbidden c = false

theorem basic_escaped {cs : List Char} (kept : Kept cs) (rest : List Char) {fuel : Nat} (enough : cs.length < fuel) :
    basic fuel (escaped cs ++ '"' :: rest) = some (cs, rest) := by
  induction cs generalizing fuel with
  | nil =>
      cases fuel with
      | zero => nomatch enough
      | succ fuel => rfl
  | cons c cs ih =>
      cases fuel with
      | zero => nomatch enough
      | succ fuel =>
          obtain ⟨⟨slash, allowed⟩, later⟩ := List.forall_mem_cons.mp kept
          have next := ih later (Nat.lt_of_succ_lt_succ enough)
          by_cases quote : c = '"'
          · subst quote
            change (basic fuel (escaped cs ++ '"' :: rest)).map _ = _
            rw [next]
            rfl
          · have first : escaped (c :: cs) ++ '"' :: rest = c :: (escaped cs ++ '"' :: rest) := by
              rw [escaped, List.flatMap_cons, if_neg quote]
              rfl
            have opened : (c :: (escaped cs ++ '"' :: rest)).head? ≠ some '"' := fun same => quote (Option.some.inj same)
            have one : unit (c :: (escaped cs ++ '"' :: rest)) = some (c, escaped cs ++ '"' :: rest) := by
              rw [unit.eq_def]
              dsimp only
              rw [if_neg slash, allowed]
              rfl
            rw [first, basic, if_neg opened, one]
            dsimp only
            rw [next]
            rfl

/-! ## Several lines -/

/-- A string that says nothing of a line end takes none, and at least three characters more than it says. -/
theorem multiLine_spec {fuel : Nat} {cs value rest : List Char} (read : multiLine fuel cs = some (value, rest))
    (oneLine : '\n' ∉ value) : ∃ body, cs = body ++ rest ∧ value.length + 3 ≤ body.length ∧ '\n' ∉ body := by
  induction fuel generalizing cs value with
  | zero => nomatch read
  | succ fuel ih =>
      unfold multiLine at read
      dsimp only at read
      split at read
      · rename_i closed
        cases read
        generalize extra : min ((cs.takeWhile (· = '"')).length - 3) 2 = n at *
        refine ⟨cs.take (n + 3), (List.take_append_drop _ cs).symm, ?_, ?_⟩
        · have shorter := (cs.takeWhile_sublist (· = '"')).length_le
          rw [List.length_replicate, List.length_take]
          omega
        · have quotes : cs.take (n + 3) = (cs.takeWhile (· = '"')).take (n + 3) := by
            conv_lhs => rw [← @List.takeWhile_append_dropWhile _ (· = '"') cs]
            rw [List.take_append_of_le_length (by omega)]
          rw [quotes]
          intro member
          have quote := List.mem_takeWhile_imp (List.mem_of_mem_take member)
          nomatch quote
      · split at read
        · rename_i opened kept
          obtain ⟨⟨value', rest'⟩, more, same⟩ := Option.map_eq_some_iff.mp read
          cases same
          cases cs with
          | nil => nomatch kept
          | cons c cs =>
              obtain ⟨this, later⟩ := not_or.mp (mt List.mem_cons.mpr oneLine)
              obtain ⟨body, rfl, longer, inside⟩ := ih more later
              refine ⟨c :: body, rfl, Nat.succ_le_succ longer, ?_⟩
              exact fun member => (List.mem_cons.mp member).elim this inside
        · rename_i opened plain
          split at read
          · nomatch read
          · rename_i c after one
            obtain ⟨⟨value', rest'⟩, more, same⟩ := Option.map_eq_some_iff.mp read
            cases same
            have unquoted : cs.head? ≠ some '"' := fun quote => plain (by rw [quote]; rfl)
            obtain ⟨raw, rfl, -, nonempty, allowed⟩ := unit_spec unquoted one
            obtain ⟨body, rfl, longer, inside⟩ := ih more fun member => oneLine (List.mem_cons_of_mem _ member)
            have positive := List.length_pos_iff.mpr nonempty
            refine ⟨raw ++ body, by rw [List.append_assoc], ?_, ?_⟩
            · change value'.length + 1 + 3 ≤ (raw ++ body).length
              rw [List.length_append]
              omega
            · intro member
              rcases List.mem_append.mp member with early | late
              · nomatch allowed '\n' early
              · exact inside late

end Toml.Reader

end Ezpn
