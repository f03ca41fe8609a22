import Mathlib.Data.List.DropRight
import Ezpn.Lib.Checked

/-!
# Bounded logs

A log that keeps the last `n` of the entries written to it, and a reader's place in
it, counted from its end. Entries written one after the other or all at once leave
the same log, and a reader that follows them stays at its entry until it is dropped.
A program that edits a log without reading it makes the same edits whatever the log holds.
-/

set_option autoImplicit false

namespace Window
variable {α : Type}

theorem rtake_eq_drop (xs : List α) (n : Nat) : xs.rtake n = xs.drop (xs.length - n) := rfl

theorem length_rtake (xs : List α) (n : Nat) : (xs.rtake n).length = min xs.length n := by
  rw [rtake_eq_drop, List.length_drop]
  omega

theorem rtake_of_length_le {xs : List α} {n : Nat} (short : xs.length ≤ n) : xs.rtake n = xs := by
  rw [rtake_eq_drop, Nat.sub_eq_zero_of_le short, List.drop_zero]

/-- What has been dropped before does not matter. -/
theorem rtake_rtake_append (xs ys : List α) (n : Nat) : (xs.rtake n ++ ys).rtake n = (xs ++ ys).rtake n := by
  simp only [List.rtake_eq_reverse_take_reverse, List.reverse_append, List.reverse_reverse, List.take_append,
    List.take_take]
  rw [Nat.min_eq_left (Nat.sub_le ..)]

/-- The reader's place after `pushed` entries: at the end it stays at the end. -/
def follow (offset pushed length : Nat) : Nat := if offset = 0 then 0 else min length (offset + pushed)

theorem follow_zero {offset length : Nat} (inside : offset ≤ length) : follow offset 0 length = offset := by
  unfold follow
  split <;> omega

theorem follow_follow {offset first second before after : Nat} (grown : after ≤ before + second)
    (present : offset ≠ 0 → 0 < before) :
    follow (follow offset first before) second after = follow offset (first + second) after := by
  unfold follow
  split_ifs <;> omega

/-- A log and a reader's place in it, before and after some entries were written. -/
structure Follows (n : Nat) (log : List α) (offset : Nat) (log' : List α) (offset' : Nat) (pushed : List α) : Prop where
  log : log' = (log ++ pushed).rtake n
  offset : offset' = follow offset pushed.length log'.length

theorem Follows.refl {n : Nat} {log : List α} {offset : Nat} (bounded : log.length ≤ n) (inside : offset ≤ log.length) :
    Follows n log offset log offset [] where
  log := by rw [List.append_nil, rtake_of_length_le bounded]
  offset := (follow_zero inside).symm

theorem Follows.trans {n : Nat} {log log' log'' : List α} {offset offset' offset'' : Nat} {first second : List α}
    (bounded : log.length ≤ n) (inside : offset ≤ log.length) (earlier : Follows n log offset log' offset' first)
    (later : Follows n log' offset' log'' offset'' second) :
    Follows n log offset log'' offset'' (first ++ second) where
  log := by rw [later.log, earlier.log, rtake_rtake_append, List.append_assoc]
  offset := by
    have before := length_rtake (log ++ first) n
    have after := length_rtake (log' ++ second) n
    rw [← earlier.log] at before
    rw [← later.log] at after
    rw [later.offset, earlier.offset, List.length_append, follow_follow]
    · rw [List.length_append] at after
      omega
    · intro scrolled
      rw [List.length_append] at before
      omega

/-! ## Programs that do not read their log -/

variable {H E S T : Type} {put : H → S → S} {put' : H → T → T} {edit : H → E → H}

/-- Whatever the log is, the program stops or goes on as it does, and makes the same edits
of the log. `put` gives a state its log. -/
def Writes (put : H → S → S) (edit : H → E → H) (step : H → Option S) : Prop :=
  ∃ result : Option (S × List E), ∀ log, step log = result.map fun made => put (made.2.foldl edit log) made.1

namespace Writes

theorem edits (s : S) (changes : List E) : Writes put edit fun log => some (put (changes.foldl edit log) s) :=
  ⟨some (s, changes), fun _ => rfl⟩

theorem unchanged (s : S) : Writes put edit fun log => some (put log s) := edits s []

theorem bind {step : H → Option S} {next : S → Option T} (first : Writes put edit step)
    (rest : ∀ s, Writes put' edit fun log => next (put log s)) : Writes put' edit fun log => step log >>= next := by
  obtain ⟨_ | ⟨s, before⟩, same⟩ := first
  · refine ⟨none, fun log => ?_⟩
    show step log >>= next = none
    rw [same log]
    rfl
  · obtain ⟨result, same'⟩ := rest s
    refine ⟨result.map fun made => (made.1, before ++ made.2), fun log => ?_⟩
    show step log >>= next = _
    rw [same log]
    show next (put (before.foldl edit log) s) = _
    rw [show next _ = _ from same' _, Option.map_map]
    simp only [Function.comp_def, List.foldl_append]

theorem map {step : H → Option S} {f g : S → T} (first : Writes put edit step)
    (commutes : ∀ s log, f (put log s) = put' log (g s)) : Writes put' edit fun log => (step log).map f := by
  obtain ⟨result, same⟩ := first
  refine ⟨result.map fun made => (g made.1, made.2), fun log => ?_⟩
  show (step log).map f = _
  rw [same, Option.map_map, Option.map_map]
  exact congrArg (result.map ·) (funext fun made => commutes made.1 _)

/-- What is computed apart from the log. -/
theorem given {α : Type} (x : Option α) {next : α → H → Option S} (rest : ∀ a, Writes put edit (next a)) :
    Writes put edit fun log => x >>= fun a => next a log := by
  cases x with
  | none => exact ⟨none, fun _ => rfl⟩
  | some a => exact rest a

theorem ite {c : Prop} [Decidable c] {yes no : H → Option S} (first : c → Writes put edit yes)
    (second : ¬ c → Writes put edit no) : Writes put edit fun log => if c then yes log else no log := by
  by_cases test : c
  · simpa only [if_pos test] using first test
  · simpa only [if_neg test] using second test

theorem times {body : S → Option S} (round : ∀ s, Writes put edit fun log => body (put log s)) (n : Nat) (s : S) :
    Writes put edit fun log => Checked.times body n (put log s) := by
  induction n generalizing s with
  | zero => exact unchanged s
  | succ n ih => exact (round s).bind ih

theorem foldlM {step : S → T → Option S} (round : ∀ s t, Writes put edit fun log => step (put log s) t) (ts : List T)
    (s : S) : Writes put edit fun log => ts.foldlM step (put log s) := by
  induction ts generalizing s with
  | nil => exact unchanged s
  | cons t ts ih =>
      simp only [List.foldlM_cons]
      exact (round s t).bind ih

theorem foldl {step : S → T → S} (round : ∀ s t, Writes put edit fun log => some (step (put log s) t)) (ts : List T)
    (s : S) : Writes put edit fun log => some (ts.foldl step (put log s)) := by
  induction ts generalizing s with
  | nil => exact unchanged s
  | cons t ts ih =>
      show Writes put edit fun log => some (step (put log s) t) >>= fun s => some (ts.foldl step s)
      exact (round s t).bind ih

end Writes

end Window
