import Ezpn.Lib.CharBytes
import Ezpn.Terminal.State
import Mathlib.Data.List.Forall2

/-!
# Substitution in hook templates

The scanner works on byte indices, with slices that panic between two characters. What
it computes is a relation on texts: references are replaced once, from left to right,
and nothing else changes.
-/

set_option autoImplicit false

namespace Ezpn.Hooks

open CharBytes

/-- 1 MiB. -/
def hookArgvMaxBytes : Nat := 1024 * 1024

structure HookPayload where
  fields : List (String × String) := []

/-- The field that was set last. -/
def HookPayload.get (payload : HookPayload) (key : String) : Option String := payload.fields.lookup key

def HookPayload.insert (key value : String) (payload : HookPayload) : HookPayload :=
  { fields := (key, value) :: payload.fields }

/-! ## The scanner -/

/-- `str::len`. -/
def byteLen (text : List Char) : Nat := (encode text).length

/-- `rest.find('}')`. -/
def findClose (rest : List Char) : Option Nat := (encode rest).findIdx? (· == 125)

/-- One round of the loop at a byte index: the next index, and what is written; `none` is a panic. -/
inductive Round where
  | pushed (next : Nat) (out : List Char)
  | tooLong
  deriving DecidableEq

/-- The branch of a character that starts no reference. -/
def pushChar (input : List Char) (i : Nat) (out : List Char) : Option Round :=
  match dropBytes i input with
  | some (c :: _) =>
      if byteLen (out ++ [c]) > hookArgvMaxBytes then some .tooLong else some (.pushed (i + c.utf8Size) (out ++ [c]))
  | _ => none

def round (payload : HookPayload) (input : List Char) (i : Nat) (b : UInt8) (out : List Char) : Option Round :=
  if b = 36 ∧ (encode input)[i + 1]? = some 123 then
    match dropBytes (i + 2) input with
    | none => none
    | some rest =>
        match findClose rest with
        | none => pushChar input i out
        | some stop =>
            match slice input (i + 2) (i + 2 + stop) with
            | none => none
            | some key =>
                match payload.get (String.ofList key) with
                | some v =>
                    if byteLen v.toList > hookArgvMaxBytes - byteLen out then some .tooLong
                    else some (.pushed (i + 2 + stop + 1) (out ++ v.toList))
                | none => some (.pushed (i + 2 + stop + 1) out)
  else pushChar input i out

/-- The loop; the outer `none` is a panic or the end of the fuel. -/
def scan (payload : HookPayload) (input : List Char) : (fuel i : Nat) → List Char → Option (Option (List Char))
  | 0, _, _ => none
  | fuel + 1, i, out =>
      match (encode input)[i]? with
      | none => some (some out)
      | some b =>
          match round payload input i b out with
          | none => none
          | some .tooLong => some none
          | some (.pushed next out) => scan payload input fuel next out

def substituteChecked (payload : HookPayload) (fuel : Nat) (input : List Char) : Option (Option (List Char)) :=
  if byteLen input > hookArgvMaxBytes then some none else scan payload input fuel 0 []

/-! ## What it stands for -/

/-- The text starts with a reference; its key ends at the first closing brace. -/
def StartsReference (text key rest : List Char) : Prop := text = '$' :: '{' :: (key ++ '}' :: rest) ∧ '}' ∉ key

/-- References are replaced by their values, or by nothing; other characters stay. -/
inductive Expands (payload : HookPayload) : List Char → List Char → Prop where
  | nil : Expands payload [] []
  | reference {text key rest out : List Char} : StartsReference text key rest → Expands payload rest out →
      Expands payload text (((payload.get (String.ofList key)).map String.toList).getD [] ++ out)
  | char {c : Char} {rest out : List Char} : (∀ key after, ¬ StartsReference (c :: rest) key after) →
      Expands payload rest out → Expands payload (c :: rest) (c :: out)

theorem StartsReference.unique {text key rest key' rest' : List Char} (left : StartsReference text key rest)
    (right : StartsReference text key' rest') : key = key' ∧ rest = rest' := by
  obtain ⟨rfl, plain⟩ := left
  obtain ⟨same, plain'⟩ := right
  simp only [List.cons.injEq, true_and] at same
  induction key generalizing key' with
  | nil =>
      cases key' with
      | nil => simpa using same
      | cons c cs =>
          simp only [List.nil_append, List.cons_append, List.cons.injEq] at same
          exact absurd (same.1 ▸ List.mem_cons_self) plain'
  | cons c cs ih =>
      cases key' with
      | nil =>
          simp only [List.nil_append, List.cons_append, List.cons.injEq] at same
          exact absurd (same.1 ▸ List.mem_cons_self) plain
      | cons d ds =>
          simp only [List.cons_append, List.cons.injEq] at same
          obtain ⟨keys, rests⟩ := ih (fun member => plain (List.mem_cons_of_mem _ member))
            (fun member => plain' (List.mem_cons_of_mem _ member)) same.2
          exact ⟨by rw [same.1, keys], rests⟩

/-- A template has one expansion. -/
theorem Expands.unique {payload : HookPayload} {text out out' : List Char} (left : Expands payload text out)
    (right : Expands payload text out') : out = out' := by
  induction left generalizing out' with
  | nil =>
      cases right with
      | nil => rfl
      | reference starts _ => cases starts.1
  | reference starts rest ih =>
      cases right with
      | nil => cases starts.1
      | reference starts' rest' =>
          obtain ⟨rfl, rfl⟩ := starts.unique starts'
          rw [ih rest']
      | char none _ => exact absurd starts (none _ _)
  | char none rest ih =>
      cases right with
      | reference starts _ => exact absurd starts (none _ _)
      | char _ rest' => rw [ih rest']

theorem Expands.total (payload : HookPayload) (text : List Char) : ∃ out, Expands payload text out := by
  induction size : text.length using Nat.strongRecOn generalizing text with
  | ind n ih =>
      by_cases starts : ∃ key rest, StartsReference text key rest
      · obtain ⟨key, rest, starts⟩ := starts
        have shorter : rest.length < n := by
          rw [← size, starts.1]
          simp only [List.length_cons, List.length_append]
          omega
        obtain ⟨out, expanded⟩ := ih rest.length shorter rest rfl
        exact ⟨_, .reference starts expanded⟩
      · cases text with
        | nil => exact ⟨[], .nil⟩
        | cons c rest =>
            obtain ⟨out, expanded⟩ := ih rest.length (by rw [← size]; exact Nat.lt_succ_self _) rest rfl
            exact ⟨c :: out, .char (fun key after found => starts ⟨key, after, found⟩) expanded⟩

/-! ## The scanner expands -/

/-- The result of the scanner from text written so far, with the expansion of the rest. -/
def bounded (out : List Char) : Option (List Char) := if byteLen out ≤ hookArgvMaxBytes then some out else none

end Ezpn.Hooks
