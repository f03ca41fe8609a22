import Mathlib.Data.List.Basic

/-!
# Retries

A log of attempts on behalf of keys, with the latest event first. A key that rests
gets its whole budget back; a key that is gone is forgotten. A log is lawful if no
key overdraws its budget, or makes an attempt earlier than its delay allows.
-/

set_option autoImplicit false

namespace Retries
variable {κ : Type} [DecidableEq κ]

inductive Event (κ : Type) where
  | attempted (key : κ) (time : Nat)
  | rested (key : κ)
  | gone (key : κ)

/-- The event ends a stretch of the key's attempts. -/
def Event.Renews (key : κ) : Event κ → Prop
  | .attempted _ _ => False
  | .rested other => other = key
  | .gone other => other = key

def Event.isAttempt (key : κ) : Event κ → Bool
  | .attempted other _ => other = key
  | .rested _ => false
  | .gone _ => false

/-- Attempts since the budget was last renewed. -/
@[grind =] def streak (key : κ) : List (Event κ) → Nat
  | [] => 0
  | .attempted other _ :: log => if other = key then streak key log + 1 else streak key log
  | .rested other :: log => if other = key then 0 else streak key log
  | .gone other :: log => if other = key then 0 else streak key log

/-- When the key's latest attempt was made. -/
@[grind =] def lastAttempt (key : κ) : List (Event κ) → Option Nat
  | [] => none
  | .attempted other time :: log => if other = key then some time else lastAttempt key log
  | .rested _ :: log => lastAttempt key log
  | .gone other :: log => if other = key then none else lastAttempt key log

/-- An attempt after earlier events stays within budget and waits for its turn. -/
def Event.LawfulAfter (budget : Nat) (delay : Nat → Nat) (log : List (Event κ)) : Event κ → Prop
  | .attempted key time =>
      streak key log < budget ∧ ∀ last ∈ lastAttempt key log, last + delay (streak key log) ≤ time
  | .rested _ => True
  | .gone _ => True

def Lawful (budget : Nat) (delay : Nat → Nat) : List (Event κ) → Prop
  | [] => True
  | event :: log => event.LawfulAfter budget delay log ∧ Lawful budget delay log

variable {budget : Nat} {delay : Nat → Nat} {key : κ} {log : List (Event κ)}

/-- Without an attempt on record there is no streak. -/
theorem streak_of_lastAttempt_none (none : lastAttempt key log = none) : streak key log = 0 := by
  induction log with
  | nil => rfl
  | cons event log ih =>
      cases event with
      | attempted other time =>
          by_cases same : other = key
          · simp [lastAttempt, same] at none
          · simp only [lastAttempt, if_neg same] at none
            simpa [streak, same] using ih none
      | rested other =>
          by_cases same : other = key
          · simp [streak, same]
          · simpa [streak, same] using ih none
      | gone other =>
          by_cases same : other = key
          · simp [streak, same]
          · simp only [lastAttempt, if_neg same] at none
            simpa [streak, same] using ih none

theorem Lawful.of_append {later : List (Event κ)} (lawful : Lawful budget delay (later ++ log)) :
    Lawful budget delay log := by
  induction later with
  | nil => exact lawful
  | cons event later ih => exact ih lawful.2

theorem Lawful.streak_le (lawful : Lawful budget delay log) : streak key log ≤ budget := by
  induction log with
  | nil => exact Nat.zero_le _
  | cons event log ih =>
      have before := ih lawful.2
      cases event with
      | attempted other time =>
          by_cases same : other = key
          · subst same
            simpa [streak] using Nat.succ_le_of_lt lawful.1.1
          · simpa [streak, same] using before
      | rested other | gone other =>
          simp only [streak]
          split
          · exact Nat.zero_le _
          · exact before

/-- A stretch that nothing ends adds its attempts to the streak. -/
theorem streak_append {stretch : List (Event κ)} (unbroken : ∀ event ∈ stretch, ¬ event.Renews key) :
    streak key (stretch ++ log) = stretch.countP (·.isAttempt key) + streak key log := by
  induction stretch with
  | nil => simp
  | cons event stretch ih =>
      have rest := ih fun event member => unbroken event (List.mem_cons_of_mem _ member)
      have here := unbroken event List.mem_cons_self
      cases event with
      | attempted other time =>
          by_cases same : other = key
          · simp [streak, Event.isAttempt, same, rest, Nat.add_right_comm]
          · simp [streak, Event.isAttempt, same, rest]
      | rested other | gone other =>
          have different : other ≠ key := here
          simp [streak, Event.isAttempt, different, rest]

/-- Between two renewals a lawful log holds no more attempts than the budget. -/
theorem Lawful.attempts_le {later stretch : List (Event κ)} (lawful : Lawful budget delay (later ++ stretch ++ log))
    (unbroken : ∀ event ∈ stretch, ¬ event.Renews key) : stretch.countP (·.isAttempt key) ≤ budget := by
  rw [List.append_assoc] at lawful
  have most : streak key (stretch ++ log) ≤ budget := lawful.of_append.streak_le
  rw [streak_append unbroken] at most
  exact Nat.le_trans (Nat.le_add_right _ _) most

/-! ## Appending -/

/-- Log an attempt of every key at one time. -/
def attemptAll (time : Nat) (keys : List κ) (log : List (Event κ)) : List (Event κ) :=
  keys.foldl (fun log key => .attempted key time :: log) log

theorem attemptAll_notMem {time : Nat} {keys : List κ} (absent : key ∉ keys) :
    streak key (attemptAll time keys log) = streak key log ∧
      lastAttempt key (attemptAll time keys log) = lastAttempt key log := by
  induction keys generalizing log with
  | nil => exact ⟨rfl, rfl⟩
  | cons other keys ih =>
      have different : other ≠ key := fun same => absent (same ▸ List.mem_cons_self)
      have rest := @ih (.attempted other time :: log) fun member => absent (List.mem_cons_of_mem _ member)
      simpa [attemptAll, streak, lastAttempt, different] using rest

theorem attemptAll_mem {time : Nat} {keys : List κ} (distinct : keys.Nodup) (member : key ∈ keys) :
    streak key (attemptAll time keys log) = streak key log + 1 ∧
      lastAttempt key (attemptAll time keys log) = some time := by
  induction keys generalizing log with
  | nil => cases member
  | cons other keys ih =>
      obtain ⟨new, rest⟩ := List.nodup_cons.mp distinct
      rcases List.mem_cons.mp member with rfl | later
      · have kept := @attemptAll_notMem _ _ key (.attempted key time :: log) time keys new
        simpa [attemptAll, streak, lastAttempt] using kept
      · have different : other ≠ key := fun same => new (same ▸ later)
        have made := @ih (.attempted other time :: log) rest later
        simpa [attemptAll, streak, lastAttempt, different] using made

/-- Attempts of distinct keys, each within its budget and in its turn, keep a log lawful. -/
theorem Lawful.attemptAll {time : Nat} {keys : List κ} (distinct : keys.Nodup) (lawful : Lawful budget delay log)
    (due : ∀ key ∈ keys, (Event.attempted key time).LawfulAfter budget delay log) :
    Lawful budget delay (attemptAll time keys log) := by
  induction keys generalizing log with
  | nil => exact lawful
  | cons key keys ih =>
      obtain ⟨new, rest⟩ := List.nodup_cons.mp distinct
      refine @ih (.attempted key time :: log) rest ⟨due key List.mem_cons_self, lawful⟩ fun other member => ?_
      have different : key ≠ other := fun same => new (same ▸ member)
      have before := due other (List.mem_cons_of_mem _ member)
      simpa [Event.LawfulAfter, streak, lastAttempt, different] using before

/-- Events that are no attempts keep a log lawful. -/
theorem Lawful.append {events : List (Event κ)} (passive : ∀ event ∈ events, ∀ log, event.LawfulAfter budget delay log)
    (lawful : Lawful budget delay log) : Lawful budget delay (events ++ log) := by
  induction events with
  | nil => exact lawful
  | cons event events ih =>
      exact ⟨passive event List.mem_cons_self _, ih fun event member => passive event (List.mem_cons_of_mem _ member)⟩

theorem rested_append (keys : List κ) :
    streak key (keys.map .rested ++ log) = (if key ∈ keys then 0 else streak key log) ∧
      lastAttempt key (keys.map .rested ++ log) = lastAttempt key log := by
  induction keys with
  | nil => simp
  | cons other keys ih =>
      by_cases same : other = key
      · simp [streak, lastAttempt, same, ih.2]
      · have flipped : key ≠ other := fun other => same other.symm
        simp [streak, lastAttempt, same, flipped, ih.1, ih.2]

theorem gone_append (keys : List κ) :
    streak key (keys.map .gone ++ log) = (if key ∈ keys then 0 else streak key log) ∧
      lastAttempt key (keys.map .gone ++ log) = if key ∈ keys then none else lastAttempt key log := by
  induction keys with
  | nil => simp
  | cons other keys ih =>
      by_cases same : other = key
      · simp [streak, lastAttempt, same]
      · have flipped : key ≠ other := fun other => same other.symm
        simp [streak, lastAttempt, same, flipped, ih.1, ih.2]

end Retries
