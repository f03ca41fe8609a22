import Mathlib.Tactic.Linarith

/-!
# Fragmented sources

A source returns its stream in pieces, read by read, with errors in between. The
loops over single reads follow the standard library of the modelled programs: an
interrupted read is repeated, any other error ends the loop. Their rules speak of
the stream only, not of its pieces.
-/

set_option autoImplicit false

inductive ErrorKind where
  | interrupted | unexpectedEof | invalidInput | invalidData | other
  deriving DecidableEq, Repr

structure StreamError where
  kind : ErrorKind
  message : String
  deriving DecidableEq, Repr

/-- What one read meets; the end of the stream follows the last delivery. -/
inductive Delivery (α : Type) where
  | chunk (items : { items : List α // items ≠ [] })
  | error (e : StreamError)

structure Source (α : Type) where
  deliveries : List (Delivery α)
  received : Nat := 0
  /-- The sizes that buffers grew to, each with the number of items received by then. -/
  buffers : List (Nat × Nat) := []

/-- A computation that reads from a source. -/
abbrev Reader (α β : Type) : Type := EStateM StreamError (Source α) β

namespace Source
variable {α : Type}

/-- The stream up to an error that is not an interruption. -/
def streamOf : List (Delivery α) → List α
  | [] => []
  | .chunk items :: rest => items.val ++ streamOf rest
  | .error e :: rest => if e.kind = .interrupted then streamOf rest else []

def stream (s : Source α) : List α := streamOf s.deliveries

/-- Single reads that are left, if every read takes one item. -/
def weight : List (Delivery α) → Nat
  | [] => 0
  | .chunk items :: rest => items.val.length + weight rest
  | .error _ :: rest => 1 + weight rest

/-- One read into a buffer of `capacity` items; an empty result is the end of the stream. -/
def read (capacity : Nat) : Reader α (List α) := fun s =>
  match s.deliveries with
  | [] => .ok [] s
  | .error e :: rest => .error e { s with deliveries := rest }
  | .chunk items :: rest =>
      if whole : items.val.length ≤ capacity then
        .ok items.val { s with deliveries := rest, received := s.received + items.val.length }
      else
        .ok (items.val.take capacity)
          { s with
            deliveries := .chunk ⟨items.val.drop capacity, by simpa [List.drop_eq_nil_iff] using whole⟩ :: rest
            received := s.received + capacity }

/-- The source after `n` items of its stream. -/
structure Advanced (s : Source α) (n : Nat) (s' : Source α) : Prop where
  stream : s'.stream = s.stream.drop n
  received : s'.received = s.received + n
  buffers : s'.buffers = s.buffers

theorem read_cases {capacity : Nat} (positive : 0 < capacity) (s : Source α) :
    (s.stream = [] ∧ read capacity s = .ok [] s) ∨
      (∃ e rest, read capacity s = .error e { s with deliveries := rest } ∧ weight rest < weight s.deliveries ∧
        (e.kind = .interrupted ∧ streamOf rest = s.stream ∨ e.kind ≠ .interrupted ∧ s.stream = [])) ∨
      ∃ got s', read capacity s = .ok got s' ∧ got ≠ [] ∧ got.length ≤ capacity ∧ s.stream = got ++ s'.stream ∧
        s'.received = s.received + got.length ∧ s'.buffers = s.buffers ∧ weight s'.deliveries < weight s.deliveries := by
  obtain ⟨deliveries, received, buffers⟩ := s
  cases deliveries with
  | nil => exact .inl ⟨rfl, rfl⟩
  | cons first rest =>
      cases first with
      | error e =>
          refine .inr (.inl ⟨e, rest, rfl, by simp [weight], ?_⟩)
          by_cases interrupted : e.kind = .interrupted
          · exact .inl ⟨interrupted, by simp [stream, streamOf, interrupted]⟩
          · exact .inr ⟨interrupted, by simp [stream, streamOf, interrupted]⟩
      | chunk items =>
          obtain ⟨items, nonempty⟩ := items
          have length := List.length_pos_iff.mpr nonempty
          by_cases whole : items.length ≤ capacity
          · refine .inr (.inr ⟨items, { deliveries := rest, received := received + items.length, buffers }, dif_pos whole,
              nonempty, whole, rfl, rfl, rfl, ?_⟩)
            simp only [weight]
            omega
          · have nonemptyRest : items.drop capacity ≠ [] := by simpa [List.drop_eq_nil_iff] using whole
            refine .inr (.inr ⟨items.take capacity,
              { deliveries := .chunk ⟨items.drop capacity, nonemptyRest⟩ :: rest, received := received + capacity, buffers },
              dif_neg whole, ?_, ?_, ?_, ?_, rfl, ?_⟩)
            · exact List.ne_nil_of_length_pos (by rw [List.length_take]; omega)
            · simp
            · simp only [stream, streamOf]
              rw [← List.append_assoc, List.take_append_drop]
            · simp only [List.length_take]
              omega
            · simp only [weight, List.length_drop]
              omega

theorem read_ended {capacity : Nat} (positive : 0 < capacity) {s s' : Source α} (result : read capacity s = .ok [] s') :
    s.stream = [] ∧ s' = s := by
  rcases read_cases positive s with ⟨ended, read⟩ | ⟨_, _, read, _⟩ | ⟨_, _, read, nonempty, _⟩
  · rw [read] at result
    cases result
    exact ⟨ended, rfl⟩
  · rw [read] at result
    cases result
  · rw [read] at result
    cases result
    exact absurd rfl nonempty

theorem read_ok {capacity : Nat} (positive : 0 < capacity) {s s' : Source α} {got : List α}
    (result : read capacity s = .ok got s') (nonempty : got ≠ []) :
    got.length ≤ capacity ∧ s.stream = got ++ s'.stream ∧ s'.received = s.received + got.length ∧
      s'.buffers = s.buffers ∧ weight s'.deliveries < weight s.deliveries := by
  rcases read_cases positive s with ⟨_, read⟩ | ⟨_, _, read, _⟩ | ⟨_, _, read, _, bounded⟩
  · rw [read] at result
    cases result
    exact absurd rfl nonempty
  · rw [read] at result
    cases result
  · rw [read] at result
    cases result
    exact bounded

theorem read_error {capacity : Nat} (positive : 0 < capacity) {s s' : Source α} {e : StreamError}
    (result : read capacity s = .error e s') :
    s'.received = s.received ∧ s'.buffers = s.buffers ∧ weight s'.deliveries < weight s.deliveries ∧
      (e.kind = .interrupted ∧ s'.stream = s.stream ∨ e.kind ≠ .interrupted ∧ s.stream = []) := by
  rcases read_cases positive s with ⟨_, read⟩ | ⟨_, _, read, less, outcome⟩ | ⟨_, _, read, _⟩
  · rw [read] at result
    cases result
  · rw [read] at result
    cases result
    exact ⟨rfl, rfl, less, outcome⟩
  · rw [read] at result
    cases result

/-- Reads until `wanted` items or the end. `window` is the room that the caller's buffer
offers once it holds `filled` items. -/
def fill (window : Nat → Nat) (wanted filled : Nat) (s : Source α) : EStateM.Result StreamError (Source α) (List α) :=
  if 0 < wanted then
    match _result : read (min (max 1 (window filled)) wanted) s with
    | .ok got s' =>
        if _ended : got = [] then .ok [] s'
        else
          match fill window (wanted - got.length) (filled + got.length) s' with
          | .ok more s'' => .ok (got ++ more) s''
          | .error e s'' => .error e s''
    | .error e s' => if e.kind = .interrupted then fill window wanted filled s' else .error e s'
  else .ok [] s
termination_by weight s.deliveries
decreasing_by
  · exact (read_ok (by omega) _result _ended).2.2.2.2
  · exact (read_error (by omega) _result).2.2.1

/-- Either the stream holds what is wanted, or `fill` stops at its end or at an error. -/
theorem fill_cases (window : Nat → Nat) (wanted filled : Nat) (s : Source α) :
    (wanted ≤ s.stream.length ∧
      ∃ s', fill window wanted filled s = .ok (s.stream.take wanted) s' ∧ s.Advanced wanted s') ∨
    (s.stream.length < wanted ∧
      ((∃ s', fill window wanted filled s = .ok s.stream s' ∧ s'.buffers = s.buffers) ∨
        ∃ e s', fill window wanted filled s = .error e s' ∧ s'.buffers = s.buffers)) := by
  fun_induction fill window wanted filled s with
  | case1 wanted filled s positive s' result =>
      obtain ⟨ended, rfl⟩ := read_ended (by omega) result
      exact .inr ⟨by simpa [ended] using positive, .inl ⟨s', by rw [ended], rfl⟩⟩
  | case2 wanted filled s positive got s' result nonempty more s'' filledMore ih =>
      obtain ⟨fits, stream, received, buffers, _⟩ := read_ok (by omega) result nonempty
      have length := congrArg List.length stream
      rw [List.length_append] at length
      rw [filledMore] at ih
      rcases ih with ⟨enough, _, same, advanced⟩ | ⟨short, ⟨_, same, unchanged⟩ | ⟨_, _, same, _⟩⟩
      · obtain ⟨rfl, rfl⟩ := same
        have whole : got.length ≤ wanted := by omega
        refine .inl ⟨by omega, s'', ?_, ?_, ?_, advanced.buffers.trans buffers⟩
        · rw [stream, List.take_append, List.take_of_length_le whole]
        · rw [advanced.stream, stream, List.drop_append, List.drop_eq_nil_of_le whole, List.nil_append]
        · rw [advanced.received, received]
          omega
      · obtain ⟨rfl, rfl⟩ := same
        exact .inr ⟨by omega, .inl ⟨s'', by rw [stream], unchanged.trans buffers⟩⟩
      · cases same
  | case3 wanted filled s positive got s' result nonempty e s'' failed ih =>
      obtain ⟨fits, stream, received, buffers, _⟩ := read_ok (by omega) result nonempty
      have length := congrArg List.length stream
      rw [List.length_append] at length
      rw [failed] at ih
      rcases ih with ⟨_, _, same, _⟩ | ⟨short, ⟨_, same, _⟩ | ⟨_, _, same, unchanged⟩⟩
      · cases same
      · cases same
      · obtain ⟨rfl, rfl⟩ := same
        exact .inr ⟨by omega, .inr ⟨e, s'', rfl, unchanged.trans buffers⟩⟩
  | case4 wanted filled s positive e s' result interrupted ih =>
      obtain ⟨received, buffers, _, ⟨_, stream⟩ | ⟨other, _⟩⟩ := read_error (by omega) result
      · rw [← stream, ← buffers]
        rcases ih with ⟨enough, t, same, advanced⟩ | short
        · exact .inl ⟨enough, t, same, advanced.stream.trans (by rw [stream]), by rw [advanced.received, received],
            advanced.buffers.trans buffers⟩
        · exact .inr short
      · exact absurd interrupted other
  | case5 wanted filled s positive e s' result failed =>
      obtain ⟨_, buffers, _, ⟨interrupted, _⟩ | ⟨_, ended⟩⟩ := read_error (by omega) result
      · exact absurd interrupted failed
      · exact .inr ⟨by simpa [ended] using positive, .inr ⟨e, s', rfl, buffers⟩⟩
  | case6 wanted filled s nothing =>
      have zero : wanted = 0 := by omega
      subst zero
      exact .inl ⟨Nat.zero_le _, s, by simp, by simp, rfl, rfl⟩

/-- The error of `readExact` at the end of the stream. -/
def truncated : StreamError := { kind := .unexpectedEof, message := "failed to fill whole buffer" }

/-- Exactly `n` items; the buffer has room for all that are missing. -/
def readExact (n : Nat) : Reader α (List α) := fun s =>
  match fill (fun _ => n) n 0 s with
  | .ok got s' => if got.length < n then .error truncated s' else .ok got s'
  | .error e s' => .error e s'

/-- Everything up to the end of the stream, limited to `n` items. -/
def readToEnd (window : Nat → Nat) (n : Nat) : Reader α (List α) :=
  fill window n 0

/-- A buffer reaches `size` items. -/
def grow (size : Nat) : Reader α Unit := fun s =>
  .ok () { s with buffers := s.buffers ++ [(s.received, size)] }

/-! ## Readers of a known number of items -/

/-- The reader returns the next `n` items, or fails where the stream holds fewer. -/
def Reads (x : Reader α (List α)) (n : Nat) : Prop :=
  ∀ s, (n ≤ s.stream.length → ∃ s', x s = .ok (s.stream.take n) s' ∧ s'.stream = s.stream.drop n) ∧
    (s.stream.length < n → ∃ e s', x s = .error e s')

theorem readExact_reads (n : Nat) : Reads (α := α) (readExact n) n := by
  intro s
  rcases fill_cases (fun _ => n) n 0 s with ⟨enough, s', filled, advanced⟩ | ⟨short, ⟨s', filled, _⟩ | ⟨e, s', failed, _⟩⟩
  · refine ⟨fun _ => ⟨s', ?_, advanced.stream⟩, fun short => by omega⟩
    rw [readExact, filled]
    simp only [List.length_take]
    rw [if_neg (by omega)]
  · refine ⟨fun enough => by omega, fun _ => ⟨truncated, s', ?_⟩⟩
    rw [readExact, filled]
    simp only [if_pos short]
  · refine ⟨fun enough => by omega, fun _ => ⟨e, s', ?_⟩⟩
    rw [readExact, failed]

theorem readExact_ok {n : Nat} {s s' : Source α} {got : List α} (result : readExact n s = .ok got s') :
    s.Advanced n s' := by
  rcases fill_cases (fun _ => n) n 0 s with ⟨enough, _, filled, advanced⟩ | ⟨short, ⟨_, filled, _⟩ | ⟨_, _, failed, _⟩⟩
  · rw [readExact, filled] at result
    simp only [List.length_take] at result
    rw [if_neg (by omega)] at result
    cases result
    exact advanced
  · rw [readExact, filled] at result
    simp only [if_pos short] at result
    cases result
  · rw [readExact, failed] at result
    cases result

theorem bind_ok {β γ : Type} {x : Reader α β} {f : β → Reader α γ} {s s' : Source α} {b : β} (ran : x s = .ok b s') :
    (x >>= f) s = f b s' := by
  change EStateM.bind x f s = _
  rw [EStateM.bind, ran]

theorem bind_error {β γ : Type} {x : Reader α β} {f : β → Reader α γ} {s s' : Source α} {e : StreamError}
    (ran : x s = .error e s') : (x >>= f) s = .error e s' := by
  change EStateM.bind x f s = _
  rw [EStateM.bind, ran]

/-- Reading one part after the other. -/
theorem Reads.append {x y : Reader α (List α)} {m n : Nat} (first : Reads x m) (second : Reads y n) :
    Reads (do
      let front ← x
      let back ← y
      return front ++ back) (m + n) := by
  intro s
  refine ⟨fun enough => ?_, fun short => ?_⟩
  · obtain ⟨s', front, left⟩ := (first s).1 (by omega)
    obtain ⟨s'', back, rest⟩ := (second s').1 (by rw [left, List.length_drop]; omega)
    refine ⟨s'', ?_, ?_⟩
    · rw [bind_ok front, bind_ok back, left]
      simp only [pure, EStateM.pure, ← List.take_add]
    · rw [rest, left, List.drop_drop]
  · by_cases enough : m ≤ s.stream.length
    · obtain ⟨s', front, left⟩ := (first s).1 enough
      obtain ⟨e, s'', failed⟩ := (second s').2 (by rw [left, List.length_drop]; omega)
      exact ⟨e, s'', by rw [bind_ok front, bind_error failed]⟩
    · obtain ⟨e, s', failed⟩ := (first s).2 (by omega)
      exact ⟨e, s', bind_error failed⟩

theorem Reads.nil : Reads (α := α) (pure []) 0 := by
  intro s
  exact ⟨fun _ => ⟨s, by simp [pure, EStateM.pure], by simp⟩, fun short => by omega⟩

theorem Reads.grow {x : Reader α (List α)} {n : Nat} (reads : Reads x n) (size : Nat) :
    Reads (do Source.grow size; x) n :=
  fun s => reads { s with buffers := s.buffers ++ [(s.received, size)] }

/-! ## Pre- and postconditions -/

/-- From states in `before`, the reader returns in `after` or fails in `failed`. -/
def Triple {β : Type} (before : Source α → Prop) (x : Reader α β) (after failed : Source α → Prop) : Prop :=
  ∀ s, before s → match x s with
    | .ok _ s' => after s'
    | .error _ s' => failed s'

/-- The source after a reader has returned or failed. -/
def final {β : Type} (x : Reader α β) (s : Source α) : Source α :=
  match x s with
  | .ok _ s' => s'
  | .error _ s' => s'

section Rules
variable {β γ : Type} {before between after failed : Source α → Prop}

theorem Triple.bind {x : Reader α β} {f : β → Reader α γ} (first : Triple before x between failed)
    (second : ∀ b, Triple between (f b) after failed) : Triple before (x >>= f) after failed := by
  intro s holds
  have ran := first s holds
  cases result : x s with
  | ok b s' =>
      rw [result] at ran
      rw [bind_ok result]
      exact second b s' ran
  | error e s' =>
      rw [result] at ran
      rw [bind_error result]
      exact ran

theorem Triple.final {x : Reader α β} (triple : Triple before x after after) {s : Source α} (holds : before s) :
    after (final x s) := by
  have ran := triple s holds
  unfold Source.final
  split
  · rename_i result
    rw [result] at ran
    exact ran
  · rename_i result
    rw [result] at ran
    exact ran

theorem Triple.pure (b : β) (weaker : ∀ s, before s → after s) : Triple before (pure b) after failed :=
  weaker

theorem Triple.throw (e : StreamError) (weaker : ∀ s, before s → failed s) :
    Triple before (throw e : Reader α β) after failed :=
  weaker

theorem Triple.grow (size : Nat)
    (grown : ∀ s, before s → after { s with buffers := s.buffers ++ [(s.received, size)] }) :
    Triple before (Source.grow size) after failed :=
  grown

theorem Triple.fill (window : Nat → Nat) (n : Nat) (same : ∀ s s', before s → s'.buffers = s.buffers → failed s')
    (ended : ∀ s s', before s → s'.buffers = s.buffers → after s') :
    Triple before (readToEnd window n) after failed := by
  intro s holds
  rcases fill_cases window n 0 s with ⟨_, s', filled, advanced⟩ | ⟨_, ⟨s', filled, buffers⟩ | ⟨e, s', error, buffers⟩⟩
  · simp only [readToEnd, filled]
    exact ended s s' holds advanced.buffers
  · simp only [readToEnd, filled]
    exact ended s s' holds buffers
  · simp only [readToEnd, error]
    exact same s s' holds buffers

theorem Triple.readExact (n : Nat) (same : ∀ s s', before s → s'.buffers = s.buffers → failed s')
    (advances : ∀ s s', before s → s.Advanced n s' → after s') : Triple before (Source.readExact n) after failed := by
  intro s holds
  unfold Source.readExact
  rcases fill_cases (fun _ => n) n 0 s with ⟨_, s', filled, advanced⟩ | ⟨short, ⟨s', filled, buffers⟩ | ⟨e, s', error, buffers⟩⟩
  · simp only [filled]
    split
    · rename_i result
      split at result
      · cases result
      · cases result
        exact advances s _ holds advanced
    · rename_i result
      split at result
      · cases result
        exact same s _ holds advanced.buffers
      · cases result
  · simp only [filled, if_pos short]
    exact same s s' holds buffers
  · simp only [error]
    exact same s s' holds buffers

end Rules

end Source
