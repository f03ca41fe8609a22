import Ezpn.Pane.Writer

/-!
# Delivery of pastes

With a child that takes its input, what it gets and what is still queued are the
accepted writes in order. A paste is three writes, and each of them can be refused.
-/

set_option autoImplicit false

namespace Ezpn

open PtyAnswer (offered)

namespace BufferedPtyWriter

def stream (writer : BufferedPtyWriter) : Bytes := writer.received ++ writer.pending

theorem flush_accepting {answers : List PtyAnswer} (accepting : Accepting answers) (writer : BufferedPtyWriter) :
    writer.flush answers = (.ok (),
      { pending := writer.pending.drop (offered answers)
        received := writer.received ++ writer.pending.take (offered answers) }) := by
  induction answers generalizing writer with
  | nil => simp [flush, offered]
  | cons answer answers ih =>
      have rest := ih fun answer member => accepting answer (List.mem_cons_of_mem _ member)
      have first := accepting answer List.mem_cons_self
      unfold flush
      by_cases empty : writer.pending = []
      · simp only [empty, List.isEmpty_nil, if_true, List.drop_nil, List.take_nil, List.append_nil]
        rw [← empty]
      · rw [if_neg (by rwa [List.isEmpty_iff])]
        cases answer with
        | written count =>
            cases count with
            | zero => simp [PtyAnswer.isAccepting] at first
            | succ count =>
                simp only [rest, offered, List.drop_drop, List.append_assoc]
                rw [← List.take_add]
        | interrupted => exact rest writer
        | wouldBlock => simp [offered]
        | failed => simp [PtyAnswer.isAccepting] at first

variable {answers : List PtyAnswer} {writer : BufferedPtyWriter}

theorem flush_stream (accepting : Accepting answers) : (writer.flush answers).2.stream = writer.stream := by
  simp [flush_accepting accepting, stream]

theorem flush_pending (accepting : Accepting answers) :
    (writer.flush answers).2.pending.length = writer.pending.length - offered answers := by
  simp [flush_accepting accepting]

end BufferedPtyWriter

namespace PaneInput
variable {pane : PaneInput}

/-- All bytes that the child gets unless it exits first. -/
def stream (pane : PaneInput) : Bytes := pane.writer.stream

def queued (pane : PaneInput) : Nat := pane.writer.pending.length

/-- Bytes find room behind what is queued. -/
def Fits (queued : Nat) (bytes : Bytes) : Prop := queued + bytes.length ≤ ptyInputMax

instance (queued : Nat) (bytes : Bytes) : Decidable (Fits queued bytes) :=
  inferInstanceAs (Decidable (_ ≤ _))

/-- What is queued when a write looks for room. -/
def queuedAt (queued : Nat) (answers : Answers) (bytes : Bytes) : Nat :=
  if bytes.isEmpty then queued else queued - offered answers.before

structure Sound (pane : PaneInput) : Prop where
  ordered : pane.stream = pane.accepted.flatten
  bounded : pane.queued ≤ ptyInputMax

/-! ## One write -/

theorem writeBytes_mode (answers : Answers) (bytes : Bytes) :
    (pane.writeBytes answers bytes).bracketedPaste = pane.bracketedPaste := by
  unfold writeBytes
  split <;> rfl

theorem writeBytes_fits {answers : Answers} (accepting : answers.Accepting) {bytes : Bytes}
    (fits : Fits (queuedAt pane.queued answers bytes) bytes) :
    (pane.writeBytes answers bytes).stream = pane.stream ++ bytes ∧
    (pane.writeBytes answers bytes).queued =
      queuedAt pane.queued answers bytes + bytes.length - offered answers.after ∧
    (pane.writeBytes answers bytes).accepted = pane.accepted ++ [bytes] := by
  cases bytes with
  | nil =>
      simp only [writeBytes, BufferedPtyWriter.writeAll, List.isEmpty_nil, if_true]
      exact ⟨by simp [stream, BufferedPtyWriter.flush_stream accepting.2],
        by simp [queued, queuedAt, BufferedPtyWriter.flush_pending accepting.2], trivial⟩
  | cons byte rest =>
      have room : ¬(byte :: rest).length > ptyInputMax - (pane.writer.pending.length - offered answers.before) := by
        simp only [Fits, queuedAt, queued, List.isEmpty_cons, Bool.false_eq_true, if_false] at fits
        omega
      simp only [writeBytes, BufferedPtyWriter.writeAll, BufferedPtyWriter.write,
        BufferedPtyWriter.flush_accepting accepting.1, List.length_drop, room, if_false, List.isEmpty_cons,
        Bool.false_eq_true]
      refine ⟨?_, ?_, trivial⟩
      · rw [stream, BufferedPtyWriter.flush_stream accepting.2]
        simp only [BufferedPtyWriter.stream, stream, List.append_assoc]
        rw [← List.append_assoc (List.take _ _), List.take_append_drop]
      · rw [queued, BufferedPtyWriter.flush_pending accepting.2]
        simp [queuedAt, queued]

theorem writeBytes_refused {answers : Answers} (accepting : answers.Accepting) {bytes : Bytes}
    (bounded : pane.queued ≤ ptyInputMax) (full : ¬Fits (queuedAt pane.queued answers bytes) bytes) :
    (pane.writeBytes answers bytes).stream = pane.stream ∧
    (pane.writeBytes answers bytes).queued = queuedAt pane.queued answers bytes ∧
    (pane.writeBytes answers bytes).accepted = pane.accepted := by
  cases bytes with
  | nil => exact absurd bounded full
  | cons byte rest =>
      have noRoom : (byte :: rest).length > ptyInputMax - (pane.writer.pending.length - offered answers.before) := by
        simp only [Fits, queuedAt, queued, List.isEmpty_cons, Bool.false_eq_true, if_false] at full bounded
        omega
      simp only [writeBytes, BufferedPtyWriter.writeAll, BufferedPtyWriter.write,
        BufferedPtyWriter.flush_accepting accepting.1, List.length_drop, noRoom, if_true, List.isEmpty_cons,
        Bool.false_eq_true, if_false]
      exact ⟨by simp [stream, BufferedPtyWriter.stream], by simp [queued, queuedAt], trivial⟩

theorem Sound.writeBytes (sound : pane.Sound) {answers : Answers} (accepting : answers.Accepting) (bytes : Bytes) :
    (pane.writeBytes answers bytes).Sound := by
  have ordered := sound.ordered
  have bounded := sound.bounded
  by_cases fits : Fits (queuedAt pane.queued answers bytes) bytes
  · obtain ⟨stream, queued, accepted⟩ := writeBytes_fits accepting fits
    refine ⟨by rw [stream, accepted, ordered, List.flatten_concat], ?_⟩
    rw [queued]
    simp only [Fits] at fits
    omega
  · obtain ⟨stream, queued, accepted⟩ := writeBytes_refused accepting bounded fits
    refine ⟨by rw [stream, accepted, ordered], ?_⟩
    rw [queued, queuedAt]
    split <;> omega

/-! ## A paste -/

/-- Every write of the paste finds room. -/
def PasteFits (queued : Nat) (answers : PasteAnswers) (text : Bytes) : Prop :=
  let first := queuedAt queued answers.start pasteStart
  let second := queuedAt (first + pasteStart.length - offered answers.start.after) answers.text text
  let third := queuedAt (second + text.length - offered answers.text.after) answers.stop pasteEnd
  Fits first pasteStart ∧ Fits second text ∧ Fits third pasteEnd

/-- No write of it does. -/
def PasteRefused (queued : Nat) (answers : PasteAnswers) (text : Bytes) : Prop :=
  let first := queuedAt queued answers.start pasteStart
  let second := queuedAt first answers.text text
  let third := queuedAt (if text.isEmpty then second - offered answers.text.after else second) answers.stop pasteEnd
  ¬Fits first pasteStart ∧ (text = [] ∨ ¬Fits second text) ∧ ¬Fits third pasteEnd

/-- The child gets nothing of a paste, or all of it between brackets. -/
def Whole (before after : PaneInput) (text : Bytes) : Prop :=
  after.stream = before.stream ∨
    after.stream = before.stream ++ (pasteStart ++ text ++ pasteEnd) ∧ ¬pasteEnd <:+: text

/-- What is queued after a write. -/
def queuedAfter (queued : Nat) (answers : Answers) (bytes : Bytes) : Nat :=
  if Fits (queuedAt queued answers bytes) bytes then
    queuedAt queued answers bytes + bytes.length - offered answers.after
  else queuedAt queued answers bytes

/-- What a write adds to the stream. -/
def added (queued : Nat) (answers : Answers) (bytes : Bytes) : Bytes :=
  if Fits (queuedAt queued answers bytes) bytes then bytes else []

theorem writeBytes_spec (sound : pane.Sound) {answers : Answers} (accepting : answers.Accepting) (bytes : Bytes) :
    (pane.writeBytes answers bytes).stream = pane.stream ++ added pane.queued answers bytes ∧
    (pane.writeBytes answers bytes).queued = queuedAfter pane.queued answers bytes := by
  by_cases fits : Fits (queuedAt pane.queued answers bytes) bytes
  · obtain ⟨stream, queued, _⟩ := writeBytes_fits accepting fits
    simp only [added, queuedAfter, fits, if_true]
    exact ⟨stream, queued⟩
  · obtain ⟨stream, queued, _⟩ := writeBytes_refused accepting sound.bounded fits
    simp only [added, queuedAfter, fits, if_false, List.append_nil]
    exact ⟨stream, queued⟩

/-- Two brackets and a text are all there or all missing, or something is cut out. -/
theorem brackets_whole {α : Type} {start text stop : List α} (opens : start ≠ []) (closes : stop ≠ []) (a b c : Prop)
    [Decidable a] [Decidable b] [Decidable c] (none : text = [] → b) :
    ((if a then start else []) ++ (if b then text else []) ++ (if c then stop else []) = start ++ text ++ stop ↔
      a ∧ b ∧ c) ∧
    ((if a then start else []) ++ (if b then text else []) ++ (if c then stop else []) = [] ↔
      ¬a ∧ (text = [] ∨ ¬b) ∧ ¬c) := by
  have first := List.length_pos_iff.mpr opens
  have last := List.length_pos_iff.mpr closes
  constructor
  · constructor
    · intro same
      have lengths := congrArg List.length same
      have empty : ¬b → text.length ≠ 0 := fun refused zero => refused (none (List.length_eq_zero_iff.mp zero))
      by_cases h₁ : a <;> by_cases h₂ : b <;> by_cases h₃ : c <;>
        simp only [h₁, h₂, h₃, if_true, if_false, List.length_append, List.length_nil, not_false_eq_true, true_implies,
          and_self] at lengths empty ⊢ <;> omega
    · rintro ⟨h₁, h₂, h₃⟩
      simp only [h₁, h₂, h₃, if_true]
  · by_cases h₁ : a <;> by_cases h₂ : b <;> by_cases h₃ : c <;> simp [h₁, h₂, h₃, opens, closes]

theorem pasteText_bracketed (answers : PasteAnswers) (text : Bytes) (bracketed : pane.bracketedPaste = true) :
    pane.pasteText answers text =
      ((pane.writeBytes answers.start pasteStart).writeBytes answers.text text).writeBytes answers.stop pasteEnd := by
  simp only [pasteText, bracketed, if_true, writeBytes_mode]

theorem pasteText_stream (sound : pane.Sound) {answers : PasteAnswers} (accepting : answers.Accepting)
    (bracketed : pane.bracketedPaste = true) (text : Bytes) :
    let first := queuedAfter pane.queued answers.start pasteStart
    let second := queuedAfter first answers.text text
    (pane.pasteText answers text).stream = pane.stream ++ (added pane.queued answers.start pasteStart ++
      added first answers.text text ++ added second answers.stop pasteEnd) := by
  obtain ⟨start, middle, stop⟩ := accepting
  have opened := sound.writeBytes start pasteStart
  have pasted := opened.writeBytes middle text
  obtain ⟨stream₁, queued₁⟩ := writeBytes_spec sound start pasteStart
  obtain ⟨stream₂, queued₂⟩ := writeBytes_spec opened middle text
  obtain ⟨stream₃, _⟩ := writeBytes_spec pasted stop pasteEnd
  rw [pasteText_bracketed answers text bracketed, stream₃, stream₂, stream₁, queued₂, queued₁]
  simp only [List.append_assoc]

theorem queuedAfter_bounded {queued : Nat} (bounded : queued ≤ ptyInputMax) (answers : Answers) (bytes : Bytes) :
    queuedAfter queued answers bytes ≤ ptyInputMax := by
  have before : queuedAt queued answers bytes ≤ ptyInputMax := by
    unfold queuedAt
    split <;> omega
  unfold queuedAfter
  split
  · rename_i fits
    simp only [Fits] at fits
    omega
  · exact before

theorem pasteText_iff (sound : pane.Sound) {answers : PasteAnswers} (accepting : answers.Accepting)
    (bracketed : pane.bracketedPaste = true) (text : Bytes) :
    Whole pane (pane.pasteText answers text) text ↔
      PasteRefused pane.queued answers text ∨ PasteFits pane.queued answers text ∧ ¬pasteEnd <:+: text := by
  have stream := pasteText_stream sound accepting bracketed text
  dsimp only at stream
  have none : text = [] → Fits (queuedAt (queuedAfter pane.queued answers.start pasteStart) answers.text text) text := by
    rintro rfl
    exact queuedAfter_bounded sound.bounded _ _
  obtain ⟨all, nothing⟩ := @brackets_whole _ pasteStart text pasteEnd (by decide) (by decide)
    (Fits (queuedAt pane.queued answers.start pasteStart) pasteStart) _
    (Fits (queuedAt (queuedAfter (queuedAfter pane.queued answers.start pasteStart) answers.text text) answers.stop
      pasteEnd) pasteEnd) _ _ _ none
  have refused : PasteRefused pane.queued answers text ↔
      added pane.queued answers.start pasteStart ++
        added (queuedAfter pane.queued answers.start pasteStart) answers.text text ++
        added (queuedAfter (queuedAfter pane.queued answers.start pasteStart) answers.text text) answers.stop pasteEnd =
          [] := by
    unfold added
    rw [nothing]
    have after (queued : Nat) (bounded : queued ≤ ptyInputMax)
        (lost : text = [] ∨ ¬Fits (queuedAt queued answers.text text) text) : queuedAfter queued answers.text text =
          if text.isEmpty then queuedAt queued answers.text text - offered answers.text.after
          else queuedAt queued answers.text text := by
      cases text with
      | nil => exact if_pos bounded
      | cons byte rest => exact if_neg (lost.resolve_left nofun)
    have bounded : queuedAt pane.queued answers.start pasteStart ≤ ptyInputMax :=
      Nat.le_trans (Nat.sub_le _ _) sound.bounded
    constructor
    · rintro ⟨first, second, third⟩
      have after₁ : queuedAfter pane.queued answers.start pasteStart = _ := if_neg first
      rw [after₁, after _ bounded second]
      exact ⟨first, second, third⟩
    · rintro ⟨first, second, third⟩
      have after₁ : queuedAfter pane.queued answers.start pasteStart = _ := if_neg first
      rw [after₁] at second third
      rw [after _ bounded second] at third
      exact ⟨first, second, third⟩
  have fits : PasteFits pane.queued answers text ↔
      added pane.queued answers.start pasteStart ++
        added (queuedAfter pane.queued answers.start pasteStart) answers.text text ++
        added (queuedAfter (queuedAfter pane.queued answers.start pasteStart) answers.text text) answers.stop pasteEnd =
          pasteStart ++ text ++ pasteEnd := by
    unfold added
    rw [all]
    constructor
    · rintro ⟨first, second, third⟩
      have after₁ : queuedAfter pane.queued answers.start pasteStart = _ := if_pos first
      have after₂ : queuedAfter (queuedAfter pane.queued answers.start pasteStart) answers.text text = _ :=
        if_pos (after₁ ▸ second)
      rw [after₂, after₁]
      exact ⟨first, second, third⟩
    · rintro ⟨first, second, third⟩
      have after₁ : queuedAfter pane.queued answers.start pasteStart = _ := if_pos first
      have after₂ : queuedAfter (queuedAfter pane.queued answers.start pasteStart) answers.text text = _ := if_pos second
      rw [after₂, after₁] at third
      rw [after₁] at second
      exact ⟨first, second, third⟩
  unfold Whole
  rw [stream, refused, fits]
  simp only [List.append_right_eq_self, List.append_cancel_left_eq]

/-! ## Every run -/

/-- What an action pastes into the pane. -/
def Action.pasted (pane : PaneInput) : Action → Option (PasteAnswers × Bytes)
  | .paste broadcast active answers text => if pane.alive && (broadcast || active) then some (answers, text) else none
  | .pasteBuffer answers (some text) => if pane.alive then some (answers, text) else none
  | _ => none

theorem step_pasted {action : Action} {answers : PasteAnswers} {text : Bytes}
    (pastes : action.pasted pane = some (answers, text)) (allowed : Allowed pane action) :
    pane.step action = pane.pasteText answers text ∧ answers.Accepting := by
  cases action with
  | paste broadcast active answers text =>
      simp only [Action.pasted] at pastes
      split at pastes
      · rename_i target
        cases pastes
        exact ⟨if_pos target, allowed⟩
      · cases pastes
  | pasteBuffer answers entry =>
      cases entry with
      | none => cases pastes
      | some text =>
          simp only [Action.pasted] at pastes
          split at pastes
          · rename_i target
            cases pastes
            exact ⟨if_pos target, allowed⟩
          · cases pastes
  | _ => cases pastes

theorem Sound.pasteText (sound : pane.Sound) {answers : PasteAnswers} (accepting : answers.Accepting) (text : Bytes) :
    (pane.pasteText answers text).Sound := by
  unfold PaneInput.pasteText
  cases bracketed : pane.bracketedPaste with
  | false =>
      simp only [writeBytes_mode, bracketed, Bool.false_eq_true, if_false]
      exact sound.writeBytes accepting.2.1 text
  | true =>
      simp only [writeBytes_mode, bracketed, if_true]
      exact ((sound.writeBytes accepting.1 pasteStart).writeBytes accepting.2.1 text).writeBytes accepting.2.2 pasteEnd

theorem Sound.step (sound : pane.Sound) {action : Action} (allowed : Allowed pane action) : (pane.step action).Sound := by
  cases action with
  | write answers bytes => exact sound.writeBytes allowed bytes
  | tick answers =>
      refine ⟨(BufferedPtyWriter.flush_stream allowed).trans sound.ordered, ?_⟩
      have bounded := sound.bounded
      have drained : (pane.writer.flush answers).2.pending.length = _ := BufferedPtyWriter.flush_pending allowed
      simp only [PaneInput.step, queued, drained] at bounded ⊢
      omega
  | setBracketed on => exact ⟨sound.ordered, sound.bounded⟩
  | exit => exact ⟨sound.ordered, sound.bounded⟩
  | paste broadcast active answers text =>
      simp only [PaneInput.step, processPaste]
      split
      · exact sound.pasteText allowed text
      · exact sound
  | pasteBuffer answers entry =>
      cases entry with
      | none => exact sound
      | some text =>
          simp only [PaneInput.step, PaneInput.pasteBuffer]
          split
          · exact sound.pasteText allowed text
          · exact sound

theorem start_sound : Sound {} := ⟨rfl, Nat.zero_le _⟩

/-- In every run the child gets the accepted writes in order, and a paste between brackets is
whole exactly when the queue takes all of it or none, and the text does not close it. -/
theorem paste_delivery {log : List (PaneInput × Action)} {pane : PaneInput}
    (history : Machine.History step {} log pane) (accepting : ∀ entry ∈ log, Allowed entry.1 entry.2) :
    pane.writer.received ++ pane.writer.pending = pane.accepted.flatten ∧
    pane.writer.pending.length ≤ ptyInputMax ∧
    ∀ entry ∈ log, ∀ answers text, entry.2.pasted entry.1 = some (answers, text) → entry.1.bracketedPaste = true →
      (Whole entry.1 (entry.1.step entry.2) text ↔
        PasteRefused entry.1.queued answers text ∨
          PasteFits entry.1.queued answers text ∧ ¬pasteEnd <:+: text) := by
  obtain ⟨sound, earlier⟩ := history.invariant Sound Allowed (fun _ _ sound allowed => sound.step allowed) start_sound
    accepting
  refine ⟨sound.ordered, sound.bounded, ?_⟩
  intro entry member answers text pastes bracketed
  obtain ⟨same, accepting⟩ := step_pasted pastes (accepting entry member)
  rw [same]
  exact pasteText_iff (earlier entry member) accepting bracketed text

/-! ## A text that closes its own paste -/

def closingActions : List Action := [.setBracketed true, .paste false true {} pasteEnd]

def closingLog : List (PaneInput × Action) := Machine.trace step {} closingActions

theorem closing_accepting : ∀ entry ∈ closingLog, Allowed entry.1 entry.2 := by
  have silent : Answers.Accepting {} := ⟨nofun, nofun⟩
  intro entry member
  rcases List.mem_cons.mp member with rfl | member
  · trivial
  · rw [List.mem_singleton.mp member]
    exact ⟨silent, silent, silent⟩

/-- The paste itself, with mode 2004 on and nothing queued. -/
def closingPaste : PaneInput × Action := ({ bracketedPaste := true }, .paste false true {} pasteEnd)

theorem closingPaste_logged : closingPaste ∈ closingLog := List.mem_cons_of_mem _ List.mem_cons_self

theorem closing_not_whole :
    ¬∀ (log : List (PaneInput × Action)) (pane : PaneInput), Machine.History step {} log pane →
      (∀ entry ∈ log, Allowed entry.1 entry.2) →
      ∀ entry ∈ log, ∀ answers text, entry.2.pasted entry.1 = some (answers, text) → entry.1.bracketedPaste = true →
        Whole entry.1 (entry.1.step entry.2) text := by
  intro claimed
  have whole := claimed closingLog _ (Machine.History.of_labels step {} closingActions) closing_accepting closingPaste
    closingPaste_logged {} pasteEnd rfl rfl
  rcases whole with nothing | ⟨_, open_⟩
  · exact absurd nothing (by decide)
  · exact open_ (List.infix_refl pasteEnd)

theorem closing_delivery :
    (closingPaste.1.step closingPaste.2).stream = pasteStart ++ pasteEnd ++ pasteEnd ∧
    ¬Whole closingPaste.1 (closingPaste.1.step closingPaste.2) pasteEnd := by
  obtain ⟨_, _, pastes⟩ := paste_delivery (Machine.History.of_labels step {} closingActions) closing_accepting
  refine ⟨by decide, fun whole => ?_⟩
  rcases (pastes closingPaste closingPaste_logged {} pasteEnd rfl rfl).mp whole with ⟨refused, _⟩ | ⟨_, open_⟩
  · exact refused (by decide)
  · exact open_ (List.infix_refl pasteEnd)

end PaneInput

end Ezpn
