import Ezpn.Ipc

/-!
# What a control connection asks

The requests in a connection's bytes, and how far a worker has come with them.
However the bytes are cut, a worker has a place for each request it has read.
-/

set_option autoImplicit false

namespace Ezpn

/-- A line within the limit, as text. -/
def requestText (raw : ControlBytes) : Option String :=
  if raw.length ≤ dumpMaxBytes then Text.fromUtf8 raw else none

/-- The lines up to the first that is too long or not UTF-8. -/
def readable : List ControlBytes → List String
  | [] => []
  | raw :: lines =>
      match requestText raw with
      | none => []
      | some text => text :: readable lines

/-- The non-blank ones of these; `ended` says that no more bytes will come. -/
def requests (ended : Bool) (stream : ControlBytes) : List String :=
  (readable (Lines.pieces 10 ended stream)).filter fun text => !isBlankLine text

theorem readable_append {front : List ControlBytes} (good : ∀ raw ∈ front, (requestText raw).isSome)
    (back : List ControlBytes) : readable (front ++ back) = front.filterMap requestText ++ readable back := by
  induction front with
  | nil => rfl
  | cons raw front ih =>
      obtain ⟨text, decoded⟩ := Option.isSome_iff_exists.mp (good raw List.mem_cons_self)
      rw [List.cons_append, readable, decoded, List.filterMap_cons, decoded,
        ih fun raw member => good raw (List.mem_cons_of_mem _ member)]
      rfl

theorem readable_of_long {pieces : List ControlBytes}
    (long : ∀ piece others, pieces = piece :: others → dumpMaxBytes < piece.length) : readable pieces = [] := by
  cases pieces with
  | nil => rfl
  | cons piece others =>
      have longer := long piece others rfl
      rw [readable, requestText, if_neg (by omega)]

/-- The line and the channel of a request. -/
def Exchange.slot {P : Type} (x : Exchange P) : String × Option Nat := (x.line, x.verdict.channel?)

namespace ControlPhase
variable {L E P : Type}

/-- The request at hand. -/
def slot : ControlPhase L E P → List (String × Option Nat)
  | submitting text _ => [(text, none)]
  | waiting text channel => [(text, some channel)]
  | writing exchange _ => [exchange.slot]
  | reading | closed _ => []

end ControlPhase

namespace ControlWorker
variable {σ L E P : Type} {service : IpcService σ L E P} {w : ControlWorker L E P}

/-- The requests that were read, in order. -/
def slots (w : ControlWorker L E P) : List (String × Option Nat) :=
  w.exchanges.map (·.slot) ++ w.unsent.map (·.slot) ++ w.phase.slot

/-- The bytes that no line has been made of. -/
def rest (w : ControlWorker L E P) : ControlBytes := w.line ++ (w.buffer ++ w.inbound)

/-- Every line that was read ends where its delimiter is, unless the stream ended there. -/
def Cut (w : ControlWorker L E P) : Prop :=
  (∀ raw ∈ w.handled, Lines.Terminated 10 raw) ∨
    (w.hungUp = true ∧ w.rest = [] ∧ ∃ front last, w.handled = front ++ [last] ∧
      (∀ raw ∈ front, Lines.Terminated 10 raw) ∧ 10 ∉ last ∧ last ≠ [])

/-- No line can be made of the rest, whatever comes after it. -/
def Spoiled (w : ControlWorker L E P) : Prop :=
  ∀ ended more, (w.hungUp = true → ended = true ∧ more = []) → readable (Lines.pieces 10 ended (w.rest ++ more)) = []

structure Sound (w : ControlWorker L E P) : Prop where
  bytes : w.stream = w.handled.flatten ++ w.rest
  good : ∀ raw ∈ w.handled, (requestText raw).isSome
  slots : ((w.handled.filterMap requestText).filter fun text => !isBlankLine text) = w.slots.map Prod.fst
  cut : w.Cut
  line : w.phase ≠ .closed .broken → 10 ∉ w.line ∧ w.line.length ≤ dumpMaxBytes
  broken : w.phase = .closed .broken → w.Spoiled
  ended : w.phase = .closed .ended → w.hungUp = true ∧ w.rest = []
  unsent : w.phase ≠ .closed .unsent → w.unsent = []

theorem Cut.pieces (cut : w.Cut) :
    Lines.pieces 10 w.hungUp (w.handled.flatten ++ w.rest) = w.handled ++ Lines.pieces 10 w.hungUp w.rest := by
  rcases cut with terminated | ⟨hungUp, none, front, last, handled, terminated, free, nonempty⟩
  · exact Lines.pieces_flatten terminated
  · have ending : Lines.pieces 10 true last = [last] := by
      rw [Lines.pieces_free free]
      simp [nonempty]
    rw [handled, hungUp, none, List.flatten_append, List.flatten_singleton, List.append_assoc,
      Lines.pieces_flatten terminated, List.append_nil, ending]
    exact (List.append_nil _).symm

/-- What the stream asks is what was read, and what the rest asks. -/
theorem Sound.requests (sound : w.Sound) :
    Ezpn.requests w.hungUp w.stream = w.slots.map Prod.fst ++ Ezpn.requests w.hungUp w.rest := by
  rw [Ezpn.requests, sound.bytes, sound.cut.pieces, readable_append sound.good, List.filter_append, sound.slots]
  rfl

/-! ## The steps of a worker -/

/-- A change of phase that keeps the request at hand. -/
theorem Sound.rephase (sound : w.Sound) {phase : ControlPhase L E P} (active : ∀ ending, w.phase ≠ .closed ending)
    (broken : phase = .closed .broken → w.Spoiled)
    (ended : phase = .closed .ended → w.hungUp = true ∧ w.rest = [])
    (same : phase.slot.map Prod.fst = w.phase.slot.map Prod.fst) : { w with phase }.Sound where
  bytes := sound.bytes
  good := sound.good
  slots := by
    rw [sound.slots]
    simp only [ControlWorker.slots, List.map_append, same]
  cut := sound.cut
  line _ := sound.line (active .broken)
  broken := broken
  ended := ended
  unsent _ := sound.unsent (active .unsent)

theorem Sound.arrive (sound : w.Sound) (bytes : ControlBytes) : (w.arrive bytes).Sound := by
  unfold ControlWorker.arrive
  split
  · exact sound
  · rename_i listening
    have further : { w with inbound := w.inbound ++ bytes, stream := w.stream ++ bytes }.rest = w.rest ++ bytes := by
      simp only [rest, List.append_assoc]
    refine { sound with bytes := ?_, cut := ?_, broken := ?_, ended := ?_ }
    · rw [further, ← List.append_assoc, ← sound.bytes]
    · rcases sound.cut with terminated | ⟨hungUp, _⟩
      · exact .inl terminated
      · exact absurd hungUp listening
    · intro broken ended more _
      rw [further, List.append_assoc]
      exact sound.broken broken ended (bytes ++ more) fun hungUp => absurd hungUp listening
    · intro ended
      exact absurd (sound.ended ended).1 listening

theorem Sound.hangUp (sound : w.Sound) : w.hangUp.Sound where
  bytes := sound.bytes
  good := sound.good
  slots := sound.slots
  cut := by
    rcases sound.cut with terminated | ⟨_, none, last⟩
    · exact .inl terminated
    · exact .inr ⟨rfl, none, last⟩
  line := sound.line
  broken broken ended more final := by
    obtain ⟨rfl, rfl⟩ := final rfl
    exact sound.broken broken true [] fun _ => ⟨rfl, rfl⟩
  ended ended := ⟨rfl, (sound.ended ended).2⟩
  unsent := sound.unsent

theorem Sound.expire (sound : w.Sound) : w.expire.Sound := by
  unfold ControlWorker.expire
  split
  · rename_i reading
    exact sound.rephase (by simp [reading]) nofun nofun (by rw [reading]; rfl)
  · exact sound

theorem Sound.write (sound : w.Sound) (sent : Bool) : (w.write sent).Sound := by
  unfold ControlWorker.write
  split
  · rename_i exchange last writing
    have line := sound.line (by simp [writing])
    have unsent := sound.unsent (by simp [writing])
    have slots := sound.slots
    simp only [ControlWorker.slots, writing, unsent, ControlPhase.slot, List.map_nil, List.append_nil] at slots
    cases sent with
    | false =>
        simp only [Bool.not_false, if_true]
        refine { sound with slots := ?_, line := fun _ => line, broken := nofun, ended := nofun, unsent := ?_ }
        · rw [slots]
          simp [ControlWorker.slots, ControlPhase.slot]
        · simp
    | true =>
        simp only [Bool.not_true, Bool.false_eq_true, if_false]
        cases last with
        | false =>
            refine { sound with slots := ?_, line := fun _ => line, broken := nofun, ended := nofun, unsent := fun _ => unsent }
            rw [slots]
            simp [ControlWorker.slots, ControlPhase.slot, unsent]
        | true =>
            refine { sound with slots := ?_, line := fun _ => line, broken := nofun, ended := nofun, unsent := fun _ => unsent }
            rw [slots]
            simp [ControlWorker.slots, ControlPhase.slot, unsent]
  · exact sound

/-! ## Reading a line -/

/-- Bytes that only move from the socket into the buffer. -/
theorem Sound.buffered (sound : w.Sound) {buffer inbound : ControlBytes}
    (same : buffer ++ inbound = w.buffer ++ w.inbound) : { w with buffer, inbound }.Sound := by
  have rest : { w with buffer, inbound }.rest = w.rest := congrArg (w.line ++ ·) same
  refine { sound with bytes := ?_, cut := ?_, broken := ?_, ended := ?_ }
  · rw [rest]
    exact sound.bytes
  · rw [Cut, rest]
    exact sound.cut
  · rw [Spoiled, rest]
    exact sound.broken
  · rw [rest]
    exact sound.ended

theorem fillBuf_same (n : Nat) (w : ControlWorker L E P) :
    ∃ buffer inbound, w.fillBuf n = { w with buffer, inbound } ∧ buffer ++ inbound = w.buffer ++ w.inbound ∧
      (buffer = [] → inbound = []) := by
  unfold fillBuf
  split
  · rename_i drained
    refine ⟨_, _, rfl, ?_, fun none => ?_⟩
    · rw [List.take_append_drop, List.isEmpty_iff.mp drained, List.nil_append]
    · have none : w.inbound = [] := by simpa using none
      rw [none, List.drop_nil]
  · rename_i filled
    exact ⟨_, _, rfl, rfl, fun none => absurd (List.isEmpty_iff.mpr none) filled⟩

/-- A line at hand is whole where its delimiter is, or at the end of the stream. -/
def Whole (w : ControlWorker L E P) : Prop :=
  Lines.Terminated 10 w.line ∨ (w.hungUp = true ∧ w.buffer ++ w.inbound = [] ∧ 10 ∉ w.line ∧ w.line ≠ [])

theorem Whole.nonempty (whole : w.Whole) : w.line ≠ [] := by
  rcases whole with ⟨body, _, line⟩ | ⟨_, _, _, nonempty⟩
  · simp [line]
  · exact nonempty

/-- What holds of a worker when its line is whole. -/
structure Finishing (w : ControlWorker L E P) : Prop where
  reading : w.phase = .reading
  bytes : w.stream = w.handled.flatten ++ w.rest
  good : ∀ raw ∈ w.handled, (requestText raw).isSome
  slots : ((w.handled.filterMap requestText).filter fun text => !isBlankLine text) = w.slots.map Prod.fst
  terminated : ∀ raw ∈ w.handled, Lines.Terminated 10 raw
  unsent : w.unsent = []
  short : w.line.length ≤ dumpMaxBytes
  whole : w.Whole

theorem Sound.finishing (sound : w.Sound) (reading : w.phase = .reading) {line buffer : ControlBytes}
    (same : line ++ buffer = w.line ++ w.buffer) (short : line.length ≤ dumpMaxBytes)
    (whole : { w with line, buffer }.Whole) : { w with line, buffer }.Finishing := by
  have rest : { w with line, buffer }.rest = w.rest := by
    simp only [ControlWorker.rest, ← List.append_assoc, same]
  refine { reading, short, whole, bytes := ?_, good := sound.good, slots := ?_, terminated := ?_, unsent := ?_ }
  · rw [rest]
    exact sound.bytes
  · exact sound.slots
  · rcases sound.cut with terminated | ⟨_, none, _⟩
    · exact terminated
    · rw [← rest, ControlWorker.rest, List.append_eq_nil_iff] at none
      exact absurd none.1 whole.nonempty
  · exact sound.unsent (by simp [reading])

/-- The line is not UTF-8. -/
theorem Finishing.spoiled (finishing : w.Finishing) (undecodable : requestText w.line = none) : w.Spoiled := by
  intro ended more final
  have unread (others : List ControlBytes) : readable (w.line :: others) = [] := by
    rw [readable, undecodable]
  rcases finishing.whole with terminated | ⟨hungUp, none, free, nonempty⟩
  · rw [ControlWorker.rest, List.append_assoc, Lines.pieces_terminated terminated]
    exact unread _
  · obtain ⟨rfl, rfl⟩ := final hungUp
    rw [ControlWorker.rest, none, List.append_nil, List.append_nil, Lines.pieces_free free]
    simp [nonempty, unread]

theorem Finishing.taken (finishing : w.Finishing) {text : String} (decoded : requestText w.line = some text)
    {phase : ControlPhase L E P} (active : ∀ ending, phase ≠ .closed ending)
    (slot : phase.slot.map Prod.fst = [text].filter fun text => !isBlankLine text) :
    { w with line := [], handled := w.handled ++ [w.line], phase }.Sound where
  bytes := by
    rw [finishing.bytes]
    simp [ControlWorker.rest]
  good raw member := by
    rcases List.mem_append.mp member with old | new
    · exact finishing.good raw old
    · rw [List.mem_singleton.mp new, decoded]
      rfl
  slots := by
    have before := finishing.slots
    simp only [ControlWorker.slots, finishing.reading, ControlPhase.slot, List.append_nil] at before
    simp only [ControlWorker.slots, List.filterMap_append, List.filterMap_cons, decoded, List.filterMap_nil,
      List.filter_append, before, List.map_append, slot]
  cut := by
    rcases finishing.whole with terminated | ⟨hungUp, none, free, nonempty⟩
    · refine .inl fun raw member => ?_
      rcases List.mem_append.mp member with old | new
      · exact finishing.terminated raw old
      · exact List.mem_singleton.mp new ▸ terminated
    · exact .inr ⟨hungUp, by simpa [ControlWorker.rest] using none, w.handled, w.line, rfl, finishing.terminated, free, nonempty⟩
  line _ := ⟨List.not_mem_nil, Nat.zero_le _⟩
  broken closed := absurd closed (active _)
  ended closed := absurd closed (active _)
  unsent _ := finishing.unsent

theorem handle_phase (service : IpcService σ L E P) (text : String) (w : ControlWorker L E P) :
    ∃ phase, w.handle service text = { w with phase } ∧ (∀ ending, phase ≠ .closed ending) ∧
      phase.slot.map Prod.fst = [text].filter fun text => !isBlankLine text := by
  unfold handle
  split
  · rename_i blank
    exact ⟨_, rfl, by simp, by simp [ControlPhase.slot, blank]⟩
  · rename_i filled
    split
    · exact ⟨_, rfl, by simp, by simp [ControlPhase.slot, Exchange.slot, filled]⟩
    · exact ⟨_, rfl, by simp, by simp [ControlPhase.slot, filled]⟩

theorem Finishing.finishLine (finishing : w.Finishing) : (w.finishLine service).Sound := by
  have text : requestText w.line = Text.fromUtf8 w.line := if_pos finishing.short
  unfold ControlWorker.finishLine
  split
  · rename_i undecodable
    refine
      { bytes := finishing.bytes, good := finishing.good, slots := ?_, cut := .inl finishing.terminated,
        line := fun unbroken => absurd rfl unbroken, broken := fun _ => finishing.spoiled (text.trans undecodable),
        ended := nofun, unsent := fun _ => finishing.unsent }
    rw [finishing.slots]
    simp only [ControlWorker.slots, finishing.reading, ControlPhase.slot]
  · rename_i decoded
    obtain ⟨phase, handled, active, slot⟩ := handle_phase service _ _
    rw [handled]
    exact finishing.taken (text.trans decoded) active slot

/-- The line, with what has been read of it, does not fit. -/
theorem spoiled_of_long {front : ControlBytes} (free : 10 ∉ w.line) (begins : front <+: w.buffer)
    (cut : 10 ∉ front ∨ ∃ body, 10 ∉ body ∧ front = body ++ [10]) (long : dumpMaxBytes < w.line.length + front.length) :
    w.Spoiled := by
  obtain ⟨back, buffer⟩ := begins
  intro ended more _
  have rest : w.rest ++ more = (w.line ++ front) ++ (back ++ (w.inbound ++ more)) := by
    simp only [ControlWorker.rest, ← buffer, List.append_assoc]
  refine readable_of_long fun piece others pieces => ?_
  rw [rest] at pieces
  rcases cut with unended | ⟨body, unended, rfl⟩
  · have begun := Lines.pieces_begun (by simp [free, unended]) pieces
    have longer := begun.length_le
    rw [List.length_append] at longer
    omega
  · have terminated : Lines.Terminated 10 (w.line ++ (body ++ [10])) :=
      ⟨w.line ++ body, by simp [free, unended], (List.append_assoc ..).symm⟩
    rw [Lines.pieces_terminated terminated, List.cons.injEq] at pieces
    rw [← pieces.1, List.length_append]
    exact long

/-- Where the scan for the delimiter stops. -/
theorem findIdx_cut (buffer : ControlBytes) :
    (∃ i body, buffer.findIdx? (· == 10) = some i ∧ 10 ∉ body ∧ buffer.take (i + 1) = body ++ [10]) ∨
      (buffer.findIdx? (· == 10) = none ∧ 10 ∉ buffer) := by
  cases found : buffer.findIdx? (· == 10) with
  | none =>
      refine .inr ⟨rfl, fun member => ?_⟩
      have absent := List.findIdx?_eq_none_iff.mp found 10 member
      simp at absent
  | some i =>
      obtain ⟨bound, here, before⟩ := List.findIdx?_eq_some_iff_getElem.mp found
      refine .inl ⟨i, buffer.take i, rfl, fun member => ?_, ?_⟩
      · obtain ⟨j, earlier, value⟩ := List.mem_take_iff_getElem.mp member
        have missed := before j (by omega)
        simp [value] at missed
      · rw [List.take_succ_eq_append_getElem bound, beq_iff_eq.mp here]

theorem Sound.readRequestLine (sound : w.Sound) (reading : w.phase = .reading) (n : Nat) :
    (w.readRequestLine service n).Sound := by
  obtain ⟨buffer, inbound, filled, same, drained⟩ := fillBuf_same n w
  have sound' : { w with buffer, inbound }.Sound := sound.buffered same
  obtain ⟨free, short⟩ := sound'.line (by simp [reading])
  simp only [ControlWorker.readRequestLine, filled]
  split
  · rename_i empty
    have empty : buffer = [] := List.isEmpty_iff.mp empty
    split
    · exact sound
    · rename_i hungUp
      have hungUp : w.hungUp = true := by simpa using hungUp
      have none : buffer ++ inbound = [] := by rw [empty, drained empty, List.append_nil]
      split
      · rename_i blank
        have blank : w.line = [] := List.isEmpty_iff.mp blank
        refine sound'.rephase (by simp [reading]) nofun (fun _ => ⟨hungUp, ?_⟩) (by simp [reading, ControlPhase.slot])
        rw [ControlWorker.rest, none, blank, List.append_nil]
      · rename_i nonempty
        have whole : { w with buffer, inbound }.Whole := .inr ⟨hungUp, none, free, by simpa using nonempty⟩
        exact (sound'.finishing reading rfl short whole).finishLine
  · rcases findIdx_cut buffer with ⟨i, body, found, unended, taken⟩ | ⟨absent, unended⟩
    · simp only [found, Option.isSome_some, if_true]
      have bound : (buffer.take (i + 1)).length = i + 1 := by
        rw [List.length_take]
        have := (List.findIdx?_eq_some_iff_getElem.mp found).1
        omega
      split
      · rename_i long
        refine sound'.rephase (by simp [reading]) (fun _ => ?_) nofun (by simp [reading, ControlPhase.slot])
        exact spoiled_of_long free (List.take_prefix (i + 1) buffer) (.inr ⟨body, unended, taken⟩) (by dsimp only; omega)
      · rename_i fits
        refine (sound'.finishing reading ?_ ?_ (.inl ?_)).finishLine
        · rw [List.append_assoc, List.take_append_drop]
        · rw [List.length_append, bound]
          omega
        · exact ⟨w.line ++ body, by simp [free, unended], by rw [taken, List.append_assoc]⟩
    · simp only [absent, Option.isSome_none, Bool.false_eq_true, if_false]
      split
      · rename_i long
        refine sound'.rephase (by simp [reading]) (fun _ => ?_) nofun (by simp [reading, ControlPhase.slot])
        exact spoiled_of_long free (List.prefix_refl buffer) (.inl unended) (by dsimp only; omega)
      · rename_i fits
        have rest : { w with inbound, line := w.line ++ buffer.take buffer.length, buffer := buffer.drop buffer.length }.rest
            = { w with buffer, inbound }.rest := by
          simp [ControlWorker.rest]
        refine { sound' with bytes := ?_, cut := ?_, line := fun _ => ?_, broken := ?_, ended := ?_ }
        · rw [rest]
          exact sound'.bytes
        · rw [Cut, rest]
          exact sound'.cut
        · refine ⟨by simp [free, unended], ?_⟩
          simp only [List.take_length, List.length_append] at short ⊢
          omega
        · simp [reading]
        · simp [reading]

theorem Sound.read (sound : w.Sound) (n : Nat) : (w.read service n).Sound := by
  unfold ControlWorker.read
  split
  · rename_i reading
    exact sound.readRequestLine reading n
  · exact sound

end ControlWorker

end Ezpn
