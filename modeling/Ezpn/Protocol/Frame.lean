import Ezpn.Lib.Source

/-!
# Wire frames

The framing of `protocol.rs`: a tag, a big-endian `u32` length and the payload.
The reader takes small, medium and large payloads in three different ways.
-/

set_option autoImplicit false

namespace Ezpn

namespace Protocol

def maxPayload : Nat := 16 * 1024 * 1024

def readWindow : Nat := 8 * 1024

def growthWindow : Nat := 64 * 1024

theorem growthWindow_pos : 0 < growthWindow := by decide

/-- `u32::to_be_bytes`, after the truncation of `as u32`. -/
def beBytes (n : Nat) : List UInt8 :=
  [.ofNat (n / 2 ^ 24), .ofNat (n / 2 ^ 16), .ofNat (n / 2 ^ 8), .ofNat n]

/-- `u32::from_be_bytes`. -/
def beValue (bytes : List UInt8) : Nat :=
  bytes.foldl (fun value byte => value * 256 + byte.toNat) 0

/-! ## Writing -/

/-- The calls on a writer; `write_all` hands over the whole slice. -/
inductive WriteCall where
  | writeAll (bytes : List UInt8)
  | flush
  deriving DecidableEq, Repr

def WriteCall.bytes : WriteCall → List UInt8
  | writeAll bytes => bytes
  | flush => []

def writeMsg (tag : UInt8) (payload : List UInt8) : Except StreamError (List WriteCall) :=
  if payload.length > maxPayload then
    .error { kind := .invalidInput, message := s!"payload too large: {payload.length} bytes" }
  else
    .ok ([.writeAll (tag :: beBytes payload.length)] ++ (if payload.isEmpty then [] else [.writeAll payload]) ++ [.flush])

/-! ## Reading -/

def tooLarge (len : Nat) : StreamError := { kind := .invalidData, message := s!"message too large: {len} bytes" }

def incomplete : StreamError := { kind := .unexpectedEof, message := "incomplete frame payload" }

/-- A payload read through `take`; `window` stands for the read sizes of `read_to_end`, which the library leaves open. -/
def readSmallPayload (window : Nat → Nat) (len : Nat) : Reader UInt8 (List UInt8) := do
  Source.grow len
  let payload ← Source.readToEnd window len
  if payload.length ≠ len then throw incomplete else return payload

def readMediumPayload (len : Nat) : Reader UInt8 (List UInt8) := do
  Source.grow len
  Source.readExact len

/-- The length of the buffer after the next step of its growth. -/
def nextLen (len received : Nat) : Nat :=
  min (received + growthWindow) len

theorem nextLen_less {len received : Nat} (missing : received < len) : len - nextLen len received < len - received := by
  have positive := growthWindow_pos
  unfold nextLen
  omega

/-- The loop of `read_large_payload`, once the buffer holds `received` bytes. -/
def growPayload (len received : Nat) : Reader UInt8 (List UInt8) :=
  if _missing : received < len then do
    Source.grow (nextLen len received)
    let window ← Source.readExact (nextLen len received - received)
    let rest ← growPayload len (nextLen len received)
    return window ++ rest
  else pure []
termination_by len - received
decreasing_by exact nextLen_less _missing

def readLargePayload (len : Nat) : Reader UInt8 (List UInt8) := do
  Source.grow readWindow
  let first ← Source.readExact readWindow
  let rest ← growPayload len readWindow
  return first ++ rest

def readPayload (window : Nat → Nat) (len : Nat) : Reader UInt8 (List UInt8) :=
  if len ≤ readWindow then readSmallPayload window len
  else if len ≤ growthWindow then readMediumPayload len
  else readLargePayload len

def readMsgLimited (window : Nat → Nat) (limit : Nat) : Reader UInt8 (UInt8 × List UInt8) := do
  let header ← Source.readExact 5
  let len := beValue (header.drop 1)
  if len > min limit maxPayload then throw (tooLarge len)
  else
    let payload ← readPayload window len
    return (header.headD 0, payload)

def readMsg (window : Nat → Nat) : Reader UInt8 (UInt8 × List UInt8) :=
  readMsgLimited window maxPayload

/-! ## Payloads -/

section Payload
open Source

theorem readSmallPayload_reads (window : Nat → Nat) (len : Nat) : Reads (readSmallPayload window len) len := by
  refine Reads.grow (fun s => ?_) len
  rcases fill_cases window len 0 s with ⟨enough, s', filled, advanced⟩ | ⟨short, ⟨s', filled, _⟩ | ⟨e, s', failed, _⟩⟩
  · refine ⟨fun _ => ⟨s', ?_, advanced.stream⟩, fun short => by omega⟩
    refine (bind_ok (x := readToEnd window len) filled).trans ?_
    rw [if_neg (by rw [List.length_take]; omega)]
    rfl
  · refine ⟨fun enough => by omega, fun _ => ⟨incomplete, s', ?_⟩⟩
    refine (bind_ok (x := readToEnd window len) filled).trans ?_
    rw [if_pos (by omega)]
    rfl
  · exact ⟨fun enough => by omega, fun _ => ⟨e, s', bind_error failed⟩⟩

theorem growPayload_reads (len received : Nat) : Reads (growPayload len received) (len - received) := by
  fun_induction growPayload len received with
  | case1 received missing ih =>
      have split : len - received = (nextLen len received - received) + (len - nextLen len received) := by
        have positive := growthWindow_pos
        unfold nextLen
        omega
      rw [split]
      exact ((readExact_reads _).append ih).grow _
  | case2 received complete =>
      have none : len - received = 0 := by omega
      rw [none]
      exact Reads.nil

theorem readPayload_reads (window : Nat → Nat) (len : Nat) : Reads (readPayload window len) len := by
  unfold readPayload
  split
  · exact readSmallPayload_reads window len
  · rename_i large
    split
    · exact (readExact_reads len).grow len
    · have whole : len = readWindow + (len - readWindow) := by omega
      have reads := ((readExact_reads readWindow).append (growPayload_reads len readWindow)).grow readWindow
      rw [← whole] at reads
      exact reads

/-- `received` payload bytes have arrived since `base`, and no buffer outran them by more than a window. -/
structure Growing (base received : Nat) (s : Source UInt8) : Prop where
  received : s.received = base + received
  bounded : ∀ b ∈ s.buffers, b.2 + base ≤ b.1 + growthWindow

/-- No buffer outran the payload bytes since `base` by more than a window. -/
def Bounded (base : Nat) (s : Source UInt8) : Prop :=
  ∀ b ∈ s.buffers, b.2 + base ≤ b.1 + growthWindow

theorem Growing.grow {base received size : Nat} {s : Source UInt8} (growing : Growing base received s)
    (small : size ≤ received + growthWindow) :
    Growing base received { s with buffers := s.buffers ++ [(s.received, size)] } := by
  refine ⟨growing.received, fun b member => ?_⟩
  rcases List.mem_append.mp member with old | new
  · exact growing.bounded b old
  · rw [List.mem_singleton.mp new, growing.received]
    change size + base ≤ base + received + growthWindow
    omega

theorem Growing.advance {base received n : Nat} {s s' : Source UInt8} (growing : Growing base received s)
    (advanced : s.Advanced n s') : Growing base (received + n) s' :=
  ⟨by rw [advanced.received, growing.received, Nat.add_assoc], advanced.buffers ▸ growing.bounded⟩

theorem Growing.same {base received : Nat} {s s' : Source UInt8} (growing : Growing base received s)
    (buffers : s'.buffers = s.buffers) : Bounded base s' :=
  fun b member => growing.bounded b (buffers ▸ member)

theorem growPayload_bounded (base len received : Nat) :
    Triple (Growing base received) (growPayload len received) (Bounded base) (Bounded base) := by
  fun_induction growPayload len received with
  | case1 received missing ih =>
      have reaches : received + (nextLen len received - received) = nextLen len received := by
        have positive := growthWindow_pos
        unfold nextLen
        omega
      refine Triple.bind (Triple.grow _ fun s growing => growing.grow (Nat.min_le_left _ _)) fun _ => ?_
      refine Triple.bind (Triple.readExact _ (fun _ _ => Growing.same) fun _ _ => Growing.advance) fun window => ?_
      rw [reaches]
      exact Triple.bind ih fun rest => Triple.pure _ fun s bounded => bounded
  | case2 received complete => exact Triple.pure _ fun s growing => growing.bounded

theorem readPayload_bounded (window : Nat → Nat) (base len : Nat) :
    Triple (Growing base 0) (readPayload window len) (Bounded base) (Bounded base) := by
  unfold readPayload
  split
  · rename_i small
    refine Triple.bind (Triple.grow len fun s growing => growing.grow ?_) fun _ => ?_
    · have below : readWindow ≤ growthWindow := by decide
      omega
    · refine Triple.bind (Triple.fill window len (fun _ _ => Growing.same) fun _ _ => Growing.same) fun payload => ?_
      split
      · exact Triple.throw _ fun s bounded => bounded
      · exact Triple.pure _ fun s bounded => bounded
  · split
    · rename_i medium
      refine Triple.bind (Triple.grow len fun s growing => growing.grow (by omega)) fun _ => ?_
      exact Triple.readExact _ (fun _ _ => Growing.same) fun _ _ growing advanced => growing.same advanced.buffers
    · refine Triple.bind (Triple.grow readWindow fun s growing => growing.grow (by decide)) fun _ => ?_
      refine Triple.bind (Triple.readExact _ (fun _ _ => Growing.same) fun _ _ => Growing.advance) fun first => ?_
      rw [Nat.zero_add]
      exact Triple.bind (growPayload_bounded base len readWindow) fun rest => Triple.pure _ fun s bounded => bounded

end Payload

/-! ## Messages -/

section Message
open Source

theorem beValue_beBytes {n : Nat} (fits : n < 2 ^ 32) : beValue (beBytes n) = n := by
  simp only [beValue, beBytes, List.foldl_cons, List.foldl_nil, UInt8.toNat_ofNat']
  omega

/-- The payload length that the next header announces. -/
def announced (stream : List UInt8) : Nat :=
  beValue ((stream.take 5).drop 1)

/-- A message is read exactly when it is there, whole and within the limit. -/
theorem readMsgLimited_cases (window : Nat → Nat) (limit : Nat) (s : Source UInt8) :
    (announced s.stream ≤ min limit maxPayload ∧ 5 + announced s.stream ≤ s.stream.length ∧
      ∃ s', readMsgLimited window limit s = .ok (s.stream.headD 0, (s.stream.drop 5).take (announced s.stream)) s' ∧
        s'.stream = s.stream.drop (5 + announced s.stream)) ∨
    ((s.stream.length < 5 ∨ min limit maxPayload < announced s.stream ∨ s.stream.length < 5 + announced s.stream) ∧
      ∃ e s', readMsgLimited window limit s = .error e s') := by
  unfold readMsgLimited
  rcases Nat.lt_or_ge s.stream.length 5 with short | header
  · obtain ⟨e, s', failed⟩ := (readExact_reads 5 s).2 short
    exact .inr ⟨.inl short, e, s', bind_error failed⟩
  · obtain ⟨s', read, left⟩ := (readExact_reads 5 s).1 header
    have len : beValue ((s.stream.take 5).drop 1) = announced s.stream := rfl
    rw [bind_ok read, len]
    split
    · rename_i large
      exact .inr ⟨.inr (.inl large), tooLarge (announced s.stream), s', rfl⟩
    · rename_i fits
      rcases Nat.lt_or_ge s'.stream.length (announced s.stream) with short | enough
      · obtain ⟨e, t, failed⟩ := (readPayload_reads window _ s').2 short
        refine .inr ⟨.inr (.inr ?_), e, t, bind_error failed⟩
        rw [left, List.length_drop] at short
        omega
      · obtain ⟨t, payload, rest⟩ := (readPayload_reads window _ s').1 enough
        rw [left, List.length_drop] at enough
        refine .inl ⟨Nat.not_lt.mp fits, by omega, t, ?_, ?_⟩
        · rw [bind_ok payload, left]
          cases stream : s.stream with
          | nil => rfl
          | cons tag body => rfl
        · rw [rest, left, List.drop_drop]

theorem readMsg_cases (window : Nat → Nat) (s : Source UInt8) :
    (announced s.stream ≤ maxPayload ∧ 5 + announced s.stream ≤ s.stream.length ∧
      ∃ s', readMsg window s = .ok (s.stream.headD 0, (s.stream.drop 5).take (announced s.stream)) s' ∧
        s'.stream = s.stream.drop (5 + announced s.stream)) ∨
    ((s.stream.length < 5 ∨ maxPayload < announced s.stream ∨ s.stream.length < 5 + announced s.stream) ∧
      ∃ e s', readMsg window s = .error e s') := by
  have cases := readMsgLimited_cases window maxPayload s
  rw [min_self] at cases
  exact cases

/-- The bytes of a frame. -/
def frame (message : UInt8 × List UInt8) : List UInt8 :=
  message.1 :: (beBytes message.2.length ++ message.2)

theorem announced_frame {message : UInt8 × List UInt8} (fits : message.2.length ≤ maxPayload) (rest : List UInt8) :
    announced (frame message ++ rest) = message.2.length := by
  have representable : message.2.length < 2 ^ 32 := Nat.lt_of_le_of_lt fits (by decide)
  rw [← beValue_beBytes representable]
  rfl

theorem frame_length (message : UInt8 × List UInt8) : (frame message).length = 5 + message.2.length := by
  simp only [frame, beBytes, List.length_cons, List.length_append, List.length_nil]
  omega

theorem beBytes_beValue (a b c d : UInt8) : beBytes (beValue [a, b, c, d]) = [a, b, c, d] := by
  have bytes := fun x : UInt8 => x.toNat_lt
  have := bytes a
  have := bytes b
  have := bytes c
  have := bytes d
  simp only [beBytes, beValue, List.foldl_cons, List.foldl_nil, List.cons.injEq, and_true, ← UInt8.toNat_inj, UInt8.toNat_ofNat']
  omega

/-- Which message a frame holds, and what follows it, is determined. -/
theorem frame_inj {message other : UInt8 × List UInt8} (fits : message.2.length ≤ maxPayload)
    (fits' : other.2.length ≤ maxPayload) {rest rest' : List UInt8} (same : frame message ++ rest = frame other ++ rest') :
    message = other ∧ rest = rest' := by
  have length : message.2.length = other.2.length := by
    rw [← announced_frame fits rest, same, announced_frame fits' rest']
  obtain ⟨frames, rests⟩ := List.append_inj same (by rw [frame_length, frame_length, length])
  obtain ⟨tag, body⟩ := List.cons.inj frames
  exact ⟨Prod.ext tag (List.append_inj body rfl).2, rests⟩

/-- The stream starts with a frame that the limit allows. -/
def Starts (limit : Nat) (stream : List UInt8) (message : UInt8 × List UInt8) (rest : List UInt8) : Prop :=
  stream = frame message ++ rest ∧ message.2.length ≤ min limit maxPayload

theorem Starts.unique {limit limit' : Nat} {stream : List UInt8} {message other : UInt8 × List UInt8} {rest rest' : List UInt8}
    (starts : Starts limit stream message rest) (starts' : Starts limit' stream other rest') : message = other ∧ rest = rest' :=
  frame_inj (starts.2.trans (Nat.min_le_right _ _)) (starts'.2.trans (Nat.min_le_right _ _)) (starts.1.symm.trans starts'.1)

/-- A message is read where the stream starts with its frame, and nothing elsewhere. -/
theorem readMsgLimited_starts (window : Nat → Nat) (limit : Nat) (s : Source UInt8) :
    (∃ message s', readMsgLimited window limit s = .ok message s' ∧ Starts limit s.stream message s'.stream) ∨
      (∃ e s', readMsgLimited window limit s = .error e s') ∧ ∀ message rest, ¬Starts limit s.stream message rest := by
  rcases readMsgLimited_cases window limit s with ⟨small, enough, s', read, left⟩ | ⟨missing, failed⟩
  · refine .inl ⟨_, s', read, ?_, ?_⟩
    · rw [left]
      obtain ⟨tag, a, b, c, d, body, stream⟩ : ∃ tag a b c d body, s.stream = tag :: a :: b :: c :: d :: body := by
        have header : 5 ≤ s.stream.length := by omega
        match s.stream, header with
        | tag :: a :: b :: c :: d :: body, _ => exact ⟨tag, a, b, c, d, body, rfl⟩
      have len : announced s.stream = beValue [a, b, c, d] := by rw [stream]; rfl
      rw [stream, List.length_cons, List.length_cons, List.length_cons, List.length_cons, List.length_cons, ← stream] at enough
      have whole : (body.take (announced s.stream)).length = announced s.stream := by
        rw [List.length_take]
        omega
      have drop : s.stream.drop (5 + announced s.stream) = body.drop (announced s.stream) := by
        rw [← List.drop_drop, stream]
        rfl
      rw [drop]
      conv_lhs => rw [stream]
      rw [frame, show (s.stream.drop 5) = body by rw [stream]; rfl, show s.stream.headD 0 = tag by rw [stream]; rfl, whole,
        len, beBytes_beValue]
      simp only [List.cons_append, List.nil_append, List.take_append_drop]
    · rw [List.length_take]
      omega
  · refine .inr ⟨failed, fun message rest starts => ?_⟩
    obtain ⟨stream, fits⟩ := starts
    have announces := announced_frame (fits.trans (Nat.min_le_right _ _)) rest
    rw [← stream] at announces
    have length := congrArg List.length stream
    rw [List.length_append, frame_length] at length
    omega

theorem readMsg_frame (window : Nat → Nat) {message : UInt8 × List UInt8} (fits : message.2.length ≤ maxPayload)
    {rest : List UInt8} {s : Source UInt8} (stream : s.stream = frame message ++ rest) :
    ∃ s', readMsg window s = .ok message s' ∧ s'.stream = rest := by
  have length := congrArg List.length stream
  rw [List.length_append, frame_length] at length
  have announces : announced s.stream = message.2.length := stream ▸ announced_frame fits rest
  rcases readMsg_cases window s with ⟨_, _, s', read, left⟩ | ⟨short | large | short, _⟩
  · refine ⟨s', ?_, ?_⟩
    · rw [read, announces, stream]
      simp [frame, beBytes]
    · rw [left, announces, stream, ← frame_length, List.drop_left]
  · omega
  · omega
  · omega

theorem readMsg_bounded (window : Nat → Nat) {s : Source UInt8} (fresh : s.buffers = []) :
    Bounded (s.received + 5) (final (readMsg window) s) := by
  have triple : Triple (fun t => t.received = s.received ∧ t.buffers = []) (readMsg window) (Bounded (s.received + 5))
      (Bounded (s.received + 5)) := by
    have header : Triple (fun t => t.received = s.received ∧ t.buffers = []) (readExact 5) (Growing (s.received + 5) 0)
        (Bounded (s.received + 5)) := by
      refine Triple.readExact 5 ?_ ?_
      · rintro t t' ⟨_, none⟩ same b member
        rw [same, none] at member
        cases member
      · rintro t t' ⟨received, none⟩ advanced
        refine ⟨by rw [advanced.received, received], fun b member => ?_⟩
        rw [advanced.buffers, none] at member
        cases member
    refine header.bind fun bytes => ?_
    extract_lets len
    split
    · exact Triple.throw _ fun t growing => growing.bounded
    · exact Triple.bind (readPayload_bounded window _ _) fun payload => Triple.pure _ fun t bounded => bounded
  exact triple.final ⟨rfl, fresh⟩

/-- `n` messages one after the other. -/
def readMsgs (window : Nat → Nat) : Nat → Reader UInt8 (List (UInt8 × List UInt8))
  | 0 => pure []
  | n + 1 => do
      let message ← readMsg window
      let messages ← readMsgs window n
      return message :: messages

def writeMsgs (messages : List (UInt8 × List UInt8)) : Except StreamError (List WriteCall) :=
  return (← messages.mapM fun (tag, payload) => writeMsg tag payload).flatten

theorem writeMsg_ok {message : UInt8 × List UInt8} (fits : message.2.length ≤ maxPayload) :
    ∃ calls, writeMsg message.1 message.2 = .ok calls ∧ calls.flatMap WriteCall.bytes = frame message := by
  obtain ⟨tag, payload⟩ := message
  refine ⟨_, if_neg (Nat.not_lt.mpr fits), ?_⟩
  cases payload with
  | nil => rfl
  | cons byte payload => simp [WriteCall.bytes, frame]

theorem writeMsgs_ok {messages : List (UInt8 × List UInt8)} (fit : ∀ m ∈ messages, m.2.length ≤ maxPayload) :
    ∃ calls, writeMsgs messages = .ok calls ∧ calls.flatMap WriteCall.bytes = messages.flatMap frame := by
  induction messages with
  | nil => exact ⟨[], rfl, rfl⟩
  | cons message messages ih =>
      obtain ⟨calls, written, bytes⟩ := writeMsg_ok (fit message List.mem_cons_self)
      obtain ⟨more, writtenMore, moreBytes⟩ := ih fun m member => fit m (List.mem_cons_of_mem _ member)
      refine ⟨calls ++ more, ?_, ?_⟩
      · unfold writeMsgs at writtenMore ⊢
        cases rest : messages.mapM fun (tag, payload) => writeMsg tag payload with
        | error e =>
            rw [rest] at writtenMore
            cases writtenMore
        | ok groups =>
            rw [rest] at writtenMore
            cases writtenMore
            simp only [List.mapM_cons, written, rest]
            rfl
      · rw [List.flatMap_append, bytes, moreBytes, List.flatMap_cons]

theorem readMsgs_frames (window : Nat → Nat) {messages : List (UInt8 × List UInt8)}
    (fit : ∀ m ∈ messages, m.2.length ≤ maxPayload) {rest : List UInt8} {s : Source UInt8}
    (stream : s.stream = messages.flatMap frame ++ rest) :
    ∃ s', readMsgs window messages.length s = .ok messages s' ∧ s'.stream = rest := by
  induction messages generalizing s with
  | nil => exact ⟨s, rfl, stream⟩
  | cons message messages ih =>
      rw [List.flatMap_cons, List.append_assoc] at stream
      obtain ⟨t, first, left⟩ := readMsg_frame window (fit message List.mem_cons_self) stream
      obtain ⟨s', others, done⟩ := ih (fun m member => fit m (List.mem_cons_of_mem _ member)) left
      refine ⟨s', ?_, done⟩
      rw [List.length_cons, readMsgs, bind_ok first, bind_ok others]
      rfl

/-- Frames survive every fragmentation, nothing but a whole frame is accepted, and the reader's
buffer follows what has arrived. -/
theorem frame_codec (window : Nat → Nat) :
    (∀ messages : List (UInt8 × List UInt8), (∀ m ∈ messages, m.2.length ≤ maxPayload) →
      ∃ calls, writeMsgs messages = .ok calls ∧ ∀ (rest : List UInt8) (s : Source UInt8),
        s.stream = calls.flatMap WriteCall.bytes ++ rest →
          ∃ s', readMsgs window messages.length s = .ok messages s' ∧ s'.stream = rest) ∧
    (∀ (s : Source UInt8) (tag a b c d : UInt8) (rest : List UInt8), s.stream = tag :: a :: b :: c :: d :: rest →
      maxPayload < beValue [a, b, c, d] → ∃ e s', readMsg window s = .error e s') ∧
    (∀ (s : Source UInt8) (message : UInt8 × List UInt8) (missing : List UInt8), message.2.length ≤ maxPayload →
      missing ≠ [] → s.stream ++ missing = frame message → ∃ e s', readMsg window s = .error e s') ∧
    ∀ s : Source UInt8, s.buffers = [] →
      ∀ grown ∈ (final (readMsg window) s).buffers, grown.2 + (s.received + 5) ≤ grown.1 + 64 * 1024 := by
  refine ⟨fun messages fit => ?_, fun s tag a b c d rest stream large => ?_, fun s message missing fits absent stream => ?_,
    fun s fresh => readMsg_bounded window fresh⟩
  · obtain ⟨calls, written, bytes⟩ := writeMsgs_ok fit
    exact ⟨calls, written, fun rest s stream => readMsgs_frames window fit (bytes ▸ stream)⟩
  · have announces : announced s.stream = beValue [a, b, c, d] := by rw [stream]; rfl
    rcases readMsg_cases window s with ⟨small, _⟩ | ⟨_, failed⟩
    · omega
    · exact failed
  · have length := congrArg List.length stream
    have lost := List.length_pos_iff.mpr absent
    rw [List.length_append, frame_length] at length
    rcases readMsg_cases window s with ⟨_, enough, _⟩ | ⟨_, failed⟩
    · have header : (s.stream ++ missing).take 5 = s.stream.take 5 := List.take_append_of_le_length (by omega)
      have announces : announced s.stream = message.2.length := by
        rw [← announced_frame fits [], List.append_nil, ← stream, announced, announced, header]
      omega
    · exact failed

/-- Two frames, delivered byte by byte with an interruption in between. -/
theorem interrupted_codec :
    let eintr : Delivery UInt8 := .error { kind := .interrupted, message := "" }
    let piece (byte : UInt8) : Delivery UInt8 := .chunk ⟨[byte], by simp⟩
    ∃ s', readMsgs (fun _ => 32) 2
      { deliveries := [0x81, 0, 0, 0, 1].map piece ++ [eintr] ++ [65, 0x83, 0, 0, 0, 0].map piece } =
        .ok [(0x81, [65]), (0x83, [])] s' ∧ s'.stream = [] := by
  obtain ⟨calls, written, read⟩ := (frame_codec fun _ => 32).1 [(0x81, [65]), (0x83, [])] (by decide)
  cases written
  exact read [] _ rfl

end Message

end Protocol

end Ezpn
