import Ezpn.Lib.Base64
import Ezpn.Terminal.Clipboard

/-!
# Clipboard envelopes

Selected text leaves for the clients' terminals in OSC 52 envelopes of its
base64 form, the same form that the gate for the children's envelopes accepts.
-/

set_option autoImplicit false

namespace Ezpn

def alpha : Bytes := ascii "ABCDEFGHIJKLMNOPQRSTUVWXYZabcdefghijklmnopqrstuvwxyz0123456789+/"

/-- The character for the low six bits. -/
def alphaAt (n : Nat) : UInt8 := alpha.getD (n &&& 0x3F) 0

/-- `data.chunks(3)` -/
def chunks3 : Bytes → List Bytes
  | [] => []
  | [b0] => [[b0]]
  | [b0, b1] => [[b0, b1]]
  | b0 :: b1 :: b2 :: rest => [b0, b1, b2] :: chunks3 rest

def encodeChunk (chunk : Bytes) : Bytes :=
  let b0 := (chunk.getD 0 0).toNat
  let b1 := (chunk.getD 1 0).toNat
  let b2 := (chunk.getD 2 0).toNat
  let triple := b0 <<< 16 ||| b1 <<< 8 ||| b2
  [alphaAt (triple >>> 18), alphaAt (triple >>> 12),
    if chunk.length > 1 then alphaAt (triple >>> 6) else 0x3D,
    if chunk.length > 2 then alphaAt triple else 0x3D]

/-- The bytes of the string that `base64_encode` builds; all of them are ASCII. -/
def base64Encode (data : Bytes) : Bytes := (chunks3 data).flatMap encodeChunk

/-- What copying a text of these bytes sends to the clients. -/
def clipboardEnvelope (data : Bytes) : Bytes := ascii "\x1b]52;c;" ++ base64Encode data ++ [0x07]

/-! ## Groups -/

theorem value_alphaAt (n : Nat) : Base64.value (alphaAt n) = some (n % 64) := by
  have table : ∀ e ∈ alpha.zipIdx, Base64.value e.1 = some e.2 := by decide +kernel
  have size : alpha.length = 64 := by decide +kernel
  have masked : n &&& 0x3F = n % 64 := Nat.and_two_pow_sub_one_eq_mod n 6
  have inside : n % 64 < alpha.length := by omega
  rw [alphaAt, masked, List.getD_eq_getElem _ _ inside]
  exact table (alpha[n % 64], n % 64) (List.mk_mem_zipIdx_iff_getElem?.mpr (List.getElem?_eq_getElem inside))

theorem alphaAt_digit (n : Nat) : Base64.Digit (alphaAt n) := by
  rw [Base64.Digit, value_alphaAt]
  rfl

theorem triple_eq {b0 b1 b2 : Nat} (small : b1 < 256) (small' : b2 < 256) :
    b0 <<< 16 ||| b1 <<< 8 ||| b2 = b0 * 65536 + b1 * 256 + b2 := by
  have high : b0 <<< 16 = (b0 <<< 8) <<< 8 := (Nat.shiftLeft_add b0 8 8)
  have low : b0 <<< 8 ||| b1 = b0 <<< 8 + b1 := (Nat.shiftLeft_add_eq_or_of_lt small b0).symm
  rw [high, ← Nat.shiftLeft_or_distrib, low, ← Nat.shiftLeft_add_eq_or_of_lt small']
  simp only [Nat.shiftLeft_eq]
  omega

/-- The four sextets of three bytes. -/
theorem value_sextets {b0 b1 b2 : Nat} (first : b0 < 256) (second : b1 < 256) (third : b2 < 256) :
    Base64.value (alphaAt ((b0 <<< 16 ||| b1 <<< 8 ||| b2) >>> 18)) = some (b0 / 4) ∧
      Base64.value (alphaAt ((b0 <<< 16 ||| b1 <<< 8 ||| b2) >>> 12)) = some (b0 % 4 * 16 + b1 / 16) ∧
      Base64.value (alphaAt ((b0 <<< 16 ||| b1 <<< 8 ||| b2) >>> 6)) = some (b1 % 16 * 4 + b2 / 64) ∧
      Base64.value (alphaAt (b0 <<< 16 ||| b1 <<< 8 ||| b2)) = some (b2 % 64) := by
  simp only [value_alphaAt, triple_eq second third, Nat.shiftRight_eq_div_pow, Option.some.injEq]
  refine ⟨?_, ?_, ?_, ?_⟩
  · omega
  · omega
  · omega
  · omega

/-! ## The whole text -/

@[simp] theorem base64Encode_nil : base64Encode [] = [] := rfl

theorem base64Encode_one (b0 : UInt8) : base64Encode [b0] = encodeChunk [b0] := List.append_nil _

theorem base64Encode_two (b0 b1 : UInt8) : base64Encode [b0, b1] = encodeChunk [b0, b1] := List.append_nil _

theorem base64Encode_three (b0 b1 b2 : UInt8) (rest : Bytes) :
    base64Encode (b0 :: b1 :: b2 :: rest) = encodeChunk [b0, b1, b2] ++ base64Encode rest := rfl

theorem length_encodeChunk (chunk : Bytes) : (encodeChunk chunk).length = 4 := rfl

theorem decode_base64Encode (data : Bytes) : Base64.decode (base64Encode data) = some data := by
  fun_induction chunks3 data with
  | case1 => rfl
  | case2 b0 =>
      obtain ⟨h0, h1, _⟩ := @value_sextets b0.toNat 0 0 b0.toNat_lt (by decide) (by decide)
      have decoded := Base64.decode_one h0 h1
      rw [UInt8.ofNat_toNat] at decoded
      rw [base64Encode_one]
      exact decoded
  | case3 b0 b1 =>
      obtain ⟨h0, h1, h2, _⟩ := @value_sextets b0.toNat b1.toNat 0 b0.toNat_lt b1.toNat_lt (by decide)
      have decoded := Base64.decode_two b1.toNat_lt h0 h1 h2
      rw [UInt8.ofNat_toNat, UInt8.ofNat_toNat] at decoded
      rw [base64Encode_two]
      exact decoded
  | case4 b0 b1 b2 rest ih =>
      obtain ⟨h0, h1, h2, h3⟩ := value_sextets b0.toNat_lt b1.toNat_lt b2.toNat_lt
      have decoded := Base64.decode_three b1.toNat_lt b2.toNat_lt h0 h1 h2 h3 (base64Encode rest)
      rw [UInt8.ofNat_toNat, UInt8.ofNat_toNat, UInt8.ofNat_toNat, ih] at decoded
      rw [base64Encode_three]
      exact decoded

theorem length_base64Encode (data : Bytes) : (base64Encode data).length = 4 * ((data.length + 2) / 3) := by
  fun_induction chunks3 data with
  | case1 => rfl
  | case2 b0 =>
      rw [base64Encode_one, length_encodeChunk]
      simp
  | case3 b0 b1 =>
      rw [base64Encode_two, length_encodeChunk]
      simp
  | case4 b0 b1 b2 rest ih =>
      rw [base64Encode_three, List.length_append, length_encodeChunk, ih]
      simp only [List.length_cons]
      omega

/-- Digits of the standard alphabet, then at most two paddings. -/
theorem base64Encode_shape (data : Bytes) :
    ∃ digits pads, base64Encode data = digits ++ List.replicate pads Base64.padding ∧
      (∀ c ∈ digits, Base64.Digit c) ∧ pads ≤ 2 := by
  fun_induction chunks3 data with
  | case1 => exact ⟨[], 0, rfl, by simp, by decide⟩
  | case2 b0 =>
      refine ⟨(encodeChunk [b0]).take 2, 2, rfl, ?_, by decide⟩
      simp [encodeChunk, alphaAt_digit]
  | case3 b0 b1 =>
      refine ⟨(encodeChunk [b0, b1]).take 3, 1, rfl, ?_, by decide⟩
      simp [encodeChunk, alphaAt_digit]
  | case4 b0 b1 b2 rest ih =>
      obtain ⟨digits, pads, shape, standard, few⟩ := ih
      refine ⟨encodeChunk [b0, b1, b2] ++ digits, pads, ?_, ?_, few⟩
      · rw [base64Encode_three, shape, List.append_assoc]
      · intro c member
        rcases List.mem_append.mp member with here | later
        · simp only [encodeChunk, List.length_cons, List.length_nil, List.mem_cons, List.not_mem_nil, or_false] at here
          rcases here with rfl | rfl | rfl | rfl
          · exact alphaAt_digit _
          · exact alphaAt_digit _
          · exact alphaAt_digit _
          · exact alphaAt_digit _
        · exact standard c later

/-! ## The gate -/

theorem isBase64_of_digit {c : UInt8} (digit : Base64.Digit c) : isBase64 c = true := by
  simp only [Base64.Digit, Base64.value] at digit
  simp only [isBase64, isAsciiDigit, Bool.or_eq_true, Bool.and_eq_true, decide_eq_true_eq]
  split at digit
  · rename_i upper
    exact .inl (.inl (.inl upper))
  split at digit
  · rename_i lower
    exact .inl (.inl (.inr lower))
  split at digit
  · rename_i number
    exact .inl (.inr number)
  split at digit
  · rename_i plus
    exact .inr (by rw [plus]; decide)
  split at digit
  · rename_i slash
    exact .inr (by rw [slash]; decide)
  · cases digit

theorem base64Encode_charset (data : Bytes) : (base64Encode data).all isBase64 = true := by
  obtain ⟨digits, pads, shape, standard, _⟩ := base64Encode_shape data
  rw [shape, List.all_append, Bool.and_eq_true]
  constructor
  · exact List.all_eq_true.mpr fun c member => isBase64_of_digit (standard c member)
  · refine List.all_eq_true.mpr fun c member => ?_
    rw [List.eq_of_mem_replicate member]
    decide

theorem clipboardEnvelope_eq (data : Bytes) : clipboardEnvelope data = osc52Bytes (ascii "c") (base64Encode data) := by
  have introducer : ascii "\x1b]52;c;" = ascii "\x1b]52;" ++ ascii "c" ++ [0x3B] := rfl
  rw [clipboardEnvelope, osc52Bytes, introducer]
  simp only [List.append_assoc, List.cons_append, List.nil_append]

theorem handleOsc_clipboard (env : InterceptEnv) (ctx : InterceptCtx) (data : Bytes) :
    handleOsc env ctx (ascii "52;c;" ++ data) = handleOsc52 env ctx (ascii "52;c;" ++ data) (ascii "c;" ++ data) := by
  have command : ascii "52;c;" ++ data = 0x35 :: 0x32 :: 0x3B :: 0x63 :: 0x3B :: data := rfl
  have noTitle : (stripPrefix (ascii "0;") (ascii "52;c;" ++ data)).or (stripPrefix (ascii "2;") (ascii "52;c;" ++ data)) =
      none := by
    rw [command]
    rfl
  have stripped : stripPrefix (ascii "52;") (ascii "52;c;" ++ data) = some (ascii "c;" ++ data) := by
    rw [command]
    rfl
  simp only [handleOsc, noTitle, stripped]

/-- Written by a child, the envelope is subject to size and policy alone. -/
theorem handleOsc_clipboardEnvelope (env : InterceptEnv) (ctx : InterceptCtx) (data : Bytes) :
    handleOsc env ctx (ascii "52;c;" ++ base64Encode data) =
      if (base64Encode data).length > min env.policy.maxBytes oscPayloadMax then ctx
      else
        match effectiveSet env.policy ctx.state.osc52Decision with
        | .allow => { ctx with osc52Pending := enqueueOsc ctx.osc52Pending ⟨env.process, clipboardEnvelope data⟩ }
        | .deny => ctx
        | .confirm =>
            { ctx with
              state.osc52PendingConfirm := enqueueOsc ctx.state.osc52PendingConfirm ⟨env.process, clipboardEnvelope data⟩ } := by
  have charset := base64Encode_charset data
  have envelope : osc52Envelope (ascii "52;c;" ++ base64Encode data) = clipboardEnvelope data := by
    have introducer : ascii "\x1b]52;c;" = ascii "\x1b]" ++ ascii "52;c;" := rfl
    rw [osc52Envelope, clipboardEnvelope, introducer]
    simp only [List.append_assoc]
  rw [handleOsc_clipboard]
  generalize base64Encode data = encoded at charset envelope ⊢
  have selection : (ascii "c;" ++ encoded).takeWhile (· != 0x3B) = ascii "c" := rfl
  have rest : (ascii "c;" ++ encoded).dropWhile (· != 0x3B) = 0x3B :: encoded := rfl
  have selects : (ascii "c").all isSelection = true := rfl
  have notQuery : encoded ≠ ascii "?" := by
    rintro rfl
    exact absurd charset (by decide +kernel)
  by_cases large : encoded.length > min env.policy.maxBytes oscPayloadMax
  · simp only [handleOsc52, selection, rest, selects, notQuery, large, Bool.not_true, Bool.false_eq_true, if_true, if_false]
  · cases effective : effectiveSet env.policy ctx.state.osc52Decision with
    | allow =>
        simp only [handleOsc52, selection, rest, selects, notQuery, large, charset, envelope, effective, Bool.not_true,
          Bool.false_eq_true, if_false]
    | deny =>
        simp only [handleOsc52, selection, rest, selects, notQuery, large, charset, effective, Bool.not_true,
          Bool.false_eq_true, if_false]
    | confirm =>
        simp only [handleOsc52, selection, rest, selects, notQuery, large, charset, envelope, effective, Bool.not_true,
          Bool.false_eq_true, if_false]

/-- The encoding can be read back, and the envelope made of it passes the gate as
any child's would: only its size and the policy can stop it. -/
theorem base64Encode_correct (data : Bytes) :
    Base64.decode (base64Encode data) = some data ∧
      (base64Encode data).length = 4 * ((data.length + 2) / 3) ∧
      (∃ digits pads, base64Encode data = digits ++ List.replicate pads Base64.padding ∧
        (∀ c ∈ digits, Base64.Digit c) ∧ pads ≤ 2) ∧
      clipboardEnvelope data = osc52Bytes (ascii "c") (base64Encode data) ∧
      (base64Encode data).all isBase64 = true ∧
      ∀ (env : InterceptEnv) (ctx : InterceptCtx),
        handleOsc env ctx (ascii "52;c;" ++ base64Encode data) =
          if (base64Encode data).length > min env.policy.maxBytes oscPayloadMax then ctx
          else
            match effectiveSet env.policy ctx.state.osc52Decision with
            | .allow => { ctx with osc52Pending := enqueueOsc ctx.osc52Pending ⟨env.process, clipboardEnvelope data⟩ }
            | .deny => ctx
            | .confirm =>
                { ctx with
                  state.osc52PendingConfirm := enqueueOsc ctx.state.osc52PendingConfirm ⟨env.process, clipboardEnvelope data⟩ } :=
  ⟨decode_base64Encode data, length_base64Encode data, base64Encode_shape data, clipboardEnvelope_eq data,
    base64Encode_charset data, fun env ctx => handleOsc_clipboardEnvelope env ctx data⟩

end Ezpn
