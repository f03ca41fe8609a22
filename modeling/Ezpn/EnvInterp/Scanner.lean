import Ezpn.EnvInterp.Evaluation

/-!
# The byte scanner

`expand` as it scans the bytes of a template: indices into the bytes, and slices of
the text that panic between two characters. It is the expansion of the template's one
reading, for every template.
-/

set_option autoImplicit false

namespace Ezpn.EnvContext

open CharBytes

/-! ## Scanning -/

def isNameStartByte (b : UInt8) : Bool := (65 ≤ b && b ≤ 90) || (97 ≤ b && b ≤ 122) || b == 95

def isNameRestByte (b : UInt8) : Bool := isNameStartByte b || (48 ≤ b && b ≤ 57)

/-- `find_matching_brace` -/
def findMatchingBrace (bytes : Bytes) (openIdx : Nat) : Except ExpandError Nat :=
  match (bytes.drop (openIdx + 1)).findIdx? (· == 125) with
  | some k => .ok (openIdx + 1 + k)
  | none => .error (.malformed s!"unterminated `$\x7b` starting at byte {openIdx}")

/-- `scan_identifier_end` -/
def scanIdentifierEnd (bytes : Bytes) (start : Nat) : Nat :=
  match bytes.drop start with
  | [] => start
  | first :: rest => if isNameStartByte first then start + 1 + (rest.takeWhile isNameRestByte).length else start

def validateNameBytes (name : List Char) : Except ExpandError Unit :=
  match encode name with
  | [] => .error (.malformed "empty variable name in `$\x7b\x7d`")
  | first :: rest =>
      if isNameStartByte first && rest.all isNameRestByte then .ok ()
      else .error (.malformed s!"invalid variable name `{String.ofList name}`")

/-- `inner.find(':')`, if the operator is there; none where the slice panics. -/
def findOperator (operator inner : List Char) : Option (Option Nat) :=
  match (encode inner).findIdx? (· == 58) with
  | none => some none
  | some idx => (slice inner idx (encode inner).length).map fun rest => if operator.isPrefixOf rest then some idx else none

/-- `expand_braced`, with the slices of `inner` that may panic. -/
def expandBracedBytes (ctx : EnvContext) (inner : List Char) (read : Bool) : Option (Except ExpandError (String × Bool)) :=
  match Text.stripPrefix "secret:".toList inner with
  | some key =>
      let key := String.ofList (Text.trim key)
      if key = "" then some (.error (.malformed "empty key in `$\x7bsecret:..\x7d`"))
      else match ctx.lookupSecret key with
        | (some v, read) => some (.ok (v, read))
        | (none, _) => some (.error (.unknownSecret key))
  | none =>
      match findOperator [':', '?'] inner with
      | none => none
      | some (some idx) =>
          match slice inner 0 idx, slice inner (idx + 2) (encode inner).length with
          | some name, some message => some do
              validateNameBytes name
              required name message (ctx.lookupPlain (String.ofList name) read)
          | _, _ => none
      | some none =>
          match findOperator [':', '-'] inner with
          | none => none
          | some (some idx) =>
              match slice inner 0 idx, slice inner (idx + 2) (encode inner).length with
              | some name, some default => some do
                  validateNameBytes name
                  orDefault default (ctx.lookupPlain (String.ofList name) read)
              | _, _ => none
          | some none => some do
              validateNameBytes inner
              orEmpty (ctx.lookupPlain (String.ofList inner) read)

/-- The loop of `expand` at a byte index; `none` is a panic or the end of the fuel. -/
def scan (ctx : EnvContext) (template : List Char) : (fuel i : Nat) → (read : Bool) → (out : List Char) →
    Option (Except ExpandError (List Char × Bool))
  | 0, _, _, _ => none
  | fuel + 1, i, read, out =>
      let bytes := encode template
      match bytes[i]? with
      | none => some (.ok (out, read))
      | some b =>
          if b = 36 ∧ bytes[i + 1]? = some 36 then scan ctx template fuel (i + 2) read (out ++ ['$'])
          else if b = 36 then
            if bytes[i + 1]? = some 123 then
              match findMatchingBrace bytes (i + 1) with
              | .error e => some (.error e)
              | .ok close =>
                  match slice template (i + 2) close with
                  | none => none
                  | some inner =>
                      match ctx.expandBracedBytes inner read with
                      | none => none
                      | some (.error e) => some (.error e)
                      | some (.ok (v, read)) => scan ctx template fuel (close + 1) read (out ++ v.toList)
            else
              let stop := scanIdentifierEnd bytes (i + 1)
              if stop > i + 1 then
                match slice template (i + 1) stop with
                | none => none
                | some name =>
                    let (v, read) := ctx.lookupPlain (String.ofList name) read
                    scan ctx template fuel stop read (out ++ (v.getD "").toList)
              else scan ctx template fuel (i + 1) read (out ++ ['$'])
          else
            match slice template i bytes.length with
            | some (ch :: _) => scan ctx template fuel (i + ch.utf8Size) read (out ++ [ch])
            | _ => none

/-! ## Classes -/

theorem asciiClass_dollar : AsciiClass (fun b => b == 36) (fun c => c == '$') :=
  @asciiClass_char '$' (by decide)

theorem asciiClass_open : AsciiClass (fun b => b == 123) (fun c => c == '{') :=
  @asciiClass_char '{' (by decide)

theorem asciiClass_close : AsciiClass (fun b => b == 125) (fun c => c == '}') :=
  @asciiClass_char '}' (by decide)

theorem asciiClass_colon : AsciiClass (fun b => b == 58) (fun c => c == ':') :=
  @asciiClass_char ':' (by decide)

theorem asciiClass_nameStart : AsciiClass isNameStartByte isNameStart where
  ascii c small := by
    have all : ∀ n : Fin 128, isNameStartByte (UInt8.ofNat n.val) = isNameStart (Char.ofNat n.val) := by decide +kernel
    have here := all ⟨c.toNat, small⟩
    rwa [Char.ofNat_toNat] at here
  bytes b large := by
    unfold isNameStartByte
    simp only [Bool.or_eq_false_iff, Bool.and_eq_false_iff, decide_eq_false_iff_not, beq_eq_false_iff_ne, UInt8.le_iff_toNat_le, ne_eq]
    refine ⟨⟨.inr (by simpa using by omega), .inr (by simpa using by omega)⟩, ?_⟩
    rintro rfl
    simp at large
  chars c large := by
    have big : 128 ≤ c.val.toNat := large
    unfold isNameStart Char.isAlpha Char.isUpper Char.isLower
    simp only [Bool.or_eq_false_iff, Bool.and_eq_false_iff, decide_eq_false_iff_not, UInt32.le_iff_toNat_le, ge_iff_le]
    refine ⟨⟨?_, .inr ?_⟩, ?_⟩
    · rintro ⟨_, le⟩
      change c.val.toNat ≤ 90 at le
      omega
    · intro le
      change c.val.toNat ≤ 122 at le
      omega
    · rintro rfl
      exact absurd large (by decide)

theorem asciiClass_nameRest : AsciiClass isNameRestByte isNameRest where
  ascii c small := by
    have all : ∀ n : Fin 128, isNameRestByte (UInt8.ofNat n.val) = isNameRest (Char.ofNat n.val) := by decide +kernel
    have here := all ⟨c.toNat, small⟩
    rwa [Char.ofNat_toNat] at here
  bytes b large := by
    unfold isNameRestByte
    rw [asciiClass_nameStart.bytes b large, Bool.false_or, Bool.and_eq_false_iff]
    right
    rw [decide_eq_false_iff_not, UInt8.le_iff_toNat_le]
    simpa using by omega
  chars c large := by
    have big : 128 ≤ c.val.toNat := large
    have start := asciiClass_nameStart.chars c large
    unfold isNameStart at start
    rw [Bool.or_eq_false_iff] at start
    unfold isNameRest Char.isAlphanum Char.isDigit
    rw [start.1, start.2, Bool.or_false, Bool.false_or, Bool.and_eq_false_iff]
    right
    rw [decide_eq_false_iff_not, UInt32.le_iff_toNat_le]
    intro le
    change c.val.toNat ≤ 57 at le
    omega

/-! ## The parts of a reference -/

theorem validateNameBytes_eq (name : List Char) : validateNameBytes name = validateName name := by
  cases name with
  | nil => rfl
  | cons c cs =>
      obtain ⟨b, rest, bytes, same, whole⟩ := asciiClass_nameStart.first c cs
      unfold validateNameBytes validateName
      rw [bytes]
      dsimp only
      rw [same]
      cases start : isNameStart c with
      | false => rfl
      | true => rw [whole start, asciiClass_nameRest.all]

/-- The first colon of a text is an operator or none is. -/
theorem findOperator_split {front back : List Char} (plain : ∀ c ∈ front, (c == ':') = false) (operator : List Char) :
    findOperator operator (front ++ ':' :: back) =
      some (if operator.isPrefixOf (':' :: back) then some (encode front).length else none) := by
  have rest := slice_encode front (':' :: back) []
  rw [List.append_nil] at rest
  unfold findOperator
  rw [asciiClass_colon.findIdx? plain rfl]
  dsimp only
  rw [encode_append, List.length_append, rest]
  rfl

theorem findOperator_other {front back : List Char} (plain : ∀ c ∈ front, (c == ':') = false) {c operator : Char}
    (other : c ≠ operator) : findOperator [':', operator] (front ++ ':' :: c :: back) = some none := by
  rw [findOperator_split plain, if_neg]
  simpa [List.isPrefixOf] using Ne.symm other

theorem findOperator_found {front : List Char} (plain : ∀ c ∈ front, (c == ':') = false) (operator : Char) (back : List Char) :
    findOperator [':', operator] (front ++ ':' :: operator :: back) = some (some (encode front).length) := by
  rw [findOperator_split plain, if_pos]
  simp [List.isPrefixOf]

theorem findOperator_plain {inner : List Char} (plain : ∀ c ∈ inner, (c == ':') = false) (operator : List Char) :
    findOperator operator inner = some none := by
  unfold findOperator
  rw [asciiClass_colon.findIdx?_none plain]

/-- Around an operator, the slices are the name and the rest. -/
theorem slices_operator (front back : List Char) (operator : Char) (ascii : operator.toNat < 128) :
    slice (front ++ ':' :: operator :: back) 0 (encode front).length = some front ∧
      slice (front ++ ':' :: operator :: back) ((encode front).length + 2) (encode (front ++ ':' :: operator :: back)).length =
        some back := by
  have first := slice_encode [] front (':' :: operator :: back)
  have second := slice_encode (front ++ [':', operator]) back []
  have two : (encode (front ++ [':', operator])).length = (encode front).length + 2 := by
    rw [encode_append, List.length_append, encode_cons, encode_cons, encode_ascii ascii]
    rfl
  have whole : front ++ [':', operator] ++ (back ++ []) = front ++ ':' :: operator :: back := by simp
  have size : (encode (front ++ [':', operator])).length + (encode back).length = (encode (front ++ ':' :: operator :: back)).length := by
    rw [← List.length_append, ← encode_append]
    simp
  rw [List.nil_append, encode_nil, List.length_nil, Nat.zero_add] at first
  rw [size, two, whole] at second
  exact ⟨first, second⟩

theorem expandBracedBytes_eq (ctx : EnvContext) (inner : List Char) (read : Bool) :
    ctx.expandBracedBytes inner read = some (ctx.expandBraced inner read) := by
  unfold expandBracedBytes expandBraced
  cases Text.stripPrefix "secret:".toList inner with
  | some key =>
      dsimp only [lookupSecret]
      split
      · rfl
      · cases ctx.secrets[String.ofList (Text.trim key)]? <;> rfl
  | none =>
      dsimp only
      rcases Text.splitOnce_cases (· == ':') inner with ⟨front, c, back, rfl, before, colon, found⟩ | ⟨absent, found⟩
      · obtain rfl : c = ':' := by simpa using colon
        rw [found]
        cases back with
        | nil =>
            rw [findOperator_split before, findOperator_split before, validateNameBytes_eq]
            rfl
        | cons operator back =>
            by_cases message : operator = '?'
            · subst message
              obtain ⟨name, rest⟩ := slices_operator front back '?' (by decide)
              rw [findOperator_found before]
              dsimp only
              rw [name, rest]
              simp only [validateNameBytes_eq]
            · rw [findOperator_other before message]
              dsimp only
              by_cases default : operator = '-'
              · subst default
                obtain ⟨name, rest⟩ := slices_operator front back '-' (by decide)
                rw [findOperator_found before]
                dsimp only
                rw [name, rest]
                simp only [validateNameBytes_eq]
              · rw [findOperator_other before default, validateNameBytes_eq]
                dsimp only
                congr 1
                split
                · rename_i same
                  cases same
                  exact absurd rfl message
                · rename_i same
                  cases same
                  exact absurd rfl default
                · rfl
      · rw [found, findOperator_plain absent, findOperator_plain absent, validateNameBytes_eq]

/-! ## The scan -/

theorem bytes_at (front cs : List Char) (k : Nat) : (encode (front ++ cs))[(encode front).length + k]? = (encode cs)[k]? := by
  rw [encode_append, List.getElem?_append_right (Nat.le_add_right _ _), Nat.add_sub_cancel_left]

theorem bytes_from (front cs : List Char) : (encode (front ++ cs)).drop (encode front).length = encode cs := by
  rw [encode_append, List.drop_left]

/-- The first byte of a text tells that it does not start with a character. -/
theorem Ends.byte {b : UInt8} {c : Char} (kind : AsciiClass (fun x => x == b) (fun x => x == c)) {cs : List Char}
    (ends : Ends (· == c) cs) : (encode cs)[0]? ≠ some b := by
  cases cs with
  | nil => exact nofun
  | cons d cs =>
      obtain ⟨x, rest, bytes, same, _⟩ := kind.first d cs
      have differs : (d == c) = false := ends
      rw [differs, beq_eq_false_iff_ne] at same
      rw [bytes, List.getElem?_cons_zero]
      intro equal
      exact same (Option.some.inj equal)

theorem scanIdentifierEnd_eq (front cs : List Char) :
    scanIdentifierEnd (encode (front ++ cs)) (encode front).length =
      (encode front).length + (encode (scanIdentifier cs)).length := by
  unfold scanIdentifierEnd
  rw [bytes_from]
  cases cs with
  | nil => rfl
  | cons c cs =>
      obtain ⟨b, rest, bytes, same, whole⟩ := asciiClass_nameStart.first c cs
      rw [bytes, scanIdentifier]
      dsimp only
      rw [same]
      cases start : isNameStart c with
      | false => rfl
      | true =>
          have ascii : c.toNat < 128 := by
            by_contra large
            rw [asciiClass_nameStart.chars c (Nat.le_of_not_lt large)] at start
            cases start
          simp only [if_true]
          rw [whole start, asciiClass_nameRest.takeWhile, encode_cons, encode_ascii ascii, List.length_append, List.length_singleton]
          omega

theorem findMatchingBrace_found (front : List Char) {inner : List Char} (closed : '}' ∉ inner) (cs : List Char) :
    findMatchingBrace (encode (front ++ '{' :: (inner ++ '}' :: cs))) (encode front).length =
      .ok ((encode front).length + 1 + (encode inner).length) := by
  have before : ∀ c ∈ inner, (c == '}') = false := by
    intro c member
    rw [beq_eq_false_iff_ne]
    rintro rfl
    exact closed member
  have rest := bytes_from (front ++ ['{']) (inner ++ '}' :: cs)
  have size : (encode (front ++ ['{'])).length = (encode front).length + 1 := by
    rw [encode_append, List.length_append]
    rfl
  rw [List.append_assoc, size] at rest
  unfold findMatchingBrace
  change (match (List.drop _ (encode (front ++ (['{'] ++ (inner ++ '}' :: cs))))).findIdx? _ with | some k => _ | none => _) = _
  rw [rest, asciiClass_close.findIdx? before rfl]

theorem findMatchingBrace_none (front : List Char) {rest : List Char} (closed : '}' ∉ rest) :
    findMatchingBrace (encode (front ++ '{' :: rest)) (encode front).length =
      .error (.malformed s!"unterminated `$\x7b` starting at byte {(encode front).length}") := by
  have absent : ∀ c ∈ rest, (c == '}') = false := by
    intro c member
    rw [beq_eq_false_iff_ne]
    rintro rfl
    exact closed member
  have after := bytes_from (front ++ ['{']) rest
  have size : (encode (front ++ ['{'])).length = (encode front).length + 1 := by
    rw [encode_append, List.length_append]
    rfl
  rw [List.append_assoc, size] at after
  unfold findMatchingBrace
  change (match (List.drop _ (encode (front ++ (['{'] ++ rest)))).findIdx? _ with | some k => _ | none => _) = _
  rw [after, asciiClass_close.findIdx?_none absent]

theorem push_push (a b : List Char) (rest : Except ExpandError (List Char × Bool)) : push a (push b rest) = push (a ++ b) rest := by
  cases rest with
  | error e => rfl
  | ok result => simp [push, Except.map]

/-- One turn of the loop, at the start of an item. -/
theorem scan_step (ctx : EnvContext) (front cs : List Char) (fuel : Nat) (read : Bool) (out : List Char) :
    scan ctx (front ++ cs) (fuel + 1) (encode front).length read out =
      match ((encode cs)[0]? : Option UInt8) with
      | none => some (.ok (out, read))
      | some b =>
          if b = 36 ∧ (encode cs)[1]? = some 36 then scan ctx (front ++ cs) fuel ((encode front).length + 2) read (out ++ ['$'])
          else if b = 36 then
            if (encode cs)[1]? = some 123 then
              match findMatchingBrace (encode (front ++ cs)) ((encode front).length + 1) with
              | .error e => some (.error e)
              | .ok close =>
                  match slice (front ++ cs) ((encode front).length + 2) close with
                  | none => none
                  | some inner =>
                      match ctx.expandBraced inner read with
                      | .error e => some (.error e)
                      | .ok (v, read) => scan ctx (front ++ cs) fuel (close + 1) read (out ++ v.toList)
            else
              if scanIdentifierEnd (encode (front ++ cs)) ((encode front).length + 1) > (encode front).length + 1 then
                match slice (front ++ cs) ((encode front).length + 1)
                  (scanIdentifierEnd (encode (front ++ cs)) ((encode front).length + 1)) with
                | none => none
                | some name =>
                    scan ctx (front ++ cs) fuel (scanIdentifierEnd (encode (front ++ cs)) ((encode front).length + 1))
                      (read || ctx.reads name) (out ++ ctx.value name)
              else scan ctx (front ++ cs) fuel ((encode front).length + 1) read (out ++ ['$'])
          else
            match cs with
            | ch :: _ => scan ctx (front ++ cs) fuel ((encode front).length + ch.utf8Size) read (out ++ [ch])
            | [] => none := by
  have zero := bytes_at front cs 0
  rw [Nat.add_zero] at zero
  have tail : slice (front ++ cs) (encode front).length (encode (front ++ cs)).length = some cs := by
    have whole := slice_encode front cs []
    rwa [List.append_nil, ← List.length_append, ← encode_append] at whole
  rw [scan]
  dsimp only
  rw [zero, bytes_at front cs 1, tail]
  cases (encode cs)[0]? with
  | none => rfl
  | some b =>
      dsimp only
      split
      · rfl
      · split
        · split
          · cases findMatchingBrace (encode (front ++ cs)) ((encode front).length + 1) with
            | error e => rfl
            | ok close =>
                dsimp only
                cases slice (front ++ cs) ((encode front).length + 2) close with
                | none => rfl
                | some inner =>
                    dsimp only
                    rw [expandBracedBytes_eq]
                    cases ctx.expandBraced inner read <;> rfl
          · split
            · cases slice (front ++ cs) ((encode front).length + 1)
                (scanIdentifierEnd (encode (front ++ cs)) ((encode front).length + 1)) with
              | none => rfl
              | some name =>
                  dsimp only
                  rw [lookupPlain_eq]
                  rfl
            · rfl
        · cases cs <;> rfl

theorem length_encode_concat (front cs : List Char) :
    (encode (front ++ cs)).length = (encode front).length + (encode cs).length := by
  rw [encode_append, List.length_append]

section Items
variable (ctx : EnvContext) (front : List Char) (n : Nat) (read : Bool) (out : List Char)

/-- One turn of the loop takes the item at the start of the text, or fails where it does. -/
def Scans (cs : List Char) (item : Item) : Prop :=
  scan ctx (front ++ cs) (n + 1) (encode front).length read out =
    match item.failure ctx (encode front).length with
    | some e => some (.error e)
    | none =>
        scan ctx (front ++ cs) n (encode (front ++ item.source)).length (read || item.external ctx) (out ++ item.text ctx)

theorem scans_char {c : Char} (cs : List Char) (other : c ≠ '$') : Scans ctx front n read out (c :: cs) (.char c) := by
  have same : (c == '$') = false := beq_eq_false_iff_ne.mpr other
  obtain ⟨b, rest, bytes, plain, _⟩ := asciiClass_dollar.first c cs
  rw [same, beq_eq_false_iff_ne] at plain
  have size : (encode (front ++ [c])).length = (encode front).length + c.utf8Size := by
    rw [length_encode_concat, length_encode_cons]
    rfl
  rw [Scans, scan_step, bytes, List.getElem?_cons_zero]
  dsimp only [Item.failure, Item.text, Item.external, Item.source]
  rw [if_neg fun both => plain both.1, if_neg plain, Bool.or_false, size]

theorem scans_doubled (cs : List Char) : Scans ctx front n read out ('$' :: '$' :: cs) .doubled := by
  have bytes : encode ('$' :: '$' :: cs) = 36 :: 36 :: encode cs := rfl
  have size : (encode (front ++ ['$', '$'])).length = (encode front).length + 2 := length_encode_concat front _
  rw [Scans, scan_step, bytes]
  dsimp only [List.getElem?_cons_zero, List.getElem?_cons_succ, Item.failure, Item.text, Item.external, Item.source]
  rw [if_pos ⟨rfl, rfl⟩, Bool.or_false, size]

theorem scans_braced {inner : List Char} (closed : '}' ∉ inner) (cs : List Char) :
    Scans ctx front n read out ('$' :: '{' :: (inner ++ '}' :: cs)) (.braced inner) := by
  have bytes : encode ('$' :: '{' :: (inner ++ '}' :: cs)) = 36 :: 123 :: encode (inner ++ '}' :: cs) := rfl
  have brace := findMatchingBrace_found (front ++ ['$']) closed cs
  have one : (encode (front ++ ['$'])).length = (encode front).length + 1 := length_encode_concat front _
  rw [List.append_assoc, one, Nat.add_assoc (encode front).length 1 1] at brace
  have cut := slice_encode (front ++ ['$', '{']) inner ('}' :: cs)
  have two : (encode (front ++ ['$', '{'])).length = (encode front).length + 2 := length_encode_concat front _
  rw [List.append_assoc, two] at cut
  have size : (encode (front ++ (Item.braced inner).source)).length = (encode front).length + 2 + (encode inner).length + 1 := by
    have source : (Item.braced inner).source = ['$', '{'] ++ (inner ++ ['}']) := rfl
    rw [source, ← List.append_assoc, length_encode_concat, two, length_encode_concat]
    rfl
  rw [Scans, scan_step, bytes]
  dsimp only [List.getElem?_cons_zero, List.getElem?_cons_succ]
  rw [if_neg (by simp), if_pos rfl, if_pos rfl]
  change (match findMatchingBrace (encode (front ++ (['$'] ++ '{' :: (inner ++ '}' :: cs)))) _ with | .error e => _ | .ok close => _) = _
  rw [brace]
  dsimp only
  change (match slice (front ++ (['$', '{'] ++ (inner ++ '}' :: cs))) _ _ with | none => _ | some inner => _) = _
  rw [cut]
  dsimp only
  rw [expandBraced_eq ctx inner read (encode front).length, size]
  cases (Item.braced inner).failure ctx (encode front).length with
  | some e => rfl
  | none =>
      dsimp only
      rw [String.toList_ofList]

theorem scans_unterminated {rest : List Char} (closed : '}' ∉ rest) :
    Scans ctx front n read out ('$' :: '{' :: rest) (.unterminated rest) := by
  have bytes : encode ('$' :: '{' :: rest) = 36 :: 123 :: encode rest := rfl
  have brace := findMatchingBrace_none (front ++ ['$']) closed
  have one : (encode (front ++ ['$'])).length = (encode front).length + 1 := length_encode_concat front _
  rw [List.append_assoc, one] at brace
  rw [Scans, scan_step, bytes]
  dsimp only [List.getElem?_cons_zero, List.getElem?_cons_succ]
  rw [if_neg (by simp), if_pos rfl, if_pos rfl]
  change (match findMatchingBrace (encode (front ++ (['$'] ++ '{' :: rest))) _ with | .error e => _ | .ok close => _) = _
  rw [brace]
  rfl

theorem scans_name {id cs : List Char} (identifier : Identifier id) (ends : Ends isNameRest cs) :
    Scans ctx front n read out ('$' :: (id ++ cs)) (.name id) := by
  have bytes : encode ('$' :: (id ++ cs)) = 36 :: encode (id ++ cs) := rfl
  have dollar : Ends (· == '$') (id ++ cs) := .of_identifier identifier fun c start => by
    rw [beq_eq_false_iff_ne]
    rintro rfl
    cases start
  have brace : Ends (· == '{') (id ++ cs) := .of_identifier identifier fun c start => by
    rw [beq_eq_false_iff_ne]
    rintro rfl
    cases start
  have one : (encode (front ++ ['$'])).length = (encode front).length + 1 := length_encode_concat front _
  have stop := scanIdentifierEnd_eq (front ++ ['$']) (id ++ cs)
  rw [scanIdentifier_append identifier ends, List.append_assoc, one] at stop
  have cut := slice_encode (front ++ ['$']) id cs
  rw [List.append_assoc, one] at cut
  have positive : 0 < (encode id).length := by
    cases id with
    | nil => exact identifier.elim
    | cons c id => exact List.length_pos_of_ne_nil (encode_ne_nil c id)
  have size : (encode (front ++ '$' :: id)).length = (encode front).length + 1 + (encode id).length := by
    rw [length_encode_concat, length_encode_cons, ← Nat.add_assoc]
    rfl
  rw [Scans, scan_step, bytes]
  dsimp only [List.getElem?_cons_zero, List.getElem?_cons_succ, Item.failure, Item.text, Item.external, Item.source]
  rw [if_neg fun both => dollar.byte asciiClass_dollar both.2, if_pos rfl, if_neg (brace.byte asciiClass_open), size]
  change (if scanIdentifierEnd (encode (front ++ (['$'] ++ (id ++ cs)))) _ > _ then
    (match slice (front ++ (['$'] ++ (id ++ cs))) _ (scanIdentifierEnd (encode (front ++ (['$'] ++ (id ++ cs)))) _) with
      | none => none
      | some name => scan ctx _ n (scanIdentifierEnd (encode (front ++ (['$'] ++ (id ++ cs)))) _) _ _) else _) = _
  rw [stop, if_pos (by omega), cut]

theorem scans_dollar {cs : List Char} (single : Ends (· == '$') cs) (bare : Ends (· == '{') cs) (start : Ends isNameStart cs) :
    Scans ctx front n read out ('$' :: cs) .dollar := by
  have bytes : encode ('$' :: cs) = 36 :: encode cs := rfl
  have one : (encode (front ++ ['$'])).length = (encode front).length + 1 := length_encode_concat front _
  have stop := scanIdentifierEnd_eq (front ++ ['$']) cs
  rw [scanIdentifier_nil start, List.append_assoc, one, encode_nil, List.length_nil, Nat.add_zero] at stop
  rw [Scans, scan_step, bytes]
  dsimp only [List.getElem?_cons_zero, List.getElem?_cons_succ, Item.failure, Item.text, Item.external, Item.source]
  rw [if_neg fun both => single.byte asciiClass_dollar both.2, if_pos rfl, if_neg (bare.byte asciiClass_open), Bool.or_false, one]
  change (if scanIdentifierEnd (encode (front ++ (['$'] ++ cs))) _ > _ then _ else _) = _
  rw [stop, if_neg (Nat.lt_irrefl _)]

theorem scans_first {cs : List Char} {item : Item} {items : List Item} (reading : Reading cs (item :: items)) :
    Scans ctx front n read out cs item := by
  cases reading with
  | char other => exact scans_char ctx front n read out _ other
  | doubled => exact scans_doubled ctx front n read out _
  | braced closed => exact scans_braced ctx front n read out closed _
  | unterminated closed => exact scans_unterminated ctx front n read out closed
  | name identifier ends => exact scans_name ctx front n read out identifier ends
  | dollar single bare start => exact scans_dollar ctx front n read out single bare start

end Items

theorem Reading.rest {cs : List Char} {item : Item} {items : List Item} (reading : Reading cs (item :: items)) :
    ∃ rest, cs = item.source ++ rest ∧ item.source ≠ [] ∧ Reading rest items := by
  cases reading with
  | char _ rest => exact ⟨_, rfl, List.cons_ne_nil _ _, rest⟩
  | doubled rest => exact ⟨_, rfl, List.cons_ne_nil _ _, rest⟩
  | braced _ rest => exact ⟨_, by simp [Item.source], List.cons_ne_nil _ _, rest⟩
  | unterminated => exact ⟨[], (List.append_nil _).symm, List.cons_ne_nil _ _, .nil⟩
  | name _ _ rest => exact ⟨_, rfl, List.cons_ne_nil _ _, rest⟩
  | dollar _ _ _ rest => exact ⟨_, rfl, List.cons_ne_nil _ _, rest⟩

/-- The scan of a text goes through the items of its reading. -/
theorem scan_reading {cs : List Char} {items : List Item} (reading : Reading cs items) (ctx : EnvContext) (front : List Char)
    {fuel : Nat} (enough : (encode cs).length < fuel) (read : Bool) (out : List Char) :
    scan ctx (front ++ cs) fuel (encode front).length read out = some (push out (ctx.evaluate (encode front).length read items)) := by
  obtain ⟨n, rfl⟩ := Nat.exists_eq_add_one_of_ne_zero (Nat.ne_of_gt (Nat.lt_of_le_of_lt (Nat.zero_le _) enough))
  induction items generalizing cs front n read out with
  | nil =>
      cases reading
      rw [scan_step]
      simp [evaluate, firstFailure, push, Except.map]
  | cons item items ih =>
      have turn := scans_first ctx front n read out reading
      rw [Scans] at turn
      rw [turn, evaluate_cons]
      cases item.failure ctx (encode front).length with
      | some e => rfl
      | none =>
          obtain ⟨rest, rfl, some, reading⟩ := reading.rest
          rw [length_encode_concat] at enough
          have positive : 0 < (encode item.source).length := by
            obtain ⟨c, cs, source⟩ := List.exists_cons_of_ne_nil some
            rw [source]
            exact List.length_pos_of_ne_nil (encode_ne_nil c cs)
          obtain ⟨m, rfl⟩ := Nat.exists_eq_add_one_of_ne_zero (show n ≠ 0 by omega)
          have later := ih reading (front ++ item.source) (read || item.external ctx) (out ++ item.text ctx) m (by omega)
          rw [List.append_assoc] at later
          dsimp only
          rw [later, push_push, length_encode_concat]

/-! ## One pass -/

theorem firstFailure_none {ctx : EnvContext} {items : List Item} (sound : ∀ item ∈ items, ¬item.Faulty ctx) (pos : Nat) :
    ctx.firstFailure pos items = none := by
  induction items generalizing pos with
  | nil => rfl
  | cons item items ih =>
      have here : item.failure ctx pos = none := by
        rw [← Option.not_isSome_iff_eq_none, item.failure_iff ctx pos]
        exact sound item List.mem_cons_self
      rw [firstFailure, here]
      exact ih (fun item member => sound item (List.mem_cons_of_mem _ member)) _

theorem firstFailure_first {ctx : EnvContext} {front back : List Item} {item : Item} (sound : ∀ i ∈ front, ¬i.Faulty ctx)
    (faulty : item.Faulty ctx) (pos : Nat) :
    ctx.firstFailure pos (front ++ item :: back) = item.failure ctx (pos + (encode (front.flatMap Item.source)).length) ∧
      (ctx.firstFailure pos (front ++ item :: back)).isSome = true := by
  induction front generalizing pos with
  | nil =>
      obtain ⟨e, fails⟩ := Option.isSome_iff_exists.mp ((item.failure_iff ctx pos).mpr faulty)
      rw [List.nil_append, firstFailure, List.flatMap_nil, encode_nil, List.length_nil, Nat.add_zero, fails]
      exact ⟨rfl, rfl⟩
  | cons first front ih =>
      have here : first.failure ctx pos = none := by
        rw [← Option.not_isSome_iff_eq_none, first.failure_iff ctx pos]
        exact sound first List.mem_cons_self
      rw [List.cons_append, firstFailure, here, List.flatMap_cons, length_encode_concat, ← Nat.add_assoc]
      exact ih (fun i member => sound i (List.mem_cons_of_mem _ member)) _

/-- What the items of a template make of its expansion. -/
structure Outcome (ctx : EnvContext) (read : Bool) (items : List Item) (result : Except ExpandError (List Char × Bool)) : Prop where
  fails : (∃ e, result = .error e) ↔ ∃ item ∈ items, item.Faulty ctx
  first : ∀ front item back, items = front ++ item :: back → (∀ i ∈ front, ¬i.Faulty ctx) → item.Faulty ctx →
    ∃ e, item.failure ctx (encode (front.flatMap Item.source)).length = some e ∧ result = .error e
  value : (∀ item ∈ items, ¬item.Faulty ctx) → result = .ok (items.flatMap (·.text ctx), read || items.any (·.external ctx))

theorem evaluate_outcome (ctx : EnvContext) (read : Bool) (items : List Item) : Outcome ctx read items (ctx.evaluate 0 read items) := by
  have value (sound : ∀ item ∈ items, ¬item.Faulty ctx) :
      ctx.evaluate 0 read items = .ok (items.flatMap (·.text ctx), read || items.any (·.external ctx)) := by
    unfold evaluate
    rw [firstFailure_none sound]
  have first (front : List Item) (item : Item) (back : List Item) (split_ : items = front ++ item :: back)
      (sound : ∀ i ∈ front, ¬i.Faulty ctx) (faulty : item.Faulty ctx) :
      ∃ e, item.failure ctx (encode (front.flatMap Item.source)).length = some e ∧ ctx.evaluate 0 read items = .error e := by
    obtain ⟨same, fails⟩ := @firstFailure_first ctx front back item sound faulty 0
    rw [Nat.zero_add] at same
    obtain ⟨e, failed⟩ := Option.isSome_iff_exists.mp fails
    refine ⟨e, by rw [← same, failed], ?_⟩
    unfold evaluate
    rw [split_, failed]
  refine ⟨⟨?_, ?_⟩, first, value⟩
  · rintro ⟨e, failed⟩
    by_contra none
    rw [value fun item member faulty => none ⟨item, member, faulty⟩] at failed
    cases failed
  · rintro ⟨item, member, faulty⟩
    have found : ∃ front item back, items = front ++ item :: back ∧ (∀ i ∈ front, ¬i.Faulty ctx) ∧ item.Faulty ctx := by
      clear value first
      induction items with
      | nil => cases member
      | cons head items ih =>
          by_cases here : head.Faulty ctx
          · exact ⟨[], head, items, rfl, nofun, here⟩
          · rcases List.mem_cons.mp member with same | later
            · exact absurd (same ▸ faulty) here
            · obtain ⟨front, item, back, rfl, sound, faulty⟩ := ih later
              exact ⟨head :: front, item, back, rfl, List.forall_mem_cons.mpr ⟨here, sound⟩, faulty⟩
    obtain ⟨front, item, back, split_, sound, faulty⟩ := found
    obtain ⟨e, _, failed⟩ := first front item back split_ sound faulty
    exact ⟨e, failed⟩

/-- Each dollar twice. -/
def doubled (s : List Char) : List Char := s.flatMap fun c => if c = '$' then ['$', '$'] else [c]

theorem reading_doubled (s : List Char) : Reading (doubled s) (s.map fun c => if c = '$' then .doubled else .char c) := by
  induction s with
  | nil => exact .nil
  | cons c s ih =>
      unfold doubled at ih ⊢
      rw [List.flatMap_cons, List.map_cons]
      by_cases dollar : c = '$'
      · rw [if_pos dollar, if_pos dollar]
        exact .doubled ih
      · rw [if_neg dollar, if_neg dollar]
        exact .char dollar ih

theorem evaluate_doubled (ctx : EnvContext) (pos : Nat) (read : Bool) (s : List Char) :
    ctx.evaluate pos read (s.map fun c => if c = '$' then .doubled else .char c) = .ok (s, read) := by
  induction s generalizing pos read with
  | nil =>
      rw [List.map_nil, evaluate, firstFailure, List.flatMap_nil, List.any_nil, Bool.or_false]
  | cons c s ih =>
      rw [List.map_cons, evaluate_cons]
      by_cases dollar : c = '$'
      · rw [if_pos dollar]
        dsimp only [Item.failure, Item.text, Item.external]
        rw [ih, dollar, Bool.or_false]
        rfl
      · rw [if_neg dollar]
        dsimp only [Item.failure, Item.text, Item.external]
        rw [ih, Bool.or_false]
        rfl

/-- Every template has one reading, and the scan of its bytes is the outcome of the reading's items: no text of a value
is scanned again, and no template makes the scanner stop short. -/
theorem expand_one_pass (ctx : EnvContext) (template : List Char) (read : Bool) :
    (∃ items result, Reading template items ∧ (∀ others, Reading template others → others = items) ∧
        items.flatMap Item.source = template ∧ Outcome ctx read items result ∧
        (∀ fuel, (encode template).length < fuel → scan ctx template fuel 0 read [] = some result) ∧
        ctx.expandFrom 0 0 read template = result) ∧
      (∀ inner reference, reference? inner = some reference ↔ Refers inner reference) ∧
      ∀ fuel, (encode (doubled template)).length < fuel →
        scan ctx (doubled template) fuel 0 false [] = some (.ok (template, false)) := by
  have scanned {cs : List Char} {items : List Item} (reading : Reading cs items) (fuel : Nat) (enough : (encode cs).length < fuel)
      (read : Bool) : scan ctx cs fuel 0 read [] = some (ctx.evaluate 0 read items) := by
    have whole := scan_reading reading ctx [] enough read []
    rw [List.nil_append, encode_nil, List.length_nil] at whole
    rw [whole]
    cases ctx.evaluate 0 read items <;> rfl
  refine ⟨?_, fun inner reference => reference?_iff, ?_⟩
  · obtain ⟨items, reading⟩ := reading_exists template
    refine ⟨items, ctx.evaluate 0 read items, reading, fun others other => other.unique reading, reading.source,
      evaluate_outcome ctx read items, ?_, expandFrom_eq reading ctx 0 read⟩
    intro fuel enough
    exact scanned reading fuel enough read
  · intro fuel enough
    rw [scanned (reading_doubled template) fuel enough false, evaluate_doubled]

theorem expand_one_pass_mixed :
    scan { process := .ofList [("NAME", "$X")] } "é$NAME$".toList 20 0 false [] = some (.ok ("é$X$".toList, true)) := by
  obtain ⟨⟨items, result, _, _, _, _, scanned, same⟩, _⟩ :=
    expand_one_pass { process := .ofList [("NAME", "$X")] } "é$NAME$".toList false
  rw [scanned 20 (by decide +kernel), ← same]
  decide +kernel

end Ezpn.EnvContext
