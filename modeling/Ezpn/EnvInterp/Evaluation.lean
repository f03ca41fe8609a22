import Ezpn.EnvInterp.Grammar

/-!
# What templates stand for

The value of each item of a template, or what it fails with, and the expansion of
the whole: the error of the first item that fails, or all values one after another.
-/

set_option autoImplicit false

namespace Ezpn.EnvContext

/-! ## References -/

/-- What stands between braces. -/
inductive Reference where
  | secret (key : List Char)
  | plain (name : List Char)
  | orDefault (name text : List Char)
  | required (name message : List Char)

def secretPrefix : List Char := "secret:".toList

/-- The forms of a reference; a secret's form comes before the others. -/
inductive Refers : List Char → Reference → Prop where
  | secret {key : List Char} : Text.trim key ≠ [] → Refers (secretPrefix ++ key) (.secret (Text.trim key))
  | plain {name : List Char} : Identifier name → Refers name (.plain name)
  | orDefault {name text : List Char} : Identifier name → name ≠ "secret".toList →
      Refers (name ++ ':' :: '-' :: text) (.orDefault name text)
  | required {name message : List Char} : Identifier name → name ≠ "secret".toList →
      Refers (name ++ ':' :: '?' :: message) (.required name message)

instance : (name : List Char) → Decidable (Identifier name)
  | [] => .isFalse id
  | c :: cs => inferInstanceAs (Decidable (isNameStart c = true ∧ ∀ d ∈ cs, isNameRest d = true))

def reference? (inner : List Char) : Option Reference :=
  match Text.stripPrefix secretPrefix inner with
  | some key => if Text.trim key = [] then none else some (.secret (Text.trim key))
  | none =>
      match Text.splitOnce (· == ':') inner with
      | some (name, '?' :: message) => if Identifier name then some (.required name message) else none
      | some (name, '-' :: text) => if Identifier name then some (.orDefault name text) else none
      | _ => if Identifier inner then some (.plain inner) else none

/-- What is wrong between braces that hold no reference. -/
def complaint (inner : List Char) : String :=
  match Text.stripPrefix secretPrefix inner with
  | some _ => "empty key in `$\x7bsecret:..\x7d`"
  | none =>
      let name :=
        match Text.splitOnce (· == ':') inner with
        | some (name, '?' :: _) | some (name, '-' :: _) => name
        | _ => inner
      if name = [] then "empty variable name in `$\x7b\x7d`" else s!"invalid variable name `{String.ofList name}`"

theorem identifier_plain {name : List Char} (identifier : Identifier name) : ∀ c ∈ name, isNameRest c = true := by
  cases name with
  | nil => exact identifier.elim
  | cons c cs => exact List.forall_mem_cons.mpr ⟨isNameRest_of_start identifier.1, identifier.2⟩

theorem identifier_no_colon {name : List Char} (identifier : Identifier name) : ∀ c ∈ name, (c == ':') = false := by
  intro c member
  rw [beq_eq_false_iff_ne]
  rintro rfl
  have rest := identifier_plain identifier ':' member
  cases rest

/-- A prefix that ends in a colon is not in front of a name with another colon. -/
theorem stripPrefix_name {name rest : List Char} (plain : ∀ c ∈ name, (c == ':') = false) (other : name ≠ "secret".toList) :
    Text.stripPrefix secretPrefix (name ++ ':' :: rest) = none := by
  cases stripped : Text.stripPrefix secretPrefix (name ++ ':' :: rest) with
  | none => rfl
  | some key =>
      have whole := Text.stripPrefix_some stripped
      have first := @Text.splitOnce_some (· == ':') _ name rest ':' plain rfl rfl
      have second := @Text.splitOnce_some (· == ':') (secretPrefix ++ key) "secret".toList key ':' (by simp) rfl rfl
      rw [← whole, first] at second
      exact absurd (congrArg Prod.fst (Option.some.inj second)) other

theorem stripPrefix_plain {name : List Char} (plain : ∀ c ∈ name, (c == ':') = false) :
    Text.stripPrefix secretPrefix name = none := by
  cases stripped : Text.stripPrefix secretPrefix name with
  | none => rfl
  | some key =>
      have whole := Text.stripPrefix_some stripped
      have colon := plain ':' (by rw [whole]; exact List.mem_append_left _ (by decide))
      cases colon

theorem reference?_iff {inner : List Char} {reference : Reference} :
    reference? inner = some reference ↔ Refers inner reference := by
  constructor
  · intro found
    unfold reference? at found
    split at found
    · rename_i key stripped
      split at found
      · cases found
      · rename_i nonblank
        cases found
        rw [Text.stripPrefix_some stripped]
        exact .secret nonblank
    · rename_i bare
      rcases Text.splitOnce_cases (· == ':') inner with ⟨front, c, back, whole, before, colon, split_⟩ | ⟨absent, split_⟩
      · obtain rfl : c = ':' := by simpa using colon
        have other : front ≠ "secret".toList := by
          rintro rfl
          have stripped : Text.stripPrefix secretPrefix inner = some back := by
            rw [whole]
            exact Text.stripPrefix_append secretPrefix back
          rw [bare] at stripped
          cases stripped
        rw [split_] at found
        split at found
        · rename_i same
          cases same
          split at found
          · rename_i identifier
            cases found
            rw [whole]
            exact .required identifier other
          · cases found
        · rename_i same
          cases same
          split at found
          · rename_i identifier
            cases found
            rw [whole]
            exact .orDefault identifier other
          · cases found
        · split at found
          · rename_i identifier
            cases found
            exact .plain identifier
          · cases found
      · rw [split_] at found
        split at found
        · rename_i same
          cases same
        · rename_i same
          cases same
        · split at found
          · rename_i identifier
            cases found
            exact .plain identifier
          · cases found
  · intro refers
    unfold reference?
    cases refers with
    | secret nonblank =>
        rw [Text.stripPrefix_append]
        exact if_neg nonblank
    | plain identifier =>
        have plain := identifier_no_colon identifier
        rw [stripPrefix_plain plain, Text.splitOnce_none plain]
        exact if_pos identifier
    | orDefault identifier other =>
        have plain := identifier_no_colon identifier
        rw [stripPrefix_name plain other, Text.splitOnce_some plain rfl rfl]
        exact if_pos identifier
    | required identifier other =>
        have plain := identifier_no_colon identifier
        rw [stripPrefix_name plain other, Text.splitOnce_some plain rfl rfl]
        exact if_pos identifier

/-! ## Values -/

/-- The text of a variable, nothing for an unset one. -/
def value (ctx : EnvContext) (name : List Char) : List Char := ((ctx.lookupPlain (String.ofList name) false).1.getD "").toList

/-- Whether the variable is read from outside the pane. -/
def reads (ctx : EnvContext) (name : List Char) : Bool := (ctx.lookupPlain (String.ofList name) false).2

namespace Reference

def failure (ctx : EnvContext) : Reference → Option ExpandError
  | secret key => if ctx.secrets[String.ofList key]? = none then some (.unknownSecret (String.ofList key)) else none
  | required name message =>
      if ctx.value name = [] then some (.required (String.ofList name) (String.ofList message)) else none
  | plain _ | orDefault _ _ => none

def text (ctx : EnvContext) : Reference → List Char
  | secret key => (ctx.secrets[String.ofList key]?.getD "").toList
  | plain name | required name _ => ctx.value name
  | orDefault name text => if ctx.value name = [] then text else ctx.value name

def external (ctx : EnvContext) : Reference → Bool
  | secret _ => true
  | plain name | required name _ | orDefault name _ => ctx.reads name

end Reference

namespace Item

/-- The characters that the item covers. -/
def source : Item → List Char
  | char c => [c]
  | doubled => ['$', '$']
  | braced inner => '$' :: '{' :: (inner ++ ['}'])
  | unterminated rest => '$' :: '{' :: rest
  | name id => '$' :: id
  | dollar => ['$']

def failure (ctx : EnvContext) (pos : Nat) : Item → Option ExpandError
  | braced inner =>
      match reference? inner with
      | some reference => reference.failure ctx
      | none => some (.malformed (complaint inner))
  | unterminated _ => some (.malformed s!"unterminated `$\x7b` starting at byte {pos + 1}")
  | char _ | doubled | name _ | dollar => none

def text (ctx : EnvContext) : Item → List Char
  | char c => [c]
  | doubled | dollar => ['$']
  | braced inner => ((reference? inner).map (·.text ctx)).getD []
  | unterminated _ => []
  | name id => ctx.value id

def external (ctx : EnvContext) : Item → Bool
  | braced inner => ((reference? inner).map (·.external ctx)).getD false
  | name id => ctx.reads id
  | char _ | doubled | dollar | unterminated _ => false

end Item

/-- The failure of the first item that fails, with the items at consecutive byte positions. -/
def firstFailure (ctx : EnvContext) : (pos : Nat) → List Item → Option ExpandError
  | _, [] => none
  | pos, item :: items =>
      match item.failure ctx pos with
      | some e => some e
      | none => firstFailure ctx (pos + (CharBytes.encode item.source).length) items

/-- The expansion of the items at a byte position. -/
def evaluate (ctx : EnvContext) (pos : Nat) (read : Bool) (items : List Item) : Except ExpandError (List Char × Bool) :=
  match ctx.firstFailure pos items with
  | some e => .error e
  | none => .ok (items.flatMap (·.text ctx), read || items.any (·.external ctx))

theorem evaluate_cons (ctx : EnvContext) (pos : Nat) (read : Bool) (item : Item) (items : List Item) :
    ctx.evaluate pos read (item :: items) =
      match item.failure ctx pos with
      | some e => .error e
      | none =>
          push (item.text ctx)
            (ctx.evaluate (pos + (CharBytes.encode item.source).length) (read || item.external ctx) items) := by
  unfold evaluate
  rw [firstFailure]
  cases item.failure ctx pos with
  | some e => rfl
  | none =>
      dsimp only
      cases ctx.firstFailure (pos + (CharBytes.encode item.source).length) items with
      | some e => rfl
      | none =>
          simp only [push, Except.map, List.flatMap_cons, List.any_cons, Bool.or_assoc]

theorem Reading.source {cs : List Char} {items : List Item} (reading : Reading cs items) : items.flatMap Item.source = cs := by
  induction reading with
  | nil => rfl
  | char _ _ ih => rw [List.flatMap_cons, ih]; rfl
  | doubled _ ih => rw [List.flatMap_cons, ih]; rfl
  | braced _ _ ih => rw [List.flatMap_cons, ih]; simp [Item.source]
  | unterminated _ => simp [Item.source]
  | name _ _ _ ih => rw [List.flatMap_cons, ih]; rfl
  | dollar _ _ _ _ ih => rw [List.flatMap_cons, ih]; rfl

/-- What makes an item fail. -/
inductive Item.Faulty (ctx : EnvContext) : Item → Prop where
  | unterminated (rest : List Char) : Faulty ctx (.unterminated rest)
  | malformed {inner : List Char} : (∀ reference, ¬Refers inner reference) → Faulty ctx (.braced inner)
  | unknownSecret {inner key : List Char} : Refers inner (.secret key) → ctx.secrets[String.ofList key]? = none →
      Faulty ctx (.braced inner)
  | required {inner name message : List Char} : Refers inner (.required name message) → ctx.value name = [] →
      Faulty ctx (.braced inner)

theorem Item.failure_iff (ctx : EnvContext) (pos : Nat) (item : Item) : (item.failure ctx pos).isSome = true ↔ item.Faulty ctx := by
  constructor
  · intro fails
    cases item with
    | braced inner =>
        rw [failure] at fails
        cases found : reference? inner with
        | none =>
            refine .malformed ?_
            intro reference refers
            rw [reference?_iff.mpr refers] at found
            cases found
        | some reference =>
            have refers := reference?_iff.mp found
            rw [found] at fails
            cases reference with
            | secret key =>
                simp only [Reference.failure] at fails
                split at fails
                · rename_i unknown
                  exact .unknownSecret refers unknown
                · cases fails
            | required name message =>
                simp only [Reference.failure] at fails
                split at fails
                · rename_i empty
                  exact .required refers empty
                · cases fails
            | plain name => cases fails
            | orDefault name text => cases fails
    | unterminated rest => exact .unterminated rest
    | char c => cases fails
    | doubled => cases fails
    | name id => cases fails
    | dollar => cases fails
  · intro faulty
    cases faulty with
    | unterminated rest => rfl
    | malformed none =>
        rename_i inner
        rw [failure]
        cases found : reference? inner with
        | none => rfl
        | some reference => exact absurd (reference?_iff.mp found) (none reference)
    | unknownSecret refers unknown =>
        rw [failure, reference?_iff.mpr refers]
        simp only [Reference.failure, if_pos unknown, Option.isSome_some]
    | required refers empty =>
        rw [failure, reference?_iff.mpr refers]
        simp only [Reference.failure, if_pos empty, Option.isSome_some]

/-! ## The expansion by characters -/

theorem lookupPlain_eq (ctx : EnvContext) (name : List Char) (read : Bool) :
    ctx.lookupPlain (String.ofList name) read = ((ctx.lookupPlain (String.ofList name) false).1, read || ctx.reads name) := by
  unfold reads lookupPlain
  cases ctx.perPane[String.ofList name]? with
  | some v => simp
  | none =>
      cases ctx.dotenv[String.ofList name]? with
      | some v => simp
      | none => cases ctx.process[String.ofList name]? <;> simp

theorem toList_ne_nil {v : String} (some : v ≠ "") : v.toList ≠ [] := fun empty => some (String.toList_inj.mp empty)

theorem validateName_eq (name : List Char) :
    validateName name = if Identifier name then .ok ()
      else .error (.malformed (if name = [] then "empty variable name in `${}`" else s!"invalid variable name `{String.ofList name}`")) := by
  cases name with
  | nil => rfl
  | cons c cs =>
      have same : (isNameStart c && cs.all isNameRest) = true ↔ Identifier (c :: cs) := by
        rw [Bool.and_eq_true, List.all_eq_true]
        rfl
      simp only [validateName]
      by_cases identifier : Identifier (c :: cs)
      · rw [if_pos (same.mpr identifier), if_pos identifier]
      · rw [if_neg fun whole => identifier (same.mp whole), if_neg identifier, if_neg (List.cons_ne_nil c cs)]

theorem value_none {ctx : EnvContext} {name : List Char} (unset : (ctx.lookupPlain (String.ofList name) false).1 = none) :
    ctx.value name = [] := by
  unfold value
  rw [unset]
  rfl

theorem value_some {ctx : EnvContext} {name : List Char} {v : String}
    (set : (ctx.lookupPlain (String.ofList name) false).1 = some v) : ctx.value name = v.toList := by
  unfold value
  rw [set]
  rfl

theorem required_eq (ctx : EnvContext) (name message : List Char) (read : Bool) :
    required name message (ctx.lookupPlain (String.ofList name) read) =
      if ctx.value name = [] then .error (.required (String.ofList name) (String.ofList message))
      else .ok (String.ofList (ctx.value name), read || ctx.reads name) := by
  rw [lookupPlain_eq]
  cases looked : (ctx.lookupPlain (String.ofList name) false).1 with
  | none =>
      rw [value_none looked, if_pos rfl]
      rfl
  | some v =>
      rw [value_some looked, String.ofList_toList]
      simp only [required]
      by_cases empty : v = ""
      · rw [if_neg (not_not.mpr empty), empty]
        rfl
      · rw [if_pos empty, if_neg (toList_ne_nil empty)]

theorem orDefault_eq (ctx : EnvContext) (name text : List Char) (read : Bool) :
    orDefault text (ctx.lookupPlain (String.ofList name) read) =
      .ok (String.ofList (if ctx.value name = [] then text else ctx.value name), read || ctx.reads name) := by
  rw [lookupPlain_eq]
  cases looked : (ctx.lookupPlain (String.ofList name) false).1 with
  | none =>
      rw [value_none looked, if_pos rfl]
      rfl
  | some v =>
      rw [value_some looked]
      simp only [orDefault]
      by_cases empty : v = ""
      · rw [if_neg (not_not.mpr empty), empty]
        rfl
      · rw [if_pos empty, if_neg (toList_ne_nil empty), String.ofList_toList]

theorem orEmpty_eq (ctx : EnvContext) (name : List Char) (read : Bool) :
    orEmpty (ctx.lookupPlain (String.ofList name) read) = .ok (String.ofList (ctx.value name), read || ctx.reads name) := by
  rw [lookupPlain_eq]
  unfold value orEmpty
  rw [String.ofList_toList]

/-- The complaint about a name. -/
def nameComplaint (name : List Char) : String :=
  if name = [] then "empty variable name in `${}`" else s!"invalid variable name `{String.ofList name}`"

theorem reference?_secret {inner key : List Char} (secret : Text.stripPrefix secretPrefix inner = some key) :
    reference? inner = (if Text.trim key = [] then none else some (.secret (Text.trim key))) ∧
      complaint inner = "empty key in `${secret:..}`" := by
  unfold reference? complaint
  rw [secret]
  exact ⟨rfl, rfl⟩

theorem reference?_required {inner name message : List Char} (bare : Text.stripPrefix secretPrefix inner = none)
    (colon : Text.splitOnce (· == ':') inner = some (name, '?' :: message)) :
    reference? inner = (if Identifier name then some (.required name message) else none) ∧ complaint inner = nameComplaint name := by
  unfold reference? complaint
  rw [bare, colon]
  exact ⟨rfl, rfl⟩

theorem reference?_orDefault {inner name text : List Char} (bare : Text.stripPrefix secretPrefix inner = none)
    (colon : Text.splitOnce (· == ':') inner = some (name, '-' :: text)) :
    reference? inner = (if Identifier name then some (.orDefault name text) else none) ∧ complaint inner = nameComplaint name := by
  unfold reference? complaint
  rw [bare, colon]
  exact ⟨rfl, rfl⟩

theorem reference?_plain {inner : List Char} (bare : Text.stripPrefix secretPrefix inner = none)
    (noMessage : ∀ name message, Text.splitOnce (· == ':') inner ≠ some (name, '?' :: message))
    (noDefault : ∀ name text, Text.splitOnce (· == ':') inner ≠ some (name, '-' :: text)) :
    reference? inner = (if Identifier inner then some (.plain inner) else none) ∧ complaint inner = nameComplaint inner := by
  unfold reference? complaint
  rw [bare]
  dsimp only
  constructor
  · split
    · rename_i colon
      exact absurd colon (noMessage _ _)
    · rename_i colon
      exact absurd colon (noDefault _ _)
    · rfl
  · split
    · rename_i colon
      exact absurd colon (noMessage _ _)
    · rename_i colon
      exact absurd colon (noDefault _ _)
    · rfl

/-- What is between braces is the reference that it reads as. -/
theorem expandBraced_eq (ctx : EnvContext) (inner : List Char) (read : Bool) (pos : Nat) :
    ctx.expandBraced inner read =
      match (Item.braced inner).failure ctx pos with
      | some e => .error e
      | none => .ok (String.ofList ((Item.braced inner).text ctx), read || (Item.braced inner).external ctx) := by
  unfold expandBraced Item.failure Item.text Item.external
  dsimp only
  split
  · rename_i key secret
    obtain ⟨reference, fault⟩ := reference?_secret secret
    rw [reference, fault]
    by_cases blank : Text.trim key = []
    · rw [if_pos blank, blank]
      rfl
    · have nonblank : String.ofList (Text.trim key) ≠ "" := by
        intro empty
        exact blank (String.ofList_inj.mp empty)
      rw [if_neg nonblank, if_neg blank, lookupSecret]
      dsimp only [Reference.failure, Reference.text, Reference.external, Option.map_some, Option.getD_some]
      cases ctx.secrets[String.ofList (Text.trim key)]? with
      | none => rfl
      | some v => simp only [reduceCtorEq, if_false, Option.getD_some, String.ofList_toList, Bool.or_true]
  · rename_i bare
    split
    · rename_i name message colon
      obtain ⟨reference, fault⟩ := reference?_required bare colon
      rw [reference, fault, validateName_eq]
      by_cases identifier : Identifier name
      · rw [if_pos identifier, if_pos identifier]
        change required name message _ = _
        rw [required_eq]
        dsimp only [Reference.failure]
        split <;> rfl
      · rw [if_neg identifier, if_neg identifier]
        rfl
    · rename_i name text colon
      obtain ⟨reference, fault⟩ := reference?_orDefault bare colon
      rw [reference, fault, validateName_eq]
      by_cases identifier : Identifier name
      · rw [if_pos identifier, if_pos identifier]
        exact ctx.orDefault_eq name text read
      · rw [if_neg identifier, if_neg identifier]
        rfl
    · rename_i noMessage noDefault
      obtain ⟨reference, fault⟩ := reference?_plain bare (fun name message => noMessage name message) fun name text => noDefault name text
      rw [reference, fault, validateName_eq]
      by_cases identifier : Identifier inner
      · rw [if_pos identifier, if_pos identifier]
        exact ctx.orEmpty_eq inner read
      · rw [if_neg identifier, if_neg identifier]
        rfl

/-- Characters that a reference has used are skipped. -/
theorem expandFrom_skip (ctx : EnvContext) (front cs : List Char) (pos : Nat) (read : Bool) :
    ctx.expandFrom front.length pos read (front ++ cs) = ctx.expandFrom 0 (pos + (CharBytes.encode front).length) read cs := by
  induction front generalizing pos with
  | nil => rfl
  | cons c front ih =>
      rw [List.length_cons, List.cons_append, expandFrom, ih, CharBytes.length_encode_cons, Nat.add_assoc]

/-- After a dollar that starts neither an escape nor a brace. -/
theorem expandFrom_dollar (ctx : EnvContext) {cs : List Char} (single : Ends (· == '$') cs) (bare : Ends (· == '{') cs)
    (pos : Nat) (read : Bool) :
    ctx.expandFrom 0 pos read ('$' :: cs) =
      if scanIdentifier cs = [] then push ['$'] (ctx.expandFrom 0 (pos + 1) read cs)
      else push (ctx.value (scanIdentifier cs))
        (ctx.expandFrom (scanIdentifier cs).length (pos + 1) (read || ctx.reads (scanIdentifier cs)) cs) := by
  rw [expandFrom.eq_def]
  dsimp only
  rw [if_pos rfl]
  split
  · cases single
  · cases bare
  · rw [lookupPlain_eq]
    rfl

/-- The expansion by characters is that of the items. -/
theorem expandFrom_eq {cs : List Char} {items : List Item} (reading : Reading cs items) (ctx : EnvContext) (pos : Nat) (read : Bool) :
    ctx.expandFrom 0 pos read cs = ctx.evaluate pos read items := by
  induction reading generalizing pos read with
  | nil =>
      rw [expandFrom, evaluate, firstFailure, List.flatMap_nil, List.any_nil, Bool.or_false]
  | @char c cs items other _ ih =>
      rw [expandFrom.eq_def]
      dsimp only
      rw [if_neg other, evaluate_cons, ih]
      dsimp only [Item.failure, Item.text, Item.external]
      rw [Item.source, CharBytes.length_encode_cons, Bool.or_false]
      rfl
  | @doubled cs items _ ih =>
      rw [expandFrom, if_pos rfl, evaluate_cons]
      dsimp only [Item.failure, Item.text, Item.external]
      have skipped := ctx.expandFrom_skip ['$'] cs (pos + 1) read
      rw [List.length_singleton, List.singleton_append, ih] at skipped
      rw [skipped, Bool.or_false]
      rfl
  | @braced inner cs items closed _ ih =>
      have before : ∀ c ∈ inner, (c == '}') = false := by
        intro c member
        rw [beq_eq_false_iff_ne]
        rintro rfl
        exact closed member
      have found := @Text.splitOnce_some (· == '}') (inner ++ '}' :: cs) inner cs '}' before rfl rfl
      rw [expandFrom, if_pos rfl, evaluate_cons]
      dsimp only
      rw [found]
      dsimp only
      rw [expandBraced_eq ctx inner read pos]
      cases (Item.braced inner).failure ctx pos with
      | some e => rfl
      | none =>
          have skipped := ctx.expandFrom_skip ('{' :: (inner ++ ['}'])) cs (pos + 1) (read || (Item.braced inner).external ctx)
          have length : ('{' :: (inner ++ ['}'])).length = inner.length + 2 := by simp
          have whole : '{' :: (inner ++ ['}']) ++ cs = '{' :: (inner ++ '}' :: cs) := by simp
          have size : (CharBytes.encode (Item.braced inner).source).length = 1 + (CharBytes.encode ('{' :: (inner ++ ['}']))).length :=
            CharBytes.length_encode_cons '$' _
          rw [length, whole, ih, Nat.add_assoc, ← size] at skipped
          change push _ (ctx.expandFrom (inner.length + 2) (pos + 1) (read || (Item.braced inner).external ctx)
            ('{' :: (inner ++ '}' :: cs))) = _
          rw [skipped, String.toList_ofList]
  | @unterminated rest closed =>
      have absent : ∀ c ∈ rest, (c == '}') = false := by
        intro c member
        rw [beq_eq_false_iff_ne]
        rintro rfl
        exact closed member
      rw [expandFrom, if_pos rfl, evaluate_cons]
      dsimp only
      rw [Text.splitOnce_none absent]
      rfl
  | @name id cs items identifier ends _ ih =>
      have dollar : Ends (· == '$') (id ++ cs) := .of_identifier identifier fun c start => by
        rw [beq_eq_false_iff_ne]
        rintro rfl
        cases start
      have brace : Ends (· == '{') (id ++ cs) := .of_identifier identifier fun c start => by
        rw [beq_eq_false_iff_ne]
        rintro rfl
        cases start
      have nonempty : id ≠ [] := by
        rintro rfl
        exact identifier
      have size : (CharBytes.encode (Item.name id).source).length = 1 + (CharBytes.encode id).length :=
        CharBytes.length_encode_cons '$' id
      rw [expandFrom_dollar ctx dollar brace, scanIdentifier_append identifier ends, if_neg nonempty, expandFrom_skip, ih,
        evaluate_cons, size, Nat.add_assoc]
      rfl
  | @dollar cs items single bare start _ ih =>
      rw [expandFrom_dollar ctx single bare, scanIdentifier_nil start, if_pos rfl, ih, evaluate_cons]
      dsimp only [Item.failure, Item.text, Item.external]
      rw [Bool.or_false]
      rfl

end Ezpn.EnvContext
