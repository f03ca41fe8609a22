import Ezpn.Lib.Flagged
import Ezpn.Pane

/-!
# Environment interpolation

The reference forms of project files: `$VAR`, `${VAR}`, `${VAR:-default}`,
`${VAR:?message}` and `${secret:KEY}`. The context's flag for external reads is
passed along with the text; a result is sensitive when it ends up set.
-/

set_option autoImplicit false

namespace Ezpn

open Flagged

inductive ExpandError where
  | required (var message : String)
  | unknownSecret (key : String)
  | malformed (message : String)
  deriving DecidableEq, Repr

def ExpandError.display : ExpandError → String
  | required var message => s!"required variable `{var}` is unset: {message}"
  | unknownSecret key => s!"unknown secret `{key}` referenced via $\x7bsecret:..\x7d"
  | malformed message => s!"interpolation syntax error: {message}"

structure EnvContext where
  /-- per-pane `env` overrides -/
  perPane : EnvMap := ∅
  /-- `.env.local` -/
  dotenv : EnvMap := ∅
  /-- only for `${secret:KEY}` -/
  secrets : EnvMap := ∅
  process : EnvMap := ∅

namespace EnvContext

def withPane (ctx : EnvContext) (perPane : EnvMap) : EnvContext := { ctx with perPane }

/-- The pane's own variables first, then `.env.local`, then the process environment. -/
def lookupPlain (ctx : EnvContext) (name : String) (read : Bool) : Option String × Bool :=
  match ctx.perPane[name]? with
  | some v => (some v, read)
  | none =>
      match ctx.dotenv[name]? with
      | some v => (some v, true)
      | none =>
          match ctx.process[name]? with
          | some v => (some v, true)
          | none => (none, read)

def lookupSecret (ctx : EnvContext) (key : String) : Option String × Bool := (ctx.secrets[key]?, true)

def isNameStart (c : Char) : Bool := c.isAlpha || c = '_'

def isNameRest (c : Char) : Bool := c.isAlphanum || c = '_'

/-- `scan_identifier_end`: the identifier that the text starts with. -/
def scanIdentifier : List Char → List Char
  | [] => []
  | c :: cs => if isNameStart c then c :: cs.takeWhile isNameRest else []

def validateName (name : List Char) : Except ExpandError Unit :=
  match name with
  | [] => .error (.malformed "empty variable name in `$\x7b\x7d`")
  | c :: cs =>
      if isNameStart c && cs.all isNameRest then .ok ()
      else .error (.malformed s!"invalid variable name `{String.ofList name}`")

/-- `${VAR:?message}`: unset and empty are errors. -/
def required (name message : List Char) : Option String × Bool → Except ExpandError (String × Bool)
  | (some v, read) => if v ≠ "" then .ok (v, read) else .error (.required (String.ofList name) (String.ofList message))
  | (none, _) => .error (.required (String.ofList name) (String.ofList message))

/-- `${VAR:-default}`: the default on unset and empty. -/
def orDefault (default : List Char) : Option String × Bool → Except ExpandError (String × Bool)
  | (some v, read) => if v ≠ "" then .ok (v, read) else .ok (String.ofList default, read)
  | (none, read) => .ok (String.ofList default, read)

def orEmpty : Option String × Bool → Except ExpandError (String × Bool)
  | (found, read) => .ok (found.getD "", read)

/-- What stands between the braces. -/
def expandBraced (ctx : EnvContext) (inner : List Char) (read : Bool) : Except ExpandError (String × Bool) :=
  match Text.stripPrefix "secret:".toList inner with
  | some key =>
      let key := String.ofList (Text.trim key)
      if key = "" then .error (.malformed "empty key in `$\x7bsecret:..\x7d`")
      else match ctx.lookupSecret key with
        | (some v, read) => .ok (v, read)
        | (none, _) => .error (.unknownSecret key)
  | none =>
      match Text.splitOnce (· == ':') inner with
      | some (name, '?' :: message) => do
          validateName name
          required name message (ctx.lookupPlain (String.ofList name) read)
      | some (name, '-' :: default) => do
          validateName name
          orDefault default (ctx.lookupPlain (String.ofList name) read)
      | _ => do
          validateName inner
          orEmpty (ctx.lookupPlain (String.ofList inner) read)

/-- Put text in front of what the rest of the template expands to. -/
def push (text : List Char) (rest : Except ExpandError (List Char × Bool)) : Except ExpandError (List Char × Bool) :=
  rest.map fun (out, read) => (text ++ out, read)

/-- The loop of `expand` at a byte position; `skip` counts characters that a reference has used. -/
def expandFrom (ctx : EnvContext) : (skip pos : Nat) → (read : Bool) → List Char →
    Except ExpandError (List Char × Bool)
  | _, _, read, [] => .ok ([], read)
  | skip + 1, pos, read, c :: cs => expandFrom ctx skip (pos + c.utf8Size) read cs
  | 0, pos, read, c :: cs =>
      if c = '$' then
        match cs with
        | '$' :: _ => push ['$'] (expandFrom ctx 1 (pos + 1) read cs)
        | '{' :: braced =>
            match Text.splitOnce (· == '}') braced with
            | none => .error (.malformed s!"unterminated `$\x7b` starting at byte {pos + 1}")
            | some (inner, _) => do
                let (v, read) ← ctx.expandBraced inner read
                push v.toList (expandFrom ctx (inner.length + 2) (pos + 1) read cs)
        | _ =>
            let name := scanIdentifier cs
            if name = [] then push ['$'] (expandFrom ctx 0 (pos + 1) read cs)
            else
              let (v, read) := ctx.lookupPlain (String.ofList name) read
              push (v.getD "").toList (expandFrom ctx name.length (pos + 1) read cs)
      else push [c] (expandFrom ctx 0 (pos + c.utf8Size) read cs)

def expand (template : String) (ctx : EnvContext) (read : Bool) : Except ExpandError (String × Bool) :=
  (ctx.expandFrom 0 0 read template.toList).map fun (out, read) => (String.ofList out, read)

/-- The expansion and whether it read external values. -/
def expandWithSensitivity (template : String) (ctx : EnvContext) : Except ExpandError (String × Bool) :=
  expand template ctx false

example :
    let ctx : EnvContext := { process := .ofList [("NAME", "세계"), ("EMPTY", "")] }
    expandWithSensitivity "$NAME $$5" ctx = .ok ("세계 $5", true) ∧
      expandWithSensitivity "$\x7bEMPTY:-x\x7d" ctx = .ok ("x", true) := by
  decide +kernel

/-! ## Sensitivity -/

@[simp] theorem lookupPlain_sensitive (ctx : EnvContext) (name : String) : (ctx.lookupPlain name true).2 = true := by
  simp only [lookupPlain]
  repeat' split
  all_goals rfl

theorem push_sensitive {rest : Except ExpandError (List Char × Bool)} (sensitive : Sensitive rest) (text : List Char) :
    Sensitive (push text rest) := sensitive.map _

theorem required_sensitive (name message : List Char) (found : Option String) :
    Sensitive (required name message (found, true)) := by
  cases found with
  | none => exact sensitive_error _
  | some v =>
      simp only [required]
      split
      · exact sensitive_ok v
      · exact sensitive_error _

theorem orDefault_sensitive (default : List Char) (found : Option String) :
    Sensitive (orDefault default (found, true)) := by
  cases found with
  | none => exact sensitive_ok _
  | some v =>
      simp only [orDefault]
      split
      · exact sensitive_ok v
      · exact sensitive_ok _

theorem orEmpty_sensitive (found : Option String) : Sensitive (orEmpty (found, true)) := sensitive_ok _

theorem expandBraced_secret (ctx : EnvContext) {inner key : List Char} (read : Bool)
    (secret : Text.stripPrefix "secret:".toList inner = some key) : Sensitive (ctx.expandBraced inner read) := by
  simp only [expandBraced, secret, lookupSecret]
  split
  · exact sensitive_error _
  · cases ctx.secrets[String.ofList (Text.trim key)]? with
    | none => exact sensitive_error _
    | some v => exact sensitive_ok v

theorem expandBraced_sensitive (ctx : EnvContext) (inner : List Char) : Sensitive (ctx.expandBraced inner true) := by
  cases form : Text.stripPrefix "secret:".toList inner with
  | some key => exact ctx.expandBraced_secret true form
  | none =>
      have looked (name : String) : ctx.lookupPlain name true = ((ctx.lookupPlain name true).1, true) :=
        Prod.ext rfl (ctx.lookupPlain_sensitive name)
      simp only [expandBraced, form]
      split
      · refine .after fun _ => ?_
        rw [looked]
        exact required_sensitive _ _ _
      · refine .after fun _ => ?_
        rw [looked]
        exact orDefault_sensitive _ _
      · refine .after fun _ => ?_
        rw [looked]
        exact orEmpty_sensitive _

/-- A flag that is set stays set. -/
theorem expandFrom_sensitive (ctx : EnvContext) (skip pos : Nat) (cs : List Char) :
    Sensitive (ctx.expandFrom skip pos true cs) := by
  induction cs generalizing skip pos with
  | nil => cases skip <;> exact sensitive_ok _
  | cons c cs ih =>
      cases skip with
      | succ skip => exact ih skip _
      | zero =>
          simp only [expandFrom]
          split
          · split
            · exact push_sensitive (ih 1 _) _
            · split
              · exact sensitive_error _
              · exact (ctx.expandBraced_sensitive _).bind fun v => push_sensitive (ih _ _) _
            · split
              · exact push_sensitive (ih _ _) _
              · rw [lookupPlain_sensitive]
                exact push_sensitive (ih _ _) _
          · exact push_sensitive (ih _ _) _

/-- Whether a name is defined outside the pane. -/
def Defines (ctx : EnvContext) (name : String) : Prop := name ∈ ctx.dotenv ∨ name ∈ ctx.process

/-- The same variables of the pane, and the same names defined outside it. -/
structure SameNames (a b : EnvContext) : Prop where
  perPane : b.perPane = a.perPane
  defined : ∀ name, a.Defines name ↔ b.Defines name

variable {a b : EnvContext}

theorem lookupPlain_agrees (same : a.SameNames b) (name : String) (read : Bool) :
    a.lookupPlain name read = b.lookupPlain name read ∨
      (a.lookupPlain name read).2 = true ∧ (b.lookupPlain name read).2 = true := by
  have defined := same.defined name
  simp only [Defines, Std.ExtTreeMap.mem_iff_isSome_getElem?] at defined
  simp only [lookupPlain, same.perPane]
  cases a.perPane[name]? <;> cases dotenvA : a.dotenv[name]? <;> cases processA : a.process[name]? <;>
    cases dotenvB : b.dotenv[name]? <;> cases processB : b.process[name]? <;> simp_all

/-- What both make of a lookup in the same way agrees when it keeps the flag. -/
theorem agrees_lookup {α : Type} (same : a.SameNames b) (name : String) (read : Bool)
    {result : Option String × Bool → Except ExpandError (α × Bool)} (keeps : ∀ found, Sensitive (result (found, true))) :
    Agrees (result (a.lookupPlain name read)) (result (b.lookupPlain name read)) := by
  rcases lookupPlain_agrees same name read with equal | ⟨external, externalRight⟩
  · exact .inl (congrArg result equal)
  · have flagged (found : Option String × Bool) (set : found.2 = true) : Sensitive (result found) := by
      have kept := keeps found.1
      rwa [← set] at kept
    exact .inr ⟨flagged _ external, flagged _ externalRight⟩

theorem expandBraced_agrees (same : a.SameNames b) (inner : List Char) (read : Bool) :
    Agrees (a.expandBraced inner read) (b.expandBraced inner read) := by
  cases form : Text.stripPrefix "secret:".toList inner with
  | some key => exact .inr ⟨a.expandBraced_secret read form, b.expandBraced_secret read form⟩
  | none =>
      simp only [expandBraced, form]
      split
      · exact .after fun _ => agrees_lookup same _ read (required_sensitive _ _)
      · exact .after fun _ => agrees_lookup same _ read (orDefault_sensitive _)
      · exact .after fun _ => agrees_lookup same _ read orEmpty_sensitive

theorem expandFrom_agrees (same : a.SameNames b) (skip pos : Nat) (read : Bool) (cs : List Char) :
    Agrees (a.expandFrom skip pos read cs) (b.expandFrom skip pos read cs) := by
  induction cs generalizing skip pos read with
  | nil => cases skip <;> exact .refl _
  | cons c cs ih =>
      cases skip with
      | succ skip => exact ih skip _ _
      | zero =>
          simp only [expandFrom]
          split
          · split
            · exact (ih 1 _ _).map _
            · split
              · exact .refl _
              · exact (expandBraced_agrees same _ read).bind (fun v flag => (ih _ _ flag).map _)
                  (fun v => push_sensitive (a.expandFrom_sensitive _ _ _) _)
                  (fun v => push_sensitive (b.expandFrom_sensitive _ _ _) _)
            · split
              · exact (ih _ _ _).map _
              · rcases lookupPlain_agrees same (String.ofList (scanIdentifier cs)) read with
                  equal | ⟨external, externalRight⟩
                · rw [equal]
                  exact (ih _ _ _).map _
                · rw [external, externalRight]
                  exact .inr ⟨push_sensitive (a.expandFrom_sensitive _ _ _) _, push_sensitive (b.expandFrom_sensitive _ _ _) _⟩
          · exact (ih _ _ _).map _

/-- An expansion that reads no external value is the same in every context with the same names. -/
theorem expandWithSensitivity_agrees (same : a.SameNames b) (template : String) :
    Agrees (expandWithSensitivity template a) (expandWithSensitivity template b) :=
  (expandFrom_agrees same 0 0 false template.toList).map String.ofList

end EnvContext

end Ezpn
