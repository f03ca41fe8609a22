import Ezpn.Hooks.Firing
import Ezpn.Toml

/-!
# Loading hooks

The entries of a configuration as validated hooks: the event, the argument
templates and the predicate.
-/

set_option autoImplicit false

namespace Ezpn.Hooks

inductive HookEvent where
  | afterSessionCreate
  | beforeAttach
  | afterAttach
  | beforeDetach
  | afterDetach
  | afterPaneSpawn
  | afterPaneExit
  | onCwdChange
  | onFocusChange
  | onConfigReload
  | beforeSessionDestroy
  deriving DecidableEq, Repr

namespace HookEvent

def name : HookEvent → String
  | .beforeAttach => "before_attach"
  | .afterAttach => "after_attach"
  | .beforeDetach => "before_detach"
  | .afterDetach => "after_detach"
  | .afterSessionCreate => "after_session_create"
  | .beforeSessionDestroy => "before_session_destroy"
  | .afterPaneSpawn => "after_pane_spawn"
  | .afterPaneExit => "after_pane_exit"
  | .onCwdChange => "on_cwd_change"
  | .onFocusChange => "on_focus_change"
  | .onConfigReload => "on_config_reload"

def all : List HookEvent :=
  [.afterSessionCreate, .beforeAttach, .afterAttach, .beforeDetach, .afterDetach, .afterPaneSpawn, .afterPaneExit,
   .onCwdChange, .onFocusChange, .onConfigReload, .beforeSessionDestroy]

/-- `HookEvent::from_str`, the inverse of `name`. -/
def fromStr (s : String) : Option HookEvent := all.find? fun event => event.name = s

end HookEvent

/-- The wire form of a hook. -/
structure RawHook where
  event : String
  exec : List String
  when : Option String := none

inductive HookParseError where
  | unknownEvent (name : String)
  | emptyExec
  | emptyProgram
  | invalidExec
  | invalidWhen (message : String)

/-- `Display for HookParseError`. -/
def HookParseError.display : HookParseError → String
  | .unknownEvent name =>
      "unknown hook event '" ++ name ++ "' (valid: " ++ ", ".intercalate (HookEvent.all.map HookEvent.name) ++ ")"
  | .emptyExec => "hook exec must be a non-empty array"
  | .emptyProgram => "hook exec[0] (program name) must not be empty"
  | .invalidExec => "hook exec contains NUL or exceeds 1 MiB"
  | .invalidWhen message => "invalid when predicate: " ++ message

/-- A text without the two equal quotes around it. -/
def stripQuotes (cs : List Char) : Option (List Char) :=
  if 2 ≤ cs.length ∧ cs.head? = cs.getLast? ∧ (cs.head? = some '"' ∨ cs.head? = some '\'') then some cs.tail.dropLast
  else none

def parseVarRef (cs : List Char) : Option String :=
  match Text.stripPrefix ['$', '\x7b'] (Text.trim cs) with
  | none => none
  | some inner =>
      if inner.getLast? = some '\x7d' then
        let path := inner.dropLast
        if path = [] ∨ path.any fun c => !(c.isAlphanum || c = '_' || c = '.') then none else some (String.ofList path)
      else none

def WhenPredicate.parse (src : String) : Except HookParseError WhenPredicate :=
  let trimmed := Text.trim src.toList
  match Text.splitOnce (· = '\x7d') trimmed with
  | none => .error (.invalidWhen "missing variable reference")
  | some (reference, rest) =>
      let lhsRaw := reference ++ ['\x7d']
      let afterLhs := Text.trimStart rest
      let operator :=
        if ['=', '='].isPrefixOf afterLhs then some WhenOp.eq
        else if ['!', '='].isPrefixOf afterLhs then some WhenOp.ne
        else none
      match operator with
      | none => .error (.invalidWhen ("expected `==` or `!=` operator in `" ++ String.ofList trimmed ++ "`"))
      | some op =>
          match parseVarRef lhsRaw with
          | none =>
              .error (.invalidWhen ("left-hand side must be a `$\x7bpath\x7d` reference, got `" ++ String.ofList lhsRaw ++ "`"))
          | some lhs =>
              let rhsRaw := Text.trim (afterLhs.drop 2)
              match stripQuotes rhsRaw, parseI64 rhsRaw with
              | some s, _ => .ok { lhs, op, rhs := .str (String.ofList s) }
              | none, some n => .ok { lhs, op, rhs := .int n }
              | none, none =>
                  .error (.invalidWhen ("right-hand side must be a quoted string or integer literal, got `" ++
                    String.ofList rhsRaw ++ "`"))

/-- A hook with the event that it waits for. -/
structure EventHook extends Hook where
  event : HookEvent

def EventHook.fromRaw (raw : RawHook) : Except HookParseError EventHook :=
  match HookEvent.fromStr raw.event with
  | none => .error (.unknownEvent raw.event)
  | some event =>
      match raw.exec with
      | [] => .error .emptyExec
      | program :: _ =>
          if Text.trim program.toList = [] then .error .emptyProgram
          else if (raw.exec.any fun s => '\x00' ∈ s.toList) ∨ hookArgvMaxBytes < (raw.exec.map (·.utf8ByteSize)).sum then
            .error .invalidExec
          else
            match raw.when with
            | none => .ok { event, exec := raw.exec }
            | some s =>
                if Text.trim s.toList = [] then .ok { event, exec := raw.exec }
                else do
                  let when ← WhenPredicate.parse s
                  .ok { event, exec := raw.exec, when := some when }

/-- A hook's table in a document. -/
def RawHook.ofToml [TomlCrate] (v : Toml) : Except String RawHook :=
  match v.asTable with
  | none => .error (TomlCrate.message "struct RawHook" (some v))
  | some entries => do
      .ok
        { event := ← Toml.required entries "event" Toml.asStr "a string"
          exec := ← Toml.required entries "exec" Toml.asStrings "a sequence"
          when := ← Toml.optional entries "when" Toml.asStr "a string" }

end Ezpn.Hooks
