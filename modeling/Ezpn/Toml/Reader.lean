import Mathlib.Data.List.Nodup
import Ezpn.Text
import Ezpn.Toml

/-!
# Simple TOML documents

The part of TOML in which a document has headers and string values under bare keys:
basic strings on one line and over several lines, with their escapes, and how the
lines make up tables and arrays of tables.
-/

set_option autoImplicit false

namespace Ezpn

namespace Toml.Reader

/-! ## Characters -/

/-- Control characters, which stand neither in a string nor in a comment. -/
def forbidden (c : Char) : Bool := (c.toNat < 0x20 && c ≠ '\t') || c.toNat = 0x7F

def blank (c : Char) : Bool := c = ' ' || c = '\t'

def bare (c : Char) : Bool := c.isAlphanum || c = '-' || c = '_'

theorem forall_of_all {P : Char → Prop} [DecidablePred P] {cs : List Char} (all : cs.all (fun c => decide (P c)) = true) :
    ∀ c ∈ cs, P c := fun c member => of_decide_eq_true (List.all_eq_true.mp all c member)

/-- The escapes of one character. -/
def shortEscape (c : Char) : Option Char :=
  if c = 'b' then some '\x08'
  else if c = 't' then some '\t'
  else if c = 'n' then some '\n'
  else if c = 'f' then some '\x0c'
  else if c = 'r' then some '\r'
  else if c = '"' then some '"'
  else if c = '\\' then some '\\'
  else none

def hexDigit (c : Char) : Option Nat :=
  if c.isDigit then some (c.toNat - '0'.toNat)
  else if 'a' ≤ c && c ≤ 'f' then some (c.toNat - 'a'.toNat + 10)
  else if 'A' ≤ c && c ≤ 'F' then some (c.toNat - 'A'.toNat + 10)
  else none

/-- A Unicode scalar value in `n` hexadecimal digits. -/
def hexEscape (n : Nat) (cs : List Char) : Option (Char × List Char) :=
  if cs.length < n then none
  else
    match (cs.take n).mapM hexDigit with
    | none => none
    | some digits =>
        let code := digits.foldl (fun value digit => value * 16 + digit) 0
        if code.isValidChar then some (Char.ofNat code, cs.drop n) else none

/-- One character of a string, with the text after it. -/
def unit : List Char → Option (Char × List Char)
  | [] => none
  | c :: cs =>
      if c = '\\' then
        match cs with
        | [] => none
        | e :: cs =>
            if e = 'u' then hexEscape 4 cs
            else if e = 'U' then hexEscape 8 cs
            else (shortEscape e).map fun c => (c, cs)
      else if forbidden c then none
      else some (c, cs)

/-! ## Strings -/

/-- A string on one line, after the quote that opens it. -/
def basic : (fuel : Nat) → List Char → Option (List Char × List Char)
  | 0, _ => none
  | fuel + 1, cs =>
      if cs.head? = some '"' then some ([], cs.tail)
      else
        match unit cs with
        | none => none
        | some (c, cs) => (basic fuel cs).map fun (value, rest) => (c :: value, rest)

/-- A string over several lines, after the quotes that open it. Up to two quotes stand
before those that close it. No backslash ends a line. -/
def multiLine : (fuel : Nat) → List Char → Option (List Char × List Char)
  | 0, _ => none
  | fuel + 1, cs =>
      let quotes := (cs.takeWhile (· = '"')).length
      if 3 ≤ quotes then
        let extra := min (quotes - 3) 2
        some (List.replicate extra '"', cs.drop (extra + 3))
      else if cs.head? = some '"' || cs.head? = some '\n' then
        (multiLine fuel cs.tail).map fun (value, rest) => (cs.headD ' ' :: value, rest)
      else
        match unit cs with
        | none => none
        | some (c, cs) => (multiLine fuel cs).map fun (value, rest) => (c :: value, rest)

def value (cs : List Char) : Option (List Char × List Char) :=
  match Text.stripPrefix ['"', '"', '"'] cs with
  | some rest =>
      let rest := if rest.head? = some '\n' then rest.tail else rest
      multiLine (rest.length + 1) rest
  | none =>
      match Text.stripPrefix ['"'] cs with
      | some rest => basic (rest.length + 1) rest
      | none => none

/-! ## Lines -/

/-- White space and a comment up to the end of the line. -/
def trailing (cs : List Char) : Option (List Char) :=
  match cs.dropWhile blank with
  | [] => some []
  | c :: cs =>
      if c = '\n' then some cs
      else if c = '#' then
        if (cs.takeWhile (· ≠ '\n')).any forbidden then none else some (cs.dropWhile (· ≠ '\n')).tail
      else none

/-- What the pairs after a header belong to. -/
inductive Header where
  | root
  | table (key : String)
  | item (key : String)
  deriving DecidableEq, Repr

inductive Statement where
  | header (header : Header)
  | pair (key value : String)
  deriving DecidableEq, Repr

def bracketed (close : List Char) (header : String → Header) (cs : List Char) : Option (Option Statement × List Char) :=
  let key := cs.takeWhile bare
  if key = [] then none
  else
    match Text.stripPrefix close (cs.dropWhile bare) with
    | none => none
    | some rest => (trailing rest).map fun rest => (some (.header (header (String.ofList key))), rest)

/-- The statement at the start of a line, if there is one, and the text after the line. -/
def expression (cs : List Char) : Option (Option Statement × List Char) :=
  match Text.stripPrefix ['[', '['] cs with
  | some cs => bracketed [']', ']'] .item cs
  | none =>
      match Text.stripPrefix ['['] cs with
      | some cs => bracketed [']'] .table cs
      | none =>
          let key := cs.takeWhile bare
          if key = [] then (trailing cs).map fun rest => (none, rest)
          else
            match Text.stripPrefix [' ', '=', ' '] (cs.dropWhile bare) with
            | none => none
            | some cs =>
                match value cs with
                | none => none
                | some (value, cs) =>
                    (trailing cs).map fun rest => (some (.pair (String.ofList key) (String.ofList value)), rest)

def statements : (fuel : Nat) → List Char → Option (List Statement)
  | 0, _ => none
  | fuel + 1, cs =>
      if cs = [] then some []
      else
        match expression cs with
        | none => none
        | some (statement, rest) => (statements fuel rest).map (statement.toList ++ ·)

/-! ## Documents -/

/-- A header with the pairs under it. -/
structure Group where
  header : Header
  pairs : List (String × String) := []
  deriving DecidableEq, Repr

/-- The groups that begin with one that is already open. -/
def groups (current : Group) : List Statement → List Group
  | [] => [current]
  | .header header :: rest => current :: groups { header } rest
  | .pair key value :: rest => groups { current with pairs := current.pairs ++ [(key, value)] } rest

/-- An entry in a table sorted by keys. -/
def place {α : Type} (key : String) (a : α) : List (String × α) → List (String × α)
  | [] => [(key, a)]
  | entry :: entries => if key < entry.1 then (key, a) :: entry :: entries else entry :: place key a entries

def sorted {α : Type} (entries : List (String × α)) : List (String × α) :=
  entries.foldr (fun entry entries => place entry.1 entry.2 entries) []

def Group.table (group : Group) : Toml := .table (sorted (group.pairs.map fun (key, value) => (key, .string value)))

def Group.root (group : Group) : List (String × Toml) :=
  if group.header = .root then group.pairs.map fun (key, value) => (key, .string value) else []

def Group.named (group : Group) : Option (String × Toml) :=
  match group.header with
  | .table key => some (key, group.table)
  | _ => none

def Group.itemKey (group : Group) : Option String :=
  match group.header with
  | .item key => some key
  | _ => none

/-- The tables of an array. -/
def items (all : List Group) (key : String) : List Toml :=
  (all.filter fun group => group.header = .item key).map Group.table

/-- The entries of the document, before they are sorted. -/
def entries (all : List Group) : List (String × Toml) :=
  all.flatMap Group.root ++ all.filterMap Group.named ++
    (all.filterMap Group.itemKey).eraseDups.map fun key => (key, .array (items all key))

/-- Nothing is defined twice. -/
def document (all : List Group) : Option (List (String × Toml)) :=
  if (all.all fun group => (group.pairs.map Prod.fst).Nodup) && ((entries all).map Prod.fst).Nodup then
    some (sorted (entries all))
  else none

def read (cs : List Char) : Option (List (String × Toml)) :=
  (statements (cs.length + 1) cs).bind fun statements => document (groups { header := .root } statements)

/-! ## Texts of this form -/

/-- The lines of which the documents here consist. -/
inductive Line : List Char → Prop where
  | empty : Line []
  | table {key : List Char} (word : ∀ c ∈ key, bare c = true) : Line ('[' :: (key ++ [']']))
  | item {key : List Char} (word : ∀ c ∈ key, bare c = true) : Line ('[' :: '[' :: (key ++ [']', ']']))
  | pair {key text : List Char} (word : ∀ c ∈ key, bare c = true) (nonempty : key ≠ []) (inside : '\n' ∉ text) :
      Line (key ++ [' ', '=', ' ', '"'] ++ text ++ ['"'])

/-- A comment and lines. -/
def Covered (cs : List Char) : Prop :=
  ∃ (comment : List Char) (lines : List (List Char)),
    cs = '#' :: (comment ++ '\n' :: lines.flatMap fun line => line ++ ['\n']) ∧
    (∀ c ∈ comment, forbidden c = false) ∧ ∀ line ∈ lines, Line line

end Toml.Reader

/-- The library reads documents of this form as TOML has them. -/
class TomlReads extends TomlCrate where
  reads : ∀ text : String, Toml.Reader.Covered text.toList → (document text).toOption = Toml.Reader.read text.toList

/-- A library that reads documents of this form only. -/
@[reducible] def TomlReads.simple : TomlReads where
  document text :=
    match Toml.Reader.read text.toList with
    | none => .error "TOML parse error"
    | some doc => .ok doc
  encode _ := .error "unsupported"
  message expected _ := s!"expected {expected}"
  reads text _ := by cases Toml.Reader.read text.toList <;> rfl

end Ezpn
