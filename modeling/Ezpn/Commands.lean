import Ezpn.Text

/-!
# Command palette

The typed commands of the palette, the parser of command lines, and the
rendering through which a key binding reaches the same parser.
-/

set_option autoImplicit false

namespace Ezpn.Commands

/-- Direction for `select-pane`, `resize-pane` and `swap-pane`. -/
inductive Dir where
  | up
  | down
  | left
  | right
  deriving Repr, DecidableEq

/-- `Dir::parse`: upper and lower case flags are accepted. -/
def Dir.parse (flag : String) : Option Dir :=
  if flag = "-U" ∨ flag = "-u" then some .up
  else if flag = "-D" ∨ flag = "-d" then some .down
  else if flag = "-L" ∨ flag = "-l" then some .left
  else if flag = "-R" ∨ flag = "-r" then some .right
  else none

inductive Command where
  | splitHorizontal
  | splitVertical
  | killPane
  | killWindow
  | newWindow (name : Option String)
  | renameWindow (name : String)
  | selectPane (dir : Dir)
  | resizePane (dir : Dir) (amount : UInt16)
  | swapPane (up : Bool)
  | selectLayout (name : String)
  | setOption (key value : String)
  | displayMessage (text : String)
  deriving DecidableEq

inductive ParseError where
  | empty
  | unknownCommand (name : String)
  | missingArgument (command argument : String)
  | invalidArgument (command argument : String)
  | unterminatedQuote
  deriving DecidableEq

/-- `Display for ParseError`. -/
def ParseError.display : ParseError → String
  | .empty => "empty command"
  | .unknownCommand name => "unknown command: " ++ name ++ " (try ?)"
  | .missingArgument command argument => command ++ ": missing argument <" ++ argument ++ ">"
  | .invalidArgument command argument => command ++ ": invalid argument: " ++ argument
  | .unterminatedQuote => "unterminated quote"

/-! ## Tokens -/

/-- The locals of the tokenizer's loop. -/
structure Lexer where
  tokens : List String
  current : List Char
  inToken : Bool
  quote : Option Char

namespace Lexer

def start : Lexer where
  tokens := []
  current := []
  inToken := false
  quote := none

def push (lexer : Lexer) (c : Char) : Lexer :=
  { lexer with current := lexer.current ++ [c] }

/-- One character of the loop, when it is no escape. -/
def char (lexer : Lexer) (c : Char) : Lexer :=
  match lexer.quote with
  | some q =>
      if c = q then { lexer with quote := none, inToken := true }
      else { lexer.push c with inToken := true }
  | none =>
      if c = '"' ∨ c = '\'' then { lexer with quote := some c, inToken := true }
      else if Text.isWhitespace c then
        if lexer.inToken then
          { lexer with tokens := lexer.tokens ++ [String.ofList lexer.current], current := [], inToken := false }
        else lexer
      else { lexer.push c with inToken := true }

/-- A backslash is an escape outside quotes and inside double quotes. -/
def escapes (lexer : Lexer) (c : Char) : Bool :=
  c = '\\' && (lexer.quote = none || lexer.quote = some '"')

/-- The character after an escaping backslash is taken as it is. Only outside
quotes does it start a token. -/
def escaped (lexer : Lexer) (next : Char) : Lexer :=
  { lexer.push next with inToken := lexer.inToken || lexer.quote = none }

/-- The loop over the characters. An escape at the very end is dropped. -/
def run (lexer : Lexer) : List Char → Lexer
  | [] => lexer
  | c :: cs =>
      if lexer.escapes c then
        match cs with
        | [] => lexer
        | next :: cs => (lexer.escaped next).run cs
      else (lexer.char c).run cs

def finish (lexer : Lexer) : Except ParseError (List String) :=
  if lexer.quote.isSome then .error .unterminatedQuote
  else if lexer.inToken then .ok (lexer.tokens ++ [String.ofList lexer.current])
  else .ok lexer.tokens

end Lexer

def tokenize (input : String) : Except ParseError (List String) :=
  (Lexer.start.run input.toList).finish

/-! ## Parsing -/

/-- `join_remaining`: the tokens separated by one space. -/
def joinRemaining : List String → Option String
  | [] => none
  | tokens => some (" ".intercalate tokens)

def startsWithDash (token : String) : Bool := token.toList.head? = some '-'

def parseSplit : List String → Except ParseError Command
  | [] => .ok .splitHorizontal
  | flag :: _ =>
      if flag = "-h" then .ok .splitHorizontal
      else if flag = "-v" then .ok .splitVertical
      else if startsWithDash flag then .error (.invalidArgument "split-window" flag)
      else .ok .splitHorizontal

/-- The loop of `parse_new_window`. The last `-n` wins, other words are ignored. -/
def parseNewWindow (name : Option String) : List String → Except ParseError Command
  | [] => .ok (.newWindow name)
  | flag :: rest =>
      if flag = "-n" then
        match rest with
        | [] => .error (.missingArgument "new-window" "NAME")
        | value :: rest => parseNewWindow (some value) rest
      else if startsWithDash flag then .error (.invalidArgument "new-window" flag)
      else parseNewWindow name rest

def parseDirOnly (rest : List String) (command : String) : Except ParseError Dir :=
  match rest with
  | [] => .error (.missingArgument command "-U|-D|-L|-R")
  | flag :: _ =>
      match Dir.parse flag with
      | none => .error (.invalidArgument command flag)
      | some dir => .ok dir

/-- `str::parse::<u16>`. -/
def parseAmount (token : String) : Option UInt16 :=
  (Text.parseUnsigned 65535 token.toList).map UInt16.ofNat

def parseResizePane (rest : List String) : Except ParseError Command := do
  let dir ← parseDirOnly rest "resize-pane"
  match rest[1]? with
  | none => .ok (.resizePane dir 1)
  | some token =>
      match parseAmount token with
      | none => .error (.invalidArgument "resize-pane" token)
      | some amount => .ok (.resizePane dir amount)

def parseSwapPane : List String → Except ParseError Command
  | [] => .error (.missingArgument "swap-pane" "-U|-D")
  | flag :: _ =>
      if flag = "-U" ∨ flag = "-u" then .ok (.swapPane true)
      else if flag = "-D" ∨ flag = "-d" then .ok (.swapPane false)
      else .error (.invalidArgument "swap-pane" flag)

def parseSetOption : List String → Except ParseError Command
  | [] => .error (.missingArgument "set-option" "KEY")
  | [_] => .error (.missingArgument "set-option" "VALUE")
  | key :: rest => .ok (.setOption key ((joinRemaining rest).getD ""))

def parseSelectLayout : List String → Except ParseError Command
  | [] => .error (.missingArgument "select-layout" "NAME")
  | name :: _ => .ok (.selectLayout name)

/-- A command whose one argument is the rest of the line. -/
def parseText (command argument : String) (build : String → Command) (rest : List String) :
    Except ParseError Command :=
  match joinRemaining rest with
  | none => .error (.missingArgument command argument)
  | some text => .ok (build text)

def parseTokens : List String → Except ParseError Command
  | [] => .error .empty
  | head :: rest =>
      match head with
      | "split-window" | "splitw" | "split" => parseSplit rest
      | "kill-pane" | "killp" | "close-pane" => .ok .killPane
      | "kill-window" | "close-tab" => .ok .killWindow
      | "new-window" | "new-tab" | "neww" => parseNewWindow none rest
      | "rename-window" | "rename-tab" | "renamew" => parseText "rename-window" "NAME" .renameWindow rest
      | "select-pane" | "selectp" => (parseDirOnly rest "select-pane").map .selectPane
      | "resize-pane" | "resizep" => parseResizePane rest
      | "swap-pane" | "swapp" => parseSwapPane rest
      | "select-layout" | "selectl" | "layout" => parseSelectLayout rest
      | "set-option" | "setw" | "set" => parseSetOption rest
      | "display-message" | "display" | "displaym" => parseText "display-message" "TEXT" .displayMessage rest
      | other => .error (.unknownCommand other)

def parse (input : String) : Except ParseError Command := do
  let tokens ← tokenize input
  parseTokens tokens

/-! ## Rendering -/

/-- `dir_flag`. -/
def Dir.flag : Dir → String
  | .up => "-U"
  | .down => "-D"
  | .left => "-L"
  | .right => "-R"

/-- `str::replace` of one character. -/
def replace (c : Char) (by' : List Char) (cs : List Char) : List Char :=
  cs.flatMap fun d => if d = c then by' else [d]

def quoteArg (value : String) : String :=
  "\"" ++ String.ofList (replace '"' ['\\', '"'] (replace '\\' ['\\', '\\'] value.toList)) ++ "\""

def renderCommand : Command → String
  | .splitHorizontal => "split-window -h"
  | .splitVertical => "split-window -v"
  | .killPane => "kill-pane"
  | .killWindow => "kill-window"
  | .newWindow (some name) => "new-window -n " ++ quoteArg name
  | .newWindow none => "new-window"
  | .renameWindow name => "rename-window " ++ quoteArg name
  | .selectPane dir => "select-pane " ++ dir.flag
  | .resizePane dir amount => "resize-pane " ++ dir.flag ++ " " ++ toString amount
  | .swapPane up => if up then "swap-pane -U" else "swap-pane -D"
  | .selectLayout name => "select-layout " ++ quoteArg name
  | .setOption key value => "set-option " ++ quoteArg key ++ " " ++ quoteArg value
  | .displayMessage text => "display-message " ++ quoteArg text

end Ezpn.Commands
