import Ezpn.Commands

/-!
# Command lines and commands

A line is read as the words it spells, a quoted argument spells its value, and
so parsing is a left inverse of rendering.
-/

set_option autoImplicit false

namespace Ezpn

namespace Text

theorem digits?_append (max acc : Nat) (cs ds : List Char) :
    digits? max acc (cs ++ ds) = (digits? max acc cs).bind fun value => digits? max value ds := by
  induction cs generalizing acc with
  | nil => rfl
  | cons c cs ih =>
      simp only [List.cons_append, digits?]
      cases digit? c with
      | none => rfl
      | some d =>
          simp only
          split
          · exact ih _
          · rfl

theorem digit?_digitChar {d : Nat} (small : d < 10) : digit? d.digitChar = some d := by
  revert d
  decide

theorem digits?_toDigits {max value : Nat} (bounded : value ≤ max) :
    digits? max 0 (Nat.toDigits 10 value) = some value := by
  induction value using Nat.strong_induction_on with
  | _ value ih =>
      by_cases small : value < 10
      · rw [Nat.toDigits_of_lt_base small]
        simp [digits?, digit?_digitChar small, bounded]
      · have last : value % 10 < 10 := Nat.mod_lt _ (by omega)
        have sum : value / 10 * 10 + value % 10 = value := Nat.div_add_mod' value 10
        rw [Nat.toDigits_of_base_le (by omega) (by omega), digits?_append,
          ih (value / 10) (by omega) (by omega)]
        simp [digits?, digit?_digitChar last, sum, bounded]

theorem parseUnsigned_toDigits {max value : Nat} (bounded : value ≤ max) :
    parseUnsigned max (Nat.toDigits 10 value) = some value := by
  have read := digits?_toDigits bounded
  cases written : Nat.toDigits 10 value with
  | nil => exact absurd written Nat.toDigits_ne_nil
  | cons c cs =>
      have digit : c.isDigit :=
        Nat.isDigit_of_mem_toDigits (b := 10) (n := value) (by omega) (by omega) (written ▸ List.mem_cons_self)
      have unsigned : c ≠ '+' := by
        rintro rfl
        exact absurd digit (by decide)
      rw [written] at read
      unfold parseUnsigned
      split
      · contradiction
      · exact absurd (by simp_all) unsigned
      · exact absurd (by simp_all) unsigned
      · exact read

end Text

namespace Commands

/-! ## Words -/

namespace Lexer

/-- Between two tokens. -/
def between (tokens : List String) : Lexer where
  tokens := tokens
  current := []
  inToken := false
  quote := none

/-- Inside a token, of which `current` has been read. -/
def within (tokens : List String) (current : List Char) (quote : Option Char) : Lexer where
  tokens := tokens
  current := current
  inToken := true
  quote := quote

theorem start_eq : start = between [] := rfl

theorem finish_within (tokens : List String) (current : List Char) :
    (within tokens current none).finish = .ok (tokens ++ [String.ofList current]) := rfl

theorem run_char {lexer : Lexer} {c : Char} (ordinary : lexer.escapes c = false) (cs : List Char) :
    lexer.run (c :: cs) = (lexer.char c).run cs := by
  cases cs <;> simp [run, ordinary]

theorem run_escape {lexer : Lexer} {c : Char} (escape : lexer.escapes c = true) (next : Char) (cs : List Char) :
    lexer.run (c :: next :: cs) = (lexer.escaped next).run cs := by
  simp [run, escape]

theorem run_space (tokens : List String) (current cs : List Char) :
    (within tokens current none).run (' ' :: cs) = (between (tokens ++ [String.ofList current])).run cs :=
  run_char rfl cs

/-- A character that only stands for itself. -/
def IsPlain (c : Char) : Prop :=
  c ≠ '"' ∧ c ≠ '\'' ∧ c ≠ '\\' ∧ Text.isWhitespace c = false

instance (c : Char) : Decidable (IsPlain c) := by
  unfold IsPlain
  infer_instance

instance (word : List Char) : Decidable (∀ c ∈ word, IsPlain c) := List.decidableBAll _ word

theorem run_plain_between {c : Char} (plain : IsPlain c) (tokens : List String) (cs : List Char) :
    (between tokens).run (c :: cs) = (within tokens [c] none).run cs := by
  obtain ⟨double, single, backslash, dark⟩ := plain
  rw [run_char (by simp [escapes, backslash])]
  simp [char, push, between, within, double, single, dark]

theorem run_plain_within {c : Char} (plain : IsPlain c) (tokens : List String) (current cs : List Char) :
    (within tokens current none).run (c :: cs) = (within tokens (current ++ [c]) none).run cs := by
  obtain ⟨double, single, backslash, dark⟩ := plain
  rw [run_char (by simp [escapes, backslash])]
  simp [char, push, within, double, single, dark]

theorem run_plains_within {word : List Char} (plain : ∀ c ∈ word, IsPlain c) (tokens : List String)
    (current cs : List Char) :
    (within tokens current none).run (word ++ cs) = (within tokens (current ++ word) none).run cs := by
  induction word generalizing current with
  | nil => simp
  | cons c word ih =>
      rw [List.cons_append, run_plain_within (plain c List.mem_cons_self),
        ih (fun d member => plain d (List.mem_cons_of_mem c member)), List.append_assoc, List.singleton_append]

/-! ## Quoted arguments -/

/-- How one character stands between double quotes. -/
def escapeChar (c : Char) : List Char :=
  if c = '\\' then ['\\', '\\'] else if c = '"' then ['\\', '"'] else [c]

/-- The two replacements in turn escape each character by itself, since the
first one introduces no quote. -/
theorem replace_replace (cs : List Char) :
    replace '"' ['\\', '"'] (replace '\\' ['\\', '\\'] cs) = cs.flatMap escapeChar := by
  simp only [replace, List.flatMap_assoc]
  refine congrArg (cs.flatMap ·) (funext fun c => ?_)
  unfold escapeChar
  split
  · rfl
  · simp

theorem run_escapeChar (c : Char) (tokens : List String) (current cs : List Char) :
    (within tokens current (some '"')).run (escapeChar c ++ cs) =
      (within tokens (current ++ [c]) (some '"')).run cs := by
  unfold escapeChar
  split
  · rename_i backslash
    subst backslash
    exact run_escape rfl '\\' cs
  · rename_i other
    split
    · rename_i quote
      subst quote
      exact run_escape rfl '"' cs
    · rename_i inner
      rw [List.singleton_append, run_char (by simp [escapes, other])]
      simp [char, push, within, inner]

theorem run_escaped (value : List Char) (tokens : List String) (current cs : List Char) :
    (within tokens current (some '"')).run (value.flatMap escapeChar ++ cs) =
      (within tokens (current ++ value) (some '"')).run cs := by
  induction value generalizing current with
  | nil => simp
  | cons c value ih =>
      rw [List.flatMap_cons, List.append_assoc, run_escapeChar, ih, List.append_assoc, List.singleton_append]

end Lexer

open Lexer

/-! ## Lines -/

/-- Between two tokens, `piece` is read as the single token `token`. -/
def Spells (piece token : String) : Prop :=
  ∀ (tokens : List String) (cs : List Char),
    (between tokens).run (piece.toList ++ cs) = (within tokens token.toList none).run cs

theorem Spells.plain {word : String} (nonempty : word.toList ≠ []) (plain : ∀ c ∈ word.toList, IsPlain c) :
    Spells word word := by
  intro tokens cs
  cases spelled : word.toList with
  | nil => exact absurd spelled nonempty
  | cons c rest =>
      rw [spelled] at plain
      rw [List.cons_append, run_plain_between (plain c List.mem_cons_self),
        run_plains_within fun d member => plain d (List.mem_cons_of_mem c member)]
      rfl

theorem Spells.quoteArg (value : String) : Spells (quoteArg value) value := by
  intro tokens cs
  have opened :
      (between tokens).run ('"' :: (value.toList.flatMap escapeChar ++ '"' :: cs)) =
        (within tokens [] (some '"')).run (value.toList.flatMap escapeChar ++ '"' :: cs) :=
    run_char rfl _
  have closed :
      (within tokens value.toList (some '"')).run ('"' :: cs) = (within tokens value.toList none).run cs :=
    run_char rfl cs
  simp only [Commands.quoteArg, replace_replace, String.toList_append, String.toList_ofList, List.append_assoc]
  exact opened.trans ((run_escaped value.toList tokens [] _).trans closed)

/-- Pieces separated by single spaces, with the tokens they spell. -/
inductive Line : String → List String → Prop where
  | last {piece token : String} : Spells piece token → Line piece [token]
  | more {piece token line : String} {tokens : List String} :
      Spells piece token → Line line tokens → Line (piece ++ " " ++ line) (token :: tokens)

theorem Line.run {line : String} {tokens : List String} (spelled : Line line tokens) (before : List String) :
    ((between before).run line.toList).finish = .ok (before ++ tokens) := by
  induction spelled generalizing before with
  | @last piece token piece_spelled =>
      have read := piece_spelled before []
      rw [List.append_nil] at read
      rw [read]
      simp [Lexer.run, finish_within]
  | @more piece token line tokens piece_spelled _ ih =>
      have space : " ".toList = [' '] := rfl
      rw [String.toList_append, String.toList_append, space, List.append_assoc, List.singleton_append,
        piece_spelled, run_space, ih, String.ofList_toList, List.append_assoc, List.singleton_append]

theorem Line.tokenize {line : String} {tokens : List String} (spelled : Line line tokens) :
    tokenize line = .ok tokens :=
  spelled.run []

/-! ## Commands -/

/-- The tokens of a rendered command. -/
def Command.words : Command → List String
  | .splitHorizontal => ["split-window", "-h"]
  | .splitVertical => ["split-window", "-v"]
  | .killPane => ["kill-pane"]
  | .killWindow => ["kill-window"]
  | .newWindow (some name) => ["new-window", "-n", name]
  | .newWindow none => ["new-window"]
  | .renameWindow name => ["rename-window", name]
  | .selectPane dir => ["select-pane", dir.flag]
  | .resizePane dir amount => ["resize-pane", dir.flag, toString amount]
  | .swapPane up => ["swap-pane", if up then "-U" else "-D"]
  | .selectLayout name => ["select-layout", name]
  | .setOption key value => ["set-option", key, value]
  | .displayMessage text => ["display-message", text]

theorem Dir.parse_flag (dir : Dir) : Dir.parse dir.flag = some dir := by
  cases dir <;> rfl

theorem toList_amount (amount : UInt16) : (toString amount).toList = Nat.toDigits 10 amount.toNat :=
  Nat.toList_repr

theorem parseAmount_toString (amount : UInt16) : parseAmount (toString amount) = some amount := by
  have bounded : amount.toNat ≤ 65535 := Nat.le_of_lt_succ amount.toNat_lt
  rw [parseAmount, toList_amount, Text.parseUnsigned_toDigits bounded, Option.map_some, UInt16.ofNat_toNat]

theorem parseTokens_words (command : Command) : parseTokens command.words = .ok command := by
  cases command with
  | splitHorizontal => rfl
  | splitVertical => rfl
  | killPane => rfl
  | killWindow => rfl
  | newWindow name =>
      cases name with
      | none => rfl
      | some name => rfl
  | renameWindow name => rfl
  | selectPane dir => cases dir <;> rfl
  | resizePane dir amount =>
      have direction : parseDirOnly [dir.flag, toString amount] "resize-pane" = .ok dir := by
        simp only [parseDirOnly, Dir.parse_flag]
      have read : parseResizePane [dir.flag, toString amount] = .ok (.resizePane dir amount) := by
        simp only [parseResizePane, direction, bind, Except.bind, List.getElem?_cons_succ,
          List.getElem?_cons_zero, parseAmount_toString]
      exact read
  | swapPane up => cases up <;> rfl
  | selectLayout name => rfl
  | setOption key value => rfl
  | displayMessage text => rfl

theorem spells_flag (dir : Dir) : Spells dir.flag dir.flag := by
  cases dir <;> exact .plain (by decide) (by decide)

theorem isPlain_of_isDigit {c : Char} (digit : c.isDigit = true) : IsPlain c := by
  have range : 48 ≤ c.toNat ∧ c.toNat ≤ 57 := by
    simpa [Char.isDigit, UInt32.le_iff_toNat_le] using digit
  refine ⟨?_, ?_, ?_, ?_⟩
  · rintro rfl
    exact absurd range (by decide)
  · rintro rfl
    exact absurd range (by decide)
  · rintro rfl
    exact absurd range (by decide)
  · simp only [Text.isWhitespace]
    simp
    omega

theorem spells_amount (amount : UInt16) : Spells (toString amount) (toString amount) := by
  refine .plain ?_ ?_
  · rw [toList_amount]
    exact Nat.toDigits_ne_nil
  · intro c member
    rw [toList_amount] at member
    exact isPlain_of_isDigit (Nat.isDigit_of_mem_toDigits (by omega) (by omega) member)

theorem spells_swap (up : Bool) : Spells (if up then "-U" else "-D") (if up then "-U" else "-D") := by
  cases up <;> exact .plain (by decide) (by decide)

/-- A line that starts with a plain word. -/
theorem Line.word {rendered line : String} {tokens : List String} (word : String) (nonempty : word.toList ≠ [])
    (plain : ∀ c ∈ word.toList, IsPlain c) (written : rendered = word ++ " " ++ line)
    (rest : Line line tokens) : Line rendered (word :: tokens) := by
  rw [written]
  exact .more (.plain nonempty plain) rest

theorem renderCommand_line (command : Command) : Line (renderCommand command) command.words := by
  cases command with
  | splitHorizontal =>
      have flag : Spells "-h" "-h" := .plain (by decide) (by decide)
      exact .word "split-window" (by decide) (by decide) rfl (.last flag)
  | splitVertical =>
      have flag : Spells "-v" "-v" := .plain (by decide) (by decide)
      exact .word "split-window" (by decide) (by decide) rfl (.last flag)
  | killPane => exact .last (.plain (by decide) (by decide))
  | killWindow => exact .last (.plain (by decide) (by decide))
  | newWindow name =>
      cases name with
      | none => exact .last (.plain (by decide) (by decide))
      | some name =>
          have named : Line ("-n" ++ " " ++ quoteArg name) ["-n", name] :=
            .word "-n" (by decide) (by decide) rfl (.last (.quoteArg name))
          refine .word "new-window" (by decide) (by decide) ?_ named
          simp only [renderCommand, ← String.append_assoc]
          rfl
  | renameWindow name =>
      exact .word "rename-window" (by decide) (by decide) rfl (.last (.quoteArg name))
  | selectPane dir =>
      exact .word "select-pane" (by decide) (by decide) rfl (.last (spells_flag dir))
  | resizePane dir amount =>
      refine .word "resize-pane" (by decide) (by decide) ?_ (.more (spells_flag dir) (.last (spells_amount amount)))
      simp only [renderCommand, ← String.append_assoc]
      rfl
  | swapPane up =>
      refine .word "swap-pane" (by decide) (by decide) ?_ (.last (spells_swap up))
      cases up <;> rfl
  | selectLayout name =>
      exact .word "select-layout" (by decide) (by decide) rfl (.last (.quoteArg name))
  | setOption key value =>
      refine .word "set-option" (by decide) (by decide) ?_ (.more (.quoteArg key) (.last (.quoteArg value)))
      simp only [renderCommand, ← String.append_assoc]
      rfl
  | displayMessage text =>
      exact .word "display-message" (by decide) (by decide) rfl (.last (.quoteArg text))

/-- Parsing reads back every rendered command. -/
theorem parse_renderCommand (command : Command) : parse (renderCommand command) = .ok command := by
  rw [parse, (renderCommand_line command).tokenize]
  exact parseTokens_words command

end Commands
end Ezpn
