import SingOpenVPN.Numerals

/-!
# The option lines of a push reply (`pull_options.go`)

A push reply is a list of option lines with commas between them.  `parsePushedOptionLine` cuts
a line into at most sixteen parameters, the first of which names the option.

The tokenizer reads the line byte by byte with a NUL behind it.  White space is ASCII's here,
unlike in `strings.Fields`, and NUL counts as white space.
-/

namespace SingOpenVPN

open List

/-! ### The tokenizer -/

inductive OptionLineState where
  | initial
  | quoted
  | unquoted
  | singleQuoted
deriving DecidableEq

structure OptionLineParser where
  state : OptionLineState := .initial
  backslash : Bool := false
  parameter : Text := []
  parameters : List Text := []
deriving DecidableEq

def pushedOptionLineMaxParameters : Nat := 16

def isPushedOptionLineSpace (character : UInt8) : Bool :=
  character ∈ ([0, 0x20, 0x09, 0x0A, 0x0B, 0x0C, 0x0D] : List UInt8)

inductive OptionLineStep where
  /-- on to the next byte -/
  | next (parser : OptionLineParser)
  /-- `break parameterLoop` -/
  | stop (parser : OptionLineParser)
  /-- `return nil, false` -/
  | refuse

namespace OptionLineParser

/-- The byte is part of the parameter; a NUL is not written. -/
def store (parser : OptionLineParser) (character : UInt8) (state : OptionLineState) :
    OptionLineStep :=
  .next { parser with
    state
    backslash := false
    parameter := if character = 0 then parser.parameter else parser.parameter ++ [character] }

def finish (parser : OptionLineParser) : OptionLineStep :=
  let finished : OptionLineParser := { parameters := parser.parameters ++ [parser.parameter] }
  if pushedOptionLineMaxParameters ≤ finished.parameters.length then .stop finished
  else .next finished

def step (parser : OptionLineParser) (character : UInt8) : OptionLineStep :=
  if !parser.backslash && character == 0x5C && parser.state != .singleQuoted then
    .next { parser with backslash := true }
  else if parser.backslash && character != 0x5C && character != 0x22 &&
      !isPushedOptionLineSpace character then
    .refuse
  else
    match parser.state with
    | .initial =>
        if isPushedOptionLineSpace character then .next { parser with backslash := false }
        else if character = 0x3B ∨ character = 0x23 then .stop parser
        else if !parser.backslash && character == 0x22 then .next { parser with state := .quoted }
        else if !parser.backslash && character == 0x27 then
          .next { parser with state := .singleQuoted }
        else parser.store character .unquoted
    | .unquoted =>
        if !parser.backslash && isPushedOptionLineSpace character then parser.finish
        else parser.store character .unquoted
    | .quoted =>
        if !parser.backslash && character == 0x22 then parser.finish
        else parser.store character .quoted
    | .singleQuoted =>
        if character = 0x27 then parser.finish else parser.store character .singleQuoted

def run : OptionLineParser → Text → Option OptionLineParser
  | parser, [] => some parser
  | parser, character :: rest =>
      match parser.step character with
      | .next parser => parser.run rest
      | .stop parser => some parser
      | .refuse => none

end OptionLineParser

def parsePushedOptionLine (line : Text) : Option (List Text) :=
  match OptionLineParser.run {} (line ++ [0]) with
  | none => none
  | some parser =>
      if parser.state ≠ .initial ∨ parser.parameters = [] then none else some parser.parameters

example : parsePushedOptionLine (ascii " dhcp-option  \"a\\\"b c\" 'd\\' e\\ f # rest") =
    some [ascii "dhcp-option", ascii "a\"b c", ascii "d\\", ascii "e f"] := by
  decide +kernel

example : parsePushedOptionLine (ascii "route 10.0.0.0 \"255") = none := by decide +kernel

/-! ### Quoting -/

/-- A backslash before each backslash and double quote. -/
def escapeParameter (parameter : Text) : Text :=
  parameter.flatMap fun character =>
    if character = 0x5C ∨ character = 0x22 then [0x5C, character] else [character]

def quoteParameter (parameter : Text) : Text := 0x22 :: escapeParameter parameter ++ [0x22]

namespace OptionLineParser

variable {parameters : List Text} {front parameter : Text}

/-- Between the quotes every character of the parameter is stored. -/
theorem run_escapeParameter (h : 0 ∉ parameter) (rest : Text) :
    run ⟨.quoted, false, front, parameters⟩ (escapeParameter parameter ++ rest) =
      run ⟨.quoted, false, front ++ parameter, parameters⟩ rest := by
  induction parameter generalizing front with
  | nil => simp [escapeParameter]
  | cons character parameter ih =>
    obtain ⟨hzero, hnul⟩ := not_or.mp (mem_cons.not.mp h)
    have hrest := @ih (front ++ [character]) hnul
    rw [escapeParameter, flatMap_cons, append_assoc, ← escapeParameter]
    split
    · next hescaped =>
      rcases hescaped with rfl | rfl
      · simpa [run, step, store] using hrest
      · simpa [run, step, store] using hrest
    · next hplain =>
      obtain ⟨hbackslash, hquote⟩ := not_or.mp hplain
      simpa [run, step, store, hbackslash, hquote, Ne.symm hzero] using hrest

theorem run_quoteParameter (h : 0 ∉ parameter) (rest : Text) :
    run { parameters } (quoteParameter parameter ++ rest) =
      if pushedOptionLineMaxParameters ≤ parameters.length + 1 then
        some { parameters := parameters ++ [parameter] }
      else run { parameters := parameters ++ [parameter] } rest := by
  have hopens : run { parameters } (quoteParameter parameter ++ rest) =
      run ⟨.quoted, false, [], parameters⟩ (escapeParameter parameter ++ 0x22 :: rest) := by
    simp [quoteParameter, run, step, isPushedOptionLineSpace]
  rw [hopens, run_escapeParameter h, nil_append]
  by_cases hfull : pushedOptionLineMaxParameters ≤ parameters.length + 1
  · simp [run, step, finish, hfull]
  · simp [run, step, finish, hfull]

/-- Quoted parameters with spaces between them are added one after the other. -/
theorem run_quoteParameters {later : List Text} (hne : later ≠ [])
    (hnul : ∀ parameter ∈ later, 0 ∉ parameter)
    (hcount : parameters.length + later.length ≤ pushedOptionLineMaxParameters) :
    run { parameters } (joinText [0x20] (later.map quoteParameter) ++ [0]) =
      some { parameters := parameters ++ later } := by
  induction later generalizing parameters with
  | nil => exact absurd rfl hne
  | cons parameter later ih =>
    rw [forall_mem_cons] at hnul
    rw [length_cons] at hcount
    cases later with
    | nil =>
      rw [map_singleton, joinText_singleton, run_quoteParameter hnul.1]
      split
      · rfl
      · rfl
    | cons next later =>
      have hrest := @ih (parameters ++ [parameter]) (cons_ne_nil _ _) hnul.2
        (by rw [length_append, length_singleton]; omega)
      rw [append_assoc, singleton_append] at hrest
      rw [map_cons, map_cons, joinText_cons_cons, append_assoc,
        run_quoteParameter hnul.1, if_neg (by rw [length_cons] at hcount; omega)]
      exact hrest

end OptionLineParser

/-- Any parameters without NULs can be written on a line, up to the sixteen that are read. -/
theorem parsePushedOptionLine_quoted {parameters : List Text} (hone : 1 ≤ parameters.length)
    (hcount : parameters.length ≤ 16) (hnul : ∀ parameter ∈ parameters, 0 ∉ parameter) :
    parsePushedOptionLine (joinText [0x20] (parameters.map quoteParameter)) = some parameters := by
  have hne : parameters ≠ [] := ne_nil_of_length_pos hone
  rw [parsePushedOptionLine, OptionLineParser.run_quoteParameters hne hnul
    (by rwa [length_nil, zero_add])]
  simp [hne]

theorem parsePushedOptionLine_quoted_pair :
    parsePushedOptionLine (ascii "\"a # \\\"b\\\\\" \"\"") = some [ascii "a # \"b\\", []] :=
  @parsePushedOptionLine_quoted [ascii "a # \"b\\", []] (by decide) (by decide) (by decide)

/-- `push-continuation` says whether more segments follow (2) or this is the last one (1). -/
def decodeContinuation (continuation : Nat) (value : Text) : Nat :=
  match parseInt value with
  | some number => if 0 ≤ number ∧ number ≤ 2 then number.toNat else continuation
  | none => continuation

end SingOpenVPN
