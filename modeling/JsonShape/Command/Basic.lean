import JsonShape.Command.Arguments
import JsonShape.Text

/-!
# Commands

There are three commands: one infers the schema of a text, one checks a schema for inconsistencies,
one checks a text against a schema. `Command.ofArguments` says which one the arguments give. A lone
hyphen in place of a file is the standard input.
-/

namespace JsonShape

/-- The formats in which a schema is written. -/
inductive OutputFormat
  | json | yaml
deriving DecidableEq, Repr

/-- A command with its arguments. -/
inductive Command
  | infer (input : String) (format : OutputFormat) (output : Option String) (detectFormats : Bool)
      (enumMinItems enumMaxValues : Option Nat)
  | check (schema : String) (messages : Option String) (json : Bool)
  | validate (schema input : String) (json : Bool)
deriving DecidableEq, Repr

namespace Command

/-- The unsigned integer of 64 bits that a text spells. -/
def size? (text : String) : Option Nat :=
  let digits : List Char :=
    match text.toList with
    | '+' :: rest => rest
    | rest => rest
  (natOfDigits? 10 digits).filter (· < 18446744073709551616)

/-- The format of a name. -/
def format? : String → Option OutputFormat
  | "json" => some .json
  | "yaml" => some .yaml
  | _ => none

/-! ### The arguments of each command -/

/-- The options that every command has. -/
def commonOptions : List OptionSpec :=
  [⟨"verbose", some 'v', .flag⟩, ⟨"help", some 'h', .help⟩]

/-- An option whose value is a path. -/
def pathForm : OptionForm := .value fun text => !text.isEmpty

/-- An option whose value is a size. -/
def sizeForm : OptionForm := .value fun text => (size? text).isSome

/-- The arguments before the name of a command. -/
def mainGrammar : ArgumentGrammar := ⟨⟨"version", some 'V', .version⟩ :: commonOptions, 0⟩

/-- The arguments for inference. -/
def inferGrammar : ArgumentGrammar :=
  ⟨[⟨"format", none, .value fun text => (format? text).isSome⟩,
    ⟨"output", some 'o', pathForm⟩,
    ⟨"no-formats", none, .flag⟩,
    ⟨"enum-min-items", none, sizeForm⟩,
    ⟨"enum-max-values", none, sizeForm⟩] ++ commonOptions, 1⟩

/-- The arguments for the check of a schema. -/
def checkGrammar : ArgumentGrammar :=
  ⟨[⟨"messages", none, pathForm⟩, ⟨"json", none, .flag⟩] ++ commonOptions, 1⟩

/-- The arguments for the check of a text. -/
def validateGrammar : ArgumentGrammar :=
  ⟨[⟨"schema", none, pathForm⟩, ⟨"json", none, .flag⟩] ++ commonOptions, 1⟩

/-- The command for inference with some arguments. -/
def ofInferArguments? (given : Arguments) : Option Command :=
  given.words.head?.map fun input =>
    .infer input ((given.options.lookup "format").bind format? |>.getD .json)
      (given.options.lookup "output") (!given.options.contains "no-formats")
      ((given.options.lookup "enum-min-items").bind size?)
      ((given.options.lookup "enum-max-values").bind size?)

/-- The command for the check of a schema with some arguments. -/
def ofCheckArguments? (given : Arguments) : Option Command :=
  given.words.head?.map fun schema =>
    .check schema (given.options.lookup "messages") (given.options.contains "json")

/-- The command for the check of a text with some arguments. -/
def ofValidateArguments? (given : Arguments) : Option Command := do
  let schema ← given.options.lookup "schema"
  let input ← given.words.head?
  return .validate schema input (given.options.contains "json")

/-- The arguments of a command of a name, and the command with them. -/
def named? : String → Option (ArgumentGrammar × (Arguments → Option Command))
  | "infer" => some (inferGrammar, ofInferArguments?)
  | "check" => some (checkGrammar, ofCheckArguments?)
  | "validate" => some (validateGrammar, ofValidateArguments?)
  | _ => none

/-- What the arguments of `help` lead to. -/
def helpFor : List String → ArgumentStop
  | [] => .help
  | [name] => if name = "help" ∨ (named? name).isSome then .help else .usage
  | _ => .usage

/-- The command that arguments ask for. -/
def ofArguments (arguments : List String) : Except ArgumentStop Command :=
  match Arguments.read mainGrammar {} arguments with
  | .error stop => .error stop
  | .ok (_, []) => .error .usage
  | .ok (_, name :: rest) =>
    match named? name with
    | none => .error (if name = "help" then helpFor rest else .usage)
    | some (grammar, build) =>
      match Arguments.read grammar {} rest with
      | .error stop => .error stop
      | .ok (given, _) => (build given).elim (.error .usage) .ok

/-- The files that a command may read. -/
def files (command : Command) : List String :=
  (match command with
    | infer input .. => [input]
    | check schema messages _ => schema :: messages.toList
    | validate schema input _ => [schema, input]).filter (· != "-")

/-- Whether a command reads the standard input. -/
def readsInput : Command → Bool
  | infer input .. => input == "-"
  | check schema messages _ => schema == "-" || messages == some "-"
  | validate schema input _ => schema == "-" || input == "-"

end Command

end JsonShape
