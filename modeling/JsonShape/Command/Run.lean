import JsonShape.Command.Basic
import JsonShape.Command.Directory
import JsonShape.Consistency.Finding
import JsonShape.Consistency.Written
import JsonShape.Inference.Document
import JsonShape.Instance.Report
import JsonShape.Schema.Reader
import JsonShape.Yaml.Printer

/-!
# Running commands

A command reads its inputs one after the other and gives an outcome: what it prints, whether it
succeeds, and perhaps a text for a file (`Command.run`, and `Command.runIn` from the arguments on).
Standard input can be read once; after that it is empty.
-/

namespace JsonShape

/-- Why a command fails. -/
inductive CommandError
  | noInput (fault : FileFault)
  | unreadable (path : String) (fault : FileFault)
  | unwritable (path : String) (fault : FileFault)
  | badText (path reason : String)
  | badConfig (error : ConfigError)

/-- The wording of an error. -/
def CommandError.message : CommandError → String
  | noInput fault => s!"Invalid argument: Failed to read stdin: {fault.message}"
  | unreadable path fault => s!"Failed to read {path}: {fault.message}"
  | unwritable path fault => s!"Failed to write {path}: {fault.message}"
  | badText path reason => s!"Invalid JSON in {path}: {reason}"
  | badConfig error => s!"Inference failed: {error.message}"

/-- What a command can read. -/
structure CommandInputs where
  stdin : Except FileFault String
  file : String → Except FileFault String

/-- What a command leaves. -/
structure Outcome where
  exitCode : Nat
  stdout : String := ""
  /-- What is written after the word for an error. -/
  error : Option String := none
  /-- A path and the text to be written there. -/
  output : Option (String × String) := none

namespace Outcome

/-- The outcome of an error. -/
def ofError (error : CommandError) : Outcome := { exitCode := 1, error := some error.message }

/-- The outcome of a check, with a line of text. -/
def ofCheck (success : Bool) (text : String) : Outcome :=
  { exitCode := if success then 0 else 1, stdout := text ++ "\n" }

/-- The standard error. -/
def stderr? (outcome : Outcome) : Option String :=
  outcome.error.map fun message => s!"Error: {message}\n"

end Outcome

namespace Command

/-- The name and version of the program. -/
def versionText : String := "schema-builder 0.3.0\n"

/-- Where the arguments of the program are described. -/
def helpText : String :=
  "Usage: schema-builder [-v] infer|check|validate ARGUMENTS\n"

/-- The outcome of arguments that ask for no command. -/
def stopped : ArgumentStop → Outcome
  | .usage => { exitCode := 2 }
  | .help => { exitCode := 0, stdout := helpText }
  | .version => { exitCode := 0, stdout := versionText }

/-- Read an input. What is left to read afterwards is given back. -/
def load (inputs : CommandInputs) (path : String) :
    Except CommandError (String × CommandInputs) :=
  if path = "-" then
    (inputs.stdin.mapError .noInput).map fun text => (text, { inputs with stdin := .ok "" })
  else ((inputs.file path).mapError (.unreadable path)).map fun text => (text, inputs)

/-- Read an input that is JSON. -/
def loadJson (inputs : CommandInputs) (path : String) :
    Except CommandError (Json × CommandInputs) := do
  let (text, inputs) ← load inputs path
  let value ← (Json.read text).mapError fun error => .badText path error.message
  return (value, inputs)

/-- The text of a schema in a format. -/
def render (format : OutputFormat) (schema : Schema) : String :=
  match format with
  | .json => schema.written.pretty
  | .yaml => Yaml.document schema.written

/-- Infer the schema of a text. -/
def runInfer (inputs : CommandInputs) (clockMs : Int) (input : String) (format : OutputFormat)
    (output : Option String) (config : InferenceConfig) : Except CommandError Outcome := do
  let (sample, _) ← loadJson inputs input
  let inferrer ← (Inferrer.ofConfig config clockMs).mapError .badConfig
  let text := render format (inferrer.document sample)
  match output with
  | none => return { exitCode := 0, stdout := text ++ "\n" }
  | some path => return { exitCode := 0, output := some (path, text) }

/-- The messages of a file, or the usual ones. -/
def loadMessages (inputs : CommandInputs) : Option String → Except CommandError Messages
  | none => .ok {}
  | some path => do
    let (value, _) ← loadJson inputs path
    let fields ← (Messages.shape.ofJson value).mapError fun reason => .badText path reason.message
    return .ofFields fields

/-- The lines on the issues of a schema. -/
def issueText (tree : IssueTree) : String :=
  "".intercalate (tree.findings.map fun finding => finding.text ++ "\n")
    ++ s!"{tree.errorCount} issue(s)"

/-- Check a schema. -/
def runCheck (inputs : CommandInputs) (path : String) (messagesPath : Option String)
    (json : Bool) : Except CommandError Outcome := do
  let (text, inputs) ← load inputs path
  let schema ← (Schema.read text).mapError fun error => .badText path error.message
  let messages ← loadMessages inputs messagesPath
  let tree := schema.issueTree messages
  return .ofCheck (tree.errorCount == 0) (if json then tree.toJson.pretty else issueText tree)

/-- Check a text against a schema. -/
def runValidate (inputs : CommandInputs) (schemaPath input : String) (json : Bool) :
    Except CommandError Outcome := do
  let (schema, inputs) ← loadJson inputs schemaPath
  let (text, _) ← load inputs input
  let report := schema.report text
  return .ofCheck report.valid (if json then report.toJson.pretty else report.text)

/-- The settings of inference that a command asks for. -/
def configOf (detectFormats : Bool) (enumMinItems enumMaxValues : Option Nat) : InferenceConfig :=
  let base : InferenceConfig := {}
  { base with
    detectFormats := detectFormats
    enumMinItems := enumMinItems.getD base.enumMinItems
    enumMaxValues := enumMaxValues.getD base.enumMaxValues }

/-- Run a command. -/
def run (command : Command) (inputs : CommandInputs) (clockMs : Int) : Outcome :=
  let result : Except CommandError Outcome :=
    match command with
    | infer input format output detectFormats enumMinItems enumMaxValues =>
      runInfer inputs clockMs input format output
        (configOf detectFormats enumMinItems enumMaxValues)
    | check schema messages json => runCheck inputs schema messages json
    | validate schema input json => runValidate inputs schema input json
  match result with
  | .ok outcome => outcome
  | .error error => .ofError error

/-- Run a program's arguments in a directory, with a standard input. -/
def runIn (directory : Directory) (stdin : String) (clockMs : Int) (arguments : List String) :
    Outcome × Directory :=
  match ofArguments arguments with
  | .error stop => (stopped stop, directory)
  | .ok command =>
    let outcome := command.run ⟨.ok stdin, directory.read⟩ clockMs
    match outcome.output with
    | none => (outcome, directory)
    | some (path, text) =>
      match directory.write path text with
      | .ok changed => (outcome, changed)
      | .error fault => (.ofError (.unwritable path fault), directory)

end Command

end JsonShape
