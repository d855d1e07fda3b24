import JsonShape.Members

/-!
# Arguments of a command line

An argument is an option, the value of an option, or a word; `Arguments.read` tells them apart
from left to right. Options have a long name and may have a letter; letters may stand together after
one hyphen, and the last of them may have its value attached. After two hyphens all arguments are
words. No option may be given twice.
-/

namespace JsonShape

/-- What an option does. -/
inductive OptionForm
  | flag
  /-- It takes a value, of which only some are accepted. -/
  | value (accepts : String → Bool)
  | help
  | version

/-- An option. -/
structure OptionSpec where
  name : String
  letter : Option Char := none
  form : OptionForm

/-- The arguments that are understood. -/
structure ArgumentGrammar where
  options : List OptionSpec
  /-- How many words there may be; if none, the first word ends the options. -/
  words : Nat

/-- Why arguments are not read to the end. -/
inductive ArgumentStop
  | usage | help | version
deriving DecidableEq, Repr

/-- The options and words that were given. A flag has an empty value. -/
structure Arguments where
  options : Members String := []
  words : List String := []
deriving DecidableEq, Repr

namespace Arguments

/-- What an argument looks like. -/
inductive Look
  | word
  | terminator
  | long (name : List Char) (value : Option String)
  | letters (letters : List Char)

/-- The look of an argument. A lone hyphen is a word. -/
def look (argument : String) : Look :=
  match argument.toList with
  | ['-', '-'] => .terminator
  | '-' :: '-' :: rest =>
    match rest.dropWhile (· != '=') with
    | [] => .long rest none
    | _ :: value => .long (rest.takeWhile (· != '=')) (some (String.ofList value))
  | '-' :: c :: rest => .letters (c :: rest)
  | _ => .word

/-- Whether an argument can be the value of the option before it. -/
def isValue (argument : String) : Bool :=
  match look argument with
  | .word => true
  | _ => false

/-- Add an option with its value. -/
def add (given : Arguments) (option : OptionSpec) (value : Option String) :
    Except ArgumentStop Arguments :=
  let put (text : String) : Except ArgumentStop Arguments :=
    if given.options.contains option.name then .error .usage
    else .ok { given with options := given.options ++ [(option.name, text)] }
  match option.form, value with
  | .flag, none => put ""
  | .value accepts, some text => if accepts text then put text else .error .usage
  | .help, none => .error .help
  | .version, none => .error .version
  | _, _ => .error .usage

/-- Whether an option takes a value. -/
def takesValue (option : OptionSpec) : Bool :=
  match option.form with
  | .value _ => true
  | _ => false

/-- Add the options of letters that stand together. An option that still needs its value is left. -/
def addLetters (grammar : ArgumentGrammar) (given : Arguments) :
    List Char → Except ArgumentStop (Arguments × Option OptionSpec)
  | [] => .ok (given, none)
  | c :: rest =>
    match grammar.options.find? fun option => option.letter == some c with
    | none => .error .usage
    | some option =>
      if takesValue option then
        match rest with
        -- what follows the letter is the value; if nothing does, the next argument is
        | [] => .ok (given, some option)
        | '=' :: value =>
          (given.add option (some (String.ofList value))).map fun given => (given, none)
        | value => (given.add option (some (String.ofList value))).map fun given => (given, none)
      else
        match given.add option none with
        | .error stop => .error stop
        | .ok given => addLetters grammar given rest

/-- Add an argument with a look. An option that still needs its value is left. -/
def addOption (grammar : ArgumentGrammar) (given : Arguments) :
    Look → Except ArgumentStop (Arguments × Option OptionSpec)
  | .long name value =>
    match grammar.options.find? fun option => option.name == String.ofList name with
    | none => .error .usage
    | some option =>
      if takesValue option && value.isNone then .ok (given, some option)
      else (given.add option value).map fun given => (given, none)
  | .letters letters => addLetters grammar given letters
  | _ => .error .usage

/-- Add a word. -/
def addWord (grammar : ArgumentGrammar) (given : Arguments) (word : String) :
    Except ArgumentStop Arguments :=
  if given.words.length < grammar.words then .ok { given with words := given.words ++ [word] }
  else .error .usage

/-- Read arguments. What is left begins with the word that ends the options. -/
def read (grammar : ArgumentGrammar) (given : Arguments) :
    List String → Except ArgumentStop (Arguments × List String)
  | [] => .ok (given, [])
  | argument :: rest =>
    match look argument with
    | .terminator => (rest.foldlM (addWord grammar) given).map fun given => (given, [])
    | .word =>
      -- the word that ends the options is the name of a command, whose arguments follow
      if grammar.words = 0 then .ok (given, argument :: rest)
      else
        match addWord grammar given argument with
        | .error stop => .error stop
        | .ok given => read grammar given rest
    | option =>
      match addOption grammar given option with
      | .error stop => .error stop
      | .ok (given, none) => read grammar given rest
      | .ok (given, some waiting) =>
        match rest with
        | [] => .error .usage
        | value :: rest =>
          if isValue value then
            match given.add waiting (some value) with
            | .error stop => .error stop
            | .ok given => read grammar given rest
          else .error .usage

end Arguments

end JsonShape
