import JsonShape.Members

/-!
# A directory of texts

A command may be run in a directory that is only described: by the paths of its files and their
contents. `Directory.read` and `Directory.write` fail as a file system does.
-/

namespace JsonShape

/-- Why a file cannot be read or written. -/
inductive FileFault
  | notFound
  | notDirectory
  | isDirectory
  | notText
  /-- A fault with a wording of its own. -/
  | other (message : String)
deriving DecidableEq, Repr

/-- The wording of a fault. -/
def FileFault.message : FileFault → String
  | notFound => "No such file or directory (os error 2)"
  | notDirectory => "Not a directory (os error 20)"
  | isDirectory => "Is a directory (os error 21)"
  | notText => "stream did not contain valid UTF-8"
  | other message => message

/-- Files by their paths. A file that is not UTF-8 has no text. -/
structure Directory where
  files : Members (Option String)

namespace Directory

/-- The parts of a path between slashes. Of a path that ends with a slash the last part is empty. -/
def parts : List Char → List (List Char)
  | [] => [[]]
  | '/' :: rest => [] :: parts rest
  | c :: rest =>
    match parts rest with
    | [] => [[c]]
    | part :: more => (c :: part) :: more

/-- Whether a list of names is the path of a directory. -/
def isDirectory (directory : Directory) (names : List String) : Bool :=
  names.isEmpty || directory.files.names.any fun path =>
    ("/".intercalate names ++ "/").toList.isPrefixOf path.toList

/-- Whether a list of names is the path of a file. -/
def isFile (directory : Directory) (names : List String) : Bool :=
  directory.files.contains ("/".intercalate names)

/-- Walk from a directory along the parts of a path. The last part may name nothing. -/
def walk (directory : Directory) (here : List String) : List String → Except FileFault (List String)
  | [] => .ok here
  | part :: rest =>
    if !directory.isDirectory here then
      .error (if directory.isFile here then .notDirectory else .notFound)
    else if part.isEmpty || part == "." then walk directory here rest
    else if part == ".." then
      if here.isEmpty then .error .notFound else walk directory here.dropLast rest
    else walk directory (here ++ [part]) rest

/-- The names that a path leads along. The directory itself is the top. -/
def resolve (directory : Directory) (path : String) : Except FileFault (List String) :=
  if path.isEmpty then .error .notFound
  else if path == ".." || path == "/" then .error .isDirectory
  else if path.toList.head? == some '/' then .error .notFound
  else directory.walk [] ((parts path.toList).map String.ofList)

/-- The text of a file. -/
def read (directory : Directory) (path : String) : Except FileFault String := do
  let names ← directory.resolve path
  if directory.isDirectory names then .error .isDirectory
  else
    match directory.files.lookup ("/".intercalate names) with
    | none => .error .notFound
    | some none => .error .notText
    | some (some text) => .ok text

/-- The directory after a text was written to a file. -/
def write (directory : Directory) (path text : String) : Except FileFault Directory := do
  let names ← directory.resolve path
  if directory.isDirectory names then .error .isDirectory
  else .ok ⟨directory.files.insert ("/".intercalate names) (some text)⟩

/-- The files of a directory that are not the same in an earlier state, with their texts. -/
def changesFrom (directory earlier : Directory) : Members String :=
  directory.files.filterMap fun (path, text) =>
    if earlier.files.lookup path == some text then none else text.map fun text => (path, text)

end Directory

end JsonShape
