import JsonShape.Consistency.Rules

/-!
# The tree of a schema's issues

The tree follows the nesting of the schema. A node holds the issues of its schema alone, and the
nodes of the sub-schemas that are checked with it under keys that name their places. Its error count
is the number of its own issues plus the error counts of its children. `Parts.walked` says which
sub-schemas are checked and under which keys; when two of them have the same key, the node of the
later one takes the place of the earlier.
-/

namespace JsonShape

/-- What a schema was checked as. -/
inductive CheckedType
  | booleanSchema
  | declared (type : TypeName)
deriving DecidableEq, Repr

/-- The spelling of what a schema was checked as. -/
def CheckedType.name : CheckedType → String
  | booleanSchema => "boolean-schema"
  | declared type => type.name

/-- The issues of a schema and of the sub-schemas below it. -/
inductive IssueTree
  | node (type : Option CheckedType) (issues : List Issue) (children : List (String × IssueTree))
      (errorCount : Nat)

namespace Parts

variable {α : Type}

/-- Sub-schemas at places that are numbered from zero. -/
def numbered (key : Nat → String) (schemas : List α) : Members α :=
  schemas.zipIdx.map fun (schema, index) => (key index, schema)

/-- Named sub-schemas, with something before each name. -/
def labelled (label : String) (schemas : Members α) : Members α :=
  schemas.map fun (name, schema) => (label ++ name, schema)

/-- The sub-schemas of an object schema. -/
def ofObject (parts : Parts α) : Members α :=
  parts.properties.getD [] ++ labelled "pattern:" (parts.patternProperties.getD [])

/-- The sub-schemas of an array schema. -/
def ofArray (parts : Parts α) : Members α :=
  (match parts.items with
    | some (.tuple schemas) => numbered (fun i => s!"items[{i}]") schemas
    | some (.single schema) => [("items", schema)]
    | none => [])
    ++ numbered (fun i => s!"prefixItems[{i}]") (parts.prefixItems.getD [])

/-- The sub-schemas that are checked with a schema of a type, under the keys of their places. -/
def walked (type : Option TypeName) (parts : Parts α) : Members α :=
  (if type = some .object then parts.ofObject else [])
    ++ (if type = some .array then parts.ofArray else [])
    ++ numbered (fun i => s!"allOf:{i}") (parts.allOf.getD [])
    ++ numbered (fun i => s!"anyOf:{i}") (parts.anyOf.getD [])
    ++ numbered (fun i => s!"oneOf:{i}") (parts.oneOf.getD [])
    ++ (parts.negation.map ("not", ·)).toList
    ++ labelled "$defs:" (parts.defs.getD [])
    ++ labelled "definitions:" (parts.definitions.getD [])

end Parts

namespace IssueTree

/-- What the schema was checked as. -/
def type : IssueTree → Option CheckedType
  | node type _ _ _ => type

/-- The issues of the schema alone. -/
def issues : IssueTree → List Issue
  | node _ issues _ _ => issues

/-- The nodes of the sub-schemas by their keys. -/
def children : IssueTree → Members IssueTree
  | node _ _ children _ => children

/-- The number of issues in the whole tree. -/
def errorCount : IssueTree → Nat
  | node _ _ _ errorCount => errorCount

/-- The error counts of children together. -/
def totalCount : Members IssueTree → Nat
  | [] => 0
  | (_, child) :: rest => child.errorCount + totalCount rest

/-- A node whose error count adds up. -/
def ofIssues (type : Option CheckedType) (issues : List Issue) (children : Members IssueTree) :
    IssueTree :=
  node type issues children (issues.length + totalCount children)

/-- The node that a chain of keys leads to. -/
def descend (tree : IssueTree) : List String → Option IssueTree
  | [] => some tree
  | key :: keys =>
    match tree.children.lookup key with
    | some child => child.descend keys
    | none => none

end IssueTree

/-- The tree of a schema's issues. -/
def Schema.issueTree (messages : Messages) : Schema → IssueTree :=
  fold
    (fun accepts =>
      .ofIssues (some .booleanSchema)
        (if accepts then [] else [Violation.falseSchema.issue messages]) [])
    (fun facets parts =>
      let type := facets.primaryType?
      .ofIssues (type.map .declared) ((facets.violations type).map (Violation.issue messages))
        -- of sub-schemas under one key, only the last is kept and counted
        (Members.ofEntries (parts.walked type)))

end JsonShape
