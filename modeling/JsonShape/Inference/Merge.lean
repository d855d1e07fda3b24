import JsonShape.Schema.Same

/-!
# Merging schemas

Two schemas that were seen at one place are merged into one for both (`Schema.merge`). Equal schemas
stay as they are, integers and numbers become numbers, and everything else becomes a choice of
alternatives that are pairwise different.
-/

namespace JsonShape

namespace Schema

/-- Whether a list holds an equal schema. -/
def isIn (schema : Schema) (schemas : List Schema) : Bool :=
  schemas.any fun other => other.same schema

/-- Add a schema to a list that does not hold an equal one. -/
def addNew (schemas : List Schema) (schema : Schema) : List Schema :=
  if schema.isIn schemas then schemas else schemas ++ [schema]

/-- A list without the schemas that are equal to an earlier one. -/
def dedup (schemas : List Schema) : List Schema := schemas.foldl addNew []

/-- A choice of alternatives, or the only one. -/
def choice : List Schema → Schema
  | [schema] => schema
  | alternatives => oneOf alternatives

/-- Whether one schema is just for integers and the other just for numbers. -/
def isWidening (first second : Schema) : Bool :=
  (first.isType .integer && second.isType .number)
    || (first.isType .number && second.isType .integer)

/-- The alternatives that a schema stands for. -/
def alternatives (schema : Schema) : List Schema :=
  (schema.parts?.bind Parts.oneOf).getD [schema]

/-- One schema for what two schemas describe. -/
def merge (first second : Schema) : Schema :=
  let left := first.asObject
  let right := second.asObject
  if left.same right then first
  else if left.isWidening right then typed .number
  else if right.isIn left.alternatives then left
  else choice (dedup (left.alternatives ++ [right]))

end Schema

end JsonShape
