import JsonShape.Consistency.Tree
import JsonShape.Json.Basic

/-!
# Issues as JSON

An issue is written with the list of its tags, which is empty or holds one (`Issue.toJson`); a list
of issues with whether it is empty (`Issue.outcome`); a tree with its children under their keys
(`IssueTree.toJson`).
-/

namespace JsonShape

/-- The JSON value of an issue. -/
def Issue.toJson (issue : Issue) : Json :=
  .object
    [("message", .string issue.message), ("path", .array (issue.tag.toList.map .string))]

/-- The JSON value of the outcome of a check. -/
def Issue.outcome (issues : List Issue) : Json :=
  .object
    (("success", .bool issues.isEmpty)
      :: if issues.isEmpty then [] else [("errors", .array (issues.map Issue.toJson))])

namespace IssueTree

mutual

/-- The JSON value of a tree. -/
def toJson : IssueTree → Json
  | node type issues children errorCount =>
    .object
      ((type.map fun type => ("derivedType", Json.string type.name)).toList
        ++ [("validation", Issue.outcome issues), ("children", .object (childrenJson children)),
            ("cumulativeErrorCount", .number (.ofInt errorCount))])

/-- The JSON values of children. -/
def childrenJson : List (String × IssueTree) → List (String × Json)
  | [] => []
  | (key, child) :: rest => (key, toJson child) :: childrenJson rest

end

end IssueTree

end JsonShape
