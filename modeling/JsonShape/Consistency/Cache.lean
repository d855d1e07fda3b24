import JsonShape.Consistency.Tree

/-!
# Keeping the last tree

A cache keeps the tree of the document it was last asked for (`TreeCache.treeFor`). Documents are
told apart by identity, not by content. Every tree that is built gets a serial number, so that two
answers with the same number are the same stored tree.
-/

namespace JsonShape

/-- A tree with the serial number of its construction. -/
structure StoredTree where
  serial : Nat
  tree : IssueTree

/-- The tree of the last document, under the document's identity. -/
structure TreeCache where
  messages : Messages := {}
  built : Nat := 0
  last : Option (Nat × StoredTree) := none

namespace TreeCache

/-- The tree of a document, built anew unless it is the document of the call before. -/
def treeFor (cache : TreeCache) (identity : Nat) (schema : Schema) : StoredTree × TreeCache :=
  let rebuilt : StoredTree × TreeCache :=
    let stored : StoredTree := ⟨cache.built, schema.issueTree cache.messages⟩
    (stored, { cache with built := cache.built + 1, last := some (identity, stored) })
  match cache.last with
  | some (known, stored) => if known = identity then (stored, cache) else rebuilt
  | none => rebuilt

end TreeCache

end JsonShape
