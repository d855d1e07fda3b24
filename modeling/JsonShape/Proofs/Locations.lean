import JsonShape.Proofs.Findings

/-!
# Locations of findings

The location of a finding joins the keys that lead to its node, each after a slash, and does not
escape slashes in keys. A location therefore gives back what stands between slashes, but not which
of the slashes stand between keys. The location of the root is that of the root's child with the
empty key.

Main statement: by `Schema.location_eq_iff` two findings have equal locations exactly if the keys of
their nodes fall into the same segments at slashes, or one is of the root and the other of its child
with the empty key.
-/

namespace JsonShape

/-- An issue with the keys that lead to its node. -/
structure Source where
  keys : List String
  issue : Issue
deriving DecidableEq, Repr

/-- The keys, each after a slash. -/
def joined (keys : List String) : String := keys.foldl (fun path key => path ++ "/" ++ key) ""

/-- What stands in keys between slashes. -/
def segments (keys : List String) : List (List Char) :=
  keys.flatMap fun key => key.toList.splitOn '/'

/-- No key leads to the first node, and the empty key to the second. -/
def RootAndEmptyKey (keys others : List String) : Prop := keys = [] ∧ others = [""]

/-- The finding of an issue. -/
def Source.finding (source : Source) : Finding := .ofIssue (joined source.keys) source.issue

namespace IssueTree

mutual

/-- The issues of a tree to which some keys lead, each node before the nodes below it. -/
def sourcesBelow (keys : List String) : IssueTree → List Source
  | node _ issues children _ => issues.map (Source.mk keys) ++ childSources keys children

/-- The issues of children of a node. -/
def childSources (keys : List String) : List (String × IssueTree) → List Source
  | [] => []
  | (key, child) :: rest => sourcesBelow (keys ++ [key]) child ++ childSources keys rest

end

/-- The issues of a tree with the keys that lead to their nodes. -/
def sources (tree : IssueTree) : List Source := sourcesBelow [] tree

end IssueTree

/-! ### Joined keys -/

variable {keys others : List String}

theorem joined_concat (keys : List String) (key : String) :
    joined (keys ++ [key]) = joined keys ++ "/" ++ key := by
  rw [joined, List.foldl_append]
  rfl

theorem toList_joined (keys : List String) :
    (joined keys).toList = keys.flatMap fun key => '/' :: key.toList := by
  have hfold (path : String) : (keys.foldl (fun path key => path ++ "/" ++ key) path).toList
      = path.toList ++ keys.flatMap fun key => '/' :: key.toList := by
    induction keys generalizing path with
    | nil => simp
    | cons key keys ih => simp [ih]
  exact hfold ""

/-- Splitting the joined keys at slashes gives their segments, after what stands in front. -/
theorem splitOn_append_joined (front : List Char) (keys : List String) :
    (front ++ keys.flatMap fun key => '/' :: key.toList).splitOn '/'
      = front.splitOn '/' ++ segments keys := by
  induction keys generalizing front with
  | nil => simp [segments]
  | cons key keys ih =>
    rw [List.flatMap_cons, List.cons_append, List.splitOn_append_cons_self, ih]
    rfl

theorem splitOn_joined (keys : List String) :
    (joined keys).toList.splitOn '/' = [] :: segments keys := by
  rw [toList_joined]
  exact splitOn_append_joined [] keys

/-- Joined keys are equal exactly if the segments of the keys are. -/
theorem joined_eq_iff : joined keys = joined others ↔ segments keys = segments others := by
  constructor
  · intro h
    have hsplit := congrArg (fun path => path.toList.splitOn '/') h
    simp only [splitOn_joined] at hsplit
    exact (List.cons.inj hsplit).2
  · intro h
    have hsplit : (joined keys).toList.splitOn '/' = (joined others).toList.splitOn '/' := by
      rw [splitOn_joined, splitOn_joined, h]
    have hchars := congrArg (['/'].intercalate ·) hsplit
    simp only [List.intercalate_splitOn] at hchars
    exact String.toList_inj.mp hchars

theorem joined_eq_empty_iff : joined keys = "" ↔ keys = [] := by
  rw [← String.toList_inj, toList_joined]
  cases keys <;> simp

theorem joined_eq_slash_iff : joined keys = "/" ↔ keys = [""] := by
  rw [← String.toList_inj, toList_joined]
  cases keys with
  | nil => simp
  | cons key keys => cases keys <;> simp

/-- Keys without slashes are their only segments. -/
theorem segments_eq_iff (hkeys : ∀ key ∈ keys, '/' ∉ key.toList)
    (hothers : ∀ key ∈ others, '/' ∉ key.toList) :
    segments keys = segments others ↔ keys = others := by
  have hsegments {keys : List String} (h : ∀ key ∈ keys, '/' ∉ key.toList) :
      segments keys = keys.map String.toList := by
    rw [segments, ← List.flatMap_pure_eq_map]
    exact List.flatMap_congr fun key hkey => List.splitOn_eq_singleton (h key hkey)
  rw [hsegments hkeys, hsegments hothers]
  exact (List.map_injective_iff.mpr fun _ _ h => String.toList_inj.mp h).eq_iff

/-- Only the empty path is written as another path. -/
theorem locationOf_eq_iff {path other : String} :
    Finding.locationOf path = Finding.locationOf other ↔
      path = other ∨ (path = "" ∧ other = "/") ∨ (other = "" ∧ path = "/") := by
  simp only [Finding.locationOf, String.isEmpty_iff]
  by_cases hpath : path = ""
  · by_cases hother : other = ""
    · simp [hpath, hother]
    · have hne : "" ≠ other := fun h => hother h.symm
      simp only [hpath, hother, hne, if_true, if_false, true_and, false_and, or_false, false_or]
      exact eq_comm
  · by_cases hother : other = "" <;> simp [hpath, hother]

theorem locationOf_joined_eq_iff :
    Finding.locationOf (joined keys) = Finding.locationOf (joined others) ↔
      segments keys = segments others ∨ RootAndEmptyKey keys others
        ∨ RootAndEmptyKey others keys := by
  rw [locationOf_eq_iff, joined_eq_iff, joined_eq_empty_iff, joined_eq_empty_iff,
    joined_eq_slash_iff, joined_eq_slash_iff]
  rfl

/-! ### The issues of all nodes -/

namespace IssueTree

variable {tree : IssueTree} {source : Source}

theorem childSources_eq (keys : List String) (children : Members IssueTree) :
    childSources keys children
      = children.flatMap fun child => sourcesBelow (keys ++ [child.1]) child.2 := by
  induction children with
  | nil => rw [childSources, List.flatMap_nil]
  | cons child rest ih =>
    obtain ⟨key, child⟩ := child
    rw [childSources, ih, List.flatMap_cons]

/-- Joining the keys of a node gives the path that the walk builds key by key. -/
theorem placedIssues_nodesAt (counted : tree.Counted) (keys : List String) :
    (nodesAt (joined keys) tree).flatMap placedIssues
      = (sourcesBelow keys tree).map Source.finding := by
  induction counted generalizing keys with
  | @ofIssues type issues children _ ih =>
    rw [ofIssues, nodesAt, sourcesBelow, List.flatMap_cons, List.map_append, childNodes_eq,
      childSources_eq, List.flatMap_assoc, List.map_flatMap]
    congr 1
    · rw [List.map_map]
      rfl
    · refine List.flatMap_congr fun child hchild => ?_
      rw [← joined_concat]
      exact ih child hchild _

theorem findings_eq_map_finding (counted : tree.Counted) :
    tree.findings = tree.sources.map Source.finding :=
  (findings_eq counted).trans (placedIssues_nodesAt counted [])

/-- No node has two children with one name. -/
inductive Keyed : IssueTree → Prop
  | node {type issues children errorCount} : (Members.names children).Nodup →
      (∀ child ∈ children, Keyed child.2) → Keyed (.node type issues children errorCount)

/-- The issues below some keys are those of the nodes that further keys lead to. -/
theorem mem_sourcesBelow (keyed : tree.Keyed) : source ∈ sourcesBelow keys tree ↔
    ∃ below node, source.keys = keys ++ below ∧ tree.descend below = some node
      ∧ source.issue ∈ node.issues := by
  induction keyed generalizing keys with
  | @node type issues children errorCount nodup _ ih =>
    rw [sourcesBelow, childSources_eq, List.mem_append, List.mem_map, List.mem_flatMap]
    constructor
    · rintro (⟨issue, hissue, rfl⟩ | ⟨⟨key, child⟩, hchild, hsource⟩)
      · exact ⟨[], _, (List.append_nil keys).symm, rfl, hissue⟩
      · obtain ⟨below, target, hkeys, hdescend, hissue⟩ := (ih _ hchild).mp hsource
        refine ⟨key :: below, target, by rw [hkeys, List.append_assoc]; rfl, ?_, hissue⟩
        -- no other child has this name, so this is the one the key leads to
        rw [descend, IssueTree.children, Members.lookup_of_mem nodup hchild]
        exact hdescend
    · rintro ⟨below, target, hkeys, hdescend, hissue⟩
      cases below with
      | nil =>
        cases hdescend
        rw [List.append_nil] at hkeys
        exact .inl ⟨source.issue, hissue, by rw [← hkeys]⟩
      | cons key below =>
        rw [descend] at hdescend
        split at hdescend
        · next child hchild =>
          have hmem := Members.mem_of_lookup hchild
          refine .inr ⟨(key, child), hmem, (ih _ hmem).mpr ⟨below, target, ?_, hdescend, hissue⟩⟩
          rw [hkeys, List.append_assoc]
          rfl
        · cases hdescend

theorem mem_sources (keyed : tree.Keyed) : source ∈ tree.sources ↔
    ∃ node, tree.descend source.keys = some node ∧ source.issue ∈ node.issues := by
  rw [sources, mem_sourcesBelow keyed]
  simp

end IssueTree

namespace Schema

open IssueTree Members

theorem keyed_issueTree (schema : Schema) (messages : Messages) :
    (schema.issueTree messages).Keyed := by
  induction schema using Schema.induction with
  | boolean accepts => exact .node List.nodup_nil fun _ h => (by cases h)
  | object facets parts ih =>
    rw [issueTree_object]
    refine .node ?_ fun child hchild => ?_
    · rw [names_mapMembers]
      exact nodup_ofEntries _
    · obtain ⟨part, hpart, heq⟩ := mem_mapMembers.mp hchild
      rw [← heq]
      exact ih part (exists_part_of_mem hpart)

/-- Every finding is an issue of the node that its keys lead to. Findings have equal locations
exactly if their keys fall into the same segments at slashes, or one is of the root and the other of
its child with the empty key; so where no key has a slash, only these two nodes share a location. -/
theorem location_eq_iff (schema : Schema) (messages : Messages) :
    let tree := schema.issueTree messages
    tree.findings = tree.sources.map Source.finding
      ∧ (∀ source, source ∈ tree.sources ↔
          ∃ node, tree.descend source.keys = some node ∧ source.issue ∈ node.issues)
      ∧ ∀ a ∈ tree.sources, ∀ b ∈ tree.sources,
          (a.finding.location = b.finding.location ↔
            segments a.keys = segments b.keys ∨ RootAndEmptyKey a.keys b.keys
              ∨ RootAndEmptyKey b.keys a.keys)
          ∧ ((∀ key ∈ a.keys, '/' ∉ key.toList) → (∀ key ∈ b.keys, '/' ∉ key.toList) →
            (a.finding.location = b.finding.location ↔
              a.keys = b.keys ∨ RootAndEmptyKey a.keys b.keys
                ∨ RootAndEmptyKey b.keys a.keys)) := by
  intro tree
  refine ⟨findings_eq_map_finding (counted_issueTree messages schema),
    fun source => mem_sources (keyed_issueTree schema messages), fun a _ b _ => ⟨?_, ?_⟩⟩
  · exact locationOf_joined_eq_iff
  · intro ha hb
    rw [← segments_eq_iff ha hb]
    exact locationOf_joined_eq_iff

/-- A schema with an issue at the root, at the empty key below it, at two keys and at these two keys
with a slash between them. -/
def crowded : Schema :=
  let nested := object (Facets.typed .object) { properties := some [("b", boolean false)] }
  let slashed := object { Facets.typed .string with minLength := some 2, maxLength := some 1 } {}
  object { Facets.typed .object with minProperties := some 2, maxProperties := some 1 }
    { properties := some [("", boolean false), ("a", nested), ("a/b", slashed)] }

/-- The sources of the schema: the root, the empty key, two keys, and one key. -/
theorem sources_crowded : (crowded.issueTree {}).sources =
    [⟨[], Violation.propertyRange.issue {}⟩, ⟨[""], Violation.falseSchema.issue {}⟩,
     ⟨["a", "b"], Violation.falseSchema.issue {}⟩, ⟨["a/b"], Violation.lengthRange.issue {}⟩] := by
  decide +kernel

theorem location_eq_iff_crowded :
    ∃ root empty nested slashed, (crowded.issueTree {}).sources = [root, empty, nested, slashed]
      ∧ root.finding.location = empty.finding.location
      ∧ nested.finding.location = slashed.finding.location
      ∧ empty.finding.location ≠ nested.finding.location := by
  have hlocation := (location_eq_iff crowded {}).2.2
  simp only [sources_crowded] at hlocation
  refine ⟨_, _, _, _, sources_crowded, ?_, ?_, ?_⟩
  · exact (hlocation _ (by simp) _ (by simp)).1.mpr (.inr (.inl ⟨rfl, rfl⟩))
  · exact (hlocation _ (by simp) _ (by simp)).1.mpr (.inl (by decide))
  · -- without slashes in keys, only the root and the empty key share their location
    rw [Ne, (hlocation _ (by simp) _ (by simp)).2 (by decide) (by decide)]
    simp [RootAndEmptyKey]

/-- Keys with a slash lead to a node whose location is that of another. -/
theorem location_not_unique :
    ¬ ∀ (schema : Schema) (messages : Messages), ∀ a ∈ (schema.issueTree messages).sources,
      ∀ b ∈ (schema.issueTree messages).sources, a.finding.location = b.finding.location →
        (schema.issueTree messages).descend a.keys
          = (schema.issueTree messages).descend b.keys := by
  intro hunique
  have h := hunique crowded {} ⟨["a", "b"], Violation.falseSchema.issue {}⟩
    (by rw [sources_crowded]; decide) ⟨["a/b"], Violation.lengthRange.issue {}⟩
    (by rw [sources_crowded]; decide) (by decide)
  have hissues : ((crowded.issueTree {}).descend ["a", "b"]).map IssueTree.issues
      = ((crowded.issueTree {}).descend ["a/b"]).map IssueTree.issues := congrArg _ h
  revert hissues
  decide +kernel

end Schema

end JsonShape
