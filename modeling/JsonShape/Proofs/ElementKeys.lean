import JsonShape.Proofs.NormalForm

/-!
# The keys of merged objects

The properties of the objects of an array are merged one by one. A merge step adds a name at the end
or leaves the names as they are, so after any number of steps they are those that came up, in the
order in which they did so first. Refinements replace schemas and no names.

Main statement: by `Inferrer.infer_objects_keys` the schema of an array of objects has the names of
all objects as its properties, each once and in the order of first appearance, and requires those
that every object has, in ascending order.
-/

namespace JsonShape

open Members

namespace Inferrer

variable {inferrer : Inferrer} {objects : List (Members Json)} {name : String}

/-! ### Merge steps -/

/-- Merge one property into those seen before. -/
def mergeEntry (seen : Members Schema) (entry : String × Schema) : Members Schema :=
  seen.insert entry.1 ((seen.lookup entry.1).elim entry.2 fun known => known.merge entry.2)

theorem names_mergeEntry (seen : Members Schema) (entry : String × Schema) :
    names (mergeEntry seen entry)
      = if entry.1 ∈ names seen then names seen else names seen ++ [entry.1] :=
  names_insert seen entry.1 _

/-- The names of merged properties are in the order of their first appearance. -/
theorem names_foldl_mergeEntry (steps : Members Schema) :
    names (steps.foldl mergeEntry []) = (names steps).eraseDups := by
  -- a step adds to what all steps before it gave, so the induction is on the last one
  induction steps using List.reverseRecOn with
  | nil => rfl
  | append_singleton steps last ih =>
    have hlast : (names [last]).removeAll (names steps)
        = if last.1 ∈ names steps then [] else [last.1] := by
      show [last.1].removeAll (names steps) = _
      by_cases hmem : last.1 ∈ names steps <;> simp [List.removeAll, hmem]
    rw [List.foldl_append, List.foldl_cons, List.foldl_nil, names_mergeEntry, ih, names_append,
      List.eraseDups_append, hlast]
    simp only [List.mem_eraseDups]
    split
    · exact (List.append_nil _).symm
    · rfl

theorem eraseDups_prefix {before names : List String} (h : before <+: names) :
    before.eraseDups <+: names.eraseDups := by
  obtain ⟨after, rfl⟩ := h
  rw [List.eraseDups_append]
  exact List.prefix_append _ _

variable (inferrer) in
/-- The properties of the objects, in the order in which they are merged. -/
def mergeSteps (objects : List (Members Json)) : Members Schema :=
  objects.flatMap (Parts.mapMembers inferrer.infer)

theorem names_mergeSteps (inferrer : Inferrer) (objects : List (Members Json)) :
    names (inferrer.mergeSteps objects) = objects.flatMap names := by
  rw [mergeSteps, names, List.map_flatMap]
  exact List.flatMap_congr fun members _ => names_mapMembers inferrer.infer members

theorem foldl_mergeSteps (objects : List (Members Json)) :
    (inferrer.mergeSteps objects).foldl mergeEntry [] = inferrer.mergedProperties objects := by
  rw [mergeSteps, List.foldl_flatMap, mergedProperties, List.foldl_map]
  rfl

/-- A name comes up once for every object that has it. -/
theorem count_flatMap_names (nodup : ∀ members ∈ objects, (names members).Nodup) (name : String) :
    (objects.flatMap names).count name
      = (objects.filter fun members => contains members name).length := by
  induction objects with
  | nil => rfl
  | cons members rest ih =>
    rw [List.forall_mem_cons] at nodup
    rw [List.flatMap_cons, List.count_append, ih nodup.2, List.filter_cons]
    split
    · next hcontains =>
      rw [List.count_eq_one_of_mem nodup.1 (contains_iff.mp hcontains), List.length_cons, add_comm]
    · next hcontains =>
      rw [List.count_eq_zero.mpr (mt contains_iff.mpr hcontains), zero_add]

/-! ### Refinement steps -/

/-- Refine properties by some refinements, one after another. -/
def refineBy (refinements : List Refinement) (samples : List Json) (properties : Members Schema) :
    Members Schema :=
  refinements.foldl (fun properties refinement => refinement.apply properties samples) properties

theorem names_refineBy (refinements : List Refinement) (samples : List Json)
    (properties : Members Schema) :
    names (refineBy refinements samples properties) = names properties := by
  induction refinements generalizing properties with
  | nil => rfl
  | cons refinement rest ih =>
    show names (refineBy rest samples (refinement.apply properties samples)) = _
    rw [ih, names, Refinement.apply, List.map_map]
    rfl

/-! ### Required names -/

/-- The names that every one of some objects has are required. -/
theorem mem_requiredNames_cons {first : Members Json} {rest : List (Members Json)} :
    name ∈ inferrer.requiredNames (first :: rest)
      ↔ ∀ members ∈ first :: rest, name ∈ names members := by
  have hall : ((first :: rest).all fun members => contains members name) = true ↔
      ∀ members ∈ first :: rest, name ∈ names members := by
    rw [List.all_eq_true]
    exact forall₂_congr fun _ _ => contains_iff
  rw [requiredNames, List.mem_filter, hall, and_iff_right_iff_imp]
  intro hevery
  -- what the first object has is among the merged names
  rw [← foldl_mergeSteps, names_foldl_mergeEntry, List.mem_eraseDups, names_mergeSteps,
    List.mem_flatMap]
  exact ⟨first, List.mem_cons_self, hevery first List.mem_cons_self⟩

/-- The properties in the schema of an array of objects are the names that come up in them, in the
order of first appearance; they are so after every merge step for what is merged by then, and no
refinement changes them. The required names are those that every object has, whatever the value, or
that come up as often as there are objects. -/
theorem infer_objects_keys (inferrer : Inferrer) (first : Members Json)
    (rest : List (Members Json)) :
    let objects := first :: rest
    let samples := objects.map Json.object
    let keys := (objects.flatMap names).eraseDups
    let merged := (inferrer.mergeSteps objects).foldl mergeEntry []
    ∃ required : Option (List String),
      inferrer.infer (.array samples)
        = .object { type := some (.single .array), minItems := some 0 }
          { items := some (.single (.object
              { type := some (.single .object), required := required }
              { properties := some (refineBy inferrer.refinements samples merged) })) }
      ∧ names (refineBy inferrer.refinements samples merged) = keys
      ∧ (∀ steps, steps <+: inferrer.mergeSteps objects →
        names (steps.foldl mergeEntry []) = (names steps).eraseDups
          ∧ names (steps.foldl mergeEntry []) <+: keys)
      ∧ (∀ refinements, refinements <+: inferrer.refinements →
        names (refineBy refinements samples merged) = keys)
      ∧ (required = none ↔ ∀ name, ¬ ∀ members ∈ objects, name ∈ names members)
      ∧ (∀ sorted, required = some sorted → sorted.Pairwise (· < ·)
        ∧ ∀ name, name ∈ sorted ↔ ∀ members ∈ objects, name ∈ names members)
      ∧ ((∀ members ∈ objects, (names members).Nodup) →
        ∀ name, (names (inferrer.mergeSteps objects)).count name = objects.length ↔
          ∀ members ∈ objects, name ∈ names members) := by
  intro objects samples keys merged
  have hkeys : names merged = keys := by
    simp only [merged, keys, names_foldl_mergeEntry, names_mergeSteps]
  -- merging property by property is merging object by object
  have hschema : inferrer.unify (samples.map inferrer.infer) samples
      = objectSchema (refineBy inferrer.refinements samples merged)
        (inferrer.requiredNames objects) := by
    rw [unify_eq, refinedProperties, ← foldl_apply]
    simp only [refineBy, merged, foldl_mergeSteps]
    rfl
  refine ⟨sortedNames (inferrer.requiredNames objects), ?_, ?_, ?_, ?_, ?_, ?_, ?_⟩
  · rw [infer_objects (List.cons_ne_nil first rest), hschema]
    rfl
  · rw [names_refineBy, hkeys]
  · intro steps hsteps
    have hprefix : names steps <+: objects.flatMap names := by
      rw [← names_mergeSteps inferrer]
      exact hsteps.map Prod.fst
    rw [names_foldl_mergeEntry]
    exact ⟨rfl, eraseDups_prefix hprefix⟩
  · intro refinements _
    rw [names_refineBy, hkeys]
  · rw [sortedNames_eq_none, List.eq_nil_iff_forall_not_mem]
    exact forall_congr' fun name => not_congr mem_requiredNames_cons
  · intro sorted hsorted
    have hrequired : (inferrer.requiredNames objects).Nodup :=
      (nodup_mergedProperties objects).filter _
    refine ⟨(pairwise_of_sortedNames hrequired hsorted).2, fun name => ?_⟩
    calc name ∈ sorted
        ↔ name ∈ (sortedNames (inferrer.requiredNames objects)).getD [] := by
          rw [hsorted, Option.getD_some]
      _ ↔ name ∈ inferrer.requiredNames objects := mem_sortedNames
      _ ↔ ∀ members ∈ objects, name ∈ names members := mem_requiredNames_cons
  · intro nodup name
    rw [names_mergeSteps, count_flatMap_names nodup, List.length_filter_eq_length_iff]
    exact forall₂_congr fun _ _ => contains_iff

end Inferrer

end JsonShape
