import JsonShape.Proofs.Untouched
import Mathlib.Data.List.Duplicate

/-!
# Whether a name is required twice

The list of required names is meant as a set: a name is added only if it is not there. Renaming,
however, rewrites the list in place. If the old and the new name are both required, the new one
stands in the list twice from then on, until it is taken out.

Main statement: by `Edit.nodup_requiredNames_run_iff`, after a run of edits a name is required twice
exactly if a rename has made two required names into one that is still required at the end.
-/

namespace JsonShape

open Members

/-- A value stands twice among results if one element leads to it that stands twice, or two
different ones do. -/
theorem duplicate_filterMap_iff {α β : Type} {f : α → Option β} {as : List α} {b : β} :
    List.Duplicate b (as.filterMap f) ↔
      (∃ a, List.Duplicate a as ∧ f a = some b)
        ∨ ∃ a ∈ as, ∃ a' ∈ as, a ≠ a' ∧ f a = some b ∧ f a' = some b := by
  induction as with
  | nil => simp
  | cons first rest ih =>
    simp only [List.duplicate_cons_iff]
    cases h : f first with
    | none =>
      rw [List.filterMap_cons_none h, ih]
      grind
    | some image =>
      rw [List.filterMap_cons_some h, List.duplicate_cons_iff, ih, List.mem_filterMap]
      grind

namespace NamesChange

/-- The name that two different required names are made into. -/
def merged? (change : NamesChange) (names : List String) : Option String :=
  match change with
  | rename old new => if old ≠ new ∧ old ∈ names ∧ new ∈ names then some new else none
  | _ => none

theorem merged?_eq_some_iff {change : NamesChange} {names : List String} {name : String} :
    change.merged? names = some name ↔
      ∃ a ∈ names, ∃ b ∈ names, a ≠ b ∧ change.trace a = some name
        ∧ change.trace b = some name := by
  cases change with
  | rename old new =>
    simp only [merged?, trace, Schema.renamed]
    grind
  | _ =>
    simp only [merged?, trace]
    grind

/-- After a change a name stands twice in the list if it comes from one that did, or if two names
are made into it. -/
theorem duplicate_apply_iff (change : NamesChange) {names : List String} {name : String} :
    List.Duplicate name (change.apply names) ↔
      (∃ before, List.Duplicate before names ∧ change.trace before = some name)
        ∨ change.merged? names = some name := by
  cases hadds : change.adds with
  | false => rw [apply_eq_filterMap hadds, duplicate_filterMap_iff, merged?_eq_some_iff]
  | true =>
    cases change with
    | add added =>
      simp only [trace, merged?, Option.some.injEq, exists_eq_right, reduceCtorEq, or_false]
      show List.Duplicate name (if added ∈ names then names else names ++ [added]) ↔ _
      split
      · exact Iff.rfl
      · next hadded =>
        -- the added name stands in the list once, and all others as often as before
        rw [List.duplicate_iff_two_le_count, List.duplicate_iff_two_le_count, List.count_append]
        have hzero : names.count added = 0 := List.count_eq_zero.mpr hadded
        by_cases h : name = added
        · simp [h, hzero]
        · simp [Ne.symm h]
    | _ => cases hadds

end NamesChange

namespace Edit

/-- What becomes of a required name in a run of edits, unless it is taken out. -/
def traced : List Edit → Schema → String → Option String
  | [], _, name => some name
  | edit :: rest, schema, name =>
    ((edit.requiredChange schema).trace name).bind (traced rest (edit.apply schema))

/-- Every name that an edit of a run makes out of two required ones is taken out later in the run.
-/
def MergesDropped : List Edit → Schema → Prop
  | [], _ => True
  | edit :: rest, schema =>
    (∀ name, (edit.requiredChange schema).merged? schema.requiredNames = some name →
        traced rest (edit.apply schema) name = none)
      ∧ MergesDropped rest (edit.apply schema)

variable {edits : List Edit} {schema : Schema}

/-- At the end no name is required twice if all those that were at the start are taken out, and all
those that two others were made into. -/
theorem nodup_requiredNames_iff (hedits : ∀ edit ∈ edits, edit.OfProperties) :
    (run edits schema).requiredNames.Nodup ↔
      (∀ name, List.Duplicate name schema.requiredNames → traced edits schema name = none)
        ∧ MergesDropped edits schema := by
  induction edits generalizing schema with
  | nil =>
    show schema.requiredNames.Nodup ↔ (∀ name, _ → some name = none) ∧ True
    simp [List.nodup_iff_forall_not_duplicate]
  | cons edit rest ih =>
    rw [List.forall_mem_cons] at hedits
    rw [run_cons, ih hedits.2, requiredNames_apply hedits.1]
    simp only [NamesChange.duplicate_apply_iff, traced, MergesDropped, Option.bind_eq_none_iff]
    constructor
    · rintro ⟨htwice, hlater⟩
      exact ⟨fun name hname after hafter => htwice after (.inl ⟨name, hname, hafter⟩),
        fun name hname => htwice name (.inr hname), hlater⟩
    · rintro ⟨htwice, hmerged, hlater⟩
      refine ⟨?_, hlater⟩
      rintro after (⟨name, hname, hafter⟩ | hafter)
      · exact htwice name hname after hafter
      · exact hmerged after hafter

/-- If no name is required twice, none is after a run of edits exactly if every name that a rename
makes out of two required ones is taken out again. -/
theorem nodup_requiredNames_run_iff (hedits : ∀ edit ∈ edits, edit.OfProperties)
    (nodup : schema.requiredNames.Nodup) :
    (run edits schema).requiredNames.Nodup ↔ MergesDropped edits schema := by
  rw [nodup_requiredNames_iff hedits, and_iff_right]
  intro name hname
  exact absurd hname (List.nodup_iff_forall_not_duplicate.mp nodup name)

/-- Two properties, both of them required. -/
def bothRequired : Schema :=
  .object { Facets.typed .object with required := some ["a", "b"] }
    { properties := some [("a", .empty), ("b", .empty)] }

/-- One is renamed to the other, and that one is then no longer required. -/
theorem nodup_requiredNames_dropped :
    (∀ edit ∈ [rename .named "a" "b", require "b" false], edit.OfProperties)
      ∧ bothRequired.requiredNames.Nodup
      ∧ (run [rename .named "a" "b", require "b" false] bothRequired).requiredNames.Nodup := by
  have hedits : ∀ edit ∈ [rename .named "a" "b", require "b" false], edit.OfProperties := by
    simp [OfProperties]
  have nodup : bothRequired.requiredNames.Nodup := by decide
  refine ⟨hedits, nodup, (nodup_requiredNames_run_iff hedits nodup).mpr ⟨?_, ?_, trivial⟩⟩
  · intro name hname
    cases hname
    rfl
  · intro name hname
    cases hname

/-- One is renamed to the other, which is then required twice. -/
theorem renamed_required_twice :
    bothRequired.requiredNames.Nodup
      ∧ (run [rename .named "a" "b"] bothRequired).requiredNames = ["b", "b"]
      ∧ ¬ (run [rename .named "a" "b"] bothRequired).requiredNames.Nodup := by
  decide

end Edit

end JsonShape
