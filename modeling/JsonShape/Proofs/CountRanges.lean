import JsonShape.Proofs.Misfits
import JsonShape.Proofs.Rounding

/-!
# Ranges of counts

The lower and the upper count of a schema are compared as binary64 numbers. Rounding keeps the order
of integers but may make two of them equal, so a range that is in order is never reported, and one
that is not is passed over exactly if both counts round to one number.

Main statement: `Schema.reports_range_iff` says what a node reports about its pairs of counts.
-/

namespace JsonShape

/-- Whether a node has an issue of its own with a tag. -/
def IssueTree.Reports (tree : IssueTree) (tag : String) : Prop :=
  ∃ issue ∈ tree.issues, issue.tag = some tag

/-! ### Violations with a tag -/

/-- Whether one of some violations has a tag. -/
def Violation.Tagged (tag : String) (violations : List Violation) : Prop :=
  ∃ violation ∈ violations, violation.tag? = some tag

theorem Schema.reports_iff {messages : Messages} {facets : Facets} {parts : Parts Schema}
    {tag : String} :
    ((object facets parts).issueTree messages).Reports tag ↔
      Violation.Tagged tag (facets.violations facets.primaryType?) := by
  unfold IssueTree.Reports Violation.Tagged
  rw [issues_issueTree]
  constructor
  · rintro ⟨issue, hissue, htag⟩
    obtain ⟨violation, hviolation, rfl⟩ := List.mem_map.mp hissue
    exact ⟨violation, hviolation, htag⟩
  · rintro ⟨violation, hviolation, htag⟩
    exact ⟨_, List.mem_map_of_mem hviolation, htag⟩

namespace Violation

variable {tag : String}

@[simp] theorem tagged_append {first second : List Violation} :
    Tagged tag (first ++ second) ↔ Tagged tag first ∨ Tagged tag second := by
  simp only [Tagged, List.mem_append, or_and_right, exists_or]

@[simp] theorem tagged_if {condition : Prop} [Decidable condition] {violation : Violation} :
    Tagged tag (if condition then [violation] else []) ↔
      condition ∧ violation.tag? = some tag := by
  split_ifs with h <;> simp [Tagged, h]

@[simp] theorem tagged_unless {condition : Prop} [Decidable condition] {violation : Violation} :
    Tagged tag (if condition then [] else [violation]) ↔
      ¬ condition ∧ violation.tag? = some tag := by
  split_ifs with h <;> simp [Tagged, h]

end Violation

namespace Facets

variable {facets : Facets} {tag : String}

/-- A tag that is the name of no keyword is not that of a misfit. -/
theorem not_tagged_misfits (hname : Keyword.ofName? tag = none) (keywords : List Keyword) :
    ¬ Violation.Tagged tag (facets.misfits keywords) := by
  rintro ⟨violation, hviolation, htag⟩
  obtain ⟨keyword, -, rfl⟩ := List.mem_map.mp hviolation
  rw [← Option.some.inj htag, Keyword.ofName?_name] at hname
  cases hname

theorem not_tagged_countViolations (hname : Keyword.ofName? tag = none) (keyword : NumberKeyword) :
    ¬ Violation.Tagged tag (facets.countViolations keyword) := by
  rintro ⟨violation, hviolation, htag⟩
  -- a violation of a count is tagged with its keyword
  have hkeyword : violation.tag? = some (Keyword.number keyword).name := by
    unfold countViolations at hviolation
    split at hviolation
    · cases hviolation
    · obtain h | h := List.mem_append.mp hviolation <;> split_ifs at h <;> simp at h <;> rw [h] <;>
        rfl
  rw [← Option.some.inj (hkeyword.symm.trans htag), Keyword.ofName?_name] at hname
  cases hname

theorem tagged_rangeViolation {min max : NumberKeyword} {violation : Violation} :
    Violation.Tagged tag (facets.rangeViolation min max violation) ↔
      facets.consistent min false max false = false ∧ violation.tag? = some tag := by
  rw [rangeViolation, Violation.tagged_unless, Bool.not_eq_true]

end Facets

/-! ### Pairs of counts -/

theorem Extended.lt_finite {x y : Binary64} :
    (Extended.finite x).lt (.finite y) = true ↔ x.units < y.units := decide_eq_true_iff

theorem rangeConsistent_inclusive (low high : Extended) :
    rangeConsistent (some low) false (some high) false = !high.lt low := by
  simp [rangeConsistent]

/-- A pair of counts that the rules of a type compare. -/
inductive CountRange
  | length | items | contains | properties
deriving DecidableEq, Repr

namespace CountRange

/-- The type whose rules compare the pair. -/
def type : CountRange → TypeName
  | length => .string
  | items => .array
  | contains => .array
  | properties => .object

/-- The keyword of the lower count. -/
def lower : CountRange → NumberKeyword
  | length => .minLength
  | items => .minItems
  | contains => .minContains
  | properties => .minProperties

/-- The keyword of the upper count. -/
def upper : CountRange → NumberKeyword
  | length => .maxLength
  | items => .maxItems
  | contains => .maxContains
  | properties => .maxProperties

/-- The tag under which the pair is reported. -/
def tag : CountRange → String
  | length => "length"
  | items => "minmax"
  | contains => "minmaxContains"
  | properties => "minmax"

theorem ofName?_tag (range : CountRange) : Keyword.ofName? range.tag = none := by
  cases range <;> decide

variable {facets : Facets}

/-- Among the violations of its type, only the pair itself has its tag. -/
theorem tagged_violations (range : CountRange) :
    Violation.Tagged range.tag (facets.violations (some range.type)) ↔
      facets.consistent range.lower false range.upper false = false := by
  have hmisfits : ∀ keywords, ¬ Violation.Tagged range.tag (facets.misfits keywords) :=
    Facets.not_tagged_misfits range.ofName?_tag
  have hcounts : ∀ keyword, ¬ Violation.Tagged range.tag (facets.countViolations keyword) :=
    Facets.not_tagged_countViolations range.ofName?_tag
  -- the rules of a type are a chain of lists, of which only those of ranges can have the tag
  cases range <;>
    simp only [type, Facets.violations, Facets.stringViolations, Facets.arrayViolations,
      Facets.objectViolations, Violation.tagged_append, hmisfits, hcounts, false_or,
      Facets.tagged_rangeViolation, lower, upper] <;>
    simp [Violation.tag?, tag]

/-- Integers under the keywords of a pair are compared after rounding. -/
theorem consistent_eq_false_iff {range : CountRange} {m n : Int} {hm hn}
    (hlower : facets.number? range.lower = some (.integer m hm))
    (hupper : facets.number? range.upper = some (.integer n hn)) :
    facets.consistent range.lower false range.upper false = false ↔
      (Binary64.ofInt n).units < (Binary64.ofInt m).units := by
  have hlow : facets.bound? range.lower = some (Binary64.ofInt m) := by
    rw [Facets.bound?, hlower]
    rfl
  have hhigh : facets.bound? range.upper = some (Binary64.ofInt n) := by
    rw [Facets.bound?, hupper]
    rfl
  rw [Facets.consistent, hlow, hhigh, Option.map_some, Option.map_some, rangeConsistent_inclusive,
    Bool.not_eq_false', Extended.lt_finite]

end CountRange

namespace Schema

theorem reports_range {messages : Messages} (range : CountRange) {facets : Facets}
    {parts : Parts Schema} (htype : facets.primaryType? = some range.type) {m n : Int} {hm hn}
    (hlower : facets.number? range.lower = some (.integer m hm))
    (hupper : facets.number? range.upper = some (.integer n hn)) :
    ((object facets parts).issueTree messages).Reports range.tag ↔
      (Binary64.ofInt n).units < (Binary64.ofInt m).units := by
  rw [reports_iff, htype, CountRange.tagged_violations,
    CountRange.consistent_eq_false_iff hlower hupper]

/-- A pair of integer counts is reported exactly if the lower one is greater and the two do not
round to one number. Up to `2 ^ 53` no two do. -/
theorem reports_range_iff (messages : Messages) (range : CountRange) {facets : Facets}
    (parts : Parts Schema) (htype : facets.primaryType? = some range.type) {m n : Int} {hm hn}
    (hlower : facets.number? range.lower = some (.integer m hm))
    (hupper : facets.number? range.upper = some (.integer n hn)) :
    (((object facets parts).issueTree messages).Reports range.tag ↔
        n < m ∧ (Binary64.ofInt m).same (Binary64.ofInt n) = false)
      ∧ (m.natAbs ≤ twoPow 53 → n.natAbs ≤ twoPow 53 →
        (((object facets parts).issueTree messages).Reports range.tag ↔ n < m)) := by
  rw [reports_range range htype hlower hupper]
  constructor
  · -- rounding keeps the order in the weak sense, so what is left to say is when it makes two
    -- counts equal
    rw [Binary64.same, beq_eq_false_iff_ne]
    constructor
    · intro hless
      refine ⟨?_, by omega⟩
      by_contra hle
      have := Binary64.units_ofInt_mono (i := m) (j := n) (by omega)
      omega
    · rintro ⟨hless, hne⟩
      have := Binary64.units_ofInt_mono (i := n) (j := m) (by omega)
      omega
  · intro hlow hhigh
    rw [Binary64.units_ofInt_of_le hlow, Binary64.units_ofInt_of_le hhigh, Binary64.mul_one_lt_iff]

/-- A text of at least three and at most two characters. -/
def emptyLengths : Facets :=
  { type := some (.single .string), minLength := some 3, maxLength := some 2 }

theorem reports_range_emptyLengths :
    Facets.primaryType? emptyLengths = some CountRange.length.type
      ∧ Facets.number? emptyLengths CountRange.length.lower = some (.integer 3 (by decide))
      ∧ Facets.number? emptyLengths CountRange.length.upper = some (.integer 2 (by decide))
      ∧ ((object emptyLengths {}).issueTree {}).Reports "length" := by
  have hlower : emptyLengths.number? CountRange.length.lower = some (.integer 3 (by decide)) := rfl
  have hupper : emptyLengths.number? CountRange.length.upper = some (.integer 2 (by decide)) := rfl
  have hreports := (reports_range_iff {} .length {} rfl hlower hupper).2 (by decide) (by decide)
  exact ⟨rfl, hlower, hupper, hreports.mpr (by decide)⟩

/-- The least counts that are not in order and not reported. -/
theorem adjacentLengths_unreported :
    (9007199254740992 : Int) < 9007199254740993
      ∧ ¬ ((object
          { type := some (.single .string)
            minLength := some (.integer 9007199254740993 (by decide))
            maxLength := some (.integer 9007199254740992 (by decide)) } {}).issueTree {}).Reports
        "length" := by
  refine ⟨by decide, fun hreports => ?_⟩
  have hless := (reports_range .length rfl rfl rfl).mp hreports
  revert hless
  decide +kernel

end Schema

end JsonShape
