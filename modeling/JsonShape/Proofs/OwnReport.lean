import JsonShape.Instance.Report
import JsonShape.Proofs.Gaps
import JsonShape.Proofs.ReadValues

/-!
# Texts and their own schemas

Main statement: by `Inferrer.valid_own_report_iff` a text is reported as valid against the schema of
the value that was read from it exactly if the value has no gap. An array of an integer and a number
that is no integer has one: the integer satisfies both alternatives
(`Inferrer.mixedNumbers_report_invalid`).
-/

namespace JsonShape

open Members Schema

/-- A text that was read is checked against a schema like its value. -/
theorem valid_report_iff {schema : Schema} (emitted : schema.Emitted) {text : String} {value : Json}
    (hread : Json.read text = .ok value) :
    (schema.report text).valid = true ↔ schema.toJson.accepts value = true := by
  have hreport : schema.report text
      = ⟨(schema.toJson.violations value).map (InstanceError.ofViolated text)⟩ := by
    rw [Schema.report, Json.report, Json.not_isBlank_of_read hread]
    simp only [Bool.false_eq_true, if_false, hread, schemaFault_eq_none emitted]
  rw [hreport, InstanceReport.valid, List.isEmpty_map, Json.accepts]

namespace Inferrer

open Reader Lexeme

variable {config : InferenceConfig} {clockMs : Int} {inferrer : Inferrer}

/-- A value, and every text that stands for it, is valid against its own schema exactly if it has no
gap. -/
theorem valid_own_report_iff (hconfig : ofConfig config clockMs = .ok inferrer) (value : Json) :
    (value.UniqueNames →
        ((inferrer.infer value).toJson.accepts value = true ↔ ¬ Gap inferrer value))
      ∧ ∀ text, Json.read text = .ok value →
        (((inferrer.infer value).report text).valid = true ↔ ¬ Gap inferrer value) := by
  constructor
  · exact accepts_infer_iff hconfig
  · intro text hread
    -- a value that was read repeats no name, whatever the text does
    have unique := Json.uniqueNames_of_read hread
    rw [valid_report_iff (emitted_infer hconfig unique) hread, accepts_infer_iff hconfig unique]

/-- An array with elements of one simple type. -/
def booleans : Json := .array [.bool true, .bool false]

theorem booleans_report_valid :
    ∃ inferrer, ofConfig openConfig 0 = .ok inferrer
      ∧ Json.read "[true,false]" = .ok booleans ∧ ¬ Gap inferrer booleans
      ∧ ((inferrer.infer booleans).report "[true,false]").valid = true := by
  obtain ⟨inferrer, hconfig⟩ := ofConfig_open
  have hread : Json.read "[true,false]" = .ok booleans := by
    have htext : "[true,false]".toList
        = ['[', 't', 'r', 'u', 'e', ',', 'f', 'a', 'l', 's', 'e', ']'] := by decide
    have hfirst : nextElement true ['t', 'r', 'u', 'e', ',', 'f', 'a', 'l', 's', 'e', ']']
        = .ok (.item (.refl _)) := rfl
    have hnext : nextElement false [',', 'f', 'a', 'l', 's', 'e', ']']
        = .ok (.item ⟨['f', 'a', 'l', 's', 'e', ']'], by decide⟩) := rfl
    have hlast := elements_cons hnext (value_false 126 [']']) (elements_closed 126 false [])
    exact Json.read_array htext (elements_cons hfirst (value_true 126 _) hlast) rfl
  have hkind : ∀ element ∈ [Json.bool true, .bool false], element.kind = .boolean := by
    decide
  have hgap : ¬ Gap inferrer booleans :=
    not_gap_of_simple hkind TypeName.noConfusion TypeName.noConfusion
  exact ⟨inferrer, hconfig, hread, hgap,
    ((valid_own_report_iff hconfig booleans).2 _ hread).mpr hgap⟩

/-! ### An integer beside another number -/

/-- The number `2.5`. -/
def twoAndHalf : Binary64 := ⟨false, 5 * twoPow 50, 1023, by decide⟩

/-- The value of the text `[1,2.5]`. -/
def mixedNumbers : Json := .array [oneValue, .number (.real twoAndHalf)]

theorem infer_one (inferrer : Inferrer) :
    inferrer.infer oneValue = .typed .integer := rfl

theorem infer_twoAndHalf (inferrer : Inferrer) :
    inferrer.infer (.number (.real twoAndHalf)) = .typed .number := by
  have hwhole : twoAndHalf.isWhole = false := by decide +kernel
  show ofNumber (.real twoAndHalf) = _
  rw [ofNumber, Number.isWhole, hwhole]
  rfl

/-- The integer satisfies both alternatives. -/
theorem gap_mixedNumbers (hconfig : ofConfig config clockMs = .ok inferrer) :
    Gap inferrer mixedNumbers := by
  have hinteger : (Schema.typed .integer).Emitted := by
    rw [← infer_one inferrer]
    exact emitted_infer hconfig .number
  have hnumber : (Schema.typed .number).Emitted := by
    rw [← infer_twoAndHalf inferrer]
    exact emitted_infer hconfig .number
  have hdedup : dedup [Schema.typed .integer, .typed .number] = [.typed .integer, .typed .number] :=
    rfl
  refine .choice ⟨_, List.mem_cons_of_mem _ List.mem_cons_self, ?_⟩ List.mem_cons_self ?_
  · decide +kernel
  · rw [List.map_cons, List.map_singleton, infer_one, infer_twoAndHalf, hdedup, acceptCount_eq]
    · decide
    · rintro schema hschema
      rw [List.mem_pair] at hschema
      rcases hschema with rfl | rfl
      · exact hinteger
      · exact hnumber

theorem number_twoAndHalf :
    Lexeme.number false ['2', '.', '5', ']'] = .ok (.real twoAndHalf, ⟨[']'], by decide⟩) := by
  have hround : Binary64.ofDecimal false 25 (-1) = some twoAndHalf := by decide +kernel
  have hscaled : scaled false 25 (-1) [']'] = .ok (.real twoAndHalf) := by
    rw [scaled, hround]
  have hpower : power false 25 1 [']'] = .ok (.real twoAndHalf, .refl _) := by
    show (scaled false 25 (-1) [']']).map _ = _
    rw [hscaled]
    rfl
  show Except.map _ (Except.map _ (power false 25 1 [']'])) = _
  rw [hpower]
  rfl

theorem value_twoAndHalf (depth : Nat) :
    value depth ['2', '.', '5', ']'] = .ok (.number (.real twoAndHalf), ⟨[']'], by decide⟩) := by
  rw [value]
  show Except.map _ (Except.map _ (Lexeme.number false ['2', '.', '5', ']'])) = _
  rw [number_twoAndHalf]
  rfl

theorem value_one (depth : Nat) : value depth ['1', ',', '2', '.', '5', ']']
    = .ok (oneValue, ⟨[',', '2', '.', '5', ']'], by decide⟩) := by
  rw [value]
  rfl

theorem read_mixedNumbers : Json.read "[1,2.5]" = .ok mixedNumbers := by
  have htext : "[1,2.5]".toList = ['[', '1', ',', '2', '.', '5', ']'] := by decide
  have hfirst : nextElement true ['1', ',', '2', '.', '5', ']'] = .ok (.item (.refl _)) := rfl
  have hnext : nextElement false [',', '2', '.', '5', ']']
      = .ok (.item ⟨['2', '.', '5', ']'], by decide⟩) := rfl
  have hlast := elements_cons hnext (value_twoAndHalf 126) (elements_closed 126 false [])
  exact Json.read_array htext (elements_cons hfirst (value_one 126) hlast) rfl

theorem mixedNumbers_report_invalid :
    ∃ inferrer, ofConfig openConfig 0 = .ok inferrer ∧ Json.read "[1,2.5]" = .ok mixedNumbers
      ∧ ((inferrer.infer mixedNumbers).report "[1,2.5]").valid = false := by
  obtain ⟨inferrer, hconfig⟩ := ofConfig_open
  refine ⟨inferrer, hconfig, read_mixedNumbers, ?_⟩
  have unique := Json.uniqueNames_of_read read_mixedNumbers
  rw [Bool.eq_false_iff]
  intro hvalid
  have haccepts := (valid_report_iff (emitted_infer hconfig unique) read_mixedNumbers).mp hvalid
  exact (accepts_infer_iff hconfig unique).mp haccepts (gap_mixedNumbers hconfig)

end Inferrer

end JsonShape
