import JsonShape.Inference.Format
import JsonShape.Pattern.Syntax
import JsonShape.Proofs.Words

/-!
# The patterns of formats

A format has its pattern as a text and its expression as put together from named parts. The reader
of patterns groups the parts differently, and leaves an empty expression where flags are set. So an
expression is taken apart into its pieces, with no sequence and no empty expression among them, and
two expressions of the same pieces are found in the same texts.

* **Pieces keep the meaning** (`Regex.spans_sequence_pieces`, `Regex.isFoundIn_eq_of_pieces`) — by
  induction on the expression.
* **The patterns are those of the expressions** (`StringFormat.exists_compile_pattern`) — each
  pattern is well written, and is found in the texts in which the expression of its format is.
* **Detection tries the patterns in order** (`StringFormat.detect_eq_find_pattern`).
-/

namespace JsonShape

namespace Regex

/-- What stands one after the other in an expression. Expressions below a choice or a repetition are
put together from their own pieces. -/
def pieces : Regex → List Regex
  | empty => []
  | set mode chars => [set mode chars]
  | anchor condition => [anchor condition]
  | seq first second => first.pieces ++ second.pieces
  | alt first second => [alt (sequence first.pieces) (sequence second.pieces)]
  | rep least most body => [rep least most (sequence body.pieces)]

variable {regex first second : Regex} {text : String}

/-- An expression matches where its pieces do, one after the other. -/
theorem spans_sequence_pieces {characters : Array Char} {p q : Nat} :
    (sequence regex.pieces).Spans characters p q ↔ regex.Spans characters p q := by
  induction regex generalizing p q with
  | empty => exact Iff.rfl
  | set mode chars => exact Iff.rfl
  | anchor condition => exact Iff.rfl
  | seq first second ihfirst ihsecond =>
    rw [pieces, spans_sequence_append]
    exact exists_congr fun m => and_congr ihfirst ihsecond
  | alt first second ihfirst ihsecond => exact or_congr ihfirst ihsecond
  | rep least most body ih =>
    -- the rounds are of one relation, whatever their number
    have hround : (sequence body.pieces).Spans characters = body.Spans characters := by
      funext p q
      exact propext ih
    rw [pieces, sequence, Spans, Spans, hround]

theorem isFoundIn_sequence_pieces :
    (sequence regex.pieces).isFoundIn text = regex.isFoundIn text := by
  rw [Bool.eq_iff_iff, isFoundIn_iff, isFoundIn_iff]
  simp only [spans_sequence_pieces]

/-- Expressions of the same pieces are found in the same texts. -/
theorem isFoundIn_eq_of_pieces (h : first.pieces = second.pieces) :
    first.isFoundIn text = second.isFoundIn text := by
  rw [← isFoundIn_sequence_pieces, h, isFoundIn_sequence_pieces]

end Regex

namespace StringFormat

/-- What is read off the pattern of a format has the pieces of its expression. -/
theorem map_pieces_compile_pattern (format : StringFormat) :
    (Regex.compile format.pattern).map Regex.pieces = .ok format.regex.pieces := by
  cases format <;> decide +kernel

/-- The pattern of a format is well written, and it is found in the texts in which the expression of
the format is. -/
theorem exists_compile_pattern (format : StringFormat) :
    ∃ compiled, Regex.compile format.pattern = .ok compiled
      ∧ ∀ text, compiled.isFoundIn text = format.regex.isFoundIn text := by
  have hpieces := map_pieces_compile_pattern format
  cases hcompile : Regex.compile format.pattern with
  | error fault =>
    rw [hcompile] at hpieces
    cases hpieces
  | ok compiled =>
    rw [hcompile] at hpieces
    exact ⟨compiled, rfl, fun _ => Regex.isFoundIn_eq_of_pieces (Except.ok.inj hpieces)⟩

/-- The format of a text is the first one of which the pattern is found in the text. -/
theorem detect_eq_find_pattern (text : String) :
    detect text =
      all.find? fun format => (Regex.compile format.pattern).toOption.any (·.isFoundIn text) := by
  have hpattern (format : StringFormat) : format.regex.isFoundIn text =
      (Regex.compile format.pattern).toOption.any (·.isFoundIn text) := by
    obtain ⟨compiled, hcompile, hfound⟩ := exists_compile_pattern format
    rw [hcompile]
    exact (hfound text).symm
  simp only [detect, hpattern]

end StringFormat

end JsonShape
