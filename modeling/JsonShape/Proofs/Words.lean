import JsonShape.Proofs.Matching
import Mathlib.Computability.Language

/-!
# Languages of regular expressions

Without anchors, whether an expression matches what stands between two positions depends on this
word alone (`Regex.spans_iff`). So such an expression has a language (`Regex.language`), and that of
an expression that is put together follows from those of its parts.

Main statement: by `Regex.isFoundIn_anchored` expressions one after the other, with the anchors of
the text around them, are found in the texts that are words of the product of their languages, and
in no others.
-/

namespace JsonShape

/-- A word of a text from one position to another. -/
def WordAt (text : List Char) (p q : Nat) (word : List Char) : Prop :=
  word <+: text.drop p ∧ q = p + word.length

namespace WordAt

variable {text word first second : List Char} {c : Char} {p q : Nat}

theorem nil_iff : WordAt text p q [] ↔ q = p := by simp [WordAt]

theorem singleton_iff : WordAt text p q [c] ↔ text[p]? = some c ∧ q = p + 1 := by
  rw [WordAt, ← List.head?_drop]
  cases text.drop p with
  | nil => simp
  | cons d rest => simp [List.cons_prefix_cons, eq_comm]

theorem append_iff : WordAt text p q (first ++ second) ↔
    ∃ m, WordAt text p m first ∧ WordAt text m q second := by
  constructor
  · rintro ⟨⟨rest, hrest⟩, hq⟩
    rw [List.append_assoc] at hrest
    refine ⟨p + first.length, ⟨⟨_, hrest⟩, rfl⟩, ⟨rest, ?_⟩, ?_⟩
    · rw [← List.drop_drop, ← hrest, List.drop_left]
    · rw [hq, List.length_append, Nat.add_assoc]
  · rintro ⟨m, ⟨⟨rest, hrest⟩, rfl⟩, hsecond, rfl⟩
    rw [← List.drop_drop, ← hrest, List.drop_left] at hsecond
    refine ⟨?_, by rw [List.length_append, Nat.add_assoc]⟩
    rw [← hrest]
    exact (List.prefix_append_right_inj _).mpr hsecond

/-- The only word from the beginning of a text to its end is the text. -/
theorem whole_iff : WordAt text 0 text.length word ↔ word = text := by
  constructor
  · rintro ⟨h, hlength⟩
    rw [Nat.zero_add] at hlength
    exact List.IsPrefix.eq_of_length h hlength.symm
  · rintro rfl
    exact ⟨List.prefix_refl _, (Nat.zero_add _).symm⟩

end WordAt

namespace Regex

/-! ### Languages -/

/-- No part of the expression asks for the characters around a position. -/
def AnchorFree : Regex → Prop
  | empty => True
  | set _ _ => True
  | anchor _ => False
  | seq first second => first.AnchorFree ∧ second.AnchorFree
  | alt first second => first.AnchorFree ∧ second.AnchorFree
  | rep _ _ body => body.AnchorFree

/-- The words that an expression without anchors matches. -/
def language : Regex → Language Char
  | empty => 1
  | set mode chars => {word | ∃ c, chars.contains mode c = true ∧ word = [c]}
  | anchor _ => 0
  | seq first second => first.language * second.language
  | alt first second => first.language + second.language
  | rep least most body =>
    {word | ∃ further, (∀ m, most = some m → further ≤ m - least)
      ∧ word ∈ body.language ^ (least + further)}

variable {text : List Char} {p q : Nat}

theorem exists_wordAt_mul {first second : Language Char} :
    (∃ word ∈ first * second, WordAt text p q word) ↔
      ∃ m, (∃ word ∈ first, WordAt text p m word) ∧ ∃ word ∈ second, WordAt text m q word := by
  constructor
  · rintro ⟨_, ⟨left, hleft, right, hright, rfl⟩, h⟩
    obtain ⟨m, hfirst, hsecond⟩ := WordAt.append_iff.mp h
    exact ⟨m, ⟨left, hleft, hfirst⟩, right, hright, hsecond⟩
  · rintro ⟨m, ⟨left, hleft, hfirst⟩, right, hright, hsecond⟩
    exact ⟨left ++ right, Language.append_mem_mul hleft hright,
      WordAt.append_iff.mpr ⟨m, hfirst, hsecond⟩⟩

/-- Rounds that each read a word of a language together read a word of its power. -/
theorem run_iff {round : Nat → Nat → Prop} {language : Language Char}
    (reads : ∀ p q, round p q ↔ ∃ word ∈ language, WordAt text p q word) {count : Nat} :
    Run round count p q ↔ ∃ word ∈ language ^ count, WordAt text p q word := by
  induction count generalizing p with
  | zero =>
    simp only [pow_zero, Language.mem_one, exists_eq_left, WordAt.nil_iff]
    constructor
    · rintro ⟨⟩
      rfl
    · rintro rfl
      exact .stop
  | succ count ih =>
    -- the first round reads the first factor
    rw [pow_succ', exists_wordAt_mul]
    constructor
    · intro run
      cases run with
      | next hround hrest => exact ⟨_, (reads _ _).mp hround, ih.mp hrest⟩
    · rintro ⟨m, hround, hrest⟩
      exact .next ((reads _ _).mpr hround) (ih.mpr hrest)

theorem spans_iff {regex : Regex} (free : regex.AnchorFree) :
    regex.Spans text.toArray p q ↔ ∃ word ∈ regex.language, WordAt text p q word := by
  induction regex generalizing p q with
  | empty => simp [Spans, language, Language.mem_one, WordAt.nil_iff]
  | set mode chars =>
    constructor
    · rintro ⟨c, hc, hchars, rfl⟩
      rw [List.getElem?_toArray] at hc
      exact ⟨[c], ⟨c, hchars, rfl⟩, WordAt.singleton_iff.mpr ⟨hc, rfl⟩⟩
    · rintro ⟨_, ⟨c, hchars, rfl⟩, h⟩
      obtain ⟨hc, hq⟩ := WordAt.singleton_iff.mp h
      exact ⟨c, by rwa [List.getElem?_toArray], hchars, hq⟩
  | anchor condition => exact free.elim
  | seq first second ihfirst ihsecond =>
    rw [language, exists_wordAt_mul]
    exact exists_congr fun m => and_congr (ihfirst free.1) (ihsecond free.2)
  | alt first second ihfirst ihsecond =>
    simp only [Spans, language, Language.mem_add, or_and_right, exists_or, ihfirst free.1,
      ihsecond free.2]
  | rep least most body ih =>
    constructor
    · rintro ⟨further, hfurther, run⟩
      obtain ⟨word, hword, h⟩ := (run_iff fun _ _ => ih free).mp run
      exact ⟨word, ⟨further, hfurther, hword⟩, h⟩
    · rintro ⟨word, ⟨further, hfurther, hword⟩, h⟩
      exact ⟨further, hfurther, (run_iff fun _ _ => ih free).mpr ⟨word, hword, h⟩⟩

/-! ### Expressions one after the other -/

theorem sequence_cons_cons (first second : Regex) (rest : List Regex) :
    sequence (first :: second :: rest) = seq first (sequence (second :: rest)) := rfl

theorem spans_sequence_cons {text : Array Char} {first : Regex} {rest : List Regex} :
    (sequence (first :: rest)).Spans text p q ↔
      ∃ m, first.Spans text p m ∧ (sequence rest).Spans text m q := by
  cases rest with
  | nil => simp [sequence, Spans]
  | cons second rest => rfl

theorem spans_sequence_append {text : Array Char} {front back : List Regex} :
    (sequence (front ++ back)).Spans text p q ↔
      ∃ m, (sequence front).Spans text p m ∧ (sequence back).Spans text m q := by
  induction front generalizing p with
  | nil => simp [sequence, Spans]
  | cons first rest ih =>
    simp only [List.cons_append, spans_sequence_cons, ih]
    constructor
    · rintro ⟨m, hfirst, k, hrest, hback⟩
      exact ⟨k, ⟨m, hfirst, hrest⟩, hback⟩
    · rintro ⟨k, ⟨m, hfirst, hrest⟩, hback⟩
      exact ⟨m, hfirst, k, hrest, hback⟩

theorem anchorFree_sequence {parts : List Regex} :
    (sequence parts).AnchorFree ↔ ∀ part ∈ parts, part.AnchorFree := by
  induction parts with
  | nil => simp [sequence, AnchorFree]
  | cons first rest ih =>
    cases rest with
    | nil => simp [sequence]
    | cons second rest => rw [sequence_cons_cons, AnchorFree, ih, ← List.forall_mem_cons]

theorem language_sequence_nil : (sequence []).language = 1 := rfl

theorem language_sequence_cons (first : Regex) (rest : List Regex) :
    (sequence (first :: rest)).language = first.language * (sequence rest).language := by
  cases rest with
  | nil => rw [language_sequence_nil, mul_one, sequence]
  | cons second rest => rfl

theorem spans_textStart {text : Array Char} (hp : p ≤ text.size) :
    (anchor .textStart).Spans text p q ↔ p = 0 ∧ q = p := by
  refine and_congr_left fun _ => ?_
  by_cases h : p = 0
  · simp [Anchor.holds, h]
  · simp [Anchor.holds, h]
    omega

theorem spans_textEnd {text : Array Char} :
    (anchor .textEnd).Spans text p q ↔ text.size ≤ p ∧ q = p := by
  simp [Spans, Anchor.holds]

/-- Between the anchors of the text, a match is the whole text. -/
theorem isFoundIn_anchored {text : String} {parts : List Regex}
    (free : ∀ part ∈ parts, part.AnchorFree) :
    (sequence (anchor .textStart :: parts ++ [anchor .textEnd])).isFoundIn text = true ↔
      text.toList ∈ (sequence parts).language := by
  rw [isFoundIn_iff]
  -- the anchors fix both ends, so the word between them is the text
  have hparts {p q : Nat} := @spans_iff text.toList p q _ (anchorFree_sequence.mpr free)
  simp only [List.cons_append, spans_sequence_cons, spans_sequence_append]
  constructor
  · rintro ⟨p, hp, q, m, hstart, finish, hmatch, k, hend, -⟩
    obtain ⟨rfl, rfl⟩ := (spans_textStart (by simpa using hp)).mp hstart
    obtain ⟨hfinish, rfl⟩ := spans_textEnd.mp hend
    rw [List.size_toArray] at hfinish
    have hbounds := hmatch.bounds
    rw [List.size_toArray] at hbounds
    obtain rfl : k = text.toList.length := by omega
    obtain ⟨word, hword, h⟩ := hparts.mp hmatch
    rwa [← WordAt.whole_iff.mp h]
  · intro h
    refine ⟨0, Nat.zero_le _, text.toList.length, 0, ?_, text.toList.length, ?_, _, ?_, rfl⟩
    · exact (spans_textStart (Nat.zero_le _)).mpr ⟨rfl, rfl⟩
    · exact hparts.mpr ⟨_, h, WordAt.whole_iff.mpr rfl⟩
    · exact spans_textEnd.mpr ⟨by simp, rfl⟩

/-! ### Sets and repetitions -/

section Repetitions

variable {mode : CharMode} {chars more : CharSet} {body : Regex} {word : List Char} {count : Nat}

theorem mem_language_set : word ∈ (set mode chars).language ↔
    ∃ c, chars.contains mode c = true ∧ word = [c] := Iff.rfl

theorem language_union : (set mode (.union chars more)).language =
    (set mode chars).language + (set mode more).language := by
  ext word
  rw [Language.mem_add]
  constructor
  · rintro ⟨c, hc, rfl⟩
    exact (Bool.or_eq_true_iff.mp hc).imp (⟨c, ·, rfl⟩) (⟨c, ·, rfl⟩)
  · rintro (⟨c, hc, rfl⟩ | ⟨c, hc, rfl⟩)
    · exact ⟨c, Bool.or_eq_true_iff.mpr (.inl hc), rfl⟩
    · exact ⟨c, Bool.or_eq_true_iff.mpr (.inr hc), rfl⟩

theorem language_choice_pair (first second : Regex) :
    (choice [first, second]).language = first.language + second.language := rfl

theorem language_rep_exactly : (rep count (some count) body).language = body.language ^ count := by
  ext word
  constructor
  · rintro ⟨further, hfurther, hword⟩
    have := hfurther count rfl
    obtain rfl : further = 0 := by omega
    exact hword
  · exact fun h => ⟨0, fun _ _ => Nat.zero_le _, h⟩

theorem language_rep_optional : (rep 0 (some 1) body).language = 1 + body.language := by
  ext word
  rw [Language.mem_add]
  constructor
  · rintro ⟨further, hfurther, hword⟩
    have := hfurther 1 rfl
    obtain rfl | rfl : further = 0 ∨ further = 1 := by omega
    · exact .inl hword
    · rw [Nat.zero_add, pow_one] at hword
      exact .inr hword
  · rintro (h | h)
    · exact ⟨0, fun _ _ => Nat.zero_le _, h⟩
    · refine ⟨1, ?_, ?_⟩
      · rintro m ⟨⟩
        exact Nat.le_refl _
      · rwa [Nat.zero_add, pow_one]

/-- Words of characters of a set are told apart from others by their length and their characters. -/
theorem mem_language_set_pow : word ∈ (set mode chars).language ^ count ↔
    word.length = count ∧ ∀ c ∈ word, chars.contains mode c = true := by
  induction count generalizing word with
  | zero =>
    rw [pow_zero, Language.mem_one, List.length_eq_zero_iff]
    constructor
    · rintro rfl
      simp
    · exact And.left
  | succ count ih =>
    rw [pow_succ', Language.mem_mul]
    constructor
    · rintro ⟨_, ⟨c, hc, rfl⟩, rest, hrest, rfl⟩
      obtain ⟨hlength, hall⟩ := ih.mp hrest
      exact ⟨by simp [hlength], List.forall_mem_cons.mpr ⟨hc, hall⟩⟩
    · rintro ⟨hlength, hall⟩
      cases word with
      | nil => cases hlength
      | cons c rest =>
        obtain ⟨hc, hrest⟩ := List.forall_mem_cons.mp hall
        exact ⟨[c], ⟨c, hc, rfl⟩, rest, ih.mpr ⟨by simpa using hlength, hrest⟩, rfl⟩

/-- At least so many characters of a set. -/
theorem mem_language_rep_set : word ∈ (rep count none (set mode chars)).language ↔
    count ≤ word.length ∧ ∀ c ∈ word, chars.contains mode c = true := by
  constructor
  · rintro ⟨further, -, hword⟩
    obtain ⟨hlength, hall⟩ := mem_language_set_pow.mp hword
    exact ⟨by omega, hall⟩
  · rintro ⟨hlength, hall⟩
    exact ⟨word.length - count, by simp, mem_language_set_pow.mpr ⟨by omega, hall⟩⟩

end Repetitions

end Regex

end JsonShape
