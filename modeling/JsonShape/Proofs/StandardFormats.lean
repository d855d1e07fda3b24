import JsonShape.Proofs.Formats
import Mathlib.Data.Bool.AllAny

/-!
# Formats and the standards they are named for

Dates and times of the standard are written in ASCII, and an address has no white space and begins
with the name of its scheme in ASCII letters. The expressions take more: decimal digits of any
script, the long s for the `s` of `https`, and any character but a line feed in second place after
the separator of an address.

Main statement: by `StringFormat.conforms_iff_of_detect` these are the only ways in which a text
with a format departs from the standard.
-/

namespace JsonShape

namespace StringFormat

/-! ### What the standards say -/

/-- What the standards that the formats are named for ask of a text. -/
def Conforms : StringFormat → List Char → Prop
  | date, text | dateTime, text => ∀ c ∈ text, c.toNat < 128
  | uri, text =>
    (∀ c ∈ text, Unicode.isWhiteSpace c = false)
      ∧ ∃ start ∈ ["http://", "https://", "ftp://"], start.toList <+: text.map Char.toLower
  | email, _ | uuid, _ => True

/-- None of the characters that only the expressions take: the digits are those of ASCII, no scheme
is written with a long s, and the second character after its separator is not white space. -/
def Plain : StringFormat → List Char → Prop
  | date, text | dateTime, text =>
    ∀ c ∈ text, Unicode.isDecimalDigit c = true → c.isDigit = true
  | uri, text =>
    ∃ scheme first second rest, text = scheme ++ "://".toList ++ first :: second :: rest
      ∧ ':' ∉ scheme ∧ 'ſ' ∉ scheme ∧ Unicode.isWhiteSpace second = false
  | email, _ | uuid, _ => True

variable {text scheme : List Char} {c : Char}

/-! ### Dates and times -/

theorem isDigit_of_isDecimalDigit (hascii : c.toNat < 128)
    (h : Unicode.isDecimalDigit c = true) : c.isDigit = true := by
  -- the characters of ASCII one by one
  have hall : ∀ n < 128, Unicode.isDecimalDigit (Char.ofNat n) = true →
      (Char.ofNat n).isDigit = true := by decide +kernel
  have hc := hall c.toNat hascii
  rw [Char.ofNat_toNat] at hc
  exact hc h

theorem toNat_lt_of_isDigit (h : c.isDigit = true) : c.toNat < 128 := by
  have hle : c.toNat ≤ 57 := (Bool.and_eq_true_iff.mp h).2 |> of_decide_eq_true
  omega

/-- In ASCII, or a decimal digit of some script. -/
def AsciiOrDigit (c : Char) : Prop := c.toNat < 128 ∨ Unicode.isDecimalDigit c = true

/-- The characters of a form in ASCII are in ASCII, but for decimal digits. -/
theorem asciiOrDigit_of_hasForm {form : String} (hform : ∀ x ∈ form.toList, x.toNat < 128)
    (h : HasForm form text) : ∀ c ∈ text, AsciiOrDigit c := by
  unfold HasForm at h
  generalize form.toList = places at hform h
  induction h with
  | nil => exact fun c hc => absurd hc List.not_mem_nil
  | @cons place c places text htakes _ ih =>
    obtain ⟨hplace, hrest⟩ := List.forall_mem_cons.mp hform
    refine List.forall_mem_cons.mpr ⟨?_, ih hrest⟩
    unfold Takes at htakes
    split at htakes
    · exact .inr htakes
    · rw [AsciiClass.contains_xdigit_iff] at htakes
      exact .inl (by omega)
    · exact .inl (htakes ▸ hplace)

theorem asciiOrDigit_of_isFraction (h : IsFraction text) : ∀ c ∈ text, AsciiOrDigit c := by
  obtain ⟨digits, -, hdigits, rfl⟩ := h
  exact List.forall_mem_cons.mpr ⟨.inl (by decide), fun c hc => .inr (hdigits c hc)⟩

theorem asciiOrDigit_of_isOffset (h : IsOffset text) : ∀ c ∈ text, AsciiOrDigit c := by
  rcases h with h | h | h
  · exact asciiOrDigit_of_hasForm (by simp) h
  · exact asciiOrDigit_of_hasForm (by simp) h
  · exact asciiOrDigit_of_hasForm (by simp) h

theorem asciiOrDigit_of_dateTime (h : dateTime.Describes text) : ∀ c ∈ text, AsciiOrDigit c := by
  obtain ⟨time, fraction, offset, rfl, htime, hfraction, hoffset⟩ := h
  rw [List.forall_mem_append, List.forall_mem_append]
  refine ⟨⟨asciiOrDigit_of_hasForm (by simp) htime, ?_⟩, ?_⟩
  · rcases hfraction with rfl | hfraction
    · exact fun c hc => absurd hc List.not_mem_nil
    · exact asciiOrDigit_of_isFraction hfraction
  · rcases hoffset with rfl | hoffset
    · exact fun c hc => absurd hc List.not_mem_nil
    · exact asciiOrDigit_of_isOffset hoffset

/-- Where only digits can be beyond ASCII, a text is in ASCII if its digits are. -/
theorem ascii_iff (h : ∀ c ∈ text, AsciiOrDigit c) : (∀ c ∈ text, c.toNat < 128) ↔
    ∀ c ∈ text, Unicode.isDecimalDigit c = true → c.isDigit = true := by
  refine forall₂_congr fun c hc => ?_
  constructor
  · exact isDigit_of_isDecimalDigit
  · exact fun hdigit => (h c hc).elim id fun hc => toNat_lt_of_isDigit (hdigit hc)

/-! ### Addresses -/

/-- The names of the schemes. -/
def schemeNames : List String := ["http", "https", "ftp"]

/-- The letters of the schemes are none of those with white space among their variants, nor `k`. -/
theorem schemeLetters : ∀ letter ∈ "fhpst".toList, letter ≠ 'k' ∧ letter.toLower = letter
    ∧ letter.toUpper.toLower = letter ∧ Unicode.isWhiteSpace letter = false
    ∧ Unicode.isWhiteSpace letter.toUpper = false :=
  List.all_iff_forall_prop.mp (by decide)

theorem schemeChar {letter : Char} (hletter : letter ∈ "fhpst".toList)
    (h : Unicode.FoldsTo letter c) :
    (Unicode.isWhiteSpace c = false ∧ c.toLower ≠ ':') ∧ (c = 'ſ' ∨ c.toLower = letter) := by
  -- what folds to the letter is the letter, its capital, the long s, or the sign for kelvin
  obtain ⟨hk, hlower, hupper, hspace, hspaceUpper⟩ := schemeLetters letter hletter
  have hcolon : letter ≠ ':' := by
    rintro rfl
    exact absurd hletter (by decide)
  rcases h with rfl | rfl | ⟨-, rfl⟩ | ⟨rfl, -⟩
  · exact ⟨⟨hspace, by rwa [hlower]⟩, .inr hlower⟩
  · exact ⟨⟨hspaceUpper, by rwa [hupper]⟩, .inr hupper⟩
  · exact ⟨by decide, .inl rfl⟩
  · exact absurd rfl hk

/-- A scheme has neither white space nor a colon, and without a long s its letters are those of its
name up to the case of ASCII letters. -/
theorem scheme_spec {name : String} (hname : name ∈ schemeNames) (h : SameUpToCase name scheme) :
    (∀ c ∈ scheme, Unicode.isWhiteSpace c = false ∧ c.toLower ≠ ':')
      ∧ ('ſ' ∉ scheme → scheme.map Char.toLower = name.toList) := by
  have hletters : name.toList ⊆ "fhpst".toList :=
    (by decide : ∀ name ∈ schemeNames, name.toList ⊆ "fhpst".toList) name hname
  unfold SameUpToCase at h
  generalize name.toList = letters at h hletters
  induction h with
  | nil => exact ⟨fun c hc => absurd hc List.not_mem_nil, fun _ => rfl⟩
  | @cons letter c letters scheme hfolds _ ih =>
    obtain ⟨hletter, hrest⟩ := List.forall_mem_cons.mp hletters
    obtain ⟨hchar, hlower⟩ := schemeChar hletter hfolds
    obtain ⟨hchars, hmap⟩ := ih hrest
    refine ⟨List.forall_mem_cons.mpr ⟨hchar, hchars⟩, fun hlong => ?_⟩
    obtain ⟨hhead, htail⟩ := not_or.mp (List.mem_cons.not.mp hlong)
    rw [List.map_cons, hmap htail, hlower.resolve_left (Ne.symm hhead)]

/-- What stands before the first colon of a text is determined, and so is what follows it. -/
theorem eq_of_colon {before other after rest : List Char} (hbefore : ':' ∉ before)
    (hother : ':' ∉ other) (h : before ++ ':' :: after = other ++ ':' :: rest) :
    before = other ∧ after = rest := by
  have hsplit := congrArg (List.splitOn ':') h
  rw [List.splitOn_append_cons_self_of_not_mem hbefore,
    List.splitOn_append_cons_self_of_not_mem hother] at hsplit
  obtain rfl := (List.cons.inj hsplit).1
  exact ⟨rfl, (List.cons.inj (List.append_cancel_left h)).2⟩

variable {start name : String} {rest : List Char}

/-- The name of the scheme that a text begins with is that of what stands before its colon. -/
theorem map_toLower_of_start (hcolon : ':' ∉ scheme.map Char.toLower)
    (hstart : start ∈ ["http://", "https://", "ftp://"])
    (h : start.toList <+: (scheme ++ ':' :: rest).map Char.toLower) :
    ∃ name ∈ schemeNames, scheme.map Char.toLower = name.toList := by
  obtain ⟨name, hname, hsplit⟩ :
      ∃ name ∈ schemeNames, start.toList = name.toList ++ "://".toList := by
    simp only [List.mem_cons, List.not_mem_nil, or_false] at hstart
    rcases hstart with rfl | rfl | rfl
    · exact ⟨"http", by decide, by decide⟩
    · exact ⟨"https", by decide, by decide⟩
    · exact ⟨"ftp", by decide, by decide⟩
  have hnameColon : ':' ∉ name.toList :=
    (by decide : ∀ name ∈ schemeNames, ':' ∉ name.toList) name hname
  obtain ⟨tail, htail⟩ := h
  rw [hsplit, List.map_append, List.append_assoc] at htail
  exact ⟨name, hname, (eq_of_colon hnameColon hcolon htail).1.symm⟩

theorem start_of_map_toLower (hname : name ∈ schemeNames)
    (h : scheme.map Char.toLower = name.toList) :
    ∃ start ∈ ["http://", "https://", "ftp://"],
      start.toList <+: (scheme ++ "://".toList ++ rest).map Char.toLower := by
  have hstart : ∀ name ∈ schemeNames, name ++ "://" ∈ ["http://", "https://", "ftp://"] := by decide
  refine ⟨name ++ "://", hstart name hname, rest.map Char.toLower, ?_⟩
  rw [List.map_append, List.map_append, h, String.toList_append]
  rfl

/-- An address is one of the standard exactly if it has no long s in its scheme and no white space
in second place after the separator. -/
theorem conforms_uri_iff (h : uri.Describes text) :
    uri.Conforms text ↔ uri.Plain text := by
  obtain ⟨scheme, first, second, rest, rfl, hscheme, hfirst, -, -, hrest⟩ := h
  -- the three schemes are treated alike from here on
  obtain ⟨name, hname, hfolds⟩ : ∃ name ∈ schemeNames, SameUpToCase name scheme := by
    rcases hscheme with h | h | h
    · exact ⟨"http", by decide, h⟩
    · exact ⟨"https", by decide, h⟩
    · exact ⟨"ftp", by decide, h⟩
  obtain ⟨hchars, hlower⟩ := scheme_spec hname hfolds
  have hcolonLower : ':' ∉ scheme.map Char.toLower := by
    rw [List.mem_map]
    rintro ⟨c, hc, heq⟩
    exact (hchars c hc).2 heq
  have hcolon : ':' ∉ scheme := fun h => (hchars ':' h).2 (by decide)
  constructor
  · rintro ⟨hspace, start, hstart, hbegins⟩
    rw [List.append_assoc] at hbegins
    obtain ⟨found, hfound, heq⟩ := map_toLower_of_start hcolonLower hstart hbegins
    refine ⟨scheme, first, second, rest, rfl, hcolon, fun hlong => ?_, hspace second (by simp)⟩
    -- the long s has no other case in ASCII, so it would stand in the name
    have hmem : 'ſ'.toLower ∈ found.toList := heq ▸ List.mem_map_of_mem hlong
    exact (by decide : ∀ name ∈ schemeNames, 'ſ'.toLower ∉ name.toList) found hfound hmem
  · rintro ⟨other, first', second', rest', heq, hother, hlong, hsecond⟩
    rw [List.append_assoc, List.append_assoc] at heq
    obtain ⟨rfl, htail⟩ := eq_of_colon hcolon hother heq
    have htail : '/' :: '/' :: first :: second :: rest = '/' :: '/' :: first' :: second' :: rest' :=
      htail
    simp only [List.cons.injEq, true_and] at htail
    obtain ⟨rfl, rfl, rfl⟩ := htail
    have hseparator : ∀ c ∈ "://".toList, Unicode.isWhiteSpace c = false :=
      List.all_iff_forall_prop.mp (by decide)
    refine ⟨?_, start_of_map_toLower hname (hlower hlong)⟩
    simp only [List.forall_mem_append, List.forall_mem_cons]
    exact ⟨⟨fun c hc => (hchars c hc).1, hseparator⟩, hfirst, hsecond, hrest⟩

/-! ### What is detected -/

theorem describes_of_detect {text : String} {format : StringFormat}
    (h : detect text = some format) : format.Describes text.toList := by
  have hfound := List.find?_some h
  exact (isFoundIn_regex format).mp hfound

/-- A text with a format is one of the standard exactly if it is plainly written: a date or time if
its digits are those of ASCII, and an address if its scheme is spelled without a long s and the
second character after the separator is not white space. -/
theorem conforms_iff_of_detect (text : String) (format : StringFormat)
    (h : detect text = some format) : format.Conforms text.toList ↔ format.Plain text.toList := by
  have hdescribes := describes_of_detect h
  cases format with
  | date => exact ascii_iff (asciiOrDigit_of_hasForm (by simp) hdescribes)
  | dateTime => exact ascii_iff (asciiOrDigit_of_dateTime hdescribes)
  | email => exact Iff.rfl
  | uuid => exact Iff.rfl
  | uri => exact conforms_uri_iff hdescribes

theorem conforms_of_detect_address :
    detect "FTP://a.b/c" = some uri ∧ uri.Conforms "FTP://a.b/c".toList := by
  have hdetect : detect "FTP://a.b/c" = some uri := by decide +kernel
  refine ⟨hdetect, (conforms_iff_of_detect _ uri hdetect).mpr ?_⟩
  exact ⟨"FTP".toList, 'a', '.', "b/c".toList, by decide, by decide, by decide, by decide⟩

/-- A blank in second place after the separator, a scheme with a long s and digits of another script
are taken for an address and for a date. -/
theorem not_conforms_of_detect :
    (detect "http://a b" = some uri ∧ ¬ uri.Conforms "http://a b".toList)
      ∧ (detect "httpſ://ab" = some uri ∧ ¬ uri.Conforms "httpſ://ab".toList)
      ∧ detect "２０２４-０１-１５" = some date ∧ ¬ date.Conforms "２０２４-０１-１５".toList := by
  refine ⟨⟨by decide +kernel, fun h => ?_⟩, ⟨by decide +kernel, fun h => ?_⟩, by decide +kernel,
    fun h => ?_⟩
  · exact absurd (h.1 ' ' (by decide)) (by decide)
  · exact absurd h.2 (by decide)
  · exact absurd (h '２' (by decide)) (by decide)

end StringFormat

end JsonShape
