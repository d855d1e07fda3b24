import JsonShape.Inference.Format
import JsonShape.Proofs.CaseVariants
import JsonShape.Proofs.Words

/-!
# The format of a string

What the texts of a format look like is said without expressions (`StringFormat.Describes`): a date
and an identifier have a fixed form, the others are put together from parts of which some may be
missing. The expression of a format is found in its texts and in no others
(`StringFormat.isFoundIn_regex`).

Main statement: by `StringFormat.detect_first` the format of a text is the first one whose texts it
is among, in the order date, time, mail address, identifier, address; and it has none only if it is
among the texts of none.
-/

namespace JsonShape

namespace StringFormat

/-! ### Texts of a format -/

/-- A place of a form takes a character: `d` is for a decimal digit of any script, `h` for a
hexadecimal digit, and any other character for itself. -/
def Takes : Char → Char → Prop
  | 'd', c => Unicode.isDecimalDigit c = true
  | 'h', c => AsciiClass.xdigit.contains c = true
  | place, c => c = place

/-- A text has a form, character by character. -/
def HasForm (form : String) (text : List Char) : Prop := List.Forall₂ Takes form.toList text

/-- A point and decimal digits. -/
def IsFraction (text : List Char) : Prop :=
  ∃ digits, digits ≠ [] ∧ (∀ c ∈ digits, Unicode.isDecimalDigit c = true) ∧ text = '.' :: digits

/-- The letter of the universal time, or a sign, hours and minutes. -/
def IsOffset (text : List Char) : Prop :=
  HasForm "Z" text ∨ HasForm "+dd:dd" text ∨ HasForm "-dd:dd" text

/-- A text is a name of small letters under simple case folding. -/
def SameUpToCase (name : String) (text : List Char) : Prop :=
  List.Forall₂ Unicode.FoldsTo name.toList text

/-- What the texts of a format look like. -/
def Describes : StringFormat → List Char → Prop
  | date, text => HasForm "dddd-dd-dd" text
  | dateTime, text =>
    ∃ time fraction offset, text = time ++ fraction ++ offset
      ∧ HasForm "dddd-dd-ddTdd:dd:dd" time
      ∧ (fraction = [] ∨ IsFraction fraction)
      ∧ (offset = [] ∨ IsOffset offset)
  | email, text =>
    ∃ user host, text = user ++ '@' :: host ∧ '@' ∉ user ∧ '@' ∉ host ∧ user ≠ []
      ∧ ∃ before after, host = before ++ '.' :: after ∧ before ≠ [] ∧ after ≠ []
  | uuid, text => HasForm "hhhhhhhh-hhhh-hhhh-hhhh-hhhhhhhhhhhh" text
  | uri, text =>
    ∃ scheme first second rest, text = scheme ++ "://".toList ++ first :: second :: rest
      ∧ (SameUpToCase "http" scheme ∨ SameUpToCase "https" scheme ∨ SameUpToCase "ftp" scheme)
      ∧ Unicode.isWhiteSpace first = false ∧ first ∉ "/$.?#".toList
      ∧ second ≠ '\n'
      ∧ ∀ c ∈ rest, Unicode.isWhiteSpace c = false

/-! ### Words of given characters -/

/-- The words whose characters are as given places say. -/
def spelled (holds : Char → Char → Prop) (places : List Char) : Language Char :=
  {word | List.Forall₂ holds places word}

variable {holds : Char → Char → Prop} {word : List Char}

theorem spelled_nil : spelled holds [] = 1 := by
  ext word
  exact List.forall₂_nil_left_iff

theorem spelled_append (places more : List Char) :
    spelled holds (places ++ more) = spelled holds places * spelled holds more := by
  ext word
  constructor
  · intro h
    -- the first part is as long as its places
    have htake := List.forall₂_take places.length h
    have hdrop := List.forall₂_drop places.length h
    rw [List.take_left] at htake
    rw [List.drop_left] at hdrop
    exact ⟨_, htake, _, hdrop, List.take_append_drop _ _⟩
  · rintro ⟨first, hfirst, second, hsecond, rfl⟩
    exact List.rel_append hfirst hsecond

theorem spelled_cons (place : Char) (rest : List Char) :
    spelled holds (place :: rest) = spelled holds [place] * spelled holds rest :=
  spelled_append [place] rest

theorem spelled_replicate (place : Char) (count : Nat) :
    spelled holds (List.replicate count place) = spelled holds [place] ^ count := by
  induction count with
  | zero => exact spelled_nil
  | succ count ih => rw [List.replicate_succ', spelled_append, ih, pow_succ]

theorem mem_spelled_singleton {place : Char} :
    word ∈ spelled holds [place] ↔ ∃ c, holds place c ∧ word = [c] := by
  constructor
  · rintro (_ | ⟨hc, _ | _⟩)
    exact ⟨_, hc, rfl⟩
  · rintro ⟨c, hc, rfl⟩
    exact .cons hc .nil

theorem mem_spelled_eq {places : List Char} : word ∈ spelled (· = ·) places ↔ word = places := by
  rw [spelled, List.forall₂_eq_eq_eq]
  exact eq_comm

theorem language_set {mode : CharMode} {chars : CharSet} {place : Char}
    (h : ∀ c, chars.contains mode c = true ↔ holds place c) :
    (Regex.set mode chars).language = spelled holds [place] := by
  ext word
  rw [mem_spelled_singleton]
  exact exists_congr fun c => and_congr_left fun _ => h c

theorem language_literal {mode : CharMode} {text : String}
    (h : ∀ x ∈ text.toList, ∀ c, (CharSet.single x).contains mode c = true ↔ holds x c) :
    (literal mode text).language = spelled holds text.toList := by
  rw [literal]
  -- a text is no list to do an induction on
  generalize text.toList = places at h
  induction places with
  | nil => exact spelled_nil.symm
  | cons place rest ih =>
    obtain ⟨hplace, hrest⟩ := List.forall_mem_cons.mp h
    rw [List.map_cons, Regex.language_sequence_cons, ih hrest, language_set hplace, ← spelled_cons]

/-! ### Parts of the expressions -/

/-- The words of a form. -/
def formed (form : String) : Language Char := spelled Takes form.toList

theorem takes_iff {place c : Char} (hdigit : place ≠ 'd') (hhex : place ≠ 'h') :
    Takes place c ↔ c = place := by
  unfold Takes
  split
  · exact absurd rfl hdigit
  · exact absurd rfl hhex
  · exact Iff.rfl

theorem mem_language_literal_exact {text : String} :
    word ∈ (literal exact text).language ↔ word = text.toList := by
  have hspelled : (literal exact text).language = spelled (· = ·) text.toList :=
    language_literal fun _ _ _ => (CharSet.contains_single_of_exact rfl).trans eq_comm
  rw [hspelled, mem_spelled_eq]

theorem language_literal_exact {text : String}
    (h : ∀ x ∈ text.toList, x ≠ 'd' ∧ x ≠ 'h') : (literal exact text).language = formed text :=
  language_literal fun x hx _ =>
    (CharSet.contains_single_of_exact rfl).trans (takes_iff (h x hx).1 (h x hx).2).symm

theorem language_digits (count : Nat) :
    (digits count).language = spelled Takes (List.replicate count 'd') := by
  rw [digits, Regex.language_rep_exactly, spelled_replicate]
  congr 1
  exact language_set fun c => Iff.rfl

theorem language_hexDigits (count : Nat) :
    (hexDigits count).language = spelled Takes (List.replicate count 'h') := by
  rw [hexDigits, Regex.language_rep_exactly, spelled_replicate]
  congr 1
  exact language_set fun c => by rw [CharSet.contains_hexDigits rfl rfl]; rfl

theorem language_day : day.language = formed "dddd-dd-dd" := by
  have hdash : (literal exact "-").language = formed "-" := language_literal_exact (by simp)
  simp only [day, Regex.language_sequence_cons, Regex.language_sequence_nil, mul_one,
    language_digits, hdash, formed, ← spelled_append]
  rfl

theorem language_clock : clock.language = formed "dd:dd" := by
  have hcolon : (literal exact ":").language = formed ":" := language_literal_exact (by simp)
  simp only [clock, Regex.language_sequence_cons, Regex.language_sequence_nil, mul_one,
    language_digits, hcolon, formed, ← spelled_append]
  rfl

theorem mem_language_fraction : word ∈ fraction.language ↔ IsFraction word := by
  rw [fraction, Regex.language_sequence_cons, Regex.language_sequence_cons,
    Regex.language_sequence_nil, mul_one]
  simp only [Language.mem_mul, mem_language_literal_exact, oneOrMore, Regex.mem_language_rep_set]
  constructor
  · rintro ⟨_, rfl, digits, ⟨hlength, hall⟩, rfl⟩
    exact ⟨digits, List.ne_nil_of_length_pos hlength, hall, rfl⟩
  · rintro ⟨digits, hne, hall, rfl⟩
    exact ⟨_, rfl, digits, ⟨List.length_pos_of_ne_nil hne, hall⟩, rfl⟩

theorem mem_language_offset : word ∈ offset.language ↔ IsOffset word := by
  have hzulu : (literal exact "Z").language = formed "Z" := language_literal_exact (by simp)
  have hsign : (Regex.set exact (.union (.single '+') (.single '-'))).language =
      formed "+" + formed "-" := by
    rw [Regex.language_union]
    congr 1
    · exact language_set fun c => CharSet.contains_single_of_exact rfl
    · exact language_set fun c => CharSet.contains_single_of_exact rfl
  -- the choice of signs is a choice of forms
  have hoffset : offset.language = formed "Z" + (formed "+dd:dd" + formed "-dd:dd") := by
    rw [offset, Regex.language_choice_pair, hzulu, Regex.language_sequence_cons,
      Regex.language_sequence_cons, Regex.language_sequence_nil, mul_one, hsign, language_clock,
      add_mul]
    simp only [formed, ← spelled_append]
    rfl
  rw [hoffset]
  rfl

theorem mem_language_mailPart : word ∈ mailPart.language ↔ word ≠ [] ∧ '@' ∉ word := by
  rw [mailPart, oneOrMore, Regex.mem_language_rep_set, Nat.one_le_iff_ne_zero, Ne,
    List.length_eq_zero_iff]
  refine and_congr_right fun _ => ?_
  have hcontains (c : Char) :
      (CharSet.complement (.single '@')).contains exact c = true ↔ c ≠ '@' := by
    rw [CharSet.contains, Bool.not_eq_true', ← Bool.not_eq_true,
      CharSet.contains_single_of_exact rfl]
  simp only [hcontains]
  exact ⟨fun h hat => h _ hat rfl, fun h c hc heq => h (heq ▸ hc)⟩

theorem mem_language_host :
    word ∈ (Regex.sequence [mailPart, literal exact ".", mailPart]).language ↔
      '@' ∉ word ∧ ∃ before after, word = before ++ '.' :: after ∧ before ≠ [] ∧ after ≠ [] := by
  rw [Regex.language_sequence_cons, Regex.language_sequence_cons, Regex.language_sequence_cons,
    Regex.language_sequence_nil, mul_one]
  simp only [Language.mem_mul, mem_language_mailPart, mem_language_literal_exact]
  constructor
  · rintro ⟨before, ⟨hbefore, hatBefore⟩, _, ⟨_, rfl, after, ⟨hafter, hatAfter⟩, rfl⟩, rfl⟩
    exact ⟨by simp [hatBefore, hatAfter], before, after, rfl, hbefore, hafter⟩
  · rintro ⟨hat, before, after, rfl, hbefore, hafter⟩
    simp only [List.mem_append, List.mem_cons, not_or] at hat
    exact ⟨before, ⟨hbefore, hat.1⟩, _, ⟨_, rfl, after, ⟨hafter, hat.2.2⟩, rfl⟩, rfl⟩

/-- Without regard to case, an ASCII character that is no letter stands for itself. -/
theorem contains_caseless_symbol {x c : Char} (hascii : x.toNat < 128)
    (hletter : x.isAlpha = false) : (CharSet.single x).contains caseless c = true ↔ c = x := by
  rw [CharSet.contains_single_of_caseless rfl rfl, Unicode.mem_caseVariants_iff hascii hletter]

theorem language_literal_caseless {name : String}
    (h : ∀ x ∈ name.toList, 97 ≤ x.toNat ∧ x.toNat ≤ 122) :
    (literal caseless name).language = spelled Unicode.FoldsTo name.toList :=
  language_literal fun x hx _ => (CharSet.contains_single_of_caseless rfl rfl).trans
    (Unicode.letter_mem_caseVariants_iff (h x hx).1 (h x hx).2)

theorem mem_language_separator :
    word ∈ (literal caseless "://").language ↔ word = "://".toList := by
  have hsymbols : ∀ x ∈ "://".toList, x.toNat < 128 ∧ x.isAlpha = false := by simp
  have hspelled : (literal caseless "://").language = spelled (· = ·) "://".toList :=
    language_literal fun x hx c =>
      (contains_caseless_symbol (hsymbols x hx).1 (hsymbols x hx).2).trans eq_comm
  rw [hspelled, mem_spelled_eq]

theorem mem_language_scheme : word ∈ scheme.language ↔
    SameUpToCase "http" word ∨ SameUpToCase "https" word ∨ SameUpToCase "ftp" word := by
  have hhttp := @language_literal_caseless "http" (by simp)
  have hs := @language_literal_caseless "s" (by simp)
  have hftp := @language_literal_caseless "ftp" (by simp)
  rw [scheme, Regex.language_choice_pair, Regex.language_sequence_cons,
    Regex.language_sequence_cons, Regex.language_sequence_nil, mul_one, optional,
    Regex.language_rep_optional, mul_add, mul_one, hhttp, hs, hftp, ← spelled_append]
  exact or_assoc

theorem contains_hostStart {c : Char} :
    CharSet.contains caseless c
      (.complement
        (.union (.union (.union (.union (.union (.shorthand .space) (.single '/')) (.single '$'))
          (.single '.')) (.single '?')) (.single '#'))) = true ↔
      Unicode.isWhiteSpace c = false ∧ c ∉ "/$.?#".toList := by
  have hsymbols : ∀ x ∈ "/$.?#".toList, x.toNat < 128 ∧ x.isAlpha = false := by simp
  have hsingle (x : Char) (hx : x ∈ "/$.?#".toList) :
      (CharSet.single x).contains caseless c = (c == x) := by
    rw [Bool.eq_iff_iff, contains_caseless_symbol (hsymbols x hx).1 (hsymbols x hx).2, beq_iff_eq]
  have hspace : Shorthand.space.contains caseless.unicode c = Unicode.isWhiteSpace c := rfl
  simp only [CharSet.contains]
  rw [hspace, hsingle '/' (by decide), hsingle '$' (by decide), hsingle '.' (by decide),
    hsingle '?' (by decide), hsingle '#' (by decide)]
  show _ ↔ _ ∧ c ∉ ['/', '$', '.', '?', '#']
  simp [and_assoc]

theorem contains_noBreak {c : Char} :
    CharSet.contains caseless c (.complement (.single '\n')) = true ↔ c ≠ '\n' := by
  rw [CharSet.contains, Bool.not_eq_true', ← Bool.not_eq_true,
    contains_caseless_symbol (by decide) (by decide)]

theorem contains_noSpace {c : Char} :
    CharSet.contains caseless c (.complement (.shorthand .space)) = true ↔
      Unicode.isWhiteSpace c = false := by
  rw [CharSet.contains, Bool.not_eq_true']
  rfl

/-- What follows a scheme and its separator. -/
theorem mem_language_address :
    word ∈ (Regex.sequence [hostStart, .set caseless (.complement (.single '\n')),
      .rep 0 none (.set caseless (.complement (.shorthand .space)))]).language ↔
      ∃ first second rest, word = first :: second :: rest
        ∧ Unicode.isWhiteSpace first = false ∧ first ∉ "/$.?#".toList
        ∧ second ≠ '\n'
        ∧ ∀ c ∈ rest, Unicode.isWhiteSpace c = false := by
  rw [Regex.language_sequence_cons, Regex.language_sequence_cons, Regex.language_sequence_cons,
    Regex.language_sequence_nil, mul_one, hostStart]
  simp only [Language.mem_mul, Regex.mem_language_set, Regex.mem_language_rep_set,
    contains_hostStart, contains_noBreak, contains_noSpace]
  constructor
  · rintro ⟨_, ⟨first, ⟨hspace, hsymbol⟩, rfl⟩, _,
      ⟨_, ⟨second, hbreak, rfl⟩, rest, ⟨-, hrest⟩, rfl⟩, rfl⟩
    exact ⟨first, second, rest, rfl, hspace, hsymbol, hbreak, hrest⟩
  · rintro ⟨first, second, rest, rfl, hspace, hsymbol, hbreak, hrest⟩
    exact ⟨_, ⟨first, ⟨hspace, hsymbol⟩, rfl⟩, _,
      ⟨_, ⟨second, hbreak, rfl⟩, rest, ⟨Nat.zero_le _, hrest⟩, rfl⟩, rfl⟩

/-! ### Texts in which an expression is found -/

theorem anchorFree_literal (mode : CharMode) (text : String) :
    (literal mode text).AnchorFree := by
  rw [literal, Regex.anchorFree_sequence, List.forall_mem_map]
  exact fun _ _ => trivial

theorem anchorFree_day : day.AnchorFree := by
  simp [day, Regex.anchorFree_sequence, anchorFree_literal, digits, Regex.AnchorFree]

theorem anchorFree_clock : clock.AnchorFree := by
  simp [clock, Regex.anchorFree_sequence, anchorFree_literal, digits, Regex.AnchorFree]

variable {text : String}

theorem isFoundIn_date : date.regex.isFoundIn text = true ↔ date.Describes text.toList := by
  rw [regex, anchored, Regex.isFoundIn_anchored (by simp [anchorFree_day]),
    Regex.language_sequence_cons, Regex.language_sequence_nil, mul_one, language_day]
  rfl

theorem isFoundIn_dateTime :
    dateTime.regex.isFoundIn text = true ↔ dateTime.Describes text.toList := by
  have hletter : (literal exact "T").language = formed "T" := language_literal_exact (by simp)
  have hcolon : (literal exact ":").language = formed ":" := language_literal_exact (by simp)
  -- the parts up to the seconds are one form
  have htime : formed "dddd-dd-dd" * (formed "T" * (formed "dd:dd" * (formed ":" *
      spelled Takes (List.replicate 2 'd')))) = formed "dddd-dd-ddTdd:dd:dd" := by
    simp only [formed, ← spelled_append]
    rfl
  rw [regex, anchored, Regex.isFoundIn_anchored]
  · simp only [Regex.language_sequence_cons, Regex.language_sequence_nil, mul_one, language_day,
      language_clock, language_digits, hletter, hcolon, optional, Regex.language_rep_optional]
    simp only [← mul_assoc] at htime ⊢
    rw [htime]
    simp only [Language.mem_mul, Language.mem_add, Language.mem_one, mem_language_fraction,
      mem_language_offset]
    constructor
    · rintro ⟨_, ⟨time, htime, fraction, hfraction, rfl⟩, offset, hoffset, h⟩
      exact ⟨time, fraction, offset, h.symm, htime, hfraction, hoffset⟩
    · rintro ⟨time, fraction, offset, h, htime, hfraction, hoffset⟩
      exact ⟨_, ⟨time, htime, fraction, hfraction, rfl⟩, offset, hoffset, h.symm⟩
  · simp [anchorFree_day, anchorFree_clock, anchorFree_literal, digits, optional, fraction,
      offset, oneOrMore, Regex.anchorFree_sequence, Regex.choice, Regex.AnchorFree]

theorem isFoundIn_email : email.regex.isFoundIn text = true ↔ email.Describes text.toList := by
  rw [regex, anchored, Regex.isFoundIn_anchored]
  · rw [Regex.language_sequence_cons, Regex.language_sequence_cons]
    simp only [Language.mem_mul, mem_language_mailPart, mem_language_literal_exact,
      mem_language_host]
    constructor
    · rintro ⟨user, ⟨huser, hat⟩, _, ⟨_, rfl, host, ⟨hatHost, hhost⟩, rfl⟩, h⟩
      exact ⟨user, host, h.symm, hat, hatHost, huser, hhost⟩
    · rintro ⟨user, host, h, hat, hatHost, huser, hhost⟩
      exact ⟨user, ⟨huser, hat⟩, _, ⟨_, rfl, host, ⟨hatHost, hhost⟩, rfl⟩, h.symm⟩
  · simp [anchorFree_literal, mailPart, oneOrMore, Regex.AnchorFree]

theorem isFoundIn_uuid : uuid.regex.isFoundIn text = true ↔ uuid.Describes text.toList := by
  -- the hyphens have no case
  have hdash : (literal caseless "-").language = formed "-" :=
    language_literal fun x hx _ => by
      obtain rfl : x = '-' := by simpa using hx
      exact (contains_caseless_symbol (by decide) (by decide)).trans
        (takes_iff (by decide) (by decide)).symm
  rw [regex, anchored, Regex.isFoundIn_anchored]
  · simp only [Regex.language_sequence_cons, Regex.language_sequence_nil, mul_one, hdash,
      language_hexDigits, formed, ← spelled_append]
    rfl
  · simp [anchorFree_literal, hexDigits, Regex.AnchorFree]

theorem isFoundIn_uri : uri.regex.isFoundIn text = true ↔ uri.Describes text.toList := by
  rw [regex, anchored, Regex.isFoundIn_anchored]
  · rw [Regex.language_sequence_cons, Regex.language_sequence_cons]
    simp only [Language.mem_mul, mem_language_scheme, mem_language_separator,
      mem_language_address]
    constructor
    · rintro ⟨scheme, hscheme, _, ⟨_, rfl, _, ⟨first, second, rest, rfl, hparts⟩, rfl⟩, h⟩
      exact ⟨scheme, first, second, rest, by simpa using h.symm, hscheme, hparts⟩
    · rintro ⟨scheme, first, second, rest, h, hscheme, hparts⟩
      exact ⟨scheme, hscheme, _, ⟨_, rfl, _, ⟨first, second, rest, rfl, hparts⟩, rfl⟩,
        by simpa using h.symm⟩
  · simp [anchorFree_literal, scheme, hostStart, optional, Regex.anchorFree_sequence, Regex.choice,
      Regex.AnchorFree]

/-- The expression of a format is found in the texts of the format. -/
theorem isFoundIn_regex (format : StringFormat) :
    format.regex.isFoundIn text = true ↔ format.Describes text.toList := by
  cases format with
  | date => exact isFoundIn_date
  | dateTime => exact isFoundIn_dateTime
  | email => exact isFoundIn_email
  | uuid => exact isFoundIn_uuid
  | uri => exact isFoundIn_uri

/-- The format of a text is the first one in this order that describes it, and a text that no format
describes has none. -/
theorem detect_first (text : String) :
    (∀ format, detect text = some format ↔
      format.Describes text.toList
        ∧ ∃ before after, [date, dateTime, email, uuid, uri] = before ++ format :: after
          ∧ ∀ earlier ∈ before, ¬ earlier.Describes text.toList)
      ∧ (detect text = none ↔ ∀ format : StringFormat, ¬ format.Describes text.toList) := by
  constructor
  · intro format
    rw [detect, List.find?_eq_some_iff_append]
    simp only [isFoundIn_regex, Bool.not_eq_true', ← Bool.not_eq_true]
    rfl
  · rw [detect, List.find?_eq_none]
    simp only [isFoundIn_regex]
    constructor
    · exact fun h format => h format (by cases format <;> decide)
    · exact fun h format _ => h format

end StringFormat

end JsonShape
