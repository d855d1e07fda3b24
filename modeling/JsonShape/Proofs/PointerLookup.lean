import JsonShape.Instance.Location
import Mathlib.Data.List.Basic

/-!
# Looking a key up in a text

A pointer is looked up by the key that its last segment spells, in quotes, line by line. The lines
that are searched differ from what stands between line feeds in carriage returns at their ends and
in an empty last line. Neither makes a difference to what begins and ends with a quote.

Main statement: by `Pointer.locate?_first` the place that is found is the leftmost occurrence of the
quoted key in the first line that has one, and none is found only if no line has one.
-/

namespace JsonShape

namespace Pointer

/-! ### Segments of a pointer -/

variable {first second result c : Char} {rest : List Char}

theorem replacePair_cons_of_ne (h : c ≠ first) :
    replacePair first second result (c :: rest) = c :: replacePair first second result rest := by
  cases rest with
  | nil => simp [replacePair]
  | cons d rest => rw [replacePair, if_neg fun hc => h hc.1]

theorem replacePair_pair :
    replacePair first second result (first :: second :: rest)
      = result :: replacePair first second result rest := by
  rw [replacePair, if_pos ⟨rfl, rfl⟩]

/-- The spelling of a character when slashes are restored and tildes are not. -/
def escapeTilde (c : Char) : List Char := if c = '~' then ['~', '0'] else [c]

theorem replacePair_slash (key : List Char) :
    replacePair '~' '1' '/' (key.flatMap escapeChar) = key.flatMap escapeTilde := by
  induction key with
  | nil => rfl
  | cons c key ih =>
    rw [List.flatMap_cons, List.flatMap_cons, ← ih]
    by_cases htilde : c = '~'
    · subst htilde
      -- the pair of a tilde and a zero stays, whatever follows it
      show replacePair '~' '1' '/' ('~' :: '0' :: key.flatMap escapeChar)
        = '~' :: '0' :: replacePair '~' '1' '/' (key.flatMap escapeChar)
      rw [replacePair, if_neg (by decide), replacePair_cons_of_ne (by decide)]
    · by_cases hslash : c = '/'
      · subst hslash
        exact replacePair_pair
      · have hchar : escapeChar c = [c] := by simp [escapeChar]
        rw [hchar, escapeTilde, if_neg htilde]
        exact replacePair_cons_of_ne htilde

theorem replacePair_tilde (key : List Char) :
    replacePair '~' '0' '~' (key.flatMap escapeTilde) = key := by
  induction key with
  | nil => rfl
  | cons c key ih =>
    rw [List.flatMap_cons, escapeTilde]
    split
    · next htilde =>
      subst htilde
      exact replacePair_pair.trans (congrArg _ ih)
    · next htilde => exact (replacePair_cons_of_ne htilde).trans (congrArg _ ih)

/-- Slashes are restored before tildes, so a key is read back from its spelling. -/
theorem unescape_escape (key : String) : unescape (escape key).toList = key.toList := by
  rw [unescape, escape, String.toList_ofList, replacePair_slash, replacePair_tilde]

theorem slash_not_mem_escape (key : String) : '/' ∉ (escape key).toList := by
  rw [escape, String.toList_ofList, List.mem_flatMap]
  rintro ⟨c, -, hc⟩
  unfold escapeChar at hc
  split at hc
  · simp at hc
  · simp at hc
  · next hslash => exact hslash (List.mem_singleton.mp hc).symm

theorem escape_ne_nil {key : String} (hkey : key ≠ "") : (escape key).toList ≠ [] := by
  intro hnil
  have hread := unescape_escape key
  rw [hnil] at hread
  exact hkey (String.toList_inj.mp hread.symm)

/-- The last segment of a pointer that ends in a key. -/
theorem lastSegment?_escape (start : String) {key : String} (hkey : key ≠ "") :
    lastSegment? (start ++ "/" ++ escape key) = some (escape key).toList := by
  have hpointer : (start ++ "/" ++ escape key).toList.reverse
      = (escape key).toList.reverse ++ '/' :: start.toList.reverse := by
    simp
  have hslash : ∀ c ∈ (escape key).toList.reverse, (c != '/') = true := by
    intro c hc
    rw [bne_iff_ne]
    rintro rfl
    exact slash_not_mem_escape key (List.mem_reverse.mp hc)
  have hdrop : ((escape key).toList.reverse ++ '/' :: start.toList.reverse).dropWhile (· == '/')
      = (escape key).toList.reverse ++ '/' :: start.toList.reverse := by
    cases hsegment : (escape key).toList.reverse with
    | nil => exact absurd (List.reverse_eq_nil_iff.mp hsegment) (escape_ne_nil hkey)
    | cons c segment =>
      have hc : c ≠ '/' := bne_iff_ne.mp (hslash c (hsegment ▸ List.mem_cons_self))
      exact List.dropWhile_cons_of_neg (by simpa using hc)
  rw [lastSegment?, hpointer, hdrop, List.takeWhile_append_of_pos hslash]
  rw [List.takeWhile_cons_of_neg (by decide), List.append_nil, List.reverse_reverse]
  split
  · next hnil => exact absurd hnil (escape_ne_nil hkey)
  · rfl

/-! ### Occurrences in a line -/

/-- The leftmost occurrence of a text in a line stands after a number of characters. -/
def FirstAt (needle line : List Char) (offset : Nat) : Prop :=
  (∃ left, left ++ needle <+: line ∧ offset = left.length)
    ∧ ∀ left, left ++ needle <+: line → offset ≤ left.length

variable {needle line : List Char} {offset : Nat}

theorem firstAt_zero_iff : FirstAt needle line 0 ↔ needle <+: line := by
  constructor
  · rintro ⟨⟨left, h, hleft⟩, -⟩
    rwa [List.eq_nil_of_length_eq_zero hleft.symm] at h
  · exact fun h => ⟨⟨[], h, rfl⟩, fun _ _ => Nat.zero_le _⟩

/-- Where a line does not begin with the text, the leftmost occurrence is that in what follows. -/
theorem firstAt_succ_iff (h : ¬ needle <+: c :: line) :
    FirstAt needle (c :: line) (offset + 1) ↔ FirstAt needle line offset := by
  have hoccurs {left : List Char} (hleft : left ++ needle <+: c :: line) :
      ∃ rest, left = c :: rest ∧ rest ++ needle <+: line := by
    cases left with
    | nil => exact absurd hleft h
    | cons d rest =>
      obtain ⟨rfl, hrest⟩ := List.cons_prefix_cons.mp hleft
      exact ⟨rest, rfl, hrest⟩
  constructor
  · rintro ⟨⟨left, hleft, hoffset⟩, hleast⟩
    obtain ⟨rest, rfl, hrest⟩ := hoccurs hleft
    refine ⟨⟨rest, hrest, Nat.succ.inj hoffset⟩, fun other hother => ?_⟩
    exact Nat.le_of_succ_le_succ (hleast (c :: other) (List.cons_prefix_cons.mpr ⟨rfl, hother⟩))
  · rintro ⟨⟨left, hleft, rfl⟩, hleast⟩
    refine ⟨⟨c :: left, List.cons_prefix_cons.mpr ⟨rfl, hleft⟩, rfl⟩, fun other hother => ?_⟩
    obtain ⟨rest, rfl, hrest⟩ := hoccurs hother
    exact Nat.succ_le_succ (hleast rest hrest)

theorem firstAt_iff_eq_zero (h : needle <+: line) : FirstAt needle line offset ↔ 0 = offset := by
  constructor
  · rintro ⟨-, hleast⟩
    exact (Nat.le_zero.mp (hleast [] h)).symm
  · rintro rfl
    exact firstAt_zero_iff.mpr h

theorem offset?_eq_some_iff : offset? needle line = some offset ↔ FirstAt needle line offset := by
  induction line generalizing offset with
  | nil =>
    rw [offset?]
    split
    · next hempty =>
      rw [List.isEmpty_iff.mp hempty, firstAt_iff_eq_zero List.nil_prefix, Option.some.injEq]
    · next hempty =>
      refine iff_of_false nofun ?_
      rintro ⟨⟨left, h, -⟩, -⟩
      have hnil := List.prefix_nil.mp h
      exact hempty (List.isEmpty_iff.mpr (List.append_eq_nil_iff.mp hnil).2)
  | cons c line ih =>
    rw [offset?]
    split
    · next hprefix =>
      rw [firstAt_iff_eq_zero (List.isPrefixOf_iff_prefix.mp hprefix), Option.some.injEq]
    · next hprefix =>
      rw [List.isPrefixOf_iff_prefix] at hprefix
      cases offset with
      | zero => simp [firstAt_zero_iff, hprefix]
      | succ offset => simp [firstAt_succ_iff hprefix, ih]

theorem isSome_offset?_iff : (offset? needle line).isSome = true ↔ needle <:+: line := by
  induction line with
  | nil => simp [offset?]
  | cons c line ih =>
    rw [offset?, List.infix_cons_iff, ← ih, ← List.isPrefixOf_iff_prefix]
    split <;> simp [*]

theorem offset?_eq_none_iff : offset? needle line = none ↔ ¬ needle <:+: line := by
  rw [← isSome_offset?_iff, Bool.not_eq_true, Option.isSome_eq_false_iff, Option.isNone_iff_eq_none]

theorem exists_firstAt (h : needle <:+: line) : ∃ offset, FirstAt needle line offset := by
  obtain ⟨offset, hoffset⟩ := Option.isSome_iff_exists.mp (isSome_offset?_iff.mpr h)
  exact ⟨offset, offset?_eq_some_iff.mp hoffset⟩

/-! ### Occurrences in a list of lines -/

variable {number column : Nat} {page : List (List Char)}

theorem find?_cons_of_firstAt (h : FirstAt needle line offset) :
    find? needle number (line :: page) = some (number, offset + 1) := by
  rw [find?, offset?_eq_some_iff.mpr h]

theorem find?_cons_of_not (h : ¬ needle <:+: line) :
    find? needle number (line :: page) = find? needle (number + 1) page := by
  rw [find?, offset?_eq_none_iff.mpr h]

theorem find?_eq_some_iff {found : Nat} : find? needle number page = some (found, column) ↔
    ∃ before line after, page = before ++ line :: after
      ∧ (∀ earlier ∈ before, ¬ needle <:+: earlier)
      ∧ found = number + before.length
      ∧ ∃ offset, FirstAt needle line offset ∧ column = offset + 1 := by
  constructor
  · intro h
    induction page generalizing number with
    | nil => cases h
    | cons line page ih =>
      by_cases hline : needle <:+: line
      · obtain ⟨offset, hfirst⟩ := exists_firstAt hline
        rw [find?_cons_of_firstAt hfirst, Option.some.injEq, Prod.mk.injEq] at h
        obtain ⟨rfl, rfl⟩ := h
        exact ⟨[], line, page, rfl, by simp, rfl, offset, hfirst, rfl⟩
      · rw [find?_cons_of_not hline] at h
        obtain ⟨before, other, after, rfl, hnone, rfl, hfirst⟩ := ih h
        exact ⟨line :: before, other, after, rfl, List.forall_mem_cons.mpr ⟨hline, hnone⟩,
          by rw [List.length_cons]; omega, hfirst⟩
  · rintro ⟨before, line, after, rfl, hnone, rfl, offset, hfirst, rfl⟩
    induction before generalizing number with
    | nil => exact find?_cons_of_firstAt hfirst
    | cons other before ih =>
      obtain ⟨hother, hnone⟩ := List.forall_mem_cons.mp hnone
      rw [List.cons_append, find?_cons_of_not hother, ih hnone, List.length_cons]
      congr 2
      omega

theorem isSome_find?_iff :
    (find? needle number page).isSome = true ↔ ∃ line ∈ page, needle <:+: line := by
  induction page generalizing number with
  | nil => simp [find?]
  | cons line page ih =>
    rw [find?, List.exists_mem_cons_iff, ← isSome_offset?_iff, ← @ih (number + 1)]
    split <;> simp [*]

/-! ### Lines of a text -/

/-- A line without the carriage return that may end it. -/
def withoutReturn (line : List Char) : List Char :=
  if line.getLast? = some '\r' then line.dropLast else line

/-- What stands between the line feeds of a text, without carriage returns at the ends. -/
def rows (text : List Char) : List (List Char) := (text.splitOn '\n').map withoutReturn

/-- A line is a row and carriage returns after it. -/
def Ends (line row : List Char) : Prop :=
  ∃ returns, (∀ c ∈ returns, c = '\r') ∧ line = row ++ returns

theorem ends_cons {piece : List Char} (c : Char) (h : Ends line (withoutReturn piece)) :
    Ends (c :: line) (withoutReturn (c :: piece)) := by
  obtain ⟨returns, hreturns, rfl⟩ := h
  cases piece with
  | nil =>
    by_cases hc : c = '\r'
    · exact ⟨c :: returns, List.forall_mem_cons.mpr ⟨hc, hreturns⟩, by simp [withoutReturn, hc]⟩
    · exact ⟨returns, hreturns, by simp [withoutReturn, hc]⟩
  | cons d piece =>
    refine ⟨returns, hreturns, ?_⟩
    rw [withoutReturn, withoutReturn, List.getLast?_cons_cons]
    split <;> rfl

theorem rows_feed (text : List Char) : rows ('\n' :: text) = [] :: rows text := by
  rw [rows, List.splitOn_cons_eq_if_modifyHead, if_pos (by decide)]
  rfl

theorem rows_return_feed (text : List Char) : rows ('\r' :: '\n' :: text) = [] :: rows text := by
  rw [rows, List.splitOn_cons_eq_if_modifyHead, if_neg (by decide),
    List.splitOn_cons_eq_if_modifyHead, if_pos (by decide)]
  rfl

theorem rows_cons {c : Char} (hc : c ≠ '\n') (text : List Char) :
    ∃ piece rest, rows text = withoutReturn piece :: rest
      ∧ rows (c :: text) = withoutReturn (c :: piece) :: rest := by
  obtain ⟨piece, rest, hsplit⟩ := List.exists_cons_of_ne_nil (List.splitOn_ne_nil '\n' text)
  refine ⟨piece, rest.map withoutReturn, by rw [rows, hsplit, List.map_cons], ?_⟩
  rw [rows, List.splitOn_cons_eq_if_modifyHead, if_neg (by simpa using hc), hsplit]
  rfl

/-- The lines of a text are its rows, but for carriage returns and for an empty last row. -/
theorem ends_lines (text : List Char) :
    ∃ last, (last = [] ∨ last = [[]]) ∧ List.Forall₂ Ends (lines text ++ last) (rows text) := by
  have hnil : Ends [] [] := ⟨[], by simp, rfl⟩
  fun_induction lines text with
  | case1 => exact ⟨[[]], .inr rfl, .cons hnil .nil⟩
  | case2 text ih =>
    obtain ⟨last, hlast, h⟩ := ih
    exact ⟨last, hlast, rows_feed text ▸ .cons hnil h⟩
  | case3 text ih =>
    obtain ⟨last, hlast, h⟩ := ih
    exact ⟨last, hlast, rows_return_feed text ▸ .cons hnil h⟩
  | case4 c text hfeed _ hnone ih =>
    -- nothing is left after the character, so the only row of the rest is the empty one
    obtain ⟨last, hlast, h⟩ := ih
    obtain ⟨piece, rest, hrows, hcons⟩ := rows_cons hfeed text
    rw [hnone, hrows, List.nil_append] at h
    rw [hcons]
    rcases hlast with rfl | rfl
    · cases h
    · cases h with
      | cons hpiece hrest => exact ⟨[], .inl rfl, .cons (ends_cons c hpiece) hrest⟩
  | case5 c text hfeed _ line more hmore ih =>
    obtain ⟨last, hlast, h⟩ := ih
    obtain ⟨piece, rest, hrows, hcons⟩ := rows_cons hfeed text
    rw [hmore, hrows] at h
    rw [hcons]
    cases h with
    | cons hpiece hrest => exact ⟨last, hlast, .cons (ends_cons c hpiece) hrest⟩

/-! ### Quoted texts in lines and rows -/

/-- A key in quotes. -/
def quoted (key : List Char) : List Char := '"' :: key ++ ['"']

variable {key row : List Char}

/-- An occurrence of a quoted key ends before the carriage returns at the end of a line. -/
theorem prefix_iff_of_ends (h : Ends line row) (left : List Char) :
    left ++ quoted key <+: line ↔ left ++ quoted key <+: row := by
  obtain ⟨returns, hreturns, rfl⟩ := h
  constructor
  · rintro ⟨right, heq⟩
    rcases List.append_eq_append_iff.mp heq with ⟨front, hrow, -⟩ | ⟨front, hend, hfront⟩
    · exact ⟨front, hrow.symm⟩
    · -- the part beyond the row would end in a quote, and it consists of carriage returns
      rcases List.eq_nil_or_concat front with rfl | ⟨before, d, rfl⟩
      · exact ⟨[], by rw [List.append_nil, hend, List.append_nil]⟩
      · rw [List.concat_eq_append] at hend hfront
        have hlast : (left ++ '"' :: key) ++ ['"'] = (row ++ before) ++ [d] := by
          rw [List.append_assoc, List.append_assoc]
          exact hend
        have hquote : '"' = d := (List.cons.inj (List.append_inj' hlast rfl).2).1
        have hd : d = '\r' := hreturns d (by rw [hfront]; simp)
        exact absurd (hquote.trans hd) (by decide)
  · exact fun h => h.trans (List.prefix_append row returns)

theorem offset?_quoted_of_ends (h : Ends line row) :
    offset? (quoted key) line = offset? (quoted key) row := by
  refine Option.ext fun offset => ?_
  rw [offset?_eq_some_iff, offset?_eq_some_iff, FirstAt, FirstAt]
  simp only [prefix_iff_of_ends h]

theorem find?_quoted_of_ends {others : List (List Char)} (h : List.Forall₂ Ends page others) :
    find? (quoted key) number page = find? (quoted key) number others := by
  induction h generalizing number with
  | nil => rfl
  | cons hends _ ih =>
    rw [find?, find?, offset?_quoted_of_ends hends]
    split
    · rfl
    · exact ih

theorem find?_quoted_append_blank :
    find? (quoted key) number (page ++ [[]]) = find? (quoted key) number page := by
  induction page generalizing number with
  | nil => rfl
  | cons line page ih =>
    rw [List.cons_append, find?, find?]
    split
    · rfl
    · exact ih

/-- A quoted key is found in the lines of a text where it is found in its rows. -/
theorem find?_quoted_lines (text : List Char) :
    find? (quoted key) number (lines text) = find? (quoted key) number (rows text) := by
  obtain ⟨last, hlast, h⟩ := ends_lines text
  rw [← find?_quoted_of_ends h]
  rcases hlast with rfl | rfl
  · rw [List.append_nil]
  · exact find?_quoted_append_blank.symm

theorem locate?_escape (text start : String) {key : String} (hkey : key ≠ "") :
    locate? text (start ++ "/" ++ escape key)
      = find? (quoted key.toList) 1 (rows text.toList) := by
  rw [locate?, lastSegment?_escape start hkey]
  show find? (quoted (unescape (escape key).toList)) 1 (lines text.toList) = _
  rw [unescape_escape, find?_quoted_lines]

/-- Looking up a pointer that ends in a key finds the leftmost occurrence of the quoted key in the
first row of the text that has one. The line is the number of that row and the column that of the
first character of the occurrence, both counted from one; and a place is found exactly if some row
has the quoted key. -/
theorem locate?_first (text start key : String) (hkey : key ≠ "") :
    ((locate? text (start ++ "/" ++ escape key)).isSome = true ↔
        ∃ row ∈ rows text.toList, quoted key.toList <:+: row)
      ∧ ∀ line column, locate? text (start ++ "/" ++ escape key) = some (line, column) ↔
        ∃ before row after, rows text.toList = before ++ row :: after
          ∧ (∀ earlier ∈ before, ¬ quoted key.toList <:+: earlier)
          ∧ line = 1 + before.length
          ∧ ∃ offset, FirstAt (quoted key.toList) row offset ∧ column = offset + 1 := by
  rw [locate?_escape text start hkey]
  exact ⟨isSome_find?_iff, fun line column => find?_eq_some_iff⟩

/-- A text whose lines end in carriage returns and line feeds. -/
def nestedText : String := "\x7b\r\n  \"é\": \x7b\"~1\": 1\x7d\r\n\x7d"

theorem locate?_first_nested :
    "~1" ≠ "" ∧ locate? nestedText ("/é" ++ "/" ++ escape "~1") = some (2, 9)
      ∧ ∃ before row after, rows nestedText.toList = before ++ row :: after
        ∧ (∀ earlier ∈ before, ¬ quoted "~1".toList <:+: earlier) ∧ 2 = 1 + before.length
        ∧ ∃ offset, FirstAt (quoted "~1".toList) row offset ∧ 9 = offset + 1 := by
  have hplace : locate? nestedText ("/é" ++ "/" ++ escape "~1") = some (2, 9) := by decide
  exact ⟨by decide, hplace, ((locate?_first nestedText "/é" "~1" (by decide)).2 2 9).mp hplace⟩

end Pointer

end JsonShape
