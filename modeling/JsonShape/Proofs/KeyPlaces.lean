import JsonShape.Instance.Report
import JsonShape.Proofs.Members
import JsonShape.Proofs.PointerLookup

/-!
# Places of the keys of a value

In the indented text of a value each key stands in quotes, with some characters escaped: quotes,
backslashes and control characters. A pointer is looked up by the key as it is. So a key without
such characters is found in the text of every value that has it, and errors at it have a place.

Main statement: by `Json.located_iff_unescaped` these are the only keys for which this is so. The
text of an object with no other key has as many quotes as the key as it is would take, and more
characters between them.
-/

namespace JsonShape

namespace Json

/-! ### Keys with escaped characters -/

/-- The character is written as it is in a string. -/
def Unescaped (c : Char) : Prop := c ≠ '"' ∧ c ≠ '\\' ∧ 32 ≤ c.toNat

instance (c : Char) : Decidable (Unescaped c) :=
  inferInstanceAs (Decidable (c ≠ '"' ∧ c ≠ '\\' ∧ 32 ≤ c.toNat))

variable {c : Char} {key : List Char}

theorem escape_of_unescaped (h : Unescaped c) : escape c = [c] := by
  unfold escape
  split
  · exact absurd h (by simp [Unescaped])
  · exact absurd h (by simp [Unescaped])
  · exact absurd h.2.2 (by decide)
  · exact absurd h.2.2 (by decide)
  · exact absurd h.2.2 (by decide)
  · exact absurd h.2.2 (by decide)
  · exact absurd h.2.2 (by decide)
  · exact if_neg (Nat.not_lt.mpr h.2.2)

/-- Any other character takes more than one in a string, but no more quotes. -/
theorem escape_of_escaped (h : ¬ Unescaped c) :
    1 < (escape c).length ∧ (escape c).count '"' = [c].count '"' := by
  -- the 32 control characters one by one
  have hcontrol : ∀ n < 32, 1 < (escape (Char.ofNat n)).length
      ∧ (escape (Char.ofNat n)).count '"' = [Char.ofNat n].count '"' := by decide
  by_cases hquote : c = '"'
  · subst hquote
    decide
  by_cases hbackslash : c = '\\'
  · subst hbackslash
    decide
  have hc := hcontrol c.toNat (Nat.not_le.mp fun hle => h ⟨hquote, hbackslash, hle⟩)
  rwa [Char.ofNat_toNat] at hc

theorem count_quote_escape (key : List Char) : (key.flatMap escape).count '"' = key.count '"' := by
  induction key with
  | nil => rfl
  | cons c key ih =>
    have hc : (escape c).count '"' = [c].count '"' := by
      by_cases h : Unescaped c
      · rw [escape_of_unescaped h]
      · exact (escape_of_escaped h).2
    rw [List.flatMap_cons, List.count_append, hc, ih, ← List.count_append]
    rfl

theorem length_le_length_escape (key : List Char) : key.length ≤ (key.flatMap escape).length := by
  induction key with
  | nil => exact Nat.le_refl _
  | cons c key ih =>
    have hc : 1 ≤ (escape c).length := by
      by_cases h : Unescaped c
      · rw [escape_of_unescaped h]
        exact Nat.le_refl _
      · exact Nat.le_of_lt (escape_of_escaped h).1
    rw [List.flatMap_cons, List.length_append, List.length_cons]
    omega

/-- A key is written as it is exactly if its characters are. -/
theorem escape_eq_self_iff : key.flatMap escape = key ↔ ∀ c ∈ key, Unescaped c := by
  induction key with
  | nil => simp
  | cons c key ih =>
    rw [List.flatMap_cons, List.forall_mem_cons, ← ih]
    by_cases h : Unescaped c
    · rw [escape_of_unescaped h, List.singleton_append, List.cons.injEq]
      simp [h]
    · -- an escaped character is longer than itself, and nothing gets shorter
      refine iff_of_false (fun heq => ?_) fun hboth => h hboth.1
      have hlength := congrArg List.length heq
      have hlong := (escape_of_escaped h).1
      have hrest := length_le_length_escape key
      rw [List.length_append, List.length_cons] at hlength
      omega

theorem toList_quote (s : String) :
    (quote s).toList = Pointer.quoted (s.toList.flatMap escape) := by
  simp [quote, Pointer.quoted]

/-! ### Texts of values -/

variable {item : String} {items : List String}

theorem infix_intercalate {α : Type} {separator piece : List α} {pieces : List (List α)}
    (h : piece ∈ pieces) : piece <:+: separator.intercalate pieces := by
  induction pieces with
  | nil => cases h
  | cons first pieces ih =>
    cases pieces with
    | nil =>
      simp [List.mem_singleton.mp h]
    | cons second pieces =>
      rw [List.intercalate_cons_cons]
      rcases List.mem_cons.mp h with rfl | h
      · rw [List.append_assoc]
        exact (List.prefix_append _ _).isInfix
      · exact (ih h).trans (List.suffix_append _ _).isInfix

theorem infix_bracket {left right : String} (level : Nat) (h : item ∈ items) :
    item.toList <:+: (bracket left right level items).toList := by
  have hitems : ¬ items.isEmpty = true := by
    rw [List.isEmpty_iff]
    exact List.ne_nil_of_mem h
  rw [bracket, if_neg hitems]
  simp only [String.toList_append, String.toList_intercalate]
  exact ((infix_intercalate (List.mem_map_of_mem h)).trans (List.infix_append _ _ _)).trans
    (List.prefix_append _ _).isInfix

theorem mem_prettyElements {elements : List Json} {value : Json} (level : Nat)
    (h : value ∈ elements) : prettyAt level value ∈ prettyElements level elements := by
  induction elements with
  | nil => cases h
  | cons first elements ih =>
    rw [prettyElements]
    rcases List.mem_cons.mp h with rfl | h
    · exact List.mem_cons_self
    · exact List.mem_cons_of_mem _ (ih h)

theorem mem_prettyMembers {members : Members Json} {name : String} {value : Json} (level : Nat)
    (h : (name, value) ∈ members) :
    quote name ++ ": " ++ prettyAt level value ∈ prettyMembers level members := by
  induction members with
  | nil => cases h
  | cons first members ih =>
    rw [prettyMembers]
    rcases List.mem_cons.mp h with rfl | h
    · exact List.mem_cons_self
    · exact List.mem_cons_of_mem _ (ih h)

/-- A key is in a value: it is one of its members, or in a member or an element. -/
inductive HasKey (key : String) : Json → Prop
  | here {members value} : (key, value) ∈ members → HasKey key (object members)
  | member {members name value} : (name, value) ∈ members → HasKey key value →
      HasKey key (object members)
  | element {elements value} : value ∈ elements → HasKey key value → HasKey key (array elements)

/-- The text of a value holds all its keys, written as strings. -/
theorem infix_prettyAt {name : String} {value : Json} (h : HasKey name value) (level : Nat) :
    (quote name).toList <:+: (prettyAt level value).toList := by
  induction h generalizing level with
  | @here members value hmem =>
    rw [prettyAt]
    refine List.IsInfix.trans ?_ (infix_bracket level (mem_prettyMembers (level + 1) hmem))
    rw [String.append_assoc, String.toList_append]
    exact (List.prefix_append _ _).isInfix
  | @member members other value hmem _ ih =>
    rw [prettyAt]
    refine ((ih (level + 1)).trans ?_).trans
      (infix_bracket level (mem_prettyMembers (level + 1) hmem))
    rw [String.toList_append]
    exact (List.suffix_append _ _).isInfix
  | @element elements value hmem _ ih =>
    rw [prettyAt]
    exact (ih (level + 1)).trans (infix_bracket level (mem_prettyElements (level + 1) hmem))

/-- The text of an object with one key. -/
theorem toList_pretty_single (name : String) :
    (pretty (object [(name, null)])).toList
      = "\x7b\n  ".toList ++ (quote name).toList ++ ": null\n\x7d".toList := by
  have hitems : prettyMembers 1 [(name, null)] = [quote name ++ ": " ++ "null"] := rfl
  have hinner : newline 1 = "\n  " := by decide
  have houter : newline 0 = "\n" := by decide
  rw [pretty, prettyAt, hitems, bracket, if_neg (by simp), String.intercalate_singleton, hinner,
    houter]
  simp

end Json

/-! ### Lookup in a whole text -/

namespace Pointer

variable {key text : List Char}

theorem ends_withoutReturn (line : List Char) : Ends line (withoutReturn line) := by
  unfold withoutReturn
  split
  · next hlast =>
    exact ⟨['\r'], by simp, (List.dropLast_append_getLast? _ hlast).symm⟩
  · exact ⟨[], by simp, (List.append_nil line).symm⟩

theorem infix_withoutReturn_iff (line : List Char) :
    quoted key <:+: withoutReturn line ↔ quoted key <:+: line := by
  rw [← isSome_offset?_iff, ← isSome_offset?_iff, offset?_quoted_of_ends (ends_withoutReturn line)]

/-- What has no line feed and stands at the beginning of a text stands in its first piece. -/
theorem prefix_splitOn {needle text : List Char} (hfeed : '\n' ∉ needle) (h : needle <+: text) :
    ∃ piece rest, text.splitOn '\n' = piece :: rest ∧ needle <+: piece := by
  induction needle generalizing text with
  | nil =>
    obtain ⟨piece, rest, hsplit⟩ := List.exists_cons_of_ne_nil (List.splitOn_ne_nil '\n' text)
    exact ⟨piece, rest, hsplit, List.nil_prefix⟩
  | cons c needle ih =>
    obtain ⟨hc, hneedle⟩ := not_or.mp (List.mem_cons.not.mp hfeed)
    cases text with
    | nil => exact absurd (List.prefix_nil.mp h) (List.cons_ne_nil _ _)
    | cons d text =>
      obtain ⟨rfl, htail⟩ := List.cons_prefix_cons.mp h
      obtain ⟨piece, rest, hsplit, hprefix⟩ := ih hneedle htail
      refine ⟨c :: piece, rest, ?_, List.cons_prefix_cons.mpr ⟨rfl, hprefix⟩⟩
      rw [List.splitOn_cons_eq_if_modifyHead, if_neg (by simpa using Ne.symm hc), hsplit]
      rfl

/-- What has no line feed stands in a text only within a piece. -/
theorem infix_splitOn {needle text : List Char} (hfeed : '\n' ∉ needle) (h : needle <:+: text) :
    ∃ piece ∈ text.splitOn '\n', needle <:+: piece := by
  induction text with
  | nil => exact ⟨[], by simp, h⟩
  | cons c text ih =>
    -- what begins at the first character stands in the first piece, the rest goes by induction
    rcases List.infix_cons_iff.mp h with hprefix | hinfix
    · obtain ⟨piece, rest, hsplit, hpiece⟩ := prefix_splitOn hfeed hprefix
      exact ⟨piece, hsplit ▸ List.mem_cons_self, hpiece.isInfix⟩
    · obtain ⟨piece, hmem, hpiece⟩ := ih hinfix
      rw [List.splitOn_cons_eq_if_modifyHead]
      split
      · exact ⟨piece, List.mem_cons_of_mem _ hmem, hpiece⟩
      · cases hsplit : text.splitOn '\n' with
        | nil => exact absurd hsplit (List.splitOn_ne_nil _ _)
        | cons first rest =>
          rw [hsplit] at hmem
          rcases List.mem_cons.mp hmem with rfl | hmem
          · exact ⟨c :: piece, List.mem_cons_self, List.infix_cons hpiece⟩
          · exact ⟨piece, List.mem_cons_of_mem _ hmem, hpiece⟩

theorem isSome_locate?_of_infix {text start key : String} (hkey : key ≠ "")
    (hfeed : '\n' ∉ key.toList) (h : quoted key.toList <:+: text.toList) :
    (locate? text (start ++ "/" ++ escape key)).isSome = true := by
  have hquoted : '\n' ∉ quoted key.toList := by simp [quoted, hfeed]
  obtain ⟨piece, hmem, hpiece⟩ := infix_splitOn hquoted h
  rw [locate?_escape text start hkey, isSome_find?_iff]
  exact ⟨withoutReturn piece, List.mem_map_of_mem hmem, (infix_withoutReturn_iff piece).mpr hpiece⟩

theorem infix_of_isSome_locate? {text start key : String} (hkey : key ≠ "")
    (h : (locate? text (start ++ "/" ++ escape key)).isSome = true) :
    quoted key.toList <:+: text.toList := by
  rw [locate?_escape text start hkey, isSome_find?_iff] at h
  obtain ⟨row, hrow, hinfix⟩ := h
  obtain ⟨piece, hmem, rfl⟩ := List.mem_map.mp hrow
  have hpiece : piece <:+: ['\n'].intercalate (text.toList.splitOn '\n') :=
    Json.infix_intercalate hmem
  rw [List.intercalate_splitOn] at hpiece
  exact ((infix_withoutReturn_iff piece).mp hinfix).trans hpiece

/-- Of texts around which there are no quotes, those that have equally many within are equal if the
whole is. -/
theorem eq_of_quoted {before after other left right : List Char} (hbefore : '"' ∉ before)
    (hafter : '"' ∉ after) (hcount : key.count '"' = other.count '"')
    (h : left ++ quoted key ++ right = before ++ quoted other ++ after) : key = other := by
  have hsplit : ∀ first middle last : List Char,
      first ++ quoted middle ++ last = first ++ '"' :: (middle ++ '"' :: last) := by
    simp [quoted]
  -- both sides have equally many quotes, so none of them is outside
  have hnone : left.count '"' = 0 ∧ right.count '"' = 0 := by
    have hquotes := congrArg (List.count '"') h
    simp only [quoted, List.count_append, List.count_cons_self, List.cons_append,
      List.count_nil, List.count_eq_zero_of_not_mem hbefore, List.count_eq_zero_of_not_mem hafter]
      at hquotes
    omega
  -- between the outer quotes both sides have the same pieces
  have hpieces := congrArg (List.splitOn '"') h
  rw [hsplit, hsplit, List.splitOn_append_cons_self_of_not_mem (List.count_eq_zero.mp hnone.1),
    List.splitOn_append_cons_self_of_not_mem hbefore, List.splitOn_append_cons_self,
    List.splitOn_append_cons_self, List.splitOn_eq_singleton (List.count_eq_zero.mp hnone.2),
    List.splitOn_eq_singleton hafter] at hpieces
  have hinner := (List.append_inj' (List.cons.inj hpieces).2 rfl).1
  calc key = ['"'].intercalate (key.splitOn '"') := (List.intercalate_splitOn '"').symm
    _ = ['"'].intercalate (other.splitOn '"') := by rw [hinner]
    _ = other := List.intercalate_splitOn '"'

/-- The text of an object with one key holds the key as it is only if nothing in it is escaped. -/
theorem unescaped_of_infix {key : String}
    (h : quoted key.toList <:+: (Json.pretty (.object [(key, .null)])).toList) :
    ∀ c ∈ key.toList, Json.Unescaped c := by
  rw [Json.toList_pretty_single, Json.toList_quote] at h
  obtain ⟨left, right, heq⟩ := h
  have hcount := (Json.count_quote_escape key.toList).symm
  exact Json.escape_eq_self_iff.mp (eq_of_quoted (by decide) (by decide) hcount heq).symm

end Pointer

namespace Json

open Pointer

/-- A key of which nothing is escaped is found in the text of every value that has it, at the end of
any pointer. -/
theorem isSome_locate?_of_hasKey {key : String} (hkey : key ≠ "")
    (hplain : ∀ c ∈ key.toList, Unescaped c) {value : Json} (h : HasKey key value)
    (start : String) :
    (locate? value.pretty (start ++ "/" ++ Pointer.escape key)).isSome = true := by
  refine isSome_locate?_of_infix hkey (fun hfeed => ?_) ?_
  · exact absurd (hplain '\n' hfeed).2.2 (by decide)
  · have hinfix := infix_prettyAt h 0
    rw [toList_quote, escape_eq_self_iff.mpr hplain] at hinfix
    exact hinfix

/-- An error below the root has the place that its pointer is found at. -/
theorem place_of_mem_report {schema : Json} {text : String} {error : InstanceError}
    (h : error ∈ (schema.report text).errors) (hroot : error.path ≠ "/") :
    error.place = locate? text error.path := by
  have hnot {message : String} {place : Option (Nat × Nat)} (hwhole : error ∈
      [{ InstanceError.atRoot message with place := place }]) : False := by
    rw [List.mem_singleton.mp hwhole] at hroot
    exact hroot rfl
  unfold report at h
  split at h
  · exact (hnot h).elim
  · split at h
    · exact (hnot h).elim
    · split at h
      · exact (hnot h).elim
      · obtain ⟨violated, -, rfl⟩ := List.mem_map.mp h
        rfl

theorem escaped_ne_root (start : String) {key : String} (hkey : key ≠ "") :
    start ++ "/" ++ Pointer.escape key ≠ "/" := by
  intro hroot
  have hsegment := lastSegment?_escape start hkey
  rw [hroot] at hsegment
  cases hsegment

/-- Which keys can be located. A key is found in the text of every object that has it exactly if no
character of it is escaped there. It is then found in the text of every value that has it anywhere,
whatever stands before it in the pointer, and errors at it have a place. -/
theorem located_iff_unescaped (key : String) (hkey : key ≠ "") :
    ((∀ members : Members Json, (Members.names members).Nodup → key ∈ Members.names members →
        (locate? (object members).pretty ("/" ++ Pointer.escape key)).isSome = true) ↔
      ∀ c ∈ key.toList, Unescaped c)
      ∧ ((∀ c ∈ key.toList, Unescaped c) → ∀ value, HasKey key value → ∀ start,
        (locate? value.pretty (start ++ "/" ++ Pointer.escape key)).isSome = true
          ∧ ∀ schema : Json, ∀ error ∈ (schema.report value.pretty).errors,
            error.path = start ++ "/" ++ Pointer.escape key → error.place.isSome = true) := by
  have hstart : "" ++ "/" ++ Pointer.escape key = "/" ++ Pointer.escape key := by
    rw [String.empty_append]
  refine ⟨⟨fun h => ?_, fun hplain members _ hmem => ?_⟩, fun hplain value hvalue start => ?_⟩
  · have hlocated := h [(key, null)] (by simp) (by simp)
    rw [← hstart] at hlocated
    exact unescaped_of_infix (infix_of_isSome_locate? hkey hlocated)
  · obtain ⟨⟨_, value⟩, hmember, rfl⟩ := List.mem_map.mp hmem
    rw [← hstart]
    exact isSome_locate?_of_hasKey hkey hplain (.here hmember) ""
  · have hlocated := isSome_locate?_of_hasKey hkey hplain hvalue start
    refine ⟨hlocated, fun schema error herror hpath => ?_⟩
    rw [place_of_mem_report herror (hpath ▸ escaped_ne_root start hkey), hpath]
    exact hlocated

theorem located_nested :
    "b/c" ≠ "" ∧ (∀ c ∈ "b/c".toList, Unescaped c)
      ∧ HasKey "b/c" (object [("a", array [object [("b/c", null)]])])
      ∧ (locate? (object [("a", array [object [("b/c", null)]])]).pretty
        ("/a/0" ++ "/" ++ Pointer.escape "b/c")).isSome = true := by
  have hplain : ∀ c ∈ "b/c".toList, Unescaped c := by simp [Unescaped]
  have hkey : HasKey "b/c" (object [("a", array [object [("b/c", null)]])]) :=
    .member List.mem_cons_self (.element List.mem_cons_self (.here List.mem_cons_self))
  have hlocated := ((located_iff_unescaped "b/c" (by decide)).2 hplain _ hkey "/a/0").1
  exact ⟨by decide, hplain, hkey, hlocated⟩

/-- A key with a quote is not found in the text of the object that has it. -/
theorem quotedKey_not_located :
    "a\"b" ∈ Members.names [("a\"b", null)]
      ∧ (object [("a\"b", null)]).pretty = "\x7b\n  \"a\\\"b\": null\n\x7d"
      ∧ locate? (object [("a\"b", null)]).pretty ("/" ++ Pointer.escape "a\"b") = none := by
  exact ⟨by decide, by decide, by decide⟩

end Json

end JsonShape
