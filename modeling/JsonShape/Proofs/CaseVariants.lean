import JsonShape.Pattern.CharSet
import Mathlib.Data.List.Basic

/-!
# Case variants of ASCII characters

The tables of variants take a character forward to its next variant. Which characters lead to a
given one is read off the rows backwards: to ASCII these are the other case of a letter, the long s
and the Kelvin sign.

* **Symbols** (`Unicode.mem_caseVariants_iff`) — an ASCII character that is no letter is a variant
  of itself alone.
* **Letters** (`Unicode.letter_mem_caseVariants_iff`) — a small ASCII letter is a variant of itself,
  of its capital and for two letters of one more character.
* **Hexadecimal digits** (`CharSet.contains_hexDigits`) — without regard to case they are those of
  either case.
-/

namespace JsonShape

namespace Unicode

/-! ### The next variant -/

/-- A row that gives a distance has the character in its range. -/
theorem exists_row_of_variantDistance? {rows : List (Nat × Nat × Nat × Nat)} {c : Char}
    {distance : Nat} (h : variantDistance? rows c = some distance) :
    ∃ first last stride, (first, last, stride, distance) ∈ rows
      ∧ first ≤ c.toNat ∧ c.toNat ≤ last := by
  obtain ⟨⟨first, last, stride, found⟩, hrow, hfound⟩ := List.exists_of_findSome?_eq_some h
  simp only [Option.ite_none_right_eq_some, Bool.and_eq_true, decide_eq_true_eq,
    Option.some.injEq] at hfound
  obtain ⟨⟨⟨hfirst, hlast⟩, -⟩, rfl⟩ := hfound
  exact ⟨first, last, stride, hrow, hfirst, hlast⟩

/-- No row leads up to a number that is no character. -/
theorem valid_variantsAbove : ∀ row ∈ variantsAbove, row.2.1 + row.2.2.2 < 0xd800
    ∨ 0xdfff < row.1 + row.2.2.2 ∧ row.2.1 + row.2.2.2 < 0x110000 := by
  decide +kernel

/-- No row leads down to a number that is no character. -/
theorem valid_variantsBelow : ∀ row ∈ variantsBelow, row.2.2.2 ≤ row.1
    ∧ (row.2.1 - row.2.2.2 < 0xd800 ∨ 0xdfff < row.1 - row.2.2.2) := by
  decide +kernel

theorem toNat_ofNat {n : Nat} (h : n.isValidChar) : (Char.ofNat n).toNat = n := by
  rw [Char.ofNat, dif_pos h]
  rfl

/-- The next variant is the character itself, or as far above or below as a row of its says. -/
theorem toNat_nextVariant (c : Char) : (nextVariant c).toNat = c.toNat
    ∨ (∃ first last stride distance, (first, last, stride, distance) ∈ variantsAbove
      ∧ first ≤ c.toNat ∧ c.toNat ≤ last ∧ (nextVariant c).toNat = c.toNat + distance)
    ∨ ∃ first last stride distance, (first, last, stride, distance) ∈ variantsBelow
      ∧ first ≤ c.toNat ∧ c.toNat ≤ last ∧ (nextVariant c).toNat + distance = c.toNat := by
  have hc : c.toNat.isValidChar := c.valid
  rw [Nat.isValidChar] at hc
  rw [nextVariant]
  split
  · next distance habove =>
    obtain ⟨first, last, stride, hrow, hfirst, hlast⟩ := exists_row_of_variantDistance? habove
    -- so the number that the row leads to is that of a character
    have hvalid := valid_variantsAbove _ hrow
    dsimp only at hvalid
    refine .inr (.inl ⟨first, last, stride, distance, hrow, hfirst, hlast, ?_⟩)
    exact toNat_ofNat (by rw [Nat.isValidChar]; omega)
  · split
    · next distance hbelow =>
      obtain ⟨first, last, stride, hrow, hfirst, hlast⟩ := exists_row_of_variantDistance? hbelow
      have hvalid := valid_variantsBelow _ hrow
      dsimp only at hvalid
      refine .inr (.inr ⟨first, last, stride, distance, hrow, hfirst, hlast, ?_⟩)
      rw [toNat_ofNat (by rw [Nat.isValidChar]; omega)]
      omega
    · exact .inl rfl

/-! ### What leads to ASCII -/

/-- The rows that lead up to ASCII lead from capital to small letters. -/
theorem ascii_variantsAbove : ∀ row ∈ variantsAbove, 128 ≤ row.1 + row.2.2.2
    ∨ 97 ≤ row.1 + row.2.2.2 ∧ row.2.1 + row.2.2.2 ≤ 122 ∧ row.2.2.2 = 32 := by
  decide +kernel

/-- The rows that lead down to ASCII lead from small to capital letters, and to `S` and `K` from one
character each. -/
theorem ascii_variantsBelow : ∀ row ∈ variantsBelow, 128 ≤ row.1 - row.2.2.2
    ∨ 65 ≤ row.1 - row.2.2.2 ∧ row.2.1 - row.2.2.2 ≤ 90 ∧ row.2.2.2 = 32
    ∨ row = (0x17f, 0x17f, 1, 300) ∨ row = (0x212a, 0x212a, 1, 8415) := by
  decide +kernel

/-- A character whose next variant is in ASCII is that variant, its other case, the long s or the
Kelvin sign. -/
theorem toNat_of_nextVariant {c : Char} {n : Nat} (h : (nextVariant c).toNat = n)
    (hascii : n < 128) : c.toNat = n
      ∨ (97 ≤ n ∧ n ≤ 122 ∧ c.toNat + 32 = n) ∨ (65 ≤ n ∧ n ≤ 90 ∧ c.toNat = n + 32)
      ∨ (n = 83 ∧ c.toNat = 0x17f) ∨ (n = 75 ∧ c.toNat = 0x212a) := by
  rcases toNat_nextVariant c with hself | ⟨first, last, stride, distance, hrow, hfirst, hlast, heq⟩
    | ⟨first, last, stride, distance, hrow, hfirst, hlast, heq⟩
  · exact .inl (hself.symm.trans h)
  · have hrow := ascii_variantsAbove _ hrow
    dsimp only at hrow
    omega
  · have hrow := ascii_variantsBelow _ hrow
    simp only [Prod.mk.injEq] at hrow
    rcases hrow with hbeyond | hcapital | ⟨rfl, rfl, -, rfl⟩ | ⟨rfl, rfl, -, rfl⟩
    · omega
    · omega
    · omega
    · omega

/-- Of the long s and the Kelvin sign, only `s` and `k` lead up to them. -/
theorem companions_variantsAbove : ∀ row ∈ variantsAbove,
    (row = (115, 115, 1, 268) ∨ 0x17f < row.1 + row.2.2.2 ∨ row.2.1 + row.2.2.2 < 0x17f)
    ∧ (row = (107, 107, 1, 8383) ∨ 0x212a < row.1 + row.2.2.2 ∨ row.2.1 + row.2.2.2 < 0x212a) := by
  decide +kernel

theorem companions_variantsBelow : ∀ row ∈ variantsBelow,
    (0x17f < row.1 - row.2.2.2 ∨ row.2.1 - row.2.2.2 < 0x17f)
    ∧ (0x212a < row.1 - row.2.2.2 ∨ row.2.1 - row.2.2.2 < 0x212a) := by
  decide +kernel

theorem toNat_of_nextVariant_companion {c : Char} :
    ((nextVariant c).toNat = 0x17f → c.toNat = 0x17f ∨ c.toNat = 115)
      ∧ ((nextVariant c).toNat = 0x212a → c.toNat = 0x212a ∨ c.toNat = 107) := by
  rcases toNat_nextVariant c with hself | ⟨first, last, stride, distance, hrow, hfirst, hlast, heq⟩
    | ⟨first, last, stride, distance, hrow, hfirst, hlast, heq⟩
  · omega
  · obtain ⟨hlongS, hkelvin⟩ := companions_variantsAbove _ hrow
    simp only [Prod.mk.injEq] at hlongS hkelvin
    omega
  · obtain ⟨hlongS, hkelvin⟩ := companions_variantsBelow _ hrow
    dsimp only at hlongS hkelvin
    omega

/-- The next variant of a capital letter is the small one. -/
theorem toNat_nextVariant_of_capital {c : Char} (hfirst : 65 ≤ c.toNat) (hlast : c.toNat ≤ 90) :
    (nextVariant c).toNat = c.toNat + 32 := by
  have habove : variantDistance? variantsAbove c = some 32 := by
    rw [variantDistance?, variantsAbove, List.findSome?_cons]
    simp [hfirst, hlast, Nat.mod_one]
  rw [nextVariant, habove]
  exact toNat_ofNat (.inl (by omega))

/-- What leads to characters with a property only from characters with the property does so in any
number of steps. -/
theorem of_mem_caseVariants {holds : Char → Prop} (back : ∀ c, holds (nextVariant c) → holds c)
    {c variant : Char} (h : variant ∈ caseVariants c) (hvariant : holds variant) : holds c := by
  simp only [caseVariants, List.mem_cons, List.not_mem_nil, or_false] at h
  rcases h with rfl | rfl | rfl | rfl
  · exact hvariant
  · exact back _ hvariant
  · exact back _ (back _ hvariant)
  · exact back _ (back _ (back _ hvariant))

theorem mem_caseVariants_self (c : Char) : c ∈ caseVariants c := List.mem_cons_self

theorem nextVariant_mem_caseVariants (c : Char) : nextVariant c ∈ caseVariants c :=
  List.mem_cons_of_mem _ List.mem_cons_self

theorem isAlpha_iff {c : Char} : c.isAlpha = true ↔
    (65 ≤ c.toNat ∧ c.toNat ≤ 90) ∨ 97 ≤ c.toNat ∧ c.toNat ≤ 122 := by
  show (decide (c.val ≥ 'A'.val ∧ c.val ≤ 'Z'.val)
    || decide (c.val ≥ 'a'.val) && decide (c.val ≤ 'z'.val)) = true ↔ _
  simp [UInt32.le_iff_toNat_le]

/-- An ASCII character that is no letter is a variant of itself alone. -/
theorem mem_caseVariants_iff {c variant : Char} (hascii : variant.toNat < 128)
    (hletter : variant.isAlpha = false) : variant ∈ caseVariants c ↔ c = variant := by
  rw [← Bool.not_eq_true, isAlpha_iff] at hletter
  constructor
  · intro h
    -- nothing but the symbol leads to it
    have hback (c : Char) (hc : nextVariant c = variant) : c = variant := by
      have hlead := toNat_of_nextVariant (congrArg Char.toNat hc) hascii
      exact Char.toNat_inj.mp (by omega)
    exact @of_mem_caseVariants (· = variant) hback c variant h rfl
  · rintro rfl
    exact mem_caseVariants_self c

/-- A character folds to a small ASCII letter: it is the letter or its capital, or the long s or the
Kelvin sign. -/
def FoldsTo (letter c : Char) : Prop :=
  c = letter ∨ c = letter.toUpper ∨ (letter = 's' ∧ c = '\u017f') ∨ (letter = 'k' ∧ c = '\u212a')

theorem toNat_toUpper {letter : Char} (hfirst : 97 ≤ letter.toNat) (hlast : letter.toNat ≤ 122) :
    letter.toUpper.toNat + 32 = letter.toNat := by
  -- the 26 letters one by one
  have hall : ∀ n < 26, (Char.ofNat (97 + n)).toUpper.toNat + 32 = 97 + n := by decide
  have hletter := hall (letter.toNat - 97) (by omega)
  rwa [Nat.add_sub_cancel' hfirst, Char.ofNat_toNat] at hletter

theorem foldsTo_iff {letter c : Char} (hfirst : 97 ≤ letter.toNat) (hlast : letter.toNat ≤ 122) :
    FoldsTo letter c ↔ c.toNat = letter.toNat ∨ c.toNat + 32 = letter.toNat
      ∨ (letter.toNat = 115 ∧ c.toNat = 0x17f) ∨ (letter.toNat = 107 ∧ c.toNat = 0x212a) := by
  have hupper := toNat_toUpper hfirst hlast
  have hcapital : c = letter.toUpper ↔ c.toNat + 32 = letter.toNat := by
    rw [← Char.toNat_inj]
    omega
  rw [FoldsTo, hcapital, ← Char.toNat_inj, ← Char.toNat_inj, ← Char.toNat_inj, ← Char.toNat_inj,
    ← Char.toNat_inj]
  exact Iff.rfl

/-- A small ASCII letter is a variant of the characters that fold to it. -/
theorem letter_mem_caseVariants_iff {letter c : Char} (hfirst : 97 ≤ letter.toNat)
    (hlast : letter.toNat ≤ 122) : letter ∈ caseVariants c ↔ FoldsTo letter c := by
  constructor
  · intro h
    -- what leads to a character that folds to the letter folds to it as well
    have hback (c : Char) (hc : FoldsTo letter (nextVariant c)) : FoldsTo letter c := by
      rw [foldsTo_iff hfirst hlast] at hc ⊢
      obtain ⟨hlongS, hkelvin⟩ := toNat_of_nextVariant_companion (c := c)
      rcases hc with hsmall | hcapital | ⟨hs, hcompanion⟩ | ⟨hk, hcompanion⟩
      · have hlead := toNat_of_nextVariant hsmall (by omega)
        omega
      · have hlead := toNat_of_nextVariant (c := c) rfl (by omega)
        omega
      · have hlead := hlongS hcompanion
        omega
      · have hlead := hkelvin hcompanion
        omega
    exact @of_mem_caseVariants (FoldsTo letter) hback c letter h (.inl rfl)
  · rintro (rfl | rfl | ⟨rfl, rfl⟩ | ⟨rfl, rfl⟩)
    · exact mem_caseVariants_self _
    · have hupper := toNat_toUpper hfirst hlast
      have hnext := toNat_nextVariant_of_capital (c := letter.toUpper) (by omega) (by omega)
      have hletter : nextVariant letter.toUpper = letter := Char.toNat_inj.mp (by omega)
      have hmem := nextVariant_mem_caseVariants letter.toUpper
      rwa [hletter] at hmem
    · decide +kernel
    · decide +kernel

end Unicode

/-! ### Sets without regard to case -/

namespace CharSet

variable {mode : CharMode} {c x : Char}

theorem contains_single_of_exact (hmode : mode.caseless = false) :
    (single x).contains mode c = true ↔ c = x := by
  simp only [single, contains, variants, hmode, Bool.false_eq_true, if_false, List.any_cons,
    List.any_nil, Bool.or_false, Bool.and_eq_true, decide_eq_true_eq]
  exact ⟨fun h => Char.le_antisymm h.2 h.1, fun h => h ▸ ⟨Char.le_refl _, Char.le_refl _⟩⟩

theorem contains_single_of_caseless (hcaseless : mode.caseless = true)
    (hunicode : mode.unicode = true) :
    (single x).contains mode c = true ↔ x ∈ Unicode.caseVariants c := by
  simp only [single, contains, variants, hcaseless, hunicode, if_true, List.any_eq_true,
    Bool.and_eq_true, decide_eq_true_eq]
  constructor
  · rintro ⟨variant, hvariant, hle, hge⟩
    rwa [Char.le_antisymm hle hge]
  · exact fun h => ⟨x, h, Char.le_refl _, Char.le_refl _⟩

end CharSet

namespace AsciiClass

theorem contains_xdigit_iff {c : Char} : xdigit.contains c = true ↔
    (48 ≤ c.toNat ∧ c.toNat ≤ 57) ∨ (97 ≤ c.toNat ∧ c.toNat ≤ 102)
      ∨ 65 ≤ c.toNat ∧ c.toNat ≤ 70 := by
  simp [contains, Char.isDigit, Char.le_def, UInt32.le_iff_toNat_le, or_assoc]

/-- What leads to a hexadecimal digit is one. -/
theorem contains_xdigit_of_nextVariant {c : Char}
    (h : xdigit.contains (Unicode.nextVariant c) = true) : xdigit.contains c = true := by
  rw [contains_xdigit_iff] at h ⊢
  have hlead := Unicode.toNat_of_nextVariant (c := c) rfl (by omega)
  omega

theorem contains_xdigit_of_mem_caseVariants {c variant : Char}
    (h : variant ∈ Unicode.caseVariants c) (hvariant : xdigit.contains variant = true) :
    xdigit.contains c = true :=
  @Unicode.of_mem_caseVariants (xdigit.contains · = true) (fun _ => contains_xdigit_of_nextVariant)
    c variant h hvariant

end AsciiClass

/-- The hexadecimal digits with small letters are those of either case. -/
theorem CharSet.contains_hexDigits {mode : CharMode} {c : Char} (hcaseless : mode.caseless = true)
    (hunicode : mode.unicode = true) :
    (union (range '0' '9') (range 'a' 'f')).contains mode c = AsciiClass.xdigit.contains c := by
  have hvariants : variants mode c = Unicode.caseVariants c := by simp [variants, *]
  have hrange (first last : Char) : (range first last).contains mode c = true ↔
      ∃ variant ∈ Unicode.caseVariants c,
        first.toNat ≤ variant.toNat ∧ variant.toNat ≤ last.toNat := by
    simp [contains, hvariants, Char.le_def, UInt32.le_iff_toNat_le]
  rw [Bool.eq_iff_iff, contains, Bool.or_eq_true, hrange, hrange]
  constructor
  · rintro (⟨variant, hvariant, hdigit⟩ | ⟨variant, hvariant, hsmall⟩)
    · exact AsciiClass.contains_xdigit_of_mem_caseVariants hvariant
        (AsciiClass.contains_xdigit_iff.mpr (.inl hdigit))
    · exact AsciiClass.contains_xdigit_of_mem_caseVariants hvariant
        (AsciiClass.contains_xdigit_iff.mpr (.inr (.inl hsmall)))
  · intro h
    rcases AsciiClass.contains_xdigit_iff.mp h with hdigit | hsmall | hcapital
    · exact .inl ⟨c, Unicode.mem_caseVariants_self c, hdigit⟩
    · exact .inr ⟨c, Unicode.mem_caseVariants_self c, hsmall⟩
    · have hnext := Unicode.toNat_nextVariant_of_capital (c := c) (by omega) (by omega)
      -- a capital digit is found through its small variant
      refine .inr ⟨Unicode.nextVariant c, Unicode.nextVariant_mem_caseVariants c, ?_⟩
      show 97 ≤ _ ∧ _ ≤ 102
      omega

end JsonShape
