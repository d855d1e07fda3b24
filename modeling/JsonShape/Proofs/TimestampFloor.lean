import JsonShape.Proofs.ReadRecords
import JsonShape.Proofs.Refining
import JsonShape.Proofs.Rounding

/-!
# The floor of timestamps

The floor lies some years before the present. The years are turned into milliseconds and these are
taken away from the present, and after each step a number of more than 64 bits is cut off at the
nearest end. The milliseconds can only be too many and the difference only too small, so either cut
moves the floor up, and never past the present.

* **The floor** (`Refinement.floorMs_fits64_mono_exact`) — has 64 bits, goes back with more years
  and forward with the present, and is the exact difference unless one of the steps is cut off.
* **Values** (`Refinement.isRecent_integer_iff`) — an integer that binary64 holds exactly reaches
  the floor exactly if it lies at most the years before the present.
* **Settings** (`Inferrer.floor_of_read`) — timestamps are marked from the floor on of years and a
  present that were read, and these have 32 and 64 bits.
-/

namespace JsonShape

namespace Refinement

/-! ### Integers of 64 bits -/

/-- Whether an integer has 64 bits, one of them for the sign. -/
def Fits64 (n : Int) : Prop := -(twoPow 63 : Int) ≤ n ∧ n < twoPow 63

instance (n : Int) : Decidable (Fits64 n) := inferInstanceAs (Decidable (_ ∧ _))

theorem twoPow_63 : (twoPow 63 : Int) = 9223372036854775808 := rfl

section Clamp

variable {m n : Int}

theorem fits64_clamp64 (n : Int) : Fits64 (clamp64 n) := by
  rw [Fits64, twoPow_63, clamp64]
  omega

theorem clamp64_mono (h : m ≤ n) : clamp64 m ≤ clamp64 n := by
  unfold clamp64
  omega

/-- What cannot be too small is cut off at the upper end only. -/
theorem clamp64_of_le (h : -(twoPow 63 : Int) ≤ n) : clamp64 n = min n (twoPow 63 - 1) := by
  rw [twoPow_63] at h ⊢
  unfold clamp64
  omega

/-- What cannot be too large is cut off at the lower end only. -/
theorem clamp64_of_lt (h : n < twoPow 63) : clamp64 n = max (-(twoPow 63 : Int)) n := by
  rw [twoPow_63] at h ⊢
  unfold clamp64
  omega

end Clamp

/-! ### The two steps -/

section Floor

variable {now later : Int} {years more : Nat}

/-- The milliseconds of some years, as many of them as 64 bits hold. -/
theorem clamp64_years (years : Nat) :
    clamp64 (years * yearMs) = min ((years : Int) * 31536000000) (twoPow 63 - 1) := by
  have hyear : yearMs = 31536000000 := by decide
  have hpos : 0 < (twoPow 63 : Int) := by decide
  rw [hyear, clamp64_of_le (by omega)]

theorem floorMs_eq (hnow : Fits64 now) (years : Nat) :
    floorMs now years
      = max (-(twoPow 63 : Int)) (now - min ((years : Int) * 31536000000) (twoPow 63 - 1)) := by
  have hlate : now < twoPow 63 := hnow.2
  have hpos : 0 < (twoPow 63 : Int) := by decide
  rw [floorMs, clamp64_years, clamp64_of_lt (by omega)]

theorem floorMs_le (hnow : Fits64 now) (years : Nat) : floorMs now years ≤ now := by
  have hearly : -(twoPow 63 : Int) ≤ now := hnow.1
  have hpos : 0 < (twoPow 63 : Int) := by decide
  rw [floorMs_eq hnow]
  omega

/-- Neither cut moves the floor back. -/
theorem le_floorMs (hnow : Fits64 now) (years : Nat) :
    now - years * 31536000000 ≤ floorMs now years := by
  rw [floorMs_eq hnow]
  omega

theorem floorMs_anti (now : Int) (h : years ≤ more) : floorMs now more ≤ floorMs now years := by
  have hspan : clamp64 (years * yearMs) ≤ clamp64 (more * yearMs) := by
    rw [clamp64_years, clamp64_years]
    omega
  exact clamp64_mono (Int.sub_le_sub_left hspan now)

theorem floorMs_mono (years : Nat) (h : now ≤ later) : floorMs now years ≤ floorMs later years :=
  clamp64_mono (Int.sub_le_sub_right h _)

/-- The floor is exact unless the milliseconds are too many or lead too far back. -/
theorem floorMs_eq_sub_iff (hnow : Fits64 now) (years : Nat) :
    floorMs now years = now - years * 31536000000 ↔
      (years * 31536000000 : Int) ≤ twoPow 63 - 1
        ∧ -(twoPow 63 : Int) ≤ now - years * 31536000000 := by
  rw [floorMs_eq hnow]
  omega

/-- The floor has 64 bits and lies between the exact difference and the present. It does not rise
with the years nor fall with the present, and it is exact if and only if neither step is cut off. -/
theorem floorMs_fits64_mono_exact (hnow : Fits64 now) (years : Nat) :
    Fits64 (floorMs now years)
      ∧ floorMs now years ≤ now
      ∧ (∀ more, years ≤ more → floorMs now more ≤ floorMs now years)
      ∧ (∀ later, now ≤ later → floorMs now years ≤ floorMs later years)
      ∧ now - years * 31536000000 ≤ floorMs now years
      ∧ (floorMs now years = now - years * 31536000000 ↔
        (years * 31536000000 : Int) ≤ twoPow 63 - 1
          ∧ -(twoPow 63 : Int) ≤ now - years * 31536000000) :=
  ⟨fits64_clamp64 _, floorMs_le hnow years, fun _ => floorMs_anti now,
    fun _ => floorMs_mono years, le_floorMs hnow years, floorMs_eq_sub_iff hnow years⟩

/-- Fifty years are taken away exactly, and as many as 32 bits hold are not. -/
theorem floorMs_fits64_mono_exact_longest :
    Fits64 1760000000000
      ∧ Fits64 (floorMs 1760000000000 4294967295)
      ∧ floorMs 1760000000000 4294967295 ≤ floorMs 1760000000000 50
      ∧ floorMs 1760000000000 50 = 1760000000000 - 50 * 31536000000
      ∧ floorMs 1760000000000 4294967295 ≠ 1760000000000 - 4294967295 * 31536000000 := by
  have hnow : Fits64 1760000000000 := by decide
  -- fifty years are within both bounds; the most that 32 bits hold are too many milliseconds
  obtain ⟨-, -, hanti, -, -, hexact⟩ := floorMs_fits64_mono_exact hnow 50
  obtain ⟨hfits, -, -, -, -, hcut⟩ := floorMs_fits64_mono_exact hnow 4294967295
  refine ⟨hnow, hfits, hanti _ (by decide), hexact.mpr (by decide), ?_⟩
  intro h
  exact absurd (hcut.mp h).1 (by decide)

end Floor

/-! ### Values that reach the floor -/

theorem isRecent_number_iff {floor : Int} {number : Number} :
    isRecent floor (.number number) = true ↔
      number.isWhole = true ∧ (Binary64.ofInt floor).units ≤ number.toBinary64.units := by
  rw [isRecent, Bool.and_eq_true, Bool.not_eq_true', Binary64.lt, decide_eq_false_iff_not,
    Int.not_lt]

/-- Where binary64 holds all numbers exactly, an integer is recent exactly if it lies at most the
years before the present. -/
theorem isRecent_integer_iff {now n : Int} {years : Nat} {hn} (hnow : now.natAbs ≤ twoPow 53)
    (hfloor : (now - years * 31536000000).natAbs ≤ twoPow 53) (hvalue : n.natAbs ≤ twoPow 53) :
    isRecent (floorMs now years) (.number (.integer n hn)) = true ↔
      now - n ≤ years * 31536000000 := by
  have hsmall : twoPow 53 = 9007199254740992 := rfl
  have hlarge := twoPow_63
  have hfits : Fits64 now := by
    unfold Fits64
    omega
  -- what binary64 holds exactly is far from the ends of 64 bits, so nothing is cut off
  have hexact : floorMs now years = now - years * 31536000000 :=
    (floorMs_eq_sub_iff hfits years).mpr (by omega)
  rw [hexact, isRecent_number_iff, Number.toBinary64, Binary64.units_ofInt_of_le hfloor,
    Binary64.units_ofInt_of_le hvalue, Binary64.mul_one_le_iff]
  constructor
  · rintro ⟨-, hreached⟩
    omega
  · intro hspan
    exact ⟨rfl, by omega⟩

end Refinement

/-! ### Settings -/

namespace InferenceConfig

open Refinement

variable {given : Members Json} {text : String}

/-- The years of settings that were read have 32 bits, also when they were left out. -/
theorem years_of_read (h : shape.read text = .ok given) :
    (ofFields given).timestampFloorYears < twoPow 32 := by
  show ((given.whole? "timestampFloorYears").map Int.toNat).getD 50 < twoPow 32
  cases hfound : given.whole? "timestampFloorYears" with
  | none => decide
  | some n =>
    have hrange := (RecordShape.holds_of_read h).whole_bounds 0 4294967295 (by decide) hfound
    show n.toNat < 4294967296
    omega

/-- The present has 64 bits, whether it was read or is taken from the clock. -/
theorem fits64_present (h : shape.read text = .ok given) {clockMs : Int}
    (hclock : Fits64 clockMs) : Fits64 ((ofFields given).referenceTimeMs.getD clockMs) := by
  cases hfound : (ofFields given).referenceTimeMs with
  | none => exact hclock
  | some now =>
    have hrange := (RecordShape.holds_of_read h).whole_bounds (-9223372036854775808)
      9223372036854775807 (by decide) hfound
    show Fits64 now
    rw [Fits64, twoPow_63]
    omega

end InferenceConfig

/-- With settings that were read, timestamps are marked from the floor on of a present of 64 bits
and years of 32 bits. -/
theorem Inferrer.floor_of_read {text : String} {config : InferenceConfig} {clockMs : Int}
    {inferrer : Inferrer} (hread : (InferenceConfig.shape.read text).map .ofFields = .ok config)
    (hclock : Refinement.Fits64 clockMs) (h : ofConfig config clockMs = .ok inferrer) :
    Refinement.Fits64 (config.referenceTimeMs.getD clockMs)
      ∧ config.timestampFloorYears < twoPow 32
      ∧ ∃ times, Refinement.timestamps times
          (Refinement.floorMs (config.referenceTimeMs.getD clockMs) config.timestampFloorYears)
        ∈ inferrer.refinements := by
  obtain ⟨given, hgiven, rfl⟩ := map_eq_ok hread
  obtain ⟨places, times, hrefinements⟩ := exists_patterns_ofConfig h
  refine ⟨InferenceConfig.fits64_present hgiven hclock, InferenceConfig.years_of_read hgiven,
    times, ?_⟩
  rw [hrefinements]
  simp

end JsonShape
