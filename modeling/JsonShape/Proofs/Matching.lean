import JsonShape.Pattern.Regex
import Mathlib.Data.List.Basic

/-!
# What a regular expression matches

`Regex.Spans` says for two positions of a text that an expression matches what stands between them.
It follows the expression: a repetition is any number of rounds within its bounds, each from where
the last one ended. `Regex.reach` computes with sets of positions instead, looks at each position
once, and cuts long repetitions off.

* **Long repetitions** (`Regex.exists_run_iff`) — a repetition can be cut off because matches only
  go forward: a run with more rounds than there are positions has a round that consumes nothing, and
  that can be left out or repeated.
* **Positions** (`Regex.mem_reach`) — those that are computed are those where a match may end.
* **Search** (`Regex.isFoundIn_iff`) — an expression is found in a text if it matches between two
  positions of it.
-/

namespace JsonShape

namespace Regex

/-! ### Rounds -/

/-- A number of rounds one after the other. -/
inductive Run (round : Nat → Nat → Prop) : Nat → Nat → Nat → Prop
  | stop {p} : Run round 0 p p
  | next {count p m q} : round p m → Run round count m q → Run round (count + 1) p q

namespace Run

variable {round : Nat → Nat → Prop} {count more p m q : Nat}

theorem trans (first : Run round count p m) (second : Run round more m q) :
    Run round (count + more) p q := by
  induction first with
  | stop => rwa [Nat.zero_add]
  | next hround _ ih =>
    rw [Nat.add_right_comm]
    exact .next hround (ih second)

theorem add_iff : Run round (count + more) p q ↔
    ∃ m, Run round count p m ∧ Run round more m q := by
  constructor
  · intro h
    induction count generalizing p with
    | zero =>
      rw [Nat.zero_add] at h
      exact ⟨p, .stop, h⟩
    | succ count ih =>
      rw [Nat.add_right_comm] at h
      cases h with
      | next hround hrest =>
        obtain ⟨m, hfirst, hsecond⟩ := ih hrest
        exact ⟨m, .next hround hfirst, hsecond⟩
  · rintro ⟨m, hfirst, hsecond⟩
    exact hfirst.trans hsecond

/-- Rounds that do not leave a set of positions do not leave it together. -/
theorem mem_of_closed {seen : List Nat} (closed : ∀ p ∈ seen, ∀ m, round p m → m ∈ seen)
    (run : Run round count p q) (hp : p ∈ seen) : q ∈ seen := by
  induction run with
  | stop => exact hp
  | next hround _ ih => exact ih (closed _ hp _ hround)

/-- A round that consumes nothing can be made any number of times. -/
theorem replicate (h : round p p) (count : Nat) : Run round count p p := by
  induction count with
  | zero => exact .stop
  | succ count ih => exact .next h ih

/-- More rounds than there is way to go: one of them consumes nothing. -/
theorem exists_idle (forward : ∀ {p q}, round p q → p ≤ q) (run : Run round count p q)
    (long : q < p + count) :
    ∃ a b m, a + b + 1 = count ∧ Run round a p m ∧ round m m ∧ Run round b m q := by
  induction run with
  | stop => omega
  | @next count p m q hround hrest ih =>
    -- either this round is the one that consumes nothing, or there is less way to go
    by_cases hidle : m = p
    · subst hidle
      exact ⟨0, count, m, by omega, .stop, hround, hrest⟩
    · have hstep := forward hround
      obtain ⟨a, b, k, hcount, hfirst, hk, hsecond⟩ := ih (by omega)
      exact ⟨a + 1, b, k, by omega, .next hround hfirst, hk, hsecond⟩

/-- A run that is too long can be made with any number of rounds that is not too short. -/
theorem resize (forward : ∀ {p q}, round p q → p ≤ q) {size : Nat} (bound : q ≤ p + size)
    (run : Run round count p q) (long : size < count) (other : Nat) (enough : size ≤ other) :
    Run round other p q := by
  induction count with
  | zero => omega
  | succ count ih =>
    -- a round that consumes nothing is left out until the run is short, then repeated as often as
    -- needed
    obtain ⟨a, b, m, hcount, hfirst, hidle, hsecond⟩ := run.exists_idle forward (by omega)
    by_cases hlong : size < count
    · refine ih ?_ hlong
      rw [show count = a + b by omega]
      exact hfirst.trans hsecond
    · have hother : other = a + (other - (a + b)) + b := by omega
      rw [hother]
      exact (hfirst.trans (replicate hidle _)).trans hsecond

end Run

/-! ### Matches -/

/-- The expression matches what stands between two positions. A repetition takes at least `least`
rounds, and no more further ones than the difference to `most`. -/
def Spans (text : Array Char) : Regex → Nat → Nat → Prop
  | empty, p, q => q = p
  | set mode chars, p, q => ∃ c, text[p]? = some c ∧ chars.contains mode c = true ∧ q = p + 1
  | anchor condition, p, q =>
    condition.holds (if p = 0 then none else text[p - 1]?) text[p]? = true ∧ q = p
  | seq first second, p, q => ∃ m, Spans text first p m ∧ Spans text second m q
  | alt first second, p, q => Spans text first p q ∨ Spans text second p q
  | rep least most body, p, q =>
    ∃ further, (∀ m, most = some m → further ≤ m - least)
      ∧ Run (Spans text body) (least + further) p q

variable {text : Array Char} {regex : Regex} {p q : Nat}

/-- Rounds that go forward, and not beyond some position, do so together. -/
theorem Run.bounds {round : Nat → Nat → Prop} {size count : Nat}
    (bounds : ∀ {p q}, round p q → p ≤ q ∧ q ≤ max p size) (run : Run round count p q) :
    p ≤ q ∧ q ≤ max p size := by
  induction run with
  | stop => omega
  | next hround _ ih =>
    have := bounds hround
    omega

/-- Matches go forward, and not beyond the end of the text. -/
theorem Spans.bounds (h : regex.Spans text p q) : p ≤ q ∧ q ≤ max p text.size := by
  induction regex generalizing p q with
  | empty =>
    obtain rfl : q = p := h
    omega
  | set mode chars =>
    obtain ⟨c, hc, -, rfl⟩ := h
    have hp := (Array.getElem?_eq_some_iff.mp hc).1
    omega
  | anchor condition =>
    obtain ⟨-, rfl⟩ := h
    omega
  | seq first second ihfirst ihsecond =>
    obtain ⟨m, hfirst, hsecond⟩ := h
    have := ihfirst hfirst
    have := ihsecond hsecond
    omega
  | alt first second ihfirst ihsecond =>
    rcases h with hfirst | hsecond
    · exact ihfirst hfirst
    · exact ihsecond hsecond
  | rep least most body ih =>
    obtain ⟨further, -, run⟩ := h
    exact run.bounds ih

theorem Spans.forward (h : regex.Spans text p q) : p ≤ q := h.bounds.1

/-! ### Sets of positions -/

/-- The positions that a function takes positions to are those of single rounds. -/
def Follows (function : List Nat → List Nat) (round : Nat → Nat → Prop) : Prop :=
  ∀ positions q, q ∈ function positions ↔ ∃ p ∈ positions, round p q

theorem mem_join {seen more : List Nat} : p ∈ join seen more ↔ p ∈ seen ∨ p ∈ more := by
  induction more generalizing seen with
  | nil => simp [join]
  | cons first rest ih =>
    show p ∈ join (if seen.contains first then seen else seen ++ [first]) rest ↔ _
    rw [ih]
    by_cases hfirst : first ∈ seen
    · rw [if_pos (List.contains_iff_mem.mpr hfirst), List.mem_cons]
      constructor
      · rintro (h | h)
        · exact .inl h
        · exact .inr (.inr h)
      · rintro (h | rfl | h)
        · exact .inl h
        · exact .inl hfirst
        · exact .inr h
    · rw [if_neg (by simpa using hfirst), List.mem_append, List.mem_singleton, List.mem_cons,
        or_assoc]

variable {function : List Nat → List Nat} {round : Nat → Nat → Prop}

theorem mem_exactly (follows : Follows function round) {rounds : Nat} {positions : List Nat} :
    q ∈ exactly function rounds positions ↔ ∃ p ∈ positions, Run round rounds p q := by
  induction rounds generalizing positions with
  | zero =>
    rw [exactly]
    constructor
    · exact fun h => ⟨q, h, .stop⟩
    · rintro ⟨p, hp, run⟩
      cases run
      exact hp
  | succ rounds ih =>
    have hnext : (∃ p ∈ positions, Run round (rounds + 1) p q) ↔
        ∃ m ∈ function positions, Run round rounds m q := by
      constructor
      · rintro ⟨p, hp, run⟩
        cases run with
        | next hround hrest => exact ⟨_, (follows _ _).mpr ⟨p, hp, hround⟩, hrest⟩
      · rintro ⟨m, hm, hrest⟩
        obtain ⟨p, hp, hround⟩ := (follows _ _).mp hm
        exact ⟨p, hp, .next hround hrest⟩
    rw [exactly, hnext]
    split
    · next hempty =>
      rw [List.isEmpty_iff.mp hempty] at hnext ⊢
      simpa using hnext
    · exact ih

/-- The positions found so far together with what one round from the last ones finds. The invariant
is that a round from any other position leads to nothing new. -/
theorem mem_closure (follows : Follows function round) {rounds : Nat} {seen frontier : List Nat}
    (within : frontier ⊆ seen)
    (explored : ∀ p ∈ seen, p ∉ frontier → ∀ q, round p q → q ∈ seen) :
    q ∈ closure function rounds seen frontier ↔
      ∃ count ≤ rounds, ∃ p ∈ seen, Run round count p q := by
  induction rounds generalizing seen frontier with
  | zero =>
    rw [closure]
    constructor
    · exact fun h => ⟨0, Nat.le_refl _, q, h, .stop⟩
    · rintro ⟨count, hcount, p, hp, run⟩
      obtain rfl := Nat.le_zero.mp hcount
      cases run
      exact hp
  | succ rounds ih =>
    have hfresh (m : Nat) :
        m ∈ (join [] (function frontier)).filter (fun p => !seen.contains p) ↔
          (∃ p ∈ frontier, round p m) ∧ m ∉ seen := by
      rw [List.mem_filter, mem_join, follows frontier m]
      simp
    rw [closure]
    generalize (join [] (function frontier)).filter (fun p => !seen.contains p) = fresh at hfresh ⊢
    -- one round from what was found leads to what was found or to what is fresh
    have hround {p m : Nat} (hp : p ∈ seen) (h : round p m) : m ∈ seen ++ fresh := by
      rw [List.mem_append, hfresh]
      by_cases hm : m ∈ seen
      · exact .inl hm
      · by_cases hlast : p ∈ frontier
        · exact .inr ⟨⟨p, hlast, h⟩, hm⟩
        · exact absurd (explored p hp hlast m h) hm
    split
    · next hempty =>
      rw [List.isEmpty_iff.mp hempty, List.append_nil] at hround
      constructor
      · exact fun h => ⟨0, Nat.zero_le _, q, h, .stop⟩
      · rintro ⟨count, -, p, hp, run⟩
        exact run.mem_of_closed (fun p hp m h => hround hp h) hp
    · rw [ih (List.subset_append_right _ _) fun p hp hnot m h =>
        hround ((List.mem_append.mp hp).resolve_right hnot) h]
      constructor
      · rintro ⟨count, hcount, p, hp, run⟩
        rcases List.mem_append.mp hp with hseen | hnew
        · exact ⟨count, by omega, p, hseen, run⟩
        · obtain ⟨⟨before, hbefore, hstep⟩, -⟩ := (hfresh p).mp hnew
          exact ⟨count + 1, by omega, before, within hbefore, .next hstep run⟩
      · rintro ⟨count, hcount, p, hp, run⟩
        cases run with
        | stop => exact ⟨0, Nat.zero_le _, _, List.mem_append_left _ hp, .stop⟩
        | next hstep hrest => exact ⟨_, by omega, _, hround hp hstep, hrest⟩

/-- A run that is cut off after one more round than there are positions is as good as any. -/
theorem exists_run_iff (forward : ∀ {p q}, round p q → p ≤ q) {size : Nat}
    {p q : Nat} (bound : ∀ {count}, Run round count p q → q ≤ p + size) (least : Nat)
    (most : Option Nat) :
    (∃ count ≤ (match most with
        | some most => min (most - least) (size + 1)
        | none => size + 1), Run round (min least (size + 1) + count) p q) ↔
      ∃ further, (∀ m, most = some m → further ≤ m - least)
        ∧ Run round (least + further) p q := by
  constructor
  · rintro ⟨count, hcount, run⟩
    by_cases hleast : least ≤ size + 1
    · rw [Nat.min_eq_left hleast] at run
      refine ⟨count, ?_, run⟩
      rintro m rfl
      exact Nat.le_trans hcount (Nat.min_le_left _ _)
    · rw [Nat.min_eq_right (by omega)] at run
      exact ⟨0, fun _ _ => Nat.zero_le _, run.resize forward (bound run) (by omega) _ (by omega)⟩
  · rintro ⟨further, hfurther, run⟩
    -- a run within the bounds is kept as it is; any other is resized to a length that is allowed
    by_cases hlong : least ≤ size + 1 ∧ further ≤ size + 1
    · rw [Nat.min_eq_left hlong.1]
      refine ⟨further, ?_, run⟩
      cases most with
      | none => exact hlong.2
      | some m => exact Nat.le_min.mpr ⟨hfurther m rfl, hlong.2⟩
    · have hresize := run.resize forward (bound run) (by omega)
      by_cases hleast : least ≤ size + 1
      · refine ⟨size + 1, ?_, hresize _ (by omega)⟩
        cases most with
        | none => exact Nat.le_refl _
        | some m =>
          have := hfurther m rfl
          exact Nat.le_min.mpr ⟨by omega, Nat.le_refl _⟩
      · exact ⟨0, Nat.zero_le _, hresize _ (by omega)⟩

/-- The positions that are reached are those where a match from one of the given positions ends. -/
theorem mem_reach {positions : List Nat} :
    q ∈ regex.reach text positions ↔ ∃ p ∈ positions, regex.Spans text p q := by
  induction regex generalizing positions q with
  | empty => simp [reach, Spans]
  | set mode chars =>
    rw [reach, List.mem_filterMap]
    refine exists_congr fun p => and_congr_right fun _ => ?_
    cases h : text[p]? with
    | none => simp [Spans, h]
    | some c => simp [Spans, h, @eq_comm _ q]
  | anchor condition =>
    rw [reach, List.mem_filter]
    constructor
    · exact fun h => ⟨q, h.1, h.2, rfl⟩
    · rintro ⟨p, hp, h, rfl⟩
      exact ⟨hp, h⟩
  | seq first second ihfirst ihsecond =>
    rw [reach, ihsecond]
    constructor
    · rintro ⟨m, hm, hsecond⟩
      obtain ⟨p, hp, hfirst⟩ := ihfirst.mp hm
      exact ⟨p, hp, m, hfirst, hsecond⟩
    · rintro ⟨p, hp, m, hfirst, hsecond⟩
      exact ⟨m, ihfirst.mpr ⟨p, hp, hfirst⟩, hsecond⟩
  | alt first second ihfirst ihsecond =>
    rw [reach, mem_join, ihfirst, ihsecond, ← exists_or]
    exact exists_congr fun p => and_or_left.symm
  | rep least most body ih =>
    have follows : Follows (reach text body) (body.Spans text) := fun _ _ => ih
    -- matches stay within the text, so its length bounds where a run ends
    have hbound {p count : Nat} (run : Run (body.Spans text) count p q) : q ≤ p + text.size := by
      have := run.bounds Spans.bounds
      omega
    have hcut (p : Nat) := exists_run_iff Spans.forward (@hbound p) least most
    simp only [reach, mem_closure follows (List.Subset.refl _) fun p hp hnot => absurd hp hnot,
      mem_join, mem_exactly follows, List.not_mem_nil, false_or, Spans, ← hcut]
    constructor
    · rintro ⟨count, hcount, m, ⟨p, hp, hfirst⟩, hrest⟩
      exact ⟨p, hp, count, hcount, hfirst.trans hrest⟩
    · rintro ⟨p, hp, count, hcount, run⟩
      obtain ⟨m, hfirst, hrest⟩ := Run.add_iff.mp run
      exact ⟨count, hcount, m, ⟨p, hp, hfirst⟩, hrest⟩

/-- An expression is found in a text if it matches what stands between two positions of it. -/
theorem isFoundIn_iff {text : String} : regex.isFoundIn text = true ↔
    ∃ p ≤ text.toList.length, ∃ q, regex.Spans text.toList.toArray p q := by
  simp only [isFoundIn, Bool.not_eq_true', List.isEmpty_eq_false_iff_exists_mem, mem_reach,
    List.mem_range, Nat.lt_succ_iff, List.size_toArray]
  constructor
  · rintro ⟨q, p, hp, h⟩
    exact ⟨p, hp, q, h⟩
  · rintro ⟨p, hp, q, h⟩
    exact ⟨q, p, hp, h⟩

end Regex

end JsonShape
