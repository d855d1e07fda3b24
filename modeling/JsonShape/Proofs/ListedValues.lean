import JsonShape.Proofs.Outcomes
import JsonShape.Proofs.ValueClasses

/-!
# When values are listed, and which

The values of a property are counted and collected in one pass over the samples, which gives up when
there are too many. It finds as many values as there are classes of values that count as one, so
what is listed depends on the order of the samples in one way only: the first value of a class
stands for it.

* **The listing** (`Refinement.apply_listing_iff`) — a property is rewritten exactly if the settings
  allow it, and then lists one value of each class in ascending order; in all orders of the samples
  these values are equal but for their spelling exactly if no different numbers are one as binary64.
* **What is in it** (`Refinement.observed_listed_iff`) — every observed number is among the listed
  values, exactly if no two different numbers of a listed property are one as binary64.
-/

namespace JsonShape

open Members

/-- Of two numbers that are defined, one is below the other if this is not at most that one. -/
theorem Extended.not_le_finite {x : Extended} {y : Binary64} (defined : x ≠ .undefined) :
    (!x.le (.finite y)) = (Extended.finite y).lt x := by
  cases x with
  | undefined => exact absurd rfl defined
  | _ => exact Bool.not_not _

theorem Extended.ofRounded_ne_undefined (negative : Bool) (x : Option Binary64) :
    ofRounded negative x ≠ .undefined := by
  cases x <;> exact Extended.noConfusion

theorem Binary64.mul_ne_undefined (x y : Binary64) : x.mul y ≠ .undefined := by
  unfold mul
  exact Extended.ofRounded_ne_undefined _ _

namespace Refinement

open Schema

variable {minItems maxValues : Nat} {maxRatio : Binary64} {property : String}
  {schema refined : Schema} {samples samples' : List Json} {type : TypeName}

/-! ### When values are listed -/

/-- The schema of the values of a list. -/
def choiceSchema (type : TypeName) (values : List Json) : Schema :=
  .object { type := some (.single type), choices := some values } {}

/-- The settings allow the values of a property to be listed, as values of a type. -/
structure ListsAs (minItems maxValues : Nat) (maxRatio : Binary64) (samples : List Json)
    (property : String) (schema : Schema) (type : TypeName) : Prop where
  enough : minItems ≤ samples.length
  isType : schema.isType type = true
  listed : type = .string ∨ type = .number ∨ type = .integer
  several : 2 ≤ classCount (listable property samples)
  few : classCount (listable property samples) ≤ maxValues
  share : (Extended.finite (.ofInt (classCount (listable property samples)))).lt
    ((Binary64.ofInt samples.length).mul maxRatio) = true

theorem isListable_of_mem_listable {value : Json} (h : value ∈ listable property samples) :
    (value.isString || value.isNumber) = true :=
  (List.mem_filter.mp h).2

theorem mem_listable_number {number : Number} :
    .number number ∈ listable property samples ↔ .number number ∈ observed property samples :=
  List.mem_filter.trans (and_iff_left rfl)

theorem mem_listable_string {text : String} :
    .string text ∈ listable property samples ↔ .string text ∈ observed property samples :=
  List.mem_filter.trans (and_iff_left rfl)

theorem conflated_listable :
    Conflated (listable property samples) ↔ Conflated (observed property samples) := by
  simp only [Conflated, mem_listable_number]

theorem belowShare_iff {count total : Nat} : belowShare count total maxRatio = true ↔
    (Extended.finite (.ofInt count)).lt ((Binary64.ofInt total).mul maxRatio) = true := by
  rw [belowShare, Extended.not_le_finite (Binary64.mul_ne_undefined _ _)]

/-- The values that are listed, in their order. -/
def listedValues (property : String) (samples : List Json) : List Json :=
  (firstsBy sameValue (listable property samples)).mergeSort valueLe

theorem represents_listedValues (property : String) (samples : List Json) :
    Represents (listedValues property samples) (listable property samples) :=
  represents_firstsBy fun _ => isListable_of_mem_listable

theorem classCount_listable (property : String) (samples : List Json) :
    classCount (listable property samples)
      = (firstsBy sameValue (listable property samples)).length :=
  classCount_eq fun _ => isListable_of_mem_listable

/-- The conditions on the number of classes are those on the number of values found. -/
theorem listsAs_of_length (enough : minItems ≤ samples.length) (isType : schema.isType type = true)
    (listed : type = .string ∨ type = .number ∨ type = .integer)
    (h : let count := (firstsBy sameValue (listable property samples)).length
      2 ≤ count ∧ count ≤ maxValues ∧ belowShare count samples.length maxRatio = true) :
    ListsAs minItems maxValues maxRatio samples property schema type := by
  simp only [← classCount_listable, belowShare_iff] at h
  obtain ⟨hseveral, hfew, hshare⟩ := h
  exact ⟨enough, isType, listed, hseveral, hfew, hshare⟩

theorem refine?_listing_eq_some_iff :
    (listing minItems maxValues maxRatio).refine? property schema samples = some refined ↔
      ∃ type, ListsAs minItems maxValues maxRatio samples property schema type
        ∧ refined = choiceSchema type (listedValues property samples) := by
  have hcount := classCount_listable property samples
  rw [refine?_listing]
  constructor
  · intro h
    split at h
    · next hallowed =>
      obtain ⟨type, htype, rfl⟩ := Option.map_eq_some_iff.mp h
      obtain ⟨henough, hfew, hseveral, hshare⟩ := hallowed
      obtain ⟨hisType, hlisted⟩ := listedType?_eq_some_iff.mp htype
      exact ⟨type, listsAs_of_length henough hisType hlisted ⟨hseveral, hfew, hshare⟩, rfl⟩
    · cases h
  · -- the pass does not give up, as it finds one value for each class and these are few
    rintro ⟨type, lists, rfl⟩
    have hshare := lists.share
    rw [hcount, ← belowShare_iff] at hshare
    rw [if_pos ⟨lists.enough, hcount ▸ lists.few, hcount ▸ lists.several, hshare⟩,
      listedType?_eq_some_iff.mpr ⟨lists.isType, lists.listed⟩]
    rfl

theorem refine?_listing_eq_none
    (h : ¬ ∃ type, ListsAs minItems maxValues maxRatio samples property schema type) :
    (listing minItems maxValues maxRatio).refine? property schema samples = none := by
  rw [Option.eq_none_iff_forall_ne_some]
  intro refined hrefined
  obtain ⟨type, lists, -⟩ := refine?_listing_eq_some_iff.mp hrefined
  exact h ⟨type, lists⟩

variable (minItems maxValues maxRatio) in
/-- A property after a listing. -/
def listedEntry (samples : List Json) (entry : String × Schema) : String × Schema :=
  (entry.1, (listing minItems maxValues maxRatio).step entry.1 samples entry.2)

theorem apply_listing (properties : Members Schema) (samples : List Json) :
    (listing minItems maxValues maxRatio).apply properties samples
      = properties.map (listedEntry minItems maxValues maxRatio samples) :=
  rfl

theorem listedEntry_of_listsAs {entry : String × Schema}
    (lists : ListsAs minItems maxValues maxRatio samples entry.1 entry.2 type) :
    listedEntry minItems maxValues maxRatio samples entry
      = (entry.1, choiceSchema type (listedValues entry.1 samples)) := by
  have hrefined := refine?_listing_eq_some_iff.mpr ⟨type, lists, rfl⟩
  rw [listedEntry, step, hrefined, Option.getD_some]

theorem listedEntry_of_not_listsAs {entry : String × Schema}
    (h : ¬ ∃ type, ListsAs minItems maxValues maxRatio samples entry.1 entry.2 type) :
    listedEntry minItems maxValues maxRatio samples entry = entry := by
  rw [listedEntry, step, refine?_listing_eq_none h, Option.getD_none]

/-- A property as it is left by a listing. -/
structure Rewrites (minItems maxValues : Nat) (maxRatio : Binary64) (samples : List Json)
    (before after : String × Schema) : Prop where
  name : after.1 = before.1
  listed : ∀ type, ListsAs minItems maxValues maxRatio samples before.1 before.2 type →
    ∃ values, after.2 = choiceSchema type values ∧ Represents values (listable before.1 samples)
  kept : (¬ ∃ type, ListsAs minItems maxValues maxRatio samples before.1 before.2 type) →
    after.2 = before.2

theorem rewrites_listedEntry (entry : String × Schema) :
    Rewrites minItems maxValues maxRatio samples entry
      (listedEntry minItems maxValues maxRatio samples entry) where
  name := rfl
  listed type lists := by
    rw [listedEntry_of_listsAs lists]
    exact ⟨listedValues entry.1 samples, rfl, represents_listedValues entry.1 samples⟩
  kept hnone := by rw [listedEntry_of_not_listsAs hnone]

/-! ### Samples in another order -/

theorem perm_listable (perm : samples'.Perm samples) (property : String) :
    (listable property samples').Perm (listable property samples) :=
  (perm.filterMap _).filter _

theorem classCount_eq_of_perm {values others : List Json} (perm : values.Perm others) :
    classCount values = classCount others := by
  -- a class is a set, and the values are counted by their classes
  have hclass : classOf values = classOf others := by
    funext value
    ext other
    exact and_congr_left fun _ => perm.mem_iff
  simp only [classCount, hclass, perm.mem_iff]

theorem ListsAs.perm (lists : ListsAs minItems maxValues maxRatio samples property schema type)
    (perm : samples'.Perm samples) :
    ListsAs minItems maxValues maxRatio samples' property schema type := by
  have hcount := classCount_eq_of_perm (perm_listable perm property)
  obtain ⟨henough, hisType, hlisted, hseveral, hfew, hshare⟩ := lists
  rw [← hcount] at hseveral hfew hshare
  rw [← perm.length_eq] at henough hshare
  exact ⟨henough, hisType, hlisted, hseveral, hfew, hshare⟩

theorem exists_listsAs_perm_iff (perm : samples'.Perm samples) :
    (∃ type, ListsAs minItems maxValues maxRatio samples' property schema type) ↔
      ∃ type, ListsAs minItems maxValues maxRatio samples property schema type :=
  exists_congr fun _ => ⟨fun lists => lists.perm perm.symm, fun lists => lists.perm perm⟩

/-- Every observed value can be the first one. -/
theorem exists_observed_cons {value : Json} (h : value ∈ observed property samples) :
    ∃ samples' values, samples'.Perm samples ∧ observed property samples' = value :: values := by
  obtain ⟨sample, hsample, hvalue⟩ := mem_observed.mp h
  obtain ⟨before, after, rfl⟩ := List.append_of_mem hsample
  exact ⟨sample :: (before ++ after), _, List.perm_middle.symm, List.filterMap_cons_some hvalue⟩

/-- Every value that can be listed is, if the samples come in a suitable order. -/
theorem exists_mem_listedValues {value : Json} (h : value ∈ listable property samples) :
    ∃ samples', samples'.Perm samples ∧ value ∈ listedValues property samples' := by
  obtain ⟨hobserved, hlistable⟩ := List.mem_filter.mp h
  obtain ⟨samples', rest, perm, hfront⟩ := exists_observed_cons hobserved
  refine ⟨samples', perm, List.mem_mergeSort.mpr ?_⟩
  rw [listable, hfront, List.filter_cons, if_pos hlistable]
  exact mem_firstsBy_head value _

/-- The first value is listed for its class. -/
theorem eq_first_of_sameValue {first value found : Json} {rest : List Json}
    (hfirst : listable property samples = first :: rest)
    (hvalue : value ∈ listable property samples) (hsame : sameValue first value = true)
    (hfound : found ∈ listedValues property samples) (hfound' : sameValue found value = true) :
    found = first := by
  refine ((represents_listedValues property samples).unique value hvalue).unique
    ⟨hfound, hfound'⟩ ⟨List.mem_mergeSort.mpr ?_, hsame⟩
  rw [hfirst]
  exact mem_firstsBy_head first rest

/-- In another order of the samples the listed values are related one by one, if values that count
as one are. -/
theorem forall₂_listedValues {R : Json → Json → Prop} (perm : samples'.Perm samples)
    (h : ∀ a ∈ listable property samples, ∀ b ∈ listable property samples,
      sameValue a b = true → R a b) :
    List.Forall₂ R (listedValues property samples) (listedValues property samples') := by
  have hlistable : ∀ value ∈ listable property samples, (value.isString || value.isNumber) = true :=
    fun _ => isListable_of_mem_listable
  have hlistable' : ∀ value ∈ listable property samples',
      (value.isString || value.isNumber) = true := fun _ => isListable_of_mem_listable
  have hperm := perm_listable perm property
  -- the keys are the same in both orders, and sorting goes by keys
  refine forall₂_mergeSort (listed_firstsBy hlistable) (listed_firstsBy hlistable') ?_ ?_
  · refine (List.perm_ext_iff_of_nodup (listed_firstsBy hlistable).nodup
      (listed_firstsBy hlistable').nodup).mpr fun found => ?_
    rw [mem_map_key_firstsBy hlistable, mem_map_key_firstsBy hlistable']
    exact (hperm.map key).symm.mem_iff
  · intro a ha b hb hkey
    have hmemA := mem_of_mem_firstsBy ha
    have hmemB := hperm.mem_iff.mp (mem_of_mem_firstsBy hb)
    exact h a hmemA b hmemB ((sameValue_iff_key (hlistable a hmemA) (hlistable b hmemB)).mpr hkey)

/-- Two properties are the same, except that listed values may differ as far as a relation allows.
-/
def SameListing (related : Json → Json → Bool) (one other : String × Schema) : Prop :=
  one.1 = other.1 ∧ (one.2 = other.2 ∨ ∃ type values others,
    one.2 = choiceSchema type values ∧ other.2 = choiceSchema type others
      ∧ List.Forall₂ (fun a b => related a b = true) values others)

theorem forall₂_map_map_iff {α β γ : Type} {R : β → γ → Prop} {f : α → β} {g : α → γ}
    {as : List α} : List.Forall₂ R (as.map f) (as.map g) ↔ ∀ a ∈ as, R (f a) (g a) := by
  rw [List.forall₂_map_left_iff, List.forall₂_map_right_iff, List.forall₂_same]

theorem sameListing_of_perm {related : Json → Json → Bool} {entry : String × Schema}
    (perm : samples'.Perm samples)
    (h : ∀ type, ListsAs minItems maxValues maxRatio samples entry.1 entry.2 type →
      ∀ a ∈ listable entry.1 samples, ∀ b ∈ listable entry.1 samples,
        sameValue a b = true → related a b = true) :
    SameListing related (listedEntry minItems maxValues maxRatio samples entry)
      (listedEntry minItems maxValues maxRatio samples' entry) := by
  refine ⟨rfl, ?_⟩
  -- whether values are listed does not depend on the order, so both listings do so or neither
  by_cases hlists : ∃ type, ListsAs minItems maxValues maxRatio samples entry.1 entry.2 type
  · obtain ⟨type, lists⟩ := hlists
    rw [listedEntry_of_listsAs lists, listedEntry_of_listsAs (lists.perm perm)]
    exact .inr ⟨type, _, _, rfl, rfl, forall₂_listedValues perm (h type lists)⟩
  · have hlists' := mt (exists_listsAs_perm_iff perm).mp hlists
    rw [listedEntry_of_not_listsAs hlists, listedEntry_of_not_listsAs hlists']
    exact .inl rfl

/-- If the listed values are equal in two orders of the samples, each one of the second order equals
one of the first. -/
theorem exists_equal_of_sameListing {entry : String × Schema}
    (lists : ListsAs minItems maxValues maxRatio samples entry.1 entry.2 type)
    (perm : samples'.Perm samples)
    (h : SameListing Json.equals (listedEntry minItems maxValues maxRatio samples entry)
      (listedEntry minItems maxValues maxRatio samples' entry))
    {value : Json} (hvalue : value ∈ listedValues entry.1 samples') :
    ∃ found ∈ listedValues entry.1 samples, found.equals value = true := by
  rw [listedEntry_of_listsAs lists, listedEntry_of_listsAs (lists.perm perm)] at h
  obtain ⟨-, heq | ⟨_, values, others, heq, heq', hpairs⟩⟩ := h
  · have hvalues : listedValues entry.1 samples = listedValues entry.1 samples' := by
      have hchoices := congrArg (fun schema => schema.facets?.bind Facets.choices) heq
      exact Option.some.inj hchoices
    have hlistable := isListable_of_mem_listable ((represents_listedValues _ _).subset hvalue)
    rw [hvalues]
    exact ⟨value, hvalue, (equals_iff_exactKey hlistable hlistable).mpr rfl⟩
  · cases heq
    cases heq'
    obtain ⟨found, hfound, hequal⟩ := exists_of_mem_forall₂_right hpairs hvalue
    exact ⟨found, hfound, hequal⟩

/-- The values of a property are listed exactly if the settings allow it, one for each class and in
ascending order; nothing else changes. In all orders of the samples the results are equal up to the
values that stand for a class, and these differ in nothing but their spelling exactly if no listed
property has different numbers that are one as binary64. -/
theorem apply_listing_iff (minItems maxValues : Nat) (maxRatio : Binary64)
    (properties : Members Schema) (samples : List Json) :
    let refined := (listing minItems maxValues maxRatio).apply properties
    names (refined samples) = names properties
      ∧ (∀ entry ∈ properties, ((listing minItems maxValues maxRatio).refine? entry.1 entry.2
          samples).isSome = true ↔
        ∃ type, ListsAs minItems maxValues maxRatio samples entry.1 entry.2 type)
      ∧ List.Forall₂ (Rewrites minItems maxValues maxRatio samples) properties (refined samples)
      ∧ (∀ samples' : List Json, samples'.Perm samples →
        List.Forall₂ (SameListing sameValue) (refined samples) (refined samples'))
      ∧ ((∀ samples' : List Json, samples'.Perm samples →
          List.Forall₂ (SameListing Json.equals) (refined samples) (refined samples')) ↔
        ∀ entry ∈ properties,
          (∃ type, ListsAs minItems maxValues maxRatio samples entry.1 entry.2 type) →
            ¬ Conflated (observed entry.1 samples)) := by
  intro refined
  have hlistable : ∀ property, ∀ value ∈ listable property samples,
      (value.isString || value.isNumber) = true := fun _ _ => isListable_of_mem_listable
  refine ⟨?_, ?_, ?_, ?_, ?_⟩
  · simp only [refined, apply_listing, names, List.map_map]
    rfl
  · intro entry _
    rw [Option.isSome_iff_exists]
    constructor
    · rintro ⟨schema, hschema⟩
      obtain ⟨type, lists, -⟩ := refine?_listing_eq_some_iff.mp hschema
      exact ⟨type, lists⟩
    · rintro ⟨type, lists⟩
      exact ⟨_, refine?_listing_eq_some_iff.mpr ⟨type, lists, rfl⟩⟩
  · have hpairs : List.Forall₂ (Rewrites minItems maxValues maxRatio samples)
        (properties.map id) (refined samples) :=
      forall₂_map_map_iff.mpr fun entry _ => rewrites_listedEntry entry
    rwa [List.map_id] at hpairs
  · intro samples' perm
    exact forall₂_map_map_iff.mpr fun entry _ =>
      sameListing_of_perm perm fun type _ a _ b _ hsame => hsame
  · constructor
    · rintro h entry hentry ⟨type, lists⟩
      rw [← conflated_listable,
        ← (represents_listedValues entry.1 samples).exact_iff (hlistable entry.1)]
      intro value hvalue
      -- in an order in which it comes first the value is listed, so the own listing has an equal
      -- one
      obtain ⟨samples', perm, hlisted⟩ := exists_mem_listedValues hvalue
      exact exists_equal_of_sameListing lists perm
        (forall₂_map_map_iff.mp (h samples' perm) entry hentry) hlisted
    · intro h samples' perm
      refine forall₂_map_map_iff.mpr fun entry hentry =>
        sameListing_of_perm perm fun type lists => ?_
      exact (not_conflated_iff (hlistable entry.1)).mp
        (mt conflated_listable.mp (h entry hentry ⟨type, lists⟩))

/-! ### Neighbours beyond the exact integers -/

/-- Objects that have a number each. -/
def numbered (numbers : List Int) : List Json :=
  numbers.map fun number => .object [("id", .number (.ofInt number))]

/-- The lesser of two neighbours that are one as binary64. -/
def lowerNeighbour : Json := .number 9007199254740992

/-- The greater of two neighbours that are one as binary64. -/
def upperNeighbour : Json := .number 9007199254740993

theorem listsAs_lowerFirst :
    ListsAs 0 10 (.ofInt 1) (numbered [9007199254740992, 9007199254740993, 1]) "id"
      (.typed .integer) .integer :=
  listsAs_of_length (by decide) rfl (.inr (.inr rfl)) (by decide +kernel)

/-- The neighbour that comes second is not listed. -/
theorem upperNeighbour_not_listed {found : Json}
    (hfound : found ∈ listedValues "id" (numbered [9007199254740992, 9007199254740993, 1])) :
    ¬ found.equals upperNeighbour = true := by
  intro hequal
  have hmem : upperNeighbour ∈ listable "id" (numbered [9007199254740992, 9007199254740993, 1]) :=
    .tail _ (.head _)
  have hlistable := isListable_of_mem_listable ((represents_listedValues _ _).subset hfound)
  -- both neighbours count as one, so the first stands for them
  have hfirst : found = lowerNeighbour :=
    eq_first_of_sameValue rfl hmem (by decide +kernel) hfound
      (sameValue_of_equals hlistable rfl hequal)
  rw [hfirst] at hequal
  revert hequal
  decide +kernel

/-- Which of two neighbours is listed depends on the order in which they come. -/
theorem listing_depends_on_order :
    (numbered [9007199254740993, 9007199254740992, 1]).Perm
        (numbered [9007199254740992, 9007199254740993, 1])
      ∧ ¬ List.Forall₂ (SameListing Json.equals)
        ((listing 0 10 (.ofInt 1)).apply [("id", .typed .integer)]
          (numbered [9007199254740992, 9007199254740993, 1]))
        ((listing 0 10 (.ofInt 1)).apply [("id", .typed .integer)]
          (numbered [9007199254740993, 9007199254740992, 1])) := by
  have perm : (numbered [9007199254740993, 9007199254740992, 1]).Perm
      (numbered [9007199254740992, 9007199254740993, 1]) := (List.Perm.swap _ _ _).map _
  refine ⟨perm, fun hsame => ?_⟩
  rw [apply_listing, apply_listing] at hsame
  have hentry := forall₂_map_map_iff.mp hsame ("id", .typed .integer) List.mem_cons_self
  have hupper : upperNeighbour
      ∈ listedValues "id" (numbered [9007199254740993, 9007199254740992, 1]) :=
    List.mem_mergeSort.mpr (mem_firstsBy_head _ _)
  obtain ⟨found, hfound, hequal⟩ :=
    exists_equal_of_sameListing listsAs_lowerFirst perm hentry hupper
  exact upperNeighbour_not_listed hfound hequal

/-! ### Every observed value -/

/-- Integers that are not too large are told apart. -/
theorem not_conflated_of_small {values : List Json}
    (h : ∀ number, .number number ∈ values → ∃ value inRange,
      number = .integer value inRange ∧ value.natAbs ≤ twoPow 53) : ¬ Conflated values := by
  rintro ⟨x, y, hx, hy, hsame, hdiffer⟩
  obtain ⟨i, _, rfl, hi⟩ := h x hx
  obtain ⟨j, _, rfl, hj⟩ := h y hy
  -- up to this size integers are exact, so two that count as one are equal
  have hunits : (Binary64.ofInt i).units = (Binary64.ofInt j).units := beq_iff_eq.mp hsame
  rw [Binary64.units_ofInt_of_le hi, Binary64.units_ofInt_of_le hj] at hunits
  have hequal : (Number.integer i ‹_›).equals (.integer j ‹_›) = true := beq_iff_eq.mpr hunits
  rw [hequal] at hdiffer
  cases hdiffer

theorem mem_listedValues_string {text : String}
    (h : .string text ∈ observed property samples) :
    .string text ∈ listedValues property samples := by
  obtain ⟨found, ⟨hfound, hsame⟩, -⟩ :=
    (represents_listedValues property samples).unique _ (mem_listable_string.mpr h)
  cases found with
  | string other => rwa [beq_iff_eq.mp hsame] at hfound
  | _ => cases hsame

/-- A listing has every observed text. It has every observed number, whatever its spelling, exactly
if no two different ones are one as binary64. -/
theorem observed_listed_iff {properties : Members Schema} (hentry : (property, schema) ∈ properties)
    (hrefined : (listing minItems maxValues maxRatio).refine? property schema samples
      = some refined) :
    ∃ type values, refined = choiceSchema type values
      ∧ (property, refined) ∈ (listing minItems maxValues maxRatio).apply properties samples
      ∧ (∀ text, .string text ∈ observed property samples → .string text ∈ values)
      ∧ ((∀ number, .number number ∈ observed property samples →
          ∃ found, .number found ∈ values ∧ found.equals number = true) ↔
        ¬ Conflated (observed property samples)) := by
  obtain ⟨type, lists, rfl⟩ := refine?_listing_eq_some_iff.mp hrefined
  have hlistable : ∀ value ∈ listable property samples, (value.isString || value.isNumber) = true :=
    fun _ => isListable_of_mem_listable
  refine ⟨type, _, rfl, ?_, fun text => mem_listedValues_string, ?_⟩
  · have hmem := List.mem_map_of_mem (f := listedEntry minItems maxValues maxRatio samples) hentry
    rwa [listedEntry_of_listsAs lists] at hmem
  · rw [← conflated_listable, ← (represents_listedValues property samples).exact_iff hlistable]
    constructor
    · intro hnumbers value hvalue
      cases value with
      | number number =>
        obtain ⟨found, hfound, hequal⟩ := hnumbers number (mem_listable_number.mp hvalue)
        exact ⟨.number found, hfound, hequal⟩
      | string text =>
        have hlisted := mem_listedValues_string (mem_listable_string.mp hvalue)
        exact ⟨.string text, hlisted, beq_self_eq_true text⟩
      | _ => cases hlistable _ hvalue
    · intro hvalues number hnumber
      obtain ⟨found, hfound, hequal⟩ := hvalues _ (mem_listable_number.mpr hnumber)
      cases found with
      | number found => exact ⟨found, hfound, hequal⟩
      | _ => cases hequal

theorem observed_listed_small :
    ∃ refined, ("id", Schema.typed .integer) ∈ [("id", Schema.typed .integer)]
      ∧ (listing 0 10 (.ofInt 1)).refine? "id" (.typed .integer) (numbered [2, 1, 2])
        = some refined
      ∧ ∃ type values, refined = choiceSchema type values
        ∧ ∀ number, .number number ∈ observed "id" (numbered [2, 1, 2]) →
          ∃ found, .number found ∈ values ∧ found.equals number = true := by
  have lists : ListsAs 0 10 (.ofInt 1) (numbered [2, 1, 2]) "id" (.typed .integer) .integer :=
    listsAs_of_length (by decide) rfl (.inr (.inr rfl)) (by decide +kernel)
  have hsmall : ¬ Conflated (observed "id" (numbered [2, 1, 2])) := by
    refine not_conflated_of_small fun number hnumber => ?_
    have hmem : Json.number number ∈ [.number (.ofInt 2), .number (.ofInt 1), .number (.ofInt 2)] :=
      hnumber
    simp only [List.mem_cons, Json.number.injEq, List.not_mem_nil, or_false] at hmem
    rcases hmem with rfl | rfl | rfl
    · exact ⟨2, by decide, rfl, by decide⟩
    · exact ⟨1, by decide, rfl, by decide⟩
    · exact ⟨2, by decide, rfl, by decide⟩
  have hrefined := refine?_listing_eq_some_iff.mpr ⟨_, lists, rfl⟩
  have hentry : ("id", Schema.typed .integer) ∈ [("id", Schema.typed .integer)] :=
    List.mem_singleton_self _
  obtain ⟨type, values, hchoices, -, -, hnumbers⟩ := observed_listed_iff hentry hrefined
  exact ⟨_, hentry, hrefined, type, values, hchoices, hnumbers.mpr hsmall⟩

/-- An observed number is not listed, as its neighbour came first. -/
theorem upperNeighbour_dropped :
    ∃ values, (listing 0 10 (.ofInt 1)).refine? "id" (.typed .integer)
        (numbered [9007199254740992, 9007199254740993, 1]) = some (choiceSchema .integer values)
      ∧ upperNeighbour ∈ observed "id" (numbered [9007199254740992, 9007199254740993, 1])
      ∧ ∀ found ∈ values, ¬ found.equals upperNeighbour = true :=
  ⟨_, refine?_listing_eq_some_iff.mpr ⟨_, listsAs_lowerFirst, rfl⟩, .tail _ (.head _),
    fun _ => upperNeighbour_not_listed⟩

end Refinement

end JsonShape
