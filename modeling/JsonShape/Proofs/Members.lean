import JsonShape.Schema.Basic
import Mathlib.Data.List.Perm.Subperm

/-!
# Members without repeated names

`Members.ofEntries` keeps one entry for each name. Its result never repeats a name
(`Members.nodup_ofEntries`), it has the same names as the entries (`Members.mem_names_ofEntries`),
and it is the entries themselves exactly if these repeat no name (`Members.ofEntries_of_nodup`).
Where no name is repeated, to be a member and to be found under a name are the same
(`Members.lookup_eq_some_iff`). `Members.restrict` looks at the entries under some of the names
only, and each operation either works on these or leaves them alone (`Members.restrict_insert`,
`Members.restrict_erase`, `Members.restrict_ofEntries`).
-/

namespace JsonShape

namespace Members

variable {α β : Type}

/-! ### Names and membership -/

@[simp] theorem names_append (members others : Members α) :
    names (members ++ others) = names members ++ names others := by
  simp [names]

theorem mem_names_of_mem {members : Members α} {name : String} {value : α}
    (h : (name, value) ∈ members) : name ∈ names members :=
  List.mem_map.mpr ⟨(name, value), h, rfl⟩

theorem mem_of_lookup {members : Members α} {name : String} {value : α}
    (h : members.lookup name = some value) : (name, value) ∈ members := by
  induction members with
  | nil => simp at h
  | cons entry rest ih =>
    obtain ⟨key, old⟩ := entry
    rw [lookup_cons] at h
    split at h
    · next hk =>
      cases h
      simp [hk]
    · exact List.mem_cons_of_mem _ (ih h)

theorem lookup_of_mem {members : Members α} (nodup : (names members).Nodup) {name : String}
    {value : α} (h : (name, value) ∈ members) : members.lookup name = some value := by
  induction members with
  | nil => cases h
  | cons entry rest ih =>
    obtain ⟨key, old⟩ := entry
    rw [names_cons, List.nodup_cons] at nodup
    rw [lookup_cons]
    rcases List.mem_cons.mp h with heq | hrest
    · cases heq
      simp
    · have hne : key ≠ name := by
        intro hk
        subst hk
        exact nodup.1 (mem_names_of_mem hrest)
      rw [if_neg hne]
      exact ih nodup.2 hrest

theorem lookup_eq_some_iff {members : Members α} (nodup : (names members).Nodup) {name : String}
    {value : α} : members.lookup name = some value ↔ (name, value) ∈ members :=
  ⟨mem_of_lookup, lookup_of_mem nodup⟩

theorem lookup_eq_none {members : Members α} {name : String} :
    members.lookup name = none ↔ name ∉ names members := by
  induction members with
  | nil => simp
  | cons entry rest ih =>
    obtain ⟨key, old⟩ := entry
    rw [lookup_cons, names_cons, List.mem_cons]
    by_cases hk : key = name
    · simp [hk]
    · have hk' : name ≠ key := fun h => hk h.symm
      simp [hk, hk', ih]

theorem exists_lookup {members : Members α} {name : String} (h : name ∈ names members) :
    ∃ value, members.lookup name = some value := by
  cases found : members.lookup name with
  | none => exact absurd h (lookup_eq_none.mp found)
  | some value => exact ⟨value, rfl⟩

theorem contains_iff {members : Members α} {name : String} :
    contains members name = true ↔ name ∈ names members := by
  constructor
  · intro h
    obtain ⟨value, hv⟩ := Option.isSome_iff_exists.mp h
    exact mem_names_of_mem (mem_of_lookup hv)
  · intro h
    obtain ⟨value, hv⟩ := exists_lookup h
    simp [contains, hv]

/-! ### Functions on the values -/

@[simp] theorem names_mapMembers (f : α → β) (members : Members α) :
    names (Parts.mapMembers f members) = names members := by
  simp [names, Parts.mapMembers, Function.comp_def]

theorem lookup_mapMembers (f : α → β) (members : Members α) (name : String) :
    List.lookup name (Parts.mapMembers f members) = (members.lookup name).map f := by
  induction members with
  | nil => rfl
  | cons entry rest ih =>
    obtain ⟨key, value⟩ := entry
    show List.lookup name ((key, f value) :: Parts.mapMembers f rest) = _
    rw [lookup_cons, lookup_cons, ih]
    split <;> rfl

theorem mem_mapMembers {f : α → β} {members : Members α} {name : String} {image : β} :
    (name, image) ∈ Parts.mapMembers f members ↔
      ∃ value, (name, value) ∈ members ∧ f value = image := by
  simp only [Parts.mapMembers, List.mem_map, Prod.mk.injEq, Prod.exists]
  constructor
  · rintro ⟨key, value, h, rfl, rfl⟩
    exact ⟨value, h, rfl⟩
  · rintro ⟨value, h, rfl⟩
    exact ⟨name, value, h, rfl, rfl⟩

/-! ### One entry for each name -/

theorem insert_of_notMem {members : Members α} {name : String} (h : name ∉ names members)
    (value : α) : insert members name value = members ++ [(name, value)] := by
  induction members with
  | nil => rfl
  | cons entry rest ih =>
    obtain ⟨key, old⟩ := entry
    rw [names_cons, List.mem_cons, not_or] at h
    have hk : key ≠ name := fun hk => h.1 hk.symm
    rw [insert, if_neg hk, ih h.2, List.cons_append]

theorem nodup_insert {members : Members α} (nodup : (names members).Nodup) (name : String)
    (value : α) : (names (insert members name value)).Nodup := by
  rw [names_insert]
  split
  · exact nodup
  · next h =>
    rw [List.nodup_append]
    refine ⟨nodup, by simp, ?_⟩
    intro a ha b hb hab
    rw [List.mem_singleton] at hb
    subst hab hb
    exact h ha

theorem mem_names_insert {members : Members α} {name key : String} {value : α} :
    key ∈ names (insert members name value) ↔ key ∈ names members ∨ key = name := by
  rw [names_insert]
  split
  · next h =>
    constructor
    · exact Or.inl
    · rintro (hm | rfl)
      · exact hm
      · exact h
  · simp

theorem nodup_insertAll {members : Members α} (nodup : (names members).Nodup)
    (entries : Members α) : (names (insertAll members entries)).Nodup := by
  induction entries generalizing members with
  | nil => exact nodup
  | cons entry rest ih => exact ih (nodup_insert nodup entry.1 entry.2)

theorem mem_names_insertAll {members entries : Members α} {name : String} :
    name ∈ names (insertAll members entries) ↔ name ∈ names members ∨ name ∈ names entries := by
  induction entries generalizing members with
  | nil => simp [insertAll]
  | cons entry rest ih =>
    obtain ⟨key, value⟩ := entry
    show name ∈ names (insertAll (insert members key value) rest) ↔ _
    rw [ih, mem_names_insert, names_cons, List.mem_cons, or_assoc]

theorem mem_insert {members : Members α} {name : String} {value : α} {entry : String × α}
    (h : entry ∈ insert members name value) : entry ∈ members ∨ entry = (name, value) := by
  induction members with
  | nil => exact .inr (List.mem_singleton.mp h)
  | cons first rest ih =>
    obtain ⟨key, old⟩ := first
    rw [insert] at h
    split at h
    · next hk =>
      rcases List.mem_cons.mp h with rfl | hrest
      · exact .inr (by rw [hk])
      · exact .inl (List.mem_cons_of_mem _ hrest)
    · rcases List.mem_cons.mp h with rfl | hrest
      · exact .inl List.mem_cons_self
      · exact (ih hrest).imp_left (List.mem_cons_of_mem _)

theorem mem_insertAll {members entries : Members α} {entry : String × α}
    (h : entry ∈ insertAll members entries) : entry ∈ members ∨ entry ∈ entries := by
  induction entries generalizing members with
  | nil => exact .inl h
  | cons first rest ih =>
    rcases ih h with hinsert | hrest
    · rcases mem_insert hinsert with hmem | rfl
      · exact .inl hmem
      · exact .inr List.mem_cons_self
    · exact .inr (List.mem_cons_of_mem _ hrest)

theorem nodup_ofEntries (entries : Members α) : (names (ofEntries entries)).Nodup :=
  nodup_insertAll (by simp) entries

theorem mem_names_ofEntries {entries : Members α} {name : String} :
    name ∈ names (ofEntries entries) ↔ name ∈ names entries := by
  simp [ofEntries, mem_names_insertAll]

/-- Entries that bring only new names, each once, are appended as they are. -/
theorem insertAll_of_nodup {members entries : Members α}
    (nodup : (names (members ++ entries)).Nodup) :
    insertAll members entries = members ++ entries := by
  induction entries generalizing members with
  | nil => simp [insertAll]
  | cons entry rest ih =>
    obtain ⟨key, value⟩ := entry
    have hnew : key ∉ names members := by
      rw [names_append, List.nodup_append] at nodup
      intro hk
      exact nodup.2.2 key hk key (by simp) rfl
    show insertAll (insert members key value) rest = _
    rw [insert_of_notMem hnew, ih (by simpa using nodup), List.append_assoc, List.singleton_append]

theorem ofEntries_of_nodup {entries : Members α} (nodup : (names entries).Nodup) :
    ofEntries entries = entries :=
  insertAll_of_nodup nodup

theorem erase_of_notMem {members : Members α} {name : String} (h : name ∉ names members) :
    erase members name = members := by
  rw [erase, List.filter_eq_self]
  intro entry hentry
  have hne : entry.1 ≠ name := fun heq => h (heq ▸ mem_names_of_mem hentry)
  exact bne_iff_ne.mpr hne

/-- A name that stands once stands neither before its place nor after it. -/
theorem notMem_of_nodup_split {before after : Members α} {name : String} {value : α}
    (nodup : (names (before ++ (name, value) :: after)).Nodup) :
    name ∉ names before ∧ name ∉ names after := by
  rw [names_append, names_cons, List.nodup_append, List.nodup_cons] at nodup
  obtain ⟨-, ⟨hafter, -⟩, hdisjoint⟩ := nodup
  exact ⟨fun hbefore => hdisjoint name hbefore name List.mem_cons_self rfl, hafter⟩

theorem erase_split {before after : Members α} {name : String} {value : α}
    (nodup : (names (before ++ (name, value) :: after)).Nodup) :
    erase (before ++ (name, value) :: after) name = before ++ after := by
  obtain ⟨hbefore, hafter⟩ := notMem_of_nodup_split nodup
  have hsplit : erase (before ++ (name, value) :: after) name
      = erase before name ++ erase after name := by
    rw [erase, List.filter_append, List.filter_cons_of_neg (by simp)]
    rfl
  rw [hsplit, erase_of_notMem hbefore, erase_of_notMem hafter]

theorem filter_notMem_singleton (members : Members α) (name : String) :
    members.filter (fun entry => entry.1 ∉ [name]) = erase members name := by
  refine List.filter_congr fun entry _ => ?_
  simp [bne, Bool.beq_eq_decide_eq]

theorem insert_perm {members : Members α} (nodup : (names members).Nodup) (name : String)
    (value : α) :
    List.Perm (insert members name value)
      (members.filter (fun entry => entry.1 ∉ [name]) ++ [(name, value)]) := by
  induction members with
  | nil => exact List.Perm.refl _
  | cons entry rest ih =>
    obtain ⟨key, old⟩ := entry
    rw [names_cons, List.nodup_cons] at nodup
    by_cases hk : key = name
    · subst hk
      -- the name stands here only, so nothing else is filtered out
      rw [insert, if_pos rfl, List.filter_cons_of_neg (by simp), filter_notMem_singleton,
        erase_of_notMem nodup.1]
      exact List.perm_append_singleton _ _ |>.symm
    · rw [insert, if_neg hk, List.filter_cons_of_pos (by simpa using hk)]
      exact (ih nodup.2).cons _

theorem insert_mapMembers (f : α → β) (members : Members α) (name : String) (value : α) :
    insert (Parts.mapMembers f members) name (f value)
      = Parts.mapMembers f (insert members name value) := by
  induction members with
  | nil => rfl
  | cons entry rest ih =>
    obtain ⟨key, old⟩ := entry
    show insert ((key, f old) :: Parts.mapMembers f rest) name (f value) = _
    rw [insert, insert, ih]
    split <;> rfl

theorem ofEntries_mapMembers (f : α → β) (entries : Members α) :
    ofEntries (Parts.mapMembers f entries) = Parts.mapMembers f (ofEntries entries) := by
  -- the induction needs any members to start from
  have hall : ∀ members : Members α, insertAll (Parts.mapMembers f members)
      (Parts.mapMembers f entries) = Parts.mapMembers f (insertAll members entries) := by
    induction entries with
    | nil => exact fun _ => rfl
    | cons entry rest ih =>
      intro members
      show insertAll (insert (Parts.mapMembers f members) entry.1 (f entry.2))
        (Parts.mapMembers f rest) = _
      rw [insert_mapMembers]
      exact ih _
  exact hall []

/-- The entries replace the members whose names they repeat. -/
theorem insertAll_perm {members entries : Members α} (nodup : (names members).Nodup)
    (hentries : (names entries).Nodup) :
    List.Perm (insertAll members entries)
      (members.filter (fun entry => entry.1 ∉ names entries) ++ entries) := by
  induction entries generalizing members with
  | nil => simp [insertAll]
  | cons entry rest ih =>
    obtain ⟨key, value⟩ := entry
    rw [names_cons, List.nodup_cons] at hentries
    have hkept : (members.filter (fun entry => entry.1 ∉ [key])).filter
          (fun entry => entry.1 ∉ names rest)
        = members.filter (fun entry => entry.1 ∉ names ((key, value) :: rest)) := by
      rw [List.filter_filter]
      refine List.filter_congr fun entry _ => ?_
      simp [Bool.and_comm]
    -- the entry that was put in is not among the names of the rest, so their filter keeps it
    refine (ih (nodup_insert nodup key value) hentries.2).trans ?_
    refine ((insert_perm nodup key value).filter _ |>.append_right rest).trans ?_
    rw [List.filter_append, hkept, List.filter_cons_of_pos (by simpa using hentries.1),
      List.filter_nil, List.append_assoc, List.singleton_append]

/-- What is inserted last counts. -/
theorem lookup_insertAll {members entries : Members α} (hentries : (names entries).Nodup)
    (name : String) :
    (insertAll members entries).lookup name = (entries.lookup name).or (members.lookup name) := by
  induction entries generalizing members with
  | nil => rfl
  | cons entry rest ih =>
    obtain ⟨key, value⟩ := entry
    rw [names_cons, List.nodup_cons] at hentries
    show (insertAll (insert members key value) rest).lookup name = _
    rw [ih hentries.2, lookup_insert, lookup_cons]
    split
    · next hk =>
      subst hk
      rw [lookup_eq_none.mpr hentries.1]
      rfl
    · rfl

theorem lookup_ofEntries_append {members entries : Members α} (nodup : (names members).Nodup)
    (hentries : (names entries).Nodup) (name : String) :
    (ofEntries (members ++ entries)).lookup name
      = (entries.lookup name).or (members.lookup name) := by
  have happend : ofEntries (members ++ entries) = insertAll (ofEntries members) entries :=
    List.foldl_append
  rw [happend, ofEntries_of_nodup nodup, lookup_insertAll hentries]

/-- Of two lists without repeated names, the second replaces what it repeats of the first. -/
theorem ofEntries_append_perm {members entries : Members α} (nodup : (names members).Nodup)
    (hentries : (names entries).Nodup) :
    List.Perm (ofEntries (members ++ entries))
      (members.filter (fun entry => entry.1 ∉ names entries) ++ entries) := by
  have happend : ofEntries (members ++ entries) = insertAll (ofEntries members) entries :=
    List.foldl_append
  rw [happend, ofEntries_of_nodup nodup]
  exact insertAll_perm nodup hentries

/-- An entry is lost exactly if a name is repeated. -/
theorem length_ofEntries_eq_iff (entries : Members α) :
    (ofEntries entries).length = entries.length ↔ (names entries).Nodup := by
  constructor
  · intro h
    have hsub : List.Subperm (names (ofEntries entries)) (names entries) :=
      List.subperm_of_subset (nodup_ofEntries entries) fun _ => mem_names_ofEntries.mp
    -- a sublist up to order that is not shorter is the whole list
    have hperm : List.Perm (names (ofEntries entries)) (names entries) :=
      hsub.perm_of_length_le (by simp [names, h])
    exact hperm.nodup_iff.mp (nodup_ofEntries entries)
  · intro nodup
    rw [ofEntries_of_nodup nodup]

/-! ### Values that come and go -/

/-- Erasing a name takes out the value that stands under it. -/
theorem values_erase_perm {members : Members α} (nodup : (names members).Nodup) (name : String) :
    List.Perm ((members.lookup name).toList ++ values (erase members name)) (values members) := by
  induction members with
  | nil => exact List.Perm.refl _
  | cons entry rest ih =>
    obtain ⟨key, value⟩ := entry
    rw [names_cons, List.nodup_cons] at nodup
    have hcons : values ((key, value) :: rest) = value :: values rest := rfl
    rw [lookup_cons]
    by_cases hkey : key = name
    · subst hkey
      -- the name stands here only, so the rest stays as it is
      have herase : erase ((key, value) :: rest) key = rest := by
        rw [erase, List.filter_cons_of_neg (by simp)]
        exact erase_of_notMem nodup.1
      rw [if_pos rfl, herase]
      exact List.Perm.refl _
    · rw [if_neg hkey, erase, List.filter_cons_of_pos (by simpa using hkey), hcons]
      exact List.perm_middle.trans ((ih nodup.2).cons value)

/-- Inserting a value replaces the one that stands under its name. -/
theorem values_insert_perm {members : Members α} (nodup : (names members).Nodup) (name : String)
    (value : α) :
    List.Perm ((members.lookup name).toList ++ values (insert members name value))
      (value :: values members) := by
  have hinsert : List.Perm (values (insert members name value))
      (values (erase members name) ++ [value]) := by
    have hperm := (insert_perm nodup name value).map Prod.snd
    rwa [filter_notMem_singleton, List.map_append] at hperm
  refine (hinsert.append_left _).trans ?_
  rw [← List.append_assoc]
  exact (List.perm_append_singleton _ _).trans ((values_erase_perm nodup name).cons value)

/-! ### The entries under some of the names -/

/-- The entries whose names satisfy a condition. -/
def restrict (members : Members α) (p : String → Bool) : Members α :=
  members.filter fun entry => p entry.1

theorem restrict_cons (name : String) (value : α) (rest : Members α) (p : String → Bool) :
    restrict ((name, value) :: rest) p
      = if p name then (name, value) :: restrict rest p else restrict rest p :=
  List.filter_cons

theorem restrict_perm (members : Members α) (p : String → Bool) :
    List.Perm (restrict members p ++ restrict members fun name => !p name) members :=
  List.filter_append_perm _ _

theorem notMem_names_restrict {members : Members α} {p : String → Bool} {name : String}
    (h : p name = false) : name ∉ names (restrict members p) := by
  intro hmem
  obtain ⟨entry, hentry, rfl⟩ := List.mem_map.mp hmem
  have hentry' : p entry.1 = true := (List.mem_filter.mp hentry).2
  rw [h] at hentry'
  cases hentry'

theorem lookup_restrict (members : Members α) (p : String → Bool) (name : String) :
    (restrict members p).lookup name = if p name then members.lookup name else none := by
  induction members with
  | nil => simp [restrict]
  | cons entry rest ih =>
    obtain ⟨key, value⟩ := entry
    rw [restrict_cons]
    by_cases hkey : p key = true
    · rw [if_pos hkey, lookup_cons, lookup_cons, ih]
      by_cases h : key = name
      · simp [← h, hkey]
      · simp [h]
    · rw [if_neg hkey, lookup_cons, ih]
      by_cases h : key = name
      · simp [← h, hkey]
      · simp [h]

/-- Under the names of a condition stands what stands there among the entries for it. -/
theorem lookup_eq_of_restrict {members others : Members α} {p : String → Bool}
    (h : restrict members p = restrict others p) {name : String} (hname : p name = true) :
    members.lookup name = others.lookup name := by
  have hlookup := congrArg (List.lookup name) h
  rwa [lookup_restrict, lookup_restrict, if_pos hname, if_pos hname] at hlookup

theorem restrict_insert (members : Members α) (p : String → Bool) (name : String) (value : α) :
    restrict (insert members name value) p
      = if p name then insert (restrict members p) name value else restrict members p := by
  induction members with
  | nil => exact restrict_cons name value [] p
  | cons entry rest ih =>
    obtain ⟨key, old⟩ := entry
    by_cases hkey : key = name
    · subst hkey
      by_cases h : p key = true <;> simp [insert, restrict_cons, h]
    · by_cases h : p key = true
      · by_cases hname : p name = true <;> simp [insert, restrict_cons, hkey, h, hname, ih]
      · simp [insert, restrict_cons, hkey, h, ih]

theorem restrict_erase (members : Members α) (p : String → Bool) (name : String) :
    restrict (erase members name) p = erase (restrict members p) name := by
  simp only [restrict, erase, List.filter_filter, Bool.and_comm]

theorem restrict_ofEntries (entries : Members α) (p : String → Bool) :
    restrict (ofEntries entries) p = ofEntries (restrict entries p) := by
  -- the induction needs any members to start from
  have hall : ∀ members : Members α,
      restrict (insertAll members entries) p
        = insertAll (restrict members p) (restrict entries p) := by
    induction entries with
    | nil => exact fun _ => rfl
    | cons entry rest ih =>
      intro members
      obtain ⟨key, value⟩ := entry
      show restrict (insertAll (insert members key value) rest) p = _
      rw [ih, restrict_insert, restrict_cons]
      split <;> rfl
  exact hall []

end Members

end JsonShape
