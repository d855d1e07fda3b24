/-!
# Members in insertion order

Objects, property maps and tree children are lists of named values. `Members.insert` keeps one entry
for each name: a new name goes to the end, a known one keeps its place and takes the new value. What
the list holds under a name is `List.lookup`; the lemmas below say what each operation does to the
names and to that view.
-/

namespace JsonShape

/-- Named values in order. -/
abbrev Members (α : Type) := List (String × α)

namespace Members

variable {α β : Type}

/-- The names in order. -/
def names (members : Members α) : List String := members.map Prod.fst

/-- The values in order. -/
def values (members : Members α) : List α := members.map Prod.snd

/-- Put a value under a name: in place when the name is known, at the end otherwise. -/
def insert (members : Members α) (name : String) (value : α) : Members α :=
  match members with
  | [] => [(name, value)]
  | (key, old) :: rest =>
    if key = name then (key, value) :: rest else (key, old) :: insert rest name value

/-- Take a name out; the others keep their order. -/
def erase (members : Members α) (name : String) : Members α :=
  members.filter fun entry => entry.1 != name

/-- Insert the entries one after another. -/
def insertAll (members entries : Members α) : Members α :=
  entries.foldl (fun acc entry => insert acc entry.1 entry.2) members

/-- The members that a sequence of entries leaves: for each name its first place and last value. -/
def ofEntries (entries : Members α) : Members α := insertAll [] entries

/-- Whether a name is present. -/
def contains (members : Members α) (name : String) : Bool := (members.lookup name).isSome

/-! ### The view by name -/

@[simp] theorem names_nil : names ([] : Members α) = [] := rfl

@[simp] theorem names_cons (name : String) (value : α) (rest : Members α) :
    names ((name, value) :: rest) = name :: names rest := rfl

@[simp] theorem lookup_nil (name : String) : List.lookup name ([] : Members α) = none := rfl

theorem lookup_cons (key name : String) (value : α) (rest : Members α) :
    List.lookup name ((key, value) :: rest)
      = if key = name then some value else List.lookup name rest := by
  rw [List.lookup_cons]
  by_cases h : key = name
  · simp [h]
  · simp [h, beq_eq_false_iff_ne.mpr (Ne.symm h)]

theorem lookup_insert (members : Members α) (name key : String) (value : α) :
    (insert members name value).lookup key
      = if name = key then some value else members.lookup key := by
  induction members with
  | nil => simp [insert, lookup_cons]
  | cons entry rest ih =>
    obtain ⟨k, old⟩ := entry
    by_cases hk : k = name
    · subst hk
      by_cases h : k = key <;> simp [insert, lookup_cons, h]
    · by_cases h : k = key
      · subst h
        simp [insert, hk, Ne.symm hk]
      · simp [insert, lookup_cons, hk, h, ih]

theorem names_insert (members : Members α) (name : String) (value : α) :
    names (insert members name value)
      = if name ∈ names members then names members else names members ++ [name] := by
  induction members with
  | nil => simp [insert]
  | cons entry rest ih =>
    obtain ⟨k, old⟩ := entry
    by_cases hk : k = name
    · simp [insert, hk]
    · have hk' : name ≠ k := fun h => hk h.symm
      by_cases hm : name ∈ names rest <;> simp [insert, hk, hk', hm, ih]

theorem names_erase (members : Members α) (name : String) :
    names (erase members name) = (names members).filter (· != name) := by
  simp only [names, erase, List.filter_map]
  rfl

end Members

end JsonShape
