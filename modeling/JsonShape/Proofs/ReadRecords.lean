import JsonShape.Proofs.Members
import JsonShape.Proofs.ReadValues
import JsonShape.Record.Reader

/-!
# Fields of records that were read

The value of a field is checked before it is taken into a record, whichever way the record is
written, so a record that was read holds nothing that its shape does not allow.

* **Every field** (`RecordShape.holds_of_read`) — of a record that was read has its form.
* **Integers** (`RecordShape.Holds.whole_bounds`) — lie between the bounds of their fields.
-/

namespace JsonShape

/-- Whether a value is one that a field of a form can have. -/
def FieldForm.Holds : FieldForm → Json → Prop
  | text, value => value.isString = true
  | flag, value => ∃ accepts, value = .bool accepts
  | whole _ least most, value => ∃ n h, value = .number (.integer n h) ∧ least ≤ n ∧ n ≤ most
  | real, value => ∃ x, value = .number (.real x)
  | variant names, value => ∃ name ∈ names, value = .string name
  | schema, value => (Schema.ofJson? value).isSome = true
  | optional form, value => value = .null ∨ form.Holds value

/-- Whether every entry is a field of a shape with a value of its form. -/
def RecordShape.Holds (shape : RecordShape) (given : Members Json) : Prop :=
  ∀ name value, (name, value) ∈ given →
    ∃ field ∈ shape.fields, field.name = name ∧ field.form.Holds value

namespace RecordShape.Holds

variable {shape : RecordShape} {given : Members Json}

theorem nil : shape.Holds [] := by
  intro name value hmem
  cases hmem

theorem append_singleton (h : shape.Holds given) {field : RecordField}
    (hfield : field ∈ shape.fields) {value : Json} (hvalue : field.form.Holds value) :
    shape.Holds (given ++ [(field.name, value)]) := by
  intro name other hmem
  rcases List.mem_append.mp hmem with hgiven | hlast
  · exact h name other hgiven
  · obtain ⟨rfl, rfl⟩ := Prod.mk.inj (List.mem_singleton.mp hlast)
    exact ⟨field, hfield, rfl, hvalue⟩

end RecordShape.Holds

/-! ### One value -/

theorem FieldForm.holds_of_accept {form : FieldForm} {value found : Json}
    (h : form.accept value = .ok found) : form.Holds found := by
  induction form with
  | text =>
    rw [accept] at h
    split at h
    · next hstring =>
      cases h
      exact hstring
    · cases h
  | flag =>
    cases value with
    | bool accepts =>
      cases h
      exact ⟨accepts, rfl⟩
    | _ => cases h
  | whole label least most =>
    cases value with
    | number number =>
      cases number with
      | integer n hn =>
        rw [accept] at h
        split at h
        · next hrange =>
          cases h
          exact ⟨n, hn, rfl, hrange⟩
        · cases h
      | real x => cases h
    | _ => cases h
  | real =>
    cases value with
    | number number =>
      cases h
      exact ⟨_, rfl⟩
    | _ => cases h
  | variant names =>
    cases value with
    | string name =>
      rw [accept] at h
      split at h
      · next hname =>
        cases h
        exact ⟨name, List.contains_iff_mem.mp hname, rfl⟩
      · cases h
    | _ => cases h
  | schema =>
    rw [accept] at h
    split at h
    · next hschema =>
      cases h
      exact hschema
    · cases h
  | optional form ih =>
    cases value with
    | null =>
      cases h
      exact .inl rfl
    | _ => exact .inr (ih h)

namespace RecordReader

theorem mapError_eq_ok {ε ε' α : Type} {x : Except ε α} {f : ε → ε'} {a : α}
    (h : x.mapError f = .ok a) : x = .ok a := by
  cases x with
  | error _ => cases h
  | ok _ =>
    cases h
    rfl

/-- A map that keeps the result of a reader and only changes the rest. -/
theorem exists_of_map_rest {ε α β γ : Type} {x : Except ε (α × β)} {f : α × β → α × γ} {a : α}
    {rest : γ} (h : x.map f = .ok (a, rest)) (hf : ∀ read, (f read).1 = read.1) :
    ∃ before, x = .ok (a, before) := by
  obtain ⟨⟨found, before⟩, hread, heq⟩ := map_eq_ok h
  have hfound : found = a := (hf (found, before)).symm.trans (congrArg Prod.fst heq)
  exact ⟨before, hfound ▸ hread⟩

theorem exists_of_scalar {text : List Char} {onScalar : Json → Except Mismatch Json}
    {expected : String} {found : Json} {rest : Shorter text}
    (h : scalar text onScalar expected = .ok (found, rest)) :
    ∃ value, onScalar value = .ok found := by
  unfold scalar at h
  split at h
  · cases h
  · cases h
  · split at h
    · cases h
    · next value _ _ =>
      obtain ⟨accepted, haccept, heq⟩ := map_eq_ok h
      obtain ⟨rfl, -⟩ := Prod.mk.inj heq
      exact ⟨value, mapError_eq_ok haccept⟩

theorem holds_of_name {names : List String} {value found : Json}
    (h : name names value = .ok found) : (FieldForm.variant names).Holds found := by
  cases value with
  | string text => exact FieldForm.holds_of_accept h
  | _ => cases h

theorem holds_of_variant {names : List String} {text : List Char} {found : Json}
    {rest : Shorter text} (h : variant names text = .ok (found, rest)) :
    (FieldForm.variant names).Holds found := by
  unfold variant at h
  split at h
  · cases h
  · obtain ⟨value, hname⟩ := exists_of_scalar h
    exact holds_of_name hname
  · split at h
    · cases h
    · next hscalar =>
      obtain ⟨value, hname⟩ := exists_of_scalar hscalar
      -- what follows the name is read but not kept
      split at h
      · cases h
      · split at h
        · cases h
        · split at h
          · cases h
            exact holds_of_name hname
          · cases h
          · cases h
  · cases h

theorem holds_of_field {text : List Char} {form : FieldForm} {found : Json} {rest : Shorter text}
    (h : field text form = .ok (found, rest)) : form.Holds found := by
  have hscalar : ∀ {form : FieldForm} {expected : String},
      scalar text form.accept expected = .ok (found, rest) → form.Holds found := by
    intro form expected hread
    obtain ⟨value, haccept⟩ := exists_of_scalar hread
    exact FieldForm.holds_of_accept haccept
  induction form with
  | text => exact hscalar h
  | flag => exact hscalar h
  | whole label least most => exact hscalar h
  | real => exact hscalar h
  | variant names => exact holds_of_variant h
  | schema =>
    rw [field] at h
    split at h
    · cases h
    · obtain ⟨accepted, haccept, heq⟩ := map_eq_ok h
      obtain ⟨rfl, -⟩ := Prod.mk.inj heq
      exact FieldForm.holds_of_accept (mapError_eq_ok haccept)
  | optional form ih =>
    rw [field] at h
    split at h
    · obtain ⟨_, _, heq⟩ := map_eq_ok h
      obtain ⟨rfl, -⟩ := Prod.mk.inj heq
      exact .inl rfl
    · exact .inr (ih h)

/-! ### All fields -/

variable {shape : RecordShape} {given result : Members Json} {text : List Char}

theorem holds_of_members {first : Bool} {rest : Shorter text}
    (h : members shape given first text = .ok (result, rest)) (hgiven : shape.Holds given) :
    shape.Holds result := by
  induction hn : text.length using Nat.strongRecOn generalizing text given first with
  | ind n ih =>
    subst hn
    rw [members] at h
    split at h
    · cases h
    · split at h
      · cases h
      · cases h
        exact hgiven
    · next name start hstart _ =>
      split at h
      · -- a member of no field is read over
        split at h
        · cases h
        · next content hcontent _ =>
          split at h
          · cases h
          · next after hafter _ =>
            obtain ⟨_, hrest⟩ := exists_of_map_rest h fun _ => rfl
            exact ih after.length (by omega) hrest hgiven rfl
      · next field hfield =>
        -- the value of a field is taken in only if it was accepted
        have hmem : field ∈ shape.fields := List.mem_of_find?_eq_some hfield
        have hfound := List.find?_some hfield
        have hname : field.name = name := beq_iff_eq.mp hfound
        split at h
        · cases h
        · split at h
          · cases h
          · next content hcontent _ =>
            split at h
            · cases h
            · next value after hafter hvalue =>
              obtain ⟨_, hrest⟩ := exists_of_map_rest h fun _ => rfl
              rw [← hname] at hrest
              exact ih after.length (by omega) hrest
                (hgiven.append_singleton hmem (holds_of_field hvalue)) rfl

theorem holds_of_elements {index : Nat} {fields : List RecordField} {rest : Shorter text}
    (h : elements shape given index text fields = .ok (result, rest))
    (hfields : ∀ field ∈ fields, field ∈ shape.fields) (hgiven : shape.Holds given) :
    shape.Holds result := by
  induction fields generalizing text given index with
  | nil =>
    obtain ⟨_, _, heq⟩ := map_eq_ok h
    obtain ⟨rfl, -⟩ := Prod.mk.inj heq
    exact hgiven
  | cons next fields ih =>
    rw [List.forall_mem_cons] at hfields
    rw [elements] at h
    split at h
    · cases h
    · split at h
      · cases h
      · exact ih h hfields.2 hgiven
    · split at h
      · cases h
      · next hvalue =>
        obtain ⟨_, hrest⟩ := exists_of_map_rest h fun _ => rfl
        exact ih hrest hfields.2 (hgiven.append_singleton hfields.1 (holds_of_field hvalue))

theorem holds_of_record {rest : Shorter text} (h : record shape text = .ok (result, rest)) :
    shape.Holds result := by
  unfold record at h
  split at h
  · obtain ⟨_, hread⟩ := exists_of_map_rest h fun _ => rfl
    exact holds_of_elements hread (fun _ => id) .nil
  · obtain ⟨_, hread⟩ := exists_of_map_rest h fun _ => rfl
    exact holds_of_members hread .nil
  · split at h <;> cases h

end RecordReader

/-- Every field of a record that was read has its form. -/
theorem RecordShape.holds_of_read {shape : RecordShape} {text : String} {given : Members Json}
    (h : shape.read text = .ok given) : shape.Holds given := by
  unfold RecordShape.read RecordReader.whole at h
  dsimp only at h
  split at h
  · cases h
  · cases h
  · next found rest hread =>
    obtain ⟨_, hrecord⟩ := RecordReader.exists_of_map_rest hread fun _ => rfl
    cases htrailing : Reader.trailing? rest with
    | none =>
      rw [htrailing] at h
      cases h
      exact RecordReader.holds_of_record hrecord
    | some fault =>
      rw [htrailing] at h
      cases h

/-! ### Integers within bounds -/

/-- The bounds of the integers of a form. -/
def FieldForm.bounds? : FieldForm → Option (Int × Int)
  | whole _ least most => some (least, most)
  | optional form => form.bounds?
  | _ => none

theorem FieldForm.bounds_of_holds {form : FieldForm} {least most n : Int} {hn}
    (h : form.Holds (.number (.integer n hn))) (hbounds : form.bounds? = some (least, most)) :
    least ≤ n ∧ n ≤ most := by
  induction form with
  | whole label low high =>
    obtain ⟨rfl, rfl⟩ := Prod.mk.inj (Option.some.inj hbounds)
    obtain ⟨m, _, heq, hrange⟩ := h
    cases heq
    exact hrange
  | optional form ih =>
    rcases h with hnull | hform
    · cases hnull
    · exact ih hform hbounds
  | _ => cases hbounds

/-- An integer of a record that was read lies between the bounds of its field. -/
theorem RecordShape.Holds.whole_bounds {shape : RecordShape} {given : Members Json}
    (h : shape.Holds given) {name : String} (least most : Int)
    (hbounds : ∀ field ∈ shape.fields, field.name = name →
      field.form.bounds? = some (least, most))
    {n : Int} (hfound : given.whole? name = some n) : least ≤ n ∧ n ≤ most := by
  unfold Members.whole? at hfound
  split at hfound
  · next hlookup =>
    cases hfound
    obtain ⟨field, hmem, hname, hform⟩ := h name _ (Members.mem_of_lookup hlookup)
    exact FieldForm.bounds_of_holds hform (hbounds field hmem hname)
  · cases hfound

end JsonShape
