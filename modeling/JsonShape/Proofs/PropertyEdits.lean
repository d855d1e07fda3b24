import JsonShape.Proofs.EditRuns

/-!
# Edits of properties as changes

An edit of properties makes one change to each of the two maps and one to the list of required
names; all other keywords stay as they are. Which changes these are depends on the schema in little:
on whether the map is there, and for a toggle on the property that is moved.

Main statement: `Edit.apply_object` says what an edit does in these terms. A change either works on
the entries under some of the names, or leaves them alone (`MapChange.restrict_apply` and
`MapChange.restrict_apply_of_not`).
-/

namespace JsonShape

open Members

/-! ### Views of a schema -/

namespace Schema

/-- The entries of a map of properties, of which there are none without the map. -/
def properties (schema : Schema) (kind : PropertyKind) : Members Schema :=
  (schema.propertyMap? kind).getD []

/-- The list of required names. -/
def required? (schema : Schema) : Option (List String) := schema.facets?.bind Facets.required

/-- The required names, of which there are none without the list. -/
def requiredNames (schema : Schema) : List String := schema.required?.getD []

/-- The schema without its properties and required names. -/
def otherKeywords (schema : Schema) : Schema :=
  schema.edit fun facets parts =>
    ({ facets with required := none }, { parts with properties := none, patternProperties := none })

theorem properties_of_propertyMap? {schema : Schema} {kind : PropertyKind}
    {entries : Members Schema} (h : schema.propertyMap? kind = some entries) :
    schema.properties kind = entries := by
  rw [properties, h]
  rfl

/-- Where a name stands for a property there is a map. -/
theorem propertyMap?_of_mem {schema : Schema} {kind : PropertyKind} {name : String}
    (h : name ∈ names (schema.properties kind)) :
    schema.propertyMap? kind = some (schema.properties kind) := by
  rw [properties] at h ⊢
  cases hmap : schema.propertyMap? kind with
  | none =>
    rw [hmap] at h
    cases h
  | some properties => rfl

theorem lookup_properties (schema : Schema) (kind : PropertyKind) (name : String) :
    (schema.properties kind).lookup name = (schema.propertyMap? kind).bind (List.lookup name) := by
  rw [properties]
  cases schema.propertyMap? kind <;> rfl

theorem isRequired_iff {schema : Schema} {name : String} :
    schema.isRequired name = true ↔ name ∈ schema.requiredNames :=
  List.contains_iff_mem

end Schema

/-! ### Changes of a map -/

/-- What an edit does to a map of properties. -/
inductive MapChange
  | keep
  | put (name : String) (property : Schema)
  | take (name : String)
  | rename (old new : String)

namespace MapChange

/-- The entries after a change. -/
def apply (change : MapChange) (properties : Members Schema) : Members Schema :=
  match change with
  | keep => properties
  | put name property => insert properties name property
  | take name => erase properties name
  | rename old new =>
    ofEntries (properties.map fun entry => (Schema.renamed old new entry.1, entry.2))

/-- The map after a change; if there is none, only an entry that is put in makes one. -/
def applyOption (change : MapChange) : Option (Members Schema) → Option (Members Schema) :=
  match change with
  | keep => id
  | put name property => fun properties? => some (insert (properties?.getD []) name property)
  | _ => Option.map change.apply

/-- The names that a change is about. -/
def mentions : MapChange → List String
  | keep => []
  | put name _ => [name]
  | take name => [name]
  | rename old new => [old, new]

/-- The property that a change brings. -/
def given : MapChange → List Schema
  | put _ property => [property]
  | _ => []

variable (change : MapChange) {properties : Members Schema} {p : String → Bool}

theorem getD_applyOption (properties? : Option (Members Schema)) :
    (change.applyOption properties?).getD [] = change.apply (properties?.getD []) := by
  cases change <;> cases properties? <;> rfl

theorem isSome_applyOption {properties? : Option (Members Schema)} (h : properties?.isSome = true) :
    (change.applyOption properties?).isSome = true := by
  obtain ⟨properties, rfl⟩ := Option.isSome_iff_exists.mp h
  cases change <;> rfl

theorem nodup_apply (nodup : (names properties).Nodup) :
    (names (change.apply properties)).Nodup := by
  cases change with
  | keep => exact nodup
  | put name property => exact nodup_insert nodup name property
  | take name =>
    show (names (erase properties name)).Nodup
    rw [names_erase]
    exact nodup.filter _
  | rename old new => exact nodup_ofEntries _

/-- Without an entry of the old name nothing is renamed. -/
theorem map_renamed_of_notMem {old : String} (h : old ∉ names properties) (new : String) :
    properties.map (fun entry => (Schema.renamed old new entry.1, entry.2)) = properties := by
  refine (List.map_congr_left fun entry hentry => ?_).trans (List.map_id _)
  have hne : entry.1 ≠ old := fun heq => h (heq ▸ mem_names_of_mem hentry)
  rw [Schema.renamed, if_neg hne]
  rfl

theorem nodup_map_renamed {ns : List String} {new : String} (nodup : ns.Nodup) (h : new ∉ ns)
    (old : String) : (ns.map (Schema.renamed old new)).Nodup := by
  refine nodup.map_on fun name hname other hother heq => ?_
  have hne : name ≠ new := ne_of_mem_of_not_mem hname h
  have hne' : other ≠ new := ne_of_mem_of_not_mem hother h
  -- two names fall together only if one of them was the new name
  unfold Schema.renamed at heq
  split at heq <;> split at heq <;> simp_all

/-- To a name that is not in use an entry is renamed in its place. -/
theorem apply_rename {new : String} (nodup : (names properties).Nodup) (h : new ∉ names properties)
    (old : String) : (rename old new).apply properties
      = properties.map fun entry => (Schema.renamed old new entry.1, entry.2) := by
  have hnames : (names (properties.map fun entry =>
      (Schema.renamed old new entry.1, entry.2))).Nodup := by
    have hmap := nodup_map_renamed nodup h old
    rwa [names, List.map_map] at hmap ⊢
  exact ofEntries_of_nodup hnames

theorem apply_rename_split {before after : Members Schema} {old new : String} {property : Schema}
    (nodup : (names (before ++ (old, property) :: after)).Nodup)
    (h : new ∉ names (before ++ (old, property) :: after)) :
    (rename old new).apply (before ++ (old, property) :: after)
      = before ++ (new, property) :: after := by
  rw [apply_rename nodup h]
  obtain ⟨hbefore, hafter⟩ := notMem_of_nodup_split nodup
  rw [List.map_append, List.map_cons, map_renamed_of_notMem hbefore, map_renamed_of_notMem hafter,
    Schema.renamed, if_pos rfl]

/-- A name that something is renamed from is in use no longer. -/
theorem notMem_names_apply_rename {old new : String} (hne : old ≠ new)
    (properties : Members Schema) : old ∉ names ((rename old new).apply properties) := by
  intro hmem
  obtain ⟨entry, hentry, heq⟩ := List.mem_map.mp (mem_names_ofEntries.mp hmem)
  obtain ⟨before, -, rfl⟩ := List.mem_map.mp hentry
  simp only [Schema.renamed] at heq
  split at heq
  · exact hne heq.symm
  · next h => exact h heq

theorem apply_rename_of_notMem {old : String} (nodup : (names properties).Nodup)
    (h : old ∉ names properties) (new : String) :
    (rename old new).apply properties = properties := by
  show ofEntries _ = _
  rw [map_renamed_of_notMem h, ofEntries_of_nodup nodup]

/-- Renaming commutes with looking at the names of a condition if it does not lead into them or out
of them. -/
theorem restrict_map_renamed {old new : String} (h : p old = p new) (properties : Members Schema) :
    restrict (properties.map fun entry => (Schema.renamed old new entry.1, entry.2)) p
      = (restrict properties p).map fun entry => (Schema.renamed old new entry.1, entry.2) := by
  -- no name gets in or out by being renamed
  have hsame (name : String) : p (Schema.renamed old new name) = p name := by
    rw [Schema.renamed]
    split
    · next heq => rw [heq, h]
    · rfl
  simp only [restrict, List.filter_map, Function.comp_def, hsame]

/-- Under names that include all it mentions, a change works on the entries there. -/
theorem restrict_apply (h : ∀ name ∈ change.mentions, p name = true) :
    restrict (change.apply properties) p = change.apply (restrict properties p) := by
  cases change with
  | keep => rfl
  | put name property =>
    show restrict (insert properties name property) p = insert (restrict properties p) name property
    rw [restrict_insert, if_pos (h name List.mem_cons_self)]
  | take name => exact restrict_erase properties p name
  | rename old new =>
    have hsame : p old = p new := by
      rw [h old List.mem_cons_self, h new (List.mem_cons_of_mem _ List.mem_cons_self)]
    show restrict (ofEntries _) p = ofEntries _
    rw [restrict_ofEntries, restrict_map_renamed hsame]

/-- Under names that it does not mention, a change leaves the entries alone. -/
theorem restrict_apply_of_not (nodup : (names properties).Nodup)
    (h : ∀ name ∈ change.mentions, p name = false) :
    restrict (change.apply properties) p = restrict properties p := by
  cases change with
  | keep => rfl
  | put name property =>
    show restrict (insert properties name property) p = _
    rw [restrict_insert, h name List.mem_cons_self]
    rfl
  | take name =>
    show restrict (erase properties name) p = _
    rw [restrict_erase, erase_of_notMem (notMem_names_restrict (h name List.mem_cons_self))]
  | rename old new =>
    have hold : p old = false := h old List.mem_cons_self
    have hsame : p old = p new := by rw [hold, h new (List.mem_cons_of_mem _ List.mem_cons_self)]
    -- none of the entries has the old name, so that nothing is renamed and no two become one
    have habsent : old ∉ names (restrict properties p) := notMem_names_restrict hold
    show restrict (ofEntries _) p = _
    rw [restrict_ofEntries, restrict_map_renamed hsame, map_renamed_of_notMem habsent,
      ofEntries_of_nodup]
    exact nodup.sublist (List.filter_sublist.map Prod.fst)

theorem lookup_apply_of_notMem (nodup : (names properties).Nodup) {name : String}
    (h : name ∉ change.mentions) :
    (change.apply properties).lookup name = properties.lookup name := by
  -- the condition is to be this name
  let p := fun other : String => other == name
  have hrestrict : restrict (change.apply properties) p = restrict properties p :=
    change.restrict_apply_of_not nodup fun other hother =>
      beq_eq_false_iff_ne.mpr (ne_of_mem_of_not_mem hother h)
  exact lookup_eq_of_restrict hrestrict (beq_self_eq_true name)

end MapChange

/-! ### Changes of the required names -/

/-- What an edit does to the list of required names. -/
inductive NamesChange
  | keep
  | add (name : String)
  | take (name : String)
  | rename (old new : String)

namespace NamesChange

/-- The required names after a change. -/
def apply (change : NamesChange) (names : List String) : List String :=
  match change with
  | keep => names
  | add name => if name ∈ names then names else names ++ [name]
  | take name => names.filter (· != name)
  | rename old new => names.map (Schema.renamed old new)

/-- The list after a change; if there is none, only a name that is added makes one. -/
def applyOption (change : NamesChange) : Option (List String) → Option (List String) :=
  match change with
  | keep => id
  | add name => fun names? => some (apply (add name) (names?.getD []))
  | _ => Option.map change.apply

/-- The names that a change is about. -/
def mentions : NamesChange → List String
  | keep => []
  | add name => [name]
  | take name => [name]
  | rename old new => [old, new]

theorem getD_applyOption (change : NamesChange) (names? : Option (List String)) :
    (change.applyOption names?).getD [] = change.apply (names?.getD []) := by
  cases change <;> cases names? <;> rfl

/-- Only adding a name makes the list longer. -/
def adds : NamesChange → Bool
  | add _ => true
  | _ => false

/-- What becomes of a required name, unless it is taken out. -/
def trace (change : NamesChange) (name : String) : Option String :=
  match change with
  | take taken => if name = taken then none else some name
  | rename old new => some (Schema.renamed old new name)
  | _ => some name

/-- A change that adds no name says of each name what becomes of it. -/
theorem apply_eq_filterMap {change : NamesChange} (h : change.adds = false) (names : List String) :
    change.apply names = names.filterMap change.trace := by
  cases change with
  | keep => exact List.filterMap_some.symm
  | add name => cases h
  | take taken =>
    have htrace : (take taken).trace = Option.guard (· != taken) := by
      funext name
      by_cases hname : name = taken <;> simp [trace, Option.guard, hname]
    rw [htrace, List.filterMap_eq_filter]
    rfl
  | rename old new => exact (congrFun List.filterMap_eq_map names).symm

/-- What a change does not mention is kept, and nothing else becomes it. -/
theorem trace_eq_some_iff {change : NamesChange} {name before : String}
    (h : name ∉ change.mentions) : change.trace before = some name ↔ before = name := by
  cases change with
  | keep => exact Option.some_inj
  | add added => exact Option.some_inj
  | take taken =>
    have hne : name ≠ taken := fun heq => h (heq ▸ List.mem_cons_self)
    by_cases hbefore : before = taken
    · simp [trace, hbefore, Ne.symm hne]
    · simp [trace, hbefore]
  | rename old new =>
    have hold : name ≠ old := fun heq => h (heq ▸ List.mem_cons_self)
    have hnew : name ≠ new := fun heq => h (heq ▸ List.mem_cons_of_mem _ List.mem_cons_self)
    by_cases hbefore : before = old
    · simp [trace, Schema.renamed, hbefore, Ne.symm hold, Ne.symm hnew]
    · simp [trace, Schema.renamed, hbefore]

theorem mem_apply_of_notMem (change : NamesChange) {names : List String} {name : String}
    (h : name ∉ change.mentions) : name ∈ change.apply names ↔ name ∈ names := by
  cases hadds : change.adds with
  | false => simp [apply_eq_filterMap hadds, List.mem_filterMap, trace_eq_some_iff h]
  | true =>
    cases change with
    | add added =>
      have hne : name ≠ added := fun heq => h (heq ▸ List.mem_cons_self)
      show name ∈ (if added ∈ names then names else names ++ [added]) ↔ _
      split <;> simp [hne]
    | _ => cases hadds

end NamesChange

/-! ### Edits as changes -/

namespace Edit

/-- The names that an edit is given. -/
def mentions : Edit → List String
  | update _ name _ => [name]
  | add _ name _ => [name]
  | remove _ name => [name]
  | rename _ old new => [old, new]
  | toggle _ name => [name]
  | require name _ => [name]
  | setItems _ => []

/-- The edit is one of properties or of required names. -/
def OfProperties : Edit → Prop
  | setItems _ => False
  | _ => True

/-- What an edit does to a map of properties. -/
def mapChange (edit : Edit) (schema : Schema) (kind : PropertyKind) : MapChange :=
  match edit, schema with
  | _, .boolean _ => .keep
  | update target name property, _ => if kind = target then .put name property else .keep
  | add target name field, _ => if kind = target then .put name field.schema else .keep
  | remove target name, _ => if kind = target then .take name else .keep
  | rename target old new, _ => if kind = target then .rename old new else .keep
  | toggle source name, schema =>
    match (schema.properties source).lookup name with
    | none => .keep
    | some property => if kind = source then .take name else .put name property
  | _, _ => .keep

/-- What an edit does to the required names. -/
def requiredChange (edit : Edit) (schema : Schema) : NamesChange :=
  match edit, schema with
  | _, .boolean _ => .keep
  | remove target name, schema =>
    if (schema.propertyMap? target).isSome then .take name else .keep
  | rename target old new, schema =>
    if (schema.propertyMap? target).isSome then .rename old new else .keep
  | toggle source name, schema =>
    if ((schema.properties source).lookup name).isSome then .take name else .keep
  | require name true, _ => .add name
  | require name false, _ => .take name
  | _, _ => .keep

variable {edit : Edit} {facets : Facets} {parts : Parts Schema}

/-- What an edit of properties does to an object schema. -/
theorem apply_object (h : edit.OfProperties) :
    edit.apply (.object facets parts)
      = .object
          { facets with
            required := (edit.requiredChange (.object facets parts)).applyOption facets.required }
          { parts with
            properties :=
              (edit.mapChange (.object facets parts) .named).applyOption parts.properties
            patternProperties :=
              (edit.mapChange (.object facets parts) .pattern).applyOption
                parts.patternProperties } := by
  cases edit with
  | update target name property => cases target <;> rfl
  | add target name field => cases target <;> rfl
  | remove target name =>
    obtain ⟨named?, pattern?⟩ := parts
    cases target
    · cases named? <;> rfl
    · cases pattern? <;> rfl
  | rename target old new =>
    obtain ⟨named?, pattern?⟩ := parts
    cases target
    · cases named? <;> rfl
    · cases pattern? <;> rfl
  | toggle source name =>
    have hfound := Schema.lookup_properties (.object facets parts) source name
    cases hproperty :
      ((Schema.object facets parts).propertyMap? source).bind (List.lookup name) with
    | none =>
      rw [hproperty] at hfound
      simp only [apply, Schema.toggleProperty, mapChange, requiredChange, hproperty, hfound]
      rfl
    | some property =>
      rw [hproperty] at hfound
      simp only [apply, Schema.toggleProperty, mapChange, requiredChange, hproperty, hfound]
      -- the map that the property is in is there, so that taking it out is a change of that map
      obtain ⟨named?, pattern?⟩ := parts
      cases source
      · cases named? with
        | none => cases hproperty
        | some named => rfl
      · cases pattern? with
        | none => cases hproperty
        | some pattern => rfl
  | require name required => cases required <;> rfl
  | setItems items => cases h

/-! ### The views after an edit -/

@[simp] theorem mapChange_boolean (edit : Edit) (accepts : Bool) (kind : PropertyKind) :
    edit.mapChange (.boolean accepts) kind = .keep := by
  cases edit <;> rfl

@[simp] theorem requiredChange_boolean (edit : Edit) (accepts : Bool) :
    edit.requiredChange (.boolean accepts) = .keep := by
  cases edit <;> rfl

theorem propertyMap?_apply (h : edit.OfProperties) (schema : Schema) (kind : PropertyKind) :
    (edit.apply schema).propertyMap? kind
      = (edit.mapChange schema kind).applyOption (schema.propertyMap? kind) := by
  cases schema with
  | boolean accepts => rw [apply_boolean, mapChange_boolean]; rfl
  | object facets parts => rw [apply_object h]; cases kind <;> rfl

theorem required?_apply (h : edit.OfProperties) (schema : Schema) :
    (edit.apply schema).required? = (edit.requiredChange schema).applyOption schema.required? := by
  cases schema with
  | boolean accepts => rw [apply_boolean, requiredChange_boolean]; rfl
  | object facets parts => rw [apply_object h]; rfl

theorem otherKeywords_apply (h : edit.OfProperties) (schema : Schema) :
    (edit.apply schema).otherKeywords = schema.otherKeywords := by
  cases schema with
  | boolean accepts => rw [apply_boolean]
  | object facets parts => rw [apply_object h]; rfl

theorem properties_apply (h : edit.OfProperties) (schema : Schema) (kind : PropertyKind) :
    (edit.apply schema).properties kind
      = (edit.mapChange schema kind).apply (schema.properties kind) := by
  rw [Schema.properties, propertyMap?_apply h, MapChange.getD_applyOption]
  rfl

theorem requiredNames_apply (h : edit.OfProperties) (schema : Schema) :
    (edit.apply schema).requiredNames
      = (edit.requiredChange schema).apply schema.requiredNames := by
  rw [Schema.requiredNames, required?_apply h, NamesChange.getD_applyOption]
  rfl

/-! ### The names of the changes -/

theorem mentions_mapChange (edit : Edit) (schema : Schema) (kind : PropertyKind) :
    (edit.mapChange schema kind).mentions ⊆ edit.mentions := by
  cases schema with
  | boolean accepts => simp [MapChange.mentions]
  | object facets parts =>
    cases edit with
    | toggle source name =>
      simp only [mapChange]
      split
      · exact List.nil_subset _
      · split <;> exact List.Subset.refl _
    | require name required => exact List.nil_subset _
    | setItems items => exact List.nil_subset _
    | _ =>
      simp only [mapChange]
      split
      · exact List.Subset.refl _
      · exact List.nil_subset _

theorem mentions_requiredChange (edit : Edit) (schema : Schema) :
    (edit.requiredChange schema).mentions ⊆ edit.mentions := by
  cases schema with
  | boolean accepts => simp [NamesChange.mentions]
  | object facets parts =>
    cases edit with
    | update target name property => exact List.nil_subset _
    | add target name field => exact List.nil_subset _
    | require name required => cases required <;> exact List.Subset.refl _
    | setItems items => exact List.nil_subset _
    | _ =>
      simp only [requiredChange]
      split
      · exact List.Subset.refl _
      · exact List.nil_subset _

end Edit

/-! ### The views after one operation -/

@[simp] theorem PropertyKind.other_ne (kind : PropertyKind) : kind.other ≠ kind := by
  cases kind <;> decide

@[simp] theorem PropertyKind.other_other (kind : PropertyKind) : kind.other.other = kind := by
  cases kind <;> rfl

namespace Schema

variable (schema : Schema) (kind target : PropertyKind)

/-- An object schema has a map once something is put into it. -/
theorem propertyMap?_insertProperty (hobject : schema.facets?.isSome = true) (name : String)
    (property : Schema) : (schema.insertProperty kind name property).propertyMap? target
      = if target = kind then some (insert (schema.properties target) name property)
        else schema.propertyMap? target := by
  have h : (Edit.update kind name property).OfProperties := trivial
  refine (Edit.propertyMap?_apply h schema target).trans ?_
  cases schema with
  | boolean accepts => cases hobject
  | object facets parts =>
    simp only [Edit.mapChange]
    split <;> rfl

theorem required?_insertProperty (name : String) (property : Schema) :
    (schema.insertProperty kind name property).required? = schema.required? := by
  have h : (Edit.update kind name property).OfProperties := trivial
  refine (Edit.required?_apply h schema).trans ?_
  cases schema <;> rfl

theorem otherKeywords_insertProperty (name : String) (property : Schema) :
    (schema.insertProperty kind name property).otherKeywords = schema.otherKeywords := by
  have h : (Edit.update kind name property).OfProperties := trivial
  exact Edit.otherKeywords_apply h schema

theorem propertyMap?_removeProperty (name : String) :
    (schema.removeProperty kind name).propertyMap? target
      = if target = kind then (schema.propertyMap? target).map (erase · name)
        else schema.propertyMap? target := by
  have h : (Edit.remove kind name).OfProperties := trivial
  refine (Edit.propertyMap?_apply h schema target).trans ?_
  cases schema with
  | boolean accepts => cases kind <;> cases target <;> rfl
  | object facets parts =>
    simp only [Edit.mapChange]
    split <;> rfl

theorem required?_removeProperty (name : String) :
    (schema.removeProperty kind name).required?
      = if (schema.propertyMap? kind).isSome then schema.required?.map (·.filter (· != name))
        else schema.required? := by
  have h : (Edit.remove kind name).OfProperties := trivial
  refine (Edit.required?_apply h schema).trans ?_
  cases schema with
  | boolean accepts => rfl
  | object facets parts =>
    simp only [Edit.requiredChange]
    split <;> rfl

theorem otherKeywords_removeProperty (name : String) :
    (schema.removeProperty kind name).otherKeywords = schema.otherKeywords := by
  have h : (Edit.remove kind name).OfProperties := trivial
  exact Edit.otherKeywords_apply h schema

theorem propertyMap?_renameProperty (old new : String) :
    (schema.renameProperty kind old new).propertyMap? target
      = if target = kind then (schema.propertyMap? target).map (MapChange.rename old new).apply
        else schema.propertyMap? target := by
  have h : (Edit.rename kind old new).OfProperties := trivial
  refine (Edit.propertyMap?_apply h schema target).trans ?_
  cases schema with
  | boolean accepts => cases kind <;> cases target <;> rfl
  | object facets parts =>
    simp only [Edit.mapChange]
    split <;> rfl

theorem required?_renameProperty (old new : String) :
    (schema.renameProperty kind old new).required?
      = if (schema.propertyMap? kind).isSome then schema.required?.map (·.map (renamed old new))
        else schema.required? := by
  have h : (Edit.rename kind old new).OfProperties := trivial
  refine (Edit.required?_apply h schema).trans ?_
  cases schema with
  | boolean accepts => rfl
  | object facets parts =>
    simp only [Edit.requiredChange]
    split <;> rfl

theorem otherKeywords_renameProperty (old new : String) :
    (schema.renameProperty kind old new).otherKeywords = schema.otherKeywords := by
  have h : (Edit.rename kind old new).OfProperties := trivial
  exact Edit.otherKeywords_apply h schema

variable {schema kind} {name : String} {property : Schema}

theorem propertyMap?_toggleProperty (h : (schema.properties kind).lookup name = some property)
    (target : PropertyKind) :
    (schema.toggleProperty kind name).propertyMap? target
      = if target = kind then (schema.propertyMap? target).map (erase · name)
        else some (insert (schema.properties target) name property) := by
  have hedit : (Edit.toggle kind name).OfProperties := trivial
  refine (Edit.propertyMap?_apply hedit schema target).trans ?_
  cases schema with
  | boolean accepts => cases h
  | object facets parts =>
    simp only [Edit.mapChange, h]
    split <;> rfl

theorem required?_toggleProperty (h : (schema.properties kind).lookup name = some property) :
    (schema.toggleProperty kind name).required? = schema.required?.map (·.filter (· != name)) := by
  have hedit : (Edit.toggle kind name).OfProperties := trivial
  refine (Edit.required?_apply hedit schema).trans ?_
  cases schema with
  | boolean accepts => cases h
  | object facets parts =>
    simp only [Edit.requiredChange, h]
    rfl

theorem otherKeywords_toggleProperty (schema : Schema) (kind : PropertyKind) (name : String) :
    (schema.toggleProperty kind name).otherKeywords = schema.otherKeywords := by
  have hedit : (Edit.toggle kind name).OfProperties := trivial
  exact Edit.otherKeywords_apply hedit schema

end Schema

end JsonShape
