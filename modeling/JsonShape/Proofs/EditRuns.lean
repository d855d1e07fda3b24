import JsonShape.Editing.Field
import JsonShape.Editing.Property
import JsonShape.Proofs.Saving

/-!
# Runs of edits

An edit puts values into fields of a schema and never touches its other keywords. Most fields it
writes are there already. A field that it may create is one of its targets; if a value of the wrong
form stands under the name of a target, the keyword is doubled from then on, and the edit is lost
when the schema is saved.

`EditStep` says what an edit can do; every operation has a lemma that says which step it is. From
them follows what a run of edits leaves.

Main statement: by `Edit.saved_run_iff`, after a run of edits on a loaded schema, what is saved is
read back exactly if no keyword is doubled. None is if no edit meets such a value, and from the
first edit of the schema that does on, what is saved is not what is read back.
-/

namespace JsonShape

open Members

/-! ### Steps -/

/-- The second facets and parts come from the first by putting tidy contents with allowed
sub-schemas into fields, and the targets are the fields that may be new. -/
structure EditStep (allowed : Schema → Prop) (targets : List Keyword) (facets : Facets)
    (parts : Parts Schema) (facets' : Facets) (parts' : Parts Schema) : Prop where
  extra : facets'.extra = facets.extra
  tidy : facets'.Tidy parts'
  allows : ∀ part ∈ parts'.toList, allowed part
  present : ∀ k, (field? facets' parts' k).isSome = true ↔
    (field? facets parts k).isSome = true ∨ k ∈ targets

namespace EditStep

variable {allowed : Schema → Prop} {targets : List Keyword} {start facets : Facets}
  {startParts parts : Parts Schema}

theorem refl (tidy : facets.Tidy parts) (h : ∀ part ∈ parts.toList, allowed part) :
    EditStep allowed [] facets parts facets parts where
  extra := rfl
  tidy := tidy
  allows := h
  present := by simp

/-- Put a content into a field. -/
theorem set (step : EditStep allowed targets start startParts facets parts) {k : Keyword}
    {content : Content Schema k} (tidy : content.Tidy)
    (h : ∀ part ∈ content.toList, allowed part) :
    EditStep allowed (targets ++ [k]) start startParts (setField facets parts content).1
      (setField facets parts content).2 where
  extra := (extra_setField facets parts content).trans step.extra
  tidy :=
    { fields := by
        intro other found hfound
        by_cases hother : other = k
        · subst hother
          rw [field?_setField, Option.some.injEq] at hfound
          rwa [← hfound]
        · rw [field?_setField_of_ne _ _ _ hother] at hfound
          exact step.tidy.fields hfound
      names := by
        rw [extra_setField]
        exact step.tidy.names
      values := by
        rw [extra_setField]
        exact step.tidy.values
      extra := by
        rw [extra_setField]
        exact step.tidy.extra }
  allows := by
    intro part hpart
    obtain ⟨other, found, hfound, hmem⟩ := (mem_toList_iff _).mp hpart
    by_cases hother : other = k
    · subst hother
      rw [field?_setField, Option.some.injEq] at hfound
      exact h part (hfound ▸ hmem)
    · rw [field?_setField_of_ne _ _ _ hother] at hfound
      exact step.allows part ((mem_toList_iff facets).mpr ⟨other, found, hfound, hmem⟩)
  present := by
    intro other
    rw [List.mem_append, List.mem_singleton, ← or_assoc, ← step.present]
    by_cases hother : other = k
    · subst hother
      simp [field?_setField]
    · simp [field?_setField_of_ne _ _ _ hother, hother]

/-- A field that is there already is no new target. -/
theorem of_present {k : Keyword}
    (step : EditStep allowed (targets ++ [k]) start startParts facets parts)
    (h : (field? start startParts k).isSome = true ∨ k ∈ targets) :
    EditStep allowed targets start startParts facets parts where
  extra := step.extra
  tidy := step.tidy
  allows := step.allows
  present := by
    intro other
    rw [step.present, List.mem_append, List.mem_singleton]
    constructor
    · rintro (hsome | hmem | rfl)
      · exact .inl hsome
      · exact .inr hmem
      · exact h
    · rintro (hsome | hmem)
      · exact .inl hsome
      · exact .inr (.inl hmem)

/-- Put a content into a field that holds one. -/
theorem replace (step : EditStep allowed targets start startParts facets parts) {k : Keyword}
    {old content : Content Schema k} (hold : field? facets parts k = some old)
    (tidy : content.Tidy) (h : ∀ part ∈ content.toList, allowed part) :
    EditStep allowed targets start startParts (setField facets parts content).1
      (setField facets parts content).2 :=
  (step.set tidy h).of_present ((step.present k).mp (by rw [hold]; rfl))

/-- A field that holds a content can be named as a target. -/
theorem mention (step : EditStep allowed targets start startParts facets parts) {k : Keyword}
    (h : (field? facets parts k).isSome = true) :
    EditStep allowed (targets ++ [k]) start startParts facets parts where
  extra := step.extra
  tidy := step.tidy
  allows := step.allows
  present := by
    intro other
    rw [step.present, List.mem_append, List.mem_singleton, ← or_assoc]
    refine ⟨.inl, ?_⟩
    rintro (hold | rfl)
    · exact hold
    · exact (step.present other).mp h

/-- A step doubles a keyword exactly if a target stands among the other keywords. -/
theorem undoubled_iff (step : EditStep allowed targets start startParts facets parts) :
    facets.Undoubled parts ↔
      start.Undoubled startParts ∧ ∀ k ∈ targets, k.name ∉ names start.extra := by
  have hfield (k : Keyword) : field? facets parts k = none ↔
      field? start startParts k = none ∧ k ∉ targets := by
    have hpresent := not_congr (step.present k)
    simpa only [not_or, Option.not_isSome_iff_eq_none] using hpresent
  constructor
  · intro h
    refine ⟨fun k hname => ((hfield k).mp (h k (by rwa [step.extra]))).1, fun k hk hname => ?_⟩
    exact ((hfield k).mp (h k (by rwa [step.extra]))).2 hk
  · rintro ⟨h, htargets⟩ k hname
    rw [step.extra] at hname
    exact (hfield k).mpr ⟨h k hname, fun hk => htargets k hk hname⟩

/-! ### The operations -/

section Operations

variable (step : EditStep allowed targets start startParts facets parts)

include step

/-- The required names are changed only where there are any. -/
theorem mapRequired (f : List String → List String) :
    EditStep allowed targets start startParts
      { facets with required := facets.required.map f } parts := by
  cases h : facets.required with
  | none =>
    have heq : { facets with required := none } = facets := by rw [← h]
    rwa [Option.map_none, heq]
  | some required =>
    have hfield : field? facets parts .required = some required := h
    exact step.replace (k := .required) hfield trivial (by simp [Content.toList])

theorem dropRequired (name : String) :
    EditStep allowed targets start startParts (facets.dropRequired name) parts :=
  step.mapRequired _

theorem nodup_map {k : MapKeyword} {schemas : Members Schema} (h : parts.map? k = some schemas) :
    (names schemas).Nodup := by
  have hfield : field? facets parts (.map k) = some schemas := h
  exact step.tidy.fields hfield

theorem allowed_map {k : MapKeyword} {schemas : Members Schema} (h : parts.map? k = some schemas)
    {entry : String × Schema} (hentry : entry ∈ schemas) : allowed entry.2 := by
  have hfield : field? facets parts (.map k) = some schemas := h
  refine step.allows _ ((mem_toList_iff facets).mpr ⟨_, _, hfield, ?_⟩)
  exact List.mem_map_of_mem hentry

theorem insert (kind : MapKeyword) (name : String) {property : Schema} (h : allowed property) :
    EditStep allowed (targets ++ [.map kind]) start startParts facets
      (parts.setMap (Members.insert ((parts.map? kind).getD []) name property) kind) := by
  have hold : (names ((parts.map? kind).getD [])).Nodup
      ∧ ∀ entry ∈ (parts.map? kind).getD [], allowed entry.2 := by
    cases hmap : parts.map? kind with
    | none => simp
    | some schemas => exact ⟨step.nodup_map hmap, fun entry => step.allowed_map hmap⟩
  refine step.set (k := .map kind) (nodup_insert hold.1 name property) ?_
  intro part hpart
  obtain ⟨entry, hentry, rfl⟩ := List.mem_map.mp hpart
  rcases mem_insert hentry with hmem | rfl
  · exact hold.2 entry hmem
  · exact h

theorem erase {kind : MapKeyword} {schemas : Members Schema} (hmap : parts.map? kind = some schemas)
    (name : String) : EditStep allowed targets start startParts facets
      (parts.setMap (Members.erase schemas name) kind) := by
  have hfield : field? facets parts (.map kind) = some schemas := hmap
  refine step.replace (k := .map kind) hfield ?_ ?_
  · show (names (Members.erase schemas name)).Nodup
    rw [names_erase]
    exact (step.nodup_map hmap).filter _
  · intro part hpart
    obtain ⟨entry, hentry, rfl⟩ := List.mem_map.mp hpart
    exact step.allowed_map hmap (List.mem_of_mem_filter hentry)

theorem rename {kind : MapKeyword} {schemas : Members Schema}
    (hmap : parts.map? kind = some schemas) (old new : String) :
    EditStep allowed targets start startParts facets
      (parts.setMap
        (ofEntries (schemas.map fun entry => (Schema.renamed old new entry.1, entry.2))) kind) := by
  have hfield : field? facets parts (.map kind) = some schemas := hmap
  refine step.replace (k := .map kind) hfield (nodup_ofEntries _) ?_
  intro part hpart
  obtain ⟨entry, hentry, rfl⟩ := List.mem_map.mp hpart
  rcases mem_insertAll hentry with hnil | hrenamed
  · cases hnil
  · obtain ⟨found, hfound, rfl⟩ := List.mem_map.mp hrenamed
    have hallowed := step.allowed_map hmap hfound
    exact hallowed

/-- A type is put in where there is none. -/
theorem fillType (type : TypeName) :
    EditStep allowed (targets ++ [.type]) start startParts
      { facets with type := facets.type.or (some (.single type)) } parts := by
  cases h : facets.type with
  | none =>
    have hread : TypeSpec.ofJson? (.string type.name) = some (.single type) := by
      rw [TypeSpec.ofJson?, TypeName.ofName?_name]
      rfl
    have htidy : (show Content Schema .type from .single type).Tidy := hread
    exact step.set htidy (by simp [Content.toList])
  | some spec =>
    have heq : { facets with type := some spec } = facets := by rw [← h]
    rw [Option.some_or, heq]
    exact step.mention (k := .type) (Option.isSome_of_eq_some h)

/-- A description is put in where there is none. -/
theorem fillDescription (text? : Option String) :
    EditStep allowed (targets ++ if text?.isSome then [.text .description] else []) start startParts
      { facets with description := facets.description.or text? } parts := by
  cases text? with
  | none => simpa using step
  | some text =>
    cases h : facets.description with
    | none => exact step.set (k := .text .description) trivial (by simp [Content.toList])
    | some old =>
      have heq : { facets with description := some old } = facets := by rw [← h]
      rw [Option.some_or, heq]
      exact step.mention (k := .text .description) (Option.isSome_of_eq_some h)

/-- Further properties are ruled out on demand. -/
theorem close (closed : Prop) [Decidable closed] (h : allowed (.boolean false)) :
    EditStep allowed (targets ++ if closed then [.single .additionalProperties] else []) start
      startParts facets
      { parts with
        additionalProperties :=
          if closed then some (.boolean false) else parts.additionalProperties } := by
  by_cases hclosed : closed
  · simp only [if_pos hclosed]
    refine step.set (k := .single .additionalProperties) trivial fun part hpart => ?_
    rwa [List.mem_singleton.mp hpart]
  · simpa [hclosed] using step

end Operations

end EditStep

/-! ### Edits -/

theorem Schema.removeProperty_none {facets : Facets} {parts : Parts Schema} {kind : PropertyKind}
    (h : parts.map? kind.keyword = none) (name : String) :
    (object facets parts).removeProperty kind name = object facets parts := by
  simp only [removeProperty, edit, h]

theorem Schema.removeProperty_some {facets : Facets} {parts : Parts Schema} {kind : PropertyKind}
    {schemas : Members Schema} (h : parts.map? kind.keyword = some schemas) (name : String) :
    (object facets parts).removeProperty kind name
      = object (facets.dropRequired name)
        (parts.setMap (Members.erase schemas name) kind.keyword) := by
  simp only [removeProperty, edit, h]

/-- An editing operation. -/
inductive Edit
  /-- Put a property into a map. -/
  | update (kind : PropertyKind) (name : String) (property : Schema)
  /-- Put the schema of an entered field into a map. -/
  | add (kind : PropertyKind) (name : String) (field : PropertyField)
  | remove (kind : PropertyKind) (name : String)
  | rename (kind : PropertyKind) (old new : String)
  | toggle (kind : PropertyKind) (name : String)
  | require (name : String) (required : Bool)
  | setItems (items : Items Schema)

namespace Edit

/-- The schema after an edit. -/
def apply : Edit → Schema → Schema
  | update kind name property, schema => schema.insertProperty kind name property
  | add kind name field, schema => schema.insertProperty kind name field.schema
  | remove kind name, schema => schema.removeProperty kind name
  | rename kind old new, schema => schema.renameProperty kind old new
  | toggle kind name, schema => schema.toggleProperty kind name
  | require name required, schema => schema.setRequired name required
  | setItems items, schema => schema.setArrayItems items

/-- The schema after edits one after another. -/
def run (edits : List Edit) (schema : Schema) : Schema :=
  edits.foldl (fun schema edit => edit.apply schema) schema

/-- The sub-schemas that an edit brings. -/
def given : Edit → List Schema
  | update _ _ property => [property]
  | add _ _ field => [field.schema]
  | setItems items => items.toList
  | _ => []

/-- The keywords whose fields an edit creates if they are not there. -/
def targets : Edit → Schema → List Keyword
  | update kind _ _, _ => [.map kind.keyword]
  | add kind _ _, _ => [.map kind.keyword]
  | toggle kind name, schema =>
    if ((schema.propertyMap? kind).bind (List.lookup name)).isSome then [.map kind.other.keyword]
    else []
  | require _ true, _ => [.required]
  | setItems _, schema => if schema.isType .array then [.items] else []
  | _, _ => []

variable {facets : Facets} {parts : Parts Schema}

/-- What an edit does to an object schema. -/
theorem exists_step (edit : Edit) (tidy : facets.Tidy parts) :
    ∃ facets' parts', edit.apply (.object facets parts) = .object facets' parts'
      ∧ EditStep (fun part => part ∈ parts.toList ∨ part ∈ edit.given)
        (edit.targets (.object facets parts)) facets parts facets' parts' := by
  have start : EditStep (fun part => part ∈ parts.toList ∨ part ∈ edit.given) [] facets parts facets
      parts := .refl tidy fun part hpart => .inl hpart
  cases edit with
  | update kind name property =>
    exact ⟨_, _, rfl, start.insert kind.keyword name (.inr (List.mem_singleton.mpr rfl))⟩
  | add kind name field =>
    exact ⟨_, _, rfl, start.insert kind.keyword name (.inr (List.mem_singleton.mpr rfl))⟩
  | remove kind name =>
    cases hmap : parts.map? kind.keyword with
    | none => exact ⟨facets, parts, Schema.removeProperty_none hmap name, start⟩
    | some schemas =>
      exact ⟨_, _, Schema.removeProperty_some hmap name, (start.dropRequired name).erase hmap name⟩
  | rename kind old new =>
    cases hmap : parts.map? kind.keyword with
    | none =>
      exact ⟨facets, parts, by simp [apply, Schema.renameProperty, Schema.edit, hmap], start⟩
    | some schemas =>
      refine ⟨_, _, ?_, (start.mapRequired (·.map (Schema.renamed old new))).rename hmap old new⟩
      simp only [apply, Schema.renameProperty, Schema.edit, hmap]
  | toggle kind name =>
    cases hfound : ((Schema.object facets parts).propertyMap? kind).bind (List.lookup name) with
    | none =>
      refine ⟨facets, parts, ?_, ?_⟩
      · simp only [apply, Schema.toggleProperty, hfound]
      · simpa [targets, hfound] using start
    | some property =>
      obtain ⟨schemas, hmap, hname⟩ := Option.bind_eq_some_iff.mp hfound
      replace hmap : parts.map? kind.keyword = some schemas := hmap
      have hproperty := start.allowed_map hmap (mem_of_lookup hname)
      have htargets :
          targets (toggle kind name) (.object facets parts) = [.map kind.other.keyword] := by
        simp [targets, hfound]
      rw [htargets]
      -- the property is taken out of one map and put into the other
      refine ⟨_, _, ?_,
        ((start.dropRequired name).erase hmap name).insert kind.other.keyword name hproperty⟩
      simp only [apply, Schema.toggleProperty, hfound, Schema.removeProperty_some hmap]
      rfl
  | require name required =>
    cases required with
    | true =>
      exact ⟨_, _, rfl, start.set (k := .required) trivial (by simp [Content.toList])⟩
    | false => exact ⟨_, _, rfl, start.dropRequired name⟩
  | setItems items =>
    by_cases harray : (Schema.object facets parts).isType .array = true
    · have htargets : targets (setItems items) (.object facets parts) = [.items] := by
        simp [targets, harray]
      rw [htargets]
      refine ⟨_, _, ?_, start.set (k := .items) trivial fun part hpart => .inr hpart⟩
      simp only [apply, Schema.setArrayItems, harray, if_true]
      rfl
    · refine ⟨facets, parts, ?_, ?_⟩
      · simp [apply, Schema.setArrayItems, harray]
      · simpa [targets, harray] using start

@[simp] theorem apply_boolean (edit : Edit) (accepts : Bool) :
    edit.apply (.boolean accepts) = .boolean accepts := by
  cases edit <;> rfl

end Edit

/-! ### Fields to be added -/

namespace PropertyField

variable {field : PropertyField} {facets : Facets} {parts : Parts Schema}

/-- The keywords whose fields the schema of an entered field has, whatever is in its fragment. -/
def targets (field : PropertyField) : List Keyword :=
  [.type] ++ (if field.description.isSome then [.text .description] else [])
    ++ if field.additionalProperties = some false then [.single .additionalProperties] else []

/-- What is entered about a field goes into fields of its fragment. -/
theorem exists_step (h : field.validation.getD .empty = .object facets parts)
    (tidy : facets.Tidy parts) :
    ∃ facets' parts', field.schema = .object facets' parts'
      ∧ EditStep (fun part => part ∈ parts.toList ∨ part = .boolean false) field.targets facets
        parts facets' parts' := by
  have start : EditStep (fun part => part ∈ parts.toList ∨ part = .boolean false) [] facets parts
      facets parts := .refl tidy fun part hpart => .inl hpart
  refine ⟨_, _, by simp only [schema, h],
    ((start.fillType field.type).fillDescription field.description).close
      (field.additionalProperties = some false) (.inr rfl)⟩

end PropertyField

/-! ### What is doubled -/

namespace Schema

/-- The schema was loaded from a value without repeated names. -/
def Loaded (schema : Schema) : Prop := ∃ value : Json, value.UniqueNames ∧ ofJson value = .ok schema

theorem Loaded.tidy_undoubled {schema : Schema} (loaded : schema.Loaded) :
    schema.Tidy ∧ schema.Undoubled := by
  obtain ⟨value, unique, h⟩ := loaded
  exact tidy_of_ofJson? unique (ofJson_eq_ok.mp h)

theorem empty_loaded : empty.Loaded := by
  refine ⟨.object [], .object List.nodup_nil (by simp), ofJson_eq_ok.mpr ?_⟩
  rw [ofJson?, ofMembers]
  rfl

/-- Under the name of one of the keywords stands a value that does not have the form of its field.
-/
def HasMisfit (schema : Schema) (keywords : List Keyword) : Prop :=
  ∃ k ∈ keywords, schema.facets?.any (·.isMisfit k) = true

theorem hasMisfit_object {facets : Facets} {parts : Parts Schema} {keywords : List Keyword} :
    (object facets parts).HasMisfit keywords ↔ ∃ k ∈ keywords, k.name ∈ names facets.extra := by
  refine exists_congr fun k => and_congr_right fun _ => ?_
  exact contains_iff

/-- No keyword of the schema itself is doubled. -/
def UndoubledHere (schema : Schema) : Prop :=
  ∀ facets parts, schema = object facets parts → facets.Undoubled parts

theorem Undoubled.here {schema : Schema} (h : schema.Undoubled) : schema.UndoubledHere := by
  rintro facets parts rfl
  cases h with
  | object here _ => exact here

end Schema

theorem EditStep.undoubledHere_iff {allowed : Schema → Prop} {targets : List Keyword}
    {facets facets' : Facets} {parts parts' : Parts Schema}
    (step : EditStep allowed targets facets parts facets' parts') :
    (Schema.object facets' parts').UndoubledHere ↔
      (Schema.object facets parts).UndoubledHere
        ∧ ¬ (Schema.object facets parts).HasMisfit targets := by
  have hhere (facets : Facets) (parts : Parts Schema) :
      (Schema.object facets parts).UndoubledHere ↔ facets.Undoubled parts := by
    constructor
    · exact fun h => h facets parts rfl
    · rintro h _ _ ⟨rfl, rfl⟩
      exact h
  rw [hhere, hhere, step.undoubled_iff, Schema.hasMisfit_object]
  simp

namespace PropertyField

variable {field : PropertyField}

/-- Something is entered for a keyword that has a value of the wrong form in the fragment. -/
def Collides (field : PropertyField) : Prop :=
  (field.validation.getD .empty).HasMisfit field.targets

/-- The schema of an entered field is tidy, and it has a doubled keyword exactly if something is
entered for a misfit of its fragment. -/
theorem schema_tidy (loaded : ∀ fragment, field.validation = some fragment → fragment.Loaded) :
    field.schema.Tidy ∧ (field.schema.Undoubled ↔ ¬ field.Collides) := by
  have hfragment : (field.validation.getD .empty).Loaded := by
    cases h : field.validation with
    | none => exact Schema.empty_loaded
    | some fragment => exact loaded fragment h
  obtain ⟨htidy, hundoubled⟩ := hfragment.tidy_undoubled
  rw [Collides]
  cases hfield : field.validation.getD .empty with
  | boolean accepts =>
    have hschema : field.schema = .boolean accepts := by simp only [schema, hfield]
    rw [hschema]
    refine ⟨.boolean, fun _ => ?_, fun _ => .boolean⟩
    rintro ⟨k, -, hany⟩
    cases hany
  | object facets parts =>
    rw [hfield] at htidy hundoubled
    cases htidy with
    | object htop hbelow =>
      cases hundoubled with
      | object hhere hparts =>
        obtain ⟨facets', parts', heq, step⟩ := exists_step hfield htop
        have hiff := step.undoubledHere_iff
        rw [heq]
        refine ⟨.object step.tidy fun part hpart => ?_, fun h => (hiff.mp h.here).2, fun h => ?_⟩
        · rcases step.allows part hpart with hold | rfl
          · exact hbelow part hold
          · exact .boolean
        · refine .object (hiff.mpr ⟨(Schema.Undoubled.object hhere hparts).here, h⟩ _ _ rfl) ?_
          intro part hpart
          rcases step.allows part hpart with hold | rfl
          · exact hparts part hold
          · exact .boolean

end PropertyField

namespace Edit

/-- The schemas that an edit comes with were loaded. -/
def Loaded : Edit → Prop
  | update _ _ property => property.Loaded
  | add _ _ field => ∀ fragment, field.validation = some fragment → fragment.Loaded
  | setItems items => ∀ schema ∈ items.toList, schema.Loaded
  | _ => True

/-- The edit writes the field of a keyword under which a value of the wrong form stands. -/
def Collides (edit : Edit) (schema : Schema) : Prop := schema.HasMisfit (edit.targets schema)

/-- The edit brings no schema with a doubled keyword. -/
def Clean : Edit → Prop
  | add _ _ field => ¬ field.Collides
  | _ => True

/-- No edit of a run writes the field of a keyword under which a value of the wrong form stands. -/
def NoneCollides : List Edit → Schema → Prop
  | [], _ => True
  | edit :: rest, schema => ¬ edit.Collides schema ∧ NoneCollides rest (edit.apply schema)

variable {edit : Edit} {schema : Schema}

theorem given_tidy (loaded : edit.Loaded) {part : Schema} (hpart : part ∈ edit.given) :
    part.Tidy ∧ (edit.Clean → part.Undoubled) := by
  cases edit with
  | update kind name property =>
    obtain rfl := List.mem_singleton.mp hpart
    have h := Schema.Loaded.tidy_undoubled loaded
    exact ⟨h.1, fun _ => h.2⟩
  | add kind name field =>
    obtain rfl := List.mem_singleton.mp hpart
    have h := PropertyField.schema_tidy loaded
    exact ⟨h.1, h.2.mpr⟩
  | setItems items =>
    have h := Schema.Loaded.tidy_undoubled (loaded part hpart)
    exact ⟨h.1, fun _ => h.2⟩
  | _ => cases hpart

/-- An edit keeps a schema tidy. -/
theorem apply_tidy (loaded : edit.Loaded) (tidy : schema.Tidy) : (edit.apply schema).Tidy := by
  cases tidy with
  | boolean =>
    rw [apply_boolean]
    exact .boolean
  | object htop hbelow =>
    obtain ⟨facets', parts', heq, step⟩ := edit.exists_step htop
    rw [heq]
    refine .object step.tidy fun part hpart => ?_
    rcases step.allows part hpart with hold | hgiven
    · exact hbelow part hold
    · exact (given_tidy loaded hgiven).1

/-- An edit doubles a keyword of the schema itself exactly if it collides. -/
theorem undoubledHere_apply (tidy : schema.Tidy) :
    (edit.apply schema).UndoubledHere ↔ schema.UndoubledHere ∧ ¬ edit.Collides schema := by
  cases tidy with
  | @boolean accepts =>
    rw [apply_boolean]
    refine ⟨fun h => ⟨h, ?_⟩, And.left⟩
    rintro ⟨k, -, hany⟩
    cases hany
  | object htop _ =>
    obtain ⟨facets', parts', heq, step⟩ := edit.exists_step htop
    rw [heq]
    exact step.undoubledHere_iff

/-- A clean edit that does not collide doubles nothing. -/
theorem apply_undoubled (loaded : edit.Loaded) (tidy : schema.Tidy) (undoubled : schema.Undoubled)
    (clean : edit.Clean) (apart : ¬ edit.Collides schema) : (edit.apply schema).Undoubled := by
  have hhere := (undoubledHere_apply tidy).mpr ⟨undoubled.here, apart⟩
  cases tidy with
  | boolean =>
    rw [apply_boolean]
    exact .boolean
  | object htop _ =>
    obtain ⟨facets', parts', heq, step⟩ := edit.exists_step htop
    rw [heq] at hhere ⊢
    refine .object (hhere _ _ rfl) fun part hpart => ?_
    rcases step.allows part hpart with hold | hgiven
    · cases undoubled with
      | object _ hbelow => exact hbelow part hold
    · exact (given_tidy loaded hgiven).2 clean

/-! ### Runs -/

theorem run_tidy {edits : List Edit} (loaded : ∀ edit ∈ edits, edit.Loaded) (tidy : schema.Tidy) :
    (run edits schema).Tidy := by
  induction edits generalizing schema with
  | nil => exact tidy
  | cons edit rest ih =>
    rw [List.forall_mem_cons] at loaded
    exact ih loaded.2 (apply_tidy loaded.1 tidy)

/-- A keyword that an edit has doubled stays doubled. -/
theorem undoubledHere_run {edits : List Edit} (loaded : ∀ edit ∈ edits, edit.Loaded)
    (tidy : schema.Tidy) :
    (run edits schema).UndoubledHere ↔ schema.UndoubledHere ∧ NoneCollides edits schema := by
  -- tidiness is what every step needs and keeps; collisions are counted where each edit is made
  induction edits generalizing schema with
  | nil => exact ⟨fun h => ⟨h, trivial⟩, And.left⟩
  | cons edit rest ih =>
    rw [List.forall_mem_cons] at loaded
    have hrest := ih loaded.2 (apply_tidy loaded.1 tidy)
    rw [undoubledHere_apply tidy, and_assoc] at hrest
    exact hrest

theorem run_undoubled {edits : List Edit} (loaded : ∀ edit ∈ edits, edit.Loaded)
    (tidy : schema.Tidy) (undoubled : schema.Undoubled) (clean : ∀ edit ∈ edits, edit.Clean)
    (apart : NoneCollides edits schema) : (run edits schema).Undoubled := by
  induction edits generalizing schema with
  | nil => exact undoubled
  | cons edit rest ih =>
    rw [List.forall_mem_cons] at loaded clean
    exact ih loaded.2 (apply_tidy loaded.1 tidy)
      (apply_undoubled loaded.1 tidy undoubled clean.1 apart.1) clean.2 apart.2

/-- What is saved after a run of edits is read back exactly if no keyword is doubled. It is the
edited schema itself if no edit writes the field of a keyword under which a value of the wrong form
stands, be it in the schema or in the fragment of a field; if an edit does so in the schema, no
further edit makes up for it. -/
theorem saved_run_iff (loaded : schema.Loaded) (edits : List Edit)
    (hedits : ∀ edit ∈ edits, edit.Loaded) :
    ((run edits schema).Saved ↔ (run edits schema).Undoubled)
      ∧ (NoneCollides edits schema → (∀ edit ∈ edits, edit.Clean) →
        Schema.ofJson (run edits schema).toJson = .ok (run edits schema))
      ∧ (¬ NoneCollides edits schema → ¬ (run edits schema).Saved) := by
  obtain ⟨tidy, undoubled⟩ := loaded.tidy_undoubled
  have hrun := run_tidy hedits tidy
  refine ⟨hrun.saved_iff, fun apart clean => ?_, fun collides saved => ?_⟩
  · exact Schema.ofJson_eq_ok.mpr
      (hrun.ofJson?_toJson (run_undoubled hedits tidy undoubled clean apart))
  · exact collides ((undoubledHere_run hedits tidy).mp (hrun.saved_iff.mp saved).here).2

/-- An object with a number for its properties. -/
def misfitProperties : Json := .object [("type", .string "object"), ("properties", .number 5)]

/-- Its schema: the number stands among the other keywords. -/
def misfitSchema : Schema :=
  .object { type := some (.single .object), extra := [("properties", .number 5)] } {}

theorem misfitProperties_unique : misfitProperties.UniqueNames := by
  refine .object (by decide) ?_
  simp only [List.forall_mem_cons]
  exact ⟨.string, .number, by simp⟩

theorem ofJson_misfitProperties : Schema.ofJson misfitProperties = .ok misfitSchema := by
  simp [misfitProperties, misfitSchema, Schema.ofJson, Schema.ofJson?, Schema.ofMembers, place?_eq,
    setField, Content.ofJson?, TypeSpec.ofJson?, TypeName.ofName?, TypeName.all, TypeName.name,
    Keyword.ofName?, Keyword.all, Keyword.name]

theorem misfitSchema_loaded : misfitSchema.Loaded :=
  ⟨misfitProperties, misfitProperties_unique, ofJson_misfitProperties⟩

/-- Edits of other fields are read back. -/
theorem misfitSchema_saved :
    misfitSchema.Loaded ∧ (∀ edit ∈ [update .pattern "^x" .empty, require "a" true], edit.Loaded)
      ∧ Schema.ofJson (run [update .pattern "^x" .empty, require "a" true] misfitSchema).toJson
        = .ok (run [update .pattern "^x" .empty, require "a" true] misfitSchema) := by
  have hedits : ∀ edit ∈ [update .pattern "^x" .empty, require "a" true], edit.Loaded := by
    simp only [List.forall_mem_cons]
    exact ⟨Schema.empty_loaded, trivial, by simp⟩
  refine ⟨misfitSchema_loaded, hedits, (saved_run_iff misfitSchema_loaded _ hedits).2.1 ?_ ?_⟩
  · -- neither target is `properties`
    refine ⟨?_, ?_, trivial⟩
    · rintro ⟨k, hk, hany⟩
      obtain rfl := List.mem_singleton.mp hk
      exact absurd hany (by decide)
    · rintro ⟨k, hk, hany⟩
      obtain rfl := List.mem_singleton.mp hk
      exact absurd hany (by decide)
  · simp [Clean]

/-- A property that is put in is not saved: what is read back is the schema before the edit. -/
theorem misfitSchema_update_lost :
    misfitProperties.UniqueNames ∧ Schema.ofJson misfitProperties = .ok misfitSchema
      ∧ Schema.empty.Loaded
      ∧ Schema.ofJson (run [update .named "a" .empty] misfitSchema).toJson = .ok misfitSchema
      ∧ ¬ (run [update .named "a" .empty] misfitSchema).Saved := by
  -- the property is nowhere in what is written
  have hwritten : (run [update .named "a" .empty] misfitSchema).toJson = misfitProperties := rfl
  have hread : Schema.ofJson (run [update .named "a" .empty] misfitSchema).toJson
      = .ok misfitSchema := by
    rw [hwritten]
    exact ofJson_misfitProperties
  refine ⟨misfitProperties_unique, ofJson_misfitProperties, Schema.empty_loaded, hread, ?_⟩
  rintro ⟨read, h, hsame⟩
  rw [hread] at h
  obtain rfl := Except.ok.inj h
  have hdiffer : misfitSchema.same (run [update .named "a" .empty] misfitSchema) = false := rfl
  rw [hdiffer] at hsame
  cases hsame

end Edit

end JsonShape
