import JsonShape.Proofs.PropertyViews
import JsonShape.Proofs.Untouched
import Mathlib.Data.List.Lattice

/-!
# Edits of different names

An edit reads and writes only what stands under its names: the entries there, and whether they are
required. Two edits of different names therefore do not see each other, and it does not matter which
is made first, except that the list of required names keeps the order in which names are added to
it.

Main statement: `Edit.apply_comm_of_apart`, edits of different names commute, up to the order of the
maps, unless both add a required name.
-/

namespace JsonShape

open Members

/-! ### Changes of different names -/

namespace MapChange

/-- Changes of different names commute up to the order of the entries. -/
theorem apply_comm (f g : MapChange) {properties : Members Schema}
    (nodup : (names properties).Nodup) (apart : List.Disjoint f.mentions g.mentions) :
    List.Perm (f.apply (g.apply properties)) (g.apply (f.apply properties)) := by
  let p : String → Bool := fun name => decide (name ∈ f.mentions)
  have hf : ∀ name ∈ f.mentions, p name = true := fun name => decide_eq_true
  have hg : ∀ name ∈ g.mentions, p name = false := fun name hname =>
    decide_eq_false fun hmem => apart hmem hname
  -- under its own names each change works on what the other leaves alone
  have hown : restrict (f.apply (g.apply properties)) p
      = restrict (g.apply (f.apply properties)) p := by
    rw [f.restrict_apply hf, g.restrict_apply_of_not nodup hg,
      g.restrict_apply_of_not (f.nodup_apply nodup) hg, f.restrict_apply hf]
  have hf' : ∀ name ∈ f.mentions, (!p name) = false := fun name hname => by rw [hf name hname]; rfl
  have hg' : ∀ name ∈ g.mentions, (!p name) = true := fun name hname => by rw [hg name hname]; rfl
  have hother : restrict (f.apply (g.apply properties)) (fun name => !p name)
      = restrict (g.apply (f.apply properties)) (fun name => !p name) := by
    rw [f.restrict_apply_of_not (g.nodup_apply nodup) hf', g.restrict_apply hg',
      g.restrict_apply hg', f.restrict_apply_of_not nodup hf']
  refine (restrict_perm _ p).symm.trans ?_
  rw [hown, hother]
  exact restrict_perm _ p

theorem exists_of_mem_apply {change : MapChange} {properties : Members Schema}
    {entry : String × Schema} (h : entry ∈ change.apply properties) :
    entry.2 ∈ change.given ∨ ∃ old ∈ properties, old.2 = entry.2 := by
  cases change with
  | keep => exact .inr ⟨entry, h, rfl⟩
  | put name property =>
    rcases mem_insert h with hold | rfl
    · exact .inr ⟨entry, hold, rfl⟩
    · exact .inl List.mem_cons_self
  | take name => exact .inr ⟨entry, List.mem_of_mem_filter h, rfl⟩
  | rename old new =>
    rcases mem_insertAll h with hnil | hrenamed
    · cases hnil
    · obtain ⟨before, hbefore, rfl⟩ := List.mem_map.mp hrenamed
      exact .inr ⟨before, hbefore, rfl⟩

end MapChange

namespace NamesChange

variable {f g : NamesChange}

theorem mem_mentions_of_trace {change : NamesChange} {name after : String}
    (hname : name ∈ change.mentions) (h : change.trace name = some after) :
    after ∈ change.mentions := by
  -- if it were not mentioned, only that name itself would become it
  by_contra hafter
  rw [trace_eq_some_iff hafter] at h
  exact hafter (h ▸ hname)

theorem trace_comm (apart : List.Disjoint f.mentions g.mentions) (name : String) :
    (g.trace name).bind f.trace = (f.trace name).bind g.trace := by
  -- of two changes, the one that does not mention a name lets it pass
  have hpass {f g : NamesChange} (apart : List.Disjoint f.mentions g.mentions)
      (hname : name ∉ g.mentions) : (g.trace name).bind f.trace = (f.trace name).bind g.trace := by
    rw [(trace_eq_some_iff hname).mpr rfl, Option.bind_some]
    cases hafter : f.trace name with
    | none => rfl
    | some after =>
      have hmem : after ∉ g.mentions := by
        by_cases hf : name ∈ f.mentions
        · exact apart (mem_mentions_of_trace hf hafter)
        · rw [(trace_eq_some_iff hf).mpr rfl, Option.some.injEq] at hafter
          exact hafter ▸ hname
      exact ((trace_eq_some_iff hmem).mpr rfl).symm
  by_cases hg : name ∈ g.mentions
  · exact (hpass (List.Disjoint.symm apart) fun hf => apart hf hg).symm
  · exact hpass apart hg

theorem apply_add_comm (hadds : f.adds = false) {name : String} (hname : name ∉ f.mentions)
    (names : List String) :
    f.apply ((add name).apply names) = (add name).apply (f.apply names) := by
  show f.apply (if name ∈ names then names else names ++ [name])
    = if name ∈ f.apply names then f.apply names else f.apply names ++ [name]
  rw [if_congr (f.mem_apply_of_notMem hname) rfl rfl]
  split
  · rfl
  · rw [apply_eq_filterMap hadds, apply_eq_filterMap hadds, List.filterMap_append,
      List.filterMap_cons_some ((trace_eq_some_iff hname).mpr rfl), List.filterMap_nil]

/-- Changes of different names commute if at most one of them adds a name. -/
theorem apply_comm (apart : List.Disjoint f.mentions g.mentions)
    (once : f.adds = false ∨ g.adds = false) (names : List String) :
    f.apply (g.apply names) = g.apply (f.apply names) := by
  have hadd {f g : NamesChange} (apart : List.Disjoint f.mentions g.mentions)
      (hf : f.adds = false) : f.apply (g.apply names) = g.apply (f.apply names) := by
    cases hg : g.adds with
    | false =>
      simp only [apply_eq_filterMap hf, apply_eq_filterMap hg, List.filterMap_filterMap,
        trace_comm apart]
    | true =>
      cases g with
      | add name => exact apply_add_comm hf (fun hname => apart hname List.mem_cons_self) names
      | _ => cases hg
  rcases once with hf | hg
  · exact hadd apart hf
  · exact (hadd (List.Disjoint.symm apart) hg).symm

theorem applyOption_eq (change : NamesChange) (names? : Option (List String)) :
    change.applyOption names?
      = if names?.isSome || change.adds then some (change.apply (names?.getD [])) else none := by
  cases change <;> cases names? <;> rfl

theorem applyOption_comm (apart : List.Disjoint f.mentions g.mentions)
    (once : f.adds = false ∨ g.adds = false) (names? : Option (List String)) :
    f.applyOption (g.applyOption names?) = g.applyOption (f.applyOption names?) := by
  have hsome (f g : NamesChange) : ((g.applyOption names?).isSome || f.adds)
      = (names?.isSome || g.adds || f.adds) := by
    rw [applyOption_eq g]
    split <;> simp_all
  rw [applyOption_eq f, applyOption_eq g (f.applyOption names?), getD_applyOption,
    getD_applyOption, hsome, hsome, apply_comm apart once, Bool.or_right_comm]

end NamesChange

/-! ### Edits -/

namespace Edit

variable {f g edit : Edit} {schema : Schema}

theorem given_mapChange {part : Schema} {kind : PropertyKind}
    (h : part ∈ (edit.mapChange schema kind).given) :
    part ∈ edit.given ∨ ∃ source, ∃ entry ∈ schema.properties source, entry.2 = part := by
  cases schema with
  | boolean accepts =>
    rw [mapChange_boolean] at h
    cases h
  | object facets parts =>
    cases edit with
    | update target name property =>
      simp only [mapChange] at h
      split at h
      · exact .inl h
      · cases h
    | add target name field =>
      simp only [mapChange] at h
      split at h
      · exact .inl h
      · cases h
    | toggle source name =>
      simp only [mapChange] at h
      split at h
      · cases h
      · next property hproperty =>
        split at h
        · cases h
        · obtain rfl := List.mem_singleton.mp h
          exact .inr ⟨source, _, mem_of_lookup hproperty, rfl⟩
    | remove target name =>
      simp only [mapChange] at h
      split at h <;> cases h
    | rename target old new =>
      simp only [mapChange] at h
      split at h <;> cases h
    | require name required => cases h
    | setItems items => cases h

/-- An edit that brings no repeated names makes none. -/
theorem uniqueNames_apply (h : edit.OfProperties) (unique : schema.UniqueNames)
    (given : ∀ part ∈ edit.given, part.UniqueNames) : (edit.apply schema).UniqueNames := by
  refine unique.of_views (otherKeywords_apply h schema)
    (nodup_properties_apply h unique.nodup_properties) fun kind entry hentry => ?_
  rw [properties_apply h] at hentry
  rcases MapChange.exists_of_mem_apply hentry with hgiven | ⟨old, hold, heq⟩
  · rcases given_mapChange hgiven with hedit | ⟨source, old, hold, heq⟩
    · exact given _ hedit
    · exact heq ▸ unique.of_mem_properties hold
  · exact heq ▸ unique.of_mem_properties hold

theorem apply_eq_object (h : edit.OfProperties) (facets : Facets) (parts : Parts Schema) :
    ∃ facets' parts', edit.apply (.object facets parts) = .object facets' parts' :=
  ⟨_, _, apply_object h⟩

theorem lookup_properties_apply (hg : g.OfProperties)
    (nodup : ∀ kind, (names (schema.properties kind)).Nodup) {name : String}
    (apart : name ∉ g.mentions) (kind : PropertyKind) :
    ((g.apply schema).properties kind).lookup name = (schema.properties kind).lookup name := by
  rw [properties_apply hg]
  exact MapChange.lookup_apply_of_notMem _ (nodup kind) fun hname =>
    apart (mentions_mapChange g schema kind hname)

/-- What an edit does to the maps does not depend on edits of other names. -/
theorem mapChange_apply (hg : g.OfProperties)
    (nodup : ∀ kind, (names (schema.properties kind)).Nodup)
    (apart : List.Disjoint f.mentions g.mentions) (kind : PropertyKind) :
    f.mapChange (g.apply schema) kind = f.mapChange schema kind := by
  cases schema with
  | boolean accepts => rw [apply_boolean]
  | object facets parts =>
    obtain ⟨facets', parts', hobject⟩ := apply_eq_object hg facets parts
    cases f with
    | toggle source name =>
      have hlookup := lookup_properties_apply hg nodup (apart List.mem_cons_self) source
      rw [hobject] at hlookup ⊢
      simp only [mapChange, hlookup]
    | _ => rw [hobject]; rfl

/-- Where both maps are there, neither does what an edit does to the required names. -/
theorem requiredChange_apply (hg : g.OfProperties)
    (nodup : ∀ kind, (names (schema.properties kind)).Nodup)
    (maps : ∀ kind, (schema.propertyMap? kind).isSome = true)
    (apart : List.Disjoint f.mentions g.mentions) :
    f.requiredChange (g.apply schema) = f.requiredChange schema := by
  have hmaps (kind : PropertyKind) : ((g.apply schema).propertyMap? kind).isSome
      = (schema.propertyMap? kind).isSome := by
    rw [maps kind, propertyMap?_apply hg]
    exact MapChange.isSome_applyOption _ (maps kind)
  cases schema with
  | boolean accepts => rw [apply_boolean]
  | object facets parts =>
    obtain ⟨facets', parts', hobject⟩ := apply_eq_object hg facets parts
    cases f with
    | toggle source name =>
      have hlookup := lookup_properties_apply hg nodup (apart List.mem_cons_self) source
      rw [hobject] at hlookup ⊢
      simp only [requiredChange, hlookup]
    | require name required =>
      rw [hobject]
      cases required <;> rfl
    | _ =>
      rw [hobject] at hmaps ⊢
      simp only [requiredChange, hmaps]

/-- The edit adds a name to the required ones. -/
def Requires : Edit → Prop
  | require _ true => True
  | _ => False

theorem adds_requiredChange (h : ¬ edit.Requires) (schema : Schema) :
    (edit.requiredChange schema).adds = false := by
  cases schema with
  | boolean accepts => rw [requiredChange_boolean]; rfl
  | object facets parts =>
    cases edit with
    | require name required =>
      cases required with
      | true => exact absurd trivial h
      | false => rfl
    | update target name property => rfl
    | add target name field => rfl
    | setItems items => rfl
    | _ =>
      simp only [requiredChange]
      split <;> rfl

/-- Two edits of properties that are given different names can be made in either order, where both
maps are there and not both edits add a required name. The results are equal: the order of the
properties may differ, but not that of the required names. -/
theorem apply_comm_of_apart (unique : schema.UniqueNames)
    (maps : ∀ kind, (schema.propertyMap? kind).isSome = true)
    (hf : f.OfProperties) (hg : g.OfProperties)
    (given : ∀ part ∈ f.given ++ g.given, part.UniqueNames)
    (apart : List.Disjoint f.mentions g.mentions) (once : ¬ (f.Requires ∧ g.Requires)) :
    (f.apply (g.apply schema)).same (g.apply (f.apply schema)) = true := by
  have givenf : ∀ part ∈ f.given, part.UniqueNames := fun part hpart =>
    given part (List.mem_append_left _ hpart)
  have giveng : ∀ part ∈ g.given, part.UniqueNames := fun part hpart =>
    given part (List.mem_append_right _ hpart)
  have uniquef := uniqueNames_apply hf unique givenf
  have uniqueg := uniqueNames_apply hg unique giveng
  have nodup := unique.nodup_properties
  have apart' := List.Disjoint.symm apart
  refine (uniqueNames_apply hf uniqueg givenf).same_of_perm (uniqueNames_apply hg uniquef giveng)
    ?_ ?_ (fun kind => ?_) fun kind => ?_
  · rw [otherKeywords_apply hf, otherKeywords_apply hg, otherKeywords_apply hg,
      otherKeywords_apply hf]
  · rw [required?_apply hf, required?_apply hg, required?_apply hg, required?_apply hf,
      requiredChange_apply hg nodup maps apart, requiredChange_apply hf nodup maps apart']
    refine NamesChange.applyOption_comm ?_ ?_ _
    · exact fun name hname hname' => apart (mentions_requiredChange f schema hname)
        (mentions_requiredChange g schema hname')
    · rcases not_and_or.mp once with hnot | hnot
      · exact .inl (adds_requiredChange hnot schema)
      · exact .inr (adds_requiredChange hnot schema)
  · rw [propertyMap?_apply hf, propertyMap?_apply hg, propertyMap?_apply hg, propertyMap?_apply hf,
      MapChange.isSome_applyOption _ (MapChange.isSome_applyOption _ (maps kind)),
      MapChange.isSome_applyOption _ (MapChange.isSome_applyOption _ (maps kind))]
  · rw [properties_apply hf, properties_apply hg, properties_apply hg, properties_apply hf,
      mapChange_apply hg nodup apart, mapChange_apply hf nodup apart']
    refine MapChange.apply_comm _ _ (nodup kind) ?_
    exact fun name hname hname' => apart (mentions_mapChange f schema kind hname)
      (mentions_mapChange g schema kind hname')

theorem sampleSchema_unique : sampleSchema.UniqueNames := by
  have htyped (type : TypeName) : (Schema.typed type).UniqueNames :=
    (Schema.emitted_simple type none none).tidy.uniqueNames
  refine (htyped .object).of_views rfl sampleSchema_nodup fun kind entry hentry => ?_
  cases kind with
  | named =>
    have hnamed : entry ∈ [("a", Schema.boolean false), ("b", .typed .string),
      ("c", .typed .number)] := hentry
    simp only [List.mem_cons, List.not_mem_nil, or_false] at hnamed
    rcases hnamed with rfl | rfl | rfl
    · exact .boolean
    · exact htyped .string
    · exact htyped .number
  | pattern =>
    obtain rfl := List.mem_singleton.mp hentry
    exact Schema.emitted_empty.tidy.uniqueNames

/-- A property is renamed to one that is there, and another becomes a pattern. -/
theorem apply_comm_of_apart_renamed :
    sampleSchema.UniqueNames
      ∧ (∀ kind, (sampleSchema.propertyMap? kind).isSome = true)
      ∧ List.Disjoint (rename .named "a" "b").mentions (toggle .named "c").mentions
      ∧ ((rename .named "a" "b").apply ((toggle .named "c").apply sampleSchema)).same
          ((toggle .named "c").apply ((rename .named "a" "b").apply sampleSchema)) = true := by
  have maps : ∀ kind, (sampleSchema.propertyMap? kind).isSome = true := by
    intro kind
    cases kind <;> rfl
  have apart : List.Disjoint (rename .named "a" "b").mentions (toggle .named "c").mentions := by
    simp [List.Disjoint, mentions]
  refine ⟨sampleSchema_unique, maps, apart, ?_⟩
  exact apply_comm_of_apart sampleSchema_unique maps trivial trivial (by simp [given]) apart
    fun h => h.1

end Edit

end JsonShape
