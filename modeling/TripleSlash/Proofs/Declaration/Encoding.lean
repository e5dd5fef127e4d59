import TripleSlash.Declaration.Data
import TripleSlash.Proofs.Declaration.BodyEncoding

namespace TripleSlash

theorem Datum.optional?_ofOption {read : Datum → Option α} {write : α → Datum} {o : Option α}
    (h : ∀ a, o = some a → (write a).isNull = false ∧ read (write a) = some a) :
    optional? read (some (ofOption write o)) = some o := by
  cases o with
  | none => rfl
  | some a =>
    obtain ⟨hn, hr⟩ := h a rfl
    simp [ofOption, optional?, hn, hr]

theorem Datum.optional?_text (o : Option String) :
    optional? text? (some (ofOption .text o)) = some o :=
  optional?_ofOption fun _ _ => ⟨rfl, rfl⟩

theorem Access.ofDatum?_toDatum (a : Access) : ofDatum? a.toDatum = some a := by
  cases a <;> rfl

theorem Accessor.ofDatum?_toDatum (a : Accessor) : ofDatum? a.toDatum = some a := by
  have ha := Datum.optional?_ofOption (o := a.access) fun x _ => ⟨rfl, x.ofDatum?_toDatum⟩
  rw [ofDatum?, toDatum, Datum.fields?_ofFields (by simp)]
  simp [ha]

theorem Accessors.ofDatum?_toDatum (a : Accessors) : ofDatum? a.toDatum = some a := by
  have hg := Datum.optional?_ofOption (o := a.getter) fun x _ => ⟨rfl, x.ofDatum?_toDatum⟩
  have hs := Datum.optional?_ofOption (o := a.setter) fun x _ => ⟨rfl, x.ofDatum?_toDatum⟩
  rw [ofDatum?, toDatum, Datum.fields?_ofFields (by simp)]
  simp [List.lookup_cons, hg, hs, Datum.orDefault?, Datum.bool?]

theorem Parameter.ofDatum?_toDatum {p : Parameter} (h : p.type.Legible) :
    ofDatum? p.toDatum = some p := by
  rw [ofDatum?, toDatum, Datum.fields?_ofFields (by simp)]
  simp [List.lookup_cons, Datum.text?, h.ofDatum?_toDatum]

theorem Parameter.legible_of_ofDatum? {p : Parameter} (h : ofDatum? d = some p) :
    p.type.Legible := by
  simp only [ofDatum?, Option.bind_eq_bind, Option.bind_eq_some_iff] at h
  obtain ⟨fs, -, name, -, type, ⟨v, -, hv⟩, h⟩ := h
  cases h
  exact TypeRef.legible_of_ofDatum? hv

theorem Enclosing.ofDatum?_toDatum (e : Enclosing) : ofDatum? e.toDatum = some e := by
  have hk : (Datum.text e.kind.tag).oneOf? EnclosingKind.all EnclosingKind.tag = some e.kind := by
    cases e.kind <;> rfl
  rw [ofDatum?, toDatum, Datum.fields?_ofFields (by simp)]
  simp [List.lookup_cons, Datum.text?, Datum.orDefault?, hk, Datum.texts?_list]

namespace Declaration

theorem Kind.ofDatum?_text_tag (k : Kind) : ofDatum? (.text k.tag) = some k := by
  cases k <;> rfl

/-- Whether all types in a declaration could have been read from a text. -/
structure Legible (d : Declaration) : Prop where
  parameters : ∀ p ∈ d.parameters, p.type.Legible
  returnType : ∀ t, d.returnType = some t → t.Legible
  valueType : ∀ t, d.valueType = some t → t.Legible
  body : BodyLegible d.body

/-- What the fields of a record say about each part of a declaration. -/
structure ReadFrom (fs : Datum.Fields) (d : Declaration) : Prop where
  kind : (fs.lookup "kind").bind Kind.ofDatum? = some d.kind
  name : (fs.lookup "name").bind Datum.text? = some d.name
  typeParameters :
    Datum.orDefault? [] Datum.texts? (fs.lookup "type_parameters") = some d.typeParameters
  parameters :
    Datum.orDefault? [] (fun v => v.items?.bind (·.mapM Parameter.ofDatum?))
      (fs.lookup "parameters") = some d.parameters
  returnType : Datum.optional? TypeRef.ofDatum? (fs.lookup "return_type") = some d.returnType
  valueType : Datum.optional? TypeRef.ofDatum? (fs.lookup "type") = some d.valueType
  access : Datum.orDefault? .pub Access.ofDatum? (fs.lookup "accessibility") = some d.access
  accessors : Datum.orDefault? {} Accessors.ofDatum? (fs.lookup "accessors") = some d.accessors
  enclosing :
    Datum.optional? Enclosing.ofDatum? (fs.lookup "containing_type") = some d.enclosing
  body : Datum.orDefault? [] bodyOfDatum? (fs.lookup "body") = some d.body
  isOverride : Datum.orDefault? false Datum.bool? (fs.lookup "is_override") = some d.isOverride
  explicitInterface :
    Datum.optional? Datum.text? (fs.lookup "explicit_interface") = some d.explicitInterface
  implementsMember :
    Datum.orDefault? false Datum.bool? (fs.lookup "implements_interface_member") =
      some d.implementsMember

theorem ofDatum?_eq_some_iff {d : Declaration} :
    ofDatum? v = some d ↔ ∃ fs, v.fields? fieldNames = some fs ∧ ReadFrom fs d := by
  constructor
  · intro h
    rw [ofDatum?] at h
    obtain ⟨fs, hf, h⟩ := Option.bind_eq_some_iff.1 h
    obtain ⟨_, kind, h⟩ := Option.bind_eq_some_iff.1 h
    obtain ⟨_, name, h⟩ := Option.bind_eq_some_iff.1 h
    obtain ⟨_, typeParameters, h⟩ := Option.bind_eq_some_iff.1 h
    obtain ⟨_, parameters, h⟩ := Option.bind_eq_some_iff.1 h
    obtain ⟨_, returnType, h⟩ := Option.bind_eq_some_iff.1 h
    obtain ⟨_, valueType, h⟩ := Option.bind_eq_some_iff.1 h
    obtain ⟨_, access, h⟩ := Option.bind_eq_some_iff.1 h
    obtain ⟨_, accessors, h⟩ := Option.bind_eq_some_iff.1 h
    obtain ⟨_, enclosing, h⟩ := Option.bind_eq_some_iff.1 h
    obtain ⟨_, body, h⟩ := Option.bind_eq_some_iff.1 h
    obtain ⟨_, isOverride, h⟩ := Option.bind_eq_some_iff.1 h
    obtain ⟨_, explicitInterface, h⟩ := Option.bind_eq_some_iff.1 h
    obtain ⟨_, implementsMember, h⟩ := Option.bind_eq_some_iff.1 h
    cases h
    exact ⟨fs, hf, ⟨kind, name, typeParameters, parameters, returnType, valueType, access,
      accessors, enclosing, body, isOverride, explicitInterface, implementsMember⟩⟩
  · rintro ⟨fs, hf, h⟩
    rw [ofDatum?, hf, Option.bind_eq_bind, Option.bind_some]
    rw [h.kind, h.name, h.typeParameters, h.parameters, h.returnType, h.valueType, h.access,
      h.accessors, h.enclosing, h.body, h.isOverride, h.explicitInterface, h.implementsMember]
    rfl

theorem ofDatum?_toDatum {d : Declaration} (h : d.Legible) : ofDatum? d.toDatum = some d := by
  have hp : (d.parameters.map Parameter.toDatum).mapM Parameter.ofDatum? = some d.parameters :=
    Datum.mapM_map_eq_some fun p hp => Parameter.ofDatum?_toDatum (h.parameters p hp)
  have hr := Datum.optional?_ofOption (o := d.returnType) fun t ht =>
    ⟨rfl, (h.returnType t ht).ofDatum?_toDatum⟩
  have hv := Datum.optional?_ofOption (o := d.valueType) fun t ht =>
    ⟨rfl, (h.valueType t ht).ofDatum?_toDatum⟩
  have he := Datum.optional?_ofOption (o := d.enclosing) fun e _ => ⟨rfl, e.ofDatum?_toDatum⟩
  apply ofDatum?_eq_some_iff.2
  refine ⟨_, Datum.fields?_ofFields (by simp) fieldNames, ?_⟩
  exact {
    kind := Kind.ofDatum?_text_tag d.kind
    name := rfl
    typeParameters := Datum.texts?_list d.typeParameters
    parameters := hp
    returnType := hr
    valueType := hv
    access := d.access.ofDatum?_toDatum
    accessors := d.accessors.ofDatum?_toDatum
    enclosing := he
    body := bodyOfDatum?_bodyToData h.body
    isOverride := rfl
    explicitInterface := Datum.optional?_text d.explicitInterface
    implementsMember := rfl }

theorem legible_of_parameters (h : Datum.orDefault? []
    (fun d => d.items?.bind (·.mapM Parameter.ofDatum?)) v = some ps) :
    ∀ p ∈ ps, p.type.Legible := by
  rcases Datum.read_of_orDefault? h with rfl | ⟨d, hd⟩
  · intro p hp
    cases hp
  · obtain ⟨vs, -, hvs⟩ := Option.bind_eq_some_iff.1 hd
    intro p hp
    obtain ⟨w, hw⟩ := Datum.exists_of_mem_mapM hvs p hp
    exact Parameter.legible_of_ofDatum? hw

theorem legible_of_type (h : Datum.optional? TypeRef.ofDatum? v = some o) :
    ∀ t, o = some t → t.Legible := by
  rintro t rfl
  obtain ⟨d, hd⟩ := Datum.read_of_optional? h
  exact TypeRef.legible_of_ofDatum? hd

theorem legible_of_body (h : Datum.orDefault? [] bodyOfDatum? v = some ss) : BodyLegible ss := by
  rcases Datum.read_of_orDefault? h with rfl | ⟨d, hd⟩
  · trivial
  · exact bodyLegible_of_bodyOfDatum? hd

/-- A declaration that was read, whatever was missing, has legible types only. -/
theorem legible_of_ofDatum? {d : Declaration} (h : ofDatum? v = some d) : d.Legible := by
  obtain ⟨fs, -, h⟩ := ofDatum?_eq_some_iff.1 h
  exact ⟨legible_of_parameters h.parameters, legible_of_type h.returnType,
    legible_of_type h.valueType, legible_of_body h.body⟩

end Declaration

end TripleSlash
