import TripleSlash.Declaration.BodyData
import TripleSlash.Proofs.Datum.Fields
import TripleSlash.Proofs.TypeRef.Legible

namespace TripleSlash

theorem TypeRef.Legible.ofDatum?_toDatum (h : Legible t) : ofDatum? t.toDatum = some t := by
  rw [ofDatum?, toDatum, Datum.text?, Option.map_some, h.parse_text]

theorem TypeRef.legible_of_ofDatum? (h : ofDatum? d = some t) : Legible t := by
  obtain ⟨s, _, rfl⟩ := Option.map_eq_some_iff.1 h
  exact legible_parse s

mutual

/-- Whether all types in a statement could have been read from a text. -/
def Statement.Legible : Statement → Prop
  | .throws (some e) => e.Legible
  | .block ss => BodyLegible ss
  | .expression e => e.Legible
  | .throws none | .other => True

def Expression.Legible : Expression → Prop
  | .creation t => t.Legible
  | .lambda ss => BodyLegible ss
  | .identifier _ | .other => True

def BodyLegible : List Statement → Prop
  | [] => True
  | s :: ss => s.Legible ∧ BodyLegible ss

end

theorem Statement.ofSettled?_eq (d : Datum) :
    Statement.ofSettled? d =
      match d.variant? "kind" Statement.kinds with
      | some ("throw", fs) =>
        match fs.lookup "expression" with
        | none => some (.throws none)
        | some v =>
          if v.isNull then some (.throws none)
          else (Expression.ofSettled? v).map fun e => .throws (some e)
      | some ("expression", fs) =>
        match fs.lookup "expression" with
        | none => none
        | some v => (Expression.ofSettled? v).map .expression
      | some ("block", fs) =>
        match fs.lookup "statements" with
        | some (.list vs) => (bodyOfSettled? vs).map .block
        | _ => none
      | some ("other", _) => some .other
      | _ => none := by
  rw [Statement.ofSettled?]
  split
  case h_1 fs hd =>
    rw [hd]
    split <;> rename_i hv <;> simp only [hv]
  case h_2 fs hd =>
    rw [hd]
    split <;> rename_i hv <;> simp only [hv]
  case h_3 fs hd =>
    rw [hd]
    split <;> rename_i hv
    · simp only [hv]
    · cases hl : fs.lookup "statements" with
      | none => simp only [hl]
      | some v => cases v <;> simp_all
  case h_4 hd => simp only [hd]
  case h_5 =>
    split <;> simp_all

theorem Expression.ofSettled?_eq (d : Datum) :
    Expression.ofSettled? d =
      match d.variant? "kind" Expression.kinds with
      | some ("object_creation", fs) =>
        ((fs.lookup "type").bind TypeRef.ofDatum?).map .creation
      | some ("identifier", fs) => ((fs.lookup "name").bind Datum.text?).map .identifier
      | some ("lambda", fs) =>
        match fs.lookup "body" with
        | some (.list vs) => (bodyOfSettled? vs).map .lambda
        | _ => none
      | some ("other", _) => some .other
      | _ => none := by
  rw [Expression.ofSettled?]
  split
  case h_1 fs hd | h_2 fs hd | h_4 hd => simp only [hd]
  case h_3 fs hd =>
    rw [hd]
    split <;> rename_i hv
    · simp only [hv]
    · cases hl : fs.lookup "body" with
      | none => simp only [hl]
      | some v => cases v <;> simp_all
  case h_5 => split <;> simp_all

def Statement.tag : Statement → String
  | .throws _ => "throw"
  | .block _ => "block"
  | .expression _ => "expression"
  | .other => "other"

def Statement.fieldData : Statement → Datum.Fields
  | .throws none => [("expression", .null)]
  | .throws (some e) | .expression e => [("expression", e.toDatum)]
  | .block ss => [("statements", .list (bodyToData ss))]
  | .other => []

def Expression.tag : Expression → String
  | .creation _ => "object_creation"
  | .identifier _ => "identifier"
  | .lambda _ => "lambda"
  | .other => "other"

def Expression.fieldData : Expression → Datum.Fields
  | .creation t => [("type", t.toDatum)]
  | .identifier name => [("name", .text name)]
  | .lambda ss => [("body", .list (bodyToData ss))]
  | .other => []

theorem Statement.toDatum_eq (s : Statement) :
    s.toDatum = .ofFields (("kind", .text s.tag) :: s.fieldData) := by
  cases s with
  | throws e => cases e <;> rfl
  | block | expression | other => rfl

theorem Expression.toDatum_eq (e : Expression) :
    e.toDatum = .ofFields (("kind", .text e.tag) :: e.fieldData) := by
  cases e <;> rfl

theorem Statement.nodup_fieldData (s : Statement) : ("kind" :: s.fieldData.map (·.1)).Nodup := by
  cases s with
  | throws e => cases e <;> simp [fieldData]
  | block | expression | other => simp [fieldData]

theorem Expression.nodup_fieldData (e : Expression) : ("kind" :: e.fieldData.map (·.1)).Nodup := by
  cases e <;> simp [fieldData]

theorem Statement.variant?_toDatum (s : Statement) :
    s.toDatum.variant? "kind" kinds = some (s.tag, s.fieldData) := by
  have hn := s.nodup_fieldData
  rw [toDatum_eq]
  cases s with
  | throws | block | expression => exact Datum.variant?_ofFields hn rfl
  | other => exact Datum.variant?_ofTag rfl

theorem Expression.variant?_toDatum (e : Expression) :
    e.toDatum.variant? "kind" kinds = some (e.tag, e.fieldData) := by
  have hn := e.nodup_fieldData
  rw [toDatum_eq]
  cases e with
  | creation | identifier | lambda => exact Datum.variant?_ofFields hn rfl
  | other => exact Datum.variant?_ofTag rfl

mutual

theorem Statement.settle_toDatum : ∀ s : Statement, s.toDatum.settle = some s.toDatum
  | .throws none => Datum.settle_ofFields (by simp [Datum.settle])
  | .throws (some e) => Datum.settle_ofFields (by simp [Datum.settle, e.settle_toDatum])
  | .block ss => Datum.settle_ofFields (by simp [Datum.settle, settleItems_bodyToData ss])
  | .expression e => Datum.settle_ofFields (by simp [Datum.settle, e.settle_toDatum])
  | .other => Datum.settle_ofFields (by simp [Datum.settle])

theorem Expression.settle_toDatum : ∀ e : Expression, e.toDatum.settle = some e.toDatum
  | .creation t => Datum.settle_ofFields (by simp [Datum.settle, TypeRef.toDatum])
  | .identifier name => Datum.settle_ofFields (by simp [Datum.settle])
  | .lambda ss => Datum.settle_ofFields (by simp [Datum.settle, settleItems_bodyToData ss])
  | .other => Datum.settle_ofFields (by simp [Datum.settle])

theorem settleItems_bodyToData : ∀ ss : List Statement,
    Datum.settleItems (bodyToData ss) = some (bodyToData ss)
  | [] => rfl
  | s :: ss => by
    rw [bodyToData, Datum.settleItems, s.settle_toDatum, settleItems_bodyToData ss]
    rfl

end

theorem Statement.settle_fieldData (s : Statement) : ∀ f ∈ s.fieldData, f.2.settle = some f.2 := by
  cases s with
  | throws e => cases e <;> simp [fieldData, Datum.settle, Expression.settle_toDatum]
  | block ss => simp [fieldData, Datum.settle, settleItems_bodyToData]
  | expression e => simp [fieldData, Expression.settle_toDatum]
  | other => simp [fieldData]

theorem Statement.settleTagged?_toDatum (s : Statement) :
    s.toDatum.settleTagged? "kind" = some s.toDatum := by
  rw [toDatum_eq]
  exact Datum.settleTagged?_ofFields (List.nodup_cons.1 s.nodup_fieldData).1 s.settle_fieldData

mutual

theorem Statement.ofSettled?_toDatum : ∀ s : Statement, s.Legible →
    Statement.ofSettled? s.toDatum = some s
  | .throws none, _ => by
    rw [Statement.ofSettled?_eq, Statement.variant?_toDatum]
    rfl
  | .throws (some e), h => by
    have hn : e.toDatum.isNull = false := by cases e <;> rfl
    rw [Statement.ofSettled?_eq, Statement.variant?_toDatum]
    simp [Statement.tag, Statement.fieldData, hn, e.ofSettled?_toDatum h]
  | .block ss, h => by
    rw [Statement.ofSettled?_eq, Statement.variant?_toDatum]
    simp [Statement.tag, Statement.fieldData, bodyOfSettled?_bodyToData ss h]
  | .expression e, h => by
    rw [Statement.ofSettled?_eq, Statement.variant?_toDatum]
    simp [Statement.tag, Statement.fieldData, e.ofSettled?_toDatum h]
  | .other, _ => by
    rw [Statement.ofSettled?_eq, Statement.variant?_toDatum]
    rfl

theorem Expression.ofSettled?_toDatum : ∀ e : Expression, e.Legible →
    Expression.ofSettled? e.toDatum = some e
  | .creation t, h => by
    have ht : t.Legible := h
    rw [Expression.ofSettled?_eq, Expression.variant?_toDatum]
    simp [Expression.tag, Expression.fieldData, ht.ofDatum?_toDatum]
  | .identifier name, _ => by
    rw [Expression.ofSettled?_eq, Expression.variant?_toDatum]
    rfl
  | .lambda ss, h => by
    rw [Expression.ofSettled?_eq, Expression.variant?_toDatum]
    simp [Expression.tag, Expression.fieldData, bodyOfSettled?_bodyToData ss h]
  | .other, _ => by
    rw [Expression.ofSettled?_eq, Expression.variant?_toDatum]
    rfl

theorem bodyOfSettled?_bodyToData : ∀ ss : List Statement, BodyLegible ss →
    bodyOfSettled? (bodyToData ss) = some ss
  | [], _ => by rw [bodyToData, bodyOfSettled?]
  | s :: ss, h => by
    rw [bodyToData, bodyOfSettled?, s.ofSettled?_toDatum h.1, bodyOfSettled?_bodyToData ss h.2]

end

/-- A body that was written is read back, if its types are legible. -/
theorem bodyOfDatum?_bodyToData {ss : List Statement} (h : BodyLegible ss) :
    bodyOfDatum? (.list (bodyToData ss)) = some ss := by
  rw [bodyOfDatum?, Datum.items?_list, Option.bind_some]
  induction ss with
  | nil => rfl
  | cons s ss ih =>
    rw [bodyToData, List.mapM_cons, s.settleTagged?_toDatum, Option.bind_some,
      s.ofSettled?_toDatum h.1, ih h.2]
    rfl

mutual

theorem Statement.legible_of_ofSettled? (d : Datum) (s : Statement)
    (h : Statement.ofSettled? d = some s) : s.Legible := by
  rw [Statement.ofSettled?_eq] at h
  split at h
  case h_1 fs hd =>
    split at h
    case h_1 =>
      cases h
      trivial
    case h_2 v hv =>
      have hlt := Datum.sizeOf_lt_of_variant hd hv
      split at h
      case isTrue =>
        cases h
        trivial
      case isFalse =>
        obtain ⟨e, he, rfl⟩ := Option.map_eq_some_iff.1 h
        exact Expression.legible_of_ofSettled? v e he
  case h_2 fs hd =>
    split at h
    case h_1 => cases h
    case h_2 v hv =>
      have hlt := Datum.sizeOf_lt_of_variant hd hv
      obtain ⟨e, he, rfl⟩ := Option.map_eq_some_iff.1 h
      exact Expression.legible_of_ofSettled? v e he
  case h_3 fs hd =>
    split at h
    case h_1 vs hv =>
      have hlt : sizeOf vs < sizeOf d := by
        have hl := Datum.sizeOf_lt_of_variant hd hv
        rw [Datum.list.sizeOf_spec] at hl
        omega
      obtain ⟨ss, hs, rfl⟩ := Option.map_eq_some_iff.1 h
      exact bodyLegible_of_bodyOfSettled? vs ss hs
    case h_2 => cases h
  case h_4 =>
    cases h
    trivial
  case h_5 => cases h
termination_by sizeOf d

theorem Expression.legible_of_ofSettled? (d : Datum) (e : Expression)
    (h : Expression.ofSettled? d = some e) : e.Legible := by
  rw [Expression.ofSettled?_eq] at h
  split at h
  case h_1 fs hd =>
    obtain ⟨t, ht, rfl⟩ := Option.map_eq_some_iff.1 h
    obtain ⟨v, _, ht⟩ := Option.bind_eq_some_iff.1 ht
    exact TypeRef.legible_of_ofDatum? ht
  case h_2 fs hd =>
    obtain ⟨name, _, rfl⟩ := Option.map_eq_some_iff.1 h
    trivial
  case h_3 fs hd =>
    split at h
    case h_1 vs hv =>
      have hlt : sizeOf vs < sizeOf d := by
        have hl := Datum.sizeOf_lt_of_variant hd hv
        rw [Datum.list.sizeOf_spec] at hl
        omega
      obtain ⟨ss, hs, rfl⟩ := Option.map_eq_some_iff.1 h
      exact bodyLegible_of_bodyOfSettled? vs ss hs
    case h_2 => cases h
  case h_4 =>
    cases h
    trivial
  case h_5 => cases h
termination_by sizeOf d

theorem bodyLegible_of_bodyOfSettled? (vs : List Datum) (ss : List Statement)
    (h : bodyOfSettled? vs = some ss) : BodyLegible ss := by
  cases vs with
  | nil =>
    rw [bodyOfSettled?] at h
    cases h
    trivial
  | cons v vs =>
    rw [bodyOfSettled?] at h
    split at h
    case h_1 s ss hs hss =>
      cases h
      exact ⟨Statement.legible_of_ofSettled? v s hs, bodyLegible_of_bodyOfSettled? vs ss hss⟩
    case h_2 => cases h
termination_by sizeOf vs

end

theorem bodyLegible_of_forall_mem {ss : List Statement} (h : ∀ s ∈ ss, s.Legible) :
    BodyLegible ss := by
  induction ss with
  | nil => trivial
  | cons s ss ih =>
    rw [List.forall_mem_cons] at h
    exact ⟨h.1, ih h.2⟩

theorem bodyLegible_of_bodyOfDatum? (h : bodyOfDatum? d = some ss) : BodyLegible ss := by
  obtain ⟨vs, -, h⟩ := Option.bind_eq_some_iff.1 h
  apply bodyLegible_of_forall_mem
  intro s hs
  obtain ⟨v, hv⟩ := Datum.exists_of_mem_mapM h s hs
  obtain ⟨w, -, hw⟩ := Option.bind_eq_some_iff.1 hv
  exact Statement.legible_of_ofSettled? w s hw

end TripleSlash
