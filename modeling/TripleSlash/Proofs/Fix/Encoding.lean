import Mathlib.Data.Option.Basic
import TripleSlash.Fix.Data
import TripleSlash.Proofs.Comment.Encoding
import TripleSlash.Proofs.Declaration.Encoding

namespace TripleSlash

namespace Fix

theorem settle_fieldData (f : Fix) : ∀ g ∈ f.fieldData, g.2.settle = some g.2 := by
  cases f <;> simp [fieldData, Datum.settle, (Comment.encoded_toDatum _).settle]

theorem nodup_fieldData (f : Fix) : (f.fieldData.map (·.1)).Nodup := by
  cases f <;> simp [fieldData]

theorem ofFields?_fieldData (f : Fix) : ofFields? f.fieldData = some f := by
  have hn := f.nodup_fieldData
  rw [ofFields?, Datum.settle_ofFields f.settle_fieldData]
  cases f with
  | document =>
    have hv : (Datum.ofFields document.fieldData).variant? "fix" kinds = some ("document", []) :=
      Datum.variant?_ofTag rfl
    simp [hv]
  | documentParameter parameter existing =>
    have hv : (Datum.ofFields (documentParameter parameter existing).fieldData).variant? "fix"
        kinds = some ("document_parameter",
          [("parameter", .text parameter), ("existing", existing.toDatum)]) :=
      Datum.variant?_ofFields hn rfl
    simp [hv, List.lookup_cons, Datum.text?, existing.ofSettled?_toDatum]
  | documentParameters existing =>
    have hv : (Datum.ofFields (documentParameters existing).fieldData).variant? "fix" kinds =
        some ("document_parameters", [("existing", existing.toDatum)]) :=
      Datum.variant?_ofFields hn rfl
    simp [hv, existing.ofSettled?_toDatum]

end Fix

namespace Request

/-- The fields of a request as they are written. -/
def fieldData (r : Request) : Datum.Fields :=
  [("id", .ofOption .text r.id), ("indentation", .text r.indentation)] ++ r.fix.fieldData ++
    [("declaration", r.declaration.toDatum)]

theorem nodup_fieldData (r : Request) : (r.fieldData.map (·.1)).Nodup := by
  cases hf : r.fix <;> simp [fieldData, Fix.fieldData, hf]

theorem filter_fieldData (r : Request) :
    r.fieldData.filter (!fieldNames.contains ·.1) = r.fix.fieldData := by
  cases hf : r.fix <;> simp [fieldData, Fix.fieldData, fieldNames, hf]

theorem lookup_declaration (r : Request) :
    r.fieldData.lookup "declaration" = some r.declaration.toDatum := by
  cases hf : r.fix <;> simp [fieldData, Fix.fieldData, List.lookup_cons, hf]

theorem ofDatum?_toDatum {r : Request} (h : r.declaration.Legible) :
    ofDatum? r.toDatum = some r := by
  have ht : r.toDatum = .record (r.fieldData.map fun f => (.text f.1, f.2)) := rfl
  have hn : guard (Datum.Fields.distinct fieldNames r.fieldData) = some () := by
    rw [Datum.Fields.distinct_of_nodup r.nodup_fieldData]
    rfl
  have hi : Datum.optional? Datum.text? (r.fieldData.lookup "id") = some r.id :=
    Datum.optional?_text r.id
  have hx : Fix.ofFields? (r.fieldData.filter (!fieldNames.contains ·.1)) = some r.fix := by
    rw [r.filter_fieldData, r.fix.ofFields?_fieldData]
  rw [ht, ofDatum?, Datum.mapM_map_eq_some]
  · simp only [Option.bind_eq_bind, Option.bind_some, hn, hi, hx, r.lookup_declaration,
      Declaration.ofDatum?_toDatum h]
    rfl
  · intro f _
    rfl

theorem legible_of_ofDatum? (h : ofDatum? d = some r) : r.declaration.Legible := by
  unfold ofDatum? at h
  split at h
  case h_1 fs =>
    simp only [Option.bind_eq_bind, Option.bind_eq_some_iff] at h
    obtain ⟨gs, -, u, -, id, -, indentation, -, fix, -, declaration, ⟨v, -, hv⟩, h⟩ := h
    cases h
    exact Declaration.legible_of_ofDatum? hv
  case h_2 => cases h

/-- Data that is read as a request, written anew, is read as the same request. -/
theorem ofDatum?_toDatum_of_ofDatum? (h : ofDatum? d = some r) : ofDatum? r.toDatum = some r :=
  ofDatum?_toDatum (legible_of_ofDatum? h)

/-- A throw of a new object of a type that is none, its tag behind the rest. -/
def throwData : Datum :=
  .record [
    (.text "expression",
      .record [(.text "type", .text "IO..Error "), (.text "kind", .text "object_creation")]),
    (.text "kind", .text "throw")]

/-- A method with a field that is not known. Most of the others are left out. -/
def methodData : Datum :=
  .record [(.text "name", .text "Copy"), (.text "kind", .text "method"),
    (.text "line", .number "3"), (.text "return_type", .text " List< int ? [ , ] >"),
    (.text "body", .list [throwData])]

/-- A request for one parameter, with an unnamed element in the existing comment. -/
def copyData : Datum :=
  .record [(.text "declaration", methodData), (.text "fix", .text "document_parameter"),
    (.text "priority", .list [.number "1"]), (.text "parameter", .text "source"),
    (.text "existing", .list [
      .record [(.text "kind", .text "param"), (.text "content", .list [
        .record [(.text "see", .text "Copy"), (.text "text", .text "a & b")]])],
      .record [(.text "kind", .text "new_line")],
      .record [(.text "kind", .text "exception"), (.text "cref", .text "E")]])]

def copy : Request where
  fix := .documentParameter "source" [.param none [.text "a & b"], .newLine, .exception "E" []]
  declaration :=
    { kind := .method, name := "Copy"
      returnType := some (.generic "List" [.array (.nullable (.keyword "int"))])
      body := [.throws (some (.creation (.raw "IO..Error")))] }

theorem bodyOfDatum?_throwData :
    bodyOfDatum? (.list [throwData]) = some [.throws (some (.creation (.raw "IO..Error")))] := by
  have hs : TypeRef.Token.scan "IO..Error ".toList =
      some [.name "IO", .dot, .dot, .name "Error"] := by decide +kernel
  have ht : TypeRef.ofDatum? (.text "IO..Error ") = some (.raw "IO..Error") := by
    change some (TypeRef.parse "IO..Error ") = _
    rw [TypeRef.parse, hs]
    rfl
  change (Statement.ofSettled? _).bind _ = _
  rw [Statement.ofSettled?_eq]
  change ((Expression.ofSettled? _).map _).bind _ = _
  rw [Expression.ofSettled?_eq]
  change (((TypeRef.ofDatum? _).map _).map _).bind _ = _
  rw [ht]
  rfl

theorem ofDatum?_methodData : Declaration.ofDatum? methodData = some copy.declaration := by
  have hs : TypeRef.Token.scan " List< int ? [ , ] >".toList = some [.name "List", .less,
      .name "int", .question, .openBracket, .comma, .closeBracket, .greater] := by decide +kernel
  have ht : TypeRef.ofDatum? (.text " List< int ? [ , ] >") =
      some (.generic "List" [.array (.nullable (.keyword "int"))]) :=
    congrArg some (TypeRef.parse_of_read hs rfl)
  have hr : Datum.optional? TypeRef.ofDatum? (some (.text " List< int ? [ , ] >")) =
      some copy.declaration.returnType :=
    congrArg (Option.map some) ht
  have hf : methodData.fields? Declaration.fieldNames = some [("name", .text "Copy"),
      ("kind", .text "method"), ("line", .number "3"),
      ("return_type", .text " List< int ? [ , ] >"), ("body", .list [throwData])] := rfl
  apply Declaration.ofDatum?_eq_some_iff.2
  refine ⟨_, hf, ?_⟩
  constructor
  case returnType => exact hr
  case body => exact bodyOfDatum?_throwData
  all_goals rfl

theorem ofDatum?_toDatum_copy :
    ofDatum? copyData = some copy ∧ ofDatum? copy.toDatum = some copy := by
  have h : ofDatum? copyData = some copy := by
    change (Declaration.ofDatum? _).bind _ = _
    rw [ofDatum?_methodData]
    rfl
  exact ⟨h, ofDatum?_toDatum_of_ofDatum? h⟩

end Request

end TripleSlash
