import TripleSlash.Proofs.Comment.Encoding
import TripleSlash.Proofs.Datum.Json.Reading
import TripleSlash.Report

namespace TripleSlash

open Datum (Encoded)

namespace Outcome

theorem map_fst_presentField (name : String) (write : α → Datum) (o : Option α) :
    (presentField name write o).map (·.1) = o.toList.map fun _ => name := by
  cases o <;> rfl

theorem lookup_presentField_append (name : String) (write : α → Datum) (o : Option α)
    (fs : Datum.Fields) (key : String) :
    (presentField name write o ++ fs).lookup key =
      if key = name then (o.map write).or (fs.lookup key) else fs.lookup key := by
  cases o with
  | none => simp [presentField]
  | some a =>
    by_cases h : key = name
    · simp [presentField, h]
    · simp [presentField, h, List.lookup_cons, beq_eq_false_iff_ne.2 h]

theorem optional?_map_text (o : Option String) :
    Datum.optional? Datum.text? (o.map .text) = some o := by
  cases o <;> rfl

theorem optional?_map_comment (o : Option Comment) :
    Datum.optional? Comment.ofDatum? (o.map Comment.toDatum) = some o := by
  cases o with
  | none => rfl
  | some c =>
    have hr := c.ofDatum?_toDatum
    exact congrArg (Option.map some) hr

theorem ofDatum?_toDatum (o : Outcome) : ofDatum? o.toDatum = some o := by
  have hn : ((presentField "id" .text o.id ++
      [("declaration", Datum.text o.declaration), ("offered", .bool o.offered)] ++
      presentField "reason" .text o.reason ++ presentField "comment" Comment.toDatum o.comment ++
      presentField "text" .text o.text).map (·.1)).Nodup := by
    simp only [List.map_append, map_fst_presentField]
    cases o.id <;> cases o.reason <;> cases o.comment <;> cases o.text <;> simp
  have ht (key : String) := lookup_presentField_append "text" Datum.text o.text [] key
  simp only [List.append_nil] at ht
  rw [ofDatum?, toDatum, Datum.fields?_ofFields hn]
  simp [lookup_presentField_append, ht, List.lookup_cons, Datum.text?, Datum.bool?,
    optional?_map_text, optional?_map_comment]

theorem listOfDatum?_listToDatum (os : List Outcome) : listOfDatum? (listToDatum os) = some os := by
  rw [listOfDatum?, listToDatum, Datum.items?_list, Option.bind_some]
  exact Datum.mapM_map_eq_some fun o _ => o.ofDatum?_toDatum

theorem encoded_presentField {write : α → Datum} (h : ∀ a, Encoded depth (write a))
    (name : String) (o : Option α) : ∀ f ∈ presentField name write o, Encoded depth f.2 := by
  cases o with
  | none => simp [presentField]
  | some a => simp [presentField, h]

theorem encoded_toDatum (o : Outcome) : Encoded 5 o.toDatum := by
  have ht (name : String) (value : Option String) :
      ∀ f ∈ presentField name .text value, Encoded 4 f.2 :=
    encoded_presentField (fun _ => .text) name value
  have hc : ∀ f ∈ presentField "comment" Comment.toDatum o.comment, Encoded 4 f.2 :=
    encoded_presentField Comment.encoded_toDatum "comment" o.comment
  apply Encoded.record
  simp only [List.forall_mem_append, List.forall_mem_cons]
  exact ⟨⟨⟨⟨ht _ _, .text, .bool, by simp⟩, ht _ _⟩, hc⟩, ht _ _⟩

theorem encoded_listToDatum (os : List Outcome) : Encoded 6 (listToDatum os) :=
  .map_list fun o _ => o.encoded_toDatum

end Outcome

namespace Report

/-- A report in this form can be read back, whatever it reports. -/
theorem read_ofOutcomes_json (os : List Outcome) :
    (Json.parse? (ofOutcomes .json os)).bind Outcome.listOfDatum? = some os := by
  have hd : 6 ≤ Json.nesting := by decide
  rw [ofOutcomes, Json.parse?_pretty (Outcome.encoded_listToDatum os) hd, Option.bind_some]
  exact Outcome.listOfDatum?_listToDatum os

end Report

end TripleSlash
