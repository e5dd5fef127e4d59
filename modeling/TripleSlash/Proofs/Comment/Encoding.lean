import TripleSlash.Comment.Data
import TripleSlash.Proofs.Datum.Encoded

namespace TripleSlash

open Datum (Encoded)

namespace Inline

theorem ofSettled?_toDatum (i : Inline) : ofSettled? i.toDatum = some i := by
  cases i with
  | text t =>
    have hr : (Datum.ofFields [("text", .text t)]).recordFields? ["text"] =
        some [("text", .text t)] := Datum.recordFields?_ofFields (by simp) _
    simp [ofSettled?, toDatum, hr, Datum.text?]
  | see cref =>
    have hr (n : String) : (Datum.ofFields [("see", .text cref)]).recordFields? [n] =
        some [("see", .text cref)] := Datum.recordFields?_ofFields (by simp) _
    simp [ofSettled?, toDatum, hr, List.lookup_cons, Datum.text?]

theorem contentOfSettled?_contentToDatum (content : List Inline) :
    contentOfSettled? (contentToDatum content) = some content := by
  rw [contentOfSettled?, contentToDatum, Datum.items?_list, Option.bind_some]
  exact Datum.mapM_map_eq_some fun i _ => i.ofSettled?_toDatum

theorem encoded_toDatum (i : Inline) : Encoded 1 i.toDatum := by
  cases i with
  | text t => exact .record (by simp [Encoded.text])
  | see cref => exact .record (by simp [Encoded.text])

theorem encoded_contentToDatum (content : List Inline) : Encoded 2 (contentToDatum content) :=
  .map_list fun i _ => i.encoded_toDatum

end Inline

namespace Node

theorem kind?_tag (k : Kind) : kind? k.tag = some k := by
  cases k <;> rfl

theorem find?_kinds (k : Kind) : kinds.find? (.text k.tag) = some (k.tag, fieldNames k) := by
  cases k <;> rfl

theorem nodup_fieldData (n : Node) : ("kind" :: n.fieldData.map (·.1)).Nodup := by
  cases n <;> simp [fieldData]

theorem variant?_toDatum (n : Node) :
    n.toDatum.variant? "kind" kinds = some (n.kind.tag, n.fieldData) := by
  have hn := n.nodup_fieldData
  cases n with
  | newLine => exact Datum.variant?_ofTag (find?_kinds .newLine)
  | summary => exact Datum.variant?_ofFields hn (find?_kinds .summary)
  | typeParam => exact Datum.variant?_ofFields hn (find?_kinds .typeParam)
  | param => exact Datum.variant?_ofFields hn (find?_kinds .param)
  | returns => exact Datum.variant?_ofFields hn (find?_kinds .returns)
  | exception => exact Datum.variant?_ofFields hn (find?_kinds .exception)
  | other => exact Datum.variant?_ofFields hn (find?_kinds .other)

theorem optional?_nameToDatum (name : Option String) :
    Datum.optional? Datum.text? (some (nameToDatum name)) = some name := by
  cases name <;> rfl

theorem ofFields?_fieldData (n : Node) : ofFields? n.fieldData n.kind = some n := by
  cases n <;>
    simp [ofFields?, ofFields?.content?, ofFields?.name?, fieldData, kind, List.lookup_cons,
      Inline.contentOfSettled?_contentToDatum, optional?_nameToDatum, Datum.text?,
      Datum.orDefault?]

theorem ofSettled?_toDatum (n : Node) : ofSettled? n.toDatum = some n := by
  rw [ofSettled?, variant?_toDatum]
  simp only [Option.bind_eq_bind, Option.bind_some, kind?_tag, ofFields?_fieldData]

theorem encoded_nameToDatum (name : Option String) : Encoded depth (nameToDatum name) := by
  cases name with
  | none => exact .null
  | some name => exact .text

theorem encoded_fieldData (n : Node) : ∀ f ∈ n.fieldData, Encoded 2 f.2 := by
  cases n <;>
    simp [fieldData, Encoded.text, encoded_nameToDatum, Inline.encoded_contentToDatum]

theorem encoded_toDatum (n : Node) : Encoded 3 n.toDatum := by
  apply Encoded.record
  rw [List.forall_mem_cons]
  exact ⟨.text, n.encoded_fieldData⟩

theorem ofDatum?_toDatum (n : Node) : ofDatum? n.toDatum = some n := by
  have hk := (List.nodup_cons.1 n.nodup_fieldData).1
  have hs : n.toDatum.settleTagged? "kind" = some n.toDatum :=
    Datum.settleTagged?_ofFields hk fun f hf => (n.encoded_fieldData f hf).settle
  rw [ofDatum?, hs, Option.bind_some, ofSettled?_toDatum]

end Node

namespace Comment

theorem encoded_toDatum (c : Comment) : Encoded 4 c.toDatum :=
  .map_list fun n _ => n.encoded_toDatum

theorem ofSettled?_toDatum (c : Comment) : ofSettled? c.toDatum = some c := by
  rw [ofSettled?, toDatum, Datum.items?_list, Option.bind_some]
  exact Datum.mapM_map_eq_some fun n _ => n.ofSettled?_toDatum

/-- A comment that was written is read back. -/
theorem ofDatum?_toDatum (c : Comment) : ofDatum? c.toDatum = some c := by
  rw [ofDatum?, toDatum, Datum.items?_list, Option.bind_some]
  exact Datum.mapM_map_eq_some fun n _ => n.ofDatum?_toDatum

end Comment

end TripleSlash
