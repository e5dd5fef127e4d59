import TripleSlash.Datum.Size
import TripleSlash.Declaration.SignatureData

namespace TripleSlash

mutual

def Statement.toDatum : Statement → Datum
  | .throws none => .ofFields [("kind", .text "throw"), ("expression", .null)]
  | .throws (some e) => .ofFields [("kind", .text "throw"), ("expression", e.toDatum)]
  | .block ss => .ofFields [("kind", .text "block"), ("statements", .list (bodyToData ss))]
  | .expression e => .ofFields [("kind", .text "expression"), ("expression", e.toDatum)]
  | .other => .ofFields [("kind", .text "other")]

def Expression.toDatum : Expression → Datum
  | .creation t => .ofFields [("kind", .text "object_creation"), ("type", t.toDatum)]
  | .identifier name => .ofFields [("kind", .text "identifier"), ("name", .text name)]
  | .lambda ss => .ofFields [("kind", .text "lambda"), ("body", .list (bodyToData ss))]
  | .other => .ofFields [("kind", .text "other")]

def bodyToData : List Statement → List Datum
  | [] => []
  | s :: ss => s.toDatum :: bodyToData ss

end

def Statement.kinds : Datum.Kinds :=
  [("throw", ["expression"]), ("block", ["statements"]), ("expression", ["expression"]),
    ("other", [])]

def Expression.kinds : Datum.Kinds :=
  [("object_creation", ["type"]), ("identifier", ["name"]), ("lambda", ["body"]), ("other", [])]

mutual

/-- Reads a statement from data whose scalars are settled. -/
def Statement.ofSettled? (d : Datum) : Option Statement :=
  match _hd : d.variant? "kind" Statement.kinds with
  | some ("throw", fs) =>
    match _hv : fs.lookup "expression" with
    | none => some (.throws none)
    | some v =>
      if v.isNull then some (.throws none)
      else (Expression.ofSettled? v).map fun e => .throws (some e)
  | some ("expression", fs) =>
    match _hv : fs.lookup "expression" with
    | none => none
    | some v => (Expression.ofSettled? v).map .expression
  | some ("block", fs) =>
    match _hv : fs.lookup "statements" with
    | some (.list vs) => (bodyOfSettled? vs).map .block
    | _ => none
  | some ("other", _) => some .other
  | _ => none
termination_by sizeOf d
decreasing_by
  all_goals have := Datum.sizeOf_lt_of_variant _hd _hv
  all_goals first | exact this | (simp at this; omega)

def Expression.ofSettled? (d : Datum) : Option Expression :=
  match _hd : d.variant? "kind" Expression.kinds with
  | some ("object_creation", fs) => ((fs.lookup "type").bind TypeRef.ofDatum?).map .creation
  | some ("identifier", fs) => ((fs.lookup "name").bind Datum.text?).map .identifier
  | some ("lambda", fs) =>
    match _hv : fs.lookup "body" with
    | some (.list vs) => (bodyOfSettled? vs).map .lambda
    | _ => none
  | some ("other", _) => some .other
  | _ => none
termination_by sizeOf d
decreasing_by
  all_goals have := Datum.sizeOf_lt_of_variant _hd _hv
  all_goals first | exact this | (simp at this; omega)

def bodyOfSettled? : List Datum → Option (List Statement)
  | [] => some []
  | v :: vs =>
    match Statement.ofSettled? v, bodyOfSettled? vs with
    | some s, some ss => some (s :: ss)
    | _, _ => none
termination_by vs => sizeOf vs

end

/-- Reads the statements of a body, each with its scalars settled first. -/
def bodyOfDatum? (d : Datum) : Option (List Statement) :=
  d.items?.bind (·.mapM fun v => (v.settleTagged? "kind").bind Statement.ofSettled?)

end TripleSlash
