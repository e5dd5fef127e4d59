import TripleSlash.Datum.Yaml.Token

namespace TripleSlash.Yaml

/-- What a reader takes from the front of the tokens, and the tokens it leaves. -/
abbrev Reader (α : Type) := List Token → Option (α × List Token)

def nothing : Datum := .plain ""

/-- Whether a block goes on without data at this place. -/
def blockGoesOn : List Token → Bool
  | .item :: _ | .key :: _ | .value :: _ | .blockEnd :: _ => true
  | _ => false

/-- Whether a bracketed list or record goes on without data at this place. -/
def flowGoesOn : List Token → Bool
  | .value :: _ | .comma :: _ | .closeList :: _ | .closeRecord :: _ => true
  | _ => false

def orNothing (goesOn : List Token → Bool) (node : Reader Datum) : Reader Datum := fun ts =>
  if goesOn ts then some (nothing, ts) else node ts

def readItems (node : Reader Datum) : Nat → Reader (List Datum)
  | 0, _ => none
  | n + 1, ts =>
    match ts with
    | .item :: ts => do
      let (v, ts) ← orNothing blockGoesOn node ts
      let (vs, ts) ← readItems node n ts
      return (v :: vs, ts)
    | ts => some ([], ts)

def readFields (value : Reader Datum) : Nat → Reader (List (Datum × Datum))
  | 0, _ => none
  | n + 1, ts =>
    match ts with
    | .blockEnd :: ts => some ([], ts)
    | .key :: ts => do
      let (k, ts) ←
        match ts with
        | .key :: _ | .value :: _ | .blockEnd :: _ => some (nothing, ts)
        | _ => value ts
      let (v, ts) ←
        match ts with
        | .value :: .key :: _ | .value :: .value :: _ | .value :: .blockEnd :: _ =>
          some (nothing, ts.tail)
        | .value :: ts => value ts
        | ts => some (nothing, ts)
      let (fs, ts) ← readFields value n ts
      return ((k, v) :: fs, ts)
    | _ => none

def readFlowValue (node : Reader Datum) : Reader Datum
  | .value :: ts => orNothing flowGoesOn node ts
  | ts => some (nothing, ts)

def readFlowField (node : Reader Datum) : Reader (Datum × Datum)
  | .key :: ts => do
    let (k, ts) ← orNothing flowGoesOn node ts
    let (v, ts) ← readFlowValue node ts
    return ((k, v), ts)
  | ts => (node ts).map fun (k, ts) => ((k, nothing), ts)

/-- Reads an item of a bracketed list. A key makes it a record of one field. If the key is empty,
what shows this is passed over, be it a comma or the closing bracket. -/
def readFlowItem (node : Reader Datum) : Reader Datum
  | .key :: ts => do
    let (k, ts) ←
      match ts with
      | .value :: ts | .comma :: ts | .closeList :: ts => some (nothing, ts)
      | ts => node ts
    let (v, ts) ← readFlowValue node ts
    return (.record [(k, v)], ts)
  | ts => node ts

/-- Reads at most `n` items with commas between them and perhaps behind the last. -/
def readFlow (item : Reader α) (closes : Token → Bool) : Nat → Reader (List α)
  | 0, _ => none
  | n + 1, ts =>
    match ts with
    | [] => none
    | t :: rest =>
      if closes t then some ([], rest)
      else do
        let (a, ts) ← item ts
        match ts with
        | .comma :: ts =>
          let (as, ts) ← readFlow item closes n ts
          return (a :: as, ts)
        | t :: ts => if closes t then return ([a], ts) else none
        | [] => none

def closesList : Token → Bool
  | .closeList => true
  | _ => false

def closesRecord : Token → Bool
  | .closeRecord => true
  | _ => false

/-- Where data may stand: which ways of writing it are open there. -/
inductive Position
  | flow
  | block
  /-- The value of a field, which may be a list at the column of the field. -/
  | value

/-- Reads data of fewer than `n` tokens. -/
def readNode : Nat → Position → Reader Datum
  | _, _, .scalar d :: ts => some (d, ts)
  | 0, _, _ => none
  | n + 1, position, ts =>
    let inFlow := readNode n .flow
    match position, ts with
    | _, .openList :: ts =>
      (readFlow (readFlowItem inFlow) closesList n ts).map fun (vs, ts) => (.sequence vs, ts)
    | _, .openRecord :: ts =>
      (readFlow (readFlowField inFlow) closesRecord n ts).map fun (fs, ts) => (.record fs, ts)
    | .flow, _ => none
    | _, .blockList :: ts =>
      match readItems (readNode n .block) n ts with
      | some (vs, .blockEnd :: ts) => some (.sequence vs, ts)
      | _ => none
    | _, .blockRecord :: ts =>
      (readFields (readNode n .value) n ts).map fun (fs, ts) => (.record fs, ts)
    | .value, .item :: _ =>
      (readItems (readNode n .block) n ts).map fun (vs, ts) => (.sequence vs, ts)
    | _, _ => none

def nesting : Nat := 128

def isDocumentEnd : Token → Bool
  | .documentEnd => true
  | _ => false

/-- Reads tokens that are one document and nothing else. -/
def ofTokens? (ts : List Token) : Option Datum :=
  let read : Reader Datum
    | [] => some (nothing, [])
    | [.documentStart] => some (nothing, [])
    | .documentStart :: .documentEnd :: ts => some (nothing, .documentEnd :: ts)
    | .documentStart :: ts | ts => readNode (ts.length + 2) .block ts
  match read ts with
  | some (d, rest) =>
    if (rest.dropWhile isDocumentEnd).isEmpty then some (d.prune nesting) else none
  | none => none

/-- Reads a text that is one document: block and flow collections, scalars of every style,
comments and document markers, but no anchors, tags or directives. -/
def parse? (text : String) : Option Datum := (tokens? text).bind ofTokens?

end TripleSlash.Yaml
