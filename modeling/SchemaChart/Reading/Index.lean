-- Index definitions.
import SchemaChart.Reading.Reference
import SchemaChart.Schema.Writing

namespace SchemaChart.Reading

open Text
open Schema (Index TableRef Writing)

/-- An index definition up to its columns. -/
def indexHead : Pattern :=
  open Pattern in
  textStart ++ gap ++ phrase "CREATE " ++ opt (group "unique" (phrase "UNIQUE "))
    ++ opt (oneOf ["CLUSTERED", "NONCLUSTERED", "FULLTEXT", "SPATIAL"] ++ blanks)
    ++ phrase "INDEX " ++ opt (phrase "CONCURRENTLY ") ++ opt (phrase "IF NOT EXISTS ")
    ++ opt (group "name" qualifiedName ++ blanks) ++ phrase "ON " ++ opt (phrase "ONLY ")
    ++ group "table" qualifiedName ++ gap
    ++ opt (phrase "USING " ++ group "using" (some1 isWordChar) ++ gap) ++ lit "("

/-- Reads an index definition: its table and the index. Expressions cannot be indexed. -/
def createIndex (cs : List Char) : Except String (TableRef × Index) :=
  match indexHead.find? cs with
  | none => .error "unrecognized CREATE INDEX syntax"
  | some f =>
    match splitGroup? f.after with
    | none => .error "unbalanced parentheses in CREATE INDEX"
    | some (inside, _) =>
      let r := TableRef.parse (f.group "table")
      let name := ((f.group? "name").map (fun n => (TableRef.parse n).name)).getD ""
      let columns := keyColumns inside
      match columns.find? (·.contains '(') with
      | some e =>
        .error ("expression index " ++ name ++ " on " ++ r.display ++ " (" ++ e
          ++ ") is not supported")
      | none =>
        .ok (r, { name := name
                  columns := columns
                  unique := (f.group? "unique").isSome
                  method := (f.group? "using").map (fun m => String.ofList (lower m)) })

/-- Reads an index definition, and adds the index to its table. -/
def index (cs : List Char) : Writing String Unit := do
  let (r, i) ← createIndex cs
  modify (·.addIndexTo r i)

end SchemaChart.Reading
