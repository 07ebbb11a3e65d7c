-- Comments on tables and columns.
import SchemaChart.Schema.Writing
import SchemaChart.Text.Pattern

namespace SchemaChart.Reading

open Text
open Schema (TableRef Writing)
open Schema.Writing (refuse resolve)

/-- A comment statement. -/
def commentStatement : Pattern :=
  open Pattern in
  textStart ++ gap ++ phrase "COMMENT ON " ++ group "kind" (oneOf ["TABLE", "COLUMN"]) ++ blanks
    ++ group "target" qualifiedName ++ phrase " IS "
    ++ group "value" (quotedText <|> phrase "NULL") ++ gap ++ textEnd

/-- Reads a comment statement, and puts the comment on its table or column; `NULL` takes a comment
away. A comment on a table that is not known changes nothing. -/
def comment (cs : List Char) : Writing String Unit := do
  let some f := commentStatement.find? cs | refuse "unsupported COMMENT ON form"
  let target := f.group "target"
  let text := (unquoteLiteral? (f.group "value")).map String.ofList
  if upper (f.group "kind") == "TABLE".toList then
    if let some i ← resolve (TableRef.parse target) then
      modify (·.setTableComment i text)
  else
    let column :: parts := (splitQualified target).reverse
      | refuse "COMMENT ON COLUMN without column"
    let table :: outer := parts | refuse "COMMENT ON COLUMN without table"
    if let some i ← resolve ⟨String.ofList table, outer.head?.map String.ofList⟩ then
      modify (·.setColumnComment i (String.ofList column) text)

end SchemaChart.Reading
