-- Definitions of enumerations and of composite types.
import SchemaChart.Schema.Writing
import SchemaChart.Text.Pattern

namespace SchemaChart.Reading

open Text
open Schema (CustomType TableRef Writing)
open Schema.Writing (refuse)

/-- A type definition up to its labels or fields. -/
def typeHead : Pattern :=
  open Pattern in
  textStart ++ gap ++ phrase "CREATE TYPE " ++ group "name" qualifiedName ++ phrase " AS" ++ gap
    ++ opt (group "enum" (phrase "ENUM" ++ gap)) ++ lit "("

/-- One field of a composite type and its type. -/
def compositeField? (cs : List Char) : Option (String × String) :=
  match splitWords cs with
  | [] => none
  | name :: type => some (String.ofList (unquoteIdentifier name), String.ofList (unwords type))

/-- The type of a definition: an enumeration with its labels, or a composite type with its
fields. -/
def typeOf (f : Pattern.Found) (inside : List Char) : CustomType :=
  let r := TableRef.parse (f.group "name")
  let parts := splitTopLevel ',' inside
  if (f.group? "enum").isSome then
    { name := r.name, schema := r.schema, kind := .enum,
      values := parts.filterMap (fun p => (unquoteLiteral? p).map String.ofList) }
  else
    { name := r.name, schema := r.schema, kind := .composite,
      fields := parts.filterMap compositeField? }

/-- Reads a type definition, and takes the type into the schema. -/
def customType (cs : List Char) : Writing String Unit := do
  let some f := typeHead.find? cs | refuse "unsupported CREATE TYPE form"
  let some (inside, _) := splitGroup? f.after | refuse "unbalanced parentheses in CREATE TYPE"
  modify (·.addType (typeOf f inside))

end SchemaChart.Reading
