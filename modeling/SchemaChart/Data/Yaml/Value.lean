-- YAML values as what is asked for: records, lists, texts, numbers and flags.
import SchemaChart.Data.Yaml.Document

namespace SchemaChart.Data.Yaml

/-- The tag of a type that every text knows. -/
def coreTag (name : String) : String := "tag:yaml.org,2002:" ++ name

def isNullWord (s : String) : Bool := ["null", "Null", "NULL", "~"].contains s

/-- Is this a plain scalar without any text. -/
def isBlank : Yaml → Bool
  | scalar s .plain _ => s.isEmpty
  | _ => false

/-- The text of a scalar that may stand for a value of a type: a plain one, or a literal block
with the tag of the type. -/
def literal? (type : String) : Yaml → Option String
  | scalar s .plain _ => some s
  | scalar s .literal (some t) => if t == coreTag type then some s else none
  | _ => none

/-- The value that got a number last. -/
def Target.find? (targets : List Target) (number : Nat) : Option Yaml :=
  ((targets.filter (·.number == number)).foldl (fun best t =>
    match best with
    | some (b : Target) => if b.order < t.order then some t else best
    | none => some t) none).map (·.value)

namespace Document

/-- The value of a document; an alias is what it stands for. -/
def value (d : Document) : Yaml :=
  match d.root with
  | .alias n => (Target.find? d.targets n).getD nothing
  | y => y

/-- A part of a document. -/
def part (d : Document) (y : Yaml) : Document := { d with root := y }

/-- A value, or none where the text says that there is none. A tag decides before the text. -/
def nullable? (read : Document → Option α) (d : Document) : Option (Option α) :=
  match d.value with
  | scalar s .plain none => if s.isEmpty || isNullWord s then some none else (read d).map some
  | scalar s .plain (some t) =>
    if t == coreTag "null" then if isNullWord s then some none else none else (read d).map some
  | _ => (read d).map some

def string? (d : Document) : Option String :=
  match d.value with
  | scalar s _ _ => some s
  | _ => none

/-- A record; a plain scalar without any text is one without fields. -/
def record? (names : List String) (d : Document) : Option (Record Document) :=
  match d.value with
  | map pairs => do
    let fields ← pairs.mapM (fun (k, v) => (d.part k).string?.map (·, d.part v))
    (Stored.named fields).record? names
  | y => if y.isBlank then (Stored.named []).record? names else none

/-- A list; a plain scalar without any text is an empty one. -/
def list? (read : Document → Option α) (d : Document) : Option (List α) :=
  match d.value with
  | seq items => items.mapM (fun y => read (d.part y))
  | y => if y.isBlank then some [] else none

def bool? (d : Document) : Option Bool := do
  let s ← d.value.literal? "bool"
  if ["true", "True", "TRUE"].contains s then some true
  else if ["false", "False", "FALSE"].contains s then some false
  else none

end Document

/-- The number of digits in a base below `limit`. -/
def digits? (base limit : Nat) (cs : List Char) : Option Nat := do
  if cs.isEmpty then none
  else
    let n ← cs.foldlM (fun n c =>
      match Json.hexValue? c with
      | some d => if d < base then some (base * n + d) else none
      | none => none) 0
    if n < limit then some n else none

/-- A natural number below a bound, in base ten or with the mark of another base. -/
def Document.natural? (limit : Nat) (d : Document) : Option Nat := do
  let s ← d.value.literal? "int"
  let cs := match s.toList with
    | '+' :: cs => cs
    | cs => cs
  match cs with
  | '0' :: 'x' :: ds => digits? 16 limit ds
  | '0' :: 'o' :: ds => digits? 8 limit ds
  | '0' :: 'b' :: ds => digits? 2 limit ds
  | '0' :: _ :: _ => none
  | ds => digits? 10 limit ds

/-- A decimal number: digits with a point or without, and perhaps an exponent. -/
def decimal? (negative : Bool) (cs : List Char) : Option Binary64 := do
  let (whole, rest) := Json.takeDigits cs
  let (part, rest) := match rest with
    | '.' :: r => Json.takeDigits r
    | r => ([], r)
  if whole.isEmpty && part.isEmpty then none
  else
    let (e, rest) ← Json.exponent? rest
    if !rest.isEmpty then none
    else
      let digits := Json.natOfDigits (whole ++ part)
      match Binary64.ofDecimal negative digits (e.getD 0 - part.length) with
      | .infinite _ => none
      | x => some x

/-- Any number. -/
def Document.real? (d : Document) : Option Binary64 := do
  let s ← d.value.literal? "float"
  if [".inf", ".Inf", ".INF", "+.inf", "+.Inf", "+.INF"].contains s then some (.infinite false)
  else if ["-.inf", "-.Inf", "-.INF"].contains s then some (.infinite true)
  else if [".nan", ".NaN", ".NAN"].contains s then some .nan
  else
    match s.toList with
    | '+' :: cs => decimal? false cs
    | '-' :: cs => decimal? true cs
    | cs => decimal? false cs

end SchemaChart.Data.Yaml
