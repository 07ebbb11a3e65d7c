-- From the text of a statement to its tokens. Every flavor has its own identifiers, quotes and
-- comments; blanks and comments leave no token behind.
import SchemaChart.Grammar.Token
import SchemaChart.Text.Alphabet
import SchemaChart.Text.Blank

namespace SchemaChart.Grammar

open SchemaChart.Text

/-! ## Character classes -/

/-- Characters an identifier may start with. -/
def Flavor.startsWord (f : Flavor) (c : Char) : Bool :=
  match f with
  | .postgres => isAlphabetic c || c == '_' || 128 ≤ c.toNat
  | .mysql => c.isAlpha || c == '_' || c == '$' || c == '@' || 128 ≤ c.toNat
  | .sqlServer => isAlphabetic c || c == '_' || c == '#' || c == '@'
  | .sqlite => c.isAlpha || c == '_' || (127 ≤ c.toNat && c.toNat ≤ 0xFFFF)

/-- Characters an identifier may go on with. -/
def Flavor.continuesWord (f : Flavor) (c : Char) : Bool :=
  match f with
  | .postgres => isAlphabetic c || c.isDigit || c == '$' || c == '_' || 128 ≤ c.toNat
  | .mysql => f.startsWord c || c.isDigit
  | .sqlServer => f.startsWord c || c.isDigit || c == '$'
  | .sqlite => f.startsWord c || c.isDigit

/-- Characters that open a quoted identifier. -/
def Flavor.opensName (f : Flavor) (c : Char) : Bool :=
  match f with
  | .postgres => c == '"'
  | .mysql => c == '`'
  | .sqlServer => c == '"' || c == '['
  | .sqlite => c == '"' || c == '`' || c == '['

/-- Characters that operators of the user's own may consist of. -/
def Flavor.inOperator (f : Flavor) (c : Char) : Bool :=
  f == .postgres && "+-*/<>=~!@#%^&|`?".toList.contains c

def isHexDigit (c : Char) : Bool :=
  c.isDigit || ('a' ≤ c && c ≤ 'f') || ('A' ≤ c && c ≤ 'F')

def hexValue (c : Char) : Nat :=
  if c.isDigit then c.toNat - 48
  else if 'a' ≤ c && c ≤ 'f' then c.toNat - 87
  else c.toNat - 55

/-! ## Quoted constants -/

/-- What a backslash and the character behind it stand for. -/
def unescaped (c : Char) : Char :=
  match c with
  | '0' => Char.ofNat 0
  | 'a' => Char.ofNat 7
  | 'b' => Char.ofNat 8
  | 'f' => Char.ofNat 12
  | 'n' => '\n'
  | 'r' => '\r'
  | 't' => '\t'
  | 'Z' => Char.ofNat 26
  | c => c

/-- The rest of a quoted constant behind its opening quote, and the text behind it; none if it is
never closed. With `escapes` a backslash joins the next character to a control character, except
that `\%` and `\_` stay when `wild` holds. -/
def quotedBody (q : Char) (escapes wild : Bool) : List Char → Option (List Char × List Char)
  | [] => none
  | [c] => if c == q then some ([], []) else none
  | c :: d :: ds =>
    if c == q then
      if d == q then (quotedBody q escapes wild ds).map (fun (v, r) => (q :: v, r))
      else some ([], d :: ds)
    else if escapes && c == '\\' then
      if wild && (d == '%' || d == '_') then
        (quotedBody q escapes wild ds).map (fun (v, r) => (c :: d :: v, r))
      else (quotedBody q escapes wild ds).map (fun (v, r) => (unescaped d :: v, r))
    else (quotedBody q escapes wild (d :: ds)).map (fun (v, r) => (c :: v, r))

/-- At most `n` characters of a class, and the text behind them. -/
def takeUpTo (cls : Char → Bool) : Nat → List Char → List Char × List Char
  | 0, cs => ([], cs)
  | _, [] => ([], [])
  | n + 1, c :: cs =>
    if cls c then
      let (v, r) := takeUpTo cls n cs
      (c :: v, r)
    else ([], c :: cs)

def ofDigits (base : Nat) (cs : List Char) : Nat := cs.foldl (fun n c => n * base + hexValue c) 0

/-- A character by its number, if there is such a character. -/
def charOf? (n : Nat) : Option Char :=
  if n < 0xD800 || (0xE000 ≤ n && n < 0x110000) then some (Char.ofNat n) else none

/-- A character by its number, unless it is the null character. -/
def visibleChar? (n : Nat) : Option Char := if n == 0 then none else charOf? n

/-- A character of a constant with numeric escapes: what stands behind a backslash. -/
def numericEscape : List Char → Option (Char × List Char)
  | [] => none
  | 'b' :: cs => some (Char.ofNat 8, cs)
  | 'f' :: cs => some (Char.ofNat 12, cs)
  | 'n' :: cs => some ('\n', cs)
  | 'r' :: cs => some ('\r', cs)
  | 't' :: cs => some ('\t', cs)
  | 'u' :: cs => wide 4 cs
  | 'U' :: cs => wide 8 cs
  | 'x' :: cs =>
    let (ds, r) := takeUpTo isHexDigit 2 cs
    if ds.isEmpty then some ('x', r) else low (ofDigits 16 ds) r
  | c :: cs =>
    if '0' ≤ c && c ≤ '7' then
      let (ds, r) := takeUpTo (fun d => '0' ≤ d && d ≤ '7') 2 cs
      low (ofDigits 8 (c :: ds) % 256) r
    else if c.toNat == 0 then none
    else some (c, cs)
where
  low (n : Nat) (r : List Char) : Option (Char × List Char) :=
    if n ≤ 127 then (visibleChar? n).map (·, r) else none
  wide (n : Nat) (cs : List Char) : Option (Char × List Char) :=
    let ds := cs.take n
    let digits := if ds.head? == some '+' then ds.drop 1 else ds
    if ds.length == n && digits.all isHexDigit then
      (visibleChar? (ofDigits 16 digits)).map (·, cs.drop n)
    else none

/-- The rest of a constant with numeric escapes; the first argument bounds its length. -/
def escapedBody : Nat → List Char → Option (List Char × List Char)
  | 0, _ => none
  | _, [] => none
  | n + 1, c :: cs =>
    if c == '\'' then
      match cs with
      | '\'' :: ds => (escapedBody n ds).map (fun (v, r) => ('\'' :: v, r))
      | _ => some ([], cs)
    else if c == '\\' then
      match numericEscape cs with
      | none => none
      | some (d, r) => (escapedBody n r).map (fun (v, r) => (d :: v, r))
    else (escapedBody n cs).map (fun (v, r) => (c :: v, r))

/-- A text that could not be cut into tokens: what is wrong, and behind how many characters. -/
structure LexFailure where
  message : String
  offset : Nat

/-- The character that a number of hexadecimal digits names, the text behind them and its offset.
What is wrong is found behind the character that shows it. -/
def namedChar (offset : Nat) : Nat → Nat → List Char → Except LexFailure (Char × List Char × Nat)
  | 0, n, cs =>
    match charOf? n with
    | some c => .ok (c, cs, offset)
    | none => .error ⟨"Invalid unicode character: " ++ String.ofList (Nat.toDigits 16 n), offset⟩
  | _ + 1, _, [] =>
    .error ⟨"Unexpected EOF while parsing hex digit in escaped unicode string.", offset⟩
  | k + 1, n, c :: cs =>
    let offset := offset + 1
    if isHexDigit c then namedChar offset k (16 * n + hexValue c) cs
    else .error ⟨"Invalid hex digit in escaped unicode string: " ++ c.toString, offset⟩

/-- The rest of a constant in which `\hhhh` and `\+hhhhhh` name characters. -/
def unicodeBody (offset : Nat) : Nat → List Char → Except LexFailure (List Char × List Char)
  | 0, _ | _, [] => .error ⟨"Unterminated unicode encoded string literal", offset⟩
  | n + 1, c :: cs =>
    let offset := offset + 1
    if c == '\'' then
      match cs with
      | '\'' :: ds => (unicodeBody (offset + 1) n ds).map (fun (v, r) => ('\'' :: v, r))
      | _ => .ok ([], cs)
    else if c == '\\' then
      match cs with
      | '\\' :: ds => (unicodeBody (offset + 1) n ds).map (fun (v, r) => ('\\' :: v, r))
      | '+' :: ds => do
        let (d, r, offset) ← namedChar (offset + 1) 6 0 ds
        (unicodeBody offset n r).map (fun (v, r) => (d :: v, r))
      | _ => do
        let (d, r, offset) ← namedChar offset 4 0 cs
        (unicodeBody offset n r).map (fun (v, r) => (d :: v, r))
    else (unicodeBody offset n cs).map (fun (v, r) => (c :: v, r))

/-! ## Comments and dollar constants -/

/-- The text behind a block comment, from just behind its opening; none if it is never closed.
The first argument counts the comments that are open besides the first. -/
def skipBlock (nested : Bool) : Nat → List Char → Option (List Char)
  | _, [] | _, [_] => none
  | depth, c :: d :: ds =>
    if nested && c == '/' && d == '*' then skipBlock nested (depth + 1) ds
    else if c == '*' && d == '/' then
      match depth with
      | 0 => some ds
      | k + 1 => skipBlock nested k ds
    else skipBlock nested depth (d :: ds)

/-- The body of a constant between two `$$`, and the text behind it. -/
def plainDollarBody : List Char → Option (List Char × List Char)
  | [] | [_] => none
  | c :: d :: ds =>
    if c == '$' && d == '$' then some ([], ds)
    else (plainDollarBody (d :: ds)).map (fun (v, r) => (c :: v, r))

/-! ## Numbers -/

/-- Digits, with single underscores between them where `grouped` holds. -/
def takeDigits (grouped hex : Bool) : List Char → List Char × List Char
  | [] => ([], [])
  | c :: cs =>
    if (if hex then isHexDigit c else c.isDigit)
        || (grouped && c == '_' && cs.head?.any isHexDigit) then
      let (v, r) := takeDigits grouped hex cs
      (c :: v, r)
    else ([], c :: cs)

/-- An exponent and the text behind it, if one stands here. -/
def takeExponent (cs : List Char) : List Char × List Char :=
  match cs with
  | e :: rest =>
    if e == 'e' || e == 'E' then
      match rest with
      | s :: d :: _ =>
        if (s == '+' || s == '-') && d.isDigit then
          let (ds, r) := (rest.drop 1).span Char.isDigit
          (e :: s :: ds, r)
        else if s.isDigit then
          let (ds, r) := rest.span Char.isDigit
          (e :: ds, r)
        else ([], cs)
      | [d] => if d.isDigit then ([e, d], []) else ([], cs)
      | [] => ([], cs)
    else ([], cs)
  | [] => ([], [])

/-! ## One token -/

/-- What stands at a place of the text. -/
inductive Lexeme where
  | blank
  | token (t : Token)

abbrev LexStep := Except LexFailure (Lexeme × List Char)

def lexeme (t : Token) (rest : List Char) : LexStep := .ok (.token t, rest)

def markStep (s : String) (rest : List Char) : LexStep := lexeme (.mark s) rest

/-- A word that starts with the given characters. -/
def wordStep (f : Flavor) (start rest : List Char) : LexStep :=
  let (more, rest) := rest.span f.continuesWord
  let all := start ++ more
  if all.all (fun c => c.isDigit || c == '.') then
    let (digits, rest) := rest.span (fun c => c.isDigit || c == '.')
    lexeme (.number (String.ofList (all ++ digits)) false) rest
  else lexeme (.bare (String.ofList all)) rest

/-- An operator that may go on as one of the user's own; `known` tells whether it stands for
something by itself. -/
def operatorStep (f : Flavor) (offset : Nat) (s : String) (known : Bool) (rest : List Char) :
    LexStep :=
  let (more, rest) := rest.span f.inOperator
  if more.isEmpty && !known then
    .error ⟨"Expected a valid binary operator after '" ++ s ++ "'", offset + s.length⟩
  else markStep (s ++ String.ofList more) rest

/-- A quoted constant whose opening quote is the first character of the text. -/
def quotedStep (f : Flavor) (offset : Nat) (kind : Quoted) (q : Char) (escapes : Bool)
    (rest : List Char) : LexStep :=
  match quotedBody q escapes (f == .mysql) rest with
  | some (v, r) => lexeme (.text kind (String.ofList v)) r
  | none => .error ⟨"Unterminated string literal", offset⟩

/-- A number, a period, or (where words may start with digits) a word. Digits with the mark of an
exponent behind them start no word, even if no exponent follows. -/
def numberStep (f : Flavor) (offset : Nat) (prev : Option Token) (cs : List Char) : LexStep :=
  let afterWord := match prev with
    | some (.word ..) => true
    | _ => false
  match cs with
  | '.' :: '_' :: _ =>
    if afterWord then markStep "." (cs.drop 1) else .error ⟨"Unexpected character '_'", offset⟩
  | _ =>
    let grouped := f == .postgres
    let (whole, rest) := takeDigits grouped false cs
    match whole, rest with
    | ['0'], 'x' :: rest =>
      let (ds, rest) := takeDigits grouped true rest
      lexeme (.text .hex (String.ofList ds)) rest
    | _, _ =>
      let (dot, rest) := match rest with
        | '.' :: rest => (['.'], rest)
        | _ => ([], rest)
      let start := whole ++ dot
      if start == ['.'] && f == .mysql && afterWord then markStep "." rest
      else
        let (fraction, rest) := takeDigits grouped false rest
        let mantissa := start ++ fraction
        if mantissa == ['.'] then markStep "." rest
        else
          let marked := rest.head?.any (fun c => c == 'e' || c == 'E')
          let (exponent, rest) := takeExponent rest
          let all := mantissa ++ exponent
          let (more, afterMore) :=
            if f == .mysql && !marked then rest.span f.continuesWord else ([], rest)
          if !more.isEmpty then lexeme (.bare (String.ofList (all ++ more))) afterMore
          else if f == .mysql && marked && prev == some (.mark ".") then
            lexeme (.bare (String.ofList all)) rest
          else match rest with
            | 'L' :: rest => lexeme (.number (String.ofList all) true) rest
            | _ => lexeme (.number (String.ofList all) false) rest

/-- What a dollar sign starts: a dollar constant or a placeholder. -/
def dollarStep (f : Flavor) (offset : Nat) (rest : List Char) : LexStep :=
  if f == .sqlite then
    let (name, rest) := rest.span (fun c => isAlphanumeric c || c == '_' || c == '$')
    lexeme (.placeholder ("$" ++ String.ofList name)) rest
  else match rest with
    | '$' :: body =>
      match plainDollarBody body with
      | some (v, r) => lexeme (.dollar none (String.ofList v)) r
      | none => .error ⟨"Unterminated dollar-quoted string", offset + 1 + rest.length⟩
    | _ =>
      let (tag, rest') := rest.span (fun c => isAlphanumeric c || c == '_')
      match rest' with
      | '$' :: body =>
        match cutAt? ('$' :: tag ++ ['$']) body with
        | some (v, r) =>
          lexeme (.dollar (some (String.ofList tag)) (String.ofList v)) (r.drop (tag.length + 2))
        | none => .error ⟨"Unterminated dollar-quoted, expected $", offset + 1 + rest.length⟩
      | _ => lexeme (.placeholder ("$" ++ String.ofList tag)) rest'

/-- The text behind a comment that runs to the end of its line. -/
def skipLine (f : Flavor) (cs : List Char) : List Char :=
  (cs.dropWhile (fun c => c != '\n' && !(f == .postgres && c == '\r'))).drop 1

/-- What a slash and a star start. -/
def blockStep (f : Flavor) (offset : Nat) (rest : List Char) : LexStep :=
  match skipBlock (f == .postgres || f == .sqlServer) 0 rest with
  | none =>
    .error ⟨"Unexpected EOF while in a multi-line comment", offset + 2 + rest.length⟩
  | some r => .ok (.blank, r)

/-- A quoted identifier whose opening quote is the first character of the text. -/
def quotedNameStep (offset : Nat) (q : Char) (rest : List Char) : LexStep :=
  let close := Token.closingQuote q
  match quotedBody close false false rest with
  | some (v, r) => lexeme (.word (String.ofList v) (some q) "") r
  | none => .error ⟨"Expected close delimiter '" ++ close.toString ++ "' before EOF.", offset⟩

/-- What an at sign starts. -/
def atStep (f : Flavor) (offset : Nat) (rest : List Char) : LexStep :=
  match f, rest with
  | .postgres, '@' :: r => markStep "@@" r
  | .postgres, '-' :: '@' :: r => markStep "@-@" r
  | .postgres, '-' :: r => operatorStep f offset "@-" false r
  | _, '>' :: r => markStep "@>" r
  | _, '?' :: r => markStep "@?" r
  | _, '@' :: r =>
    match r with
    | ' ' :: _ => markStep "@@" r
    | c :: r' => if f.startsWord '@' then wordStep f ['@', '@', c] r' else markStep "@@" r
    | [] => markStep "@@" r
  | _, c :: r =>
    if c == ' ' || c == '\'' || c == '"' || c == '`' then markStep "@" rest
    else if f.startsWord '@' then wordStep f ['@', c] r
    else markStep "@" rest
  | _, [] => markStep "@" rest

/-- What a number sign starts. -/
def hashStep (f : Flavor) (offset : Nat) (rest : List Char) : LexStep :=
  match f, rest with
  | .mysql, _ => .ok (.blank, skipLine f rest)
  | _, '-' :: r => operatorStep f offset "#-" true r
  | _, '>' :: '>' :: r => operatorStep f offset "#>>" true r
  | _, '>' :: r => operatorStep f offset "#>" true r
  | _, ' ' :: _ => markStep "#" rest
  | .postgres, '#' :: r => operatorStep f offset "##" true r
  | _, c :: r =>
    if f.startsWord '#' then wordStep f ['#', c] r else operatorStep f offset "#" true rest
  | _, [] => operatorStep f offset "#" true rest

/-- What a less-than sign starts. -/
def lessStep (f : Flavor) (offset : Nat) (rest : List Char) : LexStep :=
  match f, rest with
  | _, '=' :: '>' :: r => operatorStep f offset "<=>" true r
  | _, '=' :: r => operatorStep f offset "<=" true r
  | .postgres, '|' :: r => operatorStep f offset "<<|" true r
  | _, '>' :: r => operatorStep f offset "<>" true r
  | .postgres, '<' :: '|' :: r => operatorStep f offset "<<|" true r
  | _, '<' :: r => operatorStep f offset "<<" true r
  | .postgres, '-' :: '>' :: r => operatorStep f offset "<->" true r
  | .postgres, '-' :: r => operatorStep f offset "<-" false r
  | .postgres, '^' :: r => operatorStep f offset "<^" true r
  | _, '@' :: r => operatorStep f offset "<@" true r
  | _, _ => operatorStep f offset "<" true rest

/-- What a vertical bar starts. -/
def barStep (f : Flavor) (offset : Nat) (rest : List Char) : LexStep :=
  match f, rest with
  | _, '/' :: r => operatorStep f offset "|/" true r
  | _, '|' :: '/' :: r => operatorStep f offset "||/" true r
  | _, '|' :: r => operatorStep f offset "||" true r
  | .postgres, '&' :: '>' :: r => operatorStep f offset "|&>" true r
  | .postgres, '&' :: r => operatorStep f offset "|&" false r
  | .postgres, '>' :: '>' :: r => operatorStep f offset "|>>" true r
  | .postgres, '>' :: r => operatorStep f offset "|>" false r
  | _, _ => operatorStep f offset "|" true rest

/-- What a question mark starts: an operator, or a placeholder. A question mark that is an operator
by itself takes the next character with it. -/
def questionStep (f : Flavor) (rest : List Char) : LexStep :=
  match f, rest with
  | .postgres, '|' :: '|' :: r => markStep "?||" r
  | .postgres, '|' :: r => markStep "?|" r
  | .postgres, '&' :: r => markStep "?&" r
  | .postgres, '-' :: '|' :: r => markStep "?-|" r
  | .postgres, '-' :: r => markStep "?-" r
  | .postgres, '#' :: r => markStep "?#" r
  | .postgres, r => markStep "?" (r.drop 1)
  | _, r =>
    let (digits, r) := r.span isNumeric
    lexeme (.placeholder ("?" ++ String.ofList digits)) r

/-- Operators and punctuation; none if the character starts neither. The operator `&>` takes the
next character with it, and `!=` is another way to write `<>`. -/
def symbolStep (f : Flavor) (offset : Nat) (c : Char) (rest : List Char) : Option LexStep :=
  match c, rest with
  | '(', r => markStep "(" r
  | ')', r => markStep ")" r
  | ',', r => markStep "," r
  | '-', '-' :: r =>
    if f != .mysql || r.head? == some ' ' then some (.ok (.blank, skipLine f r))
    else operatorStep f offset "-" true ('-' :: r)
  | '-', '>' :: '>' :: r => operatorStep f offset "->>" true r
  | '-', '>' :: r => operatorStep f offset "->" true r
  | '-', r => operatorStep f offset "-" true r
  | '/', '*' :: r => blockStep f offset r
  | '/', r => markStep "/" r
  | '+', r => markStep "+" r
  | '*', r => markStep "*" r
  | '%', r => if r.head?.any isBlank then markStep "%" r else operatorStep f offset "%" true r
  | '|', r => barStep f offset r
  | '=', '>' :: r => markStep "=>" r
  | '=', '=' :: r => markStep "==" r
  | '=', r => markStep "=" r
  | '!', '=' :: r => markStep "<>" r
  | '!', '!' :: r => markStep "!!" r
  | '!', '~' :: '*' :: r => markStep "!~*" r
  | '!', '~' :: '~' :: '*' :: r => markStep "!~~*" r
  | '!', '~' :: '~' :: r => markStep "!~~" r
  | '!', '~' :: r => markStep "!~" r
  | '!', r => markStep "!" r
  | '<', r => lessStep f offset r
  | '>', '=' :: r => operatorStep f offset ">=" true r
  | '>', '>' :: r => operatorStep f offset ">>" true r
  | '>', r =>
    match f, r with
    | .postgres, '^' :: r => operatorStep f offset ">^" true r
    | _, _ => operatorStep f offset ">" true r
  | ':', ':' :: r => markStep "::" r
  | ':', '=' :: r => markStep ":=" r
  | ':', r => markStep ":" r
  | ';', r => markStep ";" r
  | '\\', r => markStep "\\" r
  | '[', r => markStep "[" r
  | ']', r => markStep "]" r
  | '&', r =>
    match f, r with
    | .postgres, '>' :: r => markStep "&>" (r.drop 1)
    | .postgres, '<' :: '|' :: r => markStep "&<|" r
    | .postgres, '<' :: r => operatorStep f offset "&<" true r
    | _, '&' :: r => operatorStep f offset "&&" true r
    | _, _ => operatorStep f offset "&" true r
  | '^', '@' :: r => markStep "^@" r
  | '^', r => markStep "^" r
  | '\x7b', r => markStep "\x7b" r
  | '\x7d', r => markStep "\x7d" r
  | '~', '*' :: r => operatorStep f offset "~*" true r
  | '~', '~' :: '*' :: r => operatorStep f offset "~~*" true r
  | '~', '~' :: r => operatorStep f offset "~~" true r
  | '~', r =>
    match f, r with
    | .postgres, '=' :: r => operatorStep f offset "~=" true r
    | _, _ => operatorStep f offset "~" true r
  | '#', r => hashStep f offset r
  | '@', r => atStep f offset r
  | '?', r => questionStep f r
  | _, _ => none

/-- The token, blank or comment at the start of a text. -/
def lexStep (f : Flavor) (offset : Nat) (prev : Option Token) : List Char → LexStep
  | [] => .ok (.blank, [])
  | c :: rest =>
    let quotedNext := rest.head? == some '\''
    let behind := offset + 1
    if c == ' ' || c == '\t' || c == '\n' || c == '\r' then .ok (.blank, rest)
    else if (c == 'b' || c == 'B') && (f == .postgres || f == .mysql) then
      if quotedNext then quotedStep f behind .bits '\'' false (rest.drop 1)
      else if rest.head? == some '"' then quotedStep f behind .doubleBits '"' false (rest.drop 1)
      else wordOf c rest
    else if (c == 'n' || c == 'N') && quotedNext then
      quotedStep f behind .national '\'' (f == .mysql) (rest.drop 1)
    else if (c == 'e' || c == 'E') && f == .postgres && quotedNext then
      match escapedBody rest.length (rest.drop 1) with
      | some (v, r) => lexeme (.text .escaped (String.ofList v)) r
      | none => .error ⟨"Unterminated encoded string literal", offset⟩
    else if (c == 'u' || c == 'U') && f == .postgres && rest.take 2 == ['&', '\''] then
      (unicodeBody (behind + 2) rest.length (rest.drop 2)).map
        (fun (v, r) => (.token (.text .unicode (String.ofList v)), r))
    else if (c == 'x' || c == 'X') && quotedNext then
      quotedStep f behind .hex '\'' true (rest.drop 1)
    else if c.isAlpha then wordOf c rest
    else if c == '\'' then quotedStep f offset .single '\'' (f == .mysql) rest
    else if c == '"' && !f.opensName c then quotedStep f offset .double '"' (f == .mysql) rest
    else if f.opensName c then quotedNameStep offset c rest
    else if c.isDigit || c == '.' then numberStep f offset prev (c :: rest)
    else match symbolStep f offset c rest with
      | some step => step
      | none =>
        if f.startsWord c then wordStep f [c] rest
        else if c == '$' then dollarStep f offset rest
        else if isBlank c then .ok (.blank, rest)
        else lexeme (.other c) rest
where
  wordOf (c : Char) (rest : List Char) : LexStep := wordStep f [c] rest

/-! ## All tokens -/

/-- A blank or a comment as error messages show it: a line ends in one character, and any blank
without a name of its own is a space. -/
def gapText (cs : List Char) : String :=
  match cs with
  | ['\r'] => "\n"
  | [c] => if c == '\t' || c == '\n' || c == '#' then c.toString else " "
  | _ => String.ofList cs

/-- The tokens of a text from an offset on, and its end. The first argument bounds the number of
steps; the length of the text is enough, since every step takes a character. -/
def lexFrom (f : Flavor) :
    Nat → Nat → Option Token → Option Gap → List Char → Except LexFailure (List Located)
  | 0, _, _, gap, _ => .ok [⟨.ending, none, gap⟩]
  | _, _, _, gap, [] => .ok [⟨.ending, none, gap⟩]
  | n + 1, offset, prev, gap, cs => do
    let (found, rest) ← lexStep f offset prev cs
    let taken := cs.take (cs.length - rest.length)
    let after := offset + taken.length
    match found with
    | .blank => lexFrom f n after none (gap <|> some ⟨gapText taken, offset⟩) rest
    | .token t => return ⟨t, some offset, gap⟩ :: (← lexFrom f n after (some t) none rest)

/-- The tokens of a text, the last of which is its end. -/
def lex (f : Flavor) (s : String) : Except LexFailure (List Located) :=
  lexFrom f s.toList.length 0 none none s.toList

end SchemaChart.Grammar
