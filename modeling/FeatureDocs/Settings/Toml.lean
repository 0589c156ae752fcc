/-!
# Settings files

The settings file is TOML. A document is read line by line into a tree of tables: `[a.b]`
headers open a table, `key = value` lines fill the open table, and dotted keys make tables
on the way. A table is defined once: a header may not repeat, may not name a value or a table
made by dotted keys, and no key may be set twice. Inline tables are closed once written; as
TOML 1.1 allows, they may span lines, hold comments and end with a comma, and basic strings know
the escapes `\e` and `\xHH` besides those of TOML 1.0.

Only the values settings can hold are read: strings (basic and literal, on one line or several),
integers (decimal with an optional sign, or hexadecimal, octal and binary, all within 64 bits),
booleans, arrays and inline tables. Any other value, a float or a date among them, could never be
a valid setting, so it is refused as a syntax error would be.

* `TomlValue`, `parseToml`.
-/

namespace FeatureDocs.Settings

/-- How a table came to be. -/
inductive TableKind where
  /-- Made on the way to a header. -/
  | implicit
  /-- Opened by a header. -/
  | header
  /-- Made by a dotted key. -/
  | dotted
  /-- Written inline, closed. -/
  | inline
deriving DecidableEq, Repr

/-- A TOML value. -/
inductive TomlValue where
  | str (s : String)
  | int (n : Int)
  | bool (b : Bool)
  | arr (items : List TomlValue)
  | table (kind : TableKind) (entries : List (String × TomlValue))
deriving Repr, Inhabited

/-- Table entries. -/
abbrev Entries := List (String × TomlValue)

/-- Replace the value of a key. -/
def Entries.put (es : Entries) (k : String) (v : TomlValue) : Entries :=
  es.map fun e => if e.1 == k then (k, v) else e

/-! ## The tree of tables -/

/-- Open the table of a header path. -/
def openHeader : List String → Entries → Option Entries
  | [], _ => none
  | [k], es =>
    match es.lookup k with
    | none => some (es ++ [(k, .table .header [])])
    | some (.table .implicit sub) => some (es.put k (.table .header sub))
    | some _ => none
  | k :: ks, es =>
    match es.lookup k with
    | none => (openHeader ks []).map fun sub => es ++ [(k, .table .implicit sub)]
    | some (.table kind sub) =>
      if kind == .inline then none else (openHeader ks sub).map fun sub' => es.put k (.table kind sub')
    | some _ => none

/-- Set a dotted key in a table. -/
def setKey : List String → TomlValue → Entries → Option Entries
  | [], _, _ => none
  | [k], v, es => if (es.lookup k).isSome then none else some (es ++ [(k, v)])
  | k :: ks, v, es =>
    match es.lookup k with
    | none => (setKey ks v []).map fun sub => es ++ [(k, .table .dotted sub)]
    | some (.table .dotted sub) => (setKey ks v sub).map fun sub' => es.put k (.table .dotted sub')
    | some (.table .implicit sub) => (setKey ks v sub).map fun sub' => es.put k (.table .implicit sub')
    | some _ => none

/-- Set a dotted key in the table at a path. -/
def setKeyAt : List String → List String → TomlValue → Entries → Option Entries
  | [], key, v, es => setKey key v es
  | t :: ts, key, v, es =>
    match es.lookup t with
    | some (.table kind sub) => (setKeyAt ts key v sub).map fun sub' => es.put t (.table kind sub')
    | _ => none

/-! ## Characters -/

/-- A space or a tab. -/
def isSpace (c : Char) : Bool := c == ' ' || c == '\t'

/-- The text after spaces and tabs. -/
def skipSpaces (cs : List Char) : List Char := cs.dropWhile isSpace

/-- The text after a line break at its start. -/
def lineBreak? : List Char → Option (List Char)
  | '\r' :: '\n' :: r => some r
  | '\n' :: r => some r
  | _ => none

/-- The text after a comment, up to its line break. -/
def skipComment : List Char → List Char
  | '#' :: r => r.dropWhile fun c => c != '\n' && c != '\r'
  | cs => cs

/-- The rest of a line must be blank or a comment; the text after its line break. -/
def endOfLine? (cs : List Char) : Option (List Char) :=
  match skipComment (skipSpaces cs) with
  | [] => some []
  | r => lineBreak? r

/-- Blanks, line breaks and comments, as inside an array. -/
def skipGaps : Nat → List Char → List Char
  | 0, cs => cs
  | fuel + 1, cs =>
    let r := skipComment (skipSpaces cs)
    match lineBreak? r with
    | some r' => skipGaps fuel r'
    | none => r

/-- A character allowed in a bare key. -/
def isBareKeyChar (c : Char) : Bool :=
  ('A' ≤ c && c ≤ 'Z') || ('a' ≤ c && c ≤ 'z') || ('0' ≤ c && c ≤ '9') || c == '_' || c == '-'

/-- A control character that may not appear in strings and comments (tab excepted). -/
def isControl (c : Char) : Bool := (c.toNat < 32 && c != '\t') || c.toNat == 127

/-- The value of a hexadecimal digit. -/
def hexDigit? (c : Char) : Option Nat :=
  if '0' ≤ c && c ≤ '9' then some (c.toNat - '0'.toNat)
  else if 'a' ≤ c && c ≤ 'f' then some (c.toNat - 'a'.toNat + 10)
  else if 'A' ≤ c && c ≤ 'F' then some (c.toNat - 'A'.toNat + 10)
  else none

/-- A Unicode scalar value written with exactly `n` hexadecimal digits. -/
def hexScalar? (n : Nat) (cs : List Char) : Option (Char × List Char) :=
  let ds := cs.take n
  if ds.length != n then none
  else
    match ds.mapM hexDigit? with
    | none => none
    | some vs =>
      let v := vs.foldl (fun a d => 16 * a + d) 0
      if v < 0xD800 || (0xDFFF < v && v < 0x110000) then some (Char.ofNat v, cs.drop n) else none

/-- An escape after a backslash in a basic string. -/
def escape? : List Char → Option (Char × List Char)
  | 'b' :: r => some ('\x08', r)
  | 't' :: r => some ('\t', r)
  | 'n' :: r => some ('\n', r)
  | 'f' :: r => some ('\x0c', r)
  | 'r' :: r => some ('\r', r)
  | 'e' :: r => some ('\x1b', r)
  | '"' :: r => some ('"', r)
  | '\\' :: r => some ('\\', r)
  | 'x' :: r => hexScalar? 2 r
  | 'u' :: r => hexScalar? 4 r
  | 'U' :: r => hexScalar? 8 r
  | _ => none

/-! ## Strings -/

/-- The body of a basic string after its opening quote; `acc` is reversed. -/
def basicBody : Nat → List Char → List Char → Option (String × List Char)
  | 0, _, _ => none
  | _ + 1, [], _ => none
  | _ + 1, '"' :: r, acc => some (String.ofList acc.reverse, r)
  | fuel + 1, '\\' :: r, acc =>
    match escape? r with
    | some (c, r') => basicBody fuel r' (c :: acc)
    | none => none
  | fuel + 1, c :: r, acc => if isControl c then none else basicBody fuel r (c :: acc)

/-- The body of a literal string after its opening quote. -/
def literalBody : List Char → List Char → Option (String × List Char)
  | [], _ => none
  | '\x27' :: r, acc => some (String.ofList acc.reverse, r)
  | c :: r, acc => if isControl c then none else literalBody r (c :: acc)

/-- After a backslash at the end of a line in a multi-line basic string: the blanks and line
breaks that follow are dropped. -/
def trimLineEnd (cs : List Char) : Option (List Char) :=
  let r := skipSpaces cs
  match lineBreak? r with
  | some r' => some (r'.dropWhile fun c => isSpace c || c == '\n' || c == '\r')
  | none => none

/-- The body of a multi-line basic string; it ends at three quotes, up to two more quotes
belonging to the body. -/
def mlBasicBody : Nat → List Char → List Char → Option (String × List Char)
  | 0, _, _ => none
  | _ + 1, [], _ => none
  | _ + 1, '"' :: '"' :: '"' :: '"' :: '"' :: r, acc => some (String.ofList ('"' :: '"' :: acc).reverse, r)
  | _ + 1, '"' :: '"' :: '"' :: '"' :: r, acc => some (String.ofList ('"' :: acc).reverse, r)
  | _ + 1, '"' :: '"' :: '"' :: r, acc => some (String.ofList acc.reverse, r)
  | fuel + 1, '\\' :: r, acc =>
    match trimLineEnd r with
    | some r' => mlBasicBody fuel r' acc
    | none =>
      match escape? r with
      | some (c, r') => mlBasicBody fuel r' (c :: acc)
      | none => none
  | fuel + 1, '\r' :: '\n' :: r, acc => mlBasicBody fuel r ('\n' :: '\r' :: acc)
  | fuel + 1, c :: r, acc =>
    if isControl c && c != '\n' then none else mlBasicBody fuel r (c :: acc)

/-- The body of a multi-line literal string. -/
def mlLiteralBody : List Char → List Char → Option (String × List Char)
  | [], _ => none
  | '\x27' :: '\x27' :: '\x27' :: '\x27' :: '\x27' :: r, acc => some (String.ofList ('\x27' :: '\x27' :: acc).reverse, r)
  | '\x27' :: '\x27' :: '\x27' :: '\x27' :: r, acc => some (String.ofList ('\x27' :: acc).reverse, r)
  | '\x27' :: '\x27' :: '\x27' :: r, acc => some (String.ofList acc.reverse, r)
  | '\r' :: '\n' :: r, acc => mlLiteralBody r ('\n' :: '\r' :: acc)
  | c :: r, acc => if isControl c && c != '\n' then none else mlLiteralBody r (c :: acc)

/-- A line break right after the opening of a multi-line string is dropped. -/
def dropFirstBreak (cs : List Char) : List Char := (lineBreak? cs).getD cs

/-- A string value of any of the four forms. -/
def stringValue? : List Char → Option (String × List Char)
  | '"' :: '"' :: '"' :: r => let r := dropFirstBreak r; mlBasicBody (r.length + 1) r []
  | '"' :: r => basicBody (r.length + 1) r []
  | '\x27' :: '\x27' :: '\x27' :: r => mlLiteralBody (dropFirstBreak r) []
  | '\x27' :: r => literalBody r []
  | _ => none

/-- A single-line string, as keys use. -/
def keyString? : List Char → Option (String × List Char)
  | '"' :: '"' :: _ :: _ => none
  | '"' :: r => basicBody (r.length + 1) r []
  | '\x27' :: '\x27' :: _ :: _ => none
  | '\x27' :: r => literalBody r []
  | _ => none

/-! ## Keys -/

/-- One part of a key: bare, or a quoted string. -/
def simpleKey? (cs : List Char) : Option (String × List Char) :=
  match cs with
  | '"' :: _ | '\x27' :: _ =>
    match cs with
    | '"' :: '"' :: r => some ("", r)
    | '\x27' :: '\x27' :: r => some ("", r)
    | _ => keyString? cs
  | _ =>
    let k := cs.takeWhile isBareKeyChar
    if k.isEmpty then none else some (String.ofList k, cs.drop k.length)

/-- A dotted key: parts separated by dots, blanks allowed around the dots. -/
def dottedKey? : Nat → List Char → Option (List String × List Char)
  | 0, _ => none
  | fuel + 1, cs =>
    match simpleKey? (skipSpaces cs) with
    | none => none
    | some (k, r) =>
      match skipSpaces r with
      | '.' :: r' => (dottedKey? fuel r').map fun (ks, rest) => (k :: ks, rest)
      | _ => some ([k], r)

/-! ## Numbers and words -/

/-- Digits of a base with single underscores between them. -/
def digitsValue? (base : Nat) (cs : List Char) : Option Nat :=
  let digit := fun (c : Char) => (hexDigit? c).filter (· < base)
  let rec go : List Char → Bool → Nat → Option Nat
    | [], lastDigit, acc => if lastDigit then some acc else none
    | '_' :: r, lastDigit, acc => if lastDigit then go r false acc else none
    | c :: r, _, acc =>
      match digit c with
      | some d => go r true (base * acc + d)
      | none => none
  match cs with
  | [] => none
  | '_' :: _ => none
  | _ => go cs false 0

/-- A bare word of a value: everything up to a blank, a separator, a comment or a line break. -/
def bareWord (cs : List Char) : List Char × List Char :=
  let w := cs.takeWhile fun c => !(isSpace c || c == ',' || c == ']' || c == '}' || c == '#' || c == '\n' || c == '\r')
  (w, cs.drop w.length)

/-- The integer a word spells, if it spells one within 64 bits. -/
def integerWord? (w : List Char) : Option Int :=
  let inRange := fun (n : Int) => if -9223372036854775808 ≤ n && n < 9223372036854775808 then some n else none
  match w with
  | '0' :: 'x' :: r => (digitsValue? 16 r).bind fun n => inRange n
  | '0' :: 'o' :: r => (digitsValue? 8 r).bind fun n => inRange n
  | '0' :: 'b' :: r => (digitsValue? 2 r).bind fun n => inRange n
  | _ =>
    let (neg, ds) := match w with
      | '+' :: r => (false, r)
      | '-' :: r => (true, r)
      | r => (false, r)
    match ds with
    | '0' :: _ :: _ => none
    | _ => (digitsValue? 10 ds).bind fun n => inRange (if neg then -(n : Int) else n)

/-! ## Values -/

mutual
/-- A value: a string, an array, an inline table, a boolean or an integer. -/
def value? : Nat → List Char → Option (TomlValue × List Char)
  | 0, _ => none
  | fuel + 1, cs =>
    match cs with
    | '"' :: _ | '\x27' :: _ => (stringValue? cs).map fun (s, r) => (.str s, r)
    | '[' :: r => arrayItems? fuel (skipGaps (r.length + 1) r) []
    | '{' :: r => inlineTable? fuel (skipGaps (r.length + 1) r) []
    | _ =>
      let (w, r) := bareWord cs
      if w == "true".toList then some (.bool true, r)
      else if w == "false".toList then some (.bool false, r)
      else (integerWord? w).map fun n => (.int n, r)

/-- The items of an array after its opening bracket and after each comma. -/
def arrayItems? : Nat → List Char → List TomlValue → Option (TomlValue × List Char)
  | 0, _, _ => none
  | _ + 1, ']' :: r, acc => some (.arr acc.reverse, r)
  | fuel + 1, cs, acc =>
    match value? fuel cs with
    | none => none
    | some (v, r) =>
      let r := skipGaps (r.length + 1) r
      match r with
      | ',' :: r' => arrayItems? fuel (skipGaps (r'.length + 1) r') (v :: acc)
      | ']' :: r' => some (.arr (v :: acc).reverse, r')
      | _ => none

/-- The pairs of an inline table after its opening brace and after each comma; the table may
span lines, hold comments and end with a comma after its last pair. -/
def inlineTable? : Nat → List Char → Entries → Option (TomlValue × List Char)
  | 0, _, _ => none
  | _ + 1, '}' :: r, es => some (.table .inline (closeTables es), r)
  | fuel + 1, cs, es =>
    match dottedKey? (cs.length + 1) cs with
    | none => none
    | some (key, r) =>
      match skipSpaces r with
      | '=' :: r' =>
        match value? fuel (skipSpaces r') with
        | none => none
        | some (v, r'') =>
          match setKey key v es with
          | none => none
          | some es' =>
            match skipGaps (r''.length + 1) r'' with
            | ',' :: rest =>
              match skipGaps (rest.length + 1) rest with
              | ',' :: _ => none
              | rest' => inlineTable? fuel rest' es'
            | '}' :: rest => some (.table .inline (closeTables es'), rest)
            | _ => none
      | _ => none

/-- Mark the tables of an inline table closed. -/
def closeTables : Entries → Entries
  | [] => []
  | (k, v) :: rest => (k, closeValue v) :: closeTables rest

/-- Mark a table value closed. -/
def closeValue : TomlValue → TomlValue
  | .table _ es => .table .inline (closeTables es)
  | v => v
end

/-! ## Documents -/

/-- Read the lines of a document into the table tree; `openPath` is the path of the open table. -/
def readLines : Nat → List Char → List String → Entries → Option Entries
  | 0, _, _, _ => none
  | fuel + 1, cs, openPath, root =>
    let line := skipSpaces cs
    match line with
    | [] => some root
    | '#' :: _ => (endOfLine? line).bind fun r => readLines fuel r openPath root
    | '\r' :: _ | '\n' :: _ => (lineBreak? line).bind fun r => readLines fuel r openPath root
    | '[' :: '[' :: _ => none
    | '[' :: r =>
      match dottedKey? (r.length + 1) r with
      | none => none
      | some (path, r') =>
        match skipSpaces r' with
        | ']' :: r'' =>
          match openHeader path root, endOfLine? r'' with
          | some root', some rest => readLines fuel rest path root'
          | _, _ => none
        | _ => none
    | _ =>
      match dottedKey? (line.length + 1) line with
      | none => none
      | some (key, r) =>
        match skipSpaces r with
        | '=' :: r' =>
          match value? (r'.length + 1) (skipSpaces r') with
          | none => none
          | some (v, r'') =>
            match setKeyAt openPath key v root, endOfLine? r'' with
            | some root', some rest => readLines fuel rest openPath root'
            | _, _ => none
        | _ => none

/-- Read a TOML document into its top-level table, after a byte order mark if it starts with one;
none for a document that is not valid or holds a value no setting can take. -/
def parseToml (text : String) : Option Entries :=
  let cs := match text.toList with
    | '\ufeff' :: rest => rest
    | cs => cs
  readLines (cs.length + 2) cs [] []

end FeatureDocs.Settings
