import FeatureDocs.Regex.Syntax
import FeatureDocs.Text.PropertyTable

/-!
# Regular expressions: reading a pattern

A pattern is read left to right with a stack of open groups, as one loop over its characters.
Alternatives, repetitions (`*`, `+`, `?`, `{n}`, `{n,}`, `{n,m}`, each lazy with a trailing
`?`), groups (capturing, named with `(?P<name>…)` or `(?<name>…)`, non-capturing, and with
flags `i`, `m`, `s`, `U`, `x`), classes with ranges, nested classes and ASCII classes, and the
escapes of Unicode-aware patterns are read. Look-around and back-references are refused.

* `PatternError`;
* `Pattern.parse`.
-/

namespace FeatureDocs.Regex

open FeatureDocs.Text

/-- Why a pattern is refused. -/
inductive PatternError where
  | unclosedGroup
  | unopenedGroup
  | repetitionMissing
  | repetitionCountUnclosed
  | repetitionCountDecimal
  | repetitionCountInvalid
  | lookAround
  | backreference
  | groupNameDuplicate (name : String)
  | groupNameInvalid
  | groupNameUnexpectedEnd
  | flagUnrecognized
  | flagEmpty
  | flagDanglingNegation
  | flagUnexpectedEnd
  | unknownProperty (name : String)
  | escapeUnrecognized
  | escapeUnexpectedEnd
  | escapeHexInvalid
  | classUnclosed
  | classRangeInvalid
  | classRangeLiteral
  | invalidUtf8
  | unicodeNotAllowed
deriving DecidableEq, Repr, Inhabited

/-- A short description of a refusal. -/
def PatternError.message : PatternError → String
  | .unclosedGroup => "unclosed group"
  | .unopenedGroup => "unopened group"
  | .repetitionMissing => "repetition operator missing expression"
  | .repetitionCountUnclosed => "unclosed counted repetition"
  | .repetitionCountDecimal => "repetition quantifier expects a valid decimal"
  | .repetitionCountInvalid => "invalid repetition count range, the start must be <= the end"
  | .lookAround => "look-around, including look-ahead and look-behind, is not supported"
  | .backreference => "backreferences are not supported"
  | .groupNameDuplicate _ => "duplicate capture group name"
  | .groupNameInvalid => "invalid capture group character"
  | .groupNameUnexpectedEnd => "unclosed capture group name"
  | .flagUnrecognized => "unrecognized flag"
  | .flagEmpty => "expected flag but got end of regex"
  | .flagDanglingNegation => "flag negation operator must be followed by a flag"
  | .flagUnexpectedEnd => "expected flags but got end of regex"
  | .unknownProperty _ => "Unicode property not found"
  | .escapeUnrecognized => "unrecognized escape sequence"
  | .escapeUnexpectedEnd => "incomplete escape sequence, reached end of pattern prematurely"
  | .escapeHexInvalid => "invalid hexadecimal digit"
  | .classUnclosed => "unclosed character class"
  | .classRangeInvalid => "invalid character class range, the start must be <= the end"
  | .classRangeLiteral => "invalid range boundary, must be a literal"
  | .invalidUtf8 => "pattern can match invalid UTF-8"
  | .unicodeNotAllowed => "Unicode not allowed here"

/-- The flags in force while reading. -/
structure Flags where
  caseless : Bool := false
  multiLine : Bool := false
  dotAll : Bool := false
  lazy : Bool := false
  verbose : Bool := false
  unicode : Bool := true
deriving DecidableEq, Repr, Inhabited

/-- How an open group began. -/
inductive Opening where
  | capture (index : Nat)
  | plain
deriving DecidableEq, Repr, Inhabited

/-- An open group: how it began, the flags outside it, the finished alternatives (last first)
and the items of the current alternative (last first). -/
structure Frame where
  opening : Opening
  outer : Flags
  alts : List Term := []
  items : List Term := []
deriving Repr, Inhabited

/-- The expression of the items of one alternative, last first. -/
def concatOf (items : List Term) : Term :=
  match items.reverse with
  | [r] => r
  | rs => .concat rs

/-- The expression of a finished group body. -/
def Frame.body (f : Frame) : Term :=
  match f.alts with
  | [] => concatOf f.items
  | alts => .alt ((concatOf f.items :: alts).reverse)

/-- The state of the reading loop. -/
structure ReadState where
  frame : Frame
  stack : List Frame := []
  flags : Flags := {}
  groups : Nat := 0
  names : List (String × Nat) := []
deriving Repr, Inhabited

/-- The value of a hexadecimal digit. -/
def hexValue (c : Char) : Option Nat :=
  if '0' ≤ c ∧ c ≤ '9' then some (c.toNat - '0'.toNat)
  else if 'a' ≤ c ∧ c ≤ 'f' then some (c.toNat - 'a'.toNat + 10)
  else if 'A' ≤ c ∧ c ≤ 'F' then some (c.toNat - 'A'.toNat + 10)
  else none

/-- The number written by hexadecimal digits. -/
def hexNumber (ds : List Char) : Option Nat :=
  ds.foldl (fun acc d => acc.bind fun n => (hexValue d).map (n * 16 + ·)) (some 0)

/-- The character of a code point, if it is a Unicode scalar value. -/
def scalar? (n : Nat) : Option Char :=
  if n < 0xD800 ∨ (0xDFFF < n ∧ n < 0x110000) then some (Char.ofNat n) else none

/-- A hexadecimal escape after its letter: in braces, or exactly `width` digits. -/
def readHex (width : Nat) : List Char → Except PatternError (Char × List Char)
  | '{' :: rest =>
    let ds := rest.takeWhile (· != '}')
    match rest.drop ds.length with
    | '}' :: after =>
      if ds.isEmpty then .error .escapeHexInvalid
      else match (hexNumber ds).bind scalar? with
        | some c => .ok (c, after)
        | none => .error .escapeHexInvalid
    | _ => .error .escapeUnexpectedEnd
  | cs =>
    let ds := cs.take width
    if ds.length < width then .error .escapeUnexpectedEnd
    else match (hexNumber ds).bind scalar? with
      | some c => .ok (c, cs.drop width)
      | none => .error .escapeHexInvalid

/-- A property name made loose: lowercase ASCII without spaces, underscores and hyphens, and
without a leading `is`. -/
def looseName (s : String) : String :=
  let cs := s.toList
  let (cs, dropped) := match cs with
    | a :: b :: rest => if a.toLower == 'i' && b.toLower == 's' then (rest, true) else (cs, false)
    | _ => (cs, false)
  let kept := (cs.filter fun c => c != ' ' && c != '_' && c != '-' && c.toNat < 128).map Char.toLower
  -- `isc` stays whole: it names a category, not `c` with a prefix
  if dropped && kept == ['c'] then "isc" else String.ofList kept

/-- The general categories of a loose category name. -/
def categoryNamed : String → Option (List GeneralCategory)
  | "l" | "letter" => some [.Lu, .Ll, .Lt, .Lm, .Lo]
  | "lc" | "casedletter" => some [.Lu, .Ll, .Lt]
  | "lu" | "uppercaseletter" => some [.Lu]
  | "ll" | "lowercaseletter" => some [.Ll]
  | "lt" | "titlecaseletter" => some [.Lt]
  | "lm" | "modifierletter" => some [.Lm]
  | "lo" | "otherletter" => some [.Lo]
  | "m" | "mark" | "combiningmark" => some [.Mn, .Mc, .Me]
  | "mn" | "nonspacingmark" => some [.Mn]
  | "mc" | "spacingmark" => some [.Mc]
  | "me" | "enclosingmark" => some [.Me]
  | "n" | "number" => some [.Nd, .Nl, .No]
  | "nd" | "decimalnumber" | "digit" => some [.Nd]
  | "nl" | "letternumber" => some [.Nl]
  | "no" | "othernumber" => some [.No]
  | "p" | "punctuation" | "punct" => some [.Pc, .Pd, .Ps, .Pe, .Pi, .Pf, .Po]
  | "pc" | "connectorpunctuation" => some [.Pc]
  | "pd" | "dashpunctuation" => some [.Pd]
  | "ps" | "openpunctuation" => some [.Ps]
  | "pe" | "closepunctuation" => some [.Pe]
  | "pi" | "initialpunctuation" => some [.Pi]
  | "pf" | "finalpunctuation" => some [.Pf]
  | "po" | "otherpunctuation" => some [.Po]
  | "s" | "symbol" => some [.Sm, .Sc, .Sk, .So]
  | "sm" | "mathsymbol" => some [.Sm]
  | "sc" | "currencysymbol" => some [.Sc]
  | "sk" | "modifiersymbol" => some [.Sk]
  | "so" | "othersymbol" => some [.So]
  | "z" | "separator" => some [.Zs, .Zl, .Zp]
  | "zs" | "spaceseparator" => some [.Zs]
  | "zl" | "lineseparator" => some [.Zl]
  | "zp" | "paragraphseparator" => some [.Zp]
  | "c" | "other" => some [.Cc, .Cf, .Cs, .Co, .Cn]
  | "cc" | "control" | "cntrl" => some [.Cc]
  | "cf" | "format" => some [.Cf]
  | "cs" | "surrogate" => some [.Cs]
  | "co" | "privateuse" => some [.Co]
  | "cn" | "unassigned" => some [.Cn]
  | _ => none

/-- The binary property of a loose name. -/
def binaryNamed : String → Option ClassItem
  | "alphabetic" | "alpha" => some (.prop (.ranges alphabeticRanges) false)
  | "uppercase" | "upper" => some (.prop (.ranges uppercaseRanges) false)
  | "lowercase" | "lower" => some (.prop (.ranges lowercaseRanges) false)
  | "whitespace" | "wspace" | "space" => some (.perl .space false)
  | "cased" => some (.prop (.ranges casedRanges) false)
  | "caseignorable" | "ci" => some (.prop (.ranges caseIgnorableRanges) false)
  | "emoji" => some (.prop (.ranges emojiRanges) false)
  | "math" => some (.prop (.ranges mathRanges) false)
  | "hexdigit" | "hex" => some (.prop (.ranges hexDigitRanges) false)
  | "dash" => some (.prop (.ranges dashRanges) false)
  | "ideographic" | "ideo" => some (.prop (.ranges ideographicRanges) false)
  | _ => none

/-- The class of a loose general category name, or of `any`, `assigned` or `ascii`. -/
def categoryClass : String → Option ClassItem
  | "any" => some (.prop .any false)
  | "assigned" => some (.prop (.category [.Cn]) true)
  | "ascii" => some (.range 0 127)
  | value => (categoryNamed value).map fun cs => .prop (.category cs) false

/-- The class of a loose script name. -/
def scriptClass (value : String) : Option ClassItem :=
  (scriptIndexNamed? value).map fun i => .prop (.script i) false

/-- The property of a name given to `\p`: a general category or a script after its key, or
without a key a binary property, then a general category, then a script. The names `cf`, `sc`
and `lc` are categories, never properties. -/
def propertyNamed (name : String) : Option ClassItem :=
  let split := match name.splitOn "=" with
    | [k, v] => some (k, v)
    | _ => match name.splitOn ":" with
      | [k, v] => some (k, v)
      | _ => none
  match split with
  | some (k, v) =>
    match looseName k with
    | "gc" | "generalcategory" => categoryClass (looseName v)
    | "sc" | "script" | "scx" | "scriptextensions" => scriptClass (looseName v)
    | _ => none
  | none =>
    let value := looseName name
    let binary := if value == "cf" || value == "sc" || value == "lc" then none else binaryNamed value
    match binary with
    | some i => some i
    | none =>
      match categoryClass value with
      | some i => some i
      | none => scriptClass value

/-- The complement of a class item. -/
def ClassItem.complement : ClassItem → ClassItem
  | .range lo hi => .nested true [.range lo hi]
  | .perl k neg => .perl k (!neg)
  | .prop p neg => .prop p (!neg)
  | .nested neg items => .nested (!neg) items
  | i => .nested true [i]

/-- A property escape after `p` or `P`: a name in braces or one letter. -/
def readProperty (negated : Bool) : List Char → Except PatternError (ClassItem × List Char)
  | '{' :: rest =>
    let name := rest.takeWhile (· != '}')
    match rest.drop name.length with
    | '}' :: after =>
      match propertyNamed (String.ofList name) with
      | some i => .ok (if negated then i.complement else i, after)
      | none => .error (.unknownProperty (String.ofList name))
    | _ => .error .escapeUnexpectedEnd
  | c :: rest =>
    match propertyNamed (String.singleton c) with
    | some i => .ok (if negated then i.complement else i, rest)
    | none => .error (.unknownProperty (String.singleton c))
  | [] => .error .escapeUnexpectedEnd

/-- The characters that are always written with a backslash to be literal. -/
def metaChars : List Char :=
  ['\\', '.', '+', '*', '?', '(', ')', '|', '[', ']', '{', '}', '^', '$', '#', '&', '-', '~']

/-- A character that a backslash may precede to stand for itself. -/
def escapable (c : Char) : Bool :=
  metaChars.contains c ||
    (c.toNat < 128 && !c.isAlphanum && c != '<' && c != '>')

/-- What an escape stands for: a character, a class item or an assertion. -/
inductive Escaped where
  | char (c : Char)
  | item (i : ClassItem)
  | look (l : Look)
deriving Repr, Inhabited

/-- The ASCII digits. -/
def asciiDigits : List ClassItem := [.range 48 57]

/-- The ASCII word characters. -/
def asciiWordChars : List ClassItem := [.range 48 57, .range 65 90, .range 95 95, .range 97 122]

/-- The ASCII blanks. -/
def asciiBlanks : List ClassItem := [.range 9 13, .range 32 32]

/-- A character outside ASCII, which stands for all of them where Unicode is off: no item can
tell them apart there. -/
def beyondAscii : Char := Char.ofNat 128

/-- A character of an escape: where Unicode is off it must be ASCII. -/
def escapedChar (unicode : Bool) (c : Char) : Except PatternError Char :=
  if unicode || c.toNat < 128 then .ok c
  else if c.toNat < 256 then .error .invalidUtf8
  else .error .unicodeNotAllowed

/-- A Perl class escape, Unicode-aware or ASCII. -/
def perlItem (unicode : Bool) (k : PerlClass) (negated : Bool) : ClassItem :=
  if unicode then .perl k negated
  else
    match k with
    | .digit => .nested negated asciiDigits
    | .word => .nested negated asciiWordChars
    | .space => .nested negated asciiBlanks

/-- An escape after its backslash; `unicode` tells whether Unicode is on. -/
def readEscape (unicode : Bool) : List Char → Except PatternError (Escaped × List Char)
  | [] => .error .escapeUnexpectedEnd
  | c :: rest =>
    match c with
    | 'd' => .ok (.item (perlItem unicode .digit false), rest)
    | 'D' => .ok (.item (perlItem unicode .digit true), rest)
    | 'w' => .ok (.item (perlItem unicode .word false), rest)
    | 'W' => .ok (.item (perlItem unicode .word true), rest)
    | 's' => .ok (.item (perlItem unicode .space false), rest)
    | 'S' => .ok (.item (perlItem unicode .space true), rest)
    | 'p' =>
      if unicode then (readProperty false rest).map fun (i, r) => (.item i, r)
      else .error .unicodeNotAllowed
    | 'P' =>
      if unicode then (readProperty true rest).map fun (i, r) => (.item i, r)
      else .error .unicodeNotAllowed
    | 'b' =>
      match rest with
      | '{' :: 's' :: 't' :: 'a' :: 'r' :: 't' :: '}' :: r => .ok (.look .wordStart, r)
      | '{' :: 'e' :: 'n' :: 'd' :: '}' :: r => .ok (.look .wordEnd, r)
      | '{' :: 's' :: 't' :: 'a' :: 'r' :: 't' :: '-' :: 'h' :: 'a' :: 'l' :: 'f' :: '}' :: r =>
        .ok (.look .wordStartHalf, r)
      | '{' :: 'e' :: 'n' :: 'd' :: '-' :: 'h' :: 'a' :: 'l' :: 'f' :: '}' :: r =>
        .ok (.look .wordEndHalf, r)
      | _ => .ok (.look (if unicode then .boundary false else .asciiBoundary), rest)
    | 'B' => if unicode then .ok (.look (.boundary true), rest) else .error .invalidUtf8
    | 'A' => .ok (.look (.start false), rest)
    | 'z' => .ok (.look (.finish false), rest)
    | '<' => .ok (.look .wordStart, rest)
    | '>' => .ok (.look .wordEnd, rest)
    | 'n' => .ok (.char '\n', rest)
    | 't' => .ok (.char '\t', rest)
    | 'r' => .ok (.char '\r', rest)
    | 'f' => .ok (.char (Char.ofNat 12), rest)
    | 'v' => .ok (.char (Char.ofNat 11), rest)
    | 'a' => .ok (.char (Char.ofNat 7), rest)
    | 'x' => (readHex 2 rest).bind fun (ch, r) => (escapedChar unicode ch).map fun ch => (.char ch, r)
    | 'u' => (readHex 4 rest).bind fun (ch, r) => (escapedChar unicode ch).map fun ch => (.char ch, r)
    | 'U' => (readHex 8 rest).bind fun (ch, r) => (escapedChar unicode ch).map fun ch => (.char ch, r)
    | _ =>
      if c.isDigit then .error .backreference
      else if escapable c then .ok (.char c, rest)
      else .error .escapeUnrecognized

/-- The ASCII class of a name, and whether it is negated, read after `[:`. -/
def asciiClass? (cs : List Char) : Option (ClassItem × List Char) :=
  let (negated, cs) := match cs with
    | '^' :: r => (true, r)
    | r => (false, r)
  let name := cs.takeWhile (· != ':')
  match cs.drop name.length with
  | ':' :: ']' :: rest =>
    let items : Option (List ClassItem) := match String.ofList name with
      | "alnum" => some [.range 48 57, .range 65 90, .range 97 122]
      | "alpha" => some [.range 65 90, .range 97 122]
      | "ascii" => some [.range 0 127]
      | "blank" => some [.range 9 9, .range 32 32]
      | "cntrl" => some [.range 0 31, .range 127 127]
      | "digit" => some [.range 48 57]
      | "graph" => some [.range 33 126]
      | "lower" => some [.range 97 122]
      | "print" => some [.range 32 126]
      | "punct" => some [.range 33 47, .range 58 64, .range 91 96, .range 123 126]
      | "space" => some [.range 9 13, .range 32 32]
      | "upper" => some [.range 65 90]
      | "word" => some [.range 48 57, .range 65 90, .range 95 95, .range 97 122]
      | "xdigit" => some [.range 48 57, .range 65 70, .range 97 102]
      | _ => none
    items.map fun is => (.nested negated is, rest)
  | _ => none

/-- Skip blanks and comments of verbose mode; `inComment` holds inside a comment. -/
def skipFrom (inComment : Bool) : List Char → List Char
  | [] => []
  | c :: rest =>
    if inComment then skipFrom (c != '\n') rest
    else if isBlank c then skipFrom false rest
    else if c == '#' then skipFrom true rest
    else c :: rest

/-- Skip blanks and comments in verbose mode. -/
def skipVerbose (verbose : Bool) (cs : List Char) : List Char :=
  if verbose then skipFrom false cs else cs

/-- One atom of a class: a character or an item. Where Unicode is off a character must be
ASCII. -/
def readClassAtom (unicode : Bool) : List Char → Except PatternError (Escaped × List Char)
  | '\\' :: rest =>
    match readEscape unicode rest with
    | .ok (.look _, _) => .error .escapeUnrecognized
    | r => r
  | c :: rest => (escapedChar unicode c).map fun c => (.char c, rest)
  | [] => .error .classUnclosed

/-- How a run of class items ended: at the closing bracket, or at a set operation. -/
inductive ClassStop where
  | close
  | op (o : SetOp)
deriving Repr, Inhabited

mutual
/-- The items of one operand of a class, up to a set operation (`&&`, `--` or `~~`) or past the
closing bracket; `acc` holds the items read, last first. A character followed by `-` and
another character is a range, unless that `-` starts a difference or ends the class. -/
def readUnion (verbose unicode : Bool) : Nat → List ClassItem → List Char →
    Except PatternError (List ClassItem × ClassStop × List Char)
  | 0, _, _ => .error .classUnclosed
  | fuel + 1, acc, cs =>
    match skipVerbose verbose cs with
    | [] => .error .classUnclosed
    | ']' :: rest => .ok (acc.reverse, .close, rest)
    | '&' :: '&' :: rest => .ok (acc.reverse, .op .intersection, rest)
    | '-' :: '-' :: rest => .ok (acc.reverse, .op .difference, rest)
    | '~' :: '~' :: rest => .ok (acc.reverse, .op .symmetricDifference, rest)
    | '[' :: rest =>
      let viaAscii := match rest with
        | ':' :: r => asciiClass? r
        | _ => none
      match viaAscii with
      | some (item, after) => readUnion verbose unicode fuel (item :: acc) after
      | none =>
        match readBracket verbose unicode fuel rest with
        | .ok ((item, negated), after) => readUnion verbose unicode fuel (.nested negated [item] :: acc) after
        | .error e => .error e
    | cs' =>
      match readClassAtom unicode cs' with
      | .error e => .error e
      | .ok (.item i, rest) => readUnion verbose unicode fuel (i :: acc) rest
      | .ok (.look _, _) => .error .escapeUnrecognized
      | .ok (.char lo, rest) =>
        match skipVerbose verbose rest with
        | '-' :: afterDash =>
          match skipVerbose verbose afterDash with
          | ']' :: _ | '-' :: _ => readUnion verbose unicode fuel (.range lo.toNat lo.toNat :: acc) rest
          | afterDash' =>
            match readClassAtom unicode afterDash' with
            | .ok (.char hi, after) =>
              if hi < lo then .error .classRangeInvalid
              else readUnion verbose unicode fuel (.range lo.toNat hi.toNat :: acc) after
            | .ok _ => .error .classRangeLiteral
            | .error e => .error e
        | _ => readUnion verbose unicode fuel (.range lo.toNat lo.toNat :: acc) rest

/-- The operands after a set operation, each joined to what comes before it, left to right. -/
def readOperands (verbose unicode : Bool) : Nat → ClassItem → ClassStop → List Char →
    Except PatternError (ClassItem × List Char)
  | _, lhs, .close, rest => .ok (lhs, rest)
  | 0, _, .op _, _ => .error .classUnclosed
  | fuel + 1, lhs, .op o, rest =>
    match readUnion verbose unicode fuel [] rest with
    | .ok (items, stop, after) => readOperands verbose unicode fuel (.combine o lhs (.nested false items)) stop after
    | .error e => .error e

/-- A bracketed class after its `[`: the class without its negation, and whether it is negated.
Leading dashes stand for themselves, and so does a `]` that comes first. -/
def readBracket (verbose unicode : Bool) : Nat → List Char →
    Except PatternError ((ClassItem × Bool) × List Char)
  | 0, _ => .error .classUnclosed
  | fuel + 1, cs =>
    let (negated, body) := match cs with
      | '^' :: r => (true, r)
      | r => (false, r)
    let dashes := body.takeWhile (· == '-')
    let body := body.drop dashes.length
    let (first, body) : List ClassItem × List Char :=
      if dashes.isEmpty then
        match body with
        | ']' :: r => ([.range 93 93], r)
        | r => ([], r)
      else (dashes.map fun _ => .range 45 45, body)
    match readUnion verbose unicode fuel first body with
    | .ok (items, stop, after) =>
      match readOperands verbose unicode fuel (.nested false items) stop after with
      | .ok (item, rest) => .ok ((item, negated), rest)
      | .error e => .error e
    | .error e => .error e
end

/-- A decimal number of a counted repetition; none without digits or past 4294967295. -/
def readCount (cs : List Char) : Option (Nat × List Char) :=
  let ds := cs.takeWhile Char.isDigit
  if ds.isEmpty then none
  else
    let n := ds.foldl (fun n d => n * 10 + (d.toNat - '0'.toNat)) 0
    if n < 4294967296 then some (n, cs.drop ds.length) else none

/-- The bounds of a counted repetition after `{`. -/
def readBounds (verbose : Bool) (cs : List Char) :
    Except PatternError ((Nat × Option Nat) × List Char) :=
  match readCount (skipVerbose verbose cs) with
  | none =>
    if (skipVerbose verbose cs).isEmpty then .error .repetitionCountUnclosed
    else .error .repetitionCountDecimal
  | some (lo, rest) =>
    match skipVerbose verbose rest with
    | '}' :: after => .ok ((lo, some lo), after)
    | ',' :: rest2 =>
      match skipVerbose verbose rest2 with
      | '}' :: after => .ok ((lo, none), after)
      | rest3 =>
        match readCount rest3 with
        | none => if rest3.isEmpty then .error .repetitionCountUnclosed else .error .repetitionCountDecimal
        | some (hi, rest4) =>
          match skipVerbose verbose rest4 with
          | '}' :: after =>
            if hi < lo then .error .repetitionCountInvalid else .ok ((lo, some hi), after)
          | _ => .error .repetitionCountUnclosed
    | [] => .error .repetitionCountUnclosed
    | _ => .error .repetitionCountDecimal

/-- A group name is an identifier: a letter or underscore, then letters, digits, underscores,
dots and brackets. -/
def validGroupName (name : List Char) : Bool :=
  match name with
  | [] => false
  | c :: rest =>
    (isAlphabetic c || c == '_') &&
      rest.all fun d => isAlphanumeric d || d == '_' || d == '.' || d == '[' || d == ']'

/-- Apply flag letters, `-` turning the following ones off. -/
def applyFlags (flags : Flags) : Bool → List Char → Except PatternError Flags
  | _, [] => .ok flags
  | on, c :: rest =>
    match c with
    | '-' => if !on then .error .flagUnrecognized else applyFlags flags false rest
    | 'i' => applyFlags { flags with caseless := on } on rest
    | 'm' => applyFlags { flags with multiLine := on } on rest
    | 's' => applyFlags { flags with dotAll := on } on rest
    | 'U' => applyFlags { flags with lazy := on } on rest
    | 'x' => applyFlags { flags with verbose := on } on rest
    | 'u' => applyFlags { flags with unicode := on } on rest
    | 'R' => applyFlags flags on rest
    | _ => .error .flagUnrecognized

/-- Push an item onto the current alternative. -/
def ReadState.push (s : ReadState) (r : Term) : ReadState :=
  { s with frame := { s.frame with items := r :: s.frame.items } }

/-- Open a group: the current frame goes onto the stack. -/
def ReadState.enter (s : ReadState) (f : Frame) : ReadState :=
  { s with frame := f, stack := s.frame :: s.stack }

/-- Record the number of capture groups and their names. -/
def ReadState.setGroups (s : ReadState) (n : Nat) (names : List (String × Nat)) : ReadState :=
  { s with groups := n, names := names }

/-- Set the flags in force. -/
def ReadState.setFlags (s : ReadState) (fl : Flags) : ReadState := { s with flags := fl }

/-- Replace the last item by its repetition. -/
def ReadState.repeatLast (s : ReadState) (lo : Nat) (hi : Option Nat) (lazyMark : Bool) :
    Except PatternError ReadState :=
  match s.frame.items with
  | [] => .error .repetitionMissing
  | r :: rest =>
    .ok { s with frame := { s.frame with items := .rep r lo hi (lazyMark == s.flags.lazy) :: rest } }

/-- A literal under the flags in force: caseless by simple case folding, or by ASCII case where
Unicode is off. -/
def ReadState.literalOf (s : ReadState) (c : Char) : Term :=
  if s.flags.caseless && !s.flags.unicode then .charClass [.asciiCaseless (.range c.toNat c.toNat)] false false
  else .literal c s.flags.caseless

/-- A class under the flags in force. Where Unicode is off, caseless matching is by ASCII case,
and a class that holds a character beyond ASCII could match a part of one, which is refused. -/
def ReadState.classOf (s : ReadState) (item : ClassItem) (negated : Bool) : Except PatternError Term :=
  if s.flags.unicode then .ok (.charClass [item] negated s.flags.caseless)
  else
    let item := if s.flags.caseless then .asciiCaseless item else item
    if classHolds [item] negated false beyondAscii then .error .invalidUtf8
    else .ok (.charClass [item] negated false)

/-- The reading loop; `fuel` bounds the number of steps, and every step consumes a character. -/
def readLoop : Nat → ReadState → List Char → Except PatternError ReadState
  | 0, _, _ => .error .unclosedGroup
  | fuel + 1, s, cs =>
    match skipVerbose s.flags.verbose cs with
    | [] => .ok s
    | c :: rest =>
      match c with
      | '(' =>
        match rest with
        | '?' :: more =>
          match more with
          | '=' :: _ | '!' :: _ | '<' :: '=' :: _ | '<' :: '!' :: _ => .error .lookAround
          | 'P' :: '<' :: r | '<' :: r =>
            let name := r.takeWhile (· != '>')
            match r.drop name.length with
            | '>' :: after =>
              if !validGroupName name then .error .groupNameInvalid
              else
                let nm := String.ofList name
                if s.names.any (·.1 == nm) then .error (.groupNameDuplicate nm)
                else
                  let idx := s.groups + 1
                  let frame : Frame := { opening := .capture idx, outer := s.flags }
                  let opened := (s.enter frame).setGroups idx (s.names ++ [(nm, idx)])
                  readLoop fuel opened after
            | _ => .error .groupNameUnexpectedEnd
          | _ =>
            let letters := more.takeWhile fun x => x != ':' && x != ')'
            match more.drop letters.length with
            | [] => .error .flagUnexpectedEnd
            | stop :: after =>
              if letters.getLast? == some '-' then .error .flagDanglingNegation
              else if letters.isEmpty && stop == ')' then .error .flagEmpty
              else
                match applyFlags s.flags true letters with
                | .error e => .error e
                | .ok fl =>
                  if stop == ')' then readLoop fuel { s with flags := fl } after
                  else
                    let frame : Frame := { opening := .plain, outer := s.flags }
                    readLoop fuel ((s.enter frame).setFlags fl) after
        | _ =>
          let idx := s.groups + 1
          let frame : Frame := { opening := .capture idx, outer := s.flags }
          readLoop fuel ((s.enter frame).setGroups idx s.names) rest
      | ')' =>
        match s.stack with
        | [] => .error .unopenedGroup
        | parent :: up =>
          let node := match s.frame.opening with
            | .capture i => Term.group (some i) s.frame.body
            | .plain => Term.group none s.frame.body
          let outerFrame : Frame := { parent with items := node :: parent.items }
          readLoop fuel { s with frame := outerFrame, stack := up, flags := s.frame.outer } rest
      | '|' =>
        readLoop fuel { s with frame := { s.frame with
          alts := concatOf s.frame.items :: s.frame.alts, items := [] } } rest
      | '*' | '+' | '?' =>
        let (lo, hi) : Nat × Option Nat :=
          if c == '*' then (0, none) else if c == '+' then (1, none) else (0, some 1)
        let (lazyMark, after) := match rest with
          | '?' :: r => (true, r)
          | r => (false, r)
        match s.repeatLast lo hi lazyMark with
        | .ok s' => readLoop fuel s' after
        | .error e => .error e
      | '{' =>
        if s.frame.items.isEmpty then .error .repetitionMissing
        else
          match readBounds s.flags.verbose rest with
          | .error e => .error e
          | .ok ((lo, hi), after) =>
            let (lazyMark, after') := match after with
              | '?' :: r => (true, r)
              | r => (false, r)
            match s.repeatLast lo hi lazyMark with
            | .ok s' => readLoop fuel s' after'
            | .error e => .error e
      | '[' =>
        match readBracket s.flags.verbose s.flags.unicode (rest.length + 1) rest with
        | .ok ((item, negated), after) =>
          match s.classOf item negated with
          | .ok r => readLoop fuel (s.push r) after
          | .error e => .error e
        | .error e => .error e
      | '.' =>
        if s.flags.unicode then readLoop fuel (s.push (.dot s.flags.dotAll)) rest
        else .error .invalidUtf8
      | '^' => readLoop fuel (s.push (.look (.start s.flags.multiLine))) rest
      | '$' => readLoop fuel (s.push (.look (.finish s.flags.multiLine))) rest
      | '\\' =>
        match readEscape s.flags.unicode rest with
        | .error e => .error e
        | .ok (.char ch, after) => readLoop fuel (s.push (s.literalOf ch)) after
        | .ok (.item i, after) =>
          match s.classOf i false with
          | .ok r => readLoop fuel (s.push r) after
          | .error e => .error e
        | .ok (.look l, after) => readLoop fuel (s.push (.look l)) after
      | _ =>
        match escapedChar s.flags.unicode c with
        | .ok ch => readLoop fuel (s.push (s.literalOf ch)) rest
        | .error e => .error e

/-- Read a pattern. -/
def Pattern.parse (text : String) : Except PatternError Pattern :=
  let cs := text.toList
  let start : ReadState := { frame := { opening := .plain, outer := {} } }
  match readLoop (cs.length + 1) start cs with
  | .error e => .error e
  | .ok s =>
    if s.stack.isEmpty then .ok ⟨s.frame.body, s.groups, s.names⟩
    else .error .unclosedGroup

end FeatureDocs.Regex
