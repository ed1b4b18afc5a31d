import TypeTags.Json.Basic

/-!
# Reading JSON

A reader answers with a value and the text after it, or with a problem and how much of the text was
left where it was found; the offset, line and column of the problem follow from that. Each level of
nesting takes at least one character, so that the length of the text bounds the depth.

Besides the standard grammar, `NaN`, `Infinity` and `-Infinity` are values. A member given twice
keeps its first place and its last value.

* `Json.parse`: read a whole text.
-/

namespace TypeTags.Json

inductive Problem where
  | expectingValue
  | expectingName
  | expectingColon
  | expectingComma
  | extraData
  | unterminatedString
  | invalidControl
  | invalidEscape
  | invalidCodeEscape
  | byteOrderMark
  /-- An integer has more digits than are read. -/
  | longInteger (digits : Nat)
  deriving DecidableEq, Repr

def Problem.message : Problem → String
  | expectingValue => "Expecting value"
  | expectingName => "Expecting property name enclosed in double quotes"
  | expectingColon => "Expecting ':' delimiter"
  | expectingComma => "Expecting ',' delimiter"
  | extraData => "Extra data"
  | unterminatedString => "Unterminated string starting at"
  | invalidControl => "Invalid control character at"
  | invalidEscape => "Invalid \\escape"
  | invalidCodeEscape => "Invalid \\uXXXX escape"
  | byteOrderMark => "Unexpected UTF-8 BOM (decode using utf-8-sig)"
  | longInteger digits => limitMessage (": value has " ++ toString digits ++ " digits")

/-- A problem with the number of characters from it to the end of the text. -/
structure Stop where
  problem : Problem
  left : Nat
  deriving DecidableEq, Repr

/-- A character between the parts of a JSON text. -/
def isSpace (c : Char) : Bool := c == ' ' || c == '\t' || c == '\n' || c == '\r'

/-- The text after its leading space. -/
def skipSpace (cs : List Char) : List Char := cs.dropWhile isSpace

/-- The character that a letter stands for after a backslash. -/
def letterEscape : Char → Option Char
  | '"' => some '"'
  | '\\' => some '\\'
  | '/' => some '/'
  | 'b' => some '\x08'
  | 'f' => some '\x0c'
  | 'n' => some '\n'
  | 'r' => some '\r'
  | 't' => some '\t'
  | _ => none

def hexValue (c : Char) : Option Nat :=
  if '0' ≤ c ∧ c ≤ '9' then some (c.toNat - '0'.toNat)
  else if 'a' ≤ c ∧ c ≤ 'f' then some (c.toNat - 'a'.toNat + 10)
  else if 'A' ≤ c ∧ c ≤ 'F' then some (c.toNat - 'A'.toNat + 10)
  else none

/-- The code of four hexadecimal digits. -/
def codeUnit (a b c d : Char) : Option Nat := do
  let a ← hexValue a
  let b ← hexValue b
  let c ← hexValue c
  let d ← hexValue d
  return ((a * 16 + b) * 16 + c) * 16 + d

/-- Put a code before those of the rest. -/
def consCode (code : Nat) : Except Stop (List Nat × List Char) → Except Stop (List Nat × List Char)
  | .ok (codes, rest) => .ok (code :: codes, rest)
  | .error stop => .error stop

/-- Read a string after its opening quote, up to and with the closing one, as codes of which a pair
may stand for one character. `opening` is what is left from the opening quote on. -/
def stringCodes (opening : Nat) : List Char → Except Stop (List Nat × List Char)
  | [] => .error ⟨.unterminatedString, opening⟩
  | '"' :: rest => .ok ([], rest)
  | '\\' :: 'u' :: a :: b :: c :: d :: e :: rest =>
    match codeUnit a b c d with
    | some code => consCode code (stringCodes opening (e :: rest))
    | none => .error ⟨.invalidCodeEscape, rest.length + 6⟩
  | '\\' :: 'u' :: rest => .error ⟨.invalidCodeEscape, rest.length + 1⟩
  | ['\\'] => .error ⟨.unterminatedString, opening⟩
  | '\\' :: letter :: rest =>
    match letterEscape letter with
    | some c => consCode c.toNat (stringCodes opening rest)
    | none => .error ⟨.invalidEscape, rest.length + 2⟩
  | c :: rest =>
    if c.toNat < 0x20 then .error ⟨.invalidControl, rest.length + 1⟩
    else consCode c.toNat (stringCodes opening rest)

/-- Whether a code is the first of a pair. -/
def isHighHalf (code : Nat) : Bool := 0xd800 ≤ code && code < 0xdc00

/-- Whether a code is the second of a pair. -/
def isLowHalf (code : Nat) : Bool := 0xdc00 ≤ code && code < 0xe000

/-- The character of a code; half a pair alone is replaced. -/
def codeChar (code : Nat) : Char :=
  if 0xd800 ≤ code ∧ code < 0xe000 then '\ufffd' else Char.ofNat code

/-- The characters of codes, pairs joined. -/
def joinPairs : List Nat → List Char
  | [] => []
  | [code] => [codeChar code]
  | high :: low :: codes =>
    if isHighHalf high && isLowHalf low then
      codeChar (0x10000 + (high - 0xd800) * 0x400 + (low - 0xdc00)) :: joinPairs codes
    else codeChar high :: joinPairs (low :: codes)

/-- Read a string after its opening quote. -/
def readString (rest : List Char) : Except Stop (String × List Char) :=
  match stringCodes (rest.length + 1) rest with
  | .ok (codes, rest) => .ok (String.ofList (joinPairs codes), rest)
  | .error stop => .error stop

/-- The number that decimal digits stand for. -/
def digitsValue (digits : List Char) : Nat :=
  digits.foldl (fun n c => n * 10 + (c.toNat - '0'.toNat)) 0

/-- The digits of an integer: a zero alone, or digits that do not start with a zero. -/
def integerDigits : List Char → List Char × List Char
  | '0' :: rest => (['0'], rest)
  | cs => (cs.takeWhile Char.isDigit, cs.dropWhile Char.isDigit)

/-- The digits of a fraction after its point; none if no digit follows the point. -/
def fractionDigits : List Char → List Char × List Char
  | '.' :: c :: rest =>
    if c.isDigit then (c :: rest.takeWhile Char.isDigit, rest.dropWhile Char.isDigit)
    else ([], '.' :: c :: rest)
  | cs => ([], cs)

/-- The sign in front of an exponent's digits. -/
def exponentSign : List Char → Bool × List Char
  | '-' :: rest => (true, rest)
  | '+' :: rest => (false, rest)
  | cs => (false, cs)

def exponent? : List Char → Option (Int × List Char)
  | e :: rest =>
    if e = 'e' ∨ e = 'E' then
      let (negative, rest) := exponentSign rest
      match rest.takeWhile Char.isDigit with
      | [] => none
      | digits =>
        let n : Int := digitsValue digits
        some (if negative then -n else n, rest.dropWhile Char.isDigit)
    else none
  | [] => none

/-- Read a number, whose sign is already read. `stop` is the answer if there is none. -/
def readNumber (negative : Bool) (stop : Stop) (cs : List Char) : Except Stop (Json × List Char) :=
  match integerDigits cs with
  | ([], _) => .error stop
  | (whole, rest) =>
    let (fraction, rest) := fractionDigits rest
    let exponent := exponent? rest
    if fraction.isEmpty ∧ exponent.isNone then
      if whole.length > maxDigits then .error ⟨.longInteger whole.length, cs.length⟩
      else
        let n : Int := digitsValue whole
        .ok (.int (if negative then -n else n), rest)
    else
      let (power, rest) := exponent.getD (0, rest)
      .ok (.real (.ofDecimal negative (digitsValue (whole ++ fraction)) (power - fraction.length)),
        rest)

/-- Read a value that is neither a string nor nested. -/
def readScalar : List Char → Except Stop (Json × List Char)
  | 'n' :: 'u' :: 'l' :: 'l' :: rest => .ok (.null, rest)
  | 't' :: 'r' :: 'u' :: 'e' :: rest => .ok (.bool true, rest)
  | 'f' :: 'a' :: 'l' :: 's' :: 'e' :: rest => .ok (.bool false, rest)
  | 'N' :: 'a' :: 'N' :: rest => .ok (.real .nan, rest)
  | 'I' :: 'n' :: 'f' :: 'i' :: 'n' :: 'i' :: 't' :: 'y' :: rest =>
    .ok (.real (.infinite false), rest)
  | '-' :: 'I' :: 'n' :: 'f' :: 'i' :: 'n' :: 'i' :: 't' :: 'y' :: rest =>
    .ok (.real (.infinite true), rest)
  | '-' :: rest => readNumber true ⟨.expectingValue, rest.length + 1⟩ rest
  | cs => readNumber false ⟨.expectingValue, cs.length⟩ cs

/-- Read the items of an array from the first on, up to and with the closing bracket. -/
def readItems (value : List Char → Except Stop (Json × List Char)) :
    Nat → List Char → Except Stop (List Json × List Char)
  | 0, cs => .error ⟨.expectingValue, cs.length⟩
  | n + 1, cs => do
    let (item, rest) ← value cs
    match skipSpace rest with
    | ']' :: rest => return ([item], rest)
    | ',' :: rest =>
      let (items, rest) ← readItems value n (skipSpace rest)
      return (item :: items, rest)
    | rest => throw ⟨.expectingComma, rest.length⟩

/-- Read the members of an object from the first on, up to and with the closing brace. -/
def readMembers (value : List Char → Except Stop (Json × List Char)) :
    Nat → List Char → Except Stop (List (String × Json) × List Char)
  | n + 1, '"' :: cs => do
    let (key, rest) ← readString cs
    match skipSpace rest with
    | ':' :: rest =>
      let (item, rest) ← value (skipSpace rest)
      match skipSpace rest with
      | '\x7d' :: rest => return ([(key, item)], rest)
      | ',' :: rest =>
        let (members, rest) ← readMembers value n (skipSpace rest)
        return ((key, item) :: members, rest)
      | rest => throw ⟨.expectingComma, rest.length⟩
    | rest => throw ⟨.expectingColon, rest.length⟩
  | _, cs => .error ⟨.expectingName, cs.length⟩

/-- Read a value in a text of at most `n` characters. -/
def readValue : Nat → List Char → Except Stop (Json × List Char)
  | 0, cs => .error ⟨.expectingValue, cs.length⟩
  | _ + 1, '"' :: cs => do
    let (s, rest) ← readString cs
    return (.string s, rest)
  | n + 1, '[' :: cs =>
    match skipSpace cs with
    | ']' :: rest => .ok (.array [], rest)
    | rest => do
      let (items, rest) ← readItems (readValue n) n rest
      return (.array items, rest)
  | n + 1, '\x7b' :: cs =>
    match skipSpace cs with
    | '\x7d' :: rest => .ok (.object [], rest)
    | rest => do
      let (members, rest) ← readMembers (readValue n) n rest
      return (.object (Assoc.putAll [] members), rest)
  | _ + 1, cs => readScalar cs

def readText (cs : List Char) : Except Stop Json :=
  match cs with
  | '\ufeff' :: _ => .error ⟨.byteOrderMark, cs.length⟩
  | _ => do
    let (v, rest) ← readValue cs.length (skipSpace cs)
    match skipSpace rest with
    | [] => return v
    | extra => throw ⟨.extraData, extra.length⟩

structure Fault where
  problem : Problem
  line : Nat
  column : Nat
  deriving DecidableEq, Repr

/-- Where a reading stopped in a text: the line and the column, both counted from 1. -/
def Stop.locate (stop : Stop) (cs : List Char) : Fault :=
  let before := cs.take (cs.length - stop.left)
  { problem := stop.problem
    line := before.count '\n' + 1
    column := (before.reverse.takeWhile (· != '\n')).length + 1 }

/-- Read a text that is exactly one value. -/
def parse (text : String) : Except Fault Json :=
  let cs := text.toList
  match readText cs with
  | .ok v => .ok v
  | .error stop => .error (stop.locate cs)

end TypeTags.Json
