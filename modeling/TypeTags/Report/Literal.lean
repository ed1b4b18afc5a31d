import TypeTags.Json.Reader
import TypeTags.Text.CharClass

/-!
# Literals

A tag of marked up text can have parameters, which are literals: numbers, texts, constants, and
tuples, sets and dictionaries of literals. Only whether a text is a literal matters here, not its
value. A text is cut into lexemes first; then a literal is read from the lexemes.

* `Literal.lexemes?`: the lexemes of a text.
* `Literal.isLiteral`: whether a text is a literal, or several with commas between them.
-/

namespace TypeTags.Literal

/-- The smallest part of a literal. -/
inductive Lexeme where
  /-- A number, maybe an imaginary one. -/
  | number (imaginary : Bool)
  /-- A quoted text, of characters or of bytes. -/
  | text (bytes : Bool)
  /-- A constant with a name. -/
  | constant
  /-- The word for the empty set. -/
  | setWord
  /-- A bracket, a comma, a colon, a sign, or the end, which is a line feed. -/
  | mark (c : Char)
  deriving DecidableEq, Repr

/-! ## Numbers -/

/-- What follows digits with single underscores between them, of which there is at least one. -/
def afterDigits? (isDigit : Char → Bool) : List Char → Option (List Char)
  | c :: cs =>
    if isDigit c then
      match cs with
      | '_' :: d :: rest =>
        if isDigit d then afterDigits? isDigit (d :: rest) else some cs
      | d :: rest => if isDigit d then afterDigits? isDigit (d :: rest) else some cs
      | [] => some []
    else none
  | [] => none

/-- What follows digits, if there are any. -/
def afterSomeDigits (cs : List Char) : List Char := (afterDigits? Char.isDigit cs).getD cs

/-- The digits of a base that is told by a letter. -/
def baseDigits? : Char → Option (Char → Bool)
  | 'x' | 'X' => some fun c => (Json.hexValue c).isSome
  | 'o' | 'O' => some fun c => '0' ≤ c && c ≤ '7'
  | 'b' | 'B' => some fun c => c == '0' || c == '1'
  | _ => none

/-- What follows an exponent, if there is one. -/
def afterExponent (cs : List Char) : List Char :=
  match cs with
  | e :: rest =>
    if e = 'e' ∨ e = 'E' then
      (afterDigits? Char.isDigit (Json.exponentSign rest).2).getD cs
    else cs
  | [] => []

/-- A decimal number: whether it is imaginary, and what follows it. Only a number with a point, an
exponent or a mark for imaginary ones may start with a zero and have another digit. -/
def decimal? (cs : List Char) : Option (Bool × List Char) :=
  let afterWhole := afterSomeDigits cs
  let afterPoint := match afterWhole with
    | '.' :: rest => afterSomeDigits rest
    | rest => rest
  let rest := afterExponent afterPoint
  match rest with
  | 'j' :: rest | 'J' :: rest => some (true, rest)
  | _ =>
    let whole := cs.take (cs.length - afterWhole.length)
    if rest.length = afterWhole.length ∧ whole.head? = some '0'
        ∧ whole.any (fun c => c != '0' && c != '_') then none
    else some (false, rest)

/-- A number: whether it is imaginary, and what follows it, which must not be a word. -/
def number? (cs : List Char) : Option (Bool × List Char) :=
  let found := match cs with
    | '0' :: letter :: rest =>
      match baseDigits? letter with
      | some isDigit =>
        let rest := match rest with
          | '_' :: rest => rest
          | rest => rest
        (afterDigits? isDigit rest).map (false, ·)
      | none => decimal? cs
    | _ => decimal? cs
  found.filter fun (_, rest) => !rest.head?.any Text.isWordChar

/-! ## Texts -/

/-- What follows a number of digits in hexadecimal, with the number that they stand for. -/
def afterHex? : Nat → Nat → List Char → Option (Nat × List Char)
  | 0, value, cs => some (value, cs)
  | count + 1, value, c :: cs =>
    (Json.hexValue c).bind fun digit => afterHex? count (value * 16 + digit) cs
  | _ + 1, _, [] => none

/-- Whether what follows a backslash is an escape: codes need all their digits. -/
def isEscape (bytes : Bool) : List Char → Bool
  | 'x' :: cs => (afterHex? 2 0 cs).isSome
  | 'u' :: cs => bytes || (afterHex? 4 0 cs).isSome
  | 'U' :: cs => bytes || (afterHex? 8 0 cs).any fun (code, _) => code ≤ 0x10ffff
  | 'N' :: cs => bytes || (cs.head? == some '\x7b' && cs.contains '\x7d')
  | _ => true

/-- What follows the closing quotes of a text, of which there are one or three. -/
def afterText? (quote : Char) (triple raw bytes : Bool) : List Char → Option (List Char)
  | [] => none
  | '\\' :: c :: cs =>
    if (bytes && c.toNat ≥ 128) || (!raw && !isEscape bytes (c :: cs)) then none
    else afterText? quote triple raw bytes cs
  | c :: cs =>
    if c = quote then
      if !triple then some cs
      else if cs.take 2 = [quote, quote] then some (cs.drop 2)
      else afterText? quote triple raw bytes cs
    else if (c = '\n' ∧ !triple) ∨ (bytes ∧ c.toNat ≥ 128) then none
    else afterText? quote triple raw bytes cs

/-- The letters before a text that tell how it is read: whether escapes are kept, and whether it is
made of bytes. -/
def textLetters? (letters : List Char) : Option (Bool × Bool) :=
  match letters.map Char.toLower with
  | [] | ['u'] => some (false, false)
  | ['r'] => some (true, false)
  | ['b'] => some (false, true)
  | ['b', 'r'] | ['r', 'b'] => some (true, true)
  | _ => none

/-- A quoted text after its letters: whether it is made of bytes, and what follows it. -/
def text? (letters : List Char) (quote : Char) (cs : List Char) : Option (Bool × List Char) := do
  let (raw, bytes) ← textLetters? letters
  let triple := cs.take 2 = [quote, quote]
  let rest ← afterText? quote triple raw bytes (if triple then cs.drop 2 else cs)
  return (bytes, rest)

/-! ## Lexemes -/

def isQuote (c : Char) : Bool := c == '\'' || c == '"'

/-- A lexeme that starts with a word, and what follows it. -/
def wordLexeme? (cs : List Char) : Option (Lexeme × List Char) :=
  let (word, rest) := cs.span Text.isWordChar
  match rest with
  | c :: inside =>
    if isQuote c then (text? word c inside).map fun (bytes, rest) => (.text bytes, rest)
    else named (String.ofList word) rest
  | [] => named (String.ofList word) rest
where
  /-- The lexeme that a word is. -/
  named (word : String) (rest : List Char) : Option (Lexeme × List Char) :=
    if word ∈ ["None", "True", "False"] then some (.constant, rest)
    else if word = "set" then some (.setWord, rest)
    else none

/-- The marks. -/
def marks : List Char := ['(', ')', '\x7b', '\x7d', ',', ':', '+', '-']

/-- How many brackets are open after a mark. -/
def depthAfter (depth : Nat) (c : Char) : Nat :=
  if c = '(' ∨ c = '\x7b' then depth + 1
  else if c = ')' ∨ c = '\x7d' then depth - 1
  else depth

/-- The lexeme that a text starts with, and what follows it. -/
def lexeme? : List Char → Option (Lexeme × List Char)
  | [] => none
  | '.' :: '.' :: '.' :: cs => some (.constant, cs)
  | c :: cs =>
    if c ∈ marks then some (.mark c, cs)
    else if c.isDigit ∨ (c = '.' ∧ cs.head?.any Char.isDigit) then
      (number? (c :: cs)).map fun (imaginary, rest) => (.number imaginary, rest)
    else wordLexeme? (c :: cs)

/-- The lexemes of a text of at most `n` characters, with the end; `depth` brackets are open before
it. Lines end only outside of brackets, and nothing may follow such an end. -/
def lexemesFrom? : Nat → Nat → List Char → Option (List Lexeme)
  | 0, _, cs => if cs.isEmpty then some [.mark '\n'] else none
  | _ + 1, _, [] => some [.mark '\n']
  | n + 1, depth, c :: cs =>
    if c = ' ' ∨ c = '\t' ∨ c = '\x0c' then lexemesFrom? n depth cs
    else if c = '#' then lexemesFrom? n depth (cs.dropWhile (· != '\n'))
    else if c = '\\' ∧ cs.head? = some '\n' then lexemesFrom? n depth cs.tail
    else if c = '\n' then
      (lexemesFrom? n depth cs).filter fun rest => depth > 0 || rest == [.mark '\n']
    else do
      let (lexeme, rest) ← lexeme? (c :: cs)
      let depth := match lexeme with
        | .mark c => depthAfter depth c
        | _ => depth
      return lexeme :: (← lexemesFrom? n depth rest)

def lexemes? (cs : List Char) : Option (List Lexeme) := lexemesFrom? cs.length 0 cs

/-! ## Values -/

/-- What matters about a value where it stands in another one. -/
inductive Value where
  | real
  | imaginary
  /-- A real number after a sign. -/
  | signedReal
  /-- Any other value that can be a key. -/
  | key
  /-- A value that cannot be a key. -/
  | keyless
  deriving DecidableEq, Repr

/-- How values are read: a value and what follows it. -/
abbrev Reader : Type := List Lexeme → Option (Value × List Lexeme)

/-- Values with commas between them, up to the closing mark: the values, whether there is a comma,
and what follows. -/
def items? (value : Reader) (close : Char) :
    Nat → List Lexeme → Option (List Value × Bool × List Lexeme)
  | 0, _ => none
  | n + 1, lexemes => do
    let (v, rest) ← value lexemes
    match rest with
    | .mark c :: rest =>
      if c = close then some ([v], false, rest)
      else if c = ',' then
        if rest.head? = some (.mark close) then some ([v], true, rest.tail)
        else do
          let (vs, _, rest) ← items? value close n rest
          some (v :: vs, true, rest)
      else none
    | _ => none

/-- The rest of a dictionary after the colon of an entry with the given key. -/
def entries? (value : Reader) : Nat → Value → List Lexeme → Option (List Lexeme)
  | 0, _, _ => none
  | n + 1, own, lexemes =>
    if own = .keyless then none
    else do
      let (_, rest) ← value lexemes
      match rest with
      | .mark '\x7d' :: rest | .mark ',' :: .mark '\x7d' :: rest => some rest
      | .mark ',' :: rest => do
        let (next, rest) ← value rest
        match rest with
        | .mark ':' :: rest => entries? value n next rest
        | _ => none
      | _ => none

/-- What follows a set or a dictionary that is not empty, after the opening brace. -/
def braced? (value : Reader) (n : Nat) (lexemes : List Lexeme) : Option (List Lexeme) := do
  let (first, rest) ← value lexemes
  match rest with
  | .mark ':' :: rest => entries? value n first rest
  | .mark '\x7d' :: rest | .mark ',' :: .mark '\x7d' :: rest =>
    if first = .keyless then none else some rest
  | .mark ',' :: rest => do
    let (more, _, rest) ← items? value '\x7d' n rest
    if .keyless ∈ first :: more then none else some rest
  | _ => none

/-- What values make as a tuple. -/
def tuple (values : List Value) : Value := if .keyless ∈ values then .keyless else .key

/-- What follows further texts of the same kind. -/
def afterTexts? (bytes : Bool) : List Lexeme → Option (List Lexeme)
  | .text more :: rest => if more = bytes then afterTexts? bytes rest else none
  | rest => some rest

/-- A value without a sign in front. -/
def atom? (value : Reader) (n : Nat) : Reader
  | .number imaginary :: rest => some (if imaginary then .imaginary else .real, rest)
  | .constant :: rest => some (.key, rest)
  | .text bytes :: rest => (afterTexts? bytes rest).map (.key, ·)
  | .setWord :: .mark '(' :: .mark ')' :: rest => some (.keyless, rest)
  | .mark '(' :: .mark ')' :: rest => some (.key, rest)
  | .mark '(' :: rest =>
    match items? value ')' n rest with
    | some ([v], false, rest) => some (v, rest)
    | some (vs, _, rest) => some (tuple vs, rest)
    | none => none
  | .mark '\x7b' :: .mark '\x7d' :: rest => some (.keyless, rest)
  | .mark '\x7b' :: rest => (braced? value n rest).map (.keyless, ·)
  | _ => none

/-- A number after its sign. -/
def signed : Value → Option Value
  | .real => some .signedReal
  | .imaginary => some .key
  | _ => none

/-- A value: a number may have a sign, and an imaginary number may be added to a real one or taken
from it. -/
def value? : Nat → Reader
  | 0, _ => none
  | n + 1, lexemes => do
    let atom := atom? (value? n) n
    let (left, rest) ← match lexemes with
      | .mark '+' :: rest | .mark '-' :: rest => do
        let (v, rest) ← atom rest
        some (← signed v, rest)
      | _ => atom lexemes
    match rest with
    | .mark '+' :: rest | .mark '-' :: rest =>
      match left, atom rest with
      | .real, some (.imaginary, rest) | .signedReal, some (.imaginary, rest) => some (.key, rest)
      | _, _ => none
    | _ => some (left, rest)

/-- Whether a text is a literal, or several with commas between them. -/
def isLiteral (cs : List Char) : Bool :=
  match lexemes? cs with
  | some lexemes =>
    let n := lexemes.length
    (items? (value? n) '\n' n lexemes).any fun (_, _, rest) => rest.isEmpty
  | none => false

end TypeTags.Literal
