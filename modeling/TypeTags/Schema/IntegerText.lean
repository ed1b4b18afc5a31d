import TypeTags.Json.Reader
import TypeTags.Text.Trim

/-!
# Integers in strings

An integer in a string is first read as it stands: digits without leading zeros, maybe after a
minus sign. If it does not read so, it is brought to that form: white space around it, a plus sign,
leading zeros, a fraction of zeros and single underscores inside it are taken away. An integer that
is too long is told apart from a text that is none.

* `IntegerText.readPlain`: the integer that a text is the plain form of.
* `IntegerText.plainForm?`: the plain form of a text.
* `IntegerText.read`: the integer in a text.
-/

namespace TypeTags.IntegerText

/-- Why no integer comes out of a text. -/
inductive Problem where
  | unreadable
  | oversized
  deriving DecidableEq, Repr

/-- The most characters of an integer, its sign included. -/
def maxLength : Nat := 4300

/-- The integer in its plain form: zero alone, or digits that start with another one, maybe after a
minus sign. Digits that are too many are told before anything that follows them. -/
def readPlain (cs : List Char) : Except Problem Int :=
  let (sign, digits) := cs.span (· == '-')
  let run := digits.takeWhile Char.isDigit
  if sign.length > 1 ∨ run.isEmpty then .error .unreadable
  else if run.head? = some '0' then
    if digits = ['0'] then .ok 0 else .error .unreadable
  else if sign.length + run.length > maxLength then .error .oversized
  else if run.length < digits.length then .error .unreadable
  else
    let n : Int := Json.digitsValue run
    .ok (if sign.isEmpty then n else -n)

/-- White space around an integer. -/
def isSpace (c : Char) : Bool := Text.isBlank c && !(0x1c ≤ c.toNat && c.toNat ≤ 0x1f)

/-- The text without white space around it. -/
def withoutSpace (cs : List Char) : List Char :=
  ((cs.dropWhile isSpace).reverse.dropWhile isSpace).reverse

/-- The text without a plus sign in front, which must not stand before a minus sign. -/
def withoutPlus? : List Char → Option (List Char)
  | '+' :: '-' :: _ => none
  | '+' :: cs => some cs
  | cs => some cs

/-- What is left after zeros and the underscores among them: the text from another digit or a minus
sign on. The character `last` before it is kept if a point follows or nothing at all. -/
def afterZeros? (last : Char) : List Char → Option (List Char)
  | [] => some [last]
  | c :: cs =>
    if c = '0' ∨ c = '_' then afterZeros? c cs
    else if c.isDigit ∨ c = '-' then some (c :: cs)
    else if c = '.' then some (last :: c :: cs)
    else none

/-- The text without leading zeros; it starts with a digit or a minus sign. -/
def withoutZeros? : List Char → Option (List Char)
  | [] => none
  | c :: cs =>
    if c = '0' then afterZeros? c cs
    else if c.isDigit ∨ c = '-' then some (c :: cs)
    else none

/-- The text without a point and the zeros, at least one, that end it. -/
def withoutZeroFraction (cs : List Char) : List Char :=
  match cs.reverse with
  | '0' :: zeros =>
    match zeros.dropWhile (· == '0') with
    | '.' :: whole => whole.reverse
    | _ => cs
  | _ => cs

/-- Whether two underscores stand side by side. -/
def hasDoubleUnderscore : List Char → Bool
  | '_' :: '_' :: _ => true
  | _ :: cs => hasDoubleUnderscore cs
  | [] => false

/-- The text without its underscores, if each of them stands alone inside it. -/
def withoutUnderscores (cs : List Char) : List Char :=
  if cs.head? = some '_' ∨ cs.getLast? = some '_' ∨ hasDoubleUnderscore cs then cs
  else cs.filter (· != '_')

/-- The plain form of a text. -/
def plainForm? (cs : List Char) : Option (List Char) := do
  let cs ← withoutPlus? (withoutSpace cs)
  let cs ← withoutZeros? cs
  return withoutUnderscores (withoutZeroFraction cs)

def read (text : String) : Except Problem Int :=
  match readPlain text.toList with
  | .error .unreadable =>
    match plainForm? text.toList with
    | some cs => readPlain cs
    | none => .error .unreadable
  | result => result

end TypeTags.IntegerText
