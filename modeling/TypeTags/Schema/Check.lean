import TypeTags.Json.Shown
import TypeTags.Schema.IntegerText

/-!
# Checking JSON values

A check turns a JSON value into a value of the library or answers with everything that is wrong with
it. Flaws come in the order of the fields that are checked, each with the path to the value it is
about. Checks are lenient: numbers and truth values may also be given as strings.

* `Checked`: the answer of a check, an applicative that collects all flaws.
* `Checked.string`, `Checked.int`, `Checked.bool`, `Checked.list`, ...: checks of plain values.
* `Checked.field`, `Checked.fieldD`: checks of an object's members.
-/

namespace TypeTags

inductive FlawCause where
  | missing
  | notString
  | notList
  | notTuple
  | notDictionary
  /-- Not an object; the word names the model that the object should hold. -/
  | notModel (model : String)
  | notChoice (choices : List String)
  | notInteger
  | unreadableInteger
  | fractionalInteger
  | oversizedInteger
  | infiniteInteger
  | belowMinimum (minimum : Int)
  | notBoolean
  | unreadableBoolean
  | emptyString
  | emptyTuple
  | longPair (size : Nat)
  /-- Not an object, where a member should tell what the object is. -/
  | untaggable
  | missingTag
  | unknownTag (shown : String)
  | keyValueArity (container : String) (count : Nat)
  deriving DecidableEq, Repr

/-- Quoted words as alternatives: commas between them, and `or` before the last. -/
def alternatives (words : List String) : String :=
  match words.map (fun w => "'" ++ w ++ "'") with
  | [] => ""
  | [only] => only
  | quoted => String.intercalate ", " quoted.dropLast ++ " or " ++ quoted.getLastD ""

/-- The kinds of type expressions, as JSON names them. -/
def typeTags : List String :=
  ["simple", "nilable", "union", "generic", "tuple", "fixed_hash", "proc", "untyped"]

def FlawCause.message : FlawCause → String
  | missing => "Field required"
  | notString => "Input should be a valid string"
  | notList => "Input should be a valid list"
  | notTuple => "Input should be a valid tuple"
  | notDictionary => "Input should be a valid dictionary"
  | notModel model => "Input should be a valid dictionary or instance of " ++ model
  | notChoice choices => "Input should be " ++ alternatives choices
  | notInteger => "Input should be a valid integer"
  | unreadableInteger => "Input should be a valid integer, unable to parse string as an integer"
  | fractionalInteger => "Input should be a valid integer, got a number with a fractional part"
  | oversizedInteger => "Unable to parse input string as an integer, exceeded maximum size"
  | infiniteInteger => "Input should be a finite number"
  | belowMinimum minimum => "Input should be greater than or equal to " ++ toString minimum
  | notBoolean => "Input should be a valid boolean"
  | unreadableBoolean => "Input should be a valid boolean, unable to interpret input"
  | emptyString => "String should have at least 1 character"
  | emptyTuple => "Tuple should have at least 1 item after validation, not 0"
  | longPair size => "Tuple should have at most 2 items after validation, not " ++ toString size
  | untaggable => "Input should be a valid dictionary or object to extract fields from"
  | missingTag => "Unable to extract tag using discriminator 'kind'"
  | unknownTag shown =>
    "Input tag '" ++ shown ++ "' found using 'kind' does not match any of the expected tags: "
      ++ String.intercalate ", " (typeTags.map fun t => "'" ++ t ++ "'")
  | keyValueArity container count =>
    "Value error, " ++ container ++ " key/value collection needs 2 arguments, got "
      ++ toString count

/-- A cause with the path to the value it is about. -/
structure Flaw where
  path : List String
  cause : FlawCause
  deriving DecidableEq, Repr

/-- A flaw in words: its path, joined by dots, and its cause. -/
def Flaw.message (flaw : Flaw) : String :=
  String.intercalate "." flaw.path ++ ": " ++ flaw.cause.message

def flawsMessage (flaws : List Flaw) : String := String.intercalate "; " (flaws.map Flaw.message)

/-- The answer of a check. -/
inductive Checked (α : Type) where
  | ok (value : α)
  | bad (flaws : List Flaw)
  deriving Repr

namespace Checked

variable {α β : Type}

def flawed (cause : FlawCause) : Checked α := bad [⟨[], cause⟩]

/-- Apply a checked function to a checked value; flaws of both are kept, in order. -/
protected def seq (f : Checked (α → β)) (x : Unit → Checked α) : Checked β :=
  match f, x () with
  | ok f, ok a => ok (f a)
  | ok _, bad flaws => bad flaws
  | bad flaws, ok _ => bad flaws
  | bad flaws, bad more => bad (flaws ++ more)

instance : Applicative Checked where
  pure := ok
  seq := Checked.seq

/-- Check further what passed a check. -/
def andThen (c : Checked α) (f : α → Checked β) : Checked β :=
  match c with
  | ok a => f a
  | bad flaws => bad flaws

/-- The same answer about a value one step further down. -/
def under (step : String) : Checked α → Checked α
  | ok a => ok a
  | bad flaws => bad (flaws.map fun flaw => { flaw with path := step :: flaw.path })

def toExcept : Checked α → Except (List Flaw) α
  | ok a => .ok a
  | bad flaws => .error flaws

/-! ## Plain values -/

def string : Json → Checked String
  | .string s => ok s
  | _ => flawed .notString

def nonEmpty (v : Json) : Checked String :=
  (string v).andThen fun s => if s.isEmpty then flawed .emptyString else ok s

def optional (check : Json → Checked α) : Json → Checked (Option α)
  | .null => ok none
  | v => some <$> check v

/-- The size of the words that numbers have to fit into where they are read leniently. -/
def wordBound : Nat := Nat.pow 2 63

/-- The integer that a real number is, if it has no fraction and lies below the bound. -/
def wordOfReal? (x : Binary64) : Option Int := x.toInt?.filter fun n => n.natAbs < wordBound

/-- An integer, given as one, as a truth value, as a number without fraction or in a string. -/
def int : Json → Checked Int
  | .int n => ok n
  | .bool b => ok (if b then 1 else 0)
  | .real (.finite negative mantissa exponent) =>
    match (Binary64.finite negative mantissa exponent).toInt? with
    | some n => if n.natAbs < wordBound then ok n else flawed .oversizedInteger
    | none => flawed .fractionalInteger
  | .real _ => flawed .infiniteInteger
  | .string s =>
    match IntegerText.read s with
    | .ok n => ok n
    | .error .unreadable => flawed .unreadableInteger
    | .error .oversized => flawed .oversizedInteger
  | _ => flawed .notInteger

/-- An integer that is at least the minimum. -/
def intFrom (minimum : Int) (v : Json) : Checked Int :=
  (int v).andThen fun n => if n < minimum then flawed (.belowMinimum minimum) else ok n

def trueWords : List String := ["1", "on", "t", "true", "y", "yes"]

def falseWords : List String := ["0", "off", "f", "false", "n", "no"]

def boolOfInt (n : Int) : Checked Bool :=
  if n = 0 then ok false else if n = 1 then ok true else flawed .unreadableBoolean

/-- A truth value, given as one, as 0 or 1, or in a string. A number that does not fit a word is
not taken for a truth value at all. -/
def bool : Json → Checked Bool
  | .bool b => ok b
  | .int n => if -wordBound ≤ n ∧ n < wordBound then boolOfInt n else flawed .notBoolean
  | .real x =>
    match wordOfReal? x with
    | some n => boolOfInt n
    | none => flawed .notBoolean
  | .string s =>
    let word := s.toLower
    if word ∈ trueWords then ok true
    else if word ∈ falseWords then ok false
    else flawed .unreadableBoolean
  | _ => flawed .notBoolean

/-- One of the named choices. -/
def choice (choices : List (String × α)) : Json → Checked α
  | .string s =>
    match choices.lookup s with
    | some a => ok a
    | none => flawed (.notChoice (choices.map (·.1)))
  | _ => flawed (.notChoice (choices.map (·.1)))

/-! ## Composite values -/

def passed : Checked α → Bool
  | ok _ => true
  | bad _ => false

/-- The answers about items, taken together in order; the first has the given index. -/
def gather (index : Nat) : List (Checked α) → Checked (List α)
  | [] => ok []
  | answer :: answers =>
    List.cons <$> answer.under (toString index) <*> gather (index + 1) answers

def list (check : Json → Checked α) : Json → Checked (List α)
  | .array vs => gather 0 (vs.map check)
  | _ => flawed .notList

/-- A tuple of any size. -/
def tuple (check : Json → Checked α) : Json → Checked (List α)
  | .array vs => gather 0 (vs.map check)
  | _ => flawed .notTuple

/-- A tuple with at least one item. Only items that pass are counted, so that a tuple with none of
them has this flaw too, after those of its items. -/
def someTuple (check : Json → Checked α) : Json → Checked (List α)
  | .array vs =>
    let answers := vs.map check
    if answers.any passed then gather 0 answers
    else gather 0 answers <* (flawed .emptyTuple : Checked Unit)
  | _ => flawed .notTuple

/-- Check the members of a dictionary in order. -/
def entries (check : Json → Checked α) : List (String × Json) → Checked (List (String × α))
  | [] => ok []
  | (key, v) :: members =>
    (fun a rest => (key, a) :: rest) <$> (check v).under key <*> entries check members

def dictionary (check : Json → Checked α) : Json → Checked (List (String × α))
  | .object members => entries check members
  | _ => flawed .notDictionary

/-- The members of an object that should hold the named model. -/
def model (name : String) (check : List (String × Json) → Checked α) : Json → Checked α
  | .object members => check members
  | _ => flawed (.notModel name)

def field (members : List (String × Json)) (key : String) (check : Json → Checked α) : Checked α :=
  match Assoc.get? members key with
  | some v => (check v).under key
  | none => (flawed .missing : Checked α).under key

def fieldD (members : List (String × Json)) (key : String) (default : α)
    (check : Json → Checked α) : Checked α :=
  match Assoc.get? members key with
  | some v => (check v).under key
  | none => ok default

end Checked

end TypeTags
