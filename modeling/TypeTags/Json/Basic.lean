import TypeTags.Assoc
import TypeTags.Json.Binary64

/-!
# JSON values

A JSON value keeps the order of an object's members and tells integers, which are of any size, from
numbers written with a fraction or an exponent. Integers between a value and its text have a limited
number of digits.
-/

namespace TypeTags

/-- A JSON value. -/
inductive Json where
  | null
  | bool (value : Bool)
  | int (value : Int)
  | real (value : Binary64)
  | string (value : String)
  | array (items : List Json)
  | object (members : List (String × Json))
  deriving Repr, BEq, Inhabited

namespace Json

def member? (v : Json) (key : String) : Option Json :=
  match v with
  | object members => Assoc.get? members key
  | _ => none

def ofString? : Option String → Json
  | some s => string s
  | none => null

def ofInt? : Option Int → Json
  | some n => int n
  | none => null

def ofStrings (strings : List String) : Json := array (strings.map string)

/-! ## Long integers -/

/-- The most digits of an integer that is read or written. -/
def maxDigits : Nat := 4300

/-- The complaint about an integer with too many digits, with what is said of that integer. -/
def limitMessage (about : String) : String :=
  "Exceeds the limit (" ++ toString maxDigits ++ " digits) for integer string conversion" ++ about
    ++ "; use sys.set_int_max_str_digits() to increase the limit"

end Json

end TypeTags
