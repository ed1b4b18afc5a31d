import TypeTags.Json.Basic
import TypeTags.Text.Quoted

/-!
# Writing JSON

A value is written either on lines, each level indented by two more spaces, or on one line without
any space. Empty arrays and objects take no line of their own. Strings are written as they are but
for the quote, the backslash and the characters below the space. A value with an integer of too many
digits is not written at all.

* `Json.write`: the text of a value in a layout.
* `Json.dump?`: the text of a value on lines, if it is written.
-/

namespace TypeTags.Json

/-- How a value is laid out. -/
structure Layout where
  /-- What stands before an item at the given depth. -/
  lineBreak : Nat → List Char
  /-- What stands between a name and its value. -/
  colon : List Char

/-- On lines, indented by two spaces a level. -/
def Layout.indented : Layout where
  lineBreak depth := '\n' :: List.replicate (2 * depth) ' '
  colon := [':', ' ']

def Layout.compact : Layout where
  lineBreak _ := []
  colon := [':']

/-- A character inside a JSON string. -/
def escapedChar (c : Char) : List Char :=
  if c = '"' then ['\\', '"']
  else if c = '\\' then ['\\', '\\']
  else if c = '\n' then ['\\', 'n']
  else if c = '\r' then ['\\', 'r']
  else if c = '\t' then ['\\', 't']
  else if c = '\x08' then ['\\', 'b']
  else if c = '\x0c' then ['\\', 'f']
  else if c.toNat < 0x20 then '\\' :: 'u' :: Text.hexDigits 4 c.toNat
  else [c]

def writeString (s : String) : List Char :=
  '"' :: s.toList.flatMap escapedChar ++ ['"']

def writeInt (n : Int) : List Char :=
  if n < 0 then '-' :: Nat.toDigits 10 n.natAbs else Nat.toDigits 10 n.natAbs

/-- A number that is not an integer. -/
def writeReal : Binary64 → List Char
  | .nan => "NaN".toList
  | .infinite negative => if negative then "-Infinity".toList else "Infinity".toList
  | x => x.text.toList

mutual

/-- The text of a value that stands at the given depth. -/
def write (layout : Layout) (depth : Nat) : Json → List Char
  | null => ['n', 'u', 'l', 'l']
  | bool true => ['t', 'r', 'u', 'e']
  | bool false => ['f', 'a', 'l', 's', 'e']
  | int n => writeInt n
  | real x => writeReal x
  | string s => writeString s
  | array [] => ['[', ']']
  | array (item :: items) =>
    '[' :: layout.lineBreak (depth + 1) ++ write layout (depth + 1) item
      ++ writeItems layout (depth + 1) items ++ layout.lineBreak depth ++ [']']
  | object [] => ['\x7b', '\x7d']
  | object ((key, value) :: members) =>
    '\x7b' :: layout.lineBreak (depth + 1) ++ writeString key ++ layout.colon
      ++ write layout (depth + 1) value ++ writeMembers layout (depth + 1) members
      ++ layout.lineBreak depth ++ ['\x7d']

/-- The further items of an array, each after a comma. -/
def writeItems (layout : Layout) (depth : Nat) : List Json → List Char
  | [] => []
  | item :: items =>
    ',' :: layout.lineBreak depth ++ write layout depth item ++ writeItems layout depth items

/-- The further members of an object, each after a comma. -/
def writeMembers (layout : Layout) (depth : Nat) : List (String × Json) → List Char
  | [] => []
  | (key, value) :: members =>
    ',' :: layout.lineBreak depth ++ writeString key ++ layout.colon ++ write layout depth value
      ++ writeMembers layout depth members

end

/-- The text of a value on lines. -/
def pretty (v : Json) : String := String.ofList (write .indented 0 v)

/-- The text of a value on one line. -/
def compact (v : Json) : String := String.ofList (write .compact 0 v)

mutual

/-- Whether no integer in a value has too many digits. -/
def writable : Json → Bool
  | int n => (Nat.toDigits 10 n.natAbs).length ≤ maxDigits
  | array items => writableItems items
  | object members => writableMembers members
  | null | bool _ | real _ | string _ => true

def writableItems : List Json → Bool
  | [] => true
  | item :: items => writable item && writableItems items

def writableMembers : List (String × Json) → Bool
  | [] => true
  | (_, value) :: members => writable value && writableMembers members

end

/-- The text of a value on lines, unless one of its integers has too many digits. -/
def dump? (v : Json) : Option String := if v.writable then some v.pretty else none

end TypeTags.Json
