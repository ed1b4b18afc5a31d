import TypeTags.Json.Basic
import TypeTags.Text.Quoted

/-!
# How messages show a JSON value

A string stands for itself, the constants are written with a capital, and inside an array or an
object every string is quoted.
-/

namespace TypeTags.Json

mutual

/-- A value as it is shown inside another. -/
def shownInside : Json → String
  | null => "None"
  | bool b => if b then "True" else "False"
  | int n => toString n
  | real x => x.text
  | string s => Text.quoted s
  | array items => "[" ++ String.intercalate ", " (shownItems items) ++ "]"
  | object members => "\x7b" ++ String.intercalate ", " (shownMembers members) ++ "\x7d"

/-- Each item of an array. -/
def shownItems : List Json → List String
  | [] => []
  | item :: items => shownInside item :: shownItems items

def shownMembers : List (String × Json) → List String
  | [] => []
  | (key, value) :: members =>
    (Text.quoted key ++ ": " ++ shownInside value) :: shownMembers members

end

/-- A value as a message shows it. -/
def shown : Json → String
  | string s => s
  | v => shownInside v

end TypeTags.Json
