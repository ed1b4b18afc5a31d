import TypeTags.Text.Lines

/-!
# Places in a working directory

A place is named by the names of the folders on the way to it and its own name last. The empty
location is the working directory itself.

* `Location.ofText`: the location that a text names.
* `Location.normal`: a location without steps up.
* `Location.le`: the order of places, name by name.
-/

namespace TypeTags

/-- The names on the way from the working directory to a place. -/
abbrev Location : Type := List String

namespace Location

def up : String := ".."

/-- The location that a text names, with its steps up. -/
def ofText (text : String) : Location :=
  ((Text.splitOnChar '/' text.toList).map String.ofList).filter fun name =>
    !(name == "" || name == ".")

/-- Whether a text names a place from the root of all folders. -/
def isAbsolute (text : String) : Bool := text.toList.head? == some '/'

/-- Go one step on from a place; the step up from the top stays there. -/
def go (here : Location) (name : String) : Location :=
  if name = up then here.dropLast else here ++ [name]

/-- The same place without steps up. -/
def normal (location : Location) : Location := location.foldl go []

/-- Whether steps up lead above the place that a location starts from, at the given depth. -/
def leaves (depth : Nat) : Location → Bool
  | [] => false
  | name :: rest =>
    if name = up then
      match depth with
      | 0 => true
      | depth + 1 => leaves depth rest
    else leaves (depth + 1) rest

/-- Whether a location leads above the working directory. -/
def leavesTop (location : Location) : Bool := leaves 0 location

/-- A location in words, as seen from the working directory. -/
def relativeText (location : Location) : String :=
  if location.isEmpty then "." else String.intercalate "/" location

/-- A location in words, as seen from the root of all folders. -/
def absoluteText (location : Location) : String := "/" ++ String.intercalate "/" location

/-- Whether one place comes before another, or is the same: names are compared from the first on. -/
def le (a b : Location) : Bool := !decide (b < a)

end Location

end TypeTags
