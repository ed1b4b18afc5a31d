/-!
# Paths of documented things

A namespace is a list of names and is written with double colons between them. A member's path puts
`#` between the namespace and the name of an instance member, and `.` for a class member.
-/

namespace TypeTags.Path

/-- A namespace as text. -/
def join (names : List String) : String := String.intercalate "::" names

/-- The pieces of a text between double colons, read from the left. -/
def splitScopes : List Char → List (List Char)
  | [] => [[]]
  | ':' :: ':' :: cs => [] :: splitScopes cs
  | c :: cs =>
    match splitScopes cs with
    | [] => [[c]]
    | piece :: pieces => (c :: piece) :: pieces

/-- The names in a constant path; empty ones, such as that before a leading double colon, are left
out. -/
def split (name : String) : List String :=
  ((splitScopes name.toList).filter (!·.isEmpty)).map String.ofList

def member (nesting : List String) (name : String) (classLevel : Bool) : String :=
  join nesting ++ (if classLevel then "." else "#") ++ name

def isRooted (name : String) : Bool :=
  match name.toList with
  | ':' :: ':' :: _ => true
  | _ => false

/-- The namespace that a class or module name means inside another namespace. -/
def nested (nesting : List String) (name : String) : List String :=
  if isRooted name then split name else nesting ++ split name

end TypeTags.Path
