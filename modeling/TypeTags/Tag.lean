/-!
# Tags

A tag is one structured line of documentation, such as `@return [String] the name`. A list of tags
is updated through `upsert` alone: the first tag of a kind is changed in its place, or a new one is
put at the end.
-/

namespace TypeTags

/-- A documentation tag. -/
structure Tag where
  /-- The word after the `@`. -/
  tagName : String
  /-- What the tag is about, for tags such as `@param`. -/
  name : Option String := none
  /-- The declared types. -/
  types : List String := []
  /-- The description. -/
  text : String := ""
  deriving DecidableEq, Repr, Inhabited

namespace Tag

/-- A tag as it is written in a comment. -/
def format (tag : Tag) : String :=
  String.intercalate " " (["@" ++ tag.tagName]
    ++ (tag.name.filter (!·.isEmpty)).toList
    ++ (if tag.types.isEmpty then [] else ["[" ++ String.intercalate ", " tag.types ++ "]"])
    ++ (if tag.text.isEmpty then [] else [tag.text]))

/-- The tag with one more line of description. -/
def extend (tag : Tag) (line : String) : Tag :=
  { tag with text := if tag.text.isEmpty then line else tag.text ++ "\n" ++ line }

/-- Whether two tags have the same tag name and are about the same thing. -/
def sameSubject (a b : Tag) : Bool := a.tagName == b.tagName && a.name == b.name

/-- Whether the tag documents the named parameter. -/
def isParam (name : String) (tag : Tag) : Bool := tag.tagName == "param" && tag.name == some name

/-- Change the first tag that fits, or put a fresh one at the end. -/
def upsert (fits : Tag → Bool) (change : Tag → Tag) (fresh : Tag) : List Tag → List Tag
  | [] => [fresh]
  | tag :: tags => if fits tag then change tag :: tags else tag :: upsert fits change fresh tags

/-- Put a tag in the place of the first one with the same subject, or at the end. -/
def set (tags : List Tag) (tag : Tag) : List Tag :=
  upsert (·.sameSubject tag) (fun _ => tag) tag tags

/-- Lay tags over others: each takes the place of one with the same subject, or the end. -/
def overlay (base extra : List Tag) : List Tag := extra.foldl set base

end Tag

end TypeTags
