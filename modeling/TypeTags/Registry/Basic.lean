import TypeTags.Assoc
import TypeTags.Declaration
import TypeTags.Diagnostic

/-!
# The registry of documented things

Every documented thing has an entry, found by its path. Entries are kept in the order in which their
paths were first registered.
-/

namespace TypeTags

/-- A documented class, module, method or accessor. -/
structure Entry where
  path : String
  name : String
  kind : ObjectKind
  nesting : List String := []
  visibility : Visibility := .open
  docstring : String := ""
  tags : List Tag := []
  superclass : Option String := none
  file : Option String := none
  line : Option Int := none
  deriving DecidableEq, Repr, Inhabited

namespace Entry

/-- The first tag with a tag name. -/
def tag? (e : Entry) (tagName : String) : Option Tag := e.tags.find? (·.tagName == tagName)

/-- All tags with a tag name, in order. -/
def tagsNamed (e : Entry) (tagName : String) : List Tag := e.tags.filter (·.tagName == tagName)

def param? (e : Entry) (name : String) : Option Tag := e.tags.find? (Tag.isParam name)

/-- Put a tag in the place of the one with the same subject, or at the end. -/
def setTag (e : Entry) (tag : Tag) : Entry := { e with tags := Tag.set e.tags tag }

def addTag (e : Entry) (tag : Tag) : Entry := { e with tags := e.tags ++ [tag] }

/-- More free text on a line of its own; empty text changes nothing. -/
def joinDocs (docstring text : String) : String :=
  if text.isEmpty then docstring
  else if docstring.isEmpty then text
  else docstring ++ "\n" ++ text

/-- The entry with more free text. -/
def appendDocstring (e : Entry) (text : String) : Entry :=
  { e with docstring := joinDocs e.docstring text }

end Entry

/-- The entries and diagnostics of source units. -/
structure Registry where
  version : String := "1.0"
  objects : Assoc Entry := []
  diagnostics : List Diagnostic := []
  deriving DecidableEq, Repr, Inhabited

namespace Registry

def at? (r : Registry) (path : String) : Option Entry := r.objects.get? path

def register (r : Registry) (e : Entry) : Registry := { r with objects := r.objects.put e.path e }

def modify (r : Registry) (path : String) (change : Entry → Entry) : Registry :=
  { r with objects := r.objects.map fun (key, e) => (key, if key = path then change e else e) }

theorem at?_register (r : Registry) (e : Entry) (path : String) :
    (r.register e).at? path = if path = e.path then some e else r.at? path :=
  Assoc.get?_put r.objects e.path e path

theorem at?_modify (r : Registry) (path : String) (change : Entry → Entry) (other : String) :
    (r.modify path change).at? other =
      if other = path then (r.at? other).map change else r.at? other := by
  unfold modify at?
  dsimp only
  induction r.objects with
  | nil => simp
  | cons p objects ih =>
    obtain ⟨key, e⟩ := p
    rw [List.map_cons, Assoc.get?_cons, Assoc.get?_cons, ih]
    by_cases hk : other = key
    · subst hk
      by_cases hp : other = path <;> simp [hp]
    · simp [hk]

def methods (r : Registry) : List Entry := r.objects.values.filter (!·.kind.isNamespace)

/-- Two registries as one; the entries of the second win. -/
def merge (r other : Registry) : Registry :=
  { version := r.version
    objects := Assoc.putAll r.objects other.objects
    diagnostics := r.diagnostics ++ other.diagnostics }

end Registry

end TypeTags
