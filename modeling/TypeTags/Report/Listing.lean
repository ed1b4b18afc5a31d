import TypeTags.Registry.Basic
import TypeTags.Report.Table

/-!
# Listings

The tables of a report: documented things, the tags of one of them, and diagnostics.
-/

namespace TypeTags.Listing

def objects (entries : List Entry) : Table where
  title := some "Documented Objects"
  header := ["Path", "Kind", "Visibility", "Tags"]
  rows := entries.map fun e =>
    [e.path, e.kind.name, e.visibility.name,
      String.intercalate ", " (e.tags.map fun tag => "@" ++ tag.tagName)]

def types (types : List String) : String :=
  if types.isEmpty then "" else "[" ++ String.intercalate ", " types ++ "]"

def tags (tags : List Tag) : Table where
  header := ["Tag", "Name", "Types", "Text"]
  rows := tags.map fun tag => ["@" ++ tag.tagName, tag.name.getD "", types tag.types, tag.text]

/-- The file of a diagnostic; an empty name counts as none. -/
def file (d : Diagnostic) : String := ((d.file.filter (!·.isEmpty))).getD "<source>"

/-- The line of a diagnostic; line 0 counts as none. -/
def line (d : Diagnostic) : String :=
  match d.line with
  | some n => if n = 0 then "?" else toString n
  | none => "?"

def diagnostics (found : List Diagnostic) : Table where
  title := some "Diagnostics"
  header := ["Kind", "Location", "Message"]
  rows := found.map fun d => [d.kind.name, file d ++ ":" ++ line d, d.message]

end TypeTags.Listing
