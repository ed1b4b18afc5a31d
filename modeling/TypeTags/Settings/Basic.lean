import TypeTags.Merge
import TypeTags.Schema.Models

/-!
# Settings

What a run can be told: whose return types win, which files are sources, how large they may be and
what a listing shows. Every setting has a default.

* `Settings.check`: the settings that named values give, with everything that is wrong with them.
-/

namespace TypeTags

structure Settings where
  /-- Whose return types win. -/
  mergePolicy : MergePolicy := .signature
  /-- What the names of source files look like. -/
  filePattern : String := "*.rb"
  /-- The names of folders that are left out. -/
  excludeDirs : List String := ["vendor", ".bundle", "node_modules", "tmp"]
  /-- The size of the largest file that is read. -/
  maxFileBytes : Int := 2000000
  /-- Whether listings show private members. -/
  includePrivate : Bool := true
  deriving DecidableEq, Repr, Inhabited

namespace Settings

def leastFileBytes : Int := 1024

def fieldNames : List String :=
  ["merge_policy", "file_pattern", "exclude_dirs", "max_file_bytes", "include_private"]

/-- Check named values; a setting that is not named has its default. -/
def check (members : List (String × Json)) : Checked Settings :=
  let default : Settings := {}
  Settings.mk
    <$> Checked.fieldD members "merge_policy" default.mergePolicy (Checked.choice MergePolicy.names)
    <*> Checked.fieldD members "file_pattern" default.filePattern Checked.string
    <*> Checked.fieldD members "exclude_dirs" default.excludeDirs Checked.strings
    <*> Checked.fieldD members "max_file_bytes" default.maxFileBytes
      (Checked.intFrom leastFileBytes)
    <*> Checked.fieldD members "include_private" default.includePrivate Checked.bool

def toJson (s : Settings) : Json :=
  .object [("merge_policy", .string s.mergePolicy.name), ("file_pattern", .string s.filePattern),
    ("exclude_dirs", .ofStrings s.excludeDirs), ("max_file_bytes", .int s.maxFileBytes),
    ("include_private", .bool s.includePrivate)]

end Settings

end TypeTags
