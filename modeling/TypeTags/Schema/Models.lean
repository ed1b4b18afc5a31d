import TypeTags.Registry.Basic
import TypeTags.Schema.Check

/-!
# Tags, declarations and registries as JSON

For each kind of value: how it is written as a JSON object, with all of its fields in order, and how
an object is checked to hold one.
-/

namespace TypeTags

def Checked.strings : Json → Checked (List String) := Checked.list Checked.string

def Checked.string? : Json → Checked (Option String) := Checked.optional Checked.string

namespace Tag

def toJson (tag : Tag) : Json :=
  .object [("tag_name", .string tag.tagName), ("name", .ofString? tag.name),
    ("types", .ofStrings tag.types), ("text", .string tag.text)]

def check : Json → Checked Tag :=
  Checked.model "TagEntry" fun members =>
    Tag.mk <$> Checked.field members "tag_name" Checked.string
      <*> Checked.fieldD members "name" none Checked.string?
      <*> Checked.fieldD members "types" [] Checked.strings
      <*> Checked.fieldD members "text" "" Checked.string

end Tag

namespace Diagnostic

def toJson (d : Diagnostic) : Json :=
  .object [("kind", .string d.kind.name), ("message", .string d.message),
    ("file", .ofString? d.file), ("line", .ofInt? d.line)]

def check : Json → Checked Diagnostic :=
  Checked.model "Diagnostic" fun members =>
    Diagnostic.mk <$> Checked.field members "kind" (Checked.choice DiagnosticKind.names)
      <*> Checked.field members "message" Checked.string
      <*> Checked.fieldD members "file" none Checked.string?
      <*> Checked.fieldD members "line" none (Checked.optional Checked.int)

end Diagnostic

namespace Declaration

def toJson (d : Declaration) : Json :=
  .object [("kind", .string d.kind.name), ("namespace", .ofStrings d.nesting),
    ("name", .string d.name), ("names", .ofStrings d.names),
    ("accessor_mode", .ofString? (d.accessorMode.map AccessorMode.name)),
    ("class_level", .bool d.classLevel), ("visibility", .string d.visibility.name),
    ("preceding_text", .string d.precedingText), ("source", .string d.source),
    ("preceding_line", .int d.precedingLine), ("line", .int d.line),
    ("superclass", .ofString? d.superclass), ("file", .ofString? d.file),
    ("explicit_tags", .array (d.explicitTags.map Tag.toJson))]

/-- Check a declaration; lines count from 1. -/
def check : Json → Checked Declaration :=
  Checked.model "DeclarationEvent" fun members =>
    Declaration.mk <$> Checked.field members "kind" (Checked.choice DeclarationKind.names)
      <*> Checked.fieldD members "namespace" [] Checked.strings
      <*> Checked.fieldD members "name" "" Checked.string
      <*> Checked.fieldD members "names" [] Checked.strings
      <*> Checked.fieldD members "accessor_mode" none
        (Checked.optional (Checked.choice AccessorMode.names))
      <*> Checked.fieldD members "class_level" false Checked.bool
      <*> Checked.fieldD members "visibility" .open (Checked.choice Visibility.names)
      <*> Checked.fieldD members "preceding_text" "" Checked.string
      <*> Checked.fieldD members "source" "" Checked.string
      <*> Checked.fieldD members "preceding_line" 1 (Checked.intFrom 1)
      <*> Checked.fieldD members "line" 1 (Checked.intFrom 1)
      <*> Checked.fieldD members "superclass" none Checked.string?
      <*> Checked.fieldD members "file" none Checked.string?
      <*> Checked.fieldD members "explicit_tags" [] (Checked.list Tag.check)

end Declaration

namespace Target

def members (t : Target) : List (String × Json) :=
  [("kind", .string t.kind.name), ("namespace", .ofStrings t.nesting), ("name", .string t.name),
   ("class_level", .bool t.classLevel), ("visibility", .string t.visibility.name),
   ("explicit_tags", .array (t.explicitTags.map Tag.toJson))]

def check : Json → Checked Target :=
  Checked.model "DeclarationTarget" fun members =>
    Target.mk <$> Checked.field members "kind" (Checked.choice ObjectKind.names)
      <*> Checked.fieldD members "namespace" [] Checked.strings
      <*> Checked.field members "name" Checked.string
      <*> Checked.fieldD members "class_level" false Checked.bool
      <*> Checked.fieldD members "visibility" .open (Checked.choice Visibility.names)
      <*> Checked.fieldD members "explicit_tags" [] (Checked.list Tag.check)

end Target

namespace Entry

def toJson (e : Entry) : Json :=
  .object [("path", .string e.path), ("name", .string e.name), ("kind", .string e.kind.name),
    ("namespace", .ofStrings e.nesting), ("visibility", .string e.visibility.name),
    ("docstring", .string e.docstring), ("tags", .array (e.tags.map Tag.toJson)),
    ("superclass", .ofString? e.superclass), ("file", .ofString? e.file),
    ("line", .ofInt? e.line)]

def check : Json → Checked Entry :=
  Checked.model "DocumentedObject" fun members =>
    Entry.mk <$> Checked.field members "path" Checked.string
      <*> Checked.field members "name" Checked.string
      <*> Checked.field members "kind" (Checked.choice ObjectKind.names)
      <*> Checked.fieldD members "namespace" [] Checked.strings
      <*> Checked.fieldD members "visibility" .open (Checked.choice Visibility.names)
      <*> Checked.fieldD members "docstring" "" Checked.string
      <*> Checked.fieldD members "tags" [] (Checked.list Tag.check)
      <*> Checked.fieldD members "superclass" none Checked.string?
      <*> Checked.fieldD members "file" none Checked.string?
      <*> Checked.fieldD members "line" none (Checked.optional Checked.int)

end Entry

namespace Registry

def toJson (r : Registry) : Json :=
  .object [("version", .string r.version),
    ("objects", .object (r.objects.map fun (path, e) => (path, e.toJson))),
    ("diagnostics", .array (r.diagnostics.map Diagnostic.toJson))]

def check : Json → Checked Registry :=
  Checked.model "Registry" fun members =>
    Registry.mk <$> Checked.fieldD members "version" "1.0" Checked.string
      <*> Checked.fieldD members "objects" [] (Checked.dictionary Entry.check)
      <*> Checked.fieldD members "diagnostics" [] (Checked.list Diagnostic.check)

end Registry

end TypeTags
