import TypeTags.Path
import TypeTags.Tag

/-!
# Declarations and their targets

A declaration is met in source order: a method, an accessor directive, a class or module, or a
signature block that stands by itself. It documents targets: one for a method, a getter and a setter
for each name of an accessor directive.

* `Declaration.targets`: the targets of a declaration.
-/

namespace TypeTags

/-- Who may call a member. -/
inductive Visibility where
  | open
  | guarded
  | hidden
  deriving DecidableEq, Repr, Inhabited

def Visibility.names : List (String × Visibility) :=
  [("public", .open), ("protected", .guarded), ("private", .hidden)]

def Visibility.name : Visibility → String
  | .open => "public"
  | .guarded => "protected"
  | .hidden => "private"

inductive DeclarationKind where
  | method
  | singletonMethod
  | attribute
  | classBody
  | moduleBody
  /-- A signature block met as a construct of its own. -/
  | signature
  deriving DecidableEq, Repr, Inhabited

def DeclarationKind.names : List (String × DeclarationKind) :=
  [("method", .method), ("singleton_method", .singletonMethod), ("attribute", .attribute),
   ("class", .classBody), ("module", .moduleBody), ("signature", .signature)]

def DeclarationKind.name : DeclarationKind → String
  | .method => "method"
  | .singletonMethod => "singleton_method"
  | .attribute => "attribute"
  | .classBody => "class"
  | .moduleBody => "module"
  | .signature => "signature"

def DeclarationKind.isNamespace : DeclarationKind → Bool
  | .classBody | .moduleBody => true
  | _ => false

/-- Which methods an accessor directive makes. -/
inductive AccessorMode where
  | reader
  | writer
  | accessor
  deriving DecidableEq, Repr, Inhabited

def AccessorMode.names : List (String × AccessorMode) :=
  [("reader", .reader), ("writer", .writer), ("accessor", .accessor)]

def AccessorMode.name : AccessorMode → String
  | .reader => "reader"
  | .writer => "writer"
  | .accessor => "accessor"

def AccessorMode.reads : AccessorMode → Bool
  | .reader | .accessor => true
  | .writer => false

def AccessorMode.writes : AccessorMode → Bool
  | .writer | .accessor => true
  | .reader => false

inductive ObjectKind where
  | classBody
  | moduleBody
  | instanceMethod
  | classMethod
  | getter
  | setter
  deriving DecidableEq, Repr, Inhabited

def ObjectKind.names : List (String × ObjectKind) :=
  [("class", .classBody), ("module", .moduleBody), ("instance_method", .instanceMethod),
   ("class_method", .classMethod), ("accessor_getter", .getter), ("accessor_setter", .setter)]

def ObjectKind.name : ObjectKind → String
  | .classBody => "class"
  | .moduleBody => "module"
  | .instanceMethod => "instance_method"
  | .classMethod => "class_method"
  | .getter => "accessor_getter"
  | .setter => "accessor_setter"

/-- Whether the thing is a namespace and not a member of one. -/
def ObjectKind.isNamespace : ObjectKind → Bool
  | .classBody | .moduleBody => true
  | _ => false

/-- A declaration, with the source text before it. -/
structure Declaration where
  kind : DeclarationKind
  /-- The namespace around the declaration. -/
  nesting : List String := []
  name : String := ""
  /-- The names of an accessor directive. -/
  names : List String := []
  accessorMode : Option AccessorMode := none
  /-- Whether the declaration is about the class itself. -/
  classLevel : Bool := false
  visibility : Visibility := .open
  /-- The source between the declaration before and this one. -/
  precedingText : String := ""
  /-- The source of a signature block. -/
  source : String := ""
  /-- The line on which the text before starts. -/
  precedingLine : Int := 1
  /-- The line of the declaration itself. -/
  line : Int := 1
  superclass : Option String := none
  file : Option String := none
  explicitTags : List Tag := []
  deriving Repr, Inhabited

/-- What a signature documents. -/
structure Target where
  kind : ObjectKind
  nesting : List String := []
  name : String
  classLevel : Bool := false
  visibility : Visibility := .open
  explicitTags : List Tag := []
  deriving DecidableEq, Repr, Inhabited

def Target.path (t : Target) : String := Path.member t.nesting t.name t.classLevel

namespace Declaration

/-- The namespace and the name of a declaration. -/
def qualifiedName (d : Declaration) : List String := d.nesting ++ [d.name]

def target (d : Declaration) (tags : List Tag) (kind : ObjectKind) (name : String)
    (classLevel : Bool) : Target :=
  { kind, nesting := d.nesting, name, classLevel, visibility := d.visibility, explicitTags := tags }

/-- The targets of a declaration, each with the given tags. -/
def targets (d : Declaration) (tags : List Tag) : List Target :=
  match d.kind with
  | .method =>
    [d.target tags (if d.classLevel then .classMethod else .instanceMethod) d.name d.classLevel]
  | .singletonMethod => [d.target tags .classMethod d.name true]
  | .attribute =>
    let mode := d.accessorMode.getD .accessor
    let names := if d.names.isEmpty then [d.name] else d.names
    names.flatMap fun name =>
      (if mode.reads then [d.target tags .getter name d.classLevel] else [])
        ++ (if mode.writes then [d.target tags .setter (name ++ "=") d.classLevel] else [])
  | _ => []

end Declaration

end TypeTags
