import TypeTags.Attribution
import TypeTags.Merge
import TypeTags.Registry.Basic

/-!
# Assembling a registry

The steps of one source unit fill a registry: each declaration is attributed its signature and its
comment, and is entered with its merged tags. A thing declared again keeps its place; its earlier
tags count as written by the author, and its comments are put together.

* `Assembly`: the registry with the machine that attributes.
* `Assembly.declare`, `setVisibility`, `finish`: the steps.
* `Assembly.step`, `Assembly.run`: steps and runs as data.
-/

namespace TypeTags

/-- A registry in the making. -/
structure Assembly where
  /-- The name of the source unit. -/
  file : Option String := none
  policy : MergePolicy := .signature
  registry : Registry := {}
  attribution : Attribution := {}
  deriving Repr, Inhabited

namespace Assembly

def start (file : Option String) (policy : MergePolicy) : Assembly :=
  { file, policy, attribution := { file } }

/-- The file that a declaration's entry names. -/
def fileOf (a : Assembly) (d : Declaration) : Option String :=
  match d.file with
  | some file => if file.isEmpty then a.file else some file
  | none => a.file

/-- Enter a class or module. One that is there already gains the comment, the tags and, if it has
none, the superclass. -/
def registerNamespace (a : Assembly) (as : Association) : Assembly :=
  let d := as.declaration
  let names := Path.nested d.nesting d.name
  let path := Path.join names
  let entry : Entry :=
    { path
      name := names.getLast?.getD d.name
      kind := if d.kind = .classBody then .classBody else .moduleBody
      nesting := names.dropLast
      docstring := as.docstring
      tags := as.explicitTags
      superclass := d.superclass
      file := a.fileOf d
      line := some d.line }
  let reopen (e : Entry) : Entry :=
    { e.appendDocstring as.docstring with
      tags := Tag.overlay e.tags as.explicitTags
      superclass := e.superclass.or d.superclass }
  match a.registry.at? path with
  | some _ => { a with registry := a.registry.modify path reopen }
  | none => { a with registry := a.registry.register entry }

def registerTarget (as : Association) (a : Assembly) (target : Target) : Assembly :=
  let path := target.path
  let earlier := a.registry.at? path
  let target := match earlier with
    | some e => { target with explicitTags := Tag.overlay e.tags target.explicitTags }
    | none => target
  let docstring := match earlier with
    | some e => Entry.joinDocs e.docstring as.docstring
    | none => as.docstring
  let entry : Entry :=
    { path
      name := target.name
      kind := target.kind
      nesting := target.nesting
      visibility := target.visibility
      docstring
      tags := a.policy.merge target as.signature as.chained
      file := a.fileOf as.declaration
      line := some as.declaration.line }
  { a with registry := a.registry.register entry }

def register (a : Assembly) (as : Association) : Assembly :=
  if as.declaration.kind.isNamespace then a.registerNamespace as
  else as.targets.foldl (registerTarget as) a

def declare (a : Assembly) (d : Declaration) : Assembly × Except LineSpan Unit :=
  match a.attribution.declare d with
  | (attribution, .ok (some as)) => (({ a with attribution } : Assembly).register as, .ok ())
  | (attribution, .ok none) => ({ a with attribution }, .ok ())
  | (attribution, .error span) => ({ a with attribution }, .error span)

/-- Change who may call members that are already entered, with their setters. -/
def setVisibility (a : Assembly) (nesting names : List String) (visibility : Visibility)
    (classLevel : Bool) : Assembly :=
  let paths := names.flatMap fun name =>
    [Path.member nesting name classLevel, Path.member nesting (name ++ "=") classLevel]
  let set (r : Registry) (path : String) : Registry := r.modify path fun e => { e with visibility }
  { a with registry := paths.foldl set a.registry }

def openScope (a : Assembly) : Assembly := { a with attribution := a.attribution.openScope }

/-- Leave a namespace body after the text at its end. -/
def closeScope (a : Assembly) (text : String) (line : Int) : Assembly × Except LineSpan Unit :=
  let (attribution, answer) := a.attribution.closeScope text line
  ({ a with attribution }, answer)

/-- Read text before a construct that is no declaration. -/
def feed (a : Assembly) (text : String) (line : Int) : Assembly × Except LineSpan Unit :=
  let (attribution, answer) := a.attribution.feed text line
  ({ a with attribution }, answer)

/-- End the source unit and put its diagnostics into the registry. -/
def finish (a : Assembly) : Assembly :=
  let (attribution, _) := a.attribution.finish "" 1
  let diagnostics := a.registry.diagnostics ++ attribution.diagnostics
  { a with attribution, registry := { a.registry with diagnostics } }

inductive Step where
  | openScope
  | closeScope (text : String) (line : Int)
  | feed (text : String) (line : Int)
  | declare (declaration : Declaration)
  | setVisibility (nesting names : List String) (visibility : Visibility) (classLevel : Bool)
  | finish
  deriving Repr

def step (a : Assembly) : Step → Assembly × Except LineSpan Unit
  | .openScope => (a.openScope, .ok ())
  | .closeScope text line => a.closeScope text line
  | .feed text line => a.feed text line
  | .declare d => a.declare d
  | .setVisibility nesting names visibility classLevel =>
    (a.setVisibility nesting names visibility classLevel, .ok ())
  | .finish => (a.finish, .ok ())

def run (a : Assembly) (steps : List Step) : Assembly :=
  steps.foldl (fun a s => (a.step s).1) a

end Assembly

end TypeTags
