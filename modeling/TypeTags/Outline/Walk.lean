import TypeTags.Outline.Tree
import TypeTags.Registry.Assembly

/-!
# Walking a syntax tree

A walk over the syntax tree of a source file gives its outline: declarations, borders of namespace
bodies, changes of visibility, and the stretches of source between them, in the order of the source.
A walker keeps a cursor in each body, up to which the source is handed over. Signature calls are
left in the stretch before the next declaration.

* `Outline.Event`: an entry of an outline, with stretches of the file.
* `Outline.walk`: the outline of a file.
* `Outline.analyze`: the registry of a file.
-/

namespace TypeTags.Outline

/-- What a declaration in an outline is. -/
structure Item where
  kind : DeclarationKind
  nesting : List String
  name : String
  names : List String := []
  accessorMode : Option AccessorMode := none
  classLevel : Bool := false
  visibility : Visibility := .open
  superclass : Option String := none
  /-- The node that is declared. -/
  own : Stretch
  deriving Repr

/-- An entry of an outline. -/
inductive Event where
  /-- A stretch of source before a construct that is no declaration. -/
  | text (before : Stretch)
  | openScope
  /-- The end of a body, after a stretch of source. -/
  | closeScope (before : Stretch)
  /-- A declaration, after a stretch of source. -/
  | declare (before : Stretch) (item : Item)
  | setVisibility (nesting names : List String) (visibility : Visibility) (classLevel : Bool)
  deriving Repr

/-- Where a walk is in a body. -/
structure Body where
  nesting : List String
  /-- Whether the body is that of the class itself. -/
  classLevel : Bool
  /-- The offset up to which the source is handed over. -/
  cursor : Nat
  visibility : Visibility := .open
  deriving Repr

/-- The body after it has passed what ends at an offset, and the idle rest of that line. -/
def Body.past (body : Body) (bytes : Bytes) (stop : Nat) : Body :=
  { body with cursor := bytes.skipLineTail stop }

/-- Hand over the source before a node that declares nothing, and pass the node. -/
def feed (bytes : Bytes) (body : Body) (node : SyntaxNode) : Body × List Event :=
  (body.past bytes node.stop, [.text ⟨body.cursor, node.start⟩])

/-- A method, in a statement that starts at an offset. One without a name is passed over. -/
def method (bytes : Bytes) (body : Body) (visibility : Visibility) (start : Nat)
    (node : SyntaxNode) : Body × List Event :=
  match node.child? "name" with
  | none => (body, [])
  | some name =>
    let singleton := node.kind == "singleton_method"
    let item : Item :=
      { kind := if singleton then .singletonMethod else .method
        nesting := body.nesting
        name := name.text bytes
        classLevel := body.classLevel || singleton
        visibility
        own := node.stretch }
    (body.past bytes (max node.stop start), [.declare ⟨body.cursor, start⟩ item])

def accessorDirectives : List (String × AccessorMode) :=
  [("attr_reader", .reader), ("attr_writer", .writer), ("attr_accessor", .accessor)]

/-- An accessor directive, in a statement that starts at an offset. One without names declares
nothing. -/
def accessors (bytes : Bytes) (body : Body) (visibility : Visibility) (start : Nat)
    (mode : AccessorMode) (node : SyntaxNode) : Body × List Event :=
  match node.argumentNames bytes with
  | [] => feed bytes body node
  | name :: names =>
    let item : Item :=
      { kind := .attribute
        nesting := body.nesting
        name
        names := name :: names
        accessorMode := some mode
        classLevel := body.classLevel
        visibility
        own := node.stretch }
    (body.past bytes (max node.stop start), [.declare ⟨body.cursor, start⟩ item])

/-- The mode of the accessor directive that a node calls, if it calls one. -/
def accessorMode? (bytes : Bytes) (node : SyntaxNode) : Option AccessorMode :=
  (node.callName? bytes).bind fun name => accessorDirectives.lookup name

/-- A visibility keyword with arguments: a method or an accessor directive that it wraps, or names
of members. -/
def visibilityCall (bytes : Bytes) (body : Body) (visibility : Visibility) (node : SyntaxNode)
    (arguments : List SyntaxNode) : Body × List Event :=
  let named :=
    let (body, events) := feed bytes body node
    (body, events
      ++ [.setVisibility body.nesting (node.argumentNames bytes) visibility body.classLevel])
  match arguments with
  | [wrapped] =>
    if wrapped.kind = "method" ∨ wrapped.kind = "singleton_method" then
      method bytes body visibility node.start wrapped
    else match accessorMode? bytes wrapped with
      | some mode => accessors bytes body visibility node.start mode wrapped
      | none => named
  | _ => named

/-- A statement that is neither a namespace nor a method. -/
def call (bytes : Bytes) (body : Body) (node : SyntaxNode) : Body × List Event :=
  let name := node.callName? bytes
  if name = some "sig" then (body, [])
  else match accessorMode? bytes node with
    | some mode => accessors bytes body body.visibility node.start mode node
    | none =>
      match name.bind (fun name => Visibility.names.lookup name) with
      | some visibility =>
        match node.callArguments with
        | [] =>
          let (body, events) := feed bytes body node
          ({ body with visibility }, events)
        | arguments => visibilityCall bytes body visibility node arguments
      | none => feed bytes body node

/-- The statements of a list, in order, up to the data at the end of a file. -/
def statements (statement : Body → SyntaxNode → Body × List Event) (body : Body) :
    List SyntaxNode → Body × List Event
  | [] => (body, [])
  | node :: nodes =>
    if node.kind = "uninterpreted" then (body, [])
    else if node.kind = "comment" ∨ node.kind = "empty_statement" then
      statements statement body nodes
    else
      let (body, events) := statement body node
      let (body, more) := statements statement body nodes
      (body, events ++ more)

/-- The body of a class, module or singleton class, from its opening to its end. -/
def bodyOf (statement : Body → SyntaxNode → Body × List Event) (inner : Body)
    (node : SyntaxNode) : List Event :=
  let (inner, events) := statements statement inner node.bodyStatements
  .openScope :: events ++ [.closeScope ⟨inner.cursor, max node.bodyEnd inner.cursor⟩]

/-- A class or module. One without a name declares nothing. -/
def namespaceBody (statement : Body → SyntaxNode → Body × List Event) (bytes : Bytes) (body : Body)
    (node : SyntaxNode) : Body × List Event :=
  match node.child? "name" with
  | none => feed bytes body node
  | some nameNode =>
    let name := nameNode.text bytes
    let item : Item :=
      { kind := if node.kind = "class" then .classBody else .moduleBody
        nesting := body.nesting
        name
        superclass := node.superclass? bytes
        own := node.stretch }
    let inner : Body :=
      { nesting := Path.nested body.nesting name
        classLevel := false
        cursor := bytes.skipLineTail node.headerEnd }
    (body.past bytes node.stop,
     .declare ⟨body.cursor, node.start⟩ item :: bodyOf statement inner node)

def singletonBody (statement : Body → SyntaxNode → Body × List Event) (bytes : Bytes)
    (body : Body) (node : SyntaxNode) : Body × List Event :=
  let (after, events) := feed bytes body node
  let inner : Body :=
    { nesting := body.nesting
      classLevel := true
      cursor := bytes.skipLineTail node.headerEnd }
  (after, events ++ bodyOf statement inner node)

/-- A statement, in a tree of at most `n` levels. -/
def statementAt (bytes : Bytes) : Nat → Body → SyntaxNode → Body × List Event
  | 0, body, _ => (body, [])
  | n + 1, body, node =>
    if node.kind = "class" ∨ node.kind = "module" then
      namespaceBody (statementAt bytes n) bytes body node
    else if node.kind = "singleton_class" then singletonBody (statementAt bytes n) bytes body node
    else if node.kind = "method" ∨ node.kind = "singleton_method" then
      method bytes body body.visibility node.start node
    else call bytes body node

/-- The outline of a file with its syntax tree. -/
def walk (bytes : Bytes) (root : SyntaxNode) : List Event :=
  let start : Body := { nesting := [], classLevel := false, cursor := 0 }
  let (body, events) := statements (statementAt bytes root.depth) start root.namedChildren
  events ++ [.text ⟨body.cursor, bytes.length⟩]

/-- An entry of an outline as a step of an assembly. -/
def Event.toStep (bytes : Bytes) (file : Option String) : Event → Assembly.Step
  | text before => .feed (bytes.text before) (bytes.lineAt before.start)
  | openScope => .openScope
  | closeScope before => .closeScope (bytes.text before) (bytes.lineAt before.start)
  | declare before item =>
    .declare
      { kind := item.kind
        nesting := item.nesting
        name := item.name
        names := item.names
        accessorMode := item.accessorMode
        classLevel := item.classLevel
        visibility := item.visibility
        precedingText := bytes.text before
        precedingLine := bytes.lineAt before.start
        line := bytes.lineAt item.own.start
        superclass := item.superclass
        file }
  | setVisibility nesting names visibility classLevel =>
    .setVisibility nesting names visibility classLevel

/-- The registry of a file with its syntax tree. -/
def analyze (bytes : Bytes) (root : SyntaxNode) (file : Option String) (policy : MergePolicy) :
    Registry :=
  let steps := (walk bytes root).map (Event.toStep bytes file)
  ((Assembly.start file policy).run steps).finish.registry

end TypeTags.Outline
