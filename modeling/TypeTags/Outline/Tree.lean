import TypeTags.Outline.Bytes
import TypeTags.Text.Trim

/-!
# Syntax trees

The syntax tree of a source file, as a parser of the language gives it: nodes with their kind, the
stretch they cover, the field they fill in their parent and their children. Anonymous nodes are
keywords and punctuation.
-/

namespace TypeTags

/-- A node of a syntax tree. -/
inductive SyntaxNode where
  | node (kind : String) (start stop : Nat) (named : Bool) (field : Option String)
      (children : List SyntaxNode)
  deriving Repr, Inhabited

namespace SyntaxNode

def kind : SyntaxNode → String
  | node kind _ _ _ _ _ => kind

def start : SyntaxNode → Nat
  | node _ start _ _ _ _ => start

/-- The offset after the last byte. -/
def stop : SyntaxNode → Nat
  | node _ _ stop _ _ _ => stop

/-- Whether the node is more than a keyword or punctuation. -/
def isNamed : SyntaxNode → Bool
  | node _ _ _ named _ _ => named

/-- The field that the node fills in its parent. -/
def field : SyntaxNode → Option String
  | node _ _ _ _ field _ => field

def children : SyntaxNode → List SyntaxNode
  | node _ _ _ _ _ children => children

def namedChildren (n : SyntaxNode) : List SyntaxNode := n.children.filter isNamed

/-- The first child that fills a field. -/
def child? (n : SyntaxNode) (name : String) : Option SyntaxNode :=
  n.children.find? (·.field == some name)

mutual

def depth : SyntaxNode → Nat
  | node _ _ _ _ _ children => depthAll children + 1

/-- The greatest number of levels in the trees. -/
def depthAll : List SyntaxNode → Nat
  | [] => 0
  | n :: ns => max n.depth (depthAll ns)

end

def stretch (n : SyntaxNode) : Stretch := ⟨n.start, n.stop⟩

def text (n : SyntaxNode) (bytes : Bytes) : String := bytes.text n.stretch

/-! ## Classes and modules -/

/-- The parts of the header of a class, module or singleton class. -/
def headerParts (n : SyntaxNode) : List SyntaxNode :=
  ["name", "superclass", "value"].filterMap n.child?

/-- The offset where the header ends. -/
def headerEnd (n : SyntaxNode) : Nat :=
  n.headerParts.foldl (fun stop part => max stop part.stop) n.start

/-- The statements of the body. They are the children of a body node, or stand beside the parts of
the header. -/
def bodyStatements (n : SyntaxNode) : List SyntaxNode :=
  match n.child? "body" with
  | some body => body.namedChildren
  | none =>
    let header := n.headerParts.map start
    n.namedChildren.filter fun child => child.start ∉ header

/-- The offset where the body ends: at the closing keyword, if the node ends with it. -/
def bodyEnd (n : SyntaxNode) : Nat :=
  match n.children.getLast? with
  | some last => if last.kind = "end" then last.start else n.stop
  | none => n.stop

/-- The superclass as it is written. -/
def superclass? (n : SyntaxNode) (bytes : Bytes) : Option String :=
  (n.child? "superclass").map fun clause =>
    match clause.namedChildren with
    | expression :: _ => expression.text bytes
    | [] => String.ofList (Text.trim ((clause.text bytes).toList.dropWhile (· == '<')))

/-! ## Calls -/

def isCall (n : SyntaxNode) : Bool := n.kind == "call" || n.kind == "method_call"

/-- The name of a call without a receiver. -/
def callName? (n : SyntaxNode) (bytes : Bytes) : Option String :=
  if n.kind = "identifier" then some (n.text bytes)
  else if !n.isCall || (n.child? "receiver").isSome then none
  else (n.child? "method").map (·.text bytes)

def callArguments (n : SyntaxNode) : List SyntaxNode :=
  if n.isCall then
    match n.child? "arguments" with
    | some arguments => arguments.namedChildren
    | none => []
  else []

/-- The text without the quotes at both ends. -/
def unquote (cs : List Char) : List Char :=
  let isQuote (c : Char) : Bool := c == '"' || c == '\''
  ((cs.dropWhile isQuote).reverse.dropWhile isQuote).reverse

/-- The name that a symbol or a string stands for. -/
def symbolName? (n : SyntaxNode) (bytes : Bytes) : Option String :=
  let body := (n.text bytes).toList.dropWhile (· == ':')
  if n.kind = "simple_symbol" ∨ n.kind = "symbol" then some (String.ofList body)
  else if n.kind = "delimited_symbol" ∨ n.kind = "string" then some (String.ofList (unquote body))
  else none

/-- The names in a call's arguments; empty ones are left out. -/
def argumentNames (n : SyntaxNode) (bytes : Bytes) : List String :=
  (n.callArguments.filterMap (·.symbolName? bytes)).filter (!·.isEmpty)

end SyntaxNode

end TypeTags
