import TypeTags.Json.Reader
import TypeTags.Workspace.Basic

/-!
# Snapshots of working directories

A snapshot is a JSON object that maps each file's location to its content and its syntax tree, and
each empty folder's to null. A content is a text or, in hexadecimal, a sequence of bytes. A node of
a tree has its kind `t`, the offsets `s` and `e`, a mark `u` if it is unnamed, the field `f` that it
fills, and its children `c`.

* `SyntaxNode.ofJson`, `SourceFile.ofJson`, `Workspace.ofJson`: read a node, a file, a directory.
-/

namespace TypeTags

/-- A string member, or the empty string. -/
def Json.stringD (v : Json) (key : String) : String :=
  match v.member? key with
  | some (.string s) => s
  | _ => ""

/-- A number member that counts something, or zero. -/
def Json.natD (v : Json) (key : String) : Nat :=
  match v.member? key with
  | some (.int n) => n.toNat
  | _ => 0

namespace SyntaxNode

mutual

/-- The node that a JSON object describes. -/
def ofJson : Json → SyntaxNode
  | .object members =>
    let v := Json.object members
    let field := match v.member? "f" with
      | some (.string name) => some name
      | _ => none
    .node (v.stringD "t") (v.natD "s") (v.natD "e") (v.member? "u").isNone field
      (childrenOf members)
  | _ => .node "" 0 0 true none []

/-- The children among the members of an object. -/
def childrenOf : List (String × Json) → List SyntaxNode
  | [] => []
  | (key, v) :: members => if key = "c" then itemsOf v else childrenOf members

def itemsOf : Json → List SyntaxNode
  | .array items => nodesOf items
  | _ => []

/-- The nodes that JSON values describe. -/
def nodesOf : List Json → List SyntaxNode
  | [] => []
  | v :: vs => ofJson v :: nodesOf vs

end

end SyntaxNode

namespace SourceFile

/-- The bytes that pairs of hexadecimal digits stand for. -/
def bytesOfHex : List Char → Bytes
  | a :: b :: cs =>
    match Json.hexValue a, Json.hexValue b with
    | some high, some low => (high * 16 + low).toUInt8 :: bytesOfHex cs
    | _, _ => bytesOfHex cs
  | _ => []

/-- The file that a JSON object describes. -/
def ofJson (v : Json) : SourceFile where
  bytes := match v.member? "hex" with
    | some (.string hex) => bytesOfHex hex.toList
    | _ => (v.stringD "content").toUTF8.toList
  tree := match v.member? "tree" with
    | some (.object members) => some (SyntaxNode.ofJson (.object members))
    | _ => none

end SourceFile

/-- The working directory that a JSON object describes. -/
def Workspace.ofJson (v : Json) : Workspace :=
  let members := match v with
    | .object members => members
    | _ => []
  { files := members.filterMap fun (text, content) => match content with
      | .object inside => some (Location.ofText text, SourceFile.ofJson (.object inside))
      | _ => none
    folders := members.filterMap fun (text, content) => match content with
      | .object _ => none
      | _ => some (Location.ofText text) }

end TypeTags
