import Mathlib.Data.List.DropRight
import TypeTags.Outline.Walk

/-!
# What a node calls, and what it names

Which call a node is, and which names stand in its arguments, told by the kind of the node, by the
children that fill its fields, and by the text of these. A walker comes to the same answers.

* `SyntaxNode.calls`: a call of a name without a receiver.
* `SyntaxNode.given`: the arguments of a call.
* `SyntaxNode.keyword?`, `SyntaxNode.isDirective`: visibility keywords and accessor directives.
* `SyntaxNode.literalName?`, `SyntaxNode.givenNames`: the names that symbols and strings stand for.
-/

namespace TypeTags.SyntaxNode

open Outline (accessorMode? accessorDirectives)

/-- Whether the node calls a name without a receiver: it is an identifier with that text, or a call
that has no receiver and a method with that text. -/
def calls (n : SyntaxNode) (bytes : Bytes) (name : String) : Bool :=
  (n.kind == "identifier" && n.text bytes == name) ||
    ((n.kind == "call" || n.kind == "method_call") && (n.child? "receiver").isNone &&
      (n.child? "method").any (·.text bytes == name))

/-- What stands between the brackets of a call. -/
def given (n : SyntaxNode) : List SyntaxNode :=
  if n.kind = "call" ∨ n.kind = "method_call" then
    (n.child? "arguments").toList.flatMap fun arguments => arguments.children.filter isNamed
  else []

/-- The visibility keyword that the node calls, if it calls one. -/
def keyword? (n : SyntaxNode) (bytes : Bytes) : Option Visibility :=
  if n.calls bytes "public" then some .open
  else if n.calls bytes "protected" then some .guarded
  else if n.calls bytes "private" then some .hidden
  else none

/-- Whether the node calls an accessor directive. -/
def isDirective (n : SyntaxNode) (bytes : Bytes) : Bool :=
  ["attr_reader", "attr_writer", "attr_accessor"].any (n.calls bytes)

/-- The name that a symbol or a string stands for: its text without the colons in front and, if it
has quotes, without those at both ends. -/
def literalName? (n : SyntaxNode) (bytes : Bytes) : Option (List Char) :=
  let plain := (n.text bytes).toList.dropWhile (· = ':')
  if n.kind ∈ ["simple_symbol", "symbol"] then some plain
  else if n.kind ∈ ["delimited_symbol", "string"] then
    some ((plain.dropWhile (· ∈ ['"', '\''])).rdropWhile (· ∈ ['"', '\'']))
  else none

/-- The names that stand in the arguments of a call, in order, but for the empty ones. -/
def givenNames (n : SyntaxNode) (bytes : Bytes) : List String :=
  ((n.given.filterMap (·.literalName? bytes)).filter (· ≠ [])).map String.ofList

/-! ## What a walker makes of a node -/

section

variable {n : SyntaxNode} {bytes : Bytes}

theorem calls_iff {name : String} : n.calls bytes name = true ↔ n.callName? bytes = some name := by
  unfold calls callName? isCall
  by_cases hident : n.kind = "identifier"
  · simp [hident]
  · by_cases hcall : (n.kind == "call" || n.kind == "method_call") = true
    · cases n.child? "receiver" <;> cases n.child? "method" <;> simp [hident, hcall]
    · simp [hident, hcall]

theorem calls_eq (n : SyntaxNode) (bytes : Bytes) (name : String) :
    n.calls bytes name = (n.callName? bytes == some name) := by
  rw [Bool.eq_iff_iff, calls_iff, beq_iff_eq]

theorem given_eq (n : SyntaxNode) : n.given = n.callArguments := by
  unfold given callArguments isCall
  cases n.child? "arguments" <;> simp [namedChildren]

theorem keyword?_eq (n : SyntaxNode) (bytes : Bytes) :
    n.keyword? bytes = (n.callName? bytes).bind fun name => Visibility.names.lookup name := by
  simp only [keyword?, calls_eq]
  cases n.callName? bytes with
  | none => rfl
  | some name =>
    change _ = Assoc.get? [("public", Visibility.open), ("protected", .guarded),
      ("private", .hidden)] name
    simp [Assoc.get?_cons]

theorem isDirective_eq (n : SyntaxNode) (bytes : Bytes) :
    n.isDirective bytes = (accessorMode? bytes n).isSome := by
  simp only [isDirective, accessorMode?, List.any_cons, List.any_nil, calls_eq]
  cases n.callName? bytes with
  | none => rfl
  | some name =>
    change _ = (Assoc.get? [("attr_reader", AccessorMode.reader), ("attr_writer", .writer),
      ("attr_accessor", .accessor)] name).isSome
    simp only [Assoc.get?_cons, Assoc.get?_nil]
    split_ifs <;> simp_all

theorem symbolName?_eq (n : SyntaxNode) (bytes : Bytes) :
    n.symbolName? bytes = (n.literalName? bytes).map String.ofList := by
  simp only [symbolName?, literalName?, unquote, List.rdropWhile, List.mem_cons, List.not_mem_nil,
    or_false, Bool.decide_or, beq_eq_decide]
  split
  · rfl
  · split <;> rfl

theorem givenNames_eq (n : SyntaxNode) (bytes : Bytes) :
    n.givenNames bytes = n.argumentNames bytes := by
  have hnames : n.callArguments.filterMap (·.symbolName? bytes) =
      (n.callArguments.filterMap (·.literalName? bytes)).map String.ofList := by
    rw [List.map_filterMap]
    simp only [symbolName?_eq]
  rw [givenNames, argumentNames, given_eq, hnames, List.filter_map]
  congr 2
  funext name
  rw [Function.comp_apply, Bool.eq_iff_iff]
  simp

end

end TypeTags.SyntaxNode
