import TypeTags.Schema.Check
import TypeTags.Signature.Basic

/-!
# Types and signatures as JSON

A type expression is an object whose member `kind` tells which it is; a signature is an object with
all of its fields.

* `TypeExpr.toJson`, `TypeExpr.check`: write and check a type expression.
* `Signature.toJson`, `Signature.check`: write and check a signature.
-/

namespace TypeTags

mutual

/-- How deeply arrays and objects are nested in a value. -/
def Json.depth : Json → Nat
  | .array vs => Json.depthItems vs + 1
  | .object members => Json.depthMembers members + 1
  | _ => 0

def Json.depthItems : List Json → Nat
  | [] => 0
  | v :: vs => max v.depth (Json.depthItems vs)

def Json.depthMembers : List (String × Json) → Nat
  | [] => 0
  | (_, v) :: members => max v.depth (Json.depthMembers members)

end

namespace TypeExpr

def tagged (kind : String) (members : List (String × Json)) : Json :=
  .object (("kind", .string kind) :: members)

mutual

def toJson : TypeExpr → Json
  | simple name => tagged "simple" [("name", .string name)]
  | nilable inner => tagged "nilable" [("inner", toJson inner)]
  | union alternatives => tagged "union" [("alternatives", .array (toJsons alternatives))]
  | generic container args =>
    tagged "generic" [("container", .string container), ("args", .array (toJsons args)),
      ("key_value", .bool false)]
  | keyed container key value =>
    tagged "generic" [("container", .string container), ("args", .array [toJson key, toJson value]),
      ("key_value", .bool true)]
  | tuple elements => tagged "tuple" [("elements", .array (toJsons elements))]
  | fixedHash => tagged "fixed_hash" []
  | proc raw => tagged "proc" [("raw", .string raw)]
  | untyped => tagged "untyped" []

def toJsons : List TypeExpr → List Json
  | [] => []
  | t :: ts => toJson t :: toJsons ts

end

/-- A collection of checked parts; one of keys and values has exactly two arguments. -/
def collection (container : String) (args : List TypeExpr) (keyValue : Bool) : Checked TypeExpr :=
  if keyValue then
    match args with
    | [key, value] => .ok (keyed container key value)
    | _ => .flawed (.keyValueArity container args.length)
  else .ok (generic container args)

/-- Check the members of a type expression of the given kind, with the check for those inside. -/
def checkKind (item : Json → Checked TypeExpr) (members : List (String × Json)) :
    String → Option (Checked TypeExpr)
  | "simple" => some (simple <$> Checked.field members "name" Checked.nonEmpty)
  | "nilable" => some (nilable <$> Checked.field members "inner" item)
  | "union" => some (union <$> Checked.field members "alternatives" (Checked.someTuple item))
  | "generic" =>
    let parts := (fun container args keyValue => (container, args, keyValue))
      <$> Checked.field members "container" Checked.nonEmpty
      <*> Checked.field members "args" (Checked.someTuple item)
      <*> Checked.fieldD members "key_value" false Checked.bool
    some (parts.andThen fun (container, args, keyValue) => collection container args keyValue)
  | "tuple" => some (tuple <$> Checked.field members "elements" (Checked.someTuple item))
  | "fixed_hash" => some (.ok fixedHash)
  | "proc" => some (proc <$> Checked.field members "raw" Checked.nonEmpty)
  | "untyped" => some (.ok untyped)
  | _ => none

/-- Check a type expression that is nested at most `n` deep. -/
def checkAt : Nat → Json → Checked TypeExpr
  | n + 1, .object members =>
    match Assoc.get? members "kind" with
    | none => .flawed .missingTag
    | some (.string kind) =>
      match checkKind (checkAt n) members kind with
      | some checked => checked.under kind
      | none => .flawed (.unknownTag kind)
    | some v => .flawed (.unknownTag v.shown)
  | _, _ => .flawed .untaggable

def check (v : Json) : Checked TypeExpr := checkAt v.depth v

end TypeExpr

namespace LineSpan

def toJson (span : LineSpan) : Json :=
  .object [("start_line", .int span.first), ("end_line", .int span.last)]

/-- Check a span; lines count from 1. -/
def check : Json → Checked LineSpan :=
  Checked.model "SourceSpan" fun members =>
    LineSpan.mk <$> Checked.field members "start_line" (Checked.intFrom 1)
      <*> Checked.field members "end_line" (Checked.intFrom 1)

/-- The flaws of a span that starts or ends before line 1. -/
def flaws (span : LineSpan) : List Flaw :=
  (if span.first < 1 then [⟨["start_line"], .belowMinimum 1⟩] else [])
    ++ (if span.last < 1 then [⟨["end_line"], .belowMinimum 1⟩] else [])

end LineSpan

namespace Signature

/-- A parameter with its type, as a pair. -/
def checkParam : Json → Checked (String × TypeExpr)
  | .array vs =>
    match vs with
    | [name, declared] =>
      Prod.mk <$> (Checked.string name).under "0" <*> (TypeExpr.check declared).under "1"
    | [name] =>
      Prod.mk <$> (Checked.string name).under "0" <*> (Checked.flawed .missing).under "1"
    | [] => Prod.mk <$> (Checked.flawed .missing).under "0" <*> (Checked.flawed .missing).under "1"
    | _ => .flawed (.longPair vs.length)
  | _ => .flawed .notTuple

def toJson (s : Signature) : Json :=
  .object [("abstract", .bool s.abstract), ("abstract_text", .ofString? s.abstractText),
    ("overridable", .bool s.overridable), ("override", .bool s.override),
    ("params", .array (s.params.map fun (name, declared) =>
      .array [.string name, declared.toJson])),
    ("returns", (s.returns.map TypeExpr.toJson).getD .null), ("is_void", .bool s.isVoid),
    ("span", (s.span.map LineSpan.toJson).getD .null)]

def check : Json → Checked Signature :=
  Checked.model "SignatureNode" fun members =>
    Signature.mk <$> Checked.fieldD members "abstract" false Checked.bool
      <*> Checked.fieldD members "abstract_text" none (Checked.optional Checked.string)
      <*> Checked.fieldD members "overridable" false Checked.bool
      <*> Checked.fieldD members "override" false Checked.bool
      <*> Checked.fieldD members "params" [] (Checked.tuple checkParam)
      <*> Checked.fieldD members "returns" none (Checked.optional TypeExpr.check)
      <*> Checked.fieldD members "is_void" false Checked.bool
      <*> Checked.fieldD members "span" none (Checked.optional LineSpan.check)

end Signature

end TypeTags
