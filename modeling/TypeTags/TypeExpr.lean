/-!
# Type expressions

A type expression is what a signature says of a parameter or of the value it returns. `render`
writes one as documentation types: a list of alternatives, each a string. Inside a collection an
argument shows only its first alternative, except that a union shows all of its own.
-/

namespace TypeTags

/-- A type of a signature. -/
inductive TypeExpr where
  /-- A name: a constant path, or a word such as `void` or `nil`. -/
  | simple (name : String)
  /-- The inner type or `nil`. -/
  | nilable (inner : TypeExpr)
  /-- Any of the alternatives. -/
  | union (alternatives : List TypeExpr)
  /-- A container with its arguments. -/
  | generic (container : String) (args : List TypeExpr)
  /-- A container of keys and values. -/
  | keyed (container : String) (key value : TypeExpr)
  /-- An array of fixed size. -/
  | tuple (elements : List TypeExpr)
  /-- A hash whose keys and values are not declared. -/
  | fixedHash
  /-- A procedure type, kept as it is written. -/
  | proc (raw : String)
  | untyped
  deriving Repr, Inhabited

namespace TypeExpr

mutual

def same : TypeExpr → TypeExpr → Bool
  | simple name, simple other => name == other
  | nilable inner, nilable other => same inner other
  | union alternatives, union others => sameAll alternatives others
  | generic container args, generic other others => container == other && sameAll args others
  | keyed container key value, keyed other otherKey otherValue =>
    container == other && (same key otherKey && same value otherValue)
  | tuple elements, tuple others => sameAll elements others
  | fixedHash, fixedHash => true
  | proc raw, proc other => raw == other
  | untyped, untyped => true
  | _, _ => false

def sameAll : List TypeExpr → List TypeExpr → Bool
  | [], [] => true
  | t :: ts, u :: us => same t u && sameAll ts us
  | _, _ => false

end

mutual

theorem same_iff : (t u : TypeExpr) → (same t u = true ↔ t = u)
  | simple name, u => by cases u <;> simp [same]
  | nilable inner, u => by cases u <;> simp [same, same_iff inner]
  | union alternatives, u => by cases u <;> simp [same, sameAll_iff alternatives]
  | generic container args, u => by cases u <;> simp [same, sameAll_iff args]
  | keyed container key value, u => by cases u <;> simp [same, same_iff key, same_iff value]
  | tuple elements, u => by cases u <;> simp [same, sameAll_iff elements]
  | fixedHash, u => by cases u <;> simp [same]
  | proc raw, u => by cases u <;> simp [same]
  | untyped, u => by cases u <;> simp [same]

theorem sameAll_iff : (ts us : List TypeExpr) → (sameAll ts us = true ↔ ts = us)
  | [], us => by cases us <;> simp [sameAll]
  | t :: ts, us => by cases us <;> simp [sameAll, same_iff t, sameAll_iff ts]

end

instance : DecidableEq TypeExpr := fun t u => decidable_of_iff _ (same_iff t u)

def isUnion : TypeExpr → Bool
  | union _ => true
  | _ => false

/-- Strings with a comma and a space between them. -/
def commaJoin (parts : List String) : String := String.intercalate ", " parts

/-- What a type contributes to a collection's arguments, given its own rendering. -/
def argumentText (isUnion : Bool) (types : List String) : String :=
  if isUnion then commaJoin types else types.headD ""

mutual

/-- The documentation types of a type expression. -/
def render : TypeExpr → List String
  | simple name => [name]
  | nilable inner => render inner ++ ["nil"]
  | union alternatives => renderAll alternatives
  | generic container args => [container ++ "<" ++ commaJoin (arguments args) ++ ">"]
  | keyed container key value =>
    [container ++ "\x7b" ++ argumentText key.isUnion (render key) ++ " => "
      ++ argumentText value.isUnion (render value) ++ "\x7d"]
  | tuple elements => ["Array(" ++ commaJoin (arguments elements) ++ ")"]
  | fixedHash => ["Hash"]
  | proc raw => [raw]
  | untyped => ["T.untyped"]

/-- The documentation types of all alternatives, in order. -/
def renderAll : List TypeExpr → List String
  | [] => []
  | t :: ts => render t ++ renderAll ts

/-- The text of each argument of a collection. -/
def arguments : List TypeExpr → List String
  | [] => []
  | t :: ts => argumentText t.isUnion (render t) :: arguments ts

end

def renderFirst (t : TypeExpr) : String := (render t).headD ""

end TypeExpr

end TypeTags
