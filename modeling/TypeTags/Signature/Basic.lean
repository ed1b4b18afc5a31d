import TypeTags.TypeExpr

/-!
# Signatures

The structured form of one `sig` block: its modifiers, the declared parameters, and what it returns.
-/

namespace TypeTags

/-- The lines a signature spans, first and last. -/
structure LineSpan where
  first : Int
  last : Int
  deriving DecidableEq, Repr

/-- One signature. A signature that was read has exactly one of `returns` and `isVoid`. -/
structure Signature where
  abstract : Bool := false
  /-- The reason given with the `abstract` modifier. -/
  abstractText : Option String := none
  overridable : Bool := false
  override : Bool := false
  /-- Parameters with their types, in order. -/
  params : List (String × TypeExpr) := []
  returns : Option TypeExpr := none
  isVoid : Bool := false
  span : Option LineSpan := none
  deriving DecidableEq, Repr, Inhabited

namespace Signature

def paramNames (s : Signature) : List String := s.params.map (·.1)

/-- The first type declared for a name. -/
def paramType? (s : Signature) (name : String) : Option TypeExpr := s.params.lookup name

/-- The documentation types of the returned value: `void` for a void signature, none when the
signature declares neither. -/
def renderReturn (s : Signature) : Option (List String) :=
  if s.isVoid then some ["void"] else s.returns.map TypeExpr.render

end Signature

end TypeTags
