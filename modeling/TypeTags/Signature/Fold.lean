import TypeTags.Assoc
import TypeTags.Signature.Basic

/-!
# Folding a chain of signatures

Several signatures before one declaration count as one: a later signature shadows the earlier ones
field by field.
-/

namespace TypeTags.Signature

def declaresReturn (s : Signature) : Bool := s.returns.isSome || s.isVoid

/-- The lines from the first of one span to the last of another. -/
def spanThrough : Option LineSpan → Option LineSpan → Option LineSpan
  | some a, some b => some ⟨a.first, b.last⟩
  | some a, none => some a
  | none, b => b

/-- The text that wins: the later one unless it is missing or empty. -/
def laterText (earlier later : Option String) : Option String :=
  match later with
  | some text => if text.isEmpty then earlier else some text
  | none => earlier

/-- A signature followed by a later one that shadows it. -/
def shadow (earlier later : Signature) : Signature where
  abstract := later.abstract
  abstractText := laterText earlier.abstractText later.abstractText
  overridable := later.overridable
  override := later.override
  params := Assoc.putAll (Assoc.putAll [] earlier.params) later.params
  returns := if later.declaresReturn then later.returns else earlier.returns
  isVoid := if later.declaresReturn then later.isVoid else earlier.isVoid
  span := spanThrough earlier.span later.span

/-- The signature that a chain of signatures amounts to; none for an empty chain. -/
def fold? : List Signature → Option Signature
  | [] => none
  | first :: later => some (later.foldl shadow first)

end TypeTags.Signature
