import TypeTags.Declaration
import TypeTags.Signature.Basic

/-!
# Merging a signature into tags

The tags an author wrote keep their order, names and texts. A signature gives types to the `@param`
and `@return` tags it knows of, and puts the tags that are missing at the end: `@abstract`, then
parameters in its own order, then `@return`.

* `MergePolicy.merge`: the tags of a target with its signature.
-/

namespace TypeTags

/-- Whose return types win when both the author and the signature give some. -/
inductive MergePolicy where
  | signature
  | explicit
  deriving DecidableEq, Repr, Inhabited

namespace MergePolicy

def names : List (String × MergePolicy) := [("signature", .signature), ("explicit", .explicit)]

def name : MergePolicy → String
  | .signature => "signature"
  | .explicit => "explicit"

/-- The tags with an `@abstract` tag, if the signature is abstract. -/
def mergeAbstract (sig : Signature) (tags : List Tag) : List Tag :=
  if sig.abstract then
    Tag.upsert (·.tagName == "abstract") id
      { tagName := "abstract", text := sig.abstractText.getD "" } tags
  else tags

def mergeParam (tags : List Tag) (param : String × TypeExpr) : List Tag :=
  let types := param.2.render
  Tag.upsert (Tag.isParam param.1) (fun tag => { tag with types })
    { tagName := "param", name := some param.1, types } tags

/-- The tags with the types of all parameters; a getter has none. -/
def mergeParams (target : Target) (sig : Signature) (tags : List Tag) : List Tag :=
  if target.kind = .getter then tags else sig.params.foldl mergeParam tags

/-- What the target returns. A setter that declares nothing or `void` returns its one parameter. -/
def returnTypes (target : Target) (sig : Signature) : Option (List String) :=
  let types := sig.renderReturn
  if target.kind = .setter ∧ (types = none ∨ types = some ["void"]) then
    match sig.params with
    | [(_, declared)] => some declared.render
    | _ => types
  else types

/-- The tags with the returned types. Types that an author gave are replaced under the policy for
signatures, or when the signature is a chain of several. -/
def mergeReturn (policy : MergePolicy) (chained : Bool) (types : Option (List String))
    (tags : List Tag) : List Tag :=
  match types with
  | none => tags
  | some types =>
    Tag.upsert (·.tagName == "return")
      (fun tag => if tag.types.isEmpty || policy == .signature || chained then { tag with types }
        else tag)
      { tagName := "return", types } tags

/-- The tags of a target with its signature, if it has one. -/
def merge (policy : MergePolicy) (target : Target) (sig : Option Signature) (chained : Bool) :
    List Tag :=
  match sig with
  | none => target.explicitTags
  | some sig =>
    mergeReturn policy chained (returnTypes target sig)
      (mergeParams target sig (mergeAbstract sig target.explicitTags))

end MergePolicy

end TypeTags
