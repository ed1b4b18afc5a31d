import TypeTags.Proofs.Assoc.KeyOrder
import TypeTags.Signature.Fold

/-!
# Well-formed types and signatures

The constraints that types and signatures are declared with: no name, container or verbatim text is
empty, no collection or union is without parts, and lines are numbered from 1. Folding a chain of
signatures keeps them.

Results:
* `Signature.fold?_wellFormed`: a chain of well-formed signatures folds to a well-formed one.
-/

namespace TypeTags

/-- The constraints on a type, at every node. A container of keys and values has both by its form. -/
inductive TypeExpr.WellFormed : TypeExpr → Prop where
  | simple {name : String} (h : name ≠ "") : WellFormed (.simple name)
  | nilable {inner : TypeExpr} (h : WellFormed inner) : WellFormed (.nilable inner)
  | union {alternatives : List TypeExpr} (hne : alternatives ≠ [])
      (h : ∀ t ∈ alternatives, WellFormed t) : WellFormed (.union alternatives)
  | generic {container : String} {args : List TypeExpr} (hc : container ≠ "") (hne : args ≠ [])
      (h : ∀ t ∈ args, WellFormed t) : WellFormed (.generic container args)
  | keyed {container : String} {key value : TypeExpr} (hc : container ≠ "") (hk : WellFormed key)
      (hv : WellFormed value) : WellFormed (.keyed container key value)
  | tuple {elements : List TypeExpr} (hne : elements ≠ []) (h : ∀ t ∈ elements, WellFormed t) :
      WellFormed (.tuple elements)
  | fixedHash : WellFormed .fixedHash
  | proc {raw : String} (h : raw ≠ "") : WellFormed (.proc raw)
  | untyped : WellFormed .untyped

def LineSpan.WellFormed (lines : LineSpan) : Prop := 1 ≤ lines.first ∧ 1 ≤ lines.last

structure Signature.WellFormed (sig : Signature) : Prop where
  params : ∀ p ∈ sig.params, p.2.WellFormed
  returns : ∀ t ∈ sig.returns, t.WellFormed
  span : ∀ lines ∈ sig.span, lines.WellFormed

/-! ## Folding -/

namespace Signature

theorem spanThrough_wellFormed {a b : Option LineSpan} (ha : ∀ lines ∈ a, lines.WellFormed)
    (hb : ∀ lines ∈ b, lines.WellFormed) : ∀ lines ∈ spanThrough a b, lines.WellFormed := by
  intro lines h
  unfold spanThrough at h
  split at h
  · cases h
    exact ⟨(ha _ rfl).1, (hb _ rfl).2⟩
  · exact ha lines h
  · exact hb lines h

theorem shadow_wellFormed {earlier later : Signature} (he : earlier.WellFormed)
    (hl : later.WellFormed) : (earlier.shadow later).WellFormed where
  params := Assoc.putAll_forall (Assoc.putAll_forall (by simp) he.params) hl.params
  returns := by
    simp only [shadow]
    split
    · exact hl.returns
    · exact he.returns
  span := spanThrough_wellFormed he.span hl.span

theorem fold?_wellFormed {chain : List Signature} (h : ∀ sig ∈ chain, sig.WellFormed) :
    ∀ sig ∈ fold? chain, sig.WellFormed := by
  cases chain with
  | nil => simp [fold?]
  | cons first later =>
    -- every signature on the way is well-formed too
    have hfold : ∀ (later : List Signature) (first : Signature), first.WellFormed →
        (∀ sig ∈ later, sig.WellFormed) → (later.foldl shadow first).WellFormed := by
      intro later
      induction later with
      | nil => exact fun first hf _ => hf
      | cons next later ih =>
        intro first hf hl
        exact ih _ (shadow_wellFormed hf (hl next List.mem_cons_self))
          fun sig hs => hl sig (List.mem_cons_of_mem _ hs)
    rintro sig ⟨⟩
    exact hfold later first (h first List.mem_cons_self)
      fun sig hs => h sig (List.mem_cons_of_mem _ hs)

end Signature

end TypeTags
