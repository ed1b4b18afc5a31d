import TypeTags.Proofs.Signature.WellFormed

/-!
# The nodes of a type

A type is a tree of types. What is asked of a type is mostly asked of each of its nodes, since a
rendering goes through all of them: it takes the first string of an argument, which is there only if
the argument shows as something.

* `TypeExpr.nodes`: the type and all types inside it.

Results:
* `WellFormed.of_mem_nodes`: the nodes of a well-formed type are well-formed.
* `WellFormed.shown`: a well-formed type shows as at least one string, and none of them is empty.
-/

namespace TypeTags.TypeExpr

mutual

def nodes : TypeExpr → List TypeExpr
  | simple name => [simple name]
  | nilable inner => nilable inner :: nodes inner
  | union alternatives => union alternatives :: nodesAll alternatives
  | generic container args => generic container args :: nodesAll args
  | keyed container key value => keyed container key value :: (nodes key ++ nodes value)
  | tuple elements => tuple elements :: nodesAll elements
  | fixedHash => [fixedHash]
  | proc raw => [proc raw]
  | untyped => [untyped]

/-- The types and all types inside them. -/
def nodesAll : List TypeExpr → List TypeExpr
  | [] => []
  | t :: ts => nodes t ++ nodesAll ts

end

theorem mem_nodesAll {ts : List TypeExpr} {u : TypeExpr} :
    u ∈ nodesAll ts ↔ ∃ t ∈ ts, u ∈ nodes t := by
  induction ts with
  | nil => simp [nodesAll]
  | cons t ts ih => simp [nodesAll, ih]

/-- A property of all nodes of a list of types. -/
theorem forall_nodesAll {P : TypeExpr → Prop} {ts : List TypeExpr}
    (h : ∀ t ∈ ts, ∀ u ∈ t.nodes, P u) : ∀ u ∈ nodesAll ts, P u := by
  intro u hu
  obtain ⟨t, ht, hm⟩ := mem_nodesAll.1 hu
  exact h t ht u hm

theorem WellFormed.of_mem_nodes {t : TypeExpr} (h : t.WellFormed) :
    ∀ u ∈ t.nodes, u.WellFormed := by
  induction h with
  | simple hne => simpa [nodes] using WellFormed.simple hne
  | nilable h ih =>
    rw [nodes]
    exact List.forall_mem_cons.2 ⟨.nilable h, ih⟩
  | union hne h ih =>
    rw [nodes]
    exact List.forall_mem_cons.2 ⟨.union hne h, forall_nodesAll ih⟩
  | generic hc hne h ih =>
    rw [nodes]
    exact List.forall_mem_cons.2 ⟨.generic hc hne h, forall_nodesAll ih⟩
  | keyed hc hk hv ihk ihv =>
    rw [nodes]
    exact List.forall_mem_cons.2 ⟨.keyed hc hk hv, List.forall_mem_append.2 ⟨ihk, ihv⟩⟩
  | tuple hne h ih =>
    rw [nodes]
    exact List.forall_mem_cons.2 ⟨.tuple hne h, forall_nodesAll ih⟩
  | fixedHash => simpa [nodes] using WellFormed.fixedHash
  | proc hne => simpa [nodes] using WellFormed.proc hne
  | untyped => simpa [nodes] using WellFormed.untyped

/-! ## What nodes are shown as -/

theorem mem_renderAll {ts : List TypeExpr} {s : String} :
    s ∈ renderAll ts ↔ ∃ t ∈ ts, s ∈ t.render := by
  induction ts with
  | nil => simp [renderAll]
  | cons t ts ih => simp [renderAll, ih]

/-- A well-formed type shows as at least one string, and none of them is empty. -/
theorem WellFormed.shown {t : TypeExpr} (h : t.WellFormed) :
    t.render ≠ [] ∧ ∀ s ∈ t.render, s ≠ "" := by
  induction h with
  | simple hne => simpa [render] using hne
  | nilable h ih =>
    rw [render]
    refine ⟨by simp, List.forall_mem_append.2 ⟨ih.2, by simp⟩⟩
  | @union alternatives hne h ih =>
    rw [render]
    constructor
    · obtain ⟨t, ts, rfl⟩ := List.exists_cons_of_ne_nil hne
      have hfirst := (ih t List.mem_cons_self).1
      simp [renderAll, hfirst]
    · intro s hs
      obtain ⟨t, ht, hm⟩ := mem_renderAll.1 hs
      exact (ih t ht).2 s hm
  | generic hc hne h ih => simp [render, hc]
  | keyed hc hk hv ihk ihv => simp [render, hc]
  | tuple hne h ih => simp [render]
  | fixedHash => simp [render]
  | proc hne => simpa [render] using hne
  | untyped => simp [render]

/-- Taking the first string of a well-formed type never fails. -/
theorem WellFormed.head?_render {t : TypeExpr} (h : t.WellFormed) :
    t.render.head? = some t.renderFirst := by
  obtain ⟨s, ss, hs⟩ := List.exists_cons_of_ne_nil h.shown.1
  simp [renderFirst, hs]

end TypeTags.TypeExpr
