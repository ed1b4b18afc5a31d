import TypeTags.Proofs.Merge.Placement
import TypeTags.Proofs.Registry.Steps
import Mathlib.Data.List.Induction

/-!
# Merging and declaring once more

Each pass of a merge looks for the first tag of its kind. After the pass that tag is there, and as
the pass would leave it; the other passes change tags of other kinds only. So a merge finds nothing
to do in tags that it has made. The entry of a member holds such tags, and a declaration without
tags of its own merges the signature into them again.

* `Assembly.Settled`: tags that a merge of the signature leaves as they are.
* `Association.Makes`: the association makes the thing at a path a member of a kind.
* `Association.SameSignature`: two associations have the same signature, on whatever lines.

Results:
* `Tag.find?_upsert`, `Tag.find?_upsert_other`: what is found first after a pass.
* `MergePolicy.foldl_mergeParam_settled`: the pass for parameters, over tags that have their types.
* `MergePolicy.merge_merge`: a second merge changes nothing.
* `Assembly.repeated_declaration`: neither does a second declaration.
-/

namespace TypeTags

namespace Tag

variable {fits other : Tag → Bool} {change : Tag → Tag} {fresh : Tag}

/-! ## What a pass leaves -/

/-- A pass changes nothing if it would not change the first tag that fits. -/
theorem upsert_eq_self {tags : List Tag} {tag : Tag} (h : tags.find? fits = some tag)
    (hc : change tag = tag) : upsert fits change fresh tags = tags := by
  induction tags with
  | nil => cases h
  | cons first tags ih =>
    rw [List.find?_cons] at h
    unfold upsert
    cases hf : fits first with
    | true =>
      rw [hf] at h
      obtain rfl : first = tag := Option.some.inj h
      rw [if_pos rfl, hc]
    | false =>
      rw [hf] at h
      rw [if_neg Bool.false_ne_true, ih h]

/-- Behind a pass, the first tag that fits is the changed one or the fresh one. -/
theorem find?_upsert (hf : fits fresh = true)
    (hc : ∀ tag, fits tag = true → fits (change tag) = true) (tags : List Tag) :
    (upsert fits change fresh tags).find? fits =
      some (((tags.find? fits).map change).getD fresh) := by
  induction tags with
  | nil => simp [upsert, hf]
  | cons first tags ih =>
    unfold upsert
    cases hfirst : fits first with
    | true => simp [hfirst, hc first hfirst]
    | false => simp [hfirst, ih]

/-- A pass does not change which tag of another kind is found first. -/
theorem find?_upsert_other (hf : other fresh = false)
    (hc : ∀ tag, fits tag = true → other tag = false ∧ other (change tag) = false)
    (tags : List Tag) : (upsert fits change fresh tags).find? other = tags.find? other := by
  induction tags with
  | nil => simp [upsert, hf]
  | cons first tags ih =>
    unfold upsert
    cases hfirst : fits first with
    | true => simp [hc first hfirst]
    | false => simp [List.find?_cons, ih]

end Tag

namespace MergePolicy

open Tag

/-! ## The pass for parameters -/

/-- Every declared parameter has a tag, and the first one has the types of its last declaration. -/
def Typed (params : List (String × TypeExpr)) (tags : List Tag) : Prop :=
  ∀ name types, declaredTypes? params name = some types →
    ∃ tag, tags.find? (isParam name) = some tag ∧ tag.types = types

theorem declaredTypes?_concat (params : List (String × TypeExpr)) (p : String × TypeExpr)
    (name : String) : declaredTypes? (params ++ [p]) name =
      if name = p.1 then some p.2.render else declaredTypes? params name := by
  obtain ⟨key, type⟩ := p
  unfold declaredTypes?
  rw [List.reverse_append, List.reverse_singleton, List.singleton_append, List.lookup_cons]
  by_cases h : name = key
  · simp [h]
  · simp [h, beq_false_of_ne h]

theorem isParam_iff {name : String} {tag : Tag} :
    isParam name tag = true ↔ tag.tagName = "param" ∧ tag.name = some name := by
  simp [isParam]

/-- The pass for one parameter does not change what is found first for another one. -/
theorem find?_mergeParam_ne {p : String × TypeExpr} {name : String} (h : name ≠ p.1)
    (tags : List Tag) :
    (mergeParam tags p).find? (isParam name) = tags.find? (isParam name) := by
  have hother : ∀ tag : Tag, tag.name = some p.1 → isParam name tag = false := by
    intro tag htag
    simp [isParam, htag, Ne.symm h]
  apply find?_upsert_other
  · exact hother _ rfl
  · intro tag htag
    exact ⟨hother tag (isParam_iff.1 htag).2, hother _ (isParam_iff.1 htag).2⟩

theorem typed_foldl_mergeParam (params : List (String × TypeExpr)) (tags : List Tag) :
    Typed params (params.foldl mergeParam tags) := by
  -- the last parameter is the one that counts, so the induction takes it off
  induction params using List.reverseRecOn with
  | nil => intro name types h; cases h
  | append_singleton params p ih =>
    intro name types h
    have hlast : (params ++ [p]).foldl mergeParam tags =
        mergeParam (params.foldl mergeParam tags) p := List.foldl_append
    rw [hlast]
    rw [declaredTypes?_concat] at h
    by_cases hname : name = p.1
    · rw [if_pos hname] at h
      obtain rfl : p.2.render = types := Option.some.inj h
      have hfresh : isParam p.1 { tagName := "param", name := some p.1, types := p.2.render } := by
        simp [isParam]
      rw [hname]
      refine ⟨_, find?_upsert hfresh ?_ _, ?_⟩
      · exact fun tag htag => htag
      · cases (params.foldl mergeParam tags).find? (isParam p.1) <;> rfl
    · rw [if_neg hname] at h
      rw [find?_mergeParam_ne hname]
      exact ih name types h

theorem retype_eq_self {types? : Nat → Tag → Option (List String)} {tags : List Tag}
    (h : ∀ i tag, tags[i]? = some tag → ∀ types ∈ types? i tag, tag.types = types) :
    retype types? tags = tags := by
  refine List.ext_getElem? fun i => ?_
  rw [retype, List.getElem?_mapIdx]
  cases hi : tags[i]? with
  | none => rfl
  | some tag =>
    cases ht : types? i tag with
    | none => simp [ht]
    | some types =>
      have := h i tag hi types ht
      simp [ht, ← this]

theorem exists_declaredTypes {params : List (String × TypeExpr)} {p : String × TypeExpr}
    (h : p ∈ params) : ∃ types, declaredTypes? params p.1 = some types := by
  induction params with
  | nil => cases h
  | cons q params ih =>
    rw [declaredTypes?_cons]
    rcases List.mem_cons.1 h with rfl | h
    · cases declaredTypes? params p.1 <;> simp
    · obtain ⟨types, ht⟩ := ih h
      exact ⟨types, by rw [ht]; rfl⟩

/-- The pass for parameters leaves tags that have their types, also if a name is declared several
times and its types change on the way. -/
theorem foldl_mergeParam_settled {params : List (String × TypeExpr)} {tags : List Tag}
    (h : Typed params tags) : params.foldl mergeParam tags = tags := by
  have hnone : (params.filter fun p => !tags.any (isParam p.1)) = [] := by
    rw [List.filter_eq_nil_iff]
    intro p hp
    obtain ⟨types, ht⟩ := exists_declaredTypes hp
    obtain ⟨tag, htag, -⟩ := h p.1 types ht
    have hany : tags.any (isParam p.1) = true :=
      List.any_eq_true.2 ⟨tag, List.mem_of_find?_eq_some htag, List.find?_some htag⟩
    simp [hany]
  have hkeep : retype (paramTypes? params tags) tags = tags := by
    refine retype_eq_self fun i tag hi types ht => ?_
    obtain ⟨name, -, ht⟩ := Option.bind_eq_some_iff.1 ht
    split at ht
    · rename_i hfirst
      obtain ⟨first, hfound, htypes⟩ := h name types ht
      obtain ⟨hlt, -, -⟩ := List.findIdx?_eq_some_iff_getElem.1 hfirst
      have hsame : tags.find? (isParam name) = tags[i]? := by
        rw [List.find?_eq_bind_findIdx?_getElem?, hfirst, Option.bind_some]
      rw [hsame, hi] at hfound
      rw [Option.some.inj hfound, htypes]
    · cases ht
  have hpass := foldl_mergeParam_append params tags []
  rw [List.append_nil, hnone, hkeep, List.foldl_nil, List.append_nil] at hpass
  exact hpass

/-! ## The three passes together -/

theorem find?_mergeParam_other {other : Tag → Bool}
    (h : ∀ tag : Tag, tag.tagName = "param" → other tag = false) (tags : List Tag)
    (p : String × TypeExpr) : (mergeParam tags p).find? other = tags.find? other := by
  apply find?_upsert_other
  · exact h _ rfl
  · intro tag htag
    exact ⟨h tag (isParam_iff.1 htag).1, h _ (isParam_iff.1 htag).1⟩

theorem find?_mergeParams_other {other : Tag → Bool}
    (h : ∀ tag : Tag, tag.tagName = "param" → other tag = false) (target : Target)
    (sig : Signature) (tags : List Tag) :
    (mergeParams target sig tags).find? other = tags.find? other := by
  unfold mergeParams
  split
  · rfl
  · induction sig.params generalizing tags with
    | nil => rfl
    | cons p params ih => rw [List.foldl_cons, ih, find?_mergeParam_other h]

theorem find?_mergeReturn_other {other : Tag → Bool}
    (h : ∀ tag : Tag, tag.tagName = "return" → other tag = false) (policy : MergePolicy)
    (chained : Bool) (types : Option (List String)) (tags : List Tag) :
    (mergeReturn policy chained types tags).find? other = tags.find? other := by
  unfold mergeReturn
  split
  · rfl
  · apply find?_upsert_other
    · exact h _ rfl
    · intro tag htag
      have hname : tag.tagName = "return" := by simpa using htag
      refine ⟨h tag hname, h _ ?_⟩
      split <;> exact hname

theorem mergeReturn_mergeReturn (policy : MergePolicy) (chained : Bool)
    (types : Option (List String)) (tags : List Tag) :
    mergeReturn policy chained types (mergeReturn policy chained types tags) =
      mergeReturn policy chained types tags := by
  cases types with
  | none => rfl
  | some types =>
    unfold mergeReturn
    dsimp only
    refine upsert_eq_self (find?_upsert rfl (fun tag htag => ?_) tags) ?_
    · split <;> exact htag
    · cases tags.find? (·.tagName == "return") with
      | none => simp
      | some tag =>
        simp only [Option.map_some, Option.getD_some]
        split
        · simp
        · rfl

/-- **Merging again.** Merging a signature into the tags that merging it has given changes nothing.
-/
theorem merge_merge (policy : MergePolicy) (target : Target) (sig : Option Signature)
    (chained : Bool) :
    policy.merge { target with explicitTags := policy.merge target sig chained } sig chained =
      policy.merge target sig chained := by
  cases sig with
  | none => rfl
  | some sig =>
    have hmerge : ∀ tags,
        policy.merge { target with explicitTags := tags } (some sig) chained =
          mergeReturn policy chained (returnTypes target sig)
            (mergeParams target sig (mergeAbstract sig tags)) := fun _ => rfl
    have habstract : mergeAbstract sig (policy.merge target (some sig) chained) =
        policy.merge target (some sig) chained := by
      unfold mergeAbstract
      split
      · rename_i ha
        -- the tag that the first pass finds or makes is still there behind the others
        have hfound : (policy.merge target (some sig) chained).find? (·.tagName == "abstract") =
            (mergeAbstract sig target.explicitTags).find? (·.tagName == "abstract") := by
          rw [merge, find?_mergeReturn_other (by simp +contextual),
            find?_mergeParams_other (by simp +contextual)]
        rw [mergeAbstract, if_pos ha, find?_upsert] at hfound
        · exact upsert_eq_self hfound rfl
        · rfl
        · exact fun _ h => h
      · rfl
    have hparams : mergeParams target sig (policy.merge target (some sig) chained) =
        policy.merge target (some sig) chained := by
      by_cases hkind : target.kind = .getter
      · rw [mergeParams, if_pos hkind]
      · have htyped := typed_foldl_mergeParam sig.params (mergeAbstract sig target.explicitTags)
        rw [mergeParams, if_neg hkind]
        refine foldl_mergeParam_settled fun name types ht => ?_
        rw [merge, find?_mergeReturn_other (by simp +contextual [isParam]), mergeParams,
          if_neg hkind]
        exact htyped name types ht
    rw [hmerge, habstract, hparams]
    exact mergeReturn_mergeReturn _ _ _ _

end MergePolicy

/-! ## Declaring again -/

def Signature.unplaced (sig : Signature) : Signature := { sig with span := none }

namespace Association

/-- The association makes the thing at a path a member of the kind: it has targets there, and all of
them are of the kind. A path that is declared once as a member of one kind and once as a member of
another, such as a method `x=` and then a writer of `x`, may get other tags. -/
structure Makes (as : Association) (path : String) (kind : ObjectKind) : Prop where
  mem : path ∈ as.targets.map Target.path
  kinds : ∀ target ∈ as.targets, target.path = path → target.kind = kind

/-- Both associations have the same signature, on whatever lines, from as long a chain. -/
structure SameSignature (as as' : Association) : Prop where
  signature : as'.signature.map Signature.unplaced = as.signature.map Signature.unplaced
  chained : as'.chained = as.chained

end Association

/-- Of a target only its kind and its tags matter to a merge, and of a signature all but its lines.
-/
theorem MergePolicy.merge_congr (policy : MergePolicy) {target target' : Target}
    {sig sig' : Option Signature} (hk : target'.kind = target.kind)
    (ht : target'.explicitTags = target.explicitTags)
    (hs : sig'.map Signature.unplaced = sig.map Signature.unplaced) (chained : Bool) :
    policy.merge target' sig' chained = policy.merge target sig chained := by
  have hlines : ∀ (target : Target) (sig : Option Signature),
      policy.merge target sig chained =
        policy.merge { kind := target.kind, name := "", explicitTags := target.explicitTags }
          (sig.map Signature.unplaced) chained := by
    intro target sig
    cases sig <;> rfl
  rw [hlines, hlines target, hk, ht, hs]

namespace Assembly

/-- Merging the signature of the association into the tags, for a target of the kind, leaves them as
they are. -/
def Settled (policy : MergePolicy) (as : Association) (kind : ObjectKind) (tags : List Tag) :
    Prop :=
  ∀ target : Target, target.kind = kind → target.explicitTags = tags →
    policy.merge target as.signature as.chained = tags

theorem settled_merge (policy : MergePolicy) (as : Association) (target : Target) :
    Settled policy as target.kind (policy.merge target as.signature as.chained) := by
  intro target' hk ht
  have hagain := policy.merge_merge target as.signature as.chained
  refine Eq.trans ?_ hagain
  refine policy.merge_congr ?_ ?_ rfl as.chained
  · exact hk
  · exact ht

theorem Settled.same {policy : MergePolicy} {as as' : Association} {kind : ObjectKind}
    {tags : List Tag} (h : Settled policy as kind tags) (hs : as.SameSignature as') :
    Settled policy as' kind tags := by
  intro target hk ht
  rw [hs.chained]
  exact (policy.merge_congr rfl rfl hs.signature as.chained).trans (h target hk ht)

def tagsAt? (a : Assembly) (path : String) : Option (List Tag) :=
  (a.registry.at? path).map (·.tags)

theorem registerTarget_settled (as : Association) (a : Assembly) (target : Target) :
    ∃ tags, (registerTarget as a target).tagsAt? target.path = some tags ∧
      Settled a.policy as target.kind tags := by
  unfold registerTarget tagsAt?
  simp only [Registry.at?_register, if_true, Option.map_some]
  refine ⟨_, rfl, ?_⟩
  cases a.registry.at? target.path with
  | none => exact settled_merge _ _ _
  | some e =>
    exact settled_merge a.policy as
      { target with explicitTags := Tag.overlay e.tags target.explicitTags }

/-- Entering targets that make the thing at a path a member of a kind leaves settled tags there. -/
theorem registerTargets_settled {as : Association} {targets : List Target} {path : String}
    {kind : ObjectKind} (hm : path ∈ targets.map Target.path)
    (hk : ∀ target ∈ targets, target.path = path → target.kind = kind) (a : Assembly) :
    ∃ tags, (targets.foldl (registerTarget as) a).tagsAt? path = some tags ∧
      Settled a.policy as kind tags := by
  induction targets generalizing a with
  | nil => cases hm
  | cons target targets ih =>
    rw [List.foldl_cons]
    have hrest : ∀ t ∈ targets, t.path = path → t.kind = kind :=
      fun t ht => hk t (List.mem_cons_of_mem _ ht)
    by_cases hmore : path ∈ targets.map Target.path
    · exact ih hmore hrest (registerTarget as a target)
    · -- this is the last target there
      have hpath : path = target.path := by
        rcases List.mem_cons.1 hm with h | h
        · exact h
        · exact absurd h hmore
      obtain ⟨tags, htags, hset⟩ := registerTarget_settled as a target
      rw [hk target List.mem_cons_self hpath.symm] at hset
      refine ⟨tags, ?_, hset⟩
      rw [tagsAt?, registerTargets_other hmore, hpath]
      exact htags

/-- Entering targets without tags of their own keeps settled tags. -/
theorem registerTargets_keep {as : Association} {targets : List Target} {path : String}
    {kind : ObjectKind} (hk : ∀ target ∈ targets, target.path = path → target.kind = kind)
    (ht : ∀ target ∈ targets, target.explicitTags = []) {a : Assembly} {tags : List Tag}
    (h : a.tagsAt? path = some tags) (hs : Settled a.policy as kind tags) :
    (targets.foldl (registerTarget as) a).tagsAt? path = some tags := by
  induction targets generalizing a with
  | nil => exact h
  | cons target targets ih =>
    rw [List.foldl_cons]
    refine ih (fun t hmem => hk t (List.mem_cons_of_mem _ hmem))
      (fun t hmem => ht t (List.mem_cons_of_mem _ hmem)) ?_ hs
    by_cases hpath : path = target.path
    · subst hpath
      obtain ⟨e, he, htags⟩ := Option.map_eq_some_iff.1 h
      have hnone : target.explicitTags = [] := ht target List.mem_cons_self
      have hmerge := hs { target with explicitTags := Tag.overlay e.tags target.explicitTags }
        (hk target List.mem_cons_self rfl) (by rw [hnone, ← htags]; rfl)
      unfold registerTarget tagsAt?
      simp only [he, Registry.at?_register, if_true, Option.map_some, hmerge]
    · rw [tagsAt?, registerTarget_other hpath]
      exact h

/-- A declaration that is answered with an association that has targets enters these. -/
theorem declare_targets {a : Assembly} {d : Declaration} {as : Association}
    (h : (a.attribution.declare d).2 = .ok (some as)) (hm : as.targets ≠ []) :
    (a.declare d).1 = as.targets.foldl (registerTarget as)
      { a with attribution := (a.attribution.declare d).1 } := by
  obtain ⟨hd, ht⟩ := declare_answer h
  have hkind : as.declaration.kind.isNamespace = false := by
    rw [hd]
    rw [ht] at hm
    cases hk : d.kind <;> simp [hk, DeclarationKind.isNamespace, Declaration.targets] at hm ⊢
  rw [declare_eq, h]
  simp [register, hkind]

theorem registerTargets_policy (as : Association) (targets : List Target) (a : Assembly) :
    (targets.foldl (registerTarget as) a).policy = a.policy := by
  induction targets generalizing a with
  | nil => rfl
  | cons target targets ih => exact ih (registerTarget as a target)

/-- **Declaring again.** Merging a signature into the tags that merging it has given changes
nothing, whatever the policy and the target. So in any state, let a declaration make the thing at a
path a member of some kind, and let the next one do so too, with the same signature and without tags
of its own: the tags of the entry stay as they are. -/
theorem repeated_declaration :
    (∀ (policy : MergePolicy) (target : Target) (sig : Option Signature) (chained : Bool),
      policy.merge { target with explicitTags := policy.merge target sig chained } sig chained =
        policy.merge target sig chained) ∧
    ∀ (a : Assembly) (d d' : Declaration) (as as' : Association) (path : String)
      (kind : ObjectKind), (a.attribution.declare d).2 = .ok (some as) →
      ((a.declare d).1.attribution.declare d').2 = .ok (some as') → as.Makes path kind →
      as'.Makes path kind → as.SameSignature as' → as'.explicitTags = [] →
      ∃ tags, (a.declare d).1.tagsAt? path = some tags ∧
        ((a.declare d).1.declare d').1.tagsAt? path = some tags := by
  refine ⟨MergePolicy.merge_merge, ?_⟩
  intro a d d' as as' path kind hd hd' hm hm' hsame hnone
  have hne : ∀ {as : Association}, as.Makes path kind → as.targets ≠ [] := by
    intro as h hnil
    have := h.mem
    rw [hnil] at this
    cases this
  have hfirst := declare_targets hd (hne hm)
  have hsecond := declare_targets hd' (hne hm')
  obtain ⟨tags, htags, hset⟩ := registerTargets_settled hm.mem hm.kinds
    { a with attribution := (a.attribution.declare d).1 }
  rw [← hfirst] at htags
  refine ⟨tags, htags, ?_⟩
  rw [hsecond]
  refine registerTargets_keep hm'.kinds ?_ htags ?_
  · intro target hmem
    rw [(declare_answer hd').2] at hmem
    rw [targets_explicitTags hmem, hnone]
  · have hpolicy : (a.declare d).1.policy = a.policy := by rw [hfirst, registerTargets_policy]
    rw [hpolicy]
    exact hset.same hsame

/-- A method with a signature, behind some text. -/
def annotated (before : String) : Declaration :=
  { kind := .method, name := "m",
    precedingText := before ++ "sig \x7b abstract(\"why\").void \x7d\n" }

/-- The state behind the method with a comment. -/
def annotatedState : Assembly :=
  ((start none .explicit).declare (annotated "# @return [Any] it\n")).1

/-- The association has the method and its signature, in which there are no types. -/
def IsAnnotated (as : Association) : Prop :=
  as.targets.map (fun target => (target.path, target.kind)) = [("#m", .instanceMethod)] ∧
    as.chained = false ∧ ∃ s ∈ as.signature, s.params.isEmpty ∧ s.returns.isNone ∧ s.isVoid ∧
      (s.abstract, s.abstractText, s.overridable, s.override) = (true, some "why", false, false)

instance (as : Association) : Decidable (IsAnnotated as) :=
  inferInstanceAs (Decidable (_ ∧ _ ∧ _))

theorem IsAnnotated.makes {as : Association} (h : IsAnnotated as) :
    as.Makes "#m" .instanceMethod := by
  obtain ⟨target, htargets, htarget⟩ := List.map_eq_singleton_iff.1 h.1
  obtain ⟨hpath, hkind⟩ := Prod.mk.inj htarget
  exact ⟨by simp [htargets, hpath], by simp [htargets, hkind]⟩

theorem IsAnnotated.signature_eq {as : Association} (h : IsAnnotated as) :
    as.signature.map Signature.unplaced =
      some { abstract := true, abstractText := "why", isVoid := true } := by
  obtain ⟨s, hs, hp, hr, hv, hrest⟩ := h.2.2
  simp only [Prod.mk.injEq] at hrest
  simp [Option.mem_def.1 hs, Signature.unplaced, List.isEmpty_iff.1 hp,
    Option.isNone_iff_eq_none.1 hr, hv, hrest]

theorem repeated_declaration_annotated :
    annotatedState.tagsAt? "#m" = some [{ tagName := "return", types := ["Any"], text := "it" },
      { tagName := "abstract", text := "why" }] ∧
    (annotatedState.declare (annotated "\n")).1.tagsAt? "#m" = annotatedState.tagsAt? "#m" := by
  obtain ⟨as, has, h⟩ : ∃ as ∈ (start none .explicit).answer?
      (.declare (annotated "# @return [Any] it\n")), IsAnnotated as := by decide +kernel
  obtain ⟨as', has', h', hnone⟩ : ∃ as ∈ annotatedState.answer? (.declare (annotated "\n")),
      IsAnnotated as ∧ as.explicitTags = [] := by decide +kernel
  obtain ⟨tags, htags, htags'⟩ := repeated_declaration.2 _ _ _ _ _ "#m" .instanceMethod
    (answer?_eq_some_iff.1 has) (answer?_eq_some_iff.1 has') h.makes h'.makes
    ⟨h'.signature_eq.trans h.signature_eq.symm, h'.2.1.trans h.2.1.symm⟩ hnone
  exact ⟨by decide +kernel, htags'.trans htags.symm⟩

end Assembly

end TypeTags
