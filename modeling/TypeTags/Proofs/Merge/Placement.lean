import TypeTags.Merge

/-!
# What merging a signature gives, tag by tag

Merging goes over the tags three times, for `@abstract`, for the parameters and for `@return`, and
each time it looks for the first tag that fits in a list that the passes before may have made longer.
What comes out can be said without passes. Every authored tag stays where it is and keeps its names
and its text; it gets other types if it is the first tag of a declared parameter, or the first
`@return` tag and its types may be replaced. The tags that are missing follow.

* `retype`: tags with new types in some places.
* `resultTypes?`: the types of what is returned.
* `paramTypes?`, `returnTypes?`: the types that a signature gives to the tag in a place.
* `missingAbstract`, `missingParams`, `missingReturn`: the tags that a signature adds.

Results:
* `Tag.upsert_append`: one pass, in front of tags that do not fit.
* `foldl_mergeParam_append`, `foldl_mergeParam_nil`: the pass for parameters, over the authored tags
  and behind them.
* `merged_tags`: the result of merging, completely.
-/

namespace TypeTags

namespace Tag

variable {fits : Tag → Bool} {change : Tag → Tag} {fresh : Tag}

/-! ## One pass -/

/-- Tags that do not fit are passed over. -/
theorem upsert_skip {tags : List Tag} (h : ∀ tag ∈ tags, fits tag = false) (rest : List Tag) :
    upsert fits change fresh (tags ++ rest) = tags ++ upsert fits change fresh rest := by
  induction tags with
  | nil => rfl
  | cons tag tags ih =>
    have htag : fits tag = false := h tag List.mem_cons_self
    have htags := ih fun t ht => h t (List.mem_cons_of_mem _ ht)
    rw [List.cons_append, upsert, htag, if_neg Bool.false_ne_true, htags, List.cons_append]

theorem mapIdx_eq_self {f : Nat → Tag → Tag} (h : ∀ i tag, f i tag = tag) (tags : List Tag) :
    tags.mapIdx f = tags := by
  refine List.ext_getElem? fun i => ?_
  have hid : f i = id := funext (h i)
  rw [List.getElem?_mapIdx, hid, Option.map_id_apply]

/-- The first of the tags that fits is changed where it stands; if none does, the fresh tag comes
last, behind tags that do not fit either. -/
theorem upsert_append (tags : List Tag) {rest : List Tag} (h : ∀ tag ∈ rest, fits tag = false) :
    upsert fits change fresh (tags ++ rest) =
      tags.mapIdx (fun i tag => if tags.findIdx? fits = some i then change tag else tag) ++ rest ++
        if tags.any fits then [] else [fresh] := by
  induction tags with
  | nil =>
    have hend : upsert fits change fresh (rest ++ []) = rest ++ [fresh] := upsert_skip h []
    rw [List.append_nil] at hend
    rw [List.nil_append, hend]
    rfl
  | cons tag tags ih =>
    rw [List.cons_append, upsert, List.mapIdx_cons, List.findIdx?_cons, List.any_cons]
    by_cases htag : fits tag = true
    · simp [htag, mapIdx_eq_self]
    · rw [if_neg htag, ih, if_neg htag]
      simp [htag]

end Tag

namespace MergePolicy

open Tag

/-! ## What a signature gives to tags -/

/-- The tags with new types in the places where there are some; names and texts stay. -/
def retype (types? : Nat → Tag → Option (List String)) (tags : List Tag) : List Tag :=
  tags.mapIdx fun i tag => { tag with types := (types? i tag).getD tag.types }

/-- The documentation types of the last type declared for a name, if one is. -/
def declaredTypes? (params : List (String × TypeExpr)) (name : String) : Option (List String) :=
  (params.reverse.lookup name).map TypeExpr.render

/-- The types that parameters give to the tag in a place: it has to be the first one of a parameter
that is declared. -/
def paramTypes? (params : List (String × TypeExpr)) (tags : List Tag) (i : Nat) (tag : Tag) :
    Option (List String) :=
  tag.name.bind fun name =>
    if tags.findIdx? (isParam name) = some i then declaredTypes? params name else none

/-- The type that a setter gives back: that of its only parameter, where the signature says nothing
of what is returned but `void`. -/
def assignedType? (target : Target) (sig : Signature) : Option TypeExpr :=
  match target.kind, sig.params with
  | .setter, [(_, assigned)] =>
    if sig.isVoid ∨ ∀ type ∈ sig.returns, type.render = ["void"] then some assigned else none
  | _, _ => none

/-- The types of what is returned, if there are some: those of the type that a setter gives back,
else `void` if the signature is void, and else those of the declared type. -/
def resultTypes? (target : Target) (sig : Signature) : Option (List String) :=
  match assignedType? target sig with
  | some assigned => some assigned.render
  | none => if sig.isVoid then some ["void"] else sig.returns.map TypeExpr.render

/-- The types that the returned value gives to the tag in a place: it has to be the first `@return`
tag, and one whose types may be replaced. -/
def returnTypes? (policy : MergePolicy) (chained : Bool) (types : Option (List String))
    (tags : List Tag) (i : Nat) (tag : Tag) : Option (List String) :=
  if tags.findIdx? (·.tagName == "return") = some i ∧
      (tag.types = [] ∨ policy = .signature ∨ chained = true) then types
  else none

/-- The new types of the authored tag in a place, if it gets some. -/
def settledTypes? (policy : MergePolicy) (target : Target) (sig : Signature) (chained : Bool)
    (i : Nat) (tag : Tag) : Option (List String) :=
  (if target.kind = .getter then none else paramTypes? sig.params target.explicitTags i tag).or
    (returnTypes? policy chained (resultTypes? target sig) target.explicitTags i tag)

/-- The `@abstract` tag, if the signature is abstract and the author wrote none. -/
def missingAbstract (sig : Signature) (tags : List Tag) : List Tag :=
  if sig.abstract && !tags.any (·.tagName == "abstract") then
    [{ tagName := "abstract", text := sig.abstractText.getD "" }]
  else []

/-- The tag of a declared parameter. -/
def paramTag (params : List (String × TypeExpr)) (name : String) : Tag :=
  { tagName := "param", name := some name, types := (declaredTypes? params name).getD [] }

/-- The tags of the declared parameters that the author did not write of, one for each name, in the
order of the signature; a getter has none. -/
def missingParams (target : Target) (sig : Signature) (tags : List Tag) : List Tag :=
  if target.kind = .getter then []
  else ((sig.paramNames.filter fun name => !tags.any (isParam name)).eraseDups).map
    (paramTag sig.params)

/-- The `@return` tag, if something is returned and the author wrote none. -/
def missingReturn (types : Option (List String)) (tags : List Tag) : List Tag :=
  if tags.any (·.tagName == "return") then []
  else types.toList.map fun types => { tagName := "return", types }

/-! ## New types -/

theorem retype_cons (types? : Nat → Tag → Option (List String)) (tag : Tag) (tags : List Tag) :
    retype types? (tag :: tags) =
      { tag with types := (types? 0 tag).getD tag.types } :: retype (fun i => types? (i + 1)) tags :=
  List.mapIdx_cons

theorem retype_none {types? : Nat → Tag → Option (List String)} (h : ∀ i tag, types? i tag = none)
    (tags : List Tag) : retype types? tags = tags :=
  mapIdx_eq_self (fun i tag => by rw [h]; rfl) tags

/-- Two passes that do not give types to the same tag are one. -/
theorem retype_retype {first second : Nat → Tag → Option (List String)}
    (h : ∀ i tag types, first i tag = some types → second i { tag with types } = none)
    (tags : List Tag) :
    retype second (retype first tags) =
      retype (fun i tag => (first i tag).or (second i tag)) tags := by
  unfold retype
  rw [List.mapIdx_mapIdx]
  congr 1
  funext i tag
  cases hfirst : first i tag with
  | none => simp [hfirst]
  | some types => simp [hfirst, h i tag types hfirst]

theorem map_tagName_retype (types? : Nat → Tag → Option (List String)) (tags : List Tag) :
    (retype types? tags).map (·.tagName) = tags.map (·.tagName) := by
  refine List.ext_getElem? fun i => ?_
  simp [retype, List.getElem?_mapIdx, Function.comp_def]

/-! ## The pass for parameters -/

@[simp] theorem declaredTypes?_nil (name : String) : declaredTypes? [] name = none := rfl

theorem declaredTypes?_cons (p : String × TypeExpr) (params : List (String × TypeExpr))
    (name : String) : declaredTypes? (p :: params) name =
      (declaredTypes? params name).or (if name = p.1 then some p.2.render else none) := by
  unfold declaredTypes?
  rw [List.reverse_cons, List.lookup_append, Option.map_or]
  obtain ⟨key, type⟩ := p
  by_cases h : name = key
  · simp [h]
  · simp [List.lookup_cons, h, beq_false_of_ne h]

theorem declaredTypes?_filter (keep : String → Bool) (params : List (String × TypeExpr))
    (name : String) : declaredTypes? (params.filter fun p => keep p.1) name =
      if keep name then declaredTypes? params name else none := by
  induction params with
  | nil => simp
  | cons p params ih =>
    rw [List.filter_cons, declaredTypes?_cons]
    by_cases hname : name = p.1
    · subst hname
      by_cases hp : keep p.1 = true
      · simp [hp, declaredTypes?_cons, ih]
      · simp [hp, ih]
    · by_cases hp : keep p.1 = true
      · simp [hp, declaredTypes?_cons, ih, hname]
      · simp [hp, ih, hname]

theorem mergeParam_cons (tag : Tag) (tags : List Tag) (p : String × TypeExpr) :
    mergeParam (tag :: tags) p =
      if isParam p.1 tag then { tag with types := p.2.render } :: tags
      else tag :: mergeParam tags p := rfl

/-- The types that parameters give to a tag with none of its kind before it. -/
def ownTypes? (params : List (String × TypeExpr)) (tag : Tag) : Option (List String) :=
  tag.name.bind fun name => if isParam name tag then declaredTypes? params name else none

theorem ownTypes?_cons (p : String × TypeExpr) (params : List (String × TypeExpr)) (tag : Tag) :
    ownTypes? (p :: params) tag =
      (ownTypes? params tag).or (if isParam p.1 tag then some p.2.render else none) := by
  unfold ownTypes?
  cases hname : tag.name with
  | none => simp [isParam, hname]
  | some name =>
    by_cases hkind : tag.tagName = "param"
    · simp [isParam, hname, hkind, declaredTypes?_cons]
    · simp [isParam, hkind]

/-- All parameters that the first tag is about end there; the others go on to the rest. -/
theorem foldl_mergeParam_cons (params : List (String × TypeExpr)) (tag : Tag) (tags : List Tag) :
    params.foldl mergeParam (tag :: tags) =
      { tag with types := (ownTypes? params tag).getD tag.types } ::
        (params.filter fun p => !isParam p.1 tag).foldl mergeParam tags := by
  induction params generalizing tag tags with
  | nil =>
    have hnone : ownTypes? [] tag = none := by
      unfold ownTypes?
      cases tag.name <;> simp
    rw [hnone]
    rfl
  | cons p params ih =>
    rw [List.foldl_cons, mergeParam_cons, ownTypes?_cons, List.filter_cons]
    by_cases h : isParam p.1 tag = true
    · rw [if_pos h, if_pos h, ih, h]
      -- the types of the tag do not matter to which parameters it is about
      have hown : ownTypes? params { tag with types := p.2.render } = ownTypes? params tag := rfl
      rw [hown]
      cases ownTypes? params tag <;> rfl
    · rw [if_neg h, if_neg h, ih, Bool.eq_false_iff.2 h, Option.or_none]
      rfl

theorem paramTypes?_head (params : List (String × TypeExpr)) (tags : List Tag) (tag : Tag) :
    paramTypes? params (tag :: tags) 0 tag = ownTypes? params tag := by
  unfold paramTypes? ownTypes?
  congr 1
  funext name
  rw [List.findIdx?_cons]
  by_cases h : isParam name tag = true <;> simp [h]

theorem paramTypes?_tail (params : List (String × TypeExpr)) (first : Tag) (tags : List Tag)
    (i : Nat) (tag : Tag) : paramTypes? params (first :: tags) (i + 1) tag =
      paramTypes? (params.filter fun p => !isParam p.1 first) tags i tag := by
  unfold paramTypes?
  congr 1
  funext name
  rw [List.findIdx?_cons, declaredTypes?_filter fun name => !isParam name first]
  by_cases h : isParam name first = true <;> simp [h]

/-- The pass over tags: each gets its types where it stands, and the parameters that none of them is
about go on to the rest. -/
theorem foldl_mergeParam_append (params : List (String × TypeExpr)) (tags rest : List Tag) :
    params.foldl mergeParam (tags ++ rest) =
      retype (paramTypes? params tags) tags ++
        (params.filter fun p => !tags.any (isParam p.1)).foldl mergeParam rest := by
  induction tags generalizing params with
  | nil =>
    have hall : (params.filter fun p => !([] : List Tag).any (isParam p.1)) = params :=
      List.filter_eq_self.2 fun _ _ => rfl
    rw [hall]
    rfl
  | cons tag tags ih =>
    have hleft : (params.filter fun p => !(tag :: tags).any (isParam p.1)) =
        (params.filter fun p => !isParam p.1 tag).filter fun p => !tags.any (isParam p.1) := by
      rw [List.filter_filter]
      simp only [List.any_cons, Bool.not_or, Bool.and_comm]
    have htail : (fun i => paramTypes? params (tag :: tags) (i + 1)) =
        paramTypes? (params.filter fun p => !isParam p.1 tag) tags :=
      funext fun i => funext (paramTypes?_tail params tag tags i)
    rw [List.cons_append, foldl_mergeParam_cons, ih, hleft, retype_cons, paramTypes?_head, htail,
      List.cons_append]

theorem isParam_paramTag (params : List (String × TypeExpr)) (name other : String) :
    isParam other (paramTag params name) = (other == name) := by
  rw [Bool.eq_iff_iff]
  simp only [isParam, paramTag, beq_self_eq_true, Bool.true_and, beq_iff_eq, Option.some.injEq]
  exact eq_comm

theorem foldl_mergeParam_fresh (p : String × TypeExpr) (params : List (String × TypeExpr)) :
    (p :: params).foldl mergeParam [] =
      paramTag (p :: params) p.1 ::
        (params.filter fun q => !q.1 == p.1).foldl mergeParam [] := by
  have hstart : mergeParam [] p = [paramTag [p] p.1] := by
    simp [mergeParam, upsert, paramTag, declaredTypes?_cons]
  have hown : ownTypes? params (paramTag [p] p.1) = declaredTypes? params p.1 := by
    simp [ownTypes?, isParam, paramTag]
  rw [List.foldl_cons, hstart, foldl_mergeParam_cons, hown]
  simp only [isParam_paramTag]
  simp only [paramTag, declaredTypes?_cons]
  cases declaredTypes? params p.1 <;> rfl

/-- The new tags of some of the names are not touched by the parameters of the others. -/
theorem map_paramTag_filter (keep : String → Bool) (params : List (String × TypeExpr)) :
    ((params.filter fun p => keep p.1).map (·.1)).eraseDups.map
        (paramTag (params.filter fun p => keep p.1)) =
      ((params.map (·.1)).filter keep).eraseDups.map (paramTag params) := by
  have hnames : (params.filter fun p => keep p.1).map (·.1) = (params.map (·.1)).filter keep := by
    rw [List.filter_map]
    rfl
  rw [hnames]
  refine List.map_congr_left fun name hname => ?_
  have hkeep : keep name = true := (List.mem_filter.1 (List.mem_eraseDups.1 hname)).2
  rw [paramTag, declaredTypes?_filter, if_pos hkeep]
  rfl

/-- The pass behind the tags: one new tag for each name that is declared. -/
theorem foldl_mergeParam_nil (params : List (String × TypeExpr)) :
    params.foldl mergeParam [] = (params.map (·.1)).eraseDups.map (paramTag params) := by
  -- the parameters of one name end in its tag; the others are fewer
  induction hn : params.length using Nat.strongRecOn generalizing params with
  | ind n ih =>
    cases params with
    | nil => rfl
    | cons p params =>
      have hfewer : (params.filter fun q => !q.1 == p.1).length < n := by
        have := List.length_filter_le (fun q => !q.1 == p.1) params
        simp only [List.length_cons] at hn
        omega
      rw [foldl_mergeParam_fresh, ih _ hfewer _ rfl, map_paramTag_filter fun name => !name == p.1,
        List.map_cons, List.eraseDups_cons, List.map_cons]
      congr 1
      refine List.map_congr_left fun name hname => ?_
      have hother : name ≠ p.1 := by
        simpa using (List.mem_filter.1 (List.mem_eraseDups.1 hname)).2
      simp [paramTag, declaredTypes?_cons, hother]

/-- The pass behind tags of other kinds. -/
theorem foldl_mergeParam_skip {tags : List Tag} (h : ∀ tag ∈ tags, tag.tagName ≠ "param")
    (params : List (String × TypeExpr)) (rest : List Tag) :
    params.foldl mergeParam (tags ++ rest) = tags ++ params.foldl mergeParam rest := by
  induction params generalizing rest with
  | nil => rfl
  | cons p params ih =>
    have hskip : mergeParam (tags ++ rest) p = tags ++ mergeParam rest p :=
      upsert_skip (fun tag htag => by simp [isParam, h tag htag]) rest
    rw [List.foldl_cons, hskip, ih, List.foldl_cons]

/-! ## What is returned -/

/-- A setter gives back its only parameter exactly where the types of what is returned are missing or
are `void`. -/
theorem renderReturn_open_iff (sig : Signature) :
    (sig.renderReturn = none ∨ sig.renderReturn = some ["void"]) ↔
      sig.isVoid ∨ ∀ type ∈ sig.returns, type.render = ["void"] := by
  unfold Signature.renderReturn
  cases sig.isVoid <;> cases sig.returns <;> simp

theorem returnTypes_eq (target : Target) (sig : Signature) :
    returnTypes target sig = resultTypes? target sig := by
  have hplain : (if sig.isVoid then some ["void"] else sig.returns.map TypeExpr.render) =
      sig.renderReturn := rfl
  simp only [returnTypes, resultTypes?, assignedType?, hplain, renderReturn_open_iff]
  cases target.kind with
  | setter =>
    rcases sig.params with - | ⟨assigned, - | ⟨other, others⟩⟩
    · simp
    · simp only [true_and]
      split <;> rfl
    · simp
  | classBody | moduleBody | instanceMethod | classMethod | getter => simp

/-! ## The whole merge -/

theorem mergeAbstract_eq (sig : Signature) (tags : List Tag) :
    mergeAbstract sig tags = tags ++ missingAbstract sig tags := by
  unfold mergeAbstract missingAbstract
  cases sig.abstract with
  | false => simp
  | true =>
    have hpass := @upsert_append (·.tagName == "abstract") id
      { tagName := "abstract", text := sig.abstractText.getD "" } tags [] (by simp)
    rw [List.append_nil, List.append_nil, mapIdx_eq_self (fun i tag => by simp)] at hpass
    rw [if_pos rfl, hpass]
    cases tags.any (·.tagName == "abstract") <;> rfl

theorem mergeParams_eq (target : Target) (sig : Signature) (tags : List Tag) {rest : List Tag}
    (h : ∀ tag ∈ rest, tag.tagName ≠ "param") :
    mergeParams target sig (tags ++ rest) =
      retype (fun i tag => if target.kind = .getter then none
        else paramTypes? sig.params tags i tag) tags ++
          (rest ++ missingParams target sig tags) := by
  unfold mergeParams missingParams
  by_cases hkind : target.kind = .getter
  · simp only [hkind, if_true, List.append_nil]
    rw [retype_none fun _ _ => rfl]
  · have hnew := foldl_mergeParam_skip h (sig.params.filter fun p => !tags.any (isParam p.1)) []
    rw [List.append_nil, foldl_mergeParam_nil,
      map_paramTag_filter fun name => !tags.any (isParam name)] at hnew
    simp only [hkind, if_false]
    rw [foldl_mergeParam_append, hnew]
    rfl

theorem mergeReturn_eq (policy : MergePolicy) (chained : Bool) (types : Option (List String))
    (tags : List Tag) {rest : List Tag} (h : ∀ tag ∈ rest, tag.tagName ≠ "return") :
    mergeReturn policy chained types (tags ++ rest) =
      retype (returnTypes? policy chained types tags) tags ++
        (rest ++ missingReturn types tags) := by
  unfold mergeReturn missingReturn
  cases types with
  | none =>
    rw [retype_none fun i tag => by simp [returnTypes?]]
    simp
  | some types =>
    dsimp only
    rw [upsert_append tags fun tag htag => by simp [h tag htag], List.append_assoc]
    congr 1
    unfold retype
    congr 1
    funext i tag
    by_cases hi : tags.findIdx? (·.tagName == "return") = some i
    · have hrule : (tag.types.isEmpty || policy == .signature || chained) = true ↔
          tag.types = [] ∨ policy = .signature ∨ chained = true := by
        simp [or_assoc]
      simp only [returnTypes?, hi, hrule, true_and, if_true]
      split <;> rfl
    · simp [returnTypes?, hi]

/-- Which tag is the first `@return` tag does not depend on types. -/
theorem findIdx?_return_retype (types? : Nat → Tag → Option (List String)) (tags : List Tag) :
    (retype types? tags).findIdx? (·.tagName == "return") =
      tags.findIdx? (·.tagName == "return") := by
  have hnames (tags : List Tag) : tags.findIdx? (·.tagName == "return") =
      (tags.map (·.tagName)).findIdx? (· == "return") := by
    rw [List.findIdx?_map]
    rfl
  rw [hnames, map_tagName_retype, ← hnames]

theorem missingReturn_retype (types : Option (List String))
    (types? : Nat → Tag → Option (List String)) (tags : List Tag) :
    missingReturn types (retype types? tags) = missingReturn types tags := by
  unfold missingReturn
  rw [← List.findIdx?_isSome, findIdx?_return_retype, List.findIdx?_isSome]

/-- A tag that gets the types of a parameter is no `@return` tag. -/
theorem findIdx?_return_ne {params : List (String × TypeExpr)} {tags : List Tag} {i : Nat}
    {tag : Tag} {types : List String} (h : paramTypes? params tags i tag = some types) :
    tags.findIdx? (·.tagName == "return") ≠ some i := by
  intro hreturn
  obtain ⟨name, -, hname⟩ := Option.bind_eq_some_iff.1 h
  split at hname
  · rename_i hparam
    obtain ⟨hi, hr, -⟩ := List.findIdx?_eq_some_iff_getElem.1 hreturn
    obtain ⟨_, hp, -⟩ := List.findIdx?_eq_some_iff_getElem.1 hparam
    simp only [isParam, Bool.and_eq_true, beq_iff_eq] at hp hr
    rw [hp.1] at hr
    exact absurd hr (by decide)
  · cases hname

theorem tagName_missingAbstract {sig : Signature} {tags : List Tag} {tag : Tag}
    (h : tag ∈ missingAbstract sig tags) : tag.tagName = "abstract" := by
  unfold missingAbstract at h
  split at h
  · rw [List.mem_singleton.1 h]
  · cases h

theorem tagName_missingParams {target : Target} {sig : Signature} {tags : List Tag} {tag : Tag}
    (h : tag ∈ missingParams target sig tags) : tag.tagName = "param" := by
  unfold missingParams at h
  split at h
  · cases h
  · obtain ⟨name, -, rfl⟩ := List.mem_map.1 h
    rfl

/-- **Merging.** The tags of a target with a signature are its authored tags, in their places, and
the missing ones behind them: `@abstract`, the parameters in the order of the signature, `@return`.
An authored tag keeps its tag name, its name and its text. It gets the types of the last declaration
of a parameter, if the target is no getter and the tag is the first for that parameter; and those
that are returned, if it is the first `@return` tag, something is returned, and it has no types of
its own, or the policy prefers signatures, or the signature is a chain. Else it keeps its types. A
setter for which the signature says nothing of what is returned, or only `void`, returns its one
parameter; otherwise a void signature returns `void`, and one with a type the types shown for it. -/
theorem merged_tags (policy : MergePolicy) (target : Target) (sig : Signature) (chained : Bool) :
    policy.merge target (some sig) chained =
      retype (policy.settledTypes? target sig chained) target.explicitTags ++
        (missingAbstract sig target.explicitTags ++ missingParams target sig target.explicitTags ++
          missingReturn (resultTypes? target sig) target.explicitTags) := by
  have hothers : ∀ tag ∈ missingAbstract sig target.explicitTags ++
      missingParams target sig target.explicitTags, tag.tagName ≠ "return" := by
    intro tag htag
    rcases List.mem_append.1 htag with h | h
    · simp [tagName_missingAbstract h]
    · simp [tagName_missingParams h]
  unfold merge
  dsimp only
  rw [returnTypes_eq, mergeAbstract_eq,
    mergeParams_eq target sig _ fun tag h => by simp [tagName_missingAbstract h],
    mergeReturn_eq policy chained _ _ hothers, missingReturn_retype]
  -- no tag is given types by both passes, so they are one
  congr 1
  refine (retype_retype ?_ _).trans ?_
  · intro i tag types hfirst
    split at hfirst
    · cases hfirst
    · simp [returnTypes?, findIdx?_return_retype, findIdx?_return_ne hfirst]
  · congr 1
    funext i tag
    simp only [settledTypes?, returnTypes?, findIdx?_return_retype]

/-- Of parameters that are declared twice, the last type counts. -/
example :
    let param (name : String) (types : List String) : Tag := { tagName := "param", name, types }
    let result (types : List String) : Tag := { tagName := "return", types }
    explicit.merge
        { kind := .instanceMethod, name := "m"
          explicitTags := [param "a" ["X"], result ["Y"], param "a" []] }
        (some
          { params := [("b", .simple "Z"), ("a", .simple "P"), ("b", .nilable (.simple "Q")),
                       ("a", .simple "R")]
            returns := some (.simple "S") })
        false =
      [param "a" ["R"], result ["Y"], param "a" [], param "b" ["Q", "nil"]] := by
  decide +kernel

end MergePolicy

end TypeTags
