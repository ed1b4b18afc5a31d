import TypeTags.Proofs.Assoc.KeyOrder
import TypeTags.Signature.Fold
import Mathlib.Data.List.Induction

/-!
# What a chain of signatures amounts to

A later signature shadows the earlier ones field by field, and each field has its own rule for when
the later one counts. Shadowing is associative, so a chain may be folded in parts. What comes out
can be said for each field by the one signature of the chain that it comes from: the last one of
all, the last one that declares a return, the last one with a text, the last one that declares the
parameter.

* `latest`: the last signature of a chain with a property.
* `Shadowed`: what a chain of signatures amounts to, field by field.

Results:
* `shadow_assoc`: shadowing is associative.
* `putAll_foldl_params`: the parameters of a chain are put one after another.
* `folded_chain`: folding in parts, and every field of a folded chain.
-/

namespace TypeTags

namespace Assoc

variable {α : Type}

/-- Pairs that were put into an empty map can be put into another one in their stead. -/
theorem putAll_putAll_nil (m : Assoc α) (pairs : List (String × α)) :
    m.putAll (putAll [] pairs) = m.putAll pairs := by
  have hnil : (keys ([] : Assoc α)).Nodup := List.nodup_nil
  exact (putAll_putAll hnil m pairs).symm

theorem nodup_keys_putAll_nil (pairs : List (String × α)) :
    (putAll [] pairs : Assoc α).keys.Nodup := by
  rw [keys_putAll]
  exact nodup_joinKeys List.nodup_nil _

/-- Of the values put at a key, the last one is found. -/
theorem get?_putAll_nil (pairs : List (String × α)) (key : String) :
    (putAll [] pairs).get? key = pairs.reverse.lookup key := by
  induction pairs using List.reverseRecOn with
  | nil => rfl
  | append_singleton pairs p ih =>
    obtain ⟨k, v⟩ := p
    have hlast : putAll [] (pairs ++ [(k, v)]) = (putAll [] pairs).put k v := List.foldl_append
    rw [hlast, get?_put, ih, List.reverse_append, List.reverse_singleton, List.singleton_append,
      List.lookup_cons]
    by_cases h : key = k
    · simp [h]
    · simp [h, beq_false_of_ne h]

end Assoc

namespace Signature

/-! ## Shadowing in parts -/

theorem laterText_assoc (a b c : Option String) :
    laterText (laterText a b) c = laterText a (laterText b c) := by
  cases c with
  | none => rfl
  | some text =>
    by_cases h : text.isEmpty = true
    · simp [laterText, h]
    · simp [laterText, h]

theorem spanThrough_assoc (a b c : Option LineSpan) :
    spanThrough (spanThrough a b) c = spanThrough a (spanThrough b c) := by
  cases a <;> cases b <;> cases c <;> rfl

theorem params_shadow (earlier later : Signature) :
    (earlier.shadow later).params = Assoc.putAll (Assoc.putAll [] earlier.params) later.params :=
  rfl

/-- The parameters of shadowed signatures are the pairs of both, put one after another. -/
theorem putAll_params_shadow (earlier later : Signature) :
    Assoc.putAll [] (earlier.shadow later).params =
      Assoc.putAll [] (earlier.params ++ later.params) := by
  have hsplit : Assoc.putAll [] (earlier.params ++ later.params) =
      Assoc.putAll (Assoc.putAll [] earlier.params) later.params := List.foldl_append
  rw [params_shadow, ← hsplit, Assoc.putAll_putAll_nil]

theorem returns_shadow (earlier later : Signature) :
    (earlier.shadow later).returns =
      if later.declaresReturn then later.returns else earlier.returns :=
  rfl

theorem isVoid_shadow (earlier later : Signature) :
    (earlier.shadow later).isVoid = if later.declaresReturn then later.isVoid else earlier.isVoid :=
  rfl

theorem declaresReturn_shadow (earlier later : Signature) :
    (earlier.shadow later).declaresReturn = (later.declaresReturn || earlier.declaresReturn) := by
  rw [declaresReturn, returns_shadow, isVoid_shadow]
  cases h : later.declaresReturn with
  | true => simpa [declaresReturn] using h
  | false => rfl

theorem shadow_assoc (a b c : Signature) : (a.shadow b).shadow c = a.shadow (b.shadow c) := by
  have hparams : ((a.shadow b).shadow c).params = (a.shadow (b.shadow c)).params := by
    have hnodup := Assoc.nodup_keys_putAll_nil b.params
    rw [params_shadow, putAll_params_shadow, params_shadow a, params_shadow b,
      ← Assoc.putAll_putAll hnodup, Assoc.putAll_putAll_nil]
    exact congrArg (Assoc.putAll · c.params) List.foldl_append
  have hreturns : ((a.shadow b).shadow c).returns = (a.shadow (b.shadow c)).returns ∧
      ((a.shadow b).shadow c).isVoid = (a.shadow (b.shadow c)).isVoid := by
    simp only [returns_shadow, isVoid_shadow, declaresReturn_shadow]
    cases c.declaresReturn <;> simp
  have htext : ((a.shadow b).shadow c).abstractText = (a.shadow (b.shadow c)).abstractText :=
    laterText_assoc a.abstractText b.abstractText c.abstractText
  have hspan : ((a.shadow b).shadow c).span = (a.shadow (b.shadow c)).span :=
    spanThrough_assoc a.span b.span c.span
  exact (Signature.mk.injEq ..).mpr
    ⟨rfl, htext, rfl, rfl, hparams, hreturns.1, hreturns.2, hspan⟩

instance : Std.Associative shadow := ⟨shadow_assoc⟩

/-! ## The signature that a field comes from -/

/-- The last signature of a chain with a property; the first one of the chain if none has it. -/
def latest (p : Signature → Bool) (first : Signature) (later : List Signature) : Signature :=
  ((first :: later).reverse.find? p).getD first

theorem latest_nil (p : Signature → Bool) (first : Signature) : latest p first [] = first := by
  unfold latest
  cases h : p first <;> simp [h]

theorem latest_concat (p : Signature → Bool) (first : Signature) (later : List Signature)
    (s : Signature) : latest p first (later ++ [s]) = if p s then s else latest p first later := by
  unfold latest
  rw [← List.cons_append, List.reverse_append, List.reverse_singleton, List.singleton_append,
    List.find?_cons]
  cases p s <;> rfl

/-- Whether the signature gives a reason for being abstract. -/
def hasText (s : Signature) : Bool := s.abstractText.any (!·.isEmpty)

/-- Whether the signature declares a parameter of the name. -/
def declares (name : String) (s : Signature) : Bool := s.paramNames.contains name

/-- The last type that the signature declares for a name. -/
def lastType? (s : Signature) (name : String) : Option TypeExpr := s.params.reverse.lookup name

/-- What a chain of at least two signatures amounts to, field by field. -/
structure Shadowed (first : Signature) (later : List Signature) (sig : Signature) : Prop where
  abstract : sig.abstract = (later.getLastD first).abstract
  overridable : sig.overridable = (later.getLastD first).overridable
  override : sig.override = (later.getLastD first).override
  abstractText : sig.abstractText = (latest hasText first later).abstractText
  /-- What is returned comes from one signature as a whole, one with a type or a void one. -/
  returned : sig.returns = (latest (fun s => s.returns.isSome || s.isVoid) first later).returns ∧
    sig.isVoid = (latest (fun s => s.returns.isSome || s.isVoid) first later).isVoid
  /-- Every parameter stands once, where it is declared first. -/
  names : sig.paramNames.Nodup ∧ sig.paramNames = ((first :: later).flatMap paramNames).eraseDups
  types : ∀ name, sig.paramType? name = (latest (declares name) first later).lastType? name
  span : ∀ a ∈ first.span, ∀ b ∈ (later.getLastD first).span, sig.span = some ⟨a.first, b.last⟩

/-! ## Fields of a folded chain -/

theorem foldl_shadow_concat (first : Signature) (later : List Signature) (s : Signature) :
    (later ++ [s]).foldl shadow first = (later.foldl shadow first).shadow s :=
  List.foldl_append

theorem abstractText_shadow (earlier later : Signature) :
    (earlier.shadow later).abstractText =
      if later.hasText then later.abstractText else earlier.abstractText := by
  unfold shadow laterText hasText
  cases h : later.abstractText with
  | none => simp
  | some text => by_cases hempty : text = "" <;> simp [hempty]

theorem abstractText_foldl (first : Signature) (later : List Signature) :
    (later.foldl shadow first).abstractText = (latest hasText first later).abstractText := by
  induction later using List.reverseRecOn with
  | nil => rw [latest_nil]; rfl
  | append_singleton later s ih =>
    rw [foldl_shadow_concat, abstractText_shadow, latest_concat, ih]
    split <;> rfl

theorem returned_foldl (first : Signature) (later : List Signature) :
    (later.foldl shadow first).returns = (latest declaresReturn first later).returns ∧
      (later.foldl shadow first).isVoid = (latest declaresReturn first later).isVoid := by
  induction later using List.reverseRecOn with
  | nil => rw [latest_nil]; exact ⟨rfl, rfl⟩
  | append_singleton later s ih =>
    rw [foldl_shadow_concat, latest_concat]
    rw [returns_shadow, isVoid_shadow, ih.1, ih.2]
    cases s.declaresReturn <;> exact ⟨rfl, rfl⟩

/-- The parameters of a chain are the pairs of all its signatures, put one after another. -/
theorem putAll_foldl_params (first : Signature) (later : List Signature) :
    Assoc.putAll [] (later.foldl shadow first).params =
      Assoc.putAll [] ((first :: later).flatMap params) := by
  induction later using List.reverseRecOn with
  | nil => simp
  | append_singleton later s ih =>
    have hsplit : ((first :: (later ++ [s])).flatMap params) =
        (first :: later).flatMap params ++ s.params := by simp
    have happend (pairs : List (String × TypeExpr)) : Assoc.putAll [] (pairs ++ s.params) =
        Assoc.putAll (Assoc.putAll [] pairs) s.params := List.foldl_append
    rw [foldl_shadow_concat, putAll_params_shadow, hsplit, happend, ih, ← happend]

theorem params_foldl (first second : Signature) (rest : List Signature) :
    ((second :: rest).foldl shadow first).params =
      Assoc.putAll [] ((first :: second :: rest).flatMap params) := by
  rw [← putAll_foldl_params]
  -- a signature that shadows another one has no name twice
  obtain ⟨init, last, heq⟩ : ∃ init last, second :: rest = init ++ [last] :=
    ⟨_, _, (List.dropLast_concat_getLast (List.cons_ne_nil second rest)).symm⟩
  have hnodup : (Assoc.keys (((second :: rest).foldl shadow first).params)).Nodup := by
    rw [heq, foldl_shadow_concat, params_shadow, Assoc.keys_putAll]
    exact Assoc.nodup_joinKeys (Assoc.nodup_keys_putAll_nil _) _
  exact (Assoc.putAll_of_nodup (m := []) hnodup).symm

theorem declares_iff (name : String) (s : Signature) :
    s.declares name = (s.lastType? name).isSome := by
  have hkeys : s.lastType? name = none ↔ name ∉ s.paramNames := by
    have h : Assoc.get? s.params.reverse name = none ↔ name ∉ Assoc.keys s.params.reverse :=
      Assoc.get?_eq_none_iff
    simpa [Assoc.keys, Assoc.get?, lastType?, paramNames] using h
  rw [Bool.eq_iff_iff, declares, List.contains_iff_mem, Option.isSome_iff_ne_none, ne_eq, hkeys,
    Decidable.not_not]

/-- The last type of a name in a chain is that of the last signature that declares it. -/
theorem lookup_flatMap_params (first : Signature) (later : List Signature) (name : String) :
    ((first :: later).flatMap params).reverse.lookup name =
      (latest (declares name) first later).lastType? name := by
  induction later using List.reverseRecOn with
  | nil => rw [latest_nil]; simp [lastType?]
  | append_singleton later s ih =>
    have hsplit : ((first :: (later ++ [s])).flatMap params).reverse =
        s.params.reverse ++ ((first :: later).flatMap params).reverse := by simp
    rw [hsplit, List.lookup_append, ih, latest_concat, declares_iff]
    cases h : s.lastType? name with
    | none =>
      rw [lastType?] at h
      simp [h]
    | some t =>
      rw [lastType?] at h
      simp [h, lastType?]

theorem span_foldl {first : Signature} {a : LineSpan} (h : first.span = some a)
    (later : List Signature) : ∃ last, (later.foldl shadow first).span = some ⟨a.first, last⟩ := by
  induction later using List.reverseRecOn with
  | nil => exact ⟨a.last, h⟩
  | append_singleton later s ih =>
    obtain ⟨last, hlast⟩ := ih
    rw [foldl_shadow_concat]
    cases hs : s.span with
    | none => exact ⟨last, by simp [shadow, spanThrough, hlast, hs]⟩
    | some b => exact ⟨b.last, by simp [shadow, spanThrough, hlast, hs]⟩

theorem shadowed_foldl (first second : Signature) (rest : List Signature) :
    Shadowed first (second :: rest) ((second :: rest).foldl shadow first) := by
  have hparams := params_foldl first second rest
  obtain ⟨init, last, heq⟩ : ∃ init last, second :: rest = init ++ [last] :=
    ⟨_, _, (List.dropLast_concat_getLast (List.cons_ne_nil second rest)).symm⟩
  have hlast : (second :: rest).getLastD first = last := by rw [heq]; simp
  have hfold : (second :: rest).foldl shadow first = (init.foldl shadow first).shadow last := by
    rw [heq, foldl_shadow_concat]
  have hnames : ((second :: rest).foldl shadow first).paramNames =
      ((first :: second :: rest).flatMap paramNames).eraseDups := by
    have hkeys := congrArg Assoc.keys hparams
    rw [Assoc.keys_putAll, Assoc.keys, Assoc.keys, List.map_nil, Assoc.nil_joinKeys] at hkeys
    rw [paramNames, hkeys, Assoc.keys, List.map_flatMap]
    rfl
  refine ⟨?_, ?_, ?_, abstractText_foldl _ _, returned_foldl _ _, ⟨?_, hnames⟩, ?_, ?_⟩
  · rw [hfold, hlast]; rfl
  · rw [hfold, hlast]; rfl
  · rw [hfold, hlast]; rfl
  · rw [paramNames, hparams]
    exact Assoc.nodup_keys_putAll_nil _
  · intro name
    rw [paramType?, hparams, ← lookup_flatMap_params]
    exact Assoc.get?_putAll_nil _ _
  · intro a ha b hb
    obtain ⟨l, hl⟩ := span_foldl ha init
    rw [hlast] at hb
    rw [hfold]
    simp [shadow, spanThrough, hl, Option.mem_def.1 hb]

/-- **Chains.** A chain of signatures may be folded in two parts. What a chain of at least two
amounts to has every parameter once, in order of first appearance, with the last type of the last
signature that declares it. It returns what the last signature that declares a return does, gives
the last reason that is not empty, and has the modifiers of the last signature. If the first and the
last signature have lines, it has the lines from the first to the last. -/
theorem folded_chain :
    (∀ x y : Signature, ∀ xs ys : List Signature, ∃ a b, fold? (x :: xs) = some a ∧
      fold? (y :: ys) = some b ∧ fold? ((x :: xs) ++ (y :: ys)) = fold? [a, b]) ∧
    ∀ (first second : Signature) (rest : List Signature), ∃ sig,
      fold? (first :: second :: rest) = some sig ∧ Shadowed first (second :: rest) sig := by
  constructor
  · intro x y xs ys
    refine ⟨xs.foldl shadow x, ys.foldl shadow y, rfl, rfl, ?_⟩
    have hparts : (xs ++ y :: ys).foldl shadow x =
        (xs.foldl shadow x).shadow (ys.foldl shadow y) := by
      rw [List.foldl_append, List.foldl_cons, List.foldl_assoc]
    exact congrArg some hparts
  · intro first second rest
    exact ⟨_, rfl, shadowed_foldl first second rest⟩

end Signature

end TypeTags
