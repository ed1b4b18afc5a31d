import TypeTags.Proofs.Attribution.Absorb
import TypeTags.Registry.Assembly

/-!
# The tags of a thing that is declared again

A thing declared for the first time keeps every tag that its author wrote. When it is declared
again, the tags of the new comment are laid over those of its entry, one after another, and a tag
takes the place of the first one with the same subject: the same tag name, about the same thing. It
does so too when that one stands in the same comment. So of several `@raise` or `@note` tags in a
comment only the last is left, in the place of the first earlier one; the types of a tag may come
from the signature.

Results:
* `Tag.about_overlay`: what overlaying does to the tags of each subject.
* `MergePolicy.about_merge`: a signature changes the types of the tags of an authored subject only.
* `Assembly.registerTargets_again`: entering any number of targets at a path that has an entry.
* `Assembly.redeclared_tags`: what becomes of the authored tags, and exactly when none is lost.
-/

namespace TypeTags

namespace Tag

/-! ## The tags of a subject -/

/-- The tag without its types, which a signature may replace. -/
def wording (tag : Tag) : Tag := { tag with types := [] }

/-- The wordings of the tags with the same subject as a tag, in order. -/
def about (subject : Tag) (tags : List Tag) : List Tag :=
  (tags.filter (·.sameSubject subject)).map wording

theorem sameSubject_iff {a b : Tag} :
    a.sameSubject b = true ↔ a.tagName = b.tagName ∧ a.name = b.name := by
  simp [sameSubject]

theorem sameSubject_of_wording {a b : Tag} (h : a.wording = b.wording) (s : Tag) :
    a.sameSubject s = b.sameSubject s := by
  unfold wording at h
  injection h with h1 h2
  simp [sameSubject, h1, h2]

theorem sameSubject_trans {a b c : Tag} (h : a.sameSubject b = true) (k : b.sameSubject c = true) :
    a.sameSubject c = true := by
  rw [sameSubject_iff] at h k ⊢
  exact ⟨h.1.trans k.1, h.2.trans k.2⟩

theorem sameSubject_symm {a b : Tag} (h : a.sameSubject b = true) : b.sameSubject a = true := by
  rw [sameSubject_iff] at h ⊢
  exact ⟨h.1.symm, h.2.symm⟩

@[simp] theorem about_nil (s : Tag) : about s [] = [] := rfl

theorem about_cons (s tag : Tag) (tags : List Tag) :
    about s (tag :: tags) =
      if tag.sameSubject s then tag.wording :: about s tags else about s tags := by
  unfold about
  rw [List.filter_cons]
  split <;> rfl

theorem about_eq_nil_iff {s : Tag} {tags : List Tag} :
    about s tags = [] ↔ ∀ tag ∈ tags, tag.sameSubject s = false := by
  simp [about, List.filter_eq_nil_iff]

theorem about_ne_nil {tag : Tag} {tags : List Tag} (h : tag ∈ tags) : about tag tags ≠ [] := by
  intro hnil
  have hself := about_eq_nil_iff.1 hnil tag h
  simp [sameSubject] at hself

/-- A wording stands among the tags as often as among those of its subject. -/
theorem count_wording (tag : Tag) (tags : List Tag) :
    (tags.map wording).count tag.wording = (about tag tags).count tag.wording := by
  induction tags with
  | nil => rfl
  | cons u tags ih =>
    rw [List.map_cons, about_cons]
    split
    · rw [List.count_cons, List.count_cons, ih]
    · rename_i hu
      have hne : u.wording ≠ tag.wording := by
        intro h
        apply hu
        rw [sameSubject_of_wording h, sameSubject_iff]
        exact ⟨rfl, rfl⟩
      rw [List.count_cons_of_ne hne, ih]

/-! ## Overlaying -/

/-- A tag that is set takes the first place among those of its subject. -/
theorem about_set (s : Tag) (tags : List Tag) (tag : Tag) :
    about s (set tags tag) =
      if tag.sameSubject s then tag.wording :: (about s tags).tail else about s tags := by
  induction tags with
  | nil => simp [set, upsert, about_cons]
  | cons u tags ih =>
    unfold set at ih ⊢
    unfold upsert
    by_cases hu : u.sameSubject tag
    · have hs : u.sameSubject s = tag.sameSubject s := by
        rw [Bool.eq_iff_iff]
        exact ⟨sameSubject_trans (sameSubject_symm hu), sameSubject_trans hu⟩
      rw [if_pos hu, about_cons, about_cons, hs]
      split <;> rfl
    · rw [if_neg hu, about_cons, about_cons, ih]
      by_cases ht : tag.sameSubject s
      · -- the tag in front is of another subject, or it would give way
        have hus : ¬ u.sameSubject s := fun h => hu (sameSubject_trans h (sameSubject_symm ht))
        simp [ht, hus]
      · simp [ht]

/-- Of the tags of one subject laid over others, the last takes the first place. -/
theorem about_overlay (s : Tag) (base extra : List Tag) :
    about s (overlay base extra) =
      if about s extra = [] then about s base
      else (about s extra).getLast?.toList ++ (about s base).tail := by
  induction extra generalizing base with
  | nil => rfl
  | cons tag extra ih =>
    have hstep : overlay base (tag :: extra) = overlay (set base tag) extra := rfl
    rw [hstep, ih, about_set, about_cons]
    by_cases ht : tag.sameSubject s
    · by_cases he : about s extra = []
      · simp [ht, he]
      · have hlast : (tag.wording :: about s extra).getLast? = (about s extra).getLast? := by
          rw [List.getLast?_cons]
          cases h : (about s extra).getLast? with
          | none => exact absurd (List.getLast?_eq_none_iff.1 h) he
          | some last => rfl
        simp [ht, he, hlast]
    · simp [ht]

/-! ## Merging -/

/-- Changing the types of the first tag that fits, or putting a fresh one at the end, does not touch
the wordings of a subject of which there is a tag. -/
theorem about_upsert {fits : Tag → Bool} {change : Tag → Tag} {fresh : Tag}
    (hchange : ∀ tag, (change tag).wording = tag.wording)
    (hfits : ∀ tag, tag.sameSubject fresh = true → fits tag = true) {s : Tag} {tags : List Tag}
    (h : fresh.sameSubject s = true → about s tags ≠ []) :
    about s (upsert fits change fresh tags) = about s tags := by
  induction tags with
  | nil =>
    have hs : ¬ fresh.sameSubject s := fun hf => h hf rfl
    simp [upsert, about_cons, hs]
  | cons tag tags ih =>
    unfold upsert
    split
    · rw [about_cons, about_cons, hchange, sameSubject_of_wording (hchange tag)]
    · rename_i hnot
      have hrest : fresh.sameSubject s = true → about s tags ≠ [] := by
        intro hf
        have hall := h hf
        rw [about_cons] at hall
        have htag : ¬ tag.sameSubject s := fun ht =>
          hnot (hfits tag (sameSubject_trans ht (sameSubject_symm hf)))
        rwa [if_neg htag] at hall
      rw [about_cons, about_cons, ih hrest]

end Tag

namespace MergePolicy

open Tag

theorem about_mergeAbstract (sig : Signature) {s : Tag} {tags : List Tag} (h : about s tags ≠ []) :
    about s (mergeAbstract sig tags) = about s tags := by
  unfold mergeAbstract
  split
  · refine about_upsert (fun _ => rfl) (fun tag ht => ?_) fun _ => h
    simpa using (sameSubject_iff.1 ht).1
  · rfl

theorem about_mergeParam (param : String × TypeExpr) {s : Tag} {tags : List Tag}
    (h : about s tags ≠ []) : about s (mergeParam tags param) = about s tags := by
  apply about_upsert
  · exact fun tag => rfl
  · intro tag ht
    obtain ⟨h1, h2⟩ := sameSubject_iff.1 ht
    simp [isParam, h1, h2]
  · exact fun _ => h

theorem about_mergeParams (target : Target) (sig : Signature) {s : Tag} {tags : List Tag}
    (h : about s tags ≠ []) : about s (mergeParams target sig tags) = about s tags := by
  have hfold : ∀ (params : List (String × TypeExpr)) (tags : List Tag), about s tags ≠ [] →
      about s (params.foldl mergeParam tags) = about s tags := by
    intro params
    induction params with
    | nil => exact fun tags _ => rfl
    | cons param params ih =>
      intro tags htags
      have hparam := about_mergeParam param htags
      rw [List.foldl_cons, ih _ (hparam ▸ htags), hparam]
  unfold mergeParams
  split
  · rfl
  · exact hfold sig.params tags h

theorem about_mergeReturn (policy : MergePolicy) (chained : Bool) (types : Option (List String))
    {s : Tag} {tags : List Tag} (h : about s tags ≠ []) :
    about s (mergeReturn policy chained types tags) = about s tags := by
  unfold mergeReturn
  split
  · rfl
  · refine about_upsert (fun tag => ?_) (fun tag ht => ?_) fun _ => h
    · split <;> rfl
    · simpa using (sameSubject_iff.1 ht).1

/-- A signature leaves the wordings of every subject that the author wrote of. -/
theorem about_merge (policy : MergePolicy) (target : Target) (sig : Option Signature)
    (chained : Bool) {s : Tag} (h : about s target.explicitTags ≠ []) :
    about s (policy.merge target sig chained) = about s target.explicitTags := by
  unfold merge
  split
  · rfl
  · rename_i sig
    have h1 := about_mergeAbstract sig h
    have h2 := about_mergeParams target sig (h1 ▸ h)
    rw [about_mergeReturn policy chained _ (by rw [h2, h1]; exact h), h2, h1]

end MergePolicy

namespace Assembly

open Tag

/-! ## What becomes of authored tags -/

/-- Of each authored subject the tags hold the last authored wording, in the place of the first
earlier one, and the other earlier ones. -/
def LaidOver (authored earlier tags : List Tag) : Prop :=
  ∀ tag ∈ authored,
    about tag tags = (about tag authored).getLast?.toList ++ (about tag earlier).tail

/-- Every authored wording stands among the tags at least as often as it was written. -/
def Keeps (authored tags : List Tag) : Prop :=
  ∀ tag ∈ authored,
    (authored.map wording).count tag.wording ≤ (tags.map wording).count tag.wording

/-- Every authored wording is found, as often as it was written, in the last authored one of its
subject and the earlier ones after the first. -/
def Survives (authored earlier : List Tag) : Prop :=
  ∀ tag ∈ authored, (about tag authored).count tag.wording ≤
    ((about tag authored).getLast?.toList ++ (about tag earlier).tail).count tag.wording

instance (authored tags : List Tag) : Decidable (Keeps authored tags) :=
  inferInstanceAs (Decidable (∀ tag ∈ authored, _))

instance (authored earlier : List Tag) : Decidable (Survives authored earlier) :=
  inferInstanceAs (Decidable (∀ tag ∈ authored, _))

/-- Laying the same tags over once more changes nothing. -/
theorem LaidOver.trans {authored first second third : List Tag}
    (h : LaidOver authored first second) (k : LaidOver authored second third) :
    LaidOver authored first third := by
  intro tag htag
  rw [k tag htag, h tag htag]
  cases hlast : (about tag authored).getLast? with
  | none => exact absurd (List.getLast?_eq_none_iff.1 hlast) (about_ne_nil htag)
  | some last => rfl

theorem LaidOver.keeps_iff {authored earlier tags : List Tag} (h : LaidOver authored earlier tags) :
    Keeps authored tags ↔ Survives authored earlier := by
  unfold Keeps Survives
  constructor
  · intro hkeep tag htag
    rw [← h tag htag, ← count_wording, ← count_wording]
    exact hkeep tag htag
  · intro hkeep tag htag
    rw [count_wording, count_wording, h tag htag]
    exact hkeep tag htag

theorem laidOver_overlay (authored earlier : List Tag) :
    LaidOver authored earlier (overlay earlier authored) := by
  intro tag htag
  rw [about_overlay, if_neg (about_ne_nil htag)]

theorem laidOver_merge (policy : MergePolicy) (target : Target) (sig : Option Signature)
    (chained : Bool) {authored earlier : List Tag}
    (ht : target.explicitTags = overlay earlier authored) :
    LaidOver authored earlier (policy.merge target sig chained) := by
  intro tag htag
  have hlaid := laidOver_overlay authored earlier tag htag
  have hne : about tag target.explicitTags ≠ [] := by
    rw [ht, hlaid]
    cases hlast : (about tag authored).getLast? with
    | none => exact absurd (List.getLast?_eq_none_iff.1 hlast) (about_ne_nil htag)
    | some last => simp
  rw [policy.about_merge target sig chained hne, ht, hlaid]

/-- In a list without two tags of one subject, each tag is the only one of its own. -/
theorem about_of_distinct {tags : List Tag} (h : tags.Pairwise fun a b => ¬ a.sameSubject b)
    {tag : Tag} (htag : tag ∈ tags) : about tag tags = [tag.wording] := by
  induction h with
  | nil => simp at htag
  | @cons u tags hu _ ih =>
    rw [about_cons]
    rcases List.mem_cons.1 htag with rfl | htag
    · have hnone : about tag tags = [] := by
        rw [about_eq_nil_iff]
        intro v hv
        have := hu v hv
        rw [Bool.eq_false_iff]
        exact fun hs => this (sameSubject_symm hs)
      simp [hnone, sameSubject]
    · rw [if_neg (hu tag htag), ih htag]

theorem survives_of_distinct {authored : List Tag}
    (h : authored.Pairwise fun a b => ¬ a.sameSubject b) (earlier : List Tag) :
    Survives authored earlier := by
  intro tag htag
  rw [about_of_distinct h htag]
  simp

/-! ## Entering targets -/

theorem registerTarget_other {as : Association} {a : Assembly} {target : Target} {path : String}
    (h : path ≠ target.path) :
    (registerTarget as a target).registry.at? path = a.registry.at? path := by
  simp [registerTarget, Registry.at?_register, h]

theorem registerTarget_again (as : Association) {a : Assembly} {target : Target} {e : Entry}
    (h : a.registry.at? target.path = some e) :
    ∃ e', (registerTarget as a target).registry.at? target.path = some e' ∧
      LaidOver target.explicitTags e.tags e'.tags := by
  unfold registerTarget
  simp only [h, Registry.at?_register, if_true]
  exact ⟨_, rfl, laidOver_merge _ _ _ _ rfl⟩

theorem registerTarget_new (as : Association) {a : Assembly} {target : Target}
    (h : a.registry.at? target.path = none) :
    ∃ e', (registerTarget as a target).registry.at? target.path = some e' ∧
      Keeps target.explicitTags e'.tags := by
  unfold registerTarget
  simp only [h, Registry.at?_register, if_true]
  refine ⟨_, rfl, fun tag htag => ?_⟩
  refine Nat.le_of_eq ?_
  rw [count_wording, count_wording, MergePolicy.about_merge _ _ _ _ (about_ne_nil htag)]

theorem registerTargets_other {as : Association} {targets : List Target} {path : String}
    (h : path ∉ targets.map Target.path) (a : Assembly) :
    (targets.foldl (registerTarget as) a).registry.at? path = a.registry.at? path := by
  induction targets generalizing a with
  | nil => rfl
  | cons target targets ih =>
    simp only [List.map_cons, List.mem_cons, not_or] at h
    rw [List.foldl_cons, ih h.2, registerTarget_other h.1]

/-- Entering targets with the same tags, some of them at a path that has an entry. -/
theorem registerTargets_again {as : Association} {authored : List Tag} {targets : List Target}
    (ht : ∀ target ∈ targets, target.explicitTags = authored) {path : String}
    (hp : path ∈ targets.map Target.path) {a : Assembly} {e : Entry}
    (h : a.registry.at? path = some e) :
    ∃ e', (targets.foldl (registerTarget as) a).registry.at? path = some e' ∧
      LaidOver authored e.tags e'.tags := by
  induction targets generalizing a e with
  | nil => simp at hp
  | cons target targets ih =>
    have hrest : ∀ t ∈ targets, t.explicitTags = authored :=
      fun t hmem => ht t (List.mem_cons_of_mem _ hmem)
    rw [List.foldl_cons]
    by_cases hpath : path = target.path
    · subst hpath
      obtain ⟨e₁, he₁, hlaid⟩ := registerTarget_again as h
      rw [ht target List.mem_cons_self] at hlaid
      by_cases hmore : target.path ∈ targets.map Target.path
      · obtain ⟨e₂, he₂, hlaid₂⟩ := ih hrest hmore he₁
        exact ⟨e₂, he₂, hlaid.trans hlaid₂⟩
      · exact ⟨e₁, (registerTargets_other hmore _).trans he₁, hlaid⟩
    · have hmore : path ∈ targets.map Target.path := by
        rcases List.mem_cons.1 hp with heq | hmem
        · exact absurd heq hpath
        · exact hmem
      exact ih hrest hmore ((registerTarget_other hpath).trans h)

/-- Entering targets with the same tags, one of them at a path that has no entry. -/
theorem registerTargets_new {as : Association} {authored : List Tag} {targets : List Target}
    (ht : ∀ target ∈ targets, target.explicitTags = authored) {path : String}
    (hp : (targets.map Target.path).count path = 1) {a : Assembly}
    (h : a.registry.at? path = none) :
    ∃ e', (targets.foldl (registerTarget as) a).registry.at? path = some e' ∧
      Keeps authored e'.tags := by
  induction targets generalizing a with
  | nil => simp at hp
  | cons target targets ih =>
    have hrest : ∀ t ∈ targets, t.explicitTags = authored :=
      fun t hmem => ht t (List.mem_cons_of_mem _ hmem)
    rw [List.foldl_cons]
    rw [List.map_cons] at hp
    by_cases hpath : path = target.path
    · subst hpath
      have hmore : target.path ∉ targets.map Target.path := by
        rw [List.count_cons_self] at hp
        exact List.count_eq_zero.1 (by omega)
      obtain ⟨e₁, he₁, hkeep⟩ := registerTarget_new as h
      rw [ht target List.mem_cons_self] at hkeep
      exact ⟨e₁, (registerTargets_other hmore _).trans he₁, hkeep⟩
    · rw [List.count_cons_of_ne (Ne.symm hpath)] at hp
      exact ih hrest hp ((registerTarget_other hpath).trans h)

/-! ## Entering a declaration -/

/-- The paths that an association enters: that of the namespace, or those of its targets. -/
def pathsOf (as : Association) : List String :=
  if as.declaration.kind.isNamespace then
    [Path.join (Path.nested as.declaration.nesting as.declaration.name)]
  else as.targets.map Target.path

/-- What a target of a declaration is: a member, with the namespace and the tags of the declaration.
Methods know whether they belong to the class itself, and a setter is called after its attribute. -/
theorem mem_targets {d : Declaration} {tags : List Tag} {target : Target}
    (h : target ∈ d.targets tags) : ∃ kind name classLevel,
      target = d.target tags kind name classLevel ∧ kind.isNamespace = false ∧
        (kind = .instanceMethod → classLevel = false) ∧ (kind = .classMethod → classLevel = true) ∧
        (kind = .setter → ∃ base, name = base ++ "=") := by
  unfold Declaration.targets at h
  split at h
  · refine ⟨_, _, _, List.mem_singleton.1 h, ?_⟩
    cases d.classLevel <;> simp [ObjectKind.isNamespace]
  · exact ⟨_, _, _, List.mem_singleton.1 h, rfl, nofun, fun _ => rfl, nofun⟩
  · obtain ⟨name, -, hname⟩ := List.mem_flatMap.1 h
    rcases List.mem_append.1 hname with hread | hwrite
    · split at hread
      · exact ⟨_, _, _, List.mem_singleton.1 hread, rfl, nofun, nofun, nofun⟩
      · cases hread
    · split at hwrite
      · exact ⟨_, _, _, List.mem_singleton.1 hwrite, rfl, nofun, nofun, fun _ => ⟨name, rfl⟩⟩
      · cases hwrite
  · cases h

theorem targets_explicitTags {d : Declaration} {tags : List Tag} {target : Target}
    (h : target ∈ d.targets tags) : target.explicitTags = tags := by
  obtain ⟨kind, name, classLevel, rfl, -⟩ := mem_targets h
  rfl

/-- Every target of an association has the tags of its comment. -/
theorem claim_explicitTags (b : Attribution) (d : Declaration) (run : String) :
    ∀ target ∈ (b.claim d run).2.targets,
      target.explicitTags = (b.claim d run).2.explicitTags := by
  unfold Attribution.claim
  dsimp only
  split
  · intro target h
    cases h
  · exact fun target h => targets_explicitTags h

/-- What an association enters at a path that has an entry. -/
theorem register_again {as : Association}
    (ht : ∀ target ∈ as.targets, target.explicitTags = as.explicitTags) {path : String}
    (hp : path ∈ pathsOf as) {a : Assembly} {e : Entry} (h : a.registry.at? path = some e) :
    ∃ e', (a.register as).registry.at? path = some e' ∧
      LaidOver as.explicitTags e.tags e'.tags := by
  unfold pathsOf at hp
  unfold register
  split at hp
  · rename_i hkind
    rw [if_pos hkind]
    have hpath := List.mem_singleton.1 hp
    unfold registerNamespace
    dsimp only
    rw [← hpath, h]
    refine ⟨_, by rw [Registry.at?_modify, if_pos rfl, h]; rfl, ?_⟩
    exact laidOver_overlay as.explicitTags e.tags
  · rename_i hkind
    rw [if_neg hkind]
    exact registerTargets_again ht hp h

/-- What an association enters at a path that has no entry, if it enters it once. -/
theorem register_new {as : Association}
    (ht : ∀ target ∈ as.targets, target.explicitTags = as.explicitTags) {path : String}
    (hp : (pathsOf as).count path = 1) {a : Assembly} (h : a.registry.at? path = none) :
    ∃ e', (a.register as).registry.at? path = some e' ∧ Keeps as.explicitTags e'.tags := by
  unfold pathsOf at hp
  unfold register
  split at hp
  · rename_i hkind
    rw [if_pos hkind]
    have hpath : path = Path.join (Path.nested as.declaration.nesting as.declaration.name) :=
      List.mem_singleton.1 (List.count_pos_iff.1 (by omega))
    unfold registerNamespace
    dsimp only
    rw [← hpath, h]
    refine ⟨_, by rw [Registry.at?_register, if_pos rfl], ?_⟩
    exact fun tag htag => Nat.le_refl _
  · rename_i hkind
    rw [if_neg hkind]
    exact registerTargets_new ht hp h

/-- **Declaring again.** A declaration of a thing, in any state, is answered with an association. At
each of its paths that has an entry, the tags of the comment are laid over those of the entry. Every
authored tag is then found with its name and text, as often as it was written, exactly if the last
authored tag of its subject and the earlier ones after the first hold it so often; in particular if
no two tags of the comment have the same subject. At a path that has no entry, and that the
declaration enters once, no authored tag is ever lost. -/
theorem redeclared_tags (a : Assembly) {d : Declaration} (hk : d.kind ≠ .signature)
    (hp : 1 ≤ d.precedingLine) (hl : 1 ≤ d.line) :
    ∃ as, (a.attribution.declare d).2 = .ok (some as) ∧ (a.declare d).2 = .ok () ∧
      (∀ path ∈ pathsOf as, ∀ e, a.registry.at? path = some e →
        ∃ e', (a.declare d).1.registry.at? path = some e' ∧
          LaidOver as.explicitTags e.tags e'.tags ∧
          (Keeps as.explicitTags e'.tags ↔ Survives as.explicitTags e.tags) ∧
          ((as.explicitTags.Pairwise fun s t => ¬ s.sameSubject t) →
            Keeps as.explicitTags e'.tags)) ∧
      ∀ path, (pathsOf as).count path = 1 → a.registry.at? path = none →
        ∃ e', (a.declare d).1.registry.at? path = some e' ∧ Keeps as.explicitTags e'.tags := by
  obtain ⟨b, run, -, hb⟩ := a.attribution.declare_took d hp hl
  rw [if_neg hk] at hb
  have ht := claim_explicitTags b d run
  generalize (b.claim d run).2 = as at hb ht
  have hdeclare : a.declare d =
      (({ a with attribution := (b.claim d run).1 } : Assembly).register as, .ok ()) := by
    simp [declare, hb]
  refine ⟨as, by rw [hb], by rw [hdeclare], ?_, ?_⟩
  · intro path hpath e he
    rw [hdeclare]
    obtain ⟨e', he', hlaid⟩ :=
      register_again ht hpath (a := { a with attribution := (b.claim d run).1 }) he
    refine ⟨e', he', hlaid, hlaid.keeps_iff, fun hdistinct => ?_⟩
    exact hlaid.keeps_iff.2 (survives_of_distinct hdistinct e.tags)
  · intro path hpath hnone
    rw [hdeclare]
    exact register_new ht hpath (a := { a with attribution := (b.claim d run).1 }) hnone

/-- A method with a note and a cause of failure. -/
def notedMethod : Step :=
  .declare { kind := .method, name := "m", precedingText := "# @note one\n# @raise [A] two\n" }

/-- The same method again, with two notes and another tag. -/
def notedAgain : Declaration :=
  { kind := .method, name := "m", precedingText := "# @note three\n# @note four\n# @see five\n" }

def notedState : Assembly := (start none .signature).run [notedMethod]

def notedTags : List Tag :=
  [{ tagName := "note", text := "three" }, { tagName := "note", text := "four" },
   { tagName := "see", text := "five" }]

theorem redeclared_tags_notedAgain :
    ∃ as e e', (notedState.attribution.declare notedAgain).2 = .ok (some as) ∧
      as.explicitTags = notedTags ∧ notedState.registry.at? "#m" = some e ∧
      (notedState.declare notedAgain).1.registry.at? "#m" = some e' ∧
      about { tagName := "note" } e'.tags = [{ tagName := "note", text := "four" }] ∧
      ¬ Keeps notedTags e'.tags := by
  have hanswer : (notedState.attribution.declare notedAgain).2.toOption.join.map
      (fun as => (pathsOf as, as.explicitTags)) = some (["#m"], notedTags) := by decide +kernel
  have hentry : (notedState.registry.at? "#m").map (·.tags) =
      some [{ tagName := "note", text := "one" },
        { tagName := "raise", types := ["A"], text := "two" }] := by decide +kernel
  obtain ⟨as, has, -, hagain, -⟩ :=
    redeclared_tags notedState (d := notedAgain) (by decide) (by decide) (by decide)
  rw [has] at hanswer
  obtain ⟨hpaths, htags⟩ := Prod.mk.inj (Option.some.inj hanswer)
  obtain ⟨e, he, hearlier⟩ := Option.map_eq_some_iff.1 hentry
  obtain ⟨e', he', hlaid, hiff, -⟩ := hagain "#m" (by rw [hpaths]; simp) e he
  rw [htags, hearlier] at hlaid hiff
  refine ⟨as, e, e', has, htags, he, he', ?_, fun hkeep => ?_⟩
  · exact (hlaid { tagName := "note", text := "three" } (by decide)).trans (by decide)
  · exact absurd (hiff.1 hkeep) (by decide)

end Assembly

end TypeTags
