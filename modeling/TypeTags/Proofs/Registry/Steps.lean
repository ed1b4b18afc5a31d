import TypeTags.Proofs.Assoc.KeyOrder
import TypeTags.Proofs.Attribution.Accounting
import TypeTags.Proofs.Registry.Redeclaration

/-!
# What the steps of an assembly do

An assembly runs the attributing machine along and enters into its registry what the machine answers
with. So a step does one of three things to the entries: it enters an association, it changes
visibilities, or it does nothing. Classes and members are entered by different rules; what both do to
the order of the paths, to other entries and to docstrings is the same (`Enters`).

* `Registry.withVisibility`: a registry with a visibility for some entries.
* `answer?`, `associations`: what the machine answers to a step and in a run.
* `Enters`: an association is entered at paths, one after another.

Results:
* `setVisibility_eq`: what a change of visibility does, completely.
* `run_attribution`: an assembly runs the attributing machine along.
* `register_enters`: what registering an association does.
* `step_cases`: what a step does to the registry.
-/

namespace TypeTags

/-! ## Parts of a step -/

theorem Attribution.feed_empty (a : Attribution) : a.feed "" 1 = (a, .ok ()) := by
  rw [feed, absorb_empty]

/-- Only a declaration is answered with an association. -/
theorem Attribution.exists_declare {a : Attribution} {s : Attribution.Step} {as : Association}
    (h : (a.step s).2 = .ok (some as)) : ∃ d, s = .declare d := by
  have hnone : ∀ r : Except LineSpan Unit,
      r.map (fun _ => (none : Option Association)) ≠ .ok (some as) := by
    intro r
    cases r <;> simp [Except.map]
  cases s with
  | openScope => cases h
  | closeScope text line => exact absurd h (hnone _)
  | feed text line => exact absurd h (hnone _)
  | declare d => exact ⟨d, rfl⟩
  | finish text line => exact absurd h (hnone _)

def Registry.docstring? (r : Registry) (path : String) : Option String :=
  (r.at? path).map (·.docstring)

theorem Registry.keys_modify (r : Registry) (path : String) (change : Entry → Entry) :
    (r.modify path change).objects.keys = r.objects.keys :=
  Assoc.keys_map (fun key e => if key = path then change e else e) r.objects

/-- The registry with a visibility for the entries at paths. -/
def Registry.withVisibility (r : Registry) (paths : List String) (visibility : Visibility) :
    Registry :=
  { r with objects := r.objects.map fun (key, e) =>
      (key, if key ∈ paths then { e with visibility } else e) }

theorem Registry.keys_withVisibility (r : Registry) (paths : List String)
    (visibility : Visibility) : (r.withVisibility paths visibility).objects.keys = r.objects.keys :=
  Assoc.keys_map (fun key (e : Entry) =>
    if key ∈ paths then ({ e with visibility } : Entry) else e) r.objects

theorem Registry.at?_withVisibility (r : Registry) (paths : List String) (visibility : Visibility)
    (path : String) : (r.withVisibility paths visibility).at? path =
      (r.at? path).map fun e => if path ∈ paths then { e with visibility } else e :=
  Assoc.get?_map (fun key (e : Entry) =>
    if key ∈ paths then ({ e with visibility } : Entry) else e) r.objects path

theorem Registry.docstring?_withVisibility (r : Registry) (paths : List String)
    (visibility : Visibility) (path : String) :
    (r.withVisibility paths visibility).docstring? path = r.docstring? path := by
  rw [docstring?, at?_withVisibility, Option.map_map, docstring?]
  congr 1
  funext e
  dsimp only [Function.comp]
  split <;> rfl

theorem Entry.joinDocs_empty (text : String) : joinDocs "" text = text := by
  unfold joinDocs
  split
  · rename_i h
    exact (String.isEmpty_iff.1 h).symm
  · rfl

namespace Assembly

/-! ## Visibility -/

/-- The paths of members of a namespace and of their setters. -/
def memberPaths (nesting names : List String) (classLevel : Bool) : List String :=
  names.flatMap fun name =>
    [Path.member nesting name classLevel, Path.member nesting (name ++ "=") classLevel]

/-- Entries changed at paths, one path after another, are changed once. -/
theorem foldl_modify (change : Entry → Entry) (h : ∀ e, change (change e) = change e)
    (paths : List String) (r : Registry) :
    paths.foldl (fun r path => r.modify path change) r =
      { r with objects := r.objects.map fun (key, e) =>
          (key, if key ∈ paths then change e else e) } := by
  induction paths generalizing r with
  | nil => simp
  | cons path paths ih =>
    rw [List.foldl_cons, ih]
    simp only [Registry.modify, List.map_map]
    congr 2
    funext p
    by_cases hkey : p.1 = path <;> by_cases hmem : p.1 ∈ paths <;> simp [hkey, hmem, h]

theorem setVisibility_eq (a : Assembly) (nesting names : List String) (visibility : Visibility)
    (classLevel : Bool) :
    a.setVisibility nesting names visibility classLevel =
      { a with registry :=
          a.registry.withVisibility (memberPaths nesting names classLevel) visibility } := by
  have hset := foldl_modify (fun e => { e with visibility }) (fun _ => rfl)
    (memberPaths nesting names classLevel) a.registry
  exact congrArg (fun registry => { a with registry }) hset

/-! ## The attributing machine -/

/-- The step that the attributing machine takes. A change of visibility is nothing to it, like an
empty text. -/
def Step.attribution : Step → Attribution.Step
  | .openScope => .openScope
  | .closeScope text line => .closeScope text line
  | .feed text line => .feed text line
  | .declare d => .declare d
  | .setVisibility _ _ _ _ => .feed "" 1
  | .finish => .finish "" 1

/-- Nothing but the registry is changed, and its diagnostics are left alone. -/
structure Extends (a b : Assembly) : Prop where
  attribution : b.attribution = a.attribution
  diagnostics : b.registry.diagnostics = a.registry.diagnostics

theorem registerTargets_extends (as : Association) (targets : List Target) (a : Assembly) :
    Extends a (targets.foldl (registerTarget as) a) := by
  induction targets generalizing a with
  | nil => exact ⟨rfl, rfl⟩
  | cons target targets ih =>
    have h := ih (registerTarget as a target)
    exact ⟨h.attribution, h.diagnostics⟩

theorem register_extends (a : Assembly) (as : Association) : Extends a (a.register as) := by
  unfold register
  split
  · unfold registerNamespace
    dsimp only
    split <;> exact ⟨rfl, rfl⟩
  · exact registerTargets_extends as _ a

theorem setVisibility_extends (a : Assembly) (nesting names : List String)
    (visibility : Visibility) (classLevel : Bool) :
    Extends a (a.setVisibility nesting names visibility classLevel) := by
  rw [setVisibility_eq]
  exact ⟨rfl, rfl⟩

/-- A declaration is registered with the answer of the machine, if it answers. -/
theorem declare_eq (a : Assembly) (d : Declaration) :
    (a.declare d).1 = match (a.attribution.declare d).2 with
      | .ok (some as) =>
        ({ a with attribution := (a.attribution.declare d).1 } : Assembly).register as
      | _ => { a with attribution := (a.attribution.declare d).1 } := by
  unfold declare
  rcases a.attribution.declare d with ⟨b, answer⟩
  rcases answer with span | _ | as <;> rfl

theorem step_attribution (a : Assembly) (s : Step) :
    (a.step s).1.attribution = (a.attribution.step s.attribution).1 := by
  cases s with
  | openScope => rfl
  | closeScope text line => rfl
  | feed text line => rfl
  | declare d =>
    rw [step, declare_eq]
    simp only [Step.attribution, Attribution.step]
    split
    · exact (register_extends _ _).attribution
    · rfl
  | setVisibility nesting names visibility classLevel =>
    simp only [step, Step.attribution, Attribution.step, Attribution.feed_empty, Prod.map_fst, id]
    exact (setVisibility_extends a nesting names visibility classLevel).attribution
  | finish => rfl

theorem run_attribution (a : Assembly) (steps : List Step) :
    (a.run steps).attribution = (a.attribution.run (steps.map Step.attribution)).1 := by
  induction steps generalizing a with
  | nil => rfl
  | cons s steps ih =>
    have h := ih (a.step s).1
    rw [step_attribution] at h
    exact h

theorem step_diagnostics (a : Assembly) {s : Step} (hs : s ≠ .finish) :
    (a.step s).1.registry.diagnostics = a.registry.diagnostics := by
  cases s with
  | openScope => rfl
  | closeScope text line => rfl
  | feed text line => rfl
  | declare d =>
    rw [step, declare_eq]
    split
    · exact (register_extends _ _).diagnostics
    · rfl
  | setVisibility nesting names visibility classLevel =>
    exact (setVisibility_extends a nesting names visibility classLevel).diagnostics
  | finish => exact absurd rfl hs

theorem run_diagnostics (a : Assembly) {steps : List Step} (hs : ∀ s ∈ steps, s ≠ .finish) :
    (a.run steps).registry.diagnostics = a.registry.diagnostics := by
  induction steps generalizing a with
  | nil => rfl
  | cons s steps ih =>
    have h := ih (a.step s).1 fun t ht => hs t (List.mem_cons_of_mem _ ht)
    exact h.trans (a.step_diagnostics (hs s List.mem_cons_self))

/-! ## Answers -/

/-- The association that a step is answered with, if it is. -/
def answer? (a : Assembly) (s : Step) : Option Association :=
  (a.attribution.step s.attribution).2.toOption.join

/-- The associations that a run is answered with, in order. -/
def associations (a : Assembly) (steps : List Step) : List Association :=
  (a.attribution.run (steps.map Step.attribution)).2.filterMap fun answer => answer.toOption.join

theorem associations_cons (a : Assembly) (s : Step) (steps : List Step) :
    a.associations (s :: steps) = (a.answer? s).toList ++ (a.step s).1.associations steps := by
  unfold associations
  rw [step_attribution, List.map_cons, Attribution.run, List.filterMap_cons]
  unfold answer?
  cases (a.attribution.step s.attribution).2.toOption.join <;> rfl

theorem answer?_eq_some_iff {a : Assembly} {s : Step} {as : Association} :
    a.answer? s = some as ↔ (a.attribution.step s.attribution).2 = .ok (some as) := by
  unfold answer?
  rcases (a.attribution.step s.attribution).2 with span | _ | as' <;> simp [Except.toOption]

/-- An association is about its declaration and has its targets. -/
theorem claim_targets (b : Attribution) (d : Declaration) (run : String) :
    (b.claim d run).2.declaration = d ∧
      (b.claim d run).2.targets = d.targets (b.claim d run).2.explicitTags := by
  unfold Attribution.claim
  dsimp only
  split
  · rename_i hkind
    refine ⟨rfl, ?_⟩
    cases hd : d.kind <;> simp [hd, DeclarationKind.isNamespace, Declaration.targets] at hkind ⊢
  · exact ⟨rfl, rfl⟩

theorem declare_answer {b : Attribution} {d : Declaration} {as : Association}
    (h : (b.declare d).2 = .ok (some as)) :
    as.declaration = d ∧ as.targets = d.targets as.explicitTags := by
  unfold Attribution.declare at h
  split at h
  · cases h
  · rename_i c run _
    split at h
    · unfold Attribution.declareSignature at h
      dsimp only at h
      split at h <;> cases h
    · cases h
      exact claim_targets c d run

/-! ## Entering -/

/-- A docstring with more texts put to it, one after another; where there is none, it starts with
the first text. -/
def gather (docstring : Option String) (texts : List String) : Option String :=
  texts.foldl (fun docstring text => some (Entry.joinDocs (docstring.getD "") text)) docstring

/-- The association is entered at the paths, one after another: new paths come last, entries at
other paths are left alone, and a path gains the docstring each time it is entered. -/
structure Enters (as : Association) (paths : List String) (r r' : Registry) : Prop where
  keys : r'.objects.keys = Assoc.joinKeys r.objects.keys paths
  others : ∀ path ∉ paths, r'.at? path = r.at? path
  docstrings : ∀ path, r'.docstring? path =
    gather (r.docstring? path) (List.replicate (paths.count path) as.docstring)

theorem Enters.nil (as : Association) (r : Registry) : Enters as [] r r :=
  ⟨(Assoc.joinKeys_nil _).symm, fun _ _ => rfl, fun _ => rfl⟩

theorem Enters.append {as : Association} {paths more : List String} {r s t : Registry}
    (h : Enters as paths r s) (k : Enters as more s t) : Enters as (paths ++ more) r t where
  keys := by rw [k.keys, h.keys, Assoc.joinKeys_append]
  others path hpath := by
    obtain ⟨h1, h2⟩ := not_or.1 (mt List.mem_append.2 hpath)
    rw [k.others path h2, h.others path h1]
  docstrings path := by
    rw [k.docstrings, h.docstrings, List.count_append, ← List.replicate_append_replicate]
    exact List.foldl_append.symm

theorem Enters.single {as : Association} {path : String} {r s : Registry}
    (hkeys : s.objects.keys = Assoc.joinKeys r.objects.keys [path])
    (hothers : ∀ other, other ≠ path → s.at? other = r.at? other)
    (hdoc : s.docstring? path = gather (r.docstring? path) [as.docstring]) :
    Enters as [path] r s where
  keys := hkeys
  others other h := hothers other (by simpa using h)
  docstrings other := by
    by_cases h : other = path
    · subst h
      simpa using hdoc
    · have hcount : List.count other [path] = 0 := List.count_eq_zero.2 (by simpa using h)
      rw [hcount, Registry.docstring?, hothers other h]
      rfl

theorem registerTarget_enters (as : Association) (a : Assembly) (target : Target) :
    Enters as [target.path] a.registry (registerTarget as a target).registry := by
  apply Enters.single
  · exact Assoc.keys_put ..
  · exact fun other h => registerTarget_other h
  · unfold registerTarget Registry.docstring?
    simp only [Registry.at?_register, if_true, Option.map_some, gather, List.foldl_cons,
      List.foldl_nil]
    cases a.registry.at? target.path with
    | none => simp [Entry.joinDocs_empty]
    | some e => rfl

theorem registerTargets_enters (as : Association) (targets : List Target) (a : Assembly) :
    Enters as (targets.map Target.path) a.registry
      (targets.foldl (registerTarget as) a).registry := by
  induction targets generalizing a with
  | nil => exact .nil as a.registry
  | cons target targets ih => exact (registerTarget_enters as a target).append (ih _)

theorem registerNamespace_enters (as : Association) (a : Assembly) :
    Enters as [Path.join (Path.nested as.declaration.nesting as.declaration.name)] a.registry
      (a.registerNamespace as).registry := by
  unfold registerNamespace
  dsimp only
  generalize Path.join (Path.nested as.declaration.nesting as.declaration.name) = path
  cases h : a.registry.at? path with
  | none =>
    apply Enters.single
    · exact Assoc.keys_put ..
    · intro other hother
      rw [Registry.at?_register, if_neg hother]
    · rw [Registry.docstring?, Registry.at?_register, if_pos rfl, Registry.docstring?, h]
      simp [gather, Entry.joinDocs_empty]
  | some e =>
    apply Enters.single
    · rw [Assoc.joinKeys_of_mem (Assoc.mem_keys_of_get? h), Registry.keys_modify]
    · intro other hother
      rw [Registry.at?_modify, if_neg hother]
    · rw [Registry.docstring?, Registry.at?_modify, if_pos rfl, Registry.docstring?, h]
      rfl

/-- Registering an association enters it at its paths. -/
theorem register_enters (as : Association) (a : Assembly) :
    Enters as (pathsOf as) a.registry (a.register as).registry := by
  unfold register pathsOf
  split
  · exact registerNamespace_enters as a
  · exact registerTargets_enters as as.targets a

/-! ## Steps -/

/-- What a step does to the registry: it registers what the machine answers with, it changes
visibilities, or it leaves the entries alone. -/
theorem step_cases (a : Assembly) (s : Step) :
    (∃ as, a.answer? s = some as ∧ s = .declare as.declaration ∧
      as.targets = as.declaration.targets as.explicitTags ∧
      (a.step s).1 = ({ a with attribution := (a.step s).1.attribution } : Assembly).register as) ∨
    (a.answer? s = none ∧ ∃ nesting names visibility classLevel,
      s = .setVisibility nesting names visibility classLevel) ∨
    (a.answer? s = none ∧ (a.step s).1.registry.objects = a.registry.objects) := by
  cases h : a.answer? s with
  | some as =>
    have hstep := answer?_eq_some_iff.1 h
    obtain ⟨d, hd⟩ := Attribution.exists_declare hstep
    cases s with
    | declare d' =>
      obtain rfl : d' = d := by simpa [Step.attribution] using hd
      have hanswer : (a.attribution.declare d').2 = .ok (some as) := hstep
      obtain ⟨hdecl, htargets⟩ := declare_answer hanswer
      refine .inl ⟨as, rfl, by rw [hdecl], by rw [hdecl, htargets], ?_⟩
      rw [step_attribution]
      simp only [step, declare_eq, hanswer]
      rfl
    | _ => cases hd
  | none =>
    right
    cases s with
    | setVisibility nesting names visibility classLevel =>
      exact .inl ⟨rfl, nesting, names, visibility, classLevel, rfl⟩
    | declare d =>
      refine .inr ⟨rfl, ?_⟩
      rw [step, declare_eq]
      split
      · rename_i as hanswer
        rw [(answer?_eq_some_iff (a := a) (s := .declare d)).2 hanswer] at h
        cases h
      · rfl
    | _ => exact .inr ⟨rfl, rfl⟩

end Assembly

end TypeTags
