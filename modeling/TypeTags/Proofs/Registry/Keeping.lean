import TypeTags.Proofs.Registry.Steps

/-!
# How a registry is kept

Entries come from classes and modules, from methods and from accessors; they are entered, entered
again under the same path, and changed in place. Through all of this every entry stands at its own
path, and the path is made of its namespace and its name as its kind wants it. No entry is taken
away or moved, and a step touches no entries but those at its own paths.

* `Entry.WellPlaced`: the path of an entry is that of its kind, its namespace and its name.
* `Registry.WellKept`: every path has one entry, which is well placed there.
* `Declaration.paths`, `Step.paths`: the paths that a declaration enters and that a step may touch.

Results:
* `step_wellKept`, `run_wellKept`: registries stay well kept.
* `step_order`, `step_others`: what a step leaves alone.
* `registry_kept`: all of this for every run.
-/

namespace TypeTags

/-- The path of an entry is that of its kind, its namespace and its name. A class or module whose
name has no parts stands at the empty path. -/
structure Entry.WellPlaced (e : Entry) : Prop where
  ofNamespace : e.kind.isNamespace = true →
    e.path = Path.join (e.nesting ++ [e.name]) ∨ e.path = "" ∧ e.nesting = []
  ofMember : e.kind.isNamespace = false →
    ∃ classLevel, e.path = Path.member e.nesting e.name classLevel ∧
      (e.kind = .instanceMethod → classLevel = false) ∧ (e.kind = .classMethod → classLevel = true)
  ofSetter : e.kind = .setter → ∃ base, e.name = base ++ "="

/-- What decides whether an entry is well placed. -/
def Entry.place (e : Entry) : String × ObjectKind × List String × String :=
  (e.path, e.kind, e.nesting, e.name)

theorem Entry.WellPlaced.of_place {e e' : Entry} (h : e.WellPlaced) (hplace : e'.place = e.place) :
    e'.WellPlaced := by
  simp only [place, Prod.mk.injEq] at hplace
  obtain ⟨hpath, hkind, hnesting, hname⟩ := hplace
  refine ⟨?_, ?_, ?_⟩
  · rw [hpath, hkind, hnesting, hname]
    exact h.ofNamespace
  · rw [hpath, hkind, hnesting, hname]
    exact h.ofMember
  · rw [hkind, hname]
    exact h.ofSetter

/-- Every path has one entry, which is well placed there. -/
structure Registry.WellKept (r : Registry) : Prop where
  distinct : r.objects.keys.Nodup
  placed : ∀ p ∈ r.objects, p.2.path = p.1 ∧ p.2.WellPlaced

/-- The paths that a declaration enters: that of the namespace, or those of its targets. -/
def Declaration.paths (d : Declaration) : List String :=
  if d.kind.isNamespace then [Path.join (Path.nested d.nesting d.name)]
  else (d.targets []).map Target.path

namespace Assembly

/-- The paths whose entries a step may touch. -/
def Step.paths : Step → List String
  | .declare d => d.paths
  | .setVisibility nesting names _ classLevel => memberPaths nesting names classLevel
  | _ => []

/-! ## The paths of a declaration -/

theorem targets_paths (d : Declaration) (tags : List Tag) :
    (d.targets tags).map Target.path = (d.targets []).map Target.path := by
  have htags : ∀ kind name classLevel,
      (d.target tags kind name classLevel).path = (d.target [] kind name classLevel).path :=
    fun _ _ _ => rfl
  unfold Declaration.targets
  split
  · simp [htags]
  · simp [htags]
  · simp only [List.map_flatMap, List.map_append]
    congr 1
    funext name
    split <;> split <;> simp [htags]
  · rfl

theorem pathsOf_eq {as : Association}
    (h : as.targets = as.declaration.targets as.explicitTags) :
    pathsOf as = as.declaration.paths := by
  unfold pathsOf Declaration.paths
  rw [h, targets_paths]

/-! ## Entries stay in place -/

/-- Entries can be changed where they stand if what places them is left alone. -/
theorem wellKept_map {r : Registry} (h : r.WellKept) (change : String → Entry → Entry)
    (hplace : ∀ key e, (change key e).place = e.place) :
    ({ r with objects := r.objects.map fun (key, e) => (key, change key e) } : Registry).WellKept
    where
  distinct := by
    rw [Assoc.keys_map]
    exact h.distinct
  placed := by
    intro p hp
    obtain ⟨⟨key, e⟩, hmem, rfl⟩ := List.mem_map.1 hp
    obtain ⟨hkey, hplaced⟩ := h.placed _ hmem
    exact ⟨(congrArg (·.1) (hplace key e)).trans hkey, hplaced.of_place (hplace key e)⟩

theorem wellKept_modify {r : Registry} (h : r.WellKept) (path : String) {change : Entry → Entry}
    (hplace : ∀ e, (change e).place = e.place) : (r.modify path change).WellKept := by
  refine wellKept_map h (fun key e => if key = path then change e else e) fun key e => ?_
  split
  · exact hplace e
  · rfl

theorem withVisibility_wellKept {r : Registry} (h : r.WellKept) (paths : List String)
    (visibility : Visibility) : (r.withVisibility paths visibility).WellKept := by
  refine wellKept_map h
    (fun key e => if key ∈ paths then { e with visibility } else e) fun key e => ?_
  split <;> rfl

theorem wellKept_register {r : Registry} {e : Entry} (he : e.WellPlaced) (h : r.WellKept) :
    (r.register e).WellKept where
  distinct := by
    rw [Registry.register, Assoc.keys_put]
    exact Assoc.nodup_joinKeys h.distinct _
  placed := Assoc.put_forall h.placed ⟨rfl, he⟩

/-- A class or module is placed by the last of its names inside the others. -/
theorem namespace_wellPlaced {e : Entry} (names : List String) (fallback : String)
    (hkind : e.kind.isNamespace = true) (hpath : e.path = Path.join names)
    (hname : e.name = names.getLast?.getD fallback) (hnesting : e.nesting = names.dropLast) :
    e.WellPlaced where
  ofNamespace _ := by
    cases hlast : names.getLast? with
    | none =>
      obtain rfl := List.getLast?_eq_none_iff.1 hlast
      exact .inr ⟨hpath, hnesting⟩
    | some last =>
      obtain ⟨before, rfl⟩ := List.getLast?_eq_some_iff.1 hlast
      refine .inl ?_
      rw [hpath, hname, hnesting, hlast, Option.getD_some, List.dropLast_concat]
  ofMember h := by simp [hkind] at h
  ofSetter h := by simp [h, ObjectKind.isNamespace] at hkind

/-- A target of a declaration is placed by its namespace and its name. -/
theorem target_wellPlaced {d : Declaration} {tags : List Tag} {target : Target}
    (h : target ∈ d.targets tags) {e : Entry}
    (hplace : e.place = (target.path, target.kind, target.nesting, target.name)) :
    e.WellPlaced := by
  obtain ⟨kind, name, classLevel, rfl, hmember, hinstance, hclass, hsetter⟩ := mem_targets h
  simp only [Entry.place, Prod.mk.injEq] at hplace
  obtain ⟨hpath, hkind, hnesting, hname⟩ := hplace
  refine ⟨fun hn => ?_, fun _ => ⟨classLevel, ?_, ?_, ?_⟩, ?_⟩
  · rw [hkind] at hn
    exact absurd (hmember.symm.trans hn) Bool.false_ne_true
  · rw [hpath, hnesting, hname]
    rfl
  · rw [hkind]
    exact hinstance
  · rw [hkind]
    exact hclass
  · rw [hkind, hname]
    exact hsetter

theorem registerNamespace_wellKept (as : Association) {a : Assembly} (h : a.registry.WellKept) :
    (a.registerNamespace as).registry.WellKept := by
  unfold registerNamespace
  dsimp only
  split
  · dsimp only
    exact wellKept_modify h _ fun _ => rfl
  · refine wellKept_register ?_ h
    refine namespace_wellPlaced _ _ ?_ rfl rfl rfl
    dsimp only
    split <;> rfl

theorem registerTarget_wellKept (as : Association) {d : Declaration} {tags : List Tag}
    {target : Target} (ht : target ∈ d.targets tags) {a : Assembly} (h : a.registry.WellKept) :
    (registerTarget as a target).registry.WellKept := by
  refine wellKept_register (target_wellPlaced ht ?_) h
  unfold Entry.place
  dsimp only
  split <;> rfl

theorem registerTargets_wellKept (as : Association) {d : Declaration} {tags : List Tag}
    {targets : List Target} (ht : ∀ target ∈ targets, target ∈ d.targets tags) {a : Assembly}
    (h : a.registry.WellKept) : (targets.foldl (registerTarget as) a).registry.WellKept := by
  induction targets generalizing a with
  | nil => exact h
  | cons target targets ih =>
    exact ih (fun t hmem => ht t (List.mem_cons_of_mem _ hmem))
      (registerTarget_wellKept as (ht target List.mem_cons_self) h)

theorem register_wellKept {as : Association}
    (ht : as.targets = as.declaration.targets as.explicitTags) {a : Assembly}
    (h : a.registry.WellKept) : (a.register as).registry.WellKept := by
  unfold register
  split
  · exact registerNamespace_wellKept as h
  · exact registerTargets_wellKept as (fun target hmem => ht ▸ hmem) h

/-! ## Steps and runs -/

theorem step_wellKept {a : Assembly} (h : a.registry.WellKept) (s : Step) :
    (a.step s).1.registry.WellKept := by
  obtain ⟨as, -, -, ht, hstep⟩ | ⟨-, nesting, names, visibility, classLevel, rfl⟩ | ⟨-, hobjects⟩ :=
    a.step_cases s
  · rw [hstep]
    exact register_wellKept ht h
  · rw [step, setVisibility_eq]
    exact withVisibility_wellKept h _ visibility
  · exact ⟨by rw [hobjects]; exact h.distinct, by rw [hobjects]; exact h.placed⟩

theorem start_wellKept (file : Option String) (policy : MergePolicy) :
    (start file policy).registry.WellKept :=
  ⟨List.nodup_nil, fun _ hp => absurd hp List.not_mem_nil⟩

theorem run_wellKept {a : Assembly} (h : a.registry.WellKept) (steps : List Step) :
    (a.run steps).registry.WellKept := by
  induction steps generalizing a with
  | nil => exact h
  | cons s steps ih => exact ih (step_wellKept h s)

/-- No entry is taken away or moved. -/
theorem step_order (a : Assembly) (s : Step) :
    a.registry.objects.keys <+: (a.step s).1.registry.objects.keys := by
  obtain ⟨as, -, -, -, hstep⟩ | ⟨-, nesting, names, visibility, classLevel, rfl⟩ | ⟨-, hobjects⟩ :=
    a.step_cases s
  · rw [hstep, (register_enters as _).keys]
    exact List.prefix_append ..
  · have hkeys := a.registry.keys_withVisibility (memberPaths nesting names classLevel) visibility
    simp only [step, setVisibility_eq, hkeys, List.prefix_rfl]
  · simp only [hobjects, List.prefix_rfl]

/-- Entries at other paths than those of the step stay as they are. -/
theorem step_others (a : Assembly) (s : Step) {path : String} (h : path ∉ s.paths) :
    (a.step s).1.registry.at? path = a.registry.at? path := by
  obtain ⟨as, -, hs, ht, hstep⟩ | ⟨-, nesting, names, visibility, classLevel, rfl⟩ | ⟨-, hobjects⟩ :=
    a.step_cases s
  · rw [hs, Step.paths, ← pathsOf_eq ht] at h
    rw [hstep, (register_enters as _).others path h]
  · have hnot : path ∉ memberPaths nesting names classLevel := h
    rw [step, setVisibility_eq, Registry.at?_withVisibility]
    simp [hnot]
  · simp only [Registry.at?, hobjects]

/-- A declaration of a thing enters all its paths. -/
theorem declare_order (a : Assembly) {d : Declaration} (hk : d.kind ≠ .signature)
    (hp : 1 ≤ d.precedingLine) (hl : 1 ≤ d.line) :
    (a.declare d).1.registry.objects.keys =
      Assoc.joinKeys a.registry.objects.keys d.paths := by
  obtain ⟨b, run, -, hb⟩ := a.attribution.declare_took d hp hl
  rw [if_neg hk] at hb
  obtain ⟨hdecl, htargets⟩ := claim_targets b d run
  rw [declare_eq, hb]
  dsimp only
  rw [(register_enters _ _).keys, pathsOf_eq (by rw [hdecl, htargets]), hdecl]

/-- **Keeping a registry.** After every run from the start, each path has one entry, which is well
placed there. A step of any state leaves the paths in their order and puts new ones behind them, and
it leaves the entries alone that are not at its own paths. A declaration of a thing enters all of
them. A change of visibility changes the visibility of the entries at the paths of the named members
and their setters, and nothing else. -/
theorem registry_kept (file : Option String) (policy : MergePolicy) (steps : List Step) :
    ((start file policy).run steps).registry.WellKept ∧
    (∀ (a : Assembly) (s : Step),
      a.registry.objects.keys <+: (a.step s).1.registry.objects.keys ∧
      ∀ path ∉ s.paths, (a.step s).1.registry.at? path = a.registry.at? path) ∧
    (∀ (a : Assembly) (d : Declaration), d.kind ≠ .signature → 1 ≤ d.precedingLine → 1 ≤ d.line →
      (a.declare d).1.registry.objects.keys =
        Assoc.joinKeys a.registry.objects.keys d.paths) ∧
    ∀ (a : Assembly) (nesting names : List String) (visibility : Visibility) (classLevel : Bool),
      a.setVisibility nesting names visibility classLevel =
        { a with registry :=
            a.registry.withVisibility (memberPaths nesting names classLevel) visibility } := by
  exact ⟨run_wellKept (start_wellKept file policy) steps,
    fun a s => ⟨a.step_order s, fun _ => a.step_others s⟩, fun a _ => a.declare_order,
    setVisibility_eq⟩

/-- A class with accessors, one of them hidden, that is opened again from inside another class. -/
def reopenedSteps : List Step :=
  [.declare { kind := .classBody, name := "A", precedingText := "# One.\n" },
   .openScope,
   .declare { kind := .attribute, nesting := ["A"], names := ["x", "y"], precedingLine := 2 },
   .setVisibility ["A"] ["x", "z"] .hidden false,
   .closeScope "# @note kept\n" 3,
   .declare { kind := .classBody, nesting := ["B"], name := "::A", precedingText := "# Two.\n" },
   .finish]

theorem registry_kept_reopenedSteps :
    ((start none .signature).run reopenedSteps).registry.WellKept ∧
      (((start none .signature).run reopenedSteps).registry.objects.map fun p =>
        (p.1, p.2.kind, p.2.visibility)) =
          [("A", .classBody, .open), ("A#x", .getter, .hidden), ("A#x=", .setter, .hidden),
            ("A#y", .getter, .open), ("A#y=", .setter, .open)] :=
  ⟨(registry_kept none .signature reopenedSteps).1, by decide +kernel⟩

end Assembly

end TypeTags
