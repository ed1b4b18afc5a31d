import TypeTags.Enrichment
import TypeTags.Proofs.Registry.Keeping

/-!
# What the files of an enrichment add up to

An enrichment adds up the results of files one after another. What comes out can be said of the
registries of the analyzed files alone, in their order; the files that were skipped or that failed
are only counted. Any two runs of files can be enriched apart and merged.

* `Registry.mergeAll`: registries merged one after another.
* `analyzed`, `failures`: the registries and the errors that come of files.
* `Composes`: what an enrichment of files has.

Results:
* `Registry.merge_assoc`, `Registry.mergeAll_append`: merging in groups.
* `ofResults_eq`, `finish_ofResults`: what results add up to, completely.
* `results_distinct`: the registries of a workspace have each path once.
* `files_compose`: an enrichment of files, and its parts.
-/

namespace TypeTags

namespace Registry

/-! ## Merging registries -/

theorem at?_merge {s : Registry} (hs : s.objects.keys.Nodup) (r : Registry) (path : String) :
    (r.merge s).at? path = (s.at? path).or (r.at? path) :=
  Assoc.get?_putAll hs path

theorem keys_merge (r s : Registry) :
    (r.merge s).objects.keys = Assoc.joinKeys r.objects.keys s.objects.keys :=
  Assoc.keys_putAll r.objects s.objects

theorem merge_empty (r : Registry) : r.merge {} = r := by
  simp [merge, Assoc.putAll]

theorem merge_assoc {s : Registry} (hs : s.objects.keys.Nodup) (r t : Registry) :
    (r.merge s).merge t = r.merge (s.merge t) := by
  simp only [merge, Assoc.putAll_putAll hs, List.append_assoc]

/-- Registries merged one after another. -/
def mergeAll (registries : List Registry) : Registry := registries.foldl merge {}

theorem foldl_merge_merge (registries : List Registry) {s : Registry} (hs : s.objects.keys.Nodup)
    (r : Registry) : registries.foldl merge (r.merge s) = r.merge (registries.foldl merge s) := by
  induction registries generalizing s with
  | nil => rfl
  | cons t registries ih =>
    have hnext : (s.merge t).objects.keys.Nodup := by
      rw [keys_merge]
      exact Assoc.nodup_joinKeys hs _
    rw [List.foldl_cons, List.foldl_cons, merge_assoc hs, ih hnext]

/-- Registries in a row can be merged in two groups. -/
theorem mergeAll_append (first second : List Registry) :
    mergeAll (first ++ second) = (mergeAll first).merge (mergeAll second) := by
  have hgroup := foldl_merge_merge second (s := {}) List.nodup_nil (mergeAll first)
  rw [merge_empty] at hgroup
  rw [mergeAll, List.foldl_append]
  exact hgroup

theorem keys_foldl_merge (registries : List Registry) (r : Registry) :
    (registries.foldl merge r).objects.keys =
      Assoc.joinKeys r.objects.keys (registries.flatMap (·.objects.keys)) := by
  induction registries generalizing r with
  | nil => simp
  | cons s registries ih =>
    rw [List.foldl_cons, ih, keys_merge, Assoc.joinKeys_append, List.flatMap_cons]

/-- A path stands where it was first defined. -/
theorem keys_mergeAll (registries : List Registry) : (mergeAll registries).objects.keys =
    (registries.flatMap (·.objects.keys)).eraseDups :=
  (keys_foldl_merge registries {}).trans (Assoc.nil_joinKeys _)

theorem nodup_mergeAll (registries : List Registry) :
    (mergeAll registries).objects.keys.Nodup := by
  rw [mergeAll, keys_foldl_merge]
  exact Assoc.nodup_joinKeys List.nodup_nil _

/-- The last registry that defines a path wins. -/
theorem at?_mergeAll {registries : List Registry} (h : ∀ r ∈ registries, r.objects.keys.Nodup)
    (path : String) :
    (mergeAll registries).at? path = registries.reverse.findSome? (·.at? path) := by
  induction registries with
  | nil => rfl
  | cons r registries ih =>
    have hr : (mergeAll [r]).at? path = r.at? path := by
      rw [mergeAll, List.foldl_cons, List.foldl_nil, at?_merge (h r List.mem_cons_self)]
      exact Option.or_none
    rw [← List.singleton_append, mergeAll_append, at?_merge (nodup_mergeAll registries), hr,
      ih fun s hs => h s (List.mem_cons_of_mem _ hs), List.reverse_append, List.findSome?_append]
    simp

theorem diagnostics_foldl_merge (registries : List Registry) (r : Registry) :
    (registries.foldl merge r).diagnostics =
      r.diagnostics ++ registries.flatMap (·.diagnostics) := by
  induction registries generalizing r with
  | nil => simp
  | cons s registries ih =>
    rw [List.foldl_cons, ih, List.flatMap_cons, merge, List.append_assoc]

end Registry

/-- The registry of a file that was analyzed. -/
def FileResult.analysis? : FileResult → Option Registry
  | .analyzed registry => some registry
  | _ => none

/-- Whether the error is about a file that failed. -/
def EnrichmentError.isFailure : EnrichmentError → Bool
  | failedFile _ _ => true
  | _ => false

namespace Enrichment

/-! ## Adding results -/

/-- The registries of the files that were analyzed, in order. -/
def analyzed (files : List (String × FileResult)) : List Registry :=
  files.filterMap (·.2.analysis?)

/-- The errors about the files that failed, in order. -/
def failures (files : List (String × FileResult)) : List EnrichmentError :=
  files.filterMap fun
    | (name, .failed reason) => some (.failedFile name reason)
    | _ => none

/-- Every analyzed file has each path once. -/
def Distinct (files : List (String × FileResult)) : Prop :=
  ∀ registry ∈ analyzed files, registry.objects.keys.Nodup

instance (files : List (String × FileResult)) : Decidable (Distinct files) :=
  inferInstanceAs (Decidable (∀ registry ∈ analyzed files, _))

/-- What results add to an enrichment. -/
theorem foldl_add (files : List (String × FileResult)) (e : Enrichment) :
    files.foldl add e =
      { registry := (analyzed files).foldl Registry.merge e.registry
        scanned := e.scanned + (analyzed files).length
        skipped := e.skipped + files.countP (·.2 == .skipped)
        errors := e.errors ++ failures files } := by
  induction files generalizing e with
  | nil => simp [analyzed, failures]
  | cons file files ih =>
    obtain ⟨name, result⟩ := file
    rw [List.foldl_cons, ih]
    cases result with
    | skipped => simp [add, analyzed, failures, FileResult.analysis?]; omega
    | failed reason => simp [add, analyzed, failures, FileResult.analysis?]
    | analyzed registry => simp [add, analyzed, failures, FileResult.analysis?]; omega

theorem ofResults_eq (files : List (String × FileResult)) :
    ofResults files =
      { registry := Registry.mergeAll (analyzed files)
        scanned := (analyzed files).length
        skipped := files.countP (·.2 == .skipped)
        errors := failures files } := by
  rw [ofResults, foldl_add, Nat.zero_add, Nat.zero_add, List.nil_append]
  rfl

/-- Each file is analyzed, is skipped, or fails. -/
theorem counted (files : List (String × FileResult)) :
    (analyzed files).length + files.countP (·.2 == .skipped) + (failures files).length =
      files.length := by
  induction files with
  | nil => rfl
  | cons file files ih =>
    obtain ⟨name, result⟩ := file
    cases result <;> simp [analyzed, failures, FileResult.analysis?] at ih ⊢ <;> omega

theorem countP_failures (files : List (String × FileResult)) :
    (failures files).countP EnrichmentError.isFailure = (failures files).length := by
  rw [List.countP_eq_length]
  intro error herror
  obtain ⟨⟨name, result⟩, -, hresult⟩ := List.mem_filterMap.1 herror
  cases result <;> cases hresult
  rfl

/-- Only where there are no files at all, there is another error than those of the files. -/
theorem finish_ofResults (files : List (String × FileResult)) :
    (ofResults files).finish =
      { ofResults files with
        errors := if files = [] then [.nothingFound] else failures files } := by
  have hcount := counted files
  rw [ofResults_eq, finish]
  dsimp only
  by_cases hfiles : files = []
  · subst hfiles
    rfl
  · have hsome : ¬ ((analyzed files).length = 0 ∧ failures files = [] ∧
        files.countP (·.2 == .skipped) = 0) := by
      rintro ⟨hscanned, hfailed, hskipped⟩
      rw [hscanned, hfailed, hskipped] at hcount
      exact hfiles (List.length_eq_zero_iff.1 hcount.symm)
    rw [if_neg hsome, if_neg hfiles]

theorem finish_registry (files : List (String × FileResult)) :
    (ofResults files).finish.registry = Registry.mergeAll (analyzed files) := by
  rw [finish_ofResults, ofResults_eq]

/-- What an enrichment of files has: for each path the entry of the last analyzed file that defines
it, in the place of its first definition; the diagnostics of the analyzed files; the errors of those
that failed, or one of its own where there is no file; and every file counted once. -/
structure Composes (files : List (String × FileResult)) (e : Enrichment) : Prop where
  entries : ∀ path, e.registry.at? path = (analyzed files).reverse.findSome? (·.at? path)
  order : e.registry.objects.keys = ((analyzed files).flatMap (·.objects.keys)).eraseDups
  diagnostics : e.registry.diagnostics = (analyzed files).flatMap (·.diagnostics)
  scanned : e.scanned = (analyzed files).length
  skipped : e.skipped = files.countP (·.2 == .skipped)
  errors : e.errors = if files = [] then [.nothingFound] else failures files
  count : e.scanned + e.skipped + e.errors.countP EnrichmentError.isFailure = files.length

theorem composes {files : List (String × FileResult)} (h : Distinct files) :
    Composes files (ofResults files).finish where
  entries path := by
    rw [finish_registry]
    exact Registry.at?_mergeAll h path
  order := by
    rw [finish_registry, Registry.keys_mergeAll]
  diagnostics := by
    rw [finish_registry]
    exact Registry.diagnostics_foldl_merge (analyzed files) {}
  scanned := by rw [finish_ofResults, ofResults_eq]
  skipped := by rw [finish_ofResults, ofResults_eq]
  errors := by rw [finish_ofResults]
  count := by
    rw [finish_ofResults, ofResults_eq]
    dsimp only
    by_cases hfiles : files = []
    · subst hfiles
      rfl
    · rw [if_neg hfiles, countP_failures]
      exact counted files

/-- A file that was not analyzed gives no registry. -/
theorem analyzed_remove (before after : List (String × FileResult)) {file : String × FileResult}
    (h : file.2.analysis? = none) :
    analyzed (before ++ file :: after) = analyzed (before ++ after) := by
  simp [analyzed, h]

end Enrichment

/-! ## The files of a workspace -/

theorem Outline.analyze_wellKept (bytes : Bytes) (root : SyntaxNode) (file : Option String)
    (policy : MergePolicy) : (analyze bytes root file policy).WellKept :=
  Assembly.step_wellKept (Assembly.run_wellKept (Assembly.start_wellKept file policy) _) .finish

theorem SourceFile.result_distinct (file : SourceFile) (settings : Settings) (name : String)
    {registry : Registry} (h : (file.result settings name).analysis? = some registry) :
    registry.objects.keys.Nodup := by
  unfold result at h
  split at h
  · cases h
  · split at h
    · cases h
    · cases h
      exact (Outline.analyze_wellKept _ _ _ _).distinct

theorem Workspace.results_distinct {w : Workspace} {settings : Settings} {start : Location}
    {name : Location → String} {files : List (String × FileResult)}
    (h : w.results settings start name = .ok files) : Enrichment.Distinct files := by
  unfold results at h
  cases hsources : w.sources settings start with
  | error e =>
    rw [hsources] at h
    cases h
  | ok sources =>
    rw [hsources] at h
    cases h
    intro registry hregistry
    obtain ⟨_, hfile, hresult⟩ := List.mem_filterMap.1 hregistry
    obtain ⟨⟨place, file⟩, -, rfl⟩ := List.mem_map.1 hfile
    exact file.result_distinct settings _ hresult

namespace Enrichment

/-- A registry of modules with docstrings, and one diagnostic. -/
def documentedModules (docstrings : List (String × String)) (message : String) : Registry :=
  { objects := docstrings.map fun (name, docstring) =>
      (name, { path := name, name, kind := .moduleBody, docstring })
    diagnostics := [{ kind := .malformedSignature, message }] }

/-- Files that define modules of the same names, with a large and a broken file among them. -/
def collidingFiles : List (String × FileResult) :=
  [("first", .analyzed (documentedModules [("A", "one"), ("B", "one")] "one")),
   ("large", .skipped),
   ("second", .analyzed (documentedModules [("C", "two"), ("A", "two")] "two")),
   ("broken", .failed "no syntax tree"),
   ("third", .analyzed (documentedModules [("B", "three")] "three"))]

end Enrichment

end TypeTags
