import TypeTags.Proofs.Registry.Keeping

/-!
# What the docstring of an entry is made of

A class or module that is opened again changes its entry in place, and a member that is declared
again gets a new one; either way the entry gains the docstring of the new association. So a docstring
holds what all associations with its path brought, in order and on lines of their own.

* `Entry.onLines`: texts on lines of their own, without the empty ones.
* `textsAt`: what associations bring to a path, once for each time that they enter it.

Results:
* `joinDocs_onLines`: one text more is put on a line of its own.
* `step_docstring?`, `run_docstring?`: a docstring gains the texts of the step, and of the run.
* `docstrings_gathered`: the docstrings of a run that starts without entries.
-/

namespace TypeTags

namespace Entry

/-- The texts that are not empty, on lines of their own. -/
def onLines (texts : List String) : String :=
  String.intercalate "\n" (texts.filter (!·.isEmpty))

theorem onLines_eq_empty_iff {texts : List String} :
    onLines texts = "" ↔ texts.filter (!·.isEmpty) = [] := by
  unfold onLines
  constructor
  · intro h
    cases hkept : texts.filter (!·.isEmpty) with
    | nil => rfl
    | cons text kept =>
      have hmem : text ∈ texts.filter (!·.isEmpty) := hkept ▸ List.mem_cons_self
      have hsplit : String.intercalate "\n" (text :: kept) =
          text ++ String.intercalate "\n" ("" :: kept) := by
        rw [← String.intercalate_cons_append, String.append_empty]
      rw [hkept, hsplit, String.append_eq_empty_iff] at h
      simp [h.1] at hmem
  · intro h
    rw [h, String.intercalate_nil]

/-- One text more is put on a line of its own. -/
theorem joinDocs_onLines (texts : List String) (text : String) :
    joinDocs (onLines texts) text = onLines (texts ++ [text]) := by
  unfold joinDocs
  by_cases htext : text.isEmpty
  · simp [onLines, htext]
  · rw [if_neg htext]
    by_cases hkept : texts.filter (!·.isEmpty) = []
    · rw [if_pos (by rw [onLines_eq_empty_iff.2 hkept]; rfl)]
      simp [onLines, hkept, htext]
    · have hlines : (onLines texts).isEmpty = false := by
        simpa using mt onLines_eq_empty_iff.1 hkept
      rw [hlines, if_neg Bool.false_ne_true]
      unfold onLines
      rw [List.filter_append, List.filter_cons_of_pos (by simpa using htext), List.filter_nil,
        String.intercalate_append_of_ne_nil hkept (List.cons_ne_nil _ _),
        String.intercalate_singleton]

end Entry

namespace Assembly

open Entry

theorem gather_some (texts more : List String) :
    gather (some (onLines texts)) more = some (onLines (texts ++ more)) := by
  induction more generalizing texts with
  | nil => rw [List.append_nil]; rfl
  | cons text more ih =>
    have hnext := ih (texts ++ [text])
    rw [← joinDocs_onLines, List.append_assoc, List.singleton_append] at hnext
    exact hnext

/-- A docstring that starts with nothing is the gathered texts on lines of their own. -/
theorem gather_none (texts : List String) :
    gather none texts = if texts = [] then none else some (onLines texts) := by
  cases texts with
  | nil => rfl
  | cons text texts =>
    have hfirst := gather_some [text] texts
    have hone : joinDocs "" text = onLines [text] := joinDocs_onLines [] text
    rw [if_neg (List.cons_ne_nil _ _), ← List.singleton_append, ← hfirst, ← hone]
    rfl

theorem gather_append (docstring : Option String) (texts more : List String) :
    gather docstring (texts ++ more) = gather (gather docstring texts) more :=
  List.foldl_append

/-- What associations bring to a path: the docstring of each of them, once for each time that it
enters the path. -/
def textsAt (path : String) (associations : List Association) : List String :=
  associations.flatMap fun as => List.replicate ((pathsOf as).count path) as.docstring

/-- An entry gains what the step is answered with. -/
theorem step_docstring? (a : Assembly) (s : Step) (path : String) :
    (a.step s).1.registry.docstring? path =
      gather (a.registry.docstring? path) (textsAt path (a.answer? s).toList) := by
  obtain ⟨as, has, -, -, hstep⟩ | ⟨hnone, nesting, names, visibility, classLevel, rfl⟩ |
    ⟨hnone, hobjects⟩ := a.step_cases s
  · rw [hstep, (register_enters as _).docstrings, has]
    simp [textsAt]
  · rw [step, setVisibility_eq, Registry.docstring?_withVisibility, hnone]
    rfl
  · rw [Registry.docstring?, Registry.at?, hobjects, hnone]
    rfl

/-- An entry gains what the run is answered with. -/
theorem run_docstring? (a : Assembly) (steps : List Step) (path : String) :
    (a.run steps).registry.docstring? path =
      gather (a.registry.docstring? path) (textsAt path (a.associations steps)) := by
  induction steps generalizing a with
  | nil => rfl
  | cons s steps ih =>
    have hrun := ih (a.step s).1
    rw [step_docstring?, ← gather_append] at hrun
    rw [associations_cons, textsAt, List.flatMap_append]
    exact hrun

/-- **Gathering docstrings.** In a run that starts without entries, the entry at a path has the
docstrings of all associations that entered the path, in order, each once for each time that it did;
the empty ones are left out and the others stand on lines of their own. A step that is not answered
with an association for the path leaves the docstring there as it is. -/
theorem docstrings_gathered {a : Assembly} (ha : a.registry.objects = []) :
    (∀ steps path, (a.run steps).registry.docstring? path =
      if textsAt path (a.associations steps) = [] then none
      else some (onLines (textsAt path (a.associations steps)))) ∧
    ∀ (b : Assembly) (s : Step) (path : String),
      (∀ as, b.answer? s = some as → path ∉ pathsOf as) →
      (b.step s).1.registry.docstring? path = b.registry.docstring? path := by
  constructor
  · intro steps path
    have hnone : a.registry.docstring? path = none := by
      rw [Registry.docstring?, Registry.at?, ha]
      rfl
    rw [run_docstring?, hnone, gather_none]
  · intro b s path hpath
    rw [step_docstring?]
    cases hs : b.answer? s with
    | none => rfl
    | some as =>
      have hcount : (pathsOf as).count path = 0 := List.count_eq_zero.2 (hpath as hs)
      simp [textsAt, hcount, gather]

/-- A class with a reader that is named twice; the class is opened again twice, and the reader is
declared again as a method. -/
def echoedSteps : List Step :=
  [.declare { kind := .classBody, name := "A", precedingText := "# One.\n" },
   .declare { kind := .attribute, nesting := ["A"], names := ["x", "x"], precedingText := "# Echo.\n",
              accessorMode := some .reader },
   .declare { kind := .classBody, nesting := ["B"], name := "::A" },
   .setVisibility ["A"] ["x"] .hidden false,
   .declare { kind := .moduleBody, name := "A", precedingText := "# Two.\n" },
   .declare { kind := .method, nesting := ["A"], name := "x", precedingText := "# Last.\n" }]

theorem docstrings_gathered_echoedSteps :
    (start none .signature).registry.objects = [] ∧
      ["A", "A#x", "B"].map ((start none .signature).run echoedSteps).registry.docstring? =
        [some "One.\nTwo.", some "Echo.\nEcho.\nLast.", none] := by
  obtain ⟨hdocs, -⟩ := docstrings_gathered (a := start none .signature) rfl
  refine ⟨rfl, ?_⟩
  simp only [List.map_cons, List.map_nil, hdocs]
  decide +kernel

end Assembly

end TypeTags
