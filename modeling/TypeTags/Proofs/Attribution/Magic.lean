import TypeTags.Proofs.Attribution.Comments
import TypeTags.Proofs.Docstring.FreeText
import TypeTags.Proofs.Segment.Replaced

/-!
# Lines that speak to the interpreter

A magic comment in the text before a declaration has the effect of an empty line: it ends the
comment before it and is part of none. The line that names the interpreter, which starts with `#!`,
is no magic comment. It is a comment line like any other, and documents what the comment documents
that it starts.

* `SameEffect`: a declaration in the place of another leaves the machine in the same state and is
  answered in the same way.
* `losesFirst`: the comment that starts a text documents nothing.

Results:
* `sameEffect_of_magic`: an empty line in the place of a magic comment.
* `sameEffect_of_lost`, `not_sameEffect_of_kept`: an empty line in the place of a first line that
  starts with `#!`.
* `interpreter_lines`: both, for every state and every declaration.
-/

namespace TypeTags

/-- The declaration with an empty line in the place of line `k` of the text before it. -/
def Declaration.blanked (d : Declaration) (k : Nat) : Declaration :=
  { d with precedingText := String.ofList (Segment.blanked d.precedingText.toList k) }

/-- Line `k` of the text before the declaration is not the last one, and no signature block reaches
to it. -/
structure Declaration.FreeLine (d : Declaration) (k : Nat) (line : List Char) : Prop where
  line : (Text.sourceLines d.precedingText.toList)[k]? = some line
  notLast : k + 1 < (Text.sourceLines d.precedingText.toList).length
  free : ∀ s ∈ segments d.precedingText.toList d.precedingLine,
    s.kind = .sig → ¬ s.Reaches (d.precedingLine + k)

namespace Attribution

/-- The declaration `e` in the place of `d` leaves the machine in the same state, and is answered in
the same way but for the declaration that the answer is about. -/
structure SameEffect (a : Attribution) (d e : Declaration) : Prop where
  state : (a.declare e).1 = (a.declare d).1
  answer : (a.declare e).2 = (a.declare d).2.map (Option.map fun x => { x with declaration := e })

/-- The comment that starts segments is lost: they go on behind it with something that is no
signature. -/
def losesFirst (segs : List Segment) : Bool :=
  (segs.dropWhile (·.kind = .comment)).head?.any (·.kind ≠ .sig)

/-! ## Texts that are read in the same way -/

theorem claim_withText (a : Attribution) (d : Declaration) (text run : String) :
    (a.claim { d with precedingText := text } run).1 = (a.claim d run).1 ∧
      (a.claim { d with precedingText := text } run).2 =
        { (a.claim d run).2 with declaration := { d with precedingText := text } } := by
  unfold claim
  dsimp only
  split <;> exact ⟨rfl, rfl⟩

/-- Only what is read of the text before it matters to the effect of a declaration. -/
theorem sameEffect_of_absorb {a : Attribution} {d : Declaration} {text : String}
    (h : a.absorb text d.precedingLine = a.absorb d.precedingText d.precedingLine) :
    a.SameEffect d { d with precedingText := text } := by
  have hdeclare : a.declare { d with precedingText := text } =
      ((a.declare d).1, (a.declare d).2.map
        (Option.map fun x => { x with declaration := { d with precedingText := text } })) := by
    unfold declare
    rw [h]
    rcases a.absorb d.precedingText d.precedingLine with ⟨b, answer⟩
    cases answer with
    | error span => rfl
    | ok run =>
      dsimp only
      split
      · unfold declareSignature
        dsimp only
        split <;> rfl
      · rw [(b.claim_withText d text run).2, (b.claim_withText d text run).1]
        rfl
  exact ⟨by rw [hdeclare], by rw [hdeclare]⟩

theorem absorb_congr {a : Attribution} {text text' : String} {line : Int}
    (h : ∀ scope found, absorbSegments a.file scope found [] (segments text'.toList line) =
      absorbSegments a.file scope found [] (segments text.toList line)) :
    a.absorb text' line = a.absorb text line := by
  unfold absorb
  rw [h]

/-- Segments that are read in the same way are read so behind any others. -/
theorem absorbSegments_append {file : Option String} {segs segs' : List Segment}
    (h : ∀ scope found run,
      absorbSegments file scope found run segs' = absorbSegments file scope found run segs)
    (front : List Segment) (scope : Scope) (found : List Diagnostic) (run : List String) :
    absorbSegments file scope found run (front ++ segs') =
      absorbSegments file scope found run (front ++ segs) := by
  induction front generalizing scope found run with
  | nil => exact h scope found run
  | cons s front ih =>
    cases hk : s.kind with
    | sig =>
      simp only [List.cons_append, absorbSegments, hk]
      split <;> simp [ih]
    | _ => simp [absorbSegments, hk, ih]

/-- **Magic comments.** An empty line in the place of a magic comment that no signature block
reaches has the same effect. -/
theorem sameEffect_of_magic (a : Attribution) {d : Declaration} {k : Nat} {line : List Char}
    (h : d.FreeLine k line) (hmagic : Segment.isMagic (Text.trim line) = true) :
    a.SameEffect d (d.blanked k) := by
  obtain ⟨front, more, htext, hblanked⟩ :=
    Segment.segments_blanked_magic h.line h.notLast h.free hmagic
  refine sameEffect_of_absorb (absorb_congr fun scope found => ?_)
  rw [String.toList_ofList, htext]
  -- a blank segment ends the comment before it, and nothing else of it is read
  rcases hblanked with hblanked | ⟨rfl, hblanked⟩
  · rw [hblanked]
    refine absorbSegments_append (fun scope found run => ?_) front scope found []
    rfl
  · rw [hblanked]
    rfl

/-! ## Comments that are lost and comments that are kept -/

theorem losesFirst_comment {s : Segment} (h : s.kind = .comment) (segs : List Segment) :
    losesFirst (s :: segs) = losesFirst segs := by
  simp [losesFirst, h]

/-- What stands before a comment that is lost is lost with it. -/
theorem absorbSegments_lost {file : Option String} {segs : List Segment}
    (h : losesFirst segs = true) (scope : Scope) (found : List Diagnostic)
    (run run' : List String) :
    absorbSegments file scope found run segs = absorbSegments file scope found run' segs := by
  induction segs generalizing run run' with
  | nil => cases h
  | cons s segs ih =>
    cases hk : s.kind with
    | comment =>
      simp only [absorbSegments, hk]
      exact ih (losesFirst_comment hk segs ▸ h) _ _
    | sig => simp [losesFirst, hk] at h
    | blank => simp only [absorbSegments, hk]
    | code => simp only [absorbSegments, hk]

/-- Whether a signature can be placed has nothing to do with the scope, whose comments stay. -/
theorem addSignature_docRuns (file : Option String) (text : String) (line : Int) :
    (∃ span, ∀ scope, addSignature file scope text line = .error span) ∨
      ∀ scope, ∃ next more, addSignature file scope text line = .ok (next, more) ∧
        next.docRuns = scope.docRuns := by
  unfold addSignature
  dsimp only
  split
  · exact .inr fun scope => ⟨_, _, rfl, rfl⟩
  · exact .inr fun scope => ⟨_, _, rfl, rfl⟩
  · exact .inl ⟨_, fun scope => rfl⟩

/-- The comment lines right before a signature, as they wait in a scope. -/
def above (run : List String) : List String := if run.isEmpty then [] else [joinRun run]

/-- A signature takes the comment before it into the scope, and is placed or not whatever the
comment and the scope. -/
theorem absorbSegments_sig (file : Option String) {s : Segment} (hs : s.kind = .sig)
    (segs : List Segment) :
    (∃ span, ∀ scope found run,
        (absorbSegments file scope found run (s :: segs)).scope.docRuns =
            scope.docRuns ++ above run ∧
          (absorbSegments file scope found run (s :: segs)).ending = .error span) ∨
      ∀ scope found run, ∃ next more, next.docRuns = scope.docRuns ++ above run ∧
        absorbSegments file scope found run (s :: segs) =
          absorbSegments file next (found ++ more) [] segs := by
  have hdocs (scope : Scope) (run : List String) :
      (if run.isEmpty then scope
        else { scope with docRuns := scope.docRuns ++ [joinRun run] }).docRuns =
        scope.docRuns ++ above run := by
    unfold above
    split <;> simp
  rcases addSignature_docRuns file (String.ofList s.text) s.line with ⟨span, h⟩ | h
  · refine .inl ⟨span, fun scope found run => ?_⟩
    simp only [absorbSegments, hs, h, hdocs, true_and]
  · refine .inr fun scope found run => ?_
    obtain ⟨next, more, he, hd⟩ := h (if run.isEmpty then scope
      else { scope with docRuns := scope.docRuns ++ [joinRun run] })
    refine ⟨next, more, hd.trans (hdocs scope run), ?_⟩
    simp only [absorbSegments, hs, he]

/-- The comments that segments add to a scope, and how they end, have nothing to do with the
scope. -/
theorem absorbSegments_docRuns (file : Option String) (segs : List Segment) (run : List String) :
    ∃ added ending, ∀ scope found,
      (absorbSegments file scope found run segs).scope.docRuns = scope.docRuns ++ added ∧
        (absorbSegments file scope found run segs).ending = ending := by
  induction segs generalizing run with
  | nil => exact ⟨[], .ok run, fun scope found => by simp [absorbSegments]⟩
  | cons s segs ih =>
    cases hk : s.kind with
    | sig =>
      rcases absorbSegments_sig file hk segs with ⟨span, h⟩ | h
      · exact ⟨above run, .error span, fun scope found => h scope found run⟩
      · obtain ⟨added, ending, ha⟩ := ih []
        refine ⟨above run ++ added, ending, fun scope found => ?_⟩
        obtain ⟨next, more, hd, he⟩ := h scope found run
        rw [he, (ha _ _).1, (ha _ _).2, hd, List.append_assoc]
        exact ⟨rfl, rfl⟩
    | _ =>
      simp only [absorbSegments, hk]
      exact ih _

/-- The comments of a scope after a text is read into it: with the comment that ends the text, if
the text is read to its end. -/
def documents (absorbed : Attribution × Except LineSpan String) : List String :=
  match absorbed.2 with
  | .ok run => withRun absorbed.1.current.docRuns run
  | .error _ => absorbed.1.current.docRuns

/-- A comment line in front of a comment that is kept stands in what the comment documents. -/
theorem absorbSegments_kept (file : Option String) {segs : List Segment}
    (h : losesFirst segs = false) (first : String) (run : List String) :
    ∃ others, (∃ added ending, ∀ scope found,
        (absorbSegments file scope found (first :: run) segs).scope.docRuns =
            scope.docRuns ++ joinRun (first :: others) :: added ∧
          (absorbSegments file scope found (first :: run) segs).ending = ending ∧
          (absorbSegments file scope found run segs).scope.docRuns =
            scope.docRuns ++ (above others ++ added) ∧
          (absorbSegments file scope found run segs).ending = ending) ∨
      ∀ scope found,
        (absorbSegments file scope found (first :: run) segs).scope.docRuns = scope.docRuns ∧
          (absorbSegments file scope found (first :: run) segs).ending = .ok (first :: others) ∧
          (absorbSegments file scope found run segs).scope.docRuns = scope.docRuns ∧
          (absorbSegments file scope found run segs).ending = .ok others := by
  induction segs generalizing run with
  | nil => exact ⟨run, .inr fun scope found => ⟨rfl, rfl, rfl, rfl⟩⟩
  | cons s segs ih =>
    cases hk : s.kind with
    | comment =>
      simp only [absorbSegments, hk, List.cons_append]
      exact ih (losesFirst_comment hk segs ▸ h) _
    | sig =>
      refine ⟨run, .inl ?_⟩
      rcases absorbSegments_sig file hk segs with ⟨span, hs⟩ | hs
      · refine ⟨[], .error span, fun scope found => ?_⟩
        obtain ⟨h₁, e₁⟩ := hs scope found (first :: run)
        obtain ⟨h₂, e₂⟩ := hs scope found run
        exact ⟨h₁, e₁, by rw [h₂, List.append_nil], e₂⟩
      · obtain ⟨added, ending, ha⟩ := absorbSegments_docRuns file segs []
        refine ⟨added, ending, fun scope found => ?_⟩
        obtain ⟨next₁, more₁, h₁, e₁⟩ := hs scope found (first :: run)
        obtain ⟨next₂, more₂, h₂, e₂⟩ := hs scope found run
        rw [e₁, e₂, (ha _ _).1, (ha _ _).1, (ha _ _).2, (ha _ _).2, h₁, h₂]
        exact ⟨by simp [above], rfl, by simp, rfl⟩
    | blank => simp [losesFirst, hk] at h
    | code => simp [losesFirst, hk] at h

theorem joinRun_ne_empty {first : String} (h : first ≠ "") (others : List String) :
    joinRun (first :: others) ≠ "" := by
  intro he
  have he := congrArg String.toList he
  cases others with
  | nil => exact h (String.toList_eq_nil_iff.1 (by simpa [joinRun] using he))
  | cons second others => simp [joinRun, String.intercalate_cons_cons] at he

/-- A text that starts with a comment, and what it documents without the first line, if the comment
is kept. -/
theorem documents_kept (a : Attribution) {text text' : String} {line : Int} {s : Segment}
    (hsegs : segments text.toList line = s :: segments text'.toList line) (hs : s.kind = .comment)
    (hkept : losesFirst (segments text'.toList line) = false)
    (hne : String.ofList (Docstring.stripMarker s.text) ≠ "") :
    ∃ others kept after,
      (kept = [joinRun others] ∨ kept = [] ∧ joinRun others = "") ∧
      documents (a.absorb text line) = a.current.docRuns ++
        joinRun (String.ofList (Docstring.stripMarker s.text) :: others) :: after ∧
      documents (a.absorb text' line) = a.current.docRuns ++ (kept ++ after) := by
  have hfirst : absorbSegments a.file a.current [] [] (segments text.toList line) =
      absorbSegments a.file a.current [] [String.ofList (Docstring.stripMarker s.text)]
        (segments text'.toList line) := by
    rw [hsegs]
    simp only [absorbSegments, hs, List.nil_append]
  obtain ⟨others, ⟨added, ending, h⟩ | h⟩ := absorbSegments_kept a.file hkept
    (String.ofList (Docstring.stripMarker s.text)) []
  · obtain ⟨h₁, e₁, h₂, e₂⟩ := h a.current []
    have habove : above others = [joinRun others] ∨ above others = [] ∧ joinRun others = "" := by
      cases others with
      | nil => exact .inr ⟨rfl, rfl⟩
      | cons second others => exact .inl rfl
    cases ending with
    | error span =>
      refine ⟨others, above others, added, habove, ?_, ?_⟩
      · simp [documents, absorb, hfirst, h₁, e₁, Except.map]
      · simp [documents, absorb, h₂, e₂, Except.map]
    | ok run =>
      refine ⟨others, above others, added ++ withRun [] (joinRun run), habove, ?_, ?_⟩
      · simp only [documents, absorb, hfirst, h₁, e₁, Except.map]
        rw [withRun_eq]
        simp
      · simp only [documents, absorb, h₂, e₂, Except.map]
        rw [withRun_eq]
        simp
  · obtain ⟨h₁, e₁, h₂, e₂⟩ := h a.current []
    refine ⟨others, withRun [] (joinRun others), [], ?_, ?_, ?_⟩
    · unfold withRun
      split
      · rename_i hempty
        exact .inr ⟨rfl, by simpa using hempty⟩
      · exact .inl rfl
    · simp only [documents, absorb, hfirst, h₁, e₁, Except.map, withRun]
      rw [if_neg (by simpa using joinRun_ne_empty hne others)]
    · simp only [documents, absorb, h₂, e₂, Except.map]
      rw [withRun_eq, List.append_nil]

theorem declare_signature_docRuns (a : Attribution) {d : Declaration} (hd : d.kind = .signature) :
    (a.declare d).1.current.docRuns = documents (a.absorb d.precedingText d.precedingLine) := by
  unfold declare documents
  rcases a.absorb d.precedingText d.precedingLine with ⟨b, answer⟩
  cases answer with
  | error span => rfl
  | ok run =>
    simp only [hd, if_true]
    unfold declareSignature
    dsimp only
    rcases addSignature_docRuns b.file d.source d.line with ⟨span, h⟩ | h
    · rw [h]
    · obtain ⟨next, more, he, hn⟩ := h { b.current with docRuns := withRun b.current.docRuns run }
      rw [he]
      exact hn

/-- Texts that have the same effect before a declaration document it with the same text. -/
theorem documents_of_sameEffect {a : Attribution} {d : Declaration} {text : String}
    (h : a.SameEffect d { d with precedingText := text }) :
    (Docstring.parse (joinRun (documents (a.absorb text d.precedingLine))).toList).text =
      (Docstring.parse
        (joinRun (documents (a.absorb d.precedingText d.precedingLine))).toList).text := by
  by_cases hk : d.kind = .signature
  · have hd := a.declare_signature_docRuns hk
    have he := @declare_signature_docRuns a { d with precedingText := text } hk
    rw [h.state, hd] at he
    rw [he]
  · obtain ⟨hstate, hanswer⟩ := h
    unfold declare at hstate hanswer
    dsimp only at hstate hanswer
    generalize a.absorb text d.precedingLine = read' at hstate hanswer ⊢
    generalize a.absorb d.precedingText d.precedingLine = read at hstate hanswer ⊢
    obtain ⟨c, answer'⟩ := read'
    obtain ⟨b, answer⟩ := read
    cases answer' with
    | error span' =>
      cases answer with
      | error span =>
        obtain rfl : c = b := hstate
        rfl
      | ok run => simp [hk, Except.map] at hanswer
    | ok run' =>
      cases answer with
      | error span => simp [hk, Except.map] at hanswer
      | ok run =>
        simp only [hk, if_false, Except.map, Option.map_some, Except.ok.injEq, Option.some.injEq]
          at hanswer
        have hdoc := congrArg Association.docstring hanswer
        dsimp only at hdoc
        rw [(c.claim_withText d text run').2] at hdoc
        dsimp only at hdoc
        rw [(c.claim_docstring d run').1, (b.claim_docstring d run).1] at hdoc
        exact hdoc

/-! ## The first line -/

/-- A line that starts with `#!` is a comment, of which a line is left that starts with `!`. -/
theorem shebang_comment {line : List Char} (h : ['#', '!'] <+: line) :
    Segment.classify line = .comment ∧ ∃ body, Docstring.stripMarker line = '!' :: body ∧
      Text.trim line = '#' :: '!' :: body := by
  obtain ⟨body, rfl⟩ := h
  have htrim : Text.trim ('#' :: '!' :: body) = '#' :: '!' :: Text.trimEnd body := by
    rw [Text.trim_cons (by decide), Text.trimEnd_cons (by decide)]
  have hmagic (cs : List Char) : Segment.isMagic ('#' :: '!' :: cs) = false := by
    have hblank : Text.isBlank '!' = false := by decide
    simp [Segment.isMagic, hblank, Segment.magicWords, Segment.startsWithLabel]
  refine ⟨?_, Text.trimEnd body, ?_, htrim⟩
  · simp [Segment.classify, Segment.opensBlockComment, htrim, hmagic]
  · have hstart : Text.trimStart (['#', '!'] ++ body) = '#' :: '!' :: body := rfl
    unfold Docstring.stripMarker
    rw [hstart]
    exact Text.trimEnd_cons (by decide) body

/-- **The line that names the interpreter.** An empty line in the place of a first line that starts
with `#!` has the same effect if the comment that the line starts is lost. -/
theorem sameEffect_of_lost (a : Attribution) {d : Declaration} {line : List Char}
    (h : d.FreeLine 0 line) (hshebang : ['#', '!'] <+: line)
    (hlost : losesFirst (segments d.precedingText.toList d.precedingLine) = true) :
    a.SameEffect d (d.blanked 0) := by
  have hsegs := Segment.segments_blanked_first h.line h.notLast h.free (shebang_comment hshebang).1
  rw [hsegs, losesFirst_comment rfl] at hlost
  refine sameEffect_of_absorb (absorb_congr fun scope found => ?_)
  rw [String.toList_ofList, hsegs]
  exact absorbSegments_lost hlost scope found _ _

/-- It has another effect if the comment is kept. -/
theorem not_sameEffect_of_kept (a : Attribution) {d : Declaration} {line : List Char}
    (h : d.FreeLine 0 line) (hshebang : ['#', '!'] <+: line)
    (hbreak : ∀ c ∈ Text.trim line, Text.isLineBreak c = false)
    (hkept : losesFirst (segments d.precedingText.toList d.precedingLine) = false) :
    ¬ a.SameEffect d (d.blanked 0) := by
  intro hsame
  obtain ⟨hcomment, body, hbody, htrim⟩ := shebang_comment hshebang
  have hsegs := Segment.segments_blanked_first h.line h.notLast h.free hcomment
  rw [hsegs, losesFirst_comment rfl] at hkept
  have hblanked : (d.blanked 0).precedingText.toList = Segment.blanked d.precedingText.toList 0 :=
    String.toList_ofList
  rw [← hblanked] at hsegs hkept
  have hstrip : String.ofList (Docstring.stripMarker line) ≠ "" := by simp [hbody]
  obtain ⟨others, kept, after, hothers, htext, htext'⟩ :=
    a.documents_kept hsegs rfl hkept hstrip
  have hdoc := documents_of_sameEffect hsame
  rw [htext] at hdoc
  refine Docstring.parse_text_ne (Docstring.endedLines_oneLine fun c hc => ?_) ?_ ?_ _ after hothers
    (hdoc.symm.trans (by rw [← htext']; rfl))
  · rw [String.toList_ofList, hbody] at hc
    exact hbreak c (htrim ▸ List.mem_cons_of_mem _ hc)
  · intro opened
    rw [String.toList_ofList, hbody]
    simp [Docstring.roleOf, Docstring.isDirective, Docstring.tagLine?, Docstring.isIndented]
  · rw [String.toList_ofList, hbody]
    simp [Docstring.ink, show Text.isBlank '!' = false by decide]

/-- **Lines for the interpreter.** In every state and before every declaration, an empty line in the
place of a magic comment has the same effect. In the place of a first line that starts with `#!` it
has the same effect if the comment that the line starts is lost; and only then, if the line is one
line of a docstring. -/
theorem interpreter_lines (a : Attribution) {d : Declaration} {k : Nat} {line : List Char}
    (h : d.FreeLine k line) :
    (Segment.isMagic (Text.trim line) = true → a.SameEffect d (d.blanked k)) ∧
      (k = 0 → ['#', '!'] <+: line →
        (losesFirst (segments d.precedingText.toList d.precedingLine) = true →
          a.SameEffect d (d.blanked k)) ∧
        ((∀ c ∈ Text.trim line, Text.isLineBreak c = false) → a.SameEffect d (d.blanked k) →
          losesFirst (segments d.precedingText.toList d.precedingLine) = true)) := by
  refine ⟨a.sameEffect_of_magic h, ?_⟩
  rintro rfl hshebang
  refine ⟨a.sameEffect_of_lost h hshebang, fun hbreak hsame => ?_⟩
  by_contra hlost
  exact a.not_sameEffect_of_kept h hshebang hbreak (Bool.eq_false_iff.2 hlost) hsame

def script : Declaration :=
  { kind := .method, name := "m", precedingText := "#!/usr/bin/env ruby\n# typed: true\n# Doc.\n" }

def plainScript : Declaration :=
  { kind := .method, name := "m", precedingText := "#!/usr/bin/env ruby\n# Doc.\n" }

theorem interpreter_lines_script :
    (script.FreeLine 1 "# typed: true".toList ∧ SameEffect {} script (script.blanked 1)) ∧
      (script.FreeLine 0 "#!/usr/bin/env ruby".toList ∧
        SameEffect {} script (script.blanked 0)) ∧
      plainScript.FreeLine 0 "#!/usr/bin/env ruby".toList ∧
        ¬ SameEffect {} plainScript (plainScript.blanked 0) := by
  have hmagic : script.FreeLine 1 "# typed: true".toList :=
    ⟨by decide +kernel, by decide +kernel, by decide +kernel⟩
  have hlost : script.FreeLine 0 "#!/usr/bin/env ruby".toList :=
    ⟨by decide +kernel, by decide +kernel, by decide +kernel⟩
  have hkept : plainScript.FreeLine 0 "#!/usr/bin/env ruby".toList :=
    ⟨by decide +kernel, by decide +kernel, by decide +kernel⟩
  refine ⟨⟨hmagic, (interpreter_lines {} hmagic).1 (by decide +kernel)⟩, ⟨hlost, ?_⟩, hkept, ?_⟩
  · exact ((interpreter_lines {} hlost).2 rfl (by decide +kernel)).1 (by decide +kernel)
  · intro hsame
    have hbreaks : (Text.trim "#!/usr/bin/env ruby".toList).all (!Text.isLineBreak ·) = true := by
      decide +kernel
    have hlost := ((interpreter_lines {} hkept).2 rfl (by decide +kernel)).2
      (fun c hc => by simpa using List.all_eq_true.1 hbreaks c hc) hsame
    exact absurd hlost (by decide +kernel)

end Attribution

end TypeTags
