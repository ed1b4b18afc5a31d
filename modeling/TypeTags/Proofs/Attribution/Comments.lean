import Mathlib.Data.List.DropRight
import TypeTags.Proofs.Attribution.History

/-!
# Which comments document a declaration

A comment is a run of comment lines. One that stands right before a signature waits in the scope
with the signature; one that ends the text before a declaration is joined to those that wait. Any
other comment is lost: a blank line, a magic comment or code after it ends the run, and so does the
end of a text that is no declaration's own. As for signatures, the comments that wait are told here
by the steps alone: `commentsFor steps i` lists those that document the declaration at step `i`.

Results:
* `absorbSegments_comments`: what reading segments adds to the comments of a scope.
* `step_comments`: what each step does to the comments that wait, scope by scope.
* `association_docstring`: a declaration is answered with the text and the tags of its comments.
-/

namespace TypeTags

namespace Attribution

/-! ## Comments of a text -/

/-- The comment that ends segments, line by line and without its markers. -/
def endingComment (segs : List Segment) : List String :=
  (segs.rtakeWhile (·.kind = .comment)).map fun s => String.ofList (Docstring.stripMarker s.text)

@[simp] theorem endingComment_nil : endingComment [] = [] := rfl

theorem endingComment_goesOn (before : List Segment) {s : Segment} (h : s.kind = .comment) :
    endingComment (before ++ [s]) =
      endingComment before ++ [String.ofList (Docstring.stripMarker s.text)] := by
  unfold endingComment
  rw [List.rtakeWhile_concat_pos _ _ _ (by simpa using h), List.map_append]
  rfl

/-- Whatever is no comment cuts off the comment before it. -/
theorem endingComment_cut (before : List Segment) {s : Segment} (h : s.kind ≠ .comment) :
    endingComment (before ++ [s]) = [] := by
  unfold endingComment
  rw [List.rtakeWhile_concat_neg _ _ _ (by simpa using h), List.map_nil]

/-- The comments right before the signatures among segments that follow `before`, in order. -/
def commentsAbove (before : List Segment) : List Segment → List String
  | [] => []
  | s :: segs =>
    (if s.kind = .sig ∧ endingComment before ≠ [] then [joinRun (endingComment before)] else [])
      ++ commentsAbove (before ++ [s]) segs

/-- The comments right before the signatures of a text that starts on a line. -/
def commentsIn (text : String) (line : Int) : List String :=
  commentsAbove [] (segments text.toList line)

/-- The comment that ends a text that starts on a line. -/
def lastComment (text : String) (line : Int) : String :=
  joinRun (endingComment (segments text.toList line))

/-- Reading segments after others adds the comments right before their signatures to the scope, and
leaves the comment that ends them all. -/
theorem absorbSegments_comments (file : Option String) (segs : List Segment)
    (hl : ∀ s ∈ segs, 1 ≤ s.line) (before : List Segment) (scope : Scope)
    (found : List Diagnostic) :
    (absorbSegments file scope found (endingComment before) segs).scope.docRuns =
        scope.docRuns ++ commentsAbove before segs ∧
      (absorbSegments file scope found (endingComment before) segs).ending =
        .ok (endingComment (before ++ segs)) := by
  -- the run carried along is the comment that ends what is read so far
  induction segs generalizing before scope found with
  | nil => simp [absorbSegments, commentsAbove]
  | cons s segs ih =>
    have hrest : ∀ t ∈ segs, 1 ≤ t.line := fun t ht => hl t (List.mem_cons_of_mem _ ht)
    have ih := ih hrest (before ++ [s])
    rw [List.append_assoc, List.singleton_append] at ih
    cases hk : s.kind with
    | sig =>
      let commented : Scope := if (endingComment before).isEmpty then scope
        else { scope with docRuns := scope.docRuns ++ [joinRun (endingComment before)] }
      have hc : commented.docRuns = scope.docRuns ++
          if s.kind = .sig ∧ endingComment before ≠ [] then [joinRun (endingComment before)]
          else [] := by
        cases h : endingComment before <;> simp [commented, h, hk]
      obtain ⟨more, -, e⟩ := addSignature_spec file commented (String.ofList s.text)
        (hl s List.mem_cons_self)
      rw [endingComment_cut before (by simp [hk])] at ih
      simp only [absorbSegments, hk]
      rw [e]
      refine ⟨?_, (ih _ _).2⟩
      rw [(ih _ _).1, hc, commentsAbove, List.append_assoc]
    | comment =>
      rw [endingComment_goesOn before hk] at ih
      simpa [absorbSegments, hk, commentsAbove] using ih scope found
    | blank =>
      rw [endingComment_cut before (by simp [hk])] at ih
      simpa [absorbSegments, hk, commentsAbove] using ih scope found
    | code =>
      rw [endingComment_cut before (by simp [hk])] at ih
      simpa [absorbSegments, hk, commentsAbove] using ih scope found

theorem absorb_comments (a : Attribution) (text : String) {line : Int} (hl : 1 ≤ line) :
    ∃ b, a.absorb text line = (b, .ok (lastComment text line)) ∧ b.outer = a.outer ∧
      b.current.docRuns = a.current.docRuns ++ commentsIn text line := by
  obtain ⟨hd, he⟩ := absorbSegments_comments a.file (segments text.toList line)
    (fun s hs => Int.le_trans hl (segments_line hs)) [] a.current []
  refine ⟨(a.absorb text line).1, ?_, rfl, hd⟩
  rw [endingComment_nil, List.nil_append] at he
  simp only [absorb, he]
  rfl

/-! ## Comments of a step -/

/-- The comments that the step hands over, in order. A declaration hands over the comment that ends
its own text too, unless that is empty. -/
def Step.comments : Step → List String
  | .openScope => []
  | .closeScope text line => commentsIn text line
  | .feed text line => commentsIn text line
  | .declare d => commentsIn d.precedingText d.precedingLine ++
      withRun [] (lastComment d.precedingText d.precedingLine)
  | .finish text line => commentsIn text line

theorem withRun_eq (docRuns : List String) (run : String) :
    withRun docRuns run = docRuns ++ withRun [] run := by
  unfold withRun
  split <;> simp

theorem declareSignature_comments (a : Attribution) (d : Declaration) (run : String)
    (hl : 1 ≤ d.line) :
    ∃ b, a.declareSignature d run = (b, .ok none) ∧ b.outer = a.outer ∧
      b.current.docRuns = a.current.docRuns ++ withRun [] run := by
  obtain ⟨more, -, h⟩ := addSignature_spec a.file
    { a.current with docRuns := withRun a.current.docRuns run } d.source hl
  refine ⟨_, by simp only [declareSignature, h]; rfl, ?_⟩
  exact ⟨rfl, withRun_eq _ _⟩

theorem claim_docRuns (a : Attribution) (d : Declaration) (run : String) :
    (a.claim d run).1.scopes.map (·.docRuns) = [] :: a.outer.map (·.docRuns) := by
  unfold claim
  simp only
  split <;> simp [scopes, dropPending]

/-- The answer to a declaration documents it with the comments that wait and the one before it. -/
theorem claim_docstring (a : Attribution) (d : Declaration) (run : String) :
    (a.claim d run).2.docstring =
        (Docstring.parse (joinRun (withRun a.current.docRuns run)).toList).text ∧
      (a.claim d run).2.explicitTags = d.explicitTags ++
        (Docstring.parse (joinRun (withRun a.current.docRuns run)).toList).tags := by
  unfold claim
  simp only
  split <;> exact ⟨rfl, rfl⟩

/-- Every step changes the comments that wait as said, if its lines are at least 1. -/
theorem step_comments (a : Attribution) (s : Step) (hs : s.Placed) :
    (a.step s).1.scopes.map (·.docRuns) =
      s.onStack s.comments a.current.docRuns (a.outer.map (·.docRuns)) := by
  cases s with
  | openScope => simp [step, openScope, Step.onStack, scopes]
  | closeScope text line =>
    obtain ⟨b, h, ho, -⟩ := a.absorb_comments text hs
    simp [step, closeScope, h, leaveScope_map, ho, Step.onStack]
  | feed text line =>
    obtain ⟨b, h, ho, hd⟩ := a.absorb_comments text hs
    simp [step, feed, h, scopes, ho, hd, Step.onStack, Step.comments]
  | declare d =>
    obtain ⟨b, h, ho, hd⟩ := a.absorb_comments d.precedingText hs.1
    simp only [step, declare, h, Step.onStack]
    split
    · obtain ⟨c, hc, hco, hcd⟩ := b.declareSignature_comments d
        (lastComment d.precedingText d.precedingLine) hs.2
      simp [hc, scopes, hco, ho, hcd, hd, Step.comments]
    · exact (b.claim_docRuns d _).trans (by rw [ho])
  | finish text line =>
    obtain ⟨b, h, ho, -⟩ := a.leaveInner.absorb_comments text hs
    have hf : a.finish text line = a.leaveInner.closeScope text line := rfl
    simp [step, hf, closeScope, h, leaveScope_map, ho, leaveInner_outer, Step.onStack]

/-! ## Whole runs -/

/-- The comments that document a declaration at step `i`: those that wait in its own body, then
those in the text before it. -/
def commentsFor (steps : List Step) (i : Nat) : List String :=
  gathered Step.comments steps (depthAt steps i) i ++ givenAt Step.comments steps i

/-- **Attribution of comments.** In every run on a fresh machine, a declaration that is no signature
block is answered with the text of its comments, and with their tags behind its own. These are the
comments right before the signatures that were handed over in its own body since the last
declaration there that is no signature block, since the body was opened, or since it was last
emptied by a surplus close, whether these signatures can be read or not; and the comment that ends
the text before it. -/
theorem association_docstring (file : Option String) (steps : List Step)
    (hs : ∀ s ∈ steps, s.Placed) (i : Nat) (d : Declaration) (hd : steps[i]? = some (.declare d))
    (hk : d.kind ≠ .signature) :
    ∃ association, (run { file } steps).2[i]? = some (.ok (some association)) ∧
      association.declaration = d ∧
      association.docstring = (Docstring.parse (joinRun (commentsFor steps i)).toList).text ∧
      association.explicitTags = d.explicitTags ++
        (Docstring.parse (joinRun (commentsFor steps i)).toList).tags := by
  obtain ⟨hp, -⟩ : Step.Placed (.declare d) := hs _ (List.mem_of_getElem? hd)
  have hr := gathered_run rfl step_comments { file } steps hs rfl i
    (Nat.le_of_lt (List.getElem?_eq_some_iff.1 hd).1)
  simp only [scopes, List.map_cons, List.cons.injEq] at hr
  obtain ⟨b, h, -, hb⟩ := (stateAt { file } steps i).absorb_comments d.precedingText hp
  have hdocs : withRun b.current.docRuns (lastComment d.precedingText d.precedingLine) =
      commentsFor steps i := by
    rw [withRun_eq, hb, hr.1, List.append_assoc]
    simp [commentsFor, givenAt, hd, Step.comments]
  obtain ⟨htext, htags⟩ := b.claim_docstring d (lastComment d.precedingText d.precedingLine)
  rw [hdocs] at htext htags
  refine ⟨_, ?_, (b.claim_association d _).1, htext, htags⟩
  rw [run_answer hd]
  simp only [step, declare, h, if_neg hk]

/-- Comments of every kind: above signatures that can be read and that cannot, in a text and met by
themselves, cut off by a blank line, a magic comment, code or the end of a text, and in a body of
its own. -/
def commentedRun : List Step :=
  [.feed "\n# one\nsig { void }\n# lost\n\n# two\nsig \x7b\x7b\n# lost too\n" 1,
   .openScope,
   .declare { kind := .method, precedingText := "# inner\n" },
   .closeScope "\n# inner as well\nsig { void }\n" 1,
   .declare { kind := .signature, source := "sig { void }", precedingText := "# three\n" },
   .declare
    { kind := .method, name := "outer"
      precedingText := "\n# cut off\n# typed: true\n# and off\nx = 1\n# four\n# @note kept\n" }]

theorem association_docstring_commentedRun :
    (∀ s ∈ commentedRun, s.Placed) ∧ ∃ association,
      (run {} commentedRun).2[5]? = some (.ok (some association)) ∧
      commentsFor commentedRun 5 = ["one", "two", "three", "four\n@note kept"] ∧
      association.docstring = "one\ntwo\nthree\nfour" ∧
      association.explicitTags.map (·.text) = ["kept"] := by
  have hs : ∀ s ∈ commentedRun, s.Placed := by decide
  have hc : commentsFor commentedRun 5 = ["one", "two", "three", "four\n@note kept"] := by
    decide +kernel
  obtain ⟨association, h, -, ht, hg⟩ :=
    association_docstring none commentedRun hs 5 _ rfl (by decide)
  rw [hc] at ht hg
  refine ⟨hs, association, h, hc, ht.trans (by decide +kernel), ?_⟩
  rw [hg]
  decide +kernel

end Attribution

end TypeTags
