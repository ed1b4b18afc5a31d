import TypeTags.Proofs.Attribution.Settlement

/-!
# The last text of a unit

What is read last can have no declaration behind it. A signature there that cannot be read is
reported at once, and one that can be read waits until the unit ends and is reported then. So all
that is left of such a text are diagnostics, and there is one at least for each of its signatures.

* `reports`: the diagnostics of the signatures of a last text.

Results:
* `finish_diagnostics`: what the end of a unit reports.
* `finish_feed_eq_iff`: two last texts have the same effect if they have the same reports.
* `reports_eq_nil_iff`: only a text without signatures has no reports.
-/

namespace TypeTags.Attribution

/-- The diagnostics of signatures that are handed over and have no declaration behind them. -/
def reports (file : Option String) (handed : List SigText) : List Diagnostic :=
  handed.flatMap (SigText.notes file)
    ++ unclaimed file "end of scope" (handed.filterMap SigText.pending?)

/-! ## The end of a unit -/

/-- The end of a unit reports the signatures that wait in each of its bodies. -/
theorem finish_diagnostics (a : Attribution) : (a.finish "" 1).1.diagnostics = a.diagnostics ++
    (a.current :: a.outer).flatMap fun s => unclaimed a.file "end of scope" s.pending := by
  obtain ⟨file, current, outer, diagnostics⟩ := a
  induction outer generalizing current diagnostics with
  | nil =>
    rw [finish, List.foldl_nil, closeScope_empty, leaveScope_diagnostics]
    simp
  | cons scope outer ih =>
    have hleave : (⟨file, current, scope :: outer, diagnostics⟩ : Attribution).leaveScope =
        ⟨file, scope, outer, diagnostics ++ unclaimed file "end of scope" current.pending⟩ := rfl
    have hnext := ih scope (diagnostics ++ unclaimed file "end of scope" current.pending)
    rw [finish] at hnext ⊢
    rw [List.foldl_cons, hleave, hnext, List.append_assoc]
    rfl

/-- Reading a text changes the innermost scope and adds diagnostics. -/
theorem feed_eq (a : Attribution) (text : String) {line : Int} (hl : 1 ≤ line) :
    ∃ docRuns, (a.feed text line).1 =
      { a with
        current :=
          ⟨a.current.pending ++ (sigsIn text line).filterMap SigText.pending?, docRuns⟩
        diagnostics := a.diagnostics ++ (sigsIn text line).flatMap (SigText.notes a.file) } := by
  obtain ⟨docRuns, ending, habsorbed⟩ := absorbSegments_eq a.file (segments text.toList line)
    (fun s hs => Int.le_trans hl (segments_line hs)) a.current [] []
  refine ⟨docRuns, ?_⟩
  simp only [feed, absorb, habsorbed]
  rfl

theorem unclaimed_append (file : Option String) (reason : String) (first second : List PendingSig) :
    unclaimed file reason (first ++ second) =
      unclaimed file reason first ++ unclaimed file reason second := by
  simp [unclaimed]

theorem finish_feed_diagnostics (a : Attribution) (text : String) {line : Int} (hl : 1 ≤ line) :
    ((a.feed text line).1.finish "" 1).1.diagnostics =
      a.diagnostics ++ ((sigsIn text line).flatMap (SigText.notes a.file) ++
        (unclaimed a.file "end of scope" a.current.pending ++
          unclaimed a.file "end of scope" ((sigsIn text line).filterMap SigText.pending?) ++
          a.outer.flatMap fun s => unclaimed a.file "end of scope" s.pending)) := by
  obtain ⟨docRuns, hfeed⟩ := a.feed_eq text hl
  rw [hfeed, finish_diagnostics]
  simp [unclaimed_append]

/-! ## Two last texts -/

section Reports

variable {file : Option String}

/-- The diagnostic is of a signature that nothing claims. -/
def isUnmatched (d : Diagnostic) : Bool := d.kind == .unmatchedSignature

theorem notes_not_unmatched (file : Option String) (handed : List SigText) :
    ∀ d ∈ handed.flatMap (SigText.notes file), isUnmatched d = false := by
  intro d hd
  obtain ⟨t, -, ht⟩ := List.mem_flatMap.1 hd
  unfold SigText.notes at ht
  rcases List.mem_append.1 ht with ht | ht
  · obtain ⟨note, -, rfl⟩ := List.mem_map.1 ht
    rfl
  · split at ht
    · rw [List.mem_singleton.1 ht]
      rfl
    all_goals cases ht

theorem unclaimed_unmatched (file : Option String) (reason : String) (pending : List PendingSig) :
    ∀ d ∈ unclaimed file reason pending, isUnmatched d = true := by
  intro d hd
  obtain ⟨p, -, rfl⟩ := List.mem_map.1 hd
  rfl

/-- Diagnostics of the one sort in front of those of the other are told apart. -/
theorem append_eq_append_iff_of_sorted {first second first' second' : List Diagnostic}
    (h : ∀ d ∈ first, isUnmatched d = false) (k : ∀ d ∈ second, isUnmatched d = true)
    (h' : ∀ d ∈ first', isUnmatched d = false) (k' : ∀ d ∈ second', isUnmatched d = true) :
    first ++ second = first' ++ second' ↔ first = first' ∧ second = second' := by
  refine ⟨fun he => ?_, fun ⟨h, k⟩ => by rw [h, k]⟩
  have hfilter := congrArg (List.filter isUnmatched) he
  have hnone : first.filter isUnmatched = [] :=
    List.filter_eq_nil_iff.2 fun d hd => by simp [h d hd]
  have hnone' : first'.filter isUnmatched = [] :=
    List.filter_eq_nil_iff.2 fun d hd => by simp [h' d hd]
  rw [List.filter_append, List.filter_append, hnone, hnone', List.filter_eq_self.2 k,
    List.filter_eq_self.2 k'] at hfilter
  obtain rfl : second = second' := hfilter
  exact ⟨List.append_cancel_right he, rfl⟩

theorem reports_eq_iff {handed handed' : List SigText} :
    reports file handed = reports file handed' ↔
      handed.flatMap (SigText.notes file) = handed'.flatMap (SigText.notes file) ∧
        unclaimed file "end of scope" (handed.filterMap SigText.pending?) =
          unclaimed file "end of scope" (handed'.filterMap SigText.pending?) :=
  append_eq_append_iff_of_sorted (notes_not_unmatched file handed) (unclaimed_unmatched file _ _)
    (notes_not_unmatched file handed') (unclaimed_unmatched file _ _)

theorem reports_append_eq_iff (front : List SigText) {handed handed' : List SigText} :
    reports file (front ++ handed) = reports file (front ++ handed') ↔
      reports file handed = reports file handed' := by
  rw [reports_eq_iff, reports_eq_iff, List.flatMap_append, List.flatMap_append,
    List.filterMap_append, List.filterMap_append, unclaimed_append, unclaimed_append,
    List.append_right_inj, List.append_right_inj]

/-- Signatures that stand on line 1 or later have a report each. -/
theorem reports_eq_nil_iff {handed : List SigText} (hl : ∀ t ∈ handed, 1 ≤ t.line) :
    reports file handed = [] ↔ handed = [] := by
  refine ⟨fun h => ?_, fun h => by rw [h]; rfl⟩
  obtain ⟨hnotes, hunclaimed⟩ := List.append_eq_nil_iff.1 h
  have hcount := (answers_notes file hl).malformed
  rw [hnotes, List.map_eq_nil_iff.1 hunclaimed] at hcount
  exact List.length_eq_zero_iff.1 hcount.symm

/-- **The last text.** Two last texts lead to the same diagnostics exactly if their signatures have
the same reports. -/
theorem finish_feed_eq_iff (a : Attribution) (text text' : String) {line line' : Int}
    (hl : 1 ≤ line) (hl' : 1 ≤ line') :
    ((a.feed text line).1.finish "" 1).1.diagnostics =
        ((a.feed text' line').1.finish "" 1).1.diagnostics ↔
      reports a.file (sigsIn text line) = reports a.file (sigsIn text' line') := by
  have hlast (handed : List SigText) : ∀ d ∈ unclaimed a.file "end of scope" a.current.pending ++
      unclaimed a.file "end of scope" (handed.filterMap SigText.pending?) ++
      a.outer.flatMap fun s => unclaimed a.file "end of scope" s.pending,
      isUnmatched d = true := by
    intro d hd
    simp only [List.mem_append, List.mem_flatMap] at hd
    rcases hd with (hd | hd) | ⟨s, -, hd⟩ <;> exact unclaimed_unmatched _ _ _ d hd
  rw [a.finish_feed_diagnostics text hl, a.finish_feed_diagnostics text' hl',
    List.append_right_inj,
    append_eq_append_iff_of_sorted (notes_not_unmatched _ _) (hlast _) (notes_not_unmatched _ _)
      (hlast _), reports_eq_iff, List.append_left_inj, List.append_right_inj]

end Reports

end TypeTags.Attribution
