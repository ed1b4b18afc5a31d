import TypeTags.Proofs.Attribution.LastText
import TypeTags.Proofs.Outline.Agreement
import TypeTags.Proofs.Registry.Steps
import TypeTags.Proofs.Segment.Replaced

/-!
# Data at the end of a file

A file may end with data that are no part of the program. A walk stops at the node of the data, but
the source behind the last statement is handed over to its end, the data included, and the reader
of lines looks for signatures in it. What the data hold never shows in the objects of the registry.
It shows in the diagnostics: each signature that is found there is reported.

* `program`: the statements of a file.
* `SameProgram`: files with the same statements and the same source up to a line behind them.
* `lastSigs`, `sigsFrom`: the signatures that are read behind the last statement, and those from a
  line on.

Results:
* `analyze_eq`: the registry of a file, given what is read last.
* `analyze_data`: what the registries of two files with the same program have in common.
-/

namespace TypeTags.Outline

open SyntaxNode
open Attribution (SigText sigsIn reports)

/-- The statements of a file, up to the data at its end. -/
def program (root : SyntaxNode) : List SyntaxNode :=
  root.namedChildren.takeWhile fun n => n.kind != "uninterpreted"

/-- What a walk gives for the statements of a file. -/
def programWalk (bytes : Bytes) (root : SyntaxNode) : Body × List Event :=
  statements (statementAt bytes root.depth) ⟨[], false, 0, .open⟩ root.namedChildren

/-- The source behind the last statement, to the end of the file. -/
def lastStretch (bytes : Bytes) (root : SyntaxNode) : Stretch :=
  ⟨(programWalk bytes root).1.cursor, bytes.length⟩

/-- The signatures that are read behind the last statement. -/
def lastSigs (bytes : Bytes) (root : SyntaxNode) : List SigText :=
  sigsIn (bytes.text (lastStretch bytes root)) (bytes.lineAt (lastStretch bytes root).start)

/-- Those of them that stand on the line of an offset or behind it. -/
def sigsFrom (bytes : Bytes) (root : SyntaxNode) (p : Nat) : List SigText :=
  (lastSigs bytes root).filter fun t => (bytes.lineAt p : Int) ≤ t.line

/-- The files have the same statements, and these end before an offset up to which the files have the
same bytes. At the offset stands an ASCII character, the first on its line. -/
structure SameProgram (bytes bytes' : Bytes) (root root' : SyntaxNode) (p : Nat) : Prop where
  agree : Agree bytes bytes' p
  ascii : ∃ b, bytes[p]? = some b ∧ b.toNat < 128
  same : program root = program root'
  ends : ∀ n ∈ program root, EndsBy n p

theorem SameProgram.symm {bytes bytes' : Bytes} {root root' : SyntaxNode} {p : Nat}
    (h : SameProgram bytes bytes' root root' p) : SameProgram bytes' bytes root' root p :=
  ⟨h.agree.symm, by rw [← h.agree.getElem?]; exact h.ascii, h.same.symm, h.same ▸ h.ends⟩

/-! ## The last text -/

theorem one_le_lastSigs (bytes : Bytes) (root : SyntaxNode) {t : SigText}
    (h : t ∈ lastSigs bytes root) : 1 ≤ t.line := by
  obtain ⟨s, hs, hline⟩ := Attribution.sigTexts_line h
  rw [hline]
  exact Int.le_trans (bytes.one_le_lineAt _) (segments_line hs)

theorem statements_program (statement : Body → SyntaxNode → Body × List Event) (body : Body)
    (nodes : List SyntaxNode) : statements statement body nodes =
      statements statement body (nodes.takeWhile fun n => n.kind != "uninterpreted") := by
  induction nodes generalizing body with
  | nil => rfl
  | cons n nodes ih =>
    by_cases hdata : n.kind = "uninterpreted"
    · rw [List.takeWhile_cons_of_neg (by simp [hdata]), statements_cons, if_pos hdata]
      rfl
    · rw [List.takeWhile_cons_of_pos (by simpa using hdata), statements_cons, statements_cons,
        if_neg hdata, if_neg hdata]
      dsimp only
      rw [ih]

/-- The assembly of a file when its statements are read. -/
def programAssembly (bytes : Bytes) (root : SyntaxNode) (file : Option String)
    (policy : MergePolicy) : Assembly :=
  (Assembly.start file policy).run ((programWalk bytes root).2.map (Event.toStep bytes file))

theorem finish_feed_registry (a : Assembly) (text : String) (line : Int) :
    (a.step (.feed text line)).1.finish.registry =
      { a.registry with
        diagnostics := a.registry.diagnostics ++
          ((a.attribution.feed text line).1.finish "" 1).1.diagnostics } := rfl

/-- The registry of a file has the diagnostics that are left when the last text is read and the unit
ends. -/
theorem analyze_eq (bytes : Bytes) (root : SyntaxNode) (file : Option String)
    (policy : MergePolicy) : analyze bytes root file policy =
      let a := programAssembly bytes root file policy
      { a.registry with
        diagnostics := a.registry.diagnostics ++
          ((a.attribution.feed (bytes.text (lastStretch bytes root))
            (bytes.lineAt (lastStretch bytes root).start)).1.finish "" 1).1.diagnostics } := by
  have hwalk : walk bytes root =
      (programWalk bytes root).2 ++ [.text (lastStretch bytes root)] := rfl
  have hrun : (Assembly.start file policy).run ((walk bytes root).map (Event.toStep bytes file)) =
      ((programAssembly bytes root file policy).step (.feed (bytes.text (lastStretch bytes root))
        (bytes.lineAt (lastStretch bytes root).start))).1 := by
    rw [hwalk, List.map_append, Assembly.run, List.foldl_append]
    rfl
  unfold analyze
  dsimp only
  rw [hrun, finish_feed_registry]

theorem programAssembly_file (bytes : Bytes) (root : SyntaxNode) (file : Option String)
    (policy : MergePolicy) : (programAssembly bytes root file policy).attribution.file = file := by
  rw [programAssembly, Assembly.run_attribution, Attribution.run_file]
  rfl

section Same

variable {bytes bytes' : Bytes} {root root' : SyntaxNode} {p : Nat}

theorem SameProgram.programWalk (h : SameProgram bytes bytes' root root' p) :
    programWalk bytes root = programWalk bytes' root' ∧ Early p (programWalk bytes root) := by
  have hdepth {root : SyntaxNode} : ∀ n ∈ program root, n.depth ≤ root.depth := fun n hn =>
    Nat.le_of_lt (depth_child (List.mem_filter.1 ((List.takeWhile_prefix _).subset hn)).1)
  rw [Outline.programWalk, Outline.programWalk, statements_program, statements_program _ _
    root'.namedChildren]
  change statements _ _ (program root) = statements _ _ (program root') ∧
    Early p (statements _ _ (program root))
  rw [← h.same]
  exact statements_agree (fun n hn body hcursor => statementAt_agree h.agree (h.ends n hn)
    (hdepth n hn) (hdepth n (h.same ▸ hn)) body hcursor) (Nat.zero_le p)

theorem SameProgram.programAssembly (h : SameProgram bytes bytes' root root' p)
    (file : Option String) (policy : MergePolicy) :
    programAssembly bytes root file policy = programAssembly bytes' root' file policy := by
  obtain ⟨hsame, hearly⟩ := h.programWalk
  rw [Outline.programAssembly, Outline.programAssembly, ← hsame]
  congr 1
  exact List.map_congr_left fun e he => h.agree.toStep (hearly.events e he) file

/-- What is read behind the last statement, as the common part up to the offset and the rest. -/
theorem SameProgram.lastSigs_eq (h : SameProgram bytes bytes' root root' p) :
    lastSigs bytes root =
      sigsIn (String.ofList (decodeUtf8 (bytes.slice ⟨(Outline.programWalk bytes root).1.cursor, p⟩) ++
        decodeUtf8 (bytes.slice ⟨p, bytes.length⟩)))
        (bytes.lineAt (Outline.programWalk bytes root).1.cursor) := by
  obtain ⟨b, hb, hascii⟩ := h.ascii
  obtain ⟨-, hearly⟩ := h.programWalk
  have hlt := h.agree.solid.lt
  have hslice := Bytes.slice_cons hb hlt
  rw [lastSigs, lastStretch, Bytes.text, bytes.slice_split hearly.cursor (Nat.le_of_lt hlt), hslice,
    decodeUtf8_append _ hascii]

theorem sigsFrom_eq {front back : List SigText} {number : Int}
    (hnumber : (bytes.lineAt p : Int) = number) (hfront : ∀ t ∈ front, t.line < number)
    (hback : ∀ t ∈ back, number ≤ t.line) (hsigs : lastSigs bytes root = front ++ back) :
    sigsFrom bytes root p = back := by
  have hnone : front.filter (fun t => number ≤ t.line) = [] :=
    List.filter_eq_nil_iff.2 fun t ht => by
      have := hfront t ht
      simpa using this
  have hall : back.filter (fun t => number ≤ t.line) = back :=
    List.filter_eq_self.2 fun t ht => by simpa using hback t ht
  rw [sigsFrom, hsigs, List.filter_append, hnumber, hnone, hall, List.nil_append]

/-- If no signature of the common part reaches to the offset's line, the signatures in front of that
line are the same. -/
theorem SameProgram.lastSigs_split (h : SameProgram bytes bytes' root root' p)
    (hout : ∀ t ∈ lastSigs bytes root, t.line < bytes.lineAt p →
      t.line + t.text.toList.count '\n' < bytes.lineAt p) :
    ∃ front, lastSigs bytes root = front ++ sigsFrom bytes root p ∧
      lastSigs bytes' root' = front ++ sigsFrom bytes' root' p := by
  obtain ⟨hsame, hearly⟩ := h.programWalk
  have hline := bytes.lineAt_add hearly.cursor
  rw [← count_decodeUtf8] at hline
  have hleft := h.lastSigs_eq
  have hright := h.symm.lastSigs_eq
  rw [← hsame, ← h.agree.slice (Nat.le_refl p), ← h.agree.lineAt hearly.cursor] at hright
  generalize (Outline.programWalk bytes root).1.cursor = cursor at hline hleft hright
  generalize decodeUtf8 (bytes.slice ⟨cursor, p⟩) = common at hline hleft hright
  have hnumber : (bytes.lineAt p : Int) = bytes.lineAt cursor + common.count '\n' := by omega
  rw [hleft, hnumber] at hout
  obtain ⟨front, hfront, hback⟩ := Segment.sigsIn_replaced hout
  obtain ⟨back, hback₁, hsigs₁⟩ := hback (decodeUtf8 (bytes.slice ⟨p, bytes.length⟩))
  obtain ⟨back', hback₂, hsigs₂⟩ := hback (decodeUtf8 (bytes'.slice ⟨p, bytes'.length⟩))
  rw [← hleft] at hsigs₁
  rw [← hright] at hsigs₂
  refine ⟨front, ?_, ?_⟩
  · rw [sigsFrom_eq hnumber hfront hback₁ hsigs₁, hsigs₁]
  · rw [sigsFrom_eq (h.agree.lineAt (Nat.le_refl p) ▸ hnumber) hfront hback₂ hsigs₂, hsigs₂]

end Same

/-- **Data.** What two files with the same program hold behind it shows in the diagnostics alone, and
there by the reports of the signatures that are read in it. If no signature that stands behind the
last statement reaches into the data, it is those of the data that tell, and without any of them in
the one file the diagnostics are the same only if there are none in the other. -/
theorem analyze_data {bytes bytes' : Bytes} {root root' : SyntaxNode} {p : Nat}
    (h : SameProgram bytes bytes' root root' p) (file : Option String) (policy : MergePolicy) :
    ({ analyze bytes root file policy with diagnostics := [] } : Registry) =
        { analyze bytes' root' file policy with diagnostics := [] } ∧
      ((analyze bytes root file policy).diagnostics =
          (analyze bytes' root' file policy).diagnostics ↔
        reports file (lastSigs bytes root) = reports file (lastSigs bytes' root')) ∧
      ((∀ t ∈ lastSigs bytes root, t.line < bytes.lineAt p →
          t.line + t.text.toList.count '\n' < bytes.lineAt p) →
        ((analyze bytes root file policy).diagnostics =
            (analyze bytes' root' file policy).diagnostics ↔
          reports file (sigsFrom bytes root p) = reports file (sigsFrom bytes' root' p)) ∧
        (sigsFrom bytes' root' p = [] →
          ((analyze bytes root file policy).diagnostics =
              (analyze bytes' root' file policy).diagnostics ↔ sigsFrom bytes root p = []))) := by
  have hassembly := h.programAssembly file policy
  have hall : (analyze bytes root file policy).diagnostics =
      (analyze bytes' root' file policy).diagnostics ↔
        reports file (lastSigs bytes root) = reports file (lastSigs bytes' root') := by
    have hlast := (programAssembly bytes root file policy).attribution.finish_feed_eq_iff
      (bytes.text (lastStretch bytes root)) (bytes'.text (lastStretch bytes' root'))
      (bytes.one_le_lineAt (lastStretch bytes root).start)
      (bytes'.one_le_lineAt (lastStretch bytes' root').start)
    rw [programAssembly_file] at hlast
    rw [analyze_eq, analyze_eq, ← hassembly]
    dsimp only
    rw [List.append_right_inj]
    exact hlast
  refine ⟨?_, hall, fun hout => ?_⟩
  · rw [analyze_eq, analyze_eq, ← hassembly]
  · obtain ⟨front, hleft, hright⟩ := h.lastSigs_split hout
    have hfrom := hall
    rw [hleft, hright, Attribution.reports_append_eq_iff] at hfrom
    refine ⟨hfrom, fun hnone => ?_⟩
    rw [hfrom, hnone]
    exact Attribution.reports_eq_nil_iff fun t ht =>
      one_le_lastSigs bytes root (List.mem_filter.1 ht).1

/-- A method, and behind it data that look like a signature. -/
def markedSource : Bytes :=
  "def y; end\n__END__\nsig \x7b void \x7d\n".toList.map fun c => UInt8.ofNat c.toNat

def plainSource : Bytes :=
  "def y; end\n__END__\nnothing\n".toList.map fun c => UInt8.ofNat c.toNat

/-- The syntax tree of such a file, whose data go up to an offset. -/
def dataTree (stop : Nat) : SyntaxNode :=
  .node "program" 0 stop true none
    [.node "method" 0 10 true none [.node "identifier" 4 5 true (some "name") []],
     .node "uninterpreted" 19 stop true none []]

theorem analyze_data_markedSource :
    SameProgram markedSource plainSource (dataTree 32) (dataTree 27) 11 ∧
      sigsFrom markedSource (dataTree 32) 11 = [⟨"sig \x7b void \x7d", 3⟩] ∧
      sigsFrom plainSource (dataTree 27) 11 = [] ∧
      (analyze markedSource (dataTree 32) none .signature).diagnostics ≠
        (analyze plainSource (dataTree 27) none .signature).diagnostics := by
  have h : SameProgram markedSource plainSource (dataTree 32) (dataTree 27) 11 := by
    refine ⟨⟨by decide +kernel, ⟨95, by decide +kernel⟩, by decide +kernel⟩, ⟨95, by decide +kernel⟩,
      rfl, fun n hn => ?_⟩
    have hprogram : program (dataTree 32) =
        [.node "method" 0 10 true none [.node "identifier" 4 5 true (some "name") []]] := rfl
    rw [hprogram, List.mem_singleton] at hn
    subst hn
    exact ⟨by decide +kernel, by decide⟩
  have hmarked : sigsFrom markedSource (dataTree 32) 11 = [⟨"sig \x7b void \x7d", 3⟩] := by
    decide +kernel
  have hplain : sigsFrom plainSource (dataTree 27) 11 = [] := by decide +kernel
  have hout : ∀ t ∈ lastSigs markedSource (dataTree 32), t.line < markedSource.lineAt 11 →
      t.line + t.text.toList.count '\n' < markedSource.lineAt 11 := by decide +kernel
  obtain ⟨-, hnone⟩ := (analyze_data h none .signature).2.2 hout
  refine ⟨h, hmarked, hplain, fun he => ?_⟩
  rw [hnone hplain, hmarked] at he
  cases he

end TypeTags.Outline
