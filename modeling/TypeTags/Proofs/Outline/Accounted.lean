import TypeTags.Proofs.Attribution.Settlement
import TypeTags.Proofs.Outline.Cover
import TypeTags.Proofs.Outline.Decoding
import TypeTags.Proofs.Registry.Steps

/-!
# No signature call of an outline is lost

A walk leaves signature calls in the source that it hands over, where a reader of lines has to find
them again. What a call needs for that is a line of its own, a reader that is free when it comes to
the line, and a block that opens on it. Then the call is read, once, in the stretch that the next
event of its body hands over, and the machine that attributes signatures accounts for it.

* `SigCall`: a call of `sig` without a receiver.
* `attributionSteps`: the steps that an outline makes the attributing machine take.

Results:
* `analyze_diagnostics`, `assembly_registers`: what the machine reports and answers is what the
  registry gets.
* `sigCall_accounted`: a call on its own line is covered once, and is read and accounted for exactly
  if the reader meets it.
-/

namespace TypeTags

namespace Outline

open Attribution (SigText Accounted sigsIn depthAt stateAt)

/-! ## The steps of an outline -/

def steps (bytes : Bytes) (root : SyntaxNode) (file : Option String) : List Assembly.Step :=
  (walk bytes root).map (Event.toStep bytes file)

/-- The steps that the attributing machine takes for a file. -/
def attributionSteps (bytes : Bytes) (root : SyntaxNode) (file : Option String) :
    List Attribution.Step :=
  (steps bytes root file).map Assembly.Step.attribution ++ [.finish "" 1]

/-- The assembly of a file after its first `i` steps. -/
def assemblyAt (bytes : Bytes) (root : SyntaxNode) (file : Option String) (policy : MergePolicy)
    (i : Nat) : Assembly :=
  (Assembly.start file policy).run ((steps bytes root file).take i)

section Steps

variable (bytes : Bytes) (root : SyntaxNode) (file : Option String) (policy : MergePolicy)

theorem attributionSteps_placed : ∀ s ∈ attributionSteps bytes root file, s.Placed := by
  intro s hs
  simp only [attributionSteps, steps, List.map_map, List.mem_append, List.mem_map,
    Function.comp_apply, List.mem_singleton] at hs
  rcases hs with ⟨e, -, rfl⟩ | rfl
  · cases e with
    | text before => exact bytes.one_le_lineAt _
    | openScope => trivial
    | closeScope before => exact bytes.one_le_lineAt _
    | declare before item => exact ⟨bytes.one_le_lineAt _, bytes.one_le_lineAt _⟩
    | setVisibility nesting names visibility classLevel => exact Int.le_refl 1
  · exact Int.le_refl 1

/-- The registry of a file reports what the attributing machine reports. -/
theorem analyze_diagnostics : (analyze bytes root file policy).diagnostics =
    (Attribution.run { file } (attributionSteps bytes root file)).1.diagnostics := by
  have hends : ∀ s ∈ steps bytes root file, s ≠ .finish := by
    intro s hs
    obtain ⟨e, -, rfl⟩ := List.mem_map.1 hs
    cases e <;> simp [Event.toStep]
  have hquiet := (Assembly.start file policy).run_diagnostics hends
  have hrun := (Assembly.start file policy).run_attribution (steps bytes root file)
  rw [attributionSteps, Attribution.run_append]
  change (Assembly.run _ (steps bytes root file)).registry.diagnostics ++
    ((Assembly.run _ (steps bytes root file)).attribution.finish "" 1).1.diagnostics = _
  rw [hquiet, hrun]
  rfl

theorem assemblyAt_attribution {i : Nat} (hi : i ≤ (steps bytes root file).length) :
    (assemblyAt bytes root file policy i).attribution =
      stateAt { file } (attributionSteps bytes root file) i := by
  rw [assemblyAt, Assembly.run_attribution, stateAt, attributionSteps,
    List.take_append_of_le_length (by simpa using hi), List.map_take]
  rfl

/-- Every association that the attributing machine answers with is registered. -/
theorem assembly_registers {i : Nat} {as : Association}
    (h : (Attribution.run { file } (attributionSteps bytes root file)).2[i]? =
      some (.ok (some as))) :
    assemblyAt bytes root file policy (i + 1) =
      ({ assemblyAt bytes root file policy i with
        attribution := stateAt { file } (attributionSteps bytes root file) (i + 1) } :
          Assembly).register as := by
  have hlen : i < (attributionSteps bytes root file).length := by
    have := (List.getElem?_eq_some_iff.1 h).1
    rwa [Attribution.run_length] at this
  obtain ⟨s, hs⟩ : ∃ s, (attributionSteps bytes root file)[i]? = some s :=
    ⟨_, List.getElem?_eq_getElem hlen⟩
  have hanswer := Attribution.run_answer (a := { file }) hs
  rw [h, Option.some.injEq] at hanswer
  obtain ⟨d, rfl⟩ := Attribution.exists_declare hanswer.symm
  -- the step is one of the outline, not the end of the unit
  have hdeclare : (steps bytes root file)[i]? = some (.declare d) := by
    rw [attributionSteps, List.getElem?_append] at hs
    split at hs
    · rw [List.getElem?_map, Option.map_eq_some_iff] at hs
      obtain ⟨x, hx, he⟩ := hs
      cases x with
      | declare d' => rw [hx, Attribution.Step.declare.inj he]
      | _ => cases he
    · rw [List.getElem?_singleton] at hs
      split at hs <;> cases hs
  have hstate := assemblyAt_attribution bytes root file policy
    (Nat.le_of_lt (List.getElem?_eq_some_iff.1 hdeclare).1)
  have hnext : assemblyAt bytes root file policy (i + 1) =
      ((assemblyAt bytes root file policy i).declare d).1 := by
    rw [assemblyAt, List.take_add_one, hdeclare, Assembly.run, List.foldl_append]
    rfl
  have hafter := Attribution.stateAt_succ (a := { file }) hs
  rw [hnext, Assembly.declare_eq, hstate, hafter]
  simp only [Attribution.step] at hanswer ⊢
  rw [← hanswer]

end Steps

/-! ## Signature calls -/

def sigWord : Bytes := [115, 105, 103]

/-- A call of `sig` without a receiver: the name stands at its start. -/
structure SigCall (bytes : Bytes) (call : SyntaxNode) : Prop where
  isCall : call.isCall = true
  receiver : call.child? "receiver" = none
  name : ∃ m, call.child? "method" = some m ∧ m.start = call.start ∧
    bytes.slice m.stretch = sigWord

theorem SigCall.head {bytes : Bytes} {call : SyntaxNode} (h : SigCall bytes call) :
    bytes[call.start]? = some 115 := by
  obtain ⟨m, -, hstart, hword⟩ := h.name
  have hget := congrArg (·[0]?) hword
  simp only [Bytes.slice, SyntaxNode.stretch, List.getElem?_take, List.getElem?_drop, sigWord,
    hstart] at hget
  split at hget
  · simpa using hget
  · cases hget

/-- A call of `sig` that is the first on its line is left out by the walk. -/
theorem SigCall.leftOut {bytes : Bytes} {call : SyntaxNode} (h : SigCall bytes call)
    (hord : call.isOrdered = true) (hline : (bytes.lineHead call.start).all Bytes.isBlank = true) :
    LeftOut bytes call := by
  obtain ⟨m, hm, hstart, hword⟩ := h.name
  have hkind : call.kind = "call" ∨ call.kind = "method_call" := by
    simpa [SyntaxNode.isCall] using h.isCall
  have hname : call.callName? bytes = some "sig" := by
    have hident : call.kind ≠ "identifier" := by
      rcases hkind with e | e <;> simp [e]
    have htext : m.text bytes = "sig" := by
      rw [SyntaxNode.text, Bytes.text, hword]
      decide +kernel
    rw [SyntaxNode.callName?, if_neg hident, if_neg (by simp [h.isCall, h.receiver]), hm,
      Option.map_some, htext]
  have hlong : m.start + 3 ≤ m.stop := by
    have hlen := congrArg List.length hword
    simp only [Bytes.slice, SyntaxNode.stretch, List.length_take, List.length_drop, sigWord,
      List.length_cons, List.length_nil] at hlen
    omega
  have hin := SyntaxNode.liesIn_child hord (SyntaxNode.mem_children_of_child? hm)
  refine ⟨?_, ⟨⟨115, h.head, by decide, by decide⟩, hline⟩, ?_, ?_⟩
  · intro k body
    cases k with
    | zero => rfl
    | succ k =>
      rw [statementAt]
      rcases hkind with e | e <;> simp [e, Outline.call, hname]
  · have := hin.stop
    omega
  · rcases hkind with e | e <;> simp [e]

/-! ## Accounting for a call -/

/-- Whether the reader of lines, in the text of a stretch, meets a signature on the line of an
offset. -/
def isMet (bytes : Bytes) (s : Stretch) (p : Nat) : Bool :=
  Segment.opensAt (bytes.text s).toList (bytes.linesBefore s p)

/-- The signature at an offset as the reader takes it from the text of a stretch. -/
def sigAt (bytes : Bytes) (s : Stretch) (p : Nat) : SigText :=
  ⟨String.ofList (Segment.sigBlock (bytes.text ⟨p, s.stop⟩).toList).1, bytes.lineAt p⟩

theorem deepen_attribution (bytes : Bytes) (file : Option String) (events : List Event)
    (depth : Nat) :
    (events.map fun e => (e.toStep bytes file).attribution).foldl Attribution.Step.deepen depth =
      events.foldl Event.deepen depth := by
  induction events generalizing depth with
  | nil => rfl
  | cons e events ih =>
    rw [List.map_cons, List.foldl_cons, List.foldl_cons, ih]
    cases e <;> rfl

/-- An event hands over the signatures in its stretch. -/
theorem mem_handed {bytes : Bytes} {file : Option String} {e : Event} {s : Stretch}
    (he : e.before? = some s) {t : SigText}
    (ht : t ∈ sigsIn (bytes.text s) (bytes.lineAt s.start)) :
    t ∈ (e.toStep bytes file).attribution.handed := by
  cases e with
  | text before => cases he; exact ht
  | openScope => cases he
  | closeScope before => cases he; exact ht
  | declare before item => cases he; exact List.mem_append_left _ ht
  | setVisibility nesting names visibility classLevel => cases he

/-- **Signature calls.** In a file with an ordered tree, take a call of `sig` that is a statement of
the file, or of a body that the walk enters, with nothing but white space before it on its line.
Exactly one event hands over the stretch that the call stands in, at the depth of the call's body.
The reader finds one signature on the call's line, with the text of the block at the call, if it
meets the line, and none if not. One that it finds is accounted for: it is reported as malformed, it
is part of the signature of the next method or attribute in the same body, which is registered with
it, or it is reported as unmatched. -/
theorem sigCall_accounted {bytes : Bytes} {root call : SyntaxNode} {ℓ : Nat}
    (hroot : root.isOrdered = true) (hs : SyntaxNode.Stands call ℓ root.namedChildren)
    (hsig : SigCall bytes call) (hline : (bytes.lineHead call.start).all Bytes.isBlank = true)
    (file : Option String) (policy : MergePolicy) :
    (∃ before e after s, walk bytes root = before ++ e :: after ∧ Quiet call.start before ∧
      Quiet call.start after ∧ e.before? = some s ∧ s.start ≤ call.start ∧ call.start < s.stop ∧
      depthAt (attributionSteps bytes root file) before.length = ℓ ∧
      ((sigsIn (bytes.text s) (bytes.lineAt s.start)).filter
          fun t => t.line = (bytes.lineAt call.start : Int)) =
        (if isMet bytes s call.start then [sigAt bytes s call.start] else []) ∧
      (isMet bytes s call.start = true →
        Accounted file (attributionSteps bytes root file) before.length
          (sigAt bytes s call.start))) ∧
    (analyze bytes root file policy).diagnostics =
      (Attribution.run { file } (attributionSteps bytes root file)).1.diagnostics ∧
    ∀ i as, (Attribution.run { file } (attributionSteps bytes root file)).2[i]? =
        some (.ok (some as)) →
      assemblyAt bytes root file policy (i + 1) =
        ({ assemblyAt bytes root file policy i with
          attribution := stateAt { file } (attributionSteps bytes root file) (i + 1) } :
            Assembly).register as := by
  have hleft : LeftOut bytes call := hsig.leftOut (hs.isOrdered fun n hn =>
    (SyntaxNode.liesIn_child hroot (List.mem_filter.1 hn).1).ordered) hline
  obtain ⟨before, e, after, hcov⟩ := walk_covers hroot hs hleft
  obtain ⟨s, he, hstart, hstop⟩ := hcov.covers
  have hfound := Bytes.sigsIn_text hleft.solid hsig.head (by decide) (by decide) hstart hstop
  have hsteps : attributionSteps bytes root file =
      before.map (fun e => (e.toStep bytes file).attribution) ++
        ((e.toStep bytes file).attribution ::
          (after.map (fun e => (e.toStep bytes file).attribution) ++ [.finish "" 1])) := by
    simp [attributionSteps, steps, hcov.split, Function.comp_def]
  have hat : (attributionSteps bytes root file)[before.length]? =
      some (e.toStep bytes file).attribution := by
    rw [hsteps, List.getElem?_append_right (by simp)]
    simp
  have hdepth : depthAt (attributionSteps bytes root file) before.length = ℓ := by
    rw [depthAt, hsteps, List.take_append_of_le_length (by simp), List.take_of_length_le (by simp),
      deepen_attribution, hcov.depth]
    omega
  refine ⟨⟨before, e, after, s, hcov.split, hcov.quietBefore, hcov.quietAfter, he, hstart, hstop,
    hdepth, hfound, fun hmet => ?_⟩, analyze_diagnostics bytes root file policy,
    fun i as => assembly_registers bytes root file policy⟩
  have hmem : sigAt bytes s call.start ∈ sigsIn (bytes.text s) (bytes.lineAt s.start) := by
    rw [show Segment.opensAt (bytes.text s).toList (bytes.linesBefore s call.start) = true
      from hmet, if_pos rfl] at hfound
    exact (List.mem_filter.1 (hfound ▸ List.mem_singleton.2 rfl)).1
  exact Attribution.accounted_of_handed file (attributionSteps_placed bytes root file)
    (by rw [attributionSteps]; exact List.getLast?_concat) hat (mem_handed he hmem)

/-- A class with a signature, another statement and a method. -/
def classSource : Bytes :=
  "class A\n  sig { void }\n  x = 1\n  def y; end\nend\n".toList.map fun c => UInt8.ofNat c.toNat

def classCall : SyntaxNode :=
  .node "call" 10 22 true none
    [.node "identifier" 10 13 true (some "method") [], .node "block" 14 22 true (some "block") []]

def classTree : SyntaxNode :=
  .node "program" 0 48 true none
    [.node "class" 0 47 true none
      [.node "class" 0 5 false none [], .node "constant" 6 7 true (some "name") [],
       .node "body_statement" 10 43 true (some "body")
        [classCall, .node "assignment" 25 30 true none [],
         .node "method" 33 43 true none [.node "identifier" 37 38 true (some "name") []]],
       .node "end" 44 47 false none []]]

theorem sigCall_accounted_classCall : ∃ s j, isMet classSource s classCall.start = true ∧
    depthAt (attributionSteps classSource classTree none) j = 1 ∧
    Accounted none (attributionSteps classSource classTree none) j
      (sigAt classSource s classCall.start) := by
  have hs : SyntaxNode.Stands classCall 1 ([] ++ classTree.namedChildren) :=
    .inside (by simp) (by decide)
      (show SyntaxNode.Stands classCall 0 ([] ++ _) from .here (by simp))
  have hsig : SigCall classSource classCall :=
    ⟨by decide, by decide, _, rfl, rfl, by decide +kernel⟩
  have hroot : classTree.isOrdered = true := by decide +kernel
  obtain ⟨⟨before, e, after, s, hwalk, -, -, he, hstart, hstop, hdepth, -, hacc⟩, -⟩ :=
    sigCall_accounted hroot hs hsig (by decide +kernel) none .signature
  -- one stretch holds the call: from the end of the first line to the assignment
  have hstretch : ((walk classSource classTree).filterMap Event.before?).filter
      (fun s => s.start ≤ classCall.start ∧ classCall.start < s.stop) = [⟨7, 25⟩] := by
    decide +kernel
  have hmem : s ∈ ((walk classSource classTree).filterMap Event.before?).filter
      (fun s => s.start ≤ classCall.start ∧ classCall.start < s.stop) := by
    refine List.mem_filter.2 ⟨List.mem_filterMap.2 ⟨e, ?_, he⟩, by simp [hstart, hstop]⟩
    rw [hwalk]
    simp
  rw [hstretch, List.mem_singleton] at hmem
  subst hmem
  have hmet : isMet classSource ⟨7, 25⟩ classCall.start = true := by decide +kernel
  exact ⟨_, _, hmet, hdepth, hacc hmet⟩

-- behind another statement on its line, the call is neither attributed nor reported
example :
    let source : Bytes :=
      "x = 1; sig { void }\ndef y; end\n".toList.map fun c => UInt8.ofNat c.toNat
    let tree : SyntaxNode := .node "program" 0 31 true none
      [.node "assignment" 0 5 true none [],
       .node "call" 7 19 true none [.node "identifier" 7 10 true (some "method") []],
       .node "method" 20 30 true none [.node "identifier" 24 25 true (some "name") []]]
    (analyze source tree none .signature).diagnostics = [] ∧
      ((analyze source tree none .signature).at? "#y").map (·.tags) = some [] := by
  decide +kernel

end Outline

end TypeTags
