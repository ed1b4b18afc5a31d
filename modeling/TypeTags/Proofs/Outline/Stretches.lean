import TypeTags.Proofs.Outline.Cover
import TypeTags.Proofs.Outline.Decoding
import TypeTags.Proofs.Segment.Coverage

/-!
# The stretches that a walk hands over

A walk hands over the source between constructs, and declares members at their own stretches. The
statements of each list stand apart and in order, behind the header of what they are in, and none of
them starts inside the idle rest of a line that the cursor jumps over. Then all these stretches lie
apart, and they come in the order of the source. What is read in one of them starts at some byte of
it, and gets the number of that byte's line.

* `Stretch.Holds`, `Stretch.Before`: the bytes of a stretch, and two that follow one another.
* `SyntaxNode.tails`, `WellSpaced`: where the cursor jumps, and trees that leave room for it.
* `Event.taken`: what an event takes of the source.
* `Laid`: stretches in order between two offsets.
* `StartsAt`: the byte where a segment of a stretch starts.

Results:
* `statementAt_emits`: what the walk over one statement takes.
* `exists_startsAt`: segments have the number of the line that they start on.
* `walk_stretches`: what the walk over a file takes.
-/

namespace TypeTags

/-- The stretch holds the byte at an offset. -/
def Stretch.Holds (s : Stretch) (p : Nat) : Prop := s.start ≤ p ∧ p < s.stop

/-- Every byte of the one stretch is before every byte of the other. -/
def Stretch.Before (s t : Stretch) : Prop := ∀ p, s.Holds p → ∀ q, t.Holds q → p < q

namespace Bytes

/-- The cursor, moved to `o`, jumps over the byte at `p`. -/
def JumpsOver (bytes : Bytes) (o p : Nat) : Prop := o ≤ p ∧ p < bytes.skipLineTail o

instance (bytes : Bytes) (o p : Nat) : Decidable (bytes.JumpsOver o p) :=
  inferInstanceAs (Decidable (_ ∧ _))

theorem le_skipLineTail {bytes : Bytes} {o : Nat} (h : o ≤ bytes.length) :
    o ≤ bytes.skipLineTail o := by
  have := bytes.min_le_skipLineTail o
  omega

theorem skipLineTail_le_length {bytes : Bytes} {o : Nat} (h : o ≤ bytes.length) :
    bytes.skipLineTail o ≤ bytes.length := by
  unfold skipLineTail
  dsimp only
  split <;> omega

end Bytes

namespace SyntaxNode

mutual

/-- The node and all below it. -/
def nodes : SyntaxNode → List SyntaxNode
  | node kind start stop named field children =>
    node kind start stop named field children :: nodesAll children

def nodesAll : List SyntaxNode → List SyntaxNode
  | [] => []
  | n :: ns => n.nodes ++ nodesAll ns

end

/-- Whether a walk looks at the node, as a statement. -/
def isVisited (n : SyntaxNode) : Bool :=
  !(["comment", "empty_statement", "uninterpreted"].contains n.kind)

/-- The offsets that the cursor is moved to behind the statements of a list. -/
def stops (bytes : Bytes) (nodes : List SyntaxNode) : List Nat :=
  (nodes.filter isVisited).filterMap (·.passed? bytes)

/-- The offsets that the cursor is moved to in a body. -/
def tails (n : SyntaxNode) (bytes : Bytes) : List Nat :=
  n.headerEnd :: stops bytes n.bodyStatements

theorem mem_nodes_self (n : SyntaxNode) : n ∈ n.nodes := by
  cases n
  rw [nodes]
  exact List.mem_cons_self

theorem mem_nodesAll {n : SyntaxNode} {ns : List SyntaxNode} (h : n ∈ ns) : n ∈ nodesAll ns := by
  induction ns with
  | nil => cases h
  | cons m ns ih =>
    rw [nodesAll, List.mem_append]
    rcases List.mem_cons.1 h with rfl | h
    · exact .inl (mem_nodes_self n)
    · exact .inr (ih h)

mutual

theorem child_mem_nodes {n c : SyntaxNode} (hc : c ∈ n.children) :
    ∀ root : SyntaxNode, n ∈ root.nodes → c ∈ root.nodes
  | node kind start stop named field children, h => by
    rw [nodes] at h ⊢
    rcases List.mem_cons.1 h with rfl | h
    · exact List.mem_cons_of_mem _ (mem_nodesAll hc)
    · exact List.mem_cons_of_mem _ (child_mem_nodesAll hc children h)

theorem child_mem_nodesAll {n c : SyntaxNode} (hc : c ∈ n.children) :
    ∀ ns : List SyntaxNode, n ∈ nodesAll ns → c ∈ nodesAll ns
  | [], h => by
    rw [nodesAll] at h
    cases h
  | m :: ns, h => by
    rw [nodesAll, List.mem_append] at h ⊢
    exact h.imp (child_mem_nodes hc m) (child_mem_nodesAll hc ns)

end

theorem mem_nodes_bodyStatements {root n c : SyntaxNode} (h : n ∈ root.nodes)
    (hc : c ∈ n.bodyStatements) : c ∈ root.nodes := by
  rcases n.bodyStatements_eq with ⟨body, hbody, he⟩ | ⟨keep, he⟩
  · rw [he] at hc
    exact child_mem_nodes (List.mem_filter.1 hc).1 root (child_mem_nodes hbody root h)
  · rw [he] at hc
    exact child_mem_nodes (List.mem_filter.1 hc).1 root h

end SyntaxNode

namespace Outline

open SyntaxNode

/-! ## Trees that leave room -/

/-- The statements of a list stand apart and in order, and the cursor, moved to one of `tails`, does
not jump over where one of them starts. -/
structure Spaced (bytes : Bytes) (tails : List Nat) (nodes : List SyntaxNode) : Prop where
  apart : nodes.Pairwise fun c d => c.stop ≤ d.start
  clear : ∀ d ∈ nodes, d.isVisited = true → ∀ o ∈ tails, ¬ bytes.JumpsOver o d.start

instance (bytes : Bytes) (tails : List Nat) (nodes : List SyntaxNode) :
    Decidable (Spaced bytes tails nodes) :=
  decidable_of_iff
    (nodes.Pairwise (fun c d => c.stop ≤ d.start) ∧
      ∀ d ∈ nodes, d.isVisited = true → ∀ o ∈ tails, ¬ bytes.JumpsOver o d.start)
    ⟨fun ⟨h, k⟩ => ⟨h, k⟩, fun ⟨h, k⟩ => ⟨h, k⟩⟩

/-- The nodes of a tree lie in the file, inside their parents, statements behind the header of what
they are in, and the lists of statements leave room for the cursor. -/
structure WellSpaced (bytes : Bytes) (root : SyntaxNode) : Prop where
  forward : ∀ n ∈ root.nodes, n.start ≤ n.stop ∧ n.stop ≤ bytes.length
  inside : ∀ n ∈ root.nodes, ∀ c ∈ n.children, n.start ≤ c.start ∧ c.stop ≤ n.stop
  header : ∀ n ∈ root.nodes, n.isEntered = true →
    ∀ c ∈ n.bodyStatements, c.isVisited = true → n.headerEnd ≤ c.start
  file : Spaced bytes (stops bytes root.namedChildren) root.namedChildren
  bodies : ∀ n ∈ root.nodes, n.isEntered = true →
    Spaced bytes (n.tails bytes) n.bodyStatements

instance (bytes : Bytes) (root : SyntaxNode) : Decidable (WellSpaced bytes root) :=
  decidable_of_iff
    ((∀ n ∈ root.nodes, n.start ≤ n.stop ∧ n.stop ≤ bytes.length) ∧
      (∀ n ∈ root.nodes, ∀ c ∈ n.children, n.start ≤ c.start ∧ c.stop ≤ n.stop) ∧
      (∀ n ∈ root.nodes, n.isEntered = true →
        ∀ c ∈ n.bodyStatements, c.isVisited = true → n.headerEnd ≤ c.start) ∧
      Spaced bytes (stops bytes root.namedChildren) root.namedChildren ∧
      ∀ n ∈ root.nodes, n.isEntered = true → Spaced bytes (n.tails bytes) n.bodyStatements)
    ⟨fun ⟨forward, inside, header, file, bodies⟩ => ⟨forward, inside, header, file, bodies⟩,
      fun ⟨forward, inside, header, file, bodies⟩ => ⟨forward, inside, header, file, bodies⟩⟩

/-- No jump of the cursor in a body gets past the end of the body. -/
def EndsClear (bytes : Bytes) (root : SyntaxNode) : Prop :=
  ∀ n ∈ root.nodes, n.isEntered = true → ∀ o ∈ n.tails bytes, bytes.skipLineTail o ≤ n.bodyEnd

instance (bytes : Bytes) (root : SyntaxNode) : Decidable (EndsClear bytes root) :=
  inferInstanceAs (Decidable (∀ n ∈ root.nodes, _ → ∀ o ∈ n.tails bytes, _))

/-! ## Stretches in order -/

/-- The stretch of the member that the event declares. -/
def Event.own? : Event → Option Stretch
  | declare _ item => if item.kind.isNamespace then none else some item.own
  | text _ | openScope | closeScope _ | setVisibility _ _ _ _ => none

/-- What the event takes of the source: the stretch that it hands over, and the member. -/
def Event.taken (e : Event) : List Stretch := e.before?.toList ++ e.own?.toList

theorem Opening.taken_eq {before own : Stretch} {e : Event} (h : Opening before own e) :
    e.taken = [before] := by
  cases h with
  | text => rfl
  | declare h hown => simp [Event.taken, Event.before?, Event.own?, h]

/-- Stretches that follow one another between two offsets. Unless they are `strict`, one that holds
nothing may stand anywhere. -/
inductive Laid (strict : Prop) : Nat → List Stretch → Nat → Prop where
  | nil {lo hi : Nat} (h : lo ≤ hi) : Laid strict lo [] hi
  | cons {lo hi : Nat} {s : Stretch} {rest : List Stretch} (hlo : lo ≤ s.start)
      (hs : s.start ≤ s.stop) (hrest : Laid strict s.stop rest hi) : Laid strict lo (s :: rest) hi
  | stray {lo hi : Nat} {s : Stretch} {rest : List Stretch} (hstrict : ¬ strict)
      (hs : s.start = s.stop) (hrest : Laid strict lo rest hi) : Laid strict lo (s :: rest) hi

section Laid

variable {strict : Prop} {lo mid hi : Nat} {l l' : List Stretch}

theorem Laid.le (h : Laid strict lo l hi) : lo ≤ hi := by
  induction h with
  | nil h => exact h
  | cons hlo hs hrest ih => omega
  | stray hstrict hs hrest ih => exact ih

theorem Laid.mono (h : Laid strict lo l hi) {lo' hi' : Nat} (hlo : lo' ≤ lo) (hhi : hi ≤ hi') :
    Laid strict lo' l hi' := by
  induction h generalizing lo' with
  | nil h => exact .nil (by omega)
  | cons hstart hs hrest ih => exact .cons (by omega) hs (ih (Nat.le_refl _) hhi)
  | stray hstrict hs hrest ih => exact .stray hstrict hs (ih hlo hhi)

theorem Laid.append (h : Laid strict lo l mid) (k : Laid strict mid l' hi) :
    Laid strict lo (l ++ l') hi := by
  induction h with
  | nil h => exact k.mono h (Nat.le_refl _)
  | cons hlo hs hrest ih => exact .cons hlo hs (ih k)
  | stray hstrict hs hrest ih => exact .stray hstrict hs (ih k)

/-- One of the stretches lies between the offsets, or holds nothing. -/
theorem Laid.mem (h : Laid strict lo l hi) {s : Stretch} (hs : s ∈ l) :
    (¬ strict ∧ s.start = s.stop) ∨ lo ≤ s.start ∧ s.start ≤ s.stop ∧ s.stop ≤ hi := by
  induction h with
  | nil h => cases hs
  | cons hlo hle hrest ih =>
    have := hrest.le
    rcases List.mem_cons.1 hs with rfl | hs
    · exact .inr ⟨hlo, hle, this⟩
    · exact (ih hs).imp_right fun ⟨h, k⟩ => ⟨by omega, k⟩
  | stray hstrict hempty hrest ih =>
    rcases List.mem_cons.1 hs with rfl | hs
    · exact .inl ⟨hstrict, hempty⟩
    · exact ih hs

theorem Laid.forward (h : Laid strict lo l hi) {s : Stretch} (hs : s ∈ l) : s.start ≤ s.stop := by
  rcases h.mem hs with ⟨-, hempty⟩ | ⟨-, hle, -⟩
  · exact Nat.le_of_eq hempty
  · exact hle

theorem Laid.pairwise_before (h : Laid strict lo l hi) : l.Pairwise Stretch.Before := by
  induction h with
  | nil h => exact .nil
  | cons hlo hle hrest ih =>
    refine List.pairwise_cons.2 ⟨fun t ht p hp q hq => ?_, ih⟩
    obtain ⟨-, hp⟩ := hp
    obtain ⟨hq, hq'⟩ := hq
    rcases hrest.mem ht with ⟨-, hempty⟩ | ⟨hbehind, -, -⟩ <;> omega
  | stray hstrict hempty hrest ih =>
    refine List.pairwise_cons.2 ⟨fun t ht p hp q hq => ?_, ih⟩
    obtain ⟨hp, hp'⟩ := hp
    omega

theorem Laid.pairwise_le (h : Laid strict lo l hi) (hstrict : strict) :
    l.Pairwise fun s t => s.stop ≤ t.start := by
  induction h with
  | nil h => exact .nil
  | cons hlo hle hrest ih =>
    refine List.pairwise_cons.2 ⟨fun t ht => ?_, ih⟩
    rcases hrest.mem ht with ⟨hnot, -⟩ | ⟨hbehind, -, -⟩
    · exact absurd hstrict hnot
    · exact hbehind
  | stray hnot hempty hrest ih => exact absurd hstrict hnot

end Laid

/-! ## What a walk takes -/

section WellSpaced

variable {bytes : Bytes} {root n c : SyntaxNode}

theorem WellSpaced.child (h : WellSpaced bytes root) (hn : n ∈ root.nodes) (hc : c ∈ n.children) :
    c ∈ root.nodes ∧ n.start ≤ c.start ∧ c.start ≤ c.stop ∧ c.stop ≤ n.stop := by
  have hmem := child_mem_nodes hc root hn
  exact ⟨hmem, (h.inside n hn c hc).1, (h.forward c hmem).1, (h.inside n hn c hc).2⟩

theorem WellSpaced.bodyStatement (h : WellSpaced bytes root) (hn : n ∈ root.nodes)
    (hc : c ∈ n.bodyStatements) : c ∈ root.nodes ∧ c.stop ≤ n.stop := by
  refine ⟨mem_nodes_bodyStatements hn hc, ?_⟩
  rcases n.bodyStatements_eq with ⟨body, hbody, he⟩ | ⟨keep, he⟩
  · rw [he] at hc
    obtain ⟨hmem, -, -, hstop⟩ := h.child hn hbody
    obtain ⟨-, -, -, hle⟩ := h.child hmem (List.mem_filter.1 hc).1
    omega
  · rw [he] at hc
    exact (h.child hn (List.mem_filter.1 hc).1).2.2.2

theorem WellSpaced.callArgument (h : WellSpaced bytes root) (hn : n ∈ root.nodes)
    (hc : c ∈ n.callArguments) : n.start ≤ c.start ∧ c.start ≤ c.stop ∧ c.stop ≤ n.stop := by
  unfold callArguments at hc
  split at hc
  · split at hc
    · rename_i args hargs
      obtain ⟨hmem, hstart, -, hstop⟩ := h.child hn (mem_children_of_child? hargs)
      obtain ⟨-, hstart', hle, hstop'⟩ := h.child hmem (List.mem_filter.1 hc).1
      exact ⟨by omega, hle, by omega⟩
    · cases hc
  · cases hc

theorem WellSpaced.bodyEnd_le (h : WellSpaced bytes root) (hn : n ∈ root.nodes) :
    n.bodyEnd ≤ n.stop := by
  unfold bodyEnd
  split
  · rename_i last hlast
    obtain ⟨-, -, hle, hstop⟩ := h.child hn (List.mem_of_getLast? hlast)
    split <;> omega
  · exact Nat.le_refl _

end WellSpaced

/-- What is taken from a cursor on, with where the cursor is moved. Either nothing is taken and the
cursor stays, or the cursor is moved to one of the offsets, and what is taken lies up to there. -/
def Emits (strict : Prop) (bytes : Bytes) (cursor : Nat) (stops : List Nat)
    (r : Body × List Event) : Prop :=
  r.2.flatMap Event.taken = [] ∧ r.1.cursor = cursor ∨
    ∃ o ∈ stops, r.1.cursor = bytes.skipLineTail o ∧
      Laid strict cursor (r.2.flatMap Event.taken) o

section Emits

variable {strict : Prop} {bytes : Bytes} {cursor : Nat} {stops stops' : List Nat}
  {r r' : Body × List Event}

theorem Emits.append (h : Emits strict bytes cursor stops r)
    (k : Emits strict bytes r.1.cursor stops' r')
    (hstops : ∀ o ∈ stops, o ≤ bytes.length) :
    Emits strict bytes cursor (stops ++ stops') (r'.1, r.2 ++ r'.2) := by
  unfold Emits at *
  rw [List.flatMap_append]
  rcases h with ⟨hnil, hcursor⟩ | ⟨o, ho, hcursor, hlaid⟩
  · rw [hnil, List.nil_append, ← hcursor]
    rcases k with k | ⟨o, ho, k⟩
    · exact .inl k
    · exact .inr ⟨o, List.mem_append_right _ ho, k⟩
  · rcases k with ⟨hnil, hcursor'⟩ | ⟨o', ho', hcursor', hlaid'⟩
    · rw [hnil, List.append_nil, hcursor', hcursor]
      exact .inr ⟨o, List.mem_append_left _ ho, rfl, hlaid⟩
    · rw [hcursor] at hlaid'
      have hskip := Bytes.le_skipLineTail (hstops o ho)
      exact .inr ⟨o', List.mem_append_right _ ho', hcursor',
        hlaid.append (hlaid'.mono hskip (Nat.le_refl _))⟩

/-- What is taken up to an offset that the cursor does not stay before. -/
theorem Emits.reach (h : Emits strict bytes cursor stops r) {lo hi : Nat} (hlo : lo ≤ cursor)
    (hhi : lo ≤ hi) (hstops : ∀ o ∈ stops, o ≤ hi) (hlength : hi ≤ bytes.length) :
    ∃ t, Laid strict lo (r.2.flatMap Event.taken) t ∧ t ≤ r.1.cursor ∧ t ≤ hi := by
  rcases h with ⟨hnil, hcursor⟩ | ⟨o, ho, hcursor, hlaid⟩
  · rw [hnil, hcursor]
    exact ⟨lo, .nil (Nat.le_refl _), hlo, hhi⟩
  · have hle := hstops o ho
    have hskip : o ≤ bytes.skipLineTail o := Bytes.le_skipLineTail (by omega)
    exact ⟨o, hlaid.mono hlo (Nat.le_refl _), by rw [hcursor]; exact hskip, hle⟩

end Emits

section Walk

variable {strict : Prop} {bytes : Bytes} {root n : SyntaxNode} {body : Body}
  {r : Body × List Event}

/-- A statement without a body, from a cursor that is not past it. -/
theorem Handled.emits (h : Handled bytes body n r) (hroot : WellSpaced bytes root)
    (hn : n ∈ root.nodes) (hcursor : body.cursor ≤ n.start) :
    Emits strict bytes body.cursor (n.passed? bytes).toList r := by
  have hmember {m : SyntaxNode} (hm : m = n ∨ m ∈ n.callArguments) :
      n.start ≤ m.start ∧ m.start ≤ m.stop := by
    rcases hm with rfl | hm
    · exact ⟨Nat.le_refl _, (hroot.forward m hn).1⟩
    · exact ⟨(hroot.callArgument hn hm).1, (hroot.callArgument hn hm).2.1⟩
  have hle := (hroot.forward n hn).1
  cases h with
  | silent ha hs hp => exact .inl ⟨rfl, rfl⟩
  | @fed m hm ha hs hp =>
    obtain ⟨hstart, hstop⟩ := hmember hm
    rw [hp]
    refine .inr ⟨m.stop, List.mem_singleton.2 rfl, rfl, ?_⟩
    exact .cons (Nat.le_refl _) (by dsimp only; omega) (.nil hstop)
  | switched ha hs hp =>
    rw [hp]
    refine .inr ⟨n.stop, List.mem_singleton.2 rfl, rfl, ?_⟩
    exact .cons (Nat.le_refl _) hcursor (.nil hle)
  | named ha hs hp =>
    rw [hp]
    refine .inr ⟨n.stop, List.mem_singleton.2 rfl, rfl, ?_⟩
    exact .cons (Nat.le_refl _) hcursor (.nil hle)
  | @declared m item hm hkind hown ha hs hp =>
    obtain ⟨hstart, hstop⟩ := hmember hm
    have htaken : [Event.declare ⟨body.cursor, n.start⟩ item].flatMap Event.taken =
        [⟨body.cursor, n.start⟩, m.stretch] := by
      simp [Event.taken, Event.before?, Event.own?, hkind, hown]
    rw [hp]
    refine .inr ⟨m.stop, List.mem_singleton.2 rfl, ?_, ?_⟩
    · rw [Body.past, Nat.max_eq_left (by omega)]
    · rw [htaken]
      exact .cons (Nat.le_refl _) hcursor (.cons hstart hstop (.nil (Nat.le_refl _)))

/-- The cursor is not moved past the end of the statement. -/
theorem passed?_le (hroot : WellSpaced bytes root) (hn : n ∈ root.nodes) {o : Nat}
    (ho : n.passed? bytes = some o) : o ≤ n.stop := by
  have hwrapped {m : SyntaxNode} (hm : n.wrapped? bytes = some m) : m.stop ≤ n.stop := by
    rw [wrapped?_eq] at hm
    split at hm
    · rename_i c hargs
      split at hm
      · cases hm
        exact (hroot.callArgument hn (by simp [hargs])).2.2
      · cases hm
    · cases hm
  have hstop : (if (n.keyword? bytes).isSome then (n.wrapped? bytes).getD n else n).stop ≤
      n.stop := by
    split
    · cases hm : n.wrapped? bytes with
      | none => exact Nat.le_refl _
      | some m => exact hwrapped hm
    · exact Nat.le_refl _
  rw [passed?] at ho
  generalize (if (n.keyword? bytes).isSome then (n.wrapped? bytes).getD n else n) = m at ho hstop
  split at ho
  · cases ho
  · cases ho
    exact hstop

theorem stops_cons (hn : n.isVisited = true) (nodes : List SyntaxNode) :
    stops bytes (n :: nodes) = (n.passed? bytes).toList ++ stops bytes nodes := by
  unfold stops
  rw [List.filter_cons_of_pos hn]
  cases h : n.passed? bytes <;> simp [h]

/-- The cursor behind a statement is not past what the list leaves room for. -/
theorem Emits.cursor_le {cursor p : Nat} {o : Option Nat}
    (h : Emits strict bytes cursor o.toList r) (hp : cursor ≤ p)
    (ho : ∀ t, o = some t → t ≤ p ∧ ¬ bytes.JumpsOver t p) : r.1.cursor ≤ p := by
  rcases h with ⟨-, hcursor⟩ | ⟨t, ht, hcursor, -⟩
  · omega
  · obtain ⟨hle, hjump⟩ := ho t (Option.mem_toList.1 ht)
    rw [hcursor]
    exact Nat.le_of_not_lt fun hlt => hjump ⟨hle, hlt⟩

/-- The statements of a list, from a cursor that is past none of them. -/
theorem statements_emits {statement : Body → SyntaxNode → Body × List Event}
    {nodes : List SyntaxNode} {tails : List Nat} (hroot : WellSpaced bytes root)
    (hnodes : ∀ n ∈ nodes, n ∈ root.nodes)
    (hst : ∀ n ∈ nodes, n.isVisited = true → ∀ body : Body, body.cursor ≤ n.start →
      Emits strict bytes body.cursor (n.passed? bytes).toList (statement body n))
    (hspaced : Spaced bytes tails nodes) (htails : stops bytes nodes ⊆ tails)
    (hcursor : ∀ n ∈ nodes, n.isVisited = true → body.cursor ≤ n.start) :
    Emits strict bytes body.cursor (stops bytes nodes) (statements statement body nodes) := by
  induction nodes generalizing body with
  | nil => exact .inl ⟨rfl, rfl⟩
  | cons n nodes ih =>
    obtain ⟨hapart, hclear⟩ := hspaced
    rw [List.pairwise_cons] at hapart
    rw [List.forall_mem_cons] at hnodes hst hcursor hclear
    have ih (htails : stops bytes nodes ⊆ tails) (body : Body)
        (hcursor : ∀ n ∈ nodes, n.isVisited = true → body.cursor ≤ n.start) :
        Emits strict bytes body.cursor (stops bytes nodes) (statements statement body nodes) :=
      ih hnodes.2 hst.2 ⟨hapart.2, hclear.2⟩ htails hcursor
    rw [statements]
    split
    · exact .inl ⟨rfl, rfl⟩
    rename_i hdata
    split
    · rename_i hkind
      have hvisited : ¬ n.isVisited = true := by
        rcases hkind with e | e <;> simp [isVisited, e]
      have hstops : stops bytes (n :: nodes) = stops bytes nodes := by
        rw [stops, List.filter_cons_of_neg hvisited, stops]
      rw [hstops] at htails ⊢
      exact ih htails body hcursor.2
    · rename_i hkind
      have hvisited : n.isVisited = true := by
        rw [not_or] at hkind
        simp [isVisited, hdata, hkind]
      rw [stops_cons hvisited] at htails ⊢
      have hfirst := hst.1 hvisited body (hcursor.1 hvisited)
      have hlength := (hroot.forward n hnodes.1).2
      -- the statement moves the cursor to a place that it does not jump from over the next ones
      have hothers := ih (fun o ho => htails (List.mem_append_right _ ho)) (statement body n).1
        fun d hd hdvisited => hfirst.cursor_le (hcursor.2 d hd hdvisited) fun o ho => by
          have hle := passed?_le hroot hnodes.1 ho
          have happ := hapart.1 d hd
          refine ⟨by omega, hclear.2 d hd hdvisited o (htails ?_)⟩
          exact List.mem_append_left _ (by rw [ho]; exact List.mem_singleton.2 rfl)
      refine hfirst.append hothers fun o ho => ?_
      have hle := passed?_le hroot hnodes.1 (Option.mem_toList.1 ho)
      omega

/-- A body from its opening to its end, behind what leads up to it. -/
theorem bodyOf_emits {statement : Body → SyntaxNode → Body × List Event} {inner : Body}
    (hroot : WellSpaced bytes root) (hn : n ∈ root.nodes) (hinner : n.start ≤ inner.cursor)
    (hbody : Emits strict bytes inner.cursor (stops bytes n.bodyStatements)
      (statements statement inner n.bodyStatements))
    (hclose : strict → (statements statement inner n.bodyStatements).1.cursor ≤ n.bodyEnd) :
    Laid strict n.start ((bodyOf statement inner n).flatMap Event.taken) n.stop := by
  have hforward := hroot.forward n hn
  have hend := hroot.bodyEnd_le hn
  have hstops : ∀ o ∈ stops bytes n.bodyStatements, o ≤ n.stop := by
    intro o ho
    obtain ⟨c, hc, hpassed⟩ := List.mem_filterMap.1 ho
    obtain ⟨hmem, hstop⟩ := hroot.bodyStatement hn (List.mem_filter.1 hc).1
    have := passed?_le hroot hmem hpassed
    omega
  obtain ⟨t, hlaid, ht, hle⟩ := hbody.reach hinner hforward.1 hstops hforward.2
  unfold bodyOf
  dsimp only
  generalize statements statement inner n.bodyStatements = r at hlaid ht hclose
  have htaken : (Event.openScope :: r.2 ++
      [Event.closeScope ⟨r.1.cursor, max n.bodyEnd r.1.cursor⟩]).flatMap Event.taken =
      r.2.flatMap Event.taken ++ [⟨r.1.cursor, max n.bodyEnd r.1.cursor⟩] := by
    simp [Event.taken, Event.before?, Event.own?]
  rw [htaken]
  refine hlaid.append ?_
  by_cases hpast : r.1.cursor ≤ n.bodyEnd
  · rw [Nat.max_eq_left hpast]
    exact .cons ht hpast (.nil hend)
  · rw [Nat.max_eq_right (by omega)]
    exact .stray (fun hstrict => hpast (hclose hstrict)) rfl (.nil hle)

end Walk

/-- **Statements.** What the walk over a statement takes, from a cursor that is not past it, lies in
order up to where the cursor is moved. -/
theorem statementAt_emits {bytes : Bytes} {root : SyntaxNode} (hroot : WellSpaced bytes root)
    (k : Nat) {n : SyntaxNode} (hn : n ∈ root.nodes) (body : Body) (hcursor : body.cursor ≤ n.start) :
    Emits (EndsClear bytes root) bytes body.cursor (n.passed? bytes).toList
      (statementAt bytes k body n) := by
  induction k generalizing n body with
  | zero => exact .inl ⟨rfl, rfl⟩
  | succ k ih =>
    cases hentered : n.isEntered with
    | false => exact (statementAt_handled bytes k body hentered).emits hroot hn hcursor
    | true =>
      obtain ⟨e, hopen, hwalk⟩ := statementAt_entered bytes k body hentered
      have hforward := hroot.forward n hn
      have hheader := n.start_le_headerEnd
      have hskip : min bytes.length n.headerEnd ≤ (n.inner bytes body).cursor :=
        bytes.min_le_skipLineTail n.headerEnd
      have hspaced := hroot.bodies n hn hentered
      -- the walk over the body starts behind the header, past none of the statements
      have hbody : Emits (EndsClear bytes root) bytes (n.inner bytes body).cursor
          (stops bytes n.bodyStatements)
          (statements (statementAt bytes k) (n.inner bytes body) n.bodyStatements) :=
        statements_emits hroot (fun c hc => mem_nodes_bodyStatements hn hc)
          (fun c hc _ inner hinner => ih (mem_nodes_bodyStatements hn hc) inner hinner) hspaced
          (List.subset_cons_self _ _) fun c hc hvisited =>
            Nat.le_of_not_lt fun hlt =>
              hspaced.clear c hc hvisited n.headerEnd List.mem_cons_self
                ⟨hroot.header n hn hentered c hc hvisited, hlt⟩
      have hlaid := bodyOf_emits hroot hn (by omega) hbody fun hclear => by
        rcases hbody with ⟨-, hstays⟩ | ⟨o, ho, hmoved, -⟩
        · rw [hstays]
          exact hclear n hn hentered _ List.mem_cons_self
        · rw [hmoved]
          exact hclear n hn hentered o (List.mem_cons_of_mem _ ho)
      have hpassed : n.passed? bytes = some n.stop :=
        (silent_of_isEntered hentered).2.2
      rw [hwalk, hpassed]
      refine .inr ⟨n.stop, List.mem_singleton.2 rfl, rfl, ?_⟩
      rw [List.flatMap_cons, hopen.taken_eq]
      exact .cons (Nat.le_refl _) hcursor hlaid

/-! ## Segments of a stretch -/

/-- The segment, read in a stretch, starts at a byte: the byte parts two characters of the text, it
is the first of a line or, for a signature, the first on its line behind white space, and from there
on stands what the segment takes. -/
structure StartsAt (bytes : Bytes) (s : Stretch) (seg : Segment) (p : Nat) : Prop where
  start_le : s.start ≤ p
  le_stop : p ≤ s.stop
  parts : bytes.text s = bytes.text ⟨s.start, p⟩ ++ bytes.text ⟨p, s.stop⟩
  stands : ∃ (k : Nat) (line : List Char),
    (Text.sourceLines (bytes.text s).toList)[k]? = some line ∧
      (seg.kind ≠ .sig →
        (bytes.text ⟨s.start, p⟩).length = Segment.lineStart (bytes.text s).toList k ∧
          seg.IsLine line (bytes.lineAt p)) ∧
      (seg.kind = .sig →
        (bytes.text ⟨s.start, p⟩).length =
            Segment.lineStart (bytes.text s).toList k + Segment.indentation line ∧
          seg.IsBlock (bytes.text s).toList (bytes.lineAt s.start)
            (bytes.text ⟨s.start, p⟩).length)
  line : seg.line = bytes.lineAt p

/-- A segment that is read in a stretch has the number of the line that it starts on. -/
theorem exists_startsAt {bytes : Bytes} {s : Stretch} (hs : s.start ≤ s.stop) {seg : Segment}
    (hseg : seg ∈ segments (bytes.text s).toList (bytes.lineAt s.start)) :
    ∃ p, StartsAt bytes s seg p := by
  obtain ⟨-, k, line, hat, hfirst, hwhole, hblock⟩ := Segment.mem_segments hseg
  obtain ⟨before, after, htext, hlength, hcount, hnewline⟩ := Segment.exists_around hat
  have hdecoded : (bytes.text s).toList = decodeUtf8 (bytes.slice s) := String.toList_ofList
  -- behind some white space of the line, and nothing else, the line has the same number
  have hplace (front back : List Char) (hline : line = front ++ back) :
      ∃ p, s.start ≤ p ∧ p ≤ s.stop ∧
        bytes.text s = bytes.text ⟨s.start, p⟩ ++ bytes.text ⟨p, s.stop⟩ ∧
        (bytes.text ⟨s.start, p⟩).length =
          Segment.lineStart (bytes.text s).toList k + front.length ∧
        ((bytes.lineAt p : Nat) : Int) = bytes.lineAt s.start + k := by
    have hsplit : decodeUtf8 (bytes.slice ⟨s.start, s.stop⟩) =
        (before ++ front) ++ (back ++ after) := by
      rw [← hdecoded, htext, hline]
      simp
    obtain ⟨p, hstart, hstop, hfront, hback⟩ := Bytes.exists_offset hs hsplit
    refine ⟨p, hstart, hstop, ?_, ?_, ?_⟩
    · refine String.toList_injective ?_
      rw [String.toList_append, hdecoded, Bytes.text, Bytes.text, String.toList_ofList,
        String.toList_ofList, hfront, hback]
      exact hsplit
    · rw [Bytes.text, String.length_ofList, hfront, List.length_append, hlength]
    · have hfeeds : front.count '\n' = 0 := List.count_eq_zero.2 fun hm =>
        hnewline (hline ▸ List.mem_append_left _ hm)
      have hadd := bytes.lineAt_add hstart
      rw [← count_decodeUtf8, hfront, List.count_append, hcount, hfeeds] at hadd
      omega
  by_cases hkind : seg.kind = .sig
  · obtain ⟨p, hstart, hstop, hparts, hoffset, hline⟩ := hplace (line.takeWhile Text.isBlank)
      (line.dropWhile Text.isBlank) List.takeWhile_append_dropWhile.symm
    refine ⟨p, hstart, hstop, hparts, ⟨k, line, hat, fun hne => absurd hkind hne, fun _ => ?_⟩, ?_⟩
    · rw [hoffset]
      exact ⟨rfl, (hblock hkind).2⟩
    · rw [hfirst, hline]
  · obtain ⟨p, hstart, hstop, hparts, hoffset, hline⟩ := hplace [] line rfl
    refine ⟨p, hstart, hstop, hparts, ⟨k, line, hat, fun _ => ⟨hoffset, ?_⟩,
      fun he => absurd he hkind⟩, ?_⟩
    · rw [hline]
      exact hwhole hkind
    · rw [hfirst, hline]

/-! ## Files -/

/-- The text that a step brings along, with the number of its first line. -/
def handedText? : Assembly.Step → Option (String × Int)
  | .feed text line | .closeScope text line => some (text, line)
  | .declare d => some (d.precedingText, d.precedingLine)
  | .openScope | .setVisibility _ _ _ _ | .finish => none

theorem handedText?_toStep (bytes : Bytes) (file : Option String) (e : Event) :
    handedText? (e.toStep bytes file) =
      e.before?.map fun s => (bytes.text s, (bytes.lineAt s.start : Int)) := by
  cases e <;> rfl

/-- What the walk over a file takes lies in order from its start to its end. -/
theorem walk_laid {bytes : Bytes} {root : SyntaxNode} (h : WellSpaced bytes root) :
    Laid (EndsClear bytes root) 0 ((walk bytes root).flatMap Event.taken) bytes.length := by
  have hnodes : ∀ n ∈ root.namedChildren, n ∈ root.nodes := fun n hn =>
    child_mem_nodes (List.mem_filter.1 hn).1 root (mem_nodes_self root)
  have hstops : ∀ o ∈ stops bytes root.namedChildren, o ≤ bytes.length := by
    intro o ho
    obtain ⟨n, hn, hpassed⟩ := List.mem_filterMap.1 ho
    have hmem := hnodes n (List.mem_filter.1 hn).1
    exact Nat.le_trans (passed?_le h hmem hpassed) (h.forward n hmem).2
  have hemits : Emits (EndsClear bytes root) bytes 0 (stops bytes root.namedChildren)
      (statements (statementAt bytes root.depth) ⟨[], false, 0, .open⟩ root.namedChildren) :=
    statements_emits h hnodes
      (fun n hn _ body hcursor => statementAt_emits h root.depth (hnodes n hn) body hcursor) h.file
      (List.Subset.refl _) fun n _ _ => Nat.zero_le _
  have htail : (statements (statementAt bytes root.depth) ⟨[], false, 0, .open⟩
      root.namedChildren).1.cursor ≤ bytes.length := by
    rcases hemits with ⟨-, hcursor⟩ | ⟨o, ho, hcursor, -⟩
    · rw [hcursor]
      exact Nat.zero_le _
    · rw [hcursor]
      exact Bytes.skipLineTail_le_length (hstops o ho)
  obtain ⟨t, hlaid, ht, -⟩ := hemits.reach (Nat.le_refl _) (Nat.zero_le _) hstops (Nat.le_refl _)
  unfold walk
  dsimp only
  rw [List.flatMap_append]
  exact hlaid.append (.cons ht htail (.nil (Nat.le_refl _)))

/-- **Stretches.** A walk over a file whose tree leaves room for the cursor takes no byte of the
source twice. The stretches that it hands over and those of the members that it declares come in the
order of the source; if no jump of the cursor gets past the end of a body, this holds for where they
start and stop, also of those that hold nothing. Each text that an assembly gets is that of such a
stretch, and each segment of the text has the number of the line of the byte that it starts at. -/
theorem walk_stretches {bytes : Bytes} {root : SyntaxNode} (h : WellSpaced bytes root) :
    ((walk bytes root).flatMap Event.taken).Pairwise Stretch.Before ∧
      (∀ s ∈ (walk bytes root).flatMap Event.taken, s.start ≤ s.stop) ∧
      (EndsClear bytes root →
        ((walk bytes root).flatMap Event.taken).Pairwise fun s t => s.stop ≤ t.start) ∧
      ∀ (file : Option String), ∀ e ∈ walk bytes root, ∀ text line,
        handedText? (e.toStep bytes file) = some (text, line) →
          ∃ s, e.before? = some s ∧ text = bytes.text s ∧
            ∀ seg ∈ segments text.toList line, ∃ p, StartsAt bytes s seg p := by
  have hlaid := walk_laid h
  refine ⟨hlaid.pairwise_before, fun s hs => hlaid.forward hs, hlaid.pairwise_le, ?_⟩
  intro file e he text line htext
  rw [handedText?_toStep, Option.map_eq_some_iff] at htext
  obtain ⟨s, hs, heq⟩ := htext
  obtain ⟨rfl, rfl⟩ := Prod.mk.injEq .. ▸ heq
  have hmem : s ∈ e.taken := List.mem_append_left _ (by rw [hs]; exact List.mem_singleton.2 rfl)
  exact ⟨s, hs, rfl, fun seg hseg =>
    exists_startsAt (hlaid.forward (List.mem_flatMap.2 ⟨e, he, hmem⟩)) hseg⟩

/-- A class whose header has a comment behind it, with a signature, a private method and a body of
the class itself. -/
def spacedSource : Bytes :=
  ("class A # note\n  sig \x7b void \x7d\n  private def a; end # tail\n" ++
    "  class << self\n    attr_reader :b\n  end\nend\n").toList.map fun c => UInt8.ofNat c.toNat

def spacedTree : SyntaxNode :=
  .node "program" 0 103 true none
    [.node "class" 0 102 true none
      [.node "class" 0 5 false none [], .node "constant" 6 7 true (some "name") [],
       .node "comment" 8 14 true none [],
       .node "body_statement" 17 98 true (some "body")
        [.node "call" 17 29 true none
          [.node "identifier" 17 20 true (some "method") [],
           .node "block" 21 29 true (some "block") []],
         .node "call" 32 50 true none
          [.node "identifier" 32 39 true (some "method") [],
           .node "argument_list" 40 50 true (some "arguments")
            [.node "method" 40 50 true none [.node "identifier" 44 45 true (some "name") []]]],
         .node "singleton_class" 60 98 true none
          [.node "class" 60 65 false none [], .node "self" 69 73 true (some "value") [],
           .node "body_statement" 78 92 true (some "body")
            [.node "call" 78 92 true none
              [.node "identifier" 78 89 true (some "method") [],
               .node "argument_list" 90 92 true (some "arguments")
                [.node "simple_symbol" 90 92 true none []]]],
           .node "end" 95 98 false none []]],
       .node "end" 99 102 false none []]]

theorem walk_stretches_spacedTree :
    WellSpaced spacedSource spacedTree ∧ EndsClear spacedSource spacedTree ∧
      (walk spacedSource spacedTree).flatMap Event.taken =
        [⟨0, 0⟩, ⟨14, 32⟩, ⟨40, 50⟩, ⟨57, 60⟩, ⟨73, 78⟩, ⟨78, 92⟩, ⟨92, 95⟩, ⟨98, 99⟩,
          ⟨102, 103⟩] ∧
      ((walk spacedSource spacedTree).flatMap Event.taken).Pairwise Stretch.Before ∧
      ((walk spacedSource spacedTree).flatMap Event.taken).Pairwise
        (fun s t => s.stop ≤ t.start) ∧
      ∃ seg ∈ segments (spacedSource.text ⟨14, 32⟩).toList 1, seg.kind = .sig ∧ seg.line = 2 ∧
        ∃ p, StartsAt spacedSource ⟨14, 32⟩ seg p := by
  -- one evaluation for all, as the source takes long to be spelled out
  obtain ⟨h, hclear, htaken, hfirst, ⟨e, he, hstretch⟩, seg, hseg, hkind, hline⟩ :
      WellSpaced spacedSource spacedTree ∧ EndsClear spacedSource spacedTree ∧
        (walk spacedSource spacedTree).flatMap Event.taken =
          [⟨0, 0⟩, ⟨14, 32⟩, ⟨40, 50⟩, ⟨57, 60⟩, ⟨73, 78⟩, ⟨78, 92⟩, ⟨92, 95⟩, ⟨98, 99⟩,
            ⟨102, 103⟩] ∧
        (spacedSource.lineAt 14 : Int) = 1 ∧
        (∃ e ∈ walk spacedSource spacedTree, e.before? = some ⟨14, 32⟩) ∧
        ∃ seg ∈ segments (spacedSource.text ⟨14, 32⟩).toList 1,
          seg.kind = .sig ∧ seg.line = 2 := by
    decide +kernel
  obtain ⟨hbefore, -, hle, hsegments⟩ := walk_stretches h
  obtain ⟨s, hs, -, hfound⟩ := hsegments none e he _ _ (by
    rw [handedText?_toStep, hstretch]
    rfl)
  obtain rfl : (⟨14, 32⟩ : Stretch) = s := Option.some.inj (hstretch.symm.trans hs)
  exact ⟨h, hclear, htaken, hbefore, hle hclear, seg, hseg, hkind, hline,
    hfound seg (by rw [hfirst]; exact hseg)⟩

end Outline

end TypeTags
