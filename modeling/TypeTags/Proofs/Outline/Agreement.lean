import Mathlib.Data.List.Basic
import TypeTags.Proofs.Outline.Cover
import TypeTags.Proofs.Outline.Decoding

/-!
# Files that agree up to a place

Two files with the same bytes up to a solid offset: what a walk reads of a statement that ends before
the offset is the same in both. So the walks over such statements give the same events, and an
assembly gets the same steps.

* `Agree`: files with the same bytes up to a solid offset.
* `Event.Early`: events that are about the source up to an offset.

Results:
* `statementAt_agree`: the walk over one statement, in trees of any height.
* `statements_agree`: the walk over a list of statements.
* `Agree.toStep`: the steps of such events.
-/

namespace TypeTags.Outline

open SyntaxNode

/-- The files have the same bytes up to an offset that is the first on its line to hold something,
and at the offset. -/
structure Agree (bytes bytes' : Bytes) (p : Nat) : Prop where
  head : bytes.take (p + 1) = bytes'.take (p + 1)
  solid : bytes.Solid p

/-! ## Places -/

section Places

variable {bytes bytes' : Bytes} {p : Nat}

theorem Agree.take (h : Agree bytes bytes' p) {i : Nat} (hi : i ≤ p + 1) :
    bytes.take i = bytes'.take i := by
  have htake := congrArg (List.take i) h.head
  rwa [List.take_take, List.take_take, Nat.min_eq_left hi] at htake

theorem Agree.getElem? (h : Agree bytes bytes' p) : bytes[p]? = bytes'[p]? := by
  have hget := congrArg (fun l : Bytes => l[p]?) h.head
  simpa [List.getElem?_take] using hget

theorem Agree.symm (h : Agree bytes bytes' p) : Agree bytes' bytes p where
  head := h.head.symm
  solid := by
    obtain ⟨hholds, hleads⟩ := h.solid
    refine ⟨by rw [← h.getElem?]; exact hholds, ?_⟩
    rw [Bytes.lineHead, ← h.take (Nat.le_succ p)]
    exact hleads

theorem Agree.slice (h : Agree bytes bytes' p) {s : Stretch} (hs : s.stop ≤ p) :
    bytes.slice s = bytes'.slice s := by
  rw [bytes.slice_eq_drop_take s.start s.stop, bytes'.slice_eq_drop_take s.start s.stop,
    h.take (by omega)]

theorem Agree.text (h : Agree bytes bytes' p) {s : Stretch} (hs : s.stop ≤ p) :
    bytes.text s = bytes'.text s := by
  rw [Bytes.text, Bytes.text, h.slice hs]

theorem Agree.lineAt (h : Agree bytes bytes' p) {o : Nat} (ho : o ≤ p) :
    bytes.lineAt o = bytes'.lineAt o := by
  rw [Bytes.lineAt, Bytes.lineAt, h.take (by omega)]

theorem Agree.skipLineTail (h : Agree bytes bytes' p) {o : Nat} (ho : o ≤ p) :
    bytes.skipLineTail o = bytes'.skipLineTail o := by
  rw [h.solid.skipLineTail_eq ho, h.symm.solid.skipLineTail_eq ho, h.take (Nat.le_succ p)]

end Places

/-! ## What is read of a node -/

section Nodes

variable {bytes bytes' : Bytes} {p : Nat} {n c : SyntaxNode}

/-- The node is laid out, and ends before an offset. -/
structure EndsBy (n : SyntaxNode) (p : Nat) : Prop where
  ordered : n.isOrdered = true
  stop : n.stop ≤ p

theorem EndsBy.of_liesIn (h : EndsBy n p) (hc : LiesIn c n) : EndsBy c p :=
  ⟨hc.ordered, Nat.le_trans hc.stop h.stop⟩

theorem EndsBy.child (h : EndsBy n p) (hc : c ∈ n.children) : EndsBy c p :=
  h.of_liesIn (liesIn_child h.ordered hc)

theorem EndsBy.forward (h : EndsBy n p) : n.start ≤ n.stop := (isOrdered_iff.1 h.ordered).1.forward

theorem Agree.node (h : Agree bytes bytes' p) (hn : EndsBy n p) : n.text bytes = n.text bytes' :=
  h.text hn.stop

theorem Agree.callName? (h : Agree bytes bytes' p) (hn : EndsBy n p) :
    n.callName? bytes = n.callName? bytes' := by
  unfold SyntaxNode.callName?
  rw [h.node hn]
  cases hm : n.child? "method" with
  | none => rfl
  | some m => rw [Option.map_some, Option.map_some, h.node (hn.child (mem_children_of_child? hm))]

theorem Agree.accessorMode? (h : Agree bytes bytes' p) (hn : EndsBy n p) :
    accessorMode? bytes n = accessorMode? bytes' n := by
  rw [Outline.accessorMode?, Outline.accessorMode?, h.callName? hn]

theorem Agree.argumentNames (h : Agree bytes bytes' p) (hn : EndsBy n p) :
    n.argumentNames bytes = n.argumentNames bytes' := by
  have hnames : n.callArguments.filterMap (·.symbolName? bytes) =
      n.callArguments.filterMap (·.symbolName? bytes') := by
    refine List.filterMap_congr fun c hc => ?_
    rw [symbolName?, symbolName?, h.node (hn.of_liesIn (liesIn_callArguments hn.ordered hc))]
  rw [SyntaxNode.argumentNames, SyntaxNode.argumentNames, hnames]

theorem Agree.superclass? (h : Agree bytes bytes' p) (hn : EndsBy n p) :
    n.superclass? bytes = n.superclass? bytes' := by
  unfold SyntaxNode.superclass?
  cases hclause : n.child? "superclass" with
  | none => rfl
  | some clause =>
    have hc := hn.child (mem_children_of_child? hclause)
    rw [Option.map_some, Option.map_some]
    congr 1
    split
    · rename_i expression others hnamed
      have hmem : expression ∈ clause.namedChildren := by rw [hnamed]; exact List.mem_cons_self
      exact h.node (hc.child (List.mem_filter.1 hmem).1)
    · rw [h.node hc]

end Nodes

/-! ## What a walk makes of a node -/

/-- The event is about the source up to an offset. -/
def Event.Early (p : Nat) : Event → Prop
  | text before | closeScope before => before.start ≤ p ∧ before.stop ≤ p
  | declare before item => (before.start ≤ p ∧ before.stop ≤ p) ∧ item.own.start ≤ p
  | openScope | setVisibility _ _ _ _ => True

/-- A walk has come to a place before an offset, and its events are about the source up to there. -/
structure Early (p : Nat) (r : Body × List Event) : Prop where
  cursor : r.1.cursor ≤ p
  events : ∀ e ∈ r.2, e.Early p

theorem Early.nil {p : Nat} {body : Body} (h : body.cursor ≤ p) : Early p (body, []) :=
  ⟨h, fun _ he => absurd he List.not_mem_nil⟩

theorem Early.append {p : Nat} {r r' : Body × List Event} (h : Early p r) (k : Early p r') :
    Early p (r'.1, r.2 ++ r'.2) :=
  ⟨k.cursor, fun e he => (List.mem_append.1 he).elim (h.events e) (k.events e)⟩

section Statement

variable {bytes bytes' : Bytes} {p : Nat} {body : Body} {n m : SyntaxNode} {r : Body × List Event}

theorem Agree.toStep (h : Agree bytes bytes' p) {e : Event} (he : e.Early p)
    (file : Option String) : e.toStep bytes file = e.toStep bytes' file := by
  cases e with
  | text before => rw [Event.toStep, Event.toStep, h.text he.2, h.lineAt he.1]
  | openScope => rfl
  | closeScope before => rw [Event.toStep, Event.toStep, h.text he.2, h.lineAt he.1]
  | declare before item =>
    rw [Event.toStep, Event.toStep, h.text he.1.2, h.lineAt he.1.1, h.lineAt he.2]
  | setVisibility nesting names visibility classLevel => rfl

theorem Handled.early (h : Handled bytes body n r) (hsolid : bytes.Solid p) (hn : EndsBy n p)
    (hcursor : body.cursor ≤ p) : Early p r := by
  have hpart {m : SyntaxNode} (hm : m = n ∨ m ∈ n.callArguments) : EndsBy m p := by
    rcases hm with rfl | hm
    · exact hn
    · exact hn.of_liesIn (liesIn_callArguments hn.ordered hm)
  have hstart : n.start ≤ p := Nat.le_trans hn.forward hn.stop
  have htext {stop : Nat} (hstop : stop ≤ p) : Event.Early p (.text ⟨body.cursor, stop⟩) :=
    ⟨hcursor, hstop⟩
  cases h with
  | silent ha hs hp => exact .nil hcursor
  | fed hm ha hs hp =>
    have hm := hpart hm
    refine ⟨Bytes.skipLineTail_le hsolid hm.stop, fun e he => ?_⟩
    rw [List.mem_singleton.1 he]
    exact htext (Nat.le_trans hm.forward hm.stop)
  | switched ha hs hp =>
    refine ⟨Bytes.skipLineTail_le hsolid hn.stop, fun e he => ?_⟩
    rw [List.mem_singleton.1 he]
    exact htext hstart
  | named ha hs hp =>
    refine ⟨Bytes.skipLineTail_le hsolid hn.stop, fun e he => ?_⟩
    rcases List.mem_cons.1 he with rfl | he
    · exact htext hstart
    · rw [List.mem_singleton.1 he]
      trivial
  | declared hm hkind hown ha hs hp =>
    have hm := hpart hm
    refine ⟨Bytes.skipLineTail_le hsolid (Nat.max_le.2 ⟨hm.stop, hstart⟩), fun e he => ?_⟩
    rw [List.mem_singleton.1 he]
    refine ⟨⟨hcursor, hstart⟩, ?_⟩
    rw [hown]
    exact Nat.le_trans hm.forward hm.stop

theorem Agree.past (h : Agree bytes bytes' p) {stop : Nat} (hstop : stop ≤ p) :
    body.past bytes stop = body.past bytes' stop := by
  rw [Body.past, Body.past, h.skipLineTail hstop]

theorem Agree.feed (h : Agree bytes bytes' p) (hm : EndsBy m p) :
    feed bytes body m = feed bytes' body m := by
  rw [Outline.feed, Outline.feed, h.past hm.stop]

theorem Agree.method (h : Agree bytes bytes' p) (hm : EndsBy m p) {start : Nat} (hs : start ≤ p)
    (v : Visibility) : method bytes body v start m = method bytes' body v start m := by
  unfold Outline.method
  cases hname : m.child? "name" with
  | none => rfl
  | some name =>
    dsimp only
    rw [h.past (Nat.max_le.2 ⟨hm.stop, hs⟩), h.node (hm.child (mem_children_of_child? hname))]

theorem Agree.accessors (h : Agree bytes bytes' p) (hm : EndsBy m p) {start : Nat}
    (hs : start ≤ p) (v : Visibility) (mode : AccessorMode) :
    accessors bytes body v start mode m = accessors bytes' body v start mode m := by
  unfold Outline.accessors
  rw [h.argumentNames hm, h.feed hm, h.past (Nat.max_le.2 ⟨hm.stop, hs⟩)]

theorem Agree.visibilityCall (h : Agree bytes bytes' p) (hn : EndsBy n p) (v : Visibility) :
    visibilityCall bytes body v n n.callArguments =
      visibilityCall bytes' body v n n.callArguments := by
  have hstart : n.start ≤ p := Nat.le_trans hn.forward hn.stop
  have harg : ∀ m ∈ n.callArguments, EndsBy m p := fun m hm =>
    hn.of_liesIn (liesIn_callArguments hn.ordered hm)
  unfold Outline.visibilityCall
  rw [h.feed hn, h.argumentNames hn]
  generalize n.callArguments = arguments at harg
  rcases arguments with _ | ⟨m, _ | ⟨m', others⟩⟩
  · rfl
  · have hm := harg m List.mem_cons_self
    dsimp only
    rw [h.method hm hstart, h.accessorMode? hm]
    split
    · rfl
    · split
      · exact h.accessors hm hstart v _
      · rfl
  · rfl

theorem Agree.call (h : Agree bytes bytes' p) (hn : EndsBy n p) :
    call bytes body n = call bytes' body n := by
  have hstart : n.start ≤ p := Nat.le_trans hn.forward hn.stop
  unfold Outline.call
  rw [h.callName? hn, h.accessorMode? hn, h.feed hn]
  dsimp only
  split
  · rfl
  · split
    · exact h.accessors hn hstart _ _
    · split
      · split
        · rfl
        · exact h.visibilityCall hn _
      · rfl

/-- A statement whose body, if the walk enters one, is walked alike. -/
theorem Agree.statementAt (h : Agree bytes bytes' p) (hn : EndsBy n p) {k k' : Nat}
    (hbody : ∀ inner : Body, inner.cursor ≤ p →
      statements (statementAt bytes k) inner n.bodyStatements =
        statements (statementAt bytes' k') inner n.bodyStatements) :
    statementAt bytes (k + 1) body n = statementAt bytes' (k' + 1) body n := by
  have hheader : n.headerEnd ≤ p := Nat.le_trans (headerEnd_le_stop hn.ordered) hn.stop
  have hskip := Bytes.skipLineTail_le h.solid hheader
  have hbodyOf (inner : Body) (hinner : inner.cursor ≤ p) :
      bodyOf (Outline.statementAt bytes k) inner n =
        bodyOf (Outline.statementAt bytes' k') inner n := by
    rw [bodyOf, bodyOf, hbody inner hinner]
  rw [Outline.statementAt, Outline.statementAt]
  split
  · unfold namespaceBody
    cases hname : n.child? "name" with
    | none => exact h.feed hn
    | some name =>
      have hname := h.node (hn.child (mem_children_of_child? hname))
      dsimp only
      rw [h.past hn.stop, h.superclass? hn, hname, ← h.skipLineTail hheader,
        hbodyOf _ hskip]
  · split
    · unfold singletonBody
      rw [h.feed hn, ← h.skipLineTail hheader]
      dsimp only
      rw [hbodyOf ⟨body.nesting, true, bytes.skipLineTail n.headerEnd, .open⟩ hskip]
    · split
      · exact h.method hn (Nat.le_trans hn.forward hn.stop) _
      · exact h.call hn

/-- The statements of a list that end before a place are handled alike if each one is. -/
theorem statements_agree {statement statement' : Body → SyntaxNode → Body × List Event}
    {nodes : List SyntaxNode}
    (hst : ∀ n ∈ nodes, ∀ body : Body, body.cursor ≤ p →
      statement body n = statement' body n ∧ Early p (statement body n))
    (hcursor : body.cursor ≤ p) :
    statements statement body nodes = statements statement' body nodes ∧
      Early p (statements statement body nodes) := by
  induction nodes generalizing body with
  | nil => exact ⟨rfl, .nil hcursor⟩
  | cons n nodes ih =>
    rw [List.forall_mem_cons] at hst
    have hfirst : Early p (if n.kind = "comment" ∨ n.kind = "empty_statement" then (body, [])
        else statement body n) := by
      split
      · exact .nil hcursor
      · exact (hst.1 body hcursor).2
    rw [statements_cons, statements_cons, ← (hst.1 body hcursor).1]
    split
    · exact ⟨rfl, .nil hcursor⟩
    dsimp only
    generalize (if n.kind = "comment" ∨ n.kind = "empty_statement" then (body, [])
      else statement body n) = first at hfirst
    obtain ⟨hothers, hlast⟩ := ih hst.2 hfirst.cursor
    rw [← hothers]
    exact ⟨rfl, hfirst.append hlast⟩

/-- A body that ends before a place, behind what leads up to it. -/
theorem early_entered {statement : Body → SyntaxNode → Body × List Event} {e : Event}
    (hsolid : bytes.Solid p) (hn : EndsBy n p) (hcursor : body.cursor ≤ p)
    (hopen : Opening ⟨body.cursor, n.start⟩ n.stretch e)
    (hbody : Early p (statements statement (n.inner bytes body) n.bodyStatements)) :
    Early p (body.past bytes n.stop, e :: bodyOf statement (n.inner bytes body) n) := by
  have hstart : n.start ≤ p := Nat.le_trans hn.forward hn.stop
  have hend : n.bodyEnd ≤ p := Nat.le_trans (bodyEnd_le_stop hn.ordered) hn.stop
  refine ⟨Bytes.skipLineTail_le hsolid hn.stop, fun x hx => ?_⟩
  unfold bodyOf at hx
  dsimp only at hx
  simp only [List.cons_append, List.mem_cons, List.mem_append, List.not_mem_nil, or_false] at hx
  rcases hx with rfl | rfl | hx | rfl
  · cases hopen with
    | text => exact ⟨hcursor, hstart⟩
    | declare h hown =>
      refine ⟨⟨hcursor, hstart⟩, ?_⟩
      rw [hown]
      exact hstart
  · trivial
  · exact hbody.events x hx
  · exact ⟨hbody.cursor, Nat.max_le.2 ⟨hend, hbody.cursor⟩⟩

end Statement

/-- **Statements.** Of a statement that ends before a place up to which two files agree, a walk makes
the same in both, however deep the trees may be that it stands in. -/
theorem statementAt_agree {bytes bytes' : Bytes} {p : Nat} (h : Agree bytes bytes' p) {k k' : Nat}
    {n : SyntaxNode} (hn : EndsBy n p) (hk : n.depth ≤ k) (hk' : n.depth ≤ k') (body : Body)
    (hcursor : body.cursor ≤ p) :
    statementAt bytes k body n = statementAt bytes' k' body n ∧
      Early p (statementAt bytes k body n) := by
  induction k generalizing k' n body with
  | zero =>
    have := n.depth_pos
    omega
  | succ k ih =>
    obtain ⟨k', rfl⟩ : ∃ i, k' = i + 1 := ⟨k' - 1, by have := n.depth_pos; omega⟩
    have hbody (inner : Body) (hinner : inner.cursor ≤ p) :
        statements (statementAt bytes k) inner n.bodyStatements =
            statements (statementAt bytes' k') inner n.bodyStatements ∧
          Early p (statements (statementAt bytes k) inner n.bodyStatements) := by
      refine statements_agree (fun c hc body hbody => ?_) hinner
      have := depth_bodyStatements hc
      have hc := hn.of_liesIn (liesIn_bodyStatements hn.ordered hc)
      exact ih hc (by omega) (by omega) body hbody
    refine ⟨h.statementAt hn fun inner hinner => (hbody inner hinner).1, ?_⟩
    cases hentered : n.isEntered with
    | false => exact (statementAt_handled bytes k body hentered).early h.solid hn hcursor
    | true =>
      obtain ⟨e, hopen, hwalk⟩ := statementAt_entered bytes k body hentered
      have hinner : (n.inner bytes body).cursor ≤ p :=
        Bytes.skipLineTail_le h.solid (Nat.le_trans (headerEnd_le_stop hn.ordered) hn.stop)
      rw [hwalk]
      exact early_entered h.solid hn hcursor hopen (hbody _ hinner).2

end TypeTags.Outline
