import TypeTags.Proofs.Outline.Statements

/-!
# Who may call a member

In a walk, the visibility of a member is that of the keyword that wraps it. Without one it is that
of the last keyword without arguments before it in the same list of statements, and if there is none,
everyone may call it. A keyword whose arguments are no member gives a visibility to the members that
it names, and to nothing else. A body is entered with no keyword before its first statement, and what
stands in it says nothing of the statements around it.

* `standing`: the visibility that the statements before a member leave for it.
* `Site`: a statement where a walk comes to it, with the statements before it in its list.
* `sites`: the statements that a walk comes to.

Results:
* `statements_accesses`: the walk over a list of statements.
* `walk_accesses`: the walk over a file.
-/

namespace TypeTags.Outline

open SyntaxNode

/-- The visibility of a member without a keyword of its own, behind the statements of its list. -/
def standing (bytes : Bytes) (before : List SyntaxNode) : Visibility :=
  ((before.filterMap (·.switch? bytes)).getLast?).getD .open

theorem depthAll_le {nodes : List SyntaxNode} {k : Nat} (h : ∀ n ∈ nodes, n.depth ≤ k) :
    depthAll nodes ≤ k := by
  induction nodes with
  | nil => exact Nat.zero_le k
  | cons n nodes ih =>
    rw [List.forall_mem_cons] at h
    rw [depthAll]
    exact Nat.max_le.2 ⟨h.1, ih h.2⟩

theorem depthAll_bodyStatements (n : SyntaxNode) : depthAll n.bodyStatements < n.depth := by
  have hle : depthAll n.bodyStatements ≤ n.depth - 1 :=
    depthAll_le fun c hc => by
      have := depth_bodyStatements hc
      omega
  have := n.depth_pos
  omega

/-- A statement where a walk comes to it: the body it stands in, and what stands before it there. -/
structure Site where
  nesting : List String
  classLevel : Bool
  before : List SyntaxNode
  node : SyntaxNode

/-- What the statement says of who may call members. -/
def Site.accesses (bytes : Bytes) (s : Site) : List Access :=
  s.node.accesses bytes s.nesting s.classLevel (standing bytes s.before)

/-- The statements that a walk comes to from inside a list, in order, those in the bodies that it
enters included. The data at the end of a file is none, and neither is what follows it. -/
def sites (bytes : Bytes) (nesting : List String) (classLevel : Bool) (before : List SyntaxNode) :
    List SyntaxNode → List Site
  | [] => []
  | n :: nodes =>
    if n.kind = "uninterpreted" then []
    else
      ⟨nesting, classLevel, before, n⟩
        :: (if n.isEntered then
              sites bytes (n.scope bytes nesting) (n.kind == "singleton_class") [] n.bodyStatements
            else [])
        ++ sites bytes nesting classLevel (before ++ [n]) nodes
termination_by nodes => (depthAll nodes, nodes.length)
decreasing_by
  · have := depthAll_bodyStatements n
    have : depthAll (n :: nodes) = max n.depth (depthAll nodes) := by rw [depthAll]
    exact Prod.Lex.left _ _ (by omega)
  · have : depthAll (n :: nodes) = max n.depth (depthAll nodes) := by rw [depthAll]
    exact Prod.Lex.right' _ (by omega) (by simp)

/-- The statements that a walk over a file comes to. -/
def fileSites (bytes : Bytes) (root : SyntaxNode) : List Site :=
  sites bytes [] false [] root.namedChildren

theorem standing_snoc (bytes : Bytes) (before : List SyntaxNode) (n : SyntaxNode) :
    standing bytes (before ++ [n]) = (n.switch? bytes).getD (standing bytes before) := by
  rw [standing, List.filterMap_append]
  cases h : n.switch? bytes with
  | none => simp [standing, h]
  | some v => simp [h]

theorem standing_nil (bytes : Bytes) : standing bytes [] = .open := rfl

/-- The statements that a walk comes to in the body of a statement, if it enters one. -/
def sitesInside (bytes : Bytes) (nesting : List String) (n : SyntaxNode) : List Site :=
  if n.isEntered then
    sites bytes (n.scope bytes nesting) (n.kind == "singleton_class") [] n.bodyStatements
  else []

theorem sites_cons (bytes : Bytes) (nesting : List String) (classLevel : Bool)
    (before : List SyntaxNode) (n : SyntaxNode) (nodes : List SyntaxNode) :
    sites bytes nesting classLevel before (n :: nodes) =
      if n.kind = "uninterpreted" then []
      else ⟨nesting, classLevel, before, n⟩ :: (sitesInside bytes nesting n
        ++ sites bytes nesting classLevel (before ++ [n]) nodes) := by
  rw [sites]
  rfl

section Statement

variable {bytes : Bytes} {body : Body} {n : SyntaxNode} {r : Body × List Event}

/-- The walk over a statement tells what comes of the statement and of those inside it, stays in its
body, and takes over the keyword of a statement that is one without arguments. -/
structure Tells (bytes : Bytes) (body : Body) (n : SyntaxNode) (r : Body × List Event) : Prop where
  accesses : r.2.filterMap Event.access? =
    n.accesses bytes body.nesting body.classLevel body.visibility
      ++ (sitesInside bytes body.nesting n).flatMap (Site.accesses bytes)
  nesting : r.1.nesting = body.nesting
  classLevel : r.1.classLevel = body.classLevel
  visibility : r.1.visibility = (n.switch? bytes).getD body.visibility

theorem Handled.tells (h : Handled bytes body n r) (hn : n.isEntered = false) :
    Tells bytes body n r := by
  have hinside : sitesInside bytes body.nesting n = [] := by simp [sitesInside, hn]
  cases h with
  | silent ha hs hp => exact ⟨by rw [ha, hinside]; rfl, rfl, rfl, by rw [hs]; rfl⟩
  | fed hm ha hs hp => exact ⟨by rw [ha, hinside]; rfl, rfl, rfl, by rw [hs]; rfl⟩
  | switched ha hs hp => exact ⟨by rw [ha, hinside]; rfl, rfl, rfl, by rw [hs]; rfl⟩
  | named ha hs hp => exact ⟨by rw [ha, hinside]; rfl, rfl, rfl, by rw [hs]; rfl⟩
  | declared hm hkind hown ha hs hp =>
    refine ⟨?_, rfl, rfl, by rw [hs]; rfl⟩
    rw [ha, hinside]
    simp [Event.access?, hkind]

/-- A comment is not looked at. -/
theorem tells_skipped (h : n.kind = "comment" ∨ n.kind = "empty_statement") :
    Tells bytes body n (body, []) := by
  have hkind : n.kind ∉ ["identifier", "call", "method_call", "method", "singleton_method"] := by
    rcases h with e | e <;> simp [e]
  obtain ⟨ha, hs, -⟩ := @silent_of_kind bytes n hkind
  have hinside : sitesInside bytes body.nesting n = [] := by
    rcases h with e | e <;> simp [sitesInside, isEntered, e]
  exact ⟨by rw [ha, hinside]; rfl, rfl, rfl, by rw [hs]; rfl⟩

theorem bodyOf_accesses (statement : Body → SyntaxNode → Body × List Event) (inner : Body)
    (n : SyntaxNode) : (bodyOf statement inner n).filterMap Event.access? =
      (statements statement inner n.bodyStatements).2.filterMap Event.access? := by
  unfold bodyOf
  dsimp only
  rw [List.cons_append, List.filterMap_cons_none rfl, List.filterMap_append,
    List.filterMap_cons_none rfl, List.filterMap_nil, List.append_nil]

/-- A statement with a body says what the statements of its body do. -/
theorem tells_entered {k : Nat} (hn : n.isEntered = true)
    (hinner : (statements (statementAt bytes k) (n.inner bytes body) n.bodyStatements).2.filterMap
        Event.access? = (sitesInside bytes body.nesting n).flatMap (Site.accesses bytes)) :
    Tells bytes body n (statementAt bytes (k + 1) body n) := by
  obtain ⟨e, hopen, hwalk⟩ := statementAt_entered bytes k body hn
  obtain ⟨ha, hs, -⟩ := @silent_of_isEntered bytes n hn
  rw [hwalk]
  refine ⟨?_, rfl, rfl, by rw [hs]; rfl⟩
  rw [ha, List.nil_append, ← hinner, ← bodyOf_accesses, List.filterMap_cons_none hopen.access?_eq]

end Statement

/-- **Bodies.** The walk over a list of statements says of who may call members what the statements
say that it comes to. -/
theorem statements_accesses (bytes : Bytes) {k : Nat} {nodes : List SyntaxNode}
    (hdepth : ∀ n ∈ nodes, n.depth ≤ k) {body : Body} {before : List SyntaxNode}
    (hv : body.visibility = standing bytes before) :
    (statements (statementAt bytes k) body nodes).2.filterMap Event.access? =
      (sites bytes body.nesting body.classLevel before nodes).flatMap (Site.accesses bytes) := by
  -- over the bodies that are entered, and in each of them over its statements
  induction k generalizing nodes body before with
  | zero =>
    cases nodes with
    | nil => rw [statements, sites]; rfl
    | cons n nodes =>
      have := n.depth_pos
      have := hdepth n List.mem_cons_self
      omega
  | succ k ihDepth =>
    induction nodes generalizing body before with
    | nil => rw [statements, sites]; rfl
    | cons n nodes ihNodes =>
      rw [List.forall_mem_cons] at hdepth
      have hfirst : Tells bytes body n (if n.kind = "comment" ∨ n.kind = "empty_statement" then
          (body, []) else statementAt bytes (k + 1) body n) := by
        split
        · exact tells_skipped ‹_›
        · cases hn : n.isEntered with
          | false => exact (statementAt_handled bytes k body hn).tells hn
          | true =>
            have hbody : ∀ c ∈ n.bodyStatements, c.depth ≤ k := fun c hc => by
              have := depth_bodyStatements hc
              omega
            have hinner : (n.inner bytes body).visibility = standing bytes [] :=
              (standing_nil bytes).symm
            refine tells_entered hn ?_
            rw [sitesInside, if_pos hn]
            exact ihDepth hbody hinner
      rw [statements_cons, sites_cons]
      split
      · rfl
      dsimp only
      generalize (if n.kind = "comment" ∨ n.kind = "empty_statement" then (body, [])
        else statementAt bytes (k + 1) body n) = first at hfirst
      have hstanding : first.1.visibility = standing bytes (before ++ [n]) := by
        rw [hfirst.visibility, standing_snoc, hv]
      have hothers := ihNodes hdepth.2 hstanding
      rw [hfirst.nesting, hfirst.classLevel] at hothers
      rw [List.filterMap_append, hfirst.accesses, hothers, List.flatMap_cons,
        List.flatMap_append, List.append_assoc, Site.accesses, hv]

end TypeTags.Outline
