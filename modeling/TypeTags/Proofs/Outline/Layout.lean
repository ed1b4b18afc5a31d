import TypeTags.Outline.Tree

/-!
# How the nodes of a tree lie in a file

The nodes of a syntax tree lie inside their parents, apart from each other and in order. Here is
what follows for the parts of a tree that a walk looks at, and for the offsets in the file that a
cursor moves over.

* `Bytes.Solid`: an offset that is the first on its line to hold something.
* `SyntaxNode.isOrdered`: trees whose nodes lie as said.
* `SyntaxNode.Stands`: a node that is a statement of a body which the walk enters, with its depth.

Results:
* `Bytes.skipLineTail_le`: the cursor never jumps over a solid offset.
* `SyntaxNode.liesIn_bodyStatements`, `SyntaxNode.apart_bodyStatements`: the statements of a body
  lie inside its node, in order.
* `SyntaxNode.lt_bodyEnd`: a statement of a body starts before the body ends.
-/

namespace TypeTags

/-! ## Places in a file -/

namespace Bytes

/-- The bytes before an offset on its line, the nearest first. -/
def lineHead (bytes : Bytes) (offset : Nat) : Bytes :=
  (bytes.take offset).reverse.takeWhile (· != lineFeed)

theorem one_le_lineAt (bytes : Bytes) (offset : Nat) : (1 : Int) ≤ bytes.lineAt offset := by
  unfold lineAt
  omega

/-- The offset holds a byte that is neither white space nor the start of a comment, and nothing but
white space stands before it on its line. -/
structure Solid (bytes : Bytes) (offset : Nat) : Prop where
  holds : ∃ b, bytes[offset]? = some b ∧ isBlank b = false ∧ b ≠ numberSign
  leads : (bytes.lineHead offset).all isBlank = true

theorem Solid.lt {bytes : Bytes} {p : Nat} (h : bytes.Solid p) : p < bytes.length := by
  obtain ⟨b, hb, -⟩ := h.holds
  exact (List.getElem?_eq_some_iff.1 hb).1

theorem min_le_skipLineTail (bytes : Bytes) (offset : Nat) :
    min bytes.length offset ≤ bytes.skipLineTail offset := by
  unfold skipLineTail
  dsimp only
  split <;> omega

/-- The bytes between an offset and a solid one behind it on the same line are white space. -/
theorem Solid.blank_before {bytes : Bytes} {p : Nat} (h : bytes.Solid p) {o : Nat}
    (hline : lineFeed ∉ (bytes.take p).drop o) : ∀ b ∈ (bytes.take p).drop o, isBlank b = true := by
  have hsplit : (bytes.take p).reverse =
      ((bytes.take p).drop o).reverse ++ ((bytes.take p).take o).reverse := by
    rw [← List.reverse_append, List.take_append_drop]
  have hlead := h.leads
  rw [lineHead, hsplit, List.takeWhile_append_of_pos, List.all_append, Bool.and_eq_true] at hlead
  · intro b hb
    exact List.all_eq_true.1 hlead.1 b (List.mem_reverse.2 hb)
  · intro b hb
    simp only [bne_iff_ne, ne_eq]
    rintro rfl
    exact hline (List.mem_reverse.1 hb)

/-- Where the cursor jumps from an offset before a solid one is told by the bytes between them: it
stays unless the line ends there. -/
theorem Solid.skipLineTail_eq {bytes : Bytes} {p o : Nat} (h : bytes.Solid p) (ho : o ≤ p) :
    bytes.skipLineTail o =
      if lineFeed ∈ (bytes.take p).drop o
          ∧ isIdleTail (((bytes.take p).drop o).takeWhile (· != lineFeed)) then
        o + (((bytes.take p).drop o).takeWhile (· != lineFeed)).length
      else o := by
  obtain ⟨b, hb, hblank, hsign⟩ := h.holds
  have hlt := h.lt
  have hmid : ((bytes.take p).drop o).length = p - o := by
    rw [List.length_drop, List.length_take]
    omega
  have hsplit : bytes.drop o = (bytes.take p).drop o ++ b :: bytes.drop (p + 1) := by
    have hget : bytes[p] = b := by simpa [List.getElem?_eq_getElem hlt] using hb
    rw [← hget, ← List.drop_eq_getElem_cons hlt,
      ← List.drop_append_of_le_length (by rw [List.length_take]; omega), List.take_append_drop]
  have hmidBlank := h.blank_before (o := o)
  generalize (bytes.take p).drop o = mid at hmid hsplit hmidBlank
  unfold skipLineTail
  dsimp only
  rw [hsplit]
  by_cases hline : lineFeed ∈ mid
  · -- the line ends before the solid offset
    have hhead := List.takeWhile_prefix (· != lineFeed) (l := mid)
    have hstop : (mid.takeWhile (· != lineFeed)).length ≠ mid.length := by
      intro he
      rw [← hhead.eq_of_length he] at hline
      simpa using List.all_eq_true.1 List.all_takeWhile lineFeed hline
    rw [List.takeWhile_append, if_neg hstop]
    have hle := hhead.length_le
    simp only [hline, true_and]
    split
    · omega
    · rfl
  · -- the rest of the line holds the solid offset, which is no white space
    have hfeed : b ≠ lineFeed := by
      rintro rfl
      simp [isBlank, lineFeed] at hblank
    have hmidLine : ∀ c ∈ mid, (c != lineFeed) = true := by
      intro c hc
      simp only [bne_iff_ne, ne_eq]
      rintro rfl
      exact hline hc
    have hidle : isIdleTail ((mid ++ b :: bytes.drop (p + 1)).takeWhile (· != lineFeed)) =
        false := by
      rw [List.takeWhile_append_of_pos hmidLine,
        List.takeWhile_cons_of_pos (by simpa using hfeed), isIdleTail,
        List.dropWhile_append_of_pos (hmidBlank hline),
        List.dropWhile_cons_of_neg (by simp [hblank])]
      simpa using hsign
    rw [if_neg (by simp [hidle]), if_neg fun hand => hline hand.1]

/-- From an offset before a solid one, the cursor does not get past it. -/
theorem skipLineTail_le {bytes : Bytes} {p o : Nat} (h : bytes.Solid p) (ho : o ≤ p) :
    bytes.skipLineTail o ≤ p := by
  have hle := (List.takeWhile_prefix (· != lineFeed) (l := (bytes.take p).drop o)).length_le
  rw [List.length_drop, List.length_take] at hle
  rw [h.skipLineTail_eq ho]
  split <;> omega

end Bytes

/-! ## Trees -/

namespace SyntaxNode

/-- Whether the node is a class, a module or a singleton class. -/
def hasBody (n : SyntaxNode) : Bool :=
  n.kind == "class" || n.kind == "module" || n.kind == "singleton_class"

/-- The node ends where it starts or later, and its children lie inside it, apart and in order. The
closing keyword has no parts, and what stands in a body stands behind its header. -/
structure LaidOut (n : SyntaxNode) : Prop where
  forward : n.start ≤ n.stop
  inside : ∀ c ∈ n.children, n.start ≤ c.start ∧ c.stop ≤ n.stop
  apart : n.children.Pairwise fun c d => c.stop ≤ d.start
  keyword : n.kind = "end" → n.children = []
  header : n.hasBody = true → ∀ c ∈ n.bodyStatements, c.kind ≠ "comment" → n.headerEnd ≤ c.start

instance (n : SyntaxNode) : Decidable (LaidOut n) :=
  decidable_of_iff (n.start ≤ n.stop ∧ (∀ c ∈ n.children, n.start ≤ c.start ∧ c.stop ≤ n.stop) ∧
      n.children.Pairwise (fun c d => c.stop ≤ d.start) ∧ (n.kind = "end" → n.children = []) ∧
      (n.hasBody = true → ∀ c ∈ n.bodyStatements, c.kind ≠ "comment" → n.headerEnd ≤ c.start))
    ⟨fun ⟨h1, h2, h3, h4, h5⟩ => ⟨h1, h2, h3, h4, h5⟩, fun ⟨h1, h2, h3, h4, h5⟩ =>
      ⟨h1, h2, h3, h4, h5⟩⟩

mutual

/-- Whether every node of the tree is laid out. -/
def isOrdered : SyntaxNode → Bool
  | node kind start stop named field children =>
    decide (LaidOut (node kind start stop named field children)) && allOrdered children

/-- Whether every node of the trees is laid out. -/
def allOrdered : List SyntaxNode → Bool
  | [] => true
  | n :: ns => n.isOrdered && allOrdered ns

end

theorem allOrdered_iff {ns : List SyntaxNode} :
    allOrdered ns = true ↔ ∀ n ∈ ns, n.isOrdered = true := by
  induction ns with
  | nil => simp [allOrdered]
  | cons n ns ih => simp [allOrdered, ih]

theorem isOrdered_iff {n : SyntaxNode} :
    n.isOrdered = true ↔ LaidOut n ∧ ∀ c ∈ n.children, c.isOrdered = true := by
  cases n
  rw [isOrdered, Bool.and_eq_true, decide_eq_true_eq, allOrdered_iff]
  rfl

/-- The node lies inside the other and is ordered. -/
structure LiesIn (c n : SyntaxNode) : Prop where
  start : n.start ≤ c.start
  stop : c.stop ≤ n.stop
  ordered : c.isOrdered = true

theorem LiesIn.trans {a b c : SyntaxNode} (h : LiesIn a b) (k : LiesIn b c) : LiesIn a c :=
  ⟨Nat.le_trans k.start h.start, Nat.le_trans h.stop k.stop, h.ordered⟩

theorem liesIn_child {n c : SyntaxNode} (h : n.isOrdered = true) (hc : c ∈ n.children) :
    LiesIn c n := by
  obtain ⟨hl, hall⟩ := isOrdered_iff.1 h
  exact ⟨(hl.inside c hc).1, (hl.inside c hc).2, hall c hc⟩

theorem mem_children_of_child? {n c : SyntaxNode} {name : String} (h : n.child? name = some c) :
    c ∈ n.children :=
  List.mem_of_find?_eq_some h

theorem liesIn_callArguments {n c : SyntaxNode} (h : n.isOrdered = true)
    (hc : c ∈ n.callArguments) : LiesIn c n := by
  unfold callArguments at hc
  split at hc
  · split at hc
    · rename_i args hargs
      have hin := liesIn_child h (mem_children_of_child? hargs)
      exact (liesIn_child hin.ordered (List.mem_filter.1 hc).1).trans hin
    · cases hc
  · cases hc

/-- The statements of a body are children of a body node, or of the node itself. -/
theorem bodyStatements_eq (n : SyntaxNode) :
    (∃ body ∈ n.children, n.bodyStatements = body.children.filter isNamed) ∨
      ∃ keep : SyntaxNode → Bool, n.bodyStatements = n.children.filter keep := by
  unfold bodyStatements
  split
  · rename_i body hbody
    exact .inl ⟨body, mem_children_of_child? hbody, rfl⟩
  · right
    refine ⟨fun c => decide (c.start ∉ n.headerParts.map start) && c.isNamed, ?_⟩
    rw [namedChildren, List.filter_filter]

theorem liesIn_bodyStatements {n c : SyntaxNode} (h : n.isOrdered = true)
    (hc : c ∈ n.bodyStatements) : LiesIn c n := by
  rcases n.bodyStatements_eq with ⟨body, hbody, he⟩ | ⟨keep, he⟩
  · rw [he] at hc
    have hin := liesIn_child h hbody
    exact (liesIn_child hin.ordered (List.mem_filter.1 hc).1).trans hin
  · rw [he] at hc
    exact liesIn_child h (List.mem_filter.1 hc).1

theorem apart_bodyStatements {n : SyntaxNode} (h : n.isOrdered = true) :
    n.bodyStatements.Pairwise fun c d => c.stop ≤ d.start := by
  rcases n.bodyStatements_eq with ⟨body, hbody, he⟩ | ⟨keep, he⟩
  · rw [he]
    exact (isOrdered_iff.1 (liesIn_child h hbody).ordered).1.apart.filter _
  · rw [he]
    exact (isOrdered_iff.1 h).1.apart.filter _

theorem depth_pos (n : SyntaxNode) : 0 < n.depth := by
  cases n
  rw [depth]
  exact Nat.succ_pos _

theorem depth_child {n c : SyntaxNode} (hc : c ∈ n.children) : c.depth < n.depth := by
  have hall : ∀ ns : List SyntaxNode, c ∈ ns → c.depth ≤ depthAll ns := by
    intro ns
    induction ns with
    | nil => simp
    | cons m ns ih =>
      intro h
      rw [depthAll]
      rcases List.mem_cons.1 h with rfl | h
      · omega
      · have := ih h
        omega
  cases n
  rw [depth]
  exact Nat.lt_succ_of_le (hall _ hc)

theorem depth_bodyStatements {n c : SyntaxNode} (hc : c ∈ n.bodyStatements) :
    c.depth < n.depth := by
  rcases n.bodyStatements_eq with ⟨body, hbody, he⟩ | ⟨keep, he⟩
  · rw [he] at hc
    exact Nat.lt_trans (depth_child (List.mem_filter.1 hc).1) (depth_child hbody)
  · rw [he] at hc
    exact depth_child (List.mem_filter.1 hc).1

theorem start_le_headerEnd (n : SyntaxNode) : n.start ≤ n.headerEnd := by
  have hall : ∀ (parts : List SyntaxNode) (stop : Nat),
      stop ≤ parts.foldl (fun stop part => max stop part.stop) stop := by
    intro parts
    induction parts with
    | nil => exact fun stop => Nat.le_refl _
    | cons part parts ih => exact fun stop => Nat.le_trans (Nat.le_max_left _ _) (ih _)
  exact hall _ _

theorem headerEnd_le_stop {n : SyntaxNode} (h : n.isOrdered = true) : n.headerEnd ≤ n.stop := by
  have hall : ∀ (parts : List SyntaxNode) (stop : Nat), stop ≤ n.stop →
      (∀ part ∈ parts, part.stop ≤ n.stop) →
      parts.foldl (fun stop part => max stop part.stop) stop ≤ n.stop := by
    intro parts
    induction parts with
    | nil => exact fun _ hstop _ => hstop
    | cons part parts ih =>
      intro stop hstop hparts
      rw [List.forall_mem_cons] at hparts
      exact ih _ (Nat.max_le.2 ⟨hstop, hparts.1⟩) hparts.2
  refine hall _ _ (isOrdered_iff.1 h).1.forward fun part hpart => ?_
  obtain ⟨name, -, hname⟩ := List.mem_filterMap.1 hpart
  exact (liesIn_child h (mem_children_of_child? hname)).stop

theorem bodyEnd_le_stop {n : SyntaxNode} (h : n.isOrdered = true) : n.bodyEnd ≤ n.stop := by
  unfold bodyEnd
  split
  · rename_i last hlast
    have hin := liesIn_child h (List.mem_of_getLast? hlast)
    have := (isOrdered_iff.1 hin.ordered).1.forward
    have := hin.stop
    split <;> omega
  · exact Nat.le_refl _

/-- A child that is no closing keyword ends before the body does. -/
theorem stop_le_bodyEnd {n c : SyntaxNode} (h : n.isOrdered = true) (hc : c ∈ n.children)
    (hk : c.kind ≠ "end") : c.stop ≤ n.bodyEnd := by
  unfold bodyEnd
  split
  · rename_i last hlast
    split
    · rename_i hend
      -- the last child is the keyword, and the other ones end before it starts
      obtain ⟨front, hfront⟩ := List.getLast?_eq_some_iff.1 hlast
      have hmem : c ∈ front := by
        rw [hfront, List.mem_append, List.mem_singleton] at hc
        rcases hc with hc | rfl
        · exact hc
        · exact absurd hend hk
      have hapart := (isOrdered_iff.1 h).1.apart
      rw [hfront, List.pairwise_append] at hapart
      exact hapart.2.2 c hmem last (List.mem_singleton.2 rfl)
    · exact (liesIn_child h hc).stop
  · exact (liesIn_child h hc).stop

theorem lt_bodyEnd {n c : SyntaxNode} (h : n.isOrdered = true) (hc : c ∈ n.bodyStatements)
    (hk : c.kind ≠ "end") (hpos : c.start < c.stop) : c.start < n.bodyEnd := by
  rcases n.bodyStatements_eq with ⟨body, hbody, he⟩ | ⟨keep, he⟩
  · rw [he] at hc
    have hin := liesIn_child h hbody
    have hmem := (List.mem_filter.1 hc).1
    -- a closing keyword has no parts, so the body node is none
    have hkind : body.kind ≠ "end" := by
      intro e
      rw [(isOrdered_iff.1 hin.ordered).1.keyword e] at hmem
      cases hmem
    have := stop_le_bodyEnd h hbody hkind
    have := (liesIn_child hin.ordered hmem).stop
    omega
  · rw [he] at hc
    have := stop_le_bodyEnd h (List.mem_filter.1 hc).1 hk
    omega

/-- Whether a walk enters the body of the node: that of a class or module needs a name. -/
def isEntered (n : SyntaxNode) : Bool :=
  ((n.kind == "class" || n.kind == "module") && (n.child? "name").isSome)
    || n.kind == "singleton_class"

theorem hasBody_of_isEntered {n : SyntaxNode} (h : n.isEntered = true) : n.hasBody = true := by
  simp only [isEntered, SyntaxNode.hasBody, Bool.or_eq_true, Bool.and_eq_true] at h ⊢
  rcases h with ⟨h, -⟩ | h
  · exact .inl h
  · exact .inr h

/-- The node is a statement of the list, or, `ℓ` bodies deeper, of a body that the walk enters. The
data at the end of a file is no statement, and neither is what follows it. -/
inductive Stands (call : SyntaxNode) : Nat → List SyntaxNode → Prop where
  | here {before after : List SyntaxNode} (h : ∀ n ∈ before, n.kind ≠ "uninterpreted") :
      Stands call 0 (before ++ call :: after)
  | inside {before after : List SyntaxNode} {n : SyntaxNode} {ℓ : Nat}
      (h : ∀ n ∈ before, n.kind ≠ "uninterpreted") (hn : n.isEntered = true)
      (hs : Stands call ℓ n.bodyStatements) : Stands call (ℓ + 1) (before ++ n :: after)

theorem Stands.mem {call : SyntaxNode} {ℓ : Nat} {nodes : List SyntaxNode}
    (h : Stands call ℓ nodes) (hzero : ℓ = 0) : call ∈ nodes := by
  cases h with
  | here h => simp
  | inside h hn hs => cases hzero

theorem Stands.isOrdered {call : SyntaxNode} {ℓ : Nat} {nodes : List SyntaxNode}
    (h : Stands call ℓ nodes) : (∀ n ∈ nodes, n.isOrdered = true) → call.isOrdered = true := by
  induction h with
  | here h => exact fun ho => ho call (by simp)
  | @inside before after n ℓ h hn hs ih =>
    exact fun ho => ih fun c hc => (liesIn_bodyStatements (ho n (by simp)) hc).ordered

/-- A statement of a list of ordered nodes stands in one of them that is no comment. -/
theorem Stands.exists_mem {call : SyntaxNode} {ℓ : Nat} {nodes : List SyntaxNode}
    (h : Stands call ℓ nodes) (hcall : call.kind ≠ "comment") :
    (∀ n ∈ nodes, n.isOrdered = true) →
      ∃ n ∈ nodes, n.kind ≠ "comment" ∧ n.start ≤ call.start ∧ call.stop ≤ n.stop := by
  induction h with
  | here h => exact fun _ => ⟨call, by simp, hcall, Nat.le_refl _, Nat.le_refl _⟩
  | @inside before after n ℓ h hn hs ih =>
    intro ho
    have hno : n.isOrdered = true := ho n (by simp)
    obtain ⟨c, hc, -, hstart, hstop⟩ := ih fun c hc => (liesIn_bodyStatements hno hc).ordered
    have hin := liesIn_bodyStatements hno hc
    refine ⟨n, by simp, ?_, Nat.le_trans hin.start hstart, Nat.le_trans hstop hin.stop⟩
    intro e
    simp [isEntered, e] at hn

end SyntaxNode

end TypeTags
