import TypeTags.Proofs.Outline.Calls
import TypeTags.Proofs.Outline.Layout

/-!
# What a walk makes of a statement

A statement that has no body of its own is a method, an accessor directive, a visibility keyword
with what it wraps or names, a signature call, or something else. For each of them, a walk gives one
event or two, or none, and goes on behind the statement or behind what it wraps.

* `SyntaxNode.wrapped?`, `SyntaxNode.switch?`: the member that a visibility keyword wraps, and a
  keyword without arguments.
* `SyntaxNode.accesses`: the declared members and the named ones, each with a visibility.
* `SyntaxNode.passed?`: the offset behind which the walk goes on.
* `Handled`: what the walk over a statement may give.

Results:
* `statementAt_handled`: a statement is handled as said.
* `statementAt_entered`: a class, module or singleton class is entered.
-/

namespace TypeTags

namespace Outline

/-- What an outline says of who may call members. -/
inductive Access where
  /-- A method or an accessor directive at a stretch of the file. -/
  | member (own : Stretch) (visibility : Visibility)
  /-- Members of a namespace that are named. -/
  | named (nesting names : List String) (visibility : Visibility) (classLevel : Bool)
  deriving DecidableEq, Repr

/-- What an event says of who may call members. -/
def Event.access? : Event → Option Access
  | declare _ item =>
    if item.kind.isNamespace then none else some (.member item.own item.visibility)
  | setVisibility nesting names visibility classLevel =>
    some (.named nesting names visibility classLevel)
  | text _ | openScope | closeScope _ => none

end Outline

namespace SyntaxNode

open Outline (accessorMode? Access)

def isMethod (n : SyntaxNode) : Bool := n.kind == "method" || n.kind == "singleton_method"

/-- Whether the node is a method or an accessor directive. -/
def isMember (n : SyntaxNode) (bytes : Bytes) : Bool :=
  n.isMethod || n.isDirective bytes

/-- Whether the node is a method with a name or an accessor directive with names. -/
def declares (n : SyntaxNode) (bytes : Bytes) : Bool :=
  (n.isMethod && (n.child? "name").isSome)
    || (n.isDirective bytes && !(n.givenNames bytes).isEmpty)

/-- The method or accessor directive that is the only argument of a call. -/
def wrapped? (n : SyntaxNode) (bytes : Bytes) : Option SyntaxNode :=
  match n.given with
  | [m] => if m.isMember bytes then some m else none
  | _ => none

/-- The visibility keyword that the node calls without arguments. -/
def switch? (n : SyntaxNode) (bytes : Bytes) : Option Visibility :=
  if n.given = [] then n.keyword? bytes else none

/-- What a statement says of who may call members, in a body where `standing` holds for what has no
keyword of its own. -/
def accesses (n : SyntaxNode) (bytes : Bytes) (nesting : List String) (classLevel : Bool)
    (standing : Visibility) : List Access :=
  match n.keyword? bytes with
  | none => if n.declares bytes then [.member n.stretch standing] else []
  | some v =>
    match n.wrapped? bytes with
    | some m => if m.declares bytes then [.member m.stretch v] else []
    | none =>
      if n.given = [] then [] else [.named nesting (n.givenNames bytes) v classLevel]

/-- The offset behind which a walk goes on after a statement: the end of the statement, or of the
member that a visibility keyword wraps. A signature call and a method without a name are left to
what follows. -/
def passed? (n : SyntaxNode) (bytes : Bytes) : Option Nat :=
  let m := if (n.keyword? bytes).isSome then (n.wrapped? bytes).getD n else n
  if (m.isMethod && (m.child? "name").isNone) || n.calls bytes "sig" then none
  else some m.stop

/-- The namespaces that enclose what stands in the body of the node. -/
def scope (n : SyntaxNode) (bytes : Bytes) (nesting : List String) : List String :=
  if n.kind = "singleton_class" then nesting
  else match n.child? "name" with
    | some name => Path.nested nesting (name.text bytes)
    | none => nesting

/-- Where a walk starts in the body of the node. -/
def inner (n : SyntaxNode) (bytes : Bytes) (body : Outline.Body) : Outline.Body :=
  { nesting := n.scope bytes body.nesting
    classLevel := n.kind == "singleton_class"
    cursor := bytes.skipLineTail n.headerEnd }

end SyntaxNode

namespace Outline

open SyntaxNode

/-- What the walk over a statement without a body of its own may give: nothing; the source up to the
statement, and after it a visibility that stands from then on, or one for members that are named; or
the declaration of a member, which the statement is or wraps. -/
inductive Handled (bytes : Bytes) (body : Body) (n : SyntaxNode) : Body × List Event → Prop where
  | silent (ha : n.accesses bytes body.nesting body.classLevel body.visibility = [])
      (hs : n.switch? bytes = none) (hp : n.passed? bytes = none) : Handled bytes body n (body, [])
  | fed {m : SyntaxNode} (hm : m = n ∨ m ∈ n.callArguments)
      (ha : n.accesses bytes body.nesting body.classLevel body.visibility = [])
      (hs : n.switch? bytes = none) (hp : n.passed? bytes = some m.stop) :
      Handled bytes body n (body.past bytes m.stop, [.text ⟨body.cursor, m.start⟩])
  | switched {v : Visibility}
      (ha : n.accesses bytes body.nesting body.classLevel body.visibility = [])
      (hs : n.switch? bytes = some v) (hp : n.passed? bytes = some n.stop) :
      Handled bytes body n
        ({ body.past bytes n.stop with visibility := v }, [.text ⟨body.cursor, n.start⟩])
  | named {names : List String} {v : Visibility}
      (ha : n.accesses bytes body.nesting body.classLevel body.visibility =
        [.named body.nesting names v body.classLevel])
      (hs : n.switch? bytes = none) (hp : n.passed? bytes = some n.stop) :
      Handled bytes body n (body.past bytes n.stop,
        [.text ⟨body.cursor, n.start⟩, .setVisibility body.nesting names v body.classLevel])
  | declared {m : SyntaxNode} {item : Item} (hm : m = n ∨ m ∈ n.callArguments)
      (hkind : item.kind.isNamespace = false) (hown : item.own = m.stretch)
      (ha : n.accesses bytes body.nesting body.classLevel body.visibility =
        [.member item.own item.visibility])
      (hs : n.switch? bytes = none) (hp : n.passed? bytes = some m.stop) :
      Handled bytes body n
        (body.past bytes (max m.stop n.start), [.declare ⟨body.cursor, n.start⟩ item])

section Statement

variable {bytes : Bytes} {body : Body} {n : SyntaxNode}

/-! ## Statements as a walker sees them -/

theorem declares_eq : n.declares bytes = (n.isMethod && (n.child? "name").isSome
    || ((accessorMode? bytes n).isSome && !(n.argumentNames bytes).isEmpty)) := by
  rw [declares, isDirective_eq, givenNames_eq]

theorem wrapped?_eq : n.wrapped? bytes =
    match n.callArguments with
    | [m] => if m.isMethod || (accessorMode? bytes m).isSome then some m else none
    | _ => none := by
  simp only [wrapped?, given_eq, isMember, isDirective_eq]

theorem switch?_eq : n.switch? bytes =
    if n.callArguments = [] then n.keyword? bytes else none := by
  rw [switch?, given_eq]

theorem accesses_eq (nesting : List String) (classLevel : Bool) (standing : Visibility) :
    n.accesses bytes nesting classLevel standing =
      match n.keyword? bytes with
      | none => if n.declares bytes then [.member n.stretch standing] else []
      | some v =>
        match n.wrapped? bytes with
        | some m => if m.declares bytes then [.member m.stretch v] else []
        | none =>
          if n.callArguments = [] then []
          else [.named nesting (n.argumentNames bytes) v classLevel] := by
  rw [accesses, given_eq, givenNames_eq]

theorem passed?_eq : n.passed? bytes =
    let m := if (n.keyword? bytes).isSome then (n.wrapped? bytes).getD n else n
    if (m.isMethod && (m.child? "name").isNone) || n.callName? bytes == some "sig" then none
    else some m.stop := by
  rw [passed?, calls_eq]

/-! ## The walk over a statement -/

/-- An accessor directive is no visibility keyword. -/
theorem lookup_accessorDirectives {name : String} {mode : AccessorMode}
    (h : accessorDirectives.lookup name = some mode) : Visibility.names.lookup name = none := by
  have hname : name = "attr_reader" ∨ name = "attr_writer" ∨ name = "attr_accessor" := by
    refine Decidable.byContradiction fun hnone => ?_
    simp only [not_or, ← beq_eq_false_iff_ne] at hnone
    obtain ⟨hreader, hwriter, haccessor⟩ := hnone
    rw [accessorDirectives, List.lookup_cons, hreader, List.lookup_cons, hwriter, List.lookup_cons,
      haccessor] at h
    cases h
  rcases hname with rfl | rfl | rfl <;> rfl

/-- Only an identifier and a call have a name to call. -/
theorem callName?_of_kind (h : n.kind ∉ ["identifier", "call", "method_call"]) :
    n.callName? bytes = none := by
  simp only [List.mem_cons, List.not_mem_nil, or_false, not_or] at h
  simp [callName?, isCall, h]

theorem callName?_of_isMethod (h : n.isMethod = true) : n.callName? bytes = none := by
  apply callName?_of_kind
  simp only [isMethod, Bool.or_eq_true, beq_iff_eq] at h
  rcases h with e | e <;> simp [e]

theorem keyword?_of_callName? {name : String} (h : n.callName? bytes = some name) :
    n.keyword? bytes = Visibility.names.lookup name := by
  rw [keyword?_eq, h, Option.bind_some]

theorem accessorMode?_of_callName? {name : String} (h : n.callName? bytes = some name) :
    accessorMode? bytes n = accessorDirectives.lookup name := by
  rw [accessorMode?, h, Option.bind_some]

/-- A method, in a statement that is it or wraps it. -/
theorem handled_method {m : SyntaxNode} {v : Visibility} (hm : m = n ∨ m ∈ n.callArguments)
    (hkind : m.isMethod = true)
    (ha : n.accesses bytes body.nesting body.classLevel body.visibility =
      if m.declares bytes then [.member m.stretch v] else [])
    (hs : n.switch? bytes = none)
    (hp : n.passed? bytes = if (m.child? "name").isNone then none else some m.stop) :
    Handled bytes body n (method bytes body v n.start m) := by
  have hmode : accessorMode? bytes m = none := by
    rw [accessorMode?, callName?_of_isMethod hkind, Option.bind_none]
  cases hname : m.child? "name" with
  | none =>
    simp only [hname, Option.isNone_none, if_true] at hp
    simp only [declares_eq, hkind, hname, hmode, Option.isSome_none, Bool.and_false, Bool.or_false,
      Bool.false_and, Bool.false_eq_true, if_false] at ha
    rw [method, hname]
    exact .silent ha hs hp
  | some name =>
    simp only [hname, Option.isNone_some, Bool.false_eq_true, if_false] at hp
    simp only [declares_eq, hkind, hname, Option.isSome_some, Bool.and_self, Bool.true_or,
      if_true] at ha
    rw [method, hname]
    refine .declared hm ?_ rfl ha hs hp
    dsimp only
    split <;> rfl

/-- An accessor directive, in a statement that is it or wraps it. -/
theorem handled_accessors {m : SyntaxNode} {v : Visibility} {mode : AccessorMode}
    (hm : m = n ∨ m ∈ n.callArguments) (hmode : accessorMode? bytes m = some mode)
    (hkind : m.isMethod = false)
    (ha : n.accesses bytes body.nesting body.classLevel body.visibility =
      if m.declares bytes then [.member m.stretch v] else [])
    (hs : n.switch? bytes = none) (hp : n.passed? bytes = some m.stop) :
    Handled bytes body n (accessors bytes body v n.start mode m) := by
  simp only [declares_eq, hkind, hmode, Bool.false_and, Bool.false_or, Option.isSome_some,
    Bool.true_and] at ha
  unfold accessors
  split
  · rename_i hnames
    simp only [hnames, List.isEmpty_nil, Bool.not_true, Bool.false_eq_true, if_false] at ha
    exact .fed hm ha hs hp
  · rename_i hnames
    simp only [hnames, List.isEmpty_cons, Bool.not_false, if_true] at ha
    exact .declared hm rfl rfl ha hs hp

/-- A visibility keyword with arguments: it wraps a member, or the members that its arguments name
get the visibility. -/
theorem handled_visibilityCall {v : Visibility} (hv : n.keyword? bytes = some v)
    (hsig : n.callName? bytes ≠ some "sig") (hargs : n.callArguments ≠ []) :
    Handled bytes body n (visibilityCall bytes body v n n.callArguments) := by
  have hs : n.switch? bytes = none := by rw [switch?_eq, if_neg hargs]
  have hmethod : n.isMethod = false := by
    cases h : n.isMethod with
    | false => rfl
    | true => simp [keyword?_eq, callName?_of_isMethod h] at hv
  have hnamed (hw : n.wrapped? bytes = none) :
      Handled bytes body n (body.past bytes n.stop, [.text ⟨body.cursor, n.start⟩,
        .setVisibility body.nesting (n.argumentNames bytes) v body.classLevel]) := by
    refine .named ?_ hs ?_
    · simp only [accesses_eq, hv, hw, hargs, if_false]
    · simp [passed?_eq, hv, hw, hmethod, hsig]
  unfold visibilityCall
  dsimp only
  split
  · rename_i m hm
    have hmem : m ∈ n.callArguments := by simp [hm]
    split
    · rename_i hkind
      have hkind : m.isMethod = true := by simpa [isMethod] using hkind
      have hw : n.wrapped? bytes = some m := by simp [wrapped?_eq, hm, hkind]
      refine handled_method (.inr hmem) hkind ?_ hs ?_
      · simp only [accesses_eq, hv, hw]
      · simp [passed?_eq, hv, hw, hkind, hsig]
    · rename_i hkind
      have hkind : m.isMethod = false := by simpa [isMethod] using hkind
      split
      · rename_i mode hmode
        have hw : n.wrapped? bytes = some m := by simp [wrapped?_eq, hm, hmode]
        refine handled_accessors (.inr hmem) hmode hkind ?_ hs ?_
        · simp only [accesses_eq, hv, hw]
        · simp [passed?_eq, hv, hw, hkind, hsig]
      · rename_i hmode
        exact hnamed (by simp [wrapped?_eq, hm, hkind, hmode])
  · rename_i hone
    exact hnamed (by
      rw [wrapped?_eq]
      split
      · rename_i m hm
        exact absurd hm (hone m)
      · rfl)

/-- A statement that is not a method and says nothing of visibility. -/
theorem handled_feed (hmethod : n.isMethod = false) (hmode : accessorMode? bytes n = none)
    (hv : n.keyword? bytes = none) (hsig : n.callName? bytes ≠ some "sig") :
    Handled bytes body n (feed bytes body n) := by
  refine .fed (.inl rfl) ?_ ?_ ?_
  · simp [accesses_eq, hv, declares_eq, hmethod, hmode]
  · simp [switch?_eq, hv]
  · simp [passed?_eq, hv, hmethod, hsig]

theorem handled_call (hmethod : n.isMethod = false) :
    Handled bytes body n (call bytes body n) := by
  unfold call
  dsimp only
  split
  · rename_i hname
    have hv : n.keyword? bytes = none := keyword?_of_callName? hname
    have hmode : accessorMode? bytes n = none := accessorMode?_of_callName? hname
    refine .silent ?_ ?_ ?_
    · simp [accesses_eq, hv, declares_eq, hmethod, hmode]
    · simp [switch?_eq, hv]
    · simp [passed?_eq, hname]
  · rename_i hsig
    split
    · rename_i mode hmode
      have hv : n.keyword? bytes = none := by
        obtain ⟨name, hname, hlookup⟩ := Option.bind_eq_some_iff.1 hmode
        rw [keyword?_of_callName? hname, lookup_accessorDirectives hlookup]
      refine handled_accessors (.inl rfl) hmode hmethod ?_ ?_ ?_
      · simp only [accesses_eq, hv]
      · simp [switch?_eq, hv]
      · simp [passed?_eq, hv, hmethod, hsig]
    · rename_i hmode
      split
      · rename_i v hv
        rw [← keyword?_eq] at hv
        split
        · rename_i hargs
          refine .switched ?_ ?_ ?_
          · simp [accesses_eq, hv, wrapped?_eq, hargs]
          · simp [switch?_eq, hv, hargs]
          · simp [passed?_eq, hv, wrapped?_eq, hargs, hmethod, hsig]
        · rename_i hargs
          exact handled_visibilityCall hv hsig hargs
      · rename_i hv
        rw [← keyword?_eq] at hv
        exact handled_feed hmethod hmode hv hsig

end Statement

/-- **Statements.** What the walk over a statement without a body gives. -/
theorem statementAt_handled (bytes : Bytes) (k : Nat) (body : Body) {n : SyntaxNode}
    (h : n.isEntered = false) : Handled bytes body n (statementAt bytes (k + 1) body n) := by
  simp only [isEntered, Bool.or_eq_false_iff, Bool.and_eq_false_iff, beq_eq_false_iff_ne] at h
  rw [statementAt]
  split
  · rename_i hkind
    have hname : n.child? "name" = none := by
      have hkind' : ¬ (n.kind ≠ "class" ∧ n.kind ≠ "module") := by
        rcases hkind with e | e <;> simp [e]
      rcases h.1 with h | h
      · exact absurd h hkind'
      · simpa using h
    have hcall : n.callName? bytes = none := by
      apply callName?_of_kind
      rcases hkind with e | e <;> simp [e]
    rw [namespaceBody, hname]
    refine handled_feed ?_ ?_ ?_ ?_
    · rcases hkind with e | e <;> simp [isMethod, e]
    · rw [accessorMode?, hcall, Option.bind_none]
    · rw [keyword?_eq, hcall, Option.bind_none]
    · simp [hcall]
  · rw [if_neg h.2]
    split
    · rename_i hkind
      have hmethod : n.isMethod = true := by simpa [isMethod] using hkind
      have hcall : n.callName? bytes = none := callName?_of_isMethod hmethod
      have hv : n.keyword? bytes = none := by rw [keyword?_eq, hcall, Option.bind_none]
      refine handled_method (.inl rfl) hmethod ?_ ?_ ?_
      · simp only [accesses_eq, hv]
      · simp [switch?_eq, hv]
      · simp [passed?_eq, hv, hmethod, hcall]
    · rename_i hkind
      exact handled_call (by simpa [isMethod] using hkind)

/-! ## Lists of statements -/

section List

variable {statement : Body → SyntaxNode → Body × List Event}

theorem statements_cons (body : Body) (n : SyntaxNode) (nodes : List SyntaxNode) :
    statements statement body (n :: nodes) =
      if n.kind = "uninterpreted" then (body, [])
      else
        let first := if n.kind = "comment" ∨ n.kind = "empty_statement" then (body, [])
          else statement body n
        let others := statements statement first.1 nodes
        (others.1, first.2 ++ others.2) := by
  rw [statements]
  split
  · rfl
  · split <;> simp

theorem statements_append {before : List SyntaxNode}
    (h : ∀ n ∈ before, n.kind ≠ "uninterpreted") (after : List SyntaxNode) (body : Body) :
    statements statement body (before ++ after) =
      ((statements statement (statements statement body before).1 after).1,
        (statements statement body before).2 ++
          (statements statement (statements statement body before).1 after).2) := by
  induction before generalizing body with
  | nil => rfl
  | cons n before ih =>
    have ih := ih fun m hm => h m (List.mem_cons_of_mem _ hm)
    rw [List.cons_append, statements, statements, if_neg (h n List.mem_cons_self),
      if_neg (h n List.mem_cons_self)]
    split
    · exact ih body
    · simp only [ih, List.append_assoc]

end List

/-! ## Bodies -/

/-- What leads up to a body: the source before it, or the declaration of a namespace. -/
inductive Opening (before own : Stretch) : Event → Prop where
  | text : Opening before own (.text before)
  | declare {item : Item} (h : item.kind.isNamespace = true) (hown : item.own = own) :
      Opening before own (.declare before item)

theorem Opening.access?_eq {before own : Stretch} {e : Event} (h : Opening before own e) :
    e.access? = none := by
  cases h with
  | text => rfl
  | declare h hown => rw [Event.access?, if_pos h]

/-- A class, module or singleton class leaves the body around it as it is, but for the cursor. -/
theorem statementAt_entered (bytes : Bytes) (k : Nat) (body : Body) {n : SyntaxNode}
    (h : n.isEntered = true) : ∃ e, Opening ⟨body.cursor, n.start⟩ n.stretch e ∧
      statementAt bytes (k + 1) body n =
        (body.past bytes n.stop, e :: bodyOf (statementAt bytes k) (n.inner bytes body) n) := by
  simp only [isEntered, Bool.or_eq_true, Bool.and_eq_true, beq_iff_eq, Option.isSome_iff_exists]
    at h
  rw [statementAt]
  rcases h with ⟨hk, name, hname⟩ | hk
  · have hscope : n.inner bytes body =
        { nesting := Path.nested body.nesting (name.text bytes), classLevel := false,
          cursor := bytes.skipLineTail n.headerEnd } := by
      rcases hk with e | e <;> simp [SyntaxNode.inner, scope, e, hname]
    rw [if_pos hk, namespaceBody, hname, hscope]
    refine ⟨_, .declare ?_ rfl, rfl⟩
    dsimp only
    split <;> rfl
  · have hk' : ¬ (n.kind = "class" ∨ n.kind = "module") := by simp [hk]
    rw [if_neg hk', if_pos hk]
    exact ⟨_, .text, by simp [singletonBody, feed, SyntaxNode.inner, scope, hk]⟩

/-- A node that is neither a call nor a method says nothing of who may call members. -/
theorem silent_of_kind {bytes : Bytes} {n : SyntaxNode}
    (h : n.kind ∉ ["identifier", "call", "method_call", "method", "singleton_method"]) :
    (∀ nesting classLevel standing, n.accesses bytes nesting classLevel standing = []) ∧
      n.switch? bytes = none ∧ n.passed? bytes = some n.stop := by
  simp only [List.mem_cons, List.not_mem_nil, or_false, not_or] at h
  have hcall : n.callName? bytes = none := callName?_of_kind (by simp [h])
  have hv : n.keyword? bytes = none := by rw [keyword?_eq, hcall, Option.bind_none]
  have hmode : accessorMode? bytes n = none := by rw [accessorMode?, hcall, Option.bind_none]
  refine ⟨fun nesting classLevel standing => ?_, ?_, ?_⟩
  · simp [accesses_eq, hv, declares_eq, isMethod, hmode, h]
  · simp [switch?_eq, hv]
  · simp [passed?_eq, hv, isMethod, hcall, h]

theorem silent_of_isEntered {bytes : Bytes} {n : SyntaxNode} (h : n.isEntered = true) :
    (∀ nesting classLevel standing, n.accesses bytes nesting classLevel standing = []) ∧
      n.switch? bytes = none ∧ n.passed? bytes = some n.stop := by
  apply silent_of_kind
  simp only [isEntered, Bool.or_eq_true, Bool.and_eq_true, beq_iff_eq] at h
  rcases h with ⟨e | e, -⟩ | e <;> simp [e]

end Outline

end TypeTags
