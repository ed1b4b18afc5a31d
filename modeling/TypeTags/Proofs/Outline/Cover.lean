import TypeTags.Proofs.Outline.Statements

/-!
# Which stretch an offset is handed over in

A walk hands over the source in stretches, from a cursor to the next construct. A call that declares
nothing is passed over in silence and left to the stretch that ends at the construct behind it. Here
such a place is followed through a walk: constructs that end before it do not hand it over, the next
event in its own body does, and everything behind that starts past it.

Results:
* `statementAt_passes`: what the walk over one statement hands over.
* `statements_before`, `statements_pending`, `statements_after`: the statements before a place and
  behind it.
* `statements_cover`: in the walk over a body, one event at most covers the place.
* `walk_covers`: in the walk over a file, exactly one event does, at the depth of its body.
-/

namespace TypeTags.Outline

open SyntaxNode

/-! ## Events and the offsets they cover -/

/-- The stretch of source that the event hands over. -/
def Event.before? : Event → Option Stretch
  | text before => some before
  | openScope => none
  | closeScope before => some before
  | declare before _ => some before
  | setVisibility _ _ _ _ => none

/-- The event hands over the byte at an offset. -/
def Event.Covers (e : Event) (p : Nat) : Prop :=
  ∃ s, e.before? = some s ∧ s.start ≤ p ∧ p < s.stop

/-- None of the events hands over the byte at an offset. -/
def Quiet (p : Nat) (events : List Event) : Prop := ∀ e ∈ events, ¬ e.Covers p

/-- How many bodies are open after the event, if `depth` were before. -/
def Event.deepen (depth : Nat) : Event → Nat
  | openScope => depth + 1
  | closeScope _ => depth - 1
  | text _ => depth
  | declare _ _ => depth
  | setVisibility _ _ _ _ => depth

/-- The events leave as many bodies as they open. -/
def Level (events : List Event) : Prop := ∀ depth, events.foldl Event.deepen depth = depth

theorem Quiet.nil (p : Nat) : Quiet p [] := fun _ he => absurd he List.not_mem_nil

theorem Quiet.append {p : Nat} {first second : List Event} (h : Quiet p first)
    (k : Quiet p second) : Quiet p (first ++ second) := by
  intro e he
  rcases List.mem_append.1 he with he | he
  · exact h e he
  · exact k e he

/-- Events whose stretches are before an offset, or behind it, do not hand it over. -/
theorem Quiet.of_apart {p : Nat} {events : List Event}
    (h : ∀ e ∈ events, ∀ s, e.before? = some s → s.stop ≤ p ∨ p < s.start) : Quiet p events := by
  rintro e he ⟨s, hs, hstart, hstop⟩
  have := h e he s hs
  omega

theorem Quiet.single {p : Nat} {e : Event}
    (h : ∀ s, e.before? = some s → s.stop ≤ p ∨ p < s.start) : Quiet p [e] :=
  .of_apart fun _ he => List.mem_singleton.1 he ▸ h

theorem Opening.before?_eq {before own : Stretch} {e : Event} (h : Opening before own e) :
    e.before? = some before := by
  cases h <;> rfl

theorem Opening.level {before own : Stretch} {e : Event} (h : Opening before own e) : Level [e] := by
  cases h <;> exact fun _ => rfl

theorem Level.append {first second : List Event} (h : Level first) (k : Level second) :
    Level (first ++ second) := by
  intro depth
  rw [List.foldl_append, h, k]

/-- What the walk over a statement gives: nothing at all; or first the source up to the statement,
or up to some place in it, then stretches inside the statement, and the cursor moves behind it. -/
inductive Passes (bytes : Bytes) (body : Body) (n : SyntaxNode) : Body × List Event → Prop where
  | silent : Passes bytes body n (body, [])
  | emits {body' : Body} {e : Event} {rest : List Event} {reach past : Nat}
      (he : e.before? = some ⟨body.cursor, reach⟩) (hreach : n.start ≤ reach ∧ reach ≤ n.stop)
      (hrest : ∀ x ∈ rest, ∀ s, x.before? = some s →
        min bytes.length n.start ≤ s.start ∧ (s.stop ≤ n.stop ∨ s.stop ≤ s.start))
      (hcursor : body'.cursor = bytes.skipLineTail past) (hpast : n.start ≤ past ∧ past ≤ n.stop)
      (hlevel : Level (e :: rest)) : Passes bytes body n (body', e :: rest)

section Statements

variable {bytes : Bytes} {statement : Body → SyntaxNode → Body × List Event}

/-- Statements whose stretches stay inside bounds, walked from a cursor behind the lower one. -/
theorem statements_within {nodes : List SyntaxNode} (lo hi : Nat)
    (hst : ∀ body, ∀ n ∈ nodes, Passes bytes body n (statement body n))
    (hnodes : ∀ n ∈ nodes, lo ≤ n.start ∧ n.stop ≤ hi) (hlo : lo ≤ bytes.length) (body : Body)
    (hbody : lo ≤ body.cursor) :
    (∀ e ∈ (statements statement body nodes).2, ∀ s, e.before? = some s →
      lo ≤ s.start ∧ (s.stop ≤ hi ∨ s.stop ≤ s.start)) ∧
      lo ≤ (statements statement body nodes).1.cursor ∧
      Level (statements statement body nodes).2 := by
  induction nodes generalizing body with
  | nil => simp [statements, hbody, Level]
  | cons n nodes ih =>
    have ih := ih (fun body m hm => hst body m (List.mem_cons_of_mem _ hm))
      fun m hm => hnodes m (List.mem_cons_of_mem _ hm)
    rw [statements_cons]
    split
    · simp [hbody, Level]
    dsimp only
    have hpass : Passes bytes body n
        (if n.kind = "comment" ∨ n.kind = "empty_statement" then (body, [])
          else statement body n) := by
      split
      · exact .silent
      · exact hst body n List.mem_cons_self
    obtain ⟨hstart, hstop⟩ := hnodes n List.mem_cons_self
    generalize (if n.kind = "comment" ∨ n.kind = "empty_statement" then (body, [])
      else statement body n) = first at hpass
    cases hpass with
    | silent => exact ih body hbody
    | @emits body' e rest reach past he hreach hrest hcursor hpast hlevel =>
      have hskip := bytes.min_le_skipLineTail past
      obtain ⟨hin, hend, hlev⟩ := ih body' (by rw [hcursor]; omega)
      refine ⟨?_, hend, hlevel.append hlev⟩
      intro x hx s hs
      rcases List.mem_append.1 hx with hx | hx
      · rcases List.mem_cons.1 hx with rfl | hx
        · obtain rfl : (⟨body.cursor, reach⟩ : Stretch) = s := by simpa [he] using hs
          exact ⟨hbody, .inl (by dsimp only; omega)⟩
        · have := hrest x hx s hs
          omega
      · exact hin x hx s hs

end Statements

/-! ## Single statements -/

section Statement

variable {bytes : Bytes} {body : Body} {n : SyntaxNode}

/-- One event that hands over the source up to the statement, or up to some place in it. -/
theorem passes_one {body' : Body} {e : Event} {reach past : Nat}
    (he : e.before? = some ⟨body.cursor, reach⟩) (hreach : n.start ≤ reach ∧ reach ≤ n.stop)
    (hcursor : body'.cursor = bytes.skipLineTail past) (hpast : n.start ≤ past ∧ past ≤ n.stop)
    (hlevel : Level [e]) : Passes bytes body n (body', [e]) :=
  .emits he hreach (fun _ hx => absurd hx List.not_mem_nil) hcursor hpast hlevel

theorem passes_feed {m : SyntaxNode} (hm : LiesIn m n) :
    Passes bytes body n (feed bytes body m) := by
  have hle := (isOrdered_iff.1 hm.ordered).1.forward
  have hstart := hm.start
  have hstop := hm.stop
  exact passes_one rfl ⟨hstart, by omega⟩ rfl ⟨by omega, hstop⟩ fun _ => rfl

theorem passes_method (h : n.isOrdered = true) {m : SyntaxNode} (hm : LiesIn m n)
    (visibility : Visibility) :
    Passes bytes body n (method bytes body visibility n.start m) := by
  have hn := (isOrdered_iff.1 h).1.forward
  have hstop := hm.stop
  unfold method
  split
  · exact .silent
  · exact passes_one rfl ⟨Nat.le_refl _, hn⟩ rfl ⟨by omega, by omega⟩ fun _ => rfl

theorem passes_accessors (h : n.isOrdered = true) {m : SyntaxNode} (hm : LiesIn m n)
    (visibility : Visibility) (mode : AccessorMode) :
    Passes bytes body n (accessors bytes body visibility n.start mode m) := by
  have hn := (isOrdered_iff.1 h).1.forward
  have hstop := hm.stop
  unfold accessors
  split
  · exact passes_feed hm
  · exact passes_one rfl ⟨Nat.le_refl _, hn⟩ rfl ⟨by omega, by omega⟩ fun _ => rfl

theorem passes_visibilityCall (h : n.isOrdered = true) (visibility : Visibility)
    {arguments : List SyntaxNode} (hargs : ∀ m ∈ arguments, LiesIn m n) :
    Passes bytes body n (visibilityCall bytes body visibility n arguments) := by
  have hn := (isOrdered_iff.1 h).1.forward
  have hnamed : Passes bytes body n ((feed bytes body n).1, (feed bytes body n).2 ++
      [.setVisibility (feed bytes body n).1.nesting (n.argumentNames bytes) visibility
        (feed bytes body n).1.classLevel]) := by
    refine .emits rfl ⟨Nat.le_refl _, hn⟩ ?_ rfl ⟨hn, Nat.le_refl _⟩ fun _ => rfl
    intro x hx s hs
    rw [List.mem_singleton.1 hx] at hs
    cases hs
  unfold visibilityCall
  dsimp only
  split
  · rename_i wrapped
    have hw := hargs wrapped (List.mem_singleton.2 rfl)
    split
    · exact passes_method h hw visibility
    · split
      · exact passes_accessors h hw visibility _
      · exact hnamed
  · exact hnamed

theorem passes_call (h : n.isOrdered = true) : Passes bytes body n (call bytes body n) := by
  have hself : LiesIn n n := ⟨Nat.le_refl _, Nat.le_refl _, h⟩
  have hn := (isOrdered_iff.1 h).1.forward
  unfold call
  dsimp only
  split
  · exact .silent
  · split
    · exact passes_accessors h hself _ _
    · split
      · split
        · exact passes_one rfl ⟨Nat.le_refl _, hn⟩ rfl ⟨hn, Nat.le_refl _⟩ fun _ => rfl
        · exact passes_visibilityCall h _ fun m hm => liesIn_callArguments h hm
      · exact passes_feed hself

/-- An event before a body, then the body from its opening to its end. -/
theorem passes_bodyOf {statement : Body → SyntaxNode → Body × List Event} {body' inner : Body}
    {e : Event} (h : n.isOrdered = true)
    (hst : ∀ body, ∀ m ∈ n.bodyStatements, Passes bytes body m (statement body m))
    (he : e.before? = some ⟨body.cursor, n.start⟩) (hlevel : Level [e])
    (hcursor : body'.cursor = bytes.skipLineTail n.stop)
    (hinner : inner.cursor = bytes.skipLineTail n.headerEnd) :
    Passes bytes body n (body', e :: bodyOf statement inner n) := by
  have hn := (isOrdered_iff.1 h).1.forward
  have hheader := n.start_le_headerEnd
  have hskip := bytes.min_le_skipLineTail n.headerEnd
  have hend := bodyEnd_le_stop h
  obtain ⟨hin, hlow, hlev⟩ := statements_within (min bytes.length n.start) n.stop hst
    (fun m hm => ⟨by have := (liesIn_bodyStatements h hm).start; omega,
      (liesIn_bodyStatements h hm).stop⟩) (Nat.min_le_left _ _) inner (by rw [hinner]; omega)
  refine .emits he ⟨Nat.le_refl _, hn⟩ ?_ hcursor ⟨hn, Nat.le_refl _⟩ ?_
  · intro x hx s hs
    simp only [bodyOf, List.cons_append, List.mem_cons, List.mem_append, List.not_mem_nil,
      or_false] at hx
    rcases hx with rfl | hx | rfl
    · cases hs
    · exact hin x hx s hs
    · simp only [Event.before?, Option.some.injEq] at hs
      subst hs
      refine ⟨hlow, ?_⟩
      dsimp only
      omega
  · have hbody : Level (bodyOf statement inner n) := by
      intro depth
      simp only [bodyOf, List.cons_append, List.foldl_cons, List.foldl_append, List.foldl_nil,
        Event.deepen]
      rw [hlev]
      omega
    exact hlevel.append hbody

end Statement

/-- The walk over a statement, at any depth, hands over the source as said. -/
theorem statementAt_passes (bytes : Bytes) (k : Nat) (body : Body) {n : SyntaxNode}
    (h : n.isOrdered = true) : Passes bytes body n (statementAt bytes k body n) := by
  induction k generalizing body n with
  | zero => exact .silent
  | succ k ih =>
    have hself : LiesIn n n := ⟨Nat.le_refl _, Nat.le_refl _, h⟩
    have hst : ∀ body, ∀ m ∈ n.bodyStatements, Passes bytes body m (statementAt bytes k body m) :=
      fun body m hm => ih body (liesIn_bodyStatements h hm).ordered
    rw [statementAt]
    split
    · unfold namespaceBody
      split
      · exact passes_feed hself
      · exact passes_bodyOf h hst rfl (fun _ => rfl) rfl rfl
    · split
      · exact passes_bodyOf h hst rfl (fun _ => rfl) rfl rfl
      · split
        · exact passes_method h hself _
        · exact passes_call h

/-! ## Before a place and behind it -/

section Place

variable {bytes : Bytes} {body : Body} {n : SyntaxNode} {r : Body × List Event} {p : Nat}

/-- A statement that ends before a solid offset does not hand it over. -/
theorem Passes.before (h : Passes bytes body n r) (hp : bytes.Solid p) (hn : n.stop ≤ p)
    (hc : body.cursor ≤ p) : Quiet p r.2 ∧ r.1.cursor ≤ p := by
  cases h with
  | silent => exact ⟨.nil p, hc⟩
  | @emits body' e rest reach past he hreach hrest hcursor hpast hlevel =>
    have hfirst : Quiet p [e] := .single fun s hs => by
      cases he.symm.trans hs
      dsimp only
      omega
    have hmore : Quiet p rest := .of_apart fun x hx s hs => by
      have := hrest x hx s hs
      omega
    refine ⟨hfirst.append hmore, ?_⟩
    dsimp only
    rw [hcursor]
    exact Bytes.skipLineTail_le hp (by omega)

/-- A statement behind an offset that is handed over does not hand it over again. -/
theorem Passes.after (h : Passes bytes body n r) (hp : p < bytes.length) (hn : p < n.start)
    (hc : p < body.cursor) : Quiet p r.2 ∧ p < r.1.cursor := by
  cases h with
  | silent => exact ⟨.nil p, hc⟩
  | @emits body' e rest reach past he hreach hrest hcursor hpast hlevel =>
    have hfirst : Quiet p [e] := .single fun s hs => by
      cases he.symm.trans hs
      exact .inr hc
    have hmore : Quiet p rest := .of_apart fun x hx s hs => by
      have := hrest x hx s hs
      omega
    have hskip := bytes.min_le_skipLineTail past
    refine ⟨hfirst.append hmore, ?_⟩
    dsimp only
    rw [hcursor]
    omega

/-- A statement behind an offset that is not handed over is silent, or its first event hands it
over and nothing else does. -/
theorem Passes.pending (h : Passes bytes body n r) (hp : p < bytes.length) (hn : p < n.start)
    (hc : body.cursor ≤ p) : r = (body, []) ∨
      ∃ e rest, r.2 = e :: rest ∧ e.Covers p ∧ Quiet p rest ∧ p < r.1.cursor := by
  cases h with
  | silent => exact .inl rfl
  | @emits body' e rest reach past he hreach hrest hcursor hpast hlevel =>
    refine .inr ⟨e, rest, rfl, ⟨_, he, hc, by dsimp only; omega⟩, .of_apart fun x hx s hs => ?_, ?_⟩
    · have := hrest x hx s hs
      omega
    · have hskip := bytes.min_le_skipLineTail past
      dsimp only
      rw [hcursor]
      omega

end Place

section Places

variable {bytes : Bytes} {statement : Body → SyntaxNode → Body × List Event}
  {nodes : List SyntaxNode} {p : Nat}

/-- Statements that do not hand over an offset, each from a cursor on the same side of it, do not
hand it over together. -/
theorem statements_quiet (side : Nat → Prop)
    (hst : ∀ body, ∀ n ∈ nodes, side body.cursor →
      Quiet p (statement body n).2 ∧ side (statement body n).1.cursor)
    (body : Body) (hc : side body.cursor) :
    Quiet p (statements statement body nodes).2 ∧
      side (statements statement body nodes).1.cursor := by
  induction nodes generalizing body with
  | nil => exact ⟨.nil p, hc⟩
  | cons n nodes ih =>
    have ih := ih fun body m hm => hst body m (List.mem_cons_of_mem _ hm)
    rw [statements]
    split
    · exact ⟨.nil p, hc⟩
    · split
      · exact ih body hc
      · obtain ⟨hquiet, hcursor⟩ := hst body n List.mem_cons_self hc
        obtain ⟨hmore, hlast⟩ := ih _ hcursor
        exact ⟨hquiet.append hmore, hlast⟩

theorem statements_before (hst : ∀ body, ∀ n ∈ nodes, Passes bytes body n (statement body n))
    (hp : bytes.Solid p) (hn : ∀ n ∈ nodes, n.stop ≤ p) (body : Body) (hc : body.cursor ≤ p) :
    Quiet p (statements statement body nodes).2 ∧ Level (statements statement body nodes).2 ∧
      (statements statement body nodes).1.cursor ≤ p := by
  obtain ⟨hquiet, hcursor⟩ := statements_quiet (· ≤ p)
    (fun body n hm => (hst body n hm).before hp (hn n hm)) body hc
  obtain ⟨-, -, hlevel⟩ := statements_within 0 p hst (fun n hm => ⟨Nat.zero_le _, hn n hm⟩)
    (Nat.zero_le _) body (Nat.zero_le _)
  exact ⟨hquiet, hlevel, hcursor⟩

theorem statements_after (hst : ∀ body, ∀ n ∈ nodes, Passes bytes body n (statement body n))
    (hp : p < bytes.length) (hn : ∀ n ∈ nodes, p < n.start) (body : Body) (hc : p < body.cursor) :
    Quiet p (statements statement body nodes).2 ∧
      p < (statements statement body nodes).1.cursor :=
  statements_quiet (p < ·) (fun body n hm => (hst body n hm).after hp (hn n hm)) body hc

/-- The statements behind an offset that is not handed over: the first event there hands it over,
or there is none. -/
theorem statements_pending (hst : ∀ body, ∀ n ∈ nodes, Passes bytes body n (statement body n))
    (hp : p < bytes.length) (hn : ∀ n ∈ nodes, p < n.start) (body : Body)
    (hc : body.cursor ≤ p) :
    statements statement body nodes = (body, []) ∨
      ∃ e rest, (statements statement body nodes).2 = e :: rest ∧ e.Covers p ∧ Quiet p rest ∧
        p < (statements statement body nodes).1.cursor := by
  induction nodes generalizing body with
  | nil => exact .inl rfl
  | cons n nodes ih =>
    have hst' : ∀ body, ∀ m ∈ nodes, Passes bytes body m (statement body m) :=
      fun body m hm => hst body m (List.mem_cons_of_mem _ hm)
    have hn' : ∀ m ∈ nodes, p < m.start := fun m hm => hn m (List.mem_cons_of_mem _ hm)
    rw [statements]
    split
    · exact .inl rfl
    · split
      · exact ih hst' hn' body hc
      · rcases (hst body n List.mem_cons_self).pending hp (hn n List.mem_cons_self) hc with
          hsilent | ⟨e, rest, he, hcovers, hquiet, hcursor⟩
        · simp only [hsilent, List.nil_append]
          exact ih hst' hn' body hc
        · obtain ⟨hmore, hlast⟩ := statements_after hst' hp hn' _ hcursor
          right
          refine ⟨e, rest ++ (statements statement (statement body n).1 nodes).2, ?_, hcovers,
            hquiet.append hmore, hlast⟩
          dsimp only
          rw [he, List.cons_append]

end Places

/-! ## The event that covers a place -/

/-- One of the events covers the offset, with `ℓ` bodies open in front of it. -/
structure CoversOnce (p ℓ : Nat) (events before : List Event) (e : Event) (after : List Event) :
    Prop where
  split : events = before ++ e :: after
  covers : e.Covers p
  quietBefore : Quiet p before
  quietAfter : Quiet p after
  depth : ∀ depth, before.foldl Event.deepen depth = depth + ℓ

/-- A node that the walk passes over in silence, on its own line. -/
structure LeftOut (bytes : Bytes) (call : SyntaxNode) : Prop where
  silent : ∀ k body, statementAt bytes k body call = (body, [])
  solid : bytes.Solid call.start
  forward : call.start < call.stop
  kind : call.kind ∉ ["comment", "end", "empty_statement", "uninterpreted"]

/-- What the walk over the statements of a list says of a place in one of them. Either the place is
in the list itself and no event has covered it so far, or one event covers it and the cursor is past
it. -/
def Settled (p ℓ : Nat) (r : Body × List Event) : Prop :=
  (ℓ = 0 ∧ Quiet p r.2 ∧ Level r.2 ∧ r.1.cursor ≤ p) ∨
    ((∃ before e after, CoversOnce p ℓ r.2 before e after) ∧ p < r.1.cursor)

theorem CoversOnce.wrap {p ℓ m : Nat} {events before after : List Event} {e : Event}
    (h : CoversOnce p ℓ events before e after) {outer later : List Event} (ho : Quiet p outer)
    (hd : ∀ depth, outer.foldl Event.deepen depth = depth + m) (hl : Quiet p later) :
    CoversOnce p (m + ℓ) (outer ++ events ++ later) (outer ++ before) e (after ++ later) where
  split := by rw [h.split]; simp
  covers := h.covers
  quietBefore := ho.append h.quietBefore
  quietAfter := h.quietAfter.append hl
  depth := by
    intro depth
    rw [List.foldl_append, hd, h.depth]
    omega

/-- A place in a body is covered by one event of the body, or by its end. -/
theorem bodyOf_covers {statement : Body → SyntaxNode → Body × List Event} {inner : Body}
    {n : SyntaxNode} {p ℓ : Nat} (h : Settled p ℓ (statements statement inner n.bodyStatements))
    (hend : ℓ = 0 → p < n.bodyEnd) :
    ∃ before e after, CoversOnce p (ℓ + 1) (bodyOf statement inner n) before e after := by
  have hopen : Quiet p [Event.openScope] := .single fun _ hs => nomatch hs
  unfold bodyOf
  dsimp only
  generalize statements statement inner n.bodyStatements = r at h
  rcases h with ⟨rfl, hquiet, hlevel, hcursor⟩ | ⟨⟨before, e, after, hcov⟩, hcursor⟩
  · have hlast := hend rfl
    refine ⟨.openScope :: r.2, .closeScope ⟨r.1.cursor, max n.bodyEnd r.1.cursor⟩, [], rfl,
      ⟨_, rfl, hcursor, by dsimp only; omega⟩, hopen.append hquiet, .nil p, fun depth => ?_⟩
    exact hlevel (depth + 1)
  · have hclose : Quiet p [Event.closeScope ⟨r.1.cursor, max n.bodyEnd r.1.cursor⟩] :=
      .single fun s hs => .inr (Option.some.inj hs ▸ hcursor)
    have hwrap := hcov.wrap hopen (m := 1) (fun _ => rfl) hclose
    rw [Nat.add_comm 1 ℓ] at hwrap
    exact ⟨_, _, _, hwrap⟩

/-- A place behind the header of a statement that is entered is covered by one event of its walk, one
body further in than it is in the body. -/
theorem entered_covers {bytes : Bytes} {n : SyntaxNode} {p ℓ k : Nat} (hn : n.isEntered = true)
    (hp : bytes.Solid p) (hheader : n.headerEnd ≤ p) (hstop : p < n.stop)
    (hend : ℓ = 0 → p < n.bodyEnd)
    (h : ∀ inner : Body, inner.cursor ≤ p →
      Settled p ℓ (statements (statementAt bytes k) inner n.bodyStatements)) (body : Body) :
    (∃ before e after, CoversOnce p (ℓ + 1) (statementAt bytes (k + 1) body n).2 before e after) ∧
      p < (statementAt bytes (k + 1) body n).1.cursor := by
  obtain ⟨e, hopen, hwalk⟩ := statementAt_entered bytes k body hn
  have hstart := Nat.le_trans n.start_le_headerEnd hheader
  have hsettled := h (n.inner bytes body) (Bytes.skipLineTail_le hp hheader)
  obtain ⟨before, x, after, hcov⟩ := bodyOf_covers hsettled hend
  have hquiet : Quiet p [e] := .single fun s hs => by
    rw [hopen.before?_eq] at hs
    exact .inl (Option.some.inj hs ▸ hstart)
  have hwrap := hcov.wrap hquiet (m := 0) hopen.level (.nil p)
  rw [Nat.zero_add, List.append_nil, List.singleton_append] at hwrap
  have hlt := hp.lt
  have hskip : min bytes.length n.stop ≤ (body.past bytes n.stop).cursor :=
    bytes.min_le_skipLineTail n.stop
  rw [hwalk]
  exact ⟨⟨_, _, _, hwrap⟩, by dsimp only; omega⟩

/-! ### Statements around a place -/

section Around

variable {bytes : Bytes} {statement : Body → SyntaxNode → Body × List Event}
  {before after : List SyntaxNode} {n : SyntaxNode} {p : Nat} {body : Body}
  (hpass : ∀ body, ∀ m ∈ before ++ n :: after, Passes bytes body m (statement body m))
  (hkinds : ∀ m ∈ before, m.kind ≠ "uninterpreted") (hp : bytes.Solid p)
  (hbefore : ∀ m ∈ before, m.stop ≤ p) (hafter : ∀ m ∈ after, p < m.start)
  (hcursor : body.cursor ≤ p)

include hpass hkinds hp hbefore hafter hcursor

/-- A place at a statement that is passed over. -/
theorem settled_silent (hkind : n.kind ∉ ["comment", "end", "empty_statement", "uninterpreted"])
    (hsilent : ∀ body, statement body n = (body, [])) :
    Settled p 0 (statements statement body (before ++ n :: after)) := by
  simp only [List.mem_cons, List.not_mem_nil, or_false, not_or] at hkind
  obtain ⟨hquiet, hlevel, hpos⟩ := statements_before
    (fun body m hm => hpass body m (List.mem_append_left _ hm)) hp hbefore body hcursor
  -- the statement gives nothing, and those behind it find the cursor before the place
  have hn : ∀ body, statements statement body (n :: after) = statements statement body after := by
    intro body
    rw [statements, if_neg hkind.2.2.2, if_neg (by simp [hkind.1, hkind.2.2.1]), hsilent]
    rfl
  rw [statements_append hkinds, hn]
  rcases statements_pending
      (fun body m hm => hpass body m (List.mem_append_right _ (List.mem_cons_of_mem _ hm))) hp.lt
      hafter _ hpos with hnone | ⟨e, rest, he, hcovers, hrest, hpast⟩
  · left
    rw [hnone, List.append_nil]
    exact ⟨rfl, hquiet, hlevel, hpos⟩
  · right
    refine ⟨⟨_, e, rest, ?_, hcovers, hquiet, hrest, hlevel⟩, hpast⟩
    rw [he]

/-- A place in a statement that is entered: one event of its walk covers it. -/
theorem settled_entered {ℓ : Nat} (hn : n.isEntered = true)
    (hcover : ∀ body, (∃ first e later, CoversOnce p ℓ (statement body n).2 first e later) ∧
      p < (statement body n).1.cursor) :
    Settled p ℓ (statements statement body (before ++ n :: after)) := by
  have hkind : n.kind ≠ "uninterpreted" ∧
      ¬ (n.kind = "comment" ∨ n.kind = "empty_statement") := by
    refine ⟨?_, ?_⟩
    · intro e
      simp [isEntered, e] at hn
    · rintro (e | e) <;> simp [isEntered, e] at hn
  obtain ⟨hquiet, hlevel, -⟩ := statements_before
    (fun body m hm => hpass body m (List.mem_append_left _ hm)) hp hbefore body hcursor
  rw [statements_append hkinds]
  generalize statements statement body before = walked at hquiet hlevel
  rw [statements, if_neg hkind.1, if_neg hkind.2]
  obtain ⟨⟨first, e, later, hcov⟩, hpast⟩ := hcover walked.1
  obtain ⟨hlater, hlast⟩ := statements_after
    (fun body m hm => hpass body m (List.mem_append_right _ (List.mem_cons_of_mem _ hm))) hp.lt
    hafter (statement walked.1 n).1 hpast
  have hwrap := hcov.wrap hquiet (m := 0) hlevel hlater
  rw [Nat.zero_add, List.append_assoc] at hwrap
  exact .inr ⟨⟨_, _, _, hwrap⟩, hlast⟩

end Around

/-- **Bodies.** In the walk over the statements of a body, the place of a call that is left out in
it, or in a body inside, is covered by at most one event, at the depth of the call's own body. -/
theorem statements_cover {bytes : Bytes} {call : SyntaxNode} (hleft : LeftOut bytes call) {ℓ : Nat}
    {nodes : List SyntaxNode} (hs : Stands call ℓ nodes) :
    ∀ (k : Nat) (body : Body), (∀ n ∈ nodes, n.isOrdered = true) →
      (nodes.Pairwise fun c d => c.stop ≤ d.start) → (∀ n ∈ nodes, n.depth ≤ k) →
      body.cursor ≤ call.start →
      Settled call.start ℓ (statements (statementAt bytes k) body nodes) := by
  have hforward := hleft.forward
  have hkind := hleft.kind
  simp only [List.mem_cons, List.not_mem_nil, or_false, not_or] at hkind
  induction hs with
  | @here before after h =>
    intro k body hord hapart hdepth hcursor
    rw [List.pairwise_append, List.pairwise_cons] at hapart
    obtain ⟨-, ⟨hafter, -⟩, hbefore⟩ := hapart
    exact settled_silent (fun body n hn => statementAt_passes bytes k body (hord n hn)) h
      hleft.solid (fun n hn => hbefore n hn call List.mem_cons_self)
      (fun n hn => Nat.lt_of_lt_of_le hforward (hafter n hn)) hcursor hleft.kind (hleft.silent k)
  | @inside before after n ℓ h hn hs ih =>
    intro k body hord hapart hdepth hcursor
    have hno : n.isOrdered = true := hord n (by simp)
    have hbodyOrd : ∀ c ∈ n.bodyStatements, c.isOrdered = true :=
      fun c hc => (liesIn_bodyStatements hno hc).ordered
    obtain ⟨c, hc, hcomment, hstart, hstop⟩ := hs.exists_mem hkind.1 hbodyOrd
    have hcin := liesIn_bodyStatements hno hc
    have hheader : n.headerEnd ≤ call.start :=
      Nat.le_trans ((isOrdered_iff.1 hno).1.header (hasBody_of_isEntered hn) c hc hcomment) hstart
    have hnstart := hcin.start
    have hnstop := hcin.stop
    obtain ⟨k, rfl⟩ : ∃ i, k = i + 1 := by
      have := depth_bodyStatements hc
      have := hdepth n (by simp)
      exact ⟨k - 1, by omega⟩
    rw [List.pairwise_append, List.pairwise_cons] at hapart
    obtain ⟨-, ⟨hafter, -⟩, hbefore⟩ := hapart
    -- the place is behind the header, so the walk over the body finds the cursor before it
    have hcover := entered_covers hn hleft.solid hheader (by omega)
      (fun hzero => lt_bodyEnd hno (hs.mem hzero) hkind.2.1 hforward)
      (fun inner => ih k inner hbodyOrd (apart_bodyStatements hno) fun m hm => by
        have := depth_bodyStatements hm
        have := hdepth n (by simp)
        omega)
    refine settled_entered (fun body m hm => statementAt_passes bytes (k + 1) body (hord m hm)) h
      hleft.solid (fun m hm => ?_) (fun m hm => ?_) hcursor hn hcover
    · have := hbefore m hm n List.mem_cons_self
      omega
    · have := hafter m hm
      omega

/-- **Walk.** In the walk over a file with an ordered tree, the place of a call that is left out is
covered by exactly one event, at the depth of the call's own body. -/
theorem walk_covers {bytes : Bytes} {root call : SyntaxNode} {ℓ : Nat}
    (hroot : root.isOrdered = true) (hs : Stands call ℓ root.namedChildren)
    (hleft : LeftOut bytes call) :
    ∃ before e after, CoversOnce call.start ℓ (walk bytes root) before e after := by
  have hchild : ∀ n ∈ root.namedChildren, n ∈ root.children := fun n hn => (List.mem_filter.1 hn).1
  have hsettled := statements_cover hleft hs root.depth
    { nesting := [], classLevel := false, cursor := 0 }
    (fun n hn => (liesIn_child hroot (hchild n hn)).ordered)
    ((isOrdered_iff.1 hroot).1.apart.filter _)
    (fun n hn => Nat.le_of_lt (depth_child (hchild n hn))) (Nat.zero_le _)
  unfold walk
  dsimp only
  generalize statements (statementAt bytes root.depth) _ root.namedChildren = r at hsettled
  rcases hsettled with ⟨rfl, hquiet, hlevel, hcursor⟩ | ⟨⟨before, e, after, hcov⟩, hcursor⟩
  · exact ⟨r.2, _, [], rfl, ⟨_, rfl, hcursor, hleft.solid.lt⟩, hquiet, .nil _, hlevel⟩
  · have hlast : Quiet call.start [.text ⟨r.1.cursor, bytes.length⟩] :=
      .single fun s hs => .inr (Option.some.inj hs ▸ hcursor)
    have hwrap := hcov.wrap (.nil _) (m := 0) (fun _ => rfl) hlast
    rw [Nat.zero_add] at hwrap
    exact ⟨_, _, _, hwrap⟩

end TypeTags.Outline
