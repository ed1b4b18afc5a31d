import TypeTags.Proofs.Token.Cutting
import TypeTags.Signature.Parser

/-!
# Brackets as a stack

A token inside a group opens a group of its own, closes the innermost one, or changes nothing. The
stack lists the closing kinds that are awaited, innermost first. Tokens that lead from one stack to
another never close the outermost group and never close a group with a bracket of another kind.

Results:
* `matchGroup_append`: looking for the end of a group goes on behind such tokens, with their stack.
* `matchGroup_closed`: the tokens of a group that is closed lead back to the stack around it.
-/

namespace TypeTags

/-- The stack after a token of the kind; none if the token closes the outermost group or is not the
one that is awaited. -/
def TokenKind.nest (kind : TokenKind) (stack : List TokenKind) : Option (List TokenKind) :=
  match kind.closer? with
  | some closer => some (closer :: stack)
  | none =>
    if kind.isCloser then
      match stack with
      | awaited :: next :: outer => if kind = awaited then some (next :: outer) else none
      | _ => none
    else some stack

/-- The stack after tokens of the kinds. -/
def stackAfter (stack : List TokenKind) : List TokenKind → Option (List TokenKind)
  | [] => some stack
  | kind :: kinds => (kind.nest stack).bind (stackAfter · kinds)

theorem stackAfter_append {stack mid after : List TokenKind} {kinds more : List TokenKind}
    (h : stackAfter stack kinds = some mid) (k : stackAfter mid more = some after) :
    stackAfter stack (kinds ++ more) = some after := by
  induction kinds generalizing stack with
  | nil =>
    cases h
    exact k
  | cons kind kinds ih =>
    obtain ⟨next, hnext, hrest⟩ := Option.bind_eq_some_iff.1 h
    rw [List.cons_append, stackAfter, hnext]
    exact ih hrest

/-- A kind that opens a group. -/
theorem TokenKind.nest_opener {kind closer : TokenKind} (h : kind.closer? = some closer)
    (stack : List TokenKind) : kind.nest stack = some (closer :: stack) := by
  simp [nest, h]

/-- A kind that neither opens nor closes a group. -/
theorem TokenKind.nest_plain {kind : TokenKind} (ho : kind.closer? = none)
    (hc : kind.isCloser = false) (stack : List TokenKind) : kind.nest stack = some stack := by
  simp [nest, ho, hc]

/-- The closing kind that is awaited, inside another group. -/
theorem TokenKind.nest_closer {kind : TokenKind} (hc : kind.isCloser = true)
    {outer : List TokenKind} (ho : outer ≠ []) : kind.nest (kind :: outer) = some outer := by
  cases outer with
  | nil => exact absurd rfl ho
  | cons next outer =>
    have hopen : kind.closer? = none := by cases kind <;> first | rfl | cases hc
    simp [nest, hopen, hc]

theorem TokenKind.nest_ne_nil {kind : TokenKind} {stack after : List TokenKind} (hs : stack ≠ [])
    (h : kind.nest stack = some after) : after ≠ [] := by
  unfold nest at h
  split at h
  · cases h
    simp
  · split at h
    · split at h
      · split at h
        · cases h
          simp
        · cases h
      · cases h
    · cases h
      exact hs

/-- Groups around all groups of a stack do not matter. -/
theorem TokenKind.nest_outer {kind : TokenKind} {stack after : List TokenKind}
    (h : kind.nest stack = some after) (outer : List TokenKind) :
    kind.nest (stack ++ outer) = some (after ++ outer) := by
  unfold nest at h ⊢
  split at h
  · cases h
    rfl
  · split at h
    · rename_i hc
      rw [if_pos hc]
      split at h
      · rename_i awaited next around
        split at h
        · rename_i hk
          cases h
          simp [hk]
        · cases h
      · cases h
    · rename_i hc
      cases h
      rw [if_neg hc]

theorem stackAfter_outer {stack after kinds : List TokenKind}
    (h : stackAfter stack kinds = some after) (outer : List TokenKind) :
    stackAfter (stack ++ outer) kinds = some (after ++ outer) := by
  induction kinds generalizing stack with
  | nil =>
    cases h
    rfl
  | cons kind kinds ih =>
    obtain ⟨next, hnext, hrest⟩ := Option.bind_eq_some_iff.1 h
    rw [stackAfter, TokenKind.nest_outer hnext outer]
    exact ih hrest

/-! ## The end of a group -/

theorem matchGroup_nest {t : Token} {awaited next : TokenKind} {outer around : List TokenKind}
    (h : t.kind.nest (awaited :: outer) = some (next :: around)) (ts : List Token) :
    matchGroup awaited outer (t :: ts) = matchGroup next around ts := by
  simp only [TokenKind.nest] at h
  simp only [matchGroup]
  cases hk : t.kind.closer? with
  | some inner =>
    simp only [hk, Option.some.injEq, List.cons.injEq] at h
    obtain ⟨rfl, rfl⟩ := h
    rfl
  | none =>
    simp only [hk] at h
    by_cases hc : t.kind.isCloser = true
    · simp only [hc, if_true] at h ⊢
      cases outer with
      | nil => cases h
      | cons after outer =>
        by_cases he : t.kind = awaited
        · simp only [he, if_true, Option.some.injEq, List.cons.injEq] at h ⊢
          obtain ⟨rfl, rfl⟩ := h
          rfl
        · simp [he] at h
    · simp only [hc, Bool.false_eq_true, if_false, Option.some.injEq, List.cons.injEq] at h ⊢
      obtain ⟨rfl, rfl⟩ := h
      rfl

/-- Looking for the end of a group goes on behind tokens that do not close it. -/
theorem matchGroup_append {awaited next : TokenKind} {outer around : List TokenKind}
    {used : List Token}
    (h : stackAfter (awaited :: outer) (used.map Token.kind) = some (next :: around))
    (more : List Token) :
    matchGroup awaited outer (used ++ more) = matchGroup next around more := by
  induction used generalizing awaited outer with
  | nil =>
    cases h
    rfl
  | cons t used ih =>
    obtain ⟨stack, hstack, hrest⟩ := Option.bind_eq_some_iff.1 h
    cases stack with
    | nil => exact absurd rfl (TokenKind.nest_ne_nil (by simp) hstack)
    | cons awaited' outer' =>
      rw [List.cons_append, matchGroup_nest hstack]
      exact ih hrest

/-- A group that is closed ends with the kind it awaits, and what stands before that leads there. -/
theorem matchGroup_closed {awaited : TokenKind} {outer : List TokenKind} {ts rest : List Token}
    {closer : Token} (h : matchGroup awaited outer ts = .closed closer rest) :
    ∃ used, ts = used ++ closer :: rest ∧ closer.kind.isCloser = true ∧
      stackAfter (awaited :: outer) (used.map Token.kind) = some [closer.kind] := by
  induction ts generalizing awaited outer with
  | nil => cases h
  | cons t ts ih =>
    -- a token that is no last one is put before those found behind it
    have step {awaited' : TokenKind} {outer' : List TokenKind}
        (hnest : t.kind.nest (awaited :: outer) = some (awaited' :: outer'))
        (hrest : matchGroup awaited' outer' ts = .closed closer rest) :
        ∃ used, t :: ts = used ++ closer :: rest ∧ closer.kind.isCloser = true ∧
          stackAfter (awaited :: outer) (used.map Token.kind) = some [closer.kind] := by
      obtain ⟨used, rfl, hc, hused⟩ := ih hrest
      refine ⟨t :: used, rfl, hc, ?_⟩
      rw [List.map_cons, stackAfter, hnest]
      exact hused
    simp only [matchGroup] at h
    split at h
    · rename_i inner hk
      exact step (TokenKind.nest_opener hk _) h
    · rename_i hk
      split at h
      · rename_i hc
        split at h
        · rename_i he
          subst he
          split at h
          · cases h
            exact ⟨[], rfl, hc, rfl⟩
          · exact step (TokenKind.nest_closer hc (by simp)) h
        · cases h
      · rename_i hc
        exact step (TokenKind.nest_plain hk (by simpa using hc) _) h

/-- The tokens behind the opening one of a group lead back to the stack around it. -/
theorem stackAfter_group {closer : Token} {awaited : TokenKind} {ts rest : List Token}
    (h : matchGroup awaited [] ts = .closed closer rest) :
    ∃ used, ts = used ++ rest ∧ ∀ stack ≠ [],
      stackAfter (awaited :: stack) (used.map Token.kind) = some stack := by
  obtain ⟨used, rfl, hc, hused⟩ := matchGroup_closed h
  refine ⟨used ++ [closer], by simp, fun stack hs => ?_⟩
  have hlast : stackAfter (closer.kind :: stack) [closer.kind] = some stack := by
    rw [stackAfter, TokenKind.nest_closer hc hs]
    rfl
  rw [List.map_append]
  exact stackAfter_append (stackAfter_outer hused stack) hlast

/-! ## Tokens and lexemes -/

def Piece.kind? (p : Piece) : Option TokenKind := p.word?.map (·.1)

/-- The kinds of the tokens of pieces are those of the lexemes. -/
theorem kinds_locate (offset line : Nat) (ps : List Piece) :
    ((Token.locate offset line ps).dropLast).map Token.kind = ps.filterMap Piece.kind? := by
  have hwords := congrArg (List.map (·.1)) (words_locate offset line ps)
  rw [List.map_map, List.map_filterMap] at hwords
  exact hwords

end TypeTags
