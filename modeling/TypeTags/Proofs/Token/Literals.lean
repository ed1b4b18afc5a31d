import TypeTags.Token.Piece

/-!
# String literals

A string literal is a body between two quotes. The body tells where the literal ends, and a body in
front of a quote is cut off whatever stands behind: a reader that goes through literals is followed
by induction on the body.

Results:
* `LiteralBody.append`: bodies one behind the other are a body.
* `LiteralBody.stringTail_eq`: a body in front of a quote is cut off.
* `stringTail_eq_some_iff`, `stringTail_eq_none_iff`: which literals are closed.
* `firstPiece_quote`, `firstPiece_eq_none`: where the text of a literal starts.
-/

namespace TypeTags

/-- The characters between the quotes of a string literal: a backslash takes the next one with it,
and no other quote of the same kind is among them. -/
inductive LiteralBody (q : Char) : List Char → Prop where
  | nil : LiteralBody q []
  | plain {c : Char} {cs : List Char} (hq : c ≠ q) (hb : c ≠ '\\') (h : LiteralBody q cs) :
      LiteralBody q (c :: cs)
  | escaped (c : Char) {cs : List Char} (h : LiteralBody q cs) : LiteralBody q ('\\' :: c :: cs)

namespace LiteralBody

variable {q : Char} {body : List Char}

theorem append (h : LiteralBody q body) {body' : List Char} (h' : LiteralBody q body') :
    LiteralBody q (body ++ body') := by
  induction h with
  | nil => exact h'
  | plain hq hb _ ih => exact .plain hq hb ih
  | escaped c _ ih => exact .escaped c ih

theorem of_plain (h : ∀ c ∈ body, c ≠ q ∧ c ≠ '\\') : LiteralBody q body := by
  induction body with
  | nil => exact .nil
  | cons c body ih =>
    obtain ⟨hc, hbody⟩ := List.forall_mem_cons.1 h
    exact .plain hc.1 hc.2 (ih hbody)

theorem stringTail_eq (h : LiteralBody q body) (hq : q ≠ '\\') (rest : List Char) :
    Piece.stringTail q (body ++ q :: rest) = some (body ++ [q], rest) := by
  induction h with
  | nil =>
    unfold Piece.stringTail
    simp
  | @plain c body hc hb _ ih =>
    rw [List.cons_append]
    unfold Piece.stringTail
    simp [hc, hb, ih]
  | @escaped c body _ ih => simp [Piece.stringTail, hq.symm, ih]

end LiteralBody

/-! ## Closed and open literals -/

theorem stringTail_eq_some_iff {q : Char} (hq : q ≠ '\\') {cs tail rest : List Char} :
    Piece.stringTail q cs = some (tail, rest) ↔
      ∃ body, LiteralBody q body ∧ tail = body ++ [q] ∧ cs = body ++ q :: rest := by
  constructor
  · intro h
    fun_induction Piece.stringTail q cs generalizing tail rest with
    | case1 => cases h
    | case2 =>
      cases h
      exact ⟨[], .nil, rfl, rfl⟩
    | case3 => cases h
    | case4 d cs _ ih =>
      obtain ⟨⟨t, r⟩, ht, he⟩ := Option.map_eq_some_iff.1 h
      cases he
      obtain ⟨body, hbody, rfl, rfl⟩ := ih ht
      exact ⟨'\\' :: d :: body, .escaped d hbody, rfl, rfl⟩
    | case5 c cs hc hb ih =>
      obtain ⟨⟨t, r⟩, ht, he⟩ := Option.map_eq_some_iff.1 h
      cases he
      obtain ⟨body, hbody, rfl, rfl⟩ := ih ht
      exact ⟨c :: body, .plain hc hb hbody, rfl, rfl⟩
  · rintro ⟨body, hbody, rfl, rfl⟩
    exact hbody.stringTail_eq hq rest

/-- A literal that is never closed. -/
theorem stringTail_eq_none_iff {q : Char} (hq : q ≠ '\\') {cs : List Char} :
    Piece.stringTail q cs = none ↔
      ∀ body rest, LiteralBody q body → cs ≠ body ++ q :: rest := by
  rw [Option.eq_none_iff_forall_ne_some]
  constructor
  · intro h body rest hbody hcs
    exact h (body ++ [q], rest) ((stringTail_eq_some_iff hq).2 ⟨body, hbody, rfl, hcs⟩)
  · rintro h ⟨tail, rest⟩ he
    obtain ⟨body, hbody, -, hcs⟩ := (stringTail_eq_some_iff hq).1 he
    exact h body rest hbody hcs

/-! ## Quotes -/

theorem quote_ne_backslash {q : Char} (hq : q = '\'' ∨ q = '"') : q ≠ '\\' := by
  rcases hq with rfl | rfl <;> decide

theorem isBlank_quote {q : Char} (hq : q = '\'' ∨ q = '"') : Text.isBlank q = false := by
  rcases hq with rfl | rfl <;> decide

theorem firstPiece_quote {q : Char} (hq : q = '\'' ∨ q = '"') (glued : Bool) (cs : List Char) :
    Piece.firstPiece glued q cs = (Piece.stringTail q cs).map
      fun (tail, rest) => (.lexeme .string (q :: tail), rest) := by
  have hclass : q ≠ '#' ∧ Text.isNameStart q = false ∧ Text.isDigit q = false := by
    rcases hq with rfl | rfl <;> decide
  simp [Piece.firstPiece, isBlank_quote hq, hclass, hq]

/-- Only a literal that is never closed cannot be cut. -/
theorem firstPiece_eq_none {glued : Bool} {c : Char} {cs : List Char}
    (h : Piece.firstPiece glued c cs = none) :
    (c = '\'' ∨ c = '"') ∧ Piece.stringTail c cs = none := by
  unfold Piece.firstPiece at h
  split at h
  · cases h
  split at h
  · cases h
  split at h
  · cases h
  split at h
  · cases h
  split at h
  · exact ⟨‹_›, Option.map_eq_none_iff.1 h⟩
  split at h <;> cases h

end TypeTags
