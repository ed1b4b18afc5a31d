import TypeTags.Signature.Parse

/-!
# The lines of a signature

Tokens are numbered from line 1 of their text, and the tokens of a chain are among those of the text
around it. So a text whose first line has a number of at least 1 never gives a signature that would
start or end before line 1.

Results:
* `tokenize_line`: every token stands on line 1 or later.
* `body_isInfix`: the tokens in a block stand in a row among those of the text.
* `parse_ne_lineBelowOne`: a signature on line 1 or later can always be placed.
-/

namespace TypeTags

namespace Token

theorem locate_line {offset line : Nat} {pieces : List Piece} {t : Token}
    (h : t ∈ locate offset line pieces) : line ≤ t.line := by
  induction pieces generalizing offset line with
  | nil =>
    simp only [locate, List.mem_singleton] at h
    subst h
    exact Nat.le_refl _
  | cons p ps ih =>
    cases p with
    | gap cs => exact Nat.le_trans (Nat.le_add_right _ _) (ih h)
    | lexeme kind cs =>
      simp only [locate, List.mem_cons] at h
      rcases h with rfl | h
      · exact Nat.le_add_right _ _
      · exact Nat.le_trans (Nat.le_add_right _ _) (ih h)

end Token

theorem tokenize_line {text : List Char} {ts : List Token} (h : tokenize text = .ok ts) {t : Token}
    (ht : t ∈ ts) : 1 ≤ t.line := by
  unfold tokenize at h
  split at h
  · cases h
    exact Token.locate_line ht
  · cases h

/-- The tokens after a group are a tail of the tokens it was found in. -/
theorem matchGroup_suffix {awaited : TokenKind} {outer : List TokenKind} {ts rest : List Token}
    {closer : Token} (h : matchGroup awaited outer ts = .closed closer rest) :
    closer :: rest <:+ ts := by
  induction ts generalizing awaited outer with
  | nil => simp [matchGroup] at h
  | cons t ts ih =>
    have hcons := List.suffix_cons t ts
    simp only [matchGroup] at h
    split at h
    · exact (ih h).trans hcons
    · split at h
      · split at h
        · split at h
          · cases h
            exact List.suffix_refl _
          · exact (ih h).trans hcons
        · cases h
      · exact (ih h).trans hcons

namespace Signature

theorem blockBody_isInfix {closes : Token → Bool} {inside : List Token} {b : Body}
    (h : blockBody closes inside = some b) : b.tokens <:+: inside := by
  unfold blockBody at h
  split at h
  · split at h
    · cases h
      exact (List.dropLast_prefix _).isInfix
    · cases h
  · cases h

theorem unwrapBlock_isInfix {stop : Nat} {ts : List Token} {b : Body}
    (h : unwrapBlock stop ts = .ok b) : b.tokens <:+: ts := by
  have inside {opening : Token} {rest : List Token} {closes : Token → Bool}
      (hb : blockBody closes rest = some b) : b.tokens <:+: opening :: rest :=
    (blockBody_isInfix hb).trans (List.suffix_cons _ _).isInfix
  unfold unwrapBlock at h
  split at h
  · cases h
  · split at h
    · split at h
      · cases h
      · split at h
        · cases h; exact inside ‹_›
        · cases h
    · split at h
      · split at h
        · cases h; exact inside ‹_›
        · cases h
      · cases h

theorem body_isInfix {stop : Nat} {ts : List Token} {b : Body} (h : body stop ts = .ok b) :
    b.tokens <:+: ts := by
  unfold body at h
  split at h
  · cases h; exact List.infix_refl _
  · split at h
    · split at h
      · simp [unwrapBlock] at h
      · split at h
        · split at h
          · rename_i hg
            have hrest := (List.suffix_cons _ _).trans (matchGroup_suffix hg)
            refine ((unwrapBlock_isInfix h).trans hrest.isInfix).trans ?_
            exact ((List.suffix_cons _ _).trans (List.suffix_cons _ _)).isInfix
          · cases h
          · cases h
        · exact (unwrapBlock_isInfix h).trans (List.suffix_cons _ _).isInfix
    · cases h; exact List.infix_refl _

theorem linesOf_pos {startLine : Int} (hs : 1 ≤ startLine) {ts : List Token}
    (ht : ∀ t ∈ ts, 1 ≤ t.line) {span : LineSpan} (h : linesOf startLine ts = some span) :
    1 ≤ span.first ∧ 1 ≤ span.last := by
  unfold linesOf at h
  split at h
  · rename_i first last hf hl
    have h1 := ht first (List.mem_of_mem_head? hf)
    have h2 := ht last (List.mem_of_getLast? hl)
    cases h
    constructor <;> simp only <;> omega
  · cases h

theorem placed_ne_lineBelowOne {sig : Signature} {lines : Option LineSpan}
    (h : ∀ span, lines = some span → 1 ≤ span.first ∧ 1 ≤ span.last) (span : LineSpan) :
    placed sig lines ≠ .error (.lineBelowOne span) := by
  unfold placed
  split
  · rename_i l
    have := h l rfl
    rw [if_neg (by omega)]
    simp
  · simp

/-- A signature in a text that starts on line 1 or later can be placed on its lines. -/
theorem parse_ne_lineBelowOne (text : String) {startLine : Int} (hs : 1 ≤ startLine)
    (span : LineSpan) : (parse text startLine).result ≠ .error (.lineBelowOne span) := by
  unfold parse
  simp only
  split
  · simp
  · rename_i ts hts
    split
    · simp
    · simp
    · rename_i b hb
      split
      · simp
      · apply placed_ne_lineBelowOne
        intro lines hlines
        refine linesOf_pos hs (fun t ht => ?_) hlines
        exact tokenize_line hts ((List.dropLast_sublist _).subset ((body_isInfix hb).subset ht))

end Signature

end TypeTags
