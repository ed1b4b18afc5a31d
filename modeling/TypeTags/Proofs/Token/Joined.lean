import TypeTags.Proofs.Token.Cutting
import TypeTags.Proofs.Token.Literals

/-!
# Tokens of texts that are joined by line feeds

A text that is cut to its end keeps its lexemes when a line feed and more text follow: no lexeme
reads on past a line feed. Its gaps may grow, so the statements are about located tokens, not about
pieces.

Results:
* `cut_chars`: the pieces and the stuck rest are the text.
* `locate_move`: the tokens of pieces that stand further on in a text.
* `locate_cut_blank`: a blank in front only moves the tokens.
* `locate_append_newline`: the tokens of a text before a line feed, then those after it.
-/

namespace TypeTags

theorem cut_chars (glued : Bool) (cs : List Char) :
    (cut glued cs).pieces.flatMap Piece.chars ++ (cut glued cs).stuck = cs := by
  fun_induction cut glued cs with
  | case1 => rfl
  | case2 => rfl
  | case3 glued c cs piece rest h after ih =>
    rw [List.flatMap_cons, List.append_assoc, ih]
    exact Piece.firstPiece_append h

/-! ## Moved tokens -/

/-- The token further on in a text, by some characters and some lines. -/
def Token.move (chars lines : Nat) (t : Token) : Token :=
  { t with start := t.start + chars, stop := t.stop + chars, line := t.line + lines }

@[simp] theorem Token.move_kind (k m : Nat) (t : Token) : (t.move k m).kind = t.kind := rfl

@[simp] theorem Token.move_value (k m : Nat) (t : Token) : (t.move k m).value = t.value := rfl

theorem locate_move (k m offset line : Nat) (ps : List Piece) :
    Token.locate (offset + k) (line + m) ps =
      (Token.locate offset line ps).map (Token.move k m) := by
  induction ps generalizing offset line with
  | nil => rfl
  | cons p ps ih =>
    cases p with
    | gap cs =>
      simp only [Token.locate]
      rw [← ih, Nat.add_right_comm offset, Nat.add_right_comm line]
    | lexeme kind cs =>
      simp only [Token.locate, List.map_cons, Token.move]
      rw [← ih, Nat.add_right_comm offset, Nat.add_right_comm line]

/-- No token of pieces ends behind them. -/
theorem locate_stop_le {offset line : Nat} {ps : List Piece} {t : Token}
    (h : t ∈ Token.locate offset line ps) : t.stop ≤ offset + (ps.flatMap Piece.chars).length := by
  induction ps generalizing offset line with
  | nil =>
    rw [List.mem_singleton.1 h]
    exact Nat.le_add_right _ _
  | cons p ps ih =>
    rw [List.flatMap_cons, List.length_append]
    cases p with
    | gap cs =>
      have := ih h
      simp only [Piece.chars]
      omega
    | lexeme kind cs =>
      simp only [Piece.chars]
      rcases List.mem_cons.1 h with rfl | h
      · simp only; omega
      · have := ih h
        omega

/-! ## Blanks in front -/

/-- A blank in front moves the tokens by one character, and a line feed moves them down a line. -/
theorem locate_cut_blank {c : Char} (hc : Text.isBlank c = true) (glued : Bool) (cs : List Char)
    (offset line : Nat) :
    (cut glued (c :: cs)).stuck = (cut false cs).stuck ∧
      Token.locate offset line (cut glued (c :: cs)).pieces =
        Token.locate (offset + 1) (line + if c = '\n' then 1 else 0) (cut false cs).pieces := by
  have hfirst : ∀ g d ds, Text.isBlank d = true → Piece.firstPiece g d ds =
      some (.gap (d :: ds.takeWhile Text.isBlank), ds.dropWhile Text.isBlank) := by
    intro g d ds hd
    simp [Piece.firstPiece, hd]
  have hfeed : ∀ ds : List Char,
      (c :: ds).count '\n' = (if c = '\n' then 1 else 0) + ds.count '\n' := by
    intro ds
    simp [List.count_cons, Nat.add_comm]
  rw [cut_cons (hfirst glued c cs hc)]
  refine ⟨?_, ?_⟩
  all_goals
    cases cs with
    | nil => simp [Token.locate, Piece.isName, Piece.lineFeeds, hfeed, cut_nil]
    | cons d ds =>
      cases hd : Text.isBlank d with
      | false => simp [hd, Token.locate, Piece.isName, Piece.lineFeeds, hfeed]
      | true =>
        rw [cut_cons (hfirst false d ds hd)]
        simp [hd, Token.locate, Piece.isName, Piece.lineFeeds, hfeed, Nat.add_assoc, Nat.add_comm 1]

/-! ## A line feed behind -/

/-- A line feed cannot go on with a name. -/
theorem endsName_newline (cs : List Char) : EndsName ('\n' :: cs) := endsName_cons (by decide)

theorem colonLexeme_append_newline (glued : Bool) (cs more : List Char) :
    Piece.colonLexeme glued (cs ++ '\n' :: more) =
      ((Piece.colonLexeme glued cs).1, (Piece.colonLexeme glued cs).2 ++ '\n' :: more) := by
  have hword : ∀ c ∈ ('\n' :: more).head?, Text.isWordChar c = false :=
    fun c hc => (endsName_newline more c hc).1
  cases cs with
  | nil => simp [Piece.colonLexeme, show Text.isNameStart '\n' = false by decide]
  | cons c cs =>
    simp only [List.cons_append, Piece.colonLexeme]
    split
    · rfl
    · split
      · rw [takeWhile_append_stop hword, dropWhile_append_stop hword]
      · rfl

theorem punctuation_append_newline (c : Char) (cs more : List Char) :
    Piece.punctuation c (cs ++ '\n' :: more) =
      ((Piece.punctuation c cs).1, (Piece.punctuation c cs).2 ++ '\n' :: more) := by
  cases cs with
  | nil => rfl
  | cons d cs =>
    by_cases hd : d = '>'
    · subst hd
      simp only [List.cons_append, Piece.punctuation]
      split <;> rfl
    · unfold Piece.punctuation
      split <;> split <;> simp_all

/-- Only a gap of white space grows when a line feed follows. -/
theorem firstPiece_append_newline {glued : Bool} {c : Char} {cs rest : List Char} {p : Piece}
    (h : Piece.firstPiece glued c cs = some (p, rest)) (hb : Text.isBlank c = false)
    (more : List Char) :
    Piece.firstPiece glued c (cs ++ '\n' :: more) = some (p, rest ++ '\n' :: more) := by
  have hstop : ∀ {q : Char → Bool}, q '\n' = false → ∀ c ∈ ('\n' :: more).head?, q c = false := by
    intro q hq c hc
    cases hc
    exact hq
  unfold Piece.firstPiece at h ⊢
  rw [hb] at h ⊢
  simp only [Bool.false_eq_true, if_false] at h ⊢
  split
  · rw [if_pos ‹_›] at h
    cases h
    rw [takeWhile_append_stop (hstop rfl), dropWhile_append_stop (hstop rfl)]
  rw [if_neg ‹_›] at h
  split
  · rw [if_pos ‹_›] at h
    cases h
    simp only [Piece.name]
    rw [takeWhile_append_stop (hstop (by decide)), dropWhile_append_stop (hstop (by decide)),
      (endsName_newline more).nameMark]
    rfl
  rw [if_neg ‹_›] at h
  split
  · rw [if_pos ‹_›] at h
    cases h
    rw [takeWhile_append_stop (hstop (by decide)), dropWhile_append_stop (hstop (by decide))]
  rw [if_neg ‹_›] at h
  split
  · rw [if_pos ‹_›] at h
    have hq : c ≠ '\\' := quote_ne_backslash ‹_›
    obtain ⟨⟨tail, r⟩, ht, he⟩ := Option.map_eq_some_iff.1 h
    obtain ⟨body, hbody, rfl, rfl⟩ := (stringTail_eq_some_iff hq).1 ht
    cases he
    rw [List.append_assoc, List.cons_append, hbody.stringTail_eq hq]
    rfl
  rw [if_neg ‹_›] at h
  split
  · rw [if_pos ‹_›, Option.some.injEq] at h
    rw [colonLexeme_append_newline, h]
  · rw [if_neg ‹_›, Option.some.injEq] at h
    rw [punctuation_append_newline, h]

/-- A text that is cut to its end keeps its tokens in front of a line feed. -/
theorem locate_append_newline {glued : Bool} {cs : List Char} (h : (cut glued cs).stuck = [])
    (more : List Char) (offset line : Nat) :
    (cut glued (cs ++ '\n' :: more)).stuck = (cut false more).stuck ∧
      ∃ line', Token.locate offset line (cut glued (cs ++ '\n' :: more)).pieces =
        (Token.locate offset line (cut glued cs).pieces).dropLast ++
          Token.locate (offset + cs.length + 1) line' (cut false more).pieces := by
  -- by the length of the text: one blank or one piece in front is taken off at a time
  induction hn : cs.length using Nat.strongRecOn generalizing glued cs offset line with
  | ind n ih =>
    subst hn
    cases cs with
    | nil =>
      obtain ⟨hs, hl⟩ := locate_cut_blank (c := '\n') (by decide) glued more offset line
      refine ⟨hs, line + 1, ?_⟩
      simpa [cut_nil, Token.locate] using hl
    | cons c cs =>
      cases hb : Text.isBlank c with
      | true =>
        obtain ⟨hs, hl⟩ := locate_cut_blank hb glued cs offset line
        obtain ⟨hs', hl'⟩ := locate_cut_blank hb glued (cs ++ '\n' :: more) offset line
        rw [hs] at h
        obtain ⟨is, line', il⟩ := ih cs.length (by simp) h (offset + 1) _ rfl
        refine ⟨hs'.trans is, line', ?_⟩
        rw [List.cons_append, hl', il, hl, List.length_cons, Nat.add_right_comm offset,
          Nat.add_assoc offset]
      | false =>
        cases hf : Piece.firstPiece glued c cs with
        | none => simp [cut_stuck hf] at h
        | some pr =>
          obtain ⟨p, rest⟩ := pr
          have hlen := congrArg List.length (Piece.firstPiece_append hf)
          rw [List.length_append] at hlen
          rw [cut_cons hf] at h ⊢
          rw [List.cons_append, cut_cons (firstPiece_append_newline hf hb more)]
          obtain ⟨is, line', il⟩ := ih rest.length (Piece.firstPiece_length_lt hf) h
            (offset + p.chars.length) (line + p.lineFeeds) rfl
          refine ⟨is, line', ?_⟩
          rw [← hlen]
          cases p with
          | gap ds =>
            simp only [Piece.chars] at il ⊢
            rw [← Nat.add_assoc]
            exact il
          | lexeme kind ds =>
            simp only [Piece.chars] at il ⊢
            rw [← Nat.add_assoc]
            simp only [Token.locate, il, List.dropLast_cons_of_ne_nil (locate_ne_nil _ _ _),
              List.cons_append]

end TypeTags
