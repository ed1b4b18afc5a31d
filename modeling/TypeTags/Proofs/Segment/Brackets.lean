import TypeTags.Proofs.Segment.Words
import TypeTags.Proofs.Token.Nesting

/-!
# Brackets that a reader of characters sees in a text

The reader that looks for the end of a bracketed group goes through raw text, character by
character. It sees the brackets that the tokens of the text are: the two readers agree on string
literals and comments, and no other lexeme holds a bracket.

Results:
* `Segment.afterBrackets_piece`: reading one piece changes the stack as its token does.
* `Segment.afterBrackets_pieces`: reading a text that is cut to its end changes the stack as its
  tokens do.
-/

namespace TypeTags

namespace Segment

/-- The character of a closing kind; any other kind has one that closes nothing. -/
def closingChar : TokenKind → Char
  | .rparen => ')'
  | .rbrack => ']'
  | .rbrace => '\x7d'
  | _ => ' '

theorem closing?_eq (c : Char) : closing? c = (TokenKind.ofChar c).closer?.map closingChar := by
  unfold closing?
  split
  · rfl
  · rfl
  · rfl
  · unfold TokenKind.ofChar
    split <;> first | rfl | simp_all

theorem isClosing_eq (c : Char) : isClosing c = (TokenKind.ofChar c).isCloser := by
  unfold TokenKind.ofChar
  split <;> first | rfl | simp_all [isClosing, TokenKind.isCloser]

theorem closingChar_ofChar {c : Char} (h : (TokenKind.ofChar c).isCloser = true) :
    closingChar (TokenKind.ofChar c) = c := by
  unfold TokenKind.ofChar at h ⊢
  split at h <;> first | rfl | cases h

/-! ## Single characters -/

/-- A character that neither starts a literal or a comment nor opens or closes a group. -/
structure IsBland (c : Char) : Prop where
  plain : IsPlain c
  opens : closing? c = none
  closes : isClosing c = false

/-- A character is bland if its class excludes the few that are not. -/
theorem isBland_of_class {q : Char → Bool} {c : Char} (h : q c = true)
    (hex : ['\'', '"', '#', '(', ')', '[', ']', '\x7b', '\x7d'].any q = false) : IsBland c := by
  have hne : ∀ d ∈ ['\'', '"', '#', '(', ')', '[', ']', '\x7b', '\x7d'], c ≠ d := by
    rintro d hd rfl
    exact List.any_eq_false.1 hex c hd h
  simp only [List.mem_cons, List.not_mem_nil, or_false, forall_eq_or_imp, forall_eq] at hne
  obtain ⟨h1, h2, h3, h4, h5, h6, h7, h8, h9⟩ := hne
  refine ⟨⟨by simp [isQuote, h1, h2], h3⟩, ?_, by simp [isClosing, h5, h7, h9]⟩
  unfold closing?
  split <;> first | rfl | contradiction

theorem afterBrackets_bland {c : Char} (h : IsBland c) (stack cs : List Char) :
    afterBrackets .code stack (c :: cs) = afterBrackets .code stack cs := by
  simp [afterBrackets, h.plain.1, h.plain.2, h.opens, h.closes]

theorem afterBrackets_blands {cs : List Char} (h : ∀ c ∈ cs, IsBland c) (stack rest : List Char) :
    afterBrackets .code stack (cs ++ rest) = afterBrackets .code stack rest := by
  induction cs with
  | nil => rfl
  | cons c cs ih =>
    rw [List.cons_append, afterBrackets_bland (h c List.mem_cons_self)]
    exact ih fun d hd => h d (List.mem_cons_of_mem _ hd)

/-- A character that is a lexeme by itself changes the stack as that lexeme does. -/
theorem afterBrackets_ofChar {c : Char} (hp : IsPlain c) {stack after : List TokenKind}
    (h : (TokenKind.ofChar c).nest stack = some after) (rest : List Char) :
    afterBrackets .code (stack.map closingChar) (c :: rest) =
      afterBrackets .code (after.map closingChar) rest := by
  simp only [afterBrackets, hp.1, hp.2, closing?_eq, isClosing_eq]
  unfold TokenKind.nest at h
  split at h
  · rename_i hopen
    cases h
    simp [hopen]
  · rename_i hopen
    split at h
    · rename_i hclose
      have hchar := closingChar_ofChar hclose
      split at h
      · split at h
        · rename_i awaited next outer hawaited
          cases h
          rw [hawaited] at hchar
          simp [hopen, hclose, hchar]
        · cases h
      · cases h
    · rename_i hclose
      cases h
      simp [hopen, hclose]

/-! ## Literals and comments -/

theorem afterBrackets_quote {c : Char} (h : isQuote c = true) (stack cs : List Char) :
    afterBrackets .code stack (c :: cs) = afterBrackets (.string c) stack cs :=
  (if_pos rfl).trans (if_pos h)

theorem afterBrackets_hash (stack cs : List Char) :
    afterBrackets .code stack ('#' :: cs) = afterBrackets .comment stack cs := rfl

/-- Outside code a character changes the mode only. -/
theorem afterBrackets_inert {mode : BracketMode} (h : mode ≠ .code) (stack : List Char) (c : Char)
    (cs : List Char) :
    afterBrackets mode stack (c :: cs) = afterBrackets (mode.next c) stack cs :=
  if_neg h

theorem afterBrackets_literal {q : Char} (hq : q ≠ '\\') {body : List Char}
    (h : LiteralBody q body) (stack rest : List Char) :
    afterBrackets (.string q) stack (body ++ q :: rest) = afterBrackets .code stack rest := by
  induction h with
  | nil => simp [afterBrackets_inert, BracketMode.next]
  | plain hc hb _ ih => simpa [afterBrackets_inert, BracketMode.next, hc, hb] using ih
  | escaped c _ ih => simpa [afterBrackets_inert, BracketMode.next, hq.symm] using ih

theorem afterBrackets_stringPiece {q : Char} (hq : q = '\'' ∨ q = '"') {cs tail rest : List Char}
    (h : Piece.stringTail q cs = some (tail, rest)) (stack more : List Char) :
    afterBrackets .code stack (q :: tail ++ more) = afterBrackets .code stack more := by
  have hquote : isQuote q = true := by simpa [isQuote] using hq
  have hne := quote_ne_backslash hq
  obtain ⟨body, hbody, rfl, -⟩ := (stringTail_eq_some_iff hne).1 h
  rw [List.cons_append, afterBrackets_quote hquote, List.append_assoc, List.singleton_append]
  exact afterBrackets_literal hne hbody stack more

theorem afterBrackets_comment {cs : List Char} (h : ∀ c ∈ cs, c ≠ '\n') (stack rest : List Char) :
    afterBrackets .comment stack (cs ++ rest) = afterBrackets .comment stack rest := by
  induction cs with
  | nil => rfl
  | cons c cs ih =>
    have hc := h c List.mem_cons_self
    have hstay : BracketMode.comment.next c = .comment := by simp [BracketMode.next, hc]
    rw [List.cons_append, afterBrackets_inert (by simp), hstay]
    exact ih fun d hd => h d (List.mem_cons_of_mem _ hd)

/-- A comment ends where the next line feed stands, or with the text. -/
theorem afterBrackets_commentPiece (stack cs : List Char) {tail : List Char}
    (ht : ∀ d ∈ tail.head?, d = '\n') :
    afterBrackets .code stack
        ('#' :: cs.takeWhile (· != '\n') ++ (cs.dropWhile (· != '\n') ++ tail)) =
      afterBrackets .code stack (cs.dropWhile (· != '\n') ++ tail) := by
  have hall : ∀ c ∈ cs.takeWhile (· != '\n'), c ≠ '\n' := by
    intro c hc
    simpa using List.all_eq_true.1 List.all_takeWhile c hc
  have hstop : ∀ d ∈ (cs.dropWhile (· != '\n') ++ tail).head?, d = '\n' := by
    intro d hd
    have hnot := List.head?_dropWhile_not (· != '\n') cs
    cases hw : cs.dropWhile (· != '\n') with
    | nil =>
      rw [hw] at hd
      exact ht d hd
    | cons e es =>
      rw [hw] at hd hnot
      cases hd
      simpa using hnot
  rw [List.cons_append, afterBrackets_hash, afterBrackets_comment hall]
  cases hrest : cs.dropWhile (· != '\n') ++ tail with
  | nil => rfl
  | cons d rest =>
    rw [hrest] at hstop
    obtain rfl := hstop d rfl
    rfl

/-! ## Pieces -/

/-- The stack after a piece: a gap changes nothing. -/
def nestPiece (stack : List TokenKind) (p : Piece) : Option (List TokenKind) :=
  stackAfter stack p.kind?.toList

theorem nestPiece_plain {stack : List TokenKind} {p : Piece}
    (h : ∀ kind ∈ p.kind?, kind.closer? = none ∧ kind.isCloser = false) :
    nestPiece stack p = some stack := by
  unfold nestPiece
  cases hk : p.kind? with
  | none => rfl
  | some kind =>
    obtain ⟨ho, hc⟩ := h kind hk
    simp [stackAfter, TokenKind.nest_plain ho hc]

theorem punctuation_cases (c : Char) (cs : List Char) :
    (Piece.punctuation c cs).1 = .lexeme .arrow ['=', '>'] ∨
      (Piece.punctuation c cs).1 = .lexeme (.ofChar c) [c] := by
  unfold Piece.punctuation
  split
  · split
    · exact .inl rfl
    · exact .inr rfl
  · exact .inr rfl

/-- A piece that is no bracket and holds none. -/
structure IsBlandPiece (p : Piece) : Prop where
  kind : ∀ kind ∈ p.kind?, kind.closer? = none ∧ kind.isCloser = false
  chars : ∀ c ∈ p.chars, IsBland c

theorem isBlandPiece_blanks {c : Char} (hc : Text.isBlank c = true) (cs : List Char) :
    IsBlandPiece (.gap (c :: cs.takeWhile Text.isBlank)) where
  kind := by simp [Piece.kind?, Piece.word?]
  chars d hd := isBland_of_class (all_takeWhile hc cs d hd) (by decide)

theorem isBland_nameMark {cs : List Char} {c : Char} (h : c ∈ (Piece.nameMark cs).1) :
    IsBland c := by
  have hmark : c = '?' ∨ c = '!' := by
    rcases nameMark_cases cs with he | he | he
    · rw [he] at h; cases h
    · rw [he] at h; exact .inl (List.mem_singleton.1 h)
    · rw [he] at h; exact .inr (List.mem_singleton.1 h)
  exact isBland_of_class (q := fun d => d == '?' || d == '!') (by simpa using hmark) (by decide)

theorem isBlandPiece_name {c : Char} (hc : Text.isNameStart c = true) (cs : List Char) :
    IsBlandPiece (Piece.name c cs).1 where
  kind := by
    rintro kind ⟨⟩
    split <;> exact ⟨rfl, rfl⟩
  chars d hd := by
    have hword := all_takeWhile (Text.isWordChar_of_isNameStart hc) cs
    rcases List.mem_append.1 hd with hd | hd
    · exact isBland_of_class (hword d hd) (by decide)
    · exact isBland_nameMark hd

theorem isBlandPiece_number {c : Char} (hc : Text.isDigit c = true) (cs : List Char) :
    IsBlandPiece (.lexeme .number (c :: cs.takeWhile Piece.isNumberChar)) where
  kind := by
    rintro kind ⟨⟩
    exact ⟨rfl, rfl⟩
  chars d hd := by
    have hnum : Piece.isNumberChar c = true := by simp [Piece.isNumberChar, hc]
    exact isBland_of_class (all_takeWhile hnum cs d hd) (by decide)

theorem isBlandPiece_colon (before : Bool) (cs : List Char) :
    IsBlandPiece (Piece.colonLexeme before cs).1 := by
  have hcolon : IsBland ':' := isBland_of_class (q := (· == ':')) rfl (by decide)
  have alone : IsBlandPiece (.lexeme .colon [':']) :=
    ⟨by rintro kind ⟨⟩; exact ⟨rfl, rfl⟩, by simpa [Piece.chars] using hcolon⟩
  unfold Piece.colonLexeme
  split
  · exact alone
  · rename_i d ds
    split
    · exact ⟨by rintro kind ⟨⟩; exact ⟨rfl, rfl⟩, by simpa [Piece.chars] using hcolon⟩
    · split
      · rename_i hname
        rw [Bool.and_eq_true] at hname
        have hword := all_takeWhile (Text.isWordChar_of_isNameStart hname.2) ds
        refine ⟨by rintro kind ⟨⟩; exact ⟨rfl, rfl⟩, fun e he => ?_⟩
        rcases List.mem_cons.1 he with rfl | he
        · exact hcolon
        · exact isBland_of_class (hword e he) (by decide)
      · exact alone

/-- A piece without brackets leaves both stacks alone. -/
theorem afterBrackets_blandPiece {p : Piece} (h : IsBlandPiece p) {stack after : List TokenKind}
    (hn : nestPiece stack p = some after) (rest : List Char) :
    afterBrackets .code (stack.map closingChar) (p.chars ++ rest) =
      afterBrackets .code (after.map closingChar) rest := by
  rw [nestPiece_plain h.kind] at hn
  cases hn
  exact afterBrackets_blands h.chars _ _

/-- **One piece.** Reading the piece in front of a text changes the stack as its token does. What is
put behind the text must not go on with a comment. -/
theorem afterBrackets_piece {before : Bool} {c : Char} {cs rest : List Char} {p : Piece}
    (h : Piece.First before c cs p rest) {stack after : List TokenKind}
    (hn : nestPiece stack p = some after) {tail : List Char} (ht : ∀ d ∈ tail.head?, d = '\n') :
    afterBrackets .code (stack.map closingChar) (p.chars ++ (rest ++ tail)) =
      afterBrackets .code (after.map closingChar) (rest ++ tail) := by
  cases h with
  | blank hb => exact afterBrackets_blandPiece (isBlandPiece_blanks hb cs) hn _
  | comment hc =>
    subst hc
    cases hn
    exact afterBrackets_commentPiece _ cs ht
  | name hb hc hname => exact afterBrackets_blandPiece (isBlandPiece_name hname cs) hn _
  | number hname hdig => exact afterBrackets_blandPiece (isBlandPiece_number hdig cs) hn _
  | @string tail' rest hq hs =>
    cases hn
    exact afterBrackets_stringPiece hq hs _ _
  | colon hk => exact afterBrackets_blandPiece (isBlandPiece_colon before cs) hn _
  | punctuation hb hc hname hdig hq hk =>
    have hplain : IsPlain c := ⟨by simpa [isQuote] using hq, hc⟩
    rcases punctuation_cases c cs with he | he
    · rw [he] at hn ⊢
      cases hn
      refine afterBrackets_blands (fun d hd => ?_) _ _
      exact isBland_of_class (q := fun d => d ∈ ['=', '>']) (by simpa [Piece.chars] using hd)
        (by decide)
    · rw [he] at hn ⊢
      have hn : (TokenKind.ofChar c).nest stack = some after := by
        simpa [nestPiece, Piece.kind?, Piece.word?, stackAfter] using hn
      exact afterBrackets_ofChar hplain hn _

/-- **Whole texts.** Reading a text that is cut to its end changes the stack as its tokens do. -/
theorem afterBrackets_pieces {before : Bool} {cs : List Char} (h : (cut before cs).stuck = [])
    {stack after : List TokenKind}
    (hn : stackAfter stack ((cut before cs).pieces.filterMap Piece.kind?) = some after)
    {tail : List Char} (ht : ∀ d ∈ tail.head?, d = '\n') :
    afterBrackets .code (stack.map closingChar) (cs ++ tail) =
      afterBrackets .code (after.map closingChar) tail := by
  fun_induction cut before cs generalizing stack with
  | case1 =>
    cases hn
    rfl
  | case2 => cases h
  | case3 before c cs p rest hp behind ih =>
    obtain ⟨mid, hmid, hrest⟩ : ∃ mid, nestPiece stack p = some mid ∧
        stackAfter mid (behind.pieces.filterMap Piece.kind?) = some after := by
      unfold nestPiece
      cases hk : p.kind? with
      | none =>
        rw [List.filterMap_cons, hk] at hn
        exact ⟨stack, rfl, hn⟩
      | some kind =>
        rw [List.filterMap_cons, hk] at hn
        obtain ⟨mid, hmid, hrest⟩ := Option.bind_eq_some_iff.1 hn
        exact ⟨mid, by simp [stackAfter, hmid], hrest⟩
    rw [← Piece.firstPiece_append hp, List.append_assoc,
      afterBrackets_piece (Piece.first_of_firstPiece hp) hmid ht]
    exact ih h hrest

end Segment

end TypeTags
