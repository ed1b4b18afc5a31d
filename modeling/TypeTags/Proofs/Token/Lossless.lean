import TypeTags.Proofs.Signature.Block
import TypeTags.Proofs.Token.Span

/-!
# Nothing is lost between the tokens

The tokens of a text lie in it one behind the other, and what stands before, between and behind them
is white space and comments. A text has no tokens only if one of its string literals is never closed.
That a literal opens at a quote is told by the text up to the quote alone: in front of a text that
closes it, a token starts there.

Results:
* `CutsOff.requote`: the pieces in front of a quote do not depend on what stands behind it.
* `tokenize_eq_error_iff`: which texts have no tokens.
* `lossless_tokens`: how the tokens of a text lie in it.
* `tokenize_lossless`: the two together.
-/

namespace TypeTags

/-! ## Cutting up to a quote -/

/-- The pieces are taken off the front of a text, one by one, and cutting goes on with the rest. -/
inductive CutsOff : Bool → List Piece → Bool → List Char → Prop where
  | nil (glued : Bool) (rest : List Char) : CutsOff glued [] glued rest
  | cons {glued next : Bool} {c : Char} {v rest : List Char} {p : Piece} {ps : List Piece}
      (hp : p.chars = c :: v)
      (hf : Piece.firstPiece glued c (v ++ (ps.flatMap Piece.chars ++ rest)) =
        some (p, ps.flatMap Piece.chars ++ rest))
      (h : CutsOff p.isName ps next rest) : CutsOff glued (p :: ps) next rest

theorem CutsOff.cut_eq {glued next : Bool} {ps : List Piece} {rest : List Char}
    (h : CutsOff glued ps next rest) :
    cut glued (ps.flatMap Piece.chars ++ rest) = (cut next rest).after ps := by
  induction h with
  | nil => rfl
  | @cons glued next c v rest p ps hp hf h ih =>
    rw [List.flatMap_cons, hp, List.append_assoc, List.cons_append, cut_cons hf, ih]
    rfl

/-- A piece in front, and what is taken off behind it. -/
theorem CutsOff.push {glued next : Bool} {c : Char} {cs rest tail : List Char} {p : Piece}
    {ps : List Piece} (hf : Piece.firstPiece glued c cs = some (p, rest))
    (hrest : rest = ps.flatMap Piece.chars ++ tail) (h : CutsOff p.isName ps next tail) :
    CutsOff glued (p :: ps) next tail := by
  obtain ⟨d, v, hp⟩ := List.exists_cons_of_ne_nil (Piece.firstPiece_ne_nil hf)
  have hchars := Piece.firstPiece_append hf
  rw [hp, List.cons_append, List.cons.injEq] at hchars
  obtain ⟨rfl, rfl⟩ := hchars
  subst hrest
  exact .cons hp hf h

/-- The pieces of a text are taken off, and what is left cannot be cut. -/
theorem cutsOff_stuck (glued : Bool) (cs : List Char) :
    ∃ next, CutsOff glued (cut glued cs).pieces next (cut glued cs).stuck ∧
      ∀ c ds, (cut glued cs).stuck = c :: ds → Piece.firstPiece next c ds = none := by
  fun_induction cut glued cs with
  | case1 glued => exact ⟨glued, .nil _ _, by simp⟩
  | case2 glued c cs h =>
    refine ⟨glued, .nil _ _, ?_⟩
    rintro _ _ ⟨⟩
    exact h
  | case3 glued c cs p rest hf after ih =>
    obtain ⟨next, hoff, hstuck⟩ := ih
    exact ⟨next, .push hf (cut_chars _ _).symm hoff, hstuck⟩

/-- A gap is its first character and all that go on with it. -/
theorem exists_gapClass {c : Char} (h : isGapStart c = true) :
    ∃ r : Char → Bool, ∀ glued cs,
      Piece.firstPiece glued c cs = some (.gap (c :: cs.takeWhile r), cs.dropWhile r) := by
  simp only [isGapStart, Bool.or_eq_true, beq_iff_eq] at h
  rcases h with hb | rfl
  · exact ⟨Text.isBlank, fun glued cs => if_pos hb⟩
  · exact ⟨(· != '\n'), fun glued cs => rfl⟩

/-- A gap in front of a quote stays what it is when the text behind the quote is another one. -/
theorem firstPiece_gap_requote {glued : Bool} {c q : Char} {v front behind : List Char}
    (hf : Piece.firstPiece glued c (v ++ (front ++ q :: behind)) =
      some (.gap (c :: v), front ++ q :: behind)) (behind' : List Char) :
    Piece.firstPiece glued c (v ++ (front ++ q :: behind')) =
      some (.gap (c :: v), front ++ q :: behind') := by
  obtain ⟨r, hr⟩ := exists_gapClass (isGapStart_of_gap hf)
  rw [hr] at hf ⊢
  simp only [Option.some.injEq, Prod.mk.injEq, Piece.gap.injEq, List.cons.injEq, true_and] at hf ⊢
  -- what ends the gap is the first character of `front`, or the quote
  refine span_congr (fun hstop => ?_) hf.1 hf.2
  cases front <;> exact hstop

/-- So does a lexeme in front of a quote. -/
theorem showsNoMore_requote {q : Char} (hq : q = '\'' ∨ q = '"')
    (front behind behind' : List Char) :
    ShowsNoMore (front ++ q :: behind) (front ++ q :: behind') := by
  match front with
  | [] =>
    refine ⟨fun c _ hc => hc, fun hbang => ?_⟩
    rcases hq with rfl | rfl <;> cases hbang
  | [c] => exact ⟨fun d _ hd => hd, fun _ he => he⟩
  | c :: d :: front => exact ⟨fun d _ hd => hd, fun _ he => he⟩

/-- **Up to a quote.** The pieces in front of a quote do not depend on what stands behind it. -/
theorem CutsOff.requote {glued next : Bool} {ps : List Piece} {q : Char} {behind : List Char}
    (hq : q = '\'' ∨ q = '"') (h : CutsOff glued ps next (q :: behind)) (behind' : List Char) :
    CutsOff glued ps next (q :: behind') := by
  generalize hrest : q :: behind = rest at h
  induction h with
  | nil glued rest => exact .nil _ _
  | @cons glued next c v rest p ps hp hf h ih =>
    subst hrest
    refine .cons hp ?_ (ih rfl)
    cases p with
    | gap ds =>
      obtain rfl : ds = c :: v := hp
      exact firstPiece_gap_requote hf behind'
    | lexeme kind ds =>
      obtain rfl : ds = c :: v := hp
      exact firstPiece_showsNoMore (showsNoMore_requote hq _ behind behind') hf

/-! ## Where tokens start -/

/-- In front of each token some pieces are taken off. -/
theorem cutsOff_of_mem {glued : Bool} {cs : List Char} (offset line : Nat) {t : Token}
    (ht : t ∈ Token.locate offset line (cut glued cs).pieces) (hk : t.kind ≠ .eof) :
    ∃ ps next rest, CutsOff glued ps next rest ∧ cs = ps.flatMap Piece.chars ++ rest ∧
      t.start = offset + (ps.flatMap Piece.chars).length := by
  fun_induction cut glued cs generalizing offset line with
  | case1 glued =>
    rw [List.mem_singleton.1 ht] at hk
    exact absurd rfl hk
  | case2 glued c cs h =>
    rw [List.mem_singleton.1 ht] at hk
    exact absurd rfl hk
  | case3 glued c cs p rest hf after ih =>
    -- the piece in front is taken off as well
    have hpush : t ∈ Token.locate (offset + p.chars.length) (line + p.lineFeeds)
        (cut p.isName rest).pieces →
        ∃ ps next tail, CutsOff glued ps next tail ∧ c :: cs = ps.flatMap Piece.chars ++ tail ∧
          t.start = offset + (ps.flatMap Piece.chars).length := by
      intro hm
      obtain ⟨ps, next, tail, hoff, hrest, hstart⟩ := ih _ _ hm
      refine ⟨p :: ps, next, tail, .push hf hrest hoff, ?_, ?_⟩
      · rw [List.flatMap_cons, List.append_assoc, ← hrest, Piece.firstPiece_append hf]
      · rw [hstart, List.flatMap_cons, List.length_append, Nat.add_assoc]
    cases p with
    | gap ds => exact hpush ht
    | lexeme kind ds =>
      rcases List.mem_cons.1 ht with rfl | hm
      · exact ⟨[], glued, c :: cs, .nil _ _, rfl, rfl⟩
      · exact hpush hm

/-- A string literal opens behind `before`, where a token starts, and `behind` does not close it.
That a token starts there is told by a text that goes on in another way behind the quote. -/
structure OpensUnclosed (before : List Char) (q : Char) (behind : List Char) : Prop where
  quote : q = '\'' ∨ q = '"'
  starts : ∃ more ts, tokenize (before ++ q :: more) = .ok ts ∧
    ∃ t ∈ ts, t.kind = .string ∧ t.start = before.length
  unclosed : ∀ body rest, LiteralBody q body → behind ≠ body ++ q :: rest

theorem cut_unclosed {q : Char} (hq : q = '\'' ∨ q = '"') {behind : List Char}
    (h : Piece.stringTail q behind = none) (glued : Bool) :
    cut glued (q :: behind) = ⟨[], q :: behind⟩ := by
  apply cut_stuck
  rw [firstPiece_quote hq, h]
  rfl

/-- A literal that is closed at once is a token. -/
theorem tokenize_closed {ps : List Piece} {next : Bool} {q : Char} {behind : List Char}
    (hq : q = '\'' ∨ q = '"') (h : CutsOff false ps next (q :: behind)) :
    ∃ ts, tokenize (ps.flatMap Piece.chars ++ [q, q]) = .ok ts ∧
      ∃ t ∈ ts, t.kind = .string ∧ t.start = (ps.flatMap Piece.chars).length := by
  have hclosed : Piece.stringTail q [q] = some ([q], []) :=
    (stringTail_eq_some_iff (quote_ne_backslash hq)).2 ⟨[], .nil, rfl, rfl⟩
  have hpiece : Piece.firstPiece next q [q] = some (.lexeme .string [q, q], []) := by
    rw [firstPiece_quote hq, hclosed]
    rfl
  have hcut := (h.requote hq [q]).cut_eq
  rw [cut_cons hpiece, cut_nil] at hcut
  have hline := locate_append 0 1 ps [.lexeme .string [q, q]]
  refine ⟨_, tokenize_of_cut hcut, ?_⟩
  rw [hline, Nat.zero_add]
  exact ⟨_, List.mem_append_right _ List.mem_cons_self, rfl, rfl⟩

/-- **Texts without tokens.** Only a literal that is never closed is in the way. -/
theorem tokenize_eq_error_iff {text : List Char} {fault : Fault} :
    tokenize text = .error fault ↔ ∃ before q behind, text = before ++ q :: behind ∧
      OpensUnclosed before q behind ∧ fault = ⟨.unterminatedString, some before.length⟩ := by
  constructor
  · intro h
    obtain ⟨next, hoff, hstuck⟩ := cutsOff_stuck false text
    have hchars := cut_chars false text
    unfold tokenize at h
    split at h
    · cases h
    · rename_i pieces stuck hne hcut
      rw [hcut] at hoff hstuck hchars
      cases h
      obtain ⟨q, behind, rfl⟩ := List.exists_cons_of_ne_nil hne
      obtain ⟨hq, hnone⟩ := firstPiece_eq_none (hstuck q behind rfl)
      refine ⟨pieces.flatMap Piece.chars, q, behind, hchars.symm, ?_, ?_⟩
      · obtain ⟨ts, hts, htoken⟩ := tokenize_closed hq hoff
        exact ⟨hq, ⟨[q], ts, hts, htoken⟩, (stringTail_eq_none_iff (quote_ne_backslash hq)).1 hnone⟩
      · simp [← hchars]
  · rintro ⟨before, q, behind, rfl, h, rfl⟩
    obtain ⟨more, ts, hts, t, ht, hkind, hstart⟩ := h.starts
    obtain ⟨-, rfl⟩ := cut_of_tokenize hts
    obtain ⟨ps, next, rest, hoff, hcs, hps⟩ := cutsOff_of_mem 0 1 ht (by rw [hkind]; decide)
    obtain ⟨rfl, rfl⟩ := List.append_inj hcs (by omega)
    have hnone := (stringTail_eq_none_iff (quote_ne_backslash h.quote)).2 h.unclosed
    have hcut := (hoff.requote h.quote behind).cut_eq
    rw [cut_unclosed h.quote hnone] at hcut
    unfold tokenize
    rw [hcut]
    simp [Cutting.after]

/-! ## Tokens in their text -/

theorem firstPiece_kind_ne_eof {glued : Bool} {c : Char} {cs ds rest : List Char}
    {kind : TokenKind} (h : Piece.firstPiece glued c cs = some (.lexeme kind ds, rest)) :
    kind ≠ .eof := by
  rintro rfl
  have hfirst := Piece.first_of_firstPiece h
  generalize hp : Piece.lexeme .eof ds = p at hfirst
  cases hfirst with
  | name =>
    simp only [Piece.name, Piece.lexeme.injEq] at hp
    split at hp <;> cases hp.1
  | colon hc =>
    unfold Piece.colonLexeme at hp
    split at hp
    · cases hp
    split at hp
    · cases hp
    split at hp <;> cases hp
  | punctuation =>
    have hofChar : TokenKind.ofChar c ≠ .eof := by
      unfold TokenKind.ofChar
      split <;> nofun
    unfold Piece.punctuation at hp
    split at hp
    · split at hp
      · cases hp
      · exact hofChar (Piece.lexeme.inj hp).1.symm
    · exact hofChar (Piece.lexeme.inj hp).1.symm
  | _ => cases hp

theorem locate_cut_kind (glued : Bool) (cs : List Char) (offset line : Nat) :
    ∀ t ∈ (Token.locate offset line (cut glued cs).pieces).dropLast, t.kind ≠ .eof := by
  fun_induction cut glued cs generalizing offset line with
  | case1 glued => simp [Token.locate]
  | case2 glued c cs h => simp [Token.locate]
  | case3 glued c cs p rest hf after ih =>
    cases p with
    | gap ds => exact ih _ _
    | lexeme kind ds =>
      rw [Token.locate, List.dropLast_cons_of_ne_nil (locate_ne_nil _ _ _)]
      exact List.forall_mem_cons.2 ⟨firstPiece_kind_ne_eof hf, ih _ _⟩

/-- The value of a token is the text between its offsets. -/
theorem locate_value (before after : List Char) (line : Nat) (ps : List Piece) :
    ∀ t ∈ Token.locate before.length line ps, t.value.toList =
      ((before ++ (ps.flatMap Piece.chars ++ after)).drop t.start).take (t.stop - t.start) := by
  -- one piece is moved to the characters before
  induction ps generalizing before line with
  | nil => simp [Token.locate, Token.endMark]
  | cons p ps ih =>
    have hbehind := ih (before ++ p.chars) (line + p.lineFeeds)
    rw [List.length_append, List.append_assoc] at hbehind
    rw [List.flatMap_cons, List.append_assoc]
    cases p with
    | gap ds => exact hbehind
    | lexeme kind ds =>
      refine List.forall_mem_cons.2 ⟨?_, hbehind⟩
      simp [Piece.chars]

/-- No token starts before the one in front of it ends. -/
theorem locate_apart (offset line : Nat) (ps : List Piece) :
    (Token.locate offset line ps).Pairwise fun a b => a.stop ≤ b.start := by
  induction ps generalizing offset line with
  | nil => exact List.pairwise_singleton _ _
  | cons p ps ih =>
    cases p with
    | gap ds => exact ih _ _
    | lexeme kind ds => exact List.pairwise_cons.2 ⟨fun t ht => locate_start_le ht, ih _ _⟩

/-! ## What stands between the tokens -/

/-- White space and comments at the end of a text, where the last comment need not end with a line
feed. -/
def TrailingGap (gap : List Char) : Prop :=
  GapText gap ∨ ∃ front body, GapText front ∧ '\n' ∉ body ∧ gap = front ++ '#' :: body

theorem TrailingGap.append {gap more : List Char} (h : GapText gap) (k : TrailingGap more) :
    TrailingGap (gap ++ more) := by
  rcases k with k | ⟨front, body, hfront, hbody, rfl⟩
  · exact .inl (h.append k)
  · exact .inr ⟨gap ++ front, body, h.append hfront, hbody, (List.append_assoc _ _ _).symm⟩

/-- A text without lexemes is one gap. -/
theorem trailingGap_of_lexemes {cs : List Char} (h : lexemes false cs = ([], [])) :
    TrailingGap cs := by
  -- by the length of the text: a blank or a comment is taken off at a time
  induction hn : cs.length using Nat.strongRecOn generalizing cs with
  | ind n ih =>
    subst hn
    cases cs with
    | nil => exact .inl .nil
    | cons c cs =>
      cases hf : Piece.firstPiece false c cs with
      | none => simp [lexemes, cut_stuck hf] at h
      | some pr =>
        obtain ⟨p, rest⟩ := pr
        cases p with
        | lexeme kind ds => simp [lexemes_lexeme hf] at h
        | gap ds =>
          have hstart := isGapStart_of_gap hf
          simp only [isGapStart, Bool.or_eq_true, beq_iff_eq] at hstart
          rcases hstart with hb | rfl
          · rw [lexemes_blank hb] at h
            exact .append (.blank hb .nil) (ih cs.length (Nat.lt_succ_self _) h rfl)
          · by_cases hfeed : '\n' ∈ cs
            · obtain ⟨body, rest, rfl, hbody⟩ := List.eq_append_cons_of_mem hfeed
              rw [lexemes_comment _ hbody] at h
              have hlen : rest.length < ('#' :: (body ++ '\n' :: rest)).length := by
                simp only [List.length_cons, List.length_append]
                omega
              have hgap := TrailingGap.append (.comment hbody .nil) (ih rest.length hlen h rfl)
              simpa using hgap
            · exact .inr ⟨[], cs, .nil, hfeed, rfl⟩

/-- The gaps before the lexemes end with their comments; the last one need not. -/
theorem Lexes.gaps {glued : Bool} {gaps : List (List Char)} {words : List (TokenKind × String)}
    (h : Lexes glued gaps words) :
    (∀ gap ∈ gaps.dropLast, GapText gap) ∧ ∀ gap ∈ gaps.getLast?, TrailingGap gap := by
  induction h with
  | last hs hl => exact ⟨nofun, by simpa using trailingGap_of_lexemes (hl false)⟩
  | @cons glued gap gaps kind c v words hg hf h ih =>
    have hne : gaps ≠ [] := by cases h <;> nofun
    rw [List.dropLast_cons_of_ne_nil hne, List.getLast?_cons_of_ne_nil hne]
    exact ⟨List.forall_mem_cons.2 ⟨hg, ih.1⟩, ih.2⟩

/-! ## Main results -/

/-- The tokens and the gaps between them are the whole text. -/
structure Lossless (text : List Char) (ts : List Token) : Prop where
  /-- The last token marks the end of the text. -/
  last : ∃ line, ts = ts.dropLast ++ [.endMark text.length line]
  /-- No other token does, or is empty. -/
  lexeme : ∀ t ∈ ts.dropLast, t.kind ≠ .eof ∧ t.start < t.stop
  apart : ts.Pairwise fun a b => a.stop ≤ b.start
  value : ∀ t ∈ ts, t.value.toList = (text.drop t.start).take (t.stop - t.start)
  /-- There is one gap in front of each token, the end mark included. -/
  gaps : ∀ gap ∈ (gapsOf text ts).dropLast, GapText gap
  lastGap : ∀ gap ∈ (gapsOf text ts).getLast?, TrailingGap gap
  whole : weave (gapsOf text ts) (ts.map Token.word) = text

theorem lossless_tokens {text : List Char} {ts : List Token} (h : tokenize text = .ok ts) :
    Lossless text ts := by
  have hlexes := tokenize_lexes h
  have hlast := tokenize_concat h
  have hlaid := tokenize_laid h
  obtain ⟨hstuck, hts⟩ := cut_of_tokenize h
  have hvalue := locate_value [] [] 1 (cut false text).pieces
  have hchars := cut_chars false text
  rw [hstuck] at hchars
  rw [hchars] at hvalue
  refine ⟨hlast, fun t ht => ⟨?_, (hlaid.stands t ht).start_lt_stop⟩, ?_, ?_, hlexes.1.gaps.1,
    hlexes.1.gaps.2, hlexes.2⟩
  · rw [hts] at ht
    exact locate_cut_kind false text 0 1 t ht
  · rw [hts]
    exact locate_apart 0 1 _
  · rw [hts]
    exact hvalue

/-- **Nothing is lost.** The tokens of a text and the white space and comments between them are the
text. It has no tokens, and the fault names a quote, exactly if that quote opens a string literal
that is never closed. -/
theorem tokenize_lossless (text : List Char) :
    (∀ ts, tokenize text = .ok ts → Lossless text ts) ∧
      ∀ fault, tokenize text = .error fault ↔
        ∃ before q behind, text = before ++ q :: behind ∧ OpensUnclosed before q behind ∧
          fault = ⟨.unterminatedString, some before.length⟩ :=
  ⟨fun _ => lossless_tokens, fun _ => tokenize_eq_error_iff⟩

/-- Quotes behind a mark, behind a backslash and in a comment. -/
def quotedText : List Char := "a? \"x\\\"#\" # 'y\n".toList

def quotedTokens : List Token :=
  [⟨.ident, "a?", 0, 2, 1⟩, ⟨.string, "\"x\\\"#\"", 3, 9, 1⟩, ⟨.eof, "", 15, 15, 2⟩]

/-- The first text has tokens, and when it goes on with a literal whose only other quote stands
behind a backslash, it has none. -/
theorem tokenize_lossless_quotedText :
    (tokenize quotedText = .ok quotedTokens ∧ Lossless quotedText quotedTokens) ∧
      tokenize (quotedText ++ "b:'\\'c # \"".toList) =
        .error ⟨.unterminatedString, some 17⟩ := by
  have htokens : tokenize quotedText = .ok quotedTokens := by
    rw [tokenize_of_cut (show cut false quotedText = ⟨(cut false quotedText).pieces, []⟩ by
      decide +kernel)]
    exact congrArg _ (by decide +kernel)
  refine ⟨⟨htokens, (tokenize_lossless quotedText).1 _ htokens⟩, ?_⟩
  have hstarts : ∃ more ts, tokenize (quotedText ++ "b:".toList ++ '\'' :: more) = .ok ts ∧
      ∃ t ∈ ts, t.kind = .string ∧ t.start = (quotedText ++ "b:".toList).length :=
    ⟨['\''], Token.locate 0 1 (cut false (quotedText ++ "b:''".toList)).pieces,
      tokenize_of_cut (by decide +kernel), ⟨.string, "''", 17, 19, 2⟩, by decide +kernel⟩
  exact ((tokenize_lossless _).2 _).2
    ⟨quotedText ++ "b:".toList, '\'', "\\'c # \"".toList, by decide, ⟨.inl rfl, hstarts,
      (stringTail_eq_none_iff (by decide)).1 (by decide +kernel)⟩, by decide⟩

end TypeTags
