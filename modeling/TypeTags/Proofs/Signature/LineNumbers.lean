import TypeTags.Proofs.Signature.Accepted
import TypeTags.Proofs.Token.Squeezed

/-!
# Line numbers

The number of a token's line counts the line feeds of the text up to the token's end, in gaps and in
string literals alike. One line feed is left out: the one that stands behind a backslash in a
literal, since the backslash takes the next character with it. So the lines behind such a literal
are numbered too low, and all others are exact.

* `Token.escapedFeeds`: the line feeds in a token that its line number leaves out.

Results:
* `bareLineFeeds_add_escaped`: the line feeds of a literal are counted or escaped.
* `locate_lines`: the lines of located tokens, counted through the text before each.
* `Signature.lines_numbered`: the lines of the tokens of a text, and of a signature read from it.
-/

namespace TypeTags

/-! ## Line feeds in literals -/

namespace Piece

/-- The line feeds in the body of a string literal that a backslash takes with it. -/
def escapedLineFeeds : List Char → Nat
  | [] => 0
  | '\\' :: c :: cs => escapedLineFeeds cs + if c = '\n' then 1 else 0
  | _ :: cs => escapedLineFeeds cs

theorem bareLineFeeds_add_escaped (cs : List Char) :
    bareLineFeeds cs + escapedLineFeeds cs = cs.count '\n' := by
  fun_induction bareLineFeeds cs with
  | case1 => rfl
  | case2 c cs ih =>
    rw [escapedLineFeeds, ← Nat.add_assoc, ih, List.count_cons_of_ne (by decide), List.count_cons]
    simp
  | case3 c cs hne ih =>
    have hplain : escapedLineFeeds (c :: cs) = escapedLineFeeds cs := by
      rw [escapedLineFeeds]
      exact hne
    rw [hplain, List.count_cons, ← ih]
    simp only [beq_iff_eq]
    omega

/-- A lexeme that is no string literal holds no line feed. -/
theorem count_lexeme {glued : Bool} {c : Char} {cs ds rest : List Char} {kind : TokenKind}
    (h : firstPiece glued c cs = some (.lexeme kind ds, rest)) (hk : kind ≠ .string) :
    ds.count '\n' = 0 := by
  have hquote : ¬ (c = '\'' ∨ c = '"') := by
    intro hq
    rw [firstPiece_quote hq] at h
    obtain ⟨⟨tail, left⟩, -, he⟩ := Option.map_eq_some_iff.1 h
    cases he
    exact hk rfl
  rw [List.count_eq_zero]
  intro hm
  exact absurd (firstPiece_dense h hquote _ hm) (by decide)

end Piece

namespace Token

/-- The line feeds in the token that its line number leaves out. -/
def escapedFeeds (t : Token) : Nat :=
  if t.kind = .string then Piece.escapedLineFeeds t.value.toList else 0

end Token

/-- The line feeds in tokens that line numbers leave out. -/
def escapedFeeds : List Token → Nat
  | [] => 0
  | t :: ts => t.escapedFeeds + escapedFeeds ts

@[simp] theorem escapedFeeds_nil : escapedFeeds [] = 0 := rfl

@[simp] theorem escapedFeeds_cons (t : Token) (ts : List Token) :
    escapedFeeds (t :: ts) = t.escapedFeeds + escapedFeeds ts := rfl

@[simp] theorem escapedFeeds_append (ts us : List Token) :
    escapedFeeds (ts ++ us) = escapedFeeds ts + escapedFeeds us := by
  induction ts with
  | nil => simp
  | cons t ts ih => rw [List.cons_append, escapedFeeds_cons, escapedFeeds_cons, ih, Nat.add_assoc]

theorem escapedFeeds_eq_zero_iff {ts : List Token} :
    escapedFeeds ts = 0 ↔ ∀ t ∈ ts, t.escapedFeeds = 0 := by
  induction ts with
  | nil => simp
  | cons t ts ih => simp [ih]

/-- The line feeds of a lexeme are counted in its line number or escaped. -/
theorem lineFeeds_add_escaped {glued : Bool} {c : Char} {cs ds rest : List Char}
    {kind : TokenKind} (h : Piece.firstPiece glued c cs = some (.lexeme kind ds, rest))
    (start stop line : Nat) :
    (Piece.lexeme kind ds).lineFeeds +
      Token.escapedFeeds ⟨kind, String.ofList ds, start, stop, line⟩ = ds.count '\n' := by
  by_cases hk : kind = .string
  · subst hk
    simpa [Token.escapedFeeds, Piece.lineFeeds] using Piece.bareLineFeeds_add_escaped ds
  · rw [Piece.count_lexeme h hk]
    simp [Token.escapedFeeds, Piece.lineFeeds, hk]

/-! ## Lines of tokens -/

/-- **Tokens.** Behind some characters of a text, the line of a token is told by the line feeds up
to its end, without the escaped ones. Only a string literal holds line feeds itself. -/
theorem locate_lines (glued : Bool) (lead cs : List Char) (line : Nat) {front back : List Token}
    {t : Token}
    (h : Token.locate lead.length line (cut glued cs).pieces = front ++ t :: back) :
    t.line + escapedFeeds (front ++ [t]) + lead.count '\n' =
        line + ((lead ++ cs).take t.stop).count '\n' ∧
      (t.kind ≠ .string →
        ((lead ++ cs).take t.start).count '\n' = ((lead ++ cs).take t.stop).count '\n') := by
  -- one piece is moved to the characters in front
  fun_induction cut glued cs generalizing lead line front with
  | case1 glued | case2 glued c cs hstuck =>
    obtain ⟨rfl, rfl, rfl⟩ : front = [] ∧ t = Token.endMark lead.length line ∧ back = [] := by
      cases front <;> simp_all [Token.locate]
    simp [Token.endMark, Token.escapedFeeds]
  | case3 glued c cs piece rest hfirst after ih =>
    have hchars := Piece.firstPiece_append hfirst
    have hlen : (lead ++ piece.chars).length = lead.length + piece.chars.length :=
      List.length_append
    have hbehind := @ih (lead ++ piece.chars) (line + piece.lineFeeds)
    rw [List.append_assoc, hchars, hlen, List.count_append] at hbehind
    cases piece with
    | gap ds =>
      obtain ⟨hline, hplain⟩ := hbehind h
      simp only [Piece.lineFeeds, Piece.chars] at hline
      exact ⟨by omega, hplain⟩
    | lexeme kind ds =>
      simp only [Piece.chars] at hbehind hchars
      have hfeeds := lineFeeds_add_escaped hfirst lead.length (lead.length + ds.length)
        (line + (Piece.lexeme kind ds).lineFeeds)
      rw [Token.locate] at h
      cases front with
      | nil =>
        obtain ⟨rfl, -⟩ := List.cons.inj h
        have htake : ((lead ++ c :: cs).take (lead.length + ds.length)).count '\n' =
            lead.count '\n' + ds.count '\n' := by
          rw [← hchars, ← List.append_assoc, List.take_left' List.length_append, List.count_append]
        refine ⟨?_, fun hk => ?_⟩
        · simp only [List.nil_append, escapedFeeds_cons, escapedFeeds_nil, htake]
          omega
        · rw [htake, Piece.count_lexeme hfirst hk, List.take_left]
          rfl
      | cons first front =>
        obtain ⟨rfl, hmore⟩ := List.cons.inj h
        obtain ⟨hline, hplain⟩ := hbehind hmore
        rw [List.cons_append, escapedFeeds_cons]
        exact ⟨by omega, hplain⟩

section Text

variable {text : List Char} {ts front back : List Token} {t : Token}

theorem tokenize_line_eq (h : tokenize text = .ok ts) (hs : ts = front ++ t :: back) :
    t.line + escapedFeeds (front ++ [t]) = 1 + (text.take t.stop).count '\n' := by
  obtain ⟨-, rfl⟩ := cut_of_tokenize h
  simpa using (locate_lines false [] text 1 hs).1

theorem count_token (h : tokenize text = .ok ts) (ht : t ∈ ts) (hk : t.kind ≠ .string) :
    (text.take t.start).count '\n' = (text.take t.stop).count '\n' := by
  obtain ⟨-, rfl⟩ := cut_of_tokenize h
  obtain ⟨front, back, hs⟩ := List.append_of_mem ht
  simpa using (locate_lines false [] text 1 hs).2 hk

/-- All line numbers are exact if no line feed is escaped, and only then. -/
theorem exact_lines_iff (h : tokenize text = .ok ts) :
    (∀ t ∈ ts, t.line = 1 + (text.take t.stop).count '\n') ↔ ∀ t ∈ ts, t.escapedFeeds = 0 := by
  have hsum : ∀ {front back : List Token} {t : Token}, ts = front ++ t :: back →
      t.line + (escapedFeeds front + t.escapedFeeds) = 1 + (text.take t.stop).count '\n' := by
    intro front back t hs
    simpa using tokenize_line_eq h hs
  constructor
  · intro hexact t ht
    obtain ⟨front, back, hs⟩ := List.append_of_mem ht
    have := hexact t ht
    have := hsum hs
    omega
  · intro hnone t ht
    obtain ⟨front, back, hs⟩ := List.append_of_mem ht
    have hfront : escapedFeeds front = 0 :=
      escapedFeeds_eq_zero_iff.2 fun u hu => hnone u (by simp [hs, hu])
    have := hnone t ht
    have := hsum hs
    omega

end Text

/-! ## Lines of signatures -/

/-- A chain starts with a name. -/
theorem Parser.chain_starts (sig : Signature) (n : Nat) (s : Source) (us : List Token) :
    Answers (fun _ _ => ∃ t ∈ us.head?, t.kind = .ident) (chain sig n) s us := by
  cases n with
  | zero => exact Answers.step (peek_run s us) (answers_fault _ _)
  | succ n =>
    refine (answers_expect (by decide) _).bind fun word rest hword => ?_
    rintro _ _ _ -
    exact ⟨word, by rw [hword.1]; rfl, hword.2⟩

namespace Signature

/-- The lines that some of the tokens of a text span, the first of which is no string literal. -/
theorem linesOf_eq {text : List Char} {ts front us back : List Token} {first last : Token}
    (h : tokenize text = .ok ts) (hs : ts = front ++ us ++ back) (hfirst : us.head? = some first)
    (hk : first.kind ≠ .string) (hlast : us.getLast? = some last) (line : Int) :
    ∃ lines, linesOf line us = some lines ∧
      lines.first + escapedFeeds front = line + (text.take first.start).count '\n' ∧
      lines.last + escapedFeeds (front ++ us) = line + (text.take last.stop).count '\n' := by
  obtain ⟨others, rfl⟩ := List.head?_eq_some_iff.1 hfirst
  have hplain : first.escapedFeeds = 0 := by simp [Token.escapedFeeds, hk]
  have hlow := tokenize_line_eq h (show ts = front ++ first :: (others ++ back) by rw [hs]; simp)
  obtain ⟨before, hus⟩ := List.getLast?_eq_some_iff.1 hlast
  have hhigh := tokenize_line_eq h
    (show ts = (front ++ before) ++ last :: back by rw [hs, hus]; simp)
  rw [List.append_assoc, ← hus] at hhigh
  rw [← count_token h (by rw [hs]; simp) hk, escapedFeeds_append, escapedFeeds_cons, hplain,
    escapedFeeds_nil] at hlow
  refine ⟨_, by rw [linesOf, hfirst, hlast], ?_, ?_⟩
  · dsimp only
    omega
  · dsimp only
    omega

/-- **Lines.** In a text that is cut into tokens, the number of a token's line is one more than the
line feeds before the token's end, without those that are escaped in string literals up to there;
so all numbers are exact if no literal holds an escaped line feed, and only then. A signature that is
read from the text spans the lines from the start of its first token to the end of its last, again
without the escaped line feeds before them. -/
theorem lines_numbered {text : String} {ts : List Token} (h : tokenize text.toList = .ok ts) :
    (∀ front t back, ts = front ++ t :: back →
      t.line + escapedFeeds (front ++ [t]) = 1 + (text.toList.take t.stop).count '\n') ∧
    ((∀ t ∈ ts, t.line = 1 + (text.toList.take t.stop).count '\n') ↔
      ∀ t ∈ ts, t.escapedFeeds = 0) ∧
    ∀ line sig, (parse text line).result = .ok sig →
      ∃ front us back boundary first last lines,
        body text.toList.length ts.dropLast = .ok ⟨us, boundary⟩ ∧ ts = front ++ us ++ back ∧
        us.head? = some first ∧ us.getLast? = some last ∧ sig.span = some lines ∧
        lines.first + escapedFeeds front = line + (text.toList.take first.start).count '\n' ∧
        lines.last + escapedFeeds (front ++ us) =
          line + (text.toList.take last.stop).count '\n' := by
  refine ⟨fun front t back hs => tokenize_line_eq h hs, exact_lines_iff h, fun line sig hok => ?_⟩
  obtain ⟨ts', us, boundary, read, rest, notes, ht, hb, hne, hc, hp⟩ := exists_of_parse_ok hok
  obtain rfl := Except.ok.inj (h.symm.trans ht)
  obtain ⟨front, back, hs⟩ : us <:+: ts :=
    (body_isInfix hb).trans (List.dropLast_prefix ts).isInfix
  obtain ⟨first, hfirst, hkind⟩ := Parser.chain_starts {} us.length _ us read rest notes hc
  have hlast := List.getLast?_eq_some_getLast hne
  obtain ⟨lines, hlines, hspan⟩ :=
    linesOf_eq h hs.symm hfirst (by rw [hkind]; decide) hlast line
  rw [hlines] at hp
  obtain rfl := placed_eq_ok hp
  exact ⟨front, us, back, boundary, first, _, lines, hb, hs.symm, hfirst, hlast, rfl, hspan⟩

/-- A block whose first modifier takes a literal that holds two line feeds, one of them escaped. -/
def brokenLiteral : String := "sig \x7b\n  since('a\\\nb\nc')\n  .void\n\x7d"

def brokenToken : Token := ⟨.string, "'a\\\nb\nc'", 14, 22, 3⟩

/-- The tokens of the block before the literal, and behind it. -/
def brokenTokens : List Token × List Token :=
  ([⟨.ident, "sig", 0, 3, 1⟩, ⟨.lbrace, "\x7b", 4, 5, 1⟩, ⟨.ident, "since", 8, 13, 2⟩,
    ⟨.lparen, "(", 13, 14, 2⟩],
   [⟨.rparen, ")", 22, 23, 3⟩, ⟨.dot, ".", 26, 27, 4⟩, ⟨.ident, "void", 27, 31, 4⟩,
    ⟨.rbrace, "\x7d", 32, 33, 5⟩, .endMark 33 5])

theorem lines_numbered_brokenLiteral :
    tokenize brokenLiteral.toList = .ok (brokenTokens.1 ++ brokenToken :: brokenTokens.2) ∧
    brokenToken.escapedFeeds = 1 ∧
    brokenToken.line + 1 = 1 + (brokenLiteral.toList.take brokenToken.stop).count '\n' ∧
    ∃ sig lines, (parse brokenLiteral 10).result = .ok sig ∧ sig.span = some lines ∧
      lines.first = 10 + (brokenLiteral.toList.take 8).count '\n' ∧
      lines.last + 1 = 10 + (brokenLiteral.toList.take 31).count '\n' := by
  have htokens : tokenize brokenLiteral.toList =
      .ok (brokenTokens.1 ++ brokenToken :: brokenTokens.2) := by decide +kernel
  have hbody : body brokenLiteral.toList.length
      (brokenTokens.1 ++ brokenToken :: brokenTokens.2).dropLast =
        .ok ⟨brokenTokens.1.drop 2 ++ brokenToken :: brokenTokens.2.take 3, 32⟩ := by
    decide +kernel
  have hread : (parse brokenLiteral 10).result.toOption.isSome = true := by decide +kernel
  obtain ⟨sig, hok⟩ : ∃ sig, (parse brokenLiteral 10).result = .ok sig := by
    cases hr : (parse brokenLiteral 10).result with
    | error e => simp [hr, Except.toOption] at hread
    | ok sig => exact ⟨sig, rfl⟩
  obtain ⟨hlines, -, hspans⟩ := lines_numbered htokens
  have hline := hlines brokenTokens.1 brokenToken brokenTokens.2 rfl
  obtain ⟨front, us, back, boundary, first, last, lines, hus, hsplit, hfirst, hlast, hspan, hlow,
    hhigh⟩ := hspans 10 sig hok
  obtain ⟨rfl, rfl⟩ := Signature.Body.mk.inj (Except.ok.inj (hbody.symm.trans hus))
  cases hfirst
  cases hlast
  -- the literal is in the chain, so no line feed is left out before it
  have hall : escapedFeeds (brokenTokens.1 ++ brokenToken :: brokenTokens.2) = 1 := by decide
  have hchain : escapedFeeds (brokenTokens.1.drop 2 ++ brokenToken :: brokenTokens.2.take 3) = 1 :=
    by decide
  have hfront : escapedFeeds front = 0 := by
    rw [hsplit, escapedFeeds_append, escapedFeeds_append, hchain] at hall
    omega
  rw [hfront, Int.natCast_zero, Int.add_zero] at hlow
  rw [escapedFeeds_append, hfront, hchain] at hhigh
  exact ⟨htokens, by decide, hline, sig, lines, hok, hspan, hlow, hhigh⟩

end Signature

end TypeTags
