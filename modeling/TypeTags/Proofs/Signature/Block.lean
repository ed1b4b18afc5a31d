import TypeTags.Proofs.Signature.Moved

/-!
# Signatures inside a block

A chain that stands alone in a text is read the same inside a block around it: the block's own
tokens stand before and behind those of the chain, which are only moved. What changes is the lines
that the signature spans.

Results:
* `tokenize_block`: the tokens of a text between a header line and a closing line.
* `Signature.parse_moved`: a signature is read the same wherever its chain stands.
* `Signature.parse_doBlock`: a chain in a `do` block gives the signature of the chain alone, one
  line further down.
-/

namespace TypeTags

/-! ## Tokens of a block -/

/-- How many lines the pieces move on. -/
def lineFeedsOf : List Piece → Nat
  | [] => 0
  | p :: ps => p.lineFeeds + lineFeedsOf ps

theorem locate_append (offset line : Nat) (ps qs : List Piece) :
    Token.locate offset line (ps ++ qs) = (Token.locate offset line ps).dropLast ++
      Token.locate (offset + (ps.flatMap Piece.chars).length)
        (line + lineFeedsOf ps) qs := by
  induction ps generalizing offset line with
  | nil => rfl
  | cons p ps ih =>
    rw [List.cons_append, List.flatMap_cons, List.length_append, lineFeedsOf, ← Nat.add_assoc,
      ← Nat.add_assoc]
    cases p with
    | gap cs => exact ih _ _
    | lexeme kind cs =>
      simp only [Token.locate, ih, List.dropLast_cons_of_ne_nil (locate_ne_nil _ _ _),
        List.cons_append]
      rfl

/-- A text on lines of its own, between a header and a closing text. -/
def blockText (header body closer : List Char) : List Char :=
  header ++ '\n' :: (body ++ '\n' :: closer)

/-- The tokens of a text, without the end mark. -/
def tokensOf (cs : List Char) : List Token := (Token.locate 0 1 (cut false cs).pieces).dropLast

/-- The tokens of a block: those of the header, those of the body moved, those of the closing text.
-/
theorem tokenize_block {header body closer : List Char} {ps : List Piece}
    (hh : ∀ rest, Cuts header ps ('\n' :: rest)) (hp : ps.flatMap Piece.chars = header)
    (hl : lineFeedsOf ps = 0)
    (hb : (cut false body).stuck = []) (hc : (cut false closer).stuck = []) :
    ∃ line, tokenize (blockText header body closer) = .ok ((Token.locate 0 1 ps).dropLast ++
      ((tokensOf body).map (Token.move (header.length + 1) 1) ++
        Token.locate (header.length + 1 + body.length + 1) line (cut false closer).pieces)) := by
  obtain ⟨g, hcut⟩ := hh (body ++ '\n' :: closer) false
  obtain ⟨hs1, hl1⟩ := locate_cut_blank (c := '\n') (by decide) g (body ++ '\n' :: closer)
    header.length 1
  obtain ⟨hs2, line, hl2⟩ := locate_append_newline hb closer (header.length + 1) 2
  refine ⟨line, ?_⟩
  have hmove := locate_move (header.length + 1) 1 0 1 (cut false body).pieces
  rw [Nat.zero_add] at hmove
  have hstuck : (cut false (blockText header body closer)).stuck = [] := by
    unfold blockText
    rw [hcut, Cutting.after, hs1, hs2, hc]
  have htokens : Token.locate 0 1 (cut false (blockText header body closer)).pieces =
      (Token.locate 0 1 ps).dropLast ++ ((tokensOf body).map (Token.move (header.length + 1) 1) ++
        Token.locate (header.length + 1 + body.length + 1) line (cut false closer).pieces) := by
    unfold blockText
    rw [hcut, Cutting.after, locate_append, hp, hl, Nat.zero_add, Nat.add_zero, hl1]
    simp only [if_true]
    rw [hl2, hmove, tokensOf, List.map_dropLast]
  rw [← htokens]
  exact tokenize_of_cut (by rw [← hstuck])

/-! ## The chain inside -/

/-- The lines of a span, further down. -/
def LineSpan.down (lines : Nat) (span : LineSpan) : LineSpan :=
  ⟨span.first + lines, span.last + lines⟩

/-- The first token of the text is not the word `sig`. -/
def IsBare (cs : List Char) : Prop := ∀ t ∈ (tokensOf cs).head?, t.isWord "sig" = false

instance (cs : List Char) : Decidable (IsBare cs) :=
  inferInstanceAs (Decidable (∀ t ∈ (tokensOf cs).head?, t.isWord "sig" = false))

namespace Signature

/-- The text was read as a signature, without notes. -/
def Reading.accepted : Reading → Bool
  | ⟨.ok _, []⟩ => true
  | _ => false

theorem exists_of_accepted {r : Reading} (h : r.accepted = true) : ∃ sig, r = ⟨.ok sig, []⟩ := by
  unfold Reading.accepted at h
  split at h
  · exact ⟨_, rfl⟩
  · cases h

section Chain

variable {cs : List Char} {ts us rest : List Token} {boundary : Nat} {notes : List UnclosedProc}
  (ht : tokenize cs = .ok ts) (hb : body cs.length ts.dropLast = .ok ⟨us, boundary⟩)
  (hne : us ≠ [])

include ht hb hne

/-- How a text is read whose chain is read. -/
theorem parse_of_chain {read : Signature}
    (hc : Parser.chain {} us.length ⟨cs, boundary⟩ us = .ok read rest notes) (line : Int) :
    parse (String.ofList cs) line = ⟨placed read (linesOf line us), notes⟩ := by
  cases us with
  | nil => exact absurd rfl hne
  | cons t us => simp only [parse, String.toList_ofList, ht, hb, hc]

theorem parse_of_chain_fail {fault : Fault}
    (hc : Parser.chain {} us.length ⟨cs, boundary⟩ us = .fail fault notes) (line : Int) :
    parse (String.ofList cs) line = ⟨.error (.malformed fault), notes⟩ := by
  cases us with
  | nil => exact absurd rfl hne
  | cons t us => simp only [parse, String.toList_ofList, ht, hb, hc]

end Chain

theorem body_tokensOf {cs : List Char} (hb : IsBare cs) :
    body cs.length (tokensOf cs) = .ok ⟨tokensOf cs, cs.length⟩ := by
  unfold IsBare at hb
  cases hts : tokensOf cs with
  | nil => rfl
  | cons t ts =>
    rw [hts] at hb
    simp [body, hb t rfl]

/-- What it takes that a text without a block is read as a signature without notes. -/
theorem parse_bare {cs : List Char} {line : Int} {sig : Signature} (hb : IsBare cs)
    (h : parse (String.ofList cs) line = ⟨.ok sig, []⟩) :
    (cut false cs).stuck = [] ∧ tokensOf cs ≠ [] ∧ ∃ read rest,
      Parser.chain {} (tokensOf cs).length ⟨cs, cs.length⟩ (tokensOf cs) = .ok read rest [] ∧
        placed read (linesOf line (tokensOf cs)) = .ok sig := by
  have hstuck : (cut false cs).stuck = [] := by
    cases hs : cut false cs with
    | mk pieces stuck =>
      cases stuck with
      | nil => rfl
      | cons c ds => simp [parse, tokenize, hs] at h
  have ht : tokenize cs = .ok (Token.locate 0 1 (cut false cs).pieces) :=
    tokenize_of_cut (by rw [← hstuck])
  have hbody := body_tokensOf hb
  have hne : tokensOf cs ≠ [] := by
    intro he
    have hempty : body cs.length (Token.locate 0 1 (cut false cs).pieces).dropLast =
        .ok ⟨[], cs.length⟩ := by
      change body cs.length (tokensOf cs) = _
      rw [hbody, he]
    simp [parse, ht, hempty] at h
  cases hc : Parser.chain {} (tokensOf cs).length ⟨cs, cs.length⟩ (tokensOf cs) with
  | fail fault notes =>
    rw [parse_of_chain_fail ht hbody hne hc] at h
    simp at h
  | ok read rest notes =>
    rw [parse_of_chain ht hbody hne hc, Reading.mk.injEq] at h
    obtain ⟨hp, rfl⟩ := h
    exact ⟨hstuck, hne, read, rest, rfl, hp⟩

theorem linesOf_move (line : Int) (k m : Nat) (ts : List Token) :
    linesOf line (ts.map (Token.move k m)) = (linesOf line ts).map (LineSpan.down m) := by
  unfold linesOf
  rw [List.head?_map, List.getLast?_map]
  cases ts.head? with
  | none => rfl
  | some first =>
    cases ts.getLast? with
    | none => rfl
    | some last =>
      simp only [Option.map_some, LineSpan.down, Token.move, Option.some.injEq, LineSpan.mk.injEq]
      omega

theorem linesOf_isSome {ts : List Token} (h : ts ≠ []) (line : Int) :
    ∃ lines, linesOf line ts = some lines := by
  cases ts with
  | nil => exact absurd rfl h
  | cons t ts =>
    unfold linesOf
    rw [List.head?_cons, List.getLast?_cons]
    exact ⟨_, rfl⟩

theorem placed_down {read sig : Signature} {lines : LineSpan} (m : Nat)
    (h : placed read (some lines) = .ok sig) :
    placed read (some (lines.down m)) =
      .ok { sig with span := sig.span.map (LineSpan.down m) } := by
  simp only [placed] at h ⊢
  split at h
  · cases h
  · have hdown : ¬ ((lines.down m).first < 1 ∨ (lines.down m).last < 1) := by
      simp only [LineSpan.down]
      omega
    rw [if_neg hdown]
    cases h
    rfl

/-- **Moved chains.** A text without a block is read the same as the body of a larger text, with its
lines moved down. -/
theorem parse_moved {before cs after text : List Char} {ts : List Token} {line : Int}
    {m boundary : Nat} {sig : Signature} (htext : text = before ++ (cs ++ after)) (hb : IsBare cs)
    (h : parse (String.ofList cs) line = ⟨.ok sig, []⟩) (ht : tokenize text = .ok ts)
    (hbody : body text.length ts.dropLast =
      .ok ⟨(tokensOf cs).map (Token.move before.length m), boundary⟩) :
    parse (String.ofList text) line =
      ⟨.ok { sig with span := sig.span.map (LineSpan.down m) }, []⟩ := by
  obtain ⟨hstuck, hne, read, rest, hchain, hplaced⟩ := parse_bare hb h
  have hshows : ∀ start stop, stop ≤ cs.length →
      (⟨text, boundary⟩ : Source).slice (start + before.length) (stop + before.length) =
        (⟨cs, cs.length⟩ : Source).slice start stop := by
    intro start stop hs
    simp only [Source.slice]
    rw [htext, Nat.add_comm start, List.drop_append, List.drop_append, Nat.add_comm stop,
      Nat.add_sub_add_left, List.drop_of_length_le (by omega), List.nil_append,
      Nat.add_sub_cancel_left, List.take_append_of_le_length]
    rw [List.length_drop]
    omega
  let σ : Shift := ⟨⟨cs, cs.length⟩, ⟨text, boundary⟩, before.length, m, hshows⟩
  have hwithin : σ.Within (tokensOf cs) := by
    intro t ht
    have hstop := locate_stop_le ((List.dropLast_sublist _).subset ht)
    have hchars := cut_chars false cs
    rw [hstuck, List.append_nil] at hchars
    rw [hchars, Nat.zero_add] at hstop
    exact hstop
  obtain ⟨_, hmoved, rfl, -⟩ := Parser.follows_chain {} _ _ _ _ hwithin hchain
  have hmoved : Parser.chain {} ((tokensOf cs).map (Token.move before.length m)).length
      ⟨text, boundary⟩ ((tokensOf cs).map (Token.move before.length m)) =
        .ok read (rest.map σ.move) [] := by
    rw [List.length_map]
    exact hmoved
  obtain ⟨lines, hlines⟩ := linesOf_isSome hne line
  rw [hlines] at hplaced
  rw [parse_of_chain ht hbody (by simpa using hne) hmoved, linesOf_move, hlines, Option.map_some,
    placed_down m hplaced]

/-! ## Blocks from `do` to `end` -/

/-- A chain on lines of its own, from `sig do` to `end`. -/
def doBlock (cs : List Char) : List Char := blockText "sig do".toList cs "end".toList

/-- The pieces of the line that opens a `do` block. -/
def doHeader : List Piece :=
  [.lexeme .ident "sig".toList, .gap [' '], .lexeme .ident "do".toList]

theorem cuts_doHeader (rest : List Char) : Cuts "sig do".toList doHeader ('\n' :: rest) := by
  have hsig : IsName .ident "sig".toList := by unfold IsName; decide +kernel
  have hdo : IsName .ident "do".toList := by unfold IsName; decide +kernel
  have hspace : Cuts [' '] [.gap [' ']] ("do".toList ++ '\n' :: rest) :=
    cuts_space (by simp; decide)
  exact (cuts_name rfl hsig (endsName_cons (by decide))).append
    (hspace.append (cuts_name rfl hdo (endsName_newline rest)))

theorem cut_end : cut false "end".toList = ⟨[.lexeme .ident "end".toList], []⟩ := by decide +kernel

theorem isWord_iff {t : Token} {word : String} :
    t.isWord word = true ↔ t.kind = .ident ∧ t.value = word := by
  simp [Token.isWord]

/-- The body of a `do` block is what stands between its opening words and its last one. -/
theorem body_do {first opening last : Token} (us : List Token) (stop : Nat)
    (hf : first.isWord "sig") (ho : opening.isWord "do") (hl : last.isWord "end") :
    body stop (first :: opening :: (us ++ [last])) = .ok ⟨us, last.start⟩ := by
  have hkind := (isWord_iff.1 ho).1
  simp [body, unwrapBlock, blockBody, hf, ho, hl, hkind]

theorem body_doBlock {cs : List Char} (h : (cut false cs).stuck = []) :
    ∃ ts boundary, tokenize (doBlock cs) = .ok ts ∧
      body (doBlock cs).length ts.dropLast =
        .ok ⟨(tokensOf cs).map (Token.move 7 1), boundary⟩ := by
  obtain ⟨line, ht⟩ := tokenize_block cuts_doHeader rfl rfl h (by rw [cut_end])
  rw [cut_end] at ht
  refine ⟨_, 7 + cs.length + 1, ht, ?_⟩
  simp only [Token.locate]
  rw [← List.append_assoc, List.dropLast_append_cons, List.dropLast_cons_cons,
    List.dropLast_singleton, List.append_assoc]
  exact body_do _ _ (by decide) (by decide) rfl

/-- **`do` blocks.** A chain in a `do` block gives the signature of the chain alone, one line
further down. -/
theorem parse_doBlock {cs : List Char} {line : Int} {sig : Signature} (hb : IsBare cs)
    (h : parse (String.ofList cs) line = ⟨.ok sig, []⟩) :
    parse (String.ofList (doBlock cs)) line =
      ⟨.ok { sig with span := sig.span.map (LineSpan.down 1) }, []⟩ := by
  obtain ⟨ts, boundary, ht, hbody⟩ := body_doBlock (parse_bare hb h).1
  have htext : doBlock cs = "sig do\n".toList ++ (cs ++ "\nend".toList) := rfl
  exact parse_moved htext hb h ht hbody

end Signature

end TypeTags
