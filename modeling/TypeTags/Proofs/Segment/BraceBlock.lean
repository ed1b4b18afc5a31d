import TypeTags.Proofs.Segment.Brackets
import TypeTags.Proofs.Segment.SourceLines
import TypeTags.Proofs.Signature.Nesting

/-!
# Signature blocks in braces

A chain that is a signature by itself is one when it stands in braces behind the word `sig`, with or
without arguments. The reader that finds the block in source text and the reader of its tokens agree
on where it ends: the brackets of a chain nest, and both readers see the same brackets.

Results:
* `Segment.afterSig_braceBlock`: the block ends with its last brace.
* `Signature.parse_braceBlock`: the chain inside gives the signature of the chain alone, one line
  further down.
* `Segment.braceBlock_signature`: both readers on the block around a chain.
-/

namespace TypeTags

namespace Signature

/-- A chain on lines of its own, in braces behind a header. -/
def braceBlock (header cs : List Char) : List Char :=
  blockText (header ++ " \x7b".toList) cs ['\x7d']

/-- The words that a block in braces starts with. -/
def blockHeaders : List (List Char) := ["sig", "sig(:final)"].map String.toList

/-- What both readers need to know of the line that opens a block in braces. -/
structure OpensBrace (header : List Char) : Prop where
  /-- It starts a segment. -/
  opens : Segment.OpensBlock (header ++ " \x7b".toList)
  /-- Behind it, the closing brace is looked for. -/
  after : ∀ rest, Segment.afterSig (header ++ " \x7b".toList ++ rest) =
    Segment.afterBrackets .code ['\x7d'] rest
  /-- Its tokens end with the brace, and the block is what follows. -/
  tokens : ∃ ps, (∀ rest, Cuts (header ++ " \x7b".toList) ps ('\n' :: rest)) ∧
    ps.flatMap Piece.chars = header ++ " \x7b".toList ∧ lineFeedsOf ps = 0 ∧
    ∀ stop inside, ∃ opening : Token, opening.kind = .lbrace ∧
      body stop ((Token.locate 0 1 ps).dropLast ++ inside) = unwrapBlock stop (opening :: inside)

/-! ## The two headers -/

theorem isName_sig : IsName .ident "sig".toList := by unfold IsName; decide +kernel

/-- The space and the brace at the end of a header. -/
theorem cuts_brace (rest : List Char) :
    Cuts " \x7b".toList [.gap [' '], .lexeme .lbrace ['\x7b']] rest := by
  have hspace : Cuts [' '] [.gap [' ']] (['\x7b'] ++ rest) := cuts_space (by rintro c ⟨⟩; decide)
  exact hspace.append (cuts_punctuation (by decide) rest)

theorem body_header {first opening : Token} (hf : first.isWord "sig") (ho : opening.kind = .lbrace)
    (stop : Nat) (inside : List Token) :
    body stop (first :: opening :: inside) = unwrapBlock stop (opening :: inside) := by
  simp [body, hf, ho]

theorem opensBrace_plain : OpensBrace "sig".toList where
  opens := ⟨by decide, by decide, fun rest => List.dropWhile_cons_of_neg (by decide)⟩
  after rest := by
    have hsig : Segment.afterSigWord? ("sig".toList ++ " \x7b".toList ++ rest) =
        some ('\x7b' :: rest) := by
      simp [Segment.afterSigWord?, Segment.startsInWord, show Text.isWordChar ' ' = false by decide,
        show Text.isBlank ' ' = true by decide, show Text.isBlank '\x7b' = false by decide]
    rw [Segment.afterSig, hsig]
    simp [Segment.afterBlock, Segment.afterBrackets, Segment.isQuote, Segment.closing?]
  tokens := by
    refine ⟨[Piece.lexeme .ident "sig".toList] ++ [Piece.gap [' '], .lexeme .lbrace ['\x7b']],
      fun rest => ?_, rfl, rfl, fun stop inside => ?_⟩
    · exact (cuts_name rfl isName_sig (endsName_cons (by decide))).append (cuts_brace _)
    · exact ⟨⟨.lbrace, "\x7b", 4, 5, 1⟩, rfl, body_header (by decide) rfl stop inside⟩

/-- The arguments of a final signature: the symbol stands right behind the parenthesis. -/
theorem cuts_final (rest : List Char) :
    Cuts "(:final)".toList [.lexeme .lparen ['('], .lexeme .symbol ":final".toList,
      .lexeme .rparen [')']] rest := by
  intro glued
  have hopen : Piece.firstPiece glued '(' (":final)".toList ++ rest) =
      some (.lexeme .lparen ['('], ":final)".toList ++ rest) := rfl
  have hsymbol : Piece.firstPiece false ':' ("final)".toList ++ rest) =
      some (.lexeme .symbol ":final".toList, ')' :: rest) := rfl
  obtain ⟨next, hclose⟩ := cuts_punctuation (c := ')') (by decide) rest false
  refine ⟨next, ?_⟩
  have hcut : cut glued ("(:final)".toList ++ rest) =
      (cut false (')' :: rest)).after
        [.lexeme .lparen ['('], .lexeme .symbol ":final".toList] := by
    have houter := cut_cons hopen
    have hinner := cut_cons hsymbol
    exact houter.trans (congrArg (Cutting.after [.lexeme .lparen ['(']]) hinner)
  rw [hcut]
  exact congrArg (Cutting.after _) hclose

theorem opensBrace_final : OpensBrace "sig(:final)".toList where
  opens := ⟨by decide, by decide, fun rest => List.dropWhile_cons_of_neg (by decide)⟩
  after rest := by
    have hsig : Segment.afterSigWord? ("sig(:final)".toList ++ " \x7b".toList ++ rest) =
        some ('(' :: (":final) \x7b".toList ++ rest)) := by
      simp [Segment.afterSigWord?, Segment.startsInWord, show Text.isWordChar '(' = false by decide,
        show Text.isBlank '(' = false by decide]
    have hargs : Segment.afterBrackets .code [] ('(' :: (":final) \x7b".toList ++ rest)) =
        some (' ' :: '\x7b' :: rest) := rfl
    have hblank : (' ' :: '\x7b' :: rest).dropWhile Text.isBlank = '\x7b' :: rest := by
      rw [List.dropWhile_cons_of_pos (by decide), List.dropWhile_cons_of_neg (by decide)]
    rw [Segment.afterSig, hsig]
    simp only [hargs, Option.bind_some, hblank]
    simp [Segment.afterBlock, Segment.afterBrackets, Segment.isQuote, Segment.closing?]
  tokens := by
    refine ⟨[Piece.lexeme .ident "sig".toList] ++ ([Piece.lexeme .lparen ['('],
        .lexeme .symbol ":final".toList, .lexeme .rparen [')']] ++
          [Piece.gap [' '], .lexeme .lbrace ['\x7b']]), fun rest => ?_, rfl, rfl,
      fun stop inside => ?_⟩
    · have hargs := (cuts_final (" \x7b".toList ++ '\n' :: rest)).append (cuts_brace ('\n' :: rest))
      have hcuts : Cuts ("sig".toList ++ ("(:final)".toList ++ " \x7b".toList)) _ ('\n' :: rest) :=
        (cuts_name rfl isName_sig (endsName_cons (c := '(') (by decide))).append hargs
      exact hcuts
    · exact ⟨⟨.lbrace, "\x7b", 12, 13, 1⟩, rfl, rfl⟩

theorem opensBrace_of_mem {header : List Char} (h : header ∈ blockHeaders) : OpensBrace header := by
  simp only [blockHeaders, List.map_cons, List.map_nil, List.mem_cons, List.not_mem_nil,
    or_false] at h
  rcases h with rfl | rfl
  · exact opensBrace_plain
  · exact opensBrace_final

/-! ## The tokens of the block -/

/-- The body of a block whose inside nests is what stands between its braces. -/
theorem unwrapBlock_braces {opening last : Token} {us : List Token} (ho : opening.kind = .lbrace)
    (hl : last.kind = .rbrace) (hn : stackAfter [.rbrace] (us.map Token.kind) = some [.rbrace])
    (stop : Nat) : unwrapBlock stop (opening :: (us ++ [last])) = .ok ⟨us, last.start⟩ := by
  have hgroup : matchGroup .rbrace [] (us ++ [last]) = .closed last [] := by
    rw [matchGroup_append hn]
    simp [matchGroup, hl, TokenKind.closer?, TokenKind.isCloser]
  simp [unwrapBlock, blockBody, ho, hl, hgroup]

theorem cut_closer : cut false ['\x7d'] = ⟨[.lexeme .rbrace ['\x7d']], []⟩ := by decide +kernel

theorem body_braceBlock {header : List Char} (hh : OpensBrace header) {cs : List Char}
    (hs : (cut false cs).stuck = [])
    (hn : stackAfter [.rbrace] ((tokensOf cs).map Token.kind) = some [.rbrace]) :
    ∃ ts boundary, tokenize (braceBlock header cs) = .ok ts ∧
      body (braceBlock header cs).length ts.dropLast =
        .ok ⟨(tokensOf cs).map (Token.move (header ++ " \x7b\n".toList).length 1), boundary⟩ := by
  obtain ⟨ps, hcuts, hchars, hfeeds, hbody⟩ := hh.tokens
  obtain ⟨line, ht⟩ := tokenize_block hcuts hchars hfeeds hs (by rw [cut_closer])
  rw [cut_closer] at ht
  have hmove : (header ++ " \x7b".toList).length + 1 = (header ++ " \x7b\n".toList).length := by
    simp
  rw [hmove] at ht
  refine ⟨_, (header ++ " \x7b\n".toList).length + cs.length + 1, ht, ?_⟩
  simp only [Token.locate]
  rw [← List.append_assoc, List.dropLast_append_cons, List.dropLast_cons_cons,
    List.dropLast_singleton, List.append_assoc]
  obtain ⟨opening, ho, heq⟩ := hbody (braceBlock header cs).length _
  rw [heq]
  refine unwrapBlock_braces ho rfl ?_ _
  rw [List.map_map]
  exact hn

/-- **Blocks in braces.** A chain in braces gives the signature of the chain alone, one line further
down. -/
theorem parse_braceBlock {header : List Char} (hh : OpensBrace header) {cs : List Char} {line : Int}
    {sig : Signature} (hb : IsBare cs) (h : parse (String.ofList cs) line = ⟨.ok sig, []⟩) :
    parse (String.ofList (braceBlock header cs)) line =
      ⟨.ok { sig with span := sig.span.map (LineSpan.down 1) }, []⟩ := by
  obtain ⟨ts, boundary, ht, hbody⟩ :=
    body_braceBlock hh (parse_bare hb h).1 (nesting_of_parse hb h (by simp))
  have htext : braceBlock header cs = (header ++ " \x7b\n".toList) ++ (cs ++ "\n\x7d".toList) := by
    simp [braceBlock, blockText]
  exact parse_moved htext hb h ht hbody

end Signature

namespace Segment

open Signature (braceBlock OpensBrace blockHeaders)

theorem afterSig_braceBlock {header : List Char} (hh : OpensBrace header) {cs : List Char}
    (hs : (cut false cs).stuck = [])
    (hn : stackAfter [.rbrace] ((tokensOf cs).map Token.kind) = some [.rbrace]) :
    afterSig (braceBlock header cs) = some [] := by
  rw [tokensOf, kinds_locate] at hn
  have htext : braceBlock header cs =
      header ++ " \x7b".toList ++ ('\n' :: (cs ++ ['\n', '\x7d'])) := rfl
  have hfeed : ∀ rest, afterBrackets .code ['\x7d'] ('\n' :: rest) =
      afterBrackets .code ['\x7d'] rest :=
    afterBrackets_bland (isBland_of_class (q := (· == '\n')) rfl (by decide)) _
  have hinside : afterBrackets .code ['\x7d'] (cs ++ ['\n', '\x7d']) =
      afterBrackets .code ['\x7d'] ['\n', '\x7d'] := afterBrackets_pieces hs hn (by simp)
  rw [htext, hh.after, hfeed, hinside]
  rfl

/-- **Blocks in braces.** Let a chain that does not start with the word `sig` be a signature by
itself, read without notes. In braces it is the same signature, one line further down, and the block
is one segment that ends where its text does. -/
theorem braceBlock_signature {cs : List Char} {line : Int} {sig : Signature} (hb : IsBare cs)
    (h : Signature.parse (String.ofList cs) line = ⟨.ok sig, []⟩) {header : List Char}
    (hh : header ∈ blockHeaders) (start : Int) :
    segments (braceBlock header cs) start = [⟨.sig, braceBlock header cs, start,
        start + (braceBlock header cs).count '\n'⟩] ∧
      Signature.parse (String.ofList (braceBlock header cs)) line =
        ⟨.ok { sig with span := sig.span.map (LineSpan.down 1) }, []⟩ := by
  have hopens := Signature.opensBrace_of_mem hh
  have hend := afterSig_braceBlock hopens (Signature.parse_bare hb h).1
    (Signature.nesting_of_parse hb h (by simp))
  exact ⟨segments_whole hopens.opens hend start, Signature.parse_braceBlock hopens hb h⟩

/-- A chain with brackets of all kinds, also in a string literal and in a comment. -/
def bracketedChain : List Char :=
  "override(why: \"\x7d)\") # \x7b(\n.params(a: T::Hash[Symbol, \x7b b: [Integer] \x7d]).void".toList

theorem braceBlock_signature_bracketedChain : IsBare bracketedChain ∧
    "sig(:final)".toList ∈ blockHeaders ∧
    ∃ sig, Signature.parse (String.ofList bracketedChain) 1 = ⟨.ok sig, []⟩ ∧
      segments (braceBlock "sig(:final)".toList bracketedChain) 1 =
        [⟨.sig, braceBlock "sig(:final)".toList bracketedChain, 1, 4⟩] ∧
      Signature.parse (String.ofList (braceBlock "sig(:final)".toList bracketedChain)) 1 =
        ⟨.ok { sig with span := sig.span.map (LineSpan.down 1) }, []⟩ := by
  have hb : IsBare bracketedChain := by decide +kernel
  have hh : "sig(:final)".toList ∈ blockHeaders := by decide
  obtain ⟨sig, h⟩ := Signature.exists_of_accepted
    (show (Signature.parse (String.ofList bracketedChain) 1).accepted = true by decide +kernel)
  exact ⟨hb, hh, sig, h, braceBlock_signature hb h hh 1⟩

end Segment

end TypeTags
