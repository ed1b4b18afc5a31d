import TypeTags.Proofs.Token.Layout
import TypeTags.Proofs.Token.Squeezed

/-!
# From the first token to the last

The text from the start of the first token to the end of the last is the words with the gaps
between them. It starts and ends with characters that are no white space.

Results:
* `tokenize_gaps`: the last gap stands behind the last token.
* `slice_span`, `slice_whole`: the text from the first token to the last.
* `span_solid`: its ends.
* `tokenize_squeeze`: the tokens of that text when it is squeezed.
-/

namespace TypeTags

/-- Where tokens end that stand behind an offset. -/
def endOf (offset : Nat) (ts : List Token) : Nat := (ts.getLast?.map Token.stop).getD offset

@[simp] theorem endOf_nil (offset : Nat) : endOf offset [] = offset := rfl

theorem endOf_cons (offset : Nat) (t : Token) (ts : List Token) :
    endOf offset (t :: ts) = endOf t.stop ts := by
  cases ts <;> simp [endOf, List.getLast?_cons]

theorem endOf_append (offset : Nat) (ts us : List Token) :
    endOf offset (ts ++ us) = endOf (endOf offset ts) us := by
  induction ts generalizing offset with
  | nil => rfl
  | cons t ts ih => rw [List.cons_append, endOf_cons, endOf_cons, ih]

/-- The gaps between the tokens of a text. -/
def innerGaps (text : List Char) (ts : List Token) : List (List Char) :=
  (gapsOf text ts).tail.dropLast

/-! ## The last gap -/

theorem gapsFrom_concat (text : List Char) (stop : Nat) (ts : List Token) (t : Token) :
    gapsFrom text stop (ts ++ [t]) = gapsFrom text stop ts ++
      [(text.drop (endOf stop ts)).take (t.start - endOf stop ts)] := by
  induction ts generalizing stop with
  | nil => rfl
  | cons u ts ih => rw [List.cons_append, gapsFrom, ih, endOf_cons, gapsFrom, List.cons_append]

theorem locate_concat (offset line : Nat) (ps : List Piece) :
    ∃ line', Token.locate offset line ps = (Token.locate offset line ps).dropLast ++
      [.endMark (offset + (ps.flatMap Piece.chars).length) line'] := by
  induction ps generalizing offset line with
  | nil => exact ⟨line, rfl⟩
  | cons p ps ih =>
    rw [List.flatMap_cons, List.length_append, ← Nat.add_assoc]
    cases p with
    | gap cs => exact ih _ _
    | lexeme kind cs =>
      obtain ⟨line', hline⟩ := ih (offset + cs.length) (line + (Piece.lexeme kind cs).lineFeeds)
      refine ⟨line', ?_⟩
      rw [Token.locate, List.dropLast_cons_of_ne_nil (locate_ne_nil _ _ _), List.cons_append]
      exact congrArg _ hline

section Text

variable {text : List Char} {ts : List Token} (h : tokenize text = .ok ts)

include h

theorem tokenize_concat : ∃ line, ts = ts.dropLast ++ [.endMark text.length line] := by
  obtain ⟨hstuck, rfl⟩ := cut_of_tokenize h
  obtain ⟨line, hline⟩ := locate_concat 0 1 (cut false text).pieces
  have hchars := cut_chars false text
  rw [hstuck, List.append_nil] at hchars
  rw [hchars, Nat.zero_add] at hline
  exact ⟨line, hline⟩

/-- The gaps before the tokens, and what stands behind the last of them. -/
theorem tokenize_gaps :
    gapsOf text ts = gapsFrom text 0 ts.dropLast ++ [text.drop (endOf 0 ts.dropLast)] := by
  obtain ⟨line, hline⟩ := tokenize_concat h
  have hgaps := gapsFrom_concat text 0 ts.dropLast (.endMark text.length line)
  rw [← hline] at hgaps
  rw [gapsOf, hgaps, List.take_of_length_le (by simp [Token.endMark])]

theorem endOf_le : endOf 0 ts.dropLast ≤ text.length := by
  unfold endOf
  cases hlast : ts.dropLast.getLast? with
  | none => exact Nat.zero_le _
  | some t =>
    obtain ⟨hstuck, rfl⟩ := cut_of_tokenize h
    have hstop := locate_stop_le (List.dropLast_subset _ (List.mem_of_getLast? hlast))
    have hchars := cut_chars false text
    rw [hstuck, List.append_nil] at hchars
    rwa [hchars, Nat.zero_add] at hstop

end Text

/-! ## The text from the first token to the last -/

/-- A gap in front of the last one has a word behind it. -/
theorem Lexes.front {glued : Bool} {gap last : List Char} {gaps : List (List Char)}
    {words : List (TokenKind × String)} (h : Lexes glued (gap :: gaps ++ [last]) words) :
    ∃ kind c v more, words = (kind, String.ofList (c :: v)) :: more ∧
      Piece.firstPiece (glued && gap.isEmpty) c (v ++ weave (gaps ++ [last]) more) =
        some (.lexeme kind (c :: v), weave (gaps ++ [last]) more) ∧
      Lexes kind.isName (gaps ++ [last]) more := by
  generalize hgaps : gaps ++ [last] = behind
  rw [List.cons_append, hgaps] at h
  cases h with
  | last hs hl => simp at hgaps
  | @cons _ _ _ kind c v more hg hf h => exact ⟨kind, c, v, more, rfl, hf, h⟩

/-- The last gap stands at the end. -/
theorem Lexes.weave_close {glued : Bool} {gaps : List (List Char)} {last : List Char}
    {words : List (TokenKind × String)} (h : Lexes glued (gaps ++ [last]) words) :
    weave (gaps ++ [last]) words = weave (gaps ++ [[]]) words ++ last := by
  induction gaps generalizing glued words with
  | nil =>
    cases h with
    | last hs hl => simp [weave]
    | cons hg hf h => cases h
  | cons gap gaps ih =>
    obtain ⟨kind, c, v, words, rfl, -, h⟩ := h.front
    simp [weave, ih h]

/-- The first gap, those between the tokens, and the last one. -/
theorem gapsOf_span {text : List Char} {ts rest : List Token} {first : Token}
    (h : tokenize text = .ok ts) (hts : ts.dropLast = first :: rest) :
    gapsOf text ts = text.take first.start :: innerGaps text ts ++
      [text.drop (endOf 0 ts.dropLast)] := by
  simp [innerGaps, tokenize_gaps h, hts, gapsFrom]

/-- Without the first gap. -/
theorem span_lexes {text : List Char} {ts rest : List Token} {first : Token}
    (h : tokenize text = .ok ts) (hts : ts.dropLast = first :: rest) :
    Lexes false ([] :: innerGaps text ts ++ [text.drop (endOf 0 ts.dropLast)])
      (ts.map Token.word) := by
  have hlexes := (tokenize_lexes h).1
  rw [gapsOf_span h hts] at hlexes
  obtain ⟨kind, c, v, words, hwords, hf, hmore⟩ := hlexes.front
  rw [hwords]
  exact .cons .nil hf hmore

/-- The text from the first token to the last is the words with the gaps between them. -/
theorem slice_span {text : List Char} {ts rest : List Token} {first : Token}
    (h : tokenize text = .ok ts) (hts : ts.dropLast = first :: rest) (boundary : Nat) :
    Source.slice ⟨text, boundary⟩ first.start (endOf 0 ts.dropLast) =
      weave ([] :: innerGaps text ts ++ [[]]) (ts.map Token.word) := by
  have hlexes := span_lexes h hts
  have htext := (tokenize_lexes h).2
  rw [gapsOf_span h hts] at htext
  have hend := endOf_le h
  have hstart : first.start ≤ text.length := (tokenize_laid h).start_le (by simp [hts])
  generalize endOf 0 ts.dropLast = stop at hlexes htext hend ⊢
  have hopen : weave (text.take first.start :: innerGaps text ts ++ [text.drop stop])
      (ts.map Token.word) = text.take first.start ++
        weave ([] :: innerGaps text ts ++ [text.drop stop]) (ts.map Token.word) := by
    obtain ⟨kind, c, v, words, hwords, -⟩ := hlexes.front
    rw [hwords]
    rfl
  rw [hopen, hlexes.weave_close] at htext
  generalize weave ([] :: innerGaps text ts ++ [[]]) (ts.map Token.word) = span at htext ⊢
  have hlen := congrArg List.length htext
  simp only [List.length_append, List.length_take, List.length_drop] at hlen
  have hdrop : text.drop first.start = span ++ text.drop stop := by
    conv_lhs => rw [← htext]
    exact List.drop_left' (by simp [hstart])
  rw [Source.slice, hdrop]
  exact List.take_left' (by omega)

/-- A text without a gap in front and behind is the text from its first token to its last. -/
theorem slice_whole {text : List Char} {ts rest : List Token} {first : Token}
    (h : tokenize text = .ok ts) (hts : ts.dropLast = first :: rest)
    (hhead : (gapsOf text ts).head? = some []) (hlast : (gapsOf text ts).getLast? = some [])
    (boundary : Nat) :
    Source.slice ⟨text, boundary⟩ first.start (endOf 0 ts.dropLast) = text := by
  have hgaps := gapsOf_span h hts
  rw [hgaps, List.cons_append, List.head?_cons, Option.some.injEq] at hhead
  rw [hgaps, List.getLast?_concat, Option.some.injEq] at hlast
  have htext := (tokenize_lexes h).2
  rw [hgaps, hhead, hlast] at htext
  rw [slice_span h hts]
  exact htext

/-! ## Its ends -/

/-- The last character of a lexeme is no white space. -/
theorem firstPiece_getLast {glued : Bool} {c : Char} {cs ds rest : List Char} {kind : TokenKind}
    (h : Piece.firstPiece glued c cs = some (.lexeme kind ds, rest)) :
    ∀ d ∈ ds.getLast?, Text.isBlank d = false := by
  intro d hd
  by_cases hq : c = '\'' ∨ c = '"'
  · rw [firstPiece_quote hq] at h
    obtain ⟨⟨tail, left⟩, ht, he⟩ := Option.map_eq_some_iff.1 h
    obtain ⟨body, -, rfl, -⟩ := (stringTail_eq_some_iff (quote_ne_backslash hq)).1 ht
    cases he
    rw [← List.cons_append, List.getLast?_concat] at hd
    cases hd
    exact isBlank_quote hq
  · exact firstPiece_dense h hq d (List.mem_of_getLast? hd)

/-- The words with the gaps between them end with the last character of a word. -/
theorem Lexes.weave_getLast {glued : Bool} {gaps : List (List Char)} {last : List Char}
    {words : List (TokenKind × String)} (h : Lexes glued (gaps ++ [last]) words) :
    ∀ d ∈ (weave (gaps ++ [[]]) words).getLast?, Text.isBlank d = false := by
  induction gaps generalizing glued words with
  | nil =>
    cases h with
    | last hs hl => simp [weave]
    | cons hg hf h => cases h
  | cons gap gaps ih =>
    obtain ⟨kind, c, v, words, rfl, hf, h⟩ := h.front
    have hbehind := ih h
    intro d hd
    rw [List.cons_append, weave, String.toList_ofList, List.getLast?_append,
      List.getLast?_append] at hd
    generalize (weave (gaps ++ [[]]) _).getLast? = behind at hbehind hd
    cases behind with
    | some e =>
      cases hd
      exact hbehind d rfl
    | none =>
      rw [Option.none_or, List.getLast?_cons, Option.some_or] at hd
      exact firstPiece_getLast hf d (by rwa [List.getLast?_cons])

/-- The text from the first token to the last has solid ends. -/
theorem span_solid {text : List Char} {ts rest : List Token} {first : Token}
    (h : tokenize text = .ok ts) (hts : ts.dropLast = first :: rest) :
    Text.Solid (weave ([] :: innerGaps text ts ++ [[]]) (ts.map Token.word)) := by
  have hlexes := span_lexes h hts
  refine ⟨?_, hlexes.weave_getLast⟩
  obtain ⟨kind, c, v, words, hwords, hf, -⟩ := hlexes.front
  rw [hwords, List.cons_append, weave, String.toList_ofList]
  rintro _ ⟨⟩
  exact (Piece.firstPiece_solid hf).1

/-- **Squeezing the span.** The squeezed text from the first token to the last has tokens again,
those up to the first comment. -/
theorem tokenize_squeeze {text : List Char} {ts rest : List Token} {first : Token}
    (h : tokenize text = .ok ts) (hts : ts.dropLast = first :: rest) (boundary : Nat) :
    ∃ us, tokenize (Text.squeeze
        (Source.slice ⟨text, boundary⟩ first.start (endOf 0 ts.dropLast))) = .ok us ∧
      Squeezed ([] :: innerGaps text ts ++ [text.drop (endOf 0 ts.dropLast)])
        (ts.map Token.word) (gapsOf (Text.squeeze
          (Source.slice ⟨text, boundary⟩ first.start (endOf 0 ts.dropLast))) us)
        (us.map Token.word) := by
  obtain ⟨gaps, words, hsqueezed, hlexes, htext, -⟩ := (span_lexes h hts).squeezed
  have hspan : weave gaps words = Text.squeeze
      (Source.slice ⟨text, boundary⟩ first.start (endOf 0 ts.dropLast)) := by
    rw [slice_span h hts, Text.squeeze, Text.trim_solid (span_solid h hts), htext,
      List.dropLast_concat]
  obtain ⟨us, hus, rfl, hgaps⟩ := hlexes.tokenize_weave
  rw [hspan] at hus hgaps
  refine ⟨us, hus, ?_⟩
  rwa [hgaps]

end TypeTags
