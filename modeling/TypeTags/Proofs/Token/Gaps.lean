import Mathlib.Data.List.Forall2
import TypeTags.Proofs.Token.Layout
import TypeTags.Proofs.Token.Lookahead

/-!
# Gaps between tokens

White space and comments between the tokens of a text say nothing: if some of them are replaced by
others, the text has the same tokens, at other places. What must stay is whether there is a gap at
all, since a colon right behind a name labels it, and two lexemes without a gap may be one.

Results:
* `Lexes.regap`: other gaps between the same lexemes.
* `exists_lexes`, `Lexes.lexemes_eq`: a text that is cut to its end as gaps and lexemes, and back.
* `Lexes.tokenize_weave`: the tokens of gaps and words put together are the words, behind the gaps.
* `tokenize_respaced`: the tokens of a text with other gaps.
-/

namespace TypeTags

/-- White space and comments, with a line feed at the end of each comment. -/
inductive GapText : List Char → Prop where
  | nil : GapText []
  | blank {c : Char} {cs : List Char} (hc : Text.isBlank c = true) (h : GapText cs) :
      GapText (c :: cs)
  | comment {body cs : List Char} (hb : '\n' ∉ body) (h : GapText cs) :
      GapText ('#' :: (body ++ '\n' :: cs))

/-- A gap that may stand in the place of another: the same, or any where there is one. -/
def Regap (gap gap' : List Char) : Prop := gap' = gap ∨ gap ≠ [] ∧ gap' ≠ [] ∧ GapText gap'

/-- What stands before each of the tokens, from an offset on. -/
def gapsFrom (text : List Char) (stop : Nat) : List Token → List (List Char)
  | [] => []
  | t :: ts => (text.drop stop).take (t.start - stop) :: gapsFrom text t.stop ts

/-- What stands before each of the tokens of a text. -/
def gapsOf (text : List Char) (ts : List Token) : List (List Char) := gapsFrom text 0 ts

/-- Words with a gap before each. -/
def weave : List (List Char) → List (TokenKind × String) → List Char
  | gap :: gaps, word :: words => gap ++ (word.2.toList ++ weave gaps words)
  | _, _ => []

theorem GapText.head {gap : List Char} (h : GapText gap) :
    ∀ c ∈ gap.head?, isGapStart c = true := by
  cases h with
  | nil => simp
  | blank hc h =>
    rintro _ ⟨⟩
    simp [isGapStart, hc]
  | comment hb h =>
    rintro _ ⟨⟩
    rfl

theorem GapText.of_blanks {gap : List Char} (h : ∀ c ∈ gap, Text.isBlank c = true) :
    GapText gap := by
  induction gap with
  | nil => exact .nil
  | cons c gap ih =>
    obtain ⟨hc, hgap⟩ := List.forall_mem_cons.1 h
    exact .blank hc (ih hgap)

theorem GapText.append {gap more : List Char} (h : GapText gap) (k : GapText more) :
    GapText (gap ++ more) := by
  induction h with
  | nil => exact k
  | blank hc h ih => exact .blank hc ih
  | comment hb h ih => simpa using GapText.comment hb ih

theorem GapText.blank_of_mem {gap : List Char} (h : GapText gap) (hn : '#' ∉ gap) :
    ∀ c ∈ gap, Text.isBlank c = true := by
  induction h with
  | nil => simp
  | blank hc h ih => exact List.forall_mem_cons.2 ⟨hc, ih fun hm => hn (List.mem_cons_of_mem _ hm)⟩
  | comment hb h ih => exact absurd List.mem_cons_self hn

/-- Before the first comment of a gap stands white space. -/
theorem GapText.exists_comment {gap : List Char} (h : GapText gap) (hm : '#' ∈ gap) :
    ∃ blanks more, gap = blanks ++ '#' :: more ∧ ∀ c ∈ blanks, Text.isBlank c = true := by
  induction h with
  | nil => cases hm
  | @blank c gap hc h ih =>
    rcases List.mem_cons.1 hm with rfl | hm
    · cases hc
    · obtain ⟨blanks, more, rfl, hblanks⟩ := ih hm
      exact ⟨c :: blanks, more, rfl, List.forall_mem_cons.2 ⟨hc, hblanks⟩⟩
  | comment hb h ih => exact ⟨[], _, rfl, by simp⟩

/-! ## Lexemes of a text -/

/-- The lexemes of a text, and what cannot be cut. -/
def lexemes (glued : Bool) (cs : List Char) : List (TokenKind × String) × List Char :=
  ((cut glued cs).pieces.filterMap Piece.word?, (cut glued cs).stuck)

theorem lexemes_nil (glued : Bool) : lexemes glued [] = ([], []) := by simp [lexemes, cut_nil]

theorem lexemes_blank {c : Char} (hc : Text.isBlank c = true) (glued : Bool) (cs : List Char) :
    lexemes glued (c :: cs) = lexemes false cs := by
  obtain ⟨hstuck, htokens⟩ := locate_cut_blank hc glued cs 0 1
  have hwords := congrArg (fun ts => (List.dropLast ts).map Token.word) htokens
  simp only [words_locate] at hwords
  simp only [lexemes, hstuck, hwords]

theorem firstPiece_comment (glued : Bool) {body : List Char} (hb : '\n' ∉ body) {rest : List Char}
    (hr : ∀ c ∈ rest.head?, c = '\n') :
    Piece.firstPiece glued '#' (body ++ rest) = some (.gap ('#' :: body), rest) := by
  have hall : ∀ c ∈ body, (c != '\n') = true := by
    intro c hc
    simpa using fun he : c = '\n' => hb (he ▸ hc)
  have hstop : ∀ c ∈ rest.head?, (c != '\n') = false := by
    intro c hc
    simp [hr c hc]
  have htake : rest.takeWhile (· != '\n') = [] := takeWhile_append_stop hstop []
  have hdrop : rest.dropWhile (· != '\n') = rest := dropWhile_append_stop hstop []
  simp [Piece.firstPiece, show Text.isBlank '#' = false from rfl,
    List.takeWhile_append_of_pos hall, List.dropWhile_append_of_pos hall, htake, hdrop]

theorem lexemes_comment (glued : Bool) {body : List Char} (hb : '\n' ∉ body) (cs : List Char) :
    lexemes glued ('#' :: (body ++ '\n' :: cs)) = lexemes false cs := by
  rw [← lexemes_blank (show Text.isBlank '\n' = true from rfl) false cs, lexemes,
    cut_cons (firstPiece_comment glued hb (by simp))]
  rfl

/-- A comment that is the last line of the text. -/
theorem lexemes_open {body : List Char} (hb : '\n' ∉ body) (glued : Bool) :
    lexemes glued ('#' :: body) = ([], []) := by
  have hpiece := firstPiece_comment glued hb (show ∀ c ∈ ([] : List Char).head?, c = '\n' by simp)
  rw [List.append_nil] at hpiece
  rw [lexemes, cut_cons hpiece, cut_nil]
  rfl

theorem lexemes_lexeme {glued : Bool} {c : Char} {cs ds rest : List Char} {kind : TokenKind}
    (h : Piece.firstPiece glued c cs = some (.lexeme kind ds, rest)) :
    lexemes glued (c :: cs) = ((kind, String.ofList ds) :: (lexemes kind.isName rest).1,
      (lexemes kind.isName rest).2) := by
  rw [lexemes, cut_cons h]
  rfl

/-- A gap in front does not matter, but for a colon right behind a name. -/
theorem GapText.lexemes {gap : List Char} (h : GapText gap) (glued : Bool) (cs : List Char) :
    lexemes glued (gap ++ cs) = TypeTags.lexemes (glued && gap.isEmpty) cs := by
  induction h generalizing glued with
  | nil => simp
  | blank hc h ih => simp [lexemes_blank hc, ih]
  | comment hb h ih => simp [lexemes_comment _ hb, ih]

/-! ## Gaps and lexemes by turns -/

/-- The gaps and the words, in turns and the end mark last, are what a text is cut into; `glued`
tells whether a name stands right before the text. -/
inductive Lexes : Bool → List (List Char) → List (TokenKind × String) → Prop where
  | last {glued : Bool} {gap : List Char} (hs : ∀ c ∈ gap.head?, isGapStart c = true)
      (h : ∀ glued, lexemes glued gap = ([], [])) : Lexes glued [gap] [(.eof, "")]
  | cons {glued : Bool} {gap : List Char} {gaps : List (List Char)} {kind : TokenKind} {c : Char}
      {v : List Char} {words : List (TokenKind × String)} (hg : GapText gap)
      (hf : Piece.firstPiece (glued && gap.isEmpty) c (v ++ weave gaps words) =
        some (.lexeme kind (c :: v), weave gaps words))
      (h : Lexes kind.isName gaps words) :
      Lexes glued (gap :: gaps) ((kind, String.ofList (c :: v)) :: words)

theorem GapText.lexes_last {gap : List Char} (h : GapText gap) (glued : Bool) :
    Lexes glued [gap] [(.eof, "")] := by
  refine .last h.head fun glued => ?_
  have hrest := h.lexemes glued []
  rwa [List.append_nil, lexemes_nil] at hrest

/-- Other gaps between the same words: no lexeme can tell the two texts apart. -/
theorem Lexes.regap {glued : Bool} {gaps gaps' : List (List Char)}
    {words : List (TokenKind × String)} (h : Lexes glued gaps words)
    (hg : List.Forall₂ Regap gaps gaps') :
    Lexes glued gaps' words ∧ LookAlike (weave gaps words) (weave gaps' words) := by
  induction h generalizing gaps' with
  | @last glued gap hs hl =>
    cases hg with
    | cons hgap htail =>
      cases htail
      rcases hgap with rfl | ⟨hne, hne', htext⟩
      · exact ⟨.last hs hl, .refl _⟩
      · exact ⟨htext.lexes_last glued, .hidden hs htext.head hne hne' _ _⟩
  | @cons glued gap gaps kind c v words hgap hf h ih =>
    cases hg with
    | @cons _ gap' _ gaps' hregap htail =>
      obtain ⟨hrest, hlook⟩ := ih htail
      have hf' := firstPiece_alike hlook hf
      rcases hregap with rfl | ⟨hne, hne', htext⟩
      · refine ⟨.cons hgap hf' hrest, ?_⟩
        simp only [weave]
        exact (hlook.append _).append _
      · have hempty : gap'.isEmpty = gap.isEmpty := by
          rw [List.isEmpty_eq_false_iff.2 hne, List.isEmpty_eq_false_iff.2 hne']
        rw [← hempty] at hf'
        exact ⟨.cons htext hf' hrest, .hidden hgap.head htext.head hne hne' _ _⟩

/-- The text of gaps and words is cut into them. -/
theorem Lexes.lexemes_eq {glued : Bool} {gaps : List (List Char)}
    {words : List (TokenKind × String)} (h : Lexes glued gaps words) :
    words = (lexemes glued (weave gaps words)).1 ++ [(.eof, "")] ∧
      (lexemes glued (weave gaps words)).2 = [] := by
  induction h with
  | last hs hl => simp [weave, hl]
  | @cons glued gap gaps kind c v words hgap hf h ih =>
    have hwords : lexemes glued (weave (gap :: gaps) ((kind, String.ofList (c :: v)) :: words)) =
        lexemes (glued && gap.isEmpty) (c :: (v ++ weave gaps words)) := by
      simp only [weave, String.toList_ofList]
      exact hgap.lexemes glued _
    rw [hwords, lexemes_lexeme hf]
    exact ⟨congrArg _ ih.1, ih.2⟩

/-! ## The gaps of a text -/

theorem words_locate_all (offset line : Nat) (ps : List Piece) :
    (Token.locate offset line ps).map Token.word = ps.filterMap Piece.word? ++ [(.eof, "")] := by
  induction ps generalizing offset line with
  | nil => rfl
  | cons p ps ih =>
    cases p with
    | gap cs => exact ih _ _
    | lexeme kind cs =>
      simp only [Token.locate, List.map_cons, ih]
      rfl

/-- The text is the gap, the gaps and the words, which are those of its tokens, wherever the text
stands. -/
structure CutsInto (glued : Bool) (cs gap : List Char) (gaps : List (List Char))
    (words : List (TokenKind × String)) : Prop where
  lexes : Lexes glued (gap :: gaps) words
  text : weave (gap :: gaps) words = cs
  gaps_eq : ∀ (whole : List Char) (stop offset line : Nat), stop ≤ offset →
    whole.drop offset = cs →
      gapsFrom whole stop (Token.locate offset line (cut glued cs).pieces) =
        ((whole.drop stop).take (offset - stop) ++ gap) :: gaps

theorem slice_append {whole chunk cs : List Char} {stop offset : Nat} (hs : stop ≤ offset)
    (hw : whole.drop offset = chunk ++ cs) :
    (whole.drop stop).take (offset + chunk.length - stop) =
      (whole.drop stop).take (offset - stop) ++ chunk := by
  rw [Nat.sub_add_comm hs, List.take_add, List.drop_drop, Nat.add_sub_cancel' hs, hw,
    List.take_left]

/-- Part of a gap in front. -/
theorem CutsInto.push {glued : Bool} {chunk cs gap : List Char} {gaps : List (List Char)}
    {words : List (TokenKind × String)} (h : CutsInto false cs gap gaps words)
    (hc : GapText chunk) (hne : chunk ≠ [])
    (ht : ∀ offset line, ∃ line', Token.locate offset line (cut glued (chunk ++ cs)).pieces =
      Token.locate (offset + chunk.length) line' (cut false cs).pieces) :
    CutsInto glued (chunk ++ cs) (chunk ++ gap) gaps words := by
  refine ⟨?_, ?_, ?_⟩
  · have hempty : (chunk ++ gap).isEmpty = false := by simp [hne]
    cases h.lexes with
    | last hs hl =>
      refine .last ?_ fun g => (hc.lexemes g gap).trans (hl _)
      obtain ⟨c, ds, rfl⟩ := List.exists_cons_of_ne_nil hne
      exact hc.head
    | cons hg hf hrest =>
      refine .cons (hc.append hg) ?_ hrest
      rw [hempty, Bool.and_false]
      exact hf
  · cases words with
    | nil => exact absurd h.lexes (by rintro ⟨⟩)
    | cons word words => simp only [← h.text, weave, List.append_assoc]
  · intro whole stop offset line hs hw
    obtain ⟨line', hline⟩ := ht offset line
    have hdrop : whole.drop (offset + chunk.length) = cs := by
      rw [← List.drop_drop, hw, List.drop_left]
    rw [hline, h.gaps_eq whole stop _ line' (by omega) hdrop, slice_append hs hw,
      List.append_assoc]

theorem isGapStart_of_gap {glued : Bool} {c : Char} {cs ds rest : List Char}
    (h : Piece.firstPiece glued c cs = some (.gap ds, rest)) : isGapStart c = true := by
  have hfirst := Piece.first_of_firstPiece h
  generalize hp : Piece.gap ds = p at hfirst
  cases hfirst with
  | blank hb => simp [isGapStart, hb]
  | comment hc => simp [isGapStart, hc]
  | colon hc =>
    unfold Piece.colonLexeme at hp
    split at hp
    · cases hp
    · split at hp
      · cases hp
      · split at hp <;> cases hp
  | punctuation =>
    unfold Piece.punctuation at hp
    split at hp
    · split at hp <;> cases hp
    · cases hp
  | _ => cases hp

/-- Pieces without lexemes have only the end mark behind them. -/
theorem locate_gaps {ps : List Piece} (h : ps.filterMap Piece.word? = []) (offset line : Nat) :
    ∃ line', Token.locate offset line ps =
      [.endMark (offset + (ps.flatMap Piece.chars).length) line'] := by
  induction ps generalizing offset line with
  | nil => exact ⟨line, rfl⟩
  | cons p ps ih =>
    cases p with
    | gap cs =>
      obtain ⟨line', hline⟩ := ih h (offset + cs.length) (line + (Piece.gap cs).lineFeeds)
      refine ⟨line', ?_⟩
      rw [List.flatMap_cons, List.length_append, ← Nat.add_assoc]
      exact hline
    | lexeme kind cs => cases h

/-- A text that is one gap. -/
theorem cutsInto_gap {cs : List Char} (hs : ∀ c ∈ cs.head?, isGapStart c = true)
    (hl : ∀ glued, lexemes glued cs = ([], [])) (glued : Bool) :
    CutsInto glued cs cs [] [(.eof, "")] := by
  refine ⟨.last hs hl, by simp [weave], fun whole stop offset line hstop hw => ?_⟩
  obtain ⟨hwords, hstuck⟩ := Prod.mk.inj (hl glued)
  obtain ⟨line', hline⟩ := locate_gaps hwords offset line
  have hchars := cut_chars glued cs
  rw [hstuck, List.append_nil] at hchars
  rw [hline, hchars]
  simp only [gapsFrom, Token.endMark]
  rw [slice_append hstop (show whole.drop offset = cs ++ [] by simpa using hw)]

/-- A lexeme in front. -/
theorem CutsInto.lexeme {glued : Bool} {c : Char} {v rest gap : List Char} {kind : TokenKind}
    {gaps : List (List Char)} {words : List (TokenKind × String)}
    (h : CutsInto kind.isName rest gap gaps words)
    (hf : Piece.firstPiece glued c (v ++ rest) = some (.lexeme kind (c :: v), rest)) :
    CutsInto glued (c :: (v ++ rest)) [] (gap :: gaps)
      ((kind, String.ofList (c :: v)) :: words) := by
  refine ⟨.cons .nil ?_ h.lexes, ?_, fun whole stop offset line hstop hw => ?_⟩
  · rw [h.text, List.isEmpty_nil, Bool.and_true]
    exact hf
  · rw [weave, h.text]
    simp
  · have hdrop : whole.drop (offset + (c :: v).length) = rest := by
      rw [← List.drop_drop, hw, ← List.cons_append, List.drop_left]
    have hrest := h.gaps_eq whole _ _ (line + (Piece.lexeme kind (c :: v)).lineFeeds)
      (Nat.le_refl _) hdrop
    rw [Nat.sub_self, List.take_zero, List.nil_append] at hrest
    rw [cut_cons hf, List.append_nil]
    exact congrArg _ hrest

/-- A comment in front only moves the tokens. -/
theorem locate_cut_comment {body : List Char} (hb : '\n' ∉ body) (glued : Bool) (cs : List Char)
    (offset line : Nat) :
    (cut glued ('#' :: (body ++ '\n' :: cs))).stuck = (cut false cs).stuck ∧
      ∃ line', Token.locate offset line (cut glued ('#' :: (body ++ '\n' :: cs))).pieces =
        Token.locate (offset + (body.length + 2)) line' (cut false cs).pieces := by
  have hcut := cut_cons (firstPiece_comment glued hb
    (show ∀ c ∈ ('\n' :: cs).head?, c = '\n' by simp))
  obtain ⟨hstuck, htokens⟩ := locate_cut_blank (show Text.isBlank '\n' = true from rfl) false cs
    (offset + (body.length + 1)) (line + (Piece.gap ('#' :: body)).lineFeeds)
  rw [hcut]
  exact ⟨hstuck, _, htokens⟩

/-- A text that is cut to its end is made of gaps and words. -/
theorem exists_lexes {glued : Bool} {cs : List Char} (h : (cut glued cs).stuck = []) :
    ∃ gap gaps words, CutsInto glued cs gap gaps words := by
  -- by the length of the text: a blank, a comment or a lexeme is taken off at a time
  induction hn : cs.length using Nat.strongRecOn generalizing glued cs with
  | ind n ih =>
    subst hn
    cases cs with
    | nil => exact ⟨[], [], _, cutsInto_gap (by simp) lexemes_nil glued⟩
    | cons c cs =>
      cases hf : Piece.firstPiece glued c cs with
      | none => simp [cut_stuck hf] at h
      | some pr =>
        obtain ⟨p, rest⟩ := pr
        cases p with
        | lexeme kind ds =>
          obtain ⟨-, v, rfl⟩ := Piece.firstPiece_solid hf
          obtain rfl : v ++ rest = cs := (List.cons.inj (Piece.firstPiece_append hf)).2
          rw [cut_cons hf] at h
          obtain ⟨gap, gaps, words, hrest⟩ :=
            ih rest.length (Piece.firstPiece_length_lt hf) h rfl
          exact ⟨_, _, _, hrest.lexeme hf⟩
        | gap ds =>
          have hstart := isGapStart_of_gap hf
          simp only [isGapStart, Bool.or_eq_true, beq_iff_eq] at hstart
          rcases hstart with hb | rfl
          · have hstuck := (locate_cut_blank hb glued cs 0 1).1
            obtain ⟨gap, gaps, words, hcs⟩ := ih cs.length (by simp) (hstuck ▸ h) rfl
            refine ⟨_, _, _, hcs.push (.blank hb .nil) (by simp) fun offset line => ?_⟩
            exact ⟨_, (locate_cut_blank hb glued cs offset line).2⟩
          · by_cases hfeed : '\n' ∈ cs
            · obtain ⟨body, rest, rfl, hbody⟩ := List.eq_append_cons_of_mem hfeed
              have hstuck := (locate_cut_comment hbody glued rest 0 1).1
              obtain ⟨gap, gaps, words, hrest⟩ :=
                ih rest.length (by simp; omega) (hstuck ▸ h) rfl
              have hchunk : '#' :: (body ++ '\n' :: rest) = '#' :: (body ++ ['\n']) ++ rest := by
                simp
              rw [hchunk]
              refine ⟨_, _, _, hrest.push (.comment hbody .nil) (by simp) fun offset line => ?_⟩
              rw [← hchunk]
              simpa using (locate_cut_comment hbody glued rest offset line).2
            · exact ⟨_, _, _, cutsInto_gap (by simp [isGapStart]) (lexemes_open hfeed) glued⟩

/-! ## Texts with other gaps -/

theorem cut_of_tokenize {text : List Char} {ts : List Token} (h : tokenize text = .ok ts) :
    (cut false text).stuck = [] ∧ ts = Token.locate 0 1 (cut false text).pieces := by
  unfold tokenize at h
  split at h
  · rename_i hcut
    cases h
    rw [hcut]
    exact ⟨rfl, rfl⟩
  · cases h

/-- The gaps and the words of a text, with the end mark last. -/
theorem tokenize_lexes {text : List Char} {ts : List Token} (h : tokenize text = .ok ts) :
    Lexes false (gapsOf text ts) (ts.map Token.word) ∧
      weave (gapsOf text ts) (ts.map Token.word) = text := by
  obtain ⟨hstuck, rfl⟩ := cut_of_tokenize h
  obtain ⟨gap, rest, words, hcuts⟩ := exists_lexes hstuck
  have hwords : (Token.locate 0 1 (cut false text).pieces).map Token.word = words := by
    rw [words_locate_all, hcuts.lexes.lexemes_eq.1, hcuts.text]
    rfl
  have hgaps : gapsOf text (Token.locate 0 1 (cut false text).pieces) = gap :: rest :=
    hcuts.gaps_eq text 0 0 1 (Nat.le_refl _) rfl
  rw [hgaps, hwords]
  exact ⟨hcuts.lexes, hcuts.text⟩

/-- A gap in front only moves the tokens. -/
theorem GapText.locate_cut {gap : List Char} (h : GapText gap) (glued : Bool) (cs : List Char)
    (offset line : Nat) :
    ∃ line', Token.locate offset line (cut glued (gap ++ cs)).pieces =
      Token.locate (offset + gap.length) line' (cut (glued && gap.isEmpty) cs).pieces := by
  induction h generalizing glued offset line with
  | nil => exact ⟨line, by simp⟩
  | @blank c gap hc h ih =>
    obtain ⟨line', hline⟩ := ih false (offset + 1) (line + if c = '\n' then 1 else 0)
    refine ⟨line', ?_⟩
    rw [List.cons_append, (locate_cut_blank hc glued _ offset line).2, hline]
    simp [Nat.add_assoc, Nat.add_comm 1]
  | @comment body gap hb h ih =>
    obtain ⟨-, line₁, hfirst⟩ := locate_cut_comment hb glued (gap ++ cs) offset line
    obtain ⟨line', hline⟩ := ih false (offset + (body.length + 2)) line₁
    refine ⟨line', ?_⟩
    have hchunk : '#' :: (body ++ '\n' :: gap) ++ cs = '#' :: (body ++ '\n' :: (gap ++ cs)) := by
      simp
    have hlen : offset + (body.length + 2) + gap.length =
        offset + ('#' :: (body ++ '\n' :: gap)).length := by
      simp only [List.length_cons, List.length_append]
      omega
    rw [hchunk, hfirst, hline, hlen]
    simp

/-- Gaps and words are those that their text is cut into. -/
theorem Lexes.cutsInto {glued : Bool} {gap : List Char} {gaps : List (List Char)}
    {words : List (TokenKind × String)} (h : Lexes glued (gap :: gaps) words) :
    CutsInto glued (weave (gap :: gaps) words) gap gaps words := by
  generalize hall : gap :: gaps = all at h
  induction h generalizing gap gaps with
  | last hs hl =>
    cases hall
    simpa [weave] using cutsInto_gap hs hl _
  | @cons glued _ _ kind c v words hg hf h ih =>
    obtain ⟨rfl, rfl⟩ := List.cons.inj hall
    obtain ⟨gap₁, rest, rfl⟩ : ∃ gap₁ rest, gaps = gap₁ :: rest := by
      cases h with
      | last => exact ⟨_, _, rfl⟩
      | cons => exact ⟨_, _, rfl⟩
    have hlexeme := (ih rfl).lexeme hf
    have htext : weave (gap :: gap₁ :: rest) ((kind, String.ofList (c :: v)) :: words) =
        gap ++ c :: (v ++ weave (gap₁ :: rest) words) := by
      simp [weave]
    rw [htext]
    by_cases hne : gap = []
    · subst hne
      simpa using hlexeme
    · have hempty : (glued && gap.isEmpty) = false := by simp [hne]
      rw [hempty] at hlexeme
      have hmoved := hg.locate_cut glued (c :: (v ++ weave (gap₁ :: rest) words))
      rw [hempty] at hmoved
      simpa using hlexeme.push hg hne hmoved

/-- The tokens of the text of gaps and words. -/
theorem Lexes.tokenize_weave {gaps : List (List Char)} {words : List (TokenKind × String)}
    (h : Lexes false gaps words) :
    ∃ us, tokenize (weave gaps words) = .ok us ∧ us.map Token.word = words ∧
      gapsOf (weave gaps words) us = gaps := by
  cases gaps with
  | nil => cases h
  | cons gap gaps =>
    obtain ⟨hwords, hleft⟩ := h.lexemes_eq
    have hgaps := h.cutsInto.gaps_eq (weave (gap :: gaps) words) 0 0 1 (Nat.le_refl _) rfl
    generalize weave (gap :: gaps) words = text at hwords hleft hgaps
    have hcut : cut false text = ⟨(cut false text).pieces, []⟩ := by
      rw [← hleft]
      rfl
    refine ⟨_, tokenize_of_cut hcut, ?_, hgaps⟩
    rw [words_locate_all]
    exact hwords.symm

/-- **Other gaps.** If gaps of a text are replaced, the tokens are the same, at other places. -/
theorem tokenize_respaced {text : List Char} {ts : List Token} (h : tokenize text = .ok ts)
    {gaps : List (List Char)} (hg : List.Forall₂ Regap (gapsOf text ts) gaps) :
    ∃ us, tokenize (weave gaps (ts.map Token.word)) = .ok us ∧
      us.map Token.word = ts.map Token.word := by
  obtain ⟨us, hus, hwords, -⟩ := ((tokenize_lexes h).1.regap hg).1.tokenize_weave
  exact ⟨us, hus, hwords⟩

end TypeTags
