import TypeTags.Proofs.Text.Trim
import TypeTags.Proofs.Token.Gaps

/-!
# Squeezed texts

Squeezing makes one line of a text without looking at its tokens: a line feed in a string literal
or at the end of a comment goes the same way as one between two tokens. A literal keeps its closing
quote, so it is still one literal, of another text. A comment does not keep its end: all that stands
behind it becomes part of it.

Results:
* `LiteralBody.squeezed`: a string literal stays closed.
* `Lexes.squeezed`: the gaps and the words of a squeezed text.
-/

namespace TypeTags

/-! ## Lexemes -/

theorem isBlank_of_class {q : Char → Bool} (hq : ∀ c, isGapStart c = true → q c = false) {c : Char}
    (h : q c = true) : Text.isBlank c = false := by
  cases hb : Text.isBlank c with
  | false => rfl
  | true =>
    have hnot := hq c (by simp [isGapStart, hb])
    rw [h] at hnot
    cases hnot

theorem takeWhile_isWordChar_dense (cs : List Char) :
    ∀ d ∈ cs.takeWhile Text.isWordChar, Text.isBlank d = false := fun _ hd =>
  isBlank_of_class (fun _ => isWordChar_of_isGapStart) (List.mem_takeWhile_imp hd)

theorem nameMark_dense (cs : List Char) :
    ∀ d ∈ (Piece.nameMark cs).1, Text.isBlank d = false := by
  fun_cases Piece.nameMark cs <;> simp <;> decide

theorem colonLexeme_dense (glued : Bool) (cs : List Char) :
    ∀ d ∈ (Piece.colonLexeme glued cs).1.chars, Text.isBlank d = false := by
  fun_cases Piece.colonLexeme glued cs with
  | case1 | case2 | case4 => simp [Piece.chars, show Text.isBlank ':' = false by decide]
  | case3 c cs hscope hname =>
    have hc : Text.isNameStart c = true := (Bool.and_eq_true_iff.1 hname).2
    rintro d (_ | ⟨_, _ | ⟨_, hd⟩⟩)
    · decide
    · exact isBlank_of_class (fun _ => isNameStart_of_isGapStart) hc
    · exact takeWhile_isWordChar_dense _ d hd

theorem punctuation_dense {c : Char} (hc : Text.isBlank c = false) (cs : List Char) :
    ∀ d ∈ (Piece.punctuation c cs).1.chars, Text.isBlank d = false := by
  fun_cases Piece.punctuation c cs with
  | case1 =>
    simp [Piece.chars, show Text.isBlank '=' = false by decide,
      show Text.isBlank '>' = false by decide]
  | case2 | case3 => simpa [Piece.chars] using hc

/-- Only a string literal may hold white space. -/
theorem firstPiece_dense {glued : Bool} {c : Char} {cs ds rest : List Char} {kind : TokenKind}
    (h : Piece.firstPiece glued c cs = some (.lexeme kind ds, rest))
    (hq : ¬ (c = '\'' ∨ c = '"')) :
    ∀ d ∈ ds, Text.isBlank d = false := by
  have hsolid := (Piece.firstPiece_solid h).1
  have hfirst := Piece.first_of_firstPiece h
  change ∀ d ∈ (Piece.lexeme kind ds).chars, _
  generalize hp : Piece.lexeme kind ds = p at hfirst
  cases hfirst with
  | blank => cases hp
  | comment => cases hp
  | name =>
    rw [Piece.name, Piece.chars, List.cons_append]
    simp only [List.mem_cons, List.mem_append]
    rintro d (rfl | hd | hd)
    · exact hsolid
    · exact takeWhile_isWordChar_dense _ d hd
    · exact nameMark_dense _ d hd
  | number =>
    rintro d (_ | ⟨_, hd⟩)
    · exact hsolid
    · exact isBlank_of_class (fun _ => isNumberChar_of_isGapStart) (List.mem_takeWhile_imp hd)
  | string hc => exact absurd hc hq
  | colon => exact colonLexeme_dense glued cs
  | punctuation => exact punctuation_dense hsolid cs

/-! ## String literals -/

/-- White space in front of a body. -/
theorem LiteralBody.blanks {q : Char} (hq : q = '\'' ∨ q = '"') {blanks body : List Char}
    (hb : ∀ c ∈ blanks, Text.isBlank c = true) (h : LiteralBody q body) :
    LiteralBody q (blanks ++ body) := by
  refine (LiteralBody.of_plain fun c hc => ⟨?_, ?_⟩).append h
  · rintro rfl
    exact Bool.eq_false_iff.1 (isBlank_quote hq) (hb c hc)
  · rintro rfl
    cases hb _ hc

/-- **String literals.** What is left of a body behind some of its characters is squeezed to white
space, which may go on with a run before it, and a body again. -/
theorem LiteralBody.squeezed {q : Char} (hq : q = '\'' ∨ q = '"') {body : List Char}
    (h : LiteralBody q body) :
    ∃ blanks body', (∀ c ∈ blanks, Text.isBlank c = true) ∧ LiteralBody q body' ∧
      (∀ run more, Text.squeezeFrom run (body ++ q :: more) =
        Text.squeezeRun (run ++ blanks) ++ (body' ++ q :: Text.squeezeFrom [] more)) ∧
      ∀ more more', solidHead (body ++ q :: more) =
        solidHead (Text.squeezeRun blanks ++ (body' ++ q :: more')) := by
  induction h with
  | nil =>
    refine ⟨[], [], by simp, .nil, fun run more => ?_, fun _ _ => rfl⟩
    simp [Text.squeezeFrom_cons (isBlank_quote hq)]
  | @escaped d body h ih =>
    obtain ⟨blanks, body', hb, hbody, hsqueeze, -⟩ := ih
    -- the backslash takes a white space with it, or the other character behind it
    cases hd : Text.isBlank d with
    | true =>
      obtain ⟨e, es, hrun⟩ := List.exists_cons_of_ne_nil
        (mt Text.squeezeRun_eq_nil.1 (List.cons_ne_nil d blanks))
      have hblank := Text.squeezeRun_blank (List.forall_mem_cons.2 ⟨hd, hb⟩)
      rw [hrun] at hblank
      refine ⟨[], '\\' :: e :: (es ++ body'), by simp,
        .escaped e (hbody.blanks hq (List.forall_mem_cons.1 hblank).2), fun run more => ?_,
        fun _ _ => rfl⟩
      simp [Text.squeezeFrom_cons (show Text.isBlank '\\' = false by decide),
        Text.squeezeFrom, hd, hsqueeze, hrun]
    | false =>
      refine ⟨[], '\\' :: d :: (Text.squeezeRun blanks ++ body'), by simp,
        .escaped d (hbody.blanks hq (Text.squeezeRun_blank hb)), fun run more => ?_,
        fun _ _ => rfl⟩
      simp [Text.squeezeFrom_cons (show Text.isBlank '\\' = false by decide),
        Text.squeezeFrom, hd, hsqueeze]
  | @plain c body hne hescape h ih =>
    obtain ⟨blanks, body', hb, hbody, hsqueeze, -⟩ := ih
    cases hc : Text.isBlank c with
    | true =>
      have hblank : ∀ d ∈ c :: blanks, Text.isBlank d = true := List.forall_mem_cons.2 ⟨hc, hb⟩
      have hrun : Text.squeezeRun (c :: blanks) ≠ [] :=
        mt Text.squeezeRun_eq_nil.1 (List.cons_ne_nil c blanks)
      refine ⟨c :: blanks, body', hblank, hbody, fun run more => ?_, fun more more' => ?_⟩
      · simp [Text.squeezeFrom, hc, hsqueeze]
      · have hhead : solidHead ([c] ++ (body ++ q :: more)) = none :=
          solidHead_gap (GapText.of_blanks (by simpa using hc)).head (by simp) _
        rw [solidHead_gap (GapText.of_blanks (Text.squeezeRun_blank hblank)).head hrun]
        exact hhead
    | false =>
      refine ⟨[], c :: (Text.squeezeRun blanks ++ body'), by simp,
        .plain hne hescape (hbody.blanks hq (Text.squeezeRun_blank hb)), fun run more => ?_,
        fun _ _ => rfl⟩
      simp [Text.squeezeFrom, hc, hsqueeze]

/-! ## Gaps and lexemes -/

/-- The same word, or two string literals. -/
def SameShape (word word' : TokenKind × String) : Prop :=
  word'.1 = word.1 ∧ (word.1 ≠ .string → word'.2 = word.2)

theorem SameShape.eq {word word' : TokenKind × String} (h : SameShape word word')
    (hk : word.1 ≠ .string) : word' = word :=
  Prod.ext h.1 (h.2 hk)

/-- What the squeezed text keeps of gaps and words, the end mark last and the last gap left out: the
words up to the first comment, which is open to the end. -/
inductive Squeezed : List (List Char) → List (TokenKind × String) → List (List Char) →
    List (TokenKind × String) → Prop where
  | last (gap : List Char) : Squeezed [gap] [(.eof, "")] [[]] [(.eof, "")]
  | comment {gap gap' : List Char} {gaps : List (List Char)} (hm : '#' ∈ gap) (hne : gap' ≠ [])
      (hmore : gaps ≠ []) (words : List (TokenKind × String)) :
      Squeezed (gap :: gaps) words [gap'] [(.eof, "")]
  | cons {gap : List Char} {gaps gaps' : List (List Char)} {word word' : TokenKind × String}
      {words words' : List (TokenKind × String)} (hn : '#' ∉ gap) (hw : SameShape word word')
      (h : Squeezed gaps words gaps' words') :
      Squeezed (gap :: gaps) (word :: words) (Text.squeezeRun gap :: gaps') (word' :: words')

namespace Squeezed

variable {gaps gaps' : List (List Char)} {words words' : List (TokenKind × String)}

theorem ne_nil (h : Squeezed gaps words gaps' words') : gaps ≠ [] ∧ gaps' ≠ [] := by
  cases h <;> simp

/-- No gap is put in front. -/
theorem head (h : Squeezed ([] :: gaps) words gaps' words') : gaps'.head? = some [] := by
  cases h with
  | last => rfl
  | comment hm => cases hm
  | cons => rfl

/-- The first three words, if they are no string literals, are kept in front of the first comment.
-/
theorem front {word₁ word₂ word₃ : TokenKind × String}
    (h : Squeezed ([] :: gaps) (word₁ :: word₂ :: word₃ :: words) gaps' words')
    (h₁ : word₁.1 ≠ .string) (h₂ : word₂.1 ≠ .string) (h₃ : word₃.1 ≠ .string) :
    words' = [word₁, (.eof, "")] ∨ words' = [word₁, word₂, (.eof, "")] ∨
      ∃ more, words' = word₁ :: word₂ :: word₃ :: more := by
  cases h with
  | comment hm => cases hm
  | cons _ hw h =>
    obtain rfl := hw.eq h₁
    cases h with
    | comment => exact .inl rfl
    | cons _ hw h =>
      obtain rfl := hw.eq h₂
      cases h with
      | last => exact .inr (.inl rfl)
      | comment => exact .inr (.inl rfl)
      | cons _ hw h =>
        obtain rfl := hw.eq h₃
        exact .inr (.inr ⟨_, rfl⟩)

/-- Without comments all words are kept, and the text ends with the last of them. -/
theorem of_blank (h : Squeezed gaps words gaps' words') (hn : ∀ gap ∈ gaps.dropLast, '#' ∉ gap) :
    List.Forall₂ SameShape words words' ∧ gaps'.getLast? = some [] := by
  induction h with
  | last gap => exact ⟨.cons ⟨rfl, fun _ => rfl⟩ .nil, rfl⟩
  | comment hm hne hmore words =>
    rw [List.dropLast_cons_of_ne_nil hmore] at hn
    exact absurd hm (hn _ List.mem_cons_self)
  | cons hgap hw h ih =>
    obtain ⟨hne, hne'⟩ := h.ne_nil
    rw [List.dropLast_cons_of_ne_nil hne] at hn
    obtain ⟨hwords, hlast⟩ := ih fun gap hm => hn gap (List.mem_cons_of_mem _ hm)
    exact ⟨.cons hw hwords, by rw [List.getLast?_cons_of_ne_nil hne', hlast]⟩

/-- Behind a comment nothing is read. -/
theorem of_comment (h : Squeezed gaps words gaps' words')
    (hm : ∃ gap ∈ gaps.dropLast, '#' ∈ gap) : ∃ gap, gaps'.getLast? = some gap ∧ gap ≠ [] := by
  induction h with
  | last gap => simp at hm
  | @comment _ gap' _ hcomment hne hmore words => exact ⟨gap', rfl, hne⟩
  | cons hgap hw h ih =>
    obtain ⟨hne, hne'⟩ := h.ne_nil
    rw [List.dropLast_cons_of_ne_nil hne] at hm
    obtain ⟨gap, hlast, hgap'⟩ := ih (by simpa [hgap] using hm)
    exact ⟨gap, by rw [List.getLast?_cons_of_ne_nil hne', hlast], hgap'⟩

end Squeezed

/-- The lexeme in front of a text, in the squeezed text. -/
theorem firstPiece_squeezed {glued : Bool} {c : Char} {v rest rest' : List Char}
    {kind : TokenKind} (hl : LookAlike rest rest')
    (hf : Piece.firstPiece glued c (v ++ rest) = some (.lexeme kind (c :: v), rest)) :
    ∃ v', Piece.firstPiece glued c (v' ++ rest') = some (.lexeme kind (c :: v'), rest') ∧
      (kind ≠ .string → v' = v) ∧
      (∀ run more, Text.squeezeFrom run (c :: (v ++ more)) =
        Text.squeezeRun run ++ (c :: v' ++ Text.squeezeFrom [] more)) ∧
      LookAlike (c :: (v ++ rest)) (c :: (v' ++ rest')) := by
  by_cases hq : c = '\'' ∨ c = '"'
  · have hne := quote_ne_backslash hq
    rw [firstPiece_quote hq] at hf
    obtain ⟨⟨tail, left⟩, ht, he⟩ := Option.map_eq_some_iff.1 hf
    obtain ⟨body, hbody, rfl, -⟩ := (stringTail_eq_some_iff hne).1 ht
    cases he
    obtain ⟨blanks, body', hb, hbody', hsqueeze, hhead⟩ := hbody.squeezed hq
    have hcut := (hbody'.blanks hq (Text.squeezeRun_blank hb)).stringTail_eq hne rest'
    refine ⟨Text.squeezeRun blanks ++ body' ++ [c], ?_, fun hk => absurd rfl hk,
      fun run more => ?_, ?_⟩
    · rw [firstPiece_quote hq, List.append_assoc _ [c], List.singleton_append, hcut]
      rfl
    · simp [Text.squeezeFrom_cons (isBlank_quote hq), hsqueeze]
    · refine ⟨rfl, fun _ => ?_⟩
      simpa using hhead rest rest'
  · refine ⟨v, firstPiece_alike hl hf, fun _ => rfl, fun run more => ?_, hl.append (c :: v)⟩
    exact Text.squeezeFrom_word (firstPiece_dense hf hq) run more

/-- **Squeezed texts.** The text up to its last word is squeezed to gaps and words again. -/
theorem Lexes.squeezed {glued : Bool} {gaps : List (List Char)}
    {words : List (TokenKind × String)} (h : Lexes glued gaps words) :
    ∃ gaps' words', Squeezed gaps words gaps' words' ∧ Lexes glued gaps' words' ∧
      weave gaps' words' = Text.squeezeFrom [] (weave (gaps.dropLast ++ [[]]) words) ∧
      LookAlike (weave gaps words) (weave gaps' words') := by
  induction h with
  | @last glued gap hs hl =>
    refine ⟨_, _, .last gap, GapText.nil.lexes_last glued, rfl, ?_⟩
    have hnone : solidHead gap = none := by
      cases gap with
      | nil => rfl
      | cons c gap => simp [solidHead, hs c rfl]
    simpa [weave] using LookAlike.of_none hnone rfl
  | @cons glued gap gaps kind c v words hg hf h ih =>
    obtain ⟨gaps', words', hsqueezed, hlexes, htext, hlook⟩ := ih
    have hne : gaps ≠ [] := by
      rintro rfl
      cases h
    rw [List.dropLast_cons_of_ne_nil hne]
    simp only [List.cons_append, weave, String.toList_ofList]
    by_cases hm : '#' ∈ gap
    · -- with its line feeds gone, the comment has no end
      obtain ⟨blanks, more, rfl, hblanks⟩ := hg.exists_comment hm
      have hrun := GapText.of_blanks (Text.squeezeRun_blank hblanks)
      generalize weave (gaps.dropLast ++ [[]]) words = behind
      generalize hcomment : Text.squeezeFrom [] (more ++ (c :: v ++ behind)) = comment
      have hopen : '\n' ∉ comment := hcomment ▸ Text.newline_notMem_squeezeFrom _ _
      have hhead : ∀ d ∈ (Text.squeezeRun blanks ++ '#' :: comment).head?,
          isGapStart d = true := by
        generalize Text.squeezeRun blanks = run at hrun
        cases run with
        | nil =>
          rintro _ ⟨⟩
          rfl
        | cons d run => exact hrun.head
      refine ⟨[Text.squeezeRun blanks ++ '#' :: comment], _, .comment hm (by simp) hne _,
        .last hhead fun glued => ?_, ?_, ?_⟩
      · rw [hrun.lexemes, lexemes_open hopen]
      · simp [weave, Text.squeezeFrom_blanks hblanks, Text.squeezeFrom, ← hcomment,
          show Text.isBlank '#' = false by decide]
      · exact .hidden hg.head hhead (by simp) (by simp) _ _
    · have hblanks := hg.blank_of_mem hm
      have hrun := Text.squeezeRun_blank hblanks
      obtain ⟨v', hf', hv, hsqueeze, hlook'⟩ := firstPiece_squeezed hlook hf
      have hempty : (Text.squeezeRun gap).isEmpty = gap.isEmpty :=
        Bool.eq_iff_iff.2 (by simp [Text.squeezeRun_eq_nil])
      rw [← hempty] at hf'
      refine ⟨Text.squeezeRun gap :: gaps', (kind, String.ofList (c :: v')) :: words',
        .cons hm ⟨rfl, fun hk => by rw [hv hk]⟩ hsqueezed, .cons (.of_blanks hrun) hf' hlexes,
        ?_, ?_⟩
      · simp [weave, Text.squeezeFrom_blanks hblanks, hsqueeze, htext]
      · by_cases hnil : gap = []
        · subst hnil
          simpa [weave] using hlook'
        · simp only [weave]
          exact .hidden hg.head (GapText.of_blanks hrun).head hnil
            (mt Text.squeezeRun_eq_nil.1 hnil) _ _

end TypeTags
