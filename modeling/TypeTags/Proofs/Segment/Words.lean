import TypeTags.Proofs.Token.Joined
import TypeTags.Segment.Extent

/-!
# Blocks that a reader of words sees in a text

The reader that looks for the end of a `do` block counts the words `do` and `end` in raw text. Here
its count is found from the pieces of the text: the two readers agree on string literals and
comments, and a word is counted when it is a name, labels and method names included, or the name of
a symbol. Two things in the text around a name hide it from the count: a character of a word right
before it (a number, as in `1end`) and a mark right behind it (as in `end!=`).

Results:
* `Segment.afterEnd_piece`: what reading one piece does to the count.
* `Segment.afterEnd_pieces`: what reading a text that is cut to its end does to the count.
-/

namespace TypeTags

/-- The piece ends in a character of a word. -/
def Piece.endsInWord (p : Piece) : Bool := p.chars.getLast?.any Text.isWordChar

/-- The text goes on with a mark that a word may end in. -/
def startsWithMark : List Char → Bool
  | [] => false
  | c :: _ => c == '?' || c == '!'

/-- How a piece changes the number of open blocks: `glued` tells whether a character of a word
stands before it, `marked` whether a mark stands behind it. -/
def Piece.nesting (glued marked : Bool) (p : Piece) : Int :=
  if marked then 0
  else match p.chars with
    | ':' :: cs => Segment.nesting cs
    | cs => if glued then 0 else Segment.nesting cs

/-- The number of open blocks after the pieces, when `depth` are open before them; none if the last
of them closes on the way. -/
def blockDepth (depth : Int) (glued : Bool) : List Piece → Option Int
  | [] => some depth
  | p :: ps =>
    let depth := depth + p.nesting glued (startsWithMark (ps.flatMap Piece.chars))
    if depth = 0 then none else blockDepth depth p.endsInWord ps

namespace Text

theorem isWordChar_of_isNameStart {c : Char} (h : isNameStart c = true) : isWordChar c = true := by
  simp only [isNameStart, isWordChar, isAlphanumeric, Bool.or_eq_true] at h ⊢
  rcases h with h | h
  · exact .inl (.inl h)
  · exact .inr h

end Text

namespace Segment

theorem isNameStart_of_isWordStart {c : Char} (h : isWordStart c = true) :
    Text.isNameStart c = true := by
  simp only [isWordStart, Text.isNameStart, Text.isLetter, Bool.or_eq_true] at h ⊢
  rcases h with h | h
  · have hlt : c.toNat < 128 := by
      change (decide (c.val ≥ 'A'.val ∧ c.val ≤ 'Z'.val) ||
        (decide (c.val ≥ 'a'.val) && decide (c.val ≤ 'z'.val))) = true at h
      simp only [Bool.or_eq_true, Bool.and_eq_true, decide_eq_true_eq, ge_iff_le,
        UInt32.le_iff_toNat_le] at h
      change (65 ≤ c.toNat ∧ c.toNat ≤ 90) ∨ (97 ≤ c.toNat ∧ c.toNat ≤ 122) at h
      omega
    exact .inl (by rw [if_pos hlt]; exact h)
  · exact .inr h

theorem isWordStart_eq_false {c : Char} (h : Text.isWordChar c = false) :
    isWordStart c = false := by
  cases hw : isWordStart c with
  | false => rfl
  | true =>
    rw [Text.isWordChar_of_isNameStart (isNameStart_of_isWordStart hw)] at h
    cases h

/-! ## Words that are not counted -/

theorem nesting_of_head {word : List Char} (hd : word.head? ≠ some 'd')
    (he : word.head? ≠ some 'e') : nesting word = 0 := by
  unfold nesting
  rw [if_neg (by rintro rfl; simp at hd), if_neg (by rintro rfl; simp at he)]

/-- With an open block, closing the last one brings the count to zero. -/
theorem closesBlock_iff {depth : Int} (h : 1 ≤ depth) (word : List Char) :
    closesBlock depth word = true ↔ depth + nesting word = 0 := by
  unfold closesBlock nesting
  split
  · subst_vars
    simp
    omega
  · split
    · subst_vars
      simp
      omega
    · simp_all
      omega

/-- A character that neither opens a string literal nor a comment. -/
def IsPlain (c : Char) : Prop := isQuote c = false ∧ c ≠ '#'

theorem between_of_isPlain {c : Char} (h : IsPlain c) :
    WordMode.between c = .code (Text.isWordChar c) := by
  simp [WordMode.between, h.1, h.2]

theorem isPlain_of_isWordChar {c : Char} (h : Text.isWordChar c = true) : IsPlain c := by
  refine ⟨?_, ?_⟩
  · cases hq : isQuote c with
    | false => rfl
    | true =>
      simp only [isQuote, Bool.or_eq_true, beq_iff_eq] at hq
      rcases hq with rfl | rfl
      · exact absurd h (by decide)
      · exact absurd h (by decide)
  · rintro rfl
    exact absurd h (by decide)

/-- A word that does not start as `do` and `end` do is as good as no word. -/
theorem afterEnd_word_inert {a : Char} (hd : a ≠ 'd') (he : a ≠ 'e') (depth : Int)
    (word cs : List Char) :
    afterEnd depth (.word (a :: word)) cs = afterEnd depth (.code true) cs := by
  have hnest : nesting (a :: word) = 0 := nesting_of_head (by simpa using hd) (by simpa using he)
  have hclose : closesBlock depth (a :: word) = false := by
    simp [closesBlock, he]
  induction cs generalizing word with
  | nil => simp [afterEnd, hclose]
  | cons c cs ih =>
    have hcode : afterEnd depth (.code true) (c :: cs) = afterEnd depth (.between c) cs := by
      simp [afterEnd]
    rw [hcode]
    cases hc : Text.isWordChar c with
    | true =>
      rw [between_of_isPlain (isPlain_of_isWordChar hc), hc]
      simp only [afterEnd, hc, if_true]
      exact ih (word ++ [c]) (nesting_of_head (by simpa using hd) (by simpa using he))
        (by simp [closesBlock, he])
    | false =>
      simp only [afterEnd, hc, Bool.false_eq_true, if_false, hclose, hnest, Int.add_zero]
      split
      · rename_i hm
        rcases hm with rfl | rfl
        · rfl
        · rfl
      · rfl

/-! ## Runs of characters -/

/-- A character that cannot start `do` or `end` changes nothing but what stands before the next. -/
theorem afterEnd_skip {c : Char} (hp : IsPlain c) {glued : Bool}
    (h : glued = true ∨ (c ≠ 'd' ∧ c ≠ 'e')) (depth : Int) (cs : List Char) :
    afterEnd depth (.code glued) (c :: cs) = afterEnd depth (.code (Text.isWordChar c)) cs := by
  simp only [afterEnd, between_of_isPlain hp]
  split
  · rename_i hw
    obtain ⟨hstart, hglued⟩ := hw
    have hword := Text.isWordChar_of_isNameStart (isNameStart_of_isWordStart hstart)
    rcases h with rfl | ⟨hd, he⟩
    · cases hglued
    · rw [afterEnd_word_inert hd he, hword]
  · rfl

theorem afterEnd_skipAll {cs : List Char} (hne : cs ≠ [])
    (h : ∀ c ∈ cs, IsPlain c ∧ c ≠ 'd' ∧ c ≠ 'e') (glued : Bool) (depth : Int) (rest : List Char) :
    afterEnd depth (.code glued) (cs ++ rest) =
      afterEnd depth (.code (cs.getLast?.any Text.isWordChar)) rest := by
  induction cs generalizing glued with
  | nil => exact absurd rfl hne
  | cons c cs ih =>
    obtain ⟨hp, hstart⟩ := h c List.mem_cons_self
    rw [List.cons_append, afterEnd_skip hp (.inr hstart)]
    cases cs with
    | nil => rfl
    | cons d cs =>
      rw [ih (by simp) fun c hc => h c (List.mem_cons_of_mem _ hc), List.getLast?_cons_cons]

/-- A run of word characters that goes on with a word is skipped. -/
theorem afterEnd_skipGlued {cs : List Char} (h : ∀ c ∈ cs, Text.isWordChar c = true) (depth : Int)
    (rest : List Char) :
    afterEnd depth (.code true) (cs ++ rest) = afterEnd depth (.code true) rest := by
  induction cs with
  | nil => rfl
  | cons c cs ih =>
    have hc := h c List.mem_cons_self
    rw [List.cons_append, afterEnd_skip (isPlain_of_isWordChar hc) (.inl rfl), hc]
    exact ih fun c hc => h c (List.mem_cons_of_mem _ hc)

theorem afterEnd_readWord {cs : List Char} (h : ∀ c ∈ cs, Text.isWordChar c = true) (depth : Int)
    (word rest : List Char) :
    afterEnd depth (.word word) (cs ++ rest) = afterEnd depth (.word (word ++ cs)) rest := by
  induction cs generalizing word with
  | nil => rw [List.nil_append, List.append_nil]
  | cons c cs ih =>
    rw [List.cons_append]
    simp only [afterEnd, h c List.mem_cons_self, if_true]
    rw [ih fun c hc => h c (List.mem_cons_of_mem _ hc), List.append_assoc, List.singleton_append]

/-- What follows a word settles whether it is counted. -/
theorem afterEnd_settle {depth : Int} (hd : 1 ≤ depth) (word : List Char) {c : Char}
    (hc : Text.isWordChar c = false) (cs : List Char) (glued : Bool) :
    afterEnd depth (.word word) (c :: cs) =
      if startsWithMark (c :: cs) then afterEnd depth (.code glued) (c :: cs)
      else if depth + nesting word = 0 then some (c :: cs)
      else afterEnd (depth + nesting word) (.code glued) (c :: cs) := by
  have hstart := isWordStart_eq_false hc
  simp only [afterEnd, hc, hstart, startsWithMark, Bool.or_eq_true, beq_iff_eq, Bool.false_eq_true,
    false_and, if_false, closesBlock_iff hd]
  split
  · rename_i hm
    rcases hm with rfl | rfl
    · rfl
    · rfl
  · rfl

/-! ## Pieces -/

/-- Reading goes on behind a stretch of text that changes the number of open blocks, unless that
closes the last of them. -/
def afterCount (depth change : Int) (glued : Bool) (rest : List Char) : Option (List Char) :=
  if depth + change = 0 then some rest else afterEnd (depth + change) (.code glued) rest

theorem afterCount_zero {depth : Int} (hd : 1 ≤ depth) (glued : Bool) (rest : List Char) :
    afterCount depth 0 glued rest = afterEnd depth (.code glued) rest := by
  unfold afterCount
  rw [Int.add_zero, if_neg (by omega)]

theorem afterEnd_name {depth : Int} (hd : 1 ≤ depth) {c : Char} {cs rest : List Char}
    (hc : Text.isNameStart c = true) (hcs : ∀ d ∈ cs, Text.isWordChar d = true) (hne : rest ≠ [])
    (hrest : ∀ d ∈ rest.head?, Text.isWordChar d = false) (glued : Bool) :
    afterEnd depth (.code glued) (c :: cs ++ rest) =
      afterCount depth (if startsWithMark rest || glued then 0 else nesting (c :: cs)) true
        rest := by
  have hword := Text.isWordChar_of_isNameStart hc
  have hplain := isPlain_of_isWordChar hword
  cases glued with
  | true =>
    rw [List.cons_append, afterEnd_skip hplain (.inl rfl), hword, afterEnd_skipGlued hcs,
      Bool.or_true, if_pos rfl, afterCount_zero hd]
  | false =>
    cases hs : isWordStart c with
    | true =>
      cases rest with
      | nil => exact absurd rfl hne
      | cons d rest =>
        have hread : afterEnd depth (.code false) (c :: cs ++ d :: rest) =
            afterEnd depth (.word (c :: cs)) (d :: rest) := by
          rw [List.cons_append, afterEnd, if_pos ⟨hs, rfl⟩, afterEnd_readWord hcs,
            List.singleton_append]
        rw [hread, afterEnd_settle hd _ (hrest d rfl) rest true, Bool.or_false]
        split
        · rw [afterCount_zero hd]
        · rfl
    | false =>
      -- a name whose first letter no word starts with is never `do` or `end`
      have hstart : c ≠ 'd' ∧ c ≠ 'e' := by
        constructor <;> (rintro rfl; exact absurd hs (by decide))
      have hnest : nesting (c :: cs) = 0 :=
        nesting_of_head (by simpa using hstart.1) (by simpa using hstart.2)
      rw [List.cons_append, afterEnd_skip hplain (.inr hstart), hword, afterEnd_skipGlued hcs,
        hnest, ite_self, afterCount_zero hd]

theorem afterEnd_literal {q : Char} (hq : q ≠ '\\') {body : List Char} (h : LiteralBody q body)
    (depth : Int) (rest : List Char) :
    afterEnd depth (.string q) (body ++ q :: rest) = afterEnd depth (.code false) rest := by
  induction h with
  | nil => simp [afterEnd]
  | plain hc hb _ ih => simpa [afterEnd, hc, hb] using ih
  | escaped c _ ih => simpa [afterEnd, hq.symm] using ih

theorem afterEnd_comment {cs : List Char} (h : ∀ c ∈ cs, c ≠ '\n') (depth : Int)
    (rest : List Char) :
    afterEnd depth .comment (cs ++ rest) = afterEnd depth .comment rest := by
  induction cs with
  | nil => rfl
  | cons c cs ih =>
    rw [List.cons_append, afterEnd, if_neg (h c List.mem_cons_self)]
    exact ih fun d hd => h d (List.mem_cons_of_mem _ hd)

/-- The characters of a piece that opens and closes no block. -/
def IsInert (c : Char) : Prop := IsPlain c ∧ c ≠ 'd' ∧ c ≠ 'e'

theorem nesting_inert {word : List Char} (h : ∀ c ∈ word, IsInert c) : nesting word = 0 := by
  cases word with
  | nil => rfl
  | cons c cs =>
    obtain ⟨-, hd, he⟩ := h c List.mem_cons_self
    exact nesting_of_head (by simpa using hd) (by simpa using he)

/-- A piece of such characters only. -/
theorem afterEnd_inert {depth : Int} (hd : 1 ≤ depth) {p : Piece} (hne : p.chars ≠ [])
    (h : ∀ c ∈ p.chars, IsInert c) (glued marked : Bool) (rest : List Char) :
    afterEnd depth (.code glued) (p.chars ++ rest) =
      afterCount depth (p.nesting glued marked) p.endsInWord rest := by
  have hnest : p.nesting glued marked = 0 := by
    unfold Piece.nesting
    split
    · rfl
    · split
      · rename_i cs he
        exact nesting_inert fun c hc => h c (by rw [he]; exact List.mem_cons_of_mem _ hc)
      · rw [nesting_inert h, ite_self]
  rw [hnest, afterCount_zero hd]
  exact afterEnd_skipAll hne h glued depth rest

/-- A character is inert if its class excludes the few that are not. -/
theorem isInert_of_class {q : Char → Bool} {c : Char} (h : q c = true)
    (hex : ['\'', '"', '#', 'd', 'e'].any q = false) : IsInert c := by
  have hne : ∀ d ∈ ['\'', '"', '#', 'd', 'e'], c ≠ d := by
    rintro d hd rfl
    exact List.any_eq_false.1 hex c hd h
  refine ⟨⟨?_, hne '#' (by decide)⟩, hne 'd' (by decide), hne 'e' (by decide)⟩
  simp [isQuote, hne '\'' (by decide), hne '"' (by decide)]

theorem all_takeWhile {q : Char → Bool} {c : Char} (hc : q c = true) (cs : List Char) :
    ∀ d ∈ c :: cs.takeWhile q, q d = true := by
  intro d hd
  rcases List.mem_cons.1 hd with rfl | hd
  · exact hc
  · exact List.all_eq_true.1 List.all_takeWhile d hd

/-- A run of characters that is cut off in front of a line feed does not go on. -/
theorem head_dropWhile_append {q : Char → Bool} (hq : q '\n' = false) (cs more : List Char) :
    ∀ d ∈ (cs.dropWhile q ++ '\n' :: more).head?, q d = false := by
  intro d hd
  have hnot := List.head?_dropWhile_not q cs
  cases hw : cs.dropWhile q with
  | nil =>
    rw [hw] at hd
    cases hd
    exact hq
  | cons e es =>
    rw [hw] at hd hnot
    cases hd
    exact hnot

theorem nesting_of_ne_colon {p : Piece} {c : Char} {cs : List Char} (hp : p.chars = c :: cs)
    (hk : c ≠ ':') (glued marked : Bool) :
    p.nesting glued marked = if marked || glued then 0 else nesting (c :: cs) := by
  unfold Piece.nesting
  rw [hp]
  cases marked with
  | true => rfl
  | false =>
    simp only [Bool.false_eq_true, if_false, Bool.false_or]
    split
    · rename_i he
      exact absurd (List.cons.inj he).1 hk
    · rfl

theorem nameMark_cases (cs : List Char) :
    (Piece.nameMark cs).1 = [] ∨ (Piece.nameMark cs).1 = ['?'] ∨ (Piece.nameMark cs).1 = ['!'] := by
  fun_cases Piece.nameMark cs <;> simp

theorem endsInWord_of_all {p : Piece} (hne : p.chars ≠ [])
    (h : ∀ c ∈ p.chars, Text.isWordChar c = true) : p.endsInWord = true := by
  unfold Piece.endsInWord
  cases hl : p.chars.getLast? with
  | none => exact absurd (List.getLast?_eq_none_iff.1 hl) hne
  | some c => exact h c (List.mem_of_getLast? hl)

theorem afterEnd_commentPiece (depth : Int) (cs more : List Char) (glued next : Bool) :
    afterEnd depth (.code glued)
        ('#' :: cs.takeWhile (· != '\n') ++ (cs.dropWhile (· != '\n') ++ '\n' :: more)) =
      afterEnd depth (.code next) (cs.dropWhile (· != '\n') ++ '\n' :: more) := by
  have hopen : ∀ rest,
      afterEnd depth (.code glued) ('#' :: rest) = afterEnd depth .comment rest := by
    intro rest
    simp [afterEnd, WordMode.between, isQuote, show isWordStart '#' = false by decide]
  have hall : ∀ c ∈ cs.takeWhile (· != '\n'), c ≠ '\n' := by
    intro c hc
    simpa using List.all_eq_true.1 List.all_takeWhile c hc
  rw [List.cons_append, hopen, afterEnd_comment hall]
  cases hrest : cs.dropWhile (· != '\n') ++ '\n' :: more with
  | nil => simp at hrest
  | cons c rest =>
    -- the comment ends where the next line feed stands
    have hc : c = '\n' := by
      have := head_dropWhile_append (q := (· != '\n')) rfl cs more c (by rw [hrest]; rfl)
      simpa using this
    subst hc
    rfl

theorem afterEnd_stringPiece {q : Char} (hq : q = '\'' ∨ q = '"') {cs tail rest : List Char}
    (ht : Piece.stringTail q cs = some (tail, rest)) (depth : Int) (glued : Bool)
    (more : List Char) :
    afterEnd depth (.code glued) (q :: tail ++ more) = afterEnd depth (.code false) more := by
  have hopen : ∀ rest,
      afterEnd depth (.code glued) (q :: rest) = afterEnd depth (.string q) rest := by
    intro rest
    rcases hq with rfl | rfl
    · simp [afterEnd, WordMode.between, isQuote, show isWordStart '\'' = false by decide]
    · simp [afterEnd, WordMode.between, isQuote, show isWordStart '"' = false by decide]
  have hne := quote_ne_backslash hq
  obtain ⟨body, hbody, rfl, -⟩ := (stringTail_eq_some_iff hne).1 ht
  rw [List.cons_append, hopen, List.append_assoc, List.singleton_append]
  exact afterEnd_literal hne hbody depth more

/-- A word with a mark is never counted. -/
theorem nesting_marked {m : Char} (hm : m = '?' ∨ m = '!') (cs : List Char) :
    nesting (cs ++ [m]) = 0 := by
  have hlast : ∀ word : List Char, cs ++ [m] = word → word.getLast? = some m := by
    rintro word rfl
    simp
  unfold nesting
  split
  · rename_i h
    have := hlast _ h
    rcases hm with rfl | rfl <;> simp at this
  split
  · rename_i h
    have := hlast _ h
    rcases hm with rfl | rfl <;> simp at this
  · rfl

/-- A name with its mark, if it has one. -/
theorem afterEnd_namePiece {depth : Int} (hd : 1 ≤ depth) {c : Char}
    (hn : Text.isNameStart c = true) (cs more : List Char) (glued : Bool) :
    afterEnd depth (.code glued)
        ((Piece.name c cs).1.chars ++ ((Piece.name c cs).2 ++ '\n' :: more)) =
      afterCount depth
        ((Piece.name c cs).1.nesting glued (startsWithMark ((Piece.name c cs).2 ++ '\n' :: more)))
        (Piece.name c cs).1.endsInWord ((Piece.name c cs).2 ++ '\n' :: more) := by
  have hk : c ≠ ':' := by rintro rfl; exact absurd hn (by decide)
  have hword := all_takeWhile (Text.isWordChar_of_isNameStart hn) cs
  have htail : ∀ d ∈ cs.takeWhile Text.isWordChar, Text.isWordChar d = true :=
    fun d hd => hword d (List.mem_cons_of_mem _ hd)
  have hsplit := Piece.nameMark_append (cs.dropWhile Text.isWordChar)
  have hchars : (Piece.name c cs).1.chars =
      c :: (cs.takeWhile Text.isWordChar ++
        (Piece.nameMark (cs.dropWhile Text.isWordChar)).1) := rfl
  have hrest : (Piece.name c cs).2 = (Piece.nameMark (cs.dropWhile Text.isWordChar)).2 := rfl
  rw [nesting_of_ne_colon hchars hk, hrest]
  rcases nameMark_cases (cs.dropWhile Text.isWordChar) with hm | hm
  · -- no mark: what follows the name settles whether it is counted
    rw [hm, List.append_nil] at hchars
    rw [hm, List.nil_append] at hsplit
    rw [endsInWord_of_all (by simp [hchars]) (hchars ▸ hword), hchars, hm, List.append_nil, hsplit]
    exact afterEnd_name hd hn htail (by simp) (head_dropWhile_append (by decide) cs more) glued
  · obtain ⟨m, hm, hmark⟩ : ∃ m, (Piece.nameMark (cs.dropWhile Text.isWordChar)).1 = [m] ∧
        (m = '?' ∨ m = '!') := by
      rcases hm with hm | hm
      · exact ⟨'?', hm, .inl rfl⟩
      · exact ⟨'!', hm, .inr rfl⟩
    have hclass : Text.isWordChar m = false ∧ IsPlain m := by
      rcases hmark with rfl | rfl
      · exact ⟨by decide, by decide, by decide⟩
      · exact ⟨by decide, by decide, by decide⟩
    have hends : (Piece.name c cs).1.endsInWord = Text.isWordChar m := by
      rw [Piece.endsInWord, hchars, hm, ← List.cons_append, List.getLast?_concat]
      rfl
    have hstart : ∀ rest, startsWithMark (m :: rest) = true := by
      intro rest
      rcases hmark with rfl | rfl <;> rfl
    rw [hends, hchars, hm, ← List.cons_append, nesting_marked hmark, ite_self, afterCount_zero hd,
      List.append_assoc, List.singleton_append, afterEnd_name hd hn htail (by simp) ?_ glued,
      hstart, Bool.true_or, if_pos rfl, afterCount_zero hd, afterEnd_skip hclass.2 (.inl rfl)]
    rintro d ⟨⟩
    exact hclass.1

theorem isInert_colon : IsInert ':' := by
  refine ⟨⟨?_, ?_⟩, ?_, ?_⟩ <;> decide

theorem afterEnd_colonPiece {depth : Int} (hd : 1 ≤ depth) (before : Bool) (cs more : List Char)
    (glued : Bool) :
    afterEnd depth (.code glued)
        ((Piece.colonLexeme before cs).1.chars ++
          ((Piece.colonLexeme before cs).2 ++ '\n' :: more)) =
      afterCount depth
        ((Piece.colonLexeme before cs).1.nesting glued
          (startsWithMark ((Piece.colonLexeme before cs).2 ++ '\n' :: more)))
        (Piece.colonLexeme before cs).1.endsInWord
        ((Piece.colonLexeme before cs).2 ++ '\n' :: more) := by
  cases cs with
  | nil =>
    exact afterEnd_inert hd (by simp [Piece.colonLexeme, Piece.chars])
      (by simpa [Piece.colonLexeme, Piece.chars] using isInert_colon) _ _ _
  | cons c cs =>
    simp only [Piece.colonLexeme]
    split
    · exact afterEnd_inert hd (by simp [Piece.chars])
        (by simpa [Piece.chars] using isInert_colon) _ _ _
    split
    · rename_i hname
      have hn : Text.isNameStart c = true := by
        rw [Bool.and_eq_true] at hname
        exact hname.2
      have hword := all_takeWhile (Text.isWordChar_of_isNameStart hn) cs
      have hends : (Piece.lexeme .symbol (':' :: c :: cs.takeWhile Text.isWordChar)).endsInWord =
          true := by
        have := endsInWord_of_all (p := .lexeme .ident (c :: cs.takeWhile Text.isWordChar))
          (by simp [Piece.chars]) hword
        rwa [Piece.endsInWord, Piece.chars, List.getLast?_cons_cons]
      simp only [Piece.nesting, Piece.chars, hends]
      rw [List.cons_append, afterEnd_skip isInert_colon.1 (.inr isInert_colon.2),
        show Text.isWordChar ':' = false by decide,
        afterEnd_name hd hn (fun d hd => hword d (List.mem_cons_of_mem _ hd)) (by simp)
          (head_dropWhile_append (by decide) cs more), Bool.or_false]
    · exact afterEnd_inert hd (by simp [Piece.chars])
        (by simpa [Piece.chars] using isInert_colon) _ _ _

theorem isInert_punctuation {c : Char} (h : IsInert c) (cs : List Char) :
    (Piece.punctuation c cs).1.chars ≠ [] ∧ ∀ d ∈ (Piece.punctuation c cs).1.chars, IsInert d := by
  have harrow : ∀ d ∈ ['=', '>'], IsInert d := by
    intro d hd
    exact isInert_of_class (q := fun d => d ∈ ['=', '>']) (by simpa using hd) (by decide)
  unfold Piece.punctuation
  split
  · split
    · exact ⟨by simp [Piece.chars], harrow⟩
    · exact ⟨by simp [Piece.chars], by simpa [Piece.chars] using h⟩
  · exact ⟨by simp [Piece.chars], by simpa [Piece.chars] using h⟩

/-- **One piece.** Reading the piece in front of a text changes the count by what the piece says.
The text goes on, at the latest with a line feed. -/
theorem afterEnd_piece {depth : Int} (hd : 1 ≤ depth) {before : Bool} {c : Char}
    {cs rest : List Char} {p : Piece} (h : Piece.First before c cs p rest) (glued : Bool)
    (more : List Char) :
    afterEnd depth (.code glued) (p.chars ++ (rest ++ '\n' :: more)) =
      afterCount depth (p.nesting glued (startsWithMark (rest ++ '\n' :: more))) p.endsInWord
        (rest ++ '\n' :: more) := by
  cases h with
  | blank hb =>
    refine afterEnd_inert hd (by simp [Piece.chars]) ?_ _ _ _
    exact fun d hd => isInert_of_class (all_takeWhile hb cs d hd) (by decide)
  | comment hc =>
    subst hc
    rw [nesting_of_ne_colon rfl (by decide), nesting_of_head (by simp) (by simp), ite_self,
      afterCount_zero hd]
    exact afterEnd_commentPiece depth cs more glued _
  | name hb hc hn => exact afterEnd_namePiece hd hn cs more glued
  | number hn hdig =>
    refine afterEnd_inert hd (by simp [Piece.chars]) ?_ _ _ _
    have hnum : Piece.isNumberChar c = true := by simp [Piece.isNumberChar, hdig]
    exact fun d hd => isInert_of_class (all_takeWhile hnum cs d hd) (by decide)
  | @string tail rest hq ht =>
    have hclass : c ≠ ':' ∧ c ≠ 'd' ∧ c ≠ 'e' ∧ Text.isWordChar c = false := by
      rcases hq with rfl | rfl
      · exact ⟨by decide, by decide, by decide, by decide⟩
      · exact ⟨by decide, by decide, by decide, by decide⟩
    have hends : (Piece.lexeme .string (c :: tail)).endsInWord = false := by
      obtain ⟨body, -, rfl, -⟩ := (stringTail_eq_some_iff (quote_ne_backslash hq)).1 ht
      rw [Piece.endsInWord, Piece.chars, ← List.cons_append, List.getLast?_concat, Option.any_some]
      exact hclass.2.2.2
    rw [nesting_of_ne_colon rfl hclass.1, nesting_of_head (by simpa using hclass.2.1)
      (by simpa using hclass.2.2.1), ite_self, afterCount_zero hd, hends]
    exact afterEnd_stringPiece hq ht depth glued _
  | colon hk =>
    subst hk
    exact afterEnd_colonPiece hd before cs more glued
  | punctuation hb hc hn hdig hq hk =>
    have hinert : IsInert c := by
      refine ⟨⟨by simpa [isQuote] using hq, hc⟩, ?_, ?_⟩
      · rintro rfl; exact absurd hn (by decide)
      · rintro rfl; exact absurd hn (by decide)
    obtain ⟨hne, hall⟩ := isInert_punctuation hinert cs
    exact afterEnd_inert hd hne hall _ _ _

/-! ## Whole texts -/

theorem neg_one_le_nesting (glued marked : Bool) (p : Piece) : -1 ≤ p.nesting glued marked := by
  have hword : ∀ word, -1 ≤ nesting word := by
    intro word
    unfold nesting
    split
    · omega
    · split <;> omega
  unfold Piece.nesting
  split
  · omega
  · split
    · exact hword _
    · split
      · omega
      · exact hword _

theorem startsWithMark_append_newline (cs more : List Char) :
    startsWithMark (cs ++ '\n' :: more) = startsWithMark cs := by
  cases cs <;> rfl

/-- **Whole texts.** A text that is cut to its end brings the count to where its pieces do, or the
last open block closes inside the text. -/
theorem afterEnd_pieces {before : Bool} {cs : List Char} (h : (cut before cs).stuck = [])
    {depth : Int} (hd : 1 ≤ depth) (glued : Bool) (more : List Char) :
    match blockDepth depth glued (cut before cs).pieces with
    | some after => 1 ≤ after ∧
        afterEnd depth (.code glued) (cs ++ '\n' :: more) = afterEnd after (.code false) more
    | none => ∃ rest,
        afterEnd depth (.code glued) (cs ++ '\n' :: more) = some (rest ++ '\n' :: more) := by
  fun_induction cut before cs generalizing depth glued with
  | case1 =>
    have hplain : IsPlain '\n' := ⟨by decide, by decide⟩
    exact ⟨hd, afterEnd_skip hplain (.inr (by decide)) depth more⟩
  | case2 => cases h
  | case3 before c cs p rest hp after ih =>
    have hrest : after.pieces.flatMap Piece.chars = rest := by
      have hchars := cut_chars p.isName rest
      rwa [show (cut p.isName rest).stuck = [] from h, List.append_nil] at hchars
    have hread := afterEnd_piece hd (Piece.first_of_firstPiece hp) glued more
    rw [startsWithMark_append_newline] at hread
    rw [← Piece.firstPiece_append hp, List.append_assoc, hread]
    simp only [blockDepth, hrest, afterCount]
    have hge := neg_one_le_nesting glued (startsWithMark rest) p
    by_cases hz : depth + p.nesting glued (startsWithMark rest) = 0
    · simp only [if_pos hz]
      exact ⟨rest, rfl⟩
    · simp only [if_neg hz]
      exact ih h (by omega) p.endsInWord

end Segment

end TypeTags
