import TypeTags.Proofs.Token.Joined

/-!
# What a lexeme sees of the text behind it

Where a lexeme ends depends on the first character behind it, and for a name also on the second: no
mark is taken from `!=`. White space, the start of a comment and the end of the text all count the
same: none of them can go on with a lexeme. So a lexeme stays what it is when the text behind it is
replaced by one that it cannot tell apart.

Results:
* `isWordChar_of_isGapStart`, `isNumberChar_of_isGapStart`: a gap cannot go on with a word or a
  number.
* `firstPiece_showsNoMore`, `firstPiece_alike`: the lexeme in front of a text that shows no more than
  another, or looks the same.
-/

namespace TypeTags

/-- A character that starts a gap: white space, or the start of a comment. -/
def isGapStart (c : Char) : Bool := Text.isBlank c || c == '#'

/-- All white space, character by character. -/
def blanks : List Char :=
  Text.blankRanges.flatMap fun r => (List.range' r.1 (r.2 + 1 - r.1)).map Char.ofNat

theorem mem_blanks {c : Char} (h : Text.isBlank c = true) : c ∈ blanks := by
  obtain ⟨⟨first, last⟩, hr, hc⟩ := List.any_eq_true.1 h
  simp only [Bool.and_eq_true, decide_eq_true_eq] at hc
  refine List.mem_flatMap.2 ⟨(first, last), hr, List.mem_map.2 ⟨c.toNat, ?_, Char.ofNat_toNat c⟩⟩
  rw [List.mem_range'_1]
  omega

/-- A class that holds neither white space nor the number sign. -/
theorem eq_false_of_isGapStart {q : Char → Bool} (hq : ('#' :: blanks).all (fun c => !q c) = true)
    {c : Char} (h : isGapStart c = true) : q c = false := by
  have hmem : c ∈ '#' :: blanks := by
    simp only [isGapStart, Bool.or_eq_true, beq_iff_eq] at h
    rcases h with h | h
    · exact List.mem_cons_of_mem _ (mem_blanks h)
    · exact h ▸ List.mem_cons_self
  simpa using List.all_eq_true.1 hq c hmem

/-- A table whose ranges are apart from those of the gaps. -/
theorem inRanges_of_isGapStart {table : List (Nat × Nat)}
    (ht : table.all (fun r => ((35, 35) :: Text.blankRanges).all fun gap =>
      Nat.blt r.2 gap.1 || Nat.blt gap.2 r.1) = true)
    {c : Char} (h : isGapStart c = true) : Text.inRanges table c = false := by
  obtain ⟨gap, hgap, hlow, hhigh⟩ : ∃ gap ∈ (35, 35) :: Text.blankRanges,
      gap.1 ≤ c.toNat ∧ c.toNat ≤ gap.2 := by
    simp only [isGapStart, Bool.or_eq_true, beq_iff_eq] at h
    rcases h with h | rfl
    · obtain ⟨gap, hgap, hc⟩ := List.any_eq_true.1 h
      simp only [Bool.and_eq_true, decide_eq_true_eq] at hc
      exact ⟨gap, List.mem_cons_of_mem _ hgap, hc⟩
    · exact ⟨(35, 35), List.mem_cons_self, by decide, by decide⟩
  rw [Text.inRanges, List.any_eq_false]
  rintro r hr hc
  have hapart := List.all_eq_true.1 (List.all_eq_true.1 ht r hr) gap hgap
  simp only [Bool.and_eq_true, decide_eq_true_eq] at hc
  simp only [Bool.or_eq_true, Nat.blt_eq] at hapart
  omega

theorem isWordChar_of_isGapStart {c : Char} (h : isGapStart c = true) :
    Text.isWordChar c = false := by
  have hletter : Text.isLetter c = false := by
    unfold Text.isLetter
    split
    · exact eq_false_of_isGapStart (by decide +kernel) h
    · exact inRanges_of_isGapStart (by decide +kernel) h
  have hnumeral : Text.isNumeral c = false := by
    unfold Text.isNumeral
    split
    · exact eq_false_of_isGapStart (by decide +kernel) h
    · exact inRanges_of_isGapStart (by decide +kernel) h
  have hother : (c == '_') = false :=
    eq_false_of_isGapStart (q := fun c => c == '_') (by decide +kernel) h
  rw [Text.isWordChar, Text.isAlphanumeric, hletter, hnumeral, hother]
  rfl

theorem isNameStart_of_isGapStart {c : Char} (h : isGapStart c = true) :
    Text.isNameStart c = false := by
  have hword := isWordChar_of_isGapStart h
  simp only [Text.isWordChar, Text.isAlphanumeric, Bool.or_eq_false_iff] at hword
  rw [Text.isNameStart, hword.1.1, hword.2, Bool.or_false]

theorem isNumberChar_of_isGapStart {c : Char} (h : isGapStart c = true) :
    Piece.isNumberChar c = false := by
  have hdigit : Text.isDigit c = false := by
    unfold Text.isDigit
    split
    · exact eq_false_of_isGapStart (by decide +kernel) h
    · exact inRanges_of_isGapStart (by decide +kernel) h
  have hother : (c == '.' || c == '_') = false :=
    eq_false_of_isGapStart (q := fun c => c == '.' || c == '_') (by decide +kernel) h
  rw [Piece.isNumberChar, hdigit, Bool.false_or, hother]

/-! ## Texts that look the same -/

/-- The first character of a text, unless a gap starts there. -/
def solidHead (cs : List Char) : Option Char := cs.head?.filter (!isGapStart ·)

theorem solidHead_eq_some {cs : List Char} {c : Char} :
    solidHead cs = some c ↔ cs.head? = some c ∧ isGapStart c = false := by
  simp [solidHead, Option.filter_eq_some_iff]

theorem solidHead_gap {gap : List Char} (hs : ∀ c ∈ gap.head?, isGapStart c = true) (hne : gap ≠ [])
    (cs : List Char) : solidHead (gap ++ cs) = none := by
  obtain ⟨c, ds, rfl⟩ := List.exists_cons_of_ne_nil hne
  simp [solidHead, hs c rfl]

/-- No lexeme can tell the two texts apart from what stands before them. -/
structure LookAlike (rest rest' : List Char) : Prop where
  head : solidHead rest = solidHead rest'
  second : solidHead rest ≠ none → solidHead rest.tail = solidHead rest'.tail

namespace LookAlike

theorem refl (cs : List Char) : LookAlike cs cs := ⟨rfl, fun _ => rfl⟩

/-- No lexeme goes on with either of the two. -/
theorem of_none {cs cs' : List Char} (h : solidHead cs = none) (h' : solidHead cs' = none) :
    LookAlike cs cs' :=
  ⟨h.trans h'.symm, fun hne => absurd h hne⟩

/-- A gap that is there hides what follows it. -/
theorem hidden {gap gap' : List Char} (hs : ∀ c ∈ gap.head?, isGapStart c = true)
    (hs' : ∀ c ∈ gap'.head?, isGapStart c = true) (hne : gap ≠ []) (hne' : gap' ≠ [])
    (cs cs' : List Char) : LookAlike (gap ++ cs) (gap' ++ cs') :=
  of_none (solidHead_gap hs hne cs) (solidHead_gap hs' hne' cs')

variable {rest rest' : List Char} (h : LookAlike rest rest')

include h

/-- The same characters in front. -/
theorem append (v : List Char) : LookAlike (v ++ rest) (v ++ rest') := by
  match v with
  | [] => exact h
  | [c] => exact ⟨rfl, fun _ => h.head⟩
  | c :: d :: v => exact ⟨rfl, fun _ => rfl⟩

/-- A first character that starts no gap is the same. -/
theorem head?_iff {c : Char} (hc : isGapStart c = false) :
    rest.head? = some c ↔ rest'.head? = some c := by
  have hsolid := h.head
  constructor
  · intro hr
    exact (solidHead_eq_some.1 (hsolid.symm.trans (solidHead_eq_some.2 ⟨hr, hc⟩))).1
  · intro hr
    exact (solidHead_eq_some.1 (hsolid.trans (solidHead_eq_some.2 ⟨hr, hc⟩))).1

end LookAlike

/-- The characters of a class in front, and another text that cannot go on with them. -/
theorem span_congr {q : Char → Bool} {v rest rest' : List Char}
    (hstops : (∀ c ∈ rest.head?, q c = false) → ∀ c ∈ rest'.head?, q c = false)
    (ht : (v ++ rest).takeWhile q = v) (hd : (v ++ rest).dropWhile q = rest) :
    (v ++ rest').takeWhile q = v ∧ (v ++ rest').dropWhile q = rest' := by
  have hstop : ∀ c ∈ rest.head?, q c = false := by
    intro c hc
    have hnot := List.head?_dropWhile_not q (v ++ rest)
    rw [hd, hc] at hnot
    exact hnot
  have hstop' := hstops hstop
  have htake : v.takeWhile q = v := (takeWhile_append_stop hstop v).symm.trans ht
  have hdrop : v.dropWhile q = [] := by
    have hboth : v.takeWhile q ++ v.dropWhile q = v := List.takeWhile_append_dropWhile
    rw [htake] at hboth
    simpa using hboth
  rw [takeWhile_append_stop hstop', dropWhile_append_stop hstop', htake, hdrop]
  exact ⟨rfl, rfl⟩

/-- The first character of `rest'`, unless a gap starts there, is that of `rest`. -/
def ShowsFirst (rest rest' : List Char) : Prop :=
  ∀ c, isGapStart c = false → rest'.head? = some c → rest.head? = some c

namespace ShowsFirst

variable {rest rest' : List Char} (h : ShowsFirst rest rest')

include h

theorem append (v : List Char) : ShowsFirst (v ++ rest) (v ++ rest') := by
  cases v with
  | nil => exact h
  | cons c v => exact fun _ _ hd => hd

/-- What cannot go on with a lexeme in the one text cannot in the other. -/
theorem stops {q : Char → Bool} (hq : ∀ c, isGapStart c = true → q c = false)
    (hr : ∀ c ∈ rest.head?, q c = false) : ∀ c ∈ rest'.head?, q c = false := by
  intro c hc
  cases hgap : isGapStart c with
  | true => exact hq c hgap
  | false => exact hr c (h c hgap hc)

/-- The characters of a class in front. -/
theorem span {q : Char → Bool} (hq : ∀ c, isGapStart c = true → q c = false) {v : List Char}
    (ht : (v ++ rest).takeWhile q = v) (hd : (v ++ rest).dropWhile q = rest) :
    (v ++ rest').takeWhile q = v ∧ (v ++ rest').dropWhile q = rest' :=
  span_congr (h.stops hq) ht hd

end ShowsFirst

/-- Behind a lexeme, `rest'` shows nothing that `rest` does not: neither its first character nor, as
far as a name looks there, its second one. -/
structure ShowsNoMore (rest rest' : List Char) : Prop where
  first : ShowsFirst rest rest'
  second : rest'.head? = some '!' → rest.tail.head? = some '=' → rest'.tail.head? = some '='

theorem LookAlike.showsNoMore {rest rest' : List Char} (h : LookAlike rest rest') :
    ShowsNoMore rest rest' := by
  refine ⟨fun c hc hr => (h.head?_iff hc).2 hr, fun hr he => ?_⟩
  have hbang := (h.head?_iff (show isGapStart '!' = false by decide)).2 hr
  have hsolid := solidHead_eq_some.2 ⟨hbang, show isGapStart '!' = false by decide⟩
  have hsecond := h.second (by simp [hsolid])
  have hequal := solidHead_eq_some.2 ⟨he, show isGapStart '=' = false by decide⟩
  exact (solidHead_eq_some.1 (hsecond.symm.trans hequal)).1

/-! ## The lexeme in front -/

/-- When a mark is the one that a name before it takes. -/
theorem nameMark_eq_iff {mark rest : List Char} :
    Piece.nameMark (mark ++ rest) = (mark, rest) ↔
      mark = ['?'] ∨ (mark = ['!'] ∧ rest.head? ≠ some '=') ∨
        (mark = [] ∧ rest.head? ≠ some '?' ∧
          (rest.head? = some '!' → rest.tail.head? = some '=')) := by
  constructor
  · intro hm
    generalize mark ++ rest = text at hm
    unfold Piece.nameMark at hm
    split at hm
    · cases hm
      exact .inl rfl
    · cases hm
      exact .inr (.inr ⟨rfl, by simp, by simp⟩)
    · rename_i hne
      cases hm
      refine .inr (.inl ⟨rfl, fun he => ?_⟩)
      obtain ⟨cs, rfl⟩ := List.head?_eq_some_iff.1 he
      exact hne cs rfl
    · rename_i hq _ hb
      cases hm
      refine .inr (.inr ⟨rfl, fun he => ?_, fun he => ?_⟩)
      · obtain ⟨cs, rfl⟩ := List.head?_eq_some_iff.1 he
        exact (hq cs rfl).elim
      · obtain ⟨cs, rfl⟩ := List.head?_eq_some_iff.1 he
        exact (hb cs rfl).elim
  · rintro (rfl | ⟨rfl, he⟩ | ⟨rfl, hq, hb⟩)
    · rfl
    · exact nameMark_bang fun c hc => by rintro rfl; exact he hc
    · by_cases hbang : rest.head? = some '!'
      · have hequal := hb hbang
        obtain ⟨cs, rfl⟩ := List.head?_eq_some_iff.1 hbang
        obtain ⟨ds, rfl⟩ := List.head?_eq_some_iff.1 hequal
        rfl
      · refine nameMark_none fun c hc => ⟨?_, ?_⟩
        · rintro rfl
          exact hq hc
        · rintro rfl
          exact hbang hc

/-- When a colon stands for itself. -/
theorem colonLexeme_lone {glued : Bool} {rest : List Char} {kind : TokenKind} :
    Piece.colonLexeme glued rest = (.lexeme kind [':'], rest) ↔
      kind = .colon ∧ ∀ c ∈ rest.head?, (c == ':' || !glued && Text.isNameStart c) = false := by
  constructor
  · intro hn
    unfold Piece.colonLexeme at hn
    split at hn
    · cases hn
      exact ⟨rfl, by simp⟩
    · split at hn
      · cases hn
      · split at hn
        · cases hn
        · rename_i c cs hc hs
          cases hn
          refine ⟨rfl, ?_⟩
          rintro _ ⟨⟩
          simpa [hc] using hs
  · rintro ⟨rfl, hstop⟩
    unfold Piece.colonLexeme
    split
    · rfl
    · rename_i c cs
      have hc := hstop c rfl
      rw [Bool.or_eq_false_iff, beq_eq_false_iff_ne] at hc
      rw [if_neg hc.1, if_neg (by simp [hc.2])]

/-- When a character that no other rule reads stands for itself. -/
theorem punctuation_lone {c : Char} {rest : List Char} {kind : TokenKind} :
    Piece.punctuation c rest = (.lexeme kind [c], rest) ↔
      kind = .ofChar c ∧ (c = '=' → rest.head? ≠ some '>') := by
  by_cases hr : ∃ cs, rest = '>' :: cs
  · obtain ⟨cs, rfl⟩ := hr
    by_cases hc : c = '='
    · simp [Piece.punctuation, hc]
    · simp [Piece.punctuation, hc, eq_comm]
  · have hhead : rest.head? ≠ some '>' := fun he => hr (List.head?_eq_some_iff.1 he)
    have hplain : Piece.punctuation c rest = (.lexeme (.ofChar c) [c], rest) := by
      unfold Piece.punctuation
      split
      · exact absurd ⟨_, rfl⟩ hr
      · rfl
    simp [hplain, hhead, eq_comm]

section First

variable {rest rest' : List Char} (h : ShowsNoMore rest rest')

include h

theorem nameMark_alike {mark : List Char} (hm : Piece.nameMark (mark ++ rest) = (mark, rest)) :
    Piece.nameMark (mark ++ rest') = (mark, rest') := by
  rw [nameMark_eq_iff] at hm ⊢
  rcases hm with hm | ⟨hm, he⟩ | ⟨hm, hq, hb⟩
  · exact .inl hm
  · exact .inr (.inl ⟨hm, fun hr => he (h.first _ (by decide) hr)⟩)
  · refine .inr (.inr ⟨hm, fun hr => hq (h.first _ (by decide) hr), fun hr => ?_⟩)
    exact h.second hr (hb (h.first _ (by decide) hr))

theorem name_alike {c : Char} {v : List Char} {kind : TokenKind}
    (hn : Piece.name c (v ++ rest) = (.lexeme kind (c :: v), rest)) :
    Piece.name c (v ++ rest') = (.lexeme kind (c :: v), rest') := by
  simp only [Piece.name, Prod.mk.injEq, Piece.lexeme.injEq] at hn
  obtain ⟨⟨hkind, hchars⟩, hrest⟩ := hn
  generalize hword : (v ++ rest).takeWhile Text.isWordChar = word at hchars
  generalize hbehind : (v ++ rest).dropWhile Text.isWordChar = behind at hchars hrest
  generalize hmark : (Piece.nameMark behind).1 = mark at hchars
  -- the name is a word and its mark, and the rest stands behind the mark
  obtain rfl : word ++ mark = v := by simpa using hchars
  obtain rfl : mark ++ rest = behind := by rw [← hmark, ← hrest, Piece.nameMark_append]
  rw [List.append_assoc] at hword hbehind ⊢
  obtain ⟨htake, hdrop⟩ :=
    (h.first.append mark).span (fun _ => isWordChar_of_isGapStart) hword hbehind
  have hfound := nameMark_alike h (Prod.ext hmark hrest)
  simp [Piece.name, htake, hdrop, hfound, hkind]

theorem colonLexeme_alike {glued : Bool} {v : List Char} {kind : TokenKind}
    (hn : Piece.colonLexeme glued (v ++ rest) = (.lexeme kind (':' :: v), rest)) :
    Piece.colonLexeme glued (v ++ rest') = (.lexeme kind (':' :: v), rest') := by
  cases v with
  | nil =>
    obtain ⟨rfl, hstop⟩ := colonLexeme_lone.1 hn
    refine colonLexeme_lone.2 ⟨rfl, h.first.stops (fun c hc => ?_) hstop⟩
    have hcolon : c ≠ ':' := by
      rintro rfl
      cases hc
    simp [isNameStart_of_isGapStart hc, hcolon]
  | cons c v =>
    simp only [List.cons_append, Piece.colonLexeme] at hn ⊢
    by_cases hc : c = ':'
    · simp only [hc, if_true, Prod.mk.injEq, Piece.lexeme.injEq, List.cons.injEq, true_and] at hn ⊢
      obtain ⟨⟨hkind, rfl⟩, -⟩ := hn
      exact ⟨⟨hkind, rfl⟩, rfl⟩
    · rw [if_neg hc] at hn ⊢
      by_cases hs : (!glued && Text.isNameStart c) = true
      · rw [if_pos hs] at hn ⊢
        simp only [Prod.mk.injEq, Piece.lexeme.injEq, List.cons.injEq, true_and] at hn ⊢
        obtain ⟨⟨hkind, htake⟩, hdrop⟩ := hn
        obtain ⟨htake', hdrop'⟩ := h.first.span (fun _ => isWordChar_of_isGapStart) htake hdrop
        exact ⟨⟨hkind, htake'⟩, hdrop'⟩
      · rw [if_neg hs] at hn
        simp at hn

theorem punctuation_alike {c : Char} {v : List Char} {kind : TokenKind}
    (hn : Piece.punctuation c (v ++ rest) = (.lexeme kind (c :: v), rest)) :
    Piece.punctuation c (v ++ rest') = (.lexeme kind (c :: v), rest') := by
  cases v with
  | nil =>
    obtain ⟨hkind, hstop⟩ := punctuation_lone.1 hn
    refine punctuation_lone.2 ⟨hkind, fun hc hr => hstop hc ?_⟩
    exact h.first _ (by decide) hr
  | cons d v =>
    unfold Piece.punctuation at hn
    split at hn
    · rename_i cs hcs
      split at hn
      · rename_i hc
        subst hc
        obtain ⟨rfl, -⟩ := List.cons.inj hcs
        simp only [Prod.mk.injEq, Piece.lexeme.injEq, List.cons.injEq, true_and] at hn
        obtain ⟨⟨rfl, rfl⟩, -⟩ := hn
        rfl
      · simp at hn
    · simp at hn

/-- **Lexemes.** The lexeme in front of a text is in front of any text that shows no more behind
it. -/
theorem firstPiece_showsNoMore {glued : Bool} {c : Char} {v : List Char} {kind : TokenKind}
    (hf : Piece.firstPiece glued c (v ++ rest) = some (.lexeme kind (c :: v), rest)) :
    Piece.firstPiece glued c (v ++ rest') = some (.lexeme kind (c :: v), rest') := by
  unfold Piece.firstPiece at hf ⊢
  split
  · rw [if_pos ‹_›] at hf
    simp at hf
  rw [if_neg ‹_›] at hf
  split
  · rw [if_pos ‹_›] at hf
    simp at hf
  rw [if_neg ‹_›] at hf
  split
  · rw [if_pos ‹_›, Option.some.injEq] at hf
    rw [name_alike h hf]
  rw [if_neg ‹_›] at hf
  split
  · rw [if_pos ‹_›] at hf
    simp only [Option.some.injEq, Prod.mk.injEq, Piece.lexeme.injEq, List.cons.injEq,
      true_and] at hf ⊢
    obtain ⟨⟨hkind, htake⟩, hdrop⟩ := hf
    obtain ⟨htake', hdrop'⟩ := h.first.span (fun _ => isNumberChar_of_isGapStart) htake hdrop
    exact ⟨⟨hkind, htake'⟩, hdrop'⟩
  rw [if_neg ‹_›] at hf
  split
  · rw [if_pos ‹_›] at hf
    have hq : c ≠ '\\' := quote_ne_backslash ‹_›
    obtain ⟨⟨tail, left⟩, ht, he⟩ := Option.map_eq_some_iff.1 hf
    obtain ⟨body, hbody, rfl, -⟩ := (stringTail_eq_some_iff hq).1 ht
    cases he
    rw [List.append_assoc, List.singleton_append, hbody.stringTail_eq hq]
    rfl
  rw [if_neg ‹_›] at hf
  split
  · rename_i hc
    subst hc
    rw [if_pos rfl, Option.some.injEq] at hf
    rw [colonLexeme_alike h hf]
  · rw [if_neg ‹_›, Option.some.injEq] at hf
    rw [punctuation_alike h hf]

end First

/-- The lexeme in front of a text is in front of any text that looks the same behind it. -/
theorem firstPiece_alike {rest rest' : List Char} (h : LookAlike rest rest') {glued : Bool}
    {c : Char} {v : List Char} {kind : TokenKind}
    (hf : Piece.firstPiece glued c (v ++ rest) = some (.lexeme kind (c :: v), rest)) :
    Piece.firstPiece glued c (v ++ rest') = some (.lexeme kind (c :: v), rest') :=
  firstPiece_showsNoMore h.showsNoMore hf

end TypeTags
