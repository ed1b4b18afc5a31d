import TypeTags.Token.Located

/-!
# Cutting a text that is put together from known pieces

`Cuts cs ps rest` says that the characters `cs` in front of `rest` are cut into the pieces `ps`,
whatever stands before them, and that cutting goes on with `rest`. Pieces of a written form are
known one by one, and cuttings compose.

Results:
* `Cuts.append`: cuttings compose.
* `cuts_name`: a name that is one piece by itself stays one in front of a text that cannot go on
  with it.
* `cuts_punctuation`, `cuts_space`, `cuts_scope`, `cuts_arrow`: the fixed lexemes and the single
  space.
* `tokenize_of_cut`, `words_locate`: the tokens of a text that is cut to its end.
-/

namespace TypeTags

namespace Piece

/-- How the piece in front of a text is found, by its first character. -/
inductive First (glued : Bool) (c : Char) (cs : List Char) : Piece → List Char → Prop where
  | blank (h : Text.isBlank c = true) :
      First glued c cs (gap (c :: cs.takeWhile Text.isBlank)) (cs.dropWhile Text.isBlank)
  | comment (h : c = '#') :
      First glued c cs (gap (c :: cs.takeWhile (· != '\n'))) (cs.dropWhile (· != '\n'))
  | name (hb : Text.isBlank c = false) (hc : c ≠ '#') (h : Text.isNameStart c = true) :
      First glued c cs (Piece.name c cs).1 (Piece.name c cs).2
  | number (hn : Text.isNameStart c = false) (h : Text.isDigit c = true) :
      First glued c cs (lexeme .number (c :: cs.takeWhile isNumberChar))
        (cs.dropWhile isNumberChar)
  | string {tail rest : List Char} (h : c = '\'' ∨ c = '"')
      (ht : stringTail c cs = some (tail, rest)) :
      First glued c cs (lexeme .string (c :: tail)) rest
  | colon (h : c = ':') : First glued c cs (colonLexeme glued cs).1 (colonLexeme glued cs).2
  | punctuation (hb : Text.isBlank c = false) (hc : c ≠ '#') (hn : Text.isNameStart c = false)
      (hd : Text.isDigit c = false) (hq : ¬ (c = '\'' ∨ c = '"')) (h : c ≠ ':') :
      First glued c cs (Piece.punctuation c cs).1 (Piece.punctuation c cs).2

theorem first_of_firstPiece {glued : Bool} {c : Char} {cs rest : List Char} {p : Piece}
    (h : firstPiece glued c cs = some (p, rest)) : First glued c cs p rest := by
  unfold firstPiece at h
  split at h
  · cases h; exact .blank ‹_›
  split at h
  · cases h; exact .comment ‹_›
  split at h
  · cases h; exact .name (by simpa using ‹¬ Text.isBlank c = true›) ‹_› ‹_›
  split at h
  · cases h; exact .number (by simpa using ‹¬ Text.isNameStart c = true›) ‹_›
  split at h
  · obtain ⟨⟨tail, r⟩, ht, he⟩ := Option.map_eq_some_iff.1 h
    cases he; exact .string ‹_› ht
  split at h
  · have e := Option.some.inj h
    obtain ⟨rfl, rfl⟩ : (colonLexeme glued cs).1 = p ∧ (colonLexeme glued cs).2 = rest := by
      simp [e]
    exact .colon ‹_›
  · have e := Option.some.inj h
    obtain ⟨rfl, rfl⟩ : (punctuation c cs).1 = p ∧ (punctuation c cs).2 = rest := by simp [e]
    exact .punctuation (by simpa using ‹¬ Text.isBlank c = true›) ‹_›
      (by simpa using ‹¬ Text.isNameStart c = true›) (by simpa using ‹¬ Text.isDigit c = true›)
      ‹_› ‹_›

theorem isName_ofChar (c : Char) : (TokenKind.ofChar c).isName = false := by
  unfold TokenKind.ofChar; split <;> rfl

/-- Only the rule for names gives a name. -/
theorem First.of_isName {glued : Bool} {c : Char} {cs rest : List Char} {p : Piece}
    (h : First glued c cs p rest) (hp : p.isName = true) :
    Text.isBlank c = false ∧ c ≠ '#' ∧ Text.isNameStart c = true ∧ (p, rest) = Piece.name c cs := by
  cases h with
  | name hb hc h => exact ⟨hb, hc, h, rfl⟩
  | colon h =>
    unfold colonLexeme at hp
    split at hp
    · cases hp
    · split at hp
      · cases hp
      · split at hp <;> cases hp
  | punctuation =>
    unfold Piece.punctuation at hp
    split at hp
    · split at hp
      · cases hp
      · simp [isName, isName_ofChar] at hp
    · simp [isName, isName_ofChar] at hp
  | _ => cases hp

end Piece

/-- Pieces put before a cutting. -/
def Cutting.after (ps : List Piece) (c : Cutting) : Cutting := ⟨ps ++ c.pieces, c.stuck⟩

theorem Cutting.after_append (ps qs : List Piece) (c : Cutting) :
    (c.after qs).after ps = c.after (ps ++ qs) := by
  simp [Cutting.after]

/-- The characters `cs` before `rest` are cut into `ps`, and cutting goes on with `rest`. -/
def Cuts (cs : List Char) (ps : List Piece) (rest : List Char) : Prop :=
  ∀ glued, ∃ next, cut glued (cs ++ rest) = (cut next rest).after ps

theorem Cuts.append {cs ds rest : List Char} {ps qs : List Piece} (h : Cuts cs ps (ds ++ rest))
    (k : Cuts ds qs rest) : Cuts (cs ++ ds) (ps ++ qs) rest := by
  intro glued
  obtain ⟨g₁, e₁⟩ := h glued
  obtain ⟨g₂, e₂⟩ := k g₁
  exact ⟨g₂, by rw [List.append_assoc, e₁, e₂, Cutting.after_append]⟩

theorem Cuts.cut_eq {cs : List Char} {ps : List Piece} (h : Cuts cs ps []) :
    cut false cs = ⟨ps, []⟩ := by
  obtain ⟨g, e⟩ := h false
  simpa [cut_nil, Cutting.after] using e

/-- One piece in front. -/
theorem cuts_piece {p : Piece} {c : Char} {cs rest : List Char} (hp : p.chars = c :: cs)
    (h : ∀ glued, Piece.firstPiece glued c (cs ++ rest) = some (p, rest)) :
    Cuts p.chars [p] rest := by
  intro glued
  refine ⟨p.isName, ?_⟩
  rw [hp, List.cons_append, cut_cons (h glued)]
  rfl

/-! ## Names -/

/-- The text cannot go on with a name: it does not start with a character of a word, nor with a mark
that a name may take or that decides whether it takes one. -/
def EndsName (rest : List Char) : Prop :=
  ∀ c ∈ rest.head?, Text.isWordChar c = false ∧ c ≠ '?' ∧ c ≠ '!' ∧ c ≠ '='

theorem endsName_nil : EndsName [] := by
  intro c hc; cases hc

theorem endsName_cons {c : Char} {cs : List Char}
    (h : Text.isWordChar c = false ∧ c ≠ '?' ∧ c ≠ '!' ∧ c ≠ '=') : EndsName (c :: cs) := by
  intro d hd
  simp only [List.head?_cons, Option.mem_def, Option.some.injEq] at hd
  exact hd ▸ h

theorem takeWhile_append_stop {α : Type} {q : α → Bool} {rest : List α}
    (h : ∀ c ∈ rest.head?, q c = false) (cs : List α) :
    (cs ++ rest).takeWhile q = cs.takeWhile q := by
  induction cs with
  | nil =>
    cases rest with
    | nil => rfl
    | cons c rest => simp [h c rfl]
  | cons c cs ih => simp [List.takeWhile_cons, ih]

theorem dropWhile_append_stop {α : Type} {q : α → Bool} {rest : List α}
    (h : ∀ c ∈ rest.head?, q c = false) (cs : List α) :
    (cs ++ rest).dropWhile q = cs.dropWhile q ++ rest := by
  induction cs with
  | nil =>
    cases rest with
    | nil => rfl
    | cons c rest => simp [h c rfl]
  | cons c cs ih =>
    simp only [List.cons_append, List.dropWhile_cons]
    split
    · exact ih
    · rfl

theorem nameMark_bang {cs : List Char} (h : ∀ c ∈ cs.head?, c ≠ '=') :
    Piece.nameMark ('!' :: cs) = (['!'], cs) := by
  unfold Piece.nameMark
  split <;> simp_all

theorem nameMark_none {cs : List Char} (h : ∀ c ∈ cs.head?, c ≠ '?' ∧ c ≠ '!') :
    Piece.nameMark cs = ([], cs) := by
  unfold Piece.nameMark
  split <;> simp_all

/-- The mark of a name is found whatever cannot go on with the name follows. -/
theorem EndsName.nameMark {rest : List Char} (h : EndsName rest) (cs : List Char) :
    Piece.nameMark (cs ++ rest) = ((Piece.nameMark cs).1, (Piece.nameMark cs).2 ++ rest) := by
  have hhead : ∀ ds : List Char, ∀ c ∈ (ds ++ rest).head?, c ∈ ds.head? ∨ c ∈ rest.head? := by
    intro ds c hc
    cases ds with
    | nil => exact .inr hc
    | cons d ds => exact .inl hc
  fun_cases Piece.nameMark cs with
  | case1 cs => rfl
  | case2 cs => rfl
  | case3 cs hne =>
    refine nameMark_bang fun c hc => ?_
    rcases hhead cs c hc with hc | hc
    · rintro rfl
      cases cs with
      | nil => cases hc
      | cons d cs => cases hc; exact hne cs rfl
    · exact (h c hc).2.2.2
  | case4 cs hq _ hb =>
    refine nameMark_none fun c hc => ?_
    rcases hhead cs c hc with hc | hc
    · cases cs with
      | nil => cases hc
      | cons d cs =>
        cases hc
        exact ⟨fun e => hq cs (by rw [e]), fun e => hb cs (by rw [e])⟩
    · exact ⟨(h c hc).2.1, (h c hc).2.2.1⟩

/-- A text that is cut into one name by itself. -/
def IsName (kind : TokenKind) (cs : List Char) : Prop := cut false cs = ⟨[.lexeme kind cs], []⟩

/-- What a name that is one piece looks like: a first character that starts a name, and nothing left
behind its mark. -/
theorem IsName.shape {kind : TokenKind} (hk : kind.isName) {cs : List Char} (h : IsName kind cs) :
    ∃ c ds, cs = c :: ds ∧ Text.isBlank c = false ∧ c ≠ '#' ∧ Text.isNameStart c = true ∧
      Piece.name c ds = (.lexeme kind cs, []) := by
  unfold IsName at h
  cases cs with
  | nil => simp [cut_nil] at h
  | cons c ds =>
    cases hf : Piece.firstPiece false c ds with
    | none => simp [cut_stuck hf] at h
    | some pr =>
      obtain ⟨p, rest⟩ := pr
      rw [cut_cons hf] at h
      simp only [Cutting.mk.injEq, List.cons.injEq] at h
      obtain ⟨⟨rfl, -⟩, -⟩ := h
      have happ := Piece.firstPiece_append hf
      simp only [Piece.chars, List.append_right_eq_self] at happ
      subst happ
      obtain ⟨hb, hc, hn, he⟩ := (Piece.first_of_firstPiece hf).of_isName hk
      exact ⟨c, ds, rfl, hb, hc, hn, he.symm⟩

theorem IsName.solid {kind : TokenKind} (hk : kind.isName) {cs : List Char} (h : IsName kind cs) :
    ∃ c ds, cs = c :: ds ∧ Text.isBlank c = false := by
  obtain ⟨c, ds, hcs, hb, -⟩ := h.shape hk
  exact ⟨c, ds, hcs, hb⟩

/-- A name is made of a first character, word characters and maybe a mark at its end. -/
theorem IsName.forall_mem {kind : TokenKind} (hk : kind.isName) {cs : List Char}
    (h : IsName kind cs) {P : Char → Prop} (hstart : ∀ c, Text.isNameStart c = true → P c)
    (hword : ∀ c, Text.isWordChar c = true → P c) (hquestion : P '?') (hbang : P '!') :
    ∀ c ∈ cs, P c := by
  obtain ⟨c, ds, rfl, -, -, hc, he⟩ := h.shape hk
  simp only [Piece.name, Prod.mk.injEq, Piece.lexeme.injEq] at he
  rw [← he.1.2, List.cons_append]
  refine List.forall_mem_cons.2 ⟨hstart c hc, List.forall_mem_append.2 ⟨?_, ?_⟩⟩
  · exact fun d hd => hword d (List.all_eq_true.1 List.all_takeWhile d hd)
  · fun_cases Piece.nameMark (ds.dropWhile Text.isWordChar) with
    | case1 => exact List.forall_mem_singleton.2 hquestion
    | case2 => simp
    | case3 => exact List.forall_mem_singleton.2 hbang
    | case4 => simp

/-- A name stays one piece in front of a text that cannot go on with it. -/
theorem cuts_name {kind : TokenKind} (hk : kind.isName) {cs : List Char} (h : IsName kind cs)
    {rest : List Char} (hr : EndsName rest) : Cuts cs [.lexeme kind cs] rest := by
  obtain ⟨c, ds, rfl, hb, hc, hn, he⟩ := h.shape hk
  simp only [Piece.name, Prod.mk.injEq, Piece.lexeme.injEq] at he
  obtain ⟨⟨hkind, -⟩, hmark⟩ := he
  refine cuts_piece (p := .lexeme kind (c :: ds)) rfl fun glued => ?_
  have hword : ∀ d ∈ rest.head?, Text.isWordChar d = false := fun d hd => (hr d hd).1
  have hall := Piece.nameMark_append (ds.dropWhile Text.isWordChar)
  rw [hmark, List.append_nil] at hall
  simp only [Piece.firstPiece, hb, hc, hn, Bool.false_eq_true, if_false, if_true, Piece.name,
    takeWhile_append_stop hword, dropWhile_append_stop hword, hr.nameMark, hall, hmark, hkind,
    List.cons_append, List.nil_append, List.takeWhile_append_dropWhile]

/-! ## Fixed lexemes -/

/-- The punctuation that stands for itself whatever follows. -/
theorem cuts_punctuation {c : Char} (hc : c ∈ ['.', ',', '(', ')', '[', ']', '{', '}', '<', '>'])
    (rest : List Char) : Cuts [c] [.lexeme (.ofChar c) [c]] rest := by
  have class_of : Text.isBlank c = false ∧ c ≠ '#' ∧ Text.isNameStart c = false ∧
      Text.isDigit c = false ∧ ¬ (c = '\'' ∨ c = '"') ∧ c ≠ ':' ∧ c ≠ '=' := by
    simp only [List.mem_cons, List.not_mem_nil, or_false] at hc
    rcases hc with rfl | rfl | rfl | rfl | rfl | rfl | rfl | rfl | rfl | rfl <;> decide
  obtain ⟨h1, h2, h3, h4, h5, h6, h7⟩ := class_of
  refine cuts_piece (p := .lexeme (.ofChar c) [c]) rfl fun glued => ?_
  simp only [Piece.firstPiece, h1, h2, h3, h4, h5, h6, Bool.false_eq_true, if_false,
    List.nil_append, Piece.punctuation]
  split <;> simp [h7]

theorem cuts_scope (rest : List Char) : Cuts [':', ':'] [.lexeme .scope [':', ':']] rest :=
  cuts_piece (p := .lexeme .scope [':', ':']) rfl fun _ => rfl

theorem cuts_arrow (rest : List Char) : Cuts ['=', '>'] [.lexeme .arrow ['=', '>']] rest :=
  cuts_piece (p := .lexeme .arrow ['=', '>']) rfl fun _ => rfl

/-- A single space in front of something that is not blank. -/
theorem cuts_space {rest : List Char} (hr : ∀ c ∈ rest.head?, Text.isBlank c = false) :
    Cuts [' '] [.gap [' ']] rest := by
  refine cuts_piece (p := .gap [' ']) rfl fun glued => ?_
  cases rest with
  | nil => rfl
  | cons c rest =>
    have := hr c rfl
    simp [Piece.firstPiece, show Text.isBlank ' ' = true from rfl, this]

theorem solid_append {cs : List Char} (h : ∃ c ds, cs = c :: ds ∧ Text.isBlank c = false)
    (rest : List Char) : ∃ c ds, cs ++ rest = c :: ds ∧ Text.isBlank c = false := by
  obtain ⟨c, ds, rfl, hb⟩ := h
  exact ⟨c, ds ++ rest, rfl, hb⟩

theorem cuts_space_solid {cs : List Char} (h : ∃ c ds, cs = c :: ds ∧ Text.isBlank c = false)
    (rest : List Char) : Cuts [' '] [.gap [' ']] (cs ++ rest) := by
  obtain ⟨c, ds, rfl, hb⟩ := h
  refine cuts_space ?_
  rintro _ ⟨⟩
  exact hb

/-! ## Tokens -/

def Piece.word? : Piece → Option (TokenKind × String)
  | .gap _ => none
  | .lexeme kind cs => some (kind, String.ofList cs)

def Token.word (t : Token) : TokenKind × String := (t.kind, t.value)

theorem locate_ne_nil (offset line : Nat) (ps : List Piece) : Token.locate offset line ps ≠ [] := by
  induction ps generalizing offset line with
  | nil => simp [Token.locate]
  | cons p ps ih => cases p <;> simp [Token.locate, ih]

theorem words_locate (offset line : Nat) (ps : List Piece) :
    ((Token.locate offset line ps).dropLast).map Token.word = ps.filterMap Piece.word? := by
  induction ps generalizing offset line with
  | nil => rfl
  | cons p ps ih =>
    cases p with
    | gap cs => exact ih _ _
    | lexeme kind cs =>
      simp only [Token.locate, List.dropLast_cons_of_ne_nil (locate_ne_nil _ _ ps), List.map_cons,
        ih]
      rfl

theorem tokenize_of_cut {cs : List Char} {ps : List Piece} (h : cut false cs = ⟨ps, []⟩) :
    tokenize cs = .ok (Token.locate 0 1 ps) := by
  simp [tokenize, h]

end TypeTags
