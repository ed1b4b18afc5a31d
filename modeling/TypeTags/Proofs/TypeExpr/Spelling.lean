import TypeTags.Proofs.Signature.Reading
import TypeTags.Proofs.Token.Cutting

/-!
# Written forms of types

A written form of a type is a text with the pieces it is cut into, such that reading the tokens of
those pieces gives the type back (`Spelling`). Written forms are put together as the type is: a
constant path by itself, a path with arguments in angles or braces, an array with its elements. What
follows a form in a larger one must neither go on with its last name (`EndsName`) nor look like a
payload (`EndsType`).

* `ConstantPath`: a constant path, whose segments are constants for the lexer.
* `Form`: a text that is cut into pieces and starts like a type.
* `Spelling`, `ListSpelling`: written forms of a type, and of several with commas between them.
-/

namespace TypeTags

/-! ## Constant paths -/

/-- A path of constants, each of which, as a whole, is exactly one constant for the lexer. -/
structure ConstantPath where
  /-- Whether the path starts at the root, with a double colon. -/
  rooted : Bool
  first : String
  others : List String
  lexes : ∀ segment ∈ first :: others, IsName .const segment.toList

namespace ConstantPath

def text (p : ConstantPath) : String :=
  (if p.rooted then "::" else "") ++ String.intercalate "::" (p.first :: p.others)

/-- The path has two segments and the first is `T`: it is a helper of the type language. -/
def IsHelper (p : ConstantPath) : Prop := p.rooted = false ∧ p.first = "T" ∧ p.others.length = 1

/-- A double colon and a constant. -/
def step (segment : String) : List Piece :=
  [.lexeme .scope [':', ':'], .lexeme .const segment.toList]

def pieces (p : ConstantPath) : List Piece :=
  (if p.rooted then [.lexeme .scope [':', ':']] else [])
    ++ .lexeme .const p.first.toList :: p.others.flatMap step

/-- The segments as they are read: a path from the root has an empty one in front. -/
def parts (p : ConstantPath) : List String :=
  (if p.rooted then ["", p.first] else [p.first]) ++ p.others

/-- A single colon ends a name. -/
theorem endsName_colon (cs : List Char) : EndsName (':' :: cs) := endsName_cons (by decide)

theorem cuts_segments {first : String} {others : List String}
    (h : ∀ segment ∈ first :: others, IsName .const segment.toList) {rest : List Char}
    (hr : EndsName rest) : Cuts (String.intercalate "::" (first :: others)).toList
      (.lexeme .const first.toList :: others.flatMap step) rest := by
  induction others generalizing first with
  | nil => simpa using cuts_name rfl (h first List.mem_cons_self) hr
  | cons second others ih =>
    have h1 : Cuts first.toList [.lexeme .const first.toList]
        (([':', ':'] ++ (String.intercalate "::" (second :: others)).toList) ++ rest) :=
      cuts_name rfl (h first List.mem_cons_self) (endsName_colon _)
    have h2 := ih fun segment hs => h segment (List.mem_cons_of_mem _ hs)
    simpa [String.intercalate_cons_cons, step] using h1.append ((cuts_scope _).append h2)

theorem cuts (p : ConstantPath) {rest : List Char} (hr : EndsName rest) :
    Cuts p.text.toList p.pieces rest := by
  have h := cuts_segments p.lexes hr
  unfold text pieces
  cases p.rooted with
  | false => simpa using h
  | true => simpa using (cuts_scope _).append h

/-- A path starts with a character that is not blank. -/
theorem solid (p : ConstantPath) : ∃ c cs, p.text.toList = c :: cs ∧ Text.isBlank c = false := by
  obtain ⟨c, ds, hc, hb⟩ := (p.lexes p.first List.mem_cons_self).solid rfl
  unfold text
  cases p.rooted with
  | true => exact ⟨':', _, by simp; rfl, by decide⟩
  | false =>
    cases p.others with
    | nil => exact ⟨c, ds, by simpa using hc, hb⟩
    | cons second others => exact ⟨c, _, by simp [String.intercalate_cons_cons, hc]; rfl, hb⟩

/-- The name that a path goes by is the path as it is written, unless it is a helper. -/
theorem pathName_parts (p : ConstantPath) (h : ¬ p.IsHelper) :
    Parser.pathName p.parts = p.text := by
  unfold parts text Parser.pathName
  cases hr : p.rooted with
  | true =>
    simp only [if_true, List.cons_append, List.nil_append]
    split
    · rename_i heq; simp at heq
    · rw [String.intercalate_cons_cons, String.append_assoc]; rfl
  | false =>
    simp only [Bool.false_eq_true, if_false, List.cons_append, List.nil_append]
    split
    · rename_i name heq
      simp only [List.cons.injEq] at heq
      exact absurd ⟨hr, heq.1, by simp [heq.2]⟩ h
    · rw [String.empty_append]

/-! ### Reading a path -/

/-- The words of a list of pieces. -/
theorem words_pieces (p : ConstantPath) : p.pieces.filterMap Piece.word? =
    (if p.rooted then [(.scope, "::")] else []) ++ (.const, p.first) ::
      p.others.flatMap fun s => [(.scope, "::"), (.const, s)] := by
  have hs : ∀ l : List String, (l.flatMap step).filterMap Piece.word? =
      l.flatMap fun s => [(.scope, "::"), (.const, s)] := by
    intro l
    induction l with
    | nil => rfl
    | cons s l ih =>
      simp only [List.flatMap_cons, List.filterMap_append, ih]
      simp [step, Piece.word?]
  unfold pieces
  cases p.rooted <;> simp [Piece.word?, hs]

/-- The tokens after the first segment are read up to what cannot go on with the path. -/
theorem pathTail_run (src : Source) {others : List String} {toks rest : List Token}
    (h : toks.map Token.word = others.flatMap fun s => [(.scope, "::"), (.const, s)])
    (hr : (Parser.front src rest).kind ≠ .scope) :
    Parser.pathTail (toks ++ rest) = (others, rest) := by
  induction others generalizing toks with
  | nil =>
    simp only [List.flatMap_nil, List.map_eq_nil_iff] at h
    subst h
    rw [List.nil_append]
    unfold Parser.pathTail
    split
    · rw [if_neg fun hk => hr hk.1]
    · rfl
  | cons s others ih =>
    simp only [List.flatMap_cons, List.cons_append, List.nil_append, List.map_eq_cons_iff] at h
    obtain ⟨a, _, rfl, ha, b, toks, rfl, hb, h⟩ := h
    simp only [Token.word, Prod.mk.injEq] at ha hb
    simp [Parser.pathTail, ha.1, hb.1, hb.2, ih h]

theorem constantPath_run (p : ConstantPath) (src : Source) {toks rest : List Token}
    (h : toks.map Token.word = p.pieces.filterMap Piece.word?)
    (hr : (Parser.front src rest).kind ≠ .scope) :
    Parser.constantPath src (toks ++ rest) = .ok p.parts rest [] := by
  rw [words_pieces] at h
  unfold Parser.constantPath parts
  cases hrt : p.rooted with
  | true =>
    simp only [hrt, if_true, List.cons_append, List.nil_append, List.map_eq_cons_iff] at h
    obtain ⟨a, _, rfl, ha, b, toks, rfl, hb, h⟩ := h
    simp only [Token.word, Prod.mk.injEq] at ha hb
    simp [Parser.accept_run, Parser.expect_run, ha.1, hb.1, hb.2, pathTail_run src h hr]
  | false =>
    simp only [hrt, Bool.false_eq_true, if_false, List.nil_append, List.map_eq_cons_iff] at h
    obtain ⟨b, toks, rfl, hb, h⟩ := h
    simp only [Token.word, Prod.mk.injEq] at hb
    simp [Parser.accept_run, Parser.expect_run, hb.1, hb.2, pathTail_run src h hr]

/-- The path is no alias and goes by the name, so that its payload is read next. -/
structure GoesBy (p : ConstantPath) (name : String) : Prop where
  ne_nilClass : p.parts ≠ ["NilClass"]
  ne_boolean : p.parts ≠ ["T", "Boolean"]
  pathName_eq : Parser.pathName p.parts = name

/-- A path that is no helper goes by its own text. -/
theorem goesBy_text (p : ConstantPath) (hn : p.text ≠ "NilClass") (hh : ¬ p.IsHelper) :
    p.GoesBy p.text where
  ne_nilClass := by
    intro e
    apply hn
    rw [← p.pathName_parts hh, e]
    rfl
  ne_boolean := by
    intro e
    apply hh
    unfold parts at e
    cases hr : p.rooted <;> simp [hr] at e
    exact ⟨hr, e.1, by simp [e.2]⟩
  pathName_eq := p.pathName_parts hh

theorem constantType_run (p : ConstantPath) {name : String} (hp : p.GoesBy name)
    (item : Parser TypeExpr) (n : Nat) (src : Source) {toks rest : List Token}
    (h : toks.map Token.word = p.pieces.filterMap Piece.word?)
    (hr : (Parser.front src rest).kind ≠ .scope) :
    Parser.constantType item n src (toks ++ rest) =
      Parser.payload item n name (Parser.front src (toks ++ rest)).start src rest := by
  unfold Parser.constantType
  simp [p.constantPath_run src h hr, hp.ne_nilClass, hp.ne_boolean, hp.pathName_eq]

/-- A type that starts with a path is read as one, not as a helper. -/
theorem typeStep_run (p : ConstantPath) {name : String} (hp : p.GoesBy name)
    (item : Parser TypeExpr) (n : Nat) (src : Source) {toks rest : List Token}
    (h : toks.map Token.word = p.pieces.filterMap Piece.word?)
    (hr : (Parser.front src rest).kind ≠ .scope) (hd : (Parser.front src rest).kind ≠ .dot) :
    ∃ offset, Parser.typeStep item n src (toks ++ rest) =
      Parser.payload item n name offset src rest := by
  refine ⟨_, Eq.trans ?_ (p.constantType_run hp item n src h hr)⟩
  have hw := h
  rw [words_pieces] at hw
  unfold Parser.typeStep
  cases hrt : p.rooted with
  | true =>
    simp only [hrt, if_true, List.cons_append, List.nil_append, List.map_eq_cons_iff] at hw
    obtain ⟨a, _, rfl, ha, -⟩ := hw
    simp only [Token.word, Prod.mk.injEq] at ha
    simp [ha.1]
  | false =>
    simp only [hrt, Bool.false_eq_true, if_false, List.nil_append, List.map_eq_cons_iff] at hw
    obtain ⟨a, toks, rfl, ha, ht⟩ := hw
    simp only [Token.word, Prod.mk.injEq] at ha
    -- no dot follows the first segment: another segment does, or what follows the path
    have hdot : (Parser.front src (toks ++ rest)).kind ≠ .dot := by
      cases ho : p.others with
      | nil =>
        simp only [ho, List.flatMap_nil, List.map_eq_nil_iff] at ht
        simpa [ht] using hd
      | cons s others =>
        simp only [ho, List.flatMap_cons, List.cons_append, List.map_eq_cons_iff] at ht
        obtain ⟨b, _, rfl, hb, -⟩ := ht
        simp only [Token.word, Prod.mk.injEq] at hb
        simp [hb.1]
    simp [ha.1, hdot]

end ConstantPath

/-! ## Written forms -/

/-- The tokens cannot go on with a type: they do not start with what follows a constant. -/
def EndsType (src : Source) (rest : List Token) : Prop :=
  (Parser.front src rest).kind ∉ ([.dot, .scope, .lbrack, .lt, .lbrace, .lparen] : List TokenKind)

theorem endsType_nil (src : Source) : EndsType src [] := by
  simp [EndsType, Token.endMark]

theorem endsType_cons (src : Source) {t : Token} {ts : List Token}
    (h : t.kind ∉ ([.dot, .scope, .lbrack, .lt, .lbrace, .lparen] : List TokenKind)) :
    EndsType src (t :: ts) := h

/-- The characters `cs` are cut into the pieces `ps` and start like a type. -/
structure Form (cs : List Char) (ps : List Piece) : Prop where
  cuts : ∀ {rest}, EndsName rest → Cuts cs ps rest
  solid : ∃ c ds, cs = c :: ds ∧ Text.isBlank c = false
  leads : ∃ kind word words, ps.filterMap Piece.word? = (kind, word) :: words ∧
    kind ∈ ([.const, .scope, .ident, .lbrack] : List TokenKind)

theorem front_kind {src : Source} {toks rest : List Token} {kind : TokenKind} {word : String}
    {words : List (TokenKind × String)} (h : toks.map Token.word = (kind, word) :: words) :
    (Parser.front src (toks ++ rest)).kind = kind := by
  obtain ⟨first, toks, rfl, hfirst, -⟩ := List.map_eq_cons_iff.1 h
  exact congrArg Prod.fst hfirst

/-- A form does not start with what closes a list. -/
theorem Form.front_ne_closer {cs : List Char} {ps : List Piece} (h : Form cs ps) {src : Source}
    {toks rest : List Token} (hw : toks.map Token.word = ps.filterMap Piece.word?)
    {closer : TokenKind} (hc : closer ∈ ([.gt, .rparen, .rbrack] : List TokenKind)) :
    (Parser.front src (toks ++ rest)).kind ≠ closer := by
  obtain ⟨kind, word, words, hlead, hkind⟩ := h.leads
  rw [front_kind (hw.trans hlead)]
  rintro rfl
  revert hkind hc
  cases kind <;> decide

def commaGap : List Piece := [.lexeme .comma [','], .gap [' ']]

theorem cuts_commaGap {cs rest : List Char} {ps : List Piece}
    (h : ∃ c ds, cs = c :: ds ∧ Text.isBlank c = false) (k : Cuts cs ps rest) :
    Cuts ([','] ++ ([' '] ++ cs)) (commaGap ++ ps) rest :=
  (cuts_punctuation (c := ',') (by decide) _).append ((cuts_space_solid h rest).append k)

/-- The tokens of pieces with a comma between them. -/
theorem tokens_commaGap {ps qs : List Piece} {toks : List Token}
    (h : toks.map Token.word = (ps ++ (commaGap ++ qs)).filterMap Piece.word?) :
    ∃ (a : List Token) (comma : Token) (b : List Token), toks = a ++ comma :: b ∧
      a.map Token.word = ps.filterMap Piece.word? ∧ comma.kind = TokenKind.comma ∧
      b.map Token.word = qs.filterMap Piece.word? := by
  simp only [commaGap, List.cons_append, List.nil_append, List.filterMap_append,
    List.filterMap_cons, Piece.word?, List.map_eq_append_iff, List.map_eq_cons_iff] at h
  obtain ⟨a, _, rfl, ha, comma, b, rfl, hcomma, hb⟩ := h
  simp only [Token.word, Prod.mk.injEq] at hcomma
  exact ⟨a, comma, b, rfl, ha, hcomma.1, hb⟩

theorem Form.cons {cs ds : List Char} {ps qs : List Piece} (h : Form cs ps) (k : Form ds qs) :
    Form (cs ++ ([','] ++ ([' '] ++ ds))) (ps ++ (commaGap ++ qs)) where
  cuts := fun {rest} hr =>
    (h.cuts (endsName_cons (by decide))).append (cuts_commaGap k.solid (k.cuts hr))
  solid := solid_append h.solid _
  leads := by
    obtain ⟨kind, word, words, he, hk⟩ := h.leads
    exact ⟨kind, word, _, by rw [List.filterMap_append, he]; rfl, hk⟩

/-- The characters `cs`, cut into the pieces `ps`, are a written form of the type `t`. -/
structure Spelling (t : TypeExpr) (cs : List Char) (ps : List Piece) : Prop extends Form cs ps where
  reads : ∀ {n src toks rest}, toks.map Token.word = ps.filterMap Piece.word? → toks.length ≤ n →
    EndsType src rest → Parser.typeAt n src (toks ++ rest) = .ok t rest []

/-- The characters `cs`, cut into the pieces `ps`, are written forms of the types `ts` with commas
between them. -/
structure ListSpelling (ts : List TypeExpr) (cs : List Char) (ps : List Piece) : Prop
    extends Form cs ps where
  reads : ∀ {m n src toks closer rest}, toks.map Token.word = ps.filterMap Piece.word? →
    toks.length ≤ m → toks.length ≤ n →
    closer.kind ∈ ([.gt, .rparen, .rbrack] : List TokenKind) →
    Parser.itemList (Parser.typeAt m) closer.kind n src (toks ++ closer :: rest) = .ok ts rest []

theorem isName_wordTypes : ∀ w ∈ Parser.wordTypes, IsName .ident w.toList := by
  unfold IsName; decide +kernel

/-- A word that is a type by itself. -/
theorem spelling_word {w : String} (h : w ∈ Parser.wordTypes) :
    Spelling (.simple w) w.toList [.lexeme .ident w.toList] where
  cuts := cuts_name rfl (isName_wordTypes w h)
  solid := (isName_wordTypes w h).solid rfl
  leads := ⟨.ident, w, [], by simp [Piece.word?], by simp⟩
  reads := by
    intro n src toks rest hw hl hr
    simp only [List.filterMap_cons, Piece.word?, String.ofList_toList, List.filterMap_nil,
      List.map_eq_cons_iff, List.map_eq_nil_iff] at hw
    obtain ⟨a, _, rfl, ha, rfl⟩ := hw
    simp only [Token.word, Prod.mk.injEq] at ha
    cases n with
    | zero => simp at hl
    | succ n => simp [Parser.typeAt, Parser.typeStep, ha.1, ha.2, h]

/-! ### Constants and what follows them -/

theorem ConstantPath.leads (p : ConstantPath) : ∃ kind word words,
    p.pieces.filterMap Piece.word? = (kind, word) :: words ∧
      kind ∈ ([.const, .scope, .ident, .lbrack] : List TokenKind) := by
  rw [p.words_pieces]
  cases p.rooted with
  | true => exact ⟨_, _, _, rfl, by simp⟩
  | false => exact ⟨_, _, _, rfl, by simp⟩

theorem ConstantPath.form (p : ConstantPath) {cs : List Char} {ps : List Piece}
    (hends : ∀ {rest}, EndsName rest → EndsName (cs ++ rest))
    (hcuts : ∀ {rest}, EndsName rest → Cuts cs ps rest) :
    Form (p.text.toList ++ cs) (p.pieces ++ ps) where
  cuts := fun hr => (p.cuts (hends hr)).append (hcuts hr)
  solid := solid_append p.solid cs
  leads := by
    obtain ⟨kind, word, words, he, hk⟩ := p.leads
    exact ⟨kind, word, _, by rw [List.filterMap_append, he]; rfl, hk⟩

/-- A constant path and its payload, given how the payload is cut and read. -/
theorem spelling_path (p : ConstantPath) {name : String} (hp : p.GoesBy name) {t : TypeExpr}
    {cs : List Char} {ps : List Piece}
    (hends : ∀ {rest}, EndsName rest → EndsName (cs ++ rest))
    (hcuts : ∀ {rest}, EndsName rest → Cuts cs ps rest)
    (hfront : ∀ {src toks rest}, toks.map Token.word = ps.filterMap Piece.word? →
      EndsType src rest →
      (Parser.front src (toks ++ rest)).kind ∉ ([.dot, .scope] : List TokenKind))
    (hreads : ∀ {n offset src toks rest}, toks.map Token.word = ps.filterMap Piece.word? →
      toks.length ≤ n → EndsType src rest →
      Parser.payload (Parser.typeAt n) n name offset src (toks ++ rest) = .ok t rest []) :
    Spelling t (p.text.toList ++ cs) (p.pieces ++ ps) where
  toForm := p.form hends hcuts
  reads := by
    intro n src toks rest hw hl hr
    rw [List.filterMap_append, List.map_eq_append_iff] at hw
    obtain ⟨a, b, rfl, ha, hb⟩ := hw
    have hpos : 0 < a.length := by
      obtain ⟨kind, word, words, he, -⟩ := p.leads
      have hlen := congrArg List.length ha
      rw [he, List.length_map, List.length_cons] at hlen
      omega
    rw [List.length_append] at hl
    obtain ⟨n, rfl⟩ : ∃ i, n = i + 1 := ⟨n - 1, by omega⟩
    have hk := hfront hb hr
    simp only [List.mem_cons, List.not_mem_nil, or_false, not_or] at hk
    obtain ⟨offset, he⟩ := p.typeStep_run hp (Parser.typeAt n) n src ha hk.2 hk.1
    rw [List.append_assoc]
    exact he.trans (hreads hb (by omega) hr)

/-- A constant path by itself. -/
theorem spelling_bare (p : ConstantPath) (hn : p.text ≠ "NilClass") (hh : ¬ p.IsHelper) :
    Spelling (Parser.bare p.text) p.text.toList p.pieces := by
  have h : Spelling (Parser.bare p.text) (p.text.toList ++ []) (p.pieces ++ []) := by
    refine spelling_path p (p.goesBy_text hn hh) (fun hr => hr) ?_ ?_ ?_
    · intro rest hr glued
      exact ⟨glued, by simp [Cutting.after]⟩
    · intro src toks rest hw hr
      simp only [List.filterMap_nil, List.map_eq_nil_iff] at hw
      rw [hw, List.nil_append]
      simp only [EndsType, List.mem_cons, not_or] at hr
      simp [hr.1, hr.2.1]
    · intro n offset src toks rest hw hl hr
      simp only [List.filterMap_nil, List.map_eq_nil_iff] at hw
      rw [hw, List.nil_append]
      unfold EndsType at hr
      unfold Parser.payload
      simp only [Parser.bind_run, Parser.peek_run, Outcome.after_nil]
      split <;> simp_all
  simpa using h

/-- The constant that a hash without declared types is written with. -/
def hashPath : ConstantPath :=
  ⟨false, "Hash", [], by unfold IsName; decide +kernel⟩

/-! ### Lists -/

theorem listTail_closer (item : Parser TypeExpr) (n : Nat) (src : Source) {closer : Token}
    {rest : List Token} (h : closer.kind ≠ .comma) :
    Parser.listTail item closer.kind n src (closer :: rest) = .ok [] rest [] := by
  cases n <;> simp [Parser.listTail, Parser.accept_run, Parser.expect_run, h]

theorem listTail_comma (item : Parser TypeExpr) (n : Nat) (src : Source) {comma : Token}
    {kind : TokenKind} {rest : List Token} (h : comma.kind = .comma)
    (hk : (Parser.front src rest).kind ≠ kind) :
    Parser.listTail item kind (n + 1) src (comma :: rest) =
      Parser.itemList item kind n src rest := by
  simp [Parser.listTail, Parser.accept_run, h, hk, Parser.itemList]

theorem listSpelling_single {t : TypeExpr} {cs : List Char} {ps : List Piece}
    (h : Spelling t cs ps) : ListSpelling [t] cs ps where
  toForm := h.toForm
  reads := by
    intro m n src toks closer rest hw hm hn hc
    have hr : EndsType src (closer :: rest) := by
      refine endsType_cons src ?_
      revert hc
      cases closer.kind <;> decide
    have hcomma : closer.kind ≠ .comma := by
      intro e; rw [e] at hc; simp at hc
    simp [Parser.itemList, h.reads hw hm hr, listTail_closer _ _ _ hcomma]

theorem listSpelling_cons {t : TypeExpr} {ts : List TypeExpr} {cs ds : List Char}
    {ps qs : List Piece} (h : Spelling t cs ps) (k : ListSpelling ts ds qs) :
    ListSpelling (t :: ts) (cs ++ ([','] ++ ([' '] ++ ds)))
      (ps ++ ([Piece.lexeme .comma [',']] ++ ([Piece.gap [' ']] ++ qs))) where
  toForm := h.toForm.cons k.toForm
  reads := by
    intro m n src toks closer rest hw hm hn hc
    obtain ⟨a, comma, d, rfl, ha, hcomma, hd⟩ := tokens_commaGap hw
    simp only [List.length_append, List.length_cons] at hm hn
    obtain ⟨n, rfl⟩ : ∃ i, n = i + 1 := ⟨n - 1, by omega⟩
    -- the next form starts with a name, so the comma is not the last token before the closing one
    have hnext : (Parser.front src (d ++ closer :: rest)).kind ≠ closer.kind :=
      k.front_ne_closer hd hc
    have hr : EndsType src (comma :: (d ++ closer :: rest)) :=
      endsType_cons src (by simp [hcomma])
    have h1 : Parser.typeAt m src (a ++ comma :: (d ++ closer :: rest)) =
        .ok t (comma :: (d ++ closer :: rest)) [] := h.reads ha (by omega) hr
    have h2 : Parser.itemList (Parser.typeAt m) closer.kind n src (d ++ closer :: rest) =
        .ok ts rest [] := k.reads hd (by omega) (by omega) hc
    have h3 := listTail_comma (Parser.typeAt m) n src hcomma hnext
    simp only [Parser.itemList, List.append_assoc, List.cons_append]
    rw [Parser.bind_ok h1, Outcome.after_nil, Parser.bind_ok (h3.trans h2)]
    simp

/-! ### Collections -/

/-- What opens a list of types ends a name and is read as the opening of a payload. -/
theorem opener_shape : ∀ o ∈ ['<', '(', '['],
    (Text.isWordChar o = false ∧ o ≠ '?' ∧ o ≠ '!' ∧ o ≠ '=') ∧
      o ∈ ['.', ',', '(', ')', '[', ']', '{', '}', '<', '>'] ∧
      TokenKind.ofChar o ∉ ([.dot, .scope] : List TokenKind) := by
  intro o ho
  simp only [List.mem_cons, List.not_mem_nil, or_false] at ho
  rcases ho with rfl | rfl | rfl <;> decide

theorem closer_shape : ∀ c ∈ ['>', ')', ']'],
    (Text.isWordChar c = false ∧ c ≠ '?' ∧ c ≠ '!' ∧ c ≠ '=') ∧
      c ∈ ['.', ',', '(', ')', '[', ']', '{', '}', '<', '>'] ∧
      TokenKind.ofChar c ∈ ([.gt, .rparen, .rbrack] : List TokenKind) := by
  intro c hc
  simp only [List.mem_cons, List.not_mem_nil, or_false] at hc
  rcases hc with rfl | rfl | rfl <;> decide

/-- A constant path with a list of types between an opening and a closing character, given that its
payload is such a list. -/
theorem spelling_listed (p : ConstantPath) {name : String} (hp : p.GoesBy name)
    {o c : Char} (ho : o ∈ ['<', '(', '[']) (hc : c ∈ ['>', ')', ']']) {ts : List TypeExpr}
    {t : TypeExpr}
    (hmake : ∀ {item n offset src opening toks rest}, opening.kind = .ofChar o →
      Parser.itemList item (.ofChar c) n src toks = .ok ts rest [] →
      Parser.payload item n name offset src (opening :: toks) = .ok t rest [])
    {cs : List Char} {ps : List Piece} (k : ListSpelling ts cs ps) :
    Spelling t (p.text.toList ++ ([o] ++ (cs ++ [c])))
      (p.pieces ++ ([Piece.lexeme (.ofChar o) [o]] ++ (ps ++ [Piece.lexeme (.ofChar c) [c]]))) := by
  obtain ⟨hoEnds, hoMark, hoKind⟩ := opener_shape o ho
  obtain ⟨hcEnds, hcMark, hcKind⟩ := closer_shape c hc
  refine spelling_path p hp ?_ ?_ ?_ ?_
  · intro rest hr
    exact endsName_cons hoEnds
  · intro rest hr
    refine (cuts_punctuation hoMark _).append (Cuts.append ?_ (cuts_punctuation hcMark _))
    exact k.cuts (endsName_cons hcEnds)
  · intro src toks rest hw hr
    rw [front_kind hw]
    exact hoKind
  · intro n offset src toks rest hw hl hr
    simp only [List.filterMap_append, List.map_eq_append_iff] at hw
    obtain ⟨a, b, rfl, ha, d, e, rfl, hd, he⟩ := hw
    simp only [List.filterMap_cons, Piece.word?, List.filterMap_nil, List.map_eq_cons_iff,
      List.map_eq_nil_iff] at ha he
    obtain ⟨opening, _, rfl, hopen, rfl⟩ := ha
    obtain ⟨closer, _, rfl, hclose, rfl⟩ := he
    simp only [Token.word, Prod.mk.injEq] at hopen hclose
    simp only [List.length_append, List.length_cons, List.length_nil] at hl
    have hk : closer.kind ∈ ([.gt, .rparen, .rbrack] : List TokenKind) := hclose.1 ▸ hcKind
    have h1 : Parser.itemList (Parser.typeAt n) (.ofChar c) n src (d ++ closer :: rest) =
        .ok ts rest [] := hclose.1 ▸ k.reads hd (by omega) (by omega) hk
    simpa using hmake hopen.1 h1

/-- A container with its arguments. -/
theorem spelling_generic (p : ConstantPath) (hn : p.text ≠ "NilClass") (hh : ¬ p.IsHelper)
    {ts : List TypeExpr} {cs : List Char} {ps : List Piece} (k : ListSpelling ts cs ps) :
    Spelling (.generic p.text ts) (p.text.toList ++ (['<'] ++ (cs ++ ['>'])))
      (p.pieces ++ ([Piece.lexeme .lt ['<']] ++ (ps ++ [Piece.lexeme .gt ['>']]))) := by
  refine spelling_listed p (p.goesBy_text hn hh) (o := '<') (c := '>') (by decide) (by decide) ?_ k
  intro item n offset src opening toks rest hopen hlist
  have hk : opening.kind = .lt := hopen
  have hl : Parser.itemList item .gt n src toks = .ok ts rest [] := hlist
  simp [Parser.payload, hk, hl]

/-- The constant that fixed arrays are written with. -/
def arrayPath : ConstantPath :=
  ⟨false, "Array", [], by unfold IsName; decide +kernel⟩

/-- An array of fixed size. -/
theorem spelling_tuple {ts : List TypeExpr} {cs : List Char} {ps : List Piece}
    (k : ListSpelling ts cs ps) : Spelling (.tuple ts) ("Array".toList ++ (['('] ++ (cs ++ [')'])))
      (arrayPath.pieces ++
        ([Piece.lexeme .lparen ['(']] ++ (ps ++ [Piece.lexeme .rparen [')']]))) := by
  have hp := arrayPath.goesBy_text (by decide) (by simp [ConstantPath.IsHelper, arrayPath])
  refine spelling_listed arrayPath hp (o := '(') (c := ')') (by decide) (by decide) ?_ k
  intro item n offset src opening toks rest hopen hlist
  have hk : opening.kind = .lparen := hopen
  have hl : Parser.itemList item .rparen n src toks = .ok ts rest [] := hlist
  have hname : arrayPath.text = "Array" := by decide
  simp [Parser.payload, hk, hl, hname]

/-- The key and the value of a container in braces. -/
def keyedPieces (ps qs : List Piece) : List Piece :=
  ps ++ (Piece.gap [' '] :: .lexeme .arrow ['=', '>'] :: .gap [' '] ::
    (qs ++ [Piece.lexeme .rbrace ['}']]))

theorem cuts_keyed {cs ds : List Char} {ps qs : List Piece} (hk : Form cs ps) (hv : Form ds qs)
    (rest : List Char) :
    Cuts (['{'] ++ (cs ++ ([' '] ++ (['=', '>'] ++ ([' '] ++ (ds ++ ['}']))))))
      (.lexeme .lbrace ['{'] :: keyedPieces ps qs) rest := by
  have hsp : Cuts [' '] [.gap [' ']] ((ds ++ ['}']) ++ rest) := by
    rw [List.append_assoc]
    exact cuts_space_solid hv.solid _
  have h1 := (hv.cuts (endsName_cons (by decide))).append
    (cuts_punctuation (c := '}') (by decide) rest)
  have h2 := (cuts_arrow _).append (hsp.append h1)
  have h3 := Cuts.append (cuts_space (by simp; decide)) h2
  exact (cuts_punctuation (by decide) _).append ((hk.cuts (endsName_cons (by decide))).append h3)

/-- A container of keys and values. -/
theorem spelling_keyed (p : ConstantPath) (hn : p.text ≠ "NilClass") (hh : ¬ p.IsHelper)
    {key value : TypeExpr} {cs ds : List Char} {ps qs : List Piece} (hk : Spelling key cs ps)
    (hv : Spelling value ds qs) :
    Spelling (.keyed p.text key value)
      (p.text.toList ++ (['{'] ++ (cs ++ ([' '] ++ (['=', '>'] ++ ([' '] ++ (ds ++ ['}'])))))))
      (p.pieces ++ ([Piece.lexeme .lbrace ['{']] ++ (ps ++ ([Piece.gap [' ']] ++
        ([Piece.lexeme .arrow ['=', '>']] ++
          ([Piece.gap [' ']] ++ (qs ++ [Piece.lexeme .rbrace ['}']]))))))) := by
  refine spelling_path p (p.goesBy_text hn hh) ?_ ?_ ?_ ?_
  · intro rest hr
    exact endsName_cons (by decide)
  · exact fun {rest} _ => cuts_keyed hk.toForm hv.toForm rest
  · intro src toks rest hw hr
    rw [front_kind hw]
    decide
  · intro n offset src toks rest hw hl hr
    simp only [List.filterMap_append, List.filterMap_cons, Piece.word?, List.filterMap_nil,
      List.nil_append, List.cons_append, List.map_eq_append_iff, List.map_eq_cons_iff,
      List.map_eq_nil_iff] at hw
    obtain ⟨opening, _, rfl, hopen, a, _, rfl, ha, arrow, _, rfl, harrow, b, _, rfl, hb, closer, _,
      rfl, hclose, rfl⟩ := hw
    simp only [Token.word, Prod.mk.injEq] at hopen harrow hclose
    simp only [List.length_append, List.length_cons, List.length_nil] at hl
    have h1 : Parser.typeAt n src (a ++ arrow :: (b ++ closer :: rest)) =
        .ok key (arrow :: (b ++ closer :: rest)) [] :=
      hk.reads ha (by omega) (endsType_cons src (by simp [harrow.1]))
    have h2 : Parser.typeAt n src (b ++ closer :: rest) = .ok value (closer :: rest) [] :=
      hv.reads hb (by omega) (endsType_cons src (by simp [hclose.1]))
    simp [Parser.payload, Parser.expect_run, hopen.1, harrow.1, hclose.1, h1, h2]

/-- The type that says nothing. -/
theorem spelling_untyped : Spelling .untyped "T.untyped".toList
    [.lexeme .const ['T'], .lexeme .dot ['.'], .lexeme .ident "untyped".toList] where
  cuts := by
    intro rest hr
    have hT : IsName .const ['T'] := by unfold IsName; decide +kernel
    have hu : IsName .ident "untyped".toList := by unfold IsName; decide +kernel
    have hdot : Cuts ['.'] [.lexeme .dot ['.']] ("untyped".toList ++ rest) :=
      cuts_punctuation (by decide) _
    exact (cuts_name rfl hT (endsName_cons (by decide))).append (hdot.append (cuts_name rfl hu hr))
  solid := ⟨'T', ".untyped".toList, rfl, by decide⟩
  leads := ⟨.const, "T", _, rfl, by simp⟩
  reads := by
    intro n src toks rest hw hl hr
    simp only [List.filterMap_cons, Piece.word?, List.filterMap_nil, List.map_eq_cons_iff,
      List.map_eq_nil_iff] at hw
    obtain ⟨a, _, rfl, ha, b, _, rfl, hb, d, _, rfl, hd, rfl⟩ := hw
    simp only [Token.word, Prod.mk.injEq] at ha hb hd
    obtain ⟨n, rfl⟩ : ∃ i, n = i + 1 := ⟨n - 1, by simp at hl; omega⟩
    simp [Parser.typeAt, Parser.typeStep, Parser.helperType, Parser.expect_run, ha.1, ha.2, hb.1,
      hd.1, hd.2]

end TypeTags
