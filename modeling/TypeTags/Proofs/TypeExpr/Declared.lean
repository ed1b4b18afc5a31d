import TypeTags.Proofs.Text.Trim
import TypeTags.Proofs.TypeExpr.Spelling

/-!
# Types as signatures spell them

Signatures spell a type in their own way: `T.nilable(X)`, `T.any(X, Y)`, `[X, Y]`, `T::Array[X]`,
`T::Hash[K, V]`. Every type that has such a spelling is read back from it, at any depth.

* `TypeExpr.spell`: the spelling of a type in a signature.
* `TypeExpr.Declarable`: the types whose spelling means them.

Results:
* `spelling_nilable`, `spelling_any`, `spelling_bracketed`, `spelling_scoped`, `spelling_hash`: the
  forms that only signatures have.
* `TypeExpr.Declarable.spelled`: the spelling of a declarable type is a written form of it.
* `TypeExpr.Declarable.oneLine`: and it stands on one line.
-/

namespace TypeTags

namespace TypeExpr

mutual

/-- The type as signatures spell it. -/
def spell : TypeExpr → String
  | simple name => name
  | nilable inner => "T.nilable(" ++ spell inner ++ ")"
  | union alternatives => "T.any(" ++ commaJoin (spellAll alternatives) ++ ")"
  | generic container args => "T::" ++ container ++ "[" ++ commaJoin (spellAll args) ++ "]"
  | keyed container key value =>
    "T::" ++ container ++ "[" ++ spell key ++ ", " ++ spell value ++ "]"
  | tuple elements => "[" ++ commaJoin (spellAll elements) ++ "]"
  | fixedHash => "Hash"
  | proc raw => raw
  | untyped => "T.untyped"

def spellAll : List TypeExpr → List String
  | [] => []
  | t :: ts => spell t :: spellAll ts

end

/-- A type that its spelling in a signature means. Left out are the paths that are read as something
else: `NilClass` is `nil`, a bare `Hash` is a hash without declared types, `T::X` goes by the name
`X`, and `T::Boolean` takes no arguments. -/
inductive Declarable : TypeExpr → Prop where
  | word {w : String} (h : w ∈ Parser.wordTypes) : Declarable (.simple w)
  | path (p : ConstantPath) (hn : p.text ≠ "NilClass") (hb : p.text ≠ "Hash") (hh : ¬ p.IsHelper) :
      Declarable (.simple p.text)
  | nilable {inner : TypeExpr} (h : Declarable inner) : Declarable (.nilable inner)
  | union {alternatives : List TypeExpr} (hne : alternatives ≠ [])
      (h : ∀ t ∈ alternatives, Declarable t) : Declarable (.union alternatives)
  | tuple {elements : List TypeExpr} (hne : elements ≠ []) (h : ∀ t ∈ elements, Declarable t) :
      Declarable (.tuple elements)
  | fixedHash : Declarable .fixedHash
  | untyped : Declarable .untyped
  | hash {key value : TypeExpr} (hk : Declarable key) (hv : Declarable value) :
      Declarable (.keyed "Hash" key value)
  | generic {container : String} (hc : IsName .const container.toList) (hn : container ≠ "Hash")
      (hb : container ≠ "Boolean") {args : List TypeExpr} (hne : args ≠ [])
      (h : ∀ t ∈ args, Declarable t) : Declarable (.generic container args)

end TypeExpr

/-! ## Helpers with arguments -/

theorem isName_helper : IsName .const ['T'] := by unfold IsName; decide +kernel

/-- The pieces of a helper of `T` and its arguments. -/
def helperPieces (word : String) (ps : List Piece) : List Piece :=
  [Piece.lexeme .const ['T']] ++ ([Piece.lexeme .dot ['.']] ++ ([Piece.lexeme .ident word.toList] ++
    ([Piece.lexeme .lparen ['(']] ++ (ps ++ [Piece.lexeme .rparen [')']]))))

/-- A helper of `T` with arguments in parentheses, given how it is read. -/
theorem spelling_helper {word : String} (hword : IsName .ident word.toList) {t : TypeExpr}
    {cs : List Char} {ps : List Piece} (hcuts : ∀ {rest}, EndsName rest → Cuts cs ps rest)
    (hreads : ∀ {n src first dot name opening toks closer rest}, name.word = (.ident, word) →
      opening.kind = .lparen → closer.kind = .rparen →
      toks.map Token.word = ps.filterMap Piece.word? → toks.length ≤ n →
      Parser.helperType (Parser.typeAt n) n src
        (first :: dot :: name :: opening :: (toks ++ closer :: rest)) = .ok t rest []) :
    Spelling t (['T'] ++ (['.'] ++ (word.toList ++ (['('] ++ (cs ++ [')'])))))
      (helperPieces word ps) where
  cuts := by
    intro rest hr
    have hinside := (hcuts (endsName_cons (c := ')') (by decide))).append
      (cuts_punctuation (c := ')') (by decide) rest)
    have hcall := (cuts_name rfl hword (endsName_cons (c := '(') (by decide))).append
      ((cuts_punctuation (c := '(') (by decide) _).append hinside)
    exact (cuts_name rfl isName_helper (endsName_cons (c := '.') (by decide))).append
      ((cuts_punctuation (c := '.') (by decide) _).append hcall)
  solid := ⟨'T', _, rfl, by decide⟩
  leads := ⟨.const, "T", _, rfl, by simp⟩
  reads := by
    intro n src toks rest hw hl hr
    simp only [helperPieces, List.filterMap_append, List.filterMap_cons, Piece.word?,
      List.filterMap_nil, List.nil_append, List.cons_append, List.map_eq_append_iff,
      List.map_eq_cons_iff, List.map_eq_nil_iff, String.ofList_toList] at hw
    obtain ⟨first, _, rfl, hfirst, dot, _, rfl, hdot, name, _, rfl, hname, opening, _, rfl, hopen,
      inside, _, rfl, hinside, closer, _, rfl, hclose, rfl⟩ := hw
    simp only [Token.word, Prod.mk.injEq] at hfirst hdot hopen hclose
    simp only [List.length_append, List.length_cons, List.length_nil] at hl
    obtain ⟨n, rfl⟩ : ∃ i, n = i + 1 := ⟨n - 1, by omega⟩
    have hread : Parser.helperType (Parser.typeAt n) n src
        (first :: dot :: name :: opening :: (inside ++ closer :: rest)) = .ok t rest [] :=
      hreads hname hopen.1 hclose.1 hinside (by omega)
    simpa [Parser.typeAt, Parser.typeStep, hfirst.1, hfirst.2, hdot.1] using hread

/-- A type or `nil`. -/
theorem spelling_nilable {t : TypeExpr} {cs : List Char} {ps : List Piece} (h : Spelling t cs ps) :
    Spelling (.nilable t) (['T'] ++ (['.'] ++ ("nilable".toList ++ (['('] ++ (cs ++ [')'])))))
      (helperPieces "nilable" ps) := by
  refine spelling_helper (by unfold IsName; decide +kernel) h.cuts ?_
  intro n src first dot name opening toks closer rest hname hopen hclose hw hl
  simp only [Token.word, Prod.mk.injEq] at hname
  have hinner : Parser.typeAt n src (toks ++ closer :: rest) = .ok t (closer :: rest) [] :=
    h.reads hw hl (endsType_cons src (by simp [hclose]))
  simp [Parser.helperType, Parser.argument, Parser.expect_run, hname.1, hname.2, hopen, hclose,
    hinner]

/-- A union of types. -/
theorem spelling_any {ts : List TypeExpr} {cs : List Char} {ps : List Piece}
    (k : ListSpelling ts cs ps) :
    Spelling (.union ts) (['T'] ++ (['.'] ++ ("any".toList ++ (['('] ++ (cs ++ [')'])))))
      (helperPieces "any" ps) := by
  refine spelling_helper (by unfold IsName; decide +kernel) k.cuts ?_
  intro n src first dot name opening toks closer rest hname hopen hclose hw hl
  simp only [Token.word, Prod.mk.injEq] at hname
  have hlist : Parser.itemList (Parser.typeAt n) .rparen n src (toks ++ closer :: rest) =
      .ok ts rest [] := hclose ▸ k.reads hw hl hl (by simp [hclose])
  simp [Parser.helperType, Parser.expect_run, hname.1, hname.2, hopen, hlist]

/-! ## Brackets -/

/-- An array of fixed size, in brackets. -/
theorem spelling_bracketed {ts : List TypeExpr} {cs : List Char} {ps : List Piece}
    (k : ListSpelling ts cs ps) :
    Spelling (.tuple ts) (['['] ++ (cs ++ [']']))
      ([Piece.lexeme .lbrack ['[']] ++ (ps ++ [Piece.lexeme .rbrack [']']])) where
  cuts := by
    intro rest hr
    refine (cuts_punctuation (c := '[') (by decide) _).append (Cuts.append ?_
      (cuts_punctuation (c := ']') (by decide) rest))
    exact k.cuts (endsName_cons (by decide))
  solid := ⟨'[', _, rfl, by decide⟩
  leads := ⟨.lbrack, "[", _, rfl, by simp⟩
  reads := by
    intro n src toks rest hw hl hr
    simp only [List.filterMap_append, List.filterMap_cons, Piece.word?, List.filterMap_nil,
      List.nil_append, List.cons_append, List.map_eq_append_iff, List.map_eq_cons_iff,
      List.map_eq_nil_iff] at hw
    obtain ⟨opening, _, rfl, hopen, inside, _, rfl, hinside, closer, _, rfl, hclose, rfl⟩ := hw
    simp only [Token.word, Prod.mk.injEq] at hopen hclose
    simp only [List.length_append, List.length_cons, List.length_nil] at hl
    obtain ⟨n, rfl⟩ : ∃ i, n = i + 1 := ⟨n - 1, by omega⟩
    have hlist : Parser.itemList (Parser.typeAt n) .rbrack n src (inside ++ closer :: rest) =
        .ok ts rest [] :=
      hclose.1 ▸ k.reads hinside (by omega) (by omega) (by simp [hclose.1])
    -- the first element starts like a type, so the array is not empty
    have hfront : (Parser.front src (inside ++ closer :: rest)).kind ≠ .rbrack :=
      k.front_ne_closer hinside (by decide)
    simp [Parser.typeAt, Parser.typeStep, hopen.1, hfront, hlist]

/-- The path of a container of `T`. -/
def scopedPath (container : String) (h : IsName .const container.toList) : ConstantPath where
  rooted := false
  first := "T"
  others := [container]
  lexes := by
    intro segment hs
    simp only [List.mem_cons, List.not_mem_nil, or_false] at hs
    rcases hs with rfl | rfl
    · exact isName_helper
    · exact h

theorem text_scopedPath {container : String} (h : IsName .const container.toList) :
    (scopedPath container h).text = "T::" ++ container := by
  simp [scopedPath, ConstantPath.text, String.intercalate_cons_cons]

/-- A container of `T` goes by its own name, unless it is the alias of the two truth values. -/
theorem goesBy_scopedPath {container : String} (h : IsName .const container.toList)
    (hb : container ≠ "Boolean") : (scopedPath container h).GoesBy container where
  ne_nilClass := by simp [scopedPath, ConstantPath.parts]
  ne_boolean := by simpa [scopedPath, ConstantPath.parts] using hb
  pathName_eq := rfl

/-- A container of `T` with its arguments. -/
theorem spelling_scoped {container : String} (h : IsName .const container.toList)
    (hn : container ≠ "Hash") (hb : container ≠ "Boolean") {ts : List TypeExpr} {cs : List Char}
    {ps : List Piece} (k : ListSpelling ts cs ps) :
    ∃ qs, Spelling (.generic container ts) (("T::" ++ container).toList ++ (['['] ++ (cs ++ [']'])))
      qs := by
  rw [← text_scopedPath h]
  refine ⟨_, spelling_listed (scopedPath container h) (goesBy_scopedPath h hb) (o := '[')
    (c := ']') (by decide) (by decide) ?_ k⟩
  intro item n offset src opening toks rest hopen hlist
  have hk : opening.kind = .lbrack := hopen
  have hl : Parser.itemList item .rbrack n src toks = .ok ts rest [] := hlist
  simp [Parser.payload, hk, hl, hn]

/-- A hash with the types of its keys and values. -/
theorem spelling_hash {key value : TypeExpr} {cs : List Char} {ps : List Piece}
    (k : ListSpelling [key, value] cs ps) :
    ∃ qs, Spelling (.keyed "Hash" key value) ("T::Hash".toList ++ (['['] ++ (cs ++ [']']))) qs := by
  have h : IsName .const "Hash".toList := hashPath.lexes "Hash" (by decide)
  rw [show "T::Hash" = (scopedPath "Hash" h).text by rw [text_scopedPath]; rfl]
  refine ⟨_, spelling_listed (scopedPath "Hash" h) (goesBy_scopedPath h (by decide)) (o := '[')
    (c := ']') (by decide) (by decide) ?_ k⟩
  intro item n offset src opening toks rest hopen hlist
  have hk : opening.kind = .lbrack := hopen
  have hl : Parser.itemList item .rbrack n src toks = .ok [key, value] rest [] := hlist
  simp [Parser.payload, hk, hl]

/-! ## Declarable types -/

namespace TypeExpr

theorem listSpelling_spellAll {ts : List TypeExpr} (hne : ts ≠ [])
    (h : ∀ t ∈ ts, ∃ ps, Spelling t t.spell.toList ps) :
    ∃ ps, ListSpelling ts (commaJoin (spellAll ts)).toList ps := by
  induction ts with
  | nil => exact absurd rfl hne
  | cons t ts ih =>
    obtain ⟨ps, hs⟩ := h t List.mem_cons_self
    cases ts with
    | nil =>
      refine ⟨ps, ?_⟩
      simpa [spellAll, commaJoin] using listSpelling_single hs
    | cons u us =>
      obtain ⟨qs, hq⟩ := ih (by simp) fun t ht => h t (List.mem_cons_of_mem _ ht)
      have e : (commaJoin (spellAll (t :: u :: us))).toList =
          t.spell.toList ++ ([','] ++ ([' '] ++ (commaJoin (spellAll (u :: us))).toList)) := by
        simp [spellAll, commaJoin, String.intercalate_cons_cons]
      exact ⟨_, e ▸ listSpelling_cons hs hq⟩

/-- **Types.** The spelling of a declarable type is a written form of it. -/
theorem Declarable.spelled {t : TypeExpr} (h : Declarable t) :
    ∃ ps, Spelling t t.spell.toList ps := by
  induction h with
  | word h => exact ⟨_, spelling_word h⟩
  | path p hn hb hh =>
    have hs := spelling_bare p hn hh
    rw [Parser.bare, if_neg hb] at hs
    exact ⟨_, hs⟩
  | nilable h ih =>
    obtain ⟨ps, hs⟩ := ih
    exact ⟨_, by simpa [spell] using spelling_nilable hs⟩
  | union hne h ih =>
    obtain ⟨ps, hl⟩ := listSpelling_spellAll hne ih
    exact ⟨_, by simpa [spell] using spelling_any hl⟩
  | tuple hne h ih =>
    obtain ⟨ps, hl⟩ := listSpelling_spellAll hne ih
    exact ⟨_, by simpa [spell] using spelling_bracketed hl⟩
  | fixedHash =>
    exact ⟨_, spelling_bare hashPath (by decide) (by simp [ConstantPath.IsHelper, hashPath])⟩
  | untyped => exact ⟨_, spelling_untyped⟩
  | @hash key value hk hv ihk ihv =>
    obtain ⟨ps, hks⟩ := ihk
    obtain ⟨qs, hvs⟩ := ihv
    obtain ⟨rs, hs⟩ := spelling_hash (listSpelling_cons hks (listSpelling_single hvs))
    exact ⟨rs, by simpa [spell] using hs⟩
  | generic hc hn hb hne h ih =>
    obtain ⟨ps, hl⟩ := listSpelling_spellAll hne ih
    obtain ⟨qs, hs⟩ := spelling_scoped hc hn hb hl
    exact ⟨qs, by simpa [spell] using hs⟩

end TypeExpr

/-! ## One line -/

theorem IsName.oneLine {kind : TokenKind} (hk : kind.isName) {cs : List Char} (h : IsName kind cs) :
    '\n' ∉ cs := by
  refine List.forall_mem_ne.1 (h.forall_mem hk ?_ ?_ (by decide) (by decide))
  · rintro _ hstart rfl
    exact absurd hstart (by decide)
  · rintro _ hword rfl
    exact absurd hword (by decide)

theorem intercalate_oneLine {sep : String} (hs : '\n' ∉ sep.toList) {parts : List String}
    (h : ∀ part ∈ parts, '\n' ∉ part.toList) : '\n' ∉ (String.intercalate sep parts).toList := by
  have hparts : ∀ part ∈ parts, ∀ c ∈ part.toList, '\n' ≠ c :=
    fun part hp => List.forall_mem_ne.2 (h part hp)
  exact List.forall_mem_ne.1 (Text.forall_mem_intercalate (List.forall_mem_ne.2 hs) hparts)

namespace TypeExpr

theorem commaJoin_oneLine {ts : List TypeExpr} (h : ∀ t ∈ ts, '\n' ∉ t.spell.toList) :
    '\n' ∉ (commaJoin (spellAll ts)).toList := by
  refine intercalate_oneLine (by decide) ?_
  induction ts with
  | nil => simp [spellAll]
  | cons t ts ih =>
    rw [spellAll]
    exact List.forall_mem_cons.2
      ⟨h t List.mem_cons_self, ih fun u hu => h u (List.mem_cons_of_mem _ hu)⟩

theorem Declarable.oneLine {t : TypeExpr} (h : Declarable t) : '\n' ∉ t.spell.toList := by
  induction h with
  | word h => exact (isName_wordTypes _ h).oneLine rfl
  | path p =>
    have hpath : '\n' ∉ (String.intercalate "::" (p.first :: p.others)).toList :=
      intercalate_oneLine (by decide) fun part hp => (p.lexes part hp).oneLine rfl
    rw [spell, ConstantPath.text, String.toList_append, List.mem_append, not_or]
    exact ⟨by split <;> decide, hpath⟩
  | nilable h ih => simp [spell, ih]
  | union hne h ih => simp [spell, commaJoin_oneLine ih]
  | tuple hne h ih => simp [spell, commaJoin_oneLine ih]
  | fixedHash => decide
  | untyped => decide
  | hash hk hv ihk ihv => simp [spell, ihk, ihv]
  | generic hc hn hb hne h ih => simp [spell, hc.oneLine rfl, commaJoin_oneLine ih]

end TypeExpr

end TypeTags
