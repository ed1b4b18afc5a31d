import TypeTags.Proofs.TypeExpr.RoundTrip
import Mathlib.Data.List.Forall2

/-!
# Reading back what a type is shown as

A type that may be `nil` or a union is shown as several strings, and inside a collection only some
of them are left: the first one of an argument, all those of a union. What a string says is less
than the type it comes from; but it is a type of its own, and shows as itself. There is one
exception. The key or the value of a container of keys and values may be a union as well, and then
a comma stands where the reader waits for the arrow or the closing brace. Such a string is refused.

* `TypeExpr.Displayable`: the types that are shown, with `nil` and unions at any place.
* `TypeExpr.readings`: what each string of a type is read as, if it is read.
* `TypeExpr.singlyKeyed`: no key and no value is a union of several strings.

Results:
* `refused_keyed`: a key or a value of several types is refused.
* `listForm_of_shown`: the strings of an argument list, put together, are read or refused as one.
* `TypeExpr.Displayable.isShown`: every string of a type is a form of its reading, or refused.
* `TypeExpr.render_stable`: what is accepted shows as itself, and in a singly keyed type every
  string is accepted.
-/

namespace TypeTags

/-! ## Forms that are refused -/

/-- No type is read from the tokens of the pieces, whatever follows them. -/
def Fails (ps : List Piece) : Prop :=
  ∀ {n src toks rest}, toks.map Token.word = ps.filterMap Piece.word? → toks.length ≤ n →
    ∃ fault, Parser.typeAt n src (toks ++ rest) = .fail fault []

/-- No list of types is read from the tokens of the pieces, whatever follows them. -/
def ListFails (ps : List Piece) : Prop :=
  ∀ {m n src toks rest} {closer : TokenKind}, toks.map Token.word = ps.filterMap Piece.word? →
    toks.length ≤ m → toks.length ≤ n → closer ∈ ([.gt, .rparen, .rbrack] : List TokenKind) →
    ∃ fault, Parser.itemList (Parser.typeAt m) closer n src (toks ++ rest) = .fail fault []

/-- A reading that fails or stops in front of a comma. -/
def Halted (o : Outcome TypeExpr) : Prop :=
  (∃ fault, o = .fail fault []) ∨
    ∃ t comma later, comma.kind = TokenKind.comma ∧ o = .ok t (comma :: later) []

/-- Reading one type from the tokens of the pieces fails or stops in front of a comma. -/
def Halts (ps : List Piece) : Prop :=
  ∀ {n src toks rest}, toks.map Token.word = ps.filterMap Piece.word? → toks.length ≤ n →
    Halted (Parser.typeAt n src (toks ++ rest))

theorem Fails.halts {ps : List Piece} (h : Fails ps) : Halts ps :=
  fun hw hl => .inl (h hw hl)

theorem Fails.halts_cons {ps qs : List Piece} (h : Fails ps) : Halts (ps ++ (commaGap ++ qs)) := by
  intro n src toks rest hw hl
  obtain ⟨a, comma, b, rfl, ha, -, -⟩ := tokens_commaGap hw
  rw [List.append_assoc]
  rw [List.length_append] at hl
  exact .inl (h ha (by omega))

theorem Spelling.halts_cons {t : TypeExpr} {cs : List Char} {ps qs : List Piece}
    (h : Spelling t cs ps) : Halts (ps ++ (commaGap ++ qs)) := by
  intro n src toks rest hw hl
  obtain ⟨a, comma, b, rfl, ha, hcomma, -⟩ := tokens_commaGap hw
  rw [List.append_assoc]
  rw [List.length_append] at hl
  refine .inr ⟨t, comma, b ++ rest, hcomma, h.reads ha (by omega) ?_⟩
  exact endsType_cons src (by simp [hcomma])

theorem Fails.list {ps : List Piece} (h : Fails ps) : ListFails ps := by
  intro m n src toks rest closer hw hm hn hc
  obtain ⟨fault, hf⟩ : ∃ fault, Parser.typeAt m src (toks ++ rest) = .fail fault [] := h hw hm
  exact ⟨fault, by simp [Parser.itemList, hf]⟩

theorem Fails.list_cons {ps qs : List Piece} (h : Fails ps) :
    ListFails (ps ++ (commaGap ++ qs)) := by
  intro m n src toks rest closer hw hm hn hc
  obtain ⟨a, comma, b, rfl, ha, -, -⟩ := tokens_commaGap hw
  rw [List.length_append] at hm
  rw [List.append_assoc]
  exact h.list ha (by omega) (by rw [List.length_append] at hn; omega) hc

theorem ListFails.cons {t : TypeExpr} {cs : List Char} {ps : List Piece} (h : Spelling t cs ps)
    {ds : List Char} {qs : List Piece} (hform : Form ds qs) (k : ListFails qs) :
    ListFails (ps ++ (commaGap ++ qs)) := by
  intro m n src toks rest closer hw hm hn hc
  obtain ⟨a, comma, b, rfl, ha, hcomma, hb⟩ := tokens_commaGap hw
  simp only [List.length_append, List.length_cons] at hm hn
  obtain ⟨n, rfl⟩ : ∃ i, n = i + 1 := ⟨n - 1, by omega⟩
  -- the next form starts with a name, so the list goes on behind the comma
  have hnext : (Parser.front src (b ++ rest)).kind ≠ closer := hform.front_ne_closer hb hc
  have h1 : Parser.typeAt m src (a ++ comma :: (b ++ rest)) = .ok t (comma :: (b ++ rest)) [] :=
    h.reads ha (by omega) (endsType_cons src (by simp [hcomma]))
  obtain ⟨fault, h2⟩ : ∃ fault, Parser.itemList (Parser.typeAt m) closer n src (b ++ rest) =
      .fail fault [] := k hb (by omega) (by omega) hc
  refine ⟨fault, ?_⟩
  have h3 := listTail_comma (Parser.typeAt m) n src hcomma hnext
  simp only [Parser.itemList, List.append_assoc, List.cons_append]
  rw [Parser.bind_ok h1, Outcome.after_nil, Parser.bind_fail (h3.trans h2)]

/-! ### Constants with a payload -/

/-- A constant path whose payload, opened by the given character, cannot be read. -/
theorem fails_path (p : ConstantPath) (hn : p.text ≠ "NilClass") (hh : ¬ p.IsHelper) {o : Char}
    (ho : TokenKind.ofChar o ∉ ([.dot, .scope] : List TokenKind)) {ps : List Piece}
    (hpayload : ∀ {n offset src opening toks rest}, opening.kind = TokenKind.ofChar o →
      toks.map Token.word = ps.filterMap Piece.word? → toks.length ≤ n →
      ∃ fault, Parser.payload (Parser.typeAt n) n p.text offset src (opening :: (toks ++ rest)) =
        .fail fault []) :
    Fails (p.pieces ++ (.lexeme (.ofChar o) [o] :: ps)) := by
  intro n src toks rest hw hl
  rw [List.filterMap_append, List.map_eq_append_iff] at hw
  obtain ⟨a, b, rfl, ha, hb⟩ := hw
  simp only [List.filterMap_cons, Piece.word?, List.map_eq_cons_iff] at hb
  obtain ⟨opening, b, rfl, hopen, hb⟩ := hb
  simp only [Token.word, Prod.mk.injEq] at hopen
  simp only [List.length_append, List.length_cons] at hl
  obtain ⟨n, rfl⟩ : ∃ i, n = i + 1 := ⟨n - 1, by omega⟩
  have hfront : (Parser.front src (opening :: (b ++ rest))).kind ∉
      ([.dot, .scope] : List TokenKind) := by
    rw [Parser.front_cons, hopen.1]
    exact ho
  simp only [List.mem_cons, List.not_mem_nil, or_false, not_or] at hfront
  obtain ⟨offset, he⟩ :=
    p.typeStep_run (p.goesBy_text hn hh) (Parser.typeAt n) n src ha hfront.2 hfront.1
  rw [List.append_assoc, List.cons_append]
  obtain ⟨fault, hf⟩ : ∃ fault, Parser.payload (Parser.typeAt n) n p.text offset src
      (opening :: (b ++ rest)) = .fail fault [] := hpayload hopen.1 hb (by omega)
  exact ⟨fault, he.trans hf⟩

/-- A list of types that cannot be read, between an opening and a closing character, given that the
payload of the path is such a list. -/
theorem refused_listed (p : ConstantPath) (hn : p.text ≠ "NilClass") (hh : ¬ p.IsHelper)
    {o c : Char} (ho : o ∈ ['<', '(', '[']) (hc : c ∈ ['>', ')', ']'])
    (hpayload : ∀ {item n offset src opening toks fault}, opening.kind = TokenKind.ofChar o →
      Parser.itemList item (.ofChar c) n src toks = .fail fault [] →
      Parser.payload item n p.text offset src (opening :: toks) = .fail fault [])
    {cs : List Char} {ps : List Piece} (k : Form cs ps) (hfails : ListFails ps) :
    ∃ qs, Form (p.text.toList ++ ([o] ++ (cs ++ [c]))) qs ∧ Fails qs := by
  obtain ⟨hoEnds, hoMark, hoKind⟩ := opener_shape o ho
  obtain ⟨hcEnds, hcMark, hcKind⟩ := closer_shape c hc
  refine ⟨p.pieces ++ (Piece.lexeme (.ofChar o) [o] ::
    (ps ++ [Piece.lexeme (.ofChar c) [c]])), ?_, ?_⟩
  · refine p.form (fun _ => endsName_cons hoEnds) fun hr => ?_
    refine (cuts_punctuation hoMark _).append (Cuts.append ?_ (cuts_punctuation hcMark _))
    exact k.cuts (endsName_cons hcEnds)
  · refine fails_path p hn hh hoKind ?_
    intro n offset src opening toks rest hopen hw hl
    rw [List.filterMap_append, List.map_eq_append_iff] at hw
    obtain ⟨a, b, rfl, ha, -⟩ := hw
    rw [List.length_append] at hl
    obtain ⟨fault, hf⟩ : ∃ fault, Parser.itemList (Parser.typeAt n) (.ofChar c) n src
        (a ++ (b ++ rest)) = .fail fault [] := hfails ha (by omega) (by omega) hcKind
    rw [List.append_assoc]
    exact ⟨fault, hpayload hopen hf⟩

/-- A container of keys and values whose key, or whose value, is more than one type or none. -/
theorem refused_keyed (p : ConstantPath) (hn : p.text ≠ "NilClass") (hh : ¬ p.IsHelper)
    {cs ds : List Char} {ps qs : List Piece} (hk : Form cs ps) (hv : Form ds qs)
    (h : Halts ps ∨ (∃ key, Spelling key cs ps) ∧ Halts qs) :
    ∃ rs, Form (p.text.toList ++
        (['{'] ++ (cs ++ ([' '] ++ (['=', '>'] ++ ([' '] ++ (ds ++ ['}']))))))) rs ∧ Fails rs := by
  refine ⟨p.pieces ++ (Piece.lexeme (.ofChar '{') ['{'] :: keyedPieces ps qs), ?_, ?_⟩
  · exact p.form (fun _ => endsName_cons (by decide)) fun {rest} _ => cuts_keyed hk hv rest
  · refine fails_path p hn hh (by decide) ?_
    intro n offset src opening toks rest hopen hw hl
    have hbrace : opening.kind = .lbrace := hopen
    simp only [keyedPieces, List.filterMap_append, List.filterMap_cons, Piece.word?,
      List.filterMap_nil, List.map_eq_append_iff, List.map_eq_cons_iff, List.map_eq_nil_iff] at hw
    obtain ⟨a, _, rfl, ha, arrow, _, rfl, harrow, b, _, rfl, hb, closer, _, rfl, hclose, rfl⟩ := hw
    simp only [Token.word, Prod.mk.injEq] at harrow hclose
    simp only [List.length_append, List.length_cons, List.length_nil] at hl
    simp only [List.append_assoc, List.cons_append, List.nil_append]
    rcases h with hhalt | ⟨⟨key, hkey⟩, hhalt⟩
    · have hread : Halted (Parser.typeAt n src (a ++ arrow :: (b ++ closer :: rest))) :=
        hhalt ha (by omega)
      rcases hread with ⟨fault, hf⟩ | ⟨t, comma, later, hcomma, hf⟩
      · exact ⟨fault, by simp [Parser.payload, hbrace, hf]⟩
      · exact ⟨⟨.expected .arrow comma.value, some comma.start⟩,
          by simp [Parser.payload, Parser.expect_run, hbrace, hf, hcomma]⟩
    · have h1 : Parser.typeAt n src (a ++ arrow :: (b ++ closer :: rest)) =
          .ok key (arrow :: (b ++ closer :: rest)) [] :=
        hkey.reads ha (by omega) (endsType_cons src (by simp [harrow.1]))
      have hread : Halted (Parser.typeAt n src (b ++ closer :: rest)) := hhalt hb (by omega)
      rcases hread with ⟨fault, hf⟩ | ⟨t, comma, later, hcomma, hf⟩
      · exact ⟨fault, by simp [Parser.payload, Parser.expect_run, hbrace, harrow.1, h1, hf]⟩
      · exact ⟨⟨.expected .braceClosing comma.value, some comma.start⟩,
          by simp [Parser.payload, Parser.expect_run, hbrace, harrow.1, h1, hf, hcomma]⟩

namespace TypeExpr

/-! ## What the strings are read as -/

/-- What a type puts among the arguments of a collection: everything that a union has, and the first
of anything else. -/
def contributed {α : Type} (isUnion : Bool) (shown : List α) : List α :=
  if isUnion then shown else shown.take 1

/-- The values of a list, if there is no gap in it. -/
def together {α : Type} : List (Option α) → Option (List α)
  | [] => some []
  | none :: _ => none
  | some a :: rest => (together rest).map (a :: ·)

/-- The reading of a container with these keys and values: it takes one of each. -/
def keyedReading (container : String) : List (Option TypeExpr) → List (Option TypeExpr) →
    Option TypeExpr
  | [some key], [some value] => some (.keyed container key value)
  | _, _ => none

mutual

/-- What each string of a type is read as, in order; nothing for a string that is refused. -/
def readings : TypeExpr → List (Option TypeExpr)
  | nilable inner => readings inner ++ [some (.simple "nil")]
  | union alternatives => readingsAll alternatives
  | generic container args => [(together (argumentReadings args)).map (.generic container)]
  | keyed container key value =>
    [keyedReading container (contributed key.isUnion (readings key))
      (contributed value.isUnion (readings value))]
  | tuple elements => [(together (argumentReadings elements)).map .tuple]
  | simple name => [some (.simple name)]
  | fixedHash => [some .fixedHash]
  | proc raw => [some (.proc raw)]
  | untyped => [some .untyped]

def readingsAll : List TypeExpr → List (Option TypeExpr)
  | [] => []
  | t :: ts => readings t ++ readingsAll ts

/-- The readings of what is left of the arguments of a collection. -/
def argumentReadings : List TypeExpr → List (Option TypeExpr)
  | [] => []
  | t :: ts => contributed t.isUnion (readings t) ++ argumentReadings ts

end

/-- Whether the type puts one string where a collection has a place for one. -/
def isSingle (t : TypeExpr) : Bool := !t.isUnion || t.render.length == 1

mutual

/-- Whether every key and every value of the type, at any depth, is one string. -/
def singlyKeyed : TypeExpr → Bool
  | nilable inner => singlyKeyed inner
  | union alternatives => singlyKeyedAll alternatives
  | generic _ args => singlyKeyedAll args
  | keyed _ key value => key.isSingle && value.isSingle && singlyKeyed key && singlyKeyed value
  | tuple elements => singlyKeyedAll elements
  | simple _ | fixedHash | proc _ | untyped => true

def singlyKeyedAll : List TypeExpr → Bool
  | [] => true
  | t :: ts => singlyKeyed t && singlyKeyedAll ts

end

theorem singlyKeyedAll_iff {ts : List TypeExpr} :
    singlyKeyedAll ts = true ↔ ∀ t ∈ ts, t.singlyKeyed = true := by
  induction ts with
  | nil => simp [singlyKeyedAll]
  | cons t ts ih => simp [singlyKeyedAll, ih]

theorem together_some {α : Type} {l : List (Option α)} {as : List α} (h : together l = some as) :
    l = as.map some := by
  induction l generalizing as with
  | nil => simp_all [together]
  | cons o l ih =>
    cases o with
    | none => simp [together] at h
    | some a =>
      simp only [together, Option.map_eq_some_iff] at h
      obtain ⟨bs, hb, rfl⟩ := h
      rw [ih hb, List.map_cons]

theorem together_none {α : Type} {l : List (Option α)} : together l = none ↔ none ∈ l := by
  induction l with
  | nil => simp [together]
  | cons o l ih => cases o <;> simp [together, ih]

theorem mem_contributed {α : Type} {isUnion : Bool} {l : List α} {a : α}
    (h : a ∈ contributed isUnion l) : a ∈ l := by
  unfold contributed at h
  split at h
  · exact h
  · exact List.mem_of_mem_take h

theorem contributed_ne_nil {α : Type} (isUnion : Bool) {l : List α} (h : l ≠ []) :
    contributed isUnion l ≠ [] := by
  cases l with
  | nil => exact absurd rfl h
  | cons a l => cases isUnion <;> simp [contributed]

/-! ### The text of an argument list -/

theorem commaJoin_cons {s : String} {l : List String} (h : l ≠ []) :
    commaJoin (s :: l) = s ++ ", " ++ commaJoin l :=
  String.intercalate_cons_of_ne_nil h

theorem commaJoin_append {l m : List String} (hl : l ≠ []) (hm : m ≠ []) :
    commaJoin (l ++ m) = commaJoin l ++ ", " ++ commaJoin m :=
  String.intercalate_append_of_ne_nil hl hm

theorem argumentText_eq {isUnion : Bool} {types : List String} (h : types ≠ []) :
    argumentText isUnion types = commaJoin (contributed isUnion types) := by
  cases isUnion with
  | true => rfl
  | false =>
    obtain ⟨s, types, rfl⟩ := List.exists_cons_of_ne_nil h
    simp [argumentText, contributed, commaJoin]

/-- What is left of the arguments of a collection, as one list of strings. -/
def shownArguments (ts : List TypeExpr) : List String :=
  ts.flatMap fun t => contributed t.isUnion t.render

theorem shownArguments_ne_nil {ts : List TypeExpr} (hne : ts ≠ []) (h : ∀ t ∈ ts, t.render ≠ []) :
    shownArguments ts ≠ [] := by
  obtain ⟨t, ts, rfl⟩ := List.exists_cons_of_ne_nil hne
  have ht := contributed_ne_nil t.isUnion (h t List.mem_cons_self)
  simp [shownArguments, ht]

theorem commaJoin_arguments {ts : List TypeExpr} (h : ∀ t ∈ ts, t.render ≠ []) :
    commaJoin (arguments ts) = commaJoin (shownArguments ts) := by
  induction ts with
  | nil => rfl
  | cons t ts ih =>
    have ht := h t List.mem_cons_self
    have hts : ∀ u ∈ ts, u.render ≠ [] := fun u hu => h u (List.mem_cons_of_mem _ hu)
    have hc := contributed_ne_nil t.isUnion ht
    rw [arguments, argumentText_eq ht]
    cases ts with
    | nil => simp [arguments, shownArguments, commaJoin]
    | cons u us =>
      rw [commaJoin_cons (by simp [arguments]), ih hts]
      exact (commaJoin_append hc (shownArguments_ne_nil (by simp) hts)).symm

/-! ## Each string is read or refused -/

/-- The string is a written form of its reading and all that the reading is shown as, or, without a
reading, it is a form that is refused. -/
def Shown (s : String) : Option TypeExpr → Prop
  | some t => t.isUnion = false ∧ t.render = [s] ∧ ∃ ps, Spelling t s.toList ps
  | none => ∃ ps, Form s.toList ps ∧ Fails ps

end TypeExpr

open TypeExpr

/-- Strings with commas between them, given what each is read as: they are a list of types if each
of them is one, no list of types if one of them is refused, and only a single one is one type. -/
structure ListForm (readings : List (Option TypeExpr)) (cs : List Char) (ps : List Piece) :
    Prop where
  form : Form cs ps
  spells : ∀ {ts}, readings = ts.map some → ListSpelling ts cs ps
  single : ∀ {t}, readings = [some t] → Spelling t cs ps
  fails : none ∈ readings → ListFails ps
  halts : (∀ t, readings ≠ [some t]) → Halts ps

theorem listForm_single {s : String} {o : Option TypeExpr} (h : Shown s o) :
    ∃ ps, ListForm [o] s.toList ps := by
  cases o with
  | some t =>
    obtain ⟨-, -, ps, hs⟩ := h
    refine ⟨ps, hs.toForm, ?_, ?_, by simp, fun hne => absurd rfl (hne t)⟩
    · intro ts hts
      obtain rfl : ts = [t] := by
        simpa [List.map_eq_singleton_iff] using hts.symm
      exact listSpelling_single hs
    · intro u hu
      obtain rfl : t = u := by simpa using hu
      exact hs
  | none =>
    obtain ⟨ps, hf, hfails⟩ := h
    refine ⟨ps, hf, ?_, by simp, fun _ => hfails.list, fun _ => hfails.halts⟩
    intro ts hts
    cases ts <;> simp at hts

theorem ListForm.cons {s : String} {o : Option TypeExpr} {os : List (Option TypeExpr)}
    {cs : List Char} {ps : List Piece} (h : Shown s o) (k : ListForm os cs ps) (hne : os ≠ []) :
    ∃ qs, ListForm (o :: os) (s.toList ++ ([','] ++ ([' '] ++ cs))) qs := by
  have hmany : ∀ t, o :: os ≠ [some t] := by
    intro t e
    simp only [List.cons.injEq] at e
    exact hne e.2
  cases o with
  | some t =>
    obtain ⟨-, -, qs, hs⟩ := h
    refine ⟨qs ++ (commaGap ++ ps), hs.toForm.cons k.form, ?_, fun e => absurd e (hmany _), ?_,
      fun _ => hs.halts_cons⟩
    · intro ts hts
      cases ts with
      | nil => simp at hts
      | cons u us =>
        simp only [List.map_cons, List.cons.injEq, Option.some.injEq] at hts
        obtain ⟨rfl, hus⟩ := hts
        exact listSpelling_cons hs (k.spells hus)
    · intro hmem
      exact ListFails.cons hs k.form (k.fails (by simpa using hmem))
  | none =>
    obtain ⟨qs, hf, hfails⟩ := h
    refine ⟨qs ++ (commaGap ++ ps), hf.cons k.form, ?_, fun e => absurd e (hmany _),
      fun _ => hfails.list_cons, fun _ => hfails.halts_cons⟩
    intro ts hts
    cases ts <;> simp at hts

/-- Strings that are each read or refused, with commas between them. -/
theorem listForm_of_shown {l : List String} {os : List (Option TypeExpr)} (hne : l ≠ [])
    (h : List.Forall₂ Shown l os) : ∃ ps, ListForm os (commaJoin l).toList ps := by
  induction h with
  | nil => exact absurd rfl hne
  | @cons s o l os hs hrest ih =>
    cases hrest with
    | nil => simpa [commaJoin] using listForm_single hs
    | @cons s' o' l' os' hs' hrest' =>
      obtain ⟨ps, hps⟩ := ih (by simp)
      have e : (commaJoin (s :: s' :: l')).toList =
          s.toList ++ ([','] ++ ([' '] ++ (commaJoin (s' :: l')).toList)) := by
        rw [commaJoin_cons (by simp)]
        simp
      rw [e]
      exact hps.cons hs (by simp)

namespace TypeExpr

/-- The types that are shown: the names and containers are those that are read as themselves, and
`nil` and unions stand at any place. -/
inductive Displayable : TypeExpr → Prop where
  | word {w : String} (h : w ∈ Parser.wordTypes) : Displayable (.simple w)
  | path (p : ConstantPath) (hn : p.text ≠ "NilClass") (hb : p.text ≠ "Hash") (hh : ¬ p.IsHelper) :
      Displayable (.simple p.text)
  | fixedHash : Displayable .fixedHash
  | untyped : Displayable .untyped
  | nilable {inner : TypeExpr} (h : Displayable inner) : Displayable (.nilable inner)
  | union {alternatives : List TypeExpr} (hne : alternatives ≠ [])
      (h : ∀ t ∈ alternatives, Displayable t) : Displayable (.union alternatives)
  | tuple {elements : List TypeExpr} (hne : elements ≠ []) (h : ∀ t ∈ elements, Displayable t) :
      Displayable (.tuple elements)
  | generic (p : ConstantPath) (hn : p.text ≠ "NilClass") (hh : ¬ p.IsHelper)
      {args : List TypeExpr} (hne : args ≠ []) (h : ∀ t ∈ args, Displayable t) :
      Displayable (.generic p.text args)
  | keyed (p : ConstantPath) (hn : p.text ≠ "NilClass") (hh : ¬ p.IsHelper) {key value : TypeExpr}
      (hk : Displayable key) (hv : Displayable value) : Displayable (.keyed p.text key value)

/-- Every string of the type is read or refused as its reading says, and there is one. -/
def IsShown (t : TypeExpr) : Prop := t.render ≠ [] ∧ List.Forall₂ Shown t.render t.readings

theorem IsShown.contributed {t : TypeExpr} (h : IsShown t) :
    List.Forall₂ Shown (contributed t.isUnion t.render) (contributed t.isUnion t.readings) := by
  unfold TypeExpr.contributed
  split
  · exact h.2
  · exact List.forall₂_take 1 h.2

theorem shown_renderAll {ts : List TypeExpr} (h : ∀ t ∈ ts, IsShown t) :
    List.Forall₂ Shown (renderAll ts) (readingsAll ts) := by
  induction ts with
  | nil => exact .nil
  | cons t ts ih =>
    exact List.rel_append (h t List.mem_cons_self).2
      (ih fun u hu => h u (List.mem_cons_of_mem _ hu))

theorem shown_arguments {ts : List TypeExpr} (h : ∀ t ∈ ts, IsShown t) :
    List.Forall₂ Shown (shownArguments ts) (argumentReadings ts) := by
  induction ts with
  | nil => exact .nil
  | cons t ts ih =>
    exact List.rel_append (h t List.mem_cons_self).contributed
      (ih fun u hu => h u (List.mem_cons_of_mem _ hu))

/-- What is left of the arguments of a collection, put together. -/
theorem listForm_arguments {ts : List TypeExpr} (hne : ts ≠ []) (h : ∀ t ∈ ts, IsShown t) :
    ∃ ps, ListForm (argumentReadings ts) (commaJoin (arguments ts)).toList ps := by
  have hr : ∀ t ∈ ts, t.render ≠ [] := fun t ht => (h t ht).1
  rw [commaJoin_arguments hr]
  exact listForm_of_shown (shownArguments_ne_nil hne hr) (shown_arguments h)

/-- A type that a collection has one place for. -/
theorem IsShown.listForm {t : TypeExpr} (h : IsShown t) :
    ∃ ps, ListForm (TypeExpr.contributed t.isUnion t.readings)
      (argumentText t.isUnion t.render).toList ps := by
  rw [argumentText_eq h.1]
  exact listForm_of_shown (contributed_ne_nil t.isUnion h.1) h.contributed

/-- A collection with one string is shown if the string is read as its only reading says. -/
theorem isShown_single {t : TypeExpr} {s : String} {o : Option TypeExpr} (hr : t.render = [s])
    (ho : t.readings = [o]) (h : Shown s o) : IsShown t := by
  rw [IsShown, hr, ho]
  exact ⟨by simp, .cons h .nil⟩

/-- A documented type that is not put together is read as itself. -/
theorem Documented.isShown {t : TypeExpr} (h : Documented t) (hr : t.readings = [some t]) :
    IsShown t := by
  obtain ⟨s, ps, hu, he, hs⟩ := h.spelled
  exact isShown_single he hr ⟨hu, he, ps, hs⟩

/-- Types that are each all that a string is read as are shown as these strings. -/
theorem arguments_of_shown {l : List String} {ts : List TypeExpr}
    (h : List.Forall₂ Shown l (ts.map some)) : arguments ts = l := by
  induction ts generalizing l with
  | nil => cases h; rfl
  | cons t ts ih =>
    cases h with
    | cons hs hrest =>
      obtain ⟨hu, hr, -⟩ := hs
      rw [arguments, hu, hr, ih hrest]
      rfl

/-- A collection, given how its text is made from that of its arguments, and that it is read, or
refused, as the list of its arguments is. -/
theorem shown_collection (make : List TypeExpr → TypeExpr) (wrap : String → String)
    (around : List Char → List Char) (htext : ∀ s, (wrap s).toList = around s.toList)
    (hrender : ∀ ts, (make ts).isUnion = false ∧
      (make ts).render = [wrap (commaJoin (arguments ts))])
    (hspells : ∀ {ts cs ps}, ListSpelling ts cs ps → ∃ qs, Spelling (make ts) (around cs) qs)
    (hrefused : ∀ {cs ps}, Form cs ps → ListFails ps → ∃ qs, Form (around cs) qs ∧ Fails qs)
    {args : List TypeExpr} (hne : args ≠ []) (h : ∀ t ∈ args, IsShown t) :
    Shown (wrap (commaJoin (arguments args))) ((together (argumentReadings args)).map make) := by
  obtain ⟨ps, hl⟩ := listForm_arguments hne h
  cases ht : together (argumentReadings args) with
  | some ts =>
    -- the arguments that are left are types that are shown as themselves
    have hread : argumentReadings args = ts.map some := together_some ht
    have hargs : arguments ts = shownArguments args :=
      arguments_of_shown (hread ▸ shown_arguments h)
    refine ⟨(hrender ts).1, ?_, ?_⟩
    · rw [(hrender ts).2, hargs, ← commaJoin_arguments fun t ht => (h t ht).1]
    · rw [htext]
      exact hspells (hl.spells hread)
  | none =>
    have hfails : ListFails ps := hl.fails (together_none.1 ht)
    simp only [Option.map_none, Shown, htext]
    exact hrefused hl.form hfails

theorem shown_generic (p : ConstantPath) (hn : p.text ≠ "NilClass") (hh : ¬ p.IsHelper)
    {args : List TypeExpr} (hne : args ≠ []) (h : ∀ t ∈ args, IsShown t) :
    Shown (p.text ++ "<" ++ commaJoin (arguments args) ++ ">")
      ((together (argumentReadings args)).map (.generic p.text)) := by
  refine shown_collection (.generic p.text) (fun s => p.text ++ "<" ++ s ++ ">")
    (fun cs => p.text.toList ++ (['<'] ++ (cs ++ ['>']))) ?_ ?_ ?_ ?_ hne h
  · intro s; simp
  · intro ts; exact ⟨rfl, by rw [render]⟩
  · intro ts cs ps hl; exact ⟨_, spelling_generic p hn hh hl⟩
  · intro cs ps hf hl
    refine refused_listed p hn hh (by decide) (by decide) ?_ hf hl
    intro item n offset src opening toks fault hopen hlist
    have hk : opening.kind = .lt := hopen
    have hfail : Parser.itemList item .gt n src toks = .fail fault [] := hlist
    simp [Parser.payload, hk, hfail]

theorem shown_tuple {elements : List TypeExpr} (hne : elements ≠ [])
    (h : ∀ t ∈ elements, IsShown t) :
    Shown ("Array(" ++ commaJoin (arguments elements) ++ ")")
      ((together (argumentReadings elements)).map .tuple) := by
  refine shown_collection .tuple (fun s => "Array(" ++ s ++ ")")
    (fun cs => "Array".toList ++ (['('] ++ (cs ++ [')']))) ?_ ?_ ?_ ?_ hne h
  · intro s; simp
  · intro ts; exact ⟨rfl, by rw [render]⟩
  · intro ts cs ps hl; exact ⟨_, spelling_tuple hl⟩
  · intro cs ps hf hl
    refine refused_listed arrayPath (by decide) (by simp [ConstantPath.IsHelper, arrayPath])
      (by decide) (by decide) ?_ hf hl
    intro item n offset src opening toks fault hopen hlist
    have hk : opening.kind = .lparen := hopen
    have hfail : Parser.itemList item .rparen n src toks = .fail fault [] := hlist
    have hname : arrayPath.text = "Array" := by decide
    simp [Parser.payload, hk, hfail, hname]

/-- A reading that a collection has one place for is shown as the text that stands there. -/
theorem IsShown.single {t u : TypeExpr} (h : IsShown t)
    (hu : TypeExpr.contributed t.isUnion t.readings = [some u]) :
    u.isUnion = false ∧ u.render = [argumentText t.isUnion t.render] := by
  have hs := h.contributed
  rw [hu, List.forall₂_cons_right_iff] at hs
  obtain ⟨s, l, ⟨hno, hr, -⟩, hl, he⟩ := hs
  cases hl
  rw [argumentText_eq h.1, he]
  exact ⟨hno, by simpa [commaJoin] using hr⟩

theorem keyedReading_eq_none {container : String} {ks vs : List (Option TypeExpr)}
    (h : ∀ k v, ks = [some k] → vs ≠ [some v]) : keyedReading container ks vs = none := by
  unfold keyedReading
  split
  · exact absurd rfl (h _ _ rfl)
  · rfl

theorem shown_keyed (p : ConstantPath) (hn : p.text ≠ "NilClass") (hh : ¬ p.IsHelper)
    {key value : TypeExpr} (hk : IsShown key) (hv : IsShown value) :
    Shown (p.text ++ "\x7b" ++ argumentText key.isUnion key.render ++ " => "
        ++ argumentText value.isUnion value.render ++ "\x7d")
      (keyedReading p.text (TypeExpr.contributed key.isUnion key.readings)
        (TypeExpr.contributed value.isUnion value.readings)) := by
  have e : ∀ k v : String, (p.text ++ "\x7b" ++ k ++ " => " ++ v ++ "\x7d").toList =
      p.text.toList ++ (['{'] ++
        (k.toList ++ ([' '] ++ (['=', '>'] ++ ([' '] ++ (v.toList ++ ['}'])))))) := by
    intro k v
    simp
  obtain ⟨ps, hkl⟩ := hk.listForm
  obtain ⟨qs, hvl⟩ := hv.listForm
  by_cases hkey : ∃ k, TypeExpr.contributed key.isUnion key.readings = [some k]
  · obtain ⟨k, hkr⟩ := hkey
    by_cases hval : ∃ v, TypeExpr.contributed value.isUnion value.readings = [some v]
    · obtain ⟨v, hvr⟩ := hval
      have hspell := spelling_keyed p hn hh (hkl.single hkr) (hvl.single hvr)
      rw [← e] at hspell
      have hread : keyedReading p.text (TypeExpr.contributed key.isUnion key.readings)
          (TypeExpr.contributed value.isUnion value.readings) = some (.keyed p.text k v) := by
        rw [hkr, hvr]
        rfl
      rw [hread]
      refine ⟨rfl, ?_, _, hspell⟩
      rw [render, (hk.single hkr).1, (hk.single hkr).2, (hv.single hvr).1, (hv.single hvr).2]
      rfl
    · rw [keyedReading_eq_none fun k v _ h => hval ⟨v, h⟩, Shown, e]
      have hhalts : Halts qs := hvl.halts fun v h => hval ⟨v, h⟩
      exact refused_keyed p hn hh hkl.form hvl.form (.inr ⟨⟨k, hkl.single hkr⟩, hhalts⟩)
  · rw [keyedReading_eq_none fun k v h _ => hkey ⟨k, h⟩, Shown, e]
    have hhalts : Halts ps := hkl.halts fun k h => hkey ⟨k, h⟩
    exact refused_keyed p hn hh hkl.form hvl.form (.inl hhalts)

/-- Every string of a displayable type is a written form of its reading or is refused. -/
theorem Displayable.isShown {t : TypeExpr} (h : Displayable t) : IsShown t := by
  induction h with
  | word h => exact (Documented.word h).isShown (by rw [readings])
  | path p hn hb hh => exact (Documented.path p hn hb hh).isShown (by rw [readings])
  | fixedHash => exact Documented.fixedHash.isShown (by rw [readings])
  | untyped => exact Documented.untyped.isShown (by rw [readings])
  | nilable h ih =>
    have hnil : Shown "nil" (some (.simple "nil")) :=
      ⟨rfl, by rw [render], _, spelling_word (by decide)⟩
    rw [IsShown, render, readings]
    exact ⟨by simp, List.rel_append ih.2 (.cons hnil .nil)⟩
  | @union alternatives hne h ih =>
    refine ⟨?_, by rw [render, readings]; exact shown_renderAll ih⟩
    obtain ⟨t, ts, rfl⟩ := List.exists_cons_of_ne_nil hne
    have ht := (ih t List.mem_cons_self).1
    simp [render, renderAll, ht]
  | tuple hne h ih => exact isShown_single (by rw [render]) (by rw [readings]) (shown_tuple hne ih)
  | generic p hn hh hne h ih =>
    exact isShown_single (by rw [render]) (by rw [readings]) (shown_generic p hn hh hne ih)
  | keyed p hn hh hk hv ihk ihv =>
    exact isShown_single (by rw [render]) (by rw [readings]) (shown_keyed p hn hh ihk ihv)

/-! ## Singly keyed types -/

/-- One string has one reading. -/
theorem IsShown.contributed_single {t : TypeExpr} (h : IsShown t) (hs : t.isSingle = true)
    (hnone : none ∉ t.readings) :
    ∃ u, TypeExpr.contributed t.isUnion t.readings = [some u] := by
  have hlen : (TypeExpr.contributed t.isUnion t.readings).length = 1 := by
    rw [← h.contributed.length_eq]
    have hpos := List.length_pos_iff.2 h.1
    simp only [isSingle, Bool.or_eq_true, Bool.not_eq_true', beq_iff_eq] at hs
    rcases hs with hs | hs
    · simp only [TypeExpr.contributed, hs, Bool.false_eq_true, if_false, List.length_take]
      omega
    · simp only [TypeExpr.contributed, apply_ite List.length, hs, List.length_take]
      simp
  obtain ⟨o, ho⟩ := List.length_eq_one_iff.1 hlen
  cases o with
  | some u => exact ⟨u, ho⟩
  | none => exact absurd (mem_contributed (ho ▸ List.mem_singleton.2 rfl)) hnone

theorem mem_readingsAll {ts : List TypeExpr} {o : Option TypeExpr} :
    o ∈ readingsAll ts ↔ ∃ t ∈ ts, o ∈ t.readings := by
  induction ts with
  | nil => simp [readingsAll]
  | cons t ts ih => simp [readingsAll, ih]

theorem mem_argumentReadings {ts : List TypeExpr} {o : Option TypeExpr}
    (h : o ∈ argumentReadings ts) : ∃ t ∈ ts, o ∈ t.readings := by
  induction ts with
  | nil => simp [argumentReadings] at h
  | cons t ts ih =>
    rw [argumentReadings, List.mem_append] at h
    rcases h with h | h
    · exact ⟨t, List.mem_cons_self, mem_contributed h⟩
    · obtain ⟨u, hu, ho⟩ := ih h
      exact ⟨u, List.mem_cons_of_mem _ hu, ho⟩

/-- Nothing that a collection is read as is missing if nothing is missing in its arguments. -/
theorem together_map_ne_none {make : List TypeExpr → TypeExpr} {ts : List TypeExpr}
    (h : ∀ t ∈ ts, none ∉ t.readings) :
    none ∉ [(together (argumentReadings ts)).map make] := by
  intro hnone
  rw [List.mem_singleton, eq_comm, Option.map_eq_none_iff, together_none] at hnone
  obtain ⟨t, ht, hn⟩ := mem_argumentReadings hnone
  exact h t ht hn

/-- No string of a singly keyed type is refused. -/
theorem Displayable.none_notMem {t : TypeExpr} (h : Displayable t) (hs : t.singlyKeyed = true) :
    none ∉ t.readings := by
  induction h with
  | word h => simp [readings]
  | path p hn hb hh => simp [readings]
  | fixedHash => simp [readings]
  | untyped => simp [readings]
  | nilable h ih =>
    rw [singlyKeyed] at hs
    simpa [readings] using ih hs
  | union hne h ih =>
    rw [singlyKeyed, singlyKeyedAll_iff] at hs
    rw [readings, mem_readingsAll]
    rintro ⟨t, ht, hn⟩
    exact ih t ht (hs t ht) hn
  | tuple hne h ih =>
    rw [singlyKeyed, singlyKeyedAll_iff] at hs
    rw [readings]
    exact together_map_ne_none fun t ht => ih t ht (hs t ht)
  | generic p hn hh hne h ih =>
    rw [singlyKeyed, singlyKeyedAll_iff] at hs
    rw [readings]
    exact together_map_ne_none fun t ht => ih t ht (hs t ht)
  | keyed p hn hh hk hv ihk ihv =>
    simp only [singlyKeyed, Bool.and_eq_true] at hs
    obtain ⟨⟨⟨hks, hvs⟩, hkk⟩, hvk⟩ := hs
    obtain ⟨k, hkr⟩ := hk.isShown.contributed_single hks (ihk hkk)
    obtain ⟨v, hvr⟩ := hv.isShown.contributed_single hvs (ihv hvk)
    simp [readings, hkr, hvr, keyedReading]

/-! ## Reading the strings back -/

theorem parse_of_fails {s : String} {ps : List Piece} (h : Form s.toList ps) (hfails : Fails ps) :
    ∃ fault, TypeExpr.parse s = .error fault := by
  have hcut := (h.cuts endsName_nil).cut_eq
  obtain ⟨fault, hread⟩ : ∃ fault, Parser.type ⟨s.toList, s.toList.length⟩
      (Token.locate 0 1 ps).dropLast = .fail fault [] := by
    rw [Parser.type, ← List.append_nil (Token.locate 0 1 ps).dropLast]
    exact hfails (words_locate 0 1 ps) (by simp)
  exact ⟨fault, by simp only [TypeExpr.parse, tokenize_of_cut hcut, hread]⟩

/-- The string is read as the type and is all that the type is shown as, or it is refused. -/
def ReadsAs (s : String) : Option TypeExpr → Prop
  | some t => TypeExpr.parse s = .ok t ∧ t.render = [s]
  | none => ∃ fault, TypeExpr.parse s = .error fault

theorem Shown.readsAs {s : String} {o : Option TypeExpr} (h : Shown s o) : ReadsAs s o := by
  cases o with
  | some t =>
    obtain ⟨-, hr, ps, hs⟩ := h
    exact ⟨parse_of_spelling hs, hr⟩
  | none =>
    obtain ⟨ps, hf, hfails⟩ := h
    exact parse_of_fails hf hfails

/-- **Stable spellings.** Each string of a type, with `nil` and unions at any place, is read as the
reading at its place, which is shown as that string alone; a string without a reading is refused. No
string is refused where every key and every value of a container is one string. -/
theorem render_stable {t : TypeExpr} (h : Displayable t) :
    List.Forall₂ ReadsAs t.render t.readings ∧
      (t.singlyKeyed = true → ∀ s ∈ t.render, ∃ u, TypeExpr.parse s = .ok u ∧ u.render = [s]) := by
  have hall : List.Forall₂ ReadsAs t.render t.readings := h.isShown.2.imp fun _ _ => Shown.readsAs
  refine ⟨hall, fun hs s hmem => ?_⟩
  obtain ⟨i, hi, rfl⟩ := List.mem_iff_getElem.1 hmem
  have hi' : i < t.readings.length := hall.length_eq ▸ hi
  have hread : ReadsAs t.render[i] t.readings[i] := hall.get hi hi'
  cases ho : t.readings[i] with
  | some u =>
    rw [ho] at hread
    exact ⟨u, hread⟩
  | none => exact absurd (ho ▸ List.getElem_mem hi') (h.none_notMem hs)

/-- A hash or `nil`: its keys may be `nil`, and its values are arrays of a union. -/
def looseType : TypeExpr :=
  .nilable (.keyed "Hash" (.nilable (.simple "String"))
    (.generic "Array" [.union [.simple "Integer", .nilable (.simple "Symbol")]]))

theorem displayable_looseType : Displayable looseType := by
  have hname : ∀ w ∈ ["String", "Integer", "Symbol"],
      IsName .const w.toList ∧ w ≠ "NilClass" ∧ w ≠ "Hash" := by
    unfold IsName
    decide +kernel
  have hsimple : ∀ w ∈ ["String", "Integer", "Symbol"], Displayable (.simple w) := by
    intro w hw
    obtain ⟨hlex, hn, hb⟩ := hname w hw
    have h := Displayable.path ⟨false, w, [], by simpa using hlex⟩ (by simpa [ConstantPath.text])
      (by simpa [ConstantPath.text]) (by simp [ConstantPath.IsHelper])
    simpa [ConstantPath.text] using h
  have hunion : Displayable (.union [.simple "Integer", .nilable (.simple "Symbol")]) := by
    refine .union (by simp) ?_
    simp [hsimple, Displayable.nilable]
  refine .nilable (.keyed hashPath (by decide) (by simp [ConstantPath.IsHelper, hashPath])
    (.nilable (hsimple _ (by simp))) ?_)
  refine .generic arrayPath (by decide) (by simp [ConstantPath.IsHelper, arrayPath]) (by simp) ?_
  simpa using hunion

theorem render_stable_looseType : Displayable looseType ∧
    looseType.render = ["Hash\x7bString => Array<Integer, Symbol, nil>\x7d", "nil"] ∧
    ∀ s ∈ looseType.render, ∃ u, TypeExpr.parse s = .ok u ∧ u.render = [s] :=
  ⟨displayable_looseType, by decide +kernel,
    (render_stable displayable_looseType).2 (by decide +kernel)⟩

-- a union of keys is shown with a comma in front of the arrow, where no type can go on
example : (TypeExpr.keyed "Hash" (.union [.simple "String", .simple "Symbol"]) .untyped).readings =
    [none] := rfl

end TypeExpr

end TypeTags
