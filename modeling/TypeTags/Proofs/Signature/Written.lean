import TypeTags.Proofs.Segment.BraceBlock
import TypeTags.Proofs.Signature.Accepted
import TypeTags.Proofs.TypeExpr.Declared

/-!
# Written signatures

A signature is written as a chain of calls with dots between them: its modifiers, its parameters if
it has any, and what it returns. Reading the chain gives the signature back, and so does reading the
block around it.

The text is followed call by call: `CallForm` says how one call is cut and what it adds to the
signature so far, `ChainForm` the same of the calls up to the end.

* `Signature.Spells`: a text that is a spelling of a signature.
* `Signature.Declarable`: the signatures that their spellings mean.

Results:
* `paramForm_of_declarable`: a parameter list is read back.
* `chainForm_cons`: a call in front of a chain.
* `Signature.Declarable.chainForm`: a spelling is read as its signature.
* `Signature.parse_spelled`: alone and in a block, on one line.
-/

namespace TypeTags

/-! ## Spellings -/

namespace Signature

inductive Modifier where
  /-- With the reason that is given for it. -/
  | abstract (reason : Option String)
  | overridable
  | override

def Modifier.spell : Modifier → String
  | abstract none => "abstract"
  | abstract (some reason) => "abstract(\"" ++ reason ++ "\")"
  | overridable => "overridable"
  | override => "override"

def modifiers (sig : Signature) : List Modifier :=
  (if sig.abstract then [Modifier.abstract sig.abstractText] else []) ++
    ((if sig.overridable then [Modifier.overridable] else []) ++
      if sig.override then [Modifier.override] else [])

def paramText (param : String × TypeExpr) : String := param.1 ++ ": " ++ param.2.spell

/-- The call that declares the parameters, if there are any. -/
def paramCalls (sig : Signature) : List String :=
  if sig.params = [] then []
  else ["params(" ++ TypeExpr.commaJoin (sig.params.map paramText) ++ ")"]

def terminator (sig : Signature) : String :=
  match sig.returns with
  | some t => "returns(" ++ t.spell ++ ")"
  | none => "void"

/-- The text is a spelling of the signature: its modifiers in some order, its parameters and what it
returns, with dots between them. -/
def Spells (sig : Signature) (text : String) : Prop :=
  ∃ mods : List Modifier, mods.Perm sig.modifiers ∧ text =
    String.intercalate "." (mods.map Modifier.spell ++ (sig.paramCalls ++ [sig.terminator]))

/-- A signature that its spellings mean. -/
structure Declarable (sig : Signature) : Prop where
  /-- Exactly one of a returned type and `void` is declared. -/
  ended : sig.isVoid = sig.returns.isNone
  nodup : sig.paramNames.Nodup
  /-- Every parameter is named by one name of the lexer. -/
  named : ∀ name ∈ sig.paramNames, IsName .ident name.toList ∨ IsName .const name.toList
  reasoned : sig.abstractText.isSome → sig.abstract
  /-- The reason can stand in double quotes as it is. -/
  quotable : ∀ reason ∈ sig.abstractText, ∀ c ∈ reason.toList, c ≠ '"' ∧ c ≠ '\\' ∧ c ≠ '\n'
  params : ∀ param ∈ sig.params, param.2.Declarable
  returns : ∀ t ∈ sig.returns, t.Declarable

end Signature

/-! ## Parameters -/

theorem Spelling.type_run {t : TypeExpr} {cs : List Char} {ps : List Piece} (h : Spelling t cs ps)
    {src : Source} {toks rest : List Token} (hw : toks.map Token.word = ps.filterMap Piece.word?)
    (hr : EndsType src rest) : Parser.type src (toks ++ rest) = .ok t rest [] := by
  rw [Parser.type]
  exact h.reads hw (by simp) hr

/-- A colon in front of a space. -/
theorem cuts_colon (rest : List Char) : Cuts [':'] [.lexeme .colon [':']] (' ' :: rest) :=
  cuts_piece (p := .lexeme .colon [':']) rfl fun glued => by cases glued <;> rfl

section ParamList

variable {known : List String} {n : Nat} {src : Source} {name colon : Token}
  {toks rest : List Token} {declared : TypeExpr} (hname : name.kind.isName)
  (hcolon : colon.kind = .colon) (hnew : name.value ∉ known)

include hname hcolon hnew

/-- The last parameter of a list. -/
theorem paramList_last {closer : Token}
    (htype : Parser.type src toks = .ok declared (closer :: rest) []) (hc : closer.kind = .rparen) :
    Parser.paramList known (n + 1) src (name :: colon :: toks) =
      .ok [(name.value, declared)] rest [] := by
  have hk : name.kind ≠ .rparen := by
    intro e
    rw [e] at hname
    cases hname
  simp [Parser.paramList, Parser.accept_run, Parser.expect_run, hk, hname, hcolon, hnew, htype, hc]

/-- A parameter in front of others. -/
theorem paramList_more {comma : Token} {others : List (String × TypeExpr)} {left : List Token}
    (htype : Parser.type src toks = .ok declared (comma :: rest) []) (hc : comma.kind = .comma)
    (hothers : Parser.paramList (name.value :: known) n src rest = .ok others left []) :
    Parser.paramList known (n + 1) src (name :: colon :: toks) =
      .ok ((name.value, declared) :: others) left [] := by
  have hk : name.kind ≠ .rparen := by
    intro e
    rw [e] at hname
    cases hname
  simp [Parser.paramList, Parser.accept_run, Parser.expect_run, hk, hname, hcolon, hnew, htype, hc,
    hothers]

end ParamList

/-- The characters `cs`, cut into the pieces `ps`, declare the parameters. -/
structure ParamForm (params : List (String × TypeExpr)) (cs : List Char) (ps : List Piece) :
    Prop where
  cuts : ∀ {rest}, EndsName rest → Cuts cs ps rest
  solid : ∃ c ds, cs = c :: ds ∧ Text.isBlank c = false
  reads : ∀ {known n src toks closer rest}, toks.map Token.word = ps.filterMap Piece.word? →
    toks.length ≤ n → (∀ param ∈ params, param.1 ∉ known) → (params.map (·.1)).Nodup →
    closer.kind = .rparen →
    Parser.paramList known n src (toks ++ closer :: rest) = .ok params rest []

def paramPieces (kind : TokenKind) (name : String) (ps : List Piece) : List Piece :=
  [Piece.lexeme kind name.toList] ++ ([Piece.lexeme .colon [':']] ++ ([Piece.gap [' ']] ++ ps))

/-- The tokens of a parameter in front of others. -/
theorem tokens_param {kind : TokenKind} (hk : kind.isName) {name : String} {ps qs : List Piece}
    {toks : List Token}
    (hw : toks.map Token.word = (paramPieces kind name ps ++ qs).filterMap Piece.word?) :
    ∃ (label colon : Token) (typeToks more : List Token),
      toks = label :: colon :: (typeToks ++ more) ∧ label.kind.isName ∧ label.value = name ∧
      colon.kind = TokenKind.colon ∧ typeToks.map Token.word = ps.filterMap Piece.word? ∧
      more.map Token.word = qs.filterMap Piece.word? := by
  simp only [paramPieces, List.cons_append, List.nil_append, List.filterMap_cons, Piece.word?,
    List.filterMap_append, List.map_eq_cons_iff, List.map_eq_append_iff,
    String.ofList_toList] at hw
  obtain ⟨label, _, rfl, hlabel, colon, _, rfl, hcolon, typeToks, more, rfl, htype, hmore⟩ := hw
  simp only [Token.word, Prod.mk.injEq] at hlabel hcolon
  exact ⟨label, colon, typeToks, more, rfl, hlabel.1 ▸ hk, hlabel.2, hcolon.1, htype, hmore⟩

section ParamForms

variable {name : String} {kind : TokenKind} (hk : kind.isName) (hname : IsName kind name.toList)
  {t : TypeExpr} {cs : List Char} {ps : List Piece} (h : Spelling t cs ps)

include hk hname h

theorem cuts_param {rest : List Char} (hr : EndsName rest) :
    Cuts (name.toList ++ ([':'] ++ ([' '] ++ cs))) (paramPieces kind name ps) rest := by
  refine (cuts_name hk hname (ConstantPath.endsName_colon _)).append ?_
  exact (cuts_colon _).append ((cuts_space_solid h.solid rest).append (h.cuts hr))

theorem paramForm_single : ParamForm [(name, t)] (name.toList ++ ([':'] ++ ([' '] ++ cs)))
    (paramPieces kind name ps) where
  cuts := cuts_param hk hname h
  solid := solid_append (hname.solid hk) _
  reads := by
    intro known n src toks closer rest hw hl hnew _ hc
    rw [← List.append_nil (paramPieces _ _ _)] at hw
    obtain ⟨label, colon, typeToks, more, rfl, hlabel, rfl, hcolon, htype, hmore⟩ :=
      tokens_param hk hw
    obtain rfl : more = [] := by simpa using hmore
    obtain ⟨n, rfl⟩ : ∃ i, n = i + 1 := ⟨n - 1, by simp at hl; omega⟩
    rw [List.append_nil]
    have hread : Parser.type src (typeToks ++ closer :: rest) = .ok t (closer :: rest) [] :=
      h.type_run htype (endsType_cons src (by simp [hc]))
    exact paramList_last hlabel hcolon (hnew _ List.mem_cons_self) hread hc

theorem paramForm_cons {params : List (String × TypeExpr)} {ds : List Char} {qs : List Piece}
    (k : ParamForm params ds qs) :
    ParamForm ((name, t) :: params)
      (name.toList ++ ([':'] ++ ([' '] ++ cs)) ++ ([','] ++ ([' '] ++ ds)))
      (paramPieces kind name ps ++ (commaGap ++ qs)) where
  cuts := fun {rest} hr => (cuts_param hk hname h (endsName_cons (c := ',') (by decide))).append
    (cuts_commaGap k.solid (k.cuts hr))
  solid := solid_append (solid_append (hname.solid hk) _) _
  reads := by
    intro known n src toks closer rest hw hl hnew hnodup hc
    obtain ⟨label, colon, typeToks, more, rfl, hlabel, rfl, hcolon, htype, hmore⟩ :=
      tokens_param hk hw
    simp only [commaGap, List.cons_append, List.nil_append, List.filterMap_cons, Piece.word?,
      List.map_eq_cons_iff] at hmore
    obtain ⟨comma, others, rfl, hcomma, hothers⟩ := hmore
    simp only [Token.word, Prod.mk.injEq] at hcomma
    simp only [List.length_append, List.length_cons] at hl
    obtain ⟨n, rfl⟩ : ∃ i, n = i + 1 := ⟨n - 1, by omega⟩
    rw [List.map_cons, List.nodup_cons] at hnodup
    have hread : Parser.type src (typeToks ++ comma :: (others ++ closer :: rest)) =
        .ok t (comma :: (others ++ closer :: rest)) [] :=
      h.type_run htype (endsType_cons src (by simp [hcomma.1]))
    -- the later names differ from this one and from the ones before it
    have hlater : ∀ param ∈ params, param.1 ∉ label.value :: known := by
      intro param hp hm
      rcases List.mem_cons.1 hm with he | hm
      · exact hnodup.1 (List.mem_map.2 ⟨param, hp, he⟩)
      · exact hnew param (List.mem_cons_of_mem _ hp) hm
    have hrest : Parser.paramList (label.value :: known) n src (others ++ closer :: rest) =
        .ok params rest [] := k.reads hothers (by omega) hlater hnodup.2 hc
    have hlist := paramList_more hlabel hcolon (hnew _ List.mem_cons_self) hread hcomma.1 hrest
    simpa using hlist

end ParamForms

/-- **Parameter lists.** Declarable parameters are read back. -/
theorem paramForm_of_declarable {params : List (String × TypeExpr)} (hne : params ≠ [])
    (hn : ∀ param ∈ params, IsName .ident param.1.toList ∨ IsName .const param.1.toList)
    (ht : ∀ param ∈ params, param.2.Declarable) :
    ∃ ps, ParamForm params (TypeExpr.commaJoin (params.map Signature.paramText)).toList ps := by
  induction params with
  | nil => exact absurd rfl hne
  | cons param params ih =>
    obtain ⟨name, t⟩ := param
    obtain ⟨kind, hk, hname⟩ : ∃ kind : TokenKind, kind.isName ∧ IsName kind name.toList := by
      rcases hn _ List.mem_cons_self with h | h
      · exact ⟨.ident, rfl, h⟩
      · exact ⟨.const, rfl, h⟩
    obtain ⟨qs, hs⟩ := (ht _ List.mem_cons_self).spelled
    cases params with
    | nil =>
      refine ⟨paramPieces kind name qs, ?_⟩
      simpa [TypeExpr.commaJoin, Signature.paramText] using paramForm_single hk hname hs
    | cons next params =>
      obtain ⟨ps, hl⟩ := ih (by simp) (fun p hp => hn p (List.mem_cons_of_mem _ hp))
        fun p hp => ht p (List.mem_cons_of_mem _ hp)
      refine ⟨paramPieces kind name qs ++ (commaGap ++ ps), ?_⟩
      simpa [TypeExpr.commaJoin, Signature.paramText, String.intercalate_cons_cons] using
        paramForm_cons hk hname hs hl

/-! ## Calls -/

/-- The characters `cs`, cut into the pieces `ps`, are a call of the given name, which turns one
signature into another. -/
structure CallForm (name : String) (before after : Signature) (cs : List Char) (ps : List Piece) :
    Prop where
  cuts : ∀ {rest}, EndsName rest → Cuts cs ps rest
  solid : ∃ c ds, cs = c :: ds ∧ Text.isBlank c = false
  leads : ∃ words, ps.filterMap Piece.word? = (.ident, name) :: words
  reads : ∀ {src word args rest}, (word :: args).map Token.word = ps.filterMap Piece.word? →
    (Parser.front src rest).kind ≠ .lparen →
    Parser.call before name src (args ++ rest) = .ok after rest []

section Calls

variable {name : String} (hname : IsName .ident name.toList) {before after : Signature}

include hname

/-- A call without arguments. -/
theorem callForm_bare (hreads : ∀ {src rest}, (Parser.front src rest).kind ≠ .lparen →
      Parser.call before name src rest = .ok after rest []) :
    CallForm name before after name.toList [.lexeme .ident name.toList] where
  cuts := cuts_name rfl hname
  solid := hname.solid rfl
  leads := ⟨[], by simp [Piece.word?]⟩
  reads := by
    intro src word args rest hw hr
    simp only [List.filterMap_cons, Piece.word?, List.filterMap_nil, List.map_cons,
      List.cons.injEq, List.map_eq_nil_iff] at hw
    obtain ⟨-, rfl⟩ := hw
    exact hreads hr

/-- A call with arguments in parentheses. -/
theorem callForm_args {cs : List Char} {ps : List Piece}
    (hcuts : ∀ {rest}, EndsName rest → Cuts cs ps rest)
    (hreads : ∀ {src opening toks closer rest}, opening.kind = .lparen → closer.kind = .rparen →
      toks.map Token.word = ps.filterMap Piece.word? →
      Parser.call before name src (opening :: (toks ++ closer :: rest)) = .ok after rest []) :
    CallForm name before after (name.toList ++ (['('] ++ (cs ++ [')'])))
      ([Piece.lexeme .ident name.toList] ++ ([Piece.lexeme .lparen ['(']] ++
        (ps ++ [Piece.lexeme .rparen [')']])))
      where
  cuts := by
    intro rest hr
    have hinside := (hcuts (endsName_cons (c := ')') (by decide))).append
      (cuts_punctuation (c := ')') (by decide) rest)
    exact (cuts_name rfl hname (endsName_cons (c := '(') (by decide))).append
      ((cuts_punctuation (c := '(') (by decide) _).append hinside)
  solid := solid_append (hname.solid rfl) _
  leads := by
    rw [List.filterMap_append]
    exact ⟨_, by simp only [List.filterMap_cons, Piece.word?, String.ofList_toList]; rfl⟩
  reads := by
    intro src word args rest hw hr
    simp only [List.cons_append, List.nil_append, List.filterMap_cons, List.filterMap_append,
      Piece.word?, List.filterMap_nil, List.map_cons, List.cons.injEq, List.map_eq_cons_iff,
      List.map_eq_append_iff, List.map_eq_nil_iff] at hw
    obtain ⟨-, opening, _, rfl, hopen, toks, _, rfl, htoks, closer, _, rfl, hclose, rfl⟩ := hw
    simp only [Token.word, Prod.mk.injEq] at hopen hclose
    have hread : Parser.call before name src (opening :: (toks ++ closer :: rest)) =
        .ok after rest [] := hreads hopen.1 hclose.1 htoks
    simpa using hread

end Calls

/-! ### Modifiers -/

/-- A string literal without quotes and backslashes inside. -/
theorem cuts_string {body : List Char} (h : ∀ c ∈ body, c ≠ '"' ∧ c ≠ '\\') (rest : List Char) :
    Cuts ('"' :: (body ++ ['"'])) [.lexeme .string ('"' :: (body ++ ['"']))] rest := by
  refine cuts_piece (p := .lexeme .string ('"' :: (body ++ ['"']))) rfl fun glued => ?_
  have hcut := (LiteralBody.of_plain h).stringTail_eq (by decide) rest
  rw [firstPiece_quote (.inr rfl), List.append_assoc, List.singleton_append, hcut]
  rfl

theorem isName_calls :
    ∀ name ∈ ["abstract", "overridable", "override", "params", "returns", "void"],
      IsName .ident name.toList := by
  unfold IsName; decide +kernel

namespace Signature

def Modifier.apply (sig : Signature) : Modifier → Signature
  | abstract reason => { sig with abstract := true, abstractText := reason }
  | overridable => { sig with overridable := true }
  | override => { sig with override := true }

/-- A reason, if there is one, can stand in double quotes as it is. -/
def Modifier.Quotable : Modifier → Prop
  | abstract reason => ∀ text ∈ reason, ∀ c ∈ text.toList, c ≠ '"' ∧ c ≠ '\\' ∧ c ≠ '\n'
  | _ => True

/-- **Modifiers.** Each is a call that neither ends the chain nor opens a block. -/
theorem Modifier.callForm {m : Modifier} (h : m.Quotable) (sig : Signature) :
    ∃ name ps, CallForm name sig (m.apply sig) m.spell.toList ps ∧
      Parser.isTerminator name = false ∧ name ≠ "sig" := by
  match m with
  | overridable =>
    refine ⟨"overridable", _, callForm_bare (isName_calls _ (by simp)) ?_, rfl, by decide⟩
    intro src rest hr
    simp [Parser.call, Parser.modifierArguments, hr, Modifier.apply]
  | override =>
    refine ⟨"override", _, callForm_bare (isName_calls _ (by simp)) ?_, rfl, by decide⟩
    intro src rest hr
    simp [Parser.call, Parser.modifierArguments, hr, Modifier.apply]
  | abstract none =>
    refine ⟨"abstract", _, callForm_bare (isName_calls _ (by simp)) ?_, rfl, by decide⟩
    intro src rest hr
    simp [Parser.call, Parser.stringArgument, Parser.modifierArguments, hr, Modifier.apply]
  | abstract (some reason) =>
    have hplain : ∀ c ∈ reason.toList, c ≠ '"' ∧ c ≠ '\\' := fun c hc =>
      ⟨(h reason rfl c hc).1, (h reason rfl c hc).2.1⟩
    have e : (Modifier.spell (.abstract (some reason))).toList = "abstract".toList ++
        (['('] ++ ('"' :: (reason.toList ++ ['"']) ++ [')'])) := by
      simp [Modifier.spell]
    rw [e]
    refine ⟨"abstract", _, callForm_args (isName_calls _ (by simp))
      (fun {rest} _ => cuts_string hplain rest) ?_, rfl, by decide⟩
    · intro src opening toks closer rest hopen hclose hw
      simp only [List.filterMap_cons, Piece.word?, List.filterMap_nil, List.map_eq_cons_iff,
        List.map_eq_nil_iff] at hw
      obtain ⟨literal, _, rfl, hliteral, rfl⟩ := hw
      simp only [Token.word, Prod.mk.injEq] at hliteral
      simp [Parser.call, Parser.stringArgument, Parser.modifierArguments, Parser.group, matchGroup,
        TokenKind.closer?, TokenKind.isCloser, hopen, hclose, hliteral, Modifier.apply]

/-! ### Parameters and the end -/

theorem callForm_params {sig : Signature} (h : sig.Declarable) (hne : sig.params ≠ [])
    (before : Signature) (hb : before.params = []) :
    ∃ ps, CallForm "params" before { before with params := sig.params }
      ("params(" ++ TypeExpr.commaJoin (sig.params.map paramText) ++ ")").toList ps := by
  obtain ⟨ps, hform⟩ := paramForm_of_declarable hne
    (fun param hp => h.named param.1 (List.mem_map_of_mem hp)) h.params
  have e : ("params(" ++ TypeExpr.commaJoin (sig.params.map paramText) ++ ")").toList =
      "params".toList ++ (['('] ++
        ((TypeExpr.commaJoin (sig.params.map paramText)).toList ++ [')'])) := by
    simp
  rw [e]
  refine ⟨_, callForm_args (isName_calls _ (by simp)) hform.cuts ?_⟩
  · intro src opening toks closer rest hopen hclose hw
    have hread : Parser.paramList [] (toks.length + (rest.length + 1)) src
        (toks ++ closer :: rest) = .ok sig.params rest [] :=
      hform.reads hw (by omega) (by simp) h.nodup hclose
    simp [Parser.call, Parser.params, Parser.expect_run, hopen, hb, hread]

theorem callForm_terminator {sig : Signature} (h : sig.Declarable) (before : Signature)
    (hr : before.returns = none) (hv : before.isVoid = false) :
    ∃ name ps, CallForm name before { before with returns := sig.returns, isVoid := sig.isVoid }
      sig.terminator.toList ps ∧ Parser.isTerminator name = true := by
  have hended := h.ended
  unfold terminator
  cases hs : sig.returns with
  | none =>
    rw [hs] at hended
    refine ⟨"void", _, callForm_bare (isName_calls _ (by simp)) ?_, rfl⟩
    intro src rest _
    simp [Parser.call, hended, hr]
  | some t =>
    rw [hs] at hended
    obtain ⟨ps, hform⟩ := (h.returns t hs).spelled
    have e : ("returns(" ++ t.spell ++ ")").toList =
        "returns".toList ++ (['('] ++ (t.spell.toList ++ [')'])) := by
      simp
    simp only [e]
    refine ⟨"returns", _, callForm_args (isName_calls _ (by simp)) hform.cuts ?_, rfl⟩
    · intro src opening toks closer rest hopen hclose hw
      have hread : Parser.type src (toks ++ closer :: rest) = .ok t (closer :: rest) [] :=
        hform.type_run hw (endsType_cons src (by simp [hclose]))
      simp [Parser.call, Parser.argument, Parser.expect_run, hopen, hclose, hread, hended, hv]

end Signature

/-! ## Chains -/

/-- The characters `cs`, cut into the pieces `ps`, are calls up to the end of a chain, which turn
one signature into another. -/
structure ChainForm (before after : Signature) (cs : List Char) (ps : List Piece) : Prop where
  cuts : ∀ {rest}, EndsName rest → Cuts cs ps rest
  solid : ∃ c ds, cs = c :: ds ∧ Text.isBlank c = false
  leads : ∃ name words, ps.filterMap Piece.word? = (.ident, name) :: words ∧ name ≠ "sig"
  reads : ∀ {n src toks}, toks.map Token.word = ps.filterMap Piece.word? → toks.length ≤ n →
    Parser.chain before n src toks = .ok after [] []

section Chains

variable {name : String} {before mid after : Signature} {cs ds : List Char} {ps qs : List Piece}

/-- The call that ends a chain. -/
theorem chainForm_end (h : CallForm name before after cs ps) (hn : Parser.isTerminator name) :
    ChainForm before after cs ps where
  cuts := h.cuts
  solid := h.solid
  leads := by
    obtain ⟨words, hw⟩ := h.leads
    refine ⟨name, words, hw, ?_⟩
    rintro rfl
    cases hn
  reads := by
    intro n src toks hw hl
    obtain ⟨words, hlead⟩ := h.leads
    obtain ⟨word, args, rfl, hword, -⟩ := List.map_eq_cons_iff.1 (hw.trans hlead)
    simp only [Token.word, Prod.mk.injEq] at hword
    obtain ⟨n, rfl⟩ : ∃ i, n = i + 1 := ⟨n - 1, by simp at hl; omega⟩
    have hcall : Parser.call before name src (args ++ []) = .ok after [] [] :=
      h.reads hw (by simp [Token.endMark])
    rw [List.append_nil] at hcall
    simp [Parser.chain, Parser.expect_run, hword.1, hword.2, hcall, hn]

/-- A call in front of a chain. -/
theorem chainForm_cons (h : CallForm name before mid cs ps)
    (hn : Parser.isTerminator name = false) (hs : name ≠ "sig") (k : ChainForm mid after ds qs) :
    ChainForm before after (cs ++ (['.'] ++ ds)) (ps ++ ([Piece.lexeme .dot ['.']] ++ qs)) where
  cuts := by
    intro rest hr
    refine (h.cuts (endsName_cons (c := '.') (by decide))).append ?_
    exact (cuts_punctuation (c := '.') (by decide) _).append (k.cuts hr)
  solid := solid_append h.solid _
  leads := by
    obtain ⟨words, hw⟩ := h.leads
    exact ⟨name, _, by rw [List.filterMap_append, hw]; rfl, hs⟩
  reads := by
    intro n src toks hw hl
    obtain ⟨words, hlead⟩ := h.leads
    rw [List.filterMap_append, List.map_eq_append_iff] at hw
    obtain ⟨a, b, rfl, ha, hb⟩ := hw
    obtain ⟨word, args, rfl, hword, -⟩ := List.map_eq_cons_iff.1 (ha.trans hlead)
    simp only [List.cons_append, List.nil_append, List.filterMap_cons, Piece.word?,
      List.map_eq_cons_iff] at hb
    obtain ⟨dot, later, rfl, hdot, hlater⟩ := hb
    simp only [Token.word, Prod.mk.injEq] at hword hdot
    simp only [List.length_append, List.length_cons] at hl
    obtain ⟨n, rfl⟩ : ∃ i, n = i + 1 := ⟨n - 1, by omega⟩
    have hcall : Parser.call before name src (args ++ dot :: later) = .ok mid (dot :: later) [] :=
      h.reads ha (by simp [hdot.1])
    have hrest : Parser.chain mid n src later = .ok after [] [] := k.reads hlater (by omega)
    simp [Parser.chain, Parser.expect_run, hword.1, hword.2, hcall, hn, hdot.1, hrest]

end Chains

theorem toList_intercalate_dot (call : String) {calls : List String} (h : calls ≠ []) :
    (String.intercalate "." (call :: calls)).toList =
      call.toList ++ (['.'] ++ (String.intercalate "." calls).toList) := by
  obtain ⟨next, calls, rfl⟩ := List.exists_cons_of_ne_nil h
  rw [String.intercalate_cons_cons]
  simp only [String.toList_append, List.append_assoc]
  rfl

namespace Signature

/-- Modifiers in front of a chain. -/
theorem chainForm_modifiers {mods : List Modifier} (hm : ∀ m ∈ mods, m.Quotable)
    {calls : List String} (hne : calls ≠ []) {before after : Signature}
    (k : ∃ ps, ChainForm (mods.foldl Modifier.apply before) after
      (String.intercalate "." calls).toList ps) :
    ∃ ps, ChainForm before after
      (String.intercalate "." (mods.map Modifier.spell ++ calls)).toList ps := by
  induction mods generalizing before with
  | nil => exact k
  | cons m mods ih =>
    obtain ⟨name, ps, hcall, hn, hs⟩ := Modifier.callForm (hm m List.mem_cons_self) before
    obtain ⟨qs, hchain⟩ := ih (fun m' h' => hm m' (List.mem_cons_of_mem _ h')) k
    rw [List.map_cons, List.cons_append, toList_intercalate_dot _ (by simp [hne])]
    exact ⟨_, chainForm_cons hcall hn hs hchain⟩

/-- The signature that has the modifiers of another one and nothing else. -/
def modified (sig : Signature) : Signature where
  abstract := sig.abstract
  abstractText := sig.abstractText
  overridable := sig.overridable
  override := sig.override

theorem mem_modifiers_abstract {sig : Signature} {reason : Option String}
    (h : Modifier.abstract reason ∈ sig.modifiers) : reason = sig.abstractText := by
  simp only [modifiers, List.mem_append] at h
  rcases h with h | h | h
  · split at h
    · cases List.mem_singleton.1 h
      rfl
    · cases h
  · split at h <;> simp at h
  · split at h <;> simp at h

/-- Modifiers say different things, or the same. -/
theorem Modifier.apply_comm {sig : Signature} {a b : Modifier} (ha : a ∈ sig.modifiers)
    (hb : b ∈ sig.modifiers) (before : Signature) :
    Modifier.apply (Modifier.apply before a) b = Modifier.apply (Modifier.apply before b) a := by
  cases a with
  | abstract reason =>
    obtain rfl := mem_modifiers_abstract ha
    cases b with
    | abstract reason =>
      obtain rfl := mem_modifiers_abstract hb
      rfl
    | _ => rfl
  | _ => cases b <;> rfl

/-- The modifiers of a signature, in any order, give them back. -/
theorem foldl_modifiers {sig : Signature} (h : sig.abstractText.isSome → sig.abstract)
    {mods : List Modifier} (hp : mods.Perm sig.modifiers) :
    mods.foldl Modifier.apply {} = sig.modified := by
  have hcomm : ∀ a ∈ mods, ∀ b ∈ mods, ∀ before : Signature,
      Modifier.apply (Modifier.apply before a) b = Modifier.apply (Modifier.apply before b) a :=
    fun a ha b hb before => Modifier.apply_comm (hp.subset ha) (hp.subset hb) before
  rw [hp.foldl_eq' hcomm]
  cases sig with
  | mk abstract abstractText overridable override params returns isVoid span =>
  cases abstract with
  | false =>
    obtain rfl : abstractText = none := by simpa using h
    cases overridable <;> cases override <;> rfl
  | true => cases overridable <;> cases override <;> rfl

/-- **Chains.** A spelling of a declarable signature is read as it, but for its lines. -/
theorem Declarable.chainForm {sig : Signature} (h : sig.Declarable) {text : String}
    (hs : sig.Spells text) : ∃ ps, ChainForm {} { sig with span := none } text.toList ps := by
  obtain ⟨mods, hp, rfl⟩ := hs
  have hquotable : ∀ m ∈ mods, m.Quotable := by
    intro m hm
    cases m with
    | abstract reason =>
      obtain rfl := mem_modifiers_abstract (hp.subset hm)
      exact h.quotable
    | _ => trivial
  refine chainForm_modifiers hquotable (by simp) ?_
  rw [foldl_modifiers h.reasoned hp]
  unfold paramCalls
  split
  · rename_i hnone
    obtain ⟨name, ps, hcall, hn⟩ := callForm_terminator h sig.modified rfl rfl
    have hsame : { sig.modified with returns := sig.returns, isVoid := sig.isVoid } =
        { sig with span := none } := by
      simp [modified, hnone]
    rw [List.nil_append, String.intercalate_singleton]
    exact ⟨ps, hsame ▸ chainForm_end hcall hn⟩
  · rename_i hsome
    obtain ⟨ps, hparams⟩ := callForm_params h hsome sig.modified rfl
    obtain ⟨name, qs, hcall, hn⟩ :=
      callForm_terminator h { sig.modified with params := sig.params } rfl rfl
    have hchain := chainForm_cons hparams rfl (by decide) (chainForm_end hcall hn)
    rw [List.singleton_append, toList_intercalate_dot _ (by simp), String.intercalate_singleton]
    exact ⟨_, hchain⟩

/-! ## Texts -/

theorem Declarable.oneLine {sig : Signature} (h : sig.Declarable) {text : String}
    (hs : sig.Spells text) : '\n' ∉ text.toList := by
  obtain ⟨mods, hp, rfl⟩ := hs
  refine intercalate_oneLine (by decide) fun call hc => ?_
  simp only [List.mem_append, List.mem_map, List.mem_singleton] at hc
  rcases hc with ⟨m, hm, rfl⟩ | hc | rfl
  · cases m with
    | abstract reason =>
      obtain rfl := mem_modifiers_abstract (hp.subset hm)
      cases hr : sig.abstractText with
      | none => decide
      | some reason =>
        have hreason : '\n' ∉ reason.toList := fun hn => (h.quotable reason hr _ hn).2.2 rfl
        simp [Modifier.spell, hreason]
    | overridable => decide
    | override => decide
  · unfold paramCalls at hc
    split at hc
    · cases hc
    · rw [List.mem_singleton.1 hc]
      have hparams : '\n' ∉ (TypeExpr.commaJoin (sig.params.map paramText)).toList := by
        refine intercalate_oneLine (by decide) fun part hpart => ?_
        obtain ⟨param, hm, rfl⟩ := List.mem_map.1 hpart
        have hname : '\n' ∉ param.1.toList := by
          rcases h.named param.1 (List.mem_map_of_mem hm) with hn | hn
          · exact hn.oneLine rfl
          · exact hn.oneLine rfl
        simp [paramText, hname, (h.params param hm).oneLine]
      simp [hparams]
  · unfold terminator
    split
    · rename_i t ht
      simp [(h.returns t ht).oneLine]
    · decide

/-- A chain on one line, wherever it stands in its text. -/
theorem parse_of_chainForm {sig : Signature} {cs : List Char} {ps : List Piece}
    (h : ChainForm {} sig cs ps) {text : List Char} (hline : '\n' ∉ text) {ts us : List Token}
    {boundary : Nat} (ht : tokenize text = .ok ts)
    (hb : body text.length ts.dropLast = .ok ⟨us, boundary⟩)
    (hw : us.map Token.word = ps.filterMap Piece.word?) {line : Int} (hl : 1 ≤ line) :
    parse (String.ofList text) line = ⟨.ok { sig with span := some ⟨line, line⟩ }, []⟩ := by
  have hne : us ≠ [] := by
    rintro rfl
    obtain ⟨name, words, hlead, -⟩ := h.leads
    rw [hlead] at hw
    cases hw
  have hus : us <:+: ts := (body_isInfix hb).trans (List.dropLast_prefix ts).isInfix
  obtain ⟨⟨first, last⟩, hlines, hfirst, hordered, hlast⟩ := linesOf_within ht hus.sublist hne line
  rw [List.count_eq_zero.2 hline] at hlast
  simp only at hfirst hordered hlast
  obtain rfl : first = line := by omega
  obtain rfl : last = first := by omega
  have hplaced : placed sig (some ⟨last, last⟩) = .ok { sig with span := some ⟨last, last⟩ } :=
    if_neg fun hlow => by simp only [or_self] at hlow; omega
  rw [parse_of_chain ht hb hne (h.reads hw (Nat.le_refl _)) last, hlines, hplaced]

/-- The chain by itself. -/
theorem parse_chainForm {sig : Signature} {cs : List Char} {ps : List Piece}
    (h : ChainForm {} sig cs ps) (hline : '\n' ∉ cs) {line : Int} (hl : 1 ≤ line) :
    parse (String.ofList cs) line = ⟨.ok { sig with span := some ⟨line, line⟩ }, []⟩ := by
  have hcut := (h.cuts endsName_nil).cut_eq
  have htokens : tokensOf cs = (Token.locate 0 1 ps).dropLast := by rw [tokensOf, hcut]
  have hw : (tokensOf cs).map Token.word = ps.filterMap Piece.word? := by
    rw [htokens, words_locate]
  have hbare : IsBare cs := by
    obtain ⟨name, words, hlead, hname⟩ := h.leads
    obtain ⟨t, us, hts, hword, -⟩ := List.map_eq_cons_iff.1 (hw.trans hlead)
    simp only [Token.word, Prod.mk.injEq] at hword
    unfold IsBare
    rw [hts]
    rintro _ ⟨⟩
    simp [Token.isWord, hword, hname]
  have hbody := body_tokensOf hbare
  rw [htokens] at hbody hw
  exact parse_of_chainForm h hline (tokenize_of_cut hcut) hbody hw hl

/-- The pieces of a chain in braces on one line. -/
def bracedPieces (ps : List Piece) : List Piece :=
  [Piece.lexeme .ident "sig".toList] ++ ([Piece.gap [' '], .lexeme .lbrace ['\x7b']] ++
    ([Piece.gap [' ']] ++ (ps ++ ([Piece.gap [' ']] ++ [Piece.lexeme .rbrace ['\x7d']]))))

theorem cuts_braced {sig : Signature} {cs : List Char} {ps : List Piece}
    (h : ChainForm {} sig cs ps) :
    Cuts ("sig".toList ++ (" \x7b".toList ++ ([' '] ++ (cs ++ ([' '] ++ ['\x7d'])))))
      (bracedPieces ps) [] := by
  have hclose : Cuts ([' '] ++ ['\x7d'])
      ([Piece.gap [' ']] ++ [Piece.lexeme .rbrace ['\x7d']]) [] :=
    (cuts_space (by rintro _ ⟨⟩; decide)).append (cuts_punctuation (c := '\x7d') (by decide) [])
  have hopen : Cuts [' '] [.gap [' ']] (cs ++ ([' '] ++ ['\x7d']) ++ []) := by
    rw [List.append_assoc]
    exact cuts_space_solid h.solid _
  refine (cuts_name rfl isName_sig (endsName_cons (c := ' ') (by decide))).append ?_
  refine (cuts_brace _).append (hopen.append (Cuts.append ?_ hclose))
  exact h.cuts (endsName_cons (c := ' ') (by decide))

/-- The chain in braces: what stands between them nests, so the last brace closes the block. -/
theorem parse_braced {sig : Signature} {cs : List Char} {ps : List Piece}
    (h : ChainForm {} sig cs ps) {text : List Char} (hline : '\n' ∉ text)
    (hcuts : Cuts text (bracedPieces ps) []) {line : Int} (hl : 1 ≤ line) :
    parse (String.ofList text) line = ⟨.ok { sig with span := some ⟨line, line⟩ }, []⟩ := by
  have hwords := words_locate 0 1 (bracedPieces ps)
  generalize hts : (Token.locate 0 1 (bracedPieces ps)).dropLast = ts at hwords
  simp only [bracedPieces, List.cons_append, List.nil_append, List.filterMap_cons, Piece.word?,
    List.filterMap_append, List.filterMap_nil, List.map_eq_cons_iff, List.map_eq_append_iff,
    List.map_eq_nil_iff, String.ofList_toList] at hwords
  obtain ⟨first, _, rfl, hfirst, opening, _, rfl, hopen, us, _, rfl, hw, last, _, rfl, hlast,
    rfl⟩ := hwords
  simp only [Token.word, Prod.mk.injEq] at hfirst hopen hlast
  have hchain : Parser.chain {} us.length ⟨text, last.start⟩ us = .ok sig [] [] :=
    h.reads hw (Nat.le_refl _)
  have hnest := (Parser.chain_nests hchain).2 [.rbrace] (by simp)
  have hbody : body text.length (first :: opening :: (us ++ [last])) = .ok ⟨us, last.start⟩ := by
    rw [body_header (by simp [Token.isWord, hfirst]) hopen.1]
    exact unwrapBlock_braces hopen.1 hlast.1 hnest _
  exact parse_of_chainForm h hline (tokenize_of_cut hcuts.cut_eq) (hts ▸ hbody) hw hl

/-- **Spelling and reading.** Whatever its types, a declarable signature is read back from each of
its spellings, alone and in a block, on the line that the text stands on. -/
theorem parse_spelled {sig : Signature} (h : sig.Declarable) {text : String} (hs : sig.Spells text)
    {line : Int} (hl : 1 ≤ line) :
    parse text line = ⟨.ok { sig with span := some ⟨line, line⟩ }, []⟩ ∧
      parse ("sig \x7b " ++ text ++ " \x7d") line =
        ⟨.ok { sig with span := some ⟨line, line⟩ }, []⟩ := by
  obtain ⟨ps, hform⟩ := h.chainForm hs
  have hline := h.oneLine hs
  have htext : ("sig \x7b " ++ text ++ " \x7d").toList = "sig".toList ++ (" \x7b".toList ++
      ([' '] ++ (text.toList ++ ([' '] ++ ['\x7d'])))) := by
    simp
  constructor
  · have hread := parse_chainForm hform hline hl
    rwa [String.ofList_toList] at hread
  · have hwhole : '\n' ∉ ("sig \x7b " ++ text ++ " \x7d").toList := by simp [hline]
    have hread := parse_braced hform hwhole (htext ▸ cuts_braced hform) hl
    rwa [String.ofList_toList] at hread

/-- A signature with types of every form. -/
def writtenSig : Signature where
  abstract := true
  abstractText := some "each (adapter) # its own"
  override := true
  params := [("key", .nilable (.union [.simple "::Foo::Bar", .simple "self"])),
    ("Rows", .keyed "Hash" (.simple "Symbol") (.tuple [.untyped, .generic "Array" [.fixedHash]]))]
  returns := some (.generic "Set" [.simple "nil"])

/-- A spelling of the signature, with its modifiers in another order. -/
def writtenText : String :=
  "override.abstract(\"each (adapter) # its own\").params(key: T.nilable(T.any(::Foo::Bar, self)), "
    ++ "Rows: T::Hash[Symbol, [T.untyped, T::Array[Hash]]]).returns(T::Set[nil])"

theorem declarable_writtenSig : writtenSig.Declarable := by
  have hself : TypeExpr.Declarable (.simple "self") := .word (by decide)
  have hpath : TypeExpr.Declarable (.simple "::Foo::Bar") :=
    .path ⟨true, "Foo", ["Bar"], by unfold IsName; decide +kernel⟩ (by decide) (by decide)
      (by simp [ConstantPath.IsHelper])
  have hsymbol : TypeExpr.Declarable (.simple "Symbol") :=
    .path ⟨false, "Symbol", [], by unfold IsName; decide +kernel⟩ (by decide) (by decide)
      (by simp [ConstantPath.IsHelper])
  have hkey : TypeExpr.Declarable (.nilable (.union [.simple "::Foo::Bar", .simple "self"])) :=
    .nilable (.union (by simp) (by simp [hpath, hself]))
  have harray : TypeExpr.Declarable (.generic "Array" [.fixedHash]) :=
    .generic (by unfold IsName; decide +kernel) (by decide) (by decide) (by simp)
      (by simp [TypeExpr.Declarable.fixedHash])
  have hrows : TypeExpr.Declarable (.keyed "Hash" (.simple "Symbol")
      (.tuple [.untyped, .generic "Array" [.fixedHash]])) :=
    .hash hsymbol (.tuple (by simp) (by simp [TypeExpr.Declarable.untyped, harray]))
  have hset : TypeExpr.Declarable (.generic "Set" [.simple "nil"]) :=
    .generic (by unfold IsName; decide +kernel) (by decide) (by decide) (by simp)
      (by simp [TypeExpr.Declarable.word (w := "nil") (by decide)])
  exact {
    ended := rfl
    nodup := by decide
    named := by unfold IsName; decide +kernel
    reasoned := fun _ => rfl
    quotable := by simp [writtenSig]
    params := by simp [writtenSig, hkey, hrows]
    returns := by simp [writtenSig, hset] }

theorem parse_spelled_writtenText : writtenSig.Declarable ∧ writtenSig.Spells writtenText ∧
    parse writtenText 7 = ⟨.ok { writtenSig with span := some ⟨7, 7⟩ }, []⟩ ∧
    parse ("sig \x7b " ++ writtenText ++ " \x7d") 7 =
      ⟨.ok { writtenSig with span := some ⟨7, 7⟩ }, []⟩ := by
  have hs : writtenSig.Spells writtenText :=
    ⟨[.override, .abstract (some "each (adapter) # its own")], List.Perm.swap _ _ _,
      by decide +kernel⟩
  exact ⟨declarable_writtenSig, hs, parse_spelled declarable_writtenSig hs (by decide)⟩

end Signature

end TypeTags
