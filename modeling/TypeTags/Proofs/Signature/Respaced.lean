import TypeTags.Proofs.Signature.Block
import TypeTags.Proofs.Signature.Twin
import TypeTags.Proofs.Token.Gaps

/-!
# Layout is insignificant

A signature means the same however its words are laid out: with other white space and other comments
between them, a text has the same words, and it is read as the same signature but for its lines, or
refused with the same message. The same is true of types.

Results:
* `body_twin`: the chain in a text that has the same words.
* `Signature.sameReading_of_words`, `Signature.sameType_of_words`: texts with the same words.
* `respaced_reading`: texts with other gaps between their words.
-/

namespace TypeTags

theorem sameWord_iff {t u : Token} : SameWord t u ↔ u.word = t.word := by
  simp [SameWord, Token.word]

theorem sameWords_of_words {ts us : List Token} (h : us.map Token.word = ts.map Token.word) :
    List.Forall₂ SameWord ts us := by
  induction ts generalizing us with
  | nil =>
    obtain rfl : us = [] := by simpa using h
    exact .nil
  | cons t ts ih =>
    cases us with
    | nil => cases h
    | cons u us =>
      rw [List.map_cons, List.map_cons, List.cons.injEq] at h
      exact .cons (sameWord_iff.2 h.1) (ih h.2)

theorem words_of_sameWords {ts us : List Token} (h : List.Forall₂ SameWord ts us) :
    us.map Token.word = ts.map Token.word := by
  induction h with
  | nil => rfl
  | cons ht _ ih => rw [List.map_cons, List.map_cons, sameWord_iff.1 ht, ih]

theorem SameWords.dropLast {ts us : List Token} (h : SameWords ts us) :
    SameWords ts.dropLast us.dropLast := by
  refine ⟨sameWords_of_words ?_, h.known.infix (List.dropLast_prefix ts).isInfix⟩
  rw [List.map_dropLast, List.map_dropLast, words_of_sameWords h.words]

/-- Both readings are the same type, or the texts are refused with the same message. -/
def TypeExpr.SameReading (r r' : Except Fault TypeExpr) : Prop :=
  (∃ t, r = .ok t ∧ r' = .ok t) ∨
    ∃ fault fault', r = .error fault ∧ r' = .error fault' ∧ fault'.message = fault.message

namespace Signature

/-! ## The chain in a text -/

/-- Two bodies of the same words, or the same cause. -/
inductive BodyTwin : Except Fault Body → Except Fault Body → Prop where
  | ok {b b' : Body} (h : SameWords b.tokens b'.tokens) : BodyTwin (.ok b) (.ok b')
  | error {fault fault' : Fault} (h : fault'.cause = fault.cause) :
      BodyTwin (.error fault) (.error fault')

/-- Both blocks are closed, or both are open. -/
theorem blockBody_twin {ts us : List Token} (h : SameWords ts us) {closes : Token → Bool}
    (hc : ∀ t u, SameWord t u → closes u = closes t) :
    (∃ b b', blockBody closes ts = some b ∧ blockBody closes us = some b' ∧
      SameWords b.tokens b'.tokens) ∨
      (blockBody closes ts = none ∧ blockBody closes us = none) := by
  have hlast := congrArg List.getLast? (words_of_sameWords h.words)
  rw [List.getLast?_map, List.getLast?_map] at hlast
  unfold blockBody
  cases ht : ts.getLast? with
  | none =>
    have hu : us.getLast? = none := by simpa [ht] using hlast
    rw [hu]
    exact .inr ⟨rfl, rfl⟩
  | some last =>
    obtain ⟨last', hu, hword⟩ : ∃ last', us.getLast? = some last' ∧ last'.word = last.word := by
      simpa [ht] using hlast
    rw [hu]
    simp only [hc last last' (sameWord_iff.2 hword)]
    cases closes last with
    | true => exact .inl ⟨_, _, rfl, rfl, h.dropLast⟩
    | false => exact .inr ⟨rfl, rfl⟩

theorem isWord_twin {t u : Token} (h : SameWord t u) (word : String) :
    u.isWord word = t.isWord word := by
  rw [Token.isWord, Token.isWord, h.1, h.2]

theorem unwrapBlock_twin {ts us : List Token} (h : SameWords ts us) (stop stop' : Nat) :
    BodyTwin (unwrapBlock stop ts) (unwrapBlock stop' us) := by
  obtain ⟨hwords, hknown⟩ := h
  cases hwords with
  | nil => exact .error rfl
  | @cons opening opening' inside inside' ho hi =>
    have hinside : SameWords inside inside' :=
      ⟨hi, hknown.infix (List.suffix_cons opening inside).isInfix⟩
    by_cases hbrace : opening.kind = .lbrace
    · have hgroup := Parser.matchGroup_twin hi .rbrace []
      have hclosed := blockBody_twin hinside
        (show ∀ t u, SameWord t u → (u.kind == .rbrace) = (t.kind == .rbrace) from
          fun t u htu => by rw [htu.1])
      simp only [unwrapBlock, ho.1, hbrace, if_true]
      generalize matchGroup .rbrace [] inside = found at hgroup ⊢
      generalize matchGroup .rbrace [] inside' = found' at hgroup ⊢
      rcases hclosed with ⟨b, b', hb, hb', hw⟩ | ⟨hb, hb'⟩
      · simp only [hb, hb']
        cases hgroup with
        | closed hc hr =>
          cases hr with
          | nil => exact .ok hw
          | cons he _ => exact .error (congrArg (Cause.unexpected · .block) he.2)
        | unclosed => exact .ok hw
        | mismatched _ => exact .ok hw
      · simp only [hb, hb']
        cases hgroup with
        | closed hc hr =>
          cases hr with
          | nil => exact .error rfl
          | cons he _ => exact .error (congrArg (Cause.unexpected · .block) he.2)
        | unclosed => exact .error rfl
        | mismatched _ => exact .error rfl
    · simp only [unwrapBlock, ho.1, hbrace, if_false, isWord_twin ho]
      by_cases hdo : opening.isWord "do" = true
      · rcases blockBody_twin hinside fun t u htu => isWord_twin htu "end" with
          ⟨b, b', hb, hb', hw⟩ | ⟨hb, hb'⟩
        · simp only [hdo, hb, hb', if_true]
          exact .ok hw
        · simp only [hdo, hb, hb', if_true]
          exact .error rfl
      · simp only [hdo]
        exact .error rfl

/-- **Chains in texts.** Texts of the same words hold chains of the same words, or are refused for
the same cause. -/
theorem body_twin {ts us : List Token} (h : SameWords ts us) (stop stop' : Nat) :
    BodyTwin (body stop ts) (body stop' us) := by
  obtain ⟨hwords, hknown⟩ := h
  cases hwords with
  | nil => exact .ok ⟨.nil, hknown⟩
  | @cons first first' rest rest' hf hr =>
    have hrest : SameWords rest rest' := ⟨hr, hknown.infix (List.suffix_cons first rest).isInfix⟩
    by_cases hsig : first.isWord "sig" = true
    · simp only [body, isWord_twin hf, hsig, if_true]
      cases hr with
      | nil => exact unwrapBlock_twin hrest stop stop'
      | @cons t t' inner inner' ht hi =>
        by_cases hparen : t.kind = .lparen
        · simp only [ht.1, hparen, if_true]
          have hgroup := Parser.matchGroup_twin hi .rparen []
          generalize hg : matchGroup .rparen [] inner = found at hgroup ⊢
          generalize matchGroup .rparen [] inner' = found' at hgroup ⊢
          cases hgroup with
          | @closed closer _ behind _ hc hb =>
            have hsuffix := (List.suffix_cons closer behind).trans
              ((matchGroup_suffix hg).trans (List.suffix_cons t inner))
            exact unwrapBlock_twin ⟨hb, hrest.known.infix hsuffix.isInfix⟩ stop stop'
          | unclosed => exact .error rfl
          | mismatched hm => exact .error (congrArg Cause.mismatchedBracket hm.2)
        · simp only [ht.1, hparen, if_false]
          exact unwrapBlock_twin hrest stop stop'
    · simp only [body, isWord_twin hf, hsig]
      exact .ok ⟨.cons hf hr, hknown⟩

/-! ## Texts with the same words -/

/-- Both readings are the same signature but for its lines, or the texts are refused with the same
message. -/
def SameReading (r r' : Reading) : Prop :=
  (∃ sig sig', r.result = .ok sig ∧ r'.result = .ok sig' ∧ sig' = { sig with span := sig'.span }) ∨
    ∃ fault fault', r.result = .error (.malformed fault) ∧
      r'.result = .error (.malformed fault') ∧ fault'.message = fault.message

/-- A chain that starts on line 1 or later is placed somewhere. -/
theorem exists_placed {text : List Char} {ts us : List Token} {boundary : Nat}
    (ht : tokenize text = .ok ts) (hb : body text.length ts.dropLast = .ok ⟨us, boundary⟩)
    (hne : us ≠ []) {line : Int} (hl : 1 ≤ line) (read : Signature) :
    ∃ lines, placed read (linesOf line us) = .ok { read with span := some lines } := by
  obtain ⟨lines, hlines⟩ := linesOf_isSome hne line
  have hlow : ∀ t ∈ us, 1 ≤ t.line := fun t hu =>
    tokenize_line ht ((List.dropLast_sublist _).subset ((body_isInfix hb).subset hu))
  obtain ⟨hfirst, hlast⟩ := linesOf_pos hl hlow hlines
  refine ⟨lines, ?_⟩
  rw [hlines, placed, if_neg (by omega)]

section Words

variable {cs ds : List Char} {ts us : List Token} (ht : tokenize cs = .ok ts)
  (hu : tokenize ds = .ok us) (hw : us.map Token.word = ts.map Token.word) (hk : KnownHelpers ts)

include ht hu hw hk

/-- **Signatures.** Texts with the same words are read alike. -/
theorem sameReading_of_words {line : Int} (hl : 1 ≤ line) :
    SameReading (parse (String.ofList cs) line) (parse (String.ofList ds) line) := by
  have htokens : SameWords ts.dropLast us.dropLast :=
    SameWords.dropLast ⟨sameWords_of_words hw, hk⟩
  have hbody := body_twin htokens cs.length ds.length
  generalize hb : body cs.length ts.dropLast = b at hbody
  generalize hb' : body ds.length us.dropLast = b' at hbody
  cases hbody with
  | @error fault fault' h =>
    refine .inr ⟨fault, fault', ?_, ?_, congrArg Cause.message h⟩
    · simp [parse, ht, hb]
    · simp [parse, hu, hb']
  | @ok b b' h =>
    obtain ⟨inside, boundary⟩ := b
    obtain ⟨inside', boundary'⟩ := b'
    by_cases hne : inside = []
    · subst hne
      obtain rfl : inside' = [] := by simpa using h.words
      refine .inr ⟨⟨.emptySignature, none⟩, ⟨.emptySignature, none⟩, ?_, ?_, rfl⟩
      · simp [parse, ht, hb]
      · simp [parse, hu, hb']
    · have hne' : inside' ≠ [] := by
        rintro rfl
        exact hne (by simpa using h.words)
      have hchain : (Parser.chain {} inside.length ⟨cs, boundary⟩ inside).Twin Eq
          (Parser.chain {} inside.length ⟨ds, boundary'⟩ inside') :=
        Parser.twins_chain {} _ _ _ h
      have hlen : inside.length = inside'.length := h.words.length_eq
      generalize hc : Parser.chain {} inside.length ⟨cs, boundary⟩ inside = o at hchain
      rw [hlen] at hchain
      generalize hc' : Parser.chain {} inside'.length ⟨ds, boundary'⟩ inside' = o' at hchain
      cases hchain with
      | @ok read _ rest rest' notes notes' hv hr =>
        subst hv
        obtain ⟨lines, hplaced⟩ := exists_placed ht hb hne hl read
        obtain ⟨lines', hplaced'⟩ := exists_placed hu hb' hne' hl read
        refine .inl
          ⟨{ read with span := some lines }, { read with span := some lines' }, ?_, ?_, rfl⟩
        · rw [parse_of_chain ht hb hne hc line]
          exact hplaced
        · rw [parse_of_chain hu hb' hne' hc' line]
          exact hplaced'
      | @fail fault fault' notes notes' hcause =>
        refine .inr ⟨fault, fault', ?_, ?_, congrArg Cause.message hcause⟩
        · rw [parse_of_chain_fail ht hb hne hc line]
        · rw [parse_of_chain_fail hu hb' hne' hc' line]

/-- **Types.** Texts with the same words are read alike. -/
theorem sameType_of_words :
    TypeExpr.SameReading (TypeExpr.parse (String.ofList cs))
      (TypeExpr.parse (String.ofList ds)) := by
  have htokens : SameWords ts.dropLast us.dropLast :=
    SameWords.dropLast ⟨sameWords_of_words hw, hk⟩
  have htype : (Parser.type ⟨cs, cs.length⟩ ts.dropLast).Twin Eq
      (Parser.type ⟨ds, ds.length⟩ us.dropLast) := Parser.twins_type _ _ htokens
  generalize hc : Parser.type ⟨cs, cs.length⟩ ts.dropLast = o at htype
  generalize hc' : Parser.type ⟨ds, ds.length⟩ us.dropLast = o' at htype
  cases htype with
  | @ok t _ rest rest' notes notes' hv hr =>
    subst hv
    cases hr.words with
    | nil =>
      refine .inl ⟨t, ?_, ?_⟩
      · simp [TypeExpr.parse, ht, hc]
      · simp [TypeExpr.parse, hu, hc']
    | @cons extra extra' _ _ he _ =>
      refine .inr ⟨⟨.unexpected extra.value .type, some extra.start⟩,
        ⟨.unexpected extra'.value .type, some extra'.start⟩, ?_, ?_, ?_⟩
      · simp [TypeExpr.parse, ht, hc]
      · simp [TypeExpr.parse, hu, hc']
      · simp [Fault.message, he.2]
  | @fail fault fault' notes notes' hcause =>
    refine .inr ⟨fault, fault', ?_, ?_, congrArg Cause.message hcause⟩
    · simp [TypeExpr.parse, ht, hc]
    · simp [TypeExpr.parse, hu, hc']

end Words

end Signature

/-! ## Texts with other gaps -/

/-- **Layout is insignificant.** Let some of the gaps of a text be replaced by other white space and
comments. The text has the same words. If moreover every helper of `T` in it has a rule of its own,
it is read as the same signature but for its lines, and as the same type, or it is refused with the
same message. -/
theorem respaced_reading {text : List Char} {ts : List Token} (h : tokenize text = .ok ts)
    {gaps : List (List Char)} (hg : List.Forall₂ Regap (gapsOf text ts) gaps) :
    weave (gapsOf text ts) (ts.map Token.word) = text ∧
    (∃ us, tokenize (weave gaps (ts.map Token.word)) = .ok us ∧
      us.map Token.word = ts.map Token.word) ∧
    (KnownHelpers ts →
      (∀ line : Int, 1 ≤ line → Signature.SameReading (Signature.parse (String.ofList text) line)
        (Signature.parse (String.ofList (weave gaps (ts.map Token.word))) line)) ∧
      TypeExpr.SameReading (TypeExpr.parse (String.ofList text))
        (TypeExpr.parse (String.ofList (weave gaps (ts.map Token.word))))) := by
  obtain ⟨us, hu, hw⟩ := tokenize_respaced h hg
  refine ⟨(tokenize_lexes h).2, ⟨us, hu, hw⟩, fun hk => ⟨fun line hl => ?_, ?_⟩⟩
  · exact Signature.sameReading_of_words h hu hw hk hl
  · exact Signature.sameType_of_words h hu hw hk

/-- A signature with one gap, in front of its second alternative. -/
def spacedText : List Char := "returns(T.any(X, Y))".toList

def spacedTokens : List Token := Token.locate 0 1 (cut false spacedText).pieces

/-- Gaps for the signature with a comment in front of the second alternative. -/
def commentedGaps : List (List Char) :=
  List.replicate 8 [] ++ "# or )\n\t".toList :: List.replicate 3 []

theorem respaced_reading_spacedText :
    tokenize spacedText = .ok spacedTokens ∧
    List.Forall₂ Regap (gapsOf spacedText spacedTokens) commentedGaps ∧
    KnownHelpers spacedTokens ∧
    weave commentedGaps (spacedTokens.map Token.word) = "returns(T.any(X,# or )\n\tY))".toList ∧
    Signature.SameReading (Signature.parse (String.ofList spacedText) 1) (Signature.parse
      (String.ofList (weave commentedGaps (spacedTokens.map Token.word))) 1) := by
  have ht : tokenize spacedText = .ok spacedTokens := tokenize_of_cut (by decide +kernel)
  have hk : KnownHelpers spacedTokens := by decide +kernel
  have hgaps : gapsOf spacedText spacedTokens =
      List.replicate 8 [] ++ [' '] :: List.replicate 3 [] := by decide +kernel
  have hcomment : Regap [' '] "# or )\n\t".toList :=
    .inr ⟨by simp, by simp,
      GapText.comment (show '\n' ∉ " or )".toList by decide) (.blank rfl .nil)⟩
  have hnone : Regap [] [] := .inl rfl
  have hg : List.Forall₂ Regap (gapsOf spacedText spacedTokens) commentedGaps := by
    rw [hgaps]
    exact .cons hnone (.cons hnone (.cons hnone (.cons hnone (.cons hnone (.cons hnone (.cons hnone
      (.cons hnone (.cons hcomment (.cons hnone (.cons hnone (.cons hnone .nil)))))))))))
  obtain ⟨-, -, hread⟩ := respaced_reading ht hg
  exact ⟨ht, hg, hk, by decide +kernel, (hread hk).1 1 (by decide)⟩

end TypeTags
