import TypeTags.Proofs.Signature.Leftover

/-!
# Signatures that were read

Whatever text a signature was read from, it keeps the constraints that its form alone does not give:
it returns a type or is void, but not both; no parameter is declared twice, and the parameters stand
in the order of the text; only an abstract signature has a reason; and its lines are lines of the
text.

A chain may declare parameters in several calls, repeat its modifiers and recover in the middle of a
parameter list. So the constraints are kept call by call: `Underway` relates the signature so far to
the tokens left.

Results:
* `paramList_declares`: what one parameter list adds.
* `call_underway`, `chain_underway`: what one call keeps, and so a chain.
* `tokenize_sorted`, `tokenize_line_le`: the lines of the tokens.
* `parse_accepted`: the constraints on a signature that was read.
-/

namespace TypeTags

/-- The names right before a colon, in order: those of the parameters are among them. -/
def labels : List Token → List String
  | t :: colon :: ts =>
    if t.kind.isName ∧ colon.kind = .colon then t.value :: labels (colon :: ts)
    else labels (colon :: ts)
  | _ => []

theorem labels_sublist_cons (t : Token) (ts : List Token) :
    (labels ts).Sublist (labels (t :: ts)) := by
  cases ts with
  | nil => exact List.nil_sublist _
  | cons colon ts =>
    rw [labels]
    split
    · exact List.sublist_cons_self _ _
    · exact List.Sublist.refl _

theorem labels_sublist_append (us more : List Token) :
    (labels us).Sublist (labels (us ++ more)) := by
  fun_induction labels us with
  | case1 t colon us h ih =>
    rw [List.cons_append, List.cons_append, labels, if_pos h]
    exact ih.cons_cons t.value
  | case2 t colon us h ih =>
    rw [List.cons_append, List.cons_append, labels, if_neg h]
    exact ih
  | case3 => exact List.nil_sublist _

/-- The labels of some tokens in a row. -/
theorem labels_isInfix {ts us : List Token} (h : us <:+: ts) : (labels us).Sublist (labels ts) := by
  obtain ⟨before, more, rfl⟩ := h
  rw [List.append_assoc]
  induction before with
  | nil => exact labels_sublist_append us more
  | cons t before ih => exact ih.trans (labels_sublist_cons t _)

theorem labels_suffix {ts us : List Token} (h : us <:+ ts) : (labels us).Sublist (labels ts) :=
  labels_isInfix h.isInfix

/-- A label in front, before tokens of which only an end is left. -/
theorem labels_cons {t colon : Token} (ht : t.kind.isName) (hc : colon.kind = .colon)
    {ts us : List Token} (h : us <:+ ts) {names : List String}
    (hn : names.Sublist (labels us)) :
    (t.value :: names).Sublist (labels (t :: colon :: ts)) := by
  rw [labels, if_pos ⟨ht, hc⟩]
  exact (hn.trans (labels_suffix (h.trans (List.suffix_cons colon ts)))).cons_cons t.value

namespace Parser

variable {s : Source} {ts all : List Token} {sig : Signature}

/-! ## Parameters -/

/-- The names are new, different, and labels of the tokens from `ts` up to `rest`. -/
structure Declares (known : List String) (ts : List Token) (names : List String)
    (rest : List Token) : Prop where
  fresh : ∀ name ∈ names, name ∉ known
  nodup : names.Nodup
  labelled : (names ++ labels rest).Sublist (labels ts)

/-- **Parameter lists.** Every name is checked against all the earlier ones. -/
theorem paramList_declares (known : List String) (n : Nat) (s : Source) (ts : List Token) :
    Answers (fun params rest => Declares known ts (params.map (·.1)) rest) (paramList known n) s
      ts := by
  induction n generalizing known ts with
  | zero => exact Answers.step (peek_run s ts) (answers_fault _ _)
  | succ n ih =>
    refine Answers.accept_bind (by simp) ?_ (Answers.step (peek_run s ts) ?_)
    · rintro t rest rfl
      exact Answers.pure ⟨by simp, by simp, labels_sublist_cons t rest⟩
    split
    · exact answers_fault _ _
    rename_i hname
    obtain _ | ⟨t, us⟩ := ts
    · exact absurd nofun hname
    replace hname : t.kind.isName := by simpa using hname
    refine Answers.step (advance_run s _) ((answers_expect (by simp) _).bind ?_)
    rintro colon us ⟨rfl, hcolon⟩
    split
    · exact answers_fault _ _
    rename_i hnew
    refine (trailing_type s us).bind fun declared rest hrest => Answers.accept_bind (by simp) ?_ ?_
    · rintro comma left rfl
      refine (ih (t.value :: known) left).bind fun others rest h => Answers.pure ?_
      have hleft : left <:+ us := (List.suffix_cons comma left).trans hrest
      refine ⟨?_, ?_, labels_cons hname hcolon hleft h.labelled⟩
      · refine List.forall_mem_cons.2 ⟨hnew, fun name hm hk => ?_⟩
        exact h.fresh name hm (List.mem_cons_of_mem _ hk)
      · exact List.nodup_cons.2 ⟨fun hm => h.fresh _ hm List.mem_cons_self, h.nodup⟩
    · refine ((trailing_expect _ _).within hrest).bind fun _ rest hr => Answers.pure ?_
      exact ⟨by simpa using hnew, by simp, labels_cons hname hcolon hr (List.Sublist.refl _)⟩

theorem params_declares (declared : List (String × TypeExpr)) :
    Answers (fun params rest => Declares (declared.map (·.1)) ts (params.map (·.1)) rest)
      (Parser.params declared) s ts := by
  refine (trailing_expect _ _ s ts).bind fun _ left hl => Answers.step (tokens_run s left) ?_
  refine (paramList_declares _ _ s left).mono fun params rest h => ?_
  exact ⟨h.fresh, h.nodup, h.labelled.trans (labels_suffix hl)⟩

/-! ## Chains -/

/-- A signature made from the tokens up to those left. -/
structure Underway (all left : List Token) (sig : Signature) : Prop where
  labelled : (sig.paramNames ++ labels left).Sublist (labels all)
  nodup : sig.paramNames.Nodup
  reasoned : sig.abstractText.isSome → sig.abstract

theorem Underway.suffix (h : Underway all ts sig) {rest : List Token} (hr : rest <:+ ts) :
    Underway all rest sig where
  labelled := (((List.Sublist.refl _).append (labels_suffix hr))).trans h.labelled
  nodup := h.nodup
  reasoned := h.reasoned

theorem Underway.declare (h : Underway all ts sig) {params : List (String × TypeExpr)}
    {rest : List Token} (hp : Declares sig.paramNames ts (params.map (·.1)) rest) :
    Underway all rest { sig with params := sig.params ++ params } := by
  have hnames : Signature.paramNames { sig with params := sig.params ++ params } =
      sig.paramNames ++ params.map (·.1) := List.map_append
  refine ⟨?_, ?_, h.reasoned⟩
  · rw [hnames, List.append_assoc]
    exact ((List.Sublist.refl _).append hp.labelled).trans h.labelled
  · rw [hnames, List.nodup_append]
    refine ⟨h.nodup, hp.nodup, ?_⟩
    rintro name hm _ hd rfl
    exact hp.fresh name hd hm

/-- What is said of the returned value: exactly one of a type and `void` at the end of a chain, and
nothing before. -/
def Ended : Bool → Signature → Prop
  | true, sig => sig.isVoid = sig.returns.isNone
  | false, sig => sig.returns = none ∧ sig.isVoid = false

/-- A modifier keeps what is known of the signature, whatever stands in its parentheses. -/
theorem modifier_underway {read : Signature} {ended : Bool} (h : Underway all ts read)
    (he : Ended ended read) : Answers (fun read rest => Underway all rest read ∧ Ended ended read)
      (do modifierArguments; return read) s ts :=
  (trailing_modifierArguments s ts).bind fun _ _ hr => Answers.pure ⟨h.suffix hr, he⟩

/-- **Calls.** A call keeps what is known of the signature, and it says what is returned just if it
ends the chain. -/
theorem call_underway (h : Underway all ts sig) (ho : Ended false sig) (name : String) :
    Answers (fun read rest => Underway all rest read ∧ Ended (isTerminator name) read)
      (call sig name) s ts := by
  unfold call
  split
  · subst name
    exact (params_declares sig.params).bind fun _ _ hp => Answers.pure ⟨h.declare hp, ho⟩
  split
  · subst name
    refine (trailing_argument trailing_type _ s ts).bind fun t rest hr => ?_
    exact Answers.pure ⟨⟨(h.suffix hr).labelled, h.nodup, h.reasoned⟩, ho.2⟩
  split
  · subst name
    have hvoid : true = sig.returns.isNone := by rw [ho.1]; rfl
    exact Answers.pure ⟨⟨h.labelled, h.nodup, h.reasoned⟩, hvoid⟩
  split
  · subst name
    refine (trailing_stringArgument s ts).bind fun text rest hr => ?_
    exact modifier_underway ⟨(h.suffix hr).labelled, h.nodup, fun _ => rfl⟩ ho
  split
  · subst name
    exact modifier_underway ⟨h.labelled, h.nodup, h.reasoned⟩ ho
  split
  · subst name
    exact modifier_underway ⟨h.labelled, h.nodup, h.reasoned⟩ ho
  · have hplain : isTerminator name = false := by simp [isTerminator, *]
    exact modifier_underway h (hplain ▸ ho)

/-- **Chains.** A chain that is read to its end keeps what is known of the signature, and it says
what is returned. -/
theorem chain_underway (h : Underway all ts sig) (ho : Ended false sig) (n : Nat) :
    Answers (fun read rest => Underway all rest read ∧ Ended true read) (chain sig n) s ts := by
  induction n generalizing sig ts with
  | zero => exact Answers.step (peek_run s ts) (answers_fault _ _)
  | succ n ih =>
    refine (trailing_expect _ _ s ts).bind fun word left hl => ?_
    refine (call_underway (h.suffix hl) ho word.value).bind fun read rest hread => ?_
    obtain ⟨hread, hended⟩ := hread
    cases hword : isTerminator word.value with
    | true =>
      rw [hword] at hended
      refine Answers.step (atEnd_run s rest) ?_
      split
      · exact Answers.pure ⟨hread, hended⟩
      · exact Answers.step (peek_run s rest) (answers_fault _ _)
    | false =>
      rw [hword] at hended
      refine Answers.step (atEnd_run s rest) ?_
      cases rest with
      | nil => rintro _ _ _ ⟨⟩
      | cons dot rest =>
        exact (trailing_expect _ _ s _).bind fun _ _ hr => ih (hread.suffix hr) hended

end Parser

/-! ## Lines -/

namespace Piece

theorem bareLineFeeds_le (cs : List Char) : bareLineFeeds cs ≤ cs.count '\n' := by
  fun_induction bareLineFeeds cs with
  | case1 => exact Nat.zero_le _
  | case2 c cs ih =>
    exact Nat.le_trans ih ((((List.Sublist.refl cs).cons c).cons '\\').count_le _)
  | case3 c cs hne ih =>
    rw [List.count_cons]
    simpa using ih

theorem lineFeeds_le (p : Piece) : p.lineFeeds ≤ p.chars.count '\n' := by
  fun_cases lineFeeds p with
  | case1 cs => exact Nat.le_refl _
  | case2 cs => exact bareLineFeeds_le cs
  | case3 kind cs => exact Nat.zero_le _

end Piece

theorem lineFeedsOf_le (ps : List Piece) :
    lineFeedsOf ps ≤ (ps.flatMap Piece.chars).count '\n' := by
  induction ps with
  | nil => exact Nat.le_refl _
  | cons p ps ih =>
    rw [lineFeedsOf, List.flatMap_cons, List.count_append]
    exact Nat.add_le_add p.lineFeeds_le ih

theorem locate_line_le {offset line : Nat} {ps : List Piece} {t : Token}
    (h : t ∈ Token.locate offset line ps) : t.line ≤ line + lineFeedsOf ps := by
  induction ps generalizing offset line with
  | nil =>
    rw [List.mem_singleton.1 h]
    exact Nat.le_refl _
  | cons p ps ih =>
    rw [lineFeedsOf, ← Nat.add_assoc]
    cases p with
    | gap cs => exact ih h
    | lexeme kind cs =>
      rcases List.mem_cons.1 h with rfl | h
      · exact Nat.le_add_right _ _
      · exact ih h

theorem locate_sorted (offset line : Nat) (ps : List Piece) :
    (Token.locate offset line ps).Pairwise fun a b => a.line ≤ b.line := by
  induction ps generalizing offset line with
  | nil => exact List.pairwise_singleton _ _
  | cons p ps ih =>
    cases p with
    | gap cs => exact ih _ _
    | lexeme kind cs => exact List.pairwise_cons.2 ⟨fun t ht => Token.locate_line ht, ih _ _⟩

theorem tokenize_sorted {text : List Char} {ts : List Token} (h : tokenize text = .ok ts) :
    ts.Pairwise fun a b => a.line ≤ b.line := by
  unfold tokenize at h
  split at h
  · cases h
    exact locate_sorted _ _ _
  · cases h

theorem tokenize_line_le {text : List Char} {ts : List Token} (h : tokenize text = .ok ts)
    {t : Token} (ht : t ∈ ts) : t.line ≤ 1 + text.count '\n' := by
  unfold tokenize at h
  split at h
  · rename_i pieces hcut
    cases h
    have hchars := cut_chars false text
    rw [hcut, List.append_nil] at hchars
    have hfeeds := lineFeedsOf_le pieces
    rw [hchars] at hfeeds
    exact Nat.le_trans (locate_line_le ht) (Nat.add_le_add_left hfeeds 1)
  · cases h

namespace Signature

/-- The span of some of the tokens of a text whose first line has the number `line`. -/
theorem linesOf_within {text : List Char} {ts us : List Token} (h : tokenize text = .ok ts)
    (hs : us.Sublist ts) (hne : us ≠ []) (line : Int) :
    ∃ lines, linesOf line us = some lines ∧ line ≤ lines.first ∧ lines.first ≤ lines.last ∧
      lines.last ≤ line + text.count '\n' := by
  obtain ⟨first, us, rfl⟩ := List.exists_cons_of_ne_nil hne
  have hlast := List.getLast_mem hne
  have hordered : first.line ≤ ((first :: us).getLast hne).line := by
    rcases List.mem_cons.1 hlast with he | hm
    · exact Nat.le_of_eq (by rw [he])
    · exact (List.pairwise_cons.1 ((tokenize_sorted h).sublist hs)).1 _ hm
  have hlow := tokenize_line h (hs.subset List.mem_cons_self)
  have hhigh := tokenize_line_le h (hs.subset hlast)
  refine ⟨_, by rw [linesOf, List.getLast?_eq_some_getLast hne]; rfl, ?_, ?_, ?_⟩ <;>
    simp only <;> omega

/-! ## Whole texts -/

/-- The constraints on a signature that was read from a text whose first line has the number
`line`. -/
structure Accepted (text : String) (line : Int) (sig : Signature) : Prop where
  /-- The constraints on its types. -/
  wellFormed : sig.WellFormed
  /-- Exactly one of a returned type and `void` is declared. -/
  ended : sig.isVoid = sig.returns.isNone
  nodup : sig.paramNames.Nodup
  /-- The parameters are declared in the order of the text. -/
  labelled : ∃ ts, tokenize text.toList = .ok ts ∧ sig.paramNames.Sublist (labels ts)
  reasoned : sig.abstractText.isSome → sig.abstract
  /-- The lines are lines of the text, in order. -/
  placed : ∃ lines, sig.span = some lines ∧ line ≤ lines.first ∧ lines.first ≤ lines.last ∧
    lines.last ≤ line + text.toList.count '\n'

/-- The steps by which a text is read as a signature. -/
theorem exists_of_parse_ok {text : String} {line : Int} {sig : Signature}
    (h : (parse text line).result = .ok sig) :
    ∃ ts us boundary read rest notes, tokenize text.toList = .ok ts ∧
      body text.toList.length ts.dropLast = .ok ⟨us, boundary⟩ ∧ us ≠ [] ∧
      Parser.chain {} us.length ⟨text.toList, boundary⟩ us = .ok read rest notes ∧
      placed read (linesOf line us) = .ok sig := by
  unfold parse at h
  simp only at h
  split at h
  · cases h
  · rename_i ts ht
    split at h
    · cases h
    · cases h
    · rename_i us boundary hne hb
      split at h
      · cases h
      · rename_i read rest notes hc
        exact ⟨ts, us, boundary, read, rest, notes, ht, hb, hne, hc, h⟩

theorem placed_eq_ok {read sig : Signature} {lines : LineSpan}
    (h : placed read (some lines) = .ok sig) : sig = { read with span := some lines } := by
  simp only [placed] at h
  split at h
  · cases h
  · cases h
    rfl

/-- **Signatures that were read.** Whatever a text is read as, it keeps the constraints. -/
theorem parse_accepted {text : String} {line : Int} {sig : Signature}
    (h : (parse text line).result = .ok sig) : Accepted text line sig := by
  have hsound := (parse_sound text line).1 sig h
  obtain ⟨ts, us, boundary, read, rest, notes, ht, hb, hne, hc, hp⟩ := exists_of_parse_ok h
  have hus : us <:+: ts := (body_isInfix hb).trans (List.dropLast_prefix ts).isInfix
  -- before the first call nothing is declared
  have hempty : Parser.Underway us us {} := ⟨List.Sublist.refl _, List.nodup_nil, by simp⟩
  obtain ⟨hread, hended⟩ := Parser.chain_underway hempty ⟨rfl, rfl⟩ us.length read rest notes hc
  obtain ⟨lines, hlines, hspan⟩ := linesOf_within ht hus.sublist hne line
  rw [hlines] at hp
  obtain rfl := placed_eq_ok hp
  have hnames : read.paramNames.Sublist (labels us) :=
    (List.sublist_append_left _ _).trans hread.labelled
  exact {
    wellFormed := hsound
    ended := hended
    nodup := hread.nodup
    labelled := ⟨ts, ht, hnames.trans (labels_isInfix hus)⟩
    reasoned := hread.reasoned
    placed := ⟨lines, rfl, hspan⟩ }

/-- A chain that declares parameters in two calls, with a recovery inside the first of them. -/
def recoveredChain : String :=
  "abstract(\"why\").params(f: T.proc.params((x\n, b: String).params(c: self).void"

theorem parse_accepted_recoveredChain : ∃ sig, (parse recoveredChain 4).result = .ok sig ∧
    sig.paramNames = ["f", "b", "c"] ∧ sig.span = some ⟨4, 5⟩ ∧ Accepted recoveredChain 4 sig := by
  have hread : (parse recoveredChain 4).result.toOption.map
      (fun sig => (sig.paramNames, sig.span)) = some (["f", "b", "c"], some ⟨4, 5⟩) := by
    decide +kernel
  obtain ⟨sig, hsome, hfields⟩ := Option.map_eq_some_iff.1 hread
  have hok : (parse recoveredChain 4).result = .ok sig := by
    cases hr : (parse recoveredChain 4).result with
    | error e => simp [hr, Except.toOption] at hsome
    | ok read => simpa [hr, Except.toOption] using hsome
  obtain ⟨hnames, hspan⟩ := Prod.mk.inj hfields
  exact ⟨sig, hok, hnames, hspan, parse_accepted hok⟩

end Signature

end TypeTags
