import TypeTags.Proofs.Signature.Leftover
import TypeTags.Proofs.Signature.Twin
import TypeTags.Proofs.Token.Span

/-!
# Types that are kept as they are written

A procedure type, and a helper of `T` that has no rule of its own, are kept as the text from their
first token to their last one, on one line. How far they reach is a matter of their brackets alone,
and squeezing the text keeps all brackets. So the one line is read back as the type that it was
kept for; but a comment inside is put on that line too, and hides what stood on the lines below it.

Results:
* `Parser.type_kept`, `Parser.kept_of_proc`, `Parser.kept_of_simple`: which tokens are read as such
  a type.
* `Kept.alike`: string literals may be replaced by others.
* `TypeExpr.parse_captured`: reading back what was kept.
-/

namespace TypeTags

/-! ## Brackets -/

/-- The same brackets close the same group. -/
theorem matchGroup_kinds {awaited : TokenKind} {ts us rest : List Token} {closer : Token}
    (h : matchGroup awaited [] ts = .closed closer rest)
    (hk : us.map Token.kind = ts.map Token.kind) :
    ∃ inside closer' rest', us = inside ++ closer' :: rest' ∧
      rest'.map Token.kind = rest.map Token.kind ∧
      matchGroup awaited [] us = .closed closer' rest' := by
  obtain ⟨used, rfl, hcloser, hstack⟩ := matchGroup_closed h
  rw [List.map_append, List.map_cons, List.map_eq_append_iff] at hk
  obtain ⟨inside, behind, rfl, hinside, hbehind⟩ := hk
  obtain ⟨closer', rest', rfl, hkind, hrest⟩ := List.map_eq_cons_iff.1 hbehind
  refine ⟨inside, closer', rest', rfl, hrest, ?_⟩
  have hplain : closer.kind.closer? = none := by
    cases hc : closer.kind <;> first | rfl | simp [hc, TokenKind.isCloser] at hcloser
  rw [← hinside] at hstack
  rw [matchGroup_append hstack, matchGroup, hkind, hplain]
  simp [hcloser]

/-- A chain of calls that takes all the tokens ends with the last of them, and so does one of the
same kinds. -/
theorem callChain_kinds {stop stop' n : Nat} {ts us : List Token}
    (h : callChain stop n ts = .closed stop' [])
    (hk : us.map Token.kind = ts.map Token.kind) (offset : Nat) :
    callChain offset n us = .closed (endOf offset us) [] := by
  induction n generalizing stop ts offset us with
  | zero =>
    cases h
    obtain rfl := List.map_eq_nil_iff.1 hk
    rfl
  | succ n ih =>
    match ts with
    | [] =>
      obtain rfl := List.map_eq_nil_iff.1 hk
      rfl
    | [t] => cases h
    | dot :: word :: ts =>
      obtain ⟨dot', behind, rfl, hdot, hbehind⟩ := List.map_eq_cons_iff.1 hk
      obtain ⟨word', us, rfl, hword, hus⟩ := List.map_eq_cons_iff.1 hbehind
      simp only [callChain, hdot, hword] at h ⊢
      split at h
      · rename_i hcall
        rw [if_pos hcall, endOf_cons, endOf_cons]
        split at h
        · obtain rfl := List.map_eq_nil_iff.1 hus
          rfl
        · rename_i paren inside
          obtain ⟨paren', inside', rfl, hparen, hinside⟩ := List.map_eq_cons_iff.1 hus
          simp only [hparen] at ⊢
          split at h
          · rename_i hopen
            rw [if_pos hopen]
            split at h
            · rename_i closer left hg
              obtain ⟨used, closer', left', rfl, hleft, hg'⟩ := matchGroup_kinds hg hinside
              rw [hg', endOf_cons, endOf_append, endOf_cons]
              exact ih h hleft _
            · cases h
            · cases h
          · rename_i hopen
            rw [if_neg hopen]
            exact ih h hus _
      · cases h

/-! ## Tokens of a type that is kept -/

/-- The tokens start with `T`, a dot and a name that is that of no helper with a rule of its own. -/
def NamesHelper : List Token → Prop
  | first :: dot :: word :: _ => first.word = (.const, "T") ∧ dot.kind = .dot ∧
      word.kind = .ident ∧ word.value ∉ "proc" :: helperNames
  | _ => False

instance : DecidablePred NamesHelper
  | _ :: _ :: _ :: _ => inferInstanceAs (Decidable (_ ∧ _ ∧ _ ∧ _))
  | [] | [_] | [_, _] => inferInstanceAs (Decidable False)

/-- The tokens, the first one apart, are read as a type of one of the two forms that keep their
text. -/
inductive Kept : (String → TypeExpr) → Token → List Token → Prop where
  /-- A procedure type with its calls. -/
  | proc {first dot word : Token} {rest : List Token} {stop : Nat}
      (hfirst : first.word = (.const, "T")) (hdot : dot.kind = .dot)
      (hword : word.word = (.ident, "proc"))
      (hcalls : callChain word.stop rest.length rest = .closed stop []) :
      Kept .proc first (dot :: word :: rest)
  /-- A helper without arguments. -/
  | name {first dot word : Token} (hn : NamesHelper [first, dot, word]) :
      Kept .simple first [dot, word]
  /-- A helper with its arguments. -/
  | call {first dot word paren closer : Token} {rest : List Token}
      (hn : NamesHelper (first :: dot :: word :: paren :: rest)) (hparen : paren.kind = .lparen)
      (hgroup : matchGroup .rparen [] rest = .closed closer []) :
      Kept .simple first (dot :: word :: paren :: rest)

namespace Parser

variable {first dot word : Token} {ts us : List Token}

/-- Reading goes on behind `T` and a dot. -/
theorem type_helper (hfirst : first.word = (.const, "T")) (hdot : dot.kind = .dot) (s : Source)
    (ts : List Token) :
    type s (first :: dot :: ts) =
      helperType (typeAt (ts.length + 1)) (ts.length + 1) s (first :: dot :: ts) := by
  obtain ⟨hkind, hvalue⟩ := Prod.mk.inj hfirst
  simp [type, typeAt, typeStep, hkind, hvalue, hdot]

/-- A helper that has no rule of its own. -/
theorem type_unknownHelper (hn : NamesHelper (first :: dot :: word :: ts)) (s : Source) :
    type s (first :: dot :: word :: ts) = opaqueHelper first word s ts := by
  obtain ⟨hfirst, hdot, hword, hnew⟩ := hn
  simp only [helperNames, List.mem_cons, not_or] at hnew
  rw [type_helper hfirst hdot]
  simp [helperType, expect_run, hword, hnew]

theorem opaqueHelper_call {paren closer : Token} {left : List Token} (hparen : paren.kind = .lparen)
    (hgroup : matchGroup .rparen [] ts = .closed closer left) (s : Source) :
    opaqueHelper first word s (paren :: ts) =
      .ok (.simple (String.ofList (Text.squeeze (s.slice first.start closer.stop)))) left [] := by
  simp [opaqueHelper, verbatim, hparen, group, TokenKind.closer?, hgroup]

/-- The tokens are all read, and the text of all of them is kept. -/
theorem type_kept {form : String → TypeExpr} (h : Kept form first ts) (s : Source) :
    type s (first :: ts) = .ok
      (form (String.ofList (Text.squeeze (s.slice first.start (endOf first.stop ts))))) [] [] := by
  cases h with
  | @proc _ dot word rest stop hfirst hdot hword hcalls =>
    obtain ⟨hkind, hvalue⟩ := Prod.mk.inj hword
    have hend : callChain word.stop rest.length rest = .closed (endOf word.stop rest) [] :=
      callChain_kinds hcalls rfl _
    rw [type_helper hfirst hdot, endOf_cons, endOf_cons]
    simp [helperType, expect_run, hkind, hvalue, procType, hend, verbatim]
  | name hn =>
    rw [type_unknownHelper hn, endOf_cons, endOf_cons]
    simp [opaqueHelper, verbatim, Token.endMark]
  | @call _ dot word paren closer rest hn hparen hgroup =>
    have hend : endOf paren.stop rest = closer.stop := by
      obtain ⟨inside, rfl⟩ := matchGroup_suffix hgroup
      rw [endOf_append, endOf_cons, endOf_nil]
    rw [type_unknownHelper hn, endOf_cons, endOf_cons, endOf_cons, hend,
      opaqueHelper_call hparen hgroup]

/-! ## What is kept, by the type -/

def NoProc (t : TypeExpr) (_ : List Token) : Prop := ∀ raw, t ≠ .proc raw

/-- Whatever the steps before it answer. -/
theorem answers_behind {α β : Type} {Q : β → List Token → Prop} {p : Parser α} {f : α → Parser β}
    {s : Source} (hf : ∀ a rest, Answers Q (f a) s rest) : Answers Q (p >>= f) s ts := by
  have hany : Answers (fun _ _ => True) p s ts := fun _ _ _ _ => trivial
  exact hany.bind fun a rest _ => hf a rest

section Items

variable {item : Parser TypeExpr} {s : Source}

theorem noProc_payload (n : Nat) (name : String) (offset : Nat) (ts : List Token) :
    Answers NoProc (payload item n name offset) s ts := by
  have hbare : ∀ raw, bare name ≠ .proc raw := by
    intro raw
    unfold bare
    split <;> nofun
  refine answers_behind fun next ts => ?_
  cases next.kind with
  | lbrack =>
    refine answers_behind fun _ ts => answers_behind fun args ts => ?_
    split
    · split
      · exact Answers.pure nofun
      · exact answers_fault _ _
    · exact Answers.pure nofun
  | lt => exact answers_behind fun _ ts => answers_behind fun _ ts => Answers.pure nofun
  | lbrace =>
    refine answers_behind fun _ ts => answers_behind fun _ ts => answers_behind fun _ ts => ?_
    exact answers_behind fun _ ts => answers_behind fun _ ts => Answers.pure nofun
  | lparen =>
    dsimp only
    split
    · exact answers_behind fun _ ts => answers_behind fun _ ts => Answers.pure nofun
    · exact Answers.pure hbare
  | _ => exact Answers.pure hbare

theorem noProc_constantType (n : Nat) (ts : List Token) :
    Answers NoProc (constantType item n) s ts := by
  refine answers_behind fun first ts => answers_behind fun segments ts => ?_
  split
  · exact Answers.pure nofun
  split
  · exact Answers.pure nofun
  · exact noProc_payload n _ _ ts

/-- The type is no procedure type, or the tokens are those of one. -/
def ProcKept (ts : List Token) (t : TypeExpr) (rest : List Token) : Prop :=
  ∀ raw, t = .proc raw → rest = [] → ∃ first us, ts = first :: us ∧ Kept .proc first us

/-- A type that is no procedure type, wherever the tokens start. -/
theorem procKept_of_noProc {p : Parser TypeExpr} (hp : Answers NoProc p s us) :
    Answers (ProcKept ts) p s us :=
  hp.mono fun _ _ ht raw hraw => absurd hraw (ht raw)

theorem procKept_helperType (hfirst : first.word = (.const, "T")) (hdot : dot.kind = .dot) (n : Nat)
    (ts : List Token) :
    Answers (ProcKept (first :: dot :: ts)) (helperType item n) s (first :: dot :: ts) := by
  refine Answers.step (tokens_run s _) (Answers.step (advance_run s _)
    (Answers.step (advance_run s _) ?_))
  refine (answers_expect (by simp) _).bind ?_
  rintro word rest ⟨hts, hword⟩
  obtain rfl : ts = word :: rest := hts
  split
  · exact procKept_of_noProc (answers_behind fun _ ts => Answers.pure nofun)
  split
  · refine procKept_of_noProc (answers_behind fun _ ts => ?_)
    exact answers_behind fun _ ts => Answers.pure nofun
  split
  · exact procKept_of_noProc (Answers.pure nofun)
  split
  · exact procKept_of_noProc (Answers.pure nofun)
  split
  · exact procKept_of_noProc (answers_behind fun _ ts => Answers.pure nofun)
  split
  · rename_i hproc
    refine Answers.step (tokens_run s rest) ?_
    split
    · rename_i stop left hc
      refine Answers.resume_bind ?_
      rintro _ _ _ ⟨⟩ raw hraw rfl
      exact ⟨first, _, rfl, .proc hfirst hdot (Prod.ext hword hproc) hc⟩
    · refine procKept_of_noProc (answers_behind fun _ ts => answers_behind fun _ ts => ?_)
      exact answers_behind fun _ ts => Answers.pure nofun
    · exact answers_fault _ _
  · refine procKept_of_noProc (answers_behind fun _ ts => ?_)
    split
    · exact answers_behind fun _ ts => answers_behind fun _ ts => Answers.pure nofun
    · exact answers_behind fun _ ts => Answers.pure nofun

theorem procKept_typeStep (n : Nat) (ts : List Token) :
    Answers (ProcKept ts) (typeStep item n) s ts := by
  have hno : ∀ us, Answers NoProc noType s us :=
    fun us => answers_behind fun _ ts => answers_fault _ _
  refine Answers.step (peek_run s ts) ?_
  cases hk : (front s ts).kind with
  | lbrack =>
    refine procKept_of_noProc (answers_behind fun _ ts => answers_behind fun next ts => ?_)
    split
    · exact answers_fault _ _
    · exact answers_behind fun _ ts => Answers.pure nofun
  | lbrace => exact procKept_of_noProc (answers_behind fun _ ts => Answers.pure nofun)
  | const =>
    refine Answers.step (peekAt_run s ts 1) ?_
    split
    · rename_i hdot
      obtain ⟨first, behind, rfl, -⟩ := exists_of_front hk (by simp)
      obtain ⟨dot, rest, rfl, -⟩ := exists_of_front hdot.2 (by simp)
      exact procKept_helperType (Prod.ext hk hdot.1) hdot.2 n rest
    · exact procKept_of_noProc (noProc_constantType n ts)
  | scope => exact procKept_of_noProc (noProc_constantType n ts)
  | ident =>
    dsimp only
    split
    · exact procKept_of_noProc (answers_behind fun _ ts => Answers.pure nofun)
    · exact procKept_of_noProc (hno ts)
  | _ => exact procKept_of_noProc (hno ts)

end Items

theorem kept_of_proc {s : Source} {raw : String} {notes : List UnclosedProc}
    (h : type s ts = .ok (.proc raw) [] notes) :
    ∃ first us, ts = first :: us ∧ Kept .proc first us := by
  unfold type at h
  cases hlen : ts.length with
  | zero =>
    rw [hlen] at h
    cases h
  | succ n =>
    rw [hlen] at h
    exact procKept_typeStep n ts _ _ _ h raw rfl rfl

theorem kept_of_simple {s : Source} {raw : String} {notes : List UnclosedProc}
    (h : type s ts = .ok (.simple raw) [] notes) (hn : NamesHelper ts) :
    ∃ first us, ts = first :: us ∧ Kept .simple first us := by
  match ts with
  | first :: dot :: word :: behind =>
    refine ⟨first, _, rfl, ?_⟩
    rw [type_unknownHelper hn] at h
    match behind with
    | [] => exact .name hn
    | paren :: rest =>
      by_cases hparen : paren.kind = .lparen
      · cases hg : matchGroup .rparen [] rest with
        | closed closer left =>
          rw [opaqueHelper_call hparen hg] at h
          cases h
          exact .call hn hparen hg
        | unclosed => simp [opaqueHelper, hparen, group, TokenKind.closer?, hg] at h
        | mismatched found => simp [opaqueHelper, hparen, group, TokenKind.closer?, hg] at h
      · simp [opaqueHelper, verbatim, hparen] at h

/-- What is left of a helper in front of a comment: `T` by itself, or with a dot. -/
theorem type_cut {s : Source} {raw : String} {notes : List UnclosedProc} {rest : List Token}
    (hfirst : first.word = (.const, "T")) (hrest : rest.map Token.kind ∈ [[], [TokenKind.dot]])
    (h : type s (first :: rest) = .ok (.simple raw) [] notes) : raw = "T" ∧ rest = [] := by
  simp only [List.mem_cons, List.not_mem_nil, or_false, List.map_eq_nil_iff,
    List.map_eq_cons_iff] at hrest
  rcases hrest with rfl | ⟨dot, _, rfl, hdot, rfl⟩
  · obtain ⟨hkind, hvalue⟩ := Prod.mk.inj hfirst
    have hrun : type s [first] = .ok (.simple "T") [] [] := by
      simp [type, typeAt, typeStep, hkind, hvalue, constantType, constantPath, accept_run,
        expect_run, pathTail, payload, bare, pathName, Token.endMark]
    rw [hrun] at h
    cases h
    exact ⟨rfl, rfl⟩
  · rw [type_helper hfirst hdot] at h
    simp [helperType, expect_run, Token.endMark] at h

end Parser

/-! ## The same brackets and names -/

/-- The same kinds, and other values of string literals only. -/
theorem kinds_of_sameShape {ts us : List Token}
    (h : List.Forall₂ SameShape (ts.map Token.word) (us.map Token.word)) :
    us.map Token.kind = ts.map Token.kind := by
  rw [List.forall₂_map_left_iff, List.forall₂_map_right_iff] at h
  induction h with
  | nil => rfl
  | cons ht h ih => exact congrArg₂ List.cons ht.1 ih

/-- Names stay, and the brackets behind them. -/
theorem exists_front_alike {first dot word : Token} {rest us : List Token}
    (hfirst : first.kind = .const) (hword : word.kind = .ident)
    (hs : List.Forall₂ SameShape ((first :: dot :: word :: rest).map Token.word)
      (us.map Token.word)) :
    ∃ first' dot' word' rest', us = first' :: dot' :: word' :: rest' ∧
      first'.word = first.word ∧ dot'.kind = dot.kind ∧ word'.word = word.word ∧
      rest'.map Token.kind = rest.map Token.kind := by
  have hkinds := kinds_of_sameShape hs
  rw [List.forall₂_map_left_iff, List.forall₂_map_right_iff] at hs
  obtain _ | ⟨hf, _ | ⟨hd, _ | ⟨hw, hrest⟩⟩⟩ := hs
  simp only [List.map_cons, List.cons.injEq] at hkinds
  refine ⟨_, _, _, _, rfl, hf.eq ?_, hd.1, hw.eq ?_, hkinds.2.2.2⟩
  · simp [Token.word, hfirst]
  · simp [Token.word, hword]

/-- The tokens of a type that is kept, with other string literals. -/
theorem Kept.alike {form : String → TypeExpr} {first : Token} {ts us : List Token}
    (h : Kept form first ts)
    (hs : List.Forall₂ SameShape ((first :: ts).map Token.word) (us.map Token.word)) :
    ∃ first' ts', us = first' :: ts' ∧ Kept form first' ts' := by
  cases h with
  | @proc _ dot word rest stop hfirst hdot hword hcalls =>
    obtain ⟨first', dot', word', rest', rfl, hf, hd, hw, hkinds⟩ :=
      exists_front_alike (congrArg Prod.fst hfirst) (congrArg Prod.fst hword) hs
    have hlen : rest'.length = rest.length := by simpa using congrArg List.length hkinds
    have hcalls' := callChain_kinds hcalls hkinds word'.stop
    rw [← hlen] at hcalls'
    exact ⟨first', _, rfl, .proc (hf.trans hfirst) (hd.trans hdot) (hw.trans hword) hcalls'⟩
  | @name _ dot word hn =>
    obtain ⟨hfirst, hdot, hword, hnew⟩ := hn
    obtain ⟨first', dot', word', rest', rfl, hf, hd, hw, hkinds⟩ :=
      exists_front_alike (congrArg Prod.fst hfirst) hword hs
    obtain rfl := List.map_eq_nil_iff.1 hkinds
    obtain ⟨hkind, hvalue⟩ := Prod.mk.inj hw
    exact ⟨first', _, rfl,
      .name ⟨hf.trans hfirst, hd.trans hdot, hkind.trans hword, hvalue ▸ hnew⟩⟩
  | @call _ dot word paren closer rest hn hparen hgroup =>
    obtain ⟨hfirst, hdot, hword, hnew⟩ := hn
    obtain ⟨first', dot', word', behind, rfl, hf, hd, hw, hkinds⟩ :=
      exists_front_alike (congrArg Prod.fst hfirst) hword hs
    obtain ⟨paren', rest', rfl, hp, hrest⟩ := List.map_eq_cons_iff.1 hkinds
    obtain ⟨hkind, hvalue⟩ := Prod.mk.inj hw
    obtain ⟨inside, closer', left, rfl, hleft, hgroup'⟩ := matchGroup_kinds hgroup hrest
    obtain rfl := List.map_eq_nil_iff.1 hleft
    exact ⟨first', _, rfl,
      .call ⟨hf.trans hfirst, hd.trans hdot, hkind.trans hword, hvalue ▸ hnew⟩
        (hp.trans hparen) hgroup'⟩

theorem Kept.injective {form : String → TypeExpr} {first : Token} {ts : List Token}
    (h : Kept form first ts) : Function.Injective form := by
  cases h <;> exact fun a b hab => by cases hab; rfl

/-! ## Whole texts -/

theorem TypeExpr.parse_eq_ok {text : String} {ts : List Token} {t : TypeExpr}
    (h : tokenize text.toList = .ok ts) :
    TypeExpr.parse text = .ok t ↔ ∃ notes,
      Parser.type ⟨text.toList, text.toList.length⟩ ts.dropLast = .ok t [] notes := by
  simp only [TypeExpr.parse, h]
  split
  · rename_i hr
    simp [hr]
  · rename_i hr
    simp [hr]
  · rename_i hr
    simp [hr]

/-- The text that is kept of the tokens from the first one to the last, on one line. -/
def captured (text : List Char) (first : Token) (ts : List Token) : List Char :=
  Text.squeeze (Source.slice ⟨text, text.length⟩ first.start (endOf first.stop ts))

/-- What is kept is no longer than the text up to the last token. -/
theorem captured_length_le (text : List Char) (first : Token) (ts : List Token) :
    (captured text first ts).length ≤ endOf first.stop ts := by
  refine Nat.le_trans (Text.squeeze_length_le _) ?_
  simp only [Source.slice, List.length_take]
  omega

theorem captured_squeezed {text : List Char} {ts rest : List Token} {first : Token}
    (hts : tokenize text = .ok ts) (hfirst : ts.dropLast = first :: rest) :
    ∃ us, tokenize (captured text first rest) = .ok us ∧
      Squeezed ([] :: innerGaps text ts ++ [text.drop (endOf 0 ts.dropLast)])
        (ts.map Token.word) (gapsOf (captured text first rest) us) (us.map Token.word) := by
  have hend : captured text first rest = Text.squeeze
      (Source.slice ⟨text, text.length⟩ first.start (endOf 0 ts.dropLast)) := by
    rw [captured, hfirst, endOf_cons]
  rw [hend]
  exact tokenize_squeeze hts hfirst text.length

/-- A type that is kept is read with its captured text. -/
theorem parse_of_kept {form : String → TypeExpr} {text : String} {ts rest : List Token}
    {first : Token} (hts : tokenize text.toList = .ok ts) (hfirst : ts.dropLast = first :: rest)
    (h : Kept form first rest) :
    TypeExpr.parse text = .ok (form (String.ofList (captured text.toList first rest))) :=
  (TypeExpr.parse_eq_ok hts).2 ⟨[], by rw [hfirst]; exact Parser.type_kept h _⟩

/-- Without comments inside, the captured text is read as what it was kept for. -/
theorem parse_of_blank {form : String → TypeExpr} {text : List Char} {ts rest : List Token}
    {first : Token} (hts : tokenize text = .ok ts) (hfirst : ts.dropLast = first :: rest)
    (h : Kept form first rest) (hn : ∀ gap ∈ innerGaps text ts, '#' ∉ gap) :
    TypeExpr.parse (String.ofList (captured text first rest)) =
      .ok (form (String.ofList (captured text first rest))) := by
  obtain ⟨us, hus, hsqueezed⟩ := captured_squeezed hts hfirst
  have hline : '\n' ∉ captured text first rest := Text.newline_notMem_squeeze _
  generalize captured text first rest = line at hus hsqueezed hline ⊢
  have hgaps : ∀ gap ∈ [] :: innerGaps text ts, '#' ∉ gap := List.forall_mem_cons.2 ⟨by simp, hn⟩
  obtain ⟨hwords, hlast⟩ := hsqueezed.of_blank (by rwa [List.dropLast_concat])
  -- the tokens of the line, without the end mark, are those that were kept
  have hshape : List.Forall₂ SameShape ((first :: rest).map Token.word)
      (us.dropLast.map Token.word) := by
    have hlen := hwords.length_eq
    have htake := List.forall₂_take (ts.length - 1) hwords
    simp only [List.length_map] at hlen
    rw [← List.map_take, ← List.map_take, ← List.dropLast_eq_take, hfirst, hlen,
      ← List.dropLast_eq_take] at htake
    exact htake
  obtain ⟨first', rest', hfirst', hkept⟩ := h.alike hshape
  have hslice := slice_whole hus hfirst' hsqueezed.head hlast line.length
  have hsolid := span_solid hus hfirst'
  rw [← slice_span hus hfirst' line.length, hslice] at hsolid
  rw [hfirst', endOf_cons] at hslice
  have hsame : captured line first' rest' = line := by
    rw [captured, hslice, Text.squeeze_oneLine hsolid hline]
  rw [← String.toList_ofList (l := line)] at hus
  have hread := parse_of_kept hus hfirst' hkept
  rwa [String.toList_ofList, hsame] at hread

theorem names_dropLast {text : List Char} {ts : List Token} (h : tokenize text = .ok ts)
    (hn : NamesHelper ts) : NamesHelper ts.dropLast := by
  obtain ⟨line, hconcat⟩ := tokenize_concat h
  match hinit : ts.dropLast with
  | first :: dot :: word :: behind =>
    rw [hconcat, hinit] at hn
    exact hn
  | [first, dot] =>
    -- the third token is the end mark
    rw [hconcat, hinit] at hn
    cases hn.2.2.1
  | [first] =>
    rw [hconcat, hinit] at hn
    cases hn
  | [] =>
    rw [hconcat, hinit] at hn
    cases hn

/-- What is left of the tokens in front of a comment: the three in front at least, or less. -/
theorem names_of_squeezed {gaps gaps' : List (List Char)} {ts us : List Token}
    (h : Squeezed ([] :: gaps) (ts.map Token.word) gaps' (us.map Token.word))
    (hn : NamesHelper ts) :
    NamesHelper us ∨ ∃ first more, us = first :: more ∧ first.word = (.const, "T") ∧
      more.map Token.kind ∈ [[TokenKind.eof], [TokenKind.dot, TokenKind.eof]] := by
  match ts with
  | first :: dot :: word :: behind =>
    obtain ⟨hfirst, hdot, hword, hnew⟩ := hn
    have hkinds : first.word.1 ≠ .string ∧ dot.word.1 ≠ .string ∧ word.word.1 ≠ .string := by
      simp [Token.word, hdot, hword, show first.kind = .const from congrArg Prod.fst hfirst]
    have hfront := h.front hkinds.1 hkinds.2.1 hkinds.2.2
    simp only [List.map_eq_cons_iff, List.map_eq_nil_iff] at hfront
    have kind_eq {t u : Token} (h : t.word = u.word) : t.kind = u.kind := congrArg Prod.fst h
    rcases hfront with ⟨f, _, rfl, hf, e, _, rfl, he, rfl⟩ |
      ⟨f, _, rfl, hf, d, _, rfl, hd, e, _, rfl, he, rfl⟩ |
      ⟨more, f, _, rfl, hf, d, _, rfl, hd, w, _, rfl, hw, -⟩
    · have hend : e.kind = .eof := congrArg Prod.fst he
      exact .inr ⟨f, _, rfl, hf.trans hfirst, by simp [hend]⟩
    · have hend : e.kind = .eof := congrArg Prod.fst he
      exact .inr ⟨f, _, rfl, hf.trans hfirst, by simp [hend, kind_eq hd, hdot]⟩
    · have hvalue : w.value = word.value := congrArg Prod.snd hw
      exact .inl ⟨hf.trans hfirst, (kind_eq hd).trans hdot, (kind_eq hw).trans hword,
        hvalue ▸ hnew⟩

/-- Whatever is read from a squeezed text is no longer than the text up to its last token. -/
theorem length_le_endOf {form : String → TypeExpr} {line : List Char} {ts us : List Token}
    {gaps gaps' : List (List Char)} {raw : String} {notes : List UnclosedProc}
    (hus : tokenize line = .ok us)
    (hkept : form = .proc ∨ form = .simple ∧ NamesHelper ts)
    (hsqueezed : Squeezed ([] :: gaps) (ts.map Token.word) gaps' (us.map Token.word))
    (h : Parser.type ⟨line, line.length⟩ us.dropLast = .ok (form raw) [] notes) :
    raw.length ≤ endOf 0 us.dropLast := by
  -- a type that is kept, whose text is that of the tokens
  have kept {first : Token} {rest : List Token} (hfirst : us.dropLast = first :: rest)
      (hk : Kept form first rest) : raw.length ≤ endOf 0 us.dropLast := by
    have hrun := Parser.type_kept hk ⟨line, line.length⟩
    rw [← hfirst, h] at hrun
    cases hk.injective (Outcome.ok.inj hrun).1
    rw [String.length_ofList, hfirst, endOf_cons]
    exact captured_length_le line first rest
  rcases hkept with rfl | ⟨rfl, hn⟩
  · obtain ⟨first, rest, hfirst, hk⟩ := Parser.kept_of_proc h
    exact kept hfirst hk
  rcases names_of_squeezed hsqueezed hn with hnames | ⟨first, more, rfl, hfirst, hmore⟩
  · obtain ⟨first, rest, hfirst, hk⟩ := Parser.kept_of_simple h (names_dropLast hus hnames)
    exact kept hfirst hk
  · have hne : more ≠ [] := by
      rintro rfl
      simp at hmore
    rw [List.dropLast_cons_of_ne_nil hne] at h ⊢
    have hleft : more.dropLast.map Token.kind ∈ [[], [TokenKind.dot]] := by
      rw [List.map_dropLast]
      simp only [List.mem_cons, List.not_mem_nil, or_false] at hmore
      rcases hmore with hmore | hmore <;> simp [hmore]
    obtain ⟨rfl, hnil⟩ := Parser.type_cut hfirst hleft h
    -- the constant is read, and it takes at least one character
    have hpos : first.start < first.stop :=
      ((tokenize_laid hus).stands first (by simp [List.dropLast_cons_of_ne_nil hne])).start_lt_stop
    rw [hnil, endOf_cons, endOf_nil, show "T".length = 1 from rfl]
    omega

/-- **Verbatim capture.** A procedure type, or a helper of `T` without a rule of its own, is kept as
one line, and that line is read as the same type exactly if the tokens have no comment between
them. -/
theorem TypeExpr.parse_captured {s raw : String} {t : TypeExpr} {ts : List Token}
    (hts : tokenize s.toList = .ok ts) (ht : TypeExpr.parse s = .ok t)
    (hkept : t = .proc raw ∨ t = .simple raw ∧ NamesHelper ts) :
    '\n' ∉ raw.toList ∧
      (TypeExpr.parse raw = .ok t ↔ ∀ gap ∈ innerGaps s.toList ts, '#' ∉ gap) := by
  obtain ⟨notes, hrun⟩ := (TypeExpr.parse_eq_ok hts).1 ht
  obtain ⟨form, hform, rfl⟩ : ∃ form : String → TypeExpr,
      (form = .proc ∨ form = .simple ∧ NamesHelper ts) ∧ t = form raw := by
    rcases hkept with rfl | ⟨rfl, hn⟩
    · exact ⟨.proc, .inl rfl, rfl⟩
    · exact ⟨.simple, .inr ⟨rfl, hn⟩, rfl⟩
  obtain ⟨first, rest, hfirst, hk⟩ : ∃ first rest, ts.dropLast = first :: rest ∧
      Kept form first rest := by
    rcases hform with rfl | ⟨rfl, hn⟩
    · exact Parser.kept_of_proc hrun
    · exact Parser.kept_of_simple hrun (names_dropLast hts hn)
  have hagain := Parser.type_kept hk ⟨s.toList, s.toList.length⟩
  rw [← hfirst, hrun] at hagain
  obtain rfl : raw = String.ofList (captured s.toList first rest) :=
    hk.injective (Outcome.ok.inj hagain).1
  have hline : '\n' ∉ captured s.toList first rest := Text.newline_notMem_squeeze _
  refine ⟨by rwa [String.toList_ofList], fun hread => ?_,
    parse_of_blank hts hfirst hk⟩
  -- behind a comment nothing is read, so the type that is read from the line is shorter
  by_contra hcomment
  obtain ⟨us, hus, hsqueezed⟩ := captured_squeezed hts hfirst
  have hgaps : ∃ gap ∈ ([] :: innerGaps s.toList ts ++
      [s.toList.drop (endOf 0 ts.dropLast)]).dropLast, '#' ∈ gap := by
    rw [List.dropLast_concat]
    simp only [not_forall, not_not] at hcomment
    obtain ⟨gap, hm, hhash⟩ := hcomment
    exact ⟨gap, List.mem_cons_of_mem _ hm, hhash⟩
  obtain ⟨gap, hlast, hne⟩ := hsqueezed.of_comment hgaps
  rw [tokenize_gaps hus, List.getLast?_concat, Option.some.injEq] at hlast
  have hshort : endOf 0 us.dropLast < (captured s.toList first rest).length := by
    by_contra hlong
    exact hne (hlast ▸ List.drop_eq_nil_of_le (by omega))
  obtain ⟨notes', hrun'⟩ :=
    (TypeExpr.parse_eq_ok (by rwa [String.toList_ofList])).1 hread
  rw [String.toList_ofList] at hrun'
  have hlen := length_le_endOf hus hform hsqueezed hrun'
  rw [String.length_ofList] at hlen
  omega

/-- A helper without a rule of its own, with a line break in a literal and one between its
arguments. -/
def foldedHelper : String := "T.foo(\n  x: 'a\n b',\n  y: String\n)"

def foldedTokens : List Token := Token.locate 0 1 (cut false foldedHelper.toList).pieces

/-- A procedure type with a comment behind one of its parameters. -/
def commentedProc : String := "T.proc.params(\n  x: Integer, # the x\n  y: String\n).void"

def commentedTokens : List Token := Token.locate 0 1 (cut false commentedProc.toList).pieces

theorem TypeExpr.parse_captured_foldedHelper :
    TypeExpr.parse foldedHelper = .ok (.simple "T.foo( x: 'a b', y: String )") ∧
    TypeExpr.parse "T.foo( x: 'a b', y: String )" = .ok (.simple "T.foo( x: 'a b', y: String )") ∧
    TypeExpr.parse commentedProc =
      .ok (.proc "T.proc.params( x: Integer, # the x y: String ).void") ∧
    TypeExpr.parse "T.proc.params( x: Integer, # the x y: String ).void" ≠
      .ok (.proc "T.proc.params( x: Integer, # the x y: String ).void") := by
  have hhelper : tokenize foldedHelper.toList = .ok foldedTokens :=
    tokenize_of_cut (by decide +kernel)
  have hproc : tokenize commentedProc.toList = .ok commentedTokens :=
    tokenize_of_cut (by decide +kernel)
  have hfolded : TypeExpr.parse foldedHelper = .ok (.simple "T.foo( x: 'a b', y: String )") := by
    have hfront : foldedTokens.dropLast =
        ⟨.const, "T", 0, 1, 1⟩ :: ⟨.dot, ".", 1, 2, 1⟩ :: ⟨.ident, "foo", 2, 5, 1⟩ ::
        ⟨.lparen, "(", 5, 6, 1⟩ :: foldedTokens.dropLast.drop 4 := by decide +kernel
    have hgroup : matchGroup .rparen [] (foldedTokens.dropLast.drop 4) =
        .closed ⟨.rparen, ")", 32, 33, 5⟩ [] := by decide +kernel
    have hraw : String.ofList (captured foldedHelper.toList ⟨.const, "T", 0, 1, 1⟩
        foldedTokens.dropLast.tail) = "T.foo( x: 'a b', y: String )" := by decide +kernel
    rw [hfront, List.tail_cons] at hraw
    rw [parse_of_kept hhelper hfront (.call (by decide +kernel) rfl hgroup), hraw]
  have hcommented : TypeExpr.parse commentedProc =
      .ok (.proc "T.proc.params( x: Integer, # the x y: String ).void") := by
    have hfront : commentedTokens.dropLast =
        ⟨.const, "T", 0, 1, 1⟩ :: ⟨.dot, ".", 1, 2, 1⟩ :: ⟨.ident, "proc", 2, 6, 1⟩ ::
        commentedTokens.dropLast.drop 3 := by decide +kernel
    have hcalls : callChain 6 (commentedTokens.dropLast.drop 3).length
        (commentedTokens.dropLast.drop 3) = .closed 55 [] := by decide +kernel
    have hraw : String.ofList (captured commentedProc.toList ⟨.const, "T", 0, 1, 1⟩
        commentedTokens.dropLast.tail) =
        "T.proc.params( x: Integer, # the x y: String ).void" := by decide +kernel
    rw [hfront, List.tail_cons] at hraw
    rw [parse_of_kept hproc hfront (.proc rfl rfl rfl hcalls), hraw]
  have hagain := TypeExpr.parse_captured hhelper hfolded (.inr ⟨rfl, by decide +kernel⟩)
  have hlost := TypeExpr.parse_captured hproc hcommented (.inl rfl)
  refine ⟨hfolded, hagain.2.2 (by decide +kernel), hcommented, fun hread => ?_⟩
  exact absurd (hlost.2.1 hread) (by decide +kernel)

end TypeTags
