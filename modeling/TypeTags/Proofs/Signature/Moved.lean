import TypeTags.Proofs.Signature.Lines
import TypeTags.Proofs.Signature.Reading
import TypeTags.Proofs.Token.Joined

/-!
# Reading tokens that stand further on in a larger text

A signature that is read without notes is read the same wherever its tokens stand: the offsets and
lines of tokens show only in faults, in notes, and in the slices of the text that procedure types
keep. `Shift` is a text inside a larger one, and `Follows` says that a parser on the moved tokens
does as a parser on the tokens does, whenever that one succeeds without notes.

Results:
* `Follows.bind`: sequences follow when their parts do.
* `follows_typeAt`: the reading of types follows.
* `follows_chain`: the reading of a chain follows.
-/

namespace TypeTags

/-- A text that stands, some characters and some lines further on, in another. -/
structure Shift where
  inner : Source
  outer : Source
  chars : Nat
  lines : Nat
  /-- The larger text shows the smaller one. -/
  shows : ∀ start stop, stop ≤ inner.text.length →
    outer.slice (start + chars) (stop + chars) = inner.slice start stop

namespace Shift

/-- The place of a token in the larger text. -/
def move (σ : Shift) (t : Token) : Token := t.move σ.chars σ.lines

@[simp] theorem move_kind (σ : Shift) (t : Token) : (σ.move t).kind = t.kind := rfl

@[simp] theorem move_value (σ : Shift) (t : Token) : (σ.move t).value = t.value := rfl

/-- The tokens end inside the smaller text. -/
def Within (σ : Shift) (ts : List Token) : Prop := ∀ t ∈ ts, t.stop ≤ σ.inner.text.length

theorem Within.subset {σ : Shift} {ts us : List Token} (h : σ.Within ts) (hs : us ⊆ ts) :
    σ.Within us :=
  fun t ht => h t (hs ht)

/-- A token inside the smaller text, and the same one in the larger text. -/
def Carries (σ : Shift) (a b : Token) : Prop := b = σ.move a ∧ a.stop ≤ σ.inner.text.length

end Shift

/-- Two tokens of one kind and text. -/
def SameWord (a b : Token) : Prop := b.kind = a.kind ∧ b.value = a.value

namespace Parser

variable {α β γ δ : Type} {σ : Shift}

/-- Whenever `p` reads tokens of the smaller text without notes, `q` reads them in the larger text,
with a value that `V` relates to that of `p`. -/
def Follows (σ : Shift) (V : α → β → Prop) (p : Parser α) (q : Parser β) : Prop :=
  ∀ ts a rest, σ.Within ts → p σ.inner ts = .ok a rest [] →
    ∃ b, q σ.outer (ts.map σ.move) = .ok b (rest.map σ.move) [] ∧ V a b ∧ σ.Within rest

theorem bind_eq_ok {p : Parser α} {f : α → Parser β} {s : Source} {ts rest : List Token} {b : β}
    (h : (p >>= f) s ts = .ok b rest []) :
    ∃ a mid, p s ts = .ok a mid [] ∧ f a s mid = .ok b rest [] := by
  rw [bind_run] at h
  cases hp : p s ts with
  | fail fault notes => simp [hp] at h
  | ok a mid notes =>
    simp only [hp] at h
    cases hf : f a s mid with
    | fail fault more => simp [hf, Outcome.after] at h
    | ok b' rest' more =>
      simp only [hf, Outcome.after, Outcome.ok.injEq, List.append_eq_nil_iff] at h
      obtain ⟨rfl, rfl, rfl, rfl⟩ := h
      exact ⟨a, mid, rfl, hf⟩

theorem Follows.pure {V : α → β → Prop} {a : α} {b : β} (h : V a b) :
    Follows σ V (pure a) (pure b) := by
  intro ts a' rest hw hp
  cases hp
  exact ⟨b, rfl, h, hw⟩

theorem Follows.bind {V : α → β → Prop} {W : γ → δ → Prop} {p : Parser α} {q : Parser β}
    {f : α → Parser γ} {g : β → Parser δ} (hp : Follows σ V p q)
    (hf : ∀ a b, V a b → Follows σ W (f a) (g b)) : Follows σ W (p >>= f) (q >>= g) := by
  intro ts c rest hw h
  obtain ⟨a, mid, h1, h2⟩ := bind_eq_ok h
  obtain ⟨b, k1, hv, hmid⟩ := hp ts a mid hw h1
  obtain ⟨d, k2, hd, hrest⟩ := hf a b hv mid c rest hmid h2
  exact ⟨d, by rw [bind_run, k1]; simpa using k2, hd, hrest⟩

/-- A parser that never succeeds without notes is followed by any. -/
theorem Follows.of_fails {V : α → β → Prop} {p : Parser α} {q : Parser β}
    (h : ∀ s ts a rest, p s ts ≠ .ok a rest []) : Follows σ V p q :=
  fun _ _ _ _ hp => absurd hp (h _ _ _ _)

theorem follows_fault {V : α → β → Prop} (cause : Cause) (offset : Nat) {q : Parser β} :
    Follows σ V (fault cause offset) q :=
  .of_fails fun _ _ _ _ h => by cases h

/-! ## Single tokens -/

theorem front_move (σ : Shift) (ts : List Token) :
    SameWord (front σ.inner ts) (front σ.outer (ts.map σ.move)) := by
  cases ts with
  | nil => exact ⟨rfl, rfl⟩
  | cons t ts => exact ⟨rfl, rfl⟩

theorem follows_peekAt (n : Nat) : Follows σ SameWord (peekAt n) (peekAt n) := by
  intro ts a rest hw h
  cases h
  refine ⟨_, rfl, ?_, hw⟩
  rw [← List.map_drop]
  exact front_move σ _

theorem follows_peek : Follows σ SameWord peek peek := follows_peekAt 0

theorem follows_advance : Follows σ SameWord advance advance := by
  intro ts a rest hw h
  rw [advance_run] at h
  cases h
  exact ⟨_, by rw [advance_run, List.map_tail], front_move σ ts,
    hw.subset (List.tail_sublist ts).subset⟩

theorem follows_atEnd : Follows σ Eq atEnd atEnd := by
  intro ts a rest hw h
  rw [atEnd_run] at h
  cases h
  exact ⟨_, atEnd_run _ _, by simp, hw⟩

theorem follows_accept (kind : TokenKind) : Follows σ Eq (accept kind) (accept kind) := by
  refine follows_peek.bind fun t u ht => ?_
  rw [ht.1]
  split
  · exact follows_advance.bind fun _ _ _ => .pure rfl
  · exact .pure rfl

theorem follows_expect {kind : TokenKind} (hk : kind ≠ .eof) (wanted : Wanted) :
    Follows σ σ.Carries (expect kind wanted) (expect kind wanted) := by
  intro ts a rest hw h
  rw [expect_run] at h
  split at h
  · rename_i hfront
    cases h
    cases ts with
    | nil => exact absurd hfront.symm hk
    | cons t ts =>
      refine ⟨σ.move t, ?_, ⟨rfl, hw t List.mem_cons_self⟩, hw.subset (List.subset_cons_self t ts)⟩
      rw [expect_run]
      exact if_pos hfront
  · cases h

end Parser

/-! ## Groups and calls -/

/-- The tokens that a group ends with, replaced. -/
def Group.map (f : Token → Token) : Group → Group
  | closed closer rest => closed (f closer) (rest.map f)
  | unclosed => unclosed
  | mismatched found => mismatched (f found)

theorem matchGroup_map (σ : Shift) (awaited : TokenKind) (outer : List TokenKind)
    (ts : List Token) :
    matchGroup awaited outer (ts.map σ.move) = (matchGroup awaited outer ts).map σ.move := by
  induction ts generalizing awaited outer with
  | nil => rfl
  | cons t ts ih =>
    simp only [List.map_cons, matchGroup, Shift.move_kind]
    cases t.kind.closer? with
    | some inner => exact ih _ _
    | none =>
      by_cases hc : t.kind.isCloser = true
      · by_cases hk : t.kind = awaited
        · subst hk
          cases outer with
          | nil => simp [hc, Group.map]
          | cons next outer => simpa [hc] using ih next outer
        · simp [hc, hk, Group.map]
      · simpa [hc] using ih awaited outer

/-- The place where a chain of calls ends, in the larger text. -/
def CallChain.move (σ : Shift) : CallChain → CallChain
  | closed stop rest => closed (stop + σ.chars) (rest.map σ.move)
  | unclosed => unclosed
  | mismatched found => mismatched (σ.move found)

theorem callChain_move (σ : Shift) (stop n : Nat) (ts : List Token) :
    callChain (stop + σ.chars) n (ts.map σ.move) = (callChain stop n ts).move σ := by
  induction n generalizing stop ts with
  | zero => rfl
  | succ n ih =>
    match ts with
    | [] => rfl
    | [t] => rfl
    | dot :: word :: ts =>
      simp only [List.map_cons, callChain, Shift.move_kind]
      by_cases hcall : dot.kind = .dot ∧ word.kind = .ident
      · simp only [hcall, and_self, if_true]
        cases ts with
        | nil => rfl
        | cons t rest =>
          simp only [List.map_cons, Shift.move_kind]
          by_cases ht : t.kind = .lparen
          · simp only [ht, if_true, matchGroup_map]
            cases matchGroup .rparen [] rest with
            | closed closer rest => exact ih closer.stop rest
            | unclosed => rfl
            | mismatched found => rfl
          · simp only [ht, if_false]
            exact ih word.stop (t :: rest)
      · simp only [hcall, if_false]
        rfl

/-- A chain of calls inside the smaller text ends inside it. -/
theorem callChain_within {σ : Shift} {stop stop' n : Nat} {ts rest : List Token}
    (hs : stop ≤ σ.inner.text.length) (hw : σ.Within ts)
    (h : callChain stop n ts = .closed stop' rest) :
    stop' ≤ σ.inner.text.length ∧ σ.Within rest := by
  induction n generalizing stop ts with
  | zero =>
    cases h
    exact ⟨hs, hw⟩
  | succ n ih =>
    match ts with
    | [] => cases h; exact ⟨hs, hw⟩
    | [t] => cases h; exact ⟨hs, hw⟩
    | dot :: word :: ts =>
      have hword : word.stop ≤ σ.inner.text.length := hw word (by simp)
      have hts : σ.Within ts := hw.subset fun t ht => by simp [ht]
      simp only [callChain] at h
      split at h
      · split at h
        · cases h
          exact ⟨hword, hts⟩
        · rename_i t ts
          split at h
          · split at h
            · rename_i closer rest' hg
              have hsub : closer :: rest' ⊆ t :: ts :=
                List.subset_cons_of_subset _ (matchGroup_suffix hg).subset
              refine ih ?_ ?_ h
              · exact hts closer (hsub List.mem_cons_self)
              · exact hts.subset (List.subset_of_cons_subset hsub)
            · cases h
            · cases h
          · exact ih hword hts h
      · cases h
        exact ⟨hs, hw⟩

namespace Parser

variable {α β γ δ : Type} {σ : Shift}

theorem follows_group : Follows σ σ.Carries group group := by
  refine follows_advance.bind fun t u ht => ?_
  rw [ht.1]
  cases t.kind.closer? with
  | none => exact follows_fault _ _
  | some awaited =>
    intro ts a rest hw h
    simp only [bind_run, tokens_run, Outcome.after_nil, matchGroup_map] at h ⊢
    cases hg : matchGroup awaited [] ts with
    | closed closer rest' =>
      have hsub := (matchGroup_suffix hg).subset
      simp only [hg, bind_run, resume_run, Outcome.after_nil, pure_run, Outcome.ok.injEq] at h
      obtain ⟨rfl, rfl, -⟩ := h
      exact ⟨σ.move closer, rfl, ⟨rfl, hw closer (hsub List.mem_cons_self)⟩,
        hw.subset (List.subset_of_cons_subset hsub)⟩
    | unclosed => simp [hg] at h
    | mismatched found => simp [hg] at h

/-! ## Lists of types -/

section Items

variable {item : Parser TypeExpr} (hitem : Follows σ Eq item item)

include hitem

theorem follows_listTail {closer : TokenKind} (hc : closer ≠ .eof) (n : Nat) :
    Follows σ Eq (listTail item closer n) (listTail item closer n) := by
  induction n with
  | zero => exact (follows_expect hc _).bind fun _ _ _ => .pure rfl
  | succ n ih =>
    refine (follows_accept .comma).bind fun found _ hf => ?_
    subst hf
    split
    · refine follows_peek.bind fun t u ht => ?_
      rw [ht.1]
      split
      · exact (follows_expect hc _).bind fun _ _ _ => .pure rfl
      · refine hitem.bind fun first _ he => ih.bind fun others _ ho => .pure ?_
        rw [he, ho]
    · exact (follows_expect hc _).bind fun _ _ _ => .pure rfl

theorem follows_itemList {closer : TokenKind} (hc : closer ≠ .eof) (n : Nat) :
    Follows σ Eq (itemList item closer n) (itemList item closer n) := by
  refine hitem.bind fun first _ he => (follows_listTail hitem hc n).bind fun others _ ho => .pure ?_
  rw [he, ho]

theorem follows_argument (word : String) :
    Follows σ Eq (argument item word) (argument item word) := by
  refine (follows_expect (by decide) _).bind fun _ _ _ => hitem.bind fun inner _ he => ?_
  exact (follows_expect (by decide) _).bind fun _ _ _ => .pure he

end Items

/-! ## Types -/

theorem follows_tokens : Follows σ (fun _ _ => True) tokens tokens := by
  intro ts a rest hw h
  cases h
  exact ⟨_, rfl, trivial, hw⟩

/-- Reading a token and going on with it, when that fails for want of a token. -/
theorem Follows.advance_bind {W : γ → δ → Prop} {f : Token → Parser γ} {g : Token → Parser δ}
    (hcons : ∀ t, t.stop ≤ σ.inner.text.length → Follows σ W (f t) (g (σ.move t)))
    (hnil : ∀ a rest, f (.endMark σ.inner.boundary 0) σ.inner [] ≠ .ok a rest []) :
    Follows σ W (advance >>= f) (advance >>= g) := by
  intro ts a rest hw h
  obtain ⟨t, mid, h1, h2⟩ := bind_eq_ok h
  rw [advance_run] at h1
  cases ts with
  | nil =>
    cases h1
    exact absurd h2 (hnil a rest)
  | cons u us =>
    cases h1
    obtain ⟨b, k, hv, hrest⟩ := hcons u (hw u List.mem_cons_self) us a rest
      (hw.subset (List.subset_cons_self u us)) h2
    exact ⟨b, by rw [bind_run, advance_run]; simpa using k, hv, hrest⟩

theorem follows_verbatim {first : Token} {stop : Nat} (hs : stop ≤ σ.inner.text.length) :
    Follows σ Eq (verbatim first stop) (verbatim (σ.move first) (stop + σ.chars)) := by
  intro ts a rest hw h
  have hslice : σ.outer.slice (σ.move first).start (stop + σ.chars) =
      σ.inner.slice first.start stop := σ.shows first.start stop hs
  cases h
  exact ⟨_, rfl, by rw [hslice], hw⟩

theorem recoverProc_ne_ok (fromFirst : List Token) (first : Token) (s : Source) (ts : List Token)
    (a : TypeExpr) (rest : List Token) : recoverProc fromFirst first s ts ≠ .ok a rest [] := by
  simp [recoverProc, Outcome.after]

theorem follows_procType (fromFirst fromFirst' : List Token) {first word : Token}
    (hs : word.stop ≤ σ.inner.text.length) :
    Follows σ Eq (procType fromFirst first word)
      (procType fromFirst' (σ.move first) (σ.move word)) := by
  intro ts a rest hw h
  have hmove : callChain (σ.move word).stop (ts.map σ.move).length (ts.map σ.move) =
      (callChain word.stop ts.length ts).move σ := by
    rw [List.length_map]
    exact callChain_move σ word.stop ts.length ts
  unfold procType at h ⊢
  simp only [bind_run, tokens_run, Outcome.after_nil] at h ⊢
  rw [hmove]
  cases hc : callChain word.stop ts.length ts with
  | closed stop rest' =>
    obtain ⟨hstop, hrest⟩ := callChain_within hs hw hc
    rw [hc] at h
    have hproc : Follows σ Eq (do return TypeExpr.proc (← verbatim first stop))
        (do return TypeExpr.proc (← verbatim (σ.move first) (stop + σ.chars))) :=
      (follows_verbatim hstop).bind fun _ _ he => .pure (congrArg TypeExpr.proc he)
    exact hproc rest' a rest hrest h
  | unclosed =>
    rw [hc] at h
    exact absurd h (recoverProc_ne_ok _ _ _ _ _ _)
  | mismatched found => simp [hc] at h

theorem follows_opaqueHelper (first : Token) {word : Token}
    (hs : word.stop ≤ σ.inner.text.length) :
    Follows σ Eq (opaqueHelper first word) (opaqueHelper (σ.move first) (σ.move word)) := by
  refine follows_peek.bind fun t u ht => ?_
  rw [ht.1]
  split
  · refine follows_group.bind fun closer closer' hc => ?_
    obtain ⟨rfl, hstop⟩ := hc
    exact (follows_verbatim hstop).bind fun _ _ he => .pure (congrArg TypeExpr.simple he)
  · exact (follows_verbatim hs).bind fun _ _ he => .pure (congrArg TypeExpr.simple he)

theorem pathTail_map (σ : Shift) (ts : List Token) :
    pathTail (ts.map σ.move) = ((pathTail ts).1, (pathTail ts).2.map σ.move) ∧
      (pathTail ts).2 ⊆ ts := by
  fun_induction pathTail ts with
  | case1 a b ts h segments rest he ih =>
    rw [he] at ih
    refine ⟨?_, List.Subset.trans ih.2 fun t ht => by simp [ht]⟩
    simp [pathTail, h, ih.1]
  | case2 a b ts h => exact ⟨by simp [pathTail, h], List.Subset.refl _⟩
  | case3 ts h =>
    refine ⟨?_, List.Subset.refl _⟩
    obtain _ | ⟨a, _ | ⟨b, ts⟩⟩ := ts
    · rfl
    · rfl
    · exact absurd rfl (h a b ts)

theorem follows_constantPath : Follows σ Eq constantPath constantPath := by
  refine (follows_accept .scope).bind fun rooted _ hr => ?_
  refine (follows_expect (by decide) _).bind fun first first' hf => ?_
  obtain ⟨rfl, -⟩ := hf
  subst hr
  intro ts a rest hw h
  obtain ⟨hmap, hsub⟩ := pathTail_map σ ts
  simp only [bind_run, tokens_run, Outcome.after_nil, resume_run, pure_run, Outcome.ok.injEq] at h
  obtain ⟨rfl, rfl, -⟩ := h
  refine ⟨_, ?_, rfl, hw.subset hsub⟩
  simp only [bind_run, tokens_run, Outcome.after_nil, resume_run, pure_run, hmap, Shift.move_value]

section Types

variable {item : Parser TypeExpr} (hitem : Follows σ Eq item item)

include hitem

theorem follows_helperType (n : Nat) : Follows σ Eq (helperType item n) (helperType item n) := by
  refine follows_tokens.bind fun fromFirst fromFirst' _ => Follows.advance_bind ?_ ?_
  · intro first hfirst
    refine follows_advance.bind fun _ _ _ => (follows_expect (by decide) _).bind fun word _ hw => ?_
    obtain ⟨rfl, hstop⟩ := hw
    rw [Shift.move_value]
    split
    · exact (follows_argument hitem _).bind fun _ _ he => .pure (congrArg TypeExpr.nilable he)
    split
    · exact (follows_expect (by decide) _).bind fun _ _ _ =>
        (follows_itemList hitem (by decide) n).bind fun _ _ he => .pure (congrArg TypeExpr.union he)
    split
    · exact .pure rfl
    split
    · exact .pure rfl
    split
    · refine (follows_argument hitem _).bind fun _ _ he => .pure ?_
      rw [he]
    split
    · exact follows_procType _ _ hstop
    · exact follows_opaqueHelper first hstop
  · intro a rest
    simp [expect_run, Token.endMark]

theorem follows_payload (n : Nat) (name : String) (offset offset' : Nat) :
    Follows σ Eq (payload item n name offset) (payload item n name offset') := by
  refine follows_peek.bind fun t u ht => ?_
  rw [ht.1]
  cases t.kind with
  | lbrack =>
    refine follows_advance.bind fun _ _ _ => ?_
    refine (follows_itemList hitem (by decide) n).bind fun args _ he => ?_
    subst he
    split
    · split
      · exact .pure rfl
      · exact follows_fault _ _
    · exact .pure rfl
  | lt =>
    refine follows_advance.bind fun _ _ _ => ?_
    exact (follows_itemList hitem (by decide) n).bind fun _ _ he => .pure (congrArg _ he)
  | lbrace =>
    refine follows_advance.bind fun _ _ _ => hitem.bind fun key _ hk => ?_
    refine (follows_expect (by decide) _).bind fun _ _ _ => hitem.bind fun value _ hv => ?_
    refine (follows_expect (by decide) _).bind fun _ _ _ => .pure ?_
    rw [hk, hv]
  | lparen =>
    dsimp only
    split
    · refine follows_advance.bind fun _ _ _ => ?_
      exact (follows_itemList hitem (by decide) n).bind fun _ _ he => .pure (congrArg _ he)
    · exact .pure rfl
  | _ => exact .pure rfl

theorem follows_constantType (n : Nat) :
    Follows σ Eq (constantType item n) (constantType item n) := by
  refine follows_peek.bind fun first first' _ => follows_constantPath.bind fun segments _ hs => ?_
  subst hs
  split
  · exact .pure rfl
  split
  · exact .pure rfl
  · exact follows_payload hitem n _ _ _

theorem follows_typeStep (n : Nat) : Follows σ Eq (typeStep item n) (typeStep item n) := by
  have hno : Follows σ Eq noType noType := .of_fails fun s ts a rest h => by simp [noType] at h
  refine follows_peek.bind fun t u ht => ?_
  rw [ht.1]
  cases t.kind with
  | lbrack =>
    refine follows_advance.bind fun _ _ _ => follows_peek.bind fun next _ hn => ?_
    rw [hn.1]
    split
    · exact follows_fault _ _
    · exact (follows_itemList hitem (by decide) n).bind fun _ _ he => .pure (congrArg _ he)
  | lbrace => exact follows_group.bind fun _ _ _ => .pure rfl
  | const =>
    refine (follows_peekAt 1).bind fun next _ hn => ?_
    rw [ht.2, hn.1]
    split
    · exact follows_helperType hitem n
    · exact follows_constantType hitem n
  | scope => exact follows_constantType hitem n
  | ident =>
    dsimp only
    rw [ht.2]
    split
    · exact follows_advance.bind fun _ _ _ => .pure rfl
    · exact hno
  | _ => exact hno

end Types

/-- **Types.** A type is read the same wherever its tokens stand. -/
theorem follows_typeAt (n : Nat) : Follows σ Eq (typeAt n) (typeAt n) := by
  induction n with
  | zero => exact .of_fails fun s ts a rest h => by simp [typeAt, noType] at h
  | succ n ih => exact follows_typeStep ih n

theorem follows_type : Follows σ Eq type type := by
  intro ts a rest hw h
  obtain ⟨b, hb, he, hrest⟩ := follows_typeAt ts.length ts a rest hw h
  exact ⟨b, by rw [← hb, type, List.length_map], he, hrest⟩

/-! ## Chains -/

theorem follows_stringArgument : Follows σ Eq stringArgument stringArgument := by
  refine (follows_peekAt 1).bind fun text text' ht => follows_peek.bind fun a a' ha => ?_
  refine (follows_peekAt 1).bind fun b b' hb => (follows_peekAt 2).bind fun c c' hc => ?_
  rw [ht.2, ha.1, hb.1, hc.1]
  split
  · exact .pure rfl
  · exact .pure rfl

theorem follows_paramList (known : List String) (n : Nat) :
    Follows σ Eq (paramList known n) (paramList known n) := by
  induction n generalizing known with
  | zero => exact follows_peek.bind fun _ _ _ => follows_fault _ _
  | succ n ih =>
    refine (follows_accept .rparen).bind fun closed _ hc => ?_
    subst hc
    split
    · exact .pure rfl
    refine follows_peek.bind fun t u ht => ?_
    rw [ht.1, ht.2]
    split
    · exact follows_fault _ _
    refine follows_advance.bind fun _ _ _ => (follows_expect (by decide) _).bind fun _ _ _ => ?_
    split
    · exact follows_fault _ _
    refine follows_type.bind fun declared _ hd => ?_
    refine (follows_accept .comma).bind fun comma _ hcomma => ?_
    subst hd hcomma
    split
    · exact (ih _).bind fun others _ ho => .pure (congrArg _ ho)
    · exact (follows_expect (by decide) _).bind fun _ _ _ => .pure rfl

theorem follows_params (declared : List (String × TypeExpr)) :
    Follows σ Eq (params declared) (params declared) := by
  refine (follows_expect (by decide) _).bind fun _ _ _ => ?_
  intro ts a rest hw h
  simp only [bind_run, tokens_run, Outcome.after_nil, List.length_map] at h ⊢
  exact follows_paramList _ ts.length ts a rest hw h

theorem follows_modifierArguments : Follows σ Eq modifierArguments modifierArguments := by
  refine follows_peek.bind fun t u ht => ?_
  rw [ht.1]
  split
  · exact follows_group.bind fun _ _ _ => .pure rfl
  · exact .pure rfl

theorem follows_call (sig : Signature) (name : String) :
    Follows σ Eq (call sig name) (call sig name) := by
  unfold call
  split
  · exact (follows_params _).bind fun _ _ he => .pure (by rw [he])
  split
  · exact (follows_argument follows_type _).bind fun _ _ he => .pure (by rw [he])
  split
  · exact .pure rfl
  split
  · refine follows_stringArgument.bind fun text _ he => ?_
    exact follows_modifierArguments.bind fun _ _ _ => .pure (by rw [he])
  split
  · exact follows_modifierArguments.bind fun _ _ _ => .pure rfl
  split
  · exact follows_modifierArguments.bind fun _ _ _ => .pure rfl
  · exact follows_modifierArguments.bind fun _ _ _ => .pure rfl

/-- **Chains.** A chain is read the same wherever its tokens stand. -/
theorem follows_chain (sig : Signature) (n : Nat) : Follows σ Eq (chain sig n) (chain sig n) := by
  induction n generalizing sig with
  | zero => exact follows_peek.bind fun _ _ _ => follows_fault _ _
  | succ n ih =>
    refine (follows_expect (by decide) _).bind fun word _ hw => ?_
    obtain ⟨rfl, -⟩ := hw
    rw [Shift.move_value]
    refine (follows_call sig _).bind fun sig' _ he => ?_
    subst he
    split
    · refine follows_atEnd.bind fun done _ hd => ?_
      subst hd
      split
      · exact .pure rfl
      · exact follows_peek.bind fun _ _ _ => follows_fault _ _
    · refine follows_atEnd.bind fun done _ hd => ?_
      subst hd
      cases done with
      | true => exact .of_fails fun _ _ _ _ h => by cases h
      | false => exact (follows_expect (by decide) _).bind fun _ _ _ => ih sig'

end Parser

end TypeTags
