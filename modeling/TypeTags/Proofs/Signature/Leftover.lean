import TypeTags.Proofs.Signature.Nesting
import TypeTags.Proofs.Signature.Sound

/-!
# The tokens that are left

A parser that succeeds leaves an end of the tokens that it was given, whether it took notes or not.
Even the recovery from a procedure type that never closes only skips tokens: it resumes on a later
line than the one that the type starts on, and the skipped tokens are those before it. So a type
that is read always takes its first token.

Results:
* `Answers.bind`: what is known of a success, for parsers in sequence.
* `advancing_typeAt`: types leave an end of the tokens behind their first one.
-/

namespace TypeTags

namespace Parser

variable {α β : Type} {s : Source} {ts us : List Token} {P : α → List Token → Prop}
  {Q : β → List Token → Prop}

/-- If the parser succeeds, its value and the tokens left have the property. -/
def Answers (P : α → List Token → Prop) (p : Parser α) (s : Source) (ts : List Token) : Prop :=
  ∀ a rest notes, p s ts = .ok a rest notes → P a rest

theorem Answers.mono {P' : α → List Token → Prop} {p : Parser α} (hp : Answers P p s ts)
    (h : ∀ a rest, P a rest → P' a rest) : Answers P' p s ts :=
  fun a rest notes hok => h a rest (hp a rest notes hok)

theorem Answers.pure {a : α} (h : P a ts) : Answers P (pure a) s ts := by
  rintro _ _ _ ⟨⟩
  exact h

theorem answers_fault (cause : Cause) (offset : Nat) :
    Answers P (fault cause offset : Parser α) s ts := by
  rintro _ _ _ ⟨⟩

theorem after_eq_ok {o : Outcome α} {earlier notes : List UnclosedProc} {a : α} {rest : List Token}
    (h : o.after earlier = .ok a rest notes) : ∃ more, o = .ok a rest more := by
  cases o with
  | fail fault more => cases h
  | ok b left more =>
    cases h
    exact ⟨more, rfl⟩

theorem Answers.bind {p : Parser α} {f : α → Parser β} (hp : Answers P p s ts)
    (hf : ∀ a rest, P a rest → Answers Q (f a) s rest) : Answers Q (p >>= f) s ts := by
  intro b rest notes h
  rw [bind_run] at h
  split at h
  · rename_i a left earlier hok
    obtain ⟨more, hmore⟩ := after_eq_ok h
    exact hf a left (hp a left earlier hok) b rest more hmore
  · cases h

/-- A first step that is known to succeed. -/
theorem Answers.step {p : Parser α} {f : α → Parser β} {a : α} {rest : List Token}
    {notes : List UnclosedProc} (hp : p s ts = .ok a rest notes)
    (hf : Answers Q (f a) s rest) : Answers Q (p >>= f) s ts := by
  have hfirst : Answers (fun b left => b = a ∧ left = rest) p s ts := by
    intro b left more h
    rw [hp] at h
    cases h
    exact ⟨rfl, rfl⟩
  refine hfirst.bind ?_
  rintro _ _ ⟨rfl, rfl⟩
  exact hf

theorem answers_expect {kind : TokenKind} (hk : kind ≠ .eof) (wanted : Wanted) :
    Answers (fun t rest => ts = t :: rest ∧ t.kind = kind) (expect kind wanted) s ts := by
  intro t rest notes h
  rw [expect_run] at h
  split at h
  · rename_i hkind
    obtain ⟨t, us, rfl, ht⟩ := exists_of_front hkind hk
    cases h
    exact ⟨rfl, ht⟩
  · cases h

/-- Reading a token if it is there. -/
theorem Answers.accept_bind {kind : TokenKind} (hk : kind ≠ .eof) {f : Bool → Parser β}
    (hread : ∀ t rest, ts = t :: rest → Answers Q (f true) s rest)
    (hleft : Answers Q (f false) s ts) : Answers Q (accept kind >>= f) s ts := by
  have haccept := accept_run s ts kind
  split at haccept
  · rename_i hkind
    obtain ⟨t, us, rfl, -⟩ := exists_of_front hkind hk
    exact Answers.step haccept (hread t us rfl)
  · exact Answers.step haccept hleft

/-! ## Ends of the tokens -/

/-- What the parser leaves is an end of what it was given. -/
def Trailing (p : Parser α) : Prop := ∀ s ts, Answers (fun _ rest => rest <:+ ts) p s ts

/-- The same inside a longer list of tokens. -/
theorem Trailing.within {p : Parser α} (hp : Trailing p) (h : us <:+ ts) :
    Answers (fun _ rest => rest <:+ ts) p s us :=
  (hp s us).mono fun _ _ hr => hr.trans h

theorem Trailing.bind {p : Parser α} {f : α → Parser β} (hp : Trailing p)
    (hf : ∀ a, Trailing (f a)) : Trailing (p >>= f) :=
  fun s ts => (hp s ts).bind fun a _ hr => (hf a).within hr

/-- Ends of a list, both without their first element. -/
theorem tail_suffix_tail (h : us <:+ ts) : us.tail <:+ ts.tail := by
  obtain ⟨lead, rfl⟩ := h
  cases lead with
  | nil => exact List.suffix_refl _
  | cons t lead => exact (List.tail_suffix us).trans (List.suffix_append lead us)

/-- The parser reads on: it leaves an end of the tokens behind the first one. -/
def Advancing (p : Parser α) : Prop := ∀ s ts, Answers (fun _ rest => rest <:+ ts.tail) p s ts

theorem Advancing.trailing {p : Parser α} (hp : Advancing p) : Trailing p :=
  fun s ts => (hp s ts).mono fun _ _ hr => hr.trans (List.tail_suffix ts)

theorem Advancing.bind {p : Parser α} {f : α → Parser β} (hp : Advancing p)
    (hf : ∀ a, Trailing (f a)) : Advancing (p >>= f) :=
  fun s ts => (hp s ts).bind fun a _ hr => (hf a).within hr

theorem Trailing.bind_advancing {p : Parser α} {f : α → Parser β} (hp : Trailing p)
    (hf : ∀ a, Advancing (f a)) : Advancing (p >>= f) :=
  fun s ts => (hp s ts).bind fun a left hl =>
    (hf a s left).mono fun _ _ hr => hr.trans (tail_suffix_tail hl)

theorem Trailing.pure (a : α) : Trailing (pure a) := fun _ _ => Answers.pure (List.suffix_refl _)

theorem advancing_fault (cause : Cause) (offset : Nat) :
    Advancing (fault cause offset : Parser α) := fun _ _ => answers_fault cause offset

theorem trailing_fault (cause : Cause) (offset : Nat) :
    Trailing (fault cause offset : Parser α) := (advancing_fault cause offset).trailing

theorem trailing_peekAt (n : Nat) : Trailing (peekAt n) := by
  rintro s ts _ _ _ ⟨⟩
  exact List.suffix_refl _

theorem trailing_peek : Trailing peek := trailing_peekAt 0

theorem advancing_advance : Advancing advance := by
  intro s ts a rest notes h
  rw [advance_run] at h
  cases h
  exact List.suffix_refl _

theorem trailing_advance : Trailing advance := advancing_advance.trailing

theorem trailing_accept (kind : TokenKind) : Trailing (accept kind) := by
  refine trailing_peek.bind fun t => ?_
  split
  · exact trailing_advance.bind fun _ => .pure _
  · exact .pure _

theorem advancing_expect (kind : TokenKind) (wanted : Wanted) : Advancing (expect kind wanted) := by
  refine trailing_peek.bind_advancing fun t => ?_
  split
  · exact advancing_advance
  · exact advancing_fault _ _

theorem trailing_expect (kind : TokenKind) (wanted : Wanted) : Trailing (expect kind wanted) :=
  (advancing_expect kind wanted).trailing

/-- Going on behind some of the tokens. -/
theorem Answers.resume_bind {rest : List Token} {f : Unit → Parser β}
    (hf : Answers Q (f ()) s rest) : Answers Q (resume rest >>= f) s ts :=
  Answers.step (resume_run s ts rest) hf

theorem advancing_group : Advancing group := by
  refine advancing_advance.bind fun opening => ?_
  split
  · exact trailing_fault _ _
  · intro s ts
    refine Answers.step (tokens_run s ts) ?_
    split
    · rename_i closer rest hg
      exact Answers.resume_bind (Answers.pure ((List.suffix_cons _ _).trans (matchGroup_suffix hg)))
    · exact answers_fault _ _
    · exact answers_fault _ _

/-! ## Types -/

theorem trailing_verbatim (first : Token) (stop : Nat) : Trailing (verbatim first stop) := by
  rintro s ts _ _ _ ⟨⟩
  exact List.suffix_refl _

/-- A procedure type leaves an end of the tokens behind its first one. -/
theorem answers_procType (h : ts <:+ us) (first word : Token) :
    Answers (fun _ rest => rest <:+ us) (procType (first :: us) first word) s ts := by
  refine Answers.step (tokens_run s ts) ?_
  split
  · rename_i stop rest hc
    obtain ⟨used, hused, -⟩ := callChain_nests hc
    have hrest : rest <:+ ts := ⟨used, hused.symm⟩
    refine Answers.resume_bind (((trailing_verbatim first stop).within (hrest.trans h)).bind ?_)
    exact fun _ _ hr => Answers.pure hr
  · -- the recovery goes back to the first token, but it skips that one again
    rintro _ _ _ ⟨⟩
    rw [List.dropWhile_cons_of_pos (by simp)]
    exact List.dropWhile_suffix _
  · exact answers_fault _ _

theorem trailing_opaqueHelper (first word : Token) : Trailing (opaqueHelper first word) := by
  refine trailing_peek.bind fun t => ?_
  split
  · exact advancing_group.trailing.bind fun closer =>
      (trailing_verbatim _ _).bind fun _ => .pure _
  · exact (trailing_verbatim _ _).bind fun _ => .pure _

theorem advancing_constantPath : Advancing constantPath := by
  refine (trailing_accept _).bind_advancing fun rooted => (advancing_expect _ _).bind fun first => ?_
  intro s ts
  refine Answers.step (tokens_run s ts) ?_
  exact Answers.resume_bind (Answers.pure (pathTail_suffix ts))

section Items

variable {item : Parser TypeExpr} (hitem : Trailing item)

include hitem

theorem trailing_listTail (closer : TokenKind) (n : Nat) : Trailing (listTail item closer n) := by
  have hend : Trailing (do let _ ← expect closer .closingBracket; return ([] : List TypeExpr)) :=
    (trailing_expect _ _).bind fun _ => .pure _
  induction n with
  | zero => exact hend
  | succ n ih =>
    refine (trailing_accept .comma).bind fun comma => ?_
    split
    · refine trailing_peek.bind fun next => ?_
      split
      · exact hend
      · exact hitem.bind fun _ => ih.bind fun _ => .pure _
    · exact hend

theorem trailing_itemList (closer : TokenKind) (n : Nat) : Trailing (itemList item closer n) :=
  hitem.bind fun _ => (trailing_listTail hitem closer n).bind fun _ => .pure _

theorem trailing_argument (word : String) : Trailing (argument item word) :=
  (trailing_expect _ _).bind fun _ => hitem.bind fun _ =>
    (trailing_expect _ _).bind fun _ => .pure _

theorem advancing_helperType (n : Nat) : Advancing (helperType item n) := by
  intro s ts
  cases ts with
  | nil =>
    -- no word is read behind the end of the tokens
    intro a rest notes h
    simp [helperType, expect_run, Token.endMark] at h
  | cons first us =>
    refine Answers.step (tokens_run s _) (Answers.step (advance_run s _) ?_)
    refine (trailing_advance s us).bind fun _ rest h2 => ?_
    refine ((trailing_expect _ _).within h2).bind fun word rest h3 => ?_
    split
    · exact ((trailing_argument hitem _).bind fun _ => .pure _).within h3
    split
    · exact ((trailing_expect _ _).bind fun _ =>
        (trailing_itemList hitem _ n).bind fun _ => .pure _).within h3
    split
    · exact Answers.pure h3
    split
    · exact Answers.pure h3
    split
    · exact ((trailing_argument hitem _).bind fun _ => .pure _).within h3
    split
    · exact answers_procType h3 first word
    · exact (trailing_opaqueHelper first word).within h3

theorem trailing_payload (n : Nat) (name : String) (offset : Nat) :
    Trailing (payload item n name offset) := by
  refine trailing_peek.bind fun next => ?_
  cases next.kind with
  | lbrack =>
    refine trailing_advance.bind fun _ => (trailing_itemList hitem _ n).bind fun args => ?_
    split
    · split
      · exact .pure _
      · exact trailing_fault _ _
    · exact .pure _
  | lt => exact trailing_advance.bind fun _ => (trailing_itemList hitem _ n).bind fun _ => .pure _
  | lbrace =>
    refine trailing_advance.bind fun _ => hitem.bind fun _ => (trailing_expect _ _).bind fun _ => ?_
    exact hitem.bind fun _ => (trailing_expect _ _).bind fun _ => .pure _
  | lparen =>
    dsimp only
    split
    · exact trailing_advance.bind fun _ => (trailing_itemList hitem _ n).bind fun _ => .pure _
    · exact .pure _
  | _ => exact .pure _

theorem advancing_constantType (n : Nat) : Advancing (constantType item n) := by
  refine trailing_peek.bind_advancing fun first => advancing_constantPath.bind fun segments => ?_
  split
  · exact .pure _
  split
  · exact .pure _
  · exact trailing_payload hitem n _ _

theorem advancing_typeStep (n : Nat) : Advancing (typeStep item n) := by
  have hno : Advancing noType := trailing_peek.bind_advancing fun _ => advancing_fault _ _
  refine trailing_peek.bind_advancing fun t => ?_
  cases t.kind with
  | lbrack =>
    refine advancing_advance.bind fun _ => trailing_peek.bind fun next => ?_
    split
    · exact trailing_fault _ _
    · exact (trailing_itemList hitem _ n).bind fun _ => .pure _
  | lbrace => exact advancing_group.bind fun _ => .pure _
  | const =>
    refine (trailing_peekAt 1).bind_advancing fun next => ?_
    split
    · exact advancing_helperType hitem n
    · exact advancing_constantType hitem n
  | scope => exact advancing_constantType hitem n
  | ident =>
    dsimp only
    split
    · exact advancing_advance.bind fun _ => .pure _
    · exact hno
  | _ => exact hno

end Items

/-- **Types.** A type leaves an end of the tokens behind its first one. -/
theorem advancing_typeAt (n : Nat) : Advancing (typeAt n) := by
  induction n with
  | zero => exact trailing_peek.bind_advancing fun _ => advancing_fault _ _
  | succ n ih => exact advancing_typeStep ih.trailing n

theorem trailing_type : Trailing type := fun s ts => (advancing_typeAt ts.length).trailing s ts

/-! ## Calls -/

theorem trailing_modifierArguments : Trailing modifierArguments := by
  refine trailing_peek.bind fun t => ?_
  split
  · exact advancing_group.trailing.bind fun _ => .pure _
  · exact .pure _

theorem trailing_stringArgument : Trailing stringArgument := by
  refine (trailing_peekAt 1).bind fun _ => trailing_peek.bind fun _ => ?_
  refine (trailing_peekAt 1).bind fun _ => (trailing_peekAt 2).bind fun _ => ?_
  split
  · exact .pure _
  · exact .pure _

end Parser

end TypeTags
