import Mathlib.Data.List.Forall2
import TypeTags.Proofs.Signature.Moved

/-!
# Reading the same words twice

Two texts with the same words, at different places, are read alike: both give the same type or the
same signature, or both are refused for the same cause. Only the helpers of `T` that are kept as
they are written show the gaps between their words; the tokens must not hold one.

Results:
* `Twins.bind`: two readers in sequence.
* `twins_typeAt`: types.
* `twins_chain`: chains of calls.
-/

namespace TypeTags

/-- The helpers of `T` that have a rule of their own and keep no text. -/
def helperNames : List String := ["nilable", "any", "untyped", "self_type", "class_of"]

/-- Every name behind `T` and a dot is that of a helper with a rule of its own. -/
def KnownHelpers (ts : List Token) : Prop :=
  ∀ first dot word, [first, dot, word] <:+: ts → first.word = (.const, "T") → dot.kind = .dot →
    word.kind = .ident → word.value ∈ helperNames

theorem KnownHelpers.infix {ts us : List Token} (h : KnownHelpers ts) (hs : us <:+: ts) :
    KnownHelpers us :=
  fun first dot word hi => h first dot word (hi.trans hs)

/-- Whether every name behind `T` and a dot is that of a known helper. -/
def knownHelpers : List Token → Bool
  | first :: dot :: word :: ts =>
    decide (first.word = (.const, "T") → dot.kind = .dot → word.kind = .ident →
      word.value ∈ helperNames) && knownHelpers (dot :: word :: ts)
  | _ => true

theorem knownHelpers_iff (ts : List Token) : knownHelpers ts = true ↔ KnownHelpers ts := by
  fun_induction knownHelpers ts with
  | case1 first dot word ts ih =>
    rw [Bool.and_eq_true, decide_eq_true_eq, ih]
    constructor
    · rintro ⟨hhead, hrest⟩ a b c hi
      rcases List.infix_cons_iff.1 hi with hprefix | hi
      · simp only [List.cons_prefix_cons] at hprefix
        obtain ⟨rfl, rfl, rfl, -⟩ := hprefix
        exact hhead
      · exact hrest a b c hi
    · intro h
      exact ⟨h first dot word ⟨[], ts, rfl⟩, h.infix (List.suffix_cons _ _).isInfix⟩
  | case2 ts hshort =>
    refine ⟨fun _ first dot word hi => ?_, fun _ => rfl⟩
    have hlen := hi.length_le
    match ts with
    | [] => cases hi.length_le
    | [a] => simp at hlen
    | [a, b] => simp at hlen
    | a :: b :: c :: ts => exact absurd rfl (hshort a b c ts)

instance (ts : List Token) : Decidable (KnownHelpers ts) :=
  decidable_of_iff _ (knownHelpers_iff ts)

/-- The same words, at different places. -/
structure SameWords (ts us : List Token) : Prop where
  words : List.Forall₂ SameWord ts us
  known : KnownHelpers ts

namespace SameWords

variable {ts us : List Token} (h : SameWords ts us)

include h

theorem front {s s' : Source} : SameWord (Parser.front s ts) (Parser.front s' us) := by
  cases h.words with
  | nil => exact ⟨rfl, rfl⟩
  | cons ht _ => exact ht

theorem drop (n : Nat) : SameWords (ts.drop n) (us.drop n) :=
  ⟨List.forall₂_drop n h.words, h.known.infix (List.drop_suffix n ts).isInfix⟩

theorem tail : SameWords ts.tail us.tail := by
  rw [← List.drop_one, ← List.drop_one]
  exact h.drop 1

end SameWords

/-- Two answers alike: values that `V` relates and the same words left, or the same cause. -/
inductive Outcome.Twin {α β : Type} (V : α → β → Prop) : Outcome α → Outcome β → Prop where
  | ok {a : α} {b : β} {rest rest' : List Token} {notes notes' : List UnclosedProc} (hv : V a b)
      (hw : SameWords rest rest') : Twin V (.ok a rest notes) (.ok b rest' notes')
  | fail {fault fault' : Fault} {notes notes' : List UnclosedProc}
      (h : fault'.cause = fault.cause) : Twin V (.fail fault notes) (.fail fault' notes')

namespace Parser

variable {α β γ δ : Type} {s s' : Source} {ts us : List Token}

theorem twin_after {V : α → β → Prop} {o : Outcome α} {o' : Outcome β} (h : o.Twin V o')
    (notes notes' : List UnclosedProc) : (o.after notes).Twin V (o'.after notes') := by
  cases h with
  | ok hv hw => exact .ok hv hw
  | fail h => exact .fail h

theorem twin_bind {V : α → β → Prop} {W : γ → δ → Prop} {p : Parser α} {q : Parser β}
    {f : α → Parser γ} {g : β → Parser δ} (h : (p s ts).Twin V (q s' us))
    (hf : ∀ a b rest rest', V a b → SameWords rest rest' → (f a s rest).Twin W (g b s' rest')) :
    ((p >>= f) s ts).Twin W ((q >>= g) s' us) := by
  rw [bind_run, bind_run]
  generalize p s ts = o at h ⊢
  generalize q s' us = o' at h ⊢
  cases h with
  | ok hv hw => exact twin_after (hf _ _ _ _ hv hw) _ _
  | fail h => exact .fail h

/-- First steps that are known to succeed. -/
theorem twin_step {W : γ → δ → Prop} {p : Parser α} {q : Parser β} {f : α → Parser γ}
    {g : β → Parser δ} {a : α} {b : β} {rest rest' : List Token} {notes notes' : List UnclosedProc}
    (hp : p s ts = .ok a rest notes) (hq : q s' us = .ok b rest' notes')
    (h : (f a s rest).Twin W (g b s' rest')) : ((p >>= f) s ts).Twin W ((q >>= g) s' us) := by
  rw [bind_ok hp, bind_ok hq]
  exact twin_after h notes notes'

/-- Whatever the same words are, the readers answer alike. -/
def Twins (s s' : Source) (V : α → β → Prop) (p : Parser α) (q : Parser β) : Prop :=
  ∀ ts us, SameWords ts us → (p s ts).Twin V (q s' us)

theorem Twins.pure {V : α → β → Prop} {a : α} {b : β} (h : V a b) :
    Twins s s' V (Pure.pure a) (Pure.pure b) :=
  fun _ _ hw => .ok h hw

theorem Twins.bind {V : α → β → Prop} {W : γ → δ → Prop} {p : Parser α} {q : Parser β}
    {f : α → Parser γ} {g : β → Parser δ} (hp : Twins s s' V p q)
    (hf : ∀ a b, V a b → Twins s s' W (f a) (g b)) : Twins s s' W (p >>= f) (q >>= g) :=
  fun ts us hw => twin_bind (hp ts us hw) fun a b rest rest' hv hr => hf a b hv rest rest' hr

theorem twins_fault {V : α → β → Prop} (cause : Cause) (offset offset' : Nat) :
    Twins s s' V (fault cause offset) (fault cause offset') :=
  fun _ _ _ => .fail rfl

/-! ## Single tokens -/

theorem twins_peekAt (n : Nat) : Twins s s' SameWord (peekAt n) (peekAt n) :=
  fun _ _ hw => .ok (hw.drop n).front hw

theorem twins_peek : Twins s s' SameWord peek peek := twins_peekAt 0

theorem twins_advance : Twins s s' SameWord advance advance := by
  intro ts us hw
  rw [advance_run, advance_run]
  exact .ok hw.front hw.tail

theorem twins_atEnd : Twins s s' Eq atEnd atEnd := by
  intro ts us hw
  rw [atEnd_run, atEnd_run]
  refine .ok ?_ hw
  cases hw.words with
  | nil => rfl
  | cons _ _ => rfl

theorem twins_accept (kind : TokenKind) : Twins s s' Eq (accept kind) (accept kind) := by
  refine twins_peek.bind fun t u ht => ?_
  rw [ht.1]
  split
  · exact twins_advance.bind fun _ _ _ => .pure rfl
  · exact .pure rfl

theorem twins_expect (kind : TokenKind) (wanted : Wanted) :
    Twins s s' SameWord (expect kind wanted) (expect kind wanted) := by
  refine twins_peek.bind fun t u ht => ?_
  rw [ht.1, ht.2]
  split
  · exact twins_advance
  · exact twins_fault _ _ _

/-! ## Groups -/

/-- Two groups that end alike. -/
inductive GroupTwin : Group → Group → Prop where
  | closed {closer closer' : Token} {rest rest' : List Token} (hc : SameWord closer closer')
      (hr : List.Forall₂ SameWord rest rest') :
      GroupTwin (.closed closer rest) (.closed closer' rest')
  | unclosed : GroupTwin .unclosed .unclosed
  | mismatched {found found' : Token} (h : SameWord found found') :
      GroupTwin (.mismatched found) (.mismatched found')

theorem matchGroup_twin (h : List.Forall₂ SameWord ts us) (awaited : TokenKind)
    (outer : List TokenKind) :
    GroupTwin (matchGroup awaited outer ts) (matchGroup awaited outer us) := by
  induction h generalizing awaited outer with
  | nil => exact .unclosed
  | @cons t u ts us ht hrest ih =>
    simp only [matchGroup, ht.1]
    cases t.kind.closer? with
    | some inner => exact ih _ _
    | none =>
      dsimp only
      split
      · split
        · cases outer with
          | nil => exact .closed ht hrest
          | cons next outer => exact ih _ _
        · exact .mismatched ht
      · exact ih _ _

theorem twins_group : Twins s s' SameWord group group := by
  refine twins_advance.bind fun t u ht => ?_
  rw [ht.1, ht.2]
  cases t.kind.closer? with
  | none => exact twins_fault _ _ _
  | some awaited =>
    intro ts us hw
    refine twin_step (tokens_run s ts) (tokens_run s' us) ?_
    have hgroup := matchGroup_twin hw.words awaited []
    generalize hg : matchGroup awaited [] ts = found at hgroup ⊢
    generalize matchGroup awaited [] us = found' at hgroup ⊢
    cases hgroup with
    | @closed closer _ rest _ hc hr =>
      have hsuffix := (List.suffix_cons closer rest).trans (matchGroup_suffix hg)
      exact .ok hc ⟨hr, hw.known.infix hsuffix.isInfix⟩
    | unclosed => exact .fail rfl
    | mismatched h => exact .fail (congrArg Cause.mismatchedBracket h.2)

/-! ## Lists of types -/

section Items

variable {item : Parser TypeExpr} (hitem : Twins s s' Eq item item)

include hitem

theorem twins_listTail (closer : TokenKind) (n : Nat) :
    Twins s s' Eq (listTail item closer n) (listTail item closer n) := by
  have hend : Twins s s' Eq
      (do let _ ← expect closer .closingBracket; return ([] : List TypeExpr))
      (do let _ ← expect closer .closingBracket; return ([] : List TypeExpr)) :=
    (twins_expect closer _).bind fun _ _ _ => .pure rfl
  induction n with
  | zero => exact hend
  | succ n ih =>
    refine (twins_accept .comma).bind fun comma _ hc => ?_
    subst hc
    split
    · refine twins_peek.bind fun t u ht => ?_
      rw [ht.1]
      split
      · exact hend
      · refine hitem.bind fun first _ he => ih.bind fun others _ ho => .pure ?_
        rw [he, ho]
    · exact hend

theorem twins_itemList (closer : TokenKind) (n : Nat) :
    Twins s s' Eq (itemList item closer n) (itemList item closer n) := by
  refine hitem.bind fun first _ he => (twins_listTail hitem closer n).bind fun others _ ho => .pure ?_
  rw [he, ho]

theorem twins_argument (word : String) :
    Twins s s' Eq (argument item word) (argument item word) := by
  refine (twins_expect _ _).bind fun _ _ _ => hitem.bind fun inner _ he => ?_
  exact (twins_expect _ _).bind fun _ _ _ => .pure he

end Items

/-! ## Constants -/

theorem pathTail_twin (h : List.Forall₂ SameWord ts us) :
    (pathTail us).1 = (pathTail ts).1 ∧
      List.Forall₂ SameWord (pathTail ts).2 (pathTail us).2 := by
  induction ts using pathTail.induct generalizing us with
  | case1 a b ts hk segments rest he ih =>
    obtain _ | ⟨ha, _ | ⟨hb, hrest⟩⟩ := h
    obtain ⟨hsegments, hleft⟩ := ih hrest
    simp only [pathTail, ha.1, hb.1, hb.2, hk, and_self, if_true, hsegments]
    exact ⟨trivial, hleft⟩
  | case2 a b ts hk =>
    obtain _ | ⟨ha, _ | ⟨hb, hrest⟩⟩ := h
    simp only [pathTail, ha.1, hb.1, hk, if_false]
    exact ⟨trivial, .cons ha (.cons hb hrest)⟩
  | case3 ts h' =>
    obtain _ | ⟨ht, _ | ⟨hu, hrest⟩⟩ := h
    · exact ⟨rfl, .nil⟩
    · exact ⟨rfl, .cons ht .nil⟩
    · exact absurd rfl (h' _ _ _)

theorem twins_constantPath : Twins s s' Eq constantPath constantPath := by
  refine (twins_accept .scope).bind fun rooted _ hr => ?_
  subst hr
  refine (twins_expect _ _).bind fun first first' hf => ?_
  intro ts us hw
  obtain ⟨hsegments, hrest⟩ := pathTail_twin hw.words
  refine twin_step (tokens_run s ts) (tokens_run s' us) ?_
  refine twin_step (resume_run s ts _) (resume_run s' us _) ?_
  refine .ok ?_ ⟨hrest, hw.known.infix (pathTail_suffix ts).isInfix⟩
  rw [hsegments, hf.2]

/-! ## Types -/

section Types

variable {item : Parser TypeExpr} (hitem : Twins s s' Eq item item)

include hitem

theorem twins_payload (n : Nat) (name : String) (offset offset' : Nat) :
    Twins s s' Eq (payload item n name offset) (payload item n name offset') := by
  refine twins_peek.bind fun t u ht => ?_
  rw [ht.1]
  cases t.kind with
  | lbrack =>
    refine twins_advance.bind fun _ _ _ => ?_
    refine (twins_itemList hitem _ n).bind fun args _ he => ?_
    subst he
    split
    · split
      · exact .pure rfl
      · exact twins_fault _ _ _
    · exact .pure rfl
  | lt =>
    refine twins_advance.bind fun _ _ _ => ?_
    exact (twins_itemList hitem _ n).bind fun _ _ he => .pure (congrArg _ he)
  | lbrace =>
    refine twins_advance.bind fun _ _ _ => hitem.bind fun key _ hk => ?_
    refine (twins_expect _ _).bind fun _ _ _ => hitem.bind fun value _ hv => ?_
    refine (twins_expect _ _).bind fun _ _ _ => .pure ?_
    rw [hk, hv]
  | lparen =>
    dsimp only
    split
    · refine twins_advance.bind fun _ _ _ => ?_
      exact (twins_itemList hitem _ n).bind fun _ _ he => .pure (congrArg _ he)
    · exact .pure rfl
  | _ => exact .pure rfl

theorem twins_constantType (n : Nat) :
    Twins s s' Eq (constantType item n) (constantType item n) := by
  refine twins_peek.bind fun first first' _ => twins_constantPath.bind fun segments _ hs => ?_
  subst hs
  split
  · exact .pure rfl
  split
  · exact .pure rfl
  · exact twins_payload hitem n _ _ _

/-- The tokens `T` and a dot are in front of both. -/
theorem helperType_twin {first dot first' dot' : Token} (hf : first.word = (.const, "T"))
    (hd : dot.kind = .dot) (hw : SameWords (first :: dot :: ts) (first' :: dot' :: us)) (n : Nat) :
    (helperType item n s (first :: dot :: ts)).Twin Eq
      (helperType item n s' (first' :: dot' :: us)) := by
  refine twin_step (tokens_run s _) (tokens_run s' _) ?_
  refine twin_step (advance_run s _) (advance_run s' _) ?_
  refine twin_step (advance_run s _) (advance_run s' _) ?_
  simp only [List.tail_cons]
  have hbehind : SameWords ts us := hw.tail.tail
  have hfront : SameWord (front s ts) (front s' us) := hbehind.front
  by_cases hk : (front s ts).kind = .ident
  · cases hbehind.words with
    | nil => cases hk
    | @cons word word' rest rest' hword hrest =>
      rw [front_cons] at hk
      have hexpect : expect .ident .helperName s (word :: rest) = .ok word rest [] := by
        simp [expect_run, hk]
      have hexpect' : expect .ident .helperName s' (word' :: rest') = .ok word' rest' [] := by
        simp [expect_run, hword.1, hk]
      have hknown : word.value ∈ helperNames := hw.known first dot word ⟨[], rest, rfl⟩ hf hd hk
      refine twin_step hexpect hexpect' ?_
      rw [hword.2]
      have ahead {p : Parser TypeExpr} (hp : Twins s s' Eq p p) :=
        hp rest rest' hbehind.tail
      split
      · refine ahead ((twins_argument hitem _).bind fun _ _ he => .pure ?_)
        exact congrArg _ he
      split
      · refine ahead ((twins_expect _ _).bind fun _ _ _ => ?_)
        exact (twins_itemList hitem _ n).bind fun _ _ he => .pure (congrArg _ he)
      split
      · exact ahead (.pure rfl)
      split
      · exact ahead (.pure rfl)
      split
      · refine ahead ((twins_argument hitem _).bind fun _ _ he => .pure ?_)
        rw [he]
      -- no other helper is known
      · exact absurd hknown (by simp_all [helperNames])
  · rw [bind_run, bind_run, expect_run, expect_run, if_neg hk, if_neg (hfront.1 ▸ hk), hfront.2]
    exact .fail rfl

theorem twins_typeStep (n : Nat) : Twins s s' Eq (typeStep item n) (typeStep item n) := by
  have hno : Twins s s' Eq noType noType := by
    refine twins_peek.bind fun t u ht => ?_
    rw [ht.2]
    exact twins_fault _ _ _
  intro ts us hw
  refine twin_step (peek_run s ts) (peek_run s' us) ?_
  have ht : SameWord (front s ts) (front s' us) := hw.front
  rw [ht.1]
  cases hk : (front s ts).kind with
  | lbrack =>
    refine (twins_advance.bind fun _ _ _ => twins_peek.bind fun next next' hn => ?_ :
      Twins s s' Eq _ _) ts us hw
    rw [hn.1]
    split
    · exact twins_fault _ _ _
    · exact (twins_itemList hitem _ n).bind fun _ _ he => .pure (congrArg _ he)
  | lbrace => exact (twins_group.bind fun _ _ _ => .pure rfl : Twins s s' Eq _ _) ts us hw
  | const =>
    refine twin_step (peekAt_run s ts 1) (peekAt_run s' us 1) ?_
    have hnext : SameWord (front s (ts.drop 1)) (front s' (us.drop 1)) :=
      (hw.drop 1).front
    rw [ht.2, hnext.1]
    split
    · rename_i hdot
      -- both are long enough for the two tokens
      obtain _ | ⟨hfirst, _ | ⟨hd, hrest⟩⟩ := hw.words
      · cases hk
      · cases hdot.2
      · exact helperType_twin hitem (Prod.ext hk hdot.1) hdot.2 hw n
    · exact twins_constantType hitem n ts us hw
  | scope => exact twins_constantType hitem n ts us hw
  | ident =>
    dsimp only
    rw [ht.2]
    split
    · exact (twins_advance.bind fun _ _ _ => .pure rfl : Twins s s' Eq _ _) ts us hw
    · exact hno ts us hw
  | _ => exact hno ts us hw

end Types

/-- **Types.** The same words are read as the same type, or refused for the same cause. -/
theorem twins_typeAt (n : Nat) : Twins s s' Eq (typeAt n) (typeAt n) := by
  induction n with
  | zero =>
    refine twins_peek.bind fun t u ht => ?_
    rw [ht.2]
    exact twins_fault _ _ _
  | succ n ih => exact twins_typeStep ih n

theorem twins_type : Twins s s' Eq type type := by
  intro ts us hw
  rw [type, type, hw.words.length_eq]
  exact twins_typeAt us.length ts us hw

/-! ## Chains -/

theorem twins_stringArgument : Twins s s' Eq stringArgument stringArgument := by
  refine (twins_peekAt 1).bind fun text text' ht => twins_peek.bind fun a a' ha => ?_
  refine (twins_peekAt 1).bind fun b b' hb => (twins_peekAt 2).bind fun c c' hc => ?_
  rw [ht.2, ha.1, hb.1, hc.1]
  split
  · exact .pure rfl
  · exact .pure rfl

theorem twins_paramList (known : List String) (n : Nat) :
    Twins s s' Eq (paramList known n) (paramList known n) := by
  induction n generalizing known with
  | zero =>
    refine twins_peek.bind fun t u ht => ?_
    rw [ht.2]
    exact twins_fault _ _ _
  | succ n ih =>
    refine (twins_accept .rparen).bind fun closed _ hc => ?_
    subst hc
    split
    · exact .pure rfl
    refine twins_peek.bind fun t u ht => ?_
    rw [ht.1, ht.2]
    split
    · exact twins_fault _ _ _
    refine twins_advance.bind fun _ _ _ => (twins_expect _ _).bind fun _ _ _ => ?_
    split
    · exact twins_fault _ _ _
    refine twins_type.bind fun declared _ hd => (twins_accept .comma).bind fun comma _ hcomma => ?_
    subst hd hcomma
    split
    · exact (ih _).bind fun others _ ho => .pure (congrArg _ ho)
    · exact (twins_expect _ _).bind fun _ _ _ => .pure rfl

theorem twins_params (declared : List (String × TypeExpr)) :
    Twins s s' Eq (params declared) (params declared) := by
  refine (twins_expect _ _).bind fun _ _ _ => ?_
  intro ts us hw
  refine twin_step (tokens_run s ts) (tokens_run s' us) ?_
  rw [hw.words.length_eq]
  exact twins_paramList _ _ ts us hw

theorem twins_modifierArguments : Twins s s' Eq modifierArguments modifierArguments := by
  refine twins_peek.bind fun t u ht => ?_
  rw [ht.1]
  split
  · exact twins_group.bind fun _ _ _ => .pure rfl
  · exact .pure rfl

theorem twins_call (sig : Signature) (name : String) :
    Twins s s' Eq (call sig name) (call sig name) := by
  unfold call
  split
  · exact (twins_params _).bind fun _ _ he => .pure (by rw [he])
  split
  · exact (twins_argument twins_type _).bind fun _ _ he => .pure (by rw [he])
  split
  · exact .pure rfl
  split
  · refine twins_stringArgument.bind fun text _ he => ?_
    exact twins_modifierArguments.bind fun _ _ _ => .pure (by rw [he])
  split
  · exact twins_modifierArguments.bind fun _ _ _ => .pure rfl
  split
  · exact twins_modifierArguments.bind fun _ _ _ => .pure rfl
  · exact twins_modifierArguments.bind fun _ _ _ => .pure rfl

/-- **Chains.** The same words are read as the same signature, or refused for the same cause. -/
theorem twins_chain (sig : Signature) (n : Nat) : Twins s s' Eq (chain sig n) (chain sig n) := by
  induction n generalizing sig with
  | zero =>
    refine twins_peek.bind fun t u ht => ?_
    rw [ht.2]
    exact twins_fault _ _ _
  | succ n ih =>
    refine (twins_expect _ _).bind fun word word' hword => ?_
    rw [hword.2]
    refine (twins_call sig _).bind fun read _ hr => ?_
    subst hr
    split
    · refine twins_atEnd.bind fun done _ hd => ?_
      subst hd
      split
      · exact .pure rfl
      · refine twins_peek.bind fun t u ht => ?_
        rw [ht.2]
        exact twins_fault _ _ _
    · refine twins_atEnd.bind fun done _ hd => ?_
      subst hd
      cases done with
      | true => exact fun _ _ _ => .fail rfl
      | false => exact (twins_expect _ _).bind fun _ _ _ => ih read

end Parser

end TypeTags
