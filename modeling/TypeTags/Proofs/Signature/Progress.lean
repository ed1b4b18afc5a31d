import TypeTags.Proofs.Segment.SourceLines
import TypeTags.Proofs.Signature.LineNumbers

/-!
# Progress

Reading always goes on and always ends. A type that is read takes its first token, even if a
procedure type in it never closes: the recovery goes back from where the tokens end, but only to a
line behind the `T` that the type starts with. Every rule of the grammar takes a token before it
starts over, so that a bound of as many steps as there are tokens is never reached, and any greater
bound gives the same answer. And since each recovery resumes on a later line, there are no more of
them than lines.

Both facts are carried through the grammar at once: `Steady k` relates two parsers that answer the
same on up to `k` tokens, and whose answer leaves an end of the tokens behind the lines of its notes.

Results:
* `SteadyAt.bind`, `SteadyAt.read`: parsers in sequence.
* `steady_typeStep`: one step of the grammar takes a token, so that the parsers inside have one less.
* `steady_typeAt`, `steady_paramList`, `steady_chain`: types, parameters and chains.
* `typeAt_progress`: a type that is read takes its first token.
* `reading_advances`: progress, the bounds, and the recoveries of a text.
-/

namespace TypeTags

/-! ## Notes in order -/

/-- The tokens stand on lines in order. -/
def InLines (ts : List Token) : Prop := ts.Pairwise fun a b => a.line ≤ b.line

/-- Where a line ends, later lines go on. -/
theorem InLines.lt_of_mem_dropWhile {line : Nat} {ts : List Token} (h : InLines ts) {t : Token}
    (ht : t ∈ ts.dropWhile (·.line ≤ line)) : line < t.line := by
  induction ts with
  | nil => cases ht
  | cons u us ih =>
    obtain ⟨hu, hus⟩ := List.pairwise_cons.1 h
    by_cases hle : u.line ≤ line
    · rw [List.dropWhile_cons_of_pos (by simpa using hle)] at ht
      exact ih hus ht
    · rw [List.dropWhile_cons_of_neg (by simpa using hle)] at ht
      rcases List.mem_cons.1 ht with rfl | ht
      · omega
      · have := hu t ht
        omega

/-- The notes are about `T` tokens among these, each on a later line than those before. -/
structure Noted (ts : List Token) (notes : List UnclosedProc) : Prop where
  helper : ∀ n ∈ notes, n.opening ∈ ts ∧ n.opening.kind = .const ∧ n.opening.value = "T"
  later : notes.Pairwise fun a b => a.opening.line < b.opening.line

/-- The tokens stand behind the lines that the notes are about. -/
def Behind (notes : List UnclosedProc) (ts : List Token) : Prop :=
  ∀ n ∈ notes, ∀ t ∈ ts, n.opening.line < t.line

namespace Noted

variable {ts rest : List Token} {notes more : List UnclosedProc}

theorem nil : Noted ts [] := ⟨by simp, List.Pairwise.nil⟩

theorem mono (h : Noted rest notes) (hs : rest ⊆ ts) : Noted ts notes :=
  ⟨fun n hn => ⟨hs (h.helper n hn).1, (h.helper n hn).2⟩, h.later⟩

theorem append (h : Noted ts notes) (hb : Behind notes rest) (hs : rest <:+ ts)
    (hm : Noted rest more) : Noted ts (notes ++ more) where
  helper := List.forall_mem_append.2 ⟨h.helper, (hm.mono hs.subset).helper⟩
  later := List.pairwise_append.2
    ⟨h.later, hm.later, fun n hn m hmore => hb n hn m.opening (hm.helper m hmore).1⟩

end Noted

namespace Outcome

variable {α : Type}

def notes : Outcome α → List UnclosedProc
  | .ok _ _ notes => notes
  | .fail _ notes => notes

/-- The tokens left are an end of these, behind the lines of the notes, which are in order. -/
def Forward (all : List Token) : Outcome α → Prop
  | .ok _ rest notes => rest <:+ all ∧ (InLines all → Noted all notes ∧ Behind notes rest)
  | .fail _ notes => InLines all → Noted all notes

theorem Forward.mono {o : Outcome α} {ts all : List Token} (h : o.Forward ts) (hs : ts <:+ all) :
    o.Forward all := by
  cases o with
  | ok a rest notes =>
    refine ⟨h.1.trans hs, fun hl => ?_⟩
    obtain ⟨hn, hb⟩ := h.2 (hl.sublist hs.sublist)
    exact ⟨hn.mono hs.subset, hb⟩
  | fail fault notes => exact fun hl => (h (hl.sublist hs.sublist)).mono hs.subset

theorem Forward.noted {o : Outcome α} {all : List Token} (h : o.Forward all) (hl : InLines all) :
    Noted all o.notes := by
  cases o with
  | ok a rest notes => exact (h.2 hl).1
  | fail fault notes => exact h hl

/-- An answer after one that left these tokens. -/
theorem Forward.after {o : Outcome α} {rest all : List Token} {earlier : List UnclosedProc}
    (h : o.Forward rest) (hs : rest <:+ all)
    (he : InLines all → Noted all earlier ∧ Behind earlier rest) :
    (o.after earlier).Forward all := by
  cases o with
  | ok a left notes =>
    refine ⟨h.1.trans hs, fun hl => ?_⟩
    obtain ⟨hn, hb⟩ := he hl
    obtain ⟨hm, hleft⟩ := h.2 (hl.sublist hs.sublist)
    refine ⟨hn.append hb hs hm, List.forall_mem_append.2 ⟨?_, hleft⟩⟩
    exact fun n hearlier t ht => hb n hearlier t (h.1.subset ht)
  | fail fault notes =>
    intro hl
    exact (he hl).1.append (he hl).2 hs (h (hl.sublist hs.sublist))

end Outcome

namespace Parser

variable {α β : Type} {s : Source} {ts us all : List Token} {k n m : Nat}

/-! ## Parsers that take no notes -/

def Quiet (p : Parser α) : Prop := ∀ s ts, (p s ts).notes = []

theorem Quiet.bind {p : Parser α} {f : α → Parser β} (hp : Quiet p) (hf : ∀ a, Quiet (f a)) :
    Quiet (p >>= f) := by
  intro s ts
  have hnone := hp s ts
  cases h : p s ts with
  | fail cause notes =>
    rw [h] at hnone
    rw [bind_fail h]
    exact hnone
  | ok a rest notes =>
    rw [h] at hnone
    obtain rfl : notes = [] := hnone
    rw [bind_ok h, Outcome.after_nil]
    exact hf a s rest

theorem Quiet.pure (a : α) : Quiet (pure a) := fun _ _ => rfl

theorem quiet_fault (cause : Cause) (offset : Nat) : Quiet (fault cause offset : Parser α) :=
  fun _ _ => rfl

theorem quiet_tokens : Quiet tokens := fun _ _ => rfl

theorem quiet_resume (rest : List Token) : Quiet (resume rest) := fun _ _ => rfl

theorem quiet_peekAt (n : Nat) : Quiet (peekAt n) := fun _ _ => rfl

theorem quiet_peek : Quiet peek := quiet_peekAt 0

theorem quiet_atEnd : Quiet atEnd := fun _ _ => rfl

theorem quiet_advance : Quiet advance := fun _ _ => rfl

theorem quiet_accept (kind : TokenKind) : Quiet (accept kind) := by
  refine quiet_peek.bind fun t => ?_
  split
  · exact quiet_advance.bind fun _ => .pure _
  · exact .pure _

theorem quiet_expect (kind : TokenKind) (wanted : Wanted) : Quiet (expect kind wanted) := by
  refine quiet_peek.bind fun t => ?_
  split
  · exact quiet_advance
  · exact quiet_fault _ _

theorem quiet_group : Quiet group := by
  refine quiet_advance.bind fun opening => ?_
  split
  · exact quiet_fault _ _
  · refine quiet_tokens.bind fun ts => ?_
    split
    · exact (quiet_resume _).bind fun _ => .pure _
    · exact quiet_fault _ _
    · exact quiet_fault _ _

theorem quiet_verbatim (first : Token) (stop : Nat) : Quiet (verbatim first stop) := fun _ _ => rfl

theorem quiet_opaqueHelper (first word : Token) : Quiet (opaqueHelper first word) := by
  refine quiet_peek.bind fun t => ?_
  split
  · exact quiet_group.bind fun closer => (quiet_verbatim _ _).bind fun _ => .pure _
  · exact (quiet_verbatim _ _).bind fun _ => .pure _

theorem quiet_constantPath : Quiet constantPath :=
  (quiet_accept _).bind fun _ => (quiet_expect _ _).bind fun _ => quiet_tokens.bind fun _ =>
    (quiet_resume _).bind fun _ => .pure _

theorem quiet_noType : Quiet noType := quiet_peek.bind fun _ => quiet_fault _ _

theorem quiet_modifierArguments : Quiet modifierArguments := by
  refine quiet_peek.bind fun t => ?_
  split
  · exact quiet_group.bind fun _ => .pure _
  · exact .pure _

theorem quiet_stringArgument : Quiet stringArgument := by
  refine (quiet_peekAt 1).bind fun _ => quiet_peek.bind fun _ => ?_
  refine (quiet_peekAt 1).bind fun _ => (quiet_peekAt 2).bind fun _ => ?_
  split
  · exact .pure _
  · exact .pure _

/-! ## Parsers that answer the same -/

/-- On the tokens `ts` both parsers answer the same, and the answer goes forward from `all`. -/
def SteadyAt (all : List Token) (p q : Parser α) (s : Source) (ts : List Token) : Prop :=
  q s ts = p s ts ∧ (p s ts).Forward all

theorem SteadyAt.bind {p q : Parser α} {f g : α → Parser β} (hp : SteadyAt all p q s ts)
    (hf : ∀ a rest, rest <:+ all → SteadyAt rest (f a) (g a) s rest) :
    SteadyAt all (p >>= f) (q >>= g) s ts := by
  obtain ⟨hsame, hforward⟩ := hp
  unfold SteadyAt
  cases h : p s ts with
  | fail cause notes =>
    rw [h] at hsame hforward
    rw [bind_fail h, bind_fail hsame]
    exact ⟨rfl, hforward⟩
  | ok a rest notes =>
    rw [h] at hsame hforward
    obtain ⟨hfsame, hfforward⟩ := hf a rest hforward.1
    rw [bind_ok h, bind_ok hsame, hfsame]
    exact ⟨rfl, hfforward.after hforward.1 hforward.2⟩

/-- A first part that takes no notes may leave any tokens that the others go forward from. -/
theorem SteadyAt.read {p : Parser α} {f g : α → Parser β} {P : α → List Token → Prop}
    (hq : Quiet p) (hp : Answers P p s ts)
    (hf : ∀ a rest, P a rest → SteadyAt all (f a) (g a) s rest) :
    SteadyAt all (p >>= f) (p >>= g) s ts := by
  have hnone := hq s ts
  unfold SteadyAt
  cases h : p s ts with
  | fail cause notes =>
    rw [h] at hnone
    obtain rfl : notes = [] := hnone
    rw [bind_fail h, bind_fail h]
    exact ⟨rfl, fun _ => .nil⟩
  | ok a rest notes =>
    rw [h] at hnone
    obtain rfl : notes = [] := hnone
    rw [bind_ok h, bind_ok h, Outcome.after_nil, Outcome.after_nil]
    exact hf a rest (hp a rest [] h)

/-- A first part whose answer is known. -/
theorem SteadyAt.step {p : Parser α} {f g : α → Parser β} {a : α} {rest : List Token}
    (hp : p s ts = .ok a rest []) (hf : SteadyAt all (f a) (g a) s rest) :
    SteadyAt all (p >>= f) (p >>= g) s ts := by
  unfold SteadyAt
  rw [bind_ok hp, bind_ok hp, Outcome.after_nil, Outcome.after_nil]
  exact hf

theorem SteadyAt.quiet {p : Parser α} (hq : Quiet p)
    (hp : Answers (fun _ rest => rest <:+ all) p s ts) : SteadyAt all p p s ts := by
  have hnone := hq s ts
  refine ⟨rfl, ?_⟩
  cases h : p s ts with
  | fail cause notes =>
    rw [h] at hnone
    obtain rfl : notes = [] := hnone
    exact fun _ => .nil
  | ok a rest notes =>
    rw [h] at hnone
    obtain rfl : notes = [] := hnone
    exact ⟨hp a rest [] h, fun _ => ⟨.nil, by simp [Behind]⟩⟩

theorem SteadyAt.ite {c : Prop} [Decidable c] {p q p' q' : Parser α}
    (hpos : c → SteadyAt all p q s ts) (hneg : ¬c → SteadyAt all p' q' s ts) :
    SteadyAt all (if c then p else p') (if c then q else q') s ts := by
  split
  · exact hpos ‹_›
  · exact hneg ‹_›

/-- On up to `k` tokens both parsers answer the same, and the answer goes forward. -/
def Steady (k : Nat) (p q : Parser α) : Prop := ∀ s ts, ts.length ≤ k → SteadyAt ts p q s ts

namespace Steady

variable {p q p' q' : Parser α} {f g : α → Parser β}

theorem within (h : Steady k p q) (hs : ts <:+ all) (hl : ts.length ≤ k) :
    SteadyAt all p q s ts :=
  ⟨(h s ts hl).1, (h s ts hl).2.mono hs⟩

theorem mono (h : Steady k p q) {j : Nat} (hj : j ≤ k) : Steady j p q :=
  fun s ts hl => h s ts (Nat.le_trans hl hj)

theorem quiet (hq : Quiet p) (hp : Trailing p) : Steady k p p := fun s ts _ => .quiet hq (hp s ts)

protected theorem pure (a : α) : Steady k (pure a) (pure a) := quiet (.pure a) (.pure a)

theorem fault (cause : Cause) (offset : Nat) :
    Steady k (Parser.fault cause offset : Parser α) (Parser.fault cause offset) :=
  quiet (quiet_fault _ _) (trailing_fault _ _)

protected theorem bind (hp : Steady k p q) (hf : ∀ a, Steady k (f a) (g a)) :
    Steady k (p >>= f) (q >>= g) :=
  fun s ts hl => (hp s ts hl).bind fun a rest hr => hf a s rest (Nat.le_trans hr.length_le hl)

theorem ite {c : Prop} [Decidable c] (hpos : Steady k p q) (hneg : Steady k p' q') :
    Steady k (if c then p else p') (if c then q else q') :=
  fun s ts hl => .ite (fun _ => hpos s ts hl) fun _ => hneg s ts hl

/-- Behind a part that reads on, there is one token less. -/
theorem behind (hq : Quiet p) (hp : Advancing p) (hf : ∀ a, Steady k (f a) (g a)) :
    Steady (k + 1) (p >>= f) (p >>= g) := by
  intro s ts hl
  refine .read hq (hp s ts) fun a rest hr => ?_
  have hlen := hr.length_le
  rw [List.length_tail] at hlen
  exact (hf a).within (hr.trans (List.tail_suffix ts)) (by omega)

end Steady

theorem steady_peek : Steady k peek peek := .quiet quiet_peek trailing_peek

theorem steady_advance : Steady k advance advance := .quiet quiet_advance trailing_advance

theorem steady_expect (kind : TokenKind) (wanted : Wanted) :
    Steady k (expect kind wanted) (expect kind wanted) :=
  .quiet (quiet_expect _ _) (trailing_expect _ _)

theorem steady_accept (kind : TokenKind) : Steady k (accept kind) (accept kind) :=
  .quiet (quiet_accept _) (trailing_accept _)

/-- Behind a token that is read, there is one less. -/
theorem Steady.accept_bind (kind : TokenKind) {f g : Bool → Parser β}
    (hread : Steady k (f true) (g true)) (hleft : Steady (k + 1) (f false) (g false)) :
    Steady (k + 1) (accept kind >>= f) (accept kind >>= g) := by
  intro s ts hl
  have haccept := accept_run s ts kind
  split at haccept
  · refine .step haccept (hread.within (List.tail_suffix ts) ?_)
    rw [List.length_tail]
    omega
  · exact .step haccept (hleft s ts hl)

/-! ## Types -/

/-- A procedure type that starts with `T` goes forward from its first token: the recovery resumes
behind the line of that token. -/
theorem steadyAt_procType {first : Token} (hkind : first.kind = .const) (hvalue : first.value = "T")
    (h : ts <:+ us) (word : Token) : SteadyAt (first :: us) (procType (first :: us) first word)
      (procType (first :: us) first word) s ts := by
  refine .step (tokens_run s ts) ?_
  split
  · rename_i stop rest hc
    obtain ⟨used, rfl, -⟩ := callChain_nests hc
    refine .step (resume_run s _ rest) (.quiet ((quiet_verbatim _ _).bind fun _ => .pure _) ?_)
    have hrest : rest <:+ first :: us :=
      ((List.suffix_append used rest).trans h).trans (List.suffix_cons first us)
    exact ((trailing_verbatim first stop).bind fun _ => .pure _).within hrest
  · refine ⟨rfl, List.dropWhile_suffix _, fun hlines => ⟨⟨?_, List.pairwise_singleton _ _⟩, ?_⟩⟩
    · intro n hn
      obtain rfl := List.mem_singleton.1 hn
      exact ⟨List.mem_cons_self, hkind, hvalue⟩
    · intro n hn t ht
      obtain rfl := List.mem_singleton.1 hn
      exact hlines.lt_of_mem_dropWhile ht
  · exact .quiet (quiet_fault _ _) (answers_fault _ _)

/-- Without tokens no item is read, whatever the bound. -/
theorem listTail_nil (item : Parser TypeExpr) (closer : TokenKind) (n : Nat) :
    listTail item closer n s [] =
      (do let _ ← expect closer .closingBracket; return ([] : List TypeExpr)) s [] := by
  cases n with
  | zero => rfl
  | succ n => exact Outcome.after_nil _

/-- Without tokens there is no type, whatever the bound. -/
theorem typeAt_nil (n : Nat) : typeAt n s [] = noType s [] := by
  cases n with
  | zero => rfl
  | succ n => rfl

section Items

variable {item item' : Parser TypeExpr} (hitem : Steady k item item')

include hitem

theorem steady_listTail (closer : TokenKind) {j : Nat} (hj : j ≤ k) (hn : j ≤ n) (hm : j ≤ m) :
    Steady j (listTail item closer n) (listTail item' closer m) := by
  have hend {i : Nat} : Steady i
      (do let _ ← expect closer .closingBracket; return ([] : List TypeExpr))
      (do let _ ← expect closer .closingBracket; return ([] : List TypeExpr)) :=
    (steady_expect _ _).bind fun _ => .pure _
  induction j generalizing n m with
  | zero =>
    intro s ts hl
    obtain rfl := List.length_eq_zero_iff.1 (Nat.le_zero.1 hl)
    rw [SteadyAt, listTail_nil item, listTail_nil item']
    exact hend s [] hl
  | succ j ih =>
    obtain ⟨n, rfl⟩ := Nat.exists_eq_add_one_of_ne_zero (show n ≠ 0 by omega)
    obtain ⟨m, rfl⟩ := Nat.exists_eq_add_one_of_ne_zero (show m ≠ 0 by omega)
    -- an item is read behind a comma only
    refine Steady.accept_bind .comma ?_ hend
    refine steady_peek.bind fun next => .ite hend ?_
    refine (hitem.mono (by omega)).bind fun _ => ?_
    exact (ih (by omega) (by omega) (by omega)).bind fun _ => .pure _

theorem steady_itemList (closer : TokenKind) (hn : k ≤ n) (hm : k ≤ m) :
    Steady k (itemList item closer n) (itemList item' closer m) :=
  hitem.bind fun _ => (steady_listTail hitem closer (Nat.le_refl k) hn hm).bind fun _ => .pure _

theorem steady_argument (word : String) : Steady k (argument item word) (argument item' word) :=
  (steady_expect _ _).bind fun _ => hitem.bind fun _ => (steady_expect _ _).bind fun _ => .pure _

theorem steadyAt_helperType (hn : k ≤ n) (hm : k ≤ m) {first : Token} (hkind : first.kind = .const)
    (hvalue : first.value = "T") (hl : us.length ≤ k) :
    SteadyAt (first :: us) (helperType item n) (helperType item' m) s (first :: us) := by
  refine .step (tokens_run s _) (.step (advance_run s _) ?_)
  refine .read quiet_advance (trailing_advance s us) fun _ rest h2 => ?_
  refine .read (quiet_expect _ _) ((trailing_expect _ _).within h2) fun word rest h3 => ?_
  have hbehind : rest <:+ first :: us := List.IsSuffix.trans h3 (List.suffix_cons first us)
  have hlen : rest.length ≤ k := Nat.le_trans (List.IsSuffix.length_le h3) hl
  refine .ite (fun _ => ?_) fun _ => .ite (fun _ => ?_) fun _ => .ite (fun _ => ?_) fun _ =>
    .ite (fun _ => ?_) fun _ => .ite (fun _ => ?_) fun _ => .ite (fun _ => ?_) fun _ => ?_
  · exact ((steady_argument hitem _).bind fun _ => .pure _).within hbehind hlen
  · refine Steady.within ?_ hbehind hlen
    exact (steady_expect _ _).bind fun _ => (steady_itemList hitem _ hn hm).bind fun _ => .pure _
  · exact (Steady.pure _).within hbehind hlen
  · exact (Steady.pure _).within hbehind hlen
  · exact ((steady_argument hitem _).bind fun _ => .pure _).within hbehind hlen
  · exact steadyAt_procType hkind hvalue h3 word
  · exact (Steady.quiet (quiet_opaqueHelper _ _) (trailing_opaqueHelper _ _)).within hbehind hlen

theorem steady_payload (hn : k ≤ n) (hm : k ≤ m) (name : String) (offset : Nat) :
    Steady k (payload item n name offset) (payload item' m name offset) := by
  have hlist (closer : TokenKind) {f : List TypeExpr → Parser TypeExpr}
      (hf : ∀ args, Steady k (f args) (f args)) :
      Steady k (do let _ ← advance; f (← itemList item closer n))
        (do let _ ← advance; f (← itemList item' closer m)) :=
    steady_advance.bind fun _ => (steady_itemList hitem closer hn hm).bind hf
  refine steady_peek.bind fun next => ?_
  cases next.kind with
  | lbrack =>
    refine hlist .rbrack fun args => .ite ?_ (.pure _)
    split
    · exact .pure _
    · exact .fault _ _
  | lt => exact hlist .gt fun _ => .pure _
  | lbrace =>
    refine steady_advance.bind fun _ => hitem.bind fun _ => (steady_expect _ _).bind fun _ => ?_
    exact hitem.bind fun _ => (steady_expect _ _).bind fun _ => .pure _
  | lparen => exact .ite (hlist .rparen fun _ => .pure _) (.pure _)
  | _ => exact .pure _

theorem steady_constantType (hn : k ≤ n) (hm : k ≤ m) :
    Steady (k + 1) (constantType item n) (constantType item' m) := by
  refine steady_peek.bind fun first => ?_
  refine .behind quiet_constantPath advancing_constantPath fun segments => ?_
  exact .ite (.pure _) (.ite (.pure _) (steady_payload hitem hn hm _ _))

/-- **Types, one step.** A type takes a token, and the parsers inside have one less. -/
theorem steady_typeStep (hn : k ≤ n) (hm : k ≤ m) :
    Steady (k + 1) (typeStep item n) (typeStep item' m) := by
  have hno : Steady (k + 1) noType noType :=
    steady_peek.bind fun _ => .fault _ _
  intro s ts hl
  refine .step (peek_run s ts) ?_
  cases hk : (front s ts).kind with
  | lbrack =>
    refine Steady.behind quiet_advance advancing_advance (fun _ => ?_) s ts hl
    refine steady_peek.bind fun next => .ite (.fault _ _) ?_
    exact (steady_itemList hitem _ hn hm).bind fun _ => .pure _
  | lbrace =>
    refine Steady.quiet ?_ ?_ s ts hl
    · exact quiet_group.bind fun _ => .pure _
    · exact advancing_group.trailing.bind fun _ => .pure _
  | const =>
    refine .step (peekAt_run s ts 1) (.ite (fun hhelper => ?_) fun _ => ?_)
    · obtain ⟨first, us, rfl, hfirst⟩ := exists_of_front hk (by simp)
      exact steadyAt_helperType hitem hn hm hfirst hhelper.1 (Nat.le_of_succ_le_succ hl)
    · exact steady_constantType hitem hn hm s ts hl
  | scope => exact steady_constantType hitem hn hm s ts hl
  | ident =>
    exact .ite (fun _ => (steady_advance.bind fun _ => Steady.pure _) s ts hl) fun _ => hno s ts hl
  | _ => exact hno s ts hl

end Items

/-- **Types.** Any bound that the tokens do not exceed gives the same answer. -/
theorem steady_typeAt (hn : k ≤ n) (hm : k ≤ m) : Steady k (typeAt n) (typeAt m) := by
  induction k generalizing n m with
  | zero =>
    intro s ts hl
    obtain rfl := List.length_eq_zero_iff.1 (Nat.le_zero.1 hl)
    rw [SteadyAt, typeAt_nil, typeAt_nil]
    exact Steady.quiet quiet_noType (trailing_peek.bind fun _ => trailing_fault _ _) s [] hl
  | succ k ih =>
    obtain ⟨n, rfl⟩ := Nat.exists_eq_add_one_of_ne_zero (show n ≠ 0 by omega)
    obtain ⟨m, rfl⟩ := Nat.exists_eq_add_one_of_ne_zero (show m ≠ 0 by omega)
    exact steady_typeStep (ih (by omega) (by omega)) (by omega) (by omega)

theorem steady_type : Steady k type type :=
  fun s ts _ => steady_typeAt (Nat.le_refl _) (Nat.le_refl _) s ts (Nat.le_refl _)

/-! ## Parameters and chains -/

/-- Without tokens there is no parameter, whatever the bound. -/
theorem paramList_nil (known : List String) (n : Nat) :
    paramList known n s [] = paramList known 0 s [] := by
  cases n with
  | zero => rfl
  | succ n => rfl

/-- **Parameters.** Any bound that the tokens do not exceed gives the same answer. -/
theorem steady_paramList (known : List String) (hn : k ≤ n) (hm : k ≤ m) :
    Steady k (paramList known n) (paramList known m) := by
  induction k generalizing n m known with
  | zero =>
    intro s ts hl
    obtain rfl := List.length_eq_zero_iff.1 (Nat.le_zero.1 hl)
    rw [SteadyAt, paramList_nil known n, paramList_nil known m]
    exact (steady_peek.bind fun _ => .fault _ _ : Steady 0 (paramList known 0) _) s [] hl
  | succ k ih =>
    obtain ⟨n, rfl⟩ := Nat.exists_eq_add_one_of_ne_zero (show n ≠ 0 by omega)
    obtain ⟨m, rfl⟩ := Nat.exists_eq_add_one_of_ne_zero (show m ≠ 0 by omega)
    refine Steady.accept_bind .rparen (.pure _) (steady_peek.bind fun name => .ite (.fault _ _) ?_)
    -- the name is the token that is taken
    refine Steady.behind quiet_advance advancing_advance fun _ => ?_
    refine (steady_expect _ _).bind fun _ => .ite (.fault _ _) ?_
    refine steady_type.bind fun declared => (steady_accept _).bind fun comma => .ite ?_ ?_
    · exact (ih _ (by omega) (by omega)).bind fun _ => .pure _
    · exact (steady_expect _ _).bind fun _ => .pure _

theorem steady_params (declared : List (String × TypeExpr)) :
    Steady k (Parser.params declared) (Parser.params declared) := by
  refine (steady_expect _ _).bind fun _ => ?_
  intro s ts hl
  refine .step (tokens_run s ts) ?_
  exact steady_paramList _ (Nat.le_refl _) (Nat.le_refl _) s ts (Nat.le_refl _)

theorem steady_modifierArguments : Steady k modifierArguments modifierArguments :=
  .quiet quiet_modifierArguments trailing_modifierArguments

theorem steady_call (sig : Signature) (name : String) :
    Steady k (call sig name) (call sig name) := by
  have hmodifier (sig : Signature) : Steady k
      (do modifierArguments; return sig) (do modifierArguments; return sig) :=
    steady_modifierArguments.bind fun _ => .pure _
  refine .ite ?_ (.ite ?_ (.ite ?_ (.ite ?_ (.ite ?_ (.ite ?_ ?_)))))
  · exact (steady_params _).bind fun _ => .pure _
  · exact (steady_argument steady_type _).bind fun _ => .pure _
  · exact .pure _
  · exact (Steady.quiet quiet_stringArgument trailing_stringArgument).bind fun _ => hmodifier _
  · exact hmodifier _
  · exact hmodifier _
  · exact hmodifier _

/-- Without tokens there is no call, whatever the bound. -/
theorem chain_nil (sig : Signature) (n : Nat) : chain sig n s [] = chain sig 0 s [] := by
  cases n with
  | zero => rfl
  | succ n => rfl

/-- **Chains.** Any bound that the tokens do not exceed gives the same answer. -/
theorem steady_chain (sig : Signature) (hn : k ≤ n) (hm : k ≤ m) :
    Steady k (chain sig n) (chain sig m) := by
  induction k generalizing n m sig with
  | zero =>
    intro s ts hl
    obtain rfl := List.length_eq_zero_iff.1 (Nat.le_zero.1 hl)
    rw [SteadyAt, chain_nil sig n, chain_nil sig m]
    exact (steady_peek.bind fun _ => .fault _ _ : Steady 0 (chain sig 0) _) s [] hl
  | succ k ih =>
    obtain ⟨n, rfl⟩ := Nat.exists_eq_add_one_of_ne_zero (show n ≠ 0 by omega)
    obtain ⟨m, rfl⟩ := Nat.exists_eq_add_one_of_ne_zero (show m ≠ 0 by omega)
    have hend {i : Nat} : Steady i atEnd atEnd :=
      .quiet quiet_atEnd fun _ _ => by rintro _ _ _ ⟨⟩; exact List.suffix_refl _
    -- the name of a call is the token that is taken
    refine Steady.behind (quiet_expect _ _) (advancing_expect _ _) fun word => ?_
    refine (steady_call sig _).bind fun sig => .ite ?_ ?_
    · exact hend.bind fun _ => .ite (.pure _) (steady_peek.bind fun _ => .fault _ _)
    · refine hend.bind fun _ => .ite ?_ ?_
      · exact .quiet (fun _ _ => rfl) fun _ _ => by rintro _ _ _ ⟨⟩
      · exact (steady_expect _ _).bind fun _ => ih sig (by omega) (by omega)

/-- A chain of calls takes two tokens for each call, so that it ends within the bound. -/
theorem callChain_eq_of_le (stop : Nat) (hn : ts.length ≤ n) (hm : ts.length ≤ m) :
    callChain stop n ts = callChain stop m ts := by
  induction n generalizing stop m ts with
  | zero =>
    obtain rfl := List.length_eq_zero_iff.1 (Nat.le_zero.1 hn)
    cases m <;> rfl
  | succ n ih =>
    match ts, m with
    | [], 0 | [], _ + 1 | [_], _ + 1 => rfl
    | _ :: _, 0 => cases hm
    | dot :: word :: ts, m + 1 =>
      simp only [List.length_cons] at hn hm
      have hword (t : Token) (rest : List Token) (h : ts = t :: rest) :
          callChain word.stop n (t :: rest) = callChain word.stop m (t :: rest) := by
        subst h
        exact ih word.stop (by omega) (by omega)
      simp only [callChain]
      split
      · split
        · rfl
        · rename_i t rest
          split
          · split
            · rename_i closer left hg
              have hleft := (matchGroup_suffix hg).length_le
              simp only [List.length_cons] at hleft hn hm
              exact ih closer.stop (by omega) (by omega)
            · rfl
            · rfl
          · exact hword t rest rfl
      · rfl

/-- **Progress.** A type that is read takes its first token. -/
theorem typeAt_progress {t : TypeExpr} {rest : List Token} {notes : List UnclosedProc}
    (h : typeAt n s ts = .ok t rest notes) : ∃ first us, ts = first :: us ∧ rest <:+ us := by
  cases ts with
  | nil =>
    rw [typeAt_nil] at h
    cases h
  | cons first us => exact ⟨first, us, rfl, advancing_typeAt n s _ t rest notes h⟩

end Parser

/-! ## Whole texts -/

/-- The line of a token that is no literal is a line of the text, where blank lines at the end of
the text are not counted. -/
theorem line_le_sourceLines {text : List Char} {ts : List Token} (h : tokenize text = .ok ts)
    {t : Token} (ht : t ∈ ts.dropLast) (hk : t.kind ≠ .string) :
    t.line ≤ (Text.sourceLines (Text.trimEnd text)).length := by
  have hmem := List.dropLast_subset _ ht
  obtain ⟨front, back, hs⟩ := List.append_of_mem hmem
  have hline := tokenize_line_eq h hs
  have hstart := count_token h hmem hk
  obtain ⟨c, hc, hblank⟩ := ((tokenize_laid h).stands t ht).solid
  obtain ⟨hlt, hget⟩ := List.getElem?_eq_some_iff.1 hc
  -- the token's first character is kept, and all that stands before it
  have hkept : Text.trimEnd text =
      text.take t.start ++ c :: Text.trimEnd (text.drop (t.start + 1)) := by
    have hsolid := Text.trimEnd_cons hblank (text.drop (t.start + 1))
    rw [← hsolid, ← Text.trimEnd_append (by simp [hsolid]), ← hget, ← List.drop_eq_getElem_cons hlt,
      List.take_append_drop]
  rw [Text.sourceLines, Segment.splitOnChar_length, hkept, List.count_append]
  omega

/-- Things on later and later lines are no more than the lines. -/
theorem length_le_of_later {notes : List UnclosedProc} {low high : Nat} (hle : low ≤ high)
    (hlow : ∀ n ∈ notes, low < n.opening.line) (hhigh : ∀ n ∈ notes, n.opening.line ≤ high)
    (h : notes.Pairwise fun a b => a.opening.line < b.opening.line) :
    notes.length + low ≤ high := by
  induction notes generalizing low with
  | nil => simpa using hle
  | cons n notes ih =>
    obtain ⟨hn, hnotes⟩ := List.pairwise_cons.1 h
    obtain ⟨hfirst, hothers⟩ := List.forall_mem_cons.1 hhigh
    have hrest := ih hfirst hn hothers hnotes
    have hstep := hlow n List.mem_cons_self
    rw [List.length_cons]
    omega

/-- The recoveries in a text: each is about a `T` token of the text, on a later line than the one
before, and there are no more of them than lines. Blank lines at the end are not counted. -/
structure Recovered (text : String) (notes : List UnclosedProc) : Prop where
  helper : ∀ n ∈ notes, ∃ ts, tokenize text.toList = .ok ts ∧ n.opening ∈ ts ∧
    n.opening.kind = .const ∧ n.opening.value = "T"
  later : notes.Pairwise fun a b => a.opening.line < b.opening.line
  bounded : notes.length ≤ (Text.sourceLines (Text.trimEnd text.toList)).length

namespace Recovered

variable {text : String} {ts us : List Token} {notes : List UnclosedProc}

theorem nil : Recovered text [] := ⟨by simp, List.Pairwise.nil, Nat.zero_le _⟩

theorem of_noted (h : tokenize text.toList = .ok ts) (hn : Noted ts.dropLast notes) :
    Recovered text notes where
  helper := fun n hm =>
    ⟨ts, h, List.dropLast_subset _ (hn.helper n hm).1, (hn.helper n hm).2⟩
  later := hn.later
  bounded := by
    refine length_le_of_later (Nat.zero_le _) ?_ ?_ hn.later
    · intro n hm
      exact tokenize_line h (List.dropLast_subset _ (hn.helper n hm).1)
    · intro n hm
      obtain ⟨hin, hkind, -⟩ := hn.helper n hm
      exact line_le_sourceLines h hin (by simp [hkind])

/-- What a parser answers on some of the tokens of a text. -/
theorem of_forward {α : Type} {o : Outcome α} (h : tokenize text.toList = .ok ts)
    (hs : us <:+: ts.dropLast) (ho : o.Forward us) : Recovered text o.notes := by
  have hlines : InLines us :=
    (tokenize_sorted h).sublist (hs.sublist.trans (List.dropLast_sublist ts))
  exact of_noted h ((ho.noted hlines).mono hs.subset)

end Recovered

/-- A signature recovers on later and later lines, whether it can be read or not. -/
theorem Signature.parse_recovered (text : String) (line : Int) :
    Recovered text (parse text line).notes := by
  unfold parse
  simp only
  split
  · exact .nil
  · rename_i ts ht
    split
    · exact .nil
    · exact .nil
    · rename_i us boundary hne hb
      have hforward :=
        (Parser.steady_chain {} (Nat.le_refl us.length) (Nat.le_refl us.length)
          ⟨text.toList, boundary⟩ us (Nat.le_refl us.length)).2
      have hrecovered := Recovered.of_forward ht (body_isInfix hb) hforward
      split
      · rename_i fault notes hc
        rwa [hc] at hrecovered
      · rename_i sig rest notes hc
        rwa [hc] at hrecovered

namespace Parser

/-- **Progress.** A type that is read takes its first token and leaves an end of the tokens behind
it, whether it recovers or not. So reading ends by itself, for types, parameters, signatures and the
calls of a procedure type alike: a bound of as many steps as there are tokens is enough, and any
greater one gives the same answer. In a text, each recovery is about a `T` on a later line than the
one before it, so that there are no more recoveries than lines. -/
theorem reading_advances :
    (∀ n s ts t rest notes, typeAt n s ts = .ok t rest notes →
      ∃ first us, ts = first :: us ∧ rest <:+ us) ∧
    (∀ n s ts, ts.length ≤ n → typeAt n s ts = type s ts) ∧
    (∀ known n s ts, ts.length ≤ n → paramList known n s ts = paramList known ts.length s ts) ∧
    (∀ sig n s ts, ts.length ≤ n → chain sig n s ts = chain sig ts.length s ts) ∧
    (∀ stop n ts, ts.length ≤ n → callChain stop n ts = callChain stop ts.length ts) ∧
    (∀ text line, Recovered text (Signature.parse text line).notes) ∧
    ∀ text ts, tokenize text.toList = .ok ts →
      Recovered text (type ⟨text.toList, text.toList.length⟩ ts.dropLast).notes := by
  refine ⟨?_, ?_, ?_, ?_, ?_, Signature.parse_recovered, ?_⟩
  · intro n s ts t rest notes h
    exact typeAt_progress h
  · intro n s ts h
    exact (steady_typeAt (Nat.le_refl _) h s ts (Nat.le_refl _)).1
  · intro known n s ts h
    exact (steady_paramList known (Nat.le_refl _) h s ts (Nat.le_refl _)).1
  · intro sig n s ts h
    exact (steady_chain sig (Nat.le_refl _) h s ts (Nat.le_refl _)).1
  · intro stop n ts h
    exact callChain_eq_of_le stop h (Nat.le_refl _)
  · intro text ts h
    exact .of_forward h (List.infix_refl _) (steady_type _ _ (Nat.le_refl _)).2

/-- Two parameters whose procedure types never close, and one behind them. -/
def unclosedTwice : String :=
  "params(f: T.proc.params((x\n, g: T.proc.params((y\n, h: Integer).void"

/-- The tokens of a procedure type that never closes, and a comma on the next line. -/
def unclosedTokens : List Token :=
  [⟨.const, "T", 0, 1, 1⟩, ⟨.dot, ".", 1, 2, 1⟩, ⟨.ident, "proc", 2, 6, 1⟩, ⟨.dot, ".", 6, 7, 1⟩,
    ⟨.ident, "void", 7, 11, 1⟩, ⟨.lparen, "(", 11, 12, 1⟩, ⟨.comma, ",", 13, 14, 2⟩]

theorem reading_advances_unclosedTwice :
    (∃ t rest notes, type ⟨"T.proc.void(\n,".toList, 14⟩ unclosedTokens = .ok t rest notes ∧
      t.render = ["T.proc.void("] ∧ rest.length = 1 ∧ rest <:+ unclosedTokens.tail ∧
      typeAt 20 ⟨"T.proc.void(\n,".toList, 14⟩ unclosedTokens = .ok t rest notes) ∧
    (Signature.parse unclosedTwice 1).notes.map (fun n => (n.raw, n.opening.line)) =
      [("T.proc.params((x", 1), ("T.proc.params((y", 2)] ∧
    (Text.sourceLines (Text.trimEnd unclosedTwice.toList)).length = 3 ∧
    Recovered unclosedTwice (Signature.parse unclosedTwice 1).notes := by
  obtain ⟨hprogress, hbound, -, -, -, hrecovered, -⟩ := reading_advances
  refine ⟨?_, by decide +kernel, by decide +kernel, hrecovered unclosedTwice 1⟩
  have hbounded := hbound 20 ⟨"T.proc.void(\n,".toList, 14⟩ unclosedTokens (by decide)
  refine ⟨_, _, _, rfl, by decide +kernel, rfl, ?_, hbounded.trans rfl⟩
  obtain ⟨first, us, hts, hrest⟩ := hprogress 20 _ unclosedTokens _ _ _ (hbounded.trans rfl)
  have hbehind : unclosedTokens.tail = us := by rw [hts, List.tail_cons]
  rw [hbehind]
  exact hrest

end Parser

end TypeTags
