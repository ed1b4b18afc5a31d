import TypeTags.Proofs.Signature.Reading
import TypeTags.Proofs.Signature.WellFormed
import TypeTags.Proofs.Text.Trim
import TypeTags.Proofs.Token.Layout

/-!
# What readers answer

A reader of tokens that stand in a text answers with a well-formed value, or with a fault that is
about a place in that text. Each rule of the grammar is such a reader, if the readers of its parts
are.

Results:
* `Sound.bind`: readers in sequence.
* `sound_typeAt`: types.
* `sound_chain`: chains of calls.
* `Signature.parse_sound`, `TypeExpr.parse_sound`: whole texts.
-/

namespace TypeTags

/-- A fault that a text of the length can be refused for: it is about a place in the text, and no
group was missing where one was to be read. -/
structure Fault.Inside (length : Nat) (fault : Fault) : Prop where
  offset_le : ∀ offset ∈ fault.offset, offset ≤ length
  cause_ne : ∀ found, fault.cause ≠ .noGroup found

theorem tokenize_inside {text : List Char} {fault : Fault} (h : tokenize text = .error fault) :
    fault.Inside text.length := by
  obtain ⟨hcause, hoffset⟩ := tokenize_offset_le h
  exact ⟨hoffset, by simp [hcause]⟩

/-- The answer is a value with the property, and tokens left, or a fault inside the text. -/
def Outcome.Meets {α : Type} (s : Source) (P : α → List Token → Prop) : Outcome α → Prop
  | .ok a rest _ => P a rest
  | .fail fault _ => fault.Inside s.text.length

namespace Parser

variable {α β : Type} {s : Source} {ts : List Token} {P : α → List Token → Prop}
  {Q : β → List Token → Prop}

theorem meets_pure {a : α} (h : P a ts) : ((pure a : Parser α) s ts).Meets s P := h

theorem meets_fault {cause : Cause} {offset : Nat} (h : offset ≤ s.text.length)
    (hc : ∀ found, cause ≠ .noGroup found) : ((fault cause offset : Parser α) s ts).Meets s P := by
  refine ⟨?_, hc⟩
  rintro offset ⟨⟩
  exact h

theorem meets_after {o : Outcome α} (h : o.Meets s P) (notes : List UnclosedProc) :
    (o.after notes).Meets s P := by
  cases o with
  | fail fault more => exact h
  | ok a rest more => exact h

theorem meets_bind {p : Parser α} {f : α → Parser β} (hp : (p s ts).Meets s P)
    (hf : ∀ a rest, P a rest → (f a s rest).Meets s Q) : ((p >>= f) s ts).Meets s Q := by
  cases h : p s ts with
  | fail fault notes =>
    rw [h] at hp
    rw [bind_fail h]
    exact hp
  | ok a rest notes =>
    rw [h] at hp
    rw [bind_ok h]
    exact meets_after (hf a rest hp) notes

/-- A first step that is known to succeed. -/
theorem meets_step {p : Parser α} {f : α → Parser β} {a : α} {rest : List Token}
    {notes : List UnclosedProc} (hp : p s ts = .ok a rest notes)
    (hf : (f a s rest).Meets s Q) : ((p >>= f) s ts).Meets s Q := by
  rw [bind_ok hp]
  exact meets_after hf notes

theorem meets_mono {o : Outcome α} {P' : α → List Token → Prop} (h : o.Meets s P)
    (hp : ∀ a rest, P a rest → P' a rest) : o.Meets s P' := by
  cases o with
  | fail fault notes => exact h
  | ok a rest notes => exact hp a rest h

/-! ## Single tokens -/

theorem front_start_le (h : Laid s ts) : (front s ts).start ≤ s.text.length := by
  cases ts with
  | nil => exact h.boundary_le
  | cons t ts => exact h.start_le List.mem_cons_self

/-- A token of any kind but the end mark is there. -/
theorem exists_of_front {kind : TokenKind} (h : (front s ts).kind = kind) (hk : kind ≠ .eof) :
    ∃ t us, ts = t :: us ∧ t.kind = kind := by
  cases ts with
  | nil => exact absurd h.symm hk
  | cons t us => exact ⟨t, us, rfl, h⟩

theorem expect_meets (h : Laid s ts) {kind : TokenKind} (hk : kind ≠ .eof) (wanted : Wanted) :
    (expect kind wanted s ts).Meets s fun t rest => ts = t :: rest ∧ t.kind = kind := by
  rw [expect_run]
  split
  · rename_i hkind
    obtain ⟨t, us, rfl, ht⟩ := exists_of_front hkind hk
    exact ⟨rfl, ht⟩
  · exact ⟨by rintro offset ⟨⟩; exact front_start_le h, by simp⟩

theorem matchGroup_mismatched {awaited : TokenKind} {outer : List TokenKind} {ts : List Token}
    {found : Token} (h : matchGroup awaited outer ts = .mismatched found) : found ∈ ts := by
  induction ts generalizing awaited outer with
  | nil => cases h
  | cons t ts ih =>
    simp only [matchGroup] at h
    split at h
    · exact List.mem_cons_of_mem _ (ih h)
    · split at h
      · split at h
        · split at h
          · cases h
          · exact List.mem_cons_of_mem _ (ih h)
        · cases h
          exact List.mem_cons_self
      · exact List.mem_cons_of_mem _ (ih h)

/-- A group is read where a token opens one. -/
theorem group_meets {opening : Token} {inside : List Token} (h : Laid s (opening :: inside))
    {awaited : TokenKind} (ho : opening.kind.closer? = some awaited) :
    (group s (opening :: inside)).Meets s fun closer rest => closer :: rest <:+ inside := by
  refine meets_step (advance_run s _) ?_
  rw [front_cons, ho]
  refine meets_step (tokens_run s _) ?_
  rw [List.tail_cons]
  cases hg : matchGroup awaited [] inside with
  | closed closer rest => exact matchGroup_suffix hg
  | unclosed => exact meets_fault (h.start_le List.mem_cons_self) (by simp)
  | mismatched found => exact meets_fault (h.tail.start_le (matchGroup_mismatched hg)) (by simp)

/-! ## Readers that can be given any tokens of a text -/

/-- Tokens that stand in the source are read to a value with the property, and others that do are
left; or there is a fault inside the text. -/
def Sound (s : Source) (P : α → Prop) (p : Parser α) : Prop :=
  ∀ ts, Laid s ts → (p s ts).Meets s fun a rest => P a ∧ Laid s rest

variable {A : α → Prop} {B : β → Prop}

theorem Sound.pure {a : α} (h : A a) : Sound s A (Pure.pure a) := fun _ hl => meets_pure ⟨h, hl⟩

theorem Sound.bind {p : Parser α} {f : α → Parser β} (hp : Sound s A p)
    (hf : ∀ a, A a → Sound s B (f a)) : Sound s B (p >>= f) :=
  fun ts hl => meets_bind (hp ts hl) fun a rest ha => hf a ha.1 rest ha.2

theorem sound_fault {cause : Cause} {offset : Nat} (h : offset ≤ s.text.length)
    (hc : ∀ found, cause ≠ .noGroup found) : Sound s A (fault cause offset) :=
  fun _ _ => meets_fault h hc

theorem sound_peekAt (n : Nat) : Sound s (fun t => t.start ≤ s.text.length) (peekAt n) :=
  fun ts hl => ⟨front_start_le (hl.suffix (List.drop_suffix n ts)), hl⟩

theorem sound_peek : Sound s (fun t => t.start ≤ s.text.length) peek := sound_peekAt 0

theorem sound_advance : Sound s (fun t => t.start ≤ s.text.length) advance := by
  intro ts hl
  rw [advance_run]
  exact ⟨front_start_le hl, hl.suffix (List.tail_suffix ts)⟩

theorem sound_atEnd : Sound s (fun _ => True) atEnd := by
  intro ts hl
  rw [atEnd_run]
  exact ⟨trivial, hl⟩

theorem sound_accept (kind : TokenKind) : Sound s (fun _ => True) (accept kind) := by
  intro ts hl
  rw [accept_run]
  split
  · exact ⟨trivial, hl.suffix (List.tail_suffix ts)⟩
  · exact ⟨trivial, hl⟩

theorem sound_expect {kind : TokenKind} (hk : kind ≠ .eof) (wanted : Wanted) :
    Sound s (fun t => t.value ≠ "") (expect kind wanted) := by
  intro ts hl
  refine meets_mono (expect_meets hl hk wanted) ?_
  rintro t rest ⟨rfl, -⟩
  exact ⟨hl.head.value_ne, hl.tail⟩

/-! ## Lists of types -/

section Items

variable {item : Parser TypeExpr} (hitem : Sound s TypeExpr.WellFormed item)

include hitem

theorem sound_listTail {closer : TokenKind} (hc : closer ≠ .eof) (n : Nat) :
    Sound s (fun types => ∀ t ∈ types, t.WellFormed) (listTail item closer n) := by
  have hend : Sound s (fun types => ∀ t ∈ types, t.WellFormed)
      (do let _ ← expect closer .closingBracket; return ([] : List TypeExpr)) :=
    (sound_expect hc _).bind fun _ _ => .pure (by simp)
  induction n with
  | zero => exact hend
  | succ n ih =>
    refine (sound_accept .comma).bind fun comma _ => ?_
    split
    · refine sound_peek.bind fun next _ => ?_
      split
      · exact hend
      · refine hitem.bind fun first hf => ih.bind fun others ho => .pure ?_
        exact List.forall_mem_cons.2 ⟨hf, ho⟩
    · exact hend

theorem sound_itemList {closer : TokenKind} (hc : closer ≠ .eof) (n : Nat) :
    Sound s (fun types => types ≠ [] ∧ ∀ t ∈ types, t.WellFormed) (itemList item closer n) := by
  refine hitem.bind fun first hf => (sound_listTail hitem hc n).bind fun others ho => .pure ?_
  exact ⟨by simp, List.forall_mem_cons.2 ⟨hf, ho⟩⟩

theorem sound_argument (word : String) : Sound s TypeExpr.WellFormed (argument item word) := by
  refine (sound_expect (by simp) _).bind fun _ _ => hitem.bind fun inner hi => ?_
  exact (sound_expect (by simp) _).bind fun _ _ => .pure hi

end Items

/-! ## Verbatim text -/

/-- The text from a token on starts with the token's first character. -/
theorem slice_solid {t : Token} (h : t.Stands s) {stop : Nat} (hs : t.start < stop) :
    ∃ c cs, s.slice t.start stop = c :: cs ∧ Text.isBlank c = false := by
  obtain ⟨c, hc, hb⟩ := h.solid
  obtain ⟨hlt, hget⟩ := List.getElem?_eq_some_iff.1 hc
  refine ⟨c, (s.text.drop (t.start + 1)).take (stop - t.start - 1), ?_, hb⟩
  unfold Source.slice
  rw [List.drop_eq_getElem_cons hlt, hget, List.take_cons (by omega)]

theorem ofList_ne_empty {cs : List Char} (h : cs ≠ []) : String.ofList cs ≠ "" := by
  simpa using h

theorem verbatim_meets {first : Token} (h : first.Stands s) {stop : Nat} (hs : first.start < stop) :
    (verbatim first stop s ts).Meets s fun raw rest => raw ≠ "" ∧ rest = ts := by
  obtain ⟨c, cs, hslice, hc⟩ := slice_solid h hs
  refine ⟨?_, rfl⟩
  simp only [hslice]
  exact ofList_ne_empty (Text.squeeze_solid hc cs)

theorem recoverProc_meets {fromFirst : List Token} {first : Token} (hl : Laid s fromFirst)
    (hf : first.Stands s) : (recoverProc fromFirst first s ts).Meets s fun t rest =>
      t.WellFormed ∧ Laid s rest := by
  obtain ⟨c, cs, hslice, hc⟩ := slice_solid hf hf.start_lt_boundary
  have hline : c ≠ '\n' := by
    rintro rfl
    simp [show Text.isBlank '\n' = true from rfl] at hc
  have hraw : String.ofList (Text.trim ((s.slice first.start s.boundary).takeWhile (· != '\n')))
      ≠ "" := by
    rw [hslice, List.takeWhile_cons_of_pos (by simpa using hline), Text.trim_cons hc]
    exact ofList_ne_empty (by simp)
  exact ⟨.simple hraw, hl.suffix (List.dropWhile_suffix _)⟩

/-! ## Helpers -/

/-- A chain of calls ends behind everything that its parts end behind. -/
theorem callChain_closed {least stop stop' n : Nat} {ts rest : List Token} (hs : least < stop)
    (ht : ∀ t ∈ ts, least < t.stop) (h : callChain stop n ts = .closed stop' rest) :
    least < stop' ∧ rest <:+ ts := by
  fun_induction callChain stop n ts with
  | case1 stop n dot word hk =>
    cases h
    exact ⟨ht word (by simp), List.nil_suffix⟩
  | case2 stop n dot word hk t ts hp closer rest' hg ih =>
    have hsuffix := matchGroup_suffix hg
    have hcloser := hsuffix.subset List.mem_cons_self
    have hrest := (List.suffix_cons closer rest').trans hsuffix
    have hbehind : rest' <:+ dot :: word :: t :: ts :=
      hrest.trans (((List.suffix_cons _ _).trans (List.suffix_cons _ _)).trans
        (List.suffix_cons _ _))
    obtain ⟨hstop, hr⟩ :=
      ih (ht closer (by simp [hcloser])) (fun u hu => ht u (hbehind.subset hu)) h
    exact ⟨hstop, hr.trans hbehind⟩
  | case3 => cases h
  | case4 => cases h
  | case5 stop n dot word hk t ts hp ih =>
    have hbehind : t :: ts <:+ dot :: word :: t :: ts :=
      (List.suffix_cons _ _).trans (List.suffix_cons _ _)
    obtain ⟨hstop, hr⟩ := ih (ht word (by simp)) (fun u hu => ht u (hbehind.subset hu)) h
    exact ⟨hstop, hr.trans hbehind⟩
  | case6 stop n dot word ts hk =>
    cases h
    exact ⟨hs, List.suffix_refl _⟩
  | case7 =>
    cases h
    exact ⟨hs, List.suffix_refl _⟩

theorem callChain_mismatched {stop n : Nat} {ts : List Token} {found : Token}
    (h : callChain stop n ts = .mismatched found) : found ∈ ts := by
  fun_induction callChain stop n ts with
  | case2 stop n dot word hk t ts hp closer rest' hg ih =>
    have := (matchGroup_suffix hg).subset (List.mem_cons_of_mem _ (ih h))
    simp [this]
  | case4 stop n dot word hk t ts hp found' hg =>
    cases h
    simp [matchGroup_mismatched hg]
  | case5 stop n dot word hk t ts hp ih =>
    exact List.mem_cons_of_mem _ (List.mem_cons_of_mem _ (ih h))
  | _ => cases h

section Helpers

variable {first dot word : Token} (hl : Laid s (first :: dot :: word :: ts))

include hl

/-- Every token behind the first one ends behind its start. -/
theorem first_start_lt {t : Token} (ht : t ∈ dot :: word :: ts) : first.start < t.stop := by
  have hstart := (List.pairwise_cons.1 hl.sorted).1 t ht
  have hstop := (hl.tail.stands t ht).start_lt_stop
  omega

theorem procType_meets : (procType (first :: dot :: word :: ts) first word s ts).Meets s
    fun t rest => t.WellFormed ∧ Laid s rest := by
  have hbehind : Laid s ts := hl.tail.tail.tail
  have hfirst : ∀ t ∈ ts, first.start < t.stop := fun t ht => first_start_lt hl (by simp [ht])
  refine meets_step (tokens_run s ts) ?_
  cases hc : callChain word.stop ts.length ts with
  | closed stop rest =>
    obtain ⟨hstop, hrest⟩ := callChain_closed (first_start_lt hl (by simp)) hfirst hc
    refine meets_step (resume_run s ts rest) ?_
    refine meets_bind (verbatim_meets hl.head hstop) ?_
    rintro raw _ ⟨hraw, rfl⟩
    exact meets_pure ⟨.proc hraw, hbehind.suffix hrest⟩
  | unclosed => exact recoverProc_meets hl hl.head
  | mismatched found => exact meets_fault (hbehind.start_le (callChain_mismatched hc)) (by simp)

theorem opaqueHelper_meets : (opaqueHelper first word s ts).Meets s
    fun t rest => t.WellFormed ∧ Laid s rest := by
  have hbehind : Laid s ts := hl.tail.tail.tail
  refine meets_step (peek_run s ts) ?_
  split
  · rename_i hparen
    obtain ⟨opening, inside, rfl, ho⟩ := exists_of_front hparen (by simp)
    refine meets_bind (group_meets hbehind (by rw [ho]; rfl)) fun closer rest hsuffix => ?_
    have hcloser : first.start < closer.stop :=
      first_start_lt hl (by simp [hsuffix.subset List.mem_cons_self])
    refine meets_bind (verbatim_meets hl.head hcloser) ?_
    rintro raw _ ⟨hraw, rfl⟩
    exact meets_pure ⟨.simple hraw, (hbehind.tail.suffix hsuffix).tail⟩
  · refine meets_bind (verbatim_meets hl.head (first_start_lt hl (by simp))) ?_
    rintro raw _ ⟨hraw, rfl⟩
    exact meets_pure ⟨.simple hraw, hbehind⟩

end Helpers

/-! ## Constants -/

theorem pathTail_values (ts : List Token) (hv : ∀ t ∈ ts, t.value ≠ "") :
    ∀ x ∈ (pathTail ts).1, x ≠ "" := by
  induction ts using pathTail.induct with
  | case1 a b ts hk segments rest he ih =>
    simp only [pathTail, hk, and_self, if_true]
    exact List.forall_mem_cons.2 ⟨hv b (by simp), ih fun t ht => hv t (by simp [ht])⟩
  | case2 a b ts hk => simp [pathTail, hk]
  | case3 ts h =>
    obtain _ | ⟨a, _ | ⟨b, ts⟩⟩ := ts
    · simp [pathTail]
    · simp [pathTail]
    · exact absurd rfl (h a b ts)

/-- A path goes by a name unless it is one empty segment. -/
theorem pathName_ne {first : String} {others : List String} (hf : others = [] → first ≠ "")
    (ho : ∀ x ∈ others, x ≠ "") : pathName (first :: others) ≠ "" := by
  unfold pathName
  split
  · rename_i name he
    cases he
    exact ho name (by simp)
  · cases others with
    | nil => simpa using hf rfl
    | cons second others => simp [String.intercalate_cons_cons]

theorem sound_constantPath : Sound s (fun segments => pathName segments ≠ "") constantPath := by
  refine (sound_accept .scope).bind fun rooted _ => ?_
  refine (sound_expect (by simp) _).bind fun first hf => ?_
  intro ts hl
  have hothers := pathTail_values ts fun t ht => (hl.stands t ht).value_ne
  refine meets_step (tokens_run s ts) (meets_step (resume_run s ts _) ?_)
  refine meets_pure ⟨?_, hl.suffix (pathTail_suffix ts)⟩
  split
  · exact pathName_ne (by simp) (List.forall_mem_cons.2 ⟨hf, hothers⟩)
  · exact pathName_ne (fun _ => hf) hothers

theorem bare_wellFormed {name : String} (h : name ≠ "") : (bare name).WellFormed := by
  unfold bare
  split
  · exact .fixedHash
  · exact .simple h

/-! ## Types -/

section Types

variable {item : Parser TypeExpr} (hitem : Sound s TypeExpr.WellFormed item)

include hitem

theorem sound_payload (n : Nat) {name : String} (hn : name ≠ "") {offset : Nat}
    (ho : offset ≤ s.text.length) : Sound s TypeExpr.WellFormed (payload item n name offset) := by
  refine sound_peek.bind fun next _ => ?_
  cases next.kind with
  | lbrack =>
    refine sound_advance.bind fun _ _ => ?_
    refine (sound_itemList hitem (by simp) n).bind fun args hargs => ?_
    split
    · split
      · exact .pure (.keyed hn (hargs.2 _ (by simp)) (hargs.2 _ (by simp)))
      · exact sound_fault ho (by simp)
    · exact .pure (.generic hn hargs.1 hargs.2)
  | lt =>
    refine sound_advance.bind fun _ _ => ?_
    exact (sound_itemList hitem (by simp) n).bind fun args hargs =>
      .pure (.generic hn hargs.1 hargs.2)
  | lbrace =>
    refine sound_advance.bind fun _ _ => hitem.bind fun key hk => ?_
    refine (sound_expect (by simp) _).bind fun _ _ => hitem.bind fun value hv => ?_
    exact (sound_expect (by simp) _).bind fun _ _ => .pure (.keyed hn hk hv)
  | lparen =>
    dsimp only
    split
    · refine sound_advance.bind fun _ _ => ?_
      exact (sound_itemList hitem (by simp) n).bind fun args hargs =>
        .pure (.tuple hargs.1 hargs.2)
    · exact .pure (bare_wellFormed hn)
  | _ => exact .pure (bare_wellFormed hn)

theorem sound_constantType (n : Nat) : Sound s TypeExpr.WellFormed (constantType item n) := by
  refine sound_peek.bind fun first hf => sound_constantPath.bind fun segments hs => ?_
  split
  · exact .pure (.simple (by simp))
  split
  · exact .pure (.simple (by simp))
  · exact sound_payload hitem n hs hf

/-- The tokens `T` and a dot are in front. -/
theorem helperType_meets {first dot : Token} (hl : Laid s (first :: dot :: ts)) (n : Nat) :
    (helperType item n s (first :: dot :: ts)).Meets s
      fun t rest => t.WellFormed ∧ Laid s rest := by
  refine meets_step (tokens_run s _)
    (meets_step (advance_run s _) (meets_step (advance_run s _) ?_))
  refine meets_bind (expect_meets hl.tail.tail (by simp) _) ?_
  rintro word rest ⟨rfl, -⟩
  have hrest : Laid s rest := hl.tail.tail.tail
  -- a reader that does not look back reads what is left
  have ahead {p : Parser TypeExpr} (hp : Sound s TypeExpr.WellFormed p) := hp rest hrest
  split
  · exact ahead ((sound_argument hitem _).bind fun _ hi => .pure (.nilable hi))
  split
  · refine ahead ((sound_expect (by simp) _).bind fun _ _ => ?_)
    exact (sound_itemList hitem (by simp) n).bind fun _ ha => .pure (.union ha.1 ha.2)
  split
  · exact ahead (.pure .untyped)
  split
  · exact ahead (.pure (.simple (by simp)))
  split
  · refine ahead ((sound_argument hitem _).bind fun inner hi => .pure ?_)
    exact .generic (by simp) (by simp) (by simpa using hi)
  split
  · exact procType_meets hl
  · exact opaqueHelper_meets hl

theorem sound_typeStep (n : Nat) : Sound s TypeExpr.WellFormed (typeStep item n) := by
  have hno : Sound s TypeExpr.WellFormed noType :=
    sound_peek.bind fun t ht => sound_fault ht (by simp)
  intro ts hl
  refine meets_step (peek_run s ts) ?_
  cases hk : (front s ts).kind with
  | lbrack =>
    refine (sound_advance.bind fun _ _ => sound_peek.bind fun next _ => ?_ :
      Sound s TypeExpr.WellFormed _) ts hl
    split
    · exact sound_fault (front_start_le hl) (by simp)
    · exact (sound_itemList hitem (by simp) n).bind fun _ ha => .pure (.tuple ha.1 ha.2)
  | lbrace =>
    obtain ⟨opening, inside, rfl, ho⟩ := exists_of_front hk (by simp)
    refine meets_bind (group_meets hl (by rw [ho]; rfl)) fun closer rest hsuffix => ?_
    exact meets_pure ⟨.fixedHash, (hl.tail.suffix hsuffix).tail⟩
  | const =>
    refine meets_step (peekAt_run s ts 1) ?_
    split
    · rename_i hdot
      obtain ⟨first, behind, rfl, -⟩ := exists_of_front hk (by simp)
      obtain ⟨dot, rest, rfl, -⟩ := exists_of_front hdot.2 (by simp)
      exact helperType_meets hitem hl n
    · exact sound_constantType hitem n ts hl
  | scope => exact sound_constantType hitem n ts hl
  | ident =>
    dsimp only
    split
    · rename_i hword
      refine (sound_advance.bind fun _ _ => .pure (.simple ?_) :
        Sound s TypeExpr.WellFormed _) ts hl
      rintro he
      rw [he] at hword
      simp [wordTypes] at hword
    · exact hno ts hl
  | _ => exact hno ts hl

end Types

/-- **Types.** A type that is read from tokens of a text is well-formed, and a fault is inside the
text. -/
theorem sound_typeAt (n : Nat) : Sound s TypeExpr.WellFormed (typeAt n) := by
  induction n with
  | zero => exact sound_peek.bind fun t ht => sound_fault ht (by simp)
  | succ n ih => exact sound_typeStep ih n

theorem sound_type : Sound s TypeExpr.WellFormed type := fun ts hl => sound_typeAt ts.length ts hl

/-! ## Chains -/

theorem sound_stringArgument : Sound s (fun _ => True) stringArgument := by
  refine (sound_peekAt 1).bind fun _ _ => sound_peek.bind fun _ _ => ?_
  refine (sound_peekAt 1).bind fun _ _ => (sound_peekAt 2).bind fun _ _ => ?_
  split
  · exact .pure trivial
  · exact .pure trivial

theorem sound_paramList (known : List String) (n : Nat) :
    Sound s (fun params => ∀ p ∈ params, p.2.WellFormed) (paramList known n) := by
  induction n generalizing known with
  | zero => exact sound_peek.bind fun t ht => sound_fault ht (by simp)
  | succ n ih =>
    refine (sound_accept .rparen).bind fun closed _ => ?_
    split
    · exact .pure (by simp)
    refine sound_peek.bind fun t ht => ?_
    split
    · exact sound_fault ht (by simp)
    refine sound_advance.bind fun _ _ => (sound_expect (by simp) _).bind fun _ _ => ?_
    split
    · exact sound_fault ht (by simp)
    refine sound_type.bind fun declared hd => (sound_accept .comma).bind fun comma _ => ?_
    split
    · exact (ih _).bind fun others ho => .pure (List.forall_mem_cons.2 ⟨hd, ho⟩)
    · exact (sound_expect (by simp) _).bind fun _ _ => .pure (by simpa using hd)

theorem sound_params (declared : List (String × TypeExpr)) :
    Sound s (fun params => ∀ p ∈ params, p.2.WellFormed) (params declared) := by
  refine (sound_expect (by simp) _).bind fun _ _ ts hl => ?_
  exact meets_step (tokens_run s ts) (sound_paramList _ _ ts hl)

theorem sound_modifierArguments : Sound s (fun _ => True) modifierArguments := by
  intro ts hl
  refine meets_step (peek_run s ts) ?_
  split
  · rename_i hk
    obtain ⟨opening, inside, rfl, ho⟩ := exists_of_front hk (by simp)
    refine meets_bind (group_meets hl (by rw [ho]; rfl)) fun closer rest hsuffix => ?_
    exact meets_pure ⟨trivial, (hl.tail.suffix hsuffix).tail⟩
  · exact meets_pure ⟨trivial, hl⟩

theorem sound_call {sig : Signature} (hsig : sig.WellFormed) (name : String) :
    Sound s Signature.WellFormed (call sig name) := by
  unfold call
  split
  · refine (sound_params _).bind fun more hm => .pure ⟨?_, hsig.returns, hsig.span⟩
    exact List.forall_mem_append.2 ⟨hsig.params, hm⟩
  split
  · refine (sound_argument sound_type _).bind fun t ht => .pure ⟨hsig.params, ?_, hsig.span⟩
    rintro _ ⟨⟩
    exact ht
  split
  · exact .pure ⟨hsig.params, hsig.returns, hsig.span⟩
  split
  · refine sound_stringArgument.bind fun text _ => sound_modifierArguments.bind fun _ _ => ?_
    exact .pure ⟨hsig.params, hsig.returns, hsig.span⟩
  split
  · exact sound_modifierArguments.bind fun _ _ => .pure ⟨hsig.params, hsig.returns, hsig.span⟩
  split
  · exact sound_modifierArguments.bind fun _ _ => .pure ⟨hsig.params, hsig.returns, hsig.span⟩
  · exact sound_modifierArguments.bind fun _ _ => .pure hsig

/-- **Chains.** A chain that is read from tokens of a text gives a well-formed signature, and a
fault is inside the text. -/
theorem sound_chain {sig : Signature} (hsig : sig.WellFormed) (n : Nat) :
    Sound s Signature.WellFormed (chain sig n) := by
  induction n generalizing sig with
  | zero => exact sound_peek.bind fun t ht => sound_fault ht (by simp)
  | succ n ih =>
    refine (sound_expect (by simp) _).bind fun word _ => (sound_call hsig _).bind fun read hr => ?_
    split
    · refine sound_atEnd.bind fun done _ => ?_
      split
      · exact .pure hr
      · exact sound_peek.bind fun t ht => sound_fault ht (by simp)
    · refine sound_atEnd.bind fun done _ => ?_
      cases done with
      | true => exact fun _ _ => ⟨by simp, by simp⟩
      | false => exact (sound_expect (by simp) _).bind fun _ _ => ih hr

end Parser

/-! ## Blocks -/

namespace Signature

theorem inside_of_start {s : Source} {ts : List Token} (h : Laid s ts) {t : Token} (ht : t ∈ ts)
    {cause : Cause} (hc : ∀ found, cause ≠ .noGroup found) :
    Fault.Inside s.text.length ⟨cause, some t.start⟩ := by
  refine ⟨?_, hc⟩
  rintro offset ⟨⟩
  exact h.start_le ht

/-- The tokens of the body stand before its boundary, or the fault is inside the text. -/
def BodyMeets (text : List Char) : Except Fault Body → Prop
  | .ok b => Laid ⟨text, b.boundary⟩ b.tokens
  | .error fault => fault.Inside text.length

theorem blockBody_laid {text : List Char} {inside : List Token}
    (h : Laid ⟨text, text.length⟩ inside) {closes : Token → Bool} {b : Body}
    (hb : blockBody closes inside = some b) : Laid ⟨text, b.boundary⟩ b.tokens := by
  unfold blockBody at hb
  split at hb
  · rename_i last hlast
    split at hb
    · cases hb
      obtain ⟨init, rfl⟩ := List.getLast?_eq_some_iff.1 hlast
      rw [List.dropLast_concat]
      have hlt := (h.stands last (by simp)).start_lt_boundary
      have hinit := (List.pairwise_append.1 h.sorted).2.2
      refine (h.sublist (List.sublist_append_left init _)).cutOff (Nat.le_of_lt hlt) ?_
      exact fun t ht => hinit t ht last (by simp)
    · cases hb
  · cases hb

theorem unwrapBlock_meets {text : List Char} {ts : List Token} (h : Laid ⟨text, text.length⟩ ts) :
    BodyMeets text (unwrapBlock text.length ts) := by
  cases ts with
  | nil =>
    refine ⟨?_, by simp⟩
    rintro offset ⟨⟩
    exact Nat.le_refl _
  | cons opening inside =>
    have hopening {cause : Cause} (hc : ∀ found, cause ≠ .noGroup found) :
        Fault.Inside text.length ⟨cause, some opening.start⟩ :=
      inside_of_start h List.mem_cons_self hc
    simp only [unwrapBlock]
    split
    · split
      · rename_i closer extra rest hg
        have hextra := (matchGroup_suffix hg).subset (List.mem_cons_of_mem _ List.mem_cons_self)
        exact inside_of_start h.tail hextra (by simp)
      · split
        · exact blockBody_laid h.tail ‹_›
        · exact hopening (by simp)
    · split
      · split
        · exact blockBody_laid h.tail ‹_›
        · exact hopening (by simp)
      · exact hopening (by simp)

theorem body_meets {text : List Char} {ts : List Token} (h : Laid ⟨text, text.length⟩ ts) :
    BodyMeets text (body text.length ts) := by
  unfold body
  split
  · exact h
  · rename_i first rest
    split
    · split
      · exact unwrapBlock_meets h.tail
      · rename_i t inner
        split
        · split
          · rename_i closer rest hg
            exact unwrapBlock_meets (h.tail.tail.suffix (matchGroup_suffix hg)).tail
          · exact inside_of_start h (t := t) (by simp) (by simp)
          · rename_i found hg
            exact inside_of_start h.tail.tail (Parser.matchGroup_mismatched hg) (by simp)
        · exact unwrapBlock_meets h.tail
    · exact h

/-! ## Whole texts -/

theorem placed_ne_malformed (sig : Signature) (lines : Option LineSpan) (fault : Fault) :
    placed sig lines ≠ .error (.malformed fault) := by
  unfold placed
  split
  · split <;> simp
  · simp

theorem placed_wellFormed {sig placed : Signature} {lines : Option LineSpan} (hs : sig.WellFormed)
    (h : Signature.placed sig lines = .ok placed) : placed.WellFormed := by
  unfold Signature.placed at h
  split at h
  · split at h
    · cases h
    · rename_i span hspan
      cases h
      refine ⟨hs.params, hs.returns, ?_⟩
      rintro _ ⟨⟩
      unfold LineSpan.WellFormed
      omega
  · cases h
    exact hs

/-- What a text is read as is well-formed, and what it is refused for is inside it. -/
theorem parse_sound (text : String) (line : Int) :
    (∀ sig, (parse text line).result = .ok sig → sig.WellFormed) ∧
      ∀ fault, (parse text line).result = .error (.malformed fault) →
        fault.Inside text.length := by
  rw [← String.length_toList]
  cases ht : tokenize text.toList with
  | error fault =>
    simp only [parse, ht]
    refine ⟨by simp, ?_⟩
    rintro _ ⟨⟩
    exact tokenize_inside ht
  | ok ts =>
    have hbody := body_meets (tokenize_laid ht)
    cases hb : body text.toList.length ts.dropLast with
    | error fault =>
      rw [hb] at hbody
      simp only [parse, ht, hb]
      refine ⟨by simp, ?_⟩
      rintro _ ⟨⟩
      exact hbody
    | ok b =>
      rw [hb] at hbody
      obtain ⟨us, boundary⟩ := b
      cases us with
      | nil =>
        simp only [parse, ht, hb]
        refine ⟨by simp, ?_⟩
        rintro _ ⟨⟩
        exact ⟨by simp, by simp⟩
      | cons t us =>
        have hempty : ({} : Signature).WellFormed := ⟨by simp, by simp, by simp⟩
        have hchain := Parser.sound_chain hempty (t :: us).length (t :: us) hbody
        cases hc : Parser.chain {} (t :: us).length ⟨text.toList, boundary⟩ (t :: us) with
        | fail fault notes =>
          rw [hc] at hchain
          simp only [parse, ht, hb, hc]
          refine ⟨by simp, ?_⟩
          rintro _ ⟨⟩
          exact hchain
        | ok read rest notes =>
          rw [hc] at hchain
          simp only [parse, ht, hb, hc]
          refine ⟨fun sig hp => placed_wellFormed hchain.1 hp, fun fault hp => ?_⟩
          exact absurd hp (placed_ne_malformed _ _ _)

end Signature

/-- What a text is read as is well-formed, and what it is refused for is inside it. -/
theorem TypeExpr.parse_sound (text : String) :
    (∀ t, parse text = .ok t → t.WellFormed) ∧
      ∀ fault, parse text = .error fault → fault.Inside text.length := by
  rw [← String.length_toList]
  cases ht : tokenize text.toList with
  | error fault =>
    simp only [parse, ht]
    refine ⟨by simp, ?_⟩
    rintro _ ⟨⟩
    exact tokenize_inside ht
  | ok ts =>
    have hlaid := tokenize_laid ht
    have htype := Parser.sound_type ts.dropLast hlaid
    cases hp : Parser.type ⟨text.toList, text.toList.length⟩ ts.dropLast with
    | fail fault notes =>
      rw [hp] at htype
      simp only [parse, ht, hp]
      refine ⟨by simp, ?_⟩
      rintro _ ⟨⟩
      exact htype
    | ok t rest notes =>
      rw [hp] at htype
      cases rest with
      | nil =>
        simp only [parse, ht, hp]
        refine ⟨?_, by simp⟩
        rintro _ ⟨⟩
        exact htype.1
      | cons extra rest =>
        simp only [parse, ht, hp]
        refine ⟨by simp, ?_⟩
        rintro _ ⟨⟩
        exact Signature.inside_of_start htype.2 List.mem_cons_self (by simp)

end TypeTags
