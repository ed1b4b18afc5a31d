import TypeTags.Proofs.Signature.Block
import TypeTags.Proofs.Token.Nesting

/-!
# The brackets of a signature

Every rule of the grammar closes the groups that it opens. So the tokens of a chain that is read
without notes lead back to the stack of brackets that they start from, whatever group the chain
stands in.

Results:
* `Nests.bind`: sequences of parsers compose their effects on the stack.
* `keepsNesting_typeAt`: a type closes what it opens.
* `chain_nests`: so does a chain that is read to its end.
* `Signature.nesting_of_parse`: the tokens of a text that is read as a signature nest.
-/

namespace TypeTags

namespace Parser

variable {α β : Type} {before mid after stack : List TokenKind} {s : Source} {ts : List Token}

/-- If the parser succeeds without notes, the tokens that it reads lead from one stack to the other.
-/
def Nests (before after : List TokenKind) (p : Parser α) (s : Source) (ts : List Token) : Prop :=
  ∀ a rest, p s ts = .ok a rest [] →
    ∃ used, ts = used ++ rest ∧ stackAfter before (used.map Token.kind) = some after

/-- Inside a group, the parser closes what it opens. -/
def KeepsNesting (p : Parser α) : Prop := ∀ stack ≠ [], ∀ s ts, Nests stack stack p s ts

/-- Two parsers in a row; the second may rely on what the first answers. -/
theorem Nests.bind_of_ok {p : Parser α} {f : α → Parser β} (hp : Nests before mid p s ts)
    (hf : ∀ a rest, p s ts = .ok a rest [] → Nests mid after (f a) s rest) :
    Nests before after (p >>= f) s ts := by
  intro b rest h
  obtain ⟨a, left, h1, h2⟩ := bind_eq_ok h
  obtain ⟨used, rfl, hused⟩ := hp a left h1
  obtain ⟨more, rfl, hmore⟩ := hf a left h1 b rest h2
  refine ⟨used ++ more, by simp, ?_⟩
  rw [List.map_append]
  exact stackAfter_append hused hmore

theorem Nests.bind {p : Parser α} {f : α → Parser β} (hp : Nests before mid p s ts)
    (hf : ∀ a rest, Nests mid after (f a) s rest) : Nests before after (p >>= f) s ts :=
  hp.bind_of_ok fun a rest _ => hf a rest

theorem KeepsNesting.bind {p : Parser α} {f : α → Parser β} (hp : KeepsNesting p)
    (hf : ∀ a, KeepsNesting (f a)) : KeepsNesting (p >>= f) :=
  fun stack hs s ts => (hp stack hs s ts).bind fun a rest => hf a stack hs s rest

theorem Nests.pure (a : α) : Nests stack stack (pure a) s ts := by
  intro b rest h
  cases h
  exact ⟨[], rfl, rfl⟩

theorem KeepsNesting.pure (a : α) : KeepsNesting (pure a) := fun _ _ _ _ => Nests.pure a

theorem Nests.of_fails {p : Parser α} (h : ∀ a rest, p s ts ≠ .ok a rest []) :
    Nests before after p s ts :=
  fun a rest hp => absurd hp (h a rest)

theorem nests_fault (cause : Cause) (offset : Nat) :
    Nests before after (fault cause offset : Parser α) s ts :=
  .of_fails fun _ _ h => by cases h

/-! ## Single tokens -/

/-- A parser that reads nothing, on whose answer what follows may rely. -/
theorem Nests.look_bind {p : Parser α} {f : α → Parser β} {a : α} (hp : p s ts = .ok a ts [])
    (h : Nests before after (f a) s ts) : Nests before after (p >>= f) s ts := by
  have hlook : Nests before before p s ts := by
    intro b rest hb
    rw [hp] at hb
    cases hb
    exact ⟨[], rfl, rfl⟩
  refine hlook.bind_of_ok fun b rest hb => ?_
  rw [hp] at hb
  cases hb
  exact h

theorem Nests.peek_bind {f : Token → Parser β} (h : Nests before after (f (front s ts)) s ts) :
    Nests before after (peek >>= f) s ts :=
  Nests.look_bind (peek_run s ts) h

theorem nests_advance (h : (front s ts).kind.nest before = some after) :
    Nests before after advance s ts := by
  intro a rest hp
  rw [advance_run] at hp
  cases hp
  cases ts with
  | nil =>
    -- at the end nothing is read, and the end mark changes no stack
    cases h
    exact ⟨[], rfl, rfl⟩
  | cons t ts =>
    refine ⟨[t], rfl, ?_⟩
    rw [front_cons] at h
    simp [stackAfter, h]

theorem nests_expect {kind : TokenKind} {wanted : Wanted} (h : kind.nest before = some after) :
    Nests before after (expect kind wanted) s ts := by
  refine Nests.peek_bind ?_
  split
  · rename_i hk
    exact nests_advance (hk ▸ h)
  · exact nests_fault _ _

/-- Reading the token in front, on which what follows may rely. -/
theorem Nests.advance_bind {f : Token → Parser β} (h : (front s ts).kind.nest before = some mid)
    (hf : Nests mid after (f (front s ts)) s ts.tail) :
    Nests before after (advance >>= f) s ts := by
  refine (nests_advance h).bind_of_ok fun t rest ht => ?_
  rw [advance_run] at ht
  cases ht
  exact hf

theorem keepsNesting_accept {kind : TokenKind} (h : ∀ stack, kind.nest stack = some stack) :
    KeepsNesting (accept kind) := by
  intro stack _ s ts
  refine Nests.peek_bind ?_
  split
  · rename_i hk
    exact (nests_advance (hk ▸ h stack)).bind fun _ _ => .pure _
  · exact .pure _

/-- Reading a token if it is there: what follows starts from one of two stacks. -/
theorem Nests.accept_bind {kind : TokenKind} {f : Bool → Parser β}
    (h : kind.nest before = some mid) (hread : ∀ rest, Nests mid after (f true) s rest)
    (hleft : Nests before after (f false) s ts) :
    Nests before after (accept kind >>= f) s ts := by
  intro b rest hb
  by_cases hk : (front s ts).kind = kind
  · have hadvance : Nests before after (advance >>= fun _ => f true) s ts :=
      (nests_advance (hk ▸ h)).bind fun _ => hread
    simp only [bind_run, accept_run, if_pos hk] at hb
    refine hadvance b rest ?_
    simpa only [bind_run, advance_run] using hb
  · simp only [bind_run, accept_run, if_neg hk, Outcome.after_nil] at hb
    exact hleft b rest hb

theorem nests_resume {used rest : List Token} (h : ts = used ++ rest)
    (hstack : stackAfter before (used.map Token.kind) = some after) :
    Nests before after (resume rest) s ts := by
  intro _ left hr
  cases hr
  exact ⟨used, h, hstack⟩

theorem nests_group (hs : stack ≠ []) {closer : TokenKind}
    (ho : (front s ts).kind.closer? = some closer) : Nests stack stack group s ts := by
  refine Nests.advance_bind (TokenKind.nest_opener ho stack) ?_
  rw [ho]
  refine Nests.look_bind (tokens_run _ _) ?_
  cases hg : matchGroup closer [] ts.tail with
  | closed found rest =>
    obtain ⟨used, hused, hstack⟩ := stackAfter_group hg
    exact (nests_resume hused (hstack stack hs)).bind fun _ _ => .pure _
  | unclosed => exact nests_fault _ _
  | mismatched found => exact nests_fault _ _

/-! ## Lists of types -/

section Items

variable {item : Parser TypeExpr} (hitem : KeepsNesting item)

include hitem

theorem nests_listTail {closer : TokenKind} (hb : before ≠ [])
    (hc : closer.nest before = some after) (n : Nat) (s : Source) (ts : List Token) :
    Nests before after (listTail item closer n) s ts := by
  have hend : ∀ rest, Nests before after
      (do let _ ← expect closer .closingBracket; return ([] : List TypeExpr)) s rest :=
    fun _ => (nests_expect hc).bind fun _ _ => .pure _
  induction n generalizing ts with
  | zero => exact hend ts
  | succ n ih =>
    refine Nests.accept_bind (show TokenKind.comma.nest before = some before from rfl)
      (fun rest => ?_) (hend ts)
    refine Nests.peek_bind ?_
    split
    · exact hend rest
    · exact (hitem before hb s rest).bind fun _ left => (ih left).bind fun _ _ => .pure _

theorem nests_itemList {closer : TokenKind} (hb : before ≠ [])
    (hc : closer.nest before = some after) (n : Nat) (s : Source) (ts : List Token) :
    Nests before after (itemList item closer n) s ts :=
  (hitem before hb s ts).bind fun _ left =>
    (nests_listTail hitem hb hc n s left).bind fun _ _ => .pure _

theorem keepsNesting_argument (word : String) : KeepsNesting (argument item word) := by
  intro stack hs s ts
  refine (nests_expect (TokenKind.nest_opener rfl stack)).bind fun _ rest => ?_
  refine (hitem (.rparen :: stack) (by simp) s rest).bind fun _ left => ?_
  exact (nests_expect (TokenKind.nest_closer rfl hs)).bind fun _ _ => .pure _

end Items

/-! ## Types -/

theorem keepsNesting_verbatim (first : Token) (stop : Nat) :
    KeepsNesting (verbatim first stop) := by
  intro stack _ s ts a rest h
  cases h
  exact ⟨[], rfl, rfl⟩

/-- A call put before tokens that close what they open. -/
theorem stackAfter_link {dot word : Token} (hdot : dot.kind = .dot) (hword : word.kind = .ident)
    {ts more left : List Token} (hts : ts = more ++ left)
    (hmore : ∀ stack ≠ [], stackAfter stack (more.map Token.kind) = some stack) :
    ∃ used, dot :: word :: ts = used ++ left ∧ ∀ stack ≠ [],
      stackAfter stack (used.map Token.kind) = some stack := by
  refine ⟨[dot, word] ++ more, by simp [hts], fun stack hs => ?_⟩
  have hlink : stackAfter stack ([dot, word].map Token.kind) = some stack := by
    rw [List.map_cons, List.map_cons, hdot, hword]
    rfl
  rw [List.map_append]
  exact stackAfter_append hlink (hmore stack hs)

/-- The calls of a procedure type close what they open. -/
theorem callChain_nests {stop n stop' : Nat} {ts rest : List Token}
    (h : callChain stop n ts = .closed stop' rest) :
    ∃ used, ts = used ++ rest ∧ ∀ stack ≠ [],
      stackAfter stack (used.map Token.kind) = some stack := by
  induction n generalizing stop ts with
  | zero =>
    cases h
    exact ⟨[], rfl, fun _ _ => rfl⟩
  | succ n ih =>
    match ts with
    | [] =>
      cases h
      exact ⟨[], rfl, fun _ _ => rfl⟩
    | [t] =>
      cases h
      exact ⟨[], rfl, fun _ _ => rfl⟩
    | dot :: word :: ts =>
      simp only [callChain] at h
      split at h
      · rename_i hcall
        split at h
        · cases h
          exact stackAfter_link hcall.1 hcall.2 (List.append_nil []).symm fun _ _ => rfl
        · rename_i t left
          split at h
          · rename_i hopen
            split at h
            · rename_i closer left' hg
              obtain ⟨inside, rfl, hinside⟩ := stackAfter_group hg
              obtain ⟨more, rfl, hmore⟩ := ih h
              have hts : t :: (inside ++ (more ++ rest)) = t :: inside ++ more ++ rest := by simp
              refine stackAfter_link hcall.1 hcall.2 hts fun stack hs => ?_
              rw [List.cons_append, List.map_cons, hopen, List.map_append]
              exact stackAfter_append (hinside stack hs) (hmore stack hs)
            · cases h
            · cases h
          · obtain ⟨more, hts, hmore⟩ := ih h
            exact stackAfter_link hcall.1 hcall.2 hts hmore
      · cases h
        exact ⟨[], rfl, fun _ _ => rfl⟩

theorem keepsNesting_procType (fromFirst : List Token) (first word : Token) :
    KeepsNesting (procType fromFirst first word) := by
  intro stack hs s ts
  refine Nests.look_bind (tokens_run s ts) ?_
  cases hc : callChain word.stop ts.length ts with
  | closed stop rest =>
    obtain ⟨used, hused, hstack⟩ := callChain_nests hc
    refine (nests_resume hused (hstack stack hs)).bind fun _ left => ?_
    exact (keepsNesting_verbatim first stop stack hs s left).bind fun _ _ => .pure _
  | unclosed => exact .of_fails (recoverProc_ne_ok _ _ _ _)
  | mismatched found => exact nests_fault _ _

theorem keepsNesting_opaqueHelper (first word : Token) :
    KeepsNesting (opaqueHelper first word) := by
  intro stack hs s ts
  refine Nests.peek_bind ?_
  split
  · rename_i hk
    refine (nests_group hs (by rw [hk]; rfl)).bind fun closer rest => ?_
    exact (keepsNesting_verbatim first closer.stop stack hs s rest).bind fun _ _ => .pure _
  · exact (keepsNesting_verbatim first word.stop stack hs s ts).bind fun _ _ => .pure _

theorem pathTail_nests (ts : List Token) :
    ∃ used, ts = used ++ (pathTail ts).2 ∧ ∀ stack,
      stackAfter stack (used.map Token.kind) = some stack := by
  fun_induction pathTail ts with
  | case1 a b ts h segments rest he ih =>
    rw [he] at ih
    obtain ⟨used, rfl, hused⟩ := ih
    refine ⟨a :: b :: used, rfl, fun stack => ?_⟩
    rw [List.map_cons, List.map_cons, h.1, h.2]
    exact hused stack
  | case2 a b ts h => exact ⟨[], rfl, fun _ => rfl⟩
  | case3 ts h => exact ⟨[], rfl, fun _ => rfl⟩

theorem keepsNesting_constantPath : KeepsNesting constantPath := by
  intro stack hs s ts
  refine (keepsNesting_accept (fun _ => rfl) stack hs s ts).bind fun rooted rest => ?_
  refine (nests_expect rfl).bind fun first rest => Nests.look_bind (tokens_run s rest) ?_
  obtain ⟨used, hused, hstack⟩ := pathTail_nests rest
  exact (nests_resume hused (hstack stack)).bind fun _ _ => .pure _

section Types

variable {item : Parser TypeExpr} (hitem : KeepsNesting item)

include hitem

/-- A type that starts with `T` and a dot. -/
theorem nests_helperType (n : Nat) (hs : stack ≠ []) {first dot : Token} {rest : List Token}
    (hfirst : first.kind = .const) (hdot : dot.kind = .dot) :
    Nests stack stack (helperType item n) s (first :: dot :: rest) := by
  have hconst : first.kind.nest stack = some stack := by rw [hfirst]; rfl
  have hlink : dot.kind.nest stack = some stack := by rw [hdot]; rfl
  refine Nests.look_bind (tokens_run s _) (Nests.advance_bind hconst (Nests.advance_bind hlink ?_))
  refine (nests_expect rfl).bind fun word left => ?_
  split
  · exact (keepsNesting_argument hitem _ stack hs s left).bind fun _ _ => .pure _
  split
  · refine (nests_expect (TokenKind.nest_opener rfl stack)).bind fun _ left => ?_
    exact (nests_itemList hitem (by simp) (TokenKind.nest_closer rfl hs) n s left).bind
      fun _ _ => .pure _
  split
  · exact .pure _
  split
  · exact .pure _
  split
  · exact (keepsNesting_argument hitem _ stack hs s left).bind fun _ _ => .pure _
  split
  · exact keepsNesting_procType _ _ _ stack hs s left
  · exact keepsNesting_opaqueHelper _ _ stack hs s left

theorem keepsNesting_payload (n : Nat) (name : String) (offset : Nat) :
    KeepsNesting (payload item n name offset) := by
  intro stack hs s ts
  refine Nests.peek_bind ?_
  -- the list behind an opening token that is in front
  have hlist {closer : TokenKind} (hopen : (front s ts).kind.nest stack = some (closer :: stack))
      (hclose : closer.nest (closer :: stack) = some stack)
      {f : List TypeExpr → Parser TypeExpr} (hf : ∀ args rest, Nests stack stack (f args) s rest) :
      Nests stack stack (do let _ ← advance; f (← itemList item closer n)) s ts :=
    (nests_advance hopen).bind fun _ rest =>
      (nests_itemList hitem (by simp) hclose n s rest).bind hf
  cases hk : (front s ts).kind with
  | lbrack =>
    refine hlist (by rw [hk]; rfl) (TokenKind.nest_closer rfl hs) fun args rest => ?_
    split
    · split
      · exact .pure _
      · exact nests_fault _ _
    · exact .pure _
  | lt =>
    have hlt : (front s ts).kind.nest stack = some stack := by rw [hk]; rfl
    refine (nests_advance hlt).bind fun _ rest => ?_
    exact (nests_itemList hitem hs rfl n s rest).bind fun _ _ => .pure _
  | lbrace =>
    refine (nests_advance (by rw [hk]; exact TokenKind.nest_opener rfl stack)).bind fun _ rest => ?_
    refine (hitem (.rbrace :: stack) (by simp) s rest).bind fun _ rest => ?_
    refine (nests_expect rfl).bind fun _ rest => ?_
    refine (hitem (.rbrace :: stack) (by simp) s rest).bind fun _ rest => ?_
    exact (nests_expect (TokenKind.nest_closer rfl hs)).bind fun _ _ => .pure _
  | lparen =>
    dsimp only
    split
    · exact hlist (by rw [hk]; rfl) (TokenKind.nest_closer rfl hs) fun _ _ => .pure _
    · exact .pure _
  | _ => exact .pure _

theorem keepsNesting_constantType (n : Nat) : KeepsNesting (constantType item n) := by
  intro stack hs s ts
  refine Nests.peek_bind ?_
  refine (keepsNesting_constantPath stack hs s ts).bind fun segments rest => ?_
  split
  · exact .pure _
  split
  · exact .pure _
  · exact keepsNesting_payload hitem n _ _ stack hs s rest

theorem keepsNesting_typeStep (n : Nat) : KeepsNesting (typeStep item n) := by
  intro stack hs s ts
  have hno : Nests stack stack noType s ts := .of_fails fun a rest h => by simp [noType] at h
  refine Nests.peek_bind ?_
  cases hk : (front s ts).kind with
  | lbrack =>
    refine (nests_advance (by rw [hk]; exact TokenKind.nest_opener rfl stack)).bind fun _ rest => ?_
    refine Nests.peek_bind ?_
    split
    · exact nests_fault _ _
    · exact (nests_itemList hitem (by simp) (TokenKind.nest_closer rfl hs) n s rest).bind
        fun _ _ => .pure _
  | lbrace => exact (nests_group hs (by rw [hk]; rfl)).bind fun _ _ => .pure _
  | const =>
    refine Nests.look_bind (peekAt_run s ts 1) ?_
    split
    · rename_i hhelper
      have hdot := hhelper.2
      obtain _ | ⟨first, _ | ⟨dot, rest⟩⟩ := ts
      · cases hk
      · cases hdot
      · exact nests_helperType hitem n hs hk hdot
    · exact keepsNesting_constantType hitem n stack hs s ts
  | scope => exact keepsNesting_constantType hitem n stack hs s ts
  | ident =>
    dsimp only
    split
    · exact (nests_advance (by rw [hk]; rfl)).bind fun _ _ => .pure _
    · exact hno
  | _ => exact hno

end Types

/-- **Types.** A type closes the groups that it opens. -/
theorem keepsNesting_typeAt (n : Nat) : KeepsNesting (typeAt n) := by
  induction n with
  | zero => exact fun _ _ _ _ => .of_fails fun a rest h => by simp [typeAt, noType] at h
  | succ n ih => exact keepsNesting_typeStep ih n

theorem keepsNesting_type : KeepsNesting type :=
  fun stack hs s ts => keepsNesting_typeAt ts.length stack hs s ts

/-! ## Chains -/

theorem nests_paramList (hs : stack ≠ []) (known : List String) (n : Nat) (s : Source)
    (ts : List Token) : Nests (.rparen :: stack) stack (paramList known n) s ts := by
  have hclose : TokenKind.rparen.nest (.rparen :: stack) = some stack :=
    TokenKind.nest_closer rfl hs
  induction n generalizing known ts with
  | zero => exact Nests.peek_bind (nests_fault _ _)
  | succ n ih =>
    refine Nests.accept_bind hclose (fun rest => .pure _) ?_
    refine Nests.peek_bind ?_
    split
    · exact nests_fault _ _
    rename_i hname
    have hplain : (front s ts).kind.nest (.rparen :: stack) = some (.rparen :: stack) := by
      cases hk : (front s ts).kind <;> first | rfl | simp [hk, TokenKind.isName] at hname
    refine (nests_advance hplain).bind fun _ rest => (nests_expect rfl).bind fun _ rest => ?_
    split
    · exact nests_fault _ _
    refine (keepsNesting_type (.rparen :: stack) (by simp) s rest).bind fun declared rest => ?_
    refine Nests.accept_bind (show TokenKind.comma.nest _ = some (.rparen :: stack) from rfl)
      (fun left => ?_) ?_
    · exact (ih _ left).bind fun _ _ => .pure _
    · exact (nests_expect hclose).bind fun _ _ => .pure _

theorem keepsNesting_params (declared : List (String × TypeExpr)) :
    KeepsNesting (params declared) := by
  intro stack hs s ts
  refine (nests_expect (TokenKind.nest_opener rfl stack)).bind fun _ rest => ?_
  exact Nests.look_bind (tokens_run s rest) (nests_paramList hs _ rest.length s rest)

theorem keepsNesting_modifierArguments : KeepsNesting modifierArguments := by
  intro stack hs s ts
  refine Nests.peek_bind ?_
  split
  · rename_i hk
    exact (nests_group hs (by rw [hk]; rfl)).bind fun _ _ => .pure _
  · exact .pure _

theorem keepsNesting_stringArgument : KeepsNesting stringArgument := by
  intro stack _ s ts
  refine Nests.look_bind (peekAt_run s ts 1) (Nests.peek_bind ?_)
  refine Nests.look_bind (peekAt_run s ts 1) (Nests.look_bind (peekAt_run s ts 2) ?_)
  split
  · exact .pure _
  · exact .pure _

theorem keepsNesting_call (sig : Signature) (name : String) : KeepsNesting (call sig name) := by
  unfold call
  split
  · exact (keepsNesting_params _).bind fun _ => .pure _
  split
  · exact (keepsNesting_argument keepsNesting_type _).bind fun _ => .pure _
  split
  · exact .pure _
  split
  · exact keepsNesting_stringArgument.bind fun _ =>
      keepsNesting_modifierArguments.bind fun _ => .pure _
  split
  · exact keepsNesting_modifierArguments.bind fun _ => .pure _
  split
  · exact keepsNesting_modifierArguments.bind fun _ => .pure _
  · exact keepsNesting_modifierArguments.bind fun _ => .pure _

/-- **Chains.** A chain reads all tokens, and they close the groups that they open. -/
theorem chain_nests {sig read : Signature} {n : Nat} {rest : List Token}
    (h : chain sig n s ts = .ok read rest []) :
    rest = [] ∧ ∀ stack ≠ [], stackAfter stack (ts.map Token.kind) = some stack := by
  induction n generalizing sig ts with
  | zero => simp [chain] at h
  | succ n ih =>
    obtain ⟨word, left, hword, h⟩ := bind_eq_ok h
    obtain ⟨sig', left', hcall, h⟩ := bind_eq_ok h
    -- the tokens of one call, put before those of the calls behind it
    have link (hrest : ∀ stack ≠ [], stackAfter stack (left'.map Token.kind) = some stack) :
        ∀ stack ≠ [], stackAfter stack (ts.map Token.kind) = some stack := by
      intro stack hs
      obtain ⟨used, rfl, hused⟩ :=
        nests_expect (show TokenKind.ident.nest stack = some stack from rfl) word left hword
      obtain ⟨more, rfl, hmore⟩ := keepsNesting_call _ _ stack hs s left sig' left' hcall
      rw [List.map_append, List.map_append]
      exact stackAfter_append hused (stackAfter_append hmore (hrest stack hs))
    split at h
    · obtain ⟨done, left, hdone, h⟩ := bind_eq_ok h
      rw [atEnd_run] at hdone
      cases hdone
      cases left' with
      | nil =>
        cases h
        exact ⟨rfl, link fun _ _ => rfl⟩
      | cons t left' => simp at h
    · obtain ⟨done, left, hdone, h⟩ := bind_eq_ok h
      rw [atEnd_run] at hdone
      cases hdone
      cases left' with
      | nil => cases h
      | cons t left' =>
        obtain ⟨dot, behind, hdot, h⟩ := bind_eq_ok h
        obtain ⟨hrest, hnest⟩ := ih h
        refine ⟨hrest, link fun stack hs => ?_⟩
        obtain ⟨used, hused, hstack⟩ :=
          nests_expect (show TokenKind.dot.nest stack = some stack from rfl) dot behind hdot
        rw [hused, List.map_append]
        exact stackAfter_append hstack (hnest stack hs)

end Parser

/-- The tokens of a bare text that is read as a signature without notes nest in any group. -/
theorem Signature.nesting_of_parse {cs : List Char} {line : Int} {sig : Signature} (hb : IsBare cs)
    (h : parse (String.ofList cs) line = ⟨.ok sig, []⟩) {stack : List TokenKind}
    (hs : stack ≠ []) : stackAfter stack ((tokensOf cs).map Token.kind) = some stack := by
  obtain ⟨-, -, read, rest, hchain, -⟩ := parse_bare hb h
  exact (Parser.chain_nests hchain).2 stack hs

end TypeTags
