import TypeTags.Proofs.Segment.Brackets
import TypeTags.Proofs.Segment.Reach
import TypeTags.Proofs.Token.Lossless

/-!
# Where a bracketed group ends

Two readers look for the end of a group: one goes through raw text, character by character, the other
through tokens. They stop at the same offset, or neither finds an end. Both keep a stack of the
brackets that are awaited, and the piece in front of a text changes the two stacks alike, whatever
the stacks are. Where the text cannot be cut, a string literal is open, and the reader of characters
is in it up to the end.

Results:
* `matchGroup_stop`: the offset where the two readers stop, in front of any text.
* `brackets_agree`: the group at the start of a text has tokens of its own, and ends where they do.
-/

namespace TypeTags

/-- The offset where a group that is closed ends. -/
def Group.stop? : Group → Option Nat
  | .closed closer _ => some closer.stop
  | _ => none

theorem Group.stop?_eq_some {g : Group} {stop : Nat} :
    g.stop? = some stop ↔ ∃ closer rest, g = .closed closer rest ∧ closer.stop = stop := by
  cases g <;> simp [stop?]

namespace Segment

/-- The offset behind the group that opens at the start of the text. -/
def bracketEnd (text : List Char) : Option Nat :=
  (afterBrackets .code [] text).map (text.length - ·.length)

/-! ## Open literals -/

theorem afterBrackets_open {q : Char} {cs : List Char} (h : Piece.stringTail q cs = none)
    (stack : List Char) : afterBrackets (.string q) stack cs = none := by
  fun_induction Piece.stringTail q cs with
  | case1 => rfl
  | case2 => cases h
  | case3 => simp [afterBrackets]
  | case4 d cs hne ih =>
    simpa [afterBrackets_inert, BracketMode.next, hne] using ih (Option.map_eq_none_iff.1 h)
  | case5 c cs hne hb ih =>
    simpa [afterBrackets_inert, BracketMode.next, hne, hb] using ih (Option.map_eq_none_iff.1 h)

theorem afterBrackets_stuck {glued : Bool} {c : Char} {cs : List Char}
    (h : Piece.firstPiece glued c cs = none) (stack : List Char) :
    afterBrackets .code stack (c :: cs) = none := by
  obtain ⟨hq, hnone⟩ := firstPiece_eq_none h
  rw [afterBrackets_quote (by simpa [isQuote] using hq)]
  exact afterBrackets_open hnone stack

/-! ## Brackets that close a group -/

/-- Different closing kinds have different characters. -/
theorem ofChar_eq_iff {c : Char} (h : (TokenKind.ofChar c).isCloser = true) (awaited : TokenKind) :
    TokenKind.ofChar c = awaited ↔ c = closingChar awaited := by
  constructor
  · rintro rfl
    exact (closingChar_ofChar h).symm
  · rintro rfl
    cases awaited <;> first | rfl | cases h

/-- A bracket that closes a group is a lexeme by itself. -/
theorem firstPiece_closer {glued : Bool} {c : Char} {cs ds rest : List Char} {kind : TokenKind}
    (h : Piece.firstPiece glued c cs = some (.lexeme kind ds, rest)) (hc : kind.isCloser = true) :
    ds = [c] ∧ kind = .ofChar c ∧ IsPlain c := by
  have hfirst := Piece.first_of_firstPiece h
  generalize hp : Piece.lexeme kind ds = p at hfirst
  -- a piece without brackets is none
  have bland (hb : IsBlandPiece p) : False := by
    subst hp
    rw [(hb.kind kind rfl).2] at hc
    cases hc
  cases hfirst with
  | blank hb => cases hp
  | comment hc => cases hp
  | name hb hc hname => exact (bland (isBlandPiece_name hname cs)).elim
  | number hname hdig => exact (bland (isBlandPiece_number hdig cs)).elim
  | string hq hs =>
    cases hp
    cases hc
  | colon hk => exact (bland (isBlandPiece_colon glued cs)).elim
  | punctuation hb hhash hname hdig hq hk =>
    rcases punctuation_cases c cs with he | he
    · rw [he] at hp
      cases hp
      cases hc
    · rw [he] at hp
      cases hp
      exact ⟨rfl, rfl, by simpa [isQuote] using hq, hhash⟩

/-- A kind that leads to no stack closes a group, the outermost one or one that awaits another
kind. -/
theorem nest_eq_none {kind awaited : TokenKind} {outer : List TokenKind}
    (h : kind.nest (awaited :: outer) = none) :
    kind.closer? = none ∧ kind.isCloser = true ∧ (kind = awaited → outer = []) := by
  unfold TokenKind.nest at h
  split at h
  · cases h
  · rename_i hopen
    split at h
    · rename_i hclose
      refine ⟨hopen, hclose, fun he => ?_⟩
      cases outer with
      | nil => rfl
      | cons next outer => simp [he] at h
    · cases h

/-- Such a bracket ends the reading of tokens, with the group or for want of another bracket. -/
theorem matchGroup_last {t : Token} {awaited : TokenKind} {outer : List TokenKind}
    (h : t.kind.nest (awaited :: outer) = none) (ts : List Token) :
    matchGroup awaited outer (t :: ts) =
      if t.kind = awaited then .closed t ts else .mismatched t := by
  obtain ⟨hopen, hclose, houter⟩ := nest_eq_none h
  simp only [matchGroup, hopen, hclose, if_true]
  split
  · rw [houter ‹_›]
  · rfl

/-- So it does the reading of characters. -/
theorem afterBrackets_last {c : Char} (hp : IsPlain c) {awaited : TokenKind}
    {outer : List TokenKind} (h : (TokenKind.ofChar c).nest (awaited :: outer) = none)
    (rest : List Char) :
    afterBrackets .code ((awaited :: outer).map closingChar) (c :: rest) =
      if TokenKind.ofChar c = awaited then some rest else none := by
  obtain ⟨hopen, hclose, houter⟩ := nest_eq_none h
  simp only [afterBrackets, hp.1, hp.2, closing?_eq, isClosing_eq, hopen, hclose]
  by_cases he : TokenKind.ofChar c = awaited
  · have hchar := (ofChar_eq_iff hclose awaited).1 he
    simp [he, houter he, ← hchar]
  · have hchar : c ≠ closingChar awaited := fun hc => he ((ofChar_eq_iff hclose awaited).2 hc)
    cases outer <;> simp [he, hchar]

/-! ## Both readers -/

/-- **Both readers.** In front of any text, and with any stack, the reader of tokens stops where the
reader of characters does. -/
theorem matchGroup_stop (glued : Bool) (cs : List Char) (offset line : Nat) (awaited : TokenKind)
    (outer : List TokenKind) :
    (matchGroup awaited outer (Token.locate offset line (cut glued cs).pieces).dropLast).stop? =
      (afterBrackets .code ((awaited :: outer).map closingChar) cs).map
        (offset + cs.length - ·.length) := by
  -- the end of the text stays where it is while pieces are taken off, and so does the offset that is
  -- told from there
  fun_induction cut glued cs generalizing offset line awaited outer with
  | case1 glued => rfl
  | case2 glued c cs h =>
    rw [afterBrackets_stuck h]
    rfl
  | case3 glued c cs p rest hf after ih =>
    have hfirst := Piece.first_of_firstPiece hf
    have hchars := Piece.firstPiece_append hf
    have hlen := congrArg List.length hchars
    rw [List.length_append] at hlen
    -- a piece that leads to another stack does so for both readers
    have hstep {awaited' : TokenKind} {outer' : List TokenKind}
        (hn : nestPiece (awaited :: outer) p = some (awaited' :: outer')) :
        (matchGroup awaited' outer' (Token.locate (offset + p.chars.length) (line + p.lineFeeds)
          after.pieces).dropLast).stop? =
        (afterBrackets .code ((awaited :: outer).map closingChar) (c :: cs)).map
          (offset + (c :: cs).length - ·.length) := by
      have hend : ∀ d ∈ ([] : List Char).head?, d = '\n' := by simp
      have hread := afterBrackets_piece hfirst hn hend
      rw [List.append_nil, hchars] at hread
      rw [hread, ih, ← hlen, Nat.add_assoc]
    cases p with
    | gap ds => exact hstep rfl
    | lexeme kind ds =>
      rw [Token.locate, List.dropLast_cons_of_ne_nil (locate_ne_nil _ _ _)]
      cases hnest : kind.nest (awaited :: outer) with
      | some stack =>
        obtain ⟨awaited', outer', rfl⟩ :=
          List.exists_cons_of_ne_nil (TokenKind.nest_ne_nil (by simp) hnest)
        rw [matchGroup_nest hnest]
        refine hstep ?_
        simp [nestPiece, Piece.kind?, Piece.word?, stackAfter, hnest]
      | none =>
        obtain ⟨rfl, rfl, hplain⟩ := firstPiece_closer hf (nest_eq_none hnest).2.1
        obtain rfl : rest = cs := (List.cons.inj hchars).2
        rw [afterBrackets_last hplain hnest, matchGroup_last hnest]
        by_cases he : TokenKind.ofChar c = awaited
        · have hend : offset + [c].length = offset + (c :: rest).length - rest.length := by
            simp only [List.length_cons, List.length_nil]
            omega
          simp only [if_pos he, Group.stop?, Option.map_some, hend]
        · simp only [if_neg he, Group.stop?, Option.map_none]

/-! ## Groups at the start of a text -/

/-- The bracket that opens a group is a token of its own, and both readers await the same. -/
theorem exists_opener {c : Char} (hc : c = '(' ∨ c = '[' ∨ c = '\x7b') (cs : List Char) :
    ∃ awaited opening, opening.kind.closer? = some awaited ∧
      (Token.locate 0 1 (cut false (c :: cs)).pieces).dropLast =
        opening :: (Token.locate 1 1 (cut false cs).pieces).dropLast ∧
      afterBrackets .code [] (c :: cs) = afterBrackets .code ([awaited].map closingChar) cs := by
  have hpiece : Piece.firstPiece false c cs = some (.lexeme (.ofChar c) [c], cs) := by
    have hlone : Piece.punctuation c cs = (.lexeme (.ofChar c) [c], cs) :=
      punctuation_lone.2 ⟨rfl, by rcases hc with rfl | rfl | rfl <;> nofun⟩
    rw [← hlone]
    rcases hc with rfl | rfl | rfl <;> rfl
  have hname : (TokenKind.ofChar c).isName = false := by rcases hc with rfl | rfl | rfl <;> rfl
  have hcut : cut false (c :: cs) = (cut false cs).after [.lexeme (.ofChar c) [c]] := by
    rw [cut_cons hpiece, Piece.isName, hname]
    rfl
  obtain ⟨awaited, hopen, hread⟩ : ∃ awaited, (TokenKind.ofChar c).closer? = some awaited ∧
      afterBrackets .code [] (c :: cs) = afterBrackets .code ([awaited].map closingChar) cs := by
    rcases hc with rfl | rfl | rfl <;> exact ⟨_, rfl, rfl⟩
  have hfeeds : (Piece.lexeme (TokenKind.ofChar c) [c]).lineFeeds = 0 := by
    rcases hc with rfl | rfl | rfl <;> rfl
  refine ⟨awaited, ⟨.ofChar c, String.ofList [c], 0, 1, 1⟩, hopen, ?_, hread⟩
  rw [hcut]
  simp [Cutting.after, Token.locate, hfeeds, List.dropLast_cons_of_ne_nil (locate_ne_nil _ _ _)]

theorem group_eq_ok {s : Source} {opening closer : Token} {awaited : TokenKind}
    {ts rest : List Token} {notes : List UnclosedProc}
    (ho : opening.kind.closer? = some awaited) :
    Parser.group s (opening :: ts) = .ok closer rest notes ↔
      matchGroup awaited [] ts = .closed closer rest ∧ notes = [] := by
  cases hg : matchGroup awaited [] ts <;> simp [Parser.group, ho, hg, and_assoc, eq_comm]

/-- If a token ends with the text, there is no other behind it and nothing that cannot be cut. -/
theorem rest_eq_nil {text : List Char} {used rest : List Token} {t : Token}
    (h : (Token.locate 0 1 (cut false text).pieces).dropLast = used ++ t :: rest)
    (ht : t.stop = text.length) : rest = [] ∧ (cut false text).stuck = [] := by
  have hchars := congrArg List.length (cut_chars false text)
  rw [List.length_append] at hchars
  have hstop (u : Token) (hu : u ∈ used ++ t :: rest) :
      u.stop ≤ 0 + ((cut false text).pieces.flatMap Piece.chars).length :=
    locate_stop_le (List.dropLast_subset _ (h ▸ hu))
  constructor
  · cases rest with
    | nil => rfl
    | cons u rest =>
      have hlaid := locate_laid false [] text 1
      have hapart := (locate_apart 0 1 (cut false text).pieces).sublist (List.dropLast_sublist _)
      rw [List.length_nil, h] at hlaid
      rw [h, List.pairwise_append, List.pairwise_cons] at hapart
      have hmem : u ∈ used ++ t :: u :: rest := by simp
      have hbehind := hapart.2.1.1 u List.mem_cons_self
      have hsolid := (hlaid.stands u hmem).start_lt_stop
      have hinside := hstop u hmem
      omega
  · have hinside := hstop t (by simp)
    exact List.length_eq_zero_iff.1 (by omega)

/-- A text that is one group for the reader of characters is one for the reader of tokens. -/
theorem group_whole {c : Char} (hc : c = '(' ∨ c = '[' ∨ c = '\x7b') {cs : List Char}
    (h : afterBrackets .code [] (c :: cs) = some []) :
    ∃ ts closer, tokenize (c :: cs) = .ok ts ∧
      Parser.group ⟨c :: cs, (c :: cs).length⟩ ts.dropLast = .ok closer [] [] ∧
      closer.stop = (c :: cs).length := by
  obtain ⟨awaited, opening, hopen, htokens, hread⟩ := exists_opener hc cs
  have hboth := matchGroup_stop false cs 1 1 awaited []
  rw [← hread, h] at hboth
  obtain ⟨closer, left, hmatch, hstop⟩ := Group.stop?_eq_some.1 hboth
  have hend : closer.stop = (c :: cs).length := hstop.trans (Nat.add_comm _ _)
  obtain ⟨used, hused, -, -⟩ := matchGroup_closed hmatch
  have hall : (Token.locate 0 1 (cut false (c :: cs)).pieces).dropLast =
      (opening :: used) ++ closer :: left := by
    rw [htokens, hused]
    rfl
  obtain ⟨rfl, hstuck⟩ := rest_eq_nil hall hend
  refine ⟨_, closer, tokenize_of_cut (by rw [← hstuck]), ?_, hend⟩
  rw [htokens]
  exact (group_eq_ok hopen).2 ⟨hmatch, rfl⟩

/-- The group at the start of a text is found again when nothing stands behind it. -/
theorem bracketEnd_block {text : List Char} {stop : Nat} (h : bracketEnd text = some stop) :
    ∃ block rest, text = block ++ rest ∧ stop = block.length ∧
      afterBrackets .code [] block = some [] := by
  obtain ⟨rest, hrest, rfl⟩ := Option.map_eq_some_iff.1 h
  obtain ⟨block, rfl, hagain, -⟩ := afterBrackets_block hrest
  refine ⟨block, rest, rfl, by simp, ?_⟩
  have hgroup := hagain []
  rwa [List.append_nil] at hgroup

/-- **Groups.** If a reader of characters finds the end of the group that a text starts with, then
the group has tokens of its own and a reader of tokens takes all of them. If a reader of tokens finds
the end of the group, a reader of characters finds the same end. -/
theorem brackets_agree {c : Char} (hc : c = '(' ∨ c = '[' ∨ c = '\x7b') (cs : List Char) :
    (∀ stop, bracketEnd (c :: cs) = some stop → ∃ ts closer,
      tokenize ((c :: cs).take stop) = .ok ts ∧
        Parser.group ⟨(c :: cs).take stop, stop⟩ ts.dropLast = .ok closer [] [] ∧
        closer.stop = stop) ∧
    ∀ ts closer rest notes, tokenize (c :: cs) = .ok ts →
      Parser.group ⟨c :: cs, (c :: cs).length⟩ ts.dropLast = .ok closer rest notes →
      bracketEnd (c :: cs) = some closer.stop := by
  constructor
  · intro stop hstop
    obtain ⟨block, rest, hcs, rfl, hgroup⟩ := bracketEnd_block hstop
    rw [hcs, List.take_left]
    cases block with
    | nil => cases hgroup
    | cons d block =>
      obtain ⟨rfl, -⟩ := List.cons.inj hcs
      exact group_whole hc hgroup
  · intro ts closer rest notes hts hgroup
    obtain ⟨-, rfl⟩ := cut_of_tokenize hts
    obtain ⟨awaited, opening, hopen, htokens, hread⟩ := exists_opener hc cs
    rw [htokens, group_eq_ok hopen] at hgroup
    have hboth := matchGroup_stop false cs 1 1 awaited []
    rw [hgroup.1, ← hread] at hboth
    rw [bracketEnd, List.length_cons, Nat.add_comm, ← hboth]
    rfl

/-- A literal behind a mark that holds an escaped quote and a bracket, and a comment with both. -/
def quotedGroup : List Char := "(a?'\\')', [1, # ) \"\n\x7b:b\x7d])".toList

/-- Behind the group a literal may be open, or there may be other tokens. -/
theorem brackets_agree_quotedGroup :
    (bracketEnd (quotedGroup ++ " b\"".toList) = some 26 ∧ ∃ ts closer,
      tokenize quotedGroup = .ok ts ∧
        Parser.group ⟨quotedGroup, 26⟩ ts.dropLast = .ok closer [] [] ∧ closer.stop = 26) ∧
    ∃ ts closer rest, tokenize (quotedGroup ++ " b]".toList) = .ok ts ∧
      Parser.group ⟨quotedGroup ++ " b]".toList, 29⟩ ts.dropLast = .ok closer rest [] ∧
      bracketEnd (quotedGroup ++ " b]".toList) = some closer.stop := by
  constructor
  · have hend : bracketEnd (quotedGroup ++ " b\"".toList) = some 26 := by decide +kernel
    exact ⟨hend, (brackets_agree (.inl rfl) (quotedGroup ++ " b\"".toList).tail).1 26 hend⟩
  · let text := quotedGroup ++ " b]".toList
    let tokens := Token.locate 0 1 (cut false text).pieces
    have htokens : tokenize text = .ok tokens := tokenize_of_cut (by decide +kernel)
    have hinside : tokens.dropLast = ⟨.lparen, "(", 0, 1, 1⟩ :: tokens.dropLast.tail := by
      decide +kernel
    have hmatch : matchGroup .rparen [] tokens.dropLast.tail = .closed ⟨.rparen, ")", 25, 26, 2⟩
        [⟨.ident, "b", 27, 28, 2⟩, ⟨.rbrack, "]", 28, 29, 2⟩] := by decide +kernel
    have hgroup : Parser.group ⟨text, 29⟩ tokens.dropLast = .ok ⟨.rparen, ")", 25, 26, 2⟩
        [⟨.ident, "b", 27, 28, 2⟩, ⟨.rbrack, "]", 28, 29, 2⟩] [] := by
      rw [hinside]
      exact (group_eq_ok rfl).2 ⟨hmatch, rfl⟩
    exact ⟨tokens, _, _, htokens, hgroup,
      (brackets_agree (.inl rfl) text.tail).2 tokens _ _ _ htokens hgroup⟩

end Segment

end TypeTags
