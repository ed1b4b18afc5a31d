import TypeTags.Segment.Extent

/-!
# The text of a signature block

The readers that look for the end of a block never look further than one character behind it. So the
block has a text of its own: put in front of any other text that starts with the same character, it
is found again. It does not end in a line feed, and so its last line is the line of its last
character.

* `Takes`: a reader takes a block off the front of a text.

Results:
* `afterBrackets_step`, `afterEnd_step`: what reading one character does.
* `afterBrackets_block`: the text of a group, whatever stands behind it.
* `afterBrackets_takes`, `afterEnd_takes`: the text of a group, and of a block up to its `end`.
* `afterSig_takes`: the text of a signature block.
-/

namespace TypeTags.Segment

/-- The reader takes the block off the front of every text that goes on with the same character as
`rest` does. The block is not empty and does not end in a line feed. -/
structure Takes (read : List Char → Option (List Char)) (block rest : List Char) : Prop where
  again : ∀ more, more.head? = rest.head? → read (block ++ more) = some more
  last : ∃ c ∈ block.getLast?, c ≠ '\n'

theorem head?_append_congr {cs ds : List Char} (h : cs.head? = ds.head?) (block : List Char) :
    (block ++ cs).head? = (block ++ ds).head? := by
  cases block with
  | nil => exact h
  | cons c block => rfl

theorem last_cons (c : Char) {block : List Char} (h : ∃ d ∈ block.getLast?, d ≠ '\n') :
    ∃ d ∈ (c :: block).getLast?, d ≠ '\n' := by
  obtain ⟨d, hd, hne⟩ := h
  refine ⟨d, ?_, hne⟩
  rw [List.getLast?_cons, Option.mem_def.1 hd]
  rfl

theorem last_append (cs : List Char) {block : List Char} (h : ∃ d ∈ block.getLast?, d ≠ '\n') :
    ∃ d ∈ (cs ++ block).getLast?, d ≠ '\n' := by
  induction cs with
  | nil => exact h
  | cons c cs ih => exact last_cons c ih

/-! ## Groups -/

/-- A character is read, or it closes the outermost group, or it is out of place. -/
theorem afterBrackets_step (mode : BracketMode) (stack : List Char) (c : Char) :
    (∃ mode' stack', ∀ cs,
        afterBrackets mode stack (c :: cs) = afterBrackets mode' stack' cs) ∨
      (isClosing c = true ∧ ∀ cs, afterBrackets mode stack (c :: cs) = some cs) ∨
      ∀ cs, afterBrackets mode stack (c :: cs) = none := by
  by_cases hmode : mode = .code
  · subst hmode
    by_cases hquote : isQuote c = true
    · exact .inl ⟨.string c, stack, fun cs => by simp [afterBrackets, hquote]⟩
    by_cases hhash : c = '#'
    · exact .inl ⟨.comment, stack, fun cs => by simp [afterBrackets, hhash, isQuote]⟩
    cases hopen : closing? c with
    | some closer =>
      exact .inl ⟨.code, closer :: stack, fun cs => by simp [afterBrackets, hquote, hhash, hopen]⟩
    | none =>
      by_cases hclose : isClosing c = true
      · match stack with
        | [] => exact .inr (.inr fun cs => by simp [afterBrackets, hquote, hhash, hopen, hclose])
        | closer :: outer =>
          by_cases hc : c = closer
          · subst hc
            cases outer with
            | nil =>
              exact .inr (.inl ⟨hclose, fun cs => by
                simp [afterBrackets, hquote, hhash, hopen, hclose]⟩)
            | cons next outer =>
              exact .inl ⟨.code, next :: outer, fun cs => by
                simp [afterBrackets, hquote, hhash, hopen, hclose]⟩
          · refine .inr (.inr fun cs => ?_)
            cases outer <;> simp [afterBrackets, hquote, hhash, hopen, hclose, hc]
      · exact .inl ⟨.code, stack, fun cs => by simp [afterBrackets, hquote, hhash, hopen, hclose]⟩
  · exact .inl ⟨mode.next c, stack, fun cs => by simp [afterBrackets, hmode]⟩

/-- A group is found again in front of every text. -/
theorem afterBrackets_block {mode : BracketMode} {stack cs rest : List Char}
    (h : afterBrackets mode stack cs = some rest) :
    ∃ block, cs = block ++ rest ∧ (∀ more, afterBrackets mode stack (block ++ more) = some more) ∧
      ∃ c ∈ block.getLast?, c ≠ '\n' := by
  induction cs generalizing mode stack with
  | nil => cases h
  | cons c cs ih =>
    rcases afterBrackets_step mode stack c with ⟨mode', stack', hstep⟩ | ⟨hclose, hstep⟩ | hstep
    · obtain ⟨block, rfl, hagain, hlast⟩ := ih ((hstep cs).symm.trans h)
      refine ⟨c :: block, rfl, fun more => ?_, last_cons c hlast⟩
      rw [List.cons_append, hstep, hagain]
    · obtain rfl : cs = rest := Option.some.inj ((hstep cs).symm.trans h)
      refine ⟨[c], rfl, hstep, c, rfl, ?_⟩
      rintro rfl
      cases hclose
    · cases (hstep cs).symm.trans h

theorem afterBrackets_takes {mode : BracketMode} {stack cs rest : List Char}
    (h : afterBrackets mode stack cs = some rest) :
    ∃ block, cs = block ++ rest ∧ Takes (afterBrackets mode stack) block rest := by
  obtain ⟨block, hcs, hagain, hlast⟩ := afterBrackets_block h
  exact ⟨block, hcs, fun more _ => hagain more, hlast⟩

/-! ## Words -/

/-- A character is read, or it stands behind the word that ends the block. Only characters of a word
lead into a word. -/
theorem afterEnd_step (depth : Int) (mode : WordMode) (c : Char) :
    (∃ depth' mode', (∀ word, mode' = .word word → c ≠ '\n') ∧
        ∀ cs, afterEnd depth mode (c :: cs) = afterEnd depth' mode' cs) ∨
      ((∃ word, mode = .word word) ∧ ∀ cs, afterEnd depth mode (c :: cs) = some (c :: cs)) := by
  have hbetween : ∀ word, WordMode.between c = .word word → c ≠ '\n' := by
    intro word hw
    unfold WordMode.between at hw
    split at hw
    · cases hw
    · split at hw <;> cases hw
  cases mode with
  | code glued =>
    by_cases hstart : isWordStart c = true ∧ !glued
    · refine .inl ⟨depth, .word [c], ?_, fun cs => by simp only [afterEnd, if_pos hstart]⟩
      rintro word - rfl
      exact absurd hstart.1 (by decide)
    · exact .inl ⟨depth, .between c, hbetween, fun cs => by simp only [afterEnd, if_neg hstart]⟩
  | comment =>
    refine .inl ⟨depth, if c = '\n' then .code false else .comment, ?_, fun cs => by
      simp only [afterEnd]⟩
    intro word hw
    split at hw <;> cases hw
  | string quote =>
    refine .inl ⟨depth, if c = quote then .code false else if c = '\\' then .escape quote
      else .string quote, ?_, fun cs => by simp only [afterEnd]⟩
    intro word hw
    split at hw
    · cases hw
    · split at hw <;> cases hw
  | escape quote => exact .inl ⟨depth, .string quote, nofun, fun cs => by simp only [afterEnd]⟩
  | word word =>
    by_cases hchar : Text.isWordChar c = true
    · refine .inl ⟨depth, .word (word ++ [c]), ?_, fun cs => by simp only [afterEnd, if_pos hchar]⟩
      rintro word - rfl
      exact absurd hchar (by decide)
    by_cases hmark : c = '?' ∨ c = '!'
    · exact .inl ⟨depth, .code false, nofun, fun cs => by
        simp only [afterEnd, if_neg hchar, if_pos hmark]⟩
    by_cases hclose : closesBlock depth word = true
    · exact .inr ⟨⟨word, rfl⟩, fun cs => by
        simp only [afterEnd, if_neg hchar, if_neg hmark, if_pos hclose]⟩
    · exact .inl ⟨depth + nesting word, .between c, hbetween, fun cs => by
        simp only [afterEnd, if_neg hchar, if_neg hmark, if_neg hclose]⟩

/-- The text up to the end of a block is empty only if the word that ends it is already read. -/
theorem afterEnd_takes {depth : Int} {mode : WordMode} {cs rest : List Char}
    (h : afterEnd depth mode cs = some rest) :
    ∃ block, cs = block ++ rest ∧
      (∀ more, more.head? = rest.head? → afterEnd depth mode (block ++ more) = some more) ∧
      (∀ c ∈ block.getLast?, c ≠ '\n') ∧ (block = [] → ∃ word, mode = .word word) := by
  induction cs generalizing depth mode with
  | nil =>
    cases mode with
    | word word =>
      obtain rfl : rest = [] := by
        simp only [afterEnd] at h
        split at h
        · exact (Option.some.inj h).symm
        · cases h
      refine ⟨[], rfl, fun more hm => ?_, by simp, fun _ => ⟨word, rfl⟩⟩
      obtain rfl : more = [] := List.head?_eq_none_iff.1 hm
      exact h
    | _ => cases h
  | cons c cs ih =>
    rcases afterEnd_step depth mode c with ⟨depth', mode', hword, hstep⟩ | ⟨hmode, hstep⟩
    · obtain ⟨block, rfl, hagain, hlast, hempty⟩ := ih ((hstep cs).symm.trans h)
      refine ⟨c :: block, rfl, fun more hm => ?_, ?_, by simp⟩
      · rw [List.cons_append, hstep, hagain more hm]
      · cases block with
        | nil =>
          obtain ⟨word, hw⟩ := hempty rfl
          simpa using hword word hw
        | cons d block => simpa [List.getLast?_cons_cons] using hlast
    · obtain rfl : c :: cs = rest := Option.some.inj ((hstep cs).symm.trans h)
      refine ⟨[], rfl, fun more hm => ?_, by simp, fun _ => hmode⟩
      cases more with
      | nil => cases hm
      | cons d more =>
        obtain rfl : d = c := by simpa using hm
        exact hstep more

/-! ## Blocks -/

/-- Whether a text goes on as behind the word `sig`: with arguments or with a block. -/
def goesOn (cs : List Char) : Bool :=
  cs.head? == some '(' || cs.head? == some '\x7b' || startsWithDo cs

theorem startsInWord_congr {cs ds : List Char} (h : cs.head? = ds.head?) :
    startsInWord cs = startsInWord ds := by
  cases cs <;> cases ds <;> simp_all [startsInWord]

theorem goesOn_solid {cs : List Char} (h : goesOn cs = true) : cs.dropWhile Text.isBlank = cs := by
  have hsolid : ∀ c ∈ cs.head?, Text.isBlank c = false := by
    intro c hc
    obtain ⟨rest, rfl⟩ := List.head?_eq_some_iff.1 (Option.mem_def.1 hc)
    unfold goesOn startsWithDo at h
    simp only [List.head?_cons, Bool.or_eq_true, beq_iff_eq, Option.some.injEq] at h
    rcases h with (rfl | rfl) | h
    · decide
    · decide
    · split at h
      · rename_i he
        obtain ⟨rfl, -⟩ := List.cons.inj he
        decide
      · cases h
  cases cs with
  | nil => rfl
  | cons c cs => exact List.dropWhile_cons_of_neg (by simp [hsolid c rfl])

theorem afterSigWord?_eq_some_iff {cs rest : List Char} :
    afterSigWord? cs = some rest ↔ ∃ blanks, cs = 's' :: 'i' :: 'g' :: (blanks ++ rest) ∧
      (∀ c ∈ blanks, Text.isBlank c = true) ∧ startsInWord (blanks ++ rest) = false ∧
      goesOn rest = true := by
  have hgoes : ∀ cs, afterSigWord? ('s' :: 'i' :: 'g' :: cs) =
      if startsInWord cs = false ∧ goesOn (cs.dropWhile Text.isBlank) = true
      then some (cs.dropWhile Text.isBlank) else none := by
    intro cs
    simp only [afterSigWord?, goesOn]
    generalize cs.dropWhile Text.isBlank = rest
    cases startsInWord cs with
    | true => simp
    | false =>
      obtain _ | ⟨c, rest⟩ := rest
      · simp [startsWithDo]
      by_cases hparen : c = '('
      · simp [hparen]
      by_cases hbrace : c = '\x7b'
      · simp [hbrace]
      · simp [hparen, hbrace]
  constructor
  · intro h
    have hsig : ∃ ds, cs = 's' :: 'i' :: 'g' :: ds := by
      unfold afterSigWord? at h
      split at h
      · exact ⟨_, rfl⟩
      · cases h
    obtain ⟨ds, rfl⟩ := hsig
    rw [hgoes] at h
    split at h
    · rename_i hc
      obtain rfl := Option.some.inj h
      refine ⟨ds.takeWhile Text.isBlank, by simp, 
        List.all_eq_true.1 List.all_takeWhile, ?_, hc.2⟩
      simpa using hc.1
    · cases h
  · rintro ⟨blanks, rfl, hblanks, hword, hrest⟩
    have hdrop : (blanks ++ rest).dropWhile Text.isBlank = rest := by
      rw [List.dropWhile_append_of_pos hblanks, goesOn_solid hrest]
    rw [hgoes, hdrop, if_pos ⟨hword, hrest⟩]

/-- The text of a block in braces, or from `do` to `end`. -/
theorem afterBlock_takes {cs rest : List Char} (h : afterBlock cs = some rest) :
    ∃ block, cs = block ++ rest ∧ Takes afterBlock block rest ∧
      ∀ more, more.head? = rest.head? → goesOn (block ++ more) = goesOn cs := by
  unfold afterBlock at h
  split at h
  · rename_i cs
    obtain ⟨block, hcs, htakes⟩ := afterBrackets_takes h
    cases block with
    | nil => exact absurd htakes.last (by simp)
    | cons c block =>
      obtain ⟨rfl, rfl⟩ := List.cons.inj hcs
      refine ⟨'\x7b' :: block, rfl, ⟨fun more hm => ?_, htakes.last⟩, fun _ _ => rfl⟩
      exact htakes.again more hm
  · rename_i cs
    have hword : ∀ ds, afterEnd 0 (.code false) ('d' :: 'o' :: ds) =
        afterEnd 0 (.word ['d', 'o']) ds := fun ds => rfl
    obtain ⟨block, rfl, hagain, hlast, -⟩ := afterEnd_takes ((hword cs).symm.trans h)
    refine ⟨'d' :: 'o' :: block, rfl, ⟨fun more hm => ?_, ?_⟩, fun more hm => ?_⟩
    · exact (hword _).trans (hagain more hm)
    · cases hb : block.getLast? with
      | none => simp [List.getLast?_cons, hb]
      | some last => simpa [List.getLast?_cons, hb] using hlast last hb
    · simp [goesOn, startsWithDo, startsInWord_congr (head?_append_congr hm block)]
  · cases h

/-- The text behind the word `sig` up to the end of the block: arguments, if there are any, and the
block. -/
def afterArguments : List Char → Option (List Char)
  | '(' :: cs =>
    (afterBrackets .code [] ('(' :: cs)).bind fun rest => afterBlock (rest.dropWhile Text.isBlank)
  | cs => afterBlock cs

theorem afterSig_eq (cs : List Char) : afterSig cs = (afterSigWord? cs).bind afterArguments := by
  unfold afterSig afterArguments
  cases afterSigWord? cs with
  | none => rfl
  | some rest =>
    rw [Option.bind_some]
    split <;> simp_all

/-- A block is no list of arguments and has no white space in front. -/
theorem afterBlock_eq_some {cs rest : List Char} (h : afterBlock cs = some rest) :
    afterArguments cs = some rest ∧ cs.dropWhile Text.isBlank = cs := by
  unfold afterBlock at h
  split at h
  · exact ⟨h, List.dropWhile_cons_of_neg (by decide)⟩
  · exact ⟨h, List.dropWhile_cons_of_neg (by decide)⟩
  · cases h

theorem afterArguments_takes {cs rest : List Char} (h : afterArguments cs = some rest) :
    ∃ block, cs = block ++ rest ∧ Takes afterArguments block rest ∧
      ∀ more, more.head? = rest.head? → goesOn (block ++ more) = goesOn cs := by
  unfold afterArguments at h
  split at h
  · rename_i cs
    obtain ⟨behind, hargs, hblock⟩ := Option.bind_eq_some_iff.1 h
    obtain ⟨args, hcs, htakes⟩ := afterBrackets_takes hargs
    obtain ⟨block, hbehind, hblocks, -⟩ := afterBlock_takes hblock
    -- white space may stand between the arguments and the block
    obtain ⟨blanks, rfl, hblanks⟩ : ∃ blanks, behind = blanks ++ (block ++ rest) ∧
        ∀ c ∈ blanks, Text.isBlank c = true :=
      ⟨behind.takeWhile Text.isBlank, by rw [← hbehind, List.takeWhile_append_dropWhile],
        List.all_eq_true.1 List.all_takeWhile⟩
    cases args with
    | nil => exact absurd htakes.last (by simp)
    | cons c args =>
      obtain ⟨rfl, rfl⟩ := List.cons.inj hcs
      refine ⟨'(' :: (args ++ (blanks ++ block)), by simp, ⟨fun more hm => ?_, ?_⟩, fun _ _ => rfl⟩
      · have hagain := hblocks.again more hm
        have hargs := htakes.again (blanks ++ (block ++ more))
          (head?_append_congr (head?_append_congr hm block) blanks)
        have hdrop : (blanks ++ (block ++ more)).dropWhile Text.isBlank = block ++ more := by
          rw [List.dropWhile_append_of_pos hblanks, (afterBlock_eq_some hagain).2]
        simp only [List.cons_append, List.append_assoc] at hargs ⊢
        rw [afterArguments, hargs, Option.bind_some, hdrop, hagain]
      · exact last_append ('(' :: args) (last_append blanks hblocks.last)
  · obtain ⟨block, rfl, htakes, hsame⟩ := afterBlock_takes h
    refine ⟨block, rfl, ⟨fun more hm => ?_, htakes.last⟩, hsame⟩
    exact (afterBlock_eq_some (htakes.again more hm)).1

/-- **Signature blocks.** A block that is found is found again in front of every text that goes on
with the same character. -/
theorem afterSig_takes {cs rest : List Char} (h : afterSig cs = some rest) :
    ∃ block, cs = block ++ rest ∧ Takes afterSig block rest := by
  rw [afterSig_eq] at h
  obtain ⟨behind, hsig, hargs⟩ := Option.bind_eq_some_iff.1 h
  obtain ⟨blanks, rfl, hblanks, hword, hgoes⟩ := afterSigWord?_eq_some_iff.1 hsig
  obtain ⟨block, rfl, htakes, hsame⟩ := afterArguments_takes hargs
  refine ⟨'s' :: 'i' :: 'g' :: (blanks ++ block), by simp, fun more hm => ?_, ?_⟩
  · have hhead := head?_append_congr (head?_append_congr hm block) blanks
    have hagain : afterSigWord? ('s' :: 'i' :: 'g' :: (blanks ++ (block ++ more))) =
        some (block ++ more) :=
      afterSigWord?_eq_some_iff.2 ⟨blanks, rfl, hblanks, (startsInWord_congr hhead).trans hword,
        (hsame more hm).trans hgoes⟩
    rw [afterSig_eq]
    simp only [List.cons_append, List.append_assoc, hagain, Option.bind_some]
    exact htakes.again more hm
  · exact last_append ('s' :: 'i' :: 'g' :: blanks) htakes.last

end TypeTags.Segment
