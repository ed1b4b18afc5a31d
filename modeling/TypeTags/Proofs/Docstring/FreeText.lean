import TypeTags.Attribution
import TypeTags.Proofs.Text.Trim

/-!
# How much free text a comment has

The free text of a comment is told apart by its ink: how many of its characters are no white space.
Trimming and putting lines together leave the ink alone, so that it is that of the free lines.
A line can only take ink from the lines behind it by opening a tag or a directive. So a line of free
text adds to the ink of every comment that it is put into.

Results:
* `inkAfter_append`: the ink of lines, part by part.
* `parse_ink`: the ink of the text that a comment is parsed to.
* `parse_text_ne`: a comment with one more free line in it has another text.
-/

namespace TypeTags

namespace Docstring

/-- How many characters are no white space. -/
def ink (cs : List Char) : Nat := cs.countP (!Text.isBlank ·)

@[simp] theorem ink_nil : ink [] = 0 := rfl

@[simp] theorem ink_append (cs ds : List Char) : ink (cs ++ ds) = ink cs + ink ds :=
  List.countP_append

theorem ink_eq_zero {cs : List Char} (h : ∀ c ∈ cs, Text.isBlank c = true) : ink cs = 0 := by
  simpa [ink, List.countP_eq_zero] using h

theorem ink_trimStart (cs : List Char) : ink (Text.trimStart cs) = ink cs := by
  have hblank : ink (cs.takeWhile Text.isBlank) = 0 :=
    ink_eq_zero (List.all_eq_true.1 List.all_takeWhile)
  have hsplit := congrArg ink (@List.takeWhile_append_dropWhile _ Text.isBlank cs)
  rw [ink_append, hblank, Nat.zero_add] at hsplit
  exact hsplit

theorem ink_reverse (cs : List Char) : ink cs.reverse = ink cs := List.countP_reverse

theorem ink_trim (cs : List Char) : ink (Text.trim cs) = ink cs := by
  rw [Text.trim, Text.trimEnd, ink_reverse]
  exact (ink_trimStart _).trans ((ink_reverse _).trans (ink_trimStart cs))

/-- The ink of the free lines, when `opened` is open before them. -/
def inkAfter (opened : Opened) (lines : List (List Char)) : Nat :=
  ink (freeLines (roles opened lines)).flatten

def openedAfter (opened : Opened) (lines : List (List Char)) : Opened :=
  lines.foldl (fun opened line => (roleOf opened line).2) opened

theorem roles_append (opened : Opened) (lines more : List (List Char)) :
    roles opened (lines ++ more) = roles opened lines ++ roles (openedAfter opened lines) more := by
  induction lines generalizing opened with
  | nil => rfl
  | cons line lines ih => simp [roles, ih, openedAfter]

theorem inkAfter_append (opened : Opened) (lines more : List (List Char)) :
    inkAfter opened (lines ++ more) =
      inkAfter opened lines + inkAfter (openedAfter opened lines) more := by
  simp [inkAfter, roles_append, freeLines]

theorem inkAfter_cons (opened : Opened) (line : List Char) (lines : List (List Char)) :
    inkAfter opened (line :: lines) =
      inkAfter opened [line] + inkAfter (roleOf opened line).2 lines :=
  inkAfter_append opened [line] lines

theorem inkAfter_line (opened : Opened) (line : List Char) :
    inkAfter opened [line] = match (roleOf opened line).1 with
      | .free free => ink free
      | _ => 0 := by
  unfold inkAfter roles roles
  rcases roleOf opened line with ⟨role, left⟩
  cases role <;> simp [freeLines]

/-- An indented line goes on with what is open. Every other line is read without it. -/
theorem roleOf_cases (opened : Opened) (line : List Char) :
    roleOf opened line = roleOf .nothing line ∨
      roleOf .nothing line = (.free line, .nothing) ∧
        ∀ free, (roleOf opened line).1 ≠ .free free := by
  unfold roleOf
  split
  · exact .inl rfl
  split
  · exact .inl rfl
  split
  · cases opened
    · exact .inl rfl
    · exact .inr ⟨rfl, nofun⟩
    · exact .inr ⟨rfl, nofun⟩
  · exact .inl rfl

/-- Lines have most ink when nothing is open before them. -/
theorem inkAfter_le (opened : Opened) (lines : List (List Char)) :
    inkAfter opened lines ≤ inkAfter .nothing lines := by
  induction lines generalizing opened with
  | nil => exact Nat.le_refl _
  | cons line lines ih =>
    rw [inkAfter_cons opened, inkAfter_cons .nothing]
    rcases roleOf_cases opened line with hsame | ⟨hfree, hnot⟩
    · rw [inkAfter_line, inkAfter_line, hsame]
    · have hink : inkAfter opened [line] = 0 := by
        rw [inkAfter_line]
        cases hrole : (roleOf opened line).1 with
        | free free => exact absurd hrole (hnot free)
        | _ => rfl
      have := ih (roleOf opened line).2
      simp only [hink, hfree]
      omega

theorem ink_joinLines (lines : List (List Char)) : ink (joinLines lines) = ink lines.flatten := by
  induction lines with
  | nil => rfl
  | cons line lines ih =>
    cases lines with
    | nil => simp [joinLines]
    | cons next lines =>
      unfold joinLines at ih ⊢
      have hfeed : ink ['\n'] = 0 := ink_eq_zero (by simp [show Text.isBlank '\n' = true by decide])
      rw [List.intercalate_cons_cons, ink_append, ink_append, ih, hfeed]
      simp

/-- The ink of the text of a comment is that of its free lines. -/
theorem parse_ink (comment : List Char) :
    ink (parse comment).text.toList = inkAfter .nothing (Text.breakLines comment) := by
  simp only [parse, String.toList_ofList]
  rw [ink_trim, ink_joinLines]
  rfl

/-! ## Lines of texts that are put together -/

theorem breakLines_cons {c : Char} (hc : Text.isLineBreak c = false) (cs : List Char) :
    Text.breakLines (c :: cs) =
      (c :: (Text.breakLines cs).headD []) :: (Text.breakLines cs).tail := by
  rw [Text.breakLines]
  · rw [if_neg (by simp [hc])]
    cases Text.breakLines cs <;> rfl
  · rintro _ rfl
    exact absurd hc (by decide)

theorem breakLines_break {c : Char} (hc : Text.isLineBreak c = true) {cs : List Char}
    (h : c = '\r' → cs.head? ≠ some '\n') :
    Text.breakLines (c :: cs) = [] :: Text.breakLines cs := by
  rw [Text.breakLines]
  · rw [if_pos hc]
  · rintro ds hr rfl
    exact h hr rfl

theorem breakLines_ne_nil {cs : List Char} (h : cs ≠ []) : Text.breakLines cs ≠ [] := by
  unfold Text.breakLines
  split
  · exact absurd rfl h
  · exact List.cons_ne_nil _ _
  · split
    · exact List.cons_ne_nil _ _
    · split <;> exact List.cons_ne_nil _ _

/-- A line feed behind a text ends its last line, or it is a line of its own. Either way a text
behind it starts on a new line. -/
theorem breakLines_ended (cs : List Char) :
    (Text.breakLines (cs ++ ['\n']) = Text.breakLines cs ∨
      Text.breakLines (cs ++ ['\n']) = Text.breakLines cs ++ [[]]) ∧
    ∀ ds, Text.breakLines (cs ++ '\n' :: ds) =
      Text.breakLines (cs ++ ['\n']) ++ Text.breakLines ds := by
  have hfeed (ds : List Char) : Text.breakLines ('\n' :: ds) = [] :: Text.breakLines ds :=
    breakLines_break (by decide) fun h => absurd h (by decide)
  induction cs with
  | nil => exact ⟨.inr rfl, fun ds => by simp [hfeed, Text.breakLines]⟩
  | cons c cs ih =>
    by_cases hreturn : c = '\r' ∧ cs = []
    · -- a carriage return and the line feed are one break
      obtain ⟨rfl, rfl⟩ := hreturn
      exact ⟨.inl rfl, fun ds => rfl⟩
    by_cases hpair : c = '\r' ∧ cs.head? = some '\n'
    · obtain ⟨rfl, hhead⟩ := hpair
      obtain ⟨cs, rfl⟩ := List.head?_eq_some_iff.1 hhead
      have hskip (ds : List Char) :
          Text.breakLines ('\r' :: '\n' :: ds) = Text.breakLines ('\n' :: ds) := by
        rw [hfeed, Text.breakLines]
      simpa only [List.cons_append, hskip] using ih
    by_cases hbreak : Text.isLineBreak c = true
    · have hcons (ds : List Char) : Text.breakLines (c :: (cs ++ '\n' :: ds)) =
          [] :: Text.breakLines (cs ++ '\n' :: ds) := by
        refine breakLines_break hbreak fun hc hd => ?_
        cases cs with
        | nil => exact hreturn ⟨hc, rfl⟩
        | cons d cs => exact hpair ⟨hc, hd⟩
      have hcs : Text.breakLines (c :: cs) = [] :: Text.breakLines cs :=
        breakLines_break hbreak fun hc hd => hpair ⟨hc, hd⟩
      simpa only [List.cons_append, hcons, hcs, List.cons.injEq, true_and] using ih
    · have hcons := @breakLines_cons c (by simpa using hbreak)
      obtain ⟨hended, happend⟩ := ih
      obtain ⟨line, lines, hne⟩ := List.exists_cons_of_ne_nil
        (breakLines_ne_nil (List.append_ne_nil_of_right_ne_nil cs (List.cons_ne_nil '\n' [])))
      refine ⟨?_, fun ds => ?_⟩
      · rw [List.cons_append, hcons, hcons]
        rcases hended with hended | hended
        · exact .inl (by rw [hended])
        · rw [hended]
          cases Text.breakLines cs with
          | nil => exact .inl rfl
          | cons first others => exact .inr rfl
      · rw [List.cons_append, List.cons_append, hcons, hcons, happend, hne]
        rfl

/-- The lines of a text with a line feed behind it. -/
def endedLines (s : String) : List (List Char) := Text.breakLines (s.toList ++ ['\n'])

theorem endedLines_oneLine {s : String} (h : ∀ c ∈ s.toList, Text.isLineBreak c = false) :
    endedLines s = [s.toList] := by
  unfold endedLines
  generalize s.toList = cs at h
  induction cs with
  | nil => rfl
  | cons c cs ih =>
    obtain ⟨hc, hcs⟩ := List.forall_mem_cons.1 h
    rw [List.cons_append, breakLines_cons hc, ih hcs]
    rfl

theorem endedLines_joinRun (doc : String) (docs : List String) :
    endedLines (Attribution.joinRun (doc :: docs)) = (doc :: docs).flatMap endedLines := by
  induction docs generalizing doc with
  | nil => simp [Attribution.joinRun]
  | cons next docs ih =>
    have hjoin : (Attribution.joinRun (doc :: next :: docs)).toList =
        doc.toList ++ '\n' :: (Attribution.joinRun (next :: docs)).toList := by
      simp [Attribution.joinRun, String.intercalate_cons_cons]
    have ih := ih next
    unfold endedLines at ih ⊢
    rw [hjoin, List.append_assoc, List.cons_append, (breakLines_ended _).2, ih]
    rfl

/-- An empty line has no ink and closes what is open. -/
theorem inkAfter_nil_cons (opened : Opened) (lines : List (List Char)) :
    inkAfter opened ([] :: lines) = inkAfter .nothing lines := by
  have hrole : roleOf opened [] = (.free [], .nothing) := by cases opened <;> rfl
  rw [inkAfter_cons, inkAfter_line, hrole]
  exact Nat.zero_add _

/-- Texts with line feeds between them have the ink of all their lines. -/
theorem parse_joinRun_ink (docs : List String) :
    ink (parse (Attribution.joinRun docs).toList).text.toList =
      inkAfter .nothing (docs.flatMap endedLines) := by
  have hended (s : String) :
      inkAfter .nothing (endedLines s) = inkAfter .nothing (Text.breakLines s.toList) := by
    rcases (breakLines_ended s.toList).1 with h | h
    · rw [endedLines, h]
    · rw [endedLines, h, inkAfter_append, inkAfter_nil_cons]
      rfl
  rw [parse_ink, ← hended]
  cases docs with
  | nil => decide
  | cons doc docs => rw [endedLines_joinRun]

/-- **One more line.** A line of free text at the head of one of several comments changes the text
that they are parsed to. Without the line the comment may be missing if it is empty. -/
theorem parse_text_ne {line : String} (hline : endedLines line = [line.toList])
    (hfree : ∀ opened, roleOf opened line.toList = (.free line.toList, .nothing))
    (hink : 0 < ink line.toList) (before after : List String) {run kept : List String}
    (hkept : kept = [Attribution.joinRun run] ∨ kept = [] ∧ Attribution.joinRun run = "") :
    (parse (Attribution.joinRun
        (before ++ Attribution.joinRun (line :: run) :: after)).toList).text ≠
      (parse (Attribution.joinRun (before ++ (kept ++ after))).toList).text := by
  intro h
  have h := congrArg (fun text : String => ink text.toList) h
  simp only [parse_joinRun_ink, List.flatMap_append, List.flatMap_cons, endedLines_joinRun, hline,
    inkAfter_append .nothing (before.flatMap endedLines)] at h
  generalize openedAfter .nothing (before.flatMap endedLines) = opened at h
  generalize after.flatMap endedLines = behind at h
  rw [List.singleton_append, List.cons_append, inkAfter_cons, inkAfter_line, hfree] at h
  -- behind the line nothing is open, and so there is no less ink than there is without it
  have hle : inkAfter opened (kept.flatMap endedLines ++ behind) ≤
      inkAfter .nothing (run.flatMap endedLines ++ behind) := by
    cases run with
    | nil =>
      rcases hkept with rfl | ⟨rfl, -⟩
      · exact Nat.le_of_eq (inkAfter_nil_cons opened behind)
      · exact inkAfter_le opened behind
    | cons first others =>
      rw [← endedLines_joinRun]
      rcases hkept with rfl | ⟨rfl, hempty⟩
      · simpa using
          inkAfter_le opened (endedLines (Attribution.joinRun (first :: others)) ++ behind)
      · rw [hempty]
        exact Nat.le_trans (inkAfter_le opened behind)
          (Nat.le_of_eq (inkAfter_nil_cons _ behind).symm)
  dsimp only at h
  omega

end Docstring

end TypeTags
