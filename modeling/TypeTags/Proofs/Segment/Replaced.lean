import TypeTags.Proofs.Segment.Coverage

/-!
# Another line in the place of one

The reader of source lines comes to a line in a state that the lines before it decide, and the text
of a signature block is decided by the lines that the block takes. So a line that no block reaches
can be replaced by any other: the segments before it stay, and the reader is in the same state
there. A magic comment gives a blank segment, as an empty line does, unless it is the first line,
where an empty line gives none.

* `Reaches`: the text of a segment goes on up to a line.
* `blanked`: a text with an empty line in the place of one.

Results:
* `sigBlock_again`: a block is the same in front of every text that follows its lines.
* `fromLines_replaced`: what the segments of lines have to do with one of them.
* `segments_blanked_magic`, `segments_blanked_first`: an empty line in the place of a magic comment,
  and of a comment on the first line.
-/

namespace TypeTags.Segment

open Attribution (SigText sigTexts sigTexts_line sigsIn)

/-- The segment starts on the line with the number or before, and its text goes on up to there. A
block that does not close goes on up to the end of the text. -/
def Reaches (s : Segment) (number : Int) : Prop :=
  s.line ≤ number ∧ number ≤ s.line + s.text.count '\n'

instance (s : Segment) (number : Int) : Decidable (s.Reaches number) :=
  inferInstanceAs (Decidable (_ ∧ _))

/-- The text with an empty line in the place of line `k`. -/
def blanked (text : List Char) (k : Nat) : List Char :=
  Docstring.joinLines ((Text.sourceLines text).set k [])

theorem joinLines_eq (before : List (List Char)) (line : List Char) (after : List (List Char)) :
    Docstring.joinLines (before ++ line :: after) = ended before ++ (line ++ begun after) := by
  have hfirst : ∀ line, Docstring.joinLines (line :: after) = line ++ begun after := by
    induction after with
    | nil => intro line; simp [Docstring.joinLines]
    | cons next after ih =>
      intro line
      have hnext := ih next
      unfold Docstring.joinLines at hnext ⊢
      rw [List.intercalate_cons_cons, hnext, begun_cons]
      simp
  induction before with
  | nil => exact hfirst line
  | cons first before ih =>
    obtain ⟨next, others, hne⟩ : ∃ next others, before ++ line :: after = next :: others :=
      List.exists_cons_of_ne_nil (by simp)
    unfold Docstring.joinLines at ih ⊢
    rw [List.cons_append, hne, List.intercalate_cons_cons, ← hne, ih, ended_cons]
    simp

/-! ## Lines that a block does not reach -/

/-- A block that ends within a part of a text is found again if the part stays. -/
theorem sigBlock_again {lead tail : List Char}
    (h : (sigBlock (lead ++ tail)).1.count '\n' < lead.count '\n') (other : List Char) :
    sigBlock (lead ++ other) = sigBlock (lead ++ tail) := by
  cases hafter : afterSig (lead ++ tail) with
  | none =>
    simp only [sigBlock, hafter, List.count_append] at h
    omega
  | some rest =>
    obtain ⟨block, htext, htakes⟩ := afterSig_takes hafter
    have hblock : ∀ {cs more}, cs = block ++ more → afterSig cs = some more →
        sigBlock cs = (block, block.count '\n') := by
      rintro cs more rfl hcs
      simp [sigBlock, hcs]
    rw [hblock htext hafter] at h ⊢
    -- the block ends before the part does
    obtain ⟨others, hlead, hrest⟩ : ∃ others, lead = block ++ others ∧ rest = others ++ tail := by
      rcases List.append_eq_append_iff.1 htext with ⟨others, hb, -⟩ | ⟨others, hl, hr⟩
      · rw [hb, List.count_append] at h
        omega
      · exact ⟨others, hl, hr⟩
    have hne : others ≠ [] := by
      rintro rfl
      simp [hlead] at h
    have hhead : (others ++ other).head? = rest.head? := by
      obtain ⟨c, cs, rfl⟩ := List.exists_cons_of_ne_nil hne
      rw [hrest]
      rfl
    have htext' : lead ++ other = block ++ (others ++ other) := by rw [hlead, List.append_assoc]
    exact hblock htext' (htext' ▸ htakes.again _ hhead)

theorem sigBlock_feeds (cs : List Char) : (sigBlock cs).2 ≤ (sigBlock cs).1.count '\n' := by
  unfold sigBlock
  split
  · exact Nat.le_refl _
  · exact Nat.zero_le _

theorem length_le_count_ended (lines : List (List Char)) :
    lines.length ≤ (ended lines).count '\n' := by
  induction lines with
  | nil => exact Nat.le_refl 0
  | cons line lines ih =>
    rw [ended_cons, List.count_append, List.count_cons_self, List.length_cons]
    omega

/-- A block starts on its own line, however the text goes on behind some lines. -/
theorem dropWhile_line {first : List Char} (h : classify first = .sig)
    (before : List (List Char)) (tail : List Char) :
    (ended (first :: before) ++ tail).dropWhile Text.isBlank =
      first.dropWhile Text.isBlank ++ '\n' :: ended before ++ tail := by
  have hne : first.dropWhile Text.isBlank ≠ [] := by
    intro hnil
    have hsplit := @List.takeWhile_append_dropWhile _ Text.isBlank first
    rw [hnil, List.append_nil] at hsplit
    exact absurd (congrArg List.length hsplit) (Nat.ne_of_lt (solid_of_sig h))
  rw [ended_cons, List.append_assoc, List.dropWhile_append, if_neg (by simpa using hne)]
  simp

/-- What the reader makes of a line depends on the text behind it only by the block that starts on
the line. -/
theorem lineSegments_congr {rest rest' line : List Char} (edge : Bool) (s : LineState)
    (number : Int)
    (h : s.skip = 0 → s.inBlock = false → classify line = .sig →
      sigBlock (rest'.dropWhile Text.isBlank) = sigBlock (rest.dropWhile Text.isBlank)) :
    lineSegments edge s number rest' line = lineSegments edge s number rest line ∧
      s.next rest' line = s.next rest line := by
  unfold lineSegments LineState.next
  by_cases hskip : 0 < s.skip
  · simp [hskip]
  by_cases hblock : s.inBlock = true
  · simp [hskip, hblock]
  cases hc : classify line with
  | sig => simp [hskip, hblock, h (by omega) (by simpa using hblock) hc]
  | _ => simp [hskip, hblock]

/-- A block that starts on a line and does not reach to a later one ends before it. -/
theorem block_ends_before {edge : Bool} {s : LineState} {number : Int} {rest line : List Char}
    {n : Nat} (hout : ∀ seg ∈ lineSegments edge s number rest line, seg.kind = .sig →
      ¬ seg.Reaches (number + 1 + n))
    (hs : s.skip = 0) (hb : s.inBlock = false) (hc : classify line = .sig) :
    (sigBlock (rest.dropWhile Text.isBlank)).1.count '\n' ≤ n := by
  refine Nat.le_of_not_lt fun hlt => ?_
  have hseg : (⟨.sig, (sigBlock (rest.dropWhile Text.isBlank)).1, number,
      number + (sigBlock (rest.dropWhile Text.isBlank)).2⟩ : Segment) ∈
        lineSegments edge s number rest line := by
    simp [lineSegments, hs, hb, hc]
  refine hout _ hseg rfl ⟨?_, ?_⟩
  · dsimp only
    omega
  · dsimp only
    omega

/-- The reader does not skip more lines than those before a line that no block reaches. -/
theorem next_skip_le {edge : Bool} {s : LineState} {number : Int} {rest line : List Char}
    {n : Nat} (hskip : s.skip ≤ n + 1)
    (hout : ∀ seg ∈ lineSegments edge s number rest line, seg.kind = .sig →
      ¬ seg.Reaches (number + 1 + n)) :
    (s.next rest line).skip ≤ n := by
  unfold LineState.next
  by_cases hs : 0 < s.skip
  · rw [if_pos hs]
    exact Nat.sub_le_of_le_add hskip
  by_cases hb : s.inBlock = true
  · simp [hs, hb]
  cases hc : classify line with
  | sig =>
    simpa [hs, hb] using
      Nat.le_trans (sigBlock_feeds _) (block_ends_before hout (by omega) (by simpa using hb) hc)
  | _ => simp [hs, hb]

/-- A line in front of lines that are replaced: a block that starts on it ends before them. -/
theorem lineSegments_replaced {edge : Bool} {s : LineState} {number : Int} {first : List Char}
    {before : List (List Char)} {tail : List Char}
    (hout : ∀ seg ∈ lineSegments edge s number (ended (first :: before) ++ tail) first,
      seg.kind = .sig → ¬ seg.Reaches (number + 1 + before.length)) (tail' : List Char) :
    lineSegments edge s number (ended (first :: before) ++ tail') first =
        lineSegments edge s number (ended (first :: before) ++ tail) first ∧
      s.next (ended (first :: before) ++ tail') first =
        s.next (ended (first :: before) ++ tail) first := by
  refine lineSegments_congr edge s number fun hs hb hc => ?_
  have hends := block_ends_before hout hs hb hc
  rw [dropWhile_line hc] at hends ⊢
  rw [dropWhile_line hc]
  refine sigBlock_again (Nat.lt_of_le_of_lt hends ?_) _
  have := length_le_count_ended before
  rw [List.count_append, List.count_cons_self]
  omega

/-- The segments of the first line, then those of the others. -/
theorem fromLines_first (isFirst : Bool) (s : LineState) (number : Int) (first : List Char)
    (before : List (List Char)) (line : List Char) (after : List (List Char)) :
    fromLines isFirst s.inBlock s.skip number (ended (first :: before) ++ (line ++ begun after))
        (first :: before ++ line :: after) =
      lineSegments isFirst s number (ended (first :: before) ++ (line ++ begun after)) first ++
        fromLines false (s.next (ended (first :: before) ++ (line ++ begun after)) first).inBlock
          (s.next (ended (first :: before) ++ (line ++ begun after)) first).skip (number + 1)
          (ended before ++ (line ++ begun after)) (before ++ line :: after) := by
  have hdrop : (ended (first :: before) ++ (line ++ begun after)).drop (first.length + 1) =
      ended before ++ (line ++ begun after) := by
    simp
  have hmore : (before ++ line :: after).isEmpty = false := by simp
  rw [List.cons_append, fromLines_cons, hmore, Bool.or_false, hdrop]

/-- **Replacing lines.** If no block that starts before a line reaches to it, then the segments of
the lines before it and the state in which the reader comes to it have nothing to do with that line
and those behind it. -/
theorem fromLines_replaced (isFirst : Bool) (s : LineState) (number : Int)
    {before : List (List Char)} {line : List Char} {after : List (List Char)}
    (hskip : s.skip ≤ before.length)
    (hout : ∀ seg ∈ fromLines isFirst s.inBlock s.skip number
      (ended before ++ (line ++ begun after)) (before ++ line :: after),
      seg.kind = .sig → seg.line < number + before.length →
        ¬ seg.Reaches (number + before.length)) :
    ∃ front t, t.skip = 0 ∧ (before = [] → front = [] ∧ t = s) ∧
      (∀ seg ∈ front, seg.line < number + before.length) ∧ ∀ other others,
      fromLines isFirst s.inBlock s.skip number
          (ended before ++ (other ++ begun others)) (before ++ other :: others) =
        front ++ fromLines (isFirst && before.isEmpty) t.inBlock t.skip (number + before.length)
          (other ++ begun others) (other :: others) := by
  induction before generalizing isFirst s number with
  | nil =>
    refine ⟨[], s, by simpa using hskip, fun _ => ⟨rfl, rfl⟩,
      fun _ hseg => absurd hseg List.not_mem_nil, fun other others => ?_⟩
    simp
  | cons first before ih =>
    have hnumber : number + ((first :: before).length : Nat) = number + 1 + before.length := by
      rw [List.length_cons]
      omega
    rw [fromLines_first, hnumber] at hout
    have hstart : ∀ seg ∈ lineSegments isFirst s number
        (ended (first :: before) ++ (line ++ begun after)) first, seg.kind = .sig →
          ¬ seg.Reaches (number + 1 + before.length) := by
      intro seg hseg hkind
      have hline := (lineSegments_last hseg).1
      exact hout seg (List.mem_append_left _ hseg) hkind (by omega)
    obtain ⟨front, t, ht, -, hfront, htail⟩ :=
      ih false (s.next (ended (first :: before) ++ (line ++ begun after)) first) (number + 1)
        (next_skip_le hskip hstart) fun seg hseg => hout seg (List.mem_append_right _ hseg)
    refine ⟨lineSegments isFirst s number (ended (first :: before) ++ (line ++ begun after)) first ++
      front, t, ht, fun h => absurd h (List.cons_ne_nil _ _), fun seg hseg => ?_,
      fun other others => ?_⟩
    · rw [hnumber]
      rcases List.mem_append.1 hseg with hseg | hseg
      · have hline := (lineSegments_last hseg).1
        omega
      · exact hfront seg hseg
    · obtain ⟨hsegs, hnext⟩ := lineSegments_replaced hstart (other ++ begun others)
      rw [fromLines_first, hsegs, hnext, htail, List.append_assoc, hnumber]
      simp

/-- The lines that a part of a text ends stay, however the text goes on. -/
theorem exists_lines_behind (u : List Char) : ∃ before : List (List Char),
    before.length = u.count '\n' ∧
      ∀ w, ∃ line others, Text.sourceLines (u ++ w) = before ++ line :: others := by
  have hne (cs : List Char) : Text.sourceLines cs ≠ [] := by
    intro he
    have := splitOnChar_length '\n' cs
    rw [← Text.sourceLines, he] at this
    simp at this
  obtain ⟨before, last, hu⟩ :
      ∃ before last, Text.sourceLines u = before ++ [last] :=
    ⟨_, _, (List.dropLast_concat_getLast (hne u)).symm⟩
  have hline : ∀ l ∈ before ++ [last], '\n' ∉ l := fun l hl =>
    notMem_of_mem_sourceLines (hu ▸ hl)
  have htext := eq_of_sourceLines hu
  refine ⟨before, ?_, fun w => ?_⟩
  · have hlast := hline last (by simp)
    rw [htext, List.count_append, count_ended fun l hl => hline l (List.mem_append_left _ hl)]
    simp [List.count_eq_zero.2 hlast]
  · obtain ⟨first, others, hw⟩ := List.exists_cons_of_ne_nil (hne w)
    have hwtext : w = first ++ begun others := @eq_of_sourceLines w first [] others hw
    refine ⟨last ++ first, others, ?_⟩
    have hjoined : u ++ w = ended before ++ ((last ++ first) ++ begun others) := by
      rw [htext, hwtext]
      simp
    rw [hjoined]
    refine sourceLines_joined fun l hl => ?_
    have hfirst : ∀ l ∈ first :: others, '\n' ∉ l := fun l hl =>
      notMem_of_mem_sourceLines (hw ▸ hl)
    simp only [List.mem_append, List.mem_cons] at hl
    rcases hl with hl | rfl | hl
    · exact hline l (List.mem_append_left _ hl)
    · intro hmem
      rcases List.mem_append.1 hmem with hmem | hmem
      · exact hline last (by simp) hmem
      · exact hfirst first List.mem_cons_self hmem
    · exact hfirst l (List.mem_cons_of_mem _ hl)

theorem mem_sigTexts {segs : List Segment} {seg : Segment} (h : seg ∈ segs)
    (hkind : seg.kind = .sig) : (⟨String.ofList seg.text, seg.line⟩ : SigText) ∈ sigTexts segs :=
  List.mem_filterMap.2 ⟨seg, h, if_pos hkind⟩

/-- A text with another end: if no signature that starts in the first part of it reaches to the line
on which the first part ends, then the signatures in front of that line stay as they are, and the
others start on that line or behind it. -/
theorem sigsIn_replaced {u v : List Char} {line : Int}
    (hout : ∀ t ∈ sigsIn (String.ofList (u ++ v)) line, t.line < line + u.count '\n' →
      t.line + t.text.toList.count '\n' < line + u.count '\n') :
    ∃ front, (∀ t ∈ front, t.line < line + u.count '\n') ∧ ∀ w, ∃ back,
      (∀ t ∈ back, line + u.count '\n' ≤ t.line) ∧
        sigsIn (String.ofList (u ++ w)) line = front ++ back := by
  obtain ⟨before, hlength, hlines⟩ := exists_lines_behind u
  obtain ⟨first, others, hv⟩ := hlines v
  rw [← hlength] at hout ⊢
  have hsigs (w : List Char) : sigsIn (String.ofList (u ++ w)) line =
      sigTexts (fromLines true false 0 line (u ++ w) (Text.sourceLines (u ++ w))) := by
    rw [sigsIn, segments, String.toList_ofList]
  obtain ⟨front, t, -, -, hfront, htail⟩ := @fromLines_replaced true {} line before first others
    (Nat.zero_le _) fun seg hseg hkind hbefore hreach => by
      rw [← eq_of_sourceLines hv, ← hv] at hseg
      have hlast := hout _ (hsigs v ▸ mem_sigTexts hseg hkind) hbefore
      dsimp only at hlast
      rw [String.toList_ofList] at hlast
      have := hreach.2
      omega
  refine ⟨sigTexts front, fun t ht => ?_, fun w => ?_⟩
  · obtain ⟨seg, hseg, hline⟩ := sigTexts_line ht
    rw [hline]
    exact hfront seg hseg
  · obtain ⟨first', others', hw⟩ := hlines w
    have htext := htail first' others'
    rw [← eq_of_sourceLines hw, ← hw] at htext
    refine ⟨sigTexts (fromLines (true && before.isEmpty) t.inBlock t.skip (line + before.length)
      (first' ++ begun others') (first' :: others')), fun t ht => ?_, ?_⟩
    · obtain ⟨seg, hseg, hline⟩ := sigTexts_line ht
      rw [hline]
      exact fromLines_line hseg
    · rw [hsigs, htext, sigTexts_append]

/-! ## An empty line in the place of one -/

theorem head_of_magic {line : List Char} (h : isMagic (Text.trim line) = true) :
    line.head? ≠ some '=' := by
  intro hhead
  obtain ⟨cs, rfl⟩ := List.head?_eq_some_iff.1 hhead
  rw [Text.trim_cons (by decide)] at h
  cases h

theorem head_of_starts {mark : Char} {cs line : List Char}
    (h : (mark :: cs).isPrefixOf line = true) : line.head? = some mark := by
  obtain ⟨rest, rfl⟩ := List.isPrefixOf_iff_prefix.1 h
  rfl

theorem classify_magic {line : List Char} (h : isMagic (Text.trim line) = true) :
    classify line = .magic := by
  have hopens : opensBlockComment line = false :=
    Bool.eq_false_iff.2 fun ho => head_of_magic h (head_of_starts ho)
  obtain ⟨cs, hcs⟩ : ∃ cs, Text.trim line = '#' :: cs := by
    unfold isMagic at h
    split at h
    · exact ⟨_, ‹_›⟩
    · cases h
  simp [classify, hopens, hcs, hcs ▸ h]

theorem closes_of_magic {line : List Char} (h : isMagic (Text.trim line) = true) :
    closesBlockComment line = false :=
  Bool.eq_false_iff.2 fun hc => head_of_magic h (head_of_starts hc)

/-- Lines behind the one on which the reader is, when that line leaves it where it was. -/
theorem fromLines_stays (isFirst : Bool) {s : LineState} {number : Int} {line : List Char}
    {after : List (List Char)} (hafter : after ≠ []) (h : s.next (line ++ begun after) line = s) :
    fromLines isFirst s.inBlock s.skip number (line ++ begun after) (line :: after) =
      lineSegments isFirst s number (line ++ begun after) line ++
        fromLines false s.inBlock s.skip (number + 1) ((begun after).drop 1) after := by
  have hempty : after.isEmpty = false := by simpa using hafter
  have hdrop : (line ++ begun after).drop (line.length + 1) = (begun after).drop 1 := by
    rw [List.drop_append, List.drop_eq_nil_of_le (by omega), Nat.add_sub_cancel_left]
    rfl
  rw [fromLines_cons, hdrop, hempty, Bool.or_false, h]

theorem next_nil {s : LineState} (hs : s.skip = 0) (rest : List Char) : s.next rest [] = s := by
  have hclass : classify [] = .empty := by decide
  obtain ⟨inBlock, skip⟩ := s
  obtain rfl : skip = 0 := hs
  cases inBlock
  · simp [LineState.next, hclass]
  · simp [LineState.next, closesBlockComment]

/-- A text with an empty line in the place of one that no block reaches: the segments before the
line are the same, and so is the state in which the reader comes to it. -/
theorem segments_blanked {text line : List Char} {k : Nat} {start : Int}
    (hline : (Text.sourceLines text)[k]? = some line)
    (hlast : k + 1 < (Text.sourceLines text).length)
    (hout : ∀ s ∈ segments text start, s.kind = .sig → ¬ s.Reaches (start + k)) :
    ∃ (front : List Segment) (t : LineState) (after : List (List Char)),
      t.skip = 0 ∧ after ≠ [] ∧ (k = 0 → front = [] ∧ t = {}) ∧
      segments text start = front ++ fromLines (k == 0) t.inBlock t.skip (start + k)
        (line ++ begun after) (line :: after) ∧
      segments (blanked text k) start = front ++ fromLines (k == 0) t.inBlock t.skip (start + k)
        ([] ++ begun after) ([] :: after) := by
  obtain ⟨before, after, hlines, rfl⟩ := exists_lines_around hline
  have htext := eq_of_sourceLines hlines
  have hblanked : blanked text before.length = ended before ++ ([] ++ begun after) := by
    rw [blanked, hlines, ← joinLines_eq]
    simp
  have hlines' : Text.sourceLines (blanked text before.length) = before ++ [] :: after := by
    rw [hblanked]
    refine sourceLines_joined fun l hl => ?_
    rcases List.mem_append.1 hl with hl | hl
    · exact notMem_of_mem_sourceLines (hlines ▸ List.mem_append_left _ hl)
    · rcases List.mem_cons.1 hl with rfl | hl
      · exact List.not_mem_nil
      · exact notMem_of_mem_sourceLines
          (hlines ▸ List.mem_append_right _ (List.mem_cons_of_mem _ hl))
  have hfirst : (true && before.isEmpty) = (before.length == 0) := by cases before <;> rfl
  have hreplaced := @fromLines_replaced true {} start before line after (Nat.zero_le _)
  unfold segments at hout ⊢
  rw [hlines', hblanked]
  rw [hlines] at hout ⊢
  rw [← htext, hfirst] at hreplaced
  obtain ⟨front, t, ht, hnil, -, hall⟩ := hreplaced fun seg hseg hkind _ => hout seg hseg hkind
  have htext' := hall line after
  rw [← htext] at htext'
  refine ⟨front, t, after, ht, ?_, fun hk => hnil (List.length_eq_zero_iff.1 hk), htext', hall [] after⟩
  rintro rfl
  simp [hlines] at hlast

/-- **Magic comments.** The segments around a magic comment that no block reaches are the same with
an empty line in its place. What is left of it is a blank segment, or nothing in front of all
segments. -/
theorem segments_blanked_magic {text line : List Char} {k : Nat} {start : Int}
    (hline : (Text.sourceLines text)[k]? = some line)
    (hlast : k + 1 < (Text.sourceLines text).length)
    (hout : ∀ s ∈ segments text start, s.kind = .sig → ¬ s.Reaches (start + k))
    (hmagic : isMagic (Text.trim line) = true) :
    ∃ front more, segments text start = front ++ ⟨.blank, line, start + k, start + k⟩ :: more ∧
      (segments (blanked text k) start = front ++ ⟨.blank, [], start + k, start + k⟩ :: more ∨
        front = [] ∧ segments (blanked text k) start = more) := by
  obtain ⟨front, t, after, ht, hafter, hfirst, htext, hblanked⟩ := segments_blanked hline hlast hout
  have hnext : t.next (line ++ begun after) line = t := by
    obtain ⟨inBlock, skip⟩ := t
    obtain rfl : skip = 0 := ht
    cases inBlock
    · simp [LineState.next, classify_magic hmagic]
    · simp [LineState.next, closes_of_magic hmagic]
  rw [fromLines_stays (k == 0) hafter hnext] at htext
  rw [fromLines_stays (k == 0) hafter (next_nil ht _)] at hblanked
  refine ⟨front, fromLines false t.inBlock t.skip (start + k + 1) ((begun after).drop 1) after,
    ?_, ?_⟩
  · cases hb : t.inBlock <;> simp [htext, lineSegments, ht, hb, classify_magic hmagic]
  · have hclass : classify [] = .empty := by decide
    cases k with
    | zero =>
      obtain ⟨rfl, rfl⟩ := hfirst rfl
      exact .inr ⟨rfl, by simpa [lineSegments, hclass] using hblanked⟩
    | succ k =>
      refine .inl ?_
      cases hb : t.inBlock <;> simp [hblanked, lineSegments, ht, hb, hclass]

/-- **The first line.** A comment on the first line gives the first segment, and an empty line in
its place gives none. -/
theorem segments_blanked_first {text line : List Char} {start : Int}
    (hline : (Text.sourceLines text)[0]? = some line) (hlast : 1 < (Text.sourceLines text).length)
    (hout : ∀ s ∈ segments text start, s.kind = .sig → ¬ s.Reaches (start + (0 : Nat)))
    (hcomment : classify line = .comment) :
    segments text start = ⟨.comment, line, start, start⟩ :: segments (blanked text 0) start := by
  obtain ⟨front, t, after, -, hafter, hfirst, htext, hblanked⟩ :=
    segments_blanked hline hlast hout
  obtain ⟨rfl, rfl⟩ := hfirst rfl
  have hnext : LineState.next {} (line ++ begun after) line = {} := by
    simp [LineState.next, hcomment]
  rw [fromLines_stays _ hafter hnext] at htext
  rw [fromLines_stays _ hafter (next_nil rfl _)] at hblanked
  have hclass : classify [] = .empty := by decide
  rw [htext, hblanked]
  simp [lineSegments, hcomment, hclass]

end TypeTags.Segment
