import TypeTags.Proofs.Attribution.Absorb

/-!
# Which lines open a signature

The reader of source lines looks at a line only if it is free: no block comment is open, and no
signature block before reaches to the line. Where the reader is when it comes to a line depends on
the lines before and on how far their blocks reach. Here that state is followed by itself, and the
signatures of a text are told apart by the line they start on.

* `LineState`: where the reader is between two lines.
* `LineState.after`: where it is behind the first lines of a text.
* `opensAt`: whether the reader meets a signature on a line.
* `lineSegments`: the segments that start on a line.

Results:
* `fromLines_cons`: the segments of lines, line by line.
* `sigTexts_fromLines`: the signatures that start on a line: one if the reader meets it, or none.
* `sourceLines_append`: the line in which two parts of a text meet.
* `sigsIn_at`: a signature that stands behind white space on its line is met, with its whole text,
  exactly if the reader is free and the line opens one.
-/

namespace TypeTags.Segment

open Attribution (SigText sigTexts sigTexts_line sigsIn)

/-- Where the reader is between two lines: whether a block comment is open, and how many lines
belong to the segment before. -/
structure LineState where
  inBlock : Bool := false
  skip : Nat := 0
  deriving DecidableEq, Repr

namespace LineState

/-- Whether the reader looks at the next line. -/
def isFree (s : LineState) : Bool := s.skip == 0 && !s.inBlock

/-- Where the line leads that stands at the head of a text. -/
def next (s : LineState) (rest line : List Char) : LineState :=
  if 0 < s.skip then ⟨s.inBlock, s.skip - 1⟩
  else if s.inBlock then ⟨!closesBlockComment line, 0⟩
  else match classify line with
    | .blockComment => ⟨true, 0⟩
    | .sig => ⟨false, (sigBlock (rest.dropWhile Text.isBlank)).2⟩
    | .empty | .magic | .comment | .code => ⟨false, 0⟩

/-- Where the reader is when `k` lines at the head of a text are read. -/
def after (s : LineState) (rest : List Char) : List (List Char) → Nat → LineState
  | _, 0 => s
  | [], _ + 1 => s
  | line :: lines, k + 1 => (s.next rest line).after (rest.drop (line.length + 1)) lines k

end LineState

/-- What is left of a text behind `k` of its lines. -/
def dropLines (rest : List Char) : List (List Char) → Nat → List Char
  | _, 0 => rest
  | [], _ + 1 => rest
  | line :: lines, k + 1 => dropLines (rest.drop (line.length + 1)) lines k

/-- Whether the reader meets a signature behind the first `k` lines of a text: it is free there, and
the next line opens one. -/
def opensAt (text : List Char) (k : Nat) : Bool :=
  (LineState.after {} text (Text.sourceLines text) k).isFree &&
    classify ((Text.sourceLines text).getD k []) == .sig

/-- The signature that starts on a line, given where the reader is there and the text from the line
on. -/
def sigOnLine (state : LineState) (rest line : List Char) (number : Int) : List SigText :=
  if state.isFree && classify line == .sig then
    [⟨String.ofList (sigBlock (rest.dropWhile Text.isBlank)).1, number⟩]
  else []

theorem sigTexts_append (first second : List Segment) :
    sigTexts (first ++ second) = sigTexts first ++ sigTexts second := by
  simp [sigTexts]

/-- The segments that start on a line, of which there is one at most, given where the reader is
there and the text from the line on; `edge` tells whether the line is the first or the last
one. -/
def lineSegments (edge : Bool) (s : LineState) (number : Int) (rest line : List Char) :
    List Segment :=
  if 0 < s.skip then []
  else if s.inBlock then [⟨.blank, line, number, number⟩]
  else match classify line with
    | .blockComment | .magic => [⟨.blank, line, number, number⟩]
    | .empty => if edge then [] else [⟨.blank, line, number, number⟩]
    | .comment => [⟨.comment, line, number, number⟩]
    | .code => [⟨.code, line, number, number⟩]
    | .sig => [⟨.sig, (sigBlock (rest.dropWhile Text.isBlank)).1, number,
        number + (sigBlock (rest.dropWhile Text.isBlank)).2⟩]

/-- **Step.** The segments of lines are those of the first line, and the reader goes on with the
others. -/
theorem fromLines_cons (isFirst : Bool) (s : LineState) (number : Int) (rest line : List Char)
    (lines : List (List Char)) :
    fromLines isFirst s.inBlock s.skip number rest (line :: lines) =
      lineSegments (isFirst || lines.isEmpty) s number rest line ++
        fromLines false (s.next rest line).inBlock (s.next rest line).skip (number + 1)
          (rest.drop (line.length + 1)) lines := by
  obtain ⟨inBlock, skip⟩ := s
  cases skip with
  | succ skip => simp [fromLines, lineSegments, LineState.next]
  | zero =>
    cases inBlock with
    | true => simp [fromLines, lineSegments, LineState.next]
    | false =>
      cases hc : classify line with
      | empty => cases hb : isFirst || lines.isEmpty <;>
          simp [fromLines, lineSegments, LineState.next, hc, hb]
      | _ => simp [fromLines, lineSegments, LineState.next, hc]

theorem sigTexts_lineSegments (edge : Bool) (s : LineState) (number : Int)
    (rest line : List Char) :
    sigTexts (lineSegments edge s number rest line) = sigOnLine s rest line number := by
  obtain ⟨inBlock, skip⟩ := s
  cases skip with
  | succ skip => simp [lineSegments, sigOnLine, LineState.isFree, sigTexts]
  | zero =>
    cases inBlock with
    | true => simp [lineSegments, sigOnLine, LineState.isFree, sigTexts]
    | false =>
      cases hc : classify line with
      | empty => cases edge <;> simp [lineSegments, sigOnLine, LineState.isFree, sigTexts, hc]
      | _ => simp [lineSegments, sigOnLine, LineState.isFree, sigTexts, hc]

theorem sigOnLine_line {state : LineState} {rest line : List Char} {number : Int} {t : SigText}
    (h : t ∈ sigOnLine state rest line number) : t.line = number := by
  unfold sigOnLine at h
  split at h
  · rw [List.mem_singleton.1 h]
  · cases h

/-- **Lines.** The signatures that start on a line are told by where the reader is there, and by the
line itself. -/
theorem sigTexts_fromLines (isFirst : Bool) (s : LineState) (number : Int) (rest : List Char)
    {lines : List (List Char)} {k : Nat} {line : List Char} (h : lines[k]? = some line) :
    (sigTexts (fromLines isFirst s.inBlock s.skip number rest lines)).filter
        (fun t => t.line = number + k) =
      sigOnLine (s.after rest lines k) (dropLines rest lines k) line (number + k) := by
  induction lines generalizing isFirst s number rest k with
  | nil => simp at h
  | cons first lines ih =>
    rw [fromLines_cons, sigTexts_append, List.filter_append, sigTexts_lineSegments]
    cases k with
    | zero =>
      obtain rfl : first = line := by simpa using h
      -- what the other lines give stands on later lines
      have hlater : (sigTexts (fromLines false (s.next rest first).inBlock
          (s.next rest first).skip (number + 1) (rest.drop (first.length + 1)) lines)).filter
            (fun t => t.line = number + (0 : Nat)) = [] := by
        rw [List.filter_eq_nil_iff]
        intro t ht
        obtain ⟨seg, hseg, he⟩ := sigTexts_line ht
        have := fromLines_line hseg
        simp only [he, decide_eq_true_eq]
        omega
      rw [hlater, List.append_nil, List.filter_eq_self.2]
      · simp [LineState.after, dropLines]
      · intro t ht
        simp [sigOnLine_line ht]
    | succ k =>
      have hhere : (sigOnLine s rest first number).filter
          (fun t => t.line = number + (k + 1 : Nat)) = [] := by
        rw [List.filter_eq_nil_iff]
        intro t ht
        simp only [sigOnLine_line ht, decide_eq_true_eq]
        omega
      have hnumber : number + ((k + 1 : Nat) : Int) = number + 1 + (k : Nat) := by omega
      rw [hhere, List.nil_append, hnumber]
      exact ih false (s.next rest first) (number + 1) (rest.drop (first.length + 1))
        (by simpa using h)

/-! ## The line in which two parts of a text meet -/

/-- The last line of a text, which goes on with what follows the text. -/
def unfinished : List Char → List Char
  | [] => []
  | c :: cs => if '\n' ∈ c :: cs then unfinished cs else c :: cs

theorem unfinished_cons_newline (cs : List Char) : unfinished ('\n' :: cs) = unfinished cs := by
  simp [unfinished]

theorem unfinished_cons {c : Char} (hc : c ≠ '\n') (cs : List Char) :
    unfinished (c :: cs) = if '\n' ∈ cs then unfinished cs else c :: cs := by
  simp [unfinished, Ne.symm hc]

theorem unfinished_eq_self {cs : List Char} (h : '\n' ∉ cs) : unfinished cs = cs := by
  cases cs with
  | nil => rfl
  | cons c cs => rw [unfinished, if_neg h]

theorem unfinished_append (cs ds : List Char) : unfinished (cs ++ '\n' :: ds) = unfinished ds := by
  induction cs with
  | nil => exact unfinished_cons_newline ds
  | cons c cs ih => rw [List.cons_append, unfinished, if_pos (by simp), ih]

theorem mem_of_mem_unfinished {cs : List Char} {c : Char} (h : c ∈ unfinished cs) : c ∈ cs := by
  induction cs with
  | nil => cases h
  | cons d cs ih =>
    rw [unfinished] at h
    split at h
    · exact List.mem_cons_of_mem _ (ih h)
    · exact h

theorem splitOnChar_head (sep : Char) (cs : List Char) : ∃ pieces,
    Text.splitOnChar sep cs = cs.takeWhile (· != sep) :: pieces := by
  induction cs with
  | nil => exact ⟨[], rfl⟩
  | cons c cs ih =>
    obtain ⟨pieces, hp⟩ := ih
    rw [Text.splitOnChar, List.takeWhile_cons, hp]
    by_cases hc : c = sep
    · exact ⟨cs.takeWhile (· != sep) :: pieces, by simp [hc]⟩
    · exact ⟨pieces, by simp [hc]⟩

/-- Two parts of a text meet in the line that the line feeds of the first part count up to. -/
theorem sourceLines_append (u v : List Char) :
    (Text.sourceLines (u ++ v))[u.count '\n']? = some (unfinished u ++ v.takeWhile (· != '\n')) ∧
      dropLines (u ++ v) (Text.sourceLines (u ++ v)) (u.count '\n') = unfinished u ++ v := by
  unfold Text.sourceLines
  induction u with
  | nil =>
    obtain ⟨pieces, hp⟩ := splitOnChar_head '\n' v
    rw [List.nil_append, hp]
    exact ⟨rfl, rfl⟩
  | cons c u ih =>
    by_cases hc : c = '\n'
    · subst hc
      rw [List.cons_append, Text.splitOnChar, if_pos (by simp), List.count_cons_self,
        unfinished_cons_newline]
      exact ih
    · obtain ⟨pieces, hp⟩ := splitOnChar_head '\n' (u ++ v)
      rw [hp] at ih
      have hsplit : Text.splitOnChar '\n' (c :: (u ++ v)) =
          (c :: (u ++ v).takeWhile (· != '\n')) :: pieces := by
        rw [Text.splitOnChar, if_neg (by simpa using hc), hp]
      rw [List.cons_append, hsplit, List.count_cons_of_ne hc, unfinished_cons hc]
      by_cases hmem : '\n' ∈ u
      · -- the line is a later one, and the first one only grows
        obtain ⟨k, hk⟩ : ∃ k, u.count '\n' = k + 1 :=
          ⟨u.count '\n' - 1, by have := List.count_pos_iff.2 hmem; omega⟩
        rw [hk] at ih ⊢
        rw [if_pos hmem]
        exact ih
      · rw [List.count_eq_zero.2 hmem] at ih ⊢
        rw [if_neg hmem]
        have hself := unfinished_eq_self hmem
        rw [hself] at ih
        have hhead := Option.some.inj ih.1
        exact ⟨by rw [List.getElem?_cons_zero, hhead]; rfl, rfl⟩

/-- **Meeting a signature.** A part of a text that starts on its line behind white space only: there
is one signature on that line, whose text is that of the block at the head of the part, if the
reader meets it; and none if not. -/
theorem sigsIn_at {u v : List Char} (hu : ∀ c ∈ unfinished u, Text.isBlank c = true)
    (hv : v.dropWhile Text.isBlank = v) (line : Int) :
    (sigsIn (String.ofList (u ++ v)) line).filter (fun t => t.line = line + u.count '\n') =
      if opensAt (u ++ v) (u.count '\n') then
        [⟨String.ofList (sigBlock v).1, line + u.count '\n'⟩]
      else [] := by
  obtain ⟨hline, hrest⟩ := sourceLines_append u v
  unfold sigsIn segments
  rw [String.toList_ofList]
  have h := sigTexts_fromLines true {} line (u ++ v) hline
  rw [hrest] at h
  refine h.trans ?_
  have hblock : (unfinished u ++ v).dropWhile Text.isBlank = v := by
    rw [List.dropWhile_append_of_pos hu, hv]
  unfold sigOnLine opensAt
  rw [List.getD_eq_getElem?_getD, hline, Option.getD_some, hblock]

end TypeTags.Segment
