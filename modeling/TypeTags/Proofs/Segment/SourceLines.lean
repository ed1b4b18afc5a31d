import TypeTags.Segment.Basic

/-!
# The segment of a block

A signature block that starts a text is the text's first segment, and the lines that it takes belong
to no other.

Results:
* `splitOnChar_append`, `splitOnChar_length`: the lines of a text that is put together, and how many
  there are.
* `Segment.eq_of_sourceLines`, `Segment.sourceLines_joined`: a text is its lines with line feeds
  between them.
* `Segment.segments_block_eq`: the segment of a block, and what is left of the text behind it.
* `Segment.segments_whole`: a block that reaches to the end of the text is its only segment.
-/

namespace TypeTags

namespace Segment

theorem splitOnChar_length (sep : Char) (cs : List Char) :
    (Text.splitOnChar sep cs).length = cs.count sep + 1 := by
  induction cs with
  | nil => rfl
  | cons c cs ih =>
    unfold Text.splitOnChar
    rw [List.count_cons]
    split
    · rw [List.length_cons, ih]
    · split
      · rename_i he
        rw [he] at ih
        simp at ih
      · rename_i he
        rw [he] at ih
        simpa using ih

theorem splitOnChar_append (sep : Char) (cs ds : List Char) :
    Text.splitOnChar sep (cs ++ sep :: ds) =
      Text.splitOnChar sep cs ++ Text.splitOnChar sep ds := by
  induction cs with
  | nil => simp [Text.splitOnChar]
  | cons c cs ih =>
    rw [List.cons_append, Text.splitOnChar, Text.splitOnChar, ih]
    split
    · rfl
    · cases hs : Text.splitOnChar sep cs with
      | nil =>
        have := splitOnChar_length sep cs
        simp [hs] at this
      | cons piece pieces => rfl

theorem splitOnChar_eq_singleton {sep : Char} {cs : List Char} (h : sep ∉ cs) :
    Text.splitOnChar sep cs = [cs] := by
  induction cs with
  | nil => rfl
  | cons c cs ih =>
    have hc : ¬ (c == sep) = true := by
      intro hc
      exact h (by simp [eq_of_beq hc])
    rw [Text.splitOnChar, if_neg hc, ih fun hcs => h (List.mem_cons_of_mem _ hcs)]

/-- The pieces hold no separator, and with the separators between them they are the text. -/
theorem splitOnChar_eq_cons {sep : Char} {cs first : List Char} {others : List (List Char)}
    (h : Text.splitOnChar sep cs = first :: others) :
    sep ∉ first ∧ cs = first ++ others.flatMap (sep :: ·) ∧ ∀ piece ∈ others, sep ∉ piece := by
  induction cs generalizing first others with
  | nil => simp [Text.splitOnChar] at h; simp [h]
  | cons c cs ih =>
    have hne : Text.splitOnChar sep cs ≠ [] := by
      have := splitOnChar_length sep cs
      intro he
      simp [he] at this
    obtain ⟨piece, pieces, hcs⟩ := List.exists_cons_of_ne_nil hne
    obtain ⟨hpiece, htext, hpieces⟩ := ih hcs
    rw [Text.splitOnChar] at h
    split at h
    · rename_i hc
      obtain ⟨rfl, rfl⟩ := List.cons.inj h
      rw [hcs]
      exact ⟨by simp, by simp [htext, eq_of_beq hc], List.forall_mem_cons.2 ⟨hpiece, hpieces⟩⟩
    · rename_i hc
      rw [hcs] at h
      obtain ⟨rfl, rfl⟩ := List.cons.inj h
      exact ⟨by simp [hpiece, Ne.symm (by simpa using hc : c ≠ sep)], by simp [htext], hpieces⟩

/-- Lines with a line feed behind each. -/
def ended (lines : List (List Char)) : List Char := lines.flatMap (· ++ ['\n'])

/-- Lines with a line feed before each. -/
def begun (lines : List (List Char)) : List Char := lines.flatMap ('\n' :: ·)

@[simp] theorem ended_nil : ended [] = [] := rfl

@[simp] theorem ended_cons (line : List Char) (lines : List (List Char)) :
    ended (line :: lines) = line ++ '\n' :: ended lines := by simp [ended]

@[simp] theorem begun_nil : begun [] = [] := rfl

@[simp] theorem begun_cons (line : List Char) (lines : List (List Char)) :
    begun (line :: lines) = '\n' :: (line ++ begun lines) := by simp [begun]

theorem begun_append (lines more : List (List Char)) :
    begun (lines ++ more) = begun lines ++ begun more := by simp [begun]

/-- The line feeds between lines, counted to the left or to the right. -/
theorem append_begun (line : List Char) (lines : List (List Char)) :
    line ++ begun lines ++ ['\n'] = ended (line :: lines) := by
  induction lines generalizing line with
  | nil => simp
  | cons next lines ih => simpa using ih next

theorem count_ended {lines : List (List Char)} (h : ∀ line ∈ lines, '\n' ∉ line) :
    (ended lines).count '\n' = lines.length := by
  induction lines with
  | nil => rfl
  | cons line lines ih =>
    obtain ⟨hline, hlines⟩ := List.forall_mem_cons.1 h
    simp [ih hlines, List.count_eq_zero.2 hline]

/-- The lines around line `k` of a text. -/
theorem exists_lines_around {text line : List Char} {k : Nat}
    (h : (Text.sourceLines text)[k]? = some line) :
    ∃ before after, Text.sourceLines text = before ++ line :: after ∧ before.length = k := by
  obtain ⟨hk, hline⟩ := List.getElem?_eq_some_iff.1 h
  refine ⟨(Text.sourceLines text).take k, (Text.sourceLines text).drop (k + 1), ?_, ?_⟩
  · rw [← hline, List.getElem_cons_drop, List.take_append_drop]
  · exact List.length_take_of_le (Nat.le_of_lt hk)

/-- A text around one of its lines. -/
theorem eq_of_sourceLines {text line : List Char} {before after : List (List Char)}
    (h : Text.sourceLines text = before ++ line :: after) :
    text = ended before ++ (line ++ begun after) := by
  cases before with
  | nil => exact (splitOnChar_eq_cons h).2.1
  | cons first before =>
    obtain ⟨-, htext, -⟩ := splitOnChar_eq_cons (h.trans (List.cons_append ..))
    calc text = first ++ begun (before ++ line :: after) := htext
      _ = first ++ begun before ++ ['\n'] ++ (line ++ begun after) := by simp [begun_append]
      _ = ended (first :: before) ++ (line ++ begun after) := by rw [append_begun]

theorem notMem_of_mem_sourceLines {text line : List Char} (h : line ∈ Text.sourceLines text) :
    '\n' ∉ line := by
  cases hs : Text.sourceLines text with
  | nil => rw [hs] at h; cases h
  | cons first others =>
    obtain ⟨hfirst, -, hothers⟩ := splitOnChar_eq_cons hs
    rw [hs] at h
    exact (List.forall_mem_cons.2 ⟨hfirst, hothers⟩ : ∀ l ∈ first :: others, '\n' ∉ l) line h

/-- Lines that are put together are the lines of the text. -/
theorem sourceLines_joined {line : List Char} {before after : List (List Char)}
    (h : ∀ l ∈ before ++ line :: after, '\n' ∉ l) :
    Text.sourceLines (ended before ++ (line ++ begun after)) = before ++ line :: after := by
  induction before with
  | nil =>
    induction after generalizing line with
    | nil => simpa [Text.sourceLines] using splitOnChar_eq_singleton (h line (by simp))
    | cons next after ih =>
      have hnext := @ih next fun l hl => h l (List.mem_cons_of_mem _ hl)
      have hline := splitOnChar_eq_singleton (h line (by simp))
      simp only [Text.sourceLines, ended_nil, List.nil_append, begun_cons] at hnext ⊢
      rw [splitOnChar_append, hline, hnext]
      rfl
  | cons first before ih =>
    have hrest := ih fun l hl => h l (List.mem_cons_of_mem _ hl)
    have hfirst := splitOnChar_eq_singleton (h first (by simp))
    simp only [Text.sourceLines, ended_cons, List.append_assoc, List.cons_append] at hrest ⊢
    rw [splitOnChar_append, hfirst, hrest]
    rfl

/-- Lines that belong to the segment before them give no segments. -/
theorem fromLines_skip (isFirst inBlock : Bool) {skip : Nat} (line : Int) (rest : List Char)
    {pieces : List (List Char)} (h : pieces.length ≤ skip) :
    fromLines isFirst inBlock skip line rest pieces = [] := by
  induction pieces generalizing isFirst skip line rest with
  | nil => rfl
  | cons piece pieces ih =>
    obtain ⟨skip, rfl⟩ : ∃ n, skip = n + 1 := ⟨skip - 1, by simp at h; omega⟩
    simp only [fromLines]
    exact ih _ _ _ (by simpa using h)

/-- A line that opens a signature block, from its first character on. -/
structure OpensBlock (header : List Char) : Prop where
  oneLine : Text.sourceLines header = [header]
  isSig : classify header = .sig
  solid : ∀ rest, (header ++ rest).dropWhile Text.isBlank = header ++ rest

/-- The first line of a block opens a segment; what is left of the text follows. -/
theorem segments_block_eq {header : List Char} (h : OpensBlock header) (rest : List Char)
    (line : Int) :
    segments (header ++ '\n' :: rest) line =
      ⟨.sig, (sigBlock (header ++ '\n' :: rest)).1, line,
          line + (sigBlock (header ++ '\n' :: rest)).2⟩ ::
        fromLines false false (sigBlock (header ++ '\n' :: rest)).2 (line + 1) rest
          (Text.sourceLines rest) := by
  have hlines : Text.sourceLines (header ++ '\n' :: rest) = header :: Text.sourceLines rest := by
    have := splitOnChar_append '\n' header rest
    rwa [show Text.splitOnChar '\n' header = [header] from h.oneLine] at this
  have hdrop : (header ++ '\n' :: rest).drop (header.length + 1) = rest := by
    simp
  rw [segments, hlines]
  simp only [fromLines, h.isSig, h.solid, Bool.false_eq_true, if_false, hdrop]

/-- A block that ends where the text does is its only segment. -/
theorem segments_whole {header : List Char} (h : OpensBlock header) {rest : List Char}
    (hend : afterSig (header ++ '\n' :: rest) = some []) (line : Int) :
    segments (header ++ '\n' :: rest) line = [⟨.sig, header ++ '\n' :: rest, line,
      line + (header ++ '\n' :: rest).count '\n'⟩] := by
  have hblock : sigBlock (header ++ '\n' :: rest) =
      (header ++ '\n' :: rest, (header ++ '\n' :: rest).count '\n') := by
    simp only [sigBlock, hend, List.length_nil, Nat.sub_zero, List.take_length]
  have hcount : (Text.sourceLines rest).length ≤ (header ++ '\n' :: rest).count '\n' := by
    rw [Text.sourceLines, splitOnChar_length, List.count_append, List.count_cons_self]
    omega
  rw [segments_block_eq h, hblock, fromLines_skip _ _ _ _ hcount]

end Segment

end TypeTags
