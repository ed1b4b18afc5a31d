import TypeTags.Proofs.Segment.LineReader
import TypeTags.Proofs.Segment.Reach
import TypeTags.Proofs.Segment.SourceLines
import TypeTags.Proofs.Text.Trim

/-!
# Segments cover the lines of a text

Every segment starts on a line of its own and takes the lines up to its last one, and the next
segment starts behind those. A segment that is no signature block is one whole line. A block is the
text from the first character of its line on that is not blank, up to where the block ends. So no
line is taken twice, and the lines that no segment takes are the first and the last one, when there
is nothing on them.

* `lineStart`, `lineOf`: the offset of a line, and the line of an offset.
* `IsLine`, `IsBlock`: what a segment takes of a text.

Results:
* `mem_fromLines`: every segment is the one that starts on a line.
* `fromLines_apart`: segments follow one another.
* `fromLines_covers`: a line belongs to a segment unless it is an empty edge.
* `segments_cover`: all of this for a text.
-/

namespace TypeTags.Segment

def lineStart (text : List Char) (k : Nat) : Nat := (ended ((Text.sourceLines text).take k)).length

/-- The index of the line that holds the character at an offset. -/
def lineOf (text : List Char) (offset : Nat) : Nat := (text.take offset).count '\n'

/-- How far a line is indented. -/
def indentation (line : List Char) : Nat := (line.takeWhile Text.isBlank).length

structure IsLine (s : Segment) (line : List Char) (number : Int) : Prop where
  text : s.text = line
  first : s.line = number
  last : s.lastLine = number

/-- The segment is the signature block at an offset of a text whose first line has the number
`start`. A block that does not close takes the text to its end, but only one line. -/
structure IsBlock (s : Segment) (text : List Char) (start : Int) (offset : Nat) : Prop where
  offset_lt : offset < text.length
  first : s.line = start + lineOf text offset
  closed : ∀ stop, sigExtent text offset = some stop → offset < stop ∧ stop ≤ text.length ∧
    s.text = (text.drop offset).take (stop - offset) ∧ s.lastLine = start + lineOf text (stop - 1)
  unclosed : sigExtent text offset = none → s.text = text.drop offset ∧ s.lastLine = s.line

/-! ## One line -/

/-- The segment that starts on a line. -/
theorem mem_lineSegments {edge : Bool} {s : LineState} {number : Int} {rest line : List Char}
    {seg : Segment} (h : seg ∈ lineSegments edge s number rest line) :
    (seg.kind ≠ .sig ∧ seg.IsLine line number ∧ (s.next rest line).skip = 0) ∨
      classify line = .sig ∧ (s.next rest line).skip = (sigBlock (rest.dropWhile Text.isBlank)).2 ∧
        seg = ⟨.sig, (sigBlock (rest.dropWhile Text.isBlank)).1, number,
          number + (sigBlock (rest.dropWhile Text.isBlank)).2⟩ := by
  unfold lineSegments at h
  unfold LineState.next
  split at h
  · cases h
  · split at h
    · rw [List.mem_singleton.1 h]
      exact .inl ⟨nofun, ⟨rfl, rfl, rfl⟩, by simp_all⟩
    · cases hc : classify line with
      | sig =>
        simp only [hc] at h
        rw [List.mem_singleton.1 h]
        exact .inr ⟨rfl, by simp_all, rfl⟩
      | empty =>
        cases edge with
        | true => simp [hc] at h
        | false =>
          simp only [hc, Bool.false_eq_true, if_false] at h
          rw [List.mem_singleton.1 h]
          exact .inl ⟨nofun, ⟨rfl, rfl, rfl⟩, by simp_all⟩
      | _ =>
        simp only [hc] at h
        rw [List.mem_singleton.1 h]
        exact .inl ⟨nofun, ⟨rfl, rfl, rfl⟩, by simp_all⟩

theorem blank_of_empty {line : List Char} (h : classify line = .empty) :
    ∀ c ∈ line, Text.isBlank c = true := by
  unfold classify at h
  dsimp only at h
  split at h
  · cases h
  split at h
  · rename_i hempty
    exact (Text.trim_eq_nil_iff line).1 (List.isEmpty_iff.1 hempty)
  split at h
  · split at h <;> cases h
  split at h <;> cases h

/-- A line that is skipped has no segment. One that is looked at has one, unless it is empty and an
edge. -/
theorem lineSegments_cases (edge : Bool) (s : LineState) (number : Int) (rest line : List Char) :
    (0 < s.skip ∧ lineSegments edge s number rest line = []) ∨
      s.skip = 0 ∧ ((∃ seg, lineSegments edge s number rest line = [seg]) ∨
        lineSegments edge s number rest line = [] ∧ edge = true ∧
          (∀ c ∈ line, Text.isBlank c = true) ∧ (s.next rest line).skip = 0) := by
  by_cases hskip : 0 < s.skip
  · exact .inl ⟨hskip, by simp [lineSegments, hskip]⟩
  refine .inr ⟨by omega, ?_⟩
  unfold lineSegments
  rw [if_neg hskip]
  by_cases hblock : s.inBlock = true
  · exact .inl ⟨_, if_pos hblock⟩
  rw [if_neg hblock]
  cases hc : classify line with
  | empty =>
    cases edge with
    | true =>
      refine .inr ⟨rfl, rfl, blank_of_empty hc, ?_⟩
      rw [LineState.next, if_neg hskip, if_neg hblock, hc]
    | false => exact .inl ⟨_, rfl⟩
  | _ => exact .inl ⟨_, rfl⟩

/-- A segment takes the line that it starts on and the lines that the reader skips then. -/
theorem lineSegments_last {edge : Bool} {s : LineState} {number : Int} {rest line : List Char}
    {seg : Segment} (h : seg ∈ lineSegments edge s number rest line) :
    seg.line = number ∧ seg.lastLine = number + (s.next rest line).skip := by
  rcases mem_lineSegments h with ⟨-, hline, hskip⟩ | ⟨-, hskip, rfl⟩
  · exact ⟨hline.first, by rw [hline.last, hskip]; simp⟩
  · exact ⟨rfl, by rw [hskip]⟩

theorem next_of_skip {s : LineState} (h : 0 < s.skip) (rest line : List Char) :
    (s.next rest line).skip + 1 = s.skip := by
  rw [LineState.next, if_pos h]
  exact Nat.sub_add_cancel h

/-! ## All lines -/

theorem mem_fromLines {isFirst : Bool} {s : LineState} {number : Int} {rest : List Char}
    {lines : List (List Char)} {seg : Segment}
    (h : seg ∈ fromLines isFirst s.inBlock s.skip number rest lines) :
    ∃ k line edge, lines[k]? = some line ∧
      seg ∈ lineSegments edge (s.after rest lines k) (number + k) (dropLines rest lines k)
        line := by
  induction lines generalizing isFirst s number rest with
  | nil => simp [fromLines] at h
  | cons first lines ih =>
    rw [fromLines_cons] at h
    rcases List.mem_append.1 h with h | h
    · exact ⟨0, first, _, rfl, by simpa [LineState.after, dropLines] using h⟩
    · obtain ⟨k, line, edge, hline, hseg⟩ := ih h
      refine ⟨k + 1, line, edge, by simpa using hline, ?_⟩
      have hnumber : number + ((k + 1 : Nat) : Int) = number + 1 + k := by omega
      rw [hnumber]
      exact hseg

/-- **Order.** Segments start behind the lines that are skipped, and behind one another. -/
theorem fromLines_apart (isFirst : Bool) (s : LineState) (number : Int) (rest : List Char)
    (lines : List (List Char)) :
    (∀ seg ∈ fromLines isFirst s.inBlock s.skip number rest lines, number + s.skip ≤ seg.line) ∧
      (fromLines isFirst s.inBlock s.skip number rest lines).Pairwise
        fun seg seg' => seg.lastLine < seg'.line := by
  induction lines generalizing isFirst s number rest with
  | nil => simp [fromLines]
  | cons line lines ih =>
    obtain ⟨hbehind, hpairwise⟩ := ih false (s.next rest line) (number + 1)
      (rest.drop (line.length + 1))
    rw [fromLines_cons]
    have hlast := @lineSegments_last (isFirst || lines.isEmpty) s number rest line
    rcases lineSegments_cases (isFirst || lines.isEmpty) s number rest line with
      ⟨hskip, hnil⟩ | ⟨hskip, ⟨seg, hseg⟩ | ⟨hnil, -⟩⟩
    · rw [hnil, List.nil_append]
      refine ⟨fun seg' hseg' => ?_, hpairwise⟩
      have := hbehind seg' hseg'
      have := next_of_skip hskip rest line
      omega
    · rw [hseg] at hlast ⊢
      obtain ⟨hfirst, hlast⟩ := hlast List.mem_cons_self
      refine ⟨fun seg' hseg' => ?_, List.pairwise_cons.2 ⟨fun seg' hseg' => ?_, hpairwise⟩⟩
      · rcases List.mem_cons.1 hseg' with rfl | hseg'
        · omega
        · have := hbehind seg' hseg'
          omega
      · have := hbehind seg' hseg'
        omega
    · rw [hnil, List.nil_append]
      refine ⟨fun seg' hseg' => ?_, hpairwise⟩
      have := hbehind seg' hseg'
      omega

/-- **Cover.** Every line belongs to a segment before, or to one of these, or is an empty edge. -/
theorem fromLines_covers (isFirst : Bool) (s : LineState) (number : Int) (rest : List Char)
    {lines : List (List Char)} {k : Nat} {line : List Char} (h : lines[k]? = some line) :
    k < s.skip ∨
      (∃ seg ∈ fromLines isFirst s.inBlock s.skip number rest lines,
        seg.line ≤ number + k ∧ number + k ≤ seg.lastLine) ∨
      (∀ c ∈ line, Text.isBlank c = true) ∧ (isFirst = true ∧ k = 0 ∨ k + 1 = lines.length) := by
  induction lines generalizing isFirst s number rest k with
  | nil => simp at h
  | cons first lines ih =>
    rw [fromLines_cons]
    have hlast := @lineSegments_last (isFirst || lines.isEmpty) s number rest first
    have hcases := lineSegments_cases (isFirst || lines.isEmpty) s number rest first
    cases k with
    | zero =>
      obtain rfl : first = line := by simpa using h
      rcases hcases with ⟨hskip, -⟩ | ⟨-, ⟨seg, hseg⟩ | ⟨-, hedge, hblank, -⟩⟩
      · exact .inl hskip
      · rw [hseg] at hlast ⊢
        obtain ⟨hfirst, hlast⟩ := hlast List.mem_cons_self
        exact .inr (.inl ⟨seg, by simp, by omega, by omega⟩)
      · refine .inr (.inr ⟨hblank, ?_⟩)
        rcases Bool.or_eq_true_iff.1 hedge with hedge | hedge
        · exact .inl ⟨hedge, rfl⟩
        · exact .inr (by simpa using hedge)
    | succ k =>
      have hrest := ih false (s.next rest first) (number + 1) (rest.drop (first.length + 1))
        (k := k) (by simpa using h)
      rcases hrest with hbehind | ⟨seg, hseg, hfrom, hto⟩ | ⟨hblank, hedge⟩
      · -- the line belongs to what was skipped, or to the segment of the first line
        rcases hcases with ⟨hskip, -⟩ | ⟨-, ⟨seg, hseg⟩ | ⟨-, -, -, hnext⟩⟩
        · have := next_of_skip hskip rest first
          exact .inl (by omega)
        · rw [hseg] at hlast ⊢
          obtain ⟨hfirst, hlast⟩ := hlast List.mem_cons_self
          exact .inr (.inl ⟨seg, by simp, by omega, by omega⟩)
        · omega
      · exact .inr (.inl ⟨seg, List.mem_append_right _ hseg, by omega, by omega⟩)
      · refine .inr (.inr ⟨hblank, .inr ?_⟩)
        rcases hedge with ⟨hfalse, -⟩ | hedge
        · cases hfalse
        · simpa using hedge

/-! ## Blocks -/

theorem dropLines_eq (rest : List Char) (lines : List (List Char)) (k : Nat) :
    dropLines rest lines k = rest.drop (ended (lines.take k)).length := by
  induction lines generalizing rest k with
  | nil => cases k <;> simp [dropLines]
  | cons line lines ih =>
    cases k with
    | zero => simp [dropLines]
    | succ k => simp [dropLines, ih, Nat.add_assoc, Nat.add_comm 1]

/-- A line of a text, with the text before it and behind it. -/
theorem exists_around {text line : List Char} {k : Nat}
    (h : (Text.sourceLines text)[k]? = some line) :
    ∃ before after, text = before ++ (line ++ after) ∧ before.length = lineStart text k ∧
      before.count '\n' = k ∧ '\n' ∉ line := by
  obtain ⟨before, after, hlines, hlength⟩ := exists_lines_around h
  refine ⟨ended before, begun after, eq_of_sourceLines hlines, ?_, ?_,
    notMem_of_mem_sourceLines (List.mem_of_getElem? h)⟩
  · rw [lineStart, hlines, List.take_left' hlength]
  · rw [count_ended fun l hl => notMem_of_mem_sourceLines (hlines ▸ List.mem_append_left _ hl)]
    exact hlength

theorem solid_of_sig {line : List Char} (h : classify line = .sig) :
    indentation line < line.length := by
  refine Nat.lt_of_le_of_ne (List.takeWhile_prefix _).length_le fun he => ?_
  -- a line of white space only is no signature
  have hwhole := (List.takeWhile_prefix Text.isBlank).eq_of_length he
  have hblank : Text.trim line = [] := by
    rw [Text.trim_eq_nil_iff, ← hwhole]
    exact List.all_eq_true.1 List.all_takeWhile
  unfold classify at h
  simp only [hblank, List.isEmpty_nil, if_true] at h
  split at h <;> cases h

theorem count_dropLast {block : List Char} (h : ∃ c ∈ block.getLast?, c ≠ '\n') :
    block.dropLast.count '\n' = block.count '\n' := by
  obtain ⟨c, hc, hne⟩ := h
  obtain ⟨lead, rfl⟩ := List.getLast?_eq_some_iff.1 (Option.mem_def.1 hc)
  simp [hne]

/-- The block that stands behind a part of a text. -/
theorem isBlock_behind (lead : List Char) {cs : List Char} (hcs : cs ≠ []) (start : Int) :
    IsBlock ⟨.sig, (sigBlock cs).1, start + lead.count '\n',
      start + lead.count '\n' + (sigBlock cs).2⟩ (lead ++ cs) start lead.length := by
  have hdrop : (lead ++ cs).drop lead.length = cs := List.drop_left
  have hextent : sigExtent (lead ++ cs) lead.length =
      (afterSig cs).map fun rest => (lead ++ cs).length - rest.length := by rw [sigExtent, hdrop]
  refine ⟨?_, ?_, fun stop hstop => ?_, fun hnone => ?_⟩
  · have := List.length_pos_iff.2 hcs
    rw [List.length_append]
    omega
  · rw [lineOf, List.take_left]
  · rw [hextent] at hstop
    obtain ⟨rest, hrest, rfl⟩ := Option.map_eq_some_iff.1 hstop
    obtain ⟨block, rfl, htakes⟩ := afterSig_takes hrest
    have hblock : sigBlock (block ++ rest) = (block, block.count '\n') := by
      simp [sigBlock, hrest]
    have hpos : 0 < block.length := by
      obtain ⟨c, hc, -⟩ := htakes.last
      exact List.length_pos_iff.2 (by rintro rfl; cases hc)
    have hstop : (lead ++ (block ++ rest)).length - rest.length = lead.length + block.length := by
      simp only [List.length_append]
      omega
    have hlead : lead.length + block.length - 1 = lead.length + block.dropLast.length := by
      rw [List.length_dropLast]
      omega
    rw [hstop, hdrop, hblock]
    refine ⟨by omega, by simp only [List.length_append]; omega, ?_, ?_⟩
    · rw [Nat.add_sub_cancel_left, List.take_left]
    · have htake : (lead ++ (block ++ rest)).take (lead.length + block.dropLast.length) =
          lead ++ block.dropLast := by
        rw [List.take_length_add_append, List.take_append_of_le_length (by simp),
          List.length_dropLast, List.dropLast_eq_take]
      rw [lineOf, hlead, htake, List.count_append, count_dropLast htakes.last]
      simp only [Int.natCast_add]
      omega
  · rw [hextent, Option.map_eq_none_iff] at hnone
    rw [hdrop]
    simp [sigBlock, hnone]

/-- A segment that is a signature is the block that starts on its line. -/
theorem isBlock_of_line {text line : List Char} {k : Nat}
    (h : (Text.sourceLines text)[k]? = some line) (hsolid : indentation line < line.length)
    (start : Int) {cs : List Char}
    (hcs : cs = (dropLines text (Text.sourceLines text) k).dropWhile Text.isBlank) :
    IsBlock ⟨.sig, (sigBlock cs).1, start + k, start + k + (sigBlock cs).2⟩ text start
      (lineStart text k + indentation line) := by
  obtain ⟨before, after, htext, hlength, hcount, hnewline⟩ := exists_around h
  have hline := @List.takeWhile_append_dropWhile _ Text.isBlank line
  have hblanks : ∀ c ∈ line.takeWhile Text.isBlank, Text.isBlank c = true :=
    List.all_eq_true.1 List.all_takeWhile
  have hdrop : line.dropWhile Text.isBlank ≠ [] := by
    intro hnil
    rw [hnil, List.append_nil] at hline
    exact absurd (congrArg List.length hline) (Nat.ne_of_lt hsolid)
  obtain rfl : line.dropWhile Text.isBlank ++ after = cs := by
    have hrest : dropLines text (Text.sourceLines text) k = line ++ after := by
      rw [dropLines_eq, ← lineStart, ← hlength, htext, List.drop_left]
    rw [hcs, hrest, List.dropWhile_append, if_neg (by simpa using hdrop)]
  have hbehind := isBlock_behind (before ++ line.takeWhile Text.isBlank)
    (show line.dropWhile Text.isBlank ++ after ≠ [] by simp [hdrop]) start
  have hcount' : (before ++ line.takeWhile Text.isBlank).count '\n' = k := by
    rw [List.count_append, hcount, List.count_eq_zero.2]
    · rfl
    · exact fun hm => hnewline ((List.takeWhile_prefix _).subset hm)
  have htext' : before ++ line.takeWhile Text.isBlank ++ (line.dropWhile Text.isBlank ++ after) =
      text := by
    rw [htext, List.append_assoc, ← List.append_assoc (line.takeWhile _), hline]
  rw [hcount', htext', List.length_append, hlength] at hbehind
  exact hbehind

/-- A segment is the whole line that it starts on, or the block that starts there. -/
theorem mem_segments {text : List Char} {start : Int} {s : Segment} (hs : s ∈ segments text start) :
    s.line ≤ s.lastLine ∧
      ∃ (k : Nat) (line : List Char), (Text.sourceLines text)[k]? = some line ∧
        s.line = start + k ∧ (s.kind ≠ .sig → s.IsLine line (start + k)) ∧
        (s.kind = .sig → indentation line < line.length ∧
          s.IsBlock text start (lineStart text k + indentation line)) := by
  obtain ⟨k, line, edge, hline, hseg⟩ := mem_fromLines (s := {}) hs
  obtain ⟨hfirst, hlast⟩ := lineSegments_last hseg
  refine ⟨by omega, k, line, hline, hfirst, ?_⟩
  rcases mem_lineSegments hseg with ⟨hkind, hwhole, -⟩ | ⟨hclass, -, rfl⟩
  · exact ⟨fun _ => hwhole, fun hsig => absurd hsig hkind⟩
  · have hsolid := solid_of_sig hclass
    exact ⟨fun hkind => absurd rfl hkind,
      fun _ => ⟨hsolid, isBlock_of_line hline hsolid start rfl⟩⟩

/-- **Coverage.** The segments of a text come in order, and none takes a line of another. Each one
is a whole line, with its number, or the signature block from the first character of its line on
that is not blank. A line that no segment takes is white space, and it is the first or the last. -/
theorem segments_cover (text : List Char) (start : Int) :
    (segments text start).Pairwise (fun s t => s.lastLine < t.line) ∧
    (∀ s ∈ segments text start, s.line ≤ s.lastLine ∧
      ∃ (k : Nat) (line : List Char), (Text.sourceLines text)[k]? = some line ∧
        s.line = start + k ∧ (s.kind ≠ .sig → s.IsLine line (start + k)) ∧
        (s.kind = .sig → indentation line < line.length ∧
          s.IsBlock text start (lineStart text k + indentation line))) ∧
    ∀ (k : Nat) (line : List Char), (Text.sourceLines text)[k]? = some line →
      (∀ s ∈ segments text start, ¬ (s.line ≤ start + k ∧ start + k ≤ s.lastLine)) →
        (∀ c ∈ line, Text.isBlank c = true) ∧ (k = 0 ∨ k + 1 = (Text.sourceLines text).length) := by
  refine ⟨(fromLines_apart true {} start text _).2, fun s hs => mem_segments hs,
    fun k line hline hout => ?_⟩
  rcases fromLines_covers true {} start text hline with hskip | ⟨s, hs, hin⟩ | ⟨hblank, hedge⟩
  · cases hskip
  · exact absurd hin (hout s hs)
  · exact ⟨hblank, hedge.imp_left And.right⟩

/-- A comment, an indented block of three lines and code, between two edges. -/
def layeredText : List Char := "\n# note\n  sig \x7b\n    void\n  \x7d\nx = 1\n ".toList

theorem segments_cover_layeredText :
    (segments layeredText 5).map (fun s => (s.kind, s.line, s.lastLine)) =
        [(.comment, 6, 6), (.sig, 7, 9), (.code, 10, 10)] ∧
      (segments layeredText 5).Pairwise (fun s t => s.lastLine < t.line) ∧
      (∃ s ∈ segments layeredText 5, s.kind = .sig ∧ sigExtent layeredText 10 = some 28 ∧
        s.IsBlock layeredText 5 10) ∧
      (Text.sourceLines layeredText)[6]? = some [' '] ∧ (Text.sourceLines layeredText).length = 7 ∧
      ∀ c ∈ [' '], Text.isBlank c = true := by
  obtain ⟨horder, hsegments, hcover⟩ := segments_cover layeredText 5
  have hlines : (segments layeredText 5).map (fun s => (s.kind, s.line, s.lastLine)) =
      [(.comment, 6, 6), (.sig, 7, 9), (.code, 10, 10)] := by decide +kernel
  obtain ⟨s, hs, hkind, hline⟩ : ∃ s ∈ segments layeredText 5, s.kind = .sig ∧ s.line = 7 := by
    decide +kernel
  obtain ⟨-, k, line, hat, hfirst, -, hblock⟩ := hsegments s hs
  obtain rfl : k = 2 := by omega
  obtain rfl : "  sig \x7b".toList = line := by
    have hthird : (Text.sourceLines layeredText)[2]? = some "  sig \x7b".toList := by decide +kernel
    exact Option.some.inj (hthird.symm.trans hat)
  have hstart : lineStart layeredText 2 + indentation "  sig \x7b".toList = 10 := by decide +kernel
  have hlast : (Text.sourceLines layeredText)[6]? = some [' '] := by decide +kernel
  exact ⟨hlines, horder, ⟨s, hs, hkind, by decide +kernel, hstart ▸ (hblock hkind).2⟩, hlast,
    by decide +kernel, (hcover 6 _ hlast (by decide +kernel)).1⟩

end TypeTags.Segment
