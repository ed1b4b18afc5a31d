import TypeTags.Proofs.Outline.Layout
import TypeTags.Proofs.Segment.LineReader

/-!
# Decoding a stretch of a file

A file is cut into stretches at byte offsets, and each stretch is decoded by itself. A byte below
128 is always a character of its own, whatever the reader of UTF-8 was in, so that a text can be
taken apart in front of one; and line feeds are decoded from line feed bytes alone, so that lines
are counted alike in bytes and in characters.

* `Utf8State.Proper`: the states that the reader gets into.

Results:
* `decodeUtf8_append`: the characters of bytes that are put together in front of a byte below 128.
* `count_decodeUtf8`: there are as many line feeds in the characters as in the bytes.
* `Bytes.sigsIn_text`: the signatures on the line of a solid offset, in a stretch that holds it.
-/

namespace TypeTags

namespace Utf8State

/-- A state that the reader gets into: the next byte must be above the ASCII ones, and what the
character adds up to lies above them as well. -/
def Proper : Utf8State → Prop
  | between => True
  | inside needed code low _ =>
    128 ≤ low ∧ (2 ≤ code ∨ (2 ≤ needed ∧ (1 ≤ code ∨ 144 ≤ low)))

theorem proper_between : between.Proper := trivial

theorem step_ascii {s : Utf8State} (hs : s.Proper) {b : Nat} (hb : b < 128) :
    s.step b = (some (Char.ofNat b), between) := by
  have hlead : lead b = (some (Char.ofNat b), between) := by
    unfold lead
    rw [if_pos hb]
  cases s with
  | between => exact hlead
  | inside needed code low high =>
    have hlow := hs.1
    rw [step, if_neg (by omega), hlead]

theorem lead_proper (b : Nat) : (lead b).2.Proper := by
  unfold lead
  grind [Proper]

theorem step_proper {s : Utf8State} (hs : s.Proper) (b : Nat) : (s.step b).2.Proper := by
  cases s with
  | between => exact lead_proper b
  | inside needed code low high =>
    obtain ⟨hlow, hcode⟩ := hs
    rw [step]
    split
    · dsimp only
      split
      · trivial
      · simp only [Proper]
        omega
    · exact lead_proper b

theorem ofNat_ne_newline {n : Nat} (hn : n ≠ 10) : Char.ofNat n ≠ '\n' := by
  intro he
  by_cases hv : n.isValidChar
  · rw [Char.ofNat, dif_pos hv] at he
    exact hn (congrArg Char.toNat he)
  · rw [Char.ofNat, dif_neg hv] at he
    cases congrArg Char.toNat he

/-- A line feed is completed by a line feed byte only. -/
theorem step_newline {s : Utf8State} (hs : s.Proper) {b : Nat} (hb : b ≠ 10) :
    (s.step b).1 ≠ some '\n' := by
  have hlead : (lead b).1 ≠ some '\n' := by
    have hchar := ofNat_ne_newline hb
    unfold lead
    grind
  cases s with
  | between => exact hlead
  | inside needed code low high =>
    obtain ⟨hlow, hcode⟩ := hs
    rw [step]
    split
    · dsimp only
      split
      · have hlarge : code * 64 + (b - 128) ≠ 10 := by omega
        simpa using ofNat_ne_newline hlarge
      · simp
    · exact hlead

/-- Behind a character the reader is between characters. -/
theorem step_some {s : Utf8State} {b : Nat} {c : Char} (h : (s.step b).1 = some c) :
    (s.step b).2 = between := by
  have hlead : (lead b).1 = some c → (lead b).2 = between := by
    unfold lead
    grind
  cases s with
  | between => exact hlead h
  | inside needed code low high =>
    rw [step] at h ⊢
    split
    · rename_i hin
      rw [if_pos hin] at h
      dsimp only at h ⊢
      split
      · rfl
      · rename_i hmore
        rw [if_neg hmore] at h
        cases h
    · rename_i hout
      rw [if_neg hout] at h
      exact hlead h

end Utf8State

theorem decodeUtf8From_cons (s : Utf8State) (b : UInt8) (bytes : List UInt8) :
    decodeUtf8From s (b :: bytes) =
      (s.step b.toNat).1.toList ++ decodeUtf8From (s.step b.toNat).2 bytes := rfl

theorem decodeUtf8From_append {s : Utf8State} (hs : s.Proper) (first : List UInt8) {b : UInt8}
    (hb : b.toNat < 128) (rest : List UInt8) :
    decodeUtf8From s (first ++ b :: rest) = decodeUtf8From s first ++ decodeUtf8 (b :: rest) := by
  induction first generalizing s with
  | nil =>
    rw [List.nil_append, decodeUtf8, decodeUtf8From_cons, decodeUtf8From_cons,
      Utf8State.step_ascii hs hb, Utf8State.step_ascii Utf8State.proper_between hb]
    rfl
  | cons c first ih =>
    rw [List.cons_append, decodeUtf8From_cons, decodeUtf8From_cons,
      ih (Utf8State.step_proper hs _), List.append_assoc]

/-- What is read behind a character is what is decoded from there. -/
theorem exists_of_decodeUtf8From {s : Utf8State} {bytes : List UInt8} {front back : List Char}
    (hfront : front ≠ []) (h : decodeUtf8From s bytes = front ++ back) :
    ∃ first second, bytes = first ++ second ∧ decodeUtf8From s first = front ∧
      decodeUtf8 second = back := by
  induction bytes generalizing s front with
  | nil => simp_all [decodeUtf8From]
  | cons b bytes ih =>
    rw [decodeUtf8From_cons] at h
    cases hstep : (s.step b.toNat).1 with
    | none =>
      rw [hstep, Option.toList_none, List.nil_append] at h
      obtain ⟨first, second, rfl, hfirst, hsecond⟩ := ih hfront h
      refine ⟨b :: first, second, rfl, ?_, hsecond⟩
      rw [decodeUtf8From_cons, hstep, hfirst, Option.toList_none, List.nil_append]
    | some c =>
      have hbetween := Utf8State.step_some hstep
      obtain ⟨d, front, rfl⟩ := List.exists_cons_of_ne_nil hfront
      rw [hstep, hbetween, Option.toList_some, List.singleton_append, List.cons_append,
        List.cons.injEq] at h
      obtain ⟨rfl, h⟩ := h
      have hcons (first : List UInt8) : decodeUtf8From s (b :: first) = c :: decodeUtf8 first := by
        rw [decodeUtf8From_cons, hstep, hbetween]
        rfl
      by_cases hnil : front = []
      · subst hnil
        exact ⟨[b], bytes, rfl, hcons [], h⟩
      · obtain ⟨first, second, rfl, hfirst, hsecond⟩ := ih hnil h
        exact ⟨b :: first, second, rfl, by rw [hcons, decodeUtf8, hfirst], hsecond⟩

theorem exists_of_decodeUtf8 {bytes : List UInt8} {front back : List Char}
    (h : decodeUtf8 bytes = front ++ back) :
    ∃ first second, bytes = first ++ second ∧ decodeUtf8 first = front ∧
      decodeUtf8 second = back := by
  by_cases hnil : front = []
  · subst hnil
    exact ⟨[], bytes, rfl, rfl, h⟩
  · exact exists_of_decodeUtf8From hnil h

theorem decodeUtf8_append (first : List UInt8) {b : UInt8} (hb : b.toNat < 128)
    (rest : List UInt8) :
    decodeUtf8 (first ++ b :: rest) = decodeUtf8 first ++ decodeUtf8 (b :: rest) :=
  decodeUtf8From_append Utf8State.proper_between first hb rest

theorem decodeUtf8_cons {b : UInt8} (hb : b.toNat < 128) (rest : List UInt8) :
    decodeUtf8 (b :: rest) = Char.ofNat b.toNat :: decodeUtf8 rest := by
  rw [decodeUtf8, decodeUtf8From_cons, Utf8State.step_ascii Utf8State.proper_between hb]
  rfl

theorem count_decodeUtf8From {s : Utf8State} (hs : s.Proper) (bytes : List UInt8) :
    (decodeUtf8From s bytes).count '\n' = bytes.count Bytes.lineFeed := by
  induction bytes generalizing s with
  | nil => rfl
  | cons b bytes ih =>
    rw [decodeUtf8From_cons, List.count_append, ih (Utf8State.step_proper hs _), List.count_cons,
      Nat.add_comm]
    congr 1
    by_cases hb : b = Bytes.lineFeed
    · subst hb
      rw [Utf8State.step_ascii hs (by decide)]
      rfl
    · have hne : b.toNat ≠ 10 := fun e => hb (UInt8.toNat_inj.1 e)
      have hchar := Utf8State.step_newline hs hne
      rw [if_neg (by simpa using hb)]
      cases he : (s.step b.toNat).1 with
      | none => rfl
      | some c =>
        rw [he] at hchar
        rw [Option.toList_some, List.count_eq_zero]
        intro hmem
        exact hchar (congrArg some (List.mem_singleton.1 hmem).symm)

theorem count_decodeUtf8 (bytes : List UInt8) :
    (decodeUtf8 bytes).count '\n' = bytes.count Bytes.lineFeed :=
  count_decodeUtf8From Utf8State.proper_between bytes

/-! ## White space -/

theorem blank_ascii {b : UInt8} (h : Bytes.isBlank b = true) :
    b.toNat < 128 ∧ Text.isBlank (Char.ofNat b.toNat) = true := by
  simp only [Bytes.isBlank, Bool.or_eq_true, beq_iff_eq, Bool.and_eq_true, decide_eq_true_eq,
    UInt8.le_iff_toNat_le, UInt8.reduceToNat] at h
  have hcases : b.toNat ∈ [32, 9, 10, 11, 12, 13] := by
    simp only [List.mem_cons, List.not_mem_nil, or_false]
    rcases h with rfl | h
    · exact .inl rfl
    · omega
  revert hcases
  generalize b.toNat = n
  intro hcases
  simp only [List.mem_cons, List.not_mem_nil, or_false] at hcases
  rcases hcases with rfl | rfl | rfl | rfl | rfl | rfl <;> decide

/-- White space in bytes is white space in characters. -/
theorem decodeUtf8_blank {bytes : List UInt8} (h : ∀ b ∈ bytes, Bytes.isBlank b = true) :
    ∀ c ∈ decodeUtf8 bytes, Text.isBlank c = true := by
  induction bytes with
  | nil => simp [decodeUtf8, decodeUtf8From]
  | cons b bytes ih =>
    obtain ⟨hb, hblank⟩ := blank_ascii (h b List.mem_cons_self)
    rw [decodeUtf8_cons hb]
    intro c hc
    rcases List.mem_cons.1 hc with rfl | hc
    · exact hblank
    · exact ih (fun d hd => h d (List.mem_cons_of_mem _ hd)) c hc

/-! ## Stretches -/

namespace Bytes

theorem slice_split (bytes : Bytes) {start middle stop : Nat} (h : start ≤ middle)
    (k : middle ≤ stop) : bytes.slice ⟨start, stop⟩ =
      bytes.slice ⟨start, middle⟩ ++ bytes.slice ⟨middle, stop⟩ := by
  unfold slice
  dsimp only
  rw [show stop - start = (middle - start) + (stop - middle) by omega, List.take_add,
    List.drop_drop, show start + (middle - start) = middle by omega]

/-- A stretch whose text is put together is put together. -/
theorem exists_offset {bytes : Bytes} {start stop : Nat} (hle : start ≤ stop)
    {front back : List Char} (h : decodeUtf8 (bytes.slice ⟨start, stop⟩) = front ++ back) :
    ∃ p, start ≤ p ∧ p ≤ stop ∧ decodeUtf8 (bytes.slice ⟨start, p⟩) = front ∧
      decodeUtf8 (bytes.slice ⟨p, stop⟩) = back := by
  obtain ⟨first, second, hslice, hfront, hback⟩ := exists_of_decodeUtf8 h
  have hlength : first.length ≤ stop - start := by
    have := congrArg List.length hslice
    rw [slice, List.length_take, List.length_append] at this
    dsimp only at this
    omega
  have hfirst : bytes.slice ⟨start, start + first.length⟩ = first := by
    have htake := congrArg (List.take first.length) hslice
    rw [List.take_left, slice, List.take_take, Nat.min_eq_left hlength] at htake
    rw [slice, Nat.add_sub_cancel_left]
    exact htake
  have hsplit := bytes.slice_split (Nat.le_add_right start first.length)
    (show start + first.length ≤ stop by omega)
  rw [hslice, hfirst] at hsplit
  refine ⟨start + first.length, by omega, by omega, by rw [hfirst, hfront], ?_⟩
  rw [← List.append_cancel_left hsplit, hback]

theorem slice_cons {bytes : Bytes} {p stop : Nat} {b : UInt8} (hb : bytes[p]? = some b)
    (h : p < stop) : bytes.slice ⟨p, stop⟩ = b :: bytes.slice ⟨p + 1, stop⟩ := by
  obtain ⟨hlt, rfl⟩ := List.getElem?_eq_some_iff.1 hb
  unfold slice
  dsimp only
  rw [List.drop_eq_getElem_cons hlt, show stop - p = (stop - (p + 1)) + 1 by omega,
    List.take_succ_cons]

theorem slice_eq_drop_take (bytes : Bytes) (start stop : Nat) :
    bytes.slice ⟨start, stop⟩ = (bytes.take stop).drop start := by
  rw [slice, List.drop_take]

/-- Lines are counted through a stretch. -/
theorem lineAt_add (bytes : Bytes) {start stop : Nat} (h : start ≤ stop) :
    bytes.lineAt stop = bytes.lineAt start + (bytes.slice ⟨start, stop⟩).count lineFeed := by
  have hsplit := List.take_append_drop start (bytes.take stop)
  rw [List.take_take, Nat.min_eq_left h, ← slice_eq_drop_take] at hsplit
  unfold lineAt
  rw [← hsplit, List.count_append]
  omega

/-- What is decoded in front of a solid offset ends, on the offset's line, in white space. -/
theorem Solid.unfinished_blank {bytes : Bytes} {p : Nat} (h : bytes.Solid p) (start : Nat) :
    ∀ c ∈ Segment.unfinished (decodeUtf8 (bytes.slice ⟨start, p⟩)), Text.isBlank c = true := by
  rw [slice_eq_drop_take]
  by_cases hline : lineFeed ∈ (bytes.take p).drop start
  · -- the stretch holds the line feed that the offset's line starts behind
    obtain ⟨after, front, hsplit, hafter⟩ :=
      List.eq_append_cons_of_mem (List.mem_reverse.2 hline)
    have hmid : (bytes.take p).drop start = front.reverse ++ lineFeed :: after.reverse := by
      rw [← List.reverse_reverse ((bytes.take p).drop start), hsplit]
      simp
    have hrest : (bytes.take p).drop (start + (front.length + 1)) = after.reverse := by
      rw [← List.drop_drop, hmid, List.drop_append]
      simp
    have hblank : ∀ b ∈ after.reverse, isBlank b = true := by
      rw [← hrest]
      refine h.blank_before ?_
      rw [hrest]
      simpa using hafter
    rw [hmid, decodeUtf8_append _ (by decide), decodeUtf8_cons (by decide),
      show Char.ofNat lineFeed.toNat = '\n' from rfl, Segment.unfinished_append]
    intro c hc
    exact decodeUtf8_blank hblank c (Segment.mem_of_mem_unfinished hc)
  · intro c hc
    exact decodeUtf8_blank (h.blank_before hline) c (Segment.mem_of_mem_unfinished hc)

/-- How many lines a stretch starts before the line of an offset. -/
def linesBefore (bytes : Bytes) (s : Stretch) (p : Nat) : Nat :=
  bytes.lineAt p - bytes.lineAt s.start

/-- **Stretches.** In a stretch that holds a solid offset below 128, there is one signature on the
offset's line, whose text is that of the block at the offset, if the reader meets it; and none if
not. -/
theorem sigsIn_text {bytes : Bytes} {p : Nat} (h : bytes.Solid p) {b : UInt8}
    (hb : bytes[p]? = some b) (hascii : b.toNat < 128)
    (hsolid : Text.isBlank (Char.ofNat b.toNat) = false) {s : Stretch} (hstart : s.start ≤ p)
    (hstop : p < s.stop) :
    (Attribution.sigsIn (bytes.text s) (bytes.lineAt s.start)).filter
        (fun t => t.line = (bytes.lineAt p : Int)) =
      if Segment.opensAt (bytes.text s).toList (bytes.linesBefore s p) then
        [⟨String.ofList (Segment.sigBlock (bytes.text ⟨p, s.stop⟩).toList).1, bytes.lineAt p⟩]
      else [] := by
  have hslice := slice_cons hb hstop
  have htext : bytes.text s = String.ofList
      (decodeUtf8 (bytes.slice ⟨s.start, p⟩) ++ decodeUtf8 (bytes.slice ⟨p, s.stop⟩)) := by
    have hsplit := slice_split bytes hstart (Nat.le_of_lt hstop)
    rw [hslice] at hsplit ⊢
    rw [text, hsplit, decodeUtf8_append _ hascii]
  have hcount : bytes.lineAt p =
      bytes.lineAt s.start + (decodeUtf8 (bytes.slice ⟨s.start, p⟩)).count '\n' := by
    rw [count_decodeUtf8]
    exact lineAt_add bytes hstart
  have hhead : (decodeUtf8 (bytes.slice ⟨p, s.stop⟩)).dropWhile Text.isBlank =
      decodeUtf8 (bytes.slice ⟨p, s.stop⟩) := by
    rw [hslice, decodeUtf8_cons hascii, List.dropWhile_cons_of_neg (by simp [hsolid])]
  have hmain := Segment.sigsIn_at (h.unfinished_blank s.start) hhead (bytes.lineAt s.start)
  rw [linesBefore, htext, String.toList_ofList, text, String.toList_ofList]
  rw [show bytes.lineAt p - bytes.lineAt s.start =
    (decodeUtf8 (bytes.slice ⟨s.start, p⟩)).count '\n' by omega]
  have hcast : ((bytes.lineAt p : Nat) : Int) = (bytes.lineAt s.start : Int) +
      ((decodeUtf8 (bytes.slice ⟨s.start, p⟩)).count '\n' : Nat) := by omega
  rw [hcast]
  exact hmain

end Bytes

end TypeTags
