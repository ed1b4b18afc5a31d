import Mathlib.Data.List.TakeWhile
import TypeTags.Text.Trim

/-!
# Trimmed, squeezed and joined text

Results:
* `trim_eq_nil_iff`: nothing is left of a text if it is white space only.
* `trim_cons`, `trim_solid`: a text that does not start with white space keeps its first character,
  and one that does not end with white space either is kept whole.
* `solid_of_trim`: what trimming leaves alone.
* `newline_notMem_squeeze`: a squeezed text is one line.
* `squeezeFrom_word`, `squeezeFrom_blanks`: squeezing a text part by part.
* `squeeze_oneLine`: a line with solid ends is left as it is.
* `squeeze_length_le`: squeezing adds nothing.
* `forall_mem_intercalate`: what all characters of a joined text have in common.
-/

namespace TypeTags.Text

theorem trimEnd_eq_nil_iff (cs : List Char) : trimEnd cs = [] ↔ ∀ c ∈ cs, isBlank c = true := by
  simp [trimEnd, List.dropWhile_eq_nil_iff]

theorem trim_eq_nil_iff (cs : List Char) : trim cs = [] ↔ ∀ c ∈ cs, isBlank c = true := by
  rw [trim, trimEnd_eq_nil_iff, trimStart]
  constructor
  · intro h c hc
    rw [← @List.takeWhile_append_dropWhile _ isBlank cs, List.mem_append] at hc
    rcases hc with hc | hc
    · exact List.all_eq_true.1 List.all_takeWhile c hc
    · exact h c hc
  · intro h c hc
    exact h c ((List.dropWhile_suffix isBlank).subset hc)

theorem trimEnd_cons {c : Char} (hc : isBlank c = false) (cs : List Char) :
    trimEnd (c :: cs) = c :: trimEnd cs := by
  unfold trimEnd
  rw [List.reverse_cons, List.dropWhile_append]
  split
  · rename_i hempty
    simp [hc, List.isEmpty_iff.1 hempty]
  · simp

/-- What stands before a text of which something is left stays whole. -/
theorem trimEnd_append {cs : List Char} (h : trimEnd cs ≠ []) (lead : List Char) :
    trimEnd (lead ++ cs) = lead ++ trimEnd cs := by
  unfold trimEnd at h ⊢
  rw [List.reverse_append, List.dropWhile_append, if_neg (by simpa using h)]
  simp

/-- A text that does not start with white space keeps its first character. -/
theorem trim_cons {c : Char} (hc : isBlank c = false) (cs : List Char) :
    trim (c :: cs) = c :: trimEnd cs := by
  have hstart : trimStart (c :: cs) = c :: cs := List.dropWhile_cons_of_neg (by simp [hc])
  rw [trim, hstart, trimEnd_cons hc]

/-- White space in front is trimmed. -/
theorem trim_blank_cons {c : Char} (hc : isBlank c = true) (cs : List Char) :
    trim (c :: cs) = trim cs := by
  have hstart : trimStart (c :: cs) = trimStart cs := List.dropWhile_cons_of_pos hc
  rw [trim, hstart, trim]

/-- The text starts and ends with characters that are no white space. -/
structure Solid (cs : List Char) : Prop where
  head : ∀ c ∈ cs.head?, isBlank c = false
  last : ∀ c ∈ cs.getLast?, isBlank c = false

theorem trim_solid {cs : List Char} (h : Solid cs) : trim cs = cs := by
  cases cs with
  | nil => rfl
  | cons c cs =>
    rw [trim_cons (h.head c rfl), ← trimEnd_cons (h.head c rfl), trimEnd]
    obtain ⟨lead, d, hcs⟩ : ∃ lead d, c :: cs = lead ++ [d] :=
      ⟨_, _, (List.dropLast_concat_getLast (List.cons_ne_nil c cs)).symm⟩
    have hd : isBlank d = false := h.last d (by simp [hcs])
    simp [hcs, hd]

theorem trimEnd_length_le (cs : List Char) : (trimEnd cs).length ≤ cs.length := by
  simpa [trimEnd] using (List.dropWhile_suffix (l := cs.reverse) isBlank).length_le

theorem trim_length_le (cs : List Char) : (trim cs).length ≤ cs.length :=
  Nat.le_trans (trimEnd_length_le _) (List.dropWhile_suffix _).length_le

/-- A text that trimming leaves alone has solid ends. -/
theorem solid_of_trim {cs : List Char} (h : trim cs = cs) : Solid cs := by
  cases cs with
  | nil => exact ⟨nofun, nofun⟩
  | cons c cs =>
    have hc : isBlank c = false := by
      cases hb : isBlank c with
      | false => rfl
      | true =>
        have hlen := trim_length_le cs
        rw [← trim_blank_cons hb, h, List.length_cons] at hlen
        omega
    refine ⟨?_, fun d hd => ?_⟩
    · rintro _ ⟨⟩
      exact hc
    · rw [trim_cons hc, ← trimEnd_cons hc] at h
      obtain ⟨lead, hlead⟩ := List.getLast?_eq_some_iff.1 hd
      cases hb : isBlank d with
      | false => rfl
      | true =>
        -- the last character would be trimmed
        have hshort : trimEnd (lead ++ [d]) = trimEnd lead := by simp [trimEnd, hb]
        have hlen := trimEnd_length_le lead
        rw [← hshort, ← hlead, h, hlead, List.length_append, List.length_singleton] at hlen
        omega

/-! ## Squeezing -/

theorem newline_notMem_squeezeRun (run : List Char) : '\n' ∉ squeezeRun run := by
  unfold squeezeRun
  split
  · decide
  · assumption

theorem newline_notMem_squeezeFrom (run cs : List Char) : '\n' ∉ squeezeFrom run cs := by
  induction cs generalizing run with
  | nil => exact newline_notMem_squeezeRun run
  | cons c cs ih =>
    rw [squeezeFrom]
    split
    · exact ih _
    · rename_i hc
      have hne : '\n' ≠ c := by
        rintro rfl
        exact hc rfl
      simp [newline_notMem_squeezeRun, hne, ih]

theorem newline_notMem_squeeze (cs : List Char) : '\n' ∉ squeeze cs :=
  newline_notMem_squeezeFrom [] _

@[simp] theorem squeezeRun_nil : squeezeRun [] = [] := rfl

theorem squeezeRun_oneLine {run : List Char} (h : '\n' ∉ run) : squeezeRun run = run := if_neg h

/-- A text of one line is left as it is. -/
theorem squeezeFrom_oneLine {run cs : List Char} (h : '\n' ∉ run ++ cs) :
    squeezeFrom run cs = run ++ cs := by
  induction cs generalizing run with
  | nil => simpa [squeezeFrom] using squeezeRun_oneLine (by simpa using h)
  | cons c cs ih =>
    rw [squeezeFrom]
    split
    · rw [ih (by simpa using h)]
      simp
    · rw [squeezeRun_oneLine fun hm => h (by simp [hm]), ih fun hm => h (by simp_all)]
      rfl

theorem squeezeFrom_blanks {blanks : List Char} (h : ∀ c ∈ blanks, isBlank c = true)
    (run cs : List Char) : squeezeFrom run (blanks ++ cs) = squeezeFrom (run ++ blanks) cs := by
  induction blanks generalizing run with
  | nil => simp
  | cons c blanks ih =>
    obtain ⟨hc, hblanks⟩ := List.forall_mem_cons.1 h
    rw [List.cons_append, squeezeFrom, if_pos hc, ih hblanks, List.append_assoc]
    rfl

theorem squeezeFrom_cons {c : Char} (hc : isBlank c = false) (run cs : List Char) :
    squeezeFrom run (c :: cs) = squeezeRun run ++ c :: squeezeFrom [] cs := by
  rw [squeezeFrom, if_neg (by simp [hc])]

/-- A word behind a run of white space. -/
theorem squeezeFrom_word {c : Char} {word : List Char} (h : ∀ d ∈ c :: word, isBlank d = false)
    (run cs : List Char) :
    squeezeFrom run (c :: (word ++ cs)) = squeezeRun run ++ (c :: word ++ squeezeFrom [] cs) := by
  induction word generalizing run c with
  | nil => exact squeezeFrom_cons (h c List.mem_cons_self) run cs
  | cons d word ih =>
    obtain ⟨hc, hword⟩ := List.forall_mem_cons.1 h
    rw [squeezeFrom_cons hc, List.cons_append, ih hword]
    rfl

theorem squeezeRun_blank {run : List Char} (h : ∀ c ∈ run, isBlank c = true) :
    ∀ c ∈ squeezeRun run, isBlank c = true := by
  unfold squeezeRun
  split
  · simp [show isBlank ' ' = true by decide]
  · exact h

theorem squeezeRun_eq_nil {run : List Char} : squeezeRun run = [] ↔ run = [] := by
  unfold squeezeRun
  split
  · rename_i hm
    exact ⟨nofun, by rintro rfl; cases hm⟩
  · exact Iff.rfl

theorem squeezeRun_length_le (run : List Char) : (squeezeRun run).length ≤ run.length := by
  unfold squeezeRun
  split
  · exact List.length_pos_of_mem ‹_›
  · exact Nat.le_refl _

theorem squeezeFrom_length_le (run cs : List Char) :
    (squeezeFrom run cs).length ≤ run.length + cs.length := by
  induction cs generalizing run with
  | nil => exact squeezeRun_length_le run
  | cons c cs ih =>
    rw [squeezeFrom]
    split
    · have := ih (run ++ [c])
      simp only [List.length_append, List.length_cons, List.length_nil] at this ⊢
      omega
    · have := ih []
      have := squeezeRun_length_le run
      simp only [List.length_append, List.length_cons, List.length_nil] at *
      omega

theorem squeeze_length_le (cs : List Char) : (squeeze cs).length ≤ cs.length := by
  refine Nat.le_trans (squeezeFrom_length_le [] (trim cs)) ?_
  simpa using trim_length_le cs

theorem squeeze_solid {c : Char} (hc : isBlank c = false) (cs : List Char) :
    squeeze (c :: cs) ≠ [] := by
  simp [squeeze, trim_cons hc, squeezeFrom, hc]

theorem squeeze_oneLine {cs : List Char} (h : Solid cs) (hline : '\n' ∉ cs) :
    squeeze cs = cs := by
  rw [squeeze, trim_solid h]
  exact squeezeFrom_oneLine hline

/-! ## Joined texts -/

/-- What holds of all characters of the parts and of the separator holds of those of the text. -/
theorem forall_mem_intercalate {P : Char → Prop} {sep : String} (hsep : ∀ c ∈ sep.toList, P c)
    {parts : List String} (h : ∀ part ∈ parts, ∀ c ∈ part.toList, P c) :
    ∀ c ∈ (String.intercalate sep parts).toList, P c := by
  induction parts with
  | nil => simp
  | cons part parts ih =>
    obtain ⟨hpart, hparts⟩ := List.forall_mem_cons.1 h
    cases parts with
    | nil => simpa using hpart
    | cons next parts =>
      rw [String.intercalate_cons_cons, String.toList_append, String.toList_append]
      refine List.forall_mem_append.2 ⟨List.forall_mem_append.2 ⟨hpart, hsep⟩, ?_⟩
      exact ih hparts

end TypeTags.Text
