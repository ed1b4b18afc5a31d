import Mathlib.Data.List.Basic
import TypeTags.Proofs.Docstring.FreeText
import TypeTags.Proofs.Token.Cutting

/-!
# Where the lines of a comment end up

What is open when a line is read depends on one line only: the last one, up to it, that is not
indented. That line leads all indented lines behind it, and they go where it goes. So the place of a
line can be told without reading the comment from its start, and comments that are put together keep
their tags as long as each of them starts with a line that is not indented.

Results:
* `openedBefore_cases`: what is open behind a line is what the line that leads it opens.
* `existsUnique_place`: each line ends up in one place.
* `gather_roles`: a tag and the indented lines behind it.
* `parse_runs_places`: the tags of comments that are put together, and the text and the tags of a
  comment by the places of its lines.
-/

namespace TypeTags.Docstring

/-! ## Places -/

/-- Where a line of a comment ends up. -/
inductive Place where
  /-- It opens a tag. -/
  | opens
  /-- It goes on with the text of the tag that the given line opens. -/
  | continues (opening : Nat)
  /-- It belongs to a directive. -/
  | dropped
  /-- It is free text. -/
  | free
  deriving DecidableEq, Repr

section Places

variable (lines : List (List Char))

def OpensTag (i : Nat) : Prop := ∃ line ∈ lines[i]?, (tagLine? line).isSome = true

def StartsDirective (i : Nat) : Prop := ∃ line ∈ lines[i]?, isDirective line = true

/-- Line `j` is not indented, and all lines behind it up to line `i` are. -/
def Leads (j i : Nat) : Prop :=
  j ≤ i ∧ (∃ line ∈ lines[j]?, isIndented line = false) ∧
    ∀ k ≤ i, j < k → ∀ line ∈ lines[k]?, isIndented line = true

/-- Where line `i` ends up. -/
def EndsUp (i : Nat) : Place → Prop
  | .opens => OpensTag lines i
  | .continues j => j < i ∧ Leads lines j i ∧ OpensTag lines j
  | .dropped => ∃ j ≤ i, Leads lines j i ∧ StartsDirective lines j
  | .free => ∀ j ≤ i, Leads lines j i → ¬ OpensTag lines j ∧ ¬ StartsDirective lines j

instance (i : Nat) : Decidable (OpensTag lines i) :=
  inferInstanceAs (Decidable (∃ line ∈ lines[i]?, _))

instance (i : Nat) : Decidable (StartsDirective lines i) :=
  inferInstanceAs (Decidable (∃ line ∈ lines[i]?, _))

instance (j i : Nat) : Decidable (Leads lines j i) := inferInstanceAs (Decidable (_ ∧ _ ∧ _))

instance (i : Nat) : (place : Place) → Decidable (EndsUp lines i place)
  | .opens => inferInstanceAs (Decidable (OpensTag lines i))
  | .continues j => inferInstanceAs (Decidable (j < i ∧ Leads lines j i ∧ OpensTag lines j))
  | .dropped => inferInstanceAs (Decidable (∃ j ≤ i, Leads lines j i ∧ StartsDirective lines j))
  | .free => inferInstanceAs (Decidable
      (∀ j ≤ i, Leads lines j i → ¬ OpensTag lines j ∧ ¬ StartsDirective lines j))

/-- The lines that end up in a place, in order. -/
def linesAt (place : Place) : List (List Char) :=
  (List.range lines.length).filterMap fun i => if EndsUp lines i place then lines[i]? else none

end Places

/-- The tag with more lines of description. -/
def extendBy (tag : Tag) (lines : List (List Char)) : Tag :=
  lines.foldl (fun tag line => tag.extend (String.ofList (Text.trim line))) tag

/-! ## One line -/

theorem tagLine?_directive {line : List Char} (h : isDirective line = true) :
    tagLine? line = none := by
  unfold isDirective at h
  split at h
  · rfl
  · cases h

theorem isIndented_plain {line : List Char} (h : isIndented line = true) :
    isDirective line = false ∧ tagLine? line = none := by
  have hhead : line.head? ≠ some '@' := by
    intro hat
    simp [isIndented, hat] at h
  unfold isDirective tagLine?
  split <;> split <;> simp_all

/-- An indented line goes where the lines before it go. -/
theorem roleOf_indented {line : List Char} (h : isIndented line = true) (opened : Opened) :
    roleOf opened line = match opened with
      | .tag => (.continues (String.ofList (Text.trim line)), .tag)
      | .directive => (.dropped, .directive)
      | .nothing => (.free line, .nothing) := by
  obtain ⟨hdirective, htag⟩ := isIndented_plain h
  cases opened <;> simp [roleOf, hdirective, htag, h]

/-- Any other line is read without what is open. -/
theorem roleOf_flush {line : List Char} (h : isIndented line = false) (opened : Opened) :
    roleOf opened line =
      if isDirective line then (.dropped, .directive)
      else match tagLine? line with
        | some tag => (.opens tag, .tag)
        | none => (.free line, .nothing) := by
  unfold roleOf
  split
  · rfl
  · cases tagLine? line with
    | none => simp [h]
    | some tag => rfl

theorem snd_roleOf_indented {line : List Char} (h : isIndented line = true) (opened : Opened) :
    (roleOf opened line).2 = opened := by
  rw [roleOf_indented h]
  cases opened <;> rfl

/-- What a line opens that is not indented. -/
def opening (line : List Char) : Opened :=
  if isDirective line then .directive
  else if (tagLine? line).isSome then .tag
  else .nothing

theorem snd_roleOf_flush {line : List Char} (h : isIndented line = false) (opened : Opened) :
    (roleOf opened line).2 = opening line := by
  rw [roleOf_flush h, opening]
  split
  · rfl
  · cases tagLine? line <;> rfl

theorem opening_eq_nothing {line : List Char} :
    opening line = .nothing ↔ isDirective line = false ∧ (tagLine? line).isSome = false := by
  unfold opening
  cases isDirective line <;> cases (tagLine? line).isSome <;> simp

/-- A line is free text if nothing is open behind it. -/
theorem freeLines_roleOf (opened : Opened) (line : List Char) :
    freeLines [(roleOf opened line).1] =
      if (roleOf opened line).2 = .nothing then [line] else [] := by
  cases h : isIndented line with
  | true =>
    rw [roleOf_indented h]
    cases opened <;> rfl
  | false =>
    rw [roleOf_flush h]
    split
    · rfl
    · cases tagLine? line <;> rfl

/-! ## The line that leads -/

/-- What is open in front of line `i`. -/
def openedBefore (lines : List (List Char)) (i : Nat) : Opened :=
  openedAfter .nothing (lines.take i)

theorem openedAfter_append (opened : Opened) (lines more : List (List Char)) :
    openedAfter opened (lines ++ more) = openedAfter (openedAfter opened lines) more :=
  List.foldl_append

section Leads

variable {lines : List (List Char)} {i j : Nat} {line : List Char}

theorem openedBefore_succ (h : lines[i]? = some line) :
    openedBefore lines (i + 1) = (roleOf (openedBefore lines i) line).2 := by
  rw [openedBefore, List.take_add_one, h, openedAfter_append]
  rfl

/-- A line that is not indented leads itself, and no other line leads it. -/
theorem leads_flush (hl : lines[i]? = some line) (h : isIndented line = false) :
    Leads lines j i ↔ j = i := by
  constructor
  · rintro ⟨hle, -, hindented⟩
    by_contra hne
    have := hindented i (Nat.le_refl i) (by omega) line hl
    simp [h] at this
  · rintro rfl
    exact ⟨Nat.le_refl _, ⟨line, hl, h⟩, fun k hk hlt => by omega⟩

/-- An indented line is led by the line that leads the one before it. -/
theorem leads_indented (hl : lines[i + 1]? = some line) (h : isIndented line = true) :
    Leads lines j (i + 1) ↔ Leads lines j i := by
  constructor
  · rintro ⟨hle, hflush, hindented⟩
    have hne : j ≠ i + 1 := by
      rintro rfl
      obtain ⟨line', hl', hflush⟩ := hflush
      rw [Option.mem_def, hl, Option.some.injEq] at hl'
      simp [← hl', h] at hflush
    exact ⟨by omega, hflush, fun k hk => hindented k (by omega)⟩
  · rintro ⟨hle, hflush, hindented⟩
    refine ⟨by omega, hflush, fun k hk hlt => ?_⟩
    by_cases hki : k = i + 1
    · subst hki
      simpa [hl] using h
    · exact hindented k (by omega) hlt

theorem not_leads_first (hl : lines[0]? = some line) (h : isIndented line = true) :
    ¬ Leads lines j 0 := by
  rintro ⟨hle, ⟨line', hl', hflush⟩, -⟩
  obtain rfl : j = 0 := by omega
  rw [Option.mem_def, hl, Option.some.injEq] at hl'
  simp [← hl', h] at hflush

/-- **What is open.** Behind a line that another leads, what the other one opens is open. Behind a
line that none leads nothing is. -/
theorem openedBefore_cases (hi : i < lines.length) :
    (∃ j line, lines[j]? = some line ∧ (∀ k, Leads lines k i ↔ k = j) ∧
      openedBefore lines (i + 1) = opening line) ∨
    (∀ k, ¬ Leads lines k i) ∧ openedBefore lines (i + 1) = .nothing := by
  -- an indented line keeps what is open, and the line that leads the one before it leads it too
  induction i with
  | zero =>
    have hl : lines[0]? = some lines[0] := List.getElem?_eq_getElem hi
    rw [openedBefore_succ hl]
    cases h : isIndented lines[0] with
    | false => exact .inl ⟨0, _, hl, fun k => leads_flush hl h, snd_roleOf_flush h _⟩
    | true => exact .inr ⟨fun k => not_leads_first hl h, snd_roleOf_indented h _⟩
  | succ i ih =>
    have hl : lines[i + 1]? = some lines[i + 1] := List.getElem?_eq_getElem hi
    rw [openedBefore_succ hl]
    cases h : isIndented lines[i + 1] with
    | false => exact .inl ⟨i + 1, _, hl, fun k => leads_flush hl h, snd_roleOf_flush h _⟩
    | true =>
      rw [snd_roleOf_indented h]
      simpa only [leads_indented hl h] using ih (by omega)

/-! ## One place for each line -/

theorem opensTag_iff (hl : lines[j]? = some line) :
    OpensTag lines j ↔ (tagLine? line).isSome = true := by simp [OpensTag, hl]

theorem startsDirective_iff (hl : lines[j]? = some line) :
    StartsDirective lines j ↔ isDirective line = true := by simp [StartsDirective, hl]

theorem OpensTag.not_directive (h : OpensTag lines i) : ¬ StartsDirective lines i := by
  obtain ⟨line, hl, htag⟩ := h
  rw [startsDirective_iff hl]
  intro hdirective
  simp [tagLine?_directive hdirective] at htag

/-- A line that opens a tag leads itself. -/
theorem OpensTag.leads (h : OpensTag lines i) : Leads lines i i := by
  obtain ⟨line, hl, htag⟩ := h
  refine (leads_flush hl ?_).2 rfl
  by_contra hindented
  simp [(isIndented_plain (by simpa using hindented)).2] at htag

section Led

variable (h : ∀ k, Leads lines k i ↔ k = j)

include h

theorem endsUp_opens_iff : EndsUp lines i .opens ↔ j = i ∧ OpensTag lines j := by
  constructor
  · intro ht
    obtain rfl := (h i).1 (OpensTag.leads ht)
    exact ⟨rfl, ht⟩
  · rintro ⟨rfl, ht⟩
    exact ht

theorem endsUp_continues_iff (k : Nat) :
    EndsUp lines i (.continues k) ↔ k = j ∧ j < i ∧ OpensTag lines j := by
  simp only [EndsUp, h]
  constructor
  · rintro ⟨hlt, rfl, ht⟩
    exact ⟨rfl, hlt, ht⟩
  · rintro ⟨rfl, hlt, ht⟩
    exact ⟨hlt, rfl, ht⟩

theorem endsUp_dropped_iff : EndsUp lines i .dropped ↔ StartsDirective lines j := by
  have hle : j ≤ i := ((h j).2 rfl).1
  simp only [EndsUp, h]
  constructor
  · rintro ⟨k, -, rfl, hd⟩
    exact hd
  · exact fun hd => ⟨j, hle, rfl, hd⟩

theorem endsUp_free_iff :
    EndsUp lines i .free ↔ ¬ OpensTag lines j ∧ ¬ StartsDirective lines j := by
  have hle : j ≤ i := ((h j).2 rfl).1
  simp only [EndsUp, h]
  constructor
  · exact fun hfree => hfree j hle rfl
  · rintro hfree k - rfl
    exact hfree

/-- A line goes where the line goes that leads it. -/
theorem endsUp_led (place : Place) :
    EndsUp lines i place ↔ place =
      if StartsDirective lines j then .dropped
      else if OpensTag lines j then if j = i then .opens else .continues j
      else .free := by
  have hlt : j < i ↔ j ≠ i := by
    have hle : j ≤ i := ((h j).2 rfl).1
    omega
  have hnot : OpensTag lines j → ¬ StartsDirective lines j := OpensTag.not_directive
  cases place with
  | opens =>
    rw [endsUp_opens_iff h]
    split_ifs <;> simp_all
  | continues k =>
    rw [endsUp_continues_iff h]
    split_ifs <;> simp_all
  | dropped =>
    rw [endsUp_dropped_iff h]
    split_ifs <;> simp_all
  | free =>
    rw [endsUp_free_iff h]
    split_ifs <;> simp_all

end Led

/-- A line that no other one leads is free text. -/
theorem endsUp_unled (h : ∀ k, ¬ Leads lines k i) (place : Place) :
    EndsUp lines i place ↔ place = .free := by
  cases place with
  | opens => simpa [EndsUp] using fun ht : OpensTag lines i => h i ht.leads
  | continues k => simp [EndsUp, h]
  | dropped => simp [EndsUp, h]
  | free => simp [EndsUp, h]

theorem existsUnique_place (hi : i < lines.length) : ∃! place, EndsUp lines i place := by
  rcases openedBefore_cases hi with ⟨j, line, -, hlead, -⟩ | ⟨hlead, -⟩
  · exact ⟨_, (endsUp_led hlead _).2 rfl, fun _ => (endsUp_led hlead _).1⟩
  · exact ⟨_, (endsUp_unled hlead _).2 rfl, fun _ => (endsUp_unled hlead _).1⟩

/-! ## Free text -/

theorem endsUp_free_iff_opened (hi : i < lines.length) :
    EndsUp lines i .free ↔ openedBefore lines (i + 1) = .nothing := by
  rcases openedBefore_cases hi with ⟨j, line, hl, hlead, hopened⟩ | ⟨hlead, hopened⟩
  · rw [endsUp_free_iff hlead, hopened, opening_eq_nothing, startsDirective_iff hl, opensTag_iff hl,
      Bool.not_eq_true, Bool.not_eq_true, and_comm]
  · simp [endsUp_unled hlead, hopened]

end Leads

/-- The free lines are those behind which nothing is open. -/
theorem freeLines_roles (opened : Opened) (lines : List (List Char)) :
    freeLines (roles opened lines) = (List.range lines.length).filterMap fun i =>
      if openedAfter opened (lines.take (i + 1)) = .nothing then lines[i]? else none := by
  induction lines generalizing opened with
  | nil => rfl
  | cons line lines ih =>
    have hsplit : freeLines (roles opened (line :: lines)) =
        freeLines [(roleOf opened line).1] ++ freeLines (roles (roleOf opened line).2 lines) :=
      List.filterMap_append (l := [(roleOf opened line).1])
    rw [hsplit, freeLines_roleOf, ih, List.length_cons, List.range_succ_eq_map,
      List.filterMap_cons, List.filterMap_map]
    have hfirst : openedAfter opened ((line :: lines).take (0 + 1)) = (roleOf opened line).2 := rfl
    rw [hfirst]
    split <;> rfl

theorem freeLines_eq (lines : List (List Char)) :
    freeLines (roles .nothing lines) = linesAt lines .free := by
  rw [freeLines_roles]
  refine List.filterMap_congr fun i hi => ?_
  simp only [endsUp_free_iff_opened (List.mem_range.1 hi)]
  rfl

/-! ## Tags -/

/-- The tags that lines open, each with the indented lines behind it. -/
def tagsOf : List (List Char) → List Tag
  | [] => []
  | line :: lines =>
    ((tagLine? line).map (extendBy · (lines.takeWhile isIndented))).toList ++ tagsOf lines

/-- The tag that is still open goes on with the indented lines in front. -/
theorem gather_roles {current : Option Tag} {opened : Opened}
    (h : current.isSome = true ↔ opened = .tag) (lines : List (List Char)) :
    gather current (roles opened lines) =
      (current.map (extendBy · (lines.takeWhile isIndented))).toList ++ tagsOf lines := by
  induction lines generalizing current opened with
  | nil => cases current <;> rfl
  | cons line lines ih =>
    cases hi : isIndented line with
    | true =>
      rw [roles, roleOf_indented hi, tagsOf, (isIndented_plain hi).2,
        List.takeWhile_cons_of_pos hi]
      cases current with
      | some tag =>
        obtain rfl : opened = .tag := h.1 rfl
        exact ih (by simp)
      | none =>
        cases opened with
        | tag => cases h.2 rfl
        | directive => exact ih (by simp)
        | nothing => exact ih (by simp)
    | false =>
      have hnone : (line :: lines).takeWhile isIndented = [] :=
        List.takeWhile_cons_of_neg (by simp [hi])
      have hcurrent : (current.map (extendBy · [])).toList = current.toList := by
        cases current <;> rfl
      rw [roles, roleOf_flush hi, tagsOf, hnone, hcurrent]
      cases hd : isDirective line with
      | true =>
        rw [tagLine?_directive hd]
        exact congrArg _ (ih (by simp))
      | false =>
        cases tagLine? line with
        | none => exact congrArg _ (ih (by simp))
        | some tag => exact congrArg _ (ih (by simp))

theorem parse_tags (comment : List Char) :
    (parse comment).tags = tagsOf (Text.breakLines comment) :=
  gather_roles (by simp) _

/-- The tags of lines, by the numbers of the lines that open them. -/
theorem tagsOf_eq (lines : List (List Char)) :
    tagsOf lines = (List.range lines.length).filterMap fun i =>
      (lines[i]?.bind tagLine?).map (extendBy · ((lines.drop (i + 1)).takeWhile isIndented)) := by
  induction lines with
  | nil => rfl
  | cons line lines ih =>
    rw [tagsOf, ih, List.length_cons, List.range_succ_eq_map, List.filterMap_cons,
      List.filterMap_map]
    have hfirst : (line :: lines)[0]?.bind tagLine? = tagLine? line := rfl
    rw [hfirst]
    cases tagLine? line <;> rfl

/-- The first elements with a property, by their numbers. -/
theorem takeWhile_eq_filterMap {α : Type} (p : α → Bool) (xs : List α) :
    xs.takeWhile p = (List.range xs.length).filterMap fun i =>
      if ∀ k ≤ i, ∀ x ∈ xs[k]?, p x = true then xs[i]? else none := by
  induction xs with
  | nil => rfl
  | cons x xs ih =>
    have hfirst : (∀ k ≤ 0, ∀ y ∈ (x :: xs)[k]?, p y = true) ↔ p x = true := by simp
    have hmore (i : Nat) : (∀ k ≤ i + 1, ∀ y ∈ (x :: xs)[k]?, p y = true) ↔
        p x = true ∧ ∀ k ≤ i, ∀ y ∈ xs[k]?, p y = true := by
      constructor
      · intro h
        exact ⟨h 0 (Nat.zero_le _) x rfl, fun k hk => h (k + 1) (Nat.succ_le_succ hk)⟩
      · rintro ⟨hx, hxs⟩ k hk
        cases k with
        | zero => simpa using hx
        | succ k => exact hxs k (Nat.le_of_succ_le_succ hk)
    rw [List.length_cons, List.range_succ_eq_map, List.filterMap_cons, List.filterMap_map]
    simp only [hfirst, Function.comp_def, Nat.succ_eq_add_one, hmore, List.takeWhile_cons]
    cases p x with
    | true => simp [ih]
    | false => simp

/-- The lines that go on with a tag are the indented ones right behind it. -/
theorem linesAt_continues {lines : List (List Char)} {i : Nat} (h : OpensTag lines i) :
    linesAt lines (.continues i) = (lines.drop (i + 1)).takeWhile isIndented := by
  have hi : i < lines.length := by
    obtain ⟨line, hl, -⟩ := h
    exact (List.getElem?_eq_some_iff.1 hl).1
  have hbefore : ∀ k ∈ List.range (i + 1), ¬ EndsUp lines k (.continues i) := by
    rintro k hk ⟨hlt, -⟩
    exact absurd (List.mem_range.1 hk) (by omega)
  have hbehind (k : Nat) : EndsUp lines (i + 1 + k) (.continues i) ↔
      ∀ m ≤ k, ∀ line ∈ (lines.drop (i + 1))[m]?, isIndented line = true := by
    simp only [List.getElem?_drop]
    constructor
    · rintro ⟨-, ⟨-, -, hindented⟩, -⟩ m hm
      exact hindented (i + 1 + m) (by omega) (by omega)
    · intro hindented
      refine ⟨by omega, ⟨by omega, h.leads.2.1, fun m hm hlt line hl => ?_⟩, h⟩
      obtain ⟨m, rfl⟩ : ∃ m', m = i + 1 + m' := ⟨m - (i + 1), by omega⟩
      exact hindented m (by omega) line hl
  obtain ⟨n, hn⟩ : ∃ n, lines.length = i + 1 + n := ⟨lines.length - (i + 1), by omega⟩
  have hlen : (lines.drop (i + 1)).length = n := by simp [hn]
  rw [linesAt, hn, List.range_add, List.filterMap_append, List.filterMap_map,
    takeWhile_eq_filterMap, hlen]
  have hnone : (List.range (i + 1)).filterMap
      (fun k => if EndsUp lines k (.continues i) then lines[k]? else none) = [] :=
    List.filterMap_eq_nil_iff.2 fun k hk => if_neg (hbefore k hk)
  rw [hnone, List.nil_append]
  refine List.filterMap_congr fun k _ => ?_
  simp only [Function.comp_def, hbehind, List.getElem?_drop]

/-! ## Comments that are put together -/

theorem tagsOf_append {more : List (List Char)}
    (h : ∀ line ∈ more.head?, isIndented line = false) (lines : List (List Char)) :
    tagsOf (lines ++ more) = tagsOf lines ++ tagsOf more := by
  induction lines with
  | nil => rfl
  | cons line lines ih =>
    rw [List.cons_append, tagsOf, tagsOf, ih, takeWhile_append_stop h, List.append_assoc]

theorem tagsOf_endedLines (s : String) :
    tagsOf (endedLines s) = tagsOf (Text.breakLines s.toList) := by
  unfold endedLines
  rcases (breakLines_ended s.toList).1 with h | h
  · rw [h]
  · rw [h, tagsOf_append (by rintro _ ⟨⟩; rfl)]
    exact List.append_nil _

/-- The comment does not start with an indented line. -/
def StartsFlush (run : String) : Prop :=
  ∀ line ∈ (Text.breakLines run.toList).head?, isIndented line = false

theorem StartsFlush.endedLines {run : String} (h : StartsFlush run) (more : List (List Char)) :
    ∀ line ∈ (Docstring.endedLines run ++ more).head?, isIndented line = false := by
  unfold StartsFlush at h
  have hended := (breakLines_ended run.toList).1
  have hne : Docstring.endedLines run ≠ [] := breakLines_ne_nil (by simp)
  unfold Docstring.endedLines at hne ⊢
  generalize Text.breakLines run.toList = lines at h hended
  rw [List.head?_append_of_ne_nil _ hne]
  rcases hended with hended | hended
  · rwa [hended]
  · rw [hended]
    cases lines with
    | nil =>
      rintro _ ⟨⟩
      rfl
    | cons first others => exact h

theorem tagsOf_flatMap (lines : List (List Char)) {runs : List String}
    (h : ∀ run ∈ runs, StartsFlush run) :
    tagsOf (lines ++ runs.flatMap endedLines) =
      tagsOf lines ++ runs.flatMap fun run => (parse run.toList).tags := by
  -- the lines of each comment are in front of the next one, whatever stands before them
  induction runs generalizing lines with
  | nil => rw [List.flatMap_nil, List.flatMap_nil, List.append_nil, List.append_nil]
  | cons run runs ih =>
    obtain ⟨hrun, hruns⟩ := List.forall_mem_cons.1 h
    rw [List.flatMap_cons, tagsOf_append (hrun.endedLines _), ih _ hruns, tagsOf_endedLines,
      ← parse_tags]
    rfl

/-- **Runs of comments.** Tags do not reach from one comment into the next. -/
theorem parse_joinRun_tags {runs : List String} (h : ∀ run ∈ runs.tail, StartsFlush run) :
    (parse (Attribution.joinRun runs).toList).tags =
      runs.flatMap fun run => (parse run.toList).tags := by
  cases runs with
  | nil => decide
  | cons first others =>
    have hall := tagsOf_flatMap (endedLines first) h
    rw [tagsOf_endedLines, ← parse_tags] at hall
    rw [parse_tags, ← tagsOf_endedLines, endedLines_joinRun]
    exact hall

/-! ## Main results -/

/-- The text and the tags are what the lines end up as. -/
structure MadeOf (doc : Docstring) (lines : List (List Char)) : Prop where
  place : ∀ i < lines.length, ∃! place, EndsUp lines i place
  text : doc.text = String.ofList (Text.trim (joinLines (linesAt lines .free)))
  /-- Each line that opens a tag does so together with the lines that go on with it. -/
  tags : doc.tags = (List.range lines.length).filterMap fun i =>
    (lines[i]?.bind tagLine?).map (extendBy · (linesAt lines (.continues i)))

theorem parse_madeOf (comment : List Char) :
    (parse comment).MadeOf (Text.breakLines comment) := by
  refine ⟨fun i => existsUnique_place, ?_, ?_⟩
  · rw [← freeLines_eq]
    rfl
  · rw [parse_tags, tagsOf_eq]
    refine List.filterMap_congr fun i _ => ?_
    cases htag : (Text.breakLines comment)[i]?.bind tagLine? with
    | none => rfl
    | some tag =>
      obtain ⟨line, hl, ht⟩ := Option.bind_eq_some_iff.1 htag
      rw [linesAt_continues ⟨line, hl, by simp [ht]⟩]

/-- **Runs and places.** Comments that are put together have the tags of each of them, in order, if
none but the first starts with an indented line. In every comment each line ends up in one place,
and the places make its text and its tags. -/
theorem parse_runs_places :
    (∀ runs : List String, (∀ run ∈ runs.tail, StartsFlush run) →
      (parse (Attribution.joinRun runs).toList).tags =
        runs.flatMap fun run => (parse run.toList).tags) ∧
    ∀ comment, (parse comment).MadeOf (Text.breakLines comment) :=
  ⟨fun _ => parse_joinRun_tags, parse_madeOf⟩

/-- A tag that is open at the end, a directive that is, and a tag behind them. -/
def threeRuns : List String :=
  ["@param x [A]\n  more", "free\n\tstill free\n@!parse\n  dropped", "\r\n@return [B] b\r\n\tand c"]

theorem parse_runs_places_threeRuns :
    (∀ run ∈ threeRuns.tail, StartsFlush run) ∧
      (parse (Attribution.joinRun threeRuns).toList).tags =
        [{ tagName := "param", name := some "x", types := ["A"], text := "more" },
          { tagName := "return", types := ["B"], text := "b\nand c" }] ∧
      (parse (Attribution.joinRun threeRuns).toList).text = "free\n\tstill free" := by
  have hflush : ∀ run ∈ threeRuns.tail, StartsFlush run := by
    unfold StartsFlush
    decide
  refine ⟨hflush, ?_, ?_⟩
  · rw [parse_runs_places.1 threeRuns hflush]
    decide +kernel
  · rw [(parse_runs_places.2 _).text]
    decide +kernel

end TypeTags.Docstring
