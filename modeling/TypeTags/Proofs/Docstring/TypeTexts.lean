import TypeTags.Docstring
import TypeTags.Proofs.Text.Trim

/-!
# Types in a comment

Two readers look at the types of a tag: one finds the bracket that ends their list, the other cuts
the list at its commas. Both count brackets of all four kinds together, and for both the `>` of an
arrow closes nothing. So they agree on any text that closes what it opens: neither of them ends
inside it.

* `depthAfter`: the count of both readers behind some characters.
* `IsTypeText`: a text that can stand in a list of types.

Results:
* `typePieces_closed`, `closeBrackets_closed`: both readers go past what the count allows.
* `splitTypes_commaJoin`: a list of type texts is cut into them.
* `leadingTypes?_brackets`: a list of type texts in brackets is read to its end.
-/

namespace TypeTags.Docstring

/-! ## Counting brackets -/

/-- The number of open brackets behind a character. -/
def depthBehind (previous c : Char) (depth : Nat) : Nat :=
  if endsArrow previous c then depth
  else if isOpening c then depth + 1
  else if isClosing c then depth - 1
  else depth

/-- Whether a character ends a type where no bracket is open: a comma, or a closing bracket. -/
def endsType (previous c : Char) : Bool := c == ',' || isClosing c && !endsArrow previous c

/-- The last character and the number of open brackets behind some characters. There is none if a
bracket closes that is not open, or if a comma stands outside all brackets. -/
def depthAfter (previous : Char) (depth : Nat) : List Char → Option (Char × Nat)
  | [] => some (previous, depth)
  | c :: cs =>
    if depth = 0 ∧ endsType previous c then none
    else depthAfter c (depthBehind previous c depth) cs

theorem depthAfter_append (previous : Char) (depth : Nat) (cs ds : List Char) :
    depthAfter previous depth (cs ++ ds) =
      (depthAfter previous depth cs).bind fun p => depthAfter p.1 p.2 ds := by
  induction cs generalizing previous depth with
  | nil => rfl
  | cons c cs ih =>
    simp only [List.cons_append, depthAfter, ih]
    split <;> rfl

theorem depthAfter_cons_eq_some {previous c : Char} {depth : Nat} {cs : List Char}
    {r : Char × Nat} : depthAfter previous depth (c :: cs) = some r ↔
      ¬ (depth = 0 ∧ endsType previous c) ∧
        depthAfter c (depthBehind previous c depth) cs = some r := by
  rw [depthAfter]
  split <;> simp [*]

/-- Only an arrow looks at the character before it. -/
theorem depthAfter_previous {previous other : Char} (hp : previous ≠ '=') (ho : other ≠ '=')
    (depth : Nat) (c : Char) (cs : List Char) :
    depthAfter previous depth (c :: cs) = depthAfter other depth (c :: cs) := by
  simp [depthAfter, endsType, depthBehind, endsArrow, hp, ho]

theorem depthBehind_add {previous c : Char} {depth : Nat}
    (h : ¬ (depth = 0 ∧ endsType previous c)) (more : Nat) :
    depthBehind previous c (depth + more) = depthBehind previous c depth + more := by
  unfold depthBehind
  split
  · rfl
  split
  · omega
  split
  · -- a bracket that closes was opened inside
    have hopen : depth ≠ 0 := by
      intro hzero
      exact h ⟨hzero, by simp [endsType, *]⟩
    omega
  · rfl

/-- Inside more brackets the count is higher by as many. -/
theorem depthAfter_add {previous last : Char} {depth left : Nat} {cs : List Char}
    (h : depthAfter previous depth cs = some (last, left)) (more : Nat) :
    depthAfter previous (depth + more) cs = some (last, left + more) := by
  induction cs generalizing previous depth with
  | nil =>
    cases h
    rfl
  | cons c cs ih =>
    obtain ⟨hgoes, hrest⟩ := depthAfter_cons_eq_some.1 h
    refine depthAfter_cons_eq_some.2 ⟨?_, ?_⟩
    · intro hends
      exact hgoes ⟨by omega, hends.2⟩
    · rw [depthBehind_add hgoes]
      exact ih hrest

/-- A text that can stand in a list of types: it is one line with solid ends, and it closes what it
opens, with no comma outside all brackets. -/
structure IsTypeText (s : String) : Prop where
  ne : s ≠ ""
  trimmed : Text.trim s.toList = s.toList
  oneLine : ∀ c ∈ s.toList, Text.isLineBreak c = false
  closed : ∃ last, depthAfter ' ' 0 s.toList = some (last, 0)

/-- The same behind any character but one that makes an arrow. -/
theorem IsTypeText.closed_behind {s : String} (h : IsTypeText s) {previous : Char}
    (hp : previous ≠ '=') : ∃ last, depthAfter previous 0 s.toList = some (last, 0) := by
  obtain ⟨last, hlast⟩ := h.closed
  have hne := h.ne
  obtain ⟨c, cs, hcs⟩ := List.exists_cons_of_ne_nil (mt String.toList_eq_nil_iff.1 hne)
  have hspace : ' ' ≠ '=' := by decide
  rw [hcs] at hlast ⊢
  exact ⟨last, (depthAfter_previous hp hspace 0 c cs).trans hlast⟩

/-- Texts with a comma and a space between them, at the first comma. -/
theorem toList_join (s next : String) (types : List String) :
    (String.intercalate ", " (s :: next :: types)).toList =
      s.toList ++ ',' :: ' ' :: (String.intercalate ", " (next :: types)).toList := by
  simp [String.intercalate_cons_cons]

/-! ## Cutting a list at its commas -/

theorem typePieces_ne_nil (previous : Char) (depth : Nat) (cs : List Char) :
    typePieces previous depth cs ≠ [] := by
  cases cs with
  | nil => exact List.cons_ne_nil _ _
  | cons c cs =>
    rw [typePieces]
    split
    · exact List.cons_ne_nil _ _
    · simp only
      split <;> exact List.cons_ne_nil _ _

/-- A character that is no comma outside all brackets belongs to the first piece. -/
theorem typePieces_cons {previous c : Char} {depth : Nat} (h : ¬ (c = ',' ∧ depth = 0))
    (cs : List Char) : typePieces previous depth (c :: cs) =
      (typePieces c (depthBehind previous c depth) cs).modifyHead (c :: ·) := by
  rw [typePieces, if_neg h]
  simp only [depthBehind]
  split
  · rename_i hnil
    exact absurd hnil (typePieces_ne_nil _ _ _)
  · rename_i piece pieces hcons
    rw [hcons]
    rfl

/-- No piece ends inside a text that closes what it opens. -/
theorem typePieces_closed {previous last : Char} {depth left : Nat} {cs : List Char}
    (h : depthAfter previous depth cs = some (last, left)) (rest : List Char) :
    typePieces previous depth (cs ++ rest) =
      (typePieces last left rest).modifyHead (cs ++ ·) := by
  induction cs generalizing previous depth with
  | nil =>
    cases h
    obtain ⟨piece, pieces, hp⟩ := List.exists_cons_of_ne_nil (typePieces_ne_nil last left rest)
    simp [hp]
  | cons c cs ih =>
    obtain ⟨hgoes, hrest⟩ := depthAfter_cons_eq_some.1 h
    have hcomma : ¬ (c = ',' ∧ depth = 0) := by
      intro hc
      exact hgoes ⟨hc.2, by simp [endsType, hc.1]⟩
    rw [List.cons_append, typePieces_cons hcomma, ih hrest, List.modifyHead_modifyHead]
    rfl

/-- A list of types, piece by piece: the comma behind a type ends it, and the space behind the comma
is trimmed. -/
theorem typePieces_join {types : List String} (hne : types ≠ []) (h : ∀ s ∈ types, IsTypeText s)
    {previous : Char} (hp : previous ≠ '=') :
    (typePieces previous 0 (String.intercalate ", " types).toList).map Text.trim =
      types.map String.toList := by
  induction types generalizing previous with
  | nil => exact absurd rfl hne
  | cons s types ih =>
    obtain ⟨hs, htypes⟩ := List.forall_mem_cons.1 h
    obtain ⟨last, hclosed⟩ := hs.closed_behind hp
    cases types with
    | nil =>
      have hpiece := typePieces_closed hclosed []
      rw [List.append_nil] at hpiece
      simp [hpiece, typePieces, hs.trimmed]
    | cons next types =>
      have hspace (pieces : List (List Char)) :
          (pieces.modifyHead (' ' :: ·)).map Text.trim = pieces.map Text.trim := by
        cases pieces with
        | nil => rfl
        | cons piece pieces => simp [Text.trim_blank_cons (show Text.isBlank ' ' = true by decide)]
      rw [toList_join, typePieces_closed hclosed, typePieces, if_pos ⟨rfl, rfl⟩,
        typePieces_cons (by simp), List.modifyHead_cons, List.append_nil, List.map_cons, hspace,
        hs.trimmed, List.map_cons]
      exact congrArg _ (ih (List.cons_ne_nil _ _) htypes (by decide))

/-- **Types.** A list of type texts is cut into them. -/
theorem splitTypes_commaJoin {types : List String} (h : ∀ s ∈ types, IsTypeText s) :
    splitTypes (String.intercalate ", " types).toList = types := by
  unfold splitTypes
  cases types with
  | nil => rfl
  | cons s types =>
    have hkept : ((s :: types).map String.toList).filter (!·.isEmpty) =
        (s :: types).map String.toList := by
      refine List.filter_eq_self.2 fun cs hcs => ?_
      obtain ⟨t, ht, rfl⟩ := List.mem_map.1 hcs
      simpa using (h t ht).ne
    rw [typePieces_join (List.cons_ne_nil _ _) h (by decide), hkept, List.map_map]
    simp [Function.comp_def]

/-! ## Finding the end of a list -/

/-- A character that does not close the outermost bracket is inside it. -/
theorem closeBrackets_cons {previous c : Char} {depth : Nat}
    (h : ¬ (depth = 0 ∧ endsType previous c)) (cs : List Char) :
    closeBrackets previous (depth + 1) (c :: cs) =
      (closeBrackets c (depthBehind previous c depth + 1) cs).map fun p => (c :: p.1, p.2) := by
  rw [← depthBehind_add h, closeBrackets, depthBehind]
  simp only
  split
  · rfl
  split
  · rfl
  split
  · have hopen : depth ≠ 0 := by
      intro hzero
      exact h ⟨hzero, by simp [endsType, *]⟩
    rw [if_neg (by omega)]
  · rfl

/-- The bracket that closes the outermost one is not inside a text that closes what it opens. -/
theorem closeBrackets_closed {previous last : Char} {depth left : Nat} {cs : List Char}
    (h : depthAfter previous depth cs = some (last, left)) (rest : List Char) :
    closeBrackets previous (depth + 1) (cs ++ rest) =
      (closeBrackets last (left + 1) rest).map fun p => (cs ++ p.1, p.2) := by
  induction cs generalizing previous depth with
  | nil =>
    cases h
    simp
  | cons c cs ih =>
    obtain ⟨hgoes, hrest⟩ := depthAfter_cons_eq_some.1 h
    rw [List.cons_append, closeBrackets_cons hgoes, ih hrest, Option.map_map]
    rfl

/-- The list that the bracket in front opens ends at the bracket behind its types. -/
theorem closeBrackets_join {types : List String} (h : ∀ s ∈ types, IsTypeText s)
    {previous : Char} (hp : previous ≠ '=') (rest : List Char) :
    closeBrackets previous 1 ((String.intercalate ", " types).toList ++ ']' :: rest) =
      some ((String.intercalate ", " types).toList, rest) := by
  have hend (last : Char) : closeBrackets last 1 (']' :: rest) = some ([], rest) := by
    simp [closeBrackets, endsArrow, isOpening, isClosing]
  induction types generalizing previous with
  | nil => exact hend previous
  | cons s types ih =>
    obtain ⟨hs, htypes⟩ := List.forall_mem_cons.1 h
    obtain ⟨last, hclosed⟩ := hs.closed_behind hp
    cases types with
    | nil => simp [closeBrackets_closed hclosed, hend]
    | cons next types =>
      have hgap (cs : List Char) : closeBrackets last 1 (',' :: ' ' :: cs) =
          (closeBrackets ' ' 1 cs).map fun p => (',' :: ' ' :: p.1, p.2) := by
        simp [closeBrackets, endsArrow, isOpening, isClosing, Function.comp_def]
      rw [toList_join, List.append_assoc, closeBrackets_closed hclosed, List.cons_append,
        List.cons_append, hgap, ih htypes (by decide)]
      rfl

/-- A list of type texts in brackets is read to its end. -/
theorem leadingTypes?_brackets {types : List String} (h : ∀ s ∈ types, IsTypeText s)
    (rest : List Char) :
    leadingTypes? ('[' :: ((String.intercalate ", " types).toList ++ ']' :: rest)) =
      some (types, Text.trim rest) := by
  have hclose := closeBrackets_join h (show '[' ≠ '=' by decide) rest
  simp only [leadingTypes?, hclose, Option.map_some, splitTypes_commaJoin h]

end TypeTags.Docstring
