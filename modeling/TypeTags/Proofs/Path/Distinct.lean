import TypeTags.Path
import TypeTags.Proofs.Text.Trim

/-!
# Paths tell things apart

A path is one text that a namespace and a name are put together in, with three separators. As long
as the names of the namespace hold none of them, the text can be taken apart again: the namespace
ends at the first `#` or `.`, whatever the member is called, and its names are the pieces between
double colons.

* `Path.IsPart`: a name that a namespace may be made of.

Results:
* `splitScopes_intercalate`: the pieces of a joined namespace are its names.
* `split_join`: a namespace is read back from its text.
* `member_injective`: the path of a member tells its namespace, its name and its level.
* `nested_join`: names that are nested one by one, and all of them in one compact name.
* `paths_apart`: all of these, for any namespaces.
-/

namespace TypeTags.Path

/-- A name of a namespace: it is not empty and holds none of the characters that separate the parts
of a path. -/
structure IsPart (name : String) : Prop where
  ne_empty : name ≠ ""
  plain : ∀ c ∈ name.toList, c ∉ [':', '#', '.']

theorem IsPart.colon_notMem {name : String} (h : IsPart name) : ':' ∉ name.toList := by
  intro hm
  exact h.plain _ hm (by decide)

/-! ## Taking a namespace apart -/

theorem splitScopes_cons {c : Char} (hc : c ≠ ':') (cs : List Char) :
    splitScopes (c :: cs) = (c :: (splitScopes cs).headD []) :: (splitScopes cs).tail := by
  rw [splitScopes]
  · cases splitScopes cs <;> rfl
  · intro ds h
    exact absurd h hc

theorem splitScopes_plain {cs : List Char} (h : ':' ∉ cs) : splitScopes cs = [cs] := by
  induction cs with
  | nil => rfl
  | cons c cs ih =>
    obtain ⟨hc, hcs⟩ := List.ne_and_not_mem_of_not_mem_cons h
    rw [splitScopes_cons (Ne.symm hc), ih hcs]
    rfl

/-- A piece ends at the first double colon behind it. -/
theorem splitScopes_append {cs : List Char} (h : ':' ∉ cs) (ds : List Char) :
    splitScopes (cs ++ ':' :: ':' :: ds) = cs :: splitScopes ds := by
  induction cs with
  | nil => rfl
  | cons c cs ih =>
    obtain ⟨hc, hcs⟩ := List.ne_and_not_mem_of_not_mem_cons h
    rw [List.cons_append, splitScopes_cons (Ne.symm hc), ih hcs]
    rfl

theorem splitScopes_intercalate {pieces : List (List Char)} (hne : pieces ≠ [])
    (h : ∀ piece ∈ pieces, ':' ∉ piece) :
    splitScopes (List.intercalate [':', ':'] pieces) = pieces := by
  induction pieces with
  | nil => exact absurd rfl hne
  | cons first others ih =>
    obtain ⟨hfirst, hothers⟩ := List.forall_mem_cons.1 h
    cases others with
    | nil =>
      rw [List.intercalate_singleton]
      exact splitScopes_plain hfirst
    | cons second others =>
      rw [List.intercalate_cons_cons, List.append_assoc]
      simp only [List.cons_append, List.nil_append]
      rw [splitScopes_append hfirst, ih (List.cons_ne_nil _ _) hothers]

theorem toList_join (names : List String) :
    (join names).toList = List.intercalate [':', ':'] (names.map String.toList) := by
  simp [join]

/-- A namespace is read back from its text. -/
theorem split_join {names : List String} (h : ∀ name ∈ names, IsPart name) :
    split (join names) = names := by
  have hkeep : ∀ piece ∈ names.map String.toList, (!piece.isEmpty) = true := by
    intro piece hp
    obtain ⟨name, hm, rfl⟩ := List.mem_map.1 hp
    simpa using (h name hm).ne_empty
  have hplain : ∀ piece ∈ names.map String.toList, ':' ∉ piece := by
    intro piece hp
    obtain ⟨name, hm, rfl⟩ := List.mem_map.1 hp
    exact (h name hm).colon_notMem
  unfold split
  rw [toList_join]
  cases names with
  | nil => rfl
  | cons first others =>
    rw [splitScopes_intercalate (by simp) hplain, List.filter_eq_self.2 hkeep]
    simp [Function.comp_def]

theorem join_injective {names others : List String} (hn : ∀ name ∈ names, IsPart name)
    (ho : ∀ name ∈ others, IsPart name) (h : join names = join others) : names = others := by
  rw [← split_join hn, ← split_join ho, h]

/-! ## Members -/

/-- A character that separates the name of a member from its namespace. -/
def isSeparator (c : Char) : Bool := c == '#' || c == '.'

/-- What separates the name of a member from its namespace. -/
def separator (classLevel : Bool) : Char := if classLevel then '.' else '#'

theorem isSeparator_separator (classLevel : Bool) : isSeparator (separator classLevel) = true := by
  cases classLevel <;> decide

theorem separator_injective {a b : Bool} (h : separator a = separator b) : a = b := by
  revert a b
  decide

theorem toList_member (names : List String) (name : String) (classLevel : Bool) :
    (member names name classLevel).toList =
      (join names).toList ++ separator classLevel :: name.toList := by
  cases classLevel <;> simp [member, separator]

/-- The text of a namespace holds no separator of members. -/
theorem join_unseparated {names : List String} (h : ∀ name ∈ names, IsPart name) :
    ∀ c ∈ (join names).toList, isSeparator c = false := by
  have hpart : ∀ name ∈ names, ∀ c ∈ name.toList, isSeparator c = false := by
    intro name hm c hc
    have hplain := (h name hm).plain c hc
    simp only [List.mem_cons, List.not_mem_nil, or_false, not_or] at hplain
    simp [isSeparator, hplain]
  have hcolons : ∀ c ∈ "::".toList, isSeparator c = false := by simp [isSeparator]
  exact Text.forall_mem_intercalate hcolons hpart

/-- The path of a member is cut where its namespace ends. -/
theorem span_member {names : List String} (h : ∀ name ∈ names, IsPart name) (name : String)
    (classLevel : Bool) :
    (member names name classLevel).toList.takeWhile (!isSeparator ·) = (join names).toList ∧
      (member names name classLevel).toList.dropWhile (!isSeparator ·) =
        separator classLevel :: name.toList := by
  have hjoin : ∀ c ∈ (join names).toList, (!isSeparator c) = true := by
    intro c hc
    simp [join_unseparated h c hc]
  rw [toList_member]
  constructor
  · rw [List.takeWhile_append_of_pos hjoin, List.takeWhile_cons, isSeparator_separator]
    simp
  · rw [List.dropWhile_append_of_pos hjoin, List.dropWhile_cons, isSeparator_separator]
    simp

/-- The path of a member tells its namespace, its name and its level. -/
theorem member_injective {names others : List String} (hn : ∀ name ∈ names, IsPart name)
    (ho : ∀ name ∈ others, IsPart name) {a b : String} {x y : Bool}
    (h : member names a x = member others b y) : names = others ∧ a = b ∧ x = y := by
  obtain ⟨htake, hdrop⟩ := span_member hn a x
  obtain ⟨htake', hdrop'⟩ := span_member ho b y
  rw [h, htake'] at htake
  rw [h, hdrop'] at hdrop
  obtain ⟨hsep, hname⟩ := List.cons.inj hdrop
  refine ⟨join_injective hn ho ?_, ?_, (separator_injective hsep).symm⟩
  · exact (String.toList_injective htake).symm
  · exact (String.toList_injective hname).symm

/-- No member has the path of a namespace. -/
theorem member_ne_join (names : List String) {others : List String}
    (ho : ∀ name ∈ others, IsPart name) (a : String) (x : Bool) :
    member names a x ≠ join others := by
  intro h
  have hsep : separator x ∈ (join others).toList := by
    rw [← h, toList_member]
    simp
  have hnot := join_unseparated ho _ hsep
  rw [isSeparator_separator] at hnot
  cases hnot

/-! ## Nesting -/

theorem isRooted_join {names : List String} (h : ∀ name ∈ names, IsPart name) :
    isRooted (join names) = false := by
  cases names with
  | nil => rfl
  | cons first others =>
    have hfirst := h first List.mem_cons_self
    obtain ⟨c, cs, hc⟩ : ∃ c cs, first.toList = c :: cs :=
      List.exists_cons_of_ne_nil (by simpa using hfirst.ne_empty)
    have hne : c ≠ ':' := by
      intro he
      apply hfirst.colon_notMem
      simp [hc, he]
    have htext : ∃ ds, (join (first :: others)).toList = c :: ds := by
      rw [toList_join]
      cases others with
      | nil => exact ⟨cs, by simp [hc]⟩
      | cons second others => exact ⟨_, by simp [List.intercalate_cons_cons, hc]; rfl⟩
    obtain ⟨ds, hds⟩ := htext
    simp [isRooted, hds, hne]

/-- A compact name means all of its names inside the namespace around it. -/
theorem nested_join (outer : List String) {names : List String} (h : ∀ name ∈ names, IsPart name) :
    nested outer (join names) = outer ++ names := by
  rw [nested, isRooted_join h, split_join h]
  rfl

/-- A name that starts at the root leaves the namespace around it out. -/
theorem nested_rooted (outer : List String) {names : List String}
    (h : ∀ name ∈ names, IsPart name) : nested outer ("::" ++ join names) = names := by
  have hroot : isRooted ("::" ++ join names) = true := by simp [isRooted]
  have hsplit : split ("::" ++ join names) = split (join names) := by
    simp [split, splitScopes]
  rw [nested, if_pos hroot, hsplit, split_join h]

/-- Names that are nested one by one. -/
theorem foldl_nested (outer : List String) {names : List String} (h : ∀ name ∈ names, IsPart name) :
    names.foldl nested outer = outer ++ names := by
  induction names generalizing outer with
  | nil => simp
  | cons first others ih =>
    obtain ⟨hfirst, hothers⟩ := List.forall_mem_cons.1 h
    have hsingle : ∀ name ∈ [first], IsPart name := by simpa using hfirst
    have hone : nested outer first = outer ++ [first] := by
      simpa [join] using nested_join outer hsingle
    rw [List.foldl_cons, hone, ih _ hothers, List.append_assoc]
    rfl

/-- **Paths.** The text of a namespace of proper names is taken apart into these names. As a name
inside another namespace it means them all, just as if they were nested one by one, and with a double
colon in front it means them alone. No member of any namespace has its path, and no other member has
the path of one of its members, whatever the members are called. -/
theorem paths_apart {names : List String} (h : ∀ name ∈ names, IsPart name) :
    split (join names) = names ∧
    (∀ outer, nested outer (join names) = outer ++ names ∧
      nested outer ("::" ++ join names) = names ∧
      join (names.foldl nested outer) = join (nested outer (join names))) ∧
    ∀ others, (∀ name ∈ others, IsPart name) → ∀ a x,
      member others a x ≠ join names ∧
      ∀ b y, member names b y = member others a x → names = others ∧ b = a ∧ y = x := by
  refine ⟨split_join h, fun outer => ?_, fun others ho a x => ?_⟩
  · refine ⟨nested_join outer h, nested_rooted outer h, ?_⟩
    rw [foldl_nested outer h, nested_join outer h]
  · exact ⟨member_ne_join others h a x, fun b y he => member_injective h ho he⟩

/-- The namespace of a class inside a module. -/
def vectorNames : List String := ["Geometry", "Vec"]

theorem paths_apart_operators :
    (∀ name ∈ vectorNames, IsPart name) ∧
    nested ["Geometry"] "Vec" = nested [] (join vectorNames) ∧
    member ["Geometry"] "::Vec" false ≠ join vectorNames ∧
    member vectorNames "==" false ≠ member ["Geometry"] "::Vec#==" false := by
  have hgeometry : IsPart "Geometry" := ⟨by decide, by simp⟩
  have hnames : ∀ name ∈ vectorNames, IsPart name := by
    intro name hm
    simp only [vectorNames, List.mem_cons, List.not_mem_nil, or_false] at hm
    rcases hm with rfl | rfl
    · exact hgeometry
    · exact ⟨by decide, by simp⟩
  have houter : ∀ name ∈ ["Geometry"], IsPart name := by simpa using hgeometry
  obtain ⟨-, hnested, hapart⟩ := paths_apart hnames
  refine ⟨hnames, ?_, (hapart ["Geometry"] houter "::Vec" false).1, ?_⟩
  · rw [(hnested []).1]
    decide
  · intro he
    obtain ⟨hsame, -, -⟩ := (hapart ["Geometry"] houter "::Vec#==" false).2 "==" false he
    exact absurd hsame (by decide)

end TypeTags.Path
