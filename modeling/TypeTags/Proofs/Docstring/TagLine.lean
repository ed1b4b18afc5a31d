import TypeTags.Proofs.Docstring.FreeText
import TypeTags.Proofs.TypeExpr.Rendered

/-!
# Tags of one line

A tag is written as its tag name, its name, its types in brackets and its text, with spaces between
those that are there. Nothing but the place tells them apart, so what is read back is the same tag
only if no part can be taken for another: the name is one word and starts with no bracket, a text
without types before it starts with no bracket either, and the types close what they open. A type
that is shown in a comment always gives such types.

* `Tag.OneLine`: the tags that one line holds.

Results:
* `leadingTypes?_spaced`: types and text are told apart.
* `buildTag_spaced`: the parts of a tag are put back in their places.
* `parse_format`: a tag of one line is read back.
* `tag_lines_read_back`: the same for all tags of one line, and for types made of constant paths.
-/

namespace TypeTags

open Docstring

/-- A name that stands in one word behind its tag name. -/
structure IsSubject (name : String) : Prop where
  ne : name ≠ ""
  solid : ∀ c ∈ name.toList, Text.isBlank c = false
  no_bracket : name.toList.head? ≠ some '['

/-- A tag that one line holds. -/
structure Tag.OneLine (tag : Tag) : Prop where
  tagName : ∃ c cs, tag.tagName.toList = c :: cs ∧ isTagStart c = true ∧
    ∀ d ∈ cs, Text.isWordChar d = true
  named : tag.tagName ∈ namedTags → ∃ name, tag.name = some name ∧ IsSubject name
  unnamed : tag.tagName ∉ namedTags → tag.name = none
  untyped : tag.tagName ∉ namedTags → tag.tagName ∉ typedTags → tag.types = []
  types : ∀ s ∈ tag.types, IsTypeText s
  trimmed : Text.trim tag.text.toList = tag.text.toList
  oneLine : ∀ c ∈ tag.text.toList, Text.isLineBreak c = false
  no_bracket : tag.types = [] → tag.text.toList.head? ≠ some '['

namespace Docstring

/-! ## Parts with spaces before them -/

/-- Parts with a space before each. -/
def spaced (parts : List (List Char)) : List Char := parts.flatMap (' ' :: ·)

@[simp] theorem spaced_nil : spaced [] = [] := rfl

@[simp] theorem spaced_cons (part : List Char) (parts : List (List Char)) :
    spaced (part :: parts) = ' ' :: (part ++ spaced parts) := rfl

theorem toList_intercalate_space (s : String) (parts : List String) :
    (String.intercalate " " (s :: parts)).toList =
      s.toList ++ spaced (parts.map String.toList) := by
  induction parts generalizing s with
  | nil => simp
  | cons next parts ih =>
    rw [String.intercalate_cons_cons, String.toList_append, String.toList_append, ih]
    simp

def typesPart (types : List String) : List (List Char) :=
  if types.isEmpty then [] else ['[' :: ((String.intercalate ", " types).toList ++ [']'])]

def textPart (text : String) : List (List Char) := if text.isEmpty then [] else [text.toList]

/-- The parts of a tag behind its tag name. -/
def partsOf (tag : Tag) : List (List Char) :=
  (tag.name.filter (!·.isEmpty)).toList.map String.toList ++
    (typesPart tag.types ++ textPart tag.text)

theorem toList_format (tag : Tag) :
    tag.format.toList = '@' :: (tag.tagName.toList ++ spaced (partsOf tag)) := by
  unfold Tag.format partsOf typesPart textPart
  rw [List.append_assoc, List.append_assoc, List.singleton_append, toList_intercalate_space,
    String.toList_append, List.map_append, List.map_append]
  cases tag.types.isEmpty <;> cases tag.text.isEmpty <;> simp

/-- A part that can be told apart by the spaces around it. -/
def IsPart (part : List Char) : Prop := part ≠ [] ∧ Text.Solid part

/-- Trimming takes only the space in front of the first part. -/
theorem trim_spaced {part : List Char} {parts : List (List Char)}
    (h : ∀ p ∈ part :: parts, IsPart p) :
    Text.trim (spaced (part :: parts)) = part ++ spaced parts := by
  rw [spaced_cons, Text.trim_blank_cons (by decide)]
  refine Text.trim_solid ⟨?_, ?_⟩
  · intro c hc
    obtain ⟨hne, hsolid⟩ := h part List.mem_cons_self
    obtain ⟨d, ds, rfl⟩ := List.exists_cons_of_ne_nil hne
    exact hsolid.head c hc
  · -- the last character is that of the last part
    induction parts generalizing part with
    | nil => simpa using (h part List.mem_cons_self).2.last
    | cons next parts ih =>
      have hrest := ih fun p hp => h p (List.mem_cons_of_mem _ hp)
      have hne : next ++ spaced parts ≠ [] :=
        List.append_ne_nil_of_left_ne_nil (h next (by simp)).1 _
      intro c hc
      rw [spaced_cons, List.getLast?_append, List.getLast?_cons_of_ne_nil hne,
        List.getLast?_eq_some_getLast hne, Option.some_or] at hc
      rw [List.getLast?_eq_some_getLast hne] at hrest
      exact hrest c hc

theorem isPart_textPart {text : String} (h : Text.trim text.toList = text.toList) :
    ∀ part ∈ textPart text, IsPart part := by
  unfold textPart
  split
  · simp
  · rename_i hne
    refine List.forall_mem_singleton.2 ⟨?_, Text.solid_of_trim h⟩
    simpa using hne

theorem trim_textPart {text : String} (h : Text.trim text.toList = text.toList) :
    Text.trim (spaced (textPart text)) = text.toList := by
  unfold textPart
  split
  · rename_i hempty
    simp [String.isEmpty_iff.1 hempty]
    rfl
  · rename_i hne
    have hpart : ∀ part ∈ [text.toList], IsPart part := by
      refine List.forall_mem_singleton.2 ⟨?_, Text.solid_of_trim h⟩
      simpa using hne
    rw [trim_spaced hpart, spaced_nil, List.append_nil]

theorem isPart_typesPart (types : List String) : ∀ part ∈ typesPart types, IsPart part := by
  unfold typesPart
  split
  · simp
  · refine List.forall_mem_singleton.2 ⟨List.cons_ne_nil _ _, ⟨?_, ?_⟩⟩
    · rintro _ ⟨⟩
      decide
    · intro c hc
      rw [← List.cons_append, List.getLast?_concat] at hc
      cases hc
      decide

/-! ## Putting the parts back -/

theorem leadingTypes?_eq_none {cs : List Char} (h : cs.head? ≠ some '[') :
    leadingTypes? cs = none := by
  unfold leadingTypes?
  split
  · exact absurd rfl h
  · rfl

/-- **Types and text.** Types in brackets and a text behind them are told apart, also if one of the
two is missing. -/
theorem leadingTypes?_spaced {types : List String} {text : String}
    (htypes : ∀ s ∈ types, IsTypeText s) (htext : Text.trim text.toList = text.toList)
    (hb : types = [] → text.toList.head? ≠ some '[') :
    (leadingTypes? (Text.trim (spaced (typesPart types ++ textPart text)))).getD
        ([], Text.trim (spaced (typesPart types ++ textPart text))) = (types, text.toList) := by
  cases types with
  | nil =>
    have hnone := leadingTypes?_eq_none (hb rfl)
    simp [typesPart, trim_textPart htext, hnone]
  | cons s types =>
    have hparts : ∀ p ∈ typesPart (s :: types) ++ textPart text, IsPart p :=
      List.forall_mem_append.2 ⟨isPart_typesPart _, isPart_textPart htext⟩
    simp only [typesPart, List.isEmpty_cons, Bool.false_eq_true, if_false,
      List.singleton_append] at hparts ⊢
    rw [trim_spaced hparts, List.cons_append, List.append_assoc, List.singleton_append,
      leadingTypes?_brackets htypes, trim_textPart htext, Option.getD_some]

/-- The first word of a text that starts with a name. -/
theorem firstWord_spaced {name : String} (h : IsSubject name) (parts : List (List Char)) :
    firstWord (name.toList ++ spaced parts) = (name.toList, Text.trim (spaced parts)) := by
  have hword : ∀ c ∈ name.toList, (c != ' ') = true := by
    intro c hc
    rw [bne_iff_ne]
    rintro rfl
    exact absurd (h.solid _ hc) (by decide)
  unfold firstWord
  rw [List.takeWhile_append_of_pos hword, List.dropWhile_append_of_pos hword]
  cases parts with
  | nil => simp
  | cons part parts => simp [Text.trim_blank_cons (show Text.isBlank ' ' = true by decide)]

theorem buildTag_trim {tagName : String} {cs ds : List Char} (h : Text.trim cs = Text.trim ds) :
    buildTag tagName cs = buildTag tagName ds := by
  simp only [buildTag, h]

/-- **Parts.** Each part of a tag is put back in its place. -/
theorem buildTag_spaced {tag : Tag} (h : tag.OneLine) :
    buildTag tag.tagName (spaced (partsOf tag)) = tag := by
  have hsplit := leadingTypes?_spaced h.types h.trimmed h.no_bracket
  obtain ⟨tagName, name, types, text⟩ := tag
  dsimp only at hsplit ⊢
  unfold buildTag partsOf
  by_cases hnamed : tagName ∈ namedTags
  · obtain ⟨subject, rfl, hsubject⟩ : ∃ subject, name = some subject ∧ IsSubject subject :=
      h.named hnamed
    have hparts : ∀ p ∈ subject.toList :: (typesPart types ++ textPart text), IsPart p := by
      refine List.forall_mem_cons.2 ⟨⟨?_, ?_, ?_⟩, ?_⟩
      · simpa using hsubject.ne
      · exact fun c hc => hsubject.solid c (List.mem_of_mem_head? hc)
      · exact fun c hc => hsubject.solid c (List.mem_of_mem_getLast? hc)
      · exact List.forall_mem_append.2 ⟨isPart_typesPart _, isPart_textPart h.trimmed⟩
    have hshown : ((some subject).filter (!·.isEmpty)).toList.map String.toList =
        [subject.toList] := by
      simp [Option.filter, hsubject.ne]
    have hfirst : (subject.toList ++ spaced (typesPart types ++ textPart text)).head? ≠
        some '[' := by
      obtain ⟨c, cs, hcs⟩ := List.exists_cons_of_ne_nil (hparts _ List.mem_cons_self).1
      have hb := hsubject.no_bracket
      rw [hcs] at hb ⊢
      exact hb
    dsimp only
    rw [hshown, List.singleton_append, trim_spaced hparts]
    simp only [hnamed, if_true, leadingTypes?_eq_none hfirst, firstWord_spaced hsubject, hsplit,
      nameOf?]
    simp [hsubject.ne]
  · obtain rfl : name = none := h.unnamed hnamed
    by_cases htyped : tagName ∈ typedTags
    · simp [hnamed, htyped, hsplit]
    · obtain rfl : types = [] := h.untyped hnamed htyped
      have htext := trim_textPart h.trimmed
      dsimp only at htext
      simp [hnamed, htyped, typesPart, htext]

/-! ## Whole lines -/

theorem tagLine?_format {tag : Tag} (h : tag.OneLine) :
    tagLine? tag.format.toList = some (buildTag tag.tagName (spaced (partsOf tag))) := by
  obtain ⟨c, cs, hname, hstart, hword⟩ := h.tagName
  have htag : String.ofList (c :: cs) = tag.tagName := by rw [← hname, String.ofList_toList]
  rw [toList_format, hname, List.cons_append, tagLine?, if_pos hstart]
  simp only [List.takeWhile_append_of_pos hword, List.dropWhile_append_of_pos hword]
  cases partsOf tag with
  | nil => simp [htag]
  | cons part parts =>
    have hblank : Text.isBlank ' ' = true := by decide
    have hspace : ¬ Text.isWordChar ' ' = true := by decide
    have hskip : buildTag tag.tagName (' ' :: (part ++ spaced parts)) =
        buildTag tag.tagName (part ++ spaced parts) := buildTag_trim (Text.trim_blank_cons hblank _)
    rw [spaced_cons, List.takeWhile_cons_of_neg hspace, List.dropWhile_cons_of_neg hspace, hskip]
    simp only [hblank, if_true, List.append_nil, htag]

theorem oneLine_spaced {parts : List (List Char)}
    (h : ∀ part ∈ parts, ∀ c ∈ part, Text.isLineBreak c = false) :
    ∀ c ∈ spaced parts, Text.isLineBreak c = false := by
  intro c hc
  obtain ⟨part, hpart, hm⟩ := List.mem_flatMap.1 hc
  rcases List.mem_cons.1 hm with rfl | hm
  · decide
  · exact h part hpart c hm

/-- A tag of one line is written on one line. -/
theorem format_oneLine {tag : Tag} (h : tag.OneLine) :
    ∀ c ∈ tag.format.toList, Text.isLineBreak c = false := by
  obtain ⟨c, cs, hname, hstart, hword⟩ := h.tagName
  have hfirst : Text.isLineBreak c = false := by
    cases hb : Text.isLineBreak c with
    | false => rfl
    | true =>
      -- no tag name starts with white space
      have hgap : isGapStart c = true := by simp [isGapStart, isBlank_of_isLineBreak hb]
      have hnot : isTagStart c = false := eq_false_of_isGapStart (by decide +kernel) hgap
      rw [hstart] at hnot
      cases hnot
  rw [toList_format, hname]
  refine List.forall_mem_cons.2 ⟨by decide, List.forall_mem_append.2 ⟨?_, oneLine_spaced ?_⟩⟩
  · refine List.forall_mem_cons.2 ⟨hfirst, fun d hd => ?_⟩
    exact isLineBreak_of_solid (isBlank_of_isPlain (isPlain_of_isWordChar (hword d hd)))
  · refine List.forall_mem_append.2 ⟨?_, List.forall_mem_append.2 ⟨?_, ?_⟩⟩
    · intro part hpart
      obtain ⟨name, hm, rfl⟩ := List.mem_map.1 hpart
      obtain ⟨hsome, -⟩ := Option.filter_eq_some_iff.1 (Option.mem_toList.1 hm)
      have hnamed : tag.tagName ∈ namedTags := by
        by_cases hin : tag.tagName ∈ namedTags
        · exact hin
        · rw [h.unnamed hin] at hsome
          cases hsome
      obtain ⟨subject, hsubject, hone⟩ := h.named hnamed
      obtain rfl := Option.some.inj (hsome.symm.trans hsubject)
      exact fun d hd => isLineBreak_of_solid (hone.solid d hd)
    · unfold typesPart
      split
      · simp
      · have hgap : ∀ c ∈ ", ".toList, Text.isLineBreak c = false := by simp [Text.isLineBreak]
        have hjoin := Text.forall_mem_intercalate hgap fun s hs => (h.types s hs).oneLine
        refine List.forall_mem_singleton.2 (List.forall_mem_cons.2 ⟨by decide, ?_⟩)
        exact List.forall_mem_append.2 ⟨hjoin, List.forall_mem_singleton.2 (by decide)⟩
    · unfold textPart
      split
      · simp
      · exact List.forall_mem_singleton.2 h.oneLine

theorem breakLines_oneLine {cs : List Char} (hne : cs ≠ [])
    (h : ∀ c ∈ cs, Text.isLineBreak c = false) : Text.breakLines cs = [cs] := by
  induction cs with
  | nil => exact absurd rfl hne
  | cons c cs ih =>
    obtain ⟨hc, hcs⟩ := List.forall_mem_cons.1 h
    rw [breakLines_cons hc]
    cases cs with
    | nil => rfl
    | cons d cs =>
      rw [ih (List.cons_ne_nil _ _) hcs]
      rfl

/-- **Tags.** A tag of one line is read back, and no free text is left. -/
theorem parse_format {tag : Tag} (h : tag.OneLine) :
    parse tag.format.toList = { text := "", tags := [tag] } := by
  have hline : Text.breakLines tag.format.toList = [tag.format.toList] := by
    refine breakLines_oneLine ?_ (format_oneLine h)
    simp [toList_format]
  have hplain : isDirective tag.format.toList = false := by
    obtain ⟨c, cs, hname, hstart, -⟩ := h.tagName
    have hc : c ≠ '!' := by
      rintro rfl
      exact absurd hstart (by decide)
    rw [toList_format, hname, List.cons_append]
    unfold isDirective
    split
    · rename_i heq
      cases heq
      exact absurd rfl hc
    · rfl
  have hrole : roleOf .nothing tag.format.toList = (.opens tag, .tag) := by
    rw [roleOf, hplain, tagLine?_format h, buildTag_spaced h]
    rfl
  rw [parse, hline]
  simp only [roles, hrole]
  rfl

/-- **Tags and types.** A tag of one line is read back as the only tag, and no free text is left.
The strings that a type made of constant paths is shown as can stand in such a tag, and a list of
them is cut into the same strings. -/
theorem tag_lines_read_back :
    (∀ tag : Tag, tag.OneLine → parse tag.format.toList = { text := "", tags := [tag] }) ∧
    ∀ t : TypeExpr, t.PathNamed → (∀ s ∈ t.render, IsTypeText s) ∧
      splitTypes (TypeExpr.commaJoin t.render).toList = t.render := by
  refine ⟨fun tag h => parse_format h, fun t h => ?_⟩
  have htypes : ∀ s ∈ t.render, IsTypeText s := fun s hs => (h.rendered s hs).isTypeText
  exact ⟨htypes, splitTypes_commaJoin htypes⟩

/-- A hash from `nil` to arrays or hashes, or `nil`. -/
def optionsType : TypeExpr :=
  .nilable (.keyed hashPath.text (.simple "nil")
    (.union [.tuple [.simple "self", .untyped], .fixedHash]))

/-- A parameter of that type, with a text that starts with a bracket. -/
def optionsTag : Tag where
  tagName := "param"
  name := some "options"
  types := optionsType.render
  text := "[sic] the options"

theorem tag_lines_read_back_options : optionsType.PathNamed ∧ optionsTag.OneLine ∧
    optionsTag.format = "@param options [Hash\x7bnil => Array(self, T.untyped), Hash\x7d, nil] " ++
      "[sic] the options" ∧
    parse optionsTag.format.toList = { text := "", tags := [optionsTag] } ∧
    splitTypes "Hash\x7bnil => Array(self, T.untyped), Hash\x7d, nil".toList =
      ["Hash\x7bnil => Array(self, T.untyped), Hash\x7d", "nil"] := by
  have hpath : optionsType.PathNamed := by
    refine .nilable (.keyed hashPath (.word (by decide)) (.union ?_))
    have htuple : TypeExpr.PathNamed (.tuple [.simple "self", .untyped]) :=
      .tuple (by simpa using ⟨.word (by decide), .untyped⟩)
    simpa using ⟨htuple, .fixedHash⟩
  obtain ⟨htags, htypes⟩ := tag_lines_read_back
  obtain ⟨hshown, hsplit⟩ := htypes optionsType hpath
  have hline : optionsTag.OneLine := {
    tagName := ⟨'p', _, rfl, by decide, List.all_eq_true.1 (by decide +kernel)⟩
    named := fun _ => ⟨"options", rfl, by decide, by simp; decide, by decide⟩
    unnamed := fun hn => absurd (by decide) hn
    untyped := fun hn => absurd (by decide) hn
    types := hshown
    trimmed := by decide
    oneLine := by simp [optionsTag, Text.isLineBreak]
    no_bracket := fun hnil => absurd hnil (by decide) }
  have hrender : optionsType.render =
      ["Hash\x7bnil => Array(self, T.untyped), Hash\x7d", "nil"] := by decide +kernel
  rw [hrender] at hsplit
  exact ⟨hpath, hline, by decide +kernel, htags optionsTag hline, hsplit⟩

end Docstring

end TypeTags
