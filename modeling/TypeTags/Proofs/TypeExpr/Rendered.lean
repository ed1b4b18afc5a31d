import TypeTags.Proofs.Docstring.TypeTexts
import TypeTags.Proofs.Token.Squeezed
import TypeTags.Proofs.TypeExpr.Nodes
import TypeTags.Proofs.TypeExpr.Spelling

/-!
# Rendered types in a comment

Every string that a type is shown as can stand in the list of types of a tag, if the type is made of
constant paths. Arguments stand in brackets, where their commas do no harm, and the arrow between a
key and its value closes nothing. No string ends with an equals sign, which could make an arrow of
the bracket behind it.

* `Keeps`: a text behind which as many brackets are open as before it.
* `PathNamed`: a type made of constant paths.

Results:
* `Keeps.append`, `Keeps.enclosed`: texts that are put together.
* `IsName.plain`, `ConstantPath.plain`: names have no character that the readers look at.
* `PathNamed.rendered`: what a type made of constant paths is shown as.
-/

namespace TypeTags

namespace Docstring

/-! ## Texts that keep the count -/

/-- Behind the text as many brackets are open as before it, and it does not end with an equals
sign. -/
def Keeps (depth : Nat) (cs : List Char) : Prop :=
  ∀ previous, previous ≠ '=' →
    ∃ last, last ≠ '=' ∧ depthAfter previous depth cs = some (last, depth)

variable {depth : Nat} {cs ds : List Char}

theorem keeps_nil (depth : Nat) : Keeps depth [] := fun previous hp => ⟨previous, hp, rfl⟩

theorem Keeps.append (h : Keeps depth cs) (h' : Keeps depth ds) : Keeps depth (cs ++ ds) := by
  intro previous hp
  obtain ⟨last, hlast, hcs⟩ := h previous hp
  obtain ⟨last', hlast', hds⟩ := h' last hlast
  exact ⟨last', hlast', by rw [depthAfter_append, hcs, Option.bind_some, hds]⟩

/-- What keeps the count outside all brackets keeps it everywhere. -/
theorem Keeps.inside (h : Keeps 0 cs) (depth : Nat) : Keeps depth cs := by
  intro previous hp
  obtain ⟨last, hlast, hcs⟩ := h previous hp
  exact ⟨last, hlast, by simpa using depthAfter_add hcs depth⟩

/-- A text in brackets of any two kinds. -/
theorem Keeps.enclosed {o c : Char} (ho : isOpening o = true) (hc : isClosing c = true)
    (hoc : isOpening c = false) (h : Keeps (depth + 1) cs) : Keeps depth (o :: (cs ++ [c])) := by
  have hopen : o ≠ '=' ∧ o ≠ '>' ∧ o ≠ ',' ∧ isClosing o = false := by
    simp only [isOpening, Bool.or_eq_true, beq_iff_eq] at ho
    rcases ho with ((rfl | rfl) | rfl) | rfl <;> decide
  have hclose : c ≠ '=' := by
    rintro rfl
    exact absurd hc (by decide)
  intro previous hp
  obtain ⟨last, hlast, hcs⟩ := h o hopen.1
  refine ⟨c, hclose, depthAfter_cons_eq_some.2 ⟨?_, ?_⟩⟩
  · simp [endsType, hopen.2.2]
  · have hbehind : depthBehind previous o depth = depth + 1 := by
      simp [depthBehind, endsArrow, hopen.2.1, ho]
    have hback : depthAfter last (depth + 1) [c] = some (c, depth) := by
      simp [depthAfter, depthBehind, endsArrow, hlast, hc, hoc]
    rw [hbehind, depthAfter_append, hcs, Option.bind_some, hback]

/-- Inside brackets a comma may stand. -/
theorem keeps_comma (depth : Nat) : Keeps (depth + 1) [',', ' '] := by
  intro previous hp
  exact ⟨' ', by decide, by
    simp [depthAfter, depthBehind, endsArrow, endsType, isOpening, isClosing]⟩

/-- An arrow closes nothing. -/
theorem keeps_arrow (depth : Nat) : Keeps depth [' ', '=', '>', ' '] := by
  intro previous hp
  exact ⟨' ', by decide, by
    simp [depthAfter, depthBehind, endsArrow, endsType, isOpening, isClosing]⟩

/-- A character that neither reader looks at, and that trimming leaves alone. -/
def isPlain (c : Char) : Bool :=
  !(isOpening c || isClosing c || c == ',' || c == '=' || Text.isBlank c)

theorem keeps_plain (depth : Nat) (h : ∀ c ∈ cs, isPlain c = true) : Keeps depth cs := by
  induction cs with
  | nil => exact keeps_nil depth
  | cons c cs ih =>
    obtain ⟨hc, hcs⟩ := List.forall_mem_cons.1 h
    simp only [isPlain, Bool.not_eq_true', Bool.or_eq_false_iff, beq_eq_false_iff_ne, ne_eq] at hc
    obtain ⟨⟨⟨⟨hopening, hclosing⟩, hcomma⟩, hequals⟩, -⟩ := hc
    intro previous hp
    obtain ⟨last, hlast, hrest⟩ := ih hcs c hequals
    refine ⟨last, hlast, depthAfter_cons_eq_some.2 ⟨?_, ?_⟩⟩
    · simp [endsType, hclosing, hcomma]
    · simpa [depthBehind, hopening, hclosing] using hrest

/-! ## Texts of one line -/

theorem isBlank_of_isLineBreak {c : Char} (h : Text.isLineBreak c = true) :
    Text.isBlank c = true := by
  have hall : ['\n', '\r', '\x0b', '\x0c', '\x1c', '\x1d', '\x1e', '\u0085', '\u2028',
      '\u2029'].all Text.isBlank = true := by decide
  exact List.all_eq_true.1 hall c (by simpa [Text.isLineBreak] using h)

theorem isLineBreak_of_solid {c : Char} (h : Text.isBlank c = false) :
    Text.isLineBreak c = false := by
  cases hb : Text.isLineBreak c with
  | false => rfl
  | true => exact absurd (isBlank_of_isLineBreak hb) (by simp [h])

theorem isBlank_of_isPlain {c : Char} (h : isPlain c = true) : Text.isBlank c = false := by
  simp only [isPlain, Bool.not_eq_true', Bool.or_eq_false_iff] at h
  exact h.2

/-- A text of one line that keeps the count inside brackets. -/
structure Enclosable (cs : List Char) : Prop where
  keeps : Keeps 1 cs
  oneLine : ∀ c ∈ cs, Text.isLineBreak c = false

theorem Enclosable.append (h : Enclosable cs) (h' : Enclosable ds) : Enclosable (cs ++ ds) :=
  ⟨h.keeps.append h'.keeps, List.forall_mem_append.2 ⟨h.oneLine, h'.oneLine⟩⟩

/-- A type text that may stand before a closing bracket, of a nested list or of the whole one. -/
structure Closes (s : String) : Prop where
  ne : s ≠ ""
  solid : Text.Solid s.toList
  oneLine : ∀ c ∈ s.toList, Text.isLineBreak c = false
  keeps : Keeps 0 s.toList

theorem Closes.isTypeText {s : String} (h : Closes s) : IsTypeText s where
  ne := h.ne
  trimmed := Text.trim_solid h.solid
  oneLine := h.oneLine
  closed := by
    obtain ⟨last, -, hlast⟩ := h.keeps ' ' (by decide)
    exact ⟨last, hlast⟩

theorem Closes.enclosable {s : String} (h : Closes s) : Enclosable s.toList :=
  ⟨h.keeps.inside 1, h.oneLine⟩

theorem enclosable_nil : Enclosable [] := ⟨keeps_nil 1, by simp⟩

/-- Texts with commas between them. -/
theorem enclosable_commaJoin {types : List String} (h : ∀ s ∈ types, Enclosable s.toList) :
    Enclosable (TypeExpr.commaJoin types).toList := by
  unfold TypeExpr.commaJoin
  induction types with
  | nil => exact enclosable_nil
  | cons s types ih =>
    obtain ⟨hs, htypes⟩ := List.forall_mem_cons.1 h
    cases types with
    | nil => simpa using hs
    | cons next types =>
      have hgap : Enclosable [',', ' '] := ⟨keeps_comma 0, by simp [Text.isLineBreak]⟩
      rw [toList_join]
      exact hs.append (hgap.append (ih htypes))

/-- A name, whose characters are plain. -/
theorem closes_plain {s : String} (hne : s ≠ "") (h : ∀ c ∈ s.toList, isPlain c = true) :
    Closes s where
  ne := hne
  solid := by
    refine ⟨fun c hc => ?_, fun c hc => ?_⟩
    · exact isBlank_of_isPlain (h c (List.mem_of_mem_head? hc))
    · exact isBlank_of_isPlain (h c (List.mem_of_mem_getLast? hc))
  oneLine := fun c hc => isLineBreak_of_solid (isBlank_of_isPlain (h c hc))
  keeps := keeps_plain 0 h

/-- A name with a text in brackets behind it. -/
theorem closes_enclosed {name inner s : String} {o c : Char} (ho : isOpening o = true)
    (hc : isClosing c = true) (hoc : isOpening c = false) (hn : Closes name)
    (hi : Enclosable inner.toList)
    (hs : s.toList = name.toList ++ (o :: (inner.toList ++ [c]))) : Closes s where
  ne := by
    intro he
    simp [he] at hs
  solid := by
    have hcsolid : Text.isBlank c = false := by
      simp only [isClosing, Bool.or_eq_true, beq_iff_eq] at hc
      rcases hc with ((rfl | rfl) | rfl) | rfl <;> decide
    obtain ⟨d, ds, hd⟩ := List.exists_cons_of_ne_nil (mt String.toList_eq_nil_iff.1 hn.ne)
    refine ⟨fun e he => hn.solid.head e ?_, fun e he => ?_⟩
    · rw [hs, hd] at he
      rw [hd]
      exact he
    · rw [hs, ← List.cons_append, ← List.append_assoc, List.getLast?_concat] at he
      obtain rfl := Option.some.inj he
      exact hcsolid
  oneLine := by
    have hbracket (e : Char) (h : isOpening e = true ∨ isClosing e = true) :
        Text.isLineBreak e = false := by
      simp only [isOpening, isClosing, Bool.or_eq_true, beq_iff_eq] at h
      rcases h with (((rfl | rfl) | rfl) | rfl) | (((rfl | rfl) | rfl) | rfl) <;> decide
    rw [hs]
    refine List.forall_mem_append.2 ⟨hn.oneLine, List.forall_mem_cons.2 ⟨hbracket o (.inl ho), ?_⟩⟩
    exact List.forall_mem_append.2 ⟨hi.oneLine, by simpa using hbracket c (.inr hc)⟩
  keeps := by
    rw [hs]
    exact hn.keeps.append (hi.keeps.enclosed ho hc hoc)

/-! ## Names -/

theorem isPlain_of_class {q : Char → Bool} (hq : ∀ c, isGapStart c = true → q c = false)
    (hmarks : ['[', '<', '\x7b', '(', ']', '>', '\x7d', ')', ',', '='].all (fun c => !q c) = true)
    {c : Char} (h : q c = true) : isPlain c = true := by
  have hsolid := isBlank_of_class hq h
  have hmark : c ∉ ['[', '<', '\x7b', '(', ']', '>', '\x7d', ')', ',', '='] := by
    intro hm
    have hnot := List.all_eq_true.1 hmarks c hm
    rw [h] at hnot
    cases hnot
  simp only [List.mem_cons, List.not_mem_nil, or_false, not_or] at hmark
  simp [isPlain, isOpening, isClosing, hsolid, hmark]

theorem isPlain_of_isWordChar {c : Char} (h : Text.isWordChar c = true) : isPlain c = true :=
  isPlain_of_class (fun _ => isWordChar_of_isGapStart) (by decide) h

theorem isPlain_of_isNameStart {c : Char} (h : Text.isNameStart c = true) : isPlain c = true :=
  isPlain_of_class (fun _ => isNameStart_of_isGapStart) (by decide) h

end Docstring

open Docstring

/-- No character of a name, nor its mark, is one that the readers look at. -/
theorem IsName.plain {kind : TokenKind} (hk : kind.isName) {cs : List Char}
    (h : IsName kind cs) : ∀ c ∈ cs, isPlain c = true :=
  h.forall_mem hk (fun _ => isPlain_of_isNameStart) (fun _ => isPlain_of_isWordChar) (by decide)
    (by decide)

/-- A path of constants is made of names and colons. -/
theorem ConstantPath.plain (p : ConstantPath) : ∀ c ∈ p.text.toList, isPlain c = true := by
  have hcolons : ∀ c ∈ "::".toList, Docstring.isPlain c = true := List.all_eq_true.1 (by decide)
  have hsegments := Text.forall_mem_intercalate hcolons fun s hs => (p.lexes s hs).plain rfl
  rw [text, String.toList_append]
  refine List.forall_mem_append.2 ⟨?_, hsegments⟩
  split
  · exact hcolons
  · simp

theorem ConstantPath.closes (p : ConstantPath) : Closes p.text := by
  obtain ⟨c, cs, hcs, -⟩ := p.solid
  refine closes_plain ?_ p.plain
  intro he
  simp [he] at hcs

namespace TypeExpr

/-- A type made of constant paths and words, with no procedure type in it. -/
inductive PathNamed : TypeExpr → Prop where
  | word {w : String} (h : w ∈ Parser.wordTypes) : PathNamed (.simple w)
  | path (p : ConstantPath) : PathNamed (.simple p.text)
  | nilable {inner : TypeExpr} (h : PathNamed inner) : PathNamed (.nilable inner)
  | union {alternatives : List TypeExpr} (h : ∀ t ∈ alternatives, PathNamed t) :
      PathNamed (.union alternatives)
  | generic (p : ConstantPath) {args : List TypeExpr} (h : ∀ t ∈ args, PathNamed t) :
      PathNamed (.generic p.text args)
  | keyed (p : ConstantPath) {key value : TypeExpr} (hk : PathNamed key) (hv : PathNamed value) :
      PathNamed (.keyed p.text key value)
  | tuple {elements : List TypeExpr} (h : ∀ t ∈ elements, PathNamed t) :
      PathNamed (.tuple elements)
  | fixedHash : PathNamed .fixedHash
  | untyped : PathNamed .untyped

/-- What an argument shows as can stand in brackets, alone or beside others. -/
theorem enclosable_argumentText {types : List String} (h : ∀ s ∈ types, Closes s)
    (isUnion : Bool) : Enclosable (argumentText isUnion types).toList := by
  unfold argumentText
  split
  · exact enclosable_commaJoin fun s hs => (h s hs).enclosable
  · cases types with
    | nil => exact enclosable_nil
    | cons s types => exact (h s List.mem_cons_self).enclosable

theorem enclosable_arguments {ts : List TypeExpr} (h : ∀ t ∈ ts, ∀ s ∈ t.render, Closes s) :
    Enclosable (commaJoin (arguments ts)).toList := by
  refine enclosable_commaJoin ?_
  induction ts with
  | nil => simp [arguments]
  | cons t ts ih =>
    obtain ⟨ht, hts⟩ := List.forall_mem_cons.1 h
    rw [arguments]
    exact List.forall_mem_cons.2 ⟨enclosable_argumentText ht _, ih hts⟩

/-- **Rendered types.** Every string that a type made of constant paths is shown as closes what it
opens. -/
theorem PathNamed.rendered {t : TypeExpr} (h : PathNamed t) : ∀ s ∈ t.render, Closes s := by
  have hword (w : String) (hw : w ∈ Parser.wordTypes) : Closes w := by
    refine closes_plain ?_ ((isName_wordTypes w hw).plain rfl)
    rintro rfl
    exact absurd hw (by decide)
  induction h with
  | word hw => simpa [render] using hword _ hw
  | path p => simpa [render] using p.closes
  | nilable h ih =>
    rw [render]
    exact List.forall_mem_append.2 ⟨ih, by simpa using hword "nil" (by decide)⟩
  | union h ih =>
    intro s hs
    rw [render] at hs
    obtain ⟨t, ht, hm⟩ := mem_renderAll.1 hs
    exact ih t ht s hm
  | @generic p args h ih =>
    rw [render]
    refine List.forall_mem_singleton.2 ?_
    exact closes_enclosed (o := '<') (c := '>') (by decide) (by decide) (by decide) p.closes
      (enclosable_arguments ih) (by simp)
  | @keyed p key value hk hv ihk ihv =>
    have harrow : Enclosable " => ".toList := ⟨keeps_arrow 1, by simp [Text.isLineBreak]⟩
    have hinner := (enclosable_argumentText ihk key.isUnion).append
      (harrow.append (enclosable_argumentText ihv value.isUnion))
    rw [← String.toList_append, ← String.toList_append] at hinner
    rw [render]
    refine List.forall_mem_singleton.2 ?_
    exact closes_enclosed (o := '\x7b') (c := '\x7d') (by decide) (by decide) (by decide) p.closes
      hinner (by simp)
  | @tuple elements h ih =>
    rw [render]
    refine List.forall_mem_singleton.2 ?_
    have harray : Closes "Array" := closes_plain (by decide) (List.all_eq_true.1 (by decide))
    exact closes_enclosed (o := '(') (c := ')') (by decide) (by decide) (by decide) harray
      (enclosable_arguments ih) (by simp)
  | fixedHash => simpa [render] using closes_plain (by decide) (List.all_eq_true.1 (by decide))
  | untyped => simpa [render] using closes_plain (by decide) (List.all_eq_true.1 (by decide))

end TypeExpr

end TypeTags
