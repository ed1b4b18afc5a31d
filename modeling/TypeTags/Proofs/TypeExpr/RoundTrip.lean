import TypeTags.Proofs.TypeExpr.Spelling

/-!
# Rendering a type and reading it back

The types that documentation can spell without loss are those built from plain names, untyped
values, fixed arrays and collections (`TypeExpr.Documented`). Such a type renders to exactly one
string, and that string is a written form of it.

Results:
* `TypeExpr.Documented.spelled`: the rendering of a documented type is a written form of it.
* `TypeExpr.parse_of_spelling`: a written form is read back as the type it is a form of.
* `TypeExpr.parse_render`: a documented type renders to one string and is read back from it.
-/

namespace TypeTags

namespace TypeExpr

/-- A type that documentation spells without loss. Paths that mean something else when they are read
are left out: `NilClass` is `nil`, a bare `Hash` is a hash without declared types, and `T::X` goes
by the name `X`. -/
inductive Documented : TypeExpr → Prop where
  | word {w : String} (h : w ∈ Parser.wordTypes) : Documented (.simple w)
  | path (p : ConstantPath) (hn : p.text ≠ "NilClass") (hb : p.text ≠ "Hash") (hh : ¬ p.IsHelper) :
      Documented (.simple p.text)
  | fixedHash : Documented .fixedHash
  | untyped : Documented .untyped
  | tuple {elements : List TypeExpr} (hne : elements ≠ []) (h : ∀ t ∈ elements, Documented t) :
      Documented (.tuple elements)
  | generic (p : ConstantPath) (hn : p.text ≠ "NilClass") (hh : ¬ p.IsHelper)
      {args : List TypeExpr} (hne : args ≠ []) (h : ∀ t ∈ args, Documented t) :
      Documented (.generic p.text args)
  | keyed (p : ConstantPath) (hn : p.text ≠ "NilClass") (hh : ¬ p.IsHelper) {key value : TypeExpr}
      (hk : Documented key) (hv : Documented value) : Documented (.keyed p.text key value)

/-- A type that renders to one string, which is a written form of it. -/
def Spelled (t : TypeExpr) : Prop :=
  ∃ s ps, t.isUnion = false ∧ t.render = [s] ∧ Spelling t s.toList ps

/-- The arguments of a collection, each rendered to a written form, make up a list of forms. -/
theorem listSpelling_arguments {ts : List TypeExpr} (hne : ts ≠ []) (h : ∀ t ∈ ts, Spelled t) :
    ∃ ps, ListSpelling ts (commaJoin (arguments ts)).toList ps := by
  induction ts with
  | nil => exact absurd rfl hne
  | cons t ts ih =>
    obtain ⟨s, ps, hu, hr, hs⟩ := h t List.mem_cons_self
    have harg : argumentText t.isUnion t.render = s := by simp [hu, hr, argumentText]
    cases ts with
    | nil =>
      refine ⟨ps, ?_⟩
      simpa [arguments, harg, commaJoin] using listSpelling_single hs
    | cons u us =>
      obtain ⟨qs, hq⟩ := ih (by simp) fun t ht => h t (List.mem_cons_of_mem _ ht)
      have e : (commaJoin (arguments (t :: u :: us))).toList =
          s.toList ++ ([','] ++ ([' '] ++ (commaJoin (arguments (u :: us))).toList)) := by
        simp [arguments, harg, commaJoin, String.intercalate_cons_cons]
      exact ⟨_, e ▸ listSpelling_cons hs hq⟩

/-- A documented type renders to a written form of it. -/
theorem Documented.spelled {t : TypeExpr} (h : Documented t) : Spelled t := by
  induction h with
  | word h => exact ⟨_, _, rfl, by simp [render], spelling_word h⟩
  | path p hn hb hh =>
    have hs := spelling_bare p hn hh
    rw [Parser.bare, if_neg hb] at hs
    exact ⟨_, _, rfl, by simp [render], hs⟩
  | fixedHash =>
    have hs := spelling_bare hashPath (by decide) (by simp [ConstantPath.IsHelper, hashPath])
    exact ⟨"Hash", _, rfl, by simp [render], hs⟩
  | untyped => exact ⟨_, _, rfl, by simp [render], spelling_untyped⟩
  | @tuple elements hne h ih =>
    obtain ⟨ps, hl⟩ := listSpelling_arguments hne ih
    have e : ("Array(" ++ commaJoin (arguments elements) ++ ")").toList =
        "Array".toList ++ (['('] ++ ((commaJoin (arguments elements)).toList ++ [')'])) := by
      simp
    exact ⟨_, _, rfl, by rw [render], e ▸ spelling_tuple hl⟩
  | @generic p hn hh args hne h ih =>
    obtain ⟨ps, hl⟩ := listSpelling_arguments hne ih
    have e : (p.text ++ "<" ++ commaJoin (arguments args) ++ ">").toList =
        p.text.toList ++ (['<'] ++ ((commaJoin (arguments args)).toList ++ ['>'])) := by
      simp
    exact ⟨_, _, rfl, by rw [render], e ▸ spelling_generic p hn hh hl⟩
  | keyed p hn hh hk hv ihk ihv =>
    obtain ⟨k, ps, hku, hkr, hks⟩ := ihk
    obtain ⟨v, qs, hvu, hvr, hvs⟩ := ihv
    have e : (p.text ++ "\x7b" ++ k ++ " => " ++ v ++ "\x7d").toList = p.text.toList ++ (['{'] ++
        (k.toList ++ ([' '] ++ (['=', '>'] ++ ([' '] ++ (v.toList ++ ['}'])))))) := by
      simp
    refine ⟨_, _, rfl, ?_, e ▸ spelling_keyed p hn hh hks hvs⟩
    rw [render, hku, hkr, hvu, hvr]
    rfl

/-- A written form of a type, by itself, is read as that type. -/
theorem parse_of_spelling {t : TypeExpr} {s : String} {ps : List Piece}
    (h : Spelling t s.toList ps) : TypeExpr.parse s = .ok t := by
  have hcut := (h.cuts endsName_nil).cut_eq
  have hread : Parser.type ⟨s.toList, s.toList.length⟩ (Token.locate 0 1 ps).dropLast =
      .ok t [] [] := by
    rw [Parser.type, ← List.append_nil (Token.locate 0 1 ps).dropLast]
    exact h.reads (words_locate 0 1 ps) (by simp) (endsType_nil _)
  simp only [TypeExpr.parse, tokenize_of_cut hcut, hread]

/-- **Round trip.** Every type that documentation spells without loss, of any depth, renders to
exactly one string, and reading that string gives the type back. -/
theorem parse_render {t : TypeExpr} (h : Documented t) :
    ∃ s, t.render = [s] ∧ TypeExpr.parse s = .ok t := by
  obtain ⟨s, ps, -, hr, hs⟩ := h.spelled
  exact ⟨s, hr, parse_of_spelling hs⟩

/-- A hash of words to collections of fixed arrays and hashes. -/
def nestedType : TypeExpr :=
  .keyed "Hash" (.simple "String")
    (.generic "::Foo::Bar" [.tuple [.simple "nil", .untyped], .fixedHash])

theorem documented_nestedType : Documented nestedType := by
  have hs : Documented (.simple "String") :=
    .path ⟨false, "String", [], by unfold IsName; decide +kernel⟩ (by decide) (by decide)
      (by simp [ConstantPath.IsHelper])
  have ht : Documented (.tuple [.simple "nil", .untyped]) := by
    refine .tuple (by simp) ?_
    simp [Documented.word (w := "nil") (by decide), Documented.untyped]
  have hg : Documented (.generic "::Foo::Bar" [.tuple [.simple "nil", .untyped], .fixedHash]) := by
    refine .generic ⟨true, "Foo", ["Bar"], by unfold IsName; decide +kernel⟩ (by decide)
      (by simp [ConstantPath.IsHelper]) (by simp) ?_
    simp [ht, Documented.fixedHash]
  exact .keyed hashPath (by decide) (by simp [ConstantPath.IsHelper, hashPath]) hs hg

theorem parse_render_nestedType : Documented nestedType ∧
    ∃ s, nestedType.render = [s] ∧ TypeExpr.parse s = .ok nestedType :=
  ⟨documented_nestedType, parse_render documented_nestedType⟩

end TypeExpr

end TypeTags
