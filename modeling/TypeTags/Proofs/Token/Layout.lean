import TypeTags.Proofs.Signature.Lines
import TypeTags.Proofs.Token.Joined

/-!
# Where tokens stand

A token of a text stands where its offsets say: its first character is there and is no white space,
and later tokens start further on. Whatever part of the tokens a reader is given, and wherever the
part ends, this stays true.

Results:
* `tokenize_laid`: the tokens of a text are laid out in it.
* `tokenize_offset_le`: a literal that is never closed is reported inside the text.
-/

namespace TypeTags

/-- The token is a lexeme that starts in the source before its boundary. -/
structure Token.Stands (s : Source) (t : Token) : Prop where
  value_ne : t.value ≠ ""
  start_lt_stop : t.start < t.stop
  start_lt_boundary : t.start < s.boundary
  solid : ∃ c, s.text[t.start]? = some c ∧ Text.isBlank c = false

/-- The tokens stand in the source, one behind the other. -/
structure Laid (s : Source) (ts : List Token) : Prop where
  boundary_le : s.boundary ≤ s.text.length
  stands : ∀ t ∈ ts, t.Stands s
  sorted : ts.Pairwise fun a b => a.start < b.start

namespace Laid

variable {s : Source} {t : Token} {ts us : List Token}

theorem sublist (h : Laid s ts) (hs : us.Sublist ts) : Laid s us :=
  ⟨h.boundary_le, fun t ht => h.stands t (hs.subset ht), h.sorted.sublist hs⟩

theorem suffix (h : Laid s ts) (hs : us <:+ ts) : Laid s us := h.sublist hs.sublist

theorem tail (h : Laid s (t :: ts)) : Laid s ts := h.suffix (List.suffix_cons t ts)

theorem head (h : Laid s (t :: ts)) : t.Stands s := h.stands t List.mem_cons_self

/-- A source that ends earlier, but behind the tokens. -/
theorem cutOff (h : Laid s ts) {boundary : Nat} (hb : boundary ≤ s.boundary)
    (ht : ∀ t ∈ ts, t.start < boundary) : Laid ⟨s.text, boundary⟩ ts := by
  refine ⟨Nat.le_trans hb h.boundary_le, fun t hm => ?_, h.sorted⟩
  have hstands := h.stands t hm
  exact ⟨hstands.value_ne, hstands.start_lt_stop, ht t hm, hstands.solid⟩

theorem start_le (h : Laid s ts) (ht : t ∈ ts) : t.start ≤ s.text.length :=
  Nat.le_trans (Nat.le_of_lt (h.stands t ht).start_lt_boundary) h.boundary_le

end Laid

/-! ## The tokens of a text -/

/-- A lexeme starts with the first character of its text, which is no white space. -/
theorem Piece.firstPiece_solid {glued : Bool} {c : Char} {cs ds rest : List Char} {kind : TokenKind}
    (h : firstPiece glued c cs = some (.lexeme kind ds, rest)) :
    Text.isBlank c = false ∧ ∃ es, ds = c :: es := by
  constructor
  · cases hb : Text.isBlank c with
    | false => rfl
    | true => simp [firstPiece, hb] at h
  · have hchars := firstPiece_append h
    have hne := firstPiece_ne_nil h
    simp only [chars] at hchars hne
    cases ds with
    | nil => exact absurd rfl hne
    | cons d es =>
      obtain rfl : d = c := (List.cons.inj hchars).1
      exact ⟨es, rfl⟩

theorem locate_start_le {offset line : Nat} {ps : List Piece} {t : Token}
    (h : t ∈ Token.locate offset line ps) : offset ≤ t.start := by
  induction ps generalizing offset line with
  | nil =>
    rw [List.mem_singleton.1 h]
    exact Nat.le_refl _
  | cons p ps ih =>
    cases p with
    | gap cs => exact Nat.le_trans (Nat.le_add_right _ _) (ih h)
    | lexeme kind cs =>
      rcases List.mem_cons.1 h with rfl | h
      · exact Nat.le_refl _
      · exact Nat.le_trans (Nat.le_add_right _ _) (ih h)

/-- The tokens of the rest of a text, behind some characters. -/
theorem locate_laid (glued : Bool) (before cs : List Char) (line : Nat) :
    Laid ⟨before ++ cs, (before ++ cs).length⟩
      (Token.locate before.length line (cut glued cs).pieces).dropLast := by
  -- one piece is moved to the characters before
  fun_induction cut glued cs generalizing before line with
  | case1 glued => exact ⟨Nat.le_refl _, by simp [Token.locate], by simp [Token.locate]⟩
  | case2 glued c cs h => exact ⟨Nat.le_refl _, by simp [Token.locate], by simp [Token.locate]⟩
  | case3 glued c cs piece rest h after ih =>
    have hchars := Piece.firstPiece_append h
    have hbehind := ih (before ++ piece.chars) (line + piece.lineFeeds)
    have hlen : (before ++ piece.chars).length = before.length + piece.chars.length :=
      List.length_append
    rw [List.append_assoc, hchars, hlen] at hbehind
    cases piece with
    | gap ds => exact hbehind
    | lexeme kind ds =>
      obtain ⟨hblank, es, rfl⟩ := Piece.firstPiece_solid h
      simp only [Token.locate, List.dropLast_cons_of_ne_nil (locate_ne_nil _ _ _)]
      refine ⟨Nat.le_refl _, fun t ht => ?_, List.pairwise_cons.2 ⟨fun t ht => ?_, hbehind.sorted⟩⟩
      · rcases List.mem_cons.1 ht with rfl | ht
        · exact ⟨by simp, by simp, by simp, c, by simp, hblank⟩
        · exact hbehind.stands t ht
      · have := locate_start_le (List.dropLast_subset _ ht)
        simp only [List.length_cons] at this ⊢
        omega

theorem tokenize_laid {text : List Char} {ts : List Token} (h : tokenize text = .ok ts) :
    Laid ⟨text, text.length⟩ ts.dropLast := by
  unfold tokenize at h
  split at h
  · rename_i pieces hcut
    cases h
    simpa [hcut] using locate_laid false [] text 1
  · cases h

theorem tokenize_offset_le {text : List Char} {fault : Fault} (h : tokenize text = .error fault) :
    fault.cause = .unterminatedString ∧ ∀ offset ∈ fault.offset, offset ≤ text.length := by
  unfold tokenize at h
  split at h
  · cases h
  · cases h
    refine ⟨rfl, ?_⟩
    rintro offset ⟨⟩
    exact Nat.sub_le _ _

end TypeTags
