import TypeTags.Proofs.Segment.SourceLines
import TypeTags.Proofs.Segment.Words
import TypeTags.Proofs.Signature.Block

/-!
# Signature blocks from `do` to `end`

A chain that is a signature by itself is one when it stands in a `do` block, whatever names it
holds. The reader that finds such a block in source text agrees on where it ends exactly when the
words `do` and `end` inside the chain balance: it takes a parameter, a symbol or a modifier of that
name for the word that opens or closes a block.

Results:
* `balanced_of_names`: a text that names nothing `do` or `end` balances.
* `Segment.afterSig_doBlock`: the whole block is read exactly if the words inside balance.
* `Segment.segments_doBlock`: the same of the segments that the block is broken into.
* `Segment.doBlock_signature`: both readers on the block around a chain.
-/

namespace TypeTags

open Signature (doBlock)

/-- The words `do` and `end` in a text balance: none closes the block around the text, and all
blocks opened inside are closed. -/
def Balanced (cs : List Char) : Prop := blockDepth 1 false (cut false cs).pieces = some 1

instance (cs : List Char) : Decidable (Balanced cs) := inferInstanceAs (Decidable (_ = _))

/-- The names and symbols that a reader of words takes for those that open and close blocks. -/
def blockNames : List (List Char) := ["do", "end", ":do", ":end"].map String.toList

theorem nesting_eq_zero {p : Piece} (h : p.chars ∉ blockNames) (glued marked : Bool) :
    p.nesting glued marked = 0 := by
  have hword : ∀ word : List Char, word ≠ ['d', 'o'] → word ≠ ['e', 'n', 'd'] →
      Segment.nesting word = 0 := by
    intro word hd he
    rw [Segment.nesting, if_neg hd, if_neg he]
  simp only [blockNames, List.map_cons, List.map_nil, List.mem_cons, List.not_mem_nil, or_false,
    not_or] at h
  obtain ⟨h1, h2, h3, h4⟩ := h
  unfold Piece.nesting
  split
  · rfl
  · split
    · rename_i cs he
      rw [he] at h3 h4
      exact hword cs (fun e => h3 (by rw [e]; rfl)) (fun e => h4 (by rw [e]; rfl))
    · split
      · rfl
      · exact hword _ h1 h2

/-- A text without such names balances. -/
theorem balanced_of_names {cs : List Char}
    (h : ∀ p ∈ (cut false cs).pieces, p.chars ∉ blockNames) : Balanced cs := by
  have hdepth : ∀ (ps : List Piece) (glued : Bool), (∀ p ∈ ps, p.chars ∉ blockNames) →
      blockDepth 1 glued ps = some 1 := by
    intro ps
    induction ps with
    | nil => exact fun _ _ => rfl
    | cons p ps ih =>
      intro glued hps
      have hp := hps p List.mem_cons_self
      simp only [blockDepth, nesting_eq_zero hp]
      exact ih _ fun q hq => hps q (List.mem_cons_of_mem _ hq)
  exact hdepth _ false h

namespace Segment

/-! ## Where the block ends -/

theorem afterEnd_end (depth : Int) :
    afterEnd depth (.code false) ['e', 'n', 'd'] = if depth = 1 then some [] else none := by
  have hopen : afterEnd depth (.code false) ['e', 'n', 'd'] =
      afterEnd depth (.word ['e']) (['n', 'd'] ++ []) := rfl
  have hword : ∀ c ∈ ['n', 'd'], Text.isWordChar c = true := by
    intro c hc
    simp only [List.mem_cons, List.not_mem_nil, or_false] at hc
    rcases hc with rfl | rfl <;> decide
  rw [hopen, afterEnd_readWord hword]
  simp [afterEnd, closesBlock]

theorem afterSig_doBlock_eq (cs : List Char) :
    afterSig (doBlock cs) = afterEnd 1 (.code false) (cs ++ '\n' :: ['e', 'n', 'd']) := by
  have htext : doBlock cs =
      's' :: 'i' :: 'g' :: ' ' :: 'd' :: 'o' :: '\n' :: (cs ++ '\n' :: ['e', 'n', 'd']) := rfl
  have hsig : afterSigWord? (doBlock cs) =
      some ('d' :: 'o' :: '\n' :: (cs ++ '\n' :: ['e', 'n', 'd'])) := by
    rw [htext]
    simp [afterSigWord?, startsInWord, startsWithDo, show Text.isWordChar ' ' = false by decide,
      show Text.isWordChar '\n' = false by decide, show Text.isBlank ' ' = true by decide,
      show Text.isBlank 'd' = false by decide]
  simp only [afterSig, hsig, afterBlock]
  simp [afterEnd, show isWordStart 'd' = true by decide, show Text.isWordChar 'o' = true by decide,
    show Text.isWordChar '\n' = false by decide, closesBlock, nesting, WordMode.between, isQuote]

theorem afterSig_doBlock {cs : List Char} (h : (cut false cs).stuck = []) :
    afterSig (doBlock cs) = some [] ↔ Balanced cs := by
  have hread := afterEnd_pieces h (Int.le_refl 1) false ['e', 'n', 'd']
  rw [afterSig_doBlock_eq]
  unfold Balanced
  cases hb : blockDepth 1 false (cut false cs).pieces with
  | none =>
    rw [hb] at hread
    obtain ⟨rest, hrest⟩ := hread
    rw [hrest]
    simp
  | some depth =>
    rw [hb] at hread
    rw [hread.2, afterEnd_end]
    split
    · subst_vars; simp
    · simp_all

theorem sigExtent_doBlock {cs : List Char} (h : (cut false cs).stuck = []) :
    sigExtent (doBlock cs) 0 = some (doBlock cs).length ↔ Balanced cs := by
  rw [← afterSig_doBlock h]
  have hpos : 0 < (doBlock cs).length := by simp [doBlock, blockText]
  unfold sigExtent
  rw [List.drop_zero, Option.map_eq_some_iff]
  constructor
  · rintro ⟨rest, hrest, hlen⟩
    rw [hrest, List.length_eq_zero_iff.1 (show rest.length = 0 by omega)]
  · intro hrest
    exact ⟨[], hrest, by simp⟩

/-! ## The segments of a block -/

/-- A last line that holds code gives a segment, unless it belongs to the one before. -/
theorem fromLines_ne_nil (isFirst inBlock : Bool) (line : Int) (rest : List Char)
    {pieces : List (List Char)} {last : List Char} (hlast : pieces.getLast? = some last)
    (hcode : classify last = .code) :
    fromLines isFirst inBlock 0 line rest pieces ≠ [] := by
  induction pieces generalizing isFirst inBlock line rest with
  | nil => cases hlast
  | cons piece pieces ih =>
    cases pieces with
    | nil =>
      rw [List.getLast?_singleton, Option.some.injEq] at hlast
      simp only [fromLines, hlast, hcode]
      split <;> simp
    | cons next pieces =>
      have ih := ih false false (line + 1) (rest.drop (piece.length + 1)) hlast
      simp only [fromLines] at ih ⊢
      split
      · simp
      · split
        · simp
        · split
          · exact ih
          · simp
        all_goals simp

/-- The first line of a block opens a segment; what is left of the block follows. -/
theorem segments_doBlock_eq (cs : List Char) (line : Int) :
    segments (doBlock cs) line =
      ⟨.sig, (sigBlock (doBlock cs)).1, line, line + (sigBlock (doBlock cs)).2⟩ ::
        fromLines false false (sigBlock (doBlock cs)).2 (line + 1) (cs ++ '\n' :: ['e', 'n', 'd'])
          (Text.sourceLines (cs ++ '\n' :: ['e', 'n', 'd'])) := by
  have hopens : OpensBlock "sig do".toList :=
    ⟨by decide, by decide, fun rest => List.dropWhile_cons_of_neg (by decide)⟩
  exact segments_block_eq hopens (cs ++ '\n' :: ['e', 'n', 'd']) line

theorem sourceLines_block (cs : List Char) :
    (Text.sourceLines (cs ++ '\n' :: ['e', 'n', 'd'])).length = (doBlock cs).count '\n' ∧
      (Text.sourceLines (cs ++ '\n' :: ['e', 'n', 'd'])).getLast? = some ['e', 'n', 'd'] := by
  unfold Text.sourceLines
  refine ⟨?_, ?_⟩
  · rw [splitOnChar_length]
    simp [doBlock, blockText]
  · rw [splitOnChar_append, List.getLast?_append]
    rfl

/-- The block is one segment by itself exactly if the words inside balance. -/
theorem segments_doBlock {cs : List Char} (h : (cut false cs).stuck = []) (line last : Int) :
    segments (doBlock cs) line = [⟨.sig, doBlock cs, line, last⟩] ↔
      Balanced cs ∧ last = line + (doBlock cs).count '\n' := by
  rw [← afterSig_doBlock h, segments_doBlock_eq]
  obtain ⟨hlines, hlast⟩ := sourceLines_block cs
  cases ha : afterSig (doBlock cs) with
  | none =>
    have hblock : sigBlock (doBlock cs) = (doBlock cs, 0) := by simp [sigBlock, ha]
    have hne := fromLines_ne_nil false false (line + 1) (cs ++ '\n' :: ['e', 'n', 'd']) hlast
      (by decide)
    simp [hblock, hne]
  | some rest =>
    have hblock : sigBlock (doBlock cs) = ((doBlock cs).take ((doBlock cs).length - rest.length),
        ((doBlock cs).take ((doBlock cs).length - rest.length)).count '\n') := by
      simp [sigBlock, ha]
    cases rest with
    | nil =>
      rw [List.length_nil, Nat.sub_zero, List.take_length] at hblock
      rw [hblock, fromLines_skip _ _ _ _ (Nat.le_of_eq hlines)]
      simp [eq_comm]
    | cons c rest =>
      have hpos : 0 < (doBlock cs).length := by simp [doBlock, blockText]
      have hshort : (doBlock cs).take ((doBlock cs).length - (c :: rest).length) ≠ doBlock cs := by
        intro he
        have := congrArg List.length he
        rw [List.length_take, List.length_cons] at this
        omega
      rw [hblock]
      constructor
      · intro he
        exact absurd (congrArg Segment.text (List.cons.inj he).1) hshort
      · rintro ⟨he, -⟩
        cases he

/-! ## Both readers -/

/-- **`do` blocks.** Let a chain that does not start with the word `sig` be a signature by itself,
read without notes. In a `do` block it is the same signature, one line further down. The block is
one segment, and ends where its text does, exactly if the words `do` and `end` inside the chain
balance. -/
theorem doBlock_signature {cs : List Char} {line : Int} {sig : Signature} (hb : IsBare cs)
    (h : Signature.parse (String.ofList cs) line = ⟨.ok sig, []⟩) (start last : Int) :
    Signature.parse (String.ofList (doBlock cs)) line =
        ⟨.ok { sig with span := sig.span.map (LineSpan.down 1) }, []⟩ ∧
      (segments (doBlock cs) start = [⟨.sig, doBlock cs, start, last⟩] ↔
        Balanced cs ∧ last = start + (doBlock cs).count '\n') ∧
      (sigExtent (doBlock cs) 0 = some (doBlock cs).length ↔ Balanced cs) := by
  have hstuck := (Signature.parse_bare hb h).1
  exact ⟨Signature.parse_doBlock hb h, segments_doBlock hstuck start last,
    sigExtent_doBlock hstuck⟩

-- a parameter that is called `end` closes the block around it
example : ¬ Balanced "params(end: Integer).void".toList ∧
    sigExtent (doBlock "params(end: Integer).void".toList) 0 = some 17 := by
  decide +kernel

/-- A chain with a parameter and a symbol that only look like the words of blocks. -/
def plainChain : List Char :=
  "foo(:ending).params(do_: T.nilable(String)).returns(Integer)".toList

theorem doBlock_signature_plainChain : IsBare plainChain ∧ Balanced plainChain ∧
    ∃ sig, Signature.parse (String.ofList plainChain) 1 = ⟨.ok sig, []⟩ ∧
      Signature.parse (String.ofList (doBlock plainChain)) 1 =
        ⟨.ok { sig with span := sig.span.map (LineSpan.down 1) }, []⟩ ∧
      segments (doBlock plainChain) 1 = [⟨.sig, doBlock plainChain, 1, 3⟩] ∧
      sigExtent (doBlock plainChain) 0 = some (doBlock plainChain).length := by
  have hb : IsBare plainChain := by decide +kernel
  have hw : Balanced plainChain := by decide +kernel
  obtain ⟨sig, h⟩ := Signature.exists_of_accepted
    (show (Signature.parse (String.ofList plainChain) 1).accepted = true by decide +kernel)
  obtain ⟨hparse, hsegments, hextent⟩ := doBlock_signature hb h 1 3
  exact ⟨hb, hw, sig, h, hparse, hsegments.2 ⟨hw, by decide⟩, hextent.2 hw⟩

end Segment

end TypeTags
