import Mathlib.Tactic.IntervalCases
import TypeTags.Json.Reader
import TypeTags.Json.Writer

/-!
# Strings and integers, written and read back

A string is read back whatever characters it holds: escapes are undone one character at a time, and
no character of a string is half of a pair. An integer is read back if what stands behind it cannot
go on with a number, unless it has more digits than are read: then, and only then, it is refused.

Results:
* `readString_escaped`: a string is read back, with any text behind it.
* `readScalar_writeInt`: an integer below the limit is read back, and one above it is refused.
-/

namespace TypeTags.Json

/-! ## Strings -/

/-- The escape of a control character is the code of that character. -/
theorem codeUnit_hexDigits {n : Nat} (h : n < 0x20) :
    ∃ a b c d, Text.hexDigits 4 n = [a, b, c, d] ∧ codeUnit a b c d = some n := by
  interval_cases n <;> exact ⟨_, _, _, _, rfl, rfl⟩

/-- One written character is read as its code. The reader looks one character further than an
escape, so that the text behind it must not be empty. -/
theorem stringCodes_escapedChar (opening : Nat) (c e : Char) (rest : List Char) :
    stringCodes opening (escapedChar c ++ e :: rest) =
      consCode c.toNat (stringCodes opening (e :: rest)) := by
  fun_cases escapedChar c with
  | case1 hc | case2 _ hc | case3 _ _ hc | case4 _ _ _ hc | case5 _ _ _ _ hc
  | case6 _ _ _ _ _ hc | case7 _ _ _ _ _ _ hc => simp [hc, stringCodes, letterEscape]
  | case8 _ _ _ _ _ _ _ hcontrol =>
    obtain ⟨x, y, z, w, hdigits, hcode⟩ := codeUnit_hexDigits hcontrol
    simp [hdigits, stringCodes, hcode]
  | case9 hquote hslash _ _ _ _ _ hcontrol =>
    rw [List.singleton_append, stringCodes]
    · rw [if_neg hcontrol]
    all_goals simp [hquote, hslash]

/-- The codes of written characters, up to the closing quote. -/
theorem stringCodes_escaped (opening : Nat) (cs rest : List Char) :
    stringCodes opening (cs.flatMap escapedChar ++ '"' :: rest) =
      .ok (cs.map Char.toNat, rest) := by
  induction cs with
  | nil => simp [stringCodes]
  | cons c cs ih =>
    obtain ⟨e, tail, htail⟩ : ∃ e tail, cs.flatMap escapedChar ++ '"' :: rest = e :: tail :=
      List.exists_cons_of_ne_nil (by simp)
    rw [List.flatMap_cons, List.append_assoc, htail, stringCodes_escapedChar, ← htail, ih]
    rfl

theorem codeChar_toNat (c : Char) : codeChar c.toNat = c := by
  have hvalid : c.toNat < 0xd800 ∨ 0xdfff < c.toNat ∧ c.toNat < 0x110000 := c.valid
  rw [codeChar, if_neg (by omega), Char.ofNat_toNat]

/-- No character is half of a pair. -/
theorem isHighHalf_toNat (c : Char) : isHighHalf c.toNat = false := by
  have hvalid : c.toNat < 0xd800 ∨ 0xdfff < c.toNat ∧ c.toNat < 0x110000 := c.valid
  simp only [isHighHalf, Bool.and_eq_false_iff, decide_eq_false_iff_not]
  omega

/-- Codes of characters stand for these characters, one by one. -/
theorem joinPairs_toNat (cs : List Char) : joinPairs (cs.map Char.toNat) = cs := by
  induction cs with
  | nil => rfl
  | cons c cs ih =>
    cases cs with
    | nil => simp [joinPairs, codeChar_toNat]
    | cons d cs =>
      rw [List.map_cons, List.map_cons, joinPairs, isHighHalf_toNat, codeChar_toNat]
      simpa using ih

/-- A written string is read back. -/
theorem readString_escaped (s : String) (rest : List Char) :
    readString (s.toList.flatMap escapedChar ++ '"' :: rest) = .ok (s, rest) := by
  simp only [readString, stringCodes_escaped, joinPairs_toNat, String.ofList_toList]

/-! ## Integers -/

/-- A character that goes on with a number. -/
def goesOn (c : Char) : Bool := c.isDigit || c == '.' || c == 'e' || c == 'E'

/-- A text that does not go on with a number in front of it. -/
def Delimited (rest : List Char) : Prop := ∀ c ∈ rest.head?, goesOn c = false

theorem delimited_nil : Delimited [] := by simp [Delimited]

theorem delimited_cons {c : Char} {rest : List Char} :
    Delimited (c :: rest) ↔ goesOn c = false := by
  simp [Delimited]

theorem Delimited.takeWhile_isDigit {rest : List Char} (h : Delimited rest) :
    rest.takeWhile Char.isDigit = [] := by
  cases rest with
  | nil => rfl
  | cons c rest =>
    have hc := delimited_cons.1 h
    simp_all [goesOn]

theorem Delimited.dropWhile_isDigit {rest : List Char} (h : Delimited rest) :
    rest.dropWhile Char.isDigit = rest := by
  cases rest with
  | nil => rfl
  | cons c rest =>
    have hc := delimited_cons.1 h
    simp_all [goesOn]

theorem Delimited.fractionDigits {rest : List Char} (h : Delimited rest) :
    fractionDigits rest = ([], rest) := by
  unfold Json.fractionDigits
  split
  · have hpoint := delimited_cons.1 h
    simp [goesOn] at hpoint
  · rfl

theorem Delimited.exponent? {rest : List Char} (h : Delimited rest) : exponent? rest = none := by
  cases rest with
  | nil => rfl
  | cons c rest =>
    have hc := delimited_cons.1 h
    simp_all [goesOn, Json.exponent?]

/-- A number above zero does not start with a zero. -/
theorem toDigits_head {n : Nat} (hn : 0 < n) : ∃ c cs, Nat.toDigits 10 n = c :: cs ∧ c ≠ '0' := by
  induction n using Nat.strongRecOn with
  | ind n ih =>
    rcases Nat.lt_or_ge n 10 with hlt | hge
    · refine ⟨_, [], Nat.toDigits_of_lt_base hlt, ?_⟩
      interval_cases n <;> decide
    · obtain ⟨c, cs, hdigits, hc⟩ := ih (n / 10) (by omega) (by omega)
      exact ⟨c, _, by rw [Nat.toDigits_of_base_le (by decide) hge, hdigits, List.cons_append], hc⟩

theorem isDigit_of_mem {n : Nat} {c : Char} (h : c ∈ Nat.toDigits 10 n) : c.isDigit = true :=
  Nat.isDigit_of_mem_toDigits (by decide) (by decide) h

/-- A number starts with a digit. -/
theorem exists_toDigits_eq (n : Nat) :
    ∃ c cs, Nat.toDigits 10 n = c :: cs ∧ c.isDigit = true := by
  obtain ⟨c, cs, hdigits⟩ := List.exists_cons_of_ne_nil (Nat.toDigits_ne_nil (n := n) (b := 10))
  exact ⟨c, cs, hdigits, isDigit_of_mem (n := n) (by simp [hdigits])⟩

theorem integerDigits_toDigits (n : Nat) {rest : List Char} (h : Delimited rest) :
    integerDigits (Nat.toDigits 10 n ++ rest) = (Nat.toDigits 10 n, rest) := by
  rcases Nat.eq_zero_or_pos n with rfl | hn
  · rfl
  obtain ⟨c, cs, hdigits, hc⟩ := toDigits_head hn
  have hall : ∀ d ∈ Nat.toDigits 10 n, d.isDigit = true := fun d hd => isDigit_of_mem hd
  have hsplit : integerDigits (c :: cs ++ rest) =
      ((c :: cs ++ rest).takeWhile Char.isDigit, (c :: cs ++ rest).dropWhile Char.isDigit) := by
    rw [List.cons_append, integerDigits]
    rintro r heq
    exact hc (List.cons.inj heq).1
  rw [hdigits, hsplit, ← hdigits, List.takeWhile_append_of_pos hall,
    List.dropWhile_append_of_pos hall, h.takeWhile_isDigit, h.dropWhile_isDigit, List.append_nil]

theorem digitsValue_toDigits (n : Nat) : digitsValue (Nat.toDigits 10 n) = n := by
  have hfold := Nat.ofDigitChars_ten_toDigits (n := n)
  rw [Nat.ofDigitChars_eq_foldl] at hfold
  simpa only [digitsValue, Nat.mul_comm] using hfold

/-! ## Reading what was written -/

/-- The answer of a reader in front of something written: what was written with the text behind it
if that fits, and else that an integer has too many digits. -/
inductive ReadsBack {α : Type} (fits : Prop) (a : α) (rest : List Char) :
    Except Stop (α × List Char) → Prop where
  | whole (h : fits) : ReadsBack fits a rest (.ok (a, rest))
  | refused (h : ¬ fits) (digits left : Nat) :
      ReadsBack fits a rest (.error ⟨.longInteger digits, left⟩)

namespace ReadsBack

variable {α β : Type} {fits fits' : Prop} {a : α} {b : β} {rest rest' : List Char}
  {answer : Except Stop (α × List Char)}

theorem congr (h : ReadsBack fits a rest answer) (hiff : fits ↔ fits') :
    ReadsBack fits' a rest answer := by
  rwa [← propext hiff]

/-- Reading one thing after another: both have to fit. -/
theorem bind (h : ReadsBack fits a rest answer)
    {next : α × List Char → Except Stop (β × List Char)}
    (hnext : ReadsBack fits' b rest' (next (a, rest))) :
    ReadsBack (fits ∧ fits') b rest' (answer >>= next) := by
  cases h with
  | refused hlong digits left => exact .refused (fun hboth => hlong hboth.1) digits left
  | whole hfits => exact hnext.congr ⟨fun h => ⟨hfits, h⟩, And.right⟩

/-- Reading one thing and answering with something made of it. -/
theorem map (h : ReadsBack fits a rest answer) (f : α → β) :
    ReadsBack fits (f a) rest (answer >>= fun p => return (f p.1, p.2)) := by
  cases h with
  | whole hfits => exact .whole hfits
  | refused hlong digits left => exact .refused hlong digits left

end ReadsBack

theorem readNumber_toDigits (negative : Bool) (stop : Stop) (n : Nat) {rest : List Char}
    (h : Delimited rest) :
    ReadsBack (n < 10 ^ maxDigits) (int (if negative then -n else n)) rest
      (readNumber negative stop (Nat.toDigits 10 n ++ rest)) := by
  have hlength : (Nat.toDigits 10 n).length ≤ maxDigits ↔ n < 10 ^ maxDigits :=
    Nat.length_toDigits_le_iff (by decide) (by decide)
  have hvalue := digitsValue_toDigits n
  have hwhole := integerDigits_toDigits n h
  obtain ⟨c, cs, hdigits, -⟩ := exists_toDigits_eq n
  rw [hdigits] at hlength hvalue hwhole ⊢
  simp only [readNumber, hwhole, h.fractionDigits, h.exponent?, hvalue, List.isEmpty_nil,
    Option.isNone_none, and_self, if_true]
  by_cases hlong : maxDigits < (c :: cs).length
  · rw [if_pos hlong]
    exact .refused (fun hn => Nat.not_lt.2 (hlength.2 hn) hlong) _ _
  · rw [if_neg hlong]
    exact .whole (hlength.1 (Nat.not_lt.1 hlong))

/-- A text that starts with a digit holds a number. -/
theorem readScalar_digit {c : Char} (hc : c.isDigit = true) (cs : List Char) :
    readScalar (c :: cs) = readNumber false ⟨.expectingValue, cs.length + 1⟩ (c :: cs) := by
  rw [readScalar]
  · rfl
  all_goals
    intro rest heq
    simp [(List.cons.inj heq).1] at hc

theorem readScalar_minus_digit {c : Char} (hc : c.isDigit = true) (cs : List Char) :
    readScalar ('-' :: c :: cs) = readNumber true ⟨.expectingValue, cs.length + 2⟩ (c :: cs) := by
  rw [readScalar]
  · rfl
  · rintro rest heq
    simp [(List.cons.inj heq).1] at hc

/-- **Integers.** An integer in front of a text that does not go on with it is read back if it has
no more digits than are read, and is refused if it has more. -/
theorem readScalar_writeInt (n : Int) {rest : List Char} (h : Delimited rest) :
    ReadsBack (n.natAbs < 10 ^ maxDigits) (int n) rest (readScalar (writeInt n ++ rest)) := by
  obtain ⟨c, cs, hdigits, hc⟩ := exists_toDigits_eq n.natAbs
  unfold writeInt
  split_ifs with hneg
  · have hread := readNumber_toDigits true ⟨.expectingValue, (cs ++ rest).length + 2⟩ n.natAbs h
    rw [hdigits, List.cons_append] at hread ⊢
    rw [List.cons_append, readScalar_minus_digit hc]
    have hvalue : -(n.natAbs : Int) = n := by omega
    simpa only [if_true, hvalue] using hread
  · have hread := readNumber_toDigits false ⟨.expectingValue, (cs ++ rest).length + 1⟩ n.natAbs h
    rw [hdigits, List.cons_append] at hread ⊢
    rw [readScalar_digit hc]
    have hvalue : (n.natAbs : Int) = n := by omega
    simpa [hvalue] using hread

end TypeTags.Json
