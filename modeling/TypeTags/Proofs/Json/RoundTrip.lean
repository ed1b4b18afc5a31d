import TypeTags.Proofs.Assoc.KeyOrder
import TypeTags.Proofs.Json.Scalars

/-!
# Writing a value and reading it back

The values that a text holds without loss have no numbers but integers and no member name twice
(`Json.Plain`). The reader gives such a value back from its text unless one of its integers has more
digits than are read (`Json.Short`), and then it refuses the text for that reason. So the reader
never takes the text of one plain value for another. The writer gives the texts of the values that
the reader gives back, and no others.

Results:
* `writable_iff`: which values are written.
* `readItems_write`, `readMembers_write`: the items of an array and the members of an object, given
  how one value is read.
* `readValue_write`: a value of any depth, with any text behind it that does not go on with it.
* `readText_write`: a whole text.
* `parse_pretty_of_short`, `parse_pretty_of_long`: a value written on lines is read back, or refused
  for a long integer.
-/

namespace TypeTags

namespace Json

/-- A value that a text can hold without loss. -/
inductive Plain : Json → Prop where
  | null : Plain null
  | bool (b : Bool) : Plain (bool b)
  | int (n : Int) : Plain (int n)
  | string (s : String) : Plain (string s)
  | array {items : List Json} (h : ∀ v ∈ items, Plain v) : Plain (array items)
  | object {members : Assoc Json} (hkeys : members.keys.Nodup) (h : ∀ v ∈ members.values, Plain v) :
      Plain (object members)

/-- A value whose integers have no more digits than are read. -/
inductive Short : Json → Prop where
  | null : Short null
  | bool (b : Bool) : Short (bool b)
  | int {n : Int} (h : n.natAbs < 10 ^ maxDigits) : Short (int n)
  | real (x : Binary64) : Short (real x)
  | string (s : String) : Short (string s)
  | array {items : List Json} (h : ∀ v ∈ items, Short v) : Short (array items)
  | object {members : Assoc Json} (h : ∀ v ∈ members.values, Short v) : Short (object members)

@[simp] theorem plain_null : Plain null := .null

@[simp] theorem plain_int (n : Int) : Plain (int n) := .int n

@[simp] theorem plain_string (s : String) : Plain (string s) := .string s

@[simp] theorem plain_array {items : List Json} : Plain (array items) ↔ ∀ v ∈ items, Plain v :=
  ⟨fun | .array h => h, .array⟩

@[simp] theorem plain_object {members : Assoc Json} :
    Plain (object members) ↔ members.keys.Nodup ∧ ∀ v ∈ members.values, Plain v :=
  ⟨fun | .object hkeys h => ⟨hkeys, h⟩, fun h => .object h.1 h.2⟩

@[simp] theorem short_null : Short null := .null

@[simp] theorem short_string (s : String) : Short (string s) := .string s

@[simp] theorem short_int {n : Int} : Short (int n) ↔ n.natAbs < 10 ^ maxDigits :=
  ⟨fun | .int h => h, .int⟩

@[simp] theorem short_array {items : List Json} : Short (array items) ↔ ∀ v ∈ items, Short v :=
  ⟨fun | .array h => h, .array⟩

theorem short_object {members : Assoc Json} :
    Short (object members) ↔ ∀ v ∈ members.values, Short v :=
  ⟨fun | .object h => h, .object⟩

@[simp] theorem short_object_nil : Short (object []) := .object (by simp [Assoc.values])

@[simp] theorem short_object_cons {key : String} {v : Json} {members : Assoc Json} :
    Short (object ((key, v) :: members)) ↔ Short v ∧ Short (object members) := by
  rw [short_object, short_object]
  exact List.forall_mem_cons

/-! ## Values that are written -/

mutual

/-- A value is written exactly if its integers are short. -/
theorem writable_iff : (v : Json) → (v.writable = true ↔ Short v)
  | null => iff_of_true rfl .null
  | bool b => iff_of_true rfl (.bool b)
  | int n => by
    rw [writable, decide_eq_true_eq, short_int]
    exact Nat.length_toDigits_le_iff (by decide) (by decide)
  | real x => iff_of_true rfl (.real x)
  | string s => iff_of_true rfl (.string s)
  | array items => by rw [writable, writableItems_iff, short_array]
  | object members => by rw [writable, writableMembers_iff, short_object]

theorem writableItems_iff : (items : List Json) →
    (writableItems items = true ↔ ∀ v ∈ items, Short v)
  | [] => by simp [writableItems]
  | item :: items => by
    rw [writableItems, Bool.and_eq_true, writable_iff item, writableItems_iff items,
      List.forall_mem_cons]

theorem writableMembers_iff : (members : Assoc Json) →
    (writableMembers members = true ↔ ∀ v ∈ members.values, Short v)
  | [] => by simp [writableMembers, Assoc.values]
  | (key, value) :: members => by
    rw [writableMembers, Bool.and_eq_true, writable_iff value, writableMembers_iff members]
    exact List.forall_mem_cons.symm

end

theorem dump?_of_short {v : Json} (h : Short v) : v.dump? = some v.pretty := by
  rw [dump?, if_pos ((writable_iff v).2 h)]

theorem dump?_of_long {v : Json} (h : ¬ Short v) : v.dump? = none := by
  rw [dump?, if_neg (mt (writable_iff v).1 h)]

/-! ## Space between the parts -/

/-- A layout that puts nothing but space between the parts of a text. -/
structure Layout.Loose (layout : Layout) : Prop where
  lineBreak : ∀ depth, ∀ c ∈ layout.lineBreak depth, isSpace c = true
  colon : ∃ gap, layout.colon = ':' :: gap ∧ ∀ c ∈ gap, isSpace c = true

theorem Layout.loose_indented : Layout.indented.Loose where
  lineBreak depth c hc := by
    simp only [indented, List.mem_cons, List.mem_replicate] at hc
    rcases hc with rfl | ⟨-, rfl⟩ <;> rfl
  colon := ⟨[' '], rfl, by simp [isSpace]⟩

theorem skipSpace_cons {c : Char} (hc : isSpace c = false) (rest : List Char) :
    skipSpace (c :: rest) = c :: rest :=
  List.dropWhile_cons_of_neg (by simp [hc])

theorem skipSpace_append {gap : List Char} (hgap : ∀ c ∈ gap, isSpace c = true) {c : Char}
    (hc : isSpace c = false) (rest : List Char) : skipSpace (gap ++ c :: rest) = c :: rest := by
  have hskip : skipSpace (gap ++ c :: rest) = skipSpace (c :: rest) :=
    List.dropWhile_append_of_pos hgap
  rw [hskip, skipSpace_cons hc]

theorem goesOn_of_isSpace {c : Char} (h : isSpace c = true) : goesOn c = false := by
  simp only [isSpace, Bool.or_eq_true, beq_iff_eq] at h
  rcases h with ((rfl | rfl) | rfl) | rfl <;> rfl

theorem delimited_gap {gap : List Char} (hgap : ∀ c ∈ gap, isSpace c = true) {c : Char}
    (hc : goesOn c = false) (rest : List Char) : Delimited (gap ++ c :: rest) := by
  cases gap with
  | nil => exact delimited_cons.2 hc
  | cons d gap => exact delimited_cons.2 (goesOn_of_isSpace (hgap d List.mem_cons_self))

theorem isSpace_of_isDigit {c : Char} (h : c.isDigit = true) : isSpace c = false := by
  by_contra hspace
  have hgoes := goesOn_of_isSpace (by simpa using hspace)
  simp [goesOn, h] at hgoes

/-- The text of a value starts with a character that is neither space nor a byte order mark and
does not close an array. -/
theorem write_head (layout : Layout) (depth : Nat) {v : Json} (h : Plain v) :
    ∃ c cs, write layout depth v = c :: cs ∧ isSpace c = false ∧ c ≠ ']' ∧ c ≠ '\ufeff' := by
  cases h with
  | null => exact ⟨_, _, by rw [write], rfl, by decide, by decide⟩
  | bool b => cases b <;> exact ⟨_, _, by rw [write], rfl, by decide, by decide⟩
  | int n =>
    rw [write, writeInt]
    split_ifs
    · exact ⟨_, _, rfl, rfl, by decide, by decide⟩
    · obtain ⟨c, cs, hdigits, hc⟩ := exists_toDigits_eq n.natAbs
      refine ⟨c, cs, hdigits, isSpace_of_isDigit hc, ?_, ?_⟩ <;> rintro rfl <;> simp at hc
  | string s => exact ⟨'"', _, by rw [write]; rfl, rfl, by decide, by decide⟩
  | @array items h =>
    cases items with
    | nil => exact ⟨_, _, by rw [write], rfl, by decide, by decide⟩
    | cons item items => exact ⟨'[', _, by rw [write]; rfl, rfl, by decide, by decide⟩
  | @object members hkeys h =>
    cases members with
    | nil => exact ⟨_, _, by rw [write], rfl, by decide, by decide⟩
    | cons member members => exact ⟨'\x7b', _, by rw [write]; rfl, rfl, by decide, by decide⟩

theorem skipSpace_write {gap : List Char} (hgap : ∀ c ∈ gap, isSpace c = true) (layout : Layout)
    (depth : Nat) {v : Json} (h : Plain v) (rest : List Char) :
    skipSpace (gap ++ (write layout depth v ++ rest)) = write layout depth v ++ rest := by
  obtain ⟨c, cs, htext, hspace, -⟩ := write_head layout depth h
  rw [htext, List.cons_append, skipSpace_append hgap hspace]

/-! ## Arrays and objects -/

section

variable {layout : Layout} {value : List Char → Except Stop (Json × List Char)} {depth : Nat}
  {closing : List Char}

/-- The reader of values reads a value back at the given depth. -/
def ReadsValue (layout : Layout) (depth : Nat) (value : List Char → Except Stop (Json × List Char))
    (v : Json) : Prop :=
  ∀ rest, Delimited rest → ReadsBack v.Short v rest (value (write layout depth v ++ rest))

/-- The items of an array, from the first on. -/
theorem readItems_write (hl : layout.Loose) (hclosing : ∀ c ∈ closing, isSpace c = true)
    {item : Json} {items : List Json} {n : Nat} (hn : items.length < n)
    (hplain : ∀ v ∈ item :: items, Plain v)
    (hread : ∀ v ∈ item :: items, ReadsValue layout depth value v) (rest : List Char) :
    ReadsBack (∀ v ∈ item :: items, Short v) (item :: items) rest
      (readItems value n (write layout depth item ++
        (writeItems layout depth items ++ (closing ++ ']' :: rest)))) := by
  have hitem := hread item List.mem_cons_self
  induction items generalizing item n with
  | nil =>
    obtain ⟨n, rfl⟩ := Nat.exists_eq_add_one_of_ne_zero (Nat.ne_zero_of_lt hn)
    rw [readItems, writeItems, List.nil_append]
    refine ((hitem _ (delimited_gap hclosing (c := ']') rfl rest)).bind ?_).congr
      List.forall_mem_cons.symm
    simp only [skipSpace_append hclosing (c := ']') rfl]
    exact .whole (by simp)
  | cons next items ih =>
    obtain ⟨n, rfl⟩ := Nat.exists_eq_add_one_of_ne_zero (Nat.ne_zero_of_lt hn)
    rw [List.forall_mem_cons] at hplain hread
    rw [readItems, writeItems]
    simp only [List.cons_append, List.append_assoc]
    refine ((hitem _ (delimited_cons.2 (by rfl : goesOn ',' = false))).bind ?_).congr
      List.forall_mem_cons.symm
    simp only [skipSpace_cons (c := ',') rfl,
      skipSpace_write (hl.lineBreak depth) layout depth (hplain.2 next List.mem_cons_self)]
    have hitems := ih (Nat.lt_of_succ_lt_succ hn) hplain.2 hread.2 (hread.2 next List.mem_cons_self)
    exact hitems.map _

theorem writeString_append (s : String) (rest : List Char) :
    writeString s ++ rest = '"' :: (s.toList.flatMap escapedChar ++ '"' :: rest) := by
  simp [writeString]

theorem skipSpace_writeString {gap : List Char} (hgap : ∀ c ∈ gap, isSpace c = true) (s : String)
    (rest : List Char) : skipSpace (gap ++ (writeString s ++ rest)) = writeString s ++ rest := by
  rw [writeString_append, skipSpace_append hgap rfl]

/-- The members of an object, from the first on. -/
theorem readMembers_write (hl : layout.Loose) (hclosing : ∀ c ∈ closing, isSpace c = true)
    (key : String) {v : Json} {members : Assoc Json} {n : Nat} (hn : members.length < n)
    (hplain : ∀ w ∈ v :: members.values, Plain w)
    (hread : ∀ w ∈ v :: members.values, ReadsValue layout depth value w) (rest : List Char) :
    ReadsBack (∀ w ∈ v :: members.values, Short w) ((key, v) :: members) rest
      (readMembers value n (writeString key ++ (layout.colon ++ (write layout depth v ++
        (writeMembers layout depth members ++ (closing ++ '\x7d' :: rest)))))) := by
  obtain ⟨gap, hcolon, hgap⟩ := hl.colon
  rw [hcolon]
  have hv := hread v List.mem_cons_self
  induction members generalizing key v n with
  | nil =>
    obtain ⟨n, rfl⟩ := Nat.exists_eq_add_one_of_ne_zero (Nat.ne_zero_of_lt hn)
    rw [writeMembers, List.nil_append, writeString_append, readMembers, readString_escaped]
    refine ((ReadsBack.whole trivial).bind ?_).congr (by rw [true_and])
    simp only [List.cons_append, skipSpace_cons (c := ':') rfl,
      skipSpace_write hgap layout depth (hplain v List.mem_cons_self)]
    refine ((hv _ (delimited_gap hclosing (c := '\x7d') rfl rest)).bind ?_).congr
      List.forall_mem_cons.symm
    simp only [skipSpace_append hclosing (c := '\x7d') rfl]
    exact .whole (by simp [Assoc.values])
  | cons next members ih =>
    obtain ⟨n, rfl⟩ := Nat.exists_eq_add_one_of_ne_zero (Nat.ne_zero_of_lt hn)
    obtain ⟨nextKey, w⟩ := next
    rw [List.forall_mem_cons] at hplain hread
    rw [writeMembers, hcolon, writeString_append, readMembers, readString_escaped]
    refine ((ReadsBack.whole trivial).bind ?_).congr (by rw [true_and])
    simp only [List.cons_append, List.append_assoc, skipSpace_cons (c := ':') rfl,
      skipSpace_write hgap layout depth hplain.1]
    refine ((hv _ (delimited_cons.2 (by rfl : goesOn ',' = false))).bind ?_).congr
      List.forall_mem_cons.symm
    simp only [skipSpace_cons (c := ',') rfl, skipSpace_writeString (hl.lineBreak depth)]
    have hmembers := ih nextKey (Nat.lt_of_succ_lt_succ hn) hplain.2 hread.2
      (hread.2 w List.mem_cons_self)
    exact hmembers.map _

end

/-! ## Values -/

theorem length_le_writeItems (layout : Layout) (depth : Nat) (items : List Json) :
    items.length ≤ (writeItems layout depth items).length := by
  induction items with
  | nil => simp
  | cons item items ih => simp only [writeItems, List.length_cons, List.length_append]; omega

theorem length_le_writeMembers (layout : Layout) (depth : Nat) (members : Assoc Json) :
    members.length ≤ (writeMembers layout depth members).length := by
  induction members with
  | nil => simp
  | cons member members ih => simp only [writeMembers, List.length_cons, List.length_append]; omega

theorem length_write_le_writeItems (layout : Layout) (depth : Nat) {items : List Json} {v : Json}
    (h : v ∈ items) : (write layout depth v).length ≤ (writeItems layout depth items).length := by
  induction items with
  | nil => simp at h
  | cons item items ih =>
    simp only [writeItems, List.length_cons, List.length_append]
    rcases List.mem_cons.1 h with rfl | h
    · omega
    · have := ih h
      omega

theorem length_write_le_writeMembers (layout : Layout) (depth : Nat) {members : Assoc Json}
    {v : Json} (h : v ∈ members.values) :
    (write layout depth v).length ≤ (writeMembers layout depth members).length := by
  induction members with
  | nil => simp [Assoc.values] at h
  | cons member members ih =>
    obtain ⟨key, w⟩ := member
    simp only [writeMembers, List.length_cons, List.length_append]
    rcases List.mem_cons.1 h with rfl | h
    · omega
    · have := ih h
      omega

theorem readValue_scalar {c : Char} (hstring : c ≠ '"') (harray : c ≠ '[') (hobject : c ≠ '\x7b')
    (n : Nat) (cs : List Char) : readValue (n + 1) (c :: cs) = readScalar (c :: cs) := by
  rw [readValue]
  · rintro tail heq
    exact hstring (List.cons.inj heq).1
  · rintro tail heq
    exact harray (List.cons.inj heq).1
  · rintro tail heq
    exact hobject (List.cons.inj heq).1

/-- An integer is no string and does not open an array or an object. -/
theorem readValue_writeInt (n : Nat) (i : Int) (rest : List Char) :
    readValue (n + 1) (writeInt i ++ rest) = readScalar (writeInt i ++ rest) := by
  rw [writeInt]
  split_ifs
  · exact readValue_scalar (by decide) (by decide) (by decide) n _
  · obtain ⟨c, cs, hdigits, hc⟩ := exists_toDigits_eq i.natAbs
    rw [hdigits, List.cons_append]
    refine readValue_scalar ?_ ?_ ?_ n _ <;> rintro rfl <;> simp at hc

theorem readValue_array {n : Nat} {cs : List Char} (h : ∀ rest, skipSpace cs ≠ ']' :: rest) :
    readValue (n + 1) ('[' :: cs) =
      readItems (readValue n) n (skipSpace cs) >>= fun p => return (array p.1, p.2) := by
  rw [readValue]
  split
  · next rest heq => exact absurd heq (h rest)
  · rfl

theorem readValue_object {n : Nat} {cs : List Char} (h : ∀ rest, skipSpace cs ≠ '\x7d' :: rest) :
    readValue (n + 1) ('\x7b' :: cs) =
      readMembers (readValue n) n (skipSpace cs) >>= fun p =>
        return (object (Assoc.putAll [] p.1), p.2) := by
  rw [readValue]
  split
  · next rest heq => exact absurd heq (h rest)
  · rfl

/-- An array of values that are read back is read back. -/
theorem readsValue_array {layout : Layout} (hl : layout.Loose) {n depth : Nat} {item : Json}
    {items : List Json} (hplain : ∀ v ∈ item :: items, Plain v)
    (hread : ∀ v ∈ item :: items, ReadsValue layout (depth + 1) (readValue n) v)
    (hn : items.length < n) :
    ReadsValue layout depth (readValue (n + 1)) (array (item :: items)) := by
  intro rest _
  have hitem := hplain item List.mem_cons_self
  rw [write]
  simp only [List.cons_append, List.append_assoc, List.nil_append]
  rw [readValue_array, skipSpace_write (hl.lineBreak _) layout _ hitem]
  · exact ((readItems_write hl (hl.lineBreak depth) hn hplain hread rest).map array).congr
      short_array.symm
  · intro tail heq
    obtain ⟨c, cs, htext, -, hc, -⟩ := write_head layout (depth + 1) hitem
    rw [skipSpace_write (hl.lineBreak _) layout _ hitem, htext] at heq
    exact hc (List.cons.inj heq).1

/-- An object of values that are read back is read back if its names are distinct. -/
theorem readsValue_object {layout : Layout} (hl : layout.Loose) {n depth : Nat} {key : String}
    {v : Json} {members : Assoc Json} (hkeys : (Assoc.keys ((key, v) :: members)).Nodup)
    (hplain : ∀ w ∈ v :: members.values, Plain w)
    (hread : ∀ w ∈ v :: members.values, ReadsValue layout (depth + 1) (readValue n) w)
    (hn : members.length < n) :
    ReadsValue layout depth (readValue (n + 1)) (object ((key, v) :: members)) := by
  intro rest _
  rw [write]
  simp only [List.cons_append, List.append_assoc, List.nil_append]
  rw [readValue_object, skipSpace_writeString (hl.lineBreak _)]
  · have hmembers := (readMembers_write hl (hl.lineBreak depth) key hn hplain hread rest).map
      fun members => object (Assoc.putAll [] members)
    rw [Assoc.putAll_of_nodup (m := []) hkeys, List.nil_append] at hmembers
    exact hmembers.congr (@short_object ((key, v) :: members)).symm
  · intro tail heq
    rw [skipSpace_writeString (hl.lineBreak _), writeString_append] at heq
    simp at heq

/-- **Values.** A plain value in front of a text that does not go on with it is read back if all of
its integers are short, and is refused for a long one otherwise. -/
theorem readValue_write {layout : Layout} (hl : layout.Loose) {n depth : Nat} {v : Json}
    (hv : Plain v) (hn : (write layout depth v).length ≤ n) :
    ReadsValue layout depth (readValue n) v := by
  -- The induction is on the bound of the reader, which goes down by one with each level of nesting.
  induction n generalizing depth v with
  | zero =>
    obtain ⟨c, cs, htext, -⟩ := write_head layout depth hv
    simp [htext] at hn
  | succ n ih =>
    cases hv with
    | null =>
      intro rest _
      rw [write, List.cons_append, readValue_scalar (by decide) (by decide) (by decide)]
      exact .whole .null
    | bool b =>
      intro rest _
      cases b <;>
        rw [write, List.cons_append, readValue_scalar (by decide) (by decide) (by decide)] <;>
        exact .whole (.bool _)
    | int i =>
      intro rest hrest
      rw [write, readValue_writeInt]
      exact (readScalar_writeInt i hrest).congr short_int.symm
    | string s =>
      intro rest _
      rw [write, writeString_append, readValue, readString_escaped]
      exact .whole (.string s)
    | @array items h =>
      cases items with
      | nil =>
        intro rest _
        rw [write]
        exact .whole (.array (by simp))
      | cons item items =>
        have hcount := length_le_writeItems layout (depth + 1) items
        simp only [write, List.cons_append, List.length_cons, List.length_append] at hn
        refine readsValue_array hl h (fun u hu => ih (h u hu) ?_) (by omega)
        rcases List.mem_cons.1 hu with rfl | hu
        · omega
        · have := length_write_le_writeItems layout (depth + 1) hu
          omega
    | @object members hkeys h =>
      cases members with
      | nil =>
        intro rest _
        rw [write]
        exact .whole short_object_nil
      | cons member members =>
        obtain ⟨key, w⟩ := member
        have hcount := length_le_writeMembers layout (depth + 1) members
        simp only [write, List.cons_append, List.length_cons, List.length_append] at hn
        refine readsValue_object hl hkeys h (fun u hu => ih (h u hu) ?_) (by omega)
        rcases List.mem_cons.1 hu with rfl | hu
        · omega
        · have := length_write_le_writeMembers layout (depth + 1) hu
          omega

/-! ## Whole texts -/

/-- A whole text holds nothing but the value. -/
theorem readText_write {layout : Layout} (hl : layout.Loose) {v : Json} (hv : Plain v) :
    (Short v ∧ readText (write layout 0 v) = .ok v) ∨
      ¬ Short v ∧ ∃ digits left,
        readText (write layout 0 v) = .error ⟨.longInteger digits, left⟩ := by
  obtain ⟨c, cs, htext, hspace, -, hmark⟩ := write_head layout 0 hv
  have hread := readValue_write hl hv (Nat.le_refl (write layout 0 v).length) [] delimited_nil
  rw [List.append_nil, htext] at hread
  rw [htext, readText, skipSpace_cons hspace]
  · generalize readValue (c :: cs).length (c :: cs) = answer at hread ⊢
    cases hread with
    | whole hshort => exact .inl ⟨hshort, rfl⟩
    | refused hlong digits left => exact .inr ⟨hlong, digits, left, rfl⟩
  · rintro tail heq
    exact hmark (List.cons.inj heq).1

/-- **Round trip.** A plain value with short integers is read back from its text on lines. -/
theorem parse_pretty_of_short {v : Json} (hv : Plain v) (hs : Short v) :
    parse v.pretty = .ok v := by
  rcases readText_write Layout.loose_indented hv with ⟨-, hread⟩ | ⟨hlong, -⟩
  · simp only [parse, pretty, String.toList_ofList, hread]
  · exact absurd hs hlong

/-- The text of a plain value with a long integer is refused for such an integer. -/
theorem parse_pretty_of_long {v : Json} (hv : Plain v) (hs : ¬ Short v) :
    ∃ fault digits, parse v.pretty = .error fault ∧ fault.problem = .longInteger digits := by
  rcases readText_write Layout.loose_indented hv with ⟨hshort, -⟩ | ⟨-, digits, left, hread⟩
  · exact absurd hshort hs
  · refine ⟨Stop.locate ⟨.longInteger digits, left⟩ (write .indented 0 v), digits, ?_, rfl⟩
    simp only [parse, pretty, String.toList_ofList, hread]

end Json

end TypeTags
