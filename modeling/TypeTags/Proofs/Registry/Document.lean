import TypeTags.Proofs.Json.RoundTrip
import TypeTags.Registry.Document

/-!
# Storing a registry and reading it back

The checks accept what the library writes: each kind of value passes its own check and comes out as
it was. Together with the round trip of JSON texts this gives the round trip of documents. The one
thing that is not stored is a line whose number has more digits than a JSON text may hold: the writer
refuses it, as the reader would.

Results:
* `Checked.list_map`, `Checked.dictionary_map`: checks of lists and dictionaries of written values.
* `Tag.check_toJson`, `Diagnostic.check_toJson`, `Entry.check_toJson`, `Registry.check_toJson`: what
  is written passes its check.
* `Registry.plain_toJson`, `Registry.short_toJson`: what the text of a registry holds without loss.
* `Registry.deserialize_serialize`: a registry is written and read back if the numbers of its lines
  are short, and is not written otherwise.
-/

namespace TypeTags

/-! ## Checks of written values -/

namespace Checked

variable {α β : Type}

@[simp] theorem map_ok (f : α → β) (a : α) : f <$> ok a = ok (f a) := rfl

@[simp] theorem seq_ok (f : α → β) (a : α) : ok f <*> ok a = ok (f a) := rfl

@[simp] theorem under_ok (step : String) (a : α) : (ok a).under step = ok a := rfl

@[simp] theorem string_ofString (s : String) : string (.string s) = ok s := rfl

@[simp] theorem string?_ofString? (s : Option String) : string? (.ofString? s) = ok s := by
  cases s <;> rfl

@[simp] theorem optional_int_ofInt? (n : Option Int) : optional int (.ofInt? n) = ok n := by
  cases n <;> rfl

theorem gather_map {check : Json → Checked α} {write : α → Json}
    (h : ∀ x, check (write x) = ok x) (index : Nat) (xs : List α) :
    gather index ((xs.map write).map check) = ok xs := by
  induction xs generalizing index with
  | nil => rfl
  | cons x xs ih => simp only [List.map_cons, gather, h, under_ok, map_ok, ih, seq_ok]

/-- A list of written values passes the check of lists. -/
theorem list_map {check : Json → Checked α} {write : α → Json} (h : ∀ x, check (write x) = ok x)
    (xs : List α) : list check (.array (xs.map write)) = ok xs :=
  gather_map h 0 xs

@[simp] theorem strings_ofStrings (strings : List String) :
    Checked.strings (.ofStrings strings) = ok strings :=
  list_map string_ofString strings

/-- A dictionary of written values passes the check of dictionaries. -/
theorem dictionary_map {check : Json → Checked α} {write : α → Json}
    (h : ∀ x, check (write x) = ok x) (m : Assoc α) :
    dictionary check (.object (m.map fun (key, x) => (key, write x))) = ok m := by
  induction m with
  | nil => rfl
  | cons p m ih =>
    obtain ⟨key, x⟩ := p
    simp only [dictionary] at ih ⊢
    simp only [List.map_cons, entries, h, under_ok, map_ok, ih, seq_ok]

end Checked

@[simp] theorem choice_visibility (v : Visibility) :
    Checked.choice Visibility.names (.string v.name) = .ok v := by
  cases v <;> rfl

@[simp] theorem choice_objectKind (k : ObjectKind) :
    Checked.choice ObjectKind.names (.string k.name) = .ok k := by
  cases k <;> rfl

@[simp] theorem choice_diagnosticKind (k : DiagnosticKind) :
    Checked.choice DiagnosticKind.names (.string k.name) = .ok k := by
  cases k <;> rfl

theorem Tag.check_toJson (tag : Tag) : Tag.check tag.toJson = .ok tag := by
  simp [Tag.check, Tag.toJson, Checked.model, Checked.field, Checked.fieldD, Assoc.get?,
    List.lookup_cons]

theorem Diagnostic.check_toJson (d : Diagnostic) : Diagnostic.check d.toJson = .ok d := by
  simp [Diagnostic.check, Diagnostic.toJson, Checked.model, Checked.field, Checked.fieldD,
    Assoc.get?, List.lookup_cons]

theorem Entry.check_toJson (e : Entry) : Entry.check e.toJson = .ok e := by
  simp [Entry.check, Entry.toJson, Checked.model, Checked.field, Checked.fieldD, Assoc.get?,
    List.lookup_cons, Checked.list_map Tag.check_toJson]

namespace Registry

theorem check_toJson (r : Registry) : Registry.check r.toJson = .ok r := by
  simp [Registry.check, Registry.toJson, Checked.model, Checked.fieldD, Assoc.get?,
    List.lookup_cons, Checked.list_map Diagnostic.check_toJson,
    Checked.dictionary_map Entry.check_toJson]

end Registry

/-! ## What the text of a registry holds -/

namespace Json

@[simp] theorem plain_ofString? (s : Option String) : Plain (ofString? s) := by
  cases s <;> simp [ofString?]

@[simp] theorem plain_ofInt? (n : Option Int) : Plain (ofInt? n) := by
  cases n <;> simp [ofInt?]

@[simp] theorem plain_ofStrings (strings : List String) : Plain (ofStrings strings) := by
  simp [ofStrings]

@[simp] theorem short_ofString? (s : Option String) : Short (ofString? s) := by
  cases s <;> simp [ofString?]

@[simp] theorem short_ofInt? {n : Option Int} :
    Short (ofInt? n) ↔ ∀ i ∈ n, i.natAbs < 10 ^ maxDigits := by
  cases n <;> simp [ofInt?]

@[simp] theorem short_ofStrings (strings : List String) : Short (ofStrings strings) := by
  simp [ofStrings]

theorem plain_written {α : Type} (write : α → Json) (m : Assoc α) :
    Plain (.object (m.map fun (key, x) => (key, write x))) ↔
      m.keys.Nodup ∧ ∀ v ∈ m.values.map write, Plain v := by
  rw [plain_object, Assoc.keys_map fun _ => write, Assoc.values_map]

theorem short_written {α : Type} (write : α → Json) (m : Assoc α) :
    Short (.object (m.map fun (key, x) => (key, write x))) ↔
      ∀ v ∈ m.values.map write, Short v := by
  rw [short_object, Assoc.values_map]

end Json

open Json (Plain Short maxDigits)

@[simp] theorem Tag.plain_toJson (tag : Tag) : Plain tag.toJson := by
  simp [Tag.toJson, Assoc.keys, Assoc.values]

@[simp] theorem Tag.short_toJson (tag : Tag) : Short tag.toJson := by
  simp [Tag.toJson]

@[simp] theorem Diagnostic.plain_toJson (d : Diagnostic) : Plain d.toJson := by
  simp [Diagnostic.toJson, Assoc.keys, Assoc.values]

@[simp] theorem Diagnostic.short_toJson {d : Diagnostic} :
    Short d.toJson ↔ ∀ n ∈ d.line, n.natAbs < 10 ^ maxDigits := by
  simp [Diagnostic.toJson]

@[simp] theorem Entry.plain_toJson (e : Entry) : Plain e.toJson := by
  simp [Entry.toJson, Assoc.keys, Assoc.values]

@[simp] theorem Entry.short_toJson {e : Entry} :
    Short e.toJson ↔ ∀ n ∈ e.line, n.natAbs < 10 ^ maxDigits := by
  simp [Entry.toJson]

namespace Registry

/-- The numbers of all lines that a registry names. -/
def lines (r : Registry) : List Int :=
  r.objects.values.filterMap (·.line) ++ r.diagnostics.filterMap (·.line)

/-- The text of a registry holds it without loss if its paths are distinct. -/
theorem plain_toJson {r : Registry} (h : r.objects.keys.Nodup) : Plain r.toJson := by
  have hobjects := (Json.plain_written Entry.toJson r.objects).2 ⟨h, by simp⟩
  simpa [toJson, Assoc.keys, Assoc.values] using hobjects

/-- Values with at most one line each: their texts are short if the numbers of the lines are. -/
theorem forall_short_map {α : Type} {write : α → Json} {line : α → Option Int}
    (h : ∀ x, Short (write x) ↔ ∀ n ∈ line x, n.natAbs < 10 ^ maxDigits) (xs : List α) :
    (∀ v ∈ xs.map write, Short v) ↔ ∀ n ∈ xs.filterMap line, n.natAbs < 10 ^ maxDigits := by
  simp only [List.forall_mem_map, h, List.mem_filterMap]
  exact ⟨fun hx n ⟨x, hmem, hline⟩ => hx x hmem n hline,
    fun hn x hmem n hline => hn n ⟨x, hmem, hline⟩⟩

theorem short_toJson {r : Registry} :
    Short r.toJson ↔ ∀ n ∈ r.lines, n.natAbs < 10 ^ maxDigits := by
  have hobjects := (Json.short_written Entry.toJson r.objects).trans
    (forall_short_map (fun _ => Entry.short_toJson) _)
  have hdiagnostics : Short (.array (r.diagnostics.map Diagnostic.toJson)) ↔
      ∀ n ∈ r.diagnostics.filterMap (·.line), n.natAbs < 10 ^ maxDigits := by
    rw [Json.short_array]
    exact forall_short_map (fun _ => Diagnostic.short_toJson) _
  rw [lines, List.forall_mem_append, ← hobjects, ← hdiagnostics, toJson]
  simp only [Json.short_object_cons, Json.short_object_nil, Json.short_string, true_and, and_true]

/-! ## Documents -/

/-- A registry whose paths are distinct and whose lines have short numbers is read back. -/
theorem deserialize_serialize_of_short {r : Registry} (hkeys : r.objects.keys.Nodup)
    (hlines : ∀ n ∈ r.lines, n.natAbs < 10 ^ maxDigits) :
    ∃ text, r.serialize = .ok text ∧ deserialize text = .ok r := by
  have hshort := short_toJson.2 hlines
  have hparse := Json.parse_pretty_of_short (plain_toJson hkeys) hshort
  refine ⟨r.toJson.pretty, by rw [serialize, Json.dump?_of_short hshort], ?_⟩
  simp only [deserialize, hparse, ofJson, check_toJson]

/-- A registry with a long number has no document. -/
theorem serialize_of_long {r : Registry} (hlines : ¬ ∀ n ∈ r.lines, n.natAbs < 10 ^ maxDigits) :
    r.serialize = .error .unwritable := by
  rw [serialize, Json.dump?_of_long (mt short_toJson.1 hlines)]

/-- What would be the document of a registry with a long number is refused. -/
theorem deserialize_pretty_of_long {r : Registry} (hkeys : r.objects.keys.Nodup)
    (hlines : ¬ ∀ n ∈ r.lines, n.natAbs < 10 ^ maxDigits) :
    ∃ digits, deserialize r.toJson.pretty = .error (.longInteger digits) := by
  obtain ⟨fault, digits, hparse, hproblem⟩ :=
    Json.parse_pretty_of_long (plain_toJson hkeys) (mt short_toJson.1 hlines)
  refine ⟨digits, ?_⟩
  simp only [deserialize, hparse, DocumentError.ofFault, hproblem]

/-- **Round trip.** A registry, as an ordered map of paths to entries with its diagnostics, is
written as a document and read back from it as it was, order included, if no line in it has a number
of more than 4300 digits. If one has, it is not written, and the error says so; and a document with
its text would not be read either. -/
theorem deserialize_serialize (r : Registry) (hkeys : r.objects.keys.Nodup) :
    ((∀ n ∈ r.lines, n.natAbs < 10 ^ maxDigits) →
      ∃ text, r.serialize = .ok text ∧ deserialize text = .ok r) ∧
    ((∃ n ∈ r.lines, 10 ^ maxDigits ≤ n.natAbs) →
      (∃ e, r.serialize = .error e ∧ e.message = "Failed to serialize registry" ∧
        e.details = some ("Exceeds the limit (4300 digits) for integer string conversion; "
          ++ "use sys.set_int_max_str_digits() to increase the limit")) ∧
      ∃ digits, deserialize r.toJson.pretty = .error (.longInteger digits)) := by
  refine ⟨deserialize_serialize_of_short hkeys, ?_⟩
  rintro ⟨n, hmem, hlong⟩
  have hlines : ¬ ∀ n ∈ r.lines, n.natAbs < 10 ^ maxDigits := fun h =>
    Nat.not_lt.2 hlong (h n hmem)
  exact ⟨⟨.unwritable, serialize_of_long hlines, rfl, rfl⟩, deserialize_pretty_of_long hkeys hlines⟩

/-- Entries out of the order of their paths, one of them under another key, with text that has to be
escaped and text that must not be, and lines below zero and beyond a machine word. -/
def awkwardRegistry : Registry where
  version := "\x00\"\\"
  objects :=
    [("z", { path := "Foo#bar", name := "bar", kind := .getter, nesting := ["Foo", ""],
             visibility := .hidden, docstring := "a\tb\r\n\x1f\x7f\u2028",
             tags := [{ tagName := "return", types := ["T<\"x\">"] },
               { tagName := "return", name := some "", text := "\\u0041" }],
             line := some (2 ^ 70) }),
     ("", { path := "", name := "", kind := .moduleBody, superclass := some "null",
            file := some "/", line := some (-3) })]
  diagnostics := [{ kind := .unmatchedSignature, message := "\x08\x0c" }]

theorem deserialize_serialize_awkwardRegistry :
    awkwardRegistry.objects.keys.Nodup ∧
      (∀ n ∈ awkwardRegistry.lines, n.natAbs < 10 ^ maxDigits) ∧
      ∃ text, awkwardRegistry.serialize = .ok text ∧ deserialize text = .ok awkwardRegistry := by
  have hkeys : awkwardRegistry.objects.keys.Nodup := by decide
  have hlines : ∀ n ∈ awkwardRegistry.lines, n.natAbs < 10 ^ maxDigits := by decide +kernel
  exact ⟨hkeys, hlines, (deserialize_serialize awkwardRegistry hkeys).1 hlines⟩

/-- A diagnostic at the first line whose number has too many digits. -/
def farRegistry : Registry where
  diagnostics := [{ kind := .unmatchedSignature, message := "", line := some (10 ^ maxDigits) }]

/-- Not every registry is written and read back: the writer refuses this one, and the reader refuses
the text that its document would be. -/
theorem farRegistry_not_restored :
    farRegistry.objects.keys.Nodup ∧ farRegistry.serialize = .error .unwritable ∧
      farRegistry.serialize >>= deserialize ≠ .ok farRegistry ∧
      ∃ digits, deserialize farRegistry.toJson.pretty = .error (.longInteger digits) := by
  have hkeys : farRegistry.objects.keys.Nodup := by decide
  have hlong : ¬ ∀ n ∈ farRegistry.lines, n.natAbs < 10 ^ maxDigits := by
    simp [farRegistry, lines, Assoc.values, Int.natAbs_pow]
  have hrefused := serialize_of_long hlong
  refine ⟨hkeys, hrefused, ?_, deserialize_pretty_of_long hkeys hlong⟩
  rw [hrefused]
  rintro ⟨⟩

end Registry

end TypeTags
