import TypeTags.Assoc

/-!
# References to variables

A value may refer to variables: a dollar sign before the name in braces stands for the variable's
value. After `:-` the braces may hold a default, which counts if there is no such variable. What a
reference stands for is not read again.

* `Reference.read?`: the reference that a text starts with.
* `Reference.expand`: a text with what its references stand for.
-/

namespace TypeTags

structure Reference where
  name : String
  default : Option String := none
  deriving DecidableEq, Repr

namespace Reference

/-- The default after the name of a reference, and what follows the closing brace. -/
def readDefault? : List Char → Option (Option String × List Char)
  | '\x7d' :: rest => some (none, rest)
  | ':' :: '-' :: cs =>
    match cs.dropWhile (· != '\x7d') with
    | _ :: rest => some (some (String.ofList (cs.takeWhile (· != '\x7d'))), rest)
    | [] => none
  | _ => none

/-- A character that can stand in the name of a reference. -/
def isNameChar (c : Char) : Bool := c != '\x7d' && c != ':'

/-- The reference that a text starts with after the opening brace, and what follows it. -/
def read? (cs : List Char) : Option (Reference × List Char) :=
  (readDefault? (cs.dropWhile isNameChar)).map fun (default, rest) =>
    (⟨String.ofList (cs.takeWhile isNameChar), default⟩, rest)

theorem length_le_of_readDefault? {cs rest : List Char} {default : Option String}
    (h : readDefault? cs = some (default, rest)) : rest.length ≤ cs.length := by
  unfold readDefault? at h
  split at h
  · simp only [Option.some.injEq, Prod.mk.injEq] at h
    simp [← h.2]
  · rename_i cs
    split at h
    · rename_i hdrop
      have hle := (List.dropWhile_suffix (p := (· != '\x7d')) (l := cs)).length_le
      simp only [hdrop, Option.some.injEq, Prod.mk.injEq, List.length_cons] at hle h ⊢
      rw [← h.2]
      omega
    · simp at h
  · simp at h

theorem length_le_of_read? {cs rest : List Char} {reference : Reference}
    (h : read? cs = some (reference, rest)) : rest.length ≤ cs.length := by
  obtain ⟨⟨default, rest'⟩, hread, heq⟩ := Option.map_eq_some_iff.1 h
  have hle := (List.dropWhile_suffix (p := isNameChar) (l := cs)).length_le
  have hrest := length_le_of_readDefault? hread
  simp only [Prod.mk.injEq] at heq
  rw [← heq.2]
  omega

/-- A text with the meanings of its references in their places. -/
def expand (meaning : Reference → String) : List Char → List Char
  | [] => []
  | '$' :: '\x7b' :: cs =>
    match h : read? cs with
    | some (reference, rest) =>
      have : rest.length ≤ cs.length := length_le_of_read? h
      (meaning reference).toList ++ expand meaning rest
    | none => '$' :: expand meaning ('\x7b' :: cs)
  | c :: cs => c :: expand meaning cs
termination_by cs => cs.length

/-- What a reference stands for: the value that was assigned before, or that of the environment, or
else the default. A variable that was named without a value stands for nothing. -/
def meaning (assigned : Assoc (Option String)) (environment : Assoc String)
    (reference : Reference) : String :=
  match assigned.get? reference.name with
  | some value => value.getD ""
  | none => (environment.get? reference.name).getD (reference.default.getD "")

end Reference

end TypeTags
