import TypeTags.Text.CharClass
import TypeTags.Text.LowercaseTable

/-!
# Lower case

The lower-case form of a text, beyond ASCII by the Unicode 14.0 mappings. Two letters need more than
a table: the capital I with a dot becomes two characters, and a capital sigma at the end of a word
has a small letter of its own.

* `smallLetter`: the small letter of a character, or the character itself.
* `lowered`: a text in lower case.
-/

namespace TypeTags.Text

/-- The small letter of a character, or the character itself if it has none. -/
def smallLetter (c : Char) : Char :=
  if c.toNat < 128 then c.toLower
  else
    match lowercaseRuns.find? fun (first, last, step, _) =>
      first ≤ c.toNat && c.toNat ≤ last && (c.toNat - first) % step == 0 with
    | some (first, _, _, small) => Char.ofNat (small + (c.toNat - first))
    | none => c

/-- A text in lower case; `afterLetter` tells whether a letter stands before it. -/
def loweredFrom (afterLetter : Bool) : List Char → List Char
  | [] => []
  | c :: cs =>
    let small :=
      if c = 'İ' then ['i', '\u0307']
      else if c = 'Σ' ∧ afterLetter ∧ !cs.head?.any isLetter then ['ς']
      else [smallLetter c]
    small ++ loweredFrom (isLetter c) cs

def lowered (cs : List Char) : List Char := loweredFrom false cs

end TypeTags.Text
