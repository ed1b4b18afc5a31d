import TypeTags.Json.Reader
import TypeTags.Report.EmojiTable
import TypeTags.Text.Lines
import TypeTags.Text.Lowercase

/-!
# Pictographs by name

A report shows the pictograph whose name stands between two colons, without white space and in any
case. After the name, `-emoji` or `-text` asks for one of its two presentations. A name that is not
known stays as it is, with its colons.

* `Emoji.named?`: the characters of the pictograph with a name.
* `Emoji.replaced`: a text with its pictographs.
-/

namespace TypeTags.Emoji

def ofCode (digits : List Char) : Char :=
  Char.ofNat (digits.foldl (fun n c => n * 16 + (Json.hexValue c).getD 0) 0)

/-- The characters of a name in a line of the table. -/
def inLine? (name : List Char) (line : String) : Option (List Char) :=
  (Text.splitOnChar ' ' line.toList).findSome? fun entry =>
    (List.isPrefixOf? (name ++ ['=']) entry).map fun codes =>
      (Text.splitOnChar '-' codes).map ofCode

/-- The characters of the pictograph with a name. -/
def named? (name : List Char) : Option (List Char) := do
  let lines ← table.lookup (← name.head?)
  lines.findSome? (inLine? name)

/-- The marks that ask for a presentation, with the character that chooses it. -/
def presentations : List (List Char × Char) :=
  [("-emoji".toList, '\ufe0f'), ("-text".toList, '\ufe0e')]

/-- A name without the mark for a presentation, and the character that chooses it. -/
def presented (name : List Char) : List Char × List Char :=
  match presentations.find? fun (mark, _) => mark.isSuffixOf name with
  | some (mark, selector) => (name.take (name.length - mark.length), [selector])
  | none => (name, [])

/-- What a name between colons becomes. -/
def meaning (name : List Char) : List Char :=
  let (bare, selector) := presented name
  match named? (Text.lowered bare) with
  | some characters => characters ++ selector
  | none => ':' :: name ++ [':']

/-- A character that can stand in a name. -/
def isNameChar (c : Char) : Bool := c != ':' && !Text.isBlank c

theorem length_le_of_dropWhile {p : Char → Bool} {cs rest : List Char} {c : Char}
    (h : cs.dropWhile p = c :: rest) : rest.length ≤ cs.length := by
  have hle := (List.dropWhile_suffix (p := p) (l := cs)).length_le
  rw [h, List.length_cons] at hle
  omega

def replaced : List Char → List Char
  | [] => []
  | c :: cs =>
    if c = ':' then
      match h : cs.dropWhile isNameChar with
      | ':' :: rest =>
        have : rest.length ≤ cs.length := length_le_of_dropWhile h
        meaning (cs.takeWhile isNameChar) ++ replaced rest
      | _ => c :: replaced cs
    else c :: replaced cs
termination_by cs => cs.length

end TypeTags.Emoji
