/-!
# Patterns for names

In a pattern, `*` stands for any characters, `?` for one, and brackets for one of those they list,
or with `!` for one that they do not list.

* `Glob.parts`: the parts of a pattern.
* `Glob.fits`: whether a name fits a pattern.
-/

namespace TypeTags

inductive GlobPart where
  /-- Any characters. -/
  | many
  /-- One character, of any kind. -/
  | one
  /-- This character. -/
  | literal (c : Char)
  /-- One character that lies in one of the ranges, or in none of them. -/
  | among (inside : Bool) (ranges : List (Char × Char))
  deriving DecidableEq, Repr

/-- Whether a part that stands for one character stands for this one. -/
def GlobPart.admits (c : Char) : GlobPart → Bool
  | many => false
  | one => true
  | literal own => c == own
  | among inside ranges => (ranges.any fun (low, high) => low ≤ c && c ≤ high) == inside

namespace Glob

def ranges : List Char → List (Char × Char)
  | low :: '-' :: high :: cs => (low, high) :: ranges cs
  | c :: cs => (c, c) :: ranges cs
  | [] => []

/-- What stands between brackets and what follows them, after the opening one. A closing bracket
that comes first is listed. -/
def bracketed? (cs : List Char) : Option (List Char × List Char) :=
  let (first, rest) := match cs with
    | ']' :: rest => ([']'], rest)
    | _ => ([], cs)
  match rest.span (· != ']') with
  | (listed, _ :: rest) => some (first ++ listed, rest)
  | (_, []) => none

/-- The part that stands for one of the listed characters. Empty ranges in front list nothing, and
an exclamation mark after them inverts the list. -/
def listedPart (ranges : List (Char × Char)) : GlobPart :=
  match ranges.dropWhile fun (low, high) => high < low with
  | ('!', '!') :: rest => .among false rest
  | listed => .among true listed

/-- The part that a bracket opens, and what follows it; without a closing bracket it stands for
itself. -/
def bracketPart (cs : List Char) : GlobPart × List Char :=
  match cs with
  | '!' :: inverse =>
    match bracketed? inverse with
    | some (listed, rest) => (.among false (ranges listed), rest)
    | none => (.literal '[', cs)
  | _ =>
    match bracketed? cs with
    | some (listed, rest) => (listedPart (ranges listed), rest)
    | none => (.literal '[', cs)

def parts : List Char → List GlobPart
  | [] => []
  | c :: cs =>
    if c = '*' then .many :: parts cs
    else if c = '?' then .one :: parts cs
    else if c = '[' then
      let (part, rest) := bracketPart cs
      if rest.length ≤ cs.length then part :: parts rest else [part]
    else .literal c :: parts cs
termination_by cs => cs.length

/-- For each end of the parts, from all of them down to none, whether no characters fit it. -/
def fitNothing : List GlobPart → List Bool
  | [] => [true]
  | part :: rest =>
    let fits := fitNothing rest
    (part == .many && fits.headD false) :: fits

/-- The same for a character and those after it, given the answers for those after it. -/
def fitChar (c : Char) : List GlobPart → List Bool → List Bool
  | [], _ => [false]
  | part :: rest, after =>
    let fits := fitChar c rest after.tail
    (if part = .many then fits.headD false || after.headD false
      else part.admits c && after.tail.headD false) :: fits

/-- For each end of the parts, whether the characters fit it. Each end is decided once for each
character, so that many stars cost no more than other parts. -/
def fitEnds (parts : List GlobPart) : List Char → List Bool
  | [] => fitNothing parts
  | c :: cs => fitChar c parts (fitEnds parts cs)

/-- Whether characters fit the parts of a pattern. -/
def fitsParts (parts : List GlobPart) (cs : List Char) : Bool := (fitEnds parts cs).headD false

def fits (pattern name : String) : Bool := fitsParts (parts pattern.toList) name.toList

end Glob

end TypeTags
