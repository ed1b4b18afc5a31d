import TypeTags.Text.CharClass

/-!
# Trimming and squeezing white space

`trim` removes white space at both ends. `squeeze` is what a verbatim capture of several source
lines goes through: each run of white space that holds a line feed becomes one space.
-/

namespace TypeTags.Text

/-- The characters from the first that is not blank. -/
def trimStart (cs : List Char) : List Char := cs.dropWhile isBlank

/-- The characters up to the last that is not blank. -/
def trimEnd (cs : List Char) : List Char := (cs.reverse.dropWhile isBlank).reverse

/-- The characters from the first to the last that is not blank. -/
def trim (cs : List Char) : List Char := trimEnd (trimStart cs)

/-- What a run of white space becomes: one space if it breaks a line, itself otherwise. -/
def squeezeRun (run : List Char) : List Char := if '\n' ∈ run then [' '] else run

/-- Squeeze the runs of white space in `cs`, where `run` is the run read just before it. -/
def squeezeFrom (run : List Char) : List Char → List Char
  | [] => squeezeRun run
  | c :: cs =>
    if isBlank c then squeezeFrom (run ++ [c]) cs
    else squeezeRun run ++ c :: squeezeFrom [] cs

/-- Trim, then replace each run of white space that holds a line feed by one space. -/
def squeeze (cs : List Char) : List Char := squeezeFrom [] (trim cs)

def trimmed (s : String) : String := String.ofList (trim s.toList)

def squeezed (s : String) : String := String.ofList (squeeze s.toList)

end TypeTags.Text
