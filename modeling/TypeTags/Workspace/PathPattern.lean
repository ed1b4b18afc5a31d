import TypeTags.Workspace.Glob
import TypeTags.Workspace.Location

/-!
# Patterns for places

A pattern for places is a pattern for each name on the way, with slashes between them. Two stars
alone stand for any number of folders, and two dots for the step to the folder above. A slash at the
end asks for folders.

* `PathPattern.ofText`: the steps of a pattern, or what is wrong with it.
-/

namespace TypeTags

inductive PatternError where
  /-- The pattern starts from the root of all folders. -/
  | absolute
  /-- Two stars stand beside other characters. -/
  | mixedStars
  deriving DecidableEq, Repr

def PatternError.message : PatternError → String
  | absolute => "Non-relative patterns are unsupported"
  | mixedStars => "Invalid pattern: '**' can only be an entire path component"

/-- A step on the way that a pattern describes. -/
inductive PatternStep where
  /-- Any number of steps to folders below. -/
  | anyFolders
  /-- The step to the folder above. -/
  | up
  /-- The step to something with a name that fits. -/
  | named (parts : List GlobPart)
  deriving DecidableEq, Repr

structure PathPattern where
  steps : List PatternStep
  /-- Whether only folders fit. -/
  foldersOnly : Bool := false
  deriving DecidableEq, Repr

namespace PatternStep

/-- Whether two stars stand side by side. -/
def hasDoubleStar : List Char → Bool
  | '*' :: '*' :: _ => true
  | _ :: cs => hasDoubleStar cs
  | [] => false

/-- The step that a part of a pattern describes. -/
def ofText (text : String) : Except PatternError PatternStep :=
  if text = "**" then .ok anyFolders
  else if text = Location.up then .ok up
  else if hasDoubleStar text.toList then .error .mixedStars
  else .ok (named (Glob.parts text.toList))

end PatternStep

namespace PathPattern

def ofText (text : String) : Except PatternError PathPattern :=
  if Location.isAbsolute text then .error .absolute
  else do
    let steps ← (Location.ofText text).mapM PatternStep.ofText
    return { steps, foldersOnly := text.toList.getLast? == some '/' }

def atAnyDepth (pattern : PathPattern) : PathPattern :=
  { pattern with steps := .anyFolders :: pattern.steps }

/-- What a file's name has to fit, after the steps to its folder. No file fits a pattern that ends
with another step or asks for folders. -/
def fileParts? (pattern : PathPattern) : Option (List GlobPart) :=
  match pattern.foldersOnly, pattern.steps.getLast? with
  | false, some (.named parts) => some parts
  | _, _ => none

end PathPattern

end TypeTags
