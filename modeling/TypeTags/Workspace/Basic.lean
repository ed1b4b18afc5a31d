import TypeTags.Outline.Tree
import TypeTags.Settings.Basic
import TypeTags.Workspace.PathPattern

/-!
# The working directory

A workspace is what a run can see of a working directory: its files, with their syntax trees, and
its folders. A folder is there if something lies below it.

* `Workspace.locate?`: follow a location with steps up.
* `Workspace.sources`: the source files at a place, in order.
-/

namespace TypeTags

/-- A file and its syntax tree. A file that is no source, or that cannot be parsed, has no tree. -/
structure SourceFile where
  bytes : Bytes
  tree : Option SyntaxNode := none
  deriving Inhabited

def SourceFile.text (file : SourceFile) : String := String.ofList (decodeUtf8 file.bytes)

/-- The files of a working directory, and the folders that may be empty. -/
structure Workspace where
  files : List (Location × SourceFile) := []
  folders : List Location := []
  deriving Inhabited

namespace Workspace

def file? (w : Workspace) (location : Location) : Option SourceFile := w.files.lookup location

def isFolder (w : Workspace) (location : Location) : Bool :=
  location.isEmpty
    || w.files.any (fun (place, _) => location.isPrefixOf place && place != location)
    || w.folders.any (fun place => location.isPrefixOf place)

def holds (w : Workspace) (location : Location) : Bool :=
  (w.file? location).isSome || w.isFolder location

/-- Go one step on from a folder. There is no way above the working directory. -/
def go? (w : Workspace) (here : Location) (name : String) : Option Location :=
  if !w.isFolder here || (name == Location.up && here.isEmpty) then none
  else some (here.go name)

/-- The place that a location leads to, if there is something at every step. -/
def locate? (w : Workspace) (location : Location) : Option Location :=
  (location.foldlM w.go? []).filter w.holds

def bytes? (w : Workspace) (location : Location) : Option Bytes :=
  (w.file? location).map SourceFile.bytes

def text? (w : Workspace) (location : Location) : Option String :=
  (w.file? location).map SourceFile.text

/-- The workspace with a text in a file. -/
def write (w : Workspace) (location : Location) (text : String) : Workspace :=
  { w with files := (location, { bytes := text.toUTF8.toList })
      :: w.files.filter fun (place, _) => place != location }

/-! ## Finding sources -/

/-- The locations on the way to a location, from the starting place to itself. -/
def onTheWay (location : Location) : List Location :=
  (List.range (location.length + 1)).map location.take

/-- The folders at and below a folder, as seen from it. -/
def foldersBelow (w : Workspace) (folder : Location) : List Location :=
  let fromFiles := w.files.filterMap fun (place, _) => (folder.isPrefixOf? place).map List.dropLast
  let fromFolders := w.folders.filterMap fun place => folder.isPrefixOf? place
  ([] :: (fromFiles ++ fromFolders).flatMap onTheWay).eraseDups

def filesIn (w : Workspace) (folder : Location) : List (String × SourceFile) :=
  w.files.filterMap fun (place, file) =>
    match folder.isPrefixOf? place with
    | some [name] => some (name, file)
    | _ => none

/-- The folders that a step of a pattern leads to from a folder, as seen from it. -/
def foldersAfter (w : Workspace) (folder : Location) : PatternStep → List Location
  | .anyFolders => w.foldersBelow folder
  | .up => if folder.isEmpty then [] else [[Location.up]]
  | .named parts =>
    (w.foldersBelow folder).filter fun below => match below with
      | [name] => Glob.fitsParts parts name.toList
      | _ => false

/-- The folders that the steps of a pattern lead to from a folder, as seen from it. -/
def foldersReached (w : Workspace) (start : Location) (steps : List PatternStep) : List Location :=
  steps.foldl (fun reached step =>
    (reached.flatMap fun folder =>
      (w.foldersAfter (start ++ folder).normal step).map (folder ++ ·)).eraseDups) [[]]

/-- The files below a folder that fit a pattern, with their locations as seen from it. -/
def matching (w : Workspace) (start : Location) (pattern : PathPattern) :
    List (Location × SourceFile) :=
  match pattern.fileParts? with
  | none => []
  | some parts =>
    (w.foldersReached start pattern.steps.dropLast).flatMap fun folder =>
      ((w.filesIn (start ++ folder).normal).filter fun (name, _) =>
        Glob.fitsParts parts name.toList).map fun (name, file) => (folder ++ [name], file)

/-- Whether a location lies in a folder that is left out. -/
def isExcluded (settings : Settings) (location : Location) : Bool :=
  location.dropLast.any (settings.excludeDirs.contains ·)

/-- The source files at a place, with their locations as seen from it, in order. A file is its own
only source, whatever its name. -/
def sources (w : Workspace) (settings : Settings) (start : Location) :
    Except PatternError (List (Location × SourceFile)) :=
  match w.file? start with
  | some file => .ok [([], file)]
  | none => do
    let pattern ← PathPattern.ofText settings.filePattern
    return ((w.matching start pattern.atAnyDepth).filter fun (place, _) =>
      !isExcluded settings place).mergeSort fun a b => a.1.le b.1

end Workspace

end TypeTags
