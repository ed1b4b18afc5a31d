import TypeTags.Outline.Walk
import TypeTags.Workspace.Basic

/-!
# Enriching a set of files

Each file is worked on alone: it is too large and skipped, it fails, or it gives a registry. The
registries are merged in the order of the files, so that the last file that defines a path wins.

* `Enrichment.ofResults`: what the results of single files add up to.
* `Workspace.enrich`: the enrichment of the sources at a place.
-/

namespace TypeTags

inductive FileResult where
  | skipped
  | failed (reason : String)
  | analyzed (registry : Registry)
  deriving DecidableEq, Repr

/-- What stops an enrichment from being complete. -/
inductive EnrichmentError where
  | missingPath (path : String)
  | failedFile (path reason : String)
  | nothingFound
  deriving DecidableEq, Repr

def EnrichmentError.message : EnrichmentError → String
  | missingPath path => "Source path does not exist: " ++ path
  | failedFile path reason => "Error analyzing " ++ path ++ ": " ++ reason
  | nothingFound => "No supported source files found"

structure Enrichment where
  registry : Registry := {}
  scanned : Nat := 0
  skipped : Nat := 0
  errors : List EnrichmentError := []
  deriving DecidableEq, Repr, Inhabited

namespace Enrichment

/-- Add the result of the file with the given name. -/
def add (e : Enrichment) (file : String × FileResult) : Enrichment :=
  match file.2 with
  | .skipped => { e with skipped := e.skipped + 1 }
  | .failed reason => { e with errors := e.errors ++ [.failedFile file.1 reason] }
  | .analyzed registry =>
    { e with registry := e.registry.merge registry, scanned := e.scanned + 1 }

/-- What the results of named files add up to. -/
def ofResults (files : List (String × FileResult)) : Enrichment := files.foldl add {}

/-- The enrichment, with an error if there was no file at all. -/
def finish (e : Enrichment) : Enrichment :=
  if e.scanned = 0 ∧ e.errors = [] ∧ e.skipped = 0 then { e with errors := [.nothingFound] } else e

def success (e : Enrichment) : Bool := e.errors.isEmpty

/-- A warning about a diagnostic, if it deserves one. -/
def warning? (d : Diagnostic) : Option String :=
  match d.kind with
  | .malformedSignature =>
    let line := (d.line.map (fun n => toString n)).getD ""
    some ("Malformed signature at " ++ d.file.getD "<source>" ++ ":" ++ line ++ ": " ++ d.message)
  | _ => none

def warnings (file : String × FileResult) : List String :=
  match file.2 with
  | .skipped => []
  | .failed reason => ["Failed to analyze " ++ file.1 ++ ": " ++ reason]
  | .analyzed registry => registry.diagnostics.filterMap warning?

end Enrichment

/-- Work on a file with the given name. -/
def SourceFile.result (file : SourceFile) (settings : Settings) (name : String) : FileResult :=
  if settings.maxFileBytes < file.bytes.length then .skipped
  else match file.tree with
    | none => .failed "no syntax tree"
    | some root => .analyzed (Outline.analyze file.bytes root (some name) settings.mergePolicy)

namespace Workspace

/-- The results of the sources at a place; `name` tells what a location below it is called. -/
def results (w : Workspace) (settings : Settings) (start : Location) (name : Location → String) :
    Except PatternError (List (String × FileResult)) :=
  (w.sources settings start).map fun files => files.map fun (place, file) =>
    (name place, file.result settings (name place))

def enrich (w : Workspace) (settings : Settings) (start : Location) (name : Location → String) :
    Except PatternError Enrichment :=
  if w.holds start then
    (w.results settings start name).map fun files => (Enrichment.ofResults files).finish
  else .ok { errors := [.missingPath (name [])] }

end Workspace

end TypeTags
