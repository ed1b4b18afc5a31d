import TypeTags.Command.Invocation
import TypeTags.Command.Session
import TypeTags.Enrichment
import TypeTags.Registry.Document
import TypeTags.Report.Listing
import TypeTags.Schema.Types
import TypeTags.Signature.Parse
import TypeTags.Workspace.Snapshot

/-!
# Running commands

Each command as the list of its actions.

* `Command.actions?`: the actions of a command; there are none if it names a path that is not there.
* `Surroundings.ofJson`: what a command runs in, from a snapshot.
* `Surroundings.run`: run the program on its arguments.
-/

namespace TypeTags

/-- What a command runs in: the files, where they are, and the variables of the environment. -/
structure Surroundings where
  workspace : Workspace
  /-- The working directory, as seen from the root of all folders. -/
  root : Location := []
  environment : Assoc String := []

namespace Surroundings

/-- What a JSON object describes: the working directory `root`, its `files`, and the variables
`env`, of which those that are null are not set. -/
def ofJson (v : Json) : Surroundings where
  workspace := Workspace.ofJson ((v.member? "files").getD .null)
  root := Location.normal (Location.ofText (v.stringD "root"))
  environment := match v.member? "env" with
    | some (.object members) => members.filterMap fun (name, value) => match value with
      | .string text => some (name, text)
      | _ => none
    | _ => []

/-- Where the file of variables lies. -/
def envFile : Location := [".env"]

def settings (s : Surroundings) : Except Settings.LoadError Settings :=
  Settings.load [] s.environment (s.workspace.bytes? envFile)

/-- The place that a path leads to, if there is something. Steps up are taken as written. -/
def place? (s : Surroundings) (path : String) : Option Location :=
  let steps := Location.ofText path
  let whole := Location.normal (if Location.isAbsolute path then steps else s.root ++ steps)
  (s.root.isPrefixOf? whole).filter s.workspace.holds

/-- What a place is called. -/
def name (s : Surroundings) (place : Location) : String := Location.absoluteText (s.root ++ place)

end Surroundings

namespace Command

/-- Complain about an error. -/
def complaint (message : String) : Action := .complain ("[red]Error:[/red] " ++ message)

/-- What is told about the work on a file. -/
def notes (verbose : Bool) (settings : Settings) (file : String × FileResult) : List Action :=
  match file.2 with
  | .skipped =>
    if verbose then
      [.note ("Skipping " ++ file.1 ++ ": larger than " ++ toString settings.maxFileBytes
        ++ " bytes")]
    else []
  | _ => (Enrichment.warnings file).map .note

/-- What is told about the file of variables: the lines that cannot be read, if it is a text. -/
def envFileNotes (s : Surroundings) : List Action :=
  match Settings.envText (s.workspace.bytes? Surroundings.envFile) with
  | .error _ => []
  | .ok text => (EnvFile.unreadableLines text).map fun line =>
    .note ("python-dotenv could not parse statement starting at line " ++ toString line)

/-- Enrich the sources at a place, and go on with what came of it. -/
def enriched (s : Surroundings) (verbose : Bool) (place : Location) (policy : Option MergePolicy)
    (next : Settings → Enrichment → List Action) : List Action :=
  envFileNotes s ++ match s.settings with
  | .error cause => [.fail (.settings cause)]
  | .ok settings =>
    let used := { settings with mergePolicy := policy.getD settings.mergePolicy }
    let name := fun below => s.name (place ++ below)
    match s.workspace.results used place name with
    | .error cause => [.fail (.pattern cause)]
    | .ok files =>
      files.flatMap (notes verbose used) ++ next settings (Enrichment.ofResults files).finish

def report (settings : Settings) (path : String) (output : Option String) (e : Enrichment) :
    List Action :=
  let shown := e.registry.objects.values.filter fun entry =>
    settings.includePrivate || entry.visibility != .hidden
  let found := e.registry.diagnostics
  [.say ("[green]✓[/green] Scan completed: " ++ path),
    .say ("  Files: " ++ toString e.scanned),
    .say ("  Objects: " ++ toString e.registry.objects.length),
    .say ("  Methods: " ++ toString e.registry.methods.length)]
    ++ (if e.skipped = 0 then []
      else [.say ("  [yellow]Skipped files: " ++ toString e.skipped ++ "[/yellow]")])
    ++ (output.toList.map fun text => .say ("  Written to: " ++ text))
    ++ (if shown.isEmpty then [] else [.draw (Listing.objects shown)])
    ++ (if found.isEmpty then []
      else [.say ("  [yellow]Diagnostics: " ++ toString found.length ++ "[/yellow]"),
        .draw (Listing.diagnostics found)])

/-- What a file to be written is called. -/
def outputName (path : String) : String :=
  if Location.isAbsolute path then Location.absoluteText (Location.ofText path)
  else Location.relativeText (Location.ofText path)

/-- Document the sources at a place. -/
def scanActions (path : String) (json : Bool) (output : Option String) (settings : Settings)
    (e : Enrichment) : List Action :=
  if !e.success then
    complaint "Scan failed" :: (e.errors.map fun error => .complain ("  - " ++ error.message))
      ++ [.exit 1]
  else match e.registry.serialize with
    | .error error =>
      complaint error.message :: (error.details.toList.map fun text => .complain ("  " ++ text))
        ++ [.exit 1]
    | .ok text =>
      (output.toList.map fun file => .save file text)
        ++ if json then [.emit text] else report settings path (output.map outputName) e

/-- Show what is documented about one thing. -/
def inspectActions (object : String) (e : Enrichment) : List Action :=
  match e.registry.at? object with
  | none => [complaint ("Object not found: " ++ object), .exit 1]
  | some entry =>
    let line := (entry.line.map (fun n => toString n)).getD ""
    [.say ("[blue]" ++ entry.path ++ "[/blue] (" ++ entry.kind.name ++ ", "
        ++ entry.visibility.name ++ ")")]
      ++ ((entry.file.filter (!·.isEmpty)).toList.map fun file =>
        .say ("  Defined in: " ++ file ++ ":" ++ line))
      ++ (if entry.docstring.isEmpty then [] else [.sayPlain entry.docstring])
      ++ (if entry.tags.isEmpty then [] else [.draw (Listing.tags entry.tags)])

/-- Documentation types in brackets. -/
def bracketed (types : List String) : String := "[" ++ String.intercalate ", " types ++ "]"

/-- Show the tags that a signature gives. -/
def parseSigActions (body : String) : List Action :=
  match (Signature.parse body 1).result with
  | .error (.malformed fault) => [complaint fault.message, .exit 1]
  | .error (.lineBelowOne span) => [complaint (flawsMessage span.flaws), .exit 1]
  | .ok sig =>
    (sig.params.map fun (name, type) =>
        .sayPlain ("@param " ++ name ++ " " ++ bracketed type.render))
      ++ (sig.renderReturn.toList.map fun types => .sayPlain ("@return " ++ bracketed types))
      ++ (if sig.abstract then [.sayPlain "@abstract"] else [])

/-- Show the documentation types of a type. -/
def renderTypeActions (type : String) : List Action :=
  match TypeExpr.parse type with
  | .error fault => [complaint fault.message, .exit 1]
  | .ok type => [.sayPlain (String.intercalate ", " type.render)]

def actions? (s : Surroundings) (verbose : Bool) : Command → Option (List Action)
  | scan path json output policy => do
    let place ← s.place? path
    return enriched s verbose place policy (scanActions (s.name place) json output)
  | inspect path object policy => do
    let place ← s.place? path
    return enriched s verbose place policy fun _ => inspectActions object
  | parseSig body => some (parseSigActions body)
  | renderType type => some (renderTypeActions type)

end Command

/-- The exit code for arguments that are misused. -/
def misuse : Nat := 2

def usage : String :=
  "Usage:\n"
    ++ "  [-v] scan PATH [--json] [-o FILE] [--policy signature|explicit]\n"
    ++ "  [-v] show PATH OBJECT [--policy signature|explicit]\n"
    ++ "  [-v] parse-sig BODY\n"
    ++ "  [-v] render-type TYPE\n"

/-- Run the program on its arguments. -/
def Surroundings.run (s : Surroundings) (arguments : List String) : Session :=
  let session : Session := { workspace := s.workspace, root := s.root }
  let misused : Session := { session with stderr := usage, exitCode := misuse }
  match Invocation.parse? arguments with
  | none => misused
  | some invocation =>
    match invocation.command.actions? s invocation.verbose with
    | none => misused
    | some actions => session.run actions

end TypeTags
