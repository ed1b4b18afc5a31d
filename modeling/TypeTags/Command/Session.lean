import TypeTags.Report.Table
import TypeTags.Settings.Load
import TypeTags.Workspace.Basic

/-!
# Sessions

A command is a list of actions, which are performed in order on a session until one of them ends it.
What was written before that stays written.

* `Action`: a single effect of a command.
* `Session.run`: perform actions.
-/

namespace TypeTags

/-- Why a session breaks off. -/
inductive Failure where
  /-- The settings cannot be loaded. -/
  | settings (cause : Settings.LoadError)
  /-- The pattern for source files is wrong. -/
  | pattern (cause : PatternError)
  /-- A text for a report has a tag that is wrong. -/
  | markup (cause : Markup.Problem)
  /-- The folder of a file to be written is not there. -/
  | missingFolder
  /-- The folder of a file to be written is a file. -/
  | notFolder
  /-- A file to be written is a folder. -/
  | isFolder
  deriving DecidableEq, Repr

def Failure.message : Failure → String
  | settings cause => cause.message
  | pattern cause => cause.message
  | markup cause => cause.message
  | missingFolder => "The folder of the output file does not exist"
  | notFolder => "The folder of the output file is a file"
  | isFolder => "The output file is a folder"

/-- A single effect of a command. -/
inductive Action where
  /-- Report a marked up line. -/
  | say (markup : String)
  /-- Report a line as it is. -/
  | sayPlain (text : String)
  /-- Report a table. -/
  | draw (table : Table)
  /-- Write a line of data. -/
  | emit (text : String)
  /-- Write a line about the work to the error output. -/
  | note (text : String)
  /-- Report a marked up line on the error output. -/
  | complain (markup : String)
  /-- Write a text into a file. -/
  | save (path text : String)
  /-- End with an exit code. -/
  | exit (code : Nat)
  /-- Break off. -/
  | fail (failure : Failure)
  deriving DecidableEq, Repr

/-- What a command has written so far, and how it ended. -/
structure Session where
  workspace : Workspace
  /-- The working directory, as seen from the root of all folders. -/
  root : Location := []
  stdout : String := ""
  stderr : String := ""
  /-- The files that were written, with their texts. -/
  saved : List (String × String) := []
  exitCode : Nat := 0
  failure : Option Failure := none

namespace Session

/-- The session with a line at the end of its output. -/
def out (s : Session) (line : String) : Session := { s with stdout := s.stdout ++ line ++ "\n" }

/-- The session with a line at the end of its error output. -/
def err (s : Session) (line : String) : Session := { s with stderr := s.stderr ++ line ++ "\n" }

def broken (s : Session) (failure : Failure) : Session :=
  { s with exitCode := 1, failure := some failure }

/-- Where in the working directory a path leads, unless it leads out of it. -/
def inside? (s : Session) (path : String) : Option Location :=
  let location := Location.ofText path
  if Location.isAbsolute path then s.root.isPrefixOf? location
  else if location.leavesTop then none
  else some location

/-- Why there is no folder at a location. -/
def folderFailure (w : Workspace) (location : Location) : Failure :=
  if (List.range (location.length + 1)).any fun n => (w.file? (location.take n)).isSome
  then .notFolder else .missingFolder

/-- Where a file would be written, if it can be. -/
def target (w : Workspace) (location : Location) : Except Failure Location :=
  match w.locate? location.dropLast, location.getLast? with
  | _, none => .error .isFolder
  | none, _ => .error (folderFailure w location.dropLast)
  | some folder, some name =>
    if !w.isFolder folder then .error (folderFailure w folder)
    else if w.isFolder (folder.go name) then .error .isFolder
    else .ok (folder.go name)

/-- Write a text into a file. What lies outside the working directory is not looked at. -/
def save (s : Session) (path text : String) : Except Failure Session :=
  let saved := s.saved ++ [(path, text)]
  match s.inside? path with
  | none => .ok { s with saved }
  | some location =>
    (target s.workspace location).map fun location =>
      { s with workspace := s.workspace.write location text, saved }

/-- The width of the console that reports are written for. -/
def consoleWidth : Nat := 5000

/-- A text as a report shows it. -/
def shown (text : List Char) : String :=
  String.ofList (['\n'].intercalate (Wrap.lines consoleWidth .fold text))

/-- Perform an action; `error` is the session that it ends. -/
def perform (s : Session) : Action → Except Session Session
  | .say text =>
    match Markup.plain text with
    | .ok line => .ok (s.out (shown line))
    | .error cause => .error (s.broken (.markup cause))
  | .sayPlain text => .ok (s.out (shown (Markup.audible (Emoji.replaced text.toList))))
  | .draw table =>
    match table.render consoleWidth with
    | .ok drawing => .ok { s with stdout := s.stdout ++ drawing }
    | .error cause => .error (s.broken (.markup cause))
  | .emit text => .ok (s.out text)
  | .note text => .ok (s.err text)
  | .complain text =>
    match Markup.plain text with
    | .ok line => .ok (s.err (shown line))
    | .error cause => .error (s.broken (.markup cause))
  | .save path text =>
    match s.save path text with
    | .ok s => .ok s
    | .error failure => .error (s.broken failure)
  | .exit code => .error { s with exitCode := code }
  | .fail failure => .error (s.broken failure)

/-- Perform actions in order, until one ends the session. -/
def run (s : Session) : List Action → Session
  | [] => s
  | action :: actions =>
    match s.perform action with
    | .ok s => run s actions
    | .error s => s

end Session

end TypeTags
