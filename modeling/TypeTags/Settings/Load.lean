import TypeTags.Json.Reader
import TypeTags.Outline.Bytes
import TypeTags.Settings.Basic
import TypeTags.Settings.EnvFile

/-!
# Loading settings

Settings are given directly, by variables of the environment, or by a file of variables; in this
order the first that names a setting wins. A variable names a setting when it is the setting's name
after `SIGDOC_`, in any case. A list is given as a JSON array.

* `Settings.load`: the settings from all three.
* `Settings.Cache`: settings that are loaded once and kept.
-/

namespace TypeTags.Settings

/-- Where variables come from. -/
inductive Origin where
  | environment
  | envFile
  deriving DecidableEq, Repr

def Origin.name : Origin → String
  | environment => "EnvSettingsSource"
  | envFile => "DotEnvSettingsSource"

/-- Why no settings come out. -/
inductive LoadError where
  /-- The file of variables is not UTF-8. -/
  | undecodable (flaw : Utf8Flaw)
  /-- The variable for a list does not hold JSON. -/
  | unreadable (field : String) (origin : Origin)
  /-- Some values do not fit their settings. -/
  | invalid (flaws : List Flaw)
  deriving DecidableEq, Repr

def LoadError.message : LoadError → String
  | undecodable flaw => flaw.message
  | unreadable field origin =>
    "error parsing value for field \"" ++ field ++ "\" from source \"" ++ origin.name ++ "\""
  | invalid flaws => flawsMessage flaws

/-- What the name of a setting stands after in the name of its variable, in lower case. -/
def variableLead : String := "sigdoc_"

/-- The settings whose values are lists. -/
def listFields : List String := ["exclude_dirs"]

/-- The value of the last variable that names a setting. -/
def named? (bindings : Assoc (Option String)) (field : String) : Option String :=
  match (bindings.filter fun (name, _) => name.toLower == variableLead ++ field).getLast? with
  | some (_, value) => value
  | none => none

/-- The value that variables give to a setting, if any. -/
def given? (origin : Origin) (bindings : Assoc (Option String)) (field : String) :
    Except LoadError (Option (String × Json)) :=
  match named? bindings field with
  | none => .ok none
  | some text =>
    if field ∈ listFields then
      match Json.parse text with
      | .ok .null => .ok none
      | .ok v => .ok (some (field, v))
      | .error _ => .error (.unreadable field origin)
    else .ok (some (field, .string text))

/-- The values that variables give to settings. -/
def ofVariables (origin : Origin) (bindings : Assoc (Option String)) :
    Except LoadError (List (String × Json)) := do
  let values ← fieldNames.mapM (given? origin bindings)
  return values.filterMap id

/-- The text of a file of variables; without a file it is empty. -/
def envText (envFile : Option Bytes) : Except LoadError String :=
  let bytes := envFile.getD []
  match utf8Flaw? bytes with
  | some flaw => .error (.undecodable flaw)
  | none => .ok (String.ofList (decodeUtf8 bytes))

/-- The settings from values given directly, the environment and a file of variables. -/
def load (direct : List (String × Json)) (environment : Assoc String) (envFile : Option Bytes) :
    Except LoadError Settings := do
  let text ← envText envFile
  let fromEnvironment ←
    ofVariables .environment (environment.map fun (name, value) => (name, some value))
  let fromFile ← ofVariables .envFile (EnvFile.bindings environment text)
  match check (direct ++ fromEnvironment ++ fromFile) with
  | .ok settings => return settings
  | .bad flaws => .error (.invalid flaws)

/-- Settings that are loaded when they are first asked for, and kept. -/
structure Cache where
  kept : Option Settings := none
  deriving DecidableEq, Repr, Inhabited

namespace Cache

/-- The kept settings, or those that are loaded now. A load that fails is not kept. -/
def get (cache : Cache) (loaded : Except LoadError Settings) :
    Cache × Except LoadError Settings :=
  match cache.kept, loaded with
  | some settings, _ => (cache, .ok settings)
  | none, .ok settings => (⟨some settings⟩, .ok settings)
  | none, .error e => (cache, .error e)

/-- Forget the kept settings and load them anew. -/
def reload (_ : Cache) (loaded : Except LoadError Settings) : Cache × Except LoadError Settings :=
  get {} loaded

end Cache

end TypeTags.Settings
