import LoginThrottle.Config.Setting
import LoginThrottle.Yaml12.Value

/-!
# Configurations from a file and the environment

A file in YAML says how a service is configured, and variables of the environment in which
it runs may say otherwise.

## Main Definitions

* `Setting.ofValue?`: the setting that a value of a file is
* `Setting.ofYaml?`: the settings of the text of a file
* `Setting.ofSources?`: the settings of a file, overruled by variables
* `Config.ofFile`: the sound configuration of a file and an environment

## Design Notes

A variable belongs to the configuration if its name starts with `variableStart`. The rest
of the name says which setting it is, with two underscores between the levels. The names at
the top of a file are paths too.
-/

namespace LoginThrottle

namespace Setting

/-! ### Documents -/

/-- The name that a value is when it stands as a key. Only texts and whole numbers are names. -/
def nameOf? : Yaml12.Value → Option String
  | .string name => some name
  | .integer value => some (renderInt value)
  | _ => none

mutual

/-- The setting that a value of a file is. Numbers without bounds are none. -/
def ofValue? : Yaml12.Value → Option Setting
  | .missing | .null => some nothing
  | .boolean value => some (flag value)
  | .integer value => some (whole value)
  | .real spelling => (Binary64.read? spelling).map real
  | .string value => some (text value)
  | .sequence elements => (ofValues? elements).map list
  | .mapping pairs => (ofPairs? pairs []).map table

/-- The settings that some values are. -/
def ofValues? : List Yaml12.Value → Option (List Setting)
  | [] => some []
  | value :: values => do
    let setting ← ofValue? value
    return setting :: (← ofValues? values)

/-- The entries that some pairs add to a table. Of two entries with one name the later stays. -/
def ofPairs? : List (Yaml12.Value × Yaml12.Value) → List (String × Setting) →
    Option (List (String × Setting))
  | [], entries => some entries
  | (key, value) :: pairs, entries => do
    let name ← nameOf? key
    let setting ← ofValue? value
    ofPairs? pairs (Keyed.putEntry name setting entries)

end

/-- The settings of a text, which must be a table. A text without a document has none. -/
def ofYaml? (text : String) : Option (List (String × Setting)) := do
  match ← Yaml12.Value.ofText? text with
  | none => return []
  | some root =>
    match ← ofValue? root with
    | table entries => return entries
    | _ => none

/-! ### Sources -/

/-- How the names of variables of the configuration start, in lower case. -/
def variableStart : String := "authguard__"

/-- The path of the setting that a variable names, if it belongs to the configuration. -/
def variablePath? (name : String) : Option String :=
  let name := lowerCase name
  if name.startsWith variableStart then
    some ((name.drop variableStart.length).toString.replace "__" ".")
  else
    none

/-- Puts a setting into the tree under a path. -/
def putPath (path : String) (setting root : Setting) : Setting :=
  putAt setting (settingPath path) root

/-- Puts a variable into the tree if it belongs to the configuration. -/
def putVariable (root : Setting) (entry : String × String) : Setting :=
  match variablePath? entry.1 with
  | some path => putPath path (text entry.2) root
  | none => root

/-- The settings of a file, overruled by variables. -/
def ofSources? (file : String) (environment : List (String × String)) : Option Setting := do
  let entries ← ofYaml? file
  let root := entries.foldl (fun root entry => putPath (lowerCase entry.1) entry.2 root) (table [])
  return environment.foldl putVariable root

end Setting

/-- The configuration of a file and an environment. -/
def Config.ofFile? (file : String) (environment : List (String × String)) : Option Config := do
  Config.read Setting.form (← Setting.ofSources? file environment)

/-- The fault of a file that cannot be loaded. -/
def unloadableConfig : Fault :=
  .configuration "<load>"

/-- The sound configuration of a file and an environment. There may be no such file. -/
def Config.ofFile (file : Option String) (environment : List (String × String)) :
    Except Fault Config :=
  match file.bind fun text => Config.ofFile? text environment with
  | none => .error unloadableConfig
  | some config => config.validate

end LoginThrottle
