import ViewLink.Config.Decode
import ViewLink.Files.Tree
import ViewLink.Toml.Reader

/-!
# Loading configurations

A configuration file is TOML text. It is read, decoded and validated, and each of these steps can
fail.
-/

set_option autoImplicit false

namespace ViewLink

open Files (Path Disk)

/-- **Why there is no configuration.** -/
inductive ConfigError where
  /-- The file cannot be read. -/
  | unreadable (path : Path) (fault : Files.Fault)
  /-- The text is not TOML, or its settings have the wrong types. -/
  | unparsable
  /-- A setting is of no use. -/
  | invalid (flaw : Config.Flaw)
  deriving DecidableEq, Repr

/-- The wording of the error, given what the file system and the TOML reader have to say. -/
def ConfigError.message (explain : Files.Fault → String) (diagnosis : String) :
    ConfigError → String
  | unreadable path fault =>
    "failed to read configuration '" ++ path.text ++ "': " ++ explain fault
  | unparsable => "failed to parse configuration: " ++ diagnosis
  | invalid flaw => flaw.message

/-- What the error is caused by, given the same. -/
def ConfigError.causes (explain : Files.Fault → String) : ConfigError → List String
  | unreadable _ fault => [explain fault]
  | unparsable => []
  | invalid _ => []

namespace Config

/-- **A document without the items that no setting takes.** In TOML the array of a group may be
longer than the group, and nothing is asked of the items beyond. -/
def dropSurplus (t : Toml.Table) : Toml.Table :=
  { t with
    entries := t.entries.map fun
      | ("assets", .array items) => ("assets", .array (items.take assetKeys.length))
      | ("view", .array items) => ("view", .array (items.take viewKeys.length))
      | entry => entry }

/-- **The configuration in a text.** -/
def ofToml (text : String) : Except ConfigError Config :=
  match (Toml.Table.read text).bind fun t => (dropSurplus t).value?.bind decode with
  | none => .error .unparsable
  | some config =>
    match config.validate with
    | .error flaw => .error (.invalid flaw)
    | .ok () => .ok config

/-- **The configuration in a file.** -/
def load (disk : Disk) (path : Path) : Except ConfigError Config :=
  match disk.readText path with
  | .error fault => .error (.unreadable path fault)
  | .ok text => ofToml text

end Config

end ViewLink
