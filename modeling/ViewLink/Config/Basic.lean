import ViewLink.Files.Path
import ViewLink.Json.Printer
import ViewLink.Log.Format
import ViewLink.Text.Blank

/-!
# Configuration

What a user of the library can set: which events are logged and how, where the scripts of the front
end lie, and how large the view is. Every setting has a default.

A setting can have the right type and still be of no use. `Config.validate` finds the first such
flaw, in the order of the settings.

## Main definitions

* `Config`, `AssetSettings`, `ViewSettings` — the settings and their defaults;
* `AssetSettings.scriptPaths` — where the scripts are;
* `Flaw`, `Config.validate` — settings of no use;
* `Config.text` — the settings as JSON.
-/

set_option autoImplicit false

namespace ViewLink

open Files (Path)

/-! ## Settings -/

/-- **The scripts of the front end.** -/
structure AssetSettings where
  /-- The directory of the scripts. -/
  directory : Path := ⟨"assets"⟩
  /-- The names of the scripts, in the order in which they are loaded: the drawing library comes
  before the interpreter that drives it. -/
  scripts : List String := ["cytoscape.js", "jp_cytoscape.js"]
  /-- Whether an operator sees each script that is loaded. -/
  verbose : Bool := false
  deriving DecidableEq, Repr, Inhabited

/-- The paths of the scripts, in loading order. -/
def AssetSettings.scriptPaths (a : AssetSettings) : List Path := a.scripts.map a.directory.join

/-- **The size of the view**, in the units of a style sheet. -/
structure ViewSettings where
  /-- The width. -/
  width : String := "100px"
  /-- The height. -/
  height : String := "100px"
  deriving DecidableEq, Repr, Inhabited

/-- **A configuration.** -/
structure Config where
  /-- The filter expression of the log. -/
  logFilter : String := "info"
  /-- How log events are shown. -/
  logFormat : Log.Format := .json
  /-- The scripts of the front end. -/
  assets : AssetSettings := {}
  /-- The size of the view. -/
  view : ViewSettings := {}
  deriving DecidableEq, Repr

namespace Config

/-- Whether two configurations say the same. Directories are compared by the way they describe. -/
def same (c d : Config) : Bool :=
  c.assets.directory.same d.assets.directory
    && { c with assets.directory := d.assets.directory } = d

/-! ## Validation -/

/-- **A setting of no use.** -/
inductive Flaw where
  /-- The log filter is blank. -/
  | blankFilter
  /-- There are no scripts. -/
  | noScripts
  /-- The name of a script is blank or no bare file name. -/
  | badScript (name : String)
  /-- The width is blank. -/
  | blankWidth
  /-- The height is blank. -/
  | blankHeight
  deriving DecidableEq, Repr

/-- The setting that is at fault. -/
def Flaw.field : Flaw → String
  | blankFilter => "log_filter"
  | noScripts => "assets.scripts"
  | badScript _ => "assets.scripts"
  | blankWidth => "view.width"
  | blankHeight => "view.height"

/-- What is wrong with it. -/
def Flaw.complaint : Flaw → String
  | blankFilter => "must not be empty"
  | noScripts => "at least one script is required"
  | badScript name => "'" ++ name ++ "' is not a bare file name"
  | blankWidth => "must not be empty"
  | blankHeight => "must not be empty"

/-- The wording of a flaw. -/
def Flaw.message (flaw : Flaw) : String :=
  "invalid configuration field '" ++ flaw.field ++ "': " ++ flaw.complaint

/-- Whether a script name is refused: it is blank, or a separator of directories is in it. -/
def isBadScript (name : String) : Bool :=
  Text.isBlankText name || name.toList.any fun c => c = '/' || c = '\\'

/-- The first flaw of the scripts. -/
def assetsFlaw? (a : AssetSettings) : Option Flaw :=
  if a.scripts.isEmpty then some .noScripts
  else (a.scripts.find? isBadScript).map .badScript

/-- The first flaw of the view. -/
def viewFlaw? (v : ViewSettings) : Option Flaw :=
  if Text.isBlankText v.width then some .blankWidth
  else if Text.isBlankText v.height then some .blankHeight
  else none

/-- The first flaw of the configuration. -/
def flaw? (c : Config) : Option Flaw :=
  if Text.isBlankText c.logFilter then some .blankFilter
  else (assetsFlaw? c.assets).or (viewFlaw? c.view)

/-- **Checks that every setting is of use**, or tells the first one that is not. -/
def validate (c : Config) : Except Flaw Unit :=
  match c.flaw? with
  | none => .ok ()
  | some flaw => .error flaw

/-! ## As JSON -/

/-- A string as JSON. -/
def quotedText (s : String) : String := (Json.Value.string s).text

/-- **The configuration as JSON**, its settings in the order of their declaration. -/
def text (c : Config) : String :=
  Json.record
    [("log_filter", quotedText c.logFilter),
      ("log_format", quotedText c.logFormat.word),
      ("assets", Json.record
        [("directory", quotedText c.assets.directory.text),
          ("scripts", Json.listText (c.assets.scripts.map .string)),
          ("verbose", (Json.Value.bool c.assets.verbose).text)]),
      ("view", Json.record
        [("width", quotedText c.view.width), ("height", quotedText c.view.height)])]

end Config

end ViewLink
