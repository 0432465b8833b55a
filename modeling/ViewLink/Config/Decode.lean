import ViewLink.Config.Basic

/-!
# Decoding configurations

A configuration is given as a tree of values, with a group of settings as an object. What is missing
keeps its default and what is unknown is ignored, but a setting of the wrong type refuses the whole
configuration. A group may also be given as the array of its settings in order, of which the last
ones may be missing.
-/

set_option autoImplicit false

namespace ViewLink.Config

open Json (Value)

/-! ## Groups of settings -/

/-- The keys of the whole configuration, in order. -/
def keys : List String := ["log_filter", "log_format", "assets", "view"]

/-- The keys of the scripts of the front end, in order. -/
def assetKeys : List String := ["directory", "scripts", "verbose"]

/-- The keys of the size of the view, in order. -/
def viewKeys : List String := ["width", "height"]

/-- **The settings of a group**, given its keys: the value of each one that is there. -/
def settings? (keys : List String) : Value → Option (List (Option Value))
  | .object members => some (keys.map members.find?)
  | .array items =>
    if keys.length < items.length then none
    else some ((List.range keys.length).map fun i => items[i]?)
  | _ => none

/-- A setting: the default if it is missing, and otherwise what its value decodes to. -/
def decodeOr {α : Type} (default : α) (decode : Value → Option α) : Option Value → Option α
  | none => some default
  | some value => decode value

/-! ## Settings -/

/-- A truth value. -/
def asBool? : Value → Option Bool
  | .bool b => some b
  | _ => none

/-- A list of strings. -/
def asStrings? (v : Value) : Option (List String) := v.asArray?.bind (·.mapM Value.asString?)

/-- The scripts of the front end. -/
def decodeAssets (v : Value) : Option AssetSettings :=
  match settings? assetKeys v with
  | some [directory, scripts, verbose] => do
    let default : AssetSettings := {}
    let directory ← decodeOr default.directory (fun v => v.asString?.map .mk) directory
    let scripts ← decodeOr default.scripts asStrings? scripts
    let verbose ← decodeOr default.verbose asBool? verbose
    return ⟨directory, scripts, verbose⟩
  | _ => none

/-- The size of the view. -/
def decodeView (v : Value) : Option ViewSettings :=
  match settings? viewKeys v with
  | some [width, height] => do
    let default : ViewSettings := {}
    let width ← decodeOr default.width Value.asString? width
    let height ← decodeOr default.height Value.asString? height
    return ⟨width, height⟩
  | _ => none

/-- **The configuration that a value holds.** -/
def decode (v : Value) : Option Config :=
  match settings? keys v with
  | some [logFilter, logFormat, assets, view] => do
    let default : Config := {}
    let logFilter ← decodeOr default.logFilter Value.asString? logFilter
    let logFormat ← decodeOr default.logFormat (·.asString?.bind Log.Format.ofWord?) logFormat
    let assets ← decodeOr default.assets decodeAssets assets
    let view ← decodeOr default.view decodeView view
    return ⟨logFilter, logFormat, assets, view⟩
  | _ => none

end ViewLink.Config
