import ViewLink.Config.Decode
import ViewLink.Proofs.Json.Record

/-!
# Decoding is laying settings over the defaults

An object may hold some of the settings of a configuration and leave the others out, each of the
four at the top and each one in a group that is there. What is left out keeps its default, whatever
else the object holds: `decode_overlay` says this for every set of settings that are kept. The log
format may be written in any case. If every setting is kept, decoding gives the configuration back,
and the text that a configuration is written as holds every setting.

One setting of a wrong type is enough to refuse everything (`Mistyped`).

## Main definitions

* `Setting` — the settings and their groups, `overlay` — the kept ones over the defaults;
* `Holds` — an object holds the kept settings;
* `value` — the configuration as a JSON value;
* `Gives` — a group gives a value to a setting, `Mistyped` — one of them of the wrong type.
-/

set_option autoImplicit false

namespace ViewLink

open Json (Value Object Members)

/-! ## Words in any case -/

/-- **Texts that differ in the case of ASCII letters at most.** -/
def SameLetters (s t : String) : Prop := s.toList.map Char.toLower = t.toList.map Char.toLower

theorem Log.Format.toLower_word (format : Log.Format) :
    format.word.toList.map Char.toLower = format.word.toList := by
  cases format <;> decide

/-- **A format is read off its word, in any case.** -/
theorem Log.Format.ofWord?_eq_some {word : String} {format : Log.Format} :
    Log.Format.ofWord? word = some format ↔ SameLetters word format.word := by
  have hword : ∀ f : Log.Format, f.word = word.toLower ↔ SameLetters word f.word := by
    intro f
    have hlower : word.toLower.toList = word.toList.map Char.toLower := String.toList_map ..
    rw [SameLetters, f.toLower_word, ← String.toList_inj, hlower, eq_comm]
  rw [← hword, Log.Format.ofWord?]
  constructor
  · intro h
    simpa using List.find?_some h
  · intro h
    rw [← h]
    cases format <;> rfl

namespace Config

/-! ## Settings -/

/-- **The settings of a configuration and their groups.** -/
inductive Setting where
  | logFilter
  | logFormat
  | assets
  | directory
  | scripts
  | verbose
  | view
  | width
  | height
  deriving DecidableEq, Repr

section
variable {α : Type}

/-- A setting if it is kept, and the default otherwise. -/
def kept (keep : Bool) (setting default : α) : α := if keep then setting else default

variable (keep : Setting → Bool)

/-- The scripts of the front end with the settings that are kept, and defaults. -/
def overlayAssets (a : AssetSettings) : AssetSettings :=
  let default : AssetSettings := {}
  { directory := kept (keep .directory) a.directory default.directory
    scripts := kept (keep .scripts) a.scripts default.scripts
    verbose := kept (keep .verbose) a.verbose default.verbose }

/-- The size of the view with the settings that are kept, and defaults. -/
def overlayView (v : ViewSettings) : ViewSettings :=
  let default : ViewSettings := {}
  { width := kept (keep .width) v.width default.width
    height := kept (keep .height) v.height default.height }

/-- **The settings that are kept, laid over the defaults.** In a group that is not kept nothing
is. -/
def overlay (c : Config) : Config :=
  let default : Config := {}
  { logFilter := kept (keep .logFilter) c.logFilter default.logFilter
    logFormat := kept (keep .logFormat) c.logFormat default.logFormat
    assets := kept (keep .assets) (overlayAssets keep c.assets) default.assets
    view := kept (keep .view) (overlayView keep c.view) default.view }

end

/-! ## Objects that hold settings -/

/-- **An object holds a setting exactly if it is kept**, as a value that writes it. -/
def HoldsAt (m : Object) (key : String) (keep : Bool) (writes : Value → Prop) : Prop :=
  if keep then ∃ v, m.find? key = some v ∧ writes v else m.find? key = none

/-- An object holds the kept settings of the scripts of the front end. -/
structure HoldsAssets (keep : Setting → Bool) (a : AssetSettings) (m : Object) : Prop where
  directory : HoldsAt m "directory" (keep .directory) (· = .string a.directory.text)
  scripts : HoldsAt m "scripts" (keep .scripts) (· = .array (a.scripts.map .string))
  verbose : HoldsAt m "verbose" (keep .verbose) (· = .bool a.verbose)

/-- An object holds the kept settings of the size of the view. -/
structure HoldsView (keep : Setting → Bool) (v : ViewSettings) (m : Object) : Prop where
  width : HoldsAt m "width" (keep .width) (· = .string v.width)
  height : HoldsAt m "height" (keep .height) (· = .string v.height)

/-- **An object holds the kept settings of a configuration**, and none of the others. What it holds
under other keys may be anything. -/
structure Holds (keep : Setting → Bool) (c : Config) (m : Object) : Prop where
  logFilter : HoldsAt m "log_filter" (keep .logFilter) (· = .string c.logFilter)
  logFormat : HoldsAt m "log_format" (keep .logFormat) fun v =>
    ∃ word, v = .string word ∧ SameLetters word c.logFormat.word
  assets : HoldsAt m "assets" (keep .assets) fun v =>
    ∃ group, v = .object group ∧ HoldsAssets keep c.assets group
  view : HoldsAt m "view" (keep .view) fun v =>
    ∃ group, v = .object group ∧ HoldsView keep c.view group

/-- **A group gives this value to a setting**, as a member or at the place of the key among these
keys. -/
inductive Gives (keys : List String) : Value → String → Value → Prop
  /-- An object has the setting among its members. -/
  | member {m : Object} {key : String} {v : Value} : key ∈ keys → m.find? key = some v →
      Gives keys (.object m) key v
  /-- An array has the settings in the order of the keys. -/
  | item {items : List Value} {i : Nat} {key : String} {v : Value} : keys[i]? = some key →
      items[i]? = some v → Gives keys (.array items) key v

/-- **A setting has a value of the wrong type.** -/
inductive Mistyped (config : Value) : Prop
  | logFilter {v : Value} : Gives keys config "log_filter" v → (∀ s, v ≠ .string s) →
      Mistyped config
  | logFormat {v : Value} : Gives keys config "log_format" v →
      (∀ word (format : Log.Format), SameLetters word format.word → v ≠ .string word) →
      Mistyped config
  | directory {group v : Value} : Gives keys config "assets" group →
      Gives assetKeys group "directory" v → (∀ s, v ≠ .string s) → Mistyped config
  | scripts {group v : Value} : Gives keys config "assets" group →
      Gives assetKeys group "scripts" v → (∀ names : List String, v ≠ .array (names.map .string)) →
      Mistyped config
  | verbose {group v : Value} : Gives keys config "assets" group →
      Gives assetKeys group "verbose" v → (∀ b, v ≠ .bool b) → Mistyped config
  | width {group v : Value} : Gives keys config "view" group →
      Gives viewKeys group "width" v → (∀ s, v ≠ .string s) → Mistyped config
  | height {group v : Value} : Gives keys config "view" group →
      Gives viewKeys group "height" v → (∀ s, v ≠ .string s) → Mistyped config

/-! ## Decoding setting by setting -/

theorem asString?_eq_some {v : Value} {s : String} : v.asString? = some s ↔ v = .string s := by
  cases v <;> simp [Value.asString?]

theorem asBool?_eq_some {v : Value} {b : Bool} : asBool? v = some b ↔ v = .bool b := by
  cases v <;> simp [asBool?]

theorem mapM_asString?_eq_some {items : List Value} {names : List String} :
    items.mapM Value.asString? = some names ↔ items = names.map .string := by
  induction items generalizing names with
  | nil => cases names <;> simp
  | cons item items ih =>
      rw [List.mapM_cons]
      simp only [Option.bind_eq_bind, Option.bind_eq_some_iff, asString?_eq_some, ih]
      constructor
      · rintro ⟨s, rfl, others, rfl, h⟩
        cases h
        rfl
      · intro h
        cases names with
        | nil => cases h
        | cons s others =>
            cases h
            exact ⟨s, rfl, others, rfl, rfl⟩

theorem asStrings?_eq_some {v : Value} {names : List String} :
    asStrings? v = some names ↔ v = .array (names.map .string) := by
  cases v with
  | array items => simp [asStrings?, Value.asArray?, mapM_asString?_eq_some]
  | null => simp [asStrings?, Value.asArray?]
  | bool b => simp [asStrings?, Value.asArray?]
  | number n => simp [asStrings?, Value.asArray?]
  | string s => simp [asStrings?, Value.asArray?]
  | object members => simp [asStrings?, Value.asArray?]

theorem asFormat?_eq_some {v : Value} {format : Log.Format} :
    v.asString?.bind Log.Format.ofWord? = some format
      ↔ ∃ word, v = .string word ∧ SameLetters word format.word := by
  simp only [Option.bind_eq_some_iff, asString?_eq_some, Log.Format.ofWord?_eq_some]

/-- **A setting that is held is decoded, and one that is not is the default.** -/
theorem HoldsAt.decodeOr {α : Type} {m : Object} {key : String} {keep : Bool}
    {writes : Value → Prop} {decode : Value → Option α} {setting : α}
    (h : HoldsAt m key keep writes) (default : α)
    (hdecode : ∀ v, writes v → decode v = some setting) :
    decodeOr default decode (m.find? key) = some (kept keep setting default) := by
  rw [HoldsAt] at h
  rw [kept]
  split_ifs at h ⊢
  · obtain ⟨v, hv, hwrites⟩ := h
    rw [hv]
    exact hdecode v hwrites
  · rw [h]
    rfl

/-- **A setting that is given is among the settings of the group**, beside its key. -/
theorem Gives.mem_zip {keys : List String} {group : Value} {key : String} {v : Value}
    {given : List (Option Value)} (h : Gives keys group key v)
    (hgiven : settings? keys group = some given) : (key, some v) ∈ keys.zip given := by
  cases h with
  | @member m key v hkey hv =>
      cases hgiven
      rw [← List.map_prod_left_eq_zip]
      exact List.mem_map.2 ⟨key, hkey, by rw [hv]⟩
  | @item items i key v hkey hv =>
      rw [settings?] at hgiven
      split_ifs at hgiven
      cases hgiven
      obtain ⟨hi, -⟩ := List.getElem?_eq_some_iff.1 hkey
      refine List.mem_of_getElem? (i := i) ?_
      rw [List.getElem?_zip_eq_some]
      refine ⟨hkey, ?_⟩
      rw [List.getElem?_map, List.getElem?_range hi, Option.map_some, hv]

theorem decodeAssets_eq_some {group : Value} {a : AssetSettings} :
    decodeAssets group = some a
      ↔ ∃ directory scripts verbose, settings? assetKeys group = some [directory, scripts, verbose]
        ∧ decodeOr ⟨"assets"⟩ (fun v => v.asString?.map .mk) directory = some a.directory
        ∧ decodeOr ["cytoscape.js", "jp_cytoscape.js"] asStrings? scripts = some a.scripts
        ∧ decodeOr false asBool? verbose = some a.verbose := by
  rw [decodeAssets]
  split
  · next directory scripts verbose hgiven =>
    simp only [Option.bind_eq_bind, Option.bind_eq_some_iff]
    constructor
    · rintro ⟨_, hdirectory, _, hscripts, _, hverbose, h⟩
      cases h
      exact ⟨_, _, _, hgiven, hdirectory, hscripts, hverbose⟩
    · rintro ⟨_, _, _, hgiven', hdirectory, hscripts, hverbose⟩
      cases hgiven.symm.trans hgiven'
      exact ⟨_, hdirectory, _, hscripts, _, hverbose, rfl⟩
  · next hnone =>
    refine iff_of_false (by simp) ?_
    rintro ⟨directory, scripts, verbose, hgiven, -⟩
    exact hnone directory scripts verbose hgiven

theorem decodeView_eq_some {group : Value} {v : ViewSettings} :
    decodeView group = some v
      ↔ ∃ width height, settings? viewKeys group = some [width, height]
        ∧ decodeOr "100px" Value.asString? width = some v.width
        ∧ decodeOr "100px" Value.asString? height = some v.height := by
  rw [decodeView]
  split
  · next width height hgiven =>
    simp only [Option.bind_eq_bind, Option.bind_eq_some_iff]
    constructor
    · rintro ⟨_, hwidth, _, hheight, h⟩
      cases h
      exact ⟨_, _, hgiven, hwidth, hheight⟩
    · rintro ⟨_, _, hgiven', hwidth, hheight⟩
      cases hgiven.symm.trans hgiven'
      exact ⟨_, hwidth, _, hheight, rfl⟩
  · next hnone =>
    refine iff_of_false (by simp) ?_
    rintro ⟨width, height, hgiven, -⟩
    exact hnone width height hgiven

/-- **A value decodes to a configuration if its settings do**, one by one. -/
theorem decode_eq_some {value : Value} {c : Config} :
    decode value = some c
      ↔ ∃ logFilter logFormat assets view,
        settings? keys value = some [logFilter, logFormat, assets, view]
        ∧ decodeOr "info" Value.asString? logFilter = some c.logFilter
        ∧ decodeOr .json (·.asString?.bind Log.Format.ofWord?) logFormat = some c.logFormat
        ∧ decodeOr {} decodeAssets assets = some c.assets
        ∧ decodeOr {} decodeView view = some c.view := by
  rw [decode]
  split
  · next logFilter logFormat assets view hgiven =>
    simp only [Option.bind_eq_bind, Option.bind_eq_some_iff]
    constructor
    · rintro ⟨_, hfilter, _, hformat, _, hassets, _, hview, h⟩
      cases h
      exact ⟨_, _, _, _, hgiven, hfilter, hformat, hassets, hview⟩
    · rintro ⟨_, _, _, _, hgiven', hfilter, hformat, hassets, hview⟩
      cases hgiven.symm.trans hgiven'
      exact ⟨_, hfilter, _, hformat, _, hassets, _, hview, rfl⟩
  · next hnone =>
    refine iff_of_false (by simp) ?_
    rintro ⟨logFilter, logFormat, assets, view, hgiven, -⟩
    exact hnone logFilter logFormat assets view hgiven

/-! ## Laying settings over the defaults -/

variable {keep : Setting → Bool} {m : Object}

theorem decodeAssets_of_holds {a : AssetSettings} (h : HoldsAssets keep a m) :
    decodeAssets (.object m) = some (overlayAssets keep a) := by
  refine decodeAssets_eq_some.2 ⟨_, _, _, rfl, h.directory.decodeOr _ ?_, h.scripts.decodeOr _ ?_,
    h.verbose.decodeOr _ ?_⟩
  · rintro v rfl
    rfl
  · exact fun v hv => asStrings?_eq_some.2 hv
  · exact fun v hv => asBool?_eq_some.2 hv

theorem decodeView_of_holds {v : ViewSettings} (h : HoldsView keep v m) :
    decodeView (.object m) = some (overlayView keep v) := by
  refine decodeView_eq_some.2 ⟨_, _, rfl, h.width.decodeOr _ ?_, h.height.decodeOr _ ?_⟩
  · exact fun v hv => asString?_eq_some.2 hv
  · exact fun v hv => asString?_eq_some.2 hv

theorem decode_of_holds {c : Config} (h : Holds keep c m) :
    decode (.object m) = some (overlay keep c) := by
  refine decode_eq_some.2 ⟨_, _, _, _, rfl, h.logFilter.decodeOr _ ?_, h.logFormat.decodeOr _ ?_,
    h.assets.decodeOr _ ?_, h.view.decodeOr _ ?_⟩
  · exact fun v hv => asString?_eq_some.2 hv
  · exact fun v hv => asFormat?_eq_some.2 hv
  · rintro v ⟨group, rfl, hgroup⟩
    exact decodeAssets_of_holds hgroup
  · rintro v ⟨group, rfl, hgroup⟩
    exact decodeView_of_holds hgroup

/-! ## Wrong types -/

section
variable {group v : Value}

/-- **What is given for the scripts of the front end comes out.** -/
theorem decodeAssets_gives {a : AssetSettings} (h : decodeAssets group = some a) :
    (Gives assetKeys group "directory" v → v = .string a.directory.text)
      ∧ (Gives assetKeys group "scripts" v → v = .array (a.scripts.map .string))
      ∧ (Gives assetKeys group "verbose" v → v = .bool a.verbose) := by
  obtain ⟨directory, scripts, verbose, hgiven, hdirectory, hscripts, hverbose⟩ :=
    decodeAssets_eq_some.1 h
  refine ⟨fun hv => ?_, fun hv => ?_, fun hv => ?_⟩
  · have hsome : some v = directory := by simpa [assetKeys] using hv.mem_zip hgiven
    rw [← hsome] at hdirectory
    obtain ⟨s, hs, hmk⟩ := Option.map_eq_some_iff.1 hdirectory
    rw [asString?_eq_some.1 hs, ← hmk]
  · have hsome : some v = scripts := by simpa [assetKeys] using hv.mem_zip hgiven
    rw [← hsome] at hscripts
    exact asStrings?_eq_some.1 hscripts
  · have hsome : some v = verbose := by simpa [assetKeys] using hv.mem_zip hgiven
    rw [← hsome] at hverbose
    exact asBool?_eq_some.1 hverbose

/-- What is given for the size of the view comes out. -/
theorem decodeView_gives {size : ViewSettings} (h : decodeView group = some size) :
    (Gives viewKeys group "width" v → v = .string size.width)
      ∧ (Gives viewKeys group "height" v → v = .string size.height) := by
  obtain ⟨width, height, hgiven, hwidth, hheight⟩ := decodeView_eq_some.1 h
  refine ⟨fun hv => ?_, fun hv => ?_⟩
  · have hsome : some v = width := by simpa [viewKeys] using hv.mem_zip hgiven
    rw [← hsome] at hwidth
    exact asString?_eq_some.1 hwidth
  · have hsome : some v = height := by simpa [viewKeys] using hv.mem_zip hgiven
    rw [← hsome] at hheight
    exact asString?_eq_some.1 hheight

/-- **What is given for the configuration comes out**, and of a group what it decodes to. -/
theorem decode_gives {c : Config} (h : decode group = some c) :
    (Gives keys group "log_filter" v → v = .string c.logFilter)
      ∧ (Gives keys group "log_format" v →
          ∃ word, v = .string word ∧ SameLetters word c.logFormat.word)
      ∧ (Gives keys group "assets" v → decodeAssets v = some c.assets)
      ∧ (Gives keys group "view" v → decodeView v = some c.view) := by
  obtain ⟨logFilter, logFormat, assets, view, hgiven, hfilter, hformat, hassets, hview⟩ :=
    decode_eq_some.1 h
  refine ⟨fun hv => ?_, fun hv => ?_, fun hv => ?_, fun hv => ?_⟩
  · have hsome : some v = logFilter := by simpa [keys] using hv.mem_zip hgiven
    rw [← hsome] at hfilter
    exact asString?_eq_some.1 hfilter
  · have hsome : some v = logFormat := by simpa [keys] using hv.mem_zip hgiven
    rw [← hsome] at hformat
    exact asFormat?_eq_some.1 hformat
  · have hsome : some v = assets := by simpa [keys] using hv.mem_zip hgiven
    rw [← hsome] at hassets
    exact hassets
  · have hsome : some v = view := by simpa [keys] using hv.mem_zip hgiven
    rw [← hsome] at hview
    exact hview

end

/-- **One setting of a wrong type refuses everything.** -/
theorem decode_of_mistyped {config : Value} (h : Mistyped config) : decode config = none := by
  refine Option.eq_none_iff_forall_ne_some.2 fun c hc => ?_
  cases h with
  | logFilter hv hwrong => exact hwrong _ ((decode_gives hc).1 hv)
  | logFormat hv hwrong =>
      obtain ⟨word, hword, hsame⟩ := (decode_gives hc).2.1 hv
      exact hwrong word _ hsame hword
  | directory hgroup hv hwrong =>
      have hassets := (decode_gives hc).2.2.1 hgroup
      exact hwrong _ ((decodeAssets_gives hassets).1 hv)
  | scripts hgroup hv hwrong =>
      have hassets := (decode_gives hc).2.2.1 hgroup
      exact hwrong _ ((decodeAssets_gives hassets).2.1 hv)
  | verbose hgroup hv hwrong =>
      have hassets := (decode_gives hc).2.2.1 hgroup
      exact hwrong _ ((decodeAssets_gives hassets).2.2 hv)
  | width hgroup hv hwrong =>
      have hview := (decode_gives hc).2.2.2 hgroup
      exact hwrong _ ((decodeView_gives hview).1 hv)
  | height hgroup hv hwrong =>
      have hview := (decode_gives hc).2.2.2 hgroup
      exact hwrong _ ((decodeView_gives hview).2 hv)

/-! ## All settings -/

/-- The settings of the scripts of the front end, as they are written. -/
def assetEntries (a : AssetSettings) : List Json.Entry :=
  [⟨"directory", quotedText a.directory.text, .string a.directory.text⟩,
    ⟨"scripts", Json.listText (a.scripts.map .string), .array (a.scripts.map .string)⟩,
    ⟨"verbose", (Value.bool a.verbose).text, .bool a.verbose⟩]

/-- The settings of the size of the view, as they are written. -/
def viewEntries (v : ViewSettings) : List Json.Entry :=
  [⟨"width", quotedText v.width, .string v.width⟩,
    ⟨"height", quotedText v.height, .string v.height⟩]

/-- The object of these entries. -/
def objectOf (entries : List Json.Entry) : Object := .ofList (entries.map Json.Entry.pair)

/-- The record of these entries. -/
def recordOf (entries : List Json.Entry) : String :=
  Json.record (entries.map fun e => (e.key, e.text))

/-- All settings, as they are written. -/
def entries (c : Config) : List Json.Entry :=
  [⟨"log_filter", quotedText c.logFilter, .string c.logFilter⟩,
    ⟨"log_format", quotedText c.logFormat.word, .string c.logFormat.word⟩,
    ⟨"assets", recordOf (assetEntries c.assets), .object (objectOf (assetEntries c.assets))⟩,
    ⟨"view", recordOf (viewEntries c.view), .object (objectOf (viewEntries c.view))⟩]

/-- **The configuration as a JSON value.** -/
def value (c : Config) : Value := .object (objectOf c.entries)

theorem text_eq (c : Config) : c.text = recordOf c.entries := rfl

theorem valueText_string (nesting : Nat) (s : String) :
    Json.ValueText nesting (Text.bytes (quotedText s)) (.string s) :=
  Json.valueText_printed (Nat.zero_le _) (by simp [Value.floats])

theorem valueText_strings (nesting : Nat) (names : List String) :
    Json.ValueText (nesting + 1) (Text.bytes (Json.listText (names.map .string)))
      (.array (names.map .string)) := by
  have hflat : Json.itemsNesting (names.map .string) = 0
      ∧ Json.itemsFloats (names.map .string) = [] := by
    induction names with
    | nil => exact ⟨rfl, rfl⟩
    | cons name names ih =>
        simp [Json.itemsNesting, Json.itemsFloats, Value.nesting, Value.floats, ih]
  refine Json.valueText_printed ?_ ?_
  · rw [Value.nesting, hflat.1]
    exact Nat.le_add_left _ _
  · rw [Value.floats, hflat.2]
    simp

/-- **The text of a configuration is a text of its value.** -/
theorem valueText_text (nesting : Nat) (c : Config) :
    Json.ValueText (nesting + 3) (Text.bytes c.text) c.value := by
  have hassets : ∀ e ∈ assetEntries c.assets,
      Json.ValueText (nesting + 1) (Text.bytes e.text) e.value := by
    simp only [assetEntries, List.forall_mem_cons]
    refine ⟨valueText_string _ _, valueText_strings _ _, ?_, by simp⟩
    exact Json.valueText_printed (Nat.zero_le _) (by simp [Value.floats])
  have hview : ∀ e ∈ viewEntries c.view,
      Json.ValueText (nesting + 1) (Text.bytes e.text) e.value := by
    simp only [viewEntries, List.forall_mem_cons]
    exact ⟨valueText_string _ _, valueText_string _ _, by simp⟩
  have hentries : ∀ e ∈ c.entries,
      Json.ValueText (nesting + 2) (Text.bytes e.text) e.value := by
    simp only [entries, List.forall_mem_cons]
    exact ⟨valueText_string _ _, valueText_string _ _, Json.valueText_record _ hassets,
      Json.valueText_record _ hview, by simp⟩
  rw [text_eq]
  exact Json.valueText_record _ hentries

/-- **What is written is read back.** -/
theorem read_text (c : Config) : Value.read (Text.bytes c.text) = .ok c.value := by
  have htext := Json.JsonText.mk Json.blanks_nil (valueText_text 124 c) Json.blanks_nil
  rw [List.nil_append, List.append_nil] at htext
  exact Json.read_eq_ok.2 htext

theorem keys_nodup : keys.Nodup ∧ assetKeys.Nodup ∧ viewKeys.Nodup := by decide

/-- The object of some pairs holds each of them. -/
theorem holdsAt_ofList {pairs : List (String × Value)} (distinct : (pairs.map Prod.fst).Nodup)
    {key : String} {v : Value} {writes : Value → Prop} (h : (key, v) ∈ pairs)
    (hwrites : writes v) : HoldsAt (.ofList pairs) key true writes :=
  ⟨v, Members.find?_ofList_of_mem distinct h, hwrites⟩

theorem holdsAt_ofList_of_ne {pairs : List (String × Value)} {key : String}
    (h : ∀ p ∈ pairs, p.1 ≠ key) (writes : Value → Prop) :
    HoldsAt (.ofList pairs) key false writes :=
  Members.find?_ofList_of_ne h

theorem holdsAssets_objectOf (a : AssetSettings) :
    HoldsAssets (fun _ => true) a (objectOf (assetEntries a)) := by
  have distinct : (((assetEntries a).map Json.Entry.pair).map Prod.fst).Nodup := keys_nodup.2.1
  exact ⟨holdsAt_ofList distinct (.head _) rfl, holdsAt_ofList distinct (.tail _ (.head _)) rfl,
    holdsAt_ofList distinct (.tail _ (.tail _ (.head _))) rfl⟩

theorem holdsView_objectOf (v : ViewSettings) :
    HoldsView (fun _ => true) v (objectOf (viewEntries v)) := by
  have distinct : (((viewEntries v).map Json.Entry.pair).map Prod.fst).Nodup := keys_nodup.2.2
  exact ⟨holdsAt_ofList distinct (.head _) rfl,
    holdsAt_ofList distinct (.tail _ (.head _)) rfl⟩

/-- **The value of a configuration holds every setting.** -/
theorem holds_objectOf (c : Config) : Holds (fun _ => true) c (objectOf c.entries) := by
  have distinct : ((c.entries.map Json.Entry.pair).map Prod.fst).Nodup := keys_nodup.1
  refine ⟨holdsAt_ofList distinct (.head _) rfl,
    holdsAt_ofList distinct (.tail _ (.head _)) ⟨_, rfl, rfl⟩,
    holdsAt_ofList distinct (.tail _ (.tail _ (.head _))) ⟨_, rfl, holdsAssets_objectOf _⟩,
    holdsAt_ofList distinct (.tail _ (.tail _ (.tail _ (.head _))))
      ⟨_, rfl, holdsView_objectOf _⟩⟩

theorem overlay_all (c : Config) : overlay (fun _ => true) c = c := rfl

/-! ## The contract -/

/-- **Decoding lays the kept settings over the defaults.** An object that holds some settings of a
configuration, whatever else is in it, decodes to these settings and to the defaults of the others.
What a configuration is written as holds every setting and decodes to the configuration. Nothing
decodes in which a setting has a value of a wrong type. -/
theorem decode_overlay (c : Config) (keep : Setting → Bool) (m : Object) (holds : Holds keep c m) :
    decode (.object m) = some (overlay keep c)
      ∧ (∀ d : Config, Value.read (Text.bytes d.text) = .ok d.value ∧ decode d.value = some d)
      ∧ ∀ wrong : Value, Mistyped wrong → decode wrong = none := by
  refine ⟨decode_of_holds holds, fun d => ⟨read_text d, ?_⟩, fun wrong => decode_of_mistyped⟩
  rw [value, decode_of_holds (holds_objectOf d), overlay_all]

/-- A configuration that is nowhere the default. -/
def unusualConfig : Config :=
  { logFilter := "debug", logFormat := .compact
    assets := { directory := ⟨"/opt/js"⟩, scripts := [], verbose := true }
    view := { width := "", height := "50%" } }

/-- One setting at the top, one of the scripts and one of the view are kept. -/
def threeKept : Setting → Bool
  | .logFormat | .assets | .verbose | .view | .height => true
  | _ => false

/-- An object with these three settings, the format in another case and more besides. -/
def threeSettings : Object :=
  .ofList [("height", .null), ("log_format", .string "COMpact"),
    ("assets", .ofPairs [("verbose", .bool true), ("colour", .array [])]),
    ("view", .ofPairs [("height", .string "50%"), ("directory", .bool false)])]

/-- The other settings are the defaults. -/
theorem decode_threeSettings :
    Holds threeKept unusualConfig threeSettings
      ∧ decode (.object threeSettings)
          = some { logFormat := .compact, assets := { verbose := true }, view := { height := "50%" } }
      := by
  have hassets : HoldsAssets threeKept unusualConfig.assets
      (.ofList [("verbose", .bool true), ("colour", .array [])]) := by
    refine ⟨holdsAt_ofList_of_ne ?_ _, holdsAt_ofList_of_ne ?_ _,
      holdsAt_ofList ?_ (.head _) rfl⟩ <;> simp
  have hview : HoldsView threeKept unusualConfig.view
      (.ofList [("height", .string "50%"), ("directory", .bool false)]) := by
    refine ⟨holdsAt_ofList_of_ne ?_ _, holdsAt_ofList ?_ (.head _) rfl⟩ <;> simp
  have holds : Holds threeKept unusualConfig threeSettings := by
    have hword : SameLetters "COMpact" unusualConfig.logFormat.word := by
      simp [SameLetters, unusualConfig, Log.Format.word]
    refine ⟨holdsAt_ofList_of_ne ?_ _, holdsAt_ofList ?_ (.tail _ (.head _)) ⟨_, rfl, hword⟩,
      holdsAt_ofList ?_ (.tail _ (.tail _ (.head _))) ⟨_, rfl, hassets⟩,
      holdsAt_ofList ?_ (.tail _ (.tail _ (.tail _ (.head _)))) ⟨_, rfl, hview⟩⟩ <;> simp
  exact ⟨holds, (decode_overlay unusualConfig threeKept threeSettings holds).1⟩

end Config

end ViewLink
