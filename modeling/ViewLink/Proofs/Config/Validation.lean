import ViewLink.Config.Load
import Mathlib.Data.List.Basic
import Mathlib.Tactic.SplitIfs

/-!
# What is asked of a configuration

A configuration is of use when it says which events are logged, names at least one script and says
how large the view is (`Config.Usable`). The validation accepts these configurations and no others.
Of the others it reports one flaw, although there may be several: that of the first setting at fault,
in the order of `Config.requirements`, and if names of scripts are at fault, the first of them.
`Config.FirstFlaw` lists the cases.

A text is of use when it shows something, and the name of a script, besides, when no separator of
directories is in it. This is all that is asked of a name.

## Main definitions

* `Config.Shows`, `Config.Admissible` — what is asked of a text and of the name of a script;
* `Config.Usable`, `Config.FirstFlaw` — configurations that are of use, and the flaw of the others;
* `Config.Decodes` — a TOML text decodes to a configuration.
-/

set_option autoImplicit false

namespace ViewLink.Config

open Files (Path Disk)

/-! ## Requirements -/

/-- **A text shows something**: not every character of it is blank. -/
def Shows (s : String) : Prop := ∃ c ∈ s.toList, Text.isBlank c = false

/-- **The name of a script is let through.** -/
structure Admissible (name : String) : Prop where
  /-- It shows something. -/
  shows : Shows name
  /-- No slash is in it. -/
  slash : '/' ∉ name.toList
  /-- No backslash is in it. -/
  backslash : '\\' ∉ name.toList

/-- **The configuration is of use.** -/
structure Usable (c : Config) : Prop where
  /-- The log filter shows something. -/
  logFilter : Shows c.logFilter
  /-- There are scripts. -/
  scripts : c.assets.scripts ≠ []
  /-- Their names are let through. -/
  names : ∀ name ∈ c.assets.scripts, Admissible name
  /-- The width shows something. -/
  width : Shows c.view.width
  /-- The height shows something. -/
  height : Shows c.view.height

/-- **The settings that something is asked of**, in order, and what that is. -/
def requirements (c : Config) : List (String × Prop) :=
  [("log_filter", Shows c.logFilter),
    ("assets.scripts", c.assets.scripts ≠ [] ∧ ∀ name ∈ c.assets.scripts, Admissible name),
    ("view.width", Shows c.view.width), ("view.height", Shows c.view.height)]

/-- **The first flaw of a configuration.** -/
inductive FirstFlaw (c : Config) : Flaw → Prop
  /-- The log filter is blank. -/
  | filter : ¬ Shows c.logFilter → FirstFlaw c .blankFilter
  /-- There are no scripts. -/
  | noScripts : Shows c.logFilter → c.assets.scripts = [] → FirstFlaw c .noScripts
  /-- The name of a script is refused, and those before it are not. -/
  | badScript {front rest : List String} {name : String} : Shows c.logFilter →
      c.assets.scripts = front ++ name :: rest → (∀ good ∈ front, Admissible good) →
      ¬ Admissible name → FirstFlaw c (.badScript name)
  /-- The width is blank. -/
  | width : Shows c.logFilter → c.assets.scripts ≠ [] →
      (∀ name ∈ c.assets.scripts, Admissible name) → ¬ Shows c.view.width →
      FirstFlaw c .blankWidth
  /-- The height is blank. -/
  | height : Shows c.logFilter → c.assets.scripts ≠ [] →
      (∀ name ∈ c.assets.scripts, Admissible name) → Shows c.view.width →
      ¬ Shows c.view.height → FirstFlaw c .blankHeight

/-! ## The checks -/

theorem isBlankText_iff {s : String} : Text.isBlankText s = true ↔ ¬ Shows s := by
  simp [Text.isBlankText, Shows]

theorem isBadScript_iff {name : String} : isBadScript name = true ↔ ¬ Admissible name := by
  rw [isBadScript, Bool.or_eq_true, isBlankText_iff, List.any_eq_true]
  constructor
  · rintro (hblank | ⟨c, hc, hseparator⟩) hname
    · exact hblank hname.shows
    · rw [Bool.or_eq_true, decide_eq_true_eq, decide_eq_true_eq] at hseparator
      rcases hseparator with rfl | rfl
      · exact hname.slash hc
      · exact hname.backslash hc
  · intro hname
    by_contra hgood
    obtain ⟨hshows, hplain⟩ := not_or.1 hgood
    have hseparator : ∀ c ∈ name.toList, c ≠ '/' ∧ c ≠ '\\' := by
      simpa [not_or] using hplain
    exact hname ⟨not_not.1 hshows, fun h => (hseparator _ h).1 rfl,
      fun h => (hseparator _ h).2 rfl⟩

theorem assetsFlaw?_eq_none {a : AssetSettings} :
    assetsFlaw? a = none ↔ a.scripts ≠ [] ∧ ∀ name ∈ a.scripts, Admissible name := by
  rw [assetsFlaw?]
  split_ifs with hempty
  · simp [List.isEmpty_iff.1 hempty]
  · rw [Option.map_eq_none_iff, List.find?_eq_none]
    simp only [isBadScript_iff, not_not]
    exact (and_iff_right (mt List.isEmpty_iff.2 hempty)).symm

theorem assetsFlaw?_eq_some {a : AssetSettings} {flaw : Flaw} :
    assetsFlaw? a = some flaw ↔ a.scripts = [] ∧ flaw = .noScripts
      ∨ ∃ front name rest, a.scripts = front ++ name :: rest ∧ (∀ good ∈ front, Admissible good)
          ∧ ¬ Admissible name ∧ flaw = .badScript name := by
  have hgood : ∀ name, (!isBadScript name) = true ↔ Admissible name := fun name => by
    rw [Bool.not_eq_true', ← Bool.not_eq_true, isBadScript_iff, not_not]
  rw [assetsFlaw?]
  split_ifs with hempty
  · simp [List.isEmpty_iff.1 hempty, eq_comm]
  · rw [or_iff_right fun h => hempty (List.isEmpty_iff.2 h.1), Option.map_eq_some_iff]
    simp only [List.find?_eq_some_iff_append, isBadScript_iff, hgood]
    constructor
    · rintro ⟨name, ⟨hbad, front, rest, hscripts, hfront⟩, rfl⟩
      exact ⟨front, name, rest, hscripts, hfront, hbad, rfl⟩
    · rintro ⟨front, name, rest, hscripts, hfront, hbad, rfl⟩
      exact ⟨name, ⟨hbad, front, rest, hscripts, hfront⟩, rfl⟩

theorem viewFlaw?_eq_none {v : ViewSettings} :
    viewFlaw? v = none ↔ Shows v.width ∧ Shows v.height := by
  rw [viewFlaw?]
  split_ifs with hwidth hheight
  · simp [isBlankText_iff.1 hwidth]
  · simp [isBlankText_iff.1 hheight]
  · rw [isBlankText_iff, not_not] at hwidth hheight
    simp [hwidth, hheight]

theorem viewFlaw?_eq_some {v : ViewSettings} {flaw : Flaw} :
    viewFlaw? v = some flaw ↔ ¬ Shows v.width ∧ flaw = .blankWidth
      ∨ Shows v.width ∧ ¬ Shows v.height ∧ flaw = .blankHeight := by
  rw [viewFlaw?]
  split_ifs with hwidth hheight
  · simp [isBlankText_iff.1 hwidth, eq_comm]
  · rw [isBlankText_iff, not_not] at hwidth
    simp [hwidth, isBlankText_iff.1 hheight, eq_comm]
  · rw [isBlankText_iff, not_not] at hwidth hheight
    simp [hwidth, hheight]

/-- **The flaw that is found is the first one.** -/
theorem flaw?_eq_some {c : Config} {flaw : Flaw} : c.flaw? = some flaw ↔ c.FirstFlaw flaw := by
  rw [flaw?]
  split_ifs with hfilter
  · rw [isBlankText_iff] at hfilter
    constructor
    · rintro ⟨⟩
      exact .filter hfilter
    · intro h
      cases h with
      | filter => rfl
      | noScripts hshows => exact absurd hshows hfilter
      | badScript hshows => exact absurd hshows hfilter
      | width hshows => exact absurd hshows hfilter
      | height hshows => exact absurd hshows hfilter
  · rw [isBlankText_iff, not_not] at hfilter
    rw [Option.or_eq_some_iff, assetsFlaw?_eq_some, assetsFlaw?_eq_none, viewFlaw?_eq_some]
    constructor
    · rintro ((⟨hscripts, rfl⟩ | ⟨front, name, rest, hscripts, hfront, hbad, rfl⟩)
        | ⟨⟨hscripts, hnames⟩, ⟨hwidth, rfl⟩ | ⟨hwidth, hheight, rfl⟩⟩)
      · exact .noScripts hfilter hscripts
      · exact .badScript hfilter hscripts hfront hbad
      · exact .width hfilter hscripts hnames hwidth
      · exact .height hfilter hscripts hnames hwidth hheight
    · intro h
      cases h with
      | filter hblank => exact absurd hfilter hblank
      | noScripts _ hscripts => exact .inl (.inl ⟨hscripts, rfl⟩)
      | badScript _ hscripts hfront hbad =>
          exact .inl (.inr ⟨_, _, _, hscripts, hfront, hbad, rfl⟩)
      | width _ hscripts hnames hwidth => exact .inr ⟨⟨hscripts, hnames⟩, .inl ⟨hwidth, rfl⟩⟩
      | height _ hscripts hnames hwidth hheight =>
          exact .inr ⟨⟨hscripts, hnames⟩, .inr ⟨hwidth, hheight, rfl⟩⟩

theorem flaw?_eq_none {c : Config} : c.flaw? = none ↔ c.Usable := by
  rw [flaw?]
  split_ifs with hfilter
  · rw [isBlankText_iff] at hfilter
    simpa using fun h : c.Usable => hfilter h.logFilter
  · rw [isBlankText_iff, not_not] at hfilter
    rw [Option.or_eq_none_iff, assetsFlaw?_eq_none, viewFlaw?_eq_none]
    constructor
    · rintro ⟨⟨hscripts, hnames⟩, hwidth, hheight⟩
      exact ⟨hfilter, hscripts, hnames, hwidth, hheight⟩
    · intro h
      exact ⟨⟨h.scripts, h.names⟩, h.width, h.height⟩

theorem validate_eq_error {c : Config} {flaw : Flaw} :
    c.validate = .error flaw ↔ c.FirstFlaw flaw := by
  rw [← flaw?_eq_some, validate]
  cases c.flaw? <;> simp

theorem validate_eq_ok {c : Config} : c.validate = .ok () ↔ c.Usable := by
  rw [← flaw?_eq_none, validate]
  cases c.flaw? <;> simp

/-- **The setting at fault is the first one** of which more is asked than it is. -/
theorem FirstFlaw.field {c : Config} {flaw : Flaw} (h : c.FirstFlaw flaw) :
    ∃ before asked after, c.requirements = before ++ (flaw.field, asked) :: after
      ∧ (∀ r ∈ before, r.2) ∧ ¬ asked := by
  cases h with
  | filter hfilter => exact ⟨[], _, _, rfl, by simp, hfilter⟩
  | noScripts hfilter hscripts =>
      exact ⟨[_], _, _, rfl, by simpa using hfilter, fun h => h.1 hscripts⟩
  | badScript hfilter hscripts _ hbad =>
      exact ⟨[_], _, _, rfl, by simpa using hfilter, fun h => hbad (h.2 _ (by simp [hscripts]))⟩
  | width hfilter hscripts hnames hwidth =>
      exact ⟨[_, _], _, _, rfl, by simpa using ⟨hfilter, hscripts, hnames⟩, hwidth⟩
  | height hfilter hscripts hnames hwidth hheight =>
      exact ⟨[_, _, _], _, _, rfl, by simpa using ⟨hfilter, ⟨hscripts, hnames⟩, hwidth⟩, hheight⟩

/-! ## Documents -/

/-- **A TOML text decodes to a configuration.** -/
def Decodes (text : String) (c : Config) : Prop :=
  ∃ table value, Toml.Table.read text = some table ∧ (dropSurplus table).value? = some value
    ∧ decode value = some c

theorem decodes_iff {text : String} {c : Config} :
    ((Toml.Table.read text).bind fun t => (dropSurplus t).value?.bind decode) = some c
      ↔ Decodes text c := by
  simp only [Option.bind_eq_some_iff, Decodes, exists_and_left]

theorem Decodes.unique {text : String} {c d : Config} (hc : Decodes text c) (hd : Decodes text d) :
    c = d :=
  Option.some.inj ((decodes_iff.2 hc).symm.trans (decodes_iff.2 hd))

/-- **What comes of a text.** It decodes to a configuration that is of use, or to one with a flaw, or
to none. -/
theorem ofToml_cases (text : String) :
    (∃ c, Decodes text c ∧ c.Usable ∧ ofToml text = .ok c)
      ∨ (∃ c flaw, Decodes text c ∧ c.FirstFlaw flaw ∧ ofToml text = .error (.invalid flaw))
      ∨ (∀ c, ¬ Decodes text c) ∧ ofToml text = .error .unparsable := by
  cases hdecoded : (Toml.Table.read text).bind fun t => (dropSurplus t).value?.bind decode with
  | none =>
      refine .inr (.inr ⟨fun c hc => ?_, by simp only [ofToml, hdecoded]⟩)
      rw [← decodes_iff, hdecoded] at hc
      cases hc
  | some c =>
      have hc : Decodes text c := decodes_iff.1 hdecoded
      cases hvalid : c.validate with
      | ok _ =>
          exact .inl ⟨c, hc, validate_eq_ok.1 hvalid, by simp only [ofToml, hdecoded, hvalid]⟩
      | error flaw =>
          exact .inr (.inl ⟨c, flaw, hc, validate_eq_error.1 hvalid,
            by simp only [ofToml, hdecoded, hvalid]⟩)

theorem ofToml_eq_ok {text : String} {c : Config} :
    ofToml text = .ok c ↔ Decodes text c ∧ c.Usable := by
  rcases ofToml_cases text with ⟨d, hd, husable, htext⟩ | ⟨d, flaw, hd, hflaw, htext⟩ | ⟨hnone, htext⟩
  · rw [htext, Except.ok.injEq]
    constructor
    · rintro rfl
      exact ⟨hd, husable⟩
    · rintro ⟨hc, -⟩
      exact hd.unique hc
  · rw [htext]
    refine iff_of_false (by simp) ?_
    rintro ⟨hc, husable⟩
    rw [hc.unique hd, ← validate_eq_ok, validate_eq_error.2 hflaw] at husable
    cases husable
  · rw [htext]
    exact iff_of_false (by simp) fun h => hnone c h.1

theorem ofToml_eq_invalid {text : String} {flaw : Flaw} :
    ofToml text = .error (.invalid flaw) ↔ ∃ c, Decodes text c ∧ c.FirstFlaw flaw := by
  rcases ofToml_cases text with ⟨d, hd, husable, htext⟩ | ⟨d, flaw', hd, hflaw, htext⟩ | ⟨hnone, htext⟩
  · rw [htext]
    refine iff_of_false (by simp) ?_
    rintro ⟨c, hc, hflaw⟩
    rw [hc.unique hd, ← validate_eq_error, validate_eq_ok.2 husable] at hflaw
    cases hflaw
  · rw [htext, Except.error.injEq, ConfigError.invalid.injEq]
    constructor
    · rintro rfl
      exact ⟨d, hd, hflaw⟩
    · rintro ⟨c, hc, hfirst⟩
      rw [hc.unique hd, ← validate_eq_error, validate_eq_error.2 hflaw] at hfirst
      exact Except.error.inj hfirst
  · rw [htext]
    refine iff_of_false (by simp) ?_
    rintro ⟨c, hc, -⟩
    exact hnone c hc

theorem load_eq_ok {disk : Disk} {path : Path} {c : Config} :
    load disk path = .ok c ↔ ∃ text, disk.readText path = .ok text ∧ ofToml text = .ok c := by
  rw [load]
  cases disk.readText path <;> simp

/-! ## The contract -/

/-- **The validation is exact and reports the first flaw.** It accepts the configurations that are of
use. Of any other it reports the setting that comes first in the order of the requirements, and the
first of several bad names of scripts, in its message. A configuration comes out of a TOML text or a
file exactly if the text decodes to it and it is of use. -/
theorem validation_exact (c : Config) :
    (c.validate = .ok () ↔ c.Usable)
      ∧ (∀ flaw, c.validate = .error flaw ↔ c.FirstFlaw flaw)
      ∧ (∀ flaw, c.validate = .error flaw →
          ∃ before asked after, c.requirements = before ++ (flaw.field, asked) :: after
            ∧ (∀ r ∈ before, r.2) ∧ ¬ asked)
      ∧ (∀ front name rest, Shows c.logFilter → c.assets.scripts = front ++ name :: rest →
          (∀ good ∈ front, Admissible good) → ¬ Admissible name →
          ∃ flaw, c.validate = .error flaw ∧ flaw.message
            = "invalid configuration field '" ++ "assets.scripts" ++ "': "
                ++ ("'" ++ name ++ "' is not a bare file name"))
      ∧ (∀ text, ofToml text = .ok c ↔ Decodes text c ∧ c.Usable)
      ∧ (∀ text flaw, ofToml text = .error (.invalid flaw)
          ↔ ∃ d, Decodes text d ∧ d.FirstFlaw flaw)
      ∧ ∀ disk path, load disk path = .ok c
          ↔ ∃ text, disk.readText path = .ok text ∧ Decodes text c ∧ c.Usable := by
  refine ⟨validate_eq_ok, fun flaw => validate_eq_error, ?_, ?_, fun text => ofToml_eq_ok,
    fun text flaw => ofToml_eq_invalid, ?_⟩
  · intro flaw h
    exact (validate_eq_error.1 h).field
  · intro front name rest hfilter hscripts hfront hbad
    exact ⟨.badScript name, validate_eq_error.2 (.badScript hfilter hscripts hfront hbad), rfl⟩
  · intro disk path
    simp only [load_eq_ok, ofToml_eq_ok]

/-- The first of two bad names is reported, and the width without anything to see is not. -/
example :
    validate { assets := { scripts := ["a.js", "b/c.js", " "] }, view := { width := "" } }
      = .error (.badScript "b/c.js") := by
  decide +kernel

end ViewLink.Config
