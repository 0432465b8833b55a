import ViewLink.Proofs.Config.Validation
import ViewLink.Proofs.Files.Path

/-!
# Where the names of scripts lead

The name of a script should be a bare file name. The validation refuses names without anything to
see and names with a separator, and it lets everything else through. This is not quite enough: two
of the names that are left, the dot and the two dots, are no names of files. Joined to a directory,
one of them leads to the directory itself and the other to the one above
(`twoDots_accepted`).

`step_of_script` says for every name that is let through where it leads. All but these two are the
ordinary name that the path ends in, one step inside the directory.
-/

set_option autoImplicit false

namespace ViewLink.Config

open Files (Path)

/-- Of the names that are let through, only two are not ordinary. -/
theorem Admissible.isOrdinary_iff {name : String} (h : Admissible name) :
    Path.IsOrdinary name ↔ name ≠ "." ∧ name ≠ ".." := by
  have hempty : name ≠ "" := by
    rintro rfl
    obtain ⟨c, hc, -⟩ := h.shows
    cases hc
  constructor
  · exact fun hname => ⟨hname.ne_dot, hname.ne_dots⟩
  · exact fun hname => ⟨hempty, hname.1, hname.2⟩

/-- **An ordinary name that is let through is one step inside the directory.** -/
theorem Admissible.components_join {name : String} (h : Admissible name)
    (ordinary : Path.IsOrdinary name) (directory : Path) :
    (directory.join name).components = directory.components ++ [.name name] := by
  have hstep : Path.stepOf name.toList = some (.name name) := Path.stepOf_eq_name.2 ⟨rfl, ordinary⟩
  rw [Path.components_join directory h.slash, if_neg fun hdot => ordinary.ne_dot hdot.2, hstep,
    Option.toList_some]

/-- **Where the names of a valid configuration lead**, joined to any directory. The path ends in the
name exactly if the name is neither a dot nor two dots, and then it leads one step inside the
directory. A dot leads to the directory, which is where the way starts if the directory is empty, and
two dots lead to the directory above. -/
theorem step_of_script {c : Config} (valid : c.validate = .ok ()) {name : String}
    (configured : name ∈ c.assets.scripts) (directory : Path) :
    let path := directory.join name
    (path.fileName? = some name ↔ name ≠ "." ∧ name ≠ "..")
      ∧ (name ≠ "." ∧ name ≠ ".." → path.components = directory.components ++ [.name name])
      ∧ (name = "." →
          path.components = if directory.text = "" then [.here] else directory.components)
      ∧ (name = ".." → path.components = directory.components ++ [.parent]) := by
  intro path
  have hname : Admissible name := (validate_eq_ok.1 valid).names name configured
  have hcomponents := Path.components_join directory hname.slash
  refine ⟨?_, ?_, ?_, ?_⟩
  · exact (Path.fileName?_join directory hname.slash).trans hname.isOrdinary_iff
  · exact fun hnot => hname.components_join (hname.isOrdinary_iff.2 hnot) directory
  · rintro rfl
    have hstep : Path.stepOf ".".toList = none := rfl
    rw [hcomponents, hstep, Option.toList_none, List.append_nil]
    simp only [and_true]
  · rintro rfl
    have hstep : Path.stepOf "..".toList = some .parent := rfl
    rw [hcomponents, hstep, Option.toList_some, if_neg (by simp)]

/-- A configuration with a script, a dot and two dots. -/
def dottedConfig : Config := { assets := { scripts := ["a.js", ".", ".."] } }

/-- One of the three names leads into the directory. -/
theorem steps_of_dottedConfig :
    let assets : Path := ⟨"assets"⟩
    dottedConfig.validate = .ok ()
      ∧ (assets.join "a.js").components = [.name "assets", .name "a.js"]
      ∧ (assets.join ".").components = [.name "assets"]
      ∧ (assets.join "..").components = [.name "assets", .parent] := by
  intro assets
  have valid : dottedConfig.validate = .ok () := by decide +kernel
  have hassets : assets.components = [.name "assets"] := by decide +kernel
  have configured : ∀ name ∈ ["a.js", ".", ".."], name ∈ dottedConfig.assets.scripts := by
    simp [dottedConfig]
  obtain ⟨-, hscript, -, -⟩ := step_of_script valid (configured "a.js" (by simp)) assets
  obtain ⟨-, -, hdot, -⟩ := step_of_script valid (configured "." (by simp)) assets
  obtain ⟨-, -, -, hdots⟩ := step_of_script valid (configured ".." (by simp)) assets
  refine ⟨valid, ?_, ?_, ?_⟩
  · rw [hscript (by simp), hassets]
    rfl
  · rw [hdot rfl, if_neg (by simp [assets]), hassets]
  · rw [hdots rfl, hassets]
    rfl

/-- **Two dots are let through**, and no path ends in them. -/
theorem twoDots_accepted :
    ¬ ∀ c : Config, c.validate = .ok () → ∀ name ∈ c.assets.scripts, ∀ directory : Path,
      (directory.join name).fileName? = some name := by
  intro h
  have hfile := h dottedConfig (by decide +kernel) ".." (by simp [dottedConfig]) ⟨"assets"⟩
  revert hfile
  decide +kernel

end ViewLink.Config
