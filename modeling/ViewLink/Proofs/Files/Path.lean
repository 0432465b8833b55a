import ViewLink.Files.Path
import Mathlib.Data.List.Basic
import Mathlib.Tactic.SplitIfs

/-!
# Names inside directories

A name without a slash is one piece of the path that it is joined to, and it is the last one. So the
way that the path describes is the way of the directory and one step more, which is the step of the
name (`components_join`). A dot is no step at all and two dots lead back, and only a name that is
neither of them, nor empty, is the name in which the path ends.

The empty directory is the one exception, since a dot counts where a way starts.
-/

set_option autoImplicit false

namespace ViewLink.Files.Path

/-! ## Pieces -/

theorem splitSlashes_ne_nil (cs : List Char) : splitSlashes cs ≠ [] := by
  cases cs with
  | nil => simp [splitSlashes]
  | cons c cs =>
      rw [splitSlashes]
      split
      · simp
      · split <;> simp

/-- Without a slash there is one piece. -/
theorem splitSlashes_bare {cs : List Char} (bare : '/' ∉ cs) : splitSlashes cs = [cs] := by
  induction cs with
  | nil => rfl
  | cons c cs ih =>
      obtain ⟨hc, hcs⟩ := not_or.1 (mt List.mem_cons.2 bare)
      rw [splitSlashes, if_neg (Ne.symm hc), ih hcs]

/-- **A slash divides the pieces.** -/
theorem splitSlashes_slash (front back : List Char) :
    splitSlashes (front ++ '/' :: back) = splitSlashes front ++ splitSlashes back := by
  induction front with
  | nil => rfl
  | cons c front ih =>
      by_cases hc : c = '/'
      · rw [List.cons_append, splitSlashes, splitSlashes, if_pos hc, if_pos hc, ih,
          List.cons_append]
      · obtain ⟨piece, pieces, hpieces⟩ := List.exists_cons_of_ne_nil (splitSlashes_ne_nil front)
        rw [List.cons_append, splitSlashes, splitSlashes, if_neg hc, if_neg hc, ih, hpieces]
        rfl

/-! ## Joining -/

/-- What comes between a directory and a name in it. -/
def separator (directory : Path) : String :=
  if directory.text = "" ∨ directory.text.toList.getLast? = some '/' then "" else "/"

/-- **A bare name stays behind its directory.** What comes before it depends on the directory
alone. -/
theorem join_of_bare (directory : Path) {name : String} (bare : '/' ∉ name.toList) :
    directory.join name = ⟨directory.text ++ directory.separator ++ name⟩ := by
  have hhead : name.toList.head? ≠ some '/' := fun h => bare (List.mem_of_head? h)
  have hended : directory.text.toList.getLast?.all (· = '/') = true
      ↔ directory.text = "" ∨ directory.text.toList.getLast? = some '/' := by
    rw [← String.toList_eq_nil_iff, ← List.getLast?_eq_none_iff]
    cases directory.text.toList.getLast? <;> simp
  rw [join, if_neg hhead, separator]
  simp only [hended]
  split_ifs <;> simp

/-- **A directory that is not empty** comes before the slash that a bare name stands behind, with a
slash of its own or without. -/
theorem exists_front {directory : Path} (hdirectory : directory.text ≠ "") {name : String}
    (bare : '/' ∉ name.toList) :
    ∃ front, (directory.join name).text.toList = front ++ '/' :: name.toList
      ∧ (directory.text.toList = front ∨ directory.text.toList = front ++ ['/']) := by
  rw [join_of_bare directory bare]
  rcases List.eq_nil_or_concat directory.text.toList with hnil | ⟨front, last, hlast⟩
  · exact absurd (String.toList_eq_nil_iff.1 hnil) hdirectory
  · rw [List.concat_eq_append] at hlast
    by_cases hslash : last = '/'
    · have hseparator : directory.separator = "" := by simp [separator, hlast, hslash]
      exact ⟨front, by simp [hseparator, hlast, hslash], .inr (by rw [hlast, hslash])⟩
    · have hseparator : directory.separator = "/" := by simp [separator, hdirectory, hlast, hslash]
      exact ⟨directory.text.toList, by simp [hseparator], .inl rfl⟩

theorem join_of_empty {directory : Path} (hdirectory : directory.text = "") {name : String}
    (bare : '/' ∉ name.toList) : directory.join name = ⟨name⟩ := by
  simp [join_of_bare directory bare, separator, hdirectory]

theorem pieces_eq_of_front {p : Path} {front : List Char} {name : String}
    (bare : '/' ∉ name.toList) (h : p.text.toList = front ++ '/' :: name.toList) :
    p.pieces = splitSlashes front ++ [name.toList] := by
  rw [pieces, h, splitSlashes_slash, splitSlashes_bare bare]

/-- **The last piece of the path is the name.** -/
theorem getLast?_pieces_join (directory : Path) {name : String} (bare : '/' ∉ name.toList) :
    (directory.join name).pieces.getLast? = some name.toList := by
  by_cases hdirectory : directory.text = ""
  · rw [join_of_empty hdirectory bare, pieces, splitSlashes_bare bare]
    rfl
  · obtain ⟨front, htext, -⟩ := exists_front hdirectory bare
    rw [pieces_eq_of_front bare htext, List.getLast?_concat]

/-! ## Meaning -/

/-- **An ordinary name**, which is a step from a directory to an entry of it. -/
structure IsOrdinary (name : String) : Prop where
  /-- It is not empty. -/
  ne_empty : name ≠ ""
  /-- It is not the name of the directory itself. -/
  ne_dot : name ≠ "."
  /-- It is not the name of the directory above. -/
  ne_dots : name ≠ ".."

theorem stepOf_eq_name {piece : List Char} {name : String} :
    stepOf piece = some (.name name) ↔ piece = name.toList ∧ IsOrdinary name := by
  constructor
  · intro h
    rw [stepOf] at h
    split_ifs at h with hnothing hparent
    · cases h
    · cases h
      rw [Bool.or_eq_true, decide_eq_true_eq, decide_eq_true_eq, not_or] at hnothing
      refine ⟨String.toList_ofList.symm, ?_, ?_, ?_⟩
      · rintro h
        exact hnothing.1 (by simpa using congrArg String.toList h)
      · rintro h
        exact hnothing.2 (by simpa using congrArg String.toList h)
      · rintro h
        exact hparent (by simpa using congrArg String.toList h)
  · rintro ⟨rfl, hempty, hdot, hdots⟩
    have hempty : name.toList ≠ [] := mt String.toList_eq_nil_iff.1 hempty
    have hdot : name.toList ≠ ['.'] := fun h => hdot (String.toList_inj.1 h)
    have hdots : name.toList ≠ ['.', '.'] := fun h => hdots (String.toList_inj.1 h)
    rw [stepOf, if_neg (by simp [hempty, hdot]), if_neg hdots, String.ofList_toList]

/-- **Every name on the way is an ordinary one.** -/
theorem isOrdinary_of_mem_components {p : Path} {name : String}
    (h : .name name ∈ p.components) : IsOrdinary name := by
  have hstep : .name name ∈ p.pieces.filterMap stepOf := by
    rw [components] at h
    rcases List.mem_append.1 h with hstart | hstep
    · split_ifs at hstart <;> simp at hstart
    · exact hstep
  obtain ⟨piece, -, hpiece⟩ := List.mem_filterMap.1 hstep
  exact (stepOf_eq_name.1 hpiece).2

theorem components_append {p q : Path} {steps : List Component}
    (hstart : p.isAbsolute = q.isAbsolute) (hhead : p.pieces.head? = q.pieces.head?)
    (hsteps : p.pieces.filterMap stepOf = q.pieces.filterMap stepOf ++ steps) :
    p.components = q.components ++ steps := by
  rw [components, components, hstart, hhead, hsteps, List.append_assoc]

/-- **A bare name adds its own step to the way of the directory.** The dot in the empty directory is
the place where the way starts. -/
theorem components_join (directory : Path) {name : String} (bare : '/' ∉ name.toList) :
    (directory.join name).components
      = (if directory.text = "" ∧ name = "." then [.here] else directory.components)
        ++ (stepOf name.toList).toList := by
  have hname : [name.toList].filterMap stepOf = (stepOf name.toList).toList := by
    cases hstep : stepOf name.toList <;> simp [hstep]
  by_cases hdirectory : directory.text = ""
  · have hrelative : (⟨name⟩ : Path).isAbsolute = false := by
      simpa [isAbsolute] using fun h => bare (List.mem_of_head? h)
    have hpieces : (⟨name⟩ : Path).pieces = [name.toList] := splitSlashes_bare bare
    have hnowhere : directory.components = [] := by
      obtain ⟨text⟩ := directory
      cases hdirectory
      rfl
    have hdot : [name.toList].head? = some ['.'] ↔ name = "." := by
      simp [← String.toList_inj]
    rw [join_of_empty hdirectory bare, hnowhere]
    simp only [components, hrelative, hpieces, hname, hdot, hdirectory, true_and,
      Bool.false_eq_true, if_false]
  · rw [if_neg fun h => hdirectory h.1]
    obtain ⟨front, htext, hfront⟩ := exists_front hdirectory bare
    have hpieces := pieces_eq_of_front bare htext
    have hne := splitSlashes_ne_nil front
    rcases hfront with hbare | hslash
    · have hnonempty : front ≠ [] := by
        rintro rfl
        exact hdirectory (String.toList_eq_nil_iff.1 hbare)
      have hdirectory : directory.pieces = splitSlashes front := by rw [pieces, hbare]
      refine components_append ?_ ?_ ?_
      · rw [isAbsolute, isAbsolute, htext, hbare, List.head?_append_of_ne_nil _ hnonempty]
      · rw [hpieces, hdirectory, List.head?_append_of_ne_nil _ hne]
      · rw [hpieces, hdirectory, List.filterMap_append, hname]
    · have hdirectory : directory.pieces = splitSlashes front ++ [[]] := by
        rw [pieces, hslash, splitSlashes_slash]
        rfl
      refine components_append ?_ ?_ ?_
      · rw [isAbsolute, isAbsolute, htext, hslash]
        cases front <;> rfl
      · rw [hpieces, hdirectory, List.head?_append_of_ne_nil _ hne,
          List.head?_append_of_ne_nil _ hne]
      · rw [hpieces, hdirectory, List.filterMap_append, List.filterMap_append, hname]
        simp [stepOf]

/-- **A path ends in a name when the name is an ordinary one.** -/
theorem fileName?_join (directory : Path) {name : String} (bare : '/' ∉ name.toList) :
    (directory.join name).fileName? = some name ↔ IsOrdinary name := by
  constructor
  · intro h
    rw [fileName?] at h
    split at h
    · next last hlast =>
      cases h
      exact isOrdinary_of_mem_components (List.mem_of_getLast? hlast)
    · cases h
  · intro h
    have hstep : stepOf name.toList = some (.name name) := stepOf_eq_name.2 ⟨rfl, h⟩
    rw [fileName?, components_join directory bare, hstep, Option.toList_some,
      List.getLast?_concat]

end ViewLink.Files.Path
