import ViewLink.Files.Tree
import Mathlib.Data.List.Infix
import Mathlib.Tactic.SplitIfs

/-!
# Dots lead to directories

A path that ends in a dot or in two dots names no regular file, on any reasonable disk
(`Disk.DotsAreDirectories`). For a working directory this follows from how a path is walked. The
walk goes on only from directories, so wherever it stands, everything from the working directory
down to this place is a directory (`Tree.Stands`). A dot leads to one of these, and so do two.
-/

set_option autoImplicit false

namespace ViewLink.Files

/-- **The path ends in a dot or in two.** -/
def Path.EndsInDots (p : Path) : Prop :=
  p.pieces.getLast? = some ['.'] ∨ p.pieces.getLast? = some ['.', '.']

/-- **What ends in dots is no file.** -/
def Disk.DotsAreDirectories (disk : Disk) : Prop :=
  ∀ p : Path, p.EndsInDots → disk.isFile p = false

namespace Tree

/-- **Everything down to a place is a directory.** -/
def Stands (t : Tree) : Place → Prop
  | .outside => True
  | .inside names => ∀ front, front <+: names → t.entry? (.inside front) = some .directory

variable {t : Tree} {place place' : Place} {piece : List Char}

theorem Stands.isDirectory (h : t.Stands place) : t.entry? place = some .directory := by
  cases place with
  | outside => rfl
  | inside names => exact h names List.prefix_rfl

/-- A step that names nothing leads to a directory again. -/
theorem Stands.of_nameless (h : t.Stands place) (hnext : next? place piece = some place')
    (hpiece : piece = [] ∨ piece = ['.'] ∨ piece = ['.', '.']) : t.Stands place' := by
  unfold next? at hnext
  split_ifs at hnext with hstay hback
  · cases hnext
    exact h
  · split at hnext
    · cases hnext
      exact fun front hfront => h front (hfront.trans (List.dropLast_prefix _))
    · cases hnext
      trivial
  · simp only [Bool.or_eq_true, decide_eq_true_eq, not_or] at hstay
    exact absurd hpiece (not_or.2 ⟨hstay.1, not_or.2 ⟨hstay.2, hback⟩⟩)

/-- **A step that leads to a directory** keeps to directories. -/
theorem Stands.of_directory (h : t.Stands place) (hnext : next? place piece = some place')
    (hentry : t.entry? place' = some .directory) : t.Stands place' := by
  by_cases hpiece : piece = [] ∨ piece = ['.'] ∨ piece = ['.', '.']
  · exact h.of_nameless hnext hpiece
  · obtain ⟨hempty, hdot, hdots⟩ : piece ≠ [] ∧ piece ≠ ['.'] ∧ piece ≠ ['.', '.'] := by
      simpa [not_or] using hpiece
    unfold next? at hnext
    rw [if_neg (by simp [hempty, hdot]), if_neg hdots] at hnext
    cases place with
    | outside => cases hnext
    | inside names =>
        cases hnext
        intro front hfront
        rcases List.prefix_concat_iff.1 hfront with rfl | hfront
        · exact hentry
        · exact h front hfront

/-- **A walk that ends in dots leads to no file.** -/
theorem walk_ne_file {pieces : List (List Char)} (h : t.Stands place)
    (hlast : pieces.getLast? = some ['.'] ∨ pieces.getLast? = some ['.', '.'])
    (content : Bytes) : t.walk place .directory pieces ≠ .ok (.file content) := by
  induction pieces generalizing place with
  | nil => simp at hlast
  | cons piece pieces ih =>
      intro hwalk
      rw [walk] at hwalk
      split_ifs at hwalk with hlong
      split at hwalk
      · cases hwalk
      · next place' hnext =>
        split at hwalk
        · cases hwalk
        · next found hfound =>
          cases pieces with
          | nil =>
              -- The last piece leads to a directory.
              have hpiece : piece = ['.'] ∨ piece = ['.', '.'] := by simpa using hlast
              have hdirectory := (h.of_nameless hnext (.inr hpiece)).isDirectory
              rw [hfound] at hdirectory
              cases hdirectory
              cases hwalk
          | cons second others =>
              rw [List.getLast?_cons_cons] at hlast
              cases found with
              | file => cases hwalk
              | directory => exact ih (h.of_directory hnext hfound) hlast hwalk

/-- **In a working directory dots lead to directories.** -/
theorem dotsAreDirectories (t : Tree) : t.disk.DotsAreDirectories := by
  intro p hdots
  have hstart : t.Stands (if p.isAbsolute then .outside else .inside []) := by
    split_ifs
    · trivial
    · intro front hfront
      rw [List.prefix_nil.1 hfront]
      rfl
  have hfind : ∀ content, t.find p ≠ .ok (.file content) := by
    intro content hfile
    rw [find] at hfile
    generalize (if p.isAbsolute then Place.outside else .inside []) = place at hstart hfile
    split_ifs at hfile
    exact walk_ne_file hstart hdots content hfile
  show t.isFile p = false
  rw [isFile]
  split
  · next content hfile => exact absurd hfile (hfind content)
  · rfl

end Tree

end ViewLink.Files
