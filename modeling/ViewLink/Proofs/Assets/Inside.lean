import ViewLink.Proofs.Assets.Contract
import ViewLink.Proofs.Config.ScriptNames
import ViewLink.Proofs.Files.Tree

/-!
# Nothing from outside the directory

A loader with a valid configuration offers no script to a surface that does not lie in the
configured directory. Three things work together here. The validation keeps separators out of the
names, so a name adds one step to the way of the directory. Joining puts a slash between the two if
one is needed. And the loader offers nothing unless every path is a regular file, which keeps out
the two names that lead elsewhere and that the validation lets through.

A surface may refuse a script, and then it has been offered the script all the same. `Offered` notes
every script that a surface is offered.

## Main definitions

* `Offered` — a surface with a note of the scripts that it was offered;
* `Inside` — a path is that of a name inside the directory.
-/

set_option autoImplicit false

namespace ViewLink

open Files (Path Disk)

variable {σ : Type}

/-! ## Noting what is offered -/

/-- **A surface with a note of what it was offered.** -/
structure Offered (σ : Type) where
  /-- The surface. -/
  surface : σ
  /-- The scripts that it was offered, whether it took them in or not, in this order. -/
  offers : List (Path × String) := []

/-- The same occasion for a surface with a note, which goes on. -/
def Attempt.offered (attempt : Attempt σ) : Attempt (Offered σ) :=
  ⟨attempt.disk, fun w => ⟨attempt.change w.surface, w.offers⟩⟩

section
variable [Surface σ]

/-- **Offers a script to the surface** and notes it. -/
def Offered.inject (w : Offered σ) (path : Path) (source : String) :
    Except AssetError Unit × Offered σ :=
  ((Surface.inject w.surface path source).1,
    ⟨(Surface.inject w.surface path source).2, w.offers ++ [(path, source)]⟩)

instance : Surface (Offered σ) := ⟨Offered.inject⟩

theorem Offered.isView : IsView (Offered.surface : Offered σ → σ) := fun _ _ _ => rfl

theorem Offered.offers_inject (w : Offered σ) (path : Path) (source : String) :
    (Surface.inject w path source).2.offers = w.offers ++ [(path, source)] := rfl

/-- **What is taken in is noted**, in this order. -/
theorem TakesIn.offers_eq {w w' : Offered σ} {scripts : List (Path × String)}
    (h : TakesIn w scripts w') : w'.offers = w.offers ++ scripts := by
  induction h with
  | nil w => exact (List.append_nil _).symm
  | @cons w w' w'' path source scripts htaken _ ih =>
      have hnote : w'.offers = w.offers ++ [(path, source)] := by
        rw [← w.offers_inject, htaken]
      rw [ih, hnote, List.append_assoc, List.singleton_append]

/-- **A script that is refused is noted as well**, and one that cannot be read is not. -/
theorem Stop.mem_offers {disk : Disk} {path : Path} {w w' : Offered σ} {e : AssetError}
    (h : Stop disk path w e w') : ∀ offer ∈ w'.offers,
      offer ∈ w.offers ∨ offer.1 = path ∧ disk.readText offer.1 = .ok offer.2 := by
  intro offer hoffer
  cases h with
  | unreadable _ => exact .inl hoffer
  | @refused source _ _ hread hrefused =>
      have hnote : w'.offers = w.offers ++ [(path, source)] := by
        rw [← w.offers_inject, hrefused]
      rw [hnote, List.mem_append, List.mem_singleton] at hoffer
      rcases hoffer with hbefore | rfl
      · exact .inl hbefore
      · exact .inr ⟨rfl, hread⟩

namespace AssetLoader

/-- **A loading offers the texts of regular files under the configured paths**, however it
ends. -/
theorem Ends.mem_offers {l : AssetLoader} {disk : Disk} {w : Offered σ} {r : Loading (Offered σ)}
    (h : l.Ends disk w r) : ∀ offer ∈ r.surface.offers, offer ∈ w.offers
      ∨ offer.1 ∈ l.settings.scriptPaths ∧ disk.isFile offer.1 = true
        ∧ disk.readText offer.1 = .ok offer.2 := by
  intro offer hoffer
  cases h with
  | again _ => exact .inl hoffer
  | missing _ _ => exact .inl hoffer
  | @stopped front path rest scripts before w' e _ hfiles hpaths hsources htaken hstop =>
      rcases hstop.mem_offers offer hoffer with hbefore | ⟨hpath, hread⟩
      · rw [htaken.offers_eq, List.mem_append] at hbefore
        rcases hbefore with hbefore | hscript
        · exact .inl hbefore
        · obtain ⟨hfront, hread⟩ := hsources.of_mem hscript
          have hpath : offer.1 ∈ l.settings.scriptPaths := by
            rw [hpaths]
            exact List.mem_append_left _ hfront
          exact .inr ⟨hpath, hfiles _ hpath, hread⟩
      · have hpath : offer.1 ∈ l.settings.scriptPaths := by simp [hpaths, hpath]
        exact .inr ⟨hpath, hfiles _ hpath, hread⟩
  | loaded _ hfiles hsources htaken =>
      rw [htaken.offers_eq, List.mem_append] at hoffer
      rcases hoffer with hbefore | hscript
      · exact .inl hbefore
      · obtain ⟨hpath, hread⟩ := hsources.of_mem hscript
        exact .inr ⟨hpath, hfiles _ hpath, hread⟩

/-- **So does every loading of a session**, on one of the occasions. -/
theorem mem_offers_after (l : AssetLoader) (w : Offered σ) (attempts : List (Attempt σ)) :
    ∀ offer ∈ (l.after w (attempts.map Attempt.offered)).2.offers, offer ∈ w.offers
      ∨ offer.1 ∈ l.settings.scriptPaths ∧ ∃ attempt ∈ attempts,
        attempt.disk.isFile offer.1 = true ∧ attempt.disk.readText offer.1 = .ok offer.2 := by
  induction attempts generalizing l w with
  | nil => exact fun offer h => .inl h
  | cons attempt attempts ih =>
      intro offer h
      have hends := l.load_spec attempt.disk (attempt.offered.change w)
      rcases ih _ _ offer h with hbefore | ⟨hpath, later, hlater, hfile⟩
      · rcases hends.mem_offers offer hbefore with hbefore | ⟨hpath, hfile⟩
        · exact .inl hbefore
        · exact .inr ⟨hpath, attempt, List.mem_cons_self .., hfile⟩
      · refine .inr ⟨?_, later, List.mem_cons_of_mem _ hlater, hfile⟩
        rwa [← hends.loader_eq.1]

/-- **Nobody notices the note.** -/
theorem after_offered (l : AssetLoader) (w : Offered σ) (attempts : List (Attempt σ)) :
    l.after w.surface attempts
      = ((l.after w (attempts.map Attempt.offered)).1,
          (l.after w (attempts.map Attempt.offered)).2.surface) := by
  induction attempts generalizing l w with
  | nil => rfl
  | cons attempt attempts ih =>
      have hload : (l.load attempt.disk (attempt.offered.change w)).map Offered.surface
          = l.load attempt.disk (attempt.change w.surface) :=
        l.load_view Offered.isView attempt.disk (attempt.offered.change w)
      rw [List.map_cons, after, ← hload]
      exact ih _ _

end AssetLoader

end

/-! ## The directory -/

/-- **The path is that of a name inside the directory.** -/
structure Inside (a : AssetSettings) (path : Path) (name : String) : Prop where
  /-- The name is configured. -/
  configured : name ∈ a.scripts
  /-- It is joined to the directory. -/
  path_eq : path = a.directory.join name
  /-- The directory stands before the name, with one slash between them unless the directory is
  empty or ends in one. -/
  text_eq : path.text = a.directory.text
    ++ (if a.directory.text = "" ∨ a.directory.text.toList.getLast? = some '/' then "" else "/")
    ++ name
  /-- No separator is in the name. -/
  bare : '/' ∉ name.toList ∧ '\\' ∉ name.toList
  /-- The name is not that of the directory or of the one above. -/
  ne_dots : name ≠ "." ∧ name ≠ ".."
  /-- The way of the path is that of the directory and one step more. -/
  components_eq : path.components = a.directory.components ++ [.name name]

/-- **A configured path that is a regular file lies inside the directory.** -/
theorem inside_of_isFile {c : Config} (valid : c.validate = .ok ()) {disk : Disk}
    (dots : disk.DotsAreDirectories) {path : Path} (configured : path ∈ c.assets.scriptPaths)
    (file : disk.isFile path = true) : ∃ name, Inside c.assets path name := by
  obtain ⟨name, hname, rfl⟩ := List.mem_map.1 configured
  have hadmissible : Config.Admissible name := (Config.validate_eq_ok.1 valid).names name hname
  have hlast := Path.getLast?_pieces_join c.assets.directory hadmissible.slash
  have hnot : ¬ (c.assets.directory.join name).EndsInDots := by
    intro hdots
    rw [dots _ hdots] at file
    cases file
  have hdots : name ≠ "." ∧ name ≠ ".." := by
    constructor
    · rintro rfl
      exact hnot (.inl hlast)
    · rintro rfl
      exact hnot (.inr hlast)
  refine ⟨name, hname, rfl, ?_, ⟨hadmissible.slash, hadmissible.backslash⟩, hdots, ?_⟩
  · rw [Path.join_of_bare _ hadmissible.slash, Path.separator]
  · exact hadmissible.components_join (hadmissible.isOrdinary_iff.2 hdots) _

/-- Different names are those of different paths, also in what the paths mean. -/
theorem Inside.not_same {a : AssetSettings} {path path' : Path} {name name' : String}
    (h : Inside a path name) (h' : Inside a path' name') (hne : name ≠ name') :
    path.same path' = false := by
  rw [Path.same, decide_eq_false_iff_not, h.components_eq, h'.components_eq]
  intro heq
  have hlast := List.append_cancel_left heq
  simp only [List.cons.injEq, Files.Component.name.injEq, and_true] at hlast
  exact hne hlast

/-- **A valid configuration offers nothing from outside its directory**, in any session of its
loader, whatever becomes of the files and the surface, as long as paths that end in dots are no
regular files. Every script that is offered, taken in or refused, is the text of a file under a
configured name inside the directory, and different names are offered from different paths. -/
theorem offers_inside_directory [Surface σ] {config : Config} (valid : config.validate = .ok ())
    (verbose : Bool) (surface : σ) (attempts : List (Attempt σ))
    (dots : ∀ attempt ∈ attempts, attempt.disk.DotsAreDirectories) :
    let loader := AssetLoader.withVerbose { settings := config.assets } verbose
    let final := loader.after (⟨surface, []⟩ : Offered σ) (attempts.map Attempt.offered)
    loader.after surface attempts = (final.1, final.2.surface)
      ∧ (∀ offer ∈ final.2.offers, (∃ name, Inside config.assets offer.1 name)
          ∧ ∃ attempt ∈ attempts, attempt.disk.readText offer.1 = .ok offer.2)
      ∧ ∀ offer ∈ final.2.offers, ∀ other ∈ final.2.offers, ∀ name name',
          Inside config.assets offer.1 name → Inside config.assets other.1 name' → name ≠ name' →
          offer.1.same other.1 = false := by
  intro loader final
  refine ⟨loader.after_offered ⟨surface, []⟩ attempts, ?_, ?_⟩
  · intro offer h
    rcases loader.mem_offers_after ⟨surface, []⟩ attempts offer h with
      hnone | ⟨hpath, attempt, hattempt, hfile, hsource⟩
    · cases hnone
    · exact ⟨inside_of_isFile valid (dots attempt hattempt) hpath hfile,
        attempt, hattempt, hsource⟩
  · intro offer _ other _ name name' h h' hne
    exact h.not_same h' hne

/-- A configuration whose directory ends in a slash. -/
def slashedConfig : Config :=
  { assets := { directory := ⟨"js/"⟩, scripts := ["a.js", "b.js"] } }

/-- The second script is refused at first, so both are offered twice. -/
theorem offers_of_slashedConfig :
    let surface : RecordingSurface := { refusal := some (1, "full") }
    let attempts : List (Attempt RecordingSurface) :=
      [⟨AssetLoader.pairDisk, id⟩, ⟨AssetLoader.pairDisk, id⟩]
    let loader := AssetLoader.withVerbose { settings := slashedConfig.assets } true
    let final := loader.after (⟨surface, []⟩ : Offered RecordingSurface)
      (attempts.map Attempt.offered)
    slashedConfig.validate = .ok ()
      ∧ (∀ attempt ∈ attempts, attempt.disk.DotsAreDirectories)
      ∧ final.2.offers = [(⟨"js/a.js"⟩, "a"), (⟨"js/b.js"⟩, "b"), (⟨"js/a.js"⟩, "a"),
          (⟨"js/b.js"⟩, "b")]
      ∧ ∀ offer ∈ final.2.offers, ∃ name, Inside slashedConfig.assets offer.1 name := by
  intro surface attempts loader final
  have valid : slashedConfig.validate = .ok () := by decide +kernel
  have dots : ∀ attempt ∈ attempts, attempt.disk.DotsAreDirectories := by
    have hdisk : AssetLoader.pairDisk.DotsAreDirectories := Files.Tree.dotsAreDirectories _
    simp [attempts, hdisk]
  have hoffers : final.2.offers = [(⟨"js/a.js"⟩, "a"), (⟨"js/b.js"⟩, "b"), (⟨"js/a.js"⟩, "a"),
      (⟨"js/b.js"⟩, "b")] := by
    decide +kernel
  obtain ⟨-, hinside, -⟩ := offers_inside_directory valid true surface attempts dots
  refine ⟨valid, dots, hoffers, fun offer h => ?_⟩
  simp only [final, loader] at h
  exact (hinside offer h).1

end ViewLink
