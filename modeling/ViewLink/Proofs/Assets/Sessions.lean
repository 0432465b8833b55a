import ViewLink.Proofs.Assets.Loading

/-!
# Loading again and again

A loader that has failed may be asked to load again. The files may have changed by then, and the
surface may be another one. The loader remembers one thing from loading to loading, which is
whether all scripts have been taken in, so a loading that ended half-way leaves no trace in it. The
next one begins with the first script again, and whatever was taken in before is taken in a second
time (`reloaded_script`).

`scripts_of_session` says exactly what happens. Each loading takes in a front part of the list. The
scripts of different loadings are different if and only if no two loadings take in anything, which
is so when no loading ends half-way.

## Main definitions

* `Attempt` — an occasion to load, `AssetLoader.session` — what comes of a list of them;
* `AssetLoader.watchedSession` — the same with a note of what each loading took in.
-/

set_option autoImplicit false

namespace ViewLink

open Files (Path Disk)

variable {σ : Type}

/-- **An occasion to load.** -/
structure Attempt (σ : Type) where
  /-- The files, as they are now. -/
  disk : Disk
  /-- What the surface has become since the last time. It may be another one. -/
  change : σ → σ := id

/-- The same occasion with a surface that is watched from now on. -/
def Attempt.watched (attempt : Attempt σ) : Attempt (Watched σ) :=
  ⟨attempt.disk, fun w => ⟨attempt.change w.surface, []⟩⟩

/-! ## Loadings that take in something -/

/-- If no two loadings take in anything, one front part of the list is all that is taken in. -/
theorem Loading.prefix_of_pairwise {paths : List Path} {runs : List (Loading (Watched σ))}
    (hfront : ∀ r ∈ runs, r.paths <+: paths)
    (apart : runs.Pairwise fun r s => r.paths = [] ∨ s.paths = []) :
    runs.flatMap Loading.paths <+: paths := by
  induction runs with
  | nil => exact List.nil_prefix
  | cons r runs ih =>
      obtain ⟨hr, hruns⟩ := List.forall_mem_cons.1 hfront
      obtain ⟨hfirst, hrest⟩ := List.pairwise_cons.1 apart
      rw [List.flatMap_cons]
      by_cases hnil : r.paths = []
      · rw [hnil, List.nil_append]
        exact ih hruns hrest
      · have hothers : runs.flatMap Loading.paths = [] :=
          List.flatMap_eq_nil_iff.2 fun s hs => (hfirst s hs).resolve_left hnil
        rw [hothers, List.append_nil]
        exact hr

/-- Front parts of a list share an entry if neither of them is empty. -/
theorem Loading.disjoint_paths_iff {paths : List Path} {r s : Loading (Watched σ)}
    (hr : r.paths <+: paths) (hs : s.paths <+: paths) :
    List.Disjoint r.paths s.paths ↔ r.paths = [] ∨ s.paths = [] := by
  constructor
  · intro hdisjoint
    by_contra hsome
    obtain ⟨hr', hs'⟩ := not_or.1 hsome
    -- Both begin with the first script of the list.
    obtain ⟨first, front, hfront⟩ := List.exists_cons_of_ne_nil hr'
    obtain ⟨first', front', hfront'⟩ := List.exists_cons_of_ne_nil hs'
    have hsame : first' = first := by
      obtain ⟨later, rfl⟩ := hr
      obtain ⟨later', hlater'⟩ := hs
      rw [hfront, hfront', List.cons_append, List.cons_append] at hlater'
      exact (List.cons.inj hlater').1
    rw [hfront, hfront', hsame] at hdisjoint
    exact hdisjoint (List.mem_cons_self ..) (List.mem_cons_self ..)
  · rintro (hnil | hnil) <;> simp [hnil]

namespace AssetLoader

variable [Surface σ]

/-- **What comes of loading on every occasion**, with one loader. -/
def session (l : AssetLoader) (surface : σ) : List (Attempt σ) → List (Loading σ)
  | [] => []
  | attempt :: attempts =>
    let result := l.load attempt.disk (attempt.change surface)
    result :: result.loader.session result.surface attempts

/-- **The same on a surface that is watched.** Each result says what its loading took in. -/
def watchedSession (l : AssetLoader) (w : Watched σ) (attempts : List (Attempt σ)) :
    List (Loading (Watched σ)) :=
  l.session w (attempts.map Attempt.watched)

theorem watchedSession_cons (l : AssetLoader) (w : Watched σ) (attempt : Attempt σ)
    (attempts : List (Attempt σ)) :
    let result := l.load attempt.disk (⟨attempt.change w.surface, []⟩ : Watched σ)
    l.watchedSession w (attempt :: attempts)
      = result :: result.loader.watchedSession result.surface attempts := rfl

theorem unwatched_watchedSession (l : AssetLoader) (w : Watched σ) (attempts : List (Attempt σ)) :
    (l.watchedSession w attempts).map Loading.unwatched = l.session w.surface attempts := by
  induction attempts generalizing l w with
  | nil => rfl
  | cons attempt attempts ih =>
      have hload := l.unwatched_load attempt.disk ⟨attempt.change w.surface, []⟩
      rw [watchedSession_cons, List.map_cons, ih, session, ← hload]
      rfl

/-! ## What one loading takes in -/

/-- **A front part of the list is taken in**, all of it if the scripts are loaded by this, and
nothing if they had been. The loader changes when it has loaded them. -/
theorem Ends.paths_cases {l : AssetLoader} {disk : Disk} {surface : σ}
    {r : Loading (Watched σ)} (h : l.Ends disk (⟨surface, []⟩ : Watched σ) r) :
    (l.isLoaded = true ∧ r.answer = .ok false ∧ r.loader = l ∧ r.paths = [])
      ∨ (l.isLoaded = false ∧ (∃ e, r.answer = .error e) ∧ r.loader = l
          ∧ ∃ path rest, l.settings.scriptPaths = r.paths ++ path :: rest)
      ∨ (l.isLoaded = false ∧ r.answer = .ok true ∧ r.loader = { l with isLoaded := true }
          ∧ r.paths = l.settings.scriptPaths) := by
  cases h with
  | again hloaded => exact .inl ⟨hloaded, rfl, rfl, rfl⟩
  | missing hfresh hmissing =>
      refine .inr (.inl ⟨hfresh, ⟨_, rfl⟩, rfl, ?_⟩)
      exact List.exists_cons_of_ne_nil (List.ne_nil_of_mem (List.mem_of_find?_eq_some hmissing))
  | @stopped front path rest scripts _ _ _ hfresh _ hpaths hsources htaken hstop =>
      refine .inr (.inl ⟨hfresh, ⟨_, rfl⟩, rfl, path, rest, ?_⟩)
      rw [hpaths, Loading.paths, hstop.watched.2, htaken.watched.2, List.nil_append,
        hsources.paths_eq]
  | loaded hfresh _ hsources htaken =>
      refine .inr (.inr ⟨hfresh, rfl, rfl, ?_⟩)
      rw [Loading.paths, htaken.watched.2, List.nil_append, hsources.paths_eq]

/-! ## What a session takes in -/

/-- **Nothing is taken in any more once the scripts are loaded.** -/
theorem paths_of_isLoaded {l : AssetLoader} (hloaded : l.isLoaded = true) (w : Watched σ)
    (attempts : List (Attempt σ)) :
    ∀ r ∈ l.watchedSession w attempts, r.answer = .ok false ∧ r.paths = [] := by
  induction attempts generalizing w with
  | nil => simp [watchedSession, session]
  | cons attempt attempts ih =>
      rw [watchedSession_cons]
      rcases (l.load_spec attempt.disk (⟨attempt.change w.surface, []⟩ : Watched σ)).paths_cases with
        ⟨-, hanswer, hloader, hpaths⟩ | ⟨hfresh, -⟩ | ⟨hfresh, -⟩
      · rw [hloader]
        exact List.forall_mem_cons.2 ⟨⟨hanswer, hpaths⟩, ih _⟩
      · rw [hloaded] at hfresh
        cases hfresh
      · rw [hloaded] at hfresh
        cases hfresh

/-- **Every loading of a session takes in a front part of the list**, and all of it exactly when
it answers that the scripts are loaded now. -/
theorem paths_of_mem_session (l : AssetLoader) (nonempty : l.settings.scriptPaths ≠ [])
    (w : Watched σ) (attempts : List (Attempt σ)) :
    ∀ r ∈ l.watchedSession w attempts, r.paths <+: l.settings.scriptPaths
      ∧ (r.answer = .ok true ↔ r.paths = l.settings.scriptPaths)
      ∧ (r.answer = .ok false → r.paths = []) := by
  induction attempts generalizing l w with
  | nil => simp [watchedSession, session]
  | cons attempt attempts ih =>
      rw [watchedSession_cons]
      rcases (l.load_spec attempt.disk (⟨attempt.change w.surface, []⟩ : Watched σ)).paths_cases with
        ⟨-, hanswer, hloader, hpaths⟩ | ⟨-, ⟨e, hanswer⟩, hloader, path, rest, hpaths⟩
        | ⟨-, hanswer, hloader, hpaths⟩
      · rw [hloader]
        refine List.forall_mem_cons.2 ⟨?_, ih l nonempty _⟩
        rw [hanswer, hpaths]
        exact ⟨List.nil_prefix, by simp [nonempty.symm], fun _ => rfl⟩
      · rw [hloader]
        refine List.forall_mem_cons.2 ⟨?_, ih l nonempty _⟩
        rw [hanswer, hpaths]
        exact ⟨List.prefix_append _ _, by simp, by simp⟩
      · rw [hloader]
        refine List.forall_mem_cons.2 ⟨?_, ih { l with isLoaded := true } nonempty _⟩
        rw [hanswer, hpaths]
        exact ⟨List.prefix_rfl, by simp, by simp⟩

/-- **The loading that answers that the scripts are loaded now is the last to take in anything.** -/
theorem session_pairwise (l : AssetLoader) (w : Watched σ) (attempts : List (Attempt σ)) :
    (l.watchedSession w attempts).Pairwise fun r s =>
      r.answer = .ok true → s.answer = .ok false ∧ s.paths = [] := by
  induction attempts generalizing l w with
  | nil => exact .nil
  | cons attempt attempts ih =>
      rw [watchedSession_cons]
      refine List.pairwise_cons.2 ⟨fun s hs hanswer => ?_, ih _ _⟩
      rcases (l.load_spec attempt.disk (⟨attempt.change w.surface, []⟩ : Watched σ)).paths_cases with
        ⟨-, hfalse, -⟩ | ⟨-, ⟨e, herror⟩, -⟩ | ⟨-, -, hloader, -⟩
      · rw [hanswer] at hfalse
        cases hfalse
      · rw [hanswer] at herror
        cases herror
      · rw [hloader] at hs
        exact paths_of_isLoaded rfl _ _ s hs

/-- **What is taken in during a session** of a loader with a valid configuration, whatever becomes
of the files and of the surface. Each loading takes in a front part of the list. It is all of it
exactly when the answer is that the scripts are loaded now, and after that every loading answers
that there is nothing to do. If the names are different, no script is taken in twice if and only if
no two loadings take in anything. Then one front part of the list is all that is taken in, and this
is the case if the loadings that fail take in nothing. -/
theorem scripts_of_session {config : Config} (valid : config.validate = .ok ()) (surface : σ)
    (attempts : List (Attempt σ)) :
    let loader : AssetLoader := { settings := config.assets }
    let paths := config.assets.scriptPaths
    let runs := loader.watchedSession ⟨surface, []⟩ attempts
    let injected := runs.flatMap Loading.paths
    let apart := runs.Pairwise fun r s => r.paths = [] ∨ s.paths = []
    runs.map Loading.unwatched = loader.session surface attempts
      ∧ (∀ r ∈ runs, r.paths <+: paths ∧ (r.answer = .ok true ↔ r.paths = paths)
          ∧ (r.answer = .ok false → r.paths = []))
      ∧ (runs.Pairwise fun r s => r.answer = .ok true → s.answer = .ok false)
      ∧ (config.assets.scripts.Nodup → (injected.Nodup ↔ apart))
      ∧ (apart → injected <+: paths)
      ∧ ((∀ r ∈ runs, ∀ e, r.answer = .error e → r.paths = []) → apart) := by
  intro loader paths runs injected apart
  have hruns := loader.paths_of_mem_session (Config.scriptPaths_ne_nil_of_validate valid)
    ⟨surface, []⟩ attempts
  have hlast := loader.session_pairwise ⟨surface, []⟩ attempts
  refine ⟨loader.unwatched_watchedSession _ _, hruns, hlast.imp fun h hr => (h hr).1, ?_, ?_, ?_⟩
  · intro distinct
    have hpaths : paths.Nodup := AssetSettings.nodup_scriptPaths valid distinct
    have hparts : ∀ r ∈ runs, r.paths.Nodup := fun r hr => (hruns r hr).1.sublist.nodup hpaths
    have hdisjoint : runs.Pairwise (Function.onFun List.Disjoint Loading.paths) ↔ apart :=
      List.Pairwise.iff_of_mem fun hr hs =>
        Loading.disjoint_paths_iff (hruns _ hr).1 (hruns _ hs).1
    rw [← hdisjoint, List.nodup_flatMap]
    exact and_iff_right hparts
  · exact Loading.prefix_of_pairwise fun r hr => (hruns r hr).1
  · intro whole
    refine hlast.imp_of_mem fun {r s} hr _ h => ?_
    cases hanswer : r.answer with
    | error e => exact .inl (whole r hr e hanswer)
    | ok loaded =>
        cases loaded with
        | false => exact .inl ((hruns r hr).2.2 hanswer)
        | true => exact .inr (h hanswer).2

/-- A configuration with two scripts. -/
def pairConfig : Config :=
  { assets := { directory := ⟨"js"⟩, scripts := ["a.js", "b.js"] } }

/-- A disk with both of them. -/
def pairDisk : Disk :=
  ((Files.Tree.empty.write ⟨"js/a.js"⟩ [97]).write ⟨"js/b.js"⟩ [98]).disk

/-- The second script is refused at first. The next loading takes in both, so the first script is
taken in twice. -/
theorem scripts_of_refusedSession :
    let loader : AssetLoader := { settings := pairConfig.assets }
    let surface : RecordingSurface := { refusal := some (1, "full") }
    let runs := loader.watchedSession ⟨surface, []⟩ [⟨pairDisk, id⟩, ⟨pairDisk, id⟩, ⟨pairDisk, id⟩]
    pairConfig.validate = .ok ()
      ∧ runs.map Loading.paths = [[⟨"js/a.js"⟩], [⟨"js/a.js"⟩, ⟨"js/b.js"⟩], []]
      ∧ ¬ (runs.flatMap Loading.paths).Nodup := by
  intro loader surface runs
  have hvalid : pairConfig.validate = .ok () := by decide +kernel
  have hpaths : runs.map Loading.paths = [[⟨"js/a.js"⟩], [⟨"js/a.js"⟩, ⟨"js/b.js"⟩], []] := by
    decide +kernel
  obtain ⟨-, -, -, htwice, -, -⟩ := scripts_of_session hvalid surface
    [⟨pairDisk, id⟩, ⟨pairDisk, id⟩, ⟨pairDisk, id⟩]
  refine ⟨hvalid, hpaths, fun hnodup => ?_⟩
  have hapart := (htwice (by decide +kernel)).1 hnodup
  have hapart : (runs.map Loading.paths).Pairwise fun a b => a = [] ∨ b = [] :=
    List.pairwise_map.2 hapart
  rw [hpaths] at hapart
  simp at hapart

/-- **A script may be taken in again.** -/
theorem reloaded_script :
    ¬ ∀ (config : Config) (surface : RecordingSurface) (attempts : List (Attempt RecordingSurface)),
      config.validate = .ok () → ∀ path,
        ((watchedSession { settings := config.assets } ⟨surface, []⟩ attempts).flatMap
          Loading.paths).count path ≤ 1 := by
  intro h
  have htwice := h pairConfig { refusal := some (1, "full") } [⟨pairDisk, id⟩, ⟨pairDisk, id⟩]
    (by decide +kernel) ⟨"js/a.js"⟩
  revert htwice
  decide +kernel

end AssetLoader

end ViewLink
