import ViewLink.Assets
import ViewLink.Proofs.Config.Validation
import ViewLink.Proofs.Files.Path
import Mathlib.Data.List.Nodup

/-!
# What one loading does

The loader goes over its list of scripts twice. First it looks whether all files are there, and
then it reads them and hands them to the surface one at a time. The second walk may end at any
script, and what the surface has taken in by then it keeps. So a loading ends in one of four ways,
and `AssetLoader.load_spec` says for each of them what was taken in, what became of the loader and
what was logged.

What a surface takes in cannot be seen from outside in general. A surface can be watched however:
`Watched` notes each script that is taken in, and nothing else changes by it
(`AssetLoader.unwatched_load`). This holds of whatever is added to a surface without a change to its
injections (`IsView`, `AssetLoader.load_view`).

The scripts of a valid configuration have bare names, which stay apart when they are joined to the
directory (`AssetSettings.nodup_scriptPaths`).

## Main definitions

* `IsView` — a surface has another one within, and injections go through to it;
* `Watched` — a surface with a note of what it took in;
* `Sources` — the scripts under some paths, `TakesIn` — what becomes of a surface that takes them in,
  `Stop` — why a walk ends before a script;
* `AssetLoader.Ends` — the four ways in which a loading ends.
-/

set_option autoImplicit false

namespace ViewLink

open Files (Path Disk)

/-! ## Where the scripts are -/

/-- A script name that is let through holds no slash. -/
theorem Config.slash_not_mem_of_validate {c : Config} (valid : c.validate = .ok ())
    {name : String} (hname : name ∈ c.assets.scripts) : '/' ∉ name.toList :=
  ((Config.validate_eq_ok.1 valid).names name hname).slash

theorem Config.scriptPaths_ne_nil_of_validate {c : Config} (valid : c.validate = .ok ()) :
    c.assets.scriptPaths ≠ [] :=
  fun hnil => (Config.validate_eq_ok.1 valid).scripts (List.map_eq_nil_iff.1 hnil)

/-- **Different names of a valid configuration are names of different paths.** -/
theorem AssetSettings.nodup_scriptPaths {c : Config} (valid : c.validate = .ok ())
    (distinct : c.assets.scripts.Nodup) : c.assets.scriptPaths.Nodup := by
  refine List.Nodup.map_on ?_ distinct
  intro a ha b hb heq
  rw [Path.join_of_bare _ (Config.slash_not_mem_of_validate valid ha),
    Path.join_of_bare _ (Config.slash_not_mem_of_validate valid hb), Files.Path.mk.injEq] at heq
  exact (String.append_right_inj _).1 heq

variable {σ : Type} [Surface σ]

/-! ## The two walks of a loading -/

/-- **What comes of a loading that has gone over all scripts** or ended on the way. -/
def Loading.ofWalk (l : AssetLoader) : Except AssetError Unit × σ × List Log.Event → Loading σ
  | (.error e, s, log) => ⟨.error e, l, s, log⟩
  | (.ok (), s, log) => ⟨.ok true, { l with isLoaded := true }, s, log⟩

namespace AssetLoader

theorem load_of_isLoaded {l : AssetLoader} (hloaded : l.isLoaded = true) (disk : Disk) (s : σ) :
    l.load disk s = ⟨.ok false, l, s, [alreadyEvent]⟩ := by
  simp only [load, hloaded, if_true]

theorem load_of_missing {l : AssetLoader} (hfresh : l.isLoaded = false) {disk : Disk} {path : Path}
    (hmissing : l.settings.scriptPaths.find? (!disk.isFile ·) = some path) (s : σ) :
    l.load disk s = ⟨.error (.notFound path), l, s, []⟩ := by
  simp only [load, hfresh, hmissing, Bool.false_eq_true, if_false]

theorem load_of_found {l : AssetLoader} (hfresh : l.isLoaded = false) {disk : Disk}
    (hfound : l.settings.scriptPaths.find? (!disk.isFile ·) = none) (s : σ) :
    l.load disk s
      = .ofWalk l (injectAll disk l.settings.verbose l.settings.scriptPaths s) := by
  rcases hwalk : injectAll disk l.settings.verbose l.settings.scriptPaths s with ⟨e | _, s', log⟩
  · simp only [load, hfresh, hfound, hwalk, Bool.false_eq_true, if_false, Loading.ofWalk]
  · simp only [load, hfresh, hfound, hwalk, Bool.false_eq_true, if_false, Loading.ofWalk]

end AssetLoader

/-! ## Surfaces with something added -/

section
variable {τ : Type} [Surface τ]

/-- **A view of a surface**: seen through it, every injection is one into the surface seen. -/
def IsView (view : τ → σ) : Prop :=
  ∀ (t : τ) (path : Path) (source : String),
    Surface.inject (view t) path source
      = ((Surface.inject t path source).1, view (Surface.inject t path source).2)

/-- The loading of the surface seen. -/
def Loading.map (view : τ → σ) (r : Loading τ) : Loading σ :=
  ⟨r.answer, r.loader, view r.surface, r.log⟩

namespace AssetLoader

theorem injectAll_view {view : τ → σ} (hview : IsView view) (disk : Disk) (verbose : Bool)
    (paths : List Path) (t : τ) :
    injectAll disk verbose paths (view t)
      = ((injectAll disk verbose paths t).1, view (injectAll disk verbose paths t).2.1,
          (injectAll disk verbose paths t).2.2) := by
  induction paths generalizing t with
  | nil => rfl
  | cons path paths ih =>
      cases hread : disk.readText path with
      | error fault => simp only [injectAll, hread]
      | ok source =>
          have hseen := hview t path source
          rcases hinject : Surface.inject t path source with ⟨e | _, t'⟩
          · rw [hinject] at hseen
            simp only [injectAll, hread, hinject, hseen]
          · rw [hinject] at hseen
            simp only [injectAll, hread, hinject, hseen, ih t']

/-- **A loading is seen as a loading.** -/
theorem load_view {view : τ → σ} (hview : IsView view) (l : AssetLoader) (disk : Disk) (t : τ) :
    (l.load disk t).map view = l.load disk (view t) := by
  cases hloaded : l.isLoaded with
  | true =>
      rw [load_of_isLoaded hloaded, load_of_isLoaded hloaded]
      rfl
  | false =>
      cases hmissing : l.settings.scriptPaths.find? (!disk.isFile ·) with
      | some path =>
          rw [load_of_missing hloaded hmissing, load_of_missing hloaded hmissing]
          rfl
      | none =>
          rw [load_of_found hloaded hmissing, load_of_found hloaded hmissing,
            injectAll_view hview]
          rcases injectAll disk l.settings.verbose l.settings.scriptPaths t with ⟨e | _, t', log⟩
          · rfl
          · rfl

end AssetLoader

end

/-! ## Watching a surface -/

/-- **A surface that is watched.** -/
structure Watched (σ : Type) where
  /-- The surface. -/
  surface : σ
  /-- The scripts that it took in while it was watched, in this order. -/
  taken : List (Path × String) := []

/-- **Hands a script to the surface** and notes it when it is taken in. -/
def Watched.inject (w : Watched σ) (path : Path) (source : String) :
    Except AssetError Unit × Watched σ :=
  match Surface.inject w.surface path source with
  | (.ok (), surface) => (.ok (), ⟨surface, w.taken ++ [(path, source)]⟩)
  | (.error e, surface) => (.error e, ⟨surface, w.taken⟩)

instance : Surface (Watched σ) := ⟨Watched.inject⟩

theorem Watched.inject_of_ok (w : Watched σ) {path : Path} {source : String} {surface : σ}
    (h : Surface.inject w.surface path source = (.ok (), surface)) :
    Surface.inject w path source = (.ok (), ⟨surface, w.taken ++ [(path, source)]⟩) := by
  simp only [Surface.inject, Watched.inject, h]

theorem Watched.inject_of_error (w : Watched σ) {path : Path} {source : String} {e : AssetError}
    {surface : σ} (h : Surface.inject w.surface path source = (.error e, surface)) :
    Surface.inject w path source = (.error e, ⟨surface, w.taken⟩) := by
  simp only [Surface.inject, Watched.inject, h]

/-- The loading as it looks when nobody watches. -/
def Loading.unwatched (r : Loading (Watched σ)) : Loading σ :=
  ⟨r.answer, r.loader, r.surface.surface, r.log⟩

/-- The paths of the scripts that were taken in. -/
def Loading.paths (r : Loading (Watched σ)) : List Path := r.surface.taken.map Prod.fst

theorem Watched.isView : IsView (Watched.surface : Watched σ → σ) := by
  intro w path source
  rcases hinject : Surface.inject w.surface path source with ⟨e | _, surface⟩
  · rw [w.inject_of_error hinject]
  · rw [w.inject_of_ok hinject]

/-- **Nobody notices that a surface is watched.** -/
theorem AssetLoader.unwatched_load (l : AssetLoader) (disk : Disk) (w : Watched σ) :
    (l.load disk w).unwatched = l.load disk w.surface :=
  l.load_view Watched.isView disk w

/-! ## Reading and handing over -/

/-- **The scripts under these paths**, with the texts that are on the disk. -/
structure Sources (disk : Disk) (paths : List Path) (scripts : List (Path × String)) : Prop where
  /-- One for each path, in this order. -/
  paths_eq : scripts.map Prod.fst = paths
  /-- Each with its text. -/
  read : ∀ script ∈ scripts, disk.readText script.1 = .ok script.2

/-- **A surface takes in these scripts**, one after the other, and becomes this one. -/
inductive TakesIn : σ → List (Path × String) → σ → Prop
  /-- There are no scripts to take in. -/
  | nil (s : σ) : TakesIn s [] s
  /-- The first script is taken in, and then the others are. -/
  | cons {s s' s'' : σ} {path : Path} {source : String} {scripts : List (Path × String)} :
      Surface.inject s path source = (.ok (), s') → TakesIn s' scripts s'' →
      TakesIn s ((path, source) :: scripts) s''

/-- **Why no more scripts are taken in**, from this path on, and what becomes of the surface. -/
inductive Stop (disk : Disk) (path : Path) (s : σ) : AssetError → σ → Prop
  /-- The file cannot be read. -/
  | unreadable {fault : Files.Fault} :
      disk.readText path = .error fault → Stop disk path s (.unreadable path fault) s
  /-- The surface refuses what is in it. -/
  | refused {source : String} {e : AssetError} {s' : σ} :
      disk.readText path = .ok source → Surface.inject s path source = (.error e, s') →
      Stop disk path s e s'

theorem Sources.nil (disk : Disk) : Sources disk [] [] := ⟨rfl, by simp⟩

theorem Sources.cons {disk : Disk} {path : Path} {source : String} {paths : List Path}
    {scripts : List (Path × String)} (hread : disk.readText path = .ok source)
    (h : Sources disk paths scripts) : Sources disk (path :: paths) ((path, source) :: scripts) :=
  ⟨by rw [List.map_cons, h.paths_eq], List.forall_mem_cons.2 ⟨hread, h.read⟩⟩

theorem Sources.of_mem {disk : Disk} {paths : List Path} {scripts : List (Path × String)}
    (h : Sources disk paths scripts) {script : Path × String} (hscript : script ∈ scripts) :
    script.1 ∈ paths ∧ disk.readText script.1 = .ok script.2 := by
  refine ⟨?_, h.read script hscript⟩
  rw [← h.paths_eq]
  exact List.mem_map_of_mem hscript

/-- **The note of a watched surface says what was taken in.** -/
theorem TakesIn.watched {w w' : Watched σ} {scripts : List (Path × String)}
    (h : TakesIn w scripts w') :
    TakesIn w.surface scripts w'.surface ∧ w'.taken = w.taken ++ scripts := by
  induction h with
  | nil w => exact ⟨.nil _, (List.append_nil _).symm⟩
  | @cons w w' w'' path source scripts htaken _ ih =>
      obtain ⟨hlater, hnote⟩ := ih
      rcases hinject : Surface.inject w.surface path source with ⟨e | _, surface⟩
      · rw [w.inject_of_error hinject] at htaken
        cases htaken
      · rw [w.inject_of_ok hinject] at htaken
        cases htaken
        refine ⟨.cons hinject hlater, ?_⟩
        rw [hnote, List.append_assoc, List.singleton_append]

theorem Stop.watched {disk : Disk} {path : Path} {w w' : Watched σ} {e : AssetError}
    (h : Stop disk path w e w') :
    Stop disk path w.surface e w'.surface ∧ w'.taken = w.taken := by
  cases h with
  | unreadable hread => exact ⟨.unreadable hread, rfl⟩
  | @refused source e w' hread hrefused =>
      rcases hinject : Surface.inject w.surface path source with ⟨e' | _, surface⟩
      · rw [w.inject_of_error hinject] at hrefused
        cases hrefused
        exact ⟨.refused hread hinject, rfl⟩
      · rw [w.inject_of_ok hinject] at hrefused
        cases hrefused

namespace AssetLoader

/-- **The walk takes in all scripts or those before some path.** -/
theorem injectAll_cases (disk : Disk) (verbose : Bool) (paths : List Path) (s : σ) :
    (∃ scripts s', Sources disk paths scripts ∧ TakesIn s scripts s'
      ∧ injectAll disk verbose paths s = (.ok (), s', paths.map (loadingEvent verbose)))
    ∨ ∃ front path rest scripts before e s', paths = front ++ path :: rest
      ∧ Sources disk front scripts ∧ TakesIn s scripts before
      ∧ Stop disk path before e s'
      ∧ injectAll disk verbose paths s
          = (.error e, s', (front ++ [path]).map (loadingEvent verbose)) := by
  induction paths generalizing s with
  | nil => exact .inl ⟨[], s, .nil disk, .nil s, rfl⟩
  | cons path paths ih =>
      cases hread : disk.readText path with
      | error fault =>
          refine .inr ⟨[], path, paths, [], s, .unreadable path fault, s, rfl, .nil disk,
            .nil s, .unreadable hread, ?_⟩
          simp only [injectAll, hread]
          rfl
      | ok source =>
          rcases hinject : Surface.inject s path source with ⟨e | _, s'⟩
          · refine .inr ⟨[], path, paths, [], s, e, s', rfl, .nil disk, .nil s,
              .refused hread hinject, ?_⟩
            simp only [injectAll, hread, hinject]
            rfl
          · -- This script is taken in, and what comes of the others comes of all.
            rcases ih s' with
              ⟨scripts, s'', hsources, htaken, hall⟩
              | ⟨front, stop, rest, scripts, before, e, s'', rfl, hsources, htaken, hstop, hall⟩
            · refine .inl ⟨(path, source) :: scripts, s'', hsources.cons hread,
                .cons hinject htaken, ?_⟩
              simp only [injectAll, hread, hinject, hall, List.map_cons]
            · refine .inr ⟨path :: front, stop, rest, (path, source) :: scripts, before, e, s'',
                rfl, hsources.cons hread, .cons hinject htaken, hstop, ?_⟩
              simp only [injectAll, hread, hinject, hall, List.cons_append, List.map_cons]

/-! ## One loading -/

/-- **How a loading ends.** -/
inductive Ends (l : AssetLoader) (disk : Disk) (s : σ) : Loading σ → Prop
  /-- The scripts had been loaded before. -/
  | again : l.isLoaded = true → Ends l disk s ⟨.ok false, l, s, [alreadyEvent]⟩
  /-- A file is missing, and it is the first one that is. -/
  | missing {path : Path} : l.isLoaded = false →
      l.settings.scriptPaths.find? (!disk.isFile ·) = some path →
      Ends l disk s ⟨.error (.notFound path), l, s, []⟩
  /-- All files are there, and those before some path are taken in. -/
  | stopped {front : List Path} {path : Path} {rest : List Path}
      {scripts : List (Path × String)} {before s' : σ} {e : AssetError} :
      l.isLoaded = false → (∀ path ∈ l.settings.scriptPaths, disk.isFile path = true) →
      l.settings.scriptPaths = front ++ path :: rest → Sources disk front scripts →
      TakesIn s scripts before → Stop disk path before e s' →
      Ends l disk s
        ⟨.error e, l, s', (front ++ [path]).map (loadingEvent l.settings.verbose)⟩
  /-- All files are there, and all are taken in. -/
  | loaded {scripts : List (Path × String)} {s' : σ} :
      l.isLoaded = false → (∀ path ∈ l.settings.scriptPaths, disk.isFile path = true) →
      Sources disk l.settings.scriptPaths scripts → TakesIn s scripts s' →
      Ends l disk s
        ⟨.ok true, { l with isLoaded := true }, s',
          l.settings.scriptPaths.map (loadingEvent l.settings.verbose)⟩

/-- **A loading ends in one of the four ways.** -/
theorem load_spec (l : AssetLoader) (disk : Disk) (s : σ) : l.Ends disk s (l.load disk s) := by
  cases hloaded : l.isLoaded with
  | true =>
      rw [load_of_isLoaded hloaded]
      exact .again hloaded
  | false =>
      cases hmissing : l.settings.scriptPaths.find? (!disk.isFile ·) with
      | some path =>
          rw [load_of_missing hloaded hmissing]
          exact .missing hloaded hmissing
      | none =>
          have hfiles : ∀ path ∈ l.settings.scriptPaths, disk.isFile path = true := by
            simpa [List.find?_eq_none] using hmissing
          rw [load_of_found hloaded hmissing]
          rcases injectAll_cases disk l.settings.verbose l.settings.scriptPaths s with
            ⟨scripts, s', hsources, htaken, hall⟩
            | ⟨front, path, rest, scripts, before, e, s', hpaths, hsources, htaken, hstop, hall⟩
          · rw [hall]
            exact .loaded hloaded hfiles hsources htaken
          · rw [hall]
            exact .stopped hloaded hfiles hpaths hsources htaken hstop

end AssetLoader

end ViewLink
