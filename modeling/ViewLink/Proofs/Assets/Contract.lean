import ViewLink.Proofs.Assets.Sessions

/-!
# Each loading of a session

What a loading does depends on the files and the surface as they are at that time, and on one thing
from the past, which is whether a loading before it has succeeded. So a session is cut in front of
the loading in question. `AssetLoader.after` says what has become of the loader and the surface by
then, and `isLoaded_after` that the loader is loaded exactly if it was from the start or an earlier
loading has answered so.

`loading_of_session` puts this together with the four ways in which a loading ends. It holds for
every place in every session, so the files may come and go between the loadings, and the surface may
refuse any script at any time.

How the loader logs what it does makes no difference to what it does
(`session_withVerbose`): only the levels of the log events differ.

## Main definitions

* `AssetLoader.after` — the loader and the surface after some loadings;
* `Loading.unleveled` — a loading without the levels of its log events.
-/

set_option autoImplicit false

namespace ViewLink

open Files (Path Disk)

variable {σ : Type}

/-- The event without its level. -/
def Log.Event.unleveled (event : Log.Event) : String × String × List (String × Log.Field) :=
  (event.target, event.message, event.fields)

/-- **A loading without the levels of its log events**, and without the verbosity of its loader. -/
def Loading.unleveled (r : Loading σ) :
    Except AssetError Bool × Bool × σ × List (String × String × List (String × Log.Field)) :=
  (r.answer, r.loader.isLoaded, r.surface, r.log.map Log.Event.unleveled)

namespace AssetLoader

variable [Surface σ]

/-! ## What a loading leaves behind -/

/-- **What becomes of the loader.** It keeps its settings, and it is loaded from now on if it was so
before or is so by this loading. -/
theorem Ends.loader_eq {l : AssetLoader} {disk : Disk} {s : σ} {r : Loading σ}
    (h : l.Ends disk s r) : r.loader.settings = l.settings
      ∧ (r.loader.isLoaded = true ↔ l.isLoaded = true ∨ r.answer = .ok true) := by
  cases h with
  | again hloaded => simp [hloaded]
  | missing hfresh hmissing => simp [hfresh]
  | stopped hfresh hfiles hpaths hsources htaken hstop => simp [hfresh]
  | loaded hfresh hfiles hsources htaken => simp

theorem Ends.of_isLoaded {l : AssetLoader} {disk : Disk} {s : σ} {r : Loading σ}
    (h : l.Ends disk s r) (hloaded : l.isLoaded = true) : r.answer = .ok false ∧ r.surface = s := by
  cases h with
  | again _ => exact ⟨rfl, rfl⟩
  | missing hfresh => simp [hloaded] at hfresh
  | stopped hfresh => simp [hloaded] at hfresh
  | loaded hfresh => simp [hloaded] at hfresh

theorem Ends.of_missing {l : AssetLoader} {disk : Disk} {s : σ} {r : Loading σ}
    (h : l.Ends disk s r) (hfresh : l.isLoaded = false) {path : Path}
    (hmissing : l.settings.scriptPaths.find? (!disk.isFile ·) = some path) :
    r.answer = .error (.notFound path) ∧ r.surface = s := by
  have hnot : ¬ ∀ p ∈ l.settings.scriptPaths, disk.isFile p = true := by
    intro hfiles
    have hpath := List.find?_some hmissing
    simp [hfiles path (List.mem_of_find?_eq_some hmissing)] at hpath
  cases h with
  | again hloaded => simp [hfresh] at hloaded
  | missing _ hmissing' =>
      rw [hmissing] at hmissing'
      cases hmissing'
      exact ⟨rfl, rfl⟩
  | stopped _ hfiles => exact absurd hfiles hnot
  | loaded _ hfiles => exact absurd hfiles hnot

/-- All files are there. The note of the surface tells the scripts before the first that fails. -/
theorem Ends.of_isFile {l : AssetLoader} {disk : Disk} {s : σ} {r : Loading (Watched σ)}
    (h : l.Ends disk (⟨s, []⟩ : Watched σ) r) (hfresh : l.isLoaded = false)
    (hfiles : ∀ path ∈ l.settings.scriptPaths, disk.isFile path = true) :
    (r.answer = .ok true ∧ Sources disk l.settings.scriptPaths r.surface.taken
        ∧ TakesIn s r.surface.taken r.surface.surface)
      ∨ ∃ front path rest before e, l.settings.scriptPaths = front ++ path :: rest
          ∧ Sources disk front r.surface.taken ∧ TakesIn s r.surface.taken before
          ∧ Stop disk path before e r.surface.surface ∧ r.answer = .error e := by
  cases h with
  | again hloaded => simp [hfresh] at hloaded
  | @missing path _ hmissing =>
      have hpath := List.find?_some hmissing
      simp [hfiles path (List.mem_of_find?_eq_some hmissing)] at hpath
  | @stopped front path rest scripts before w e _ _ hpaths hsources htaken hstop =>
      obtain ⟨hplain, hnote⟩ := htaken.watched
      obtain ⟨hhalt, hkept⟩ := hstop.watched
      have hscripts : w.taken = scripts := by rw [hkept, hnote, List.nil_append]
      refine .inr ⟨front, path, rest, before.surface, e, hpaths, ?_, ?_, hhalt, rfl⟩
      · rw [hscripts]
        exact hsources
      · rw [hscripts]
        exact hplain
  | @loaded scripts w _ _ hsources htaken =>
      obtain ⟨hplain, hnote⟩ := htaken.watched
      have hscripts : w.taken = scripts := by rw [hnote, List.nil_append]
      refine .inl ⟨rfl, ?_, ?_⟩
      · rw [hscripts]
        exact hsources
      · rw [hscripts]
        exact hplain

/-! ## The state between two loadings -/

/-- **The loader and the surface after some loadings.** -/
def after (l : AssetLoader) (s : σ) : List (Attempt σ) → AssetLoader × σ
  | [] => (l, s)
  | attempt :: attempts =>
    let result := l.load attempt.disk (attempt.change s)
    result.loader.after result.surface attempts

theorem session_append (l : AssetLoader) (s : σ) (earlier later : List (Attempt σ)) :
    l.session s (earlier ++ later)
      = l.session s earlier
          ++ (l.after s earlier).1.session (l.after s earlier).2 later := by
  induction earlier generalizing l s with
  | nil => rfl
  | cons attempt attempts ih =>
      rw [List.cons_append, session, ih]
      rfl

theorem settings_after (l : AssetLoader) (s : σ) (attempts : List (Attempt σ)) :
    (l.after s attempts).1.settings = l.settings := by
  induction attempts generalizing l s with
  | nil => rfl
  | cons attempt attempts ih =>
      have hstep := (l.load_spec attempt.disk (attempt.change s)).loader_eq
      rw [after, ih]
      exact hstep.1

/-- **A loader is loaded if it was so from the start or a loading has answered so.** -/
theorem isLoaded_after (l : AssetLoader) (s : σ) (attempts : List (Attempt σ)) :
    (l.after s attempts).1.isLoaded = true
      ↔ l.isLoaded = true ∨ ∃ r ∈ l.session s attempts, r.answer = .ok true := by
  induction attempts generalizing l s with
  | nil => simp [after, session]
  | cons attempt attempts ih =>
      have hstep := (l.load_spec attempt.disk (attempt.change s)).loader_eq
      rw [after, ih, hstep.2, session, or_assoc]
      simp

/-- **At most one loading of a session answers that the scripts are loaded now.** -/
theorem session_loads_once (l : AssetLoader) (s : σ) (attempts : List (Attempt σ)) :
    (l.session s attempts).Pairwise fun r r' => r.answer = .ok true → r'.answer = .ok false := by
  have hwatched := (l.session_pairwise (⟨s, []⟩ : Watched σ) attempts)
  rw [← unwatched_watchedSession l (⟨s, []⟩ : Watched σ) attempts, List.pairwise_map]
  exact hwatched.imp fun h hr => (h hr).1

/-! ## How loud the loader is -/

theorem injectAll_verbose (disk : Disk) (verbose verbose' : Bool) (paths : List Path) (s : σ) :
    ∃ answer s' log log', injectAll disk verbose paths s = (answer, s', log)
      ∧ injectAll disk verbose' paths s = (answer, s', log')
      ∧ log.map Log.Event.unleveled = log'.map Log.Event.unleveled := by
  induction paths generalizing s with
  | nil => exact ⟨.ok (), s, [], [], rfl, rfl, rfl⟩
  | cons path paths ih =>
      cases hread : disk.readText path with
      | error fault =>
          refine ⟨.error (.unreadable path fault), s, [loadingEvent verbose path],
            [loadingEvent verbose' path], ?_, ?_, rfl⟩ <;> simp only [injectAll, hread]
      | ok source =>
          rcases hinject : Surface.inject s path source with ⟨e | _, s'⟩
          · refine ⟨.error e, s', [loadingEvent verbose path], [loadingEvent verbose' path],
              ?_, ?_, rfl⟩ <;> simp only [injectAll, hread, hinject]
          · obtain ⟨answer, s'', log, log', hrun, hrun', hlog⟩ := ih s'
            refine ⟨answer, s'', loadingEvent verbose path :: log,
              loadingEvent verbose' path :: log', ?_, ?_, ?_⟩
            · simp only [injectAll, hread, hinject, hrun]
            · simp only [injectAll, hread, hinject, hrun']
            · rw [List.map_cons, List.map_cons, hlog]
              rfl

/-- **Verbosity makes no difference to a loading**, and it is all that differs in the loader. -/
theorem load_withVerbose (l : AssetLoader) (verbose : Bool) (disk : Disk) (s : σ) :
    ((l.withVerbose verbose).load disk s).unleveled = (l.load disk s).unleveled
      ∧ ((l.withVerbose verbose).load disk s).loader
          = (l.load disk s).loader.withVerbose verbose := by
  cases hloaded : l.isLoaded with
  | true =>
      have hloaded' : (l.withVerbose verbose).isLoaded = true := hloaded
      rw [load_of_isLoaded hloaded, load_of_isLoaded hloaded']
      exact ⟨rfl, rfl⟩
  | false =>
      have hloaded' : (l.withVerbose verbose).isLoaded = false := hloaded
      cases hmissing : l.settings.scriptPaths.find? (!disk.isFile ·) with
      | some path =>
          rw [load_of_missing hloaded hmissing, load_of_missing hloaded' hmissing]
          exact ⟨rfl, rfl⟩
      | none =>
          obtain ⟨answer, s', log, log', hrun, hrun', hlog⟩ :=
            injectAll_verbose disk l.settings.verbose verbose l.settings.scriptPaths s
          have hrun' : injectAll disk (l.withVerbose verbose).settings.verbose
              (l.withVerbose verbose).settings.scriptPaths s = (answer, s', log') := hrun'
          rw [load_of_found hloaded hmissing, load_of_found hloaded' hmissing, hrun, hrun']
          cases answer with
          | error e => exact ⟨by simp only [Loading.ofWalk, Loading.unleveled, hlog]; rfl, rfl⟩
          | ok _ => exact ⟨by simp only [Loading.ofWalk, Loading.unleveled, hlog], rfl⟩

theorem session_withVerbose (l : AssetLoader) (verbose : Bool) (s : σ)
    (attempts : List (Attempt σ)) :
    ((l.withVerbose verbose).session s attempts).map Loading.unleveled
      = (l.session s attempts).map Loading.unleveled := by
  induction attempts generalizing l s with
  | nil => rfl
  | cons attempt attempts ih =>
      obtain ⟨hload, hloader⟩ := l.load_withVerbose verbose attempt.disk (attempt.change s)
      have hsurface : ((l.withVerbose verbose).load attempt.disk (attempt.change s)).surface
          = (l.load attempt.disk (attempt.change s)).surface := congrArg (fun u => u.2.2.1) hload
      rw [session, session, List.map_cons, List.map_cons, hload, hloader, hsurface, ih]

/-! ## The contract -/

/-- **What a loading does, at any place of any session.** The scripts are the configured ones, each
in the configured directory. Once a loading has succeeded, those after it answer so and leave the
surface alone. Before that, the first path that is not a file is reported and nothing is injected.
If all are files, the scripts are injected in their order, either all of them or those before the
first one that cannot be read or is refused. Of a whole session at most one loading succeeds, and
verbosity shows in the levels of the log alone. -/
theorem loading_of_session (l : AssetLoader) (surface : σ) (earlier : List (Attempt σ))
    (attempt : Attempt σ) (later : List (Attempt σ)) :
    let paths := l.settings.scripts.map l.settings.directory.join
    let runs := l.session surface earlier
    let start := l.after surface earlier
    let s := attempt.change start.2
    let disk := attempt.disk
    let r := start.1.load disk (⟨s, []⟩ : Watched σ)
    let whole := l.session surface (earlier ++ attempt :: later)
    let done := l.isLoaded = true ∨ ∃ run ∈ runs, run.answer = .ok true
    start.1.settings.scriptPaths = paths
      ∧ whole = runs ++ r.unwatched :: r.loader.session r.surface.surface later
      ∧ (r.loader.isLoaded = true ↔ done ∨ r.answer = .ok true)
      ∧ (done → r.answer = .ok false ∧ r.surface = ⟨s, []⟩)
      ∧ (¬ done → ∀ path, paths.find? (!disk.isFile ·) = some path →
          r.answer = .error (.notFound path) ∧ r.surface = ⟨s, []⟩)
      ∧ (¬ done → (∀ path ∈ paths, disk.isFile path = true) →
          (r.answer = .ok true ∧ Sources disk paths r.surface.taken
              ∧ TakesIn s r.surface.taken r.surface.surface)
          ∨ ∃ front path rest before e, paths = front ++ path :: rest
              ∧ Sources disk front r.surface.taken ∧ TakesIn s r.surface.taken before
              ∧ Stop disk path before e r.surface.surface ∧ r.answer = .error e)
      ∧ (whole.Pairwise fun r r' => r.answer = .ok true → r'.answer = .ok false)
      ∧ ∀ verbose, (({ l with settings.verbose := verbose } : AssetLoader).session surface
          (earlier ++ attempt :: later)).map Loading.unleveled = whole.map Loading.unleveled := by
  intro paths runs start s disk r whole done
  have hends : start.1.Ends disk (⟨s, []⟩ : Watched σ) r := start.1.load_spec disk _
  have hsettings : start.1.settings = l.settings := l.settings_after surface earlier
  have hdone : start.1.isLoaded = true ↔ done := l.isLoaded_after surface earlier
  have hpaths : start.1.settings.scriptPaths = paths := by
    rw [hsettings]
    rfl
  have hnot : ¬ done → start.1.isLoaded = false := by
    intro hfresh
    exact Bool.eq_false_iff.2 fun hloaded => hfresh (hdone.1 hloaded)
  refine ⟨hpaths, ?_, ?_, ?_, ?_, ?_, ?_, ?_⟩
  · have hplain : r.unwatched = start.1.load disk s := start.1.unwatched_load disk ⟨s, []⟩
    calc whole
        = runs ++ start.1.session start.2 (attempt :: later) :=
          l.session_append surface earlier (attempt :: later)
      _ = runs ++ start.1.load disk s ::
            (start.1.load disk s).loader.session (start.1.load disk s).surface later := rfl
      _ = runs ++ r.unwatched :: r.loader.session r.surface.surface later := by
          rw [← hplain]
          rfl
  · rw [hends.loader_eq.2, hdone]
  · intro hbefore
    exact hends.of_isLoaded (hdone.2 hbefore)
  · intro hfresh path hmissing
    rw [← hpaths] at hmissing
    exact hends.of_missing (hnot hfresh) hmissing
  · intro hfresh hfiles
    rw [← hpaths] at hfiles ⊢
    exact hends.of_isFile (hnot hfresh) hfiles
  · exact l.session_loads_once surface _
  · intro verbose
    exact l.session_withVerbose verbose surface _

/-- One of two scripts is missing at first, and then the surface refuses it. The loading after that
takes in both, the first one again, and the last loading takes in nothing. -/
theorem loading_of_retriedScripts :
    let l : AssetLoader := { settings := { directory := ⟨"js"⟩, scripts := ["a.js", "b.js"] } }
    let surface : RecordingSurface := { refusal := some (1, "full") }
    let lacking : Attempt RecordingSurface := ⟨(Files.Tree.empty.write ⟨"js/a.js"⟩ [97]).disk, id⟩
    let found : Attempt RecordingSurface := ⟨pairDisk, id⟩
    let run := fun (earlier : List (Attempt RecordingSurface))
        (attempt : Attempt RecordingSurface) =>
      (l.after surface earlier).1.load attempt.disk
        (⟨attempt.change (l.after surface earlier).2, []⟩ : Watched RecordingSurface)
    let missing := run [] lacking
    let refused := run [lacking] found
    let retried := run [lacking, found] found
    let again := run [lacking, found, found] found
    l.settings.scriptPaths = [⟨"js/a.js"⟩, ⟨"js/b.js"⟩]
      ∧ (missing.answer = .error (.notFound ⟨"js/b.js"⟩) ∧ missing.surface.taken = [])
      ∧ (refused.answer = .error (.refused ⟨"js/b.js"⟩ "full")
        ∧ refused.surface.taken = [(⟨"js/a.js"⟩, "a")]
        ∧ ∃ before, Stop pairDisk ⟨"js/b.js"⟩ before (.refused ⟨"js/b.js"⟩ "full")
            refused.surface.surface)
      ∧ (retried.answer = .ok true
        ∧ retried.surface.taken = [(⟨"js/a.js"⟩, "a"), (⟨"js/b.js"⟩, "b")]
        ∧ Sources pairDisk [⟨"js/a.js"⟩, ⟨"js/b.js"⟩] retried.surface.taken
        ∧ retried.loader.isLoaded = true)
      ∧ again.answer = .ok false ∧ again.surface.taken = [] := by
  intro l surface lacking found run missing refused retried again
  obtain ⟨hscripts, -, -, -, hmissing, -⟩ :=
    l.loading_of_session surface [] lacking [found, found, found]
  obtain ⟨-, -, -, -, -, hrefused, -⟩ :=
    l.loading_of_session surface [lacking] found [found, found]
  obtain ⟨-, -, hloaded, -, -, hretried, -⟩ :=
    l.loading_of_session surface [lacking, found] found [found]
  obtain ⟨-, -, -, hagain, -⟩ := l.loading_of_session surface [lacking, found, found] found []
  have hjoin : l.settings.scripts.map l.settings.directory.join
      = [⟨"js/a.js"⟩, ⟨"js/b.js"⟩] := by decide +kernel
  have hrefusal : refused.answer = .error (.refused ⟨"js/b.js"⟩ "full") := by decide +kernel
  have hfirst : refused.surface.taken = [(⟨"js/a.js"⟩, "a")] := by decide +kernel
  have hsuccess : retried.answer = .ok true := by decide +kernel
  have hboth : retried.surface.taken = [(⟨"js/a.js"⟩, "a"), (⟨"js/b.js"⟩, "b")] := by
    decide +kernel
  refine ⟨hscripts.trans hjoin, ?_, ⟨hrefusal, hfirst, ?_⟩,
    ⟨hsuccess, hboth, ?_, hloaded.2 (.inr hsuccess)⟩, ?_⟩
  · obtain ⟨hanswer, hsurface⟩ := hmissing (by decide +kernel) ⟨"js/b.js"⟩ (by decide +kernel)
    exact ⟨hanswer, congrArg Watched.taken hsurface⟩
  · rcases hrefused (by decide +kernel) (by decide +kernel) with
      ⟨hok, -⟩ | ⟨front, path, rest, before, e, hpaths, hsources, -, hstop, herror⟩
    · cases hrefusal.symm.trans hok
    · cases hrefusal.symm.trans herror
      -- What was taken in says how far the loading came.
      have hfront : front = [⟨"js/a.js"⟩] := by
        rw [← hsources.paths_eq]
        exact congrArg (List.map Prod.fst) hfirst
      rw [hjoin, hfront] at hpaths
      cases hpaths
      exact ⟨before, hstop⟩
  · rcases hretried (by decide +kernel) (by decide +kernel) with
      ⟨-, hsources, -⟩ | ⟨front, path, rest, before, e, -, -, -, -, herror⟩
    · rw [hjoin] at hsources
      exact hsources
    · cases hsuccess.symm.trans herror
  · obtain ⟨hanswer, hsurface⟩ := hagain (by decide +kernel)
    exact ⟨hanswer, congrArg Watched.taken hsurface⟩

end AssetLoader

end ViewLink
