import ViewLink.Config.Basic
import ViewLink.Files.Tree
import ViewLink.Log.Event

/-!
# Loading the scripts of the front end

Before the front end understands a command it needs its scripts: the library that draws and the
interpreter of the commands. The loader reads them from files and has a surface take them in, one
after the other and once only. It looks for all files before it touches the surface, so a missing
script leaves the surface as it was. A script that cannot be read or is refused ends the loading,
and what was taken in before it stays.

A surface is anything that takes in scripts. `RecordingSurface` stands in for one: it keeps what it
takes in, and it can be told to refuse one script.

## Main definitions

* `AssetError` — why the scripts were not loaded;
* `Surface`, `RecordingSurface` — what takes in scripts;
* `AssetLoader`, `AssetLoader.load` — the loader.
-/

set_option autoImplicit false

namespace ViewLink

open Files (Path Disk)

/-! ## Errors -/

/-- **Why the scripts were not loaded.** -/
inductive AssetError where
  /-- There is no such file. -/
  | notFound (path : Path)
  /-- The file is there and cannot be read. -/
  | unreadable (path : Path) (fault : Files.Fault)
  /-- The surface refused the script. -/
  | refused (path : Path) (reason : String)
  deriving DecidableEq, Repr

/-- The wording of the error, given what the file system has to say. -/
def AssetError.message (explain : Files.Fault → String) : AssetError → String
  | notFound path => "script asset not found: " ++ path.text
  | unreadable path fault =>
    "failed to read script asset '" ++ path.text ++ "': " ++ explain fault
  | refused path reason =>
    "display surface rejected script '" ++ path.text ++ "': " ++ reason

/-- What the error is caused by, given the same. -/
def AssetError.causes (explain : Files.Fault → String) : AssetError → List String
  | notFound _ => []
  | unreadable _ fault => [explain fault]
  | refused _ _ => []

/-! ## Surfaces -/

/-- **A surface** that takes in scripts or refuses them. -/
class Surface (σ : Type) where
  /-- Takes in the script from a path, or refuses it. -/
  inject : σ → Path → String → Except AssetError Unit × σ

/-- **A surface that keeps the scripts it takes in.** -/
structure RecordingSurface where
  /-- The scripts with their paths, in the order in which they were taken in. -/
  scripts : List (Path × String) := []
  /-- The number of scripts before the one that is refused, and the reason. -/
  refusal : Option (Nat × String) := none
  deriving Inhabited

namespace RecordingSurface

/-- **Keeps a script**, unless its turn to be refused has come. It is refused once. -/
def inject (s : RecordingSurface) (path : Path) (source : String) :
    Except AssetError Unit × RecordingSurface :=
  match s.refusal with
  | some (0, reason) => (.error (.refused path reason), { s with refusal := none })
  | some (n + 1, reason) =>
    (.ok (), { s with scripts := s.scripts ++ [(path, source)], refusal := some (n, reason) })
  | none => (.ok (), { s with scripts := s.scripts ++ [(path, source)] })

instance : Surface RecordingSurface := ⟨inject⟩

/-- The first script that was taken in from a path. -/
def source? (s : RecordingSurface) (path : Path) : Option String :=
  (s.scripts.find? (·.1.same path)).map (·.2)

end RecordingSurface

/-! ## The loader -/

/-- **The loader** of the scripts. -/
structure AssetLoader where
  /-- Which scripts it loads. -/
  settings : AssetSettings
  /-- Whether it has loaded them. -/
  isLoaded : Bool := false
  deriving DecidableEq, Repr

/-- **What comes of a loading.** -/
structure Loading (σ : Type) where
  /-- Whether the scripts were loaded by it, or why they were not. -/
  answer : Except AssetError Bool
  /-- The loader afterwards. -/
  loader : AssetLoader
  /-- The surface afterwards. -/
  surface : σ
  /-- What was logged. -/
  log : List Log.Event

namespace AssetLoader

/-- The loader with another verbosity. -/
def withVerbose (l : AssetLoader) (verbose : Bool) : AssetLoader :=
  { l with settings.verbose := verbose }

/-- The part of the library that log events about scripts come from. -/
def logTarget : String := "cytobridge::assets"

/-- The log event before a script is read. -/
def loadingEvent (verbose : Bool) (path : Path) : Log.Event :=
  ⟨if verbose then .info else .debug, logTarget, "loading javascript asset",
    [("path", .text path.text)]⟩

/-- The log event of a loading that has nothing to do. -/
def alreadyEvent : Log.Event := ⟨.debug, logTarget, "scripts already injected", []⟩

/-- **Has a surface take in the scripts from these paths**, up to the first that cannot be read or
is refused. -/
def injectAll {σ : Type} [Surface σ] (disk : Disk) (verbose : Bool) :
    List Path → σ → Except AssetError Unit × σ × List Log.Event
  | [], surface => (.ok (), surface, [])
  | path :: paths, surface =>
    match disk.readText path with
    | .error fault => (.error (.unreadable path fault), surface, [loadingEvent verbose path])
    | .ok source =>
      match Surface.inject surface path source with
      | (.error e, surface) => (.error e, surface, [loadingEvent verbose path])
      | (.ok (), surface) =>
        let (outcome, surface, log) := injectAll disk verbose paths surface
        (outcome, surface, loadingEvent verbose path :: log)

/-- **Loads the scripts into a surface**, unless that has been done. The answer is whether they were
loaded now. -/
def load {σ : Type} [Surface σ] (l : AssetLoader) (disk : Disk) (surface : σ) : Loading σ :=
  if l.isLoaded then ⟨.ok false, l, surface, [alreadyEvent]⟩
  else
    let paths := l.settings.scriptPaths
    match paths.find? (!disk.isFile ·) with
    | some path => ⟨.error (.notFound path), l, surface, []⟩
    | none =>
      match injectAll disk l.settings.verbose paths surface with
      | (.error e, surface, log) => ⟨.error e, l, surface, log⟩
      | (.ok (), surface, log) => ⟨.ok true, { l with isLoaded := true }, surface, log⟩

end AssetLoader

end ViewLink
