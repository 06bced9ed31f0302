import Loading.Command.Layers

/-!
# Running a command line

From parsed arguments, an environment and a view of files to the lines to print.
The flags override the environment, and native libraries that the command loads
are unloaded again.

* `Arguments.run` — the lines or the error of a command line.
* `Arguments.paths` — the paths that it looks at, known before it runs.
* `Report.ofWords` — all that the program leaves behind.
-/

namespace Loading.Arguments

/-- What is wrong with the layers, if anything. -/
def fault? (a : Arguments) (fs : FileSystem) : Option CommandError :=
  if a.options.layers.isEmpty then some .noLayers
  else (a.options.layers.find? fun dir => !fs.isDirectory dir).map .notADirectory

/-- The search path of the flags; a missing one is taken from the environment. -/
def searchPath (a : Arguments) (env : Environment) : SearchPath :=
  .ofLists (a.options.systemLibraryPath.or (env systemLibraryPathVar))
    (a.options.libraryPath.or (env userLibraryPathVar))

/-- The settings of the environment, with the flag laid over them. -/
def config (a : Arguments) (env : Environment) : Config :=
  let config := Config.ofEnvironment env
  if a.options.allowReservedPrefix then config.withAllowReservedPrefix true else config

/-- Builds the layers, executes the command and lets go of everything; the answer
comes with the world that is left. -/
def runIn (a : Arguments) (env : Environment) (fs : FileSystem) :
    Except CommandError (List String) × World :=
  let context : Context := { config := a.config env, search := a.searchPath env }
  match Surroundings.run (Layers.build context a.options.layers) {} { files := fs } with
  | (.error e, w, _) => (.error e, w)
  | (.ok layers, w, e) =>
      let e := { e with finders := layers.finders a.options.layers a.options.libraryDir }
      let (result, w, e) := e.run (layers.execute a.command) w
      let (_, w, _) := e.run layers.close w
      (result, w)

/-- Runs a command line: its layers must be directories. -/
def run (a : Arguments) (env : Environment) (fs : FileSystem) :
    Except CommandError (List String) :=
  match a.fault? fs with
  | some e => .error e
  | none => (a.runIn env fs).1

/-- The paths at which a command line may look: its layers, and where what it asks
for may lie. -/
def paths (a : Arguments) (env : Environment) : List String :=
  let places : Directory := ⟨a.options.layers, a.options.libraryDir⟩
  a.options.layers ++
    match a.command with
    | .resolve name _ => places.modulePaths name
    | .loadLibrary name => (places.libraryPath? name).toList ++ (a.searchPath env).candidates name
    | .resource name _ => places.resourcePaths name

end Loading.Arguments

namespace Loading

/-- What a program leaves behind: its exit code and what it wrote. -/
structure Report where
  /-- The exit code. -/
  code : Nat
  /-- What it wrote to standard output. -/
  output : String := ""
  /-- What it wrote to standard error. -/
  errors : String := ""
  deriving Repr, DecidableEq, Inhabited

/-- What the program leaves behind for a result: the lines, or the error. -/
def Report.ofResult : Except CommandError (List String) → Report
  | .ok lines => { code := 0, output := String.join (lines.map (· ++ "\n")) }
  | .error e => { code := 1, errors := "Error: " ++ e.message ++ "\n" }

/-- What the program leaves behind for the words of a command line.  Bad usage
has a code of its own, and help is no failure. -/
def Report.ofWords (words : List String) (env : Environment) (fs : FileSystem) :
    Except UsageError Report :=
  (Arguments.parse words).map fun a => .ofResult (a.run env fs)

end Loading
