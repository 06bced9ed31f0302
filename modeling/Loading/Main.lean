import Loading.Command.Run

/-!
# The program

The outermost layer: it takes the words of the command line and the variables of
the environment, looks at the paths that the command is about, and writes the
report.  A file with the header of a shared object counts as a native library.
-/

namespace Loading.Main

/-- How the command line is written. -/
def usage : String :=
  "Usage: modload [OPTIONS] <COMMAND>\n\n" ++
  "Commands:\n" ++
  "  resolve NAME [--link]    Resolve a module through the innermost loader\n" ++
  "  load-library NAME        Load a native library into the innermost loader\n" ++
  "  resource NAME [--all]    Locate a resource through the innermost loader\n\n" ++
  "Options:\n" ++
  "  --layer DIR              Module directory of one more loader, root first\n" ++
  "  --library-dir DIR        Native library directory of the innermost loader\n" ++
  "  --system-library-path PATHS\n" ++
  "  --library-path PATHS\n" ++
  "  --allow-reserved-prefix\n"

/-- The symbols that a file counts as exporting, if it is a shared object. -/
def exportsOf (contents : List UInt8) : Option (List String) :=
  let magic := [0x7F, 0x45, 0x4C, 0x46]
  if contents.take 4 = magic ∧ DynamicLoader.headerSize ≤ contents.length then some [] else none

/-- The number and the reason of a failure to read. -/
def failure : IO.Error → UInt32 × String
  | .noFileOrDirectory _ code reason => (code, reason)
  | .inappropriateType _ code reason => (code, reason)
  | .invalidArgument _ code reason => (code, reason)
  | .permissionDenied _ code reason => (code, reason)
  | .otherError code reason => (code, reason)
  | e => (0, toString e)

/-- What stands where reading failed; the numbers of some failures come negated. -/
def entryOfFailure (e : IO.Error) : Except FileError FileEntry :=
  let (code, reason) := failure e
  let number := if code < 0x80000000 then code.toNat else (0 - code).toNat
  if number = 21 then .ok .directory else .error (.ofNumber number reason)

/-- Looks at a path. -/
def observe (path : String) : IO Observation := do
  let entry ← try
      let contents := (← IO.FS.readBinFile path).toList
      pure (.ok (.file contents (exportsOf contents)))
    catch e => pure (entryOfFailure e)
  let canonical ← try
      let path ← IO.FS.realPath path
      pure (some path.toString)
    catch _ => pure none
  return ⟨entry, canonical⟩

/-- Looks at paths, knows them by their path without links as well, and looks where
the tokens of that path lead. -/
def observeAll (paths : List String) : IO FileSystem := do
  let mut seen : Table String Observation := {}
  for path in paths do
    let seenThere ← observe path
    seen := seen.set path seenThere
    if let some canonical := seenThere.canonical then
      seen := seen.set canonical seenThere
      let place := Machine.expand {} canonical
      if place ≠ canonical then
        let seenBehind ← observe place
        seen := seen.set place seenBehind
  return .ofObservations seen

/-- The variables of the environment that the program reads. -/
def environment : IO Environment := do
  let mut known : Table String String := {}
  for name in [allowReservedPrefixVar, enableAssertionsVar, systemLibraryPathVar,
      userLibraryPathVar] do
    if let some value ← IO.getEnv name then
      known := known.set name value
  return known.find?

end Loading.Main

/-- Runs the program. -/
def main (words : List String) : IO UInt32 := do
  let env ← Loading.Main.environment
  let paths := match Loading.Arguments.parse words with
    | .ok arguments => arguments.paths env
    | .error _ => []
  match Loading.Report.ofWords words env (← Loading.Main.observeAll paths) with
  | .error .help =>
      IO.print Loading.Main.usage
      return 0
  | .error _ =>
      IO.eprint Loading.Main.usage
      return 2
  | .ok report =>
      IO.print report.output
      IO.eprint report.errors
      return UInt32.ofNat report.code
