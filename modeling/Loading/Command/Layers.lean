import Loading.Command.Arguments
import Loading.World.Lifetime
import Loading.World.Surroundings

/-!
# Layers

A command works on a chain of loaders, one for each layer directory: the first is
the root, each later one lies below the one before, and the innermost receives
every request.

* `Layers.build` — the chain.
* `Layers.execute` — a command on it, with the lines to print.
-/

namespace Loading

/-- Why a command fails. -/
inductive CommandError where
  /-- There is no layer. -/
  | noLayers
  /-- A layer is no directory. -/
  | notADirectory (path : String)
  /-- There is no such resource. -/
  | resourceNotFound (name : String)
  /-- Something went wrong with modules. -/
  | load (e : LoadError)
  /-- Something went wrong with native libraries. -/
  | library (e : LibraryError)
  deriving Repr, DecidableEq

/-- The wording of why a command fails. -/
def CommandError.message : CommandError → String
  | .noLayers => "at least one --layer directory is required"
  | .notADirectory path => path ++ " is not a directory"
  | .resourceNotFound name => "resource " ++ name ++ " not found"
  | .load e => e.message
  | .library e => e.message

/-- A chain of loaders, root first. -/
structure Layers where
  /-- The loaders above the innermost one, root first. -/
  outer : List Loader
  /-- The loader that receives every request. -/
  innermost : Loader
  deriving Repr, DecidableEq, Inhabited

namespace Layers

/-- All loaders of the chain, root first. -/
def loaders (ls : Layers) : List Loader :=
  ls.outer ++ [ls.innermost]

/-- Makes one loader after the other, each below the one before. -/
def chain (context : Context) : Option Loader → List String →
    WorldTask (Except LoadError (List Loader))
  | _, [] => return .ok []
  | parent, _ :: rest => do
      match ← WorldTask.make .base parent context with
      | .error e => return .error e
      | .ok l =>
          match ← chain context (some l) rest with
          | .error e => return .error e
          | .ok ls => return .ok (l :: ls)

/-- Makes the chain for some directories; there must be one. -/
def build (context : Context) (directories : List String) :
    WorldTask (Except CommandError Layers) := do
  match ← chain context none directories with
  | .error e => return .error (.load e)
  | .ok ls =>
      match ls.getLast? with
      | none => return .error .noLayers
      | some innermost => return .ok ⟨ls.dropLast, innermost⟩

/-- The finder of each loader: its own directory, and for the innermost the
directory of native libraries. -/
def finders (ls : Layers) (directories : List String) (libraryDir : Option String) :
    Table LoaderId Directory :=
  (ls.loaders.zip directories).foldl
    (fun t e =>
      let libraries := if e.1.id = ls.innermost.id then libraryDir else none
      t.set e.1.id ⟨[e.2], libraries⟩) {}

/-- How messages name a loader of the chain; any other is the bootstrap loader. -/
def describe (ls : Layers) (id : LoaderId) : String :=
  match ls.loaders.findIdx? fun l => l.id = id with
  | some i => "layer " ++ toString i
  | none => "bootstrap"

/-- The line about a resolved module. -/
def moduleLine (ls : Layers) (m : Module) (linked : Bool) : String :=
  m.name ++ " defined by " ++ m.loader.display ++ " (" ++ ls.describe m.loader ++ "), " ++
    toString m.codeLength ++ " bytes" ++ (if linked then ", linked" else "")

/-- Executes a command on the innermost loader; the answer is the lines to
print. -/
def execute (ls : Layers) : Command → WorldTask (Except CommandError (List String))
  | .resolve name link => do
      match ← WorldTask.ofLoader (ls.innermost.resolve name link) with
      | .error e => return .error (.load e)
      | .ok m =>
          let linked ← Interaction.observe fun (w : World) => w.loaders.ledger.isLinked m
          return .ok [ls.moduleLine m linked]
  | .loadLibrary name => do
      match ← ls.innermost.loadLibrary name with
      | .error e => return .error (.library e)
      | .ok canonical => return .ok ["loaded " ++ canonical]
  | .resource name true => do
      match ← WorldTask.ofLoader (ls.innermost.resources name) with
      | [] => return .error (.resourceNotFound name)
      | paths => return .ok paths
  | .resource name false => do
      match ← WorldTask.ofLoader (ls.innermost.resource name) with
      | none => return .error (.resourceNotFound name)
      | some path => return .ok [path]

/-- Lets go of loaders one after the other. -/
def letGoAll : List Loader → WorldTask Unit
  | [] => return ()
  | l :: rest => do
      WorldTask.letGo l
      letGoAll rest

/-- Lets go of the whole chain, and unloads the libraries of the process. -/
def close (ls : Layers) : WorldTask Unit := do
  letGoAll ls.loaders
  WorldTask.ofLibrary LibraryTask.shutdown

end Layers

end Loading
