import Loading.Interaction
import Loading.Library.Registry
import Loading.Library.SearchPath

/-!
# Requests for native libraries

The operations on the registry, as interactions with the file system and the
dynamic loader.  While an image is being loaded or unloaded its initialisers and
finalisers run, and they may make requests of their own.

* `load` — a file, into a list.
* `loadBuiltin` — a library that is linked into the runtime.
* `loadLibrary` — a library by its short name, searched for.
* `unload`, `releaseShelf`, `shutdown` — one library, a list, the process.
* `findNative` — the address of a symbol.
-/

namespace Loading

/-- What the registry asks of the file system and the dynamic loader. -/
inductive LibraryQuestion where
  /-- Which path without links leads to what stands at a path? -/
  | canonical (path : String)
  /-- Is a name linked into the runtime? -/
  | isBuiltin (name : String)
  /-- Load the file at a canonical path. -/
  | load (path : String)
  /-- Bind a library that is linked into the runtime. -/
  | loadBuiltin (name : String)
  /-- Unload an image. -/
  | unload (handle : Handle)
  /-- The address of a symbol of an image. -/
  | lookup (handle : Handle) (symbol : String)
  deriving Repr, DecidableEq

/-- What each question is answered with; a refused load says why in words. -/
abbrev LibraryQuestion.Answer : LibraryQuestion → Type
  | .canonical _ => Option String
  | .isBuiltin _ => Bool
  | .load _ => Except String Handle
  | .loadBuiltin _ => Except String Handle
  | .unload _ => Unit
  | .lookup _ _ => Option Nat

/-- An operation on the registry. -/
abbrev LibraryTask (α : Type) : Type :=
  Interaction LibraryRegistry LibraryQuestion LibraryQuestion.Answer α

namespace LibraryTask

open Interaction

/-- Asks one question. -/
def ask (q : LibraryQuestion) : LibraryTask q.Answer :=
  question q

/-- The path without links of what stands at a path. -/
def canonical (path : String) : LibraryTask (Option String) :=
  ask (.canonical path)

/-! ## Loading -/

/-- Loads a name into a list, unless it is there or on its way there, or another
scope has it.  `native` makes the native call. -/
def enter (name : String) (shelf : Shelf) (builtin : Bool)
    (native : LibraryTask (Except String Handle)) : LibraryTask (Except LibraryError Bool) := do
  let admission ← transact fun r =>
    match r.admission name shelf with
    | .granted => (.granted, r.begin name shelf.scope)
    | other => (other, r)
  match admission with
  | .satisfied => return .ok true
  | .refused owner => return .error (.collision name owner shelf.scope)
  | .granted =>
      match ← native with
      | .error reason =>
          change LibraryRegistry.finish
          return .error (.loadFailed name reason)
      | .ok handle =>
          change fun r => r.finish.register name handle shelf builtin
          return .ok true

/-- Loads the file at a path into a list; `false` says that there is none. -/
def load (path : String) (shelf : Shelf) : LibraryTask (Except LibraryError Bool) := do
  match ← canonical path with
  | none => return .ok false
  | some name => enter name shelf false (ask (.load name))

/-- Binds a library that is linked into the runtime; `false` says that it is
not. -/
def loadBuiltin (name : String) : LibraryTask (Except LibraryError Bool) := do
  let isBuiltin : Bool ← ask (.isBuiltin name)
  if isBuiltin then enter name .builtin true (ask (.loadBuiltin name))
  else return .ok false

/-- Tries candidates in order until one can be loaded or another scope turns out
to have it.  `fault` is the reason to report when there is no candidate left. -/
def tryCandidates (name : String) (shelf : Shelf) :
    LinkFault → List String → LibraryTask (Except LibraryError String)
  | fault, [] => return .error (.unsatisfiedLink name fault)
  | fault, candidate :: rest => do
      match ← load candidate shelf with
      | .ok true => return .ok ((← canonical candidate).getD candidate)
      | .ok false => tryCandidates name shelf fault rest
      | .error (.loadFailed library reason) =>
          tryCandidates name shelf (.lastFailure library reason) rest
      | .error e => return .error e

/-- The candidates for a library: the explicit one, then those of the search
path. -/
def candidates (name : String) (explicit : Option String) (search : SearchPath) : List String :=
  explicit.toList ++ search.candidates name

/-- Loads a library by its short name: as a built-in one, else from the first
candidate that can be loaded.  The answer is its canonical name. -/
def loadLibrary (name : String) (explicit : Option String) (search : SearchPath)
    (shelf : Shelf) : LibraryTask (Except LibraryError String) := do
  match ← loadBuiltin name with
  | .error e => return .error e
  | .ok true => return .ok name
  | .ok false =>
      let places := candidates name explicit search
      tryCandidates name shelf (.searched places.length) places

/-- Loads the file at a path for a list, and reports every failure as a library
that was not found. -/
def loadAbsolute (path : String) (shelf : Shelf) : LibraryTask (Except LibraryError String) := do
  match ← load path shelf with
  | .ok true => return .ok ((← canonical path).getD path)
  | .ok false => return .error (.unsatisfiedLink path .noSuchFile)
  | .error (.loadFailed _ reason) => return .error (.unsatisfiedLink path (.stated reason))
  | .error e => return .error e

/-! ## Unloading -/

/-- Unloads a library of a list.  A built-in library is taken from the list
without a native call. -/
def unload (shelf : Shelf) (l : Library) : LibraryTask (Except LibraryError Unit) := do
  let present ← transact fun r =>
    if (r.onShelf shelf).contains l then (true, r.withdraw shelf l) else (false, r)
  if !present then return .error (.notLoaded l.name)
  if !l.builtin then ask (.unload l.handle)
  change fun r => r.retire l
  return .ok ()

/-- Unloads libraries one after the other, whatever becomes of each. -/
def unloadAll (shelf : Shelf) : List Library → LibraryTask Unit
  | [] => return ()
  | l :: rest => do
      let _ ← unload shelf l
      unloadAll shelf rest

/-- Unloads the libraries of a list, newest first. -/
def releaseShelf (shelf : Shelf) : LibraryTask Unit := do
  let libraries ← observe fun r => r.onShelf shelf
  unloadAll shelf libraries.reverse

/-- Unloads what belongs to the whole process, then what is built in. -/
def shutdown : LibraryTask Unit := do
  releaseShelf .system
  releaseShelf .builtin

/-! ## Symbols -/

/-- The address of a symbol in the first of some libraries that has it. -/
def lookupIn (symbol : String) : List Library → LibraryTask (Option Nat)
  | [] => return none
  | l :: rest => do
      let found : Option Nat ← ask (.lookup l.handle symbol)
      match found with
      | some address => return some address
      | none => lookupIn symbol rest

/-- The address of a symbol in a list or in the built-in libraries. -/
def findNative (shelf : Shelf) (symbol : String) : LibraryTask (Option Nat) := do
  let libraries ← observe fun r => r.onShelf shelf ++ r.onShelf .builtin
  lookupIn symbol libraries

end LibraryTask

end Loading
