import Loading.Library.Request
import Loading.Loader.Delegation

/-!
# Loaders and libraries together

A `World` is the state of all loaders beside the registry of native libraries.
Operations on either part are operations on the whole, and a loader that loads a
native library touches both.

* `WorldTask.ofLoader`, `WorldTask.ofLibrary` — operations on a part, on the whole.
* `Loader.loadLibrary` — a library by its short name, for a loader.
* `Loader.teardown` — frees the libraries of a loader, once.
-/

namespace Loading

/-- The state of all loaders and of the native libraries. -/
structure World where
  /-- The loaders. -/
  loaders : Loaders := {}
  /-- The native libraries. -/
  libraries : LibraryRegistry := {}
  /-- The loaders in use from outside, as often as they are. -/
  held : List LoaderId := []
  /-- The loaders that have not been freed. -/
  living : List Loader := []
  deriving Repr, DecidableEq, Inhabited

/-- What is asked by operations on a world. -/
inductive Question where
  /-- A question of a loader. -/
  | loader (q : LoaderQuestion)
  /-- A question of the registry of libraries. -/
  | library (q : LibraryQuestion)
  deriving Repr, DecidableEq

/-- What each question is answered with. -/
abbrev Question.Answer : Question → Type
  | .loader q => q.Answer
  | .library q => q.Answer

/-- An operation on a world. -/
abbrev WorldTask (α : Type) : Type :=
  Interaction World Question Question.Answer α

namespace WorldTask

variable {α : Type}

/-- An operation of loaders, on a world. -/
def ofLoader : LoaderTask α → WorldTask α :=
  Interaction.within World.loaders (fun s w => { w with loaders := s }) Question.loader
    fun _ a => a

/-- An operation on libraries, on a world. -/
def ofLibrary : LibraryTask α → WorldTask α :=
  Interaction.within World.libraries (fun r w => { w with libraries := r }) Question.library
    fun _ a => a

end WorldTask

namespace Context

/-- Loads a native library for the whole process. -/
def loadSystemLibrary (c : Context) (name : String) : WorldTask (Except LibraryError String) :=
  WorldTask.ofLibrary (LibraryTask.loadLibrary name none c.search .system)

end Context

namespace Loader

open Interaction

/-- The list of the native libraries of a loader. -/
def shelf (l : Loader) : Shelf :=
  .ofLoader l.id

/-- Loads a native library for a loader, whose finder may name the file. -/
def loadLibrary (l : Loader) (name : String) : WorldTask (Except LibraryError String) := do
  let explicit ← WorldTask.ofLoader (LoaderTask.ask (.library l.id name))
  WorldTask.ofLibrary (LibraryTask.loadLibrary name explicit l.context.search l.shelf)

/-- Loads the native library at a path for a loader. -/
def loadLibraryAt (l : Loader) (path : String) : WorldTask (Except LibraryError String) :=
  WorldTask.ofLibrary (LibraryTask.loadAbsolute path l.shelf)

/-- The address of a symbol in the libraries of a loader or in the built-in
ones. -/
def findNative (l : Loader) (symbol : String) : WorldTask (Option Nat) :=
  WorldTask.ofLibrary (LibraryTask.findNative l.shelf symbol)

/-- Frees the native libraries of a loader; only the first time counts. -/
def teardown (l : Loader) : WorldTask Unit := do
  let done ← transact fun (w : World) =>
    ((w.loaders.tablesOf l.id).tornDown,
      { w with loaders := w.loaders.onTables l.id fun t => { t with tornDown := true } })
  if !done then WorldTask.ofLibrary (LibraryTask.releaseShelf l.shelf)

end Loader

end Loading
