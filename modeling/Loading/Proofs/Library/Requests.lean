import Loading.Library.Request
import Loading.Proofs.Reentry.Discipline

/-!
# Requests for native libraries as a service

The operations on the registry of native libraries, together with what outside
code may do: call any of them, on the lists that the program uses, whenever one
of them waits for an answer.  Initialisers and finalisers of libraries do that,
and so may anything else that is asked.
-/

namespace Loading

/-- A request for native libraries. -/
inductive LibraryCall where
  /-- Load a file into a list. -/
  | load (path : String) (shelf : Shelf)
  /-- Bind a library that is linked into the runtime. -/
  | loadBuiltin (name : String)
  /-- Load a library by its short name. -/
  | loadLibrary (name : String) (explicit : Option String) (search : SearchPath) (shelf : Shelf)
  /-- Load the file at a path, for a loader. -/
  | loadAbsolute (path : String) (shelf : Shelf)
  /-- Unload a library of a list. -/
  | unload (shelf : Shelf) (l : Library)
  /-- Unload the libraries of a list. -/
  | releaseShelf (shelf : Shelf)
  /-- Unload the libraries of the process. -/
  | shutdown
  /-- Look up a symbol. -/
  | findNative (shelf : Shelf) (symbol : String)

namespace LibraryCall

/-- What a request returns. -/
abbrev Result : LibraryCall → Type
  | .load _ _ => Except LibraryError Bool
  | .loadBuiltin _ => Except LibraryError Bool
  | .loadLibrary _ _ _ _ => Except LibraryError String
  | .loadAbsolute _ _ => Except LibraryError String
  | .unload _ _ => Except LibraryError Unit
  | .releaseShelf _ => Unit
  | .shutdown => Unit
  | .findNative _ _ => Option Nat

/-- How a request goes. -/
def body : (c : LibraryCall) → LibraryTask c.Result
  | .load path shelf => LibraryTask.load path shelf
  | .loadBuiltin name => LibraryTask.loadBuiltin name
  | .loadLibrary name explicit search shelf => LibraryTask.loadLibrary name explicit search shelf
  | .loadAbsolute path shelf => LibraryTask.loadAbsolute path shelf
  | .unload shelf l => LibraryTask.unload shelf l
  | .releaseShelf shelf => LibraryTask.releaseShelf shelf
  | .shutdown => LibraryTask.shutdown
  | .findNative shelf symbol => LibraryTask.findNative shelf symbol

/-- The list that a request names. -/
def shelf? : LibraryCall → Option Shelf
  | .load _ shelf => some shelf
  | .loadBuiltin _ => none
  | .loadLibrary _ _ _ shelf => some shelf
  | .loadAbsolute _ shelf => some shelf
  | .unload shelf _ => some shelf
  | .releaseShelf shelf => some shelf
  | .shutdown => none
  | .findNative shelf _ => some shelf

end LibraryCall

/-- The requests for native libraries, with how they go. -/
def libraryService : Service LibraryRegistry LibraryQuestion LibraryQuestion.Answer where
  Call := LibraryCall
  Result := LibraryCall.Result
  body := LibraryCall.body

/-- Outside code makes requests for the lists in use, and answers as it likes. -/
def libraryRules (used : Shelf → Prop) : libraryService.Rules where
  mayCall _ c := ∀ s ∈ LibraryCall.shelf? c, used s
  mayAnswer _ _ _ := True
  mayChange _ _ := False

/-- The name for which a question makes the dynamic loader load an image. -/
def LibraryQuestion.loads? : LibraryQuestion → Option String
  | .load path => some path
  | .loadBuiltin name => some name
  | _ => none

end Loading
