import Loading.FileSystem
import Loading.Library.PathToken
import Loading.Library.Registry

/-!
# The dynamic loader

What the loader of the operating system does with a path, as far as the library
can tell: a file that is a native library gets the next handle, anything else is
refused with a reason in words.  The tokens of a path are replaced before anything
is opened.
-/

namespace Loading

/-- The open images of a process. -/
structure DynamicLoader where
  /-- What the tokens of paths stand for. -/
  machine : Machine := {}
  /-- The names of the libraries that are linked into the runtime. -/
  builtins : List String := []
  /-- How many images have been opened. -/
  opened : Nat := 0
  /-- The symbols of each open image. -/
  images : Table Handle (List String) := {}
  deriving Repr, DecidableEq, Inhabited

namespace DynamicLoader

/-- A file shorter than this has no header to look at. -/
def headerSize : Nat := 64

/-- The refusal of a path at which nothing can be opened. -/
def unopened (path : String) (e : FileError) : String :=
  path ++ ": cannot open shared object file: " ++ e.reason

/-- The refusal of a path at which a directory stands. -/
def unreadable (path : String) : String :=
  path ++ ": cannot read file data: Is a directory"

/-- The symbols of the native library at a path, or why there is none.  What cannot
be opened is called by the path as it was given, what has been opened by its
expansion. -/
def inspect (m : Machine) (fs : FileSystem) (path : String) : Except String (List String) :=
  let place := m.expand path
  match fs.look place with
  | .error e => .error (unopened path e)
  | .ok .directory => .error (unreadable place)
  | .ok (.file _ (some symbols)) => .ok symbols
  | .ok (.file contents none) =>
      if contents.length < headerSize then .error (place ++ ": file too short")
      else .error (place ++ ": invalid ELF header")

/-- What becomes of a name without `/`, which is looked up in the directory of the
system's own libraries: only the directory itself and the one above it are there. -/
def search (m : Machine) (name : String) : Except String (List String) :=
  if name = "." ∨ name = ".." then .error (unreadable (m.libraryDirectory ++ "/" ++ name))
  else if name.utf8ByteSize > FileSystem.maxName then .error (unopened name .nameTooLong)
  else .error (unopened name .notFound)

/-- Keeps an image open under the next handle. -/
def keep (d : DynamicLoader) (symbols : List String) : Handle × DynamicLoader :=
  let handle : Handle := ⟨d.opened + 1⟩
  (handle, { d with opened := d.opened + 1, images := d.images.set handle symbols })

/-- A text as the dynamic loader takes it: one NUL at its end is its end, and
any other NUL is refused. -/
def terminated (s : String) : Except String String :=
  match s.toList.reverse with
  | '\x00' :: rest =>
      if rest.contains '\x00' then
        .error "could not create a C string from bytes with trailing null"
      else .ok (String.ofList rest.reverse)
  | cs => if cs.contains '\x00' then .error "could not create a C string from bytes" else .ok s

/-- The symbols of what a path names.  The empty path names the process itself, and
a path without `/` is a name to search for. -/
def find (m : Machine) (fs : FileSystem) (path : String) : Except String (List String) :=
  if path.isEmpty then .ok []
  else if path.toList.contains '/' then inspect m fs path
  else search m path

/-- Opens the file at a path. -/
def openFile (d : DynamicLoader) (fs : FileSystem) (path : String) :
    Except String Handle × DynamicLoader :=
  match terminated path >>= find d.machine fs with
  | .error reason => (.error reason, d)
  | .ok symbols =>
      let (handle, d) := d.keep symbols
      (.ok handle, d)

/-- Is a name linked into the runtime? -/
def isBuiltin (d : DynamicLoader) (name : String) : Bool :=
  d.builtins.contains name

/-- Opens the image of the process for a library that is linked into it. -/
def openBuiltin (d : DynamicLoader) (name : String) : Except String Handle × DynamicLoader :=
  if d.isBuiltin name then
    let (handle, d) := d.keep []
    (.ok handle, d)
  else (.error (name ++ " is not a builtin library"), d)

/-- Closes an image. -/
def close (d : DynamicLoader) (handle : Handle) : DynamicLoader :=
  { d with images := d.images.erase handle }

/-- Does the image of a handle have the symbol? -/
def hasSymbol (d : DynamicLoader) (handle : Handle) (symbol : String) : Bool :=
  match terminated symbol with
  | .ok name => (d.images.findD handle []).contains name
  | .error _ => false

/-- The address of a symbol of an image; which one it is says nothing. -/
def lookup (d : DynamicLoader) (handle : Handle) (symbol : String) : Option Nat :=
  if d.hasSymbol handle symbol then some handle.val else none

end DynamicLoader

end Loading
