import Loading.Library.SearchPath
import Loading.Loader.Question

/-!
# Finding modules in directories

A finder that looks for modules and resources below a list of root directories,
in order, and for native libraries in a directory of their own.

* `Directory.modulePath` — where a module lies below a root.
* `Directory.find` — the bytes of a module, from the first root that has it.
* `Directory.resources` — the files of a resource name, root by root.
-/

namespace Loading

/-- The directories that a finder looks in. -/
structure Directory where
  /-- The roots, in the order of the search. -/
  roots : List String := []
  /-- The directory of native libraries. -/
  libraries : Option String := none
  deriving Repr, DecidableEq, Inhabited

namespace Directory

/-- The extension of module files. -/
def extension : String := "class"

/-- Where a module lies below a root: each component of its name is a directory,
the last one a file. -/
def modulePath (name : Name) : String :=
  Path.withExtension extension (Path.ofSegments (Text.split '.' name))

/-- The code source of what is found below a root. -/
def sourceOf (root : String) : CodeSource :=
  .unsigned ("file:" ++ root)

/-- Where a module may lie, root by root. -/
def modulePaths (d : Directory) (name : Name) : List String :=
  d.roots.map fun root => Path.join root (modulePath name)

/-- What a root holds of a module: its bytes, an error, or nothing. -/
def findBelow (fs : FileSystem) (name : Name) (root : String) :
    Option (Except LoadError FoundModule) :=
  let path := Path.join root (modulePath name)
  match fs.look path with
  | .ok (.file bytes _) => some (.ok ⟨bytes, some (sourceOf root)⟩)
  | .ok .directory => none
  | .error .notFound => none
  | .error e => some (.error (.definition name (.unreadable path e)))

/-- The bytes of a module, from the first root that does not lack it. -/
def find (d : Directory) (fs : FileSystem) (name : Name) : Except LoadError FoundModule :=
  (d.roots.findSome? (findBelow fs name)).getD (.error (.notFound name))

/-- Goes on by one component, which must not lead up or to the top. -/
def descend (path : String) : Path.Component → Option String
  | .name text => some (Path.join path text)
  | .here => some path
  | .top | .up => none

/-- Where a resource lies below a root.  A name that could lead out of a root, or
that names nothing, lies nowhere. -/
def resourcePath? (name : String) : Option String :=
  ((Path.components (Path.trimTop name)).foldlM descend "").filter fun path => !path.isEmpty

/-- Where a resource may lie, root by root. -/
def resourcePaths (d : Directory) (name : String) : List String :=
  match resourcePath? name with
  | none => []
  | some path => d.roots.map fun root => Path.join root path

/-- The files of a resource name, root by root. -/
def resources (d : Directory) (fs : FileSystem) (name : String) : List String :=
  (d.resourcePaths name).filter fs.isFile

/-- The first file of a resource name. -/
def resource (d : Directory) (fs : FileSystem) (name : String) : Option String :=
  (d.resources fs name).head?

/-- Where a native library may lie. -/
def libraryPath? (d : Directory) (name : String) : Option String :=
  d.libraries.map fun dir => Path.join dir (SearchPath.fileName name)

/-- The file of a native library. -/
def library (d : Directory) (fs : FileSystem) (name : String) : Option String :=
  (d.libraryPath? name).filter fs.isFile

end Directory

end Loading
