import Loading.Table

/-!
# What can be seen of files

The library reads files only.  A `FileSystem` says, for every path, what stands
there after all links have been followed, and which path names it without links.
Nothing else about files matters to the library, so an in-memory tree and a
snapshot of a disk serve equally well.
-/

namespace Loading

/-- Why a path leads to nothing that can be read. -/
inductive FileError where
  /-- There is nothing at the path. -/
  | notFound
  /-- Something on the way is no directory. -/
  | notADirectory
  /-- The path or a name in it is too long. -/
  | nameTooLong
  /-- The links on the way never end. -/
  | linkLoop
  /-- The path holds a character that no path can hold. -/
  | nulByte
  /-- The operating system gives another reason, under a number of its own. -/
  | other (number : Nat) (reason : String)
  deriving Repr, DecidableEq, Inhabited

/-- What the operating system calls an error. -/
def FileError.reason : FileError → String
  | .notFound => "No such file or directory"
  | .notADirectory => "Not a directory"
  | .nameTooLong => "File name too long"
  | .linkLoop => "Too many levels of symbolic links"
  | .nulByte => "file name contained an unexpected NUL byte"
  | .other _ reason => reason

/-- The number of an error, where the operating system itself reports it. -/
def FileError.number? : FileError → Option Nat
  | .notFound => some 2
  | .notADirectory => some 20
  | .nameTooLong => some 36
  | .linkLoop => some 40
  | .nulByte => none
  | .other number _ => some number

/-- The error that the operating system reports with a number and a reason. -/
def FileError.ofNumber (number : Nat) (reason : String) : FileError :=
  ([notFound, notADirectory, nameTooLong, linkLoop].find? fun e => e.number? = some number).getD
    (other number reason)

/-- The wording of an error in messages, with its number. -/
def FileError.message (e : FileError) : String :=
  match e.number? with
  | some n => e.reason ++ " (os error " ++ toString n ++ ")"
  | none => e.reason

/-- What stands at a path. -/
inductive FileEntry where
  /-- A file with its contents, and with the symbols that it exports if it is a
  native library that the dynamic loader accepts. -/
  | file (contents : List UInt8) (exports : Option (List String))
  /-- A directory. -/
  | directory
  deriving Repr, DecidableEq, Inhabited

/-- What has been seen at one path. -/
structure Observation where
  /-- What stands there. -/
  entry : Except FileError FileEntry
  /-- The path without links. -/
  canonical : Option String

/-- A view of the files of a system. -/
structure FileSystem where
  /-- What stands at a path, all links followed. -/
  look : String → Except FileError FileEntry
  /-- The path without links of what stands at a path. -/
  canonical : String → Option String

namespace FileSystem

/-- The greatest length of a name in bytes. -/
def maxName : Nat := 255

/-- The view that knows only what has been seen at some paths. -/
def ofObservations (seen : Table String Observation) : FileSystem where
  look path := ((seen.find? path).map (·.entry)).getD (.error .notFound)
  canonical path := (seen.find? path).bind (·.canonical)

/-- Is there a directory at the path? -/
def isDirectory (fs : FileSystem) (path : String) : Bool :=
  match fs.look path with
  | .ok .directory => true
  | _ => false

/-- Is there a file at the path? -/
def isFile (fs : FileSystem) (path : String) : Bool :=
  match fs.look path with
  | .ok (.file _ _) => true
  | _ => false

end FileSystem

end Loading
