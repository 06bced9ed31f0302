import Loading.FileSystem
import Loading.Path
import Loading.Table
import Loading.Text.Utf8

/-!
# Trees of files

A `FileTree` holds files, directories and symbolic links by their place, the
list of names that leads there from the top.  Looking a path up goes through its
names one after the other and follows links, up to a fixed number of them.

* `FileTree.walk` — where a list of names leads to from a directory.
* `FileTree.resolve` — where a path leads to.
* `FileTree.view` — the tree as a file system.
-/

namespace Loading

/-- What a place of the tree holds. -/
inductive FileNode where
  /-- A file, with the symbols it exports if it is a native library. -/
  | file (contents : List UInt8) (exports : Option (List String))
  /-- A directory. -/
  | directory
  /-- A symbolic link with its target as text. -/
  | link (target : String)
  deriving Repr, DecidableEq, Inhabited

/-- A place: the names that lead there from the top. -/
abbrev Place := List String

/-- Files, directories and links by their place. -/
structure FileTree where
  /-- The nodes; the top is always a directory. -/
  nodes : Table Place FileNode := {}
  /-- The directory from which relative paths start. -/
  current : Place := []
  deriving Repr, DecidableEq, Inhabited

namespace FileTree

/-- The greatest length of a path in bytes. -/
def maxPath : Nat := 4095

/-- How many links may be followed on the way. -/
def maxLinks : Nat := 40

/-- What a place holds. -/
def node? (t : FileTree) (place : Place) : Option FileNode :=
  if place.isEmpty then some .directory else t.nodes.find? place

/-- The names of a path, idle ones included. -/
def names (path : String) : List String :=
  Text.split '/' path

/-- Where a path begins to be looked up when it is met in a directory. -/
def start (here : Place) (path : String) : Place :=
  if Path.isAbsolute path then [] else here

/-- The path that leads to a place without links. -/
def pathOf (place : Place) : String :=
  "/" ++ "/".intercalate place

/-! ## Looking paths up -/

/-- What a walk puts up with on its way. -/
structure Walk where
  /-- May the path of the place it comes to, without links, have any length? -/
  anyLength : Bool := true
  /-- May it end at a place that holds nothing? -/
  mayEndNowhere : Bool := false
  deriving Repr, DecidableEq, Inhabited

/-- Does the walk put up with a place? -/
def Walk.fits (w : Walk) (place : Place) : Bool :=
  w.anyLength || (pathOf place).utf8ByteSize ≤ maxPath

/-- Goes through the names of a path from a place; `follow` goes on behind a
link. -/
def walkWith (t : FileTree) (w : Walk)
    (follow : Place → List String → Except FileError Place) (place : Place) :
    List String → Except FileError Place
  | [] => .ok place
  | name :: rest =>
      match t.node? place with
      | some .directory =>
          if name = "" ∨ name = "." then t.walkWith w follow place rest
          else if name = ".." then t.walkWith w follow place.dropLast rest
          else if name.utf8ByteSize > FileSystem.maxName ∨ !w.fits (place ++ [name]) then
            .error .nameTooLong
          else match t.node? (place ++ [name]) with
            | none =>
                if w.mayEndNowhere && rest.isEmpty then .ok (place ++ [name])
                else .error .notFound
            | some (.link target) => follow (start place target) (names target ++ rest)
            | some _ => t.walkWith w follow (place ++ [name]) rest
      | _ => .error .notADirectory

/-- Where names lead to from a place, with a number of links that may be
followed. -/
def walk (t : FileTree) (w : Walk) : Nat → Place → List String → Except FileError Place
  | 0 => t.walkWith w fun _ _ => .error .linkLoop
  | links + 1 => t.walkWith w (t.walk w links)

/-- Where a path leads to. -/
def resolve (t : FileTree) (path : String) (w : Walk := {}) : Except FileError Place :=
  if path.toList.contains '\x00' then .error .nulByte
  else if path.isEmpty then .error .notFound
  else if path.utf8ByteSize > maxPath then .error .nameTooLong
  else t.walk w maxLinks (start t.current path) (names path)

/-- The tree as a file system. -/
def view (t : FileTree) : FileSystem where
  look path :=
    match t.resolve path with
    | .error e => .error e
    | .ok place =>
        match t.node? place with
        | some (.file contents exports) => .ok (.file contents exports)
        | some .directory => .ok .directory
        | _ => .error .notFound
  canonical path := (t.resolve path { anyLength := false }).toOption.map pathOf

/-! ## Building a tree -/

/-- Puts a node at a place. -/
def put (t : FileTree) (place : Place) (node : FileNode) : FileTree :=
  { t with nodes := t.nodes.set place node }

/-- Makes the directories that are missing on the way, and says where the way
leads to. -/
def makeWay (t : FileTree) (place : Place) : List String → FileTree × Place
  | [] => (t, place)
  | name :: rest =>
      match t.walk {} maxLinks place [name] with
      | .ok next => t.makeWay next rest
      | .error _ => (t.put (place ++ [name]) .directory).makeWay (place ++ [name]) rest

/-- The names of a path without the idle ones at its end, the last one apart. -/
def lastName (path : String) : List String × String :=
  match (names path).reverse.dropWhile fun n => n = "" ∨ n = "." with
  | [] => ([], "")
  | name :: before => (before.reverse, name)

/-- Makes a directory, with all directories above it. -/
def addDirectory (t : FileTree) (path : String) : FileTree :=
  (t.makeWay (start t.current path) (names path)).1

/-- Puts a node at a path, with all directories above it. -/
def add (t : FileTree) (path : String) (node : FileNode) : FileTree :=
  let (above, name) := lastName path
  let (t, place) := t.makeWay (start t.current path) above
  t.put (place ++ [name]) node

/-- Writes a file, with all directories above it.  Where links lead on, the file
comes to lie where they lead to, even if nothing is there yet. -/
def addFile (t : FileTree) (path : String) (contents : List UInt8)
    (exports : Option (List String) := none) : FileTree :=
  let t := (t.makeWay (start t.current path) (lastName path).1).1
  match t.resolve path { mayEndNowhere := true } with
  | .ok place => t.put place (.file contents exports)
  | .error _ => t

/-- Makes a symbolic link. -/
def addLink (t : FileTree) (path target : String) : FileTree :=
  t.add path (.link target)

/-- Removes what stands at a path; a link is removed, not what it leads to. -/
def remove (t : FileTree) (path : String) : FileTree :=
  let (above, name) := lastName path
  match t.walk {} maxLinks (start t.current path) above with
  | .error _ => t
  | .ok place =>
      let gone := place ++ [name]
      { t with nodes := ⟨t.nodes.entries.filter fun e => !gone.isPrefixOf e.1⟩ }

end FileTree

end Loading
