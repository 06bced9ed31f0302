import Loading.Text.Split

/-!
# Tokens in the paths of libraries

The dynamic loader does not take every path letter by letter.  Behind a `$` a path
may name something about the machine: `ORIGIN`, `PLATFORM` or `LIB`, plain or in
braces.  A plain word counts only where no letter, digit or underscore follows, and
a `$` before anything else is a character like any other.

* `Machine.expand` — a path with what its tokens stand for in their place.
* `expand_eq_self` — a path without `$` is its own expansion.
-/

namespace Loading

/-- What a path of a library may name with a token. -/
inductive PathToken where
  /-- The directory of the program. -/
  | origin
  /-- The kind of the processor. -/
  | platform
  /-- The place of libraries below the top of an installation. -/
  | lib
  deriving Repr, DecidableEq, Inhabited

namespace PathToken

/-- All tokens. -/
def all : List PathToken :=
  [origin, platform, lib]

/-- The word of a token. -/
def word : PathToken → String
  | .origin => "ORIGIN"
  | .platform => "PLATFORM"
  | .lib => "LIB"

/-- Would the character make a plain word longer? -/
def isWordChar (c : Char) : Bool :=
  c.isAlphanum || c = '_'

/-- What follows the token at the start of a text, if the text starts with it. -/
def after? (t : PathToken) : List Char → Option (List Char)
  | '\x7b' :: cs => (t.word.toList ++ ['\x7d']).isPrefixOf? cs
  | cs => (t.word.toList.isPrefixOf? cs).filter fun rest => !rest.head?.any isWordChar

/-- The token at the start of a text, with what follows it. -/
def ofStart? (cs : List Char) : Option (PathToken × List Char) :=
  all.findSome? fun t => (t.after? cs).map fun rest => (t, rest)

end PathToken

/-- What the tokens stand for. -/
structure Machine where
  /-- The directory of the program. -/
  origin : String := "/usr/local/bin"
  /-- The kind of the processor. -/
  platform : String := "x86_64"
  /-- The place of libraries below the top of an installation. -/
  lib : String := "lib/x86_64-linux-gnu"
  deriving Repr, DecidableEq, Inhabited

namespace Machine

/-- What a token stands for. -/
def meaning (m : Machine) : PathToken → String
  | .origin => m.origin
  | .platform => m.platform
  | .lib => m.lib

/-- The directory of the libraries that come with the system. -/
def libraryDirectory (m : Machine) : String :=
  "/" ++ m.lib

/-- A `$` and the text up to the next one, with what the token at its start stands
for in its place. -/
def expandPiece (m : Machine) (piece : List Char) : List Char :=
  match PathToken.ofStart? piece with
  | some (t, rest) => (m.meaning t).toList ++ rest
  | none => '$' :: piece

/-- A path with what its tokens stand for in their place.  No token reaches over a
`$`, so each stretch between two of them is expanded for itself. -/
def expand (m : Machine) (path : String) : String :=
  match Text.pieces '$' path.toList with
  | [] => path
  | start :: behind => String.ofList (start ++ behind.flatMap m.expandPiece)

/-- A path without `$` is its own expansion. -/
theorem expand_eq_self (m : Machine) {path : String} (h : '$' ∉ path.toList) :
    m.expand path = path := by
  simp [expand, Text.pieces_eq_singleton h]

end Machine

end Loading
