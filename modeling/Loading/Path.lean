import Loading.Text.Split

/-!
# Paths as text

Paths are joined and changed as texts, without looking at any file: nothing is
normalised, so a path is printed as it was put together.

* `join` — a path below another one; an absolute path stands for itself.
* `withExtension` — the path with the extension of its last name replaced.
* `components` — what a path says, part by part.
-/

namespace Loading.Path

/-! ## Lists of characters -/

/-- Does the path start at the top of the file system? -/
def isAbsoluteChars (p : List Char) : Bool :=
  p.head? == some '/'

/-- One path below another: with a `/` between the two, unless the first is empty
or ends in one; an absolute path stands for itself. -/
def push (base rel : List Char) : List Char :=
  if isAbsoluteChars rel then rel
  else if base.isEmpty || base.getLast? == some '/' then base ++ rel
  else base ++ '/' :: rel

/-- The name without its extension.  A name that merely begins with `.` has none. -/
def stem (name : List Char) : List Char :=
  match Text.beforeLast? '.' name with
  | none | some [] => name
  | some front => front

/-- A segment that names the place where it stands. -/
def isIdle (segment : List Char) : Bool :=
  segment == [] || segment == ['.']

/-- The path with the extension of its last name replaced.  A path that ends in
no name stays as it is; what stands behind the last name is dropped. -/
def setExtension (extension : List Char) (p : List Char) : List Char :=
  match (Text.pieces '/' p).reverse.dropWhile isIdle with
  | [] => p
  | last :: before =>
      if last = ['.', '.'] then p
      else Text.glue '/' ((stem last ++ '.' :: extension) :: before).reverse

/-! ## Texts -/

/-- Does the path start at the top of the file system? -/
def isAbsolute (p : String) : Bool :=
  isAbsoluteChars p.toList

/-- One path below another. -/
def join (base rel : String) : String :=
  String.ofList (push base.toList rel.toList)

/-- The path with the extension of its last name replaced. -/
def withExtension (extension p : String) : String :=
  String.ofList (setExtension extension.toList p.toList)

/-- A path made of segments, each pushed below the ones before. -/
def ofSegments (segments : List String) : String :=
  segments.foldl join ""

/-! ## Components -/

/-- A part of what a path says. -/
inductive Component where
  /-- It starts at the top of the file system. -/
  | top
  /-- It starts where it is looked up. -/
  | here
  /-- It leads one directory up. -/
  | up
  /-- It leads to a name in a directory. -/
  | name (text : String)
  deriving Repr, DecidableEq, Inhabited

/-- The segments of a path, without the idle ones. -/
def segments (p : String) : List String :=
  ((Text.pieces '/' p.toList).filter fun s => !isIdle s).map String.ofList

/-- What a path says about where it starts.  A `.` counts in front only. -/
def origin (p : String) : List Component :=
  if isAbsolute p then [.top]
  else if (Text.pieces '/' p.toList).head? = some ['.'] then [.here]
  else []

/-- What a segment that is not idle says. -/
def Component.ofSegment (segment : String) : Component :=
  if segment = ".." then .up else .name segment

/-- What a path says, part by part. -/
def components (p : String) : List Component :=
  origin p ++ (segments p).map Component.ofSegment

/-- The path without the separators in front. -/
def trimTop (p : String) : String :=
  String.ofList (p.toList.dropWhile (· == '/'))

end Loading.Path
