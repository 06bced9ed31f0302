/-!
# Loader kinds

Loaders come in kinds, and a kind may extend another.  Kinds of one name are
still different kinds, which their serial numbers tell apart.  A
`KindRegistry` records which kinds let their loaders work in parallel: a kind can
be entered only before its first loader exists, and only when the kind it
extends has been entered.

* `KindRegistry.register` — enters a kind, and says whether it is entered now.
* `KindRegistry.noteInstance` — records a first loader, and reads the decision.
-/

namespace Loading

/-- A kind of loader. -/
inductive Kind where
  /-- A kind that extends no other. -/
  | root (serial : Nat) (name : String)
  /-- A kind that extends another one. -/
  | extending (serial : Nat) (name : String) (super : Kind)
  deriving Repr, DecidableEq, Inhabited

namespace Kind

/-- The kind that every registry knows from the start. -/
def base : Kind := .root 0 "ModuleLoader"

/-- The name of a kind, for display only. -/
def name : Kind → String
  | .root _ name => name
  | .extending _ name _ => name

/-- The kind that a kind extends. -/
def super? : Kind → Option Kind
  | .root _ _ => none
  | .extending _ _ super => some super

/-- The kinds above a kind, nearest first. -/
def supers : Kind → List Kind
  | .root _ _ => []
  | .extending _ _ super => super :: super.supers

end Kind

/-- Which kinds work in parallel, and which have loaders. -/
structure KindRegistry where
  /-- The kinds whose loaders work in parallel. -/
  registered : List Kind := [Kind.base]
  /-- The kinds that have had a loader. -/
  instantiated : List Kind := []
  deriving Repr, DecidableEq, Inhabited

namespace KindRegistry

/-- Do loaders of the kind work in parallel? -/
def isRegistered (r : KindRegistry) (k : Kind) : Bool :=
  r.registered.contains k

/-- May the kind be entered now? -/
def admits (r : KindRegistry) (k : Kind) : Bool :=
  !r.instantiated.contains k &&
    match k.super? with
    | some super => r.isRegistered super
    | none => true

/-- Enters a kind if that is still possible, and says whether it is entered. -/
def register (r : KindRegistry) (k : Kind) : Bool × KindRegistry :=
  if r.isRegistered k then (true, r)
  else if r.admits k then (true, { r with registered := k :: r.registered })
  else (false, r)

/-- Records that a kind has a loader, and says whether its loaders work in
parallel. -/
def noteInstance (r : KindRegistry) (k : Kind) : Bool × KindRegistry :=
  (r.isRegistered k, { r with instantiated := k :: r.instantiated })

end KindRegistry

end Loading
