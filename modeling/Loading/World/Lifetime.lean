import Loading.World.Basic

/-!
# How long loaders live

A loader lives as long as somebody outside uses it or a loader below it lives.
When the last reason is gone it is torn down and freed, and then the loader above
it may have lost its last reason, too.

* `WorldTask.make` — a new loader, in use from the start.
* `WorldTask.hold`, `WorldTask.letGo` — one more use, one less.
-/

namespace Loading

namespace World

/-- Is the loader freed already, or is there still a reason for it to live? -/
def keeps (w : World) (l : Loader) : Bool :=
  !(w.living.any fun m => m.id = l.id) || w.held.contains l.id ||
    w.living.any fun m => m.parent?.any fun p => p.id = l.id

/-- The world in which a loader has been freed. -/
def free (w : World) (l : Loader) : World :=
  { w with living := w.living.filter fun m => m.id ≠ l.id }

end World

namespace WorldTask

open Interaction

/-- Frees a loader that has no reason to live, and then those above it. -/
def reap : Loader → WorldTask Unit
  | l@(.root _) => do
      if ← observe fun (w : World) => w.keeps l then return ()
      l.teardown
      change fun (w : World) => w.free l
  | l@(.child _ parent) => do
      if ← observe fun (w : World) => w.keeps l then return ()
      l.teardown
      change fun (w : World) => w.free l
      reap parent

/-- One more use of a loader. -/
def hold (l : Loader) : WorldTask Unit :=
  change fun (w : World) => { w with held := l.id :: w.held }

/-- One use of a loader less; without a use and without a living child it is torn
down and freed. -/
def letGo (l : Loader) : WorldTask Unit := do
  change fun (w : World) => { w with held := w.held.erase l.id }
  reap l

/-- Makes a loader, in use from the start. -/
def make (k : Kind) (parent : Option Loader) (context : Context) :
    WorldTask (Except LoadError Loader) := do
  match ← ofLoader (Loader.create k parent context) with
  | .error e => return .error e
  | .ok l =>
      change fun (w : World) => { w with held := l.id :: w.held, living := w.living ++ [l] }
      return .ok l

end WorldTask

end Loading
