import Loading.Library.Dynamic
import Loading.Loader.Directory
import Loading.Loader.Opaque
import Loading.World.Basic

/-!
# Plain surroundings

Collaborators that never call back: directories as finders, bytes without
structure, linking that only marks, no access policy, and the dynamic loader of
the operating system over a fixed view of files.

* `Surroundings.answer` — how they answer each question.
* `Surroundings.run` — an operation among them.
-/

namespace Loading

/-- The collaborators of a world that never call back. -/
structure Surroundings where
  /-- The files. -/
  files : FileSystem
  /-- The finder of each loader. -/
  finders : Table LoaderId Directory := {}
  /-- The dynamic loader. -/
  dynamic : DynamicLoader := {}

namespace Surroundings

/-- The finder of a loader; without one, it finds nothing. -/
def finder (e : Surroundings) (id : LoaderId) : Directory :=
  e.finders.findD id {}

/-- How a question of a loader is answered. -/
def answerLoader (e : Surroundings) :
    (q : LoaderQuestion) → Loaders → q.Answer × Loaders
  | .mayCreate _ _, s => (.ok (), s)
  | .maySeeParent _ _ _, s => (.ok (), s)
  | .enter _ _, s => ((), s)
  | .leave _ _, s => ((), s)
  | .bootstrap context name, s => (s.builtin? context name, s)
  | .find loader name, s => ((e.finder loader).find e.files name, s)
  | .produce _ request, s => s.produceOpaque request
  | .link _ m, s => (.ok (), s.markLinked m)
  | .bootstrapResource _ _, s => (none, s)
  | .resource loader name, s => ((e.finder loader).resource e.files name, s)
  | .resources loader name, s => ((e.finder loader).resources e.files name, s)
  | .library loader name, s => ((e.finder loader).library e.files name, s)

/-- How a question of the registry of libraries is answered. -/
def answerLibrary (fs : FileSystem) :
    (q : LibraryQuestion) → DynamicLoader → q.Answer × DynamicLoader
  | .canonical path, d => (fs.canonical path, d)
  | .isBuiltin name, d => (d.isBuiltin name, d)
  | .load path, d => d.openFile fs path
  | .loadBuiltin name, d => d.openBuiltin name
  | .unload handle, d => ((), d.close handle)
  | .lookup handle symbol, d => (d.lookup handle symbol, d)

/-- How each question is answered. -/
def answer : (q : Question) → World → Surroundings → q.Answer × World × Surroundings
  | .loader q, w, e =>
      let (a, s) := e.answerLoader q w.loaders
      (a, { w with loaders := s }, e)
  | .library q, w, e =>
      let (a, d) := answerLibrary e.files q e.dynamic
      (a, w, { e with dynamic := d })

/-- Runs an operation among these collaborators. -/
def run {α : Type} (task : WorldTask α) (w : World) (e : Surroundings) :
    α × World × Surroundings :=
  Interaction.run answer task w e

end Surroundings

end Loading
