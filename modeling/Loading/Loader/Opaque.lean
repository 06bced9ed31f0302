import Loading.Loader.Question

/-!
# Bytes without structure

The definer for bytes that it does not look into: it needs a name, and at least
one byte.
-/

namespace Loading.Loaders

/-- Makes a module of bytes that are not looked into. -/
def produceOpaque (s : Loaders) (r : DefinitionRequest) : Except LoadError Module × Loaders :=
  match r.name with
  | none => (.error (.definition unnamed .nameless), s)
  | some name =>
      if r.code.isEmpty then (.error (.definition name .emptyBody), s)
      else
        let (m, s) := s.freshModule name r.loader r.domain r.code.length
        (.ok m, s)

end Loading.Loaders
