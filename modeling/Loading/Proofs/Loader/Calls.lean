import Loading.Loader.Delegation
import Loading.Proofs.Loader.Hierarchy
import Loading.Proofs.Reentry.Discipline

/-!
# Loaders as a service

The operations of loaders, together with what outside code may do: call them for
any loader that has been made, whenever one of them waits for an answer, and
change the state beside the modules and their signers.  Finders, definers,
linkers and bootstrap resolvers do that while they are asked.

Which answers collaborators give is left open: `loaderRules` takes it as an
argument.
-/

namespace Loading

/-- An operation of loaders. -/
inductive LoaderCall where
  /-- Make a loader below an optional parent. -/
  | create (kind : Kind) (parent : Option Loader) (context : Context)
  /-- Define a module from the bytes between two places. -/
  | define (loader : Loader) (name : Option Name) (bytes : List UInt8) (start stop : Nat)
      (domain : Option ProtectionDomain)
  /-- Resolve a name, and link its module on request. -/
  | resolve (loader : Loader) (name : Name) (link : Bool)

namespace LoaderCall

/-- What an operation returns. -/
abbrev Result : LoaderCall → Type
  | .create _ _ _ => Except LoadError Loader
  | .define _ _ _ _ _ _ => Except LoadError Module
  | .resolve _ _ _ => Except LoadError Module

/-- How an operation goes. -/
def body : (c : LoaderCall) → LoaderTask c.Result
  | .create kind parent context => Loader.create kind parent context
  | .define loader name bytes start stop domain => loader.define name bytes start stop domain
  | .resolve loader name link => loader.resolve name link

/-- The loader that an operation is called on. -/
def loader? : LoaderCall → Option Loader
  | .create _ parent _ => parent
  | .define loader _ _ _ _ _ => some loader
  | .resolve loader _ _ => some loader

end LoaderCall

/-- The operations of loaders, with how they go. -/
def loaderService : Service Loaders LoaderQuestion LoaderQuestion.Answer where
  Call := LoaderCall
  Result := LoaderCall.Result
  body := LoaderCall.body

/-- A point in time of all loaders. -/
abbrev LoaderMoment : Type :=
  loaderService.Moment

/-- Outside code calls loaders that have been made, and leaves modules and signers
alone; its answers are those that `mayAnswer` permits. -/
def loaderRules (mayAnswer : LoaderMoment → (q : LoaderQuestion) → q.Answer → Prop) :
    loaderService.Rules where
  mayCall m c := ∀ l ∈ LoaderCall.loader? c, l ∈ m.state.created
  mayAnswer := mayAnswer
  mayChange m s := m.state.Beside s

section Rules

variable {mayAnswer : LoaderMoment → (q : LoaderQuestion) → q.Answer → Prop} {m : LoaderMoment}
  {c : LoaderCall}

/-- What is called on no loader may be called. -/
theorem mayCall_of_none (h : c.loader? = none) : (loaderRules mayAnswer).mayCall m c := by
  intro l hl
  rw [h] at hl
  cases hl

/-- What is called on a loader that has been made may be called. -/
theorem mayCall_of_mem {l : Loader} (h : c.loader? = some l) (hl : l ∈ m.state.created) :
    (loaderRules mayAnswer).mayCall m c := by
  intro k hk
  rw [h] at hk
  exact Option.some.inj hk ▸ hl

end Rules

/-- The first loader that is made, if it is a root. -/
def solitary : Loader := .root ⟨⟨1⟩, .base, true, {}⟩

/-- A loader below the first one that is made. -/
def sheltered : Loader := .child ⟨⟨2⟩, .base, true, {}⟩ solitary

end Loading
