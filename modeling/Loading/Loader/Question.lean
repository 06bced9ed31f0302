import Loading.Interaction
import Loading.Loader.State

/-!
# What loaders ask of their collaborators

Loaders look for modules and turn bytes into modules, but how that is done they
leave to collaborators: a finder for each loader; a bootstrap resolver, a
definer, a linker and an access policy for each context.  Any of them may call
loaders again before it answers.  Taking a loading lock is a question too: it is
answered when no other thread holds the lock.
-/

namespace Loading

/-- Bytes that are to become a module. -/
structure DefinitionRequest where
  /-- The name, unless the definer is to find one. -/
  name : Option Name
  /-- The bytes. -/
  bytes : List UInt8
  /-- Where the part to be used starts. -/
  start : Nat
  /-- Where it stops. -/
  stop : Nat
  /-- The domain of the module. -/
  domain : ProtectionDomain
  /-- The loader that defines it. -/
  loader : LoaderId
  deriving Repr, DecidableEq, Inhabited

/-- The part of the bytes to be used. -/
def DefinitionRequest.code (r : DefinitionRequest) : List UInt8 :=
  (r.bytes.take r.stop).drop r.start

/-- How messages name a module without a name. -/
def unnamed : Name := "<unnamed>"

/-- The bytes of a module, as a finder found them. -/
structure FoundModule where
  /-- The bytes. -/
  bytes : List UInt8
  /-- Where they come from, if the finder knows. -/
  source : Option CodeSource := none
  deriving Repr, DecidableEq, Inhabited

/-- What loaders ask of their collaborators. -/
inductive LoaderQuestion where
  /-- May a loader of the kind be made? -/
  | mayCreate (context : Nat) (kind : Kind)
  /-- May the parent of a loader be seen by a requester? -/
  | maySeeParent (context : Nat) (loader requester : LoaderId)
  /-- Take a loading lock. -/
  | enter (loader : LoaderId) (lock : Lock)
  /-- Let go of a loading lock. -/
  | leave (loader : LoaderId) (lock : Lock)
  /-- The built-in module of a name. -/
  | bootstrap (context : Nat) (name : Name)
  /-- The bytes of a module. -/
  | find (loader : LoaderId) (name : Name)
  /-- Turn bytes into a module. -/
  | produce (context : Nat) (request : DefinitionRequest)
  /-- Link a module. -/
  | link (context : Nat) (module : Module)
  /-- The built-in resource of a name. -/
  | bootstrapResource (context : Nat) (name : String)
  /-- The first resource of a name. -/
  | resource (loader : LoaderId) (name : String)
  /-- All resources of a name. -/
  | resources (loader : LoaderId) (name : String)
  /-- The file of a native library. -/
  | library (loader : LoaderId) (name : String)
  deriving Repr, DecidableEq

/-- What each question is answered with. -/
abbrev LoaderQuestion.Answer : LoaderQuestion → Type
  | .mayCreate _ _ => Except LoadError Unit
  | .maySeeParent _ _ _ => Except LoadError Unit
  | .enter _ _ => Unit
  | .leave _ _ => Unit
  | .bootstrap _ _ => Option Module
  | .find _ _ => Except LoadError FoundModule
  | .produce _ _ => Except LoadError Module
  | .link _ _ => Except LoadError Unit
  | .bootstrapResource _ _ => Option String
  | .resource _ _ => Option String
  | .resources _ _ => List String
  | .library _ _ => Option String

/-- An operation of loaders. -/
abbrev LoaderTask (α : Type) : Type :=
  Interaction Loaders LoaderQuestion LoaderQuestion.Answer α

/-- Asks one question. -/
def LoaderTask.ask (q : LoaderQuestion) : LoaderTask q.Answer :=
  Interaction.question q

namespace Loader

open Interaction

/-- Does something while the loading lock for a name is held. -/
def locked {α : Type} (l : Loader) (name : Name) (body : LoaderTask α) : LoaderTask α := do
  let lock ← transact fun s => s.lockFor l.id name
  LoaderTask.ask (.enter l.id lock)
  let a ← body
  LoaderTask.ask (.leave l.id lock)
  return a

/-- Makes a loader, if the access policy permits it. -/
def create (k : Kind) (parent : Option Loader) (context : Context) :
    LoaderTask (Except LoadError Loader) := do
  let permission : Except LoadError Unit ← LoaderTask.ask (.mayCreate context.key k)
  match permission with
  | .error e => return .error e
  | .ok () => return .ok (← transact fun s => s.create k parent context)

/-- The parent of a loader, for a requester that may see it. -/
def checkedParent (l : Loader) (requester : LoaderId) :
    LoaderTask (Except LoadError (Option Loader)) := do
  let permission : Except LoadError Unit ←
    LoaderTask.ask (.maySeeParent l.context.key l.id requester)
  match permission with
  | .error e => return .error e
  | .ok () => return .ok l.parent?

end Loader

end Loading
