import Loading.Proofs.Loader.Calls

/-!
# What a definition was commissioned with

A definer is asked for a module because somebody called for a definition, or because a
finder found some bytes.  That is not said in the question, but it can be read off from
what has happened before: calls that have returned in the meantime are left out, and
what is left is the operation that asks, back to its last reason for defining.

* `Origin` — where a loader was told that a module comes from.
* `commission?` — what the operations under way were last commissioned with.
* `Requested`, `Yielded` — a definer was asked on some commission, and made a module.
-/

namespace Loading

open Service

/-- Where a loader was told that a module comes from. -/
inductive Origin where
  /-- The finder of the loader found it, and knew its code source or did not. -/
  | found (source : Option CodeSource)
  /-- It was given by a caller, with a domain or without one. -/
  | given (domain : Option ProtectionDomain)

/-- The code source for which the loader itself is to have a domain, or none; a caller
that gives a domain leaves nothing to the loader. -/
def Origin.source? : Origin → Option (Option CodeSource)
  | .found source => some source
  | .given none => some none
  | .given (some _) => none

/-- The reason for a definition. -/
structure Commission where
  /-- The loader that is to define. -/
  loader : LoaderId
  /-- Where it was told that the module comes from. -/
  origin : Origin

/-- A call for a definition is a commission. -/
def LoaderCall.commission? : LoaderCall → Option Commission
  | .create _ _ _ => none
  | .define l _ _ _ _ domain => some ⟨l.id, .given domain⟩
  | .resolve _ _ _ => none

/-- Bytes that a finder has found are a commission. -/
def reported? : loaderService.Event → Option Commission
  | .answered (.find id _) (.ok found) => some ⟨id, .found found.source⟩
  | _ => none

theorem reported?_of_ne {q : LoaderQuestion} (hfind : ∀ id name, q ≠ .find id name)
    (a : q.Answer) : reported? (.answered q a) = none := by
  cases q with
  | find id name => exact absurd rfl (hfind id name)
  | _ => rfl

/-- What an operation was last commissioned with, `depth` operations out from the newest
one under way; the past is read from its newest event on. -/
def commission? : (depth : Nat) → List loaderService.Entry → Option Commission
  | _, [] => none
  | depth, x :: older =>
      match x.event, depth with
      | .ended _ _, depth => commission? (depth + 1) older
      | .began c, 0 => LoaderCall.commission? c
      | .began _, depth + 1 => commission? depth older
      | v, 0 => (reported? v).or (commission? 0 older)
      | _, depth + 1 => commission? (depth + 1) older

/-- A definer was asked on some commission. -/
def Requested (past : List loaderService.Entry) (c : Commission) (r : DefinitionRequest) : Prop :=
  ∃ key s older, ⟨.asked (.produce key r), s⟩ :: older <:+ past ∧ commission? 0 older = some c

/-- A definer has made a module on some commission. -/
def Yielded (past : List loaderService.Entry) (c : Commission) (m : Module) : Prop :=
  ∃ key r s older, ⟨.answered (.produce key r) (.ok m), s⟩ :: older <:+ past ∧
    commission? 0 older = some c

section Commission

variable {s : Loaders} {older : List loaderService.Entry} {depth : Nat}

@[simp] theorem commission?_began (c : LoaderCall) :
    commission? 0 (⟨.began c, s⟩ :: older) = c.commission? := rfl

@[simp] theorem commission?_began_succ (c : LoaderCall) :
    commission? (depth + 1) (⟨.began c, s⟩ :: older) = commission? depth older := rfl

@[simp] theorem commission?_ended (c : LoaderCall) (r : c.Result) :
    commission? depth (⟨.ended c r, s⟩ :: older) = commission? (depth + 1) older := by
  cases depth <;> rfl

@[simp] theorem commission?_changed :
    commission? depth (⟨.changed, s⟩ :: older) = commission? depth older := by
  cases depth with
  | zero => exact Option.none_or
  | succ depth => rfl

@[simp] theorem commission?_asked (q : LoaderQuestion) :
    commission? depth (⟨.asked q, s⟩ :: older) = commission? depth older := by
  cases depth with
  | zero => exact Option.none_or
  | succ depth => rfl

@[simp] theorem commission?_answered (q : LoaderQuestion) (a : q.Answer) :
    commission? 0 (⟨.answered q a, s⟩ :: older) =
      (reported? (.answered q a)).or (commission? 0 older) := rfl

@[simp] theorem commission?_answered_succ (q : LoaderQuestion) (a : q.Answer) :
    commission? (depth + 1) (⟨.answered q a, s⟩ :: older) = commission? (depth + 1) older := rfl

end Commission

end Loading
