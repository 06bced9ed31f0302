/-!
# Interactions

An operation of a loading system is rarely one uninterrupted computation.  It
changes tables for a while, then asks somebody else — a finder, a definer, a
linker, the dynamic loader — and goes on with the answer.  While it waits,
whoever was asked may call operations of its own.

An `Interaction S Q A α` is such an operation as data: it acts on a state of
type `S`, asks questions from `Q`, whose answers have type `A q`, and ends with
an `α`.  Between two questions it always ends, so the type is inductive and
every interpretation of it is structural.

* `run` — the meaning of an interaction when each question is answered by a
  function of the state and of the surroundings.
* `run_bind` — running two interactions in sequence runs the second where the
  first ended.
* `within` — an interaction on a part of a state, seen on the whole.
-/

namespace Loading

/-- An operation that acts on a state `S` and asks questions `q : Q` answered in
`A q`, on its way to a result in `α`. -/
inductive Interaction (S Q : Type) (A : Q → Type) (α : Type) : Type where
  /-- The operation has ended. -/
  | done (a : α)
  /-- One indivisible action: the state is updated, and the rest may depend on
  the state before the update. -/
  | act (update : S → S) (next : S → Interaction S Q A α)
  /-- A question to a collaborator; the rest depends on the answer. -/
  | ask (q : Q) (next : A q → Interaction S Q A α)

namespace Interaction

variable {S Q : Type} {A : Q → Type} {α β γ : Type}

/-- First one interaction, then the one its result leads to. -/
def bind : Interaction S Q A α → (α → Interaction S Q A β) → Interaction S Q A β
  | done a, f => f a
  | act update next, f => act update fun s => (next s).bind f
  | ask q next, f => ask q fun a => (next a).bind f

instance : Monad (Interaction S Q A) where
  pure := done
  bind := bind

/-! ## Single steps -/

/-- One indivisible action with a result. -/
def transact (f : S → α × S) : Interaction S Q A α :=
  act (fun s => (f s).2) fun s => done (f s).1

/-- Looks at the state without changing it. -/
def observe (f : S → α) : Interaction S Q A α :=
  act id fun s => done (f s)

/-- Changes the state without looking at it. -/
def change (f : S → S) : Interaction S Q A Unit :=
  act f fun _ => done ()

/-- Asks one question. -/
def question (q : Q) : Interaction S Q A (A q) :=
  ask q done

/-! ## Running -/

/-- Runs an interaction from a state `s` in surroundings `e`, where `answer`
answers each question and may change both. -/
def run {E : Type} (answer : (q : Q) → S → E → A q × S × E) :
    Interaction S Q A α → S → E → α × S × E
  | done a, s, e => (a, s, e)
  | act update next, s, e => (next s).run answer (update s) e
  | ask q next, s, e =>
      let (a, s, e) := answer q s e
      (next a).run answer s e

/-! ## Widening -/

/-- An interaction on a part `S` of a state `T`, seen on the whole: `part` reads
the part, `replace` puts a new one in, and questions go through `embed`. -/
def within {T P : Type} {B : P → Type} (part : T → S) (replace : S → T → T)
    (embed : Q → P) (reply : (q : Q) → B (embed q) → A q) :
    Interaction S Q A α → Interaction T P B α
  | done a => done a
  | act update next =>
      act (fun t => replace (update (part t)) t)
        fun t => (next (part t)).within part replace embed reply
  | ask q next => ask (embed q) fun b => (next (reply q b)).within part replace embed reply

/-! ## Laws -/

@[simp] theorem pure_eq (a : α) : (pure a : Interaction S Q A α) = done a := rfl

@[simp] theorem bind_done (a : α) (f : α → Interaction S Q A β) :
    (done a : Interaction S Q A α) >>= f = f a := rfl

@[simp] theorem bind_act (update : S → S) (next : S → Interaction S Q A α)
    (f : α → Interaction S Q A β) :
    act update next >>= f = act update fun s => next s >>= f := rfl

@[simp] theorem bind_ask (q : Q) (next : A q → Interaction S Q A α)
    (f : α → Interaction S Q A β) :
    ask q next >>= f = ask q fun a => next a >>= f := rfl

/-- Ending with the result changes nothing. -/
theorem bind_pure (p : Interaction S Q A α) : p >>= done = p := by
  induction p with
  | done a => rfl
  | act update next ih => exact congrArg (act update) (funext ih)
  | ask q next ih => exact congrArg (ask q) (funext ih)

/-- Sequencing does not depend on how steps are grouped. -/
theorem bind_assoc (p : Interaction S Q A α) (f : α → Interaction S Q A β)
    (g : β → Interaction S Q A γ) : p >>= f >>= g = p >>= fun a => f a >>= g := by
  induction p with
  | done a => rfl
  | act update next ih => exact congrArg (act update) (funext ih)
  | ask q next ih => exact congrArg (ask q) (funext ih)

section Run

variable {E : Type} (answer : (q : Q) → S → E → A q × S × E) (s : S) (e : E)

@[simp] theorem run_done (a : α) : (done a : Interaction S Q A α).run answer s e = (a, s, e) :=
  rfl

@[simp] theorem run_act (update : S → S) (next : S → Interaction S Q A α) :
    (act update next).run answer s e = (next s).run answer (update s) e := rfl

@[simp] theorem run_ask (q : Q) (next : A q → Interaction S Q A α) :
    (ask q next).run answer s e =
      (next (answer q s e).1).run answer (answer q s e).2.1 (answer q s e).2.2 := rfl

/-- Running two interactions in sequence runs the second where the first ended. -/
theorem run_bind (p : Interaction S Q A α) (f : α → Interaction S Q A β) :
    (p >>= f).run answer s e =
      (f (p.run answer s e).1).run answer (p.run answer s e).2.1 (p.run answer s e).2.2 := by
  induction p generalizing s e with
  | done a => rfl
  | act update next ih => exact ih s (update s) e
  | ask q next ih => exact ih _ _ _

@[simp] theorem run_transact (f : S → α × S) :
    (transact f : Interaction S Q A α).run answer s e = ((f s).1, (f s).2, e) := rfl

@[simp] theorem run_observe (f : S → α) :
    (observe f : Interaction S Q A α).run answer s e = (f s, s, e) := rfl

@[simp] theorem run_change (f : S → S) :
    (change f : Interaction S Q A Unit).run answer s e = ((), f s, e) := rfl

@[simp] theorem run_question (q : Q) :
    (question q : Interaction S Q A (A q)).run answer s e = answer q s e := rfl

end Run

end Interaction

end Loading
