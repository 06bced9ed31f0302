import Loading.Interaction
import Mathlib.Logic.Relation

/-!
# Services that are called back

A system offers operations, and an operation asks questions.  Whoever is asked
may call further operations before the answer comes, and those may ask in turn,
to any depth.  This file says what such a session looks like from outside, for
any operations at all.

A `Service` lists the operations.  A `Session` holds the state together with the
operations that are under way, newest first; all but the newest wait for an
answer.  `Step` is one step of a session, and everything that happens is written
down in the past of a `Moment`.

* `Rules` — what outside code is allowed to do.
* `Reaches` — where the steps of a session may lead.
* `Session.play` — a session that follows a list of moves.
* `reaches_of_play` — whatever can be played under the rules can be reached.
-/

namespace Loading

/-- The operations that a system offers, each with the interaction that carries it
out. -/
structure Service (S Q : Type) (A : Q → Type) where
  /-- The operations with their arguments. -/
  Call : Type
  /-- What each operation returns. -/
  Result : Call → Type
  /-- How each operation goes. -/
  body : (c : Call) → Interaction S Q A (Result c)

namespace Service

variable {S Q : Type} {A : Q → Type} (P : Service S Q A)

/-! ## Moments -/

/-- What can happen in a session. -/
inductive Event where
  /-- An operation was called. -/
  | began (c : P.Call)
  /-- The state was acted upon. -/
  | changed
  /-- A question was asked. -/
  | asked (q : Q)
  /-- A question was answered. -/
  | answered (q : Q) (a : A q)
  /-- An operation returned. -/
  | ended (c : P.Call) (r : P.Result c)

/-- An event with the state right after it. -/
structure Entry where
  /-- What happened. -/
  event : P.Event
  /-- The state after that. -/
  state : S

/-- A point in time: the state, and all that happened before, newest first. -/
structure Moment where
  /-- The state. -/
  state : S
  /-- What happened so far. -/
  past : List P.Entry

variable {P}

/-- The moment after an event that leads to a state. -/
def Moment.after (m : P.Moment) (e : P.Event) (s : S) : P.Moment :=
  ⟨s, ⟨e, s⟩ :: m.past⟩

/-- The moment after an event that leaves the state as it is. -/
def Moment.note (m : P.Moment) (e : P.Event) : P.Moment :=
  m.after e m.state

/-- The moment after an action. -/
def Moment.change (m : P.Moment) (s : S) : P.Moment :=
  m.after .changed s

@[simp] theorem Moment.after_state (m : P.Moment) (e : P.Event) (s : S) :
    (m.after e s).state = s := rfl

@[simp] theorem Moment.after_past (m : P.Moment) (e : P.Event) (s : S) :
    (m.after e s).past = ⟨e, s⟩ :: m.past := rfl

@[simp] theorem Moment.note_state (m : P.Moment) (e : P.Event) : (m.note e).state = m.state :=
  rfl

@[simp] theorem Moment.note_past (m : P.Moment) (e : P.Event) :
    (m.note e).past = ⟨e, m.state⟩ :: m.past := rfl

@[simp] theorem Moment.change_state (m : P.Moment) (s : S) : (m.change s).state = s := rfl

@[simp] theorem Moment.change_past (m : P.Moment) (s : S) :
    (m.change s).past = ⟨.changed, s⟩ :: m.past := rfl

variable (P)

/-! ## Sessions -/

/-- How far an operation has come. -/
inductive Stage (α : Type) where
  /-- It goes on. -/
  | running (rest : Interaction S Q A α)
  /-- It has been waiting for an answer since some moment. -/
  | waiting (since : P.Moment) (q : Q) (next : A q → Interaction S Q A α)

/-- An operation that is under way. -/
structure Frame where
  /-- Which operation it is. -/
  call : P.Call
  /-- The moment at which it was called. -/
  entry : P.Moment
  /-- How far it has come. -/
  stage : P.Stage (P.Result call)

/-- A moment with the operations that are under way, newest first. -/
structure Session where
  /-- The present moment. -/
  now : P.Moment
  /-- The operations under way. -/
  frames : List P.Frame

/-- The session in which nothing has happened yet. -/
def Session.start {P : Service S Q A} (s : S) : P.Session :=
  ⟨⟨s, []⟩, []⟩

variable {P}

/-- Does the operation wait for an answer? -/
def Stage.isWaiting {α : Type} : P.Stage α → Bool
  | .running _ => false
  | .waiting _ _ _ => true

/-- Outside code has the word: nothing is under way, or the newest operation
waits for an answer. -/
def Idle : List P.Frame → Bool
  | [] => true
  | f :: _ => f.stage.isWaiting

variable (P)

/-- What outside code is allowed to do when it has the word. -/
structure Rules where
  /-- The operations it may call. -/
  mayCall : P.Moment → P.Call → Prop
  /-- The answers it may give. -/
  mayAnswer : P.Moment → (q : Q) → A q → Prop
  /-- What it may make of the state without calling an operation. -/
  mayChange : P.Moment → S → Prop

variable {P} (R : P.Rules)

/-- One step of a session. -/
inductive Step : P.Session → P.Session → Prop
  | call {m : P.Moment} {fs : List P.Frame} {c : P.Call} (idle : Idle fs = true)
      (h : R.mayCall m c) :
      Step ⟨m, fs⟩ ⟨m.note (.began c), ⟨c, m, .running (P.body c)⟩ :: fs⟩
  | act {m e : P.Moment} {fs : List P.Frame} {c : P.Call} {update : S → S}
      {next : S → Interaction S Q A (P.Result c)} :
      Step ⟨m, ⟨c, e, .running (.act update next)⟩ :: fs⟩
        ⟨m.change (update m.state), ⟨c, e, .running (next m.state)⟩ :: fs⟩
  | ask {m e : P.Moment} {fs : List P.Frame} {c : P.Call} {q : Q}
      {next : A q → Interaction S Q A (P.Result c)} :
      Step ⟨m, ⟨c, e, .running (.ask q next)⟩ :: fs⟩
        ⟨m.note (.asked q), ⟨c, e, .waiting (m.note (.asked q)) q next⟩ :: fs⟩
  | answer {m e since : P.Moment} {fs : List P.Frame} {c : P.Call} {q : Q}
      {next : A q → Interaction S Q A (P.Result c)} {a : A q} (h : R.mayAnswer m q a) :
      Step ⟨m, ⟨c, e, .waiting since q next⟩ :: fs⟩
        ⟨m.note (.answered q a), ⟨c, e, .running (next a)⟩ :: fs⟩
  | finish {m e : P.Moment} {fs : List P.Frame} {c : P.Call} {r : P.Result c} :
      Step ⟨m, ⟨c, e, .running (.done r)⟩ :: fs⟩ ⟨m.note (.ended c r), fs⟩
  | outside {m : P.Moment} {fs : List P.Frame} {s : S} (idle : Idle fs = true)
      (h : R.mayChange m s) : Step ⟨m, fs⟩ ⟨m.change s, fs⟩

/-- A session leads to another one by any number of steps. -/
def Reaches : P.Session → P.Session → Prop :=
  Relation.ReflTransGen (Step R)

variable {R}

/-- A step makes one thing happen. -/
theorem Step.now_eq {σ τ : P.Session} (h : Step R σ τ) : ∃ v s, τ.now = σ.now.after v s := by
  cases h <;> exact ⟨_, _, rfl⟩

/-- What some rules allow, more liberal ones allow. -/
theorem Step.mono {R' : P.Rules} (hcall : ∀ m c, R.mayCall m c → R'.mayCall m c)
    (hanswer : ∀ m q a, R.mayAnswer m q a → R'.mayAnswer m q a)
    (hchange : ∀ m s, R.mayChange m s → R'.mayChange m s) {σ τ : P.Session} (h : Step R σ τ) :
    Step R' σ τ := by
  cases h with
  | call idle h => exact .call idle (hcall _ _ h)
  | act => exact .act
  | ask => exact .ask
  | answer h => exact .answer (hanswer _ _ _ h)
  | finish => exact .finish
  | outside idle h => exact .outside idle (hchange _ _ h)

theorem Reaches.mono {R' : P.Rules} (hcall : ∀ m c, R.mayCall m c → R'.mayCall m c)
    (hanswer : ∀ m q a, R.mayAnswer m q a → R'.mayAnswer m q a)
    (hchange : ∀ m s, R.mayChange m s → R'.mayChange m s) {σ τ : P.Session}
    (h : Reaches R σ τ) : Reaches R' σ τ := by
  induction h with
  | refl => exact .refl
  | tail _ hstep ih => exact ih.tail (hstep.mono hcall hanswer hchange)

/-- What has happened stays in the past. -/
theorem Step.past {σ τ : P.Session} (h : Step R σ τ) : σ.now.past <:+ τ.now.past := by
  cases h <;> exact List.suffix_cons _ _

theorem Reaches.past {σ τ : P.Session} (h : Reaches R σ τ) : σ.now.past <:+ τ.now.past := by
  induction h with
  | refl => exact List.suffix_refl _
  | tail _ hstep ih => exact ih.trans hstep.past

/-- The state is the one after what happened last, if anything has happened. -/
theorem Reaches.now_state {s : S} {σ : P.Session} (h : Reaches R (.start s) σ) :
    σ.now.state = s ∨ ∃ x older, σ.now.past = x :: older ∧ x.state = σ.now.state := by
  induction h with
  | refl => exact Or.inl rfl
  | tail _ hstep _ =>
      obtain ⟨v, s', hnow⟩ := hstep.now_eq
      rw [hnow]
      exact Or.inr ⟨_, _, rfl, rfl⟩

/-- What happened last left the present state. -/
theorem Reaches.newest {s : S} {σ : P.Session} (h : Reaches R (.start s) σ) {x : P.Entry}
    {older : List P.Entry} (hpast : σ.now.past = x :: older) : x.state = σ.now.state := by
  cases h with
  | refl => cases hpast
  | tail _ hstep =>
      obtain ⟨v, s', hnow⟩ := hstep.now_eq
      rw [hnow] at hpast ⊢
      exact (List.cons.inj hpast).1 ▸ rfl

/-- Whatever happened was once what happened last. -/
theorem Reaches.visited {s : S} {σ : P.Session} (h : Reaches R (.start s) σ) {x : P.Entry}
    (hx : x ∈ σ.now.past) :
    ∃ ρ, Reaches R (.start s) ρ ∧ Reaches R ρ σ ∧ ρ.now.state = x.state := by
  induction h with
  | refl => cases hx
  | @tail ρ τ hreach hstep ih =>
      obtain ⟨v, s', hnow⟩ := hstep.now_eq
      rw [hnow] at hx
      rcases List.mem_cons.1 hx with rfl | hx
      · exact ⟨τ, hreach.tail hstep, .refl, by rw [hnow]; rfl⟩
      · obtain ⟨ρ', hstart, hρ', hstate⟩ := ih hx
        exact ⟨ρ', hstart, hρ'.tail hstep, hstate⟩

/-- Whatever happens without a change of the state happens in the state that was left
before. -/
theorem Reaches.unchanged {s : S} {σ : P.Session} (h : Reaches R (.start s) σ)
    {newer older : List P.Entry} {x y : P.Entry} (hpast : σ.now.past = newer ++ x :: y :: older)
    (hquiet : x.event ≠ .changed) : x.state = y.state := by
  induction h generalizing newer with
  | refl => simp [Session.start] at hpast
  | @tail ρ τ hreach hstep ih =>
      cases newer with
      | cons z newer =>
          obtain ⟨v, s', hnow⟩ := hstep.now_eq
          rw [hnow] at hpast
          exact ih (List.cons.inj hpast).2
      | nil =>
          have hbefore : ∀ {v}, ⟨v, ρ.now.state⟩ :: ρ.now.past = x :: y :: older →
              x.state = y.state := by
            intro v heq
            obtain ⟨rfl, hrest⟩ := List.cons.inj heq
            exact (Reaches.newest hreach hrest).symm
          cases hstep with
          | act | outside _ _ =>
              obtain ⟨rfl, -⟩ := List.cons.inj hpast
              exact absurd rfl hquiet
          | call _ _ | ask | answer _ | finish => exact hbefore hpast

/-- An operation that is about to return does so, and that is noted. -/
theorem Reaches.ended {m e : P.Moment} {fs : List P.Frame} {c : P.Call} {r : P.Result c}
    {τ : P.Session} (h : Reaches R ⟨m, ⟨c, e, .running (.done r)⟩ :: fs⟩ τ) :
    τ = ⟨m, ⟨c, e, .running (.done r)⟩ :: fs⟩ ∨ ⟨.ended c r, m.state⟩ ∈ τ.now.past := by
  rcases Relation.ReflTransGen.cases_head h with heq | ⟨ρ, hstep, hrest⟩
  · exact Or.inl heq.symm
  · refine Or.inr ((Reaches.past hrest).subset ?_)
    cases hstep with
    | call idle _ => simp [Idle, Stage.isWaiting] at idle
    | finish => exact List.mem_cons_self
    | outside idle _ => simp [Idle, Stage.isWaiting] at idle

/-! ## Playing a session -/

variable (R)

/-- The actions of an interaction up to its next question or its end. -/
def settle {α : Type} : Interaction S Q A α → P.Moment → P.Moment × Interaction S Q A α
  | .act update next, m => settle (next m.state) (m.change (update m.state))
  | p, m => (m, p)

variable (P)

/-- A move of outside code. -/
inductive Move where
  /-- Call an operation. -/
  | call (c : P.Call)
  /-- Answer the newest question. -/
  | answer (q : Q) (a : A q)
  /-- Let the newest operation return. -/
  | finish
  /-- Change the state. -/
  | change (s : S)

variable {P}

/-- Lets an operation act until it asks or ends. -/
def advance (c : P.Call) (e m : P.Moment) (fs : List P.Frame)
    (p : Interaction S Q A (P.Result c)) : P.Session :=
  match settle p m with
  | (m, .ask q next) => ⟨m.note (.asked q), ⟨c, e, .waiting (m.note (.asked q)) q next⟩ :: fs⟩
  | (m, p) => ⟨m, ⟨c, e, .running p⟩ :: fs⟩

/-- The session after a move, where the move is possible. -/
def Session.move [DecidableEq Q] (σ : P.Session) : P.Move → Option P.Session
  | .call c =>
      if Idle σ.frames then
        some (advance c σ.now (σ.now.note (.began c)) σ.frames (P.body c))
      else none
  | .answer q a =>
      match σ.frames with
      | ⟨c, e, .waiting _ q' next⟩ :: fs =>
          if h : q = q' then
            some (advance c e (σ.now.note (.answered q a)) fs (next (h ▸ a)))
          else none
      | _ => none
  | .finish =>
      match σ.frames with
      | ⟨c, _, .running (.done r)⟩ :: fs => some ⟨σ.now.note (.ended c r), fs⟩
      | _ => none
  | .change s => if Idle σ.frames then some ⟨σ.now.change s, σ.frames⟩ else none

/-- The session after some moves, where they are possible. -/
def Session.play [DecidableEq Q] : List P.Move → P.Session → Option P.Session
  | [], σ => some σ
  | mv :: rest, σ => (σ.move mv).bind fun τ => τ.play rest

/-- Do the rules allow a move? -/
def Rules.Allows (m : P.Moment) : P.Move → Prop
  | .call c => R.mayCall m c
  | .answer q a => R.mayAnswer m q a
  | .finish => True
  | .change s => R.mayChange m s

/-- Do the rules allow some moves, one after the other? -/
def Rules.AllowsAll [DecidableEq Q] : List P.Move → P.Session → Prop
  | [], _ => True
  | mv :: rest, σ => R.Allows σ.now mv ∧ ∀ τ ∈ σ.move mv, Rules.AllowsAll rest τ

variable {R}

theorem allowsAll_cons [DecidableEq Q] {mv : P.Move} {moves : List P.Move} {σ τ : P.Session}
    (hmv : R.Allows σ.now mv) (hmove : σ.move mv = some τ) (h : R.AllowsAll moves τ) :
    R.AllowsAll (mv :: moves) σ := by
  refine ⟨hmv, fun ρ hρ => ?_⟩
  obtain rfl : τ = ρ := Option.some.inj (hmove.symm.trans hρ)
  exact h

theorem reaches_settle {c : P.Call} {e : P.Moment} {fs : List P.Frame}
    (p : Interaction S Q A (P.Result c)) (m : P.Moment) :
    Reaches R ⟨m, ⟨c, e, .running p⟩ :: fs⟩
      ⟨(settle p m).1, ⟨c, e, .running (settle p m).2⟩ :: fs⟩ := by
  induction p generalizing m with
  | done r => exact .refl
  | ask q next _ => exact .refl
  | act update next ih => exact .head .act (ih m.state (m.change (update m.state)))

theorem reaches_advance {c : P.Call} {e m : P.Moment} {fs : List P.Frame}
    {p : Interaction S Q A (P.Result c)} :
    Reaches R ⟨m, ⟨c, e, .running p⟩ :: fs⟩ (advance c e m fs p) := by
  have h : Reaches R ⟨m, ⟨c, e, .running p⟩ :: fs⟩
      ⟨(settle p m).1, ⟨c, e, .running (settle p m).2⟩ :: fs⟩ := reaches_settle p m
  unfold advance
  split
  · rename_i m' q next heq
    rw [heq] at h
    exact h.tail .ask
  · rename_i m' p' _ heq
    rw [heq] at h
    exact h

theorem reaches_move [DecidableEq Q] {σ τ : P.Session} {mv : P.Move}
    (allowed : R.Allows σ.now mv) (h : σ.move mv = some τ) : Reaches R σ τ := by
  obtain ⟨m, fs⟩ := σ
  cases mv with
  | call c =>
      simp only [Session.move, Option.ite_none_right_eq_some, Option.some.injEq] at h
      obtain ⟨idle, rfl⟩ := h
      exact .head (.call idle allowed) reaches_advance
  | answer q a =>
      simp only [Session.move] at h
      split at h
      · split at h
        · rename_i hq
          subst hq
          simp only [Option.some.injEq] at h
          subst h
          exact .head (.answer allowed) reaches_advance
        · simp at h
      · simp at h
  | finish =>
      simp only [Session.move] at h
      split at h
      · simp only [Option.some.injEq] at h
        subst h
        exact .single .finish
      · simp at h
  | change s =>
      simp only [Session.move, Option.ite_none_right_eq_some, Option.some.injEq] at h
      obtain ⟨idle, rfl⟩ := h
      exact .single (.outside idle allowed)

/-- Whatever can be played under the rules can be reached. -/
theorem reaches_of_play [DecidableEq Q] {moves : List P.Move} {σ τ : P.Session}
    (allowed : R.AllowsAll moves σ) (h : σ.play moves = some τ) : Reaches R σ τ := by
  induction moves generalizing σ with
  | nil =>
      simp only [Session.play, Option.some.injEq] at h
      subst h
      exact .refl
  | cons mv rest ih =>
      simp only [Session.play, Option.bind_eq_some_iff] at h
      obtain ⟨ρ, hρ, hτ⟩ := h
      have hstep : Reaches R σ ρ := reaches_move allowed.1 hρ
      exact hstep.trans (ih (allowed.2 ρ hρ) hτ)

end Service

end Loading
