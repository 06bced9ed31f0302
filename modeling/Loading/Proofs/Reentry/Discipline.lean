import Loading.Proofs.Reentry.Session

/-!
# Disciplines

How to prove something of every session of a service, however often its
operations are called back.

A `Discipline` names an invariant that holds whenever outside code has the word,
and a relation that says what outside code leaves in place between a question and
its answer.  `Keeps` follows a single operation: at each question the invariant
is there, and from each answer on the operation goes on from any later moment
that the relation permits.  Since whole operations are themselves such that the
relation holds between their call and their return, nothing more has to be known
of the operations that are called in between.

* `Keeps` — an operation does its part, whatever it is answered.
* `keeps_bind`, `Keeps.mono` — one operation after another; a weaker conclusion.
* `Discipline.upheld` — what a discipline says of every session that can be
  reached.
* `Discipline.returned` — what every operation has promised that returned.
* `Discipline.under` — the same discipline where outside code may change more.
-/

namespace Loading
namespace Service

variable {S Q : Type} {A : Q → Type}

/-- What holds whenever outside code has the word, and what outside code leaves in
place. -/
structure Terms (P : Service S Q A) where
  /-- What outside code is allowed to do. -/
  rules : P.Rules
  /-- What holds whenever outside code has the word. -/
  Inv : P.Moment → Prop
  /-- What is the same at a later moment at which outside code still has the word. -/
  Stable : P.Moment → P.Moment → Prop

variable {P : Service S Q A} {α β : Type}

/-! ## Following one operation -/

/-- From a moment on, an interaction asks only where the invariant holds and
`asking` does, whatever it is answered and whatever happens before the answer, and
it ends in `post`. -/
def Keeps (T : Terms P) (asking : P.Moment → Q → Prop) (post : P.Moment → α → Prop) :
    Interaction S Q A α → P.Moment → Prop
  | .done a, m => post m a
  | .act update next, m => Keeps T asking post (next m.state) (m.change (update m.state))
  | .ask q next, m =>
      (T.Inv (m.note (.asked q)) ∧ asking (m.note (.asked q)) q) ∧
        ∀ m' a, T.Inv m' → T.Stable (m.note (.asked q)) m' → T.rules.mayAnswer m' q a →
          Keeps T asking post (next a) (m'.note (.answered q a))

section Keeps

variable {T : Terms P} {asking asking' : P.Moment → Q → Prop}
  {post post' : P.Moment → α → Prop} {m : P.Moment}

/-- An operation that keeps more keeps less. -/
theorem Keeps.mono {p : Interaction S Q A α} (h : Keeps T asking post p m)
    (hasking : ∀ m q, asking m q → asking' m q) (hpost : ∀ m a, post m a → post' m a) :
    Keeps T asking' post' p m := by
  induction p generalizing m with
  | done a => exact hpost m a h
  | act update next ih => exact ih _ h
  | ask q next ih =>
      refine ⟨⟨h.1.1, hasking _ _ h.1.2⟩, ?_⟩
      intro m' a hinv hstable hanswer
      exact ih a (h.2 m' a hinv hstable hanswer)

/-- Other terms under which the same holds and no more is left open keep the same. -/
theorem Keeps.of_terms {T' : Terms P} {p : Interaction S Q A α} (h : Keeps T asking post p m)
    (hinv : ∀ m, T'.Inv m ↔ T.Inv m) (hstable : ∀ m m', T'.Stable m m' → T.Stable m m')
    (hanswer : ∀ m q a, T'.rules.mayAnswer m q a → T.rules.mayAnswer m q a) :
    Keeps T' asking post p m := by
  induction p generalizing m with
  | done a => exact h
  | act update next ih => exact ih _ h
  | ask q next ih =>
      refine ⟨⟨(hinv _).2 h.1.1, h.1.2⟩, fun m' a hm' hlater ha => ?_⟩
      exact ih a (h.2 m' a ((hinv m').1 hm') (hstable _ _ hlater) (hanswer m' q a ha))

theorem Keeps.weaken {p : Interaction S Q A α} (h : Keeps T asking post p m)
    (hpost : ∀ m a, post m a → post' m a) : Keeps T asking post' p m :=
  h.mono (fun _ _ hq => hq) hpost

/-- One operation after another keeps what the second keeps where the first ends. -/
theorem keeps_bind {p : Interaction S Q A α} {f : α → Interaction S Q A β}
    {post : P.Moment → β → Prop} :
    Keeps T asking post (p >>= f) m ↔
      Keeps T asking (fun m a => Keeps T asking post (f a) m) p m := by
  induction p generalizing m with
  | done a => exact Iff.rfl
  | act update next ih => exact ih _
  | ask q next ih =>
      refine and_congr Iff.rfl ?_
      refine forall_congr' fun m' => forall_congr' fun a => ?_
      exact imp_congr_right fun _ => imp_congr_right fun _ => imp_congr_right fun _ => ih a

theorem keeps_transact {f : S → α × S} :
    Keeps T asking post (Interaction.transact f) m ↔
      post (m.change (f m.state).2) (f m.state).1 := Iff.rfl

theorem keeps_observe {f : S → α} :
    Keeps T asking post (Interaction.observe f) m ↔ post (m.change m.state) (f m.state) :=
  Iff.rfl

end Keeps

/-! ## Following a whole session -/

/-- An invariant for every session of a service, with what is known of each
operation when it asks and when it returns. -/
structure Discipline (P : Service S Q A) extends Terms P where
  /-- What an operation that was called at one moment asks at another. -/
  asking : P.Call → P.Moment → P.Moment → Q → Prop
  /-- What an operation that was called at one moment returns at another. -/
  returning : (c : P.Call) → P.Moment → P.Moment → P.Result c → Prop
  /-- Nothing has changed at once. -/
  refl : ∀ m, Stable m m
  /-- What is left in place twice is left in place. -/
  trans : ∀ {m₁ m₂ m₃}, Stable m₁ m₂ → Stable m₂ m₃ → Stable m₁ m₃
  /-- Changes without an operation are harmless. -/
  outside : ∀ {m s}, Inv m → rules.mayChange m s → Inv (m.change s) ∧ Stable m (m.change s)
  /-- Every operation does its part. -/
  keeps : ∀ {m c}, Inv m → rules.mayCall m c →
    Keeps toTerms (asking c m)
      (fun m' r => returning c m m' r ∧ Inv (m'.note (.ended c r)) ∧
        Stable m (m'.note (.ended c r)))
      (P.body c) (m.note (.began c))

namespace Discipline

variable (D : Discipline P) (start : P.Moment)

/-- What an operation promises that was called at `entry` and has returned. -/
abbrev Promised (c : P.Call) (entry m : P.Moment) (r : P.Result c) : Prop :=
  D.returning c entry m r ∧ D.Inv (m.note (.ended c r)) ∧ D.Stable entry (m.note (.ended c r))

/-- What is known of an operation that has been waiting until a moment. -/
structure Waits (f : P.Frame) (since : P.Moment) (q : Q)
    (next : A q → Interaction S Q A (P.Result f.call)) (m : P.Moment) : Prop where
  /-- It waits since that moment, for an answer to that question. -/
  stage : f.stage = .waiting since q next
  /-- The invariant held when it asked. -/
  inv : D.Inv since
  /-- It asked as it should. -/
  asking : D.asking f.call f.entry since q
  /-- Since then nothing happened that it could not bear. -/
  stable : D.Stable since m
  /-- It goes on from any answer. -/
  next : ∀ m' a, D.Inv m' → D.Stable since m' → D.rules.mayAnswer m' q a →
    Keeps D.toTerms (D.asking f.call f.entry) (D.Promised f.call f.entry) (next a)
      (m'.note (.answered q a))

/-- All the operations wait, each since a moment that the next one was called
after. -/
def Resting : List P.Frame → P.Moment → Prop
  | [], m => D.Stable start m
  | f :: fs, m => (∃ since q next, D.Waits f since q next m) ∧ Resting fs f.entry

/-- What a discipline says of a session. -/
inductive Upheld : P.Session → Prop
  | idle {m : P.Moment} {fs : List P.Frame} (inv : D.Inv m) (rest : D.Resting start fs m) :
      Upheld ⟨m, fs⟩
  | busy {m e : P.Moment} {fs : List P.Frame} {c : P.Call}
      {p : Interaction S Q A (P.Result c)}
      (keeps : Keeps D.toTerms (D.asking c e) (D.Promised c e) p m)
      (rest : D.Resting start fs e) : Upheld ⟨m, ⟨c, e, .running p⟩ :: fs⟩

variable {D start}

/-- What outside code leaves in place keeps the waiting operations at rest. -/
theorem Resting.later {fs : List P.Frame} {m m' : P.Moment} (h : D.Resting start fs m)
    (hstable : D.Stable m m') : D.Resting start fs m' := by
  cases fs with
  | nil => exact D.trans h hstable
  | cons f fs =>
      obtain ⟨⟨since, q, next, hw⟩, hrest⟩ := h
      exact ⟨⟨since, q, next, { hw with stable := D.trans hw.stable hstable }⟩, hrest⟩

/-- Where all operations are at rest, outside code has the word. -/
theorem Resting.isIdle {fs : List P.Frame} {m : P.Moment} (h : D.Resting start fs m) :
    Idle fs = true := by
  cases fs with
  | nil => rfl
  | cons f fs =>
      obtain ⟨⟨since, q, next, hw⟩, -⟩ := h
      show f.stage.isWaiting = true
      rw [hw.stage]
      rfl

/-- Each of the operations that are at rest waits as it should. -/
theorem Resting.of_mem {fs : List P.Frame} {f : P.Frame} {m : P.Moment}
    (h : D.Resting start fs m) (hf : f ∈ fs) : ∃ since q next m', D.Waits f since q next m' := by
  induction fs generalizing m with
  | nil => simp at hf
  | cons g fs ih =>
      obtain ⟨⟨since, q, next, hw⟩, hrest⟩ := h
      rcases List.mem_cons.1 hf with rfl | hf
      · exact ⟨since, q, next, m, hw⟩
      · exact ih hrest hf

/-- A step keeps a discipline upheld. -/
theorem Upheld.step {σ τ : P.Session} (h : D.Upheld start σ) (hs : Step D.rules σ τ) :
    D.Upheld start τ := by
  cases hs with
  | call idle hcall =>
      cases h with
      | idle inv rest => exact .busy (D.keeps inv hcall) rest
      | busy _ _ => simp [Idle, Stage.isWaiting] at idle
  | act =>
      cases h with
      | idle _ rest => obtain ⟨⟨since, q, next, hw⟩, _⟩ := rest; simpa using hw.stage
      | busy keeps rest => exact .busy keeps rest
  | ask =>
      cases h with
      | idle _ rest => obtain ⟨⟨since, q, next, hw⟩, _⟩ := rest; simpa using hw.stage
      | busy keeps rest =>
          refine .idle keeps.1.1 ⟨⟨_, _, _, ⟨rfl, keeps.1.1, keeps.1.2, D.refl _, ?_⟩⟩, rest⟩
          exact keeps.2
  | answer hanswer =>
      cases h with
      | idle inv rest =>
          obtain ⟨⟨since, q, next, hw⟩, hrest⟩ := rest
          obtain ⟨rfl, rfl, hnext⟩ := Stage.waiting.inj hw.stage
          cases hnext
          exact .busy (hw.next _ _ inv hw.stable hanswer) hrest
  | finish =>
      cases h with
      | idle _ rest => obtain ⟨⟨since, q, next, hw⟩, _⟩ := rest; simpa using hw.stage
      | busy keeps rest => exact .idle keeps.2.1 (rest.later keeps.2.2)
  | outside idle hchange =>
      cases h with
      | idle inv rest =>
          obtain ⟨hinv, hstable⟩ := D.outside inv hchange
          exact .idle hinv (rest.later hstable)
      | busy _ _ => simp [Idle, Stage.isWaiting] at idle

/-- A discipline is upheld in every session that can be reached. -/
theorem upheld {s : S} (hs : D.Inv ⟨s, []⟩) {σ : P.Session}
    (h : Reaches D.rules (.start s) σ) : D.Upheld ⟨s, []⟩ σ := by
  induction h with
  | refl => exact .idle hs (D.refl _)
  | tail _ hstep ih => exact ih.step hstep

/-- The invariant holds whenever outside code has the word. -/
theorem Upheld.inv {σ : P.Session} (h : D.Upheld start σ) (idle : Idle σ.frames = true) :
    D.Inv σ.now := by
  cases h with
  | idle inv _ => exact inv
  | busy _ _ => simp [Idle, Stage.isWaiting] at idle

/-- Whenever outside code has the word, all operations under way are at rest. -/
theorem Upheld.resting {σ : P.Session} (h : D.Upheld start σ) (idle : Idle σ.frames = true) :
    D.Resting start σ.frames σ.now := by
  cases h with
  | idle _ rest => exact rest
  | busy _ _ => simp [Idle, Stage.isWaiting] at idle

/-- At every time, an operation that waits has asked as it should. -/
theorem Upheld.asked {σ : P.Session} (h : D.Upheld start σ) {f : P.Frame} (hf : f ∈ σ.frames)
    {since : P.Moment} {q : Q} {next : A q → Interaction S Q A (P.Result f.call)}
    (hstage : f.stage = .waiting since q next) :
    D.Inv since ∧ D.asking f.call f.entry since q := by
  have hwaits : ∃ since q next m, D.Waits f since q next m := by
    cases h with
    | idle _ rest => exact rest.of_mem hf
    | busy _ rest =>
        rcases List.mem_cons.1 hf with rfl | hf
        · simp at hstage
        · exact rest.of_mem hf
  obtain ⟨since', q', next', m, hw⟩ := hwaits
  obtain ⟨rfl, rfl, -⟩ := Stage.waiting.inj (hstage.symm.trans hw.stage)
  exact ⟨hw.inv, hw.asking⟩

/-- An operation that is about to return keeps its promise. -/
theorem Upheld.promised {m e : P.Moment} {fs : List P.Frame} {c : P.Call} {r : P.Result c}
    (h : D.Upheld start ⟨m, ⟨c, e, .running (.done r)⟩ :: fs⟩) : D.Promised c e m r := by
  cases h with
  | idle _ rest => obtain ⟨⟨since, q, next, hw⟩, _⟩ := rest; simpa using hw.stage
  | busy keeps _ => exact keeps

/-- Every operation that has returned kept its promise when it did. -/
theorem returned {s : S} (hs : D.Inv ⟨s, []⟩) {σ : P.Session}
    (h : Reaches D.rules (.start s) σ) {newer older : List P.Entry} {x : P.Entry}
    (hpast : σ.now.past = newer ++ x :: older) {c : P.Call} {r : P.Result c}
    (hevent : x.event = .ended c r) : ∃ e, D.Promised c e ⟨x.state, older⟩ r := by
  induction h generalizing newer with
  | refl => simp [Session.start] at hpast
  | @tail ρ τ hreach hstep ih =>
      cases newer with
      | nil =>
          have hupheld := D.upheld hs hreach
          -- The newest event is the return itself.
          cases hstep with
          | finish =>
              obtain ⟨rfl, rfl⟩ := List.cons.inj hpast
              cases hevent
              exact ⟨_, hupheld.promised⟩
          | call _ _ | act | ask | answer _ | outside _ _ =>
              obtain ⟨rfl, rfl⟩ := List.cons.inj hpast
              cases hevent
      | cons y newer =>
          obtain ⟨v, s', hnow⟩ := hstep.now_eq
          rw [hnow] at hpast
          exact ih (List.cons.inj hpast).2

/-- From every point on, outside code gets the word again. -/
theorem Upheld.surfaces {σ : P.Session} (h : D.Upheld start σ) :
    ∃ τ, Reaches D.rules σ τ ∧ Idle τ.frames = true ∧ D.Inv τ.now := by
  cases h with
  | idle inv rest => exact ⟨_, .refl, rest.isIdle, inv⟩
  | @busy m e fs c p keeps rest =>
      induction p generalizing m with
      | done r =>
          exact ⟨⟨m.note (.ended c r), fs⟩, .single .finish, rest.isIdle, keeps.2.1⟩
      | act update next ih =>
          obtain ⟨τ, hτ, hidle, hinv⟩ := ih m.state keeps
          exact ⟨τ, .head .act hτ, hidle, hinv⟩
      | ask q next _ => exact ⟨_, .single .ask, rfl, keeps.1.1⟩

/-! ## Other changes from outside -/

/-- What outside code may change matters to a discipline only where outside code has
the word. -/
def under (D : Discipline P) (mayChange : P.Moment → S → Prop)
    (harmless : ∀ {m s}, D.Inv m → mayChange m s →
      D.Inv (m.change s) ∧ D.Stable m (m.change s)) : Discipline P where
  rules := { D.rules with mayChange := mayChange }
  Inv := D.Inv
  Stable := D.Stable
  asking := D.asking
  returning := D.returning
  refl := D.refl
  trans := D.trans
  outside := harmless
  keeps hinv hcall :=
    (D.keeps hinv hcall).of_terms (fun _ => Iff.rfl) (fun _ _ h => h) fun _ _ _ h => h

end Discipline

end Service
end Loading
