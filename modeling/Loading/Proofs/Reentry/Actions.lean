import Loading.Proofs.Reentry.Session

/-!
# What operations do to the state

A session changes its state in two ways: an operation acts, or outside code makes
a change of its own.  What every such change respects, the whole session respects,
and nothing has to be known of the order in which operations are nested.

* `Interaction.Acts` — every action of an operation respects a relation.
* `Service.Reaches.respects` — so does all that happens after any moment.
* `Service.Reaches.answered` — every answer was permitted when it was given.
* `Service.reaches_run` — a run of an operation is a way that a session may take.
-/

namespace Loading

namespace Interaction

variable {S Q : Type} {A : Q → Type} {α : Type} {R R' : S → S → Prop}

/-- Every action changes the state as is allowed, whatever was answered before. -/
def Acts (R : S → S → Prop) : Interaction S Q A α → Prop
  | .done _ => True
  | .act update next => ∀ s, R s (update s) ∧ (next s).Acts R
  | .ask _ next => ∀ a, (next a).Acts R

theorem Acts.mono {p : Interaction S Q A α} (h : p.Acts R) (hR : ∀ s s', R s s' → R' s s') :
    p.Acts R' := by
  induction p with
  | done a => trivial
  | act update next ih => exact fun s => ⟨hR _ _ (h s).1, ih s (h s).2⟩
  | ask q next ih => exact fun a => ih a (h a)

/-- What every action and everyone who is asked respects, a run respects. -/
theorem Acts.run {E : Type} {answer : (q : Q) → S → E → A q × S × E} {p : Interaction S Q A α}
    (h : p.Acts R) (hrefl : ∀ s, R s s) (htrans : ∀ {s₁ s₂ s₃}, R s₁ s₂ → R s₂ s₃ → R s₁ s₃)
    (hanswer : ∀ q s e, R s (answer q s e).2.1) (s : S) (e : E) : R s (p.run answer s e).2.1 := by
  induction p generalizing s e with
  | done a => exact hrefl s
  | act update next ih => exact htrans (h s).1 (ih s (h s).2 (update s) e)
  | ask q next ih => exact htrans (hanswer q s e) (ih _ (h _) _ _)

end Interaction

namespace Service

variable {S Q : Type} {A : Q → Type} {P : Service S Q A} {R : P.Rules}

/-! ## What a session respects -/

/-- An operation acts as is allowed on the rest of its way. -/
def Stage.Acts {α : Type} (Rel : S → S → Prop) : P.Stage α → Prop
  | .running rest => rest.Acts Rel
  | .waiting _ _ next => ∀ a, (next a).Acts Rel

section Respects

variable {Rel : S → S → Prop} {σ τ : P.Session}

/-- In one step, the state changes as is allowed, and so it will. -/
theorem Step.respects (hrefl : ∀ s, Rel s s) (hbody : ∀ c, (P.body c).Acts Rel)
    (hchange : ∀ m s, R.mayChange m s → Rel m.state s) (h : Step R σ τ)
    (hσ : ∀ f ∈ σ.frames, f.stage.Acts Rel) :
    Rel σ.now.state τ.now.state ∧ ∀ f ∈ τ.frames, f.stage.Acts Rel := by
  cases h with
  | @call m fs c idle hcall =>
      exact ⟨hrefl _, List.forall_mem_cons.2 ⟨hbody c, hσ⟩⟩
  | @act m e fs c update next =>
      obtain ⟨hact, hrest⟩ := List.forall_mem_cons.1 hσ
      exact ⟨(hact m.state).1, List.forall_mem_cons.2 ⟨(hact m.state).2, hrest⟩⟩
  | ask =>
      obtain ⟨hask, hrest⟩ := List.forall_mem_cons.1 hσ
      exact ⟨hrefl _, List.forall_mem_cons.2 ⟨hask, hrest⟩⟩
  | @answer m e since fs c q next a hanswer =>
      obtain ⟨hwait, hrest⟩ := List.forall_mem_cons.1 hσ
      exact ⟨hrefl _, List.forall_mem_cons.2 ⟨hwait a, hrest⟩⟩
  | finish => exact ⟨hrefl _, (List.forall_mem_cons.1 hσ).2⟩
  | outside idle hs => exact ⟨hchange _ _ hs, hσ⟩

/-- What every action and every change from outside respects, all that happens after
any moment respects. -/
theorem Reaches.respects (hrefl : ∀ s, Rel s s)
    (htrans : ∀ {s₁ s₂ s₃}, Rel s₁ s₂ → Rel s₂ s₃ → Rel s₁ s₃)
    (hbody : ∀ c, (P.body c).Acts Rel)
    (hchange : ∀ m s, R.mayChange m s → Rel m.state s) {s : S} (h : Reaches R (.start s) σ) :
    Rel s σ.now.state ∧ ∀ x ∈ σ.now.past, Rel x.state σ.now.state := by
  have hall : (∀ f ∈ σ.frames, f.stage.Acts Rel) ∧ Rel s σ.now.state ∧
      ∀ x ∈ σ.now.past, Rel x.state σ.now.state := by
    induction h with
    | refl => exact ⟨fun _ => nofun, hrefl s, fun _ => nofun⟩
    | tail _ hstep ih =>
        obtain ⟨hframes, hstart, hpast⟩ := ih
        obtain ⟨hrel, hframes'⟩ := hstep.respects hrefl hbody hchange hframes
        refine ⟨hframes', htrans hstart hrel, ?_⟩
        obtain ⟨v, s', hnow⟩ := hstep.now_eq
        rw [hnow] at hrel ⊢
        exact List.forall_mem_cons.2 ⟨hrefl s', fun x hx => htrans (hpast x hx) hrel⟩
  exact hall.2

end Respects

/-- Every answer was permitted when it was given. -/
theorem Reaches.answered {σ : P.Session} {s : S} (h : Reaches R (.start s) σ) {q : Q} {a : A q}
    {x : P.Entry} (hx : x ∈ σ.now.past) (hevent : x.event = .answered q a) :
    ∃ m : P.Moment, m.state = x.state ∧ R.mayAnswer m q a := by
  induction h with
  | refl => cases hx
  | tail _ hstep ih =>
      cases hstep with
      | @answer m e since fs c q' next a' hanswer =>
          rcases List.mem_cons.1 hx with rfl | hx
          · cases hevent
            exact ⟨m, rfl, hanswer⟩
          · exact ih hx
      | call _ _ | act | ask | finish | outside _ _ =>
          rcases List.mem_cons.1 hx with rfl | hx
          · cases hevent
          · exact ih hx

/-! ## Runs as sessions -/

section Runs

variable {E : Type} {answer : (q : Q) → S → E → A q × S × E}

/-- Whoever is asked changes the state and answers as outside code is allowed to. -/
def Obeys (R : P.Rules) (answer : (q : Q) → S → E → A q × S × E) : Prop :=
  ∀ (m : P.Moment) q e, R.mayChange m (answer q m.state e).2.1 ∧
    R.mayAnswer (m.change (answer q m.state e).2.1) q (answer q m.state e).1

/-- An operation may go as it does when it is run. -/
theorem reaches_run (h : Obeys R answer) {c : P.Call} (entry : P.Moment) (fs : List P.Frame)
    (p : Interaction S Q A (P.Result c)) (m : P.Moment) (e : E) :
    ∃ m' : P.Moment, m'.state = (p.run answer m.state e).2.1 ∧
      Reaches R ⟨m, ⟨c, entry, .running p⟩ :: fs⟩
        ⟨m', ⟨c, entry, .running (.done (p.run answer m.state e).1)⟩ :: fs⟩ := by
  induction p generalizing m e with
  | done r => exact ⟨m, rfl, .refl⟩
  | act update next ih =>
      obtain ⟨m', hstate, hreaches⟩ := ih m.state (m.change (update m.state)) e
      exact ⟨m', hstate, .head .act hreaches⟩
  | ask q next ih =>
      obtain ⟨hchange, hanswer⟩ := h (m.note (.asked q)) q e
      obtain ⟨m', hstate, hreaches⟩ := ih (answer q m.state e).1
        (((m.note (.asked q)).change (answer q m.state e).2.1).note (.answered q _))
        (answer q m.state e).2.2
      refine ⟨m', hstate, .head .ask (.head (.outside rfl hchange) ?_)⟩
      exact .head (.answer hanswer) hreaches

/-- An operation that may be called may be run, and everything is as it was but for the
state. -/
theorem reaches_call (h : Obeys R answer) {c : P.Call} {m : P.Moment} {fs : List P.Frame}
    (idle : Idle fs = true) (hcall : R.mayCall m c) (e : E) :
    ∃ m' : P.Moment, m'.state = ((P.body c).run answer m.state e).2.1 ∧
      Reaches R ⟨m, fs⟩ ⟨m', fs⟩ := by
  obtain ⟨m', hstate, hreaches⟩ :=
    reaches_run h m fs (P.body c) (m.note (.began c)) e
  exact ⟨m'.note _, hstate, .head (.call idle hcall) (hreaches.tail .finish)⟩

end Runs

end Service

end Loading
