import Loading.Interaction

/-!
# Operations that are not called back

Where nobody calls back, an operation is one run from beginning to end, and what
it asks on the way can be written down beside its result.  `exchanges` writes down
the questions of one kind with their answers, `run` gives the result, and both
follow the interaction in the same way.

* `Interaction.exchanges` — what a run asks, and what it is answered.
* `Ends` — from a state, every run ends in a postcondition.
* `ends_bind` — one operation after another.
* `Uninterrupted` — how an operation may end while nobody touches the state.
* `Leads` — from a state, it ends in a postcondition whatever it is answered.
* `asked` — what was asked of some kind, without the answers.
* `Amid` — it ends in a postcondition even while others change the state.
* `Amid.ends` — what holds amid others holds of every run.
-/

namespace Loading
namespace Interaction

variable {S Q E : Type} {A : Q → Type} {α β : Type}
  (answer : (q : Q) → S → E → A q × S × E) (kind : Q → Bool)

/-- The questions of some kind that a run asks, with their answers. -/
def exchanges : Interaction S Q A α → S → E → List ((q : Q) × A q)
  | .done _, _, _ => []
  | .act update next, s, e => (next s).exchanges (update s) e
  | .ask q next, s, e =>
      let (a, s, e) := answer q s e
      (if kind q then [⟨q, a⟩] else []) ++ (next a).exchanges s e

/-- In sequence, the second interaction asks after the first, where that ended. -/
theorem exchanges_bind (p : Interaction S Q A α) (f : α → Interaction S Q A β) (s : S) (e : E) :
    (p >>= f).exchanges answer kind s e =
      p.exchanges answer kind s e ++
        (f (p.run answer s e).1).exchanges answer kind (p.run answer s e).2.1
          (p.run answer s e).2.2 := by
  induction p generalizing s e with
  | done a => rfl
  | act update next ih => exact ih s (update s) e
  | ask q next ih =>
      have hnext := ih (answer q s e).1 (answer q s e).2.1 (answer q s e).2.2
      simp only [bind_ask, exchanges, run_ask, hnext, List.append_assoc]

theorem exchanges_done (a : α) (s : S) (e : E) :
    (done a : Interaction S Q A α).exchanges answer kind s e = [] := rfl

theorem exchanges_transact (f : S → α × S) (s : S) (e : E) :
    (transact f : Interaction S Q A α).exchanges answer kind s e = [] := rfl

theorem exchanges_observe (f : S → α) (s : S) (e : E) :
    (observe f : Interaction S Q A α).exchanges answer kind s e = [] := rfl

/-- A question is written down if it is of the kind. -/
theorem exchanges_question (q : Q) (s : S) (e : E) :
    (question q : Interaction S Q A (A q)).exchanges answer kind s e =
      if kind q then [⟨q, (answer q s e).1⟩] else [] :=
  List.append_nil _

/-- From a state, in any surroundings, a run ends in a postcondition on the result, the
state and what was asked of some kind. -/
def Ends (post : α → S → List ((q : Q) × A q) → Prop) (p : Interaction S Q A α) (s : S) : Prop :=
  ∀ e : E, post (p.run answer s e).1 (p.run answer s e).2.1 (p.exchanges answer kind s e)

variable {answer kind} {post post' : α → S → List ((q : Q) × A q) → Prop} {s : S}

/-- What is true of every answer is true of all that a run is answered. -/
theorem forall_exchanges (good : (q : Q) × A q → Prop)
    (hgood : ∀ q s e, good ⟨q, (answer q s e).1⟩) (p : Interaction S Q A α) (s : S) (e : E) :
    ∀ x ∈ p.exchanges answer kind s e, good x := by
  induction p generalizing s e with
  | done a => exact fun _ hx => absurd hx List.not_mem_nil
  | act update next ih => exact ih s (update s) e
  | ask q next ih =>
      intro x hx
      rcases List.mem_append.1 hx with hx | hx
      · have hsingle : x ∈ [(⟨q, (answer q s e).1⟩ : (q : Q) × A q)] := by
          split at hx
          · exact hx
          · cases hx
        exact List.mem_singleton.1 hsingle ▸ hgood q s e
      · exact ih _ _ _ x hx

theorem Ends.weaken {p : Interaction S Q A α} (h : Ends answer kind post p s)
    (hpost : ∀ a s t, post a s t → post' a s t) : Ends answer kind post' p s :=
  fun e => hpost _ _ _ (h e)

/-- One operation after another ends where the second ends. -/
theorem ends_bind {p : Interaction S Q A α} {f : α → Interaction S Q A β}
    {post : β → S → List ((q : Q) × A q) → Prop}
    (h : Ends answer kind
      (fun a s t => Ends answer kind (fun b s' t' => post b s' (t ++ t')) (f a) s) p s) :
    Ends answer kind post (p >>= f) s := by
  intro e
  rw [run_bind, exchanges_bind]
  exact h e (p.run answer s e).2.2

theorem ends_done {a : α} (h : post a s []) : Ends answer kind post (.done a) s :=
  fun _ => h

theorem ends_transact {f : S → α × S} (h : post (f s).1 (f s).2 []) :
    Ends answer kind post (transact f) s :=
  fun _ => h

theorem ends_observe {f : S → α} (h : post (f s) s []) : Ends answer kind post (observe f) s :=
  fun _ => h

/-- A question is answered, and written down if it is of the kind. -/
theorem ends_question {q : Q} {post : A q → S → List ((q : Q) × A q) → Prop}
    (h : ∀ e, post (answer q s e).1 (answer q s e).2.1
      (if kind q then [⟨q, (answer q s e).1⟩] else [])) :
    Ends answer kind post (question q) s := by
  intro e
  rw [exchanges_question]
  exact h e

/-! ## Whatever is answered -/

/-- What is picked out of the questions that were asked, in order. -/
def asked {γ : Type} (pick : Q → Option γ) (t : List ((q : Q) × A q)) : List γ :=
  t.filterMap fun x => pick x.1

theorem asked_cons {γ : Type} (pick : Q → Option γ) (x : (q : Q) × A q) (t : List ((q : Q) × A q)) :
    asked pick (x :: t) = (pick x.1).toList ++ asked pick t := by
  unfold asked
  rw [List.filterMap_cons]
  cases pick x.1 <;> rfl

theorem asked_append {γ : Type} (pick : Q → Option γ) (t t' : List ((q : Q) × A q)) :
    asked pick (t ++ t') = asked pick t ++ asked pick t' :=
  List.filterMap_append

section Leads

variable {p : Interaction S Q A α} {f : α → Interaction S Q A β}

/-- An operation may end with a result and in a state, after it asked and was answered
so, where answers leave the state alone. -/
def Uninterrupted (p : Interaction S Q A α) (s : S) (a : α) (s' : S)
    (t : List ((q : Q) × A q)) : Prop :=
  ∃ (E : Type) (answer : (q : Q) → S → E → A q × S × E) (e : E),
    (∀ q s e, (answer q s e).2.1 = s) ∧ (p.run answer s e).1 = a ∧
      (p.run answer s e).2.1 = s' ∧ p.exchanges answer (fun _ => true) s e = t

/-- From a state, an operation ends in a postcondition on the result, the state and what
was asked, whatever it is answered while nobody touches the state. -/
def Leads : Interaction S Q A α → S → (α → S → List ((q : Q) × A q) → Prop) → Prop
  | .done a, s, post => post a s []
  | .act update next, s, post => (next s).Leads (update s) post
  | .ask q next, s, post => ∀ x, (next x).Leads s fun a s' t => post a s' (⟨q, x⟩ :: t)

theorem Leads.weaken (h : p.Leads s post) (hpost : ∀ a s t, post a s t → post' a s t) :
    p.Leads s post' := by
  induction p generalizing s post post' with
  | done a => exact hpost _ _ _ h
  | act update next ih => exact ih s h hpost
  | ask q next ih => exact fun x => ih x (h x) fun a s' t => hpost a s' (⟨q, x⟩ :: t)

/-- One operation after another leads to where the second leads. -/
theorem leads_bind {post : β → S → List ((q : Q) × A q) → Prop} :
    (p >>= f).Leads s post ↔
      p.Leads s fun a s₁ t₁ => (f a).Leads s₁ fun b s₂ t₂ => post b s₂ (t₁ ++ t₂) := by
  induction p generalizing s post with
  | done a => exact Iff.rfl
  | act update next ih => exact ih s
  | ask q next ih => exact forall_congr' fun x => ih x

/-- A result that is only looked at leads to nothing else. -/
theorem leads_map {g : α → β} {post : β → S → List ((q : Q) × A q) → Prop} :
    (p >>= fun a => done (g a)).Leads s post ↔ p.Leads s fun a s' t => post (g a) s' t := by
  rw [leads_bind]
  simp only [Leads, List.append_nil]

theorem leads_transact {f : S → α × S} :
    (transact f : Interaction S Q A α).Leads s post ↔ post (f s).1 (f s).2 [] :=
  Iff.rfl

theorem leads_observe {f : S → α} :
    (observe f : Interaction S Q A α).Leads s post ↔ post (f s) s [] :=
  Iff.rfl

/-- What an operation leads to holds however it ends. -/
theorem Leads.apply {a : α} {s' : S} {t : List ((q : Q) × A q)} (h : p.Leads s post)
    (hends : p.Uninterrupted s a s' t) : post a s' t := by
  obtain ⟨E, answer, e, halone, rfl, rfl, rfl⟩ := hends
  induction p generalizing s e post with
  | done a => exact h
  | act update next ih => exact ih s h e
  | ask q next ih =>
      have hsame := halone q s e
      have hnext := ih (answer q s e).1 (h (answer q s e).1) (answer q s e).2.2
      rw [run_ask, hsame]
      simpa only [exchanges, hsame, if_true, List.singleton_append] using hnext

end Leads

/-! ## While others change the state -/

/-- From a state, an operation ends in a postcondition on the result, the state and what was
asked of some kind, whatever it is answered, while others may at any time change the state
in the way that is relied on. -/
def Amid (rely : S → S → Prop) (kind : Q → Bool) :
    Interaction S Q A α → S → (α → S → List ((q : Q) × A q) → Prop) → Prop
  | .done a, s, post => ∀ s', rely s s' → post a s' []
  | .act update next, s, post => ∀ s', rely s s' → (next s').Amid rely kind (update s') post
  | .ask q next, s, post => ∀ s', rely s s' → ∀ x, (next x).Amid rely kind s'
      fun a s₁ t => post a s₁ ((if kind q then [⟨q, x⟩] else []) ++ t)

section Amid

variable {rely : S → S → Prop} {p : Interaction S Q A α} {f : α → Interaction S Q A β}

theorem Amid.weaken (h : p.Amid rely kind s post) (hpost : ∀ a s t, post a s t → post' a s t) :
    p.Amid rely kind s post' := by
  induction p generalizing s post post' with
  | done a => exact fun s' hs => hpost _ _ _ (h s' hs)
  | act update next ih => exact fun s' hs => ih s' (h s' hs) hpost
  | ask q next ih => exact fun s' hs x => ih x (h s' hs x) fun a s₁ t => hpost a s₁ _

/-- What was said before others changed the state still holds. -/
theorem Amid.later (htrans : ∀ {s₁ s₂ s₃}, rely s₁ s₂ → rely s₂ s₃ → rely s₁ s₃)
    (h : p.Amid rely kind s post) {s' : S} (hs : rely s s') : p.Amid rely kind s' post := by
  cases p with
  | done a => exact fun s₁ h₁ => h s₁ (htrans hs h₁)
  | act update next => exact fun s₁ h₁ => h s₁ (htrans hs h₁)
  | ask q next => exact fun s₁ h₁ => h s₁ (htrans hs h₁)

/-- One operation after another ends where the second ends. -/
theorem amid_bind (hrefl : ∀ s, rely s s) {post : β → S → List ((q : Q) × A q) → Prop}
    (h : p.Amid rely kind s fun a s₁ t₁ =>
      (f a).Amid rely kind s₁ fun b s₂ t₂ => post b s₂ (t₁ ++ t₂)) :
    (p >>= f).Amid rely kind s post := by
  induction p generalizing s post with
  | done a => exact h s (hrefl s)
  | act update next ih => exact fun s' hs => ih s' (h s' hs)
  | ask q next ih =>
      refine fun s' hs x => ih x ((h s' hs x).weaken fun a s₁ t₁ hf => ?_)
      simpa only [List.append_assoc] using hf

/-- What holds amid others holds of every run in which just those who are asked change the
state as is relied on. -/
theorem Amid.ends (hrefl : ∀ s, rely s s) (hrely : ∀ q s e, rely s (answer q s e).2.1)
    (h : p.Amid rely kind s post) : Ends answer kind post p s := by
  induction p generalizing s post with
  | done a => exact fun e => h s (hrefl s)
  | act update next ih => exact fun e => ih s (h s (hrefl s)) e
  | ask q next ih =>
      intro e
      -- Whoever is asked changes the state first, and the answer is given after that.
      exact ih (answer q s e).1 (h (answer q s e).2.1 (hrely q s e) (answer q s e).1)
        (answer q s e).2.2

end Amid

end Interaction
end Loading
