import Loading.Proofs.Loader.AnswerInheritance
import Loading.Proofs.Loader.ActionInvariance

/-!
# Linking apart from resolving

Whoever asks for a module to be linked has the name resolved first, just as if linking had
not been asked for.  Only then the linker of the asked loader's own context is called, and
whatever it says, the tables of loaders stay as they are.  Loaders of a path may belong to
different contexts here.

* `Aloof` — collaborators that call no loader back.
* `run_locked`, `exchanges_locked` — what is done with a lock held.
* `LinkedApart` — how a resolution with linking compares to one without.
* `resolve_links_apart` — every resolution compares like that.
-/

namespace Loading

open Interaction Loaders

/-- Collaborators that call no loader back: whoever is asked leaves the tables of loaders
alone, and a lock that is given back changes nothing. -/
structure Aloof {E : Type}
    (answer : (q : LoaderQuestion) → Loaders → E → q.Answer × Loaders × E) : Prop where
  /-- The tables of loaders stay as they are. -/
  tables : ∀ q s e, (answer q s e).2.1.tables = s.tables
  /-- A lock is only given back. -/
  leave : ∀ id lock s e, (answer (.leave id lock) s e).2.1 = s

/-- Is a linker called? -/
def LoaderQuestion.isLinking : LoaderQuestion → Bool
  | .link _ _ => true
  | _ => false

section Linking

variable {E : Type} {answer : (q : LoaderQuestion) → Loaders → E → q.Answer × Loaders × E}
  {kind : LoaderQuestion → Bool} {α : Type} {l : Loader} {name : Name} {s : Loaders} {m : Module}

/-! ## What is not asked -/

/-- Questions that an operation does not need are not asked. -/
theorem LoaderTask.Strokes.exchanges_eq_nil {link : Bool} {p : LoaderTask α} (h : p.Strokes link)
    (hkind : ∀ q, q.isNeeded link = true → kind q = false) (s : Loaders) (e : E) :
    p.exchanges answer kind s e = [] := by
  induction p generalizing s e with
  | done a => rfl
  | act update next ih => exact ih s (h s).2 (update s) e
  | ask q next ih =>
      have hrest := ih (answer q s e).1 (h.2 _) (answer q s e).2.1 (answer q s e).2.2
      simp only [exchanges, hkind q h.1, hrest]
      rfl

/-! ## With a lock held -/

/-- Where a loader stands when it has got the lock for a name. -/
def entered (answer : (q : LoaderQuestion) → Loaders → E → q.Answer × Loaders × E) (l : Loader)
    (name : Name) (s : Loaders) (e : E) : Loaders × E :=
  (answer (.enter l.id (s.lockFor l.id name).1) (s.lockFor l.id name).2 e).2

/-- A lock that is held makes no difference to what comes out. -/
theorem run_locked (h : Aloof answer) (p : LoaderTask α) (l : Loader) (name : Name) (s : Loaders)
    (e : E) :
    ((l.locked name p).run answer s e).1 =
        (p.run answer (entered answer l name s e).1 (entered answer l name s e).2).1 ∧
      ((l.locked name p).run answer s e).2.1 =
        (p.run answer (entered answer l name s e).1 (entered answer l name s e).2).2.1 := by
  unfold Loader.locked
  rw [run_bind, run_transact]
  dsimp only
  rw [run_bind, run_bind, run_bind]
  exact ⟨rfl, h.leave ..⟩

/-- Beside what is done with the lock held, just the lock is asked for. -/
theorem exchanges_locked (kind : LoaderQuestion → Bool) (p : LoaderTask α) (l : Loader)
    (name : Name) (s : Loaders) (e : E) :
    (l.locked name p).exchanges answer kind s e =
      (if kind (.enter l.id (s.lockFor l.id name).1) then
        [⟨.enter l.id (s.lockFor l.id name).1, ()⟩] else []) ++
      (p.exchanges answer kind (entered answer l name s e).1 (entered answer l name s e).2 ++
      if kind (.leave l.id (s.lockFor l.id name).1) then
        [⟨.leave l.id (s.lockFor l.id name).1, ()⟩] else []) := by
  unfold Loader.locked LoaderTask.ask
  simp only [exchanges_bind, exchanges_transact, exchanges_question, exchanges_done, pure_eq,
    run_transact, run_question, List.nil_append, List.append_nil]
  rfl

/-! ## Linking what has been resolved -/

section LinkIfNeeded

variable (answer) (l) (e : E)

/-- A module that is linked is left alone. -/
theorem run_linkIfNeeded_of_linked (h : s.ledger.isLinked m = true) :
    (l.linkIfNeeded m).run answer s e = (.ok m, s, e) ∧
      ∀ kind, (l.linkIfNeeded m).exchanges answer kind s e = [] := by
  unfold Loader.linkIfNeeded
  simp only [run_bind, exchanges_bind, run_observe, exchanges_observe, h]
  exact ⟨rfl, fun _ => rfl⟩

/-- The linker of the loader's context is called for a module that is not linked. -/
theorem run_linkIfNeeded_of_not_linked (h : s.ledger.isLinked m = false) :
    ((l.linkIfNeeded m).run answer s e).1 =
        (answer (.link l.context.key m) s e).1.map (fun _ => m) ∧
      ((l.linkIfNeeded m).run answer s e).2.1 = (answer (.link l.context.key m) s e).2.1 ∧
      ∀ kind, (l.linkIfNeeded m).exchanges answer kind s e =
        if kind (.link l.context.key m) then
          [⟨.link l.context.key m, (answer (.link l.context.key m) s e).1⟩] else [] := by
  unfold Loader.linkIfNeeded LoaderTask.ask
  simp only [run_bind, exchanges_bind, run_observe, exchanges_observe, h, run_question,
    exchanges_question, Bool.false_eq_true, if_false]
  cases (answer (.link l.context.key m) s e).1 with
  | error err => exact ⟨rfl, rfl, fun _ => List.append_nil _⟩
  | ok u => exact ⟨rfl, rfl, fun _ => List.append_nil _⟩

end LinkIfNeeded

/-- Without linking, nothing is done but to look the name up. -/
theorem run_resolveHeld_false (l : Loader) (name : Name) (s : Loaders) (e : E) :
    (l.resolveHeld name false).run answer s e =
        (l.lookUp name (l.delegate name)).run answer s e ∧
      ∀ kind, (l.resolveHeld name false).exchanges answer kind s e =
        (l.lookUp name (l.delegate name)).exchanges answer kind s e := by
  unfold Loader.resolveHeld
  simp only [run_bind, exchanges_bind]
  rcases hrun : (l.lookUp name (l.delegate name)).run answer s e with ⟨_ | m, s₁, e₁⟩
  · exact ⟨rfl, fun _ => List.append_nil _⟩
  · exact ⟨rfl, fun _ => List.append_nil _⟩

/-- With linking, an error is passed on. -/
theorem run_resolveHeld_true_of_error {e : E} {err : LoadError}
    (h : ((l.lookUp name (l.delegate name)).run answer s e).1 = .error err) :
    (l.resolveHeld name true).run answer s e =
        (l.lookUp name (l.delegate name)).run answer s e ∧
      ∀ kind, (l.resolveHeld name true).exchanges answer kind s e =
        (l.lookUp name (l.delegate name)).exchanges answer kind s e := by
  unfold Loader.resolveHeld
  simp only [run_bind, exchanges_bind]
  rcases hrun : (l.lookUp name (l.delegate name)).run answer s e with ⟨r, s₁, e₁⟩
  rw [hrun] at h
  obtain rfl : r = .error err := h
  exact ⟨rfl, fun _ => List.append_nil _⟩

/-- With linking, a module that was looked up is linked if that is needed. -/
theorem run_resolveHeld_true_of_ok {e : E}
    (h : ((l.lookUp name (l.delegate name)).run answer s e).1 = .ok m) :
    (l.resolveHeld name true).run answer s e =
        (l.linkIfNeeded m).run answer ((l.lookUp name (l.delegate name)).run answer s e).2.1
          ((l.lookUp name (l.delegate name)).run answer s e).2.2 ∧
      ∀ kind, (l.resolveHeld name true).exchanges answer kind s e =
        (l.lookUp name (l.delegate name)).exchanges answer kind s e ++
        (l.linkIfNeeded m).exchanges answer kind
          ((l.lookUp name (l.delegate name)).run answer s e).2.1
          ((l.lookUp name (l.delegate name)).run answer s e).2.2 := by
  unfold Loader.resolveHeld
  simp only [run_bind, exchanges_bind, h]
  exact ⟨rfl, fun _ => rfl⟩

/-! ## Resolving what is known -/

theorem Aloof.unmoved (h : Aloof answer) (q : LoaderQuestion) (s : Loaders) (e : E) :
    Unmoved True [] s (answer q s e).2.1 := by
  have htables : ∀ id, (answer q s e).2.1.tablesOf id = s.tablesOf id := fun id =>
    congrArg (fun t : Table LoaderId LoaderTables => t.findD id {}) (h.tables q s e)
  exact ⟨fun id n => congrArg (fun t => t.loaded.find? n) (htables id),
    fun id => congrArg LoaderTables.defined (htables id),
    fun id _ => congrArg LoaderTables.signers (htables id),
    fun _ id source d hd => by cases source <;> simpa only [domainOf, htables] using hd⟩

/-- To get a lock moves nothing. -/
theorem Aloof.unmoved_entered (h : Aloof answer) (l : Loader) (name : Name) (s : Loaders) (e : E) :
    Unmoved True [] s (entered answer l name s e).1 :=
  (Unmoved.lockFor s l.id name).trans (h.unmoved _ _ _)

/-- What a loader knows it answers without a call. -/
theorem run_resolve_of_loaded (h : Aloof answer) (hname : l.rules.isWellFormed name = true)
    (hloaded : s.loaded? l.id name = some m) (e : E) :
    ((l.resolve name false).run answer s e).1 = .ok m ∧
      (l.resolve name false).exchanges answer LoaderQuestion.isCall s e = [] := by
  have hknown : (entered answer l name s e).1.loaded? l.id name = some m :=
    ((h.unmoved_entered l name s e).loaded l.id name).trans hloaded
  have hlookUp : ∀ {e'}, ((l.lookUp name (l.delegate name)).run answer
        (entered answer l name s e).1 e').1 = .ok m ∧
      (l.lookUp name (l.delegate name)).exchanges answer LoaderQuestion.isCall
        (entered answer l name s e).1 e' = [] := by
    intro e'
    unfold Loader.lookUp
    rw [run_bind, exchanges_bind, run_observe, exchanges_observe]
    dsimp only
    rw [hknown]
    exact ⟨rfl, rfl⟩
  unfold Loader.resolve
  rw [if_pos hname, exchanges_locked, (run_locked h ..).1, (run_resolveHeld_false ..).1,
    (run_resolveHeld_false ..).2, hlookUp.1, hlookUp.2]
  exact ⟨rfl, rfl⟩

/-- What has been looked up is known to the loader from then on. -/
theorem loaded_of_lookUp (h : Aloof answer) (hids : (l.path.map (·.id)).Nodup) {e : E}
    (hok : ((l.lookUp name (l.delegate name)).run answer s e).1 = .ok m) :
    ((l.lookUp name (l.delegate name)).run answer s e).2.1.loaded? l.id name = some m := by
  obtain ⟨hid, -⟩ := List.nodup_cons.1 hids
  have hdelegate : Among True (fun r s₁ t => Heard True s s₁ l name t r) (l.delegate name) s :=
    among_delegate (.refl [] s) hids
  have hpassed := (among_lookUp_heard (Unmoved.refl [] s) hid hdelegate).ends (Unmoved.refl [])
    h.unmoved e
  rw [hok] at hpassed
  exact hpassed.1

/-- To look a name up calls no linker. -/
theorem exchanges_lookUp_isLinking (l : Loader) (name : Name) (s : Loaders) (e : E) :
    (l.lookUp name (l.delegate name)).exchanges answer LoaderQuestion.isLinking s e = [] := by
  have hstrokes : LoaderTask.Strokes false (l.lookUp name (l.delegate name)) :=
    strokes_lookUp (strokes_delegate l name)
  refine hstrokes.exchanges_eq_nil (fun q hq => ?_) s e
  cases q with
  | link context m => cases hq
  | _ => rfl

/-! ## With linking and without -/

/-- How a resolution with linking, which ends with a result and in a state, compares to one
without, from where both began; and which linkers are called on the way. -/
structure LinkedApart (answer : (q : LoaderQuestion) → Loaders → E → q.Answer × Loaders × E)
    (l : Loader) (name : Name) (plain : Except LoadError Module) (s : Loaders)
    (linking : Except LoadError Module) (s' : Loaders) (calls : List Exchange) : Prop where
  /-- All tables of all loaders are the same. -/
  tables : s'.tables = s.tables
  /-- Where the name is not resolved, no linker is called. -/
  failed : ∀ err, plain = .error err → linking = .error err ∧ calls = []
  /-- A module that is linked already is returned, and no linker is called. -/
  linked : ∀ m, plain = .ok m → s.ledger.isLinked m = true → linking = .ok m ∧ calls = []
  /-- Otherwise the linker of the loader's own context is called once, and no other one.  If
  it fails, its error is returned, and the module if it does not. -/
  unlinked : ∀ m, plain = .ok m → s.ledger.isLinked m = false →
    ∃ outcome, calls = [⟨.link l.context.key m, outcome⟩] ∧ linking = outcome.map fun _ => m
  /-- Whatever the linker says, the loader knows the module from then on. -/
  registered : ∀ m, plain = .ok m → s'.loaded? l.id name = some m
  /-- Without linking, it is then returned without a call to any collaborator. -/
  again : ∀ m, plain = .ok m → ∀ e, ((l.resolve name false).run answer s' e).1 = .ok m ∧
    (l.resolve name false).exchanges answer LoaderQuestion.isCall s' e = []

/-- Where a name is not resolved, linking makes no difference. -/
theorem linkedApart_error (l : Loader) (name : Name) (err : LoadError) (s : Loaders) :
    LinkedApart answer l name (.error err) s (.error err) s [] :=
  ⟨rfl, fun _ herr => ⟨herr, rfl⟩, nofun, nofun, nofun, nofun⟩

/-- Where a name is resolved, it matters whether the module is linked already. -/
theorem linkedApart_ok (h : Aloof answer) (hname : l.rules.isWellFormed name = true)
    {linking : Except LoadError Module} {s' : Loaders} {calls : List Exchange}
    (htables : s'.tables = s.tables) (hloaded : s.loaded? l.id name = some m)
    (hlinked : s.ledger.isLinked m = true → linking = .ok m ∧ calls = [])
    (hunlinked : s.ledger.isLinked m = false →
      ∃ outcome, calls = [⟨.link l.context.key m, outcome⟩] ∧ linking = outcome.map fun _ => m) :
    LinkedApart answer l name (.ok m) s linking s' calls := by
  have hloaded' : s'.loaded? l.id name = some m := by
    unfold loaded? tablesOf
    rw [htables]
    exact hloaded
  refine ⟨htables, nofun, fun m' hm' => ?_, fun m' hm' => ?_, fun m' hm' => ?_,
    fun m' hm' e => ?_⟩
  all_goals obtain rfl := Except.ok.inj hm'
  · exact hlinked
  · exact hunlinked
  · exact hloaded'
  · exact run_resolve_of_loaded h hname hloaded' e

/-- With its lock held, a name is resolved first and linked after that. -/
theorem linkedApart_resolveHeld (h : Aloof answer) (hname : l.rules.isWellFormed name = true)
    (hids : (l.path.map (·.id)).Nodup) (s : Loaders) (e : E) :
    LinkedApart answer l name ((l.resolveHeld name false).run answer s e).1
      ((l.resolveHeld name false).run answer s e).2.1
      ((l.resolveHeld name true).run answer s e).1
      ((l.resolveHeld name true).run answer s e).2.1
      ((l.resolveHeld name true).exchanges answer LoaderQuestion.isLinking s e) := by
  rw [(run_resolveHeld_false l name s e).1]
  have hasked : (l.lookUp name (l.delegate name)).exchanges answer LoaderQuestion.isLinking s e =
      [] := exchanges_lookUp_isLinking l name s e
  cases hr : ((l.lookUp name (l.delegate name)).run answer s e).1 with
  | error err =>
      obtain ⟨hrun, hcalls⟩ := run_resolveHeld_true_of_error hr
      rw [hcalls, hasked, hrun, hr]
      exact linkedApart_error l name err _
  | ok m =>
      obtain ⟨hrun, hcalls⟩ := run_resolveHeld_true_of_ok hr
      have hloaded := loaded_of_lookUp h hids hr
      rw [hcalls, hasked, hrun, List.nil_append]
      cases hlinked : ((l.lookUp name (l.delegate name)).run answer s e).2.1.ledger.isLinked m with
      | true =>
          obtain ⟨hrun', hcalls'⟩ := run_linkIfNeeded_of_linked answer l
            ((l.lookUp name (l.delegate name)).run answer s e).2.2 hlinked
          rw [hrun', hcalls']
          refine linkedApart_ok h hname rfl hloaded (fun _ => ⟨rfl, rfl⟩) fun hnot => ?_
          rw [hlinked] at hnot
          cases hnot
      | false =>
          obtain ⟨hresult, hstate, hcalls'⟩ := run_linkIfNeeded_of_not_linked answer l
            ((l.lookUp name (l.delegate name)).run answer s e).2.2 hlinked
          have hcalled : (LoaderQuestion.link l.context.key m).isLinking = true := rfl
          rw [hresult, hstate, hcalls', if_pos hcalled]
          refine linkedApart_ok h hname (h.tables ..) hloaded (fun hyes => ?_)
            fun _ => ⟨_, rfl, rfl⟩
          rw [hlinked] at hyes
          cases hyes

/-- Before the linker, everybody else is called in the same way whether a module is to be
linked or not. -/
theorem exchanges_resolveHeld_true (l : Loader) (name : Name) (s : Loaders) (e : E) :
    (l.resolveHeld name true).exchanges answer (fun q => !q.isLinking) s e =
      (l.resolveHeld name false).exchanges answer (fun q => !q.isLinking) s e := by
  rw [(run_resolveHeld_false l name s e).2]
  cases hr : ((l.lookUp name (l.delegate name)).run answer s e).1 with
  | error err => rw [(run_resolveHeld_true_of_error hr).2]
  | ok m =>
      rw [(run_resolveHeld_true_of_ok hr).2]
      cases hlinked : ((l.lookUp name (l.delegate name)).run answer s e).2.1.ledger.isLinked m with
      | true => rw [(run_linkIfNeeded_of_linked _ _ _ hlinked).2, List.append_nil]
      | false =>
          rw [(run_linkIfNeeded_of_not_linked _ _ _ hlinked).2.2]
          exact List.append_nil _

end Linking

/-- From every state, and for every loader whose path has no number twice, a name that is to
be linked is resolved like any other: everybody but the linkers is asked the same and answers
the same, all tables of all loaders are left the same, and what is resolved is registered and
stays so.  Only where that succeeds with a module that is not linked yet, a linker is called:
the one of the context of the loader that was asked, once. -/
theorem resolve_links_apart {E : Type}
    {answer : (q : LoaderQuestion) → Loaders → E → q.Answer × Loaders × E} (h : Aloof answer)
    {l : Loader} (hids : (l.path.map (·.id)).Nodup) (name : Name) (s : Loaders) (e : E) :
    (l.resolve name true).exchanges answer (fun q => !q.isLinking) s e =
        (l.resolve name false).exchanges answer (fun q => !q.isLinking) s e ∧
      (l.resolve name false).exchanges answer LoaderQuestion.isLinking s e = [] ∧
      LinkedApart answer l name ((l.resolve name false).run answer s e).1
        ((l.resolve name false).run answer s e).2.1 ((l.resolve name true).run answer s e).1
        ((l.resolve name true).run answer s e).2.1
        ((l.resolve name true).exchanges answer LoaderQuestion.isLinking s e) := by
  unfold Loader.resolve
  by_cases hname : l.rules.isWellFormed name = true
  · rw [if_pos hname, if_pos hname]
    refine ⟨?_, ?_, ?_⟩
    · rw [exchanges_locked, exchanges_locked, exchanges_resolveHeld_true]
    · rw [exchanges_locked, (run_resolveHeld_false ..).2, exchanges_lookUp_isLinking]
      rfl
    · rw [(run_locked h ..).1, (run_locked h ..).1, (run_locked h ..).2, (run_locked h ..).2,
        exchanges_locked]
      have hheld := linkedApart_resolveHeld h hname hids (entered answer l name s e).1
        (entered answer l name s e).2
      rw [← List.append_nil ((l.resolveHeld name true).exchanges ..)] at hheld
      exact hheld
  · rw [if_neg hname, if_neg hname]
    exact ⟨rfl, rfl, linkedApart_error l name _ s⟩

/-! ## A linker that fails -/

/-- A loader of another context below a root. -/
def adopted : Loader := .child ⟨⟨2⟩, .base, true, { key := 1 }⟩ solitary

/-- Every finder finds one byte, the definer makes a new module of it, and the linker of the
lower context fails. -/
def unlinkable : (q : LoaderQuestion) → Loaders → Unit → q.Answer × Loaders × Unit
  | .mayCreate _ _, s, _ => (.ok (), s, ())
  | .maySeeParent _ _ _, s, _ => (.ok (), s, ())
  | .enter _ _, s, _ => ((), s, ())
  | .leave _ _, s, _ => ((), s, ())
  | .bootstrap _ _, s, _ => (none, s, ())
  | .find _ _, s, _ => (.ok ⟨[0], none⟩, s, ())
  | .produce _ r, s, _ =>
      let (m, s) := s.freshModule (r.name.getD unnamed) r.loader r.domain r.code.length
      (.ok m, s, ())
  | .link context m, s, _ =>
      if context = 1 then (.error (.link m.name "unresolved"), s, ())
      else (.ok (), s.markLinked m, ())
  | .bootstrapResource _ _, s, _ => (none, s, ())
  | .resource _ _, s, _ => (none, s, ())
  | .resources _ _, s, _ => ([], s, ())
  | .library _ _, s, _ => (none, s, ())

theorem aloof_unlinkable : Aloof unlinkable where
  leave _ _ _ _ := rfl
  tables q s e := by
    cases q with
    | link context m =>
        unfold unlinkable
        dsimp only
        split <;> rfl
    | _ => rfl

/-- The root defines the module, and the loader below it has it, although its linker has
failed. -/
theorem resolve_links_apart_failing :
    ∃ s' : Loaders, LinkedApart unlinkable adopted "a.B" (.ok ⟨0, "a.B", ⟨1⟩, ⟨1, some {}⟩, 1⟩)
        ((adopted.resolve "a.B" false).run unlinkable {} ()).2.1
        (.error (.link "a.B" "unresolved")) s'
        [⟨.link 1 ⟨0, "a.B", ⟨1⟩, ⟨1, some {}⟩, 1⟩, .error (.link "a.B" "unresolved")⟩] ∧
      s'.defined ⟨1⟩ = [⟨0, "a.B", ⟨1⟩, ⟨1, some {}⟩, 1⟩] ∧
      s'.loaded? ⟨2⟩ "a.B" = some ⟨0, "a.B", ⟨1⟩, ⟨1, some {}⟩, 1⟩ := by
  have hids : (adopted.path.map (·.id)).Nodup := by decide
  obtain ⟨-, -, hlinked⟩ := resolve_links_apart aloof_unlinkable hids "a.B" {} ()
  exact ⟨_, hlinked, rfl, hlinked.registered _ rfl⟩

end Loading
