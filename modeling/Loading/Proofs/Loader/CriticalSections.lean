import Loading.Proofs.Loader.Confinement
import Loading.Proofs.Loader.AnswerInheritance

/-!
# What is done with the lock for a name

A thread that resolves a name, or that defines a module of it, takes the loading lock for
the name once and does all that matters for the name while it holds the lock.  Outside it
moves nothing; inside nobody else does.  This is what each thread promises, and what it
relies on.

* `Thread.Step` — one step of a thread.
* `Handled` — what has become of the name while the lock was held.
* `Outside`, `Inside` — the rest of a thread that does not hold the lock, and of the one
  that does.
* `Outside.step`, `Inside.step` — how a step leads from one to the other.
-/

namespace Loading

open Interaction Loaders

/-! ## Threads -/

/-- What a thread has to do for a name: to resolve it, or to define a module from the bytes
between two places, under the name or under the one that the definer finds. -/
inductive Job where
  | resolve
  | define (named : Bool) (bytes : List UInt8) (start stop : Nat)
      (domain : Option ProtectionDomain)
  deriving DecidableEq

/-- How a thread does it. -/
def Job.task (l : Loader) (name : Name) : Job → LoaderTask (Except LoadError Module)
  | .resolve => l.resolve name false
  | .define named bytes start stop domain =>
      l.define (if named then some name else none) bytes start stop domain

/-- A thread on its way through an operation. -/
structure Thread where
  /-- The rest of the operation. -/
  rest : LoaderTask (Except LoadError Module)
  /-- The loading locks that the thread holds, newest first, each as often as it is held. -/
  held : List (LoaderId × Lock) := []
  /-- What collaborators have answered, in order. -/
  heard : List Exchange := []

/-- A definer that is given no name finds this one. -/
def Yields (name : Name) : (q : LoaderQuestion) → q.Answer → Prop
  | .produce _ request, .ok m => request.name = none → m.name = name
  | _, _ => True

/-- One step of a thread, from one state to another. -/
inductive Thread.Step (name : Name) (s : Loaders) : Thread → Loaders → Thread → Prop
  | act {update : Loaders → Loaders} {next : Loaders → LoaderTask (Except LoadError Module)}
      {held : List (LoaderId × Lock)} {heard : List Exchange} :
      Step name s ⟨.act update next, held, heard⟩ (update s) ⟨next s, held, heard⟩
  | enter {id : LoaderId} {lock : Lock} {next : Unit → LoaderTask (Except LoadError Module)}
      {held : List (LoaderId × Lock)} {heard : List Exchange} :
      Step name s ⟨Interaction.ask (.enter id lock) next, held, heard⟩ s
        ⟨next (), (id, lock) :: held, heard⟩
  | leave {id : LoaderId} {lock : Lock} {next : Unit → LoaderTask (Except LoadError Module)}
      {held : List (LoaderId × Lock)} {heard : List Exchange} :
      Step name s ⟨Interaction.ask (.leave id lock) next, held, heard⟩ s
        ⟨next (), held.erase (id, lock), heard⟩
  | answer {q : LoaderQuestion} {next : q.Answer → LoaderTask (Except LoadError Module)}
      {a : q.Answer} {held : List (LoaderId × Lock)} {heard : List Exchange}
      (call : q.isCall = true) (yields : Yields name q a) :
      Step name s ⟨Interaction.ask q next, held, heard⟩ s ⟨next a, held, heard ++ [⟨q, a⟩]⟩

/-- A thread that has ended makes no step. -/
theorem Thread.Step.unfinished {name : Name} {s s' : Loaders} {th th' : Thread}
    (h : th.Step name s s' th') (r : Except LoadError Module) : th.rest ≠ .done r := by
  cases h <;> exact nofun

/-- The next step of a thread, if collaborators answer so. -/
def Thread.next? (reply : (q : LoaderQuestion) → q.Answer) (s : Loaders) :
    Thread → Option (Loaders × Thread)
  | ⟨.done _, _, _⟩ => none
  | ⟨.act update next, held, heard⟩ => some (update s, ⟨next s, held, heard⟩)
  | ⟨Interaction.ask (.enter id lock) next, held, heard⟩ =>
      some (s, ⟨next (), (id, lock) :: held, heard⟩)
  | ⟨Interaction.ask (.leave id lock) next, held, heard⟩ =>
      some (s, ⟨next (), held.erase (id, lock), heard⟩)
  | ⟨Interaction.ask q next, held, heard⟩ =>
      some (s, ⟨next (reply q), held, heard ++ [⟨q, reply q⟩]⟩)

theorem Thread.step_of_next? {name : Name} {reply : (q : LoaderQuestion) → q.Answer}
    (hreply : ∀ q, Yields name q (reply q)) {s s' : Loaders} {th th' : Thread}
    (h : th.next? reply s = some (s', th')) : th.Step name s s' th' := by
  unfold Thread.next? at h
  split at h
  · cases h
  · cases h
    exact .act
  · cases h
    exact .enter
  · cases h
    exact .leave
  · rename_i q next held heard henter hleave
    cases h
    refine .answer ?_ (hreply q)
    cases q <;> simp_all [LoaderQuestion.isCall]

/-! ## With the lock held -/

/-- What has become of a name while its lock was held, and of the thread that held it. -/
inductive Handled (l : Loader) (name : Name) (s s' : Loaders) (job : Job) (t : List Exchange) :
    Except LoadError Module → Prop
  /-- The thread has failed, and nothing has changed. -/
  | failed {e : LoadError} (answers : s'.loaded? l.id name = s.loaded? l.id name)
      (defined : s'.defined l.id = s.defined l.id)
      (excused : job = .resolve → Excused t e) : Handled l name s s' job t (.error e)
  /-- The name was known. -/
  | known {m : Module} (resolves : job = .resolve) (loaded : s.loaded? l.id name = some m)
      (answers : s'.loaded? l.id name = some m) (defined : s'.defined l.id = s.defined l.id) :
      Handled l name s s' job t (.ok m)
  /-- The name was not known, and the module has become its answer. -/
  | gained {m : Module} (unknown : s.loaded? l.id name = none)
      (answers : s'.loaded? l.id name = some m)
      (defined : s'.defined l.id = s.defined l.id ∨ s'.defined l.id = s.defined l.id ++ [m]) :
      Handled l name s s' job t (.ok m)

/-- What is defined of a name is at most what the name is answered by. -/
def Loaders.Tidy (s : Loaders) (l : Loader) (name : Name) : Prop :=
  ((s.defined l.id).filter (·.name = name)).Sublist (s.loaded? l.id name).toList

section Handled

variable {kept : Prop} {l : Loader} {name : Name} {s s' : Loaders} {job : Job}
  {t : List Exchange} {r : Except LoadError Module} {m : Module}

namespace Handled

/-- No answer is replaced. -/
theorem loaded (h : Handled l name s s' job t r) :
    s.loaded? l.id name = none ∨ s'.loaded? l.id name = s.loaded? l.id name := by
  cases h with
  | failed answers defined excused => exact Or.inr answers
  | known resolves loaded answers defined => exact Or.inr (answers.trans loaded.symm)
  | gained unknown answers defined => exact Or.inl unknown

/-- What the thread has got is the answer. -/
theorem answers (h : Handled l name s s' job t (.ok m)) : s'.loaded? l.id name = some m := by
  cases h with
  | known resolves loaded answers defined => exact answers
  | gained unknown answers defined => exact answers

/-- A definition does not succeed where the name is known. -/
theorem unknown (h : Handled l name s s' job t (.ok m)) (hjob : job ≠ .resolve) :
    s.loaded? l.id name = none := by
  cases h with
  | known resolves loaded answers defined => exact absurd resolves hjob
  | gained unknown answers defined => exact unknown

theorem excused {e : LoadError} (h : Handled l name s s' job t (.error e))
    (hjob : job = .resolve) : Excused t e := by
  cases h with
  | failed answers defined excused => exact excused hjob

/-- What was heard before is no matter. -/
theorem heard (h : Handled l name s s' job t r) (before : List Exchange) :
    Handled l name s s' job (before ++ t) r := by
  cases h with
  | failed answers defined excused =>
      exact .failed answers defined fun hjob => (excused hjob).append before
  | known resolves loaded answers defined => exact .known resolves loaded answers defined
  | gained unknown answers defined => exact .gained unknown answers defined

/-- What was tidy stays tidy. -/
theorem tidy (h : Handled l name s s' job t r) (hs : s.Tidy l name) : s'.Tidy l name := by
  unfold Tidy at *
  cases h with
  | failed answers defined excused => rwa [answers, defined]
  | known resolves loaded answers defined => rwa [answers, defined, ← loaded]
  | gained unknown answers defined =>
      have hnone : (s.defined l.id).filter (·.name = name) = [] := by
        rw [unknown] at hs
        exact List.sublist_nil.1 hs
      rcases defined with hsame | hnew
      · rw [hsame, hnone]
        exact List.nil_sublist _
      · rw [hnew, List.filter_append, hnone, answers]
        exact List.filter_sublist

end Handled

/-- What a resolution passes on. -/
theorem Passed.handled (h : Passed kept s s' l name t r) : Handled l name s s' .resolve t r := by
  cases r with
  | error e => exact .failed (h.1.loaded l.id name) (h.1.defined l.id) fun _ => h.2
  | ok m =>
      obtain ⟨hanswer, ids, definer, hspread⟩ := h
      cases hknown : s.loaded? l.id name with
      | none =>
          refine .gained hknown hanswer ?_
          rw [hspread.defined]
          split
          · exact Or.inr rfl
          · exact Or.inl rfl
      | some x =>
          have hsame : some x = some m := (hspread.loaded_of_some hknown).symm.trans hanswer
          have hnot : some l.id ≠ definer := by
            rintro rfl
            have hfresh := hspread.fresh l.id (hspread.definer_mem l.id rfl)
            rw [hknown] at hfresh
            cases hfresh
          refine .known rfl (hknown.trans hsame) hanswer ?_
          rw [hspread.defined, if_neg hnot]

/-- What a definition leaves behind. -/
theorem Added.handled (h : Added kept s [] l r s') (hjob : job ≠ .resolve)
    (hname : ∀ m, r = .ok m → m.name = name) : Handled l name s s' job t r := by
  cases r with
  | error e => exact .failed (h.loaded l.id name) (h.defined l.id) fun heq => absurd heq hjob
  | ok m =>
      obtain ⟨hnone, hgained⟩ := h
      obtain rfl := hname m rfl
      refine .gained hnone ?_ (Or.inr ?_)
      · rw [hgained.loaded, if_pos ⟨List.mem_singleton_self _, rfl⟩]
      · rw [hgained.defined, if_pos rfl]

end Handled

/-- What may be done with the lock for a name held: all that is done stays within the
tables of loaders, and the name is handled. -/
structure Admitted (l : Loader) (name : Name) (job : Job)
    (body : LoaderTask (Except LoadError Module)) : Prop where
  /-- Locks are let go of in order. -/
  orderly : body.Orderly []
  /-- The name is handled. -/
  handled : ∀ s, Among True (fun r s' t => Handled l name s s' job t r) body s

section Admitted

variable {l : Loader} {name : Name} {job : Job}

theorem admitted_resolveHeld (hids : (l.path.map (·.id)).Nodup) :
    Admitted l name .resolve (l.resolveHeld name false) where
  orderly := orderly_resolveHeld l name false
  handled s := (among_resolveHeld (.refl [] s) hids).weaken fun _ _ _ => Passed.handled

theorem admitted_defineHeld (hjob : job ≠ .resolve) (bytes : List UInt8) (start stop : Nat)
    (domain : Option ProtectionDomain) :
    Admitted l name job (l.defineHeld name bytes start stop domain) where
  orderly := orderly_defineHeld name bytes start stop domain
  handled s := by
    refine (among_defineHeld bytes start stop domain).weaken ?_
    rintro r s' t ⟨hdefinition, hadded⟩
    refine hadded.handled hjob fun m hm => ?_
    subst hm
    cases hdefinition with
    | defined inDomain unknown named own => exact named

theorem admitted_enterHeld (hjob : job ≠ .resolve) {m : Module} (hm : m.name = name)
    (domain : ProtectionDomain) : Admitted l name job (l.enterHeld m domain) where
  orderly := orderly_enterHeld m domain
  handled s := by
    refine (among_enterHeld (.refl [] s) m domain).weaken ?_
    rintro r s' t ⟨hadded, -, hr⟩
    exact hadded.handled hjob fun m' hm' => (hr m' hm').symm ▸ hm

end Admitted

/-! ## Outside and inside -/

/-- What is done with a lock held, and then the lock is let go of. -/
def LoaderTask.thenLeave {α : Type} (body : LoaderTask α) (id : LoaderId) (lock : Lock) :
    LoaderTask α :=
  body >>= fun a => do
    LoaderTask.ask (.leave id lock)
    return a

/-- The lock for a name, where it has been made, is not replaced. -/
def Loaders.KeepsLock (l : Loader) (name : Name) (s s' : Loaders) : Prop :=
  ∀ lock, s.LockMade l.id name lock → s'.LockMade l.id name lock

/-- What happens outside: answers, definitions and domains are left alone, and the lock is
kept. -/
structure Loaders.Apart (l : Loader) (name : Name) (s s' : Loaders) : Prop
    extends Unmoved True [] s s' where
  /-- The lock is kept. -/
  keeps : s.KeepsLock l name s'

/-- The rest of a thread that does not hold the lock, while others keep the lock: it leaves
all answers alone until it takes the lock, or until it fails. -/
def Outside (l : Loader) (name : Name) (job : Job) :
    LoaderTask (Except LoadError Module) → Loaders → Prop
  | .done r, _ => ∃ e, r = .error e ∧ (job = .resolve → Excused [] e)
  | .act update next, s => ∀ s', s.KeepsLock l name s' →
      s'.Apart l name (update s') ∧ Outside l name job (next s') (update s')
  | Interaction.ask q next, s => ∀ s', s.KeepsLock l name s' →
      (q.isCall = true ∧ ∀ a, Yields name q a → Outside l name job (next a) s') ∨
      ∃ lock body, s'.LockMade l.id name lock ∧ Admitted l name job body ∧
        Interaction.ask q next =
          (LoaderTask.ask (.enter l.id lock) >>= fun _ => body.thenLeave l.id lock)

/-- A thread that holds the lock since some state. -/
inductive Inside (l : Loader) (name : Name) (job : Job) (since : Loaders) (th : Thread)
    (s : Loaders) : Prop
  | intro {lock : Lock} {held : List (LoaderId × Lock)}
      {body : LoaderTask (Except LoadError Module)} (rest : th.rest = body.thenLeave l.id lock)
      (locks : th.held = held ++ [(l.id, lock)]) (orderly : body.Orderly held)
      (made : s.LockMade l.id name lock)
      (handled : Among True (fun r s' t => Handled l name since s' job (th.heard ++ t) r) body s)

section Threads

variable {l : Loader} {name : Name} {job : Job} {s s' since : Loaders} {th th' : Thread}

namespace Loaders

theorem KeepsLock.refl (s : Loaders) : s.KeepsLock l name s :=
  fun _ h => h

theorem KeepsLock.trans {s₁ s₂ s₃ : Loaders} (h₁ : s₁.KeepsLock l name s₂)
    (h₂ : s₂.KeepsLock l name s₃) : s₁.KeepsLock l name s₃ :=
  fun lock h => h₂ lock (h₁ lock h)

theorem Inward.keepsLock (h : Inward s s') : s.KeepsLock l name s' :=
  fun _ => h.locks

theorem Apart.of_tables (h : ∀ id, s'.tablesOf id = s.tablesOf id) : s.Apart l name s' := by
  refine ⟨⟨fun id n => ?_, fun id => ?_, fun id _ => ?_, fun _ id source d hd => ?_⟩,
    fun lock hmade => ?_⟩
  · exact congrArg (fun t => t.loaded.find? n) (h id)
  · exact congrArg LoaderTables.defined (h id)
  · exact congrArg LoaderTables.signers (h id)
  · cases source <;> simpa only [domainOf, h] using hd
  · unfold LockMade
    rw [h]
    exact hmade

theorem Apart.refl (s : Loaders) : s.Apart l name s :=
  .of_tables fun _ => rfl

/-- The lock for a name is made when it is asked for. -/
theorem lockMade_lockFor (s : Loaders) (id : LoaderId) (name : Name) :
    (s.lockFor id name).2.LockMade id name (s.lockFor id name).1 := by
  show ((s.onTables id fun t => { t with locks := _ }).tablesOf id).locks.Made name _
  rw [tablesOf_onTables_self]
  exact LockTable.made_lockFor _ name

end Loaders

/-- While others keep the lock, nothing changes for those outside. -/
theorem Outside.later {p : LoaderTask (Except LoadError Module)}
    (h : Outside l name job p s) (hs : s.KeepsLock l name s') : Outside l name job p s' := by
  cases p with
  | done r => exact h
  | act update next => exact fun s₁ h₁ => h s₁ (hs.trans h₁)
  | ask q next => exact fun s₁ h₁ => h s₁ (hs.trans h₁)

/-- Who is outside has not succeeded. -/
theorem Outside.unsuccessful {p : LoaderTask (Except LoadError Module)}
    (h : Outside l name job p s) (m : Module) : p ≠ .done (.ok m) := by
  rintro rfl
  obtain ⟨e, he, -⟩ := h
  cases he

/-- While others are outside, nothing changes for the one inside. -/
theorem Inside.later (h : Inside l name job since th s) (hs : s.Apart l name s') :
    Inside l name job since th s' := by
  obtain ⟨rest, locks, orderly, made, handled⟩ := h
  exact ⟨rest, locks, orderly, hs.keeps _ made, handled.later hs.toUnmoved⟩

/-- Whoever is inside holds the lock for the name. -/
theorem Inside.holds (h : Inside l name job since th s) :
    (l.id, (s.lockFor l.id name).1) ∈ th.held := by
  obtain ⟨rest, locks, orderly, made, handled⟩ := h
  rw [locks, made.eq]
  exact List.mem_append_right _ (List.mem_singleton_self _)

/-- Whoever is inside has not ended. -/
theorem Inside.unfinished (h : Inside l name job since th s) (r : Except LoadError Module) :
    th.rest ≠ .done r := by
  obtain @⟨lock, held, body, rest, -⟩ := h
  rw [rest]
  cases body <;> exact nofun

/-! ## Where the threads begin -/

/-- Whoever is about to take the lock is outside. -/
theorem outside_locked {body : LoaderTask (Except LoadError Module)}
    (h : Admitted l name job body) (s : Loaders) :
    Outside l name job (l.locked name body) s := by
  intro s₁ _
  refine ⟨⟨.lockFor s₁ l.id name, (Inward.lockFor s₁ l.id name).keepsLock⟩, ?_⟩
  exact fun s₂ h₂ => Or.inr ⟨_, body, h₂ _ (lockMade_lockFor s₁ l.id name), h, rfl⟩

/-- A definer that finds the name is asked before the lock is taken. -/
theorem outside_defineUnnamed (hjob : job ≠ .resolve) (bytes : List UInt8) (start stop : Nat)
    (domain : Option ProtectionDomain) (s : Loaders) :
    Outside l name job (l.defineUnnamed bytes start stop domain) s := by
  have hfailed : ∀ e s, Outside l name job (.done (.error e)) s :=
    fun e _ => ⟨e, rfl, fun heq => absurd heq hjob⟩
  have hproduce : ∀ d s, Outside l name job (l.defineUnnamed bytes start stop (some d)) s := by
    intro d s s₁ _
    refine Or.inl ⟨rfl, fun produced hyields => ?_⟩
    cases produced with
    | error e => exact hfailed e s₁
    | ok m =>
        obtain rfl : m.name = name := hyields rfl
        cases hobjection : l.objection? none m with
        | some e =>
            simp only [Interaction.bind, hobjection]
            exact hfailed e s₁
        | none =>
            simp only [Interaction.bind, hobjection]
            exact outside_locked (admitted_enterHeld hjob rfl d) s₁
  cases domain with
  | some d => exact hproduce d s
  | none =>
      refine fun s₁ _ => ⟨⟨.provide s₁ l.id none, ?_⟩, hproduce _ _⟩
      exact (Inward.defaultDomain s₁ l.id).keepsLock

/-- Every thread begins outside. -/
theorem outside_task (hids : (l.path.map (·.id)).Nodup) (job : Job) (s : Loaders) :
    Outside l name job (job.task l name) s := by
  cases job with
  | resolve =>
      show Outside l name .resolve (l.resolve name false) s
      unfold Loader.resolve
      split
      · exact outside_locked (admitted_resolveHeld hids) s
      · exact ⟨_, rfl, fun _ => excused_of_ne fun _ => nofun⟩
  | define named bytes start stop domain =>
      have hjob : Job.define named bytes start stop domain ≠ .resolve := nofun
      have hfailed : ∀ e, Outside l name (.define named bytes start stop domain)
          (.done (.error e)) s := fun e => ⟨e, rfl, fun heq => absurd heq hjob⟩
      show Outside l name _ (l.define (if named then some name else none) _ _ _ _) s
      unfold Loader.define
      split
      · exact hfailed _
      · split
        · exact hfailed _
        · cases named with
          | true => exact outside_locked (admitted_defineHeld hjob bytes start stop domain) s
          | false => exact outside_defineUnnamed hjob bytes start stop domain s

/-! ## Steps -/

/-- A thread outside moves nothing, and it stays outside or takes the lock. -/
theorem Outside.step (h : Outside l name job th.rest s) (hheld : th.held = [])
    (hstep : th.Step name s s' th') :
    s.Apart l name s' ∧ (th'.held = [] ∧ Outside l name job th'.rest s' ∨
      s' = s ∧ Inside l name job s th' s) := by
  cases hstep with
  | act =>
      obtain ⟨hapart, hnext⟩ := h s (.refl s)
      exact ⟨hapart, Or.inl ⟨hheld, hnext⟩⟩
  | @enter id lock next held heard =>
      refine ⟨.refl s, Or.inr ⟨rfl, ?_⟩⟩
      rcases h s (.refl s) with ⟨hcall, -⟩ | ⟨lock', body, hmade, hadmitted, heq⟩
      · cases hcall
      · obtain ⟨hq, hnext⟩ := Interaction.ask.inj heq
        cases hq
        obtain rfl : held = [] := hheld
        refine ⟨congrFun (eq_of_heq hnext) (), rfl, hadmitted.orderly, hmade, ?_⟩
        exact (hadmitted.handled s).weaken fun r s₁ t hhandled => hhandled.heard heard
  | leave =>
      rcases h s (.refl s) with ⟨hcall, -⟩ | ⟨lock', body, -, -, heq⟩
      · cases hcall
      · cases (Interaction.ask.inj heq).1
  | answer call yields =>
      rcases h s (.refl s) with ⟨-, hnext⟩ | ⟨lock', body, -, -, heq⟩
      · exact ⟨.refl s, Or.inl ⟨hheld, hnext _ yields⟩⟩
      · obtain ⟨rfl, -⟩ := Interaction.ask.inj heq
        cases call

/-- Questions that are not about locks leave the locks alone. -/
theorem heldAfter_of_isCall {q : LoaderQuestion} (h : q.isCall = true)
    (held : List (LoaderId × Lock)) : q.heldAfter held = some held := by
  cases q with
  | enter id lock => cases h
  | leave id lock => cases h
  | _ => rfl

/-- The lock that is let go of is the newest one. -/
theorem eq_cons_of_heldAfter {id : LoaderId} {lock : Lock} {held held' : List (LoaderId × Lock)}
    (h : (LoaderQuestion.leave id lock).heldAfter held = some held') :
    held = (id, lock) :: held' := by
  simp only [LoaderQuestion.heldAfter, Option.ite_none_right_eq_some, Option.some.injEq] at h
  obtain ⟨hhead, rfl⟩ := h
  exact (List.cons_head?_tail hhead).symm

/-- A thread inside keeps the lock, and it stays inside or lets go of it when it has
handled the name. -/
theorem Inside.step (h : Inside l name job since th s) (hstep : th.Step name s s' th') :
    s.KeepsLock l name s' ∧ (Inside l name job since th' s' ∨
      s' = s ∧ ∃ r, th'.rest = .done r ∧ th'.held = [] ∧
        Handled l name since s job th'.heard r) := by
  obtain ⟨p, locks, heard⟩ := th
  obtain @⟨lock, held, body, rfl, rfl, horderly, hmade, hhandled⟩ := h
  cases body with
  | done r =>
      change Thread.Step name s ⟨Interaction.ask (.leave l.id lock) fun _ => .done r, _, _⟩ s' th'
        at hstep
      obtain rfl : held = [] := horderly
      cases hstep with
      | leave =>
          refine ⟨.refl s, Or.inr ⟨rfl, r, rfl, by simp, ?_⟩⟩
          simpa using hhandled s (.refl [] s)
      | answer call yields => cases call
  | act update next =>
      change Thread.Step name s
        ⟨.act update fun s => LoaderTask.thenLeave (next s) l.id lock, _, _⟩ s' th' at hstep
      cases hstep with
      | act =>
          obtain ⟨hinward, hnext⟩ := horderly s
          refine ⟨hinward.keepsLock, Or.inl ⟨rfl, rfl, hnext, hinward.keepsLock _ hmade, ?_⟩⟩
          exact hhandled s (.refl [] s)
  | ask q next =>
      change Thread.Step name s
        ⟨Interaction.ask q fun a => LoaderTask.thenLeave (next a) l.id lock, _, _⟩ s' th' at hstep
      obtain ⟨held', hheld, hnext⟩ := horderly
      cases hstep with
      | enter =>
          obtain rfl := Option.some.inj hheld
          exact ⟨.refl s, Or.inl ⟨rfl, rfl, hnext (), hmade, hhandled s (.refl [] s) ()⟩⟩
      | @leave id lock' =>
          obtain rfl := eq_cons_of_heldAfter hheld
          refine ⟨.refl s, Or.inl ⟨rfl, ?_, hnext (), hmade, hhandled s (.refl [] s) ()⟩⟩
          exact List.erase_cons_head _ _
      | answer call yields =>
          rw [heldAfter_of_isCall call] at hheld
          obtain rfl := Option.some.inj hheld
          refine ⟨.refl s, Or.inl ⟨rfl, rfl, hnext _, hmade, ?_⟩⟩
          simpa [call] using hhandled s (.refl [] s) _

end Threads

end Loading
