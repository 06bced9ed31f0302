import Loading.Proofs.Loader.Defining
import Loading.Proofs.Loader.CriticalSections

/-!
# Racing for one name

Any number of threads resolve a name at one loader or define modules of that name there,
each in one operation, and nobody calls back.  Their steps interleave in any way in which
no two threads hold the loading lock for the name at once.  A definer that finds the name
itself is asked before the lock is taken, so its module may come too late.

One invariant carries a whole run: either all threads are outside, or one is inside, which
has held the lock since a state in which the others were outside.

* `Crew.Step` — one step of one thread, or a change that a collaborator makes.
* `Crew.Kept` — the invariant, and `Crew.Kept.step` — it is kept up by each step.
* `races_agree` — at most one definition succeeds, and all who get a module get the same.
* `races_agree_late` — a resolution overtakes a definition.
-/

namespace Loading

open Interaction Service Loaders

/-- Some threads, and the state that they share. -/
structure Crew (ι : Type) where
  /-- The state of all loaders. -/
  state : Loaders
  /-- How far each thread has come. -/
  threads : ι → Thread

namespace Crew

variable {ι : Type} [DecidableEq ι] {l : Loader} {name : Name} {jobs : ι → Job} {σ τ : Crew ι}

/-- The threads before their first steps. -/
def start (s : Loaders) (l : Loader) (name : Name) (jobs : ι → Job) : Crew ι :=
  ⟨s, fun i => { rest := (jobs i).task l name }⟩

/-- One thread makes a step, or a collaborator changes something beside the tables of
loaders. -/
inductive Step (name : Name) (σ : Crew ι) : Crew ι → Prop
  | thread (i : ι) {s : Loaders} {th : Thread} (h : (σ.threads i).Step name σ.state s th) :
      Step name σ ⟨s, Function.update σ.threads i th⟩
  | aside {s : Loaders} (tables : ∀ id, s.tablesOf id = σ.state.tablesOf id) :
      Step name σ ⟨s, σ.threads⟩

/-- No two threads hold the loading lock for the name. -/
def Exclusive (l : Loader) (name : Name) (σ : Crew ι) : Prop :=
  ∀ i j, (l.id, (σ.state.lockFor l.id name).1) ∈ (σ.threads i).held →
    (l.id, (σ.state.lockFor l.id name).1) ∈ (σ.threads j).held → i = j

/-- A run of the threads in which no two of them ever hold the loading lock for the name. -/
abbrev Races (l : Loader) (name : Name) : Crew ι → Crew ι → Prop :=
  Relation.ReflTransGen fun σ τ => Step name σ τ ∧ τ.Exclusive l name

/-- A thread has ended with a result. -/
def Returned (σ : Crew ι) (i : ι) (r : Except LoadError Module) : Prop :=
  (σ.threads i).rest = .done r

/-- At most one definition has succeeded. -/
def Once (σ : Crew ι) (jobs : ι → Job) : Prop :=
  ∀ i j m m', jobs i ≠ .resolve → jobs j ≠ .resolve → σ.Returned i (.ok m) →
    σ.Returned j (.ok m') → i = j

end Crew

/-! ## The invariant -/

/-- A thread that does not hold the lock, where the loader answers the name so: it is
outside, or it has ended, and what it has got is the answer. -/
inductive Standing (l : Loader) (name : Name) (job : Job) (answer : Option Module)
    (s : Loaders) (th : Thread) : Prop
  | outside (held : th.held = []) (rest : Outside l name job th.rest s)
  | ended {r : Except LoadError Module} (held : th.held = []) (rest : th.rest = .done r)
      (same : ∀ m, r = .ok m → answer = some m)
      (excused : ∀ e, r = .error e → job = .resolve → Excused th.heard e)

section Standing

variable {l : Loader} {name : Name} {job : Job} {answer answer' : Option Module}
  {s s' : Loaders} {th : Thread}

namespace Standing

theorem held (h : Standing l name job answer s th) : th.held = [] := by
  cases h with
  | outside held rest => exact held
  | ended held rest same excused => exact held

theorem later (h : Standing l name job answer s th) (hs : s.KeepsLock l name s') :
    Standing l name job answer s' th := by
  cases h with
  | outside held rest => exact .outside held (rest.later hs)
  | ended held rest same excused => exact .ended held rest same excused

/-- As long as no answer is replaced, who has ended has got the answer. -/
theorem mono (h : Standing l name job answer s th) (hanswer : answer = none ∨ answer' = answer) :
    Standing l name job answer' s th := by
  rcases hanswer with rfl | rfl
  · cases h with
    | outside held rest => exact .outside held rest
    | ended held rest same excused =>
        exact .ended held rest (fun m hm => nomatch same m hm) excused
  · exact h

/-- What a thread has got is the answer, and it blames no module that is there already
unless it was told so. -/
theorem returned (h : Standing l name job answer s th) {r : Except LoadError Module}
    (hr : th.rest = .done r) : (∀ m, r = .ok m → answer = some m) ∧
      ∀ e, r = .error e → job = .resolve → Excused th.heard e := by
  cases h with
  | outside held rest =>
      rw [hr] at rest
      obtain ⟨e, rfl, hexcused⟩ := rest
      refine ⟨fun m => nofun, fun e' he hjob => ?_⟩
      obtain rfl := Except.error.inj he
      exact List.append_nil th.heard ▸ (hexcused hjob).append th.heard
  | ended held rest same excused =>
      obtain rfl := Interaction.done.inj (rest.symm.trans hr)
      exact ⟨same, excused⟩

end Standing

end Standing

namespace Crew

variable {ι : Type} {l : Loader} {name : Name} {jobs : ι → Job} {σ τ : Crew ι}

/-- All threads are outside or have ended, or just one of them holds the lock and has done so
since a state in which the others were outside or had ended. -/
inductive Kept (l : Loader) (name : Name) (jobs : ι → Job) (σ : Crew ι) : Prop
  | free (tidy : σ.state.Tidy l name) (once : σ.Once jobs)
      (standing : ∀ i, Standing l name (jobs i) (σ.state.loaded? l.id name) σ.state
        (σ.threads i))
  | busy {i : ι} {since : Loaders} (tidy : since.Tidy l name) (once : σ.Once jobs)
      (inside : Inside l name (jobs i) since (σ.threads i) σ.state)
      (standing : ∀ j, j ≠ i → Standing l name (jobs j) (since.loaded? l.id name) σ.state
        (σ.threads j))

/-- Where the loader does not know the name, all threads may begin. -/
theorem kept_start {s : Loaders} (hids : (l.path.map (·.id)).Nodup) (hwell : s.DefinesWell l)
    (hnone : s.loaded? l.id name = none) (jobs : ι → Job) :
    (start s l name jobs).Kept l name jobs := by
  have houtside : ∀ i, Outside l name (jobs i) ((jobs i).task l name) s :=
    fun i => outside_task hids (jobs i) s
  refine .free ?_ (fun i _ m _ _ _ hm _ => ?_) fun i => .outside rfl (houtside i)
  · have hundefined : (s.defined l.id).filter (·.name = name) = [] := by
      refine List.filter_eq_nil_iff.2 fun m hm hname => ?_
      obtain rfl := of_decide_eq_true hname
      rw [hwell.answered m hm] at hnone
      cases hnone
    show List.Sublist ((s.defined l.id).filter (·.name = name)) _
    rw [hundefined]
    exact List.nil_sublist _
  · exact absurd hm ((houtside i).unsuccessful m)

/-- What is agreed between threads that race for a name. -/
structure Agreed (l : Loader) (name : Name) (jobs : ι → Job) (σ : Crew ι) : Prop where
  /-- At most one definition has succeeded. -/
  once : σ.Once jobs
  /-- All who have got a module have got the same. -/
  same : ∀ i j m m', σ.Returned i (.ok m) → σ.Returned j (.ok m') → m = m'
  /-- A resolution blames a module that is there already only if a collaborator has told it
  so. -/
  excused : ∀ i e, jobs i = .resolve → σ.Returned i (.error e) → Excused (σ.threads i).heard e
  /-- Who has ended holds no lock. -/
  released : ∀ i r, σ.Returned i r → (σ.threads i).held = []
  /-- While nobody holds a lock, the loader answers by the module that was got, and has
  defined one module of the name at most, which is its answer. -/
  settled : (∀ i, (σ.threads i).held = []) →
    (∀ i m, σ.Returned i (.ok m) → σ.state.loaded? l.id name = some m) ∧
      ((σ.state.defined l.id).filter (·.name = name)).length ≤ 1 ∧
      ∀ m ∈ σ.state.defined l.id, m.name = name → σ.state.loaded? l.id name = some m

/-- There is one answer for all who have ended, which is the loader's while nobody holds a
lock. -/
theorem Kept.answer (h : σ.Kept l name jobs) : ∃ answer,
    (∀ i r, σ.Returned i r →
      Standing l name (jobs i) answer σ.state (σ.threads i)) ∧
      ((∀ i, (σ.threads i).held = []) → answer = σ.state.loaded? l.id name ∧
        σ.state.Tidy l name) := by
  cases h with
  | free tidy once standing => exact ⟨_, fun i _ _ => standing i, fun _ => ⟨rfl, tidy⟩⟩
  | @busy k since tidy once inside standing =>
      refine ⟨_, fun i r hr => standing i ?_, fun hnone => ?_⟩
      · rintro rfl
        exact inside.unfinished r hr
      · exact absurd inside.holds (hnone k ▸ List.not_mem_nil)

theorem Kept.once (h : σ.Kept l name jobs) : σ.Once jobs := by
  cases h with
  | free tidy once standing => exact once
  | busy tidy once inside standing => exact once

theorem Kept.agreed (h : σ.Kept l name jobs) : σ.Agreed l name jobs := by
  obtain ⟨answer, hended, hanswer⟩ := h.answer
  have hgot : ∀ i m, σ.Returned i (.ok m) → answer = some m := fun i m hm =>
    ((hended i _ hm).returned hm).1 m rfl
  refine ⟨h.once, fun i j m m' hm hm' => ?_, fun i e hjob he => ?_, fun i r hr => ?_, ?_⟩
  · exact Option.some.inj ((hgot i m hm).symm.trans (hgot j m' hm'))
  · exact ((hended i _ he).returned he).2 e rfl hjob
  · exact (hended i r hr).held
  · intro hnone
    obtain ⟨rfl, htidy⟩ := hanswer hnone
    refine ⟨hgot, Nat.le_trans htidy.length_le Option.length_toList_le, fun m hm hname => ?_⟩
    exact Option.mem_toList.1 (htidy.subset (List.mem_filter.2 ⟨hm, decide_eq_true hname⟩))

/-! ## Steps -/

namespace Kept

/-- What happens outside is no matter. -/
theorem apart (h : σ.Kept l name jobs) {s : Loaders} (hs : σ.state.Apart l name s) :
    Kept l name jobs ⟨s, σ.threads⟩ := by
  cases h with
  | free tidy once standing =>
      refine .free ?_ once fun i => ?_
      · unfold Tidy at *
        rwa [hs.loaded, hs.defined]
      · rw [hs.loaded]
        exact (standing i).later hs.keeps
  | busy tidy once inside standing =>
      exact .busy tidy once (inside.later hs) fun j hj => (standing j hj).later hs.keeps

end Kept

variable [DecidableEq ι]

/-- After a thread has made a step, still one definition has succeeded at most, if the
thread succeeds only where no other thread has. -/
theorem Once.put (h : σ.Once jobs) {i : ι} {s : Loaders} {th : Thread}
    (hnew : ∀ m, jobs i ≠ .resolve → th.rest = .done (.ok m) →
      ∀ j m', j ≠ i → ¬ σ.Returned j (.ok m')) :
    Once ⟨s, Function.update σ.threads i th⟩ jobs := by
  have hself : ∀ r, Returned ⟨s, Function.update σ.threads i th⟩ i r → th.rest = .done r := by
    intro r hr
    simpa [Returned] using hr
  have hother : ∀ k r, k ≠ i → Returned ⟨s, Function.update σ.threads i th⟩ k r →
      σ.Returned k r := by
    intro k r hk hr
    simpa [Returned, hk] using hr
  intro j k m m' hj hk hm hm'
  by_cases hji : j = i <;> by_cases hki : k = i
  · exact hji.trans hki.symm
  · subst hji
    exact absurd (hother k _ hki hm') (hnew m hj (hself _ hm) k m' hki)
  · subst hki
    exact absurd (hother j _ hji hm) (hnew m' hk (hself _ hm') j m hji)
  · exact h j k m m' hj hk (hother j _ hji hm) (hother k _ hki hm')

namespace Kept

/-- A thread outside stays outside. -/
theorem outside (h : σ.Kept l name jobs) {i : ι} {th : Thread} (hi : (σ.threads i).held = [])
    (hheld : th.held = []) (hrest : Outside l name (jobs i) th.rest σ.state) :
    Kept l name jobs ⟨σ.state, Function.update σ.threads i th⟩ := by
  have honce : Once ⟨σ.state, Function.update σ.threads i th⟩ jobs :=
    h.once.put fun m _ hm => absurd hm (hrest.unsuccessful m)
  cases h with
  | free tidy once standing =>
      refine .free tidy honce ((Function.forall_update_iff _ _).2 ⟨?_, fun j _ => standing j⟩)
      exact .outside hheld hrest
  | @busy k since tidy once inside standing =>
      have hki : k ≠ i := by
        rintro rfl
        have hmem := inside.holds
        rw [hi] at hmem
        exact List.not_mem_nil hmem
      refine .busy tidy honce (i := k) ?_ ?_
      · simpa [hki] using inside
      · refine (Function.forall_update_iff σ.threads fun j x => j ≠ k →
          Standing l name (jobs j) _ σ.state x).2 ⟨fun _ => ?_, fun j _ => standing j⟩
        exact .outside hheld hrest

/-- A thread takes the lock if no other thread holds it. -/
theorem enter (h : σ.Kept l name jobs) {i : ι} {th : Thread} (hi : (σ.threads i).held = [])
    (hinside : Inside l name (jobs i) σ.state th σ.state)
    (hexclusive : Exclusive l name ⟨σ.state, Function.update σ.threads i th⟩) :
    Kept l name jobs ⟨σ.state, Function.update σ.threads i th⟩ := by
  have honce : Once ⟨σ.state, Function.update σ.threads i th⟩ jobs :=
    h.once.put fun m _ hm => absurd hm (hinside.unfinished _)
  cases h with
  | free tidy once standing =>
      refine .busy tidy honce (i := i) ?_ ?_
      · simpa using hinside
      · exact fun j hj => by simpa [hj] using standing j
  | @busy k since tidy once inside standing =>
      have hmem := inside.holds
      have hki : k ≠ i := by
        rintro rfl
        rw [hi] at hmem
        exact List.not_mem_nil hmem
      refine absurd (hexclusive k i ?_ ?_) hki
      · simpa [hki] using hmem
      · simpa using hinside.holds

/-- A thread lets go of the lock. -/
theorem leave {i : ι} {since : Loaders} {th : Thread} {r : Except LoadError Module}
    (tidy : since.Tidy l name) (once : σ.Once jobs)
    (standing : ∀ j, j ≠ i → Standing l name (jobs j) (since.loaded? l.id name) σ.state
      (σ.threads j)) (hrest : th.rest = .done r) (hheld : th.held = [])
    (hhandled : Handled l name since σ.state (jobs i) th.heard r) :
    Kept l name jobs ⟨σ.state, Function.update σ.threads i th⟩ := by
  refine .free (hhandled.tidy tidy) (once.put fun m hjob hm j m' hj hreturned => ?_) ?_
  · -- Where another thread has got a module, the name was known.
    obtain rfl := Interaction.done.inj (hrest.symm.trans hm)
    have hanswer := ((standing j hj).returned hreturned).1 m' rfl
    rw [hhandled.unknown hjob] at hanswer
    cases hanswer
  · refine (Function.forall_update_iff _ _).2 ⟨?_, fun j hj => ?_⟩
    · refine .ended hheld hrest (fun m hm => ?_) fun e he hjob => ?_
      · subst hm
        exact hhandled.answers
      · subst he
        exact hhandled.excused hjob
    · exact (standing j hj).mono hhandled.loaded

/-- One step of a thread, or of a collaborator, keeps the invariant up. -/
theorem step (h : σ.Kept l name jobs) (hstep : Step name σ τ) (hexclusive : τ.Exclusive l name) :
    τ.Kept l name jobs := by
  cases hstep with
  | aside tables => exact h.apart (.of_tables tables)
  | @thread i s th hthread =>
      have hstanding : ∀ {answer}, Standing l name (jobs i) answer σ.state (σ.threads i) →
          Kept l name jobs ⟨s, Function.update σ.threads i th⟩ := by
        intro answer hi
        cases hi with
        | ended held rest same excused => exact absurd rest (hthread.unfinished _)
        | outside held rest =>
            obtain ⟨hapart, ⟨hheld, hrest⟩ | ⟨rfl, hinside⟩⟩ := rest.step held hthread
            · exact (h.apart hapart).outside held hheld hrest
            · exact h.enter held hinside hexclusive
      cases h with
      | free tidy once standing => exact hstanding (standing i)
      | @busy k since tidy once inside standing =>
          by_cases hik : i = k
          · subst hik
            obtain ⟨hkeeps, hinside | ⟨rfl, r, hrest, hheld, hhandled⟩⟩ := inside.step hthread
            · refine .busy tidy (once.put fun m _ hm => absurd hm (hinside.unfinished _))
                (i := i) (by simpa using hinside) fun j hj => ?_
              simpa [hj] using (standing j hj).later hkeeps
            · exact leave tidy once standing hrest hheld hhandled
          · exact hstanding (standing i hik)

/-- A whole run keeps the invariant up. -/
theorem run (h : σ.Kept l name jobs) (hrun : Races l name σ τ) : τ.Kept l name jobs := by
  induction hrun with
  | refl => exact h
  | tail _ hstep ih => exact ih.step hstep.1 hstep.2

end Kept

/-! ## What comes of a race -/

/-- Whatever threads race for a name that a loader does not know, and however their steps
interleave: at most one definition succeeds; all resolutions that succeed, and the
definition, return one handle; no resolution blames a module that is there already, unless a
collaborator told it so; and in the end the loader has defined one module of the name at
most. -/
theorem races_agree {π : loaderService.Session} (h : Reaches definerRules (.start {}) π)
    (idle : π.frames = []) (hl : l ∈ π.now.state.created)
    (hunknown : π.now.state.loaded? l.id name = none)
    (hrun : Races l name (start π.now.state l name jobs) σ) : σ.Agreed l name jobs := by
  have hready := defining_of_reaches h (idle ▸ rfl)
  have hstart := kept_start (hready.founded.nodup_path hl) (hready.sound.now.well l hl)
    hunknown jobs
  exact (hstart.run hrun).agreed

/-! ## Playing a race -/

section Play

variable (l : Loader) (name : Name) [∀ σ : Crew ι, Decidable (σ.Exclusive l name)]
  (reply : (q : LoaderQuestion) → q.Answer)

/-- The crew after a step of one thread, if it has not ended and no two threads come to hold
the lock. -/
def move (i : ι) (σ : Crew ι) : Option (Crew ι) :=
  ((σ.threads i).next? reply σ.state).bind fun x =>
    let τ : Crew ι := ⟨x.1, Function.update σ.threads i x.2⟩
    if τ.Exclusive l name then some τ else none

/-- The crew after the threads have made steps in some order. -/
def play : List ι → Crew ι → Option (Crew ι)
  | [], σ => some σ
  | i :: order, σ => (σ.move l name reply i).bind (play order)

variable {l name reply}

theorem races_of_play (hreply : ∀ q, Yields name q (reply q)) {order : List ι} {σ τ : Crew ι}
    (h : play l name reply order σ = some τ) : Races l name σ τ := by
  induction order generalizing σ with
  | nil =>
      obtain rfl := Option.some.inj h
      exact .refl
  | cons i order ih =>
      obtain ⟨ρ, hmove, hplay⟩ := Option.bind_eq_some_iff.1 h
      obtain ⟨⟨s, th⟩, hnext, hρ⟩ := Option.bind_eq_some_iff.1 hmove
      obtain ⟨hexclusive, hτ⟩ := Option.ite_none_right_eq_some.1 hρ
      obtain rfl := Option.some.inj hτ
      exact .head ⟨.thread i (Thread.step_of_next? hreply hnext), hexclusive⟩ (ih hplay)

end Play

end Crew

/-! ## A resolution that overtakes a definition -/

/-- Collaborators that know one module. -/
def prompt : (q : LoaderQuestion) → q.Answer
  | .mayCreate _ _ => .ok ()
  | .maySeeParent _ _ _ => .ok ()
  | .enter _ _ => ()
  | .leave _ _ => ()
  | .bootstrap _ _ => none
  | .find _ _ => .ok ⟨[0], none⟩
  | .produce _ r => .ok ⟨if r.name.isSome then 1 else 0, "a.B", r.loader, r.domain, 1⟩
  | .link _ _ => .ok ()
  | .bootstrapResource _ _ => none
  | .resource _ _ => none
  | .resources _ _ => []
  | .library _ _ => none

/-- One thread defines a module without a name, the other one resolves the name. -/
def contest (resolves : Bool) : Job :=
  if resolves then .resolve else .define false [0] 0 1 none

instance (l : Loader) (name : Name) (σ : Crew Bool) : Decidable (σ.Exclusive l name) :=
  inferInstanceAs (Decidable (∀ i j : Bool, _ → _ → i = j))

/-- A root is made. -/
def founding : List loaderService.Move :=
  [.call (.create .base none {}), .answer (.mayCreate 0 .base) (.ok ()), .finish]

/-- The definer has found the name when the other thread takes the lock, and it waits until
the name has been resolved. -/
def cuttingIn : List Bool :=
  List.replicate 3 false ++ List.replicate 17 true ++ List.replicate 5 false

/-- What the resolution defines. -/
def winner : Module := ⟨1, "a.B", ⟨1⟩, ⟨1, some {}⟩, 1⟩

theorem founding_allowed : definerRules.AllowsAll founding (.start {}) := by
  unfold founding
  repeat' refine allowsAll_cons ?_ rfl ?_
  all_goals first
    | trivial
    | exact nofun

/-- The definition comes too late, and the resolution returns the module of its own. -/
theorem races_agree_late :
    ∃ (π : loaderService.Session) (σ : Crew Bool), Session.play founding (.start {}) = some π ∧
      Crew.play solitary "a.B" prompt cuttingIn (.start π.now.state solitary "a.B" contest) =
        some σ ∧
      σ.Agreed solitary "a.B" contest ∧ σ.Returned true (.ok winner) ∧
      σ.Returned false (.error (.definition "a.B" .duplicate)) := by
  have hreaches := reaches_of_play founding_allowed rfl
  have hyields : ∀ q, Yields "a.B" q (prompt q) := by
    intro q
    cases q <;> first | trivial | exact fun _ => rfl
  have hplay : Crew.play solitary "a.B" prompt cuttingIn
      (.start (({} : Loaders).create .base none {}).2 solitary "a.B" contest) = some _ := rfl
  have hrun := Crew.races_of_play hyields hplay
  exact ⟨_, _, rfl, rfl, Crew.races_agree hreaches rfl (by decide) rfl hrun, rfl, rfl⟩

end Loading
