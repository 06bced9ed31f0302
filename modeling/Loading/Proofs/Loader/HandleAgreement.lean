import Loading.Proofs.Loader.Isolation
import Loading.Proofs.Loader.AnswerInheritance
import Loading.World.Surroundings

/-!
# One handle along a path

Loaders are called one after the other, and nobody calls back.  Each loader keeps
answers of its own, and modules of one name may be defined at any level before or after
the loaders below have answered it.  Still an answer that a loader did not define itself
is the answer of the loader right above it, up to the loader that defined the module or
to the built-in modules.

* `Turn` — an operation that nobody interrupts, or a built-in module that is registered.
* `Handed` — what a loader did not define, its parent answers.
* `handed_of_turned` — this is kept up by every sequence of turns.
* `handles_agree` — one module is the answer all the way up to its definition.
* `handles_agree_below` — a path on which two modules of one name are defined.
-/

namespace Loading

open Interaction Service Loaders

/-- What may happen to the state while nobody calls back: an operation runs, or a built-in
module is registered.  Whoever is asked meanwhile keeps to the rules. -/
inductive Turn (s : Loaders) : Loaders → Prop
  | called {E : Type} {answer : (q : LoaderQuestion) → Loaders → E → q.Answer × Loaders × E}
      (obeys : Obeys builtinRules answer) (c : LoaderCall) (made : ∀ l ∈ c.loader?, l ∈ s.created)
      (e : E) : Turn s (c.body.run answer s e).2.1
  | registered (key : Nat) (name : Name) : Turn s (s.registerBuiltin key name).2

/-- A sequence of turns, from the beginning. -/
abbrev Turned (s : Loaders) : Prop :=
  Relation.ReflTransGen Turn {} s

/-- A sequence of turns is a session in which nothing is nested. -/
theorem reaches_of_turned {s : Loaders} (h : Turned s) :
    ∃ m : LoaderMoment, m.state = s ∧ Reaches builtinRules (.start {}) ⟨m, []⟩ := by
  induction h with
  | refl => exact ⟨_, rfl, .refl⟩
  | tail _ hturn ih =>
      obtain ⟨m, rfl, hreaches⟩ := ih
      cases hturn with
      | called obeys c made e =>
          have idle : Idle ([] : List loaderService.Frame) = true := rfl
          obtain ⟨m', hstate, hcall⟩ := reaches_call obeys idle made e
          exact ⟨m', hstate, hreaches.trans hcall⟩
      | registered key name =>
          have hchange := mayChange_registerBuiltin m key name
          exact ⟨_, rfl, hreaches.tail (.outside rfl hchange)⟩

/-- Whenever no operation is under way, the hierarchy stands firm and tables agree. -/
theorem ready_of_turned {s : Loaders} (h : Turned s) :
    s.Founded ∧ ∀ l ∈ s.created, s.DefinesWell l := by
  obtain ⟨m, rfl, hreaches⟩ := reaches_of_turned h
  have hready := tracing_of_reaches hreaches rfl
  exact ⟨hready.founded, hready.sound.now.well⟩

/-! ## What is handed down -/

/-- What a loader answers and did not define, the loader right above it answers, too. -/
def Handed (s : Loaders) : Prop :=
  ∀ l ∈ s.created, ∀ name m, s.loaded? l.id name = some m →
    m ∈ s.defined l.id ∨ ∀ parent ∈ l.parent?, s.loaded? parent.id name = some m

section Handed

variable {s s' : Loaders} {l : Loader} {name : Name} {m : Module}

theorem Handed.start : Handed {} :=
  fun _ hl => absurd hl List.not_mem_nil

/-- Where loaders answer and define the same, the same is handed down. -/
theorem Handed.same (h : Handed s) (hcreated : s'.created = s.created)
    (hloaded : ∀ id n, s'.loaded? id n = s.loaded? id n)
    (hdefined : ∀ id, s'.defined id = s.defined id) : Handed s' := by
  intro l hl name m hm
  rw [hcreated] at hl
  rw [hloaded] at hm
  simp only [hloaded, hdefined]
  exact h l hl name m hm

/-- Loaders that gain a module from above, or define it, keep to this. -/
theorem Handed.spread (h : Handed s) (hfounded : s.Founded) (hl : l ∈ s.created)
    (hcreated : s'.created = s.created) {ids : List LoaderId} {definer : Option LoaderId}
    {kept : Prop} (hspread : Spread kept s s' l.path name m ids definer) : Handed s' := by
  intro k hk n x hx
  rw [hcreated] at hk
  rw [hspread.loaded] at hx
  split at hx
  · rename_i hgained
    obtain ⟨hid, rfl⟩ := hgained
    obtain rfl := Option.some.inj hx
    obtain ⟨a, ha, heq⟩ := List.mem_map.1 (hspread.along k.id hid)
    obtain rfl := hfounded.id_inj a (hfounded.path_created l hl a ha) k hk heq
    refine (hspread.above a ha hid).imp_left fun hdefiner => ?_
    rw [hspread.defined, if_pos hdefiner]
    exact List.mem_append_right _ (List.mem_singleton_self _)
  · rcases h k hk n x hx with hdefined | hparent
    · left
      rw [hspread.defined]
      split
      · exact List.mem_append_left _ hdefined
      · exact hdefined
    · exact Or.inr fun parent hp => hspread.loaded_of_some (hparent parent hp)

/-- A loader that has just been made answers nothing. -/
theorem Handed.create (h : Handed s) (hfounded : s.Founded) (kind : Kind)
    (parent : Option Loader) (context : Context) :
    Handed (s.create kind parent context).2 := by
  intro l hl name m hm
  rw [hfounded.loaded?_create] at hm
  simp only [hfounded.loaded?_create, hfounded.defined_create]
  rw [created_create, List.mem_append, List.mem_singleton] at hl
  rcases hl with hl | rfl
  · exact h l hl name m hm
  · have hblank := hfounded.blank _ fun k hk => hfounded.id_ne_next hk
    rw [id_create] at hm
    unfold Loaders.loaded? at hm
    rw [hblank.loaded] at hm
    cases hm

/-- So does a definition, with what it adds. -/
theorem Handed.added (h : Handed s) (hfounded : s.Founded) (hl : l ∈ s.created)
    (hcreated : s'.created = s.created) {r : Except LoadError Module}
    {kept : Prop} (hadded : Added kept s [] l r s') : Handed s' := by
  cases r with
  | error e => exact h.same hcreated hadded.loaded hadded.defined
  | ok m => exact h.spread hfounded hl hcreated (.define hadded.2 hadded.1)

/-- So does a resolution, with what it passes on. -/
theorem Handed.passed (h : Handed s) (hfounded : s.Founded) (hl : l ∈ s.created)
    (hcreated : s'.created = s.created) {t : List Exchange} {r : Except LoadError Module}
    {kept : Prop} (hpassed : Passed kept s s' l name t r) : Handed s' := by
  cases r with
  | error e => exact h.same hcreated hpassed.1.loaded hpassed.1.defined
  | ok m =>
      obtain ⟨-, ids, definer, hspread⟩ := hpassed
      exact h.spread hfounded hl hcreated hspread

/-! ## One turn after another -/

section Turn

variable {E : Type} {answer : (q : LoaderQuestion) → Loaders → E → q.Answer × Loaders × E}

/-- Whoever keeps to the rules leaves the tables of loaders alone. -/
theorem beside_of_obeys (obeys : Obeys builtinRules answer) (q : LoaderQuestion) (s : Loaders)
    (e : E) : s.Beside { (answer q s e).2.1 with ledger := s.ledger } :=
  (obeys ⟨s, []⟩ q e).1.1

/-- So an operation that nobody interrupts ends as it does among others, who may even take
domains away. -/
theorem ends_of_among (obeys : Obeys builtinRules answer)
    {p : LoaderTask (Except LoadError Module)}
    {post : Except LoadError Module → Loaders → List Exchange → Prop}
    (hp : Among False post p s) :
    Ends answer LoaderQuestion.isCall post p s := by
  refine hp.ends (Unmoved.refl []) fun q s e => ?_
  have hbeside := beside_of_obeys obeys q s e
  exact ⟨hbeside.loaded?, hbeside.defined, fun id _ => hbeside.signers id, nofun⟩

/-- An orderly operation makes no loader. -/
theorem created_of_orderly (obeys : Obeys builtinRules answer)
    {p : LoaderTask (Except LoadError Module)} (hp : p.Orderly []) (e : E) :
    (p.run answer s e).2.1.created = s.created := by
  have hacts : p.Acts fun s s' => s'.created = s.created := hp.acts.mono fun _ _ h => h.created
  exact hacts.run (fun _ => rfl) (fun h₁ h₂ => h₂.trans h₁)
    (fun q s e => (beside_of_obeys obeys q s e).created) s e

/-- A loader that is made takes nothing over. -/
theorem Handed.ends_create (h : Handed s) (hfounded : s.Founded)
    (obeys : Obeys builtinRules answer) (kind : Kind) (parent : Option Loader)
    (context : Context) :
    Ends answer LoaderQuestion.isCall (fun _ s' _ => Handed s')
      (Loader.create kind parent context) s := by
  unfold Loader.create
  apply ends_bind
  refine ends_question (q := LoaderQuestion.mayCreate _ _) fun e => ?_
  have hasked := beside_of_obeys obeys (.mayCreate context.key kind) s e
  have hsame := h.same hasked.created hasked.loaded? hasked.defined
  cases (answer (.mayCreate context.key kind) s e).1 with
  | error e => exact ends_done hsame
  | ok u =>
      apply ends_bind
      apply ends_transact
      exact ends_done (hsame.create (hfounded.freely hasked) kind parent context)

/-- One turn keeps to what is handed down. -/
theorem Handed.turn (h : Handed s) (hfounded : s.Founded) (hturn : Turn s s') : Handed s' := by
  cases hturn with
  | registered key name =>
      have hbeside := beside_registerBuiltin s key name
      exact h.same hbeside.created hbeside.loaded? hbeside.defined
  | called obeys c made e =>
      cases c with
      | create kind parent context => exact h.ends_create hfounded obeys kind parent context e
      | define l name bytes start stop domain =>
          have hsame := created_of_orderly (s := s) obeys
            (orderly_define (l := l) name bytes start stop domain) e
          have hadded := ends_of_among obeys
            (among_define (l := l) (.refl [] s) name bytes start stop domain) e
          exact h.added hfounded (made l rfl) hsame hadded
      | resolve l name link =>
          have hl := made l rfl
          have hsame := created_of_orderly (s := s) obeys (orderly_resolve l name link) e
          obtain ⟨t, r, hpassed⟩ := ends_of_among obeys
            (among_resolve (hfounded.nodup_path hl) link) e
          exact h.passed hfounded hl hsame hpassed

/-- Whatever turns have been taken, what a loader answers and did not define, the loader
right above it answers, too. -/
theorem handed_of_turned (h : Turned s) : Handed s := by
  induction h with
  | refl => exact .start
  | tail hturns hturn ih => exact ih.turn (ready_of_turned hturns).1 hturn

end Turn

/-! ## Up to the definition -/

/-- An answer leads up the path as long as nobody has defined it. -/
theorem Handed.climb (h : Handed s) (hfounded : s.Founded) {below above : List Loader}
    {d : Loader} (hl : l ∈ s.created) (hm : s.loaded? l.id name = some m)
    (hpath : l.path = below ++ d :: above) (hnone : ∀ b ∈ below, m ∉ s.defined b.id) :
    ∀ a ∈ below ++ [d], s.loaded? a.id name = some m := by
  induction below generalizing l with
  | nil =>
      obtain ⟨rfl, -⟩ := List.cons.inj hpath
      exact fun a ha => List.mem_singleton.1 ha ▸ hm
  | cons b below ih =>
      obtain ⟨rfl, hrest⟩ := List.cons.inj hpath
      refine List.forall_mem_cons.2 ⟨hm, ?_⟩
      cases l with
      | root level => exact absurd hrest (by simp [Loader.ancestors])
      | child level parent =>
          have hup := (h _ hl name m hm).resolve_left (hnone _ List.mem_cons_self)
          refine ih (hfounded.ancestor_created hl List.mem_cons_self) (hup parent rfl) hrest ?_
          exact fun b hb => hnone b (List.mem_cons_of_mem _ hb)

/-- A loader answers a name by a module that is handed down its path. -/
structure Loaders.HandedDown (s : Loaders) (l : Loader) (name : Name) (m : Module) : Prop where
  /-- What the loader did not define, its parent answers, or for a root the bootstrap
  resolver. -/
  above : m ∉ s.defined l.id →
    (∃ parent, l.parent? = some parent ∧ s.loaded? parent.id name = some m) ∨
      l.parent? = none ∧ s.builtin? l.context.key name = some m
  /-- From the loader up to the one that defined the module, all answer by it. -/
  upTo : ∀ d ∈ s.created, m ∈ s.defined d.id → ∃ below above, l.path = below ++ d :: above ∧
    ∀ a ∈ below ++ [d], s.loaded? a.id name = some m
  /-- If no loader defined it, the whole path answers by it. -/
  throughout : (∀ d ∈ s.created, m ∉ s.defined d.id) → ∀ a ∈ l.path,
    s.loaded? a.id name = some m

/-- One handle for a name: whatever operations have been called, one after the other, an
answer of a loader that shares its context with those above it is the answer of all of them
up to the one that defined the module; and if the loader did not define it itself, its
parent answers by it, or for a root the bootstrap resolver. -/
theorem handles_agree (h : Turned s) (hl : l ∈ s.created)
    (hcontext : ∀ a ∈ l.path, a.context = l.context) (hm : s.loaded? l.id name = some m) :
    s.HandedDown l name m := by
  obtain ⟨moment, rfl, hreaches⟩ := reaches_of_turned h
  obtain ⟨hfounded, hwell⟩ := ready_of_turned h
  have hhanded := handed_of_turned h
  have hmade := hfounded.path_created l hl
  refine ⟨fun hnone => ?_, fun d hd hdefined => ?_, fun hnone a ha => ?_⟩
  · cases l with
    | child level parent =>
        exact Or.inl ⟨parent, rfl, (hhanded _ hl name m hm).resolve_left hnone parent rfl⟩
    | root level =>
        rcases source_of_reaches hreaches rfl hl hcontext hm with
          hbuiltin | ⟨a, ha, hdefined, -⟩
        · exact Or.inr ⟨rfl, hbuiltin⟩
        · obtain rfl := List.mem_singleton.1 ha
          exact absurd hdefined hnone
  · -- The loader that defined the module is on the path once, and nobody else has defined it.
    obtain ⟨below, above, hpath⟩ :=
      List.append_of_mem (definer_on_path hreaches rfl hl hcontext hm hd hdefined)
    have hdistinct : (l.path.map (·.id)).Nodup := hfounded.nodup_path hl
    rw [hpath, List.map_append, List.map_cons] at hdistinct
    refine ⟨below, above, hpath, hhanded.climb hfounded hl hm hpath fun b hb hdefined' => ?_⟩
    have hb' := hwell b (hmade b (hpath ▸ List.mem_append_left _ hb))
    have hid : b.id = d.id := (hb'.own m hdefined').symm.trans ((hwell d hd).own m hdefined)
    exact (List.nodup_append.1 hdistinct).2.2 _ (List.mem_map_of_mem hb) _ List.mem_cons_self hid
  · obtain ⟨below, above, hpath⟩ := List.append_of_mem ha
    refine hhanded.climb hfounded hl hm hpath (fun b hb => ?_) a (by simp)
    exact hnone b (hmade b (hpath ▸ List.mem_append_left _ hb))

end Handed

/-! ## Two modules of one name on a path -/

/-- Collaborators that never call back, as loaders see them. -/
def Surroundings.serve (e : Surroundings) (q : LoaderQuestion) (s : Loaders) (_ : Unit) :
    q.Answer × Loaders × Unit :=
  ((e.answerLoader q s).1, (e.answerLoader q s).2, ())

/-- They keep to the rules: what they make of modules is no matter to tables. -/
theorem obeys_serve (e : Surroundings) : Obeys builtinRules e.serve := by
  intro m q _
  have hsame : ∀ ledger, builtinRules.mayChange m { m.state with ledger } :=
    fun _ => ⟨.refl m.state, .of_eq rfl⟩
  cases q with
  | produce context request =>
      refine ⟨?_, trivial⟩
      show builtinRules.mayChange m (m.state.produceOpaque request).2
      unfold Loaders.produceOpaque
      split
      · exact hsame m.state.ledger
      · split
        · exact hsame m.state.ledger
        · exact hsame _
  | link context module => exact ⟨hsame _, trivial⟩
  | bootstrap context name => exact ⟨hsame m.state.ledger, rfl⟩
  | _ => exact ⟨hsame m.state.ledger, trivial⟩

/-- A loader two steps below a root. -/
def inmost : Loader := .child ⟨⟨3⟩, .base, true, {}⟩ sheltered

/-- A loader defines a module, the one below it resolves it, and then the one above defines
another module of that name. -/
def overlaid : List LoaderCall :=
  [.create .base none {}, .create .base (some solitary) {}, .create .base (some sheltered) {},
    .define sheltered (some "a.B") [0] 0 1 none, .resolve inmost "a.B" false,
    .define solitary (some "a.B") [0] 0 1 none]

/-- The state after some operations without any files; what is called on a loader that has
not been made does nothing. -/
def Loaders.after (s : Loaders) (calls : List LoaderCall) : Loaders :=
  calls.foldl (fun s c =>
    if ∀ l ∈ c.loader?, l ∈ s.created then
      (c.body.run (Surroundings.serve { files := .ofObservations {} }) s ()).2.1
    else s) s

theorem turned_after {s : Loaders} (h : Turned s) (calls : List LoaderCall) :
    Turned (s.after calls) := by
  induction calls generalizing s with
  | nil => exact h
  | cons c calls ih =>
      refine ih ?_
      dsimp only
      split
      · rename_i made
        exact h.tail (.called (obeys_serve _) c made ())
      · exact h

/-- What the second loader has defined. -/
def upper : Module := ⟨0, "a.B", ⟨2⟩, ⟨1, some {}⟩, 1⟩

/-- What the first loader defines later. -/
def topmost : Module := ⟨1, "a.B", ⟨1⟩, ⟨2, some {}⟩, 1⟩

/-- The loader at the bottom and the one above it agree, and the root does not matter. -/
theorem handles_agree_below :
    ∃ s, Turned s ∧ s.loaded? inmost.id "a.B" = some upper ∧ s.HandedDown inmost "a.B" upper ∧
      s.loaded? sheltered.id "a.B" = some upper ∧ s.loaded? solitary.id "a.B" = some topmost := by
  have hturned : Turned (({} : Loaders).after overlaid) := turned_after .refl overlaid
  have hcreated : inmost ∈ (({} : Loaders).after overlaid).created := by decide
  have hm : (({} : Loaders).after overlaid).loaded? inmost.id "a.B" = some upper := by decide
  have hdown := handles_agree hturned hcreated (by decide) hm
  have hdefined : upper ∉ (({} : Loaders).after overlaid).defined inmost.id := by decide
  refine ⟨_, hturned, hm, hdown, ?_, by decide⟩
  rcases hdown.above hdefined with ⟨parent, hparent, habove⟩ | ⟨hroot, -⟩
  · exact Option.some.inj hparent ▸ habove
  · cases hroot

end Loading
