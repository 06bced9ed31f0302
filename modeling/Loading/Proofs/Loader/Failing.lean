import Loading.Proofs.Loader.Mirroring
import Loading.Proofs.Loader.Naming

/-!
# A definition that fails

A definition may fail in many places: before the definer is asked, by the definer, or when
what it made is entered.  Wherever that is, every loader then holds what it held before, also
while other definitions of the package are under way.  And what loaders hold is all that later
operations depend on: they come to the same as if there had been no attempt.  Only numbers may
differ, as the definer may have used some up.

* `Errand` — an operation that is called later.
* `Loaders.SameLater` — later operations come to the same in two states.
* `failed_define` — so they do after a definition that failed, and without it.
* `blind_serve` — collaborators that never call back do not look at numbers.
-/

namespace Loading

open Interaction Service Loaders

/-- A definition or a resolution. -/
inductive Errand where
  /-- Define a module from the bytes between two places. -/
  | define (loader : Loader) (name : Option Name) (bytes : List UInt8) (start stop : Nat)
      (domain : Option ProtectionDomain)
  /-- Resolve a name, and link its module on request. -/
  | resolve (loader : Loader) (name : Name) (link : Bool)

namespace Errand

/-- How an errand goes. -/
def body : Errand → LoaderTask (Except LoadError Module)
  | define loader name bytes start stop domain => loader.define name bytes start stop domain
  | resolve loader name link => loader.resolve name link

/-- Errands one after the other, with what becomes of each. -/
def inTurn : List Errand → LoaderTask (List (Except LoadError Module))
  | [] => return []
  | errand :: errands => do
      let r ← errand.body
      let rs ← inTurn errands
      return r :: rs

end Errand

/-- Each module that a loader answers with corresponds to itself. -/
def Matching.Keeps (β : Matching) (s : Loaders) : Prop :=
  ∀ id name m, s.loaded? id name = some m → β.rel m m

/-- Among collaborators who do not see the difference between two states, whatever is called
later comes to the same in both: errand by errand there is the same error, or there are modules
that correspond, and the states are alike in the end. -/
def Loaders.SameLater (s s' : Loaders) : Prop :=
  ∀ {E : Type} {answer : (q : LoaderQuestion) → Loaders → E → q.Answer × Loaders × E}
    {same : Matching → Ground × E → Ground × E → Prop}, Blind answer same →
  ∀ {β : Matching} {e e' : E}, β.Keeps s → same β (s.ground, e) (s'.ground, e') →
  ∀ errands : List Errand,
    let r := (Errand.inTurn errands).run answer s e
    let r' := (Errand.inTurn errands).run answer s' e'
    ∃ β₁, β ≤ β₁ ∧ List.Forall₂ (Corresponds β₁) r.1 r'.1 ∧
      Facing same β₁ r.2.1 r.2.2 r'.2.1 r'.2.2

section Later

variable {E : Type} {answer : (q : LoaderQuestion) → Loaders → E → q.Answer × Loaders × E}
  {same : Matching → Ground × E → Ground × E → Prop} {β : Matching} {s s' : Loaders}

/-- An errand comes to the same in states that are alike. -/
theorem mirrors_errand (blind : Blind answer same) (errand : Errand) :
    Mirrors answer same Corresponds β errand.body errand.body := by
  cases errand with
  | define l name bytes start stop domain => exact mirrors_define blind l name bytes start stop rfl
  | resolve l name link => exact mirrors_resolve blind l name link

/-- So do errands one after the other. -/
theorem mirrors_inTurn (blind : Blind answer same) (errands : List Errand) :
    Mirrors answer same (fun β => List.Forall₂ (Corresponds β)) β (Errand.inTurn errands)
      (Errand.inTurn errands) := by
  induction errands generalizing β with
  | nil => exact mirrors_done fun _ _ => .nil
  | cons errand errands ih =>
      refine mirrors_bind (mirrors_errand blind errand) fun β₁ r r' _ hr => ?_
      refine mirrors_bind ih fun β₂ rs rs' hβ₂ hrs => mirrors_done fun β₃ hβ₃ => ?_
      exact .cons (hr.mono (le_trans hβ₂ hβ₃)) (hrs.imp fun _ _ h => h.mono hβ₃)

/-- Where loaders hold the same, what they hold is alike. -/
theorem Facing.of_holdings (h : s'.holdings = s.holdings) (hkeeps : β.Keeps s) {e e' : E}
    (hsame : same β (s.ground, e) (s'.ground, e')) : Facing same β s e s' e' := by
  refine ⟨fun id => ?_, hsame⟩
  rw [h]
  refine ⟨fun name => ?_, rfl, rfl, rfl⟩
  cases hknown : (s.holdings id).loaded.find? name with
  | none => exact .none
  | some m => exact .some (hkeeps id name m hknown)

/-- Later operations depend on nothing but what loaders hold. -/
theorem sameLater_of_holdings (h : s'.holdings = s.holdings) : s.SameLater s' := by
  intro E answer same blind β e e' hkeeps hsame errands
  have hfacing : Facing same β s e s' e' := .of_holdings h hkeeps hsame
  exact mirrors_inTurn blind errands β le_rfl s e s' e' hfacing

/-- A definition that fails has changed nothing that loaders hold. -/
theorem holdings_of_failed (hands : HandsOff answer) (htidy : s.TidySigners) {l : Loader}
    {name : Option Name} {bytes : List UInt8} {start stop : Nat}
    {domain : Option ProtectionDomain} {e e₁ : E} {err : LoadError}
    (hfailed : (l.define name bytes start stop domain).run answer s e = (.error err, s', e₁)) :
    s'.holdings = s.holdings := by
  by_cases hrange : start ≤ stop ∧ stop ≤ bytes.length
  · have houtcome := completes_define (l := l) hands htidy name hrange domain e
    rw [hfailed] at houtcome
    cases houtcome with
    | refused made refuses holdings => exact holdings
  · have houtside := completes_define_outside answer s l name hrange domain e
    rw [hfailed] at houtside
    exact houtside.2

end Later

/-- From every state that a session may reach, with reservations open or without, a definition
that fails while nobody calls back leaves every loader with what it held, and whatever is called
later comes to the same as without the attempt. -/
theorem failed_define {σ : loaderService.Session} (h : Reaches definerRules (.start {}) σ)
    {E : Type} {answer : (q : LoaderQuestion) → Loaders → E → q.Answer × Loaders × E}
    (hands : HandsOff answer) {l : Loader} {name : Option Name} {bytes : List UInt8}
    {start stop : Nat} {domain : Option ProtectionDomain} {e e₁ : E} {err : LoadError}
    {s₁ : Loaders}
    (hfailed : (l.define name bytes start stop domain).run answer σ.now.state e =
      (.error err, s₁, e₁)) :
    s₁.holdings = σ.now.state.holdings ∧ σ.now.state.SameLater s₁ := by
  have hholdings := holdings_of_failed hands (tidy_of_reaches h) hfailed
  exact ⟨hholdings, sameLater_of_holdings hholdings⟩

/-! ## Collaborators that never call back -/

/-- A matching, and beyond it one more module for a module that is like it. -/
def Matching.adjoin (β : Matching) {m m' : Module} (h : m.Resembles m') : Matching where
  rel n n' := β.rel n n' ∨ n = m ∧ n' = m'
  resembles hn := by
    obtain hn | ⟨rfl, rfl⟩ := hn
    · exact β.resembles hn
    · exact h

theorem Matching.le_adjoin (β : Matching) {m m' : Module} (h : m.Resembles m') : β ≤ β.adjoin h :=
  fun _ _ => .inl

/-- Modules are told apart on both sides or on neither. -/
def Matching.OneToOne (β : Matching) : Prop :=
  ∀ {m m' n n'}, β.rel m m' → β.rel n n' → (m.serial = n.serial ↔ m'.serial = n'.serial)

/-- Two grounds differ in nothing but the numbers of modules: numbers are given out one after
the other, and each belongs to one module on either side. -/
structure Renumbered (β : Matching) (g g' : Ground) : Prop where
  /-- Built-in modules of the same names correspond. -/
  builtins : ∀ key name, Option.Rel β.rel ((g.builtins.findD key {}).find? name)
    ((g'.builtins.findD key {}).find? name)
  /-- Of modules that correspond, both are linked or neither. -/
  linked : ∀ {m m'}, β.rel m m' → (m.serial ∈ g.linked ↔ m'.serial ∈ g'.linked)
  /-- Modules are told apart on both sides or on neither. -/
  serials : β.OneToOne
  /-- What corresponds has been made. -/
  made : ∀ {m m'}, β.rel m m' → m.serial < g.made ∧ m'.serial < g'.made
  /-- What has been linked has been made. -/
  linked_made : (∀ k ∈ g.linked, k < g.made) ∧ ∀ k ∈ g'.linked, k < g'.made

namespace Renumbered

variable {β : Matching} {g g' : Ground} {m m' : Module}

/-- A number that is given out next belongs to none of the modules that correspond. -/
theorem serial_ne (h : Renumbered β g g') {n n' : Module} (hn : β.rel n n')
    (hm : m.serial = g.made) (hm' : m'.serial = g'.made) :
    n.serial ≠ m.serial ∧ n'.serial ≠ m'.serial := by
  have hmade := h.made hn
  omega

/-- The next modules that are made correspond. -/
theorem create (h : Renumbered β g g') (hlike : m.Resembles m') (hm : m.serial = g.made)
    (hm' : m'.serial = g'.made) :
    Renumbered (β.adjoin hlike) { g with made := g.made + 1 }
      { g' with made := g'.made + 1 } := by
  refine ⟨fun key name => rel_mono (h.builtins key name) (β.le_adjoin hlike), ?_, ?_, ?_, ?_⟩
  · rintro n n' (hn | ⟨rfl, rfl⟩)
    · exact h.linked hn
    · have hfresh := fun hlinked => Nat.lt_irrefl _ (hm ▸ h.linked_made.1 _ hlinked)
      have hfresh' := fun hlinked => Nat.lt_irrefl _ (hm' ▸ h.linked_made.2 _ hlinked)
      exact iff_of_false hfresh hfresh'
  · rintro n n' k k' (hn | ⟨rfl, rfl⟩) (hk | ⟨rfl, rfl⟩)
    · exact h.serials hn hk
    · have hne := h.serial_ne hn hm hm'
      exact iff_of_false hne.1 hne.2
    · have hne := h.serial_ne hk hm hm'
      exact iff_of_false hne.1.symm hne.2.symm
    · exact iff_of_true rfl rfl
  · rintro n n' (hn | ⟨rfl, rfl⟩)
    · have hmade := h.made hn
      exact ⟨Nat.lt_succ_of_lt hmade.1, Nat.lt_succ_of_lt hmade.2⟩
    · exact ⟨hm ▸ Nat.lt_succ_self _, hm' ▸ Nat.lt_succ_self _⟩
  · exact ⟨fun k hk => Nat.lt_succ_of_lt (h.linked_made.1 k hk),
      fun k hk => Nat.lt_succ_of_lt (h.linked_made.2 k hk)⟩

/-- Two modules that correspond are linked. -/
theorem link (h : Renumbered β g g') (hm : β.rel m m') :
    Renumbered β { g with linked := m.serial :: g.linked }
      { g' with linked := m'.serial :: g'.linked } := by
  refine ⟨h.builtins, fun hn => ?_, h.serials, h.made, ?_, ?_⟩
  · rw [List.mem_cons, List.mem_cons, h.serials hn hm, h.linked hn]
  · exact List.forall_mem_cons.2 ⟨(h.made hm).1, h.linked_made.1⟩
  · exact List.forall_mem_cons.2 ⟨(h.made hm).2, h.linked_made.2⟩

end Renumbered

/-- What collaborators that never call back know, but for the numbers of modules. -/
def Plainly (β : Matching) (x x' : Ground × Unit) : Prop :=
  Renumbered β x.1 x'.1

section Plain

variable {e : Surroundings} {β : Matching} {s s' : Loaders} {u u' : Unit}

/-- When something else is known of modules, loaders hold the same. -/
theorem Facing.answered {β₁ : Matching} (h : Facing Plainly β s u s' u') (hle : β ≤ β₁)
    {ledger ledger' : ModuleLedger}
    (hknown : Renumbered β₁ { s with ledger }.ground { s' with ledger := ledger' }.ground) :
    Facing Plainly β₁ { s with ledger } u { s' with ledger := ledger' } u' :=
  ⟨fun id => (h.holdings id).mono hle, hknown⟩

/-- Whether a module is made of bytes that are not looked into depends neither on the state nor
on the domain. -/
theorem produceOpaque_cases (r : DefinitionRequest) :
    (∃ err, ∀ (s : Loaders) d, s.produceOpaque { r with domain := d } = (.error err, s)) ∨
      ∃ name, ∀ (s : Loaders) d, s.produceOpaque { r with domain := d } =
        (.ok (s.freshModule name r.loader d r.code.length).1,
          (s.freshModule name r.loader d r.code.length).2) := by
  obtain ⟨name, bytes, start, stop, domain, loader⟩ := r
  cases name with
  | none => exact .inl ⟨.definition unnamed .nameless, fun _ _ => rfl⟩
  | some name =>
      cases hempty : ((bytes.take stop).drop start).isEmpty with
      | true => exact .inl ⟨.definition name .emptyBody, fun _ _ => if_pos hempty⟩
      | false => exact .inr ⟨name, fun _ _ => if_neg (Bool.eq_false_iff.1 hempty)⟩

/-- Of the same bytes, modules are made that correspond. -/
theorem mirrors_produce (key : Nat) (r : DefinitionRequest) {d : ProtectionDomain}
    (hd : d.source = r.domain.source) :
    Mirrors e.serve Plainly Corresponds β (LoaderTask.ask (.produce key r))
      (LoaderTask.ask (.produce key { r with domain := d })) := by
  intro β₁ _ s u s' u' h
  show ∃ β₂, β₁ ≤ β₂ ∧ Corresponds β₂ (s.produceOpaque r).1
      (s'.produceOpaque { r with domain := d }).1 ∧
    Facing Plainly β₂ (s.produceOpaque r).2 () (s'.produceOpaque { r with domain := d }).2 ()
  obtain ⟨err, herror⟩ | ⟨name, hmade⟩ := produceOpaque_cases r
  · rw [herror s' d, show s.produceOpaque r = _ from herror s r.domain]
    exact ⟨β₁, le_rfl, .error err, h⟩
  · rw [hmade s' d, show s.produceOpaque r = _ from hmade s r.domain]
    have hlike : (s.freshModule name r.loader r.domain r.code.length).1.Resembles
        (s'.freshModule name r.loader d r.code.length).1 := ⟨rfl, rfl, rfl, hd⟩
    refine ⟨β₁.adjoin hlike, β₁.le_adjoin hlike, .ok (.inr ⟨rfl, rfl⟩), ?_⟩
    exact h.answered (β₁.le_adjoin hlike) (Renumbered.create h.same hlike rfl rfl)

/-- Collaborators that never call back do not look at numbers. -/
theorem blind_serve (e : Surroundings) : Blind e.serve Plainly where
  linked h hm := Renumbered.linked h hm
  enter _ _ _ _ := fun β₁ _ _ _ _ _ h => ⟨β₁, le_rfl, trivial, h⟩
  leave _ _ _ _ := fun β₁ _ _ _ _ _ h => ⟨β₁, le_rfl, trivial, h⟩
  bootstrap _ key name := fun β₁ _ _ _ _ _ h =>
    ⟨β₁, le_rfl, Renumbered.builtins h.same key name, h⟩
  find _ _ _ := fun β₁ _ _ _ _ _ h => ⟨β₁, le_rfl, rfl, h⟩
  produce _ key r _ hd := mirrors_produce key r hd
  link _ _ _ _ hm := fun β₁ hβ₁ _ _ _ _ h =>
    ⟨β₁, le_rfl, rfl, h.answered le_rfl (Renumbered.link h.same (hβ₁ _ _ hm))⟩

end Plain

/-! ## A definer that makes something else -/

/-- Collaborators of which the definer calls every module so, whatever it was told. -/
def willful (name : Name) (q : LoaderQuestion) (s : Loaders) (e : Unit) :
    q.Answer × Loaders × Unit :=
  naming (fun _ => name) q s e

/-- A module has been defined, and another definition of the package waits for its definer. -/
def expecting : List loaderService.Move :=
  [.change { ledger := { next := 1 } },
    .call (.create .base none {}), .answer (.mayCreate 0 .base) (.ok ()), .finish,
    .call (.define solitary (some "a.C") [0] 0 1 (some signed)), .answer (.enter ⟨1⟩ ⟨1⟩) (),
    .answer (.produce 0 ⟨some "a.C", [0], 0, 1, signed, ⟨1⟩⟩) (.ok nested),
    .answer (.leave ⟨1⟩ ⟨1⟩) (), .finish,
    .call (.define solitary (some "a.D") [0] 0 1 (some signed)), .answer (.enter ⟨1⟩ ⟨2⟩) ()]

theorem expecting_allowed : definerRules.AllowsAll expecting (.start {}) := by
  unfold expecting
  repeat' refine allowsAll_cons ?_ rfl ?_
  -- Only calls have to be for loaders that have been made.
  all_goals first
    | trivial
    | exact Beside.refl _
    | exact fun l hl => Option.some.inj hl ▸ List.mem_singleton_self _
    | exact nofun

/-- One module corresponds to itself. -/
def Matching.only (m : Module) : Matching :=
  ⟨fun n n' => n = m ∧ n' = m, fun ⟨h, h'⟩ => by subst h h'; exact ⟨rfl, rfl, rfl, rfl⟩⟩

/-- It keeps a state in which this module is the only answer of the only loader. -/
theorem Matching.only_keeps {s : Loaders} {id : LoaderId} {t : LoaderTables} {name : Name}
    {m : Module} (hs : s.tables.entries = [(id, t)]) (ht : t.loaded.entries = [(name, m)]) :
    (Matching.only m).Keeps s := by
  intro id' name' m' hm
  have htables : s.tables.find? id' = [(id, t)].lookup id' := congrArg (List.lookup id') hs
  unfold loaded? tablesOf Table.findD at hm
  rw [htables, List.lookup_cons] at hm
  split at hm
  · have hloaded : t.loaded.find? name' = [(name, m)].lookup name' :=
      congrArg (List.lookup name') ht
    rw [Option.getD_some, hloaded, List.lookup_cons] at hm
    split at hm
    · cases hm
      exact ⟨rfl, rfl⟩
    · cases hm
  · cases hm

/-- Before it and after it, only numbers differ. -/
theorem Renumbered.only {m : Module} {n n' : Nat} (h : m.serial < n) (h' : m.serial < n') :
    Renumbered (Matching.only m) ⟨{}, n, []⟩ ⟨{}, n', []⟩ where
  builtins _ _ := .none
  linked _ := iff_of_false nofun nofun
  serials hn hk := by rw [hn.1, hn.2, hk.1, hk.2]
  made hn := by rw [hn.1, hn.2]; exact ⟨h, h'⟩
  linked_made := ⟨nofun, nofun⟩

/-- A third definition of the package fails, as its definer makes a module of another name.
Nothing is left of it but that one more number has been given out, and whatever is called later
comes to the same. -/
theorem failed_define_willful :
    ∃ σ : loaderService.Session, Session.play expecting (.start {}) = some σ ∧
      let s := σ.now.state
      let failed := (solitary.define (some "a.B") [0] 0 1 (some signed)).run (willful "a.X") s ()
      failed.1 = .error (.definition "a.B" (.renamed "a.X")) ∧
        failed.2.1.holdings = s.holdings ∧ failed.2.1.ledger.next = s.ledger.next + 1 ∧
        ∀ (e : Surroundings) (errands : List Errand), ∃ β : Matching, β.OneToOne ∧
          List.Forall₂ (Corresponds β) ((Errand.inTurn errands).run e.serve s ()).1
            ((Errand.inTurn errands).run e.serve failed.2.1 ()).1 := by
  have hreaches := reaches_of_play expecting_allowed rfl
  obtain ⟨hholdings, hlater⟩ := failed_define (e := ()) hreaches (naming_handsOff _)
    (show (solitary.define (some "a.B") [0] 0 1 (some signed)).run (willful "a.X") _ () =
      (.error (.definition "a.B" (.renamed "a.X")), _, _) from rfl)
  refine ⟨_, rfl, rfl, hholdings, rfl, fun e errands => ?_⟩
  obtain ⟨β, -, hresults, hfacing⟩ := hlater (blind_serve e) (Matching.only_keeps rfl rfl)
    (Renumbered.only (by decide) (by decide)) errands
  exact ⟨β, Renumbered.serials hfacing.same, hresults⟩

end Loading
