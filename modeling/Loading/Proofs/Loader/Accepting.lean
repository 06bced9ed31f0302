import Loading.Proofs.Loader.ActionFootprints

/-!
# What comes of a definition

A definition that nobody interrupts is all or nothing.  Either the loader accepts the module
that its definer makes, and holds it from then on; or the definition fails, and every loader
holds what it held before.  On which of the two it is, a definition under a name and one
without agree, although they look at the same things in a different order: the loader accepts
a module or it does not, whatever it was told before.

* `HandsOff` — collaborators who do not call back.
* `Loader.Accepts` — the module may be entered.
* `Outcome` — what comes of a definition: a module is accepted, or nothing has happened.
* `completes_define` — every definition has one of these outcomes.
-/

namespace Loading

open Interaction Loaders

/-- Nobody calls back: a lock that is asked for is free, and definers leave alone what
loaders hold. -/
structure HandsOff {E : Type}
    (answer : (q : LoaderQuestion) → Loaders → E → q.Answer × Loaders × E) : Prop where
  /-- To take a lock changes nothing. -/
  enter : ∀ id lock s e, (answer (.enter id lock) s e).2.1 = s
  /-- Neither does to let go of it. -/
  leave : ∀ id lock s e, (answer (.leave id lock) s e).2.1 = s
  /-- A definer makes a module, and leaves loaders alone. -/
  produce : ∀ key request s e, (answer (.produce key request) s e).2.1.holdings = s.holdings

/-- A loader accepts a module that was made in a domain. -/
structure Loader.Accepts (l : Loader) (h : Holdings) (d : ProtectionDomain) (m : Module) :
    Prop where
  /-- The name may be defined. -/
  permitted : l.rules.fault? m.name = none
  /-- The module is the loader's own. -/
  own : m.loader = l.id
  /-- The loader does not know the name. -/
  unknown : h.loaded.find? m.name = none
  /-- The signers of the domain are not refused. -/
  granted : (h.signers.reserve m.name d.certificates).1 = .ok m.package

/-- What is held after a module was entered. -/
def Holdings.enter (h : Holdings) (m : Module) (d : ProtectionDomain) : Holdings :=
  ((((h.reserve m.name d.certificates).adopt m).release m.package true).recordDefined
    m).recordDomain d

/-- The signers that a domain gives to a module, if it has any. -/
def ProtectionDomain.signature (d : ProtectionDomain) : Option CertificateSet :=
  if d.certificates.isEmpty then none else some d.certificates

namespace ProtectionDomain

variable (d : ProtectionDomain)

theorem signature_of_isEmpty (h : d.certificates.isEmpty = true) : d.signature = none :=
  if_pos h

theorem signature_of_not_isEmpty (h : d.certificates.isEmpty = false) :
    d.signature = some d.certificates :=
  if_neg (by rw [h]; exact Bool.false_ne_true)

end ProtectionDomain

namespace Loaders

/-- Loaders hold the same, but for the signers of one loader's packages, and the same is
known of modules. -/
structure SameBut (id : LoaderId) (s t : Loaders) : Prop where
  /-- Loaders hold the same, but for these signers. -/
  holdings : ∃ r, t.holdings = Function.update s.holdings id { s.holdings id with signers := r }
  /-- The same is known of modules. -/
  ledger : t.ledger = s.ledger

/-- The domain that was given, or else the default domain of a loader. -/
def domainFor (s : Loaders) (id : LoaderId) : Option ProtectionDomain → ProtectionDomain
  | some d => d
  | none => (s.defaultDomain id).1

/-- What a loader asks of its definer. -/
def request (s : Loaders) (l : Loader) (name : Option Name) (bytes : List UInt8)
    (start stop : Nat) (domain : Option ProtectionDomain) : DefinitionRequest :=
  ⟨name, bytes, start, stop, s.domainFor l.id domain, l.id⟩

end Loaders

/-- Where loaders hold what they held in some state, but for the signers of one loader's
packages, the definer may answer a request so and leave the state so. -/
def Answered {E : Type}
    (answer : (q : LoaderQuestion) → Loaders → E → q.Answer × Loaders × E) (s : Loaders)
    (l : Loader) (request : DefinitionRequest) (x : Except LoadError Module) (u : Loaders) :
    Prop :=
  ∃ t e, SameBut l.id s t ∧ (answer (.produce l.context.key request) t e).1 = x ∧
    (answer (.produce l.context.key request) t e).2.1 = u

/-- What comes of a definition, under a name or without, where loaders hold something and a
definer may make this or that of the request. -/
inductive Outcome (l : Loader) (name : Option Name) (d : ProtectionDomain)
    (h : LoaderId → Holdings) (makes : Except LoadError Module → Loaders → Prop) :
    Except LoadError Module → Loaders → Prop
  /-- A module is accepted, and is signed unless it is signed already. -/
  | accepted {m : Module} {u s : Loaders} (made : makes (.ok m) u)
      (named : ∀ n ∈ name, m.name = n) (accepts : l.Accepts (h l.id) d m)
      (holdings : s.holdings = Function.update h l.id ((h l.id).enter m d))
      (signers : s.ledger.signers? m = (u.ledger.signers? m).or d.signature) :
      Outcome l name d h makes (.ok m) s
  /-- The definition fails, and loaders hold what they held. -/
  | refused {e : LoadError} {x : Except LoadError Module} {u s : Loaders} (made : makes x u)
      (refuses : ∀ m, x = .ok m → (∀ n ∈ name, m.name = n) → ¬ l.Accepts (h l.id) d m)
      (holdings : s.holdings = h) : Outcome l name d h makes (.error e) s

/-- With a reservation open for its package, a module is entered, or the reservation is
dropped. -/
inductive Installed (l : Loader) (h : LoaderId → Holdings) (m : Module) (d : ProtectionDomain)
    (ledger : ModuleLedger) : Except LoadError Module → Loaders → Prop
  /-- The name was not known. -/
  | entered {s : Loaders} (unknown : (h l.id).loaded.find? m.name = none)
      (holdings : s.holdings = Function.update h l.id ((h l.id).enter m d))
      (signers : s.ledger.signers? m = (ledger.signers? m).or d.signature) :
      Installed l h m d ledger (.ok m) s
  /-- The name was known. -/
  | duplicate {e : LoadError} {s : Loaders} (known : (h l.id).loaded.find? m.name ≠ none)
      (holdings : s.holdings = h) : Installed l h m d ledger (.error e) s

namespace Loaders

variable {s s₁ s₂ t : Loaders} {id : LoaderId} {h : LoaderId → Holdings} {h₁ : Holdings}

namespace SameBut

theorem of_eq (hholdings : t.holdings = s.holdings) (hledger : t.ledger = s.ledger) :
    SameBut id s t := by
  refine ⟨⟨(s.holdings id).signers, ?_⟩, hledger⟩
  rw [hholdings]
  exact (Function.update_eq_self id s.holdings).symm

theorem reserve {name : Name} {signers : CertificateSet}
    (hholdings : t.holdings =
      Function.update s.holdings id ((s.holdings id).reserve name signers))
    (hledger : t.ledger = s.ledger) : SameBut id s t :=
  ⟨⟨_, hholdings⟩, hledger⟩

end SameBut

/-- To ask for a lock makes no difference to the domain of definitions. -/
theorem domainFor_lockFor (s : Loaders) (id : LoaderId) (name : Name)
    (domain : Option ProtectionDomain) :
    (s.lockFor id name).2.domainFor id domain = s.domainFor id domain := by
  cases domain with
  | some d => rfl
  | none =>
      show ((s.onTables id fun t =>
        { t with locks := ((s.tablesOf id).locks.lockFor name).2 }).defaultDomain id).1 =
          (s.defaultDomain id).1
      unfold defaultDomain
      rw [tablesOf_onTables_self]
      dsimp only
      cases (s.tablesOf id).defaultDomain <;> rfl

/-- Two changes of what one loader holds, one after the other. -/
theorem holdings_step {f : Holdings → Holdings} (hs : s.holdings = Function.update h id h₁)
    (hs' : s₁.holdings = Function.update s.holdings id (f (s.holdings id))) :
    s₁.holdings = Function.update h id (f h₁) := by
  rw [hs', hs, Function.update_self, Function.update_idem]

/-- When a reservation is dropped, loaders hold what they held before it was granted. -/
theorem holdings_drop {name : Name} {signers : CertificateSet} {package : String}
    (htidy : (h id).signers.Tidy) (hgranted : ((h id).signers.reserve name signers).1 = .ok package)
    (hs : s.holdings = Function.update h id ((h id).reserve name signers)) :
    (s.release id package false).holdings = h := by
  have hdropped := holdings_step (f := fun x => x.release package false) hs
    (holdings_release s id package false)
  rw [Holdings.release_reserve htidy hgranted] at hdropped
  exact hdropped.trans (Function.update_eq_self id h)

/-- A module that has signers keeps them. -/
theorem signers?_sign_self (ledger : ModuleLedger) (m : Module) (signers : CertificateSet) :
    (ledger.sign m signers).2.signers? m = (ledger.signers? m).or (some signers) := by
  unfold ModuleLedger.sign
  cases hm : ledger.signers? m with
  | some c => exact hm
  | none => simp [ModuleLedger.signers?]

theorem ledger_defaultDomain (s : Loaders) (id : LoaderId) :
    (s.defaultDomain id).2.ledger = s.ledger := by
  unfold defaultDomain
  split <;> rfl

theorem ledger_adopt (s : Loaders) (id : LoaderId) (m : Module) :
    (s.adopt id m).2.ledger = s.ledger := by
  unfold adopt
  split <;> rfl

end Loaders

/-! ## The steps of a definition -/

section Steps

variable {E α : Type} {answer : (q : LoaderQuestion) → Loaders → E → q.Answer × Loaders × E}
  {s : Loaders} {l : Loader} {h : LoaderId → Holdings} {d : ProtectionDomain} {m : Module}

/-- From a state, in any surroundings, a task ends in a postcondition on the result and the
state. -/
def Completes (answer : (q : LoaderQuestion) → Loaders → E → q.Answer × Loaders × E)
    (post : α → Loaders → Prop) (p : LoaderTask α) (s : Loaders) : Prop :=
  ∀ e, post (p.run answer s e).1 (p.run answer s e).2.1

/-- One operation after another completes where the second does. -/
theorem completes_bind {β : Type} {p : LoaderTask α} {f : α → LoaderTask β}
    {post : β → Loaders → Prop}
    (hp : Completes answer (fun a s₁ => Completes answer post (f a) s₁) p s) :
    Completes answer post (p >>= f) s := by
  intro e
  rw [run_bind]
  exact hp e (p.run answer s e).2.2

theorem completes_done {a : α} {post : α → Loaders → Prop} (hpost : post a s) :
    Completes answer post (.done a) s :=
  fun _ => hpost

theorem completes_transact {f : Loaders → α × Loaders} {post : α → Loaders → Prop}
    (hpost : post (f s).1 (f s).2) : Completes answer post (transact f) s :=
  fun _ => hpost

theorem completes_change {f : Loaders → Loaders} {post : Unit → Loaders → Prop}
    (hpost : post () (f s)) : Completes answer post (change f) s :=
  fun _ => hpost

theorem completes_ask {q : LoaderQuestion} {post : q.Answer → Loaders → Prop}
    (hpost : ∀ e, post (answer q s e).1 (answer q s e).2.1) :
    Completes answer post (LoaderTask.ask q) s :=
  hpost

theorem Completes.weaken {post post' : α → Loaders → Prop} {p : LoaderTask α}
    (hp : Completes answer post p s) (hpost : ∀ a s', post a s' → post' a s') :
    Completes answer post' p s :=
  fun e => hpost _ _ (hp e)

/-- The lock for a name makes no difference to what comes of a task. -/
theorem completes_locked (hands : HandsOff answer) {post : α → Loaders → Prop} {name : Name}
    {body : LoaderTask α} (hbody : Completes answer post body (s.lockFor l.id name).2) :
    Completes answer post (l.locked name body) s := by
  unfold Loader.locked
  refine completes_bind (completes_transact (completes_bind ?_))
  refine completes_ask (q := .enter _ _) fun e => ?_
  rw [hands.enter]
  refine completes_bind (hbody.weaken fun a s' ha => completes_bind ?_)
  refine completes_ask (q := .leave _ _) fun e' => ?_
  rw [hands.leave]
  exact completes_done ha

/-- A loader has one domain for definitions without one, whichever is asked for it. -/
theorem completes_domainOr (domain : Option ProtectionDomain) :
    Completes answer (fun d s₁ => d = s.domainFor l.id domain ∧ s₁.holdings = s.holdings ∧
        s₁.ledger = s.ledger) (l.domainOr domain) s := by
  cases domain with
  | some d => exact completes_done ⟨rfl, rfl, rfl⟩
  | none =>
      exact completes_transact ⟨rfl, holdings_defaultDomain s l.id, ledger_defaultDomain s l.id⟩

/-- A module that has become the answer for its name is recorded. -/
theorem completes_record {h₁ : Holdings} (hs : s.holdings = Function.update h l.id h₁)
    (package : String) :
    Completes answer (fun r s' => r = .ok m ∧ s'.ledger = s.ledger ∧ s'.holdings =
        Function.update h l.id (((h₁.release package true).recordDefined m).recordDomain d)) (do
      change fun s => s.release l.id package true
      change fun s => s.onTables l.id fun t => t.recordDefined m
      change fun s => s.onTables l.id fun t => t.recordDomain d
      return .ok m : LoaderTask (Except LoadError Module)) s := by
  refine completes_bind (completes_change (completes_bind (completes_change ?_)))
  refine completes_bind (completes_change (completes_done ⟨rfl, rfl, ?_⟩))
  have hreleased := holdings_step (f := fun x => x.release package true) hs
    (holdings_release s l.id package true)
  have hdefined := holdings_step (f := fun x => x.recordDefined m) hreleased
    (holdings_recordDefined _ l.id m)
  exact holdings_step (f := fun x => x.recordDomain d) hdefined (holdings_recordDomain _ l.id d)

/-- What is installed with a reservation open is entered, or the reservation is dropped. -/
theorem completes_install (htidy : (h l.id).signers.Tidy)
    (hgranted : ((h l.id).signers.reserve m.name d.certificates).1 = .ok m.package)
    (hs : s.holdings = Function.update h l.id ((h l.id).reserve m.name d.certificates)) :
    Completes answer (Installed l h m d s.ledger) (l.install m d m.package) s := by
  have hself : s.holdings l.id = (h l.id).reserve m.name d.certificates := by
    rw [hs, Function.update_self]
  unfold Loader.install
  refine completes_bind (completes_transact ?_)
  cases hknown : (h l.id).loaded.find? m.name with
  | some x =>
      have hsome : ((s.holdings l.id).loaded.find? m.name).isSome = true := by
        rw [hself]
        exact hknown ▸ rfl
      rw [adopt_of_known s l.id hsome]
      refine completes_bind (completes_change (completes_done (.duplicate ?_ ?_)))
      · rw [hknown]
        exact nofun
      · exact holdings_drop htidy hgranted hs
  | none =>
      have hnone : (s.holdings l.id).loaded.find? m.name = none := by
        rw [hself]
        exact hknown
      obtain ⟨hfresh, hadopt⟩ := holdings_adopt s l.id hnone
      rw [hfresh]
      have hentered := holdings_step (f := fun x => x.adopt m) hs hadopt
      have hledger : (s.adopt l.id m).2.ledger = s.ledger := ledger_adopt s l.id m
      have hrecord : ∀ {s₁ : Loaders}, s₁.holdings = (s.adopt l.id m).2.holdings →
          s₁.ledger.signers? m = (s.ledger.signers? m).or d.signature →
          Completes answer (Installed l h m d s.ledger) _ s₁ := fun hs₁ hsigners =>
        (completes_record (hs₁.trans hentered) m.package).weaken fun r s' hdone => by
          obtain ⟨rfl, hsame, hholdings⟩ := hdone
          exact .entered hknown hholdings (hsame ▸ hsigners)
      cases hempty : d.certificates.isEmpty with
      | true =>
          refine hrecord rfl ?_
          rw [hledger, d.signature_of_isEmpty hempty, Option.or_none]
      | false =>
          refine completes_bind (completes_change (hrecord rfl ?_))
          rw [d.signature_of_not_isEmpty hempty, ← hledger]
          exact signers?_sign_self _ m d.certificates

/-! ## The whole way -/

variable {s₀ : Loaders} {name : Option Name} {request : DefinitionRequest}

/-- A definer is asked, and leaves loaders alone. -/
theorem completes_produce (hands : HandsOff answer) (hs : SameBut l.id s₀ s)
    (request : DefinitionRequest) :
    Completes answer
      (fun x u => Answered answer s₀ l request x u ∧ u.holdings = s.holdings)
      (LoaderTask.ask (.produce l.context.key request)) s :=
  completes_ask (q := .produce _ _) fun e => ⟨⟨s, e, hs, rfl, rfl⟩, hands.produce _ _ s e⟩

/-- Where the loader would accept no module, a definition may fail before the definer is
asked. -/
theorem completes_refused {e : LoadError} (hs : s.holdings = s₀.holdings)
    (hledger : s.ledger = s₀.ledger)
    (hrefuses : ∀ m, (∀ n ∈ name, m.name = n) → ¬ l.Accepts (s₀.holdings l.id) d m) :
    Completes answer (Outcome l name d s₀.holdings (Answered answer s₀ l request))
      (.done (.error e)) s :=
  fun x => .refused ⟨s, x, .of_eq hs hledger, rfl, rfl⟩ (fun m _ => hrefuses m) hs

/-- What is installed is a module that the loader accepts. -/
theorem Installed.outcome {u s' : Loaders} {r : Except LoadError Module}
    (hinstalled : Installed l s₀.holdings m d u.ledger r s')
    (hanswered : Answered answer s₀ l request (.ok m) u) (hnamed : ∀ n ∈ name, m.name = n)
    (hname : l.rules.fault? m.name = none) (hown : m.loader = l.id)
    (hgranted : ((s₀.holdings l.id).signers.reserve m.name d.certificates).1 = .ok m.package) :
    Outcome l name d s₀.holdings (Answered answer s₀ l request) r s' := by
  cases hinstalled with
  | entered unknown holdings signers =>
      exact .accepted hanswered hnamed ⟨hname, hown, unknown, hgranted⟩ holdings signers
  | duplicate known holdings =>
      refine .refused hanswered (fun m' heq _ haccepts => ?_) holdings
      cases heq
      exact known haccepts.unknown

/-- To a module that it accepts, a loader does not object. -/
theorem Loader.Accepts.objection? {k : Holdings} (haccepts : l.Accepts k d m)
    (hnamed : ∀ n ∈ name, m.name = n) : l.objection? name m = none := by
  unfold Loader.objection?
  cases name with
  | some n => simp [hnamed n rfl, haccepts.own]
  | none => simp [haccepts.permitted, haccepts.own]

/-- A definition under a name that is in order ends in one of the outcomes. -/
theorem completes_defineHeld (hands : HandsOff answer) (htidy : s₀.TidySigners)
    (hs : s.holdings = s₀.holdings) (hledger : s.ledger = s₀.ledger) {name : Name}
    (hname : l.rules.fault? name = none)
    (bytes : List UInt8) (start stop : Nat) (domain : Option ProtectionDomain) :
    Completes answer
      (Outcome l (some name) (s.domainFor l.id domain) s₀.holdings
        (Answered answer s₀ l (s.request l (some name) bytes start stop domain)))
      (l.defineHeld name bytes start stop domain) s := by
  unfold Loader.defineHeld
  refine completes_bind (completes_transact (f := fun s => (_, s)) ?_)
  cases hknown : (s.loaded? l.id name) with
  | some x =>
      refine completes_refused hs hledger fun m hnamed haccepts => ?_
      have hnone := haccepts.unknown
      rw [hnamed name rfl, ← hs] at hnone
      exact nomatch hknown.symm.trans hnone
  | none =>
      show Completes _ _ (l.domainOr domain >>= _) s
      refine completes_bind ((completes_domainOr domain).weaken ?_)
      rintro d s₁ ⟨rfl, hs₁, hledger₁⟩
      replace hs₁ := hs₁.trans hs
      replace hledger₁ := hledger₁.trans hledger
      refine completes_bind (completes_transact ?_)
      have hreserved := holdings_reserve s₁ l.id name (s.domainFor l.id domain).certificates
      rw [reserve_fst]
      rw [hs₁] at hreserved ⊢
      cases hgranted : ((s₀.holdings l.id).signers.reserve name
          (s.domainFor l.id domain).certificates).1 with
      | error e =>
          refine completes_refused ?_ hledger₁ fun m hnamed haccepts => ?_
          · rw [hreserved, Holdings.reserve_of_error hgranted, Function.update_eq_self]
          · have hallowed := haccepts.granted
            rw [hnamed name rfl, hgranted] at hallowed
            cases hallowed
      | ok package =>
          obtain rfl := Reservations.package_of_reserve hgranted
          have hproduce := completes_produce hands (.reserve hreserved hledger₁)
            (s.request l (some name) bytes start stop domain)
          refine completes_bind (hproduce.weaken ?_)
          rintro produced u ⟨hanswered, hu⟩
          replace hu := hu.trans hreserved
          have hdropped := holdings_drop (htidy l.id) hgranted hu
          cases produced with
          | error e =>
              exact completes_bind (completes_change (completes_done
                (.refused hanswered (fun _ => nofun) hdropped)))
          | ok m =>
              cases hobjection : l.objection? (some name) m with
              | some e =>
                  simp only [Except.bind, hobjection]
                  refine completes_bind (completes_change (completes_done
                    (.refused hanswered (fun m' heq hnamed haccepts => ?_) hdropped)))
                  cases heq
                  exact nomatch hobjection.symm.trans (haccepts.objection? hnamed)
              | none =>
                  obtain ⟨hown, hnamed, -⟩ := Upkeep.objection?_eq_none hobjection
                  obtain rfl : m.name = name := hnamed name rfl
                  simp only [Except.bind, hobjection]
                  refine (completes_install (htidy l.id) hgranted hu).weaken fun r s' hdone => ?_
                  exact hdone.outcome hanswered hnamed hname hown hgranted

/-- A module that was made without a name is entered, or not. -/
theorem completes_enterHeld {u : Loaders} (htidy : s₀.TidySigners)
    (hs : s.holdings = s₀.holdings) (hledger : s.ledger = u.ledger)
    (hanswered : Answered answer s₀ l request (.ok m) u)
    (hname : l.rules.fault? m.name = none) (hown : m.loader = l.id) :
    Completes answer (Outcome l none d s₀.holdings (Answered answer s₀ l request))
      (l.enterHeld m d) s := by
  unfold Loader.enterHeld
  refine completes_bind (completes_transact ?_)
  have hreserved := holdings_reserve s l.id m.name d.certificates
  rw [reserve_fst]
  rw [hs] at hreserved ⊢
  cases hgranted : ((s₀.holdings l.id).signers.reserve m.name d.certificates).1 with
  | error e =>
      refine completes_done (.refused hanswered (fun m' heq _ haccepts => ?_) ?_)
      · cases heq
        exact nomatch hgranted.symm.trans haccepts.granted
      · rw [hreserved, Holdings.reserve_of_error hgranted, Function.update_eq_self]
  | ok package =>
      obtain rfl := Reservations.package_of_reserve hgranted
      refine (completes_install (htidy l.id) hgranted hreserved).weaken fun r s' hdone => ?_
      have hsame : (s.reserve l.id m.name d.certificates).2.ledger = u.ledger := hledger
      rw [hsame] at hdone
      exact hdone.outcome hanswered nofun hname hown hgranted

/-- A definition without a name ends in one of the outcomes. -/
theorem completes_defineUnnamed (hands : HandsOff answer) (htidy : s.TidySigners)
    (bytes : List UInt8) (start stop : Nat) (domain : Option ProtectionDomain) :
    Completes answer
      (Outcome l none (s.domainFor l.id domain) s.holdings
        (Answered answer s l (s.request l none bytes start stop domain)))
      (l.defineUnnamed bytes start stop domain) s := by
  unfold Loader.defineUnnamed
  refine completes_bind ((completes_domainOr domain).weaken ?_)
  rintro d s₁ ⟨rfl, hs₁, hledger₁⟩
  refine completes_bind ((completes_produce hands (.of_eq hs₁ hledger₁) _).weaken ?_)
  rintro produced u ⟨hanswered, hu⟩
  replace hu := hu.trans hs₁
  cases produced with
  | error e => exact completes_done (.refused hanswered (fun _ => nofun) hu)
  | ok m =>
      cases hobjection : l.objection? none m with
      | some e =>
          simp only [hobjection]
          refine completes_done (.refused hanswered (fun m' heq hnamed haccepts => ?_) hu)
          cases heq
          exact nomatch hobjection.symm.trans (haccepts.objection? hnamed)
      | none =>
          obtain ⟨hown, -, hname⟩ := Upkeep.objection?_eq_none hobjection
          simp only [hobjection]
          refine completes_locked hands ?_
          refine completes_enterHeld (u := u) htidy ?_ rfl hanswered (hname rfl) hown
          rw [holdings_lockFor, hu]

/-- A definition of bytes between two places that are there ends in one of the outcomes. -/
theorem completes_define (hands : HandsOff answer) (htidy : s.TidySigners) (name : Option Name)
    {bytes : List UInt8} {start stop : Nat} (hrange : start ≤ stop ∧ stop ≤ bytes.length)
    (domain : Option ProtectionDomain) :
    Completes answer
      (Outcome l name (s.domainFor l.id domain) s.holdings
        (Answered answer s l (s.request l name bytes start stop domain)))
      (l.define name bytes start stop domain) s := by
  have hinside : ¬ (start > stop ∨ stop > bytes.length) := by omega
  unfold Loader.define
  rw [if_neg hinside]
  cases name with
  | none => exact completes_defineUnnamed hands htidy bytes start stop domain
  | some name =>
      cases hname : l.rules.fault? name with
      | some fault =>
          simp only [Option.bind_some, hname, Option.map_some]
          refine completes_refused rfl rfl fun m hnamed haccepts => ?_
          have hpermitted := haccepts.permitted
          rw [hnamed name rfl, hname] at hpermitted
          cases hpermitted
      | none =>
          simp only [Option.bind_some, hname, Option.map_none]
          have hheld := completes_defineHeld hands htidy (holdings_lockFor s l.id name) rfl
            hname bytes start stop domain
          unfold request at hheld
          rw [domainFor_lockFor] at hheld
          exact completes_locked hands hheld

variable (answer s l) in
/-- Between two places that are not there, nothing is defined. -/
theorem completes_define_outside (name : Option Name) {bytes : List UInt8} {start stop : Nat}
    (hrange : ¬ (start ≤ stop ∧ stop ≤ bytes.length)) (domain : Option ProtectionDomain) :
    Completes answer (fun r s' => (∃ e, r = .error e) ∧ s'.holdings = s.holdings)
      (l.define name bytes start stop domain) s := by
  have houtside : start > stop ∨ stop > bytes.length := by omega
  unfold Loader.define
  rw [if_pos houtside]
  split <;> exact completes_done ⟨⟨_, rfl⟩, rfl⟩

end Steps

end Loading
