import Loading.Proofs.Loader.Accepting
import Loading.Proofs.Loader.HandleAgreement
import Loading.Proofs.Loader.Signing

/-!
# Definitions with a name and without

A definition under a name looks at what is known of the name, and at the signers of its
package, before it asks the definer; a definition without a name can do so only afterwards.
Still it makes no difference which of the two is chosen, as long as the definer finds the
name by itself: no check is missing on either way, and both leave the same behind.

* `Module.Like`, `Holdings.SameUpTo` — the same but for the identity of one new module.
* `FindsName` — a definer that finds a name by itself.
* `Coincide` — two definitions come to the same.
* `definitions_coincide` — a definition with a name and one without do.
-/

namespace Loading

open Interaction Service Loaders

/-- Two modules are the same in all but their identity. -/
def Module.Like (m m' : Module) : Prop :=
  { m with serial := m'.serial } = m'

/-- Two modules are equal, or they are these two. -/
def Module.SameUpTo (m m' x x' : Module) : Prop :=
  x = x' ∨ x = m ∧ x' = m'

/-- The same is held, but that one module stands in the place of another one. -/
structure Holdings.SameUpTo (m m' : Module) (h h' : Holdings) : Prop where
  /-- The same names are answered, in the same order. -/
  loaded : List.Forall₂ (fun x x' => x.1 = x'.1 ∧ m.SameUpTo m' x.2 x'.2) h.loaded.entries
    h'.loaded.entries
  /-- The same is defined, in the same order. -/
  defined : List.Forall₂ (m.SameUpTo m') h.defined h'.defined
  /-- The same domains are in use. -/
  domains : h'.domains = h.domains
  /-- The same signers are known. -/
  signers : h'.signers = h.signers

/-- Two definitions come to the same, where loaders held something before and definers may
have made this or that. -/
structure Coincide (h : LoaderId → Holdings)
    (makes makes' : Except LoadError Module → Loaders → Prop) (r : Except LoadError Module)
    (s : Loaders) (r' : Except LoadError Module) (s' : Loaders) : Prop where
  /-- Both succeed, or none. -/
  succeed : (∃ m, r = .ok m) ↔ ∃ m', r' = .ok m'
  /-- If they do, they leave the same behind, up to the identity of the new module. -/
  holdings : ∀ m m', r = .ok m → r' = .ok m' →
    m.Like m' ∧ ∀ id, (s.holdings id).SameUpTo m m' (s'.holdings id)
  /-- The new module is signed alike, if definers did not sign it differently. -/
  signers : ∀ m m', r = .ok m → r' = .ok m' → ∃ u u', makes (.ok m) u ∧ makes' (.ok m') u' ∧
    (u.ledger.signers? m = u'.ledger.signers? m' →
      s.ledger.signers? m = s'.ledger.signers? m')
  /-- If they fail, loaders hold what they held. -/
  unchanged : ∀ e, r = .error e → s.holdings = h
  /-- So they do if the second one fails. -/
  unchanged' : ∀ e, r' = .error e → s'.holdings = h

/-- A definer that finds a name by itself: with the name and without, it makes modules of that
name which are the same in all but their identity. -/
def FindsName {E : Type}
    (answer : (q : LoaderQuestion) → Loaders → E → q.Answer × Loaders × E) (s : Loaders)
    (l : Loader) (name : Name) (bytes : List UInt8) (start stop : Nat)
    (domain : Option ProtectionDomain) : Prop :=
  ∀ x u x' u', Answered answer s l (s.request l none bytes start stop domain) x u →
    Answered answer s l (s.request l (some name) bytes start stop domain) x' u' →
    ∃ m m', x = .ok m ∧ x' = .ok m' ∧ m.name = name ∧ m.Like m'

/-! ## One module in the place of another -/

section SameUpTo

variable {m m' : Module}

namespace Module.Like

theorem name (h : m.Like m') : m.name = m'.name := by
  rw [← h]

theorem loader (h : m.Like m') : m.loader = m'.loader := by
  rw [← h]

theorem package (h : m.Like m') : m.package = m'.package := by
  rw [Module.package, h.name, Module.package]

/-- Which of two such modules it is makes no difference to whether a loader accepts it. -/
theorem accepts {l : Loader} {h : Holdings} {d : ProtectionDomain} (hlike : m.Like m') :
    l.Accepts h d m ↔ l.Accepts h d m' := by
  have hname := hlike.name
  have hloader := hlike.loader
  have hpackage := hlike.package
  constructor <;> rintro ⟨permitted, own, unknown, granted⟩ <;> constructor <;> simp_all

end Module.Like

/-- Wherever a module is written, another one may be written in its place. -/
theorem Table.sameUpTo_set (t : Table Name Module) (name : Name) (m m' : Module) :
    List.Forall₂ (fun x x' => x.1 = x'.1 ∧ m.SameUpTo m' x.2 x'.2) (t.set name m).entries
      (t.set name m').entries := by
  obtain ⟨l⟩ := t
  unfold Table.set
  have hsame : ∀ l : List (Name × Module),
      List.Forall₂ (fun x x' => x.1 = x'.1 ∧ m.SameUpTo m' x.2 x'.2) l l :=
    fun l => List.forall₂_same.2 fun x _ => ⟨rfl, Or.inl rfl⟩
  induction l with
  | nil => exact .cons ⟨rfl, Or.inr ⟨rfl, rfl⟩⟩ .nil
  | cons e rest ih =>
      obtain ⟨k, x⟩ := e
      by_cases hk : k = name
      · simp only [Table.put, if_pos hk]
        exact .cons ⟨rfl, Or.inr ⟨rfl, rfl⟩⟩ (hsame rest)
      · simp only [Table.put, if_neg hk]
        exact .cons ⟨rfl, Or.inl rfl⟩ ih

/-- What is held after a module was entered is the same, whichever module it was. -/
theorem Holdings.sameUpTo_enter (h : Holdings) (hlike : m.Like m') (d : ProtectionDomain) :
    (h.enter m d).SameUpTo m m' (h.enter m' d) where
  loaded := by
    show List.Forall₂ _ (h.loaded.set m.name m).entries (h.loaded.set m'.name m').entries
    rw [hlike.name]
    exact Table.sameUpTo_set h.loaded m'.name m m'
  defined := by
    have hsame : List.Forall₂ (m.SameUpTo m') h.defined h.defined :=
      List.forall₂_same.2 fun _ _ => Or.inl rfl
    have hlast : List.Forall₂ (m.SameUpTo m') [m] [m'] := .cons (Or.inr ⟨rfl, rfl⟩) .nil
    exact List.rel_append hsame hlast
  domains := rfl
  signers := by
    show (h.signers.reserve m'.name d.certificates).2.release m'.package true =
      (h.signers.reserve m.name d.certificates).2.release m.package true
    rw [hlike.name, hlike.package]

theorem Holdings.sameUpTo_refl (h : Holdings) : h.SameUpTo m m' h where
  loaded := List.forall₂_same.2 fun _ _ => ⟨rfl, Or.inl rfl⟩
  defined := List.forall₂_same.2 fun _ _ => Or.inl rfl
  domains := rfl
  signers := rfl

end SameUpTo

/-! ## Two definitions -/

section Coincide

variable {l : Loader} {d : ProtectionDomain} {h : LoaderId → Holdings}
  {makes makes' : Except LoadError Module → Loaders → Prop} {r r' : Except LoadError Module}
  {s s' : Loaders}

/-- Two definitions that fail come to the same. -/
theorem Coincide.of_errors (hr : ∃ e, r = .error e) (hs : s.holdings = h)
    (hr' : ∃ e, r' = .error e) (hs' : s'.holdings = h) : Coincide h makes makes' r s r' s' := by
  obtain ⟨e, rfl⟩ := hr
  obtain ⟨e', rfl⟩ := hr'
  exact ⟨⟨nofun, nofun⟩, nofun, nofun, fun _ _ => hs, fun _ _ => hs'⟩

/-- The outcomes of a definition without a name and of one with the name that the definer
finds come to the same. -/
theorem Outcome.coincide {name : Name} (hunnamed : Outcome l none d h makes r s)
    (hnamed : Outcome l (some name) d h makes' r' s')
    (hfinds : ∀ x u x' u', makes x u → makes' x' u' →
      ∃ m m', x = .ok m ∧ x' = .ok m' ∧ m.name = name ∧ m.Like m') :
    Coincide h makes makes' r s r' s' := by
  cases hunnamed with
  | @accepted m u s made named accepts holdings signers =>
      cases hnamed with
      | @accepted m' u' s' made' named' accepts' holdings' signers' =>
          obtain ⟨_, _, heq, heq', -, hlike⟩ := hfinds _ _ _ _ made made'
          cases heq
          cases heq'
          refine ⟨⟨fun _ => ⟨m', rfl⟩, fun _ => ⟨m, rfl⟩⟩, ?_, ?_, nofun, nofun⟩
          · rintro _ _ ⟨⟩ ⟨⟩
            refine ⟨hlike, fun id => ?_⟩
            rw [holdings, holdings', Function.update_apply, Function.update_apply]
            split
            · exact (h l.id).sameUpTo_enter hlike d
            · exact (h id).sameUpTo_refl
          · rintro _ _ ⟨⟩ ⟨⟩
            exact ⟨u, u', made, made', fun hsame => by rw [signers, signers', hsame]⟩
      | @refused e x u' s' made' refuses holdings' =>
          obtain ⟨_, m', heq, rfl, hname, hlike⟩ := hfinds _ _ _ _ made made'
          cases heq
          have hnamed : ∀ n ∈ some name, m'.name = n := fun n hn =>
            hlike.name.symm.trans (hname.trans (Option.some.inj hn))
          exact absurd (hlike.accepts.1 accepts) (refuses m' rfl hnamed)
  | @refused e x u s made refuses holdings =>
      cases hnamed with
      | @accepted m' u' s' made' named' accepts' holdings' signers' =>
          obtain ⟨m, _, rfl, heq, -, hlike⟩ := hfinds _ _ _ _ made made'
          cases heq
          exact absurd (hlike.accepts.2 accepts') (refuses m rfl nofun)
      | @refused e' x' u' s' made' refuses' holdings' =>
          exact .of_errors ⟨e, rfl⟩ holdings ⟨e', rfl⟩ holdings'

end Coincide

/-- From every state that a session may reach, with reservations open or without, a definition
under a name and one without come to the same, provided that the definer finds this name by
itself and that nobody calls back. -/
theorem definitions_coincide {σ : loaderService.Session}
    (h : Reaches definerRules (.start {}) σ) {E : Type}
    {answer : (q : LoaderQuestion) → Loaders → E → q.Answer × Loaders × E}
    (hands : HandsOff answer) {l : Loader} {name : Name} {bytes : List UInt8} {start stop : Nat}
    {domain : Option ProtectionDomain}
    (hfinds : FindsName answer σ.now.state l name bytes start stop domain) (e : E) :
    let s := σ.now.state
    let unnamed := (l.define none bytes start stop domain).run answer s e
    let named := (l.define (some name) bytes start stop domain).run answer s e
    Coincide s.holdings (Answered answer s l (s.request l none bytes start stop domain))
      (Answered answer s l (s.request l (some name) bytes start stop domain))
      unnamed.1 unnamed.2.1 named.1 named.2.1 := by
  intro s unnamed named
  have htidy := tidy_of_reaches h
  by_cases hrange : start ≤ stop ∧ stop ≤ bytes.length
  · have hunnamed := completes_define (l := l) hands htidy none hrange domain e
    have hnamed := completes_define (l := l) hands htidy (some name) hrange domain e
    exact hunnamed.coincide hnamed hfinds
  · have hunnamed := completes_define_outside answer s l none hrange domain e
    have hnamed := completes_define_outside answer s l (some name) hrange domain e
    exact .of_errors hunnamed.1 hunnamed.2 hnamed.1 hnamed.2

/-! ## A definition inside another one of the package -/

/-- Collaborators of which the definer chooses a name for each module that it makes. -/
def naming (choose : DefinitionRequest → Name) (q : LoaderQuestion) (s : Loaders) (e : Unit) :
    q.Answer × Loaders × Unit :=
  match q with
  | .produce _ r =>
      let made := s.freshModule (choose r) r.loader r.domain r.code.length
      (.ok made.1, made.2, ())
  | q => Surroundings.serve { files := .ofObservations {} } q s e

theorem naming_handsOff (choose : DefinitionRequest → Name) : HandsOff (naming choose) :=
  ⟨fun _ _ _ _ => rfl, fun _ _ _ _ => rfl, fun _ _ _ _ => rfl⟩

/-- Collaborators of which the definer calls every module so that has no name yet. -/
def christening (name : Name) (q : LoaderQuestion) (s : Loaders) (e : Unit) :
    q.Answer × Loaders × Unit :=
  naming (fun r => r.name.getD name) q s e

theorem christening_findsName (s : Loaders) (l : Loader) (name : Name) (bytes : List UInt8)
    (start stop : Nat) (domain : Option ProtectionDomain) :
    FindsName (christening name) s l name bytes start stop domain := by
  rintro _ _ _ _ ⟨t, e, -, rfl, rfl⟩ ⟨t', e', -, rfl, rfl⟩
  exact ⟨_, _, rfl, rfl, rfl, rfl⟩

/-- A definition has reserved the signers of its package and waits for its definer. -/
def reserving : List loaderService.Move :=
  [.call (.create .base none {}), .answer (.mayCreate 0 .base) (.ok ()), .finish,
    .call (.define solitary (some "a.C") [0] 0 1 (some signed)), .answer (.enter ⟨1⟩ ⟨1⟩) ()]

theorem reserving_allowed : definerRules.AllowsAll reserving (.start {}) := by
  unfold reserving
  repeat' refine allowsAll_cons ?_ rfl ?_
  -- Only calls have to be for loaders that have been made.
  all_goals first
    | trivial
    | exact fun l hl => Option.some.inj hl ▸ List.mem_singleton_self _
    | exact nofun

/-- While it waits, another definition of the package and of the same signer succeeds with the
name and without, and one without signers fails with it and without. -/
theorem definitions_coincide_inside :
    ∃ σ : loaderService.Session, Session.play reserving (.start {}) = some σ ∧
      ∀ domain, domain = some signed ∨ domain = none →
        let s := σ.now.state
        let unnamed := (solitary.define none [0] 0 1 domain).run (christening "a.B") s ()
        let named := (solitary.define (some "a.B") [0] 0 1 domain).run (christening "a.B") s ()
        Coincide s.holdings
            (Answered (christening "a.B") s solitary (s.request solitary none [0] 0 1 domain))
            (Answered (christening "a.B") s solitary
              (s.request solitary (some "a.B") [0] 0 1 domain))
            unnamed.1 unnamed.2.1 named.1 named.2.1 ∧
          (unnamed.1.isOk = true ↔ domain = some signed) := by
  have hreaches := reaches_of_play reserving_allowed rfl
  refine ⟨_, rfl, fun domain hdomain => ⟨?_, ?_⟩⟩
  · exact definitions_coincide hreaches (naming_handsOff _)
      (christening_findsName _ solitary "a.B" [0] 0 1 domain) ()
  · rcases hdomain with rfl | rfl <;> decide

end Loading
