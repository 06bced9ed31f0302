import Loading.Proofs.Loader.OperationPreservation
import Loading.Proofs.Locking
import Loading.Proofs.Reentry.Actions

/-!
# How far definitions and resolutions reach

Definitions and resolutions change the tables of loaders, and nothing beyond them:
they make no loader and enter no built-in module.  A loading lock that has been made
for a name stays the lock for that name, and whoever takes a lock lets go of it before
those that were taken earlier.

* `LockMade` — a loading lock has been made for a name.
* `Inward` — a change that reaches no further than the tables of loaders.
* `LoaderTask.Orderly` — an operation whose changes are inward and whose locks are let
  go of in order.
* `orderly_define`, `orderly_resolve` — the operations of loaders are orderly.
-/

namespace Loading

open Interaction

/-! ## Loading locks -/

namespace Loaders

variable {s s' s₁ s₂ s₃ : Loaders}

/-- A loader has made the lock for a name. -/
def LockMade (s : Loaders) (id : LoaderId) (name : Name) (lock : Lock) : Prop :=
  (s.tablesOf id).locks.Made name lock

/-- A loader has one lock for a name. -/
theorem LockMade.eq {id : LoaderId} {name : Name} {lock : Lock} (h : s.LockMade id name lock) :
    (s.lockFor id name).1 = lock :=
  congrArg Prod.fst h

/-- The state has changed only in the tables of loaders, and in what is known of
modules and domains; and no lock has been replaced. -/
structure Inward (s s' : Loaders) : Prop where
  /-- No loader was made. -/
  created : s'.created = s.created
  /-- No number of a loader was used up. -/
  nextLoader : s'.nextLoader = s.nextLoader
  /-- No built-in module was entered. -/
  builtins : s'.builtins = s.builtins
  /-- Locks that were made are still there. -/
  locks : ∀ {id name lock}, s.LockMade id name lock → s'.LockMade id name lock

namespace Inward

theorem refl (s : Loaders) : Inward s s :=
  ⟨rfl, rfl, rfl, fun h => h⟩

theorem trans (h₁ : Inward s₁ s₂) (h₂ : Inward s₂ s₃) : Inward s₁ s₃ :=
  ⟨h₂.created.trans h₁.created, h₂.nextLoader.trans h₁.nextLoader,
    h₂.builtins.trans h₁.builtins, fun h => h₂.locks (h₁.locks h)⟩

/-- A change that leaves all tables as they are. -/
theorem of_tables (hcreated : s'.created = s.created) (hnext : s'.nextLoader = s.nextLoader)
    (hbuiltins : s'.builtins = s.builtins) (htables : ∀ id, s'.tablesOf id = s.tablesOf id) :
    Inward s s' := by
  refine ⟨hcreated, hnext, hbuiltins, fun {id name lock} h => ?_⟩
  unfold LockMade
  rw [htables]
  exact h

/-- A change of the tables of one loader that keeps the locks which were made. -/
theorem onTables (s : Loaders) (id : LoaderId) {f : LoaderTables → LoaderTables}
    (hlocks : ∀ {name lock}, (s.tablesOf id).locks.Made name lock →
      (f (s.tablesOf id)).locks.Made name lock) : Inward s (s.onTables id f) := by
  refine ⟨rfl, rfl, rfl, fun {k name lock} h => ?_⟩
  unfold LockMade
  rw [tablesOf_onTables]
  split
  · rename_i hk
    exact hlocks (hk ▸ h)
  · exact h

theorem lockFor (s : Loaders) (id : LoaderId) (name : Name) : Inward s (s.lockFor id name).2 := by
  show Inward s (s.onTables id fun t =>
    { t with locks := ((s.tablesOf id).locks.lockFor name).2 })
  exact onTables s id fun hmade => hmade.lockFor name

theorem freshDomain (s : Loaders) (source : Option CodeSource) :
    Inward s (s.freshDomain source).2 :=
  of_tables rfl rfl rfl fun _ => rfl

theorem defaultDomain (s : Loaders) (id : LoaderId) : Inward s (s.defaultDomain id).2 := by
  unfold Loaders.defaultDomain
  split
  · exact .refl s
  · refine (freshDomain s (some {})).trans ?_
    show Inward _ ((s.freshDomain (some {})).2.onTables id fun t =>
      { t with defaultDomain := some (s.freshDomain (some {})).1 })
    exact onTables _ id fun hmade => hmade

theorem sourceDomain (s : Loaders) (id : LoaderId) (source : CodeSource) :
    Inward s (s.sourceDomain id source).2 := by
  unfold Loaders.sourceDomain
  split
  · exact .refl s
  · refine (freshDomain s (some source)).trans ?_
    show Inward _ ((s.freshDomain (some source)).2.onTables id fun t =>
      { t with sourceDomains := t.sourceDomains.set source (s.freshDomain (some source)).1 })
    exact onTables _ id fun hmade => hmade

theorem reserve (s : Loaders) (id : LoaderId) (name : Name) (signers : CertificateSet) :
    Inward s (s.reserve id name signers).2 := by
  rw [reserve_snd]
  exact onTables s id fun hmade => hmade

theorem release (s : Loaders) (id : LoaderId) (package : String) (committed : Bool) :
    Inward s (s.release id package committed) :=
  onTables s id fun hmade => hmade

theorem sign (s : Loaders) (m : Module) (signers : CertificateSet) :
    Inward s (s.sign m signers).2 :=
  of_tables rfl rfl rfl fun _ => rfl

theorem remember (s : Loaders) (id : LoaderId) (name : Name) (m : Module) :
    Inward s (s.onTables id fun t => t.remember name m) := by
  refine onTables s id fun hmade => ?_
  unfold LoaderTables.remember
  split <;> exact hmade

theorem adopt (s : Loaders) (id : LoaderId) (m : Module) : Inward s (s.adopt id m).2 := by
  unfold Loaders.adopt
  split
  · exact .refl s
  · show Inward s (s.onTables id fun t => { t with loaded := t.loaded.set m.name m })
    exact onTables s id fun hmade => hmade

theorem recordDefined (s : Loaders) (id : LoaderId) (m : Module) :
    Inward s (s.onTables id fun t => t.recordDefined m) :=
  onTables s id fun hmade => hmade

theorem recordDomain (s : Loaders) (id : LoaderId) (d : ProtectionDomain) :
    Inward s (s.onTables id fun t => t.recordDomain d) := by
  refine onTables s id fun hmade => ?_
  unfold LoaderTables.recordDomain
  split <;> exact hmade

end Inward

end Loaders

open Loaders

/-! ## Operations that reach no further -/

/-- The locks that are held when a question has been answered, if just the newest one
may be let go of. -/
def LoaderQuestion.heldAfter (held : List (LoaderId × Lock)) :
    LoaderQuestion → Option (List (LoaderId × Lock))
  | .enter id lock => some ((id, lock) :: held)
  | .leave id lock => if held.head? = some (id, lock) then some held.tail else none
  | _ => some held

/-- With some locks held, the newest first, the changes of an operation are inward, and
it lets go of all locks in order until it ends. -/
def LoaderTask.Orderly {α : Type} : List (LoaderId × Lock) → LoaderTask α → Prop
  | held, .done _ => held = []
  | held, .act update next => ∀ s, Inward s (update s) ∧ Orderly held (next s)
  | held, Interaction.ask q next =>
      ∃ held', q.heldAfter held = some held' ∧ ∀ a, Orderly held' (next a)

section Orderly

variable {α β : Type} {held held' : List (LoaderId × Lock)} {l : Loader} {name : Name}

theorem LoaderTask.Orderly.acts {p : LoaderTask α} (h : p.Orderly held) : p.Acts Inward := by
  induction p generalizing held with
  | done a => trivial
  | act update next ih => exact fun s => ⟨(h s).1, ih s (h s).2⟩
  | ask q next ih =>
      obtain ⟨held', -, hnext⟩ := h
      exact fun a => ih a (hnext a)

/-- Locks that were taken before do not matter. -/
theorem heldAfter_append {q : LoaderQuestion} (h : q.heldAfter held = some held')
    (older : List (LoaderId × Lock)) :
    q.heldAfter (held ++ older) = some (held' ++ older) := by
  cases q with
  | leave id lock =>
      cases held with
      | nil => simp [LoaderQuestion.heldAfter] at h
      | cons k rest => simpa [LoaderQuestion.heldAfter] using h
  | _ =>
      obtain rfl := Option.some.inj h
      rfl

/-- The second operation lets go of the locks that the first one leaves to it. -/
theorem orderly_bind {p : LoaderTask α} {f : α → LoaderTask β} (h : p.Orderly held)
    (hf : ∀ a, (f a).Orderly held') : LoaderTask.Orderly (held ++ held') (p >>= f) := by
  induction p generalizing held with
  | done a =>
      obtain rfl : held = [] := h
      exact hf a
  | act update next ih => exact fun s => ⟨(h s).1, ih s (h s).2⟩
  | ask q next ih =>
      obtain ⟨held₁, hheld, hnext⟩ := h
      exact ⟨held₁ ++ held', heldAfter_append hheld held', fun a => ih a (hnext a)⟩

theorem orderly_done {a : α} : LoaderTask.Orderly [] (done a) := rfl

theorem orderly_transact {f : Loaders → α × Loaders} (h : ∀ s, Inward s (f s).2) :
    LoaderTask.Orderly [] (transact f) :=
  fun s => ⟨h s, orderly_done⟩

theorem orderly_observe {f : Loaders → α} : LoaderTask.Orderly [] (observe f) :=
  fun s => ⟨.refl s, orderly_done⟩

theorem orderly_change {f : Loaders → Loaders} (h : ∀ s, Inward s (f s)) :
    LoaderTask.Orderly [] (change f) :=
  fun s => ⟨h s, orderly_done⟩

/-- A question that is not about locks. -/
theorem orderly_ask {q : LoaderQuestion} (h : q.heldAfter [] = some []) :
    LoaderTask.Orderly [] (LoaderTask.ask q) :=
  ⟨[], h, fun _ => orderly_done⟩

/-- What is done with a lock held, up to letting go of it. -/
theorem orderly_leave {body : LoaderTask α} (h : body.Orderly held) (id : LoaderId)
    (lock : Lock) :
    LoaderTask.Orderly (held ++ [(id, lock)]) (body >>= fun a => do
      LoaderTask.ask (.leave id lock)
      return a) :=
  orderly_bind h fun _ => ⟨[], by simp [LoaderQuestion.heldAfter], fun _ => orderly_done⟩

theorem orderly_locked {body : LoaderTask α} (h : body.Orderly []) :
    LoaderTask.Orderly [] (l.locked name body) := by
  unfold Loader.locked
  refine orderly_bind (orderly_transact fun s => .lockFor s l.id name) fun lock => ?_
  exact ⟨[(l.id, lock)], rfl, fun _ => orderly_leave h l.id lock⟩

theorem orderly_domainOr (domain : Option ProtectionDomain) :
    LoaderTask.Orderly [] (l.domainOr domain) := by
  cases domain with
  | some d => exact orderly_done
  | none => exact orderly_transact fun s => .defaultDomain s l.id

theorem orderly_install (m : Module) (domain : ProtectionDomain) (package : String) :
    LoaderTask.Orderly [] (l.install m domain package) := by
  have hrest : LoaderTask.Orderly [] (do
      change fun s => s.release l.id package true
      change fun s => s.onTables l.id fun t => t.recordDefined m
      change fun s => s.onTables l.id fun t => t.recordDomain domain
      return .ok m : LoaderTask (Except LoadError Module)) := by
    refine orderly_bind (orderly_change fun s => .release s l.id package true) fun _ => ?_
    refine orderly_bind (orderly_change fun s => .recordDefined s l.id m) fun _ => ?_
    exact orderly_bind (orderly_change fun s => .recordDomain s l.id domain) fun _ => orderly_done
  unfold Loader.install
  refine orderly_bind (orderly_transact fun s => .adopt s l.id m) fun fresh => ?_
  cases fresh with
  | false =>
      exact orderly_bind (orderly_change fun s => .release s l.id package false)
        fun _ => orderly_done
  | true =>
      cases hempty : domain.certificates.isEmpty with
      | true => exact hrest
      | false =>
          exact orderly_bind (orderly_change fun s => .sign s m domain.certificates) fun _ => hrest

theorem orderly_defineHeld (name : Name) (bytes : List UInt8) (start stop : Nat)
    (domain : Option ProtectionDomain) :
    LoaderTask.Orderly [] (l.defineHeld name bytes start stop domain) := by
  refine orderly_bind orderly_observe fun known => ?_
  cases known with
  | true => exact orderly_done
  | false =>
      refine orderly_bind (orderly_domainOr domain) fun d => ?_
      have hreserve := orderly_transact fun s => Inward.reserve s l.id name d.certificates
      refine orderly_bind hreserve fun r => ?_
      cases r with
      | error e => exact orderly_done
      | ok package =>
          refine orderly_bind (orderly_ask rfl) fun produced => ?_
          dsimp only
          split
          · refine orderly_bind (orderly_change fun s => .release s l.id package false) fun _ => ?_
            exact orderly_done
          · exact orderly_install _ _ _

theorem orderly_enterHeld (m : Module) (domain : ProtectionDomain) :
    LoaderTask.Orderly [] (l.enterHeld m domain) := by
  refine orderly_bind (orderly_transact fun s => .reserve s l.id m.name domain.certificates) ?_
  intro r
  cases r with
  | error e => exact orderly_done
  | ok package => exact orderly_install m domain package

theorem orderly_defineUnnamed (bytes : List UInt8) (start stop : Nat)
    (domain : Option ProtectionDomain) :
    LoaderTask.Orderly [] (l.defineUnnamed bytes start stop domain) := by
  unfold Loader.defineUnnamed
  refine orderly_bind (orderly_domainOr domain) fun d => ?_
  refine orderly_bind (orderly_ask rfl) fun produced => ?_
  cases produced with
  | error e => exact orderly_done
  | ok m =>
      dsimp only
      split
      · exact orderly_done
      · exact orderly_locked (orderly_enterHeld m d)

theorem orderly_define (name : Option Name) (bytes : List UInt8) (start stop : Nat)
    (domain : Option ProtectionDomain) :
    LoaderTask.Orderly [] (l.define name bytes start stop domain) := by
  unfold Loader.define
  split
  · exact orderly_done
  · split
    · exact orderly_done
    · cases name with
      | none => exact orderly_defineUnnamed bytes start stop domain
      | some name => exact orderly_locked (orderly_defineHeld name bytes start stop domain)

theorem orderly_findAndDefine : LoaderTask.Orderly [] (l.findAndDefine name) := by
  unfold Loader.findAndDefine
  refine orderly_bind (orderly_ask rfl) fun found => ?_
  cases found with
  | error e => exact orderly_done
  | ok found =>
      cases hsource : found.source with
      | none =>
          simp only [hsource]
          exact orderly_define _ _ _ _ _
      | some source =>
          simp only [hsource]
          have hdomain : LoaderTask.Orderly []
              (some <$> (transact fun s => s.sourceDomain l.id source : LoaderTask _)) :=
            orderly_bind (orderly_transact fun s => .sourceDomain s l.id source) fun _ =>
              orderly_done
          exact orderly_bind hdomain fun d => orderly_define _ _ _ _ _

theorem orderly_lookUp {delegate : LoaderTask (Except LoadError Module)}
    (h : delegate.Orderly []) : LoaderTask.Orderly [] (l.lookUp name delegate) := by
  unfold Loader.lookUp
  refine orderly_bind orderly_observe fun known => ?_
  cases known with
  | some m => exact orderly_done
  | none =>
      refine orderly_bind h fun r => ?_
      cases r with
      | ok m =>
          refine orderly_bind (orderly_change fun s => .remember s l.id name m) fun _ => ?_
          exact orderly_done
      | error e =>
          unfold Loader.afterDelegation
          dsimp only
          split
          · exact orderly_findAndDefine
          · exact orderly_done

/-- To ask above is orderly, by induction on the path. -/
theorem orderly_delegate (l : Loader) (name : Name) : LoaderTask.Orderly [] (l.delegate name) := by
  induction l with
  | root level =>
      refine orderly_bind (orderly_ask rfl) fun found => ?_
      cases found <;> exact orderly_done
  | child level parent ih =>
      show LoaderTask.Orderly [] (parent.resolveOnly name)
      rw [Upkeep.resolveOnly_eq]
      split
      · exact orderly_locked (orderly_lookUp ih)
      · exact orderly_done

theorem orderly_linkIfNeeded (m : Module) : LoaderTask.Orderly [] (l.linkIfNeeded m) := by
  unfold Loader.linkIfNeeded
  refine orderly_bind orderly_observe fun linked => ?_
  cases linked with
  | true => exact orderly_done
  | false =>
      refine orderly_bind (orderly_ask rfl) fun outcome => ?_
      cases outcome <;> exact orderly_done

theorem orderly_resolveHeld (l : Loader) (name : Name) (link : Bool) :
    LoaderTask.Orderly [] (l.resolveHeld name link) := by
  refine orderly_bind (orderly_lookUp (orderly_delegate l name)) fun r => ?_
  cases r with
  | error e => exact orderly_done
  | ok m =>
      cases link with
      | false => exact orderly_done
      | true => exact orderly_linkIfNeeded m

theorem orderly_resolve (l : Loader) (name : Name) (link : Bool) :
    LoaderTask.Orderly [] (l.resolve name link) := by
  unfold Loader.resolve
  split
  · exact orderly_locked (orderly_resolveHeld l name link)
  · exact orderly_done

end Orderly

end Loading
