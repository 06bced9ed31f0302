import Loading.Proofs.Loader.OperationPreservation
import Loading.Proofs.Reentry.Actions

/-!
# What actions respect, operations respect

A definition or a resolution acts on the state in a few ways only, and asks only a few
kinds of questions.  What each of these actions and each of these answers respects, the
whole operation respects.

* `Loaders.Stroke` — one indivisible action.
* `LoaderQuestion.isNeeded` — the questions that are asked, with linking or without.
* `LoaderTask.Strokes` — an operation that consists of such actions and questions.
* `strokes_define`, `strokes_resolve` — the operations of loaders do.
* `LoaderTask.Strokes.run` — what a run of such an operation respects.
* `Loaders.Stroke.ground` — what none of these actions touches.
-/

namespace Loading

open Interaction

/-- One indivisible action of a definition or a resolution. -/
inductive Loaders.Stroke (s : Loaders) : Loaders → Prop
  /-- The state was only looked at. -/
  | look : Stroke s s
  /-- A lock was asked for. -/
  | lockFor (id : LoaderId) (name : Name) : Stroke s (s.lockFor id name).2
  /-- The domain of definitions without one was asked for. -/
  | defaultDomain (id : LoaderId) : Stroke s (s.defaultDomain id).2
  /-- The domain of a code source was asked for. -/
  | sourceDomain (id : LoaderId) (source : CodeSource) : Stroke s (s.sourceDomain id source).2
  /-- Signers were reserved. -/
  | reserve (id : LoaderId) (name : Name) (signers : CertificateSet) :
      Stroke s (s.reserve id name signers).2
  /-- A reservation was closed. -/
  | release (id : LoaderId) (package : String) (committed : Bool) :
      Stroke s (s.release id package committed)
  /-- A module was made the answer for its name. -/
  | adopt (id : LoaderId) (m : Module) : Stroke s (s.adopt id m).2
  /-- A module was signed. -/
  | sign (m : Module) (signers : CertificateSet) : Stroke s (s.sign m signers).2
  /-- A module was added to the definitions. -/
  | recordDefined (id : LoaderId) (m : Module) :
      Stroke s (s.onTables id fun t => t.recordDefined m)
  /-- A domain was added to those of the definitions. -/
  | recordDomain (id : LoaderId) (d : ProtectionDomain) :
      Stroke s (s.onTables id fun t => t.recordDomain d)
  /-- An answer was remembered. -/
  | remember (id : LoaderId) (name : Name) (m : Module) :
      Stroke s (s.onTables id fun t => t.remember name m)

/-- Is the question asked by definitions or resolutions, where modules are linked or not? -/
def LoaderQuestion.isNeeded (link : Bool) : LoaderQuestion → Bool
  | .enter _ _ | .leave _ _ | .bootstrap _ _ | .find _ _ | .produce _ _ => true
  | .link _ _ => link
  | _ => false

/-- An operation that consists of such actions and questions, whatever it is answered. -/
def LoaderTask.Strokes {α : Type} (link : Bool) : LoaderTask α → Prop
  | .done _ => True
  | .act update next => ∀ s, s.Stroke (update s) ∧ Strokes link (next s)
  | Interaction.ask q next => q.isNeeded link = true ∧ ∀ a, Strokes link (next a)

section Strokes

variable {α β : Type} {link : Bool} {l : Loader} {name : Name}

/-- What each action and each answer respects, a run respects. -/
theorem LoaderTask.Strokes.run {E : Type} {R : Loaders → Loaders → Prop}
    {answer : (q : LoaderQuestion) → Loaders → E → q.Answer × Loaders × E} {p : LoaderTask α}
    (h : p.Strokes link) (hrefl : ∀ s, R s s)
    (htrans : ∀ {s₁ s₂ s₃}, R s₁ s₂ → R s₂ s₃ → R s₁ s₃)
    (hstroke : ∀ {s s'}, s.Stroke s' → R s s')
    (hanswer : ∀ q s e, q.isNeeded link = true → R s (answer q s e).2.1) (s : Loaders) (e : E) :
    R s (p.run answer s e).2.1 := by
  induction p generalizing s e with
  | done a => exact hrefl s
  | act update next ih => exact htrans (hstroke (h s).1) (ih s (h s).2 (update s) e)
  | ask q next ih => exact htrans (hanswer q s e h.1) (ih _ (h.2 _) _ _)

theorem strokes_bind {p : LoaderTask α} {f : α → LoaderTask β} (h : p.Strokes link)
    (hf : ∀ a, (f a).Strokes link) : LoaderTask.Strokes link (p >>= f) := by
  induction p with
  | done a => exact hf a
  | act update next ih => exact fun s => ⟨(h s).1, ih s (h s).2⟩
  | ask q next ih => exact ⟨h.1, fun a => ih a (h.2 a)⟩

theorem strokes_done {a : α} : LoaderTask.Strokes link (done a) := trivial

theorem strokes_transact {f : Loaders → α × Loaders} (h : ∀ s, Loaders.Stroke s (f s).2) :
    LoaderTask.Strokes link (transact f) :=
  fun s => ⟨h s, strokes_done⟩

theorem strokes_observe {f : Loaders → α} : LoaderTask.Strokes link (observe f) :=
  fun _ => ⟨.look, strokes_done⟩

theorem strokes_change {f : Loaders → Loaders} (h : ∀ s, Loaders.Stroke s (f s)) :
    LoaderTask.Strokes link (change f) :=
  fun s => ⟨h s, strokes_done⟩

theorem strokes_ask {q : LoaderQuestion} (h : q.isNeeded link = true) :
    LoaderTask.Strokes link (LoaderTask.ask q) :=
  ⟨h, fun _ => strokes_done⟩

theorem strokes_locked {body : LoaderTask α} (h : body.Strokes link) :
    LoaderTask.Strokes link (l.locked name body) := by
  refine strokes_bind (strokes_transact fun s => .lockFor l.id name) fun lock => ?_
  refine strokes_bind (strokes_ask rfl) fun _ => strokes_bind h fun a => ?_
  exact strokes_bind (strokes_ask rfl) fun _ => strokes_done

/-! ## Defining -/

theorem strokes_domainOr (domain : Option ProtectionDomain) :
    LoaderTask.Strokes link (l.domainOr domain) := by
  cases domain with
  | some d => exact strokes_done
  | none => exact strokes_transact fun s => .defaultDomain l.id

theorem strokes_install (m : Module) (domain : ProtectionDomain) (package : String) :
    LoaderTask.Strokes link (l.install m domain package) := by
  have hrest : LoaderTask.Strokes link (do
      change fun s => s.release l.id package true
      change fun s => s.onTables l.id fun t => t.recordDefined m
      change fun s => s.onTables l.id fun t => t.recordDomain domain
      return .ok m : LoaderTask (Except LoadError Module)) := by
    refine strokes_bind (strokes_change fun s => .release l.id package true) fun _ => ?_
    refine strokes_bind (strokes_change fun s => .recordDefined l.id m) fun _ => ?_
    exact strokes_bind (strokes_change fun s => .recordDomain l.id domain) fun _ => strokes_done
  unfold Loader.install
  refine strokes_bind (strokes_transact fun s => .adopt l.id m) fun fresh => ?_
  cases fresh with
  | false =>
      exact strokes_bind (strokes_change fun s => .release l.id package false)
        fun _ => strokes_done
  | true =>
      cases hempty : domain.certificates.isEmpty with
      | true => exact hrest
      | false =>
          exact strokes_bind (strokes_change fun s => .sign m domain.certificates) fun _ => hrest

theorem strokes_defineHeld (name : Name) (bytes : List UInt8) (start stop : Nat)
    (domain : Option ProtectionDomain) :
    LoaderTask.Strokes link (l.defineHeld name bytes start stop domain) := by
  refine strokes_bind strokes_observe fun known => ?_
  cases known with
  | true => exact strokes_done
  | false =>
      refine strokes_bind (strokes_domainOr domain) fun d => ?_
      refine strokes_bind (strokes_transact fun s => .reserve l.id name d.certificates) fun r => ?_
      cases r with
      | error e => exact strokes_done
      | ok package =>
          refine strokes_bind (strokes_ask rfl) fun produced => ?_
          dsimp only
          split
          · refine strokes_bind (strokes_change fun s => .release l.id package false) fun _ => ?_
            exact strokes_done
          · exact strokes_install _ _ _

theorem strokes_enterHeld (m : Module) (domain : ProtectionDomain) :
    LoaderTask.Strokes link (l.enterHeld m domain) := by
  refine strokes_bind (strokes_transact fun s => .reserve l.id m.name domain.certificates) ?_
  intro r
  cases r with
  | error e => exact strokes_done
  | ok package => exact strokes_install m domain package

theorem strokes_defineUnnamed (bytes : List UInt8) (start stop : Nat)
    (domain : Option ProtectionDomain) :
    LoaderTask.Strokes link (l.defineUnnamed bytes start stop domain) := by
  refine strokes_bind (strokes_domainOr domain) fun d => ?_
  refine strokes_bind (strokes_ask rfl) fun produced => ?_
  cases produced with
  | error e => exact strokes_done
  | ok m =>
      dsimp only
      split
      · exact strokes_done
      · exact strokes_locked (strokes_enterHeld m d)

theorem strokes_define (name : Option Name) (bytes : List UInt8) (start stop : Nat)
    (domain : Option ProtectionDomain) :
    LoaderTask.Strokes link (l.define name bytes start stop domain) := by
  unfold Loader.define
  split
  · exact strokes_done
  · split
    · exact strokes_done
    · cases name with
      | none => exact strokes_defineUnnamed bytes start stop domain
      | some name => exact strokes_locked (strokes_defineHeld name bytes start stop domain)

/-! ## Resolving -/

theorem strokes_findAndDefine : LoaderTask.Strokes link (l.findAndDefine name) := by
  refine strokes_bind (strokes_ask rfl) fun found => ?_
  cases found with
  | error e => exact strokes_done
  | ok found =>
      cases hsource : found.source with
      | none =>
          simp only [hsource]
          exact strokes_define _ _ _ _ _
      | some source =>
          simp only [hsource]
          have hdomain : LoaderTask.Strokes link
              (some <$> (transact fun s => s.sourceDomain l.id source : LoaderTask _)) :=
            strokes_bind (strokes_transact fun s => .sourceDomain l.id source) fun _ =>
              strokes_done
          exact strokes_bind hdomain fun d => strokes_define _ _ _ _ _

theorem strokes_lookUp {delegate : LoaderTask (Except LoadError Module)}
    (h : delegate.Strokes link) : LoaderTask.Strokes link (l.lookUp name delegate) := by
  refine strokes_bind strokes_observe fun known => ?_
  cases known with
  | some m => exact strokes_done
  | none =>
      refine strokes_bind h fun r => ?_
      cases r with
      | ok m =>
          exact strokes_bind (strokes_change fun s => .remember l.id name m) fun _ => strokes_done
      | error e =>
          unfold Loader.afterDelegation
          dsimp only
          split
          · exact strokes_findAndDefine
          · exact strokes_done

/-- To ask above consists of the same, by induction on the path. -/
theorem strokes_delegate (l : Loader) (name : Name) :
    LoaderTask.Strokes link (l.delegate name) := by
  induction l with
  | root level =>
      refine strokes_bind (strokes_ask rfl) fun found => ?_
      cases found <;> exact strokes_done
  | child level parent ih =>
      show LoaderTask.Strokes link (parent.resolveOnly name)
      rw [Upkeep.resolveOnly_eq]
      split
      · exact strokes_locked (strokes_lookUp ih)
      · exact strokes_done

theorem strokes_linkIfNeeded (m : Module) : LoaderTask.Strokes true (l.linkIfNeeded m) := by
  refine strokes_bind strokes_observe fun linked => ?_
  cases linked with
  | true => exact strokes_done
  | false =>
      refine strokes_bind (strokes_ask rfl) fun outcome => ?_
      cases outcome <;> exact strokes_done

theorem strokes_resolve (l : Loader) (name : Name) (link : Bool) :
    LoaderTask.Strokes link (l.resolve name link) := by
  unfold Loader.resolve
  split
  · refine strokes_locked (strokes_bind (strokes_lookUp (strokes_delegate l name)) fun r => ?_)
    cases r with
    | error e => exact strokes_done
    | ok m =>
        cases link with
        | false => exact strokes_done
        | true => exact strokes_linkIfNeeded m
  · exact strokes_done

/-! ## What is not touched -/

/-- What a state is to those who make and link modules: the built-in modules, how many modules
have been made, and which of them are linked. -/
structure Ground where
  /-- The built-in modules of each context, by name. -/
  builtins : Table Nat (Table Name Module)
  /-- How many modules have been made. -/
  made : Nat
  /-- The modules that have been linked. -/
  linked : List Nat

/-- What a state is to those who make and link modules. -/
def Loaders.ground (s : Loaders) : Ground :=
  ⟨s.builtins, s.ledger.next, s.ledger.linked⟩

/-- No action of a loader touches it. -/
theorem Loaders.Stroke.ground {s s' : Loaders} (h : s.Stroke s') : s'.ground = s.ground := by
  cases h with
  | look | lockFor _ _ | reserve _ _ _ | release _ _ _ | recordDefined _ _ | recordDomain _ _
  | remember _ _ _ => rfl
  | defaultDomain id =>
      unfold Loaders.defaultDomain
      split <;> rfl
  | sourceDomain id source =>
      unfold Loaders.sourceDomain
      split <;> rfl
  | adopt id m =>
      unfold Loaders.adopt
      split <;> rfl
  | sign m signers =>
      unfold Loaders.ground Loaders.sign ModuleLedger.sign
      dsimp only
      split <;> rfl

/-- In particular, nobody but a linker marks modules as linked. -/
theorem Loaders.Stroke.linked {s s' : Loaders} (h : s.Stroke s') :
    s'.ledger.linked = s.ledger.linked :=
  congrArg Ground.linked h.ground

end Strokes

end Loading
