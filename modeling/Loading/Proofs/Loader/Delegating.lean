import Loading.Proofs.Loader.Remembering
import Loading.Proofs.Loader.Attempting

/-!
# The order of delegation

What a resolution does when nobody calls loaders back.  The loader closest to the
name on the path answers it; where none knows it, the built-in modules come first,
and then the finders on the path have their turn from the root down, until one
attempt ends otherwise than by not finding the module.  Whoever is below the loader
that answered remembers the answer.

* `Delegated` — how a name is resolved along a path, what is asked for that, and
  which loaders gain an answer.
* `resolve_delegates` — every resolution is delegated in this way.
-/

namespace Loading

open Interaction Service Loaders

/-- Loaders make their attempts one after the other, and none of them finds the module. -/
inductive Misses (kept : Prop) (s s' : Loaders) (name : Name) : List Loader → List Exchange → Prop
  | nil : Misses kept s s' name [] []
  | next {nodes : List Loader} {node : Loader} {t t' : List Exchange} {e : LoadError}
      (before : Misses kept s s' name nodes t) (attempt : Attempt kept s s' node name t' (.error e))
      (missing : e.isNotFound = true) : Misses kept s s' name (nodes ++ [node]) (t ++ t')

/-- How a loader resolves a name, what it asks of collaborators and what comes of it, if
nobody calls it back; and in which domains modules are defined, if domains are kept. -/
inductive Delegated (kept : Prop) (s s' : Loaders) (l : Loader) (name : Name) :
    List Exchange → Except LoadError Module → Prop
  /-- The closest loader on the path that knows the name answers it, and those below it
  remember that. -/
  | known {below above : List Loader} {node : Loader} {m : Module}
      (path : l.path = below ++ node :: above)
      (unknown : ∀ a ∈ below, s.loaded? a.id name = none)
      (loaded : s.loaded? node.id name = some m)
      (gained : Gained kept name m (below.map (·.id)) none s s') :
      Delegated kept s s' l name [] (.ok m)
  /-- No loader on the path knows the name, but there is a built-in module, which all of
  them remember. -/
  | builtIn {m : Module} (unknown : ∀ a ∈ l.path, s.loaded? a.id name = none)
      (gained : Gained kept name m (l.path.map (·.id)) none s s') :
      Delegated kept s s' l name [⟨.bootstrap l.context.key name, some m⟩] (.ok m)
  /-- From the root down, the first loader that does not miss the module defines it, and
  those below it remember that. -/
  | defined {missed rest : List Loader} {node : Loader} {m : Module} {t t' : List Exchange}
      (unknown : ∀ a ∈ l.path, s.loaded? a.id name = none)
      (path : l.path.reverse = missed ++ node :: rest) (misses : Misses kept s s' name missed t)
      (attempt : Attempt kept s s' node name t' (.ok m))
      (gained : Gained kept name m ((node :: rest).map (·.id)) (some node.id) s s') :
      Delegated kept s s' l name (⟨.bootstrap l.context.key name, none⟩ :: (t ++ t')) (.ok m)
  /-- From the root down, the first loader that does not miss the module fails. -/
  | failed {missed rest : List Loader} {node : Loader} {e : LoadError} {t t' : List Exchange}
      (unknown : ∀ a ∈ l.path, s.loaded? a.id name = none)
      (path : l.path.reverse = missed ++ node :: rest) (misses : Misses kept s s' name missed t)
      (attempt : Attempt kept s s' node name t' (.error e)) (other : e.isNotFound = false)
      (unmoved : Unmoved kept (l.path.map (·.id)) s s') :
      Delegated kept s s' l name (⟨.bootstrap l.context.key name, none⟩ :: (t ++ t')) (.error e)
  /-- All loaders on the path miss the module, the loader itself as the last. -/
  | nowhere {e : LoadError} {t t' : List Exchange}
      (unknown : ∀ a ∈ l.path, s.loaded? a.id name = none)
      (misses : Misses kept s s' name l.ancestors.reverse t)
      (attempt : Attempt kept s s' l name t' (.error e)) (missing : e.isNotFound = true)
      (unmoved : Unmoved kept (l.path.map (·.id)) s s') :
      Delegated kept s s' l name (⟨.bootstrap l.context.key name, none⟩ :: (t ++ t')) (.error e)

/-! ## Along the path -/

section Among

variable {kept : Prop} {s s₀ : Loaders} {l : Loader} {name : Name}

theorem Misses.onward {s₁ s₂ : Loaders} {nodes : List Loader} {t : List Exchange}
    (h : Misses kept s s₁ name nodes t) (hkeeps : kept → s₁.KeepsDomains s₂) :
    Misses kept s s₂ name nodes t := by
  induction h with
  | nil => exact .nil
  | next _ attempt missing ih => exact ih.next (attempt.onward hkeeps) missing

theorem Delegated.onward {s₁ s₂ : Loaders} {t : List Exchange} {r : Except LoadError Module}
    (h : Delegated kept s s₁ l name t r) (hunmoved : Unmoved kept [] s₁ s₂) :
    Delegated kept s s₂ l name t r := by
  cases h with
  | known path unknown loaded gained =>
      exact .known path unknown loaded (gained.onward hunmoved)
  | builtIn unknown gained => exact .builtIn unknown (gained.onward hunmoved)
  | defined unknown path misses attempt gained =>
      exact .defined unknown path (misses.onward hunmoved.domains)
        (attempt.onward hunmoved.domains) (gained.onward hunmoved)
  | failed unknown path misses attempt other unmoved =>
      exact .failed unknown path (misses.onward hunmoved.domains)
        (attempt.onward hunmoved.domains) other (unmoved.onward hunmoved)
  | nowhere unknown misses attempt missing unmoved =>
      exact .nowhere unknown (misses.onward hunmoved.domains)
        (attempt.onward hunmoved.domains) missing (unmoved.onward hunmoved)

/-- What a loader that does not know a name is told from above: an answer, which it is
to remember; that all loaders above have missed the module; or another error. -/
inductive Told (kept : Prop) (s s' : Loaders) (l : Loader) (name : Name) :
    List Exchange → Except LoadError Module → Prop
  | answered {t : List Exchange} {m : Module}
      (delegated : ∀ s₁, Unmoved kept [] s' s₁ →
        Delegated kept s (s₁.onTables l.id fun t => t.remember name m) l name t (.ok m)) :
      Told kept s s' l name t (.ok m)
  | missed {t : List Exchange} {e : LoadError}
      (unknown : ∀ a ∈ l.ancestors, s.loaded? a.id name = none)
      (misses : Misses kept s s' name l.ancestors.reverse t) (missing : e.isNotFound = true)
      (unmoved : Unmoved kept (l.ancestors.map (·.id)) s s') :
      Told kept s s' l name (⟨.bootstrap l.context.key name, none⟩ :: t) (.error e)
  | failed {t : List Exchange} {e : LoadError} (delegated : Delegated kept s s' l name t (.error e))
      (other : e.isNotFound = false) : Told kept s s' l name t (.error e)

/-- A loader answers what it knows, passes on what it is told, or makes an attempt of
its own. -/
theorem among_lookUp_told {delegate : LoaderTask (Except LoadError Module)}
    (hs : Unmoved kept [] s s₀) (hid : l.id ∉ l.ancestors.map (·.id))
    (hdelegate : s.loaded? l.id name = none →
      Among kept (fun r s₁ t => Told kept s s₁ l name t r) delegate s₀) :
    Among kept (fun r s' t => Delegated kept s s' l name t r) (l.lookUp name delegate) s₀ := by
  refine among_lookUp hs ?_ hdelegate ?_ ?_ ?_ fun r s₁ s₂ t => Delegated.onward
  · intro m s₁ hloaded h₁
    have hbelow : ∀ a ∈ ([] : List Loader), s.loaded? a.id name = none := fun _ => nofun
    exact .known rfl hbelow hloaded (.of_unmoved h₁ name m)
  · intro m s₁ t hloaded htold s₂ h₂
    cases htold with
    | answered delegated => exact delegated s₂ h₂
  · intro e s₁ t htold hmissing
    cases htold with
    | missed unknown misses missing unmoved =>
        rw [missing] at hmissing
        cases hmissing
    | failed delegated other => exact delegated
  · intro e s₁ t hloaded htold hmissing
    cases htold with
    | failed delegated other =>
        rw [hmissing] at other
        cases other
    | missed unknown misses missing unmoved =>
        have hunknown : ∀ a ∈ l.path, s.loaded? a.id name = none := by
          intro a ha
          rcases List.mem_cons.1 ha with rfl | ha
          · exact hloaded
          · exact unknown a ha
        have hpath : l.path.reverse = l.ancestors.reverse ++ l :: [] := List.reverse_cons
        refine (among_findAndDefine ((unmoved.loaded _ _).trans hloaded)).weaken ?_
        rintro r s₂ t' ⟨hattempt, hadded⟩
        have hmisses := misses.onward hadded.domains
        have hattempt := hattempt.since unmoved hid
        have hleft := hadded.since unmoved
        cases r with
        | ok m => exact .defined hunknown hpath hmisses hattempt (hattempt.named ▸ hleft.2)
        | error e =>
            cases hmissing : e.isNotFound with
            | true => exact .nowhere hunknown hmisses hattempt hmissing hleft
            | false => exact .failed hunknown hpath hmisses hattempt hmissing hleft

/-- A root is told of the built-in module, if there is one. -/
theorem among_askBootstrap_told {level : Level} (hs : Unmoved kept [] s s₀)
    (hnone : s.loaded? level.id name = none) :
    Among kept (fun r s₁ t => Told kept s s₁ (.root level) name t r)
      ((Loader.root level).askBootstrap name) s₀ := by
  have hunknown : ∀ a ∈ (Loader.root level).path, s.loaded? a.id name = none := by
    intro a ha
    obtain rfl := List.mem_singleton.1 ha
    exact hnone
  unfold Loader.askBootstrap
  apply among_bind
  refine among_ask (q := .bootstrap level.context.key name) fun found s₁ h₁ => ?_
  have hs₁ : Unmoved kept [] s s₁ := hs.trans h₁
  cases found with
  | none => exact among_done fun s₂ h₂ => .missed (fun _ => nofun) .nil rfl (hs₁.trans h₂)
  | some m =>
      refine among_done fun s₂ h₂ => .answered fun s₃ h₃ => .builtIn hunknown ?_
      exact (Gained.of_unmoved ((hs₁.trans h₂).trans h₃) name m).remember level.id hnone

/-- A loader is told by its parent what that resolved. -/
theorem Delegated.told {level : Level} {parent : Loader} {s₁ : Loaders} {t : List Exchange}
    {r : Except LoadError Module} (h : Delegated kept s s₁ parent name t r)
    (hcontext : parent.context = level.context) (hnone : s.loaded? level.id name = none) :
    Told kept s s₁ (.child level parent) name t r := by
  have hsub : ∀ id ∈ parent.path.map (·.id), id ∈ (Loader.child level parent).path.map (·.id) :=
    fun _ => List.mem_cons_of_mem _
  have hunknown : (∀ a ∈ parent.path, s.loaded? a.id name = none) →
      ∀ a ∈ (Loader.child level parent).path, s.loaded? a.id name = none := by
    intro hparent a ha
    rcases List.mem_cons.1 ha with rfl | ha
    · exact hnone
    · exact hparent a ha
  have hreverse : ∀ {missed rest : List Loader} {node : Loader},
      parent.path.reverse = missed ++ node :: rest →
      (Loader.child level parent).path.reverse =
        missed ++ node :: (rest ++ [.child level parent]) := by
    intro missed rest node hpath
    have hcons : (Loader.child level parent).path = .child level parent :: parent.path := rfl
    rw [hcons, List.reverse_cons, hpath, List.append_assoc, List.cons_append]
  have hkey : parent.context.key = (Loader.child level parent).context.key :=
    congrArg Context.key hcontext
  cases h with
  | @known below above node m path unknown loaded gained =>
      have hpath : (Loader.child level parent).path =
          (.child level parent :: below) ++ node :: above := congrArg (_ :: ·) path
      refine .answered fun s₂ h₂ =>
        .known hpath ?_ loaded ((gained.onward h₂).remember level.id hnone)
      intro a ha
      rcases List.mem_cons.1 ha with rfl | ha
      · exact hnone
      · exact unknown a ha
  | builtIn unknown gained =>
      rw [hkey]
      exact .answered fun s₂ h₂ =>
        .builtIn (hunknown unknown) ((gained.onward h₂).remember level.id hnone)
  | @defined missed rest node m t t' unknown path misses attempt gained =>
      rw [hkey]
      refine .answered fun s₂ h₂ => ?_
      have hkeeps : kept → s₁.KeepsDomains _ := fun hkept => (h₂.domains hkept).trans
        (SparesDomains.remember s₂ level.id name m).toSameDomains.keepsDomains
      refine .defined (hunknown unknown) (hreverse path) (misses.onward hkeeps)
        (attempt.onward hkeeps) ?_
      refine ((gained.onward h₂).remember level.id hnone).congr fun id => ?_
      simp only [List.map_cons, List.map_append, List.mem_cons, List.mem_append]
      have hid : (Loader.child level parent).id = level.id := rfl
      simp only [List.map_nil, hid]
      tauto
  | failed unknown path misses attempt other unmoved =>
      rw [hkey]
      exact .failed (.failed (hunknown unknown) (hreverse path) misses attempt other
        (unmoved.mono hsub)) other
  | nowhere unknown misses attempt missing unmoved =>
      have hmisses := misses.next attempt missing
      rw [hkey]
      refine .missed unknown ?_ missing unmoved
      have habove : (Loader.child level parent).ancestors.reverse =
          parent.ancestors.reverse ++ [parent] := List.reverse_cons
      rw [habove]
      exact hmisses

/-- A loader is told above how the name is resolved there, by induction on the path. -/
theorem among_delegate_told (hs : Unmoved kept [] s s₀)
    (hids : (l.path.map (·.id)).Nodup) (hcontext : ∀ a ∈ l.path, a.context = l.context)
    (hname : l.rules.isWellFormed name = true) (hnone : s.loaded? l.id name = none) :
    Among kept (fun r s₁ t => Told kept s s₁ l name t r) (l.delegate name) s₀ := by
  induction l generalizing s₀ with
  | root level => exact among_askBootstrap_told hs hnone
  | child level parent ih =>
      have hparent : parent ∈ (Loader.child level parent).path :=
        List.mem_cons_of_mem _ List.mem_cons_self
      have hshared : parent.context = level.context := hcontext parent hparent
      have hrules : parent.rules = (Loader.child level parent).rules :=
        congrArg (fun c => c.config.names) hshared
      have hname' : parent.rules.isWellFormed name = true := by rw [hrules, hname]
      have hcontext' : ∀ a ∈ parent.path, a.context = parent.context := by
        intro a ha
        rw [hshared]
        exact hcontext a (List.mem_cons_of_mem _ ha)
      obtain ⟨-, hids'⟩ := List.nodup_cons.1 hids
      obtain ⟨hid, -⟩ := List.nodup_cons.1 hids'
      show Among kept _ (parent.resolveOnly name) s₀
      rw [Upkeep.resolveOnly_eq, if_pos hname']
      refine Amid.weaken ?_ fun r s₁ t hdelegated => Delegated.told hdelegated hshared hnone
      refine among_locked (fun r s₁ s₂ t => Delegated.onward) fun s₁ h₁ => ?_
      have hs₁ : Unmoved kept [] s s₁ := hs.trans h₁
      exact among_lookUp_told hs₁ hid fun hnone' => ih hs₁ hids' hcontext' hname' hnone'

/-- A resolution is delegated, and asks nothing more when nothing is linked. -/
theorem among_resolve_delegated (hids : (l.path.map (·.id)).Nodup)
    (hcontext : ∀ a ∈ l.path, a.context = l.context)
    (hname : l.rules.isWellFormed name = true) :
    Among kept (fun r s' t => Delegated kept s s' l name t r) (l.resolve name false) s := by
  obtain ⟨hid, -⟩ := List.nodup_cons.1 hids
  unfold Loader.resolve Loader.resolveHeld
  rw [if_pos hname]
  refine among_locked (fun r s₁ s₂ t => Delegated.onward) fun s₁ h₁ => ?_
  apply among_bind
  have hlookUp := among_lookUp_told h₁ hid fun hnone =>
    among_delegate_told h₁ hids hcontext hname hnone
  refine hlookUp.weaken fun r s₂ t hdelegated => ?_
  cases r with
  | error e => exact among_done fun s₃ h₃ => (List.append_nil t).symm ▸ hdelegated.onward h₃
  | ok m => exact among_done fun s₃ h₃ => (List.append_nil t).symm ▸ hdelegated.onward h₃

end Among

/-- Whoever is asked calls no loader back, and takes no domain away if domains are kept. -/
def Discreet {E : Type} (kept : Prop)
    (answer : (q : LoaderQuestion) → Loaders → E → q.Answer × Loaders × E) : Prop :=
  ∀ q s e, Unmoved kept [] s (answer q s e).2.1

/-- Whatever has happened before, a name that may be looked up is resolved along the
path when nobody calls back: by the closest loader that knows it; else by the built-in
module, for which the bootstrap resolver is asked once; else by the first loader from
the root down whose attempt does not miss the module.  Nothing else is asked, and just
the loaders that the answer passes gain it.  If domains are kept, what is found is defined in
the domain that its loader has for its code source. -/
theorem resolve_delegates {E : Type} {kept : Prop}
    {answer : (q : LoaderQuestion) → Loaders → E → q.Answer × Loaders × E} {l : Loader}
    {name : Name} {σ : loaderService.Session} (hσ : Reaches anyAnswers (.start {}) σ)
    (idle : Idle σ.frames = true) (hl : l ∈ σ.now.state.created)
    (hcontext : ∀ a ∈ l.path, a.context = l.context) (hname : l.rules.isWellFormed name = true)
    (h : Discreet kept answer) (e : E) :
    Delegated kept σ.now.state ((l.resolve name false).run answer σ.now.state e).2.1 l name
      ((l.resolve name false).exchanges answer LoaderQuestion.isCall σ.now.state e)
      ((l.resolve name false).run answer σ.now.state e).1 := by
  have hfounded : σ.now.state.Founded := ((upheld_remembering hσ).inv idle).founded
  have hresolve : Among kept _ (l.resolve name false) σ.now.state :=
    among_resolve_delegated (hfounded.nodup_path hl) hcontext hname
  exact hresolve.ends (Unmoved.refl []) (fun q s e => h q s e) e

/-! ## A root that misses a module -/

/-- Both are made. -/
def making : List loaderService.Move :=
  [.call (.create .base none {}), .answer (.mayCreate 0 .base) (.ok ()), .finish,
    .call (.create .base (some solitary) {}), .answer (.mayCreate 0 .base) (.ok ()), .finish]

theorem making_allowed : anyAnswers.AllowsAll making (.start {}) := by
  unfold making
  repeat' refine allowsAll_cons ?_ rfl ?_
  all_goals first
    | trivial
    | exact mayCall_of_none rfl
    | exact mayCall_of_mem rfl (List.mem_singleton_self _)

/-- The finder of the root finds nothing, all others find one byte, and the definer makes
a new module of it. -/
def foundBelow : (q : LoaderQuestion) → Loaders → Unit → q.Answer × Loaders × Unit
  | .mayCreate _ _, s, _ => (.ok (), s, ())
  | .maySeeParent _ _ _, s, _ => (.ok (), s, ())
  | .enter _ _, s, _ => ((), s, ())
  | .leave _ _, s, _ => ((), s, ())
  | .bootstrap _ _, s, _ => (none, s, ())
  | .find l name, s, _ =>
      (if l = solitary.id then .error (.notFound name) else .ok ⟨[0], none⟩, s, ())
  | .produce _ r, s, _ =>
      let (m, s) := s.freshModule (r.name.getD unnamed) r.loader r.domain r.code.length
      (.ok m, s, ())
  | .link _ _, s, _ => (.ok (), s, ())
  | .bootstrapResource _ _, s, _ => (none, s, ())
  | .resource _ _, s, _ => (none, s, ())
  | .resources _ _, s, _ => ([], s, ())
  | .library _ _, s, _ => (none, s, ())

theorem discreet_foundBelow : Discreet True foundBelow := by
  intro q s e
  have hdomains : ∀ ledger, s.KeepsDomains { s with ledger } :=
    fun ledger _ source _ hd => by cases source <;> exact hd
  cases q <;> exact ⟨fun _ _ => rfl, fun _ => rfl, fun _ _ => rfl, fun _ => hdomains _⟩

/-- The root misses the module, and the loader below it defines it. -/
theorem resolve_delegates_below :
    ∃ σ : loaderService.Session, Session.play making (.start {}) = some σ ∧
      Delegated True σ.now.state
        ((sheltered.resolve "a.B" false).run foundBelow σ.now.state ()).2.1 sheltered "a.B"
        [⟨.bootstrap 0 "a.B", none⟩, ⟨.find ⟨1⟩ "a.B", .error (.notFound "a.B")⟩,
          ⟨.find ⟨2⟩ "a.B", .ok ⟨[0], none⟩⟩,
          ⟨.produce 0 ⟨some "a.B", [0], 0, 1, ⟨1, some {}⟩, ⟨2⟩⟩,
            .ok ⟨0, "a.B", ⟨2⟩, ⟨1, some {}⟩, 1⟩⟩]
        (.ok ⟨0, "a.B", ⟨2⟩, ⟨1, some {}⟩, 1⟩) := by
  have hcontext : ∀ a ∈ sheltered.path, a.context = sheltered.context := by decide
  have hname : sheltered.rules.isWellFormed "a.B" = true := by decide
  have hreaches := reaches_of_play making_allowed rfl
  have hcreated : sheltered ∈ [solitary, sheltered] := by decide
  exact ⟨_, rfl, resolve_delegates hreaches rfl hcreated hcontext hname discreet_foundBelow ()⟩

end Loading
