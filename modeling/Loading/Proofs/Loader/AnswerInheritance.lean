import Loading.Proofs.Loader.Attempting

/-!
# How an answer passes down a path

What a resolution leaves behind, without regard to who was asked for it.  If a module
comes out, some loaders of the path have gained it, each of them by defining it or from
the loader right above; and if an error comes out, no answer has changed.  Loaders of a
path may belong to different contexts here.

* `Spread` — loaders of a path have gained a module from above.
* `Passed` — how a resolution ends.
* `among_resolve` — every resolution ends so.
-/

namespace Loading

open Interaction Loaders

/-- The error that a collaborator has answered with. -/
def Exchange.error? : Exchange → Option LoadError
  | ⟨.find _ _, .error e⟩ => some e
  | ⟨.produce _ _, .error e⟩ => some e
  | _ => none

/-- If the error blames a module that is there already, a collaborator has answered so. -/
def Excused (t : List Exchange) (e : LoadError) : Prop :=
  ∀ n, e = .definition n .duplicate → ∃ x ∈ t, x.error? = some e

/-- Some loaders of a path have gained an answer for a name that they did not know, each of
them by defining it, or else it is the answer of the loader right above, too. -/
structure Spread (kept : Prop) (s s' : Loaders) (path : List Loader) (name : Name) (m : Module)
    (ids : List LoaderId) (definer : Option LoaderId) : Prop
    extends Gained kept name m ids definer s s' where
  /-- They are on the path. -/
  along : ∀ id ∈ ids, id ∈ path.map (·.id)
  /-- They did not know the name. -/
  fresh : ∀ id ∈ ids, s.loaded? id name = none
  /-- Whoever has defined the module is one of them. -/
  definer_mem : ∀ id ∈ definer, id ∈ ids
  /-- The others have it from above. -/
  above : ∀ a ∈ path, a.id ∈ ids →
    some a.id = definer ∨ ∀ parent ∈ a.parent?, s'.loaded? parent.id name = some m

/-- What a loader that does not know a name has heard from above. -/
def Heard (kept : Prop) (s s' : Loaders) (l : Loader) (name : Name) (t : List Exchange) :
    Except LoadError Module → Prop
  | .ok m => (∀ parent ∈ l.parent?, s'.loaded? parent.id name = some m) ∧
      ∃ ids definer, Spread kept s s' l.ancestors name m ids definer
  | .error e => Unmoved kept (l.ancestors.map (·.id)) s s' ∧ Excused t e

/-- How a resolution of a name ends: with an answer that the loader has from then on, or
with an error and no answer changed. -/
def Passed (kept : Prop) (s s' : Loaders) (l : Loader) (name : Name) (t : List Exchange) :
    Except LoadError Module → Prop
  | .ok m => s'.loaded? l.id name = some m ∧
      ∃ ids definer, Spread kept s s' l.path name m ids definer
  | .error e => Unmoved kept (l.path.map (·.id)) s s' ∧ Excused t e

section Passed

variable {kept : Prop} {s s₀ s₁ s₂ : Loaders} {l : Loader} {name : Name} {m : Module}
  {t : List Exchange} {ids : List LoaderId} {definer : Option LoaderId} {path : List Loader}

namespace Spread

theorem onward (h : Spread kept s s₁ path name m ids definer) (hunmoved : Unmoved kept [] s₁ s₂) :
    Spread kept s s₂ path name m ids definer where
  toGained := h.toGained.onward hunmoved
  along := h.along
  fresh := h.fresh
  definer_mem := h.definer_mem
  above a ha hid := (h.above a ha hid).imp_right fun habove parent hparent =>
    (hunmoved.loaded parent.id name).trans (habove parent hparent)

/-- Where nothing has moved, nobody has gained anything. -/
theorem of_unmoved (h : Unmoved kept ids s s₁) (path : List Loader) (name : Name) (m : Module) :
    Spread kept s s₁ path name m [] none where
  toGained := .of_unmoved h name m
  along _ hid := absurd hid List.not_mem_nil
  fresh _ hid := absurd hid List.not_mem_nil
  definer_mem _ hid := absurd hid (by simp)
  above _ _ hid := absurd hid List.not_mem_nil

/-- No answer is replaced. -/
theorem loaded_of_some (h : Spread kept s s₁ path name m ids definer) {id : LoaderId} {n : Name}
    {x : Module} (hx : s.loaded? id n = some x) : s₁.loaded? id n = some x := by
  rw [h.loaded]
  split
  · rename_i hid
    rw [hid.2, h.fresh id hid.1] at hx
    cases hx
  · exact hx

/-- What a loader defines, it gains by itself. -/
theorem define (h : Gained kept m.name m [l.id] (some l.id) s s₁)
    (hnone : s.loaded? l.id m.name = none) :
    Spread kept s s₁ l.path m.name m [l.id] (some l.id) where
  toGained := h
  along _ hid := List.mem_singleton.1 hid ▸ List.mem_cons_self
  fresh _ hid := List.mem_singleton.1 hid ▸ hnone
  definer_mem _ hid := Option.some.inj hid ▸ List.mem_singleton_self _
  above _ _ hid := Or.inl (congrArg some (List.mem_singleton.1 hid))

/-- A loader that remembers what it has heard gains it from above. -/
theorem remember (h : Spread kept s s₁ l.ancestors name m ids definer)
    (hid : l.id ∉ l.ancestors.map (·.id)) (hnone : s.loaded? l.id name = none)
    (hparent : ∀ parent ∈ l.parent?, s₁.loaded? parent.id name = some m) :
    Spread kept s (s₁.onTables l.id fun t => t.remember name m) l.path name m (l.id :: ids)
      definer where
  toGained := h.toGained.remember l.id hnone
  along := by
    refine List.forall_mem_cons.2 ⟨List.mem_cons_self, fun id hid => ?_⟩
    exact List.mem_cons_of_mem _ (h.along id hid)
  fresh := List.forall_mem_cons.2 ⟨hnone, h.fresh⟩
  definer_mem id hid := List.mem_cons_of_mem _ (h.definer_mem id hid)
  above a ha hmem := by
    have hgrows : s₁.Grows (s₁.onTables l.id fun t => t.remember name m) :=
      .remember s₁ l.id name m
    rcases List.mem_cons.1 ha with rfl | ha
    · exact Or.inr fun parent hp => hgrows.loaded (hparent parent hp)
    · rcases List.mem_cons.1 hmem with hself | hmem
      · exact absurd (List.mem_map.2 ⟨a, ha, hself⟩) hid
      · refine (h.above a ha hmem).imp_right fun habove parent hp => ?_
        exact hgrows.loaded (habove parent hp)

end Spread

theorem Passed.onward {r : Except LoadError Module} (h : Passed kept s s₁ l name t r)
    (hunmoved : Unmoved kept [] s₁ s₂) : Passed kept s s₂ l name t r := by
  cases r with
  | ok m =>
      obtain ⟨hloaded, ids, definer, hspread⟩ := h
      exact ⟨(hunmoved.loaded l.id name).trans hloaded, ids, definer, hspread.onward hunmoved⟩
  | error e => exact ⟨h.1.onward hunmoved, h.2⟩

/-! ## Errors -/

/-- An error that does not blame a module which is there already needs no excuse. -/
theorem excused_of_ne {e : LoadError} (h : ∀ n, e ≠ .definition n .duplicate) : Excused t e :=
  fun n heq => absurd heq (h n)

/-- What a loader objects to is never that it knows the name. -/
theorem objection?_ne_duplicate {given : Option Name} {e : LoadError}
    (h : l.objection? given m = some e) (n : Name) : e ≠ .definition n .duplicate := by
  rintro rfl
  unfold Loader.objection? at h
  cases given with
  | some given =>
      by_cases hname : m.name = given
      · simp [hname] at h
      · simp [hname] at h
  | none =>
      cases hfault : l.rules.fault? m.name with
      | some fault => simp [hfault] at h
      | none => simp [hfault] at h

/-- An attempt fails for a module that is there already only if it was told so. -/
theorem Attempt.excused {e : LoadError} (h : Attempt kept s s₁ l name t (.error e)) :
    Excused t e := by
  cases h with
  | unfound => exact fun _ _ => ⟨_, List.mem_cons_self, rfl⟩
  | forbidden faulty => exact excused_of_ne fun _ => nofun
  | refused provided known differ => exact excused_of_ne fun _ => nofun
  | undefined => exact fun _ _ => ⟨_, List.mem_cons_of_mem _ List.mem_cons_self, rfl⟩
  | rejected provided objection => exact excused_of_ne (objection?_ne_duplicate objection)

theorem Excused.append {e : LoadError} {t' : List Exchange} (h : Excused t' e)
    (t : List Exchange) : Excused (t ++ t') e := by
  intro n heq
  obtain ⟨x, hx, hanswer⟩ := h n heq
  exact ⟨x, List.mem_append_right _ hx, hanswer⟩

/-! ## Along the path -/

/-- A loader hears from its parent what that resolved. -/
theorem Passed.heard {level : Level} {parent : Loader} {r : Except LoadError Module}
    (h : Passed kept s s₁ parent name t r) : Heard kept s s₁ (.child level parent) name t r := by
  cases r with
  | ok m =>
      refine ⟨fun p hp => ?_, h.2⟩
      obtain rfl := Option.some.inj hp
      exact h.1
  | error e => exact h

/-- With the lock held, what a loader hears from above passes on. -/
theorem among_lookUp_heard {delegate : LoaderTask (Except LoadError Module)}
    (hs : Unmoved kept [] s s₀) (hid : l.id ∉ l.ancestors.map (·.id))
    (hdelegate : Among kept (fun r s₁ t => Heard kept s s₁ l name t r) delegate s₀) :
    Among kept (fun r s' t => Passed kept s s' l name t r) (l.lookUp name delegate) s₀ := by
  refine among_lookUp hs ?_ (fun _ => hdelegate) ?_ ?_ ?_ fun r s₁ s₂ t => Passed.onward
  · intro m s₁ hloaded h₁
    exact ⟨(h₁.loaded l.id name).trans hloaded, [], none, .of_unmoved h₁ l.path name m⟩
  · intro m s₁ t hnone hheard s₂ h₂
    obtain ⟨hparent, ids, definer, hspread⟩ := hheard
    have hparent₂ : ∀ parent ∈ l.parent?, s₂.loaded? parent.id name = some m :=
      fun parent hp => (h₂.loaded parent.id name).trans (hparent parent hp)
    have hremember := (hspread.onward h₂).remember hid hnone hparent₂
    refine ⟨?_, _, _, hremember⟩
    rw [hremember.loaded, if_pos ⟨List.mem_cons_self, rfl⟩]
  · intro e s₁ t hheard _
    exact ⟨hheard.1.mono fun _ => List.mem_cons_of_mem _, hheard.2⟩
  · intro e s₁ t hnone hheard _
    refine (among_findAndDefine ((hheard.1.loaded _ _).trans hnone)).weaken ?_
    rintro r s₂ t' ⟨hattempt, hnew⟩
    have hadded := hnew.since hheard.1
    cases r with
    | ok m =>
        obtain rfl := hattempt.named
        refine ⟨?_, _, _, .define hadded.2 hadded.1⟩
        rw [hadded.2.loaded, if_pos ⟨List.mem_singleton_self _, rfl⟩]
    | error e => exact ⟨hadded, hattempt.excused.append t⟩

/-- A loader hears from above what passes on there, by induction on the path. -/
theorem among_delegate (hs : Unmoved kept [] s s₀) (hids : (l.path.map (·.id)).Nodup) :
    Among kept (fun r s₁ t => Heard kept s s₁ l name t r) (l.delegate name) s₀ := by
  induction l generalizing s₀ with
  | root level =>
      show Among kept _ ((Loader.root level).askBootstrap name) s₀
      unfold Loader.askBootstrap
      apply among_bind
      refine among_ask (q := .bootstrap level.context.key name) fun found s₁ h₁ => ?_
      have hs₁ : Unmoved kept [] s s₁ := hs.trans h₁
      cases found with
      | none =>
          exact among_done fun s₂ h₂ => ⟨hs₁.trans h₂, excused_of_ne fun _ => nofun⟩
      | some m =>
          refine among_done fun s₂ h₂ => ⟨nofun, [], none, ?_⟩
          exact .of_unmoved (hs₁.trans h₂) _ name m
  | child level parent ih =>
      obtain ⟨-, hids'⟩ := List.nodup_cons.1 hids
      obtain ⟨hid, -⟩ := List.nodup_cons.1 hids'
      show Among kept _ (parent.resolveOnly name) s₀
      refine Amid.weaken ?_ fun r s₁ t hpassed => Passed.heard hpassed
      rw [Upkeep.resolveOnly_eq]
      split
      · refine among_locked (fun r s₁ s₂ t => Passed.onward) fun s₁ h₁ => ?_
        exact among_lookUp_heard (hs.trans h₁) hid (ih (hs.trans h₁) hids')
      · refine among_done fun s₁ h₁ => ⟨?_, excused_of_ne fun _ => nofun⟩
        exact (hs.trans h₁).mono fun _ => nofun

/-- While its lock is held, a name is resolved along the path. -/
theorem among_resolveHeld (hs : Unmoved kept [] s s₀) (hids : (l.path.map (·.id)).Nodup) :
    Among kept (fun r s' t => Passed kept s s' l name t r) (l.resolveHeld name false) s₀ := by
  obtain ⟨hid, -⟩ := List.nodup_cons.1 hids
  unfold Loader.resolveHeld
  apply among_bind
  refine (among_lookUp_heard hs hid (among_delegate hs hids)).weaken fun r s₁ t hpassed => ?_
  cases r with
  | error e => exact among_done fun s₂ h₂ => (List.append_nil t).symm ▸ hpassed.onward h₂
  | ok m => exact among_done fun s₂ h₂ => (List.append_nil t).symm ▸ hpassed.onward h₂

/-- Linking moves nothing. -/
theorem among_linkIfNeeded (hs : Unmoved kept [] s s₀) :
    Among kept (fun _ s' _ => Unmoved kept [] s s') (l.linkIfNeeded m) s₀ := by
  unfold Loader.linkIfNeeded
  apply among_bind
  refine among_observe fun s₁ s₂ h₁ h₂ => ?_
  have hs₂ : Unmoved kept [] s s₂ := (hs.trans h₁).trans h₂
  split
  · exact among_done fun s₃ h₃ => hs₂.trans h₃
  · apply among_bind
    refine among_ask (q := .link _ _) fun outcome s₃ h₃ => ?_
    cases outcome with
    | error e => exact among_done fun s₄ h₄ => (hs₂.trans h₃).trans h₄
    | ok u => exact among_done fun s₄ h₄ => (hs₂.trans h₃).trans h₄

/-- Whether the module is linked or not, a name is resolved along the path. -/
theorem among_resolve (hids : (l.path.map (·.id)).Nodup) (link : Bool) :
    Among kept (fun _ s' _ => ∃ t r, Passed kept s s' l name t r) (l.resolve name link) s := by
  obtain ⟨hid, -⟩ := List.nodup_cons.1 hids
  unfold Loader.resolve
  split
  · refine among_locked ?_ fun s₁ h₁ => ?_
    · exact fun _ s₁ s₂ _ hdone hunmoved => hdone.imp fun t => .imp fun r hpassed =>
        hpassed.onward hunmoved
    · unfold Loader.resolveHeld
      apply among_bind
      refine (among_lookUp_heard h₁ hid (among_delegate h₁ hids)).weaken fun r s₂ t hpassed => ?_
      cases r with
      | error e => exact among_done fun s₃ h₃ => ⟨t, _, hpassed.onward h₃⟩
      | ok m =>
          cases link with
          | false => exact among_done fun s₃ h₃ => ⟨t, _, hpassed.onward h₃⟩
          | true =>
              refine (among_linkIfNeeded (.refl [] s₂)).weaken fun _ s₃ _ hlinked => ?_
              exact ⟨t, _, hpassed.onward hlinked⟩
  · refine among_done fun s₁ h₁ => ⟨[], .error (.notFound name), ?_, ?_⟩
    · exact h₁.mono fun _ => nofun
    · exact excused_of_ne fun _ => nofun

end Passed

end Loading
