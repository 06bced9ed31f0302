import Loading.Proofs.Loader.Attempting

/-!
# Gathering resources

The first resource of a name and all of its resources are looked for by two walks up the
line of loaders.  One stops as soon as something is found, the other one asks every loader.
Where each finder gives the first of what it gives altogether, the two walks go the same
way until something is found.

* `Loader.Gathered` — what the walk for all resources asks, and what it brings back.
* `Loader.ends_resources` — it asks every loader once, the root first.
* `FirstOfAll` — a finder's single answer is the first of all its answers.
* `BringsFirst` — one search brings back the first of what another one does.
* `bringsFirst_resource` — the walk for one resource brings back the first of all.
-/

namespace Loading

open Interaction

/-! ## All resources -/

namespace Loader

/-- The context of the root above a loader. -/
def rootContext : Loader → Context
  | .root level => level.context
  | .child _ parent => parent.rootContext

/-- The walk for all resources of a name asks for the built-in one, then each loader from
the root down for its own, and brings back all of them in this order. -/
structure Gathered (l : Loader) (name : String) (found : List String) (t : List Exchange)
    (inherited : Option String) (own : List (Loader × List String)) : Prop where
  /-- The loaders come from the root down. -/
  line : own.map (·.1) = l.path.reverse
  /-- Each is asked once, after the built-in resource has been asked for. -/
  asked : t = ⟨.bootstrapResource l.rootContext.key name, inherited⟩ ::
    own.map fun p => ⟨.resources p.1.id name, p.2⟩
  /-- What each one has is put behind what those above it have. -/
  found : found = inherited.toList ++ own.flatMap (·.2)

/-- One loader more below has its own resources put behind the others. -/
theorem Gathered.below {level : Level} {parent : Loader} {name : String} {found own : List String}
    {t : List Exchange} {inherited : Option String} {above : List (Loader × List String)}
    (h : Gathered parent name found t inherited above) :
    Gathered (.child level parent) name (found ++ own) (t ++ [⟨.resources level.id name, own⟩])
      inherited (above ++ [(.child level parent, own)]) where
  line := by
    rw [List.map_append, h.line]
    simp [path, ancestors]
  asked := by
    rw [h.asked, List.map_append, List.cons_append]
    rfl
  found := by simp [h.found]

variable {E : Type} {answer : (q : LoaderQuestion) → Loaders → E → q.Answer × Loaders × E}
  {name : String}

/-- All resources of a name are gathered, whoever is asked and whatever else happens
meanwhile. -/
theorem ends_resources (l : Loader) (s : Loaders) :
    Ends answer (fun _ => true)
      (fun found _ t => ∃ inherited own, Gathered l name found t inherited own)
      (l.resources name) s := by
  induction l generalizing s with
  | root level =>
      unfold resources
      apply ends_bind
      refine ends_question (q := LoaderQuestion.bootstrapResource _ _) fun e => ?_
      apply ends_bind
      refine ends_question (q := LoaderQuestion.resources _ _) fun e' => ?_
      refine ends_done ⟨_, [(.root level, _)], rfl, rfl, ?_⟩
      rw [List.flatMap_singleton]
  | child level parent ih =>
      unfold resources
      apply ends_bind
      refine (ih s).weaken fun found s₁ t hgathered => ?_
      obtain ⟨inherited, above, hgathered⟩ := hgathered
      apply ends_bind
      refine ends_question (q := LoaderQuestion.resources _ _) fun e => ?_
      exact ends_done ⟨inherited,
        above ++ [(.child level parent, (answer (.resources level.id name) s₁ e).1)],
        hgathered.below⟩

end Loader

/-! ## The first resource -/

/-- Every finder gives as the resource of a name the first of all that it gives for the
name, and does nothing else than when it is asked for all. -/
def FirstOfAll {E : Type}
    (answer : (q : LoaderQuestion) → Loaders → E → q.Answer × Loaders × E) (name : String) :
    Prop :=
  ∀ id s e, answer (.resource id name) s e =
    ((answer (.resources id name) s e).1.head?, (answer (.resources id name) s e).2)

section First

variable {E : Type} {answer : (q : LoaderQuestion) → Loaders → E → q.Answer × Loaders × E}
  {name : String} {one : LoaderTask (Option String)} {all : LoaderTask (List String)}

/-- One search brings back the first of all that another one does, and ends where the other
one ends if there is nothing. -/
def BringsFirst (answer : (q : LoaderQuestion) → Loaders → E → q.Answer × Loaders × E)
    (one : LoaderTask (Option String)) (all : LoaderTask (List String)) : Prop :=
  ∀ s e, (one.run answer s e).1 = (all.run answer s e).1.head? ∧
    ((all.run answer s e).1 = [] → (one.run answer s e).2 = (all.run answer s e).2)

/-- A finder that is asked after those above it leaves the first as it is, and gives its own
where there is none. -/
theorem BringsFirst.below (h : BringsFirst answer one all) (hfirst : FirstOfAll answer name)
    (id : LoaderId) :
    BringsFirst answer
      (do
        match ← one with
        | some path => return some path
        | none => LoaderTask.ask (.resource id name))
      (do
        let inherited ← all
        let own : List String ← LoaderTask.ask (.resources id name)
        return inherited ++ own) := by
  intro s e
  obtain ⟨hone, hend⟩ := h s e
  rw [run_bind, run_bind, hone]
  cases hall : (all.run answer s e).1 with
  | nil =>
      rw [hend hall]
      have hown := hfirst id (all.run answer s e).2.1 (all.run answer s e).2.2
      exact ⟨congrArg Prod.fst hown, fun _ => congrArg Prod.snd hown⟩
  | cons path rest => exact ⟨rfl, nofun⟩

/-- The walk for one resource brings back the first of all, for every loader. -/
theorem bringsFirst_resource (hfirst : FirstOfAll answer name) (l : Loader) :
    BringsFirst answer (l.resource name) (l.resources name) := by
  induction l with
  | root level =>
      have hbuiltin : BringsFirst answer
          (LoaderTask.ask (.bootstrapResource level.context.key name))
          (do
            let inherited : Option String ←
              LoaderTask.ask (.bootstrapResource level.context.key name)
            return inherited.toList) := by
        intro s e
        show (answer (.bootstrapResource level.context.key name) s e).1 =
            (answer (.bootstrapResource level.context.key name) s e).1.toList.head? ∧ _
        cases (answer (.bootstrapResource level.context.key name) s e).1 with
        | none => exact ⟨rfl, fun _ => rfl⟩
        | some path => exact ⟨rfl, fun _ => rfl⟩
      exact hbuiltin.below hfirst level.id
  | child level parent ih => exact ih.below hfirst level.id

end First

end Loading
