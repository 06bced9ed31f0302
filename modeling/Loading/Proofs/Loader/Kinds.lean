import Loading.Loader.Question
import Loading.Proofs.Loader.Hierarchy
import Loading.Proofs.Reentry.Actions
import Loading.Proofs.Reentry.Discipline

/-!
# Kinds are decided once

Whether the loaders of a kind work in parallel is settled when the first of them
is made, or when the registry of kinds is told of one.  Kinds may be entered in any
order, and whoever is asked whether a loader may be made can enter kinds and make
loaders before it answers.

* `KindRegistry.Closed` — with a kind, all kinds above it are entered.
* `KindRegistry.Lasts` — what is entered stays entered, and a kind that has loaders
  is entered or not for ever.
* `kindService` — the operations on registries, as a service.
* `decided_once` — what any session shows of the decisions.
-/

namespace Loading

open Service Interaction

/-! ## One registry -/

/-- The kind right above a kind is one of those above it. -/
theorem Kind.mem_supers {k a : Kind} (h : a ∈ k.super?) : a ∈ k.supers := by
  cases k with
  | root serial name => cases h
  | extending serial name super =>
      obtain rfl := Option.some.inj h
      exact List.mem_cons_self

namespace KindRegistry

/-- The kind that every registry knows is entered, and with a kind all kinds above
it are. -/
structure Closed (r : KindRegistry) : Prop where
  /-- The kind without loaders of its own is entered. -/
  base : r.isRegistered Kind.base = true
  /-- The kinds above a kind that is entered are entered. -/
  supers : ∀ k, r.isRegistered k = true → ∀ a ∈ k.supers, r.isRegistered a = true

/-- What is settled in one registry is settled in a later one. -/
structure Lasts (r r' : KindRegistry) : Prop where
  /-- What is entered stays entered. -/
  registered : ∀ k, r.isRegistered k = true → r'.isRegistered k = true
  /-- A kind that has had loaders has had them for ever. -/
  instantiated : ∀ k ∈ r.instantiated, k ∈ r'.instantiated
  /-- It is entered only if it was. -/
  decided : ∀ k ∈ r.instantiated, r'.isRegistered k = r.isRegistered k

namespace Lasts

theorem refl (r : KindRegistry) : Lasts r r :=
  ⟨fun _ h => h, fun _ h => h, fun _ _ => rfl⟩

theorem trans {r₁ r₂ r₃ : KindRegistry} (h₁ : Lasts r₁ r₂) (h₂ : Lasts r₂ r₃) :
    Lasts r₁ r₃ where
  registered k hk := h₂.registered k (h₁.registered k hk)
  instantiated k hk := h₂.instantiated k (h₁.instantiated k hk)
  decided k hk := (h₂.decided k (h₁.instantiated k hk)).trans (h₁.decided k hk)

end Lasts

variable {r : KindRegistry} {k : Kind}

theorem isRegistered_iff : r.isRegistered k = true ↔ k ∈ r.registered :=
  List.contains_iff_mem

/-- A kind may be entered if it has had no loader and the kind above it is entered. -/
theorem admits_iff : r.admits k = true ↔
    k ∉ r.instantiated ∧ ∀ a ∈ k.super?, r.isRegistered a = true := by
  unfold admits
  cases k.super? <;> simp

/-- Entering a kind leaves the registry as it is, or adds a kind that may be entered. -/
theorem register_cases (r : KindRegistry) (k : Kind) :
    (r.register k).2 = r ∨
      (r.admits k = true ∧ (r.register k).2 = { r with registered := k :: r.registered }) := by
  unfold register
  split
  · exact Or.inl rfl
  · split
    · rename_i hadmits
      exact Or.inr ⟨hadmits, rfl⟩
    · exact Or.inl rfl

/-- A registry says that a kind is entered exactly when it is entered afterwards. -/
theorem register_fst (r : KindRegistry) (k : Kind) :
    (r.register k).1 = (r.register k).2.isRegistered k := by
  unfold register
  split
  · rename_i hregistered
    exact hregistered.symm
  · rename_i hregistered
    split
    · exact (isRegistered_iff.2 List.mem_cons_self).symm
    · exact (Bool.eq_false_iff.2 hregistered).symm

/-- A kind is entered unless its loaders or the kind above it forbid that. -/
theorem register_fst_iff :
    (r.register k).1 = true ↔ r.isRegistered k = true ∨ r.admits k = true := by
  unfold register
  by_cases hregistered : r.isRegistered k = true
  · simp [hregistered]
  · by_cases hadmits : r.admits k = true <;> simp [hregistered, hadmits]

theorem instantiated_register (r : KindRegistry) (k : Kind) :
    (r.register k).2.instantiated = r.instantiated := by
  obtain heq | ⟨-, heq⟩ := register_cases r k
  · rw [heq]
  · rw [heq]

theorem Closed.start : Closed {} where
  base := rfl
  supers k hk a ha := by
    obtain rfl : k = Kind.base := List.mem_singleton.1 (isRegistered_iff.1 hk)
    cases ha

theorem Closed.register (h : r.Closed) (k : Kind) : (r.register k).2.Closed := by
  obtain heq | ⟨hadmits, heq⟩ := register_cases r k
  · rw [heq]
    exact h
  · rw [heq]
    have hkeeps : ∀ a, r.isRegistered a = true →
        isRegistered { r with registered := k :: r.registered } a = true := fun a ha =>
      isRegistered_iff.2 (List.mem_cons_of_mem k (isRegistered_iff.1 ha))
    refine ⟨hkeeps _ h.base, fun j hj a ha => hkeeps a ?_⟩
    rcases List.mem_cons.1 (isRegistered_iff.1 hj) with rfl | hj
    · -- The kind that is entered now lies right below one that was entered before.
      cases j with
      | root serial name => cases ha
      | extending serial name super =>
          have hsuper := (admits_iff.1 hadmits).2 super rfl
          rcases List.mem_cons.1 ha with rfl | ha
          · exact hsuper
          · exact h.supers super hsuper a ha
    · exact h.supers j (isRegistered_iff.2 hj) a ha

theorem Closed.noteInstance (h : r.Closed) (k : Kind) : (r.noteInstance k).2.Closed :=
  ⟨h.base, h.supers⟩

theorem Lasts.register (r : KindRegistry) (k : Kind) : Lasts r (r.register k).2 := by
  obtain heq | ⟨hadmits, heq⟩ := register_cases r k
  · rw [heq]
    exact .refl r
  · rw [heq]
    refine ⟨fun j hj => ?_, fun _ hj => hj, fun j hj => ?_⟩
    · exact isRegistered_iff.2 (List.mem_cons_of_mem k (isRegistered_iff.1 hj))
    · -- A kind that has had loaders is not the one that is entered.
      have hne : j ≠ k := by
        rintro rfl
        exact (admits_iff.1 hadmits).1 hj
      rw [Bool.eq_iff_iff, isRegistered_iff, isRegistered_iff, List.mem_cons,
        or_iff_right hne]

theorem Lasts.noteInstance (r : KindRegistry) (k : Kind) : Lasts r (r.noteInstance k).2 :=
  ⟨fun _ h => h, fun _ h => List.mem_cons_of_mem k h, fun _ _ => rfl⟩

end KindRegistry

/-! ## All registries and the loaders that were made -/

namespace Loaders

/-- Tells a registry of a loader, and says whether loaders of its kind work in
parallel. -/
def noteKind (s : Loaders) (registry : Nat) (k : Kind) : Bool × Loaders :=
  let (parallel, kinds) := (s.kindsOf registry).noteInstance k
  (parallel, { s with kinds := s.kinds.set registry kinds })

/-- Changes that have nothing to do with kinds: loaders, registries and the way in which
loaders lock are as before. -/
structure Elsewhere (s s' : Loaders) : Prop where
  /-- The registries are the same. -/
  kinds : s'.kinds = s.kinds
  /-- No loader is made. -/
  created : s'.created = s.created
  /-- Numbers are not used again. -/
  nextLoader : s.nextLoader ≤ s'.nextLoader
  /-- Every loader locks as before. -/
  parallel : ∀ id, (s'.tablesOf id).locks.parallel = (s.tablesOf id).locks.parallel

/-- Registries are closed, and each loader works as its kind was decided. -/
structure Decided (s : Loaders) : Prop where
  /-- With a kind, those above it are entered. -/
  closed : ∀ n, (s.kindsOf n).Closed
  /-- Loaders have the numbers that have been given out. -/
  numbered : ∀ l ∈ s.created, l.id.val < s.nextLoader
  /-- The registry of a loader has been told of it. -/
  noted : ∀ l ∈ s.created, l.level.kind ∈ (s.kindsOf l.context.registry).instantiated
  /-- A loader works in parallel exactly when its kind is entered. -/
  level : ∀ l ∈ s.created,
    l.level.parallel = (s.kindsOf l.context.registry).isRegistered l.level.kind
  /-- It locks that way. -/
  locks : ∀ l ∈ s.created, (s.tablesOf l.id).locks.parallel = l.level.parallel

/-- No decision is ever taken back. -/
structure Lasting (s s' : Loaders) : Prop where
  /-- What is settled in a registry stays settled. -/
  kinds : ∀ n, (s.kindsOf n).Lasts (s'.kindsOf n)
  /-- No loader is lost. -/
  created : ∀ l ∈ s.created, l ∈ s'.created

/-- From a state in which loaders work as decided to another one, with all decisions
kept. -/
def Steady (s s' : Loaders) : Prop :=
  s.Decided → s'.Decided ∧ s.Lasting s'

variable {s s' : Loaders}

theorem Lasting.refl (s : Loaders) : s.Lasting s :=
  ⟨fun _ => .refl _, fun _ h => h⟩

theorem Lasting.trans {s₁ s₂ s₃ : Loaders} (h₁ : s₁.Lasting s₂) (h₂ : s₂.Lasting s₃) :
    s₁.Lasting s₃ :=
  ⟨fun n => (h₁.kinds n).trans (h₂.kinds n), fun l hl => h₂.created l (h₁.created l hl)⟩

theorem Steady.refl (s : Loaders) : s.Steady s :=
  fun h => ⟨h, .refl s⟩

theorem Steady.trans {s₁ s₂ s₃ : Loaders} (h₁ : s₁.Steady s₂) (h₂ : s₂.Steady s₃) :
    s₁.Steady s₃ := by
  intro h
  obtain ⟨hmiddle, hlasting⟩ := h₁ h
  obtain ⟨hlast, hlasting'⟩ := h₂ hmiddle
  exact ⟨hlast, hlasting.trans hlasting'⟩

theorem Decided.start : Decided {} where
  closed _ := .start
  numbered _ := nofun
  noted _ := nofun
  level _ := nofun
  locks _ := nofun

/-- A registry that keeps its decisions keeps those of the loaders that use it. -/
theorem Decided.lasting (h : s.Decided) (hclosed : ∀ n, (s'.kindsOf n).Closed)
    (hkinds : ∀ n, (s.kindsOf n).Lasts (s'.kindsOf n)) (hcreated : s'.created = s.created)
    (hnext : s.nextLoader ≤ s'.nextLoader)
    (hparallel : ∀ id, (s'.tablesOf id).locks.parallel = (s.tablesOf id).locks.parallel) :
    s'.Decided ∧ s.Lasting s' := by
  have hmem : ∀ l, l ∈ s'.created → l ∈ s.created := fun l hl => hcreated ▸ hl
  refine ⟨⟨hclosed, fun l hl => ?_, fun l hl => ?_, fun l hl => ?_, fun l hl => ?_⟩,
    hkinds, fun l hl => hcreated.symm ▸ hl⟩
  · exact Nat.lt_of_lt_of_le (h.numbered l (hmem l hl)) hnext
  · exact (hkinds _).instantiated _ (h.noted l (hmem l hl))
  · rw [(hkinds _).decided _ (h.noted l (hmem l hl))]
    exact h.level l (hmem l hl)
  · rw [hparallel]
    exact h.locks l (hmem l hl)

theorem Elsewhere.steady (h : s.Elsewhere s') : s.Steady s' := by
  intro hdecided
  have hkinds : ∀ n, s'.kindsOf n = s.kindsOf n := fun n => by rw [kindsOf, h.kinds, kindsOf]
  refine hdecided.lasting (fun n => ?_) (fun n => ?_) h.created h.nextLoader h.parallel
  · rw [hkinds n]
    exact hdecided.closed n
  · rw [hkinds n]
    exact .refl _

theorem kindsOf_set (s : Loaders) (n n' : Nat) (r : KindRegistry) :
    kindsOf { s with kinds := s.kinds.set n r } n' = if n' = n then r else s.kindsOf n' := by
  simp only [kindsOf, Table.findD, Table.find?_set]
  split <;> rfl

theorem kindsOf_registerKind (s : Loaders) (n n' : Nat) (k : Kind) :
    (s.registerKind n k).2.kindsOf n' =
      if n' = n then ((s.kindsOf n).register k).2 else s.kindsOf n' :=
  kindsOf_set s n n' _

theorem kindsOf_noteKind (s : Loaders) (n n' : Nat) (k : Kind) :
    (s.noteKind n k).2.kindsOf n' =
      if n' = n then ((s.kindsOf n).noteInstance k).2 else s.kindsOf n' :=
  kindsOf_set s n n' _

/-- Entering a kind tells no registry of a loader. -/
theorem instantiated_registerKind (s : Loaders) (n n' : Nat) (k : Kind) :
    ((s.registerKind n k).2.kindsOf n').instantiated = (s.kindsOf n').instantiated := by
  rw [kindsOf_registerKind]
  split
  · rename_i heq
    rw [heq, KindRegistry.instantiated_register]
  · rfl

/-- A note tells one registry of one kind. -/
theorem mem_instantiated_noteKind {n n' : Nat} {k k' : Kind} :
    k' ∈ ((s.noteKind n k).2.kindsOf n').instantiated ↔
      (n' = n ∧ k' = k) ∨ k' ∈ (s.kindsOf n').instantiated := by
  rw [kindsOf_noteKind]
  split
  · rename_i heq
    subst heq
    exact List.mem_cons.trans (by simp)
  · rename_i hne
    simp [hne]

/-- One registry is replaced by a later one. -/
theorem Steady.set {n : Nat} {r : KindRegistry} (hclosed : (s.kindsOf n).Closed → r.Closed)
    (hlasts : (s.kindsOf n).Lasts r) : s.Steady { s with kinds := s.kinds.set n r } := by
  intro h
  refine h.lasting (fun n' => ?_) (fun n' => ?_) rfl (Nat.le_refl _) fun _ => rfl
  · rw [kindsOf_set]
    split
    · exact hclosed (h.closed n)
    · exact h.closed n'
  · rw [kindsOf_set]
    split
    · rename_i heq
      rw [heq]
      exact hlasts
    · exact .refl _

theorem Steady.registerKind (s : Loaders) (n : Nat) (k : Kind) :
    s.Steady (s.registerKind n k).2 :=
  .set (fun h => h.register k) (.register _ k)

theorem Steady.noteKind (s : Loaders) (n : Nat) (k : Kind) : s.Steady (s.noteKind n k).2 :=
  .set (fun h => h.noteInstance k) (.noteInstance _ k)

/-- When a loader is made, its registry is told, and it works as that has decided. -/
theorem Steady.create (k : Kind) (parent : Option Loader) (context : Context) (s : Loaders) :
    s.Steady (s.create k parent context).2 := by
  intro h
  -- The registries are those after the note, and the tables of others are left alone.
  obtain ⟨hdecided, hlasting⟩ := Steady.noteKind s context.registry k h
  have hkinds : ∀ n, (s.create k parent context).2.kindsOf n =
      (s.noteKind context.registry k).2.kindsOf n := fun _ => rfl
  have hmem : ∀ l ∈ (s.create k parent context).2.created,
      l ∈ s.created ∨ l = (s.create k parent context).1 := by
    intro l hl
    rw [created_create, List.mem_append, List.mem_singleton] at hl
    exact hl
  have hdecision : ((s.noteKind context.registry k).2.kindsOf context.registry).isRegistered k =
      (s.kindsOf context.registry).isRegistered k := by
    rw [kindsOf_noteKind, if_pos rfl]
    rfl
  refine ⟨⟨hdecided.closed, fun l hl => ?_, fun l hl => ?_, fun l hl => ?_, fun l hl => ?_⟩,
    hlasting.kinds, fun l hl => ?_⟩
  · rcases hmem l hl with hl | rfl
    · exact Nat.lt_succ_of_lt (h.numbered l hl)
    · rw [id_create]
      exact Nat.lt_succ_self _
  · rw [hkinds]
    rcases hmem l hl with hl | rfl
    · exact hdecided.noted l hl
    · rw [Loader.context, level_create]
      exact mem_instantiated_noteKind.2 (Or.inl ⟨rfl, rfl⟩)
  · rw [hkinds]
    rcases hmem l hl with hl | rfl
    · exact hdecided.level l hl
    · rw [Loader.context, level_create]
      exact hdecision.symm
  · rcases hmem l hl with hl | rfl
    · have hne : l.id ≠ ⟨s.nextLoader⟩ := by
        intro heq
        have hlt := h.numbered l hl
        rw [heq] at hlt
        exact Nat.lt_irrefl _ hlt
      rw [tablesOf_create_of_ne s k parent context hne]
      exact h.locks l hl
    · rw [id_create, tablesOf_create_self, level_create]
      rfl
  · rw [created_create]
    exact List.mem_append_left _ hl

end Loaders

/-! ## Registries as a service -/

/-- An operation that has to do with kinds. -/
inductive KindCall where
  /-- Enter a kind as working in parallel. -/
  | register (registry : Nat) (kind : Kind)
  /-- Is a kind entered? -/
  | isRegistered (registry : Nat) (kind : Kind)
  /-- Tell a registry of a loader. -/
  | note (registry : Nat) (kind : Kind)
  /-- Make a loader below an optional parent. -/
  | create (kind : Kind) (parent : Option Loader) (context : Context)

namespace KindCall

/-- What an operation returns. -/
abbrev Result : KindCall → Type
  | .register _ _ => Bool
  | .isRegistered _ _ => Bool
  | .note _ _ => Bool
  | .create _ _ _ => Except LoadError Loader

/-- How an operation goes. -/
def body : (c : KindCall) → LoaderTask c.Result
  | .register registry kind => transact fun s => s.registerKind registry kind
  | .isRegistered registry kind => observe fun s => (s.kindsOf registry).isRegistered kind
  | .note registry kind => transact fun s => s.noteKind registry kind
  | .create kind parent context => Loader.create kind parent context

/-- What an operation returns is true of the state in which it returns. -/
def Truthful : (c : KindCall) → c.Result → Loaders → Prop
  | .register n k, entered, s => entered = (s.kindsOf n).isRegistered k
  | .isRegistered n k, answer, s => answer = (s.kindsOf n).isRegistered k
  | .note n k, parallel, s =>
      k ∈ (s.kindsOf n).instantiated ∧ parallel = (s.kindsOf n).isRegistered k
  | .create k parent context, made, s => ∀ l, made = .ok l →
      l ∈ s.created ∧ l.level.kind = k ∧ l.parent? = parent ∧ l.context = context

end KindCall

/-- The operations on registries of kinds, with how they go. -/
def kindService : Service Loaders LoaderQuestion LoaderQuestion.Answer where
  Call := KindCall
  Result := KindCall.Result
  body := KindCall.body

/-- A point in time of all registries of kinds. -/
abbrev KindMoment : Type :=
  kindService.Moment

/-- Any operation may be called at any time, the access policy may answer anything, and
what else loaders do has nothing to do with kinds. -/
def kindRules : kindService.Rules where
  mayCall _ _ := True
  mayAnswer _ _ _ := True
  mayChange m s := m.state.Elsewhere s

namespace KindMoment

/-- A registry has been told of a loader of a kind, or has one. -/
def Noted (m : KindMoment) (n : Nat) (k : Kind) : Prop :=
  (∃ x ∈ m.past, ∃ parallel, x.event = .ended (.note n k) parallel) ∨
    ∃ l ∈ m.state.created, l.level.kind = k ∧ l.context.registry = n

/-- Every kind that counts as one with loaders has a loader, or its registry was told of
one. -/
def Accounted (m : KindMoment) : Prop :=
  ∀ n k, k ∈ (m.state.kindsOf n).instantiated →
    (∃ x ∈ m.past, x.event = .began (.note n k)) ∨
      ∃ l ∈ m.state.created, l.level.kind = k ∧ l.context.registry = n

/-- Later, where no registry has been told of another loader. -/
theorem Accounted.later {m m' : KindMoment} (h : m.Accounted) (hpast : m.past <:+ m'.past)
    (hkinds : ∀ n, (m'.state.kindsOf n).instantiated = (m.state.kindsOf n).instantiated)
    (hcreated : m'.state.created = m.state.created) : m'.Accounted := by
  intro n k hk
  rw [hkinds n] at hk
  rw [hcreated]
  rcases h n k hk with ⟨x, hx, hevent⟩ | hloader
  · exact Or.inl ⟨x, hpast.subset hx, hevent⟩
  · exact Or.inr hloader

theorem Accounted.note {m : KindMoment} (h : m.Accounted) (v : kindService.Event) :
    Accounted (m.note v) :=
  h.later (List.suffix_cons _ _) (fun _ => rfl) rfl

/-- A registry is told of a loader by an operation that has begun. -/
theorem Accounted.noteKind {m : KindMoment} (h : m.Accounted) {n : Nat} {k : Kind}
    (hbegan : ∃ x ∈ m.past, x.event = .began (.note n k)) :
    Accounted (m.change (m.state.noteKind n k).2) := by
  intro n' k' hk
  rcases Loaders.mem_instantiated_noteKind.1 hk with ⟨rfl, rfl⟩ | hk
  · obtain ⟨x, hx, hevent⟩ := hbegan
    exact Or.inl ⟨x, List.mem_cons_of_mem _ hx, hevent⟩
  · rcases h n' k' hk with ⟨x, hx, hevent⟩ | hloader
    · exact Or.inl ⟨x, List.mem_cons_of_mem _ hx, hevent⟩
    · exact Or.inr hloader

/-- A loader that is made accounts for its kind. -/
theorem Accounted.create {m : KindMoment} (h : m.Accounted) (k : Kind)
    (parent : Option Loader) (context : Context) :
    Accounted (m.change (m.state.create k parent context).2) := by
  intro n' k' hk
  rcases Loaders.mem_instantiated_noteKind.1 hk with ⟨rfl, rfl⟩ | hk
  · refine Or.inr ⟨(m.state.create k' parent context).1,
      List.mem_append_right _ (List.mem_singleton_self _), ?_⟩
    rw [Loader.context, Loaders.level_create]
    exact ⟨rfl, rfl⟩
  · rcases h n' k' hk with ⟨x, hx, hevent⟩ | ⟨l, hl, hlevel⟩
    · exact Or.inl ⟨x, List.mem_cons_of_mem _ hx, hevent⟩
    · exact Or.inr ⟨l, List.mem_append_left _ hl, hlevel⟩

end KindMoment

namespace KindCall

/-- What is known of an operation that was called at one moment and returns at another:
it tells the truth, and if the access policy has refused a loader, the state is the one
that the policy left, and was left to the policy as it was found. -/
def Returns (c : KindCall) (e m : KindMoment) (r : c.Result) : Prop :=
  c.Truthful r m.state ∧
    match c, r with
    | .create k parent context, .error refusal =>
        ∃ between, m.past =
          ⟨.answered (.mayCreate context.key k) (.error refusal), m.state⟩ :: (between ++
            ⟨.asked (.mayCreate context.key k), e.state⟩ ::
              ⟨.began (.create k parent context), e.state⟩ :: e.past)
    | _, _ => True

end KindCall

open KindMoment in
/-- Where outside code has the word, every kind that counts as one with loaders is
accounted for; operations return what is true. -/
def kindDiscipline : Discipline kindService where
  rules := kindRules
  Inv := Accounted
  Stable m m' := m.past <:+ m'.past
  asking _ _ _ _ := True
  returning c e m r := KindCall.Returns c e m r
  refl m := List.suffix_refl _
  trans h₁ h₂ := h₁.trans h₂
  outside {m s} h hchange := by
    have hkinds : ∀ n, s.kindsOf n = m.state.kindsOf n := fun n => by
      rw [Loaders.kindsOf, hchange.kinds, Loaders.kindsOf]
    have hpast : m.past <:+ (m.change s).past := List.suffix_cons _ _
    exact ⟨h.later hpast (fun n => congrArg _ (hkinds n)) hchange.created, hpast⟩
  keeps {m c} h _ := by
    have hpast : ∀ x y z, m.past <:+ x :: y :: z :: m.past := fun x y z => ⟨[x, y, z], rfl⟩
    have hbegan : Accounted (m.note (.began c)) := h.note _
    cases c with
    | register n k =>
        refine ⟨⟨?_, trivial⟩, ?_, hpast _ _ _⟩
        · show (m.state.registerKind n k).1 =
            ((m.state.registerKind n k).2.kindsOf n).isRegistered k
          rw [Loaders.kindsOf_registerKind, if_pos rfl]
          exact KindRegistry.register_fst _ k
        · exact h.later (hpast _ _ _)
            (fun n' => Loaders.instantiated_registerKind m.state n n' k) rfl
    | isRegistered n k =>
        exact ⟨⟨Eq.refl ((m.state.kindsOf n).isRegistered k), trivial⟩,
          h.later (hpast _ _ _) (fun _ => rfl) rfl, hpast _ _ _⟩
    | note n k =>
        refine ⟨⟨⟨?_, ?_⟩, trivial⟩, ?_, hpast _ _ _⟩
        · exact Loaders.mem_instantiated_noteKind.2 (Or.inl ⟨rfl, rfl⟩)
        · show (m.state.noteKind n k).1 = ((m.state.noteKind n k).2.kindsOf n).isRegistered k
          rw [Loaders.kindsOf_noteKind, if_pos rfl]
          rfl
        · exact (hbegan.noteKind ⟨_, List.mem_cons_self, rfl⟩).note _
    | create k parent context =>
        refine ⟨⟨hbegan.note _, trivial⟩, fun m' a hm' hlater _ => ?_⟩
        have hpast' : m.past <:+ m'.past :=
          .trans ⟨[⟨.asked _, m.state⟩, ⟨.began _, m.state⟩], rfl⟩ hlater
        obtain ⟨between, hbetween⟩ := hlater
        cases a with
        | error refusal =>
            exact ⟨⟨nofun, between, congrArg _ hbetween.symm⟩, (Accounted.note hm' _).note _,
              hpast'.trans ⟨[_, _], rfl⟩⟩
        | ok =>
            refine ⟨⟨?_, trivial⟩, ((Accounted.note hm' _).create k parent context).note _,
              hpast'.trans ⟨[_, _, _], rfl⟩⟩
            rintro l hl
            obtain rfl := Except.ok.inj hl
            refine ⟨List.mem_append_right _ (List.mem_singleton_self _), ?_⟩
            exact ⟨congrArg Level.kind (Loaders.level_create m'.state k parent context),
              Loaders.parent?_create m'.state k parent context,
              congrArg Level.context (Loaders.level_create m'.state k parent context)⟩

/-! ## Whole sessions -/

/-- Every operation acts so that decisions are kept. -/
theorem acts_steady (c : KindCall) : c.body.Acts Loaders.Steady := by
  cases c with
  | register n k => exact fun s => ⟨.registerKind s n k, trivial⟩
  | isRegistered n k => exact fun s => ⟨.refl s, trivial⟩
  | note n k => exact fun s => ⟨.noteKind s n k, trivial⟩
  | create k parent context =>
      intro a
      cases a with
      | error refusal => trivial
      | ok => exact fun s => ⟨.create k parent context s, trivial⟩

/-- What any session shows of the decisions on kinds, between two moments. -/
structure DecidedOnce (b m : KindMoment) : Prop where
  /-- With a kind, the whole chain of kinds above it is entered. -/
  closed : ∀ n, (m.state.kindsOf n).Closed
  /-- What is entered stays entered. -/
  grows : ∀ n k, (b.state.kindsOf n).isRegistered k = true →
    (m.state.kindsOf n).isRegistered k = true
  /-- What operations have returned was true when they did. -/
  truthful : ∀ x ∈ m.past, ∀ c r, x.event = .ended c r → KindCall.Truthful c r x.state
  /-- A kind of which a registry has been told is entered or not for ever. -/
  fixed : ∀ n k, b.Noted n k →
    (m.state.kindsOf n).isRegistered k = (b.state.kindsOf n).isRegistered k
  /-- All that tell a registry of a kind hear the same. -/
  notes : ∀ x ∈ m.past, ∀ n k parallel, x.event = .ended (.note n k) parallel →
    parallel = (m.state.kindsOf n).isRegistered k
  /-- All loaders of the kind work that way. -/
  loaders : ∀ l ∈ m.state.created,
    l.level.parallel = (m.state.kindsOf l.context.registry).isRegistered l.level.kind ∧
      (m.state.tablesOf l.id).locks.parallel = l.level.parallel
  /-- A loader that was refused has left everything as the access policy did, and that found
  it as it was.  Unless there is another loader of the kind or somebody told the registry of
  one, the kind can still be entered as soon as the one above it is. -/
  refused : ∀ newer x older, m.past = newer ++ x :: older → ∀ k parent context e,
    x.event = .ended (.create k parent context) (.error e) →
      (∃ between s begun, older =
        ⟨.answered (.mayCreate context.key k) (.error e), x.state⟩ :: (between ++
          ⟨.asked (.mayCreate context.key k), s⟩ ::
            ⟨.began (.create k parent context), s⟩ :: begun) ∧ (between = [] → x.state = s)) ∧
      ((∀ y ∈ older, y.event ≠ .began (.note context.registry k)) →
        (∀ l ∈ x.state.created, l.level.kind = k → l.context.registry ≠ context.registry) →
        ((x.state.registerKind context.registry k).1 = true ↔
          ∀ a ∈ k.super?, (x.state.kindsOf context.registry).isRegistered a = true))

section Sessions

variable {σ τ : kindService.Session}

/-- From any moment to a later one, loaders work as decided and all decisions are kept. -/
theorem steady_of_reaches (hσ : Reaches kindRules (.start {}) σ) (hτ : Reaches kindRules σ τ) :
    σ.now.state.Decided ∧ τ.now.state.Decided ∧ σ.now.state.Lasting τ.now.state := by
  have hall : ∀ {ρ}, Reaches kindRules (.start {}) ρ →
      Loaders.Steady {} ρ.now.state ∧ ∀ x ∈ ρ.now.past, x.state.Steady ρ.now.state := fun hρ =>
    hρ.respects Loaders.Steady.refl Loaders.Steady.trans acts_steady
      fun _ _ hchange => Loaders.Elsewhere.steady hchange
  obtain ⟨hstart, hpast⟩ := hall (hσ.trans hτ)
  have hdecided := ((hall hσ).1 .start).1
  have hsteady : σ.now.state.Steady τ.now.state := by
    rcases hσ.now_state with heq | ⟨x, older, heq, hstate⟩
    · rw [heq]
      exact hstart
    · rw [← hstate]
      exact hpast x (hτ.past.subset (heq ▸ List.mem_cons_self))
  exact ⟨hdecided, hsteady hdecided⟩

/-- What an operation has returned was true, and stays what it was about. -/
theorem returned_truthful (hσ : Reaches kindRules (.start {}) σ) {x : kindService.Entry}
    (hx : x ∈ σ.now.past) {c : KindCall} {r : c.Result} (hevent : x.event = .ended c r) :
    c.Truthful r x.state ∧ x.state.Lasting σ.now.state := by
  obtain ⟨newer, older, hpast⟩ := List.append_of_mem hx
  obtain ⟨e, ⟨htruthful, -⟩, -⟩ :=
    kindDiscipline.returned (fun _ _ hk => absurd hk List.not_mem_nil) hσ hpast hevent
  obtain ⟨ρ, hρ, hρσ, hstate⟩ := hσ.visited hx
  exact ⟨htruthful, hstate ▸ (steady_of_reaches hρ hρσ).2.2⟩

/-- In any session that starts without loaders, whether a kind works in parallel is decided
once. -/
theorem decided_once (hσ : Reaches kindRules (.start {}) σ) (hτ : Reaches kindRules σ τ) :
    DecidedOnce σ.now τ.now := by
  have hall : Reaches kindRules (.start {}) τ := hσ.trans hτ
  obtain ⟨hbefore, hafter, hlasting⟩ := steady_of_reaches hσ hτ
  refine ⟨hafter.closed, fun n => (hlasting.kinds n).registered, ?_, ?_, ?_, ?_, ?_⟩
  · exact fun x hx c r hevent => (returned_truthful hall hx hevent).1
  · intro n k hnoted
    refine (hlasting.kinds n).decided k ?_
    rcases hnoted with ⟨x, hx, parallel, hevent⟩ | ⟨l, hl, rfl, rfl⟩
    · obtain ⟨htruthful, hkept⟩ := returned_truthful hσ hx hevent
      exact (hkept.kinds n).instantiated k htruthful.1
    · exact hbefore.noted l hl
  · intro x hx n k parallel hevent
    obtain ⟨⟨hnoted, heq⟩, hkept⟩ := returned_truthful hall hx hevent
    rw [heq, (hkept.kinds n).decided k hnoted]
  · exact fun l hl => ⟨hafter.level l hl, hafter.locks l hl⟩
  · intro newer x older hpast k parent context e hevent
    have hx : x ∈ τ.now.past := hpast ▸ List.mem_append_right _ List.mem_cons_self
    obtain ⟨ρ, hρ, -, hstate⟩ := hall.visited hx
    have hclosed : (x.state.kindsOf context.registry).Closed :=
      hstate ▸ (steady_of_reaches hρ .refl).1.closed _
    obtain ⟨entry, ⟨-, between, holder⟩, haccounted, -⟩ :=
      kindDiscipline.returned (fun _ _ hk => absurd hk List.not_mem_nil) hall hpast hevent
    refine ⟨⟨between, entry.state, entry.past, holder, fun hbetween => ?_⟩,
      fun hnotes hloaders => ?_⟩
    · subst hbetween
      refine Reaches.unchanged hall ((hpast.trans (congrArg _ (congrArg _ holder))).trans
        (List.append_cons newer x _)) (fun heq => by cases heq)
    -- Nobody else has told the registry of a loader of the kind.
    have hfree : k ∉ (x.state.kindsOf context.registry).instantiated := by
      intro hk
      rcases haccounted _ k hk with ⟨y, hy, hbegan⟩ | ⟨l, hl, hkind, hregistry⟩
      · rcases List.mem_cons.1 hy with rfl | hy
        · cases hbegan
        · exact hnotes y hy hbegan
      · exact hloaders l hl hkind hregistry
    refine KindRegistry.register_fst_iff.trans ⟨?_, fun hsuper => ?_⟩
    · rintro (hregistered | hadmits) a ha
      · exact hclosed.supers k hregistered a (Kind.mem_supers ha)
      · exact (KindRegistry.admits_iff.1 hadmits).2 a ha
    · exact Or.inr (KindRegistry.admits_iff.2 ⟨hfree, hsuper⟩)

end Sessions

/-! ## A loader that is refused and made later -/

/-- A kind right below the one that every registry knows. -/
def quick : Kind := .extending 1 "Quick" .base

/-- A kind below that. -/
def quicker : Kind := .extending 2 "Quicker" quick

/-- A kind cannot be entered before the one above it.  The access policy enters that one
before it refuses a loader of it, and then both are entered. -/
def refusing : List kindService.Move :=
  [.call (.register 0 quicker), .finish,
    .call (.create quick none {}), .call (.register 0 quick), .finish,
    .answer (.mayCreate 0 quick) (.error (.accessDenied "no")), .finish,
    .call (.register 0 quicker), .finish]

/-- After that a loader is permitted, and the registry is told of another one. -/
def permitting : List kindService.Move :=
  [.call (.create quick none {}), .answer (.mayCreate 0 quick) (.ok ()), .finish,
    .call (.note 0 quick), .finish]

/-- Moves that change nothing without an operation are allowed. -/
theorem kindRules_allowsAll {moves : List kindService.Move}
    (h : ∀ mv ∈ moves, ∀ s, mv ≠ .change s) (σ : kindService.Session) :
    kindRules.AllowsAll moves σ := by
  induction moves generalizing σ with
  | nil => trivial
  | cons mv rest ih =>
      refine ⟨?_, fun τ _ => ih (fun mv hmv => h mv (List.mem_cons_of_mem _ hmv)) τ⟩
      cases mv with
      | call c => trivial
      | answer q a => trivial
      | finish => trivial
      | change s => exact absurd rfl (h _ List.mem_cons_self s)

theorem refusing_allowed (σ : kindService.Session) : kindRules.AllowsAll refusing σ :=
  kindRules_allowsAll (by simp [refusing]) σ

theorem permitting_allowed (σ : kindService.Session) : kindRules.AllowsAll permitting σ :=
  kindRules_allowsAll (by simp [permitting]) σ

/-- The kind was refused a loader first, and its loaders work in parallel after all. -/
theorem decided_once_refusing : ∃ σ τ : kindService.Session,
    Session.play refusing (.start {}) = some σ ∧ Session.play permitting σ = some τ ∧
      DecidedOnce σ.now τ.now ∧
      (σ.now.state.kindsOf 0).isRegistered quicker = true ∧
      τ.now.past.head?.map (·.event) = some (.ended (.note 0 quick) true) ∧
      τ.now.state.created = [.root ⟨⟨1⟩, quick, true, {}⟩] := by
  refine ⟨_, _, rfl, rfl, decided_once ?_ ?_, rfl, rfl, rfl⟩
  · exact reaches_of_play (refusing_allowed _) rfl
  · exact reaches_of_play (permitting_allowed _) rfl

end Loading
