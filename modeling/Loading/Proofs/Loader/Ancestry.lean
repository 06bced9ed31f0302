import Loading.Proofs.Loader.Remembering
import Mathlib.Data.List.Perm.Subperm

/-!
# Ancestry

Whether a loader is above another one is found out by going up from the other one and
comparing numbers.  A loader keeps its parent for ever, its number is greater than those of
all loaders made before, and a parent must have been made before its children.  So the way
up ends, numbers tell as much as loaders do, and ancestry is a strict order in which the
loaders above any one loader stand in a line.

* `Loader.climb` — the way up, one loader in each turn; `Loader.climb_eq` — it ends.
* `Loader.mem_ancestors_iff` — the loaders above a loader, as a closure.
* `Loaders.Founded.isAncestorOf_iff` — numbers tell as much as loaders do.
* `ancestry_ordered` — what holds in every hierarchy, however it was made.
-/

namespace Loading

open Service

/-! ## The way up -/

namespace Loader

variable {a b l : Loader}

/-- A loader stands directly above another one. -/
def IsParentOf (a l : Loader) : Prop :=
  l.parent? = some a

/-- Looks for a loader by its number, one loader in each turn, from some loader on upwards
or from above a root; no answer when the turns are used up before. -/
def climb (a : Loader) : Nat → Option Loader → Option Bool
  | _, none => some false
  | 0, some _ => none
  | turns + 1, some l => if l.id = a.id then some true else a.climb turns l.parent?

theorem isAncestorOf_child (a : Loader) (level : Level) (parent : Loader) :
    a.isAncestorOf (.child level parent) =
      (decide (parent.id = a.id) || a.isAncestorOf parent) := rfl

/-- With as many turns as there are loaders above, the way up ends with the answer. -/
theorem climb_eq {turns : Nat} (h : l.ancestors.length ≤ turns) :
    a.climb turns l.parent? = some (a.isAncestorOf l) := by
  induction l generalizing turns with
  | root level => cases turns <;> rfl
  | child level parent ih =>
      obtain ⟨turns, rfl⟩ : ∃ t, turns = t + 1 := Nat.exists_eq_add_one.2 (Nat.zero_lt_of_lt h)
      rw [isAncestorOf_child]
      show (if parent.id = a.id then some true else a.climb turns parent.parent?) = _
      split
      · rename_i hid
        rw [decide_eq_true hid, Bool.true_or]
      · rename_i hid
        rw [decide_eq_false hid, Bool.false_or]
        exact ih (Nat.le_of_succ_le_succ h)

/-- The loaders above a loader are those that lead down to it. -/
theorem mem_ancestors_iff : a ∈ l.ancestors ↔ Relation.TransGen IsParentOf a l := by
  constructor
  · intro h
    induction l with
    | root level => cases h
    | child level parent ih =>
        rcases List.mem_cons.1 h with rfl | h
        · exact .single rfl
        · exact .tail (ih h) rfl
  · have hparent : ∀ {p c : Loader}, p.IsParentOf c → c.ancestors = p :: p.ancestors := by
      intro p c h
      cases c with
      | root level => cases h
      | child level parent => exact Option.some.inj h ▸ rfl
    intro h
    induction h with
    | single hfirst => exact hparent hfirst ▸ List.mem_cons_self
    | tail _ hlast ih => exact hparent hlast ▸ List.mem_cons_of_mem _ ih

/-- Of two loaders above a third, one is above the other. -/
theorem ancestors_comparable (ha : a ∈ l.ancestors) (hb : b ∈ l.ancestors) :
    a = b ∨ a ∈ b.ancestors ∨ b ∈ a.ancestors := by
  induction l with
  | root level => cases ha
  | child level parent ih =>
      rcases List.mem_cons.1 ha with rfl | ha <;> rcases List.mem_cons.1 hb with rfl | hb
      · exact Or.inl rfl
      · exact Or.inr (Or.inr hb)
      · exact Or.inr (Or.inl ha)
      · exact ih ha hb

end Loader

/-! ## Hierarchies -/

namespace Loaders.Founded

variable {s : Loaders} {a l : Loader}

/-- There are fewer loaders above a loader than have been made. -/
theorem length_ancestors_lt (h : s.Founded) (hl : l ∈ s.created) :
    l.ancestors.length < s.created.length := by
  have hnodup : l.path.Nodup := .of_map _ (h.nodup_path hl)
  exact (List.subperm_of_subset hnodup (h.path_created l hl)).length_le

/-- Numbers tell as much as loaders do. -/
theorem isAncestorOf_iff (h : s.Founded) (ha : a ∈ s.created) (hl : l ∈ s.created) :
    a.isAncestorOf l = true ↔ a ∈ l.ancestors := by
  unfold Loader.isAncestorOf
  rw [List.any_eq_true]
  constructor
  · rintro ⟨b, hb, hid⟩
    have heq := h.id_inj b (h.ancestor_created hl hb) a ha (of_decide_eq_true hid)
    exact heq ▸ hb
  · exact fun hmem => ⟨a, hmem, decide_eq_true rfl⟩

end Loaders.Founded

/-- Ancestry is a strict order on the loaders that have been made. -/
structure Loaders.Ordered (s : Loaders) : Prop where
  /-- The way up ends, after no more turns than there are loaders. -/
  ends : ∀ a : Loader, ∀ l ∈ s.created, ∀ turns, s.created.length ≤ turns →
    a.climb turns l.parent? = some (a.isAncestorOf l)
  /-- The loaders above a loader are its parent, the parent's parent, and so on. -/
  closure : ∀ a ∈ s.created, ∀ l ∈ s.created,
    (a.isAncestorOf l = true ↔ Relation.TransGen Loader.IsParentOf a l)
  /-- No loader is above itself. -/
  irrefl : ∀ l ∈ s.created, l.isAncestorOf l = false
  /-- What is above a loader above another one is above that one. -/
  trans : ∀ a ∈ s.created, ∀ b ∈ s.created, ∀ l ∈ s.created,
    a.isAncestorOf b = true → b.isAncestorOf l = true → a.isAncestorOf l = true
  /-- No two loaders are above each other. -/
  asymm : ∀ a ∈ s.created, ∀ l ∈ s.created, a.isAncestorOf l = true → l.isAncestorOf a = false
  /-- The loaders above a loader stand in a line. -/
  comparable : ∀ a ∈ s.created, ∀ b ∈ s.created, ∀ l ∈ s.created,
    a.isAncestorOf l = true → b.isAncestorOf l = true →
      a = b ∨ a.isAncestorOf b = true ∨ b.isAncestorOf a = true
  /-- The numbers go down on the way up. -/
  descends : ∀ a ∈ s.created, ∀ l ∈ s.created, a.isAncestorOf l = true → a.id.val < l.id.val

theorem Loaders.Founded.ordered {s : Loaders} (h : s.Founded) : s.Ordered := by
  have hclosure : ∀ a ∈ s.created, ∀ l ∈ s.created,
      (a.isAncestorOf l = true ↔ Relation.TransGen Loader.IsParentOf a l) :=
    fun a ha l hl => (h.isAncestorOf_iff ha hl).trans Loader.mem_ancestors_iff
  have hdescends : ∀ a ∈ s.created, ∀ l ∈ s.created, a.isAncestorOf l = true →
      a.id.val < l.id.val :=
    fun a ha l hl habove => h.descending l hl a ((h.isAncestorOf_iff ha hl).1 habove)
  have htrans : ∀ a ∈ s.created, ∀ b ∈ s.created, ∀ l ∈ s.created,
      a.isAncestorOf b = true → b.isAncestorOf l = true → a.isAncestorOf l = true :=
    fun a ha b hb l hl hab hbl =>
      (hclosure a ha l hl).2 (((hclosure a ha b hb).1 hab).trans ((hclosure b hb l hl).1 hbl))
  have hirrefl : ∀ l ∈ s.created, l.isAncestorOf l = false := by
    intro l hl
    rw [← Bool.not_eq_true]
    exact fun habove => Nat.lt_irrefl _ (hdescends l hl l hl habove)
  refine ⟨fun a l hl turns hturns => ?_, hclosure, hirrefl, htrans, ?_, ?_, hdescends⟩
  · exact Loader.climb_eq (Nat.le_of_lt (Nat.lt_of_lt_of_le (h.length_ancestors_lt hl) hturns))
  · intro a ha l hl hal
    rw [← Bool.not_eq_true]
    exact fun hla => Bool.false_ne_true ((hirrefl a ha).symm.trans (htrans a ha l hl a ha hal hla))
  · intro a ha b hb l hl hal hbl
    rw [h.isAncestorOf_iff ha hb, h.isAncestorOf_iff hb ha]
    exact Loader.ancestors_comparable ((h.isAncestorOf_iff ha hl).1 hal)
      ((h.isAncestorOf_iff hb hl).1 hbl)

/-- However loaders are made below loaders that have been made before, permitted or refused,
one by one or while the permission for another one is asked for, and whatever else is done
with them: whenever outside code can ask for it, ancestry is a strict order. -/
theorem ancestry_ordered {σ : loaderService.Session} (h : Reaches anyAnswers (.start {}) σ)
    (idle : Idle σ.frames = true) : σ.now.state.Ordered :=
  ((upheld_remembering h).inv idle).founded.ordered

/-! ## A loader that is made while another one is -/

/-- A loader below the second child of the first one. -/
def lowest : Loader := .child ⟨⟨4⟩, .base, true, {}⟩ (.child ⟨⟨3⟩, .base, true, {}⟩ solitary)

/-- A root is made, and two loaders below it: one while the permission for the other is asked
for.  Another one is refused, and one is made below the second child. -/
def raising : List loaderService.Move :=
  [.call (.create .base none {}), .answer (.mayCreate 0 .base) (.ok ()), .finish,
    .call (.create .base (some solitary) {}),
    .call (.create .base (some solitary) {}), .answer (.mayCreate 0 .base) (.ok ()), .finish,
    .answer (.mayCreate 0 .base) (.ok ()), .finish,
    .call (.create .base (some sheltered) {}),
    .answer (.mayCreate 0 .base) (.error (.accessDenied "create")), .finish,
    .call (.create .base lowest.parent? {}), .answer (.mayCreate 0 .base) (.ok ()), .finish]

theorem raising_allowed : anyAnswers.AllowsAll raising (.start {}) := by
  unfold raising
  repeat' refine allowsAll_cons ?_ rfl ?_
  all_goals first
    | trivial
    | exact mayCall_of_none rfl
    | exact mayCall_of_mem rfl (by decide)

/-- The root is above the last loader, and the first child, which has a smaller number, is
not. -/
theorem ancestry_ordered_siblings :
    ∃ σ, Session.play raising (.start {}) = some σ ∧ σ.now.state.Ordered ∧
      Relation.TransGen Loader.IsParentOf solitary lowest ∧
      ¬ Relation.TransGen Loader.IsParentOf sheltered lowest := by
  have hordered := ancestry_ordered (reaches_of_play raising_allowed rfl) rfl
  refine ⟨_, rfl, hordered, ?_, ?_⟩
  · exact (hordered.closure solitary (by decide) lowest (by decide)).1 (by decide)
  · exact fun h => absurd ((hordered.closure sheltered (by decide) lowest (by decide)).2 h)
      (by decide)

end Loading
