import Loading.Library.Registry
import Mathlib.Data.List.Nodup

/-!
# Who owns a native library

The registry keeps three records of its libraries: the owners by name, the lists
of the scopes, and the names in flight.  They change at different times, but
never out of step.  `Orderly` says how they belong together, for a program that
uses one list for each scope, and every change that an operation makes keeps a
registry orderly.

* `Orderly.owner?_eq_some_iff` — a name has an owner exactly when one library of
  that name is on all lists together, and then it is on the owner's list.
* `Orderly.begin`, `Orderly.register`, `Orderly.finish`, `Orderly.withdraw`,
  `Orderly.retire` — the changes keep a registry orderly.
-/

namespace Loading

/-- The lists that a program uses: those of the whole process, and no two of one
scope. -/
structure OneListPerScope (used : Shelf → Prop) : Prop where
  /-- The list of the built-in libraries is used. -/
  builtin : used .builtin
  /-- The list of the libraries of the process is used. -/
  system : used .system
  /-- A scope has one list. -/
  unique : ∀ {s t : Shelf}, used s → used t → s.scope = t.scope → s = t

/-- The lists that the scopes have by themselves are one for each scope. -/
theorem oneListPerScope_own : OneListPerScope fun s => s.serial = 0 where
  builtin := rfl
  system := rfl
  unique {s t} hs ht hscope := by
    cases s
    cases t
    simp_all

namespace LibraryRegistry

/-- The names in flight, newest first. -/
def inFlight (r : LibraryRegistry) : List String :=
  r.pending.map (·.name)

/-- One library of the name is on all lists together, and it is on a list of the
scope. -/
def HoldsOnly (r : LibraryRegistry) (name : String) (scope : Scope) : Prop :=
  ∃ s : Shelf, s.scope = scope ∧ (r.names s).count name = 1 ∧ ∀ t, t ≠ s → name ∉ r.names t

/-- No name is on two lists. -/
def Apart (r : LibraryRegistry) : Prop :=
  ∀ (s t : Shelf) (name : String), name ∈ r.names s → name ∈ r.names t → s = t

/-! ## What the changes do to the views -/

section Views

variable (r : LibraryRegistry) (name : String) (scope : Scope) (handle : Handle) (s t : Shelf)
  (builtin : Bool) (l : Library)

@[simp] theorem onShelf_begin : (r.begin name scope).onShelf t = r.onShelf t := rfl

@[simp] theorem onShelf_finish : r.finish.onShelf t = r.onShelf t := rfl

@[simp] theorem onShelf_retire : (r.retire l).onShelf t = r.onShelf t := rfl

theorem onShelf_register :
    (r.register name handle s builtin).onShelf t =
      if t = s then r.onShelf s ++ [⟨r.next, name, handle, s.scope, builtin⟩]
      else r.onShelf t := by
  unfold register onShelf Table.findD
  rw [Table.find?_set]
  split <;> rfl

/-- On a list are the libraries that were there, and the one that is registered on it. -/
theorem mem_onShelf_register {r : LibraryRegistry} {name : String} {handle : Handle} {s t : Shelf}
    {builtin : Bool} {l : Library} : l ∈ (r.register name handle s builtin).onShelf t ↔
      l ∈ r.onShelf t ∨ t = s ∧ l = ⟨r.next, name, handle, s.scope, builtin⟩ := by
  rw [onShelf_register]
  split
  · rename_i hts
    rw [hts, List.mem_append, List.mem_singleton, and_iff_right rfl]
  · rename_i hts
    exact (or_iff_left fun h => hts h.1).symm

theorem onShelf_withdraw :
    (r.withdraw s l).onShelf t = if t = s then (r.onShelf s).erase l else r.onShelf t := by
  unfold withdraw onShelf Table.findD
  rw [Table.find?_set]
  split <;> rfl

/-- Only the library that is taken leaves its list. -/
theorem mem_onShelf_withdraw_of_ne {r : LibraryRegistry} {s t : Shelf} {l k : Library}
    (hne : k ≠ l) : k ∈ (r.withdraw s l).onShelf t ↔ k ∈ r.onShelf t := by
  rw [onShelf_withdraw]
  split
  · rename_i hts
    rw [List.mem_erase_of_ne hne, hts]
  · rfl

theorem mem_onShelf_of_withdraw {r : LibraryRegistry} {s t : Shelf} {l k : Library}
    (h : k ∈ (r.withdraw s l).onShelf t) : k ∈ r.onShelf t := by
  rw [onShelf_withdraw] at h
  split at h
  · rename_i hts
    exact hts ▸ List.mem_of_mem_erase h
  · exact h

@[simp] theorem owner?_begin : (r.begin name scope).owner? = r.owner? := rfl

@[simp] theorem owner?_finish : r.finish.owner? = r.owner? := rfl

@[simp] theorem owner?_retire : (r.retire l).owner? = r.owner? := rfl

theorem owner?_register (n : String) :
    (r.register name handle s builtin).owner? n = if n = name then some s.scope else r.owner? n :=
  Table.find?_set ..

theorem owner?_withdraw (n : String) :
    (r.withdraw s l).owner? n = if n = l.name then none else r.owner? n :=
  Table.find?_erase ..

@[simp] theorem inFlight_begin : (r.begin name scope).inFlight = name :: r.inFlight := rfl

@[simp] theorem inFlight_register :
    (r.register name handle s builtin).inFlight = r.inFlight := rfl

@[simp] theorem inFlight_finish : r.finish.inFlight = r.inFlight.tail := by
  simp [inFlight, finish, List.map_tail]

@[simp] theorem inFlight_withdraw : (r.withdraw s l).inFlight = l.name :: r.inFlight := rfl

@[simp] theorem inFlight_retire : (r.retire l).inFlight = r.inFlight.tail := inFlight_finish r

end Views

theorem mem_names {r : LibraryRegistry} {s : Shelf} {name : String} :
    name ∈ r.names s ↔ ∃ l ∈ r.onShelf s, l.name = name := by
  simp [names]

/-- A name is granted only if it is on no list of the scope, has no owner and is not
in flight. -/
theorem admission_eq_granted {r : LibraryRegistry} {name : String} {s : Shelf}
    (h : r.admission name s = .granted) : r.owner? name = none ∧ name ∉ r.inFlight := by
  unfold admission at h
  split at h
  · simp at h
  · split at h
    · simp at h
    · rename_i howner
      refine ⟨howner, ?_⟩
      split at h
      · split at h <;> simp at h
      · rename_i hpending
        intro hmem
        obtain ⟨p, hp, hname⟩ := List.mem_map.1 hmem
        simp only [pendingScope?, Option.map_eq_none_iff, List.find?_eq_none] at hpending
        exact absurd hname (by simpa using hpending p (by simpa using hp))

/-! ## Orderly registries -/

/-- How the owners, the lists and the names in flight belong together. -/
structure Orderly (used : Shelf → Prop) (r : LibraryRegistry) : Prop where
  /-- Only the lists in use hold libraries. -/
  used_of_mem : ∀ {s l}, l ∈ r.onShelf s → used s
  /-- The scope of a list owns what is on it. -/
  owner_of_mem : ∀ {s l}, l ∈ r.onShelf s → r.owner? l.name = some s.scope
  /-- What has an owner is on a list of that scope. -/
  mem_of_owner : ∀ {name scope}, r.owner? name = some scope →
    ∃ s : Shelf, s.scope = scope ∧ name ∈ r.names s
  /-- No list holds two libraries of one name. -/
  names_nodup : ∀ s, (r.names s).Nodup
  /-- No name is in flight twice. -/
  inFlight_nodup : r.inFlight.Nodup
  /-- What is in flight has no owner. -/
  inFlight_free : ∀ name ∈ r.inFlight, r.owner? name = none

namespace Orderly

variable {used : Shelf → Prop} {r : LibraryRegistry}

/-- The registry of a new process is orderly. -/
theorem empty : Orderly used {} where
  used_of_mem h := by simp [onShelf, Table.findD, Table.find?] at h
  owner_of_mem h := by simp [onShelf, Table.findD, Table.find?] at h
  mem_of_owner h := by simp [owner?, Table.find?] at h
  names_nodup s := by simp [names, onShelf, Table.findD, Table.find?]
  inFlight_nodup := by simp [inFlight]
  inFlight_free := by simp [inFlight]

/-- Where a scope has one list, a name is on one list only. -/
theorem apart (hused : OneListPerScope used) (h : Orderly used r) : r.Apart := by
  intro s t name hs ht
  obtain ⟨l, hl, rfl⟩ := mem_names.1 hs
  obtain ⟨k, hk, hname⟩ := mem_names.1 ht
  have hscope : some s.scope = some t.scope := by
    rw [← h.owner_of_mem hl, ← h.owner_of_mem hk, hname]
  exact hused.unique (h.used_of_mem hl) (h.used_of_mem hk) (Option.some.inj hscope)

/-- Two libraries of one name on the lists are one. -/
theorem eq_of_mem (hapart : r.Apart) (h : Orderly used r) {s t : Shelf}
    {l k : Library} (hl : l ∈ r.onShelf s) (hk : k ∈ r.onShelf t) (hname : l.name = k.name) :
    l = k := by
  have hst : s = t :=
    hapart s t k.name (mem_names.2 ⟨l, hl, hname⟩) (mem_names.2 ⟨k, hk, rfl⟩)
  subst hst
  exact List.inj_on_of_nodup_map (h.names_nodup s) hl hk hname

/-- A name has an owner exactly when one library of that name is on all lists
together, and then it is on the owner's list. -/
theorem owner?_eq_some_iff (hused : OneListPerScope used) (h : Orderly used r) {name : String}
    {scope : Scope} : r.owner? name = some scope ↔ r.HoldsOnly name scope := by
  constructor
  · intro howner
    obtain ⟨s, hscope, hmem⟩ := h.mem_of_owner howner
    refine ⟨s, hscope, List.count_eq_one_of_mem (h.names_nodup s) hmem, ?_⟩
    intro t hne ht
    exact hne (h.apart hused t s name ht hmem)
  · rintro ⟨s, rfl, hcount, -⟩
    have hmem : name ∈ r.names s := List.count_pos_iff.1 (by omega)
    obtain ⟨l, hl, rfl⟩ := mem_names.1 hmem
    exact h.owner_of_mem hl

/-- Putting a name in flight that is free keeps a registry orderly. -/
theorem begin (h : Orderly used r) {name : String} {scope : Scope}
    (howner : r.owner? name = none) (hfree : name ∉ r.inFlight) :
    Orderly used (r.begin name scope) where
  used_of_mem := h.used_of_mem
  owner_of_mem := h.owner_of_mem
  mem_of_owner := h.mem_of_owner
  names_nodup := h.names_nodup
  inFlight_nodup := by
    rw [inFlight_begin]
    exact List.nodup_cons.2 ⟨hfree, h.inFlight_nodup⟩
  inFlight_free n hn := by
    rw [inFlight_begin, List.mem_cons] at hn
    rcases hn with rfl | hn
    · exact howner
    · exact h.inFlight_free n hn

/-- Taking the newest name out of flight keeps a registry orderly. -/
theorem finish (h : Orderly used r) : Orderly used r.finish where
  used_of_mem := h.used_of_mem
  owner_of_mem := h.owner_of_mem
  mem_of_owner := h.mem_of_owner
  names_nodup := h.names_nodup
  inFlight_nodup := by
    rw [inFlight_finish]
    exact h.inFlight_nodup.tail
  inFlight_free n hn := by
    rw [inFlight_finish] at hn
    exact h.inFlight_free n (List.mem_of_mem_tail hn)

theorem retire (h : Orderly used r) (l : Library) : Orderly used (r.retire l) where
  used_of_mem := h.used_of_mem
  owner_of_mem := h.owner_of_mem
  mem_of_owner := h.mem_of_owner
  names_nodup := h.names_nodup
  inFlight_nodup := h.finish.inFlight_nodup
  inFlight_free := h.finish.inFlight_free

/-- A name without an owner is on no list. -/
theorem not_mem_names (h : Orderly used r) {name : String} (howner : r.owner? name = none)
    (s : Shelf) : name ∉ r.names s := by
  intro hmem
  obtain ⟨l, hl, rfl⟩ := mem_names.1 hmem
  rw [h.owner_of_mem hl] at howner
  simp at howner

/-- Registering a name that is free keeps a registry orderly. -/
theorem register (h : Orderly used r) {name : String} {handle : Handle} {s : Shelf}
    {builtin : Bool} (hs : used s) (howner : r.owner? name = none) (hfree : name ∉ r.inFlight) :
    Orderly used (r.register name handle s builtin) where
  used_of_mem {t l} hl := by
    rcases mem_onShelf_register.1 hl with hl | ⟨rfl, -⟩
    · exact h.used_of_mem hl
    · exact hs
  owner_of_mem {t l} hl := by
    rw [owner?_register]
    rcases mem_onShelf_register.1 hl with hl | ⟨rfl, rfl⟩
    · have hne : l.name ≠ name := fun heq =>
        h.not_mem_names howner t (mem_names.2 ⟨l, hl, heq⟩)
      rw [if_neg hne, h.owner_of_mem hl]
    · rw [if_pos rfl]
  mem_of_owner {n scope} hn := by
    rw [owner?_register] at hn
    split at hn
    · rename_i hname
      exact ⟨s, Option.some.inj hn, mem_names.2 ⟨⟨r.next, name, handle, s.scope, builtin⟩,
        mem_onShelf_register.2 (.inr ⟨rfl, rfl⟩), hname.symm⟩⟩
    · obtain ⟨t, ht, hmem⟩ := h.mem_of_owner hn
      obtain ⟨l, hl, rfl⟩ := mem_names.1 hmem
      exact ⟨t, ht, mem_names.2 ⟨l, mem_onShelf_register.2 (.inl hl), rfl⟩⟩
  names_nodup t := by
    unfold names
    rw [onShelf_register]
    split
    · rw [List.map_append, List.map_singleton]
      exact List.Nodup.append (h.names_nodup s) (List.nodup_singleton _)
        (List.disjoint_singleton.2 (h.not_mem_names howner s))
    · exact h.names_nodup t
  inFlight_nodup := h.inFlight_nodup
  inFlight_free n hn := by
    rw [inFlight_register] at hn
    rw [owner?_register, if_neg (by rintro rfl; exact hfree hn)]
    exact h.inFlight_free n hn

/-- A library that is taken from its list is on no list any more. -/
theorem not_mem_withdraw (hapart : r.Apart) (h : Orderly used r) {s : Shelf} {l : Library}
    (hl : l ∈ r.onShelf s) (t : Shelf) : l ∉ (r.withdraw s l).onShelf t := by
  intro hmem
  rw [onShelf_withdraw] at hmem
  split at hmem
  · exact (((h.names_nodup s).of_map _).mem_erase_iff.1 hmem).1 rfl
  · rename_i hts
    exact hts (hapart t s l.name (mem_names.2 ⟨l, hmem, rfl⟩) (mem_names.2 ⟨l, hl, rfl⟩))

/-- Taking a library from its list and putting its name in flight keeps a registry
orderly. -/
theorem withdraw (hapart : r.Apart) (h : Orderly used r) {s : Shelf} {l : Library}
    (hl : l ∈ r.onShelf s) : Orderly used (r.withdraw s l) := by
  have hold : ∀ {t k}, k ∈ (r.withdraw s l).onShelf t → k ∈ r.onShelf t := mem_onShelf_of_withdraw
  have hname : ∀ {t k}, k ∈ (r.withdraw s l).onShelf t → k.name ≠ l.name := by
    intro t k hk heq
    exact h.not_mem_withdraw hapart hl t (h.eq_of_mem hapart (hold hk) hl heq ▸ hk)
  have hfree : l.name ∉ r.inFlight := by
    intro hmem
    have howner : some s.scope = none := (h.owner_of_mem hl).symm.trans (h.inFlight_free _ hmem)
    simp at howner
  refine ⟨fun hk => h.used_of_mem (hold hk), ?_, ?_, ?_, ?_, ?_⟩
  · intro t k hk
    rw [owner?_withdraw, if_neg (hname hk)]
    exact h.owner_of_mem (hold hk)
  · intro n scope hn
    rw [owner?_withdraw] at hn
    split at hn
    · simp at hn
    · rename_i hne
      obtain ⟨t, ht, hmem⟩ := h.mem_of_owner hn
      obtain ⟨k, hk, rfl⟩ := mem_names.1 hmem
      have hkl : k ≠ l := fun heq => hne (by rw [heq])
      exact ⟨t, ht, mem_names.2 ⟨k, (mem_onShelf_withdraw_of_ne hkl).2 hk, rfl⟩⟩
  · intro t
    unfold names
    rw [onShelf_withdraw]
    split
    · exact (h.names_nodup s).sublist (List.erase_sublist.map _)
    · exact h.names_nodup t
  · rw [inFlight_withdraw]
    exact List.nodup_cons.2 ⟨hfree, h.inFlight_nodup⟩
  · intro n hn
    rw [inFlight_withdraw, List.mem_cons] at hn
    rw [owner?_withdraw]
    split
    · rfl
    · rename_i hne
      exact h.inFlight_free n (hn.resolve_left hne)

end Orderly

namespace Apart

variable {used : Shelf → Prop} {r : LibraryRegistry}

/-- Names stay apart where no library comes onto a list. -/
theorem mono (h : r.Apart) {r' : LibraryRegistry}
    (hsub : ∀ {s l}, l ∈ r'.onShelf s → l ∈ r.onShelf s) : r'.Apart := by
  intro s t name hs ht
  obtain ⟨l, hl, hlname⟩ := mem_names.1 hs
  obtain ⟨k, hk, hkname⟩ := mem_names.1 ht
  exact h s t name (mem_names.2 ⟨l, hsub hl, hlname⟩) (mem_names.2 ⟨k, hsub hk, hkname⟩)

/-- A name without an owner is on no list, so it may come onto any. -/
theorem register (h : r.Apart) (ho : r.Orderly used) {name : String} {handle : Handle}
    {s : Shelf} {builtin : Bool} (howner : r.owner? name = none) :
    (r.register name handle s builtin).Apart := by
  have hmem : ∀ {t n}, n ∈ (r.register name handle s builtin).names t →
      n ∈ r.names t ∨ n = name ∧ t = s := by
    intro t n hn
    obtain ⟨l, hl, rfl⟩ := mem_names.1 hn
    rcases mem_onShelf_register.1 hl with hl | ⟨hts, rfl⟩
    · exact Or.inl (mem_names.2 ⟨l, hl, rfl⟩)
    · exact Or.inr ⟨rfl, hts⟩
  intro t u n ht hu
  rcases hmem ht with ht | ⟨rfl, rfl⟩ <;> rcases hmem hu with hu | ⟨hn, hus⟩
  · exact h t u n ht hu
  · exact absurd (hn ▸ ht) (ho.not_mem_names howner t)
  · exact absurd hu (ho.not_mem_names howner u)
  · exact hus.symm

end Apart

end LibraryRegistry

end Loading
