import Loading.Proofs.Library.Ownership
import Loading.Proofs.Library.Requests

/-!
# Images of native libraries

A library that has been registered once stands for an image until it is marked
as unloaded, and that comes only after its finaliser has run, when the library
has long left its list.  So the state alone does not tell which images there
are; the past does.

* `Live` — a library that has been on a list and has not been unloaded.
* `Accounted` — where live libraries are, and that no two have one name.
* `Fresh` — what other operations may have added meanwhile.
* `Booked` — every image that the dynamic loader gave for a file is a live library
  or has been given back.
-/

namespace Loading

open LibraryRegistry

/-- A point in time of the registry of native libraries. -/
abbrev LibraryMoment : Type :=
  libraryService.Moment

namespace LibraryMoment

/-- The library has been on a list. -/
def Seen (m : LibraryMoment) (l : Library) : Prop :=
  ∃ e ∈ m.past, ∃ s, l ∈ e.state.onShelf s

/-- The library has been on a list, and it has not been unloaded. -/
def Live (m : LibraryMoment) (l : Library) : Prop :=
  m.Seen l ∧ m.state.isLoaded l = true

/-- Where live libraries are, and that there are no two of one name. -/
structure Accounted (m : LibraryMoment) : Prop where
  /-- What is on a list has been on one. -/
  seen_of_mem : ∀ {s l}, l ∈ m.state.onShelf s → m.Seen l
  /-- What is on a list has not been unloaded. -/
  loaded_of_mem : ∀ {s l}, l ∈ m.state.onShelf s → m.state.isLoaded l = true
  /-- Numbers that are yet to come have not been used. -/
  serial_lt : ∀ {l}, m.Seen l → l.serial < m.state.next
  /-- Nothing has been unloaded that is yet to come. -/
  retired_lt : ∀ {k}, k ∈ m.state.retired → k < m.state.next
  /-- A number tells a library from all others. -/
  serial_inj : ∀ {l k}, m.Seen l → m.Seen k → l.serial = k.serial → l = k
  /-- A live library is on a list, or its name is in flight. -/
  place : ∀ {l}, m.Live l → (∃ s, l ∈ m.state.onShelf s) ∨ l.name ∈ m.state.inFlight
  /-- No two live libraries have one name. -/
  single : ∀ {l k}, m.Live l → m.Live k → l.name = k.name → l = k

/-- Of the names that were in flight at a moment, no library has come to live
since. -/
def Fresh (m m' : LibraryMoment) : Prop :=
  ∀ l, m'.Live l → m.Live l ∨ l.name ∉ m.state.inFlight

/-! ## What happens to the views -/

section Views

variable {m : LibraryMoment} {l : Library}

theorem seen_after {e : libraryService.Event} {r : LibraryRegistry} :
    Seen (m.after e r) l ↔ (∃ s, l ∈ r.onShelf s) ∨ m.Seen l := by
  simp [Seen, Service.Moment.after]

theorem Accounted.seen_note (h : m.Accounted) {e : libraryService.Event} :
    Seen (m.note e) l ↔ m.Seen l := by
  refine seen_after.trans ⟨?_, Or.inr⟩
  rintro (⟨s, hs⟩ | hl)
  · exact h.seen_of_mem hs
  · exact hl

theorem Accounted.live_note (h : m.Accounted) {e : libraryService.Event} :
    Live (m.note e) l ↔ m.Live l :=
  and_congr h.seen_note Iff.rfl

/-- A change that brings no library onto a list lets none be seen. -/
theorem Accounted.seen_change (h : m.Accounted) {v : libraryService.Event} {r : LibraryRegistry}
    (hr : ∀ {s l}, l ∈ r.onShelf s → l ∈ m.state.onShelf s) :
    Seen (m.after v r) l ↔ m.Seen l := by
  refine seen_after.trans ⟨?_, Or.inr⟩
  rintro (⟨s, hs⟩ | hl)
  · exact h.seen_of_mem (hr hs)
  · exact hl

/-- A change that brings no library onto a list and marks none as unloaded changes
nothing about what lives. -/
theorem Accounted.live_change (h : m.Accounted) {r : LibraryRegistry}
    (hr : ∀ {s l}, l ∈ r.onShelf s → l ∈ m.state.onShelf s)
    (hretired : r.retired = m.state.retired) : Live (m.change r) l ↔ m.Live l := by
  refine and_congr (h.seen_change hr) ?_
  simp [isLoaded, hretired]

end Views

namespace Fresh

variable {m m₁ m₂ m₃ : LibraryMoment}

theorem refl (m : LibraryMoment) : Fresh m m := fun _ hl => Or.inl hl

/-- Names that stay in flight are guarded all the time. -/
theorem trans (h₁ : Fresh m₁ m₂) (h₂ : Fresh m₂ m₃)
    (hsub : ∀ name ∈ m₁.state.inFlight, name ∈ m₂.state.inFlight) : Fresh m₁ m₃ := by
  intro l hl
  rcases h₂ l hl with hl | hname
  · exact h₁ l hl
  · exact Or.inr fun hmem => hname (hsub _ hmem)

/-- Where no library comes to live, nothing is added. -/
theorem of_live (h : ∀ l, m₂.Live l → m₁.Live l) : Fresh m₁ m₂ := fun l hl => Or.inl (h l hl)

end Fresh

namespace Accounted

variable {m : LibraryMoment}

/-- At the start nothing has been seen. -/
theorem start : Accounted ⟨{}, []⟩ where
  seen_of_mem h := by simp [onShelf, Table.findD, Table.find?] at h
  loaded_of_mem h := by simp [onShelf, Table.findD, Table.find?] at h
  serial_lt h := by simp [Seen] at h
  retired_lt h := by simp at h
  serial_inj h := by simp [Seen] at h
  place h := by simp [Live, Seen] at h
  single h := by simp [Live, Seen] at h

theorem note (h : m.Accounted) (e : libraryService.Event) : Accounted (m.note e) where
  seen_of_mem hl := h.seen_note.2 (h.seen_of_mem hl)
  loaded_of_mem hl := h.loaded_of_mem hl
  serial_lt hl := h.serial_lt (h.seen_note.1 hl)
  retired_lt hk := h.retired_lt hk
  serial_inj hl hk := h.serial_inj (h.seen_note.1 hl) (h.seen_note.1 hk)
  place hl := h.place (h.live_note.1 hl)
  single hl hk := h.single (h.live_note.1 hl) (h.live_note.1 hk)

/-- A library whose name has no owner and is not in flight does not live. -/
theorem not_live {used : Shelf → Prop} (h : m.Accounted) (ho : m.state.Orderly used)
    {name : String} (howner : m.state.owner? name = none) (hfree : name ∉ m.state.inFlight)
    {l : Library} (hl : m.Live l) : l.name ≠ name := by
  rintro rfl
  rcases h.place hl with ⟨s, hs⟩ | hmem
  · exact ho.not_mem_names howner s (mem_names.2 ⟨l, hs, rfl⟩)
  · exact hfree hmem

/-- A change that keeps the lists, the numbers and the unloaded libraries, and takes
no name out of flight under which a library lives, keeps the account. -/
theorem change (h : m.Accounted) {r : LibraryRegistry}
    (hshelf : ∀ s, r.onShelf s = m.state.onShelf s) (hnext : r.next = m.state.next)
    (hretired : r.retired = m.state.retired)
    (hflight : ∀ l, m.Live l → l.name ∈ m.state.inFlight → l.name ∈ r.inFlight) :
    Accounted (m.change r) := by
  have hmem : ∀ {s l}, l ∈ r.onShelf s → l ∈ m.state.onShelf s := by
    intro s l hl
    rwa [hshelf s] at hl
  have hseen : ∀ {l}, Seen (m.change r) l ↔ m.Seen l := h.seen_change hmem
  have hlive : ∀ {l}, Live (m.change r) l ↔ m.Live l := h.live_change hmem hretired
  refine ⟨?_, ?_, ?_, ?_, ?_, ?_, ?_⟩
  · intro s l hl
    exact hseen.2 (h.seen_of_mem (hmem hl))
  · intro s l hl
    have hmem := hmem hl
    exact (hlive.2 ⟨h.seen_of_mem hmem, h.loaded_of_mem hmem⟩).2
  · intro l hl
    rw [Service.Moment.change_state, hnext]
    exact h.serial_lt (hseen.1 hl)
  · intro k hk
    rw [Service.Moment.change_state, hretired] at hk
    rw [Service.Moment.change_state, hnext]
    exact h.retired_lt hk
  · intro l k hl hk
    exact h.serial_inj (hseen.1 hl) (hseen.1 hk)
  · intro l hl
    rcases h.place (hlive.1 hl) with ⟨s, hs⟩ | hmem
    · exact Or.inl ⟨s, by rwa [Service.Moment.change_state, hshelf]⟩
    · exact Or.inr (hflight l (hlive.1 hl) hmem)
  · intro l k hl hk
    exact h.single (hlive.1 hl) (hlive.1 hk)

/-- Registering an image lets one more library be seen. -/
theorem seen_register (h : m.Accounted) {name : String} {handle : Handle} {s : Shelf}
    {builtin : Bool} {l : Library} :
    Seen (m.change (m.state.finish.register name handle s builtin)) l ↔
      l = ⟨m.state.next, name, handle, s.scope, builtin⟩ ∨ m.Seen l := by
  constructor
  · intro hl
    rcases seen_after.1 hl with ⟨t, ht⟩ | hl
    · rcases mem_onShelf_register.1 ht with ht | ⟨-, rfl⟩
      · exact Or.inr (h.seen_of_mem ht)
      · exact Or.inl rfl
    · exact Or.inr hl
  · rintro (rfl | hl)
    · exact seen_after.2 (Or.inl ⟨s, mem_onShelf_register.2 (Or.inr ⟨rfl, rfl⟩)⟩)
    · exact seen_after.2 (Or.inr hl)

/-- Registering an image under the newest name in flight, of which no library lives,
lets just that library come to live. -/
theorem live_register (h : m.Accounted) {name : String} {handle : Handle} {s : Shelf}
    {builtin : Bool} {l : Library} :
    Live (m.change (m.state.finish.register name handle s builtin)) l ↔
      l = ⟨m.state.next, name, handle, s.scope, builtin⟩ ∨ m.Live l := by
  have hloaded : m.state.isLoaded ⟨m.state.next, name, handle, s.scope, builtin⟩ = true := by
    simp only [isLoaded, Bool.not_eq_true', List.contains_eq_mem, decide_eq_false_iff_not]
    exact fun hmem => absurd (h.retired_lt hmem) (Nat.lt_irrefl _)
  constructor
  · rintro ⟨hseen, hl⟩
    exact (h.seen_register.1 hseen).imp_right fun hseen => ⟨hseen, hl⟩
  · rintro (rfl | ⟨hseen, hl⟩)
    · exact ⟨h.seen_register.2 (Or.inl rfl), hloaded⟩
    · exact ⟨h.seen_register.2 (Or.inr hseen), hl⟩

theorem register (h : m.Accounted) {name : String} {handle : Handle} {s : Shelf}
    {builtin : Bool} {rest : List String} (hflight : m.state.inFlight = name :: rest)
    (hdead : ∀ l, m.Live l → l.name ≠ name) :
    Accounted (m.change (m.state.finish.register name handle s builtin)) := by
  have hseen : ∀ {l}, Seen (m.change (m.state.finish.register name handle s builtin)) l →
      l = ⟨m.state.next, name, handle, s.scope, builtin⟩ ∨ m.Seen l := h.seen_register.1
  refine ⟨?_, ?_, ?_, ?_, ?_, ?_, ?_⟩
  · intro t l hl
    exact seen_after.2 (Or.inl ⟨t, hl⟩)
  · intro t l hl
    rcases mem_onShelf_register.1 hl with hl | ⟨-, rfl⟩
    · exact h.loaded_of_mem hl
    · exact (h.live_register.2 (Or.inl rfl)).2
  · intro l hl
    show l.serial < m.state.next + 1
    rcases hseen hl with rfl | hl
    · exact Nat.lt_succ_self _
    · exact Nat.lt_succ_of_lt (h.serial_lt hl)
  · intro k hk
    exact Nat.lt_succ_of_lt (h.retired_lt hk)
  · intro l k hl hk heq
    rcases hseen hl with rfl | hl <;> rcases hseen hk with rfl | hk
    · rfl
    · exact absurd (h.serial_lt hk) (by rw [← heq]; exact Nat.lt_irrefl _)
    · exact absurd (h.serial_lt hl) (by rw [heq]; exact Nat.lt_irrefl _)
    · exact h.serial_inj hl hk heq
  · intro l hl
    rw [Service.Moment.change_state, inFlight_register, inFlight_finish, hflight]
    rcases h.live_register.1 hl with rfl | hl
    · exact Or.inl ⟨s, mem_onShelf_register.2 (Or.inr ⟨rfl, rfl⟩)⟩
    · rcases h.place hl with ⟨t, ht⟩ | hname
      · exact Or.inl ⟨t, mem_onShelf_register.2 (Or.inl ht)⟩
      · rw [hflight, List.mem_cons] at hname
        exact Or.inr (hname.resolve_left (hdead l hl))
  · intro l k hl hk heq
    rcases h.live_register.1 hl with rfl | hl <;> rcases h.live_register.1 hk with rfl | hk
    · rfl
    · exact absurd heq.symm (hdead k hk)
    · exact absurd heq (hdead l hl)
    · exact h.single hl hk heq

/-- Taking a library from its list changes nothing about what lives. -/
theorem live_withdraw (h : m.Accounted) {s : Shelf} {l k : Library} :
    Live (m.change (m.state.withdraw s l)) k ↔ m.Live k :=
  h.live_change mem_onShelf_of_withdraw rfl

theorem withdraw (h : m.Accounted) {s : Shelf} {l : Library} :
    Accounted (m.change (m.state.withdraw s l)) := by
  have hmem : ∀ {t j}, j ∈ (m.state.withdraw s l).onShelf t → j ∈ m.state.onShelf t :=
    mem_onShelf_of_withdraw
  have hseen : ∀ {k}, Seen (m.change (m.state.withdraw s l)) k ↔ m.Seen k := h.seen_change hmem
  refine ⟨?_, ?_, ?_, ?_, ?_, ?_, ?_⟩
  · intro t j hj
    exact hseen.2 (h.seen_of_mem (hmem hj))
  · intro t j hj
    exact h.loaded_of_mem (hmem hj)
  · intro k hk
    exact h.serial_lt (hseen.1 hk)
  · intro k hk
    exact h.retired_lt hk
  · intro j k hj hk
    exact h.serial_inj (hseen.1 hj) (hseen.1 hk)
  · intro k hk
    rw [Service.Moment.change_state, inFlight_withdraw]
    rcases h.place (h.live_withdraw.1 hk) with ⟨t, ht⟩ | hname
    · by_cases heq : k = l
      · exact Or.inr (List.mem_cons.2 (Or.inl (by rw [heq])))
      · exact Or.inl ⟨t, (mem_onShelf_withdraw_of_ne heq).2 ht⟩
    · exact Or.inr (List.mem_cons_of_mem _ hname)
  · intro j k hj hk
    exact h.single (h.live_withdraw.1 hj) (h.live_withdraw.1 hk)

/-- What is live after a library was marked as unloaded was live before, and is
another library. -/
theorem live_retire (h : m.Accounted) {l k : Library} :
    Live (m.change (m.state.retire l)) k ↔ m.Live k ∧ k.serial ≠ l.serial := by
  have hseen : Seen (m.change (m.state.retire l)) k ↔ m.Seen k := h.seen_change fun hj => hj
  constructor
  · rintro ⟨hk, hloaded⟩
    simp only [isLoaded, Service.Moment.change_state, LibraryRegistry.retire, List.contains_cons,
      Bool.not_eq_true', Bool.or_eq_false_iff, beq_eq_false_iff_ne] at hloaded
    refine ⟨⟨hseen.1 hk, ?_⟩, hloaded.1⟩
    simpa [isLoaded] using hloaded.2
  · rintro ⟨⟨hk, hloaded⟩, hne⟩
    refine ⟨hseen.2 hk, ?_⟩
    simp only [isLoaded, Bool.not_eq_true'] at hloaded
    simp only [isLoaded, Service.Moment.change_state, LibraryRegistry.retire, List.contains_cons,
      Bool.not_eq_true', Bool.or_eq_false_iff, beq_eq_false_iff_ne]
    exact ⟨hne, hloaded⟩

/-- Marking the library as unloaded that the newest name in flight stands for keeps
the account. -/
theorem retire (h : m.Accounted) {l : Library} {rest : List String}
    (hflight : m.state.inFlight = l.name :: rest) (hl : m.Seen l)
    (hshelf : ∀ s, l ∉ m.state.onShelf s) (hsole : ∀ k, m.Live k → k.name = l.name → k = l) :
    Accounted (m.change (m.state.retire l)) := by
  have hseen : ∀ {k}, Seen (m.change (m.state.retire l)) k ↔ m.Seen k :=
    h.seen_change fun hj => hj
  refine ⟨?_, ?_, ?_, ?_, ?_, ?_, ?_⟩
  · intro t j hj
    exact hseen.2 (h.seen_of_mem hj)
  · intro t j hj
    have hne : j.serial ≠ l.serial := by
      intro heq
      exact hshelf t (h.serial_inj (h.seen_of_mem hj) hl heq ▸ hj)
    exact (h.live_retire.2 ⟨⟨h.seen_of_mem hj, h.loaded_of_mem hj⟩, hne⟩).2
  · intro k hk
    exact h.serial_lt (hseen.1 hk)
  · intro k hk
    rcases List.mem_cons.1 hk with rfl | hk
    · exact h.serial_lt hl
    · exact h.retired_lt hk
  · intro j k hj hk
    exact h.serial_inj (hseen.1 hj) (hseen.1 hk)
  · intro k hk
    obtain ⟨hk, hne⟩ := h.live_retire.1 hk
    rw [Service.Moment.change_state, inFlight_retire, hflight]
    rcases h.place hk with hs | hname
    · exact Or.inl hs
    · rw [hflight, List.mem_cons] at hname
      rcases hname with hname | hname
      · exact absurd (congrArg Library.serial (hsole k hk hname)) hne
      · exact Or.inr hname
  · intro j k hj hk
    exact h.single (h.live_retire.1 hj).1 (h.live_retire.1 hk).1

end Accounted

/-! ## Native calls -/

/-- Every image that was loaded for a file has been unloaded since, or it is the
image of a live library of that name. -/
def Booked (m : LibraryMoment) : Prop :=
  ∀ newer older s name handle,
    m.past = newer ++ ⟨.answered (.load name) (.ok handle), s⟩ :: older →
      (∃ x ∈ newer, x.event = .answered (.unload handle) ()) ∨
        ∃ l, m.Live l ∧ l.name = name ∧ l.handle = handle ∧ l.builtin = false

/-- The event is not that an image was loaded for a file. -/
def Quiet (v : libraryService.Event) : Prop :=
  ∀ name handle, v ≠ .answered (.load name) (.ok handle)

namespace Booked

variable {m : LibraryMoment}

/-- At the start nothing has been loaded. -/
theorem start : Booked ⟨{}, []⟩ := by
  intro newer older s name handle h
  simp at h

/-- While all live libraries live on and no image is loaded, the books are right. -/
theorem after (h : m.Booked) {v : libraryService.Event} (hv : Quiet v) {r : LibraryRegistry}
    (hlive : ∀ l, m.Live l → l.builtin = false → Live (m.after v r) l) :
    Booked (m.after v r) := by
  intro newer older s name handle heq
  cases newer with
  | nil =>
      obtain ⟨hx, -⟩ := List.cons.inj heq
      exact absurd (congrArg Service.Entry.event hx) (hv name handle)
  | cons x newer =>
      obtain ⟨-, hpast⟩ := List.cons.inj heq
      rcases h newer older s name handle hpast with ⟨y, hy, hevent⟩ | ⟨l, hl, hname, hhandle, hb⟩
      · exact Or.inl ⟨y, List.mem_cons_of_mem _ hy, hevent⟩
      · exact Or.inr ⟨l, hlive l hl hb, hname, hhandle, hb⟩

/-- The image that was just loaded goes to the books with its library. -/
theorem register (h : m.Booked) (haccounted : m.Accounted) {name : String} {handle : Handle}
    {s : Shelf} :
    Booked ((m.note (.answered (.load name) (.ok handle))).change
      (m.state.finish.register name handle s false)) := by
  have hlive : ∀ l, Live ((m.note (.answered (.load name) (.ok handle))).change
      (m.state.finish.register name handle s false)) l ↔
      l = ⟨m.state.next, name, handle, s.scope, false⟩ ∨
        Live (m.note (.answered (.load name) (.ok handle))) l := fun _ =>
    (haccounted.note _).live_register
  intro newer older t n k heq
  match newer with
  | [] => simp at heq
  | [x] =>
      obtain ⟨-, hpast⟩ := List.cons.inj heq
      obtain ⟨hx, -⟩ := List.cons.inj hpast
      have hevent := congrArg Service.Entry.event hx
      simp only [Service.Event.answered.injEq, LibraryQuestion.load.injEq] at hevent
      obtain ⟨rfl, hk⟩ := hevent
      obtain rfl : handle = k := by simpa using hk
      exact Or.inr ⟨_, (hlive _).2 (Or.inl rfl), rfl, rfl, rfl⟩
  | x :: y :: newer =>
      obtain ⟨-, hpast⟩ := List.cons.inj heq
      obtain ⟨-, hpast⟩ := List.cons.inj hpast
      rcases h newer older t n k hpast with ⟨z, hz, hevent⟩ | ⟨l, hl, hname, hhandle, hb⟩
      · exact Or.inl ⟨z, List.mem_cons_of_mem _ (List.mem_cons_of_mem _ hz), hevent⟩
      · exact Or.inr ⟨l, (hlive l).2 (Or.inr (haccounted.live_note.2 hl)), hname, hhandle, hb⟩

/-- A library may be marked as unloaded if it is built in, or else right after its
image was given back. -/
theorem retire (h : m.Booked) (haccounted : m.Accounted) {l : Library} (hl : m.Seen l)
    (hunloaded : l.builtin = false →
      ∃ s older, m.past = ⟨.answered (.unload l.handle) (), s⟩ :: older) :
    Booked (m.change (m.state.retire l)) := by
  intro newer older t name handle heq
  cases newer with
  | nil => simp at heq
  | cons x newer =>
      obtain ⟨-, hpast⟩ := List.cons.inj heq
      rcases h newer older t name handle hpast with ⟨y, hy, hevent⟩ | ⟨k, hk, hname, hhandle, hb⟩
      · exact Or.inl ⟨y, List.mem_cons_of_mem _ hy, hevent⟩
      · by_cases hserial : k.serial = l.serial
        · obtain rfl : k = l := haccounted.serial_inj hk.1 hl hserial
          obtain ⟨s, past, hlast⟩ := hunloaded hb
          rw [hlast] at hpast
          cases newer with
          | nil => simp at hpast
          | cons y newer =>
              obtain ⟨rfl, -⟩ := List.cons.inj hpast
              refine Or.inl ⟨_, List.mem_cons_of_mem _ List.mem_cons_self, ?_⟩
              rw [hhandle]
        · exact Or.inr ⟨k, haccounted.live_retire.2 ⟨hk, hserial⟩, hname, hhandle, hb⟩

end Booked

end LibraryMoment

end Loading
