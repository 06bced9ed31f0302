import Loading.Proofs.Library.Images

/-!
# Native libraries under re-entrance

While an image is loaded or unloaded, its initialisers and finalisers may make
requests of their own, and so on to any depth.  This file says what a request may
rely on between one question and the next, and that each of its changes keeps
the registry in order whatever comes in between.

* `LibraryMoment.Whole` — what holds between whole requests: the registry is in
  order, and the names in flight are those of before.
* `LibraryMoment.Entering` — what holds while an image is being loaded.
* `LibraryMoment.Leaving` — what holds while one is being unloaded.
* `LibraryMoment.Asks` — where a request asks.
-/

namespace Loading

open LibraryRegistry

namespace LibraryMoment

/-! ## What is known between the steps of a request -/

/-- The registry is in order, and all images are accounted for. -/
structure Sound (used : Shelf → Prop) (m : LibraryMoment) : Prop where
  /-- The owners, the lists and the names in flight belong together. -/
  orderly : m.state.Orderly used
  /-- Live libraries are where they should be. -/
  accounted : m.Accounted
  /-- Whatever image was loaded is a live library, or was given back. -/
  booked : m.Booked

/-- Only whole requests have happened since. -/
structure Settled (e m : LibraryMoment) : Prop where
  /-- The same is in flight. -/
  pending : m.state.pending = e.state.pending
  /-- Of what is in flight nothing has come to live. -/
  fresh : Fresh e m
  /-- What has been seen has been seen. -/
  seen : ∀ l, e.Seen l → m.Seen l

/-- A sound moment since which only whole requests have happened. -/
structure Whole (used : Shelf → Prop) (e m : LibraryMoment) : Prop where
  /-- The moment is sound. -/
  sound : Sound used m
  /-- The requests since were whole. -/
  settled : Settled e m

/-- A request that was called at `e` has put a name in flight. -/
structure Pushed (used : Shelf → Prop) (e m : LibraryMoment) (p : Pending) : Prop where
  /-- The moment is sound. -/
  sound : Sound used m
  /-- The name is in flight, above what was there before. -/
  pending : m.state.pending = p :: e.state.pending
  /-- Of what was in flight before nothing has come to live. -/
  fresh : Fresh e m
  /-- What had been seen has been seen. -/
  seen : ∀ l, e.Seen l → m.Seen l

/-- A request that was called at `e` loads an image. -/
structure Entering (used : Shelf → Prop) (e m : LibraryMoment) (name : String)
    (scope : Scope) : Prop extends Pushed used e m ⟨name, scope⟩ where
  /-- No library of the name lives. -/
  dead : ∀ l, m.Live l → l.name ≠ name

/-- A request that was called at `e` unloads a library, which it has taken from its
list. -/
structure Leaving (used : Shelf → Prop) (e m : LibraryMoment) (l : Library) : Prop
    extends Pushed used e m ⟨l.name, l.scope⟩ where
  /-- The library has been on a list. -/
  was : m.Seen l
  /-- No other library of the name lives. -/
  sole : ∀ k, m.Live k → k.name = l.name → k = l

/-- What a request that was called at `e` may ask. -/
structure Asks (e m : LibraryMoment) (q : LibraryQuestion) : Prop where
  /-- What was in flight before still is. -/
  pending : e.state.pending <:+ m.state.pending
  /-- Of that, nothing has come to live. -/
  fresh : Fresh e m
  /-- If an image is to be loaded, its name is in flight only just now, has no owner
  and names no live library. -/
  loads : ∀ name ∈ q.loads?, (∃ scope, m.state.pending = ⟨name, scope⟩ :: e.state.pending) ∧
    name ∉ e.state.inFlight ∧ m.state.owner? name = none ∧ ∀ l, m.Live l → l.name ≠ name

variable {used : Shelf → Prop} {e m m' m₁ m₂ m₃ : LibraryMoment}

theorem Settled.refl (m : LibraryMoment) : Settled m m :=
  ⟨rfl, Fresh.refl m, fun _ hl => hl⟩

theorem Settled.inFlight (h : Settled e m) : m.state.inFlight = e.state.inFlight :=
  congrArg (List.map Pending.name) h.pending

theorem Settled.trans (h₁ : Settled m₁ m₂) (h₂ : Settled m₂ m₃) : Settled m₁ m₃ where
  pending := h₂.pending.trans h₁.pending
  fresh := h₁.fresh.trans h₂.fresh fun _ hn => h₁.inFlight ▸ hn
  seen l hl := h₂.seen l (h₁.seen l hl)

/-- A change after which no more lives, with the same in flight, is settled. -/
theorem Settled.of_change {r : LibraryRegistry} (hpending : r.pending = m.state.pending)
    (hlive : ∀ l, Live (m.change r) l → m.Live l) : Settled m (m.change r) :=
  ⟨hpending, Fresh.of_live hlive, fun _ hl => seen_after.2 (Or.inr hl)⟩

theorem Sound.note (h : Sound used m) {v : libraryService.Event} (hv : Quiet v) :
    Sound used (m.note v) :=
  ⟨h.orderly, h.accounted.note v, h.booked.after hv fun _ hl _ => h.accounted.live_note.2 hl⟩

theorem Sound.settled_note (h : Sound used m) (v : libraryService.Event) :
    Settled m (m.note v) :=
  ⟨rfl, Fresh.of_live fun _ hl => h.accounted.live_note.1 hl, fun _ hl => seen_after.2 (Or.inr hl)⟩

theorem Whole.note (h : Whole used e m) {v : libraryService.Event} (hv : Quiet v) :
    Whole used e (m.note v) :=
  ⟨h.sound.note hv, h.settled.trans (h.sound.settled_note v)⟩

theorem Pushed.inFlight {p : Pending} (h : Pushed used e m p) :
    m.state.inFlight = p.name :: e.state.inFlight := by
  unfold LibraryRegistry.inFlight
  rw [h.pending, List.map_cons]

/-- A name that a request has put in flight was not in flight before. -/
theorem Pushed.not_mem {p : Pending} (h : Pushed used e m p) : p.name ∉ e.state.inFlight := by
  have hnodup := h.sound.orderly.inFlight_nodup
  rw [h.inFlight] at hnodup
  exact (List.nodup_cons.1 hnodup).1

/-- A name that a request has put in flight has no owner. -/
theorem Pushed.owner? {p : Pending} (h : Pushed used e m p) : m.state.owner? p.name = none :=
  h.sound.orderly.inFlight_free _ (by rw [h.inFlight]; exact List.mem_cons_self)

/-- What is in flight stays in flight over whole requests. -/
theorem Pushed.later {p : Pending} (h : Pushed used e m p) (hsound : Sound used m')
    (hsettled : Settled m m') : Pushed used e m' p where
  sound := hsound
  pending := hsettled.pending.trans h.pending
  fresh := h.fresh.trans hsettled.fresh fun n hn => by
    rw [h.inFlight]
    exact List.mem_cons_of_mem _ hn
  seen l hl := hsettled.seen l (h.seen l hl)

/-- A library of a name in flight that lives after whole requests lived before. -/
theorem Pushed.live_of_later {p : Pending} (h : Pushed used e m p) (hsettled : Settled m m')
    {l : Library} (hl : m'.Live l) (hname : l.name = p.name) : m.Live l := by
  rcases hsettled.fresh l hl with hl | hfree
  · exact hl
  · rw [h.inFlight] at hfree
    exact absurd (List.mem_cons.2 (Or.inl hname)) hfree

/-- Taking the name out of flight again settles the request. -/
theorem Pushed.settled {p : Pending} (h : Pushed used e m p)
    (hpending : m'.state.pending = m.state.pending.tail) (hseen : ∀ l, m.Seen l → m'.Seen l)
    (hlive : ∀ l, m'.Live l → m.Live l ∨ l.name = p.name) : Settled e m' where
  pending := by
    rw [hpending, h.pending, List.tail_cons]
  fresh l hl := by
    rcases hlive l hl with hl | hname
    · exact h.fresh l hl
    · exact Or.inr (hname ▸ h.not_mem)
  seen l hl := hseen l (h.seen l hl)

/-- What may be asked while a name is in flight. -/
theorem Pushed.asks {p : Pending} (h : Pushed used e m p) {q : LibraryQuestion}
    (hdead : ∀ name ∈ q.loads?, name = p.name ∧ ∀ l, m.Live l → l.name ≠ name) : Asks e m q where
  pending := by
    rw [h.pending]
    exact List.suffix_cons _ _
  fresh := h.fresh
  loads name hname := by
    obtain ⟨rfl, hlive⟩ := hdead name hname
    exact ⟨⟨p.scope, h.pending⟩, h.not_mem, h.owner?, hlive⟩

theorem Entering.later {name : String} {scope : Scope} (h : Entering used e m name scope)
    (hsound : Sound used m') (hsettled : Settled m m') : Entering used e m' name scope where
  toPushed := h.toPushed.later hsound hsettled
  dead l hl hname := h.dead l (h.live_of_later hsettled hl hname) hname

theorem Leaving.later {l : Library} (h : Leaving used e m l) (hsound : Sound used m')
    (hsettled : Settled m m') : Leaving used e m' l where
  toPushed := h.toPushed.later hsound hsettled
  was := hsettled.seen l h.was
  sole k hk hname := h.sole k (h.live_of_later hsettled hk hname) hname

theorem Entering.note {name : String} {scope : Scope} (h : Entering used e m name scope)
    {v : libraryService.Event} (hv : Quiet v) : Entering used e (m.note v) name scope :=
  h.later (h.sound.note hv) (h.sound.settled_note v)

theorem Leaving.note {l : Library} (h : Leaving used e m l) {v : libraryService.Event}
    (hv : Quiet v) : Leaving used e (m.note v) l :=
  h.later (h.sound.note hv) (h.sound.settled_note v)

/-! ## Single changes -/

/-- A change that brings no library to live and unloads none keeps the books right. -/
theorem Sound.booked_change (h : Sound used m) {r : LibraryRegistry}
    (hlive : ∀ l, m.Live l → Live (m.change r) l) : Booked (m.change r) :=
  h.booked.after (v := .changed) (fun _ _ => nofun) fun l hl _ => hlive l hl

/-- Looking at the registry is no request. -/
theorem Whole.observe (h : Whole used e m) : Whole used e (m.change m.state) := by
  have haccounted := h.sound.accounted
  have hlive : ∀ l, Live (m.change m.state) l ↔ m.Live l := fun _ =>
    haccounted.live_change (fun hj => hj) rfl
  refine ⟨⟨h.sound.orderly, ?_, ?_⟩, h.settled.trans (.of_change rfl fun l => (hlive l).1)⟩
  · exact haccounted.change (fun _ => rfl) rfl rfl fun _ _ hn => hn
  · exact h.sound.booked_change fun l => (hlive l).2

/-- A name that is granted is put in flight. -/
theorem Whole.begin (h : Whole used e m) {name : String} {s : Shelf}
    (hgranted : m.state.admission name s = .granted) :
    Entering used e (m.change (m.state.begin name s.scope)) name s.scope := by
  obtain ⟨howner, hfree⟩ := admission_eq_granted hgranted
  have haccounted := h.sound.accounted
  have hlive : ∀ l, Live (m.change (m.state.begin name s.scope)) l ↔ m.Live l := fun _ =>
    haccounted.live_change (fun hj => hj) rfl
  refine ⟨⟨⟨h.sound.orderly.begin howner hfree, ?_, ?_⟩, ?_, ?_, ?_⟩, ?_⟩
  · exact haccounted.change (fun _ => rfl) rfl rfl fun _ _ hn => List.mem_cons_of_mem _ hn
  · exact h.sound.booked_change fun l => (hlive l).2
  · exact congrArg (List.cons _) h.settled.pending
  · exact h.settled.fresh.trans (Fresh.of_live fun l => (hlive l).1) fun _ hn =>
      h.settled.inFlight ▸ hn
  · exact fun l hl => seen_after.2 (Or.inr (h.settled.seen l hl))
  · exact fun l hl => haccounted.not_live h.sound.orderly howner hfree ((hlive l).1 hl)

/-- A load that fails leaves nothing behind. -/
theorem Entering.fail {name : String} {scope : Scope} (h : Entering used e m name scope) :
    Whole used e (m.change m.state.finish) := by
  have haccounted := h.sound.accounted
  have hlive : ∀ l, Live (m.change m.state.finish) l ↔ m.Live l := fun _ =>
    haccounted.live_change (fun hj => hj) rfl
  refine ⟨⟨h.sound.orderly.finish, ?_, ?_⟩, h.settled rfl ?_ ?_⟩
  · refine haccounted.change (fun _ => rfl) rfl rfl fun l hl hn => ?_
    rw [h.inFlight, List.mem_cons] at hn
    rw [inFlight_finish, h.inFlight]
    exact hn.resolve_left (h.dead l hl)
  · exact h.sound.booked_change fun l => (hlive l).2
  · exact fun l hl => seen_after.2 (Or.inr hl)
  · exact fun l hl => Or.inl ((hlive l).1 hl)

/-- A load that succeeds registers one library; `v` is the answer of the dynamic
loader. -/
theorem Entering.register {name : String} {s : Shelf} (h : Entering used e m name s.scope)
    (hs : used s) (handle : Handle) {builtin : Bool} (v : libraryService.Event)
    (hbooked : Booked ((m.note v).change (m.state.finish.register name handle s builtin))) :
    Whole used e ((m.note v).change (m.state.finish.register name handle s builtin)) := by
  have haccounted := h.sound.accounted.note v
  have hdead : ∀ l, Live (m.note v) l → l.name ≠ name := fun l hl =>
    h.dead l (h.sound.accounted.live_note.1 hl)
  refine ⟨⟨?_, haccounted.register h.inFlight hdead, hbooked⟩, h.settled rfl ?_ ?_⟩
  · refine h.sound.orderly.finish.register hs h.owner? ?_
    rw [inFlight_finish, h.inFlight]
    exact h.not_mem
  · exact fun l hl => seen_after.2 (Or.inr (seen_after.2 (Or.inr hl)))
  · intro l hl
    rcases haccounted.live_register.1 hl with rfl | hl
    · exact Or.inr rfl
    · exact Or.inl (h.sound.accounted.live_note.1 hl)

/-- A library that is on a list can be taken from it. -/
theorem Whole.withdraw (hapart : m.state.Apart) (h : Whole used e m) {s : Shelf}
    {l : Library} (hl : l ∈ m.state.onShelf s) :
    Leaving used e (m.change (m.state.withdraw s l)) l := by
  have haccounted := h.sound.accounted
  have hlive : ∀ k, Live (m.change (m.state.withdraw s l)) k ↔ m.Live k := fun _ =>
    haccounted.live_withdraw
  have hlive_l : m.Live l := ⟨haccounted.seen_of_mem hl, haccounted.loaded_of_mem hl⟩
  refine ⟨⟨⟨h.sound.orderly.withdraw hapart hl, haccounted.withdraw, ?_⟩, ?_, ?_, ?_⟩, ?_, ?_⟩
  · exact h.sound.booked_change fun k => (hlive k).2
  · exact congrArg (List.cons _) h.settled.pending
  · exact h.settled.fresh.trans (Fresh.of_live fun k => (hlive k).1) fun _ hn =>
      h.settled.inFlight ▸ hn
  · exact fun k hk => seen_after.2 (Or.inr (h.settled.seen k hk))
  · exact seen_after.2 (Or.inr hlive_l.1)
  · exact fun k hk hname => haccounted.single ((hlive k).1 hk) hlive_l hname

/-- A library whose image was given back, or that is built in, leaves nothing
behind. -/
theorem Leaving.retire {l : Library} (h : Leaving used e m l)
    (hunloaded : l.builtin = false →
      ∃ s older, m.past = ⟨.answered (.unload l.handle) (), s⟩ :: older) :
    Whole used e (m.change (m.state.retire l)) := by
  have haccounted := h.sound.accounted
  have hshelf : ∀ s, l ∉ m.state.onShelf s := by
    intro s hl
    have howner : some s.scope = none := (h.sound.orderly.owner_of_mem hl).symm.trans h.owner?
    simp at howner
  refine ⟨⟨h.sound.orderly.retire l, ?_, ?_⟩, h.settled rfl ?_ ?_⟩
  · exact haccounted.retire h.inFlight h.was hshelf h.sole
  · exact h.sound.booked.retire haccounted h.was hunloaded
  · exact fun k hk => seen_after.2 (Or.inr hk)
  · exact fun k hk => Or.inl (haccounted.live_retire.1 hk).1

end LibraryMoment

end Loading
