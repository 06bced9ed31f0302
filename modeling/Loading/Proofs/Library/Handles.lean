import Loading.Proofs.Library.RequestPreservation

/-!
# No use of an image after it was asked back

An image is known by its handle, and the dynamic loader never gives a handle
twice.  Finalisers run in the middle of an unload, and may load and unload other
libraries or whole lists meanwhile; still no image is asked back twice, and none
is looked into after that.  All this is about the past, so what is kept up ties
the libraries that have been on lists to the history of native calls.

* `Given`, `AskedBack`, `GivenBack` — what has become of an image.
* `Fits` — what must be so when an image is asked back or looked into.
* `Tracked` — what lists and marks say of the history of their images.
* `images_used_well` — in every session all native calls fit, and a library is
  marked as loaded exactly until its image was given back.
* `images_used_well_inside` — a finaliser that unloads, loads and looks up.
-/

namespace Loading

open LibraryRegistry LibraryMoment Service

/-! ## The history of an image -/

/-- The dynamic loader has given the image. -/
def Given (past : List libraryService.Entry) (handle : Handle) : Prop :=
  ∃ x ∈ past, gives? x.event = some handle

/-- The dynamic loader has been asked to unload the image. -/
def AskedBack (past : List libraryService.Entry) (handle : Handle) : Prop :=
  ∃ x ∈ past, x.event = .asked (.unload handle)

/-- The dynamic loader has unloaded the image. -/
def GivenBack (past : List libraryService.Entry) (handle : Handle) : Prop :=
  ∃ x ∈ past, x.event = .answered (.unload handle) ()

section History

variable {past : List libraryService.Entry} {x : libraryService.Entry} {handle : Handle}

theorem given_cons :
    Given (x :: past) handle ↔ gives? x.event = some handle ∨ Given past handle := by
  simp [Given]

theorem askedBack_cons :
    AskedBack (x :: past) handle ↔ x.event = .asked (.unload handle) ∨ AskedBack past handle := by
  simp [AskedBack]

theorem givenBack_cons :
    GivenBack (x :: past) handle ↔
      x.event = .answered (.unload handle) () ∨ GivenBack past handle := by
  simp [GivenBack]

theorem askedBack_cons_of_calm (hx : Calm x.event) :
    AskedBack (x :: past) handle ↔ AskedBack past handle := by
  rw [askedBack_cons, or_iff_right]
  intro hevent
  rw [hevent] at hx
  exact hx

theorem givenBack_cons_of_calm (hx : Calm x.event) :
    GivenBack (x :: past) handle ↔ GivenBack past handle := by
  rw [givenBack_cons, or_iff_right]
  intro hevent
  rw [hevent] at hx
  exact hx

end History

/-- What must be so of a library when its image is asked back. -/
structure Withdrawn (s : LibraryRegistry) (older : List libraryService.Entry) (l : Library) :
    Prop where
  /-- The library has been registered. -/
  registered : LibraryMoment.Seen ⟨s, older⟩ l
  /-- It has an image of its own. -/
  file : l.builtin = false
  /-- It has not been marked as unloaded. -/
  loaded : s.isLoaded l = true
  /-- It is on no list. -/
  off : ∀ shelf, l ∉ s.onShelf shelf
  /-- Nobody owns its name. -/
  free : s.owner? l.name = none
  /-- Its image has not been asked back before. -/
  first : ¬ AskedBack older l.handle

/-- What must be so when an image is asked back or looked into. -/
structure Fits (x : libraryService.Entry) (older : List libraryService.Entry) : Prop where
  /-- An image is asked back once, for a library that has been taken from its list. -/
  unloads : ∀ handle, x.event = .asked (.unload handle) →
    ∃ l, l.handle = handle ∧ Withdrawn x.state older l
  /-- An image is looked into when it was given and has not been asked back. -/
  looks : ∀ handle symbol, x.event = .asked (.lookup handle symbol) →
    Given older handle ∧ ¬ AskedBack older handle

/-- By events without a native call nothing has to fit. -/
theorem Fits.of_calm {x : libraryService.Entry} {older : List libraryService.Entry}
    (hx : Calm x.event) : Fits x older := by
  constructor
  · intro handle hevent
    rw [hevent] at hx
    exact hx.elim
  · intro handle symbol hevent
    rw [hevent] at hx
    exact hx.elim

/-- By answers nothing has to fit either. -/
theorem Fits.of_answered {x : libraryService.Entry} {older : List libraryService.Entry}
    (hx : ∀ q, x.event ≠ .asked q) : Fits x older :=
  ⟨fun _ hevent => absurd hevent (hx _), fun _ _ hevent => absurd hevent (hx _)⟩

/-- All native calls have fitted. -/
def AllFit (past : List libraryService.Entry) : Prop :=
  ∀ x older, x :: older <:+ past → Fits x older

theorem AllFit.cons {past : List libraryService.Entry} {x : libraryService.Entry}
    (h : AllFit past) (hx : Fits x past) : AllFit (x :: past) := by
  intro y older hsuffix
  rcases List.suffix_cons_iff.1 hsuffix with heq | hsuffix
  · obtain ⟨rfl, rfl⟩ := List.cons.inj heq
    exact hx
  · exact h y older hsuffix

namespace LibraryMoment

/-! ## What lists and marks say of images -/

/-- What lists and marks say of the history of images. -/
structure Tracked (m : LibraryMoment) : Prop where
  /-- No name is on two lists. -/
  apart : m.state.Apart
  /-- The image of a library was given. -/
  given : ∀ {l}, m.Seen l → Given m.past l.handle
  /-- A handle tells a library from all others. -/
  handle_inj : ∀ {l k}, m.Seen l → m.Seen k → l.handle = k.handle → l = k
  /-- What was asked back is the image of a library that is on no list any more. -/
  asked : ∀ {handle}, AskedBack m.past handle →
    ∃ l, m.Seen l ∧ l.handle = handle ∧ ∀ s, l ∉ m.state.onShelf s
  /-- What was given back is the image of a library. -/
  back : ∀ {handle}, GivenBack m.past handle → ∃ l, m.Seen l ∧ l.handle = handle
  /-- A library with an image of its own is loaded until the image was given back. -/
  loaded_iff : ∀ {l}, m.Seen l → l.builtin = false →
    (m.state.isLoaded l = true ↔ ¬ GivenBack m.past l.handle)
  /-- All native calls have fitted. -/
  fits : AllFit m.past

/-- Of the libraries that are built in, those that are loaded are on a list, save
perhaps some. -/
def Linked (m : LibraryMoment) (save : Library → Prop) : Prop :=
  ∀ l, m.Seen l → l.builtin = true → m.state.isLoaded l = true →
    (∃ s, l ∈ m.state.onShelf s) ∨ save l

/-- The dynamic loader has just been asked to look into an image. -/
def Looking (m : LibraryMoment) : Prop :=
  ∃ x older handle symbol, m.past = x :: older ∧ x.event = .asked (.lookup handle symbol)

namespace Tracked

variable {m : LibraryMoment} {used : Shelf → Prop} {l : Library}

theorem start : Tracked ⟨{}, []⟩ where
  apart s t name hs := by simp [names, onShelf, Table.findD, Table.find?] at hs
  given h := by simp [Seen] at h
  handle_inj h := by simp [Seen] at h
  asked h := by simp [AskedBack] at h
  back h := by simp [GivenBack] at h
  loaded_iff h := by simp [Seen] at h
  fits x older h := by simp at h

/-- A library on a list has an image that was given and was not asked back. -/
theorem not_askedBack (h : m.Tracked) (haccounted : m.Accounted) {s : Shelf}
    (hl : l ∈ m.state.onShelf s) : ¬ AskedBack m.past l.handle := by
  intro hasked
  obtain ⟨k, hk, hhandle, hoff⟩ := h.asked hasked
  obtain rfl := h.handle_inj hk (haccounted.seen_of_mem hl) hhandle
  exact hoff s hl

/-- Where no library comes onto a list, it is enough to follow the history. -/
theorem same (h : m.Tracked) {m' : LibraryMoment} (hseen : ∀ l, m'.Seen l ↔ m.Seen l)
    (hsub : ∀ {s l}, l ∈ m'.state.onShelf s → l ∈ m.state.onShelf s)
    (hgiven : ∀ handle, Given m.past handle → Given m'.past handle)
    (hasked : ∀ handle, AskedBack m'.past handle → AskedBack m.past handle ∨
      ∃ l, m.Seen l ∧ l.handle = handle ∧ ∀ s, l ∉ m.state.onShelf s)
    (hback : ∀ handle, GivenBack m'.past handle → GivenBack m.past handle ∨
      ∃ l, m.Seen l ∧ l.handle = handle)
    (hloaded : ∀ l, m.Seen l → l.builtin = false →
      (m'.state.isLoaded l = true ↔ ¬ GivenBack m'.past l.handle))
    (hfits : AllFit m'.past) : m'.Tracked where
  apart := h.apart.mono hsub
  given hl := hgiven _ (h.given ((hseen _).1 hl))
  handle_inj hl hk := h.handle_inj ((hseen _).1 hl) ((hseen _).1 hk)
  asked hhandle := by
    obtain ⟨l, hl, heq, hoff⟩ := (hasked _ hhandle).elim h.asked id
    exact ⟨l, (hseen l).2 hl, heq, fun s hs => hoff s (hsub hs)⟩
  back hhandle := by
    obtain ⟨l, hl, heq⟩ := (hback _ hhandle).elim h.back id
    exact ⟨l, (hseen l).2 hl, heq⟩
  loaded_iff hl := hloaded _ ((hseen _).1 hl)
  fits := hfits

/-- Nothing happens to images where no library comes onto a list and none is marked. -/
theorem after (h : m.Tracked) (haccounted : m.Accounted) {v : libraryService.Event}
    (hv : Calm v) {r : LibraryRegistry} (hsub : ∀ {s l}, l ∈ r.onShelf s → l ∈ m.state.onShelf s)
    (hretired : r.retired = m.state.retired) : Tracked (m.after v r) := by
  refine h.same (fun _ => haccounted.seen_change hsub) hsub
    (fun _ hgiven => given_cons.2 (Or.inr hgiven))
    (fun _ hasked => Or.inl ((askedBack_cons_of_calm hv).1 hasked))
    (fun _ hback => Or.inl ((givenBack_cons_of_calm hv).1 hback)) ?_ (h.fits.cons (.of_calm hv))
  intro l hl hfile
  have hmark : r.isLoaded l = m.state.isLoaded l := by simp [isLoaded, hretired]
  rw [Moment.after_state, hmark, h.loaded_iff hl hfile]
  exact not_congr (givenBack_cons_of_calm hv).symm

/-- An image that was never given before is registered. -/
theorem register (h : m.Tracked) (haccounted : m.Accounted) (horderly : m.state.Orderly used)
    {v : libraryService.Event} {name : String} {handle : Handle} {shelf : Shelf} {builtin : Bool}
    (hfresh : ¬ Given m.past handle) (hgives : gives? v = some handle)
    (howner : m.state.owner? name = none) :
    Tracked ((m.note v).change (m.state.finish.register name handle shelf builtin)) := by
  have haccounted' := haccounted.note v
  have hseen : ∀ {l}, Seen ((m.note v).change
      (m.state.finish.register name handle shelf builtin)) l ↔
      l = ⟨m.state.next, name, handle, shelf.scope, builtin⟩ ∨ m.Seen l :=
    haccounted'.seen_register.trans (or_congr Iff.rfl haccounted.seen_note)
  have hother : ∀ {l}, m.Seen l → l.handle ≠ handle := by
    rintro l hl rfl
    exact hfresh (h.given hl)
  -- What was given is neither asked for nor given back by the same event.
  have hasked : ∀ {k}, AskedBack ((m.note v).change
      (m.state.finish.register name handle shelf builtin)).past k ↔ AskedBack m.past k := by
    intro k
    refine Iff.trans (askedBack_cons_of_calm ?_) (askedBack_cons.trans (or_iff_right ?_))
    · trivial
    rintro rfl
    cases hgives
  have hback : ∀ {k}, GivenBack ((m.note v).change
      (m.state.finish.register name handle shelf builtin)).past k ↔ GivenBack m.past k := by
    intro k
    refine Iff.trans (givenBack_cons_of_calm ?_) (givenBack_cons.trans (or_iff_right ?_))
    · trivial
    rintro rfl
    cases hgives
  refine ⟨?_, ?_, ?_, ?_, ?_, ?_, ?_⟩
  · exact Apart.register (r := m.state.finish) h.apart horderly.finish howner
  · intro l hl
    rcases hseen.1 hl with rfl | hl
    · exact given_cons.2 (Or.inr (given_cons.2 (Or.inl hgives)))
    · exact given_cons.2 (Or.inr (given_cons.2 (Or.inr (h.given hl))))
  · intro l k hl hk heq
    rcases hseen.1 hl with rfl | hl <;> rcases hseen.1 hk with rfl | hk
    · rfl
    · exact absurd heq.symm (hother hk)
    · exact absurd heq (hother hl)
    · exact h.handle_inj hl hk heq
  · intro k hk
    obtain ⟨l, hl, hhandle, hoff⟩ := h.asked (hasked.1 hk)
    refine ⟨l, hseen.2 (Or.inr hl), hhandle, fun s hs => ?_⟩
    rcases mem_onShelf_register.1 hs with hs | ⟨-, rfl⟩
    · exact hoff s hs
    · exact hother hl rfl
  · intro k hk
    obtain ⟨l, hl, hhandle⟩ := h.back (hback.1 hk)
    exact ⟨l, hseen.2 (Or.inr hl), hhandle⟩
  · intro l hl hfile
    rw [hback]
    rcases hseen.1 hl with rfl | hl
    · refine iff_of_true (haccounted'.live_register.2 (Or.inl rfl)).2 fun hgone => ?_
      obtain ⟨k, hk, hhandle⟩ := h.back hgone
      exact hother hk hhandle
    · exact h.loaded_iff hl hfile
  · refine (h.fits.cons (.of_answered ?_)).cons (.of_calm ?_)
    · rintro q rfl
      cases hgives
    · trivial

/-- The image of a library that was taken from its list is asked back. -/
theorem ask (h : m.Tracked) (haccounted : m.Accounted) (hl : Withdrawn m.state m.past l) :
    Tracked (m.note (.asked (.unload l.handle))) := by
  have hback : ∀ handle, GivenBack (m.note (.asked (.unload l.handle))).past handle ↔
      GivenBack m.past handle := fun _ => givenBack_cons.trans (or_iff_right nofun)
  refine h.same (fun _ => haccounted.seen_note) (fun hs => hs)
    (fun _ hgiven => given_cons.2 (Or.inr hgiven)) ?_ (fun _ hgone => Or.inl ((hback _).1 hgone))
    ?_ ?_
  · intro handle hasked
    refine (askedBack_cons.1 hasked).symm.imp_right fun hevent => ?_
    cases hevent
    exact ⟨l, hl.registered, rfl, hl.off⟩
  · intro k hk hfile
    rw [hback]
    exact h.loaded_iff hk hfile
  · refine h.fits.cons ⟨fun handle hevent => ?_, fun _ _ => nofun⟩
    cases hevent
    exact ⟨l, rfl, hl⟩

/-- The image of a library on a list is looked into. -/
theorem look (h : m.Tracked) (haccounted : m.Accounted) {s : Shelf} {symbol : String}
    (hl : l ∈ m.state.onShelf s) : Tracked (m.note (.asked (.lookup l.handle symbol))) := by
  have hback : ∀ handle, GivenBack (m.note (.asked (.lookup l.handle symbol))).past handle ↔
      GivenBack m.past handle := fun _ => givenBack_cons.trans (or_iff_right nofun)
  refine h.same (fun _ => haccounted.seen_note) (fun hs => hs)
    (fun _ hgiven => given_cons.2 (Or.inr hgiven))
    (fun _ hasked => Or.inl ((askedBack_cons.1 hasked).resolve_left nofun))
    (fun _ hgone => Or.inl ((hback _).1 hgone)) ?_ ?_
  · intro k hk hfile
    rw [hback]
    exact h.loaded_iff hk hfile
  · refine h.fits.cons ⟨fun _ => nofun, fun handle name hevent => ?_⟩
    cases hevent
    exact ⟨h.given (haccounted.seen_of_mem hl), h.not_askedBack haccounted hl⟩

/-- Marking a library as unloaded changes nothing for the others. -/
theorem isLoaded_retire (haccounted : m.Accounted) (hl : m.Seen l) {k : Library}
    (hk : m.Seen k) : (m.state.retire l).isLoaded k = true ↔
      m.state.isLoaded k = true ∧ k ≠ l := by
  have hserial : k.serial = l.serial ↔ k = l :=
    ⟨haccounted.serial_inj hk hl, congrArg Library.serial⟩
  rw [ne_eq, ← hserial]
  simp [isLoaded, LibraryRegistry.retire, LibraryRegistry.finish, and_comm]

/-- An image was given back, and its library is marked as unloaded. -/
theorem giveBack (h : m.Tracked) (haccounted : m.Accounted) (hl : m.Seen l) :
    Tracked ((m.note (.answered (.unload l.handle) ())).change (m.state.retire l)) := by
  have hback : ∀ handle, GivenBack ((m.note (.answered (.unload l.handle) ())).change
      (m.state.retire l)).past handle ↔ l.handle = handle ∨ GivenBack m.past handle := by
    intro handle
    simp [givenBack_cons]
  refine h.same ?_ (fun hs => hs) ?_ ?_ ?_ ?_ ?_
  · exact fun _ => ((haccounted.note _).seen_change (r := m.state.retire l) fun hk => hk).trans
      haccounted.seen_note
  · exact fun _ hgiven => given_cons.2 (Or.inr (given_cons.2 (Or.inr hgiven)))
  · exact fun _ hasked => Or.inl (by simpa [askedBack_cons] using hasked)
  · exact fun _ hgone => ((hback _).1 hgone).symm.imp_right fun heq => ⟨l, hl, heq⟩
  · intro k hk hfile
    have hsame : l.handle = k.handle ↔ k = l :=
      ⟨fun heq => h.handle_inj hk hl heq.symm, fun heq => by rw [heq]⟩
    rw [hback, not_or, hsame, ← h.loaded_iff hk hfile, and_comm]
    exact isLoaded_retire haccounted hl hk
  · refine (h.fits.cons (.of_answered ?_)).cons (.of_calm ?_)
    · exact fun _ => nofun
    · trivial

/-- A library without an image of its own is marked as unloaded. -/
theorem drop (h : m.Tracked) (haccounted : m.Accounted) (hl : m.Seen l)
    (hbuiltin : l.builtin = true) : Tracked (m.change (m.state.retire l)) := by
  have hcalm : Calm .changed := trivial
  refine h.same (fun _ => haccounted.seen_change fun hk => hk) (fun hs => hs)
    (fun _ hgiven => given_cons.2 (Or.inr hgiven))
    (fun _ hasked => Or.inl ((askedBack_cons_of_calm hcalm).1 hasked))
    (fun _ hgone => Or.inl ((givenBack_cons_of_calm hcalm).1 hgone)) ?_
    (h.fits.cons (.of_calm hcalm))
  intro k hk hfile
  have hne : k ≠ l := by
    rintro rfl
    rw [hbuiltin] at hfile
    cases hfile
  rw [Moment.change_past, givenBack_cons_of_calm hcalm, ← h.loaded_iff hk hfile]
  exact (isLoaded_retire haccounted hl hk).trans (and_iff_left hne)

end Tracked

/-- What is kept up about images whenever outside code has the word. -/
structure Guarded (m : LibraryMoment) : Prop extends Tracked m where
  /-- What is built in is loaded just while it is on a list. -/
  linked : Linked m fun _ => False

/-- What is known of a library that has just been taken from its list. -/
structure Removed (l : Library) (m : LibraryMoment) : Prop extends Tracked m where
  /-- It is the only one that is built in and loaded without being on a list. -/
  linked : Linked m (· = l)
  /-- It has been registered. -/
  registered : m.Seen l
  /-- It has not been marked as unloaded. -/
  loaded : m.state.isLoaded l = true
  /-- It is on no list. -/
  off : ∀ s, l ∉ m.state.onShelf s
  /-- Its image has not been asked back. -/
  first : ¬ AskedBack m.past l.handle

section Guarded

variable {m : LibraryMoment} {used : Shelf → Prop} {l : Library} {shelf : Shelf}

/-- What is built in is not touched where lists and marks stay as they are. -/
theorem Linked.same {save : Library → Prop} (h : Linked m save) {m' : LibraryMoment}
    (hseen : ∀ l, m'.Seen l ↔ m.Seen l) (hshelf : ∀ s, m'.state.onShelf s = m.state.onShelf s)
    (hretired : m'.state.retired = m.state.retired) : Linked m' save := by
  intro l hl hbuiltin hloaded
  simp only [hshelf]
  refine h l ((hseen l).1 hl) hbuiltin ?_
  simpa [isLoaded, hretired] using hloaded

theorem Guarded.after (h : Guarded m) (haccounted : m.Accounted) {v : libraryService.Event}
    (hv : Calm v) {r : LibraryRegistry} (hshelf : ∀ s, r.onShelf s = m.state.onShelf s)
    (hretired : r.retired = m.state.retired) : Guarded (m.after v r) := by
  have hsub : ∀ {s l}, l ∈ r.onShelf s → l ∈ m.state.onShelf s := fun {s _} hl => hshelf s ▸ hl
  refine ⟨h.toTracked.after haccounted hv hsub hretired, ?_⟩
  exact h.linked.same (fun _ => haccounted.seen_change hsub) hshelf hretired

theorem Guarded.register (h : Guarded m) (haccounted : m.Accounted)
    (horderly : m.state.Orderly used) {v : libraryService.Event} {name : String}
    {handle : Handle} {builtin : Bool} (hfresh : ¬ Given m.past handle)
    (hgives : gives? v = some handle) (howner : m.state.owner? name = none) :
    Guarded ((m.note v).change (m.state.finish.register name handle shelf builtin)) := by
  refine ⟨h.toTracked.register haccounted horderly hfresh hgives howner, ?_⟩
  intro l hl hbuiltin hloaded
  left
  rcases (haccounted.note v).seen_register.1 hl with rfl | hl
  · exact ⟨shelf, mem_onShelf_register.2 (Or.inr ⟨rfl, rfl⟩)⟩
  · obtain ⟨s, hs⟩ := (h.linked l (haccounted.seen_note.1 hl) hbuiltin hloaded).resolve_right id
    exact ⟨s, mem_onShelf_register.2 (Or.inl hs)⟩

/-- A library that is taken from its list is on no other one. -/
theorem Guarded.withdraw (h : Guarded m) (haccounted : m.Accounted)
    (horderly : m.state.Orderly used) (hl : l ∈ m.state.onShelf shelf) :
    Removed l (m.change (m.state.withdraw shelf l)) := by
  have hseen : ∀ k, Seen (m.change (m.state.withdraw shelf l)) k ↔ m.Seen k := fun _ =>
    haccounted.seen_change mem_onShelf_of_withdraw
  have hcalm : Calm .changed := trivial
  refine ⟨h.toTracked.after haccounted hcalm mem_onShelf_of_withdraw rfl, ?_, ?_, ?_, ?_, ?_⟩
  · intro k hk hbuiltin hloaded
    obtain ⟨s, hs⟩ := (h.linked k ((hseen k).1 hk) hbuiltin hloaded).resolve_right id
    by_cases hkl : k = l
    · exact Or.inr hkl
    · exact Or.inl ⟨s, (mem_onShelf_withdraw_of_ne hkl).2 hs⟩
  · exact (hseen l).2 (haccounted.seen_of_mem hl)
  · exact haccounted.loaded_of_mem hl
  · exact horderly.not_mem_withdraw h.apart hl
  · rw [Moment.change_past, askedBack_cons_of_calm hcalm]
    exact h.not_askedBack haccounted hl

/-- The image of a library that was taken from its list is asked back, if it has one of
its own. -/
theorem Removed.ask (h : Removed l m) (haccounted : m.Accounted) (hfile : l.builtin = false)
    (hfree : m.state.owner? l.name = none) : Guarded (m.note (.asked (.unload l.handle))) := by
  have hwithdrawn : Withdrawn m.state m.past l :=
    ⟨h.registered, hfile, h.loaded, h.off, hfree, h.first⟩
  refine ⟨h.toTracked.ask haccounted hwithdrawn, ?_⟩
  intro k hk hbuiltin hloaded
  refine (h.linked k (haccounted.seen_note.1 hk) hbuiltin hloaded).imp_right ?_
  rintro rfl
  rw [hbuiltin] at hfile
  cases hfile

theorem Removed.drop (h : Removed l m) (haccounted : m.Accounted) (hbuiltin : l.builtin = true) :
    Guarded (m.change (m.state.retire l)) := by
  refine ⟨h.toTracked.drop haccounted h.registered hbuiltin, ?_⟩
  intro k hk hkbuiltin hloaded
  replace hk : m.Seen k := (haccounted.seen_change (r := m.state.retire l) fun hk => hk).1 hk
  obtain ⟨hloaded, hne⟩ := (Tracked.isLoaded_retire haccounted h.registered hk).1 hloaded
  exact (h.linked k hk hkbuiltin hloaded).imp_right hne

theorem Guarded.giveBack (h : Guarded m) (haccounted : m.Accounted) (hl : m.Seen l) :
    Guarded ((m.note (.answered (.unload l.handle) ())).change (m.state.retire l)) := by
  refine ⟨h.toTracked.giveBack haccounted hl, ?_⟩
  intro k hk hbuiltin hloaded
  have hseen := (haccounted.note (.answered (.unload l.handle) ())).seen_change
    (v := .changed) (r := m.state.retire l) (l := k) fun hk => hk
  replace hk : m.Seen k := haccounted.seen_note.1 (hseen.1 hk)
  exact h.linked k hk hbuiltin ((Tracked.isLoaded_retire haccounted hl hk).1 hloaded).1

theorem Guarded.look (h : Guarded m) (haccounted : m.Accounted) {symbol : String}
    (hl : l ∈ m.state.onShelf shelf) : Guarded (m.note (.asked (.lookup l.handle symbol))) :=
  ⟨h.toTracked.look haccounted hl, h.linked.same (fun _ => haccounted.seen_note) (fun _ => rfl) rfl⟩

end Guarded
end LibraryMoment

/-! ## All sessions -/

/-- The dynamic loader gives every handle once, and looking up symbols calls nothing
back; requests may name any lists. -/
def imageRules : libraryService.Rules where
  mayCall m _ := ¬ Looking m
  mayAnswer := givesOnly fun m handle => ¬ Given m.past handle
  mayChange _ _ := False

/-- That images are used well is kept up under these rules. -/
def images : LibraryUpkeep where
  used _ := True
  mayCall m := ¬ Looking m
  mayGive m handle := ¬ Given m.past handle
  Kept := Guarded
  Taken := Removed
  Between m m' := Looking m → m' = m
  Found m l := ∃ s, l ∈ m.state.onShelf s
  used_builtin := trivial
  between_refl _ _ := rfl
  between_trans h₁ h₂ hlooking := by
    have heq := h₁ hlooking
    rw [h₂ (heq ▸ hlooking), heq]
  between_call hmay hlooking := absurd hlooking hmay
  apart _ h := h.apart
  calm hsound h hv hshelf hretired := h.after hsound.accounted hv hshelf hretired
  registered hsound h hfresh hgives howner :=
    h.register hsound.accounted hsound.orderly hfresh hgives howner
  taken hsound h hl := h.withdraw hsound.accounted hsound.orderly hl
  asked hsound h hfile hfree := h.ask hsound.accounted hfile hfree
  returned hsound h hl _ := h.giveBack hsound.accounted hl
  dropped hsound h hbuiltin := h.drop hsound.accounted hbuiltin
  found hl := ⟨_, hl⟩
  looked hsound h hfound := by
    obtain ⟨s, hs⟩ := hfound
    exact h.look hsound.accounted hs
  found_later hfound hbetween := by
    rw [hbetween ⟨_, _, _, _, rfl, rfl⟩]
    exact hfound

/-- In every session, however often requests are called back: an image is asked back at
most once, for a library with an image of its own that has been taken from its list and
whose name has no owner; an image is looked into only if it was given and has not been
asked back; and a library is marked as loaded from its registration until its image has
been given back, or while it is on a list if it is built in.  The dynamic loader is
expected to give no handle twice, and looking up symbols to call nothing back. -/
theorem images_used_well {σ : libraryService.Session} (h : Reaches imageRules (.start {}) σ) :
    (∀ x older, x :: older <:+ σ.now.past → Fits x older) ∧
    (Idle σ.frames = true → ∀ l, Seen σ.now l → (σ.now.state.isLoaded l = true ↔
      if l.builtin then ∃ s, l ∈ σ.now.state.onShelf s else ¬ GivenBack σ.now.past l.handle)) := by
  have hreaches : Reaches images.rules (.start {}) σ := by
    refine h.mono ?_ ?_ ?_
    · exact fun _ _ hmay => ⟨hmay, fun _ _ => trivial⟩
    · exact fun _ _ _ hmay => hmay
    · exact fun _ _ hchange => hchange
  have hstart : images.terms.Inv ⟨{}, []⟩ :=
    ⟨⟨.empty, .start, .start⟩, .start, fun _ hl => by simp [Seen] at hl⟩
  have hupheld := images.discipline.upheld hstart hreaches
  constructor
  · intro x older hsuffix
    obtain ⟨ρ, hρ, -, -, hguarded⟩ := hupheld.surfaces
    exact hguarded.fits x older (hsuffix.trans hρ.past)
  · intro idle l hl
    obtain ⟨hsound, hguarded⟩ := hupheld.inv idle
    cases hbuiltin : l.builtin with
    | false => simpa using hguarded.loaded_iff hl hbuiltin
    | true =>
        simp only [if_true]
        constructor
        · intro hloaded
          exact (hguarded.linked l hl hbuiltin hloaded).resolve_right id
        · rintro ⟨s, hs⟩
          exact hsound.accounted.loaded_of_mem hs

/-! ## A finaliser at work -/

/-- The library that is unloaded first. -/
def leavingFirst : Library := ⟨0, "/lib/a", ⟨1⟩, .system, false⟩

/-- The finaliser of a library looks up a symbol, unloads what else is on the list, and
loads its own library, which is still in flight. -/
def finalising : List libraryService.Move :=
  [.call (.load "a" .system), .answer (.canonical "a") (some "/lib/a"),
    .answer (.load "/lib/a") (.ok ⟨1⟩), .finish,
    .call (.load "b" .system), .answer (.canonical "b") (some "/lib/b"),
    .answer (.load "/lib/b") (.ok ⟨2⟩), .finish,
    .call (.unload .system leavingFirst),
    .call (.findNative .system "f"), .answer (.lookup ⟨2⟩ "f") (some 7), .finish,
    .call (.releaseShelf .system), .answer (.unload ⟨2⟩) (), .finish,
    .call (.load "a" .system), .answer (.canonical "a") (some "/lib/a"), .finish,
    .answer (.unload ⟨1⟩) (), .finish]

theorem finalising_allowed : imageRules.AllowsAll finalising (.start {}) := by
  unfold finalising
  repeat' refine allowsAll_cons ?_ rfl ?_
  -- Calls must not come while a symbol is looked up, and handles must be new.
  all_goals first
    | trivial
    | (rintro ⟨x, older, handle, symbol, hpast, hevent⟩
       cases hpast <;> cases hevent)
    | (show ¬ Given _ _
       unfold Given
       decide)

/-- Both images are given back, the one inside the other. -/
theorem images_used_well_inside :
    ∃ σ : libraryService.Session, Session.play finalising (.start {}) = some σ ∧
      (∀ x older, x :: older <:+ σ.now.past → Fits x older) ∧
      GivenBack σ.now.past ⟨2⟩ ∧ GivenBack σ.now.past leavingFirst.handle ∧
      (σ.now.state.isLoaded leavingFirst = true ↔ ¬ GivenBack σ.now.past leavingFirst.handle) := by
  have hwell := images_used_well (reaches_of_play finalising_allowed rfl)
  refine ⟨_, rfl, hwell.1, ?_, ?_, hwell.2 rfl leavingFirst ?_⟩
  · exact ⟨_, List.mem_of_getElem? (i := 10) rfl, rfl⟩
  · exact ⟨_, List.mem_of_getElem? (i := 2) rfl, rfl⟩
  · exact ⟨_, List.mem_of_getElem? (i := 22) rfl, .system, by decide⟩

end Loading
