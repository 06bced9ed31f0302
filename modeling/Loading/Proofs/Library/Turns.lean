import Loading.Proofs.Library.Entries
import Loading.Proofs.Library.Ownership
import Mathlib.Data.List.Perm.Basic

/-!
# Requests that nobody interrupts

Where neither files nor images call back, a request for native libraries is a few
registrations and removals, one after the other, and nothing is in flight before
and after.  `Turns` lists what was removed on the way, so that the books can be
balanced over any number of requests.

* `Turns` — registrations and removals, with the libraries that were removed.
* `Spent` — a library that was removed never comes back.
* `Went` — what a request did: its turns, the images it gave back, whom it blames.
* `LibraryTask.leads_releaseShelf` — releasing a list empties it.
* `LibraryCall.does` — every request does no more than that.
-/

namespace Loading

open Interaction

namespace LibraryRegistry

/-- Registrations on some lists and removals from them lead from one registry to
another.  The libraries that were removed are listed, the first one first. -/
inductive Turns (used : Shelf → Prop) (r : LibraryRegistry) :
    List Library → LibraryRegistry → Prop where
  /-- Nothing happened. -/
  | rest : Turns used r [] r
  /-- A name without an owner was registered. -/
  | register {gone : List Library} {r' : LibraryRegistry} {s : Shelf} {name : String}
      (h : Turns used r gone r') (hs : used s) (howner : r'.owner? name = none)
      (handle : Handle) (builtin : Bool) :
      Turns used r gone (r'.register name handle s builtin)
  /-- A library was taken from its list. -/
  | remove {gone : List Library} {r' : LibraryRegistry} {s : Shelf} {l : Library}
      (h : Turns used r gone r') (hs : used s) (hl : l ∈ r'.onShelf s) :
      Turns used r (gone ++ [l]) ((r'.withdraw s l).retire l)

/-- A library has been removed, or it is on a list. -/
def Known (gone : List Library) (r : LibraryRegistry) (l : Library) : Prop :=
  l ∈ gone ∨ ∃ s, l ∈ r.onShelf s

/-- The books of a registry from which some libraries have been removed. -/
structure Spent (gone : List Library) (r : LibraryRegistry) : Prop where
  /-- Numbers that are yet to come have not been used. -/
  serial_lt : ∀ {l}, Known gone r l → l.serial < r.next
  /-- A number tells a library from all others. -/
  serial_inj : ∀ {l k}, Known gone r l → Known gone r k → l.serial = k.serial → l = k
  /-- What has been removed is on no list. -/
  off : ∀ {s l}, l ∈ gone → l ∉ r.onShelf s
  /-- Nothing has been removed twice. -/
  nodup : gone.Nodup
  /-- What has been removed is recorded, newest first. -/
  retired : r.retired = (gone.map (·.serial)).reverse

namespace Spent

variable {used : Shelf → Prop} {r : LibraryRegistry} {gone : List Library}

/-- Nothing has been removed from the registry of a new process. -/
theorem empty : Spent [] {} where
  serial_lt := by rintro l (hl | ⟨s, hl⟩) <;> simp [onShelf, Table.findD, Table.find?] at hl
  serial_inj := by rintro l k (hl | ⟨s, hl⟩) <;> simp [onShelf, Table.findD, Table.find?] at hl
  off hl := absurd hl List.not_mem_nil
  nodup := List.nodup_nil
  retired := rfl

/-- A library that is registered gets a number that no other has. -/
theorem register (h : Spent gone r) (name : String) (handle : Handle) (s : Shelf)
    (builtin : Bool) : Spent gone (r.register name handle s builtin) := by
  have hknown : ∀ {l}, Known gone (r.register name handle s builtin) l →
      Known gone r l ∨ l = ⟨r.next, name, handle, s.scope, builtin⟩ := by
    rintro l (hl | ⟨t, hl⟩)
    · exact .inl (.inl hl)
    · exact (mem_onShelf_register.1 hl).imp (fun hl => .inr ⟨t, hl⟩) And.right
  have hnew : ∀ {l}, Known gone r l → l.serial ≠ r.next := fun hl => Nat.ne_of_lt (h.serial_lt hl)
  refine ⟨fun hl => ?_, fun hl hk heq => ?_, fun {t l} hl hmem => ?_, h.nodup, h.retired⟩
  · rcases hknown hl with hl | rfl
    · exact Nat.lt_succ_of_lt (h.serial_lt hl)
    · exact Nat.lt_succ_self _
  · rcases hknown hl with hl | rfl <;> rcases hknown hk with hk | rfl
    · exact h.serial_inj hl hk heq
    · exact absurd heq (hnew hl)
    · exact absurd heq.symm (hnew hk)
    · rfl
  · rcases mem_onShelf_register.1 hmem with hmem | ⟨-, rfl⟩
    · exact h.off hl hmem
    · exact hnew (.inl hl) rfl

/-- A library that is removed has not been removed before. -/
theorem remove (hapart : r.Apart) (ho : r.Orderly used) (h : Spent gone r) {s : Shelf}
    {l : Library} (hl : l ∈ r.onShelf s) : Spent (gone ++ [l]) ((r.withdraw s l).retire l) := by
  have hknown : ∀ {k}, Known (gone ++ [l]) ((r.withdraw s l).retire l) k → Known gone r k := by
    rintro k (hk | ⟨t, hk⟩)
    · rcases List.mem_append.1 hk with hk | hk
      · exact .inl hk
      · exact .inr ⟨s, List.mem_singleton.1 hk ▸ hl⟩
    · exact .inr ⟨t, mem_onShelf_of_withdraw hk⟩
  refine ⟨fun hk => h.serial_lt (hknown hk), fun hk hj => h.serial_inj (hknown hk) (hknown hj),
    fun {t k} hk hmem => ?_, ?_, ?_⟩
  · rcases List.mem_append.1 hk with hk | hk
    · exact h.off hk (mem_onShelf_of_withdraw hmem)
    · exact ho.not_mem_withdraw hapart hl t (List.mem_singleton.1 hk ▸ hmem)
  · have hlast : l ∉ gone := fun hmem => h.off hmem hl
    exact h.nodup.append (List.nodup_singleton l) (List.disjoint_singleton.2 hlast)
  · have hretired : ((r.withdraw s l).retire l).retired = l.serial :: r.retired := rfl
    rw [hretired, h.retired]
    simp

end Spent

namespace Turns

variable {used used' : Shelf → Prop} {r r₁ r₂ : LibraryRegistry} {gone gone' : List Library}

theorem trans (h₁ : Turns used r gone r₁) (h₂ : Turns used r₁ gone' r₂) :
    Turns used r (gone ++ gone') r₂ := by
  induction h₂ with
  | rest => rwa [List.append_nil]
  | register _ hs howner handle builtin ih => exact ih.register hs howner handle builtin
  | remove _ hs hl ih =>
      rw [← List.append_assoc]
      exact ih.remove hs hl

theorem mono (h : Turns used r gone r₁) (hsub : ∀ s, used s → used' s) :
    Turns used' r gone r₁ := by
  induction h with
  | rest => exact .rest
  | register _ hs howner handle builtin ih => exact ih.register (hsub _ hs) howner handle builtin
  | remove _ hs hl ih => exact ih.remove (hsub _ hs) hl

/-- Nothing is left in flight. -/
theorem pending (h : Turns used r gone r₁) : r₁.pending = r.pending := by
  induction h with
  | rest => rfl
  | register _ _ _ _ _ ih => exact ih
  | remove _ _ _ ih => exact ih

/-- Other lists stay as they are. -/
theorem onShelf_of_not (h : Turns used r gone r₁) {s : Shelf} (hs : ¬ used s) :
    r₁.onShelf s = r.onShelf s := by
  induction h with
  | rest => rfl
  | register _ ht _ _ _ ih =>
      have hne : s ≠ _ := fun heq => hs (heq ▸ ht)
      rw [onShelf_register, if_neg hne, ih]
  | remove _ ht _ ih =>
      have hne : s ≠ _ := fun heq => hs (heq ▸ ht)
      rw [onShelf_retire, onShelf_withdraw, if_neg hne, ih]

/-- What was on a list is there still, or was removed. -/
theorem kept (h : Turns used r gone r₁) {s : Shelf} {l : Library} (hl : l ∈ r.onShelf s) :
    l ∈ r₁.onShelf s ∨ l ∈ gone := by
  induction h with
  | rest => exact .inl hl
  | register _ _ _ _ _ ih => exact ih.imp_left fun hmem => mem_onShelf_register.2 (.inl hmem)
  | @remove _ r' t k _ _ hk ih =>
      rcases ih with hmem | hmem
      · by_cases hlk : l = k
        · exact .inr (hlk ▸ List.mem_append_right _ (List.mem_singleton_self _))
        · exact .inl ((mem_onShelf_withdraw_of_ne hlk).2 hmem)
      · exact .inr (List.mem_append_left _ hmem)

/-- A registry stays in order. -/
theorem orderly (hused : OneListPerScope used) (h : Turns used r gone r₁) (ho : r.Orderly used)
    (hpending : r.pending = []) : r₁.Orderly used := by
  induction h with
  | rest => exact ho
  | @register _ r' _ _ h hs howner _ _ ih =>
      have hidle : r'.inFlight = [] := by rw [inFlight, h.pending, hpending, List.map_nil]
      exact ih.register hs howner (by simp [hidle])
  | remove _ _ hl ih => exact (ih.withdraw (ih.apart hused) hl).retire _

/-- The books stay balanced. -/
theorem spent (hused : OneListPerScope used) (h : Turns used r gone' r₁) (ho : r.Orderly used)
    (hpending : r.pending = []) (hspent : Spent gone r) : Spent (gone ++ gone') r₁ := by
  induction h with
  | rest => rwa [List.append_nil]
  | register _ _ _ _ _ ih => exact ih.register ..
  | remove h _ hl ih =>
      have horderly := h.orderly hused ho hpending
      rw [← List.append_assoc]
      exact ih.remove (horderly.apart hused) horderly hl

end Turns

/-- A scope owns a name exactly when something is on its list. -/
theorem Orderly.owns_iff {r : LibraryRegistry} {used : Shelf → Prop} (hused : OneListPerScope used)
    (h : r.Orderly used) {s : Shelf} (hs : used s) :
    (∃ name, r.owner? name = some s.scope) ↔ r.onShelf s ≠ [] := by
  constructor
  · rintro ⟨name, howner⟩ hempty
    obtain ⟨t, hscope, hmem⟩ := h.mem_of_owner howner
    obtain ⟨l, hl, -⟩ := mem_names.1 hmem
    have hts : t = s := hused.unique (h.used_of_mem hl) hs hscope
    rw [hts, hempty] at hl
    exact List.not_mem_nil hl
  · intro hne
    obtain ⟨l, hl⟩ := List.exists_mem_of_ne_nil _ hne
    exact ⟨l.name, h.owner_of_mem hl⟩

end LibraryRegistry

/-- The image that a question gives back. -/
def LibraryQuestion.unloads? : LibraryQuestion → Option Handle
  | .unload handle => some handle
  | _ => none

/-- The images that some libraries have of their own. -/
def ownImages (gone : List Library) : List Handle :=
  (gone.filter fun l => !l.builtin).map (·.handle)

theorem ownImages_append (gone gone' : List Library) :
    ownImages (gone ++ gone') = ownImages gone ++ ownImages gone' := by
  simp [ownImages]

/-- What went wrong, if anything did. -/
def failure? {ε α : Type} : Except ε α → Option ε
  | .error e => some e
  | .ok _ => none

/-- What goes wrong with a request, if anything does. -/
def LibraryCall.failure? : (c : LibraryCall) → c.Result → Option LibraryError
  | .load _ _ => Loading.failure?
  | .loadBuiltin _ => Loading.failure?
  | .loadLibrary _ _ _ _ => Loading.failure?
  | .loadAbsolute _ _ => Loading.failure?
  | .unload _ _ => Loading.failure?
  | .releaseShelf _ => fun _ => none
  | .shutdown => fun _ => none
  | .findNative _ _ => fun _ => none

open LibraryRegistry

/-- What a request did that ended with an error or without one. -/
structure Went (used : Shelf → Prop) (r : LibraryRegistry) (failure : Option LibraryError)
    (r' : LibraryRegistry) (handles : List Handle) : Prop where
  /-- It took some turns, and gave back the images of what it removed. -/
  turned : ∃ gone, Turns used r gone r' ∧ handles = ownImages gone
  /-- A scope that it blames has the library. -/
  blamed : ∀ {name owner requester}, failure = some (.collision name owner requester) →
    r'.owner? name = some owner

namespace Went

variable {used : Shelf → Prop} {r r₁ r₂ : LibraryRegistry} {failure failure' : Option LibraryError}
  {handles handles' : List Handle}

/-- A request may do nothing, and blame a scope that has the library. -/
theorem rest (hblamed : ∀ {name owner requester},
    failure = some (.collision name owner requester) → r.owner? name = some owner) :
    Went used r failure r [] :=
  ⟨⟨[], .rest, rfl⟩, hblamed⟩

theorem pending (h : Went used r failure r₁ handles) (hpending : r.pending = []) :
    r₁.pending = [] := by
  obtain ⟨gone, hturns, -⟩ := h.turned
  rw [hturns.pending, hpending]

/-- The end counts where one thing is done after another. -/
theorem trans (h₁ : Went used r failure r₁ handles) (h₂ : Went used r₁ failure' r₂ handles') :
    Went used r failure' r₂ (handles ++ handles') := by
  obtain ⟨gone, hturns, rfl⟩ := h₁.turned
  obtain ⟨gone', hturns', rfl⟩ := h₂.turned
  exact ⟨⟨gone ++ gone', hturns.trans hturns', (ownImages_append gone gone').symm⟩, h₂.blamed⟩

/-- Nothing more is done, and nobody else is blamed. -/
theorem same (h : Went used r failure r₁ handles)
    (hfailure : ∀ {name owner requester}, failure' = some (.collision name owner requester) →
      failure = some (.collision name owner requester)) :
    Went used r failure' r₁ handles :=
  ⟨h.turned, fun heq => h.blamed (hfailure heq)⟩

end Went

/-! ## What requests do -/

namespace LibraryTask

/-- A request does what it may, and fails as it says. -/
abbrev Does {α : Type} (used : Shelf → Prop) (fails : α → Option LibraryError)
    (p : LibraryTask α) (r : LibraryRegistry) : Prop :=
  p.Leads r fun a r' t => Went used r (fails a) r' (asked LibraryQuestion.unloads? t)

variable {used : Shelf → Prop} {r : LibraryRegistry} {name path : String} {shelf : Shelf}

/-- A question that gives no image back does nothing. -/
theorem does_ask {q : LibraryQuestion} (hq : q.unloads? = none) :
    Does used (fun _ => none) (LibraryTask.ask q) r := by
  refine (leads_asking q).weaken fun a r' t hsame => ?_
  obtain ⟨rfl, rfl⟩ := hsame
  rw [asked_cons, hq]
  exact .rest nofun

/-- One request after another. -/
theorem does_bind {α β : Type} {p : LibraryTask α} {f : α → LibraryTask β}
    {fails : α → Option LibraryError} {fails' : β → Option LibraryError}
    (hpending : r.pending = []) (hp : Does used fails p r)
    (hf : ∀ a r₁ handles, r₁.pending = [] → Went used r (fails a) r₁ handles →
      (f a).Leads r₁ fun b r₂ t => Went used r (fails' b) r₂
        (handles ++ asked LibraryQuestion.unloads? t)) :
    Does used fails' (p >>= f) r := by
  rw [Does, leads_bind]
  refine hp.weaken fun a r₁ t₁ hwent => ?_
  refine (hf a r₁ _ (hwent.pending hpending) hwent).weaken fun b r₂ t₂ hwent₂ => ?_
  rwa [asked_append]

/-- What is done next comes on top of what was done. -/
theorem Does.after {α : Type} {p : LibraryTask α} {fails : α → Option LibraryError}
    {failure : Option LibraryError} {r₁ : LibraryRegistry} {handles : List Handle}
    (hp : Does used fails p r₁) (h : Went used r failure r₁ handles) :
    p.Leads r₁ fun a r₂ t => Went used r (fails a) r₂
      (handles ++ asked LibraryQuestion.unloads? t) :=
  hp.weaken fun _ _ _ hwent => h.trans hwent

/-- Nothing is done any more, and nobody is blamed but who was blamed before. -/
theorem does_done {α : Type} {a : α} {fails : α → Option LibraryError}
    {failure : Option LibraryError} {r₁ : LibraryRegistry} {handles : List Handle}
    (h : Went used r failure r₁ handles)
    (hfailure : ∀ {name owner requester}, fails a = some (.collision name owner requester) →
      failure = some (.collision name owner requester)) :
    (done a : LibraryTask α).Leads r₁ fun b r₂ t => Went used r (fails b) r₂
      (handles ++ asked LibraryQuestion.unloads? t) := by
  have hsame := h.same hfailure
  rwa [← List.append_nil handles] at hsame

/-! ### Loading -/

/-- Where nothing is in flight, a request is refused only for a scope that has the
name. -/
theorem owner?_of_refused {owner : Scope} (hpending : r.pending = [])
    (h : r.admission name shelf = .refused owner) : r.owner? name = some owner := by
  unfold admission pendingScope? at h
  rw [hpending] at h
  split at h
  · cases h
  · split at h
    · rename_i howner
      cases h
      exact howner
    · cases h

/-- Whatever becomes of a name, it is registered or nothing happens, and no image is given
back. -/
theorem went_entry {entry : Entry} {builtin : Bool} {told : Except String Handle → LibraryExchange}
    (htold : ∀ x, (told x).1.unloads? = none) (hs : used shelf) (hpending : r.pending = [])
    (hadmission : r.admission name shelf = entry.admission) :
    Went used r (failure? (entry.result name shelf)) (entry.registry r name shelf builtin)
      (asked LibraryQuestion.unloads? (entry.exchanges told)) := by
  cases entry with
  | present => exact .rest nofun
  | taken owner =>
      refine .rest fun heq => ?_
      cases heq
      exact owner?_of_refused hpending hadmission
  | failed reason =>
      rw [Entry.exchanges, Entry.answer?, Option.map_some, Option.toList_some, asked_cons, htold]
      exact .rest nofun
  | loaded handle =>
      rw [Entry.exchanges, Entry.answer?, Option.map_some, Option.toList_some, asked_cons, htold]
      have howner : r.owner? name = none := (admission_eq_granted hadmission).1
      exact ⟨⟨[], Turns.rest.register hs howner handle builtin, rfl⟩, nofun⟩

theorem does_load (hs : used shelf) (hpending : r.pending = []) :
    Does used failure? (load path shelf) r := by
  refine leads_load.weaken fun result r' t hload => ?_
  obtain ⟨finding, hfits, rfl, rfl, rfl⟩ := hload
  cases finding with
  | missing => exact .rest nofun
  | found name entry => exact went_entry (fun _ => rfl) hs hpending hfits

theorem does_loadBuiltin (hs : used .builtin) (hpending : r.pending = []) :
    Does used failure? (loadBuiltin name) r := by
  refine leads_loadBuiltin.weaken fun result r' t hload => ?_
  rcases hload with ⟨rfl, rfl, rfl⟩ | ⟨entry, hadmission, rfl, rfl, rfl⟩
  · exact .rest nofun
  · exact went_entry (fun _ => rfl) hs hpending hadmission

/-- The canonical name is asked for when all is done. -/
theorem leads_canonical {r₁ : LibraryRegistry} {failure : Option LibraryError}
    {handles : List Handle} {default : String} (h : Went used r failure r₁ handles) :
    (canonical path >>= fun n => done (.ok (n.getD default)) :
        LibraryTask (Except LibraryError String)).Leads r₁
      fun b r₂ t => Went used r (failure? b) r₂ (handles ++ asked LibraryQuestion.unloads? t) :=
  fun _ => does_done h nofun

/-- Whatever becomes of the candidates, each is a load. -/
theorem does_tryCandidates {fault : LinkFault} {places : List String} (hs : used shelf)
    (hpending : r.pending = []) : Does used failure? (tryCandidates name shelf fault places) r := by
  induction places generalizing fault r with
  | nil => exact .rest nofun
  | cons candidate rest ih =>
      unfold tryCandidates
      refine does_bind hpending (does_load hs hpending) fun answer r₁ _ hidle hwent => ?_
      cases answer with
      | ok there =>
          cases there with
          | true => exact leads_canonical hwent
          | false => exact (ih hidle).after hwent
      | error e =>
          cases e with
          | loadFailed _ _ => exact (ih hidle).after hwent
          | unsatisfiedLink _ _ => exact does_done hwent id
          | collision _ _ _ => exact does_done hwent id
          | notLoaded _ => exact does_done hwent id

theorem does_loadLibrary {explicit : Option String} {search : SearchPath}
    (hbuiltin : used .builtin) (hs : used shelf) (hpending : r.pending = []) :
    Does used failure? (loadLibrary name explicit search shelf) r := by
  unfold loadLibrary
  refine does_bind hpending (does_loadBuiltin hbuiltin hpending) fun answer r₁ _ hidle hwent => ?_
  match answer with
  | .error _ => exact does_done hwent id
  | .ok true => exact does_done hwent nofun
  | .ok false => exact (does_tryCandidates hs hidle).after hwent

theorem does_loadAbsolute (hs : used shelf) (hpending : r.pending = []) :
    Does used failure? (loadAbsolute path shelf) r := by
  unfold loadAbsolute
  refine does_bind hpending (does_load hs hpending) fun answer r₁ _ hidle hwent => ?_
  match answer with
  | .ok true => exact leads_canonical hwent
  | .ok false => exact does_done hwent nofun
  | .error (.loadFailed _ _) => exact does_done hwent nofun
  | .error (.unsatisfiedLink _ _) => exact does_done hwent id
  | .error (.collision _ _ _) => exact does_done hwent id
  | .error (.notLoaded _) => exact does_done hwent id

/-! ### Unloading -/

/-- A library that is on the list is removed, and its image is given back if it has one
of its own. -/
theorem leads_unload {l : Library} (hs : used shelf) :
    (unload shelf l).Leads r fun result r' t =>
      Went used r (failure? result) r' (asked LibraryQuestion.unloads? t) ∧
        r'.onShelf shelf = (r.onShelf shelf).erase l := by
  unfold unload
  rw [leads_bind, leads_transact]
  cases hcontains : (r.onShelf shelf).contains l with
  | false =>
      have hmem : l ∉ r.onShelf shelf := by simpa using hcontains
      rw [List.erase_of_not_mem hmem]
      exact ⟨.rest nofun, rfl⟩
  | true =>
      have hmem : l ∈ r.onShelf shelf := List.contains_iff_mem.1 hcontains
      have hremove : Turns used r [l] ((r.withdraw shelf l).retire l) := Turns.rest.remove hs hmem
      have hshelf : ((r.withdraw shelf l).retire l).onShelf shelf = (r.onShelf shelf).erase l := by
        rw [onShelf_retire, onShelf_withdraw, if_pos rfl]
      cases hbuiltin : l.builtin with
      | true =>
          have himages : ownImages [l] = [] := by simp [ownImages, hbuiltin]
          exact ⟨⟨⟨[l], hremove, himages.symm⟩, nofun⟩, hshelf⟩
      | false =>
          have himages : ownImages [l] = [l.handle] := by simp [ownImages, hbuiltin]
          exact fun _ => ⟨⟨⟨[l], hremove, himages.symm⟩, nofun⟩, hshelf⟩

/-- Libraries are taken from their list one by one. -/
theorem leads_unloadAll {libraries : List Library} (hs : used shelf) :
    (unloadAll shelf libraries).Leads r fun _ r' t =>
      Went used r none r' (asked LibraryQuestion.unloads? t) ∧
        r'.onShelf shelf = (r.onShelf shelf).diff libraries := by
  induction libraries generalizing r with
  | nil => exact ⟨.rest nofun, rfl⟩
  | cons l rest ih =>
      unfold unloadAll
      rw [leads_bind]
      refine (leads_unload hs).weaken fun result r₁ t₁ hfirst => ?_
      refine ih.weaken fun _ r₂ t₂ hrest => ?_
      rw [asked_append, hrest.2, hfirst.2, List.diff_cons]
      exact ⟨hfirst.1.trans hrest.1, rfl⟩

theorem diff_self (libraries : List Library) : libraries.diff libraries = [] := by
  induction libraries with
  | nil => rfl
  | cons l rest ih => rw [List.diff_cons, List.erase_cons_head, ih]

/-- Nothing stays on a list that is released. -/
theorem leads_releaseShelf (hs : used shelf) :
    (releaseShelf shelf).Leads r fun _ r' t =>
      Went used r none r' (asked LibraryQuestion.unloads? t) ∧ r'.onShelf shelf = [] := by
  unfold releaseShelf
  rw [leads_bind, leads_observe]
  refine (leads_unloadAll hs).weaken fun _ r' t hwent => ⟨hwent.1, ?_⟩
  rw [hwent.2, List.Perm.diff_left _ (List.reverse_perm _), diff_self]

theorem does_shutdown (hsystem : used .system) (hbuiltin : used .builtin)
    (hpending : r.pending = []) : Does used (fun _ => none) shutdown r := by
  have hrelease : ∀ {s r}, used s → Does used (fun _ => none) (releaseShelf s) r :=
    fun hs => (leads_releaseShelf hs).weaken fun _ _ _ hwent => hwent.1
  unfold shutdown
  exact does_bind hpending (hrelease hsystem) fun _ _ _ _ hwent => (hrelease hbuiltin).after hwent

/-! ### Symbols -/

theorem does_lookupIn {symbol : String} {libraries : List Library} (hpending : r.pending = []) :
    Does used (fun _ => none) (lookupIn symbol libraries) r := by
  induction libraries generalizing r with
  | nil => exact .rest nofun
  | cons l rest ih =>
      unfold lookupIn
      refine does_bind hpending (does_ask (q := .lookup l.handle symbol) rfl)
        fun found r₁ _ hidle hwent => ?_
      cases found with
      | some address => exact does_done hwent nofun
      | none => exact (ih hidle).after hwent

end LibraryTask

/-- Every request goes from one registry to another in turns, on the lists in use. -/
theorem LibraryCall.does (c : LibraryCall) {used : Shelf → Prop} {r : LibraryRegistry}
    (hbuiltin : used .builtin) (hsystem : used .system) (hs : ∀ s ∈ c.shelf?, used s)
    (hpending : r.pending = []) : LibraryTask.Does used c.failure? c.body r := by
  cases c with
  | load path shelf => exact LibraryTask.does_load (hs shelf rfl) hpending
  | loadBuiltin name => exact LibraryTask.does_loadBuiltin hbuiltin hpending
  | loadLibrary name explicit search shelf =>
      exact LibraryTask.does_loadLibrary hbuiltin (hs shelf rfl) hpending
  | loadAbsolute path shelf => exact LibraryTask.does_loadAbsolute (hs shelf rfl) hpending
  | unload shelf l =>
      exact (LibraryTask.leads_unload (hs shelf rfl)).weaken fun _ _ _ hwent => hwent.1
  | releaseShelf shelf =>
      exact (LibraryTask.leads_releaseShelf (hs shelf rfl)).weaken fun _ _ _ hwent => hwent.1
  | shutdown => exact LibraryTask.does_shutdown hsystem hbuiltin hpending
  | findNative shelf symbol => exact LibraryTask.does_lookupIn hpending

end Loading
