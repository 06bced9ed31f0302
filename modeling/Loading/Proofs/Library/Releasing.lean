import Loading.Proofs.Library.Searching
import Loading.Proofs.Library.Turns

/-!
# Releasing a list of libraries

A list is released by taking its libraries from it one after the other, the newest
first.  The loop goes through a copy of the list, and every turn looks for its library
on what is left and takes its name from the owners.  Since no name is on two lists and no
number stands for two libraries, the turns do not get into each other's way.

* `LibraryRegistry.without` — a registry from which libraries of a list were taken.
* `LibraryTask.ends_releaseShelf` — what a release asks, and the registry that it leaves.
* `LibraryUpkeep.inOrder` — the lists stand in the order of registration.
* `Distinct` — names and numbers tell libraries apart.
* `Released` — everything there is to say about a release.
* `released_whole` — every release goes like that, and so does the end of the process.
-/

namespace Loading

open Interaction LibraryRegistry LibraryMoment Service

namespace LibraryRegistry

/-! ## Taking libraries from a list -/

/-- The registry from which some libraries of a list have been taken, one after the
other. -/
def without (r : LibraryRegistry) (shelf : Shelf) : List Library → LibraryRegistry
  | [] => r
  | l :: rest => ((r.withdraw shelf l).retire l).without shelf rest

section Without

variable {r : LibraryRegistry} {shelf : Shelf} {libraries : List Library}

theorem onShelf_without {s : Shelf} : (r.without shelf libraries).onShelf s =
    if s = shelf then (r.onShelf shelf).diff libraries else r.onShelf s := by
  induction libraries generalizing r with
  | nil =>
      split
      · rename_i hs
        rw [hs, List.diff_nil, without]
      · rfl
  | cons l rest ih =>
      rw [without, ih, List.diff_cons]
      simp only [onShelf_retire, onShelf_withdraw, if_true]
      split
      · rfl
      · rfl

/-- The names of the libraries that were taken have no owner, all others have theirs. -/
theorem owner?_without {name : String} : (r.without shelf libraries).owner? name =
    if name ∈ libraries.map (·.name) then none else r.owner? name := by
  induction libraries generalizing r with
  | nil => rfl
  | cons l rest ih =>
      rw [without, ih, owner?_retire, owner?_withdraw, List.map_cons]
      by_cases hrest : name ∈ rest.map (·.name)
      · rw [if_pos hrest, if_pos (List.mem_cons_of_mem _ hrest)]
      · simp [hrest]

/-- The libraries that were taken are marked, and no others are. -/
theorem isLoaded_without {l : Library} : (r.without shelf libraries).isLoaded l = true ↔
    l.serial ∉ libraries.map (·.serial) ∧ r.isLoaded l = true := by
  induction libraries generalizing r with
  | nil => simp [without]
  | cons k rest ih =>
      have hretire : ((r.withdraw shelf k).retire k).isLoaded l = true ↔
          l.serial ≠ k.serial ∧ r.isLoaded l = true := by
        simp [isLoaded, retire, withdraw, finish]
      rw [without, ih, hretire, List.map_cons, List.mem_cons, not_or, and_assoc, and_left_comm]

/-- Nothing else is in flight than before. -/
theorem pending_without : (r.without shelf libraries).pending = r.pending := by
  induction libraries generalizing r with
  | nil => rfl
  | cons l rest ih => exact ih

end Without

end LibraryRegistry

/-! ## What a release asks -/

/-- The images of some libraries are given back, one after the other. -/
def givingBack (libraries : List Library) : List LibraryExchange :=
  (ownImages libraries).map fun handle => ⟨.unload handle, ()⟩

theorem givingBack_cons (l : Library) (rest : List Library) :
    givingBack [l] ++ givingBack rest = givingBack (l :: rest) := by
  unfold givingBack
  rw [← List.map_append, ← ownImages_append, List.singleton_append]

namespace LibraryTask

variable {E : Type}
  {answer : (q : LibraryQuestion) → LibraryRegistry → E → q.Answer × LibraryRegistry × E}
  {r : LibraryRegistry} {shelf : Shelf}

/-- A library that is on the list is taken from it, and its image is given back if it has
one of its own. -/
theorem ends_unload (hquiet : ∀ handle r e, (answer (.unload handle) r e).2.1 = r) {l : Library}
    (hl : l ∈ r.onShelf shelf) :
    Ends answer (fun _ => true) (fun _ r' t => r' = (r.withdraw shelf l).retire l ∧
      t = givingBack [l]) (unload shelf l) r := by
  have hcontains : (r.onShelf shelf).contains l = true := List.contains_iff_mem.2 hl
  unfold unload
  apply ends_bind
  apply ends_transact
  rw [hcontains]
  cases hbuiltin : l.builtin with
  | true =>
      have himages : givingBack [l] = [] := by simp [givingBack, ownImages, hbuiltin]
      rw [himages]
      exact fun _ => ⟨rfl, rfl⟩
  | false =>
      have himages : givingBack [l] = [⟨.unload l.handle, ()⟩] := by
        simp [givingBack, ownImages, hbuiltin]
      rw [himages]
      apply ends_bind
      refine ends_question (q := LibraryQuestion.unload l.handle) fun e => ?_
      rw [hquiet]
      exact fun _ => ⟨rfl, rfl⟩

/-- Libraries that are on the list are taken from it in the order in which they are
given. -/
theorem ends_unloadAll (hquiet : ∀ handle r e, (answer (.unload handle) r e).2.1 = r)
    {libraries : List Library} (hsub : libraries.Subperm (r.onShelf shelf)) :
    Ends answer (fun _ => true) (fun _ r' t => r' = r.without shelf libraries ∧
      t = givingBack libraries) (unloadAll shelf libraries) r := by
  induction libraries generalizing r with
  | nil => exact fun _ => ⟨rfl, rfl⟩
  | cons l rest ih =>
      have hrest : rest.Subperm (((r.withdraw shelf l).retire l).onShelf shelf) := by
        have herase := hsub.erase l
        rw [List.erase_cons_head] at herase
        rwa [onShelf_retire, onShelf_withdraw, if_pos rfl]
      unfold unloadAll
      apply ends_bind
      refine (ends_unload hquiet (hsub.subset List.mem_cons_self)).weaken fun _ r₁ t₁ hfirst => ?_
      obtain ⟨rfl, rfl⟩ := hfirst
      refine (ih hrest).weaken fun _ r₂ t₂ hall => ?_
      obtain ⟨rfl, rfl⟩ := hall
      exact ⟨rfl, givingBack_cons l rest⟩

/-- All libraries of the list are taken from it, the newest first. -/
theorem ends_releaseShelf (hquiet : ∀ handle r e, (answer (.unload handle) r e).2.1 = r) :
    Ends answer (fun _ => true) (fun _ r' t => r' = r.without shelf (r.onShelf shelf).reverse ∧
      t = givingBack (r.onShelf shelf).reverse) (releaseShelf shelf) r := by
  unfold releaseShelf
  apply ends_bind
  apply ends_observe
  exact ends_unloadAll hquiet (List.reverse_perm _).subperm

/-- Where nothing is on the list, nothing happens, whoever might be asked. -/
theorem ends_releaseShelf_of_empty (hempty : r.onShelf shelf = []) :
    Ends answer (fun _ => true) (fun _ r' t => r' = r ∧ t = []) (releaseShelf shelf) r := by
  unfold releaseShelf
  apply ends_bind
  apply ends_observe
  rw [hempty]
  exact fun _ => ⟨rfl, rfl⟩

end LibraryTask

/-! ## What a release leaves -/

/-- Every list stands in the order of registration. -/
def InOrder (r : LibraryRegistry) : Prop :=
  ∀ s, (r.onShelf s).Pairwise fun l k => l.serial < k.serial

namespace InOrder

variable {r r' : LibraryRegistry}

/-- Lists that lost some of their libraries are in order if they were. -/
theorem of_sublist (h : InOrder r) (hsub : ∀ s, (r'.onShelf s).Sublist (r.onShelf s)) :
    InOrder r' :=
  fun s => (h s).sublist (hsub s)

/-- What is registered comes behind what was registered before. -/
theorem register (h : InOrder r) (hlt : ∀ {s l}, l ∈ r.onShelf s → l.serial < r.next)
    (name : String) (handle : Handle) (shelf : Shelf) (builtin : Bool) :
    InOrder (r.register name handle shelf builtin) := by
  intro s
  rw [onShelf_register]
  split
  · refine List.pairwise_append.2 ⟨h shelf, List.pairwise_singleton _ _, fun l hl k hk => ?_⟩
    obtain rfl := List.mem_singleton.1 hk
    exact hlt hl
  · exact h s

theorem withdraw (h : InOrder r) (shelf : Shelf) (l : Library) :
    InOrder (r.withdraw shelf l) := by
  refine h.of_sublist fun s => ?_
  rw [onShelf_withdraw]
  split
  · rename_i hs
    rw [hs]
    exact List.erase_sublist
  · exact List.Sublist.refl _

end InOrder

/-- No name comes onto two lists, and every list stands in the order of registration. -/
def LibraryUpkeep.inOrder : LibraryUpkeep where
  used _ := True
  mayCall _ := True
  mayGive _ _ := True
  Kept m := m.state.Apart ∧ InOrder m.state
  Taken _ m := m.state.Apart ∧ InOrder m.state
  Between _ _ := True
  Found _ _ := True
  used_builtin := trivial
  between_refl _ := trivial
  between_trans _ _ := trivial
  between_call _ := trivial
  apart _ h := h.1
  calm _ h _ hshelf _ :=
    ⟨h.1.mono fun hl => hshelf _ ▸ hl,
      h.2.of_sublist fun s => (hshelf s).symm ▸ List.Sublist.refl _⟩
  registered hsound h _ _ howner := by
    refine ⟨Apart.register h.1 hsound.orderly howner, h.2.register ?_ _ _ _ _⟩
    exact fun hl => hsound.accounted.serial_lt (hsound.accounted.seen_of_mem hl)
  taken _ h _ := ⟨h.1.mono mem_onShelf_of_withdraw, h.2.withdraw _ _⟩
  asked _ h _ _ := h
  returned _ h _ _ := h
  dropped _ h _ := h
  found _ := trivial
  looked _ h _ := h
  found_later _ _ := trivial

/-- Names and numbers tell the libraries on the lists apart. -/
structure Distinct (r : LibraryRegistry) : Prop where
  /-- No name is on two lists. -/
  apart : r.Apart
  /-- The scope of a list owns what is on it. -/
  owner_of_mem : ∀ {s l}, l ∈ r.onShelf s → r.owner? l.name = some s.scope
  /-- What is on a list has not been unloaded. -/
  loaded_of_mem : ∀ {s l}, l ∈ r.onShelf s → r.isLoaded l = true
  /-- A number tells a library from all others. -/
  serial_inj : ∀ {s t l k}, l ∈ r.onShelf s → k ∈ r.onShelf t → l.serial = k.serial → l = k
  /-- Every list stands in the order of registration. -/
  sorted : InOrder r

/-- Whenever outside code has the word, the libraries on the lists can be told apart. -/
theorem distinct_of_reaches {σ : libraryService.Session}
    (h : Reaches (libraryRules fun _ => True) (.start {}) σ) (hidle : Idle σ.frames = true) :
    Distinct σ.now.state := by
  have hstart : LibraryUpkeep.inOrder.terms.Inv ⟨{}, []⟩ :=
    ⟨⟨.empty, .start, .start⟩, apart_start, fun s => by simp [onShelf, Table.findD, Table.find?]⟩
  obtain ⟨hsound, hapart, hsorted⟩ :=
    (LibraryUpkeep.inOrder.discipline.upheld hstart (reaches_anyLists h)).inv hidle
  refine ⟨hapart, hsound.orderly.owner_of_mem, hsound.accounted.loaded_of_mem, fun hl hk => ?_,
    hsorted⟩
  exact hsound.accounted.serial_inj (hsound.accounted.seen_of_mem hl)
    (hsound.accounted.seen_of_mem hk)

/-- What there is to say about the release of a list: what is asked, and what becomes of
the list, of its libraries and of everything else. -/
structure Released {E : Type}
    (answer : (q : LibraryQuestion) → LibraryRegistry → E → q.Answer × LibraryRegistry × E)
    (shelf : Shelf) (r r' : LibraryRegistry) (t : List LibraryExchange) : Prop where
  /-- The list stands in the order of registration, and no library is on it twice. -/
  registered : (r.onShelf shelf).Pairwise fun l k => l.serial < k.serial
  /-- The image of each library that has one of its own is given back once, that of the
  newest library first, and nothing else is asked. -/
  given_back : t = ((r.onShelf shelf).reverse.filter fun l => !l.builtin).map fun l =>
    ⟨.unload l.handle, ()⟩
  /-- Nothing stays on the list. -/
  emptied : r'.onShelf shelf = []
  /-- The names of the list have no owner any more, and every other name keeps its own. -/
  disowned : ∀ name, r'.owner? name = if name ∈ r.names shelf then none else r.owner? name
  /-- The libraries of the list are not loaded any more. -/
  unloaded : ∀ l ∈ r.onShelf shelf, r'.isLoaded l = false
  /-- Every other list is as it was. -/
  others : ∀ s, s ≠ shelf → r'.onShelf s = r.onShelf s
  /-- The libraries of every other list are loaded, and belong to the scope that had
  them. -/
  others_kept : ∀ s, s ≠ shelf → ∀ l ∈ r.onShelf s,
    r'.isLoaded l = true ∧ r.owner? l.name = some s.scope ∧ r'.owner? l.name = some s.scope
  /-- Nothing else is in flight than before. -/
  in_flight : r'.pending = r.pending
  /-- Releasing the list once more asks nothing and changes nothing. -/
  again : Ends answer (fun _ => true) (fun _ r'' t' => r'' = r' ∧ t' = [])
    (LibraryTask.releaseShelf shelf) r'

section Released

variable {E : Type}
  {answer : (q : LibraryQuestion) → LibraryRegistry → E → q.Answer × LibraryRegistry × E}
  {r r' : LibraryRegistry} {shelf : Shelf} {t : List LibraryExchange}

/-- Where libraries can be told apart, one list is released and the others stay as they
are. -/
theorem released_without (h : Distinct r) :
    Released answer shelf r (r.without shelf (r.onShelf shelf).reverse)
      (givingBack (r.onShelf shelf).reverse) := by
  have hempty : (r.without shelf (r.onShelf shelf).reverse).onShelf shelf = [] := by
    rw [onShelf_without, if_pos rfl, List.Perm.diff_left _ (List.reverse_perm _),
      LibraryTask.diff_self]
  have howner : ∀ name, (r.without shelf (r.onShelf shelf).reverse).owner? name =
      if name ∈ r.names shelf then none else r.owner? name := by
    intro name
    rw [owner?_without, List.map_reverse]
    exact if_congr List.mem_reverse rfl rfl
  refine
    { registered := h.sorted shelf
      given_back := ?_
      emptied := hempty
      disowned := howner
      unloaded := fun l hl => ?_
      others := fun s hs => ?_
      others_kept := fun s hs l hl => ⟨?_, h.owner_of_mem hl, ?_⟩
      in_flight := pending_without
      again := LibraryTask.ends_releaseShelf_of_empty hempty }
  · rw [givingBack, ownImages, List.map_map]
    rfl
  · rw [← Bool.not_eq_true, isLoaded_without]
    exact fun hloaded => hloaded.1 (List.mem_map.2 ⟨l, List.mem_reverse.2 hl, rfl⟩)
  · rw [onShelf_without, if_neg hs]
  · refine isLoaded_without.2 ⟨fun hmem => ?_, h.loaded_of_mem hl⟩
    obtain ⟨k, hk, hserial⟩ := List.mem_map.1 hmem
    have hk : k ∈ r.onShelf shelf := List.mem_reverse.1 hk
    obtain rfl := h.serial_inj hk hl hserial
    exact hs (h.apart s shelf k.name (mem_names.2 ⟨k, hl, rfl⟩) (mem_names.2 ⟨k, hk, rfl⟩))
  · have hname : l.name ∉ r.names shelf := fun hmem =>
      hs (h.apart s shelf l.name (mem_names.2 ⟨l, hl, rfl⟩) hmem)
    rw [howner, if_neg hname, h.owner_of_mem hl]

/-- What is on a list after a release has been there before, on another list than the one
that was released. -/
theorem Released.mem_onShelf (h : Released answer shelf r r' t) {s : Shelf} {l : Library}
    (hl : l ∈ r'.onShelf s) : s ≠ shelf ∧ l ∈ r.onShelf s := by
  by_cases hs : s = shelf
  · rw [hs, h.emptied] at hl
    cases hl
  · rw [h.others s hs] at hl
    exact ⟨hs, hl⟩

/-- What a release leaves on the lists can be told apart as before. -/
theorem Released.distinct (h : Released answer shelf r r' t) (hr : Distinct r) : Distinct r' where
  apart := hr.apart.mono fun hl => (h.mem_onShelf hl).2
  owner_of_mem hl := by
    obtain ⟨hs, hl⟩ := h.mem_onShelf hl
    exact (h.others_kept _ hs _ hl).2.2
  loaded_of_mem hl := by
    obtain ⟨hs, hl⟩ := h.mem_onShelf hl
    exact (h.others_kept _ hs _ hl).1
  serial_inj hl hk := hr.serial_inj (h.mem_onShelf hl).2 (h.mem_onShelf hk).2
  sorted := hr.sorted.of_sublist fun s => by
    by_cases hs : s = shelf
    · rw [hs, h.emptied]
      exact List.nil_sublist _
    · rw [h.others s hs]

variable (hquiet : ∀ handle r e, (answer (.unload handle) r e).2.1 = r)
include hquiet

theorem ends_released (h : Distinct r) :
    Ends answer (fun _ => true) (fun _ r' t => Released answer shelf r r' t)
      (LibraryTask.releaseShelf shelf) r := by
  refine (LibraryTask.ends_releaseShelf hquiet).weaken fun _ r' t hwithout => ?_
  obtain ⟨rfl, rfl⟩ := hwithout
  exact released_without h

theorem ends_shutdown (h : Distinct r) :
    Ends answer (fun _ => true) (fun _ r' t => ∃ r₁ t₁ t₂, t = t₁ ++ t₂ ∧
      Released answer .system r r₁ t₁ ∧ Released answer .builtin r₁ r' t₂)
      LibraryTask.shutdown r := by
  unfold LibraryTask.shutdown
  apply ends_bind
  refine (ends_released hquiet h).weaken fun _ r₁ t₁ hsystem => ?_
  refine (ends_released hquiet (hsystem.distinct h)).weaken fun _ r' t₂ hbuiltin => ?_
  exact ⟨r₁, t₁, t₂, rfl, hsystem, hbuiltin⟩

end Released

/-- Whatever has happened, and whatever is still going on: where finalisers do not call
back, a list that is released gives every image of its own back once, the newest first,
and loses its libraries and their names, and everything else stays as it is.  At the end
of the process this happens to the list of the process, and then to that of the built-in
libraries. -/
theorem released_whole {E : Type}
    {answer : (q : LibraryQuestion) → LibraryRegistry → E → q.Answer × LibraryRegistry × E}
    (hquiet : ∀ handle r e, (answer (.unload handle) r e).2.1 = r) {σ : libraryService.Session}
    (h : Reaches (libraryRules fun _ => True) (.start {}) σ) (hidle : Idle σ.frames = true) :
    (∀ shelf, Ends answer (fun _ => true) (fun _ r' t => Released answer shelf σ.now.state r' t)
      (LibraryTask.releaseShelf shelf) σ.now.state) ∧
    Ends answer (fun _ => true) (fun _ r' t => ∃ r₁ t₁ t₂, t = t₁ ++ t₂ ∧
      Released answer .system σ.now.state r₁ t₁ ∧ Released answer .builtin r₁ r' t₂)
      LibraryTask.shutdown σ.now.state := by
  have hdistinct := distinct_of_reaches h hidle
  exact ⟨fun _ => ends_released hquiet hdistinct, ends_shutdown hquiet hdistinct⟩

/-! ## A release in the middle of a load -/

/-- A loader has two libraries, the runtime and the process have one each, and the process
waits for the image of another one. -/
def crowded : List libraryService.Move :=
  [.call (.load "/a" (.ofLoader ⟨1⟩)), .answer (.canonical "/a") (some "/lib/a"),
    .answer (.load "/lib/a") (.ok ⟨1⟩), .finish,
    .call (.loadBuiltin "z"), .answer (.isBuiltin "z") true,
    .answer (.loadBuiltin "z") (.ok ⟨2⟩), .finish,
    .call (.load "/b" (.ofLoader ⟨1⟩)), .answer (.canonical "/b") (some "/lib/b"),
    .answer (.load "/lib/b") (.ok ⟨3⟩), .finish,
    .call (.load "/s" .system), .answer (.canonical "/s") (some "/lib/s"),
    .answer (.load "/lib/s") (.ok ⟨4⟩), .finish,
    .call (.load "/c" .system), .answer (.canonical "/c") (some "/lib/c")]

theorem released_whole_crowded :
    ∃ σ : libraryService.Session, Session.play crowded (.start {}) = some σ ∧
      σ.now.state.pending = [⟨"/lib/c", .system⟩] ∧
      (∃ r', Released picky (.ofLoader ⟨1⟩) σ.now.state r'
        [⟨.unload ⟨3⟩, ()⟩, ⟨.unload ⟨1⟩, ()⟩]) ∧
      ∃ r₁ r' t₁ t₂, t₁ ++ t₂ = [⟨.unload ⟨4⟩, ()⟩] ∧ Released picky .system σ.now.state r₁ t₁ ∧
        Released picky .builtin r₁ r' t₂ := by
  have hallowed : (libraryRules fun _ => True).AllowsAll crowded (.start {}) := by
    unfold crowded
    repeat' refine allowsAll_cons ?_ rfl ?_
    all_goals first | trivial | exact fun _ _ => trivial
  have hquiet : ∀ handle r e, (picky (.unload handle) r e).2.1 = r := fun _ _ _ => rfl
  refine ⟨_, rfl, rfl, ?_, ?_⟩
  · exact ⟨_, (released_whole hquiet (reaches_of_play hallowed rfl) rfl).1 (.ofLoader ⟨1⟩) ()⟩
  · obtain ⟨r₁, t₁, t₂, ht, hsystem, hbuiltin⟩ :=
      (released_whole hquiet (reaches_of_play hallowed rfl) rfl).2 ()
    exact ⟨r₁, _, t₁, t₂, ht.symm, hsystem, hbuiltin⟩

end Loading
