import Loading.Proofs.Library.Entries
import Loading.Proofs.Library.RequestPreservation

/-!
# Searching for a library

A library that is not linked into the runtime is looked for in the order in which the
places are given: the explicit path, the system directories, the directories of the
user.  While nothing else is going on, the files, the lists and the owners decide what
is found in each place, and the dynamic loader decides what becomes of it.

* `Entry.Met`, `Visit.Seen` — what a visit says of the files and of the registry.
* `SearchedThrough` — everything there is to say about a search.
* `searched_in_order` — every search goes like that.
-/

namespace Loading

open Interaction LibraryRegistry LibraryMoment Service

/-! ## While nothing is in flight -/

theorem isSome_find?_iff {r : LibraryRegistry} {shelf : Shelf} {name : String} :
    (r.find? shelf name).isSome = true ↔ name ∈ r.names shelf := by
  simp [LibraryRegistry.find?, mem_names]

/-- Where nothing is in flight, the lists and the owners decide alone. -/
theorem admission_of_idle {r : LibraryRegistry} (hpending : r.pending = []) (name : String)
    (shelf : Shelf) : r.admission name shelf =
      if name ∈ r.names shelf then .satisfied
      else (r.owner? name).elim .granted .refused := by
  have hnone : r.pendingScope? name = none := by simp [pendingScope?, hpending]
  unfold admission
  by_cases hlisted : name ∈ r.names shelf
  · rw [if_pos (isSome_find?_iff.2 hlisted), if_pos hlisted]
  · rw [if_neg (mt isSome_find?_iff.1 hlisted), if_neg hlisted, hnone]
    cases r.owner? name <;> rfl

/-- What an entry says of the list and of the owner of a name. -/
def Entry.Met (r : LibraryRegistry) (shelf : Shelf) (name : String) : Entry → Prop
  | .present => name ∈ r.names shelf
  | .taken owner => name ∉ r.names shelf ∧ r.owner? name = some owner
  | .failed _ => name ∉ r.names shelf ∧ r.owner? name = none
  | .loaded _ => name ∉ r.names shelf ∧ r.owner? name = none

theorem Entry.met_of_admission {r : LibraryRegistry} (hpending : r.pending = []) {name : String}
    {shelf : Shelf} {entry : Entry} (h : r.admission name shelf = entry.admission) :
    entry.Met r shelf name := by
  rw [admission_of_idle hpending] at h
  by_cases hlisted : name ∈ r.names shelf
  · rw [if_pos hlisted] at h
    cases entry <;> first | exact hlisted | cases h
  · rw [if_neg hlisted] at h
    cases howner : r.owner? name with
    | some owner =>
        rw [howner] at h
        cases entry <;> cases h
        exact ⟨hlisted, howner⟩
    | none =>
        rw [howner] at h
        cases entry <;> first | exact ⟨hlisted, howner⟩ | cases h

/-- Whatever lists a session uses, it keeps to rules that allow any lists. -/
theorem reaches_anyLists {σ : libraryService.Session}
    (h : Reaches (libraryRules fun _ => True) (.start {}) σ) :
    Reaches LibraryUpkeep.anyLists.rules (.start {}) σ := by
  refine h.mono ?_ ?_ ?_
  · exact fun _ _ hc => ⟨trivial, hc⟩
  · exact fun m q a _ => givesOnly_true m q a
  · exact fun _ _ hchange => hchange

/-- No name is on two lists of a new process. -/
theorem apart_start : LibraryRegistry.Apart {} := by
  intro s t name hs _
  simp [names, onShelf, Table.findD, Table.find?] at hs

/-- Nothing is in flight when no request is under way. -/
theorem pending_eq_nil {σ : libraryService.Session}
    (h : Reaches (libraryRules fun _ => True) (.start {}) σ) (hnone : σ.frames = []) :
    σ.now.state.pending = [] := by
  have hstart : LibraryUpkeep.anyLists.terms.Inv ⟨{}, []⟩ := ⟨⟨.empty, .start, .start⟩, apart_start⟩
  have hidle : Idle σ.frames = true := by rw [hnone]; rfl
  have hresting :=
    (LibraryUpkeep.anyLists.discipline.upheld hstart (reaches_anyLists h)).resting hidle
  rw [hnone] at hresting
  exact hresting.1.pending

/-! ## What is seen on the way -/

/-- Whoever is asked leaves the registry alone, and every path leads where the files
say. -/
structure KeepsStill {E : Type} (fs : FileSystem)
    (answer : (q : LibraryQuestion) → LibraryRegistry → E → q.Answer × LibraryRegistry × E) :
    Prop where
  /-- Nobody touches the registry. -/
  alone : ∀ q r e, (answer q r e).2.1 = r
  /-- The files are as they are. -/
  canonical : ∀ path r e, (answer (.canonical path) r e).1 = fs.canonical path

/-- A visit tells what stands at the place, and how the registry stands to that.  A place
at which the search succeeds leads to the same file when it is asked for once more. -/
def Visit.Seen (fs : FileSystem) (r : LibraryRegistry) (shelf : Shelf) (v : Visit) : Prop :=
  match v.finding with
  | .missing => fs.canonical v.place = none
  | .found name entry => fs.canonical v.place = some name ∧ entry.Met r shelf name ∧
      (entry.result name shelf = .ok true → v.again = some name)

/-- How the dynamic loader's refusal reads, if there is one on a visit. -/
def Visit.refusal? (v : Visit) : Option String :=
  match v.finding with
  | .found name (.failed reason) => some (LibraryError.loadFailed name reason).message
  | _ => none

/-- The words for a visit that failed are those for what is remembered of it. -/
theorem Visit.refusal?_eq (v : Visit) : v.refusal? = v.finding.fault?.map LinkFault.message := by
  obtain ⟨place, finding, again⟩ := v
  match finding with
  | .missing => rfl
  | .found _ .present => rfl
  | .found _ (.taken _) => rfl
  | .found _ (.failed _) => rfl
  | .found _ (.loaded _) => rfl

/-- Everything that a search for a library does: where it looks, what it asks, what it
returns, and the registry that it leaves. -/
structure SearchedThrough (fs : FileSystem) (r : LibraryRegistry) (name : String) (shelf : Shelf)
    (places : List String) (visits : List Visit) (result : Except LibraryError String)
    (r' : LibraryRegistry) (t : List LibraryExchange) : Prop where
  /-- The places are visited in order, up to the first that has the library or whose file
  another scope owns. -/
  visited : Visited (Visit.Seen fs r shelf) shelf places visits
  /-- Nothing is asked but on the visits. -/
  asked_only : t = ⟨.isBuiltin name, false⟩ :: visits.flatMap Visit.exchanges
  /-- On each visit to a file that is free, the dynamic loader is given it once. -/
  handed : asked LibraryQuestion.loads? t = visits.filterMap Visit.handed?
  /-- What the last visit says is returned, or that the library was not found. -/
  returned : result = verdict name shelf (.searched places.length) visits
  /-- Only what was loaded is registered. -/
  registered : r' = leaves r shelf visits
  /-- Whatever is returned is the file at the last place, and it is on the list. -/
  listed : ∀ library, result = .ok library →
    library ∈ r'.names shelf ∧ ∃ v ∈ visits.getLast?, fs.canonical v.place = some library
  /-- A scope that is blamed owns the file at the last place, which is not on the list. -/
  blamed : ∀ library owner requester, result = .error (.collision library owner requester) →
    requester = shelf.scope ∧ library ∉ r.names shelf ∧ r.owner? library = some owner ∧
      ∃ v ∈ visits.getLast?, fs.canonical v.place = some library
  /-- A search that fails leaves nothing behind. -/
  spotless : ∀ err, result = .error err → r' = r
  /-- Why the library was not found is told in the words of the last refusal, or by the
  number of places. -/
  worded : ∀ library fault, result = .error (.unsatisfiedLink library fault) →
    fault.message = (visits.filterMap Visit.refusal?).getLast?.getD
      ("searched " ++ toString places.length ++ " location(s)")
  /-- The places are counted exactly where nothing stands at any of them. -/
  counted : result = .error (.unsatisfiedLink name (.searched places.length)) ↔
    ∀ place ∈ places, fs.canonical place = none

/-- A visit is seen as the files say, if they are asked. -/
theorem Visit.seen_of_fits {fs : FileSystem} {r : LibraryRegistry} {shelf : Shelf} {v : Visit}
    (hpending : r.pending = []) (hfits : v.finding.Fits r shelf)
    (hfiles : ∀ path found, (⟨.canonical path, found⟩ : LibraryExchange) ∈ v.exchanges →
      found = fs.canonical path) : v.Seen fs r shelf := by
  obtain ⟨place, finding, again⟩ := v
  cases finding with
  | missing => exact (hfiles place none (by simp [Visit.exchanges, Finding.exchanges])).symm
  | found library entry =>
      have hplace : some library = fs.canonical place :=
        hfiles place _ (by simp [Visit.exchanges, Finding.exchanges])
      refine ⟨hplace.symm, Entry.met_of_admission hpending hfits, fun hok => ?_⟩
      show again = some library
      rw [hplace]
      cases entry with
      | present => exact hfiles place again (by simp [Visit.exchanges])
      | taken owner => cases hok
      | failed reason => cases hok
      | loaded handle => exact hfiles place again (by simp [Visit.exchanges])

namespace Visited

variable {fs : FileSystem} {r : LibraryRegistry} {name : String} {shelf : Shelf}
  {fault : LinkFault} {places : List String} {visits : List Visit}

theorem listed (h : Visited (Visit.Seen fs r shelf) shelf places visits) {library : String}
    (hok : verdict name shelf fault visits = .ok library) :
    library ∈ (leaves r shelf visits).names shelf ∧
      ∃ v ∈ visits.getLast?, fs.canonical v.place = some library := by
  obtain ⟨v, hlast, hleaves, hagain, found, entry, hfinding, hentry⟩ := h.succeeded r hok
  have hseen := h.expected_of_mem (List.mem_of_getLast? hlast)
  rw [Visit.Seen, hfinding] at hseen
  obtain ⟨hplace, hmet, hfile⟩ := hseen
  have hfound : found = library := by
    rcases hentry with rfl | ⟨handle, rfl⟩ <;> rwa [hfile rfl] at hagain
  subst hfound
  refine ⟨?_, v, hlast, hplace⟩
  rw [hleaves, hfinding]
  rcases hentry with rfl | ⟨handle, rfl⟩
  · exact hmet
  · exact mem_names.2 ⟨_, mem_onShelf_register.2 (.inr ⟨rfl, rfl⟩), rfl⟩

theorem blamed (h : Visited (Visit.Seen fs r shelf) shelf places visits) {library : String}
    {owner requester : Scope}
    (herror : verdict name shelf fault visits = .error (.collision library owner requester)) :
    requester = shelf.scope ∧ library ∉ r.names shelf ∧ r.owner? library = some owner ∧
      ∃ v ∈ visits.getLast?, fs.canonical v.place = some library := by
  obtain ⟨-, ⟨-, -, hunsatisfied⟩ | ⟨v, _, _, hlast, hfinding, hcollision⟩⟩ := h.failed r herror
  · cases hunsatisfied
  · cases hcollision
    have hseen := h.expected_of_mem (List.mem_of_getLast? hlast)
    rw [Visit.Seen, hfinding] at hseen
    obtain ⟨hplace, hmet, -⟩ := hseen
    exact ⟨rfl, hmet.1, hmet.2, v, hlast, hplace⟩

theorem worded {expected : Visit → Prop} (h : Visited expected shelf places visits)
    {library : String} {reported : LinkFault}
    (herror : verdict name shelf fault visits = .error (.unsatisfiedLink library reported)) :
    reported.message = (visits.filterMap Visit.refusal?).getLast?.getD fault.message := by
  obtain ⟨-, ⟨-, -, hunsatisfied⟩ | ⟨_, _, _, -, -, hcollision⟩⟩ := h.failed {} herror
  · cases hunsatisfied
    simp only [Visit.refusal?_eq, ← List.map_filterMap, List.getLast?_map, Option.getD_map,
      lastFault]
  · cases hcollision

/-- Where nothing stands in any place, the search is as it was to begin with. -/
theorem verdict_of_missing (h : Visited (Visit.Seen fs r shelf) shelf places visits)
    (hmissing : ∀ place ∈ places, fs.canonical place = none) :
    verdict name shelf fault visits = .error (.unsatisfiedLink name fault) := by
  have hnothing : ∀ {v : Visit}, v.Seen fs r shelf → fs.canonical v.place = none →
      v.finding = .missing := by
    intro v hseen hnone
    obtain ⟨place, finding, again⟩ := v
    cases finding with
    | missing => rfl
    | found library entry => cases hnone.symm.trans hseen.1
  induction h generalizing fault with
  | exhausted => rfl
  | @ended v rest hseen hends =>
      have hfinding := hnothing hseen (hmissing _ List.mem_cons_self)
      exact absurd (by rw [Visit.verdict?, hfinding]) hends
  | @next v rest visits hseen hgoes _ ih =>
      have hfinding := hnothing hseen (hmissing _ List.mem_cons_self)
      rw [verdict_next hgoes, hfinding]
      exact ih fun place hplace => hmissing place (List.mem_cons_of_mem _ hplace)

end Visited

/-! ## Every search -/

theorem LibraryTask.Searches.through {fs : FileSystem} {r r' : LibraryRegistry} {name : String}
    {shelf : Shelf} {places : List String} {visits : List Visit}
    {result : Except LibraryError String} {t : List LibraryExchange} (hpending : r.pending = [])
    (h : LibraryTask.Searches name shelf (.searched places.length) places r result r' t visits)
    (hfiles : ∀ path found, (⟨.canonical path, found⟩ : LibraryExchange) ∈ t →
      found = fs.canonical path) :
    SearchedThrough fs r name shelf places visits result r' (⟨.isBuiltin name, false⟩ :: t) := by
  obtain ⟨hfits, rfl, rfl, rfl⟩ := h
  have hseen : Visited (Visit.Seen fs r shelf) shelf places visits :=
    hfits.mono fun v hv hfit => Visit.seen_of_fits hpending hfit fun path found hmem =>
      hfiles path found (List.mem_flatMap.2 ⟨v, hv, hmem⟩)
  refine ⟨hseen, rfl, ?_, rfl, rfl, fun _ => hseen.listed, fun _ _ _ => hseen.blamed,
    fun _ herror => (hseen.failed r herror).1, fun _ _ => hseen.worded, ?_, ?_⟩
  · rw [asked_cons, asked_loads?_flatMap]
    rfl
  · intro hcounted place hplace
    obtain ⟨hplaces, hmissing⟩ := hseen.missing hcounted
    rw [← hplaces] at hplace
    obtain ⟨v, hv, rfl⟩ := List.mem_map.1 hplace
    have hsaw := hseen.expected_of_mem hv
    rwa [Visit.Seen, hmissing v hv] at hsaw
  · exact hseen.verdict_of_missing

/-- After any session, when no request is under way: a library that is not linked into
the runtime is looked for at the explicit path, then by its file name in each system
directory, then in each directory of the user.  The search ends with the first place
whose file is on the list or can be loaded, or is owned by another scope, and it does
exactly what its visits say. -/
theorem searched_in_order {σ : libraryService.Session}
    (h : Reaches (libraryRules fun _ => True) (.start {}) σ) (hnone : σ.frames = [])
    {E : Type} {fs : FileSystem}
    {answer : (q : LibraryQuestion) → LibraryRegistry → E → q.Answer × LibraryRegistry × E}
    (hanswer : KeepsStill fs answer) (name : String) (explicit : Option String)
    (search : SearchPath) (shelf : Shelf) (e : E)
    (hname : (answer (.isBuiltin name) σ.now.state e).1 = false) :
    ∃ visits, SearchedThrough fs σ.now.state name shelf
      (explicit.toList ++
        (search.system ++ search.user).map fun d => Path.join d ("lib" ++ name ++ ".so"))
      visits
      ((LibraryTask.loadLibrary name explicit search shelf).run answer σ.now.state e).1
      ((LibraryTask.loadLibrary name explicit search shelf).run answer σ.now.state e).2.1
      ((LibraryTask.loadLibrary name explicit search shelf).exchanges answer (fun _ => true)
        σ.now.state e) := by
  have hpending := pending_eq_nil h hnone
  have hfiles : ∀ path found, (⟨.canonical path, found⟩ : LibraryExchange) ∈
      (LibraryTask.loadLibrary name explicit search shelf).exchanges answer (fun _ => true)
        σ.now.state e → found = fs.canonical path := by
    intro path found hmem
    refine forall_exchanges (fun x => ∀ path found,
      x = ⟨.canonical path, found⟩ → found = fs.canonical path) ?_ _ _ _ _ hmem path found rfl
    rintro q r e path found heq
    cases heq
    exact hanswer.canonical path r e
  have hends : (LibraryTask.loadLibrary name explicit search shelf).Uninterrupted σ.now.state
      _ _ _ := ⟨E, answer, e, hanswer.alone, rfl, rfl, rfl⟩
  rcases LibraryTask.leads_loadLibrary.apply hends with
    ⟨visits, asked, ht, hsearches⟩ | ⟨entry, -, -, -, ht⟩
  · rw [ht] at hfiles ⊢
    exact ⟨visits, hsearches.through hpending fun path found hmem =>
      hfiles path found (List.mem_cons_of_mem _ hmem)⟩
  · -- The first answer says that the name is not linked.
    have hlinked := eq_of_heq (Sigma.mk.inj (List.cons.inj ht).1).2
    cases hlinked.symm.trans hname

/-! ## A search with setbacks -/

/-- A library has its file in three directories. -/
def scattered : FileSystem where
  look _ := .error .notFound
  canonical path :=
    [("/b/libx.so", "/lib/b"), ("/c/libx.so", "/lib/c"), ("/d/libx.so", "/lib/d")].lookup path

/-- One file cannot be loaded, all others can. -/
def picky : (q : LibraryQuestion) → LibraryRegistry → Unit → q.Answer × LibraryRegistry × Unit
  | .canonical path, r, e => (scattered.canonical path, r, e)
  | .isBuiltin _, r, e => (false, r, e)
  | .load path, r, e => (if path = "/lib/b" then .error "broken" else .ok ⟨2⟩, r, e)
  | .loadBuiltin name, r, e => (.error name, r, e)
  | .unload _, r, e => ((), r, e)
  | .lookup _ _, r, e => (none, r, e)

theorem keepsStill_picky : KeepsStill scattered picky where
  alone q r e := by cases q <;> rfl
  canonical _ _ _ := rfl

/-- The system has loaded a library. -/
def stocked : List libraryService.Move :=
  [.call (.load "/d/libx.so" .system), .answer (.canonical "/d/libx.so") (some "/lib/d"),
    .answer (.load "/lib/d") (.ok ⟨1⟩), .finish]

theorem searched_in_order_setbacks :
    ∃ σ : libraryService.Session, Session.play stocked (.start {}) = some σ ∧ ∃ visits,
      SearchedThrough scattered σ.now.state "x" (.ofLoader ⟨1⟩)
        ["/p", "/a/libx.so", "/b/libx.so", "/c/libx.so", "/d/libx.so"] visits (.ok "/lib/c")
        (σ.now.state.register "/lib/c" ⟨2⟩ (.ofLoader ⟨1⟩) false)
        [⟨.isBuiltin "x", false⟩, ⟨.canonical "/p", none⟩, ⟨.canonical "/a/libx.so", none⟩,
          ⟨.canonical "/b/libx.so", some "/lib/b"⟩, ⟨.load "/lib/b", .error "broken"⟩,
          ⟨.canonical "/c/libx.so", some "/lib/c"⟩, ⟨.load "/lib/c", .ok ⟨2⟩⟩,
          ⟨.canonical "/c/libx.so", some "/lib/c"⟩] := by
  have hallowed : (libraryRules fun _ => True).AllowsAll stocked (.start {}) := by
    unfold stocked
    repeat' refine allowsAll_cons ?_ rfl ?_
    all_goals first | trivial | exact fun _ _ => trivial
  exact ⟨_, rfl, searched_in_order (reaches_of_play hallowed rfl) rfl keepsStill_picky "x"
    (some "/p") ⟨["/a", "/b"], ["/c", "/d"]⟩ (.ofLoader ⟨1⟩) () rfl⟩

end Loading
