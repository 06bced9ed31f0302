import Loading.Proofs.Library.Searching
import Loading.Proofs.Library.Turns

/-!
# Requests that come to nothing

A request for a native library that comes to nothing leaves the registry as it found
it: the owners, the lists and what is in flight.  That holds wherever the registry
stands, in the middle of other requests too, as long as nobody calls back.  And where a
request fails for a library that may not be loaded, or is not there, the dynamic loader
has not been asked for it.

* `LibraryCall.Vain`, `LibraryCall.Missing` — a request came to nothing, it found
  nothing.
* `WithoutTrace` — what a failure leaves alone.
* `failures_without_trace` — every failure leaves that alone.
-/

namespace Loading

open Interaction LibraryRegistry

/-- Nothing has come of a request. -/
def LibraryCall.Vain : (c : LibraryCall) → c.Result → Prop
  | .load _ _, result => result ≠ .ok true
  | .loadBuiltin _, result => result ≠ .ok true
  | .loadLibrary _ _ _ _, result => ∃ e, result = .error e
  | .loadAbsolute _ _, result => ∃ e, result = .error e
  | .unload _ _, result => ∃ e, result = .error e
  | .releaseShelf _, _ => False
  | .shutdown, _ => False
  | .findNative _ _, _ => False

/-- A request has found nothing that could be loaded. -/
def LibraryCall.Missing : (c : LibraryCall) → c.Result → Prop
  | .load _ _, result => result = .ok false
  | .loadBuiltin _, result => result = .ok false
  | .loadLibrary _ _ _ _, result =>
      ∃ name count, result = .error (.unsatisfiedLink name (.searched count))
  | .loadAbsolute _ _, result => ∃ name, result = .error (.unsatisfiedLink name .noSuchFile)
  | .unload _ _, _ => False
  | .releaseShelf _, _ => False
  | .shutdown, _ => False
  | .findNative _ _, _ => False

/-- What a request leaves alone where it fails. -/
structure WithoutTrace (c : LibraryCall) (r : LibraryRegistry) (result : c.Result)
    (r' : LibraryRegistry) (t : List LibraryExchange) : Prop where
  /-- A request that came to nothing leaves the registry as it was. -/
  kept : c.Vain result → r' = r
  /-- Nobody has loaded the library for which another scope is blamed. -/
  blamed : ∀ name owner requester, c.failure? result = some (.collision name owner requester) →
    name ∉ asked LibraryQuestion.loads? t
  /-- Nobody is asked about a library that is not on the list. -/
  unlisted : ∀ name, c.failure? result = some (.notLoaded name) → t = []
  /-- Where nothing is found, nothing has been loaded. -/
  nothing : c.Missing result → asked LibraryQuestion.loads? t = []

theorem failure?_eq_some {ε α : Type} {x : Except ε α} {e : ε} :
    failure? x = some e ↔ x = .error e := by
  cases x <;> simp [failure?]

variable {r : LibraryRegistry} {name path : String} {shelf : Shelf}

/-! ## Names -/

namespace Entry

variable {entry : Entry}

/-- A name that has not been loaded leaves the registry as it was. -/
theorem registry_of_result {builtin : Bool} (h : entry.result name shelf ≠ .ok true) :
    entry.registry r name shelf builtin = r := by
  cases entry with
  | present => rfl
  | taken owner => rfl
  | failed reason => rfl
  | loaded handle => exact absurd rfl h

theorem result_ne_false : entry.result name shelf ≠ .ok false := by
  cases entry <;> exact nofun

theorem result_ne_notLoaded {library : String} :
    failure? (entry.result name shelf) ≠ some (.notLoaded library) := by
  cases entry <;> exact nofun

/-- For a name that another scope has, the dynamic loader is not asked. -/
theorem exchanges_of_collision {told : Except String Handle → LibraryExchange} {library : String}
    {owner requester : Scope}
    (h : failure? (entry.result name shelf) = some (.collision library owner requester)) :
    entry.exchanges told = [] := by
  cases entry with
  | present => rfl
  | taken owner => rfl
  | failed reason => cases h
  | loaded handle => cases h

end Entry

/-! ## Searches -/

namespace Visited

variable {expected : Visit → Prop} {fault : LinkFault} {places : List String}
  {visits : List Visit}

/-- A search never blames a list. -/
theorem verdict_ne_notLoaded {library : String} (h : Visited expected shelf places visits) :
    verdict name shelf fault visits ≠ .error (.notLoaded library) := by
  intro herror
  obtain ⟨-, ⟨-, -, hunsatisfied⟩ | ⟨_, _, _, -, -, hcollision⟩⟩ := h.failed {} herror
  · cases hunsatisfied
  · cases hcollision

/-- The registry grants what is given to the dynamic loader. -/
theorem granted_of_handed {v : Visit} (hfits : v.finding.Fits r shelf) {library : String}
    (hhanded : v.handed? = some library) : r.admission library shelf = .granted := by
  obtain ⟨place, finding, again⟩ := v
  match finding with
  | .missing => cases hhanded
  | .found _ .present => cases hhanded
  | .found _ (.taken _) => cases hhanded
  | .found _ (.failed _) =>
      cases hhanded
      exact hfits
  | .found _ (.loaded _) =>
      cases hhanded
      exact hfits

/-- The library for which a scope is blamed is refused, so it was never given to the
dynamic loader, not even on an earlier visit. -/
theorem not_handed (h : Visited (fun v => v.finding.Fits r shelf) shelf places visits)
    {library : String} {owner requester : Scope}
    (herror : verdict name shelf fault visits = .error (.collision library owner requester)) :
    library ∉ visits.filterMap Visit.handed? := by
  obtain ⟨-, ⟨-, -, hunsatisfied⟩ | ⟨v, _, _, hlast, htaken, hcollision⟩⟩ := h.failed r herror
  · cases hunsatisfied
  · cases hcollision
    have hrefused : r.admission library shelf = .refused owner := by
      have hfits := h.expected_of_mem (List.mem_of_getLast? hlast)
      rw [htaken] at hfits
      exact hfits
    intro hmem
    obtain ⟨u, hu, hhanded⟩ := List.mem_filterMap.1 hmem
    cases hrefused.symm.trans (granted_of_handed (h.expected_of_mem hu) hhanded)

end Visited

/-! ## Requests -/

namespace LibraryTask

theorem withoutTrace_load :
    (load path shelf).Leads r (WithoutTrace (.load path shelf) r) := by
  refine leads_load.weaken fun result r' t hload => ?_
  obtain ⟨finding, -, rfl, rfl, rfl⟩ := hload
  match finding with
  | .missing => exact ⟨fun _ => rfl, nofun, nofun, fun _ => rfl⟩
  | .found name entry =>
      refine ⟨Entry.registry_of_result, fun library owner requester hfailure => ?_, ?_, ?_⟩
      · rw [Finding.exchanges, Entry.exchanges_of_collision hfailure]
        exact List.not_mem_nil
      · exact fun _ hfailure => absurd hfailure Entry.result_ne_notLoaded
      · exact fun hmissing => absurd hmissing Entry.result_ne_false

theorem withoutTrace_loadBuiltin :
    (loadBuiltin name).Leads r (WithoutTrace (.loadBuiltin name) r) := by
  refine leads_loadBuiltin.weaken fun result r' t hload => ?_
  rcases hload with ⟨rfl, rfl, rfl⟩ | ⟨entry, -, rfl, rfl, rfl⟩
  · exact ⟨fun _ => rfl, nofun, nofun, fun _ => rfl⟩
  · refine ⟨Entry.registry_of_result, fun library owner requester hfailure => ?_, ?_, ?_⟩
    · rw [Entry.exchanges_of_collision hfailure]
      exact List.not_mem_nil
    · exact fun _ hfailure => absurd hfailure Entry.result_ne_notLoaded
    · exact fun hmissing => absurd hmissing Entry.result_ne_false

theorem withoutTrace_loadLibrary {explicit : Option String} {search : SearchPath} :
    (loadLibrary name explicit search shelf).Leads r
      (WithoutTrace (.loadLibrary name explicit search shelf) r) := by
  refine leads_loadLibrary.weaken fun result r' t hload => ?_
  rcases hload with ⟨visits, t, rfl, hvisited, rfl, rfl, rfl⟩ | ⟨entry, -, rfl, rfl, rfl⟩
  · refine ⟨fun ⟨e, herror⟩ => (hvisited.failed r herror).1, ?_, ?_, ?_⟩
    · intro library owner requester hfailure
      rw [asked_cons, asked_loads?_flatMap]
      exact hvisited.not_handed (failure?_eq_some.1 hfailure)
    · exact fun _ hfailure => absurd (failure?_eq_some.1 hfailure) hvisited.verdict_ne_notLoaded
    · rintro ⟨_, _, hmissing⟩
      obtain ⟨-, hnothing⟩ := hvisited.missing hmissing
      rw [asked_cons, asked_loads?_flatMap]
      refine List.filterMap_eq_nil_iff.2 fun v hv => ?_
      rw [Visit.handed?, hnothing v hv]
  · cases entry with
    | present => exact ⟨nofun, nofun, nofun, nofun⟩
    | taken owner => exact ⟨fun _ => rfl, fun _ _ _ _ => List.not_mem_nil, nofun, nofun⟩
    | failed reason => exact ⟨fun _ => rfl, nofun, nofun, nofun⟩
    | loaded handle => exact ⟨nofun, nofun, nofun, nofun⟩

theorem withoutTrace_loadAbsolute :
    (loadAbsolute path shelf).Leads r (WithoutTrace (.loadAbsolute path shelf) r) := by
  unfold loadAbsolute
  rw [leads_bind]
  refine leads_load.weaken fun result r' t hload => ?_
  obtain ⟨finding, -, rfl, rfl, rfl⟩ := hload
  match finding with
  | .missing => exact ⟨fun _ => rfl, nofun, nofun, fun _ => rfl⟩
  | .found _ .present => exact fun again => ⟨nofun, nofun, nofun, nofun⟩
  | .found _ (.taken _) =>
      exact ⟨fun _ => rfl, fun _ _ _ _ => List.not_mem_nil, nofun, nofun⟩
  | .found _ (.failed _) => exact ⟨fun _ => rfl, nofun, nofun, nofun⟩
  | .found _ (.loaded _) => exact fun again => ⟨nofun, nofun, nofun, nofun⟩

theorem withoutTrace_unload {l : Library} :
    (unload shelf l).Leads r (WithoutTrace (.unload shelf l) r) := by
  unfold unload
  rw [leads_bind, leads_transact]
  cases (r.onShelf shelf).contains l with
  | false => exact ⟨fun _ => rfl, nofun, fun _ _ => rfl, nofun⟩
  | true =>
      cases l.builtin with
      | true => exact ⟨nofun, nofun, nofun, nofun⟩
      | false => exact fun _ => ⟨nofun, nofun, nofun, nofun⟩

end LibraryTask

/-- Whenever a request for native libraries comes to nothing, while nobody calls back, the
registry is as it was before, down to what is in flight and the order of every list.  If
another scope is blamed for a library, the dynamic loader was not asked for that; if
nothing was found or the library was not on the list, it was asked for nothing. -/
theorem failures_without_trace (c : LibraryCall) {r r' : LibraryRegistry} {result : c.Result}
    {t : List LibraryExchange} (h : c.body.Uninterrupted r result r' t) :
    WithoutTrace c r result r' t := by
  cases c with
  | load path shelf => exact LibraryTask.withoutTrace_load.apply h
  | loadBuiltin name => exact LibraryTask.withoutTrace_loadBuiltin.apply h
  | loadLibrary name explicit search shelf => exact LibraryTask.withoutTrace_loadLibrary.apply h
  | loadAbsolute path shelf => exact LibraryTask.withoutTrace_loadAbsolute.apply h
  | unload shelf l => exact LibraryTask.withoutTrace_unload.apply h
  | releaseShelf shelf => exact ⟨nofun, nofun, nofun, nofun⟩
  | shutdown => exact ⟨nofun, nofun, nofun, nofun⟩
  | findNative shelf symbol => exact ⟨nofun, nofun, nofun, nofun⟩

/-- After a file that is not there and one that cannot be loaded, the search comes to a
file that the system has. -/
theorem failures_without_trace_blocked :
    ∃ σ : libraryService.Session, Service.Session.play stocked (.start {}) = some σ ∧
      WithoutTrace (.loadLibrary "x" (some "/p") ⟨["/b"], ["/d"]⟩ (.ofLoader ⟨1⟩)) σ.now.state
        (.error (.collision "/lib/d" .system (.loader ⟨1⟩))) σ.now.state
        [⟨.isBuiltin "x", false⟩, ⟨.canonical "/p", none⟩,
          ⟨.canonical "/b/libx.so", some "/lib/b"⟩, ⟨.load "/lib/b", .error "broken"⟩,
          ⟨.canonical "/d/libx.so", some "/lib/d"⟩] :=
  ⟨_, rfl, failures_without_trace _ ⟨Unit, picky, (), keepsStill_picky.alone, rfl, rfl, rfl⟩⟩

end Loading
