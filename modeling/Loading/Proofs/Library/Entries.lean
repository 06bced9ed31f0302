import Loading.Proofs.Library.Requests
import Loading.Proofs.Reentry.Exchanges

/-!
# What becomes of a candidate

A name that is to be loaded into a list can meet with four things: the list has it,
another scope has it, the dynamic loader refuses it, the dynamic loader gives its
image.  Which of them it is decides what the request returns, what it leaves in the
registry and what it asks, so a request is described by saying what it met with.
Nobody is expected to call back, but answers may be any.

* `Entry` — what becomes of a name, `Finding` — what becomes of a path.
* `LibraryTask.leads_enter`, `leads_load`, `leads_loadBuiltin` — a request does what
  goes with one of them.
* `Visit`, `Visited` — a search goes from candidate to candidate until one of them
  ends it; `Visited.succeeded`, `Visited.failed` — how it may end.
* `LibraryTask.leads_tryCandidates` — a search is a list of visits.
-/

namespace Loading

open Interaction LibraryRegistry

/-- What a request asked, and how it was answered. -/
abbrev LibraryExchange : Type :=
  (q : LibraryQuestion) × q.Answer

/-! ## Names -/

/-- What becomes of a name that is to be loaded into a list. -/
inductive Entry where
  /-- The list has it, or is about to get it. -/
  | present
  /-- Another scope has it. -/
  | taken (owner : Scope)
  /-- The dynamic loader was asked for it and refused. -/
  | failed (reason : String)
  /-- The dynamic loader was asked for it and gave its image. -/
  | loaded (handle : Handle)
  deriving Repr, DecidableEq

namespace Entry

/-- What the registry says to it. -/
def admission : Entry → Admission
  | present => .satisfied
  | taken owner => .refused owner
  | failed _ => .granted
  | loaded _ => .granted

/-- What the request returns. -/
def result (name : String) (shelf : Shelf) : Entry → Except LibraryError Bool
  | present => .ok true
  | taken owner => .error (.collision name owner shelf.scope)
  | failed reason => .error (.loadFailed name reason)
  | loaded _ => .ok true

/-- The registry that the request leaves. -/
def registry (r : LibraryRegistry) (name : String) (shelf : Shelf) (builtin : Bool) :
    Entry → LibraryRegistry
  | loaded handle => r.register name handle shelf builtin
  | _ => r

/-- What the dynamic loader answered, if it was asked. -/
def answer? : Entry → Option (Except String Handle)
  | failed reason => some (.error reason)
  | loaded handle => some (.ok handle)
  | _ => none

/-- What was asked, where the dynamic loader is told by `told` which image is meant. -/
def exchanges (told : Except String Handle → LibraryExchange) (entry : Entry) :
    List LibraryExchange :=
  (entry.answer?.map told).toList

end Entry

/-! ## Paths -/

/-- What is found at a path, and what becomes of it. -/
inductive Finding where
  /-- Nothing stands there. -/
  | missing
  /-- What stands there has a name without links, and something becomes of that. -/
  | found (name : String) (entry : Entry)
  deriving Repr, DecidableEq

namespace Finding

/-- The registry says so to what is found. -/
def Fits (r : LibraryRegistry) (shelf : Shelf) : Finding → Prop
  | missing => True
  | found name entry => r.admission name shelf = entry.admission

/-- What the request returns. -/
def result (shelf : Shelf) : Finding → Except LibraryError Bool
  | missing => .ok false
  | found name entry => entry.result name shelf

/-- The registry that the request leaves. -/
def registry (r : LibraryRegistry) (shelf : Shelf) : Finding → LibraryRegistry
  | missing => r
  | found name entry => entry.registry r name shelf false

/-- What is asked at a path. -/
def exchanges (path : String) : Finding → List LibraryExchange
  | missing => [⟨.canonical path, none⟩]
  | found name entry => ⟨.canonical path, some name⟩ :: entry.exchanges fun x => ⟨.load name, x⟩

/-- What a search remembers of a candidate that failed. -/
def fault? : Finding → Option LinkFault
  | found name (.failed reason) => some (.lastFailure name reason)
  | _ => none

/-- What is remembered is a failure. -/
theorem fault?_eq_some {finding : Finding} {fault : LinkFault} (h : finding.fault? = some fault) :
    ∃ library reason, fault = .lastFailure library reason := by
  match finding with
  | missing => cases h
  | found _ .present => cases h
  | found _ (.taken _) => cases h
  | found library (.failed reason) => exact ⟨library, reason, (Option.some.inj h).symm⟩
  | found _ (.loaded _) => cases h

end Finding

/-! ## Searches -/

/-- A visit to a candidate. -/
structure Visit where
  /-- The path of the candidate. -/
  place : String
  /-- What is found there. -/
  finding : Finding
  /-- What the path leads to when it is asked for once more, after a success. -/
  again : Option String
  deriving Repr, DecidableEq

namespace Visit

/-- What the search returns, if it ends with the visit. -/
def verdict? (shelf : Shelf) (v : Visit) : Option (Except LibraryError String) :=
  match v.finding with
  | .found _ .present => some (.ok (v.again.getD v.place))
  | .found _ (.loaded _) => some (.ok (v.again.getD v.place))
  | .found name (.taken owner) => some (.error (.collision name owner shelf.scope))
  | _ => none

/-- What is asked on the visit. -/
def exchanges (v : Visit) : List LibraryExchange :=
  v.finding.exchanges v.place ++
    match v.finding with
    | .found _ .present => [⟨.canonical v.place, v.again⟩]
    | .found _ (.loaded _) => [⟨.canonical v.place, v.again⟩]
    | _ => []

/-- The file that the dynamic loader is given on the visit. -/
def handed? (v : Visit) : Option String :=
  match v.finding with
  | .found name (.failed _) => some name
  | .found name (.loaded _) => some name
  | _ => none

/-- The dynamic loader is asked once for what it is given, and for nothing else. -/
theorem asked_loads?_exchanges (v : Visit) :
    asked LibraryQuestion.loads? v.exchanges = v.handed?.toList := by
  obtain ⟨place, finding, again⟩ := v
  match finding with
  | .missing => rfl
  | .found _ .present => rfl
  | .found _ (.taken _) => rfl
  | .found _ (.failed _) => rfl
  | .found _ (.loaded _) => rfl

/-- A search goes on where nothing stands, and after a failure. -/
theorem goes_on {shelf : Shelf} {v : Visit} (h : v.verdict? shelf = none) :
    v.finding = .missing ∨ ∃ name reason, v.finding = .found name (.failed reason) := by
  obtain ⟨place, finding, again⟩ := v
  match finding with
  | .missing => exact .inl rfl
  | .found _ .present => cases h
  | .found _ (.taken _) => cases h
  | .found name (.failed reason) => exact .inr ⟨name, reason, rfl⟩
  | .found _ (.loaded _) => cases h

/-- A search succeeds with a library that is on the list or has been loaded. -/
theorem succeeds {shelf : Shelf} {v : Visit} {library : String}
    (h : v.verdict? shelf = some (.ok library)) : v.again.getD v.place = library ∧
      ∃ name entry, v.finding = .found name entry ∧
        (entry = .present ∨ ∃ handle, entry = .loaded handle) := by
  obtain ⟨place, finding, again⟩ := v
  match finding with
  | .missing => cases h
  | .found name .present => exact ⟨by cases h; rfl, name, _, rfl, .inl rfl⟩
  | .found _ (.taken _) => cases h
  | .found _ (.failed _) => cases h
  | .found name (.loaded handle) => exact ⟨by cases h; rfl, name, _, rfl, .inr ⟨handle, rfl⟩⟩

/-- A search is cut short by nothing but a library of another scope. -/
theorem cut_short {shelf : Shelf} {v : Visit} {e : LibraryError}
    (h : v.verdict? shelf = some (.error e)) :
    ∃ name owner, v.finding = .found name (.taken owner) ∧
      e = .collision name owner shelf.scope := by
  obtain ⟨place, finding, again⟩ := v
  match finding with
  | .missing => cases h
  | .found _ .present => cases h
  | .found name (.taken owner) =>
      cases h
      exact ⟨name, owner, rfl, rfl⟩
  | .found _ (.failed _) => cases h
  | .found _ (.loaded _) => cases h

/-- A visit that does not end the search leaves the registry as it was. -/
theorem registry_of_verdict? {r : LibraryRegistry} {shelf : Shelf} {v : Visit}
    (h : v.verdict? shelf = none) : v.finding.registry r shelf = r := by
  rcases v.goes_on h with hmissing | ⟨name, reason, hfailed⟩
  · rw [hmissing]
    rfl
  · rw [hfailed]
    rfl

end Visit

/-- Candidates are visited one after the other, each as it is expected, up to the first
that ends the search. -/
inductive Visited (expected : Visit → Prop) (shelf : Shelf) :
    List String → List Visit → Prop where
  /-- No candidate is left. -/
  | exhausted : Visited expected shelf [] []
  /-- The search ends with a candidate. -/
  | ended {v : Visit} {rest : List String} (hv : expected v) (hends : v.verdict? shelf ≠ none) :
      Visited expected shelf (v.place :: rest) [v]
  /-- The search goes on. -/
  | next {v : Visit} {rest : List String} {visits : List Visit} (hv : expected v)
      (hgoes : v.verdict? shelf = none) (hrest : Visited expected shelf rest visits) :
      Visited expected shelf (v.place :: rest) (v :: visits)

namespace Visited

variable {expected expected' : Visit → Prop} {shelf : Shelf} {places : List String}
  {visits : List Visit}

theorem mono (h : Visited expected shelf places visits)
    (hsub : ∀ v ∈ visits, expected v → expected' v) : Visited expected' shelf places visits := by
  induction h with
  | exhausted => exact .exhausted
  | ended hv hends => exact .ended (hsub _ List.mem_cons_self hv) hends
  | next hv hgoes _ ih =>
      exact .next (hsub _ List.mem_cons_self hv) hgoes
        (ih fun v hmem => hsub v (List.mem_cons_of_mem _ hmem))

/-- Every visit is as it is expected. -/
theorem expected_of_mem (h : Visited expected shelf places visits) {v : Visit}
    (hv : v ∈ visits) : expected v := by
  induction h with
  | exhausted => cases hv
  | ended hfirst _ => exact List.mem_singleton.1 hv ▸ hfirst
  | next hfirst _ _ ih =>
      rcases List.mem_cons.1 hv with rfl | hv
      · exact hfirst
      · exact ih hv

end Visited

/-- The reason to report after some visits: the last failure, or what was reported
before there were any. -/
def lastFault (fault : LinkFault) (visits : List Visit) : LinkFault :=
  (visits.filterMap fun v => v.finding.fault?).getLast?.getD fault

/-- What a search returns: what the first visit says that ends it. -/
def verdict (name : String) (shelf : Shelf) (fault : LinkFault) (visits : List Visit) :
    Except LibraryError String :=
  (visits.findSome? fun v => v.verdict? shelf).getD
    (.error (.unsatisfiedLink name (lastFault fault visits)))

/-- The registry that some visits leave. -/
def leaves (r : LibraryRegistry) (shelf : Shelf) (visits : List Visit) : LibraryRegistry :=
  visits.foldl (fun r v => v.finding.registry r shelf) r

theorem asked_loads?_flatMap (visits : List Visit) :
    asked LibraryQuestion.loads? (visits.flatMap Visit.exchanges) =
      visits.filterMap Visit.handed? := by
  induction visits with
  | nil => rfl
  | cons v visits ih =>
      rw [List.flatMap_cons, asked_append, v.asked_loads?_exchanges, ih, List.filterMap_cons]
      cases v.handed? <;> rfl

theorem lastFault_cons (fault : LinkFault) (v : Visit) (visits : List Visit) :
    lastFault fault (v :: visits) = lastFault (v.finding.fault?.getD fault) visits := by
  unfold lastFault
  rw [List.filterMap_cons]
  cases v.finding.fault? with
  | none => rfl
  | some other => simp [List.getLast?_cons]

/-- After a failure, the last failure is reported. -/
theorem lastFault_of_mem (fault : LinkFault) {visits : List Visit} {failure : LinkFault}
    (h : failure ∈ visits.filterMap fun v => v.finding.fault?) :
    ∃ library reason, lastFault fault visits = .lastFailure library reason := by
  unfold lastFault
  cases hlast : (visits.filterMap fun v => v.finding.fault?).getLast? with
  | none =>
      rw [List.getLast?_eq_none_iff.1 hlast] at h
      cases h
  | some last =>
      obtain ⟨v, -, hfault⟩ := List.mem_filterMap.1 (List.mem_of_getLast? hlast)
      obtain ⟨library, reason, hfailed⟩ := Finding.fault?_eq_some hfault
      exact ⟨library, reason, hfailed⟩

/-- A visit that ends the search gives the verdict. -/
theorem verdict_ended {name : String} {shelf : Shelf} {fault : LinkFault} {v : Visit}
    {result : Except LibraryError String} (h : v.verdict? shelf = some result) :
    verdict name shelf fault [v] = result := by
  simp [verdict, h]

/-- A visit that does not end the search is remembered for its failure. -/
theorem verdict_next {name : String} {shelf : Shelf} {fault : LinkFault} {v : Visit}
    {visits : List Visit} (h : v.verdict? shelf = none) :
    verdict name shelf fault (v :: visits) =
      verdict name shelf (v.finding.fault?.getD fault) visits := by
  simp [verdict, h, lastFault_cons]

theorem leaves_next {r : LibraryRegistry} {shelf : Shelf} {v : Visit} {visits : List Visit}
    (h : v.verdict? shelf = none) : leaves r shelf (v :: visits) = leaves r shelf visits := by
  unfold leaves
  rw [List.foldl_cons, v.registry_of_verdict? h]

namespace Visited

variable {expected : Visit → Prop} {shelf : Shelf} {places : List String} {visits : List Visit}

/-- Either all candidates were visited for nothing, or the last visit ended the search. -/
theorem outcome (h : Visited expected shelf places visits) (r : LibraryRegistry) (name : String)
    (fault : LinkFault) :
    ((∀ v ∈ visits, v.verdict? shelf = none) ∧ visits.map Visit.place = places ∧
      verdict name shelf fault visits = .error (.unsatisfiedLink name (lastFault fault visits)) ∧
      leaves r shelf visits = r) ∨
    ∃ v result, visits.getLast? = some v ∧ v.verdict? shelf = some result ∧
      verdict name shelf fault visits = result ∧
      leaves r shelf visits = v.finding.registry r shelf := by
  induction h generalizing fault with
  | exhausted => exact .inl ⟨nofun, rfl, rfl, rfl⟩
  | @ended v rest _ hends =>
      obtain ⟨result, hresult⟩ := Option.ne_none_iff_exists'.1 hends
      exact .inr ⟨v, result, rfl, hresult, verdict_ended hresult, rfl⟩
  | @next v rest visits _ hgoes _ ih =>
      rw [verdict_next hgoes, leaves_next hgoes, lastFault_cons]
      rcases ih (v.finding.fault?.getD fault) with
        ⟨hall, hplaces, hverdict, hleaves⟩ | ⟨u, result, hlast, hresult⟩
      · refine .inl ⟨List.forall_mem_cons.2 ⟨hgoes, hall⟩, ?_, hverdict, hleaves⟩
        rw [List.map_cons, hplaces]
      · refine .inr ⟨u, result, ?_, hresult⟩
        rw [List.getLast?_cons, hlast]
        rfl

/-- A search that succeeds ends with a library that is on the list or has been loaded. -/
theorem succeeded (h : Visited expected shelf places visits) (r : LibraryRegistry) {name : String}
    {fault : LinkFault} {library : String} (hok : verdict name shelf fault visits = .ok library) :
    ∃ v, visits.getLast? = some v ∧ leaves r shelf visits = v.finding.registry r shelf ∧
      v.again.getD v.place = library ∧ ∃ found entry, v.finding = .found found entry ∧
        (entry = .present ∨ ∃ handle, entry = .loaded handle) := by
  rcases h.outcome r name fault with
    ⟨-, -, hunsatisfied, -⟩ | ⟨v, result, hlast, hresult, hends, hleaves⟩
  · cases hunsatisfied.symm.trans hok
  · exact ⟨v, hlast, hleaves, v.succeeds (hresult.trans (congrArg some (hends.symm.trans hok)))⟩

/-- A search fails after all candidates or with a library of another scope, and leaves the
registry as it was. -/
theorem failed (h : Visited expected shelf places visits) (r : LibraryRegistry) {name : String}
    {fault : LinkFault} {e : LibraryError} (herror : verdict name shelf fault visits = .error e) :
    leaves r shelf visits = r ∧
      (((∀ v ∈ visits, v.verdict? shelf = none) ∧ visits.map Visit.place = places ∧
          e = .unsatisfiedLink name (lastFault fault visits)) ∨
        ∃ v library owner, visits.getLast? = some v ∧
          v.finding = .found library (.taken owner) ∧
          e = .collision library owner shelf.scope) := by
  rcases h.outcome r name fault with
    ⟨hall, hplaces, hunsatisfied, hleaves⟩ | ⟨v, result, hlast, hresult, hends, hleaves⟩
  · refine ⟨hleaves, .inl ⟨hall, hplaces, ?_⟩⟩
    cases hunsatisfied.symm.trans herror
    rfl
  · obtain ⟨library, owner, htaken, hcollision⟩ :=
      v.cut_short (hresult.trans (congrArg some (hends.symm.trans herror)))
    refine ⟨?_, .inr ⟨v, library, owner, hlast, htaken, hcollision⟩⟩
    rw [hleaves, htaken]
    rfl

/-- A search reports a count only where it found nothing at any candidate. -/
theorem missing {name library : String} {fault : LinkFault} {count : Nat}
    (h : Visited expected shelf places visits)
    (herror : verdict name shelf fault visits =
      .error (.unsatisfiedLink library (.searched count))) :
    visits.map Visit.place = places ∧ ∀ v ∈ visits, v.finding = .missing := by
  obtain ⟨-, ⟨hall, hplaces, hcounted⟩ | ⟨_, _, _, -, -, hcollision⟩⟩ := h.failed {} herror
  · refine ⟨hplaces, fun v hv => (v.goes_on (hall v hv)).resolve_right ?_⟩
    rintro ⟨failing, reason, hfailed⟩
    have hmem : .lastFailure failing reason ∈ visits.filterMap fun v => v.finding.fault? :=
      List.mem_filterMap.2 ⟨v, hv, by rw [hfailed]; rfl⟩
    obtain ⟨_, _, hlastFailure⟩ := lastFault_of_mem fault hmem
    rw [hlastFailure] at hcounted
    cases hcounted
  · cases hcollision

end Visited

/-! ## Requests -/

namespace LibraryTask

variable {r : LibraryRegistry} {name path : String} {shelf : Shelf}

/-- A question is asked once, and that is all. -/
theorem leads_asking (q : LibraryQuestion) :
    (LibraryTask.ask q).Leads r fun x r' t => r' = r ∧ t = [⟨q, x⟩] :=
  fun _ => ⟨rfl, rfl⟩

/-- Loading a name does what goes with what the name meets with. -/
theorem leads_enter {builtin : Bool} {native : LibraryTask (Except String Handle)}
    {told : Except String Handle → LibraryExchange}
    (hnative : ∀ r, native.Leads r fun x r' t => r' = r ∧ t = [told x]) :
    (enter name shelf builtin native).Leads r fun result r' t => ∃ entry : Entry,
      r.admission name shelf = entry.admission ∧ result = entry.result name shelf ∧
        r' = entry.registry r name shelf builtin ∧ t = entry.exchanges told := by
  unfold enter
  rw [leads_bind, leads_transact]
  cases hadmission : r.admission name shelf with
  | satisfied => exact ⟨.present, rfl, rfl, rfl, rfl⟩
  | refused owner => exact ⟨.taken owner, rfl, rfl, rfl, rfl⟩
  | granted =>
      show (native >>= _).Leads (r.begin name shelf.scope) _
      rw [leads_bind]
      refine (hnative _).weaken fun answer r' t hsame => ?_
      obtain ⟨rfl, rfl⟩ := hsame
      cases answer with
      | error reason => exact ⟨.failed reason, rfl, rfl, rfl, rfl⟩
      | ok handle => exact ⟨.loaded handle, rfl, rfl, rfl, rfl⟩

theorem leads_load :
    (load path shelf).Leads r fun result r' t => ∃ finding : Finding,
      finding.Fits r shelf ∧ result = finding.result shelf ∧ r' = finding.registry r shelf ∧
        t = finding.exchanges path := by
  unfold load
  rw [leads_bind]
  refine (leads_asking (.canonical path)).weaken fun answer r₁ t₁ hsame => ?_
  obtain ⟨rfl, rfl⟩ := hsame
  cases answer with
  | none => exact ⟨.missing, trivial, rfl, rfl, rfl⟩
  | some name =>
      refine (leads_enter fun _ => leads_asking (.load name)).weaken fun result r' t hentry => ?_
      obtain ⟨entry, hadmission, hresult, hregistry, rfl⟩ := hentry
      exact ⟨.found name entry, hadmission, hresult, hregistry, rfl⟩

/-- A name that is not linked into the runtime is left alone, any other one is loaded
into the list of the built-in libraries. -/
theorem leads_loadBuiltin :
    (loadBuiltin name).Leads r fun result r' t =>
      (result = .ok false ∧ r' = r ∧ t = [⟨.isBuiltin name, false⟩]) ∨
        ∃ entry : Entry, r.admission name .builtin = entry.admission ∧
          result = entry.result name .builtin ∧ r' = entry.registry r name .builtin true ∧
          t = ⟨.isBuiltin name, true⟩ :: entry.exchanges fun x => ⟨.loadBuiltin name, x⟩ := by
  unfold loadBuiltin
  rw [leads_bind]
  refine (leads_asking (.isBuiltin name)).weaken fun answer r₁ t₁ hsame => ?_
  obtain ⟨rfl, rfl⟩ := hsame
  cases answer with
  | false => exact .inl ⟨rfl, rfl, rfl⟩
  | true =>
      refine (leads_enter fun _ => leads_asking (.loadBuiltin name)).weaken
        fun result r' t hentry => ?_
      obtain ⟨entry, hadmission, hresult, hregistry, rfl⟩ := hentry
      exact .inr ⟨entry, hadmission, hresult, hregistry, rfl⟩

/-- What a search does is told by the visits that it makes. -/
abbrev Searches (name : String) (shelf : Shelf) (fault : LinkFault) (places : List String)
    (r : LibraryRegistry) (result : Except LibraryError String) (r' : LibraryRegistry)
    (t : List LibraryExchange) (visits : List Visit) : Prop :=
  Visited (fun v => v.finding.Fits r shelf) shelf places visits ∧
    result = verdict name shelf fault visits ∧ r' = leaves r shelf visits ∧
    t = visits.flatMap Visit.exchanges

/-- A visit that does not end the search comes before those that follow. -/
theorem Searches.next {fault : LinkFault} {rest : List String} {v : Visit}
    {result : Except LibraryError String} {r' : LibraryRegistry} {t : List LibraryExchange}
    {visits : List Visit} (hfits : v.finding.Fits r shelf) (hgoes : v.verdict? shelf = none)
    (h : Searches name shelf (v.finding.fault?.getD fault) rest r result r' t visits) :
    Searches name shelf fault (v.place :: rest) r result r' (v.exchanges ++ t)
      (v :: visits) := by
  obtain ⟨hvisited, hresult, hregistry, rfl⟩ := h
  exact ⟨.next hfits hgoes hvisited, hresult.trans (verdict_next hgoes).symm,
    hregistry.trans (leaves_next hgoes).symm, rfl⟩

/-- A visit that ends the search is the last one. -/
theorem Searches.ended {fault : LinkFault} {rest : List String} {v : Visit}
    {result : Except LibraryError String} (hfits : v.finding.Fits r shelf)
    (hends : v.verdict? shelf = some result) :
    Searches name shelf fault (v.place :: rest) r result (v.finding.registry r shelf)
      v.exchanges [v] := by
  refine ⟨.ended hfits ?_, (verdict_ended hends).symm, rfl, (List.flatMap_singleton ..).symm⟩
  rw [hends]
  exact nofun

theorem leads_tryCandidates {fault : LinkFault} {places : List String} :
    (tryCandidates name shelf fault places).Leads r fun result r' t =>
      ∃ visits, Searches name shelf fault places r result r' t visits := by
  induction places generalizing fault with
  | nil => exact ⟨[], .exhausted, rfl, rfl, rfl⟩
  | cons place rest ih =>
      unfold tryCandidates
      rw [leads_bind]
      refine leads_load.weaken fun result r₁ t₁ hload => ?_
      obtain ⟨finding, hfits, rfl, rfl, rfl⟩ := hload
      -- The place is asked for once more where the search succeeds.
      match finding with
      | .missing =>
          refine ih.weaken fun result r' t hrest => ?_
          obtain ⟨visits, hrest⟩ := hrest
          exact ⟨_, Searches.next (v := ⟨place, .missing, none⟩) hfits rfl hrest⟩
      | .found library (.failed reason) =>
          refine ih.weaken fun result r' t hrest => ?_
          obtain ⟨visits, hrest⟩ := hrest
          have hnext : Searches name shelf fault (place :: rest) r result r' _ (_ :: visits) :=
            Searches.next (v := ⟨place, .found library (.failed reason), none⟩) hfits rfl hrest
          exact ⟨_, hnext⟩
      | .found library .present =>
          intro again
          exact ⟨_, Searches.ended (v := ⟨place, .found library .present, again⟩) hfits rfl⟩
      | .found library (.loaded handle) =>
          intro again
          exact ⟨_, Searches.ended (v := ⟨place, .found library (.loaded handle), again⟩) hfits rfl⟩
      | .found library (.taken owner) =>
          exact ⟨_, Searches.ended (v := ⟨place, .found library (.taken owner), none⟩) hfits rfl⟩

/-- A library is bound if it is linked into the runtime, and is searched for if it is
not. -/
theorem leads_loadLibrary {explicit : Option String} {search : SearchPath} :
    (loadLibrary name explicit search shelf).Leads r fun result r' t =>
      (∃ visits asked, t = ⟨.isBuiltin name, false⟩ :: asked ∧
        Searches name shelf (.searched (candidates name explicit search).length)
          (candidates name explicit search) r result r' asked visits) ∨
        ∃ entry : Entry, r.admission name .builtin = entry.admission ∧
          result = (entry.result name .builtin).map (fun _ => name) ∧
          r' = entry.registry r name .builtin true ∧
          t = ⟨.isBuiltin name, true⟩ :: entry.exchanges fun x => ⟨.loadBuiltin name, x⟩ := by
  unfold loadLibrary
  rw [leads_bind]
  refine leads_loadBuiltin.weaken fun result r₁ t₁ hbuiltin => ?_
  rcases hbuiltin with ⟨rfl, rfl, rfl⟩ | ⟨entry, hadmission, rfl, rfl, rfl⟩
  · refine leads_tryCandidates.weaken fun result r' t hsearches => ?_
    obtain ⟨visits, hsearches⟩ := hsearches
    exact .inl ⟨visits, t, rfl, hsearches⟩
  · cases entry <;> exact Or.inr ⟨_, hadmission, rfl, rfl, List.append_nil _⟩

end LibraryTask

end Loading
