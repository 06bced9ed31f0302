import Loading.Proofs.Library.RequestPreservation

/-!
# One image for each name

What a program can rely on, whatever the initialisers and finalisers of its
native libraries do: the registry is consistent whenever outside code runs, each
request leaves the names in flight as it found them, and no name ever has two
images.

* `Consistent` — the owners, the lists and the names in flight agree.
* `SingleImages` — no name has two images, loaded or on their way.
* `registry_guarded` — both hold in every session.
-/

namespace Loading

open LibraryMoment Service

/-- The owners, the lists and the names in flight agree. -/
structure LibraryRegistry.Consistent (r : LibraryRegistry) : Prop where
  /-- A scope owns a name exactly when one library of that name is on all lists
  together, and that on a list of the scope. -/
  owner_iff : ∀ name scope, r.owner? name = some scope ↔ r.HoldsOnly name scope
  /-- No name is in flight twice. -/
  inFlight_nodup : r.inFlight.Nodup
  /-- What is in flight has no owner. -/
  inFlight_free : ∀ name ∈ r.inFlight, r.owner? name = none

/-- The name for which the dynamic loader is loading an image for a request. -/
def loads? (f : libraryService.Frame) : Option String :=
  match f.stage with
  | .running _ => none
  | .waiting _ q _ => q.loads?

/-- The names for which the dynamic loader is loading images, newest first. -/
def loading (frames : List libraryService.Frame) : List String :=
  frames.filterMap loads?

/-- No name has two images, loaded or on their way. -/
structure SingleImages (σ : libraryService.Session) : Prop where
  /-- No two live libraries have one name. -/
  live : ∀ l k, Live σ.now l → Live σ.now k → l.name = k.name → l = k
  /-- No image is being loaded for the name of a live library. -/
  apart : ∀ l, Live σ.now l → l.name ∉ loading σ.frames
  /-- No two images are being loaded for one name. -/
  nodup : (loading σ.frames).Nodup
  /-- All images that were loaded for files belong to live libraries, or have been
  given back. -/
  booked : Booked σ.now

variable {used : Shelf → Prop} {start m : LibraryMoment} {fs : List libraryService.Frame}

theorem LibraryRegistry.Orderly.consistent {r : LibraryRegistry} (h : r.Orderly used)
    (hused : OneListPerScope used) : r.Consistent :=
  ⟨fun _ _ => h.owner?_eq_some_iff hused, h.inFlight_nodup, h.inFlight_free⟩

theorem loads?_eq {f : libraryService.Frame} {since : LibraryMoment} {q : LibraryQuestion}
    {next : q.Answer → LibraryTask (libraryService.Result f.call)}
    (hstage : f.stage = .waiting since q next) : loads? f = q.loads? := by
  unfold loads?
  rw [hstage]

theorem loading_cons (f : libraryService.Frame) :
    loading (f :: fs) = (loads? f).toList ++ loading fs := by
  unfold loading
  rw [List.filterMap_cons]
  cases loads? f <;> rfl

/-- While requests wait, the names that are being loaded are in flight, they are
distinct, and no library of them lives. -/
theorem loading_of_resting (hused : OneListPerScope used)
    (h : (libraryDiscipline hused).Resting start fs m) :
    (loading fs).Nodup ∧ (∀ name ∈ loading fs, name ∈ m.state.inFlight) ∧
      ∀ l, m.Live l → l.name ∉ loading fs := by
  induction fs generalizing m with
  | nil => simp [loading]
  | cons f fs ih =>
      obtain ⟨⟨since, q, next, hw⟩, hrest⟩ := h
      obtain ⟨hnodup, hflight, hdead⟩ := ih hrest
      have hasks : Asks f.entry since q := hw.asking
      have hsettled : Settled since m := hw.stable
      have hbelow : ∀ name ∈ loading fs, name ∈ since.state.inFlight := by
        intro name hname
        exact (hasks.pending.map Pending.name).subset (hflight name hname)
      rw [loading_cons, loads?_eq hw.stage]
      refine ⟨?_, ?_, ?_⟩
      · refine List.nodup_append.2 ⟨?_, hnodup, ?_⟩
        · cases q.loads? <;> simp
        · rintro name hname _ hmem rfl
          exact (hasks.loads name (by simpa using hname)).2.1 (hflight name hmem)
      · intro name hname
        rw [hsettled.inFlight]
        rcases List.mem_append.1 hname with hname | hname
        · obtain ⟨⟨scope, hpending⟩, -⟩ := hasks.loads name (by simpa using hname)
          rw [LibraryRegistry.inFlight, hpending]
          exact List.mem_cons_self
        · exact hbelow name hname
      · intro l hl hname
        rcases hsettled.fresh l hl with hl | hfree
        · rcases List.mem_append.1 hname with hname | hname
          · exact (hasks.loads _ (by simpa using hname)).2.2.2 l hl rfl
          · rcases hasks.fresh l hl with hl | hfree
            · exact hdead l hl hname
            · exact hfree (hflight _ hname)
        · rcases List.mem_append.1 hname with hname | hname
          · obtain ⟨⟨scope, hpending⟩, -⟩ := hasks.loads _ (by simpa using hname)
            rw [LibraryRegistry.inFlight, hpending] at hfree
            exact hfree List.mem_cons_self
          · exact hfree (hbelow _ hname)

/-- In every session, however often requests are called back: the registry is
consistent and there is a single image for each name whenever outside code has the
word, each request returns with the same in flight as when it was called, and an
image is only ever loaded for a name without owner that was not in flight. -/
theorem registry_guarded (hused : OneListPerScope used) {σ : libraryService.Session}
    (h : Reaches (libraryRules used) (.start {}) σ) :
    (Idle σ.frames = true →
      σ.now.state.Consistent ∧ SingleImages σ ∧ (σ.frames = [] → σ.now.state.pending = [])) ∧
    (∀ c e r fs, σ.frames = ⟨c, e, .running (.done r)⟩ :: fs →
      σ.now.state.pending = e.state.pending) ∧
    (∀ f ∈ σ.frames, ∀ since q next, f.stage = .waiting since q next → ∀ name ∈ q.loads?,
      since.state.owner? name = none ∧ name ∉ f.entry.state.inFlight ∧
        ∃ scope, since.state.pending = ⟨name, scope⟩ :: f.entry.state.pending) := by
  have hstart : Sound used ⟨{}, []⟩ := ⟨.empty, .start, .start⟩
  have hupheld := (libraryDiscipline hused).upheld hstart h
  refine ⟨?_, ?_, ?_⟩
  · intro idle
    have hsound : Sound used σ.now := hupheld.inv idle
    have hresting := hupheld.resting idle
    obtain ⟨hnodup, -, hapart⟩ := loading_of_resting hused hresting
    refine ⟨hsound.orderly.consistent hused, ?_, ?_⟩
    · exact ⟨fun _ _ => hsound.accounted.single, hapart, hnodup, hsound.booked⟩
    · intro hnone
      rw [hnone] at hresting
      exact Settled.pending hresting
  · intro c e r fs hframes
    obtain ⟨m, frames⟩ := σ
    obtain rfl : frames = _ := hframes
    exact hupheld.promised.1
  · intro f hf since q next hstage name hname
    obtain ⟨-, hasks⟩ := hupheld.asked hf hstage
    obtain ⟨hpending, hfree, howner, -⟩ := Asks.loads hasks name hname
    exact ⟨howner, hfree, hpending⟩

/-- A library is loaded whose initialisers load another one. -/
def nestedLoad : List libraryService.Move :=
  [.call (.load "a" .system), .answer (.canonical "a") (some "/lib/a"),
    .call (.load "b" .system), .answer (.canonical "b") (some "/lib/b")]

theorem registry_guarded_nested :
    ∃ σ, Session.play nestedLoad (.start {}) = some σ ∧
      loading σ.frames = ["/lib/b", "/lib/a"] ∧ SingleImages σ := by
  refine ⟨_, rfl, rfl, ?_⟩
  have hallowed : (libraryRules fun s => s.serial = 0).AllowsAll nestedLoad (.start {}) := by
    unfold nestedLoad
    repeat' refine allowsAll_cons ?_ rfl ?_
    all_goals first
      | trivial
      | intro s hs
        cases hs
        rfl
  exact ((registry_guarded oneListPerScope_own
    (reaches_of_play hallowed rfl)).1 rfl).2.1

end Loading
