import Loading.Proofs.Library.Entries
import Loading.World.Surroundings

/-!
# How a request for a library fails

A library is asked for by its short name in three ways: from the registry, for a loader,
or for the whole process.  Whoever is asked on the way may call anything back, and may
leave the world in any state.  A file that cannot be loaded is a candidate that failed,
and at the end the library was not found.  A library that is linked into the runtime is
no candidate: if it cannot be bound, the refusal of the dynamic loader itself is what
the request fails with.

* `LibraryTask.Anyhow` — what a request ends in, whatever happens meanwhile.
* `LibraryRequest` — the ways to ask for a library.
* `refused_bare_iff` — when the bare refusal of the dynamic loader is returned.
-/

namespace Loading

open Interaction

namespace LibraryTask

variable {α β : Type} {name path : String} {shelf : Shelf}

/-! ## Whatever happens meanwhile -/

/-- An operation ends in a postcondition on the result and on what was asked, in whatever
state it starts and whatever becomes of the state while it waits. -/
abbrev Anyhow (p : LibraryTask α) (post : α → List LibraryExchange → Prop) : Prop :=
  ∀ r, p.Amid (fun _ _ => True) (fun _ => true) r fun a _ t => post a t

variable {p : LibraryTask α} {post post' : α → List LibraryExchange → Prop}

theorem Anyhow.weaken (h : Anyhow p post) (hpost : ∀ a t, post a t → post' a t) :
    Anyhow p post' :=
  fun r => Amid.weaken (h r) fun a _ t => hpost a t

theorem anyhow_bind {f : α → LibraryTask β} {post : β → List LibraryExchange → Prop}
    (h : Anyhow p fun a t₁ => Anyhow (f a) fun b t₂ => post b (t₁ ++ t₂)) :
    Anyhow (p >>= f) post :=
  fun r => amid_bind (fun _ => trivial) (Amid.weaken (h r) fun _ r₁ _ hf => hf r₁)

theorem anyhow_done {a : α} (h : post a []) : Anyhow (done a) post :=
  fun _ _ _ => h

theorem anyhow_transact {f : LibraryRegistry → α × LibraryRegistry} (h : ∀ r, post (f r).1 []) :
    Anyhow (transact f) post :=
  fun _ r _ _ _ => h r

theorem anyhow_change {f : LibraryRegistry → LibraryRegistry}
    {post : Unit → List LibraryExchange → Prop} (h : post () []) : Anyhow (change f) post :=
  fun _ _ _ _ _ => h

theorem anyhow_ask (q : LibraryQuestion) :
    Anyhow (LibraryTask.ask q) fun x t => t = [⟨q, x⟩] :=
  fun _ _ _ _ _ _ => rfl

/-! ## Candidates -/

theorem anyhow_enter {builtin : Bool} {native : LibraryTask (Except String Handle)}
    {told : Except String Handle → LibraryExchange}
    (hnative : Anyhow native fun x t => t = [told x]) :
    Anyhow (enter name shelf builtin native) fun result t => ∃ entry : Entry,
      result = entry.result name shelf ∧ t = entry.exchanges told := by
  unfold enter
  refine anyhow_bind (anyhow_transact fun r => ?_)
  cases r.admission name shelf with
  | satisfied => exact anyhow_done ⟨.present, rfl, rfl⟩
  | refused owner => exact anyhow_done ⟨.taken owner, rfl, rfl⟩
  | granted =>
      refine anyhow_bind (hnative.weaken fun answer t ht => ?_)
      subst ht
      cases answer with
      | error reason =>
          exact anyhow_bind (anyhow_change (anyhow_done ⟨.failed reason, rfl, rfl⟩))
      | ok handle => exact anyhow_bind (anyhow_change (anyhow_done ⟨.loaded handle, rfl, rfl⟩))

theorem anyhow_load :
    Anyhow (load path shelf) fun result _ =>
      ∃ finding : Finding, result = finding.result shelf := by
  unfold load
  refine anyhow_bind ((anyhow_ask (.canonical path)).weaken fun answer t ht => ?_)
  cases answer with
  | none => exact anyhow_done ⟨.missing, rfl⟩
  | some name =>
      refine (anyhow_enter (anyhow_ask (.load name))).weaken fun result t hentry => ?_
      obtain ⟨entry, rfl, -⟩ := hentry
      exact ⟨.found name entry, rfl⟩

theorem anyhow_loadBuiltin :
    Anyhow (loadBuiltin name) fun result t =>
      (result = .ok false ∧ t = [⟨.isBuiltin name, false⟩]) ∨
        ∃ entry : Entry, result = entry.result name .builtin ∧
          t = ⟨.isBuiltin name, true⟩ :: entry.exchanges fun x => ⟨.loadBuiltin name, x⟩ := by
  unfold loadBuiltin
  refine anyhow_bind ((anyhow_ask (.isBuiltin name)).weaken fun answer t ht => ?_)
  subst ht
  cases answer with
  | false => exact anyhow_done (.inl ⟨rfl, rfl⟩)
  | true =>
      refine (anyhow_enter (anyhow_ask (.loadBuiltin name))).weaken fun result t hentry => ?_
      obtain ⟨entry, hresult, rfl⟩ := hentry
      exact .inr ⟨entry, hresult, rfl⟩

end LibraryTask

/-! ## Kinds of failure -/

/-- The ways in which a request for a library is meant to fail: it was not found, or
another scope has it. -/
def LibraryError.IsRefusal (name : String) : LibraryError → Prop
  | .unsatisfiedLink library _ => library = name
  | .collision _ _ _ => True
  | .loadFailed _ _ => False
  | .notLoaded _ => False

namespace LibraryTask

variable {name : String} {shelf : Shelf}

/-- Whatever becomes of the candidates, the search fails as it is meant to. -/
theorem anyhow_tryCandidates {fault : LinkFault} {places : List String} :
    Anyhow (tryCandidates name shelf fault places) fun result _ =>
      ∀ err, result = .error err → err.IsRefusal name := by
  induction places generalizing fault with
  | nil =>
      refine anyhow_done fun err herr => ?_
      cases herr
      rfl
  | cons candidate rest ih =>
      unfold tryCandidates
      refine anyhow_bind (anyhow_load.weaken fun result t hload => ?_)
      obtain ⟨finding, rfl⟩ := hload
      have hcanonical := anyhow_ask (.canonical candidate)
      have hfound : ∀ library,
          Anyhow (done (.ok library) : LibraryTask (Except LibraryError String))
          fun result _ => ∀ err, result = .error err → err.IsRefusal name := by
        intro library
        refine anyhow_done fun err herr => ?_
        cases herr
      cases finding with
      | missing => exact ih
      | found library entry =>
          cases entry with
          | present => exact anyhow_bind (hcanonical.weaken fun _ _ _ => hfound _)
          | taken owner =>
              refine anyhow_done fun err herr => ?_
              cases herr
              trivial
          | failed reason => exact ih
          | loaded handle => exact anyhow_bind (hcanonical.weaken fun _ _ _ => hfound _)

/-- What is asked when a library is bound that is linked into the runtime, and cannot be
bound. -/
def unbound (name reason : String) : List LibraryExchange :=
  [⟨.isBuiltin name, true⟩, ⟨.loadBuiltin name, .error reason⟩]

/-- A request fails as it is meant to, or with the bare refusal of the dynamic loader,
and that just when a library could not be bound. -/
theorem anyhow_loadLibrary {explicit : Option String} {search : SearchPath} :
    Anyhow (loadLibrary name explicit search shelf) fun result t =>
      (∀ err, result = .error err → err.IsRefusal name ∨ ∃ reason, err = .loadFailed name reason) ∧
        ∀ reason, result = .error (.loadFailed name reason) ↔ t = unbound name reason := by
  unfold loadLibrary
  refine anyhow_bind (anyhow_loadBuiltin.weaken fun result t hbuiltin => ?_)
  rcases hbuiltin with ⟨rfl, rfl⟩ | ⟨entry, rfl, rfl⟩
  · refine anyhow_tryCandidates.weaken fun result t hrefused => ?_
    refine ⟨fun err herr => .inl (hrefused err herr), fun reason => ?_⟩
    constructor
    · exact fun hbare => absurd (hrefused _ hbare) id
    · rintro ⟨⟩
  · cases entry with
    | present => exact anyhow_done ⟨nofun, fun reason => ⟨nofun, nofun⟩⟩
    | loaded handle => exact anyhow_done ⟨nofun, fun reason => ⟨nofun, nofun⟩⟩
    | taken owner =>
        refine anyhow_done ⟨fun err herr => ?_, fun reason => ⟨nofun, nofun⟩⟩
        cases herr
        exact .inl trivial
    | failed why =>
        refine anyhow_done ⟨fun err herr => ?_, fun reason => ⟨?_, ?_⟩⟩
        · cases herr
          exact .inr ⟨why, rfl⟩
        · rintro ⟨⟩
          rfl
        · rintro ⟨⟩
          rfl

end LibraryTask

/-! ## Requests on a world -/

/-- Is it the files or the dynamic loader that is asked? -/
def Question.isLibrary : Question → Bool
  | .loader _ => false
  | .library _ => true

/-- An exchange about libraries, on a world. -/
def LibraryExchange.onWorld (x : LibraryExchange) : (q : Question) × q.Answer :=
  ⟨.library x.1, x.2⟩

/-- What holds of an operation on libraries whatever happens holds of it on a world. -/
theorem LibraryTask.Anyhow.onWorld {α : Type} {p : LibraryTask α}
    {post : α → List ((q : Question) × q.Answer) → Prop}
    (h : p.Anyhow fun a t => post a (t.map LibraryExchange.onWorld)) (w : World) :
    (WorldTask.ofLibrary p).Amid (fun _ _ => True) Question.isLibrary w fun a _ t => post a t := by
  have hpart := h w.libraries
  clear h
  unfold WorldTask.ofLibrary
  induction p generalizing w post with
  | done a => exact fun _ _ => hpart w.libraries trivial
  | act update next ih =>
      exact fun w' _ => ih w'.libraries _ (hpart w'.libraries trivial)
  | ask q next ih => exact fun w' _ x => ih x w' (hpart w'.libraries trivial x)

/-- A request for a library by its short name. -/
inductive LibraryRequest where
  /-- Of the registry, for a list. -/
  | ofRegistry (name : String) (explicit : Option String) (search : SearchPath) (shelf : Shelf)
  /-- Of a loader. -/
  | ofLoader (l : Loader) (name : String)
  /-- Of a context, for the whole process. -/
  | ofContext (c : Context) (name : String)

namespace LibraryRequest

/-- The library that is asked for. -/
def name : LibraryRequest → String
  | ofRegistry name _ _ _ => name
  | ofLoader _ name => name
  | ofContext _ name => name

/-- How a request goes. -/
def task : LibraryRequest → WorldTask (Except LibraryError String)
  | ofRegistry name explicit search shelf =>
      WorldTask.ofLibrary (LibraryTask.loadLibrary name explicit search shelf)
  | ofLoader l name => l.loadLibrary name
  | ofContext c name => c.loadSystemLibrary name

/-- A request fails as it is meant to, or with the bare refusal of the dynamic loader, and
that just when a library could not be bound. -/
def Fails (p : LibraryRequest) (result : Except LibraryError String)
    (t : List ((q : Question) × q.Answer)) : Prop :=
  (∀ err, result = .error err →
      err.IsRefusal p.name ∨ ∃ reason, err = .loadFailed p.name reason) ∧
    ∀ reason, result = .error (.loadFailed p.name reason) ↔
      t = [⟨.library (.isBuiltin p.name), true⟩, ⟨.library (.loadBuiltin p.name), .error reason⟩]

theorem amid_loadLibrary (p : LibraryRequest) {explicit : Option String} {search : SearchPath}
    {shelf : Shelf} (w : World) :
    (WorldTask.ofLibrary (LibraryTask.loadLibrary p.name explicit search shelf)).Amid
      (fun _ _ => True) Question.isLibrary w fun result _ t => p.Fails result t := by
  refine LibraryTask.Anyhow.onWorld (LibraryTask.anyhow_loadLibrary.weaken ?_) w
  rintro result t ⟨hkinds, hbare⟩
  refine ⟨hkinds, fun reason => (hbare reason).trans ?_⟩
  have hinj : ∀ x y, LibraryExchange.onWorld x = LibraryExchange.onWorld y → x = y := by
    rintro ⟨q, a⟩ ⟨q', a'⟩ heq
    cases heq
    rfl
  exact (List.map_inj_right hinj).symm

end LibraryRequest

/-- Whatever state the world is in, whatever is answered and whatever is called back
meanwhile: a request for a library fails because it was not found or because another
scope has it, and in no other way, unless the library is linked into the runtime and
could not be bound; then, and only then, the refusal of the dynamic loader itself is
returned. -/
theorem refused_bare_iff (p : LibraryRequest) {E : Type}
    (answer : (q : Question) → World → E → q.Answer × World × E) (w : World) (e : E) :
    (∀ err, (p.task.run answer w e).1 = .error err →
        err.IsRefusal p.name ∨ ∃ reason, err = .loadFailed p.name reason) ∧
      ∀ reason, (p.task.run answer w e).1 = .error (.loadFailed p.name reason) ↔
        p.task.exchanges answer Question.isLibrary w e =
          [⟨.library (.isBuiltin p.name), true⟩,
            ⟨.library (.loadBuiltin p.name), .error reason⟩] := by
  have hamid : p.task.Amid (fun _ _ => True) Question.isLibrary w
      fun result _ t => p.Fails result t := by
    cases p with
    | ofRegistry name explicit search shelf =>
        exact LibraryRequest.amid_loadLibrary (.ofRegistry name explicit search shelf) w
    | ofLoader l name =>
        -- The finder of the loader is asked first, and that is no question about libraries.
        exact fun _ _ _ => LibraryRequest.amid_loadLibrary (.ofLoader l name) _
    | ofContext c name => exact LibraryRequest.amid_loadLibrary (.ofContext c name) w
  exact hamid.ends (fun _ => trivial) (fun _ _ _ => trivial) e

/-- A process into which a library is linked. -/
def furnished : Surroundings where
  files := { look := fun _ => .error .notFound, canonical := fun _ => none }
  dynamic := { builtins := ["core"] }

/-- What is linked into the runtime cannot be bound. -/
def unbinding : (q : Question) → World → Surroundings → q.Answer × World × Surroundings
  | .library (.loadBuiltin _), w, e => (.error "broken", w, e)
  | q, w, e => Surroundings.answer q w e

theorem refused_bare_core :
    ((LibraryRequest.ofRegistry "core" none {} .system).task.run unbinding {} furnished).1 =
        .error (.loadFailed "core" "broken") ∧
      ((LibraryRequest.ofLoader (.root ⟨⟨1⟩, .base, true, {}⟩) "core").task.run unbinding {}
        furnished).1 = .error (.loadFailed "core" "broken") ∧
      ((LibraryRequest.ofContext {} "core").task.run unbinding {} furnished).1 =
        .error (.loadFailed "core" "broken") :=
  ⟨((refused_bare_iff _ unbinding {} furnished).2 "broken").2 rfl,
    ((refused_bare_iff _ unbinding {} furnished).2 "broken").2 rfl,
    ((refused_bare_iff _ unbinding {} furnished).2 "broken").2 rfl⟩

end Loading
