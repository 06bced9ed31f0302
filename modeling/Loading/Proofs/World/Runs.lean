import Loading.Proofs.Library.Turns
import Loading.Proofs.Loader.Hierarchy
import Loading.World.Lifetime

/-!
# Runs on loaders and libraries

A program makes loaders, uses them, lets go of them, and loads and unloads native
libraries for them, one operation after the other.  A `Run` is a log of that.  Who
is asked meanwhile does not call back; what a finder does before it answers may as
well have been done before the library was requested.

* `WorldCall` — the operations.
* `Run` — a log of operations, from one world to another.
* `Advance` — what an operation does to loaders and libraries.
* `advances` — every operation does no more than that.
-/

namespace Loading

open Interaction LibraryRegistry

namespace World

/-- Has a loader of the number not been freed? -/
def Lives (w : World) (id : LoaderId) : Prop :=
  ∃ l ∈ w.living, l.id = id

/-- The list that a loader or the process has by itself, as long as the loader
lives. -/
def Open (w : World) (s : Shelf) : Prop :=
  s.serial = 0 ∧ ∀ id, s.scope = .loader id → w.Lives id

/-- Has a loader been torn down? -/
def tornDown (w : World) (id : LoaderId) : Bool :=
  (w.loaders.tablesOf id).tornDown

/-- The world in which a loader is marked as torn down. -/
def mark (w : World) (l : Loader) : World :=
  { w with loaders := w.loaders.onTables l.id fun t => { t with tornDown := true } }

end World

/-- An operation on loaders and their libraries. -/
inductive WorldCall where
  /-- Make a loader. -/
  | make (k : Kind) (parent : Option Loader) (context : Context)
  /-- Use a loader once more. -/
  | hold (l : Loader)
  /-- Use a loader once less. -/
  | letGo (l : Loader)
  /-- Free the libraries of a loader. -/
  | teardown (l : Loader)
  /-- Load a library for a loader, by its short name. -/
  | loadLibrary (l : Loader) (name : String)
  /-- Load the library at a path for a loader. -/
  | loadLibraryAt (l : Loader) (path : String)
  /-- Any request to the registry of libraries. -/
  | library (c : LibraryCall)

namespace WorldCall

/-- How an operation goes; the result is what goes wrong with libraries. -/
def task : WorldCall → WorldTask (Option LibraryError)
  | .make k parent context => do
      let _ ← WorldTask.make k parent context
      return none
  | .hold l => do
      WorldTask.hold l
      return none
  | .letGo l => do
      WorldTask.letGo l
      return none
  | .teardown l => do
      l.teardown
      return none
  | .loadLibrary l name => failure? <$> l.loadLibrary name
  | .loadLibraryAt l path => failure? <$> l.loadLibraryAt path
  | .library c => c.failure? <$> WorldTask.ofLibrary c.body

/-- Libraries are loaded and unloaded for loaders that live and for the process. -/
def Allowed (w : World) : WorldCall → Prop
  | .teardown l | .loadLibrary l _ | .loadLibraryAt l _ => w.Lives l.id
  | .library c => ∀ s ∈ c.shelf?, w.Open s
  | .make _ _ _ | .hold _ | .letGo _ => True

end WorldCall

/-- What is written down of an operation. -/
structure Record where
  /-- The operation. -/
  call : WorldCall
  /-- What went wrong. -/
  failure : Option LibraryError
  /-- What was asked and answered meanwhile. -/
  exchanges : List ((q : Question) × q.Answer)
  /-- The world afterwards. -/
  world : World

/-- The operation was allowed in a world, and went as it is written down. -/
structure Record.Follows (x : Record) (w : World) : Prop where
  /-- It was allowed. -/
  allowed : x.call.Allowed w
  /-- It went so, while nobody called back. -/
  uninterrupted : x.call.task.Uninterrupted w x.failure x.world x.exchanges

/-- One operation after the other leads from one world to another. -/
inductive Run (w : World) : List Record → World → Prop where
  /-- Nothing has been done. -/
  | start : Run w [] w
  /-- One more operation. -/
  | step {log : List Record} {w' : World} {x : Record} (h : Run w log w') (hx : x.Follows w') :
      Run w (log ++ [x]) x.world

/-- The image that a question gives back. -/
def Question.unloads? : Question → Option Handle
  | .library q => q.unloads?
  | .loader _ => none

/-- The images that were given back, the first one first. -/
def unloads (log : List Record) : List Handle :=
  log.flatMap fun x => asked Question.unloads? x.exchanges

/-! ## Operations on a part -/

/-- What a request leads to, it leads to on the whole, and nothing else changes. -/
theorem leads_ofLibrary {α : Type} {p : LibraryTask α} {w : World}
    {P : α → LibraryRegistry → List Handle → Prop}
    (h : p.Leads w.libraries fun a r t => P a r (asked LibraryQuestion.unloads? t)) :
    (WorldTask.ofLibrary p).Leads w fun a w' t =>
      P a w'.libraries (asked Question.unloads? t) ∧
        w' = { w with libraries := w'.libraries } := by
  induction p generalizing w P with
  | done a => exact ⟨h, rfl⟩
  | act update next ih => exact ih w.libraries (w := { w with libraries := update w.libraries }) h
  | ask q next ih =>
      intro x
      have hrest : (next x).Leads w.libraries fun a r t =>
          P a r (q.unloads?.toList ++ asked LibraryQuestion.unloads? t) :=
        (h x).weaken fun a r t hpost => asked_cons LibraryQuestion.unloads? ⟨q, x⟩ t ▸ hpost
      refine (ih x (P := fun a r handles => P a r (q.unloads?.toList ++ handles))
        hrest).weaken fun a w' t hpost => ?_
      beta_reduce
      rw [asked_cons]
      exact hpost

/-! ## What each operation does -/

/-- What an operation does to loaders and their libraries. -/
structure Advance (w : World) (gone : List Library) (failure : Option LibraryError)
    (w' : World) : Prop where
  /-- Libraries come and go on the lists of the process and of loaders that live. -/
  turns : Turns w.Open w.libraries gone w'.libraries
  /-- A scope that is blamed has the library. -/
  blamed : ∀ {name owner requester}, failure = some (.collision name owner requester) →
    w'.libraries.owner? name = some owner
  /-- Numbers are not used again. -/
  next_le : w.loaders.nextLoader ≤ w'.loaders.nextLoader
  /-- A loader that lives lived before, or it is new. -/
  lives : ∀ {id}, w'.Lives id →
    w.Lives id ∨ w.loaders.nextLoader ≤ id.val ∧ id.val < w'.loaders.nextLoader
  /-- The list of a loader that is freed is released, unless that was done before. -/
  freed : ∀ {id}, w.Lives id → ¬ w'.Lives id → w'.libraries.onShelf (.ofLoader id) =
    if w.tornDown id then w.libraries.onShelf (.ofLoader id) else []

/-- An operation advances the world. -/
abbrev Advances (w : World) (p : WorldTask (Option LibraryError)) : Prop :=
  p.Leads w fun failure w' t =>
    ∃ gone, Advance w gone failure w' ∧ asked Question.unloads? t = ownImages gone

variable {w w' : World}

/-- The process has lists of its own, whoever lives. -/
theorem open_builtin : w.Open .builtin :=
  ⟨rfl, nofun⟩

theorem open_system : w.Open .system :=
  ⟨rfl, nofun⟩

theorem open_ofLoader {id : LoaderId} : w.Open (.ofLoader id) ↔ w.Lives id := by
  constructor
  · exact fun h => h.2 id rfl
  · rintro h
    refine ⟨rfl, fun id' heq => ?_⟩
    cases heq
    exact h

/-- Requests for libraries advance the world. -/
theorem Advance.of_went {failure : Option LibraryError} {handles : List Handle}
    (h : Went w.Open w.libraries failure w'.libraries handles)
    (hsame : w' = { w with libraries := w'.libraries }) :
    ∃ gone, Advance w gone failure w' ∧ handles = ownImages gone := by
  obtain ⟨gone, hturns, himages⟩ := h.turned
  have hliving : w'.living = w.living := by rw [hsame]
  have hnext : w.loaders.nextLoader = w'.loaders.nextLoader := by rw [hsame]
  have hlives : ∀ {id}, w'.Lives id ↔ w.Lives id := by
    intro id
    rw [World.Lives, World.Lives, hliving]
  exact ⟨gone, ⟨hturns, h.blamed, Nat.le_of_eq hnext, fun hid => .inl (hlives.1 hid),
    fun hold hnew => absurd (hlives.2 hold) hnew⟩, himages⟩

/-- Libraries are loaded and unloaded on lists of loaders that live. -/
theorem advances_library {α : Type} {p : LibraryTask α} {fails : α → Option LibraryError}
    (h : LibraryTask.Does w.Open fails p w.libraries) :
    Advances w (fails <$> WorldTask.ofLibrary p) := by
  refine leads_map.2 ((leads_ofLibrary (P := fun a r handles =>
    Went w.Open w.libraries (fails a) r handles) h).weaken fun a w' t hwent => ?_)
  exact Advance.of_went hwent.1 hwent.2

/-- Libraries are left alone by what makes loaders and counts their uses. -/
theorem Advance.apart (hlibraries : w'.libraries = w.libraries)
    (hnext : w.loaders.nextLoader ≤ w'.loaders.nextLoader)
    (hold : ∀ {id}, w.Lives id → w'.Lives id)
    (hnew : ∀ {id}, w'.Lives id →
      w.Lives id ∨ w.loaders.nextLoader ≤ id.val ∧ id.val < w'.loaders.nextLoader) :
    Advance w [] none w' where
  turns := by
    rw [hlibraries]
    exact .rest
  blamed := nofun
  next_le := hnext
  lives := hnew
  freed h h' := absurd (hold h) h'

/-- A loader that is made gets the next number. -/
theorem advances_make {k : Kind} {parent : Option Loader} {context : Context} :
    Advances w (WorldCall.make k parent context).task := by
  intro permission
  cases permission with
  | error e => exact ⟨[], .apart rfl (Nat.le_refl _) id .inl, rfl⟩
  | ok _ =>
      have hid : (w.loaders.create k parent context).1.id = ⟨w.loaders.nextLoader⟩ := by
        cases parent <;> rfl
      refine ⟨[], .apart rfl (Nat.le_succ _) ?_ ?_, rfl⟩
      · rintro id ⟨l, hl, hlid⟩
        exact ⟨l, List.mem_append_left _ hl, hlid⟩
      · rintro id ⟨l, hl, rfl⟩
        rcases List.mem_append.1 hl with hl | hl
        · exact .inl ⟨l, hl, rfl⟩
        · rw [List.mem_singleton.1 hl, hid]
          exact .inr ⟨Nat.le_refl _, Nat.lt_succ_self _⟩

/-- What a loader's teardown does: its list is released, unless that was done before. -/
structure Torn (l : Loader) (w : World) (gone : List Library) (w' : World) : Prop where
  /-- Only its own list changes. -/
  turns : Turns (fun s => s = l.shelf) w.libraries gone w'.libraries
  /-- The list is released, unless the loader was torn down before. -/
  released : w'.libraries.onShelf l.shelf =
    if w.tornDown l.id then w.libraries.onShelf l.shelf else []
  /-- The loader is marked, and nothing else changes. -/
  marked : w' = { w.mark l with libraries := w'.libraries }

theorem leads_teardown (l : Loader) :
    l.teardown.Leads w fun _ w' t =>
      ∃ gone, Torn l w gone w' ∧ asked Question.unloads? t = ownImages gone := by
  unfold Loader.teardown
  rw [leads_bind, leads_transact]
  cases hdone : (w.loaders.tablesOf l.id).tornDown with
  | true =>
      have hreleased : w.libraries.onShelf l.shelf =
          if w.tornDown l.id then w.libraries.onShelf l.shelf else [] := (if_pos hdone).symm
      exact ⟨[], ⟨.rest, hreleased, rfl⟩, rfl⟩
  | false =>
      have hreleased : [] = if w.tornDown l.id then w.libraries.onShelf l.shelf else [] :=
        (if_neg (by rw [World.tornDown, hdone]; exact Bool.false_ne_true)).symm
      show (WorldTask.ofLibrary (LibraryTask.releaseShelf l.shelf)).Leads (w.mark l) _
      refine (leads_ofLibrary (w := w.mark l) (P := fun _ r handles =>
        Went (fun s => s = l.shelf) w.libraries none r handles ∧ r.onShelf l.shelf = [])
        (LibraryTask.leads_releaseShelf rfl)).weaken fun _ w' t hwent => ?_
      obtain ⟨⟨hwent, hempty⟩, hsame⟩ := hwent
      obtain ⟨gone, hturns, himages⟩ := hwent.turned
      exact ⟨gone, ⟨hturns, hempty.trans hreleased, hsame⟩, himages⟩

theorem Torn.lives {l : Loader} {gone : List Library} (h : Torn l w gone w') {id : LoaderId} :
    w'.Lives id ↔ w.Lives id := by
  have hliving : w'.living = w.living := by
    rw [h.marked]
    rfl
  rw [World.Lives, World.Lives, hliving]

/-- Only its own list is touched, which is open while the loader lives. -/
theorem Torn.turns_open {l : Loader} {gone : List Library} (h : Torn l w gone w')
    (hl : w.Lives l.id) : Turns w.Open w.libraries gone w'.libraries := by
  refine h.turns.mono ?_
  rintro s rfl
  exact open_ofLoader.2 hl

/-- Other loaders are as they were. -/
theorem Torn.tornDown_of_ne {l : Loader} {gone : List Library} (h : Torn l w gone w')
    {id : LoaderId} (hne : id ≠ l.id) : w'.tornDown id = w.tornDown id := by
  rw [World.tornDown, World.tornDown, h.marked]
  exact congrArg LoaderTables.tornDown (Loaders.tablesOf_onTables_of_ne _ _ hne)

theorem advances_teardown {l : Loader} (hl : w.Lives l.id) :
    Advances w (WorldCall.teardown l).task := by
  refine leads_map.2 ((leads_teardown l).weaken fun _ w' t htorn => ?_)
  obtain ⟨gone, htorn, himages⟩ := htorn
  refine ⟨gone, ⟨htorn.turns_open hl, nofun, ?_, fun h => .inl (htorn.lives.1 h), ?_⟩, himages⟩
  · rw [htorn.marked]
    exact Nat.le_refl _
  · exact fun h h' => absurd (htorn.lives.2 h) h'

/-! ## Letting go of loaders -/

/-- What is left when loaders have been freed that nobody needs. -/
structure Reaped (w : World) (gone : List Library) (w' : World) : Prop where
  /-- Only the lists of loaders that lived have changed. -/
  turns : Turns w.Open w.libraries gone w'.libraries
  /-- No loader has been made. -/
  next_eq : w'.loaders.nextLoader = w.loaders.nextLoader
  /-- No loader has come to live. -/
  lives : ∀ {id}, w'.Lives id → w.Lives id
  /-- A loader that lives is as it was. -/
  spared : ∀ {id}, w'.Lives id → w'.tornDown id = w.tornDown id ∧
    w'.libraries.onShelf (.ofLoader id) = w.libraries.onShelf (.ofLoader id)
  /-- The list of a loader that was freed is released, unless that was done before. -/
  freed : ∀ {id}, w.Lives id → ¬ w'.Lives id → w'.libraries.onShelf (.ofLoader id) =
    if w.tornDown id then w.libraries.onShelf (.ofLoader id) else []

namespace Reaped

variable {w₁ w₂ : World} {gone gone' : List Library}

theorem refl (w : World) : Reaped w [] w :=
  ⟨.rest, rfl, id, fun _ => ⟨rfl, rfl⟩, fun h h' => absurd h h'⟩

theorem trans (h₁ : Reaped w gone w₁) (h₂ : Reaped w₁ gone' w₂) :
    Reaped w (gone ++ gone') w₂ where
  turns := by
    refine h₁.turns.trans (h₂.turns.mono ?_)
    exact fun s hs => ⟨hs.1, fun id hid => h₁.lives (hs.2 id hid)⟩
  next_eq := h₂.next_eq.trans h₁.next_eq
  lives h := h₁.lives (h₂.lives h)
  spared {id} h := by
    obtain ⟨htorn₁, hshelf₁⟩ := h₁.spared (h₂.lives h)
    obtain ⟨htorn₂, hshelf₂⟩ := h₂.spared h
    exact ⟨htorn₂.trans htorn₁, hshelf₂.trans hshelf₁⟩
  freed {id} h h' := by
    by_cases hmid : w₁.Lives id
    · obtain ⟨htorn, hshelf⟩ := h₁.spared hmid
      rw [h₂.freed hmid h', htorn, hshelf]
    · have hclosed : ¬ w₁.Open (.ofLoader id) := fun hopen => hmid (open_ofLoader.1 hopen)
      rw [h₂.turns.onShelf_of_not hclosed, h₁.freed h hmid]

/-- A loader is torn down and freed. -/
theorem of_torn {l : Loader} (hl : w.Lives l.id) (h : Torn l w gone w₁) :
    Reaped w gone (w₁.free l) := by
  have hlives : ∀ {id}, (w₁.free l).Lives id ↔ w.Lives id ∧ id ≠ l.id := by
    intro id
    rw [← h.lives]
    simp only [World.Lives, World.free, List.mem_filter, decide_eq_true_eq]
    constructor
    · rintro ⟨m, ⟨hm, hne⟩, rfl⟩
      exact ⟨⟨m, hm, rfl⟩, hne⟩
    · rintro ⟨⟨m, hm, rfl⟩, hne⟩
      exact ⟨m, ⟨hm, hne⟩, rfl⟩
  refine ⟨h.turns_open hl, ?_, fun h' => (hlives.1 h').1, fun {id} h' => ?_, fun {id} hid h' => ?_⟩
  · show w₁.loaders.nextLoader = w.loaders.nextLoader
    rw [h.marked]
    rfl
  · have hne : id ≠ l.id := (hlives.1 h').2
    have hother : ¬ Shelf.ofLoader id = l.shelf := fun heq => by
      cases heq
      exact hne rfl
    exact ⟨h.tornDown_of_ne hne, h.turns.onShelf_of_not hother⟩
  · have heq : id = l.id := by
      by_contra hne
      exact h' (hlives.2 ⟨hid, hne⟩)
    rw [heq]
    exact h.released

end Reaped

/-- Only loaders that live are freed. -/
theorem lives_of_keeps {l : Loader} (h : w.keeps l = false) : w.Lives l.id := by
  simp only [World.keeps, Bool.or_eq_false_iff, Bool.not_eq_false', List.any_eq_true,
    decide_eq_true_eq] at h
  exact h.1.1

/-- Loaders that have no reason to live are freed, from a loader upwards. -/
theorem leads_reap (l : Loader) :
    (WorldTask.reap l).Leads w fun _ w' t =>
      ∃ gone, Reaped w gone w' ∧ asked Question.unloads? t = ownImages gone := by
  induction l generalizing w with
  | root level =>
      unfold WorldTask.reap
      rw [leads_bind, leads_observe]
      cases hkeeps : w.keeps (.root level) with
      | true => exact ⟨[], .refl w, rfl⟩
      | false =>
          refine leads_bind.2 ((leads_teardown _).weaken fun _ w₁ t htorn => ?_)
          obtain ⟨gone, htorn, himages⟩ := htorn
          show ∃ gone, Reaped w gone (w₁.free (.root level)) ∧
            asked Question.unloads? ([] ++ (t ++ [])) = ownImages gone
          rw [List.nil_append, List.append_nil]
          exact ⟨gone, .of_torn (lives_of_keeps hkeeps) htorn, himages⟩
  | child level parent ih =>
      unfold WorldTask.reap
      rw [leads_bind, leads_observe]
      cases hkeeps : w.keeps (.child level parent) with
      | true => exact ⟨[], .refl w, rfl⟩
      | false =>
          refine leads_bind.2 ((leads_teardown _).weaken fun _ w₁ t htorn => ?_)
          obtain ⟨gone, htorn, himages⟩ := htorn
          have hfree := Reaped.of_torn (lives_of_keeps hkeeps) htorn
          show (WorldTask.reap parent).Leads (w₁.free (.child level parent)) _
          refine ih.weaken fun _ w₂ t₂ hreaped => ?_
          obtain ⟨gone', hreaped, himages'⟩ := hreaped
          refine ⟨gone ++ gone', hfree.trans hreaped, ?_⟩
          rw [List.nil_append, asked_append, himages, himages', ownImages_append]

theorem advances_letGo {l : Loader} : Advances w (WorldCall.letGo l).task := by
  show (WorldTask.reap l >>= fun _ => done none).Leads { w with held := w.held.erase l.id } _
  refine leads_map.2 ((leads_reap l).weaken fun _ w' t hreaped => ?_)
  obtain ⟨gone, hreaped, himages⟩ := hreaped
  refine ⟨gone, ⟨hreaped.turns, nofun, ?_, fun h => .inl (hreaped.lives h), ?_⟩, himages⟩
  · exact Nat.le_of_eq hreaped.next_eq.symm
  · exact hreaped.freed

/-! ## Runs -/

/-- Every operation that is allowed advances the world. -/
theorem WorldCall.advances (c : WorldCall) (hallowed : c.Allowed w)
    (hpending : w.libraries.pending = []) : Advances w c.task := by
  cases c with
  | make k parent context => exact advances_make
  | hold l => exact ⟨[], .apart rfl (Nat.le_refl _) id .inl, rfl⟩
  | letGo l => exact advances_letGo
  | teardown l => exact advances_teardown hallowed
  | loadLibrary l name =>
      -- The finder is asked first, and changes nothing.
      intro explicit
      exact advances_library (LibraryTask.does_loadLibrary open_builtin
        (open_ofLoader.2 hallowed) hpending)
  | loadLibraryAt l path =>
      exact advances_library (LibraryTask.does_loadAbsolute (open_ofLoader.2 hallowed) hpending)
  | library c => exact advances_library (c.does open_builtin open_system hallowed hpending)

end Loading
