import Loading.Proofs.World.Runs
import Loading.World.Surroundings

/-!
# What a loader leaves behind

When the last use of a loader is gone, it is torn down and freed, and so are its
native libraries: other loaders may load the same files from then on.  But a
teardown counts once only, and a loader that has been torn down may still load
libraries.  `freed_iff` says that this is the only way to leave anything behind.

* `Steady` — what holds between operations.
* `Accounts` — the log of a run and the libraries that were removed on the way.
* `Buried` — a loader that has been freed, and what is left on its list.
* `Freed` — nothing is left of a loader.
* `freed_iff` — a loader that is freed leaves nothing behind, unless it was torn down
  before and loaded libraries afterwards.
-/

namespace Loading

open LibraryRegistry

/-- What holds between operations. -/
structure Steady (gone : List Library) (w : World) : Prop where
  /-- The registry is in order, where every scope has its own list. -/
  orderly : w.libraries.Orderly fun s => s.serial = 0
  /-- Nothing is in flight. -/
  idle : w.libraries.pending = []
  /-- The books are balanced. -/
  spent : Spent gone w.libraries
  /-- Loaders have numbers that have been given out. -/
  numbered : ∀ {id}, w.Lives id → id.val < w.loaders.nextLoader

/-- The log of a run, and the libraries that were removed on the way. -/
structure Accounts (log : List Record) (gone : List Library) (w : World) : Prop
    extends Steady gone w where
  /-- What was given back are the images of what was removed. -/
  unloaded : unloads log = ownImages gone
  /-- What was on a list at some time is there, or it was removed. -/
  kept : ∀ {x s l}, x ∈ log → l ∈ x.world.libraries.onShelf s →
    l ∈ w.libraries.onShelf s ∨ l ∈ gone

/-- A loader has been freed, and something is left on its list. -/
structure Buried (id : LoaderId) (left : List Library) (w : World) : Prop where
  /-- It does not live. -/
  dead : ¬ w.Lives id
  /-- Its number will not be used again. -/
  old : id.val < w.loaders.nextLoader
  /-- What is left on its list. -/
  left_eq : w.libraries.onShelf (.ofLoader id) = left

section Steps

variable {w w' : World} {log log' : List Record} {gone gone' : List Library} {x : Record}
  {failure : Option LibraryError} {id : LoaderId} {left : List Library}

theorem Steady.advance (h : Steady gone w) (hadvance : Advance w gone' failure w') :
    Steady (gone ++ gone') w' := by
  have hturns : Turns (fun s => s.serial = 0) w.libraries gone' w'.libraries :=
    hadvance.turns.mono fun s hs => hs.1
  refine ⟨hturns.orderly oneListPerScope_own h.orderly h.idle, hturns.pending.trans h.idle,
    hturns.spent oneListPerScope_own h.orderly h.idle h.spent, fun hid => ?_⟩
  rcases hadvance.lives hid with hid | ⟨-, hlt⟩
  · exact Nat.lt_of_lt_of_le (h.numbered hid) hadvance.next_le
  · exact hlt

/-- A new process has nothing to account for. -/
theorem Accounts.start : Accounts [] [] {} where
  orderly := .empty
  idle := rfl
  spent := .empty
  numbered := by
    rintro id ⟨l, hl, -⟩
    exact absurd hl List.not_mem_nil
  unloaded := rfl
  kept hx := absurd hx List.not_mem_nil

/-- One more operation is accounted for. -/
theorem Accounts.step (h : Accounts log gone w) (hx : x.Follows w) :
    ∃ gone', Advance w gone' x.failure x.world ∧ Accounts (log ++ [x]) (gone ++ gone') x.world := by
  obtain ⟨gone', hadvance, himages⟩ := (x.call.advances hx.allowed h.idle).apply hx.uninterrupted
  refine ⟨gone', hadvance, h.toSteady.advance hadvance, ?_, fun {y s l} hy hl => ?_⟩
  · have hlast : unloads [x] = ownImages gone' := by
      simpa only [unloads, List.flatMap_singleton] using himages
    rw [ownImages_append, ← h.unloaded, ← hlast]
    exact List.flatMap_append
  · rcases List.mem_append.1 hy with hy | hy
    · rcases h.kept hy hl with hl | hl
      · exact (hadvance.turns.kept hl).imp_right fun hl => List.mem_append_right _ hl
      · exact .inr (List.mem_append_left _ hl)
    · rw [List.mem_singleton.1 hy] at hl
      exact .inl hl

/-- A whole run is accounted for. -/
theorem Run.accounts (hrun : Run w log' w') (h : Accounts log gone w) :
    ∃ gone', Accounts (log ++ log') gone' w' := by
  induction hrun with
  | start => exact ⟨gone, by rwa [List.append_nil]⟩
  | step _ hx ih =>
      obtain ⟨gone₁, hmid⟩ := ih
      obtain ⟨gone₂, -, hend⟩ := hmid.step hx
      exact ⟨gone₁ ++ gone₂, by rwa [← List.append_assoc]⟩

/-- A loader that has been freed does not come back, and its list stays as it is. -/
theorem Buried.advance (h : Buried id left w) (hadvance : Advance w gone failure w') :
    Buried id left w' where
  dead hid := by
    rcases hadvance.lives hid with hid | ⟨hle, -⟩
    · exact h.dead hid
    · exact Nat.not_le_of_lt h.old hle
  old := Nat.lt_of_lt_of_le h.old hadvance.next_le
  left_eq := by
    rw [hadvance.turns.onShelf_of_not fun hopen => h.dead (open_ofLoader.1 hopen), h.left_eq]

/-- A loader owns something exactly when something is on its list. -/
theorem Steady.owns_iff (h : Steady gone w) :
    (∃ name, w.libraries.owner? name = some (.loader id)) ↔
      w.libraries.onShelf (.ofLoader id) ≠ [] :=
  h.orderly.owns_iff oneListPerScope_own (s := .ofLoader id) rfl

/-- Nothing changes on the list of a loader that has been freed, and nobody is refused
for its sake if nothing is on it. -/
theorem Run.buried (hrun : Run w log' w') (h : Accounts log gone w) (hburied : Buried id left w) :
    Buried id left w' ∧ (left = [] → ∀ x ∈ log', ∀ name requester,
      x.failure ≠ some (.collision name (.loader id) requester)) := by
  induction hrun with
  | start => exact ⟨hburied, fun _ x hx => absurd hx List.not_mem_nil⟩
  | @step log' w₁ x hrun hx ih =>
      obtain ⟨hburied₁, hblameless⟩ := ih
      obtain ⟨gone₁, hmid⟩ := hrun.accounts h
      obtain ⟨gone₂, hadvance, hend⟩ := hmid.step hx
      have hburied₂ := hburied₁.advance hadvance
      refine ⟨hburied₂, fun hleft y hy name requester hfailure => ?_⟩
      rcases List.mem_append.1 hy with hy | hy
      · exact hblameless hleft y hy name requester hfailure
      · rw [List.mem_singleton.1 hy] at hfailure
        exact hend.owns_iff.1 ⟨name, hadvance.blamed hfailure⟩ (hburied₂.left_eq.trans hleft)

/-- A loader that stops living is buried with what was loaded after its teardown. -/
theorem Advance.buries (h : Advance w gone failure w') (hsteady : Steady gone' w)
    (hlives : w.Lives id) (hfreed : ¬ w'.Lives id) :
    Buried id (if w.tornDown id then w.libraries.onShelf (.ofLoader id) else []) w' where
  dead := hfreed
  old := Nat.lt_of_lt_of_le (hsteady.numbered hlives) h.next_le
  left_eq := h.freed hlives hfreed

end Steps

/-! ## Nothing is left -/

/-- Nothing is left of a loader after a run, the last part of which came after it. -/
structure Freed (id : LoaderId) (log after : List Record) (w : World) : Prop where
  /-- It owns no name. -/
  unowned : ∀ name, w.libraries.owner? name ≠ some (.loader id)
  /-- Every library that was ever on its list has been unloaded.  No library has been
  unloaded twice, and for each one its image was given back, unless it was built in. -/
  unloaded : ∃ gone : List Library, w.libraries.retired = (gone.map (·.serial)).reverse ∧
    (gone.map (·.serial)).Nodup ∧ unloads log = ownImages gone ∧
    ∀ x ∈ log, ∀ l ∈ x.world.libraries.onShelf (.ofLoader id), l ∈ gone
  /-- Nobody was refused a library for its sake afterwards. -/
  unblamed : ∀ x ∈ after, ∀ name requester,
    x.failure ≠ some (.collision name (.loader id) requester)

/-- Nothing is left of a loader with an empty list. -/
theorem Accounts.freed {log after : List Record} {gone : List Library} {w : World} {id : LoaderId}
    (h : Accounts log gone w) (hburied : Buried id [] w)
    (hunblamed : ∀ x ∈ after, ∀ name requester,
      x.failure ≠ some (.collision name (.loader id) requester)) : Freed id log after w where
  unowned name howner := h.owns_iff.1 ⟨name, howner⟩ hburied.left_eq
  unloaded := by
    have hserials : (gone.map (·.serial)).Nodup :=
      h.spent.nodup.map_on fun l hl k hk heq => h.spent.serial_inj (.inl hl) (.inl hk) heq
    refine ⟨gone, h.spent.retired, hserials, h.unloaded, fun x hx l hl => ?_⟩
    refine (h.kept hx hl).resolve_left fun hmem => ?_
    rw [hburied.left_eq] at hmem
    exact List.not_mem_nil hmem
  unblamed := hunblamed

/-- A loader that is freed leaves nothing behind, unless it was torn down before and
there were libraries on its list all the same. -/
theorem freed_iff {before after : List Record} {w w' : World} {x : Record} {id : LoaderId}
    (hbefore : Run {} before w) (hx : x.Follows w) (hlives : w.Lives id)
    (hfreed : ¬ x.world.Lives id) (hafter : Run x.world after w') :
    Freed id (before ++ x :: after) after w' ↔
      (w.tornDown id = false ∨ w.libraries.onShelf (.ofLoader id) = []) := by
  obtain ⟨gone, haccounts⟩ := hbefore.accounts .start
  obtain ⟨gone', hadvance, hdrop⟩ := haccounts.step hx
  have hburied := hadvance.buries haccounts.toSteady hlives hfreed
  obtain ⟨hburied', hunblamed⟩ := hafter.buried hdrop hburied
  obtain ⟨gone'', hend⟩ := hafter.accounts hdrop
  have hlog : [] ++ before ++ [x] ++ after = before ++ x :: after := by simp
  rw [hlog] at hend
  have hleft : (if w.tornDown id then w.libraries.onShelf (.ofLoader id) else []) = [] ↔
      (w.tornDown id = false ∨ w.libraries.onShelf (.ofLoader id) = []) := by
    cases w.tornDown id <;> simp
  rw [← hleft]
  constructor
  · intro hnothing
    by_contra hne
    obtain ⟨name, howner⟩ := hend.owns_iff.2 (hburied'.left_eq.trans_ne hne)
    exact hnothing.unowned name howner
  · intro hempty
    rw [hempty] at hburied' hunblamed
    exact hend.freed hburied' (hunblamed rfl)

/-! ## A library that is loaded too late -/

/-- Surroundings in which every path leads to a native library. -/
def wellStocked : Surroundings where
  files := { look := fun _ => .ok (.file [] (some [])), canonical := some }

/-- How an operation goes in them, where loaders are left alone. -/
def Record.stocked (c : WorldCall) (w : World) : Record :=
  let answer (q : Question) (w : World) (e : Surroundings) :=
    ((Surroundings.answer q w e).1, w, (Surroundings.answer q w e).2.2)
  let (failure, world, _) := c.task.run answer w wellStocked
  ⟨c, failure, c.task.exchanges answer (fun _ => true) w wellStocked, world⟩

theorem Record.stocked_follows {c : WorldCall} {w : World} (h : c.Allowed w) :
    (Record.stocked c w).Follows w :=
  ⟨h, Surroundings, _, wellStocked, fun _ _ _ => rfl, rfl, rfl, rfl⟩

/-- The first loader and the second. -/
def firstLoader : Loader := .root ⟨⟨1⟩, .base, true, {}⟩

def secondLoader : Loader := .root ⟨⟨2⟩, .base, true, {}⟩

/-- A loader is made, and it loads a library. -/
def madeFirst : Record := .stocked (.make .base none {}) {}

def loadedFirst : Record := .stocked (.loadLibraryAt firstLoader "/lib/x") madeFirst.world

def letGoFirst : Record := .stocked (.letGo firstLoader) loadedFirst.world

/-- The loader is torn down before it loads the library, and another one wants to load it
afterwards. -/
def tornDownFirst : Record := .stocked (.teardown firstLoader) madeFirst.world

def loadedLate : Record := .stocked (.loadLibraryAt firstLoader "/lib/x") tornDownFirst.world

def letGoLate : Record := .stocked (.letGo firstLoader) loadedLate.world

def madeSecond : Record := .stocked (.make .base none {}) letGoLate.world

def loadedSecond : Record := .stocked (.loadLibraryAt secondLoader "/lib/x") madeSecond.world

/-- A loader that loads a library and is let go leaves nothing behind.  One that is torn
down, then loads a library and is let go leaves it behind, and another loader is refused
it. -/
theorem freed_iff_loaded_late :
    Freed ⟨1⟩ [madeFirst, loadedFirst, letGoFirst] [] letGoFirst.world ∧
      ¬ Freed ⟨1⟩ [madeFirst, tornDownFirst, loadedLate, letGoLate, madeSecond, loadedSecond]
        [madeSecond, loadedSecond] loadedSecond.world ∧
      loadedSecond.failure = some (.collision "/lib/x" (.loader ⟨1⟩) (.loader ⟨2⟩)) := by
  have hmade : Run {} [madeFirst] madeFirst.world := Run.start.step (Record.stocked_follows trivial)
  have hlives : madeFirst.world.Lives ⟨1⟩ := ⟨firstLoader, by decide, rfl⟩
  refine ⟨?_, ?_, by decide⟩
  · have hloaded : Run {} [madeFirst, loadedFirst] loadedFirst.world :=
      hmade.step (Record.stocked_follows (c := .loadLibraryAt firstLoader "/lib/x") hlives)
    have hletGo : letGoFirst.Follows loadedFirst.world := Record.stocked_follows trivial
    refine (freed_iff hloaded hletGo ⟨firstLoader, by decide, rfl⟩ ?_ .start).2 (.inl (by decide))
    rintro ⟨l, hl, -⟩
    rw [show letGoFirst.world.living = [] by decide] at hl
    exact List.not_mem_nil hl
  · have hletGo : letGoLate.Follows loadedLate.world := Record.stocked_follows trivial
    have htorn : Run {} [madeFirst, tornDownFirst] tornDownFirst.world :=
      hmade.step (Record.stocked_follows (c := .teardown firstLoader) hlives)
    have hlate : Run {} [madeFirst, tornDownFirst, loadedLate] loadedLate.world :=
      htorn.step (Record.stocked_follows (c := .loadLibraryAt firstLoader "/lib/x")
        ⟨firstLoader, by decide, rfl⟩)
    have hsecond : Run letGoLate.world [madeSecond] madeSecond.world :=
      Run.start.step (Record.stocked_follows trivial)
    have hafter : Run letGoLate.world [madeSecond, loadedSecond] loadedSecond.world :=
      hsecond.step (Record.stocked_follows (c := .loadLibraryAt secondLoader "/lib/x")
        ⟨secondLoader, by decide, rfl⟩)
    refine (freed_iff hlate hletGo ⟨firstLoader, by decide, rfl⟩ ?_ hafter).not.2 (by decide)
    rintro ⟨l, hl, -⟩
    rw [show letGoLate.world.living = [] by decide] at hl
    exact List.not_mem_nil hl

end Loading
