import Loading.Proofs.Library.Reentrance

/-!
# What requests for native libraries keep up

Every request is followed once, from one question to the next, for everything
that may have to be known of it beside the order of the registry.  A
`LibraryUpkeep` names what else is kept up and shows it for each effect by
itself: an image that is registered, taken from its list, given back, looked
into.  From that the walk through the requests makes a discipline.

* `Calm` — an event by which no image changes hands.
* `LibraryUpkeep` — what is to be shown of each effect.
* `LibraryUpkeep.discipline` — every request does its part.
* `libraryDiscipline` — the registry stays in order where scopes have one list.
-/

namespace Loading

open LibraryRegistry LibraryMoment Service Interaction

namespace LibraryMoment

/-- No image is given, asked back, given back or looked into by the event. -/
def Calm : libraryService.Event → Prop
  | .asked (.unload _) => False
  | .asked (.lookup _ _) => False
  | .answered (.load _) (.ok _) => False
  | .answered (.loadBuiltin _) (.ok _) => False
  | .answered (.unload _) _ => False
  | _ => True

/-- The image that the dynamic loader gives by an event. -/
def gives? : libraryService.Event → Option Handle
  | .answered (.load _) (.ok handle) => some handle
  | .answered (.loadBuiltin _) (.ok handle) => some handle
  | _ => none

theorem Calm.quiet {v : libraryService.Event} (h : Calm v) : Quiet v := by
  rintro name handle rfl
  exact h

end LibraryMoment

/-- Answers that give an image are restricted, others are not. -/
def givesOnly (mayGive : LibraryMoment → Handle → Prop) (m : LibraryMoment) :
    (q : LibraryQuestion) → q.Answer → Prop
  | .load _, .ok handle => mayGive m handle
  | .loadBuiltin _, .ok handle => mayGive m handle
  | _, _ => True

/-- Where any image may be given, any answer may. -/
theorem givesOnly_true (m : LibraryMoment) (q : LibraryQuestion) (a : q.Answer) :
    givesOnly (fun _ _ => True) m q a := by
  unfold givesOnly
  split <;> trivial

/-- What else is kept up by requests for native libraries, and why each of their
effects keeps it up. -/
structure LibraryUpkeep where
  /-- The lists that may be named. -/
  used : Shelf → Prop
  /-- When requests may be made. -/
  mayCall : LibraryMoment → Prop
  /-- The images that the dynamic loader may give. -/
  mayGive : LibraryMoment → Handle → Prop
  /-- What holds whenever outside code has the word. -/
  Kept : LibraryMoment → Prop
  /-- What holds when a library has just been taken from its list. -/
  Taken : Library → LibraryMoment → Prop
  /-- What outside code leaves in place. -/
  Between : LibraryMoment → LibraryMoment → Prop
  /-- What is known of a library that has been found on a list. -/
  Found : LibraryMoment → Library → Prop
  used_builtin : used .builtin
  between_refl : ∀ m, Between m m
  between_trans : ∀ {m₁ m₂ m₃}, Between m₁ m₂ → Between m₂ m₃ → Between m₁ m₃
  between_call : ∀ {m m'}, mayCall m → Between m m'
  apart : ∀ {m}, Sound used m → Kept m → m.state.Apart
  /-- Events by which no image changes hands are harmless, and so are changes of what
  is in flight. -/
  calm : ∀ {m v r}, Sound used m → Kept m → Calm v → (∀ s, r.onShelf s = m.state.onShelf s) →
    r.retired = m.state.retired → Kept (m.after v r)
  /-- An image that was given is registered. -/
  registered : ∀ {m v name handle shelf builtin}, Sound used m → Kept m → mayGive m handle →
    gives? v = some handle → m.state.owner? name = none →
    Kept ((m.note v).change (m.state.finish.register name handle shelf builtin))
  /-- A library is taken from its list. -/
  taken : ∀ {m s l}, Sound used m → Kept m → l ∈ m.state.onShelf s →
    Taken l (m.change (m.state.withdraw s l))
  /-- Its image is asked back, if it has one of its own. -/
  asked : ∀ {m l}, Sound used m → Taken l m → l.builtin = false →
    m.state.owner? l.name = none → Kept (m.note (.asked (.unload l.handle)))
  /-- The image is given back. -/
  returned : ∀ {m l}, Sound used m → Kept m → m.Seen l → l.builtin = false →
    Kept ((m.note (.answered (.unload l.handle) ())).change (m.state.retire l))
  /-- It has none of its own. -/
  dropped : ∀ {m l}, Sound used m → Taken l m → l.builtin = true →
    Kept (m.change (m.state.retire l))
  /-- What is on a list is found. -/
  found : ∀ {m s l}, l ∈ m.state.onShelf s → Found m l
  /-- The image of a library that has been found is looked into. -/
  looked : ∀ {m symbol} {l : Library}, Sound used m → Kept m → Found m l →
    Kept (m.note (.asked (.lookup l.handle symbol)))
  /-- What has been found stays found. -/
  found_later : ∀ {m m' l handle symbol a}, Found m l →
    Between (m.note (.asked (.lookup handle symbol))) m' →
    Found (m'.note (.answered (.lookup handle symbol) a)) l

namespace LibraryUpkeep

variable (U : LibraryUpkeep)

/-- What outside code may do. -/
def rules : libraryService.Rules where
  mayCall m c := U.mayCall m ∧ ∀ s ∈ LibraryCall.shelf? c, U.used s
  mayAnswer := givesOnly U.mayGive
  mayChange _ _ := False

/-- The terms on which requests are followed. -/
def terms : Terms libraryService where
  rules := U.rules
  Inv m := Sound U.used m ∧ U.Kept m
  Stable m m' := Settled m m' ∧ U.Between m m'

/-- What holds between whole requests. -/
structure AtRest (e m : LibraryMoment) : Prop extends Whole U.used e m where
  /-- What is kept up is kept up. -/
  kept : U.Kept m

/-- What holds while an image is being loaded. -/
structure Loads (e m : LibraryMoment) (name : String) (scope : Scope) : Prop
    extends Entering U.used e m name scope where
  /-- What is kept up is kept up. -/
  kept : U.Kept m

/-- A request that was called at `e` goes on, and ends in a postcondition. -/
abbrev Follows {α : Type} (e : LibraryMoment) (post : LibraryMoment → α → Prop)
    (p : LibraryTask α) (m : LibraryMoment) : Prop :=
  Keeps U.terms (Asks e) post p m

/-- A request that was called at `e` goes on, and ends where whole requests end. -/
abbrev FollowsWhole {α : Type} (e : LibraryMoment) (p : LibraryTask α) (m : LibraryMoment) :
    Prop :=
  U.Follows e (fun m' _ => U.AtRest e m') p m

variable {U} {e m m' : LibraryMoment} {name : String} {scope : Scope} {shelf : Shelf}

theorem AtRest.note (h : U.AtRest e m) {v : libraryService.Event} (hv : Calm v) :
    U.AtRest e (m.note v) :=
  ⟨h.toWhole.note hv.quiet, U.calm h.sound h.kept hv (fun _ => rfl) rfl⟩

/-- Looking at the registry is no request. -/
theorem AtRest.observe (h : U.AtRest e m) : U.AtRest e (m.change m.state) :=
  ⟨h.toWhole.observe, U.calm h.sound h.kept trivial (fun _ => rfl) rfl⟩

theorem AtRest.later (h : U.AtRest e m) (hinv : U.terms.Inv m') (hstable : U.terms.Stable m m') :
    U.AtRest e m' :=
  ⟨⟨hinv.1, h.settled.trans hstable.1⟩, hinv.2⟩

theorem Loads.note (h : U.Loads e m name scope) {v : libraryService.Event} (hv : Calm v) :
    U.Loads e (m.note v) name scope :=
  ⟨h.toEntering.note hv.quiet, U.calm h.sound h.kept hv (fun _ => rfl) rfl⟩

theorem Loads.later (h : U.Loads e m name scope) (hinv : U.terms.Inv m')
    (hstable : U.terms.Stable m m') : U.Loads e m' name scope :=
  ⟨h.toEntering.later hinv.1 hstable.1, hinv.2⟩

/-- A name that is granted is put in flight. -/
theorem AtRest.begin (h : U.AtRest e m) (hgranted : m.state.admission name shelf = .granted) :
    U.Loads e (m.change (m.state.begin name shelf.scope)) name shelf.scope :=
  ⟨h.toWhole.begin hgranted, U.calm h.sound h.kept trivial (fun _ => rfl) rfl⟩

/-- A load that fails leaves nothing behind. -/
theorem Loads.fail (h : U.Loads e m name scope) : U.AtRest e (m.change m.state.finish) :=
  ⟨h.toEntering.fail, U.calm h.sound h.kept trivial (fun _ => rfl) rfl⟩

/-- A load that succeeds registers one library. -/
theorem Loads.register (h : U.Loads e m name shelf.scope) (hs : U.used shelf) {handle : Handle}
    {builtin : Bool} {v : libraryService.Event} (hgives : gives? v = some handle)
    (hmay : U.mayGive m handle)
    (hbooked : Booked ((m.note v).change (m.state.finish.register name handle shelf builtin))) :
    U.AtRest e ((m.note v).change (m.state.finish.register name handle shelf builtin)) :=
  ⟨h.toEntering.register hs handle v hbooked, U.registered h.sound h.kept hmay hgives h.owner?⟩

/-- Between whole requests anything may be asked that loads no image. -/
theorem AtRest.asks (h : U.AtRest e m) {q : LibraryQuestion} (hq : q.loads? = none) :
    Asks e m q where
  pending := h.settled.pending ▸ List.suffix_refl _
  fresh := h.settled.fresh
  loads := by simp [hq]

/-! ## Questions -/

/-- A question about files or names comes between whole requests. -/
theorem follows_ask {q : LibraryQuestion} (hq : q.loads? = none) (hasked : Calm (.asked q))
    (hanswered : ∀ a, Calm (.answered q a)) (h : U.AtRest e m) :
    U.FollowsWhole e (LibraryTask.ask q) m := by
  have hnote := h.note hasked
  refine ⟨⟨⟨hnote.sound, hnote.kept⟩, hnote.asks hq⟩, fun m' a hinv hstable _ => ?_⟩
  exact (hnote.later hinv hstable).note (hanswered a)

/-- While an image is being loaded, the dynamic loader may be asked for it, and only
its answer comes on top. -/
theorem follows_native {q : LibraryQuestion} (hq : q.loads? = some name)
    (hasked : Calm (.asked q)) (h : U.Loads e m name scope) :
    U.Follows e (fun m' a => ∃ m₀, U.Loads e m₀ name scope ∧ givesOnly U.mayGive m₀ q a ∧
      m' = m₀.note (.answered q a)) (LibraryTask.ask q) m := by
  have hnote := h.note hasked
  refine ⟨⟨⟨hnote.sound, hnote.kept⟩, hnote.toPushed.asks ?_⟩, ?_⟩
  · intro n hn
    rw [hq, Option.mem_some_iff] at hn
    subst hn
    exact ⟨rfl, hnote.dead⟩
  · intro m' a hinv hstable hanswer
    exact ⟨m', hnote.later hinv hstable, hanswer, rfl⟩

/-! ## Loading -/

/-- What the dynamic loader's answer leads to: a load that can still fail, or a
library that can be registered. -/
def Landed (U : LibraryUpkeep) (e : LibraryMoment) (name : String) (shelf : Shelf)
    (builtin : Bool) (m : LibraryMoment) : Except String Handle → Prop
  | .error _ => U.Loads e m name shelf.scope
  | .ok handle => U.AtRest e (m.change (m.state.finish.register name handle shelf builtin))

/-- Loading a name into a list in use is a whole request, if the native call loads
just that name. -/
theorem follows_enter {builtin : Bool} {native : LibraryTask (Except String Handle)}
    (hnative : ∀ {m}, U.Loads e m name shelf.scope →
      U.Follows e (U.Landed e name shelf builtin) native m)
    (h : U.AtRest e m) : U.FollowsWhole e (LibraryTask.enter name shelf builtin native) m := by
  unfold LibraryTask.enter
  rw [FollowsWhole, Follows, keeps_bind, keeps_transact]
  cases hadmission : m.state.admission name shelf with
  | satisfied => exact h.observe
  | refused owner => exact h.observe
  | granted =>
      show Keeps _ _ _ (native >>= _) _
      rw [keeps_bind]
      refine (hnative (h.begin hadmission)).weaken fun m' answer hlanded => ?_
      cases answer with
      | error reason => exact Loads.fail hlanded
      | ok handle => exact hlanded

/-- The image of a file is registered with its answer. -/
theorem follows_file (hs : U.used shelf) (h : U.Loads e m name shelf.scope) :
    U.Follows e (U.Landed e name shelf false) (LibraryTask.ask (.load name)) m := by
  refine (follows_native (q := .load name) rfl trivial h).weaken fun m' answer hanswer => ?_
  obtain ⟨m₀, hloads, hmay, rfl⟩ := hanswer
  cases answer with
  | error reason => exact hloads.note trivial
  | ok handle =>
      have hsound := hloads.sound
      exact hloads.register hs rfl hmay (hsound.booked.register hsound.accounted)

/-- A library that is built in comes to no books. -/
theorem follows_linked (hs : U.used shelf) (h : U.Loads e m name shelf.scope) :
    U.Follows e (U.Landed e name shelf true) (LibraryTask.ask (.loadBuiltin name)) m := by
  refine (follows_native (q := .loadBuiltin name) rfl trivial h).weaken fun m' answer hanswer => ?_
  obtain ⟨m₀, hloads, hmay, rfl⟩ := hanswer
  cases answer with
  | error reason => exact hloads.note trivial
  | ok handle =>
      have hnote : Sound U.used (m₀.note (.answered (.loadBuiltin name) (.ok handle))) :=
        hloads.sound.note fun _ _ => nofun
      refine hloads.register hs rfl hmay (hnote.booked_change fun l hl => ?_)
      exact hnote.accounted.live_register.2 (Or.inr hl)

theorem follows_canonical {path : String} (h : U.AtRest e m) :
    U.FollowsWhole e (LibraryTask.canonical path) m :=
  follows_ask rfl trivial (fun _ => trivial) h

theorem follows_load {path : String} (hs : U.used shelf) (h : U.AtRest e m) :
    U.FollowsWhole e (LibraryTask.load path shelf) m := by
  unfold LibraryTask.load
  rw [FollowsWhole, Follows, keeps_bind]
  refine (follows_canonical h).weaken fun m' answer hrest => ?_
  cases answer with
  | none => exact hrest
  | some name => exact follows_enter (follows_file hs) hrest

theorem follows_loadBuiltin (h : U.AtRest e m) :
    U.FollowsWhole e (LibraryTask.loadBuiltin name) m := by
  unfold LibraryTask.loadBuiltin
  rw [FollowsWhole, Follows, keeps_bind]
  refine (follows_ask (q := .isBuiltin name) rfl trivial (fun _ => trivial) h).weaken
    fun m' answer hrest => ?_
  cases answer with
  | false => exact hrest
  | true => exact follows_enter (follows_linked U.used_builtin) hrest

/-- Whatever becomes of the candidates, each is a whole load. -/
theorem follows_tryCandidates {fault : LinkFault} {places : List String} (hs : U.used shelf)
    (h : U.AtRest e m) :
    U.FollowsWhole e (LibraryTask.tryCandidates name shelf fault places) m := by
  induction places generalizing fault m with
  | nil => exact h
  | cons candidate rest ih =>
      unfold LibraryTask.tryCandidates
      rw [FollowsWhole, Follows, keeps_bind]
      refine (follows_load hs h).weaken fun m' answer hrest => ?_
      match answer with
      | .ok true =>
          show Keeps _ _ _ (LibraryTask.canonical candidate >>= _) _
          rw [keeps_bind]
          exact (follows_canonical hrest).weaken fun _ _ hdone => hdone
      | .ok false => exact ih hrest
      | .error (.loadFailed _ _) => exact ih hrest
      | .error (.unsatisfiedLink _ _) => exact hrest
      | .error (.collision _ _ _) => exact hrest
      | .error (.notLoaded _) => exact hrest

theorem follows_loadLibrary {explicit : Option String} {search : SearchPath} (hs : U.used shelf)
    (h : U.AtRest e m) :
    U.FollowsWhole e (LibraryTask.loadLibrary name explicit search shelf) m := by
  unfold LibraryTask.loadLibrary
  rw [FollowsWhole, Follows, keeps_bind]
  refine (follows_loadBuiltin h).weaken fun m' answer hrest => ?_
  match answer with
  | .error _ => exact hrest
  | .ok true => exact hrest
  | .ok false => exact follows_tryCandidates hs hrest

theorem follows_loadAbsolute {path : String} (hs : U.used shelf) (h : U.AtRest e m) :
    U.FollowsWhole e (LibraryTask.loadAbsolute path shelf) m := by
  unfold LibraryTask.loadAbsolute
  rw [FollowsWhole, Follows, keeps_bind]
  refine (follows_load hs h).weaken fun m' answer hrest => ?_
  match answer with
  | .ok true =>
      show Keeps _ _ _ (LibraryTask.canonical path >>= _) _
      rw [keeps_bind]
      exact (follows_canonical hrest).weaken fun _ _ hdone => hdone
  | .ok false => exact hrest
  | .error (.loadFailed _ _) => exact hrest
  | .error (.unsatisfiedLink _ _) => exact hrest
  | .error (.collision _ _ _) => exact hrest
  | .error (.notLoaded _) => exact hrest

/-! ## Unloading -/

/-- While a library is being unloaded, the dynamic loader may be asked to, and then it
is marked as unloaded. -/
theorem follows_finalizer {l : Library} (h : Leaving U.used e m l) (htaken : U.Taken l m)
    (hfile : l.builtin = false) :
    U.Follows e (fun m' _ => U.AtRest e (m'.change (m'.state.retire l)))
      (LibraryTask.ask (.unload l.handle)) m := by
  have hnote : Leaving U.used e (m.note (.asked (.unload l.handle))) l := h.note fun _ _ => nofun
  have hkept := U.asked h.sound htaken hfile h.owner?
  refine ⟨⟨⟨hnote.sound, hkept⟩, hnote.toPushed.asks ?_⟩, ?_⟩
  · intro n hn
    simp [LibraryQuestion.loads?] at hn
  · intro m' a hinv hstable _
    have hleaving := hnote.later hinv.1 hstable.1
    have hreturned := hleaving.note (v := .answered (.unload l.handle) a) fun _ _ => nofun
    exact ⟨hreturned.retire fun _ => ⟨_, _, rfl⟩, U.returned hinv.1 hinv.2 hleaving.was hfile⟩

/-- A library is taken from its list, finalised and marked as unloaded, or it is not
there. -/
theorem follows_unload {l : Library} (h : U.AtRest e m) :
    U.FollowsWhole e (LibraryTask.unload shelf l) m := by
  unfold LibraryTask.unload
  rw [FollowsWhole, Follows, keeps_bind, keeps_transact]
  by_cases hl : (m.state.onShelf shelf).contains l = true
  · rw [if_pos hl]
    have hmem := List.contains_iff_mem.1 hl
    have hleaving := h.toWhole.withdraw (U.apart h.sound h.kept) hmem
    have htaken := U.taken h.sound h.kept hmem
    cases hbuiltin : l.builtin with
    | false =>
        show Keeps _ _ _ (LibraryTask.ask (.unload l.handle) >>= _) _
        rw [keeps_bind]
        exact (follows_finalizer hleaving htaken hbuiltin).weaken fun _ _ hrest => hrest
    | true =>
        refine ⟨hleaving.retire fun hfile => ?_, U.dropped hleaving.sound htaken hbuiltin⟩
        rw [hbuiltin] at hfile
        cases hfile
  · rw [if_neg hl]
    exact h.observe

theorem follows_unloadAll {libraries : List Library} (h : U.AtRest e m) :
    U.FollowsWhole e (LibraryTask.unloadAll shelf libraries) m := by
  induction libraries generalizing m with
  | nil => exact h
  | cons l rest ih =>
      unfold LibraryTask.unloadAll
      rw [FollowsWhole, Follows, keeps_bind]
      exact (follows_unload h).weaken fun _ _ hrest => ih hrest

theorem follows_releaseShelf (h : U.AtRest e m) :
    U.FollowsWhole e (LibraryTask.releaseShelf shelf) m := by
  unfold LibraryTask.releaseShelf
  rw [FollowsWhole, Follows, keeps_bind, keeps_observe]
  exact follows_unloadAll h.observe

theorem follows_shutdown (h : U.AtRest e m) : U.FollowsWhole e LibraryTask.shutdown m := by
  unfold LibraryTask.shutdown
  rw [FollowsWhole, Follows, keeps_bind]
  exact (follows_releaseShelf h).weaken fun _ _ hrest => follows_releaseShelf hrest

/-! ## Symbols -/

/-- What has been found may be looked into, one library after the other. -/
theorem follows_lookupIn {symbol : String} {libraries : List Library} (h : U.AtRest e m)
    (hfound : ∀ l ∈ libraries, U.Found m l) :
    U.FollowsWhole e (LibraryTask.lookupIn symbol libraries) m := by
  induction libraries generalizing m with
  | nil => exact h
  | cons l rest ih =>
      unfold LibraryTask.lookupIn
      rw [FollowsWhole, Follows, keeps_bind]
      have hkept : U.Kept (m.note (.asked (.lookup l.handle symbol))) :=
        U.looked h.sound h.kept (hfound l List.mem_cons_self)
      have hnote : U.AtRest e (m.note (.asked (.lookup l.handle symbol))) :=
        ⟨h.toWhole.note fun _ _ => nofun, hkept⟩
      refine ⟨⟨⟨hnote.sound, hkept⟩, hnote.asks rfl⟩, fun m' answer hinv hstable _ => ?_⟩
      have hrest := (hnote.later hinv hstable).note
        (v := .answered (.lookup l.handle symbol) answer) trivial
      cases answer with
      | some address => exact hrest
      | none =>
          exact ih hrest fun k hk => U.found_later (hfound k (List.mem_cons_of_mem _ hk)) hstable.2

theorem follows_findNative {symbol : String} (h : U.AtRest e m) :
    U.FollowsWhole e (LibraryTask.findNative shelf symbol) m := by
  unfold LibraryTask.findNative
  rw [FollowsWhole, Follows, keeps_bind, keeps_observe]
  refine follows_lookupIn h.observe fun l hl => ?_
  rcases List.mem_append.1 hl with hl | hl
  · exact U.found hl
  · exact U.found hl

/-! ## All requests -/

/-- Every request for lists in use does its part. -/
theorem follows_body {c : LibraryCall} (hc : ∀ s ∈ c.shelf?, U.used s) (h : U.AtRest e m) :
    U.FollowsWhole e c.body m := by
  cases c with
  | load path shelf => exact follows_load (hc shelf rfl) h
  | loadBuiltin name => exact follows_loadBuiltin h
  | loadLibrary name explicit search shelf => exact follows_loadLibrary (hc shelf rfl) h
  | loadAbsolute path shelf => exact follows_loadAbsolute (hc shelf rfl) h
  | unload shelf l => exact follows_unload h
  | releaseShelf shelf => exact follows_releaseShelf h
  | shutdown => exact follows_shutdown h
  | findNative shelf symbol => exact follows_findNative h

/-- An upkeep is kept up in every session. -/
def discipline (U : LibraryUpkeep) : Discipline libraryService where
  toTerms := U.terms
  asking _ := Asks
  returning _ e m _ := m.state.pending = e.state.pending
  refl m := ⟨.refl m, U.between_refl m⟩
  trans h₁ h₂ := ⟨h₁.1.trans h₂.1, U.between_trans h₁.2 h₂.2⟩
  outside _ hchange := hchange.elim
  keeps {m c} hinv hc := by
    have hrest : U.AtRest m m := ⟨⟨hinv.1, .refl m⟩, hinv.2⟩
    refine (follows_body hc.2 (hrest.note (v := .began c) trivial)).weaken fun m' r hlater => ?_
    have hended := hlater.note (v := .ended c r) trivial
    exact ⟨hlater.settled.pending, ⟨hended.sound, hended.kept⟩, hended.settled,
      U.between_call hc.1⟩

end LibraryUpkeep

/-! ## One list for each scope -/

/-- Where scopes have one list, nothing else has to be kept up. -/
def LibraryUpkeep.oneList {used : Shelf → Prop} (hused : OneListPerScope used) :
    LibraryUpkeep where
  used := used
  mayCall _ := True
  mayGive _ _ := True
  Kept _ := True
  Taken _ _ := True
  Between _ _ := True
  Found _ _ := True
  used_builtin := hused.builtin
  between_refl _ := trivial
  between_trans _ _ := trivial
  between_call _ := trivial
  apart hsound _ := hsound.orderly.apart hused
  calm _ _ _ _ _ := trivial
  registered _ _ _ _ _ := trivial
  taken _ _ _ := trivial
  asked _ _ _ _ := trivial
  returned _ _ _ _ := trivial
  dropped _ _ _ := trivial
  found _ := trivial
  looked _ _ _ := trivial
  found_later _ _ := trivial

/-! ## Any lists -/

/-- Whatever lists requests may name, no name comes onto two of them. -/
def LibraryUpkeep.anyLists : LibraryUpkeep where
  used _ := True
  mayCall _ := True
  mayGive _ _ := True
  Kept m := m.state.Apart
  Taken _ m := m.state.Apart
  Between _ _ := True
  Found _ _ := True
  used_builtin := trivial
  between_refl _ := trivial
  between_trans _ _ := trivial
  between_call _ := trivial
  apart _ h := h
  calm _ h _ hshelf _ := h.mono fun hl => hshelf _ ▸ hl
  registered hsound h _ _ howner := Apart.register h hsound.orderly howner
  taken _ h _ := h.mono mem_onShelf_of_withdraw
  asked _ h _ _ := h
  returned _ h _ _ := h
  dropped _ h _ := h
  found _ := trivial
  looked _ h _ := h
  found_later _ _ := trivial

/-- The terms on which requests are followed where scopes have one list. -/
def libraryTerms (used : Shelf → Prop) : Terms libraryService where
  rules := libraryRules used
  Inv := Sound used
  Stable := Settled

/-- Every request does its part: it asks where the registry is sound, and returns
with the same in flight. -/
def libraryDiscipline {used : Shelf → Prop} (hused : OneListPerScope used) :
    Discipline libraryService where
  toTerms := libraryTerms used
  asking _ := Asks
  returning _ e m _ := m.state.pending = e.state.pending
  refl := Settled.refl
  trans := Settled.trans
  outside _ hchange := hchange.elim
  keeps {m c} hsound hc := by
    have hkeeps := (LibraryUpkeep.oneList hused).discipline.keeps ⟨hsound, trivial⟩ ⟨trivial, hc⟩
    refine Keeps.weaken (hkeeps.of_terms (fun _ => ⟨fun h => ⟨h, trivial⟩, And.left⟩)
      (fun _ _ h => ⟨h, trivial⟩) fun m q a _ => givesOnly_true m q a) fun m' r hr => ?_
    exact ⟨hr.1, hr.2.1.1, hr.2.2.1⟩

end Loading
