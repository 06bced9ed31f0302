import Loading.Command.Run
import Loading.Proofs.Loader.ActionInvariance
import Loading.Proofs.Tables
import Loading.Proofs.World.Repeating

/-!
# The chain of layers

A command line that resolves a name builds one loader for each layer directory and asks the
innermost one.  This file says what is built, and that the lines which are printed show the
verdict of that loader.

* `Layers.Stacked`, `Layers.run_build` — the chain that is built.
* `Layers.roots_finders` — each loader finds in its own directory.
* `Loader.isLinked_resolve` — just what is asked for is linked.
* `Layers.run_execute_resolve` — what is printed, from the verdict.
* `Arguments.run_eq` — a command line, as a command on its chain.
-/

namespace Loading

open Interaction Loaders

/-- Running two operations in sequence runs the second where the first ended. -/
theorem Surroundings.run_bind {α β : Type} (e : Surroundings) (p : WorldTask α)
    (f : α → WorldTask β) (w : World) :
    e.run (p >>= f) w = (e.run p w).2.2.run (f (e.run p w).1) (e.run p w).2.1 :=
  Interaction.run_bind ..

/-! ## The chain of loaders -/

namespace Layers

/-- Loaders with numbers in a row, each directly below the one before. -/
def Stacked (context : Context) : Nat → Option Loader → List Loader → Prop
  | _, _, [] => True
  | next, parent, l :: rest =>
      l.id = ⟨next⟩ ∧ l.context = context ∧ l.parent? = parent ∧
        Stacked context (next + 1) (some l) rest

section Stacked

variable {context : Context} {next : Nat} {parent : Option Loader} {ls : List Loader} {l : Loader}

theorem Stacked.context_eq (h : Stacked context next parent ls) (hl : l ∈ ls) :
    l.context = context := by
  induction ls generalizing next parent with
  | nil => cases hl
  | cons k rest ih =>
      obtain ⟨-, hcontext, -, hrest⟩ := h
      rcases List.mem_cons.1 hl with rfl | hl
      · exact hcontext
      · exact ih hrest hl

/-- The numbers of the loaders are in a row. -/
theorem Stacked.map_id (h : Stacked context next parent ls) :
    ls.map (·.id) = (List.range' next ls.length).map LoaderId.mk := by
  induction ls generalizing next parent with
  | nil => rfl
  | cons k rest ih =>
      obtain ⟨hid, -, -, hrest⟩ := h
      rw [List.map_cons, List.length_cons, List.range'_succ, List.map_cons, hid, ih hrest]

theorem Stacked.id_eq {i : Nat} (h : Stacked context next parent ls) (hl : ls[i]? = some l) :
    l.id = ⟨next + i⟩ := by
  have hget : (ls.map (·.id))[i]? = some l.id := by rw [List.getElem?_map, hl, Option.map_some]
  obtain ⟨hi, -⟩ := List.getElem?_eq_some_iff.1 hl
  rw [h.map_id, List.getElem?_map, List.getElem?_range' hi] at hget
  simpa using (Option.some.inj hget).symm

theorem Stacked.nodup (h : Stacked context next parent ls) : (ls.map (·.id)).Nodup := by
  rw [h.map_id]
  refine (List.nodup_range' ..).map fun i j hij => LoaderId.mk.inj hij

end Stacked

/-- A world in which some loaders have been made, and nothing else has been done. -/
structure Prepared (w w' : World) (ls : List Loader) : Prop where
  /-- The hierarchy has just been built. -/
  built : w'.loaders.Built
  /-- The loaders come last. -/
  created : w'.loaders.created = w.loaders.created ++ ls
  /-- The built-in modules are the same. -/
  builtins : w'.loaders.builtins = w.loaders.builtins
  /-- Nothing else is known of modules. -/
  ledger : w'.loaders.ledger = w.loaders.ledger

/-- In plain surroundings a chain of loaders is made for any directories. -/
theorem run_chain (context : Context) (e : Surroundings) (directories : List String) :
    ∀ (parent : Option Loader) (w : World), w.loaders.Built →
      (∀ p ∈ parent, p ∈ w.loaders.created) →
      ∃ ls w', e.run (chain context parent directories) w = (.ok ls, w', e) ∧
        ls.length = directories.length ∧
        Stacked context w.loaders.nextLoader parent ls ∧ Prepared w w' ls := by
  induction directories with
  | nil => exact fun parent w hbuilt _ => ⟨[], w, rfl, rfl, trivial, hbuilt, by simp, rfl, rfl⟩
  | cons d rest ih =>
      intro parent w hbuilt hparent
      -- The policy permits everything, so the first loader is made.
      obtain ⟨w₁, hmake, hw₁⟩ : ∃ w₁,
          e.run (WorldTask.make .base parent context) w =
            (.ok (w.loaders.create .base parent context).1, w₁, e) ∧
          w₁.loaders = (w.loaders.create .base parent context).2 := ⟨_, rfl, rfl⟩
      have hcreated : w₁.loaders.created =
          w.loaders.created ++ [(w.loaders.create .base parent context).1] := by rw [hw₁]; rfl
      obtain ⟨ls, w', hrest, hlength, hstacked, hprepared⟩ :=
        ih (some (w.loaders.create .base parent context).1) w₁
          (hw₁ ▸ hbuilt.made .base parent context hparent) (by simp [hcreated])
      refine ⟨(w.loaders.create .base parent context).1 :: ls, w', ?_,
        congrArg Nat.succ hlength, ?_, hprepared.built, ?_, ?_, ?_⟩
      · unfold chain
        rw [Surroundings.run_bind, hmake]
        dsimp only
        rw [Surroundings.run_bind, hrest]
        rfl
      · rw [hw₁] at hstacked
        exact ⟨id_create .., congrArg Level.context (level_create ..), parent?_create ..,
          hstacked⟩
      · rw [hprepared.created, hcreated, List.append_assoc]
        rfl
      · rw [hprepared.builtins, hw₁]
        rfl
      · rw [hprepared.ledger, hw₁]
        rfl

/-- In plain surroundings the chain is built, unless there is no directory. -/
theorem run_build (context : Context) (e : Surroundings) {directories : List String}
    (h : directories ≠ []) :
    ∃ ls w, e.run (build context directories) {} = (.ok ls, w, e) ∧
      ls.loaders.length = directories.length ∧ Stacked context 1 none ls.loaders ∧
      Prepared {} w ls.loaders := by
  obtain ⟨ls, w, hrun, hlength, hstacked, hprepared⟩ :=
    run_chain context e directories none {} .start (fun _ => nofun)
  have hne : ls ≠ [] := by
    rintro rfl
    exact h (List.length_eq_zero_iff.1 hlength.symm)
  have hlast : ls.getLast? = some (ls.getLast hne) := List.getLast?_eq_some_getLast hne
  have hloaders : loaders ⟨ls.dropLast, ls.getLast hne⟩ = ls := List.dropLast_append_getLast hne
  refine ⟨⟨ls.dropLast, ls.getLast hne⟩, w, ?_, ?_⟩
  · unfold build
    rw [Surroundings.run_bind, hrun]
    dsimp only
    rw [hlast]
    rfl
  · rw [hloaders]
    exact ⟨hlength, hstacked, hprepared⟩

/-- Each loader of a chain finds in its own directory. -/
theorem roots_finders {ls : Layers} (hnodup : (ls.loaders.map (·.id)).Nodup)
    {directories : List String} (hlength : ls.loaders.length = directories.length)
    (libraryDir : Option String) {i : Nat} {l : Loader} {d : String}
    (hl : ls.loaders[i]? = some l) (hd : directories[i]? = some d) :
    ((ls.finders directories libraryDir).findD l.id {}).roots = [d] := by
  have hmem : (l, d) ∈ ls.loaders.zip directories :=
    List.mem_of_getElem? (List.getElem?_zip_eq_some.2 ⟨hl, hd⟩)
  have hids : ((ls.loaders.zip directories).map fun p => p.1.id).Nodup := by
    have hfst : (ls.loaders.zip directories).map Prod.fst = ls.loaders :=
      List.map_fst_zip (Nat.le_of_eq hlength)
    rw [← hfst, List.map_map] at hnodup
    exact hnodup
  have hfind := Table.find?_foldl_set (fun p : Loader × String => p.1.id)
    (fun p => (⟨[p.2], if p.1.id = ls.innermost.id then libraryDir else none⟩ : Directory))
    {} hids hmem
  unfold Table.findD finders
  rw [hfind]
  rfl

end Layers

/-! ## Linking -/

section Linking

variable (e : Surroundings) {s s' : Loaders} {l : Loader} {name : Name} {m : Module}

/-- In plain surroundings a lock is as good as none. -/
theorem Loader.run_locked {α : Type} (body : LoaderTask α) (l : Loader) (name : Name)
    (s : Loaders) :
    (l.locked name body).run e.serve s () = body.run e.serve (s.lockFor l.id name).2 () := by
  unfold Loader.locked
  rw [Interaction.run_bind, run_transact, Interaction.run_bind]
  dsimp only
  rw [Interaction.run_bind]
  rfl

/-- Who does not ask for a module to be linked leaves all marks as they are. -/
theorem Loader.linked_resolve_false (l : Loader) (name : Name) (s : Loaders) :
    ((l.resolve name false).run e.serve s ()).2.1.ledger.linked = s.ledger.linked := by
  refine (strokes_resolve l name false).run (R := fun s s' => s'.ledger.linked = s.ledger.linked)
    (fun _ => rfl) (fun h₁ h₂ => h₂.trans h₁) (fun h => h.linked) (fun q s _ hq => ?_) s ()
  cases q with
  | produce context request =>
      show (s.produceOpaque request).2.ledger.linked = _
      unfold Loaders.produceOpaque
      split
      · rfl
      · split <;> rfl
  | enter _ _ | leave _ _ | bootstrap _ _ | find _ _ => rfl
  | link _ _ | mayCreate _ _ | maySeeParent _ _ _ | bootstrapResource _ _ | resource _ _
  | resources _ _ | library _ _ => cases hq

/-- Whoever asks for a module to be linked gets one that is linked. -/
theorem Loader.isLinked_resolve_true
    (h : ((l.resolve name true).run e.serve s ()).1 = .ok m) :
    ((l.resolve name true).run e.serve s ()).2.1.ledger.isLinked m = true := by
  unfold Loader.resolve at h ⊢
  split at h
  · rename_i hname
    rw [if_pos hname]
    rw [run_locked] at h ⊢
    unfold Loader.resolveHeld at h ⊢
    rw [Interaction.run_bind] at h ⊢
    cases hr : ((l.lookUp name (l.delegate name)).run e.serve (s.lockFor l.id name).2 ()).1 with
    | error err =>
        rw [hr] at h
        cases h
    | ok m' =>
        rw [hr] at h
        dsimp only at h ⊢
        rw [if_pos rfl] at h ⊢
        unfold Loader.linkIfNeeded at h ⊢
        rw [Interaction.run_bind, run_observe] at h ⊢
        dsimp only at h ⊢
        split at h
        · rename_i hlinked
          obtain rfl := Except.ok.inj h
          rw [if_pos hlinked]
          exact hlinked
        · rename_i hlinked
          obtain rfl := Except.ok.inj h
          rw [if_neg hlinked]
          exact List.contains_iff_mem.2 List.mem_cons_self
  · cases h

/-- Where nothing has been linked, just what is asked for is linked. -/
theorem Loader.isLinked_resolve {link : Bool} (hnone : s.ledger.linked = [])
    (h : ((l.resolve name link).run e.serve s ()).1 = .ok m) :
    ((l.resolve name link).run e.serve s ()).2.1.ledger.isLinked m = link := by
  cases link with
  | true => exact isLinked_resolve_true e h
  | false =>
      unfold ModuleLedger.isLinked
      rw [linked_resolve_false, hnone]
      rfl

end Linking

/-! ## A command that resolves a name -/

namespace Layers

/-- Each loader of a chain is called by its place. -/
theorem describe_of_stacked {ls : Layers} {context : Context} {next : Nat}
    {parent : Option Loader} (h : Stacked context next parent ls.loaders) {i : Nat} {l : Loader}
    (hl : ls.loaders[i]? = some l) : ls.describe l.id = "layer " ++ toString i := by
  have hfind : ls.loaders.findIdx? (fun k => k.id = l.id) = some i := by
    obtain ⟨hi, hget⟩ := List.getElem?_eq_some_iff.1 hl
    refine List.findIdx?_eq_some_iff_getElem.2 ⟨hi, by simp [hget], fun j hj => ?_⟩
    -- Loaders before it have smaller numbers.
    have hj' : ls.loaders[j]? = some ls.loaders[j] := List.getElem?_eq_getElem _
    have hid := h.id_eq hl
    have hid' := h.id_eq hj'
    simp only [hid, hid', LoaderId.mk.injEq, decide_eq_true_eq]
    omega
  unfold describe
  rw [hfind]

/-- What a command prints about a name is the verdict of the innermost loader. -/
theorem run_execute_resolve {ls : Layers} {e : Surroundings} {w : World}
    (hbuilt : w.loaders.Built) (hmade : ls.innermost ∈ w.loaders.created)
    (hunlinked : w.loaders.ledger.linked = []) (name : Name) (link : Bool) :
    (e.run (ls.execute (.resolve name link)) w).1 =
      match e.verdict w.loaders name ls.innermost with
      | .error err => .error (.load err)
      | .ok p => .ok [p.name ++ " defined by " ++ p.loader.display ++ " (" ++
          ls.describe p.loader ++ "), " ++ toString p.codeLength ++ " bytes" ++
          (if link then ", linked" else "")] := by
  have hsettles : Settles e w.loaders (e.verdict w.loaders name ls.innermost)
      (ls.innermost.resolve name link) w.loaders :=
    settles_resolve (hbuilt.faithful e) hbuilt.founded hmade link
  unfold execute
  rw [Surroundings.run_bind, Surroundings.run_ofLoader, ← hsettles.1]
  cases hr : ((ls.innermost.resolve name link).run e.serve w.loaders ()).1 with
  | error err => rfl
  | ok m =>
      have hlinked := Loader.isLinked_resolve e hunlinked hr
      dsimp only
      rw [Surroundings.run_bind]
      show Except.ok [ls.moduleLine m (ModuleLedger.isLinked _ m)] = _
      rw [hlinked]
      rfl

end Layers

namespace Arguments

variable {a : Arguments} {fs : FileSystem} {name : Name} {link : Bool}

/-- What the loaders of a command share. -/
def context (a : Arguments) (env : Environment) : Context :=
  { config := a.config env, search := a.searchPath env }

/-- A command whose layers are directories is executed on their chain. -/
theorem run_eq (env : Environment) (hlayers : a.options.layers ≠ [])
    (hdirectories : ∀ d ∈ a.options.layers, fs.isDirectory d = true) :
    ∃ ls w, Surroundings.run (Layers.build (a.context env) a.options.layers) {} { files := fs } =
        (.ok ls, w, { files := fs }) ∧
      ls.loaders.length = a.options.layers.length ∧
      Layers.Stacked (a.context env) 1 none ls.loaders ∧ Layers.Prepared {} w ls.loaders ∧
      a.run env fs = (Surroundings.run (ls.execute a.command) w
        { files := fs, finders := ls.finders a.options.layers a.options.libraryDir }).1 := by
  obtain ⟨ls, w, hrun, hlength, hstacked, hprepared⟩ :=
    Layers.run_build (a.context env) { files := fs } hlayers
  refine ⟨ls, w, hrun, hlength, hstacked, hprepared, ?_⟩
  have hfault : a.fault? fs = none := by
    unfold fault?
    rw [if_neg (by simpa using hlayers), Option.map_eq_none_iff, List.find?_eq_none]
    exact fun d hd => by simp [hdirectories d hd]
  unfold run
  rw [hfault]
  dsimp only
  unfold runIn
  dsimp only
  unfold context at hrun
  rw [hrun]

end Arguments

end Loading
