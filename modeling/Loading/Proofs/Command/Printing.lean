import Loading.Proofs.Command.Layers
import Loading.Proofs.Loader.Gathering

/-!
# Printing resources

A command line that asks for a resource prints the first file of that name in its layers,
and with the flag for all of them it prints every one, a line for each, the root's first.

* `Directory.resources_eq_flatMap` — many roots give what each of them gives.
* `Layers.run_resources` — a chain gathers what its directories hold.
* `Arguments.run_forResource` — what the two command lines print.
* `resources_agree` — one resource is the first of all, for every line of loaders and for
  every command line.
-/

namespace Loading

open Interaction

/-! ## Directories as finders -/

/-- What lies below some roots is what lies below each of them, one after the other. -/
theorem Directory.resources_eq_flatMap (d : Directory) (fs : FileSystem) (name : String) :
    d.resources fs name =
      d.roots.flatMap fun root => (Directory.mk [root] none).resources fs name := by
  unfold resources resourcePaths
  cases resourcePath? name with
  | none => simp
  | some path =>
      induction d.roots with
      | nil => rfl
      | cons root rest ih =>
          dsimp only at ih ⊢
          rw [List.map_cons, ← List.singleton_append, List.filter_append, ih, List.flatMap_cons]
          rfl

/-- Finders that look into directories give the first of all. -/
theorem Surroundings.firstOfAll (e : Surroundings) (name : String) :
    FirstOfAll e.serve name := by
  intro id s u
  simp only [serve, answerLoader, Directory.resource]

namespace Layers

variable {context : Context} {next : Nat} {parent : Option Loader} {ls : List Loader} {l : Loader}

/-- The line from the root down to the innermost loader is the chain. -/
theorem Stacked.path_eq (h : Stacked context next parent ls) (hlast : ls.getLast? = some l) :
    l.path.reverse = parent.elim [] (fun p => p.path.reverse) ++ ls := by
  induction ls generalizing next parent with
  | nil => cases hlast
  | cons k rest ih =>
      obtain ⟨-, -, rfl, hrest⟩ := h
      have hpath : k.path.reverse = k.parent?.elim [] (fun p => p.path.reverse) ++ [k] := by
        cases k <;> simp [Loader.path, Loader.ancestors, Loader.parent?]
      cases rest with
      | nil =>
          obtain rfl := Option.some.inj hlast
          exact hpath
      | cons k' rest =>
          rw [ih hrest hlast, Option.elim_some, hpath, List.append_assoc, List.singleton_append]

/-- A chain in plain surroundings gathers what its directories hold, the root's first. -/
theorem run_resources {ls : Layers} {e : Surroundings} {directories : List String}
    (hstacked : Stacked context next none ls.loaders)
    (hlength : ls.loaders.length = directories.length)
    (hroots : ∀ (i : Nat) l d, ls.loaders[i]? = some l → directories[i]? = some d →
      (e.finder l.id).roots = [d]) (name : String) (s : Loaders) :
    ((ls.innermost.resources name).run e.serve s ()).1 =
      (Directory.mk directories none).resources e.files name := by
  obtain ⟨inherited, own, hgathered⟩ : ∃ inherited own, ls.innermost.Gathered name
      ((ls.innermost.resources name).run e.serve s ()).1
      ((ls.innermost.resources name).exchanges e.serve (fun _ => true) s ()) inherited own :=
    Loader.ends_resources ls.innermost s ()
  have hline : own.map (·.1) = ls.loaders := by
    rw [hgathered.line, hstacked.path_eq List.getLast?_concat]
    rfl
  -- What is answered depends on nothing but the files.
  have hbuiltin : inherited = none := by
    have hall : ∀ x ∈ (ls.innermost.resources name).exchanges e.serve (fun _ => true) s (),
        ∀ context found, x = ⟨.bootstrapResource context name, found⟩ → found = none := by
      refine forall_exchanges _ (fun q s u context found heq => ?_) _ _ _
      cases heq
      rfl
    exact hall _ (hgathered.asked ▸ List.mem_cons_self) _ _ rfl
  have hown : ∀ p ∈ own, p.2 = (e.finder p.1.id).resources e.files name := by
    intro p hp
    have hall : ∀ x ∈ (ls.innermost.resources name).exchanges e.serve (fun _ => true) s (),
        ∀ id found, x = ⟨.resources id name, found⟩ →
          found = (e.finder id).resources e.files name := by
      refine forall_exchanges _ (fun q s u id found heq => ?_) _ _ _
      cases heq
      simp only [Surroundings.serve, Surroundings.answerLoader]
    refine hall _ (hgathered.asked ▸ List.mem_cons_of_mem _ ?_) _ _ rfl
    exact List.mem_map.2 ⟨p, hp, rfl⟩
  have hdirectories : (ls.loaders.map fun l => (e.finder l.id).resources e.files name) =
      directories.map fun d => (Directory.mk [d] none).resources e.files name := by
    refine List.ext_getElem? fun i => ?_
    rw [List.getElem?_map, List.getElem?_map]
    rcases Nat.lt_or_ge i ls.loaders.length with hi | hi
    · rw [List.getElem?_eq_getElem hi, List.getElem?_eq_getElem (hlength ▸ hi)]
      have hroot := hroots i _ _ (List.getElem?_eq_getElem hi)
        (List.getElem?_eq_getElem (hlength ▸ hi))
      rw [Option.map_some, Option.map_some, Directory.resources_eq_flatMap, hroot,
        List.flatMap_singleton]
    · rw [List.getElem?_eq_none hi, List.getElem?_eq_none (hlength ▸ hi)]
      rfl
  calc ((ls.innermost.resources name).run e.serve s ()).1
      = own.flatMap (·.2) := by rw [hgathered.found, hbuiltin]; rfl
    _ = own.flatMap fun p => (e.finder p.1.id).resources e.files name := by
        exact List.flatMap_congr hown
    _ = (ls.loaders.map fun l => (e.finder l.id).resources e.files name).flatten := by
        rw [← hline, List.map_map, List.flatMap_def, Function.comp_def]
    _ = (Directory.mk directories none).resources e.files name := by
        rw [hdirectories, Directory.resources_eq_flatMap, List.flatMap_def]

/-- A command that asks for all resources prints what is gathered. -/
theorem run_execute_resources (ls : Layers) (e : Surroundings) (w : World) (name : String) :
    (e.run (ls.execute (.resource name true)) w).1 =
      match ((ls.innermost.resources name).run e.serve w.loaders ()).1 with
      | [] => .error (.resourceNotFound name)
      | paths => .ok paths := by
  unfold execute
  rw [Surroundings.run_bind, Surroundings.run_ofLoader]
  dsimp only
  cases ((ls.innermost.resources name).run e.serve w.loaders ()).1 with
  | nil => rfl
  | cons path rest => rfl

/-- A command that asks for one resource prints the first of what is gathered. -/
theorem run_execute_resource (ls : Layers) (e : Surroundings) (w : World) (name : String) :
    (e.run (ls.execute (.resource name false)) w).1 =
      match ((ls.innermost.resources name).run e.serve w.loaders ()).1.head? with
      | none => .error (.resourceNotFound name)
      | some path => .ok [path] := by
  have hfirst := (bringsFirst_resource (e.firstOfAll name) ls.innermost w.loaders ()).1
  unfold execute
  rw [Surroundings.run_bind, Surroundings.run_ofLoader]
  dsimp only
  rw [hfirst]
  cases ((ls.innermost.resources name).run e.serve w.loaders ()).1.head? with
  | none => rfl
  | some path => rfl

end Layers

/-! ## Two command lines -/

namespace Arguments

variable {a : Arguments} {fs : FileSystem}

/-- Nothing is wrong with layers that are directories, if there are any. -/
theorem directories_of_fault? (h : a.fault? fs = none) :
    a.options.layers ≠ [] ∧ ∀ d ∈ a.options.layers, fs.isDirectory d = true := by
  unfold fault? at h
  split at h
  · cases h
  · rename_i hlayers
    rw [Option.map_eq_none_iff, List.find?_eq_none] at h
    exact ⟨by simpa using hlayers, fun d hd => by simpa using h d hd⟩

/-- A command is executed on a chain that gathers what lies in the layers. -/
theorem run_eq_gathered (env : Environment) (hfault : a.fault? fs = none) (name : String) :
    ∃ (ls : Layers) (e : Surroundings) (w : World),
      ((ls.innermost.resources name).run e.serve w.loaders ()).1 =
        (Directory.mk a.options.layers none).resources fs name ∧
      a.run env fs = (e.run (ls.execute a.command) w).1 := by
  obtain ⟨hlayers, hdirectories⟩ := directories_of_fault? hfault
  obtain ⟨ls, w, -, hlength, hstacked, -, hrun⟩ := run_eq env hlayers hdirectories
  refine ⟨ls, { files := fs, finders := ls.finders a.options.layers a.options.libraryDir }, w,
    Layers.run_resources hstacked hlength (fun i l d hl hd => ?_) name w.loaders, hrun⟩
  exact Layers.roots_finders hstacked.nodup hlength a.options.libraryDir hl hd

/-- The command line that asks for a resource, or for all of that name, with the same
options. -/
def forResource (a : Arguments) (name : String) (all : Bool) : Arguments :=
  { a with command := .resource name all }

/-- Where all resources are asked for, everything is printed that lies in the layers. -/
theorem run_forResource_all (env : Environment) (hfault : a.fault? fs = none) (name : String) :
    (a.forResource name true).run env fs =
      match (Directory.mk a.options.layers none).resources fs name with
      | [] => .error (.resourceNotFound name)
      | paths => .ok paths := by
  obtain ⟨ls, e, w, hgathered, hrun⟩ :=
    run_eq_gathered (a := a.forResource name true) env hfault name
  rw [hrun]
  unfold forResource at hgathered ⊢
  rw [ls.run_execute_resources, hgathered]

/-- Where one resource is asked for, the first one is printed that lies in the layers. -/
theorem run_forResource_one (env : Environment) (hfault : a.fault? fs = none) (name : String) :
    (a.forResource name false).run env fs =
      match ((Directory.mk a.options.layers none).resources fs name).head? with
      | none => .error (.resourceNotFound name)
      | some path => .ok [path] := by
  obtain ⟨ls, e, w, hgathered, hrun⟩ :=
    run_eq_gathered (a := a.forResource name false) env hfault name
  rw [hrun]
  unfold forResource at hgathered ⊢
  rw [ls.run_execute_resource, hgathered]

/-- A command line that asks for one resource fails as the one that asks for all, or prints
the first line of that one. -/
theorem run_forResource (a : Arguments) (env : Environment) (fs : FileSystem) (name : String) :
    (∀ err, (a.forResource name true).run env fs = .error err ↔
      (a.forResource name false).run env fs = .error err) ∧
    ∀ lines, (a.forResource name true).run env fs = .ok lines →
      lines = (Directory.mk a.options.layers none).resources fs name ∧
      ∃ first rest, lines = first :: rest ∧
        (a.forResource name false).run env fs = .ok [first] := by
  cases hfault : a.fault? fs with
  | some fault =>
      have hrun : ∀ all, (a.forResource name all).run env fs = .error fault := by
        intro all
        unfold run
        rw [show (a.forResource name all).fault? fs = some fault from hfault]
      rw [hrun, hrun]
      exact ⟨fun _ => Iff.rfl, nofun⟩
  | none =>
      rw [run_forResource_all env hfault, run_forResource_one env hfault]
      cases (Directory.mk a.options.layers none).resources fs name with
      | nil => exact ⟨fun _ => Iff.rfl, nofun⟩
      | cons first rest =>
          refine ⟨fun _ => ⟨nofun, nofun⟩, fun lines hlines => ?_⟩
          obtain rfl := Except.ok.inj hlines
          exact ⟨rfl, first, rest, rfl, rfl⟩

end Arguments

/-- All resources of a name are the built-in one, if there is one, and behind it what each
loader from the root down has of its own; and the resource of the name is the first of them,
or none.  This is so for every line of loaders, whoever is asked, where every finder gives
the first of all as its resource.  Finders that look into directories do, so a command line
that asks for the resource succeeds just where the one that asks for all succeeds, and prints
the first line of that one. -/
theorem resources_agree (name : String) :
    (∀ {E : Type} {answer : (q : LoaderQuestion) → Loaders → E → q.Answer × Loaders × E},
      FirstOfAll answer name → ∀ (l : Loader) (s : Loaders) (e : E),
        (∃ inherited own, l.Gathered name ((l.resources name).run answer s e).1
          ((l.resources name).exchanges answer (fun _ => true) s e) inherited own) ∧
        ((l.resource name).run answer s e).1 = ((l.resources name).run answer s e).1.head?) ∧
    ∀ (a : Arguments) (env : Environment) (fs : FileSystem),
      (∀ err, (a.forResource name true).run env fs = .error err ↔
        (a.forResource name false).run env fs = .error err) ∧
      ∀ lines, (a.forResource name true).run env fs = .ok lines →
        lines = (Directory.mk a.options.layers none).resources fs name ∧
        ∃ first rest, lines = first :: rest ∧
          (a.forResource name false).run env fs = .ok [first] := by
  refine ⟨fun hfirst l s e => ⟨l.ends_resources s e, ?_⟩, fun a env fs => ?_⟩
  · exact (bringsFirst_resource hfirst l s e).1
  · exact a.run_forResource env fs name

/-! ## Three loaders and two layers -/

/-- A finder counts how often it has been asked.  The root has nothing, and the loaders
below it have one resource and two. -/
def counting : (q : LoaderQuestion) → Loaders → Nat → q.Answer × Loaders × Nat
  | .bootstrapResource _ _, s, n => (none, s, n)
  | .resources id _, s, n => ([[], [], ["mid"], ["low", "lower"]].getD id.val [], s, n + 1)
  | .resource id _, s, n =>
      (([[], [], ["mid"], ["low", "lower"]].getD id.val []).head?, s, n + 1)
  | .mayCreate _ _, s, n => (.ok (), s, n)
  | .maySeeParent _ _ _, s, n => (.ok (), s, n)
  | .enter _ _, s, n => ((), s, n)
  | .leave _ _, s, n => ((), s, n)
  | .bootstrap _ _, s, n => (none, s, n)
  | .find _ name, s, n => (.error (.notFound name), s, n)
  | .produce _ _, s, n => (.error (.notFound unnamed), s, n)
  | .link _ _, s, n => (.ok (), s, n)
  | .library _ _, s, n => (none, s, n)

/-- Two directories with a file of the same name. -/
def twoLayers : FileSystem where
  look path :=
    if path = "low" ∨ path = "top" then .ok .directory
    else if path = "low/a/b" ∨ path = "top/a/b" then .ok (.file [] none)
    else .error .notFound
  canonical := some

/-- A command line on the two directories. -/
def onTwoLayers : Arguments where
  options := { layers := ["low", "top"] }
  command := .loadLibrary "z"

theorem resources_agree_counting :
    ((inmost.resources "a/b").run counting {} 0).1 = ["mid", "low", "lower"] ∧
      (∃ inherited own, inmost.Gathered "a/b" ["mid", "low", "lower"]
        [⟨.bootstrapResource 0 "a/b", none⟩, ⟨.resources ⟨1⟩ "a/b", []⟩,
          ⟨.resources ⟨2⟩ "a/b", ["mid"]⟩, ⟨.resources ⟨3⟩ "a/b", ["low", "lower"]⟩]
        inherited own) ∧
      ((inmost.resource "a/b").run counting {} 0).1 = some "mid" ∧
      (onTwoLayers.forResource "a/b" true).run (fun _ => none) twoLayers =
        .ok ["low/a/b", "top/a/b"] ∧
      (onTwoLayers.forResource "a/b" false).run (fun _ => none) twoLayers = .ok ["low/a/b"] := by
  have hfirst : FirstOfAll counting "a/b" := fun _ _ _ => rfl
  have hall : (onTwoLayers.forResource "a/b" true).run (fun _ => none) twoLayers =
      .ok ["low/a/b", "top/a/b"] := by
    rw [Arguments.run_forResource_all _ rfl]
    rfl
  obtain ⟨hloaders, hcommands⟩ := resources_agree "a/b"
  obtain ⟨hgathered, hone⟩ := hloaders hfirst inmost {} 0
  obtain ⟨-, first, rest, hlines, hrun⟩ := (hcommands onTwoLayers _ twoLayers).2 _ hall
  obtain ⟨rfl, -⟩ := List.cons.inj hlines
  exact ⟨rfl, hgathered, hone, hall, hrun⟩

end Loading
