import Loading.Proofs.Command.Layers

/-!
# The first layer that holds a file

The innermost loader of a chain asks its way up to the root, and the answers come down again.
Seen from outside, that is one search through the list of the directories: the first that
holds a file for a name settles what is reported of it, be it a module or an error.

* `Surroundings.verdict_of_stacked` — what the innermost loader makes of a name, as a fold
  over the chain.
* `Layers.Searches.verdict_first` — the first directory with a file settles it.
* `Arguments.run_resolve` — what the command line prints.
-/

namespace Loading

/-! ## What the innermost loader makes of a name -/

namespace Surroundings

variable (e : Surroundings) {s : Loaders} {context : Context} {name : Name}

/-- What a new loader of a context would be told of a name. -/
def toldBelow (s : Loaders) (context : Context) (name : Name) :
    Option Loader → Except LoadError Profile
  | none => ((s.builtin? context.key name).map (·.profile)).elim (.error (.notFound name)) .ok
  | some parent => e.verdict s name parent

theorem told_eq (s : Loaders) (name : Name) (l : Loader) :
    e.told s name l = e.toldBelow s l.context name l.parent? := by
  cases l <;> rfl

/-- The innermost loader of a chain hears from one loader after the other. -/
theorem verdict_of_stacked {next : Nat} {parent : Option Loader} {ls : List Loader} {l : Loader}
    (h : Layers.Stacked context next parent ls) (hlast : ls.getLast? = some l) :
    e.verdict s name l =
      ls.foldl (fun told l => e.verdictAfter l name told) (e.toldBelow s context name parent) := by
  induction ls generalizing next parent with
  | nil => cases hlast
  | cons k rest ih =>
      obtain ⟨-, hcontext, hparent, hrest⟩ := h
      have hverdict : e.verdict s name k =
          e.verdictAfter k name (e.toldBelow s context name parent) := by
        rw [verdict_eq, told_eq, hcontext, hparent]
      rw [List.foldl_cons, ← hverdict]
      cases rest with
      | nil =>
          obtain rfl := Option.some.inj hlast
          rfl
      | cons k' rest => exact ih hrest hlast

/-- Loaders that miss a module go on to the next one. -/
theorem foldl_of_misses {ls : List Loader} (hwell : ∀ l ∈ ls, l.rules.isWellFormed name = true)
    (hmiss : ∀ l ∈ ls, e.verdictAlone l name = .error (.notFound name)) :
    ls.foldl (fun told l => e.verdictAfter l name told) (.error (.notFound name)) =
      .error (.notFound name) := by
  induction ls with
  | nil => rfl
  | cons k rest ih =>
      obtain ⟨hk, hrest⟩ := List.forall_mem_cons.1 hmiss
      obtain ⟨hkwell, hrestwell⟩ := List.forall_mem_cons.1 hwell
      have hafter : e.verdictAfter k name (.error (.notFound name)) =
          .error (.notFound name) := by
        unfold verdictAfter
        rw [if_pos hkwell]
        exact hk
      rw [List.foldl_cons, hafter]
      exact ih hrestwell hrest

/-- What is settled is passed on by everybody. -/
theorem foldl_of_settled {ls : List Loader} (hwell : ∀ l ∈ ls, l.rules.isWellFormed name = true)
    {told : Except LoadError Profile}
    (hsettled : ∀ err, told = .error err → err.isNotFound = false) :
    ls.foldl (fun told l => e.verdictAfter l name told) told = told := by
  induction ls with
  | nil => rfl
  | cons k rest ih =>
      obtain ⟨hkwell, hrestwell⟩ := List.forall_mem_cons.1 hwell
      have hafter : e.verdictAfter k name told = told := by
        unfold verdictAfter
        rw [if_pos hkwell]
        cases told with
        | ok p => rfl
        | error err => simp [hsettled err rfl]
      rw [List.foldl_cons, hafter]
      exact ih hrestwell

/-- What a loader with one directory finds there is judged; without a file it finds
nothing. -/
theorem verdictAlone_of_root {l : Loader} {d : String} (hroots : (e.finder l.id).roots = [d])
    (hlook : ∀ err, e.files.look (Path.join d (Directory.modulePath name)) = .error err →
      err = .notFound) :
    e.verdictAlone l name =
      match e.files.look (Path.join d (Directory.modulePath name)) with
      | .ok (.file bytes _) => judge l name ⟨bytes, some (Directory.sourceOf d)⟩
      | _ => .error (.notFound name) := by
  unfold verdictAlone Directory.find
  rw [hroots, List.findSome?_singleton]
  unfold Directory.findBelow
  dsimp only
  cases hseen : e.files.look (Path.join d (Directory.modulePath name)) with
  | error err =>
      obtain rfl := hlook err hseen
      rfl
  | ok entry => cases entry <;> rfl

end Surroundings

/-! ## The rules for names -/

namespace Arguments

/-- Are names under the reserved prefix permitted, by the flag or by the environment? -/
def permitsReserved (a : Arguments) (env : Environment) : Bool :=
  a.options.allowReservedPrefix || (env allowReservedPrefixVar).any Config.isOn

/-- The rules for names are the usual ones, but for the reserved prefix. -/
theorem names_config (a : Arguments) (env : Environment) :
    (a.config env).names = { allowReservedPrefix := a.permitsReserved env } := by
  unfold config permitsReserved Config.ofEnvironment
  cases a.options.allowReservedPrefix with
  | true => rfl
  | false =>
      cases env allowReservedPrefixVar with
      | none => rfl
      | some value =>
          simp only [Bool.false_eq_true, if_false, Option.map_some, Option.getD_some,
            Option.any_some, Bool.false_or]

end Arguments

/-- To define a name that may be looked up, only the reserved prefix can stand in the way. -/
theorem NameRules.fault?_of_isWellFormed {rules : NameRules} {name : Name}
    (h : rules.isWellFormed name = true) :
    rules.fault? name = if !rules.allowReservedPrefix && rules.isReserved name then
      some (.reserved rules.reservedPrefix) else none := by
  simp only [isWellFormed, Bool.and_eq_true, Bool.not_eq_true'] at h
  obtain ⟨⟨-, hseparator⟩, harray⟩ := h
  have harray' : (!rules.allowArraySyntax && hasArraySyntax name) = false := by
    cases hallow : rules.allowArraySyntax <;> simp_all
  unfold fault?
  rw [hseparator, harray']
  rfl

/-! ## A search through directories -/

/-- A chain of loaders looks for a name in some directories, where it finds a file or
nothing. -/
structure Layers.Searches (ls : Layers) (e : Surroundings) (s : Loaders) (context : Context)
    (directories : List String) (name : Name) : Prop where
  /-- Each loader lies below the one before. -/
  stacked : Layers.Stacked context 1 none ls.loaders
  /-- There is one for each directory. -/
  length : ls.loaders.length = directories.length
  /-- It finds in that directory. -/
  roots : ∀ (i : Nat) l d, ls.loaders[i]? = some l → directories[i]? = some d →
    (e.finder l.id).roots = [d]
  /-- The name may be looked up. -/
  wellFormed : context.config.names.isWellFormed name = true
  /-- It is not built in. -/
  builtin : s.builtin? context.key name = none
  /-- No directory fails. -/
  look : ∀ d ∈ directories, ∀ err,
    e.files.look (Path.join d (Directory.modulePath name)) = .error err → err = .notFound

namespace Layers.Searches

variable {e : Surroundings} {s : Loaders} {context : Context} {name : Name} {ls : Layers}
  {directories : List String} {i : Nat} {l : Loader} {d : String}

theorem rules (h : ls.Searches e s context directories name) (hl : l ∈ ls.loaders) :
    l.rules = context.config.names :=
  congrArg (fun c => c.config.names) (h.stacked.context_eq hl)

theorem rules_isWellFormed (h : ls.Searches e s context directories name) :
    ∀ l ∈ ls.loaders, l.rules.isWellFormed name = true := fun l hl => by
  rw [h.rules hl]
  exact h.wellFormed

/-- The innermost loader hears from one loader after the other. -/
theorem verdict_eq_foldl (h : ls.Searches e s context directories name) :
    e.verdict s name ls.innermost =
      ls.loaders.foldl (fun told l => e.verdictAfter l name told) (.error (.notFound name)) := by
  have hlast : ls.loaders.getLast? = some ls.innermost := List.getLast?_concat
  rw [e.verdict_of_stacked h.stacked hlast]
  unfold Surroundings.toldBelow
  rw [h.builtin]
  rfl

/-- A loader without a file in its directory misses the module. -/
theorem misses (h : ls.Searches e s context directories name) (hl : ls.loaders[i]? = some l)
    (hd : directories[i]? = some d)
    (hnone : e.files.isFile (Path.join d (Directory.modulePath name)) = false) :
    e.verdictAlone l name = .error (.notFound name) := by
  rw [e.verdictAlone_of_root (h.roots i l d hl hd) (h.look d (List.mem_of_getElem? hd))]
  unfold FileSystem.isFile at hnone
  cases hseen : e.files.look (Path.join d (Directory.modulePath name)) with
  | error err => rfl
  | ok entry =>
      rw [hseen] at hnone
      cases entry with
      | file bytes exports => cases hnone
      | directory => rfl

/-- For each loader there is a directory. -/
theorem exists_directory (h : ls.Searches e s context directories name)
    (hl : ls.loaders[i]? = some l) : ∃ d, directories[i]? = some d := by
  obtain ⟨hi, -⟩ := List.getElem?_eq_some_iff.1 hl
  exact ⟨_, List.getElem?_eq_getElem (h.length ▸ hi)⟩

/-- Without a file in any directory, the chain misses the module. -/
theorem verdict_missing (h : ls.Searches e s context directories name)
    (hnone : ∀ d ∈ directories,
      e.files.isFile (Path.join d (Directory.modulePath name)) = false) :
    e.verdict s name ls.innermost = .error (.notFound name) := by
  rw [h.verdict_eq_foldl]
  refine e.foldl_of_misses h.rules_isWellFormed fun l hl => ?_
  obtain ⟨i, hi⟩ := List.getElem?_of_mem hl
  obtain ⟨d, hd⟩ := h.exists_directory hi
  exact h.misses hi hd (hnone d (List.mem_of_getElem? hd))

/-- The first directory with a file settles what becomes of the name. -/
theorem verdict_first (h : ls.Searches e s context directories name)
    (hl : ls.loaders[i]? = some l) (hd : directories[i]? = some d) {bytes : List UInt8}
    {exports : Option (List String)}
    (hfile : e.files.look (Path.join d (Directory.modulePath name)) = .ok (.file bytes exports))
    (hbefore : ∀ j < i, ∀ d, directories[j]? = some d →
      e.files.isFile (Path.join d (Directory.modulePath name)) = false) :
    e.verdict s name ls.innermost =
      Surroundings.judge l name ⟨bytes, some (Directory.sourceOf d)⟩ := by
  obtain ⟨hi, hget⟩ := List.getElem?_eq_some_iff.1 hl
  have hsplit : ls.loaders = ls.loaders.take i ++ l :: ls.loaders.drop (i + 1) := by
    rw [← hget, ← List.drop_eq_getElem_cons hi, List.take_append_drop]
  have halone : e.verdictAlone l name =
      Surroundings.judge l name ⟨bytes, some (Directory.sourceOf d)⟩ := by
    rw [e.verdictAlone_of_root (h.roots i l d hl hd) (h.look d (List.mem_of_getElem? hd)), hfile]
  have hmisses : ∀ k ∈ ls.loaders.take i, e.verdictAlone k name = .error (.notFound name) := by
    intro k hk
    obtain ⟨j, hj⟩ := List.getElem?_of_mem hk
    rw [List.getElem?_take] at hj
    split at hj
    · rename_i hji
      obtain ⟨d', hd'⟩ := h.exists_directory hj
      exact h.misses hj hd' (hbefore j hji d' hd')
    · cases hj
  have hwell := h.rules_isWellFormed
  rw [h.verdict_eq_foldl, hsplit, List.foldl_append,
    e.foldl_of_misses (fun k hk => hwell k (List.mem_of_mem_take hk)) hmisses, List.foldl_cons]
  have hafter : e.verdictAfter l name (.error (.notFound name)) = e.verdictAlone l name := by
    unfold Surroundings.verdictAfter
    rw [if_pos (hwell l (List.mem_of_getElem? hl))]
    rfl
  rw [hafter, halone]
  refine e.foldl_of_settled (fun k hk => hwell k (List.mem_of_mem_drop hk)) fun err herr => ?_
  unfold Surroundings.judge at herr
  split at herr
  · obtain rfl := Except.error.inj herr
    rfl
  · split at herr
    · obtain rfl := Except.error.inj herr
      rfl
    · cases herr

end Layers.Searches

/-! ## The whole command line -/

namespace Arguments

variable {a : Arguments} {fs : FileSystem} {name : Name} {link : Bool}

/-- What a command prints about a name is the verdict of the innermost loader, which lies at
the end of a chain that looks for the name in the layers. -/
theorem run_eq_verdict (env : Environment) (hcommand : a.command = .resolve name link)
    (hlayers : a.options.layers ≠ [])
    (hdirectories : ∀ d ∈ a.options.layers, fs.isDirectory d = true)
    (hlook : ∀ d ∈ a.options.layers, ∀ err,
      fs.look (Path.join d (Directory.modulePath name)) = .error err → err = .notFound) :
    ∃ ls w e, e.files = fs ∧
      Surroundings.run (Layers.build (a.context env) a.options.layers) {} { files := fs } =
        (.ok ls, w, { files := fs }) ∧
      Layers.Stacked (a.context env) 1 none ls.loaders ∧
      ls.loaders.length = a.options.layers.length ∧
      ((a.context env).config.names.isWellFormed name = true →
        ls.Searches e w.loaders (a.context env) a.options.layers name) ∧
      a.run env fs = match e.verdict w.loaders name ls.innermost with
        | .error err => .error (.load err)
        | .ok p => .ok [p.name ++ " defined by " ++ p.loader.display ++ " (" ++
            ls.describe p.loader ++ "), " ++ toString p.codeLength ++ " bytes" ++
            (if link then ", linked" else "")] := by
  obtain ⟨ls, w, hbuild, hlength, hstacked, hprepared, hrun⟩ :=
    run_eq env hlayers hdirectories
  have hmade : ls.innermost ∈ w.loaders.created := by
    rw [hprepared.created]
    exact List.mem_append_right _ (List.mem_append_right _ (List.mem_singleton_self _))
  refine ⟨ls, w, { files := fs, finders := ls.finders a.options.layers a.options.libraryDir },
    rfl, hbuild, hstacked, hlength, fun hname => ?_, ?_⟩
  · refine ⟨hstacked, hlength, fun i l d hl hd => ?_, hname, ?_, hlook⟩
    · exact Layers.roots_finders hstacked.nodup hlength a.options.libraryDir hl hd
    · unfold Loaders.builtin? Loaders.builtinsOf
      rw [hprepared.builtins]
      rfl
  · rw [hrun, hcommand]
    exact Layers.run_execute_resolve hprepared.built hmade
      (congrArg ModuleLedger.linked hprepared.ledger) name link

/-- A layer is the first one in whose directory there is a file for a name. -/
structure FirstHolds (a : Arguments) (fs : FileSystem) (name : Name) (i : Nat)
    (bytes : List UInt8) : Prop where
  /-- It holds a file with these bytes. -/
  file : ∃ d exports, a.options.layers[i]? = some d ∧
    fs.look (Path.join d (Directory.modulePath name)) = .ok (.file bytes exports)
  /-- The layers above it hold none. -/
  before : ∀ j < i, ∀ d, a.options.layers[j]? = some d →
    fs.isFile (Path.join d (Directory.modulePath name)) = false

/-- With one layer or more, a name is resolved by the first layer that holds a file for it.
A name that is not well formed, or for which no layer holds a file, is not found.  Otherwise
the first layer settles it: a name under the reserved prefix has to be permitted, a file
without bytes is no module, and any other file is reported with its layer, the loader of
that layer and its length, and as linked if that was asked for. -/
theorem run_resolve (env : Environment) (hcommand : a.command = .resolve name link)
    (hlayers : a.options.layers ≠ [])
    (hdirectories : ∀ d ∈ a.options.layers, fs.isDirectory d = true)
    (hlook : ∀ d ∈ a.options.layers, ∀ err,
      fs.look (Path.join d (Directory.modulePath name)) = .error err → err = .notFound) :
    ((({} : NameRules).isWellFormed name = false ∨ ∀ d ∈ a.options.layers,
        fs.isFile (Path.join d (Directory.modulePath name)) = false) →
      a.run env fs = .error (.load (.notFound name))) ∧
    (({} : NameRules).isWellFormed name = true → ∀ i bytes, a.FirstHolds fs name i bytes →
      (({} : NameRules).isReserved name = true → a.permitsReserved env = false →
        a.run env fs = .error (.load (.invalidName name (.reserved "java.")))) ∧
      ((({} : NameRules).isReserved name = true → a.permitsReserved env = true) →
        (bytes = [] → a.run env fs = .error (.load (.definition name .emptyBody))) ∧
        (bytes ≠ [] → ∃ ls w l,
          Surroundings.run (Layers.build (a.context env) a.options.layers) {} { files := fs } =
            (.ok ls, w, { files := fs }) ∧
          ls.loaders.length = a.options.layers.length ∧ ls.loaders[i]? = some l ∧
          l.id = ⟨i + 1⟩ ∧
          a.run env fs = .ok [name ++ " defined by " ++ l.id.display ++ " (layer " ++
            toString i ++ "), " ++ toString bytes.length ++ " bytes" ++
            (if link then ", linked" else "")]))) := by
  obtain ⟨ls, w, e, rfl, hbuild, hstacked, hlength, hsearches, hrun⟩ :=
    run_eq_verdict env hcommand hlayers hdirectories hlook
  have hnames : (a.context env).config.names =
      { allowReservedPrefix := a.permitsReserved env } := a.names_config env
  have hwell : (a.context env).config.names.isWellFormed name =
      ({} : NameRules).isWellFormed name := by rw [hnames]; rfl
  rw [hwell] at hsearches
  refine ⟨fun hmissing => ?_, fun hname i bytes hfirst => ?_⟩
  · have hverdict : e.verdict w.loaders name ls.innermost = .error (.notFound name) := by
      cases hname : ({} : NameRules).isWellFormed name with
      | true => exact (hsearches hname).verdict_missing (hmissing.resolve_left (by simp [hname]))
      | false =>
          have hinnermost : ls.innermost.context = a.context env :=
            hstacked.context_eq (List.mem_append_right _ (List.mem_singleton_self _))
          refine e.verdict_of_malformed ?_
          unfold Loader.rules
          rw [hinnermost, hwell, hname]
          exact Bool.false_ne_true
    rw [hrun, hverdict]
  · obtain ⟨d, exports, hd, hfile⟩ := hfirst.file
    obtain ⟨hi, -⟩ := List.getElem?_eq_some_iff.1 hd
    obtain ⟨l, hl⟩ : ∃ l, ls.loaders[i]? = some l :=
      ⟨_, List.getElem?_eq_getElem (hlength.symm ▸ hi)⟩
    have hid : l.id = ⟨i + 1⟩ := by rw [hstacked.id_eq hl, Nat.add_comm]
    have hverdict := (hsearches hname).verdict_first hl hd hfile hfirst.before
    have hfault : l.rules.fault? name =
        if !a.permitsReserved env && ({} : NameRules).isReserved name then
          some (.reserved "java.") else none := by
      rw [(hsearches hname).rules (List.mem_of_getElem? hl),
        NameRules.fault?_of_isWellFormed (hwell.trans hname), hnames]
      rfl
    unfold Surroundings.judge at hverdict
    refine ⟨fun hreserved hforbidden => ?_, fun hpermitted => ?_⟩
    · rw [hfault, hreserved, hforbidden] at hverdict
      rw [hrun, hverdict]
      rfl
    · have hnone : l.rules.fault? name = none := by
        rw [hfault]
        refine if_neg fun hboth => ?_
        rw [Bool.and_eq_true, Bool.not_eq_true'] at hboth
        exact Bool.false_ne_true (hboth.1.symm.trans (hpermitted hboth.2))
      rw [hnone] at hverdict
      dsimp only at hverdict
      refine ⟨fun hempty => ?_, fun hbytes => ⟨ls, w, l, hbuild, hlength, hl, hid, ?_⟩⟩
      · rw [hempty, List.isEmpty_nil, if_pos rfl] at hverdict
        rw [hrun, hverdict]
      · rw [if_neg (by simpa using hbytes)] at hverdict
        rw [hrun, hverdict]
        dsimp only
        rw [Layers.describe_of_stacked hstacked hl]
        have hwords : " (layer " = " (" ++ "layer " := rfl
        simp only [hwords, String.append_assoc]

/-! ## Three layers -/

/-- Three directories.  The first has no module, and of the two modules of the second the
third has longer files. -/
def threeLayers : FileSystem where
  look path :=
    if path = "low" ∨ path = "mid" ∨ path = "top" then .ok .directory
    else if path = "mid/a/B.class" then .ok (.file [1] none)
    else if path = "mid/a/C.class" then .ok (.file [] none)
    else if path = "top/a/B.class" ∨ path = "top/a/C.class" then .ok (.file [1, 2] none)
    else .error .notFound
  canonical := some

/-- A command that resolves a name in the three layers. -/
def inThreeLayers (name : Name) (link : Bool) : Arguments where
  options := { layers := ["low", "mid", "top"] }
  command := .resolve name link

/-- Where there is no file, there is nothing. -/
theorem threeLayers_look {path : String} {err : FileError}
    (h : threeLayers.look path = .error err) : err = .notFound := by
  unfold threeLayers at h
  dsimp only at h
  repeat' split at h
  all_goals cases h
  rfl

/-- The layer in the middle settles both names, one with a module and one with an error. -/
theorem run_resolve_threeLayers :
    (inThreeLayers "a.B" true).run (fun _ => none) threeLayers =
      .ok ["a.B defined by loader#2 (layer 1), 1 bytes, linked"] ∧
    (inThreeLayers "a.C" true).run (fun _ => none) threeLayers =
      .error (.load (.definition "a.C" .emptyBody)) := by
  have hdirectories : ∀ d ∈ ["low", "mid", "top"], threeLayers.isDirectory d = true := by
    simp [threeLayers, FileSystem.isDirectory]
  have hfirst : ∀ {name bytes}, threeLayers.isFile (Path.join "low" (Directory.modulePath name)) =
      false → threeLayers.look (Path.join "mid" (Directory.modulePath name)) =
        .ok (.file bytes none) → (inThreeLayers name true).FirstHolds threeLayers name 1 bytes := by
    intro name bytes hlow hmid
    refine ⟨⟨"mid", none, rfl, hmid⟩, fun j hj d hd => ?_⟩
    obtain rfl : j = 0 := by omega
    obtain rfl : "low" = d := Option.some.inj hd
    exact hlow
  constructor
  · obtain ⟨-, hok⟩ := ((run_resolve (a := inThreeLayers "a.B" true) (fun _ => none) rfl
      (by decide) hdirectories fun _ _ _ => threeLayers_look).2 rfl 1 [1] (hfirst rfl rfl)).2
        (by decide)
    obtain ⟨ls, w, l, -, -, -, hid, hrun⟩ := hok (by decide)
    rw [hrun, hid]
    rfl
  · exact (((run_resolve (a := inThreeLayers "a.C" true) (fun _ => none) rfl
      (by decide) hdirectories fun _ _ _ => threeLayers_look).2 rfl 1 [] (hfirst rfl rfl)).2
        (by decide)).1 rfl

end Arguments

end Loading
