import Loading.Loader.Directory
import Loading.Proofs.FileTrees

/-!
# Which root a module comes from

A finder goes through its roots until one settles the matter.  A root with the file settles
it, and so does a root of which it cannot be told what is there, unless that is because there
is nothing.  So the first root that holds a module is where it comes from, just as long as
none before it fails in another way; and a plain file in place of a directory is one that
does.

* `Lacks`, `Holds`, `Bars` — what a root may be to a module.
* `find_split` — the first root that settles the matter.
* `find_first_iff` — when the first root that holds a module is where it is found.
-/

namespace Loading.Directory

variable {d : Directory} {fs : FileSystem} {name : Name} {root : String}

/-! ## Single roots -/

/-- A root is without a module: where it would lie, there is nothing or a directory. -/
def Lacks (fs : FileSystem) (name : Name) (root : String) : Prop :=
  fs.look (Path.join root (modulePath name)) = .ok .directory ∨
    fs.look (Path.join root (modulePath name)) = .error .notFound

/-- A root holds a module: where it would lie, there is a file with these bytes. -/
def Holds (fs : FileSystem) (name : Name) (root : String) (bytes : List UInt8) : Prop :=
  ∃ exports, fs.look (Path.join root (modulePath name)) = .ok (.file bytes exports)

/-- It cannot be told what a root has where a module would lie, and not because there is
nothing. -/
def Bars (fs : FileSystem) (name : Name) (root : String) (e : FileError) : Prop :=
  fs.look (Path.join root (modulePath name)) = .error e ∧ e ≠ .notFound

/-- There is no fourth thing that a root may be to a module. -/
theorem lacks_or_holds_or_bars (fs : FileSystem) (name : Name) (root : String) :
    Lacks fs name root ∨ (∃ bytes, Holds fs name root bytes) ∨ ∃ e, Bars fs name root e := by
  unfold Lacks Holds Bars
  cases hlook : fs.look (Path.join root (modulePath name)) with
  | ok entry => cases entry <;> simp
  | error e => by_cases he : e = .notFound <;> simp [he]

theorem findBelow_of_lacks (h : Lacks fs name root) : findBelow fs name root = none := by
  unfold findBelow
  dsimp only
  rcases h with h | h <;> rw [h]

theorem findBelow_of_holds {bytes : List UInt8} (h : Holds fs name root bytes) :
    findBelow fs name root = some (.ok ⟨bytes, some (sourceOf root)⟩) := by
  obtain ⟨exports, h⟩ := h
  unfold findBelow
  dsimp only
  rw [h]

theorem findBelow_of_bars {e : FileError} (h : Bars fs name root e) :
    findBelow fs name root =
      some (.error (.definition name (.unreadable (Path.join root (modulePath name)) e))) := by
  obtain ⟨h, he⟩ := h
  unfold findBelow
  dsimp only
  rw [h]
  cases e <;> first | rfl | exact absurd rfl he

theorem Lacks.not_bars {e : FileError} (h : Lacks fs name root) : ¬ Bars fs name root e := by
  rintro ⟨hlook, he⟩
  rcases h with h | h
  · cases hlook.symm.trans h
  · exact he (Except.error.inj (hlook.symm.trans h))

/-! ## One root after the other -/

section Roots

variable {before after : List String}

/-- The first root that settles the matter gives the answer. -/
theorem find_split {answer : Except LoadError FoundModule}
    (hroots : d.roots = before ++ root :: after) (hbefore : ∀ r ∈ before, Lacks fs name r)
    (hanswer : findBelow fs name root = some answer) : d.find fs name = answer := by
  have hnone : before.findSome? (findBelow fs name) = none :=
    List.findSome?_eq_none_iff.2 fun r hr => findBelow_of_lacks (hbefore r hr)
  unfold find
  rw [hroots, List.findSome?_append, hnone, List.findSome?_cons, hanswer]
  rfl

/-- Roots without the module give no answer. -/
theorem find_of_lacks (h : ∀ r ∈ d.roots, Lacks fs name r) :
    d.find fs name = .error (.notFound name) := by
  have hnone : d.roots.findSome? (findBelow fs name) = none :=
    List.findSome?_eq_none_iff.2 fun r hr => findBelow_of_lacks (h r hr)
  unfold find
  rw [hnone]
  rfl

/-- Either all of some roots are without the module, or one of them is the first that is not. -/
theorem lacks_or_first (fs : FileSystem) (name : Name) (roots : List String) :
    (∀ r ∈ roots, Lacks fs name r) ∨ ∃ before root after, roots = before ++ root :: after ∧
      (∀ r ∈ before, Lacks fs name r) ∧ ¬ Lacks fs name root := by
  induction roots with
  | nil => exact Or.inl nofun
  | cons root rest ih =>
      by_cases hroot : Lacks fs name root
      · rcases ih with hall | ⟨before, r, after, rfl, hbefore, hr⟩
        · exact Or.inl (List.forall_mem_cons.2 ⟨hroot, hall⟩)
        · exact Or.inr ⟨root :: before, r, after, rfl,
            List.forall_mem_cons.2 ⟨hroot, hbefore⟩, hr⟩
      · exact Or.inr ⟨[], root, rest, rfl, nofun, hroot⟩

/-- Among the first roots, of which none holds the module, there is none that bars the way, or
the first of these gives the answer. -/
theorem clear_or_barred (hroots : d.roots = before ++ after)
    (hnone : ∀ r ∈ before, ∀ bytes, ¬ Holds fs name r bytes) :
    (∀ r ∈ before, Lacks fs name r) ∨ ∃ r ∈ before, ∃ e, Bars fs name r e ∧ d.find fs name =
      .error (.definition name (.unreadable (Path.join r (modulePath name)) e)) := by
  rcases lacks_or_first fs name before with hall | ⟨front, r, back, rfl, hfront, hr⟩
  · exact Or.inl hall
  · have hmem : r ∈ front ++ r :: back := List.mem_append_right front List.mem_cons_self
    rcases lacks_or_holds_or_bars fs name r with hlacks | ⟨bytes, hholds⟩ | ⟨e, hbars⟩
    · exact absurd hlacks hr
    · exact absurd hholds (hnone r hmem bytes)
    · rw [List.append_assoc, List.cons_append] at hroots
      exact Or.inr ⟨r, hmem, e, hbars, find_split hroots hfront (findBelow_of_bars hbars)⟩

/-- In a tree of files, a plain file in place of a directory bars the way. -/
theorem bars_of_file {t : FileTree} {front rest : String}
    (hplace : Path.join root (modulePath name) = front ++ "/" ++ rest)
    (hfile : t.view.isFile front = true)
    (hlength : (front ++ "/" ++ rest).utf8ByteSize ≤ FileTree.maxPath)
    (hnul : '\x00' ∉ rest.toList) : Bars t.view name root .notADirectory :=
  ⟨by rw [hplace, FileTree.look_behind_file hfile hlength hnul], nofun⟩

end Roots

/-! ## The first root that holds a module -/

/-- The first root that holds a module as a file is where it is found, with the bytes of that
file and the root as its source, if and only if of no root before it the operating system says
anything else than that nothing is there; and where no root holds it, it is not found, if and
only if that is so of all roots.  Otherwise the first such root settles the matter with an
error, whatever the roots behind it hold.  In a tree of files, a plain file in place of a
directory on the way to the module makes a root one of these. -/
theorem find_first_iff (d : Directory) (fs : FileSystem) (name : Name) :
    (∀ before root after bytes, d.roots = before ++ root :: after → Holds fs name root bytes →
      (∀ r ∈ before, ∀ bytes, ¬ Holds fs name r bytes) →
      (d.find fs name = .ok ⟨bytes, some (.unsigned ("file:" ++ root))⟩ ↔
        ∀ r ∈ before, ∀ e, ¬ Bars fs name r e)) ∧
    ((∀ r ∈ d.roots, ∀ bytes, ¬ Holds fs name r bytes) →
      (d.find fs name = .error (.notFound name) ↔ ∀ r ∈ d.roots, ∀ e, ¬ Bars fs name r e)) ∧
    (∀ before root after e, d.roots = before ++ root :: after → Bars fs name root e →
      (∀ r ∈ before, (∀ bytes, ¬ Holds fs name r bytes) ∧ ∀ e, ¬ Bars fs name r e) →
      d.find fs name =
        .error (.definition name (.unreadable (Path.join root (modulePath name)) e))) ∧
    ∀ (t : FileTree) (root front rest : String),
      Path.join root (modulePath name) = front ++ "/" ++ rest → t.view.isFile front = true →
      (front ++ "/" ++ rest).utf8ByteSize ≤ FileTree.maxPath → '\x00' ∉ rest.toList →
      Bars t.view name root .notADirectory := by
  have hlacks : ∀ r, (∀ bytes, ¬ Holds fs name r bytes) → (∀ e, ¬ Bars fs name r e) →
      Lacks fs name r := fun r hholds hbars =>
    (lacks_or_holds_or_bars fs name r).resolve_right fun h =>
      h.elim (fun ⟨bytes, h⟩ => hholds bytes h) fun ⟨e, h⟩ => hbars e h
  refine ⟨fun before root after bytes hroots hholds hnone => ⟨fun hfind => ?_, fun hclear => ?_⟩,
    fun hnone => ⟨fun hfind => ?_, fun hclear => ?_⟩,
    fun before root after e hroots hbars hbefore => ?_,
    fun t root front rest hplace hfile hlength hnul => bars_of_file hplace hfile hlength hnul⟩
  · rcases clear_or_barred hroots hnone with hall | ⟨r, -, e, -, hbarred⟩
    · exact fun r hr e => (hall r hr).not_bars
    · cases hfind.symm.trans hbarred
  · exact find_split hroots (fun r hr => hlacks r (hnone r hr) (hclear r hr))
      (findBelow_of_holds hholds)
  · rcases clear_or_barred (List.append_nil d.roots).symm hnone with hall | ⟨r, -, e, -, hbarred⟩
    · exact fun r hr e => (hall r hr).not_bars
    · cases hfind.symm.trans hbarred
  · exact find_of_lacks fun r hr => hlacks r (hnone r hr) (hclear r hr)
  · exact find_split hroots (fun r hr => hlacks r (hbefore r hr).1 (hbefore r hr).2)
      (findBelow_of_bars hbars)

/-! ## A plain file in place of a directory -/

/-- Two roots.  In the first one a plain file stands where the second one has a directory with
a module. -/
def plainFirst : FileTree where
  nodes := ⟨[(["low"], .directory), (["low", "a"], .file [] none), (["top"], .directory),
    (["top", "a"], .directory), (["top", "a", "C.class"], .file [1] none)]⟩

/-- The module of the second root is not found, for all that the first root has none. -/
theorem find_first_plain :
    (Directory.mk ["low", "top"] none).find plainFirst.view "a.C" =
        .error (.definition "a.C" (.unreadable "low/a/C.class" .notADirectory)) ∧
      (Directory.mk ["top", "low"] none).find plainFirst.view "a.C" =
        .ok ⟨[1], some (.unsigned "file:top")⟩ := by
  obtain ⟨-, -, hbarred, htree⟩ := find_first_iff ⟨["low", "top"], none⟩ plainFirst.view "a.C"
  obtain ⟨hfound, -⟩ := find_first_iff ⟨["top", "low"], none⟩ plainFirst.view "a.C"
  have hbars : Bars plainFirst.view "a.C" "low" .notADirectory :=
    htree plainFirst "low" "low/a" "C.class" rfl rfl (by decide) (by decide)
  exact ⟨hbarred [] "low" ["top"] .notADirectory rfl hbars nofun,
    (hfound [] "top" ["low"] [1] rfl ⟨none, rfl⟩ nofun).2 nofun⟩

end Loading.Directory
