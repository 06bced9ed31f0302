import Loading.Assertions
import Loading.Proofs.Pieces

/-!
# Which setting speaks for a module

A table of assertion settings is the outcome of a history of changes, and what an entry says
is what the latest change of it said, as long as nothing was cleared since.  The setting that
speaks for a module is its own, else that of the nearest package around it, else the default.
The default package is around the modules of the default package only.

The names of that package are those without a separator and those whose only separator stands
in front; the entry of the package is not asked about the latter.

* `Name.around` — the packages around a module, nearest first.
* `packagesOf_eq` — which of them are asked.
* `Setting`, `reached`, `latest?` — histories of changes, and what they leave.
* `status_reached_iff` — when the setting that is `due` speaks, and how far an entry reaches.
-/

namespace Loading

open Text

/-! ## Packages around a module -/

namespace Name

theorem toList_package (name : Name) :
    (Name.package name).toList = (beforeLast? '.' name.toList).getD [] := by
  unfold package upToLast
  rw [String.toList_ofList]

/-- A package that is not empty is what stands before a separator of the name. -/
theorem exists_eq_package_append {name : Name} (h : Name.package name ≠ "") :
    ∃ rest, '.' ∉ rest ∧ name.toList = (Name.package name).toList ++ '.' :: rest := by
  cases hlast : beforeLast? '.' name.toList with
  | none =>
      have htext := toList_package name
      rw [hlast] at htext
      exact absurd (String.toList_eq_nil_iff.1 htext) h
  | some front =>
      rw [toList_package, hlast]
      exact beforeLast?_eq_some_iff.1 hlast

theorem length_package_lt {name : Name} (h : Name.package name ≠ "") :
    (Name.package name).length < name.length := by
  obtain ⟨rest, -, htext⟩ := exists_eq_package_append h
  rw [← String.length_toList, ← String.length_toList, htext, List.length_append, List.length_cons]
  omega

/-- The packages around a package, nearest first: its last component is dropped until nothing
is left. -/
def enclosing (package : String) : List String :=
  if _h : Name.package package = "" then []
  else Name.package package :: enclosing (Name.package package)
termination_by package.length
decreasing_by exact length_package_lt _h

/-- The packages around a module, nearest first: its own package, which may be the default
package, and the packages around that. -/
def around (name : Name) : List String :=
  Name.package name :: enclosing (Name.package name)

/-- A module lies in a package, or in one below it.  Nothing lies below the default package. -/
def LiesIn (name : Name) (package : String) : Prop :=
  Name.package name = package ∨
    package ≠ "" ∧ ∃ rest, Name.package name = package ++ "." ++ rest

/-- Around a package are packages whose name it continues. -/
theorem exists_of_mem_enclosing {package outer : String} (h : outer ∈ enclosing package) :
    outer ≠ "" ∧ ∃ rest, package = outer ++ "." ++ rest := by
  induction package using enclosing.induct with
  | case1 package hempty =>
      rw [enclosing, dif_pos hempty] at h
      cases h
  | case2 package hfull ih =>
      rw [enclosing, dif_neg hfull] at h
      obtain ⟨rest, -, htext⟩ := exists_eq_package_append hfull
      have hpackage : package = Name.package package ++ "." ++ String.ofList rest := by
        rw [← String.toList_inj, htext]
        simp
      rcases List.mem_cons.1 h with rfl | h
      · exact ⟨hfull, String.ofList rest, hpackage⟩
      · obtain ⟨houter, inner, hinner⟩ := ih h
        refine ⟨houter, inner ++ "." ++ String.ofList rest, ?_⟩
        rw [hpackage, hinner]
        simp only [String.append_assoc]

/-- A module lies in each of the packages around it. -/
theorem liesIn_of_mem_around {name : Name} {package : String} (h : package ∈ around name) :
    name.LiesIn package := by
  rcases List.mem_cons.1 h with rfl | h
  · exact Or.inl rfl
  · exact Or.inr (exists_of_mem_enclosing h)

theorem enclosing_eq_nil {package : String} (h : Name.package package = "") :
    enclosing package = [] := by
  rw [enclosing, dif_pos h]

end Name

namespace Assertions

/-! ## Packages that are asked -/

theorem above_of_none {cs : List Char} (h : (beforeLast? '.' cs).getD [] = []) :
    above cs = [] := by
  rw [above]
  split
  · rfl
  · rfl
  · rename_i hlast
    rw [hlast] at h
    cases h

theorem above_of_some {cs front : List Char} (h : beforeLast? '.' cs = some front)
    (hne : front ≠ []) : above cs = front :: above front := by
  rw [above]
  split
  · rename_i hlast
    cases h.symm.trans hlast
  · rename_i hlast
    exact absurd (Option.some.inj (h.symm.trans hlast)) hne
  · rename_i hlast
    rw [Option.some.inj (h.symm.trans hlast)]

theorem package_ofList (cs : List Char) :
    Name.package (String.ofList cs) = String.ofList ((beforeLast? '.' cs).getD []) := by
  rw [← String.toList_inj, Name.toList_package, String.toList_ofList, String.toList_ofList]

/-- What is above a package are the packages around it. -/
theorem map_above (cs : List Char) :
    (above cs).map String.ofList = Name.enclosing (String.ofList cs) := by
  induction cs using above.induct with
  | case1 cs h =>
      rw [above_of_none (by rw [h]; rfl), Name.enclosing_eq_nil (by rw [package_ofList, h]; rfl)]
      rfl
  | case2 cs h =>
      rw [above_of_none (by rw [h]; rfl), Name.enclosing_eq_nil (by rw [package_ofList, h]; rfl)]
      rfl
  | case3 cs c front h ih =>
      have hpackage : Name.package (String.ofList cs) = String.ofList (c :: front) := by
        rw [package_ofList, h]
        rfl
      have hfull : Name.package (String.ofList cs) ≠ "" := by
        rw [hpackage, Ne, String.ofList_eq_empty_iff]
        exact List.cons_ne_nil c front
      rw [above_of_some h (List.cons_ne_nil c front), Name.enclosing, dif_neg hfull, hpackage,
        List.map_cons, ih]

/-- The packages that are asked are those around the module, unless its only separator stands
in front of its name. -/
theorem packagesOf_eq (name : Name) :
    packagesOf name =
      if '.' ∈ name.toList ∧ Name.package name = "" then [] else Name.around name := by
  have habove : (above name.toList).map String.ofList = Name.enclosing name := by
    rw [map_above, String.ofList_toList]
  unfold packagesOf
  by_cases hdot : '.' ∈ name.toList
  · rw [if_pos (List.contains_iff_mem.2 hdot), habove]
    by_cases hempty : Name.package name = ""
    · rw [if_pos ⟨hdot, hempty⟩, Name.enclosing_eq_nil hempty]
    · rw [if_neg fun h => hempty h.2, Name.around, Name.enclosing, dif_neg hempty]
  · have hempty : Name.package name = "" := by
      rw [← String.toList_eq_nil_iff, Name.toList_package, beforeLast?_eq_none_iff.2 hdot]
      rfl
    rw [if_neg fun h => hdot (List.contains_iff_mem.1 h), if_neg fun h => hdot h.1, Name.around,
      hempty, Name.enclosing_eq_nil rfl]

/-- Each package that is asked takes a separator of its own. -/
theorem length_above_le (cs : List Char) : (above cs).length ≤ cs.count '.' := by
  induction cs using above.induct with
  | case1 cs h =>
      rw [above_of_none (by rw [h]; rfl)]
      exact Nat.zero_le _
  | case2 cs h =>
      rw [above_of_none (by rw [h]; rfl)]
      exact Nat.zero_le _
  | case3 cs c front h ih =>
      obtain ⟨rest, -, hcs⟩ := beforeLast?_eq_some_iff.1 h
      rw [above_of_some h (List.cons_ne_nil c front), List.length_cons, hcs, List.count_append,
        List.count_cons_self]
      omega

theorem length_packagesOf_le (name : Name) :
    (packagesOf name).length ≤ max 1 (name.toList.count '.') := by
  unfold packagesOf
  split
  · rw [List.length_map]
    exact Nat.le_trans (length_above_le _) (Nat.le_max_right ..)
  · exact Nat.le_max_left ..

/-! ## Histories of changes -/

/-- A change of the settings. -/
inductive Setting where
  /-- What holds where no entry speaks is set. -/
  | setDefault (enabled : Bool)
  /-- The entry of a package is set. -/
  | setPackage (package : String) (enabled : Bool)
  /-- The entry of a module is set. -/
  | setModule (name : Name) (enabled : Bool)
  /-- Everything is cleared. -/
  | clear
  deriving Repr, DecidableEq

namespace Setting

/-- Makes the change. -/
def apply (t : Assertions) : Setting → Assertions
  | setDefault enabled => t.setDefault enabled
  | setPackage package enabled => t.setPackage package enabled
  | setModule name enabled => t.setModule name enabled
  | clear => t.clear

/-- What the change tells about the entry of a package. -/
def ofPackage (package : String) : Setting → Option Bool
  | setPackage p enabled => if package = p then some enabled else none
  | _ => none

/-- What the change tells about the entry of a module. -/
def ofModule (name : Name) : Setting → Option Bool
  | setModule n enabled => if name = n then some enabled else none
  | _ => none

end Setting

/-- What the latest change tells that tells anything, as long as nothing was cleared since.  The
latest change comes first. -/
def latest? (tells : Setting → Option Bool) : List Setting → Option Bool
  | [] => none
  | .clear :: _ => none
  | change :: earlier => (tells change).or (latest? tells earlier)

/-- The default that a history leaves: the one that was set last, and none after a clearing. -/
def defaultOf (enabled : Bool) : List Setting → Bool
  | [] => enabled
  | .clear :: _ => false
  | .setDefault b :: _ => b
  | _ :: earlier => defaultOf enabled earlier

/-- The table that a history leaves, the latest change coming first. -/
def reached (enabled : Bool) : List Setting → Assertions
  | [] => { byDefault := enabled }
  | change :: earlier => change.apply (reached enabled earlier)

section Histories

variable (enabled : Bool) (history : List Setting)

theorem latest?_cons (tells : Setting → Option Bool) {change : Setting} (h : change ≠ .clear) :
    latest? tells (change :: history) = (tells change).or (latest? tells history) := by
  cases change with
  | clear => exact absurd rfl h
  | setDefault b => rfl
  | setPackage p b => rfl
  | setModule n b => rfl

/-- What becomes of the entry of a package with one change. -/
theorem find?_packages_apply {change : Setting} (h : change ≠ .clear) (t : Assertions)
    (package : String) : (change.apply t).packages.find? package =
      (Setting.ofPackage package change).or (t.packages.find? package) := by
  cases change with
  | clear => exact absurd rfl h
  | setDefault b => rfl
  | setModule n b => rfl
  | setPackage p b =>
      refine (Table.find?_set t.packages p package b).trans ?_
      rw [Setting.ofPackage]
      split <;> rfl

/-- What becomes of the entry of a module with one change. -/
theorem find?_modules_apply {change : Setting} (h : change ≠ .clear) (t : Assertions)
    (name : Name) : (change.apply t).modules.find? name =
      (Setting.ofModule name change).or (t.modules.find? name) := by
  cases change with
  | clear => exact absurd rfl h
  | setDefault b => rfl
  | setPackage p b => rfl
  | setModule n b =>
      refine (Table.find?_set t.modules n name b).trans ?_
      rw [Setting.ofModule]
      split <;> rfl

/-- An entry that is not there at first, and that each change makes what it tells, is what the
latest change told. -/
theorem entry_reached (entry : Assertions → Option Bool) {tells : Setting → Option Bool}
    (hfresh : ∀ b, entry { byDefault := b } = none)
    (hstep : ∀ {change : Setting}, change ≠ .clear → ∀ t,
      entry (change.apply t) = (tells change).or (entry t)) :
    entry (reached enabled history) = latest? tells history := by
  induction history with
  | nil => exact hfresh enabled
  | cons change earlier ih =>
      by_cases hclear : change = .clear
      · subst hclear
        exact hfresh false
      · rw [latest?_cons earlier tells hclear, ← ih]
        exact hstep hclear (reached enabled earlier)

theorem find?_packages_reached (package : String) :
    (reached enabled history).packages.find? package =
      latest? (Setting.ofPackage package) history :=
  entry_reached enabled history (fun t => t.packages.find? package) (fun _ => rfl) fun h t =>
    find?_packages_apply h t package

theorem find?_modules_reached (name : Name) :
    (reached enabled history).modules.find? name = latest? (Setting.ofModule name) history :=
  entry_reached enabled history (fun t => t.modules.find? name) (fun _ => rfl) fun h t =>
    find?_modules_apply h t name

theorem byDefault_reached : (reached enabled history).byDefault = defaultOf enabled history := by
  induction history with
  | nil => rfl
  | cons change earlier ih =>
      cases change with
      | clear => rfl
      | setDefault b => rfl
      | setPackage p b => exact ih
      | setModule n b => exact ih

end Histories

/-! ## The setting that speaks -/

/-- The setting that speaks for a module where only some packages are asked: its own entry, else
that of the first of these packages that has one, else the default. -/
def spoken (enabled : Bool) (history : List Setting) (name : Name) (packages : List String) :
    Bool :=
  ((latest? (Setting.ofModule name) history).or
    (packages.findSome? fun p => latest? (Setting.ofPackage p) history)).getD
      (defaultOf enabled history)

/-- The status that is due to a module: its own entry, else the entry of the nearest package
around it that has one, else the default. -/
def due (enabled : Bool) (history : List Setting) (name : Name) : Bool :=
  spoken enabled history name (Name.around name)

section Spoken

variable {enabled : Bool} {history : List Setting} {name : Name}

theorem status_reached : (reached enabled history).status name =
    spoken enabled history name (packagesOf name) := by
  have hpackages : (reached enabled history).packages.find? =
      fun p => latest? (Setting.ofPackage p) history :=
    funext fun p => find?_packages_reached enabled history p
  unfold status spoken
  rw [find?_modules_reached, byDefault_reached, hpackages]
  cases latest? (Setting.ofModule name) history <;> rfl

/-- A package that is not asked does not speak. -/
theorem spoken_setPackage_of_notMem {package : String} {packages : List String}
    (h : package ∉ packages) (b : Bool) :
    spoken enabled (.setPackage package b :: history) name packages =
      spoken enabled history name packages := by
  have hpackages : ∀ l : List String, package ∉ l →
      (l.findSome? fun p => latest? (Setting.ofPackage p) (.setPackage package b :: history)) =
        l.findSome? fun p => latest? (Setting.ofPackage p) history := by
    intro l hl
    induction l with
    | nil => rfl
    | cons p rest ih =>
        obtain ⟨hne, hrest⟩ := List.ne_and_not_mem_of_not_mem_cons hl
        have hentry : latest? (Setting.ofPackage p) (.setPackage package b :: history) =
            latest? (Setting.ofPackage p) history := by
          have hset : Setting.setPackage package b ≠ .clear := nofun
          rw [latest?_cons history _ hset, Setting.ofPackage, if_neg (Ne.symm hne), Option.none_or]
        rw [List.findSome?_cons, List.findSome?_cons, hentry, ih hrest]
  unfold spoken
  rw [hpackages packages h]
  rfl

/-- Where its only separator stands in front of a name, the entry of the default package is
due but not asked. -/
theorem spoken_packagesOf_eq_due_iff (hdot : '.' ∈ name.toList) (hempty : Name.package name = "") :
    spoken enabled history name (packagesOf name) = due enabled history name ↔
      (latest? (Setting.ofModule name) history = none →
        ∀ b, latest? (Setting.ofPackage "") history = some b →
          b = defaultOf enabled history) := by
  have hasked : packagesOf name = [] := by rw [packagesOf_eq, if_pos ⟨hdot, hempty⟩]
  have haround : Name.around name = [""] := by
    rw [Name.around, hempty, Name.enclosing_eq_nil rfl]
  unfold due spoken
  rw [hasked, haround]
  cases latest? (Setting.ofModule name) history with
  | some b => simp
  | none =>
      cases hentry : latest? (Setting.ofPackage "") history with
      | none => simp [hentry]
      | some b => simpa [hentry] using eq_comm

end Spoken

/-- After any history, the status of a module is the one that is due to it, unless its only
separator stands in front of its name, it has no entry of its own, and the entry of the default
package is other than the default.  Finding it takes no more packages than the name has
separators, or one.  An entry of a package changes the status of nothing but the modules that
lie in it. -/
theorem status_reached_iff (enabled : Bool) (history : List Setting) (name : Name) :
    ((reached enabled history).status name = due enabled history name ↔
      ('.' ∈ name.toList → Name.package name = "" →
        latest? (Setting.ofModule name) history = none →
        ∀ b, latest? (Setting.ofPackage "") history = some b →
          b = defaultOf enabled history)) ∧
    (packagesOf name).length ≤ max 1 (name.toList.count '.') ∧
    ∀ package b, (reached enabled (.setPackage package b :: history)).status name ≠
      (reached enabled history).status name → name.LiesIn package := by
  refine ⟨?_, length_packagesOf_le name, fun package b hchanged => ?_⟩
  · rw [status_reached]
    by_cases hfront : '.' ∈ name.toList ∧ Name.package name = ""
    · rw [spoken_packagesOf_eq_due_iff hfront.1 hfront.2]
      exact ⟨fun h _ _ => h, fun h => h hfront.1 hfront.2⟩
    · have hasked : packagesOf name = Name.around name := by rw [packagesOf_eq, if_neg hfront]
      rw [hasked, due]
      exact iff_of_true rfl fun hdot hempty => absurd ⟨hdot, hempty⟩ hfront
  · have hasked : package ∈ packagesOf name := by
      by_contra hnotasked
      rw [status_reached, status_reached] at hchanged
      exact hchanged (spoken_setPackage_of_notMem hnotasked b)
    rw [packagesOf_eq] at hasked
    split at hasked
    · cases hasked
    · exact Name.liesIn_of_mem_around hasked

/-- Once the default package is turned on, a module of it runs with assertions, unless its name
begins with a separator. -/
theorem status_reached_leading :
    (reached false [.setPackage "" true]).status "X" = true ∧
      (reached false [.setPackage "" true]).status ".X" ≠
        due false [.setPackage "" true] ".X" := by
  obtain ⟨hplain, -⟩ := status_reached_iff false [.setPackage "" true] "X"
  obtain ⟨hleading, -⟩ := status_reached_iff false [.setPackage "" true] ".X"
  have hdue : due false [.setPackage "" true] "X" = true := by
    have hempty : Name.package "X" = "" := by decide
    rw [due, Name.around, hempty, Name.enclosing_eq_nil rfl]
    rfl
  refine ⟨?_, fun h => ?_⟩
  · rw [← hdue]
    exact hplain.2 fun hdot => absurd hdot (by decide)
  · exact absurd (hleading.1 h (by decide) (by decide) rfl true rfl) (by decide)

end Assertions

end Loading
