import Loading.Loader.Directory
import Loading.Proofs.Paths

/-!
# Where modules lie

A module lies at a path that is made of the parts of its name.  Separators at the front, at
the end and next to each other do not count, so that every name leads to one file below a
root, and two names lead to the same file just when their parts are the same.

* `Name.parts` — the parts of a name.
* `toList_modulePath` — the text of the path, as it is put together.
* `components_modulePath` — the path consists of names.
* `modulePath_predictable` — which path it is, where it leads, and who else it belongs to.
-/

namespace Loading

open Text

/-- The parts of a name: what stands between its separators, if anything. -/
def Name.parts (name : Name) : List String :=
  (Text.split '.' name).filter (· ≠ "")

/-- The parts of a name, as lists of characters. -/
def Name.partsChars (name : Name) : List (List Char) :=
  (pieces '.' name.toList).filter (· ≠ [])

namespace Name

variable {name name' : Name}

theorem parts_eq (name : Name) : name.parts = name.partsChars.map String.ofList := by
  unfold parts partsChars split
  rw [List.filter_map]
  refine congrArg (List.map String.ofList) (List.filter_congr fun p _ => ?_)
  rw [Function.comp_apply, decide_eq_decide, Ne, String.ofList_eq_empty_iff]

theorem parts_eq_nil_iff : name.parts = [] ↔ name.partsChars = [] := by
  rw [parts_eq, List.map_eq_nil_iff]

theorem parts_inj : name.parts = name'.parts ↔ name.partsChars = name'.partsChars := by
  rw [parts_eq, parts_eq]
  exact List.map_inj_right fun _ _ => String.ofList_injective

/-- A name without empty parts is read off from its parts. -/
theorem eq_of_parts_eq (h : "" ∉ Text.split '.' name) (h' : "" ∉ Text.split '.' name')
    (heq : name.parts = name'.parts) : name = name' := by
  have hall : ∀ {n : Name}, "" ∉ Text.split '.' n → n.parts = Text.split '.' n := fun hn =>
    List.filter_eq_self.2 fun _ hs => decide_eq_true fun hempty => hn (hempty ▸ hs)
  rw [hall h, hall h'] at heq
  have hpieces : pieces '.' name.toList = pieces '.' name'.toList :=
    (List.map_inj_right fun _ _ => String.ofList_injective).1 heq
  rw [← String.toList_inj, ← glue_pieces '.' name.toList, hpieces, glue_pieces]

/-- A part has characters, and no separator, neither that of names nor that of paths. -/
theorem mem_partsChars {p : List Char} (h : NameRules.hasPathSeparator name = false)
    (hp : p ∈ name.partsChars) : p ≠ [] ∧ '.' ∉ p ∧ '/' ∉ p := by
  obtain ⟨hp, hne⟩ := List.mem_filter.1 hp
  have hslash : '/' ∉ name.toList := by simpa [NameRules.hasPathSeparator] using h
  exact ⟨of_decide_eq_true hne, sep_not_mem_pieces '.' _ p hp,
    fun hc => hslash (mem_of_mem_pieces hp hc)⟩

end Name

/-- A name that may be looked up holds no separator of paths. -/
theorem NameRules.hasPathSeparator_of_isWellFormed {rules : NameRules} {name : Name}
    (h : rules.isWellFormed name = true) : hasPathSeparator name = false := by
  unfold isWellFormed at h
  simp only [Bool.and_eq_true, Bool.not_eq_true'] at h
  exact h.1.2

namespace Directory

open Loading.Path

variable {name : Name}

/-- The text of the path: the parts, put together, with the extension behind the last one. -/
theorem toList_modulePath (h : NameRules.hasPathSeparator name = false) :
    (modulePath name).toList =
      if name.partsChars = [] then [] else glue '/' name.partsChars ++ ".class".toList := by
  have hsingle : ∀ p ∈ pieces '.' name.toList, '/' ∉ p := by
    intro p hp hslash
    have hmem := mem_of_mem_pieces hp hslash
    simp [NameRules.hasPathSeparator, hmem] at h
  obtain ⟨closing, htext, hclosing⟩ := foldl_push hsingle
  unfold modulePath withExtension Text.split
  rw [String.toList_ofList, toList_ofSegments, htext, ← Name.partsChars]
  by_cases hempty : name.partsChars = []
  · obtain rfl := hclosing.resolve_right fun hclosed => hclosed.2.1 hempty
    rw [hempty]
    rfl
  · obtain ⟨front, last, hparts⟩ : ∃ front last, name.partsChars = front ++ [last] :=
      ⟨_, _, (List.dropLast_append_getLast hempty).symm⟩
    have hmem : ∀ p ∈ front ++ [last], p ≠ [] ∧ '.' ∉ p ∧ '/' ∉ p :=
      fun p hp => Name.mem_partsChars h (hparts ▸ hp)
    obtain ⟨hne, hdot, hslash⟩ := hmem last (by simp)
    rw [if_neg hempty, hparts]
    exact setExtension_glue (isName_of_notMem_dot hne hdot hslash) hdot
      (fun p hp => (hmem p (List.mem_append_left [last] hp)).2.2) extension.toList
      (hclosing.imp_right And.left)

/-- The path is put together from names. -/
theorem modulePath_names (h : NameRules.hasPathSeparator name = false) :
    ∃ names, (∀ p ∈ names, IsName p) ∧ (modulePath name).toList = glue '/' names := by
  rw [toList_modulePath h]
  by_cases hempty : name.partsChars = []
  · exact ⟨[], nofun, if_pos hempty⟩
  · obtain ⟨front, last, hparts⟩ : ∃ front last, name.partsChars = front ++ [last] :=
      ⟨_, _, (List.dropLast_append_getLast hempty).symm⟩
    rw [if_neg hempty, hparts]
    refine ⟨front ++ [last ++ ".class".toList], fun p hp => ?_, (glue_concat_append ..).symm⟩
    have hmem : ∀ p ∈ front ++ [last], p ≠ [] ∧ '.' ∉ p ∧ '/' ∉ p :=
      fun p hp => Name.mem_partsChars h (hparts ▸ hp)
    rcases List.mem_append.1 hp with hp | hp
    · obtain ⟨hne, hdot, hslash⟩ := hmem p (List.mem_append_left [last] hp)
      exact isName_of_notMem_dot hne hdot hslash
    · obtain rfl := List.mem_singleton.1 hp
      obtain ⟨-, -, hslash⟩ := hmem last (by simp)
      exact isName_of_mem (c := 'c') (by simpa using hslash) (by simp) (by decide)

/-- The path is made of the parts of the name. -/
theorem modulePath_eq (h : NameRules.hasPathSeparator name = false) :
    modulePath name =
      if name.parts = [] then "" else "/".intercalate name.parts ++ ".class" := by
  rw [← String.toList_inj, toList_modulePath h]
  by_cases hempty : name.partsChars = []
  · rw [if_pos hempty, if_pos (Name.parts_eq_nil_iff.2 hempty)]
    rfl
  · rw [if_neg hempty, if_neg (mt Name.parts_eq_nil_iff.1 hempty), String.toList_append,
      Name.parts_eq]
    have hglue : ("/".intercalate (name.partsChars.map String.ofList)).toList =
        glue '/' name.partsChars := by
      rw [← String.toList_ofList (l := glue '/' name.partsChars), ofList_glue]
      rfl
    rw [hglue]

/-- Only names with the same parts lie at the same path. -/
theorem parts_eq_of_modulePath_eq {name' : Name} (h : NameRules.hasPathSeparator name = false)
    (h' : NameRules.hasPathSeparator name' = false) (heq : modulePath name = modulePath name') :
    name.parts = name'.parts := by
  have htext := congrArg String.toList heq
  rw [toList_modulePath h, toList_modulePath h'] at htext
  rw [Name.parts_inj]
  have hpieces : ∀ {n : Name}, NameRules.hasPathSeparator n = false → n.partsChars ≠ [] →
      pieces '/' (glue '/' n.partsChars) = n.partsChars := fun hn hne =>
    pieces_glue hne fun p hp => (Name.mem_partsChars hn hp).2.2
  by_cases hempty : name.partsChars = [] <;> by_cases hempty' : name'.partsChars = []
  · rw [hempty, hempty']
  · rw [if_pos hempty, if_neg hempty'] at htext
    simp at htext
  · rw [if_neg hempty, if_pos hempty'] at htext
    simp at htext
  · rw [if_neg hempty, if_neg hempty'] at htext
    rw [← hpieces h hempty, List.append_cancel_right htext, hpieces h' hempty']

/-- A name that may be looked up holds no separator of paths, and a module of such a name
lies at a path of its own making: the parts of the name, with the extension behind the last
one, or nothing where there are no parts.  The path is relative and leads neither up nor
nowhere, so that it lies below every root.  It is the path of those names alone whose parts
are the same, and of names without empty parts, of that name alone. -/
theorem modulePath_predictable :
    (∀ (rules : NameRules) (name : Name), rules.isWellFormed name = true →
      NameRules.hasPathSeparator name = false) ∧
    ∀ name : Name, NameRules.hasPathSeparator name = false →
      (modulePath name =
        if name.parts = [] then "" else "/".intercalate name.parts ++ ".class") ∧
      isAbsolute (modulePath name) = false ∧
      (∀ segment ∈ Text.split '/' (modulePath name), segment ≠ "." ∧ segment ≠ "..") ∧
      (∀ root, Below root (Path.join root (modulePath name))) ∧
      ∀ name' : Name, NameRules.hasPathSeparator name' = false →
        (modulePath name = modulePath name' ↔ name.parts = name'.parts) ∧
        ("" ∉ Text.split '.' name → "" ∉ Text.split '.' name' →
          modulePath name = modulePath name' → name = name') := by
  refine ⟨fun _ _ => NameRules.hasPathSeparator_of_isWellFormed, fun name h => ?_⟩
  obtain ⟨names, hnames, htext⟩ := modulePath_names h
  have hcomponents : components (modulePath name) =
      (names.map String.ofList).map Component.name := by
    rw [← components_glue hnames, ← htext, String.ofList_toList]
  refine ⟨modulePath_eq h, isAbsolute_of_origin (origin_of_names hcomponents), ?_,
    below_join hcomponents, fun name' h' => ?_⟩
  · intro segment hsegment
    obtain ⟨p, hp, rfl⟩ := List.mem_map.1 hsegment
    rw [htext] at hp
    by_cases hempty : names = []
    · subst hempty
      obtain rfl := List.mem_singleton.1 hp
      decide
    · rw [pieces_glue hempty fun q hq => (hnames q hq).single] at hp
      exact (hnames p hp).ofList_ne
  · have hiff : modulePath name = modulePath name' ↔ name.parts = name'.parts := by
      refine ⟨parts_eq_of_modulePath_eq h h', fun hparts => ?_⟩
      rw [modulePath_eq h, modulePath_eq h', hparts]
    exact ⟨hiff, fun hfull hfull' heq => Name.eq_of_parts_eq hfull hfull' (hiff.1 heq)⟩

/-- Separators with nothing between them lead to no other place, and separators alone to
none. -/
theorem modulePath_predictable_gaps :
    modulePath ".a..b.C." = "a/b/C.class" ∧
      modulePath ".a..b.C." = modulePath "a.b.C" ∧
      Below "/srv/../lib/" (Path.join "/srv/../lib/" (modulePath ".a..b.C.")) ∧
      modulePath ".." = "" := by
  have hwell : ∀ {name : Name}, ({} : NameRules).isWellFormed name = true →
      NameRules.hasPathSeparator name = false := fun h => modulePath_predictable.1 {} _ h
  have hgaps : NameRules.hasPathSeparator ".a..b.C." = false := hwell (by decide)
  have hplain : NameRules.hasPathSeparator "a.b.C" = false := hwell (by decide)
  obtain ⟨htext, -, -, hbelow, hsame⟩ := modulePath_predictable.2 ".a..b.C." hgaps
  obtain ⟨hempty, -⟩ := modulePath_predictable.2 ".." (hwell (by decide))
  exact ⟨htext, (hsame "a.b.C" hplain).1.2 (by decide), hbelow "/srv/../lib/", hempty⟩

end Directory

end Loading
