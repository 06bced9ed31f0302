import Loading.Loader.Directory
import Loading.Proofs.Paths

/-!
# Where resources lie

The name of a resource is read as a path from which separators in front are taken, and it
is followed component by component, as long as none leads up.  What is left are the segments
of the name, and nothing else about it matters: a resource never lies outside the roots.

* `foldlM_descend` — following components that come from segments.
* `resourcePath?_eq` — the path of a resource, from the segments of its name.
* `resources_confined` — what is found, in which order, and where.
-/

namespace Loading

open Text Loading.Path

namespace Path

/-- The separators in front of a path are no segments. -/
theorem segments_trimTop (p : String) : segments (trimTop p) = segments p := by
  unfold segments trimTop
  rw [String.toList_ofList]
  induction p.toList with
  | nil => rfl
  | cons c rest ih =>
      by_cases hc : c = '/'
      · subst hc
        rw [List.dropWhile_cons_of_pos (by simp), ih]
        simp [pieces, isIdle]
      · rw [List.dropWhile_cons_of_neg (by simpa using hc)]

/-- Without the separators in front, a path does not start at the top. -/
theorem isAbsolute_trimTop (p : String) : isAbsolute (trimTop p) = false := by
  unfold isAbsolute isAbsoluteChars trimTop
  rw [String.toList_ofList]
  cases hrest : p.toList.dropWhile (· == '/') with
  | nil => rfl
  | cons c rest =>
      have hc := List.head?_dropWhile_not (· == '/') p.toList
      rw [hrest, List.head?_cons] at hc
      simpa using hc

/-- The segments of a path, put together again, say just these segments, if none leads up. -/
theorem components_intercalate {p : String} (hdown : ".." ∉ segments p) :
    components ("/".intercalate (segments p)) = (segments p).map Component.name := by
  have hnames := fun q => isName_of_mem_segments (p := q) hdown
  have htext := components_glue hnames
  rw [ofList_glue] at htext
  exact htext

/-- Segments that do not lead up are pushed as they are put together. -/
theorem ofSegments_segments {p : String} (hdown : ".." ∉ segments p) :
    ofSegments (segments p) = "/".intercalate (segments p) := by
  have htext := ofSegments_names fun q => isName_of_mem_segments (p := q) hdown
  rw [ofList_glue] at htext
  exact htext

theorem intercalate_segments_eq_empty_iff {p : String} (hdown : ".." ∉ segments p) :
    "/".intercalate (segments p) = "" ↔ segments p = [] := by
  refine ⟨fun hempty => ?_, fun hempty => by rw [hempty]; rfl⟩
  have hcomponents := components_intercalate hdown
  rw [hempty] at hcomponents
  exact List.map_eq_nil_iff.1 hcomponents.symm

end Path

namespace Directory

/-- Following segments leads below the start, unless one of them leads up. -/
theorem foldlM_descend (segments : List String) (path : String) :
    (segments.map Component.ofSegment).foldlM descend path =
      if ".." ∈ segments then none else some (segments.foldl Path.join path) := by
  induction segments generalizing path with
  | nil => rfl
  | cons s rest ih =>
      rw [List.map_cons, List.foldlM_cons]
      by_cases hs : s = ".."
      · subst hs
        rw [if_pos List.mem_cons_self]
        rfl
      · have hstep : descend path (Component.ofSegment s) = some (Path.join path s) := by
          rw [Component.ofSegment, if_neg hs]
          rfl
        rw [hstep, Option.bind_eq_bind, Option.bind_some, ih, List.foldl_cons]
        simp [Ne.symm hs]

/-- Where a resource lies below a root, from the segments of its name. -/
theorem resourcePath?_eq (name : String) :
    resourcePath? name =
      if segments name = [] ∨ ".." ∈ segments name then none
      else some ("/".intercalate (segments name)) := by
  have horigin : (origin (trimTop name)).foldlM descend "" = some "" := by
    unfold origin
    rw [isAbsolute_trimTop, if_neg Bool.false_ne_true]
    split <;> rfl
  unfold resourcePath? components
  rw [List.foldlM_append, horigin, Option.bind_eq_bind, Option.bind_some, segments_trimTop,
    foldlM_descend]
  by_cases hdown : ".." ∈ segments name
  · rw [if_pos hdown, if_pos (Or.inr hdown)]
    rfl
  · have hpush : (segments name).foldl Path.join "" = "/".intercalate (segments name) :=
      ofSegments_segments hdown
    rw [if_neg hdown, hpush]
    by_cases hempty : segments name = []
    · rw [if_pos (Or.inl hempty), hempty]
      rfl
    · have hfull : "/".intercalate (segments name) ≠ "" :=
        mt (intercalate_segments_eq_empty_iff hdown).1 hempty
      rw [if_neg (not_or.2 ⟨hempty, hdown⟩)]
      simp [Option.filter, hfull]

/-- Where a resource may lie, root by root, from the segments of its name. -/
theorem resourcePaths_eq (d : Directory) (name : String) :
    d.resourcePaths name =
      if segments name = [] ∨ ".." ∈ segments name then []
      else d.roots.map fun root => Path.join root ("/".intercalate (segments name)) := by
  unfold resourcePaths
  rw [resourcePath?_eq]
  by_cases hbad : segments name = [] ∨ ".." ∈ segments name
  · rw [if_pos hbad, if_pos hbad]
  · rw [if_neg hbad, if_neg hbad]

/-- The first file is the one that a search for a file comes to. -/
theorem resource_eq (d : Directory) (fs : FileSystem) (name : String) :
    d.resource fs name = (d.resourcePaths name).find? fs.isFile :=
  List.head?_filter

/-- The name of a resource is admissible if it has segments and none of them leads up.  With
any other name nothing is found.  With an admissible one the files are found that lie where
the segments lead from a root, in the order of the roots, and the first of them where one is
asked for.  So whatever is found lies below a root, as far below it as the segments say, and
names with the same segments find the same. -/
theorem resources_confined (d : Directory) (fs : FileSystem) (name : String) :
    ((resourcePath? name).isSome ↔ segments name ≠ [] ∧ ".." ∉ segments name) ∧
    (resourcePath? name = none → d.resources fs name = [] ∧ d.resource fs name = none) ∧
    ((resourcePath? name).isSome →
      d.resources fs name = (d.roots.map fun root =>
        Path.join root ("/".intercalate (segments name))).filter fs.isFile ∧
      d.resource fs name = (d.roots.map fun root =>
        Path.join root ("/".intercalate (segments name))).find? fs.isFile) ∧
    (∀ path ∈ d.resources fs name, ∃ root ∈ d.roots,
      components path = components root ++ (segments name).map Component.name) ∧
    ∀ name', segments name' = segments name →
      d.resources fs name' = d.resources fs name ∧ d.resource fs name' = d.resource fs name := by
  have hadmissible : (resourcePath? name).isSome ↔
      segments name ≠ [] ∧ ".." ∉ segments name := by
    rw [resourcePath?_eq, ← not_or]
    split <;> simp [*]
  refine ⟨hadmissible, fun hnone => ?_, fun hsome => ?_, fun path hpath => ?_,
    fun name' hsame => ?_⟩
  · rw [resource_eq]
    unfold resources resourcePaths
    rw [hnone]
    exact ⟨rfl, rfl⟩
  · have hpaths := d.resourcePaths_eq name
    rw [if_neg (not_or.2 (hadmissible.1 hsome))] at hpaths
    rw [resource_eq]
    unfold resources
    rw [hpaths]
    exact ⟨rfl, rfl⟩
  · have hmem : path ∈ d.resourcePaths name := List.mem_of_mem_filter hpath
    rw [resourcePaths_eq] at hmem
    split at hmem
    · cases hmem
    · rename_i hgood
      obtain ⟨root, hroot, rfl⟩ := List.mem_map.1 hmem
      have hnames := components_intercalate (not_or.1 hgood).2
      exact ⟨root, hroot, by rw [components_join (origin_of_names hnames), hnames]⟩
  · have hpaths : d.resourcePaths name' = d.resourcePaths name := by
      rw [resourcePaths_eq, resourcePaths_eq, hsame]
    rw [resource_eq, resource_eq]
    unfold resources
    rw [hpaths]
    exact ⟨rfl, rfl⟩

/-! ## Two roots and what lies beside them -/

/-- Two roots with a file of the same name, and a file that lies beside the first root. -/
def twoRoots : FileSystem where
  look path :=
    if path = "low/a/b" ∨ path = "top/./a/b" ∨ path = "low/../b" then .ok (.file [] none)
    else .error .notFound
  canonical := some

/-- The file beside the first root is not found, and those in the roots are found in their
order, under each name that has their segments. -/
theorem resources_confined_twoRoots :
    (Directory.mk ["low", "top/."] none).resources twoRoots "//./a//b/." =
        ["low/a/b", "top/./a/b"] ∧
      (Directory.mk ["low", "top/."] none).resource twoRoots "a/b" = some "low/a/b" ∧
      (Directory.mk ["low", "top/."] none).resources twoRoots "a/../../b" = [] := by
  have hconfined := resources_confined ⟨["low", "top/."], none⟩ twoRoots
  obtain ⟨hgaps, -, hfiles, -, hsame⟩ := hconfined "//./a//b/."
  obtain ⟨hup, hnothing, -⟩ := hconfined "a/../../b"
  have hfound := hfiles (hgaps.2 (by decide))
  refine ⟨hfound.1, ?_, (hnothing ?_).1⟩
  · rw [(hsame "a/b" (by decide)).2, hfound.2]
    rfl
  · rw [← Option.not_isSome_iff_eq_none, hup]
    decide

end Directory

end Loading
