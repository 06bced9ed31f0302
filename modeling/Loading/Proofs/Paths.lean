import Loading.Path
import Loading.Proofs.Pieces
import Mathlib.Data.List.Induction

/-!
# Paths put together

What a path says is kept when it is joined to another one: the joined path says what the
first one says, and then what the second one says.  So a path that consists of names
lies below every place that it is joined to.

* `foldl_push` — the text of segments that are pushed one below the other.
* `setExtension_glue` — the text with the extension of its last name.
* `components_glue` — what names that are put together say.
* `components_join`, `below_join` — what a joined path says.
-/

namespace Loading.Path

open Text

/-! ## Pushing -/

section Push

variable {base rel : List Char}

theorem isAbsoluteChars_eq_false (h : '/' ∉ rel) : isAbsoluteChars rel = false := by
  unfold isAbsoluteChars
  cases rel with
  | nil => rfl
  | cons c rest =>
      rw [List.head?_cons, beq_eq_false_iff_ne, Ne, Option.some.injEq]
      exact (List.ne_and_not_mem_of_not_mem_cons h).1.symm

theorem push_nil_left (rel : List Char) : push [] rel = rel := by
  simp [push]

/-- A base that ends in a separator needs no other one. -/
theorem push_closed (base : List Char) (h : isAbsoluteChars rel = false) :
    push (base ++ ['/']) rel = base ++ '/' :: rel := by
  simp [push, h]

/-- A base that does not is followed by one. -/
theorem push_open (hbase : base ≠ []) (hopen : base.getLast? ≠ some '/')
    (h : isAbsoluteChars rel = false) : push base rel = base ++ '/' :: rel := by
  simp [push, h, hbase, hopen]

/-- What is pushed below a base comes behind one separator that follows it. -/
theorem push_cases (hbase : base ≠ []) (h : isAbsoluteChars rel = false) :
    ∃ front, (base = front ∨ base = front ++ ['/']) ∧ push base rel = front ++ '/' :: rel := by
  by_cases hlast : base.getLast? = some '/'
  · obtain ⟨front, rfl⟩ := List.getLast?_eq_some_iff.1 hlast
    exact ⟨front, Or.inr rfl, push_closed front h⟩
  · exact ⟨base, Or.inl rfl, push_open hbase hlast h⟩

/-- A text put together from names does not end in a separator. -/
theorem glue_open {names : List (List Char)} (hne : names ≠ [])
    (h : ∀ p ∈ names, p ≠ [] ∧ '/' ∉ p) :
    glue '/' names ≠ [] ∧ (glue '/' names).getLast? ≠ some '/' := by
  obtain ⟨front, last, rfl⟩ : ∃ front last, names = front ++ [last] :=
    ⟨_, _, (List.dropLast_append_getLast hne).symm⟩
  obtain ⟨hlast, hslash⟩ := h last (List.mem_append_right front (List.mem_singleton_self last))
  have hend : (glue '/' (front ++ [last])).getLast? = last.getLast? :=
    getLast?_glue_concat front hlast
  refine ⟨fun hnil => ?_, fun hclosed => ?_⟩
  · rw [hnil, List.getLast?_nil] at hend
    exact hlast (List.getLast?_eq_none_iff.1 hend.symm)
  · rw [hend] at hclosed
    exact hslash (List.mem_of_getLast? hclosed)

/-- Segments pushed one below the other are put together without the empty ones, but for a
separator that an empty last one leaves behind. -/
theorem foldl_push {ps : List (List Char)} (h : ∀ p ∈ ps, '/' ∉ p) :
    ∃ closing, ps.foldl push [] = glue '/' (ps.filter (· ≠ [])) ++ closing ∧
      (closing = [] ∨
        closing = ['/'] ∧ ps.filter (· ≠ []) ≠ [] ∧ ps.getLast? = some []) := by
  induction ps using List.reverseRecOn with
  | nil => exact ⟨[], rfl, Or.inl rfl⟩
  | append_singleton ps p ih =>
      have hp : isAbsoluteChars p = false := isAbsoluteChars_eq_false (h p (by simp))
      have hnames : ∀ q ∈ ps.filter (· ≠ []), q ≠ [] ∧ '/' ∉ q := by
        intro q hq
        obtain ⟨hmem, hne⟩ := List.mem_filter.1 hq
        exact ⟨of_decide_eq_true hne, h q (List.mem_append_left [p] hmem)⟩
      obtain ⟨closing, htext, hclosing⟩ := ih fun q hq => h q (List.mem_append_left [p] hq)
      rw [List.foldl_append, List.foldl_cons, List.foldl_nil, List.filter_append,
        List.getLast?_concat, htext]
      generalize ps.filter (· ≠ []) = names at hclosing hnames
      by_cases hempty : p = []
      · subst hempty
        rw [List.filter_cons_of_neg (by simp), List.filter_nil, List.append_nil]
        rcases hclosing with rfl | ⟨rfl, hne, -⟩
        · rw [List.append_nil]
          by_cases hne : names = []
          · subst hne
            exact ⟨[], rfl, Or.inl rfl⟩
          · obtain ⟨htaken, hopen⟩ := glue_open hne hnames
            exact ⟨['/'], push_open htaken hopen hp, Or.inr ⟨rfl, hne, rfl⟩⟩
        · exact ⟨['/'], push_closed _ hp, Or.inr ⟨rfl, hne, rfl⟩⟩
      · refine ⟨[], ?_, Or.inl rfl⟩
        rw [List.filter_cons_of_pos (by simpa using hempty), List.filter_nil, List.append_nil]
        rcases hclosing with rfl | ⟨rfl, hne, -⟩
        · rw [List.append_nil]
          by_cases hne : names = []
          · subst hne
            exact push_nil_left p
          · obtain ⟨htaken, hopen⟩ := glue_open hne hnames
            rw [push_open htaken hopen hp, glue_concat hne]
        · rw [push_closed _ hp, glue_concat hne]

end Push

theorem toList_ofSegments (ps : List (List Char)) :
    (ofSegments (ps.map String.ofList)).toList = ps.foldl push [] := by
  unfold ofSegments
  induction ps using List.reverseRecOn with
  | nil => rfl
  | append_singleton ps p ih =>
      rw [List.map_append, List.foldl_append, List.foldl_append, List.map_cons, List.map_nil,
        List.foldl_cons, List.foldl_nil, List.foldl_cons, List.foldl_nil, ← ih]
      unfold join
      rw [String.toList_ofList, String.toList_ofList]

/-! ## Names in paths -/

/-- A segment that leads to a name in a directory. -/
structure IsName (p : List Char) : Prop where
  /-- It is one segment. -/
  single : '/' ∉ p
  /-- It leads away from where it stands. -/
  busy : isIdle p = false
  /-- It does not lead up. -/
  down : p ≠ ['.', '.']

theorem IsName.ne_nil {p : List Char} (h : IsName p) : p ≠ [] := by
  rintro rfl
  exact Bool.false_ne_true h.busy.symm

/-- No name is one of the segments that lead nowhere or up. -/
theorem IsName.ofList_ne {p : List Char} (h : IsName p) :
    String.ofList p ≠ "." ∧ String.ofList p ≠ ".." := by
  rw [Ne, Ne, ← String.toList_inj, ← String.toList_inj, String.toList_ofList]
  refine ⟨?_, h.down⟩
  rintro rfl
  exact Bool.false_ne_true h.busy.symm

/-- A segment is a name if it holds a character besides dots. -/
theorem isName_of_mem {p : List Char} {c : Char} (hsingle : '/' ∉ p) (hmem : c ∈ p)
    (hdot : c ≠ '.') : IsName p where
  single := hsingle
  busy := by
    have hnil : p ≠ [] := List.ne_nil_of_mem hmem
    have hone : p ≠ ['.'] := by
      rintro rfl
      exact hdot (List.mem_singleton.1 hmem)
    simp [isIdle, hnil, hone]
  down := by
    rintro rfl
    simp [hdot] at hmem

/-- A segment without a dot is a name, unless it is empty. -/
theorem isName_of_notMem_dot {p : List Char} (hne : p ≠ []) (hdot : '.' ∉ p)
    (hsingle : '/' ∉ p) : IsName p := by
  obtain ⟨c, hc⟩ := List.exists_mem_of_ne_nil p hne
  exact isName_of_mem hsingle hc fun heq => hdot (heq ▸ hc)

section Names

variable {ps : List (List Char)}

theorem filter_busy (h : ∀ p ∈ ps, IsName p) : (ps.filter fun p => !isIdle p) = ps :=
  List.filter_eq_self.2 fun p hp => by rw [(h p hp).busy, Bool.not_false]

/-- Names pushed one below the other are put together. -/
theorem ofSegments_names (h : ∀ p ∈ ps, IsName p) :
    ofSegments (ps.map String.ofList) = String.ofList (glue '/' ps) := by
  have hfull : ps.filter (· ≠ []) = ps :=
    List.filter_eq_self.2 fun p hp => decide_eq_true (h p hp).ne_nil
  obtain ⟨closing, htext, hclosing⟩ := foldl_push fun p hp => (h p hp).single
  rw [← String.toList_inj, toList_ofSegments, String.toList_ofList, htext, hfull]
  rcases hclosing with rfl | ⟨-, -, hlast⟩
  · rw [List.append_nil]
  · exact absurd rfl (h [] (List.mem_of_getLast? hlast)).ne_nil

/-- The segments of a path are names, if none leads up. -/
theorem isName_of_mem_segments {path : String} (hdown : ".." ∉ segments path) {p : List Char}
    (hp : p ∈ (pieces '/' path.toList).filter fun s => !isIdle s) : IsName p := by
  obtain ⟨hmem, hbusy⟩ := List.mem_filter.1 hp
  refine ⟨sep_not_mem_pieces '/' _ p hmem, by simpa using hbusy, ?_⟩
  rintro rfl
  exact hdown (List.mem_map_of_mem hp)

/-- The extension of a last name that has none is added behind it. -/
theorem setExtension_glue {last : List Char} (hlast : IsName last) (hdot : '.' ∉ last)
    (h : ∀ p ∈ ps, '/' ∉ p) (extension : List Char) {closing : List Char}
    (hclosing : closing = [] ∨ closing = ['/']) :
    setExtension extension (glue '/' (ps ++ [last]) ++ closing) =
      glue '/' (ps ++ [last]) ++ '.' :: extension := by
  have hsingle : ∀ p ∈ ps ++ [last], '/' ∉ p := by
    intro p hp
    rcases List.mem_append.1 hp with hp | hp
    · exact h p hp
    · exact List.mem_singleton.1 hp ▸ hlast.single
  have hpieces : pieces '/' (glue '/' (ps ++ [last])) = ps ++ [last] :=
    pieces_glue (by simp) hsingle
  have hstop : (last :: ps.reverse).dropWhile isIdle = last :: ps.reverse :=
    List.dropWhile_cons_of_neg (Bool.eq_false_iff.1 hlast.busy)
  have hidle : (pieces '/' (glue '/' (ps ++ [last]) ++ closing)).reverse.dropWhile isIdle =
      last :: ps.reverse := by
    rcases hclosing with rfl | rfl
    · rw [List.append_nil, hpieces, List.reverse_append]
      exact hstop
    · rw [pieces_append_sep, hpieces, List.reverse_append, List.reverse_append]
      exact hstop
  have hstem : stem last = last := by
    unfold stem
    rw [beforeLast?_eq_none_iff.2 hdot]
  unfold setExtension
  rw [hidle]
  simp only [if_neg hlast.down, hstem, List.reverse_cons, List.reverse_reverse]
  exact glue_concat_append ps last _

/-- Names that are put together say just these names. -/
theorem components_glue (h : ∀ p ∈ ps, IsName p) :
    components (String.ofList (glue '/' ps)) = (ps.map String.ofList).map Component.name := by
  by_cases hne : ps = []
  · subst hne
    rfl
  · have hpieces : pieces '/' (glue '/' ps) = ps := pieces_glue hne fun p hp => (h p hp).single
    obtain ⟨first, rest, rfl⟩ := List.exists_cons_of_ne_nil hne
    have hfirst := h first List.mem_cons_self
    have horigin : origin (String.ofList (glue '/' (first :: rest))) = [] := by
      have habsolute : isAbsoluteChars (glue '/' (first :: rest)) = false := by
        obtain ⟨c, cs, rfl⟩ := List.exists_cons_of_ne_nil hfirst.ne_nil
        have hc : c ≠ '/' := (List.ne_and_not_mem_of_not_mem_cons hfirst.single).1.symm
        cases rest <;> simp [isAbsoluteChars, glue, hc]
      have hhere : first ≠ ['.'] := by
        rintro rfl
        exact Bool.false_ne_true hfirst.busy.symm
      simp [origin, isAbsolute, habsolute, hpieces, hhere]
    unfold components segments
    rw [horigin, String.toList_ofList, hpieces, filter_busy h, List.nil_append, List.map_map,
      List.map_map]
    exact List.map_congr_left fun p hp => if_neg (h p hp).ofList_ne.2

end Names

/-! ## What a joined path says -/

section Join

variable {root rel : String}

theorem toList_join (root rel : String) : (join root rel).toList = push root.toList rel.toList :=
  String.toList_ofList

theorem isAbsolute_of_origin (h : origin rel = []) : isAbsolute rel = false := by
  unfold origin at h
  split at h
  · cases h
  · exact Bool.eq_false_iff.2 ‹_›

/-- A joined path says what the first path says, and then what the second one says, unless
that speaks about where it starts. -/
theorem components_join (h : origin rel = []) :
    components (join root rel) = components root ++ components rel := by
  have hrel : isAbsoluteChars rel.toList = false := isAbsolute_of_origin h
  by_cases hroot : root.toList = []
  · obtain rfl := String.toList_eq_nil_iff.1 hroot
    have hjoin : join "" rel = rel := by
      rw [← String.toList_inj, toList_join, hroot, push_nil_left]
    rw [hjoin]
    rfl
  · obtain ⟨front, hfront, hpush⟩ := push_cases hroot hrel
    have horigin : origin (join root rel) = origin root := by
      obtain ⟨p, ps, hp⟩ := List.exists_cons_of_ne_nil (pieces_ne_nil '/' front)
      unfold origin isAbsolute
      rw [toList_join, hpush, pieces_append_sep]
      rcases hfront with hfront | hfront
      · rw [hfront, hp]
        cases front with
        | nil => exact absurd hfront hroot
        | cons c cs => rfl
      · rw [hfront, pieces_append_sep, hp]
        cases front <;> rfl
    have hsegments : segments (join root rel) = segments root ++ segments rel := by
      unfold segments
      rw [toList_join, hpush, pieces_append_sep, List.filter_append, List.map_append]
      rcases hfront with hfront | hfront
      · rw [hfront]
      · rw [hfront, pieces_append_sep, List.filter_append]
        simp [pieces, isIdle]
    unfold components
    rw [horigin, hsegments, List.map_append, ← List.append_assoc, h, List.nil_append]

/-- Names do not speak about where a path starts. -/
theorem origin_of_names {names : List String} (h : components rel = names.map Component.name) :
    origin rel = [] := by
  unfold components at h
  cases hstart : origin rel with
  | nil => rfl
  | cons c cs =>
      rw [hstart] at h
      cases names with
      | nil => cases h
      | cons name names =>
          obtain ⟨rfl, -⟩ := List.cons.inj h
          unfold origin at hstart
          repeat' split at hstart
          all_goals cases hstart

/-- A path lies below another one, or where that one lies: it says the same, and then only
names. -/
def Below (root path : String) : Prop :=
  ∃ names : List String, components path = components root ++ names.map Component.name

/-- A path that consists of names lies below every place that it is joined to. -/
theorem below_join {names : List String} (h : components rel = names.map Component.name)
    (root : String) : Below root (join root rel) :=
  ⟨names, by rw [components_join (origin_of_names h), h]⟩

end Join

end Loading.Path
