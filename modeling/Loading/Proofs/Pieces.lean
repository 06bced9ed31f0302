import Loading.Text.Split
import Mathlib.Data.List.Basic

/-!
# Pieces of a text, put together and cut again

A text is cut at a separator into pieces, and pieces are put together with the separator
between each two.  Each undoes the other, as long as there is a piece and none holds the
separator; that is why texts put together from different pieces are different.

* `pieces_append_sep`, `pieces_glue` — a text is cut where it was put together.
* `glue_concat`, `glue_concat_append` — one more piece, and more text in the last one.
* `ofList_glue` — putting pieces together, as the core library says it.
* `beforeLast?_eq_some_iff` — where the last separator of a text stands.
-/

namespace Loading.Text

variable {sep : Char} {ps : List (List Char)}

/-! ## Cutting what was put together -/

/-- A separator parts the pieces before it from those behind it. -/
theorem pieces_append_sep (sep : Char) (cs ds : List Char) :
    pieces sep (cs ++ sep :: ds) = pieces sep cs ++ pieces sep ds := by
  induction cs with
  | nil => simp [pieces]
  | cons c rest ih =>
      obtain ⟨p, ps, hp⟩ := List.exists_cons_of_ne_nil (pieces_ne_nil sep rest)
      by_cases h : c = sep
      · simp [pieces, h, ih]
      · simp [pieces, h, ih, hp]

/-- Pieces without the separator are found again. -/
theorem pieces_glue (hne : ps ≠ []) (h : ∀ p ∈ ps, sep ∉ p) : pieces sep (glue sep ps) = ps := by
  induction ps with
  | nil => exact absurd rfl hne
  | cons p rest ih =>
      have hp : pieces sep p = [p] := pieces_eq_singleton (h p List.mem_cons_self)
      cases rest with
      | nil => exact hp
      | cons q qs =>
          have hrest := ih (List.cons_ne_nil q qs) fun r hr => h r (List.mem_cons_of_mem p hr)
          unfold glue
          rw [pieces_append_sep, hp, hrest, List.singleton_append]

/-- The pieces hold nothing but what the text holds. -/
theorem mem_of_mem_pieces {cs p : List Char} {c : Char} (hp : p ∈ pieces sep cs) (hc : c ∈ p) :
    c ∈ cs := by
  induction cs generalizing p with
  | nil =>
      obtain rfl := List.mem_singleton.1 hp
      exact hc
  | cons d rest ih =>
      obtain ⟨q, qs, hq⟩ := List.exists_cons_of_ne_nil (pieces_ne_nil sep rest)
      rw [hq] at ih
      unfold pieces at hp
      rw [hq] at hp
      split at hp
      · rcases List.mem_cons.1 hp with rfl | hp
        · cases hc
        · exact List.mem_cons_of_mem d (ih hp hc)
      · rcases List.mem_cons.1 hp with rfl | hp
        · rcases List.mem_cons.1 hc with rfl | hc
          · exact List.mem_cons_self
          · exact List.mem_cons_of_mem d (ih List.mem_cons_self hc)
        · exact List.mem_cons_of_mem d (ih (List.mem_cons_of_mem q hp) hc)

/-! ## Putting together -/

theorem glue_cons (hne : ps ≠ []) (p : List Char) :
    glue sep (p :: ps) = p ++ sep :: glue sep ps := by
  cases ps with
  | nil => exact absurd rfl hne
  | cons q qs => rfl

/-- One more piece comes behind one more separator. -/
theorem glue_concat (hne : ps ≠ []) (p : List Char) :
    glue sep (ps ++ [p]) = glue sep ps ++ sep :: p := by
  induction ps with
  | nil => exact absurd rfl hne
  | cons q rest ih =>
      cases rest with
      | nil => rfl
      | cons r rs =>
          rw [List.cons_append, glue_cons (by simp), ih (List.cons_ne_nil r rs),
            glue_cons (List.cons_ne_nil r rs), List.append_assoc, List.cons_append]

/-- What is added to the last piece is added to the text. -/
theorem glue_concat_append (ps : List (List Char)) (p cs : List Char) :
    glue sep (ps ++ [p ++ cs]) = glue sep (ps ++ [p]) ++ cs := by
  by_cases hne : ps = []
  · subst hne
    rfl
  · rw [glue_concat hne, glue_concat hne, List.append_assoc, List.cons_append]

/-- A text ends as its last piece does, unless that is empty. -/
theorem getLast?_glue_concat {p : List Char} (ps : List (List Char)) (hp : p ≠ []) :
    (glue sep (ps ++ [p])).getLast? = p.getLast? := by
  by_cases hne : ps = []
  · subst hne
    rfl
  · rw [glue_concat hne, List.getLast?_append_of_ne_nil _ (List.cons_ne_nil sep p),
      List.getLast?_cons_of_ne_nil hp]

theorem glue_eq_intercalate (sep : Char) (ps : List (List Char)) :
    glue sep ps = [sep].intercalate ps := by
  induction ps with
  | nil => rfl
  | cons p rest ih =>
      cases rest with
      | nil => exact List.intercalate_singleton.symm
      | cons q qs =>
          rw [glue_cons (List.cons_ne_nil q qs), ih, List.intercalate_cons_cons,
            List.append_assoc, List.singleton_append]

/-- Putting pieces together, with the separator as a text. -/
theorem ofList_glue (sep : Char) (ps : List (List Char)) :
    String.ofList (glue sep ps) =
      (String.singleton sep).intercalate (ps.map String.ofList) := by
  have hmap : (ps.map String.ofList).map String.toList = ps := by
    simp [Function.comp_def]
  rw [← String.toList_inj, String.toList_ofList, String.toList_intercalate,
    String.toList_singleton, hmap, glue_eq_intercalate]

/-! ## The last separator -/

theorem beforeLast?_eq_none_iff {cs : List Char} : beforeLast? sep cs = none ↔ sep ∉ cs := by
  rw [← beforeLast?_isSome_iff, Option.not_isSome_iff_eq_none]

theorem beforeLast?_append_sep {rest : List Char} (h : sep ∉ rest) (front : List Char) :
    beforeLast? sep (front ++ sep :: rest) = some front := by
  induction front with
  | nil => simp [beforeLast?, beforeLast?_eq_none_iff.2 h]
  | cons c front ih => simp [beforeLast?, ih]

/-- What stands before the last separator: there is none behind it. -/
theorem beforeLast?_eq_some_iff {cs front : List Char} :
    beforeLast? sep cs = some front ↔ ∃ rest, sep ∉ rest ∧ cs = front ++ sep :: rest := by
  refine ⟨fun h => ?_, fun ⟨rest, hrest, heq⟩ => heq ▸ beforeLast?_append_sep hrest front⟩
  induction cs generalizing front with
  | nil => cases h
  | cons c rest ih =>
      unfold beforeLast? at h
      cases hrest : beforeLast? sep rest with
      | some inner =>
          obtain ⟨back, hback, rfl⟩ := ih hrest
          rw [hrest] at h
          cases h
          exact ⟨back, hback, rfl⟩
      | none =>
          rw [hrest] at h
          obtain ⟨rfl, hfront⟩ := Option.ite_none_right_eq_some.1 h
          exact ⟨rest, beforeLast?_eq_none_iff.1 hrest, by rw [← Option.some.inj hfront]; rfl⟩

end Loading.Text
