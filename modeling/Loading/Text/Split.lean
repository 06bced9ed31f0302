/-!
# Splitting text at a separator

Names are divided at `.`, paths at `/`, path lists at `:`.  All three are one
rule: `split sep` cuts a text at every separator, so that `n` separators make
`n + 1` pieces, some of them perhaps empty.

* `join_pieces` — putting the separator back between the pieces gives the text.
* `sep_not_mem_pieces` — no piece holds the separator.
* `upToLast` — the text before the last separator, empty where there is none.
-/

namespace Loading.Text

/-! ## Lists of characters -/

/-- The pieces of a text between its separators. -/
def pieces (sep : Char) : List Char → List (List Char)
  | [] => [[]]
  | c :: rest =>
      if c = sep then [] :: pieces sep rest
      else match pieces sep rest with
        | [] => [[c]]
        | p :: ps => (c :: p) :: ps

/-- The pieces with a separator between each two. -/
def glue (sep : Char) : List (List Char) → List Char
  | [] => []
  | [p] => p
  | p :: ps => p ++ sep :: glue sep ps

theorem pieces_ne_nil (sep : Char) (cs : List Char) : pieces sep cs ≠ [] := by
  cases cs with
  | nil => simp [pieces]
  | cons c rest =>
      unfold pieces
      split
      · simp
      · split <;> simp

/-- Putting the separator back between the pieces gives the text. -/
theorem glue_pieces (sep : Char) (cs : List Char) : glue sep (pieces sep cs) = cs := by
  induction cs with
  | nil => rfl
  | cons c rest ih =>
      have hne := pieces_ne_nil sep rest
      unfold pieces
      cases hp : pieces sep rest with
      | nil => exact absurd hp hne
      | cons p ps =>
          rw [hp] at ih
          by_cases h : c = sep
          · simp [h, glue, ih]
          · cases ps with
            | nil => simp [h, glue, ← ih]
            | cons q qs => simp [h, glue, ← ih]

/-- No piece holds the separator. -/
theorem sep_not_mem_pieces (sep : Char) (cs : List Char) :
    ∀ p ∈ pieces sep cs, sep ∉ p := by
  induction cs with
  | nil => simp [pieces]
  | cons c rest ih =>
      have hne := pieces_ne_nil sep rest
      unfold pieces
      cases hp : pieces sep rest with
      | nil => exact absurd hp hne
      | cons q qs =>
          rw [hp] at ih
          by_cases h : c = sep
          · intro p hmem
            simp only [h, if_true, List.mem_cons] at hmem
            rcases hmem with rfl | hmem
            · simp
            · exact ih p (by simpa using hmem)
          · intro p hmem
            simp only [h, if_false, List.mem_cons] at hmem
            rcases hmem with rfl | hmem
            · have := ih q (by simp)
              simp [this, Ne.symm h]
            · exact ih p (by simp [hmem])

/-- A text without the separator is one piece. -/
theorem pieces_eq_singleton {sep : Char} {cs : List Char} (h : sep ∉ cs) :
    pieces sep cs = [cs] := by
  induction cs with
  | nil => rfl
  | cons c rest ih =>
      simp only [List.mem_cons, not_or] at h
      simp [pieces, ih h.2, Ne.symm h.1]

/-- The characters before the last separator, or `none` where there is no
separator. -/
def beforeLast? (sep : Char) : List Char → Option (List Char)
  | [] => none
  | c :: rest =>
      match beforeLast? sep rest with
      | some front => some (c :: front)
      | none => if c = sep then some [] else none

/-- There is a last separator exactly when there is a separator. -/
theorem beforeLast?_isSome_iff (sep : Char) (cs : List Char) :
    (beforeLast? sep cs).isSome ↔ sep ∈ cs := by
  induction cs with
  | nil => simp [beforeLast?]
  | cons c rest ih =>
      unfold beforeLast?
      cases h : beforeLast? sep rest with
      | some front =>
          rw [h] at ih
          simp [ih.1 rfl]
      | none =>
          rw [h] at ih
          have hrest : sep ∉ rest := fun hm => by simpa using ih.2 hm
          by_cases hc : c = sep
          · simp [hc]
          · simp [hc, hrest, Ne.symm hc]

theorem length_lt_of_beforeLast? {sep : Char} {cs front : List Char}
    (h : beforeLast? sep cs = some front) : front.length < cs.length := by
  induction cs generalizing front with
  | nil => simp [beforeLast?] at h
  | cons c rest ih =>
      unfold beforeLast? at h
      cases hr : beforeLast? sep rest with
      | some f =>
          rw [hr] at h
          cases h
          have := ih hr
          simpa using this
      | none =>
          rw [hr] at h
          by_cases hc : c = sep
          · simp [hc] at h
            subst h
            simp
          · simp [hc] at h

/-! ## Texts -/

/-- The pieces of a text between its separators. -/
def split (sep : Char) (s : String) : List String :=
  (pieces sep s.toList).map String.ofList

/-- The text before the last separator, empty where there is none. -/
def upToLast (sep : Char) (s : String) : String :=
  String.ofList ((beforeLast? sep s.toList).getD [])

/-- Does the text begin with the other one? -/
def startsWith (s start : String) : Bool :=
  start.toList.isPrefixOf s.toList

end Loading.Text
