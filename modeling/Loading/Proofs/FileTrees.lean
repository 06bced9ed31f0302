import Loading.FileTree
import Loading.Proofs.Pieces

/-!
# Walks behind files

In a tree of files, a path that goes on behind a file leads to no directory, whichever links
it follows on the way.  It is never said that there is nothing at such a path.

* `walkWith_append`, `walk_append` — a walk that comes to a file goes no further.
* `look_behind_file` — what stands at a path that goes on behind a file.
-/

namespace Loading.FileTree

/-- Is there a file at the place itself? -/
def holdsFile (t : FileTree) (place : Place) : Prop :=
  ∃ contents exports, t.node? place = some (.file contents exports)

/-- Names that lead to a file lead nowhere with one more name behind them. -/
def StopsAtFiles (t : FileTree)
    (go : Place → List String → Except FileError Place) : Prop :=
  ∀ place names file, go place names = .ok file → t.holdsFile file →
    ∀ name rest, go place (names ++ name :: rest) = .error .notADirectory

variable {t : FileTree} {w : Walk}

/-- Going through the names of a path stops at files if following links does. -/
theorem walkWith_append (hw : w.mayEndNowhere = false)
    {follow : Place → List String → Except FileError Place} (hfollow : t.StopsAtFiles follow) :
    t.StopsAtFiles (t.walkWith w follow) := by
  intro place names
  induction names generalizing place with
  | nil =>
      intro file hgo ⟨contents, exports, hfile⟩ name rest
      obtain rfl := Except.ok.inj hgo
      rw [List.nil_append, walkWith, hfile]
  | cons first names ih =>
      intro file hgo hfile name rest
      rw [List.cons_append]
      cases hplace : t.node? place with
      | none => simp [walkWith, hplace] at hgo
      | some node =>
          cases node with
          | file contents exports => simp [walkWith, hplace] at hgo
          | link target => simp [walkWith, hplace] at hgo
          | directory =>
              simp only [walkWith, hplace] at hgo ⊢
              by_cases hidle : first = "" ∨ first = "."
              · rw [if_pos hidle] at hgo ⊢
                exact ih place file hgo hfile name rest
              rw [if_neg hidle] at hgo ⊢
              by_cases hup : first = ".."
              · rw [if_pos hup] at hgo ⊢
                exact ih place.dropLast file hgo hfile name rest
              rw [if_neg hup] at hgo ⊢
              by_cases hlong : first.utf8ByteSize > FileSystem.maxName ∨ !w.fits (place ++ [first])
              · rw [if_pos hlong] at hgo
                cases hgo
              rw [if_neg hlong] at hgo ⊢
              cases hnext : t.node? (place ++ [first]) with
              | none => simp [hnext, hw] at hgo
              | some node =>
                  rw [hnext] at hgo
                  cases node with
                  | link target =>
                      have hbehind := hfollow _ _ file hgo hfile name rest
                      rw [List.append_assoc] at hbehind
                      exact hbehind
                  | file contents exports => exact ih _ file hgo hfile name rest
                  | directory => exact ih _ file hgo hfile name rest

/-- A walk that comes to a file goes no further, however many links it may follow. -/
theorem walk_append (hw : w.mayEndNowhere = false) (links : Nat) :
    t.StopsAtFiles (t.walk w links) := by
  induction links with
  | zero => exact walkWith_append hw fun _ _ _ h => nomatch h
  | succ links ih => exact walkWith_append hw ih

/-- A path with a file is one that can be looked up, and it leads to that file. -/
theorem exists_of_isFile {path : String} (h : t.view.isFile path = true) :
    '\x00' ∉ path.toList ∧ path ≠ "" ∧ ∃ place,
      t.walk {} maxLinks (start t.current path) (names path) = .ok place ∧ t.holdsFile place := by
  unfold FileSystem.isFile view at h
  dsimp only at h
  cases hresolve : t.resolve path with
  | error e => simp [hresolve] at h
  | ok place =>
      have hfile : t.holdsFile place := by
        unfold holdsFile
        cases hnode : t.node? place with
        | none => simp [hresolve, hnode] at h
        | some node =>
            cases node with
            | file contents exports => exact ⟨contents, exports, rfl⟩
            | directory => simp [hresolve, hnode] at h
            | link target => simp [hresolve, hnode] at h
      unfold resolve at hresolve
      split at hresolve
      · cases hresolve
      split at hresolve
      · cases hresolve
      split at hresolve
      · cases hresolve
      · rename_i hnul hempty _
        exact ⟨by simpa using hnul, by simpa using hempty, place, hresolve, hfile⟩

/-- Behind a file there is no directory.  This is what is said of every path that goes on
behind one, as long as it can be looked up at all. -/
theorem look_behind_file {front rest : String} (hfile : t.view.isFile front = true)
    (hlength : (front ++ "/" ++ rest).utf8ByteSize ≤ maxPath) (hnul : '\x00' ∉ rest.toList) :
    t.view.look (front ++ "/" ++ rest) = .error .notADirectory := by
  obtain ⟨hfront, hempty, place, hwalk, hplace⟩ := exists_of_isFile hfile
  have hstart : start t.current (front ++ "/" ++ rest) = start t.current front := by
    obtain ⟨c, cs, hcs⟩ := List.exists_cons_of_ne_nil (mt String.toList_eq_nil_iff.1 hempty)
    simp [start, Path.isAbsolute, Path.isAbsoluteChars, hcs]
  have hnames : names (front ++ "/" ++ rest) = names front ++ names rest := by
    have htext : (front ++ "/" ++ rest).toList = front.toList ++ '/' :: rest.toList := by simp
    unfold names Text.split
    rw [htext, Text.pieces_append_sep, List.map_append]
  obtain ⟨name, more, hmore⟩ : ∃ name more, names rest = name :: more :=
    List.exists_cons_of_ne_nil (mt List.map_eq_nil_iff.1 (Text.pieces_ne_nil '/' rest.toList))
  have hresolve : t.resolve (front ++ "/" ++ rest) = .error .notADirectory := by
    unfold resolve
    rw [if_neg (by simp [hfront, hnul]), if_neg (by simp [hempty]), if_neg (by omega), hstart,
      hnames, hmore]
    exact walk_append rfl maxLinks _ _ place hwalk hplace name more
  unfold view
  dsimp only
  rw [hresolve]

end Loading.FileTree
