import Daybook.Files.Tree
import Daybook.Proofs.Success

/-!
# Written files

A file that was written reads back as what was written, and nothing else changes. The way to the
file leads through folders only, and where it was written there was none, so it is still there: a
walk that makes nothing depends only on which places are folders (`walk_of_folders`).
-/

namespace Daybook.Files.Tree

variable {t t' : Tree}

/-- A tree with a file at a place, whatever file was there before. -/
def withFile (t : Tree) (place : Place) (content : String) : Tree :=
  { t with files := (place, content) :: t.files.filter (·.1 != place) }

theorem entry_withFile (t : Tree) (place : Place) (content : String) :
    entry? (t.withFile place content) place = some (.file content) := by
  unfold entry?
  simp [withFile]

theorem entry_withFile_of_ne {place other : Place} (h : other ≠ place) (content : String) :
    entry? (t.withFile place content) other = t.entry? other := by
  have hfind : (t.withFile place content).files.find? (·.1 == other)
      = t.files.find? (·.1 == other) := by
    have hhead : ((place, content).1 == other) = false := beq_false_of_ne h.symm
    rw [withFile, List.find?_cons_of_neg (by simp [hhead]), List.find?_filter]
    congr 1
    funext file
    by_cases hfile : file.1 = other
    · simp [hfile, h]
    · simp [hfile]
  unfold entry?
  rw [hfind]
  rfl

/-- A file in the place of no folder leaves all folders what they are. -/
theorem folder_withFile {place : Place} (h : t.entry? place ≠ some .folder) (content : String)
    (other : Place) :
    entry? (t.withFile place content) other = some .folder ↔ t.entry? other = some .folder := by
  by_cases hother : other = place
  · subst hother
    rw [entry_withFile]
    exact ⟨(nomatch ·), fun hfolder => absurd hfolder h⟩
  · rw [entry_withFile_of_ne hother]

/-- A walk that succeeds without making folders goes through folders alone. -/
theorem walk_of_folders
    (h : ∀ place, t.entry? place = some .folder → t'.entry? place = some .folder)
    {names : List String} {place stop : Place} (hwalk : walk false t place names = .ok (stop, t)) :
    walk false t' place names = .ok (stop, t') := by
  induction names generalizing place with
  | nil =>
      obtain ⟨rfl, -⟩ := Prod.mk.inj (Except.ok.inj hwalk)
      rfl
  | cons name names ih =>
      rw [walk] at hwalk ⊢
      split at hwalk
      · exact nomatch hwalk
      · rename_i hname
        rw [if_neg hname]
        generalize (if (name == "..") = true then place.dropLast else place ++ [name]) = next
          at hwalk ⊢
        cases hentry : t.entry? next with
        | none =>
            rw [hentry] at hwalk
            exact nomatch hwalk
        | some entry =>
            rw [hentry] at hwalk
            cases entry with
            | file content => exact nomatch hwalk
            | folder =>
                rw [h next hentry]
                exact ih hwalk

/-- A walk that makes nothing leaves the tree as it is. -/
theorem tree_of_walk {names : List String} {place stop : Place}
    (h : walk false t place names = .ok (stop, t')) : t' = t := by
  induction names generalizing place with
  | nil => exact (Prod.mk.inj (Except.ok.inj h)).2.symm
  | cons name names ih =>
      rw [walk] at h
      split at h
      · exact nomatch h
      · split at h
        · exact ih h
        · exact nomatch h
        · exact nomatch h

/-- Where a name leads from a folder. -/
def stepTo (folder : Place) (name : String) : Place :=
  if name == ".." then folder.dropLast else folder ++ [name]

/-- Finds a name in a folder, which must be a folder, too, if the path can only lead to one. -/
def locateIn (t : Tree) (path name : String) (folder : Place) : Except ReadFault Place :=
  if !isName name then .error .unreadable
  else if endsInFolder path && t.entry? (stepTo folder name) != some .folder then
    .error (if (t.entry? (stepTo folder name)).isSome then .unreadable else .missing)
  else .ok (stepTo folder name)

theorem locate_eq (t : Tree) (path : String) :
    t.locate path
      = if path.isEmpty then .error .missing
        else
          match (pathNames path).getLast? with
          | none => .ok (t.start path)
          | some name =>
            walk false t (t.start path) (pathNames path).dropLast >>= fun reached =>
              t.locateIn path name reached.1 := by
  unfold locate
  dsimp only
  cases path.isEmpty with
  | true => rfl
  | false =>
      rw [if_neg Bool.false_ne_true, if_neg Bool.false_ne_true]
      cases (pathNames path).getLast? with
      | none => rfl
      | some name =>
          cases walk false t (t.start path) (pathNames path).dropLast with
          | error fault => rfl
          | ok reached =>
              dsimp only
              show _ = t.locateIn path name reached.1
              unfold locateIn
              cases isName name with
              | false => rfl
              | true =>
                  rw [if_neg (by decide)]
                  by_cases hend : endsInFolder path
                      && t.entry? (stepTo reached.1 name) != some .folder
                  · rw [if_pos hend]
                    exact if_pos hend
                  · rw [if_neg hend]
                    exact if_neg hend

theorem locateIn_eq_ok_iff {path name : String} {folder place : Place} :
    t.locateIn path name folder = .ok place ↔ isName name = true ∧ stepTo folder name = place
      ∧ (endsInFolder path = true → t.entry? place = some .folder) := by
  unfold locateIn
  split
  · rename_i hname
    exact ⟨(nomatch ·), fun h => by simp [h.1] at hname⟩
  · rename_i hname
    have hname : isName name = true := by simpa using hname
    split
    · rename_i hend
      refine ⟨(nomatch ·), ?_⟩
      rintro ⟨-, rfl, h⟩
      simp at hend
      exact absurd (h hend.1) hend.2
    · rename_i hend
      constructor
      · intro h
        obtain rfl := Except.ok.inj h
        exact ⟨hname, rfl, by simpa using hend⟩
      · exact fun h => congrArg _ h.2.1

/-- A file in the place of no folder is found where any file is found. -/
theorem locate_of_folders {path : String} {place : Place} (h : t.locate path = .ok place)
    (hplace : t.entry? place ≠ some .folder)
    (hfolders : ∀ other, t.entry? other = some .folder → t'.entry? other = some .folder)
    (hhome : t'.home = t.home) : t'.locate path = .ok place := by
  have hstart : t'.start path = t.start path := by rw [start, start, hhome]
  rw [locate_eq] at h ⊢
  split at h
  · exact nomatch h
  · rename_i hpath
    rw [if_neg hpath, hstart]
    cases hlast : (pathNames path).getLast? with
    | none =>
        rw [hlast] at h
        exact h
    | some name =>
        rw [hlast] at h
        obtain ⟨⟨folder, t₁⟩, hwalk, hin⟩ := bind_ok_iff.mp h
        obtain rfl := tree_of_walk hwalk
        obtain ⟨hname, hstep, hend⟩ := locateIn_eq_ok_iff.mp hin
        refine bind_ok_iff.mpr ⟨_, walk_of_folders hfolders hwalk, ?_⟩
        exact locateIn_eq_ok_iff.mpr ⟨hname, hstep, fun h => absurd (hend h) hplace⟩

/-- What writing takes: a file that can be found, in the place of no folder. -/
theorem write?_eq_some_iff {path content : String} :
    t.write? path content = some t' ↔
      ∃ place, t.locate path = .ok place ∧ t.entry? place ≠ some .folder
        ∧ t.withFile place content = t' := by
  unfold write?
  cases t.locate path with
  | error fault => exact ⟨(nomatch ·), fun ⟨_, h, _⟩ => nomatch h⟩
  | ok place =>
      dsimp only
      constructor
      · intro h
        split at h
        · exact nomatch h
        · rename_i hplace
          exact ⟨place, rfl, hplace, Option.some.inj h⟩
      · rintro ⟨place', hplace', hentry, rfl⟩
        obtain rfl := Except.ok.inj hplace'
        split
        · rename_i hfolder
          exact absurd hfolder hentry
        · rfl

theorem read_of_locate {path content : String} {place : Place} (h : t.locate path = .ok place)
    (hentry : t.entry? place = some (.file content)) : t.read path = .ok content := by
  refine bind_ok_iff.mpr ⟨place, h, ?_⟩
  rw [hentry]

/-- What was written is read back. -/
theorem read_of_write? {path content : String} (h : t.write? path content = some t') :
    t'.read path = .ok content := by
  obtain ⟨place, hlocate, hplace, rfl⟩ := write?_eq_some_iff.mp h
  have hfound : (t.withFile place content).locate path = .ok place :=
    locate_of_folders hlocate hplace (fun other => (folder_withFile hplace content other).mpr) rfl
  exact read_of_locate hfound (entry_withFile t place content)

end Daybook.Files.Tree
