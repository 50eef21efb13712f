import TinyPlay.Spec.Configuration

/-! The scratch file beside the SQLite database. It is meant to be a sibling of the database and
another file, because the connection test removes it. -/

namespace TinyPlay.Configuration

open LastIndex

def scratchFile : String := "tinyorm_test-check_exists.sqlite3"

/-- The path is in the directory of the database, and it is not the database. -/
def ScratchBeside (path : String) : Prop :=
  ∃ scratch, initCheckDatabaseExistsFile path = .ok scratch ∧
    scratch.toList = directory '/' path.toList ++ scratchFile.toList ∧ scratch ≠ path

theorem initCheckDatabaseExistsFile_ok {path : String} (h : path ≠ "") :
    ∃ scratch, initCheckDatabaseExistsFile path = .ok scratch ∧ scratch.toList =
      truncate path.toList (lastIndexOf '/' path.toList) ++ '/' :: scratchFile.toList := by
  refine ⟨_, if_neg h, ?_⟩
  rw [String.toList_append, String.toList_ofList]
  rfl

/-- The file is beside the database when the path has a slash and does not end in the name of the
scratch file. -/
theorem scratchBeside_iff {path : String} (h : path ≠ "") : ScratchBeside path ↔
    '/' ∈ path.toList ∧ lastPart '/' path.toList ≠ scratchFile.toList := by
  obtain ⟨scratch, hscratch, htext⟩ := initCheckDatabaseExistsFile_ok h
  have hbeside : ScratchBeside path ↔
      scratch.toList = directory '/' path.toList ++ scratchFile.toList ∧ scratch ≠ path := by
    constructor
    · rintro ⟨scratch', hscratch', hrest⟩
      obtain rfl := Except.ok.inj (hscratch.symm.trans hscratch')
      exact hrest
    · intro hrest
      exact ⟨scratch, hscratch, hrest⟩
  rw [hbeside, htext, Ne, ← String.toList_inj, htext]
  by_cases hslash : '/' ∈ path.toList
  · obtain ⟨u, v, hpath, hv⟩ := exists_split hslash
    rw [hpath, lastIndexOf_split u hv, truncate_length, directory_split u hv, lastPart_split u hv]
    simp [eq_comm]
  · -- the index is -1 and the whole path is cut off, but not the separator in front of the name
    rw [lastIndexOf_of_notMem hslash, truncate_of_neg _ (by decide), directory_of_notMem hslash]
    simp [hslash]

theorem scratchBeside_iff_absolute : ScratchBeside "/data/q_tinyorm.sqlite3" :=
  (scratchBeside_iff (by decide)).mpr (by decide)

/-- A bare file name, which is cut off, and a database with the name of the scratch file. -/
theorem scratch_not_beside :
    initCheckDatabaseExistsFile "q_tinyorm.sqlite3" =
      .ok "/tinyorm_test-check_exists.sqlite3" ∧
    initCheckDatabaseExistsFile "/data/tinyorm_test-check_exists.sqlite3" =
      .ok "/data/tinyorm_test-check_exists.sqlite3" ∧
    ¬∀ path, path ≠ "" → ScratchBeside path := by
  have hbare : initCheckDatabaseExistsFile "q_tinyorm.sqlite3" =
      .ok "/tinyorm_test-check_exists.sqlite3" := by decide
  refine ⟨hbare, by decide, fun hclaim => ?_⟩
  obtain ⟨scratch, hscratch, htext, -⟩ := hclaim "q_tinyorm.sqlite3" (by decide)
  obtain rfl := Except.ok.inj (hbare.symm.trans hscratch)
  exact absurd htext (by decide)

end TinyPlay.Configuration
