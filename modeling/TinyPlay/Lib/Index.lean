import TinyPlay.Lib.Emplace

/-! A map from keys to positions, kept next to a growing vector. `Indexes m ks` says that the
map holds every key of the vector under its own position and nothing else. -/

namespace AList

variable {α : Type*} [DecidableEq α]

def Indexes (m : AList fun _ : α => ℕ) (ks : List α) : Prop :=
  ∀ k i, m.lookup k = some i ↔ ks[i]? = some k

theorem indexes_empty : Indexes (∅ : AList fun _ : α => ℕ) [] := by
  intro k i
  simp

theorem Indexes.mem_iff {m : AList fun _ : α => ℕ} {ks : List α} (h : m.Indexes ks) (k : α) :
    k ∈ m ↔ k ∈ ks := by
  rw [← lookup_isSome, Option.isSome_iff_exists, List.mem_iff_getElem?]
  exact exists_congr fun i => h k i

/-- A map cannot hold two positions of one key, so the keys are distinct. -/
theorem Indexes.nodup {m : AList fun _ : α => ℕ} {ks : List α} (h : m.Indexes ks) :
    ks.Nodup := by
  rw [List.nodup_iff_injective_get]
  intro i j hij
  have hi := (h (ks.get i) i).mpr (by simp)
  have hj := (h (ks.get i) j).mpr (by rw [hij]; simp)
  exact Fin.ext (Option.some.inj (hi.symm.trans hj))

/-- A new key takes the position after the last one. -/
theorem Indexes.push {m : AList fun _ : α => ℕ} {ks : List α} (h : m.Indexes ks) {k : α}
    (hk : k ∉ ks) : (m.emplace k ks.length).Indexes (ks ++ [k]) := by
  have hm : k ∉ m := fun hmem => hk ((h.mem_iff k).mp hmem)
  intro k' i
  by_cases hkk : k' = k
  · subst hkk
    rw [lookup_emplace_self _ hm]
    refine ⟨fun hi => ?_, fun hi => ?_⟩
    · cases hi
      simp
    · rcases Nat.lt_trichotomy i ks.length with hlt | rfl | hgt
      · rw [List.getElem?_append_left hlt] at hi
        exact absurd (List.mem_of_getElem? hi) hk
      · rfl
      · rw [List.getElem?_eq_none (by simp; omega)] at hi
        cases hi
  · rw [lookup_emplace_ne _ hkk, h k' i]
    rcases Nat.lt_trichotomy i ks.length with hlt | rfl | hgt
    · rw [List.getElem?_append_left hlt]
    · simp [Ne.symm hkk]
    · rw [List.getElem?_eq_none (by omega), List.getElem?_eq_none (by simp; omega)]

/-- The map holds the first position of every key of the vector, moved by an offset. -/
def IndexesFirst (m : AList fun _ : α => ℕ) (offset : ℕ) (ks : List α) : Prop :=
  ∀ k, m.lookup k = if k ∈ ks then some (ks.idxOf k + offset) else none

theorem indexesFirst_empty (offset : ℕ) : IndexesFirst (∅ : AList fun _ : α => ℕ) offset [] := by
  intro k
  simp

/-- A key that is in the vector already keeps its position. -/
theorem IndexesFirst.push {m : AList fun _ : α => ℕ} {offset : ℕ} {ks : List α}
    (h : m.IndexesFirst offset ks) (k : α) :
    (m.emplace k (ks.length + offset)).IndexesFirst offset (ks ++ [k]) := by
  have hmem : ∀ k', k' ∈ m ↔ k' ∈ ks := by
    intro k'
    rw [← lookup_isSome, h k']
    split_ifs with hk' <;> simp [hk']
  intro k'
  by_cases hks : k ∈ ks
  · rw [emplace_of_mem _ ((hmem k).mpr hks), h k']
    have hiff : k' ∈ ks ++ [k] ↔ k' ∈ ks := by
      rw [List.mem_append, List.mem_singleton]
      refine ⟨fun hk' => ?_, Or.inl⟩
      rcases hk' with hk' | rfl
      · exact hk'
      · exact hks
    split_ifs with hk' happ happ
    · rw [List.idxOf_append_of_mem hk']
    · exact absurd (hiff.mpr hk') happ
    · exact absurd (hiff.mp happ) hk'
    · rfl
  · by_cases hkk : k' = k
    · subst hkk
      rw [lookup_emplace_self _ (mt (hmem k').mp hks), if_pos (by simp),
        List.idxOf_append_of_notMem hks, List.idxOf_cons_self, Nat.add_zero]
    · rw [lookup_emplace_ne _ hkk, h k']
      by_cases hk' : k' ∈ ks
      · rw [if_pos hk', if_pos (List.mem_append_left _ hk'), List.idxOf_append_of_mem hk']
      · rw [if_neg hk', if_neg (by simp [hk', hkk])]

/-- `operator[]`: the stored position; a missing key is inserted with position 0. -/
def subscript (m : AList fun _ : α => ℕ) (k : α) : ℕ × AList fun _ : α => ℕ :=
  match m.lookup k with
  | some i => (i, m)
  | none => (0, m.insert k 0)

theorem Indexes.subscript_eq {m : AList fun _ : α => ℕ} {ks : List α} (h : m.Indexes ks) {k : α}
    {i : ℕ} (hi : ks[i]? = some k) : m.subscript k = (i, m) := by
  rw [subscript, (h k i).mpr hi]

end AList
