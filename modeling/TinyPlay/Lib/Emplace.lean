import Mathlib.Data.List.AList
import Mathlib.Tactic.Tauto

/-! Associative containers filled the way `std::unordered_map` is filled: by `emplace`,
which leaves an existing entry alone, and read by `at`, which can fail. The entries are a
Mathlib `AList`, so a key occurs once by construction. -/

namespace AList

universe u v

variable {α : Type u} {β : α → Type v} [DecidableEq α]

/-- Insert only when the key is absent. -/
def emplace (s : AList β) (a : α) (b : β a) : AList β :=
  if a ∈ s then s else s.insert a b

theorem emplace_of_mem {s : AList β} {a : α} (b : β a) (h : a ∈ s) : s.emplace a b = s :=
  if_pos h

theorem emplace_of_notMem {s : AList β} {a : α} (b : β a) (h : a ∉ s) :
    s.emplace a b = s.insert a b := if_neg h

@[simp] theorem mem_emplace {s : AList β} {a a' : α} {b : β a} :
    a' ∈ s.emplace a b ↔ a' = a ∨ a' ∈ s := by
  by_cases h : a ∈ s
  · rw [emplace_of_mem b h]
    constructor
    · exact Or.inr
    · rintro (rfl | h')
      · exact h
      · exact h'
  · rw [emplace_of_notMem b h, mem_insert]

theorem lookup_emplace_self {s : AList β} {a : α} (b : β a) (h : a ∉ s) :
    (s.emplace a b).lookup a = some b := by rw [emplace_of_notMem b h, lookup_insert]

theorem lookup_emplace_ne {s : AList β} {a a' : α} (b : β a) (h : a' ≠ a) :
    (s.emplace a b).lookup a' = s.lookup a' := by
  by_cases hm : a ∈ s
  · rw [emplace_of_mem b hm]
  · rw [emplace_of_notMem b hm, lookup_insert_ne h]

/-- Emplace the entries that pass a test on their key, in list order. -/
def emplaceIf (p : α → Bool) (s : AList β) (l : List (Sigma β)) : AList β :=
  l.foldl (fun acc e => if p e.1 then acc.emplace e.1 e.2 else acc) s

theorem mem_emplaceIf {p : α → Bool} {s : AList β} {l : List (Sigma β)} {a : α} :
    a ∈ emplaceIf p s l ↔ a ∈ s ∨ (p a = true ∧ a ∈ l.keys) := by
  induction l generalizing s with
  | nil => simp [emplaceIf]
  | cons e l ih =>
    have hstep : emplaceIf p s (e :: l) =
        emplaceIf p (if p e.1 then s.emplace e.1 e.2 else s) l := rfl
    rw [hstep, ih, List.keys_cons, List.mem_cons]
    by_cases hp : p e.1 = true
    · rw [if_pos hp, mem_emplace]
      constructor
      · rintro ((rfl | h) | ⟨h, h'⟩)
        · exact Or.inr ⟨hp, Or.inl rfl⟩
        · exact Or.inl h
        · exact Or.inr ⟨h, Or.inr h'⟩
      · rintro (h | ⟨h, rfl | h'⟩)
        · exact Or.inl (Or.inr h)
        · exact Or.inl (Or.inl rfl)
        · exact Or.inr ⟨h, h'⟩
    · rw [if_neg hp]
      constructor
      · rintro (h | ⟨h, h'⟩)
        · exact Or.inl h
        · exact Or.inr ⟨h, Or.inr h'⟩
      · rintro (h | ⟨h, rfl | h'⟩)
        · exact Or.inl h
        · exact absurd h hp
        · exact Or.inr ⟨h, h'⟩

/-- The keys of a filtered copy are the keys that pass the test. -/
theorem mem_emplaceIf_empty {p : α → Bool} {m : AList β} {a : α} :
    a ∈ emplaceIf p ∅ m.entries ↔ a ∈ m ∧ p a = true := by
  rw [mem_emplaceIf]
  simp [mem_keys, keys, and_comm]

/-! ### Reading a selection of keys

`at` fails on an absent key, so copying a list of keys succeeds exactly when all of them are
present. -/

variable {ε : Type*}

def «at» (err : ε) (m : AList β) (a : α) : Except ε (β a) :=
  match m.lookup a with
  | some b => .ok b
  | none => .error err

/-- Emplace `m.at a` for every `a` of the list. -/
def collect (err : ε) (m : AList β) (l : List α) (acc : AList β) : Except ε (AList β) :=
  l.foldlM (fun acc a => (m.at err a).map fun b => acc.emplace a b) acc

theorem collect_cons (err : ε) (m : AList β) (a : α) (l : List α) (acc : AList β) :
    collect err m (a :: l) acc =
      match m.lookup a with
      | some b => collect err m l (acc.emplace a b)
      | none => .error err := by
  unfold collect
  rw [List.foldlM_cons, «at»]
  cases m.lookup a <;> rfl

theorem collect_ok {err : ε} {m : AList β} {l : List α} {acc r : AList β}
    (h : collect err m l acc = .ok r) :
    (∀ a ∈ l, a ∈ m) ∧ ∀ a, a ∈ r ↔ a ∈ acc ∨ a ∈ l := by
  induction l generalizing acc with
  | nil =>
    cases h
    simp
  | cons a l ih =>
    rw [collect_cons] at h
    cases hl : m.lookup a with
    | none =>
      rw [hl] at h
      cases h
    | some b =>
      rw [hl] at h
      obtain ⟨hin, hkeys⟩ := ih h
      refine ⟨?_, fun x => ?_⟩
      · intro x hx
        rcases List.mem_cons.mp hx with rfl | hx
        · exact lookup_isSome.mp (by rw [hl]; rfl)
        · exact hin x hx
      · rw [hkeys x, mem_emplace, List.mem_cons]
        tauto

theorem exists_collect {err : ε} {m : AList β} {l : List α} (h : ∀ a ∈ l, a ∈ m)
    (acc : AList β) : ∃ r, collect err m l acc = .ok r := by
  induction l generalizing acc with
  | nil => exact ⟨acc, rfl⟩
  | cons a l ih =>
    obtain ⟨b, hb⟩ := Option.isSome_iff_exists.mp (lookup_isSome.mpr (h a (List.mem_cons_self ..)))
    rw [collect_cons, hb]
    exact ih (fun x hx => h x (List.mem_cons_of_mem a hx)) _

/-- Copying succeeds exactly on lists of present keys, and copies exactly those. -/
theorem collect_empty_ok_iff {err : ε} {m : AList β} {l : List α} :
    (∃ r, collect err m l ∅ = .ok r) ↔ ∀ a ∈ l, a ∈ m := by
  refine ⟨fun h => ?_, fun h => exists_collect h ∅⟩
  obtain ⟨r, hr⟩ := h
  exact (collect_ok hr).1

theorem mem_collect_empty {err : ε} {m : AList β} {l : List α} {r : AList β}
    (h : collect err m l ∅ = .ok r) (a : α) : a ∈ r ↔ a ∈ l := by
  rw [(collect_ok h).2 a]
  simp

end AList
