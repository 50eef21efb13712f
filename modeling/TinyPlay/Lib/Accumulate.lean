import Mathlib.Algebra.BigOperators.Group.List.Basic
import Mathlib.Data.List.Induction
import Mathlib.Data.List.Nodup

/-! Accumulators under keys: a list of entries with distinct keys, where an amount is added to
the entry of its key or starts a new entry. Whatever the order of the amounts, the entry of a
key is their total. An addition that is only exact while its sums fit is followed beside it. -/

namespace Accumulator

variable {κ M : Type*} [DecidableEq κ] {add : M → M → M}

def keys (l : List (κ × M)) : List κ := l.map Prod.fst

/-- One amount, with an addition of the accumulator's own. -/
def accumulateBy (add : M → M → M) (l : List (κ × M)) (k : κ) (m : M) : List (κ × M) :=
  if k ∈ keys l then l.map fun e => if e.1 = k then (e.1, add e.2 m) else e
  else l ++ [(k, m)]

def accumulateAllBy (add : M → M → M) (l calls : List (κ × M)) : List (κ × M) :=
  calls.foldl (fun l c => accumulateBy add l c.1 c.2) l

/-! ### Keys -/

theorem keys_accumulateBy (l : List (κ × M)) (k : κ) (m : M) :
    keys (accumulateBy add l k m) = if k ∈ keys l then keys l else keys l ++ [k] := by
  unfold accumulateBy
  split_ifs with h
  · simp only [keys, List.map_map]
    apply List.map_congr_left
    intro e _
    simp only [Function.comp_apply]
    split_ifs <;> rfl
  · simp [keys]

theorem nodup_accumulateBy {l : List (κ × M)} (h : (keys l).Nodup) (k : κ) (m : M) :
    (keys (accumulateBy add l k m)).Nodup := by
  rw [keys_accumulateBy]
  split_ifs with hk
  · exact h
  · rw [List.nodup_append]
    refine ⟨h, List.nodup_singleton k, fun a ha b hb => ?_⟩
    rw [List.mem_singleton.mp hb]
    intro he
    exact hk (he ▸ ha)

theorem mem_keys_accumulateBy {l : List (κ × M)} {k : κ} {m : M} (k' : κ) :
    k' ∈ keys (accumulateBy add l k m) ↔ k' ∈ keys l ∨ k' = k := by
  rw [keys_accumulateBy]
  split_ifs with hk
  · refine ⟨Or.inl, fun h => ?_⟩
    rcases h with h | rfl
    · exact h
    · exact hk
  · rw [List.mem_append, List.mem_singleton]

/-- In a list of distinct keys, adding to a key changes the entry at its position. -/
theorem accumulateBy_eq_modify {l : List (κ × M)} (hnd : (keys l).Nodup) {k : κ} {i : ℕ}
    (hi : (keys l)[i]? = some k) (m : M) :
    accumulateBy add l k m = l.modify i fun e => (e.1, add e.2 m) := by
  rw [accumulateBy, if_pos (List.mem_of_getElem? hi)]
  apply List.ext_getElem?
  intro j
  rw [List.getElem?_map, List.getElem?_modify]
  cases hj : l[j]? with
  | none => rfl
  | some e =>
    have hkey : (keys l)[j]? = some e.1 := by rw [keys, List.getElem?_map, hj]; rfl
    by_cases hij : i = j
    · subst hij
      have he : e.1 = k := Option.some.inj (hkey.symm.trans hi)
      simp [he]
    · have he : e.1 ≠ k := by
        intro he
        rw [he] at hkey
        have hlt := (List.getElem?_eq_some_iff.mp hi).1
        exact hij ((List.getElem?_inj hlt hnd).mp (hi.trans hkey.symm))
      simp [he, hij]

theorem accumulateAllBy_append (l calls : List (κ × M)) (c : κ × M) :
    accumulateAllBy add l (calls ++ [c]) =
      accumulateBy add (accumulateAllBy add l calls) c.1 c.2 := by
  simp [accumulateAllBy]

theorem nodup_accumulateAllBy {l : List (κ × M)} (h : (keys l).Nodup) (calls : List (κ × M)) :
    (keys (accumulateAllBy add l calls)).Nodup := by
  induction calls using List.reverseRecOn with
  | nil => exact h
  | append_singleton calls c ih =>
    rw [accumulateAllBy_append]
    exact nodup_accumulateBy ih c.1 c.2

theorem mem_keys_accumulateAllBy {l : List (κ × M)} {calls : List (κ × M)} (k : κ) :
    k ∈ keys (accumulateAllBy add l calls) ↔ k ∈ keys l ∨ k ∈ keys calls := by
  induction calls using List.reverseRecOn with
  | nil => simp [accumulateAllBy, keys]
  | append_singleton calls c ih =>
    rw [accumulateAllBy_append, mem_keys_accumulateBy, ih, or_assoc]
    simp [keys]

/-! ### Totals -/

variable [AddCommMonoid M]

/-- The sum of everything listed under a key. -/
def total (l : List (κ × M)) (k : κ) : M := ((l.filter fun e => e.1 = k).map Prod.snd).sum

def accumulate (l : List (κ × M)) (k : κ) (m : M) : List (κ × M) := accumulateBy (· + ·) l k m

def accumulateAll (l calls : List (κ × M)) : List (κ × M) := accumulateAllBy (· + ·) l calls

@[simp] theorem total_nil (k : κ) : total ([] : List (κ × M)) k = 0 := rfl

theorem total_cons (e : κ × M) (l : List (κ × M)) (k : κ) :
    total (e :: l) k = (if e.1 = k then e.2 else 0) + total l k := by
  by_cases h : e.1 = k
  · simp [total, h]
  · simp [total, h]

theorem total_append (l l' : List (κ × M)) (k : κ) :
    total (l ++ l') k = total l k + total l' k := by
  simp [total]

theorem total_of_notMem {l : List (κ × M)} {k : κ} (h : k ∉ keys l) : total l k = 0 := by
  induction l with
  | nil => rfl
  | cons e l ih =>
    simp only [keys, List.map_cons, List.mem_cons, not_or] at h
    rw [total_cons, if_neg (Ne.symm h.1), zero_add]
    exact ih h.2

/-- With distinct keys the total of a key is its entry. -/
theorem total_of_getElem? {l : List (κ × M)} (hnd : (keys l).Nodup) {i : ℕ} {e : κ × M}
    (h : l[i]? = some e) : total l e.1 = e.2 := by
  induction l generalizing i with
  | nil => simp at h
  | cons a l ih =>
    simp only [keys, List.map_cons, List.nodup_cons] at hnd
    cases i with
    | zero =>
      simp only [List.getElem?_cons_zero, Option.some.injEq] at h
      subst h
      rw [total_cons, if_pos rfl, total_of_notMem hnd.1, add_zero]
    | succ i =>
      simp only [List.getElem?_cons_succ] at h
      have hne : a.1 ≠ e.1 := by
        intro he
        exact hnd.1 (he ▸ List.mem_map_of_mem (List.mem_of_getElem? h))
      rw [total_cons, if_neg hne, zero_add]
      exact ih hnd.2 h

/-- The order of the amounts does not matter. -/
theorem total_perm {l l' : List (κ × M)} (h : l.Perm l') (k : κ) : total l k = total l' k :=
  ((h.filter _).map _).sum_eq

/-! ### One amount -/

theorem mem_keys_accumulate {l : List (κ × M)} {k : κ} {m : M} (k' : κ) :
    k' ∈ keys (accumulate l k m) ↔ k' ∈ keys l ∨ k' = k := mem_keys_accumulateBy k'

private theorem total_map {l : List (κ × M)} (hnd : (keys l).Nodup) {k : κ}
    (hk : k ∈ keys l) (f : M → M) (k' : κ) :
    total (l.map fun e => if e.1 = k then (e.1, f e.2) else e) k' =
      if k = k' then f (total l k') else total l k' := by
  induction l with
  | nil => simp [keys] at hk
  | cons e l ih =>
    simp only [keys, List.map_cons, List.nodup_cons] at hnd
    rw [List.map_cons, total_cons, total_cons]
    by_cases he : e.1 = k
    · -- the entry of `k`; no later entry has this key
      subst he
      have hrest : (l.map fun x => if x.1 = e.1 then (x.1, f x.2) else x) = l := by
        conv_rhs => rw [← List.map_id l]
        apply List.map_congr_left
        intro x hx
        rw [if_neg]
        · rfl
        · intro hxe
          exact hnd.1 (hxe ▸ List.mem_map_of_mem hx)
      rw [hrest, if_pos rfl]
      by_cases hkk : e.1 = k'
      · subst hkk
        simp [total_of_notMem hnd.1]
      · simp [hkk]
    · have hk' : k ∈ keys l := by
        simp only [keys, List.map_cons, List.mem_cons] at hk
        rcases hk with hk | hk
        · exact absurd hk.symm he
        · exact hk
      rw [if_neg he, ih hnd.2 hk']
      by_cases hkk : k = k'
      · subst hkk
        simp [he]
      · simp [hkk]

theorem total_accumulateBy {l : List (κ × M)} (hnd : (keys l).Nodup) (k : κ) (m : M) (k' : κ) :
    total (accumulateBy add l k m) k' =
      if k = k' then if k ∈ keys l then add (total l k) m else m else total l k' := by
  unfold accumulateBy
  by_cases hk : k ∈ keys l
  · rw [if_pos hk, total_map hnd hk fun a => add a m, if_pos hk]
    by_cases hkk : k = k'
    · rw [if_pos hkk, if_pos hkk, hkk]
    · rw [if_neg hkk, if_neg hkk]
  · rw [if_neg hk, total_append, total_cons, total_nil, add_zero]
    by_cases hkk : k = k'
    · subst hkk
      simp [hk, total_of_notMem hk]
    · simp [hkk]

theorem total_accumulate {l : List (κ × M)} (hnd : (keys l).Nodup) (k : κ) (m : M) (k' : κ) :
    total (accumulate l k m) k' = total l k' + if k = k' then m else 0 := by
  rw [accumulate, total_accumulateBy hnd]
  split_ifs with hkk hk
  · rw [hkk]
  · rw [← hkk, total_of_notMem hk, zero_add]
  · rw [add_zero]

/-! ### Any sequence of amounts -/

theorem accumulateAll_append (l calls : List (κ × M)) (c : κ × M) :
    accumulateAll l (calls ++ [c]) = accumulate (accumulateAll l calls) c.1 c.2 :=
  accumulateAllBy_append l calls c

theorem nodup_accumulateAll {l : List (κ × M)} (h : (keys l).Nodup) (calls : List (κ × M)) :
    (keys (accumulateAll l calls)).Nodup := nodup_accumulateAllBy h calls

theorem mem_keys_accumulateAll {l : List (κ × M)} {calls : List (κ × M)} (k : κ) :
    k ∈ keys (accumulateAll l calls) ↔ k ∈ keys l ∨ k ∈ keys calls := mem_keys_accumulateAllBy k

theorem total_accumulateAll {l : List (κ × M)} (hnd : (keys l).Nodup) (calls : List (κ × M))
    (k : κ) : total (accumulateAll l calls) k = total l k + total calls k := by
  induction calls using List.reverseRecOn with
  | nil => simp [accumulateAll, accumulateAllBy]
  | append_singleton calls c ih =>
    rw [accumulateAll_append, total_accumulate (nodup_accumulateAll hnd calls), ih, total_append,
      total_cons, total_nil, add_zero, add_assoc]

/-! ### An addition that is exact while its sums fit -/

/-- What the addition keeps in its operands holds of every entry. -/
theorem total_accumulateAllBy_of {l calls : List (κ × M)} (hnd : (keys l).Nodup) (k : κ)
    (P : M → Prop) (hadd : ∀ a m, P a → P m → P (add a m)) (hl : P (total l k))
    (hcalls : ∀ c ∈ calls, c.1 = k → P c.2) : P (total (accumulateAllBy add l calls) k) := by
  induction calls using List.reverseRecOn with
  | nil => exact hl
  | append_singleton calls c ih =>
    have hrest := ih fun c' hc' => hcalls c' (List.mem_append_left _ hc')
    rw [accumulateAllBy_append, total_accumulateBy (nodup_accumulateAllBy hnd calls)]
    split_ifs with hck hmem
    · have hc := hcalls c (by simp) hck
      exact hadd _ _ (hck ▸ hrest) hc
    · exact hcalls c (by simp) hck
    · exact hrest

/-- A component `f` of the entry of a key is the component of the total when the sums on the way
to it fit. -/
theorem total_accumulateAllBy_eq {N : Type*} {l calls : List (κ × M)} (hnd : (keys l).Nodup)
    (k : κ) (f : M → N) (fits : N → Prop)
    (hadd : ∀ a b m, f a = f b → fits (f (b + m)) → f (add a m) = f (b + m))
    (hfits : ∀ p, p <+: calls → fits (f (total l k + total p k))) :
    f (total (accumulateAllBy add l calls) k) = f (total l k + total calls k) := by
  induction calls using List.reverseRecOn with
  | nil => simp [accumulateAllBy]
  | append_singleton calls c ih =>
    have hrest := ih fun p hp => hfits p (hp.trans (List.prefix_append _ _))
    have hlast := hfits _ (List.prefix_refl _)
    rw [total_append, total_cons, total_nil, add_zero, ← add_assoc] at hlast ⊢
    rw [accumulateAllBy_append, total_accumulateBy (nodup_accumulateAllBy hnd calls)]
    by_cases hck : c.1 = k
    · rw [if_pos hck] at hlast ⊢
      rw [hck]
      by_cases hmem : k ∈ keys (accumulateAllBy add l calls)
      · rw [if_pos rfl, if_pos hmem]
        exact hadd _ _ _ hrest hlast
      · -- the first amount under `k` starts the entry
        rw [if_pos rfl, if_neg hmem]
        rw [mem_keys_accumulateAllBy, not_or] at hmem
        rw [total_of_notMem hmem.1, total_of_notMem hmem.2, add_zero, zero_add]
    · rw [if_neg hck, if_neg hck, add_zero]
      exact hrest

/-! ### The entries as a whole -/

theorem mem_iff_total {l : List (κ × M)} (hnd : (keys l).Nodup) (e : κ × M) :
    e ∈ l ↔ e.1 ∈ keys l ∧ total l e.1 = e.2 := by
  refine ⟨?_, ?_⟩
  · intro he
    obtain ⟨i, hi⟩ := List.mem_iff_getElem?.mp he
    exact ⟨List.mem_map_of_mem he, total_of_getElem? hnd hi⟩
  · rintro ⟨hkey, htotal⟩
    obtain ⟨e', he', hkey'⟩ := List.mem_map.mp hkey
    obtain ⟨i, hi⟩ := List.mem_iff_getElem?.mp he'
    have heq : e' = e := by
      refine Prod.ext hkey' ?_
      rw [← total_of_getElem? hnd hi, hkey', htotal]
    exact heq ▸ he'

/-- Lists of distinct keys with the same totals have the same entries. -/
theorem perm_of_total {l l' : List (κ × M)} (hnd : (keys l).Nodup) (hnd' : (keys l').Nodup)
    (hkeys : ∀ k, k ∈ keys l ↔ k ∈ keys l') (htotal : ∀ k, total l k = total l' k) :
    l.Perm l' := by
  rw [List.perm_ext_iff_of_nodup (List.Nodup.of_map _ hnd) (List.Nodup.of_map _ hnd')]
  intro e
  rw [mem_iff_total hnd, mem_iff_total hnd', hkeys, htotal]

/-- Amounts in another order make the same entries. -/
theorem accumulateAll_perm {l calls calls' : List (κ × M)} (hnd : (keys l).Nodup)
    (h : calls.Perm calls') : (accumulateAll l calls).Perm (accumulateAll l calls') := by
  refine perm_of_total (nodup_accumulateAll hnd _) (nodup_accumulateAll hnd _) ?_ ?_
  · intro k
    rw [mem_keys_accumulateAll, mem_keys_accumulateAll, keys, keys, keys, (h.map _).mem_iff]
  · intro k
    rw [total_accumulateAll hnd, total_accumulateAll hnd, total_perm h]

private theorem sum_map_add {l : List (κ × M)} (hnd : (keys l).Nodup) {k : κ} (hk : k ∈ keys l)
    (m : M) : ((l.map fun e => if e.1 = k then (e.1, e.2 + m) else e).map Prod.snd).sum =
      (l.map Prod.snd).sum + m := by
  induction l with
  | nil => cases hk
  | cons e l ih =>
    simp only [keys, List.map_cons, List.nodup_cons] at hnd
    simp only [List.map_cons, List.sum_cons]
    by_cases he : e.1 = k
    · subst he
      have hrest : (l.map fun x => if x.1 = e.1 then (x.1, x.2 + m) else x) = l := by
        conv_rhs => rw [← List.map_id l]
        apply List.map_congr_left
        intro x hx
        rw [if_neg]
        · rfl
        · intro hxe
          exact hnd.1 (hxe ▸ List.mem_map_of_mem hx)
      rw [hrest, if_pos rfl]
      exact add_right_comm _ _ _
    · have hk' : k ∈ keys l := (List.mem_cons.mp hk).resolve_left (Ne.symm he)
      rw [if_neg he, ih hnd.2 hk', add_assoc]

theorem sum_accumulate {l : List (κ × M)} (hnd : (keys l).Nodup) (k : κ) (m : M) :
    ((accumulate l k m).map Prod.snd).sum = (l.map Prod.snd).sum + m := by
  unfold accumulate accumulateBy
  split_ifs with hk
  · exact sum_map_add hnd hk m
  · simp

/-- Nothing that was added is lost or counted twice. -/
theorem sum_accumulateAll {l : List (κ × M)} (hnd : (keys l).Nodup) (calls : List (κ × M)) :
    ((accumulateAll l calls).map Prod.snd).sum =
      (l.map Prod.snd).sum + (calls.map Prod.snd).sum := by
  induction calls using List.reverseRecOn with
  | nil => simp [accumulateAll, accumulateAllBy]
  | append_singleton calls c ih =>
    rw [accumulateAll_append, sum_accumulate (nodup_accumulateAll hnd calls), ih, List.map_append,
      List.sum_append, List.map_singleton, List.sum_singleton, add_assoc]

end Accumulator
