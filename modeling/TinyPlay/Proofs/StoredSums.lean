import TinyPlay.Proofs.AppCounters
import TinyPlay.Spec.QueryCounters
import Mathlib.Algebra.Order.BigOperators.Group.List

/-! The application counters when `int` has 32 bits and `qint64` has 64. The entries, their names
and their flags do not depend on the widths. The number stored for a name is the sum of what was
saved under it as long as the sums on the way to it fit. -/

namespace TinyPlay

open Accumulator Sentinel

/-! ### The numbers among the counters -/

inductive Counter where
  | functionsElapsed
  | queriesElapsed
  | statements (kind : StatementKind)
  deriving DecidableEq, Repr

def ThreadCounters.number (t : ThreadCounters) : Counter → ℤ
  | .functionsElapsed => t.functionsElapsed
  | .queriesElapsed => t.queriesElapsed
  | .statements kind => t.statementsCounter.column kind

/-- The values of the counter's type are below `bound`. -/
def Counter.bound : Counter → ℤ
  | .functionsElapsed | .queriesElapsed => 2 ^ 63
  | .statements _ => 2 ^ 31

/-- A value of the counter's type. -/
def Counter.Fits (k : Counter) (v : ℤ) : Prop := -k.bound ≤ v ∧ v < k.bound

theorem Counter.fits_zero (k : Counter) : k.Fits 0 := by
  rcases k with _ | _ | kind <;> simp [Counter.Fits, Counter.bound]

/-- `int` has 32 bits and `qint64` has 64. -/
structure Store.Widths (store : Store) : Prop where
  int : Holds store.int (2 ^ 31)
  qint64 : Holds store.qint64 (2 ^ 63)

/-- The variable of a counter. -/
def Store.of (store : Store) : Counter → ℤ → ℤ
  | .functionsElapsed | .queriesElapsed => store.qint64
  | .statements _ => store.int

theorem Store.Widths.holds {store : Store} (h : store.Widths) (k : Counter) :
    Holds (store.of k) k.bound := by
  cases k with
  | functionsElapsed | queriesElapsed => exact h.qint64
  | statements kind => exact h.int

namespace ThreadCounters

@[simp] theorem number_zero (k : Counter) : (0 : ThreadCounters).number k = 0 := by
  rcases k with _ | _ | kind
  · rfl
  · rfl
  · cases kind <;> rfl

theorem number_add (a b : ThreadCounters) (k : Counter) :
    (a + b).number k = a.number k + b.number k := by
  rcases k with _ | _ | kind
  · rfl
  · rfl
  · cases kind <;> rfl

theorem number_addIn (store : Store) (a b : ThreadCounters) (k : Counter) :
    (a.addIn store b).number k = store.of k (a.number k + b.number k) := by
  rcases k with _ | _ | kind
  · rfl
  · rfl
  · cases kind <;> rfl

theorem number_sum (k : Counter) (l : List ThreadCounters) :
    l.sum.number k = (l.map fun t => t.number k).sum := by
  induction l with
  | nil => exact number_zero k
  | cons t l ih => rw [List.sum_cons, List.map_cons, List.sum_cons, number_add, ih]

theorem recordsHaveBeenModified_sum (l : List ThreadCounters) :
    l.sum.recordsHaveBeenModified = l.any recordsHaveBeenModified := by
  induction l with
  | nil => rfl
  | cons t l ih =>
    rw [List.sum_cons, List.any_cons, ← ih]
    rfl

end ThreadCounters

/-- Every sum on the way to the sum of the values fits. -/
def Counter.SumsFit (k : Counter) (values : List ℤ) : Prop := ∀ p, p <+: values → k.Fits p.sum

/-- Values that only count up stay below their sum. -/
theorem Counter.sumsFit_of_nonneg {k : Counter} {values : List ℤ} (h : ∀ v ∈ values, 0 ≤ v)
    (hsum : values.sum < k.bound) : k.SumsFit values := by
  rintro p ⟨rest, rfl⟩
  rw [List.sum_append] at hsum
  have hp : 0 ≤ p.sum := List.sum_nonneg fun v hv => h v (List.mem_append_left _ hv)
  have hrest : 0 ≤ rest.sum := List.sum_nonneg fun v hv => h v (List.mem_append_right _ hv)
  have hbound := k.fits_zero.1
  exact ⟨by omega, by omega⟩

namespace AppCounters

variable {store : Store} {calls : List (String × ThreadCounters)}

/-! ### What is stored -/

/-- What the calls save under a name. -/
def savedUnder (calls : List (String × ThreadCounters)) (n : String) : List ThreadCounters :=
  (calls.filter fun c => c.1 = n).map Prod.snd

def numbersUnder (calls : List (String × ThreadCounters)) (n : String) (k : Counter) : List ℤ :=
  (savedUnder calls n).map fun t => t.number k

theorem number_total (calls : List (String × ThreadCounters)) (n : String) (k : Counter) :
    (total calls n).number k = (numbersUnder calls n k).sum := ThreadCounters.number_sum k _

theorem prefix_numbersUnder {p : List (String × ThreadCounters)} (h : p <+: calls) (n : String)
    (k : Counter) : numbersUnder p n k <+: numbersUnder calls n k :=
  ((h.filter _).map _).map _

/-- The entry of a name after the calls. -/
structure Stored (calls : List (String × ThreadCounters)) (n : String) (t : ThreadCounters) :
    Prop where
  modified : t.recordsHaveBeenModified = (savedUnder calls n).any (·.recordsHaveBeenModified)
  exact : ∀ k : Counter, k.SumsFit (numbersUnder calls n k) →
    t.number k = (numbersUnder calls n k).sum
  /-- A counter that only counts up holds the sum if and only if the sum fits. -/
  exact_iff : ∀ k : Counter, (∀ v ∈ numbersUnder calls n k, 0 ≤ v ∧ v < k.bound) →
    (t.number k = (numbersUnder calls n k).sum ↔ (numbersUnder calls n k).sum < k.bound)

/-- The entry of a name in the accumulator of a build. -/
def entryOf (store : Store) (calls : List (String × ThreadCounters)) (n : String) :
    ThreadCounters :=
  total (accumulateAllBy (ThreadCounters.addIn store) constructedItems calls) n

theorem entryOf_modified (store : Store) (calls : List (String × ThreadCounters)) (n : String) :
    (entryOf store calls n).recordsHaveBeenModified =
      (savedUnder calls n).any (·.recordsHaveBeenModified) := by
  rw [← ThreadCounters.recordsHaveBeenModified_sum, entryOf,
    total_accumulateAllBy_eq constructed_represents.nodup n
      ThreadCounters.recordsHaveBeenModified fun _ => True]
  · rw [total_constructedItems, zero_add]
    rfl
  · intro a b m hab _
    simp [ThreadCounters.addIn, ThreadCounters.add_def, hab]
  · exact fun _ _ => trivial

theorem entryOf_number (hstore : store.Widths) {n : String} {k : Counter}
    (hfits : k.SumsFit (numbersUnder calls n k)) :
    (entryOf store calls n).number k = (numbersUnder calls n k).sum := by
  rw [entryOf, total_accumulateAllBy_eq constructed_represents.nodup n (fun t => t.number k) k.Fits,
    total_constructedItems, zero_add, number_total]
  · intro a b m hab hfit
    rw [ThreadCounters.number_add] at hfit ⊢
    rw [ThreadCounters.number_addIn, hab]
    exact (hstore.holds k).exact _ hfit.1 hfit.2
  · intro p hp
    rw [total_constructedItems, zero_add, number_total]
    exact hfits _ (prefix_numbersUnder hp n k)

/-- Values of the type leave a value of the type. -/
theorem entryOf_fits (hstore : store.Widths) (calls : List (String × ThreadCounters)) {n : String}
    {k : Counter} (hvalues : ∀ v ∈ numbersUnder calls n k, k.Fits v) :
    k.Fits ((entryOf store calls n).number k) := by
  refine total_accumulateAllBy_of constructed_represents.nodup n (fun t => k.Fits (t.number k))
    ?_ ?_ ?_
  · intro a m _ _
    rw [ThreadCounters.number_addIn]
    exact (hstore.holds k).range _
  · rw [total_constructedItems, ThreadCounters.number_zero]
    exact k.fits_zero
  · intro c hc hn
    refine hvalues _ (List.mem_map_of_mem (List.mem_map_of_mem (List.mem_filter.mpr ⟨hc, ?_⟩)))
    simpa using hn

theorem entryOf_stored (hstore : store.Widths) (calls : List (String × ThreadCounters))
    (n : String) : Stored calls n (entryOf store calls n) where
  modified := entryOf_modified store calls n
  exact k := entryOf_number hstore
  exact_iff k hvalues := by
    refine ⟨fun heq => ?_, fun hlt => ?_⟩
    · have hfits : k.Fits ((entryOf store calls n).number k) := by
        refine entryOf_fits hstore calls fun v hv => ?_
        have hzero := k.fits_zero.1
        exact ⟨hzero.trans (hvalues v hv).1, (hvalues v hv).2⟩
      exact heq ▸ hfits.2
    · exact entryOf_number hstore (Counter.sumsFit_of_nonneg (fun v hv => (hvalues v hv).1) hlt)

/-! ### Any order of saves -/

/-- The counters of the application after the calls. -/
structure After (store : Store) (calls : List (String × ThreadCounters)) (app : AppCounters) :
    Prop where
  consistent : app.Consistent store
  names : ∀ n, (∃ t, app.valueOf n = some t) ↔ n = "main" ∨ n ∈ calls.map Prod.fst
  stored : ∀ n t, app.valueOf n = some t → Stored calls n t

/-- What the counters have in common after two orders of the same calls. -/
structure SameValues (calls calls' : List (String × ThreadCounters)) (app app' : AppCounters) :
    Prop where
  names : ∀ n, (∃ t, app.valueOf n = some t) ↔ ∃ t, app'.valueOf n = some t
  modified : ∀ n t t', app.valueOf n = some t → app'.valueOf n = some t' →
    t.recordsHaveBeenModified = t'.recordsHaveBeenModified
  number : ∀ n t t' (k : Counter), app.valueOf n = some t → app'.valueOf n = some t' →
    k.SumsFit (numbersUnder calls n k) → k.SumsFit (numbersUnder calls' n k) →
      t.number k = t'.number k

theorem valueOf_iff {app : AppCounters}
    (hrep : app.Represents
      (accumulateAllBy (ThreadCounters.addIn store) constructedItems calls))
    (n : String) (t : ThreadCounters) : app.valueOf n = some t ↔
      (n = "main" ∨ n ∈ calls.map Prod.fst) ∧ t = entryOf store calls n := by
  have hmem : n ∈ keys (accumulateAllBy (ThreadCounters.addIn store) constructedItems calls) ↔
      n = "main" ∨ n ∈ calls.map Prod.fst := by
    rw [mem_keys_accumulateAllBy, constructedItems]
    exact or_congr_left List.mem_singleton
  rw [valueOf_eq hrep, ← hmem]
  split_ifs with hn
  · rw [Option.some_inj, eq_comm]
    exact ⟨fun h => ⟨hn, h⟩, fun h => h.2⟩
  · exact ⟨fun h => (by cases h), fun h => absurd h.1 hn⟩

theorem Represents.after {app : AppCounters} (hstore : store.Widths)
    (hrep : app.Represents
      (accumulateAllBy (ThreadCounters.addIn store) constructedItems calls)) :
    app.After store calls where
  consistent := hrep.consistent (main_first_accumulateAllBy _ calls)
  names n := by
    simp only [valueOf_iff hrep]
    exact ⟨fun ⟨_, h⟩ => h.1, fun h => ⟨_, h, rfl⟩⟩
  stored n t ht := by
    rw [((valueOf_iff hrep n t).mp ht).2]
    exact entryOf_stored hstore calls n

theorem After.sameValues {calls' : List (String × ThreadCounters)} {app app' : AppCounters}
    (h : app.After store calls) (h' : app'.After store calls') (hperm : calls.Perm calls') :
    SameValues calls calls' app app' where
  names n := by
    rw [h.names, h'.names, (hperm.map Prod.fst).mem_iff]
  modified n t t' ht ht' := by
    rw [(h.stored n t ht).modified, (h'.stored n t' ht').modified]
    exact ((hperm.filter _).map _).any_eq
  number n t t' k ht ht' hfits hfits' := by
    rw [(h.stored n t ht).exact k hfits, (h'.stored n t' ht').exact k hfits']
    exact (((hperm.filter _).map _).map _).sum_eq

/-- After any saves in any order the vectors and the map are consistent, the entry of a name is
the sum of everything saved under it as far as the sums fit, and another order of the same saves
stores the same. -/
theorem saveAll_consistent (hstore : store.Widths) (calls : List (String × ThreadCounters)) :
    ∃ app, constructed.saveAll calls store = .ok app ∧ app.After store calls ∧
      ∀ calls' : List (String × ThreadCounters), calls.Perm calls' →
        ∃ app', constructed.saveAll calls' store = .ok app' ∧ app'.After store calls' ∧
          SameValues calls calls' app app' := by
  obtain ⟨app, hrun, hrep⟩ := saveAll_represents store constructed_represents calls
  refine ⟨app, hrun, hrep.after hstore, fun calls' hperm => ?_⟩
  obtain ⟨app', hrun', hrep'⟩ := saveAll_represents store constructed_represents calls'
  exact ⟨app', hrun', hrep'.after hstore, (hrep.after hstore).sameValues (hrep'.after hstore) hperm⟩

/-! ### A full `int` -/

/-- A build on which sums wrap around. -/
def wrapping : Store := ⟨wrap (2 ^ 31), wrap (2 ^ 63)⟩

theorem wrapping_widths : wrapping.Widths := ⟨holds_wrap (by norm_num), holds_wrap (by norm_num)⟩

/-- Two saves under one name and one under another. -/
def threeCalls : List (String × ThreadCounters) :=
  [("mysql", ⟨5, 2, ⟨1, 0, 0⟩, false⟩), ("main", ⟨3, 1, ⟨2, 0, 1⟩, false⟩),
    ("mysql", ⟨7, 4, ⟨0, 3, 0⟩, true⟩)]

theorem saveAll_consistent_threeCalls :
    ∃ app, constructed.saveAll threeCalls wrapping = .ok app ∧ app.After wrapping threeCalls ∧
      ∀ calls' : List (String × ThreadCounters), threeCalls.Perm calls' →
        ∃ app', constructed.saveAll calls' wrapping = .ok app' ∧ app'.After wrapping calls' ∧
          SameValues threeCalls calls' app app' :=
  saveAll_consistent wrapping_widths threeCalls

/-- A build on which a sum stops at the ends of its type. -/
def saturating : Store where
  int n := max (-2 ^ 31) (min n (2 ^ 31 - 1))
  qint64 n := max (-2 ^ 63) (min n (2 ^ 63 - 1))

theorem saturating_widths : saturating.Widths := by
  refine ⟨⟨?_, ?_⟩, ⟨?_, ?_⟩⟩
  all_goals
    simp only [saturating]
    omega

/-- The counters of a thread that counted normal statements only. -/
def normals (n : ℤ) : ThreadCounters := ⟨0, 0, ⟨n, 0, 0⟩, false⟩

/-- What is stored for the normal statements of a name. -/
def storedNormals (store : Store) (calls : List (String × ThreadCounters)) (n : String) :
    Except Exn (Option ℤ) := do
  let app ← constructed.saveAll calls store
  return (app.valueOf n).map fun t => t.number (.statements .normal)

theorem storedNormals_eq (store : Store) {calls : List (String × ThreadCounters)} {n : String}
    (hn : n ∈ calls.map Prod.fst) : storedNormals store calls n =
      .ok (some ((entryOf store calls n).number (.statements .normal))) := by
  obtain ⟨app, hrun, hrep⟩ := saveAll_represents store constructed_represents calls
  have hentry := (valueOf_iff hrep n _).mpr ⟨Or.inr hn, rfl⟩
  simp [storedNormals, hrun, hentry, bind, Except.bind, pure, Except.pure]

/-- One statement more than an `int` can count is stored as a negative number where sums wrap
around, and where they saturate two orders of the same saves store different numbers. -/
theorem fullInt_overflows :
    wrapping.Widths ∧ saturating.Widths ∧
      (numbersUnder [("mysql", normals (2 ^ 31 - 1)), ("mysql", normals 1)] "mysql"
        (.statements .normal)).sum = 2147483648 ∧
      storedNormals wrapping [("mysql", normals (2 ^ 31 - 1)), ("mysql", normals 1)] "mysql" =
        .ok (some (-2147483648)) ∧
      storedNormals saturating [("mysql", normals (2 ^ 31 - 1)), ("mysql", normals 1),
        ("mysql", normals (-1))] "mysql" = .ok (some 2147483646) ∧
      storedNormals saturating [("mysql", normals (2 ^ 31 - 1)), ("mysql", normals (-1)),
        ("mysql", normals 1)] "mysql" = .ok (some 2147483647) := by
  refine ⟨wrapping_widths, saturating_widths, by decide, ?_, ?_, ?_⟩
  all_goals
    rw [storedNormals_eq _ (by decide)]
    decide

end AppCounters

end TinyPlay
