import TinyPlay.Spec.QueryCounters

/-! A pool of connections that keeps the laws of `Orm.Lawful`: each opened connection has a cell
for its elapsed time and one for its statements, and a cell is empty while it does not count. -/

namespace TinyPlay

abbrev Cells (V : Type) := String → Option V

namespace Cells

variable {V : Type}

def enable [Zero V] (cells : Cells V) (ns : List String) : Cells V :=
  fun n => if n ∈ ns then some 0 else cells n

def reset [Zero V] (cells : Cells V) (ns : List String) : Cells V :=
  fun n => if n ∈ ns then (cells n).map fun _ => 0 else cells n

def add [Add V] (cells : Cells V) (c : String) (v : V) : Cells V :=
  Function.update cells c ((cells c).map (· + v))

def pending [Zero V] (cells : Cells V) (n : String) : V := (cells n).getD 0

theorem isSome_enable [Zero V] (cells : Cells V) (ns : List String) (n : String) :
    (cells.enable ns n).isSome = (decide (n ∈ ns) || (cells n).isSome) := by
  unfold enable
  by_cases hn : n ∈ ns <;> simp [hn]

theorem isSome_reset [Zero V] (cells : Cells V) (ns : List String) (n : String) :
    (cells.reset ns n).isSome = (cells n).isSome := by
  unfold reset
  split_ifs <;> simp

theorem isSome_add [Add V] (cells : Cells V) (c : String) (v : V) (n : String) :
    (cells.add c v n).isSome = (cells n).isSome := by
  unfold add
  by_cases hn : n = c
  · subst hn
    simp
  · rw [Function.update_of_ne hn]

theorem pending_enable [Zero V] (cells : Cells V) (ns : List String) (n : String) :
    (cells.enable ns).pending n = if n ∈ ns then 0 else cells.pending n := by
  unfold pending enable
  split_ifs <;> rfl

theorem pending_reset [Zero V] (cells : Cells V) (ns : List String) (n : String) :
    (cells.reset ns).pending n = if n ∈ ns then 0 else cells.pending n := by
  unfold pending reset
  split_ifs
  · cases cells n <;> rfl
  · rfl

theorem pending_add [Zero V] [Add V] (cells : Cells V) (c : String) (v : V) :
    (cells.add c v).pending = if (cells c).isSome then
      Function.update cells.pending c (cells.pending c + v) else cells.pending := by
  funext n
  unfold pending add
  by_cases hn : n = c
  · subst hn
    cases hc : cells n <;> simp [hc]
  · cases hc : cells c <;> simp [Function.update_of_ne hn]

end Cells

/-- Only opened connections have cells. -/
structure Pool where
  opened : List String
  elapsed : Cells ℤ
  statements : Cells StatementsCounter
  elapsed_opened : ∀ n, (elapsed n).isSome → n ∈ opened
  statements_opened : ∀ n, (statements n).isSome → n ∈ opened

namespace Pool

def empty : Pool where
  opened := []
  elapsed _ := none
  statements _ := none
  elapsed_opened _ h := by cases h
  statements_opened _ h := by cases h

def openNames (s : Pool) (ns : List String) : Pool where
  opened := ns ++ s.opened
  elapsed := s.elapsed
  statements := s.statements
  elapsed_opened n h := List.mem_append_right ns (s.elapsed_opened n h)
  statements_opened n h := List.mem_append_right ns (s.statements_opened n h)

theorem mem_openNames {s : Pool} {ns : List String} {n : String} :
    n ∈ (s.openNames ns).opened ↔ n ∈ ns ∨ n ∈ s.opened :=
  List.mem_append

/-- One of the two families of cells of a pool. -/
structure Family (V : Type) where
  get : Pool → Cells V
  set (s : Pool) (cells : Cells V) (h : ∀ n, (cells n).isSome → n ∈ s.opened) : Pool
  get_opened : ∀ s n, (get s n).isSome → n ∈ s.opened
  get_openNames : ∀ s ns, get (s.openNames ns) = get s
  get_set : ∀ s cells h, get (set s cells h) = cells
  opened_set : ∀ s cells h, (set s cells h).opened = s.opened

def elapsedFamily : Family ℤ where
  get := elapsed
  set s cells h := { s with elapsed := cells, elapsed_opened := h }
  get_opened := elapsed_opened
  get_openNames _ _ := rfl
  get_set _ _ _ := rfl
  opened_set _ _ _ := rfl

def statementsFamily : Family StatementsCounter where
  get := statements
  set s cells h := { s with statements := cells, statements_opened := h }
  get_opened := statements_opened
  get_openNames _ _ := rfl
  get_set _ _ _ := rfl
  opened_set _ _ _ := rfl

namespace Family

variable {V : Type} [Zero V] (family : Family V)

def enable (s : Pool) (ns : List String) : Pool :=
  family.set (s.openNames ns) ((family.get s).enable ns) fun n h => by
    rw [Cells.isSome_enable, Bool.or_eq_true, decide_eq_true_eq] at h
    exact mem_openNames.mpr (h.imp id (family.get_opened s n))

def reset (s : Pool) (ns : List String) : Pool :=
  family.set s ((family.get s).reset ns) fun n h => by
    rw [Cells.isSome_reset] at h
    exact family.get_opened s n h

def add [Add V] (s : Pool) (c : String) (v : V) : Pool :=
  family.set s ((family.get s).add c v) fun n h => by
    rw [Cells.isSome_add] at h
    exact family.get_opened s n h

def counter (off : V) : ConnectionCounter Pool V where
  enable := family.enable
  reset := family.reset
  anyCounting s := s.opened.any fun n => (family.get s n).isSome
  counting s n := (family.get s n).isSome
  take s n := ((family.get s n).getD off, family.reset s [n])

theorem counter_lawful (off : V) :
    (family.counter off).Lawful opened off fun s => (family.get s).pending where
  counting_opened := family.get_opened
  anyCounting_iff s := by simp [counter]
  pending_off s n h := by
    simp only [counter, Option.isSome_eq_false_iff, Option.isNone_iff_eq_none] at h
    simp [Cells.pending, h]
  take_value s n := by
    cases h : family.get s n <;> simp [counter, Cells.pending, h]
  take_pending s n := by
    funext m
    simp only [counter, reset, family.get_set]
    rw [Cells.pending_reset, Function.update_apply]
    simp
  take_counting s n := by
    funext m
    simp only [counter, reset, family.get_set]
    exact Cells.isSome_reset _ _ m
  enable_pending s ns n := by
    simp only [counter, enable, family.get_set]
    exact Cells.pending_enable _ ns n
  enable_counting s ns n := by
    simp only [counter, enable, family.get_set]
    exact Cells.isSome_enable _ ns n
  reset_pending s ns n := by
    simp only [counter, reset, family.get_set]
    exact Cells.pending_reset _ ns n
  reset_counting s ns := by
    funext m
    simp only [counter, reset, family.get_set]
    exact Cells.isSome_reset _ ns m

end Family

/-- Connections open on demand, and a statement adds to the cells of its connection. -/
def orm : Orm Pool where
  connection s n := .ok (s.openNames [n])
  openedConnectionNames := opened
  elapsed := elapsedFamily.counter (-1)
  statements := statementsFamily.counter ⟨-1, -1, -1⟩
  forgetRecordModificationState s _ := s
  getRecordsHaveBeenModified _ _ := false
  execute s c kind ms := statementsFamily.add (elapsedFamily.add s c ms) c (.single kind)

theorem lawful : orm.Lawful (fun s => s.elapsed.pending) fun s => s.statements.pending where
  elapsed := {
    elapsedFamily.counter_lawful (-1) with
    connection := by
      intro s n s' h
      cases h
      exact ⟨rfl, rfl⟩
    forget := fun _ _ => ⟨rfl, rfl⟩
    other_take := fun _ _ => ⟨rfl, rfl⟩
    other_enable := fun _ _ => ⟨rfl, rfl⟩
    other_reset := fun _ _ => ⟨rfl, rfl⟩
    execute_counting := fun s c _ ms => funext (Cells.isSome_add s.elapsed c ms)
    execute_pending := fun s c _ ms => Cells.pending_add s.elapsed c ms }
  statements := {
    statementsFamily.counter_lawful ⟨-1, -1, -1⟩ with
    connection := by
      intro s n s' h
      cases h
      exact ⟨rfl, rfl⟩
    forget := fun _ _ => ⟨rfl, rfl⟩
    other_take := fun _ _ => ⟨rfl, rfl⟩
    other_enable := fun _ _ => ⟨rfl, rfl⟩
    other_reset := fun _ _ => ⟨rfl, rfl⟩
    execute_counting := fun s c kind _ => funext (Cells.isSome_add s.statements c _)
    execute_pending := fun s c kind _ => Cells.pending_add s.statements c _ }

end Pool

end TinyPlay
