import Mathlib.Data.List.Nodup
import Tproxy.Lib.StrictScan

namespace Tproxy

variable {α τ : Type*} [DecidableEq α] [LinearOrder τ] {lastActive : α → τ} {maxsize : Nat}
  {table : List α} {entry victim : α}

/-- The least recently active member of a table, the oldest among equals and
never `entry` itself. -/
def lruVictim (lastActive : α → τ) (table : List α) (entry : α) : Option α :=
  strictScan (fun cur best => decide (lastActive cur < lastActive best)) none
    (table.filter (· ≠ entry))

/-- Add `entry` at the end of a table and, when the table is then larger than
`maxsize`, remove and return the least recently active other member. -/
def lruAdd (lastActive : α → τ) (maxsize : Nat) (table : List α) (entry : α) :
    List α × Option α :=
  let added := table ++ [entry]
  if added.length > maxsize then
    match lruVictim lastActive added entry with
    | some victim => (added.erase victim, some victim)
    | none => (added, none)
  else (added, none)

theorem lruVictim_mem (evicted : lruVictim lastActive table entry = some victim) :
    victim ∈ table ∧ victim ≠ entry := by
  rcases strictScan_mem evicted with none | member
  · cases none
  · simpa only [List.mem_filter, decide_eq_true_eq] using member

theorem lruVictim_eq_none (kept : lruVictim lastActive table entry = none) :
    ∀ x ∈ table, x = entry := by
  intro x member
  by_contra other
  have empty := (strictScan_eq_none.mp kept).2
  have inside : x ∈ table.filter (· ≠ entry) := by
    simpa only [List.mem_filter, decide_eq_true_eq] using ⟨member, other⟩
  rw [empty] at inside
  cases inside

/-- Adding either keeps everything, with room left or nothing else to evict, or
takes out one older member. -/
theorem lruAdd_cases (lastActive : α → τ) (maxsize : Nat) (table : List α) (entry : α) :
    lruAdd lastActive maxsize table entry = (table ++ [entry], none) ∧
        (table.length < maxsize ∨ ∀ x ∈ table, x = entry) ∨
      ∃ victim ∈ table, victim ≠ entry ∧
        lruAdd lastActive maxsize table entry = ((table ++ [entry]).erase victim, some victim) := by
  unfold lruAdd
  simp only [List.length_append, List.length_singleton]
  split
  · cases evicted : lruVictim lastActive (table ++ [entry]) entry with
    | none =>
      have only := lruVictim_eq_none evicted
      exact Or.inl ⟨rfl, Or.inr fun x member => only x (List.mem_append_left _ member)⟩
    | some victim =>
      obtain ⟨member, other⟩ := lruVictim_mem evicted
      have old : victim ∈ table := (List.mem_append.mp member).resolve_right fun last =>
        other (List.mem_singleton.mp last)
      exact Or.inr ⟨victim, old, other, rfl⟩
  · rename_i room
    exact Or.inl ⟨rfl, Or.inl (by omega)⟩

/-- Nothing gets lost: the table and the victim are the old table and the entry. -/
theorem lruAdd_perm (lastActive : α → τ) (maxsize : Nat) (table : List α) (entry : α) :
    ((lruAdd lastActive maxsize table entry).1 ++
      (lruAdd lastActive maxsize table entry).2.toList).Perm (entry :: table) := by
  have appended : (table ++ [entry]).Perm (entry :: table) := List.perm_append_comm
  rcases lruAdd_cases lastActive maxsize table entry with ⟨kept, _⟩ | ⟨victim, old, _, evicted⟩
  · rw [kept, Option.toList_none, List.append_nil]
    exact appended
  · rw [evicted, Option.toList_some]
    have taken := List.perm_cons_erase (List.mem_append_left [entry] old)
    exact (List.perm_append_comm.trans taken.symm).trans appended

/-- A table of at least one place never outgrows its maximum. -/
theorem lruAdd_length (lastActive : α → τ) (positive : 0 < maxsize) (fresh : entry ∉ table)
    (bounded : table.length ≤ maxsize) :
    (lruAdd lastActive maxsize table entry).1.length ≤ maxsize := by
  rcases lruAdd_cases lastActive maxsize table entry with
    ⟨added, room | only⟩ | ⟨victim, old, _, added⟩
  · rw [added, List.length_append, List.length_singleton]
    omega
  · have empty : table = [] := List.eq_nil_iff_forall_not_mem.mpr fun x member =>
      fresh (only x member ▸ member)
    rw [added, empty]
    exact positive
  · rw [added, List.length_erase_of_mem (List.mem_append_left _ old), List.length_append,
      List.length_singleton]
    omega

/-- An eviction happens in a full table only. It takes the least recently
active member of it, the oldest among equals. -/
theorem lruAdd_evicted {added : List α} (fresh : entry ∉ table)
    (run : lruAdd lastActive maxsize table entry = (added, some victim)) :
    maxsize ≤ table.length ∧ ∃ before after, table = before ++ victim :: after ∧
      (∀ x ∈ before, lastActive victim < lastActive x) ∧
      (∀ x ∈ after, lastActive victim ≤ lastActive x) := by
  have others : (table ++ [entry]).filter (· ≠ entry) = table := by
    rw [List.filter_append, List.filter_eq_self.mpr]
    · simp
    · intro x member
      exact decide_eq_true fun same => fresh (same ▸ member)
  have compares : ∀ a b, decide (lastActive a < lastActive b) = true ↔ lastActive a < lastActive b :=
    fun _ _ => decide_eq_true_iff
  unfold lruAdd at run
  simp only [List.length_append, List.length_singleton] at run
  split at run
  · rename_i full
    cases evicted : lruVictim lastActive (table ++ [entry]) entry with
    | none =>
      rw [evicted] at run
      cases run
    | some taken =>
      rw [evicted] at run
      obtain rfl := Option.some.inj (Prod.mk.inj run).2
      rw [lruVictim, others] at evicted
      obtain ⟨before, after, rfl, first⟩ := strictScan_first compares evicted
      refine ⟨by omega, before, after, rfl, first, fun x member => ?_⟩
      exact (strictScan_le compares evicted).2 x
        (List.mem_append_right _ (List.mem_cons_of_mem _ member))
  · cases run

end Tproxy
