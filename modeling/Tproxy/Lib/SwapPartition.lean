import Mathlib.Data.List.Rotate

/-!
Grouping a line by in-place swaps.

A scan collects the members of one group at the front of a line by swapping
each with the first element that waits. Seen as a queue, every member found
moves the head of the waiting elements to their end.
-/

namespace Tproxy

variable {α κ : Type*}

/-- One element of the scan: the group so far and the elements waiting. -/
def swapLineStep (pick : α → Bool) (state : List α × List α) (x : α) : List α × List α :=
  if pick x then (state.1 ++ [x], state.2.rotate 1) else (state.1, state.2 ++ [x])

/-- The whole scan. -/
def swapPartition (pick : α → Bool) (line : List α) : List α × List α :=
  line.foldl (swapLineStep pick) ([], [])

@[simp] theorem swapLineStep_of_pick {pick : α → Bool} {x : α} (picked : pick x = true)
    (state : List α × List α) :
    swapLineStep pick state x = (state.1 ++ [x], state.2.rotate 1) := by
  simp [swapLineStep, picked]

@[simp] theorem swapLineStep_of_not_pick {pick : α → Bool} {x : α} (other : pick x = false)
    (state : List α × List α) :
    swapLineStep pick state x = (state.1, state.2 ++ [x]) := by
  simp [swapLineStep, other]

/-- The group is stable. -/
theorem swapLine_group (pick : α → Bool) (line : List α) (state : List α × List α) :
    (line.foldl (swapLineStep pick) state).1 = state.1 ++ line.filter pick := by
  induction line generalizing state with
  | nil => simp
  | cons x rest ih =>
    rw [List.foldl_cons, ih]
    cases picked : pick x
    · simp [picked]
    · simp [picked]

/-- The waiting elements are only permuted. -/
theorem swapLine_waiting (pick : α → Bool) (line : List α) (state : List α × List α) :
    (line.foldl (swapLineStep pick) state).2.Perm (state.2 ++ line.filter (!pick ·)) := by
  induction line generalizing state with
  | nil => simp
  | cons x rest ih =>
    rw [List.foldl_cons]
    refine (ih _).trans ?_
    cases picked : pick x
    · simp [picked]
    · simpa [picked]
        using (List.rotate_perm state.2 1).append_right (rest.filter (!pick ·))

/-- Where nothing is picked, the scan only appends. -/
theorem swapLine_of_none (pick : α → Bool) (line : List α) (state : List α × List α)
    (none : ∀ x ∈ line, pick x = false) :
    line.foldl (swapLineStep pick) state = (state.1, state.2 ++ line) := by
  induction line generalizing state with
  | nil => simp
  | cons x rest ih =>
    obtain ⟨other, others⟩ := List.forall_mem_cons.mp none
    rw [List.foldl_cons, swapLineStep_of_not_pick other, ih _ others]
    simp

theorem swapPartition_group (pick : α → Bool) (line : List α) :
    (swapPartition pick line).1 = line.filter pick := by
  simpa [swapPartition] using swapLine_group pick line ([], [])

theorem swapPartition_waiting (pick : α → Bool) (line : List α) :
    (swapPartition pick line).2.Perm (line.filter (!pick ·)) := by
  simpa [swapPartition] using swapLine_waiting pick line ([], [])

/-- A part of the line behind the last member keeps its place and its order. -/
theorem swapPartition_append (pick : α → Bool) (before after : List α)
    (none : ∀ x ∈ after, pick x = false) :
    (swapPartition pick (before ++ after)).2 = (swapPartition pick before).2 ++ after := by
  rw [swapPartition, List.foldl_append, swapLine_of_none pick after _ none, ← swapPartition]

theorem mem_swapPartition_waiting {pick : α → Bool} {line : List α} {x : α} :
    x ∈ (swapPartition pick line).2 ↔ x ∈ line ∧ pick x = false := by
  rw [(swapPartition_waiting pick line).mem_iff]
  simp

theorem swapPartition_length (pick : α → Bool) (line : List α) :
    (swapPartition pick line).1.length + (swapPartition pick line).2.length = line.length := by
  rw [swapPartition_group, (swapPartition_waiting pick line).length_eq]
  simpa using (List.length_eq_length_filter_add pick (l := line)).symm

variable [DecidableEq κ]

/-- The groups of a line by their key, each collected by one scan of what the
scans before it left. One unit of fuel pays for one group. -/
def swapGroups (key : α → κ) : Nat → List α → List (κ × List α)
  | 0, _ => []
  | _ + 1, [] => []
  | fuel + 1, first :: rest =>
    let parted := swapPartition (fun x => key x = key first) (first :: rest)
    (key first, parted.1) :: swapGroups key fuel parted.2

/-- A key that does not occur has no group. -/
theorem swapGroups_filter_nil {key : α → κ} {k : κ} (fuel : Nat) (line : List α)
    (absent : ∀ x ∈ line, key x ≠ k) :
    (swapGroups key fuel line).filter (fun group => group.1 = k) = [] := by
  induction fuel generalizing line with
  | zero => rfl
  | succ fuel ih =>
    cases line with
    | nil => rfl
    | cons first rest =>
      have other : key first ≠ k := absent first (by simp)
      simp only [swapGroups, List.filter_cons, other, decide_false]
      refine ih _ fun x mem => absent x ?_
      exact (mem_swapPartition_waiting.mp mem).1

/-- The waiting elements after the first scan, seen through another key. -/
theorem swapPartition_filter_perm {key : α → κ} {k : κ} {first : α} (line : List α)
    (other : key first ≠ k) :
    ((swapPartition (fun x => key x = key first) line).2.filter fun x => key x = k).Perm
      (line.filter fun x => key x = k) := by
  refine ((swapPartition_waiting _ line).filter _).trans (.of_eq ?_)
  rw [List.filter_filter]
  refine List.filter_congr fun x _ => ?_
  by_cases same : key x = k
  · simp [same, Ne.symm other]
  · simp [same]

/-- The first element of a line is always collected by its scan. -/
theorem swapPartition_waiting_lt (key : α → κ) (first : α) (rest : List α) :
    (swapPartition (fun x => key x = key first) (first :: rest)).2.length < (first :: rest).length := by
  have lengths := swapPartition_length (fun x => key x = key first) (first :: rest)
  rw [swapPartition_group] at lengths
  simp only [decide_true, List.filter_cons_of_pos, List.length_cons] at lengths ⊢
  omega

/-- Every key that occurs has exactly one group, with exactly its elements. -/
theorem swapGroups_filter_perm (key : α → κ) {k : κ} {fuel : Nat} {line : List α}
    (enough : line.length ≤ fuel) (occurs : ∃ x ∈ line, key x = k) :
    ∃ group, (swapGroups key fuel line).filter (fun group => group.1 = k) = [(k, group)] ∧
      group.Perm (line.filter fun x => key x = k) := by
  induction fuel generalizing line with
  | zero =>
    obtain ⟨x, mem, -⟩ := occurs
    simp [List.length_eq_zero_iff.mp (Nat.le_zero.mp enough)] at mem
  | succ fuel ih =>
    cases line with
    | nil => simp at occurs
    | cons first rest =>
      have shorter := swapPartition_waiting_lt key first rest
      by_cases same : key first = k
      · subst same
        refine ⟨_, ?_, .of_eq (swapPartition_group _ _)⟩
        have none : ∀ x ∈ (swapPartition (fun x => key x = key first) (first :: rest)).2,
            key x ≠ key first := fun x mem => by
          simpa using (mem_swapPartition_waiting.mp mem).2
        simp [swapGroups, swapGroups_filter_nil fuel _ none]
      · obtain ⟨x, mem, found⟩ := occurs
        have stays : ∃ x ∈ (swapPartition (fun x => key x = key first) (first :: rest)).2,
            key x = k :=
          ⟨x, mem_swapPartition_waiting.mpr ⟨mem, by simp [found, Ne.symm same]⟩, found⟩
        obtain ⟨group, served, members⟩ := ih (by omega) stays
        refine ⟨group, ?_, members.trans (swapPartition_filter_perm _ same)⟩
        simp [swapGroups, same, served]

/-- The line can be cut in two parts so that the first has exactly one element
of key `k`, and no other key has elements in both parts. -/
def CutAt (key : α → κ) (k : κ) (before after : List α) : Prop :=
  (before.filter fun x => key x = k).length = 1 ∧
    ∀ x ∈ before, ∀ y ∈ after, key x = key y → key x = k

/-- Serving another key keeps the cut. -/
theorem CutAt.serve {key : α → κ} {k : κ} {first : α} {before after : List α}
    (cut : CutAt key k (first :: before) after) (other : key first ≠ k) :
    CutAt key k (swapPartition (fun x => key x = key first) (first :: before)).2 after ∧
      (swapPartition (fun x => key x = key first) (first :: before ++ after)).2 =
        (swapPartition (fun x => key x = key first) (first :: before)).2 ++ after := by
  obtain ⟨once, apart⟩ := cut
  refine ⟨⟨?_, ?_⟩, ?_⟩
  · rw [(swapPartition_filter_perm (first :: before) other).length_eq]
    exact once
  · intro x mem y later same
    exact apart x (mem_swapPartition_waiting.mp mem).1 y later same
  · refine swapPartition_append _ _ _ fun y later => ?_
    refine decide_eq_false fun same => other ?_
    exact apart first (by simp) y later same.symm

/-- With a cut, the group of the key is in the order of the line. -/
theorem swapGroups_filter_eq {key : α → κ} {k : κ} {fuel : Nat} {before after : List α}
    (enough : (before ++ after).length ≤ fuel) (cut : CutAt key k before after) :
    (swapGroups key fuel (before ++ after)).filter (fun group => group.1 = k) =
      [(k, (before ++ after).filter fun x => key x = k)] := by
  induction fuel generalizing before with
  | zero =>
    have empty : before = [] := by
      simpa using (List.append_eq_nil_iff.mp (List.length_eq_zero_iff.mp (Nat.le_zero.mp enough))).1
    simp [CutAt, empty] at cut
  | succ fuel ih =>
    cases before with
    | nil => simp [CutAt] at cut
    | cons first rest =>
      have shorter := swapPartition_waiting_lt key first (rest ++ after)
      by_cases same : key first = k
      · subst same
        have none : ∀ x ∈ (swapPartition (fun x => key x = key first) (first :: (rest ++ after))).2,
            key x ≠ key first := fun x mem => by
          simpa using (mem_swapPartition_waiting.mp mem).2
        simp only [List.cons_append, swapGroups, List.filter_cons, decide_true,
          swapGroups_filter_nil fuel _ none, swapPartition_group, if_true]
      · obtain ⟨kept, moved⟩ := cut.serve same
        have served := ih (by rw [← moved]; simpa using Nat.le_of_lt_succ (shorter.trans_le enough))
          kept
        simp only [List.cons_append] at moved ⊢
        simp only [swapGroups, List.filter_cons, same, decide_false, moved, served]
        have single : (swapPartition (fun x => key x = key first) (first :: rest)).2.filter
            (fun x => key x = k) = (first :: rest).filter fun x => key x = k := by
          obtain ⟨x, only⟩ := List.length_eq_one_iff.mp cut.1
          rw [only]
          exact List.perm_singleton.mp (only ▸ swapPartition_filter_perm (first :: rest) same)
        rw [List.filter_append, single, ← List.filter_append]
        simp [same]

end Tproxy
