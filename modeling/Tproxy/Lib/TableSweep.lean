import Mathlib.Data.List.Nodup
import Mathlib.Logic.Function.Basic

/-!
A sweep over a table that takes entries away while it goes on.

The entries in front of the current one are settled, the entries behind it are
to come. A visit leaves the current entry, or removes it with its record.
-/

namespace Tproxy

variable {ι β : Type*} {drop : β → Bool} {kept rest table' : List ι} {record record' : ι → Option β}
  {cur : ι}

/-- What a sweep over the rest of a table did: the entries that `drop` picks are
gone, and all records but theirs are as before. -/
structure Swept (drop : β → Bool) (kept rest : List ι) (record : ι → Option β) (table' : List ι)
    (record' : ι → Option β) : Prop where
  table : table' = kept ++ rest.filter fun n => !(record n).any drop
  stays : ∀ n, ¬(n ∈ rest ∧ (record n).any drop = true) → record' n = record n

/-- The entries of a table are different: the current one does not come again,
and removing it leaves the others in order. -/
theorem sweep_next [DecidableEq ι] (distinct : (kept ++ cur :: rest).Nodup) :
    cur ∉ rest ∧ (kept ++ cur :: rest).erase cur = kept ++ rest := by
  obtain ⟨_, distinctRest, apart⟩ := List.nodup_append.mp distinct
  have notBefore : cur ∉ kept := fun member => apart cur member cur List.mem_cons_self rfl
  refine ⟨(List.nodup_cons.mp distinctRest).1, ?_⟩
  rw [List.erase_append_right _ notBefore, List.erase_cons_head]

theorem Swept.pass (unpicked : (record cur).any drop = false)
    (swept : Swept drop (kept ++ [cur]) rest record table' record') :
    Swept drop kept (cur :: rest) record table' record' := by
  refine ⟨?_, fun n outside => ?_⟩
  · rw [swept.table, List.filter_cons, unpicked, List.append_assoc]
    rfl
  · exact swept.stays n fun both => outside ⟨List.mem_cons_of_mem _ both.1, both.2⟩

/-- The current entry is removed; those to come are other ones. -/
theorem Swept.remove [DecidableEq ι] (picked : (record cur).any drop = true) (notLater : cur ∉ rest)
    (swept : Swept drop kept rest (Function.update record cur none) table' record') :
    Swept drop kept (cur :: rest) record table' record' := by
  have same {n : ι} (inRest : n ∈ rest) : Function.update record cur none n = record n := by
    have apart : n ≠ cur := fun here => notLater (here ▸ inRest)
    rw [Function.update_of_ne apart]
  refine ⟨?_, fun n outside => ?_⟩
  · rw [swept.table, List.filter_cons, picked, Bool.not_true, if_neg Bool.false_ne_true]
    refine congrArg (kept ++ ·) (List.filter_congr fun n inRest => ?_)
    rw [same inRest]
  · have apart : n ≠ cur := by
      rintro rfl
      exact outside ⟨List.mem_cons_self, picked⟩
    rw [swept.stays n, Function.update_of_ne apart]
    rintro ⟨inRest, dropped⟩
    rw [same inRest] at dropped
    exact outside ⟨List.mem_cons_of_mem _ inRest, dropped⟩

end Tproxy
