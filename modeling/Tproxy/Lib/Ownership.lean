import Mathlib.Data.List.Nodup
import Mathlib.Logic.Function.Basic

namespace Tproxy

variable {α ω : Type*}

/-- The resources `taken` are each held by exactly one owner, and `held` tells
what an owner holds. -/
structure Owned (taken : List α) (held : ω → Option α) : Prop where
  nodup : taken.Nodup
  mem_iff : ∀ r, r ∈ taken ↔ ∃ o, held o = some r
  injective : ∀ o o' r, held o = some r → held o' = some r → o = o'

variable {taken : List α} {held : ω → Option α} {o : ω} {r : α}

theorem Owned.empty : Owned ([] : List α) fun _ : ω => none :=
  ⟨List.nodup_nil, by simp, by simp⟩

theorem Owned.mem (owned : Owned taken held) (holds : held o = some r) : r ∈ taken :=
  (owned.mem_iff r).mpr ⟨o, holds⟩

theorem Owned.perm (owned : Owned taken held) {taken' : List α} (same : taken.Perm taken') :
    Owned taken' held where
  nodup := same.nodup_iff.mp owned.nodup
  mem_iff r := same.mem_iff.symm.trans (owned.mem_iff r)
  injective := owned.injective

/-- The resources are what the owners hold, one after the other. -/
theorem Owned.perm_owners (owned : Owned taken held) {owners : List ω} (distinct : owners.Nodup)
    (all : ∀ p, (held p).isSome ↔ p ∈ owners) : taken.Perm (owners.filterMap held) := by
  refine (List.perm_ext_iff_of_nodup owned.nodup ?_).mpr fun q => ?_
  · refine distinct.filterMap fun p p' q holds holds' => ?_
    exact owned.injective p p' q holds holds'
  · rw [List.mem_filterMap, owned.mem_iff]
    refine exists_congr fun p => ⟨fun holds => ⟨(all p).mp ?_, holds⟩, fun both => both.2⟩
    rw [holds]
    rfl

/-- There are as many resources as owners. -/
theorem Owned.length_eq (owned : Owned taken held) {owners : List ω} (distinct : owners.Nodup)
    (all : ∀ p, (held p).isSome ↔ p ∈ owners) : taken.length = owners.length := by
  rw [(owned.perm_owners distinct all).length_eq, List.length_filterMap_eq_countP,
    List.countP_eq_length]
  exact fun p member => (all p).mpr member

variable [DecidableEq ω]

/-- A new owner takes a free resource. -/
theorem Owned.acquire (owned : Owned taken held) (idle : held o = none) (fresh : r ∉ taken) :
    Owned (r :: taken) (Function.update held o (some r)) where
  nodup := List.nodup_cons.mpr ⟨fresh, owned.nodup⟩
  mem_iff q := by
    rw [List.mem_cons, owned.mem_iff]
    constructor
    · rintro (rfl | ⟨p, holds⟩)
      · exact ⟨o, Function.update_self ..⟩
      · have differ : p ≠ o := fun same => by rw [same, idle] at holds; cases holds
        exact ⟨p, by rw [Function.update_of_ne differ, holds]⟩
    · rintro ⟨p, holds⟩
      by_cases same : p = o
      · rw [same, Function.update_self] at holds
        exact Or.inl (Option.some.inj holds).symm
      · rw [Function.update_of_ne same] at holds
        exact Or.inr ⟨p, holds⟩
  injective p p' q holds holds' := by
    by_cases same : p = o <;> by_cases same' : p' = o
    · rw [same, same']
    · rw [same, Function.update_self] at holds
      rw [Function.update_of_ne same'] at holds'
      cases holds
      exact absurd (owned.mem holds') fresh
    · rw [same', Function.update_self] at holds'
      rw [Function.update_of_ne same] at holds
      cases holds'
      exact absurd (owned.mem holds) fresh
    · rw [Function.update_of_ne same] at holds
      rw [Function.update_of_ne same'] at holds'
      exact owned.injective p p' q holds holds'

/-- An owner gives its resource back. -/
theorem Owned.release [DecidableEq α] (owned : Owned taken held) (holds : held o = some r) :
    Owned (taken.erase r) (Function.update held o none) where
  nodup := owned.nodup.erase r
  mem_iff q := by
    rw [owned.nodup.mem_erase_iff, owned.mem_iff]
    constructor
    · rintro ⟨differ, p, other⟩
      have apart : p ≠ o := fun same => by
        rw [same, holds] at other
        exact differ (Option.some.inj other).symm
      exact ⟨p, by rw [Function.update_of_ne apart, other]⟩
    · rintro ⟨p, other⟩
      by_cases same : p = o
      · rw [same, Function.update_self] at other
        cases other
      · rw [Function.update_of_ne same] at other
        refine ⟨?_, p, other⟩
        rintro rfl
        exact same (owned.injective p o q other holds)
  injective p p' q other other' := by
    by_cases same : p = o
    · rw [same, Function.update_self] at other
      cases other
    · by_cases same' : p' = o
      · rw [same', Function.update_self] at other'
        cases other'
      · rw [Function.update_of_ne same] at other
        rw [Function.update_of_ne same'] at other'
        exact owned.injective p p' q other other'

/-- An owner hands its resource to another one that has none. -/
theorem Owned.transfer [DecidableEq α] (owned : Owned taken held) {o' : ω} (holds : held o = some r)
    (idle : held o' = none) :
    Owned taken (Function.update (Function.update held o none) o' (some r)) := by
  have released := owned.release holds
  have differ : o' ≠ o := fun same => by
    rw [same, holds] at idle
    cases idle
  have idle' : Function.update held o none o' = none := by
    rw [Function.update_of_ne differ, idle]
  have free : r ∉ taken.erase r := fun member => (owned.nodup.mem_erase_iff.mp member).1 rfl
  exact (released.acquire idle' free).perm (List.perm_cons_erase (owned.mem holds)).symm

end Tproxy
