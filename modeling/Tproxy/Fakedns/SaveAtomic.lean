import Tproxy.Fakedns.SaveFile

namespace Tproxy

variable {answers : SaveAnswers} {st st' : FakednsSaving} {s : Fakedns} {now : BitVec 32}
  {path tmpPath : List UInt8}

/-- How a save that opened its temporary file ends: that file is gone, and
only a save without a failed call changes the file at `path`. -/
structure SaveEnds (before after : FakednsSaving) (tmpPath path : List UInt8) (ok : Bool) : Prop where
  log : ∃ calls, after.log = before.log ++ calls ∧ (ok = true ↔ ∀ call ∈ calls, call.2 = true)
  tmp : after.files tmpPath = none
  kept : ok = false → after.files path = before.files path
  others : ∀ other, other ≠ tmpPath → other ≠ path → after.files other = before.files other

/-- The last step of a save in which all calls were successful so far. -/
theorem SaveCalls.rename (made : SaveCalls st st' true) (answers : SaveAnswers) (differ : path ≠ tmpPath) :
    ∃ ok, SaveEnds st (saveRename answers tmpPath path (saveClose tmpPath st')) tmpPath path ok ∧
      (ok = true → (saveRename answers tmpPath path (saveClose tmpPath st')).files path =
        some st'.content) := by
  have closed : ∀ other, other ≠ tmpPath → (saveClose tmpPath st').files other = st.files other :=
    fun other apart => by simp only [saveClose, Function.update_of_ne apart, made.files]
  obtain ⟨calls, log, all⟩ := made.log
  have renamed := saveCall_calls answers .rename (saveClose tmpPath st')
  unfold saveRename
  split <;> rename_i st'' call <;> rw [call] at renamed
  · obtain ⟨files, calls', log', all'⟩ := renamed
    dsimp only at files log' all'
    rw [if_neg differ.symm]
    refine ⟨true, { log := ⟨calls ++ calls', ?_, ?_⟩, tmp := ?_, kept := ?_, others := ?_ }, fun _ => ?_⟩
    · simp only [log', saveClose, log, List.append_assoc]
    · simp only [List.forall_mem_append, ← all, ← all', and_self]
    · exact Function.update_self ..
    · exact fun failed => absurd failed.symm Bool.false_ne_true
    · intro other apart off
      simp only [Function.update_of_ne apart, Function.update_of_ne off, files, closed other apart]
    · simp only [Function.update_of_ne differ, Function.update_self, files, saveClose]
  · obtain ⟨files, calls', log', all'⟩ := renamed
    dsimp only at files log' all'
    have kept : ∀ other, other ≠ tmpPath →
        (saveUnlink tmpPath st'').files other = st.files other := fun other apart => by
      simp only [saveUnlink, Function.update_of_ne apart, files, closed other apart]
    refine ⟨false, { log := ⟨calls ++ calls', ?_, ?_⟩, tmp := ?_, kept := ?_, others := ?_ }, ?_⟩
    · simp only [saveUnlink, log', saveClose, log, List.append_assoc]
    · rw [List.forall_mem_append, ← all, ← all']
      simp only [Bool.false_eq_true, and_false]
    · exact Function.update_self ..
    · exact fun _ => kept path differ
    · exact fun other apart _ => kept other apart
    · exact fun good => absurd good Bool.false_ne_true

/-- With strings of a size for the pool, it is the file that a restart reads. -/
theorem FakednsCacheFile.eq_save {file : List UInt8} (used : s.poolUsed ≠ 0)
    (whole : FakednsCacheFile file (savedString (cStr s.cidrStr))
      ((fakednsSaved s now s.poolSize.toNat).map savedRecord))
    (cidr : (cStr s.cidrStr).length < 2 ^ 16)
    (domains : ∀ entry ∈ fakednsSaved s now s.poolSize.toNat, (cStr entry.domain).length < 2 ^ 16) :
    fakednsSave s now = some file := by
  have saves {str : List UInt8} (small : str.length < 2 ^ 16) : savedString str = str := by
    rw [savedString, Nat.mod_eq_of_lt small, List.take_length]
  have records : ((fakednsSaved s now s.poolSize.toNat).map savedRecord).flatMap recordBytes =
      (fakednsSaved s now s.poolSize.toNat).flatMap fakednsSaveEntry := by
    rw [List.flatMap_map, List.flatMap_def, List.flatMap_def]
    refine congrArg List.flatten (List.map_congr_left fun entry listed => ?_)
    rw [recordBytes, savedRecord, saves (domains entry listed), fakednsSaveEntry]
  rw [fakednsSave, if_neg used, whole.bytes, records, saves cidr, List.length_map]

end Tproxy
