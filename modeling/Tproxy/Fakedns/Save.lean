import Tproxy.Fakedns.Run

namespace Tproxy

/-- `fwrite` of one little-endian integer of `n` bytes. -/
def fwriteLe : Nat → Nat → List UInt8
  | 0, _ => []
  | n + 1, value => UInt8.ofNat value :: fwriteLe n (value / 256)

/-- The entries that `fakedns_save` does not skip, in the order of their slots. -/
def fakednsSaved (s : Fakedns) (now : BitVec 32) (slots : Nat) : List FakednsEntry :=
  (List.range slots).filterMap fun i =>
    match s.pool (BitVec.ofNat 32 i) with
    | none => none
    | some entry => if entry.expire ≤ now then none else some entry

def fakednsSaveEntry (entry : FakednsEntry) : List UInt8 :=
  fwriteLe 4 entry.ip.toNat ++ fwriteLe 2 (cStr entry.domain).length ++ cStr entry.domain

/-- The file that `fakedns_save` leaves when all its writes succeed; `none`:
it leaves what there was. The count is patched in last. -/
def fakednsSave (s : Fakedns) (now : BitVec 32) : Option (List UInt8) :=
  if s.poolUsed = 0 then none
  else
    let entries := fakednsSaved s now s.poolSize.toNat
    some (fwriteLe 4 fakednsMagic ++ fwriteLe 4 fakednsVersion ++ fwriteLe 4 entries.length ++
      fwriteLe 2 (cStr s.cidrStr).length ++ cStr s.cidrStr ++ entries.flatMap fakednsSaveEntry)

section Numbers
variable {n value : Nat} {rest : List UInt8}

theorem fwriteLe_length (n value : Nat) : (fwriteLe n value).length = n := by
  induction n generalizing value with
  | zero => rfl
  | succ n ih => rw [fwriteLe, List.length_cons, ih]

theorem fwriteLe_value (n value : Nat) :
    (fwriteLe n value).foldr (fun byte value => byte.toNat + 256 * value) 0 = value % 256 ^ n := by
  induction n generalizing value with
  | zero => rw [Nat.pow_zero, Nat.mod_one]; rfl
  | succ n ih =>
    have split : 256 ^ (n + 1) = 256 * 256 ^ n := Nat.pow_succ'
    rw [fwriteLe, List.foldr_cons, ih, UInt8.toNat_ofNat', split, Nat.mod_mul]

theorem fwriteLe_inj {x y : BitVec 32} (same : fwriteLe 4 x.toNat = fwriteLe 4 y.toNat) : x = y := by
  have whole (z : BitVec 32) : z.toNat % 256 ^ 4 = z.toNat := Nat.mod_eq_of_lt z.isLt
  have value := fwriteLe_value 4 x.toNat
  rw [same, fwriteLe_value, whole, whole] at value
  exact (BitVec.eq_of_toNat_eq value).symm

/-- What was written is read back. -/
theorem freadLe_fwriteLe (small : value < 256 ^ n) :
    freadLe n (fwriteLe n value ++ rest) = some (value, rest) := by
  have long : ¬(fwriteLe n value ++ rest).length < n := by
    rw [List.length_append, fwriteLe_length]
    omega
  rw [freadLe, if_neg long, List.take_left' (fwriteLe_length ..), List.drop_left' (fwriteLe_length ..),
    fwriteLe_value, Nat.mod_eq_of_lt small]

end Numbers

section Load
variable {s s₀ : Fakedns} {now later : BitVec 32} {entry : FakednsEntry}

/-- An entry that `fakedns_load` accepts. -/
structure FakednsEntry.Loadable (s : Fakedns) (entry : FakednsEntry) : Prop where
  inside : s.InRange entry.ip
  short : entry.domain.length < fakednsMaxDomainLen

/-- What loading a saved entry does. -/
def fakednsRestore (later : BitVec 32) (s : Fakedns) (entry : FakednsEntry) : Fakedns :=
  fakednsLoadEntry s entry.ip (htonl entry.ip - s.fakeipNetHost) (cStr entry.domain) later true

theorem fakednsRestore_range (later : BitVec 32) (s : Fakedns) (entry : FakednsEntry) :
    ((fakednsRestore later s entry).fakeipNetHost, (fakednsRestore later s entry).fakeipMaskHost,
      (fakednsRestore later s entry).poolSize, (fakednsRestore later s entry).maxProbes) =
      (s.fakeipNetHost, s.fakeipMaskHost, s.poolSize, s.maxProbes) := by
  unfold fakednsRestore fakednsLoadEntry
  simp only
  split
  · split <;> rfl
  · rfl

theorem FakednsEntry.Loadable.restore (loadable : entry.Loadable s) (other : FakednsEntry) :
    entry.Loadable (fakednsRestore later s other) := by
  obtain ⟨net, rest⟩ := Prod.mk.inj (fakednsRestore_range later s other)
  obtain ⟨maskHost, rest⟩ := Prod.mk.inj rest
  refine ⟨?_, loadable.short⟩
  rw [Fakedns.InRange, net, maskHost, (Prod.mk.inj rest).1]
  exact loadable.inside

theorem cStr_length_le (buf : List UInt8) : (cStr buf).length ≤ buf.length :=
  (List.takeWhile_prefix (l := buf) (· ≠ 0)).length_le

/-- Loading the entries of a file restores them one after the other. -/
theorem fakednsLoadEntries_saved (later : BitVec 32) (entries : List FakednsEntry)
    (loadable : ∀ entry ∈ entries, entry.Loadable s) (i : Nat) :
    fakednsLoadEntries later (fun _ => true) (fun _ => true) entries.length i
      (entries.flatMap fakednsSaveEntry) s = entries.foldl (fakednsRestore later) s := by
  induction entries generalizing s i with
  | nil => rfl
  | cons entry rest ih =>
    obtain ⟨first, others⟩ := List.forall_mem_cons.mp loadable
    have shorter := cStr_length_le entry.domain
    have short := first.short
    have ipFits : entry.ip.toNat < 256 ^ 4 := entry.ip.isLt
    have lenFits : (cStr entry.domain).length < 256 ^ 2 := by
      simp only [fakednsMaxDomainLen] at short
      omega
    rw [List.length_cons, List.flatMap_cons, fakednsSaveEntry]
    simp only [fakednsLoadEntries, List.append_assoc, freadLe_fwriteLe ipFits,
      freadLe_fwriteLe lenFits, BitVec.ofNat_toNat, BitVec.setWidth_eq]
    rw [if_neg (by
        rw [not_or, not_not]
        exact ⟨first.inside.1, BitVec.not_le.mpr first.inside.2⟩),
      if_neg (by omega), if_neg (by rw [List.length_append]; omega), List.take_left, List.drop_left,
      List.foldl_cons]
    exact ih (fun other member => (others other member).restore entry) (i + 1)

/-- What a restart leaves of a slot. -/
def fakednsKept (now later : BitVec 32) : Option FakednsEntry → Option FakednsEntry
  | none => none
  | some entry =>
    if entry.expire ≤ now then none
    else some ⟨entry.ip, later + BitVec.ofNat 32 fakednsEntryLifetime, 1, cStr entry.domain⟩

/-- The pool `t` that was restored from the first slots of `s`, of which
`count` were saved. -/
structure FakednsRestored (s : Fakedns) (now later : BitVec 32) (slots count : Nat) (t : Fakedns) :
    Prop where
  range : (t.fakeipNetHost, t.fakeipMaskHost, t.poolSize, t.maxProbes) =
    (s.fakeipNetHost, s.fakeipMaskHost, s.poolSize, s.maxProbes)
  pool : ∀ off, t.pool off = if off.toNat < slots then fakednsKept now later (s.pool off) else none
  used : t.poolUsed = BitVec.ofNat 32 count

/-- Every slot in use holds an entry for its own address. -/
def Fakedns.Addressed (s : Fakedns) : Prop :=
  ∀ off entry, s.pool off = some entry → off < s.poolSize ∧ entry.ip = s.address off

theorem fakednsSaved_succ (s : Fakedns) (now : BitVec 32) (slots : Nat) :
    fakednsSaved s now (slots + 1) = fakednsSaved s now slots ++
      (match s.pool (BitVec.ofNat 32 slots) with
        | none => none
        | some entry => if entry.expire ≤ now then none else some entry : Option FakednsEntry).toList := by
  rw [fakednsSaved, List.range_succ, List.filterMap_append]
  congr 1

theorem fakednsSaved_mem {slots : Nat} (member : entry ∈ fakednsSaved s now slots) :
    ∃ off, s.pool off = some entry := by
  obtain ⟨i, _, found⟩ := List.mem_filterMap.mp member
  split at found
  · cases found
  · rename_i held
    split at found
    · cases found
    · cases found
      exact ⟨_, held⟩

/-- Restoring the saved entries in order rebuilds the slots one by one. -/
theorem fakednsRestored_slots (addressed : s.Addressed)
    (same : (s₀.fakeipNetHost, s₀.fakeipMaskHost, s₀.poolSize, s₀.maxProbes) =
      (s.fakeipNetHost, s.fakeipMaskHost, s.poolSize, s.maxProbes))
    (empty : ∀ off, s₀.pool off = none) (unused : s₀.poolUsed = 0) {slots : Nat}
    (bound : slots ≤ 2 ^ 32) :
    FakednsRestored s now later slots (fakednsSaved s now slots).length
      ((fakednsSaved s now slots).foldl (fakednsRestore later) s₀) := by
  induction slots with
  | zero => exact ⟨same, fun off => empty off, unused⟩
  | succ slots ih =>
    obtain ⟨range, pool, used⟩ := ih (Nat.le_of_succ_le bound)
    have own : (BitVec.ofNat 32 slots).toNat = slots := by
      rw [BitVec.toNat_ofNat, Nat.mod_eq_of_lt (by omega)]
    have apart {off : BitVec 32} (differs : off ≠ BitVec.ofNat 32 slots) :
        off.toNat < slots + 1 ↔ off.toNat < slots := by
      have unequal : off.toNat ≠ slots := fun equal => differs (by
        rw [← equal, BitVec.ofNat_toNat, BitVec.setWidth_eq])
      omega
    rw [fakednsSaved_succ, List.foldl_append, List.length_append]
    generalize (fakednsSaved s now slots).foldl (fakednsRestore later) s₀ = t at *
    have skipped (none_kept : fakednsKept now later (s.pool (BitVec.ofNat 32 slots)) = none) :
        FakednsRestored s now later (slots + 1) (fakednsSaved s now slots).length t := by
      refine ⟨range, fun off => ?_, used⟩
      by_cases here : off = BitVec.ofNat 32 slots
      · rw [here, pool, own, if_neg (Nat.lt_irrefl slots), if_pos (Nat.lt_succ_self slots), none_kept]
      · rw [pool]
        simp only [apart here]
    cases held : s.pool (BitVec.ofNat 32 slots) with
    | none =>
      rw [held] at skipped
      exact skipped rfl
    | some entry =>
      rw [held] at skipped
      simp only
      by_cases expired : entry.expire ≤ now
      · rw [if_pos expired]
        exact skipped (if_pos expired)
      rw [if_neg expired]
      have net := (Prod.mk.inj range).1
      have slot : htonl entry.ip - t.fakeipNetHost = BitVec.ofNat 32 slots := by
        rw [(addressed _ _ held).2, net, PoolInv.address_slot]
      have vacant : t.pool (BitVec.ofNat 32 slots) = none := by
        rw [pool, own, if_neg (Nat.lt_irrefl slots)]
      have stored : fakednsRestore later t entry = { t with
          pool := Function.update t.pool (BitVec.ofNat 32 slots) (some
            ⟨entry.ip, later + BitVec.ofNat 32 fakednsEntryLifetime, 1, cStr entry.domain⟩)
          poolUsed := t.poolUsed + 1
          stored := Function.update t.stored (BitVec.ofNat 32 slots) [cStr (cStr entry.domain)] } := by
        simp only [fakednsRestore, fakednsLoadEntry, slot, vacant, not_true, if_false]
      simp only [Option.toList_some, List.foldl_cons, List.foldl_nil, List.length_singleton, stored]
      refine ⟨range, fun off => ?_, ?_⟩
      · by_cases here : off = BitVec.ofNat 32 slots
        · rw [here, own, if_pos (Nat.lt_succ_self slots), held]
          simp only [Function.update_self, fakednsKept, if_neg expired]
        · simp only [Function.update_of_ne here, pool, apart here]
      · simp only [used, BitVec.ofNat_add]
        rfl

theorem fakednsSaved_lt (s : Fakedns) (now : BitVec 32) :
    (fakednsSaved s now s.poolSize.toNat).length < 2 ^ 32 := by
  have fewer : (fakednsSaved s now s.poolSize.toNat).length ≤ (List.range s.poolSize.toNat).length :=
    List.length_filterMap_le ..
  rw [List.length_range] at fewer
  exact Nat.lt_of_le_of_lt fewer s.poolSize.isLt

/-- The header is accepted by a pool with the same CIDR, and by no other. -/
theorem fakednsLoadHeader_save (cidrShort : s.cidrStr.length ≤ cidrStrLen) {file : List UInt8}
    (saved : fakednsSave s now = some file) (cidrStr : List UInt8) :
    fakednsLoadHeader cidrStr file = if cStr s.cidrStr ≠ cStr cidrStr then none
      else some ((fakednsSaved s now s.poolSize.toNat).length,
        (fakednsSaved s now s.poolSize.toNat).flatMap fakednsSaveEntry) := by
  have shorter := cStr_length_le s.cidrStr
  have count : (fakednsSaved s now s.poolSize.toNat).length < 256 ^ 4 := fakednsSaved_lt s now
  have cidrFits : (cStr s.cidrStr).length < 256 ^ 2 := by
    simp only [cidrStrLen] at cidrShort
    omega
  unfold fakednsSave at saved
  split at saved
  · cases saved
  cases saved
  have magic : fakednsMagic < 256 ^ 4 := by decide
  have version : fakednsVersion < 256 ^ 4 := by decide
  simp only [fakednsLoadHeader, List.append_assoc, freadLe_fwriteLe magic, freadLe_fwriteLe version,
    freadLe_fwriteLe count, freadLe_fwriteLe cidrFits, Option.bind_eq_bind, Option.bind_some,
    ne_eq, not_true, if_false]
  simp only [cidrStrLen] at cidrShort
  rw [if_neg (by omega), if_neg (by rw [List.length_append]; omega), List.take_left,
    List.drop_left, cStr_cStr]

/-- A restart with the same address range restores the slots that were saved,
and counts them. -/
theorem fakednsLoad_save (addressed : s.Addressed) (short : ∀ off entry, s.pool off = some entry →
      entry.domain.length < fakednsMaxDomainLen)
    (inside : ∀ off < s.poolSize, (s.fakeipNetHost + off) &&& s.fakeipMaskHost = s.fakeipNetHost)
    (same : (s₀.fakeipNetHost, s₀.fakeipMaskHost, s₀.poolSize, s₀.maxProbes) =
      (s.fakeipNetHost, s.fakeipMaskHost, s.poolSize, s.maxProbes))
    (cidr : s₀.cidrStr = s.cidrStr) (cidrShort : s.cidrStr.length ≤ cidrStrLen)
    (empty : ∀ off, s₀.pool off = none) (unused : s₀.poolUsed = 0)
    {file : List UInt8} (saved : fakednsSave s now = some file) :
    FakednsRestored s now later s.poolSize.toNat (fakednsSaved s now s.poolSize.toNat).length
      (fakednsLoad s₀ file later (fun _ => true) fun _ => true) := by
  have header := (fakednsLoadHeader_save cidrShort saved s₀.cidrStr).trans
    (if_neg (not_not.mpr (congrArg cStr cidr.symm)))
  have loadable : ∀ entry ∈ fakednsSaved s now s.poolSize.toNat, entry.Loadable s₀ := by
    intro entry member
    obtain ⟨off, held⟩ := fakednsSaved_mem member
    obtain ⟨bound, ip⟩ := addressed off entry held
    obtain ⟨net, rest⟩ := Prod.mk.inj same
    obtain ⟨maskHost, rest⟩ := Prod.mk.inj rest
    refine ⟨?_, short off entry held⟩
    rw [Fakedns.InRange, net, maskHost, (Prod.mk.inj rest).1, ip, PoolInv.address_slot,
      Fakedns.address, htonl_htonl]
    exact ⟨inside off bound, bound⟩
  simp only [fakednsLoad, header, fakednsLoadEntries_saved later _ loadable]
  exact fakednsRestored_slots addressed same empty unused (Nat.le_of_lt s.poolSize.isLt)

end Load

end Tproxy
