import Tproxy.Fakedns.Expired

namespace Tproxy

variable {hash : List UInt8 → BitVec 64} {s s₀ t : Fakedns} {now later off : BitVec 32}
  {entry : FakednsEntry}

/-- A CIDR string that `g_fakedns_cidr` can hold. -/
def FakednsCidr (cidrStr : List UInt8) : Prop := 0 ∉ cidrStr ∧ cidrStr.length ≤ cidrStrLen

instance : DecidablePred FakednsCidr := fun cidrStr =>
  inferInstanceAs (Decidable (0 ∉ cidrStr ∧ cidrStr.length ≤ cidrStrLen))

/-- The pool `t` holds what was saved of `s` at the time `now` and loaded at
the time `later`. -/
structure FakednsReloaded (s : Fakedns) (now later : BitVec 32) (t : Fakedns) : Prop where
  occupied : ∀ off, (t.pool off).isSome = true ↔
    ∃ entry, s.pool off = some entry ∧ entry.expire > now
  entry : ∀ off old new, s.pool off = some old → t.pool off = some new → new.ip = old.ip ∧
    cStr new.domain = cStr old.domain ∧
    new.expire = later + BitVec.ofNat 32 fakednsEntryLifetime ∧ new.version = 1
  used : t.poolUsed.toNat = t.occupied

theorem fakednsInit_cidr {cidrStr : List UInt8} {memory : Bool}
    (start : fakednsInit cidrStr memory = some s) : s.cidrStr = cidrStr.take cidrStrLen := by
  obtain ⟨_, _, _, rfl⟩ := fakednsInit_some start
  rfl

theorem FakednsCidr.text {cidrStr : List UInt8} {memory : Bool} (cidr : FakednsCidr cidrStr)
    (start : fakednsInit cidrStr memory = some s) : cStr s.cidrStr = cidrStr := by
  rw [fakednsInit_cidr start, List.take_of_length_le cidr.2, cStr_of_free cidr.1]

theorem FakednsRestored.reloaded
    (restored : FakednsRestored s now later s.poolSize.toNat
      (fakednsSaved s now s.poolSize.toNat).length t) (shape : FakednsShape s)
    (shape' : FakednsShape t) : FakednsReloaded s now later t := by
  have kept (off : BitVec 32) : t.pool off = fakednsKept now later (s.pool off) := by
    rw [restored.pool]
    split
    · rfl
    · rename_i outside
      cases holds : s.pool off with
      | none => rfl
      | some entry => exact absurd (BitVec.lt_def.mp (shape.addressed off entry holds).1) outside
  refine ⟨fun off => ?_, fun off old new holds holds' => ?_, shape'.used⟩
  · rw [kept]
    cases holds : s.pool off with
    | none =>
      constructor
      · intro none
        cases none
      · rintro ⟨entry, none, _⟩
        cases none
    | some entry =>
      rw [fakednsKept]
      by_cases expired : entry.expire ≤ now
      · rw [if_pos expired]
        constructor
        · intro none
          cases none
        · rintro ⟨found, same, live⟩
          cases same
          exact absurd expired (BitVec.not_le.mpr live)
      · rw [if_neg expired]
        exact ⟨fun _ => ⟨entry, rfl, BitVec.not_le.mp expired⟩, fun _ => rfl⟩
  · rw [kept, holds, fakednsKept] at holds'
    split at holds'
    · cases holds'
    · cases holds'
      exact ⟨rfl, cStr_cStr _, rfl, rfl⟩

/-- What was saved of a pool comes back when it is loaded into a fresh pool with
the same CIDR, and nothing into a pool with another. -/
theorem fakedns_save_load {cidrStr cidrStr' file : List UInt8} {t₀ : Fakedns}
    (start : fakednsInit cidrStr true = some s₀) (start' : fakednsInit cidrStr' true = some t₀)
    (cidr : FakednsCidr cidrStr) (cidr' : FakednsCidr cidrStr') (reached : FakednsReached hash s₀ s)
    (saved : fakednsSave s now = some file)
    (loaded : fakednsLoad t₀ file later (fun _ => true) (fun _ => true) = t) :
    (cidrStr' = cidrStr → FakednsReloaded s now later t) ∧
      (cidrStr' ≠ cidrStr → t = t₀ ∧ ∀ off, t.pool off = none) := by
  obtain ⟨_, empty, _⟩ := fakednsInit_inv start'
  obtain ⟨unused, _⟩ := fakednsInit_fresh start'
  have shape₀ := FakednsShape.init start
  have shape := reached.shape shape₀
  have range := reached.range shape₀
  simp only [Fakedns.range, Prod.mk.injEq] at range
  obtain ⟨net, maskHost, size, probes, sameCidr⟩ := range
  have short : s.cidrStr.length ≤ cidrStrLen := sameCidr ▸ (fakednsInit_fresh start).2
  have text : cStr s.cidrStr = cidrStr := sameCidr ▸ cidr.text start
  constructor
  · rintro rfl
    rw [start] at start'
    cases start'
    have restored : FakednsRestored s now later _ _ _ := fakednsLoad_save shape.addressed shape.short
      shape.inside (by rw [net, maskHost, size, probes]) sameCidr.symm short empty unused saved
    rw [loaded] at restored
    exact restored.reloaded shape (loaded ▸ shape₀.load file later _ _)
  · intro differs
    have header := (fakednsLoadHeader_save short saved t₀.cidrStr).trans
      (if_pos (by rw [text, cidr'.text start']; exact differs.symm))
    rw [fakednsLoad, header] at loaded
    exact loaded ▸ ⟨rfl, empty⟩

/-- `a` is loaded again, and expires a day later. -/
theorem fakedns_save_load_single : ∃ file new, fakednsSave singleA 1 = some file ∧
    (fakednsLoad slash24 file 2 (fun _ => true) fun _ => true).pool 0 = some new ∧
      cStr new.domain = [97] ∧ new.expire = 86402 := by
  have start : fakednsInit slash24.cidrStr true = some slash24 := rfl
  have cidr : FakednsCidr slash24.cidrStr := by decide
  have saved : fakednsSave singleA 1 = some _ := if_neg (by decide)
  have reloaded : FakednsReloaded singleA 1 2 _ :=
    (fakedns_save_load start start cidr cidr singleA_reached saved rfl).1 rfl
  obtain ⟨new, holds⟩ := Option.isSome_iff_exists.mp
    ((reloaded.occupied 0).mpr ⟨_, singleA_holds, by decide⟩)
  obtain ⟨_, name, expire, _⟩ := reloaded.entry 0 _ new singleA_holds holds
  exact ⟨_, new, saved, holds, name, expire⟩

end Tproxy
