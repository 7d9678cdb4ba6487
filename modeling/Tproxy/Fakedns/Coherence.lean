import Mathlib.Data.Fintype.EquivFin
import Tproxy.Fakedns.LeaseSafety
import Tproxy.Fakedns.Threads

namespace Tproxy

variable {hash : List UInt8 → BitVec 64} {s s' : Fakedns} {m : FakednsMru} {t : FakednsThread}
  {w w₀ w' : FakednsThreads} {ip : BitVec 32} {bufLen : Nat} {pools : List Fakedns}

/-- The pointers of a cache are a permutation of its items, and at most one
valid item has any one address. -/
structure FakednsMru.Ok (m : FakednsMru) : Prop where
  ptrs : m.init = true → Function.Injective m.ptrs
  unique : ∀ i j, (m.data i).valid = true → (m.data j).valid = true → (m.data i).ip = (m.data j).ip →
    i = j

/-- No valid item has the address. -/
def FakednsMru.Misses (m : FakednsMru) (ip : BitVec 32) : Prop :=
  ∀ j, (m.data j).valid = true → (m.data j).ip ≠ ip

/-- What holds in the middle of a call. -/
def FakednsThread.PcOk (s : Fakedns) (t : FakednsThread) : Prop :=
  match t.pc with
  | .idle => True
  | .checking ip bufLen i => (t.mru.init = true ∧ s.InRange ip ∧ 1 ≤ bufLen) ∧
      (t.mru.data (t.mru.ptrs i)).valid = true ∧ (t.mru.data (t.mru.ptrs i)).ip = ip
  | .reading ip bufLen => (t.mru.init = true ∧ s.InRange ip ∧ 1 ≤ bufLen) ∧ t.mru.Misses ip
  | .storing ip bufLen tmpDomain tmpVersion => (t.mru.init = true ∧ s.InRange ip ∧ 1 ≤ bufLen) ∧
      t.mru.Misses ip ∧ Cached s ⟨ip, tmpVersion, true, tmpDomain⟩

/-- The invariant of a thread. -/
structure FakednsThread.Ok (s : Fakedns) (t : FakednsThread) : Prop where
  cached : ∀ i, Cached s (t.mru.data i)
  mru : t.mru.Ok
  pc : t.PcOk s

/-- The invariant of all threads. -/
structure FakednsThreads.Ok (w : FakednsThreads) : Prop where
  pool : PoolInv w.dns
  thread : ∀ i, (w.thread i).Ok w.dns

theorem Fakedns.InRange.grow (inside : s.InRange ip) (grows : PoolGrows s s') : s'.InRange ip := by
  obtain ⟨net, rest⟩ := Prod.mk.inj grows.range
  obtain ⟨maskHost, rest⟩ := Prod.mk.inj rest
  rw [Fakedns.InRange, net, maskHost, (Prod.mk.inj rest).1]
  exact inside

theorem FakednsThread.Ok.grow (ok : t.Ok s) (grows : PoolGrows s s') : t.Ok s' := by
  refine ⟨fun i => (ok.cached i).grow grows, ok.mru, ?_⟩
  have pc := ok.pc
  unfold FakednsThread.PcOk at pc ⊢
  split at pc
  · trivial
  · exact ⟨⟨pc.1.1, pc.1.2.1.grow grows, pc.1.2.2⟩, pc.2⟩
  · exact ⟨⟨pc.1.1, pc.1.2.1.grow grows, pc.1.2.2⟩, pc.2⟩
  · exact ⟨⟨pc.1.1, pc.1.2.1.grow grows, pc.1.2.2⟩, pc.2.1, pc.2.2.grow grows⟩

theorem fakednsMoveToFront_eq (ptrs : Fin fakednsMruSize → Fin fakednsMruSize)
    (i : Fin fakednsMruSize) : fakednsMoveToFront ptrs i = ptrs ∘ fakednsFrontSource i := by
  funext j
  simp only [fakednsMoveToFront, fakednsFrontSource, Function.comp_apply]
  split
  · rfl
  split <;> rfl

theorem fakednsFrontSource_injective : ∀ i, Function.Injective (fakednsFrontSource i) := by
  decide

/-- Moving a pointer to the front permutes the pointers. -/
theorem fakednsMoveToFront_injective {ptrs : Fin fakednsMruSize → Fin fakednsMruSize}
    (injective : Function.Injective ptrs) (i : Fin fakednsMruSize) :
    Function.Injective (fakednsMoveToFront ptrs i) := by
  rw [fakednsMoveToFront_eq]
  exact injective.comp (fakednsFrontSource_injective i)

theorem FakednsMru.Ok.init (ok : m.Ok) : (fakednsMruInit m).Ok ∧ (fakednsMruInit m).init = true ∧
    (fakednsMruInit m).data = m.data := by
  unfold fakednsMruInit
  split
  · rename_i done
    exact ⟨ok, done, rfl⟩
  · exact ⟨⟨fun _ => Function.injective_id, ok.unique⟩, rfl, rfl⟩

theorem FakednsMru.Ok.moveToFront (ok : m.Ok) (i : Fin fakednsMruSize) :
    ({ m with ptrs := fakednsMoveToFront m.ptrs i } : FakednsMru).Ok :=
  ⟨fun done => fakednsMoveToFront_injective (ok.ptrs done) i, ok.unique⟩

/-- An item may be invalidated, and then no valid one has its address. -/
theorem FakednsMru.Ok.invalidate (ok : m.Ok) {i : Fin fakednsMruSize}
    (valid : (m.data i).valid = true) :
    ({ m with data := Function.update m.data i { m.data i with valid := false } } : FakednsMru).Ok ∧
      ({ m with data := Function.update m.data i { m.data i with valid := false } } :
        FakednsMru).Misses (m.data i).ip := by
  have other {j : Fin fakednsMruSize}
      (left : (Function.update m.data i { m.data i with valid := false } j).valid = true) :
      j ≠ i ∧ Function.update m.data i { m.data i with valid := false } j = m.data j := by
    by_cases own : j = i
    · subst own
      rw [Function.update_self] at left
      cases left
    · exact ⟨own, Function.update_of_ne own ..⟩
  refine ⟨⟨ok.ptrs, fun j k first second same => ?_⟩, fun j left same => ?_⟩
  · obtain ⟨_, keptJ⟩ := other first
    obtain ⟨_, keptK⟩ := other second
    simp only [keptJ, keptK] at first second same
    exact ok.unique j k first second same
  · obtain ⟨differs, kept⟩ := other left
    simp only [kept] at left same
    exact differs (ok.unique j i left valid same)

/-- An item may be replaced by one whose address no valid item has. -/
theorem FakednsMru.Ok.store (ok : m.Ok) (item : FakednsMruEntry) (misses : m.Misses item.ip)
    (i : Fin fakednsMruSize) :
    ({ m with data := Function.update m.data i item } : FakednsMru).Ok := by
  refine ⟨ok.ptrs, fun j k first second same => ?_⟩
  simp only at first second same
  by_cases ownJ : j = i
  · by_cases ownK : k = i
    · exact ownJ.trans ownK.symm
    · rw [ownJ, Function.update_self, Function.update_of_ne ownK] at same
      rw [Function.update_of_ne ownK] at second
      exact absurd same.symm (misses k second)
  · rw [Function.update_of_ne ownJ] at first same
    by_cases ownK : k = i
    · rw [ownK, Function.update_self] at same
      exact absurd same (misses j first)
    · rw [Function.update_of_ne ownK] at second same
      exact ok.unique j k first second same

theorem fakednsMruScan_some {i : Fin fakednsMruSize} (found : fakednsMruScan m ip = some i) :
    (m.data (m.ptrs i)).valid = true ∧ (m.data (m.ptrs i)).ip = ip := by
  have item := List.find?_some found
  simpa only [Bool.and_eq_true, decide_eq_true_eq] using item

/-- A scan that finds nothing has seen all items. -/
theorem fakednsMruScan_none (ok : m.Ok) (done : m.init = true) (none : fakednsMruScan m ip = none) :
    m.Misses ip := by
  intro j valid same
  obtain ⟨i, rfl⟩ := Finite.injective_iff_surjective.mp (ok.ptrs done) j
  have seen := List.find?_eq_none.mp none i (List.mem_finRange i)
  simp only [valid, same, decide_true, Bool.and_self, not_true] at seen

theorem FakednsThread.Ok.call (ok : t.Ok s) (ip : BitVec 32) (bufLen : Nat) :
    (fakednsReverseCall s t.mru ip bufLen).Ok s := by
  have rejected : (⟨t.mru, .idle, none⟩ : FakednsThread).Ok s := ⟨ok.cached, ok.mru, trivial⟩
  unfold fakednsReverseCall
  split
  · exact rejected
  rename_i room
  split
  · exact rejected
  rename_i net
  split
  · exact rejected
  rename_i bound
  obtain ⟨mru, done, data⟩ := ok.mru.init
  have begun : (fakednsMruInit t.mru).init = true ∧ s.InRange ip ∧ 1 ≤ bufLen :=
    ⟨done, ⟨not_not.mp net, BitVec.not_le.mp bound⟩, Nat.pos_of_ne_zero room⟩
  have cached : ∀ i, Cached s ((fakednsMruInit t.mru).data i) := data ▸ ok.cached
  simp only
  split
  · rename_i found
    exact ⟨cached, mru, begun, fakednsMruScan_some found⟩
  · rename_i none
    exact ⟨cached, mru, begun, fakednsMruScan_none mru done none⟩

/-- An item that is copied out of a slot was stored there. -/
theorem PoolInv.cached (inv : PoolInv s) {entry : FakednsEntry}
    (holds : s.pool (htonl ip - s.fakeipNetHost) = some entry) :
    Cached s ⟨ip, entry.version, true, strncopy entry.domain (fakednsMaxDomainLen - 1)⟩ := by
  have ok := inv.slots (htonl ip - s.fakeipNetHost)
  rw [holds] at ok
  intro _
  obtain ⟨older, names, version⟩ := ok.2
  refine ⟨[], older, ?_, version⟩
  simp only [strncopy_entry ok, names, List.nil_append]

theorem FakednsThread.Ok.next (ok : t.Ok s) (inv : PoolInv s) : (fakednsReverseNext s t).Ok s := by
  have pc := ok.pc
  unfold FakednsThread.PcOk at pc
  unfold fakednsReverseNext
  split
  · exact ok
  · rename_i at_
    rw [at_] at pc
    obtain ⟨begun, valid, rfl⟩ := pc
    simp only
    split
    · obtain ⟨mru, misses⟩ := ok.mru.invalidate valid
      exact ⟨Cached.update ok.cached (fun none => by cases none) _, mru, begun, misses⟩
    · exact ⟨ok.cached, ok.mru.moveToFront _, trivial⟩
  · rename_i at_
    rw [at_] at pc
    simp only
    split
    · exact ⟨ok.cached, ok.mru, trivial⟩
    · rename_i holds
      exact ⟨ok.cached, ok.mru, pc.1, pc.2, inv.cached holds⟩
  · rename_i at_
    rw [at_] at pc
    obtain ⟨_, misses, cached⟩ := pc
    exact ⟨Cached.update ok.cached cached _,
      (ok.mru.moveToFront (Fin.last 7)).store ⟨_, _, true, _⟩ misses _, trivial⟩

theorem FakednsThreads.Ok.set (ok : w.Ok) (i : Nat) (kept : t.Ok w.dns) : (w.set i t).Ok := by
  refine ⟨ok.pool, fun j => ?_⟩
  simp only [FakednsThreads.set]
  by_cases own : j = i
  · rw [own, Function.update_self]
    exact kept
  · rw [Function.update_of_ne own]
    exact ok.thread j

/-- Every step keeps the invariant, and names are only added to the pool. -/
theorem FakednsThreads.Ok.step (ok : w.Ok) (step : FakednsThreadsStep hash w w') :
    w'.Ok ∧ PoolGrows w.dns w'.dns := by
  cases step with
  | tick later => exact ⟨⟨ok.pool, ok.thread⟩, .refl _⟩
  | lookup domain memory =>
    obtain ⟨pool, grows⟩ :=
      (fakednsLookupDomain_outcome hash w.dns domain (BitVec.ofNat 32 w.now) memory).keeps ok.pool
    exact ⟨⟨pool, fun i => (ok.thread i).grow grows⟩, grows⟩
  | call i ip bufLen => exact ⟨ok.set i ((ok.thread i).call ip bufLen), .refl _⟩
  | next i => exact ⟨ok.set i ((ok.thread i).next ok.pool), .refl _⟩

theorem FakednsThreads.Ok.run (ok : w.Ok) (run : FakednsThreadsRun hash w w') :
    w'.Ok ∧ PoolGrows w.dns w'.dns := by
  induction run with
  | refl => exact ⟨ok, .refl _⟩
  | tail _ step ih =>
    obtain ⟨ok, grows⟩ := ih
    obtain ⟨ok', more⟩ := ok.step step
    exact ⟨ok', grows.trans more⟩

theorem FakednsThreads.Start.ok (start : w.Start) : w.Ok := by
  refine ⟨start.1.inv.pool, fun i => ?_⟩
  rw [start.2 i]
  exact ⟨start.1.inv.cached 0, ⟨fun none => (by cases none), fun _ _ none => (by cases none)⟩,
    trivial⟩

section Answers

/-- What a thread in a call has found out: the pools are those that there were
since it was called. -/
def FakednsThread.Answers (ip : BitVec 32) (bufLen : Nat) (pools : List Fakedns)
    (t : FakednsThread) : Prop :=
  match t.pc with
  | .idle => ∃ s ∈ pools, t.answer = s.read ip bufLen
  | .checking ip' bufLen' _ => ip' = ip ∧ bufLen' = bufLen
  | .reading ip' bufLen' => ip' = ip ∧ bufLen' = bufLen
  | .storing ip' bufLen' tmpDomain _ => (ip' = ip ∧ bufLen' = bufLen) ∧
      ∃ s ∈ pools, s.read ip bufLen = some (tmpDomain.take (bufLen - 1))

theorem FakednsThread.Answers.mono (answers : t.Answers ip bufLen pools) (s : Fakedns) :
    t.Answers ip bufLen (s :: pools) := by
  unfold FakednsThread.Answers at answers ⊢
  split at answers
  · obtain ⟨p, member, same⟩ := answers
    exact ⟨p, List.mem_cons_of_mem s member, same⟩
  · exact answers
  · exact answers
  · obtain ⟨call, p, member, same⟩ := answers
    exact ⟨call, p, List.mem_cons_of_mem s member, same⟩

/-- A read of an address with a slot reads the slot. -/
theorem Fakedns.InRange.read (inside : s.InRange ip) (bufLen : Nat) : s.read ip bufLen =
    (s.pool (htonl ip - s.fakeipNetHost)).map fun entry => strncopy entry.domain (bufLen - 1) := by
  rw [Fakedns.read, if_neg (not_not.mpr inside.1), if_neg (BitVec.not_le.mpr inside.2)]

theorem fakednsReverseCall_answers (s : Fakedns) (m : FakednsMru) (room : 1 ≤ bufLen) :
    (fakednsReverseCall s m ip bufLen).Answers ip bufLen [s] := by
  unfold fakednsReverseCall
  rw [if_neg (Nat.ne_of_gt room)]
  split
  · rename_i net
    exact ⟨s, List.mem_singleton_self s, (if_pos net).symm⟩
  rename_i net
  split
  · rename_i bound
    refine ⟨s, List.mem_singleton_self s, ?_⟩
    rw [Fakedns.read, if_neg net, if_pos bound]
  simp only
  split <;> exact ⟨rfl, rfl⟩

theorem take_copyLen (domain : List UInt8) (room : 1 ≤ bufLen) :
    domain.take (if domain.length ≥ bufLen then bufLen - 1 else domain.length) =
      domain.take (bufLen - 1) := by
  split
  · rfl
  · rw [List.take_length, List.take_of_length_le (by omega)]

/-- The thread's own next access finds out what the slot of the address holds. -/
theorem FakednsThread.Ok.next_answers (ok : t.Ok s) (inv : PoolInv s) (busy : t.pc ≠ .idle)
    (answers : t.Answers ip bufLen pools) (member : s ∈ pools)
    (unwrapped : (s.stored (htonl ip - s.fakeipNetHost)).length ≤ 2 ^ 32) :
    (fakednsReverseNext s t).Answers ip bufLen pools := by
  have pc := ok.pc
  unfold FakednsThread.PcOk at pc
  unfold FakednsThread.Answers at answers
  have slot := inv.slots (htonl ip - s.fakeipNetHost)
  unfold fakednsReverseNext
  split
  · rename_i at_
    exact absurd at_ busy
  · rename_i ip' bufLen' i at_
    rw [at_] at pc answers
    obtain ⟨rfl, rfl⟩ := answers
    obtain ⟨⟨_, inside, _⟩, valid, sameIp⟩ := pc
    simp only
    split
    · exact ⟨rfl, rfl⟩
    · rename_i hit
      refine ⟨s, member, ?_⟩
      rw [inside.read]
      cases holds : s.pool (htonl ip' - s.fakeipNetHost) with
      | none =>
        rw [holds] at hit
        exact absurd rfl hit
      | some entry =>
        rw [holds] at slot hit
        simp only [Option.all_some, ne_eq, decide_not, Bool.not_eq_true', decide_eq_false_iff_not,
          not_not] at hit
        have cached := ok.cached (t.mru.ptrs i)
        rw [← sameIp] at slot unwrapped
        have newest := cached.newest valid slot hit unwrapped
        simp only [Option.map_some, newest, strncopy, cStr_cStr]
  · rename_i ip' bufLen' at_
    rw [at_] at pc answers
    obtain ⟨rfl, rfl⟩ := answers
    obtain ⟨_, inside, _⟩ := pc.1
    have read := inside.read bufLen'
    simp only
    split
    · rename_i vacant
      rw [vacant] at read
      exact ⟨s, member, read.symm⟩
    · rename_i entry holds
      rw [holds] at read slot
      refine ⟨⟨rfl, rfl⟩, s, member, ?_⟩
      rw [read, strncopy_entry slot]
      rfl
  · rename_i at_
    rw [at_] at pc answers
    obtain ⟨⟨rfl, rfl⟩, p, member, read⟩ := answers
    obtain ⟨_, _, room⟩ := pc.1
    refine ⟨p, member, ?_⟩
    rw [read, take_copyLen _ room]

theorem FakednsCall.ok {i : Nat} (ok : w.Ok) (call : FakednsCall hash i ip bufLen w pools w') :
    w'.Ok ∧ w'.dns ∈ pools := by
  induction call with
  | call idle => exact ⟨ok.set i ((ok.thread i).call ip bufLen), List.mem_singleton_self _⟩
  | step _ _ step ih => exact ⟨(ih.1.step step).1, List.mem_cons_self ..⟩

/-- During a call the thread finds out nothing but what the pool held since. -/
theorem FakednsCall.answers {i : Nat} (ok : w.Ok) (room : 1 ≤ bufLen)
    (call : FakednsCall hash i ip bufLen w pools w')
    (unwrapped : (w'.dns.stored (htonl ip - w'.dns.fakeipNetHost)).length ≤ 2 ^ 32) :
    (w'.thread i).Answers ip bufLen pools := by
  induction call with
  | call idle =>
    simp only [FakednsThreads.set, Function.update_self]
    exact fakednsReverseCall_answers w.dns _ room
  | @step pools v v' before busy step ih =>
    obtain ⟨ok, member⟩ := before.ok ok
    obtain ⟨_, grows⟩ := ok.step step
    have net := (Prod.mk.inj grows.range).1
    have longer := (grows.stored (htonl ip - v.dns.fakeipNetHost)).length_le
    rw [net] at unwrapped
    have earlier := Nat.le_trans longer unwrapped
    have answers := ih earlier
    cases step with
    | tick => exact answers.mono _
    | lookup => exact answers.mono _
    | call j ip' bufLen' idle =>
      have other : i ≠ j := fun same => busy (same ▸ idle)
      simp only [FakednsThreads.set, Function.update_of_ne other]
      exact answers.mono _
    | next j _ =>
      refine FakednsThread.Answers.mono ?_ _
      by_cases own : i = j
      · subst own
        simp only [FakednsThreads.set, Function.update_self]
        exact (ok.thread i).next_answers ok.pool busy answers member earlier
      · simp only [FakednsThreads.set, Function.update_of_ne own]
        exact answers

end Answers

/-- A call for an address with a slot sets up the pointers. -/
theorem fakednsReverseCall_init (m : FakednsMru) (inside : s.InRange ip) (room : 1 ≤ bufLen) :
    (fakednsReverseCall s m ip bufLen).mru.init = true := by
  have done : (fakednsMruInit m).init = true := by
    unfold fakednsMruInit
    split
    · assumption
    · rfl
  unfold fakednsReverseCall
  rw [if_neg (Nat.ne_of_gt room), if_neg (not_not.mpr inside.1), if_neg (BitVec.not_le.mpr inside.2)]
  simp only
  split <;> exact done

theorem fakednsReverseCall_keeps_init (s : Fakedns) (ip : BitVec 32) (bufLen : Nat)
    (done : m.init = true) : (fakednsReverseCall s m ip bufLen).mru.init = true := by
  have same : fakednsMruInit m = m := if_pos done
  unfold fakednsReverseCall
  split
  · exact done
  split
  · exact done
  split
  · exact done
  simp only [same]
  split <;> exact done

theorem fakednsReverseNext_init (s : Fakedns) (t : FakednsThread) :
    (fakednsReverseNext s t).mru.init = t.mru.init := by
  unfold fakednsReverseNext
  split
  · rfl
  · simp only
    split <;> rfl
  · simp only
    split <;> rfl
  · rfl

theorem FakednsThreadsRun.keeps_init {i : Nat} (run : FakednsThreadsRun hash w w')
    (done : (w.thread i).mru.init = true) : (w'.thread i).mru.init = true := by
  induction run with
  | refl => exact done
  | tail _ step ih =>
    cases step with
    | tick => exact ih
    | lookup => exact ih
    | call j ip bufLen _ =>
      by_cases own : i = j
      · subst own
        simp only [FakednsThreads.set, Function.update_self]
        exact fakednsReverseCall_keeps_init _ ip bufLen ih
      · simp only [FakednsThreads.set, Function.update_of_ne own]
        exact ih
    | next j _ =>
      by_cases own : i = j
      · subst own
        simp only [FakednsThreads.set, Function.update_self]
        exact (fakednsReverseNext_init _ _).trans ih
      · simp only [FakednsThreads.set, Function.update_of_ne own]
        exact ih

/-- Under any interleaving, a call returns what the slot of its address held
at some moment of the call, and from its first call for an address with a slot
on, a thread's pointers are a permutation of its items, at most one of which is
valid for any one address. -/
theorem fakedns_coherent (start : w₀.Start) (before : FakednsThreadsRun hash w₀ w) (i : Nat)
    (ip : BitVec 32) (room : 1 ≤ bufLen) :
    (∀ pools v, FakednsCall hash i ip bufLen w pools v → (v.thread i).pc = .idle →
      (v.dns.stored (htonl ip - v.dns.fakeipNetHost)).length ≤ 2 ^ 32 →
      ∃ s ∈ pools, (v.thread i).answer = s.read ip bufLen) ∧
    ∀ v, (w.thread i).pc = .idle → w.dns.InRange ip →
      FakednsThreadsRun hash
        (w.set i (fakednsReverseCall w.dns (w.thread i).mru ip bufLen)) v →
      Function.Bijective (v.thread i).mru.ptrs ∧
        ∀ j k, ((v.thread i).mru.data j).valid = true → ((v.thread i).mru.data k).valid = true →
          ((v.thread i).mru.data j).ip = ((v.thread i).mru.data k).ip → j = k := by
  have ok := (start.ok.run before).1
  refine ⟨fun pools v call returned unwrapped => ?_, fun v idle inside after => ?_⟩
  · have answers := call.answers ok room unwrapped
    unfold FakednsThread.Answers at answers
    rw [returned] at answers
    exact answers
  · have kept := ((ok.set i ((ok.thread i).call ip bufLen)).run after).1.thread i
    have done : (v.thread i).mru.init = true := by
      refine FakednsThreadsRun.keeps_init after ?_
      simp only [FakednsThreads.set, Function.update_self]
      exact fakednsReverseCall_init _ inside room
    exact ⟨Finite.injective_iff_bijective.mp (kept.mru.ptrs done), kept.mru.unique⟩

/-- A call for the first address of an empty pool returns the name that the
DNS thread inserts in the middle of the call. -/
theorem fakedns_coherent_insert : ∃ pools v,
    FakednsCall sameHash 0 (htonl 0x0A000000) 244
      ⟨slash24, 0, fun _ => ⟨fakednsMruZero, .idle, none⟩⟩ pools v ∧
    (v.thread 0).answer = some [97] ∧
      ∃ s ∈ pools, (v.thread 0).answer = s.read (htonl 0x0A000000) 244 := by
  have start : FakednsThreads.Start ⟨slash24, 0, fun _ => ⟨fakednsMruZero, .idle, none⟩⟩ :=
    ⟨slash24_start, fun _ => rfl⟩
  have called : FakednsCall sameHash 0 (htonl 0x0A000000) 244
      ⟨slash24, 0, fun _ => ⟨fakednsMruZero, .idle, none⟩⟩ _ _ := .call rfl
  have inserted := called.step (fun idle => by cases idle) (.lookup [97] true)
  have copied := inserted.step (fun idle => by cases idle) (.next 0 fun idle => by cases idle)
  have returned := copied.step (fun idle => by cases idle) (.next 0 fun idle => by cases idle)
  have room : 1 ≤ 244 := by decide
  obtain ⟨answers, _⟩ := fakedns_coherent start .refl 0 (htonl 0x0A000000) room
  exact ⟨_, _, returned, rfl, answers _ _ returned rfl (by decide)⟩

end Tproxy
