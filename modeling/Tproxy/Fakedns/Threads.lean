import Tproxy.Fakedns.Run

namespace Tproxy

/-- Where a thread is in `fakedns_reverse_lookup`: outside, before it loads
the version for the item at a pointer, before the read lock, or between the
unlock and the insertion of what it copied. -/
inductive FakednsPc
  | idle
  | checking (ip : BitVec 32) (bufLen : Nat) (i : Fin fakednsMruSize)
  | reading (ip : BitVec 32) (bufLen : Nat)
  | storing (ip : BitVec 32) (bufLen : Nat) (tmpDomain : List UInt8) (tmpVersion : BitVec 32)

/-- A thread with its cache; `answer` is what its last call returned. -/
structure FakednsThread where
  mru : FakednsMru
  pc : FakednsPc
  answer : Option (List UInt8)

/-- The scan of the pointers up to the first matching item. -/
def fakednsMruScan (m : FakednsMru) (ip : BitVec 32) : Option (Fin fakednsMruSize) :=
  (List.finRange fakednsMruSize).find? fun i =>
    (m.data (m.ptrs i)).valid && (m.data (m.ptrs i)).ip = ip

/-- A call up to its first access to the pool. The range of the pool does not
change after `fakedns_init`. -/
def fakednsReverseCall (s : Fakedns) (m : FakednsMru) (ip : BitVec 32) (bufLen : Nat) :
    FakednsThread :=
  if bufLen = 0 then ⟨m, .idle, none⟩
  else if htonl ip &&& s.fakeipMaskHost ≠ s.fakeipNetHost then ⟨m, .idle, none⟩
  else if htonl ip - s.fakeipNetHost ≥ s.poolSize then ⟨m, .idle, none⟩
  else
    let m := fakednsMruInit m
    match fakednsMruScan m ip with
    | some i => ⟨m, .checking ip bufLen i, none⟩
    | none => ⟨m, .reading ip bufLen, none⟩

/-- The next access of a thread to the pool, with the work on its own cache up
to the one after. The pointer in a slot stays once it is set, so its load is
one with the load of the version. -/
def fakednsReverseNext (s : Fakedns) (t : FakednsThread) : FakednsThread :=
  let m := t.mru
  match t.pc with
  | .idle => t
  | .checking ip bufLen i =>
    let item := m.data (m.ptrs i)
    if (s.pool (htonl ip - s.fakeipNetHost)).all fun entry => entry.version ≠ item.version then
      ⟨{ m with data := Function.update m.data (m.ptrs i) { item with valid := false } },
        .reading ip bufLen, none⟩
    else
      ⟨{ m with ptrs := fakednsMoveToFront m.ptrs i }, .idle,
        some (strncopy item.domain (bufLen - 1))⟩
  | .reading ip bufLen =>
    match s.pool (htonl ip - s.fakeipNetHost) with
    | none => ⟨m, .idle, none⟩
    | some entry =>
      ⟨m, .storing ip bufLen (strncopy entry.domain (fakednsMaxDomainLen - 1)) entry.version, none⟩
  | .storing ip bufLen tmpDomain tmpVersion =>
    let evicted := m.ptrs (Fin.last 7)
    ⟨{ m with
        ptrs := fakednsMoveToFront m.ptrs (Fin.last 7)
        data := Function.update m.data evicted ⟨ip, tmpVersion, true, tmpDomain⟩ },
      .idle,
      some (tmpDomain.take (if tmpDomain.length ≥ bufLen then bufLen - 1 else tmpDomain.length))⟩

/-- Without a step of another thread in between, a call is `fakednsReverseLookup`. -/
theorem fakednsReverseNext_undisturbed (s : Fakedns) (m : FakednsMru) (ip : BitVec 32) (bufLen : Nat) :
    (fakednsReverseNext s)^[3] (fakednsReverseCall s m ip bufLen) =
      ⟨(fakednsReverseLookup s m ip bufLen).2, .idle, (fakednsReverseLookup s m ip bufLen).1⟩ := by
  have rest (k : Nat) (m : FakednsMru) (answer : Option (List UInt8)) :
      (fakednsReverseNext s)^[k] ⟨m, .idle, answer⟩ = ⟨m, .idle, answer⟩ :=
    Function.iterate_fixed rfl k
  have slow (m : FakednsMru) : (fakednsReverseNext s)^[2] ⟨m, .reading ip bufLen, none⟩ =
      ⟨(fakednsPoolLookup s m ip (htonl ip - s.fakeipNetHost) bufLen).2, .idle,
        (fakednsPoolLookup s m ip (htonl ip - s.fakeipNetHost) bufLen).1⟩ := by
    simp only [Function.iterate_succ_apply, Function.iterate_zero_apply, fakednsPoolLookup]
    cases holds : s.pool (htonl ip - s.fakeipNetHost) <;>
      simp only [fakednsReverseNext, holds]
  have last (m : FakednsMru) : (fakednsReverseNext s)^[3] ⟨m, .reading ip bufLen, none⟩ =
      ⟨(fakednsPoolLookup s m ip (htonl ip - s.fakeipNetHost) bufLen).2, .idle,
        (fakednsPoolLookup s m ip (htonl ip - s.fakeipNetHost) bufLen).1⟩ := by
    rw [Function.iterate_succ_apply', slow]
    rfl
  simp only [fakednsReverseCall, fakednsReverseLookup]
  split
  · exact rest 3 m none
  split
  · exact rest 3 m none
  split
  · exact rest 3 m none
  simp only [fakednsMruLookup]
  cases found : fakednsMruScan (fakednsMruInit m) ip with
  | none =>
    unfold fakednsMruScan at found
    simp only [found, last]
  | some i =>
    unfold fakednsMruScan at found
    simp only [found, Function.iterate_succ_apply (fakednsReverseNext s) 2]
    simp only [fakednsReverseNext]
    split
    · exact slow _
    · exact rest 2 _ _

/-- The pool, the time and the threads that look up addresses. -/
structure FakednsThreads where
  dns : Fakedns
  now : Nat
  thread : Nat → FakednsThread

def FakednsThreads.set (w : FakednsThreads) (i : Nat) (t : FakednsThread) : FakednsThreads :=
  { w with thread := Function.update w.thread i t }

variable (hash : List UInt8 → BitVec 64)

/-- One step of some thread: the DNS thread looks up a name, of any bytes, or
a thread calls `fakedns_reverse_lookup` or goes on with its call. -/
inductive FakednsThreadsStep : FakednsThreads → FakednsThreads → Prop
  | tick {w} (later : Nat) : FakednsThreadsStep w { w with now := later }
  | lookup {w} (domain : List UInt8) (memory : Bool) :
      FakednsThreadsStep w { w with
        dns := (fakednsLookupDomain hash w.dns domain (BitVec.ofNat 32 w.now) memory).2 }
  | call {w} (i : Nat) (ip : BitVec 32) (bufLen : Nat) : (w.thread i).pc = .idle →
      FakednsThreadsStep w (w.set i (fakednsReverseCall w.dns (w.thread i).mru ip bufLen))
  | next {w} (i : Nat) : (w.thread i).pc ≠ .idle →
      FakednsThreadsStep w (w.set i (fakednsReverseNext w.dns (w.thread i)))

abbrev FakednsThreadsRun : FakednsThreads → FakednsThreads → Prop :=
  Relation.ReflTransGen (FakednsThreadsStep hash)

/-- All threads start with the pool that `fakedns_init` or `fakedns_load` left. -/
def FakednsThreads.Start (w : FakednsThreads) : Prop :=
  FakednsStart ⟨w.dns, fun _ => fakednsMruZero, w.now⟩ ∧
    ∀ i, w.thread i = ⟨fakednsMruZero, .idle, none⟩

/-- Thread `i` is called in `w` and is in this call, or has just returned from
it, in the last world. The pools are all there were during the call. -/
inductive FakednsCall (i : Nat) (ip : BitVec 32) (bufLen : Nat) (w : FakednsThreads) :
    List Fakedns → FakednsThreads → Prop
  | call : (w.thread i).pc = .idle →
      FakednsCall i ip bufLen w [w.dns]
        (w.set i (fakednsReverseCall w.dns (w.thread i).mru ip bufLen))
  | step {pools v v'} : FakednsCall i ip bufLen w pools v → (v.thread i).pc ≠ .idle →
      FakednsThreadsStep hash v v' → FakednsCall i ip bufLen w (v'.dns :: pools) v'

/-- What a read of the slot of an address gives. -/
def Fakedns.read (s : Fakedns) (ip : BitVec 32) (bufLen : Nat) : Option (List UInt8) :=
  if htonl ip &&& s.fakeipMaskHost ≠ s.fakeipNetHost then none
  else if htonl ip - s.fakeipNetHost ≥ s.poolSize then none
  else (s.pool (htonl ip - s.fakeipNetHost)).map fun entry => strncopy entry.domain (bufLen - 1)

end Tproxy
