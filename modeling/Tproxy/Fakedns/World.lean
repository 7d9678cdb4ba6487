import Mathlib.Logic.Relation
import Tproxy.Fakedns.Init
import Tproxy.Fakedns.Reverse

namespace Tproxy

/-- The pool, the caches of all threads and the time in seconds. -/
structure FakednsWorld where
  dns : Fakedns
  mru : Nat → FakednsMru
  now : Nat

/-- `(uint32_t)time(NULL)` -/
def FakednsWorld.time (w : FakednsWorld) : BitVec 32 := BitVec.ofNat 32 w.now

/-- A name with `len = strlen` that fits an entry. -/
def FakednsName (domain : List UInt8) : Prop := 0 ∉ domain ∧ domain.length < fakednsMaxDomainLen

instance : DecidablePred FakednsName := fun domain =>
  inferInstanceAs (Decidable (0 ∉ domain ∧ domain.length < fakednsMaxDomainLen))

variable (hash : List UInt8 → BitVec 64)

/-- What the program may do next: time passes, the DNS thread looks up a
name, or any thread looks up an address. -/
inductive FakednsStep : FakednsWorld → FakednsWorld → Prop
  | tick {w} (later : Nat) : w.now ≤ later → FakednsStep w { w with now := later }
  | lookup {w} (domain : List UInt8) (memory : Bool) : FakednsName domain →
      FakednsStep w { w with dns := (fakednsLookupDomain hash w.dns domain w.time memory).2 }
  | reverse {w} (thread : Nat) (ip : BitVec 32) (bufLen : Nat) :
      FakednsStep w { w with
        mru := Function.update w.mru thread
          (fakednsReverseLookup w.dns (w.mru thread) ip bufLen).2 }

abbrev FakednsRun : FakednsWorld → FakednsWorld → Prop := Relation.ReflTransGen (FakednsStep hash)

/-- The pool after its initialisation, with or without a saved file. -/
inductive FakednsStart : FakednsWorld → Prop
  | init {s} (cidrStr : List UInt8) (now : Nat) : fakednsInit cidrStr true = some s →
      FakednsStart ⟨s, fun _ => fakednsMruZero, now⟩
  | load {s} (cidrStr : List UInt8) (now : Nat) (file : List UInt8) (seek memory : Nat → Bool) :
      fakednsInit cidrStr true = some s →
      FakednsStart ⟨fakednsLoad s file (BitVec.ofNat 32 now) seek memory, fun _ => fakednsMruZero, now⟩

end Tproxy
