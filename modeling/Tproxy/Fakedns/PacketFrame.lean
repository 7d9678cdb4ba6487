import Tproxy.Fakedns.Packet

namespace Tproxy

open Program

/-- The bytes behind one pointer. -/
def FakednsMemory.behind (q : Nat) (mem : FakednsMemory) : Nat → UInt8 := mem.packet q

variable {mem : FakednsMemory} {q p len i query qlen buffer buflen : Nat} {domain bytes : List UInt8}
  {hash : List UInt8 → BitVec 64} {now : BitVec 32} {memory : Bool}

section Access

theorem loadByte_keeps : (loadByte p len i).Keeps (FakednsMemory.behind q) mem :=
  keeps_get_bind (keeps_ite keeps_pure keeps_fault)

theorem storeByte_keeps (apart : q ≠ p) (byte : UInt8) :
    (storeByte p len i byte).Keeps (FakednsMemory.behind q) mem := by
  refine keeps_get_bind (keeps_ite (fun _ t ends => ?_) keeps_fault)
  cases ends
  exact Function.update_of_ne apart ..

theorem storeBytes_keeps (apart : q ≠ p) :
    (storeBytes p len i bytes).Keeps (FakednsMemory.behind q) mem := by
  induction bytes generalizing i mem with
  | nil => exact keeps_pure
  | cons byte bytes ih => exact (storeByte_keeps apart byte).bind fun _ _ => ih

theorem copyBytes_keeps (apart : q ≠ buffer) {left : Nat} :
    (copyBytes query qlen buffer buflen i left).Keeps (FakednsMemory.behind q) mem := by
  induction left generalizing i mem with
  | zero => exact keeps_pure
  | succ left ih =>
    exact loadByte_keeps.bind fun byte _ => (storeByte_keeps apart byte).bind fun _ _ => ih

theorem pushDomain_keeps (c : UInt8) : (pushDomain domain c).Keeps (FakednsMemory.behind q) mem :=
  keeps_ite keeps_pure keeps_fault

end Access

theorem fakednsCopyLabel_keeps {left : Nat} :
    (fakednsCopyLabel query qlen left i domain).Keeps (FakednsMemory.behind q) mem := by
  induction left generalizing i domain mem with
  | zero => exact keeps_pure
  | succ left ih =>
    exact loadByte_keeps.bind fun c _ => (pushDomain_keeps _).bind fun _ _ => ih

theorem fakednsWalkPacket_keeps {labels offset : Nat} :
    (fakednsWalkPacket query qlen labels offset domain).Keeps (FakednsMemory.behind q) mem := by
  induction labels generalizing offset domain mem with
  | zero => exact keeps_ite keeps_pure keeps_pure
  | succ labels ih =>
    refine keeps_ite (loadByte_keeps.bind fun len mem => ?_) keeps_pure
    have dotted : (pushDot domain).Keeps (FakednsMemory.behind q) mem :=
      keeps_ite (pushDomain_keeps _) keeps_pure
    refine keeps_ite keeps_pure (keeps_ite keeps_pure (keeps_ite keeps_pure (keeps_ite keeps_pure ?_)))
    exact dotted.bind fun _ _ => fakednsCopyLabel_keeps.bind fun _ _ => ih

section Reply

theorem fakednsStoreFlags_keeps (apart : q ≠ buffer) (respFlags : UInt16) :
    (fakednsStoreFlags buffer buflen respFlags).Keeps (FakednsMemory.behind q) mem :=
  (storeByte_keeps apart _).bind fun _ _ => storeByte_keeps apart _

theorem fakednsEcho_keeps (apart : q ≠ buffer) (respLen : Nat) (respFlags : UInt16) :
    (fakednsEcho query qlen buffer buflen respLen respFlags).Keeps (FakednsMemory.behind q) mem := by
  have copied : (fakednsCopyQuestion query qlen buffer buflen respLen).Keeps
      (FakednsMemory.behind q) mem := keeps_ite (copyBytes_keeps apart) keeps_pure
  exact copied.bind fun _ _ => (fakednsStoreFlags_keeps apart _).bind fun _ _ => storeBytes_keeps apart

theorem fakednsStoreAnswer_keeps (apart : q ≠ buffer) (respLen : Nat) (qtype : UInt8) (rdata : List UInt8) :
    (fakednsStoreAnswer buffer buflen respLen qtype rdata).Keeps (FakednsMemory.behind q) mem :=
  (storeBytes_keeps apart).bind fun _ _ => (storeByte_keeps apart _).bind fun _ _ => keeps_pure

theorem fakednsAnswerPacket_keeps (apart : q ≠ buffer) (respLen : Nat) (respFlags qtype : UInt16) :
    (fakednsAnswerPacket buffer buflen hash now memory respLen respFlags domain qtype).Keeps
      (FakednsMemory.behind q) mem := by
  unfold fakednsAnswerPacket
  split
  · refine keeps_get_bind ?_
    cases fakednsLookupDomain hash mem.dns domain now memory with
    | mk fakeip dns =>
      exact keeps_set_bind rfl (keeps_ite
        (keeps_ite keeps_pure (fakednsStoreAnswer_keeps apart _ _ _))
        ((fakednsStoreFlags_keeps apart _).bind fun _ _ => keeps_pure))
  split
  · split
    · exact keeps_pure
    · rename_i ptrIp _
      refine keeps_get_bind ?_
      cases fakednsReverseLookup mem.dns mem.mru ptrIp fakednsMaxDomainLen with
      | mk ptrDomain mru =>
        refine keeps_set_bind rfl ?_
        split
        · exact keeps_pure
        · exact keeps_ite keeps_pure (fakednsStoreAnswer_keeps apart _ _ _)
  · exact keeps_pure

/-- Only the buffer is written to. -/
theorem fakednsProcessPacket_keeps (apart : q ≠ buffer) :
    (fakednsProcessPacket query qlen buffer buflen hash now memory).Keeps (FakednsMemory.behind q) mem := by
  unfold fakednsProcessPacket
  refine keeps_ite keeps_pure (loadByte_keeps.bind fun f₁ _ => loadByte_keeps.bind fun f₀ _ =>
    loadByte_keeps.bind fun q₁ _ => loadByte_keeps.bind fun q₀ _ => ?_)
  refine keeps_ite keeps_pure (fakednsWalkPacket_keeps.bind fun walked _ => ?_)
  split
  · exact keeps_pure
  refine keeps_ite keeps_pure ((pushDomain_keeps _).bind fun _ _ => keeps_ite keeps_pure ?_)
  refine loadByte_keeps.bind fun t₁ _ => loadByte_keeps.bind fun t₀ _ =>
    loadByte_keeps.bind fun c₁ _ => loadByte_keeps.bind fun c₀ _ => ?_
  refine keeps_ite keeps_pure (keeps_ite ?_ ?_)
  · exact (fakednsEcho_keeps apart _ _).bind fun _ _ => keeps_pure
  · exact (fakednsEcho_keeps apart _ _).bind fun _ _ => fakednsAnswerPacket_keeps apart _ _ _

end Reply

end Tproxy
