import Tproxy.Fakedns.Packet
import Tproxy.Fakedns.Responses

namespace Tproxy

open Program

variable {mem : FakednsMemory} {p query buffer len qlen buflen n i offset : Nat} {byte : UInt8}
  {bytes domain : List UInt8}

section Bytes

theorem FakednsMemory.bytes_length (mem : FakednsMemory) (p n : Nat) : (mem.bytes p n).length = n := by
  rw [FakednsMemory.bytes, List.length_map, List.length_range]

theorem FakednsMemory.bytes_succ (mem : FakednsMemory) (p n : Nat) :
    mem.bytes p (n + 1) = mem.bytes p n ++ [mem.packet p n] := by
  rw [FakednsMemory.bytes, List.range_succ, List.map_append]
  rfl

/-- What is left of the bytes from a position on starts with the byte there. -/
theorem FakednsMemory.bytes_drop (mem : FakednsMemory) (p : Nat) (inside : i < n) :
    (mem.bytes p n).drop i = mem.packet p i :: (mem.bytes p n).drop (i + 1) := by
  have bound : i < (mem.bytes p n).length := by rwa [mem.bytes_length]
  rw [List.drop_eq_getElem_cons bound]
  simp only [FakednsMemory.bytes, List.getElem_map, List.getElem_range]

theorem FakednsMemory.bytes_take (mem : FakednsMemory) (p : Nat) (fits : i ≤ n) :
    (mem.bytes p n).take i = mem.bytes p i := by
  rw [FakednsMemory.bytes, ← List.map_take, List.take_range, Nat.min_eq_left fits]
  rfl

theorem map_range_update (f : Nat → UInt8) (i : Nat) (byte : UInt8) (n : Nat) :
    (List.range n).map (Function.update f i byte) = ((List.range n).map f).set i byte := by
  refine List.ext_getElem (by simp only [List.length_map, List.length_set]) fun j bound _ => ?_
  simp only [List.getElem_map, List.getElem_range, List.getElem_set, Function.update_apply, eq_comm]

end Bytes

section Access

/-- A load within the bytes gives one of them, and the program goes on. -/
theorem loadByte_bind {α : Type} {f : UInt8 → FakednsProgram α} {Q : α → FakednsMemory → Prop}
    (inside : i < len) (rest : (f (mem.packet p i)).Yields mem Q) :
    (loadByte p len i >>= f).Yields mem Q := by
  have loads : (loadByte p len i).Yields mem fun byte mem' => byte = mem.packet p i ∧ mem' = mem := by
    refine ⟨_, _, ?_, rfl, rfl⟩
    change (if i < len then (pure (mem.packet p i) : FakednsProgram UInt8) else Program.fault) mem = _
    rw [if_pos inside]
    rfl
  refine loads.bind fun byte mem' ⟨same, unchanged⟩ => ?_
  rw [same, unchanged]
  exact rest

/-- A memory after stores behind `p`: the rest is as before. -/
structure FakednsStored (p : Nat) (mem mem' : FakednsMemory) : Prop where
  others : ∀ q, q ≠ p → mem'.packet q = mem.packet q
  dns : mem'.dns = mem.dns
  mru : mem'.mru = mem.mru

theorem FakednsStored.refl (p : Nat) (mem : FakednsMemory) : FakednsStored p mem mem :=
  ⟨fun _ _ => rfl, rfl, rfl⟩

theorem FakednsStored.trans {mem' mem'' : FakednsMemory} (first : FakednsStored p mem mem')
    (second : FakednsStored p mem' mem'') : FakednsStored p mem mem'' :=
  ⟨fun q apart => (second.others q apart).trans (first.others q apart), second.dns.trans first.dns,
    second.mru.trans first.mru⟩

theorem storeByte_yields (inside : i < len) : (storeByte p len i byte).Yields mem fun _ mem' =>
    FakednsStored p mem mem' ∧ ∀ n, mem'.bytes p n = (mem.bytes p n).set i byte := by
  refine ⟨⟨⟩, { mem with packet := Function.update mem.packet p (Function.update (mem.packet p) i byte) },
    ?_, ⟨fun q apart => Function.update_of_ne apart .., rfl, rfl⟩, fun n => ?_⟩
  · change (if i < len then (set _ : FakednsProgram Unit) else Program.fault) mem = _
    rw [if_pos inside]
    rfl
  · simp only [FakednsMemory.bytes, Function.update_self]
    exact map_range_update ..

/-- Stores are made one after the other. -/
theorem storeBytes_sets (room : i + bytes.length ≤ len) :
    (storeBytes p len i bytes).Yields mem fun _ mem' => FakednsStored p mem mem' ∧
      ∀ n, mem'.bytes p n =
        (bytes.zipIdx i).foldl (fun stored byte => stored.set byte.2 byte.1) (mem.bytes p n) := by
  induction bytes generalizing i mem with
  | nil => exact yields_pure ⟨.refl p mem, fun _ => rfl⟩
  | cons byte bytes ih =>
    rw [List.length_cons] at room
    rw [storeBytes]
    refine (storeByte_yields (by omega)).bind fun _ mem₁ ⟨stored₁, set₁⟩ => ?_
    refine (ih (by omega)).mono fun _ mem₂ ⟨stored₂, set₂⟩ => ⟨stored₁.trans stored₂, fun n => ?_⟩
    rw [set₂, set₁, List.zipIdx_cons, List.foldl_cons]

/-- Stores at the end of the bytes that are looked at append to them. -/
theorem storeBytes_yields (room : i + bytes.length ≤ len) :
    (storeBytes p len i bytes).Yields mem fun _ mem' =>
      FakednsStored p mem mem' ∧ mem'.bytes p (i + bytes.length) = mem.bytes p i ++ bytes := by
  induction bytes generalizing i mem with
  | nil => exact yields_pure ⟨.refl p mem, (List.append_nil _).symm⟩
  | cons byte bytes ih =>
    rw [List.length_cons] at room ⊢
    rw [storeBytes]
    refine (storeByte_yields (by omega)).bind fun _ mem₁ ⟨stored₁, set₁⟩ => ?_
    refine (ih (by omega)).mono fun _ mem₂ ⟨stored₂, bytes₂⟩ => ⟨stored₁.trans stored₂, ?_⟩
    have last : (mem.bytes p (i + 1)).set i byte = mem.bytes p i ++ [byte] := by
      rw [mem.bytes_succ, List.set_append_right _ _ (by rw [mem.bytes_length]), mem.bytes_length,
        Nat.sub_self]
      rfl
    have sum : i + (bytes.length + 1) = i + 1 + bytes.length := by omega
    rw [sum, bytes₂, set₁, last, List.append_assoc]
    rfl

theorem copyBytes_yields (apart : query ≠ buffer) {left : Nat} (read : i + left ≤ qlen)
    (room : i + left ≤ buflen) (same : mem.bytes buffer i = mem.bytes query i) :
    (copyBytes query qlen buffer buflen i left).Yields mem fun _ mem' =>
      FakednsStored buffer mem mem' ∧ mem'.bytes buffer (i + left) = mem.bytes query (i + left) := by
  induction left generalizing i mem with
  | zero => exact yields_pure ⟨.refl buffer mem, same⟩
  | succ left ih =>
    rw [copyBytes]
    refine loadByte_bind (by omega) ?_
    refine (storeByte_yields (by omega)).bind fun _ mem₁ ⟨stored₁, set₁⟩ => ?_
    have kept (n : Nat) : mem₁.bytes query n = mem.bytes query n := by
      rw [FakednsMemory.bytes, FakednsMemory.bytes, stored₁.others query apart]
    have one : mem₁.bytes buffer (i + 1) = mem₁.bytes query (i + 1) := by
      rw [kept, set₁, mem.bytes_succ buffer, mem.bytes_succ query, same,
        List.set_append_right _ _ (by rw [mem.bytes_length]), mem.bytes_length, Nat.sub_self]
      rfl
    have sum : i + (left + 1) = i + 1 + left := by omega
    rw [sum] at read room ⊢
    refine (ih read room one).mono fun _ mem₂ ⟨stored₂, bytes₂⟩ => ⟨stored₁.trans stored₂, ?_⟩
    rw [bytes₂, kept]

end Access

section Walk

theorem pushDomain_bind {α : Type} {f : List UInt8 → FakednsProgram α} {Q : α → FakednsMemory → Prop}
    (room : domain.length < fakednsMaxDomainLen) (rest : (f (domain ++ [byte])).Yields mem Q) :
    (pushDomain domain byte >>= f).Yields mem Q := by
  rw [pushDomain, if_pos room]
  exact rest

theorem fakednsCopyLabel_yields {left : Nat} (inside : i + left ≤ qlen)
    (room : domain.length + left ≤ fakednsMaxDomainLen) :
    (fakednsCopyLabel query qlen left i domain).Yields mem fun copied mem' => mem' = mem ∧
      copied = domain ++ (((mem.bytes query qlen).drop i).take left).map asciiLower := by
  induction left generalizing i domain with
  | zero => exact yields_pure ⟨rfl, (List.append_nil _).symm⟩
  | succ left ih =>
    rw [fakednsCopyLabel]
    refine loadByte_bind (by omega) (pushDomain_bind (by omega) ?_)
    have longer : (domain ++ [asciiLower (mem.packet query i)]).length = domain.length + 1 :=
      List.length_append
    refine (ih (by omega) (by omega)).mono fun copied mem' ⟨unchanged, same⟩ => ⟨unchanged, ?_⟩
    rw [same, mem.bytes_drop query (by omega : i < qlen), List.take_succ_cons, List.map_cons,
      List.append_assoc]
    rfl

/-- The walk over the packet and that over its bytes end alike. -/
def FakednsWalked (mem : FakednsMemory) (query qlen labels offset : Nat) (domain : List UInt8)
    (walked : Option (Nat × List UInt8)) : Prop :=
  walked = (fakednsWalkQname labels domain ((mem.bytes query qlen).drop offset)).map
    fun result => (qlen - result.2.length, result.1)

theorem fakednsWalked_last (labels : Nat) (inside : offset ≤ qlen) (last : ¬offset < qlen) :
    FakednsWalked mem query qlen labels offset domain (some (offset, domain)) := by
  have all : (mem.bytes query qlen).drop offset = [] :=
    List.drop_of_length_le (by rw [mem.bytes_length]; omega)
  have same : offset = qlen := by omega
  rw [FakednsWalked, all, same]
  cases labels <;> rfl

theorem pushDot_yields (room : domain.length < fakednsMaxDomainLen) :
    (pushDot domain).Yields mem fun pushed mem' =>
      mem' = mem ∧ pushed = if domain.length > 0 then domain ++ [46] else domain := by
  unfold pushDot
  split
  · rw [pushDomain, if_pos room]
    exact yields_pure ⟨rfl, rfl⟩
  · exact yields_pure ⟨rfl, rfl⟩

/-- The walk over the packet is the walk over its bytes. -/
theorem fakednsWalkPacket_yields {labels : Nat} (inside : offset ≤ qlen)
    (short : domain.length < fakednsMaxDomainLen) :
    (fakednsWalkPacket query qlen labels offset domain).Yields mem fun walked mem' => mem' = mem ∧
      FakednsWalked mem query qlen labels offset domain walked := by
  induction labels generalizing offset domain with
  | zero =>
    rw [fakednsWalkPacket]
    split
    · rename_i more
      unfold FakednsWalked
      rw [mem.bytes_drop query more]
      exact yields_pure ⟨rfl, rfl⟩
    · rename_i last
      exact yields_pure ⟨rfl, fakednsWalked_last 0 inside last⟩
  | succ labels ih =>
    rw [fakednsWalkPacket]
    split
    · rename_i more
      refine loadByte_bind more ?_
      have left : ((mem.bytes query qlen).drop (offset + 1)).length = qlen - (offset + 1) := by
        rw [List.length_drop, mem.bytes_length]
      unfold FakednsWalked
      rw [mem.bytes_drop query more, fakednsWalkQname]
      split
      · refine yields_pure ⟨rfl, ?_⟩
        rw [Option.map_some, left]
        congr 2
        omega
      split
      · exact yields_pure ⟨rfl, rfl⟩
      by_cases beyond : offset + 1 + (mem.packet query offset).toNat > qlen
      · rw [if_pos beyond, if_pos (by rw [left]; omega)]
        exact yields_pure ⟨rfl, rfl⟩
      have within : ¬(mem.packet query offset).toNat > ((mem.bytes query qlen).drop (offset + 1)).length := by
        rw [left]
        omega
      rw [if_neg beyond, if_neg within]
      by_cases long : domain.length + (if domain.length > 0 then 1 else 0) +
        (mem.packet query offset).toNat ≥ fakednsMaxDomainLen
      · rw [if_pos long, if_pos long]
        exact yields_pure ⟨rfl, rfl⟩
      rw [if_neg long, if_neg long]
      refine (pushDot_yields short).bind fun pushed mem₁ dots => ?_
      obtain ⟨unchanged₁, dotted⟩ := dots
      subst unchanged₁ dotted
      have size : (if domain.length > 0 then domain ++ [46] else domain).length =
          domain.length + (if domain.length > 0 then 1 else 0) := by
        split
        · exact List.length_append
        · rfl
      refine (fakednsCopyLabel_yields (by omega) (by omega)).bind fun copied mem₂ labels => ?_
      obtain ⟨unchanged₂, label⟩ := labels
      subst unchanged₂
      have appended : copied = fakednsAppendLabel domain
        (((mem₂.bytes query qlen).drop (offset + 1)).take (mem₂.packet query offset).toNat) := label
      have fits : (((mem₂.bytes query qlen).drop (offset + 1)).take
          (mem₂.packet query offset).toNat).length = (mem₂.packet query offset).toNat :=
        List.length_take_of_le (Nat.not_lt.mp within)
      have next : (fakednsAppendLabel domain (((mem₂.bytes query qlen).drop (offset + 1)).take
          (mem₂.packet query offset).toNat)).length < fakednsMaxDomainLen := by
        rw [fakednsAppendLabel_length, fits]
        omega
      rw [appended, List.drop_drop]
      exact ih (by omega) next
    · rename_i last
      exact yields_pure ⟨rfl, fakednsWalked_last _ inside last⟩

end Walk

end Tproxy
