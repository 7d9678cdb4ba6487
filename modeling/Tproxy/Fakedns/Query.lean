import Tproxy.Fakedns.Reverse
import Tproxy.Fakedns.Save

namespace Tproxy

/-- ASCII upper case to lower case. -/
def asciiLower (c : UInt8) : UInt8 := if 65 ≤ c ∧ c ≤ 90 then c ||| 0x20 else c

section Names

/-- A label behind the dotted name before it. -/
def fakednsAppendLabel (domain label : List UInt8) : List UInt8 :=
  (if domain.length > 0 then domain ++ [46] else domain) ++ label.map asciiLower

/-- The walk over QNAME, with the labels that may follow: the dotted name and
what is left of the query. -/
def fakednsWalkQname : Nat → List UInt8 → List UInt8 → Option (List UInt8 × List UInt8)
  | _, domain, [] => some (domain, [])
  | 0, _, _ :: _ => none
  | labels + 1, domain, len :: rest =>
    if len = 0 then some (domain, rest)
    else if len > 63 then none
    else if len.toNat > rest.length then none
    else if domain.length + (if domain.length > 0 then 1 else 0) + len.toNat ≥ fakednsMaxDomainLen then
      none
    else
      fakednsWalkQname labels (fakednsAppendLabel domain (rest.take len.toNat)) (rest.drop len.toNat)

/-- `.in-addr.arpa` -/
def inAddrArpa : List UInt8 := [46, 105, 110, 45, 97, 100, 100, 114, 46, 97, 114, 112, 97]

def fakednsPtrOctet (tok : List UInt8) : Option UInt8 :=
  if tok.head? = some 48 ∧ tok.length > 1 then none
  else
    let (val, endptr) := strtoul tok
    if endptr ≠ [] ∨ val > 255 ∨ endptr = tok then none else some (UInt8.ofNat val)

def fakednsParsePtrName (name : List UInt8) : Option (BitVec 32) :=
  if name.length < 20 ∨ name.length > 28 then none
  else if (name.drop (name.length - 13)).map asciiLower ≠ inAddrArpa then none
  else
    match (strtok 46 (cStr (name.take (name.length - 13)))).mapM fakednsPtrOctet with
    | some [o₀, o₁, o₂, o₃] =>
      some (htonl (BitVec.ofNat 32 o₃.toNat <<< 24 ||| BitVec.ofNat 32 o₂.toNat <<< 16 |||
        BitVec.ofNat 32 o₁.toNat <<< 8 ||| BitVec.ofNat 32 o₀.toNat))
    | _ => none

/-- The loop of `fakedns_encode_dns_name` from `p` on; `out` is written. -/
def fakednsEncodeLabels (outlen : Nat) (p out : List UInt8) : Option (List UInt8) :=
  if p = [] then if out.length + 1 > outlen then none else some (out ++ [0])
  else
    let label := p.takeWhile (· ≠ 46)
    if label.length = 0 ∨ label.length > 63 then none
    else if out.length + 1 + label.length + 1 > outlen then none
    else
      -- the dot behind the label is skipped, if there is one
      fakednsEncodeLabels outlen (p.drop (label.length + 1))
        (out ++ UInt8.ofNat label.length :: label)
termination_by p.length
decreasing_by
  have some := List.length_pos_iff.mpr ‹¬p = []›
  simp only [List.length_drop]
  omega

/-- `fakedns_encode_dns_name` for the string in a buffer. -/
def fakednsEncodeDnsName (domain : List UInt8) (outlen : Nat) : Option (List UInt8) :=
  fakednsEncodeLabels outlen (cStr domain) []

end Names

section Message

/-- The header and the question of a response, with the answer behind them. -/
def fakednsResponse (question : List UInt8) (respFlags : UInt16) (ancount : UInt8)
    (answer : List UInt8) : List UInt8 :=
  ((((((((question.set 2 (respFlags >>> 8).toUInt8).set 3 respFlags.toUInt8).set 6 0).set 7
    ancount).set 8 0).set 9 0).set 10 0).set 11 0) ++ answer

/-- An answer for the name of the question, in class IN. -/
def fakednsAnswer (qtype : UInt8) (rdata : List UInt8) : List UInt8 :=
  [0xC0, 0x0C, 0x00, qtype, 0x00, 0x01] ++ fwriteLe 4 (htonl (BitVec.ofNat 32 fakednsDnsTtl)).toNat ++
    [UInt8.ofNat (rdata.length / 256), UInt8.ofNat rdata.length] ++ rdata

variable (hash : List UInt8 → BitVec 64)

/-- `fakedns_process_query` from the question on, by a thread with the cache
`m`: the response, or `none` for 0, with the pool and the cache after it. -/
def fakednsProcessQuestion (s : Fakedns) (m : FakednsMru) (now : BitVec 32) (memory : Bool)
    (question : List UInt8) (respFlags : UInt16) (domain : List UInt8) (qtype qclass : UInt16)
    (buflen : Nat) : Option (List UInt8) × Fakedns × FakednsMru :=
  if question.length > buflen then (none, s, m)
  else if qclass ≠ 1 then (some (fakednsResponse question (respFlags ||| 0x0005) 0 []), s, m)
  else if qtype = 1 then
    let (fakeip, s) := fakednsLookupDomain hash s domain now memory
    if fakeip ≠ 0 then
      if question.length + 16 > buflen then (none, s, m)
      else
        (some (fakednsResponse question respFlags 1 (fakednsAnswer 1 (fwriteLe 4 fakeip.toNat))), s, m)
    else (some (fakednsResponse question (respFlags ||| 0x0002) 0 []), s, m)
  else if qtype = 12 then
    match fakednsParsePtrName domain with
    | none => (some (fakednsResponse question respFlags 0 []), s, m)
    | some ptrIp =>
      match fakednsReverseLookup s m ptrIp fakednsMaxDomainLen with
      | (none, m) => (some (fakednsResponse question respFlags 0 []), s, m)
      | (some ptrDomain, m) =>
        match fakednsEncodeDnsName ptrDomain (fakednsMaxDomainLen + 2) with
        | none => (some (fakednsResponse question respFlags 0 []), s, m)
        | some rdata =>
          if question.length + 12 + rdata.length > buflen then (none, s, m)
          else (some (fakednsResponse question respFlags 1 (fakednsAnswer 12 rdata)), s, m)
  else (some (fakednsResponse question respFlags 0 []), s, m)

/-- `fakedns_process_query` with a buffer of `buflen` bytes. -/
def fakednsProcessQuery (s : Fakedns) (m : FakednsMru) (now : BitVec 32) (memory : Bool)
    (query : List UInt8) (buflen : Nat) : Option (List UInt8) × Fakedns × FakednsMru :=
  match query with
  | _ :: _ :: f₁ :: f₀ :: q₁ :: q₀ :: _ :: _ :: _ :: _ :: _ :: _ :: body =>
    let flags := f₁.toUInt16 <<< 8 ||| f₀.toUInt16
    let qdcount := q₁.toUInt16 <<< 8 ||| q₀.toUInt16
    if buflen < query.length then (none, s, m)
    else if flags &&& 0xF800 ≠ 0 ∨ qdcount ≠ 1 then (none, s, m)
    else
      match fakednsWalkQname 128 [] body with
      | none => (none, s, m)
      | some ([], _) => (none, s, m)
      | some (domain, t₁ :: t₀ :: c₁ :: c₀ :: rest) =>
        fakednsProcessQuestion hash s m now memory (query.take (query.length - rest.length))
          (0x8180 ||| flags &&& 0x0100) domain (t₁.toUInt16 <<< 8 ||| t₀.toUInt16)
          (c₁.toUInt16 <<< 8 ||| c₀.toUInt16) buflen
      | some (_, _) => (none, s, m)
  | _ => (none, s, m)

end Message

example : fakednsEncodeDnsName [97, 46, 98, 99] 246 = some [1, 97, 2, 98, 99, 0] := by decide +kernel

example : fakednsParsePtrName ([49, 46, 48, 46, 48, 46, 49, 48] ++ inAddrArpa) =
    some (htonl 0x0A000001) := by decide +kernel

end Tproxy
