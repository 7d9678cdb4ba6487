import Tproxy.Fakedns.PacketFrame
import Tproxy.Fakedns.PacketLaws
import Tproxy.Fakedns.Server

namespace Tproxy

open Program

section Spec
variable (hash : List UInt8 → BitVec 64)

/-- The queries one after the other, as far as they fit a packet: the answers,
each to its sender, and the pool and the cache afterwards. -/
def fakednsServe : List FakednsArrival → Fakedns → FakednsMru →
    List FakednsDatagram × Fakedns × FakednsMru
  | [], s, m => ([], s, m)
  | arrival :: arrivals, s, m =>
    let query := arrival.datagram.data.take fakednsMaxUdpSize
    let answer := fakednsProcessQuery hash s m arrival.now arrival.memory query fakednsMaxUdpSize
    let later := fakednsServe arrivals answer.2.1 answer.2.2
    (answer.1.toList.map (⟨arrival.datagram.name.take sockaddrStorageSize, ·⟩) ++ later.1, later.2)

end Spec

/-- A query in the grammar, and a packet with its ID for its sender. -/
structure FakednsReplyTo (arrival : FakednsArrival) (d : FakednsDatagram) : Prop where
  sender : d.name = arrival.datagram.name.take sockaddrStorageSize
  asks : ∃ labels qtype qclass rest,
    FakednsAsks (arrival.datagram.data.take fakednsMaxUdpSize) labels qtype qclass rest
  id : d.data.take 2 = arrival.datagram.data.take 2
  short : d.data.length ≤ fakednsMaxUdpSize

def FakednsCallback.arrivals (cb : FakednsCallback) : List FakednsArrival :=
  (cb.received.getD []).take fakednsBatchSize

variable {hash : List UInt8 → BitVec 64} {st st' : FakednsServer} {s : Fakedns} {m : FakednsMru}
  {arrivals : List FakednsArrival} {arrival : FakednsArrival} {d : FakednsDatagram} {i n : Nat}

namespace FakednsServer

/-- Message `i` is as it was received. -/
structure Holds (st : FakednsServer) (i : Nat) (arrival : FakednsArrival) : Prop where
  data : st.mem.bytes i (st.msgLen i) = arrival.datagram.data.take fakednsMaxUdpSize
  name : (st.addrs i).take (st.namelen i) = arrival.datagram.name.take sockaddrStorageSize

/-- The messages from `i` on are as they were received. -/
def HoldsAll (st : FakednsServer) : Nat → List FakednsArrival → Prop
  | _, [] => True
  | i, arrival :: arrivals => st.Holds i arrival ∧ st.HoldsAll (i + 1) arrivals

theorem Holds.congr (holds : st.Holds i arrival) (packet : st'.mem.packet i = st.mem.packet i)
    (msgLen : st'.msgLen i = st.msgLen i) (addrs : st'.addrs i = st.addrs i)
    (namelen : st'.namelen i = st.namelen i) : st'.Holds i arrival := by
  refine ⟨?_, ?_⟩
  · rw [FakednsMemory.bytes, packet, msgLen]
    exact holds.data
  · rw [addrs, namelen]
    exact holds.name

theorem HoldsAll.congr (holds : st.HoldsAll i arrivals)
    (packet : ∀ j, i ≤ j → st'.mem.packet j = st.mem.packet j) (msgLen : st'.msgLen = st.msgLen)
    (addrs : st'.addrs = st.addrs) (namelen : st'.namelen = st.namelen) : st'.HoldsAll i arrivals := by
  induction arrivals generalizing i with
  | nil => trivial
  | cons arrival arrivals ih =>
    refine ⟨holds.1.congr (packet i (Nat.le_refl i)) (congrFun msgLen i) (congrFun addrs i)
      (congrFun namelen i), ih holds.2 fun j later => packet j (by omega)⟩

section Receive

theorem receive_holds (st : FakednsServer) (iovLen : st.iovLen i = fakednsMaxUdpSize)
    (namelen : st.namelen i = sockaddrStorageSize) (arrival : FakednsArrival) :
    (st.receive i arrival.datagram).Holds i arrival := by
  refine ⟨?_, ?_⟩
  · simp only [FakednsMemory.bytes, receive, Function.update_self, iovLen]
    refine List.ext_getElem ?_ fun j inside _ => ?_
    · rw [List.length_map, List.length_range]
    · rw [List.length_map, List.length_range] at inside
      rw [List.getElem_map, List.getElem_range, List.getD_eq_getElem?_getD, List.getElem?_eq_getElem inside, Option.getD_some]
  · simp only [receive, Function.update_self, namelen]
    rw [List.take_take]
    by_cases fits : arrival.datagram.name.length ≤ sockaddrStorageSize
    · rw [Nat.min_eq_left fits, List.take_length, List.take_of_length_le fits]
    · rw [Nat.min_eq_right (by omega)]

/-- The batch is received from message `i` on, and the messages before it are
left alone. -/
theorem recvmmsg_holds (arrivals : List FakednsArrival) (i : Nat) (st : FakednsServer)
    (iovLen : ∀ j < i + arrivals.length, st.iovLen j = fakednsMaxUdpSize)
    (namelen : ∀ j, i ≤ j → j < i + arrivals.length → st.namelen j = sockaddrStorageSize) :
    (st.recvmmsg i arrivals).HoldsAll i arrivals ∧
      (∀ arrival, ∀ j < i, st.Holds j arrival → (st.recvmmsg i arrivals).Holds j arrival) ∧
      (st.recvmmsg i arrivals).mem.dns = st.mem.dns ∧ (st.recvmmsg i arrivals).mem.mru = st.mem.mru := by
  induction arrivals generalizing i st with
  | nil => exact ⟨trivial, fun _ _ _ holds => holds, rfl, rfl⟩
  | cons arrival arrivals ih =>
    rw [List.length_cons] at iovLen namelen
    have here := st.receive_holds (iovLen i (by omega)) (namelen i (Nat.le_refl i) (by omega)) arrival
    obtain ⟨all, kept, dns, mru⟩ := ih (i + 1) (st.receive i arrival.datagram)
      (fun j less => iovLen j (by omega)) fun j later less =>
        (Function.update_of_ne (by omega) ..).trans (namelen j (by omega) (by omega))
    refine ⟨⟨kept arrival i (Nat.lt_succ_self i) here, all⟩, fun other j less holds => ?_, dns, mru⟩
    have apart : j ≠ i := by omega
    exact kept other j (by omega) (holds.congr (Function.update_of_ne apart ..)
      (Function.update_of_ne apart ..) (Function.update_of_ne apart ..) (Function.update_of_ne apart ..))

end Receive

/-- A query is processed in its own packet. -/
theorem onMemory_yields (hash : List UInt8 → BitVec 64) (holds : st.Holds i arrival) :
    (onMemory (fakednsProcessPacket i (st.msgLen i) i fakednsMaxUdpSize hash arrival.now
        arrival.memory)).Yields st fun n st' =>
      FakednsAgrees (fakednsProcessQuery hash st.mem.dns st.mem.mru arrival.now arrival.memory
        (arrival.datagram.data.take fakednsMaxUdpSize) fakednsMaxUdpSize) i n st'.mem ∧
      (st'.iovLen = st.iovLen ∧ st'.addrs = st.addrs ∧ st'.namelen = st.namelen ∧ st'.msgLen = st.msgLen) ∧
      ∀ j, j ≠ i → st'.mem.packet j = st.mem.packet j := by
  obtain ⟨n, mem, ends, agrees⟩ := fakednsProcessPacket_yields hash arrival.now arrival.memory st.mem i
    (st.msgLen i) i fakednsMaxUdpSize
  rw [holds.data] at agrees
  refine ⟨n, { st with mem := mem }, ?_, agrees, ⟨rfl, rfl, rfl, rfl⟩, fun j apart => ?_⟩
  · rw [onMemory, ends]
  · exact fakednsProcessPacket_keeps apart n mem ends

end FakednsServer

theorem FakednsAgrees.length {result : Option (List UInt8) × Fakedns × FakednsMru} {mem : FakednsMemory}
    (agrees : FakednsAgrees result i n mem) : n = (result.1.getD []).length := by
  rw [← agrees.bytes, mem.bytes_length]

section Loop

/-- The loop answers as one query after the other. Each message keeps its packet
and its length to the end, since a later one is processed in its own. -/
theorem fakednsServerLoop_yields (hash : List UInt8 → BitVec 64) (sends : List FakednsSendMsg)
    (holds : st.HoldsAll i arrivals) :
    (fakednsServerLoop hash i arrivals sends).Yields st fun sends' st' => ∃ new, sends' = sends ++ new ∧
      new.map st'.datagram = (fakednsServe hash arrivals st.mem.dns st.mem.mru).1 ∧
      (st'.mem.dns, st'.mem.mru) = (fakednsServe hash arrivals st.mem.dns st.mem.mru).2 ∧
      (∀ j < i, st'.mem.packet j = st.mem.packet j ∧ st'.iovLen j = st.iovLen j) ∧
      st'.addrs = st.addrs := by
  induction arrivals generalizing i st sends with
  | nil => exact yields_pure ⟨[], (List.append_nil _).symm, rfl, rfl, fun _ _ => ⟨rfl, rfl⟩, rfl⟩
  | cons arrival arrivals ih =>
    obtain ⟨here, rest⟩ := holds
    rw [fakednsServerLoop]
    refine yields_get_bind ((FakednsServer.onMemory_yields hash here).bind fun n st₁ => ?_)
    rintro ⟨agrees, ⟨iovLen₁, addrs₁, namelen₁, msgLen₁⟩, others⟩
    have length := agrees.length
    have dns := agrees.dns
    have mru := agrees.mru
    have bytes := agrees.bytes
    generalize asked : fakednsProcessQuery hash st.mem.dns st.mem.mru arrival.now arrival.memory
      (arrival.datagram.data.take fakednsMaxUdpSize) fakednsMaxUdpSize = result at length dns mru bytes
    have served : fakednsServe hash (arrival :: arrivals) st.mem.dns st.mem.mru =
        (result.1.toList.map (⟨arrival.datagram.name.take sockaddrStorageSize, ·⟩) ++
          (fakednsServe hash arrivals st₁.mem.dns st₁.mem.mru).1,
          (fakednsServe hash arrivals st₁.mem.dns st₁.mem.mru).2) := by
      rw [fakednsServe]
      simp only [asked, dns, mru]
    have later : ∀ j, i + 1 ≤ j → st₁.mem.packet j = st.mem.packet j := fun j later => others j (by omega)
    have rest₁ := rest.congr later msgLen₁ addrs₁ namelen₁
    rw [served]
    cases answer : result.1 with
    | none =>
      rw [answer] at length
      have zero : ¬ n > 0 := by simp only [length, Option.getD_none, List.length_nil, gt_iff_lt,
        Nat.lt_irrefl, not_false_eq_true]
      rw [if_neg zero]
      refine (ih sends rest₁).mono fun sends' st' ⟨new, split, datagrams, pool, before, addrs⟩ => ?_
      refine ⟨new, split, datagrams, pool, fun j less => ?_, addrs.trans addrs₁⟩
      obtain ⟨packet, iovLen⟩ := before j (by omega)
      exact ⟨packet.trans (others j (by omega)), iovLen.trans (congrFun iovLen₁ j)⟩
    | some response =>
      rw [answer] at length bytes
      have some_ : n > 0 := by
        have answered : (fakednsProcessQuery hash st.mem.dns st.mem.mru arrival.now arrival.memory
            (arrival.datagram.data.take fakednsMaxUdpSize) fakednsMaxUdpSize).1 = some response := by
          rw [asked]
          exact answer
        rw [length]
        exact List.length_pos_of_ne_nil (fakednsProcessQuery_nonempty answered)
      rw [if_pos some_]
      refine yields_get_bind (yields_set_bind ?_)
      have rest₂ : ({ st₁ with iovLen := Function.update st₁.iovLen i n } : FakednsServer).HoldsAll (i + 1)
        arrivals := rest₁.congr (fun _ _ => rfl) rfl rfl rfl
      refine (ih (sends ++ [⟨i, st₁.namelen i, i⟩]) rest₂).mono
        fun sends' st' ⟨new, split, datagrams, pool, before, addrs⟩ => ?_
      refine ⟨⟨i, st₁.namelen i, i⟩ :: new, ?_, ?_, pool, fun j less => ?_, addrs.trans addrs₁⟩
      · rw [split, List.append_assoc]
        rfl
      · obtain ⟨packet, iovLen⟩ := before i (Nat.lt_succ_self i)
        have sent : st'.datagram ⟨i, st₁.namelen i, i⟩ =
            ⟨arrival.datagram.name.take sockaddrStorageSize, response⟩ := by
          rw [FakednsServer.datagram]
          simp only [addrs, iovLen, Function.update_self, FakednsMemory.bytes, packet]
          rw [addrs₁, namelen₁, here.name]
          exact congrArg _ bytes
        rw [List.map_cons, sent, datagrams]
        rfl
      · obtain ⟨packet, iovLen⟩ := before j (by omega)
        have apart : j ≠ i := by omega
        exact ⟨packet.trans (others j apart),
          (iovLen.trans (Function.update_of_ne apart ..)).trans (congrFun iovLen₁ j)⟩

end Loop

section Runs

theorem fakednsServe_append (first second : List FakednsArrival) (s : Fakedns) (m : FakednsMru) :
    fakednsServe hash (first ++ second) s m =
      let served := fakednsServe hash first s m
      let later := fakednsServe hash second served.2.1 served.2.2
      (served.1 ++ later.1, later.2) := by
  induction first generalizing s m with
  | nil => rfl
  | cons arrival first ih => simp only [List.cons_append, fakednsServe, ih, List.append_assoc]

theorem fakednsProcessQuery_replyTo {response : List UInt8}
    (answered : (fakednsProcessQuery hash s m arrival.now arrival.memory
      (arrival.datagram.data.take fakednsMaxUdpSize) fakednsMaxUdpSize).1 = some response) :
    FakednsReplyTo arrival ⟨arrival.datagram.name.take sockaddrStorageSize, response⟩ := by
  obtain ⟨labels, qtype, qclass, rest, rcode, answer, asks, _, message, fits⟩ :=
    fakednsProcessQuery_reply answered
  obtain ⟨i₁, i₀, t₁, t₀, c₁, c₀, id, _, _, _, form⟩ := asks.form
  refine ⟨rfl, ⟨labels, qtype, qclass, rest, asks⟩, ?_, fits⟩
  rw [fakednsReplyMessage_eq, form] at message
  have early : (arrival.datagram.data.take fakednsMaxUdpSize).take 2 = arrival.datagram.data.take 2 := by
    rw [List.take_take]
    rfl
  rw [← early, id, message]
  rfl

/-- Each answer is a reply to a query that was asked. -/
theorem fakednsServe_replies (member : d ∈ (fakednsServe hash arrivals s m).1) :
    ∃ arrival ∈ arrivals, FakednsReplyTo arrival d := by
  induction arrivals generalizing s m with
  | nil => cases member
  | cons arrival arrivals ih =>
    rw [fakednsServe] at member
    rcases List.mem_append.mp member with here | later
    · obtain ⟨response, answered, rfl⟩ := List.mem_map.mp here
      exact ⟨arrival, List.mem_cons_self, fakednsProcessQuery_replyTo (Option.mem_toList.mp answered)⟩
    · obtain ⟨other, among, reply⟩ := ih later
      exact ⟨other, List.mem_cons_of_mem _ among, reply⟩

/-- Every query in the grammar is answered. -/
theorem fakednsServe_answers (member : arrival ∈ arrivals) {labels : List (List UInt8)}
    {qtype qclass : UInt16} {rest : List UInt8}
    (asks : FakednsAsks (arrival.datagram.data.take fakednsMaxUdpSize) labels qtype qclass rest) :
    ∃ d ∈ (fakednsServe hash arrivals s m).1, FakednsReplyTo arrival d := by
  induction arrivals generalizing s m with
  | nil => cases member
  | cons other arrivals ih =>
    rw [fakednsServe]
    rcases List.mem_cons.mp member with rfl | later
    · obtain ⟨response, answered⟩ : ∃ response, (fakednsProcessQuery hash s m arrival.now arrival.memory
          (arrival.datagram.data.take fakednsMaxUdpSize) fakednsMaxUdpSize).1 = some response :=
        asks.answered (List.length_take_le ..)
      exact ⟨_, List.mem_append_left _ (List.mem_map_of_mem (Option.mem_toList.mpr answered)),
        fakednsProcessQuery_replyTo answered⟩
    · obtain ⟨d, among, reply⟩ := ih later
      exact ⟨d, List.mem_append_right _ among, reply⟩

/-- A callback sends the first answers of its batch, as many as the system takes. -/
theorem fakednsServerRecvCb_yields (hash : List UInt8 → BitVec 64) (cb : FakednsCallback)
    (st : FakednsServer) : (fakednsServerRecvCb hash cb).Yields st fun out st' =>
      let served := fakednsServe hash cb.arrivals st.mem.dns st.mem.mru
      out = served.1.take ((cb.sent served.1.length).getD 0) ∧ (st'.mem.dns, st'.mem.mru) = served.2 := by
  unfold fakednsServerRecvCb FakednsCallback.arrivals
  refine yields_get_bind (yields_set_bind ?_)
  cases cb.received with
  | none => exact yields_pure ⟨List.take_nil.symm, rfl⟩
  | some arrivals =>
    refine yields_get_bind (yields_set_bind ?_)
    rw [Option.getD_some]
    generalize batch : arrivals.take fakednsBatchSize = taken
    have size : taken.length ≤ fakednsBatchSize := batch ▸ List.length_take_le ..
    obtain ⟨holds, _, dns, mru⟩ := st.reset.recvmmsg_holds taken 0
      (fun j less => if_pos (by omega)) fun j _ less => if_pos (by omega)
    have looped := fakednsServerLoop_yields hash [] holds
    rw [dns, mru] at looped
    refine looped.bind fun sends st' ⟨new, split, datagrams, pool, _⟩ => ?_
    have mem : st.reset.mem = st.mem := rfl
    rw [mem] at datagrams pool
    rw [List.nil_append] at split
    subst split
    have count := congrArg List.length datagrams
    rw [List.length_map] at count
    refine yields_get_bind ?_
    split
    · exact yields_pure ⟨by rw [datagrams, count], pool⟩
    · rename_i none
      refine yields_pure ⟨?_, pool⟩
      have empty : (fakednsServe hash taken st.mem.dns st.mem.mru).1 = [] :=
        List.length_eq_zero_iff.mp (by rw [← count]; exact Nat.eq_zero_of_not_pos none)
      rw [empty, List.take_nil]

theorem fakednsServerRun_yields (hash : List UInt8 → BitVec 64) (cbs : List FakednsCallback)
    (st : FakednsServer) : (fakednsServerRun hash cbs).Yields st fun out st' =>
      let served := fakednsServe hash (cbs.flatMap FakednsCallback.arrivals) st.mem.dns st.mem.mru
      out.Sublist served.1 ∧ (st'.mem.dns, st'.mem.mru) = served.2 ∧
        ((∀ cb ∈ cbs, ∀ n, cb.sent n = some n) → out = served.1) := by
  induction cbs generalizing st with
  | nil => exact yields_pure ⟨List.Sublist.refl [], rfl, fun _ => rfl⟩
  | cons cb cbs ih =>
    refine (fakednsServerRecvCb_yields hash cb st).bind fun first st₁ ⟨sent, pool⟩ => ?_
    refine (ih st₁).bind fun rest st₂ ⟨sublist, pool₂, complete⟩ => yields_pure ?_
    obtain ⟨dns, mru⟩ := Prod.mk.inj pool
    rw [dns, mru] at sublist pool₂ complete
    simp only [List.flatMap_cons, fakednsServe_append]
    have early : first.Sublist (fakednsServe hash cb.arrivals st.mem.dns st.mem.mru).1 :=
      sent ▸ List.take_sublist ..
    refine ⟨early.append sublist, pool₂, fun all => ?_⟩
    rw [sent, all cb List.mem_cons_self, Option.getD_some, List.take_length,
      complete fun cb member => all cb (List.mem_cons_of_mem _ member)]

/-- The server answers a stream of queries as if it took one at a time: no answer
is changed by another query of its batch or by an earlier batch. What is sent
are the answers in their order, without those that the system did not take, each
to the sender of a query in the grammar. -/
theorem fakedns_server_answers (hash : List UInt8 → BitVec 64) (cbs : List FakednsCallback)
    (st : FakednsServer) : (fakednsServerRun hash cbs).Yields st fun out st' =>
      let arrivals := cbs.flatMap FakednsCallback.arrivals
      let served := fakednsServe hash arrivals st.mem.dns st.mem.mru
      out.Sublist served.1 ∧ (st'.mem.dns, st'.mem.mru) = served.2 ∧
        (∀ d ∈ out, ∃ arrival ∈ arrivals, FakednsReplyTo arrival d) ∧
        ((∀ cb ∈ cbs, ∀ n, cb.sent n = some n) → out = served.1 ∧
          ∀ arrival ∈ arrivals, (∃ labels qtype qclass rest,
            FakednsAsks (arrival.datagram.data.take fakednsMaxUdpSize) labels qtype qclass rest) →
            ∃ d ∈ out, FakednsReplyTo arrival d) := by
  refine (fakednsServerRun_yields hash cbs st).mono fun out st' ⟨sublist, pool, complete⟩ => ?_
  refine ⟨sublist, pool, fun d member => fakednsServe_replies (sublist.subset member), fun all => ?_⟩
  have whole := complete all
  refine ⟨whole, fun arrival member ⟨labels, qtype, qclass, rest, asks⟩ => ?_⟩
  rw [whole]
  exact fakednsServe_answers member asks

end Runs

end Tproxy
