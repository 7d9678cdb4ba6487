import Tproxy.Udp.Run

namespace Tproxy

/-- The states of a UDP worker between two callbacks. -/
def UdpReach (cfg : UdpConfig) (w : UdpWorld) : Prop :=
  ∃ (answer : (pool : UdpPool) → UdpPoolAnswer cfg pool) (w₀ : UdpWorld) (events : List (UdpEvent cfg)),
    udpWorldCreate cfg answer = some w₀ ∧ w = udpRun cfg w₀ events

/-- The node at `n` refers to the session at `a`. -/
def UdpWorld.Refers (w : UdpWorld) (nat : UdpNat) (n a : Nat) : Prop :=
  ∃ x, (w.nodes nat).record n = some x ∧ x.session = a

/-- The consistency of the two session tables with the sessions: a session is
referenced by exactly one node, the node of its table that it points to, and
the nodes are indexed under the key of their session. -/
structure UdpNatTable (w : UdpWorld) : Prop where
  referenced : ∀ a s, w.sessions.record a = some s → ∃ n ∈ (w.nodes s.nat).table,
    w.Refers s.nat n a ∧ ∀ nat m, w.Refers nat m a → nat = s.nat ∧ m = n
  node : ∀ nat n x, (w.nodes nat).record n = some x → ∃ s, w.sessions.record x.session = some s ∧
    s.nat = nat ∧ s.node nat = some n ∧ x.key = s.key nat
  other : ∀ a s nat, w.sessions.record a = some s → nat ≠ s.nat → s.node nat = none
  indexed : ∀ nat n, n ∈ (w.nodes nat).table ↔ ((w.nodes nat).record n).isSome
  distinct : ∀ nat, (w.nodes nat).table.Nodup
  keys : ∀ nat n m x y, (w.nodes nat).record n = some x → (w.nodes nat).record m = some y →
    x.key = y.key → n = m

variable {cfg : UdpConfig} {w : UdpWorld}

theorem UdpReach.inv (reach : UdpReach cfg w) : UdpInv cfg w .idle := by
  obtain ⟨answer, w₀, events, created, rfl⟩ := reach
  exact (udpWorldCreate_inv created).run events

theorem NatLinks.natTable (links : NatLinks w.sessions.record w.nodes) : UdpNatTable w where
  referenced a s atA := by
    obtain ⟨n, x, _, atN, back⟩ := links.session a s atA
    refine ⟨n, (links.live s.nat n).mp (by rw [atN]; rfl), ⟨x, atN, back⟩, ?_⟩
    rintro nat m ⟨y, atM, back'⟩
    exact links.node_unique atM atN (back'.trans back.symm)
  node := links.node
  other := links.other
  indexed nat n := (links.live nat n).symm
  distinct := links.nodup
  keys := links.keys

/-- The tables stay consistent in every run, whatever fails on the way. -/
theorem udpNat_consistent (reach : UdpReach cfg w) : UdpNatTable w :=
  NatLinks.natTable reach.inv.links

def udpPlainAddress : Ss2022Addr → List UInt8
  | .ipv4 _ addr => addr
  | .ipv6 _ addr => addr
  | .domain _ name => name

/-- A library that sends the first byte of the target before the payload. -/
def udpPlain : Ss2022Udp where
  Addr := List UInt8
  Session := Unit
  address := udpPlainAddress
  sealDatagram _ addr payload := ((), some (addr.take 1 ++ payload))
  openDatagram _ packet := ((), some packet)

/-- A worker with room for one full-cone and two symmetric sessions. -/
def udpTinyConfig : UdpConfig where
  cacheSize := 1
  cacheSize_pos := by decide
  cacheSize_le := by decide
  fakednsEnabled := true
  idletimeoutSec := 60
  ss2022 := udpPlain
  domainNameSize := 255
  sessionSize := 200
  nodeSize := fun _ => 112
  tproxySize := 88
  sessionSize_fits := by decide
  nodeSize_fits := fun _ => by decide
  tproxySize_fits := by decide

def udpTinyPools (pool : UdpPool) : UdpPoolAnswer udpTinyConfig pool where
  calloc := true
  mem := fun _ => ⟨0, 0⟩
  slabRaw := some 4096
  places := by
    rintro a ⟨⟩
    refine ⟨by decide, ?_, by simp [mempoolEmpty]⟩
    rcases pool with _ | ⟨_ | _⟩ | _ <;> decide

/-- The smallest descriptor above all open ones. -/
def udpTinySocket (fds : List Nat) : FreshFd fds :=
  if fresh : fds.foldl max 2 + 1 ∉ fds then some ⟨fds.foldl max 2 + 1, fresh⟩ else none

def udpTinySelector : SsSelector where
  serverCount := 1
  bestIdx := 0
  health := fun _ => .ok
  failureEpoch := fun _ => 0
  score := fun _ => 0
  window := fun _ _ => ⟨0, false, 0⟩
  windowHead := fun _ => 0
  windowCount := fun _ => 0
  probesRemaining := 0

/-- A packet from the client at `port`, on a system without spare memory. -/
def udpTinyPacket (port : Nat) (domain : Option (List UInt8)) :
    UdpIngressMsg × UdpIngressAnswer udpTinyConfig :=
  (⟨true, some ⟨port, [10, 0, 0, 1]⟩, some ⟨53, [10, 0, 0, 2]⟩, (domain, false), [7]⟩,
    { selector := udpTinySelector
      bestUdp := 0
      socket := udpTinySocket
      connected := true
      sessionMemalign := fun _ => ⟨none, fun _ refused => by cases refused⟩
      nodeMemalign := fun _ => ⟨none, fun _ refused => by cases refused⟩
      ctxReady := true
      sessionInit := true
      ssSession := () })

/-- The block of the first session, which is handed out again once it is free. -/
def udpTinySession : Nat := 4544

def udpTinyStart : UdpWorld := (udpWorldCreate udpTinyConfig udpTinyPools).get (by decide +kernel)

theorem udpTinyStart_reach (events : List (UdpEvent udpTinyConfig)) :
    UdpReach udpTinyConfig (udpRun udpTinyConfig udpTinyStart events) :=
  ⟨udpTinyPools, udpTinyStart, events, (Option.some_get _).symm, rfl⟩

/-- The second client evicts the first, and the third packet gets a symmetric
session. -/
theorem udpNat_consistent_eviction : ∃ w, UdpReach udpTinyConfig w ∧
    (w.nodes .fullcone).table.length = 1 ∧ (w.nodes .symmetric).table.length = 1 ∧ UdpNatTable w :=
  ⟨_, udpTinyStart_reach
    [.recvmsg [udpTinyPacket 1 none, udpTinyPacket 2 none, udpTinyPacket 2 (some [120])] 5],
    by decide +kernel, by decide +kernel, udpNat_consistent (udpTinyStart_reach _)⟩

end Tproxy
