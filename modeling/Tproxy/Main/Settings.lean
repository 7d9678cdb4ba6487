import Tproxy.Main.CommandLine
import Tproxy.Main.Shutdown

namespace Tproxy

/-- What the rest of the program relies on: the buffers and arrays are large enough
for the settings, and the limits are those that the proxies assume. -/
structure SettingsSound (ctxInit : Ss2022Method → List UInt8 → Bool) (c : MainOptions) : Prop where
  protocol : c.enableTcp = true ∨ c.enableUdp = true
  family : c.enableIpv4 = true ∨ c.enableIpv6 = true
  serverCount : 1 ≤ c.ssServers.serverCount ∧ c.ssServers.serverCount ≤ ssMaxServers
  servers : ∀ i < c.ssServers.serverCount, ∃ parts : ServerGroup, parts.WellFormed ctxInit ∧
    c.ssServers.servers i = parts.record
  bindIpstr4 : c.bindIpstr4.length < ip4StrLen ∧ getIpstrFamily c.bindIpstr4 = some .inet
  bindIpstr6 : c.bindIpstr6.length < ip6StrLen ∧ getIpstrFamily c.bindIpstr6 = some .inet6
  fakednsIpstr : c.fakednsIpstr.length < ip4StrLen ∧ getIpstrFamily c.fakednsIpstr = some .inet
  ports : (1 ≤ c.bindPortno ∧ c.bindPortno ≤ 65535) ∧ 1 ≤ c.fakednsPortno ∧ c.fakednsPortno ≤ 65535
  syncnt : c.tcpSyncntMax ≤ 255
  /-- The sizes of the tables are those of a configuration of the UDP proxy. -/
  maxsizes : (0 < c.udpMaxsizes.fullcone ∧ c.udpMaxsizes.fullcone ≤ 65535) ∧
    ∀ cfg : UdpConfig, cfg.cacheSize = c.udpMaxsizes.fullcone →
      cfg.maxsize .symmetric = c.udpMaxsizes.symmetric ∧ cfg.tproxyMaxsize = c.udpMaxsizes.tproxy
  idle : udpIdleTimeoutDefaultSec ≤ c.udpIdletimeoutSec ∧ c.udpIdletimeoutSec ≤ 65535
  udpThreads : 1 ≤ c.udpNthreads ∧ c.udpNthreads ≤ c.nthreads
  /-- No thread has a slot beyond `g_threads`, and the threads stop in bounded time. -/
  threads : ∀ steps w, MainWorld.Run (c.nthreads - 1) steps w →
    (∀ i, maxThreads ≤ i → w.workers i = .absent ∧ w.threads i = ⟨false, false, false⟩) ∧ steps ≤ 1033
  nofile : c.nofileLimit < 2 ^ 64
  cidr : c.fakednsCidr.length < 64 ∧ 0 ∉ c.fakednsCidr
  cachePath : c.fakednsCachePath.length < 256 ∧ 0 ∉ c.fakednsCachePath

section Slots
variable {n steps i ret : Nat} {w w' : MainWorld}

/-- Main writes to no slot beyond those that it counts. -/
theorem MainInv.mainStep_beyond (inv : MainInv n w) (taken : w.mainStep ret = some w') {j : Nat}
    (beyond : n ≤ j) : w'.workers j = w.workers j ∧ w'.threads j = w.threads j := by
  have within := inv.within
  have count := inv.count
  cases here : w.main <;> rw [here] at within <;>
    simp only [MainWorld.mainStep, here, MainWorld.takeLock, MainAt.within] at taken within
  case create i =>
    split at taken
    · have other : j ≠ i := by omega
      split at taken <;> cases taken <;> exact ⟨rfl, Function.update_of_ne other ..⟩
    · cases taken
      exact ⟨rfl, rfl⟩
  case markedRunning i | unmarked i | dropLoop i =>
    have other : j ≠ i := by omega
    cases taken
    exact ⟨rfl, Function.update_of_ne other ..⟩
  case spawn i =>
    have other : j ≠ i := by omega
    split at taken <;> cases taken
    · exact ⟨Function.update_of_ne other .., rfl⟩
    · exact ⟨rfl, rfl⟩
  case newLoop | markRunning i | unmark i | looping | requestLock request =>
    split at taken <;> cases taken <;> exact ⟨rfl, rfl⟩
  case setup | cleaning evloop code | exiting how code =>
    cases taken
    exact ⟨rfl, rfl⟩
  case requesting request i =>
    split at taken
    · have other : j ≠ i := by omega
      cases taken
      obtain ⟨_, _, workers, _⟩ := requestExit_frame w i
      refine ⟨congrFun workers j, ?_⟩
      simp only [MainWorld.requestExit]
      split
      · exact Function.update_of_ne other ..
      · rfl
    · cases taken
      exact ⟨rfl, rfl⟩
  case join how i code =>
    split at taken
    · have other : j ≠ i := by omega
      split at taken <;> cases taken <;> exact ⟨rfl, Function.update_of_ne other ..⟩
    · cases taken
      exact ⟨rfl, rfl⟩
  case returned how code => cases taken

theorem MainInv.workerStep_beyond (inv : MainInv n w) (taken : w.workerStep i ret = some w') {j : Nat}
    (beyond : n ≤ j) : w'.workers j = w.workers j ∧ w'.threads j = w.threads j := by
  have present : w.workers i ≠ .absent := fun absent => by
    rw [MainWorld.workerStep, absent] at taken
    cases taken
  have other : j ≠ i := by
    have := inv.bound present
    have := inv.count
    omega
  cases here : w.workers i <;> simp only [MainWorld.workerStep, here] at taken
  case absent => exact absurd here present
  case setup | cleaning code | killing code =>
    cases taken
    exact ⟨Function.update_of_ne other .., rfl⟩
  case looping =>
    split at taken <;> cases taken
    exact ⟨Function.update_of_ne other .., Function.update_of_ne other ..⟩
  case markStopped code =>
    split at taken <;> cases taken
    exact ⟨Function.update_of_ne other .., rfl⟩
  case markedStopped code =>
    cases taken
    exact ⟨Function.update_of_ne other .., Function.update_of_ne other ..⟩
  case finished code => cases taken

/-- In every run the slots from `n` on are as at the start. -/
theorem MainWorld.Run.beyond (run : MainWorld.Run n steps w) {j : Nat} (beyond : n ≤ j) :
    w.workers j = .absent ∧ w.threads j = ⟨false, false, false⟩ := by
  induction run with
  | start => exact ⟨rfl, rfl⟩
  | signal _ ih => exact ih
  | move run move ih =>
    cases move with
    | main ret taken =>
      obtain ⟨worker, thread⟩ := run.inv.mainStep_beyond taken beyond
      exact ⟨worker.trans ih.1, thread.trans ih.2⟩
    | worker i ret taken =>
      obtain ⟨worker, thread⟩ := run.inv.workerStep_beyond taken beyond
      exact ⟨worker.trans ih.1, thread.trans ih.2⟩

theorem MainWorld.Run.bounds (run : MainWorld.Run n steps w) (most : n ≤ maxThreads) :
    (∀ i, maxThreads ≤ i → w.workers i = .absent ∧ w.threads i = ⟨false, false, false⟩) ∧
      steps ≤ 1033 := by
  refine ⟨fun i beyond => run.beyond (Nat.le_trans most beyond), ?_⟩
  have bound := run.rank_le
  unfold maxThreads at most
  omega

end Slots

section Bounds
variable {ctxInit : Ss2022Method → List UInt8 → Bool} {results : List GetoptResult} {c : MainOptions}

/-- A numeric option is in its range, whether it was given or not. -/
theorem uint_bounds (lower upper : Nat) {value : GetoptResult → Option Nat} {default : Nat}
    (base : lower ≤ default ∧ default ≤ upper)
    (values : ∀ r b, value r = some b → lower ≤ b ∧ b ≤ upper) :
    lower ≤ lastOf value results default ∧ lastOf value results default ≤ upper :=
  lastOf_of (fun b => lower ≤ b ∧ b ≤ upper) base fun r _ b gives => values r b gives

/-- An address fits its buffer and is of its family. -/
theorem ip_bounds {value : GetoptResult → Option (List UInt8)} {maxLen : Nat} {family : AddrFamily}
    {default : List UInt8} (base : default.length < maxLen ∧ getIpstrFamily default = some family)
    (values : ∀ r, r.Valid ctxInit → ∀ b, value r = some b →
      b.length < maxLen ∧ getIpstrFamily b = some family)
    (valid : ∀ r ∈ results, r.Valid ctxInit) :
    (lastOf value results default).length < maxLen ∧
      getIpstrFamily (lastOf value results default) = some family :=
  lastOf_of (fun b : List UInt8 => b.length < maxLen ∧ getIpstrFamily b = some family) base
    fun r member b gives => values r (valid r member) b gives

/-- A copied text fits its buffer, with its terminator. -/
theorem copied_bounds {value : GetoptResult → Option (List UInt8)} {size : Nat} {default : List UInt8}
    (base : default.length < size ∧ 0 ∉ default)
    (values : ∀ r b, value r = some b → ∃ optarg, b = strncopy optarg (size - 1)) :
    (lastOf value results default).length < size ∧ 0 ∉ lastOf value results default := by
  refine lastOf_of (fun b : List UInt8 => b.length < size ∧ 0 ∉ b) base fun r _ b gives => ?_
  obtain ⟨optarg, rfl⟩ := values r b gives
  have short : (strncopy optarg (size - 1)).length ≤ size - 1 := List.length_take_le ..
  refine ⟨by omega, fun member => ?_⟩
  have inText : 0 ∈ cStr optarg := List.mem_of_mem_take member
  exact absurd inText (cStr_free optarg)

/-- The sizes that the option sets are those of a configuration. -/
theorem maxsizes_bounds (results : List GetoptResult) : ∃ size, (0 < size ∧ size ≤ 65535) ∧
    lastOf GetoptResult.udpMaxsizes? results (udpLrucacheSetMaxsize 256) = udpLrucacheSetMaxsize size := by
  refine lastOf_of (fun b => ∃ size, (0 < size ∧ size ≤ 65535) ∧ b = udpLrucacheSetMaxsize size)
    ⟨256, by decide, rfl⟩ fun r _ b gives => ?_
  cases r <;> try cases gives
  obtain ⟨size, read, rfl⟩ := Option.map_eq_some_iff.mp gives
  exact ⟨size, uintArg_range read, rfl⟩

/-- Each server was given by an option. -/
theorem servers_bounds (read : CommandLineRead ctxInit results c) {i : Nat}
    (less : i < c.ssServers.serverCount) :
    ∃ parts : ServerGroup, parts.WellFormed ctxInit ∧ c.ssServers.servers i = parts.record := by
  have all : (results.filterMap GetoptResult.server?).length = c.ssServers.serverCount := by
    rw [read.serverCount, List.length_filterMap_eq_countP]
    refine List.countP_congr fun r _ => ?_
    cases r <;> exact Iff.rfl
  obtain ⟨parts, formed, _, record⟩ := read.servers i _ (List.getElem?_eq_getElem (by omega))
  exact ⟨parts, formed, record⟩

theorem uint_values {value : GetoptResult → Option Nat} {max : Nat}
    (reads : ∀ r, value r = none ∨ ∃ optarg, value r = uintArg max optarg) (r : GetoptResult) (b : Nat)
    (gives : value r = some b) : 1 ≤ b ∧ b ≤ max := by
  rcases reads r with none | ⟨optarg, read⟩
  · rw [none] at gives
    cases gives
  · exact uintArg_range (read.symm.trans gives)

theorem CommandLineRead.sound (read : CommandLineRead ctxInit results c)
    (line : CommandLineValid ctxInit results) : SettingsSound ctxInit c := by
  have valid := line.options
  have nthreads : 1 ≤ c.nthreads ∧ c.nthreads ≤ maxThreads + 1 := by
    rw [read.nthreads]
    refine uint_bounds 1 (maxThreads + 1) (by decide) (uint_values fun r => ?_)
    cases r <;> first | exact Or.inl rfl | exact Or.inr ⟨_, rfl⟩
  have udpNthreads : 1 ≤ lastOf GetoptResult.udpNthreads? results 1 ∧
      lastOf GetoptResult.udpNthreads? results 1 ≤ maxThreads + 1 := by
    refine uint_bounds 1 (maxThreads + 1) (by decide) (uint_values fun r => ?_)
    cases r <;> first | exact Or.inl rfl | exact Or.inr ⟨_, rfl⟩
  refine
    { protocol := ?_
      family := ?_
      serverCount := by
        rw [read.serverCount]
        exact ⟨line.some_server, line.room⟩
      servers := fun i less => servers_bounds read less
      bindIpstr4 := ?_
      bindIpstr6 := ?_
      fakednsIpstr := ?_
      ports := ⟨?_, ?_⟩
      syncnt := ?_
      maxsizes := ?_
      idle := ?_
      udpThreads := ?_
      threads := fun steps w run => run.bounds (by omega)
      nofile := ?_
      cidr := ?_
      cachePath := ?_ }
  · rw [read.enableTcp, read.enableUdp, decide_eq_true_eq, decide_eq_true_eq]
    have := line.protocol
    tauto
  · rw [read.enableIpv4, read.enableIpv6, decide_eq_true_eq, decide_eq_true_eq]
    have := line.family
    tauto
  · rw [read.bindIpstr4]
    refine ip_bounds (by decide) (fun r valid b gives => ?_) valid
    cases r <;> cases gives
    exact valid
  · rw [read.bindIpstr6]
    refine ip_bounds (by decide) (fun r valid b gives => ?_) valid
    cases r <;> cases gives
    exact valid
  · rw [read.fakednsIpstr]
    refine ip_bounds (by decide) (fun r valid b gives => ?_) valid
    cases r <;> cases gives
    exact valid
  · rw [read.bindPortno]
    refine uint_bounds 1 65535 (by decide) (uint_values fun r => ?_)
    cases r <;> first | exact Or.inl rfl | exact Or.inr ⟨_, rfl⟩
  · rw [read.fakednsPortno]
    refine uint_bounds 1 65535 (by decide) (uint_values fun r => ?_)
    cases r <;> first | exact Or.inl rfl | exact Or.inr ⟨_, rfl⟩
  · rw [read.tcpSyncntMax]
    refine (uint_bounds 0 255 (by decide) fun r b gives => ⟨Nat.zero_le b, ?_⟩).2
    refine (uint_values (fun r => ?_) r b gives).2
    cases r <;> first | exact Or.inl rfl | exact Or.inr ⟨_, rfl⟩
  · rw [read.udpMaxsizes]
    obtain ⟨size, bounds, sizes⟩ := maxsizes_bounds results
    rw [sizes]
    refine ⟨bounds, fun cfg same => ?_⟩
    have cacheSize : cfg.cacheSize = size := same
    subst cacheSize
    exact ⟨rfl, rfl⟩
  · rw [read.udpIdletimeoutSec]
    refine uint_bounds _ _ (by decide) fun r b gives => ?_
    cases r <;> try cases gives
    obtain ⟨v, number, rfl⟩ := Option.map_eq_some_iff.mp gives
    have range := uintArg_range number
    unfold udpIdleTimeoutDefaultSec
    omega
  · have read' := read.nthreads
    rw [read.udpNthreads]
    omega
  · rw [read.nofileLimit]
    refine Nat.lt_of_le_pred (by decide) (uint_bounds 0 (2 ^ 64 - 1) (by decide) fun r b gives => ?_).2
    refine ⟨Nat.zero_le b, (uint_values (fun r => ?_) r b gives).2⟩
    cases r <;> first | exact Or.inl rfl | exact Or.inr ⟨_, rfl⟩
  · rw [read.fakednsCidr]
    refine copied_bounds (by decide) fun r b gives => ?_
    cases r <;> cases gives
    exact ⟨_, rfl⟩
  · rw [read.fakednsCachePath]
    refine copied_bounds (by decide) fun r b gives => ?_
    cases r <;> cases gives
    exact ⟨_, rfl⟩

/-- Every accepted command line gives sound settings. -/
theorem command_line_settings {servers : Nat → SsServer}
    (run : parseCommandArgs ctxInit (.initial servers) results = .ok c) : SettingsSound ctxInit c := by
  obtain ⟨⟨valid, room⟩, checked⟩ := parseCommandArgs_ok.mp run
  have line := (command_line_checks servers valid room).mpr ⟨c, checked⟩
  obtain ⟨_, _, _, rfl⟩ := checkOptions_eq.mp checked
  exact (command_line_read servers valid room).sound line

end Bounds

def exampleKey : List UInt8 := strBytes "MDEyMzQ1Njc4OWFiY2RlZg=="

def exampleCtxInit (_ : Ss2022Method) (psk : List UInt8) : Bool := psk = exampleKey

def exampleOptions : MainOptions := .initial fun _ => ⟨[], 0, ⟨.inet, [], []⟩, .aes128Gcm, [], 0⟩

/-- More UDP threads than threads, and a port that is given twice. -/
def exampleLine : List GetoptResult :=
  [.serverGroup (strBytes "192.0.2.1:8388:2022-blake3-aes-128-gcm:" ++ exampleKey), .threadNums (strBytes "4"),
    .udpThreadNums (strBytes "8"), .listenPort (strBytes "70"), .listenPort (strBytes "80"),
    .udpTimeout (strBytes "5")]

/-- The UDP threads are cut to the threads, and the idle time is raised. -/
theorem command_line_settings_clamped : ∃ c,
    parseCommandArgs exampleCtxInit exampleOptions exampleLine = .ok c ∧
      c.nthreads = 4 ∧ c.udpNthreads = 4 ∧ c.bindPortno = 80 ∧ c.udpIdletimeoutSec = 60 ∧
        SettingsSound exampleCtxInit c := by
  have parsed : (parseCommandArgs exampleCtxInit exampleOptions exampleLine).toOption.map
        (fun c => (c.nthreads, c.udpNthreads, c.bindPortno, c.udpIdletimeoutSec)) =
      some (4, 4, 80, 60) := by decide +kernel
  cases run : parseCommandArgs exampleCtxInit exampleOptions exampleLine with
  | error e =>
    rw [run] at parsed
    cases parsed
  | ok c =>
    rw [run] at parsed
    obtain ⟨nthreads, udpNthreads, bindPortno, idle⟩ : c.nthreads = 4 ∧ c.udpNthreads = 4 ∧
        c.bindPortno = 80 ∧ c.udpIdletimeoutSec = 60 := by
      simpa only [Except.toOption, Option.map_some, Option.some.injEq, Prod.mk.injEq] using parsed
    exact ⟨c, rfl, nthreads, udpNthreads, bindPortno, idle, command_line_settings run⟩

end Tproxy
