import Tproxy.Main.OptionsLaw

namespace Tproxy

section Spec
variable (ctxInit : Ss2022Method → List UInt8 → Bool)

/-- The command lines that are taken: every option is valid, there are 1 to 8 servers,
and neither both protocols nor both families are switched off. -/
structure CommandLineValid (results : List GetoptResult) : Prop where
  options : ∀ r ∈ results, r.Valid ctxInit
  some_server : 1 ≤ results.countP GetoptResult.isServer
  room : results.countP GetoptResult.isServer ≤ ssMaxServers
  protocol : ¬ (.tcpOnly ∈ results ∧ .udpOnly ∈ results)
  family : ¬ (.ipv4Only ∈ results ∧ .ipv6Only ∈ results)

/-- What a command line says: of each option the last one counts, servers are
collected in their order, and there are no more UDP threads than threads. -/
structure CommandLineRead (results : List GetoptResult) (c : MainOptions) : Prop where
  enableTcp : c.enableTcp = decide (.udpOnly ∉ results)
  enableUdp : c.enableUdp = decide (.tcpOnly ∉ results)
  enableIpv4 : c.enableIpv4 = decide (.ipv6Only ∉ results)
  enableIpv6 : c.enableIpv6 = decide (.ipv4Only ∉ results)
  enableTfoAccept : c.enableTfoAccept = decide (.tfoAccept ∈ results)
  enableTfoConnect : c.enableTfoConnect = decide (.tfoConnect ∈ results)
  enableFakedns : c.enableFakedns = decide (.enableFakedns ∈ results)
  verbose : c.verbose = decide (.verbose ∈ results)
  serverCount : c.ssServers.serverCount = results.countP GetoptResult.isServer
  servers : ∀ i text, (results.filterMap GetoptResult.server?)[i]? = some text →
    ∃ parts : ServerGroup, parts.WellFormed ctxInit ∧ text = parts.text ∧
      c.ssServers.servers i = parts.record
  bindIpstr4 : c.bindIpstr4 = lastOf GetoptResult.bindIpstr4? results (strBytes "127.0.0.1")
  bindIpstr6 : c.bindIpstr6 = lastOf GetoptResult.bindIpstr6? results (strBytes "::1")
  bindPortno : c.bindPortno = lastOf GetoptResult.bindPortno? results 54321
  tcpSyncntMax : c.tcpSyncntMax = lastOf GetoptResult.tcpSyncntMax? results 0
  udpMaxsizes : c.udpMaxsizes = lastOf GetoptResult.udpMaxsizes? results (udpLrucacheSetMaxsize 256)
  udpIdletimeoutSec : c.udpIdletimeoutSec = lastOf GetoptResult.udpIdletimeoutSec? results 60
  nthreads : c.nthreads = lastOf GetoptResult.nthreads? results 1
  udpNthreads : c.udpNthreads =
    min (lastOf GetoptResult.udpNthreads? results 1) (lastOf GetoptResult.nthreads? results 1)
  nofileLimit : c.nofileLimit = lastOf GetoptResult.nofileLimit? results 0
  fakednsIpstr : c.fakednsIpstr = lastOf GetoptResult.fakednsIpstr? results (strBytes "127.0.0.1")
  fakednsPortno : c.fakednsPortno = lastOf GetoptResult.fakednsPortno? results 5353
  fakednsCidr : c.fakednsCidr = lastOf GetoptResult.fakednsCidr? results (strBytes "198.18.0.0/15")
  fakednsCachePath : c.fakednsCachePath = lastOf GetoptResult.fakednsCachePath? results []

end Spec

variable {ctxInit : Ss2022Method → List UInt8 → Bool} {g c : MainOptions} {r : GetoptResult}
  {results : List GetoptResult}

section Servers

/-- A server goes to the end of the list; other options leave the list. -/
theorem MainOptions.set_servers (valid : r.Valid ctxInit)
    (room : r.isServer = true → g.ssServers.serverCount < ssMaxServers) :
    (r.isServer = false ∧ r.server? = none ∧ (g.set ctxInit r).ssServers = g.ssServers) ∨
    ∃ parts : ServerGroup, parts.WellFormed ctxInit ∧ r.isServer = true ∧ r.server? = some parts.text ∧
      (g.set ctxInit r).ssServers =
        { servers := Function.update g.ssServers.servers g.ssServers.serverCount parts.record
          serverCount := g.ssServers.serverCount + 1 } := by
  cases r
  case serverGroup optarg =>
    obtain ⟨parts, formed, text⟩ := valid
    refine Or.inr ⟨parts, formed, rfl, congrArg some text, ?_⟩
    have full : ¬ g.ssServers.serverCount ≥ ssMaxServers := Nat.not_le.mpr (room rfl)
    have stored : (g.set ctxInit (.serverGroup optarg)).ssServers =
        (parseServerGroupArg ctxInit g.ssServers optarg).2 := rfl
    rw [stored, parseServerGroupArg, if_neg full, parseServerGroup_eq.mpr ⟨parts, formed, text, rfl⟩]
  all_goals exact Or.inl ⟨rfl, rfl, rfl⟩

theorem fold_servers (valid : ∀ r ∈ results, r.Valid ctxInit)
    (room : g.ssServers.serverCount + results.countP GetoptResult.isServer ≤ ssMaxServers) :
    (results.foldl (MainOptions.set ctxInit) g).ssServers.serverCount =
        g.ssServers.serverCount + results.countP GetoptResult.isServer ∧
      (∀ j < g.ssServers.serverCount,
        (results.foldl (MainOptions.set ctxInit) g).ssServers.servers j = g.ssServers.servers j) ∧
      ∀ i text, (results.filterMap GetoptResult.server?)[i]? = some text →
        ∃ parts : ServerGroup, parts.WellFormed ctxInit ∧ text = parts.text ∧
          (results.foldl (MainOptions.set ctxInit) g).ssServers.servers (g.ssServers.serverCount + i) =
            parts.record := by
  induction results generalizing g with
  | nil => exact ⟨rfl, fun _ _ => rfl, fun _ _ none => by cases none⟩
  | cons r results ih =>
    have validHere := valid r List.mem_cons_self
    have validRest : ∀ r ∈ results, r.Valid ctxInit := fun r member => valid r (List.mem_cons_of_mem _ member)
    rw [List.countP_cons] at room ⊢
    rw [List.foldl_cons]
    rcases MainOptions.set_servers (g := g) validHere (fun server => by
      rw [if_pos server] at room
      omega) with ⟨plain, none, same⟩ | ⟨parts, formed, server, text, stored⟩
    · rw [if_neg (by simp [plain])] at room ⊢
      rw [List.filterMap_cons_none none]
      have rest := ih (g := g.set ctxInit r) validRest (by rw [same]; exact room)
      rwa [same] at rest
    · rw [if_pos server] at room ⊢
      rw [List.filterMap_cons_some text]
      obtain ⟨count, kept, found⟩ := ih (g := g.set ctxInit r) validRest (by rw [stored]; simp only; omega)
      rw [stored] at count kept found
      simp only at count kept found
      refine ⟨by omega, fun j less => ?_, fun i text' atI => ?_⟩
      · rw [kept j (by omega), Function.update_of_ne (by omega)]
      · cases i with
        | zero =>
          cases atI
          refine ⟨parts, formed, rfl, ?_⟩
          rw [Nat.add_zero, kept _ (Nat.lt_succ_self _), Function.update_self]
        | succ i =>
          obtain ⟨parts', formed', same, record⟩ := found i text' atI
          refine ⟨parts', formed', same, ?_⟩
          rw [← record]
          congr 1
          omega

end Servers

section Fold

/-- The loop goes through exactly if every option is valid and the servers fit. -/
theorem parse_fold (room : g.ssServers.serverCount ≤ ssMaxServers) :
    results.foldlM (parseOption ctxInit) g = .ok c ↔ (∀ r ∈ results, r.Valid ctxInit) ∧
      g.ssServers.serverCount + results.countP GetoptResult.isServer ≤ ssMaxServers ∧
      c = results.foldl (MainOptions.set ctxInit) g := by
  induction results generalizing g with
  | nil =>
    constructor
    · intro run
      cases run
      exact ⟨nofun, room, rfl⟩
    · rintro ⟨_, _, rfl⟩
      rfl
  | cons r results ih =>
    rw [List.foldlM_cons, List.countP_cons, List.foldl_cons]
    cases optionTaken ctxInit g r with
    | taken valid fits run =>
      have count : (g.set ctxInit r).ssServers.serverCount =
          g.ssServers.serverCount + if r.isServer = true then 1 else 0 := by
        rcases MainOptions.set_servers valid fits with ⟨plain, _, same⟩ | ⟨_, _, server, _, stored⟩
        · rw [same, if_neg (by simp [plain]), Nat.add_zero]
        · rw [stored, if_pos server]
      have room' : (g.set ctxInit r).ssServers.serverCount ≤ ssMaxServers := by
        rw [count]
        split
        · exact fits ‹_›
        · exact room
      rw [run]
      refine (ih room').trans ?_
      rw [count]
      constructor
      · rintro ⟨rest, fits', rfl⟩
        refine ⟨fun r' member => ?_, by omega, rfl⟩
        rcases List.mem_cons.mp member with rfl | later
        · exact valid
        · exact rest r' later
      · rintro ⟨all, fits', rfl⟩
        exact ⟨fun r' member => all r' (List.mem_cons_of_mem _ member), by omega, rfl⟩
    | refused e bad run code =>
      rw [run]
      refine ⟨nofun, fun ⟨all, fits, _⟩ => absurd ⟨all r List.mem_cons_self, fun server => ?_⟩ bad⟩
      rw [if_pos server] at fits
      omega

end Fold

section Read

theorem fold_last {β : Type} (component : MainOptions → β) {value : GetoptResult → Option β}
    (sets : ∀ g r, component (g.set ctxInit r) = (value r).getD (component g)) :
    component (results.foldl (MainOptions.set ctxInit) g) = lastOf value results (component g) :=
  foldl_lastOf sets results g

/-- A flag that one option sets. -/
theorem fold_flag (flag : MainOptions → Bool) {option : GetoptResult}
    (sets : ∀ g r, flag (g.set ctxInit r) = (decide (r = option) || flag g)) (off : flag g = false) :
    flag (results.foldl (MainOptions.set ctxInit) g) = decide (option ∈ results) := by
  rw [foldl_flag sets, off, Bool.or_false, Bool.eq_iff_iff, List.any_eq_true, decide_eq_true_eq]
  simp

/-- A bit of `g_options` that one option resets. -/
theorem fold_reset (flag : MainOptions → Bool) {option : GetoptResult}
    (sets : ∀ g r, flag (g.set ctxInit r) = (!decide (r = option) && flag g)) (on : flag g = true) :
    flag (results.foldl (MainOptions.set ctxInit) g) = decide (option ∉ results) := by
  have negated : (!flag (results.foldl (MainOptions.set ctxInit) g)) = decide (option ∈ results) :=
    fold_flag (fun g => !flag g) (fun g r => by simp [sets]) (by simp [on])
  rw [decide_not, ← negated, Bool.not_not]

theorem checkOptions_eq : checkOptions g = .ok c ↔ (g.enableTcp = true ∨ g.enableUdp = true) ∧
    (g.enableIpv4 = true ∨ g.enableIpv6 = true) ∧ g.ssServers.serverCount ≠ 0 ∧
      c = { g with udpNthreads := min g.udpNthreads g.nthreads } := by
  have clamped : (if g.udpNthreads > g.nthreads then { g with udpNthreads := g.nthreads } else g) =
      { g with udpNthreads := min g.udpNthreads g.nthreads } := by
    split
    · rw [Nat.min_eq_right (by omega)]
    · rw [Nat.min_eq_left (by omega)]
  unfold checkOptions
  rw [clamped]
  cases g.enableTcp <;> cases g.enableUdp <;> cases g.enableIpv4 <;> cases g.enableIpv6 <;>
    by_cases none : g.ssServers.serverCount = 0 <;>
    simp [none, printHelpAndExit, eq_comm]

/-- What the loop and the last checks leave. -/
theorem command_line_read (servers : Nat → SsServer) (valid : ∀ r ∈ results, r.Valid ctxInit)
    (room : results.countP GetoptResult.isServer ≤ ssMaxServers) :
    let g := results.foldl (MainOptions.set ctxInit) (MainOptions.initial servers)
    CommandLineRead ctxInit results { g with udpNthreads := min g.udpNthreads g.nthreads } := by
  have start : (MainOptions.initial servers).ssServers.serverCount = 0 := rfl
  obtain ⟨count, _, found⟩ := fold_servers (g := MainOptions.initial servers) valid (by rw [start]; omega)
  rw [start, Nat.zero_add] at count
  simp only [start, Nat.zero_add] at found
  exact
    { enableTcp := fold_reset MainOptions.enableTcp (fun _ _ => rfl) rfl
      enableUdp := fold_reset MainOptions.enableUdp (fun _ _ => rfl) rfl
      enableIpv4 := fold_reset MainOptions.enableIpv4 (fun _ _ => rfl) rfl
      enableIpv6 := fold_reset MainOptions.enableIpv6 (fun _ _ => rfl) rfl
      enableTfoAccept := fold_flag MainOptions.enableTfoAccept (fun _ _ => rfl) rfl
      enableTfoConnect := fold_flag MainOptions.enableTfoConnect (fun _ _ => rfl) rfl
      enableFakedns := fold_flag MainOptions.enableFakedns (fun _ _ => rfl) rfl
      verbose := fold_flag MainOptions.verbose (fun _ _ => rfl) rfl
      serverCount := count
      servers := found
      bindIpstr4 := fold_last MainOptions.bindIpstr4 fun _ _ => rfl
      bindIpstr6 := fold_last MainOptions.bindIpstr6 fun _ _ => rfl
      bindPortno := fold_last MainOptions.bindPortno fun _ _ => rfl
      tcpSyncntMax := fold_last MainOptions.tcpSyncntMax fun _ _ => rfl
      udpMaxsizes := fold_last MainOptions.udpMaxsizes fun _ _ => rfl
      udpIdletimeoutSec := fold_last MainOptions.udpIdletimeoutSec fun _ _ => rfl
      nthreads := fold_last MainOptions.nthreads fun _ _ => rfl
      udpNthreads := congrArg₂ min (fold_last MainOptions.udpNthreads fun _ _ => rfl)
        (fold_last MainOptions.nthreads fun _ _ => rfl)
      nofileLimit := fold_last MainOptions.nofileLimit fun _ _ => rfl
      fakednsIpstr := fold_last MainOptions.fakednsIpstr fun _ _ => rfl
      fakednsPortno := fold_last MainOptions.fakednsPortno fun _ _ => rfl
      fakednsCidr := fold_last MainOptions.fakednsCidr fun _ _ => rfl
      fakednsCachePath := fold_last MainOptions.fakednsCachePath fun _ _ => rfl }

end Read

/-- The checks after the loop never exit with code 0. -/
theorem checkOptions_code {e : ParseExit} (failed : checkOptions g = .error e) : e.code = 1 := by
  unfold checkOptions at failed
  split at failed
  · cases failed
    rfl
  · split at failed
    · cases failed
      rfl
    · split at failed
      · cases failed
        rfl
      · cases failed

section Exact
variable {servers : Nat → SsServer}

/-- The parser's loop, from the initial globals. -/
theorem parse_loop : results.foldlM (parseOption ctxInit) (.initial servers) = .ok c ↔
    (∀ r ∈ results, r.Valid ctxInit) ∧ results.countP GetoptResult.isServer ≤ ssMaxServers ∧
      c = results.foldl (MainOptions.set ctxInit) (.initial servers) := by
  rw [parse_fold (Nat.zero_le _)]
  have start : (MainOptions.initial servers).ssServers.serverCount = 0 := rfl
  rw [start, Nat.zero_add]

/-- The checks after the loop are what `CommandLineValid` adds to the options' own. -/
theorem command_line_checks (servers : Nat → SsServer) (valid : ∀ r ∈ results, r.Valid ctxInit)
    (room : results.countP GetoptResult.isServer ≤ ssMaxServers) :
    CommandLineValid ctxInit results ↔
      ∃ c, checkOptions (results.foldl (MainOptions.set ctxInit) (.initial servers)) = .ok c := by
  have read := command_line_read servers valid room
  have count := read.serverCount
  have tcp := read.enableTcp
  have udp := read.enableUdp
  have ipv4 := read.enableIpv4
  have ipv6 := read.enableIpv6
  simp only at count tcp udp ipv4 ipv6
  simp only [checkOptions_eq, count, tcp, udp, ipv4, ipv6, decide_eq_true_eq]
  constructor
  · intro line
    have server := line.some_server
    exact ⟨_, by have := line.protocol; tauto, by have := line.family; tauto, by omega, rfl⟩
  · rintro ⟨_, protocol, family, server, _⟩
    exact ⟨valid, by omega, room, by tauto, by tauto⟩

theorem parseCommandArgs_ok :
    parseCommandArgs ctxInit (.initial servers) results = .ok c ↔
      ((∀ r ∈ results, r.Valid ctxInit) ∧ results.countP GetoptResult.isServer ≤ ssMaxServers) ∧
        checkOptions (results.foldl (MainOptions.set ctxInit) (.initial servers)) = .ok c := by
  constructor
  · intro run
    obtain ⟨g, looped, checked⟩ := except_bind_eq_ok.mp run
    obtain ⟨valid, room, rfl⟩ := parse_loop.mp looped
    exact ⟨⟨valid, room⟩, checked⟩
  · rintro ⟨⟨valid, room⟩, checked⟩
    exact except_bind_eq_ok.mpr ⟨_, parse_loop.mpr ⟨valid, room, rfl⟩, checked⟩

/-- The parser exits with code 0 where a version or help option is the first it refuses. -/
theorem parseCommandArgs_error {e : ParseExit}
    (failed : parseCommandArgs ctxInit (.initial servers) results = .error e) : e.code = 0 ↔
      ∃ before r after, results = before ++ r :: after ∧ (r = .version ∨ r = .help) ∧
        (∀ r ∈ before, r.Valid ctxInit) ∧ before.countP GetoptResult.isServer ≤ ssMaxServers := by
  constructor
  · intro zero
    cases run : results.foldlM (parseOption ctxInit) (.initial servers) with
    | ok g =>
      rw [parseCommandArgs, run] at failed
      exact absurd (checkOptions_code failed) (by omega)
    | error e' =>
      rw [parseCommandArgs, run] at failed
      cases failed
      obtain ⟨before, r, after, g, split, first, refused⟩ := foldlM_error_iff.mp run
      obtain ⟨valid, room, _⟩ := parse_loop.mp first
      cases optionTaken ctxInit g r with
      | taken _ _ taken =>
        rw [taken] at refused
        cases refused
      | refused e'' _ same code =>
        rw [same] at refused
        cases refused
        exact ⟨before, r, after, split, code.mp zero, valid, room⟩
  · rintro ⟨before, r, after, rfl, asked, valid, room⟩
    have first : before.foldlM (parseOption ctxInit) (.initial servers) =
        .ok (before.foldl (MainOptions.set ctxInit) (.initial servers)) :=
      parse_loop.mpr ⟨valid, room, rfl⟩
    have refused : (before ++ r :: after).foldlM (parseOption ctxInit) (.initial servers) = .error e := by
      rw [foldlM_append_ok first, List.foldlM_cons]
      rw [parseCommandArgs, foldlM_append_ok first, List.foldlM_cons] at failed
      rcases asked with rfl | rfl <;> exact failed
    rw [foldlM_append_ok first, List.foldlM_cons] at refused
    rcases asked with rfl | rfl <;> cases refused <;> rfl

end Exact

/-- The parser takes exactly the valid command lines, and reads them as they are
meant. It exits with code 0 exactly where a version or help option comes first. -/
theorem parse_command_args_exact (ctxInit : Ss2022Method → List UInt8 → Bool) (servers : Nat → SsServer)
    (results : List GetoptResult) :
    ((∃ c, parseCommandArgs ctxInit (.initial servers) results = .ok c) ↔
        CommandLineValid ctxInit results) ∧
      (∀ c, parseCommandArgs ctxInit (.initial servers) results = .ok c →
        CommandLineRead ctxInit results c) ∧
      ∀ e, parseCommandArgs ctxInit (.initial servers) results = .error e → (e.code = 0 ↔
        ∃ before r after, results = before ++ r :: after ∧ (r = .version ∨ r = .help) ∧
          (∀ r ∈ before, r.Valid ctxInit) ∧ before.countP GetoptResult.isServer ≤ ssMaxServers) := by
  refine ⟨⟨?_, fun line => ?_⟩, fun c run => ?_, fun e failed => parseCommandArgs_error failed⟩
  · rintro ⟨c, run⟩
    obtain ⟨⟨valid, room⟩, checked⟩ := parseCommandArgs_ok.mp run
    exact (command_line_checks servers valid room).mpr ⟨c, checked⟩
  · obtain ⟨c, checked⟩ := (command_line_checks servers line.options line.room).mp line
    exact ⟨c, parseCommandArgs_ok.mpr ⟨⟨line.options, line.room⟩, checked⟩⟩
  · obtain ⟨⟨valid, room⟩, checked⟩ := parseCommandArgs_ok.mp run
    obtain ⟨_, _, _, rfl⟩ := checkOptions_eq.mp checked
    exact command_line_read _ valid room

end Tproxy
