import Tproxy.Lib.LastWins
import Tproxy.Main.Options
import Tproxy.Main.ServerFormat

namespace Tproxy

/-- The value of a numeric argument, if it is a numeral from 1 to `max`. -/
def uintArg (max : Nat) (optarg : List UInt8) : Option Nat :=
  if (strtoul (cStr optarg)).2 = [] ∧ 0 < (strtoul (cStr optarg)).1 ∧ (strtoul (cStr optarg)).1 ≤ max then
    some (strtoul (cStr optarg)).1
  else none

namespace GetoptResult
variable (ctxInit : Ss2022Method → List UInt8 → Bool)

def isServer : GetoptResult → Bool
  | .serverGroup _ => true
  | _ => false

/-- An argument of an option is as the help text says. -/
def Valid : GetoptResult → Prop
  | .serverGroup optarg => ∃ parts : ServerGroup, parts.WellFormed ctxInit ∧ cStr optarg = parts.text
  | .listenAddr4 optarg | .fakednsAddr optarg =>
    (cStr optarg).length < ip4StrLen ∧ getIpstrFamily (cStr optarg) = some .inet
  | .listenAddr6 optarg => (cStr optarg).length < ip6StrLen ∧ getIpstrFamily (cStr optarg) = some .inet6
  | .tcpSyncnt optarg => (uintArg 255 optarg).isSome
  | .threadNums optarg | .udpThreadNums optarg => (uintArg (maxThreads + 1) optarg).isSome
  | .nofileLimit optarg => (uintArg (2 ^ 64 - 1) optarg).isSome
  | .listenPort optarg | .fakednsPort optarg | .cacheSize optarg | .udpTimeout optarg =>
    (uintArg 65535 optarg).isSome
  | .version | .help | .missingArg _ | .unknownShort _ | .unknownLong _ => False
  | _ => True

def bindIpstr4? : GetoptResult → Option (List UInt8)
  | .listenAddr4 optarg => some (cStr optarg)
  | _ => none

def bindIpstr6? : GetoptResult → Option (List UInt8)
  | .listenAddr6 optarg => some (cStr optarg)
  | _ => none

def bindPortno? : GetoptResult → Option Nat
  | .listenPort optarg => uintArg 65535 optarg
  | _ => none

def tcpSyncntMax? : GetoptResult → Option Nat
  | .tcpSyncnt optarg => uintArg 255 optarg
  | _ => none

def udpMaxsizes? : GetoptResult → Option UdpMaxsizes
  | .cacheSize optarg => (uintArg 65535 optarg).map udpLrucacheSetMaxsize
  | _ => none

def udpIdletimeoutSec? : GetoptResult → Option Nat
  | .udpTimeout optarg => (uintArg 65535 optarg).map (max udpIdleTimeoutDefaultSec)
  | _ => none

def nthreads? : GetoptResult → Option Nat
  | .threadNums optarg => uintArg (maxThreads + 1) optarg
  | _ => none

def udpNthreads? : GetoptResult → Option Nat
  | .udpThreadNums optarg => uintArg (maxThreads + 1) optarg
  | _ => none

def nofileLimit? : GetoptResult → Option Nat
  | .nofileLimit optarg => uintArg (2 ^ 64 - 1) optarg
  | _ => none

def fakednsIpstr? : GetoptResult → Option (List UInt8)
  | .fakednsAddr optarg => some (cStr optarg)
  | _ => none

def fakednsPortno? : GetoptResult → Option Nat
  | .fakednsPort optarg => uintArg 65535 optarg
  | _ => none

def fakednsCidr? : GetoptResult → Option (List UInt8)
  | .fakednsIpRange optarg => some (strncopy optarg 63)
  | _ => none

def fakednsCachePath? : GetoptResult → Option (List UInt8)
  | .fakednsCache optarg => some (strncopy optarg 255)
  | _ => none

def server? : GetoptResult → Option (List UInt8)
  | .serverGroup optarg => some (cStr optarg)
  | _ => none

end GetoptResult

/-- What a valid option changes in the globals. -/
def MainOptions.set (ctxInit : Ss2022Method → List UInt8 → Bool) (g : MainOptions) (r : GetoptResult) :
    MainOptions where
  enableTcp := !decide (r = .udpOnly) && g.enableTcp
  enableUdp := !decide (r = .tcpOnly) && g.enableUdp
  enableIpv4 := !decide (r = .ipv6Only) && g.enableIpv4
  enableIpv6 := !decide (r = .ipv4Only) && g.enableIpv6
  enableTfoAccept := decide (r = .tfoAccept) || g.enableTfoAccept
  enableTfoConnect := decide (r = .tfoConnect) || g.enableTfoConnect
  enableFakedns := decide (r = .enableFakedns) || g.enableFakedns
  verbose := decide (r = .verbose) || g.verbose
  ssServers := match r with
    | .serverGroup optarg => (parseServerGroupArg ctxInit g.ssServers optarg).2
    | _ => g.ssServers
  bindIpstr4 := r.bindIpstr4?.getD g.bindIpstr4
  bindIpstr6 := r.bindIpstr6?.getD g.bindIpstr6
  bindPortno := r.bindPortno?.getD g.bindPortno
  tcpSyncntMax := r.tcpSyncntMax?.getD g.tcpSyncntMax
  udpMaxsizes := r.udpMaxsizes?.getD g.udpMaxsizes
  udpIdletimeoutSec := r.udpIdletimeoutSec?.getD g.udpIdletimeoutSec
  nthreads := r.nthreads?.getD g.nthreads
  udpNthreads := r.udpNthreads?.getD g.udpNthreads
  nofileLimit := r.nofileLimit?.getD g.nofileLimit
  fakednsIpstr := r.fakednsIpstr?.getD g.fakednsIpstr
  fakednsPortno := r.fakednsPortno?.getD g.fakednsPortno
  fakednsCidr := r.fakednsCidr?.getD g.fakednsCidr
  fakednsCachePath := r.fakednsCachePath?.getD g.fakednsCachePath

variable {ctxInit : Ss2022Method → List UInt8 → Bool} {g g' : MainOptions} {optarg : List UInt8}
  {optName : String}

section Checks

theorem uintArg_refuses {max val : Nat} {endptr : List UInt8} :
    (endptr ≠ [] ∨ val = 0 ∨ val > max) ↔ ¬ (endptr = [] ∧ 0 < val ∧ val ≤ max) := by
  rw [not_and_or, not_and_or, Nat.not_lt, Nat.le_zero, Nat.not_le]

theorem validateUintRange_eq (max : Nat) (optName : String) :
    (∃ v, uintArg max optarg = some v ∧ validateUintRange (cStr optarg) max optName = .ok v) ∨
      (uintArg max optarg = none ∧
        ∃ printed, validateUintRange (cStr optarg) max optName = .error ⟨1, printed⟩) := by
  unfold uintArg validateUintRange
  generalize strtoul (cStr optarg) = read
  obtain ⟨val, endptr⟩ := read
  simp only [uintArg_refuses]
  by_cases good : endptr = [] ∧ 0 < val ∧ val ≤ max
  · exact Or.inl ⟨val, if_pos good, if_neg (not_not.mpr good)⟩
  · exact Or.inr ⟨if_neg good, _, if_pos good⟩

/-- A port number is checked as any number up to 65535. -/
theorem validatePortNumber_eq (optName : String) :
    (∃ v, uintArg 65535 optarg = some v ∧ validatePortNumber (cStr optarg) optName = .ok v) ∨
      (uintArg 65535 optarg = none ∧
        ∃ printed, validatePortNumber (cStr optarg) optName = .error ⟨1, printed⟩) := by
  unfold uintArg validatePortNumber
  generalize strtoul (cStr optarg) = read
  obtain ⟨val, endptr⟩ := read
  simp only [uintArg_refuses]
  by_cases good : endptr = [] ∧ 0 < val ∧ val ≤ 65535
  · refine Or.inl ⟨val, if_pos good, ?_⟩
    rw [if_neg (not_not.mpr good), Nat.mod_eq_of_lt (by omega)]
  · exact Or.inr ⟨if_neg good, _, if_pos good⟩

theorem validateIpAddress_eq (ipstr : List UInt8) (maxLen : Nat) (family : AddrFamily) (optName : String) :
    (validateIpAddress ipstr maxLen (some family) optName = .ok () ∧ ipstr.length < maxLen ∧
      getIpstrFamily ipstr = some family) ∨
    (¬ (ipstr.length < maxLen ∧ getIpstrFamily ipstr = some family) ∧
      ∃ printed, validateIpAddress ipstr maxLen (some family) optName = .error ⟨1, printed⟩) := by
  rw [validateIpAddress]
  by_cases short : ipstr.length + 1 > maxLen
  · rw [if_pos short]
    exact Or.inr ⟨fun both => by omega, _, rfl⟩
  · rw [if_neg short]
    by_cases same : getIpstrFamily ipstr = some family
    · exact Or.inl ⟨if_neg (not_not.mpr same), by omega, same⟩
    · exact Or.inr ⟨fun both => same both.2, _, if_pos same⟩

/-- The numbers that pass a check are in its range. -/
theorem uintArg_range {max v : Nat} (read : uintArg max optarg = some v) : 1 ≤ v ∧ v ≤ max := by
  unfold uintArg at read
  split at read
  · rename_i good
    cases read
    exact good.2
  · cases read

theorem uintArg_mod {max v k : Nat} (read : uintArg max optarg = some v) (bound : max < k) : v % k = v :=
  Nat.mod_eq_of_lt (Nat.lt_of_le_of_lt (uintArg_range read).2 bound)

end Checks

section Option

/-- An option is taken and sets the globals, or it is refused. -/
inductive OptionTaken (ctxInit : Ss2022Method → List UInt8 → Bool) (g : MainOptions) (r : GetoptResult) : Prop
  | taken : r.Valid ctxInit → (r.isServer = true → g.ssServers.serverCount < ssMaxServers) →
      parseOption ctxInit g r = .ok (g.set ctxInit r) → OptionTaken ctxInit g r
  | refused (e : ParseExit) :
      ¬ (r.Valid ctxInit ∧ (r.isServer = true → g.ssServers.serverCount < ssMaxServers)) →
      parseOption ctxInit g r = .error e → (e.code = 0 ↔ r = .version ∨ r = .help) →
      OptionTaken ctxInit g r

/-- A numeric option is taken if its argument is in range. -/
theorem OptionTaken.uint {r : GetoptResult} {max : Nat} {check : Except ParseExit Nat}
    {store : Nat → MainOptions} (plain : r.isServer = false) (other : ¬ (r = .version ∨ r = .help))
    (checked : (∃ v, uintArg max optarg = some v ∧ check = .ok v) ∨
      (uintArg max optarg = none ∧ ∃ printed, check = .error ⟨1, printed⟩))
    (valid : r.Valid ctxInit ↔ (uintArg max optarg).isSome)
    (parse : parseOption ctxInit g r = check >>= fun v => .ok (store v))
    (stores : ∀ v, uintArg max optarg = some v → store v = g.set ctxInit r) :
    OptionTaken ctxInit g r := by
  rcases checked with ⟨v, read, rfl⟩ | ⟨refused, printed, rfl⟩
  · refine .taken (valid.mpr (by rw [read]; rfl)) (by simp [plain]) ?_
    rw [parse, ← stores v read]
    rfl
  · refine .refused ⟨1, printed⟩ (fun both => ?_) parse (iff_of_false nofun other)
    have some := valid.mp both.1
    rw [refused] at some
    cases some

theorem OptionTaken.ip {r : GetoptResult} {maxLen : Nat} {family : AddrFamily} {name : String}
    (plain : r.isServer = false) (other : ¬ (r = .version ∨ r = .help))
    (valid : r.Valid ctxInit ↔
      (cStr optarg).length < maxLen ∧ getIpstrFamily (cStr optarg) = some family)
    (parse : parseOption ctxInit g r =
      validateIpAddress (cStr optarg) maxLen (some family) name >>= fun _ => .ok (g.set ctxInit r)) :
    OptionTaken ctxInit g r := by
  rcases validateIpAddress_eq (cStr optarg) maxLen family name with ⟨ok, both⟩ | ⟨bad, printed, error⟩
  · refine .taken (valid.mpr both) (by simp [plain]) ?_
    rw [parse, ok]
    rfl
  · refine .refused ⟨1, printed⟩ (fun both => bad (valid.mp both.1)) ?_ (iff_of_false nofun other)
    rw [parse, error]
    rfl

theorem OptionTaken.server (optarg : List UInt8) : OptionTaken ctxInit g (.serverGroup optarg) := by
  by_cases full : g.ssServers.serverCount ≥ ssMaxServers
  · refine .refused ⟨1, ⟨"[parse_command_args] too many -g servers (max 8)", []⟩⟩
      (fun both => absurd (both.2 rfl) (Nat.not_lt.mpr full)) ?_ (iff_of_false nofun (by simp))
    rw [parseOption, parseServerGroupArg, if_pos full]
    rfl
  · cases run : parseServerGroup ctxInit optarg with
    | error printed =>
      refine .refused ⟨1, printed⟩ (fun both => ?_) ?_ (iff_of_false nofun (by simp))
      · obtain ⟨parts, formed, text⟩ := both.1
        have parsed := parseServerGroup_eq.mpr ⟨parts, formed, text, rfl⟩
        rw [run] at parsed
        cases parsed
      · rw [parseOption, parseServerGroupArg, if_neg full, run]
        rfl
    | ok out =>
      obtain ⟨parts, formed, text, _⟩ := parseServerGroup_eq.mp run
      refine .taken ⟨parts, formed, text⟩ (fun _ => Nat.lt_of_not_le full) ?_
      have stored : g.set ctxInit (.serverGroup optarg) =
          { g with ssServers := (parseServerGroupArg ctxInit g.ssServers optarg).2 } := rfl
      rw [stored, parseOption, parseServerGroupArg, if_neg full, run]

theorem optionTaken (ctxInit : Ss2022Method → List UInt8 → Bool) (g : MainOptions) (r : GetoptResult) :
    OptionTaken ctxInit g r := by
  cases r with
  | serverGroup optarg => exact .server optarg
  | listenAddr4 optarg | listenAddr6 optarg | fakednsAddr optarg => exact .ip rfl (by simp) Iff.rfl rfl
  | listenPort optarg =>
    refine .uint rfl (by simp) (validatePortNumber_eq _) Iff.rfl rfl fun v read => ?_
    have stored : g.set ctxInit (.listenPort optarg) =
        { g with bindPortno := (uintArg 65535 optarg).getD g.bindPortno } := rfl
    rw [stored, read, Option.getD_some]
  | fakednsPort optarg =>
    refine .uint rfl (by simp) (validatePortNumber_eq _) Iff.rfl rfl fun v read => ?_
    have stored : g.set ctxInit (.fakednsPort optarg) =
        { g with fakednsPortno := (uintArg 65535 optarg).getD g.fakednsPortno } := rfl
    rw [stored, read, Option.getD_some]
  | tcpSyncnt optarg =>
    refine .uint rfl (by simp) (validateUintRange_eq _ _) Iff.rfl rfl fun v read => ?_
    have stored : g.set ctxInit (.tcpSyncnt optarg) =
        { g with tcpSyncntMax := (uintArg 255 optarg).getD g.tcpSyncntMax } := rfl
    rw [stored, read, Option.getD_some, uintArg_mod read (by decide)]
  | cacheSize optarg =>
    refine .uint rfl (by simp) (validateUintRange_eq _ _) Iff.rfl rfl fun v read => ?_
    have stored : g.set ctxInit (.cacheSize optarg) =
        { g with udpMaxsizes := ((uintArg 65535 optarg).map udpLrucacheSetMaxsize).getD g.udpMaxsizes } := rfl
    rw [stored, read, Option.map_some, Option.getD_some, uintArg_mod read (by decide)]
  | udpTimeout optarg =>
    refine .uint rfl (by simp) (validateUintRange_eq _ _) Iff.rfl rfl fun v read => ?_
    have stored : g.set ctxInit (.udpTimeout optarg) = { g with udpIdletimeoutSec :=
        ((uintArg 65535 optarg).map (max udpIdleTimeoutDefaultSec)).getD g.udpIdletimeoutSec } := rfl
    have range := uintArg_range read
    have clamped : (if v < udpIdleTimeoutDefaultSec then udpIdleTimeoutDefaultSec else v) % 2 ^ 16 =
        max udpIdleTimeoutDefaultSec v := by
      unfold udpIdleTimeoutDefaultSec
      by_cases small : v < 60
      · rw [if_pos small]
        omega
      · rw [if_neg small]
        omega
    rw [stored, read, Option.map_some, Option.getD_some, ← clamped]
  | threadNums optarg =>
    refine .uint rfl (by simp) (validateUintRange_eq _ _) Iff.rfl rfl fun v read => ?_
    have stored : g.set ctxInit (.threadNums optarg) =
        { g with nthreads := (uintArg (maxThreads + 1) optarg).getD g.nthreads } := rfl
    rw [stored, read, Option.getD_some, uintArg_mod read (by decide)]
  | udpThreadNums optarg =>
    refine .uint rfl (by simp) (validateUintRange_eq _ _) Iff.rfl rfl fun v read => ?_
    have stored : g.set ctxInit (.udpThreadNums optarg) =
        { g with udpNthreads := (uintArg (maxThreads + 1) optarg).getD g.udpNthreads } := rfl
    rw [stored, read, Option.getD_some, uintArg_mod read (by decide)]
  | nofileLimit optarg =>
    refine .uint rfl (by simp) (validateUintRange_eq _ _) Iff.rfl rfl fun v read => ?_
    have stored : g.set ctxInit (.nofileLimit optarg) =
        { g with nofileLimit := (uintArg (2 ^ 64 - 1) optarg).getD g.nofileLimit } := rfl
    rw [stored, read, Option.getD_some]
  | tcpOnly | udpOnly | ipv4Only | ipv6Only | tfoAccept | tfoConnect | verbose | enableFakedns
  | fakednsIpRange optarg | fakednsCache optarg => exact .taken trivial (by simp [GetoptResult.isServer]) rfl
  | version | help => exact .refused _ (fun both => both.1) rfl (iff_of_true rfl (by simp))
  | missingArg arg | unknownShort optopt | unknownLong arg =>
    exact .refused _ (fun both => both.1) rfl (iff_of_false nofun (by simp))

end Option

end Tproxy
