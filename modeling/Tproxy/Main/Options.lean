import Tproxy.Main.ServerGroup
import Tproxy.Udp.Session

namespace Tproxy

/-- What `getopt_long` returns, with its `optarg`: an option of the table, `:` or `?`. -/
inductive GetoptResult
  | serverGroup (optarg : List UInt8)
  | listenAddr4 (optarg : List UInt8)
  | listenAddr6 (optarg : List UInt8)
  | listenPort (optarg : List UInt8)
  | tcpSyncnt (optarg : List UInt8)
  | cacheSize (optarg : List UInt8)
  | udpTimeout (optarg : List UInt8)
  | threadNums (optarg : List UInt8)
  | udpThreadNums (optarg : List UInt8)
  | nofileLimit (optarg : List UInt8)
  | tcpOnly
  | udpOnly
  | ipv4Only
  | ipv6Only
  | tfoAccept
  | tfoConnect
  | verbose
  | version
  | help
  | enableFakedns
  | fakednsAddr (optarg : List UInt8)
  | fakednsPort (optarg : List UInt8)
  | fakednsIpRange (optarg : List UInt8)
  | fakednsCache (optarg : List UInt8)
  | missingArg (arg : List UInt8)
  | unknownShort (optopt : UInt8)
  | unknownLong (arg : List UInt8)
deriving DecidableEq

/-- `IP4STRLEN`. -/
def ip4StrLen : Nat := 16

/-- `MAX_THREADS`. -/
def maxThreads : Nat := 64

/-- `UDP_IDLE_TIMEOUT_DEFAULT_SEC`. -/
def udpIdleTimeoutDefaultSec : Nat := 60

/-- The static sizes of `udp_lrucache.c`. -/
structure UdpMaxsizes where
  fullcone : Nat
  symmetric : Nat
  tproxy : Nat
deriving DecidableEq

def udpLrucacheSetMaxsize (baseSize : Nat) : UdpMaxsizes where
  fullcone := baseSize
  symmetric := if baseSize * 2 > 65535 then 65535 else baseSize * 2
  tproxy := if baseSize * 4 > 65535 then 65535 else baseSize * 4

/-- The globals that `parse_command_args` sets: the bits of `g_options`, the servers,
and the others under their names. -/
structure MainOptions where
  enableTcp : Bool
  enableUdp : Bool
  enableIpv4 : Bool
  enableIpv6 : Bool
  enableTfoAccept : Bool
  enableTfoConnect : Bool
  enableFakedns : Bool
  verbose : Bool
  ssServers : SsServers
  bindIpstr4 : List UInt8
  bindIpstr6 : List UInt8
  bindPortno : Nat
  tcpSyncntMax : Nat
  udpMaxsizes : UdpMaxsizes
  udpIdletimeoutSec : Nat
  nthreads : Nat
  udpNthreads : Nat
  nofileLimit : Nat
  fakednsIpstr : List UInt8
  fakednsPortno : Nat
  fakednsCidr : List UInt8
  fakednsCachePath : List UInt8

/-- The initial values in `ctx.c` and `udp_lrucache.c`, with no server. -/
def MainOptions.initial (servers : Nat → SsServer) : MainOptions where
  enableTcp := true
  enableUdp := true
  enableIpv4 := true
  enableIpv6 := true
  enableTfoAccept := false
  enableTfoConnect := false
  enableFakedns := false
  verbose := false
  ssServers := ⟨servers, 0⟩
  bindIpstr4 := strBytes "127.0.0.1"
  bindIpstr6 := strBytes "::1"
  bindPortno := 54321
  tcpSyncntMax := 0
  udpMaxsizes := ⟨256, 512, 1024⟩
  udpIdletimeoutSec := udpIdleTimeoutDefaultSec
  nthreads := 1
  udpNthreads := 1
  nofileLimit := 0
  fakednsIpstr := strBytes "127.0.0.1"
  fakednsPortno := 5353
  fakednsCidr := strBytes "198.18.0.0/15"
  fakednsCachePath := []

/-- `exit` in `parse_command_args`, and what it printed before the help text. -/
structure ParseExit where
  code : Nat
  printed : Printed
deriving DecidableEq

/-- `goto PRINT_HELP_AND_EXIT` after a message. -/
def printHelpAndExit {α : Type} (printed : Printed) : Except ParseExit α := .error ⟨1, printed⟩

/-- `validate_ip_address`; `none` is the family -1. -/
def validateIpAddress (ipstr : List UInt8) (maxLen : Nat) (requiredFamily : Option AddrFamily)
    (optName : String) : Except ParseExit Unit :=
  if ipstr.length + 1 > maxLen then
    printHelpAndExit ⟨"[parse_command_args] " ++ optName ++ " address max length is " ++
      toString (maxLen - 1) ++ ": ", ipstr⟩
  else match requiredFamily with
    | none =>
      if getIpstrFamily ipstr = none then
        printHelpAndExit ⟨"[parse_command_args] invalid " ++ optName ++ " ip address: ", ipstr⟩
      else .ok ()
    | some family =>
      if getIpstrFamily ipstr ≠ some family then
        printHelpAndExit ⟨"[parse_command_args] invalid " ++ optName ++
          (if family = .inet then " ipv4" else " ipv6") ++ " address: ", ipstr⟩
      else .ok ()

/-- `validate_port_number`; the port is what it stores. -/
def validatePortNumber (portstr : List UInt8) (optName : String) : Except ParseExit Nat :=
  let (port, endptr) := strtoul portstr
  if endptr ≠ [] ∨ port = 0 ∨ port > 65535 then
    printHelpAndExit ⟨"[parse_command_args] invalid " ++ optName ++ " port number: ", portstr⟩
  else .ok (port % 2 ^ 16)

/-- `validate_uint_range`. -/
def validateUintRange (valstr : List UInt8) (maxVal : Nat) (optName : String) : Except ParseExit Nat :=
  let (val, endptr) := strtoul valstr
  if endptr ≠ [] ∨ val = 0 ∨ val > maxVal then
    printHelpAndExit ⟨"[parse_command_args] invalid " ++ optName ++ ": ", valstr⟩
  else .ok val

section Parse
variable (ctxInit : Ss2022Method → List UInt8 → Bool)

/-- The body of the loop over `getopt_long`. -/
def parseOption (g : MainOptions) : GetoptResult → Except ParseExit MainOptions
  | .serverGroup optarg =>
    match parseServerGroupArg ctxInit g.ssServers optarg with
    | (.error printed, _) => printHelpAndExit printed
    | (.ok (), servers) => .ok { g with ssServers := servers }
  | .listenAddr4 optarg => do
    validateIpAddress (cStr optarg) ip4StrLen (some .inet) "listen"
    .ok { g with bindIpstr4 := cStr optarg }
  | .listenAddr6 optarg => do
    validateIpAddress (cStr optarg) ip6StrLen (some .inet6) "listen"
    .ok { g with bindIpstr6 := cStr optarg }
  | .listenPort optarg => do
    let port ← validatePortNumber (cStr optarg) "listen"
    .ok { g with bindPortno := port }
  | .tcpSyncnt optarg => do
    let val ← validateUintRange (cStr optarg) 255 "number of syn retransmits"
    .ok { g with tcpSyncntMax := val % 2 ^ 8 }
  | .cacheSize optarg => do
    let val ← validateUintRange (cStr optarg) 65535 "maxsize of udp lrucache"
    .ok { g with udpMaxsizes := udpLrucacheSetMaxsize (val % 2 ^ 16) }
  | .udpTimeout optarg => do
    let val ← validateUintRange (cStr optarg) 65535 "udp socket idle timeout"
    let val := if val < udpIdleTimeoutDefaultSec then udpIdleTimeoutDefaultSec else val
    .ok { g with udpIdletimeoutSec := val % 2 ^ 16 }
  | .threadNums optarg => do
    let val ← validateUintRange (cStr optarg) (maxThreads + 1) "number of worker threads"
    .ok { g with nthreads := val % 2 ^ 8 }
  | .udpThreadNums optarg => do
    let val ← validateUintRange (cStr optarg) (maxThreads + 1) "number of udp threads"
    .ok { g with udpNthreads := val % 2 ^ 8 }
  | .nofileLimit optarg => do
    let val ← validateUintRange (cStr optarg) (2 ^ 64 - 1) "nofile limit"
    .ok { g with nofileLimit := val }
  | .tcpOnly => .ok { g with enableUdp := false }
  | .udpOnly => .ok { g with enableTcp := false }
  | .ipv4Only => .ok { g with enableIpv6 := false }
  | .ipv6Only => .ok { g with enableIpv4 := false }
  | .tfoAccept => .ok { g with enableTfoAccept := true }
  | .tfoConnect => .ok { g with enableTfoConnect := true }
  | .verbose => .ok { g with verbose := true }
  | .version =>
    .error ⟨0, ⟨"tproxy2ss2022 v0.1.0 <https://github.com/wyzhou-com/tproxy2ss2022>", []⟩⟩
  | .help => .error ⟨0, ⟨"", []⟩⟩
  | .missingArg arg => printHelpAndExit ⟨"[parse_command_args] missing optarg: ", arg⟩
  | .unknownShort optopt => printHelpAndExit ⟨"[parse_command_args] unknown option: -", [optopt]⟩
  | .unknownLong arg =>
    -- the argument is cut at its equal sign
    printHelpAndExit ⟨"[parse_command_args] unknown option: ", arg.takeWhile (· ≠ 61)⟩
  | .enableFakedns => .ok { g with enableFakedns := true }
  | .fakednsAddr optarg => do
    validateIpAddress (cStr optarg) ip4StrLen (some .inet) "fakedns"
    .ok { g with fakednsIpstr := cStr optarg }
  | .fakednsPort optarg => do
    let port ← validatePortNumber (cStr optarg) "fakedns"
    .ok { g with fakednsPortno := port }
  | .fakednsIpRange optarg => .ok { g with fakednsCidr := strncopy optarg 63 }
  | .fakednsCache optarg => .ok { g with fakednsCachePath := strncopy optarg 255 }

/-- The checks of `parse_command_args` after its loop. -/
def checkOptions (g : MainOptions) : Except ParseExit MainOptions :=
  if !g.enableTcp && !g.enableUdp then
    printHelpAndExit ⟨"[parse_command_args] both tcp and udp are disabled, nothing to do", []⟩
  else if !g.enableIpv4 && !g.enableIpv6 then
    printHelpAndExit ⟨"[parse_command_args] both ipv4 and ipv6 are disabled, nothing to do", []⟩
  else if g.ssServers.serverCount = 0 then
    printHelpAndExit ⟨"[parse_command_args] at least one -g/--server-group is required", []⟩
  else .ok (if g.udpNthreads > g.nthreads then { g with udpNthreads := g.nthreads } else g)

/-- `parse_command_args` on what `getopt_long` returns until -1. -/
def parseCommandArgs (g : MainOptions) (results : List GetoptResult) : Except ParseExit MainOptions := do
  checkOptions (← results.foldlM (parseOption ctxInit) g)

end Parse

end Tproxy
