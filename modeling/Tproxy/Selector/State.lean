import Mathlib.Algebra.Order.Field.Rat
import Mathlib.Logic.Function.Basic
import Tproxy.Lib.StrictScan

namespace Tproxy

def ssMaxServers : Nat := 8

def ssWindowSlots : Nat := 67

def ssSwitchThreshold : Nat := 6

/-- `UINT32_MAX`, the score of a server without samples. -/
def ssNeverSampled : Nat := 2 ^ 32 - 1

inductive SsHealth
  | unknown
  | ok
  | failed
deriving DecidableEq, Inhabited

/-- `ss_sample_t`; the loop time `ts` is a rational number of seconds. -/
structure SsSample where
  latencyMs : Nat
  errored : Bool
  ts : ℚ
deriving DecidableEq, Inhabited

/-- One protocol's selector: `ss_selector_t` with that protocol's columns of
`g_ss_servers`. The servers are the indices below `serverCount`. -/
structure SsSelector where
  serverCount : Nat
  bestIdx : Nat
  health : Nat → SsHealth
  failureEpoch : Nat → Nat
  score : Nat → Nat
  window : Nat → Nat → SsSample
  windowHead : Nat → Nat
  windowCount : Nat → Nat
  probesRemaining : Int

def ssHealthRank : SsHealth → Nat
  | .ok => 0
  | .unknown => 1
  | .failed => 2

def ssBetterLocked (s : SsSelector) (a b : Nat) : Bool :=
  let ar := ssHealthRank (s.health a)
  let br := ssHealthRank (s.health b)
  ar < br || (ar = br && s.score a < s.score b)

/-- The servers that the scan of `ss_candidate_locked` does not skip. -/
def SsSelector.untried (s : SsSelector) (triedMask : Nat) : List Nat :=
  (List.range s.serverCount).filter fun i => !triedMask.testBit i

/-- `ss_candidate_locked`; `none` is the index -1. -/
def ssCandidateLocked (s : SsSelector) (triedMask : Nat) : Option Nat :=
  let best := if s.bestIdx ≥ s.serverCount ∨ triedMask.testBit s.bestIdx then none else some s.bestIdx
  strictScan (ssBetterLocked s) best (s.untried triedMask)

/-- `ss_update_best_locked`; `failedIdx = none` is the index -1. -/
def ssUpdateBestLocked (s : SsSelector) (failedIdx : Option Nat) (allowScoreSwitch : Bool) :
    SsSelector :=
  let prev := s.bestIdx
  match ssCandidateLocked s 0 with
  | none => s
  | some candidate =>
    -- with every server failed, a failure of the selected one still moves on
    let force := failedIdx = some prev ∧ s.serverCount > 1
    let choice :=
      if force ∧ candidate = prev then ssCandidateLocked s (1 <<< prev) else some candidate
    match choice with
    | none => s
    | some best =>
      if best = prev then s
      else if ¬force ∧ allowScoreSwitch = false ∧ s.health best = s.health prev then s
      else if ¬force ∧ s.health best = s.health prev ∧
          (s.score best ≥ s.score prev ∨ s.score prev - s.score best ≤ ssSwitchThreshold) then s
      else { s with bestIdx := best }

/-- `ss_attempt_epoch`, and so `server_selector_tcp_attempt`. -/
def ssAttemptEpoch (s : SsSelector) (idx : Nat) : Nat := s.failureEpoch idx

def serverSelectorNextBestTcp (s : SsSelector) (triedMask : Nat) : Option Nat :=
  ssCandidateLocked s triedMask

/-- `server_selector_udp_replacement`; `none` is the index -1. -/
def serverSelectorUdpReplacement (s : SsSelector) (serverIdx : Nat) : Option Nat :=
  if serverIdx < s.serverCount ∧ s.bestIdx < s.serverCount ∧ s.bestIdx ≠ serverIdx ∧
      s.health serverIdx = .failed ∧ s.health s.bestIdx = .ok then some s.bestIdx
  else none

/-- Mark a server failed: the next epoch begins. -/
def ssMarkFailed (s : SsSelector) (idx : Nat) : SsSelector :=
  { s with
    failureEpoch := Function.update s.failureEpoch idx ((s.failureEpoch idx + 1) % 2 ^ 64)
    health := Function.update s.health idx .failed }

/-- Mark a server healthy. -/
def ssMarkOk (s : SsSelector) (idx : Nat) : SsSelector :=
  { s with health := Function.update s.health idx .ok }

def serverSelectorReportTcpFailure (s : SsSelector) (serverIdx : Nat) : SsSelector :=
  if serverIdx ≥ s.serverCount then s
  else ssUpdateBestLocked (ssMarkFailed s serverIdx) (some serverIdx) false

def serverSelectorReportTcpSuccess (s : SsSelector) (serverIdx attemptEpoch : Nat) : SsSelector :=
  if serverIdx ≥ s.serverCount then s
  else if attemptEpoch = s.failureEpoch serverIdx then
    ssUpdateBestLocked (ssMarkOk s serverIdx) none false
  else s

section Scoring
variable (computeScore : (Nat → SsSample) → Nat → Nat → ℚ → Nat)

/-- The part of `ss_record_probe` before the lock is taken, and the store of
the new score. `computeScore window count head now` is `ss_compute_score`. -/
def ssRecordSample (s : SsSelector) (idx latencyMs : Nat) (errored : Bool) (now : ℚ) : SsSelector :=
  let window := Function.update (s.window idx) (s.windowHead idx) ⟨latencyMs, errored, now⟩
  let head := (s.windowHead idx + 1) % ssWindowSlots
  let count := if s.windowCount idx < ssWindowSlots then s.windowCount idx + 1 else s.windowCount idx
  { s with
    window := Function.update s.window idx window
    windowHead := Function.update s.windowHead idx head
    windowCount := Function.update s.windowCount idx count
    score := Function.update s.score idx (computeScore window count head now) }

def ssRecordProbe (s : SsSelector) (idx latencyMs : Nat) (errored : Bool) (attemptEpoch : Nat)
    (now : ℚ) : SsSelector :=
  let s := ssRecordSample computeScore s idx latencyMs errored now
  let s :=
    if errored then ssMarkFailed s idx
    else if attemptEpoch = s.failureEpoch idx then ssMarkOk s idx
    else s
  ssUpdateBestLocked s (if errored then some idx else none) false

end Scoring

/-- `ss_probe_done`, and so `ss_probe_skip`. -/
def ssProbeDone (s : SsSelector) : SsSelector :=
  let s := { s with probesRemaining := s.probesRemaining - 1 }
  if s.probesRemaining = 0 then ssUpdateBestLocked s none true else s

/-- `selector_start_probe_round`, up to the start of the single probes. -/
def selectorStartProbeRound (s : SsSelector) : SsSelector :=
  if s.probesRemaining > 0 then s else { s with probesRemaining := s.serverCount }

/-- `server_selector_init` for `serverCount` configured servers. The windows
keep whatever samples they hold; their count becomes zero. -/
def serverSelectorInit (serverCount : Nat) (window : Nat → Nat → SsSample) : SsSelector where
  serverCount := serverCount
  bestIdx := 0
  health _ := .unknown
  failureEpoch _ := 0
  score _ := ssNeverSampled
  window := window
  windowHead _ := 0
  windowCount _ := 0
  probesRemaining := 0

end Tproxy
