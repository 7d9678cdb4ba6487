import Tproxy.Selector.Freshness
import Tproxy.Tcp.Run

namespace Tproxy

/-- What a call of a session does to the selector. -/
def AttemptWorld.call (w : AttemptWorld) (id : Nat) : SelectorCall → AttemptWorld
  | .attempt serverIdx _ => w.start (.session id) serverIdx
  | .failure serverIdx =>
    w.record (serverSelectorReportTcpFailure w.selector serverIdx) (.failed serverIdx)
  | .success serverIdx attemptEpoch =>
    w.record (serverSelectorReportTcpSuccess w.selector serverIdx attemptEpoch)
      (.succeeded (.session id) serverIdx)

/-- The epoch that an attempt is given is the one that the selector has. -/
def SelectorCall.Takes (s : SsSelector) : SelectorCall → Prop
  | .attempt serverIdx attemptEpoch => attemptEpoch = ssAttemptEpoch s serverIdx
  | _ => True

/-- The selector with the attempts on its servers, and the calls that each session
made of it so far, newest first. -/
structure SessionsWorld where
  attempts : AttemptWorld
  calls : Nat → List SelectorCall

def SessionsWorld.init (serverCount : Nat) (window : Nat → Nat → SsSample) : SessionsWorld :=
  ⟨.init serverCount window, fun _ => []⟩

section Scoring
variable (computeScore : (Nat → SsSample) → Nat → Nat → ℚ → Nat)

/-- A session makes a call, or something else happens that starts no attempt of a session. -/
inductive SessionsStep (w : SessionsWorld) : SessionsWorld → Prop
  | call (id : Nat) (c : SelectorCall) : c.Takes w.attempts.selector →
      SessionsStep w ⟨w.attempts.call id c, Function.update w.calls id (c :: w.calls id)⟩
  | other {v : AttemptWorld} : AttemptStep computeScore w.attempts v →
      (∀ id, v.attempt (.session id) = w.attempts.attempt (.session id)) →
      SessionsStep w ⟨v, w.calls⟩

abbrev SessionsRun := Relation.ReflTransGen (SessionsStep computeScore)

end Scoring

/-- The attempts are those that the calls of the sessions made. -/
structure SessionsAttempt (n : Nat) (w : SessionsWorld) : Prop where
  attempts : AttemptInv w.attempts
  servers : w.attempts.selector.serverCount = n
  current : ∀ id, w.attempts.attempt (.session id) =
    (latestAttempt (w.calls id)).map fun a => ⟨a.1, a.2⟩

variable {computeScore : (Nat → SsSample) → Nat → Nat → ℚ → Nat} {n id : Nat} {c : SelectorCall}
  {w v : SessionsWorld} {S : Ss2022} {target : S.Addr} {tfo : Bool}
  {st : TcpState S} {earlier later : List SelectorCall}

theorem CallsMatch.mono (matching : CallsMatch n later) (before : earlier <:+ later) :
    CallsMatch n earlier := fun c first inside => matching c first (inside.trans before)

/-- The calls of a session report outcomes of its newest attempt only. -/
theorem TcpReach.calls (small : n ≤ 8) (reach : TcpReach n tfo target st) :
    CallsMatch n st.net.calls := (reach.inv small).outside.servers.calls

/-- A call that may follow the earlier ones of its session is a step of the attempts. -/
theorem SessionsAttempt.call_step (inv : SessionsAttempt n w) (follows : c.Follows n (w.calls id)) :
    AttemptStep computeScore w.attempts (w.attempts.call id c) := by
  have current := inv.current id
  cases c with
  | attempt serverIdx epoch =>
    have bound : serverIdx < n := follows
    exact .sessionStart id serverIdx (inv.servers ▸ bound)
  | failure serverIdx =>
    obtain ⟨epoch, latest⟩ := follows
    rw [latest] at current
    exact .sessionFailure current
  | success serverIdx epoch =>
    have latest : latestAttempt (w.calls id) = some (serverIdx, epoch) := follows
    rw [latest] at current
    exact .sessionSuccess current

/-- Only an attempt changes what a session stores, and only for that session. -/
theorem SessionsAttempt.call_current (inv : SessionsAttempt n w)
    (takes : c.Takes w.attempts.selector) (other : Nat) :
    (w.attempts.call id c).attempt (.session other) =
      (latestAttempt (Function.update w.calls id (c :: w.calls id) other)).map fun a => ⟨a.1, a.2⟩ := by
  have current := inv.current other
  by_cases own : other = id
  · subst own
    rw [Function.update_self]
    cases c with
    | attempt serverIdx epoch =>
      have epoch_eq : epoch = ssAttemptEpoch w.attempts.selector serverIdx := takes
      rw [epoch_eq]
      exact Function.update_self ..
    | failure => exact current
    | success => exact current
  · rw [Function.update_of_ne own]
    cases c with
    | attempt serverIdx epoch =>
      have differ : AttemptOwner.session other ≠ .session id := by simpa using own
      exact (Function.update_of_ne differ ..).trans current
    | failure => exact current
    | success => exact current

theorem SessionsAttempt.step (inv : SessionsAttempt n w) (matching : ∀ id, CallsMatch n (v.calls id))
    (step : SessionsStep computeScore w v) :
    AttemptStep computeScore w.attempts v.attempts ∧ SessionsAttempt n v := by
  have advance {a : AttemptWorld} (step : AttemptStep computeScore w.attempts a) :
      AttemptInv a ∧ a.selector.serverCount = n :=
    ⟨inv.attempts.step step, (step.selected inv.attempts).2.trans inv.servers⟩
  cases step with
  | call id c takes =>
    have follows : c.Follows n (w.calls id) := by
      refine matching id c (w.calls id) ?_
      simp only [Function.update_self]
      exact List.suffix_rfl
    have step : AttemptStep computeScore w.attempts (w.attempts.call id c) := inv.call_step follows
    obtain ⟨attempts, servers⟩ := advance step
    exact ⟨step, attempts, servers, inv.call_current takes⟩
  | other step same =>
    obtain ⟨attempts, servers⟩ := advance step
    exact ⟨step, attempts, servers, fun id => (same id).trans (inv.current id)⟩

/-- No step takes back a call. -/
theorem SessionsStep.calls_suffix (step : SessionsStep computeScore w v) (id : Nat) :
    w.calls id <:+ v.calls id := by
  cases step with
  | call own c _ =>
    by_cases same : id = own
    · subst same
      simp only [Function.update_self]
      exact List.suffix_cons ..
    · simp only [Function.update_of_ne same]
      exact List.suffix_rfl
  | other => exact List.suffix_rfl

theorem SessionsWorld.init_attempt (configured : 0 < n) (window : Nat → Nat → SsSample) :
    SessionsAttempt n (.init n window) :=
  ⟨AttemptWorld.init_inv configured window, rfl, fun _ => rfl⟩

theorem SessionsRun.attempts {window : Nat → Nat → SsSample} (configured : 0 < n)
    (run : SessionsRun computeScore (.init n window) w) (matching : ∀ id, CallsMatch n (w.calls id)) :
    AttemptRun computeScore (.init n window) w.attempts ∧ SessionsAttempt n w := by
  induction run with
  | refl => exact ⟨.refl, SessionsWorld.init_attempt configured window⟩
  | tail _ step ih =>
    obtain ⟨before, inv⟩ := ih fun id => (matching id).mono (step.calls_suffix id)
    obtain ⟨next, inv⟩ := inv.step matching step
    exact ⟨before.tail next, inv⟩

/-- Whatever the sessions and the probes do at the same time, each session reports outcomes
of its own newest attempt, which is the one that it stores when it relays, and together they
are a run of attempts: no success hides a later failure. -/
theorem sessions_attempt {window : Nat → Nat → SsSample} (configured : 0 < n) (small : n ≤ 8)
    (run : SessionsRun computeScore (.init n window) w)
    (sessions : ∀ id, w.calls id ≠ [] → ∃ target st,
      TcpReach (S := S) n tfo target st ∧ w.calls id <:+ st.net.calls) :
    (∀ id, CallsMatch n (w.calls id)) ∧ AttemptRun computeScore (.init n window) w.attempts ∧
      (∀ id, w.attempts.attempt (.session id) =
        (latestAttempt (w.calls id)).map fun a => ⟨a.1, a.2⟩) ∧
      (∀ id target (s : TcpSession S TcpRelay), TcpReach n tfo target (.relay s) →
        w.calls id = s.net.calls →
        w.attempts.attempt (.session id) = some ⟨s.serverIdx, s.selectorAttemptEpoch⟩) ∧
      (EpochsFit w.attempts.history → ∀ i, w.attempts.selector.health i = .ok →
        Vouched w.attempts.history i) := by
  have matching (id : Nat) : CallsMatch n (w.calls id) := by
    by_cases none : w.calls id = []
    · intro c earlier inside
      rw [none, List.suffix_nil] at inside
      cases inside
    · obtain ⟨target, st, reach, before⟩ := sessions id none
      exact (reach.calls small).mono before
  obtain ⟨attempts, inv⟩ := SessionsRun.attempts configured run matching
  refine ⟨matching, attempts, inv.current, fun id target s reach same => ?_, inv.attempts.vouched⟩
  obtain ⟨k, relaying⟩ := reach.inv small
  rw [inv.current, same, relaying.latest]
  rfl

/-- A session relays over its attempt on server 0 when a probe of that server fails. -/
theorem sessions_attempt_relaying : ∃ (w : SessionsWorld) (s : TcpSession plainSs2022 TcpRelay),
    TcpReach 2 true () (.relay s) ∧ w.attempts.selector.health 0 = .failed ∧
      w.attempts.attempt (.session 7) = some ⟨s.serverIdx, s.selectorAttemptEpoch⟩ := by
  have accepted : TcpReach (S := plainSs2022) 2 true () _ :=
    .accept [⟨twoServers, some ((), ())⟩] ((), ()) [.ok [7, 8]] ⟨fastOpen 3, []⟩
      (by decide) (by decide) rfl rfl
  have reach := accepted.event
    (.serverConnected none (.error .eagain) true [] (by decide) rfl rfl rfl)
  let began := (AttemptWorld.init 2 fun _ _ => default).call 7 (.attempt 0 0)
  let calls : Nat → List SelectorCall := Function.update (fun _ => []) 7 [.attempt 0 0]
  have probed : AttemptStep (fun _ _ _ _ => 0) began (began.start (.probe 0) 0) :=
    .probeStart 0 (by decide)
  have failed : AttemptStep (fun _ _ _ _ => 0) (began.start (.probe 0) 0) _ :=
    @AttemptStep.probeFailure _ _ 0 ⟨0, 0⟩ 5000 1 rfl
  have called : SessionsStep (fun _ _ _ _ => 0) (.init 2 fun _ _ => default) _ :=
    .call 7 (.attempt 0 0) rfl
  have first := SessionsStep.other (w := ⟨began, calls⟩) probed fun _ => rfl
  have second := SessionsStep.other (w := ⟨began.start (.probe 0) 0, calls⟩) failed fun _ => rfl
  have run : SessionsRun (fun _ _ _ _ => 0) (.init 2 fun _ _ => default) _ :=
    ((Relation.ReflTransGen.single called).tail first).tail second
  have sessions := sessions_attempt (S := plainSs2022) (by decide) (by decide) run fun id some => by
    by_cases own : id = 7
    · subst own
      exact ⟨(), _, reach, List.suffix_rfl⟩
    · have none : calls id = [] := Function.update_of_ne own ..
      exact absurd none some
  have marked := @ssRecordProbe_marks (fun _ _ _ _ => 0) began.selector 0 5000 true 0 1
  exact ⟨_, _, reach, congrFun marked.1 0, sessions.2.2.2.1 7 () _ reach rfl⟩

end Tproxy
