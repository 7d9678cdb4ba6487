import Tproxy.Lib.TableSweep
import Tproxy.Udp.ReplyActivity

namespace Tproxy

variable {cfg : UdpConfig} {w w' : UdpWorld} {nat : UdpNat} {now timeout : EvTstamp}
  {kept rest : List Nat}

/-- The activity of a tproxy entry. -/
def UdpWorld.tproxyLastActive (w : UdpWorld) (n : Nat) : EvTstamp :=
  ((w.tproxy.record n).map UdpTproxyEntry.lastActive).getD 0

def UdpWorld.tproxyIdle (w : UdpWorld) (now timeout : EvTstamp) (n : Nat) : Bool :=
  (w.tproxy.record n).any fun entry => udpGcIsIdle now entry.lastActive timeout

/-- What an iteration over the rest of the tproxy table did. -/
structure TproxySwept (now timeout : EvTstamp) (kept rest : List Nat) (w w' : UdpWorld) : Prop where
  table : w'.tproxy.table = kept ++ rest.filter fun n => !w.tproxyIdle now timeout n
  stays : ∀ n, ¬ (n ∈ rest ∧ w.tproxyIdle now timeout n = true) →
    w'.tproxy.record n = w.tproxy.record n
  quiet : UdpQuiet w w'

/-- As for the sessions, the entries to come stay where they are. -/
theorem udpTproxy_swept (cfg : UdpConfig) (now timeout : EvTstamp) (table : w.tproxy.table = kept ++ rest)
    (distinct : (kept ++ rest).Nodup) :
    TproxySwept now timeout kept rest w (rest.foldl (udpGcVisitTproxy cfg now timeout) w) := by
  induction rest generalizing w kept with
  | nil =>
    refine ⟨?_, fun _ _ => rfl, .refl⟩
    rw [List.filter_nil]
    exact table
  | cons cur rest ih =>
    obtain ⟨notLater, erased⟩ := sweep_next distinct
    rw [List.foldl_cons]
    cases idle : w.tproxyIdle now timeout cur with
    | false =>
      have visit : udpGcVisitTproxy cfg now timeout w cur = w := by
        unfold udpGcVisitTproxy
        split
        · rfl
        · rename_i entry atCur
          simp only [UdpWorld.tproxyIdle, atCur, Option.any_some] at idle
          simp only [idle, Bool.false_eq_true, if_false]
      rw [visit]
      have whole : kept ++ cur :: rest = (kept ++ [cur]) ++ rest := by simp
      obtain ⟨after, stays, quiet⟩ := ih (table.trans whole) (whole ▸ distinct)
      have swept := Swept.pass idle ⟨after, stays⟩
      exact ⟨swept.table, swept.stays, quiet⟩
    | true =>
      obtain ⟨entry, atCur⟩ : ∃ entry, w.tproxy.record cur = some entry := by
        unfold UdpWorld.tproxyIdle at idle
        cases atCur : w.tproxy.record cur with
        | none => simp [atCur] at idle
        | some entry => exact ⟨entry, rfl⟩
      have visit : udpGcVisitTproxy cfg now timeout w cur = udpTproxyEntryClose cfg w cur := by
        simp only [UdpWorld.tproxyIdle, atCur, Option.any_some] at idle
        simp only [udpGcVisitTproxy, atCur, idle, if_true]
      rw [visit]
      have table' : (udpTproxyEntryClose cfg w cur).tproxy.table = kept ++ rest := by
        rw [udpTproxyEntryClose_table, table, erased]
      have record : (udpTproxyEntryClose cfg w cur).tproxy.record =
          Function.update w.tproxy.record cur none := by
        simp only [udpTproxyEntryClose, udpTproxyEntryFree, UdpCache.del, atCur, PoolArena.free]
      have distinct' : (kept ++ rest).Nodup :=
        distinct.sublist ((List.sublist_cons_self cur rest).append_left kept)
      obtain ⟨after, stays, quiet⟩ := ih table' distinct'
      have later : Swept (fun entry => udpGcIsIdle now entry.lastActive timeout) kept rest
          (udpTproxyEntryClose cfg w cur).tproxy.record _ _ := ⟨after, stays⟩
      rw [record] at later
      have swept := later.remove idle notLater
      exact ⟨swept.table, swept.stays, (udpTproxyEntryClose_quiet cfg w cur).trans quiet⟩

/-- The session at `b` has a node that `drop` picks. -/
def UdpDropped (nat : UdpNat) (drop : UdpNode nat.Key → Bool) (w : UdpWorld) (b : Nat) : Prop :=
  ∃ n x, (w.nodes nat).record n = some x ∧ x.session = b ∧ drop x = true

/-- An iteration over a whole session table. -/
theorem UdpInv.sweep_activity (inv : UdpInv cfg w .idle) (drop : UdpNode nat.Key → Bool) :
    UdpUsed none w ((w.nodes nat).table.foldl (udpVisit cfg nat drop) w) ∧
      UdpFrees (UdpDropped nat drop w) w ((w.nodes nat).table.foldl (udpVisit cfg nat drop) w) := by
  obtain ⟨after, swept⟩ := inv.sweep drop (List.nil_append _).symm
  refine ⟨fun side n x atN => Or.inr ⟨fun _ => by simp, ?_⟩, ?_⟩
  · by_cases here : side = nat
    · subst here
      have listed := (after.links.live side n).mp (by rw [atN]; rfl)
      rw [swept.table, List.nil_append, List.mem_filter] at listed
      rw [← swept.stays n fun both => by simp [both.2] at listed]
      exact atN
    · rw [swept.others side here] at atN
      exact atN
  · obtain ⟨effects, trace, freed⟩ := swept.trace
    refine ⟨effects, trace, fun b member => ?_⟩
    obtain ⟨n, _, x, atN, back, dropped⟩ := freed b member
    exact ⟨n, x, atN, back, dropped⟩

/-- Of a table exactly the nodes that `drop` does not pick are left. -/
theorem UdpInv.sweep_table (inv : UdpInv cfg w .idle) (drop : UdpNode nat.Key → Bool) :
    let w' := (w.nodes nat).table.foldl (udpVisit cfg nat drop) w
    (w'.nodes nat).table = (w.nodes nat).table.filter (fun n => !w.drops nat drop n) ∧
      (∀ n ∈ (w'.nodes nat).table, (w'.nodes nat).record n = (w.nodes nat).record n) ∧
      (∀ side, side ≠ nat → w'.nodes side = w.nodes side) ∧ w'.tproxy = w.tproxy := by
  obtain ⟨after, swept⟩ := inv.sweep drop (List.nil_append _).symm
  refine ⟨swept.table, fun n listed => swept.stays n fun both => ?_, swept.others, swept.tproxy⟩
  rw [swept.table, List.nil_append, List.mem_filter] at listed
  simp [both.2] at listed

/-- After a tick at `now` each table has exactly its entries that were not idle
for the timeout, with their records as before. -/
structure UdpGcExact (cfg : UdpConfig) (now : EvTstamp) (w w' : UdpWorld) : Prop where
  table : ∀ nat, (w'.nodes nat).table = (w.nodes nat).table.filter fun n =>
    now - w.lastActive nat n < cfg.idletimeoutSec * tstampSecond
  record : ∀ nat, ∀ n ∈ (w'.nodes nat).table, (w'.nodes nat).record n = (w.nodes nat).record n
  tproxyTable : w'.tproxy.table = w.tproxy.table.filter fun n =>
    now - w.tproxyLastActive n < cfg.idletimeoutSec * tstampSecond / 2
  tproxyRecord : ∀ n ∈ w'.tproxy.table, w'.tproxy.record n = w.tproxy.record n

/-- The nodes that a sweep keeps, by their activity. -/
theorem UdpInv.filter_idle (inv : UdpInv cfg w .idle) (nat : UdpNat) (now timeout : EvTstamp) :
    ((w.nodes nat).table.filter fun n =>
        !w.drops nat (fun node => udpGcIsIdle now node.lastActive timeout) n) =
      (w.nodes nat).table.filter fun n => now - w.lastActive nat n < timeout := by
  refine List.filter_congr fun n listed => ?_
  obtain ⟨x, atN⟩ := Option.isSome_iff_exists.mp ((inv.links.live nat n).mpr listed)
  simp only [UdpWorld.drops, UdpWorld.lastActive, atN, Option.any_some, Option.map_some,
    Option.getD_some, udpGcIsIdle, ← decide_not, ge_iff_le, Int.not_le]

/-- The tproxy entries that a sweep keeps, by their activity. -/
theorem UdpInv.filter_tproxyIdle (inv : UdpInv cfg w .idle) (now timeout : EvTstamp) :
    (w.tproxy.table.filter fun n => !w.tproxyIdle now timeout n) =
      w.tproxy.table.filter fun n => now - w.tproxyLastActive n < timeout := by
  refine List.filter_congr fun n listed => ?_
  have live := (inv.tproxy.live n).mpr (List.mem_append_left _ listed)
  obtain ⟨entry, atN⟩ := Option.isSome_iff_exists.mp live
  simp only [UdpWorld.tproxyIdle, UdpWorld.tproxyLastActive, atN, Option.any_some, Option.map_some,
    Option.getD_some, udpGcIsIdle, ← decide_not, ge_iff_le, Int.not_le]

/-- A sweep of one session table, by activity. -/
theorem UdpInv.gc_sweep (inv : UdpInv cfg w .idle) (nat : UdpNat) (now timeout : EvTstamp) :
    let w' := udpGcSweepSessions cfg nat now timeout w
    (w'.nodes nat).table = ((w.nodes nat).table.filter fun n => now - w.lastActive nat n < timeout) ∧
      (∀ n ∈ (w'.nodes nat).table, (w'.nodes nat).record n = (w.nodes nat).record n) ∧
      (∀ side, side ≠ nat → w'.nodes side = w.nodes side) ∧ w'.tproxy = w.tproxy ∧
      UdpUsed none w w' ∧
      UdpFrees (UdpDropped nat (fun node => udpGcIsIdle now node.lastActive timeout) w) w w' := by
  have swept := inv.sweep_table fun node : UdpNode nat.Key => udpGcIsIdle now node.lastActive timeout
  have activity := inv.sweep_activity fun node : UdpNode nat.Key => udpGcIsIdle now node.lastActive timeout
  rw [← udpGcVisitSession_eq] at swept activity
  obtain ⟨table, record, others, tproxy⟩ := swept
  exact ⟨table.trans (inv.filter_idle nat now timeout), record, others, tproxy, activity⟩

theorem UdpInv.gc_exact (inv : UdpInv cfg w .idle) (now : EvTstamp) :
    UdpGcExact cfg now w (udpGcOnTick cfg w now) ∧ UdpUsed none w (udpGcOnTick cfg w now) ∧
      UdpFrees (fun b => ∃ nat, UdpDropped nat
        (fun node => udpGcIsIdle now node.lastActive (cfg.idletimeoutSec * tstampSecond)) w b) w
        (udpGcOnTick cfg w now) := by
  obtain ⟨table₁, record₁, others₁, tproxy₁, used₁, frees₁⟩ :=
    inv.gc_sweep .fullcone now (cfg.idletimeoutSec * tstampSecond)
  have inv₁ := inv.sweep_sessions .fullcone now (cfg.idletimeoutSec * tstampSecond)
  unfold udpGcOnTick
  dsimp only
  generalize udpGcSweepSessions cfg .fullcone now (cfg.idletimeoutSec * tstampSecond) w = w₁ at *
  obtain ⟨table₂, record₂, others₂, tproxy₂, used₂, frees₂⟩ :=
    inv₁.gc_sweep .symmetric now (cfg.idletimeoutSec * tstampSecond)
  have inv₂ := inv₁.sweep_sessions .symmetric now (cfg.idletimeoutSec * tstampSecond)
  generalize udpGcSweepSessions cfg .symmetric now (cfg.idletimeoutSec * tstampSecond) w₁ = w₂ at *
  obtain ⟨table₃, record₃, quiet⟩ := udpTproxy_swept cfg now (udpGcTproxyTimeout cfg)
    (List.nil_append w₂.tproxy.table).symm (List.nodup_append.mp inv₂.tproxy.nodup).1
  have tproxy := tproxy₂.trans tproxy₁
  have cone : w₂.nodes .fullcone = w₁.nodes .fullcone := others₂ .fullcone (by decide)
  have pair : w₁.nodes .symmetric = w.nodes .symmetric := others₁ .symmetric (by decide)
  have kept := inv₂.filter_tproxyIdle now (udpGcTproxyTimeout cfg)
  unfold udpGcSweepTproxyEntries
  generalize w₂.tproxy.table.foldl (udpGcVisitTproxy cfg now (udpGcTproxyTimeout cfg)) w₂ = w₃ at *
  refine ⟨⟨fun nat => ?_, fun nat n listed => ?_, ?_, fun n listed => ?_⟩,
    (used₁.trans used₂).trans quiet.used, ?_⟩
  · rw [quiet.nodes]
    cases nat with
    | fullcone => rw [cone, table₁]
    | symmetric =>
      have order : w₁.lastActive .symmetric = w.lastActive .symmetric := by
        unfold UdpWorld.lastActive
        rw [pair]
      rw [table₂, order, pair]
  · rw [quiet.nodes] at listed ⊢
    cases nat with
    | fullcone =>
      rw [cone] at listed ⊢
      exact record₁ n listed
    | symmetric =>
      rw [record₂ n listed, pair]
  · rw [List.nil_append, kept] at table₃
    simp only [table₃, UdpWorld.tproxyLastActive, tproxy]
    rfl
  · rw [← tproxy]
    refine record₃ n fun both => ?_
    rw [table₃, List.nil_append, List.mem_filter] at listed
    simp [both.2] at listed
  · refine UdpFrees.trans (frees₁.mono fun b dropped => ⟨.fullcone, dropped⟩)
      (UdpFrees.trans (frees₂.mono fun b dropped => ⟨.symmetric, ?_⟩) (quiet.frees_any _))
    obtain ⟨n, x, atN, back⟩ := dropped
    exact ⟨n, x, by rw [← pair]; exact atN, back⟩

end Tproxy
