/-
Module: LibRasta/Retransmission/Diagnostics.lean
source: src/c/retransmission/safety_retransmission.c
digest: The diagnostics of round-trip times. No call counts its message in the interval that contains the round-trip time, and from the first full window on every call fires the notification.
-/

import LibRasta.Lib.Runs
import LibRasta.Retransmission.SafetyRetransmission

set_option autoImplicit false
set_option relaxedAutoImplicit false

namespace LibRasta.Retransmission

open LibRasta.Lib
open LibRasta.Util

section Translation

/-- `DIAGNOSTIC_INTERVAL_SIZE`. -/
def diagnosticIntervalSize : UInt32 := 500

/-- `sr_diagnostic_interval_init`. -/
def srDiagnosticIntervalInit (con : Connection) : Connection :=
  let whole := con.config.tMax / diagnosticIntervalSize
  let diagnosticIntervalLength :=
    if con.config.tMax % diagnosticIntervalSize > 0 then whole + 1 else whole
  { con with
    receivedDiagnosticMessageCount := 0
    diagnosticIntervals := (List.range diagnosticIntervalLength.toNat).map fun i =>
      let intervalStart := diagnosticIntervalSize * UInt32.ofNat i
      { intervalStart := intervalStart
        intervalEnd := intervalStart + diagnosticIntervalSize
        messageCount := 0
        tAliveMessageCount := 0 } }

variable (P : Platform)

/-- `t_rtd` in `sr_diagnostic_update`. -/
def tRtd (con : Connection) (receivedPacket : RastaPacket) : UInt64 :=
  (curTimestamp con).toUInt64 + UInt64.ofNat (1000 / P.clkTck) -
    receivedPacket.confirmedTimestamp.toUInt64

/-- `t_alive` in `sr_diagnostic_update`. -/
def tAlive (con : Connection) : UInt64 := (curTimestamp con).toUInt64 - con.ctsR.toUInt64

/-- `sr_diagnostic_update` calls `fire_on_diagnostic_notification`. -/
def FiresDiagnostic (con : Connection) : Prop :=
  con.receivedDiagnosticMessageCount + 1 ≥ con.config.diagWindow

instance (con : Connection) : Decidable (FiresDiagnostic con) :=
  inferInstanceAs (Decidable (_ ≥ _))

end Translation

section Specification

/-- The interval contains the time. -/
def DiagnosticInterval.Contains (interval : DiagnosticInterval) (time : UInt64) : Prop :=
  interval.intervalStart.toUInt64 ≤ time ∧ time < interval.intervalEnd.toUInt64

def messageCounts (intervals : List DiagnosticInterval) : List UInt32 :=
  intervals.map DiagnosticInterval.messageCount

variable (P : Platform)

/-- The call counts its message in the one interval that contains the round-trip time; the
counters are those before a reset. -/
def CountsOnce (con : Connection) (receivedPacket : RastaPacket) : Prop :=
  ∃ i interval, con.diagnosticIntervals[i]? = some interval ∧
    interval.Contains (tRtd P con receivedPacket) ∧
    (∀ j other, con.diagnosticIntervals[j]? = some other →
      other.Contains (tRtd P con receivedPacket) → j = i) ∧
    messageCounts
        (countInterval (tRtd P con receivedPacket) (tAlive con) con.diagnosticIntervals) =
      (messageCounts con.diagnosticIntervals).modify i (· + 1)

/-- The calls after the last one that reset the counters. -/
def callsSinceReset (history : List (Step Connection RastaPacket)) : ℕ :=
  (sinceLast (fun t => FiresDiagnostic t.before) history).length

/-- What the diagnostics are to do in a run of calls. -/
structure DiagnosticsCount (con : Connection) (packets : List RastaPacket) : Prop where
  counts : ∀ t ∈ trace (srDiagnosticUpdate P) con packets, CountsOnce P t.before t.event
  sums : ∀ front back, packets = front ++ back →
    ((messageCounts (run (srDiagnosticUpdate P) con front).diagnosticIntervals).map
        UInt32.toNat).sum =
      callsSinceReset (trace (srDiagnosticUpdate P) con front)
  fires : ∀ k t, (trace (srDiagnosticUpdate P) con packets)[k]? = some t →
    (FiresDiagnostic t.before ↔ con.config.diagWindow.toNat ∣ k + 1)

end Specification

section Counting

variable (P : Platform) {con : Connection} {time : UInt64}

/-- An interval that contains the time is passed over: the test compares the other way round. -/
theorem countInterval_of_contains (alive : UInt64) {intervals : List DiagnosticInterval} {i : ℕ}
    {interval : DiagnosticInterval} (hget : intervals[i]? = some interval)
    (hcontains : interval.Contains time) :
    (messageCounts (countInterval time alive intervals))[i]? = some interval.messageCount := by
  induction intervals generalizing i with
  | nil => simp at hget
  | cons head rest ih =>
    unfold countInterval
    cases i with
    | zero =>
      obtain rfl : head = interval := by simpa using hget
      have hpassed : ¬ (head.intervalStart.toUInt64 ≥ time ∧ head.intervalEnd.toUInt64 ≤ time) :=
        fun h => UInt64.not_le.mpr hcontains.2 h.2
      simp [messageCounts, hpassed]
    | succ i =>
      have hrest : rest[i]? = some interval := by simpa using hget
      split
      · simp [messageCounts, hrest]
      · simpa [messageCounts] using ih hrest

theorem not_countsOnce (con : Connection) (receivedPacket : RastaPacket) :
    ¬ CountsOnce P con receivedPacket := by
  rintro ⟨i, interval, hget, hcontains, -, hcounted⟩
  have hsame := countInterval_of_contains (tAlive con) hget hcontains
  rw [hcounted, List.getElem?_modify_eq, messageCounts, List.getElem?_map, hget] at hsame
  simp at hsame

end Counting

section Firing

variable (P : Platform)

/-- The counter of calls is never reset. -/
theorem trace_messageCount {con : Connection} {packets : List RastaPacket} {k : ℕ}
    {t : Step Connection RastaPacket}
    (ht : (trace (srDiagnosticUpdate P) con packets)[k]? = some t) :
    t.before.receivedDiagnosticMessageCount =
        con.receivedDiagnosticMessageCount + UInt32.ofNat k ∧
      t.before.config = con.config := by
  induction packets generalizing con k with
  | nil => simp [trace] at ht
  | cons packet rest ih =>
    cases k with
    | zero =>
      obtain rfl : _ = t := by simpa [trace] using ht
      simp
    | succ k =>
      obtain ⟨hcount, hconfig⟩ := ih (by simpa [trace] using ht)
      refine ⟨?_, hconfig⟩
      have hone : (srDiagnosticUpdate P con packet).receivedDiagnosticMessageCount =
          con.receivedDiagnosticMessageCount + 1 := rfl
      rw [hcount, hone, UInt32.ofNat_add, UInt32.add_assoc, UInt32.add_comm 1]
      rfl

/-- From the first full window on every call fires, until the counter wraps around. -/
theorem fires_iff {con : Connection} {packets : List RastaPacket} {k : ℕ}
    {t : Step Connection RastaPacket}
    (ht : (trace (srDiagnosticUpdate P) (srDiagnosticIntervalInit con) packets)[k]? = some t) :
    FiresDiagnostic t.before ↔ con.config.diagWindow.toNat ≤ (k + 1) % 2 ^ 32 := by
  obtain ⟨hcount, hconfig⟩ := trace_messageCount P ht
  have hstart : (srDiagnosticIntervalInit con).receivedDiagnosticMessageCount = 0 := rfl
  have hsame : (srDiagnosticIntervalInit con).config = con.config := rfl
  rw [FiresDiagnostic, hcount, hconfig, hstart, hsame, ge_iff_le, UInt32.le_iff_toNat_le,
    UInt32.toNat_add, UInt32.toNat_add, UInt32.toNat_ofNat', UInt32.toNat_zero,
    UInt32.toNat_one]
  omega

end Firing

theorem sum_messageCounts_init (con : Connection) :
    ((messageCounts (srDiagnosticIntervalInit con).diagnosticIntervals).map
      UInt32.toNat).sum = 0 := by
  apply List.sum_eq_zero
  intro count hcount
  simp only [messageCounts, srDiagnosticIntervalInit, List.mem_map] at hcount
  obtain ⟨_, ⟨_, ⟨_, -, rfl⟩, rfl⟩, rfl⟩ := hcount
  rfl

/-- On a connection prepared by `sr_diagnostic_interval_init` the diagnostics do what they are to
do only as long as there was no call, and call `n` fires exactly if the window is at most `n`
modulo 2^32. -/
theorem diagnosticsCount_iff (P : Platform) (con : Connection) (packets : List RastaPacket) :
    (DiagnosticsCount P (srDiagnosticIntervalInit con) packets ↔ packets = []) ∧
      ∀ k t, (trace (srDiagnosticUpdate P) (srDiagnosticIntervalInit con) packets)[k]? = some t →
        (FiresDiagnostic t.before ↔ con.config.diagWindow.toNat ≤ (k + 1) % 2 ^ 32) := by
  refine ⟨⟨fun h => ?_, ?_⟩, fun k t ht => fires_iff P ht⟩
  · cases packets with
    | nil => rfl
    | cons packet rest =>
      exact absurd (h.counts _ List.mem_cons_self) (not_countsOnce P _ _)
  · rintro rfl
    refine ⟨by simp [trace], fun front back hsplit => ?_, by simp [trace]⟩
    obtain ⟨rfl, -⟩ := List.append_eq_nil_iff.mp hsplit.symm
    exact sum_messageCounts_init con

/-- A connection with a window of two messages, and three messages that took 10 ms each. -/
def exampleDiagnostics : Connection :=
  srDiagnosticIntervalInit
    (rastaLibInitConfiguration { exampleConfig with diagWindow := 2 } fun _ => 0)

/-- The round-trip times lie in the first interval, which counts none of them, and the third call
fires again. -/
theorem diagnosticsCount_fails :
    0 < exampleDiagnostics.config.tMax ∧ 0 < exampleDiagnostics.config.diagWindow ∧
      (∀ t ∈ trace (srDiagnosticUpdate referencePlatform) exampleDiagnostics
          [zeroPacket, zeroPacket, zeroPacket],
        tRtd referencePlatform t.before t.event = 10) ∧
      exampleDiagnostics.diagnosticIntervals.map (·.intervalEnd) = [500, 1000, 1500, 2000] ∧
      messageCounts (run (srDiagnosticUpdate referencePlatform) exampleDiagnostics
        [zeroPacket]).diagnosticIntervals = [0, 0, 0, 0] ∧
      (trace (srDiagnosticUpdate referencePlatform) exampleDiagnostics
          [zeroPacket, zeroPacket, zeroPacket]).map (fun t => decide (FiresDiagnostic t.before)) =
        [false, true, true] ∧
      ¬ DiagnosticsCount referencePlatform exampleDiagnostics
        [zeroPacket, zeroPacket, zeroPacket] := by
  refine ⟨by decide, by decide, by decide +kernel, by decide +kernel, by decide +kernel,
    by decide +kernel, fun h => ?_⟩
  exact not_countsOnce referencePlatform _ _ (h.counts _ List.mem_cons_self)

end LibRasta.Retransmission
