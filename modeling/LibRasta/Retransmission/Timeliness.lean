/-
Module: LibRasta/Retransmission/Timeliness.lean
source: src/c/retransmission/safety_retransmission.c, src/c/retransmission/handlers.c, src/c/rasta_init.c
digest: When the supervision of a connection keeps to the age of what it accepts: the timer runs with a fixed interval, so only messages without any age are supervised in time.
-/

import LibRasta.Retransmission.Constants
import LibRasta.Retransmission.Delivery
import LibRasta.Retransmission.Handshake
import Mathlib.Order.Monotone.Basic

set_option autoImplicit false
set_option relaxedAutoImplicit false

namespace LibRasta.Retransmission

open LibRasta.Lib
open LibRasta.Util
open LibRasta.Factory

section Calls

variable (P : Platform)

/-- The age `sr_update_timeout_interval` computes for a confirmed timestamp, with `reading` as the
clock reading it takes. -/
def messageAge (reading : ℕ) (confirmedTimestamp : UInt32) : UInt32 :=
  UInt32.ofNat (reading / 10 ^ 6) + UInt32.ofNat (1000 / P.clkTck) - confirmedTimestamp

/-- A call of `sr_update_timeout_interval` keeps to the age of the message: it is at most `t_max`,
`t_i` is what is left of `t_max`, and `timeout_event` is due when `t_i` has passed. -/
def TimelyCall (con : Connection) (confirmedTimestamp : UInt32) : Prop :=
  let age := messageAge P (con.clock con.clockReads) confirmedTimestamp
  let after := srUpdateTimeoutInterval P con confirmedTimestamp
  age ≤ con.config.tMax ∧
    (after.tI.toNat = con.config.tMax.toNat - age.toNat ∧ after.tI ≤ con.config.tMax) ∧
    after.timeoutEvent.enabled = true ∧
    after.timeoutEvent.lastCall.toNat + after.timeoutEvent.interval.toNat ≤
      con.clock con.clockReads + after.tI.toNat * 10 ^ 6

instance (con : Connection) (confirmedTimestamp : UInt32) :
    Decidable (TimelyCall P con confirmedTimestamp) :=
  inferInstanceAs (Decidable (_ ∧ _))

/-- The connection at every call of `sr_update_timeout_interval` in the loop of
`sr_add_app_messages_to_buffer`. -/
def deliveryCalls (packet : RastaPacket) : List Bytes → Connection → List Connection
  | [], _ => []
  | message :: rest, con =>
    if fifoFull con.fifoReceive then []
    else
      { con with fifoReceive := (fifoPush con.fifoReceive message).2 } ::
        deliveryCalls packet rest (addAppMessage P con packet message)

/-- A heartbeat or Data PDU that is accepted in state UP. -/
def AcceptedInUp (con : Connection) (packet : RastaPacket) : Prop :=
  con.aborted = false ∧ ReachesHandler P con packet ∧ InSequence con packet ∧
    con.currentState = .up ∧ (packet.type = .hb ∨ packet.type = .data)

instance (con : Connection) (packet : RastaPacket) : Decidable (AcceptedInUp P con packet) :=
  inferInstanceAs (Decidable (_ ∧ _))

/-- A PDU whose messages are delivered to the application. -/
def AcceptedMessages (con : Connection) (packet : RastaPacket) : Prop :=
  con.aborted = false ∧ ReachesHandler P con packet ∧ InSequence con packet ∧
    DeliversIn con packet

instance (con : Connection) (packet : RastaPacket) :
    Decidable (AcceptedMessages P con packet) :=
  inferInstanceAs (Decidable (_ ∧ _))

/-- The connection at every call of `sr_update_timeout_interval` for an accepted packet. -/
def timeoutCalls (con : Connection) (packet : RastaPacket) : List Connection :=
  let con := (srRekeyingSkipped P con).2
  if packet.type = .hb then [con]
  else deliveryCalls P packet (extractMessageData P packet) con

/-- What a step accepts in state UP is supervised according to its age, and no message it delivers
is older than `t_max`. -/
def TimelyStep (con : Connection) : Event → Prop
  | .receive packet =>
    (AcceptedInUp P con packet →
      ∀ call ∈ timeoutCalls P con packet, TimelyCall P call packet.confirmedTimestamp) ∧
    (AcceptedMessages P con packet →
      ∀ call ∈ timeoutCalls P con packet,
        messageAge P (call.clock call.clockReads) packet.confirmedTimestamp ≤ call.config.tMax)
  | _ => True

instance (con : Connection) (event : Event) : Decidable (TimelyStep P con event) :=
  match event with
  | .receive _ => inferInstanceAs (Decidable (_ ∧ _))
  | .dataSend | .heartbeat | .connectionExpired | .timedKeyExchange | .send _ | .connect _
  | .connectReturn | .disconnect | .transportClosed | .recv | .accept | .acceptReturn =>
    inferInstanceAs (Decidable True)

/-- How often `sr_update_timeout_interval` runs: once for a heartbeat, and once for every message
the receive queue has room for. -/
def timeoutCallCount (con : Connection) (packet : RastaPacket) : ℕ :=
  if packet.type = .hb then 1
  else min (extractMessageData P packet).length
    (con.fifoReceive.maxSize - con.fifoReceive.items.length)

/-- Which reading of the clock the `i`-th of these calls takes; a message takes three readings. -/
def timeoutReading (con : Connection) (i : ℕ) : ℕ :=
  (srRekeyingSkipped P con).2.clockReads + 3 * i

/-- The message has no age at a clock reading, and no time passes until the next reading. -/
def Ageless (clock : ℕ → ℕ) (reading : ℕ) (confirmedTimestamp : UInt32) : Prop :=
  messageAge P (clock reading) confirmedTimestamp = 0 ∧ clock (reading + 1) = clock reading

instance (clock : ℕ → ℕ) (reading : ℕ) (confirmedTimestamp : UInt32) :
    Decidable (Ageless P clock reading confirmedTimestamp) :=
  inferInstanceAs (Decidable (_ ∧ _))

/-- A packet accepted in state UP has no age at any of the readings taken for it, and the timer is
enabled; a retransmitted packet is not older than `t_max`. -/
def AgelessStep (con : Connection) : Event → Prop
  | .receive packet =>
    (AcceptedInUp P con packet →
      ∀ i < timeoutCallCount P con packet, con.timeoutEvent.enabled = true ∧
        Ageless P con.clock (timeoutReading P con i) packet.confirmedTimestamp) ∧
    (AcceptedMessages P con packet → packet.type = .retrData →
      ∀ i < timeoutCallCount P con packet,
        messageAge P (con.clock (timeoutReading P con i)) packet.confirmedTimestamp ≤
          con.config.tMax)
  | _ => True

instance (con : Connection) (event : Event) : Decidable (AgelessStep P con event) :=
  match event with
  | .receive _ => inferInstanceAs (Decidable (_ ∧ _))
  | .dataSend | .heartbeat | .connectionExpired | .timedKeyExchange | .send _ | .connect _
  | .connectReturn | .disconnect | .transportClosed | .recv | .accept | .acceptReturn =>
    inferInstanceAs (Decidable True)

end Calls

section Equivalence

variable {P : Platform} {con : Connection} {confirmedTimestamp : UInt32} {packet : RastaPacket}

/-- What `CLOCK_MONOTONIC` promises: it never runs backwards, and its nanoseconds fit into 64
bits. -/
structure SteadyClock (clock : ℕ → ℕ) : Prop where
  mono : Monotone clock
  lt : ∀ reading, clock reading < 2 ^ 64

/-- The timer runs with the interval `init_connection_timeout_event` gave it. -/
def FixedInterval (con : Connection) : Prop :=
  con.timeoutEvent.interval = con.config.tMax.toUInt64 * 1000000

theorem FixedInterval.toNat (h : FixedInterval con) :
    con.timeoutEvent.interval.toNat = con.config.tMax.toNat * 10 ^ 6 := by
  have hlt := con.config.tMax.toNat_lt
  rw [h, UInt64.toNat_mul, UInt32.toNat_toUInt64]
  have hmillion : (1000000 : UInt64).toNat = 10 ^ 6 := rfl
  rw [hmillion]
  omega

/-- Since the interval is `t_max` whatever the age, the timer keeps to the age only of a message
that has none. -/
theorem timelyCall_iff (hclock : SteadyClock con.clock) (hinterval : FixedInterval con) :
    TimelyCall P con confirmedTimestamp ↔
      con.timeoutEvent.enabled = true ∧
        Ageless P con.clock con.clockReads confirmedTimestamp := by
  have hnext := hclock.mono (Nat.le_succ con.clockReads)
  have hlt := hclock.lt (con.clockReads + 1)
  have hti : (srUpdateTimeoutInterval P con confirmedTimestamp).tI =
      con.config.tMax - messageAge P (con.clock con.clockReads) confirmedTimestamp := rfl
  have hlast : (srUpdateTimeoutInterval P con confirmedTimestamp).timeoutEvent =
      { con.timeoutEvent with lastCall := UInt64.ofNat (con.clock (con.clockReads + 1)) } := rfl
  have hlastNat : (UInt64.ofNat (con.clock (con.clockReads + 1))).toNat =
      con.clock (con.clockReads + 1) := by
    rw [UInt64.toNat_ofNat']
    omega
  have hduration := hinterval.toNat
  unfold TimelyCall Ageless
  simp only [hti, hlast, hlastNat, hduration]
  generalize messageAge P (con.clock con.clockReads) confirmedTimestamp = age
  generalize con.clock (con.clockReads + 1) = next at *
  generalize con.clock con.clockReads = now at *
  have hle : age ≤ con.config.tMax ↔ age.toNat ≤ con.config.tMax.toNat := UInt32.le_iff_toNat_le
  have hzero : age = 0 ↔ age.toNat = 0 := UInt32.toNat_inj.symm
  rw [hle, hzero]
  constructor
  · rintro ⟨hage, ⟨hleft, -⟩, henabled, hdue⟩
    rw [hleft] at hdue
    refine ⟨henabled, ?_, ?_⟩
    · omega
    · omega
  · rintro ⟨henabled, hage, hstill⟩
    have hleft : (con.config.tMax - age).toNat = con.config.tMax.toNat := by
      rw [hzero.mpr hage, UInt32.sub_zero]
    refine ⟨by omega, ⟨by omega, UInt32.le_iff_toNat_le.mpr (by omega)⟩, henabled, ?_⟩
    rw [hleft]
    omega

theorem DeliveryFrame.timelyCall_iff {call : Connection} (h : DeliveryFrame con call)
    (hclock : SteadyClock con.clock) (hinterval : FixedInterval con) :
    TimelyCall P call confirmedTimestamp ↔
      con.timeoutEvent.enabled = true ∧
        Ageless P con.clock call.clockReads confirmedTimestamp := by
  have hsameClock : call.clock = con.clock := by rw [h.rest]
  have henabled : call.timeoutEvent.enabled = con.timeoutEvent.enabled := by rw [h.rest]
  have hsameInterval : call.timeoutEvent.interval = con.timeoutEvent.interval := by rw [h.rest]
  have hcall : FixedInterval call := by
    unfold FixedInterval
    rw [hsameInterval, h.config]
    exact hinterval
  rw [← hsameClock] at hclock
  rw [LibRasta.Retransmission.timelyCall_iff hclock hcall, henabled, hsameClock]

theorem DeliveryFrame.messageAge_le_iff {call : Connection} (h : DeliveryFrame con call) :
    messageAge P (call.clock call.clockReads) confirmedTimestamp ≤ call.config.tMax ↔
      messageAge P (con.clock call.clockReads) confirmedTimestamp ≤ con.config.tMax := by
  have hsameClock : call.clock = con.clock := by rw [h.rest]
  rw [hsameClock, h.config]

/-- The loop ends with what its last call leaves. -/
theorem addAppMessages_eq_lastCall (packet : RastaPacket) (messages : List Bytes)
    (con : Connection) :
    addAppMessages P packet messages con =
      ((deliveryCalls P packet messages con).getLast?.map fun call =>
        srDiagnosticUpdate P (srUpdateTimeoutInterval P call packet.confirmedTimestamp)
          packet).getD con := by
  induction messages generalizing con with
  | nil => rfl
  | cons message rest ih =>
    rw [addAppMessages, deliveryCalls]
    split
    · rfl
    · rw [ih, List.getLast?_cons]
      cases (deliveryCalls P packet rest (addAppMessage P con packet message)).getLast? with
      | none => rfl
      | some call => rfl

/-- The calls for the messages of a packet differ only in what delivery changes, and the clock is
read three times from one to the next. -/
theorem forall_deliveryCalls_iff {property : Connection → Prop} {atReading : ℕ → Prop}
    (messages : List Bytes)
    (h : ∀ call, DeliveryFrame con call → (property call ↔ atReading call.clockReads)) :
    (∀ call ∈ deliveryCalls P packet messages con, property call) ↔
      ∀ i < min messages.length (con.fifoReceive.maxSize - con.fifoReceive.items.length),
        atReading (con.clockReads + 3 * i) := by
  induction messages generalizing con with
  | nil => simp [deliveryCalls]
  | cons message rest ih =>
    rw [deliveryCalls]
    cases hfull : fifoFull con.fifoReceive with
    | true =>
      have hlen := fifoFull_eq_true.mp hfull
      simp [hlen]
    | false =>
      have hroom := fifoFull_eq_false.mp hfull
      have hnext := addAppMessage_frame P con packet message
      have hitems : (addAppMessage P con packet message).fifoReceive.items =
          con.fifoReceive.items ++ [message] := (fifoPush_of_room hroom message).2
      have hmax : (addAppMessage P con packet message).fifoReceive.maxSize =
          con.fifoReceive.maxSize := fifoPush_maxSize _ _
      have hreads : (addAppMessage P con packet message).clockReads = con.clockReads + 3 := rfl
      have hfirst := h { con with fifoReceive := (fifoPush con.fifoReceive message).2 }
        ⟨rfl, le_refl _⟩
      have hrest := ih (fun call hcall => h call (hnext.trans hcall))
      have hcount : min (message :: rest).length
          (con.fifoReceive.maxSize - con.fifoReceive.items.length) =
          min rest.length ((addAppMessage P con packet message).fifoReceive.maxSize -
            (addAppMessage P con packet message).fifoReceive.items.length) + 1 := by
        rw [hitems, hmax, List.length_append, List.length_cons, List.length_singleton]
        omega
      rw [if_neg Bool.false_ne_true, List.forall_mem_cons, hfirst, hrest, hcount,
        Nat.forall_lt_succ_left, hreads]
      refine and_congr Iff.rfl (forall_congr' fun i => imp_congr_right fun _ => ?_)
      have hreading : con.clockReads + 3 + 3 * i = con.clockReads + 3 * (i + 1) := by omega
      rw [hreading]

theorem srRekeyingSkipped_frame (P : Platform) (con : Connection) :
    DeliveryFrame con (srRekeyingSkipped P con).2 := by
  unfold srRekeyingSkipped
  split
  · exact .refl con
  · exact ⟨rfl, Nat.le_succ _⟩

/-- The same for all the calls an accepted packet leads to. -/
theorem forall_timeoutCalls_iff (P : Platform) (con : Connection) (packet : RastaPacket)
    (property : Connection → Prop) (atReading : ℕ → Prop)
    (h : ∀ call, DeliveryFrame con call → (property call ↔ atReading call.clockReads)) :
    (∀ call ∈ timeoutCalls P con packet, property call) ↔
      ∀ i < timeoutCallCount P con packet, atReading (timeoutReading P con i) := by
  have hskipped := srRekeyingSkipped_frame P con
  have hqueue : (srRekeyingSkipped P con).2.fifoReceive = con.fifoReceive := by
    obtain ⟨reads, hreads⟩ := srRekeyingSkipped_snd P con
    rw [hreads]
  unfold timeoutCalls timeoutCallCount timeoutReading
  simp only
  split
  · rw [List.forall_mem_singleton, h _ hskipped]
    simp
  · rw [forall_deliveryCalls_iff _ fun call hcall => h call (hskipped.trans hcall), hqueue]

/-- In a step from a connection with the interval of its configuration, the timer keeps to the age
of what is accepted exactly when nothing accepted has any. -/
theorem timelyStep_iff (hclock : SteadyClock con.clock) (hinterval : FixedInterval con)
    (event : Event) : TimelyStep P con event ↔ AgelessStep P con event := by
  cases event with
  | receive packet =>
    have hcalls := forall_timeoutCalls_iff P con packet
      (fun call => TimelyCall P call packet.confirmedTimestamp)
      (fun reading => con.timeoutEvent.enabled = true ∧
        Ageless P con.clock reading packet.confirmedTimestamp)
      fun call hcall => hcall.timelyCall_iff hclock hinterval
    have hages := forall_timeoutCalls_iff P con packet
      (fun call => messageAge P (call.clock call.clockReads) packet.confirmedTimestamp ≤
        call.config.tMax)
      (fun reading => messageAge P (con.clock reading) packet.confirmedTimestamp ≤
        con.config.tMax)
      fun call hcall => hcall.messageAge_le_iff
    show (_ → _) ∧ (_ → _) ↔ (_ → _) ∧ (_ → _ → _)
    rw [hcalls, hages]
    refine and_congr_right fun hup => imp_congr_right fun haccepted => ?_
    constructor
    · intro hage _
      exact hage
    · intro hage
      obtain ⟨haborted, hreach, hseq, ⟨htype, hstate⟩ | ⟨htype, -⟩⟩ := haccepted
      · intro i hi
        have hageless := hup ⟨haborted, hreach, hseq, hstate, .inr htype⟩ i hi
        rw [hageless.2.1]
        exact UInt32.le_iff_toNat_le.mpr (Nat.zero_le _)
      · exact hage htype
  | _ => exact Iff.rfl

end Equivalence

section Runs

variable (P : Platform)

/-- Neither the clock nor the interval of the timer changes in a run. -/
theorem run_fixedInterval (config : RastaConfigInfo) (clock : ℕ → ℕ) (events : List Event) :
    FixedInterval (run (endpointStep P) (rastaLibInitConfiguration config clock) events) ∧
      (run (endpointStep P) (rastaLibInitConfiguration config clock) events).clock = clock := by
  have hfixed := run_fixed P (rastaLibInitConfiguration config clock) events
  refine ⟨?_, hfixed.clock⟩
  unfold FixedInterval
  rw [hfixed.timeoutInterval, hfixed.config]
  rfl

/-- Nothing supervises the age of a message: all that a run accepts is timely exactly when it never
accepts a packet in state UP that has any age, and no retransmitted packet older than `t_max`. -/
theorem run_timely_iff (config : RastaConfigInfo) {clock : ℕ → ℕ} (hclock : SteadyClock clock)
    (events : List Event) :
    RunOk (endpointStep P) (TimelyStep P) (rastaLibInitConfiguration config clock) events ↔
      RunOk (endpointStep P) (AgelessStep P) (rastaLibInitConfiguration config clock) events := by
  refine forall_congr' fun t => forall_congr' fun ht => ?_
  obtain ⟨front, -, -, hbefore, -⟩ := mem_trace _ ht
  obtain ⟨hinterval, hsame⟩ := run_fixedInterval P config clock front
  rw [hbefore]
  apply timelyStep_iff
  · rw [hsame]
    exact hclock
  · exact hinterval

end Runs

/-- A clock that advances with every second reading. -/
def exampleClock (reading : ℕ) : ℕ := (5000 + 400 * min ((reading + 1) / 2) 1000) * 10 ^ 6

theorem exampleClock_steady : SteadyClock exampleClock where
  mono := by
    intro a b h
    unfold exampleClock
    omega
  lt := by
    intro reading
    unfold exampleClock
    omega

/-- A heartbeat of the peer with a given number and confirmed timestamp. -/
def exampleStampedHeartbeat (sequenceNumber confirmedTimestamp : UInt32) : RastaPacket :=
  { exampleEarlyHeartbeat with
    sequenceNumber := sequenceNumber
    confirmedSequenceNumber := 101
    confirmedTimestamp := confirmedTimestamp }

/-- The client reads 6600 when the heartbeat arrives, and adds the 10 ms of a clock tick. -/
theorem run_timely_iff_ageless :
    RunOk (endpointStep referencePlatform) (TimelyStep referencePlatform)
      (rastaLibInitConfiguration exampleConfig exampleClock)
      [.connect true, .receive exampleConnResp, .receive (exampleStampedHeartbeat 1 6610)] :=
  (run_timely_iff referencePlatform exampleConfig exampleClock_steady _).mpr (by decide +kernel)

/-- The peer stopped hearing the client after the connection request, so it confirms the timestamp
5400 of the request for good. -/
def exampleUnheardRun : List Event :=
  [.connect true, .receive exampleConnResp, .receive (exampleStampedHeartbeat 1 5400),
    .receive (exampleStampedHeartbeat 2 5400), .receive (exampleStampedHeartbeat 3 5400)]

def exampleLateData : RastaPacket :=
  { exampleStampedHeartbeat 4 5400 with
    type := .data
    data := exampleData.data }

/-- Every heartbeat restarts the timer with the full interval, and a message 2810 ms old is
delivered where `t_max` is 1800 ms. -/
theorem late_message_delivered :
    let con := run (endpointStep referencePlatform)
      (rastaLibInitConfiguration exampleConfig exampleClock) exampleUnheardRun
    AcceptedInUp referencePlatform con exampleLateData ∧
      (timeoutCalls referencePlatform con exampleLateData).map (fun call =>
        (messageAge referencePlatform (call.clock call.clockReads) 5400, call.config.tMax)) =
          [(2810, 1800)] ∧
      (endpointStep referencePlatform con (.receive exampleLateData)).fifoReceive.items =
        con.fifoReceive.items ++ [[0x68, 0x69]] ∧
      (endpointStep referencePlatform con (.receive exampleLateData)).tI = 4294966286 ∧
      ¬ RunOk (endpointStep referencePlatform) (TimelyStep referencePlatform)
        (rastaLibInitConfiguration exampleConfig exampleClock)
        (exampleUnheardRun ++ [.receive exampleLateData]) := by
  decide +kernel

end LibRasta.Retransmission
