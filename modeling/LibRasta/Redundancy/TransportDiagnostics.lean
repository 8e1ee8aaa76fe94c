/-
Module: LibRasta/Redundancy/TransportDiagnostics.lean
source: src/c/transport/diagnostics.c, src/c/redundancy/rastaredundancy.c, src/c/transport/events.c
digest: The number of missed PDUs that is reported at the end of a window. It is what the other transport channels put into the shared buffer since it was last cleared, less the PDUs of the channel's own window that the buffer does not hold.
-/

import Mathlib.Data.Finset.Card
import LibRasta.Lib.Runs
import LibRasta.Redundancy.ExactlyOnce

set_option autoImplicit false
set_option relaxedAutoImplicit false

namespace LibRasta.Redundancy

open LibRasta.Lib
open LibRasta.Util
open LibRasta.Retransmission

section Translation

/-- The test in `run_channel_diagnostics` for the end of the window of a transport channel. -/
def WindowOver (endpoint : Endpoint) (channelId : ℕ) : Prop :=
  let startTime := ((endpoint.channel.transportChannels[channelId]?).map
    DiagnosticsData.startTime).getD 0
  (curTimestamp endpoint.con).toUInt64 - startTime ≥ UInt64.ofInt endpoint.con.config.nDiagnose

instance (endpoint : Endpoint) (channelId : ℕ) : Decidable (WindowOver endpoint channelId) :=
  inferInstanceAs (Decidable (_ ≥ _))

/-- `n_missed` as `run_channel_diagnostics` passes it to `red_call_on_diagnostic`. -/
def diagnosticsReport (endpoint : Endpoint) (channelId : ℕ) : Option Int :=
  if WindowOver endpoint channelId then
    (endpoint.channel.transportChannels[channelId]?).map fun diagnostics =>
      let missedCount := toCInt
        (endpoint.channel.diagnosticsPacketBuffer.count - diagnostics.receivedPackets)
      diagnostics.nMissed + missedCount
  else none

/-- What happens to a redundancy channel: a PDU arrives on a transport channel, what is due is
delivered, the diagnostics of a transport channel run, the channel is connected anew, or
something else changes the connection. -/
inductive ChannelEvent where
  | arrive (channelId : ℕ) (packet : RastaRedundancyPacket)
  | deliver
  | check (channelId : ℕ)
  | connect
  | elsewhere (con : Connection)

variable (P : Platform)

def channelStep (endpoint : Endpoint) : ChannelEvent → Endpoint
  | .arrive channelId packet => (dispatchPdu P endpoint channelId packet).1
  | .deliver => (redFDeliverDeferQueue P endpoint).1
  | .check channelId => runChannelDiagnostics endpoint channelId
  | .connect => redundancyChannelInit endpoint
  | .elsewhere con => { endpoint with con := con }

end Translation

section Specification

/-- The PDU is one of the peer's, and its checksum is correct. -/
def Identified (endpoint : Endpoint) (packet : RastaRedundancyPacket) : Prop :=
  endpoint.channel.associatedId = packet.data.senderId.toUInt64 ∧ packet.checksumCorrect = true

/-- The PDU counts as received. -/
def CountsAsReceived (endpoint : Endpoint) (packet : RastaRedundancyPacket) : Prop :=
  Identified endpoint packet ∧ deferqueueIsfull endpoint.channel.deferQ = false

/-- Another copy came more than `t_seq` before. -/
def ComesLate (endpoint : Endpoint) (packet : RastaRedundancyPacket) : Prop :=
  packet.sequenceNumber.toUInt64 < endpoint.channel.seqRx ∧
    let ts := deferqueueGetTs endpoint.channel.diagnosticsPacketBuffer
      packet.sequenceNumber.toUInt64
    ts ≠ 0 ∧ (curTimestamp endpoint.con).toUInt64 - ts > endpoint.con.config.tSeq.toUInt64

/-- The PDU is the next one, and the diagnostics buffer has room for it. -/
def FitsBuffer (endpoint : Endpoint) (packet : RastaRedundancyPacket) : Prop :=
  packet.sequenceNumber.toUInt64 = endpoint.channel.seqRx ∧
    deferqueueIsfull endpoint.channel.diagnosticsPacketBuffer = false

instance (endpoint : Endpoint) (packet : RastaRedundancyPacket) :
    Decidable (Identified endpoint packet) :=
  inferInstanceAs (Decidable (_ ∧ _))

instance (endpoint : Endpoint) (packet : RastaRedundancyPacket) :
    Decidable (CountsAsReceived endpoint packet) :=
  inferInstanceAs (Decidable (_ ∧ _))

instance (endpoint : Endpoint) (packet : RastaRedundancyPacket) :
    Decidable (ComesLate endpoint packet) :=
  inferInstanceAs (Decidable (_ ∧ _ ∧ _))

instance (endpoint : Endpoint) (packet : RastaRedundancyPacket) :
    Decidable (FitsBuffer endpoint packet) :=
  inferInstanceAs (Decidable (_ ∧ _))

/-- The PDU counts as received on one of the transport channels and has the property. -/
def Receives (ids : ℕ → Prop) (prop : Endpoint → RastaRedundancyPacket → Prop)
    (t : Step Endpoint ChannelEvent) : Prop :=
  match t.event with
  | .arrive channelId packet =>
    ids channelId ∧ CountsAsReceived t.before packet ∧ prop t.before packet
  | _ => False

instance (ids : ℕ → Prop) [DecidablePred ids]
    (prop : Endpoint → RastaRedundancyPacket → Prop) [∀ e p, Decidable (prop e p)]
    (t : Step Endpoint ChannelEvent) : Decidable (Receives ids prop t) :=
  match t with
  | ⟨_, .arrive _ _, _⟩ => inferInstanceAs (Decidable (_ ∧ _ ∧ _))
  | ⟨_, .deliver, _⟩ => inferInstanceAs (Decidable False)
  | ⟨_, .check _, _⟩ => inferInstanceAs (Decidable False)
  | ⟨_, .connect, _⟩ => inferInstanceAs (Decidable False)
  | ⟨_, .elsewhere _, _⟩ => inferInstanceAs (Decidable False)

/-- The window of the transport channel ends. -/
def EndsWindow (channelId : ℕ) (t : Step Endpoint ChannelEvent) : Prop :=
  match t.event with
  | .check checked => checked = channelId ∧ WindowOver t.before checked
  | _ => False

instance (channelId : ℕ) (t : Step Endpoint ChannelEvent) : Decidable (EndsWindow channelId t) :=
  match t with
  | ⟨_, .arrive _ _, _⟩ => inferInstanceAs (Decidable False)
  | ⟨_, .deliver, _⟩ => inferInstanceAs (Decidable False)
  | ⟨_, .check _, _⟩ => inferInstanceAs (Decidable (_ ∧ _))
  | ⟨_, .connect, _⟩ => inferInstanceAs (Decidable False)
  | ⟨_, .elsewhere _, _⟩ => inferInstanceAs (Decidable False)

/-- The diagnostics buffer is cleared: at the end of any window, and when connecting. -/
def ClearsBuffer (t : Step Endpoint ChannelEvent) : Prop :=
  match t.event with
  | .check channelId => WindowOver t.before channelId
  | .connect => True
  | _ => False

instance (t : Step Endpoint ChannelEvent) : Decidable (ClearsBuffer t) :=
  match t with
  | ⟨_, .arrive _ _, _⟩ => inferInstanceAs (Decidable False)
  | ⟨_, .deliver, _⟩ => inferInstanceAs (Decidable False)
  | ⟨before, .check channelId, _⟩ => inferInstanceAs (Decidable (WindowOver before channelId))
  | ⟨_, .connect, _⟩ => inferInstanceAs (Decidable True)
  | ⟨_, .elsewhere _, _⟩ => inferInstanceAs (Decidable False)

variable (channelId : ℕ) (history : List (Step Endpoint ChannelEvent))

/-- The steps since the last window of the transport channel ended. -/
def window : List (Step Endpoint ChannelEvent) := sinceLast (EndsWindow channelId) history

/-- The steps since the diagnostics buffer was last cleared. -/
def bufferWindow : List (Step Endpoint ChannelEvent) := sinceLast ClearsBuffer history

/-- The steps of the window before the buffer was last cleared. -/
def clearedWindow : List (Step Endpoint ChannelEvent) :=
  (window channelId history).take
    ((window channelId history).length - (bufferWindow history).length)

/-- The PDUs that came late in the window. -/
def late : ℕ := (window channelId history).countP (Receives (· = channelId) ComesLate)

/-- The PDUs that did not. -/
def onTime : ℕ :=
  (window channelId history).countP (Receives (· = channelId) fun e p => ¬ ComesLate e p)

/-- The PDUs that entered the buffer since it was last cleared. -/
def buffered : ℕ := (bufferWindow history).countP (Receives (fun _ => True) FitsBuffer)

/-- Those of them that came from other transport channels. -/
def bufferedByOthers : ℕ := (bufferWindow history).countP (Receives (· ≠ channelId) FitsBuffer)

/-- The PDUs that came on time in the window but are not in the buffer: they never entered it, or
it was cleared since. -/
def unbuffered : ℕ :=
  (clearedWindow channelId history).countP
      (Receives (· = channelId) fun e p => ¬ ComesLate e p) +
    (bufferWindow history).countP
      (Receives (· = channelId) fun e p => ¬ ComesLate e p ∧ ¬ FitsBuffer e p)

/-- The number of a PDU that arrives in the step. -/
def arrivedNumber (t : Step Endpoint ChannelEvent) : Option UInt32 :=
  match t.event with
  | .arrive _ packet => if Identified t.before packet then some packet.sequenceNumber else none
  | _ => none

/-- The PDUs that count as received on some transport channel in the window. -/
def arrivals : ℕ := (window channelId history).countP (Receives (fun _ => True) fun _ _ => True)

/-- How many distinct PDUs arrived on all transport channels in the window. -/
def distinctArrivals : ℕ := ((window channelId history).filterMap arrivedNumber).toFinset.card

/-- The numbers of the PDUs that entered the buffer since it was last cleared. -/
def bufferedNumbers : List UInt32 :=
  ((bufferWindow history).filter (Receives (fun _ => True) FitsBuffer)).filterMap arrivedNumber

end Specification

section OneStep

variable (P : Platform)

/-- The counters of a transport channel that a report is computed from. -/
def tally (channel : RedundancyChannel) (channelId : ℕ) : Option (Int × Int) :=
  (channel.transportChannels[channelId]?).map fun diagnostics =>
    (diagnostics.receivedPackets, diagnostics.nMissed)

theorem tally_update {update : DiagnosticsData → DiagnosticsData}
    (counters : Int × Int → Int × Int)
    (h : ∀ diagnostics : DiagnosticsData,
      ((update diagnostics).receivedPackets, (update diagnostics).nMissed) =
        counters (diagnostics.receivedPackets, diagnostics.nMissed))
    (channel : RedundancyChannel) (updated channelId : ℕ) :
    tally (updateDiagnostics channel updated update) channelId =
      (tally channel channelId).map fun t => if updated = channelId then counters t else t := by
  unfold tally updateDiagnostics
  by_cases hid : updated = channelId
  · rw [← hid, List.getElem?_modify_eq, Option.map_map]
    simp [Function.comp_def, h]
  · rw [List.getElem?_modify_ne _ _ hid, Option.map_map]
    simp [Function.comp_def, hid]

variable {endpoint : Endpoint} {packet : RastaRedundancyPacket}

theorem recordDelay_tally (hold : packet.sequenceNumber.toUInt64 < endpoint.channel.seqRx)
    (arrived channelId : ℕ) :
    tally (recordDelay endpoint packet arrived).channel channelId =
      (tally endpoint.channel channelId).map fun t =>
        (t.1, t.2 + if arrived = channelId ∧ ComesLate endpoint packet then 1 else 0) := by
  unfold recordDelay
  simp only
  split
  · rename_i habsent
    have hlate : ¬ ComesLate endpoint packet := fun h => h.2.1 habsent
    simp [hlate]
  · rename_i hpresent
    by_cases hdelay : (curTimestamp endpoint.con).toUInt64 -
        deferqueueGetTs endpoint.channel.diagnosticsPacketBuffer
          packet.sequenceNumber.toUInt64 > endpoint.con.config.tSeq.toUInt64
    · have hlate : ComesLate endpoint packet := ⟨hold, hpresent, hdelay⟩
      rw [tally_update (fun t => (t.1, t.2 + 1)) (fun d => by simp [hdelay])]
      congr 1
      funext t
      by_cases hid : arrived = channelId <;> simp [hid, hlate]
    · have hlate : ¬ ComesLate endpoint packet := fun h => hdelay h.2.2
      rw [tally_update (fun t => t) (fun d => by simp [hdelay])]
      simp [hlate]

theorem recordDelay_buffer (endpoint : Endpoint) (packet : RastaRedundancyPacket) (arrived : ℕ) :
    (recordDelay endpoint packet arrived).channel.diagnosticsPacketBuffer =
      endpoint.channel.diagnosticsPacketBuffer := by
  unfold recordDelay
  simp only
  split <;> rfl

theorem classifyPdu_tally (arrived channelId : ℕ) :
    tally (classifyPdu P endpoint packet arrived).1.channel channelId =
      (tally endpoint.channel channelId).map fun t =>
        (t.1, t.2 + if arrived = channelId ∧ ComesLate endpoint packet then 1 else 0) := by
  by_cases hold : packet.sequenceNumber.toUInt64 < endpoint.channel.seqRx
  · have hfirst : ¬ (endpoint.channel.seqRx = 0 ∧ endpoint.con.seqTx = 0 ∧
        packet.sequenceNumber ≠ 0) := by
      rintro ⟨hzero, -, -⟩
      rw [hzero] at hold
      exact absurd hold UInt64.not_lt_zero
    unfold classifyPdu
    rw [if_neg hfirst, if_pos hold]
    exact recordDelay_tally hold arrived channelId
  · have hlate : ¬ ComesLate endpoint packet := fun h => hold h.1
    have hsame : (classifyPdu P endpoint packet arrived).1.channel.transportChannels =
        endpoint.channel.transportChannels := by
      unfold classifyPdu
      rw [if_neg hold]
      repeat' split
      all_goals rfl
    simp [tally, hsame, hlate, Function.comp_def]

/-- Counting a PDU as received does not make it late. -/
theorem comesLate_update (arrived : ℕ) (update : DiagnosticsData → DiagnosticsData) :
    ComesLate { endpoint with channel := updateDiagnostics endpoint.channel arrived update }
      packet ↔ ComesLate endpoint packet :=
  Iff.rfl

theorem classifyPdu_buffer (arrived : ℕ) :
    (classifyPdu P endpoint packet arrived).1.channel.diagnosticsPacketBuffer.count =
      endpoint.channel.diagnosticsPacketBuffer.count +
        if FitsBuffer endpoint packet then 1 else 0 := by
  by_cases hnext : packet.sequenceNumber.toUInt64 = endpoint.channel.seqRx
  · have hfirst : ¬ (endpoint.channel.seqRx = 0 ∧ endpoint.con.seqTx = 0 ∧
        packet.sequenceNumber ≠ 0) := by
      rintro ⟨hzero, -, hnonzero⟩
      rw [hzero] at hnext
      exact hnonzero (UInt32.toUInt64_inj.mp hnext)
    have hold : ¬ packet.sequenceNumber.toUInt64 < endpoint.channel.seqRx := by
      rw [hnext]
      exact UInt64.lt_irrefl _
    unfold classifyPdu
    rw [if_neg hfirst, if_neg hold, if_pos hnext]
    change (deferqueueAdd P endpoint.channel.diagnosticsPacketBuffer packet _).2.count = _
    by_cases hfull : endpoint.channel.diagnosticsPacketBuffer.count =
        endpoint.channel.diagnosticsPacketBuffer.maxCount
    · rw [deferqueueAdd_of_full P hfull]
      simp [FitsBuffer, deferqueueIsfull, hfull]
    · rw [deferqueueAdd_count P hfull]
      simp [FitsBuffer, deferqueueIsfull, hfull, hnext]
  · have hfits : ¬ FitsBuffer endpoint packet := fun h => hnext h.1
    have hsame : (classifyPdu P endpoint packet arrived).1.channel.diagnosticsPacketBuffer =
        endpoint.channel.diagnosticsPacketBuffer := by
      unfold classifyPdu
      rw [if_neg hnext]
      repeat' split
      all_goals first | rfl | exact recordDelay_buffer endpoint packet arrived
    rw [hsame, if_neg hfits, Nat.add_zero]

theorem dispatchPdu_of_counts (h : CountsAsReceived endpoint packet) (arrived : ℕ) :
    dispatchPdu P endpoint arrived packet =
      classifyPdu P
        { endpoint with
          channel := updateDiagnostics endpoint.channel arrived fun diagnostics =>
            { diagnostics with receivedPackets := diagnostics.receivedPackets + 1 } }
        packet arrived := by
  obtain ⟨⟨hsender, hchecksum⟩, hroom⟩ := h
  unfold dispatchPdu redFReceiveData
  rw [if_pos hsender, hroom, if_neg Bool.false_ne_true, if_pos hchecksum]

theorem dispatchPdu_of_not_counts (h : ¬ CountsAsReceived endpoint packet) (arrived : ℕ) :
    (dispatchPdu P endpoint arrived packet).1 = endpoint := by
  unfold dispatchPdu redFReceiveData
  by_cases hsender : endpoint.channel.associatedId = packet.data.senderId.toUInt64
  · by_cases hroom : deferqueueIsfull endpoint.channel.deferQ = true
    · simp [hsender, hroom]
    · have hchecksum : ¬ packet.checksumCorrect = true :=
        fun hchecksum => h ⟨⟨hsender, hchecksum⟩, by simpa using hroom⟩
      simp [hsender, hroom, hchecksum]
  · simp [hsender]

/-- What the arrival of a PDU adds to the counters. -/
theorem dispatchPdu_tally (arrived channelId : ℕ) :
    tally (dispatchPdu P endpoint arrived packet).1.channel channelId =
      (tally endpoint.channel channelId).map fun t =>
        (t.1 + if arrived = channelId ∧ CountsAsReceived endpoint packet then 1 else 0,
          t.2 + if arrived = channelId ∧ CountsAsReceived endpoint packet ∧
            ComesLate endpoint packet then 1 else 0) := by
  by_cases hcounts : CountsAsReceived endpoint packet
  · rw [dispatchPdu_of_counts P hcounts, classifyPdu_tally,
      tally_update (fun t => (t.1 + 1, t.2)) (fun d => rfl), Option.map_map]
    congr 1
    funext t
    by_cases hid : arrived = channelId <;> simp [hid, hcounts, comesLate_update]
  · simp [dispatchPdu_of_not_counts P hcounts, hcounts]

/-- What it adds to the diagnostics buffer. -/
theorem dispatchPdu_buffer (arrived : ℕ) :
    (dispatchPdu P endpoint arrived packet).1.channel.diagnosticsPacketBuffer.count =
      endpoint.channel.diagnosticsPacketBuffer.count +
        if CountsAsReceived endpoint packet ∧ FitsBuffer endpoint packet then 1 else 0 := by
  by_cases hcounts : CountsAsReceived endpoint packet
  · rw [dispatchPdu_of_counts P hcounts, classifyPdu_buffer]
    simp only [hcounts, true_and]
    rfl
  · simp [dispatchPdu_of_not_counts P hcounts, hcounts]

theorem redFDeliverDeferQueue_diagnostics (endpoint : Endpoint) :
    (redFDeliverDeferQueue P endpoint).1.channel.transportChannels =
        endpoint.channel.transportChannels ∧
      (redFDeliverDeferQueue P endpoint).1.channel.diagnosticsPacketBuffer =
        endpoint.channel.diagnosticsPacketBuffer := by
  refine deliverLoop_rule P
    (fun e (he : e.channel.transportChannels = endpoint.channel.transportChannels ∧
      e.channel.diagnosticsPacketBuffer = endpoint.channel.diagnosticsPacketBuffer) => he)
    ?_ _ endpoint false ⟨rfl, rfl⟩
  intro middle element hsame _ _
  obtain ⟨handover, -, hchannel⟩ := handOver_channel P middle element.packet
  constructor
  · intro _
    rw [hchannel]
    exact hsame
  · intro _
    unfold advance
    rw [hchannel]
    exact hsame

theorem runChannelDiagnostics_of_over {checked : ℕ} (h : WindowOver endpoint checked) :
    (runChannelDiagnostics endpoint checked).channel =
      { updateDiagnostics endpoint.channel checked fun _ =>
          { startTime := (curTimestamp (tick endpoint.con)).toUInt64
            nMissed := 0
            tDrift := 0
            tDrift2 := 0
            receivedPackets := 0 } with
        diagnosticsPacketBuffer := deferqueueClear endpoint.channel.diagnosticsPacketBuffer } :=
  congrArg Endpoint.channel (if_pos h)

theorem runChannelDiagnostics_of_not_over {checked : ℕ} (h : ¬ WindowOver endpoint checked) :
    (runChannelDiagnostics endpoint checked).channel = endpoint.channel := by
  have hrun : runChannelDiagnostics endpoint checked =
      { endpoint with con := tick endpoint.con } := if_neg h
  rw [hrun]

/-- At the end of its window a transport channel starts anew. -/
theorem runChannelDiagnostics_tally (endpoint : Endpoint) (checked channelId : ℕ) :
    tally (runChannelDiagnostics endpoint checked).channel channelId =
      (tally endpoint.channel channelId).map fun t =>
        if checked = channelId ∧ WindowOver endpoint checked then (0, 0) else t := by
  by_cases hover : WindowOver endpoint checked
  · rw [runChannelDiagnostics_of_over hover]
    simp only [hover, and_true]
    exact tally_update (fun _ => (0, 0)) (fun _ => rfl) endpoint.channel checked channelId
  · rw [runChannelDiagnostics_of_not_over hover]
    simp [hover]

/-- At the end of any window the buffer is cleared. -/
theorem runChannelDiagnostics_buffer (endpoint : Endpoint) (checked : ℕ) :
    (runChannelDiagnostics endpoint checked).channel.diagnosticsPacketBuffer.count =
      if WindowOver endpoint checked then 0
      else endpoint.channel.diagnosticsPacketBuffer.count := by
  by_cases hover : WindowOver endpoint checked
  · rw [runChannelDiagnostics_of_over hover, if_pos hover]
    rfl
  · rw [runChannelDiagnostics_of_not_over hover, if_neg hover]

end OneStep

section Runs

variable (P : Platform)

variable {channelId : ℕ} {history : List (Step Endpoint ChannelEvent)}

theorem onTime_snoc (t : Step Endpoint ChannelEvent) :
    onTime channelId (history ++ [t]) =
      if EndsWindow channelId t then 0
      else onTime channelId history +
        if Receives (· = channelId) (fun e p => ¬ ComesLate e p) t then 1 else 0 :=
  countP_sinceLast_snoc _ _ _

theorem late_snoc (t : Step Endpoint ChannelEvent) :
    late channelId (history ++ [t]) =
      if EndsWindow channelId t then 0
      else late channelId history + if Receives (· = channelId) ComesLate t then 1 else 0 :=
  countP_sinceLast_snoc _ _ _

theorem buffered_snoc (t : Step Endpoint ChannelEvent) :
    buffered (history ++ [t]) =
      if ClearsBuffer t then 0
      else buffered history + if Receives (fun _ => True) FitsBuffer t then 1 else 0 :=
  countP_sinceLast_snoc _ _ _

/-- The counters of a transport channel by what happened in its window. -/
def counters (channelId : ℕ) (history : List (Step Endpoint ChannelEvent)) : Int × Int :=
  (onTime channelId history + late channelId history, late channelId history)

/-- What the code counts: the PDUs of the own window, and those in the buffer. -/
structure Tallied (history : List (Step Endpoint ChannelEvent)) (endpoint : Endpoint) : Prop where
  channels : ∀ channelId t, tally endpoint.channel channelId = some t →
    t = counters channelId history
  buffer : endpoint.channel.diagnosticsPacketBuffer.count = buffered history

variable {endpoint : Endpoint}

theorem Tallied.channels_step (h : Tallied history endpoint) (event : ChannelEvent)
    {t : Int × Int} (ht : tally (channelStep P endpoint event).channel channelId = some t) :
    t = counters channelId
      (history ++ [⟨endpoint, event, channelStep P endpoint event⟩]) := by
  rw [counters, onTime_snoc, late_snoc]
  cases event with
  | arrive arrived packet =>
    rw [channelStep, dispatchPdu_tally] at ht
    obtain ⟨before, hbefore, rfl⟩ := Option.map_eq_some_iff.mp ht
    rw [h.channels channelId before hbefore, counters]
    by_cases hreceived : arrived = channelId ∧ CountsAsReceived endpoint packet
    · -- the PDU adds to one of the two counts
      by_cases hlate : ComesLate endpoint packet
      · simp [EndsWindow, Receives, hreceived, hlate]
        omega
      · simp [EndsWindow, Receives, hreceived, hlate]
        omega
    · have hnot : ∀ prop : Prop,
          ¬ (arrived = channelId ∧ CountsAsReceived endpoint packet ∧ prop) :=
        fun prop hall => hreceived ⟨hall.1, hall.2.1⟩
      simp [EndsWindow, Receives, hreceived, hnot]
  | deliver =>
    rw [channelStep, tally, (redFDeliverDeferQueue_diagnostics P endpoint).1] at ht
    exact h.channels channelId t ht
  | check checked =>
    rw [channelStep, runChannelDiagnostics_tally] at ht
    obtain ⟨before, hbefore, rfl⟩ := Option.map_eq_some_iff.mp ht
    by_cases hends : checked = channelId ∧ WindowOver endpoint checked
    · obtain ⟨rfl, hover⟩ := hends
      simp [EndsWindow, hover]
    · simpa [EndsWindow, Receives, hends, counters] using h.channels channelId before hbefore
  | connect => exact h.channels channelId t ht
  | elsewhere con => exact h.channels channelId t ht

theorem Tallied.buffer_step (h : Tallied history endpoint) (event : ChannelEvent) :
    (channelStep P endpoint event).channel.diagnosticsPacketBuffer.count =
      buffered (history ++ [⟨endpoint, event, channelStep P endpoint event⟩]) := by
  rw [buffered_snoc]
  cases event with
  | arrive arrived packet =>
    rw [channelStep, dispatchPdu_buffer, h.buffer]
    simp only [ClearsBuffer, Receives, if_false, true_and]
  | deliver =>
    rw [channelStep, (redFDeliverDeferQueue_diagnostics P endpoint).2, h.buffer]
    rfl
  | check checked =>
    rw [channelStep, runChannelDiagnostics_buffer, h.buffer]
    rfl
  | connect => rfl
  | elsewhere con => exact h.buffer

section Start

variable (config : RastaConfigInfo) (clock : ℕ → ℕ) (slots : ℕ → RastaRedundancyPacketWrapper)
  (transportChannelCount : ℕ)

theorem tallied_freshEndpoint :
    Tallied [] (freshEndpoint config clock slots transportChannelCount) := by
  refine ⟨fun channelId t ht => ?_, rfl⟩
  obtain ⟨diagnostics, hget, rfl⟩ := Option.map_eq_some_iff.mp ht
  rw [List.eq_of_mem_replicate (List.mem_of_getElem? hget)]
  rfl

/-- In every run the counters stand for what happened. -/
theorem tallied_run (events : List ChannelEvent) :
    Tallied
      (trace (channelStep P) (freshEndpoint config clock slots transportChannelCount) events)
      (run (channelStep P) (freshEndpoint config clock slots transportChannelCount) events) := by
  refine @trace_invariant _ _ (channelStep P) (fun _ _ => True) Tallied ?_ _ _
    (fun _ _ => trivial) (tallied_freshEndpoint config clock slots transportChannelCount)
  intro history endpoint event h _
  exact ⟨fun channelId t ht => h.channels_step P event ht, h.buffer_step P event⟩

end Start

end Runs

section Report

variable {channelId : ℕ} {history : List (Step Endpoint ChannelEvent)}

theorem countP_eq_add {α : Type} {p q r : α → Prop} [DecidablePred p] [DecidablePred q]
    [DecidablePred r] (h : ∀ a, p a ↔ q a ∨ r a) (hdisjoint : ∀ a, q a → ¬ r a) (l : List α) :
    l.countP p = l.countP q + l.countP r := by
  induction l with
  | nil => rfl
  | cons a l ih =>
    simp only [List.countP_cons, decide_eq_true_eq, ih, h a]
    have hnot := hdisjoint a
    by_cases hq : q a
    · simp only [hq, hnot hq, or_false, if_true, if_false]
      omega
    · simp only [hq, false_or, if_false]
      omega

theorem FitsBuffer.not_late {endpoint : Endpoint} {packet : RastaRedundancyPacket}
    (h : FitsBuffer endpoint packet) : ¬ ComesLate endpoint packet := by
  rintro ⟨hold, -⟩
  rw [h.1] at hold
  exact UInt64.lt_irrefl _ hold

/-- A property of received PDUs that splits into two does so step by step. -/
theorem receives_split {ids ids' ids'' : ℕ → Prop}
    {prop prop' prop'' : Endpoint → RastaRedundancyPacket → Prop}
    (h : ∀ c e p, ids c ∧ prop e p ↔ ids' c ∧ prop' e p ∨ ids'' c ∧ prop'' e p)
    (t : Step Endpoint ChannelEvent) :
    Receives ids prop t ↔ Receives ids' prop' t ∨ Receives ids'' prop'' t := by
  obtain ⟨before, event, after⟩ := t
  cases event with
  | arrive arrived packet =>
    have hsplit := h arrived before packet
    simp only [Receives]
    tauto
  | _ => simp [Receives]

theorem receives_disjoint {ids' ids'' : ℕ → Prop}
    {prop' prop'' : Endpoint → RastaRedundancyPacket → Prop}
    (h : ∀ c e p, ids' c ∧ prop' e p → ¬ (ids'' c ∧ prop'' e p))
    (t : Step Endpoint ChannelEvent) (ht : Receives ids' prop' t) : ¬ Receives ids'' prop'' t := by
  obtain ⟨before, event, after⟩ := t
  cases event with
  | arrive arrived packet =>
    exact fun ht' => h arrived before packet ⟨ht.1, ht.2.2⟩ ⟨ht'.1, ht'.2.2⟩
  | _ => exact ht.elim

variable (channelId history)

theorem endsWindow_clears {channelId : ℕ} (t : Step Endpoint ChannelEvent)
    (h : EndsWindow channelId t) : ClearsBuffer t := by
  obtain ⟨before, event, after⟩ := t
  cases event with
  | check checked => exact h.2
  | connect => trivial
  | _ => exact h.elim

theorem bufferWindow_suffix : bufferWindow history <:+ window channelId history :=
  sinceLast_suffix endsWindow_clears history

/-- The PDUs in the buffer and those of the window that are missing there are those that came on
time and those from other transport channels. -/
theorem buffered_add_unbuffered :
    buffered history + unbuffered channelId history =
      bufferedByOthers channelId history + onTime channelId history := by
  have hwindow : clearedWindow channelId history ++ bufferWindow history =
      window channelId history :=
    List.suffix_iff_eq_append.mp (bufferWindow_suffix channelId history)
  have honTime := countP_eq_add
    (@receives_split (· = channelId) (· = channelId) (· = channelId)
      (fun e p => ¬ ComesLate e p) FitsBuffer (fun e p => ¬ ComesLate e p ∧ ¬ FitsBuffer e p)
      fun c e p => by
        have hnot : FitsBuffer e p → ¬ ComesLate e p := FitsBuffer.not_late
        tauto)
    (receives_disjoint fun c e p hfits hnot => hnot.2.2 hfits.2) (bufferWindow history)
  have hbuffered := countP_eq_add
    (@receives_split (fun _ => True) (· = channelId) (· ≠ channelId) FitsBuffer FitsBuffer
      FitsBuffer fun c e p => by tauto)
    (receives_disjoint fun c e p hown hother => hother.1 hown.1) (bufferWindow history)
  unfold buffered unbuffered bufferedByOthers onTime
  rw [← hwindow, List.countP_append, honTime, hbuffered]
  omega

theorem receives_mono {ids ids' : ℕ → Prop} {prop prop' : Endpoint → RastaRedundancyPacket → Prop}
    (h : ∀ c e p, ids c ∧ prop e p → ids' c ∧ prop' e p) (t : Step Endpoint ChannelEvent)
    (ht : Receives ids prop t) : Receives ids' prop' t := by
  obtain ⟨before, event, after⟩ := t
  cases event with
  | arrive arrived packet =>
    obtain ⟨hids, hprop⟩ := h arrived before packet ⟨ht.1, ht.2.2⟩
    exact ⟨hids, ht.2.1, hprop⟩
  | _ => exact ht.elim

theorem onTime_add_late_le :
    onTime channelId history + late channelId history ≤ arrivals channelId history := by
  have hsplit := countP_eq_add
    (@receives_split (· = channelId) (· = channelId) (· = channelId) (fun _ _ => True)
      (fun e p => ¬ ComesLate e p) ComesLate fun c e p => by tauto)
    (receives_disjoint fun c e p hnot hlate => hnot.2 hlate.2) (window channelId history)
  unfold onTime late arrivals
  rw [← hsplit]
  refine List.countP_mono_left fun t _ ht => ?_
  exact decide_eq_true (receives_mono (fun _ _ _ _ => ⟨trivial, trivial⟩) t (of_decide_eq_true ht))

theorem buffered_le : buffered history ≤ arrivals channelId history := by
  refine Nat.le_trans (bufferWindow_suffix channelId history).countP_le ?_
  refine List.countP_mono_left fun t _ ht => ?_
  exact decide_eq_true (receives_mono (fun _ _ _ _ => ⟨trivial, trivial⟩) t (of_decide_eq_true ht))

theorem bufferedByOthers_le : bufferedByOthers channelId history ≤ buffered history := by
  refine List.countP_mono_left fun t _ ht => ?_
  exact decide_eq_true (receives_mono (fun _ _ _ h => ⟨trivial, h.2⟩) t (of_decide_eq_true ht))

/-- The report is the difference of two counts of PDUs. -/
theorem diagnosticsReport_eq {endpoint : Endpoint} (h : Tallied history endpoint)
    (hint : arrivals channelId history < 2 ^ 31) {n : Int}
    (hreport : diagnosticsReport endpoint channelId = some n) :
    n + unbuffered channelId history = bufferedByOthers channelId history := by
  unfold diagnosticsReport at hreport
  split at hreport
  · obtain ⟨diagnostics, hget, rfl⟩ := Option.map_eq_some_iff.mp hreport
    have htally := h.channels channelId (diagnostics.receivedPackets, diagnostics.nMissed)
      (Option.map_eq_some_iff.mpr ⟨diagnostics, hget, rfl⟩)
    obtain ⟨hreceived, hmissed⟩ := Prod.mk.inj htally
    have hsum := buffered_add_unbuffered channelId history
    have hown := onTime_add_late_le channelId history
    have hbuffer := buffered_le channelId history
    simp only [h.buffer, hreceived, hmissed, toCInt]
    omega
  · cases hreport

theorem arrivedNumber_of_receives {ids : ℕ → Prop}
    {prop : Endpoint → RastaRedundancyPacket → Prop} {t : Step Endpoint ChannelEvent}
    (h : Receives ids prop t) : (arrivedNumber t).isSome = true := by
  obtain ⟨before, event, after⟩ := t
  cases event with
  | arrive arrived packet =>
    have hidentified : Identified before packet := h.2.1.1
    simp [arrivedNumber, hidentified]
  | _ => exact h.elim

/-- As long as no number enters the buffer twice, it holds at most what arrived in the window. -/
theorem buffered_le_distinctArrivals (h : (bufferedNumbers history).Nodup) :
    buffered history ≤ distinctArrivals channelId history := by
  have hlength : (bufferedNumbers history).length = buffered history := by
    unfold bufferedNumbers buffered
    rw [List.countP_eq_length_filter, List.filterMap_length_eq_length]
    intro t ht
    exact arrivedNumber_of_receives (of_decide_eq_true (List.mem_filter.mp ht).2)
  have hsublist : (bufferedNumbers history).Sublist
      ((window channelId history).filterMap arrivedNumber) :=
    (List.filter_sublist.trans (bufferWindow_suffix channelId history).sublist).filterMap _
  rw [← hlength, ← List.toFinset_card_of_nodup h]
  apply Finset.card_le_card
  intro number hnumber
  exact List.mem_toFinset.mpr (hsublist.subset (List.mem_toFinset.mp hnumber))

end Report

section Reads

variable (P : Platform)

theorem receivePdu_run (endpoint : Endpoint) (channelId : ℕ) (buffer : Bytes) :
    ∃ events, (receivePdu P endpoint channelId buffer).1 = run (channelStep P) endpoint events := by
  let received := handleReceivedData P endpoint.con buffer (leShortToHost P buffer 0).toNat
  exact ⟨[.elsewhere (setLasterror endpoint received.2).con, .arrive channelId received.1], rfl⟩

theorem receiveLoop_run (channelId rounds lenRemaining : ℕ) (buffer : Bytes) (endpoint : Endpoint)
    (result : Bool) {received : Endpoint × Bool}
    (h : receiveLoop P channelId rounds lenRemaining buffer endpoint result = some received) :
    ∃ events, received.1 = run (channelStep P) endpoint events := by
  refine @receiveLoop_rule P (fun after _ => ∃ events, after = run (channelStep P) endpoint events)
    buffer channelId ?_ rounds lenRemaining 0 endpoint result received ⟨[], rfl⟩ h
  rintro middle _ place ⟨front, rfl⟩
  obtain ⟨back, hback⟩ := receivePdu_run P (run (channelStep P) endpoint front) channelId
    (buffer.drop place)
  refine ⟨front ++ back, ?_⟩
  rw [run_append]
  exact hback

/-- What a read does are events of the channel, and the diagnostics come first. -/
theorem channelReceiveEvent_run {rounds : ℕ} {endpoint after : Endpoint} {read : Read}
    (h : channelReceiveEvent P rounds endpoint read = some after) :
    after = endpoint ∨
      ∃ events, after = run (channelStep P) endpoint (.check read.channelId :: events) := by
  unfold channelReceiveEvent at h
  split at h
  · exact .inl (Option.some.inj h).symm
  · obtain ⟨received, hreceived, rfl⟩ := Option.map_eq_some_iff.mp h
    obtain ⟨events, hevents⟩ := receiveLoop_run P _ _ _ _ _ _ hreceived
    right
    unfold deliverAfter
    split
    · refine ⟨events ++ [.deliver], ?_⟩
      rw [run_cons, run_append, channelStep, ← hevents]
      rfl
    · exact ⟨events, hevents⟩

/-- Every state that reads lead to is reached by a run. -/
theorem receiveEvents_run {rounds : ℕ} {reads : List Read} {endpoint after : Endpoint}
    (h : receiveEvents P rounds endpoint reads = some after) :
    ∃ events, after = run (channelStep P) endpoint events := by
  induction reads generalizing endpoint with
  | nil =>
    obtain rfl := Option.some.inj h
    exact ⟨[], rfl⟩
  | cons read rest ih =>
    obtain ⟨middle, hmiddle, hrest⟩ := Option.bind_eq_some_iff.mp h
    obtain ⟨back, hback⟩ := ih hrest
    rcases channelReceiveEvent_run P hmiddle with rfl | ⟨front, hfront⟩
    · exact ⟨back, hback⟩
    · refine ⟨.check read.channelId :: front ++ back, ?_⟩
      rw [run_append, ← hfront]
      exact hback

end Reads

/-- What the diagnostics are to report if the window of the transport channel is over. -/
def PossibleReport (P : Platform) (start : Endpoint) (events : List ChannelEvent)
    (channelId : ℕ) : Prop :=
  ∀ n, diagnosticsReport (run (channelStep P) start events) channelId = some n →
    0 ≤ n ∧ n ≤ distinctArrivals channelId (trace (channelStep P) start events)

/-- In every run from a fresh endpoint with any number of transport channels, the number reported
at the end of a window lies between 0 and the number of distinct PDUs of the window exactly when
the PDUs of the window that the buffer lacks are at most those that other transport channels put
there, and these exceed them by at most that number. The latter holds unless a number entered the
buffer twice. -/
theorem diagnosticsReport_possible_iff (P : Platform) (config : RastaConfigInfo) (clock : ℕ → ℕ)
    (slots : ℕ → RastaRedundancyPacketWrapper) (transportChannelCount : ℕ) (start : Endpoint)
    (hstart : start = freshEndpoint config clock slots transportChannelCount)
    (events : List ChannelEvent) (history : List (Step Endpoint ChannelEvent))
    (hhistory : history = trace (channelStep P) start events) (channelId : ℕ)
    (hreport : (diagnosticsReport (run (channelStep P) start events) channelId).isSome = true)
    (hint : arrivals channelId history < 2 ^ 31) :
    (PossibleReport P start events channelId ↔
      unbuffered channelId history ≤ bufferedByOthers channelId history ∧
        bufferedByOthers channelId history ≤
          unbuffered channelId history + distinctArrivals channelId history) ∧
      ((bufferedNumbers history).Nodup →
        bufferedByOthers channelId history ≤ distinctArrivals channelId history) := by
  subst hstart hhistory
  have htallied := tallied_run P config clock slots transportChannelCount events
  obtain ⟨n, hn⟩ := Option.isSome_iff_exists.mp hreport
  have hdifference := diagnosticsReport_eq _ _ htallied hint hn
  refine ⟨⟨fun h => ?_, fun h m hm => ?_⟩, fun hnodup => ?_⟩
  · have hpossible := h n hn
    omega
  · obtain rfl : n = m := Option.some.inj (hn.symm.trans hm)
    omega
  · exact Nat.le_trans (bufferedByOthers_le _ _) (buffered_le_distinctArrivals _ _ hnodup)

section Example

/-- An endpoint with some transport channels; every reading of its clock takes 100 ms. -/
def exampleChannels (transportChannelCount : ℕ) : Endpoint :=
  freshEndpoint exampleConfig (fun k => (1000 + 100 * k) * 10 ^ 6)
    (fun _ => { packet := zeroRedundancyPacket, receivedTimestamp := 0 }) transportChannelCount

/-- The first PDU of the peer, decoded. -/
def exampleFirst : RastaRedundancyPacket :=
  Reception.packet referencePlatform { con := (exampleChannels 1).con, buffer := examplePdu 0 }

/-- With one transport channel and one PDU nothing is missed. -/
theorem diagnosticsReport_possible_iff_single :
    PossibleReport referencePlatform (exampleChannels 1)
      [.check 0, .arrive 0 exampleFirst, .deliver] 0 :=
  (diagnosticsReport_possible_iff referencePlatform _ _ _ _ (exampleChannels 1) rfl
    [.check 0, .arrive 0 exampleFirst, .deliver] _ rfl 0 (by decide +kernel)
    (by decide +kernel)).1.mpr (by decide +kernel)

/-- PDU 0 arrives once on each of two transport channels, and -1 is reported as missed on the
first. Arriving twice on the second it counts as two PDUs that the first one missed. -/
theorem diagnosticsReport_impossible :
    (receiveEvents referencePlatform 1 (exampleChannels 2)
        [exampleReadOn 0 0, exampleReadOn 1 0]).map
        (fun after => (after.con.aborted, diagnosticsReport after 0)) = some (false, some (-1)) ∧
      ¬ PossibleReport referencePlatform (exampleChannels 2)
        [.check 0, .arrive 0 exampleFirst, .deliver, .check 1, .arrive 1 exampleFirst] 0 ∧
      ¬ PossibleReport referencePlatform (exampleChannels 2)
        [.check 0, .check 1, .arrive 1 exampleFirst, .arrive 1 exampleFirst, .deliver] 0 := by
  refine ⟨by decide +kernel, fun h => ?_, fun h => ?_⟩
  · have hreport : diagnosticsReport (run (channelStep referencePlatform) (exampleChannels 2)
        [.check 0, .arrive 0 exampleFirst, .deliver, .check 1, .arrive 1 exampleFirst]) 0 =
        some (-1) := by decide +kernel
    exact absurd (h (-1) hreport).1 (by decide)
  · have hreport : diagnosticsReport (run (channelStep referencePlatform) (exampleChannels 2)
        [.check 0, .check 1, .arrive 1 exampleFirst, .arrive 1 exampleFirst, .deliver]) 0 =
        some 2 := by decide +kernel
    have hdistinct : distinctArrivals 0 (trace (channelStep referencePlatform) (exampleChannels 2)
        [.check 0, .check 1, .arrive 1 exampleFirst, .arrive 1 exampleFirst, .deliver]) = 1 := by
      decide +kernel
    have hle := (h 2 hreport).2
    rw [hdistinct] at hle
    exact absurd hle (by decide)

end Example

end LibRasta.Redundancy
