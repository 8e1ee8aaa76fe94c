/-
Module: LibRasta/Redundancy/Dispatch.lean
source: src/c/redundancy/rastaredundancy.c, src/c/redundancy/rasta_red_multiplexer.c
digest: What a received PDU does to the channel, as one relation with the exact condition for entering the defer queue, and the rules for reasoning about the delivery loop.
-/

import LibRasta.Redundancy.Channel

set_option autoImplicit false
set_option relaxedAutoImplicit false

namespace LibRasta.Redundancy

open LibRasta.Util
open LibRasta.Retransmission

/-- Receiving leaves the connection alone but for clock readings, and the channel but for its
queues and statistics. -/
structure ReceiveFrame (before after : Endpoint) : Prop where
  con : ∃ reads, after.con = { before.con with clockReads := reads }
  associatedId : after.channel.associatedId = before.channel.associatedId
  seqRx : after.channel.seqRx = before.channel.seqRx
  delivered : after.channel.delivered = before.channel.delivered

theorem ReceiveFrame.refl (endpoint : Endpoint) : ReceiveFrame endpoint endpoint :=
  ⟨⟨endpoint.con.clockReads, rfl⟩, rfl, rfl, rfl⟩

theorem ReceiveFrame.trans {a b c : Endpoint} (hab : ReceiveFrame a b)
    (hbc : ReceiveFrame b c) : ReceiveFrame a c := by
  obtain ⟨⟨reads, hb⟩, habId, habSeq, habDelivered⟩ := hab
  obtain ⟨⟨reads', hc⟩, hbcId, hbcSeq, hbcDelivered⟩ := hbc
  refine ⟨⟨reads', ?_⟩, hbcId.trans habId, hbcSeq.trans habSeq,
    hbcDelivered.trans habDelivered⟩
  rw [hc, hb]

/-- The rule that the first PDU of a session has number 0. -/
def FirstPduRule (endpoint : Endpoint) (packet : RastaRedundancyPacket) : Prop :=
  endpoint.channel.seqRx = 0 ∧ endpoint.con.seqTx = 0 ∧ packet.sequenceNumber ≠ 0

instance (endpoint : Endpoint) (packet : RastaRedundancyPacket) :
    Decidable (FirstPduRule endpoint packet) :=
  inferInstanceAs (Decidable (_ ∧ _))

/-- The PDU is the next one, or one ahead that is not queued yet. -/
def Wanted (endpoint : Endpoint) (packet : RastaRedundancyPacket) : Prop :=
  packet.sequenceNumber.toUInt64 = endpoint.channel.seqRx ∨
    endpoint.channel.seqRx < packet.sequenceNumber.toUInt64 ∧
      packet.sequenceNumber.toUInt64 ≤ windowEnd endpoint ∧
      deferqueueContains endpoint.channel.deferQ packet.sequenceNumber.toUInt64 = false

/-- The PDU enters the defer queue. -/
structure Enters (endpoint : Endpoint) (packet : RastaRedundancyPacket) : Prop where
  sender : endpoint.channel.associatedId = packet.data.senderId.toUInt64
  room : deferqueueIsfull endpoint.channel.deferQ = false
  checksum : packet.checksumCorrect = true
  notFirst : ¬ FirstPduRule endpoint packet
  wanted : Wanted endpoint packet

section Dispatch

variable (P : Platform)

/-- The two things that can become of a decoded PDU. -/
inductive Dispatched (endpoint : Endpoint) (packet : RastaRedundancyPacket) :
    Endpoint × Bool → Prop
  | discarded {after : Endpoint} (frame : ReceiveFrame endpoint after)
      (queue : after.channel.deferQ = endpoint.channel.deferQ)
      (why : ¬ Enters endpoint packet) : Dispatched endpoint packet (after, false)
  | queued {after : Endpoint} (frame : ReceiveFrame endpoint after) (recvTs : UInt64)
      (queue : after.channel.deferQ =
        (deferqueueAdd P endpoint.channel.deferQ packet recvTs).2)
      (why : Enters endpoint packet) :
      Dispatched endpoint packet
        (after, decide (packet.sequenceNumber.toUInt64 = endpoint.channel.seqRx))

variable {endpoint : Endpoint} {packet : RastaRedundancyPacket}

theorem recordDelay_frame (endpoint : Endpoint) (packet : RastaRedundancyPacket)
    (channelId : ℕ) :
    ReceiveFrame endpoint (recordDelay endpoint packet channelId) ∧
      (recordDelay endpoint packet channelId).channel.deferQ = endpoint.channel.deferQ := by
  unfold recordDelay
  simp only
  split
  · exact ⟨ReceiveFrame.refl endpoint, rfl⟩
  · exact ⟨⟨⟨_, rfl⟩, rfl, rfl, rfl⟩, rfl⟩

theorem updateDiagnostics_frame (endpoint : Endpoint) (channelId : ℕ)
    (update : DiagnosticsData → DiagnosticsData) :
    ReceiveFrame endpoint
      { endpoint with channel := updateDiagnostics endpoint.channel channelId update } :=
  ⟨⟨_, rfl⟩, rfl, rfl, rfl⟩

theorem classifyPdu_dispatched (channelId : ℕ)
    (hsender : endpoint.channel.associatedId = packet.data.senderId.toUInt64)
    (hroom : deferqueueIsfull endpoint.channel.deferQ = false)
    (hchecksum : packet.checksumCorrect = true) :
    Dispatched P endpoint packet (classifyPdu P endpoint packet channelId) := by
  have hadd : ∀ base : Endpoint, ReceiveFrame base (addToDeferQueue P base packet) :=
    fun base => ⟨⟨_, rfl⟩, rfl, rfl, rfl⟩
  have hrefl := ReceiveFrame.refl endpoint
  unfold classifyPdu
  split
  · rename_i hfirst
    exact .discarded hrefl rfl fun h => h.notFirst hfirst
  rename_i hfirst
  split
  · rename_i hold
    obtain ⟨hframe, hqueue⟩ := recordDelay_frame endpoint packet channelId
    refine .discarded hframe hqueue fun h => ?_
    rcases h.wanted with hnext | ⟨hahead, -⟩
    · exact absurd hold (by rw [hnext]; exact UInt64.lt_irrefl _)
    · exact absurd (UInt64.lt_trans hold hahead) (UInt64.lt_irrefl _)
  rename_i hold
  split
  · rename_i hnext
    have hdiagnostics : ReceiveFrame endpoint (addToDiagnostics P endpoint packet) :=
      ⟨⟨_, rfl⟩, rfl, rfl, rfl⟩
    have hentered : Enters endpoint packet :=
      ⟨hsender, hroom, hchecksum, hfirst, .inl hnext⟩
    have hqueued := Dispatched.queued (hdiagnostics.trans (hadd _)) _ rfl hentered
    simpa [hnext] using hqueued
  rename_i hnext
  have hahead : endpoint.channel.seqRx < packet.sequenceNumber.toUInt64 :=
    UInt64.lt_of_le_of_ne (UInt64.not_lt.mp hold) (Ne.symm hnext)
  split
  · rename_i hwindow
    split
    · rename_i hcontains
      refine .discarded hrefl rfl fun h => ?_
      rcases h.wanted with heq | ⟨-, -, habsent⟩
      · exact hnext heq
      · rw [hcontains] at habsent
        cases habsent
    · rename_i habsent
      rw [hroom, if_neg Bool.false_ne_true]
      have hentered : Enters endpoint packet :=
        ⟨hsender, hroom, hchecksum, hfirst, .inr ⟨hahead, hwindow, by simpa using habsent⟩⟩
      have hqueued := Dispatched.queued (hadd endpoint) _ rfl hentered
      simpa [hnext] using hqueued
  · rename_i hwindow
    refine .discarded hrefl rfl fun h => ?_
    rcases h.wanted with heq | ⟨-, hle, -⟩
    · exact hnext heq
    · exact hwindow hle

/-- The statistics kept in front of `classifyPdu` make no difference. -/
theorem Dispatched.of_diagnostics {result : Endpoint × Bool} {channelId : ℕ}
    {update : DiagnosticsData → DiagnosticsData}
    (h : Dispatched P
      { endpoint with channel := updateDiagnostics endpoint.channel channelId update } packet
      result) : Dispatched P endpoint packet result := by
  have hframe := updateDiagnostics_frame endpoint channelId update
  cases h with
  | discarded frame queue why =>
    exact .discarded (hframe.trans frame) queue fun h => why ⟨h.1, h.2, h.3, h.4, h.5⟩
  | queued frame recvTs queue why =>
    exact .queued (hframe.trans frame) recvTs queue ⟨why.1, why.2, why.3, why.4, why.5⟩

theorem dispatchPdu_dispatched (endpoint : Endpoint) (channelId : ℕ)
    (packet : RastaRedundancyPacket) :
    Dispatched P endpoint packet (dispatchPdu P endpoint channelId packet) := by
  unfold dispatchPdu
  split
  · rename_i hsender
    cases hroom : deferqueueIsfull endpoint.channel.deferQ with
    | true =>
      refine .discarded (ReceiveFrame.refl endpoint) rfl fun h => ?_
      rw [h.room] at hroom
      cases hroom
    | false =>
      simp only [Bool.false_eq_true, if_false]
      unfold redFReceiveData
      split
      · rename_i hchecksum
        refine Dispatched.of_diagnostics P (classifyPdu_dispatched P channelId ?_ ?_ hchecksum)
        · exact hsender
        · exact hroom
      · rename_i hchecksum
        exact .discarded (ReceiveFrame.refl endpoint) rfl fun h => hchecksum h.checksum
  · rename_i hsender
    exact .discarded (ReceiveFrame.refl endpoint) rfl fun h => hsender h.sender

/-- Everything queued after a PDU was queued before or is that PDU. -/
theorem Dispatched.live {result : Endpoint × Bool} (h : Dispatched P endpoint packet result)
    {element : RastaRedundancyPacketWrapper} (hmem : element ∈ result.1.channel.deferQ.live) :
    element ∈ endpoint.channel.deferQ.live ∨ element.packet = packet := by
  cases h with
  | discarded _ queue _ =>
    rw [queue] at hmem
    exact .inl hmem
  | queued _ recvTs queue why =>
    have hroom : endpoint.channel.deferQ.count ≠ endpoint.channel.deferQ.maxCount := by
      simpa [deferqueueIsfull] using why.room
    rw [queue, (deferqueueAdd_live P hroom packet recvTs).mem_iff] at hmem
    rcases List.mem_cons.mp hmem with rfl | hmem
    · exact .inr rfl
    · exact .inl hmem

theorem Dispatched.frame {result : Endpoint × Bool} (h : Dispatched P endpoint packet result) :
    ReceiveFrame endpoint result.1 := by
  cases h with
  | discarded frame _ _ => exact frame
  | queued frame _ _ _ => exact frame

end Dispatch

section Delivery

variable (P : Platform)

theorem passOn_channel (endpoint : Endpoint) (queuePacket : RastaRedundancyPacket)
    (message : RastaPacket × RastaErrorType) :
    (passOn P endpoint queuePacket message).1.channel =
      { endpoint.channel with
        delivered := endpoint.channel.delivered ++
          [handoverOf endpoint.con queuePacket message] } := rfl

/-- What handing over does to the channel, whatever the message decodes to. -/
theorem handOver_channel (endpoint : Endpoint) (queuePacket : RastaRedundancyPacket) :
    ∃ handover : Handover, handover.queuePacket = queuePacket ∧
      (handOver P endpoint queuePacket).1.channel =
        { endpoint.channel with delivered := endpoint.channel.delivered ++ [handover] } :=
  ⟨_, rfl, passOn_channel P endpoint queuePacket _⟩

/-- To show `done` after the delivery loop, find a loop invariant: it implies `done`, and one
round keeps it or, after an abort, establishes `done`. -/
theorem deliverLoop_rule {inv done : Endpoint → Prop}
    (hdone : ∀ endpoint, inv endpoint → done endpoint)
    (hround : ∀ endpoint element, inv endpoint → element ∈ endpoint.channel.deferQ.live →
      seqNrOf element = endpoint.channel.seqRx →
      ((handOver P endpoint element.packet).1.con.aborted = true →
        done (handOver P endpoint element.packet).1) ∧
      ((handOver P endpoint element.packet).1.con.aborted = false →
        inv (advance P (handOver P endpoint element.packet).1)))
    (rounds : ℕ) (endpoint : Endpoint) (result : Bool) (hinv : inv endpoint) :
    done (deliverLoop P rounds endpoint result).1 := by
  induction rounds generalizing endpoint result with
  | zero => exact hdone endpoint hinv
  | succ rounds ih =>
    unfold deliverLoop
    split
    · rename_i hcontains
      obtain ⟨element, hmem, hseq, hget⟩ := deferqueueGet_spec hcontains
      obtain ⟨habort, hnext⟩ := hround endpoint element hinv hmem hseq
      simp only [hget, Option.getD_some]
      cases haborted : (handOver P endpoint element.packet).1.con.aborted with
      | true => exact habort haborted
      | false => exact ih _ _ (hnext haborted)
    · exact hdone endpoint hinv

theorem deferqueueRemove_count {queue : DeferQueue} {seqNr : UInt64}
    (h : deferqueueContains queue seqNr = true) :
    (deferqueueRemove P queue seqNr).count + 1 = queue.count := by
  obtain ⟨element, -, hperm⟩ := deferqueueRemove_live P h
  have hlen := hperm.length_eq
  simp only [List.length_cons, DeferQueue.length_live] at hlen
  omega

/-- The loop ends only when the next number is not queued, or when the process was aborted. -/
theorem deliverLoop_drained (rounds : ℕ) (endpoint : Endpoint) (result : Bool)
    (h : endpoint.channel.deferQ.count ≤ rounds) :
    (deliverLoop P rounds endpoint result).1.con.aborted = true ∨
      deferqueueContains (deliverLoop P rounds endpoint result).1.channel.deferQ
        (deliverLoop P rounds endpoint result).1.channel.seqRx = false := by
  induction rounds generalizing endpoint result with
  | zero =>
    right
    have hempty : endpoint.channel.deferQ.live = [] := by
      rw [← List.length_eq_zero_iff, DeferQueue.length_live]
      omega
    have hnone : ¬ deferqueueContains endpoint.channel.deferQ endpoint.channel.seqRx = true := by
      rw [deferqueueContains_iff, hempty]
      simp
    simpa [deliverLoop] using hnone
  | succ rounds ih =>
    unfold deliverLoop
    split
    · rename_i hcontains
      simp only
      split
      · rename_i haborted
        exact .inl haborted
      · have hcount := deferqueueRemove_count P hcontains
        refine ih _ _ ?_
        change (deferqueueRemove P endpoint.channel.deferQ endpoint.channel.seqRx).count ≤ rounds
        omega
    · rename_i hcontains
      exact .inr (by simpa using hcontains)

end Delivery

end LibRasta.Redundancy
