/-
Module: LibRasta/Redundancy/Progress.lean
source: src/c/redundancy/rasta_red_multiplexer.c, src/c/redundancy/rastaredundancy.c
digest: The PDU a channel waits for is delivered in the event in which it arrives exactly when the defer queue has room for it or holds a copy already.
-/

import LibRasta.Redundancy.Framing

set_option autoImplicit false
set_option relaxedAutoImplicit false

namespace LibRasta.Redundancy

open LibRasta.Util
open LibRasta.Retransmission

section Reachable

variable (P : Platform)

/-- The endpoint is reached by reads of any bytes after its channel was initialised. -/
def Reachable (endpoint : Endpoint) : Prop :=
  ∃ start rounds reads, receiveEvents P rounds (redundancyChannelInit start) reads =
    some endpoint

/-- The expected PDU is not queued, unless the process was aborted. -/
def Drained (endpoint : Endpoint) : Prop :=
  endpoint.con.aborted = true ∨
    deferqueueContains endpoint.channel.deferQ endpoint.channel.seqRx = false

theorem Flagged.of_absent {endpoint : Endpoint}
    (h : deferqueueContains endpoint.channel.deferQ endpoint.channel.seqRx = false) :
    Flagged endpoint false := by
  unfold Flagged
  simp [h]

theorem deliverAfter_drained {received : Endpoint × Bool}
    (h : Flagged received.1 received.2) : Drained (deliverAfter P received) := by
  unfold deliverAfter
  split
  · exact deliverLoop_drained P _ _ _ (Nat.le_refl _)
  · rename_i hresult
    right
    cases hcontains : deferqueueContains received.1.channel.deferQ received.1.channel.seqRx with
    | false => rfl
    | true => exact absurd (h.mpr hcontains) hresult

theorem runChannelDiagnostics_absent {endpoint : Endpoint} (channelId : ℕ)
    (h : deferqueueContains endpoint.channel.deferQ endpoint.channel.seqRx = false) :
    Flagged (runChannelDiagnostics endpoint channelId) false := by
  obtain ⟨hframe, hqueue⟩ := runChannelDiagnostics_frame endpoint channelId
  refine Flagged.of_absent ?_
  rw [hqueue, hframe.seqRx]
  exact h

theorem channelReceiveEvent_drained {rounds : ℕ} {endpoint after : Endpoint} {read : Read}
    (h : Drained endpoint) (hevent : channelReceiveEvent P rounds endpoint read = some after) :
    Drained after := by
  unfold channelReceiveEvent at hevent
  split at hevent
  · obtain rfl := Option.some.inj hevent
    exact h
  · rename_i hrunning
    obtain ⟨received, hreceived, rfl⟩ := Option.map_eq_some_iff.mp hevent
    rcases h with haborted | habsent
    · exact absurd haborted hrunning
    · exact deliverAfter_drained P (receiveLoop_flagged P _ _ _ _ _ false
        (runChannelDiagnostics_absent read.channelId habsent) hreceived)

theorem receiveEvents_drained {rounds : ℕ} (reads : List Read) {endpoint after : Endpoint}
    (h : Drained endpoint) (hrun : receiveEvents P rounds endpoint reads = some after) :
    Drained after := by
  induction reads generalizing endpoint with
  | nil =>
    obtain rfl := Option.some.inj hrun
    exact h
  | cons read rest ih =>
    simp only [receiveEvents, List.foldlM_cons, Option.bind_eq_bind,
      Option.bind_eq_some_iff] at hrun
    obtain ⟨middle, hmiddle, hrest⟩ := hrun
    exact ih (channelReceiveEvent_drained P h hmiddle) hrest

theorem Reachable.drained {endpoint : Endpoint} (h : Reachable P endpoint) :
    Drained endpoint := by
  obtain ⟨start, rounds, reads, hrun⟩ := h
  have hempty : (redundancyChannelInit start).channel.deferQ.live = [] := by
    simp [redundancyChannelInit, deferqueueClear, DeferQueue.live]
  have habsent : ¬ deferqueueContains (redundancyChannelInit start).channel.deferQ
      (redundancyChannelInit start).channel.seqRx = true := by
    rw [deferqueueContains_iff, hempty]
    simp
  exact receiveEvents_drained P reads (.inr (by simpa using habsent)) hrun

end Reachable

section Progress

variable (P : Platform)

/-- Since `before`, the PDU with number `seqRx` was handed to `sr_receive`, and unless that
aborted the process the channel has moved on. -/
def HandedOver (before : List Handover) (seqRx : UInt64) (after : Endpoint) : Prop :=
  ∃ handed, after.channel.delivered = before ++ handed ∧
    (∃ handover ∈ handed, handover.queuePacket.sequenceNumber.toUInt64 = seqRx) ∧
    (after.con.aborted = false → seqRx < after.channel.seqRx)

theorem HandedOver.handOver {before : List Handover} {seqRx : UInt64} {endpoint : Endpoint}
    (h : HandedOver before seqRx endpoint) (hlt : seqRx < endpoint.channel.seqRx)
    (queuePacket : RastaRedundancyPacket) :
    HandedOver before seqRx (handOver P endpoint queuePacket).1 := by
  obtain ⟨handed, hdelivered, ⟨handover, hmem, hseq⟩, -⟩ := h
  obtain ⟨next, -, hchannel⟩ := handOver_channel P endpoint queuePacket
  refine ⟨handed ++ [next], ?_, ⟨handover, List.mem_append_left _ hmem, hseq⟩, fun _ => ?_⟩
  · rw [hchannel, hdelivered, List.append_assoc]
  · rw [hchannel]
    exact hlt

/-- A queue element with the expected number keeps the counter from wrapping around. -/
theorem lt_seqRx_add_one {element : RastaRedundancyPacketWrapper} {seqRx : UInt64}
    (h : seqNrOf element = seqRx) : seqRx < seqRx + 1 := by
  have hlt := element.packet.sequenceNumber.toNat_lt
  have hnat : seqRx.toNat < 2 ^ 32 := by
    rw [← h, seqNrOf, UInt32.toNat_toUInt64]
    exact hlt
  rw [UInt64.lt_iff_toNat_lt, UInt64.toNat_add]
  have hone : (1 : UInt64).toNat = 1 := rfl
  omega

theorem advance_seqRx (endpoint : Endpoint) :
    (advance P endpoint).channel.seqRx = endpoint.channel.seqRx + 1 := rfl

theorem advance_delivered (endpoint : Endpoint) :
    (advance P endpoint).channel.delivered = endpoint.channel.delivered := rfl

/-- With the expected PDU queued, the delivery loop hands it over. -/
theorem redFDeliverDeferQueue_handedOver (endpoint : Endpoint)
    (h : deferqueueContains endpoint.channel.deferQ endpoint.channel.seqRx = true) :
    HandedOver endpoint.channel.delivered endpoint.channel.seqRx
      (redFDeliverDeferQueue P endpoint).1 := by
  have hcount := deferqueueRemove_count P h
  obtain ⟨rounds, hrounds⟩ : ∃ rounds, endpoint.channel.deferQ.count = rounds + 1 :=
    ⟨_, hcount.symm⟩
  obtain ⟨element, hmem, hseq, hget⟩ := deferqueueGet_spec h
  obtain ⟨handover, hpacket, hchannel⟩ := handOver_channel P endpoint element.packet
  have hfirst : ∃ handed,
      (handOver P endpoint element.packet).1.channel.delivered =
        endpoint.channel.delivered ++ handed ∧
      ∃ handover ∈ handed,
        handover.queuePacket.sequenceNumber.toUInt64 = endpoint.channel.seqRx := by
    refine ⟨[handover], by rw [hchannel], handover, List.mem_singleton_self _, ?_⟩
    rw [hpacket]
    exact hseq
  obtain ⟨handed, hdelivered, hexpected⟩ := hfirst
  unfold redFDeliverDeferQueue
  rw [hrounds]
  unfold deliverLoop
  rw [if_pos h]
  simp only [hget, Option.getD_some]
  split
  · rename_i haborted
    refine ⟨handed, hdelivered, hexpected, fun hrunning => ?_⟩
    rw [haborted] at hrunning
    cases hrunning
  · -- the rest of the loop only appends
    refine deliverLoop_rule P
      (fun e (he : HandedOver endpoint.channel.delivered endpoint.channel.seqRx e ∧
        endpoint.channel.seqRx < e.channel.seqRx) => he.1) ?_ rounds _ _ ⟨?_, ?_⟩
    · rintro middle next ⟨hhanded, hlt⟩ - hnext
      have hstep := hhanded.handOver P hlt next.packet
      obtain ⟨handed', hdelivered', hexpected', -⟩ := hstep
      obtain ⟨_, -, hchannel'⟩ := handOver_channel P middle next.packet
      have hgrown : endpoint.channel.seqRx <
          (advance P (handOver P middle next.packet).1).channel.seqRx := by
        rw [advance_seqRx, hchannel']
        exact UInt64.lt_trans hlt (lt_seqRx_add_one hnext)
      exact ⟨fun _ => hhanded.handOver P hlt next.packet,
        fun _ => ⟨⟨handed', hdelivered', hexpected', fun _ => hgrown⟩, hgrown⟩⟩
    · refine ⟨handed, hdelivered, hexpected, fun _ => ?_⟩
      rw [advance_seqRx, hchannel]
      exact lt_seqRx_add_one hseq
    · rw [advance_seqRx, hchannel]
      exact lt_seqRx_add_one hseq

/-- A full queue stays as it is. -/
theorem receivePdu_of_full {endpoint : Endpoint}
    (h : deferqueueIsfull endpoint.channel.deferQ = true) (channelId : ℕ) (buffer : Bytes) :
    (receivePdu P endpoint channelId buffer).1.channel.deferQ = endpoint.channel.deferQ ∧
      (receivePdu P endpoint channelId buffer).2 = false := by
  obtain ⟨lasterror, hdispatched⟩ := receivePdu_dispatched P endpoint channelId buffer
  generalize receivePdu P endpoint channelId buffer = received at hdispatched
  cases hdispatched with
  | discarded _ queue _ => exact ⟨queue, rfl⟩
  | queued _ _ _ why =>
    have hroom : deferqueueIsfull endpoint.channel.deferQ = false := why.room
    rw [h] at hroom
    cases hroom

theorem receivePdus_of_full {endpoint : Endpoint}
    (h : deferqueueIsfull endpoint.channel.deferQ = true) (channelId : ℕ) (behind : Bytes)
    (pdus : List Bytes) (result : Bool) :
    (receivePdus P channelId behind pdus endpoint result).2 = result := by
  have hrule := @receivePdus_rule P
    (fun after r => after.channel.deferQ = endpoint.channel.deferQ ∧ r = result) channelId behind
    ?_ pdus endpoint result ⟨rfl, rfl⟩
  · exact hrule.2
  · rintro middle r buffer ⟨hqueue, hresult⟩
    have hfull : deferqueueIsfull middle.channel.deferQ = true := by rw [hqueue]; exact h
    obtain ⟨hqueue', hresult'⟩ := receivePdu_of_full P hfull channelId buffer
    exact ⟨hqueue'.trans hqueue, by rw [hresult', Bool.or_false]; exact hresult⟩

theorem receivePdus_of_true (endpoint : Endpoint) (channelId : ℕ) (behind : Bytes)
    (pdus : List Bytes) : (receivePdus P channelId behind pdus endpoint true).2 = true := by
  refine @receivePdus_rule P (fun _ r => r = true) channelId behind ?_ pdus endpoint true rfl
  intro _ r _ hr
  rw [hr, Bool.true_or]

/-- The expected PDU enters the queue if there is room for it. -/
theorem receivePdu_of_expected {endpoint : Endpoint} {channelId : ℕ} {buffer : Bytes}
    {packet : RastaRedundancyPacket}
    (hpacket : packet = Reception.packet P { con := endpoint.con, buffer := buffer })
    (hchecksum : packet.checksumCorrect = true)
    (hsender : endpoint.channel.associatedId = packet.data.senderId.toUInt64)
    (hseq : packet.sequenceNumber.toUInt64 = endpoint.channel.seqRx)
    (hroom : deferqueueIsfull endpoint.channel.deferQ = false) :
    (receivePdu P endpoint channelId buffer).2 = true := by
  obtain ⟨lasterror, hdispatched⟩ := receivePdu_dispatched P endpoint channelId buffer
  rw [← hpacket] at hdispatched
  have hfirst : ¬ FirstPduRule (setLasterror endpoint lasterror) packet := by
    rintro ⟨hzero, -, hnonzero⟩
    apply hnonzero
    have hsn : packet.sequenceNumber.toUInt64 = 0 := hseq.trans hzero
    rw [← UInt32.toNat_inj, ← UInt32.toNat_toUInt64, hsn]
    rfl
  have henters : Enters (setLasterror endpoint lasterror) packet :=
    ⟨hsender, hroom, hchecksum, hfirst, .inl hseq⟩
  generalize receivePdu P endpoint channelId buffer = received at hdispatched
  cases hdispatched with
  | discarded _ _ why => exact absurd henters why
  | queued _ _ _ _ => exact decide_eq_true hseq

/-- The endpoint when the loop of `receive_packet` has processed the PDUs in front, with `memory`
still to come. -/
def loopState (endpoint : Endpoint) (channelId : ℕ) (front : List Bytes) (memory : Bytes) :
    Endpoint :=
  (receivePdus P channelId memory front (runChannelDiagnostics endpoint channelId) false).1

end Progress

/-- A freshly initialised endpoint with one transport channel. -/
def exampleFresh : Endpoint where
  con := rastaLibInitConfiguration exampleConfig fun _ => 0
  channel := redundancyChannelAlloc exampleConfig
    (fun _ => { packet := zeroRedundancyPacket, receivedTimestamp := 0 }) 1

/-- The `n`-th PDU of its peer, a heartbeat. -/
def examplePdu (n : ℕ) : Bytes :=
  let peer :=
    { rastaLibInitConfiguration exampleRemoteConfig (fun _ => 0) with seqTx := UInt64.ofNat n }
  ((sendHeartbeat referencePlatform peer false).sent.map SentPdu.dataToSend).flatten

def exampleRead (n : ℕ) (h : (examplePdu n).length < 2 ^ 64) : Read where
  channelId := 0
  buffer := examplePdu n
  length_lt := h

/-- The `n`-th PDU of the peer on one of several transport channels. -/
def exampleReadOn (channelId n : ℕ) : Read :=
  if h : (examplePdu n).length < 2 ^ 64 then
    { channelId := channelId, buffer := examplePdu n, length_lt := h }
  else { channelId := channelId, buffer := [], length_lt := Nat.two_pow_pos 64 }

/-- The endpoint after PDU 0. -/
def exampleWaiting : Endpoint :=
  (receiveEvents referencePlatform 1 (redundancyChannelInit exampleFresh)
    [exampleRead 0 (by decide +kernel)]).get (by decide +kernel)

end LibRasta.Redundancy
