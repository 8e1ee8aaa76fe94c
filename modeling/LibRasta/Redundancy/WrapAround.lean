/-
Module: LibRasta/Redundancy/WrapAround.lean
source: src/c/redundancy/rastaredundancy.c, src/c/redundancy/rasta_red_multiplexer.c, src/c/redundancy/rasta_redundancy_channel.h
digest: The 64 bit counters of both ends against the 32 bit number on the wire: the receiver counts what it delivers and delivers the next PDU of the peer exactly while the number fits.
-/

import LibRasta.Redundancy.ExactlyOnce
import LibRasta.Redundancy.QueueInvariant
import LibRasta.Redundancy.Transmission
import LibRasta.Retransmission.Running

set_option autoImplicit false
set_option relaxedAutoImplicit false

namespace LibRasta.Redundancy

open LibRasta.Util
open LibRasta.Factory
open LibRasta.Retransmission

/-- What the peer sends from the start of its channel on, without a bound on the number of
packets. -/
structure Stream (config : RastaConfigInfo) where
  peer : Connection
  packets : List RastaPacket
  seqTx : peer.seqTx = 0
  lasterror : peer.lasterror = .none
  checksumLen : peer.hashingContext.checksumLen = (hashingContextOf config).checksumLen
  crcType : peer.config.crcType = config.crcType
  sender : ∀ packet ∈ packets, config.rastaIdRemote = packet.senderId.toUInt64
  sendable : ∀ packet ∈ packets, Sendable peer.hashingContext config.crcType packet

namespace Stream

variable (P : Platform) {config : RastaConfigInfo} (S : Stream config)

/-- The PDUs in the order in which `redundancy_mux_send` sends them. -/
def pdus : List Bytes :=
  ((S.packets.foldl (redundancyMuxSend P) S.peer).sent.drop S.peer.sent.length).map
    SentPdu.dataToSend

theorem pdus_eq : S.pdus P = S.packets.mapIdx fun i packet =>
    pduBytes P S.peer.hashingContext config.crcType (UInt64.ofNat i).toUInt32 packet := by
  have hsendable : ∀ packet ∈ S.packets,
      Sendable S.peer.hashingContext S.peer.config.crcType packet := by
    rw [S.crcType]
    exact S.sendable
  have hall := redundancyMuxSend_pdus P S.packets S.peer 0 S.lasterror S.seqTx hsendable
  unfold pdus
  rw [List.map_drop, hall, List.drop_left' (by simp), S.crcType]
  simp only [Nat.zero_add]

variable {P S}

/-- The PDU at index `k` carries the number `k`, truncated to 32 bits. -/
theorem pdu_spec {k : ℕ} {pdu : Bytes} (h : (S.pdus P)[k]? = some pdu) :
    ∃ packet, config.rastaIdRemote = packet.senderId.toUInt64 ∧
      Sendable S.peer.hashingContext config.crcType packet ∧
      pdu = pduBytes P S.peer.hashingContext config.crcType (UInt64.ofNat k).toUInt32 packet := by
  rw [pdus_eq, List.getElem?_mapIdx] at h
  obtain ⟨packet, hpacket, hpdu⟩ := Option.map_eq_some_iff.mp h
  have hmem := List.mem_of_getElem? hpacket
  exact ⟨packet, S.sender packet hmem, S.sendable packet hmem, hpdu.symm⟩

end Stream

section Counting

variable (P : Platform)

/-- The endpoint belongs to this configuration. -/
structure Attached (config : RastaConfigInfo) (endpoint : Endpoint) : Prop where
  checksumLen : endpoint.con.srHashingContext.checksumLen = (hashingContextOf config).checksumLen
  associatedId : endpoint.channel.associatedId = config.rastaIdRemote
  maxCount : endpoint.channel.deferQ.maxCount = config.nDeferqueueSize.toNat
  config : endpoint.con.config = config

/-- As long as the process runs, `seq_rx` counts the deliveries since the channel was
initialised, when there were `before` of them. -/
def Counts (before : ℕ) (endpoint : Endpoint) : Prop :=
  endpoint.con.aborted = false →
    endpoint.channel.delivered.length = before + endpoint.channel.seqRx.toNat ∧
      endpoint.channel.seqRx.toNat ≤ 2 ^ 32

variable {P} {config : RastaConfigInfo} {endpoint : Endpoint} {before : ℕ}

theorem Attached.read {after : Endpoint} (h : Attached config endpoint)
    (hframe : ReadFrame endpoint after)
    (hmax : after.channel.deferQ.maxCount = endpoint.channel.deferQ.maxCount) :
    Attached config after := by
  obtain ⟨reads, lasterror, hcon⟩ := hframe.con
  refine ⟨?_, hframe.associatedId.trans h.associatedId, hmax.trans h.maxCount, ?_⟩
  · rw [hcon]
    exact h.checksumLen
  · rw [hcon]
    exact h.config

theorem Counts.read {after : Endpoint} (h : Counts before endpoint)
    (hframe : ReadFrame endpoint after) : Counts before after := by
  obtain ⟨reads, lasterror, hcon⟩ := hframe.con
  intro hrunning
  rw [hcon] at hrunning
  rw [hframe.delivered, hframe.seqRx]
  exact h hrunning

/-- A handed over packet changes neither the configuration nor the length of the safety code. -/
theorem Attached.handOver (h : Attached config endpoint) (queuePacket : RastaRedundancyPacket) :
    Attached config (Redundancy.handOver P endpoint queuePacket).1 := by
  have hfixed := (srReceive_received P
    { endpoint.con with lasterror := (deliverMessage P endpoint.con queuePacket).2 }
    (deliverMessage P endpoint.con queuePacket).1).fixed
  refine ⟨?_, h.associatedId, h.maxCount, hfixed.config.trans h.config⟩
  have hlength := hfixed.srHashLength
  rw [← h.checksumLen]
  exact congrArg (fun length => length.toNat * 8) hlength

theorem Attached.advance (h : Attached config endpoint) :
    Attached config (Redundancy.advance P endpoint) :=
  ⟨h.checksumLen, h.associatedId, (deferqueueRemove_maxCount P _ _).trans h.maxCount, h.config⟩

theorem receivePdu_maxCount (endpoint : Endpoint) (channelId : ℕ) (buffer : Bytes) :
    (receivePdu P endpoint channelId buffer).1.channel.deferQ.maxCount =
      endpoint.channel.deferQ.maxCount := by
  obtain ⟨lasterror, hdispatched⟩ := receivePdu_dispatched P endpoint channelId buffer
  generalize receivePdu P endpoint channelId buffer = received at hdispatched
  cases hdispatched with
  | discarded _ queue _ =>
    rw [queue]
    rfl
  | queued _ recvTs queue _ =>
    rw [queue, deferqueueAdd_maxCount]
    rfl

theorem receiveLoop_frame (channelId rounds lenRemaining : ℕ) (buffer : Bytes) (result : Bool)
    {returned : Endpoint × Bool}
    (hloop : receiveLoop P channelId rounds lenRemaining buffer endpoint result =
      some returned) :
    ReadFrame endpoint returned.1 ∧
      returned.1.channel.deferQ.maxCount = endpoint.channel.deferQ.maxCount := by
  refine @receiveLoop_rule P (fun after _ => ReadFrame endpoint after ∧
    after.channel.deferQ.maxCount = endpoint.channel.deferQ.maxCount) buffer channelId ?_ rounds
    lenRemaining 0 endpoint result returned ⟨.refl endpoint, rfl⟩ hloop
  rintro middle _ place ⟨hframe, hmax⟩
  exact ⟨hframe.trans (receivePdu_frame P middle channelId _),
    (receivePdu_maxCount middle channelId _).trans hmax⟩

theorem ReadFrame.aborted {after : Endpoint} (h : ReadFrame endpoint after) :
    after.con.aborted = endpoint.con.aborted := by
  obtain ⟨reads, lasterror, hcon⟩ := h.con
  rw [hcon]

/-- One round of the delivery loop is one more delivery. -/
theorem Counts.advance (h : Counts before endpoint) (hrunning : endpoint.con.aborted = false)
    {element : RastaRedundancyPacketWrapper} (hseq : seqNrOf element = endpoint.channel.seqRx) :
    Counts before (Redundancy.advance P (handOver P endpoint element.packet).1) := by
  obtain ⟨handover, -, hchannel⟩ := handOver_channel P endpoint element.packet
  obtain ⟨hlength, -⟩ := h hrunning
  have hlt : endpoint.channel.seqRx.toNat < 2 ^ 32 := by
    rw [← hseq, seqNrOf, UInt32.toNat_toUInt64]
    exact element.packet.sequenceNumber.toNat_lt
  have hnext : (endpoint.channel.seqRx + 1).toNat = endpoint.channel.seqRx.toNat + 1 := by
    have hone : (1 : UInt64).toNat = 1 := rfl
    rw [UInt64.toNat_add]
    omega
  intro _
  rw [advance_seqRx, advance_delivered, hchannel, List.length_append, hlength, hnext]
  simp only [List.length_singleton]
  omega

theorem deliverAfter_counts {received : Endpoint × Bool} (hattached : Attached config received.1)
    (hcounts : Counts before received.1) (hrunning : received.1.con.aborted = false) :
    Attached config (deliverAfter P received) ∧ Counts before (deliverAfter P received) := by
  unfold deliverAfter
  split
  swap
  · exact ⟨hattached, hcounts⟩
  refine @deliverLoop_rule P (fun e => (Attached config e ∧ Counts before e) ∧ e.con.aborted = false)
    (fun e => Attached config e ∧ Counts before e) (fun _ h => h.1) ?_ _ _ _
    ⟨⟨hattached, hcounts⟩, hrunning⟩
  rintro middle element ⟨⟨hmiddle, hcount⟩, hgoing⟩ - hseq
  constructor
  · intro haborted
    refine ⟨hmiddle.handOver element.packet, fun hnot => ?_⟩
    rw [haborted] at hnot
    cases hnot
  · intro hstill
    exact ⟨⟨(hmiddle.handOver element.packet).advance, hcount.advance hgoing hseq⟩, hstill⟩

theorem runChannelDiagnostics_readFrame (endpoint : Endpoint) (channelId : ℕ) :
    ReadFrame endpoint (runChannelDiagnostics endpoint channelId) :=
  @ReceiveFrame.readFrame endpoint _ endpoint.con.lasterror
    (runChannelDiagnostics_frame endpoint channelId).1

theorem channelReceiveEvent_counts {rounds : ℕ} {read : Read} {after : Endpoint}
    (hattached : Attached config endpoint) (hcounts : Counts before endpoint)
    (hevent : channelReceiveEvent P rounds endpoint read = some after) :
    Attached config after ∧ Counts before after := by
  unfold channelReceiveEvent at hevent
  split at hevent
  · obtain rfl := Option.some.inj hevent
    exact ⟨hattached, hcounts⟩
  · rename_i hrunning
    obtain ⟨received, hreceived, rfl⟩ := Option.map_eq_some_iff.mp hevent
    have hdiagnostics := runChannelDiagnostics_readFrame endpoint read.channelId
    have hqueue := (runChannelDiagnostics_frame endpoint read.channelId).2
    obtain ⟨hloop, hmax⟩ := receiveLoop_frame _ _ _ _ _ hreceived
    have hframe := hdiagnostics.trans hloop
    rw [hqueue] at hmax
    refine deliverAfter_counts (hattached.read hframe hmax) (hcounts.read hframe) ?_
    rw [hframe.aborted]
    exact Bool.not_eq_true _ ▸ hrunning

/-- What a run of reads of any bytes keeps. -/
theorem receiveEvents_counts {rounds : ℕ} (reads : List Read) {after : Endpoint}
    (hattached : Attached config endpoint) (hcounts : Counts before endpoint)
    (hrun : receiveEvents P rounds endpoint reads = some after) :
    Attached config after ∧ Counts before after := by
  induction reads generalizing endpoint with
  | nil =>
    obtain rfl := Option.some.inj hrun
    exact ⟨hattached, hcounts⟩
  | cons read rest ih =>
    obtain ⟨middle, hmiddle, hrest⟩ := (receiveEvents_cons_iff read rest).mp hrun
    obtain ⟨hattached', hcounts'⟩ := channelReceiveEvent_counts hattached hcounts hmiddle
    exact ih hattached' hcounts' hrest

/-- In a build without OPAQUE the process goes on after every read. -/
theorem channelReceiveEvent_running (hdisabled : P.enableOpaque = false) {rounds : ℕ} {read : Read}
    {after : Endpoint} (hrunning : endpoint.con.aborted = false)
    (hevent : channelReceiveEvent P rounds endpoint read = some after) :
    after.con.aborted = false := by
  unfold channelReceiveEvent at hevent
  rw [hrunning, if_neg Bool.false_ne_true] at hevent
  obtain ⟨received, hreceived, rfl⟩ := Option.map_eq_some_iff.mp hevent
  obtain ⟨hloop, -⟩ := receiveLoop_frame _ _ _ _ _ hreceived
  have hreading : received.1.con.aborted = false := by
    rw [hloop.aborted, (runChannelDiagnostics_readFrame endpoint read.channelId).aborted]
    exact hrunning
  unfold deliverAfter
  split
  · refine @deliverLoop_rule P (fun e => e.con.aborted = false) (fun e => e.con.aborted = false)
      (fun _ h => h) ?_ _ _ _ hreading
    intro middle element hmiddle _ _
    have hhanded : (handOver P middle element.packet).1.con.aborted = false :=
      (srReceive_aborted hdisabled _ _).trans hmiddle
    exact ⟨fun _ => hhanded, fun _ => hhanded⟩
  · exact hreading

theorem redundancyChannelInit_counts {start : Endpoint} (h : Attached config start) :
    Attached config (redundancyChannelInit start) ∧
      Counts start.channel.delivered.length (redundancyChannelInit start) :=
  ⟨⟨h.checksumLen, h.associatedId, h.maxCount, h.config⟩, fun _ => ⟨rfl, Nat.zero_le _⟩⟩

end Counting

section Next

variable {P : Platform} {config : RastaConfigInfo} {S : Stream config} {endpoint : Endpoint}

/-- The PDU of the read, and nothing else, was handed to `sr_receive` in the event. -/
def Delivers (P : Platform) (endpoint : Endpoint) (read : Read) (after : Endpoint) : Prop :=
  ∃ handover, after.channel.delivered = endpoint.channel.delivered ++ [handover] ∧
    handover.queuePacket = Reception.packet P { con := endpoint.con, buffer := read.buffer }

/-- How the receiver decodes a PDU of the stream. -/
theorem Stream.packet_spec (h : Attached config endpoint) {k : ℕ} {pdu : Bytes}
    (hpdu : (S.pdus P)[k]? = some pdu) :
    let packet := Reception.packet P { con := endpoint.con, buffer := pdu }
    endpoint.channel.associatedId = packet.data.senderId.toUInt64 ∧
      packet.checksumCorrect = true ∧ packet.sequenceNumber.toUInt64.toNat = k % 2 ^ 32 := by
  obtain ⟨inner, hsender, hsendable, rfl⟩ := S.pdu_spec hpdu
  have hctx : endpoint.con.srHashingContext.checksumLen = S.peer.hashingContext.checksumLen :=
    h.checksumLen.trans S.checksumLen.symm
  have hdecoded := bytesToRastaRedundancyPacket_pduBytes P hsendable (UInt64.ofNat k).toUInt32 []
    hctx endpoint.con.lasterror (P.uninitRedundancyPacket
      (pduBytes P S.peer.hashingContext config.crcType (UInt64.ofNat k).toUInt32 inner))
  have hsize := pduBytes_size P hsendable (UInt64.ofNat k).toUInt32 []
  rw [List.append_nil] at hdecoded hsize
  have hpacket : Reception.packet P
      { con := endpoint.con
        buffer := pduBytes P S.peer.hashingContext config.crcType (UInt64.ofNat k).toUInt32 inner } =
      arrivedPdu P endpoint.con.srHashingContext config.crcType (UInt64.ofNat k).toUInt32 inner
        (safetyCode P S.peer.hashingContext inner) := by
    unfold Reception.packet Reception.size handleReceivedData
    simp only [hsize, h.config]
    rw [hdecoded]
  intro packet
  have hsame : packet = _ := hpacket
  rw [hsame]
  refine ⟨h.associatedId.trans hsender, rfl, ?_⟩
  show (UInt64.ofNat k).toUInt32.toUInt64.toNat = k % 2 ^ 32
  rw [UInt32.toNat_toUInt64, UInt64.toNat_toUInt32, UInt64.toNat_ofNat']
  omega

/-- With one queued element, the expected one, the delivery loop makes one round. -/
theorem deliverAfter_single {received : Endpoint × Bool} {element : RastaRedundancyPacketWrapper}
    (hresult : received.2 = true) (hlive : received.1.channel.deferQ.live = [element])
    (hseq : seqNrOf element = received.1.channel.seqRx) :
    ∃ handover, handover.queuePacket = element.packet ∧
      (deliverAfter P received).channel.delivered =
        received.1.channel.delivered ++ [handover] ∧
      ((deliverAfter P received).con.aborted = false →
        (deliverAfter P received).channel.deferQ.count = 0) := by
  have hcount : received.1.channel.deferQ.count = 1 := by
    rw [← DeferQueue.length_live, hlive, List.length_singleton]
  have hcontains : deferqueueContains received.1.channel.deferQ received.1.channel.seqRx =
      true := by
    rw [deferqueueContains_iff, hlive]
    exact ⟨element, List.mem_singleton_self _, hseq⟩
  obtain ⟨element', hmem, -, hget⟩ := deferqueueGet_spec hcontains
  rw [hlive, List.mem_singleton] at hmem
  rw [hmem] at hget
  obtain ⟨handover, hpacket, hchannel⟩ := handOver_channel P received.1 element.packet
  have hremoved := deferqueueRemove_count P hcontains
  refine ⟨handover, hpacket, ?_⟩
  rw [deliverAfter, if_pos hresult, redFDeliverDeferQueue, hcount]
  unfold deliverLoop
  rw [if_pos hcontains]
  simp only [hget, Option.getD_some]
  split
  · rename_i haborted
    refine ⟨by rw [hchannel], fun hrunning => ?_⟩
    rw [haborted] at hrunning
    cases hrunning
  · rw [deliverLoop]
    refine ⟨by rw [advance_delivered, hchannel], fun _ => ?_⟩
    rw [(advance_handOver_channel element.packet).1]
    omega

/-- The event in which a single PDU arrives. -/
theorem channelReceiveEvent_single {read : Read} (hframed : Framed P read.buffer)
    (hrunning : endpoint.con.aborted = false) {rounds : ℕ} (hrounds : 1 ≤ rounds) :
    channelReceiveEvent P rounds endpoint read = some (deliverAfter P
      (receivePdu P (runChannelDiagnostics endpoint read.channelId) read.channelId
        read.buffer)) := by
  have hone : read.buffer = [read.buffer].flatten := List.flatten_singleton.symm
  have hevent := @channelReceiveEvent_framed P read [read.buffer] rounds endpoint hone
    (by simpa using hframed) hrounds hrunning
  simpa [receivePdus] using hevent

variable {read : Read}

/-- What becomes of the PDU, as the endpoint before the event decodes it. -/
theorem receivePdu_after_diagnostics (endpoint : Endpoint) (channelId : ℕ) (buffer : Bytes) :
    ∃ base, ReadFrame endpoint base ∧ base.channel.deferQ = endpoint.channel.deferQ ∧
      Dispatched P base (Reception.packet P { con := endpoint.con, buffer := buffer })
        (receivePdu P (runChannelDiagnostics endpoint channelId) channelId buffer) := by
  have hframe := runChannelDiagnostics_readFrame endpoint channelId
  have hqueue := (runChannelDiagnostics_frame endpoint channelId).2
  obtain ⟨lasterror, hdispatched⟩ := receivePdu_dispatched P
    (runChannelDiagnostics endpoint channelId) channelId buffer
  rw [reception_packet_congr P hframe] at hdispatched
  refine ⟨setLasterror (runChannelDiagnostics endpoint channelId) lasterror, hframe.trans ?_,
    hqueue, hdispatched⟩
  exact ⟨⟨_, lasterror, rfl⟩, rfl, rfl, rfl⟩

/-- The expected PDU arrives at an empty queue with a place for it. -/
theorem delivers_of_expected (hframed : Framed P read.buffer)
    (hrunning : endpoint.con.aborted = false) (hempty : endpoint.channel.deferQ.count = 0)
    (hplace : 0 < endpoint.channel.deferQ.maxCount)
    (hadmissible : Admissible endpoint
      (Reception.packet P { con := endpoint.con, buffer := read.buffer }))
    (hnumber : (Reception.packet P
      { con := endpoint.con, buffer := read.buffer }).sequenceNumber.toUInt64 =
        endpoint.channel.seqRx) {rounds : ℕ} (hrounds : 1 ≤ rounds) :
    ∃ after, channelReceiveEvent P rounds endpoint read = some after ∧
      Delivers P endpoint read after ∧
      (after.con.aborted = false → after.channel.deferQ.count = 0) := by
  refine ⟨_, channelReceiveEvent_single hframed hrunning hrounds, ?_⟩
  obtain ⟨base, hframe, hqueue, hdispatched⟩ :=
    @receivePdu_after_diagnostics P endpoint read.channelId read.buffer
  unfold Delivers
  generalize Reception.packet P { con := endpoint.con, buffer := read.buffer } = packet
    at hadmissible hnumber hdispatched ⊢
  have hroom : deferqueueIsfull base.channel.deferQ = false := by
    simp only [deferqueueIsfull, hqueue, hempty, beq_eq_false_iff_ne]
    omega
  have hnext : packet.sequenceNumber.toUInt64 = base.channel.seqRx :=
    hnumber.trans hframe.seqRx.symm
  have henters : Enters base packet :=
    enters_iff.mpr ⟨hroom, (admissible_congr hframe packet).mpr hadmissible, .inl hnext⟩
  generalize receivePdu P (runChannelDiagnostics endpoint read.channelId) read.channelId
    read.buffer = received at hdispatched ⊢
  cases hdispatched with
  | discarded _ _ why => exact absurd henters why
  | @queued after frame recvTs queue _ =>
    have hlive := @deferqueueAdd_live P base.channel.deferQ (by rw [hqueue]; omega) packet recvTs
    have hnone : base.channel.deferQ.live = [] := by
      rw [← List.length_eq_zero_iff, DeferQueue.length_live, hqueue]
      exact hempty
    rw [← queue, hnone, List.perm_singleton] at hlive
    rw [decide_eq_true hnext]
    obtain ⟨handover, hpacket, hdelivered, hdrained⟩ := @deliverAfter_single P (after, true) _ rfl
      hlive (hnext.trans frame.seqRx.symm)
    refine ⟨⟨handover, ?_, hpacket⟩, hdrained⟩
    rw [hdelivered, frame.delivered, hframe.delivered]

/-- A PDU that may not enter the queue is not delivered. -/
theorem not_delivers_of_refused (hframed : Framed P read.buffer)
    (hrunning : endpoint.con.aborted = false)
    (hrefused : deferqueueIsfull endpoint.channel.deferQ = true ∨ ¬ Admissible endpoint
      (Reception.packet P { con := endpoint.con, buffer := read.buffer }))
    {rounds : ℕ} (hrounds : 1 ≤ rounds) :
    ¬ ∃ after, channelReceiveEvent P rounds endpoint read = some after ∧
      Delivers P endpoint read after := by
  rintro ⟨after, hevent, handover, hdelivered, -⟩
  rw [channelReceiveEvent_single hframed hrunning hrounds] at hevent
  obtain ⟨base, hframe, hqueue, hdispatched⟩ :=
    @receivePdu_after_diagnostics P endpoint read.channelId read.buffer
  generalize receivePdu P (runChannelDiagnostics endpoint read.channelId) read.channelId
    read.buffer = received at hdispatched hevent
  cases hdispatched with
  | @discarded middle frame _ _ =>
    obtain rfl := Option.some.inj hevent
    have hkept : (deliverAfter P (middle, false)).channel.delivered =
        endpoint.channel.delivered := frame.delivered.trans hframe.delivered
    rw [hkept] at hdelivered
    simp at hdelivered
  | queued _ _ _ why =>
    obtain ⟨hroom, hadmissible, -⟩ := enters_iff.mp why
    rcases hrefused with hfull | hnot
    · rw [hqueue, hfull] at hroom
      cases hroom
    · exact hnot ((admissible_congr hframe _).mp hadmissible)

theorem Stream.framed {k : ℕ} {pdu : Bytes} (hpdu : (S.pdus P)[k]? = some pdu) :
    Framed P pdu := by
  obtain ⟨inner, -, hsendable, rfl⟩ := S.pdu_spec hpdu
  have hlen := length_pduBytes P hsendable (UInt64.ofNat k).toUInt32
  have hsize := pduBytes_size P hsendable (UInt64.ofNat k).toUInt32 []
  rw [List.append_nil] at hsize
  exact ⟨by omega, hsize⟩

/-- While the number fits, the PDU of the stream is the expected one. -/
theorem Stream.admissible (h : Attached config endpoint) {k : ℕ}
    (hseq : endpoint.channel.seqRx.toNat = k) (hfits : k < 2 ^ 32) {pdu : Bytes}
    (hpdu : (S.pdus P)[k]? = some pdu) :
    let packet := Reception.packet P { con := endpoint.con, buffer := pdu }
    Admissible endpoint packet ∧
      packet.sequenceNumber.toUInt64 = endpoint.channel.seqRx := by
  intro packet
  obtain ⟨hsender, hchecksum, hnumber⟩ := S.packet_spec h hpdu
  rw [Nat.mod_eq_of_lt hfits, ← hseq] at hnumber
  have hnext : packet.sequenceNumber.toUInt64 = endpoint.channel.seqRx := UInt64.toNat_inj.mp hnumber
  refine ⟨⟨hsender, hchecksum, ?_, .inl hnext⟩, hnext⟩
  rintro ⟨hzero, -, hnonzero⟩
  apply hnonzero
  rw [← UInt32.toNat_inj, ← UInt32.toNat_toUInt64, hnext, hzero]
  rfl

/-- The receiver has delivered as many PDUs as there are numbers: the next one is taken for an
old one. -/
theorem Stream.not_admissible (h : Attached config endpoint)
    (hseq : endpoint.channel.seqRx.toNat = 2 ^ 32) {pdu : Bytes}
    (hpdu : (S.pdus P)[2 ^ 32]? = some pdu) :
    ¬ Admissible endpoint (Reception.packet P { con := endpoint.con, buffer := pdu }) := by
  obtain ⟨-, -, hnumber⟩ := S.packet_spec h hpdu
  rw [Nat.mod_self] at hnumber
  rintro ⟨-, -, -, hnext | ⟨hahead, -⟩⟩
  · rw [hnext, hseq] at hnumber
    omega
  · rw [UInt64.lt_iff_toNat_lt, hseq] at hahead
    omega

end Next

section Example

/-- A heartbeat of the peer. -/
def exampleStreamPacket : RastaPacket :=
  createHeartbeat referencePlatform
    (nextHeader (rastaLibInitConfiguration exampleRemoteConfig fun _ => 0))
    (hashingContextOf exampleRemoteConfig)

/-- As many heartbeats as one likes. -/
def exampleStream (n : ℕ) : Stream exampleConfig where
  peer := rastaLibInitConfiguration exampleRemoteConfig fun _ => 0
  packets := List.replicate n exampleStreamPacket
  seqTx := exampleTransmission.seqTx
  lasterror := exampleTransmission.lasterror
  checksumLen := exampleTransmission.checksumLen
  crcType := exampleTransmission.crcType
  sender := by
    intro packet hpacket
    rw [List.eq_of_mem_replicate hpacket]
    decide +kernel
  sendable := by
    intro packet hpacket
    rw [List.eq_of_mem_replicate hpacket]
    decide +kernel

theorem exampleFresh_attached : Attached exampleConfig exampleFresh :=
  ⟨rfl, rfl, rfl, rfl⟩

/-- The read in which the PDU at index `k` arrives. -/
theorem exampleStream_read {n k : ℕ} (h : k < n) :
    ∃ read : Read, ((exampleStream n).pdus referencePlatform)[k]? = some read.buffer := by
  have hsome : ((exampleStream n).pdus referencePlatform)[k]? = some
      (pduBytes referencePlatform (exampleStream n).peer.hashingContext exampleConfig.crcType
        (UInt64.ofNat k).toUInt32 exampleStreamPacket) := by
    rw [Stream.pdus_eq, List.getElem?_mapIdx]
    show Option.map _ (List.replicate n exampleStreamPacket)[k]? = _
    rw [List.getElem?_replicate, if_pos h]
    rfl
  have hsendable : Sendable (exampleStream n).peer.hashingContext exampleConfig.crcType
      exampleStreamPacket :=
    (exampleStream n).sendable _ (List.mem_replicate.mpr ⟨by omega, rfl⟩)
  have hlength : (pduBytes referencePlatform (exampleStream n).peer.hashingContext
      exampleConfig.crcType (UInt64.ofNat k).toUInt32 exampleStreamPacket).length < 2 ^ 64 := by
    have htotal := hsendable.total
    rw [length_pduBytes referencePlatform hsendable]
    omega
  exact ⟨⟨0, _, hlength⟩, hsome⟩

/-- A receiver of the stream gets to any number of deliveries up to that of the numbers there
are. -/
theorem exampleStream_received (total n : ℕ) (htotal : n ≤ total) (hn : n ≤ 2 ^ 32) :
    ∃ reads endpoint,
      reads.map Read.buffer = ((exampleStream total).pdus referencePlatform).take n ∧
      receiveEvents referencePlatform 1 (redundancyChannelInit exampleFresh) reads =
        some endpoint ∧ endpoint.con.aborted = false ∧ endpoint.channel.deferQ.count = 0 ∧
      endpoint.channel.delivered.length = n := by
  induction n with
  | zero => exact ⟨[], _, rfl, rfl, rfl, rfl, rfl⟩
  | succ n ih =>
    obtain ⟨reads, endpoint, hreads, hrun, hrunning, hempty, hlength⟩ := ih (by omega) (by omega)
    obtain ⟨hinit, hcounted⟩ := redundancyChannelInit_counts exampleFresh_attached
    obtain ⟨hattached, hcounts⟩ := receiveEvents_counts reads hinit hcounted hrun
    have hnone : exampleFresh.channel.delivered.length = 0 := rfl
    have hseq : endpoint.channel.seqRx.toNat = n := by
      have hcount := (hcounts hrunning).1
      omega
    obtain ⟨read, hread⟩ := @exampleStream_read total n (by omega)
    have hplace : 0 < endpoint.channel.deferQ.maxCount := by
      rw [hattached.maxCount]
      decide
    obtain ⟨hadmissible, hnext⟩ := (exampleStream total).admissible hattached hseq (by omega)
      hread
    obtain ⟨after, hevent, ⟨handover, hdelivered, -⟩, hdrained⟩ := delivers_of_expected
      ((exampleStream total).framed hread) hrunning hempty hplace hadmissible hnext
      (Nat.le_refl 1)
    have hafter : after.con.aborted = false := channelReceiveEvent_running rfl hrunning hevent
    refine ⟨reads ++ [read], after, ?_, ?_, hafter, hdrained hafter, ?_⟩
    · rw [List.map_append, hreads, List.take_add_one, hread]
      rfl
    · rw [receiveEvents, List.foldlM_append]
      show (receiveEvents referencePlatform 1 (redundancyChannelInit exampleFresh) reads).bind _ = _
      rw [hrun]
      exact (receiveEvents_cons_iff read []).mpr ⟨after, hevent, rfl⟩
    · rw [hdelivered, List.length_append, hlength, List.length_singleton]

end Example

end LibRasta.Redundancy
