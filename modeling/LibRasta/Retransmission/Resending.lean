/-
Module: LibRasta/Retransmission/Resending.lean
source: src/c/retransmission/safety_retransmission.c, src/c/retransmission/messages.c, src/c/rastafactory.c
digest: What sr_retransmit_data sends and keeps for every retransmission queue of well-formed packets, and the error variable on which it depends.
-/

import LibRasta.Retransmission.Pipeline
import LibRasta.Util.ErrorVariable

set_option autoImplicit false
set_option relaxedAutoImplicit false

namespace LibRasta.Retransmission

open LibRasta.Lib
open LibRasta.Util
open LibRasta.Factory

section Statement

variable (P : Platform)

/-- The bytes encode a Data or RetrData packet whose length field is right and whose data are
complete records. -/
structure Resendable (con : Connection) (bytes : Bytes) (packet : RastaPacket) : Prop where
  encodes : Encodes P con bytes packet
  wellFormed : WellFormed con.hashingContext packet
  framed : Framed packet.data

/-- The packet a receiver decodes from a PDU of the connection. -/
def heard (con : Connection) (pdu : SentPdu) : RastaPacket :=
  decodePdu P con.hashingContext pdu.innerBytes

/-- Every queued packet was sent again, once and in order, under the next numbers, and a
heartbeat followed; the queue holds what was sent, and nothing else changed. -/
structure RetransmitsAll (con after : Connection) (packets : List RastaPacket) : Prop where
  sent : ∃ resent closing, newlySent con after = resent ++ [closing] ∧
    (∀ pdu ∈ resent, (heard P con pdu).type = .retrData) ∧
    resent.map (fun pdu => (heard P con pdu).sequenceNumber) =
      (List.range packets.length).map (fun i => con.snT + UInt32.ofNat i) ∧
    resent.map (fun pdu => extractMessageData P (heard P con pdu)) =
      packets.map (extractMessageData P) ∧
    (∀ pdu ∈ resent ++ [closing], (heard P con pdu).confirmedSequenceNumber = con.csT) ∧
    (heard P con closing).type = .hb ∧
    (heard P con closing).sequenceNumber = con.snT + UInt32.ofNat packets.length ∧
    after.fifoRetransmission.items = resent.map SentPdu.innerBytes
  snT : after.snT = con.snT + UInt32.ofNat (packets.length + 1)
  currentState : after.currentState = con.currentState
  snR : after.snR = con.snR
  csT : after.csT = con.csT
  csR : after.csR = con.csR
  fifoSend : after.fifoSend = con.fifoSend
  fifoReceive : after.fifoReceive = con.fifoReceive

end Statement

section Loop

variable {P : Platform} {con after : Connection} {bytes : Bytes} {packet : RastaPacket}

/-- The data of a well-formed queued packet come back from its encoding. -/
theorem Resendable.data (h : Resendable P con bytes packet) :
    (decodePdu P con.hashingContext bytes).data = packet.data := by
  obtain ⟨code, hdecoded⟩ := h.encodes.decoded
  have hsize : getDataLength packet con.hashingContext = packet.data.length := by
    have hwell := h.wellFormed
    unfold WellFormed at hwell
    unfold getDataLength
    omega
  rw [hdecoded]
  show readBytes P packet.data 0 (getDataLength packet con.hashingContext) = packet.data
  rw [hsize, readBytes_all]

theorem Resendable.messages (h : Resendable P con bytes packet) :
    extractMessageData P (decodePdu P con.hashingContext bytes) = extractMessageData P packet := by
  rw [extractMessageData, extractMessageData, h.data]

theorem Resendable.fits (h : Resendable P con bytes packet) :
    MessagesFit con.hashingContext (extractMessageData P packet) := by
  obtain ⟨messages, -, hstream⟩ := h.framed
  have hwell := h.wellFormed
  have hlt : packet.length.toNat < 2 ^ 16 := packet.length.toNat_lt
  have hfit : MessagesFit con.hashingContext messages := by
    unfold MessagesFit
    unfold WellFormed at hwell
    rw [hstream]
    omega
  rw [extractMessageData_of_data P hfit hstream.symm]
  exact hfit

/-- One packet was sent again. -/
structure SentAgain (P : Platform) (con after : Connection) (messages : List Bytes)
    (pdu : SentPdu) : Prop where
  sent : after.sent = con.sent ++ [pdu]
  retained : after.fifoRetransmission.items = con.fifoRetransmission.items ++ [pdu.innerBytes]
  capacity : after.fifoRetransmission.maxSize = con.fifoRetransmission.maxSize
  lasterror : after.lasterror = .none
  snT : after.snT = con.snT + 1
  fifoSend : after.fifoSend = con.fifoSend
  type : (heard P con pdu).type = .retrData
  number : (heard P con pdu).sequenceNumber = con.snT
  confirmed : (heard P con pdu).confirmedSequenceNumber = con.csT
  messages : extractMessageData P (heard P con pdu) = messages

theorem retransmitPacket_sentAgain (h : Resendable P con bytes packet)
    (herror : con.lasterror = .none)
    (hroom : con.fifoRetransmission.items.length < con.fifoRetransmission.maxSize) :
    ∃ pdu, SentAgain P con (retransmitPacket P con bytes) (extractMessageData P packet) pdu := by
  have hbatch := @createRetransmittedDataMessage_isBatch P con.hashingContext (nextHeader con) _
    h.fits
  obtain ⟨pdu, hpdu⟩ := retransmitPacket_spec h.encodes.whole h.messages h.fits herror hroom
  have hheard : heard P con pdu = reencoded P (createRetransmittedDataMessage P (nextHeader con)
      (extractMessageData P packet) con.hashingContext) con.hashingContext := by
    rw [heard, hpdu.innerBytes, decodePdu_encodePdu P hbatch.length]
  refine ⟨pdu, hpdu.sent, hpdu.kept, hpdu.capacity, hpdu.lasterror, hpdu.snT, hpdu.fifoSend,
    ?_, ?_, ?_, ?_⟩
  · rw [hheard]
    rfl
  · rw [hheard]
    rfl
  · rw [hheard]
    rfl
  · rw [hheard]
    exact hbatch.messages

theorem Resendable.congr (h : Resendable P con bytes packet)
    (hctx : after.hashingContext = con.hashingContext) : Resendable P after bytes packet where
  encodes := ⟨h.encodes.type, by rw [hctx]; exact h.encodes.encoded⟩
  wellFormed := by
    rw [hctx]
    exact h.wellFormed
  framed := h.framed

/-- A list of packets was sent again. -/
structure AllSentAgain (P : Platform) (con after : Connection) (packets : List RastaPacket)
    (resent : List SentPdu) : Prop where
  sent : after.sent = con.sent ++ resent
  retained : after.fifoRetransmission.items =
    con.fifoRetransmission.items ++ resent.map SentPdu.innerBytes
  lasterror : after.lasterror = .none
  snT : after.snT = con.snT + UInt32.ofNat packets.length
  fifoSend : after.fifoSend = con.fifoSend
  types : ∀ pdu ∈ resent, (heard P con pdu).type = .retrData
  numbers : resent.map (fun pdu => (heard P con pdu).sequenceNumber) =
    (List.range packets.length).map fun i => con.snT + UInt32.ofNat i
  confirmed : ∀ pdu ∈ resent, (heard P con pdu).confirmedSequenceNumber = con.csT
  messages : resent.map (fun pdu => extractMessageData P (heard P con pdu)) =
    packets.map (extractMessageData P)

theorem add_succ_ofNat (v : UInt32) (i : ℕ) :
    v + 1 + UInt32.ofNat i = v + UInt32.ofNat (i + 1) := by
  rw [UInt32.ofNat_add, UInt32.add_assoc, UInt32.add_comm (UInt32.ofNat i)]
  rfl

theorem AllSentAgain.cons {middle : Connection} {packets : List RastaPacket}
    {resent : List SentPdu} {pdu : SentPdu}
    (hfirst : SentAgain P con middle (extractMessageData P packet) pdu)
    (hctx : middle.hashingContext = con.hashingContext) (hcsT : middle.csT = con.csT)
    (hrest : AllSentAgain P middle after packets resent) :
    AllSentAgain P con after (packet :: packets) (pdu :: resent) := by
  have hheard : ∀ other, heard P middle other = heard P con other := by
    intro other
    rw [heard, heard, hctx]
  have hnumbers := hrest.numbers
  have hmessages := hrest.messages
  simp only [hheard] at hnumbers hmessages
  refine ⟨?_, ?_, hrest.lasterror, ?_, hrest.fifoSend.trans hfirst.fifoSend, ?_, ?_, ?_, ?_⟩
  · rw [hrest.sent, hfirst.sent, List.append_assoc, List.singleton_append]
  · rw [hrest.retained, hfirst.retained, List.append_assoc, List.map_cons, List.singleton_append]
  · rw [hrest.snT, hfirst.snT, List.length_cons, add_succ_ofNat]
  · intro other hother
    rcases List.mem_cons.mp hother with rfl | hother
    · exact hfirst.type
    · rw [← hheard]
      exact hrest.types other hother
  · rw [List.map_cons, hnumbers, hfirst.number, List.length_cons, List.range_succ_eq_map,
      List.map_cons, List.map_map, hfirst.snT]
    congr 1
    · exact (UInt32.add_zero _).symm
    · refine List.map_congr_left fun i _ => ?_
      exact add_succ_ofNat con.snT i
  · intro other hother
    rcases List.mem_cons.mp hother with rfl | hother
    · exact hfirst.confirmed
    · rw [← hheard, ← hcsT]
      exact hrest.confirmed other hother
  · rw [List.map_cons, List.map_cons, hmessages, hfirst.messages]

theorem retransmitPackets_sentAgain {start : Connection} {elements : List Bytes}
    {packets : List RastaPacket} (hqueue : List.Forall₂ (Resendable P start) elements packets)
    (con : Connection) (hctx : con.hashingContext = start.hashingContext)
    (herror : con.lasterror = .none)
    (hroom : con.fifoRetransmission.items.length + elements.length ≤
      con.fifoRetransmission.maxSize) :
    ∃ resent, AllSentAgain P con (elements.foldl (retransmitPacket P) con) packets resent := by
  induction hqueue generalizing con with
  | nil =>
    refine ⟨[], (List.append_nil _).symm, (List.append_nil _).symm, herror,
      (UInt32.add_zero _).symm, rfl, ?_, rfl, ?_, rfl⟩
    · exact fun _ hpdu => absurd hpdu List.not_mem_nil
    · exact fun _ hpdu => absurd hpdu List.not_mem_nil
  | @cons element packet elements packets hfirst _ ih =>
    rw [List.length_cons] at hroom
    have hframe := retransmitPacket_frame P con element
    obtain ⟨pdu, hpdu⟩ := retransmitPacket_sentAgain (hfirst.congr hctx) herror (by omega)
    obtain ⟨resent, hresent⟩ := ih (retransmitPacket P con element)
      (hframe.hashingContext.trans hctx) hpdu.lasterror (by
        rw [hpdu.retained, hpdu.capacity, List.length_append, List.length_singleton]
        omega)
    exact ⟨pdu :: resent, hresent.cons hpdu hframe.hashingContext hframe.csT⟩

end Loop

section Closing

variable {P : Platform} {con : Connection}

/-- The heartbeat at the end, while no error is pending. -/
theorem sendHeartbeat_heard (herror : con.lasterror = .none)
    (hlen : con.hashingContext.checksumLen = con.srHashingContext.checksumLen) :
    ∃ closing, (sendHeartbeat P con true).sent = con.sent ++ [closing] ∧
      (heard P con closing).type = .hb ∧ (heard P con closing).sequenceNumber = con.snT ∧
      (heard P con closing).confirmedSequenceNumber = con.csT := by
  have hlength : 28 + con.hashingContext.checksumLen ≤
      (createHeartbeat P (nextHeader con) con.srHashingContext).length.toNat := by
    rw [hlen]
    exact initializePacket_length P .hb (nextHeader con) (by decide) con.srHashingContext
  obtain ⟨-, closing, hsent, hpacket, hbytes⟩ := @redundancyMuxSend_spec P con.hashingContext
    (tick con) (createHeartbeat P (nextHeader con) con.srHashingContext) rfl herror hlength
  have hheard : heard P con closing =
      reencoded P (createHeartbeat P (nextHeader con) con.srHashingContext)
        con.hashingContext := by
    rw [heard, hbytes]
    exact decodePdu_encodePdu P hlength
  refine ⟨closing, hsent, ?_, ?_, ?_⟩
  · rw [hheard]
    rfl
  · rw [hheard]
    rfl
  · rw [hheard]
    rfl

/-- With an error pending, what is sent has only zero bytes, and the error stays. -/
theorem redundancyMuxSend_pending (herror : con.lasterror ≠ .none) (data : RastaPacket) :
    (redundancyMuxSend P con data).lasterror ≠ .none ∧
      ∃ pdu : SentPdu, (redundancyMuxSend P con data).sent = con.sent ++ [pdu] ∧
        pdu.innerBytes = allocateRastaByteArray data.length.toNat := by
  have hpending : allocateBytesError con.lasterror data con.hashingContext ≠ .none := by
    unfold allocateBytesError
    split
    · exact nofun
    · exact herror
  have hbytes : rastaModuleToBytes P con.lasterror data con.hashingContext =
      (allocateRastaByteArray data.length.toNat,
        allocateBytesError con.lasterror data con.hashingContext) := by
    simp only [rastaModuleToBytes, if_pos hpending]
  constructor
  · show (rastaModuleToBytes P con.lasterror data con.hashingContext).2 ≠ .none
    rw [hbytes]
    exact hpending
  · refine ⟨_, rfl, ?_⟩
    show (rastaModuleToBytes P con.lasterror data con.hashingContext).1 = _
    rw [hbytes]

theorem retransmitPacket_pending (herror : con.lasterror ≠ .none) (element : Bytes) :
    (retransmitPacket P con element).lasterror ≠ .none := by
  rw [retransmitPacket_eq]
  simp only
  generalize hold : bytesToRastaPacket P con.lasterror element con.hashingContext
    P.uninitPacket = old
  have hdecoded : old.2 ≠ .none := by
    have hvariable := lasterrorOf_bytesToRastaPacket P con.lasterror element con.hashingContext
      P.uninitPacket
    rw [hold, lasterrorOf] at hvariable
    rw [hvariable]
    split
    · exact nofun
    · exact herror
  generalize createRetransmittedDataMessage P (nextHeader con) (extractMessageData P old.1)
    con.hashingContext = data
  have hencoded : (rastaModuleToBytes P old.2 data con.hashingContext).2 ≠ .none := by
    have hvariable := lasterrorOf_rastaModuleToBytes P old.2 data con.hashingContext
    rw [lasterrorOf] at hvariable
    rw [hvariable, allocateBytesError]
    split
    · exact nofun
    · exact hdecoded
  exact (redundancyMuxSend_pending hencoded data).1

theorem retransmitPackets_pending (elements : List Bytes) (con : Connection)
    (herror : con.lasterror ≠ .none) :
    (elements.foldl (retransmitPacket P) con).lasterror ≠ .none := by
  induction elements generalizing con with
  | nil => exact herror
  | cons element rest ih => exact ih _ (retransmitPacket_pending herror element)

/-- A PDU of zero bytes has no known type. -/
theorem decodePdu_zeros_type {ctx : RastaHashingContext} {n : ℕ} (h : 28 + ctx.checksumLen ≤ n) :
    (decodePdu P ctx (allocateRastaByteArray n)).type = RastaConnType.ofCode 0 := by
  have hwhole : ¬ (allocateRastaByteArray n).length < 28 + ctx.checksumLen := by
    rw [allocateRastaByteArray, List.length_replicate]
    omega
  have hzero : ∀ i, i < 4 → byteAt P (allocateRastaByteArray n) i = 0 := by
    intro i hi
    have hlt : i < n := by omega
    simp [byteAt, allocateRastaByteArray, hlt]
  have hfield : leShortToHost P (allocateRastaByteArray n) 2 = 0 := by
    rw [leShortToHost, hzero 2 (by omega), hzero 3 (by omega)]
    rfl
  simp only [decodePdu, bytesToRastaPacket, if_neg hwhole, hfield]

end Closing

section Retransmission

variable {P : Platform} {con : Connection} {packets : List RastaPacket}

theorem srRetransmitData_of_none (hlen : con.hashingContext.hashLength =
      con.srHashingContext.hashLength)
    (hqueue : List.Forall₂ (Resendable P con) con.fifoRetransmission.items packets)
    (herror : con.lasterror = .none) : RetransmitsAll P con (srRetransmitData P con) packets := by
  have hframe := srRetransmitData_frame P con
  rw [srRetransmitData_eq] at hframe ⊢
  obtain ⟨resent, hresent⟩ := retransmitPackets_sentAgain hqueue
    (setQueues con con.fifoSend
      (fifoPopMany con.fifoRetransmission con.fifoRetransmission.items.length) con.lasterror)
    rfl herror (by
      show (con.fifoRetransmission.items.drop _).length + _ ≤ con.fifoRetransmission.maxSize
      rw [List.drop_length, List.length_nil, Nat.zero_add]
      exact con.fifoRetransmission.size_le)
  have hloop := retransmitPackets_frame P con.fifoRetransmission.items
    (setQueues con con.fifoSend
      (fifoPopMany con.fifoRetransmission con.fifoRetransmission.items.length) con.lasterror)
  generalize con.fifoRetransmission.items.foldl (retransmitPacket P)
    (setQueues con con.fifoSend
      (fifoPopMany con.fifoRetransmission con.fifoRetransmission.items.length)
      con.lasterror) = middle at hframe hresent hloop ⊢
  have hctx : middle.hashingContext = con.hashingContext := hloop.hashingContext
  have hsr : middle.srHashingContext = con.srHashingContext := hloop.srHashingContext
  have hcode : middle.hashingContext.checksumLen = middle.srHashingContext.checksumLen := by
    rw [hctx, hsr, RastaHashingContext.checksumLen, RastaHashingContext.checksumLen, hlen]
  obtain ⟨closing, hclosing, htype, hnumber, hconfirmed⟩ :=
    @sendHeartbeat_heard P middle hresent.lasterror hcode
  have hheard : ∀ pdu, heard P middle pdu = heard P con pdu := by
    intro pdu
    rw [heard, heard, hctx]
  rw [hheard] at htype hnumber hconfirmed
  have hqueued : (sendHeartbeat P middle true).fifoRetransmission.items =
      resent.map SentPdu.innerBytes := by
    have hitems := hresent.retained
    rw [show (setQueues con con.fifoSend (fifoPopMany con.fifoRetransmission
      con.fifoRetransmission.items.length) con.lasterror).fifoRetransmission.items = [] from
      List.drop_length, List.nil_append] at hitems
    exact hitems
  have hnext : (sendHeartbeat P middle true).snT = middle.snT + 1 := rfl
  refine ⟨⟨resent, closing, ?_, hresent.types, hresent.numbers, hresent.messages, ?_, htype, ?_,
    hqueued⟩, ?_, hframe.currentState, hframe.snR, hframe.csT, hframe.csR,
    hresent.fifoSend, hframe.fifoReceive⟩
  · refine newlySent_eq ?_
    rw [hclosing, hresent.sent, List.append_assoc]
    rfl
  · intro pdu hpdu
    rcases List.mem_append.mp hpdu with hpdu | hpdu
    · exact hresent.confirmed pdu hpdu
    · rw [List.mem_singleton.mp hpdu, hconfirmed]
      exact hloop.csT
  · rw [hnumber]
    exact hresent.snT
  · rw [hnext, hresent.snT, UInt32.ofNat_add, ← UInt32.add_assoc]
    rfl

/-- `sr_retransmit_data` sends every unconfirmed packet again exactly when no error of an earlier
encoding or decoding is pending. -/
theorem retransmitsAll_iff (P : Platform) {con : Connection} {packets : List RastaPacket}
    (hlen : con.hashingContext.hashLength = con.srHashingContext.hashLength)
    (hqueue : List.Forall₂ (Resendable P con) con.fifoRetransmission.items packets) :
    RetransmitsAll P con (srRetransmitData P con) packets ↔ con.lasterror = .none := by
  constructor
  · intro hall
    by_contra hpending
    obtain ⟨resent, closing, hsent, -, -, -, -, htype, -⟩ := hall.sent
    have hframe := retransmitPackets_frame P con.fifoRetransmission.items
      (setQueues con con.fifoSend
        (fifoPopMany con.fifoRetransmission con.fifoRetransmission.items.length) con.lasterror)
    have hstill := @retransmitPackets_pending P con.fifoRetransmission.items
      (setQueues con con.fifoSend
        (fifoPopMany con.fifoRetransmission con.fifoRetransmission.items.length) con.lasterror)
      hpending
    rw [srRetransmitData_eq] at hsent
    generalize con.fifoRetransmission.items.foldl (retransmitPacket P)
      (setQueues con con.fifoSend
        (fifoPopMany con.fifoRetransmission con.fifoRetransmission.items.length)
        con.lasterror) = middle at hsent hframe hstill
    obtain ⟨-, pdu, hpdu, hbytes⟩ := @redundancyMuxSend_pending P (tick middle) hstill
      (createHeartbeat P (nextHeader middle) middle.srHashingContext)
    obtain ⟨before, hbefore⟩ := hframe.sent
    have hlast : newlySent con (sendHeartbeat P middle true) = before ++ [pdu] := by
      refine newlySent_eq ?_
      show (redundancyMuxSend P (tick middle) _).sent = _
      rw [hpdu]
      show middle.sent ++ [pdu] = _
      rw [← hbefore, List.append_assoc]
      rfl
    rw [hlast] at hsent
    have hsame : pdu = closing := (List.append_singleton_inj.mp hsent).2
    have hlength : 28 + con.hashingContext.checksumLen ≤
        (createHeartbeat P (nextHeader middle) middle.srHashingContext).length.toNat := by
      have hsr : middle.srHashingContext = con.srHashingContext := hframe.srHashingContext
      rw [hsr, RastaHashingContext.checksumLen, hlen]
      exact initializePacket_length P .hb (nextHeader middle) (by decide) con.srHashingContext
    rw [← hsame, heard, hbytes, decodePdu_zeros_type hlength] at htype
    exact absurd htype (by decide)
  · exact srRetransmitData_of_none hlen hqueue

end Retransmission

section Example

/-- The connection with two unconfirmed packets after it decoded the given bytes. -/
def exampleUnconfirmed (received : Bytes) : Connection :=
  { exampleConfirmed 4 with
    lasterror := (bytesToRastaPacket referencePlatform .none received
      exampleRunning.hashingContext zeroPacket).2 }

theorem exampleQueued_wellFormed (number : UInt32) :
    WellFormed exampleRunning.hashingContext (exampleQueued number) ∧
      Framed (exampleQueued number).data := by
  have hfit : MessagesFit exampleRunning.hashingContext [[0x68, 0x69]] := by decide
  refine ⟨createDataMessage_wellFormed referencePlatform hfit, [[0x68, 0x69]], by decide, ?_⟩
  exact (createDataMessage_data referencePlatform hfit).symm

theorem exampleUnconfirmed_resendable (received : Bytes) :
    List.Forall₂ (Resendable referencePlatform (exampleUnconfirmed received))
      (exampleUnconfirmed received).fifoRetransmission.items
      [exampleQueued 5, exampleQueued 7] := by
  refine .cons ⟨⟨.inl rfl, _, rfl, exampleQueued_fits 5, rfl⟩, ?_, ?_⟩
    (.cons ⟨⟨.inl rfl, _, rfl, exampleQueued_fits 7, rfl⟩, ?_, ?_⟩ .nil)
  · exact (exampleQueued_wellFormed 5).1
  · exact (exampleQueued_wellFormed 5).2
  · exact (exampleQueued_wellFormed 7).1
  · exact (exampleQueued_wellFormed 7).2

/-- After a heartbeat was decoded, both packets are sent again. -/
theorem retransmitsAll_iff_whole :
    let con := exampleUnconfirmed (List.replicate 36 0)
    RetransmitsAll referencePlatform con (srRetransmitData referencePlatform con)
      [exampleQueued 5, exampleQueued 7] :=
  (retransmitsAll_iff referencePlatform rfl (exampleUnconfirmed_resendable _)).mpr
    (by decide +kernel)

/-- After a runt of one byte was decoded, the PDUs sent and the packets queued again are zeros. -/
theorem runt_spoils_retransmission :
    let con := exampleUnconfirmed [0]
    let after := srRetransmitData referencePlatform con
    List.Forall₂ (Resendable referencePlatform con) con.fifoRetransmission.items
        [exampleQueued 5, exampleQueued 7] ∧
      con.hashingContext.hashLength = con.srHashingContext.hashLength ∧
      after.fifoRetransmission.items = [List.replicate 40 0, List.replicate 40 0] ∧
      (newlySent con after).map SentPdu.innerBytes =
        [List.replicate 40 0, List.replicate 40 0, List.replicate 36 0] ∧
      ¬ RetransmitsAll referencePlatform con after [exampleQueued 5, exampleQueued 7] := by
  intro con after
  have hbytes : (newlySent con after).map SentPdu.innerBytes =
      [List.replicate 40 0, List.replicate 40 0, List.replicate 36 0] := by
    decide +kernel
  refine ⟨exampleUnconfirmed_resendable [0], rfl, by decide +kernel, hbytes, ?_⟩
  intro hall
  obtain ⟨resent, closing, hsent, -, -, -, -, htype, -⟩ := hall.sent
  rw [hsent, List.map_append, List.map_singleton] at hbytes
  have hlast : closing.innerBytes = List.replicate 36 0 :=
    (List.append_singleton_inj.mp (hbytes.trans
      (List.append_cons [List.replicate 40 0, List.replicate 40 0] _ []).symm)).2
  rw [heard, hlast] at htype
  exact absurd htype (by decide +kernel)

end Example

end LibRasta.Retransmission
