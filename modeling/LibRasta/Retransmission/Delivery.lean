/-
Module: LibRasta/Retransmission/Delivery.lean
source: src/c/retransmission/handlers.c, src/c/retransmission/safety_retransmission.c
digest: When a Data or RetrData PDU is confirmed in the step that delivers all of its messages, and exactly when it is confirmed although messages are lost.
-/

import LibRasta.Retransmission.Transitions

set_option autoImplicit false
set_option relaxedAutoImplicit false

namespace LibRasta.Retransmission

open LibRasta.Util
open LibRasta.Factory

/-- The step from `before` to `after` sets `cs_t` to the number of the packet. Every update of
`cs_t` moves `sn_r` along, so an update to the value it had is seen at `sn_r`. -/
def SetsCsT (before after : Connection) (packet : RastaPacket) : Prop :=
  after.csT = packet.sequenceNumber ∧ (after.csT ≠ before.csT ∨ after.snR ≠ before.snR)

instance (before after : Connection) (packet : RastaPacket) :
    Decidable (SetsCsT before after packet) :=
  inferInstanceAs (Decidable (_ ∧ _))

section Confirmation

variable (P : Platform)

/-- If processing the packet confirms it, all its messages were appended to the receive queue
in the same step. -/
def ConfirmedIsDelivered (con : Connection) (packet : RastaPacket) : Prop :=
  SetsCsT con (srReceive P con packet).1 packet →
    (srReceive P con packet).1.fifoReceive.items =
      con.fifoReceive.items ++ extractMessageData P packet

instance (con : Connection) (packet : RastaPacket) :
    Decidable (ConfirmedIsDelivered P con packet) :=
  inferInstanceAs (Decidable (_ → _))

/-- The handler appends the messages of the packet. -/
def DeliversIn (con : Connection) (packet : RastaPacket) : Prop :=
  packet.type = .data ∧ con.currentState = .up ∨
    packet.type = .retrData ∧ con.currentState = .retrRun

instance (con : Connection) (packet : RastaPacket) : Decidable (DeliversIn con packet) :=
  inferInstanceAs (Decidable (_ ∨ _))

/-- An accepted packet loses messages: a regular Data PDU during a running retransmission, or
more messages than the receive queue has room for. -/
def LosesMessages (con : Connection) (packet : RastaPacket) : Prop :=
  ReachesHandler P con packet ∧ InSequence con packet ∧
    (packet.type = .data ∧ con.currentState = .retrRun ∧ extractMessageData P packet ≠ [] ∨
      DeliversIn con packet ∧
        con.fifoReceive.maxSize - con.fifoReceive.items.length <
          (extractMessageData P packet).length)

instance (con : Connection) (packet : RastaPacket) :
    Decidable (LosesMessages P con packet) :=
  inferInstanceAs (Decidable (_ ∧ _))

variable {con : Connection} {packet : RastaPacket}

/-- Receive attributes and receive queue are the same. -/
structure ReceiveUntouched (before after : Connection) : Prop where
  csT : after.csT = before.csT
  snR : after.snR = before.snR
  fifoReceive : after.fifoReceive = before.fifoReceive

theorem ReceiveUntouched.not_sets {before after : Connection}
    (h : ReceiveUntouched before after) (packet : RastaPacket) :
    ¬ SetsCsT before after packet := by
  rintro ⟨-, hmoved | hmoved⟩
  · exact hmoved h.csT
  · exact hmoved h.snR

theorem SendFrame.receiveUntouched {before after : Connection} (h : SendFrame before after) :
    ReceiveUntouched before after where
  csT := h.csT
  snR := h.snR
  fifoReceive := h.fifoReceive

theorem srCloseConnection_untouched (con : Connection) (reason : RastaDisconnectReason)
    (details : UInt16) : ReceiveUntouched con (srCloseConnection P con reason details) := by
  unfold srCloseConnection
  split
  · exact ⟨rfl, rfl, rfl⟩
  · exact ⟨rfl, rfl, rfl⟩

theorem srReceive_untouched_of_not_reaches (hreq : packet.type ≠ .connReq)
    (hresp : packet.type ≠ .connResp) (h : ¬ ReachesHandler P con packet) :
    ReceiveUntouched con (srReceive P con packet).1 := by
  unfold srReceive
  rw [if_neg hreq, if_neg hresp]
  by_cases hchecksum : packet.checksumCorrect = false
  · rw [if_pos hchecksum]
    exact ⟨rfl, rfl, rfl⟩
  by_cases hauth : srMessageAuthentic con packet = false
  · rw [if_neg hchecksum, if_pos hauth]
    exact ⟨rfl, rfl, rfl⟩
  by_cases hrange : srSnRangeValid con packet = false
  · rw [if_neg hchecksum, if_neg hauth, if_pos hrange]
    exact ⟨rfl, rfl, rfl⟩
  by_cases hcs : srCsValid con packet = false
  · rw [if_neg hchecksum, if_neg hauth, if_neg hrange, if_pos hcs]
    exact ⟨rfl, rfl, rfl⟩
  have hskipped : (srRekeyingSkipped P con).1 = true := by
    by_contra hnot
    simp only [Bool.not_eq_false, Bool.not_eq_true] at hchecksum hauth hrange hcs hnot
    exact h ⟨hchecksum, hauth, hrange, hcs, hnot⟩
  rw [if_neg hchecksum, if_neg hauth, if_neg hrange, if_neg hcs]
  simp only [hskipped, if_true]
  obtain ⟨reads, hreads⟩ := srRekeyingSkipped_snd P con
  have hclose := srCloseConnection_untouched P (tick (srRekeyingSkipped P con).2) .timeout 0
  rw [hreads] at hclose ⊢
  exact ⟨hclose.csT, hclose.snR, hclose.fifoReceive⟩

theorem handleData_untouched
    (h : ¬ (InSequence con packet ∧ (con.currentState = .up ∨ con.currentState = .retrRun))) :
    ReceiveUntouched con (handleData P con packet).1 := by
  have hclose := srCloseConnection_untouched P con
  have hcloseCs := srCloseConnection_untouched P (countCsError con) .protocolError 0
  have hretr := (sendRetransmissionRequest_frame P (countSnError con)).receiveUntouched
  unfold handleData
  cases hseq : srSnInSeq con packet with
  | true =>
    -- in sequence, so the running states only come here with a late packet
    have hcts : con.currentState = .up ∨ con.currentState = .retrRun →
        srCtsInSeq con packet = false := by
      intro hstate
      by_contra hnot
      exact h ⟨⟨hseq, by simpa using hnot⟩, hstate⟩
    simp only [if_true]
    cases hstate : con.currentState with
    | up =>
      simp only [hcts (.inl hstate), Bool.false_eq_true, if_false]
      exact ⟨hcloseCs.csT, hcloseCs.snR, hcloseCs.fifoReceive⟩
    | retrRun =>
      simp only [hcts (.inr hstate), Bool.false_eq_true, if_false]
      exact hclose _ _
    | start => exact hclose _ _
    | kexReq => exact hclose _ _
    | kexResp => exact hclose _ _
    | kexAuth => exact hclose _ _
    | closed => exact ⟨rfl, rfl, rfl⟩
    | down => exact ⟨rfl, rfl, rfl⟩
    | retrReq => exact ⟨rfl, rfl, rfl⟩
  | false =>
    simp only [Bool.false_eq_true, if_false]
    cases con.currentState with
    | start => exact hclose _ _
    | up => exact ⟨hretr.csT, hretr.snR, hretr.fifoReceive⟩
    | retrRun => exact ⟨hretr.csT, hretr.snR, hretr.fifoReceive⟩
    | _ => exact ⟨rfl, rfl, rfl⟩

theorem handleRetrdata_untouched
    (h : ¬ (InSequence con packet ∧ con.currentState = .retrRun)) :
    ReceiveUntouched con (handleRetrdata P con packet).1 := by
  have hclose := srCloseConnection_untouched P con
  have hretr := (sendRetransmissionRequest_frame P con).receiveUntouched
  unfold handleRetrdata
  cases hseq : srSnInSeq con packet with
  | true =>
    simp only [if_true]
    cases hstate : con.currentState with
    | up => exact hclose _ _
    | retrRun =>
      have hcts : srCtsInSeq con packet = false := by
        by_contra hnot
        exact h ⟨⟨hseq, by simpa using hnot⟩, hstate⟩
      simp only [hcts, Bool.false_eq_true, if_false]
      exact hclose _ _
    | _ => exact ⟨rfl, rfl, rfl⟩
  | false =>
    simp only [Bool.false_eq_true, if_false]
    cases con.currentState with
    | up => exact hclose _ _
    | retrRun => exact ⟨hretr.csT, hretr.snR, hretr.fifoReceive⟩
    | _ => exact ⟨rfl, rfl, rfl⟩

theorem handleData_up (hseq : InSequence con packet) (hstate : con.currentState = .up) :
    (handleData P con packet).1 = acceptData P con packet := by
  simp [handleData, hseq.1, hstate, hseq.2]

theorem acceptData_spec :
    (acceptData P con packet).csT = packet.sequenceNumber ∧
      (acceptData P con packet).snR = packet.sequenceNumber + 1 ∧
      (acceptData P con packet).fifoReceive.items =
        con.fifoReceive.items ++ (extractMessageData P packet).take
          (con.fifoReceive.maxSize - con.fifoReceive.items.length) := by
  have hframe := srRemoveConfirmedMessages_frame P
    (updateConfirmedAttrs
      (updateConnectionAttrs (srAddAppMessagesToBuffer P con packet) packet) packet)
  refine ⟨hframe.csT, hframe.snR, ?_⟩
  have hqueue := congrArg Fifo.items hframe.fifoReceive
  exact hqueue.trans (addAppMessages_fifoReceive P packet _ con).1

theorem handleRetrdata_spec (hseq : InSequence con packet) (hstate : con.currentState = .retrRun) :
    (handleRetrdata P con packet).1.csT = packet.sequenceNumber ∧
      (handleRetrdata P con packet).1.snR = packet.sequenceNumber + 1 ∧
      (handleRetrdata P con packet).1.fifoReceive.items =
        con.fifoReceive.items ++ (extractMessageData P packet).take
          (con.fifoReceive.maxSize - con.fifoReceive.items.length) := by
  have hqueue := (addAppMessages_fifoReceive P packet (extractMessageData P packet) con).1
  simp only [handleRetrdata, hseq.1, hstate, hseq.2, if_true]
  exact ⟨rfl, rfl, hqueue⟩

theorem append_take_eq_iff (queue messages : List Bytes) (room : ℕ) :
    queue ++ messages.take room = queue ++ messages ↔ messages.length ≤ room := by
  rw [List.append_cancel_left_eq, List.take_eq_self_iff]

/-- What a handler that appends the messages and then confirms the packet achieves. -/
theorem delivered_iff_room {after : Connection} (hseq : srSnInSeq con packet = true)
    (hcounted : packet.type = .data ∨ packet.type = .retrData)
    (hcs : after.csT = packet.sequenceNumber) (hsn : after.snR = packet.sequenceNumber + 1)
    (hqueue : after.fifoReceive.items = con.fifoReceive.items ++
      (extractMessageData P packet).take
        (con.fifoReceive.maxSize - con.fifoReceive.items.length)) :
    (SetsCsT con after packet → after.fifoReceive.items =
        con.fifoReceive.items ++ extractMessageData P packet) ↔
      (extractMessageData P packet).length ≤
        con.fifoReceive.maxSize - con.fifoReceive.items.length := by
  have hexpected : con.snR = packet.sequenceNumber := by
    rcases hcounted with htype | htype <;> simpa [srSnInSeq, htype] using hseq
  have hsets : SetsCsT con after packet := by
    refine ⟨hcs, Or.inr ?_⟩
    rw [hsn, hexpected]
    intro heq
    have hnat := congrArg UInt32.toNat heq
    have hlt := packet.sequenceNumber.toNat_lt
    rw [UInt32.toNat_add] at hnat
    simp only [UInt32.toNat_one] at hnat
    omega
  rw [hqueue, append_take_eq_iff]
  exact ⟨fun h => h hsets, fun h _ => h⟩

/-- During a running retransmission a regular Data PDU in sequence is confirmed and dropped. -/
theorem handleData_retrRun_iff (hseq : InSequence con packet)
    (hstate : con.currentState = .retrRun) (htype : packet.type = .data) :
    (SetsCsT con (handleData P con packet).1 packet →
        (handleData P con packet).1.fifoReceive.items =
          con.fifoReceive.items ++ extractMessageData P packet) ↔
      extractMessageData P packet = [] := by
  have hafter : (handleData P con packet).1 = updateConnectionAttrs con packet := by
    simp [handleData, hseq.1, hstate, hseq.2]
  have hexpected : con.snR = packet.sequenceNumber := by
    simpa [srSnInSeq, htype] using hseq.1
  have hsets : SetsCsT con (updateConnectionAttrs con packet) packet := by
    refine ⟨rfl, Or.inr ?_⟩
    rw [hexpected]
    intro heq
    have hnat := congrArg UInt32.toNat heq
    have hlt := packet.sequenceNumber.toNat_lt
    simp only [updateConnectionAttrs, UInt32.toNat_add, UInt32.toNat_one] at hnat
    omega
  have hqueue : (updateConnectionAttrs con packet).fifoReceive = con.fifoReceive := rfl
  rw [hafter, hqueue, List.self_eq_append_right]
  exact ⟨fun h => h hsets, fun h _ => h⟩

/-- A Data or RetrData PDU is never confirmed without its messages being delivered, except
exactly where an accepted one loses messages. -/
theorem confirmedIsDelivered_iff (htype : packet.type = .data ∨ packet.type = .retrData) :
    ConfirmedIsDelivered P con packet ↔ ¬ LosesMessages P con packet := by
  have hreq : packet.type ≠ .connReq := by rcases htype with h | h <;> simp [h]
  have hresp : packet.type ≠ .connResp := by rcases htype with h | h <;> simp [h]
  by_cases hreach : ReachesHandler P con packet
  swap
  · have hsame := srReceive_untouched_of_not_reaches P hreq hresp hreach
    exact iff_of_true (fun hsets => absurd hsets (hsame.not_sets packet))
      fun hloses => hreach hloses.1
  obtain ⟨reads, hreceive⟩ := srReceive_of_reaches P hreq hresp hreach
  unfold ConfirmedIsDelivered
  rw [hreceive]
  by_cases hseq : InSequence con packet
  swap
  · have hsame : ReceiveUntouched { con with clockReads := reads }
        (handleReceivedPacket P { con with clockReads := reads } packet).1 := by
      rcases htype with h | h <;> simp only [handleReceivedPacket, h]
      · exact handleData_untouched P fun hin => hseq hin.1
      · exact handleRetrdata_untouched P fun hin => hseq hin.1
    exact iff_of_true (fun hsets => absurd hsets (hsame.not_sets packet))
      fun hloses => hseq hloses.2.1
  -- the packet is accepted by its handler; only the state decides now
  rcases htype with hdata | hdata
  · simp only [handleReceivedPacket, hdata]
    by_cases hup : con.currentState = .up
    · have hafter := @handleData_up P { con with clockReads := reads } packet hseq hup
      obtain ⟨hcs, hsn, hqueue⟩ := @acceptData_spec P
        { con with clockReads := reads } packet
      rw [hafter]
      refine (delivered_iff_room P hseq.1 (.inl hdata) hcs hsn hqueue).trans ?_
      simp [LosesMessages, hreach, hseq, DeliversIn, hdata, hup]
    by_cases hrun : con.currentState = .retrRun
    · refine (@handleData_retrRun_iff P { con with clockReads := reads } packet hseq hrun
        hdata).trans ?_
      simp [LosesMessages, hreach, hseq, DeliversIn, hdata, hrun]
    · have hsame := @handleData_untouched P { con with clockReads := reads }
        packet (by rintro ⟨-, h | h⟩; exacts [hup h, hrun h])
      refine iff_of_true (fun hsets => absurd hsets (hsame.not_sets packet)) ?_
      simp [LosesMessages, DeliversIn, hdata, hup, hrun]
  · simp only [handleReceivedPacket, hdata]
    by_cases hrun : con.currentState = .retrRun
    · obtain ⟨hcs, hsn, hqueue⟩ := @handleRetrdata_spec P
        { con with clockReads := reads } packet hseq hrun
      refine (delivered_iff_room P hseq.1 (.inr hdata) hcs hsn hqueue).trans ?_
      simp [LosesMessages, hreach, hseq, DeliversIn, hdata, hrun]
    · have hsame := @handleRetrdata_untouched P { con with clockReads := reads }
        packet fun h => hrun h.2
      refine iff_of_true (fun hsets => absurd hsets (hsame.not_sets packet)) ?_
      simp [LosesMessages, DeliversIn, hdata, hrun]

end Confirmation

/-- The example connection in the middle of a retransmission. -/
def exampleRetrRun : Connection := { exampleRunning with currentState := .retrRun }

/-- A Data PDU with one message, numbered as `exampleRunning` expects. -/
def exampleData : RastaPacket :=
  { exampleHeartbeat with
    type := .data
    receiverId := exampleRunning.myId
    senderId := exampleRunning.remoteId
    sequenceNumber := 1
    data := messageStream [[0x68, 0x69]]
    checksumCorrect := true }

theorem confirmedIsDelivered_iff_up :
    (exampleData.type = .data ∨ exampleData.type = .retrData) ∧
      (ConfirmedIsDelivered referencePlatform exampleRunning exampleData ↔
        ¬ LosesMessages referencePlatform exampleRunning exampleData) :=
  ⟨by decide, confirmedIsDelivered_iff referencePlatform (by decide)⟩

/-- A regular Data PDU during a retransmission is confirmed, and its message is gone. -/
theorem data_in_retrRun_confirmed_not_delivered :
    exampleRetrRun.currentState = .retrRun ∧
      extractMessageData referencePlatform exampleData = [[0x68, 0x69]] ∧
      (srReceive referencePlatform exampleRetrRun exampleData).1.csT =
        exampleData.sequenceNumber ∧
      (srReceive referencePlatform exampleRetrRun exampleData).1.fifoReceive.items = [] ∧
      ¬ ConfirmedIsDelivered referencePlatform exampleRetrRun exampleData := by
  decide +kernel

end LibRasta.Retransmission
