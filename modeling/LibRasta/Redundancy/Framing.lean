/-
Module: LibRasta/Redundancy/Framing.lean
source: src/c/redundancy/rasta_red_multiplexer.c, src/c/transport/events.c
digest: A read that consists of whole PDUs is processed PDU by PDU, and the loop reports success exactly when the expected PDU is queued.
-/

import LibRasta.Redundancy.Dispatch

set_option autoImplicit false
set_option relaxedAutoImplicit false

namespace LibRasta.Redundancy

open LibRasta.Util
open LibRasta.Retransmission

/-- A PDU as it arrives: the connection at that time, and the memory from its first byte on. -/
structure Reception where
  con : Connection
  buffer : Bytes

namespace Reception

variable (P : Platform) (reception : Reception)

def size : ℕ := (leShortToHost P reception.buffer 0).toNat

/-- The decoded PDU. -/
def packet : RastaRedundancyPacket :=
  (handleReceivedData P reception.con reception.buffer (reception.size P)).1

end Reception

section OnePdu

variable (P : Platform)

theorem receivePdu_dispatched (endpoint : Endpoint) (channelId : ℕ) (buffer : Bytes) :
    ∃ lasterror, Dispatched P (setLasterror endpoint lasterror)
      (Reception.packet P { con := endpoint.con, buffer := buffer })
      (receivePdu P endpoint channelId buffer) := by
  unfold receivePdu Reception.packet Reception.size
  exact ⟨_, dispatchPdu_dispatched P _ channelId _⟩

/-- What a whole read leaves alone. -/
structure ReadFrame (before after : Endpoint) : Prop where
  con : ∃ reads lasterror, after.con =
    { before.con with clockReads := reads, lasterror := lasterror }
  associatedId : after.channel.associatedId = before.channel.associatedId
  seqRx : after.channel.seqRx = before.channel.seqRx
  delivered : after.channel.delivered = before.channel.delivered

theorem ReadFrame.refl (endpoint : Endpoint) : ReadFrame endpoint endpoint :=
  ⟨⟨endpoint.con.clockReads, endpoint.con.lasterror, rfl⟩, rfl, rfl, rfl⟩

theorem ReadFrame.trans {a b c : Endpoint} (hab : ReadFrame a b) (hbc : ReadFrame b c) :
    ReadFrame a c := by
  obtain ⟨⟨reads, lasterror, hb⟩, habId, habSeq, habDelivered⟩ := hab
  obtain ⟨⟨reads', lasterror', hc⟩, hbcId, hbcSeq, hbcDelivered⟩ := hbc
  refine ⟨⟨reads', lasterror', ?_⟩, hbcId.trans habId, hbcSeq.trans habSeq,
    hbcDelivered.trans habDelivered⟩
  rw [hc, hb]

theorem ReceiveFrame.readFrame {before after : Endpoint} {lasterror : RastaErrorType}
    (h : ReceiveFrame (setLasterror before lasterror) after) : ReadFrame before after := by
  obtain ⟨⟨reads, hcon⟩, hid, hseq, hdelivered⟩ := h
  exact ⟨⟨reads, lasterror, hcon⟩, hid, hseq, hdelivered⟩

theorem receivePdu_frame (endpoint : Endpoint) (channelId : ℕ) (buffer : Bytes) :
    ReadFrame endpoint (receivePdu P endpoint channelId buffer).1 := by
  obtain ⟨lasterror, hdispatched⟩ := receivePdu_dispatched P endpoint channelId buffer
  exact (hdispatched.frame P).readFrame

theorem deferqueueContains_add {queue : DeferQueue} (h : deferqueueIsfull queue = false)
    (packet : RastaRedundancyPacket) (recvTs seqNr : UInt64) :
    deferqueueContains (deferqueueAdd P queue packet recvTs).2 seqNr = true ↔
      packet.sequenceNumber.toUInt64 = seqNr ∨ deferqueueContains queue seqNr = true := by
  have hroom : queue.count ≠ queue.maxCount := by simpa [deferqueueIsfull] using h
  simp only [deferqueueContains_iff, (deferqueueAdd_live P hroom packet recvTs).mem_iff,
    List.mem_cons, exists_eq_or_imp, seqNrOf]

/-- The result of the loop so far tells whether the expected PDU is queued. -/
def Flagged (endpoint : Endpoint) (result : Bool) : Prop :=
  result = true ↔
    deferqueueContains endpoint.channel.deferQ endpoint.channel.seqRx = true

theorem receivePdu_flagged {endpoint : Endpoint} {result : Bool} (channelId : ℕ)
    (buffer : Bytes) (h : Flagged endpoint result) :
    Flagged (receivePdu P endpoint channelId buffer).1
      (result || (receivePdu P endpoint channelId buffer).2) := by
  obtain ⟨lasterror, hdispatched⟩ := receivePdu_dispatched P endpoint channelId buffer
  unfold Flagged at h ⊢
  generalize receivePdu P endpoint channelId buffer = received at hdispatched
  cases hdispatched with
  | discarded frame queue why =>
    rw [queue, frame.seqRx, Bool.or_false]
    exact h
  | queued frame recvTs queue why =>
    rw [queue, frame.seqRx, deferqueueContains_add P why.room, Bool.or_eq_true, h,
      decide_eq_true_eq, or_comm]
    exact Iff.rfl

/-- What holds before the loop of `receive_packet` and is kept by every round of it, at whatever
place of the memory, holds when the loop ends. -/
theorem receiveLoop_rule {inv : Endpoint → Bool → Prop} {memory : Bytes} {channelId : ℕ}
    (hstep : ∀ endpoint result offset, inv endpoint result →
      inv (receivePdu P endpoint channelId (memory.drop offset)).1
        (result || (receivePdu P endpoint channelId (memory.drop offset)).2))
    {rounds lenRemaining offset : ℕ} {endpoint : Endpoint} {result : Bool}
    {returned : Endpoint × Bool} (h : inv endpoint result)
    (hloop : receiveLoop P channelId rounds lenRemaining (memory.drop offset) endpoint result =
      some returned) : inv returned.1 returned.2 := by
  induction rounds generalizing lenRemaining offset endpoint result with
  | zero =>
    unfold receiveLoop at hloop
    split at hloop
    · obtain rfl := Option.some.inj hloop
      exact h
    · cases hloop
  | succ rounds ih =>
    unfold receiveLoop at hloop
    split at hloop
    · obtain rfl := Option.some.inj hloop
      exact h
    · simp only [List.drop_drop] at hloop
      exact ih (hstep endpoint result offset h) hloop

theorem receiveLoop_flagged (channelId rounds lenRemaining : ℕ) (buffer : Bytes)
    (endpoint : Endpoint) (result : Bool) {returned : Endpoint × Bool}
    (h : Flagged endpoint result)
    (hloop : receiveLoop P channelId rounds lenRemaining buffer endpoint result =
      some returned) : Flagged returned.1 returned.2 := by
  rw [← List.drop_zero (l := buffer)] at hloop
  exact receiveLoop_rule P (fun _ _ _ hmiddle => receivePdu_flagged P channelId _ hmiddle) h hloop

theorem runChannelDiagnostics_frame (endpoint : Endpoint) (channelId : ℕ) :
    ReceiveFrame endpoint (runChannelDiagnostics endpoint channelId) ∧
      (runChannelDiagnostics endpoint channelId).channel.deferQ = endpoint.channel.deferQ := by
  unfold runChannelDiagnostics
  simp only
  split
  · exact ⟨⟨⟨_, rfl⟩, rfl, rfl, rfl⟩, rfl⟩
  · exact ⟨⟨⟨_, rfl⟩, rfl, rfl, rfl⟩, rfl⟩

end OnePdu

section WholePdus

variable (P : Platform)

/-- The length field of the PDU is its length. -/
def Framed (pdu : Bytes) : Prop :=
  2 ≤ pdu.length ∧ (leShortToHost P pdu 0).toNat = pdu.length

instance (pdu : Bytes) : Decidable (Framed P pdu) :=
  inferInstanceAs (Decidable (_ ∧ _))

/-- One PDU after the other; each is decoded from the memory it shares with those after it and
with what else lies behind them. -/
def receivePdus (channelId : ℕ) (behind : Bytes) :
    List Bytes → Endpoint → Bool → Endpoint × Bool
  | [], endpoint, result => (endpoint, result)
  | pdu :: rest, endpoint, result =>
    let received := receivePdu P endpoint channelId (pdu ++ (rest.flatten ++ behind))
    receivePdus channelId behind rest received.1 (result || received.2)

theorem leShortToHost_append_left {pdu : Bytes} (h : 2 ≤ pdu.length) (rest : Bytes) :
    leShortToHost P (pdu ++ rest) 0 = leShortToHost P pdu 0 := by
  have hbyte : ∀ i, i < 2 → byteAt P (pdu ++ rest) i = byteAt P pdu i := by
    intro i hi
    have hlt : i < pdu.length := by omega
    simp [byteAt, List.getElem?_append_left hlt, hlt]
  simp only [leShortToHost, hbyte 0 (by omega), hbyte (0 + 1) (by omega)]

theorem receiveLoop_framed (channelId : ℕ) (pdus : List Bytes)
    (hframed : ∀ pdu ∈ pdus, Framed P pdu) (hlen : pdus.flatten.length < 2 ^ 64) (rounds : ℕ)
    (hrounds : pdus.length ≤ rounds) (endpoint : Endpoint) (result : Bool) :
    receiveLoop P channelId rounds pdus.flatten.length pdus.flatten endpoint result =
      some (receivePdus P channelId [] pdus endpoint result) := by
  induction pdus generalizing rounds endpoint result with
  | nil =>
    unfold receiveLoop
    simp [receivePdus]
  | cons pdu rest ih =>
    obtain ⟨hshort, hsize⟩ := hframed pdu List.mem_cons_self
    obtain ⟨rounds, rfl⟩ : ∃ n, rounds = n + 1 := by
      refine ⟨rounds - 1, ?_⟩
      simp only [List.length_cons] at hrounds
      omega
    simp only [List.flatten_cons, List.length_append] at hlen ⊢
    have hnonzero : ¬ pdu.length + rest.flatten.length = 0 := by omega
    have hremaining : (pdu.length + rest.flatten.length + 2 ^ 64 - pdu.length) % 2 ^ 64 =
        rest.flatten.length := by omega
    unfold receiveLoop
    rw [if_neg hnonzero]
    simp only [leShortToHost_append_left P hshort, hsize, hremaining, List.drop_left]
    rw [ih (fun p hp => hframed p (List.mem_cons_of_mem pdu hp)) (by omega) rounds
      (by simpa using hrounds)]
    simp only [receivePdus, List.append_nil]

theorem receivePdus_append (channelId : ℕ) (behind : Bytes) (front back : List Bytes)
    (endpoint : Endpoint) (result : Bool) :
    receivePdus P channelId behind (front ++ back) endpoint result =
      receivePdus P channelId behind back
        (receivePdus P channelId (back.flatten ++ behind) front endpoint result).1
        (receivePdus P channelId (back.flatten ++ behind) front endpoint result).2 := by
  induction front generalizing endpoint result with
  | nil => rfl
  | cons pdu rest ih =>
    simp only [List.cons_append, receivePdus, List.flatten_append, List.append_assoc]
    exact ih _ _

/-- A receive event whose read consists of whole PDUs. -/
theorem channelReceiveEvent_framed {read : Read} {pdus : List Bytes} {rounds : ℕ}
    {endpoint : Endpoint} (hbuffer : read.buffer = pdus.flatten)
    (hframed : ∀ pdu ∈ pdus, Framed P pdu) (hrounds : pdus.length ≤ rounds)
    (hrunning : endpoint.con.aborted = false) :
    channelReceiveEvent P rounds endpoint read = some (deliverAfter P
      (receivePdus P read.channelId [] pdus
        (runChannelDiagnostics endpoint read.channelId) false)) := by
  have hlen := read.length_lt
  unfold channelReceiveEvent receivePacket
  rw [hbuffer] at hlen ⊢
  rw [hrunning, receiveLoop_framed P read.channelId pdus hframed hlen rounds hrounds]
  rfl

/-- What holds before the PDUs and is kept by each of them holds after them. -/
theorem receivePdus_rule {inv : Endpoint → Bool → Prop} (channelId : ℕ) (behind : Bytes)
    (hstep : ∀ endpoint result buffer, inv endpoint result →
      inv (receivePdu P endpoint channelId buffer).1
        (result || (receivePdu P endpoint channelId buffer).2))
    (pdus : List Bytes) (endpoint : Endpoint) (result : Bool) (h : inv endpoint result) :
    inv (receivePdus P channelId behind pdus endpoint result).1
      (receivePdus P channelId behind pdus endpoint result).2 := by
  induction pdus generalizing endpoint result with
  | nil => exact h
  | cons pdu rest ih => exact ih _ _ (hstep endpoint result _ h)

theorem receivePdus_frame (channelId : ℕ) (behind : Bytes) (pdus : List Bytes)
    (endpoint : Endpoint) (result : Bool) :
    ReadFrame endpoint (receivePdus P channelId behind pdus endpoint result).1 := by
  refine @receivePdus_rule P (fun after _ => ReadFrame endpoint after) channelId behind ?_ pdus
    endpoint result (ReadFrame.refl endpoint)
  intro middle _ buffer hmiddle
  exact hmiddle.trans (receivePdu_frame P middle channelId buffer)

theorem receivePdus_flagged (channelId : ℕ) (behind : Bytes) (pdus : List Bytes)
    {endpoint : Endpoint} {result : Bool} (h : Flagged endpoint result) :
    Flagged (receivePdus P channelId behind pdus endpoint result).1
      (receivePdus P channelId behind pdus endpoint result).2 := by
  refine receivePdus_rule P channelId behind ?_ pdus endpoint result h
  intro middle r buffer hmiddle
  exact receivePdu_flagged P channelId buffer hmiddle

end WholePdus

end LibRasta.Redundancy
