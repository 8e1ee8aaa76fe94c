/-
Module: LibRasta/Retransmission/Backpressure.lean
source: src/c/retransmission/safety_retransmission.c, src/c/transport/events.c, src/c/util/fifo.c
digest: How many messages one call of sr_send can queue, counted over the flushes of its loop, and exactly when its result tells what became of the messages.
-/

import LibRasta.Retransmission.Session

set_option autoImplicit false
set_option relaxedAutoImplicit false

namespace LibRasta.Retransmission

open LibRasta.Util
open LibRasta.Factory

section Room

variable (P : Platform)

/-- The places further flushes make in a full send queue: each takes one place of the
retransmission queue and at most as many messages as that queue had places left. -/
def flushRoom (batch : ℕ) : ℕ → ℕ
  | 0 => 0
  | available + 1 => flushRoom batch available + min (available + 1) batch

/-- The places left in the retransmission queue, by the configured limit. -/
def retransmissionAvailable (con : Connection) : ℕ :=
  con.config.maxRetransmissionQueueSize.toNat - fifoGetSize con.fifoRetransmission

/-- The most messages one flush of a full send queue takes. -/
def batchSize (con : Connection) : ℕ := min con.config.maxPacket.toNat con.fifoSend.maxSize

/-- The messages the loop of `sr_send` can queue: the free places of the send queue and those its
flushes make. -/
def sendRoom (con : Connection) : ℕ :=
  con.fifoSend.maxSize - fifoGetSize con.fifoSend +
    flushRoom (batchSize con) (retransmissionAvailable con)

/-- The retransmission queue was allocated below the configured limit, so that flushing never
fills it up to the limit. -/
def NeverBacked (con : Connection) : Prop :=
  con.fifoRetransmission.maxSize < con.config.maxRetransmissionQueueSize.toNat ∧
    0 < con.fifoSend.maxSize

/-- A list of `n` messages can be queued. -/
def RoomFor (con : Connection) (n : ℕ) : Prop := n ≤ sendRoom con ∨ NeverBacked con

instance (con : Connection) : Decidable (NeverBacked con) :=
  inferInstanceAs (Decidable (_ ∧ _))

instance (con : Connection) (n : ℕ) : Decidable (RoomFor con n) :=
  inferInstanceAs (Decidable (_ ∨ _))

theorem flushRoom_pos {batch available : ℕ} :
    0 < flushRoom batch available ↔ 0 < batch ∧ 0 < available := by
  induction available with
  | zero => simp [flushRoom]
  | succ available ih =>
    simp only [flushRoom]
    omega

end Room

section Flush

variable {P : Platform} {con : Connection}

/-- How many messages `data_send_event` takes. -/
def takenCount (con : Connection) : ℕ := min con.config.maxPacket.toNat (sendBacklogSize con)

/-- `data_send_event` on the queues: nothing, or one packet for one batch. -/
theorem dataSendEvent_queues (con : Connection) :
    (dataSendEvent P con).fifoSend = fifoPopMany con.fifoSend (takenCount con) ∧
      ((sendBacklogSize con = 0 ∧
          (dataSendEvent P con).fifoRetransmission = con.fifoRetransmission) ∨
        0 < sendBacklogSize con ∧ ∃ bytes, (dataSendEvent P con).fifoRetransmission =
          (fifoPush con.fifoRetransmission bytes).2) := by
  have hstop : (dataSendEvent P con).fifoSend = (sendQueued P con).fifoSend ∧
      (dataSendEvent P con).fifoRetransmission = (sendQueued P con).fifoRetransmission := by
    unfold dataSendEvent stopIdleSending
    split
    · exact ⟨rfl, rfl⟩
    · exact ⟨rfl, rfl⟩
  rw [hstop.1, hstop.2]
  by_cases hbacklog : 0 < sendBacklogSize con
  · have hcount : (if con.config.maxPacket.toNat ≤ sendBacklogSize con then
        con.config.maxPacket.toNat else sendBacklogSize con) = takenCount con := by
      rw [takenCount, Nat.min_def]
    rw [sendQueued, if_pos hbacklog, hcount]
    exact ⟨rfl, .inr ⟨hbacklog, _, rfl⟩⟩
  · have hzero : sendBacklogSize con = 0 := by omega
    rw [sendQueued, if_neg hbacklog]
    refine ⟨?_, .inl ⟨hzero, rfl⟩⟩
    apply Fifo.ext_items
    · simp [fifoPopMany, takenCount, hzero]
    · rfl

theorem sendBacklogSize_of_full (hfull : fifoFull con.fifoSend = true) :
    sendBacklogSize con = min (retransmissionAvailable con) con.fifoSend.maxSize := by
  have hsize := fifoFull_eq_true.mp hfull
  simp only [sendBacklogSize, retransmissionAvailable, fifoGetSize, hsize]
  split
  · rfl
  · omega

/-- What a flush of the full send queue frees. -/
theorem free_dataSendEvent (hfull : fifoFull con.fifoSend = true) :
    (dataSendEvent P con).fifoSend.maxSize - fifoGetSize (dataSendEvent P con).fifoSend =
      min con.config.maxPacket.toNat (min (retransmissionAvailable con) con.fifoSend.maxSize) := by
  have hsize := fifoFull_eq_true.mp hfull
  simp only [(dataSendEvent_queues con).1, fifoPopMany, fifoGetSize, List.length_drop, hsize,
    takenCount, sendBacklogSize_of_full hfull]
  omega

theorem sendRoom_of_full (hfull : fifoFull con.fifoSend = true) :
    sendRoom con = flushRoom (batchSize con) (retransmissionAvailable con) := by
  have hsize := fifoFull_eq_true.mp hfull
  rw [sendRoom, fifoGetSize, hsize, Nat.sub_self, Nat.zero_add]

/-- A flush of the full send queue turns the next term of `flushRoom` into free places. -/
theorem sendRoom_dataSendEvent (hfull : fifoFull con.fifoSend = true)
    (hlimit : con.config.maxRetransmissionQueueSize.toNat ≤ con.fifoRetransmission.maxSize) :
    sendRoom (dataSendEvent P con) = sendRoom con := by
  have hconfig := (dataSendEvent_frame P con).config
  have hbacklog := sendBacklogSize_of_full hfull
  obtain ⟨hsend, hretransmission⟩ := @dataSendEvent_queues P con
  have hbatch : batchSize (dataSendEvent P con) = batchSize con := by
    simp only [batchSize, hconfig, hsend, fifoPopMany]
  rw [sendRoom_of_full hfull, sendRoom, free_dataSendEvent hfull, hbatch]
  rcases hretransmission with ⟨hzero, hkept⟩ | ⟨hpos, bytes, hpushed⟩
  · have havailable : retransmissionAvailable (dataSendEvent P con) =
        retransmissionAvailable con := by
      simp only [retransmissionAvailable, hconfig, hkept]
    rw [havailable, ← hbacklog, hzero, Nat.min_zero, Nat.zero_add]
  · rw [hbacklog, retransmissionAvailable, fifoGetSize] at hpos
    have hroom : con.fifoRetransmission.items.length < con.fifoRetransmission.maxSize := by omega
    have havailable : retransmissionAvailable con =
        retransmissionAvailable (dataSendEvent P con) + 1 := by
      simp only [retransmissionAvailable, hconfig, hpushed, fifoGetSize,
        (fifoPush_of_room hroom bytes).2, List.length_append, List.length_singleton]
      omega
    rw [havailable, flushRoom, batchSize]
    omega

variable (P con)

/-- The connection after the flush at the head of the loop of `sr_send`. -/
def flushIfFull : Connection := if fifoFull con.fifoSend then dataSendEvent P con else con

/-- The connection after a message was pushed. -/
def pushMessage (message : Bytes) : Connection :=
  enableSendEvent { con with fifoSend := (fifoPush con.fifoSend message).2 }

variable {P con}

theorem flushIfFull_config : (flushIfFull P con).config = con.config := by
  unfold flushIfFull
  split
  · exact (dataSendEvent_frame P con).config
  · rfl

theorem flushIfFull_capacities :
    (flushIfFull P con).fifoSend.maxSize = con.fifoSend.maxSize ∧
      (flushIfFull P con).fifoRetransmission.maxSize = con.fifoRetransmission.maxSize := by
  unfold flushIfFull
  split
  · obtain ⟨hsend, ⟨-, hkept⟩ | ⟨-, bytes, hpushed⟩⟩ := @dataSendEvent_queues P con
    · exact ⟨by rw [hsend]; rfl, by rw [hkept]⟩
    · exact ⟨by rw [hsend]; rfl, by rw [hpushed, fifoPush_maxSize]⟩
  · exact ⟨rfl, rfl⟩

theorem sendRoom_flushIfFull
    (hlimit : con.config.maxRetransmissionQueueSize.toNat ≤ con.fifoRetransmission.maxSize) :
    sendRoom (flushIfFull P con) = sendRoom con := by
  unfold flushIfFull
  split
  · exact sendRoom_dataSendEvent ‹_› hlimit
  · rfl

/-- After the flush there is a place exactly if there was any room. -/
theorem flushIfFull_place :
    (flushIfFull P con).fifoSend.items.length < (flushIfFull P con).fifoSend.maxSize ↔
      0 < sendRoom con := by
  unfold flushIfFull
  split
  · have hfull : fifoFull con.fifoSend = true := ‹_›
    have hfree := @free_dataSendEvent P con hfull
    have hpos := @flushRoom_pos (batchSize con) (retransmissionAvailable con)
    rw [sendRoom_of_full hfull, hpos, batchSize]
    rw [fifoGetSize] at hfree
    omega
  · have hplace : con.fifoSend.items.length < con.fifoSend.maxSize :=
      fifoFull_eq_false.mp (Bool.not_eq_true _ ▸ ‹_›)
    rw [sendRoom, fifoGetSize]
    omega

/-- Where the retransmission queue never fills up to the limit, every flush frees a place. -/
theorem flushIfFull_place_of_neverBacked (hnever : NeverBacked con)
    (hpacket : 0 < con.config.maxPacket.toNat) :
    (flushIfFull P con).fifoSend.items.length < (flushIfFull P con).fifoSend.maxSize := by
  obtain ⟨hlimit, hsend⟩ := hnever
  have hsize := con.fifoRetransmission.size_le
  have hpos : 0 < flushRoom (batchSize con) (retransmissionAvailable con) := by
    rw [flushRoom_pos, batchSize, retransmissionAvailable, fifoGetSize]
    omega
  rw [flushIfFull_place, sendRoom]
  omega

theorem sendRoom_pushMessage (message : Bytes)
    (hplace : con.fifoSend.items.length < con.fifoSend.maxSize) :
    sendRoom (pushMessage con message) + 1 = sendRoom con := by
  have hitems : (pushMessage con message).fifoSend.items = con.fifoSend.items ++ [message] :=
    (fifoPush_of_room hplace message).2
  have hmax : (pushMessage con message).fifoSend.maxSize = con.fifoSend.maxSize :=
    fifoPush_maxSize con.fifoSend message
  have hbatch : batchSize (pushMessage con message) = batchSize con := by
    rw [batchSize, hmax]
    rfl
  have havailable : retransmissionAvailable (pushMessage con message) =
      retransmissionAvailable con := rfl
  rw [sendRoom, sendRoom, hbatch, havailable, hmax, fifoGetSize, fifoGetSize, hitems,
    List.length_append, List.length_singleton]
  omega

end Flush

section Loop

variable {P : Platform} {con : Connection}

theorem sendMessages_cons_of_place {message : Bytes} {rest : List Bytes}
    (hplace : (flushIfFull P con).fifoSend.items.length < (flushIfFull P con).fifoSend.maxSize) :
    sendMessages P (message :: rest) con =
        sendMessages P rest (pushMessage (flushIfFull P con) message) ∧
      messagesPushed P (message :: rest) con =
        message :: messagesPushed P rest (pushMessage (flushIfFull P con) message) := by
  have hpush : (fifoPush (flushIfFull P con).fifoSend message).1 = true :=
    (fifoPush_of_room hplace message).1
  exact ⟨if_pos hpush, if_pos hpush⟩

theorem sendMessages_cons_of_full {message : Bytes} {rest : List Bytes}
    (hplace : ¬ (flushIfFull P con).fifoSend.items.length < (flushIfFull P con).fifoSend.maxSize) :
    sendMessages P (message :: rest) con = (flushIfFull P con, false) ∧
      messagesPushed P (message :: rest) con = [] := by
  have hpush := fifoPush_of_no_room hplace message
  exact ⟨if_neg hpush, if_neg hpush⟩

/-- The loop pushes a leading part of the list and returns 0 when that is all of it. -/
theorem sendMessages_result (messages : List Bytes) (con : Connection) :
    messagesPushed P messages con <+: messages ∧
      ((sendMessages P messages con).2 = true ↔ messagesPushed P messages con = messages) := by
  induction messages generalizing con with
  | nil => exact ⟨List.prefix_rfl, iff_of_true rfl rfl⟩
  | cons message rest ih =>
    by_cases hplace :
        (flushIfFull P con).fifoSend.items.length < (flushIfFull P con).fifoSend.maxSize
    · obtain ⟨hloop, hpushed⟩ := sendMessages_cons_of_place hplace
      obtain ⟨hleading, hresult⟩ := ih (pushMessage (flushIfFull P con) message)
      rw [hloop, hpushed, hresult, List.cons.injEq]
      exact ⟨(List.prefix_cons_inj message).mpr hleading, by simp⟩
    · obtain ⟨hloop, hpushed⟩ := sendMessages_cons_of_full hplace
      rw [hloop, hpushed]
      exact ⟨List.nil_prefix, by simp⟩

/-- The loop queues as many messages as there is room for. -/
theorem length_messagesPushed (messages : List Bytes) (con : Connection)
    (hlimit : con.config.maxRetransmissionQueueSize.toNat ≤ con.fifoRetransmission.maxSize) :
    (messagesPushed P messages con).length = min messages.length (sendRoom con) := by
  induction messages generalizing con with
  | nil => simp [messagesPushed]
  | cons message rest ih =>
    have hroom := @sendRoom_flushIfFull P con hlimit
    have hiff := @flushIfFull_place P con
    by_cases hplace :
        (flushIfFull P con).fifoSend.items.length < (flushIfFull P con).fifoSend.maxSize
    · have hone := sendRoom_pushMessage message hplace
      have hlimit' : (pushMessage (flushIfFull P con) message).config.maxRetransmissionQueueSize.toNat ≤
          (pushMessage (flushIfFull P con) message).fifoRetransmission.maxSize := by
        show (flushIfFull P con).config.maxRetransmissionQueueSize.toNat ≤
          (flushIfFull P con).fifoRetransmission.maxSize
        rw [flushIfFull_config, flushIfFull_capacities.2]
        exact hlimit
      rw [(sendMessages_cons_of_place hplace).2, List.length_cons, List.length_cons,
        ih _ hlimit']
      omega
    · rw [(sendMessages_cons_of_full hplace).2, List.length_nil]
      omega

theorem messagesPushed_of_neverBacked (messages : List Bytes) (con : Connection)
    (hnever : NeverBacked con) (hpacket : 0 < con.config.maxPacket.toNat) :
    messagesPushed P messages con = messages := by
  induction messages generalizing con with
  | nil => rfl
  | cons message rest ih =>
    have hplace := @flushIfFull_place_of_neverBacked P con hnever hpacket
    have hnever' : NeverBacked (pushMessage (flushIfFull P con) message) := by
      have hmax : (pushMessage (flushIfFull P con) message).fifoSend.maxSize =
          (flushIfFull P con).fifoSend.maxSize := fifoPush_maxSize _ message
      refine ⟨?_, by rw [hmax, flushIfFull_capacities.1]; exact hnever.2⟩
      show (flushIfFull P con).fifoRetransmission.maxSize <
        (flushIfFull P con).config.maxRetransmissionQueueSize.toNat
      rw [flushIfFull_config, flushIfFull_capacities.2]
      exact hnever.1
    have hpacket' : 0 < (pushMessage (flushIfFull P con) message).config.maxPacket.toNat := by
      show 0 < (flushIfFull P con).config.maxPacket.toNat
      rw [flushIfFull_config]
      exact hpacket
    rw [(sendMessages_cons_of_place hplace).2, ih _ hnever' hpacket']

end Loop

section Account

variable (P : Platform)

/-- The messages a call of `sr_send` pushes to `fifo_send`. -/
def sendPushes (con : Connection) (appMessages : List Bytes) : List Bytes :=
  if con.currentState = .up ∧ appMessages.length ≤ con.config.maxPacket.toNat then
    messagesPushed P appMessages con
  else []

/-- Between the two states these messages were appended to `fifo_send`, from where the Data PDUs
sent meanwhile took their batches. -/
def QueuedAndTaken (before after : Connection) (queued : List Bytes) : Prop :=
  ∃ out batches, after.sent = before.sent ++ out ∧
    List.Forall₂ (fun pdu batch => ∃ header,
        pdu.packet = createDataMessage P header batch before.srHashingContext)
      (out.filter fun pdu => pdu.packet.type = .data) batches ∧
    before.fifoSend.items ++ queued = batches.flatten ++ after.fifoSend.items

variable {P} {a b c : Connection} {first second : List Bytes}

theorem QueuedAndTaken.trans (hab : QueuedAndTaken P a b first) (hbc : QueuedAndTaken P b c second)
    (hctx : b.srHashingContext = a.srHashingContext) : QueuedAndTaken P a c (first ++ second) := by
  obtain ⟨out, batches, hsent, hpackets, hqueue⟩ := hab
  obtain ⟨out', batches', hsent', hpackets', hqueue'⟩ := hbc
  refine ⟨out ++ out', batches ++ batches', by rw [hsent', hsent, List.append_assoc], ?_, ?_⟩
  · rw [List.filter_append]
    rw [hctx] at hpackets'
    exact List.rel_append hpackets hpackets'
  · calc a.fifoSend.items ++ (first ++ second)
        = batches.flatten ++ (b.fifoSend.items ++ second) := by
          rw [← List.append_assoc, hqueue, List.append_assoc]
      _ = (batches ++ batches').flatten ++ c.fifoSend.items := by
          rw [hqueue', List.flatten_append, List.append_assoc]

/-- A step that sends no Data PDU and leaves the send queue alone. -/
theorem queuedAndTaken_of_same {out : List SentPdu} (hsent : b.sent = a.sent ++ out)
    (hquiet : ∀ pdu ∈ out, pdu.packet.type ≠ .data) (hqueue : b.fifoSend = a.fifoSend) :
    QueuedAndTaken P a b [] := by
  have hnone : (out.filter fun pdu => pdu.packet.type = .data) = [] := by
    simpa [List.filter_eq_nil_iff] using hquiet
  refine ⟨out, [], hsent, hnone ▸ .nil, ?_⟩
  rw [hqueue, List.append_nil, List.flatten_nil, List.nil_append]

theorem dataSendEvent_taken (con : Connection) :
    QueuedAndTaken P con (dataSendEvent P con) [] := by
  have hstop : (dataSendEvent P con).fifoSend = (sendQueued P con).fifoSend ∧
      (dataSendEvent P con).sent = (sendQueued P con).sent := by
    unfold dataSendEvent stopIdleSending
    split
    · exact ⟨rfl, rfl⟩
    · exact ⟨rfl, rfl⟩
  unfold QueuedAndTaken
  rw [hstop.1, hstop.2]
  unfold sendQueued
  split
  swap
  · exact queuedAndTaken_of_same (List.append_nil _).symm nofun rfl
  generalize (if con.config.maxPacket.toNat ≤ sendBacklogSize con then con.config.maxPacket.toNat
    else sendBacklogSize con) = n
  refine ⟨_, [con.fifoSend.items.take n], rfl, .cons ⟨nextHeader con, rfl⟩ .nil, ?_⟩
  show con.fifoSend.items ++ [] = [con.fifoSend.items.take n].flatten ++ con.fifoSend.items.drop n
  rw [List.flatten_singleton, List.take_append_drop, List.append_nil]

theorem flushIfFull_taken (con : Connection) :
    QueuedAndTaken P con (flushIfFull P con) [] ∧
      (flushIfFull P con).srHashingContext = con.srHashingContext := by
  unfold flushIfFull
  split
  · exact ⟨dataSendEvent_taken con, (dataSendEvent_frame P con).srHashingContext⟩
  · exact ⟨queuedAndTaken_of_same (List.append_nil _).symm nofun rfl, rfl⟩

theorem pushMessage_taken {con : Connection} (message : Bytes)
    (hplace : con.fifoSend.items.length < con.fifoSend.maxSize) :
    QueuedAndTaken P con (pushMessage con message) [message] := by
  refine ⟨[], [], (List.append_nil _).symm, .nil, ?_⟩
  exact (fifoPush_of_room hplace message).2.symm

theorem sendMessages_taken (messages : List Bytes) (con : Connection) :
    QueuedAndTaken P con (sendMessages P messages con).1 (messagesPushed P messages con) := by
  induction messages generalizing con with
  | nil => exact queuedAndTaken_of_same (List.append_nil _).symm nofun rfl
  | cons message rest ih =>
    obtain ⟨hflush, hctx⟩ := @flushIfFull_taken P con
    by_cases hplace :
        (flushIfFull P con).fifoSend.items.length < (flushIfFull P con).fifoSend.maxSize
    · obtain ⟨hloop, hpushed⟩ := @sendMessages_cons_of_place P con message rest hplace
      rw [hloop, hpushed]
      exact (hflush.trans (pushMessage_taken message hplace) hctx).trans (ih _) hctx
    · obtain ⟨hloop, hpushed⟩ := @sendMessages_cons_of_full P con message rest hplace
      rw [hloop, hpushed]
      exact hflush

theorem sendPushes_of_not_up {con : Connection} {appMessages : List Bytes}
    (hstate : con.currentState ≠ .up) : sendPushes P con appMessages = [] :=
  if_neg fun h => hstate h.1

theorem srSend_taken (con : Connection) (appMessages : List Bytes) :
    QueuedAndTaken P con (srSend P con appMessages).1 (sendPushes P con appMessages) := by
  have hrefused : QueuedAndTaken P con
      (setState (sendDisconnectionRequest P con .serviceNotAllowed 0) .closed) [] := by
    refine queuedAndTaken_of_same rfl ?_ rfl
    intro pdu hpdu
    rw [List.mem_singleton.mp hpdu]
    exact nofun
  have hsame : QueuedAndTaken P con con [] :=
    queuedAndTaken_of_same (List.append_nil _).symm nofun rfl
  unfold srSend
  split <;> rename_i hstate
  · rw [sendPushes]
    split
    · rw [if_neg (by omega)]
      exact hsame
    · rw [if_pos ⟨hstate, by omega⟩]
      exact sendMessages_taken appMessages con
  · rw [sendPushes_of_not_up (by rw [hstate]; exact nofun)]
    exact hsame
  · rw [sendPushes_of_not_up (by rw [hstate]; exact nofun)]
    exact hsame
  all_goals
    rw [sendPushes_of_not_up (by rw [hstate]; exact nofun)]
    exact hrefused

end Account

section Result

variable (P : Platform) (con : Connection) (appMessages : List Bytes)

/-- The result of `sr_send` tells what became of the messages: all of them were queued when it is
0, none of them when it is -1. -/
def AllOrNothing : Prop :=
  ((srSend P con appMessages).2 = true → sendPushes P con appMessages = appMessages) ∧
    ((srSend P con appMessages).2 = false → sendPushes P con appMessages = [])

/-- No messages are dropped in CLOSED or DOWN, and in UP the list is too long for one packet, or
there is room for all its messages, or for none at all. -/
def ResultTells : Prop :=
  match con.currentState with
  | .closed | .down => appMessages = []
  | .up => con.config.maxPacket.toNat < appMessages.length ∨ RoomFor con appMessages.length ∨
      ¬ RoomFor con 1
  | _ => True

variable {P con appMessages}

theorem messagesPushed_nil_iff :
    messagesPushed P appMessages con = [] ↔ appMessages = [] ∨ sendRoom con = 0 := by
  cases appMessages with
  | nil => simp [messagesPushed]
  | cons message rest =>
    have hiff := @flushIfFull_place P con
    by_cases hplace :
        (flushIfFull P con).fifoSend.items.length < (flushIfFull P con).fifoSend.maxSize
    · have hroom := hiff.mp hplace
      rw [(sendMessages_cons_of_place hplace).2]
      simp only [reduceCtorEq, false_or, false_iff]
      omega
    · have hnone : ¬ 0 < sendRoom con := fun hroom => hplace (hiff.mpr hroom)
      rw [(sendMessages_cons_of_full hplace).2]
      simp only [reduceCtorEq, false_or, true_iff]
      omega

theorem roomFor_one_iff (hpacket : 0 < con.config.maxPacket.toNat) :
    RoomFor con 1 ↔ 0 < sendRoom con := by
  constructor
  · rintro (hroom | hnever)
    · exact hroom
    · exact (@flushIfFull_place referencePlatform con).mp
        (flushIfFull_place_of_neverBacked hnever hpacket)
  · exact .inl

/-- The loop queues the whole list exactly if there is room for it. -/
theorem messagesPushed_all_iff (hlength : appMessages.length ≤ con.config.maxPacket.toNat) :
    messagesPushed P appMessages con = appMessages ↔ RoomFor con appMessages.length := by
  rcases Nat.eq_zero_or_pos appMessages.length with hzero | hsome
  · rw [List.length_eq_zero_iff.mp hzero]
    exact iff_of_true rfl (.inl (Nat.zero_le _))
  by_cases hnever : NeverBacked con
  · exact iff_of_true (messagesPushed_of_neverBacked appMessages con hnever (by omega))
      (.inr hnever)
  have hroomFor : RoomFor con appMessages.length ↔ appMessages.length ≤ sendRoom con :=
    or_iff_left hnever
  rw [hroomFor]
  by_cases hlimit : con.config.maxRetransmissionQueueSize.toNat ≤ con.fifoRetransmission.maxSize
  · have hcount := @length_messagesPushed P appMessages con hlimit
    have hleading := (@sendMessages_result P appMessages con).1
    constructor
    · intro hall
      rw [hall] at hcount
      omega
    · intro hroom
      exact hleading.eq_of_length (by omega)
  · -- a send queue without places: nothing is ever queued
    have hempty : con.fifoSend.maxSize = 0 := by
      by_contra hplaces
      exact hnever ⟨by omega, by omega⟩
    have hroom : ¬ 0 < sendRoom con := by
      have hpos := @flushRoom_pos (batchSize con) (retransmissionAvailable con)
      rw [batchSize, hempty] at hpos
      rw [sendRoom, batchSize, hempty]
      omega
    have hnone : messagesPushed P appMessages con = [] := messagesPushed_nil_iff.mpr (.inr (by omega))
    rw [hnone]
    refine iff_of_false (fun hnil => ?_) (by omega)
    rw [← hnil, List.length_nil] at hsome
    omega

theorem sendMessages_allOrNothing_iff
    (hlength : appMessages.length ≤ con.config.maxPacket.toNat) :
    (((sendMessages P appMessages con).2 = true →
        messagesPushed P appMessages con = appMessages) ∧
      ((sendMessages P appMessages con).2 = false → messagesPushed P appMessages con = [])) ↔
      RoomFor con appMessages.length ∨ ¬ RoomFor con 1 := by
  have hresult := (@sendMessages_result P appMessages con).2
  have hall := @messagesPushed_all_iff P con appMessages hlength
  rw [← hall]
  constructor
  · rintro ⟨-, hnone⟩
    by_cases hpushed : messagesPushed P appMessages con = appMessages
    · exact .inl hpushed
    · right
      have hfailed := Bool.eq_false_iff.mpr fun htrue => hpushed (hresult.mp htrue)
      have hnil := hnone hfailed
      rcases messagesPushed_nil_iff.mp hnil with rfl | hroom
      · exact absurd hnil hpushed
      · have hpacket : 0 < con.config.maxPacket.toNat := by
          have hsome : appMessages.length ≠ 0 := by
            intro hzero
            exact hpushed (by rw [hnil, List.length_eq_zero_iff.mp hzero])
          omega
        rw [roomFor_one_iff hpacket]
        omega
  · intro hcases
    refine ⟨hresult.mp, fun hfailed => ?_⟩
    rcases hcases with hpushed | hroom
    · exact absurd (hresult.mpr hpushed) (by rw [hfailed]; exact Bool.false_ne_true)
    · refine messagesPushed_nil_iff.mpr (.inr ?_)
      have hnone : ¬ 1 ≤ sendRoom con := fun h => hroom (.inl h)
      omega

/-- For every connection and every list of messages: the messages `sr_send` pushed went through
the send queue in their order, and its result is honest about them if and only if nothing was to
be sent in CLOSED or DOWN, and in UP the list was refused as a whole or there was room for all of
it or for none. -/
theorem srSend_allOrNothing_iff (P : Platform) (con : Connection) (appMessages : List Bytes) :
    QueuedAndTaken P con (srSend P con appMessages).1 (sendPushes P con appMessages) ∧
      (AllOrNothing P con appMessages ↔ ResultTells con appMessages) := by
  refine ⟨srSend_taken con appMessages, ?_⟩
  by_cases hup : con.currentState = .up
  · by_cases hlong : con.config.maxPacket.toNat < appMessages.length
    · have hrefused : (srSend P con appMessages).2 = false := by
        simp only [srSend, hup, gt_iff_lt, if_pos hlong]
      have hnone : sendPushes P con appMessages = [] := if_neg fun h => absurd h.2 (by omega)
      refine iff_of_true ⟨fun h => ?_, fun _ => hnone⟩ ?_
      · rw [hrefused] at h
        cases h
      · simp only [ResultTells, hup]
        exact .inl hlong
    · have hloop : srSend P con appMessages = sendMessages P appMessages con := by
        simp only [srSend, hup, gt_iff_lt, if_neg hlong]
      have hpushes : sendPushes P con appMessages = messagesPushed P appMessages con :=
        if_pos ⟨hup, by omega⟩
      simp only [AllOrNothing, ResultTells, hup, hloop, hpushes, hlong, false_or]
      exact sendMessages_allOrNothing_iff (by omega)
  · have hnone : sendPushes P con appMessages = [] := sendPushes_of_not_up hup
    cases hstate : con.currentState with
    | up => exact absurd hstate hup
    | closed | down => simp [AllOrNothing, ResultTells, srSend, hstate, hnone, eq_comm]
    | start | kexReq | kexResp | kexAuth | retrReq | retrRun =>
      simp [AllOrNothing, ResultTells, srSend, hstate, hnone]

end Result

section Example

/-- A connection nobody connected yet. -/
def exampleClosed : Connection := rastaLibInitConfiguration exampleConfig fun _ => 0

/-- `exampleRunning` after four unconfirmed Data PDUs and five more queued messages: the
retransmission queue is full and the send queue has one place left. -/
def exampleBacked : Connection :=
  let send := fun con => (srSend referencePlatform con [[0x68]]).1
  send^[5] ((fun con => dataSendEvent referencePlatform (send con))^[4] exampleRunning)

/-- A closed connection drops the message and reports success; a running one with one place left
queues the first of two messages and reports failure. -/
theorem srSend_reports_wrongly :
    (exampleClosed.currentState = .closed ∧
      (srSend referencePlatform exampleClosed [[0x68]]).2 = true ∧
      (srSend referencePlatform exampleClosed [[0x68]]).1.fifoSend.items = [] ∧
      ¬ AllOrNothing referencePlatform exampleClosed [[0x68]]) ∧
    exampleBacked.currentState = .up ∧
      (srSend referencePlatform exampleBacked [[0x69], [0x6a]]).2 = false ∧
      (srSend referencePlatform exampleBacked [[0x69], [0x6a]]).1.fifoSend.items =
        exampleBacked.fifoSend.items ++ [[0x69]] ∧
      ¬ AllOrNothing referencePlatform exampleBacked [[0x69], [0x6a]] := by
  refine ⟨⟨by decide +kernel, by decide +kernel, by decide +kernel, ?_⟩, by decide +kernel,
    by decide +kernel, by decide +kernel, ?_⟩
  · rintro ⟨hall, -⟩
    exact absurd (hall (by decide +kernel)) (by decide +kernel)
  · rintro ⟨-, hnone⟩
    exact absurd (hnone (by decide +kernel)) (by decide +kernel)

end Example

end LibRasta.Retransmission
