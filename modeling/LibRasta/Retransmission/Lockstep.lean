/-
Module: LibRasta/Retransmission/Lockstep.lean
source: src/c/retransmission/handlers.c, src/c/retransmission/safety_retransmission.c, src/c/retransmission/messages.c, src/c/transport/events.c
digest: Over links that lose nothing, two endpoints stay in step from the handshake on: every PDU is the expected one, nothing is requested again, and no message is missing.
-/

import LibRasta.Lib.Lockstep
import LibRasta.Retransmission.EndToEnd

set_option autoImplicit false
set_option relaxedAutoImplicit false

namespace LibRasta.Retransmission

open LibRasta.Lib
open LibRasta.Lib.Lockstep
open LibRasta.Util
open LibRasta.Factory

section Relations

variable (P : Platform) (ctx : RastaHashingContext)

/-- The next reading of the clock in milliseconds, of which `cur_timestamp` keeps 32 bits. -/
def now (con : Connection) : ℕ := con.clock con.clockReads / 10 ^ 6

/-- The messages a PDU brings if it is a Data PDU. -/
def messagesIn (packet : RastaPacket) : List Bytes :=
  if packet.type = .data then extractMessageData P packet else []

/-- The bytes on the link show the frame: a heartbeat or Data PDU of `sender` for `receiver`. -/
structure Shows (sender receiver : UInt32) (bytes : Bytes) (frame : Frame Bytes) : Prop where
  whole : 28 + ctx.checksumLen ≤ bytes.length
  checksum : (decodePdu P ctx bytes).checksumCorrect = true
  type : (decodePdu P ctx bytes).type = .hb ∨ (decodePdu P ctx bytes).type = .data
  senderId : (decodePdu P ctx bytes).senderId = sender
  receiverId : (decodePdu P ctx bytes).receiverId = receiver
  number : (decodePdu P ctx bytes).sequenceNumber = UInt32.ofNat frame.number
  confirms : (decodePdu P ctx bytes).confirmedSequenceNumber = UInt32.ofNat frame.confirms
  stamp : (decodePdu P ctx bytes).timestamp = UInt32.ofNat frame.stamp
  echo : (decodePdu P ctx bytes).confirmedTimestamp = UInt32.ofNat frame.echo
  messages : messagesIn P (decodePdu P ctx bytes) = frame.messages

/-- The connection counts and stores for sending what the side does. -/
structure Speaks (con : Connection) (s : Side Bytes) : Prop where
  hashingContext : con.hashingContext = ctx
  srHashingContext : con.srHashingContext = ctx
  lasterror : con.lasterror = .none
  kept : ∀ bytes ∈ con.fifoRetransmission.items, 28 + ctx.checksumLen ≤ bytes.length
  fits : QueueFits ctx con.config.maxPacket.toNat con.fifoSend.items
  monotone : Monotone con.clock
  next : con.snT = UInt32.ofNat s.next
  confirms : con.csT = UInt32.ofNat (s.expected - 1)
  clock : now con = s.clock
  seen : con.tsR = UInt32.ofNat s.seen
  queue : con.fifoSend.items = s.queue

/-- What neither sending nor the timers change: the state and everything known about the peer. -/
structure PeerFrame (before after : Connection) : Prop where
  currentState : after.currentState = before.currentState
  role : after.role = before.role
  snR : after.snR = before.snR
  csT : after.csT = before.csT
  csR : after.csR = before.csR
  tsR : after.tsR = before.tsR
  ctsR : after.ctsR = before.ctsR
  myId : after.myId = before.myId
  remoteId : after.remoteId = before.remoteId
  kexState : after.kexState = before.kexState
  config : after.config = before.config
  clock : after.clock = before.clock
  clockReads : before.clockReads ≤ after.clockReads
  aborted : after.aborted = before.aborted

/-- Between two connections lie only clock readings and timers. -/
structure Idles (before after : Connection) : Prop where
  frame : PeerFrame before after
  same : SameSender before after

/-- Only heartbeats and Data PDUs. -/
def Plain (out : List SentPdu) : Prop :=
  ∀ pdu ∈ out, pdu.packet.type = .hb ∨ pdu.packet.type = .data

/-- Whatever side the connection is, it sends frames of that side and takes over the messages. -/
structure Utters (before after : Connection) (messages : List Bytes) : Prop where
  frame : PeerFrame before after
  sent : before.sent <+: after.sent
  speaks : ∀ s, Speaks ctx before s → Plain (newlySent before after) ∧
    ∃ s' frames, Emission s s' frames ∧ Speaks ctx after s' ∧
      List.Forall₂ (Shows P ctx before.myId before.remoteId)
        ((newlySent before after).map SentPdu.innerBytes) frames ∧
      s'.pushed = s.pushed ++ messages

variable {P ctx} {con after : Connection} {s : Side Bytes}

theorem SendFrame.peerFrame (h : SendFrame con after) : PeerFrame con after where
  currentState := h.currentState
  role := h.role
  snR := h.snR
  csT := h.csT
  csR := h.csR
  tsR := h.tsR
  ctsR := h.ctsR
  myId := h.myId
  remoteId := h.remoteId
  kexState := h.kexState
  config := h.config
  clock := h.clock
  clockReads := h.clockReads
  aborted := h.aborted

theorem PeerFrame.trans {a b c : Connection} (hab : PeerFrame a b) (hbc : PeerFrame b c) :
    PeerFrame a c where
  currentState := hbc.currentState.trans hab.currentState
  role := hbc.role.trans hab.role
  snR := hbc.snR.trans hab.snR
  csT := hbc.csT.trans hab.csT
  csR := hbc.csR.trans hab.csR
  tsR := hbc.tsR.trans hab.tsR
  ctsR := hbc.ctsR.trans hab.ctsR
  myId := hbc.myId.trans hab.myId
  remoteId := hbc.remoteId.trans hab.remoteId
  kexState := hbc.kexState.trans hab.kexState
  config := hbc.config.trans hab.config
  clock := hbc.clock.trans hab.clock
  clockReads := hab.clockReads.trans hbc.clockReads
  aborted := hbc.aborted.trans hab.aborted

theorem Plain.append {first second : List SentPdu} (hfirst : Plain first) (hsecond : Plain second) :
    Plain (first ++ second) := by
  intro pdu hpdu
  rcases List.mem_append.mp hpdu with h | h
  · exact hfirst pdu h
  · exact hsecond pdu h

theorem Utters.trans {a b c : Connection} {messages more : List Bytes}
    (hab : Utters P ctx a b messages) (hbc : Utters P ctx b c more) :
    Utters P ctx a c (messages ++ more) := by
  refine ⟨hab.frame.trans hbc.frame, hab.sent.trans hbc.sent, fun s hs => ?_⟩
  obtain ⟨hplain, s', first, hemits, hs', hshows, hpushed⟩ := hab.speaks s hs
  obtain ⟨hplain', s'', second, hemits', hs'', hshows', hpushed'⟩ := hbc.speaks s' hs'
  rw [newlySent_append hab.sent hbc.sent]
  refine ⟨hplain.append hplain', s'', first ++ second, hemits.trans hemits', hs'', ?_, ?_⟩
  · rw [hab.frame.myId, hab.frame.remoteId] at hshows'
    rw [List.map_append]
    exact List.rel_append hshows hshows'
  · rw [hpushed', hpushed, List.append_assoc]

/-- The clock of a connection that read it more often. -/
theorem now_le_now (hmonotone : Monotone con.clock) (hclock : after.clock = con.clock)
    (hreads : con.clockReads ≤ after.clockReads) : now con ≤ now after := by
  rw [now, now, hclock]
  exact Nat.div_le_div_right (hmonotone hreads)

theorem Idles.refl (con : Connection) : Idles con con :=
  ⟨(SendFrame.refl con).peerFrame, rfl, rfl, rfl, rfl, rfl, rfl, rfl, rfl⟩

theorem Idles.later (h : Idles con after) (hmonotone : Monotone con.clock) : now con ≤ now after :=
  now_le_now hmonotone h.frame.clock h.frame.clockReads

theorem Idles.newlySent (h : Idles con after) : newlySent con after = [] :=
  newlySent_eq (by simp [h.same.sent])

theorem Speaks.idles (hs : Speaks ctx con s) (h : Idles con after) :
    Speaks ctx after { s with clock := now after } ∧ s.clock ≤ now after := by
  obtain ⟨hframe, hsame⟩ := h
  refine ⟨⟨hsame.hashingContext.trans hs.hashingContext,
    hsame.srHashingContext.trans hs.srHashingContext, hsame.lasterror.trans hs.lasterror, ?_, ?_,
    ?_, hsame.snT.trans hs.next, hframe.csT.trans hs.confirms, rfl, ?_, ?_⟩, ?_⟩
  · rw [hsame.fifoRetransmission]
    exact hs.kept
  · rw [hsame.config, hsame.fifoSend]
    exact hs.fits
  · rw [hframe.clock]
    exact hs.monotone
  · rw [hframe.tsR]
    exact hs.seen
  · rw [hsame.fifoSend]
    exact hs.queue
  · rw [← hs.clock]
    exact now_le_now hs.monotone hframe.clock hframe.clockReads

theorem Idles.utters (h : Idles con after) : Utters P ctx con after [] := by
  refine ⟨h.frame, by rw [h.same.sent], fun s hs => ?_⟩
  obtain ⟨hspeaks, hclock⟩ := hs.idles h
  rw [h.newlySent]
  exact ⟨by simp [Plain], _, [], .wait s _ hclock, hspeaks, .nil, (List.append_nil _).symm⟩

end Relations

section Sending

variable {P : Platform} {ctx : RastaHashingContext} {con base : Connection} {s : Side Bytes}
  {data : RastaPacket} {messages : List Bytes}

/-- The header fields of a packet. -/
def headerOf (packet : RastaPacket) : PacketHeader where
  receiverId := packet.receiverId
  senderId := packet.senderId
  sequenceNumber := packet.sequenceNumber
  confirmedSequenceNumber := packet.confirmedSequenceNumber
  timestamp := packet.timestamp
  confirmedTimestamp := packet.confirmedTimestamp

/-- The frame a side sends next. -/
def nextFrame (s : Side Bytes) (messages : List Bytes) : Frame Bytes where
  number := s.next
  confirms := s.expected - 1
  stamp := s.clock
  echo := s.seen
  messages := messages

theorem Speaks.shows (hs : Speaks ctx con s) (hlength : 28 + ctx.checksumLen ≤ data.length.toNat)
    (htype : data.type = .hb ∨ data.type = .data) (hheader : headerOf data = nextHeader con)
    (hmessages : messagesIn P (reencoded P data ctx) = messages) :
    Shows P ctx con.myId con.remoteId (encodePdu P ctx data) (nextFrame s messages) := by
  have hdecoded := decodePdu_encodePdu P hlength
  have hfields : headerOf (reencoded P data ctx) = nextHeader con := hheader
  constructor
  · rwa [length_encodePdu P hlength]
  · rw [hdecoded]
    rfl
  · rw [hdecoded]
    exact htype
  · rw [hdecoded]
    exact congrArg PacketHeader.senderId hfields
  · rw [hdecoded]
    exact congrArg PacketHeader.receiverId hfields
  · rw [hdecoded]
    exact (congrArg PacketHeader.sequenceNumber hfields).trans hs.next
  · rw [hdecoded]
    exact (congrArg PacketHeader.confirmedSequenceNumber hfields).trans hs.confirms
  · rw [hdecoded]
    exact (congrArg PacketHeader.timestamp hfields).trans (congrArg UInt32.ofNat hs.clock)
  · rw [hdecoded]
    exact (congrArg PacketHeader.confirmedTimestamp hfields).trans hs.seen
  · rw [hdecoded]
    exact hmessages

/-- A heartbeat or Data PDU is sent, with the queues as they are by then. -/
theorem Speaks.emit (hs : Speaks ctx con s) (hlength : 28 + ctx.checksumLen ≤ data.length.toNat)
    (htype : data.type = .hb ∨ data.type = .data) (hheader : headerOf data = nextHeader con)
    (hmessages : messagesIn P (reencoded P data ctx) = messages)
    {fifoSend fifoRetransmission : Fifo Bytes}
    (hsplit : messages ++ fifoSend.items = con.fifoSend.items)
    (hkept : ∀ bytes ∈ fifoRetransmission.items, 28 + ctx.checksumLen ≤ bytes.length)
    (hbase : base = setQueues con fifoSend fifoRetransmission .none) :
    ∃ pdu : SentPdu,
      (incrementSnT (redundancyMuxSend P (tick base) data)).sent = con.sent ++ [pdu] ∧
      Plain [pdu] ∧ ∃ s', Emission s s' [nextFrame s messages] ∧
        Speaks ctx (incrementSnT (redundancyMuxSend P (tick base) data)) s' ∧
        Shows P ctx con.myId con.remoteId pdu.innerBytes (nextFrame s messages) ∧
        s'.pushed = s.pushed := by
  subst hbase
  have hctx : (tick (setQueues con fifoSend fifoRetransmission .none)).hashingContext = ctx :=
    hs.hashingContext
  obtain ⟨herror, pdu, hsent, hpacket, hbytes⟩ := redundancyMuxSend_spec hctx rfl hlength
  have hqueue : messages ++ fifoSend.items = s.queue := hsplit.trans hs.queue
  have hmonotone : now con ≤ now (tick con) :=
    now_le_now hs.monotone rfl (Nat.le_succ con.clockReads)
  refine ⟨pdu, hsent, ?_, { s with
    next := s.next + 1
    queue := fifoSend.items
    clock := now (tick con) }, ?_, ?_, ?_, rfl⟩
  · intro sent hmem
    rw [List.mem_singleton.mp hmem, hpacket]
    exact htype
  · have hemits := Emission.emit s messages fifoSend.items hqueue
    refine hemits.trans (.wait _ _ ?_)
    rw [← hs.clock]
    exact hmonotone
  · refine ⟨hs.hashingContext, hs.srHashingContext, herror, hkept, ?_, hs.monotone, ?_, hs.confirms,
      rfl, hs.seen, rfl⟩
    · refine hs.fits.suffix ?_
      exact ⟨messages, hsplit⟩
    · have hnext : con.snT + 1 = UInt32.ofNat (s.next + 1) := by rw [ofNat_succ, hs.next]
      exact hnext
  · rw [hbytes]
    exact hs.shows hlength htype hheader hmessages

theorem rescheduleHeartbeat_idles (con : Connection) : Idles con (rescheduleHeartbeat con) :=
  ⟨⟨rfl, rfl, rfl, rfl, rfl, rfl, rfl, rfl, rfl, rfl, rfl, rfl, Nat.le_succ _, rfl⟩,
    rescheduleHeartbeat_same con⟩

theorem sendHeartbeat_utters (con : Connection) (rescheduleManually : Bool) :
    Utters P ctx con (sendHeartbeat P con rescheduleManually) [] := by
  have hsent : Utters P ctx con (incrementSnT (redundancyMuxSend P (tick con)
      (createHeartbeat P (nextHeader con) con.srHashingContext))) [] := by
    refine ⟨(sendHeartbeat_frame P con false).peerFrame, (sendHeartbeat_frame P con false).sent,
      fun s hs => ?_⟩
    have hbase : con = setQueues con con.fifoSend con.fifoRetransmission .none := by
      rw [← hs.lasterror]
      rfl
    have hlength : 28 + ctx.checksumLen ≤
        (createHeartbeat P (nextHeader con) con.srHashingContext).length.toNat :=
      control_length .hb (nextHeader con) hs.srHashingContext
    obtain ⟨pdu, hsent, hplain, s', hemits, hs', hshows, hpushed⟩ := hs.emit hlength (.inl rfl) rfl
      rfl (List.nil_append _) hs.kept hbase
    rw [newlySent_eq hsent]
    exact ⟨hplain, s', _, hemits, hs', .cons hshows .nil, hpushed.trans (List.append_nil _).symm⟩
  unfold sendHeartbeat
  cases rescheduleManually
  · exact hsent
  · exact hsent.trans (rescheduleHeartbeat_idles _).utters

/-- Pushing to a queue of whole packets. -/
theorem forall_mem_fifoPush {fifo : Fifo Bytes} {element : Bytes} {p : Bytes → Prop}
    (h : ∀ bytes ∈ fifo.items, p bytes) (helement : p element) :
    ∀ bytes ∈ (fifoPush fifo element).2.items, p bytes := by
  rcases fifoPush_items_cases fifo element with hsame | hmore
  · rwa [hsame]
  · rw [hmore]
    intro bytes hbytes
    rcases List.mem_append.mp hbytes with hold | hnew
    · exact h bytes hold
    · rw [List.mem_singleton.mp hnew]
      exact helement

theorem sendBatch_utters (con : Connection) {n : ℕ} (hn : n ≤ con.config.maxPacket.toNat) :
    Utters P ctx con (sendBatch P con n) [] := by
  refine ⟨(sendBatch_frame P con n).peerFrame, (sendBatch_frame P con n).sent, fun s hs => ?_⟩
  have hbatch := @createDataMessage_isBatch P ctx (nextHeader con) _ (hs.fits.take hn)
  have hcarried : messagesIn P (reencoded P (createDataMessage P (nextHeader con)
      (con.fifoSend.items.take n) ctx) ctx) = con.fifoSend.items.take n :=
    (if_pos rfl).trans hbatch.messages
  have hheader : headerOf (createDataMessage P (nextHeader con) (con.fifoSend.items.take n) ctx) =
      nextHeader con := rfl
  have htype :
      (createDataMessage P (nextHeader con) (con.fifoSend.items.take n) ctx).type = .data := rfl
  have hsplit : con.fifoSend.items.take n ++ (fifoPopMany con.fifoSend n).items =
      con.fifoSend.items := List.take_append_drop n _
  rw [sendBatch_eq]
  simp only
  rw [hs.srHashingContext, hs.lasterror, rastaModuleToBytes_none P hbatch.length]
  generalize createDataMessage P (nextHeader con) (con.fifoSend.items.take n) ctx = data
    at hbatch hcarried hheader htype ⊢
  have hwhole : 28 + ctx.checksumLen ≤ (encodePdu P ctx data).length := by
    rw [length_encodePdu P hbatch.length]
    exact hbatch.length
  obtain ⟨pdu, hsent, hplain, s', hemits, hs', hshows, hpushed⟩ := hs.emit hbatch.length
    (.inr htype) hheader hcarried hsplit (forall_mem_fifoPush hs.kept hwhole) rfl
  obtain ⟨hspeaks, hclock⟩ := hs'.idles (rescheduleHeartbeat_idles _)
  rw [newlySent_eq ((rescheduleHeartbeat_same _).sent.trans hsent)]
  exact ⟨hplain, _, _, hemits.trans (.wait _ _ hclock), hspeaks, .cons hshows .nil,
    hpushed.trans (List.append_nil _).symm⟩

theorem stopIdleSending_idles (con : Connection) : Idles con (stopIdleSending con) :=
  ⟨(stopIdleSending_frame con).peerFrame, stopIdleSending_same con⟩

theorem dataSendEvent_utters (con : Connection) : Utters P ctx con (dataSendEvent P con) [] := by
  have hqueued : Utters P ctx con (sendQueued P con) [] := by
    unfold sendQueued
    split
    · apply sendBatch_utters con
      split
      · exact Nat.le_refl _
      · omega
    · exact (Idles.refl con).utters
  exact hqueued.trans (stopIdleSending_idles _).utters

/-- Popping confirmed packets sends nothing. -/
theorem popConfirmed_utters (con : Connection) : Utters P ctx con (popConfirmed P con) [] := by
  refine ⟨(popConfirmed_frame P con).peerFrame, (popConfirmed_frame P con).sent, fun s hs => ?_⟩
  rw [newlySent_popConfirmed]
  refine ⟨by simp [Plain], s, [], .refl s, ?_, .nil, (List.append_nil _).symm⟩
  have herror : (popConfirmed P con).lasterror = .none := by
    rw [popConfirmed_eq, hs.hashingContext, hs.lasterror]
    exact confirmedCount_snd hs.kept con.csR .none
  refine ⟨hs.hashingContext, hs.srHashingContext, herror, ?_, hs.fits, hs.monotone, hs.next,
    hs.confirms, hs.clock, hs.seen, hs.queue⟩
  intro bytes hbytes
  exact hs.kept bytes (List.mem_of_mem_drop hbytes)

theorem srRemoveConfirmedMessages_utters (con : Connection) :
    Utters P ctx con (srRemoveConfirmedMessages P con) [] := by
  unfold srRemoveConfirmedMessages
  split
  · exact (popConfirmed_utters con).trans (dataSendEvent_utters _)
  · exact popConfirmed_utters con

/-- One message is pushed to `fifo_send`. -/
theorem push_utters (con : Connection) (message : Bytes)
    (hroom : (fifoPush con.fifoSend message).1 = true)
    (hfits : QueueFits ctx con.config.maxPacket.toNat (con.fifoSend.items ++ [message])) :
    Utters P ctx con
      (enableSendEvent { con with fifoSend := (fifoPush con.fifoSend message).2 }) [message] := by
  have hitems := fifoPush_items_of_fst hroom
  have hnone : newlySent con
      (enableSendEvent { con with fifoSend := (fifoPush con.fifoSend message).2 }) = [] :=
    newlySent_eq (List.append_nil _).symm
  refine ⟨⟨rfl, rfl, rfl, rfl, rfl, rfl, rfl, rfl, rfl, rfl, rfl, rfl, Nat.le_succ _, rfl⟩,
    List.prefix_rfl, fun s hs => ?_⟩
  rw [hnone]
  have hmonotone : now con ≤ now (tick con) :=
    now_le_now hs.monotone rfl (Nat.le_succ con.clockReads)
  refine ⟨by simp [Plain], { s with
    queue := s.queue ++ [message]
    pushed := s.pushed ++ [message]
    clock := now (tick con) }, [], ?_, ?_, .nil, rfl⟩
  · have hpushed := Emission.push s [message]
    refine hpushed.trans (.wait _ _ ?_)
    rw [← hs.clock]
    exact hmonotone
  · refine ⟨hs.hashingContext, hs.srHashingContext, hs.lasterror, hs.kept, ?_, hs.monotone, hs.next,
      hs.confirms, rfl, hs.seen, ?_⟩
    · rw [← hitems] at hfits
      exact hfits
    · rw [← hs.queue]
      exact hitems

theorem sendMessages_utters (messages : List Bytes) (con : Connection)
    (hfits : QueueFits ctx con.config.maxPacket.toNat (con.fifoSend.items ++ messages)) :
    Utters P ctx con (sendMessages P messages con).1 (messagesPushed P messages con) := by
  induction messages generalizing con with
  | nil => exact (Idles.refl con).utters
  | cons message rest ih =>
    unfold sendMessages messagesPushed
    generalize hflushed : (if fifoFull con.fifoSend then dataSendEvent P con else con) = flushed
    have hflush : Utters P ctx con flushed [] ∧ flushed.fifoSend.items <:+ con.fifoSend.items := by
      rw [← hflushed]
      split
      · exact ⟨dataSendEvent_utters con, dataSendEvent_queue con⟩
      · exact ⟨(Idles.refl con).utters, List.suffix_refl _⟩
    obtain ⟨hutters, hqueue⟩ := hflush
    simp only
    split
    swap
    · exact hutters
    rename_i hroom
    have hall : QueueFits ctx flushed.config.maxPacket.toNat
        (flushed.fifoSend.items ++ [message] ++ rest) := by
      rw [hutters.frame.config, List.append_assoc, List.singleton_append]
      obtain ⟨before, hbefore⟩ := hqueue
      refine hfits.suffix ⟨before, ?_⟩
      rw [← hbefore, List.append_assoc]
    have hpush := @push_utters P ctx flushed message hroom hall.front
    have hitems := fifoPush_items_of_fst hroom
    have hrest := ih (enableSendEvent
      { flushed with fifoSend := (fifoPush flushed.fifoSend message).2 }) (by
        rw [← hitems] at hall
        exact hall)
    exact (hutters.trans hpush).trans hrest

end Sending

section Own

variable {P : Platform} {ctx : RastaHashingContext} {con after : Connection} {event : Event}

/-- The calls and timers of an endpoint that keeps its connection open: `sr_send` in state UP with
messages that fit, `data_send_event`, `heartbeat_send_event`, and what does not send. -/
def KeepsOpen (con : Connection) : Event → Prop
  | .send appMessages => con.currentState = .up ∧ EventFits con (.send appMessages)
  | .dataSend | .heartbeat | .connectReturn | .recv | .accept | .acceptReturn => True
  | .receive _ | .connectionExpired | .timedKeyExchange | .connect _ | .disconnect
  | .transportClosed => False

instance (con : Connection) (event : Event) : Decidable (KeepsOpen con event) :=
  match event with
  | .send appMessages =>
    inferInstanceAs (Decidable (con.currentState = .up ∧ EventFits con (.send appMessages)))
  | .dataSend | .heartbeat | .connectReturn | .recv | .accept | .acceptReturn =>
    inferInstanceAs (Decidable True)
  | .receive _ | .connectionExpired | .timedKeyExchange | .connect _ | .disconnect
  | .transportClosed => inferInstanceAs (Decidable False)

theorem heartbeatSendEvent_utters (con : Connection) :
    Utters P ctx con (heartbeatSendEvent P con) [] := by
  unfold heartbeatSendEvent
  split
  · exact (Idles.refl con).utters
  · split
    · exact sendHeartbeat_utters con false
    · exact (Idles.refl con).utters

theorem srSend_utters {appMessages : List Bytes} (hrunning : con.aborted = false)
    (hctx : con.srHashingContext = ctx) (hopen : KeepsOpen con (.send appMessages)) :
    Utters P ctx con (srSend P con appMessages).1 (eventPushes P con (.send appMessages)) := by
  obtain ⟨hup, hfits⟩ := hopen
  have hbranch : srSend P con appMessages =
      if appMessages.length > con.config.maxPacket.toNat then (con, false)
      else sendMessages P appMessages con := by
    simp only [srSend, hup]
  rw [hbranch]
  by_cases hlength : appMessages.length ≤ con.config.maxPacket.toNat
  · rw [if_neg (Nat.not_lt.mpr hlength), eventPushes, if_pos ⟨hrunning, hup, hlength⟩]
    have hqueue := hfits ⟨hup, hlength⟩
    rw [hctx] at hqueue
    exact sendMessages_utters appMessages con hqueue
  · rw [if_pos (Nat.lt_of_not_le hlength), eventPushes, if_neg fun h => hlength h.2.2]
    exact (Idles.refl con).utters

theorem endpointStep_utters (hopen : KeepsOpen con event) (hrunning : con.aborted = false)
    (hctx : con.srHashingContext = ctx) :
    Utters P ctx con (endpointStep P con event) (eventPushes P con event) := by
  unfold endpointStep
  rw [hrunning, if_neg Bool.false_ne_true]
  cases event with
  | dataSend =>
    simp only
    split
    · exact dataSendEvent_utters con
    · exact (Idles.refl con).utters
  | heartbeat =>
    simp only
    split
    · exact heartbeatSendEvent_utters con
    · exact (Idles.refl con).utters
  | send appMessages => exact srSend_utters hrunning hctx hopen
  | recv =>
    simp only [rastaRecv]
    split
    · exact Idles.utters
        ⟨⟨rfl, rfl, rfl, rfl, rfl, rfl, rfl, rfl, rfl, rfl, rfl, rfl, Nat.le_refl _, rfl⟩,
          rfl, rfl, rfl, rfl, rfl, rfl, rfl, rfl⟩
    · exact (Idles.refl con).utters
  | connectReturn | accept | acceptReturn =>
    exact Idles.utters
      ⟨⟨rfl, rfl, rfl, rfl, rfl, rfl, rfl, rfl, rfl, rfl, rfl, rfl, Nat.le_refl _, rfl⟩,
        rfl, rfl, rfl, rfl, rfl, rfl, rfl, rfl⟩
  | receive packet => exact hopen.elim
  | connectionExpired => exact hopen.elim
  | timedKeyExchange => exact hopen.elim
  | connect transportOk => exact hopen.elim
  | disconnect => exact hopen.elim
  | transportClosed => exact hopen.elim

/-- Before the connection is established, with nothing queued, nothing is sent. -/
theorem endpointStep_silent (hopen : KeepsOpen con event)
    (hstate : ¬ Established con.currentState) (hempty : con.fifoSend.items = []) :
    Idles con (endpointStep P con event) := by
  unfold endpointStep
  split
  · exact .refl con
  cases event with
  | dataSend =>
    simp only
    split
    · rw [dataSendEvent, sendQueued_of_empty hempty]
      exact stopIdleSending_idles con
    · exact .refl con
  | heartbeat =>
    simp only [heartbeatSendEvent, if_neg hstate, ite_self]
    exact .refl con
  | send appMessages => exact absurd (.inl hopen.1) hstate
  | recv =>
    simp only [rastaRecv, if_neg fun hup => hstate (.inl hup)]
    exact .refl con
  | connectReturn | accept | acceptReturn =>
    exact ⟨⟨rfl, rfl, rfl, rfl, rfl, rfl, rfl, rfl, rfl, rfl, rfl, rfl, Nat.le_refl _, rfl⟩,
      rfl, rfl, rfl, rfl, rfl, rfl, rfl, rfl⟩
  | receive packet => exact hopen.elim
  | connectionExpired => exact hopen.elim
  | timedKeyExchange => exact hopen.elim
  | connect transportOk => exact hopen.elim
  | disconnect => exact hopen.elim
  | transportClosed => exact hopen.elim

end Own

section Handlers

variable {P : Platform} {ctx : RastaHashingContext} {con base mid after : Connection}
  {packet : RastaPacket}

/-- The connection took over the stamps of a packet; the handshake leaves `cts_r` alone. -/
structure Hears (packet : RastaPacket) (before after : Connection) : Prop where
  same : SameSender before after
  snR : after.snR = packet.sequenceNumber + 1
  csT : after.csT = packet.sequenceNumber
  tsR : after.tsR = packet.timestamp
  csR : after.csR = packet.confirmedSequenceNumber
  ctsR : after.ctsR = before.ctsR ∨ after.ctsR = packet.confirmedTimestamp
  role : after.role = before.role
  myId : after.myId = before.myId
  remoteId : after.remoteId = before.remoteId
  kexState : after.kexState = before.kexState
  clock : after.clock = before.clock
  clockReads : before.clockReads ≤ after.clockReads
  aborted : after.aborted = before.aborted

theorem DeliveryFrame.idles (h : DeliveryFrame con after) : Idles con after := by
  refine ⟨?_, h.same⟩
  have hreads := h.clockReads
  rw [h.rest]
  exact ⟨rfl, rfl, rfl, rfl, rfl, rfl, rfl, rfl, rfl, rfl, rfl, rfl, hreads, rfl⟩

theorem Idles.hears (hbase : Idles con base) (h : Hears packet base after) :
    Hears packet con after where
  same := hbase.same.trans h.same
  snR := h.snR
  csT := h.csT
  tsR := h.tsR
  csR := h.csR
  ctsR := by
    rw [← hbase.frame.ctsR]
    exact h.ctsR
  role := h.role.trans hbase.frame.role
  myId := h.myId.trans hbase.frame.myId
  remoteId := h.remoteId.trans hbase.frame.remoteId
  kexState := h.kexState.trans hbase.frame.kexState
  clock := h.clock.trans hbase.frame.clock
  clockReads := hbase.frame.clockReads.trans h.clockReads
  aborted := h.aborted.trans hbase.frame.aborted

theorem hears_confirmed (con : Connection) (packet : RastaPacket) :
    Hears packet con (updateConfirmedAttrs (updateConnectionAttrs con packet) packet) :=
  ⟨(updateConnectionAttrs_same con packet).trans (updateConfirmedAttrs_same _ packet), rfl, rfl,
    rfl, rfl, .inr rfl, rfl, rfl, rfl, rfl, rfl, Nat.le_refl _, rfl⟩

/-- The packet is taken, and what it triggers is sent. -/
def Takes (P : Platform) (ctx : RastaHashingContext) (packet : RastaPacket)
    (con after : Connection) : Prop :=
  ∃ mid, Hears packet con mid ∧ Utters P ctx mid after []

theorem acceptData_takes (con : Connection) (packet : RastaPacket) :
    Takes P ctx packet con (acceptData P con packet) := by
  have hadded := (srAddAppMessagesToBuffer_frame P con packet).idles
  exact ⟨_, hadded.hears (hears_confirmed _ packet), srRemoveConfirmedMessages_utters _⟩

theorem acceptHb_takes (con : Connection) (packet : RastaPacket) (hstate : con.currentState = .up) :
    Takes P ctx packet con (acceptHb P con packet) ∧
      (acceptHb P con packet).currentState = .up := by
  have htimed := ((srUpdateTimeoutInterval_frame P con packet.confirmedTimestamp).trans
    (srDiagnosticUpdate_frame P _ packet)).idles
  have hremoved := (srRemoveConfirmedMessages_frame P (updateConfirmedAttrs
    (updateConnectionAttrs (srDiagnosticUpdate P
      (srUpdateTimeoutInterval P con packet.confirmedTimestamp) packet) packet)
    packet)).currentState.trans (htimed.frame.currentState.trans hstate)
  unfold acceptHb
  simp only
  rw [hremoved, if_neg (by decide)]
  exact ⟨⟨_, htimed.hears (hears_confirmed _ packet), srRemoveConfirmedMessages_utters _⟩, hremoved⟩

theorem hears_numbers (con : Connection) (packet : RastaPacket) (state : RastaSrState) :
    Hears packet con (setState (setCsR (updateConnectionAttrs con packet) packet) state) :=
  ⟨((updateConnectionAttrs_same con packet).trans (setCsR_same _ packet)).trans (setState_same _ _),
    rfl, rfl, rfl, rfl, .inl rfl, rfl, rfl, rfl, rfl, rfl, Nat.le_refl _, rfl⟩

theorem superviseNew_idles (con : Connection) : Idles con (superviseNew con) := by
  refine ⟨⟨rfl, rfl, rfl, rfl, rfl, rfl, rfl, rfl, rfl, rfl, rfl, rfl, ?_, rfl⟩,
    rfl, rfl, rfl, rfl, rfl, rfl, rfl, rfl⟩
  exact Nat.le_add_right _ 2

theorem establishByHb_takes (con : Connection) (packet : RastaPacket) :
    Takes P ctx packet con (establishByHb con packet) := by
  rw [establishByHb_eq]
  have hsupervised := superviseNew_idles
    (setState (setCsR (updateConnectionAttrs con packet) packet)
      (if con.config.kexMode = .none then .up else .kexReq))
  exact ⟨_, hears_numbers con packet _, hsupervised.utters⟩

/-- No key exchange took place that would have to be repeated. -/
def Keyless (P : Platform) (con : Connection) : Prop :=
  P.enableOpaque = false ∨ con.role ≠ .server ∨ con.kexState.lastKeyExchangedMillis = 0

theorem Keyless.skipped (h : Keyless P con) : srRekeyingSkipped P con = (false, con) := by
  unfold srRekeyingSkipped
  rw [if_pos]
  rcases h with henable | hrole | hmillis
  · exact .inl henable
  · exact .inr (.inr (.inl hrole))
  · exact .inr (.inr (.inr (.inr hmillis)))

/-- The checks of `sr_receive` and of the handlers. -/
structure Passes (con : Connection) (packet : RastaPacket) : Prop where
  checksum : packet.checksumCorrect = true
  authentic : srMessageAuthentic con packet = true
  range : srSnRangeValid con packet = true
  confirmed : srCsValid con packet = true
  sequence : srSnInSeq con packet = true
  timely : srCtsInSeq con packet = true

theorem Passes.srReceive (h : Passes con packet) (hkeyless : Keyless P con)
    (htype : packet.type = .hb ∨ packet.type = .data) :
    srReceive P con packet = handleReceivedPacket P con packet := by
  have hreq : packet.type ≠ .connReq := by rcases htype with h | h <;> simp [h]
  have hresp : packet.type ≠ .connResp := by rcases htype with h | h <;> simp [h]
  simp only [LibRasta.Retransmission.srReceive, if_neg hreq, if_neg hresp, h.checksum, h.authentic,
    h.range, h.confirmed, hkeyless.skipped, Bool.true_eq_false, Bool.false_eq_true, if_false]

/-- A heartbeat or Data PDU in state UP. -/
theorem srReceive_up (h : Passes con packet) (hkeyless : Keyless P con)
    (htype : packet.type = .hb ∨ packet.type = .data) (hstate : con.currentState = .up)
    (hroom : (messagesIn P packet).length ≤
      con.fifoReceive.maxSize - con.fifoReceive.items.length) :
    Takes P ctx packet con (srReceive P con packet).1 ∧
      (srReceive P con packet).1.currentState = .up ∧
      (srReceive P con packet).1.fifoReceive.items =
        con.fifoReceive.items ++ messagesIn P packet := by
  rw [h.srReceive hkeyless htype]
  rcases htype with htype | htype
  · have hafter : (handleReceivedPacket P con packet).1 = acceptHb P con packet := by
      simp [handleReceivedPacket, htype, handleHb, hstate, h.sequence, h.timely]
    obtain ⟨htakes, hup⟩ := @acceptHb_takes P ctx con packet hstate
    rw [hafter, messagesIn, if_neg (by simp [htype]), List.append_nil]
    exact ⟨htakes, hup, congrArg Fifo.items (@acceptHb_receiver P con packet).2.2⟩
  · have hafter : (handleReceivedPacket P con packet).1 = acceptData P con packet := by
      simp only [handleReceivedPacket, htype]
      exact handleData_up P ⟨h.sequence, h.timely⟩ hstate
    have hqueue := (@acceptData_spec P con packet).2.2
    rw [messagesIn, if_pos htype] at hroom ⊢
    rw [List.take_of_length_le hroom] at hqueue
    rw [hafter]
    exact ⟨acceptData_takes con packet, (acceptData_phase P con packet).1.trans hstate, hqueue⟩

/-- The heartbeat that completes the handshake of a server. -/
theorem srReceive_start (h : Passes con packet) (hkeyless : Keyless P con)
    (htype : packet.type = .hb) (hstate : con.currentState = .start) (hrole : con.role = .server) :
    (srReceive P con packet).1 = establishByHb con packet := by
  have hrejected : rejectStartHb P con packet = con := by
    rw [rejectStartHb, rejectHbSn, if_pos h.sequence, rejectHbRole, if_neg (by simp [hrole])]
  rw [h.srReceive hkeyless (.inl htype)]
  simp only [handleReceivedPacket, htype, handleHb, if_pos hstate, hrejected, h.timely, if_true]

end Handlers

section Parties

variable (P : Platform) (ctx : RastaHashingContext)

/-- Neither a retransmission nor a disconnection request. -/
def Undemanding (out : List SentPdu) : Prop :=
  ∀ pdu ∈ out, pdu.packet.type ≠ .retrReq ∧ pdu.packet.type ≠ .discReq

instance (out : List SentPdu) : Decidable (Undemanding out) :=
  inferInstanceAs (Decidable (∀ pdu ∈ out, pdu.packet.type ≠ .retrReq ∧ pdu.packet.type ≠ .discReq))

/-- The party counts, stores and has done what the side has. -/
structure Attends (party : Party) (s : Side Bytes) : Prop where
  speaks : Speaks ctx party.con s
  expected : party.con.snR = UInt32.ofNat s.expected
  confirmed : party.con.csR = UInt32.ofNat s.confirmed
  echoed : party.con.ctsR = UInt32.ofNat s.echoed
  next : s.next = party.con.config.initialSequenceNumber.toNat + numbersUsed party.output
  pushed : s.pushed = party.pushed
  delivered : s.delivered = party.appended
  running : party.con.aborted = false
  kexMode : party.con.config.kexMode = .none
  keyless : Keyless P party.con
  undemanding : Undemanding party.output

/-- Two parties in step, each the peer of the other. -/
structure Conversing (party peer : Party) : Prop where
  inStep : ∃ s t there back, InStep s t there back ∧ Attends P ctx party s ∧ Attends P ctx peer t ∧
    List.Forall₂ (Shows P ctx party.con.myId party.con.remoteId) peer.incoming there ∧
    List.Forall₂ (Shows P ctx peer.con.myId peer.con.remoteId) party.incoming back
  selfId : party.con.myId = peer.con.remoteId
  peerId : peer.con.myId = party.con.remoteId

variable {P ctx} {self peer : Party} {s t : Side Bytes} {con after : Connection}
  {messages : List Bytes} {packet : RastaPacket} {frame : Frame Bytes}

theorem Conversing.symm (h : Conversing P ctx self peer) : Conversing P ctx peer self := by
  obtain ⟨s, t, there, back, hstep, hself, hpeer, hthere, hback⟩ := h.inStep
  exact ⟨⟨t, s, back, there, hstep.symm, hpeer, hself, hback, hthere⟩, h.peerId, h.selfId⟩

theorem Plain.undemanding {out : List SentPdu} (h : Plain out) : Undemanding out := by
  intro pdu hpdu
  rcases h pdu hpdu with htype | htype
  · simp [htype]
  · simp [htype]

theorem Plain.numbersUsed {out : List SentPdu} (h : Plain out) : numbersUsed out = out.length := by
  rw [LibRasta.Retransmission.numbersUsed, List.filter_eq_self.mpr]
  intro pdu hpdu
  simpa using (h.undemanding pdu hpdu).2

theorem Undemanding.append {first second : List SentPdu} (hfirst : Undemanding first)
    (hsecond : Undemanding second) : Undemanding (first ++ second) := by
  intro pdu hpdu
  rcases List.mem_append.mp hpdu with h | h
  · exact hfirst pdu h
  · exact hsecond pdu h

theorem Keyless.congr (h : Keyless P con) (hrole : after.role = con.role)
    (hkex : after.kexState = con.kexState) : Keyless P after := by
  unfold Keyless
  rw [hrole, hkex]
  exact h

theorem Attends.utters (h : Attends P ctx self s) (hutters : Utters P ctx self.con after messages) :
    ∃ s' frames, Emission s s' frames ∧
      Attends P ctx { self.moveTo after with pushed := self.pushed ++ messages } s' ∧
      List.Forall₂ (Shows P ctx self.con.myId self.con.remoteId)
        ((newlySent self.con after).map SentPdu.innerBytes) frames := by
  obtain ⟨hplain, s', frames, hemits, hspeaks, hshows, hpushed⟩ := hutters.speaks s h.speaks
  have hsame := hemits.sameHearing
  have hframe := hutters.frame
  have hlength : frames.length = numbersUsed (newlySent self.con after) := by
    rw [hplain.numbersUsed, ← hshows.length_eq, List.length_map]
  refine ⟨s', frames, hemits, ⟨hspeaks, ?_, ?_, ?_, ?_, ?_, ?_, hframe.aborted.trans h.running, ?_,
    h.keyless.congr hframe.role hframe.kexState, h.undemanding.append hplain.undemanding⟩, hshows⟩
  · exact hframe.snR.trans (hsame.expected ▸ h.expected)
  · exact hframe.csR.trans (hsame.confirmed ▸ h.confirmed)
  · exact hframe.ctsR.trans (hsame.echoed ▸ h.echoed)
  · show s'.next = after.config.initialSequenceNumber.toNat +
      numbersUsed (self.output ++ newlySent self.con after)
    rw [hemits.next, h.next, hframe.config, numbersUsed_append, hlength, Nat.add_assoc]
  · rw [hpushed, h.pushed]
  · exact hsame.delivered.trans h.delivered
  · exact (congrArg (·.kexMode) hframe.config).trans h.kexMode

/-- What is on its way to a party does not change it. -/
theorem Attends.link (h : Attends P ctx self s) (pdus : List SentPdu) :
    Attends P ctx (self.link pdus) s :=
  ⟨h.speaks, h.expected, h.confirmed, h.echoed, h.next, h.pushed, h.delivered, h.running, h.kexMode,
    h.keyless, h.undemanding⟩

/-- One of two conversing parties sends, takes over messages and lets time pass. -/
theorem Conversing.utters (h : Conversing P ctx self peer)
    (hutters : Utters P ctx self.con after messages) :
    Conversing P ctx { self.moveTo after with pushed := self.pushed ++ messages }
      (peer.link (newlySent self.con after)) := by
  obtain ⟨s, t, there, back, hstep, hself, hpeer, hthere, hback⟩ := h.inStep
  obtain ⟨s', frames, hemits, hself', hshows⟩ := hself.utters hutters
  have hmyId : after.myId = self.con.myId := hutters.frame.myId
  have hremoteId : after.remoteId = self.con.remoteId := hutters.frame.remoteId
  refine ⟨⟨s', t, there ++ frames, back, hstep.emission hemits, hself', ?_, ?_, hback⟩,
    hmyId.trans h.selfId, h.peerId.trans hremoteId.symm⟩
  · exact hpeer.link _
  · show List.Forall₂ (Shows P ctx after.myId after.remoteId)
      (peer.incoming ++ (newlySent self.con after).map SentPdu.innerBytes) (there ++ frames)
    rw [hmyId, hremoteId]
    exact List.rel_append hthere hshows

theorem toNat_ofNat_of_lt {n : ℕ} (h : n < 2 ^ 32) : (UInt32.ofNat n).toNat = n := by
  rw [UInt32.toNat_ofNat']
  exact Nat.mod_eq_of_lt h

theorem ofNat_le_ofNat {a b : ℕ} (hab : a ≤ b) (hb : b < 2 ^ 32) :
    UInt32.ofNat a ≤ UInt32.ofNat b := by
  rw [UInt32.le_iff_toNat_le, toNat_ofNat_of_lt hb, toNat_ofNat_of_lt (by omega)]
  exact hab

theorem ofNat_sub_lt {a b c : ℕ} (hab : a ≤ b) (hbc : b < c) (hc : c < 2 ^ 32) :
    UInt32.ofNat b - UInt32.ofNat a < UInt32.ofNat c - UInt32.ofNat a := by
  have hb : b < 2 ^ 32 := by omega
  rw [UInt32.lt_iff_toNat_lt, UInt32.toNat_sub_of_le _ _ (ofNat_le_ofNat hab hb),
    UInt32.toNat_sub_of_le _ _ (ofNat_le_ofNat (by omega) hc), toNat_ofNat_of_lt hb,
    toNat_ofNat_of_lt hc, toNat_ofNat_of_lt (by omega)]
  omega

/-- The timestamps of the endpoint have not wrapped around. -/
def ClockInRange (con : Connection) : Prop := now con < 2 ^ 32

instance (con : Connection) : Decidable (ClockInRange con) :=
  inferInstanceAs (Decidable (_ < _))

/-- The confirmed timestamp is not `t_max` or more ahead of `cts_r`, if that was set. -/
def Timely (con : Connection) (packet : RastaPacket) : Prop :=
  packet.type = .hb ∨ packet.type = .data → con.ctsR ≠ 0 →
    packet.confirmedTimestamp.toNat < con.ctsR.toNat + con.config.tMax.toNat

instance (con : Connection) (packet : RastaPacket) : Decidable (Timely con packet) :=
  inferInstanceAs (Decidable (_ → _ → _))

/-- The oldest frame on the way to a side that has room for its number passes every check. -/
theorem Attends.passes (h : Attends P ctx self s) {back : List (Frame Bytes)}
    {there : List (Frame Bytes)} (hstep : InStep s t there (frame :: back)) {bytes : Bytes}
    (hshows : Shows P ctx self.con.remoteId self.con.myId bytes frame) (hrange : self.InRange)
    (hclock : ClockInRange self.con) (htimely : Timely self.con (decodePdu P ctx bytes)) :
    Passes self.con (decodePdu P ctx bytes) := by
  obtain ⟨hnumber, hconfirmed, -, hecho, hpast⟩ := hstep.hears.head
  have hlt := hstep.head_confirms
  have hnext : s.next < 2 ^ 32 := h.next ▸ hrange
  have hnot : ¬ ((decodePdu P ctx bytes).type = .connReq ∨
      (decodePdu P ctx bytes).type = .connResp ∨ (decodePdu P ctx bytes).type = .retrResp) := by
    rcases hshows.type with htype | htype <;> simp [htype]
  have hsame : self.con.snR = (decodePdu P ctx bytes).sequenceNumber := by
    rw [h.expected, hshows.number, hnumber]
  refine ⟨hshows.checksum, ?_, ?_, ?_, ?_, ?_⟩
  · rw [srMessageAuthentic, hshows.senderId, hshows.receiverId]
    simp
  · rw [srSnRangeValid, if_neg hnot, hsame]
    simp
  · have hnotReq : (decodePdu P ctx bytes).type ≠ .connReq := fun htype => hnot (.inl htype)
    have hnotResp : (decodePdu P ctx bytes).type ≠ .connResp :=
      fun htype => hnot (.inr (.inl htype))
    rw [srCsValid, if_neg hnotReq, if_neg hnotResp, hshows.confirms, h.confirmed, h.speaks.next,
      Bool.and_eq_true, decide_eq_true_eq, decide_eq_true_eq]
    exact ⟨ofNat_le_ofNat hconfirmed (by omega), ofNat_sub_lt hconfirmed hlt hnext⟩
  · unfold srSnInSeq
    split
    · rfl
    · exact decide_eq_true hsame
  · have hle : self.con.ctsR ≤ (decodePdu P ctx bytes).confirmedTimestamp := by
      have hshort : now self.con < 2 ^ 32 := hclock
      rw [h.echoed, hshows.echo]
      refine ofNat_le_ofNat hecho ?_
      rw [h.speaks.clock] at hshort
      exact Nat.lt_of_le_of_lt hpast hshort
    unfold srCtsInSeq
    split
    swap
    · rfl
    split
    · rfl
    rename_i hset
    rw [if_neg (UInt32.not_lt.mpr hle), decide_eq_true_eq, UInt32.lt_iff_toNat_lt,
      UInt32.toNat_sub_of_le _ _ hle]
    have hbefore := htimely hshows.type hset
    have hleNat := UInt32.le_iff_toNat_le.mp hle
    omega

theorem Attends.takes (h : Attends P ctx self s) (htakes : Takes P ctx packet self.con after)
    (hnumber : packet.sequenceNumber = UInt32.ofNat frame.number)
    (hconfirms : packet.confirmedSequenceNumber = UInt32.ofNat frame.confirms)
    (hstamp : packet.timestamp = UInt32.ofNat frame.stamp)
    (hecho : packet.confirmedTimestamp = UInt32.ofNat frame.echo) (rest : List Bytes)
    {appended : List Bytes} (happended : appended = frame.messages) :
    ∃ echoed s' frames, (echoed = s.echoed ∨ echoed = frame.echo) ∧
      Emission (s.take frame echoed) s' frames ∧
      Attends P ctx { self.moveTo after with
        incoming := rest
        appended := self.appended ++ appended } s' ∧
      List.Forall₂ (Shows P ctx self.con.myId self.con.remoteId)
        ((newlySent self.con after).map SentPdu.innerBytes) frames := by
  obtain ⟨mid, hears, hutters⟩ := htakes
  have hsame := hears.same
  obtain ⟨echoed, hechoed, hctsR⟩ : ∃ echoed, (echoed = s.echoed ∨ echoed = frame.echo) ∧
      mid.ctsR = UInt32.ofNat echoed := by
    rcases hears.ctsR with hold | hnew
    · exact ⟨s.echoed, .inl rfl, hold.trans h.echoed⟩
    · exact ⟨frame.echo, .inr rfl, hnew.trans hecho⟩
  have hclock : s.clock ≤ now mid := by
    rw [← h.speaks.clock]
    exact now_le_now h.speaks.monotone hears.clock hears.clockReads
  have hnumberNext : mid.snR = UInt32.ofNat (frame.number + 1) := by
    rw [hears.snR, hnumber, ofNat_succ]
  have hmid : Attends P ctx
      { self with con := mid, incoming := rest, appended := self.appended ++ appended }
      { s.take frame echoed with clock := now mid } := by
    refine ⟨⟨hsame.hashingContext.trans h.speaks.hashingContext,
      hsame.srHashingContext.trans h.speaks.srHashingContext,
      hsame.lasterror.trans h.speaks.lasterror, ?_, ?_, ?_, hsame.snT.trans h.speaks.next, ?_, rfl,
      ?_, ?_⟩, hnumberNext, hears.csR.trans hconfirms, hctsR, ?_, h.pushed, ?_,
      hears.aborted.trans h.running, ?_, h.keyless.congr hears.role hears.kexState, h.undemanding⟩
    · rw [hsame.fifoRetransmission]
      exact h.speaks.kept
    · rw [hsame.config, hsame.fifoSend]
      exact h.speaks.fits
    · rw [hears.clock]
      exact h.speaks.monotone
    · exact hears.csT.trans hnumber
    · exact hears.tsR.trans hstamp
    · rw [hsame.fifoSend]
      exact h.speaks.queue
    · rw [hsame.config]
      exact h.next
    · show s.delivered ++ frame.messages = self.appended ++ appended
      rw [h.delivered, happended]
    · rw [hsame.config]
      exact h.kexMode
  obtain ⟨s', frames, hemits, hself', hshows⟩ := hmid.utters hutters
  have hsent : newlySent mid after = newlySent self.con after := by
    rw [newlySent, newlySent, hsame.sent]
  rw [hears.myId, hears.remoteId, hsent] at hshows
  refine ⟨echoed, s', frames, hechoed, ?_, ?_, hshows⟩
  · have hwait := Emission.wait (s.take frame echoed) _ hclock
    exact hwait.trans hemits
  · rw [Party.moveTo, hsent, List.append_nil] at hself'
    exact hself'

/-- What the oldest PDU on the link to a conversing party is. -/
theorem Conversing.oldest (h : Conversing P ctx self peer) {bytes : Bytes} {rest : List Bytes}
    (hincoming : self.incoming = bytes :: rest) :
    28 + ctx.checksumLen ≤ bytes.length ∧
      ((decodePdu P ctx bytes).type = .hb ∨ (decodePdu P ctx bytes).type = .data) ∧
      (self.InRange → ClockInRange self.con → Timely self.con (decodePdu P ctx bytes) →
        Passes self.con (decodePdu P ctx bytes)) := by
  obtain ⟨s, t, there, back, hstep, hself, -, -, hback⟩ := h.inStep
  rw [hincoming, h.selfId.symm, h.peerId] at hback
  cases hback with
  | cons hfirst _ =>
    exact ⟨hfirst.whole, hfirst.type, fun hrange hclock htimely =>
      hself.passes hstep hfirst hrange hclock htimely⟩

/-- A conversing party takes the oldest PDU off the link. -/
theorem Conversing.takes (h : Conversing P ctx self peer) {bytes : Bytes}
    {rest appended : List Bytes}
    (hincoming : self.incoming = bytes :: rest)
    (htakes : Takes P ctx (decodePdu P ctx bytes) self.con after)
    (happended : appended = messagesIn P (decodePdu P ctx bytes)) :
    Conversing P ctx
      { self.moveTo after with incoming := rest, appended := self.appended ++ appended }
      (peer.link (newlySent self.con after)) := by
  obtain ⟨s, t, there, back, hstep, hself, hpeer, hthere, hback⟩ := h.inStep
  rw [hincoming] at hback
  cases hback with
  | @cons _ frame _ back hfirst hrest =>
    obtain ⟨echoed, s', frames, hechoed, hemits, hself', hshows⟩ := hself.takes htakes hfirst.number
      hfirst.confirms hfirst.stamp hfirst.echo rest (happended.trans hfirst.messages)
    obtain ⟨mid, hears, hutters⟩ := htakes
    have hmyId : after.myId = self.con.myId := hutters.frame.myId.trans hears.myId
    have hremoteId : after.remoteId = self.con.remoteId :=
      hutters.frame.remoteId.trans hears.remoteId
    refine ⟨⟨s', t, there ++ frames, back, (hstep.take hechoed).emission hemits, hself', ?_, ?_,
      hrest⟩, hmyId.trans h.selfId, h.peerId.trans hremoteId.symm⟩
    · exact hpeer.link _
    · show List.Forall₂ (Shows P ctx after.myId after.remoteId)
        (peer.incoming ++ (newlySent self.con after).map SentPdu.innerBytes) (there ++ frames)
      rw [hmyId, hremoteId]
      exact List.rel_append hthere hshows

end Parties

end LibRasta.Retransmission
