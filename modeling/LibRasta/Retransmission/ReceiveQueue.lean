/-
Module: LibRasta/Retransmission/ReceiveQueue.lean
source: src/c/rasta.c, src/c/retransmission/handlers.c, src/c/retransmission/safety_retransmission.c
digest: What a run appends to the receive queue and what rasta_recv takes out of it: every message reaches the application exactly when no call finds a message queued outside state UP.
-/

import LibRasta.Retransmission.Absorption
import LibRasta.Retransmission.Timeliness

set_option autoImplicit false
set_option relaxedAutoImplicit false

namespace LibRasta.Retransmission

open LibRasta.Lib
open LibRasta.Util
open LibRasta.Factory

section Packets

variable {P : Platform} {con base after : Connection} {packet : RastaPacket}

/-- Neither the rekeying timer nor the receive queue changed. -/
def Aside (before after : Connection) : Prop :=
  after.rekeyingEvent = before.rekeyingEvent ∧ after.fifoReceive = before.fifoReceive

theorem Aside.trans {a b c : Connection} (hab : Aside a b) (hbc : Aside b c) : Aside a c :=
  ⟨hbc.1.trans hab.1, hbc.2.trans hab.2⟩

theorem SendFrame.aside {before after : Connection} (h : SendFrame before after) :
    Aside before after :=
  ⟨h.rekeyingEvent, h.fifoReceive⟩

theorem Counted.aside (h : Counted con base) : Aside con base := by
  obtain ⟨_, _, _, _, rfl⟩ := h
  exact ⟨rfl, rfl⟩

theorem srCloseConnection_aside (con : Connection) (reason : RastaDisconnectReason)
    (details : UInt16) : Aside con (srCloseConnection P con reason details) := by
  unfold srCloseConnection
  split
  · exact ⟨rfl, rfl⟩
  · exact ⟨rfl, rfl⟩

theorem rejectStartHb_aside (con : Connection) (packet : RastaPacket) :
    Aside con (rejectStartHb P con packet) :=
  rejectStartHb_related P (fun _ => ⟨rfl, rfl⟩) (fun _ _ _ hab hbc => hab.trans hbc)
    (fun c reason => srCloseConnection_aside c reason 0) con packet

theorem handleRetrreq_aside (con : Connection) (packet : RastaPacket) :
    Aside con (handleRetrreq P con packet).1 := by
  unfold handleRetrreq
  split
  · have hclosing : Aside con (if con.currentState = .retrRun then
        srCloseConnection P con .retrFailed 0 else con) := by
      split
      · exact srCloseConnection_aside con _ 0
      · exact ⟨rfl, rfl⟩
    exact hclosing.trans (answerRetrreq_frame P _).aside
  · exact (answerRetrreq_frame P (setCsR con packet)).aside

theorem incrementSnT_aside (con : Connection) : Aside con (incrementSnT con) := ⟨rfl, rfl⟩

theorem setState_aside (con : Connection) (state : RastaSrState) :
    Aside con (setState con state) := ⟨rfl, rfl⟩

theorem setSessionKey_aside (con : Connection) : Aside con (setSessionKey con) := ⟨rfl, rfl⟩

theorem updateKexAttrs_aside (con : Connection) (packet : RastaPacket) :
    Aside con (updateKexAttrs con packet) := ⟨rfl, rfl⟩

theorem acceptHb_aside (con : Connection) (packet : RastaPacket) :
    Aside con (acceptHb P con packet) := by
  have htimed : Aside con (srDiagnosticUpdate P
      (srUpdateTimeoutInterval P con packet.confirmedTimestamp) packet) := ⟨rfl, rfl⟩
  have hupdated := htimed.trans (updateKexAttrs_aside _ packet)
  have hremoved := hupdated.trans (srRemoveConfirmedMessages_frame P _).aside
  unfold acceptHb
  simp only
  split
  · exact hremoved.trans (setState_aside _ .up)
  · exact hremoved

theorem superviseNew_aside (con : Connection) : Aside con (superviseNew con) := ⟨rfl, rfl⟩

theorem establishByHb_aside (con : Connection) (packet : RastaPacket) :
    Aside con (establishByHb con packet) := by
  have hupdated : Aside con (setCsR (updateConnectionAttrs con packet) packet) := ⟨rfl, rfl⟩
  rw [establishByHb_eq]
  exact (hupdated.trans (setState_aside _ _)).trans (superviseNew_aside _)

theorem prepareServer_aside (con : Connection) : Aside con (prepareServer P con) := by
  unfold prepareServer srInitConnection
  cases P.enableOpaque
  · exact ⟨rfl, rfl⟩
  · exact ⟨rfl, rfl⟩

theorem acceptConreq_aside (con : Connection) (packet : RastaPacket) :
    Aside con (acceptConreq P con packet) := by
  unfold acceptConreq Aside
  dsimp only [redundancyMuxSend, setState, incrementSnT, tick, updateConfirmedAttrs,
    updateConnectionAttrs]
  exact ⟨rfl, rfl⟩

theorem answerKex_aside (con : Connection) (response packet : RastaPacket) (state : RastaSrState) :
    Aside con (setSessionKey (setState (srRemoveConfirmedMessages P (updateKexAttrs (incrementSnT
      (redundancyMuxSend P con response)) packet)) state)) := by
  have hsent := ((redundancyMuxSend_frame P con response).aside.trans
    (incrementSnT_aside _)).trans (updateKexAttrs_aside _ packet)
  have hremoved := hsent.trans (srRemoveConfirmedMessages_frame P _).aside
  exact (hremoved.trans (setState_aside _ state)).trans (setSessionKey_aside _)

theorem acceptConresp_fifoReceive (con : Connection) (packet : RastaPacket) :
    (acceptConresp P con packet).fifoReceive = con.fifoReceive := by
  have hanswer : (answerConresp P con packet).fifoReceive = con.fifoReceive :=
    (answerConresp_frame con packet).fifoReceive
  exact (superviseExchange_frame P _ packet).fifoReceive.trans hanswer

/-- The rekeying timer is armed by `send_KexRequest` only, and the receive queue is filled by the
handlers of Data and RetrData PDUs only. -/
theorem Received.aside_cases (h : Received P con packet after) :
    Aside con after ∨
      (ReachesHandler P con packet ∧ InSequence con packet ∧ DeliversIn con packet) ∧
        after.rekeyingEvent = con.rekeyingEvent ∨
      ConrespAccepted P con packet ∧ after.fifoReceive = con.fifoReceive := by
  cases h with
  | ignored hbase => exact .inl hbase.aside
  | closed hbase reason => exact .inl (hbase.aside.trans (srCloseConnection_aside _ reason 0))
  | discReq hbase => exact .inl hbase.aside
  | @data base hbase hreach htype hstate hseq =>
    have hadded := (srAddAppMessagesToBuffer_frame P base packet).rekeyingEvent
    have hremoved := (srRemoveConfirmedMessages_frame P (updateConfirmedAttrs
      (updateConnectionAttrs (srAddAppMessagesToBuffer P base packet) packet)
      packet)).rekeyingEvent
    exact .inr (.inl ⟨⟨hreach, hseq, .inl ⟨htype, hstate⟩⟩,
      (hremoved.trans hadded).trans hbase.aside.1⟩)
  | dataDropped hbase => exact .inl hbase.aside
  | retransmissionRequested hbase =>
    exact .inl (hbase.aside.trans (sendRetransmissionRequest_frame P _).aside)
  | heartbeatGap hbase => exact .inl hbase.aside
  | retrReqInSeq hbase => exact .inl (hbase.aside.trans (handleRetrreq_aside _ packet))
  | @retrReqOutOfSeq base hbase =>
    exact .inl (hbase.aside.trans (answerRetrreq_frame P (setCsR base packet)).aside)
  | retrResp hbase => exact .inl hbase.aside
  | @retrData base hbase hreach htype hstate hseq =>
    have hadded := (srAddAppMessagesToBuffer_frame P base packet).rekeyingEvent
    exact .inr (.inl ⟨⟨hreach, hseq, .inr ⟨htype, hstate⟩⟩, hadded.trans hbase.aside.1⟩)
  | @heartbeatStart base hbase =>
    have hrejected := hbase.aside.trans (@rejectStartHb_aside P base packet)
    exact .inl (hrejected.trans (establishByHb_aside _ packet))
  | heartbeatLate hbase =>
    exact .inl ((hbase.aside.trans (rejectStartHb_aside _ packet)).trans
      (srCloseConnection_aside _ _ 0))
  | heartbeat hbase => exact .inl (hbase.aside.trans (acceptHb_aside _ packet))
  | conreqRefused => exact .inl ((prepareServer_aside con).trans (srCloseConnection_aside _ _ 0))
  | conreqAccepted => exact .inl ((prepareServer_aside con).trans (acceptConreq_aside _ packet))
  | conrespAccepted haccepted =>
    exact .inr (.inr ⟨haccepted, acceptConresp_fifoReceive con packet⟩)
  | aborted hbase => exact .inl hbase.aside
  | kexRequest hbase _ _ _ _ response =>
    exact .inl (hbase.aside.trans (answerKex_aside _ response packet .kexAuth))
  | kexResponse hbase _ _ _ _ response =>
    exact .inl (hbase.aside.trans (answerKex_aside _ response packet .up))
  | @kexAuth base hbase =>
    exact .inl (hbase.aside.trans
      (srRemoveConfirmedMessages_frame P (updateKexAttrs base packet)).aside)

end Packets

section Appending

variable (P : Platform)

/-- The messages an event appends to `fifo_receive`: those of an accepted Data or RetrData PDU the
queue has room for. -/
def appendedMessages (con : Connection) : Event → List Bytes
  | .receive packet =>
    if AcceptedMessages P con packet then
      (extractMessageData P packet).take
        (con.fifoReceive.maxSize - con.fifoReceive.items.length)
    else []
  | _ => []

/-- Everything that happens to a connection but for calls of `rasta_recv`. -/
abbrev OtherEvent := { event : Event // event ≠ .recv }

/-- One such event. -/
def otherStep (con : Connection) (event : OtherEvent) : Connection :=
  endpointStep P con event.val

variable {P} {con : Connection} {packet : RastaPacket} {event : Event}

theorem srReceive_items_of_accepted (hreach : ReachesHandler P con packet)
    (hseq : InSequence con packet) (hdelivers : DeliversIn con packet) :
    (srReceive P con packet).1.fifoReceive.items =
      con.fifoReceive.items ++ (extractMessageData P packet).take
        (con.fifoReceive.maxSize - con.fifoReceive.items.length) := by
  rcases hdelivers with ⟨htype, hstate⟩ | ⟨htype, hstate⟩
  · obtain ⟨reads, hreceive⟩ := srReceive_of_reaches P (by simp [htype]) (by simp [htype]) hreach
    have hhandled := @handleData_up P { con with clockReads := reads } packet hseq hstate
    rw [hreceive]
    simp only [handleReceivedPacket, htype, hhandled]
    exact (@acceptData_spec P { con with clockReads := reads } packet).2.2
  · obtain ⟨reads, hreceive⟩ := srReceive_of_reaches P (by simp [htype]) (by simp [htype]) hreach
    rw [hreceive]
    simp only [handleReceivedPacket, htype]
    exact (@handleRetrdata_spec P { con with clockReads := reads } packet hseq hstate).2.2

/-- No other packet changes the receive queue. -/
theorem srReceive_fifoReceive_of_not_accepted
    (hnot : ¬ (ReachesHandler P con packet ∧ InSequence con packet ∧ DeliversIn con packet)) :
    (srReceive P con packet).1.fifoReceive = con.fifoReceive := by
  rcases (srReceive_received P con packet).aside_cases with
    haside | ⟨haccepted, -⟩ | ⟨-, hsame⟩
  · exact haside.2
  · exact absurd haccepted hnot
  · exact hsame

theorem openSession_fifoReceive (con : Connection) :
    (openSession P con).fifoReceive = con.fifoReceive := by
  have hprepared : ∀ now, (tick (prepareClient P con now)).fifoReceive = con.fifoReceive := by
    intro now
    unfold prepareClient srInitConnection
    cases P.enableOpaque
    · rfl
    · rfl
  rw [openSession_eq]
  unfold sendConreq
  dsimp only [setState, incrementSnT, tick]
  exact (redundancyMuxSend_frame P _ _).fifoReceive.trans (hprepared _)

theorem rescheduleRekeying_fifoReceive (con : Connection) :
    (rescheduleRekeying con).fifoReceive = con.fifoReceive := by
  unfold rescheduleRekeying
  split
  · rfl
  · rfl

/-- The timers and the other calls of the application leave the receive queue alone. -/
theorem endpointStep_fifoReceive (hreceive : ∀ packet, event ≠ .receive packet)
    (hrecv : event ≠ .recv) : (endpointStep P con event).fifoReceive = con.fifoReceive := by
  unfold endpointStep
  split
  · rfl
  cases event with
  | receive packet => exact absurd rfl (hreceive packet)
  | dataSend =>
    simp only
    split
    · exact (dataSendEvent_frame P con).fifoReceive
    · rfl
  | heartbeat =>
    simp only [heartbeatSendEvent]
    split
    · split
      · rfl
      · split
        · exact (sendHeartbeat_frame P con false).fifoReceive
        · rfl
    · rfl
  | connectionExpired =>
    simp only [eventConnectionExpired]
    split
    · split
      · rfl
      · split
        · exact (srCloseConnection_aside con .timeout 0).2
        · rfl
    · rfl
  | timedKeyExchange =>
    simp only [sendTimedKeyExchange]
    split
    · split
      · exact (rescheduleRekeying_fifoReceive _).trans (sendKexRequest_frame P con).fifoReceive
      · rfl
    · rfl
  | send appMessages =>
    simp only [srSend]
    split
    · split
      · rfl
      · exact (sendMessages_frame P appMessages con).fifoReceive
    · rfl
    · rfl
    all_goals exact (sendDisconnectionRequest_frame P con .serviceNotAllowed 0).fifoReceive
  | connect transportOk =>
    simp only [srConnect]
    split
    · split
      · exact openSession_fifoReceive { con with seqTx := 0 }
      · rfl
    · rfl
  | connectReturn => rfl
  | disconnect => exact (srCloseConnection_aside con .userRequest 0).2
  | transportClosed => rfl
  | recv => exact absurd rfl hrecv
  | accept => rfl
  | acceptReturn => rfl

/-- What an event appends is decided before it. -/
theorem otherStep_items (event : OtherEvent) :
    (otherStep P con event).fifoReceive.items =
      con.fifoReceive.items ++ appendedMessages P con event.val := by
  obtain ⟨event, hrecv⟩ := event
  show (endpointStep P con event).fifoReceive.items = _
  cases event with
  | receive packet =>
    simp only [endpointStep, appendedMessages]
    by_cases haccepted : AcceptedMessages P con packet
    · obtain ⟨haborted, hreach, hseq, hdelivers⟩ := id haccepted
      rw [if_pos haccepted, haborted]
      exact srReceive_items_of_accepted hreach hseq hdelivers
    · rw [if_neg haccepted, List.append_nil]
      split
      · rfl
      · rename_i haborted
        have hnot := fun h => haccepted ⟨by simpa using haborted, h⟩
        rw [srReceive_fifoReceive_of_not_accepted hnot]
  | _ =>
    rw [endpointStep_fifoReceive (by simp) hrecv]
    exact (List.append_nil _).symm

end Appending

section Reading

variable (P : Platform)

/-- A connection with the messages appended to its receive queue so far and the messages its
application got from `rasta_recv`. -/
structure Reader where
  con : Connection
  appended : List Bytes
  returned : List Bytes

def startReader (con : Connection) : Reader :=
  { con := con, appended := con.fifoReceive.items, returned := [] }

/-- An event other than `rasta_recv`, with what it appends. -/
def observe (r : Reader) (event : OtherEvent) : Reader :=
  let after := otherStep P r.con event
  { r with con := after, appended := r.appended ++ newlyAppended r.con after }

/-- The condition of the loop of `rasta_recv`. -/
def Awaiting (con : Connection) : Prop :=
  con.currentState = .up ∧ fifoGetSize con.fifoReceive = 0

instance (con : Connection) : Decidable (Awaiting con) :=
  inferInstanceAs (Decidable (_ ∧ _))

/-- One pass through the loop, where `round` is what happens until `event_system_start` hands back
control. -/
def awaitRound (r : Reader) (round : List OtherEvent) : Reader :=
  if Awaiting r.con then run (observe P) r round else r

/-- What a call of `rasta_recv` comes to. -/
inductive RecvResult where
  -- the event loop goes on, or the process was aborted
  | pending
  -- the return value -1
  | failed
  | received (bytes : Bytes)
deriving DecidableEq

/-- What `rasta_recv` does after its loop with a buffer of `len` bytes. -/
def recvResult (con : Connection) (len : ℕ) : RecvResult :=
  if con.aborted then .pending
  else if con.currentState ≠ .up then .failed
  else
    match (fifoPop con.fifoReceive).1 with
    | none => .pending
    | some elem => .received (elem.take len)

def RecvResult.messages : RecvResult → List Bytes
  | .received bytes => [bytes]
  | .pending | .failed => []

/-- What happens next: an event outside `rasta_recv`, or a call of `rasta_recv` with the rounds of
its event loop. -/
inductive Turn where
  | other (event : OtherEvent)
  | recv (rounds : List (List OtherEvent)) (len : ℕ)

def readerStep (r : Reader) : Turn → Reader
  | .other event => observe P r event
  | .recv rounds len =>
    let waited := run (awaitRound P) r rounds
    { waited with
      con := endpointStep P waited.con .recv
      returned := waited.returned ++ (recvResult waited.con len).messages }

/-- What the application got, followed by what is queued, is what was appended. -/
def Reader.Conserved (r : Reader) : Prop :=
  r.returned ++ r.con.fifoReceive.items = r.appended

instance (r : Reader) : Decidable r.Conserved :=
  inferInstanceAs (Decidable (_ = _))

/-- No message is dropped, repeated or reordered on its way through the receive queue, and a call
fails only when the queue is empty, so that all messages were returned by then. -/
def RecvExact (r : Reader) (turn : Turn) : Prop :=
  (readerStep P r turn).Conserved ∧
    match turn with
    | .other _ => True
    | .recv rounds len =>
      recvResult (run (awaitRound P) r rounds).con len = .failed →
        (run (awaitRound P) r rounds).con.fifoReceive.items = []

instance (r : Reader) (turn : Turn) : Decidable (RecvExact P r turn) :=
  match turn with
  | .other _ => inferInstanceAs (Decidable (_ ∧ True))
  | .recv _ _ => inferInstanceAs (Decidable (_ ∧ (_ → _)))

/-- The buffer of a call holds the message it takes out of the queue. -/
def BufferHolds (r : Reader) : Turn → Prop
  | .other _ => True
  | .recv rounds len =>
    ∀ elem ∈ (run (awaitRound P) r rounds).con.fifoReceive.items.head?, elem.length ≤ len

instance (r : Reader) (turn : Turn) : Decidable (BufferHolds P r turn) :=
  match turn with
  | .other _ => inferInstanceAs (Decidable True)
  | .recv rounds len => inferInstanceAs (Decidable
      (∀ elem ∈ (run (awaitRound P) r rounds).con.fifoReceive.items.head?, elem.length ≤ len))

/-- The connection is in state UP or has nothing queued. -/
def NothingStranded (con : Connection) : Prop :=
  con.aborted = false → con.currentState ≠ .up → con.fifoReceive.items = []

instance (con : Connection) : Decidable (NothingStranded con) :=
  inferInstanceAs (Decidable (_ → _ → _))

/-- A round of the event loop in which messages are appended ends in state UP. -/
def RoundEndsUp (r : Reader) (round : List OtherEvent) : Prop :=
  Awaiting r.con →
    (∃ t ∈ trace (observe P) r round, appendedMessages P t.before.con t.event.val ≠ []) →
      (run (observe P) r round).con.aborted = false →
        (run (observe P) r round).con.currentState = .up

instance (r : Reader) (round : List OtherEvent) : Decidable (RoundEndsUp P r round) :=
  inferInstanceAs (Decidable (_ → _ → _ → _))

/-- `rasta_recv` is called in state UP or with an empty queue, and no round of its event loop that
appends messages leaves state UP for good. -/
def RecvInUp (r : Reader) : Turn → Prop
  | .other _ => True
  | .recv rounds _ => NothingStranded r.con ∧ RunOk (awaitRound P) (RoundEndsUp P) r rounds

instance (r : Reader) (turn : Turn) : Decidable (RecvInUp P r turn) :=
  match turn with
  | .other _ => inferInstanceAs (Decidable True)
  | .recv _ _ => inferInstanceAs (Decidable (_ ∧ _))

variable {P} {r : Reader} {rounds : List (List OtherEvent)} {len : ℕ}

theorem startReader_conserved (con : Connection) : (startReader con).Conserved := rfl

theorem observe_conserved (h : r.Conserved) (event : OtherEvent) :
    (observe P r event).Conserved := by
  have hitems := @otherStep_items P r.con event
  show r.returned ++ (otherStep P r.con event).fifoReceive.items =
    r.appended ++ newlyAppended r.con (otherStep P r.con event)
  rw [newlyAppended_eq hitems, hitems, ← List.append_assoc, h]

theorem run_observe_conserved (h : r.Conserved) (round : List OtherEvent) :
    (run (observe P) r round).Conserved := by
  induction round generalizing r with
  | nil => exact h
  | cons event rest ih => exact ih (observe_conserved h event)

theorem awaitRound_conserved (h : r.Conserved) (round : List OtherEvent) :
    (awaitRound P r round).Conserved := by
  unfold awaitRound
  split
  · exact run_observe_conserved h round
  · exact h

theorem run_awaitRound_conserved (h : r.Conserved) (rounds : List (List OtherEvent)) :
    (run (awaitRound P) r rounds).Conserved := by
  induction rounds generalizing r with
  | nil => exact h
  | cons round rest ih => exact ih (awaitRound_conserved h round)

/-- `rasta_recv` returns the message it takes out of the queue. -/
theorem recvResult_messages {con : Connection}
    (hlen : ∀ elem ∈ con.fifoReceive.items.head?, elem.length ≤ len) :
    (recvResult con len).messages ++ (endpointStep P con .recv).fifoReceive.items =
      con.fifoReceive.items := by
  unfold recvResult endpointStep
  split
  · rfl
  simp only [rastaRecv]
  by_cases hup : con.currentState = .up
  · rw [if_neg (not_not.mpr hup), if_pos hup]
    simp only [fifoPop]
    cases hitems : con.fifoReceive.items with
    | nil => rfl
    | cons elem rest =>
      rw [hitems] at hlen
      have hwhole := List.take_of_length_le (hlen elem rfl)
      simp [RecvResult.messages, hwhole]
  · rw [if_pos hup, if_neg hup]
    rfl

theorem readerStep_conserved (h : r.Conserved) (turn : Turn) (hbuffer : BufferHolds P r turn) :
    (readerStep P r turn).Conserved := by
  cases turn with
  | other event => exact observe_conserved h event
  | recv rounds len =>
    have hwaited := @run_awaitRound_conserved P r h rounds
    have htaken := @recvResult_messages P len _ hbuffer
    simp only [Reader.Conserved, readerStep]
    rw [List.append_assoc, htaken]
    exact hwaited

theorem run_readerStep_conserved (h : r.Conserved) {turns : List Turn}
    (hbuffers : RunOk (readerStep P) (BufferHolds P) r turns) :
    (run (readerStep P) r turns).Conserved :=
  @run_invariant _ _ (readerStep P) (BufferHolds P) Reader.Conserved
    (fun _ turn hr hbuffer => readerStep_conserved hr turn hbuffer) r turns hbuffers h

/-- The queue is empty after a round exactly when it was before and no event appended anything. -/
theorem run_observe_empty_iff (r : Reader) (round : List OtherEvent) :
    (run (observe P) r round).con.fifoReceive.items = [] ↔
      r.con.fifoReceive.items = [] ∧
        ∀ t ∈ trace (observe P) r round, appendedMessages P t.before.con t.event.val = [] := by
  induction round generalizing r with
  | nil => simp [trace]
  | cons event rest ih =>
    have hitems := @otherStep_items P r.con event
    rw [run_cons, ih, trace, List.forall_mem_cons]
    show (otherStep P r.con event).fifoReceive.items = [] ∧ _ ↔ _
    rw [hitems, List.append_eq_nil_iff, and_assoc]

/-- After a round nothing is stranded exactly when the round that appended messages ended in UP. -/
theorem nothingStranded_round_iff {round : List OtherEvent} (hawaiting : Awaiting r.con) :
    NothingStranded (run (observe P) r round).con ↔ RoundEndsUp P r round := by
  have hempty : r.con.fifoReceive.items = [] := List.eq_nil_of_length_eq_zero hawaiting.2
  have hafter := @run_observe_empty_iff P r round
  constructor
  · rintro hstranded - ⟨t, ht, hmessages⟩ hrunning
    by_contra hstate
    have hnone := hafter.mp (hstranded hrunning hstate)
    exact hmessages (hnone.2 t ht)
  · intro hround hrunning hstate
    refine hafter.mpr ⟨hempty, fun t ht => ?_⟩
    by_contra hmessages
    exact hstate (hround hawaiting ⟨t, ht, hmessages⟩ hrunning)

theorem nothingStranded_of_awaiting {con : Connection} (h : Awaiting con) : NothingStranded con :=
  fun _ hstate => absurd h.1 hstate

/-- The same for the whole event loop of a call. -/
theorem nothingStranded_rounds_iff (r : Reader) (rounds : List (List OtherEvent)) :
    NothingStranded (run (awaitRound P) r rounds).con ↔
      NothingStranded r.con ∧ RunOk (awaitRound P) (RoundEndsUp P) r rounds := by
  induction rounds generalizing r with
  | nil => simp [RunOk, trace]
  | cons round rest ih =>
    rw [run_cons, ih, runOk_cons, ← and_assoc]
    refine and_congr_left fun _ => ?_
    unfold awaitRound
    by_cases hawaiting : Awaiting r.con
    · rw [if_pos hawaiting, nothingStranded_round_iff hawaiting]
      exact (and_iff_right (nothingStranded_of_awaiting hawaiting)).symm
    · rw [if_neg hawaiting]
      exact (and_iff_left fun hno => absurd hno hawaiting).symm

theorem recvResult_failed_iff {con : Connection} :
    recvResult con len = .failed ↔ con.aborted = false ∧ con.currentState ≠ .up := by
  unfold recvResult
  split
  · simp_all
  · split
    · simp_all
    · split
      · simp_all
      · simp_all

/-- A call keeps to the claim on its result exactly when nothing is stranded on its way. -/
theorem recvExact_iff (h : r.Conserved) (turn : Turn) (hbuffer : BufferHolds P r turn) :
    RecvExact P r turn ↔ RecvInUp P r turn := by
  have hafter := readerStep_conserved h turn hbuffer
  cases turn with
  | other event => exact and_iff_right hafter
  | recv rounds len =>
    refine (and_iff_right hafter).trans ?_
    show (recvResult _ len = .failed → _) ↔ _
    rw [recvResult_failed_iff, and_imp]
    exact nothingStranded_rounds_iff r rounds

/-- Every message appended to `fifo_receive` is returned, once and in order, and no call fails
before, exactly when no call of `rasta_recv` meets a message queued outside state UP. -/
theorem rastaRecv_exact_iff (P : Platform) (con : Connection) {turns : List Turn}
    (hbuffers : RunOk (readerStep P) (BufferHolds P) (startReader con) turns) :
    RunOk (readerStep P) (RecvExact P) (startReader con) turns ↔
      RunOk (readerStep P) (RecvInUp P) (startReader con) turns := by
  refine forall_congr' fun t => forall_congr' fun ht => ?_
  obtain ⟨front, back, rfl, hbefore, -⟩ := mem_trace _ ht
  have hconserved : t.before.Conserved := by
    rw [hbefore]
    exact run_readerStep_conserved (startReader_conserved con) ((runOk_append _).mp hbuffers).1
  exact recvExact_iff hconserved t.event (hbuffers t ht)

end Reading

def exampleReceives (packet : RastaPacket) : OtherEvent :=
  ⟨.receive packet, Event.noConfusion⟩

/-- A client is connected and calls `rasta_recv`, and the event loop hands back control after the
first heartbeat and again after the packets. -/
def exampleTurns (packets : List RastaPacket) : List Turn :=
  [.other ⟨.connect true, Event.noConfusion⟩, .other (exampleReceives exampleConnResp),
    .recv [[exampleReceives (exampleStampedHeartbeat 1 6610)], packets.map exampleReceives] 16]

def exampleMessage : RastaPacket :=
  { exampleStampedHeartbeat 2 6610 with
    type := .data
    data := exampleData.data }

def exampleDiscReq : RastaPacket :=
  { exampleStampedHeartbeat 3 6610 with
    type := .discReq
    data := [0, 0, 0, 0] }

/-- The message arrives alone. -/
theorem rastaRecv_exact_iff_alone :
    RunOk (readerStep referencePlatform) (RecvExact referencePlatform)
      (startReader (rastaLibInitConfiguration exampleConfig exampleClock))
      (exampleTurns [exampleMessage]) :=
  (rastaRecv_exact_iff referencePlatform (rastaLibInitConfiguration exampleConfig exampleClock)
    (by decide +kernel)).mpr (by decide +kernel)

/-- A disconnection request follows the message in the same delivery: the call returns -1 with the
message still queued. A heartbeat that shows a gap after the message has the same effect. -/
theorem rastaRecv_strands_message :
    let start := startReader (rastaLibInitConfiguration exampleConfig exampleClock)
    let turns := exampleTurns [exampleMessage, exampleDiscReq]
    let after := run (readerStep referencePlatform) start turns
    RunOk (readerStep referencePlatform) (BufferHolds referencePlatform) start turns ∧
      after.appended = [[0x68, 0x69]] ∧ after.returned = [] ∧
      after.con.currentState = .closed ∧ recvResult after.con 16 = .failed ∧
      after.con.fifoReceive.items = [[0x68, 0x69]] ∧
      ¬ RunOk (readerStep referencePlatform) (RecvExact referencePlatform) start turns ∧
      ¬ RunOk (readerStep referencePlatform) (RecvExact referencePlatform) start
        (exampleTurns [exampleMessage, exampleStampedHeartbeat 4 6610]) := by
  decide +kernel

end LibRasta.Retransmission
