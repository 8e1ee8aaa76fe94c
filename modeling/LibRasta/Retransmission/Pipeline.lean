/-
Module: LibRasta/Retransmission/Pipeline.lean
source: src/c/transport/events.c, src/c/retransmission/safety_retransmission.c, src/c/rastafactory.c
digest: The sending side of an established connection as a pipeline of firings, pushes and removals: what it conserves over every interleaving, and the size of the Data PDUs it builds.
-/

import LibRasta.Extraction
import LibRasta.Retransmission.Backpressure
import LibRasta.Retransmission.Removal
import LibRasta.Retransmission.Subsequence

set_option autoImplicit false
set_option relaxedAutoImplicit false

namespace LibRasta.Retransmission

open LibRasta.Lib
open LibRasta.Util
open LibRasta.Factory

/-- What happens to the sending side of an established connection. -/
inductive PipelineEvent where
  -- `sr_send`
  | send (appMessages : List Bytes)
  -- the send timer
  | dataSend
  -- a PDU confirmed the number, and `sr_remove_confirmed_messages` is called
  | removeConfirmed (csR : UInt32)

/-- The parts the events consist of. -/
inductive Action where
  -- a call of `data_send_event`, from wherever
  | fire
  -- a message enters `fifo_send`
  | push (message : Bytes)
  -- the loop of `sr_remove_confirmed_messages`
  | pop (csR : UInt32)

section Translation

variable (P : Platform)

def pipelineStep (con : Connection) : PipelineEvent → Connection
  | .send appMessages => (srSend P con appMessages).1
  | .dataSend => dataSendEvent P con
  | .removeConfirmed csR => srRemoveConfirmedMessages P { con with csR := csR }

def actionStep (con : Connection) : Action → Connection
  | .fire => dataSendEvent P con
  | .push message => pushMessage con message
  | .pop csR => popConfirmed P { con with csR := csR }

/-- The firing at the head of a loop round and at the end of a removal. -/
def flushActions (con : Connection) : List Action :=
  if fifoFull con.fifoSend then [.fire] else []

/-- What the loop of `sr_send` does, action by action. -/
def sendActions : List Bytes → Connection → List Action
  | [], _ => []
  | message :: rest, con =>
    let flushed := flushIfFull P con
    if (fifoPush flushed.fifoSend message).1 then
      flushActions con ++ .push message :: sendActions rest (pushMessage flushed message)
    else flushActions con

/-- What an event does to a connection in UP, action by action. -/
def actionsOf (con : Connection) : PipelineEvent → List Action
  | .send appMessages =>
    if appMessages.length > con.config.maxPacket.toNat then [] else sendActions P appMessages con
  | .dataSend => [.fire]
  | .removeConfirmed csR => .pop csR :: flushActions (popConfirmed P { con with csR := csR })

/-- The actions of a whole run. -/
def runActions : Connection → List PipelineEvent → List Action
  | _, [] => []
  | con, event :: rest => actionsOf P con event ++ runActions (pipelineStep P con event) rest

/-- The messages the run pushed to `fifo_send`. -/
def pushedBy (start : Connection) (events : List PipelineEvent) : List Bytes :=
  (trace (pipelineStep P) start events).flatMap fun t =>
    match t.event with
    | .send appMessages => sendPushes P t.before appMessages
    | _ => []

/-- The calls of `data_send_event` in the run, nested ones included. -/
def firings (start : Connection) (events : List PipelineEvent) : List (Step Connection Action) :=
  (trace (actionStep P) start (runActions P start events)).filter fun t =>
    match t.event with
    | .fire => true
    | _ => false

end Translation

section Actions

variable {P : Platform} {con : Connection}

theorem run_flushActions (con : Connection) :
    run (actionStep P) con (flushActions con) = flushIfFull P con := by
  unfold flushActions flushIfFull
  split
  · rfl
  · rfl

/-- The messages that enter the queue in a list of actions. -/
def pushes (actions : List Action) : List Bytes :=
  actions.filterMap fun action =>
    match action with
    | .push message => some message
    | _ => none

theorem pushes_append (front back : List Action) :
    pushes (front ++ back) = pushes front ++ pushes back :=
  List.filterMap_append

theorem pushes_flushActions (con : Connection) : pushes (flushActions con) = [] := by
  unfold flushActions
  split
  · rfl
  · rfl

/-- The actions do what the loop of `sr_send` does. -/
theorem run_sendActions (messages : List Bytes) (con : Connection) :
    run (actionStep P) con (sendActions P messages con) = (sendMessages P messages con).1 ∧
      pushes (sendActions P messages con) = messagesPushed P messages con := by
  induction messages generalizing con with
  | nil => exact ⟨rfl, rfl⟩
  | cons message rest ih =>
    have hflush := @run_flushActions P con
    have hnone := pushes_flushActions con
    by_cases hplace :
        (flushIfFull P con).fifoSend.items.length < (flushIfFull P con).fifoSend.maxSize
    · have hpush := (fifoPush_of_room hplace message).1
      obtain ⟨hloop, hpushed⟩ := @sendMessages_cons_of_place P con message rest hplace
      obtain ⟨hrun, hpushes⟩ := ih (pushMessage (flushIfFull P con) message)
      have hactions : sendActions P (message :: rest) con = flushActions con ++
          .push message :: sendActions P rest (pushMessage (flushIfFull P con) message) :=
        if_pos hpush
      rw [hactions, hloop, hpushed, run_append, hflush, run_cons, pushes_append, hnone]
      refine ⟨hrun, ?_⟩
      rw [← hpushes]
      rfl
    · obtain ⟨hloop, hpushed⟩ := @sendMessages_cons_of_full P con message rest hplace
      have hpush := fifoPush_of_no_room hplace message
      have hactions : sendActions P (message :: rest) con = flushActions con := if_neg hpush
      rw [hactions, hloop, hpushed]
      exact ⟨hflush, hnone⟩

/-- In UP an event is the run of its actions, and it pushes what they push. -/
theorem run_actionsOf (hstate : con.currentState = .up) (event : PipelineEvent) :
    run (actionStep P) con (actionsOf P con event) = pipelineStep P con event ∧
      pushes (actionsOf P con event) =
        match event with
        | .send appMessages => sendPushes P con appMessages
        | _ => [] := by
  cases event with
  | send appMessages =>
    have hsend : (srSend P con appMessages).1 =
        if appMessages.length > con.config.maxPacket.toNat then con
        else (sendMessages P appMessages con).1 := by
      unfold srSend
      rw [hstate]
      simp only
      split
      · rfl
      · rfl
    simp only [actionsOf, pipelineStep, hsend, sendPushes, hstate, true_and]
    split
    · rename_i hlong
      rw [if_neg (by omega)]
      exact ⟨rfl, rfl⟩
    · rename_i hshort
      rw [if_pos (by omega)]
      exact run_sendActions appMessages con
  | dataSend => exact ⟨rfl, rfl⟩
  | removeConfirmed csR =>
    refine ⟨?_, pushes_flushActions _⟩
    rw [actionsOf, run_cons]
    exact run_flushActions _

theorem actionStep_currentState (con : Connection) (action : Action) :
    (actionStep P con action).currentState = con.currentState := by
  cases action with
  | fire => exact (dataSendEvent_frame P con).currentState
  | push message => rfl
  | pop csR => rfl

theorem pipelineStep_currentState (hstate : con.currentState = .up) (event : PipelineEvent) :
    (pipelineStep P con event).currentState = .up := by
  rw [← (run_actionsOf hstate event).1]
  refine @run_invariant _ _ (actionStep P) (fun _ _ => True) (fun c => c.currentState = .up)
    (fun c action hc _ => ?_) _ _ (fun _ _ => trivial) hstate
  exact (actionStep_currentState c action).trans hc

/-- A run is the run of its actions. -/
theorem run_runActions (hstate : con.currentState = .up) (events : List PipelineEvent) :
    run (actionStep P) con (runActions P con events) = run (pipelineStep P) con events ∧
      pushes (runActions P con events) = pushedBy P con events := by
  induction events generalizing con with
  | nil => exact ⟨rfl, rfl⟩
  | cons event rest ih =>
    obtain ⟨hrun, hpushes⟩ := @run_actionsOf P con hstate event
    obtain ⟨hruns, hmore⟩ := ih (pipelineStep_currentState hstate event)
    rw [runActions, run_append, hrun, run_cons, pushes_append, hpushes, hmore]
    exact ⟨hruns, rfl⟩

/-- A message enters the queue only where there is a place for it. -/
def PushHasPlace (con : Connection) : Action → Prop
  | .push _ => con.fifoSend.items.length < con.fifoSend.maxSize
  | _ => True

theorem flushActions_hasPlace (con : Connection) :
    RunOk (actionStep P) PushHasPlace con (flushActions con) := by
  unfold flushActions
  split
  · exact (runOk_cons _).mpr ⟨trivial, fun _ ht => absurd ht List.not_mem_nil⟩
  · exact fun _ ht => absurd ht List.not_mem_nil

theorem sendActions_hasPlace (messages : List Bytes) (con : Connection) :
    RunOk (actionStep P) PushHasPlace con (sendActions P messages con) := by
  induction messages generalizing con with
  | nil => exact fun _ ht => absurd ht List.not_mem_nil
  | cons message rest ih =>
    have hflush := @flushActions_hasPlace P con
    rw [sendActions]
    split
    · rename_i hpush
      have hplace : (flushIfFull P con).fifoSend.items.length <
          (flushIfFull P con).fifoSend.maxSize := by
        by_contra hnone
        have hsize := (flushIfFull P con).fifoSend.size_le
        rw [fifoPush_of_full (by omega)] at hpush
        exact Bool.false_ne_true hpush
      rw [runOk_append, run_flushActions, runOk_cons]
      exact ⟨hflush, hplace, ih _⟩
    · exact hflush

theorem actionsOf_hasPlace (con : Connection) (event : PipelineEvent) :
    RunOk (actionStep P) PushHasPlace con (actionsOf P con event) := by
  cases event with
  | send appMessages =>
    rw [actionsOf]
    split
    · exact fun _ ht => absurd ht List.not_mem_nil
    · exact sendActions_hasPlace appMessages con
  | dataSend => exact (runOk_cons _).mpr ⟨trivial, fun _ ht => absurd ht List.not_mem_nil⟩
  | removeConfirmed csR => exact (runOk_cons _).mpr ⟨trivial, flushActions_hasPlace _⟩

theorem runActions_hasPlace (hstate : con.currentState = .up) (events : List PipelineEvent) :
    RunOk (actionStep P) PushHasPlace con (runActions P con events) := by
  induction events generalizing con with
  | nil => exact fun _ ht => absurd ht List.not_mem_nil
  | cons event rest ih =>
    rw [runActions, runOk_append, (run_actionsOf hstate event).1]
    exact ⟨actionsOf_hasPlace con event, ih (pipelineStep_currentState hstate event)⟩

end Actions

section Firing

variable {P : Platform} {con : Connection}

/-- The messages a call of `data_send_event` takes. -/
def batchOf (con : Connection) : List Bytes := con.fifoSend.items.take (takenCount con)

/-- They fit into one Data PDU. -/
def BatchFits (con : Connection) : Prop := MessagesFit con.srHashingContext (batchOf con)

instance (con : Connection) : Decidable (BatchFits con) :=
  inferInstanceAs (Decidable (MessagesFit _ _))

theorem sendBacklogSize_le (con : Connection) :
    sendBacklogSize con ≤ con.fifoSend.items.length ∧
      (0 < sendBacklogSize con → con.fifoRetransmission.items.length <
        con.config.maxRetransmissionQueueSize.toNat) := by
  by_cases hroom : fifoGetSize con.fifoRetransmission <
      con.config.maxRetransmissionQueueSize.toNat
  · simp only [sendBacklogSize, if_pos hroom]
    exact ⟨Nat.min_le_right _ _, fun _ => hroom⟩
  · simp only [sendBacklogSize, if_neg hroom]
    exact ⟨Nat.zero_le _, fun hpos => absurd hpos (Nat.lt_irrefl 0)⟩

theorem dataSendEvent_of_idle (h : sendBacklogSize con = 0) :
    dataSendEvent P con = stopIdleSending con := by
  rw [dataSendEvent, sendQueued, if_neg (by omega)]

theorem dataSendEvent_of_backlog (h : 0 < sendBacklogSize con) :
    dataSendEvent P con = stopIdleSending (sendBatch P con (takenCount con)) := by
  have hcount : (if con.config.maxPacket.toNat ≤ sendBacklogSize con then
      con.config.maxPacket.toNat else sendBacklogSize con) = takenCount con := by
    rw [takenCount, Nat.min_def]
  rw [dataSendEvent, sendQueued, if_pos h, hcount]

/-- Only the length of the safety code matters for the packet. -/
theorem createDataMessage_congr {ctx ctx' : RastaHashingContext}
    (h : ctx.checksumLen = ctx'.checksumLen) (header : PacketHeader) (messages : List Bytes) :
    createDataMessage P header messages ctx = createDataMessage P header messages ctx' := by
  simp only [createDataMessage, initializePacket, h]

/-- The Data PDU of a firing: what is sent and what is kept for retransmission. -/
structure Fired (P : Platform) (con after : Connection) (pdu : SentPdu) : Prop where
  sent : after.sent = con.sent ++ [pdu]
  packet : pdu.packet = createDataMessage P (nextHeader con) (batchOf con) con.srHashingContext
  innerBytes : pdu.innerBytes = encodePdu P con.hashingContext pdu.packet
  batch : IsBatch P con.hashingContext pdu.packet (batchOf con)
  retained : after.fifoRetransmission.items =
    con.fifoRetransmission.items ++ [encodePdu P con.srHashingContext pdu.packet]
  fifoSend : after.fifoSend = fifoPopMany con.fifoSend (takenCount con)
  snT : after.snT = con.snT + 1
  lasterror : after.lasterror = .none
  retransmissionSize : after.fifoRetransmission.maxSize = con.fifoRetransmission.maxSize

theorem dataSendEvent_fired (hbacklog : 0 < sendBacklogSize con) (herror : con.lasterror = .none)
    (hfits : BatchFits con)
    (hlen : con.hashingContext.checksumLen = con.srHashingContext.checksumLen)
    (hroom : con.fifoRetransmission.items.length < con.fifoRetransmission.maxSize) :
    ∃ pdu, Fired P con (dataSendEvent P con) pdu := by
  have hsame := stopIdleSending_same (sendBatch P con (takenCount con))
  have hdata := @createDataMessage_congr P _ _ hlen (nextHeader con) (batchOf con)
  have hfits' : MessagesFit con.hashingContext (batchOf con) := by
    unfold BatchFits MessagesFit at hfits
    unfold MessagesFit
    rw [hlen]
    exact hfits
  have hbatch := @createDataMessage_isBatch P con.hashingContext (nextHeader con) _ hfits'
  have hlength := hbatch.length
  rw [hdata] at hbatch hlength
  have hkept := @rastaModuleToBytes_none P con.srHashingContext _ (hlen ▸ hlength)
  generalize hpacket : createDataMessage P (nextHeader con) (batchOf con) con.srHashingContext =
    data at hbatch hlength hkept
  have heq : sendBatch P con (takenCount con) =
      rescheduleHeartbeat (incrementSnT (redundancyMuxSend P (tick (setQueues con
        (fifoPopMany con.fifoSend (takenCount con))
        (fifoPush con.fifoRetransmission (encodePdu P con.srHashingContext data)).2 .none)) data)) := by
    rw [batchOf] at hpacket
    simp only [sendBatch_eq, hpacket, herror, hkept]
  obtain ⟨hnone, pdu, hsent, hpdu, hbytes⟩ := @redundancyMuxSend_spec P con.hashingContext
    (tick (setQueues con (fifoPopMany con.fifoSend (takenCount con))
      (fifoPush con.fifoRetransmission (encodePdu P con.srHashingContext data)).2 .none))
    data rfl rfl hlength
  rw [dataSendEvent_of_backlog hbacklog]
  refine ⟨pdu, ?_, hpdu.trans hpacket.symm, ?_, ?_, ?_, ?_, ?_, ?_, ?_⟩
  · rw [hsame.sent, heq]
    exact hsent
  · rw [hpdu]
    exact hbytes
  · rw [hpdu]
    exact hbatch
  · rw [hsame.fifoRetransmission, heq, hpdu]
    exact (fifoPush_of_room hroom _).2
  · rw [hsame.fifoSend, heq]
    rfl
  · rw [hsame.snT, heq]
    rfl
  · rw [hsame.lasterror, heq]
    exact hnone
  · rw [hsame.fifoRetransmission, heq]
    exact fifoPush_maxSize _ _

end Firing

section Conservation

variable (P : Platform)

/-- A connection in UP with empty queues of the configured sizes. -/
structure Drained (con : Connection) : Prop where
  state : con.currentState = .up
  fifoSend : con.fifoSend.items = []
  fifoRetransmission : con.fifoRetransmission.items = []
  sendSize : con.fifoSend.maxSize = (2 * con.config.maxPacket).toNat
  retransmissionSize : con.fifoRetransmission.maxSize =
    con.config.maxRetransmissionQueueSize.toNat
  checksumLen : con.hashingContext.checksumLen = con.srHashingContext.checksumLen

/-- The Data PDUs sent between two states of a connection. -/
def dataPdus (start con : Connection) : List SentPdu :=
  (newlySent start con).filter fun pdu => pdu.packet.type = .data

/-- The messages a receiver takes from a PDU. -/
def carried (ctx : RastaHashingContext) (pdu : SentPdu) : List Bytes :=
  extractMessageData P (decodePdu P ctx pdu.innerBytes)

/-- What the pipeline conserves between its start and a later state. -/
structure PipelineKept (start con : Connection) (pushed : List Bytes) : Prop where
  conserved : pushed =
    (dataPdus start con).flatMap (carried P start.hashingContext) ++ con.fifoSend.items
  batches : ∀ pdu ∈ dataPdus start con, 1 ≤ (carried P start.hashingContext pdu).length ∧
    (carried P start.hashingContext pdu).length ≤ start.config.maxPacket.toNat
  bounded : con.fifoRetransmission.items.length ≤ start.config.maxRetransmissionQueueSize.toNat
  -- `sn_t` did not pass the largest 32 bit number
  numbers : start.snT.toNat + (dataPdus start con).length < 2 ^ 32 →
    (con.fifoRetransmission.items.Pairwise fun a b =>
      queuedNumber P con a < queuedNumber P con b) ∧
    ∀ bytes ∈ con.fifoRetransmission.items, queuedNumber P con bytes < con.snT

/-- The Data PDU was sent by this call of `data_send_event`, which had just appended it to
`fifo_retransmission`. -/
structure SentAndRetained (firing : Step Connection Action) (pdu : SentPdu) : Prop where
  sent : newlySent firing.before firing.after = [pdu]
  retained : firing.after.fifoRetransmission.items = firing.before.fifoRetransmission.items ++
    [encodePdu P firing.before.srHashingContext pdu.packet]

/-- The state of the pipeline after `out` was sent. -/
structure Flowing (start con : Connection) (pushed : List Bytes) (out : List SentPdu) : Prop where
  sent : con.sent = start.sent ++ out
  config : con.config = start.config
  hashingContext : con.hashingContext = start.hashingContext
  srHashingContext : con.srHashingContext = start.srHashingContext
  lasterror : con.lasterror = .none
  sendSize : con.fifoSend.maxSize = start.fifoSend.maxSize
  retransmissionSize : con.fifoRetransmission.maxSize = start.fifoRetransmission.maxSize
  data : ∀ pdu ∈ out, pdu.packet.type = .data
  batches : ∀ pdu ∈ out, 1 ≤ (carried P start.hashingContext pdu).length ∧
    (carried P start.hashingContext pdu).length ≤ start.config.maxPacket.toNat
  conserved : pushed = out.flatMap (carried P start.hashingContext) ++ con.fifoSend.items
  kept : ∃ packets, packets <:+ out.map SentPdu.packet ∧
    List.Forall₂ (Encodes P start) con.fifoRetransmission.items packets
  numbers : out.map (fun pdu => pdu.packet.sequenceNumber) =
    (List.range out.length).map fun i => start.snT + UInt32.ofNat i
  next : con.snT = start.snT + UInt32.ofNat out.length

variable {P} {start con after : Connection} {pushed : List Bytes} {out : List SentPdu}

theorem Drained.flowing (h : Drained start) (herror : start.lasterror = .none) :
    Flowing P start start [] [] where
  sent := (List.append_nil _).symm
  config := rfl
  hashingContext := rfl
  srHashingContext := rfl
  lasterror := herror
  sendSize := rfl
  retransmissionSize := rfl
  data := fun _ hpdu => absurd hpdu List.not_mem_nil
  batches := fun _ hpdu => absurd hpdu List.not_mem_nil
  conserved := h.fifoSend.symm
  kept := ⟨[], List.nil_suffix, h.fifoRetransmission ▸ .nil⟩
  numbers := rfl
  next := (UInt32.add_zero _).symm

theorem Flowing.same (h : Flowing P start con pushed out) (hsame : SameSender con after) :
    Flowing P start after pushed out :=
  { h with
    sent := hsame.sent.trans h.sent
    config := hsame.config.trans h.config
    hashingContext := hsame.hashingContext.trans h.hashingContext
    srHashingContext := hsame.srHashingContext.trans h.srHashingContext
    lasterror := hsame.lasterror.trans h.lasterror
    sendSize := by rw [hsame.fifoSend, h.sendSize]
    retransmissionSize := by rw [hsame.fifoRetransmission, h.retransmissionSize]
    conserved := by rw [hsame.fifoSend]; exact h.conserved
    kept := by rw [hsame.fifoRetransmission]; exact h.kept
    next := hsame.snT.trans h.next }

theorem Flowing.push (h : Flowing P start con pushed out) (message : Bytes)
    (hplace : con.fifoSend.items.length < con.fifoSend.maxSize) :
    Flowing P start (pushMessage con message) (pushed ++ [message]) out :=
  { h with
    sendSize := (fifoPush_maxSize con.fifoSend message).trans h.sendSize
    conserved := by
      have hitems : (pushMessage con message).fifoSend.items = con.fifoSend.items ++ [message] :=
        (fifoPush_of_room hplace message).2
      rw [hitems, h.conserved, List.append_assoc] }

theorem Flowing.whole (h : Flowing P start con pushed out) :
    ∀ bytes ∈ con.fifoRetransmission.items,
      28 + con.hashingContext.checksumLen ≤ bytes.length := by
  obtain ⟨packets, -, hkept⟩ := h.kept
  have hboth := hkept.imp fun _ _ hencodes => And.intro hencodes.whole hencodes
  rw [h.hashingContext]
  exact ((List.forall₂_and_left _ _).mp hboth).1

theorem Flowing.pop (h : Flowing P start con pushed out) (csR : UInt32) :
    Flowing P start (popConfirmed P { con with csR := csR }) pushed out :=
  { h with
    lasterror := (confirmedCount_snd h.whole csR con.lasterror).trans h.lasterror
    kept := by
      obtain ⟨packets, hsuffix, hkept⟩ := h.kept
      exact ⟨_, (List.drop_suffix _ _).trans hsuffix, List.forall₂_drop _ hkept⟩ }

/-- A call of `data_send_event` with something to send. -/
theorem Flowing.fired (h : Flowing P start con pushed out) (hdrained : Drained start)
    (hbacklog : 0 < sendBacklogSize con) {pdu : SentPdu} (hfired : Fired P con after pdu)
    (hconfig : after.config = con.config) (hctx : after.hashingContext = con.hashingContext)
    (hsr : after.srHashingContext = con.srHashingContext) :
    Flowing P start after pushed (out ++ [pdu]) := by
  have hlen := hdrained.checksumLen
  have hmessages : carried P start.hashingContext pdu = batchOf con := by
    rw [carried, hfired.innerBytes, ← h.hashingContext, decodePdu_encodePdu P hfired.batch.length]
    exact hfired.batch.messages
  have htype : pdu.packet.type = .data := by
    rw [hfired.packet]
    rfl
  have hnumber : pdu.packet.sequenceNumber = con.snT := by
    rw [hfired.packet]
    rfl
  have hqueued := (sendBacklogSize_le con).1
  have hpacket : 0 < con.config.maxPacket.toNat := by
    by_contra hzero
    have hsize := con.fifoSend.size_le
    have hnone : con.config.maxPacket = 0 := UInt32.toNat_inj.mp (by simpa using hzero)
    have htwice : (2 * (0 : UInt32)).toNat = 0 := rfl
    rw [h.sendSize, hdrained.sendSize, ← h.config, hnone, htwice] at hsize
    omega
  have hcount : (batchOf con).length = takenCount con := by
    rw [batchOf, List.length_take, takenCount]
    omega
  refine ⟨?_, hconfig.trans h.config, hctx.trans h.hashingContext, hsr.trans h.srHashingContext,
    hfired.lasterror, ?_, hfired.retransmissionSize.trans h.retransmissionSize, ?_, ?_, ?_, ?_, ?_,
    ?_⟩
  · rw [hfired.sent, h.sent, List.append_assoc]
  · rw [hfired.fifoSend]
    exact h.sendSize
  · intro other hother
    rcases List.mem_append.mp hother with hold | hnew
    · exact h.data other hold
    · rw [List.mem_singleton.mp hnew]
      exact htype
  · intro other hother
    rcases List.mem_append.mp hother with hold | hnew
    · exact h.batches other hold
    · rw [List.mem_singleton.mp hnew, hmessages, hcount, takenCount, ← h.config]
      omega
  · rw [h.conserved, List.flatMap_append, List.append_assoc, hfired.fifoSend]
    congr 1
    rw [List.flatMap_singleton, hmessages]
    exact (List.take_append_drop _ _).symm
  · obtain ⟨packets, ⟨front, hfront⟩, hkept⟩ := h.kept
    refine ⟨packets ++ [pdu.packet], ⟨front, ?_⟩, ?_⟩
    · rw [← List.append_assoc, hfront, List.map_append]
      rfl
    · rw [hfired.retained, h.srHashingContext]
      have hwhole := hfired.batch.length
      rw [h.hashingContext] at hwhole
      refine List.rel_append hkept (.cons ⟨.inl htype, _, hlen.symm, hlen ▸ hwhole, rfl⟩ .nil)
  · rw [List.map_append, h.numbers, List.length_append, List.length_singleton, List.range_succ,
      List.map_append, List.map_singleton, List.map_singleton, hnumber, h.next]
  · rw [hfired.snT, h.next, List.length_append, List.length_singleton, UInt32.ofNat_add,
      UInt32.add_assoc]
    rfl

theorem Flowing.fire (h : Flowing P start con pushed out) (hdrained : Drained start)
    (hfits : BatchFits con) :
    ∃ more, Flowing P start (dataSendEvent P con) pushed (out ++ more) ∧
      ∀ pdu ∈ more, SentAndRetained P
        { before := con, event := .fire, after := dataSendEvent P con } pdu := by
  by_cases hbacklog : 0 < sendBacklogSize con
  · have hroom := (sendBacklogSize_le con).2 hbacklog
    rw [h.config, ← hdrained.retransmissionSize, ← h.retransmissionSize] at hroom
    have hlen : con.hashingContext.checksumLen = con.srHashingContext.checksumLen := by
      rw [h.hashingContext, h.srHashingContext]
      exact hdrained.checksumLen
    obtain ⟨pdu, hfired⟩ := @dataSendEvent_fired P con hbacklog h.lasterror hfits hlen hroom
    have hframe := dataSendEvent_frame P con
    refine ⟨[pdu], h.fired hdrained hbacklog hfired hframe.config hframe.hashingContext
      hframe.srHashingContext, ?_⟩
    intro other hother
    rw [List.mem_singleton.mp hother]
    exact ⟨newlySent_eq hfired.sent, hfired.retained⟩
  · refine ⟨[], ?_, fun _ hpdu => absurd hpdu List.not_mem_nil⟩
    rw [dataSendEvent_of_idle (by omega), List.append_nil]
    exact h.same (stopIdleSending_same con)

/-- The invariant of the actions: the pipeline flows, and each Data PDU came from a firing. -/
def FlowedBy (P : Platform) (start : Connection) (history : List (Step Connection Action))
    (con : Connection) : Prop :=
  ∃ out, Flowing P start con (pushes (history.map Step.event)) out ∧
    ∀ pdu ∈ out, ∃ t ∈ history, t.event = .fire ∧ SentAndRetained P t pdu

/-- An action may be taken: a firing finds a batch that fits, a push a place in the queue. -/
def ActionOk (con : Connection) : Action → Prop
  | .fire => BatchFits con
  | action => PushHasPlace con action

theorem FlowedBy.step (hdrained : Drained start) (history : List (Step Connection Action))
    (con : Connection) (action : Action) (h : FlowedBy P start history con)
    (hok : ActionOk con action) :
    FlowedBy P start
      (history ++ [{ before := con, event := action, after := actionStep P con action }])
      (actionStep P con action) := by
  obtain ⟨out, hflowing, hsent⟩ := h
  -- the earlier firings stay where they were in the history
  have hold : ∀ pdu ∈ out, ∃ t ∈ history ++ [Step.mk con action (actionStep P con action)],
      t.event = .fire ∧ SentAndRetained P t pdu := by
    intro pdu hpdu
    obtain ⟨t, ht, hfire⟩ := hsent pdu hpdu
    exact ⟨t, List.mem_append_left _ ht, hfire⟩
  have hpushes : pushes ((history ++ [Step.mk con action (actionStep P con action)]).map
      Step.event) = pushes (history.map Step.event) ++ pushes [action] := by
    rw [List.map_append, pushes_append]
    rfl
  rw [FlowedBy, hpushes]
  cases action with
  | fire =>
    obtain ⟨more, hmore, hretained⟩ := hflowing.fire hdrained hok
    refine ⟨out ++ more, ?_, ?_⟩
    · rw [show pushes [Action.fire] = [] from rfl, List.append_nil]
      exact hmore
    · intro pdu hpdu
      rcases List.mem_append.mp hpdu with hpdu | hpdu
      · exact hold pdu hpdu
      · exact ⟨_, List.mem_append_right _ (List.mem_singleton.mpr rfl), rfl, hretained pdu hpdu⟩
  | push message => exact ⟨out, hflowing.push message hok, hold⟩
  | pop csR =>
    refine ⟨out, ?_, hold⟩
    rw [show pushes [Action.pop csR] = [] from rfl, List.append_nil]
    exact hflowing.pop csR

theorem Flowing.dataPdus (h : Flowing P start con pushed out) : dataPdus start con = out := by
  rw [LibRasta.Retransmission.dataPdus, newlySent_eq h.sent, List.filter_eq_self]
  intro pdu hpdu
  exact decide_eq_true (h.data pdu hpdu)

/-- While no number wraps around, the numbers are those of a growing counter. -/
theorem toNat_add_ofNat {v : UInt32} {i : ℕ} (h : v.toNat + i < 2 ^ 32) :
    (v + UInt32.ofNat i).toNat = v.toNat + i := by
  rw [UInt32.toNat_add, UInt32.toNat_ofNat']
  omega

theorem Flowing.increasing (h : Flowing P start con pushed out)
    (hrange : start.snT.toNat + out.length < 2 ^ 32) :
    ((out.map SentPdu.packet).Pairwise fun a b => a.sequenceNumber < b.sequenceNumber) ∧
      ∀ packet ∈ out.map SentPdu.packet, packet.sequenceNumber < con.snT := by
  have hcounted : ∀ i ∈ List.range out.length,
      (start.snT + UInt32.ofNat i).toNat = start.snT.toNat + i := by
    intro i hi
    have hlt := List.mem_range.mp hi
    exact toNat_add_ofNat (by omega)
  have hnumbers : (out.map SentPdu.packet).map RastaPacket.sequenceNumber =
      (List.range out.length).map fun i => start.snT + UInt32.ofNat i := by
    rw [List.map_map]
    exact h.numbers
  constructor
  · rw [← @List.pairwise_map _ _ RastaPacket.sequenceNumber (· < ·), hnumbers, List.pairwise_map]
    refine List.Pairwise.imp_of_mem ?_ List.pairwise_lt_range
    intro i j hi hj hlt
    rw [UInt32.lt_iff_toNat_lt, hcounted i hi, hcounted j hj]
    omega
  · intro packet hpacket
    have hmem : packet.sequenceNumber ∈
        (List.range out.length).map fun i => start.snT + UInt32.ofNat i := by
      rw [← hnumbers]
      exact List.mem_map_of_mem hpacket
    obtain ⟨i, hi, hnumber⟩ := List.mem_map.mp hmem
    have hlt := List.mem_range.mp hi
    rw [← hnumber, h.next, UInt32.lt_iff_toNat_lt, hcounted i hi, toNat_add_ofNat hrange]
    omega

theorem Flowing.pipelineKept (h : Flowing P start con pushed out) (hdrained : Drained start) :
    PipelineKept P start con pushed where
  conserved := by
    rw [h.dataPdus]
    exact h.conserved
  batches := by
    rw [h.dataPdus]
    exact h.batches
  bounded := by
    rw [← hdrained.retransmissionSize, ← h.retransmissionSize]
    exact con.fifoRetransmission.size_le
  numbers hrange := by
    rw [h.dataPdus] at hrange
    obtain ⟨packets, hsuffix, hkept⟩ := h.kept
    obtain ⟨hincreasing, hbelow⟩ := h.increasing hrange
    have hitems : List.Forall₂ (Encodes P con) con.fifoRetransmission.items packets := by
      refine hkept.imp fun bytes packet hencodes => ⟨hencodes.type, ?_⟩
      rw [h.hashingContext]
      exact hencodes.encoded
    have hholds : QueueHolds P con packets :=
      ⟨hitems, hincreasing.sublist hsuffix.sublist,
        fun packet hpacket => hbelow packet (hsuffix.subset hpacket)⟩
    refine ⟨hholds.sorted.imp fun hlt => UInt32.lt_iff_toNat_lt.mpr hlt, ?_⟩
    exact (hholds.forall_number fun number => number < con.snT).mpr hholds.below

/-- Over every interleaving of `sr_send`, `data_send_event` and the removal of confirmed packets,
as long as each batch fits into a Data PDU: no message is lost or duplicated, and each Data PDU
is in the retransmission queue when it is sent. -/
theorem pipeline_conserves (P : Platform) {start : Connection} (hstart : Drained start)
    (herror : start.lasterror = .none) (events : List PipelineEvent)
    (hfits : ∀ firing ∈ firings P start events, BatchFits firing.before) :
    PipelineKept P start (run (pipelineStep P) start events) (pushedBy P start events) ∧
      ∀ pdu ∈ dataPdus start (run (pipelineStep P) start events),
        ∃ firing ∈ firings P start events, SentAndRetained P firing pdu := by
  obtain ⟨hrun, hpushed⟩ := @run_runActions P start hstart.state events
  have hplace := @runActions_hasPlace P start hstart.state events
  have hok : RunOk (actionStep P) ActionOk start (runActions P start events) := by
    intro t ht
    have hpush := hplace t ht
    have hfire : t.event = .fire → BatchFits t.before := by
      intro hevent
      exact hfits t (List.mem_filter.mpr ⟨ht, by rw [hevent]⟩)
    cases hevent : t.event with
    | fire => exact hfire hevent
    | push message =>
      rw [hevent] at hpush
      exact hpush
    | pop csR => exact trivial
  obtain ⟨out, hflowing, hsent⟩ := trace_invariant (actionStep P) (FlowedBy.step hstart) hok
    ⟨[], hstart.flowing herror, fun _ hpdu => absurd hpdu List.not_mem_nil⟩
  have hevents : ∀ (con : Connection) (actions : List Action),
      (trace (actionStep P) con actions).map Step.event = actions := by
    intro con actions
    induction actions generalizing con with
    | nil => rfl
    | cons action rest ih =>
      rw [trace, List.map_cons, ih]
  rw [hevents, hpushed, hrun] at hflowing
  refine ⟨hflowing.pipelineKept hstart, ?_⟩
  intro pdu hpdu
  rw [hflowing.dataPdus] at hpdu
  obtain ⟨t, ht, hevent, hretained⟩ := hsent pdu hpdu
  exact ⟨t, List.mem_filter.mpr ⟨ht, by rw [hevent]⟩, hretained⟩

theorem exampleRunning_drained : Drained exampleRunning :=
  ⟨rfl, rfl, rfl, rfl, rfl, rfl⟩

/-- Five messages in batches of at most three; a confirmation frees the retransmission queue in
between. -/
theorem pipeline_conserves_interleaved :
    let events : List PipelineEvent := [.send [[0x61], [0x62]], .dataSend, .send [[0x63]],
      .removeConfirmed 5, .send [[0x64], [], [0x65]], .dataSend]
    PipelineKept referencePlatform exampleRunning
        (run (pipelineStep referencePlatform) exampleRunning events)
        (pushedBy referencePlatform exampleRunning events) ∧
      pushedBy referencePlatform exampleRunning events =
        [[0x61], [0x62], [0x63], [0x64], [], [0x65]] ∧
      (run (pipelineStep referencePlatform) exampleRunning events).fifoSend.items = [[0x65]] := by
  refine ⟨?_, by decide +kernel, by decide +kernel⟩
  exact (pipeline_conserves referencePlatform exampleRunning_drained rfl _ (by decide +kernel)).1

end Conservation

section Overlong

variable {P : Platform} {con : Connection}

/-- One message enters the empty queue, and the timer fires. -/
def sendOne (message : Bytes) : List PipelineEvent := [.send [message], .dataSend]

theorem Unladen.runActions (h : Unladen con) (message : Bytes) :
    runActions P con (sendOne message) = [.push message, .fire] := by
  have hfull := h.not_full
  have hflush : flushIfFull P con = con := if_neg hfull
  have hnone : flushActions con = [] := if_neg hfull
  have hone : ¬ ([message] : List Bytes).length > con.config.maxPacket.toNat :=
    Nat.not_lt.mpr h.maxPacket
  simp only [sendOne, LibRasta.Retransmission.runActions, actionsOf, if_neg hone, sendActions,
    hflush, (h.pushed message).1, if_true, hnone, List.nil_append, List.append_nil,
    List.singleton_append]

theorem Unladen.run_sendOne (h : Unladen con) (message : Bytes) :
    run (pipelineStep P) con (sendOne message) = dataSendEvent P (pushMessage con message) ∧
      pushedBy P con (sendOne message) = [message] ∧
      firings P con (sendOne message) =
        [⟨pushMessage con message, .fire, dataSendEvent P (pushMessage con message)⟩] := by
  obtain ⟨hrun, hpushed⟩ := @run_runActions P con h.state (sendOne message)
  rw [← hrun, ← hpushed, firings, h.runActions]
  exact ⟨rfl, rfl, rfl⟩

/-- What is sent of an overlong message is what is sent of its beginning. -/
theorem Unladen.fire_overlong (h : Unladen con) {front back : Bytes}
    (hfront : front.length + 2 < 2 ^ 16) (hback : back.length = 2 ^ 16) :
    dataSendEvent P (pushMessage con (front ++ back)) = dataSendEvent P (pushMessage con front) := by
  have hfire : ∀ message, endpointStep P (endpointStep P con (.send [message])) .dataSend =
      dataSendEvent P (pushMessage con message) := by
    intro message
    have hrunning : ¬ (pushMessage con message).aborted = true := by
      show ¬ con.aborted = true
      rw [h.running]
      exact Bool.false_ne_true
    rw [(h.send message).1]
    show endpointStep P (pushMessage con message) .dataSend = _
    rw [endpointStep, if_neg hrunning]
    exact if_pos rfl
  rw [← hfire, ← hfire, h.overlong hfront hback]

theorem exampleRunning_unladen : Unladen exampleRunning :=
  ⟨rfl, rfl, by decide, rfl, by decide, by decide⟩

/-- `sr_send` accepts a message of 65536 bytes, and the Data PDU carries an empty one. -/
theorem overlong_message_not_conserved :
    Drained exampleRunning ∧ exampleRunning.lasterror = .none ∧
      pushedBy referencePlatform exampleRunning (sendOne (List.replicate (2 ^ 16) 0)) =
        [List.replicate (2 ^ 16) 0] ∧
      ¬ PipelineKept referencePlatform exampleRunning
        (run (pipelineStep referencePlatform) exampleRunning
          (sendOne (List.replicate (2 ^ 16) 0)))
        (pushedBy referencePlatform exampleRunning (sendOne (List.replicate (2 ^ 16) 0))) := by
  obtain ⟨hrun, hpushed, -⟩ := @Unladen.run_sendOne referencePlatform exampleRunning
    exampleRunning_unladen (List.replicate (2 ^ 16) 0)
  have hcut := @Unladen.fire_overlong referencePlatform exampleRunning exampleRunning_unladen []
    (List.replicate (2 ^ 16) 0) (by decide) List.length_replicate
  have hsent : (dataPdus exampleRunning (dataSendEvent referencePlatform
        (pushMessage exampleRunning []))).flatMap
          (carried referencePlatform exampleRunning.hashingContext) ++
      (dataSendEvent referencePlatform (pushMessage exampleRunning [])).fifoSend.items = [[]] := by
    decide +kernel
  refine ⟨exampleRunning_drained, rfl, hpushed, ?_⟩
  intro hkept
  have hconserved := hkept.conserved
  rw [hrun, hpushed, ← List.nil_append (List.replicate (2 ^ 16) 0), hcut, hsent] at hconserved
  have hlen := congrArg List.length (List.singleton_injective hconserved)
  rw [List.nil_append, List.length_replicate] at hlen
  exact absurd hlen (by decide)

end Overlong

end LibRasta.Retransmission
