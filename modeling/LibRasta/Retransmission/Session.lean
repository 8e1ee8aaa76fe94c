/-
Module: LibRasta/Retransmission/Session.lean
source: src/c/transport/events.c, src/c/retransmission/safety_retransmission.c, src/c/redundancy/rasta_red_multiplexer.c
digest: Two endpoints joined by a link in each direction, from the connection request on: their own events, deliveries and losses in any order.
-/

import LibRasta.Lib.Runs
import LibRasta.Retransmission.Constants
import Mathlib.Data.List.Infix

set_option autoImplicit false
set_option relaxedAutoImplicit false

namespace LibRasta.Retransmission

open LibRasta.Lib
open LibRasta.Util
open LibRasta.Factory

/-- One endpoint with the link that leads to it and what it did in the session. -/
structure Party where
  con : Connection
  -- the encoded PDUs on the link to this endpoint, oldest first
  incoming : List Bytes
  output : List SentPdu
  -- the messages it pushed to `fifo_send`, and those it appended to `fifo_receive`
  pushed : List Bytes
  appended : List Bytes

structure Session where
  client : Party
  server : Party

/-- What can happen at one endpoint. -/
inductive Activity where
  -- a timer or a call of the application
  | own (event : Event)
  -- the oldest PDU on the link arrives
  | deliver
  -- the PDU at a place of the link is lost
  | lose (place : ℕ)

section Translation

variable (P : Platform)

/-- The messages the loop of `sr_send` pushes to `fifo_send`. -/
def messagesPushed : List Bytes → Connection → List Bytes
  | [], _ => []
  | message :: rest, con =>
    let con := if fifoFull con.fifoSend then dataSendEvent P con else con
    let pushed := fifoPush con.fifoSend message
    if pushed.1 then
      message :: messagesPushed rest (enableSendEvent { con with fifoSend := pushed.2 })
    else []

/-- The messages an event pushes to `fifo_send`. -/
def eventPushes (con : Connection) : Event → List Bytes
  | .send appMessages =>
    if con.aborted = false ∧ con.currentState = .up ∧
        appMessages.length ≤ con.config.maxPacket.toNat then
      messagesPushed P appMessages con
    else []
  | _ => []

/-- What was sent between two states of a connection. -/
def newlySent (before after : Connection) : List SentPdu := after.sent.drop before.sent.length

/-- What was appended to `fifo_receive` while a packet was received. -/
def newlyAppended (before after : Connection) : List Bytes :=
  after.fifoReceive.items.drop before.fifoReceive.items.length

/-- A PDU that comes off the link is decoded under the hashing context of the multiplexer and
handed to `sr_receive`. -/
def receiveBytes (con : Connection) (bytes : Bytes) : Connection :=
  let received := bytesToRastaPacket P con.lasterror bytes con.srHashingContext P.uninitPacket
  endpointStep P { con with lasterror := received.2 } (.receive received.1)

/-- The connection moves on, and what it sent is recorded. -/
def Party.moveTo (self : Party) (after : Connection) : Party :=
  { self with con := after, output := self.output ++ newlySent self.con after }

/-- PDUs enter the link to the endpoint. -/
def Party.link (peer : Party) (pdus : List SentPdu) : Party :=
  { peer with incoming := peer.incoming ++ pdus.map SentPdu.innerBytes }

/-- One activity at `self`: both endpoints afterwards. -/
def activityStep (self peer : Party) : Activity → Party × Party
  | .own event =>
    let after := endpointStep P self.con event
    ({ self.moveTo after with pushed := self.pushed ++ eventPushes P self.con event },
      peer.link (newlySent self.con after))
  | .deliver =>
    match self.incoming with
    | [] => (self, peer)
    | bytes :: rest =>
      let after := receiveBytes P self.con bytes
      ({ self.moveTo after with
          incoming := rest
          appended := self.appended ++ newlyAppended self.con after },
        peer.link (newlySent self.con after))
  | .lose place => ({ self with incoming := self.incoming.eraseIdx place }, peer)

/-- One step of the session. -/
def sessionStep (s : Session) (event : RastaRole × Activity) : Session :=
  match event.1 with
  | .client =>
    let after := activityStep P s.client s.server event.2
    { client := after.1, server := after.2 }
  | .server =>
    let after := activityStep P s.server s.client event.2
    { client := after.2, server := after.1 }

/-- The session right after `sr_connect` sent the connection request. -/
def openedSession (client server : Connection) : Session :=
  let after := endpointStep P client (.connect true)
  { client :=
      { con := after, incoming := [], output := newlySent client after, pushed := []
        appended := [] }
    server :=
      { con := server, incoming := (newlySent client after).map SentPdu.innerBytes
        output := [], pushed := [], appended := [] } }

end Translation

/-- The session opens once: `sr_connect` is not called again, packets come from the link only,
and no key exchange is due. -/
def Activity.inSession : Activity → Bool
  | .own (.receive _) => false
  | .own (.connect _) => false
  | .own .timedKeyExchange => false
  | _ => true

/-- An endpoint before its session: nothing queued, no error pending, no key exchange, and `ctx`
as the parameters of the safety code. -/
structure Fresh (ctx : RastaHashingContext) (con : Connection) : Prop where
  running : con.aborted = false
  fifoSend : con.fifoSend.items = []
  fifoRetransmission : con.fifoRetransmission.items = []
  fifoReceive : con.fifoReceive.items = []
  lasterror : con.lasterror = .none
  hashingContext : con.hashingContext = ctx
  srHashingContext : con.srHashingContext = ctx
  kexMode : con.config.kexMode = .none

/-- How many sequence numbers the PDUs used up; a disconnection request uses none. -/
def numbersUsed (output : List SentPdu) : ℕ :=
  (output.filter (·.packet.type ≠ .discReq)).length

/-- The endpoint has not run out of sequence numbers. -/
def Party.InRange (self : Party) : Prop :=
  self.con.config.initialSequenceNumber.toNat + numbersUsed self.output < 2 ^ 32

instance (self : Party) : Decidable self.InRange :=
  inferInstanceAs (Decidable (_ < _))

/-- Any messages that follow each other in the queue and that one call of `data_send_event` may
take fit into one Data PDU. -/
def QueueFits (ctx : RastaHashingContext) (maxPacket : ℕ) (queue : List Bytes) : Prop :=
  ∀ waiting ∈ queue.tails, MessagesFit ctx (waiting.take maxPacket)

instance (ctx : RastaHashingContext) (maxPacket : ℕ) (queue : List Bytes) :
    Decidable (QueueFits ctx maxPacket queue) :=
  inferInstanceAs (Decidable (∀ waiting ∈ queue.tails, MessagesFit ctx (waiting.take maxPacket)))

section Fitting

variable {ctx : RastaHashingContext} {maxPacket : ℕ} {queue more : List Bytes}

theorem messageStream_append (front back : List Bytes) :
    messageStream (front ++ back) = messageStream front ++ messageStream back := by
  simp [messageStream]

theorem messagesFit_prefix {front all : List Bytes} (h : MessagesFit ctx all) (hfront : front <+: all) :
    MessagesFit ctx front := by
  obtain ⟨back, rfl⟩ := hfront
  unfold MessagesFit at h ⊢
  rw [messageStream_append, List.length_append] at h
  omega

theorem QueueFits.suffix (h : QueueFits ctx maxPacket queue) (hmore : more <:+ queue) :
    QueueFits ctx maxPacket more := by
  intro waiting hwaiting
  exact h waiting ((List.mem_tails _ _).mpr (((List.mem_tails _ _).mp hwaiting).trans hmore))

theorem QueueFits.front (h : QueueFits ctx maxPacket (queue ++ more)) :
    QueueFits ctx maxPacket queue := by
  intro waiting hwaiting
  obtain ⟨before, rfl⟩ := (List.mem_tails _ _).mp hwaiting
  have hall := h (waiting ++ more) ((List.mem_tails _ _).mpr ⟨before, by simp⟩)
  refine messagesFit_prefix hall ?_
  rw [List.take_append]
  exact List.prefix_append _ _

theorem queueFits_nil (maxPacket : ℕ) : QueueFits ctx maxPacket [] := by
  intro waiting hwaiting
  have hnil : waiting = [] := by simpa using hwaiting
  have hle := ctx.checksumLen_le
  rw [hnil, List.take_nil, MessagesFit]
  simp only [messageStream, List.flatMap_nil, List.length_nil]
  omega

/-- What one call of `data_send_event` takes fits. -/
theorem QueueFits.take (h : QueueFits ctx maxPacket queue) {n : ℕ} (hn : n ≤ maxPacket) :
    MessagesFit ctx (queue.take n) := by
  have hall := h queue ((List.mem_tails _ _).mpr (List.suffix_refl queue))
  exact messagesFit_prefix hall (List.take_prefix_take_left hn)

end Fitting

end LibRasta.Retransmission
