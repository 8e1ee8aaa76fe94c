/-
Module: LibRasta/Redundancy/Stack.lean
source: src/c/redundancy/rasta_red_multiplexer.c, src/c/redundancy/rastaredundancy.c, src/c/transport/events.c
digest: Two endpoints with their redundancy channels over transport channels that lose, repeat and reorder: what was sent, copies of which arrive in any read, and the session the layer above the channels sees.
-/

import LibRasta.Experimental.SessionKeys
import LibRasta.Redundancy.Transmission
import LibRasta.Retransmission.Emission
import LibRasta.Retransmission.Pace

set_option autoImplicit false
set_option relaxedAutoImplicit false

namespace LibRasta.Redundancy

open LibRasta.Lib
open LibRasta.Util
open LibRasta.Factory
open LibRasta.Retransmission

/-- An endpoint with its channel, and what it did since the channel was initialised. -/
structure Node where
  endpoint : Endpoint
  -- the PDUs it sent, each on all its transport channels
  output : List SentPdu
  -- the messages it pushed to `fifo_send`, and those it appended to `fifo_receive`
  pushed : List Bytes
  appended : List Bytes

structure Stack where
  client : Node
  server : Node

/-- What can happen at one endpoint. -/
inductive StackEvent where
  -- a timer or a call of the application
  | own (event : Event)
  -- copies of the PDUs of the peer with these numbers arrive in one read
  | read (channelId : ℕ) (numbers : List ℕ)

section Translation

variable (P : Platform)

/-- Copies of the PDUs with these numbers; a PDU that was not sent yet cannot arrive. -/
def Node.copies (peer : Node) (numbers : List ℕ) : List Bytes :=
  (numbers.filterMap (peer.output[·]?)).map SentPdu.dataToSend

/-- The endpoint moves on, and what it sent and appended is recorded. -/
def Node.moveTo (self : Node) (after : Endpoint) : Node :=
  { self with
    endpoint := after
    output := self.output ++ newlySent self.endpoint.con after.con
    appended := self.appended ++ newlyAppended self.endpoint.con after.con }

/-- A timer fires, or the application calls. -/
def Node.own (self : Node) (event : Event) : Node :=
  let after := ownStep P self.endpoint event
  { self with
    endpoint := after
    output := self.output ++ newlySent self.endpoint.con after.con
    pushed := self.pushed ++ eventPushes P self.endpoint.con event }

/-- The endpoint after one read of whole PDUs, whose loop makes one round for each of them. -/
def receiveCopies (endpoint : Endpoint) (channelId : ℕ) (copies : List Bytes) : Endpoint :=
  if h : copies.flatten.length < 2 ^ 64 then
    (channelReceiveEvent P copies.length endpoint
      { channelId := channelId, buffer := copies.flatten, length_lt := h }).getD endpoint
  else endpoint

def Node.step (self peer : Node) : StackEvent → Node
  | .own event => self.own P event
  | .read channelId numbers =>
    self.moveTo (receiveCopies P self.endpoint channelId (peer.copies numbers))

def stackStep (s : Stack) (event : RastaRole × StackEvent) : Stack :=
  match event.1 with
  | .client => { s with client := s.client.step P s.server event.2 }
  | .server => { s with server := s.server.step P s.client event.2 }

/-- `sr_connect` sent the connection request, and the server called `rasta_accept`. -/
def openedStack (client server : Endpoint) : Stack :=
  let after := ownStep P client (.connect true)
  { client :=
      { endpoint := after
        output := newlySent client.con after.con
        pushed := []
        appended := [] }
    server :=
      { endpoint := ownStep P server .accept
        output := []
        pushed := []
        appended := [] } }

/-- The node an event happens at, and its peer. -/
def Stack.nodes (s : Stack) : RastaRole → Node × Node
  | .client => (s.client, s.server)
  | .server => (s.server, s.client)

end Translation

section Abstraction

/-- The endpoint as the layer above the channels sees it: on the link to it are the PDUs of its peer
that the channel has not passed on, whatever became of their copies. -/
def Node.party (self peer : Node) : Party where
  con := self.endpoint.con
  incoming := (peer.output.drop self.endpoint.channel.delivered.length).map SentPdu.innerBytes
  output := self.output
  pushed := self.pushed
  appended := self.appended

def Stack.session (s : Stack) : Session where
  client := s.client.party s.server
  server := s.server.party s.client

/-- The channel has numbers left, and every PDU fits into its length field. -/
structure Node.InRange (node : Node) : Prop where
  numbers : node.endpoint.con.config.initialSequenceNumber.toNat + node.output.length < 2 ^ 32
  sizes : ∀ pdu ∈ node.output,
    8 + pdu.packet.length.toNat + node.endpoint.con.config.crcType.crcLen < 2 ^ 16

instance (node : Node) : Decidable node.InRange :=
  decidable_of_iff (node.endpoint.con.config.initialSequenceNumber.toNat + node.output.length <
      2 ^ 32 ∧ ∀ pdu ∈ node.output,
        8 + pdu.packet.length.toNat + node.endpoint.con.config.crcType.crcLen < 2 ^ 16)
    ⟨fun h => ⟨h.1, h.2⟩, fun h => ⟨h.numbers, h.sizes⟩⟩

/-- The session opens once, and no key exchange is due. -/
def StackEvent.inSession : StackEvent → Bool
  | .own .accept => false
  | .own event => (Activity.own event).inSession
  | .read _ _ => true

variable (P : Platform)

/-- What a step may do: which events may happen at a connection, and which packets may be handed
to it. -/
def Permitted (permits : Connection → Event → Prop) (admits : Connection → RastaPacket → Prop)
    (self peer : Node) : StackEvent → Prop
  | .own event => permits self.endpoint.con event
  | .read channelId numbers =>
    ∀ handover ∈ newHandovers self.endpoint (self.step P peer (.read channelId numbers)).endpoint,
      admits handover.con handover.packet

instance (permits : Connection → Event → Prop) (admits : Connection → RastaPacket → Prop)
    [∀ con event, Decidable (permits con event)] [∀ con packet, Decidable (admits con packet)]
    (self peer : Node) (event : StackEvent) :
    Decidable (Permitted P permits admits self peer event) :=
  match event with
  | .own event => inferInstanceAs (Decidable (permits self.endpoint.con event))
  | .read _ _ => inferInstanceAs (Decidable (∀ handover ∈ newHandovers _ _, admits _ _))

/-- A permitted step of the one session that leaves numbers to both channels. -/
structure StackOk (permits : Connection → Event → Prop) (admits : Connection → RastaPacket → Prop)
    (s : Stack) (event : RastaRole × StackEvent) : Prop where
  session : event.2.inSession = true
  permitted : Permitted P permits admits (s.nodes event.1).1 (s.nodes event.1).2 event.2
  client : (stackStep P s event).client.InRange
  server : (stackStep P s event).server.InRange

instance (permits : Connection → Event → Prop) (admits : Connection → RastaPacket → Prop)
    [∀ con event, Decidable (permits con event)] [∀ con packet, Decidable (admits con packet)]
    (s : Stack) (event : RastaRole × StackEvent) : Decidable (StackOk P permits admits s event) :=
  decidable_of_iff (event.2.inSession = true ∧
      Permitted P permits admits (s.nodes event.1).1 (s.nodes event.1).2 event.2 ∧
      (stackStep P s event).client.InRange ∧ (stackStep P s event).server.InRange)
    ⟨fun h => ⟨h.1, h.2.1, h.2.2.1, h.2.2.2⟩,
      fun h => ⟨h.session, h.permitted, h.client, h.server⟩⟩

end Abstraction

section Reading

variable (P : Platform)

/-- Reading only takes time, as far as the connection is concerned, and hands nothing over. -/
structure Reads (before after : Endpoint) : Prop where
  con : ∃ reads, after.con = before.con.elapse reads
  associatedId : after.channel.associatedId = before.channel.associatedId
  seqRx : after.channel.seqRx = before.channel.seqRx
  delivered : after.channel.delivered = before.channel.delivered

theorem Reads.refl (endpoint : Endpoint) : Reads endpoint endpoint := ⟨⟨0, rfl⟩, rfl, rfl, rfl⟩

theorem Reads.trans {a b c : Endpoint} (hab : Reads a b) (hbc : Reads b c) : Reads a c := by
  obtain ⟨⟨first, hb⟩, hid, hseq, hdelivered⟩ := hab
  obtain ⟨⟨second, hc⟩, hid', hseq', hdelivered'⟩ := hbc
  refine ⟨⟨first + second, ?_⟩, hid'.trans hid, hseq'.trans hseq, hdelivered'.trans hdelivered⟩
  rw [hc, hb]
  simp only [Connection.elapse, Nat.add_assoc]

theorem addToDeferQueue_reads (endpoint : Endpoint) (packet : RastaRedundancyPacket) :
    Reads endpoint (addToDeferQueue P endpoint packet) := ⟨⟨1, rfl⟩, rfl, rfl, rfl⟩

theorem updateDiagnostics_reads (endpoint : Endpoint) (channelId : ℕ)
    (update : DiagnosticsData → DiagnosticsData) :
    Reads endpoint
      { endpoint with channel := updateDiagnostics endpoint.channel channelId update } :=
  ⟨⟨0, rfl⟩, rfl, rfl, rfl⟩

theorem recordDelay_reads (endpoint : Endpoint) (packet : RastaRedundancyPacket)
    (channelId : ℕ) : Reads endpoint (recordDelay endpoint packet channelId) := by
  unfold recordDelay
  simp only
  split
  · exact .refl endpoint
  · exact ⟨⟨1, rfl⟩, rfl, rfl, rfl⟩

theorem classifyPdu_reads (endpoint : Endpoint) (packet : RastaRedundancyPacket)
    (channelId : ℕ) : Reads endpoint (classifyPdu P endpoint packet channelId).1 := by
  have hdiagnostics : Reads endpoint (addToDiagnostics P endpoint packet) :=
    ⟨⟨1, rfl⟩, rfl, rfl, rfl⟩
  unfold classifyPdu
  split
  · exact .refl endpoint
  split
  · exact recordDelay_reads endpoint packet channelId
  split
  · exact hdiagnostics.trans (addToDeferQueue_reads P _ packet)
  split
  · split
    · exact .refl endpoint
    split
    · exact .refl endpoint
    · exact addToDeferQueue_reads P endpoint packet
  · exact .refl endpoint

theorem dispatchPdu_reads (endpoint : Endpoint) (channelId : ℕ)
    (packet : RastaRedundancyPacket) :
    Reads endpoint (dispatchPdu P endpoint channelId packet).1 := by
  unfold dispatchPdu
  split
  · split
    · exact .refl endpoint
    unfold redFReceiveData
    split
    · exact (updateDiagnostics_reads endpoint channelId _).trans
        (classifyPdu_reads P _ packet channelId)
    · exact .refl endpoint
  · exact .refl endpoint

theorem runChannelDiagnostics_reads (endpoint : Endpoint) (channelId : ℕ) :
    Reads endpoint (runChannelDiagnostics endpoint channelId) := by
  unfold runChannelDiagnostics
  simp only
  split
  · exact ⟨⟨2, rfl⟩, rfl, rfl, rfl⟩
  · exact ⟨⟨1, rfl⟩, rfl, rfl, rfl⟩

end Reading

section Copies

variable (P : Platform) (ctx : RastaHashingContext) (crc : CrcOptions)

/-- What the receiver decodes from the PDU with number `i`. -/
def copyAt (i : ℕ) (pdu : SentPdu) : RastaRedundancyPacket :=
  arrivedPdu P ctx crc (UInt64.ofNat i).toUInt32 pdu.packet (safetyCode P ctx pdu.packet)

/-- The packet was decoded from one of the PDUs. -/
def CopyOf (output : List SentPdu) (packet : RastaRedundancyPacket) : Prop :=
  ∃ (i : ℕ) (pdu : SentPdu), output[i]? = some pdu ∧ packet = copyAt P ctx crc i pdu

/-- The PDUs are encoded under the parameters of the session, with their places as numbers. -/
structure Encoded (output : List SentPdu) : Prop where
  encoded : ∀ i pdu, output[i]? = some pdu → EncodedAs P ctx crc i pdu
  few : output.length < 2 ^ 32
  sizes : ∀ pdu ∈ output, 8 + pdu.packet.length.toNat + crc.crcLen < 2 ^ 16

/-- The channel queues copies of the PDUs of its peer and passes on the one whose turn it is. -/
structure Sequences (endpoint : Endpoint) (output : List SentPdu) : Prop where
  crcType : endpoint.con.config.crcType = crc
  queued : ∀ element ∈ endpoint.channel.deferQ.live, CopyOf P ctx crc output element.packet
  next : endpoint.con.aborted = false →
    endpoint.channel.seqRx.toNat = endpoint.channel.delivered.length
  passed : endpoint.channel.delivered.length ≤ output.length

variable {P ctx crc} {output more : List SentPdu} {packet : RastaRedundancyPacket}
  {endpoint after : Endpoint} {pdu : SentPdu} {i : ℕ}

/-- What was a copy stays one, since what was sent stays sent. -/
theorem CopyOf.append (h : CopyOf P ctx crc output packet) (more : List SentPdu) :
    CopyOf P ctx crc (output ++ more) packet := by
  obtain ⟨i, pdu, hpdu, hpacket⟩ := h
  have hi : i < output.length := (List.getElem?_eq_some_iff.mp hpdu).1
  exact ⟨i, pdu, by rw [List.getElem?_append_left hi]; exact hpdu, hpacket⟩

theorem Sequences.append (h : Sequences P ctx crc endpoint output) (more : List SentPdu) :
    Sequences P ctx crc endpoint (output ++ more) where
  crcType := h.crcType
  queued element hmem := (h.queued element hmem).append more
  next := h.next
  passed := by
    have hpassed := h.passed
    rw [List.length_append]
    omega

theorem Encoded.sendable (h : Encoded P ctx crc output) (hcrc : crc.crcLen ≤ 4)
    (hpdu : output[i]? = some pdu) : Sendable ctx crc pdu.packet where
  header := (h.encoded i pdu hpdu).header
  total := h.sizes pdu (List.mem_of_getElem? hpdu)
  crcLen := hcrc

/-- The number of a copy is the place of the PDU. -/
theorem copyAt_sequenceNumber (hi : i < 2 ^ 32) (pdu : SentPdu) :
    (copyAt P ctx crc i pdu).sequenceNumber.toUInt64.toNat = i := by
  have hnumber : (copyAt P ctx crc i pdu).sequenceNumber = (UInt64.ofNat i).toUInt32 := rfl
  rw [hnumber, UInt32.toNat_toUInt64, UInt64.toNat_toUInt32, UInt64.toNat_ofNat']
  omega

theorem Encoded.framed (h : Encoded P ctx crc output) (hcrc : crc.crcLen ≤ 4)
    (hpdu : output[i]? = some pdu) : Framed P pdu.dataToSend := by
  have hsendable := h.sendable hcrc hpdu
  have hlen := length_pduBytes P hsendable (UInt64.ofNat i).toUInt32
  have hsize := pduBytes_size P hsendable (UInt64.ofNat i).toUInt32 []
  rw [List.append_nil] at hsize
  rw [(h.encoded i pdu hpdu).dataToSend]
  exact ⟨by omega, hsize⟩

/-- Wherever a copy of a PDU lies in the read, it decodes to the PDU. -/
theorem receivePdu_eq (h : Encoded P ctx crc output) (hcrc : crc.crcLen ≤ 4)
    (hcrcType : endpoint.con.config.crcType = crc) (hctx : endpoint.con.srHashingContext = ctx)
    (hpdu : output[i]? = some pdu) (channelId : ℕ) (rest : Bytes) :
    receivePdu P endpoint channelId (pdu.dataToSend ++ rest) =
      dispatchPdu P endpoint channelId (copyAt P ctx crc i pdu) := by
  have hsendable := h.sendable hcrc hpdu
  have hdecoded := bytesToRastaRedundancyPacket_pduBytes P hsendable (UInt64.ofNat i).toUInt32 rest
    rfl endpoint.con.lasterror (P.uninitRedundancyPacket (pdu.dataToSend ++ rest))
  rw [← (h.encoded i pdu hpdu).dataToSend] at hdecoded
  have hsize : (leShortToHost P (pdu.dataToSend ++ rest) 0).toNat = pdu.dataToSend.length := by
    rw [(h.encoded i pdu hpdu).dataToSend]
    exact pduBytes_size P hsendable _ rest
  have hsame : setLasterror endpoint endpoint.con.lasterror = endpoint := rfl
  unfold receivePdu handleReceivedData
  rw [hsize, hcrcType, hctx, hdecoded]
  simp only [hsame, copyAt]

/-- A copy of a PDU arrives. -/
theorem receivePdu_copy (h : Encoded P ctx crc output) (hcrc : crc.crcLen ≤ 4)
    (hsequences : Sequences P ctx crc endpoint output) (hctx : endpoint.con.srHashingContext = ctx)
    (hpdu : output[i]? = some pdu) (channelId : ℕ) (rest : Bytes) :
    Reads endpoint (receivePdu P endpoint channelId (pdu.dataToSend ++ rest)).1 ∧
      Sequences P ctx crc (receivePdu P endpoint channelId (pdu.dataToSend ++ rest)).1 output := by
  have hreceived := receivePdu_eq h hcrc hsequences.crcType hctx hpdu channelId rest
  rw [hreceived]
  generalize hcopy : copyAt P ctx crc i pdu = copy
  have hreads := dispatchPdu_reads P endpoint channelId copy
  have hdispatched := dispatchPdu_dispatched P endpoint channelId copy
  obtain ⟨reads, hcon⟩ := hreads.con
  refine ⟨hreads, ?_, ?_, ?_, ?_⟩
  · rw [hcon]
    exact hsequences.crcType
  · intro element hmem
    rcases hdispatched.live P hmem with hold | hnew
    · exact hsequences.queued element hold
    · exact ⟨i, pdu, hpdu, hnew.trans hcopy.symm⟩
  · rw [hcon, hreads.seqRx, hreads.delivered]
    exact hsequences.next
  · rw [hreads.delivered]
    exact hsequences.passed

/-- Copies of PDUs arrive one behind the other. -/
theorem receivePdus_copies (h : Encoded P ctx crc output) (hcrc : crc.crcLen ≤ 4)
    {copies : List Bytes}
    (hcopies : ∀ bytes ∈ copies, ∃ (i : ℕ) (pdu : SentPdu), output[i]? = some pdu ∧
      bytes = pdu.dataToSend) (channelId : ℕ) (behind : Bytes)
    (hsequences : Sequences P ctx crc endpoint output) (hctx : endpoint.con.srHashingContext = ctx)
    (result : Bool) :
    Reads endpoint (receivePdus P channelId behind copies endpoint result).1 ∧
      Sequences P ctx crc (receivePdus P channelId behind copies endpoint result).1 output := by
  induction copies generalizing endpoint result with
  | nil => exact ⟨.refl endpoint, hsequences⟩
  | cons bytes rest ih =>
    obtain ⟨i, pdu, hpdu, rfl⟩ := hcopies bytes List.mem_cons_self
    obtain ⟨hreads, hnext⟩ :=
      receivePdu_copy h hcrc hsequences hctx hpdu channelId (rest.flatten ++ behind)
    have hsame : (receivePdu P endpoint channelId (pdu.dataToSend ++
        (rest.flatten ++ behind))).1.con.srHashingContext = ctx := by
      obtain ⟨reads, hcon⟩ := hreads.con
      rw [hcon]
      exact hctx
    obtain ⟨hreads', hend⟩ := ih (fun b hb => hcopies b (List.mem_cons_of_mem _ hb)) hnext hsame
      (result || (receivePdu P endpoint channelId (pdu.dataToSend ++ (rest.flatten ++ behind))).2)
    exact ⟨hreads.trans hreads', hend⟩

theorem mem_copies {peer : Node} {numbers : List ℕ} {bytes : Bytes}
    (h : bytes ∈ peer.copies numbers) :
    ∃ (i : ℕ) (pdu : SentPdu), peer.output[i]? = some pdu ∧ bytes = pdu.dataToSend := by
  obtain ⟨pdu, hpdu, rfl⟩ := List.mem_map.mp h
  obtain ⟨i, -, hi⟩ := List.mem_filterMap.mp hpdu
  exact ⟨i, pdu, hi, rfl⟩

end Copies

end LibRasta.Redundancy
