/-
Module: LibRasta/Redundancy/StackRefinement.lean
source: src/c/redundancy/rasta_red_multiplexer.c, src/c/redundancy/rastaredundancy.c, src/c/transport/events.c
digest: Two endpoints over transport channels that lose, repeat and reorder refine the session over links that lose nothing: every call of sr_receive takes the oldest PDU of such a link.
-/

import LibRasta.Redundancy.RoundTrip
import LibRasta.Redundancy.SafetyCode
import LibRasta.Redundancy.Stack
import LibRasta.Retransmission.ReceiveQueue

set_option autoImplicit false
set_option relaxedAutoImplicit false

namespace LibRasta.Redundancy

open LibRasta.Lib
open LibRasta.Util
open LibRasta.Factory
open LibRasta.Retransmission

section Growth

/-- The logs of an endpoint only grow, and what it was configured with stays. -/
structure Grows (before after : Endpoint) : Prop where
  sent : before.con.sent <+: after.con.sent
  fifoReceive : before.con.fifoReceive.items <+: after.con.fifoReceive.items
  delivered : before.channel.delivered <+: after.channel.delivered
  config : after.con.config = before.con.config
  remoteId : after.con.remoteId = before.con.remoteId
  associatedId : after.channel.associatedId = before.channel.associatedId

variable {P : Platform} {a b c endpoint : Endpoint} {node : Node}

theorem Grows.refl (endpoint : Endpoint) : Grows endpoint endpoint :=
  ⟨List.prefix_refl _, List.prefix_refl _, List.prefix_refl _, rfl, rfl, rfl⟩

theorem Grows.trans (hab : Grows a b) (hbc : Grows b c) : Grows a c :=
  ⟨hab.sent.trans hbc.sent, hab.fifoReceive.trans hbc.fifoReceive,
    hab.delivered.trans hbc.delivered, hbc.config.trans hab.config,
    hbc.remoteId.trans hab.remoteId, hbc.associatedId.trans hab.associatedId⟩

theorem Reads.grows (h : Reads a b) : Grows a b := by
  obtain ⟨⟨reads, hcon⟩, hid, -, hdelivered⟩ := h
  refine ⟨?_, ?_, ?_, ?_, ?_, hid⟩
  · rw [hcon]
    exact List.prefix_refl _
  · rw [hcon]
    exact List.prefix_refl _
  · rw [hdelivered]
  · rw [hcon]
    rfl
  · rw [hcon]
    rfl

/-- Receiving only appends to `fifo_receive`. -/
theorem srReceive_appends (con : Connection) (packet : RastaPacket) :
    con.fifoReceive.items <+: (srReceive P con packet).1.fifoReceive.items := by
  by_cases haccepted : ReachesHandler P con packet ∧ InSequence con packet ∧ DeliversIn con packet
  · obtain ⟨hreach, hseq, hdelivers⟩ := haccepted
    rw [srReceive_items_of_accepted hreach hseq hdelivers]
    exact List.prefix_append _ _
  · rw [srReceive_fifoReceive_of_not_accepted haccepted]

theorem handOver_grows (endpoint : Endpoint) (queuePacket : RastaRedundancyPacket) :
    Grows endpoint (handOver P endpoint queuePacket).1 := by
  unfold handOver
  generalize deliverMessage P endpoint.con queuePacket = message
  have hreceived := srReceive_received P { endpoint.con with lasterror := message.2 } message.1
  have hemitted := (hreceived.emits P).emitted
    (UInt64.ofNat_toNat.symm : endpoint.con.seqTx = UInt64.ofNat endpoint.con.seqTx.toNat)
  have hfixed := hreceived.fixed P
  exact ⟨hemitted.sent, srReceive_appends { endpoint.con with lasterror := message.2 } message.1,
    List.prefix_append _ _, hfixed.config, hfixed.remoteId, rfl⟩

theorem advance_grows (endpoint : Endpoint) : Grows endpoint (advance P endpoint) :=
  ⟨List.prefix_refl _, List.prefix_refl _, List.prefix_refl _, rfl, rfl, rfl⟩

theorem deliverLoop_grows (rounds : ℕ) (endpoint : Endpoint) (result : Bool) :
    Grows endpoint (deliverLoop P rounds endpoint result).1 := by
  refine @deliverLoop_rule P (Grows endpoint) (Grows endpoint) (fun _ h => h) ?_ rounds endpoint
    result (.refl endpoint)
  intro middle element hmiddle _ _
  have hnext := hmiddle.trans (@handOver_grows P middle element.packet)
  exact ⟨fun _ => hnext, fun _ => hnext.trans (advance_grows _)⟩

/-- Two moves record what one move to the same place does. -/
theorem Node.moveTo_moveTo (hfirst : Grows node.endpoint b) (hsecond : Grows b c) :
    (node.moveTo b).moveTo c = node.moveTo c := by
  obtain ⟨first, hb⟩ := hfirst.fifoReceive
  obtain ⟨second, hc⟩ := hsecond.fifoReceive
  have hsent := newlySent_append hfirst.sent hsecond.sent
  have happended : newlyAppended node.endpoint.con c.con =
      newlyAppended node.endpoint.con b.con ++ newlyAppended b.con c.con := by
    rw [newlyAppended_eq hb.symm, newlyAppended_eq hc.symm]
    refine newlyAppended_eq ?_
    rw [← hc, ← hb, List.append_assoc]
  simp only [Node.moveTo, hsent, happended, List.append_assoc]

theorem newHandovers_append (hfirst : Grows a b) (hsecond : Grows b c) :
    newHandovers a c = newHandovers a b ++ newHandovers b c := by
  obtain ⟨first, hb⟩ := hfirst.delivered
  obtain ⟨second, hc⟩ := hsecond.delivered
  rw [newHandovers, newHandovers, newHandovers, ← hc, ← hb, List.drop_left, List.append_assoc,
    List.drop_left, ← List.append_assoc, List.drop_left]

/-- A move that records nothing. -/
theorem Node.moveTo_quiet (hsent : c.con.sent = node.endpoint.con.sent)
    (hqueue : c.con.fifoReceive = node.endpoint.con.fifoReceive) :
    node.moveTo c = { node with endpoint := c } := by
  have hnone : newlySent node.endpoint.con c.con = [] :=
    newlySent_eq (by rw [hsent, List.append_nil])
  simp only [Node.moveTo, hnone, newlyAppended_none hqueue, List.append_nil]

/-- Numbers that are left in the end were left before. -/
theorem Node.InRange.before {moved : Node} {pdus : List SentPdu} (h : moved.InRange)
    (hconfig : moved.endpoint.con.config = node.endpoint.con.config)
    (houtput : moved.output = node.output ++ pdus) : node.InRange := by
  obtain ⟨hnumbers, hsizes⟩ := h
  rw [hconfig, houtput, List.length_append] at hnumbers
  rw [hconfig, houtput] at hsizes
  exact ⟨by omega, fun pdu hpdu => hsizes pdu (List.mem_append_left _ hpdu)⟩

end Growth

section Handover

variable {P : Platform} {ctx : RastaHashingContext} {crc : CrcOptions} {endpoint : Endpoint}
  {pdu : SentPdu} {i : ℕ}

/-- No error is pending, and both copies of the parameters are those of the session. -/
structure Clean (ctx : RastaHashingContext) (con : Connection) : Prop where
  lasterror : con.lasterror = .none
  hashingContext : con.hashingContext = ctx
  srHashingContext : con.srHashingContext = ctx

/-- Encoding and decoding a queued copy once more yields the packet that was sent. -/
theorem deliverMessage_copy (hclean : Clean ctx endpoint.con) (hpdu : EncodedAs P ctx crc i pdu) :
    deliverMessage P endpoint.con (copyAt P ctx crc i pdu) =
      (decodePdu P ctx pdu.innerBytes, .none) := by
  have hdata : (copyAt P ctx crc i pdu).data = reencoded P pdu.packet ctx := recoded_safetyCode P
  rw [deliverMessage_of_clear P hclean.lasterror, hclean.hashingContext, hdata,
    reencoded_reencoded, hpdu.innerBytes, decodePdu_encodePdu P hpdu.header]
  rw [hclean.hashingContext, hdata]
  exact hpdu.header

/-- The call of `sr_receive` with a queued copy. -/
theorem handOver_copy (hclean : Clean ctx endpoint.con) (hpdu : EncodedAs P ctx crc i pdu) :
    let copy := copyAt P ctx crc i pdu
    (handOver P endpoint copy).1.con =
        (srReceive P endpoint.con (decodePdu P ctx pdu.innerBytes)).1 ∧
      (handOver P endpoint copy).1.channel =
        { endpoint.channel with
          delivered := endpoint.channel.delivered ++
            [{ queuePacket := copy
               con := endpoint.con
               packet := decodePdu P ctx pdu.innerBytes }] } := by
  intro copy
  have hsame : { endpoint.con with lasterror := RastaErrorType.none } = endpoint.con := by
    rw [← hclean.lasterror]
  rw [handOver, deliverMessage_copy hclean hpdu]
  simp only [passOn, handoverOf, hsame, and_self]

end Handover

section Layer

/-- The session of an endpoint and its peer. -/
def sessionOf : RastaRole → Party → Party → Session
  | .client, self, peer => { client := self, server := peer }
  | .server, self, peer => { client := peer, server := self }

theorem pacedStep_sessionOf (P : Platform) (role : RastaRole) (self peer : Party) (pace : Pace) :
    pacedStep P (sessionOf role self peer) (role, pace) =
      sessionOf role (paceStep P self peer pace).1 (paceStep P self peer pace).2 := by
  cases role with
  | client => rfl
  | server => rfl

/-- A way to run the session above the channels: which of its steps are admissible, what may happen
at a connection and what may be handed to it, and an invariant under which the parameters of the
session stay in force. -/
structure Layer (P : Platform) (ctx : RastaHashingContext) where
  ok : Session → RastaRole × Pace → Prop
  permits : Connection → Event → Prop
  admits : Connection → RastaPacket → Prop
  inv : Session → Prop
  keeps : ∀ {s event}, inv s → ok s event → inv (pacedStep P s event)
  clean : ∀ {s} role, inv s → Clean ctx (s.at role).con
  wait : ∀ s role reads, ok s (role, .wait reads)
  deliver : ∀ {role} {self peer : Party} {bytes rest}, self.incoming = bytes :: rest →
    self.con.srHashingContext = ctx → self.InRange → peer.InRange →
    admits self.con (decodePdu P ctx bytes) → ok (sessionOf role self peer) (role, .act .deliver)
  own : ∀ {role} {self peer : Party} {event}, StackEvent.inSession (.own event) = true →
    self.InRange → peer.InRange → permits self.con event →
    ok (sessionOf role self peer) (role, .act (.own event))

/-- The PDUs a node sent. -/
structure Numbered (P : Platform) (ctx : RastaHashingContext) (crc : CrcOptions) (node : Node) :
    Prop where
  seqTx : node.endpoint.con.seqTx = UInt64.ofNat node.output.length
  crcType : node.endpoint.con.config.crcType = crc
  encoded : ∀ i pdu, node.output[i]? = some pdu → EncodedAs P ctx crc i pdu

/-- What two nodes sent is numbered, and their channels queue copies of it only. -/
structure Meshed (P : Platform) (ctx : RastaHashingContext) (crc : CrcOptions) (node peer : Node) :
    Prop where
  sends : Numbered P ctx crc node
  peerSends : Numbered P ctx crc peer
  receives : Sequences P ctx crc node.endpoint peer.output
  peerReceives : Sequences P ctx crc peer.endpoint node.output

variable {P : Platform} {ctx : RastaHashingContext} {crc : CrcOptions} {self peer node : Node}
  {after : Endpoint}

theorem Meshed.symm (h : Meshed P ctx crc self peer) : Meshed P ctx crc peer self :=
  ⟨h.peerSends, h.sends, h.peerReceives, h.receives⟩

theorem Numbered.toEncoded (h : Numbered P ctx crc node) (hrange : node.InRange) :
    Encoded P ctx crc node.output where
  encoded := h.encoded
  few := by
    have hnumbers := hrange.numbers
    omega
  sizes := by
    have hsizes := hrange.sizes
    rw [h.crcType] at hsizes
    exact hsizes

/-- Whatever reaches the channel by `redundancy_mux_send` is numbered on. -/
theorem Numbered.emits (h : Numbered P ctx crc node) (hctx : node.endpoint.con.hashingContext = ctx)
    (hemits : Emits P node.endpoint.con after.con) (hclear : after.con.lasterror = .none)
    {moved : Node} (hendpoint : moved.endpoint.con = after.con)
    (houtput : moved.output = node.output ++ newlySent node.endpoint.con after.con) :
    Numbered P ctx crc moved := by
  have hemitted := hemits.emitted h.seqTx
  refine ⟨?_, ?_, fun i pdu hpdu => ?_⟩
  · rw [hendpoint, hemitted.seqTx, houtput, List.length_append]
  · rw [hendpoint, hemitted.config, h.crcType]
  · rw [houtput] at hpdu
    by_cases hi : i < node.output.length
    · rw [List.getElem?_append_left hi] at hpdu
      exact h.encoded i pdu hpdu
    · rw [List.getElem?_append_right (Nat.le_of_not_lt hi)] at hpdu
      have hnew := (hemitted.encoded hclear).2 _ pdu hpdu
      have hplace : node.output.length + (i - node.output.length) = i := by omega
      rwa [hctx, h.crcType, hplace] at hnew

theorem Node.InRange.party (h : node.InRange) : (node.party peer).InRange := by
  have hnumbers := h.numbers
  have hused : numbersUsed node.output ≤ node.output.length := List.length_filter_le _ _
  show node.endpoint.con.config.initialSequenceNumber.toNat + numbersUsed node.output < 2 ^ 32
  omega

/-- What a node sends enters the link to its peer. -/
theorem Node.party_link {moved : Node} {pdus : List SentPdu}
    (hpassed : peer.endpoint.channel.delivered.length ≤ self.output.length)
    (houtput : moved.output = self.output ++ pdus) :
    (peer.party self).link pdus = peer.party moved := by
  simp only [Node.party, Party.link, houtput, List.drop_append_of_le_length hpassed,
    List.map_append]

end Layer

section Steps

variable {P : Platform} {ctx : RastaHashingContext} {crc : CrcOptions} {self peer : Node}
  {role : RastaRole} {event : Event}

/-- The session two nodes are. -/
def sessionAt (role : RastaRole) (self peer : Node) : Session :=
  sessionOf role (self.party peer) (peer.party self)

theorem Layer.clean_self (L : Layer P ctx) (h : L.inv (sessionAt role self peer)) :
    Clean ctx self.endpoint.con := by
  cases role with
  | client => exact L.clean .client h
  | server => exact L.clean .server h

theorem StackEvent.not_starts (h : StackEvent.inSession (.own event) = true) :
    ¬ StartsChannel event := by
  cases event <;> first | exact not_false | cases h

theorem ownStep_of_not_starts (endpoint : Endpoint) (h : ¬ StartsChannel event) :
    ownStep P endpoint event =
      { endpoint with con := endpointStep P endpoint.con event } := by
  have hnot : ¬ InitialisesChannel endpoint.con event := by
    cases event <;> first | exact h | exact not_false | exact fun _ => h trivial
  rw [ownStep, if_neg hnot]

/-- An event of its own is one of the session. -/
theorem activityStep_own (h : Meshed P ctx crc self peer) (hstarts : ¬ StartsChannel event) :
    activityStep P (self.party peer) (peer.party self) (.own event) =
      ((self.own P event).party peer, peer.party (self.own P event)) := by
  have hown := ownStep_of_not_starts (P := P) self.endpoint hstarts
  have hlink := @Node.party_link self peer (self.own P event) _ h.peerReceives.passed rfl
  rw [← hlink]
  simp only [Node.own, hown, Node.party, activityStep, Party.moveTo]

/-- The nodes are where the run of the session leads. -/
def Reached (L : Layer P ctx) (crc : CrcOptions) (role : RastaRole) (self peer : Node)
    (t : Session) : Prop :=
  t = sessionAt role self peer ∧ L.inv t ∧ Meshed P ctx crc self peer

theorem Layer.own_simulated (L : Layer P ctx) {t : Session} (h : Reached L crc role self peer t)
    (hsession : StackEvent.inSession (.own event) = true)
    (hpermits : L.permits self.endpoint.con event) (hself : (self.own P event).InRange)
    (hpeer : peer.InRange) :
    Leads (pacedStep P) L.ok (Reached L crc role (self.own P event) peer) t := by
  obtain ⟨rfl, hinv, hmeshed⟩ := h
  have hstarts := StackEvent.not_starts hsession
  have hown := ownStep_of_not_starts (P := P) self.endpoint hstarts
  have hcon : (self.own P event).endpoint.con = endpointStep P self.endpoint.con event := by
    rw [Node.own, hown]
  have hchannel : (self.own P event).endpoint.channel = self.endpoint.channel := by
    rw [Node.own, hown]
  have hfixed := (endpointStep_fixed P self.endpoint.con event).config
  have hbefore : self.InRange := hself.before (by rw [hcon, hfixed]) rfl
  have hok : L.ok (sessionAt role self peer) (role, .act (.own event)) :=
    L.own hsession hbefore.party hpeer.party hpermits
  have hstep : pacedStep P (sessionAt role self peer) (role, .act (.own event)) =
      sessionAt role (self.own P event) peer := by
    rw [sessionAt, pacedStep_sessionOf, paceStep, activityStep_own hmeshed hstarts]
    rfl
  have hnext : L.inv (sessionAt role (self.own P event) peer) := hstep ▸ L.keeps hinv hok
  have hclear := (L.clean_self hnext).lasterror
  refine leads_step hok (hstep ▸ ⟨rfl, hnext, ?_⟩)
  refine ⟨?_, hmeshed.peerSends, ⟨?_, ?_, ?_, ?_⟩, hmeshed.peerReceives.append _⟩
  · have hemits := endpointStep_emits P self.endpoint.con hstarts
    rw [← hcon] at hemits
    exact hmeshed.sends.emits (L.clean_self hinv).hashingContext hemits hclear rfl rfl
  · rw [hcon, hfixed]
    exact hmeshed.receives.crcType
  · rw [hchannel]
    exact hmeshed.receives.queued
  · rw [hchannel, hcon]
    intro hrunning
    refine hmeshed.receives.next ?_
    by_cases haborted : self.endpoint.con.aborted = true
    · unfold endpointStep at hrunning
      rwa [if_pos haborted] at hrunning
    · simpa using haborted
  · rw [hchannel]
    exact hmeshed.receives.passed

/-- The queued copy whose turn it is was made of the oldest PDU not passed on yet. -/
theorem Sequences.turn {endpoint : Endpoint} {output : List SentPdu}
    (h : Sequences P ctx crc endpoint output) (hfew : output.length < 2 ^ 32)
    (hrunning : endpoint.con.aborted = false) {element : RastaRedundancyPacketWrapper}
    (hmem : element ∈ endpoint.channel.deferQ.live)
    (hseq : seqNrOf element = endpoint.channel.seqRx) :
    ∃ pdu, output[endpoint.channel.delivered.length]? = some pdu ∧
      element.packet = copyAt P ctx crc endpoint.channel.delivered.length pdu := by
  obtain ⟨i, pdu, hpdu, hpacket⟩ := h.queued element hmem
  have hi : i < output.length := (List.getElem?_eq_some_iff.mp hpdu).1
  have hnumber : (seqNrOf element).toNat = i := by
    rw [seqNrOf, hpacket]
    exact copyAt_sequenceNumber (by omega) _
  have hplace : i = endpoint.channel.delivered.length := by
    rw [← hnumber, hseq, h.next hrunning]
  subst hplace
  exact ⟨pdu, hpdu, hpacket⟩

theorem Node.party_incoming {pdu : SentPdu}
    (hpdu : peer.output[self.endpoint.channel.delivered.length]? = some pdu) :
    (self.party peer).incoming = pdu.innerBytes ::
      (peer.output.drop (self.endpoint.channel.delivered.length + 1)).map SentPdu.innerBytes := by
  obtain ⟨hlt, hget⟩ := List.getElem?_eq_some_iff.mp hpdu
  rw [Node.party, List.drop_eq_getElem_cons hlt, hget, List.map_cons]

/-- The oldest PDU on the link is delivered. -/
theorem activityStep_deliver (h : Meshed P ctx crc self peer) {pdu : SentPdu} {after : Endpoint}
    (hpdu : peer.output[self.endpoint.channel.delivered.length]? = some pdu)
    (hcon : after.con = receiveBytes P self.endpoint.con pdu.innerBytes)
    (hdelivered : after.channel.delivered.length = self.endpoint.channel.delivered.length + 1) :
    activityStep P (self.party peer) (peer.party self) .deliver =
      ((self.moveTo after).party peer, peer.party (self.moveTo after)) := by
  have hlink := @Node.party_link self peer (self.moveTo after) _ h.peerReceives.passed rfl
  have hincoming := Node.party_incoming hpdu
  have hself : (self.moveTo after).party peer =
      { (self.party peer).moveTo after.con with
        incoming := (peer.output.drop
          (self.endpoint.channel.delivered.length + 1)).map SentPdu.innerBytes
        appended := self.appended ++ newlyAppended self.endpoint.con after.con } := by
    simp only [Node.party, Node.moveTo, hdelivered, Party.moveTo]
  rw [hself, ← hlink, hcon, activityStep, hincoming]
  rfl

/-- One round of the delivery loop. -/
theorem Layer.round_simulated (L : Layer P ctx) {t : Session}
    (h : Reached L crc role self peer t) (hrunning : self.endpoint.con.aborted = false)
    {element : RastaRedundancyPacketWrapper} (hmem : element ∈ self.endpoint.channel.deferQ.live)
    (hseq : seqNrOf element = self.endpoint.channel.seqRx) (hself : self.InRange)
    (hpeer : peer.InRange)
    (hadmits : ∀ handover ∈ newHandovers self.endpoint
      (handOver P self.endpoint element.packet).1, L.admits handover.con handover.packet)
    {after : Endpoint} (hcon : after.con = (handOver P self.endpoint element.packet).1.con)
    (hdelivered : after.channel.delivered =
      (handOver P self.endpoint element.packet).1.channel.delivered)
    (hqueue : ∀ queued ∈ after.channel.deferQ.live, queued ∈ self.endpoint.channel.deferQ.live)
    (hnext : after.con.aborted = false →
      after.channel.seqRx = self.endpoint.channel.seqRx + 1) :
    Leads (pacedStep P) L.ok (Reached L crc role (self.moveTo after) peer) t := by
  obtain ⟨rfl, hinv, hmeshed⟩ := h
  have hclean := L.clean_self hinv
  have hencoded := hmeshed.peerSends.toEncoded hpeer
  obtain ⟨pdu, hpdu, hpacket⟩ := hmeshed.receives.turn hencoded.few hrunning hmem hseq
  have hpduEncoded := hencoded.encoded _ pdu hpdu
  obtain ⟨hlt, hget⟩ := List.getElem?_eq_some_iff.mp hpdu
  obtain ⟨hhandedCon, hhandedChannel⟩ := handOver_copy hclean hpduEncoded
  rw [← hpacket] at hhandedCon hhandedChannel
  have hreceived : after.con = receiveBytes P self.endpoint.con pdu.innerBytes := by
    rw [hcon, hhandedCon,
      receiveBytes_whole hrunning hclean.srHashingContext hpduEncoded.whole]
  have hlength : after.channel.delivered.length = self.endpoint.channel.delivered.length + 1 := by
    rw [hdelivered, hhandedChannel, List.length_append, List.length_singleton]
  have hadmitted : L.admits self.endpoint.con (decodePdu P ctx pdu.innerBytes) := by
    refine hadmits ⟨element.packet, self.endpoint.con, decodePdu P ctx pdu.innerBytes⟩ ?_
    rw [newHandovers, hhandedChannel, List.drop_left]
    exact List.mem_singleton_self _
  have hok : L.ok (sessionAt role self peer) (role, .act .deliver) :=
    L.deliver (Node.party_incoming hpdu) hclean.srHashingContext hself.party hpeer.party hadmitted
  have hstep : pacedStep P (sessionAt role self peer) (role, .act .deliver) =
      sessionAt role (self.moveTo after) peer := by
    rw [sessionAt, pacedStep_sessionOf, paceStep,
      activityStep_deliver hmeshed hpdu hreceived hlength]
    rfl
  have hinvNext : L.inv (sessionAt role (self.moveTo after) peer) := hstep ▸ L.keeps hinv hok
  have hemits : Emits P self.endpoint.con after.con := by
    rw [hcon, hhandedCon]
    exact (srReceive_received P self.endpoint.con _).emits P
  have hclear := (L.clean_self hinvNext).lasterror
  refine leads_step hok (hstep ▸ ⟨rfl, hinvNext, ?_⟩)
  refine ⟨hmeshed.sends.emits hclean.hashingContext hemits hclear rfl rfl, hmeshed.peerSends,
    ⟨?_, ?_, ?_, ?_⟩, hmeshed.peerReceives.append _⟩
  · have hemitted := hemits.emitted hmeshed.sends.seqTx
    exact (congrArg RastaConfigInfo.crcType hemitted.config).trans hmeshed.receives.crcType
  · intro queued hqueued
    exact hmeshed.receives.queued queued (hqueue queued hqueued)
  · intro hafter
    have hplace := hmeshed.receives.next hrunning
    have hfew := hencoded.few
    show after.channel.seqRx.toNat = after.channel.delivered.length
    rw [hnext hafter, hlength, ← hplace, UInt64.toNat_add]
    have hone : (1 : UInt64).toNat = 1 := rfl
    omega
  · show after.channel.delivered.length ≤ peer.output.length
    omega

/-- Where the delivery loop ends, so does a run of the session that delivers as many PDUs. -/
theorem Layer.deliverLoop_simulated (L : Layer P ctx) (rounds : ℕ) (result : Bool) {t : Session}
    (h : Reached L crc role self peer t) (hrunning : self.endpoint.con.aborted = false)
    (hself : (self.moveTo (deliverLoop P rounds self.endpoint result).1).InRange)
    (hpeer : peer.InRange)
    (hadmits : ∀ handover ∈ newHandovers self.endpoint
      (deliverLoop P rounds self.endpoint result).1, L.admits handover.con handover.packet) :
    Leads (pacedStep P) L.ok
      (Reached L crc role (self.moveTo (deliverLoop P rounds self.endpoint result).1) peer) t := by
  induction rounds generalizing self result t with
  | zero =>
    rw [deliverLoop, Node.moveTo_quiet rfl rfl]
    exact leads_here h
  | succ rounds ih =>
    have hgrows := @deliverLoop_grows P (rounds + 1) self.endpoint result
    have hbefore : self.InRange := hself.before hgrows.config rfl
    unfold deliverLoop at hself hadmits ⊢
    by_cases hcontains :
        deferqueueContains self.endpoint.channel.deferQ self.endpoint.channel.seqRx = true
    · obtain ⟨element, hmem, hseq, hget⟩ := deferqueueGet_spec hcontains
      simp only [hcontains, if_true, hget, Option.getD_some] at hself hadmits ⊢
      generalize hhanded : handOver P self.endpoint element.packet = handed at hself hadmits ⊢
      have hfirst : Grows self.endpoint handed.1 := hhanded ▸ handOver_grows _ _
      have hqueue : handed.1.channel.deferQ = self.endpoint.channel.deferQ ∧
          handed.1.channel.seqRx = self.endpoint.channel.seqRx := by
        rw [← hhanded]
        exact ⟨rfl, rfl⟩
      by_cases haborted : handed.1.con.aborted = true
      · rw [if_pos haborted] at hself hadmits ⊢
        refine L.round_simulated h hrunning hmem hseq hbefore hpeer (hhanded ▸ hadmits)
          (by rw [hhanded]) (by rw [hhanded]) (fun queued hqueued => hqueue.1 ▸ hqueued) ?_
        intro hafter
        rw [haborted] at hafter
        cases hafter
      · rw [if_neg haborted] at hself hadmits ⊢
        generalize hend : (deliverLoop P rounds (advance P handed.1) (result || handed.2)).1 = final
          at hself hadmits ⊢
        have hadvanced := hfirst.trans (advance_grows (P := P) handed.1)
        have hrest : Grows (advance P handed.1) final := hend ▸ deliverLoop_grows _ _ _
        have hsplit := newHandovers_append hadvanced hrest
        rw [hsplit] at hadmits
        have hcon : (advance P handed.1).con =
            (handOver P self.endpoint element.packet).1.con := by
          rw [hhanded]
          rfl
        have hround := L.round_simulated h hrunning hmem hseq hbefore hpeer
          (fun handover hmem => hadmits handover (List.mem_append_left _ (hhanded ▸ hmem)))
          hcon (by rw [hhanded]; rfl) ?_ ?_
        · refine hround.trans fun t' hreached => ?_
          have hmoved := Node.moveTo_moveTo hadvanced hrest
          have hstill : handed.1.con.aborted = false := by simpa using haborted
          have hlater := @ih (self.moveTo (advance P handed.1)) (result || handed.2) _ hreached
            hstill
          have hfinal : (deliverLoop P rounds (self.moveTo (advance P handed.1)).endpoint
              (result || handed.2)).1 = final := hend
          rw [hfinal, hmoved] at hlater
          exact hlater hself fun handover hmem => hadmits handover (List.mem_append_right _ hmem)
        · obtain ⟨_, -, hperm⟩ := deferqueueRemove_live P hcontains
          intro queued hqueued
          have hremoved : (advance P handed.1).channel.deferQ =
              deferqueueRemove P self.endpoint.channel.deferQ self.endpoint.channel.seqRx := by
            rw [← hqueue.1, ← hqueue.2]
            rfl
          rw [hremoved] at hqueued
          exact hperm.mem_iff.mpr (List.mem_cons_of_mem _ hqueued)
        · intro _
          rw [← hqueue.2]
          rfl
    · simp only [hcontains, if_false, Bool.false_eq_true] at hself hadmits ⊢
      rw [Node.moveTo_quiet rfl rfl]
      exact leads_here h

/-- The session waits while PDUs are only queued. -/
theorem Layer.wait_simulated (L : Layer P ctx) {t : Session} (h : Reached L crc role self peer t)
    {after : Endpoint} (hreads : Reads self.endpoint after)
    (hsequences : Sequences P ctx crc after peer.output) :
    Leads (pacedStep P) L.ok (Reached L crc role (self.moveTo after) peer) t := by
  obtain ⟨rfl, hinv, hmeshed⟩ := h
  obtain ⟨⟨reads, hcon⟩, -, -, hdelivered⟩ := hreads
  have hmoved : self.moveTo after = { self with endpoint := after } :=
    Node.moveTo_quiet (by rw [hcon]; rfl) (by rw [hcon]; rfl)
  have hok : L.ok (sessionAt role self peer) (role, .wait reads) := L.wait _ _ _
  have hstep : pacedStep P (sessionAt role self peer) (role, .wait reads) =
      sessionAt role { self with endpoint := after } peer := by
    rw [sessionAt, pacedStep_sessionOf, paceStep]
    simp only [sessionAt, Party.wait, Node.party, hcon, hdelivered]
  rw [hmoved]
  refine leads_step hok (hstep ▸ ⟨rfl, hstep ▸ L.keeps hinv hok, ?_⟩)
  refine ⟨⟨?_, ?_, hmeshed.sends.encoded⟩, hmeshed.peerSends, hsequences, hmeshed.peerReceives⟩
  · show after.con.seqTx = UInt64.ofNat self.output.length
    rw [hcon]
    exact hmeshed.sends.seqTx
  · exact hsequences.crcType

/-- A read that does not reach the loop changes nothing. -/
theorem receiveCopies_idle {endpoint : Endpoint} (copies : List Bytes) (channelId : ℕ)
    (h : endpoint.con.aborted = true ∨ 2 ^ 64 ≤ copies.flatten.length) :
    receiveCopies P endpoint channelId copies = endpoint := by
  unfold receiveCopies
  split
  · rename_i hsize
    have haborted := h.resolve_right (Nat.not_le.mpr hsize)
    simp only [channelReceiveEvent, haborted, if_true, Option.getD_some]
  · rfl

theorem Sequences.diagnostics {endpoint : Endpoint} {output : List SentPdu}
    (h : Sequences P ctx crc endpoint output) (channelId : ℕ) :
    Sequences P ctx crc (runChannelDiagnostics endpoint channelId) output := by
  have hdiagnostics := runChannelDiagnostics_reads endpoint channelId
  have hqueue := (runChannelDiagnostics_frame endpoint channelId).2
  obtain ⟨reads, hcon⟩ := hdiagnostics.con
  refine ⟨?_, ?_, ?_, ?_⟩
  · rw [hcon]
    exact h.crcType
  · rw [hqueue]
    exact h.queued
  · rw [hcon, hdiagnostics.seqRx, hdiagnostics.delivered]
    exact h.next
  · rw [hdiagnostics.delivered]
    exact h.passed

/-- A read queues copies and delivers what they made deliverable. -/
theorem receiveCopies_running {output : List SentPdu} (h : Encoded P ctx crc output)
    (hcrc : crc.crcLen ≤ 4) {endpoint : Endpoint} (hrunning : endpoint.con.aborted = false)
    (hctx : endpoint.con.srHashingContext = ctx)
    (hsequences : Sequences P ctx crc endpoint output) {copies : List Bytes}
    (hcopies : ∀ bytes ∈ copies, ∃ (i : ℕ) (pdu : SentPdu), output[i]? = some pdu ∧
      bytes = pdu.dataToSend) (hsize : copies.flatten.length < 2 ^ 64) (channelId : ℕ) :
    ∃ middle flag, Reads endpoint middle ∧ Sequences P ctx crc middle output ∧
      receiveCopies P endpoint channelId copies = deliverAfter P (middle, flag) := by
  have hframed : ∀ bytes ∈ copies, Framed P bytes := by
    intro bytes hbytes
    obtain ⟨i, pdu, hpdu, rfl⟩ := hcopies bytes hbytes
    exact h.framed hcrc hpdu
  have hdiagnostics := runChannelDiagnostics_reads endpoint channelId
  obtain ⟨reads, hcon⟩ := hdiagnostics.con
  have hstart := hsequences.diagnostics channelId
  obtain ⟨hreads, hend⟩ := receivePdus_copies h hcrc hcopies channelId [] hstart
    (by rw [hcon]; exact hctx) false
  refine ⟨_, (receivePdus P channelId [] copies (runChannelDiagnostics endpoint channelId) false).2,
    hdiagnostics.trans hreads, hend, ?_⟩
  rw [receiveCopies, dif_pos hsize,
    channelReceiveEvent_framed P rfl hframed (le_refl _) hrunning, Option.getD_some]

theorem Layer.read_simulated (L : Layer P ctx) {t : Session} (h : Reached L crc role self peer t)
    (hcrc : crc.crcLen ≤ 4) {channelId : ℕ} {numbers : List ℕ}
    (hself : (self.step P peer (.read channelId numbers)).InRange) (hpeer : peer.InRange)
    (hadmits : ∀ handover ∈ newHandovers self.endpoint
      (self.step P peer (.read channelId numbers)).endpoint,
        L.admits handover.con handover.packet) :
    Leads (pacedStep P) L.ok (Reached L crc role (self.step P peer (.read channelId numbers)) peer)
      t := by
  unfold Node.step at hself hadmits ⊢
  simp only at hself hadmits ⊢
  have hcopies : ∀ bytes ∈ peer.copies numbers, ∃ (i : ℕ) (pdu : SentPdu),
      peer.output[i]? = some pdu ∧ bytes = pdu.dataToSend := fun _ hbytes => mem_copies hbytes
  generalize peer.copies numbers = copies at hself hadmits hcopies ⊢
  by_cases hidle : self.endpoint.con.aborted = true ∨ 2 ^ 64 ≤ copies.flatten.length
  · rw [receiveCopies_idle copies channelId hidle, Node.moveTo_quiet rfl rfl]
    exact leads_here h
  · rw [not_or] at hidle
    obtain ⟨-, hinv, hmeshed⟩ := id h
    have hclean : Clean ctx self.endpoint.con := L.clean_self (h.1 ▸ hinv)
    have hrunning : self.endpoint.con.aborted = false := by simpa using hidle.1
    obtain ⟨middle, flag, hreads, hsequences, hend⟩ :=
      receiveCopies_running (hmeshed.peerSends.toEncoded hpeer) hcrc hrunning
        hclean.srHashingContext hmeshed.receives hcopies (Nat.lt_of_not_le hidle.2) channelId
    have hwait := L.wait_simulated h hreads hsequences
    rw [hend] at hself hadmits ⊢
    cases flag with
    | false => exact hwait
    | true =>
      have hmiddle : middle.con.aborted = false := by
        obtain ⟨reads, hcon⟩ := hreads.con
        rw [hcon]
        exact hrunning
      have hloop := @deliverLoop_grows P middle.channel.deferQ.count middle false
      have hend' : deliverAfter P (middle, true) =
          (deliverLoop P middle.channel.deferQ.count middle false).1 := rfl
      rw [hend'] at hself hadmits ⊢
      have hmoved := Node.moveTo_moveTo hreads.grows hloop
      have hsplit := newHandovers_append hreads.grows hloop
      refine hwait.trans fun t' hreached => ?_
      have hdelivered := L.deliverLoop_simulated middle.channel.deferQ.count false hreached hmiddle
      have hsame : (self.moveTo middle).endpoint = middle := rfl
      rw [hsame, hmoved] at hdelivered
      refine hdelivered hself hpeer fun handover hmem => hadmits handover ?_
      show handover ∈ newHandovers self.endpoint
        (deliverLoop P middle.channel.deferQ.count middle false).1
      rw [hsplit]
      exact List.mem_append_right _ hmem

end Steps

section Runs

variable {P : Platform} {ctx : RastaHashingContext} {crc : CrcOptions} {self peer : Node}
  {role : RastaRole} {client server : Endpoint} {s : Stack} {t : Session}

theorem Reached.symm_client {L : Layer P ctx} (h : Reached L crc .client self peer t) :
    Reached L crc .server peer self t :=
  ⟨h.1, h.2.1, h.2.2.symm⟩

theorem Reached.symm_server {L : Layer P ctx} (h : Reached L crc .server self peer t) :
    Reached L crc .client peer self t :=
  ⟨h.1, h.2.1, h.2.2.symm⟩

/-- Whatever happens at a node. -/
theorem Layer.node_simulated (L : Layer P ctx) (h : Reached L crc role self peer t)
    (hcrc : crc.crcLen ≤ 4) {event : StackEvent} (hsession : event.inSession = true)
    (hpermitted : Permitted P L.permits L.admits self peer event)
    (hself : (self.step P peer event).InRange) (hpeer : peer.InRange) :
    Leads (pacedStep P) L.ok (Reached L crc role (self.step P peer event) peer) t := by
  cases event with
  | own event => exact L.own_simulated h hsession hpermitted hself hpeer
  | read channelId numbers => exact L.read_simulated h hcrc hself hpeer hpermitted

/-- Each step over transport channels that lose, repeat and reorder is matched by a run of the
session over links that lose nothing. -/
theorem Layer.step_simulated (L : Layer P ctx) (hcrc : crc.crcLen ≤ 4)
    (h : Reached L crc .client s.client s.server t) {event : RastaRole × StackEvent}
    (hok : StackOk P L.permits L.admits s event) :
    Leads (pacedStep P) L.ok
      (Reached L crc .client (stackStep P s event).client (stackStep P s event).server) t := by
  obtain ⟨role, event⟩ := event
  obtain ⟨hsession, hpermitted, hclient, hserver⟩ := hok
  cases role with
  | client => exact L.node_simulated h hcrc hsession hpermitted hclient hserver
  | server =>
    have hserved := L.node_simulated h.symm_client hcrc hsession hpermitted hserver hclient
    exact hserved.mono fun _ hreached => hreached.symm_server

theorem Layer.run_simulated (L : Layer P ctx) (hcrc : crc.crcLen ≤ 4)
    (h : Reached L crc .client s.client s.server t) {events : List (RastaRole × StackEvent)}
    (hok : RunOk (stackStep P) (StackOk P L.permits L.admits) s events) :
    Leads (pacedStep P) L.ok
      (Reached L crc .client (run (stackStep P) s events).client
        (run (stackStep P) s events).server) t :=
  @Lib.run_simulated _ _ _ _ _ _ _ _ (fun s t => Reached L crc .client s.client s.server t)
    (fun _ _ _ hreached hstep => L.step_simulated hcrc hreached hstep) _ _ _ hok h

/-- Two endpoints before the session: configured alike, as far as the safety code and the CRC are
concerned, and with nothing passed on by their channels. -/
structure FreshPair (ctx : RastaHashingContext) (client server : Endpoint) : Prop where
  clientFresh : Fresh ctx client.con
  serverFresh : Fresh ctx server.con
  connectable : Connectable client.con
  waiting : Inactive server.con
  crcType : client.con.config.crcType = server.con.config.crcType
  crcLen : server.con.config.crcType.crcLen ≤ 4
  clientDelivered : client.channel.delivered = []
  serverDelivered : server.channel.delivered = []

theorem FreshPair.accepted (P : Platform) (h : FreshPair ctx client server) :
    endpointStep P server.con .accept = rastaAccept server.con := by
  unfold endpointStep
  rw [if_neg (by simp [h.serverFresh.running])]

theorem FreshPair.session (h : FreshPair ctx client server) :
    (openedStack P client server).session =
      openedSession P client.con (rastaAccept server.con) := by
  have hclient : (ownStep P client (.connect true)).channel.delivered = [] := by
    unfold ownStep
    split
    · exact h.clientDelivered
    · exact h.clientDelivered
  have hserver : (ownStep P server .accept).channel.delivered = [] := by
    unfold ownStep
    split
    · exact h.serverDelivered
    · exact h.serverDelivered
  have hcon : (ownStep P server .accept).con = rastaAccept server.con := h.accepted P
  simp only [Stack.session, openedStack, Node.party, hclient, hserver, hcon, List.length_nil,
    List.drop_zero, List.drop_nil, List.map_nil]
  rfl

/-- A channel that was just initialised has nothing queued and waits for the first PDU. -/
theorem sequences_initialised {endpoint : Endpoint} {event : Event} {output : List SentPdu}
    (hinitialises : InitialisesChannel endpoint.con event)
    (hdelivered : endpoint.channel.delivered = []) :
    Sequences P ctx endpoint.con.config.crcType (ownStep P endpoint event) output := by
  have hchannel : (ownStep P endpoint event).channel = (redundancyChannelInit endpoint).channel :=
    if_pos hinitialises
  have hnone : (redundancyChannelInit endpoint).channel.delivered = [] := hdelivered
  refine ⟨?_, ?_, ?_, ?_⟩
  · exact congrArg RastaConfigInfo.crcType (endpointStep_fixed P endpoint.con event).config
  · rw [hchannel]
    simp [redundancyChannelInit, deferqueueClear, DeferQueue.live]
  · rw [hchannel, hnone]
    exact fun _ => rfl
  · rw [hchannel, hnone]
    exact Nat.zero_le _

/-- Where the session begins. -/
theorem FreshPair.reached (h : FreshPair ctx client server) (L : Layer P ctx)
    (hinv : L.inv (openedSession P client.con (rastaAccept server.con))) :
    Reached L server.con.config.crcType .client (openedStack P client server).client
      (openedStack P client server).server
      (openedSession P client.con (rastaAccept server.con)) := by
  have hopened : endpointStep P client.con (.connect true) =
      openSession P { client.con with seqTx := 0 } := by
    unfold endpointStep
    rw [if_neg (by simp [h.clientFresh.running])]
    simp only [srConnect, if_pos h.connectable, if_true]
  have hclear : (endpointStep P client.con (.connect true)).lasterror = .none :=
    (L.clean .client hinv).lasterror
  have hemitted := (openSession_emits P { client.con with seqTx := 0 }).emitted
    (rfl : (0 : UInt64) = UInt64.ofNat 0)
  rw [← hopened] at hemitted
  have hconfig := hemitted.config
  refine ⟨h.session.symm, hinv, ⟨?_, ?_, fun i pdu hpdu => ?_⟩, ⟨?_, ?_, ?_⟩, ?_, ?_⟩
  · rw [← Nat.zero_add (openedStack P client server).client.output.length]
    exact hemitted.seqTx
  · exact (congrArg RastaConfigInfo.crcType hconfig).trans h.crcType
  · have hnew := (hemitted.encoded hclear).2 i pdu hpdu
    have hctx : client.con.hashingContext = ctx := h.clientFresh.hashingContext
    rw [Nat.zero_add] at hnew
    rw [← h.crcType, ← hctx]
    exact hnew
  · exact congrArg Connection.seqTx (h.accepted P)
  · show (endpointStep P server.con .accept).config.crcType = server.con.config.crcType
    rw [h.accepted P]
    rfl
  · intro i pdu hpdu
    cases hpdu
  · rw [← h.crcType]
    exact sequences_initialised ⟨h.clientFresh.running, h.connectable⟩ h.clientDelivered
  · exact sequences_initialised h.serverFresh.running h.serverDelivered

end Runs

end LibRasta.Redundancy
