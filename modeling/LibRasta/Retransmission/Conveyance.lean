/-
Module: LibRasta/Retransmission/Conveyance.lean
source: src/c/retransmission/messages.c, src/c/transport/events.c, src/c/retransmission/safety_retransmission.c, src/c/retransmission/handlers.c
digest: The sending functions as moves of one direction of the renumbering protocol: what each puts on the link, keeps for retransmission and takes from the queue.
-/

import LibRasta.Lib.Renumbering
import LibRasta.Retransmission.Session

set_option autoImplicit false
set_option relaxedAutoImplicit false

namespace LibRasta.Retransmission

open LibRasta.Lib
open LibRasta.Lib.Renumbering
open LibRasta.Util
open LibRasta.Factory

section Encoding

variable (P : Platform) (ctx : RastaHashingContext)

/-- The packet the receiver decodes. -/
def decodePdu (bytes : Bytes) : RastaPacket :=
  (bytesToRastaPacket P .none bytes ctx P.uninitPacket).1

/-- The encoding of a packet while no error is pending. -/
def encodePdu (packet : RastaPacket) : Bytes :=
  (rastaModuleToBytes P .none packet ctx).1

variable {ctx} {packet : RastaPacket}

theorem bytesToRastaPacket_of_whole {bytes : Bytes} (h : 28 + ctx.checksumLen ≤ bytes.length)
    (lasterror : RastaErrorType) :
    bytesToRastaPacket P lasterror bytes ctx P.uninitPacket = (decodePdu P ctx bytes, lasterror) := by
  have hwhole : ¬ bytes.length < 28 + ctx.checksumLen := Nat.not_lt.mpr h
  simp only [decodePdu, bytesToRastaPacket, if_neg hwhole]

theorem length_encodePdu (h : 28 + ctx.checksumLen ≤ packet.length.toNat) :
    (encodePdu P ctx packet).length = packet.length.toNat := by
  rw [encodePdu, rastaModuleToBytes_of_fits P h, List.length_append, length_bytesToHash P h,
    length_safetyCode P]
  omega

theorem decodePdu_encodePdu (h : 28 + ctx.checksumLen ≤ packet.length.toNat) :
    decodePdu P ctx (encodePdu P ctx packet) = reencoded P packet ctx := by
  rw [decodePdu, encodePdu, bytesToRastaPacket_toBytes P h]

theorem rastaModuleToBytes_none (h : 28 + ctx.checksumLen ≤ packet.length.toNat) :
    rastaModuleToBytes P .none packet ctx = (encodePdu P ctx packet, .none) := by
  rw [encodePdu, rastaModuleToBytes_of_fits P h]

/-- A PDU without messages carries its whole header and safety code. -/
theorem initializePacket_length (type : RastaConnType) (header : PacketHeader)
    {dataLength : UInt16} (hdata : dataLength.toNat ≤ 14) (ctx : RastaHashingContext) :
    28 + ctx.checksumLen ≤ (initializePacket P type header dataLength ctx).length.toNat := by
  have hle := ctx.checksumLen_le
  simp only [initializePacket, UInt16.toNat_ofNat']
  omega

end Encoding

/-- The role of a packet type in the renumbering protocol. -/
def kindOf : RastaConnType → Kind
  | .data => .data
  | .retrData => .data
  | .retrResp => .response
  | .discReq => .final
  | _ => .plain

section Relations

variable (P : Platform) (ctx : RastaHashingContext)

/-- The bytes on the link carry the PDU. -/
structure Carries (bytes : Bytes) (pdu : Pdu Bytes) : Prop where
  whole : 28 + ctx.checksumLen ≤ bytes.length
  number : (decodePdu P ctx bytes).sequenceNumber = UInt32.ofNat pdu.number
  kind : kindOf (decodePdu P ctx bytes).type = pdu.kind
  messages : pdu.kind = .data → extractMessageData P (decodePdu P ctx bytes) = pdu.messages

/-- The element of `fifo_retransmission` holds the batch. -/
structure Keeps (element : Bytes) (batch : ℕ × List Bytes) : Prop where
  whole : 28 + ctx.checksumLen ≤ element.length
  number : (decodePdu P ctx element).sequenceNumber = UInt32.ofNat batch.1
  messages : extractMessageData P (decodePdu P ctx element) = batch.2
  fits : MessagesFit ctx batch.2

/-- The connection is the sender of the direction. -/
structure Sending (con : Connection) (d : Direction Bytes) : Prop where
  hashingContext : con.hashingContext = ctx
  srHashingContext : con.srHashingContext = ctx
  lasterror : con.lasterror = .none
  queue : con.fifoSend.items = d.queue
  kept : List.Forall₂ (Keeps P ctx) con.fifoRetransmission.items d.kept
  next : con.snT = UInt32.ofNat d.next
  fits : QueueFits ctx con.config.maxPacket.toNat con.fifoSend.items

/-- No PDU opens a session or requests a retransmission. -/
def Quiet (out : List SentPdu) : Prop :=
  ∀ pdu ∈ out, (decodePdu P ctx pdu.innerBytes).type ≠ .connReq ∧
    (decodePdu P ctx pdu.innerBytes).type ≠ .retrReq

/-- The direction after the connection became `after`: `out` was sent, `messages` were pushed and
`answered` requests were answered. -/
structure Conveyed (after : Connection) (out : List SentPdu) (messages : List Bytes)
    (answered : ℕ) (d d' : Direction Bytes) : Prop where
  moves : Moves d d'
  sending : Sending P ctx after d'
  flight : ∃ flight, d'.flight = d.flight ++ flight ∧
    List.Forall₂ (Carries P ctx) (out.map SentPdu.innerBytes) flight
  next : d'.next = d.next + numbersUsed out
  pushed : d'.pushed = d.pushed ++ messages
  mode : d'.mode = d.mode
  expected : d'.expected = d.expected
  delivered : d'.delivered = d.delivered
  requests : d'.requests = d.requests.drop answered
  kept : ∀ batch ∈ d'.kept, batch ∈ d.kept ∨ d.next ≤ batch.1

/-- Whatever direction the connection is the sender of, it conveys the messages. -/
def Conveys (before after : Connection) (messages : List Bytes) : Prop :=
  before.sent <+: after.sent ∧ ∀ d, Renumbering.Inv d → Sending P ctx before d →
    Quiet P ctx (newlySent before after) ∧
      ∃ d', Conveyed P ctx after (newlySent before after) messages 0 d d'

variable {P ctx}

theorem newlySent_eq {before after : Connection} {out : List SentPdu}
    (h : after.sent = before.sent ++ out) : newlySent before after = out := by
  rw [newlySent, h, List.drop_left]

theorem newlySent_append {a b c : Connection} (hab : a.sent <+: b.sent) (hbc : b.sent <+: c.sent) :
    newlySent a c = newlySent a b ++ newlySent b c := by
  obtain ⟨first, hfirst⟩ := hab
  obtain ⟨second, hsecond⟩ := hbc
  rw [newlySent_eq hfirst.symm, newlySent_eq hsecond.symm]
  refine newlySent_eq ?_
  rw [← hsecond, ← hfirst, List.append_assoc]

theorem numbersUsed_append (front back : List SentPdu) :
    numbersUsed (front ++ back) = numbersUsed front + numbersUsed back := by
  simp [numbersUsed]

theorem Conveyed.trans {a b : Connection} {first second : List SentPdu}
    {messages more : List Bytes} {k l : ℕ} {d d' d'' : Direction Bytes}
    (hab : Conveyed P ctx a first messages k d d')
    (hbc : Conveyed P ctx b second more l d' d'') :
    Conveyed P ctx b (first ++ second) (messages ++ more) (k + l) d d'' := by
  obtain ⟨flight, hflight, hcarries⟩ := hab.flight
  obtain ⟨flight', hflight', hcarries'⟩ := hbc.flight
  refine ⟨hab.moves.trans hbc.moves, hbc.sending, ⟨flight ++ flight', ?_, ?_⟩, ?_, ?_,
    hbc.mode.trans hab.mode, hbc.expected.trans hab.expected, hbc.delivered.trans hab.delivered, ?_,
    ?_⟩
  · rw [hflight', hflight, List.append_assoc]
  · rw [List.map_append]
    exact List.rel_append hcarries hcarries'
  · rw [hbc.next, hab.next, numbersUsed_append, Nat.add_assoc]
  · rw [hbc.pushed, hab.pushed, List.append_assoc]
  · rw [hbc.requests, hab.requests, List.drop_drop]
  · intro batch hbatch
    have hgrown : d.next ≤ d'.next := hab.next ▸ Nat.le_add_right _ _
    rcases hbc.kept batch hbatch with hold | hnew
    · exact hab.kept batch hold
    · exact .inr (hgrown.trans hnew)

theorem Quiet.append {first second : List SentPdu} (hfirst : Quiet P ctx first)
    (hsecond : Quiet P ctx second) : Quiet P ctx (first ++ second) := by
  intro pdu hpdu
  rcases List.mem_append.mp hpdu with h | h
  · exact hfirst pdu h
  · exact hsecond pdu h

theorem Conveys.trans {a b c : Connection} {messages more : List Bytes}
    (hab : Conveys P ctx a b messages) (hbc : Conveys P ctx b c more) :
    Conveys P ctx a c (messages ++ more) := by
  refine ⟨hab.1.trans hbc.1, fun d hinv hsending => ?_⟩
  obtain ⟨hquiet, d', hd'⟩ := hab.2 d hinv hsending
  obtain ⟨hquiet', d'', hd''⟩ := hbc.2 d' (hinv.moves hd'.moves) hd'.sending
  rw [newlySent_append hab.1 hbc.1]
  exact ⟨hquiet.append hquiet', d'', hd'.trans hd''⟩

/-- What the sender of a direction consists of. -/
structure SameSender (before after : Connection) : Prop where
  hashingContext : after.hashingContext = before.hashingContext
  srHashingContext : after.srHashingContext = before.srHashingContext
  lasterror : after.lasterror = before.lasterror
  fifoSend : after.fifoSend = before.fifoSend
  fifoRetransmission : after.fifoRetransmission = before.fifoRetransmission
  snT : after.snT = before.snT
  config : after.config = before.config
  sent : after.sent = before.sent

theorem SameSender.trans {a b c : Connection} (hab : SameSender a b) (hbc : SameSender b c) :
    SameSender a c where
  hashingContext := hbc.hashingContext.trans hab.hashingContext
  srHashingContext := hbc.srHashingContext.trans hab.srHashingContext
  lasterror := hbc.lasterror.trans hab.lasterror
  fifoSend := hbc.fifoSend.trans hab.fifoSend
  fifoRetransmission := hbc.fifoRetransmission.trans hab.fifoRetransmission
  snT := hbc.snT.trans hab.snT
  config := hbc.config.trans hab.config
  sent := hbc.sent.trans hab.sent

theorem Sending.same {before after : Connection} {d : Direction Bytes}
    (h : Sending P ctx before d) (hsame : SameSender before after) : Sending P ctx after d where
  hashingContext := hsame.hashingContext.trans h.hashingContext
  srHashingContext := hsame.srHashingContext.trans h.srHashingContext
  lasterror := hsame.lasterror.trans h.lasterror
  queue := by rw [hsame.fifoSend, h.queue]
  kept := by
    rw [hsame.fifoRetransmission]
    exact h.kept
  next := hsame.snT.trans h.next
  fits := by
    rw [hsame.fifoSend, hsame.config]
    exact h.fits

theorem Sending.conveyed {con : Connection} {d : Direction Bytes} (h : Sending P ctx con d) :
    Conveyed P ctx con [] [] 0 d d :=
  ⟨.refl, h, ⟨[], by simp, .nil⟩, rfl, by simp, rfl, rfl, rfl, rfl, fun _ hbatch => .inl hbatch⟩

theorem SameSender.conveys {before after : Connection} (hsame : SameSender before after) :
    Conveys P ctx before after [] := by
  have hnone : newlySent before after = [] := newlySent_eq (by simp [hsame.sent])
  refine ⟨by rw [hsame.sent], fun d _ hsending => ?_⟩
  rw [hnone]
  exact ⟨by simp [Quiet], d, (hsending.same hsame).conveyed⟩

end Relations

section Emission

variable {P : Platform} {ctx : RastaHashingContext} {con : Connection} {data : RastaPacket}
  {d : Direction Bytes}

theorem redundancyMuxSend_spec (hctx : con.hashingContext = ctx) (herror : con.lasterror = .none)
    (hlength : 28 + ctx.checksumLen ≤ data.length.toNat) :
    (redundancyMuxSend P con data).lasterror = .none ∧
      ∃ pdu : SentPdu, (redundancyMuxSend P con data).sent = con.sent ++ [pdu] ∧
        pdu.packet = data ∧ pdu.innerBytes = encodePdu P ctx data := by
  have hencoded : rastaModuleToBytes P con.lasterror data con.hashingContext =
      (encodePdu P ctx data, .none) := by
    rw [hctx, herror, rastaModuleToBytes_none P hlength]
  refine ⟨?_, _, rfl, rfl, ?_⟩
  · exact congrArg Prod.snd hencoded
  · have hbytes := congrArg Prod.fst hencoded
    exact hbytes

/-- A PDU without messages on the link. -/
theorem carries_control (hlength : 28 + ctx.checksumLen ≤ data.length.toNat) {number : ℕ}
    (hnumber : data.sequenceNumber = UInt32.ofNat number) (hkind : kindOf data.type ≠ .data) :
    Carries P ctx (encodePdu P ctx data)
      { number := number, kind := kindOf data.type, messages := [] } where
  whole := by rwa [length_encodePdu P hlength]
  number := by rw [decodePdu_encodePdu P hlength, ← hnumber]; rfl
  kind := by rw [decodePdu_encodePdu P hlength]; rfl
  messages h := absurd h hkind

theorem ofNat_succ (n : ℕ) : UInt32.ofNat (n + 1) = UInt32.ofNat n + 1 := UInt32.ofNat_add n 1

/-- A numbered PDU without messages is sent. -/
theorem Sending.control (h : Sending P ctx con d) (hnumber : data.sequenceNumber = con.snT)
    (hlength : 28 + ctx.checksumLen ≤ data.length.toNat) (hkind : kindOf data.type = .plain) :
    ∃ pdu : SentPdu,
      (incrementSnT (redundancyMuxSend P con data)).sent = con.sent ++ [pdu] ∧
      pdu.packet = data ∧ pdu.innerBytes = encodePdu P ctx data ∧
      Conveyed P ctx (incrementSnT (redundancyMuxSend P con data)) [pdu] [] 0 d
        (d.emit { number := d.next, kind := .plain, messages := [] }) := by
  obtain ⟨herror, pdu, hsent, hpacket, hbytes⟩ :=
    redundancyMuxSend_spec h.hashingContext h.lasterror hlength
  refine ⟨pdu, hsent, hpacket, hbytes, .single (.control d .plain (.inl rfl)), ?_, ?_, ?_, ?_, rfl,
    rfl, rfl, rfl, fun _ hkept => .inl hkept⟩
  · refine ⟨h.hashingContext, h.srHashingContext, herror, h.queue, h.kept, ?_, h.fits⟩
    have hnext : con.snT + 1 = UInt32.ofNat (d.next + 1) := by rw [ofNat_succ, h.next]
    exact hnext
  · refine ⟨_, rfl, .cons ?_ .nil⟩
    have hcarries := @carries_control P ctx data hlength d.next (hnumber.trans h.next)
      (by rw [hkind]; decide)
    rw [hkind] at hcarries
    rw [hbytes]
    exact hcarries
  · have hcounted : data.type ≠ .discReq := by
      intro htype
      rw [htype] at hkind
      cases hkind
    simp [Direction.emit, Pdu.stop, numbersUsed, hpacket, hcounted]
  · simp [Direction.emit]

/-- A disconnection request is sent. -/
theorem Sending.final (h : Sending P ctx con d) (hnumber : data.sequenceNumber = con.snT)
    (hlength : 28 + ctx.checksumLen ≤ data.length.toNat) (htype : data.type = .discReq) :
    ∃ pdu : SentPdu, (redundancyMuxSend P con data).sent = con.sent ++ [pdu] ∧
      pdu.innerBytes = encodePdu P ctx data ∧
      Conveyed P ctx (redundancyMuxSend P con data) [pdu] [] 0 d
        (d.emit { number := d.next, kind := .final, messages := [] }) := by
  obtain ⟨herror, pdu, hsent, hpacket, hbytes⟩ :=
    redundancyMuxSend_spec h.hashingContext h.lasterror hlength
  have hkind : kindOf data.type = .final := by rw [htype]; rfl
  refine ⟨pdu, hsent, hbytes, .single (.control d .final (.inr rfl)), ?_, ?_, ?_, ?_, rfl,
    rfl, rfl, rfl, fun _ hkept => .inl hkept⟩
  · exact ⟨h.hashingContext, h.srHashingContext, herror, h.queue, h.kept, h.next, h.fits⟩
  · refine ⟨_, rfl, .cons ?_ .nil⟩
    have hcarries := @carries_control P ctx data hlength d.next (hnumber.trans h.next)
      (by rw [hkind]; decide)
    rw [hkind] at hcarries
    rw [hbytes]
    exact hcarries
  · simp [Direction.emit, Pdu.stop, numbersUsed, hpacket, htype]
  · simp [Direction.emit]

theorem quiet_singleton {pdu : SentPdu} (hbytes : pdu.innerBytes = encodePdu P ctx data)
    (hlength : 28 + ctx.checksumLen ≤ data.length.toNat) (hopens : data.type ≠ .connReq)
    (hrequests : data.type ≠ .retrReq) : Quiet P ctx [pdu] := by
  intro sent hsent
  rw [List.mem_singleton.mp hsent, hbytes, decodePdu_encodePdu P hlength]
  exact ⟨hopens, hrequests⟩

theorem conveys_control (hnumber : data.sequenceNumber = con.snT)
    (hlength : con.srHashingContext = ctx → 28 + ctx.checksumLen ≤ data.length.toNat) (hkind : kindOf data.type = .plain)
    (hopens : data.type ≠ .connReq) (hrequests : data.type ≠ .retrReq) :
    Conveys P ctx con (incrementSnT (redundancyMuxSend P con data)) [] := by
  refine ⟨(redundancyMuxSend_frame P con data).sent, fun d _ hsending => ?_⟩
  have hlength := hlength hsending.srHashingContext
  obtain ⟨pdu, hsent, -, hbytes, hconveyed⟩ := hsending.control hnumber hlength hkind
  rw [newlySent_eq hsent]
  exact ⟨quiet_singleton hbytes hlength hopens hrequests, _, hconveyed⟩

theorem conveys_final (hnumber : data.sequenceNumber = con.snT)
    (hlength : con.srHashingContext = ctx → 28 + ctx.checksumLen ≤ data.length.toNat)
    (htype : data.type = .discReq) : Conveys P ctx con (redundancyMuxSend P con data) [] := by
  refine ⟨(redundancyMuxSend_frame P con data).sent, fun d _ hsending => ?_⟩
  have hlength := hlength hsending.srHashingContext
  obtain ⟨pdu, hsent, hbytes, hconveyed⟩ := hsending.final hnumber hlength htype
  rw [newlySent_eq hsent]
  refine ⟨quiet_singleton hbytes hlength ?_ ?_, _, hconveyed⟩
  · rw [htype]
    nofun
  · rw [htype]
    nofun

end Emission

section Data

variable {P : Platform} {ctx : RastaHashingContext} {con : Connection} {d : Direction Bytes}

/-- The packet is a Data or RetrData PDU with these messages. -/
structure IsBatch (P : Platform) (ctx : RastaHashingContext) (data : RastaPacket)
    (messages : List Bytes) : Prop where
  kind : data.type = .data ∨ data.type = .retrData
  length : 28 + ctx.checksumLen ≤ data.length.toNat
  fits : MessagesFit ctx messages
  messages : extractMessageData P (reencoded P data ctx) = messages

theorem createDataMessage_isBatch (header : PacketHeader) {messages : List Bytes}
    (hfits : MessagesFit ctx messages) :
    IsBatch P ctx (createDataMessage P header messages ctx) messages := by
  have hwell := @createDataMessage_wellFormed P header messages ctx hfits
  refine ⟨.inl rfl, ?_, hfits, ?_⟩
  · rw [hwell]
    omega
  · refine extractMessageData_of_data P hfits ?_
    rw [reencoded_of_wellFormed P hwell]
    exact createDataMessage_data P hfits

theorem createRetransmittedDataMessage_isBatch (header : PacketHeader) {messages : List Bytes}
    (hfits : MessagesFit ctx messages) :
    IsBatch P ctx (createRetransmittedDataMessage P header messages ctx) messages := by
  have hwell := @createRetransmittedDataMessage_wellFormed P header messages ctx hfits
  refine ⟨.inr rfl, ?_, hfits, ?_⟩
  · rw [hwell]
    omega
  · refine extractMessageData_of_data P hfits ?_
    rw [reencoded_of_wellFormed P hwell]
    exact createDataMessage_data P hfits

variable {data : RastaPacket} {messages : List Bytes} {number : ℕ}

theorem IsBatch.carries (h : IsBatch P ctx data messages)
    (hnumber : data.sequenceNumber = UInt32.ofNat number) :
    Carries P ctx (encodePdu P ctx data)
      { number := number, kind := .data, messages := messages } where
  whole := by
    rw [length_encodePdu P h.length]
    exact h.length
  number := by rw [decodePdu_encodePdu P h.length, ← hnumber]; rfl
  kind := by
    rw [decodePdu_encodePdu P h.length]
    rcases h.kind with htype | htype <;> simp [reencoded, htype, kindOf]
  messages _ := by
    rw [decodePdu_encodePdu P h.length]
    exact h.messages

theorem IsBatch.keeps (h : IsBatch P ctx data messages)
    (hnumber : data.sequenceNumber = UInt32.ofNat number) :
    Keeps P ctx (encodePdu P ctx data) (number, messages) where
  whole := (h.carries hnumber).whole
  number := (h.carries hnumber).number
  messages := (h.carries hnumber).messages rfl
  fits := h.fits

theorem IsBatch.quiet (h : IsBatch P ctx data messages) {pdu : SentPdu}
    (hbytes : pdu.innerBytes = encodePdu P ctx data) : Quiet P ctx [pdu] := by
  refine quiet_singleton hbytes h.length ?_ ?_
  · rcases h.kind with htype | htype <;> simp [htype]
  · rcases h.kind with htype | htype <;> simp [htype]

theorem IsBatch.numbersUsed (h : IsBatch P ctx data messages) {pdu : SentPdu}
    (hpacket : pdu.packet = data) : numbersUsed [pdu] = 1 := by
  have hcounted : data.type ≠ .discReq := by rcases h.kind with htype | htype <;> simp [htype]
  simp [LibRasta.Retransmission.numbersUsed, hpacket, hcounted]

/-- Pushing to a queue appends or, when it is full, does nothing. -/
theorem fifoPush_items_cases {α : Type} (fifo : Fifo α) (element : α) :
    (fifoPush fifo element).2.items = fifo.items ∨
      (fifoPush fifo element).2.items = fifo.items ++ [element] := by
  by_cases h : fifo.items.length = fifo.maxSize
  · rw [fifoPush_of_full h]
    exact .inl rfl
  · exact .inr (fifoPush_of_room (by have := fifo.size_le; omega) element).2

/-- A batch is sent, with the queues as they are by then. -/
theorem Sending.batch (h : Sending P ctx con d) {n : ℕ}
    (hbatch : IsBatch P ctx data (d.queue.take n))
    (hnumber : data.sequenceNumber = UInt32.ofNat d.next)
    {fifoSend fifoRetransmission : Fifo Bytes} (hqueue : fifoSend.items = d.queue.drop n)
    (hkept : fifoRetransmission.items = con.fifoRetransmission.items ∨
      fifoRetransmission.items = con.fifoRetransmission.items ++ [encodePdu P ctx data])
    {base : Connection} (hbase : base = setQueues con fifoSend fifoRetransmission .none) :
    ∃ pdu : SentPdu,
      (incrementSnT (redundancyMuxSend P (tick base) data)).sent = con.sent ++ [pdu] ∧
      pdu.innerBytes = encodePdu P ctx data ∧
      ∃ d', Conveyed P ctx (incrementSnT (redundancyMuxSend P (tick base) data)) [pdu] [] 0 d d' := by
  subst hbase
  have hctx : (tick (setQueues con fifoSend fifoRetransmission .none)).hashingContext = ctx :=
    h.hashingContext
  obtain ⟨herror, pdu, hsent, hpacket, hbytes⟩ := redundancyMuxSend_spec hctx rfl hbatch.length
  obtain ⟨kept, hmove, hforall⟩ : ∃ kept,
      (kept = d.kept ∨ kept = d.kept ++ [(d.next, d.queue.take n)]) ∧
        List.Forall₂ (Keeps P ctx) fifoRetransmission.items kept := by
    rcases hkept with hsame | hmore
    · exact ⟨d.kept, .inl rfl, hsame ▸ h.kept⟩
    · refine ⟨_, .inr rfl, ?_⟩
      rw [hmore]
      exact List.rel_append h.kept (.cons (hbatch.keeps hnumber) .nil)
  refine ⟨pdu, hsent, hbytes, _, .single (.batch d n kept hmove), ?_, ?_, ?_, ?_, rfl, rfl, rfl,
    rfl, ?_⟩
  · refine ⟨h.hashingContext, h.srHashingContext, herror, hqueue, hforall, ?_, ?_⟩
    · have hnext : con.snT + 1 = UInt32.ofNat (d.next + 1) := by rw [ofNat_succ, h.next]
      exact hnext
    · have hsuffix : fifoSend.items <:+ con.fifoSend.items := by
        rw [hqueue, h.queue]
        exact List.drop_suffix _ _
      exact h.fits.suffix hsuffix
  · refine ⟨_, rfl, .cons ?_ .nil⟩
    rw [hbytes]
    exact hbatch.carries hnumber
  · rw [hbatch.numbersUsed hpacket]
    rfl
  · simp [Direction.emit]
  · intro batch hmem
    rcases hmove with hsame | hmore
    · exact .inl (hsame ▸ hmem)
    · rcases List.mem_append.mp (hmore ▸ hmem) with hold | hnew
      · exact .inl hold
      · exact .inr (by rw [List.mem_singleton.mp hnew])

theorem rescheduleHeartbeat_same (con : Connection) : SameSender con (rescheduleHeartbeat con) :=
  ⟨rfl, rfl, rfl, rfl, rfl, rfl, rfl, rfl⟩

theorem Conveyed.same {a b : Connection} {out : List SentPdu} {more : List Bytes} {k : ℕ}
    {d' : Direction Bytes} (h : Conveyed P ctx a out more k d d') (hsame : SameSender a b) :
    Conveyed P ctx b out more k d d' :=
  { h with sending := h.sending.same hsame }

theorem sendBatch_conveys (con : Connection) {n : ℕ} (hn : n ≤ con.config.maxPacket.toNat) :
    Conveys P ctx con (sendBatch P con n) [] := by
  refine ⟨(sendBatch_frame P con n).sent, fun d _ h => ?_⟩
  have hbatch := @createDataMessage_isBatch P ctx (nextHeader con) _ (h.fits.take hn)
  have hnumber : (createDataMessage P (nextHeader con) (con.fifoSend.items.take n)
      ctx).sequenceNumber = UInt32.ofNat d.next := h.next
  have hqueue : (fifoPopMany con.fifoSend n).items = d.queue.drop n := by
    rw [← h.queue]
    rfl
  rw [sendBatch_eq]
  simp only
  rw [h.srHashingContext, h.lasterror, rastaModuleToBytes_none P hbatch.length]
  generalize createDataMessage P (nextHeader con) (con.fifoSend.items.take n) ctx = data
    at hbatch hnumber ⊢
  rw [h.queue] at hbatch
  obtain ⟨pdu, hsent, hbytes, d', hd'⟩ := h.batch hbatch hnumber hqueue
    (fifoPush_items_cases con.fifoRetransmission (encodePdu P ctx data)) rfl
  have hsame := rescheduleHeartbeat_same (incrementSnT (redundancyMuxSend P
    (tick (setQueues con (fifoPopMany con.fifoSend n)
      (fifoPush con.fifoRetransmission (encodePdu P ctx data)).2 .none)) data))
  rw [newlySent_eq (hsame.sent.trans hsent)]
  exact ⟨hbatch.quiet hbytes, d', hd'.same hsame⟩

theorem stopIdleSending_same (con : Connection) : SameSender con (stopIdleSending con) := by
  unfold stopIdleSending
  split
  · exact ⟨rfl, rfl, rfl, rfl, rfl, rfl, rfl, rfl⟩
  · exact ⟨rfl, rfl, rfl, rfl, rfl, rfl, rfl, rfl⟩

theorem dataSendEvent_conveys (con : Connection) : Conveys P ctx con (dataSendEvent P con) [] := by
  have hqueued : Conveys P ctx con (sendQueued P con) [] := by
    unfold sendQueued
    split
    · refine sendBatch_conveys con ?_
      split <;> omega
    · exact SameSender.conveys ⟨rfl, rfl, rfl, rfl, rfl, rfl, rfl, rfl⟩
  exact hqueued.trans (stopIdleSending_same _).conveys

/-- Decoding the queued packets leaves no error. -/
theorem confirmedCount_snd {items : List Bytes}
    (hwhole : ∀ bytes ∈ items, 28 + ctx.checksumLen ≤ bytes.length) (csR : UInt32)
    (lasterror : RastaErrorType) :
    (confirmedCount P ctx csR items lasterror).2 = lasterror := by
  induction items with
  | nil => rfl
  | cons element rest ih =>
    have hfirst := bytesToRastaPacket_of_whole P (hwhole element List.mem_cons_self) lasterror
    simp only [confirmedCount, hfirst]
    split
    · rfl
    · exact ih fun bytes hbytes => hwhole bytes (List.mem_cons_of_mem element hbytes)

theorem forall_whole {items : List Bytes} {kept : List (ℕ × List Bytes)}
    (h : List.Forall₂ (Keeps P ctx) items kept) :
    ∀ bytes ∈ items, 28 + ctx.checksumLen ≤ bytes.length := by
  have hboth := h.imp fun _ _ hkeeps => And.intro hkeeps.whole hkeeps
  exact ((List.forall₂_and_left _ _).mp hboth).1

/-- The connection after `popConfirmed`, for a given number of packets. -/
theorem Sending.popped (h : Sending P ctx con d) :
    Sending P ctx (popConfirmed P con)
      { d with
        kept := d.kept.drop
          (confirmedCount P ctx con.csR con.fifoRetransmission.items .none).1 } := by
  have herror : (popConfirmed P con).lasterror = .none := by
    rw [popConfirmed_eq, h.hashingContext, h.lasterror]
    exact confirmedCount_snd (forall_whole h.kept) con.csR .none
  refine ⟨h.hashingContext, h.srHashingContext, herror, h.queue, ?_, h.next, h.fits⟩
  rw [popConfirmed_eq, h.hashingContext, h.lasterror]
  exact List.forall₂_drop _ h.kept

theorem Sending.popConfirmed (h : Sending P ctx con d) :
    Conveyed P ctx (popConfirmed P con) [] [] 0 d
      { d with
        kept := d.kept.drop
          (confirmedCount P ctx con.csR con.fifoRetransmission.items .none).1 } :=
  ⟨.single (.confirm d _), h.popped, ⟨[], by simp, .nil⟩, rfl, by simp, rfl, rfl, rfl, rfl,
    fun _ hbatch => .inl (List.mem_of_mem_drop hbatch)⟩

theorem newlySent_popConfirmed (con : Connection) : newlySent con (popConfirmed P con) = [] :=
  newlySent_eq (by simp [LibRasta.Retransmission.popConfirmed])

theorem popConfirmed_conveys (con : Connection) : Conveys P ctx con (popConfirmed P con) [] := by
  refine ⟨(popConfirmed_frame P con).sent, fun d _ h => ?_⟩
  rw [newlySent_popConfirmed]
  exact ⟨by simp [Quiet], _, h.popConfirmed⟩

theorem srRemoveConfirmedMessages_conveys (con : Connection) :
    Conveys P ctx con (srRemoveConfirmedMessages P con) [] := by
  unfold srRemoveConfirmedMessages
  split
  · exact (popConfirmed_conveys con).trans (dataSendEvent_conveys _)
  · exact popConfirmed_conveys con

end Data

section Control

variable {P : Platform} {ctx : RastaHashingContext}

theorem tick_same (con : Connection) : SameSender con (tick con) :=
  ⟨rfl, rfl, rfl, rfl, rfl, rfl, rfl, rfl⟩

theorem control_length {con : Connection} (type : RastaConnType) (header : PacketHeader)
    (h : con.srHashingContext = ctx) :
    28 + ctx.checksumLen ≤
      (initializePacket P type header 0 con.srHashingContext).length.toNat := by
  rw [h]
  exact initializePacket_length P type header (by decide) ctx

theorem sendHeartbeat_conveys (con : Connection) (rescheduleManually : Bool) :
    Conveys P ctx con (sendHeartbeat P con rescheduleManually) [] := by
  have hsent : Conveys P ctx con (incrementSnT (redundancyMuxSend P (tick con)
      (createHeartbeat P (nextHeader con) con.srHashingContext))) [] :=
    (tick_same con).conveys.trans
      (conveys_control rfl (control_length .hb (nextHeader con)) rfl nofun nofun)
  unfold sendHeartbeat
  cases rescheduleManually
  · exact hsent
  · exact hsent.trans (rescheduleHeartbeat_same _).conveys

theorem discReq_length {con : Connection} (header : PacketHeader) (payload : RastaDisconnectionData)
    (h : con.srHashingContext = ctx) :
    28 + ctx.checksumLen ≤
      (createDisconnectionRequest P header payload con.srHashingContext).length.toNat := by
  rw [h]
  exact initializePacket_length P .discReq header (by decide) ctx

theorem sendDisconnectionRequest_conveys (con : Connection) (reason : RastaDisconnectReason)
    (details : UInt16) : Conveys P ctx con (sendDisconnectionRequest P con reason details) [] := by
  have hsent : Conveys P ctx (tick con) (sendDisconnectionRequest P con reason details) [] :=
    conveys_final rfl (discReq_length (nextHeader con) _) rfl
  exact (tick_same con).conveys.trans hsent

theorem setState_same (con : Connection) (state : RastaSrState) :
    SameSender con (setState con state) :=
  ⟨rfl, rfl, rfl, rfl, rfl, rfl, rfl, rfl⟩

theorem srResetConnection_same (con : Connection) : SameSender con (srResetConnection con) :=
  ⟨rfl, rfl, rfl, rfl, rfl, rfl, rfl, rfl⟩

theorem srCloseConnection_conveys (con : Connection) (reason : RastaDisconnectReason)
    (details : UInt16) : Conveys P ctx con (srCloseConnection P con reason details) [] := by
  unfold srCloseConnection
  split
  · exact (srResetConnection_same con).conveys
  · exact ((srResetConnection_same con).conveys.trans
      (sendDisconnectionRequest_conveys _ reason details)).trans (setState_same _ _).conveys

theorem fifoPush_items_of_fst {α : Type} {fifo : Fifo α} {element : α}
    (h : (fifoPush fifo element).1 = true) :
    (fifoPush fifo element).2.items = fifo.items ++ [element] := by
  by_cases hfull : fifo.items.length = fifo.maxSize
  · rw [fifoPush_of_full hfull] at h
    cases h
  · exact (fifoPush_of_room (by have := fifo.size_le; omega) element).2

/-- One message is pushed to `fifo_send`. -/
theorem push_conveys (con : Connection) (message : Bytes)
    (hroom : (fifoPush con.fifoSend message).1 = true)
    (hfits : QueueFits ctx con.config.maxPacket.toNat (con.fifoSend.items ++ [message])) :
    Conveys P ctx con
      (enableSendEvent { con with fifoSend := (fifoPush con.fifoSend message).2 }) [message] := by
  have hitems := fifoPush_items_of_fst hroom
  refine ⟨List.prefix_rfl, fun d _ h => ?_⟩
  have hnone : newlySent con
      (enableSendEvent { con with fifoSend := (fifoPush con.fifoSend message).2 }) = [] :=
    newlySent_eq (by simp [enableSendEvent, tick])
  rw [hnone]
  refine ⟨by simp [Quiet], _, .single (.push d message), ?_, ⟨[], by simp, .nil⟩, rfl, rfl, rfl, rfl,
    rfl, rfl, fun _ hbatch => .inl hbatch⟩
  refine ⟨h.hashingContext, h.srHashingContext, h.lasterror, ?_, h.kept, h.next, ?_⟩
  · rw [← h.queue, ← hitems]
    rfl
  · rw [← hitems] at hfits
    exact hfits

theorem dataSendEvent_queue (con : Connection) :
    (dataSendEvent P con).fifoSend.items <:+ con.fifoSend.items := by
  have hqueued : (sendQueued P con).fifoSend.items <:+ con.fifoSend.items := by
    unfold sendQueued
    split
    · exact List.drop_suffix _ _
    · exact List.suffix_refl _
  have hsame : (dataSendEvent P con).fifoSend = (sendQueued P con).fifoSend :=
    (stopIdleSending_same _).fifoSend
  rw [hsame]
  exact hqueued

theorem sendMessages_conveys (messages : List Bytes) (con : Connection)
    (hfits : QueueFits ctx con.config.maxPacket.toNat (con.fifoSend.items ++ messages)) :
    Conveys P ctx con (sendMessages P messages con).1 (messagesPushed P messages con) := by
  induction messages generalizing con with
  | nil => exact SameSender.conveys ⟨rfl, rfl, rfl, rfl, rfl, rfl, rfl, rfl⟩
  | cons message rest ih =>
    unfold sendMessages messagesPushed
    generalize hflushed : (if fifoFull con.fifoSend then dataSendEvent P con else con) = flushed
    have hflush : Conveys P ctx con flushed [] ∧
        flushed.fifoSend.items <:+ con.fifoSend.items ∧ flushed.config = con.config := by
      rw [← hflushed]
      split
      · exact ⟨dataSendEvent_conveys con, dataSendEvent_queue con, (dataSendEvent_frame P con).config⟩
      · exact ⟨SameSender.conveys ⟨rfl, rfl, rfl, rfl, rfl, rfl, rfl, rfl⟩, List.suffix_refl _, rfl⟩
    obtain ⟨hconveys, hqueue, hconfig⟩ := hflush
    simp only
    split
    swap
    · exact hconveys
    rename_i hroom
    have hall : QueueFits ctx flushed.config.maxPacket.toNat
        (flushed.fifoSend.items ++ [message] ++ rest) := by
      rw [hconfig, List.append_assoc, List.singleton_append]
      obtain ⟨before, hbefore⟩ := hqueue
      refine hfits.suffix ⟨before, ?_⟩
      rw [← hbefore, List.append_assoc]
    have hpush := @push_conveys P ctx flushed message hroom hall.front
    have hitems := fifoPush_items_of_fst hroom
    have hrest := ih (enableSendEvent
      { flushed with fifoSend := (fifoPush flushed.fifoSend message).2 }) (by
        rw [← hitems] at hall
        exact hall)
    exact (hconveys.trans hpush).trans hrest

end Control

section Answer

variable {P : Platform} {ctx : RastaHashingContext} {con : Connection} {d : Direction Bytes}

/-- The batches were sent again under numbers from `first` on and queued again. -/
structure Resent (P : Platform) (ctx : RastaHashingContext) (con after : Connection) (first : ℕ)
    (batches : List (ℕ × List Bytes)) : Prop where
  hashingContext : after.hashingContext = con.hashingContext
  srHashingContext : after.srHashingContext = con.srHashingContext
  fifoSend : after.fifoSend = con.fifoSend
  config : after.config = con.config
  lasterror : after.lasterror = .none
  snT : after.snT = UInt32.ofNat (first + batches.length)
  capacity : after.fifoRetransmission.maxSize = con.fifoRetransmission.maxSize
  out : ∃ out, after.sent = con.sent ++ out ∧
    List.Forall₂ (Carries P ctx) (out.map SentPdu.innerBytes) (copies first batches) ∧
    Quiet P ctx out ∧ numbersUsed out = batches.length
  kept : ∃ items, after.fifoRetransmission.items = con.fifoRetransmission.items ++ items ∧
    List.Forall₂ (Keeps P ctx) items (Renumbering.batches (copies first batches))

/-- What one kept element leads to: a RetrData PDU with its messages goes out under the next number
and is kept in its place. -/
structure Retransmitted (P : Platform) (con after : Connection) (data : RastaPacket)
    (pdu : SentPdu) : Prop where
  sent : after.sent = con.sent ++ [pdu]
  packet : pdu.packet = data
  innerBytes : pdu.innerBytes = encodePdu P con.hashingContext data
  kept : after.fifoRetransmission.items = con.fifoRetransmission.items ++ [pdu.innerBytes]
  capacity : after.fifoRetransmission.maxSize = con.fifoRetransmission.maxSize
  lasterror : after.lasterror = .none
  snT : after.snT = con.snT + 1
  fifoSend : after.fifoSend = con.fifoSend

theorem retransmitPacket_spec {element : Bytes} {messages : List Bytes}
    (hwhole : 28 + con.hashingContext.checksumLen ≤ element.length)
    (hmessages : extractMessageData P (decodePdu P con.hashingContext element) = messages)
    (hfits : MessagesFit con.hashingContext messages) (herror : con.lasterror = .none)
    (hroom : con.fifoRetransmission.items.length < con.fifoRetransmission.maxSize) :
    ∃ pdu, Retransmitted P con (retransmitPacket P con element)
      (createRetransmittedDataMessage P (nextHeader con) messages con.hashingContext) pdu := by
  have hlength := (@createRetransmittedDataMessage_isBatch P con.hashingContext (nextHeader con) _
    hfits).length
  rw [retransmitPacket_eq]
  simp only
  rw [herror, bytesToRastaPacket_of_whole P hwhole, hmessages]
  simp only
  rw [rastaModuleToBytes_none P hlength]
  generalize createRetransmittedDataMessage P (nextHeader con) messages con.hashingContext = data
    at hlength ⊢
  obtain ⟨hnone, pdu, hsent, hpacket, hbytes⟩ := @redundancyMuxSend_spec P con.hashingContext
    (tick (setQueues con con.fifoSend
      (fifoPush con.fifoRetransmission (encodePdu P con.hashingContext data)).2 .none)) data rfl rfl
    hlength
  refine ⟨pdu, hsent, hpacket, hbytes, ?_, fifoPush_maxSize _ _, hnone, rfl, rfl⟩
  rw [hbytes]
  exact (fifoPush_of_room hroom _).2

theorem retransmitPacket_resent {element : Bytes} {batch : ℕ × List Bytes} {first : ℕ}
    (hkeeps : Keeps P ctx element batch) (hctx : con.hashingContext = ctx)
    (herror : con.lasterror = .none) (hnumber : con.snT = UInt32.ofNat first)
    (hroom : con.fifoRetransmission.items.length < con.fifoRetransmission.maxSize) :
    Resent P ctx con (retransmitPacket P con element) first [batch] := by
  subst hctx
  have hbatch := @createRetransmittedDataMessage_isBatch P con.hashingContext (nextHeader con) _
    hkeeps.fits
  have hsequence : (createRetransmittedDataMessage P (nextHeader con) batch.2
      con.hashingContext).sequenceNumber = UInt32.ofNat first := hnumber
  have hframe := retransmitPacket_frame P con element
  obtain ⟨pdu, hpdu⟩ := retransmitPacket_spec hkeeps.whole hkeeps.messages hkeeps.fits herror hroom
  refine ⟨hframe.hashingContext, hframe.srHashingContext, hpdu.fifoSend, hframe.config,
    hpdu.lasterror, ?_, hpdu.capacity, ⟨[pdu], hpdu.sent, ?_, ?_, ?_⟩, ⟨_, hpdu.kept, ?_⟩⟩
  · have hnext : con.snT + 1 = UInt32.ofNat (first + 1) := by rw [ofNat_succ, hnumber]
    exact hpdu.snT.trans hnext
  · refine .cons ?_ .nil
    rw [hpdu.innerBytes]
    exact hbatch.carries hsequence
  · exact hbatch.quiet hpdu.innerBytes
  · exact hbatch.numbersUsed hpdu.packet
  · rw [hpdu.innerBytes]
    exact .cons (hbatch.keeps hsequence) .nil

theorem Resent.cons {a b c : Connection} {first : ℕ} {batch : ℕ × List Bytes}
    {batches : List (ℕ × List Bytes)} (hab : Resent P ctx a b first [batch])
    (hbc : Resent P ctx b c (first + 1) batches) : Resent P ctx a c first (batch :: batches) := by
  obtain ⟨out, hout, hcarries, hquiet, hused⟩ := hab.out
  obtain ⟨more, hmore, hcarries', hquiet', hused'⟩ := hbc.out
  obtain ⟨items, hitems, hkeeps⟩ := hab.kept
  obtain ⟨items', hitems', hkeeps'⟩ := hbc.kept
  refine ⟨hbc.hashingContext.trans hab.hashingContext,
    hbc.srHashingContext.trans hab.srHashingContext, hbc.fifoSend.trans hab.fifoSend,
    hbc.config.trans hab.config, hbc.lasterror, ?_, hbc.capacity.trans hab.capacity,
    ⟨out ++ more, ?_, ?_, hquiet.append hquiet', ?_⟩, ⟨items ++ items', ?_, ?_⟩⟩
  · rw [hbc.snT, List.length_cons]
    congr 1
    omega
  · rw [hmore, hout, List.append_assoc]
  · rw [List.map_append]
    exact List.rel_append hcarries hcarries'
  · rw [numbersUsed_append, hused, hused', List.length_singleton, List.length_cons, Nat.add_comm]
  · rw [hitems', hitems, List.append_assoc]
  · exact List.rel_append hkeeps hkeeps'

theorem retransmitPackets_resent {elements : List Bytes} {batches : List (ℕ × List Bytes)}
    (hkeeps : List.Forall₂ (Keeps P ctx) elements batches) (con : Connection) {first : ℕ}
    (hctx : con.hashingContext = ctx) (herror : con.lasterror = .none)
    (hnumber : con.snT = UInt32.ofNat first)
    (hroom : con.fifoRetransmission.items.length + elements.length ≤
      con.fifoRetransmission.maxSize) :
    Resent P ctx con (elements.foldl (retransmitPacket P) con) first batches := by
  induction hkeeps generalizing con first with
  | nil =>
    exact ⟨rfl, rfl, rfl, rfl, herror, hnumber, rfl, ⟨[], by simp, .nil, by simp [Quiet], rfl⟩,
      ⟨[], by simp, .nil⟩⟩
  | @cons element batch elements batches hkeeps _ ih =>
    rw [List.length_cons] at hroom
    have hfirst := @retransmitPacket_resent P ctx con element batch first hkeeps hctx herror hnumber
      (by omega)
    obtain ⟨items, hitems, hone⟩ := hfirst.kept
    have hlength : items.length = 1 := hone.length_eq
    refine hfirst.cons (ih _ (hfirst.hashingContext.trans hctx) hfirst.lasterror hfirst.snT ?_)
    rw [hitems, hfirst.capacity, List.length_append, hlength]
    omega

/-- The retransmission response and the packets after it, up to the closing heartbeat. -/
theorem respond_conveyed (h : Sending P ctx con d) {last : ℕ}
    (hrequest : d.requests.head? = some last) (hkept : ∀ batch ∈ d.kept, last < batch.1) :
    let answering := sendRetransmissionResponse P con
    let after := con.fifoRetransmission.items.foldl (retransmitPacket P)
      (setQueues answering answering.fifoSend
        (fifoPopMany answering.fifoRetransmission con.fifoRetransmission.items.length)
        answering.lasterror)
    ∃ out, after.sent = con.sent ++ out ∧ Quiet P ctx out ∧
      Conveyed P ctx after out [] 1 d d.respond := by
  intro answering after
  have hanswering : SendFrame con answering := sendRetransmissionResponse_frame P con
  have hlength := @control_length P ctx con .retrResp (nextHeader con) h.srHashingContext
  obtain ⟨herror, pdu, hsent, hpacket, hbytes⟩ := @redundancyMuxSend_spec P ctx (tick con)
    (createRetransmissionResponse P (nextHeader con) con.srHashingContext) h.hashingContext
    h.lasterror hlength
  have hitems : (fifoPopMany answering.fifoRetransmission
      con.fifoRetransmission.items.length).items = [] := List.drop_length
  have hnext : con.snT + 1 = UInt32.ofNat (d.next + 1) := by rw [ofNat_succ, h.next]
  have hresent := @retransmitPackets_resent P ctx _ _ h.kept
    (setQueues answering answering.fifoSend
      (fifoPopMany answering.fifoRetransmission con.fifoRetransmission.items.length)
      answering.lasterror) (d.next + 1) (hanswering.hashingContext.trans h.hashingContext) herror
    hnext (by
        have hsize := con.fifoRetransmission.size_le
        have hmax : (fifoPopMany answering.fifoRetransmission
          con.fifoRetransmission.items.length).maxSize = con.fifoRetransmission.maxSize := rfl
        simp only [setQueues, hitems, hmax, List.length_nil]
        omega)
  obtain ⟨out, hout, hcarries, hquiet, hused⟩ := hresent.out
  obtain ⟨items, hqueued, hkeeps⟩ := hresent.kept
  have hresponse := @carries_control P ctx
    (createRetransmissionResponse P (nextHeader con) con.srHashingContext) hlength d.next h.next nofun
  have hfirst : Quiet P ctx [pdu] := quiet_singleton hbytes hlength nofun nofun
  refine ⟨pdu :: out, ?_, hfirst.append hquiet, .single (.respond d last hrequest hkept), ?_, ?_, ?_,
    by simp [Direction.respond], rfl, rfl, rfl, ?_, ?_⟩
  · rw [hout]
    have hleads : answering.sent = con.sent ++ [pdu] := hsent
    simp only [setQueues, hleads, List.append_assoc, List.singleton_append]
  · refine ⟨hresent.hashingContext.trans (hanswering.hashingContext.trans h.hashingContext),
      hresent.srHashingContext.trans (hanswering.srHashingContext.trans h.srHashingContext),
      hresent.lasterror, ?_, ?_, hresent.snT, ?_⟩
    · rw [hresent.fifoSend]
      exact h.queue
    · rw [hqueued, setQueues, hitems]
      exact hkeeps
    · rw [hresent.fifoSend, hresent.config]
      exact h.fits
  · refine ⟨_, rfl, .cons ?_ hcarries⟩
    rw [hbytes]
    exact hresponse
  · have hone : numbersUsed [pdu] = 1 := by
      simp [numbersUsed, hpacket, createRetransmissionResponse, initializePacket]
    rw [← List.singleton_append, numbersUsed_append, hone, hused]
    simp only [Direction.respond]
    omega
  · simp [Direction.respond]
  · intro batch hbatch
    obtain ⟨copy, hcopy, -, rfl⟩ := mem_batches hbatch
    have hle := (mem_copies hcopy).2.1
    exact .inr (by simp only; omega)

theorem ofNat_inj {m n : ℕ} (hm : m < 2 ^ 32) (hn : n < 2 ^ 32)
    (h : UInt32.ofNat m = UInt32.ofNat n) : m = n := by
  have hnat := congrArg UInt32.toNat h
  rwa [UInt32.toNat_ofNat', UInt32.toNat_ofNat', Nat.mod_eq_of_lt hm, Nat.mod_eq_of_lt hn] at hnat

/-- The batches left after the confirmed ones were removed lie above the confirmed number. -/
theorem confirmedCount_above {items : List Bytes} {kept : List (ℕ × List Bytes)}
    (h : List.Forall₂ (Keeps P ctx) items kept) (hsorted : kept.Pairwise fun a b => a.1 < b.1)
    (hrange : ∀ batch ∈ kept, batch.1 < 2 ^ 32) {last : ℕ} (hlast : last < 2 ^ 32) :
    ∀ batch ∈ kept.drop (confirmedCount P ctx (UInt32.ofNat last) items .none).1,
      last < batch.1 := by
  induction h with
  | nil => simp
  | @cons element batch items kept hkeeps _ ih =>
    obtain ⟨hbehind, hsorted⟩ := List.pairwise_cons.mp hsorted
    simp only [confirmedCount, bytesToRastaPacket_of_whole P hkeeps.whole]
    split
    · rename_i hfound
      rw [hkeeps.number] at hfound
      have hsame := ofNat_inj (hrange batch List.mem_cons_self) hlast hfound
      intro later hlater
      rw [← hsame]
      exact hbehind later hlater
    · exact ih hsorted fun later hlater => hrange later (List.mem_cons_of_mem _ hlater)

/-- What is left for retransmission once the confirmed packets are removed lies above the
confirmed number. -/
theorem srRemoveConfirmedMessages_above (hinv : Renumbering.Inv d) (h : Sending P ctx con d)
    (hrange : d.next ≤ 2 ^ 32) {last : ℕ} (hrequest : d.requests.head? = some last)
    (hcsR : con.csR = UInt32.ofNat last) :
    Quiet P ctx (newlySent con (srRemoveConfirmedMessages P con)) ∧
      ∃ d', Conveyed P ctx (srRemoveConfirmedMessages P con)
          (newlySent con (srRemoveConfirmedMessages P con)) [] 0 d d' ∧
        ∀ batch ∈ d'.kept, last < batch.1 := by
  obtain ⟨hexpected, hnext, -⟩ := hinv.frozen last (List.mem_of_mem_head? hrequest)
  have hlast : last < 2 ^ 32 := by omega
  have habove := confirmedCount_above h.kept hinv.kept_pairwise
    (fun batch hbatch => Nat.lt_of_lt_of_le (hinv.kept_below hbatch) hrange) hlast
  rw [← hcsR] at habove
  have hpopped := h.popConfirmed
  unfold srRemoveConfirmedMessages
  split
  · obtain ⟨hquiet, d', hd'⟩ := (dataSendEvent_conveys (popConfirmed P con)).2 _
      (hinv.moves hpopped.moves) hpopped.sending
    rw [newlySent_append (popConfirmed_frame P con).sent
      (dataSendEvent_frame P (popConfirmed P con)).sent, newlySent_popConfirmed]
    refine ⟨hquiet, d', hpopped.trans hd', fun batch hbatch => ?_⟩
    rcases hd'.kept batch hbatch with hold | hnew
    · exact habove batch hold
    · have hnew : d.next ≤ batch.1 := hnew
      omega
  · rw [newlySent_popConfirmed]
    exact ⟨by simp [Quiet], _, hpopped, habove⟩

/-- The response, the retransmitted packets and the closing heartbeat. -/
theorem retransmission_conveyed (hinv : Renumbering.Inv d) (h : Sending P ctx con d) {last : ℕ}
    (hrequest : d.requests.head? = some last) (hkept : ∀ batch ∈ d.kept, last < batch.1) :
    ∃ out, (srRetransmitData P (sendRetransmissionResponse P con)).sent = con.sent ++ out ∧
      Quiet P ctx out ∧
      ∃ d', Conveyed P ctx (srRetransmitData P (sendRetransmissionResponse P con)) out [] 1 d d' := by
  obtain ⟨out, hout, hquiet, hd'⟩ := respond_conveyed h hrequest hkept
  have hitems : (sendRetransmissionResponse P con).fifoRetransmission = con.fifoRetransmission := rfl
  rw [srRetransmitData_eq, hitems]
  rw [hitems] at hout hd'
  generalize con.fifoRetransmission.items.foldl (retransmitPacket P) _ = resent at hout hd' ⊢
  obtain ⟨hleads, hheartbeat⟩ := @sendHeartbeat_conveys P ctx resent true
  obtain ⟨hquiet', d'', hd''⟩ := hheartbeat _ (hinv.moves hd'.moves) hd'.sending
  refine ⟨out ++ newlySent resent (sendHeartbeat P resent true), ?_, hquiet.append hquiet', d'',
    hd'.trans hd''⟩
  obtain ⟨last, hlast⟩ := hleads
  rw [← hlast, newlySent_eq hlast.symm, hout, List.append_assoc]

/-- A retransmission request is answered. -/
theorem answerRetrreq_conveyed (hinv : Renumbering.Inv d) (h : Sending P ctx con d)
    (hrange : d.next ≤ 2 ^ 32) {last : ℕ} (hrequest : d.requests.head? = some last)
    (hcsR : con.csR = UInt32.ofNat last) :
    con.sent <+: (answerRetrreq P con).sent ∧
      Quiet P ctx (newlySent con (answerRetrreq P con)) ∧
      ∃ d', Conveyed P ctx (answerRetrreq P con) (newlySent con (answerRetrreq P con)) [] 1 d d' := by
  obtain ⟨hquiet, d', hd', habove⟩ := srRemoveConfirmedMessages_above hinv h hrange hrequest hcsR
  have hremoved := (srRemoveConfirmedMessages_frame P con).sent
  unfold answerRetrreq
  generalize srRemoveConfirmedMessages P con = removed at hquiet hd' hremoved ⊢
  have hpending : d'.requests.head? = some last := by
    rw [hd'.requests, List.drop_zero, hrequest]
  obtain ⟨out, hout, hquiet', d'', hd''⟩ :=
    retransmission_conveyed (hinv.moves hd'.moves) hd'.sending hpending habove
  have hleads : removed.sent <+: (srRetransmitData P (sendRetransmissionResponse P removed)).sent :=
    hout ▸ List.prefix_append _ _
  rw [newlySent_append hremoved hleads, newlySent_eq hout]
  exact ⟨hremoved.trans hleads, hquiet.append hquiet', d'', hd'.trans hd''⟩

end Answer

end LibRasta.Retransmission
