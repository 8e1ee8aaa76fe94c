/-
Module: LibRasta/Redundancy/SafetyCode.lean
source: src/c/redundancy/rastaredundancy.c, src/c/redundancy/rasta_red_multiplexer.c, src/c/util/rastamodule.c
digest: Every packet handed to the upper layer stems from a received PDU, and the verdict on the safety code of that PDU survives the second encoding only when the code was correct.
-/

import LibRasta.Redundancy.Framing
import LibRasta.Retransmission.ReceiveQueue

set_option autoImplicit false
set_option relaxedAutoImplicit false

namespace LibRasta.Redundancy

open LibRasta.Util
open LibRasta.Factory
open LibRasta.Retransmission

namespace Reception

variable (P : Platform) (reception : Reception)

/-- The bytes of the inner packet. -/
def inner : Bytes :=
  readBytes P reception.buffer 8 (innerLength (reception.size P) reception.con.config.crcType)

/-- The received safety code is the hash of the received header and data. -/
def CodeMatches : Prop :=
  let ctx := reception.con.srHashingContext
  let length := leShortToHost P (reception.inner P) 0
  28 + ctx.checksumLen ≤ (reception.inner P).length ∧
    (P.calculateHash ctx (readBytes P (reception.inner P) 0 (hashedLength length ctx))).take
        ctx.checksumLen =
      readBytes P (reception.inner P) (28 + (length.toNat - 28 - ctx.checksumLen))
        ctx.checksumLen

instance : Decidable (reception.CodeMatches P) :=
  inferInstanceAs (Decidable (_ ∧ _))

theorem packet_data :
    (reception.packet P).data =
      (bytesToRastaPacket P reception.con.lasterror (reception.inner P)
        reception.con.srHashingContext (P.uninitRedundancyPacket reception.buffer).data).1 := by
  unfold packet handleReceivedData bytesToRastaRedundancyPacket
  exact redundancyPacketOf_data P _ _ _ _

theorem codeMatches_iff :
    reception.CodeMatches P ↔ (reception.packet P).data.checksumCorrect = true := by
  rw [packet_data]
  unfold CodeMatches
  generalize reception.inner P = inner
  unfold bytesToRastaPacket
  split
  · rename_i hrunt
    simp only [Bool.false_eq_true, iff_false]
    rintro ⟨hlong, -⟩
    omega
  · rename_i hlong
    simp only [decide_eq_true_eq]
    exact ⟨fun h => h.2, fun h => ⟨by omega, h⟩⟩

end Reception

/-- The reception is one of a PDU in one of the reads. -/
def FromRead (reads : List Read) (reception : Reception) : Prop :=
  ∃ read ∈ reads, ∃ offset, reception.buffer = read.buffer.drop offset

section Verdict

variable (P : Platform)

/-- An array of zeros, as the encoder returns it while an error is set, passes for a packet with
a correct safety code. -/
def ZeroPacketPasses (ctx : RastaHashingContext) (length : ℕ) : Prop :=
  (P.calculateHash ctx (readBytes P (allocateRastaByteArray length) 0
    (hashedLength 0 ctx))).take ctx.checksumLen = List.replicate ctx.checksumLen 0

/-- `sr_receive` gets the verdict on the received safety code, and appends no message of a PDU
with a wrong one to the receive queue. -/
def VerdictKept (reception : Reception) (handover : Handover) : Prop :=
  (handover.packet.checksumCorrect = true ↔ reception.CodeMatches P) ∧
    (¬ reception.CodeMatches P →
      (srReceive P handover.con handover.packet).1.fifoReceive = handover.con.fifoReceive)

/-- Encoding a packet with this length field a second time does no harm to the verdict: the
field covers header and safety code, the encoder works, and the received code was correct; or
the outcome is the same by chance. -/
def RecodingHarmless (ctx : RastaHashingContext) (lasterror : RastaErrorType) (length : ℕ)
    (codeMatches : Prop) : Prop :=
  if length < 28 + ctx.checksumLen then ¬ codeMatches
  else if lasterror = .none then codeMatches
  else (ZeroPacketPasses P ctx length ↔ codeMatches)

variable {con : Connection} {queuePacket : RastaRedundancyPacket}

theorem deliverMessage_of_short
    (h : queuePacket.data.length.toNat < 28 + con.hashingContext.checksumLen) :
    (deliverMessage P con queuePacket).1.checksumCorrect = false := by
  have hbytes : (rastaModuleToBytes P con.lasterror queuePacket.data con.hashingContext).1 =
      allocateRastaByteArray queuePacket.data.length.toNat := by
    simp [rastaModuleToBytes, allocateBytesError, h]
  simp [deliverMessage, hbytes, bytesToRastaPacket, allocateRastaByteArray, h]

theorem deliverMessage_of_clear (herror : con.lasterror = .none)
    (h : 28 + con.hashingContext.checksumLen ≤ queuePacket.data.length.toNat) :
    deliverMessage P con queuePacket =
      (reencoded P queuePacket.data con.hashingContext, .none) := by
  have hsecond : (rastaModuleToBytes P .none queuePacket.data con.hashingContext).2 = .none :=
    congrArg Prod.snd (rastaModuleToBytes_of_fits P h)
  unfold deliverMessage
  simp only
  rw [herror, hsecond, bytesToRastaPacket_toBytes P h]

theorem leShortToHost_zeros {n : ℕ} (h : 2 ≤ n) :
    leShortToHost P (allocateRastaByteArray n) 0 = 0 := by
  have hzero : ∀ i, i < n → byteAt P (allocateRastaByteArray n) i = 0 := by
    intro i hi
    simp [byteAt, allocateRastaByteArray, hi]
  rw [leShortToHost, hzero 0 (by omega), hzero 1 (by omega)]
  rfl

theorem readBytes_zeros {offset m n : ℕ} (h : offset + m ≤ n) :
    readBytes P (allocateRastaByteArray n) offset m = List.replicate m 0 := by
  rw [readBytes_eq_take_drop P _ _ _ (by simpa [allocateRastaByteArray] using h)]
  simp only [allocateRastaByteArray, List.drop_replicate, List.take_replicate]
  congr 1
  omega

theorem deliverMessage_of_error (herror : con.lasterror ≠ .none)
    (h : 28 + con.hashingContext.checksumLen ≤ queuePacket.data.length.toNat) :
    (deliverMessage P con queuePacket).2 = con.lasterror ∧
      ((deliverMessage P con queuePacket).1.checksumCorrect = true ↔
        ZeroPacketPasses P con.hashingContext queuePacket.data.length.toNat) := by
  have hnot : ¬ queuePacket.data.length.toNat < 28 + con.hashingContext.checksumLen := by omega
  have hbytes : rastaModuleToBytes P con.lasterror queuePacket.data con.hashingContext =
      (allocateRastaByteArray queuePacket.data.length.toNat, con.lasterror) := by
    simp [rastaModuleToBytes, allocateBytesError, hnot, herror]
  have hlen : (allocateRastaByteArray queuePacket.data.length.toNat).length =
      queuePacket.data.length.toNat := by
    simp [allocateRastaByteArray]
  have hcode : readBytes P (allocateRastaByteArray queuePacket.data.length.toNat)
      (28 + ((0 : UInt16).toNat - 28 - con.hashingContext.checksumLen))
      con.hashingContext.checksumLen = List.replicate con.hashingContext.checksumLen 0 :=
    readBytes_zeros P (by simpa using h)
  unfold deliverMessage
  simp only [hbytes, bytesToRastaPacket, hlen, if_neg hnot,
    leShortToHost_zeros P (by omega : 2 ≤ queuePacket.data.length.toNat), hcode,
    decide_eq_true_eq]
  exact ⟨trivial, Iff.rfl⟩

/-- A packet with a wrong safety code appends nothing to the receive queue, whatever else it
does. -/
theorem srReceive_fifoReceive_of_incorrect {packet : RastaPacket}
    (h : packet.checksumCorrect = false) :
    (srReceive P con packet).1.fifoReceive = con.fifoReceive := by
  apply srReceive_fifoReceive_of_not_accepted
  rintro ⟨hreach, -⟩
  exact absurd (h.symm.trans hreach.1) Bool.false_ne_true

theorem verdictKept_iff_bit (reception : Reception) (handover : Handover) :
    VerdictKept P reception handover ↔
      (handover.packet.checksumCorrect = true ↔ reception.CodeMatches P) := by
  constructor
  · exact fun h => h.1
  · intro hverdict
    refine ⟨hverdict, fun hwrong => srReceive_fifoReceive_of_incorrect P ?_⟩
    cases hbit : handover.packet.checksumCorrect with
    | false => rfl
    | true => exact absurd (hverdict.mp hbit) hwrong

theorem deliverMessage_verdict_iff (con : Connection) (queuePacket : RastaRedundancyPacket)
    (codeMatches : Prop) :
    ((deliverMessage P con queuePacket).1.checksumCorrect = true ↔ codeMatches) ↔
      RecodingHarmless P con.hashingContext (deliverMessage P con queuePacket).2
        queuePacket.data.length.toNat codeMatches := by
  unfold RecodingHarmless
  by_cases hshort : queuePacket.data.length.toNat < 28 + con.hashingContext.checksumLen
  · rw [if_pos hshort, deliverMessage_of_short P hshort]
    simp
  have hfits := Nat.le_of_not_lt hshort
  rw [if_neg hshort]
  by_cases herror : con.lasterror = .none
  · rw [deliverMessage_of_clear P herror hfits, if_pos rfl]
    simp [reencoded]
  · obtain ⟨hkept, hzero⟩ := deliverMessage_of_error P herror hfits
    rw [hkept, if_neg herror, hzero]

end Verdict

section Runs

variable (P : Platform) {reads : List Read}

/-- The queue element stems from a PDU in one of the reads. -/
def Stems (reads : List Read) (packet : RastaRedundancyPacket) : Prop :=
  ∃ reception, FromRead reads reception ∧ packet = reception.packet P

/-- The handover passed on an element that stems from a read, encoded and decoded once more. -/
def HandedFrom (reads : List Read) (handover : Handover) : Prop :=
  Stems P reads handover.queuePacket ∧
    ∃ con message, deliverMessage P con handover.queuePacket = message ∧
      handover = handoverOf con handover.queuePacket message

/-- All that is queued or was handed over since `old` stems from the reads. -/
def Provenance (reads : List Read) (old : List Handover) (endpoint : Endpoint) : Prop :=
  (∀ element ∈ endpoint.channel.deferQ.live, Stems P reads element.packet) ∧
    ∃ handed, endpoint.channel.delivered = old ++ handed ∧
      ∀ handover ∈ handed, HandedFrom P reads handover

variable {old : List Handover} {endpoint after : Endpoint}

theorem Provenance.of_eq (h : Provenance P reads old endpoint)
    (hqueue : after.channel.deferQ = endpoint.channel.deferQ)
    (hdelivered : after.channel.delivered = endpoint.channel.delivered) :
    Provenance P reads old after := by
  unfold Provenance
  rw [hqueue, hdelivered]
  exact h

theorem receivePdu_provenance {read : Read} (hread : read ∈ reads) (offset : ℕ)
    (h : Provenance P reads old endpoint) :
    Provenance P reads old
      (receivePdu P endpoint read.channelId (read.buffer.drop offset)).1 := by
  obtain ⟨lasterror, hdispatched⟩ :=
    receivePdu_dispatched P endpoint read.channelId (read.buffer.drop offset)
  have hfrom : FromRead reads { con := endpoint.con, buffer := read.buffer.drop offset } :=
    ⟨read, hread, offset, rfl⟩
  refine ⟨?_, ?_⟩
  · intro element hmem
    rcases hdispatched.live P hmem with hold | hnew
    · exact h.1 element hold
    · exact ⟨_, hfrom, hnew⟩
  · obtain ⟨handed, hdelivered, hhanded⟩ := h.2
    exact ⟨handed, (hdispatched.frame P).delivered.trans hdelivered, hhanded⟩

theorem handOver_provenance {element : RastaRedundancyPacketWrapper}
    (h : Provenance P reads old endpoint) (hmem : element ∈ endpoint.channel.deferQ.live) :
    Provenance P reads old (handOver P endpoint element.packet).1 := by
  obtain ⟨hlive, handed, hdelivered, hall⟩ := h
  unfold handOver
  generalize hmessage : deliverMessage P endpoint.con element.packet = message
  have hlogged : (passOn P endpoint element.packet message).1.channel.delivered =
      endpoint.channel.delivered ++ [handoverOf endpoint.con element.packet message] := rfl
  refine ⟨hlive, handed ++ [handoverOf endpoint.con element.packet message], ?_, ?_⟩
  · rw [hlogged, hdelivered, List.append_assoc]
  · intro handover hin
    rcases List.mem_append.mp hin with hin | hin
    · exact hall handover hin
    · rw [List.mem_singleton.mp hin]
      exact ⟨hlive element hmem, endpoint.con, message, hmessage, rfl⟩

theorem receiveLoop_provenance {read : Read} (hread : read ∈ reads) (rounds lenRemaining : ℕ)
    (offset : ℕ) (endpoint : Endpoint) (result : Bool) {returned : Endpoint × Bool}
    (h : Provenance P reads old endpoint)
    (hloop : receiveLoop P read.channelId rounds lenRemaining (read.buffer.drop offset) endpoint
      result = some returned) : Provenance P reads old returned.1 := by
  refine @receiveLoop_rule P (fun after _ => Provenance P reads old after) read.buffer
    read.channelId ?_ rounds lenRemaining offset endpoint result returned h hloop
  intro middle _ place hmiddle
  exact receivePdu_provenance P hread place hmiddle

theorem deliverAfter_provenance (received : Endpoint × Bool)
    (h : Provenance P reads old received.1) :
    Provenance P reads old (deliverAfter P received) := by
  unfold deliverAfter
  split
  · refine deliverLoop_rule P (fun _ h => h) ?_ _ received.1 false h
    intro endpoint element hinv hmem hseq
    have hstep := handOver_provenance P hinv hmem
    refine ⟨fun _ => hstep, fun _ => ⟨?_, hstep.2⟩⟩
    intro other hother
    -- removal only takes elements out
    have hcontains : deferqueueContains endpoint.channel.deferQ endpoint.channel.seqRx = true :=
      (deferqueueContains_iff _ _).mpr ⟨element, hmem, hseq⟩
    obtain ⟨removed, -, hperm⟩ := deferqueueRemove_live P hcontains
    exact hstep.1 other (hperm.mem_iff.mpr (List.mem_cons_of_mem removed hother))
  · exact h

theorem channelReceiveEvent_provenance {read : Read} (hread : read ∈ reads) (rounds : ℕ)
    (h : Provenance P reads old endpoint)
    (hevent : channelReceiveEvent P rounds endpoint read = some after) :
    Provenance P reads old after := by
  unfold channelReceiveEvent at hevent
  split at hevent
  · obtain rfl := Option.some.inj hevent
    exact h
  · obtain ⟨received, hreceived, rfl⟩ := Option.map_eq_some_iff.mp hevent
    obtain ⟨hframe, hqueue⟩ := runChannelDiagnostics_frame endpoint read.channelId
    have hstart := h.of_eq P hqueue hframe.delivered
    exact deliverAfter_provenance P received
      (receiveLoop_provenance P hread rounds _ 0 _ false hstart hreceived)

theorem receiveEvents_provenance (rounds : ℕ) (events : List Read)
    (hevents : ∀ read ∈ events, read ∈ reads) (endpoint : Endpoint)
    (h : Provenance P reads old endpoint)
    (hrun : receiveEvents P rounds endpoint events = some after) :
    Provenance P reads old after := by
  induction events generalizing endpoint with
  | nil =>
    obtain rfl := Option.some.inj hrun
    exact h
  | cons read rest ih =>
    simp only [receiveEvents, List.foldlM_cons, Option.bind_eq_bind,
      Option.bind_eq_some_iff] at hrun
    obtain ⟨middle, hmiddle, hrest⟩ := hrun
    exact ih (fun r hr => hevents r (List.mem_cons_of_mem read hr)) middle
      (channelReceiveEvent_provenance P (hevents read List.mem_cons_self) rounds h hmiddle) hrest

end Runs

/-- The established example connection with an empty redundancy channel of one transport. -/
def exampleEndpoint : Endpoint where
  con := exampleRunning
  channel := redundancyChannelAlloc exampleConfig
    (fun _ => { packet := zeroRedundancyPacket, receivedTimestamp := 0 }) 1

/-- The example data packet with a safety code of eight bytes 0xFF, in the first PDU of the
redundancy layer. -/
def exampleForgedRead : Read where
  channelId := 0
  buffer := hostShortToLe 48 ++ hostShortToLe 0 ++ hostLongToLe 0 ++
    packFields { exampleData with length := 40 } ++ exampleData.data ++ List.replicate 8 0xFF
  length_lt := by decide +kernel

end LibRasta.Redundancy
