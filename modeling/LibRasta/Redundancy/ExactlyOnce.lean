/-
Module: LibRasta/Redundancy/ExactlyOnce.lean
source: src/c/redundancy/rastaredundancy.c, src/c/redundancy/rasta_red_multiplexer.c, src/c/transport/events.c
digest: From any copies of a peer's PDUs, in any order and grouping, the channel hands over the packets from the first on, each once and in the order in which they were sent.
-/

import LibRasta.Redundancy.Progress
import LibRasta.Redundancy.SafetyCode
import LibRasta.Redundancy.Transmission
import LibRasta.Retransmission.Idle

set_option autoImplicit false
set_option relaxedAutoImplicit false

namespace LibRasta.Redundancy

open LibRasta.Util
open LibRasta.Factory
open LibRasta.Retransmission

/-- A read that consists of copies of whole PDUs, given by their numbers. -/
structure Arrival (pdus : List Bytes) where
  channelId : ℕ
  numbers : List (Fin pdus.length)
  length_lt : (numbers.map pdus.get).flatten.length < 2 ^ 64

namespace Arrival

variable {pdus : List Bytes}

def copies (arrival : Arrival pdus) : List Bytes := arrival.numbers.map pdus.get

def read (arrival : Arrival pdus) : Read where
  channelId := arrival.channelId
  buffer := arrival.copies.flatten
  length_lt := arrival.length_lt

end Arrival

/-- All numbers that arrived, with repetitions. -/
def arrivedNumbers {pdus : List Bytes} (arrivals : List (Arrival pdus)) : List ℕ :=
  arrivals.flatMap fun arrival => arrival.numbers.map Fin.val

section Discarding

variable (P : Platform)

/-- One of the three rules that discard a PDU which may still be needed applies to it. -/
def Discards (endpoint : Endpoint) (packet : RastaRedundancyPacket) : Prop :=
  deferqueueIsfull endpoint.channel.deferQ = true ∨ FirstPduRule endpoint packet ∨
    windowEnd endpoint < packet.sequenceNumber.toUInt64

instance (endpoint : Endpoint) (packet : RastaRedundancyPacket) :
    Decidable (Discards endpoint packet) :=
  inferInstanceAs (Decidable (_ ∨ _))

/-- None of the PDUs of a read is discarded, each judged in the state in which the loop of
`receive_packet` finds the channel. -/
def PdusKept (channelId : ℕ) : List Bytes → Endpoint → Prop
  | [], _ => True
  | pdu :: rest, endpoint =>
    ¬ Discards endpoint
        (Reception.packet P { con := endpoint.con, buffer := pdu ++ rest.flatten }) ∧
      PdusKept channelId rest (receivePdu P endpoint channelId (pdu ++ rest.flatten)).1

/-- None of the arrivals of a run is discarded. -/
def NothingDiscarded (rounds : ℕ) {pdus : List Bytes} : List (Arrival pdus) → Endpoint → Prop
  | [], _ => True
  | arrival :: rest, endpoint =>
    PdusKept P arrival.channelId arrival.copies
        (runChannelDiagnostics endpoint arrival.channelId) ∧
      ∀ after, channelReceiveEvent P rounds endpoint arrival.read = some after →
        NothingDiscarded rounds rest after

instance decidablePdusKept (channelId : ℕ) : (pdus : List Bytes) → (endpoint : Endpoint) →
    Decidable (PdusKept P channelId pdus endpoint)
  | [], _ => .isTrue trivial
  | _ :: rest, _ =>
    have := decidablePdusKept channelId rest
    inferInstanceAs (Decidable (¬ _ ∧ PdusKept P channelId rest _))

instance decidableNothingDiscarded (rounds : ℕ) {pdus : List Bytes} :
    (arrivals : List (Arrival pdus)) → (endpoint : Endpoint) →
      Decidable (NothingDiscarded P rounds arrivals endpoint)
  | [], _ => .isTrue trivial
  | arrival :: rest, endpoint =>
    have := decidableNothingDiscarded rounds rest
    decidable_of_iff
      (PdusKept P arrival.channelId arrival.copies
          (runChannelDiagnostics endpoint arrival.channelId) ∧
        (channelReceiveEvent P rounds endpoint arrival.read).all
          fun after => decide (NothingDiscarded P rounds rest after))
      (by simp only [NothingDiscarded, Option.all_eq_true, decide_eq_true_eq])

end Discarding

/-- An endpoint at the start of a session: its channel has handed over nothing, it has nothing to
send, and the process runs. -/
structure Opened (config : RastaConfigInfo) (endpoint : Endpoint) : Prop where
  idle : Idle config endpoint.con
  running : endpoint.con.aborted = false
  associatedId : endpoint.channel.associatedId = config.rastaIdRemote
  delivered : endpoint.channel.delivered = []

/-- The endpoint as `rasta_lib_init_configuration` leaves it. -/
def freshEndpoint (config : RastaConfigInfo) (clock : ℕ → ℕ)
    (slots : ℕ → RastaRedundancyPacketWrapper) (transportChannelCount : ℕ) : Endpoint where
  con := rastaLibInitConfiguration config clock
  channel := redundancyChannelAlloc config slots transportChannelCount

theorem opened_freshEndpoint (config : RastaConfigInfo) (clock : ℕ → ℕ)
    (slots : ℕ → RastaRedundancyPacketWrapper) (transportChannelCount : ℕ) :
    Opened config (freshEndpoint config clock slots transportChannelCount) :=
  ⟨⟨rfl, rfl, rfl, rfl, rfl, rfl⟩, rfl, rfl, rfl⟩

section Invariant

variable (P : Platform) {config : RastaConfigInfo} (T : Transmission config)

/-- The packets as the receiver hands them to `sr_receive`. -/
def handedPackets (count : ℕ) : List RastaPacket :=
  (T.packets.take count).map fun packet => reencoded P packet (hashingContextOf config)

/-- The invariant of a running channel: what is queued arrived, everything below `seq_rx`
arrived and was handed over, and if nothing was discarded then nothing that arrived is
missing. -/
structure Resequenced (kept : Prop) (arrived : List ℕ) (endpoint : Endpoint) : Prop where
  idle : Idle config endpoint.con
  running : endpoint.con.aborted = false
  associatedId : endpoint.channel.associatedId = config.rastaIdRemote
  queued : ∀ element ∈ endpoint.channel.deferQ.live,
    ∃ i ∈ arrived, T.Copy P i element.packet
  reached : endpoint.channel.seqRx.toNat ≤ T.packets.length
  below : ∀ i < endpoint.channel.seqRx.toNat, i ∈ arrived
  delivered : endpoint.channel.delivered.map Handover.packet =
    handedPackets P T endpoint.channel.seqRx.toNat
  complete : kept → ∀ i ∈ arrived, i < endpoint.channel.seqRx.toNat ∨
    ∃ element ∈ endpoint.channel.deferQ.live, (seqNrOf element).toNat = i

/-- What holds after every event: the invariant, or the process was aborted while it processed
the packet with number `seq_rx`. -/
def Settled (kept : Prop) (arrived : List ℕ) (endpoint : Endpoint) : Prop :=
  Resequenced P T kept arrived endpoint ∨
    endpoint.con.aborted = true ∧ endpoint.channel.seqRx.toNat < T.packets.length ∧
      endpoint.channel.delivered.map Handover.packet =
        handedPackets P T (endpoint.channel.seqRx.toNat + 1)

variable {P T} {kept : Prop} {arrived : List ℕ} {endpoint : Endpoint}

theorem idle_of_clockReads {before after : Connection} {reads : ℕ} (h : Idle config before)
    (hcon : after = { before with clockReads := reads }) : Idle config after := by
  rw [hcon]
  exact ⟨h.1, h.2, h.3, h.4, h.5, h.6⟩

/-- Clock readings and statistics do not matter. -/
theorem Resequenced.frame {after : Endpoint} (h : Resequenced P T kept arrived endpoint)
    (hframe : ReceiveFrame endpoint after)
    (hqueue : after.channel.deferQ = endpoint.channel.deferQ) :
    Resequenced P T kept arrived after := by
  obtain ⟨⟨reads, hcon⟩, hid, hseq, hdelivered⟩ := hframe
  refine ⟨idle_of_clockReads h.idle hcon, ?_, hid.trans h.associatedId, ?_, ?_, ?_, ?_, ?_⟩
  · rw [hcon]
    exact h.running
  · rw [hqueue]
    exact h.queued
  · rw [hseq]
    exact h.reached
  · rw [hseq]
    exact h.below
  · rw [hseq, hdelivered]
    exact h.delivered
  · rw [hseq, hqueue]
    exact h.complete

/-- Unless one of the three rules discards it, a PDU that does not enter the queue was handed
over before or is queued already. -/
theorem not_wanted {packet : RastaRedundancyPacket} {i : ℕ} (hcopy : T.Copy P i packet)
    (hid : endpoint.channel.associatedId = config.rastaIdRemote)
    (hdiscards : ¬ Discards endpoint packet) (hnot : ¬ Enters endpoint packet) :
    i < endpoint.channel.seqRx.toNat ∨
      ∃ element ∈ endpoint.channel.deferQ.live, (seqNrOf element).toNat = i := by
  have hroom : deferqueueIsfull endpoint.channel.deferQ = false := by
    by_contra hfull
    exact hdiscards (.inl (by simpa using hfull))
  have hfirst : ¬ FirstPduRule endpoint packet := fun hrule => hdiscards (.inr (.inl hrule))
  have hwindow : packet.sequenceNumber.toUInt64 ≤ windowEnd endpoint := by
    by_contra hbeyond
    exact hdiscards (.inr (.inr (UInt64.not_le.mp hbeyond)))
  have hunwanted : ¬ Wanted endpoint packet := fun hwanted =>
    hnot ⟨hid.trans hcopy.sender, hroom, hcopy.checksumCorrect, hfirst, hwanted⟩
  have hnumber := hcopy.sequenceNumber
  by_cases hold : i < endpoint.channel.seqRx.toNat
  · exact .inl hold
  right
  have hne : packet.sequenceNumber.toUInt64 ≠ endpoint.channel.seqRx :=
    fun heq => hunwanted (.inl heq)
  have hahead : endpoint.channel.seqRx < packet.sequenceNumber.toUInt64 := by
    refine UInt64.lt_of_le_of_ne ?_ (Ne.symm hne)
    rw [UInt64.le_iff_toNat_le, hnumber]
    omega
  have hcontains : deferqueueContains endpoint.channel.deferQ
      packet.sequenceNumber.toUInt64 = true := by
    by_contra habsent
    exact hunwanted (.inr ⟨hahead, hwindow, by simpa using habsent⟩)
  rw [deferqueueContains_iff] at hcontains
  obtain ⟨element, hmem, hseq⟩ := hcontains
  exact ⟨element, hmem, by rw [hseq]; exact hnumber⟩

/-- One arriving copy. -/
theorem Resequenced.receivePdu (h : Resequenced P T kept arrived endpoint)
    (i : Fin (T.pdus P).length) (rest : Bytes) (channelId : ℕ)
    (hkept : kept → ¬ Discards endpoint (Reception.packet P
      { con := endpoint.con, buffer := (T.pdus P).get i ++ rest })) :
    Resequenced P T kept (arrived ++ [i.val])
      (receivePdu P endpoint channelId ((T.pdus P).get i ++ rest)).1 := by
  have hcrc : endpoint.con.config.crcType = config.crcType := by rw [h.idle.config]
  obtain ⟨packet, hcopy, hpacket, hdispatched⟩ :=
    T.receivePdu_copy i rest hcrc h.idle.srChecksumLen channelId
  rw [← hpacket] at hkept
  have hlive : ∀ element ∈ (LibRasta.Redundancy.receivePdu P endpoint channelId
      ((T.pdus P).get i ++ rest)).1.channel.deferQ.live,
      ∃ j ∈ arrived ++ [i.val], T.Copy P j element.packet := by
    intro element hmem
    rcases hdispatched.live P hmem with hold | hnew
    · obtain ⟨j, hj, hcopyJ⟩ := h.queued element hold
      exact ⟨j, List.mem_append_left _ hj, hcopyJ⟩
    · exact ⟨i.val, by simp, hnew ▸ hcopy⟩
  generalize LibRasta.Redundancy.receivePdu P endpoint channelId
    ((T.pdus P).get i ++ rest) = received at hdispatched hlive
  obtain ⟨⟨reads, hcon⟩, hid, hseq, hdelivered⟩ := hdispatched.frame P
  refine ⟨idle_of_clockReads h.idle hcon, ?_, hid.trans h.associatedId, hlive, ?_, ?_, ?_, ?_⟩
  · rw [hcon]
    exact h.running
  · rw [hseq]
    exact h.reached
  · rw [hseq]
    intro j hj
    exact List.mem_append_left _ (h.below j hj)
  · rw [hseq, hdelivered]
    exact h.delivered
  · intro hk
    have hcomplete := h.complete hk
    have hnotDiscarded := hkept hk
    cases hdispatched with
    | discarded frame queue why =>
      rw [frame.seqRx, queue]
      intro j hj
      rcases List.mem_append.mp hj with hold | hnew
      · exact hcomplete j hold
      · rw [List.mem_singleton.mp hnew]
        exact not_wanted hcopy h.associatedId hnotDiscarded why
    | queued frame recvTs queue why =>
      have hroom : endpoint.channel.deferQ.count ≠ endpoint.channel.deferQ.maxCount := by
        simpa [deferqueueIsfull] using why.room
      have hperm := deferqueueAdd_live P hroom packet recvTs
      rw [frame.seqRx, queue]
      intro j hj
      rcases List.mem_append.mp hj with hold | hnew
      · rcases hcomplete j hold with hlt | ⟨element, helement, hnumber⟩
        · exact .inl hlt
        · exact .inr ⟨element, hperm.mem_iff.mpr (List.mem_cons_of_mem _ helement), hnumber⟩
      · rw [List.mem_singleton.mp hnew]
        exact .inr ⟨_, hperm.mem_iff.mpr List.mem_cons_self, hcopy.sequenceNumber⟩

/-- All copies of a read, one after the other. -/
theorem Resequenced.receivePdus (numbers : List (Fin (T.pdus P).length)) (channelId : ℕ)
    (result : Bool) (h : Resequenced P T kept arrived endpoint)
    (hkept : kept → PdusKept P channelId (numbers.map (T.pdus P).get) endpoint) :
    Resequenced P T kept (arrived ++ numbers.map Fin.val)
      (receivePdus P channelId [] (numbers.map (T.pdus P).get) endpoint result).1 := by
  induction numbers generalizing arrived endpoint result with
  | nil => simpa [LibRasta.Redundancy.receivePdus] using h
  | cons i rest ih =>
    have hfirst := h.receivePdu i (rest.map (T.pdus P).get).flatten channelId
      (fun hk => (hkept hk).1)
    have hrest := ih (result || (LibRasta.Redundancy.receivePdu P endpoint channelId
      ((T.pdus P).get i ++ (rest.map (T.pdus P).get).flatten)).2) hfirst
      (fun hk => (hkept hk).2)
    simp only [List.map_cons, LibRasta.Redundancy.receivePdus, List.append_nil]
    rw [List.append_assoc] at hrest
    exact hrest

/-- The element with the expected number is a copy of the expected PDU, and what is handed over
for it is the packet the peer sent. -/
theorem Resequenced.handOver (h : Resequenced P T kept arrived endpoint)
    {element : RastaRedundancyPacketWrapper} (hmem : element ∈ endpoint.channel.deferQ.live)
    (hseq : seqNrOf element = endpoint.channel.seqRx) :
    endpoint.channel.seqRx.toNat ∈ arrived ∧
      endpoint.channel.seqRx.toNat < T.packets.length ∧
      Idle config (handOver P endpoint element.packet).1.con ∧
      ∃ handover : Handover,
        (handOver P endpoint element.packet).1.channel =
          { endpoint.channel with delivered := endpoint.channel.delivered ++ [handover] } ∧
        (endpoint.channel.delivered ++ [handover]).map Handover.packet =
          handedPackets P T (endpoint.channel.seqRx.toNat + 1) := by
  obtain ⟨i, hi, hcopy⟩ := h.queued element hmem
  have hnumber : endpoint.channel.seqRx.toNat = i := by
    rw [← hseq]
    exact hcopy.sequenceNumber
  have hlt := hcopy.lt
  obtain ⟨inner, ctx, code, hinner, hctx, hpacket⟩ := hcopy
  have hsendable := T.sendable inner (List.mem_of_getElem? hinner)
  have hlength : element.packet.data.length = inner.length := by
    rw [hpacket]
    rfl
  have hmessage : deliverMessage P endpoint.con element.packet =
      (reencoded P inner (hashingContextOf config), .none) := by
    rw [deliverMessage_of_clear P h.idle.lasterror ?_, h.idle.hashingContext, hpacket]
    · have hdata : (arrivedPdu P ctx config.crcType (UInt64.ofNat i).toUInt32 inner code).data =
        recoded P inner ctx code := rfl
      rw [hdata, reencoded_recoded P hctx]
    · rw [hlength, h.idle.hashingContext, ← T.checksumLen]
      exact hsendable.header
  unfold LibRasta.Redundancy.handOver
  rw [hmessage]
  generalize hreencoded : reencoded P inner (hashingContextOf config) = message
  refine ⟨hnumber ▸ hi, hnumber ▸ hlt, ?_, _, passOn_channel P endpoint element.packet _, ?_⟩
  · have hidle : Idle config { endpoint.con with lasterror := .none } :=
      ⟨rfl, h.idle.2, h.idle.3, h.idle.4, h.idle.5, h.idle.6⟩
    exact (srReceive_received P _ _).idle P hidle
  · unfold handedPackets
    rw [List.map_append, h.delivered, hnumber, List.take_add_one, hinner]
    simp [handedPackets, handoverOf, hreencoded]

/-- One round of the delivery loop that does not abort the process. -/
theorem Resequenced.advance (h : Resequenced P T kept arrived endpoint)
    {element : RastaRedundancyPacketWrapper} (hmem : element ∈ endpoint.channel.deferQ.live)
    (hseq : seqNrOf element = endpoint.channel.seqRx)
    (hrunning : (LibRasta.Redundancy.handOver P endpoint element.packet).1.con.aborted = false) :
    Resequenced P T kept arrived
      (advance P (LibRasta.Redundancy.handOver P endpoint element.packet).1) := by
  obtain ⟨harrived, hlt, hidle, handover, hchannel, hdelivered⟩ := h.handOver hmem hseq
  have hfew := T.few
  have hcontains : deferqueueContains endpoint.channel.deferQ endpoint.channel.seqRx = true :=
    (deferqueueContains_iff _ _).mpr ⟨element, hmem, hseq⟩
  obtain ⟨removed, hremoved, hperm⟩ := deferqueueRemove_live P hcontains
  have hnext : (endpoint.channel.seqRx + 1).toNat = endpoint.channel.seqRx.toNat + 1 := by
    have hone : (1 : UInt64).toNat = 1 := rfl
    rw [UInt64.toNat_add, hone]
    omega
  generalize LibRasta.Redundancy.handOver P endpoint element.packet = handed
    at hrunning hidle hchannel
  have hqueue : (LibRasta.Redundancy.advance P handed.1).channel.deferQ =
      deferqueueRemove P endpoint.channel.deferQ endpoint.channel.seqRx := by
    change deferqueueRemove P handed.1.channel.deferQ handed.1.channel.seqRx = _
    rw [hchannel]
  have hseqRx : (LibRasta.Redundancy.advance P handed.1).channel.seqRx.toNat =
      endpoint.channel.seqRx.toNat + 1 := by
    rw [advance_seqRx, hchannel]
    exact hnext
  refine ⟨hidle, hrunning, ?_, ?_, ?_, ?_, ?_, ?_⟩
  · change handed.1.channel.associatedId = config.rastaIdRemote
    rw [hchannel]
    exact h.associatedId
  · rw [hqueue]
    intro other hother
    exact h.queued other (hperm.mem_iff.mpr (List.mem_cons_of_mem removed hother))
  · rw [hseqRx]
    exact hlt
  · rw [hseqRx]
    intro i hi
    rcases Nat.lt_succ_iff_lt_or_eq.mp hi with hbelow | rfl
    · exact h.below i hbelow
    · exact harrived
  · rw [hseqRx, advance_delivered, hchannel]
    exact hdelivered
  · rw [hseqRx, hqueue]
    intro hk i hi
    rcases h.complete hk i hi with hbelow | ⟨other, hother, hnumber⟩
    · exact .inl (Nat.lt_succ_of_lt hbelow)
    · -- only the element with the number that was handed over is gone
      rcases List.mem_cons.mp (hperm.mem_iff.mp hother) with rfl | hstill
      · left
        rw [hremoved] at hnumber
        omega
      · exact .inr ⟨other, hstill, hnumber⟩

theorem Resequenced.deliverAfter {received : Endpoint × Bool}
    (h : Resequenced P T kept arrived received.1) :
    Settled P T kept arrived (deliverAfter P received) := by
  unfold LibRasta.Redundancy.deliverAfter
  split
  · refine @deliverLoop_rule P (Resequenced P T kept arrived) (Settled P T kept arrived)
      (fun _ he => .inl he) ?_ _ _ _ h
    intro e element he hmem hseq
    refine ⟨fun haborted => .inr ?_, fun hrunning => he.advance hmem hseq hrunning⟩
    obtain ⟨-, hlt, -, handover, hchannel, hdelivered⟩ := he.handOver hmem hseq
    refine ⟨haborted, ?_, ?_⟩
    · rw [hchannel]
      exact hlt
    · rw [hchannel]
      exact hdelivered
  · exact .inl h

end Invariant

section Runs

variable {P : Platform} {config : RastaConfigInfo} {T : Transmission config} {kept : Prop}
  {arrived : List ℕ} {endpoint : Endpoint} {rounds : ℕ}

theorem channelReceiveEvent_arrival (arrival : Arrival (T.pdus P))
    (hrounds : arrival.numbers.length ≤ rounds) (hrunning : endpoint.con.aborted = false) :
    channelReceiveEvent P rounds endpoint arrival.read = some (deliverAfter P
      (receivePdus P arrival.channelId [] arrival.copies
        (runChannelDiagnostics endpoint arrival.channelId) false)) := by
  have hframed : ∀ pdu ∈ arrival.copies, Framed P pdu := by
    intro pdu hpdu
    obtain ⟨i, -, rfl⟩ := List.mem_map.mp hpdu
    exact T.framed_get i
  have hlength : arrival.copies.length ≤ rounds := by
    rw [Arrival.copies, List.length_map]
    exact hrounds
  exact @channelReceiveEvent_framed P arrival.read arrival.copies rounds endpoint rfl hframed
    hlength hrunning

/-- One receive event. -/
theorem Settled.receive (h : Settled P T kept arrived endpoint) (arrival : Arrival (T.pdus P))
    (hrounds : arrival.numbers.length ≤ rounds)
    (hkept : kept → PdusKept P arrival.channelId arrival.copies
      (runChannelDiagnostics endpoint arrival.channelId)) :
    ∃ after, channelReceiveEvent P rounds endpoint arrival.read = some after ∧
      Settled P T kept (arrived ++ arrival.numbers.map Fin.val) after := by
  rcases h with h | ⟨haborted, hstopped⟩
  · obtain ⟨hdiagnostics, hqueue⟩ := runChannelDiagnostics_frame endpoint arrival.channelId
    have hread := (h.frame hdiagnostics hqueue).receivePdus arrival.numbers arrival.channelId
      false hkept
    exact ⟨_, channelReceiveEvent_arrival arrival hrounds h.running, hread.deliverAfter⟩
  · refine ⟨endpoint, ?_, .inr ⟨haborted, hstopped⟩⟩
    unfold channelReceiveEvent
    rw [if_pos haborted]

theorem Settled.receiveEvents (arrivals : List (Arrival (T.pdus P)))
    (hrounds : ∀ arrival ∈ arrivals, arrival.numbers.length ≤ rounds)
    (h : Settled P T kept arrived endpoint)
    (hkept : kept → NothingDiscarded P rounds arrivals endpoint) :
    ∃ after, receiveEvents P rounds endpoint (arrivals.map Arrival.read) = some after ∧
      Settled P T kept (arrived ++ arrivedNumbers arrivals) after := by
  induction arrivals generalizing arrived endpoint with
  | nil => exact ⟨endpoint, rfl, by simpa [arrivedNumbers] using h⟩
  | cons arrival rest ih =>
    obtain ⟨middle, hmiddle, hsettled⟩ := h.receive arrival
      (hrounds arrival List.mem_cons_self) (fun hk => (hkept hk).1)
    obtain ⟨after, hafter, hfinal⟩ := ih
      (fun a ha => hrounds a (List.mem_cons_of_mem arrival ha)) hsettled
      (fun hk => (hkept hk).2 middle hmiddle)
    refine ⟨after, ?_, ?_⟩
    · simp only [LibRasta.Redundancy.receiveEvents, List.map_cons, List.foldlM_cons, hmiddle,
        Option.bind_eq_bind, Option.bind_some]
      exact hafter
    · simpa [arrivedNumbers, List.append_assoc] using hfinal

theorem redundancyChannelInit_live (endpoint : Endpoint) :
    (redundancyChannelInit endpoint).channel.deferQ.live = [] := by
  simp [redundancyChannelInit, deferqueueClear, DeferQueue.live]

theorem Opened.resequenced (h : Opened config endpoint) :
    Resequenced P T kept [] (redundancyChannelInit endpoint) := by
  have hidle : Idle config (redundancyChannelInit endpoint).con :=
    ⟨h.idle.1, h.idle.2, h.idle.3, h.idle.4, h.idle.5, h.idle.6⟩
  refine ⟨hidle, h.running, h.associatedId, ?_, Nat.zero_le _, ?_, ?_, ?_⟩
  · rw [redundancyChannelInit_live]
    simp
  · intro i hi
    exact absurd hi (Nat.not_lt_zero i)
  · have hnone : (redundancyChannelInit endpoint).channel.delivered = [] := h.delivered
    rw [hnone]
    rfl
  · simp

end Runs

section Example

/-- Three heartbeats of the peer. -/
def exampleTransmission : Transmission exampleConfig where
  peer := rastaLibInitConfiguration exampleRemoteConfig fun _ => 0
  packets := (List.range 3).map fun n =>
    createHeartbeat referencePlatform
      { nextHeader (rastaLibInitConfiguration exampleRemoteConfig fun _ => 0) with
        sequenceNumber := UInt32.ofNat n }
      (hashingContextOf exampleRemoteConfig)
  seqTx := rfl
  lasterror := rfl
  checksumLen := rfl
  crcType := rfl
  sender := by decide
  sendable := by decide +kernel
  few := by decide

def exampleNumber (n : ℕ) (h : n < 3) :
    Fin (exampleTransmission.pdus referencePlatform).length :=
  ⟨n, by rw [exampleTransmission.length_pdus referencePlatform]; exact h⟩

/-- PDU 0 arrives alone, then PDU 2, then PDU 1 with a second copy of PDU 0. -/
def exampleArrivals : List (Arrival (exampleTransmission.pdus referencePlatform)) :=
  [{ channelId := 0
     numbers := [exampleNumber 0 (by decide)]
     length_lt := by decide +kernel },
    { channelId := 0
      numbers := [exampleNumber 2 (by decide)]
      length_lt := by decide +kernel },
    { channelId := 0
      numbers := [exampleNumber 1 (by decide), exampleNumber 0 (by decide)]
      length_lt := by decide +kernel }]

end Example

end LibRasta.Redundancy
