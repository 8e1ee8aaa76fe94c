/-
Module: LibRasta/Retransmission/LossFree.lean
source: src/c/retransmission/handlers.c, src/c/retransmission/safety_retransmission.c, src/c/transport/events.c
digest: Sessions over links that lose nothing: in every interleaving without disconnection each PDU is the expected one, none asks for anything, and no message is missing.
-/

import LibRasta.Retransmission.Greeting

set_option autoImplicit false
set_option relaxedAutoImplicit false

namespace LibRasta.Retransmission

open LibRasta.Lib
open LibRasta.Lib.Lockstep
open LibRasta.Util
open LibRasta.Factory

section Statement

variable (P : Platform)

/-- The session before `sr_connect`. -/
def idleSession (client server : Connection) : Session where
  client := { con := client, incoming := [], output := [], pushed := [], appended := [] }
  server := { con := server, incoming := [], output := [], pushed := [], appended := [] }

/-- The PDUs on the link to a party, as it will decode them. -/
def Party.packets (party : Party) : List RastaPacket :=
  party.incoming.map (decodePdu P party.con.srHashingContext)

/-- `fifo_receive` has room for the messages of a PDU. -/
def HasRoom (con : Connection) (packet : RastaPacket) : Prop :=
  (messagesIn P packet).length ≤ con.fifoReceive.maxSize - con.fifoReceive.items.length

instance (con : Connection) (packet : RastaPacket) : Decidable (HasRoom P con packet) :=
  inferInstanceAs (Decidable (_ ≤ _))

/-- What may happen at an endpoint: the client calls `sr_connect` before it is connected, nothing
is lost, and what arrives is in time and has room. -/
def Undisturbed (party : Party) (role : RastaRole) : Activity → Prop
  | .own (.connect _) => role = .client ∧ Inactive party.con
  | .own event => KeepsOpen party.con event
  | .deliver =>
    ∀ packet ∈ (party.packets P).head?, Timely party.con packet ∧ HasRoom P party.con packet
  | .lose _ => False

instance (party : Party) (role : RastaRole) (activity : Activity) :
    Decidable (Undisturbed P party role activity) :=
  match activity with
  | .own event =>
    match event with
    | .connect _ => inferInstanceAs (Decidable (_ ∧ _))
    | .send appMessages => inferInstanceAs (Decidable (KeepsOpen party.con (.send appMessages)))
    | .dataSend | .heartbeat | .connectReturn | .recv | .accept | .acceptReturn =>
      inferInstanceAs (Decidable True)
    | .receive _ | .connectionExpired | .timedKeyExchange | .disconnect | .transportClosed =>
      inferInstanceAs (Decidable False)
  | .deliver =>
    inferInstanceAs (Decidable (∀ packet ∈ (party.packets P).head?,
      Timely party.con packet ∧ HasRoom P party.con packet))
  | .lose _ => inferInstanceAs (Decidable False)

/-- A step of the session without loss or disconnection, with sequence numbers and timestamps
left. -/
structure LossFree (s : Session) (event : RastaRole × Activity) : Prop where
  undisturbed : Undisturbed P (s.at event.1) event.1 event.2
  clock : ClockInRange (s.at event.1).con
  client : s.client.InRange
  server : s.server.InRange

instance (s : Session) (event : RastaRole × Activity) : Decidable (LossFree P s event) :=
  decidable_of_iff (Undisturbed P (s.at event.1) event.1 event.2 ∧
      ClockInRange (s.at event.1).con ∧ s.client.InRange ∧ s.server.InRange)
    ⟨fun h => ⟨h.1, h.2.1, h.2.2.1, h.2.2.2⟩,
      fun h => ⟨h.undisturbed, h.clock, h.client, h.server⟩⟩

/-- The PDU that arrives next passes the checks of its sequence number and of the confirmed one. -/
def ArrivalValid (party : Party) : Prop :=
  ∀ packet ∈ (party.packets P).head?, srSnRangeValid party.con packet = true ∧
    srCsValid party.con packet = true ∧ srSnInSeq party.con packet = true

/-- A delivered PDU passes these checks. -/
def DeliversValid (s : Session) (event : RastaRole × Activity) : Prop :=
  event.2 = .deliver → ArrivalValid P (s.at event.1)

/-- The numbers from `first` on, less `last` and what follows it. -/
def numbersBetween (first last : UInt32) : List UInt32 :=
  (List.range (last - first).toNat).map fun i => first + UInt32.ofNat i

/-- The endpoint has taken a PDU of its peer. -/
def KnowsPeer (con : Connection) : Prop :=
  con.currentState = .up ∨ con.currentState = .start ∧ con.role = .server

instance (con : Connection) : Decidable (KnowsPeer con) :=
  inferInstanceAs (Decidable (_ ∨ _ ∧ _))

/-- The number of the next PDU that arrives: `sn_r`, once the receiver knows it. -/
def nextArrival (sender receiver : Connection) : UInt32 :=
  if KnowsPeer receiver then receiver.snR else sender.config.initialSequenceNumber

/-- What one direction looks like: no PDU asks for anything, the numbers in flight are the ones up
to `sn_t`, and every message is at one of three places. -/
structure InLockstep (sender receiver : Party) : Prop where
  undemanding : Undemanding sender.output
  inactive : Inactive sender.con → receiver.packets P = []
  numbers : ¬ Inactive sender.con → (receiver.packets P).map RastaPacket.sequenceNumber =
    numbersBetween (nextArrival sender.con receiver.con) sender.con.snT
  messages : receiver.appended ++ ((receiver.packets P).flatMap (messagesIn P) ++
    sender.con.fifoSend.items) = sender.pushed

end Statement

section Running

variable {P : Platform} {ctx : RastaHashingContext} {party peer client server : Party}
  {event : Event} {role : RastaRole} {bytes : Bytes} {rest : List Bytes}

theorem Conversing.attends (h : Conversing P ctx party peer) : ∃ s, Attends P ctx party s := by
  obtain ⟨s, -, -, -, -, hparty, -⟩ := h.inStep
  exact ⟨s, hparty⟩

/-- The PDU that arrives next, under the hashing context both parties use. -/
theorem Party.packets_eq (hctx : party.con.srHashingContext = ctx) :
    party.packets P = party.incoming.map (decodePdu P ctx) := by
  rw [Party.packets, hctx]

/-- An event of its own keeps a party in the conversation. -/
theorem Conversing.own (h : Conversing P ctx party peer) (hopen : KeepsOpen party.con event) :
    Conversing P ctx (activityStep P party peer (.own event)).1
        (activityStep P party peer (.own event)).2 ∧
      PeerFrame party.con (activityStep P party peer (.own event)).1.con := by
  obtain ⟨s, hparty⟩ := h.attends
  have hutters := @endpointStep_utters P ctx party.con event hopen hparty.running
    hparty.speaks.srHashingContext
  exact ⟨h.utters hutters, hutters.frame⟩

/-- What arrives at a conversing party, and that it is accepted. -/
theorem Conversing.arrival (h : Conversing P ctx party peer) (hrange : party.InRange)
    (hclock : ClockInRange party.con) (hundisturbed : Undisturbed P party role .deliver)
    (hincoming : party.incoming = bytes :: rest) :
    Passes party.con (decodePdu P ctx bytes) ∧ HasRoom P party.con (decodePdu P ctx bytes) ∧
      receiveBytes P party.con bytes = (srReceive P party.con (decodePdu P ctx bytes)).1 := by
  obtain ⟨s, hparty⟩ := h.attends
  obtain ⟨hwhole, -, hpasses⟩ := h.oldest hincoming
  have hhead : decodePdu P ctx bytes ∈ (party.packets P).head? := by
    rw [Party.packets_eq hparty.speaks.srHashingContext, hincoming]
    rfl
  obtain ⟨htimely, hroom⟩ := hundisturbed _ hhead
  exact ⟨hpasses hrange hclock htimely, hroom,
    receiveBytes_whole hparty.running hparty.speaks.srHashingContext hwhole⟩

/-- A PDU is taken in state UP. -/
theorem Conversing.deliver (h : Conversing P ctx party peer) (hstate : party.con.currentState = .up)
    (hrange : party.InRange) (hclock : ClockInRange party.con)
    (hundisturbed : Undisturbed P party role .deliver) :
    Conversing P ctx (activityStep P party peer .deliver).1 (activityStep P party peer .deliver).2 ∧
      (activityStep P party peer .deliver).1.con.currentState = .up := by
  unfold activityStep
  cases hincoming : party.incoming with
  | nil => exact ⟨h, hstate⟩
  | cons bytes rest =>
    obtain ⟨s, hparty⟩ := h.attends
    obtain ⟨hpasses, hroom, hreceived⟩ := h.arrival hrange hclock hundisturbed hincoming
    obtain ⟨htakes, hup, hqueue⟩ :=
      @srReceive_up P ctx party.con _ hpasses hparty.keyless (h.oldest hincoming).2.1 hstate hroom
    have happended : newlyAppended party.con (srReceive P party.con (decodePdu P ctx bytes)).1 =
        messagesIn P (decodePdu P ctx bytes) := by
      rw [newlyAppended, hqueue, List.drop_left]
    simp only [hreceived]
    exact ⟨h.takes hincoming htakes happended, hup⟩

/-- The heartbeat that completes the handshake is taken. -/
theorem Conversing.deliver_start (h : Conversing P ctx party peer)
    (hstate : party.con.currentState = .start) (hrole : party.con.role = .server)
    (hincoming : party.incoming = bytes :: rest) (htype : (decodePdu P ctx bytes).type = .hb)
    (hrange : party.InRange) (hclock : ClockInRange party.con)
    (hundisturbed : Undisturbed P party role .deliver) :
    Conversing P ctx (activityStep P party peer .deliver).1 (activityStep P party peer .deliver).2 ∧
      (activityStep P party peer .deliver).1.con.currentState = .up := by
  obtain ⟨s, hparty⟩ := h.attends
  obtain ⟨hpasses, -, hreceived⟩ := h.arrival hrange hclock hundisturbed hincoming
  rw [srReceive_start hpasses hparty.keyless htype hstate hrole] at hreceived
  obtain ⟨hup, -, -, hqueue⟩ :=
    establishByHb_receiver party.con (decodePdu P ctx bytes) hparty.kexMode
  have happended : newlyAppended party.con (establishByHb party.con (decodePdu P ctx bytes)) =
      messagesIn P (decodePdu P ctx bytes) := by
    rw [newlyAppended_of_eq (congrArg Fifo.items hqueue), messagesIn, if_neg (by simp [htype])]
  unfold activityStep
  rw [hincoming]
  simp only [hreceived]
  exact ⟨h.takes hincoming (establishByHb_takes _ _) happended, hup⟩

theorem Undisturbed.own (h : Undisturbed P party role (.own event)) :
    KeepsOpen party.con event ∨
      role = .client ∧ Inactive party.con ∧ ∃ transportOk, event = .connect transportOk := by
  cases event with
  | connect transportOk => exact .inr ⟨h.1, h.2, transportOk, rfl⟩
  | send appMessages => exact .inl h
  | dataSend | heartbeat | connectReturn | recv | accept | acceptReturn => exact .inl h
  | receive packet => exact h.elim
  | connectionExpired | timedKeyExchange | disconnect | transportClosed => exact h.elim

theorem UnderWay.client_step (h : UnderWay P ctx client server) (hrange : client.InRange)
    (hclock : ClockInRange client.con) {activity : Activity}
    (hundisturbed : Undisturbed P client role activity) :
    UnderWay P ctx (activityStep P client server activity).1
      (activityStep P client server activity).2 := by
  -- whatever the client sends is queued behind the heartbeat a starting server waits for
  have hserver : ∀ out, (server.link out).con.currentState = .up ∨
      (server.link out).con.currentState = .start ∧ (server.link out).con.role = .server ∧
        ∃ bytes rest, (server.link out).incoming = bytes :: rest ∧
          (decodePdu P ctx bytes).type = .hb := by
    intro out
    refine h.server.imp_right fun ⟨hstate, hrole, bytes, rest, hincoming, htype⟩ =>
      ⟨hstate, hrole, bytes, rest ++ out.map SentPdu.innerBytes, ?_, htype⟩
    rw [Party.link, hincoming, List.cons_append]
  cases activity with
  | own event =>
    rcases hundisturbed.own with hopen | ⟨-, hclosed | hdown, -⟩
    · obtain ⟨hconversing, hframe⟩ := h.conversing.own hopen
      exact ⟨hconversing, hframe.currentState.trans h.client, hserver _⟩
    · exact absurd (h.client.symm.trans hclosed) (by decide)
    · exact absurd (h.client.symm.trans hdown) (by decide)
  | deliver =>
    obtain ⟨hconversing, hup⟩ := h.conversing.deliver h.client hrange hclock hundisturbed
    refine ⟨hconversing, hup, ?_⟩
    unfold activityStep
    cases client.incoming with
    | nil => exact h.server
    | cons bytes rest => exact hserver _
  | lose place => exact hundisturbed.elim

theorem UnderWay.server_step (h : UnderWay P ctx client server) (hrange : server.InRange)
    (hclock : ClockInRange server.con) {activity : Activity}
    (hundisturbed : Undisturbed P server .server activity) :
    UnderWay P ctx (activityStep P server client activity).2
      (activityStep P server client activity).1 := by
  cases activity with
  | own event =>
    rcases hundisturbed.own with hopen | ⟨hrole, -⟩
    · obtain ⟨hconversing, hframe⟩ := h.conversing.symm.own hopen
      refine ⟨hconversing.symm, h.client, ?_⟩
      rw [hframe.currentState, hframe.role]
      exact h.server
    · cases hrole
  | deliver =>
    have hclient : (activityStep P server client .deliver).2.con.currentState = .up := by
      unfold activityStep
      cases server.incoming with
      | nil => exact h.client
      | cons bytes rest => exact h.client
    rcases h.server with hstate | ⟨hstate, hrole, bytes, rest, hincoming, htype⟩
    · obtain ⟨hconversing, hup⟩ := h.conversing.symm.deliver hstate hrange hclock hundisturbed
      exact ⟨hconversing.symm, hclient, .inl hup⟩
    · obtain ⟨hconversing, hup⟩ :=
        h.conversing.symm.deliver_start hstate hrole hincoming htype hrange hclock hundisturbed
      exact ⟨hconversing.symm, hclient, .inl hup⟩
  | lose place => exact hundisturbed.elim

end Running

section Invariant

variable {P : Platform} {ctx : RastaHashingContext} {party peer client server : Party}

/-- Where the session is. -/
inductive Progress (P : Platform) (ctx : RastaHashingContext) (client server : Party) : Prop
  | apart (h : Apart P ctx client server)
  | requested (h : Requested P ctx client server)
  | answering (h : Answering P ctx client server)
  | underWay (h : UnderWay P ctx client server)

theorem not_established_of_start {con : Connection} (h : con.currentState = .start) :
    ¬ Established con.currentState := by
  rw [h]
  decide

theorem Undisturbed.keepsOpen {role : RastaRole} {event : Event}
    (h : Undisturbed P party role (.own event)) (hactive : role = .server ∨ ¬ Inactive party.con) :
    KeepsOpen party.con event := by
  rcases h.own with hopen | ⟨hrole, hinactive, -⟩
  · exact hopen
  · rcases hactive with hserver | hnot
    · rw [hrole] at hserver
      cases hserver
    · exact absurd hinactive hnot

theorem not_inactive_of_start {con : Connection} (h : con.currentState = .start) :
    ¬ Inactive con := by
  unfold Inactive
  rw [h]
  decide

theorem Progress.client_step (h : Progress P ctx client server) (hrange : client.InRange)
    (hclock : ClockInRange client.con) {activity : Activity}
    (hundisturbed : Undisturbed P client .client activity) :
    Progress P ctx (activityStep P client server activity).1
      (activityStep P client server activity).2 := by
  cases activity with
  | lose place => exact hundisturbed.elim
  | own event =>
    cases h with
    | apart h =>
      rcases hundisturbed.own with hopen | ⟨-, -, transportOk, rfl⟩
      · obtain ⟨hclient, hserver⟩ :=
          @Waiting.own P ctx client server h.clientWaiting event hopen h.clientState.not_established
        exact .apart (h.rests hclient hserver)
      · exact (h.connect transportOk).elim .apart .requested
    | requested h =>
      have hopen := hundisturbed.keepsOpen (.inr (not_inactive_of_start h.clientState))
      obtain ⟨hclient, hserver⟩ := @Waiting.own P ctx client server h.clientWaiting event hopen
        (not_established_of_start h.clientState)
      exact .requested (h.rests hclient hserver)
    | answering h =>
      have hopen := hundisturbed.keepsOpen (.inr (not_inactive_of_start h.clientState))
      obtain ⟨hclient, hserver⟩ := @Waiting.own P ctx client server h.clientWaiting event hopen
        (not_established_of_start h.clientState)
      exact .answering (h.rests hclient hserver)
    | underWay h => exact .underWay (h.client_step hrange hclock hundisturbed)
  | deliver =>
    cases h with
    | apart h =>
      rw [activityStep_nothing h.incoming.1]
      exact .apart h
    | requested h =>
      rw [activityStep_nothing h.incoming]
      exact .requested h
    | answering h => exact .underWay h.deliver
    | underWay h => exact .underWay (h.client_step hrange hclock hundisturbed)

theorem Progress.server_step (h : Progress P ctx client server) (hrange : server.InRange)
    (hclock : ClockInRange server.con) {activity : Activity}
    (hundisturbed : Undisturbed P server .server activity) :
    Progress P ctx (activityStep P server client activity).2
      (activityStep P server client activity).1 := by
  cases activity with
  | lose place => exact hundisturbed.elim
  | own event =>
    have hopen := hundisturbed.keepsOpen (.inl rfl)
    cases h with
    | apart h =>
      obtain ⟨hserver, hclient⟩ :=
        @Waiting.own P ctx server client h.serverWaiting event hopen h.serverState.not_established
      exact .apart (h.rests hclient hserver)
    | requested h =>
      obtain ⟨hserver, hclient⟩ :=
        @Waiting.own P ctx server client h.serverWaiting event hopen h.serverState.not_established
      exact .requested (h.rests hclient hserver)
    | answering h =>
      obtain ⟨hserver, hclient⟩ := @Waiting.own P ctx server client h.serverWaiting event hopen
        (not_established_of_start h.serverState)
      exact .answering (h.rests hclient hserver)
    | underWay h => exact .underWay (h.server_step hrange hclock hundisturbed)
  | deliver =>
    cases h with
    | apart h =>
      rw [activityStep_nothing h.incoming.2]
      exact .apart h
    | requested h => exact .answering h.deliver
    | answering h =>
      rw [activityStep_nothing h.incoming]
      exact .answering h
    | underWay h => exact .underWay (h.server_step hrange hclock hundisturbed)

end Invariant

section Conclusion

variable {P : Platform} {ctx : RastaHashingContext} {party peer client server : Party}

theorem numbersBetween_ofNat (first : ℕ) {count : ℕ} (h : count < 2 ^ 32) :
    numbersBetween (UInt32.ofNat first) (UInt32.ofNat (first + count)) =
      (List.range' first count).map UInt32.ofNat := by
  have hlength : (UInt32.ofNat (first + count) - UInt32.ofNat first).toNat = count := by
    rw [UInt32.ofNat_add, UInt32.add_comm, UInt32.add_sub_cancel, toNat_ofNat_of_lt h]
  rw [numbersBetween, hlength, List.range'_eq_map_range, List.map_map]
  apply List.map_congr_left
  intro i _
  exact (UInt32.ofNat_add first i).symm

theorem numbersBetween_self (number : UInt32) : numbersBetween number number = [] := by
  rw [numbersBetween, UInt32.sub_self]
  rfl

theorem numbersBetween_succ (number : UInt32) : numbersBetween number (number + 1) = [number] := by
  rw [numbersBetween, UInt32.add_comm, UInt32.add_sub_cancel]
  show [number + 0] = [number]
  rw [UInt32.add_zero]

theorem map_eq_map_of_forall₂ {α β γ : Type} {R : α → β → Prop} {f : α → γ} {g : β → γ}
    {xs : List α} {ys : List β} (h : List.Forall₂ R xs ys) (hsame : ∀ x y, R x y → f x = g y) :
    xs.map f = ys.map g := by
  induction h with
  | nil => rfl
  | cons hfirst _ ih => rw [List.map_cons, List.map_cons, hsame _ _ hfirst, ih]

/-- A party that knows its peer is in lockstep with it. -/
theorem Conversing.inLockstep (h : Conversing P ctx party peer) (hrange : party.InRange)
    (hactive : ¬ Inactive party.con) (hknows : KnowsPeer peer.con) : InLockstep P party peer := by
  obtain ⟨s, t, there, back, hstep, hparty, hpeer, hthere, -⟩ := h.inStep
  have hctx := hpeer.speaks.srHashingContext
  have hnext := hstep.sends.next
  have hshort : there.length < 2 ^ 32 := by
    have hlast : s.next < 2 ^ 32 := hparty.next ▸ hrange
    omega
  have hnumbers : (peer.packets P).map RastaPacket.sequenceNumber =
      (there.map Frame.number).map UInt32.ofNat := by
    rw [Party.packets_eq hctx, List.map_map, List.map_map]
    exact map_eq_map_of_forall₂ hthere fun _ _ hshows => hshows.number
  have hmessages : (peer.packets P).flatMap (messagesIn P) = there.flatMap Frame.messages := by
    rw [Party.packets_eq hctx, List.flatMap_def, List.flatMap_def, List.map_map]
    exact congrArg List.flatten
      (map_eq_map_of_forall₂ hthere fun _ _ hshows => hshows.messages)
  refine ⟨hparty.undemanding, fun hinactive => absurd hinactive hactive, fun _ => ?_, ?_⟩
  · rw [hnumbers, hstep.sends.numbers, nextArrival, if_pos hknows, hpeer.expected,
      hparty.speaks.next, ← hnext, numbersBetween_ofNat _ hshort]
  · rw [hmessages, ← hpeer.delivered, hparty.speaks.queue, ← hparty.pushed]
    exact hstep.sends.messages

theorem not_knowsPeer_of_inactive {con : Connection} (h : Inactive con) : ¬ KnowsPeer con := by
  rintro (hup | ⟨hstart, -⟩)
  · rcases h with hstate | hstate
    · exact absurd (hstate.symm.trans hup) (by decide)
    · exact absurd (hstate.symm.trans hup) (by decide)
  · rcases h with hstate | hstate
    · exact absurd (hstate.symm.trans hstart) (by decide)
    · exact absurd (hstate.symm.trans hstart) (by decide)

theorem not_knowsPeer_of_client {con : Connection} (hstate : con.currentState = .start)
    (hrole : con.role = .client) : ¬ KnowsPeer con := by
  rintro (hup | ⟨-, hserver⟩)
  · exact absurd (hstate.symm.trans hup) (by decide)
  · exact absurd (hrole.symm.trans hserver) (by decide)

theorem undemanding_nil : Undemanding [] := by
  intro pdu hpdu
  cases hpdu

/-- Nothing is in flight from a party that takes no part yet. -/
theorem inLockstep_of_unsent (houtput : party.output = []) (hincoming : peer.incoming = [])
    (hinactive : Inactive party.con) (hpushed : party.pushed = []) (happended : peer.appended = [])
    (hqueue : party.con.fifoSend.items = []) : InLockstep P party peer := by
  have hpackets : peer.packets P = [] := by
    rw [Party.packets, hincoming]
    rfl
  refine ⟨?_, fun _ => hpackets, fun hactive => absurd hinactive hactive, ?_⟩
  · rw [houtput]
    exact undemanding_nil
  · rw [hpackets, hpushed, happended, hqueue]
    rfl

/-- The first PDU of a party is in flight. -/
theorem Begun.inLockstep {type : RastaConnType} {confirms : UInt32} {time : ℕ} {bytes : Bytes}
    (h : Begun P party) (hgreets : Greets P ctx type confirms time party.con bytes)
    (htype : type ≠ .data) (hctx : peer.con.srHashingContext = ctx)
    (hincoming : peer.incoming = [bytes]) (hactive : ¬ Inactive party.con)
    (hknows : ¬ KnowsPeer peer.con) (hpushed : party.pushed = []) (happended : peer.appended = [])
    (hqueue : party.con.fifoSend.items = []) : InLockstep P party peer := by
  have hpackets : peer.packets P = [decodePdu P ctx bytes] := by
    rw [Party.packets_eq hctx, hincoming]
    rfl
  refine ⟨h.undemanding, fun hinactive => absurd hinactive hactive, fun _ => ?_, ?_⟩
  · rw [hpackets, nextArrival, if_neg hknows, h.snT, numbersBetween_succ, ← hgreets.number]
    rfl
  · have hnone : messagesIn P (decodePdu P ctx bytes) = [] := by
      rw [messagesIn, hgreets.type, if_neg htype]
    rw [hpackets, List.flatMap_singleton, hnone, hpushed, happended, hqueue]
    rfl

/-- The first PDU of a party was taken, and nothing else was sent. -/
theorem Begun.inLockstep_taken (h : Begun P party) (hincoming : peer.incoming = [])
    (hknows : KnowsPeer peer.con)
    (hsnR : peer.con.snR = party.con.config.initialSequenceNumber + 1)
    (hpushed : party.pushed = []) (happended : peer.appended = [])
    (hqueue : party.con.fifoSend.items = []) : InLockstep P party peer := by
  have hpackets : peer.packets P = [] := by
    rw [Party.packets, hincoming]
    rfl
  refine ⟨h.undemanding, fun _ => hpackets, fun _ => ?_, ?_⟩
  · rw [hpackets, nextArrival, if_pos hknows, hsnR, h.snT, numbersBetween_self]
    rfl
  · rw [hpackets, hpushed, happended, hqueue]
    rfl

theorem Progress.inLockstep (h : Progress P ctx client server) (hclient : client.InRange)
    (hserver : server.InRange) : InLockstep P client server ∧ InLockstep P server client := by
  cases h with
  | apart h =>
    exact ⟨inLockstep_of_unsent h.output.1 h.incoming.2 h.clientState h.pushed.1 h.appended.2
        h.clientWaiting.fifoSend,
      inLockstep_of_unsent h.output.2 h.incoming.1 h.serverState h.pushed.2 h.appended.1
        h.serverWaiting.fifoSend⟩
  | requested h =>
    obtain ⟨bytes, _, _, hincoming, hgreets, -⟩ := h.request
    exact ⟨h.begun.inLockstep hgreets nofun h.serverWaiting.srHashingContext hincoming
        (not_inactive_of_start h.clientState) (not_knowsPeer_of_inactive h.serverState) h.pushed.1
        h.appended.2 h.clientWaiting.fifoSend,
      inLockstep_of_unsent h.output h.incoming h.serverState h.pushed.2 h.appended.1
        h.serverWaiting.fifoSend⟩
  | answering h =>
    obtain ⟨bytes, _, hincoming, hgreets⟩ := h.response
    exact ⟨h.clientBegun.inLockstep_taken h.incoming
        (.inr ⟨h.serverState, h.serverRole⟩) h.snR h.pushed.1 h.appended.2 h.clientWaiting.fifoSend,
      h.serverBegun.inLockstep hgreets nofun h.clientWaiting.srHashingContext hincoming
        (not_inactive_of_start h.serverState) (not_knowsPeer_of_client h.clientState h.clientRole)
        h.pushed.2 h.appended.1 h.serverWaiting.fifoSend⟩
  | underWay h =>
    have hclientActive : ¬ Inactive client.con := by
      unfold Inactive
      rw [h.client]
      decide
    have hserverActive : ¬ Inactive server.con := by
      rcases h.server with hup | ⟨hstart, -⟩
      · unfold Inactive
        rw [hup]
        decide
      · exact not_inactive_of_start hstart
    have hserverKnows : KnowsPeer server.con :=
      h.server.imp_right fun ⟨hstart, hrole, _⟩ => ⟨hstart, hrole⟩
    exact ⟨h.conversing.inLockstep hclient hclientActive hserverKnows,
      h.conversing.symm.inLockstep hserver hserverActive (.inl h.client)⟩

theorem arrivalValid_of_nothing (hincoming : party.incoming = []) : ArrivalValid P party := by
  intro packet hpacket
  rw [Party.packets, hincoming] at hpacket
  cases hpacket

theorem arrivalValid_of_head {bytes : Bytes} {rest : List Bytes}
    (hctx : party.con.srHashingContext = ctx) (hincoming : party.incoming = bytes :: rest)
    (hvalid : srSnRangeValid party.con (decodePdu P ctx bytes) = true ∧
      srCsValid party.con (decodePdu P ctx bytes) = true ∧
      srSnInSeq party.con (decodePdu P ctx bytes) = true) : ArrivalValid P party := by
  intro packet hpacket
  rw [Party.packets_eq hctx, hincoming] at hpacket
  obtain rfl : decodePdu P ctx bytes = packet := Option.some.inj hpacket
  exact hvalid

theorem Conversing.arrivalValid {role : RastaRole} (h : Conversing P ctx party peer)
    (hrange : party.InRange) (hclock : ClockInRange party.con)
    (hundisturbed : Undisturbed P party role .deliver) :
    ArrivalValid P party := by
  obtain ⟨s, hparty⟩ := h.attends
  cases hincoming : party.incoming with
  | nil => exact arrivalValid_of_nothing hincoming
  | cons bytes rest =>
    have hpasses := (h.arrival hrange hclock hundisturbed hincoming).1
    exact arrivalValid_of_head hparty.speaks.srHashingContext hincoming
      ⟨hpasses.range, hpasses.confirmed, hpasses.sequence⟩

theorem Progress.client_arrival (h : Progress P ctx client server) (hrange : client.InRange)
    (hclock : ClockInRange client.con) (hundisturbed : Undisturbed P client .client .deliver) :
    ArrivalValid P client := by
  cases h with
  | apart h => exact arrivalValid_of_nothing h.incoming.1
  | requested h => exact arrivalValid_of_nothing h.incoming
  | answering h =>
    obtain ⟨bytes, _, hincoming, hgreets⟩ := h.response
    have hchecks := h.checks hgreets
    simp only [srCheckPacket, Bool.and_eq_true] at hchecks
    obtain ⟨⟨⟨⟨-, hsnRange⟩, hconfirmed⟩, hsequence⟩, -⟩ := hchecks
    exact arrivalValid_of_head h.clientWaiting.srHashingContext hincoming
      ⟨hsnRange, hconfirmed, hsequence⟩
  | underWay h => exact h.conversing.arrivalValid hrange hclock hundisturbed

theorem Progress.server_arrival (h : Progress P ctx client server) (hrange : server.InRange)
    (hclock : ClockInRange server.con) (hundisturbed : Undisturbed P server .server .deliver) :
    ArrivalValid P server := by
  cases h with
  | apart h => exact arrivalValid_of_nothing h.incoming.2
  | requested h =>
    obtain ⟨bytes, _, _, hincoming, hgreets, -⟩ := h.request
    refine arrivalValid_of_head h.serverWaiting.srHashingContext hincoming ⟨?_, ?_, ?_⟩
    · simp [srSnRangeValid, hgreets.type]
    · simp [srCsValid, hgreets.type, hgreets.confirms]
    · simp [srSnInSeq, hgreets.type]
  | answering h => exact arrivalValid_of_nothing h.incoming
  | underWay h => exact h.conversing.symm.arrivalValid hrange hclock hundisturbed

end Conclusion

section Session

variable {P : Platform} {ctx : RastaHashingContext} {client server : Connection} {s : Session}
  {event : RastaRole × Activity}

/-- The invariant of a session without loss. -/
def InProgress (P : Platform) (ctx : RastaHashingContext) (s : Session) : Prop :=
  Progress P ctx s.client s.server

theorem InProgress.step (h : InProgress P ctx s) (hok : LossFree P s event) :
    InProgress P ctx (sessionStep P s event) := by
  obtain ⟨role, activity⟩ := event
  cases role with
  | client => exact h.client_step hok.client hok.clock hok.undisturbed
  | server => exact h.server_step hok.server hok.clock hok.undisturbed

theorem InProgress.deliversValid (h : InProgress P ctx s) (hok : LossFree P s event) :
    DeliversValid P s event := by
  obtain ⟨role, activity⟩ := event
  rintro rfl
  cases role with
  | client => exact h.client_arrival hok.client hok.clock hok.undisturbed
  | server => exact h.server_arrival hok.server hok.clock hok.undisturbed

/-- Two endpoints before `sr_connect`. -/
theorem inProgress_idle (hclient : Fresh ctx client) (hserver : Fresh ctx server)
    (hclosed : Inactive client) (hwaiting : Inactive server)
    (hintroduced : Introduced P client server) (hclientClock : Monotone client.clock)
    (hserverClock : Monotone server.clock) :
    InProgress P ctx (idleSession client server) := by
  have hfresh : ∀ {con : Connection}, Fresh ctx con → Monotone con.clock → Waiting ctx con :=
    fun h hmonotone => ⟨h.running, h.fifoSend, h.fifoRetransmission, h.lasterror, h.hashingContext,
      h.srHashingContext, h.kexMode, hmonotone⟩
  exact .apart ⟨⟨hfresh hclient hclientClock, hfresh hserver hserverClock, hintroduced, ⟨rfl, rfl⟩,
    ⟨rfl, rfl⟩⟩, hclosed, hwaiting, ⟨rfl, rfl⟩, ⟨rfl, rfl⟩⟩

end Session

section Example

/-- Both endpoints send a message, and a heartbeat of the client is still under way. -/
def exampleConversation : List (RastaRole × Activity) :=
  [(.client, .own (.connect true)), (.server, .deliver), (.client, .deliver),
    (.client, .own (.send [[0x61], [0x62, 0x63]])), (.client, .own .dataSend), (.server, .deliver),
    (.server, .deliver), (.server, .own (.send [[0x64]])), (.client, .own .heartbeat),
    (.server, .own .dataSend), (.client, .deliver)]

theorem exampleClock_monotone (start : ℕ) :
    Monotone fun reading : ℕ => (start + reading) * 10 ^ 6 := by
  intro i j hij
  exact Nat.mul_le_mul_right _ (Nat.add_le_add_left hij start)

theorem example_introduced : Introduced referencePlatform exampleClient exampleServer :=
  ⟨rfl, rfl, by decide⟩

/-- `sr_connect` is called again on a connection that is established. -/
def exampleReconnection : List (RastaRole × Activity) :=
  (.client, .own (.connect true)) :: exampleGreeting ++
    [(.client, .own (.connect true)), (.server, .deliver)]

theorem openedSession_eq (P : Platform) (client server : Connection) :
    sessionStep P (idleSession client server) (.client, .own (.connect true)) =
      openedSession P client server :=
  rfl

end Example

end LibRasta.Retransmission
