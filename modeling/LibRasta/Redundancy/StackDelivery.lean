/-
Module: LibRasta/Redundancy/StackDelivery.lean
source: src/c/redundancy/rasta_red_multiplexer.c, src/c/redundancy/rastaredundancy.c, src/c/retransmission/handlers.c, src/c/retransmission/safety_retransmission.c, src/c/transport/events.c
digest: Over transport channels that lose, repeat and reorder, the redundancy layer gives the safety layer links that lose nothing: messages arrive in order and once, and without timeouts nothing is requested again.
-/

import LibRasta.Redundancy.StackRefinement

set_option autoImplicit false
set_option relaxedAutoImplicit false

namespace LibRasta.Redundancy

open LibRasta.Lib
open LibRasta.Util
open LibRasta.Factory
open LibRasta.Retransmission

section Layers

variable {P : Platform} {ctx : RastaHashingContext} {client server : Party}

theorem Dormant.clean {con : Connection} (h : Dormant ctx con) : Clean ctx con :=
  ⟨h.lasterror, h.hashingContext, h.srHashingContext⟩

theorem Linked.clean {d : Lib.Renumbering.Direction Bytes} (h : Linked P ctx client server d) :
    Clean ctx client.con :=
  ⟨h.sending.lasterror, h.sending.hashingContext, h.sending.srHashingContext⟩

theorem SessionInv.clean {s : Session} (h : SessionInv P ctx s) (role : RastaRole) :
    Clean ctx (s.at role).con := by
  rcases h with hopening | hjoined
  · obtain ⟨d, hd, -⟩ := hopening.there
    cases role with
    | client => exact Linked.clean hd
    | server => exact Dormant.clean hopening.dormant
  · obtain ⟨d, hd⟩ := hjoined.there
    obtain ⟨d', hd'⟩ := hjoined.back
    cases role with
    | client => exact Linked.clean hd
    | server => exact Linked.clean hd'

theorem Waiting.clean {con : Connection} (h : Waiting ctx con) : Clean ctx con :=
  ⟨h.lasterror, h.hashingContext, h.srHashingContext⟩

theorem Conversing.clean (h : Conversing P ctx client server) : Clean ctx client.con := by
  obtain ⟨s, hparty⟩ := h.attends
  exact ⟨hparty.speaks.lasterror, hparty.speaks.hashingContext, hparty.speaks.srHashingContext⟩

theorem InProgress.clean {s : Session} (h : InProgress P ctx s) (role : RastaRole) :
    Clean ctx (s.at role).con := by
  have hmeeting : Meeting P ctx s.client s.server → Clean ctx (s.at role).con := by
    intro hmeeting
    cases role with
    | client => exact Waiting.clean hmeeting.clientWaiting
    | server => exact Waiting.clean hmeeting.serverWaiting
  cases h with
  | apart h => exact hmeeting h.toMeeting
  | requested h => exact hmeeting h.toMeeting
  | answering h => exact hmeeting h.toMeeting
  | underWay h =>
    cases role with
    | client => exact Conversing.clean h.conversing
    | server => exact Conversing.clean h.conversing.symm

/-- The conditions of a session on a step at one of its parties. -/
theorem sessionOk_sessionOf {role : RastaRole} {self peer : Party} {activity : Activity}
    (hsession : activity.inSession = true) (hself : self.InRange) (hpeer : peer.InRange) :
    SessionOk (sessionOf role self peer) (role, activity) := by
  cases role with
  | client => exact ⟨hsession, hself, hpeer⟩
  | server => exact ⟨hsession, hpeer, hself⟩

theorem sessionOf_at (role : RastaRole) (self peer : Party) :
    (sessionOf role self peer).at role = self := by
  cases role with
  | client => rfl
  | server => rfl

theorem StackEvent.own_inSession {event : Event} (h : StackEvent.inSession (.own event) = true) :
    (Activity.own event).inSession = true := by
  cases event <;> first | exact h | cases h

/-- The session in which anything may happen that opens no second session. -/
def sessionLayer (P : Platform) (ctx : RastaHashingContext) : Layer P ctx where
  ok := Lossless
  permits := EventFits
  admits _ _ := True
  inv := SessionInv P ctx
  keeps := SessionInv.paced
  clean role h := SessionInv.clean h role
  wait _ _ _ := trivial
  deliver _ _ hself hpeer _ := ⟨sessionOk_sessionOf rfl hself hpeer, trivial, not_false⟩
  own {role self peer event} hsession hself hpeer hpermits := by
    refine ⟨sessionOk_sessionOf (StackEvent.own_inSession hsession) hself hpeer, ?_, not_false⟩
    show EventFits ((sessionOf role self peer).at role).con event
    rw [sessionOf_at]
    exact hpermits

/-- What arrives is in time and has room. -/
def Admits (P : Platform) (con : Connection) (packet : RastaPacket) : Prop :=
  (Timely con packet ∧ HasRoom P con packet) ∧ ClockInRange con

instance (P : Platform) (con : Connection) (packet : RastaPacket) :
    Decidable (Admits P con packet) :=
  inferInstanceAs (Decidable ((_ ∧ _) ∧ _))

/-- Nothing disconnects. -/
def Undisrupted (con : Connection) (event : Event) : Prop := KeepsOpen con event ∧ ClockInRange con

instance (con : Connection) (event : Event) : Decidable (Undisrupted con event) :=
  inferInstanceAs (Decidable (_ ∧ _))

theorem undisturbed_own {self : Party} {role : RastaRole} {event : Event}
    (h : KeepsOpen self.con event) : Undisturbed P self role (.own event) := by
  cases event <;> first | exact h | exact h.elim

/-- The session in which nothing disconnects, and what arrives is in time and has room. -/
def lockstepLayer (P : Platform) (ctx : RastaHashingContext) : Layer P ctx where
  ok := PacedLossFree P
  permits := Undisrupted
  admits := Admits P
  inv := InProgress P ctx
  keeps := InProgress.paced
  clean role h := InProgress.clean h role
  wait _ _ _ := trivial
  deliver {role self peer bytes rest} hincoming hctx hself hpeer hadmits := by
    have hsession := @sessionOk_sessionOf role self peer .deliver rfl hself hpeer
    refine ⟨?_, ?_, hsession.client, hsession.server⟩
    · show Undisturbed P ((sessionOf role self peer).at role) role .deliver
      rw [sessionOf_at]
      intro packet hpacket
      rw [Party.packets_eq hctx, hincoming] at hpacket
      obtain rfl : decodePdu P ctx bytes = packet := Option.some.inj hpacket
      exact hadmits.1
    · show ClockInRange ((sessionOf role self peer).at role).con
      rw [sessionOf_at]
      exact hadmits.2
  own {role self peer event} hsession hself hpeer hpermits := by
    have hok := @sessionOk_sessionOf role self peer _ (StackEvent.own_inSession hsession) hself hpeer
    refine ⟨?_, ?_, hok.client, hok.server⟩
    · show Undisturbed P ((sessionOf role self peer).at role) role (.own event)
      rw [sessionOf_at]
      exact undisturbed_own hpermits.1
    · show ClockInRange ((sessionOf role self peer).at role).con
      rw [sessionOf_at]
      exact hpermits.2

end Layers

section Delivery

variable {P : Platform} {ctx : RastaHashingContext} {client server : Endpoint}

/-- Where a run over the transport channels leads, a run of the session over links that lose nothing
leads to the same session, and its invariant holds there. -/
theorem FreshPair.simulated (h : FreshPair ctx client server) (L : Layer P ctx)
    (hinv : L.inv (openedSession P client.con (rastaAccept server.con)))
    (events : List (RastaRole × StackEvent))
    (hok : RunOk (stackStep P) (StackOk P L.permits L.admits) (openedStack P client server)
      events) :
    let s := run (stackStep P) (openedStack P client server) events
    Leads (pacedStep P) L.ok (fun t => t = s.session ∧ L.inv s.session)
      (openedSession P client.con (rastaAccept server.con)) := by
  intro s
  refine (L.run_simulated h.crcLen (h.reached L hinv) hok).mono fun t hreached => ?_
  obtain ⟨rfl, hend, -⟩ := hreached
  exact ⟨rfl, hend⟩

theorem FreshPair.accepting (h : FreshPair ctx client server) :
    Fresh ctx (rastaAccept server.con) :=
  ⟨h.serverFresh.running, h.serverFresh.fifoSend, h.serverFresh.fifoRetransmission,
    h.serverFresh.fifoReceive, h.serverFresh.lasterror, h.serverFresh.hashingContext,
    h.serverFresh.srHashingContext, h.serverFresh.kexMode⟩

theorem FreshPair.opening (P : Platform) (h : FreshPair ctx client server) :
    SessionInv P ctx (openedSession P client.con (rastaAccept server.con)) :=
  .inl (openedSession_opening h.clientFresh h.connectable h.accepting h.waiting)

/-- The session in which nothing has been requested yet is in lockstep. -/
theorem FreshPair.inProgress (P : Platform) (h : FreshPair ctx client server)
    (hclosed : Inactive client.con) (hintroduced : Introduced P client.con server.con)
    (hclientClock : Monotone client.con.clock) (hserverClock : Monotone server.con.clock)
    (hclock : ClockInRange client.con) :
    InProgress P ctx (openedSession P client.con (rastaAccept server.con)) := by
  have haccepted : Introduced P client.con (rastaAccept server.con) :=
    ⟨hintroduced.clientId, hintroduced.serverId, hintroduced.version⟩
  have hidle := inProgress_idle h.clientFresh h.accepting hclosed h.waiting haccepted hclientClock
    hserverClock
  have hrange : ∀ con : Connection, Party.InRange
      { con := con, incoming := [], output := [], pushed := [], appended := [] } :=
    fun con => con.config.initialSequenceNumber.toNat_lt
  rw [← openedSession_eq]
  exact hidle.step ⟨⟨rfl, hclosed⟩, hclock, hrange _, hrange _⟩

end Delivery

section Example

def exampleSlots : ℕ → RastaRedundancyPacketWrapper :=
  fun _ => { packet := zeroRedundancyPacket, receivedTimestamp := 0 }

def exampleClientEndpoint : Endpoint where
  con := exampleClient
  channel := redundancyChannelAlloc exampleConfig exampleSlots 2

def exampleServerEndpoint : Endpoint where
  con := exampleServer
  channel := redundancyChannelAlloc exampleRemoteConfig exampleSlots 2

theorem examplePair :
    FreshPair exampleClient.hashingContext exampleClientEndpoint exampleServerEndpoint :=
  ⟨exampleClient_fresh, exampleServer_fresh, by decide, .inl rfl, rfl, by decide, rfl, rfl⟩

/-- The handshake, then two Data PDUs that arrive in the wrong order, the second one twice. -/
def exampleReordering : List (RastaRole × StackEvent) :=
  [(.server, .read 0 [0]), (.client, .read 1 [0]), (.server, .read 1 [1, 1]),
    (.client, .own (.send [[0x61]])), (.client, .own .dataSend),
    (.client, .own (.send [[0x62, 0x63]])), (.client, .own .dataSend),
    (.server, .read 0 [3]), (.server, .read 1 [3]), (.server, .read 1 [2, 0])]

theorem exampleReordering_ok :
    RunOk (stackStep referencePlatform) (StackOk referencePlatform EventFits fun _ _ => True)
      (openedStack referencePlatform exampleClientEndpoint exampleServerEndpoint)
      exampleReordering := by
  decide +kernel

end Example

end LibRasta.Redundancy
