/-
Module: LibRasta/Experimental/SessionKeys.lean
source: src/c/experimental/handlers.c, src/c/redundancy/rasta_red_multiplexer.c, src/c/redundancy/rastaredundancy.c, src/c/rasta.c
digest: Which key a PDU is sent under and which key it is verified under, for two endpoints with their redundancy channels and an in-order link in each direction.
-/

import LibRasta.Experimental.ContextAgreement
import LibRasta.Redundancy.Progress
import LibRasta.Retransmission.Session

set_option autoImplicit false
set_option relaxedAutoImplicit false

namespace LibRasta.Redundancy

open LibRasta.Lib
open LibRasta.Util
open LibRasta.Retransmission

/-- One endpoint with the PDUs on the link to it, oldest first. -/
structure Side where
  endpoint : Endpoint
  incoming : List SentPdu
  -- its `handle_kex_response` or `handle_kex_auth` has completed
  exchanged : Bool

structure KeyedSession where
  client : Side
  server : Side

/-- What can happen at one side. -/
inductive Move where
  -- a timer or a call of the application
  | own (event : Event)
  -- the oldest PDU on the link is read
  | deliver (channelId rounds : ℕ)
  -- the PDU at a place of the link is lost
  | lose (place : ℕ)

section Translation

variable (P : Platform)

/-- `sr_connect` and `rasta_accept` call `redundancy_channel_init`. -/
def InitialisesChannel (con : Connection) : Event → Prop
  | .connect _ => con.aborted = false ∧ Connectable con
  | .accept => con.aborted = false
  | _ => False

instance (con : Connection) (event : Event) : Decidable (InitialisesChannel con event) :=
  match event with
  | .connect _ => inferInstanceAs (Decidable (con.aborted = false ∧ Connectable con))
  | .accept => inferInstanceAs (Decidable (con.aborted = false))
  | .receive _ | .dataSend | .heartbeat | .connectionExpired | .timedKeyExchange | .send _
  | .connectReturn | .disconnect | .transportClosed | .recv | .acceptReturn =>
    inferInstanceAs (Decidable False)

/-- An event of the safety layer, with what it does to the channel below. -/
def ownStep (endpoint : Endpoint) (event : Event) : Endpoint where
  con := endpointStep P endpoint.con event
  channel :=
    if InitialisesChannel endpoint.con event then (redundancyChannelInit endpoint).channel
    else endpoint.channel

/-- One PDU arrives in a read of its own; `none` while the loop of `receive_packet` has not ended
after that many rounds. -/
def arrive (endpoint : Endpoint) (channelId rounds : ℕ) (pdu : SentPdu) : Option Endpoint :=
  if h : pdu.dataToSend.length < 2 ^ 64 then
    channelReceiveEvent P rounds endpoint
      { channelId := channelId, buffer := pdu.dataToSend, length_lt := h }
  else none

/-- The hashing context `handle_received_data` finds for a read. -/
def verificationContext (endpoint : Endpoint) (channelId : ℕ) : RastaHashingContext :=
  (runChannelDiagnostics endpoint channelId).con.srHashingContext

/-- A call of `sr_receive` in which `handle_kex_response` or `handle_kex_auth` completes. -/
def CompletesExchange (handover : Handover) : Prop :=
  (handover.packet.type = .kexResponse ∧ handover.con.currentState = .kexResp ∨
      handover.packet.type = .kexAuthentication ∧ handover.con.currentState = .kexAuth) ∧
    (srReceive P handover.con handover.packet).1.currentState = .up

instance (handover : Handover) : Decidable (CompletesExchange P handover) :=
  inferInstanceAs (Decidable (_ ∧ _))

/-- The calls of `sr_receive` between two states of an endpoint. -/
def newHandovers (before after : Endpoint) : List Handover :=
  after.channel.delivered.drop before.channel.delivered.length

/-- PDUs enter the link to the side. -/
def Side.link (side : Side) (pdus : List SentPdu) : Side :=
  { side with incoming := side.incoming ++ pdus }

/-- One move of `self`: both sides afterwards. -/
def moveStep (self peer : Side) : Move → Side × Side
  | .own event =>
    let after := ownStep P self.endpoint event
    ({ self with endpoint := after }, peer.link (newlySent self.endpoint.con after.con))
  | .deliver channelId rounds =>
    match self.incoming with
    | [] => (self, peer)
    | pdu :: rest =>
      match arrive P self.endpoint channelId rounds pdu with
      | none => (self, peer)
      | some after =>
        ({ endpoint := after
           incoming := rest
           exchanged := self.exchanged ||
            (newHandovers self.endpoint after).any fun handover => CompletesExchange P handover },
          peer.link (newlySent self.endpoint.con after.con))
  | .lose place => ({ self with incoming := self.incoming.eraseIdx place }, peer)

/-- One step of the session. -/
def keyedStep (s : KeyedSession) (step : RastaRole × Move) : KeyedSession :=
  match step.1 with
  | .client =>
    let after := moveStep P s.client s.server step.2
    { client := after.1, server := after.2 }
  | .server =>
    let after := moveStep P s.server s.client step.2
    { client := after.2, server := after.1 }

/-- An endpoint as `rasta_lib_init_configuration` leaves it, with an empty link to it. -/
def freshSide (config : RastaConfigInfo) (clock : ℕ → ℕ)
    (slots : ℕ → RastaRedundancyPacketWrapper) (transportChannelCount : ℕ) : Side where
  endpoint :=
    { con := rastaLibInitConfiguration config clock
      channel := redundancyChannelAlloc config slots transportChannelCount }
  incoming := []
  exchanged := false

end Translation

section Agreement

variable (P : Platform)

/-- The PDUs a move sends. -/
def sentBy (self peer : Side) (move : Move) : List SentPdu :=
  newlySent self.endpoint.con (moveStep P self peer move).1.endpoint.con

/-- A PDU that arrives is verified under the key it was sent under. -/
def VerifiedAsSent (self : Side) : Move → Prop
  | .deliver channelId _ =>
    self.endpoint.con.aborted = false → ∀ pdu ∈ self.incoming.take 1,
      (verificationContext self.endpoint channelId).key = pdu.hashKey
  | _ => True

instance (self : Side) (move : Move) : Decidable (VerifiedAsSent self move) :=
  match move with
  | .deliver _ _ => inferInstanceAs (Decidable (_ → _))
  | .own _ | .lose _ => inferInstanceAs (Decidable True)

/-- The move verifies under the right key, and what it sends after a completed exchange it sends
under `session_key`. -/
def KeysAgree (self peer : Side) (move : Move) : Prop :=
  VerifiedAsSent self move ∧
    (self.exchanged = true →
      ∀ pdu ∈ sentBy P self peer move, pdu.hashKey = self.endpoint.con.kexState.sessionKey)

instance (self peer : Side) (move : Move) : Decidable (KeysAgree P self peer move) :=
  inferInstanceAs (Decidable (_ ∧ _))

/-- A side that reads a PDU has one key in both copies of the hashing context. -/
def VerifiesConfigured (self : Side) : Move → Prop
  | .deliver _ _ =>
    self.endpoint.con.aborted = false → self.incoming ≠ [] →
      self.endpoint.con.srHashingContext.key = self.endpoint.con.hashingContext.key
  | _ => True

instance (self : Side) (move : Move) : Decidable (VerifiesConfigured self move) :=
  match move with
  | .deliver _ _ => inferInstanceAs (Decidable (_ → _))
  | .own _ | .lose _ => inferInstanceAs (Decidable True)

/-- The multiplexer and the channel of the side agree where it reads a PDU, and `session_key` is
the key of the channel where it sends one after a completed exchange. -/
def CopiesAgree (self peer : Side) (move : Move) : Prop :=
  VerifiesConfigured self move ∧
    (self.exchanged = true → sentBy P self peer move ≠ [] →
      self.endpoint.con.kexState.sessionKey = self.endpoint.con.hashingContext.key)

instance (self peer : Side) (move : Move) : Decidable (CopiesAgree P self peer move) :=
  inferInstanceAs (Decidable (_ ∧ _))

/-- The side that makes a step, and its peer. -/
def KeyedSession.sides (s : KeyedSession) : RastaRole → Side × Side
  | .client => (s.client, s.server)
  | .server => (s.server, s.client)

def StepKeysAgree (s : KeyedSession) (step : RastaRole × Move) : Prop :=
  KeysAgree P (s.sides step.1).1 (s.sides step.1).2 step.2

instance (s : KeyedSession) (step : RastaRole × Move) : Decidable (StepKeysAgree P s step) :=
  inferInstanceAs (Decidable (KeysAgree P _ _ _))

def StepCopiesAgree (s : KeyedSession) (step : RastaRole × Move) : Prop :=
  CopiesAgree P (s.sides step.1).1 (s.sides step.1).2 step.2

instance (s : KeyedSession) (step : RastaRole × Move) : Decidable (StepCopiesAgree P s step) :=
  inferInstanceAs (Decidable (CopiesAgree P _ _ _))

end Agreement

section Receiving

variable (P : Platform) {endpoint after : Endpoint}

theorem clockReads_fixed {con base : Connection}
    (h : ∃ reads, base = { con with clockReads := reads }) : Fixed con base := by
  obtain ⟨_, rfl⟩ := h
  exact ⟨rfl, rfl, rfl, rfl, rfl, rfl, rfl, rfl, rfl, rfl, rfl, id⟩

theorem setLasterror_fixed (con : Connection) (lasterror : RastaErrorType) :
    Fixed con { con with lasterror := lasterror } :=
  ⟨rfl, rfl, rfl, rfl, rfl, rfl, rfl, rfl, rfl, rfl, rfl, id⟩

theorem runChannelDiagnostics_con (endpoint : Endpoint) (channelId : ℕ) :
    ∃ reads, (runChannelDiagnostics endpoint channelId).con =
      { endpoint.con with clockReads := reads } := by
  unfold runChannelDiagnostics
  simp only
  split
  · exact ⟨_, rfl⟩
  · exact ⟨_, rfl⟩

/-- The statistics come first, but leave the key. -/
theorem verificationContext_eq (endpoint : Endpoint) (channelId : ℕ) :
    verificationContext endpoint channelId = endpoint.con.srHashingContext := by
  obtain ⟨reads, hreads⟩ := runChannelDiagnostics_con endpoint channelId
  rw [verificationContext, hreads]

theorem receivePdu_fixed (endpoint : Endpoint) (channelId : ℕ) (buffer : Bytes) :
    Fixed endpoint.con (receivePdu P endpoint channelId buffer).1.con := by
  have hdispatched := dispatchPdu_dispatched P (setLasterror endpoint
    (handleReceivedData P endpoint.con buffer (leShortToHost P buffer 0).toNat).2) channelId
    (handleReceivedData P endpoint.con buffer (leShortToHost P buffer 0).toNat).1
  exact (setLasterror_fixed endpoint.con _).trans (clockReads_fixed hdispatched.frame.con)

theorem receiveLoop_fixed (channelId rounds : ℕ) (lenRemaining : ℕ) (buffer : Bytes)
    (endpoint : Endpoint) (result : Bool) {received : Endpoint × Bool}
    (h : receiveLoop P channelId rounds lenRemaining buffer endpoint result = some received) :
    Fixed endpoint.con received.1.con := by
  refine @receiveLoop_rule P (fun after _ => Fixed endpoint.con after.con) buffer channelId ?_
    rounds lenRemaining 0 endpoint result received (.refl _) h
  intro middle _ place hmiddle
  exact hmiddle.trans (receivePdu_fixed P middle channelId _)

theorem handOver_fixed (endpoint : Endpoint) (queuePacket : RastaRedundancyPacket) :
    Fixed endpoint.con (handOver P endpoint queuePacket).1.con :=
  (setLasterror_fixed endpoint.con _).trans ((srReceive_received P _ _).fixed P)

theorem deliverAfter_fixed (received : Endpoint × Bool) :
    Fixed received.1.con (deliverAfter P received).con := by
  unfold deliverAfter
  split
  · refine @deliverLoop_rule P (fun e => Fixed received.1.con e.con)
      (fun e => Fixed received.1.con e.con) (fun _ h => h) ?_ _ _ _ (.refl _)
    intro endpoint element hinv _ _
    have hhanded := hinv.trans (handOver_fixed P endpoint element.packet)
    exact ⟨fun _ => hhanded, fun _ => hhanded⟩
  · exact .refl _

theorem channelReceiveEvent_fixed {rounds : ℕ} {read : Read}
    (h : channelReceiveEvent P rounds endpoint read = some after) :
    Fixed endpoint.con after.con := by
  unfold channelReceiveEvent at h
  split at h
  · cases h
    exact .refl _
  · obtain ⟨received, hreceived, rfl⟩ := Option.map_eq_some_iff.mp h
    have hread := receiveLoop_fixed P _ _ _ _ _ _ hreceived
    have hdiagnosed := clockReads_fixed (runChannelDiagnostics_con endpoint read.channelId)
    exact (hdiagnosed.trans hread).trans (deliverAfter_fixed P received)

theorem arrive_fixed {channelId rounds : ℕ} {pdu : SentPdu}
    (h : arrive P endpoint channelId rounds pdu = some after) :
    Fixed endpoint.con after.con := by
  unfold arrive at h
  split at h
  · exact channelReceiveEvent_fixed P h
  · cases h

end Receiving

section Invariant

variable {P : Platform} {key : Bytes} {self peer : Side}

/-- The channel has the configured key, and so has every PDU sent or on the way. -/
structure Side.Configured (key : Bytes) (side : Side) : Prop where
  channel : side.endpoint.con.hashingContext.key = key
  coded : Coded side.endpoint.con
  incoming : ∀ pdu ∈ side.incoming, pdu.hashKey = key

theorem Side.Configured.sent (h : self.Configured key) {before : Connection} :
    ∀ pdu ∈ newlySent before self.endpoint.con, pdu.hashKey = key := by
  intro pdu hpdu
  rw [h.coded pdu (List.mem_of_mem_drop hpdu), h.channel]

theorem Side.Configured.link (h : self.Configured key) {pdus : List SentPdu}
    (hpdus : ∀ pdu ∈ pdus, pdu.hashKey = key) : (self.link pdus).Configured key where
  channel := h.channel
  coded := h.coded
  incoming := by
    intro pdu hpdu
    rcases List.mem_append.mp hpdu with hold | hnew
    · exact h.incoming pdu hold
    · exact hpdus pdu hnew

/-- The connection moves on, and PDUs leave the link. -/
theorem Side.Configured.advance (h : self.Configured key) (after : Endpoint)
    {incoming : List SentPdu} (hfixed : Fixed self.endpoint.con after.con)
    (hincoming : ∀ pdu ∈ incoming, pdu ∈ self.incoming) (exchanged : Bool) :
    Side.Configured key
      { endpoint := after, incoming := incoming, exchanged := exchanged } where
  channel := by rw [hfixed.hashingContext, h.channel]
  coded := hfixed.coded h.coded
  incoming := fun pdu hpdu => h.incoming pdu (hincoming pdu hpdu)

theorem moveStep_configured (hself : self.Configured key) (hpeer : peer.Configured key)
    (move : Move) :
    (moveStep P self peer move).1.Configured key ∧
      (moveStep P self peer move).2.Configured key := by
  cases move with
  | own event =>
    have hmoved := hself.advance (ownStep P self.endpoint event)
      (endpointStep_fixed P self.endpoint.con event) (fun _ h => h) self.exchanged
    exact ⟨hmoved, hpeer.link hmoved.sent⟩
  | deliver channelId rounds =>
    unfold moveStep
    cases hincoming : self.incoming with
    | nil => exact ⟨hself, hpeer⟩
    | cons pdu rest =>
      simp only
      cases harrived : arrive P self.endpoint channelId rounds pdu with
      | none => exact ⟨hself, hpeer⟩
      | some after =>
        have hrest : ∀ pdu ∈ rest, pdu ∈ self.incoming := by
          intro pdu hpdu
          rw [hincoming]
          exact List.mem_cons_of_mem _ hpdu
        have hmoved := hself.advance after (arrive_fixed P harrived) hrest
        exact ⟨hmoved _, hpeer.link (hmoved true).sent⟩
  | lose place =>
    exact ⟨hself.advance _ (.refl _) (fun _ h => List.mem_of_mem_eraseIdx h) self.exchanged, hpeer⟩

theorem verifiedAsSent_iff (hself : self.Configured key) (move : Move) :
    VerifiedAsSent self move ↔ VerifiesConfigured self move := by
  cases move with
  | own event => exact Iff.rfl
  | lose place => exact Iff.rfl
  | deliver channelId rounds =>
    simp only [VerifiedAsSent, VerifiesConfigured, verificationContext_eq, hself.channel]
    refine imp_congr_right fun _ => ?_
    cases hincoming : self.incoming with
    | nil => simp
    | cons pdu rest =>
      have hpdu : pdu.hashKey = key := hself.incoming pdu (by simp [hincoming])
      simp [hpdu]

/-- PDUs that all carry one key carry another one only if there are none or the keys agree. -/
theorem forall_hashKey_iff {pdus : List SentPdu} (h : ∀ pdu ∈ pdus, pdu.hashKey = key)
    (other : Bytes) : (∀ pdu ∈ pdus, pdu.hashKey = other) ↔ (pdus ≠ [] → other = key) := by
  constructor
  · intro hother hpdus
    obtain ⟨pdu, hpdu⟩ := List.exists_mem_of_ne_nil pdus hpdus
    rw [← hother pdu hpdu, h pdu hpdu]
  · intro hagree pdu hpdu
    rw [h pdu hpdu, hagree (List.ne_nil_of_mem hpdu)]

theorem keysAgree_iff (hself : self.Configured key) (hpeer : peer.Configured key) (move : Move) :
    KeysAgree P self peer move ↔ CopiesAgree P self peer move := by
  obtain ⟨hmoved, -⟩ := moveStep_configured (P := P) hself hpeer move
  have hsent : ∀ pdu ∈ sentBy P self peer move, pdu.hashKey = key := hmoved.sent
  unfold KeysAgree CopiesAgree
  rw [verifiedAsSent_iff hself, hself.channel]
  exact and_congr_right fun _ => imp_congr_right fun _ => forall_hashKey_iff hsent _

/-- Both sides of a session are configured with one key. -/
def KeyedSession.Configured (key : Bytes) (s : KeyedSession) : Prop :=
  s.client.Configured key ∧ s.server.Configured key

theorem keyedStep_configured {s : KeyedSession} (h : s.Configured key) (step : RastaRole × Move) :
    (keyedStep P s step).Configured key := by
  obtain ⟨hclient, hserver⟩ := h
  unfold keyedStep
  cases step.1 with
  | client => exact moveStep_configured hclient hserver step.2
  | server => exact (moveStep_configured hserver hclient step.2).symm

theorem run_configured {s : KeyedSession} (h : s.Configured key)
    (steps : List (RastaRole × Move)) : (run (keyedStep P) s steps).Configured key := by
  induction steps generalizing s with
  | nil => exact h
  | cons step rest ih => exact ih (keyedStep_configured h step)

theorem KeyedSession.Configured.step_iff {s : KeyedSession} (h : s.Configured key)
    (step : RastaRole × Move) : StepKeysAgree P s step ↔ StepCopiesAgree P s step := by
  obtain ⟨hclient, hserver⟩ := h
  unfold StepKeysAgree StepCopiesAgree
  cases step.1 with
  | client => exact keysAgree_iff hclient hserver step.2
  | server => exact keysAgree_iff hserver hclient step.2

theorem freshSide_configured (config : RastaConfigInfo) (clock : ℕ → ℕ)
    (slots : ℕ → RastaRedundancyPacketWrapper) (transportChannelCount : ℕ) :
    (freshSide config clock slots transportChannelCount).Configured
      (hashingContextOf config).key where
  channel := rfl
  coded := by
    intro pdu hpdu
    cases hpdu
  incoming := by
    intro pdu hpdu
    cases hpdu

end Invariant

section Runs

variable (P : Platform)

/-- For two endpoints with one configured key, PDUs are verified as sent and sent under the session
key in a run exactly if no side ever reads a PDU, or sends one after its exchange, while its
copies of the hashing context hold different keys. -/
theorem wire_keys_agree_iff {clientConfig serverConfig : RastaConfigInfo}
    (hkeys : (hashingContextOf clientConfig).key = (hashingContextOf serverConfig).key)
    (clientClock serverClock : ℕ → ℕ) (clientSlots serverSlots : ℕ → RastaRedundancyPacketWrapper)
    (clientChannels serverChannels : ℕ) (steps : List (RastaRole × Move)) :
    RunOk (keyedStep P) (StepKeysAgree P)
        ⟨freshSide clientConfig clientClock clientSlots clientChannels,
          freshSide serverConfig serverClock serverSlots serverChannels⟩ steps ↔
      RunOk (keyedStep P) (StepCopiesAgree P)
        ⟨freshSide clientConfig clientClock clientSlots clientChannels,
          freshSide serverConfig serverClock serverSlots serverChannels⟩ steps := by
  have hclient := freshSide_configured clientConfig clientClock clientSlots clientChannels
  have hserver := freshSide_configured serverConfig serverClock serverSlots serverChannels
  rw [← hkeys] at hserver
  have hstart : KeyedSession.Configured (hashingContextOf clientConfig).key
      ⟨freshSide clientConfig clientClock clientSlots clientChannels,
        freshSide serverConfig serverClock serverSlots serverChannels⟩ := ⟨hclient, hserver⟩
  refine forall_congr' fun t => forall_congr' fun ht => ?_
  obtain ⟨front, -, -, hbefore, -⟩ := mem_trace _ ht
  rw [hbefore]
  exact (run_configured hstart front).step_iff t.event

end Runs

/-- The two sides of `exampleKexClient` and `exampleKexPeer`, with one initial sequence number. -/
def exampleKeyedSession : KeyedSession where
  client :=
    freshSide { exampleConfig with kexMode := .opaqueMode, psk := [0x70] }
      (fun reading => (5000 + reading) * 10 ^ 6)
      (fun _ => { packet := zeroRedundancyPacket, receivedTimestamp := 0 }) 1
  server :=
    freshSide (exampleKexConfig 100) (fun reading => (9000 + reading) * 10 ^ 6)
      (fun _ => { packet := zeroRedundancyPacket, receivedTimestamp := 0 }) 1

/-- The handshake: connection request, response and heartbeat. -/
def exampleHandshakeSteps : List (RastaRole × Move) :=
  [(.server, .own .accept), (.client, .own (.connect true)), (.server, .deliver 0 1),
    (.client, .deliver 0 1), (.server, .deliver 0 1)]

/-- Key exchange request, response and authentication. -/
def exampleExchangeSteps : List (RastaRole × Move) :=
  [(.server, .deliver 0 1), (.client, .deliver 0 1), (.server, .deliver 0 1)]

/-- Up to the request nothing is wrong. -/
theorem wire_keys_agree_handshake :
    (run (keyedStep exchangePlatform) exampleKeyedSession
        exampleHandshakeSteps).server.endpoint.con.currentState = .kexReq ∧
      RunOk (keyedStep exchangePlatform) (StepKeysAgree exchangePlatform) exampleKeyedSession
        (exampleHandshakeSteps ++ [(.server, .deliver 0 1)]) := by
  refine ⟨by decide +kernel, ?_⟩
  have hcopies : RunOk (keyedStep exchangePlatform) (StepCopiesAgree exchangePlatform)
      exampleKeyedSession (exampleHandshakeSteps ++ [(.server, .deliver 0 1)]) := by
    decide +kernel
  have hkeys : (hashingContextOf { exampleConfig with kexMode := .opaqueMode, psk := [0x70] }).key =
      (hashingContextOf (exampleKexConfig 100)).key := rfl
  exact (wire_keys_agree_iff exchangePlatform hkeys _ _ _ _ _ _ _).mpr hcopies

/-- The exchange completes at both ends, yet the authentication and the heartbeat after it go out
under the configured key and are verified under the session key. -/
theorem session_key_not_on_wire :
    let done := run (keyedStep exchangePlatform) exampleKeyedSession
      (exampleHandshakeSteps ++ exampleExchangeSteps)
    let next := keyedStep exchangePlatform done (.client, .own .heartbeat)
    done.client.exchanged = true ∧ done.server.exchanged = true ∧
      done.client.endpoint.con.kexState.sessionKey =
        done.server.endpoint.con.kexState.sessionKey ∧
      next.server.incoming.map SentPdu.hashKey =
        [(hashingContextOf (exampleKexConfig 100)).key] ∧
      (verificationContext next.server.endpoint 0).key =
        done.server.endpoint.con.kexState.sessionKey ∧
      ¬ RunOk (keyedStep exchangePlatform) (StepKeysAgree exchangePlatform) exampleKeyedSession
        (exampleHandshakeSteps ++ exampleExchangeSteps) ∧
      ¬ StepKeysAgree exchangePlatform done (.client, .own .heartbeat) ∧
      ¬ StepKeysAgree exchangePlatform next (.server, .deliver 0 1) := by
  decide +kernel

end LibRasta.Redundancy
