/-
Module: LibRasta/Retransmission/EndToEnd.lean
source: src/c/retransmission/handlers.c, src/c/retransmission/safety_retransmission.c, src/c/transport/events.c
digest: Over links that lose PDUs, in every interleaving, the messages one endpoint appends to its receive queue are a subsequence of those the other pushed to its send queue, as long as the batches fit into Data PDUs.
-/

import LibRasta.Retransmission.Absorption

set_option autoImplicit false
set_option relaxedAutoImplicit false

namespace LibRasta.Retransmission

open LibRasta.Lib
open LibRasta.Lib.Renumbering
open LibRasta.Util
open LibRasta.Factory

section Invariant

variable (P : Platform) (ctx : RastaHashingContext)

/-- One direction of the session. -/
structure Linked (sender receiver : Party) (d : Direction Bytes) : Prop where
  inv : Renumbering.Inv d
  sending : Sending P ctx sender.con d
  receiving : Receiving receiver.con d
  flight : List.Forall₂ (Carries P ctx) receiver.incoming d.flight
  requests : requestsOf P ctx sender.incoming = d.requests.map UInt32.ofNat
  next : d.next = sender.con.config.initialSequenceNumber.toNat + numbersUsed sender.output
  pushed : d.pushed = sender.pushed
  delivered : d.delivered = receiver.appended

/-- No connection request is on the link. -/
def Greeted (link : List Bytes) : Prop := ∀ bytes ∈ link, (decodePdu P ctx bytes).type ≠ .connReq

/-- Both endpoints have taken part in the handshake. -/
structure Joined (a b : Party) : Prop where
  there : ∃ d, Linked P ctx a b d
  back : ∃ d, Linked P ctx b a d
  kex : a.con.config.kexMode = .none ∧ b.con.config.kexMode = .none
  greeted : Greeted P ctx a.incoming ∧ Greeted P ctx b.incoming

/-- The endpoint has not taken part in the session yet. -/
structure Dormant (con : Connection) : Prop where
  state : con.currentState = .closed ∨ con.currentState = .down
  fifoSend : con.fifoSend.items = []
  fifoRetransmission : con.fifoRetransmission.items = []
  lasterror : con.lasterror = .none
  hashingContext : con.hashingContext = ctx
  srHashingContext : con.srHashingContext = ctx
  kexMode : con.config.kexMode = .none

/-- The server has not accepted the connection request yet. -/
structure Opening (client server : Party) : Prop where
  there : ∃ d, Linked P ctx client server d ∧ d.mode = .idle
  kex : client.con.config.kexMode = .none
  silent : client.incoming = []
  unappended : client.appended = []
  waiting : client.con.currentState = .start ∨ client.con.currentState = .closed
  dormant : Dormant ctx server.con
  unsent : server.output = []
  unasked : ∀ bytes ∈ server.incoming, (decodePdu P ctx bytes).type ≠ .retrReq
  once : Greeted P ctx server.incoming.tail

/-- The invariant of a session. -/
def SessionInv (s : Session) : Prop :=
  Opening P ctx s.client s.server ∨ Joined P ctx s.client s.server

variable {P ctx}

theorem Joined.symm {a b : Party} (h : Joined P ctx a b) : Joined P ctx b a :=
  ⟨h.back, h.there, h.kex.symm, h.greeted.symm⟩

end Invariant

section Own

variable {P : Platform} {ctx : RastaHashingContext} {con after : Connection}

/-- What an event of its own may do to an endpoint as a receiver. -/
structure Stays (before after : Connection) : Prop where
  state : after.currentState = before.currentState ∨ after.currentState = .closed
  snR : after.snR = before.snR
  csT : after.csT = before.csT
  config : after.config = before.config

theorem SendFrame.stays {before after : Connection} (h : SendFrame before after) :
    Stays before after :=
  ⟨.inl h.currentState, h.snR, h.csT, h.config⟩

theorem srCloseConnection_stays (con : Connection) (reason : RastaDisconnectReason) :
    Stays con (srCloseConnection P con reason 0) :=
  ⟨.inr (srCloseConnection_state P con reason 0), (srCloseConnection_untouched P con reason 0).snR,
    (srCloseConnection_untouched P con reason 0).csT, (srCloseConnection_fixed P con reason 0).config⟩

/-- The messages `sr_send` accepts fit behind those already queued. -/
def EventFits (con : Connection) : Event → Prop
  | .send appMessages =>
    con.currentState = .up ∧ appMessages.length ≤ con.config.maxPacket.toNat →
      QueueFits con.srHashingContext con.config.maxPacket.toNat
        (con.fifoSend.items ++ appMessages)
  | _ => True

instance (con : Connection) (event : Event) : Decidable (EventFits con event) :=
  match event with
  | .send _ => inferInstanceAs (Decidable (_ → _))
  | .receive _ | .dataSend | .heartbeat | .connectionExpired | .timedKeyExchange | .connect _
  | .connectReturn | .disconnect | .transportClosed | .recv | .accept | .acceptReturn =>
    inferInstanceAs (Decidable True)

/-- An event only switches timers, or changes queues that do not matter to the sender. -/
theorem own_of_same (hsame : SameSender con after)
    (hstate : after.currentState = con.currentState ∨ after.currentState = .closed)
    (hsnR : after.snR = con.snR) (hcsT : after.csT = con.csT) :
    Conveys P ctx con after [] ∧ Stays con after :=
  ⟨hsame.conveys, hstate, hsnR, hcsT, hsame.config⟩

theorem srSend_own {appMessages : List Bytes} (hrunning : con.aborted = false)
    (hctx : con.srHashingContext = ctx) (hfits : EventFits con (.send appMessages)) :
    Conveys P ctx con (srSend P con appMessages).1 (eventPushes P con (.send appMessages)) ∧
      Stays con (srSend P con appMessages).1 := by
  have hrefused : Conveys P ctx con
        (setState (sendDisconnectionRequest P con .serviceNotAllowed 0) .closed) [] ∧
      Stays con (setState (sendDisconnectionRequest P con .serviceNotAllowed 0) .closed) := by
    have hframe := sendDisconnectionRequest_frame P con .serviceNotAllowed 0
    exact ⟨(sendDisconnectionRequest_conveys con _ 0).trans (setState_same _ _).conveys,
      .inr rfl, hframe.snR, hframe.csT, hframe.config⟩
  by_cases hup : con.currentState = .up
  · have hbranch : srSend P con appMessages =
        if appMessages.length > con.config.maxPacket.toNat then (con, false)
        else sendMessages P appMessages con := by
      simp only [srSend, hup]
    rw [hbranch]
    by_cases hlength : appMessages.length ≤ con.config.maxPacket.toNat
    · rw [if_neg (Nat.not_lt.mpr hlength), eventPushes, if_pos ⟨hrunning, hup, hlength⟩]
      have hqueue := hfits ⟨hup, hlength⟩
      rw [hctx] at hqueue
      exact ⟨sendMessages_conveys appMessages con hqueue,
        (sendMessages_frame P appMessages con).stays⟩
    · rw [if_pos (Nat.lt_of_not_le hlength), eventPushes, if_neg fun h => hlength h.2.2]
      exact own_of_same (Counted.refl con).same (.inl rfl) rfl rfl
  · rw [eventPushes, if_neg fun h => hup h.2.1]
    unfold srSend
    cases hstate : con.currentState with
    | up => exact absurd hstate hup
    | closed => exact own_of_same (setState_same con .closed) (.inr rfl) rfl rfl
    | down => exact own_of_same (setState_same con .closed) (.inr rfl) rfl rfl
    | _ => exact hrefused

theorem stopSupervision_same (con : Connection) :
    SameSender con
      { con with
        sendHeartbeatEvent := con.sendHeartbeatEvent.disable
        timeoutEvent := con.timeoutEvent.disable } :=
  ⟨rfl, rfl, rfl, rfl, rfl, rfl, rfl, rfl⟩

theorem eventConnectionExpired_own (con : Connection) :
    Conveys P ctx con (eventConnectionExpired P con) [] ∧
      Stays con (eventConnectionExpired P con) := by
  unfold eventConnectionExpired
  split
  · exact own_of_same (Counted.refl con).same (.inl rfl) rfl rfl
  · split
    · have hstays := srCloseConnection_stays (P := P) con .timeout
      exact ⟨(srCloseConnection_conveys con .timeout 0).trans (stopSupervision_same _).conveys,
        hstays.state, hstays.snR, hstays.csT, hstays.config⟩
    · exact own_of_same (stopSupervision_same con) (.inl rfl) rfl rfl

theorem heartbeatSendEvent_own (con : Connection) :
    Conveys P ctx con (heartbeatSendEvent P con) [] ∧ Stays con (heartbeatSendEvent P con) := by
  unfold heartbeatSendEvent
  split
  · exact own_of_same (Counted.refl con).same (.inl rfl) rfl rfl
  · split
    · exact ⟨sendHeartbeat_conveys con false, (sendHeartbeat_frame P con false).stays⟩
    · exact own_of_same (Counted.refl con).same (.inl rfl) rfl rfl

theorem srDisconnect_own (con : Connection) :
    Conveys P ctx con (srDisconnect P con) [] ∧ Stays con (srDisconnect P con) := by
  have hstays := srCloseConnection_stays (P := P) con .userRequest
  have hclosed := @srCloseConnection_conveys P ctx con .userRequest 0
  unfold srDisconnect
  simp only
  generalize srCloseConnection P con .userRequest 0 = closed at hstays hclosed ⊢
  refine ⟨hclosed.trans (SameSender.conveys ⟨rfl, rfl, rfl, rfl, rfl, rfl, rfl, rfl⟩),
    hstays.state, hstays.snR, hstays.csT, hstays.config⟩

theorem endpointStep_own (con : Connection) (event : Event)
    (hown : (Activity.own event).inSession = true) (hctx : con.srHashingContext = ctx)
    (hfits : EventFits con event) :
    Conveys P ctx con (endpointStep P con event) (eventPushes P con event) ∧
      Stays con (endpointStep P con event) := by
  have hidle : Conveys P ctx con con [] ∧ Stays con con :=
    own_of_same (Counted.refl con).same (.inl rfl) rfl rfl
  by_cases haborted : con.aborted = true
  · have hpushes : eventPushes P con event = [] := by
      cases event with
      | send appMessages => simp [eventPushes, haborted]
      | _ => rfl
    unfold endpointStep
    rw [if_pos haborted, hpushes]
    exact hidle
  have hrunning : con.aborted = false := by simpa using haborted
  unfold endpointStep
  rw [if_neg haborted]
  cases event with
  | receive packet => cases hown
  | connect transportOk => cases hown
  | timedKeyExchange => cases hown
  | dataSend =>
    simp only
    split
    · exact ⟨dataSendEvent_conveys con, (dataSendEvent_frame P con).stays⟩
    · exact hidle
  | heartbeat =>
    simp only
    split
    · exact heartbeatSendEvent_own con
    · exact hidle
  | connectionExpired =>
    simp only
    split
    · exact eventConnectionExpired_own con
    · exact hidle
  | send appMessages => exact srSend_own hrunning hctx hfits
  | connectReturn => exact own_of_same ⟨rfl, rfl, rfl, rfl, rfl, rfl, rfl, rfl⟩ (.inl rfl) rfl rfl
  | disconnect => exact srDisconnect_own con
  | transportClosed =>
    exact own_of_same ((setState_same con .closed).trans (srResetConnection_same _)) (.inr rfl) rfl rfl
  | recv =>
    simp only [rastaRecv]
    split
    · exact own_of_same ⟨rfl, rfl, rfl, rfl, rfl, rfl, rfl, rfl⟩ (.inl rfl) rfl rfl
    · exact hidle
  | accept => exact own_of_same ⟨rfl, rfl, rfl, rfl, rfl, rfl, rfl, rfl⟩ (.inl rfl) rfl rfl
  | acceptReturn => exact own_of_same ⟨rfl, rfl, rfl, rfl, rfl, rfl, rfl, rfl⟩ (.inl rfl) rfl rfl

end Own

section Steps

variable {P : Platform} {ctx : RastaHashingContext} {self peer : Party} {after : Connection}
  {d d' : Direction Bytes}

theorem Receiving.same {con : Connection} (h : Receiving con d) (hmode : d'.mode = d.mode)
    (hexpected : d'.expected = d.expected) (hrequests : d'.requests ≠ [] → d.requests ≠ []) :
    Receiving con d' := by
  constructor
  · rw [hmode, hexpected]
    exact h.accepting
  · rw [hmode]
    exact h.starting
  · intro hpending
    rw [hexpected]
    exact h.pending (hrequests hpending)
  · exact h.unkeyed

theorem Sending.sameQueues {con : Connection} (h : Sending P ctx con d) (hqueue : d'.queue = d.queue)
    (hkept : d'.kept = d.kept) (hnext : d'.next = d.next) : Sending P ctx con d' :=
  ⟨h.hashingContext, h.srHashingContext, h.lasterror, h.queue.trans hqueue.symm, hkept ▸ h.kept,
    h.next.trans (by rw [hnext]), h.fits⟩

/-- The direction in which `self` sends, after `self` moved on. -/
theorem Linked.conveyed (h : Linked P ctx self peer d) {moved : Party} {messages : List Bytes}
    {answered : ℕ}
    (hd' : Conveyed P ctx moved.con (newlySent self.con moved.con) messages answered d d')
    (hconfig : moved.con.config = self.con.config)
    (hincoming : requestsOf P ctx moved.incoming = (requestsOf P ctx self.incoming).drop answered)
    (houtput : moved.output = self.output ++ newlySent self.con moved.con)
    (hpushed : moved.pushed = self.pushed ++ messages) :
    Linked P ctx moved (peer.link (newlySent self.con moved.con)) d' := by
  obtain ⟨flight, hflight, hcarries⟩ := hd'.flight
  refine ⟨h.inv.moves hd'.moves, hd'.sending, ?_, ?_, ?_, ?_, ?_, hd'.delivered.trans h.delivered⟩
  · refine h.receiving.same hd'.mode hd'.expected fun hrequests hnone => hrequests ?_
    rw [hd'.requests, hnone, List.drop_nil]
  · rw [hflight]
    exact List.rel_append h.flight hcarries
  · rw [hd'.requests, hincoming, h.requests, List.map_drop]
  · rw [hd'.next, h.next, hconfig, houtput, numbersUsed_append, Nat.add_assoc]
  · rw [hd'.pushed, h.pushed, hpushed]

/-- The direction from which `self` took a PDU. -/
theorem Linked.absorbed (h : Linked P ctx peer self d) {moved : Party} {out : List SentPdu}
    {appended : List Bytes} {rest : List (Pdu Bytes)}
    (hd' : Absorbed moved.con (requestsOf P ctx (out.map SentPdu.innerBytes)) appended rest d d')
    (hflight : List.Forall₂ (Carries P ctx) moved.incoming rest)
    (happended : moved.appended = self.appended ++ appended) :
    Linked P ctx (peer.link out) moved d' := by
  refine ⟨h.inv.moves hd'.moves, h.sending.sameQueues hd'.queue hd'.kept hd'.next, hd'.receiving, ?_,
    ?_, hd'.next.trans h.next, hd'.pushed.trans h.pushed, ?_⟩
  · rw [hd'.flight]
    exact hflight
  · rw [hd'.requests, ← h.requests]
    exact requestsOf_append _ _
  · rw [hd'.delivered, h.delivered, happended]

/-- The direction `self` receives from, after an event of its own. -/
theorem Linked.stays (h : Linked P ctx peer self d) {moved : Party}
    (hstays : Stays self.con moved.con) {out : List SentPdu} (hquiet : Quiet P ctx out)
    (hincoming : moved.incoming = self.incoming) (happended : moved.appended = self.appended) :
    ∃ d', Linked P ctx (peer.link out) moved d' ∧ (d'.mode = d.mode ∨ d'.mode = .closed) := by
  have hrequests : requestsOf P ctx (peer.link out).incoming = d.requests.map UInt32.ofNat := by
    rw [Party.link, requestsOf_append, hquiet.requestsOf, List.append_nil, h.requests]
  have hflight := h.flight
  have hdelivered := h.delivered
  rw [← hincoming] at hflight
  rw [← happended] at hdelivered
  by_cases hclosed : moved.con.currentState = .closed
  · -- the receiver gives up, whatever state it was in
    refine ⟨{ d with mode := .closed }, ⟨h.inv.move (.stop d .closed (.inl rfl)),
      h.sending.sameQueues rfl rfl rfl, ⟨?_, ?_, ?_, ?_⟩, hflight, hrequests, h.next, h.pushed,
      hdelivered⟩, .inr rfl⟩
    · simp [hclosed]
    · simp [hclosed]
    · intro hpending
      exact hstays.snR.trans (h.receiving.pending hpending)
    · simp [hclosed]
  · have hstate := hstays.state.resolve_right hclosed
    refine ⟨d, ⟨h.inv, h.sending, ⟨?_, ?_, ?_, ?_⟩, hflight, hrequests, h.next, h.pushed,
      hdelivered⟩, .inl rfl⟩
    · rw [hstate, hstays.snR, hstays.csT]
      exact h.receiving.accepting
    · rw [hstate]
      exact h.receiving.starting
    · intro hpending
      exact hstays.snR.trans (h.receiving.pending hpending)
    · rw [hstate]
      exact h.receiving.unkeyed

theorem Greeted.append {link : List Bytes} {out : List SentPdu} (h : Greeted P ctx link)
    (hout : ∀ pdu ∈ out, (decodePdu P ctx pdu.innerBytes).type ≠ .connReq) :
    Greeted P ctx (link ++ out.map SentPdu.innerBytes) := by
  intro bytes hbytes
  rcases List.mem_append.mp hbytes with hold | hnew
  · exact h bytes hold
  · obtain ⟨pdu, hpdu, rfl⟩ := List.mem_map.mp hnew
    exact hout pdu hpdu

theorem Joined.own (h : Joined P ctx self peer) (event : Event)
    (hown : (Activity.own event).inSession = true) (hfits : EventFits self.con event) :
    Joined P ctx (activityStep P self peer (.own event)).1
      (activityStep P self peer (.own event)).2 := by
  obtain ⟨ds, hs⟩ := h.there
  obtain ⟨dr, hr⟩ := h.back
  obtain ⟨hconveys, hstays⟩ := @endpointStep_own P ctx self.con event hown
    hs.sending.srHashingContext hfits
  obtain ⟨hquiet, ds', hds'⟩ := hconveys.2 ds hs.inv hs.sending
  have hthere : Linked P ctx (activityStep P self peer (.own event)).1
      (activityStep P self peer (.own event)).2 ds' :=
    hs.conveyed hds' hstays.config rfl rfl rfl
  obtain ⟨dr', hback, -⟩ : ∃ dr', Linked P ctx (activityStep P self peer (.own event)).2
      (activityStep P self peer (.own event)).1 dr' ∧ _ := hr.stays hstays hquiet rfl rfl
  refine ⟨⟨ds', hthere⟩, ⟨dr', hback⟩, ?_, h.greeted.1,
    h.greeted.2.append fun pdu hpdu => (hquiet pdu hpdu).1⟩
  exact ⟨(congrArg (·.kexMode) hstays.config).trans h.kex.1, h.kex.2⟩

/-- A whole PDU that comes off the link is decoded without an error. -/
theorem receiveBytes_eq {con : Connection} {bytes : Bytes} (hctx : con.srHashingContext = ctx)
    (hwhole : 28 + ctx.checksumLen ≤ bytes.length) :
    receiveBytes P con bytes = endpointStep P con (.receive (decodePdu P ctx bytes)) := by
  have hdecoded : bytesToRastaPacket P con.lasterror bytes con.srHashingContext P.uninitPacket =
      (decodePdu P ctx bytes, con.lasterror) := by
    rw [hctx]
    exact bytesToRastaPacket_of_whole P hwhole con.lasterror
  rw [receiveBytes, hdecoded]

theorem endpointStep_received (con : Connection) (packet : RastaPacket) :
    Received P con packet (endpointStep P con (.receive packet)) := by
  unfold endpointStep
  split
  · exact .ignored (Counted.refl con)
  · exact srReceive_received P con packet

theorem Carries.matches {bytes : Bytes} {pdu : Pdu Bytes} (h : Carries P ctx bytes pdu) :
    Matches P (decodePdu P ctx bytes) pdu :=
  ⟨h.number, h.kind, h.messages⟩

theorem requestsOf_cons (bytes : Bytes) (rest : List Bytes) :
    requestsOf P ctx rest = (requestsOf P ctx (bytes :: rest)).drop
      (if (decodePdu P ctx bytes).type = .retrReq then 1 else 0) := by
  by_cases htype : (decodePdu P ctx bytes).type = .retrReq
  · simp [requestsOf, htype]
  · simp [requestsOf, htype]

/-- The oldest PDU on the link. -/
theorem Linked.oldest (h : Linked P ctx peer self d) {bytes : Bytes} {rest : List Bytes}
    (hincoming : self.incoming = bytes :: rest) :
    ∃ pdu flight, Carries P ctx bytes pdu ∧ List.Forall₂ (Carries P ctx) rest flight ∧
      d.flight = pdu :: flight := by
  have hall := h.flight
  rw [hincoming] at hall
  cases hflight : d.flight with
  | nil =>
    rw [hflight] at hall
    cases hall
  | cons pdu flight =>
    rw [hflight] at hall
    cases hall with
    | cons hfirst hrest => exact ⟨pdu, flight, hfirst, hrest, rfl⟩

theorem Joined.deliver (h : Joined P ctx self peer) (hself : self.InRange) (hpeer : peer.InRange) :
    Joined P ctx (activityStep P self peer .deliver).1 (activityStep P self peer .deliver).2 := by
  obtain ⟨ds, hs⟩ := h.there
  obtain ⟨dr, hr⟩ := h.back
  unfold activityStep
  cases hincoming : self.incoming with
  | nil => exact h
  | cons bytes rest =>
    simp only
    obtain ⟨pdu, flight, hcarries, hrest, hflight⟩ := hr.oldest hincoming
    have hreceived := @endpointStep_received P self.con (decodePdu P ctx bytes)
    rw [← receiveBytes_eq hs.sending.srHashingContext hcarries.whole] at hreceived
    have hrequest : (decodePdu P ctx bytes).type = .retrReq → ∃ last,
        ds.requests.head? = some last ∧
          (decodePdu P ctx bytes).confirmedSequenceNumber = UInt32.ofNat last := by
      intro htype
      have hall := hs.requests
      rw [hincoming] at hall
      simp only [requestsOf, List.map_cons, htype, List.filter_cons_of_pos, decide_true] at hall
      cases hpending : ds.requests with
      | nil => rw [hpending] at hall; cases hall
      | cons last others =>
        rw [hpending, List.map_cons] at hall
        exact ⟨last, rfl, (List.cons.inj hall).1⟩
    have hprocessed := hreceived.processed h.kex.1
      (h.greeted.1 bytes (by rw [hincoming]; exact List.mem_cons_self)) hs.sending hs.inv
      (hs.next ▸ hself) hrequest hr.receiving hr.inv (hr.next ▸ hpeer) hflight hcarries.matches
    have hconfig := (hreceived.fixed P).config
    obtain ⟨ds', hds'⟩ := hprocessed.sender
    obtain ⟨dr', hdr'⟩ := hprocessed.receiver
    have hasked : requestsOf P ctx rest = (requestsOf P ctx self.incoming).drop
        (if (decodePdu P ctx bytes).type = .retrReq then 1 else 0) := by
      rw [hincoming]
      exact requestsOf_cons bytes rest
    refine ⟨⟨ds', ?_⟩, ⟨dr', ?_⟩, ?_, ?_, h.greeted.2.append hprocessed.opens⟩
    · exact hs.conveyed hds' hconfig hasked rfl (List.append_nil _).symm
    · exact hr.absorbed hdr' hrest rfl
    · exact ⟨(congrArg (·.kexMode) hconfig).trans h.kex.1, h.kex.2⟩
    · intro later hlater
      exact h.greeted.1 later (by rw [hincoming]; exact List.mem_cons_of_mem _ hlater)

theorem forall₂_eraseIdx {α β : Type} {R : α → β → Prop} {xs : List α} {ys : List β}
    (h : List.Forall₂ R xs ys) (i : ℕ) : List.Forall₂ R (xs.eraseIdx i) (ys.eraseIdx i) := by
  induction h generalizing i with
  | nil => exact .nil
  | cons hfirst hrest ih =>
    cases i with
    | zero => exact hrest
    | succ i => exact .cons hfirst (ih i)

theorem Greeted.eraseIdx {link : List Bytes} (h : Greeted P ctx link) (i : ℕ) :
    Greeted P ctx (link.eraseIdx i) :=
  fun bytes hbytes => h bytes ((List.eraseIdx_sublist _ _).subset hbytes)

/-- A PDU on the link to the receiver is lost. -/
theorem Linked.loseFlight (h : Linked P ctx peer self d) (place : ℕ) :
    Linked P ctx peer { self with incoming := self.incoming.eraseIdx place }
      { d with flight := d.flight.eraseIdx place } :=
  ⟨h.inv.move (.lose d _ (List.eraseIdx_sublist _ _)), h.sending.sameQueues rfl rfl rfl,
    h.receiving.same rfl rfl id, forall₂_eraseIdx h.flight place, h.requests, h.next, h.pushed,
    h.delivered⟩

/-- A PDU on the link to the sender is lost, perhaps a retransmission request. -/
theorem Linked.loseRequest (h : Linked P ctx self peer d) (place : ℕ) :
    ∃ d', Linked P ctx { self with incoming := self.incoming.eraseIdx place } peer d' ∧
      d'.mode = d.mode := by
  have hsublist : (requestsOf P ctx (self.incoming.eraseIdx place)).Sublist
      (requestsOf P ctx self.incoming) :=
    (((List.eraseIdx_sublist _ _).map _).filter _).map _
  rw [h.requests] at hsublist
  obtain ⟨requests, hrequests, hmapped⟩ := List.sublist_map_iff.mp hsublist
  refine ⟨{ d with requests := requests }, ⟨h.inv.move (.loseRequest d requests hrequests),
    h.sending.sameQueues rfl rfl rfl, ?_, h.flight, hmapped, h.next, h.pushed, h.delivered⟩, rfl⟩
  refine h.receiving.same rfl rfl fun hpending hnone => hpending ?_
  rw [hnone] at hrequests
  exact List.sublist_nil.mp hrequests

theorem Joined.lose (h : Joined P ctx self peer) (place : ℕ) :
    Joined P ctx (activityStep P self peer (.lose place)).1
      (activityStep P self peer (.lose place)).2 := by
  obtain ⟨ds, hs⟩ := h.there
  obtain ⟨dr, hr⟩ := h.back
  obtain ⟨ds', hs', -⟩ := hs.loseRequest place
  exact ⟨⟨ds', hs'⟩, ⟨_, hr.loseFlight place⟩, h.kex, h.greeted.1.eraseIdx place, h.greeted.2⟩

/-- What the condition on a step says about the endpoint it happens at. -/
def ActivityFits (self : Party) : Activity → Prop
  | .own event => EventFits self.con event
  | _ => True

instance (self : Party) (activity : Activity) : Decidable (ActivityFits self activity) :=
  match activity with
  | .own event => inferInstanceAs (Decidable (EventFits self.con event))
  | .deliver | .lose _ => inferInstanceAs (Decidable True)

theorem Joined.step (h : Joined P ctx self peer) {activity : Activity}
    (hsession : activity.inSession = true) (hfits : ActivityFits self activity)
    (hself : self.InRange) (hpeer : peer.InRange) :
    Joined P ctx (activityStep P self peer activity).1 (activityStep P self peer activity).2 := by
  cases activity with
  | own event => exact h.own event hsession hfits
  | deliver => exact h.deliver hself hpeer
  | lose place => exact h.lose place

end Steps

section Dormancy

variable {P : Platform} {ctx : RastaHashingContext} {con base after : Connection}
  {packet : RastaPacket}

theorem Dormant.same (h : Dormant ctx con) (hsame : SameSender con after)
    (hstate : after.currentState = .closed ∨ after.currentState = .down) :
    Dormant ctx after where
  state := hstate
  fifoSend := by rw [hsame.fifoSend, h.fifoSend]
  fifoRetransmission := by rw [hsame.fifoRetransmission, h.fifoRetransmission]
  lasterror := hsame.lasterror.trans h.lasterror
  hashingContext := hsame.hashingContext.trans h.hashingContext
  srHashingContext := hsame.srHashingContext.trans h.srHashingContext
  kexMode := (congrArg (·.kexMode) hsame.config).trans h.kexMode

theorem Dormant.not_established (h : Dormant ctx con) : ¬ Established con.currentState := by
  rcases h.state with hs | hs <;> rw [hs] <;> decide

/-- Closing what is closed sends nothing. -/
theorem srCloseConnection_same_of_closed (h : con.currentState = .closed ∨ con.currentState = .down)
    (reason : RastaDisconnectReason) : srCloseConnection P con reason 0 = srResetConnection con := by
  rw [srCloseConnection, if_pos h.symm]

theorem sendQueued_of_empty (h : con.fifoSend.items = []) : sendQueued P con = con := by
  have hbacklog : sendBacklogSize con = 0 := by
    simp only [sendBacklogSize, fifoGetSize, h, List.length_nil, Nat.min_zero]
    split <;> rfl
  rw [sendQueued, if_neg (by omega)]

theorem Dormant.own (h : Dormant ctx con) (event : Event)
    (hown : (Activity.own event).inSession = true) :
    Dormant ctx (endpointStep P con event) ∧ (endpointStep P con event).sent = con.sent := by
  have hkeep : ∀ {c : Connection}, SameSender con c →
      (c.currentState = .closed ∨ c.currentState = .down) →
      Dormant ctx c ∧ c.sent = con.sent := fun hsame hstate => ⟨h.same hsame hstate, hsame.sent⟩
  have hidle := hkeep (Counted.refl con).same h.state
  unfold endpointStep
  split
  · exact hidle
  cases event with
  | receive packet => cases hown
  | connect transportOk => cases hown
  | timedKeyExchange => cases hown
  | dataSend =>
    simp only
    split
    · rw [dataSendEvent, sendQueued_of_empty h.fifoSend]
      refine hkeep (stopIdleSending_same con) ?_
      rw [(stopIdleSending_frame con).currentState]
      exact h.state
    · exact hidle
  | heartbeat =>
    simp only
    split
    · unfold heartbeatSendEvent
      rw [if_neg h.not_established]
      split
      · exact hidle
      · exact hidle
    · exact hidle
  | connectionExpired =>
    simp only
    split
    · unfold eventConnectionExpired
      rw [if_neg h.not_established]
      split
      · exact hidle
      · exact hkeep (stopSupervision_same con) h.state
    · exact hidle
  | send appMessages =>
    have hbranch : (srSend P con appMessages).1 = setState con .closed := by
      unfold srSend
      rcases h.state with hs | hs <;> rw [hs]
    simp only [hbranch]
    exact hkeep (setState_same con .closed) (.inl rfl)
  | connectReturn => exact hkeep ⟨rfl, rfl, rfl, rfl, rfl, rfl, rfl, rfl⟩ h.state
  | disconnect =>
    simp only [srDisconnect, srCloseConnection_same_of_closed h.state]
    exact hkeep ⟨rfl, rfl, rfl, rfl, rfl, rfl, rfl, rfl⟩ (.inl rfl)
  | transportClosed =>
    exact hkeep ((setState_same con .closed).trans (srResetConnection_same _)) (.inl rfl)
  | recv =>
    simp only [rastaRecv]
    split
    · exact hkeep ⟨rfl, rfl, rfl, rfl, rfl, rfl, rfl, rfl⟩ h.state
    · exact hidle
  | accept => exact hkeep ⟨rfl, rfl, rfl, rfl, rfl, rfl, rfl, rfl⟩ h.state
  | acceptReturn => exact hkeep ⟨rfl, rfl, rfl, rfl, rfl, rfl, rfl, rfl⟩ h.state

/-- Preparing for a request only sets the numbers. -/
theorem Dormant.prepared (h : Dormant ctx con) :
    Dormant ctx (prepareServer P con) ∧ (prepareServer P con).fifoReceive = con.fifoReceive := by
  unfold prepareServer srInitConnection
  cases P.enableOpaque
  · exact ⟨⟨.inr rfl, h.fifoSend, h.fifoRetransmission, h.lasterror, h.hashingContext,
      h.srHashingContext, h.kexMode⟩, rfl⟩
  · exact ⟨⟨.inr rfl, h.fifoSend, h.fifoRetransmission, h.lasterror, h.hashingContext,
      h.srHashingContext, h.kexMode⟩, rfl⟩

/-- A packet that is no request leaves the endpoint as it is, unless it opens the session. -/
theorem Received.dormant (hreceived : Received P con packet after) (h : Dormant ctx con)
    (hrequest : packet.type ≠ .retrReq) :
    ConreqAccepted P con packet ∧ after = acceptConreq P (prepareServer P con) packet ∨
      Dormant ctx after ∧ after.sent = con.sent ∧ after.fifoReceive = con.fifoReceive := by
  have hnot : ∀ state, con.currentState = state → state = .closed ∨ state = .down := by
    intro state hstate
    rw [← hstate]
    exact h.state
  cases hreceived with
  | ignored hbase =>
    exact .inr ⟨h.same hbase.same (hbase.currentState ▸ h.state), hbase.same.sent,
      hbase.receiveUntouched.fifoReceive⟩
  | @closed base hbase reason =>
    have hclosed : base.currentState = .closed ∨ base.currentState = .down :=
      hbase.currentState ▸ h.state
    rw [srCloseConnection_same_of_closed hclosed]
    exact .inr ⟨h.same (hbase.same.trans (srResetConnection_same base)) (.inl rfl), hbase.same.sent,
      hbase.receiveUntouched.fifoReceive⟩
  | @discReq base hbase =>
    have hsame := (setState_same base .closed).trans (srResetConnection_same _)
    exact .inr ⟨h.same (hbase.same.trans hsame) (.inl rfl), hbase.same.sent,
      hbase.receiveUntouched.fifoReceive⟩
  | data _ _ _ hstate => exact absurd (hnot _ hstate) (by decide)
  | dataDropped _ _ _ hstate => exact absurd (hnot _ hstate) (by decide)
  | retransmissionRequested _ _ htype =>
    rcases htype with ⟨-, hstate | hstate⟩ | ⟨-, hstate⟩
    · exact absurd (hnot _ hstate) (by decide)
    · exact absurd (hnot _ hstate) (by decide)
    · exact absurd (hnot _ hstate) (by decide)
  | heartbeatGap _ _ _ hstate =>
    rcases hstate with hstate | hstate
    · exact absurd (hnot _ hstate) (by decide)
    · exact absurd (hnot _ hstate) (by decide)
  | retrReqInSeq _ _ htype => exact absurd htype hrequest
  | retrReqOutOfSeq _ _ htype => exact absurd htype hrequest
  | retrResp _ _ _ hstate => exact absurd (hnot _ hstate) (by decide)
  | retrData _ _ _ hstate => exact absurd (hnot _ hstate) (by decide)
  | heartbeatStart _ _ _ hstate => exact absurd (hnot _ hstate) (by decide)
  | heartbeatLate _ _ _ hstate => exact absurd (hnot _ hstate) (by decide)
  | heartbeat _ _ _ hstate =>
    rcases hstate with hs | hs | hs | hs | hs
    · exact absurd (hnot _ hs) (by decide)
    · exact absurd (hnot _ hs) (by decide)
    · exact absurd (hnot _ hs) (by decide)
    · exact absurd (hnot _ hs) (by decide)
    · exact absurd (hnot _ hs) (by decide)
  | conreqRefused _ _ reason =>
    obtain ⟨hprepared, hqueue⟩ := @Dormant.prepared P ctx con h
    rw [srCloseConnection_same_of_closed hprepared.state]
    exact .inr ⟨hprepared.same (srResetConnection_same _) (.inl rfl), prepareServer_sent P con,
      hqueue⟩
  | conreqAccepted haccepted => exact .inl ⟨haccepted, rfl⟩
  | conrespAccepted haccepted => exact absurd (hnot _ haccepted.2.1) (by decide)
  | @aborted base hbase =>
    have hsame : SameSender base (abort base) := ⟨rfl, rfl, rfl, rfl, rfl, rfl, rfl, rfl⟩
    exact .inr ⟨h.same (hbase.same.trans hsame) (hbase.currentState ▸ h.state), hbase.same.sent,
      hbase.receiveUntouched.fifoReceive⟩
  | kexRequest _ _ hmode => exact absurd h.kexMode hmode
  | kexResponse _ _ hmode => exact absurd h.kexMode hmode
  | kexAuth _ _ hmode => exact absurd h.kexMode hmode

end Dormancy

end LibRasta.Retransmission
