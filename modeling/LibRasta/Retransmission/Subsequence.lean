/-
Module: LibRasta/Retransmission/Subsequence.lean
source: src/c/retransmission/handlers.c, src/c/retransmission/safety_retransmission.c, src/c/transport/events.c
digest: From the connection request on, in every interleaving over lossy links, an endpoint appends a subsequence of what its peer pushed; a batch longer than a Data PDU breaks this.
-/

import LibRasta.Retransmission.Confirmation
import LibRasta.Retransmission.EndToEnd

set_option autoImplicit false
set_option relaxedAutoImplicit false

namespace LibRasta.Retransmission

open LibRasta.Lib
open LibRasta.Lib.Renumbering
open LibRasta.Util
open LibRasta.Factory

section Handshake

variable {P : Platform} {ctx : RastaHashingContext} {con : Connection} {d : Direction Bytes}

/-- Nothing is expected from the peer while the handshake has not begun. -/
theorem receiving_idle (hinv : Renumbering.Inv d) (hidle : d.mode = .idle)
    (hrunning : con.currentState ≠ .up ∧ con.currentState ≠ .retrRun)
    (hunkeyed : con.currentState ≠ .kexReq ∧ con.currentState ≠ .kexResp ∧
      con.currentState ≠ .kexAuth) : Receiving con d := by
  constructor
  · rintro (hup | hrun)
    · exact absurd hup hrunning.1
    · exact absurd hrun hrunning.2
  · intro _
    exact hidle
  · intro hpending
    exact absurd (hinv.quiet (.inr hidle)).1 hpending
  · exact hunkeyed

theorem Dormant.receiving (h : Dormant ctx con) (hinv : Renumbering.Inv d)
    (hidle : d.mode = .idle) : Receiving con d := by
  refine receiving_idle hinv hidle ?_ ?_
  · rcases h.state with hs | hs <;> rw [hs] <;> decide
  · rcases h.state with hs | hs <;> rw [hs] <;> decide

/-- Right before its first PDU an endpoint is the sender of a direction in which nothing has
happened yet. -/
theorem sending_start (hhashing : con.hashingContext = ctx) (hsr : con.srHashingContext = ctx)
    (herror : con.lasterror = .none) (hsend : con.fifoSend.items = [])
    (hkept : con.fifoRetransmission.items = [])
    (hsnT : con.snT = con.config.initialSequenceNumber) (pushed : List Bytes) :
    Sending P ctx con (Direction.start pushed con.config.initialSequenceNumber.toNat) where
  hashingContext := hhashing
  srHashingContext := hsr
  lasterror := herror
  queue := hsend
  kept := by
    rw [hkept]
    exact .nil
  next := by
    rw [hsnT]
    exact UInt32.ofNat_toNat.symm
  fits := by
    rw [hsend]
    exact queueFits_nil _

theorem noteConreq_same (con : Connection) (packet : RastaPacket) :
    SameSender con (noteConreq P con packet) :=
  ((updateConnectionAttrs_same con packet).trans (updateConfirmedAttrs_same _ packet)).trans
    ⟨rfl, rfl, rfl, rfl, rfl, rfl, rfl, rfl⟩

/-- The response is sent like any other PDU without messages. -/
theorem acceptConreq_conveys (con : Connection) (packet : RastaPacket) :
    Conveys P ctx con (acceptConreq P con packet) [] := by
  have hsame : SameSender con (setState (tick (noteConreq P con packet)) .start) :=
    ((noteConreq_same con packet).trans (tick_same _)).trans (setState_same _ .start)
  refine hsame.conveys.trans ?_
  have heq : acceptConreq P con packet =
      incrementSnT (redundancyMuxSend P (setState (tick (noteConreq P con packet)) .start)
        (createConnectionResponse P
          { nextHeader (noteConreq P con packet) with
            confirmedTimestamp := packet.confirmedTimestamp }
          con.config.sendMax rastaVersion con.hashingContext)) :=
    acceptConreq_eq P con packet
  rw [heq]
  refine ⟨(redundancyMuxSend_frame P _ _).sent, fun d _ hsending => ?_⟩
  have hctx : con.hashingContext = ctx := hsame.hashingContext.symm.trans hsending.hashingContext
  have hlength := initializePacket_length P .connResp
    { nextHeader (noteConreq P con packet) with confirmedTimestamp := packet.confirmedTimestamp }
    (by decide : (14 : UInt16).toNat ≤ 14) ctx
  rw [hctx]
  obtain ⟨pdu, hsent, -, hbytes, hconveyed⟩ := @Sending.control P ctx _
    (createConnectionResponse P
      { nextHeader (noteConreq P con packet) with confirmedTimestamp := packet.confirmedTimestamp }
      con.config.sendMax rastaVersion ctx) d hsending rfl hlength rfl
  rw [newlySent_eq hsent]
  exact ⟨quiet_singleton hbytes hlength nofun nofun, _, hconveyed⟩

theorem acceptConreq_fifoReceive (con : Connection) (packet : RastaPacket) :
    (acceptConreq P con packet).fifoReceive = con.fifoReceive := by
  rw [acceptConreq_eq]
  dsimp only [redundancyMuxSend, setState, incrementSnT, tick, noteConreq, updateConfirmedAttrs,
    updateConnectionAttrs]

end Handshake

section Steps

variable {P : Platform} {ctx : RastaHashingContext} {client server : Party}
  {d : Direction Bytes}

theorem Party.link_nil (self : Party) : self.link [] = self := by
  simp [Party.link]

theorem Opening.client_own (h : Opening P ctx client server) (event : Event)
    (hown : (Activity.own event).inSession = true) (hfits : EventFits client.con event) :
    Opening P ctx (activityStep P client server (.own event)).1
      (activityStep P client server (.own event)).2 := by
  obtain ⟨d, hd, hidle⟩ := h.there
  obtain ⟨hconveys, hstays⟩ := @endpointStep_own P ctx client.con event hown
    hd.sending.srHashingContext hfits
  obtain ⟨hquiet, d', hd'⟩ := hconveys.2 d hd.inv hd.sending
  have hthere : Linked P ctx (activityStep P client server (.own event)).1
      (activityStep P client server (.own event)).2 d' :=
    hd.conveyed hd' hstays.config rfl rfl rfl
  refine ⟨⟨d', hthere, hd'.mode.trans hidle⟩, ?_, h.silent, h.unappended, ?_, h.dormant, h.unsent,
    ?_, ?_⟩
  · exact (congrArg (·.kexMode) hstays.config).trans h.kex
  · rcases hstays.state with hstate | hclosed
    · exact h.waiting.imp hstate.trans hstate.trans
    · exact .inr hclosed
  · intro bytes hbytes
    rcases List.mem_append.mp hbytes with hold | hnew
    · exact h.unasked bytes hold
    · obtain ⟨pdu, hpdu, rfl⟩ := List.mem_map.mp hnew
      exact (hquiet pdu hpdu).2
  · -- the request is at most the oldest PDU on the link
    intro bytes hbytes
    have hall : bytes ∈ server.incoming.tail ∨
        bytes ∈ (newlySent client.con (endpointStep P client.con event)).map SentPdu.innerBytes := by
      have htail : bytes ∈ (server.incoming ++ (newlySent client.con
        (endpointStep P client.con event)).map SentPdu.innerBytes).tail := hbytes
      cases hincoming : server.incoming with
      | nil =>
        rw [hincoming, List.nil_append] at htail
        exact .inr (List.mem_of_mem_tail htail)
      | cons first rest =>
        rw [hincoming, List.cons_append, List.tail_cons] at htail
        exact List.mem_append.mp htail
    rcases hall with hold | hnew
    · exact h.once bytes hold
    · obtain ⟨pdu, hpdu, rfl⟩ := List.mem_map.mp hnew
      exact (hquiet pdu hpdu).1

/-- The client has nothing to receive or to lose. -/
theorem Opening.client_step (h : Opening P ctx client server) {activity : Activity}
    (hsession : activity.inSession = true) (hfits : ActivityFits client activity) :
    Opening P ctx (activityStep P client server activity).1
      (activityStep P client server activity).2 := by
  cases activity with
  | own event => exact h.client_own event hsession hfits
  | deliver =>
    have hsame : activityStep P client server .deliver = (client, server) := by
      unfold activityStep
      rw [h.silent]
    rw [hsame]
    exact h
  | lose place =>
    have hsame : activityStep P client server (.lose place) = (client, server) := by
      unfold activityStep
      simp only [h.silent, List.eraseIdx_nil]
      rw [← h.silent]
    rw [hsame]
    exact h

/-- The server stays dormant through its own events. -/
theorem Opening.server_own (h : Opening P ctx client server) (event : Event)
    (hown : (Activity.own event).inSession = true) :
    Opening P ctx (activityStep P server client (.own event)).2
      (activityStep P server client (.own event)).1 := by
  obtain ⟨d, hd, hidle⟩ := h.there
  obtain ⟨hdormant, hsent⟩ := @Dormant.own P ctx server.con h.dormant event hown
  have hnone : newlySent server.con (endpointStep P server.con event) = [] :=
    newlySent_eq (by rw [hsent, List.append_nil])
  have hpushes : eventPushes P server.con event = [] := by
    cases event with
    | send appMessages =>
      refine if_neg fun hup => ?_
      rcases h.dormant.state with hs | hs <;> rw [hs] at hup <;> cases hup.2.1
    | _ => rfl
  have hstep : activityStep P server client (.own event) =
      ({ server with con := endpointStep P server.con event }, client) := by
    unfold activityStep
    simp only [Party.moveTo, hnone, hpushes, List.append_nil, Party.link_nil]
  rw [hstep]
  refine ⟨⟨d, ⟨hd.inv, hd.sending, hdormant.receiving hd.inv hidle, hd.flight, hd.requests, hd.next,
    hd.pushed, hd.delivered⟩, hidle⟩, h.kex, h.silent, h.unappended, h.waiting, hdormant, h.unsent,
    h.unasked, h.once⟩

theorem Opening.server_lose (h : Opening P ctx client server) (place : ℕ) :
    Opening P ctx (activityStep P server client (.lose place)).2
      (activityStep P server client (.lose place)).1 := by
  obtain ⟨d, hd, hidle⟩ := h.there
  refine ⟨⟨_, hd.loseFlight place, hidle⟩, h.kex, h.silent, h.unappended, h.waiting, h.dormant,
    h.unsent, ?_, ?_⟩
  · intro bytes hbytes
    exact h.unasked bytes ((List.eraseIdx_sublist _ _).subset hbytes)
  · intro bytes hbytes
    refine h.once bytes ?_
    have htail : bytes ∈ (server.incoming.eraseIdx place).tail := hbytes
    cases hincoming : server.incoming with
    | nil => simp [hincoming] at htail
    | cons first rest =>
      cases place with
      | zero =>
        rw [hincoming] at htail
        exact List.mem_of_mem_tail htail
      | succ place =>
        rw [hincoming, List.eraseIdx_cons_succ] at htail
        exact (List.eraseIdx_sublist _ _).subset htail

/-- The endpoint took the oldest PDU from its link. -/
structure Took (before moved : Party) (rest : List Bytes) : Prop where
  incoming : moved.incoming = rest
  output : moved.output = before.output ++ newlySent before.con moved.con
  pushed : moved.pushed = before.pushed
  appended : moved.appended = before.appended ++ newlyAppended before.con moved.con

variable {moved : Party} {packet : RastaPacket} {bytes : Bytes} {rest : List Bytes}

/-- What the server does when it accepts a request. -/
structure Accepts (P : Platform) (ctx : RastaHashingContext) (server moved : Party) : Prop where
  state : moved.con.currentState = .start
  config : moved.con.config = server.con.config
  unappended : newlyAppended server.con moved.con = []
  quiet : Quiet P ctx (newlySent server.con moved.con)
  sender : ∃ d, Conveyed P ctx moved.con (newlySent server.con moved.con) [] 0
    (Direction.start server.pushed server.con.config.initialSequenceNumber.toNat) d

theorem Opening.accepts (h : Opening P ctx client server)
    (hcon : moved.con = acceptConreq P (prepareServer P server.con) packet) :
    Accepts P ctx server moved := by
  obtain ⟨hprepared, hqueue⟩ := @Dormant.prepared P ctx server.con h.dormant
  have hconfig : (prepareServer P server.con).config = server.con.config :=
    prepareServer_config P server.con
  have hsending : Sending P ctx (prepareServer P server.con)
      (Direction.start server.pushed server.con.config.initialSequenceNumber.toNat) := by
    have hsnT := prepareServer_snT P server.con
    rw [← hconfig] at hsnT
    rw [← hconfig]
    exact sending_start hprepared.hashingContext hprepared.srHashingContext hprepared.lasterror
      hprepared.fifoSend hprepared.fifoRetransmission hsnT _
  have hconveys := @acceptConreq_conveys P ctx (prepareServer P server.con) packet
  obtain ⟨hquiet, d', hd'⟩ := hconveys.2 _ (Renumbering.Inv.start _ _) hsending
  have hsent : newlySent (prepareServer P server.con) moved.con = newlySent server.con moved.con := by
    rw [newlySent, prepareServer_sent, newlySent]
  rw [← hcon, hsent] at hquiet hd'
  refine ⟨?_, ?_, ?_, hquiet, d', hd'⟩
  · rw [hcon]
    exact (acceptConreq_phase P (prepareServer P server.con) packet).1
  · rw [hcon]
    exact ((prepareServer_fixed P server.con).trans
      (acceptConreq_fixed P (prepareServer P server.con) packet)).config
  · refine newlyAppended_none ?_
    rw [hcon, acceptConreq_fifoReceive, hqueue]

/-- The direction the server begins to send in. -/
theorem Opening.answered (h : Opening P ctx client server) (haccepts : Accepts P ctx server moved)
    (htook : Took server moved rest) (hunasked : requestsOf P ctx rest = []) :
    ∃ d, Linked P ctx moved (client.link (newlySent server.con moved.con)) d := by
  obtain ⟨d, hd⟩ := haccepts.sender
  obtain ⟨flight, hflight, hcarries⟩ := hd.flight
  have hinv := (Renumbering.Inv.start server.pushed
    server.con.config.initialSequenceNumber.toNat).moves hd.moves
  refine ⟨d, hinv, hd.sending, ?_, ?_, ?_, ?_, ?_, ?_⟩
  · refine receiving_idle hinv hd.mode ?_ ?_
    · rcases h.waiting with hs | hs <;> simp [Party.link, hs]
    · rcases h.waiting with hs | hs <;> simp [Party.link, hs]
  · rw [hflight, Party.link, h.silent]
    exact hcarries
  · rw [hd.requests, htook.incoming, hunasked]
    rfl
  · rw [hd.next, haccepts.config, htook.output, h.unsent]
    rfl
  · rw [hd.pushed, htook.pushed]
    exact List.append_nil _
  · rw [hd.delivered, Party.link, h.unappended]
    rfl

/-- The server accepts the request, and both directions exist. -/
theorem Opening.accepted (h : Opening P ctx client server) (hincoming : server.incoming = bytes :: rest)
    (htype : (decodePdu P ctx bytes).type = .connReq)
    (hcon : moved.con = acceptConreq P (prepareServer P server.con) packet)
    (htook : Took server moved rest) :
    Joined P ctx (client.link (newlySent server.con moved.con)) moved := by
  obtain ⟨d, hd, hidle⟩ := h.there
  obtain ⟨pdu, flight, hcarries, hrest, hflight⟩ := hd.oldest hincoming
  have haccepts := h.accepts hcon
  have hgreeted : Greeted P ctx rest := by
    have honce := h.once
    rw [hincoming] at honce
    exact honce
  have hunasked : requestsOf P ctx rest = [] := by
    rw [requestsOf, List.map_eq_nil_iff, List.filter_eq_nil_iff]
    intro later hlater
    obtain ⟨bytes', hbytes', rfl⟩ := List.mem_map.mp hlater
    simpa using h.unasked bytes' (by rw [hincoming]; exact List.mem_cons_of_mem _ hbytes')
  have hkind : pdu.kind = .plain := by
    rw [← hcarries.kind, htype]
    rfl
  have habsorbed : Absorbed moved.con
      (requestsOf P ctx ((newlySent server.con moved.con).map SentPdu.innerBytes))
      (newlyAppended server.con moved.con) flight d
      { d.take flight with expected := pdu.number + 1 } := by
    rw [haccepts.quiet.requestsOf, haccepts.unappended]
    exact Receiving.greet hd.inv hflight hidle hkind haccepts.state
  refine ⟨⟨_, hd.absorbed habsorbed ?_ htook.appended⟩, h.answered haccepts htook hunasked, ?_, ?_⟩
  · rw [htook.incoming]
    exact hrest
  · refine ⟨h.kex, ?_⟩
    rw [haccepts.config]
    exact h.dormant.kexMode
  · refine ⟨?_, by rw [htook.incoming]; exact hgreeted⟩
    have hlink : Greeted P ctx client.incoming := by
      rw [h.silent]
      exact fun _ hbytes => absurd hbytes List.not_mem_nil
    exact hlink.append fun pdu hpdu => (haccepts.quiet pdu hpdu).1

/-- The server goes on waiting. -/
theorem Opening.refused (h : Opening P ctx client server) (hincoming : server.incoming = bytes :: rest)
    (hdormant : Dormant ctx moved.con) (hsent : moved.con.sent = server.con.sent)
    (hreceive : moved.con.fifoReceive = server.con.fifoReceive) (htook : Took server moved rest) :
    Opening P ctx (client.link (newlySent server.con moved.con)) moved := by
  obtain ⟨d, hd, hidle⟩ := h.there
  obtain ⟨pdu, flight, hcarries, hrest, hflight⟩ := hd.oldest hincoming
  have hnone : newlySent server.con moved.con = [] := newlySent_eq (by rw [hsent, List.append_nil])
  have happended := htook.appended
  have houtput := htook.output
  rw [newlyAppended_none hreceive, List.append_nil] at happended
  rw [hnone, List.append_nil] at houtput
  rw [hnone, Party.link_nil]
  have hinv := hd.inv.lose (hflight ▸ List.sublist_cons_self pdu flight : flight.Sublist d.flight)
  refine ⟨⟨{ d with flight := flight }, ⟨hinv, hd.sending.sameQueues rfl rfl rfl,
    hdormant.receiving hinv hidle, ?_, hd.requests, hd.next, hd.pushed,
    hd.delivered.trans happended.symm⟩, hidle⟩, h.kex, h.silent, h.unappended, h.waiting, hdormant,
    houtput.trans h.unsent, ?_, ?_⟩
  · rw [htook.incoming]
    exact hrest
  · rw [htook.incoming]
    intro later hlater
    exact h.unasked later (by rw [hincoming]; exact List.mem_cons_of_mem _ hlater)
  · rw [htook.incoming]
    intro later hlater
    exact h.once later (by rw [hincoming]; exact List.mem_of_mem_tail hlater)

theorem Opening.server_deliver (h : Opening P ctx client server) :
    SessionInv P ctx
      { client := (activityStep P server client .deliver).2
        server := (activityStep P server client .deliver).1 } := by
  obtain ⟨d, hd, hidle⟩ := h.there
  unfold activityStep
  cases hincoming : server.incoming with
  | nil => exact .inl h
  | cons bytes rest =>
    simp only
    obtain ⟨pdu, flight, hcarries, hrest, hflight⟩ := hd.oldest hincoming
    have hreceived := @endpointStep_received P server.con (decodePdu P ctx bytes)
    rw [← receiveBytes_eq h.dormant.srHashingContext hcarries.whole] at hreceived
    have hrequest := h.unasked bytes (by rw [hincoming]; exact List.mem_cons_self)
    generalize receiveBytes P server.con bytes = after at hreceived ⊢
    have htook : Took server
        { server.moveTo after with
          incoming := rest
          appended := server.appended ++ newlyAppended server.con after } rest :=
      ⟨rfl, rfl, rfl, rfl⟩
    rcases hreceived.dormant h.dormant hrequest with ⟨haccepted, hafter⟩ | ⟨hdormant, hsent, hreceive⟩
    · exact .inr (h.accepted hincoming haccepted.1 hafter htook)
    · exact .inl (h.refused hincoming hdormant hsent hreceive htook)

theorem Opening.server_step (h : Opening P ctx client server) {activity : Activity}
    (hsession : activity.inSession = true) :
    SessionInv P ctx
      { client := (activityStep P server client activity).2
        server := (activityStep P server client activity).1 } := by
  cases activity with
  | own event => exact .inl (h.server_own event hsession)
  | deliver => exact h.server_deliver
  | lose place => exact .inl (h.server_lose place)

end Steps

section Session

variable {P : Platform} {ctx : RastaHashingContext}

/-- The connection from which `sr_connect` sends the request. -/
theorem prepareClient_sending {con : Connection} (h : Fresh ctx con) (now : UInt32) :
    Sending P ctx (tick (prepareClient P { con with seqTx := 0 } now))
        (Direction.start [] con.config.initialSequenceNumber.toNat) ∧
      (tick (prepareClient P { con with seqTx := 0 } now)).sent = con.sent := by
  obtain ⟨hhashing, hsr, herror, hsend, hkept, hsnT, hsent, hconfig⟩ :
      (prepareClient P { con with seqTx := 0 } now).hashingContext = con.hashingContext ∧
      (prepareClient P { con with seqTx := 0 } now).srHashingContext = con.srHashingContext ∧
      (prepareClient P { con with seqTx := 0 } now).lasterror = con.lasterror ∧
      (prepareClient P { con with seqTx := 0 } now).fifoSend = con.fifoSend ∧
      (prepareClient P { con with seqTx := 0 } now).fifoRetransmission = con.fifoRetransmission ∧
      (prepareClient P { con with seqTx := 0 } now).snT = con.config.initialSequenceNumber ∧
      (prepareClient P { con with seqTx := 0 } now).sent = con.sent ∧
      (prepareClient P { con with seqTx := 0 } now).config = con.config := by
    unfold prepareClient srInitConnection
    cases P.enableOpaque with
    | true => exact ⟨rfl, rfl, rfl, rfl, rfl, rfl, rfl, rfl⟩
    | false => exact ⟨rfl, rfl, rfl, rfl, rfl, rfl, rfl, rfl⟩
  generalize prepareClient P { con with seqTx := 0 } now = prepared at *
  refine ⟨?_, hsent⟩
  rw [← hconfig]
  exact @sending_start P ctx (tick prepared) (hhashing.trans h.hashingContext)
    (hsr.trans h.srHashingContext) (herror.trans h.lasterror)
    ((congrArg Fifo.items hsend).trans h.fifoSend)
    ((congrArg Fifo.items hkept).trans h.fifoRetransmission)
    (hsnT.trans (congrArg (·.initialSequenceNumber) hconfig.symm)) []

/-- The request is a PDU without messages. -/
theorem sendConreq_conveyed {con : Connection} {d : Direction Bytes} (h : Sending P ctx con d) :
    ∃ pdu : SentPdu, (sendConreq P con).sent = con.sent ++ [pdu] ∧
      (decodePdu P ctx pdu.innerBytes).type = .connReq ∧
      ∃ d', Conveyed P ctx (sendConreq P con) [pdu] [] 0 d d' := by
  have hsending : Sending P ctx (tick con) d := h.same (tick_same con)
  have hlength : 28 + ctx.checksumLen ≤ (createConnectionRequest P con.remoteId con.myId con.snT
      (curTimestamp con) con.config.sendMax rastaVersion ctx).length.toNat :=
    initializePacket_length P .connReq ⟨con.remoteId, con.myId, con.snT, 0, curTimestamp con, 0⟩
      (by decide : (14 : UInt16).toNat ≤ 14) ctx
  obtain ⟨pdu, hsent, -, hbytes, hconveyed⟩ := @Sending.control P ctx (tick con)
    (createConnectionRequest P con.remoteId con.myId con.snT (curTimestamp con)
      con.config.sendMax rastaVersion ctx) d hsending rfl hlength rfl
  have hsame : SameSender
      (incrementSnT (redundancyMuxSend P (tick con)
        (createConnectionRequest P con.remoteId con.myId con.snT (curTimestamp con)
          con.config.sendMax rastaVersion ctx))) (sendConreq P con) := by
    have htimer : ∀ c : Connection, SameSender c
        (tick { c with handshakeTimeoutEvent := c.handshakeTimeoutEvent.enable c }) := fun _ =>
      ⟨rfl, rfl, rfl, rfl, rfl, rfl, rfl, rfl⟩
    unfold sendConreq
    rw [h.hashingContext]
    exact (setState_same _ .start).trans (htimer _)
  refine ⟨pdu, hsame.sent.trans hsent, ?_, _, hconveyed.same hsame⟩
  rw [hbytes, decodePdu_encodePdu P hlength]
  rfl

variable {client server : Connection}

/-- The session opens with the connection request on the link. -/
theorem openedSession_opening (hclient : Fresh ctx client) (hconnect : Connectable client)
    (hserver : Fresh ctx server)
    (hwaiting : server.currentState = .closed ∨ server.currentState = .down) :
    Opening P ctx (openedSession P client server).client (openedSession P client server).server := by
  have hdormant : Dormant ctx server :=
    ⟨hwaiting, hserver.fifoSend, hserver.fifoRetransmission, hserver.lasterror,
      hserver.hashingContext, hserver.srHashingContext, hserver.kexMode⟩
  have hstep : endpointStep P client (.connect true) =
      sendConreq P (tick (prepareClient P { client with seqTx := 0 }
        (curTimestamp { client with seqTx := 0 }))) := by
    have hrunning : ¬ client.aborted = true := by simp [hclient.running]
    simp only [endpointStep, if_neg hrunning, srConnect, if_pos hconnect, if_true, openSession_eq]
  obtain ⟨hsending, hsent⟩ := @prepareClient_sending P ctx client hclient
    (curTimestamp { client with seqTx := 0 })
  generalize tick (prepareClient P { client with seqTx := 0 }
    (curTimestamp { client with seqTx := 0 })) = base at hstep hsending hsent
  obtain ⟨pdu, hpdu, htype, d, hd⟩ := sendConreq_conveyed hsending
  rw [← hstep] at hpdu hd
  rw [hsent] at hpdu
  have hnew : newlySent client (endpointStep P client (.connect true)) = [pdu] := newlySent_eq hpdu
  have hfixed := (endpointStep_fixed P client (.connect true)).config
  have hinv := (Renumbering.Inv.start ([] : List Bytes)
    client.config.initialSequenceNumber.toNat).moves hd.moves
  obtain ⟨flight, hflight, hcarries⟩ := hd.flight
  unfold openedSession
  simp only [hnew, List.map_cons, List.map_nil]
  refine ⟨⟨d, ⟨hinv, hd.sending, hdormant.receiving hinv hd.mode, ?_, ?_, ?_, hd.pushed, hd.delivered⟩,
    hd.mode⟩, ?_, rfl, rfl, .inl ?_, hdormant, rfl, ?_, ?_⟩
  · rw [hflight]
    exact hcarries
  · rw [hd.requests]
    rfl
  · rw [hd.next, hfixed]
    rfl
  · rw [hfixed]
    exact hclient.kexMode
  · rw [hstep]
    rfl
  · intro bytes hbytes
    rw [List.mem_singleton.mp hbytes, htype]
    decide
  · intro bytes hbytes
    cases hbytes

/-- The endpoint an event happens at. -/
def Session.at (s : Session) : RastaRole → Party
  | .client => s.client
  | .server => s.server

/-- A step of the one session, with sequence numbers left at both endpoints. -/
structure SessionOk (s : Session) (event : RastaRole × Activity) : Prop where
  session : event.2.inSession = true
  client : s.client.InRange
  server : s.server.InRange

instance (s : Session) (event : RastaRole × Activity) : Decidable (SessionOk s event) :=
  decidable_of_iff (event.2.inSession = true ∧ s.client.InRange ∧ s.server.InRange)
    ⟨fun h => ⟨h.1, h.2.1, h.2.2⟩, fun h => ⟨h.session, h.client, h.server⟩⟩

/-- A step whose messages fit into Data PDUs, together with those queued before them. -/
def SessionFits (s : Session) (event : RastaRole × Activity) : Prop :=
  ActivityFits (s.at event.1) event.2

instance (s : Session) (event : RastaRole × Activity) : Decidable (SessionFits s event) :=
  inferInstanceAs (Decidable (ActivityFits _ _))

theorem SessionInv.step {s : Session} {event : RastaRole × Activity} (h : SessionInv P ctx s)
    (hok : SessionOk s event) (hfits : SessionFits s event) :
    SessionInv P ctx (sessionStep P s event) := by
  obtain ⟨role, activity⟩ := event
  rcases h with hopening | hjoined
  · cases role with
    | client => exact .inl (hopening.client_step hok.session hfits)
    | server => exact hopening.server_step hok.session
  · cases role with
    | client => exact .inr (hjoined.step hok.session hfits hok.client hok.server)
    | server => exact .inr (hjoined.symm.step hok.session hfits hok.server hok.client).symm

theorem Linked.sublist {sender receiver : Party} {d : Direction Bytes}
    (h : Linked P ctx sender receiver d) : receiver.appended.Sublist sender.pushed := by
  have hbase := h.inv.base
  rw [h.delivered, h.pushed] at hbase
  exact (List.sublist_append_left _ _).trans hbase

theorem SessionInv.sublist {s : Session} (h : SessionInv P ctx s) :
    s.server.appended.Sublist s.client.pushed ∧ s.client.appended.Sublist s.server.pushed := by
  rcases h with hopening | hjoined
  · obtain ⟨d, hd, -⟩ := hopening.there
    refine ⟨hd.sublist, ?_⟩
    rw [hopening.unappended]
    exact List.nil_sublist _
  · obtain ⟨d, hd⟩ := hjoined.there
    obtain ⟨d', hd'⟩ := hjoined.back
    exact ⟨hd.sublist, hd'.sublist⟩

/-- Over links that lose PDUs, in every interleaving, an endpoint appends to `fifo_receive` a
subsequence of what its peer pushed to `fifo_send`, if no batch is longer than a Data PDU. -/
theorem appended_sublist_pushed (P : Platform) (hclient : Fresh ctx client)
    (hconnect : Connectable client) (hserver : Fresh ctx server)
    (hwaiting : server.currentState = .closed ∨ server.currentState = .down)
    (events : List (RastaRole × Activity))
    (hok : RunOk (sessionStep P) SessionOk (openedSession P client server) events)
    (hfits : RunOk (sessionStep P) SessionFits (openedSession P client server) events) :
    let s := run (sessionStep P) (openedSession P client server) events
    s.server.appended.Sublist s.client.pushed ∧ s.client.appended.Sublist s.server.pushed := by
  have hopening := @openedSession_opening P ctx client server hclient hconnect hserver hwaiting
  have hboth : RunOk (sessionStep P) (fun s event => SessionOk s event ∧ SessionFits s event)
      (openedSession P client server) events :=
    fun t ht => ⟨hok t ht, hfits t ht⟩
  have hinv : SessionInv P ctx (run (sessionStep P) (openedSession P client server) events) :=
    run_invariant (sessionStep P) (fun s event h hboth => h.step hboth.1 hboth.2) hboth
      (.inl hopening)
  exact hinv.sublist

end Session

section Overlong

variable {P : Platform} {front back : Bytes}

/-- What does not fit into the array is left out. -/
theorem store_append (mem bytes more : Bytes) (h : bytes.length = mem.length) :
    store mem 0 (bytes ++ more) = bytes := by
  have hdrop : mem.drop (0 + (bytes ++ more).length) = [] := by
    rw [List.drop_eq_nil_iff, List.length_append]
    omega
  rw [store, hdrop, List.take_zero, List.nil_append, Nat.sub_zero, List.append_nil, ← h,
    List.take_left]

/-- The length of a message and that of a Data PDU are cut to 16 bits: a message that is longer by
`2 ^ 16` bytes is sent as if it ended there. -/
theorem createDataMessage_overlong (hfront : front.length + 2 < 2 ^ 16) (hback : back.length = 2 ^ 16)
    (header : PacketHeader) (ctx : RastaHashingContext) :
    createDataMessage P header [front ++ back] ctx = createDataMessage P header [front] ctx := by
  have hcut : ∀ n, UInt16.ofNat ((front ++ back).length + n) = UInt16.ofNat (front.length + n) := by
    intro n
    rw [List.length_append, hback]
    apply UInt16.toNat_inj.mp
    simp only [UInt16.toNat_ofNat']
    omega
  have hstream : messageStream [front ++ back] = messageStream [front] ++ back := by
    have hlength := hcut 0
    simp only [Nat.add_zero] at hlength
    simp only [messageStream, List.flatMap_cons, List.flatMap_nil, List.append_nil, hlength,
      List.append_assoc]
  have hsize : (messageStream [front]).length =
      (allocateRastaByteArray (UInt16.ofNat (front.length + 2)).toNat).length := by
    rw [length_messageStream, allocateRastaByteArray, List.length_replicate, UInt16.toNat_ofNat',
      Nat.mod_eq_of_lt hfront]
    rfl
  have hdata : store (allocateRastaByteArray (UInt16.ofNat (front.length + 2)).toNat) 0
        (messageStream [front ++ back]) =
      store (allocateRastaByteArray (UInt16.ofNat (front.length + 2)).toNat) 0
        (messageStream [front]) := by
    rw [hstream, store_append _ _ _ hsize, store_all _ _ hsize]
  unfold createDataMessage
  simp only [List.map_cons, List.map_nil, List.sum_cons, List.sum_nil, List.length_singleton,
    Nat.add_zero, Nat.mul_one, hcut 2, fillData, initializePacket, hdata]

/-- An endpoint in UP with nothing queued and room for one message. -/
structure Unladen (con : Connection) : Prop where
  running : con.aborted = false
  state : con.currentState = .up
  maxPacket : 0 < con.config.maxPacket.toNat
  fifoSend : con.fifoSend.items = []
  room : 0 < con.fifoSend.maxSize
  retransmission : con.fifoRetransmission.items.length < con.config.maxRetransmissionQueueSize.toNat

variable {con : Connection}

theorem Unladen.not_full (h : Unladen con) : ¬ fifoFull con.fifoSend = true := by
  have hroom := h.room
  rw [fifoFull_eq_true, h.fifoSend, List.length_nil]
  omega

theorem Unladen.pushed (h : Unladen con) (message : Bytes) :
    (fifoPush con.fifoSend message).1 = true ∧
      (fifoPush con.fifoSend message).2.items = [message] ∧
      (fifoPush con.fifoSend message).2.maxSize = con.fifoSend.maxSize := by
  have hroom : con.fifoSend.items.length < con.fifoSend.maxSize := by
    rw [h.fifoSend]
    exact h.room
  obtain ⟨hpushed, hitems⟩ := fifoPush_of_room hroom message
  refine ⟨hpushed, ?_, ?_⟩
  · rw [hitems, h.fifoSend, List.nil_append]
  · unfold fifoPush
    rw [dif_neg (by omega)]

theorem Unladen.send (h : Unladen con) (message : Bytes) :
    endpointStep P con (.send [message]) =
        enableSendEvent { con with fifoSend := (fifoPush con.fifoSend message).2 } ∧
      eventPushes P con (.send [message]) = [message] := by
  have hfull := h.not_full
  have hpushed := (h.pushed message).1
  have hmax : 1 ≤ con.config.maxPacket.toNat := h.maxPacket
  constructor
  · simp only [endpointStep, h.running, srSend, h.state, List.length_singleton,
      if_neg (Nat.not_lt.mpr hmax), sendMessages, if_neg hfull, hpushed, if_true, if_false,
      Bool.false_eq_true]
  · simp only [eventPushes, h.running, h.state, List.length_singleton, hmax, and_self, if_true,
      messagesPushed, if_neg hfull, hpushed]

/-- The send timer fires while one message is queued. -/
theorem Unladen.batch (h : Unladen con) {queued : Fifo Bytes} {message : Bytes}
    (hqueued : queued.items = [message]) :
    endpointStep P (enableSendEvent { con with fifoSend := queued }) .dataSend =
      stopIdleSending (sendBatch P (enableSendEvent { con with fifoSend := queued }) 1) := by
  have hretransmission := h.retransmission
  have hmax := h.maxPacket
  have hbacklog : sendBacklogSize (enableSendEvent { con with fifoSend := queued }) = 1 := by
    simp only [sendBacklogSize, enableSendEvent, tick, fifoGetSize, hqueued, List.length_singleton]
    rw [if_pos hretransmission]
    omega
  have hcount : (if con.config.maxPacket.toNat ≤ 1 then con.config.maxPacket.toNat else 1) = 1 := by
    split
    · omega
    · rfl
  have hconfig : (enableSendEvent { con with fifoSend := queued }).config = con.config := rfl
  have hstep : endpointStep P (enableSendEvent { con with fifoSend := queued }) .dataSend =
      dataSendEvent P (enableSendEvent { con with fifoSend := queued }) := by
    unfold endpointStep
    rw [if_neg (by simp [enableSendEvent, tick, h.running])]
    exact if_pos rfl
  rw [hstep, dataSendEvent, sendQueued, hbacklog, if_pos Nat.one_pos, hconfig, hcount]

/-- Sending the longer message leaves the endpoint exactly as sending its beginning does. -/
theorem Unladen.overlong (h : Unladen con) (hfront : front.length + 2 < 2 ^ 16)
    (hback : back.length = 2 ^ 16) :
    endpointStep P (endpointStep P con (.send [front ++ back])) .dataSend =
      endpointStep P (endpointStep P con (.send [front])) .dataSend := by
  obtain ⟨-, hlong, hlongSize⟩ := h.pushed (front ++ back)
  obtain ⟨-, hshort, hshortSize⟩ := h.pushed front
  rw [(h.send (front ++ back)).1, (h.send front).1, h.batch hlong, h.batch hshort]
  generalize (fifoPush con.fifoSend (front ++ back)).2 = long at hlong hlongSize ⊢
  generalize (fifoPush con.fifoSend front).2 = short at hshort hshortSize ⊢
  have hempty : fifoPopMany long 1 = fifoPopMany short 1 := by
    ext1
    · simp only [fifoPopMany, hlong, hshort, List.drop_succ_cons, List.drop_zero]
    · exact hlongSize.trans hshortSize.symm
  have hbatch : ∀ queued : Fifo Bytes, sendBatch P (enableSendEvent { con with fifoSend := queued }) 1 =
      let data := createDataMessage P (nextHeader (enableSendEvent con)) (queued.items.take 1)
        con.srHashingContext
      let packet := rastaModuleToBytes P con.lasterror data con.srHashingContext
      rescheduleHeartbeat (incrementSnT (redundancyMuxSend P
        (tick (setQueues (enableSendEvent con) (fifoPopMany queued 1)
          (fifoPush con.fifoRetransmission packet.1).2 packet.2)) data)) :=
    fun _ => rfl
  have hdata : ∀ header, createDataMessage P header (long.items.take 1) con.srHashingContext =
      createDataMessage P header (short.items.take 1) con.srHashingContext := by
    intro header
    rw [hlong, hshort]
    exact createDataMessage_overlong hfront hback header _
  rw [hbatch, hbatch, hempty, hdata]

variable {s : Session}

theorem Unladen.queue (h : Unladen s.client.con) (message : Bytes) :
    sessionStep P s (.client, .own (.send [message])) =
      { s with
        client :=
          { s.client with
            con := endpointStep P s.client.con (.send [message])
            pushed := s.client.pushed ++ [message] } } := by
  have hquiet : newlySent s.client.con (endpointStep P s.client.con (.send [message])) = [] := by
    refine newlySent_eq ?_
    rw [(h.send message).1, List.append_nil]
    rfl
  simp only [sessionStep, activityStep, Party.moveTo, hquiet, List.append_nil, Party.link_nil,
    (h.send message).2]

/-- A message is queued, sent and taken by the peer. -/
def messageRun (message : Bytes) : List (RastaRole × Activity) :=
  [(.client, .own (.send [message])), (.client, .own .dataSend), (.server, .deliver)]

/-- Only the record of what was pushed tells the two sessions apart. -/
theorem run_overlong (h : Unladen s.client.con) (hfront : front.length + 2 < 2 ^ 16)
    (hback : back.length = 2 ^ 16) :
    run (sessionStep P) s [(.client, .own (.send [front ++ back])), (.client, .own .dataSend)] =
      let other := run (sessionStep P) s [(.client, .own (.send [front])), (.client, .own .dataSend)]
      { other with client := { other.client with pushed := s.client.pushed ++ [front ++ back] } } := by
  have hsent : ∀ message after, newlySent (endpointStep P s.client.con (.send [message])) after =
      newlySent s.client.con after := by
    intro message after
    rw [newlySent, newlySent, (h.send message).1]
    rfl
  have hnone : ∀ con, eventPushes P con .dataSend = [] := fun _ => rfl
  simp only [run_cons, run_nil, h.queue]
  simp only [sessionStep, activityStep, Party.moveTo, List.append_nil, hsent, hnone,
    h.overlong hfront hback]

/-- What the peer takes from the link does not depend on that record. -/
theorem deliver_pushed (s : Session) (pushed : List Bytes) :
    sessionStep P { s with client := { s.client with pushed := pushed } } (.server, .deliver) =
      let after := sessionStep P s (.server, .deliver)
      { after with client := { after.client with pushed := pushed } } := by
  simp only [sessionStep, activityStep, Party.link]
  cases s.server.incoming with
  | nil => rfl
  | cons bytes rest => rfl

/-- The peer appends the beginning of the message in place of the message. -/
theorem messageRun_overlong (h : Unladen s.client.con) (hfront : front.length + 2 < 2 ^ 16)
    (hback : back.length = 2 ^ 16) (hok : RunOk (sessionStep P) SessionOk s (messageRun front)) :
    RunOk (sessionStep P) SessionOk s (messageRun (front ++ back)) ∧
      (run (sessionStep P) s (messageRun (front ++ back))).client.pushed =
        s.client.pushed ++ [front ++ back] ∧
      (run (sessionStep P) s (messageRun (front ++ back))).server.appended =
        (run (sessionStep P) s (messageRun front)).server.appended := by
  have hsent := @run_overlong P front back s h hfront hback
  have hsplit : ∀ message, messageRun message =
      [(.client, .own (.send [message])), (.client, .own .dataSend)] ++ [(.server, .deliver)] :=
    fun _ => rfl
  refine ⟨?_, ?_, ?_⟩
  · rw [hsplit, runOk_append, runOk_cons, h.queue, runOk_cons, hsent]
    rw [hsplit, runOk_append, runOk_cons, h.queue, runOk_cons] at hok
    obtain ⟨⟨hfirst, hsecond, -⟩, hthird⟩ := hok
    rw [runOk_cons] at hthird ⊢
    have hconfig : (endpointStep P s.client.con (.send [front ++ back])).config =
        (endpointStep P s.client.con (.send [front])).config := by
      rw [(h.send _).1, (h.send _).1]
      rfl
    refine ⟨⟨⟨rfl, hfirst.client, hfirst.server⟩, ⟨rfl, ?_, hsecond.server⟩, ?_⟩,
      ⟨rfl, hthird.1.client, hthird.1.server⟩, ?_⟩
    · have hrange := hsecond.client
      unfold Party.InRange at hrange ⊢
      simp only [hconfig]
      exact hrange
    · exact fun _ ht => absurd ht List.not_mem_nil
    · exact fun _ ht => absurd ht List.not_mem_nil
  · rw [hsplit, run_append, hsent, run_cons, run_nil, deliver_pushed]
  · rw [hsplit, run_append, hsent, run_cons, run_nil, deliver_pushed]
    rfl

end Overlong

/-- `exampleServer` takes the connection request, `exampleClient` the response, and the server the
heartbeat that follows it. -/
def exampleGreeting : List (RastaRole × Activity) :=
  [(.server, .deliver), (.client, .deliver), (.server, .deliver)]

/-- The second of three Data PDUs is lost; the server asks for it and takes what the client sends
again. -/
def exampleLossyRun : List (RastaRole × Activity) :=
  [(.client, .own (.send [[0x61]])), (.client, .own .dataSend), (.server, .deliver),
    (.client, .own (.send [[0x62]])), (.client, .own .dataSend), (.server, .lose 0),
    (.client, .own (.send [[0x63]])), (.client, .own .dataSend), (.server, .deliver),
    (.client, .deliver), (.server, .deliver), (.server, .deliver), (.server, .deliver)]

theorem exampleClient_fresh : Fresh exampleClient.hashingContext exampleClient :=
  ⟨rfl, rfl, rfl, rfl, rfl, rfl, rfl, rfl⟩

theorem exampleServer_fresh : Fresh exampleClient.hashingContext exampleServer :=
  ⟨rfl, rfl, rfl, rfl, rfl, rfl, rfl, rfl⟩

theorem appended_sublist_pushed_lossy :
    let s := run (sessionStep referencePlatform)
      (openedSession referencePlatform exampleClient exampleServer)
      (exampleGreeting ++ exampleLossyRun)
    s.server.appended = [[0x61], [0x62], [0x63]] ∧ s.server.appended.Sublist s.client.pushed := by
  refine ⟨by decide +kernel, ?_⟩
  exact (appended_sublist_pushed referencePlatform exampleClient_fresh (by decide)
    exampleServer_fresh (.inl rfl) (exampleGreeting ++ exampleLossyRun) (by decide +kernel)
    (by decide +kernel)).1

theorem exampleGreeting_unladen :
    Unladen (run (sessionStep referencePlatform)
      (openedSession referencePlatform exampleClient exampleServer) exampleGreeting).client.con := by
  have hfields : ∀ con, con = (run (sessionStep referencePlatform)
        (openedSession referencePlatform exampleClient exampleServer) exampleGreeting).client.con →
      con.aborted = false ∧ con.currentState = .up ∧ 0 < con.config.maxPacket.toNat ∧
      con.fifoSend.items = [] ∧ 0 < con.fifoSend.maxSize ∧
      con.fifoRetransmission.items.length < con.config.maxRetransmissionQueueSize.toNat := by
    intro con hcon
    rw [hcon]
    decide +kernel
  obtain ⟨hrunning, hstate, hmax, hsend, hroom, hretransmission⟩ := hfields _ rfl
  exact ⟨hrunning, hstate, hmax, hsend, hroom, hretransmission⟩

/-- The message of 65536 bytes arrives as an empty one, which was never sent. -/
theorem overlong_message_delivered_empty :
    let start := openedSession referencePlatform exampleClient exampleServer
    let events := exampleGreeting ++ messageRun (List.replicate (2 ^ 16) 0)
    let s := run (sessionStep referencePlatform) start events
    Fresh exampleClient.hashingContext exampleClient ∧ Connectable exampleClient ∧
      Fresh exampleClient.hashingContext exampleServer ∧ exampleServer.currentState = .closed ∧
      RunOk (sessionStep referencePlatform) SessionOk start events ∧
      s.client.pushed = [List.replicate (2 ^ 16) 0] ∧ s.server.appended = [[]] ∧
      ¬ s.server.appended.Sublist s.client.pushed := by
  intro start events s
  obtain ⟨hok, hpushed, happended⟩ := @messageRun_overlong referencePlatform []
    (List.replicate (2 ^ 16) 0) _ exampleGreeting_unladen (by decide) List.length_replicate
    (by decide +kernel)
  have hbefore : (run (sessionStep referencePlatform) start exampleGreeting).client.pushed = [] := by
    decide +kernel
  have hempty : (run (sessionStep referencePlatform)
      (run (sessionStep referencePlatform) start exampleGreeting) (messageRun [])).server.appended =
        [[]] := by
    decide +kernel
  have hsplit : s = run (sessionStep referencePlatform)
      (run (sessionStep referencePlatform) start exampleGreeting)
      (messageRun ([] ++ List.replicate (2 ^ 16) 0)) :=
    run_append _ _ _ _
  rw [hsplit, hpushed, happended, hbefore, hempty]
  refine ⟨exampleClient_fresh, by decide, exampleServer_fresh, rfl,
    (runOk_append _).mpr ⟨by decide +kernel, hok⟩, rfl, rfl, ?_⟩
  intro hsublist
  have hmem : ([] : Bytes) = [] ++ List.replicate (2 ^ 16) 0 :=
    List.mem_singleton.mp (hsublist.subset (List.mem_singleton_self []))
  have hlength := congrArg List.length hmem
  rw [List.nil_append, List.length_replicate, List.length_nil] at hlength
  omega

end LibRasta.Retransmission
