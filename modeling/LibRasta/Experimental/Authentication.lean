/-
Module: LibRasta/Experimental/Authentication.lean
source: src/c/experimental/handlers.c, src/c/retransmission/handlers.c, src/c/retransmission/safety_retransmission.c
digest: A server with key exchange delivers no application message before it has authenticated its peer, in every run that avoids the retransmission request which overwrites the state.
-/

import LibRasta.Retransmission.Acknowledgement
import LibRasta.Retransmission.ReceiveQueue

set_option autoImplicit false
set_option relaxedAutoImplicit false

namespace LibRasta.Retransmission

open LibRasta.Lib
open LibRasta.Util
open LibRasta.Factory

section Conditions

variable (P : Platform)

/-- `handle_kex_auth` runs and `kex_authenticate_user` returns 0. -/
def KexAuthAccepted (con : Connection) (packet : RastaPacket) : Prop :=
  packet.type = .kexAuthentication ∧ ReachesHandler P con packet ∧ P.enableOpaque = true ∧
    con.currentState = .kexAuth ∧ InSequence con packet ∧ con.config.kexMode ≠ .none ∧
    kexAuthenticateUser P con packet.data = 0

instance (con : Connection) (packet : RastaPacket) : Decidable (KexAuthAccepted P con packet) :=
  inferInstanceAs (Decidable (_ ∧ _))

/-- The step authenticates the peer. -/
def Authenticates (t : Step Connection Event) : Prop :=
  ∃ packet, t.event = .receive packet ∧ t.before.aborted = false ∧
    KexAuthAccepted P t.before packet

/-- The step starts a session. -/
def BeginsSession (t : Step Connection Event) : Prop :=
  t.before.aborted = false ∧ StartsSession P t.before t.event

/-- The peer was authenticated in the session the history ends in. -/
def AuthenticatedInSession (history : List (Step Connection Event)) : Prop :=
  Since (fun t => ¬ BeginsSession P t) (fun _ t => Authenticates P t) history

/-- `handle_retrreq` answers a request out of sequence although no data transfer is going on,
and overwrites the state with RETRREQ. -/
def OverwritesState (con : Connection) (packet : RastaPacket) : Prop :=
  ReachesHandler P con packet ∧ packet.type = .retrReq ∧ srSnInSeq con packet = false ∧
    ¬ Established con.currentState

instance (con : Connection) (packet : RastaPacket) : Decidable (OverwritesState P con packet) :=
  inferInstanceAs (Decidable (_ ∧ _))

/-- A step of a server that does not take that branch. -/
def ServerStepOk (con : Connection) : Event → Prop
  | .receive packet => ¬ OverwritesState P con packet
  | .connect _ => False
  | _ => True

instance (con : Connection) (event : Event) : Decidable (ServerStepOk P con event) :=
  match event with
  | .receive packet => inferInstanceAs (Decidable (¬ OverwritesState P con packet))
  | .connect _ => inferInstanceAs (Decidable False)
  | .dataSend | .heartbeat | .connectionExpired | .timedKeyExchange | .send _ | .connectReturn
  | .disconnect | .transportClosed | .recv | .accept | .acceptReturn =>
    inferInstanceAs (Decidable True)

/-- What a packet can do to the state of a server with key exchange. -/
inductive ServerStep (con : Connection) (packet : RastaPacket) (after : Connection) : Prop
  | same (hafter : after.currentState = con.currentState)
  | closed (hafter : after.currentState = .closed)
  | starts (haccepted : ConreqAccepted P con packet) (hafter : after.currentState = .start)
      (hrole : after.role = .server)
  | exchanges (hafter : after.currentState = .kexReq ∨ after.currentState = .kexAuth)
  | stays (hbefore : Established con.currentState) (hafter : Established after.currentState)
  | authenticates (htype : packet.type = .kexAuthentication)
      (hreach : ReachesHandler P con packet) (hbefore : con.currentState = .kexAuth)
      (hseq : InSequence con packet) (hmode : con.config.kexMode ≠ .none)
      (hafter : after.currentState = .up)

end Conditions

section Packets

variable {P : Platform} {con base after : Connection} {packet : RastaPacket}

/-- A server that exchanges keys: it does not wait for a connection response or a key exchange
response, and the rekeying timer is off. -/
structure ServesWithKeys (con : Connection) : Prop where
  mode : con.config.kexMode ≠ .none
  role : con.currentState = .start → con.role = .server
  response : con.currentState ≠ .kexResp
  rekeying : con.rekeyingEvent.enabled = false

theorem answerKex_state (con : Connection) (response packet : RastaPacket) (state : RastaSrState) :
    (setSessionKey (setState (srRemoveConfirmedMessages P (updateKexAttrs (incrementSnT
      (redundancyMuxSend P con response)) packet)) state)).currentState = state :=
  rfl

theorem Received.serverStep (h : Received P con packet after) (hserves : ServesWithKeys con)
    (hok : ¬ OverwritesState P con packet) : ServerStep P con packet after := by
  cases h with
  | ignored hbase => exact .same hbase.currentState
  | closed hbase reason => exact .closed (srCloseConnection_state P _ reason 0)
  | discReq => exact .closed rfl
  | @data base hbase =>
    exact .same ((acceptData_phase P base packet).1.trans hbase.currentState)
  | dataDropped hbase => exact .same hbase.currentState
  | retransmissionRequested _ _ htype =>
    refine .stays ?_ (.inr (.inl rfl))
    rcases htype with ⟨-, hstate | hstate⟩ | ⟨-, hstate⟩ <;> simp [Established, hstate]
  | heartbeatGap _ _ _ hstate =>
    refine .stays ?_ (.inr (.inl rfl))
    rcases hstate with hstate | hstate <;> simp [Established, hstate]
  | @retrReqInSeq base hbase _ _ hseq =>
    have hinSeq : srSnInSeq base packet = true := hbase.srSnInSeq.trans hseq
    have hafter := (answerRetrreq_frame P (setCsR (updateConnectionAttrs
      (if base.currentState = .retrRun then srCloseConnection P base .retrFailed 0 else base)
      packet) packet)).currentState
    simp only [handleRetrreq, hinSeq, if_true]
    by_cases hrun : base.currentState = .retrRun
    · rw [if_pos hrun] at hafter ⊢
      exact .closed (hafter.trans (srCloseConnection_state P base .retrFailed 0))
    · rw [if_neg hrun] at hafter ⊢
      exact .same (hafter.trans hbase.currentState)
  | retrReqOutOfSeq _ hreach htype hseq =>
    refine .stays ?_ (.inr (.inl rfl))
    by_contra hnot
    exact hok ⟨hreach, htype, hseq, hnot⟩
  | retrResp _ _ _ hstate => exact .stays (.inr (.inl hstate)) (.inr (.inr rfl))
  | @retrData base hbase =>
    exact .same ((retrData_phase P base packet).1.trans hbase.currentState)
  | @heartbeatStart base hbase =>
    have hmode : (rejectStartHb P base packet).config.kexMode ≠ .none := by
      rw [(rejectStartHb_fixed P base packet).config, hbase.config]
      exact hserves.mode
    refine .exchanges (.inl ?_)
    generalize rejectStartHb P base packet = rejected at hmode ⊢
    exact if_neg hmode
  | heartbeatLate => exact .closed (srCloseConnection_state P _ _ 0)
  | @heartbeat base hbase =>
    have hafter := (acceptHb_phase P base packet).1
    by_cases hrun : base.currentState = .retrRun
    · rw [if_pos hrun] at hafter
      exact .stays (.inr (.inr (hbase.currentState.symm.trans hrun))) (.inl hafter)
    · rw [if_neg hrun] at hafter
      exact .same (hafter.trans hbase.currentState)
  | conreqRefused => exact .closed (srCloseConnection_state P _ _ 0)
  | conreqAccepted haccepted =>
    obtain ⟨hstate, hrole, -⟩ := acceptConreq_phase P (prepareServer P con) packet
    exact .starts haccepted hstate (hrole.trans (prepareServer_role P con))
  | conrespAccepted haccepted =>
    obtain ⟨-, hstate, hrole, -⟩ := haccepted
    exact absurd ((hserves.role hstate).symm.trans hrole) (by simp)
  | aborted hbase => exact .same hbase.currentState
  | kexRequest _ _ _ _ _ response => exact .exchanges (.inr (answerKex_state _ response packet _))
  | kexResponse _ _ _ hstate => exact absurd hstate hserves.response
  | kexAuth _ hreach hmode hstate hseq htype =>
    exact .authenticates htype hreach hstate hseq hmode rfl

/-- The rekeying timer is armed by `send_KexRequest` only, and messages are delivered on an
established connection only. -/
theorem Received.aside (h : Received P con packet after) (hno : ¬ ConrespAccepted P con packet) :
    Aside con after ∨
      Established con.currentState ∧ after.rekeyingEvent = con.rekeyingEvent := by
  rcases h.aside_cases with haside | ⟨⟨-, -, hdelivers⟩, hsame⟩ | ⟨haccepted, -⟩
  · exact .inl haside
  · refine .inr ⟨?_, hsame⟩
    rcases hdelivers with ⟨-, hstate⟩ | ⟨-, hstate⟩
    · exact .inl hstate
    · exact .inr (.inr hstate)
  · exact absurd haccepted hno

/-- A refused authentication closes the connection. -/
theorem handleKexAuth_refused_state (henable : P.enableOpaque = true)
    (hbefore : con.currentState = .kexAuth) (hseq : InSequence con packet)
    (hmode : con.config.kexMode ≠ .none) (hrefused : kexAuthenticateUser P con packet.data ≠ 0) :
    (handleKexAuth P con packet).1.currentState = .closed := by
  unfold handleKexAuth
  rw [if_pos hseq.1, if_neg (not_not.mpr hbefore), if_pos hseq.2, if_neg hmode, if_pos henable,
    if_pos hrefused]
  exact srCloseConnection_state P _ _ 0

theorem srReceive_kexAuth_accepted (htype : packet.type = .kexAuthentication)
    (hreach : ReachesHandler P con packet) (hbefore : con.currentState = .kexAuth)
    (hseq : InSequence con packet) (hmode : con.config.kexMode ≠ .none)
    (hafter : (srReceive P con packet).1.currentState = .up) : KexAuthAccepted P con packet := by
  obtain ⟨reads, hreceive⟩ := srReceive_of_reaches P (by simp [htype]) (by simp [htype]) hreach
  rw [hreceive] at hafter
  simp only [handleReceivedPacket, htype] at hafter
  cases henable : P.enableOpaque with
  | false =>
    simp only [henable, Bool.false_eq_true, if_false] at hafter
    exact absurd (hbefore.symm.trans hafter) (by simp)
  | true =>
    refine ⟨htype, hreach, henable, hbefore, hseq, hmode, ?_⟩
    by_contra hrefused
    have hclosed := @handleKexAuth_refused_state P { con with clockReads := reads } packet henable
      hbefore hseq hmode hrefused
    simp only [henable, if_true, hclosed] at hafter
    cases hafter

end Packets

section Steps

variable {P : Platform} {con : Connection} {event : Event}

/-- What the own events of a server change: they may close the connection, stop the rekeying
timer and take messages out of the receive queue. -/
structure OwnStep (before after : Connection) : Prop where
  state : after.currentState = before.currentState ∨ after.currentState = .closed
  rekeying : before.rekeyingEvent.enabled = false → after.rekeyingEvent.enabled = false
  appended : newlyAppended before after = []

theorem ownStep_of_aside {before after : Connection} (h : Aside before after)
    (hstate : after.currentState = before.currentState ∨ after.currentState = .closed) :
    OwnStep before after :=
  ⟨hstate, fun hoff => by rw [h.1, hoff], newlyAppended_none h.2⟩

theorem SendFrame.ownStep {before after : Connection} (h : SendFrame before after) :
    OwnStep before after :=
  ownStep_of_aside h.aside (.inl h.currentState)

theorem endpointStep_ownStep (hown : ∀ packet, event ≠ .receive packet)
    (hconnect : ∀ transportOk, event ≠ .connect transportOk)
    (hoff : con.rekeyingEvent.enabled = false) : OwnStep con (endpointStep P con event) := by
  have hnothing : OwnStep con con := ownStep_of_aside ⟨rfl, rfl⟩ (.inl rfl)
  unfold endpointStep
  split
  · exact hnothing
  cases event with
  | receive packet => exact absurd rfl (hown packet)
  | dataSend =>
    simp only
    split
    · exact (dataSendEvent_frame P con).ownStep
    · exact hnothing
  | heartbeat =>
    simp only
    split
    · unfold heartbeatSendEvent
      split
      · exact hnothing
      · split
        · exact (sendHeartbeat_frame P con false).ownStep
        · exact hnothing
    · exact hnothing
  | connectionExpired =>
    simp only
    split
    · unfold eventConnectionExpired
      split
      · exact hnothing
      · split
        · exact ownStep_of_aside (srCloseConnection_aside con .timeout 0)
            (.inr (srCloseConnection_state P con .timeout 0))
        · exact ownStep_of_aside ⟨rfl, rfl⟩ (.inl rfl)
    · exact hnothing
  | timedKeyExchange =>
    simp only [hoff, Bool.false_eq_true, if_false]
    exact hnothing
  | send appMessages =>
    simp only [srSend]
    split
    · split
      · exact hnothing
      · exact (sendMessages_frame P appMessages con).ownStep
    · exact ownStep_of_aside ⟨rfl, rfl⟩ (.inr rfl)
    · exact ownStep_of_aside ⟨rfl, rfl⟩ (.inr rfl)
    all_goals
      exact ownStep_of_aside (sendDisconnectionRequest_frame P con .serviceNotAllowed 0).aside
        (.inr rfl)
  | connect transportOk => exact absurd rfl (hconnect transportOk)
  | connectReturn => exact ownStep_of_aside ⟨rfl, rfl⟩ (.inl rfl)
  | disconnect =>
    have hclosed := @srCloseConnection_aside P con .userRequest 0
    refine ⟨.inr (srCloseConnection_state P con .userRequest 0), ?_, newlyAppended_none hclosed.2⟩
    intro _
    simp only [srDisconnect]
    split
    · rfl
    · rw [hclosed.1, hoff]
  | transportClosed => exact ownStep_of_aside ⟨rfl, rfl⟩ (.inr rfl)
  | recv =>
    simp only [rastaRecv]
    split
    · refine ⟨.inl rfl, id, ?_⟩
      simp [newlyAppended]
    · exact hnothing
  | accept => exact ownStep_of_aside ⟨rfl, rfl⟩ (.inl rfl)
  | acceptReturn => exact ownStep_of_aside ⟨rfl, rfl⟩ (.inl rfl)

end Steps

section Runs

variable {P : Platform} {con : Connection} {event : Event}
  {history : List (Step Connection Event)}

/-- The server exchanges keys, and where it transfers data it has authenticated its peer. -/
structure Guarded (P : Platform) (history : List (Step Connection Event)) (con : Connection) :
    Prop where
  serves : ServesWithKeys con
  authenticated : Established con.currentState → AuthenticatedInSession P history

theorem ServesWithKeys.of_state {after : Connection} (h : ServesWithKeys con)
    (hconfig : after.config = con.config) (hrekeying : after.rekeyingEvent.enabled = false)
    (hrole : after.currentState = .start → after.role = .server)
    (hresponse : after.currentState ≠ .kexResp) : ServesWithKeys after :=
  ⟨by rw [hconfig]; exact h.mode, hrole, hresponse, hrekeying⟩

/-- A connection that is closed or exchanges keys has nothing to show. -/
theorem ServesWithKeys.guarded {after : Connection} (h : ServesWithKeys con)
    (hconfig : after.config = con.config) (hrekeying : after.rekeyingEvent.enabled = false)
    (hidle : after.currentState = .closed ∨ after.currentState = .kexReq ∨
      after.currentState = .kexAuth) (history : List (Step Connection Event)) :
    Guarded P history after := by
  refine ⟨h.of_state hconfig hrekeying ?_ ?_, ?_⟩
  · intro hstart
    rcases hidle with hstate | hstate | hstate <;> exact absurd (hstate.symm.trans hstart) nofun
  · intro hresponse
    rcases hidle with hstate | hstate | hstate <;>
      exact absurd (hstate.symm.trans hresponse) nofun
  · intro hestablished
    rcases hidle with hstate | hstate | hstate <;> rw [hstate] at hestablished <;>
      exact absurd hestablished (by decide)

/-- A step that starts no session keeps the evidence. -/
theorem Guarded.keep (h : Guarded P history con) (hbefore : Established con.currentState)
    (hconnect : ∀ transportOk, event ≠ .connect transportOk) (after : Connection) :
    AuthenticatedInSession P (history ++ [{ before := con, event := event, after := after }]) := by
  refine (h.authenticated hbefore).snoc ?_
  rintro ⟨-, hstart⟩
  cases event with
  | receive packet =>
    obtain ⟨-, hstate, -⟩ : ConreqAccepted P con packet := hstart
    rcases hstate with hstate | hstate
    · rw [hstate] at hbefore
      exact absurd hbefore (by decide)
    · rw [hstate] at hbefore
      exact absurd hbefore (by decide)
  | connect transportOk => exact hconnect transportOk rfl
  | _ => exact hstart

theorem Guarded.receive (h : Guarded P history con) (hrunning : con.aborted = false)
    {packet : RastaPacket} (hok : ¬ OverwritesState P con packet) :
    Guarded P
      (history ++ [{ before := con, event := .receive packet,
                     after := endpointStep P con (.receive packet) }])
      (endpointStep P con (.receive packet)) := by
  have hafter : endpointStep P con (.receive packet) = (srReceive P con packet).1 := by
    simp [endpointStep, hrunning]
  have hreceived := srReceive_received P con packet
  have hconresp : ¬ ConrespAccepted P con packet := by
    rintro ⟨-, hstate, hrole, -⟩
    exact absurd ((h.serves.role hstate).symm.trans hrole) (by simp)
  have hconfig : (srReceive P con packet).1.config = con.config := (hreceived.fixed P).config
  have hrekeying : (srReceive P con packet).1.rekeyingEvent.enabled = false := by
    rcases hreceived.aside hconresp with haside | ⟨-, hsame⟩
    · rw [haside.1, h.serves.rekeying]
    · rw [hsame, h.serves.rekeying]
  have hkeep := fun hbefore => @Guarded.keep P con (.receive packet) history h hbefore (by simp)
    (srReceive P con packet).1
  rw [hafter]
  cases hreceived.serverStep h.serves hok with
  | same hstate =>
    have hrole : (srReceive P con packet).1.currentState = .start →
        (srReceive P con packet).1.role = .server := by
      intro hstart
      have hbefore : con.currentState = .start := hstate.symm.trans hstart
      have hno : ¬ Reinitialises con (.receive packet) := by
        rintro ⟨-, hclosed | hdown⟩
        · exact absurd (hbefore.symm.trans hclosed) (by simp)
        · exact absurd (hbefore.symm.trans hdown) (by simp)
      have hadvances := @endpointStep_advances P con (.receive packet) hno
      rw [hafter] at hadvances
      exact hadvances.role.trans (h.serves.role hbefore)
    refine ⟨h.serves.of_state hconfig hrekeying hrole ?_, ?_⟩
    · rw [hstate]
      exact h.serves.response
    · intro hestablished
      rw [hstate] at hestablished
      exact hkeep hestablished
  | closed hstate => exact h.serves.guarded hconfig hrekeying (.inl hstate) _
  | starts haccepted hstate hrole =>
    refine ⟨h.serves.of_state hconfig hrekeying (fun _ => hrole) ?_, ?_⟩
    · rw [hstate]
      simp
    · rw [hstate]
      intro hestablished
      exact absurd hestablished (by decide)
  | exchanges hstate => exact h.serves.guarded hconfig hrekeying (.inr hstate) _
  | stays hbefore hestablished =>
    refine ⟨h.serves.of_state hconfig hrekeying ?_ ?_, fun _ => hkeep hbefore⟩
    · intro hstart
      rw [hstart] at hestablished
      exact absurd hestablished (by decide)
    · intro hresponse
      rw [hresponse] at hestablished
      exact absurd hestablished (by decide)
  | authenticates htype hreach hbefore hseq hmode hstate =>
    have haccepted := srReceive_kexAuth_accepted htype hreach hbefore hseq hmode hstate
    refine ⟨h.serves.of_state hconfig hrekeying ?_ ?_, ?_⟩
    · rw [hstate]
      simp
    · rw [hstate]
      simp
    · intro _
      exact since_last ⟨packet, rfl, hrunning, haccepted⟩

theorem Guarded.step (h : Guarded P history con) (hok : ServerStepOk P con event) :
    Guarded P
      (history ++ [{ before := con, event := event, after := endpointStep P con event }])
      (endpointStep P con event) := by
  cases haborted : con.aborted with
  | true =>
    have hsame : endpointStep P con event = con := by simp [endpointStep, haborted]
    rw [hsame]
    refine ⟨h.serves, fun hestablished => (h.authenticated hestablished).snoc ?_⟩
    rintro ⟨hrunning, -⟩
    exact absurd (haborted.symm.trans hrunning) (by simp)
  | false =>
    have hown : (∀ packet, event ≠ .receive packet) →
        (∀ transportOk, event ≠ .connect transportOk) → Guarded P
          (history ++ [{ before := con, event := event, after := endpointStep P con event }])
          (endpointStep P con event) := by
      intro hreceive hconnect
      have hstep := @endpointStep_ownStep P con event hreceive hconnect h.serves.rekeying
      have hconfig := (endpointStep_fixed P con event).config
      have hrekeying := hstep.rekeying h.serves.rekeying
      rcases hstep.state with hstate | hstate
      · refine ⟨h.serves.of_state hconfig hrekeying ?_ ?_, ?_⟩
        · intro hstart
          have hno : ¬ StartsSession P con event := by
            cases event with
            | receive packet => exact absurd rfl (hreceive packet)
            | connect transportOk => exact absurd rfl (hconnect transportOk)
            | _ => exact id
          rw [(endpointStep_repeats hreceive hno).sends.role]
          exact h.serves.role (hstate.symm.trans hstart)
        · rw [hstate]
          exact h.serves.response
        · intro hestablished
          rw [hstate] at hestablished
          exact h.keep hestablished hconnect _
      · exact h.serves.guarded hconfig hrekeying (.inl hstate) _
    cases event with
    | receive packet => exact h.receive haborted hok
    | connect transportOk => exact hok.elim
    | _ => exact hown (by simp) (by simp)

/-- Messages are appended on an established connection only. -/
theorem ServesWithKeys.established_of_appended (h : ServesWithKeys con)
    (hok : ServerStepOk P con event)
    (happended : newlyAppended con (endpointStep P con event) ≠ []) :
    Established con.currentState := by
  cases haborted : con.aborted with
  | true =>
    have hsame : endpointStep P con event = con := by simp [endpointStep, haborted]
    rw [hsame, newlyAppended_none rfl] at happended
    exact absurd rfl happended
  | false =>
    cases event with
    | receive packet =>
      have hafter : endpointStep P con (.receive packet) = (srReceive P con packet).1 := by
        simp [endpointStep, haborted]
      have hconresp : ¬ ConrespAccepted P con packet := by
        rintro ⟨-, hstate, hrole, -⟩
        exact absurd ((h.role hstate).symm.trans hrole) (by simp)
      rw [hafter] at happended
      rcases (srReceive_received P con packet).aside hconresp with haside | ⟨hestablished, -⟩
      · exact absurd (newlyAppended_none haside.2) happended
      · exact hestablished
    | connect transportOk => exact hok.elim
    | _ =>
      refine absurd (OwnStep.appended ?_) happended
      exact endpointStep_ownStep (by simp) (by simp) h.rekeying

/-- In every run of a server with key exchange in which no retransmission request out of sequence
is answered outside the data transfer: whenever a step appends application messages, the peer was
authenticated before in the same session. -/
theorem appended_after_authentication (config : RastaConfigInfo)
    (hmode : config.kexMode = .opaqueMode) (clock : ℕ → ℕ) (events : List Event) (event : Event)
    (hok : RunOk (endpointStep P) (ServerStepOk P) (rastaLibInitConfiguration config clock)
      (events ++ [event]))
    (happended : newlyAppended
      (run (endpointStep P) (rastaLibInitConfiguration config clock) events)
      (run (endpointStep P) (rastaLibInitConfiguration config clock) (events ++ [event])) ≠ []) :
    AuthenticatedInSession P
      (trace (endpointStep P) (rastaLibInitConfiguration config clock) events) := by
  obtain ⟨hokEvents, hokLast⟩ := (runOk_append (endpointStep P)).mp hok
  obtain ⟨hokEvent, -⟩ := (runOk_cons (endpointStep P)).mp hokLast
  have hinit : Guarded P [] (rastaLibInitConfiguration config clock) := by
    refine ⟨⟨?_, nofun, nofun, rfl⟩, ?_⟩
    · change config.kexMode ≠ .none
      rw [hmode]
      nofun
    · intro hestablished
      have hclosed : Established .closed := hestablished
      exact absurd hclosed (by decide)
  have hguarded := @trace_invariant _ _ (endpointStep P) (ServerStepOk P) (Guarded P)
    (fun history con event h hok => h.step hok) _ _ hokEvents hinit
  rw [run_append] at happended
  exact hguarded.authenticated (hguarded.serves.established_of_appended hokEvent happended)

end Runs

/-- The server of `exampleServer` with key exchange. -/
def exampleKexServer : Connection :=
  rastaLibInitConfiguration { exampleRemoteConfig with kexMode := .opaqueMode, psk := [0x70] }
    fun reading => (9000 + reading) * 10 ^ 6

/-- A packet of the peer of `exampleKexServer` with a sequence number and data, which confirms
the connection response. -/
def exampleKexPacket (type : RastaConnType) (number : UInt32) (data : Bytes) : RastaPacket :=
  { exampleRequest with
    type := type
    sequenceNumber := number
    confirmedSequenceNumber := 700
    data := data }

/-- The handshake, the key exchange and a Data PDU. -/
theorem appended_after_authentication_exchange :
    AuthenticatedInSession exchangePlatform
      (trace (endpointStep exchangePlatform) exampleKexServer
        [.receive exampleRequest, .receive (exampleKexPacket .hb 101 []),
          .receive (exampleKexPacket .kexRequest 102 [0x70]),
          .receive (exampleKexPacket .kexAuthentication 103 [0xBE])]) :=
  appended_after_authentication _ rfl _ _
    (.receive (exampleKexPacket .data 104 (messageStream [[0x68, 0x69]])))
    (by decide +kernel) (by decide +kernel)

/-- A retransmission request instead of the key exchange request makes the server deliver what
the peer retransmits. -/
theorem appended_without_authentication :
    newlyAppended
        (run (endpointStep exchangePlatform) exampleKexServer
          [.receive exampleRequest, .receive (exampleKexPacket .hb 101 []),
            .receive (exampleKexPacket .retrReq 103 []),
            .receive (exampleKexPacket .retrResp 104 [])])
        (run (endpointStep exchangePlatform) exampleKexServer
          [.receive exampleRequest, .receive (exampleKexPacket .hb 101 []),
            .receive (exampleKexPacket .retrReq 103 []),
            .receive (exampleKexPacket .retrResp 104 []),
            .receive (exampleKexPacket .retrData 105 (messageStream [[0x68, 0x69]]))]) =
        [[0x68, 0x69]] ∧
      ¬ AuthenticatedInSession exchangePlatform
        (trace (endpointStep exchangePlatform) exampleKexServer
          [.receive exampleRequest, .receive (exampleKexPacket .hb 101 []),
            .receive (exampleKexPacket .retrReq 103 []),
            .receive (exampleKexPacket .retrResp 104 [])]) := by
  refine ⟨by decide +kernel, ?_⟩
  rintro ⟨front, t, back, hsplit, ⟨packet, hevent, -, haccepted⟩, -⟩
  have hmem : t ∈ trace (endpointStep exchangePlatform) exampleKexServer
      [.receive exampleRequest, .receive (exampleKexPacket .hb 101 []),
        .receive (exampleKexPacket .retrReq 103 []),
        .receive (exampleKexPacket .retrResp 104 [])] := by
    rw [hsplit]
    simp
  obtain ⟨early, late, hevents, -⟩ := mem_trace _ hmem
  have hreceived : t.event ∈ [Event.receive exampleRequest,
      .receive (exampleKexPacket .hb 101 []), .receive (exampleKexPacket .retrReq 103 []),
      .receive (exampleKexPacket .retrResp 104 [])] := by
    rw [hevents]
    simp
  rw [hevent] at hreceived
  simp only [List.mem_cons, Event.receive.injEq, List.not_mem_nil, or_false] at hreceived
  rcases hreceived with rfl | rfl | rfl | rfl <;> exact absurd haccepted.1 (by decide)

end LibRasta.Retransmission
