/-
Module: LibRasta/Retransmission/Pace.lean
source: src/c/transport/events.c, src/c/redundancy/rastaredundancy.c, src/c/retransmission/handlers.c
digest: The session while the layer below takes its time: the redundancy channel reads the same clock between two activities, which changes nothing an endpoint knows of its peer.
-/

import LibRasta.Lib.Simulation
import LibRasta.Retransmission.LossFree

set_option autoImplicit false
set_option relaxedAutoImplicit false

namespace LibRasta.Retransmission

open LibRasta.Lib
open LibRasta.Lib.Lockstep
open LibRasta.Lib.Renumbering
open LibRasta.Util
open LibRasta.Factory

/-- The clock was read so many times more. -/
def Connection.elapse (con : Connection) (reads : ℕ) : Connection :=
  { con with clockReads := con.clockReads + reads }

/-- An activity, or nothing while the clock is read by the layer below. -/
inductive Pace where
  | act (activity : Activity)
  | wait (reads : ℕ)

section Translation

variable (P : Platform)

def Party.wait (self : Party) (reads : ℕ) : Party := { self with con := self.con.elapse reads }

def paceStep (self peer : Party) : Pace → Party × Party
  | .act activity => activityStep P self peer activity
  | .wait reads => (self.wait reads, peer)

/-- One step of the session at its pace. -/
def pacedStep (s : Session) (event : RastaRole × Pace) : Session :=
  match event.1 with
  | .client =>
    let after := paceStep P s.client s.server event.2
    { client := after.1, server := after.2 }
  | .server =>
    let after := paceStep P s.server s.client event.2
    { client := after.2, server := after.1 }

/-- The PDU at some place of a link is lost. -/
def Activity.Loses : Activity → Prop
  | .lose _ => True
  | _ => False

instance : (activity : Activity) → Decidable activity.Loses
  | .lose _ => inferInstanceAs (Decidable True)
  | .own _ | .deliver => inferInstanceAs (Decidable False)

/-- A step of the one session with numbers and room left, in which nothing is lost. -/
def Lossless (s : Session) (event : RastaRole × Pace) : Prop :=
  match event.2 with
  | .act activity =>
    SessionOk s (event.1, activity) ∧ SessionFits s (event.1, activity) ∧ ¬ activity.Loses
  | .wait _ => True

/-- A step without loss or disconnection. -/
def PacedLossFree (s : Session) (event : RastaRole × Pace) : Prop :=
  match event.2 with
  | .act activity => LossFree P s (event.1, activity)
  | .wait _ => True

end Translation

section Waiting

variable {P : Platform} {ctx : RastaHashingContext} {con : Connection} {party peer : Party}
  {client server client' server' sender receiver sender' receiver' : Party} {d : Direction Bytes}

theorem elapse_idles (con : Connection) (reads : ℕ) : Idles con (con.elapse reads) :=
  ⟨⟨rfl, rfl, rfl, rfl, rfl, rfl, rfl, rfl, rfl, rfl, rfl, rfl, Nat.le_add_right _ _, rfl⟩,
    ⟨rfl, rfl, rfl, rfl, rfl, rfl, rfl, rfl⟩⟩

theorem Party.wait_rests (party : Party) (reads : ℕ) : Rests party (party.wait reads) :=
  ⟨elapse_idles party.con reads, rfl, rfl, rfl, rfl⟩

theorem Receiving.idles {after : Connection} (h : Receiving con d) (hidles : Idles con after) :
    Receiving after d := by
  have hframe := hidles.frame
  constructor
  · rw [hframe.currentState, hframe.snR, hframe.csT]
    exact h.accepting
  · rw [hframe.currentState]
    exact h.starting
  · rw [hframe.snR]
    exact h.pending
  · rw [hframe.currentState]
    exact h.unkeyed

theorem Linked.rests (h : Linked P ctx sender receiver d) (hsender : Rests sender sender')
    (hreceiver : Rests receiver receiver') : Linked P ctx sender' receiver' d where
  inv := h.inv
  sending := h.sending.same hsender.idles.same
  receiving := h.receiving.idles hreceiver.idles
  flight := hreceiver.incoming ▸ h.flight
  requests := hsender.incoming ▸ h.requests
  next := by
    rw [hsender.idles.frame.config, hsender.output]
    exact h.next
  pushed := h.pushed.trans hsender.pushed.symm
  delivered := h.delivered.trans hreceiver.appended.symm

theorem Joined.rests (h : Joined P ctx client server) (hclient : Rests client client')
    (hserver : Rests server server') : Joined P ctx client' server' := by
  obtain ⟨ds, hs⟩ := h.there
  obtain ⟨dr, hr⟩ := h.back
  refine ⟨⟨ds, hs.rests hclient hserver⟩, ⟨dr, hr.rests hserver hclient⟩, ?_, ?_⟩
  · rw [hclient.idles.frame.config, hserver.idles.frame.config]
    exact h.kex
  · rw [hclient.incoming, hserver.incoming]
    exact h.greeted

theorem Opening.rests (h : Opening P ctx client server) (hclient : Rests client client')
    (hserver : Rests server server') : Opening P ctx client' server' := by
  obtain ⟨d, hd, hidle⟩ := h.there
  have hstate := hserver.idles.frame.currentState
  refine ⟨⟨d, hd.rests hclient hserver, hidle⟩, ?_, hclient.incoming.trans h.silent,
    hclient.appended.trans h.unappended, ?_, h.dormant.same hserver.idles.same ?_,
    hserver.output.trans h.unsent, ?_, ?_⟩
  · rw [hclient.idles.frame.config]
    exact h.kex
  · rw [hclient.idles.frame.currentState]
    exact h.waiting
  · rw [hstate]
    exact h.dormant.state
  · rw [hserver.incoming]
    exact h.unasked
  · rw [hserver.incoming]
    exact h.once

/-- The conversation goes on after a wait. -/
theorem Conversing.wait (h : Conversing P ctx party peer) (reads : ℕ) :
    Conversing P ctx (party.wait reads) peer := by
  have hidles := elapse_idles party.con reads
  have hnone := hidles.newlySent
  have hafter := h.utters (@Idles.utters P ctx party.con _ hidles)
  rw [Party.moveTo, hnone, Party.link_nil, List.append_nil, List.append_nil] at hafter
  exact hafter

theorem UnderWay.client_wait (h : UnderWay P ctx client server) (reads : ℕ) :
    UnderWay P ctx (client.wait reads) server :=
  ⟨h.conversing.wait reads, h.client, h.server⟩

theorem UnderWay.server_wait (h : UnderWay P ctx client server) (reads : ℕ) :
    UnderWay P ctx client (server.wait reads) :=
  ⟨(h.conversing.symm.wait reads).symm, h.client, h.server⟩

theorem Progress.client_wait (h : Progress P ctx client server) (reads : ℕ) :
    Progress P ctx (client.wait reads) server := by
  have hclient := client.wait_rests reads
  cases h with
  | apart h => exact .apart (h.rests hclient (.refl server))
  | requested h => exact .requested (h.rests hclient (.refl server))
  | answering h => exact .answering (h.rests hclient (.refl server))
  | underWay h => exact .underWay (h.client_wait reads)

theorem Progress.server_wait (h : Progress P ctx client server) (reads : ℕ) :
    Progress P ctx client (server.wait reads) := by
  have hserver := server.wait_rests reads
  cases h with
  | apart h => exact .apart (h.rests (.refl client) hserver)
  | requested h => exact .requested (h.rests (.refl client) hserver)
  | answering h => exact .answering (h.rests (.refl client) hserver)
  | underWay h => exact .underWay (h.server_wait reads)

end Waiting

section Steps

variable {P : Platform} {ctx : RastaHashingContext} {s : Session} {event : RastaRole × Pace}

theorem pacedStep_act (s : Session) (role : RastaRole) (activity : Activity) :
    pacedStep P s (role, .act activity) = sessionStep P s (role, activity) := by
  cases role with
  | client => rfl
  | server => rfl

/-- A step of the session at its pace keeps the invariant of the session. -/
theorem SessionInv.paced (h : SessionInv P ctx s) (hok : Lossless s event) :
    SessionInv P ctx (pacedStep P s event) := by
  obtain ⟨role, pace⟩ := event
  cases pace with
  | act activity =>
    rw [pacedStep_act]
    exact h.step hok.1 hok.2.1
  | wait reads =>
    cases role with
    | client =>
      have hclient := s.client.wait_rests reads
      exact h.imp (·.rests hclient (.refl _)) (·.rests hclient (.refl _))
    | server =>
      have hserver := s.server.wait_rests reads
      exact h.imp (·.rests (.refl _) hserver) (·.rests (.refl _) hserver)

theorem InProgress.paced (h : InProgress P ctx s) (hok : PacedLossFree P s event) :
    InProgress P ctx (pacedStep P s event) := by
  obtain ⟨role, pace⟩ := event
  cases pace with
  | act activity =>
    rw [pacedStep_act]
    exact h.step hok
  | wait reads =>
    cases role with
    | client => exact Progress.client_wait h reads
    | server => exact Progress.server_wait h reads

end Steps

end LibRasta.Retransmission
