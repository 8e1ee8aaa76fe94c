/-
Module: LibRasta/Redundancy/StackProgress.lean
source: src/c/redundancy/rasta_red_multiplexer.c, src/c/redundancy/rastaredundancy.c, src/c/transport/events.c
digest: When the two layers get on: a PDU that never arrives stops its channel for good, and with room in the defer queue PDUs that arrive one by one and in order are all handed over.
-/

import LibRasta.Redundancy.Progress
import LibRasta.Redundancy.StackDelivery

set_option autoImplicit false
set_option relaxedAutoImplicit false

namespace LibRasta.Redundancy

open LibRasta.Lib
open LibRasta.Util
open LibRasta.Factory
open LibRasta.Retransmission

section Arrivals

/-- The numbers of the PDUs in a read. -/
def StackEvent.arrivals : StackEvent → Option (List ℕ)
  | .own _ => none
  | .read _ numbers => some numbers

/-- The reads of an endpoint in the run, on whichever transport channel. -/
def readsAt (role : RastaRole) (events : List (RastaRole × StackEvent)) : List (List ℕ) :=
  (events.filter fun event => event.1 = role).filterMap fun event => event.2.arrivals

variable {role other : RastaRole} {event : StackEvent} {events : List (RastaRole × StackEvent)}

theorem readsAt_other (h : other ≠ role) :
    readsAt role ((other, event) :: events) = readsAt role events := by
  rw [readsAt, List.filter_cons_of_neg (by simpa using h)]
  rfl

theorem readsAt_own (own : Event) :
    readsAt role ((role, .own own) :: events) = readsAt role events := by
  rw [readsAt, List.filter_cons_of_pos (by simp)]
  rfl

theorem readsAt_read (channelId : ℕ) (numbers : List ℕ) :
    readsAt role ((role, .read channelId numbers) :: events) =
      numbers :: readsAt role events := by
  rw [readsAt, List.filter_cons_of_pos (by simp)]
  rfl

theorem readsAt_cons (role : RastaRole) (event : RastaRole × StackEvent)
    (events : List (RastaRole × StackEvent)) :
    readsAt role (event :: events) = readsAt role [event] ++ readsAt role events := by
  rw [readsAt, readsAt, readsAt, ← List.filterMap_append, ← List.filter_append]
  rfl

/-- The numbers come in order, from `next` on: each is the next one, or one that came before. -/
def InOrder : ℕ → List ℕ → Prop
  | _, [] => True
  | next, n :: rest => n ≤ next ∧ InOrder (max next (n + 1)) rest

instance : ∀ (next : ℕ) (numbers : List ℕ), Decidable (InOrder next numbers)
  | _, [] => .isTrue trivial
  | next, n :: rest =>
    have := instDecidableInOrder (max next (n + 1)) rest
    inferInstanceAs (Decidable (n ≤ next ∧ InOrder (max next (n + 1)) rest))

/-- The number that comes after them. -/
def nextAfter (next : ℕ) (numbers : List ℕ) : ℕ :=
  numbers.foldl (fun next n => max next (n + 1)) next

theorem nextAfter_append (next : ℕ) (front back : List ℕ) :
    nextAfter next (front ++ back) = nextAfter (nextAfter next front) back :=
  List.foldl_append

theorem inOrder_append (next : ℕ) (front back : List ℕ) :
    InOrder next (front ++ back) ↔ InOrder next front ∧ InOrder (nextAfter next front) back := by
  induction front generalizing next with
  | nil => exact ⟨fun h => ⟨trivial, h⟩, fun h => h.2⟩
  | cons n rest ih =>
    rw [List.cons_append, InOrder, InOrder, ih, and_assoc]
    rfl

variable {P : Platform} {s : Stack}

theorem nodes_self (s : Stack) (role : RastaRole) (event : StackEvent) :
    (stackStep P s (role, event)).nodes role =
      ((s.nodes role).1.step P (s.nodes role).2 event, (s.nodes role).2) := by
  cases role with
  | client => rfl
  | server => rfl

theorem nodes_peer (s : Stack) (h : other ≠ role) (event : StackEvent) :
    (stackStep P s (other, event)).nodes role =
      ((s.nodes role).1, (s.nodes role).2.step P (s.nodes role).1 event) := by
  cases role with
  | client =>
    cases other with
    | client => exact absurd rfl h
    | server => rfl
  | server =>
    cases other with
    | client => rfl
    | server => exact absurd rfl h

/-- What was sent stays sent. -/
theorem Node.step_output (self peer : Node) (event : StackEvent) :
    self.output <+: (self.step P peer event).output := by
  cases event with
  | own event => exact List.prefix_append _ _
  | read channelId numbers => exact List.prefix_append _ _

theorem nodes_output (s : Stack) (role : RastaRole) (event : RastaRole × StackEvent) :
    (s.nodes role).2.output <+: ((stackStep P s event).nodes role).2.output := by
  obtain ⟨other, event⟩ := event
  by_cases hother : other = role
  · subst hother
    rw [nodes_self]
  · rw [nodes_peer s hother]
    exact Node.step_output _ _ event

theorem StackOk.inRange {permits : Connection → Event → Prop}
    {admits : Connection → RastaPacket → Prop} {event : RastaRole × StackEvent}
    (h : StackOk P permits admits s event) (role : RastaRole) :
    ((stackStep P s event).nodes role).1.InRange ∧
      ((stackStep P s event).nodes role).2.InRange := by
  cases role with
  | client => exact ⟨h.client, h.server⟩
  | server => exact ⟨h.server, h.client⟩

variable {ctx : RastaHashingContext} {crc : CrcOptions} {t : Session}

theorem Reached.at {L : Layer P ctx} (h : Reached L crc .client s.client s.server t)
    (role : RastaRole) : Reached L crc role (s.nodes role).1 (s.nodes role).2 t := by
  cases role with
  | client => exact h
  | server => exact h.symm_client

end Arrivals

section Heard

/-- Whatever is queued and whatever was handed over has a number that arrived. -/
structure Heard (known : List ℕ) (endpoint : Endpoint) : Prop where
  queued : ∀ element ∈ endpoint.channel.deferQ.live, (seqNrOf element).toNat ∈ known
  passed : ∀ n < endpoint.channel.delivered.length, n ∈ known

variable {P : Platform} {ctx : RastaHashingContext} {crc : CrcOptions} {output : List SentPdu}
  {known more : List ℕ} {endpoint after : Endpoint}

theorem Heard.mono (h : Heard known endpoint) (hmore : ∀ n ∈ known, n ∈ more) :
    Heard more endpoint :=
  ⟨fun element hmem => hmore _ (h.queued element hmem), fun n hn => hmore n (h.passed n hn)⟩

theorem Heard.of_channel (h : Heard known endpoint)
    (hqueue : after.channel.deferQ = endpoint.channel.deferQ)
    (hdelivered : after.channel.delivered = endpoint.channel.delivered) : Heard known after := by
  refine ⟨?_, ?_⟩
  · rw [hqueue]
    exact h.queued
  · rw [hdelivered]
    exact h.passed

/-- Copies with known numbers arrive one behind the other. -/
theorem Heard.receivePdus (h : Heard known endpoint) (hencoded : Encoded P ctx crc output)
    (hcrc : crc.crcLen ≤ 4) (hsequences : Sequences P ctx crc endpoint output)
    (hctx : endpoint.con.srHashingContext = ctx) {copies : List Bytes}
    (hcopies : ∀ bytes ∈ copies, ∃ i ∈ known, ∃ pdu, output[i]? = some pdu ∧
      bytes = pdu.dataToSend) (channelId : ℕ) (behind : Bytes) (result : Bool) :
    Heard known (receivePdus P channelId behind copies endpoint result).1 := by
  induction copies generalizing endpoint result with
  | nil => exact h
  | cons bytes rest ih =>
    obtain ⟨i, hknown, pdu, hpdu, rfl⟩ := hcopies bytes List.mem_cons_self
    have hfew := hencoded.few
    have hi : i < output.length := (List.getElem?_eq_some_iff.mp hpdu).1
    have hreceived := receivePdu_eq hencoded hcrc hsequences.crcType hctx hpdu channelId
      (rest.flatten ++ behind)
    obtain ⟨hreads, hnext⟩ :=
      receivePdu_copy hencoded hcrc hsequences hctx hpdu channelId (rest.flatten ++ behind)
    have hdispatched := dispatchPdu_dispatched P endpoint channelId (copyAt P ctx crc i pdu)
    rw [← hreceived] at hdispatched
    refine ih ⟨fun element hmem => ?_, ?_⟩ hnext ?_
      (fun b hb => hcopies b (List.mem_cons_of_mem _ hb)) _
    · rcases hdispatched.live P hmem with hold | hnew
      · exact h.queued element hold
      · rw [seqNrOf, hnew, copyAt_sequenceNumber (by omega)]
        exact hknown
    · rw [hreads.delivered]
      exact h.passed
    · obtain ⟨reads, hcon⟩ := hreads.con
      rw [hcon]
      exact hctx

/-- The delivery loop takes the number whose turn it is out of the queue. -/
theorem Heard.deliverLoop (h : Heard known endpoint)
    (hplace : endpoint.channel.seqRx.toNat = endpoint.channel.delivered.length) (rounds : ℕ)
    (result : Bool) : Heard known (deliverLoop P rounds endpoint result).1 := by
  refine @deliverLoop_rule P
    (fun e => Heard known e ∧ e.channel.seqRx.toNat = e.channel.delivered.length) (Heard known)
    (fun _ he => he.1) ?_ rounds endpoint result ⟨h, hplace⟩
  rintro middle element ⟨hheard, hturn⟩ hmem hseq
  obtain ⟨handover, -, hchannel⟩ := handOver_channel P middle element.packet
  have hhanded : Heard known (handOver P middle element.packet).1 := by
    refine ⟨?_, ?_⟩
    · rw [hchannel]
      exact hheard.queued
    · rw [hchannel, List.length_append, List.length_singleton]
      intro n hn
      rcases Nat.lt_succ_iff_lt_or_eq.mp hn with hbefore | rfl
      · exact hheard.passed n hbefore
      · rw [← hturn, ← hseq]
        exact hheard.queued element hmem
  refine ⟨fun _ => hhanded, fun _ => ⟨⟨fun other hother => ?_, hhanded.passed⟩, ?_⟩⟩
  · have hcontains : deferqueueContains middle.channel.deferQ middle.channel.seqRx = true :=
      (deferqueueContains_iff _ _).mpr ⟨element, hmem, hseq⟩
    obtain ⟨removed, -, hperm⟩ := deferqueueRemove_live P hcontains
    refine hheard.queued other (hperm.mem_iff.mpr (List.mem_cons_of_mem removed ?_))
    rw [advance, hchannel] at hother
    exact hother
  · have hlt := element.packet.sequenceNumber.toNat_lt
    have hnumber : middle.channel.seqRx.toNat < 2 ^ 32 := by
      rw [← hseq, seqNrOf, UInt32.toNat_toUInt64]
      exact hlt
    have hone : (1 : UInt64).toNat = 1 := rfl
    rw [advance_seqRx, advance_delivered, hchannel, List.length_append, List.length_singleton,
      UInt64.toNat_add]
    simp only
    omega

/-- A read makes its numbers known. -/
theorem Heard.receiveCopies (h : Heard known endpoint) (hencoded : Encoded P ctx crc output)
    (hcrc : crc.crcLen ≤ 4) (hsequences : Sequences P ctx crc endpoint output)
    (hctx : endpoint.con.srHashingContext = ctx) {copies : List Bytes}
    (hcopies : ∀ bytes ∈ copies, ∃ i ∈ known, ∃ pdu, output[i]? = some pdu ∧
      bytes = pdu.dataToSend) (channelId : ℕ) :
    Heard known (receiveCopies P endpoint channelId copies) := by
  by_cases hidle : endpoint.con.aborted = true ∨ 2 ^ 64 ≤ copies.flatten.length
  · rw [receiveCopies_idle copies channelId hidle]
    exact h
  rw [not_or] at hidle
  have hrunning : endpoint.con.aborted = false := by simpa using hidle.1
  have hframed : ∀ bytes ∈ copies, Framed P bytes := by
    intro bytes hbytes
    obtain ⟨i, -, pdu, hpdu, rfl⟩ := hcopies bytes hbytes
    exact hencoded.framed hcrc hpdu
  have hdiagnostics := runChannelDiagnostics_reads endpoint channelId
  have hqueue := (runChannelDiagnostics_frame endpoint channelId).2
  have hstart := hsequences.diagnostics channelId
  obtain ⟨reads, hcon⟩ := hdiagnostics.con
  have hsame : (runChannelDiagnostics endpoint channelId).con.srHashingContext = ctx := by
    rw [hcon]
    exact hctx
  have hheard := (h.of_channel hqueue hdiagnostics.delivered).receivePdus hencoded hcrc hstart
    hsame hcopies channelId [] false
  obtain ⟨hreads, hend⟩ := receivePdus_copies hencoded hcrc
    (fun bytes hbytes => (hcopies bytes hbytes).imp fun _ hi => hi.2) channelId [] hstart hsame
    false
  rw [LibRasta.Redundancy.receiveCopies, dif_pos (Nat.lt_of_not_le hidle.2),
    channelReceiveEvent_framed P rfl hframed (le_refl _) hrunning, Option.getD_some]
  unfold deliverAfter
  split
  · refine hheard.deliverLoop (hend.next ?_) _ _
    obtain ⟨later, hlater⟩ := hreads.con
    rw [hlater, hcon]
    exact hrunning
  · exact hheard

variable {role : RastaRole} {s : Stack} {t : Session} {client server : Endpoint}

theorem mem_copies_of_read {peer : Node} {numbers : List ℕ} {bytes : Bytes}
    (h : bytes ∈ peer.copies numbers) :
    ∃ i ∈ known ++ numbers, ∃ pdu, peer.output[i]? = some pdu ∧ bytes = pdu.dataToSend := by
  obtain ⟨pdu, hpdu, rfl⟩ := List.mem_map.mp h
  obtain ⟨i, hnumber, hi⟩ := List.mem_filterMap.mp hpdu
  exact ⟨i, List.mem_append_right _ hnumber, pdu, hi, rfl⟩

/-- One step of either endpoint. -/
theorem Layer.heard_step (L : Layer P ctx) (hcrc : crc.crcLen ≤ 4)
    (hreached : Reached L crc .client s.client s.server t)
    (hheard : Heard known (s.nodes role).1.endpoint) {event : RastaRole × StackEvent}
    (hok : StackOk P L.permits L.admits s event) :
    Heard (known ++ (readsAt role [event]).flatten)
      ((stackStep P s event).nodes role).1.endpoint := by
  obtain ⟨other, event⟩ := event
  have hgrown := hheard.mono fun n hn =>
    List.mem_append_left (readsAt role [(other, event)]).flatten hn
  by_cases hother : other = role
  · subst hother
    obtain ⟨rfl, hinv, hmeshed⟩ := hreached.at other
    have hrange := (hok.inRange other).2
    rw [nodes_self] at hrange ⊢
    cases event with
    | own event =>
      have hown := ownStep_of_not_starts (P := P) (s.nodes other).1.endpoint
        (StackEvent.not_starts hok.session)
      refine hgrown.of_channel ?_ ?_
      · exact congrArg (fun e => e.channel.deferQ) hown
      · exact congrArg (fun e => e.channel.delivered) hown
    | read channelId numbers =>
      rw [readsAt_read] at hgrown ⊢
      simp only [readsAt, List.filter_nil, List.filterMap_nil, List.flatten_cons,
        List.flatten_nil, List.append_nil] at hgrown ⊢
      have hclean : Clean ctx (s.nodes other).1.endpoint.con := L.clean_self hinv
      exact hgrown.receiveCopies (hmeshed.peerSends.toEncoded hrange) hcrc hmeshed.receives
        hclean.srHashingContext (fun _ hbytes => mem_copies_of_read hbytes) channelId
  · rw [nodes_peer s hother]
    exact hgrown

theorem Layer.heard_run (L : Layer P ctx) (hcrc : crc.crcLen ≤ 4)
    (hreached : Reached L crc .client s.client s.server t)
    (hheard : Heard known (s.nodes role).1.endpoint) {events : List (RastaRole × StackEvent)}
    (hok : RunOk (stackStep P) (StackOk P L.permits L.admits) s events) :
    Heard (known ++ (readsAt role events).flatten)
      ((run (stackStep P) s events).nodes role).1.endpoint := by
  induction events generalizing s t known with
  | nil => exact hheard.mono fun n hn => List.mem_append_left _ hn
  | cons event rest ih =>
    obtain ⟨hfirst, hrest⟩ := (runOk_cons (stackStep P)).mp hok
    obtain ⟨_, -, hnext⟩ := L.step_simulated hcrc hreached hfirst
    have hlater := ih hnext (L.heard_step hcrc hreached hheard hfirst) hrest
    rw [readsAt_cons, List.flatten_append, ← List.append_assoc]
    exact hlater

theorem heard_initialised {event : Event} (hinitialises : InitialisesChannel endpoint.con event)
    (hdelivered : endpoint.channel.delivered = []) : Heard [] (ownStep P endpoint event) := by
  have hchannel : (ownStep P endpoint event).channel = (redundancyChannelInit endpoint).channel :=
    if_pos hinitialises
  have hnone : (redundancyChannelInit endpoint).channel.delivered = [] := hdelivered
  refine ⟨?_, ?_⟩
  · rw [hchannel]
    simp [redundancyChannelInit, deferqueueClear, DeferQueue.live]
  · rw [hchannel, hnone]
    exact fun n hn => absurd hn (Nat.not_lt_zero n)

/-- The handshake, then two Data PDUs of which only the second one arrives. -/
def exampleStall : List (RastaRole × StackEvent) :=
  [(.server, .read 0 [0]), (.client, .read 1 [0]), (.server, .read 1 [1]),
    (.client, .own (.send [[0x61]])), (.client, .own .dataSend),
    (.client, .own (.send [[0x62, 0x63]])), (.client, .own .dataSend),
    (.server, .read 0 [3]), (.server, .read 1 [3])]

theorem exampleStall_ok :
    RunOk (stackStep referencePlatform) (StackOk referencePlatform EventFits fun _ _ => True)
      (openedStack referencePlatform exampleClientEndpoint exampleServerEndpoint) exampleStall := by
  decide +kernel

end Heard

/-- The channel takes the PDUs of the peer of its connection. -/
def Addressed (endpoint : Endpoint) : Prop :=
  endpoint.channel.associatedId = endpoint.con.remoteId.toUInt64

instance (endpoint : Endpoint) : Decidable (Addressed endpoint) :=
  inferInstanceAs (Decidable (_ = _))

section CatchingUp

variable {P : Platform} {ctx : RastaHashingContext} {crc : CrcOptions} {output : List SentPdu}
  {endpoint : Endpoint} {pdu : SentPdu} {i next : ℕ}

/-- The delivery loop makes room when the expected PDU is queued. -/
theorem redFDeliverDeferQueue_room
    (h : deferqueueContains endpoint.channel.deferQ endpoint.channel.seqRx = true)
    (hrunning : (redFDeliverDeferQueue P endpoint).1.con.aborted = false) :
    deferqueueIsfull (redFDeliverDeferQueue P endpoint).1.channel.deferQ = false := by
  have hdrained : Drained (redFDeliverDeferQueue P endpoint).1 :=
    deliverLoop_drained P _ _ _ (Nat.le_refl _)
  have habsent := hdrained.resolve_left (by rw [hrunning]; exact Bool.false_ne_true)
  -- an element has left the queue, or the loop is still at the one it started with
  have hleft : (redFDeliverDeferQueue P endpoint).1.con.aborted = true ∨
      (redFDeliverDeferQueue P endpoint).1.channel.deferQ.count <
        (redFDeliverDeferQueue P endpoint).1.channel.deferQ.maxCount ∨
      deferqueueContains (redFDeliverDeferQueue P endpoint).1.channel.deferQ
        (redFDeliverDeferQueue P endpoint).1.channel.seqRx = true := by
    refine @deliverLoop_rule P
      (fun e => e.channel.deferQ.count < e.channel.deferQ.maxCount ∨
        deferqueueContains e.channel.deferQ e.channel.seqRx = true)
      (fun e => e.con.aborted = true ∨ e.channel.deferQ.count < e.channel.deferQ.maxCount ∨
        deferqueueContains e.channel.deferQ e.channel.seqRx = true)
      (fun _ he => .inr he) ?_ _ endpoint false (.inr h)
    rintro middle element - hmem hseq
    refine ⟨fun haborted => .inl haborted, fun _ => .inl ?_⟩
    have hcontains : deferqueueContains middle.channel.deferQ middle.channel.seqRx = true :=
      (deferqueueContains_iff _ _).mpr ⟨element, hmem, hseq⟩
    have hcount := deferqueueRemove_count P hcontains
    have hbound := middle.channel.deferQ.count_le
    obtain ⟨handover, -, hchannel⟩ := handOver_channel P middle element.packet
    rw [advance, hchannel]
    simp only [deferqueueRemove_maxCount]
    omega
  rw [hrunning, habsent] at hleft
  have hlt := hleft.resolve_left Bool.false_ne_true |>.resolve_right Bool.false_ne_true
  simpa [deferqueueIsfull] using hlt.ne

/-- A read that holds one PDU. -/
theorem receiveCopies_singleton {bytes : Bytes} (hframed : Framed P bytes)
    (hrunning : endpoint.con.aborted = false) (channelId : ℕ) :
    receiveCopies P endpoint channelId [bytes] =
      deliverAfter P (receivePdu P (runChannelDiagnostics endpoint channelId) channelId bytes) := by
  have hsize : ([bytes] : List Bytes).flatten.length < 2 ^ 64 := by
    have hlt := (leShortToHost P bytes 0).toNat_lt
    rw [hframed.2] at hlt
    rw [List.flatten_singleton]
    omega
  rw [receiveCopies, dif_pos hsize,
    channelReceiveEvent_framed P rfl (by simpa using hframed) (le_refl _) hrunning,
    Option.getD_some, receivePdus, receivePdus, List.flatten_nil, List.append_nil,
    Bool.false_or, List.append_nil]

/-- A single copy of the next PDU, or of one that came before, is dealt with while the defer queue
has room. -/
theorem dispatchPdu_inOrder (hsequences : Sequences P ctx crc endpoint output)
    (hfew : output.length < 2 ^ 32) (hrunning : endpoint.con.aborted = false)
    (hroom : deferqueueIsfull endpoint.channel.deferQ = false) (hpdu : output[i]? = some pdu)
    (hi : i ≤ endpoint.channel.delivered.length)
    (hsender : i = endpoint.channel.delivered.length →
      endpoint.channel.associatedId = pdu.packet.senderId.toUInt64) (channelId : ℕ) :
    let after := deliverAfter P (dispatchPdu P endpoint channelId (copyAt P ctx crc i pdu))
    i < after.channel.delivered.length ∧
      (after.con.aborted = false → deferqueueIsfull after.channel.deferQ = false) := by
  intro after
  have hlt : i < output.length := (List.getElem?_eq_some_iff.mp hpdu).1
  have hnumber := @copyAt_sequenceNumber P ctx crc i (by omega) pdu
  have hplace := hsequences.next hrunning
  have hdispatched := dispatchPdu_dispatched P endpoint channelId (copyAt P ctx crc i pdu)
  generalize hresult : dispatchPdu P endpoint channelId (copyAt P ctx crc i pdu) = result
    at hdispatched
  have hafter : after = deliverAfter P result := by rw [← hresult]
  rw [hafter]
  cases hdispatched with
  | discarded frame queue why =>
    refine ⟨?_, fun _ => ?_⟩
    · -- the expected PDU would not have been discarded
      by_contra hpassed
      rw [deliverAfter, if_neg Bool.false_ne_true, frame.delivered] at hpassed
      obtain rfl : i = endpoint.channel.delivered.length := by omega
      refine why ⟨hsender rfl, hroom, rfl, ?_, .inl ?_⟩
      · rintro ⟨hzero, -, hnonzero⟩
        apply hnonzero
        rw [← UInt32.toNat_inj, ← UInt32.toNat_toUInt64, hnumber, ← hplace, hzero]
        rfl
      · rw [← UInt64.toNat_inj, hnumber, hplace]
    · rw [deliverAfter, if_neg Bool.false_ne_true, queue]
      exact hroom
  | @queued middle frame recvTs queue why =>
    have hexpected :
        (copyAt P ctx crc i pdu).sequenceNumber.toUInt64 = endpoint.channel.seqRx := by
      rcases why.wanted with hnext | ⟨hahead, -⟩
      · exact hnext
      · rw [UInt64.lt_iff_toNat_lt, hnumber, hplace] at hahead
        omega
    have hcontains : deferqueueContains middle.channel.deferQ middle.channel.seqRx = true := by
      have hfree : endpoint.channel.deferQ.count ≠ endpoint.channel.deferQ.maxCount := by
        simpa [deferqueueIsfull] using hroom
      rw [deferqueueContains_iff, queue, frame.seqRx]
      refine ⟨_, (deferqueueAdd_live P hfree _ recvTs).mem_iff.mpr List.mem_cons_self, ?_⟩
      exact hexpected
    have hdelivers : deliverAfter P (middle,
        decide ((copyAt P ctx crc i pdu).sequenceNumber.toUInt64 = endpoint.channel.seqRx)) =
          (redFDeliverDeferQueue P middle).1 := by
      rw [decide_eq_true hexpected]
      rfl
    obtain ⟨handed, hdelivered, ⟨handover, hmem, -⟩, -⟩ :=
      redFDeliverDeferQueue_handedOver P middle hcontains
    rw [hdelivers]
    refine ⟨?_, redFDeliverDeferQueue_room hcontains⟩
    have hsome := List.length_pos_of_mem hmem
    rw [hdelivered, frame.delivered, List.length_append]
    omega

theorem deliverAfter_grows (received : Endpoint × Bool) :
    Grows received.1 (deliverAfter P received) := by
  unfold deliverAfter
  split
  · exact deliverLoop_grows _ _ _
  · exact .refl _

theorem receiveCopies_grows (hencoded : Encoded P ctx crc output) (hcrc : crc.crcLen ≤ 4)
    (hsequences : Sequences P ctx crc endpoint output)
    (hctx : endpoint.con.srHashingContext = ctx) {copies : List Bytes}
    (hcopies : ∀ bytes ∈ copies, ∃ (i : ℕ) (pdu : SentPdu), output[i]? = some pdu ∧
      bytes = pdu.dataToSend) (channelId : ℕ) :
    Grows endpoint (receiveCopies P endpoint channelId copies) := by
  by_cases hidle : endpoint.con.aborted = true ∨ 2 ^ 64 ≤ copies.flatten.length
  · rw [receiveCopies_idle copies channelId hidle]
    exact .refl endpoint
  rw [not_or] at hidle
  obtain ⟨middle, flag, hreads, -, hend⟩ := receiveCopies_running hencoded hcrc
    (by simpa using hidle.1) hctx hsequences hcopies (Nat.lt_of_not_le hidle.2) channelId
  rw [hend]
  exact hreads.grows.trans (deliverAfter_grows (middle, flag))

theorem Addressed.grows {after : Endpoint} (h : Addressed endpoint)
    (hgrows : Grows endpoint after) : Addressed after := by
  rw [Addressed, hgrows.associatedId, hgrows.remoteId]
  exact h

/-- In a session in which nothing disconnects, neither side is ever aborted. -/
theorem InProgress.running {s : Session} (h : InProgress P ctx s) (role : RastaRole) :
    (s.at role).con.aborted = false := by
  have hmeeting : Meeting P ctx s.client s.server → (s.at role).con.aborted = false := by
    intro hmeeting
    cases role with
    | client => exact hmeeting.clientWaiting.running
    | server => exact hmeeting.serverWaiting.running
  cases h with
  | apart h => exact hmeeting h.toMeeting
  | requested h => exact hmeeting h.toMeeting
  | answering h => exact hmeeting h.toMeeting
  | underWay h =>
    obtain ⟨_, _, _, _, -, hclient, hserver, -⟩ := h.conversing.inStep
    cases role with
    | client => exact hclient.running
    | server => exact hserver.running

theorem Conversing.sender {client server : Party} (h : Conversing P ctx client server)
    {bytes : Bytes} {rest : List Bytes} (hincoming : client.incoming = bytes :: rest) :
    (decodePdu P ctx bytes).senderId = client.con.remoteId := by
  obtain ⟨_, _, _, back, -, -, -, -, hback⟩ := h.inStep
  rw [hincoming] at hback
  cases hback with
  | cons hshows _ => exact hshows.senderId.trans h.peerId

/-- What arrives next names the peer as its sender. -/
theorem InProgress.sender {s : Session} (h : InProgress P ctx s) (role : RastaRole)
    {bytes : Bytes} {rest : List Bytes} (hincoming : (s.at role).incoming = bytes :: rest) :
    (decodePdu P ctx bytes).senderId = (s.at role).con.remoteId := by
  cases h with
  | apart h =>
    cases role with
    | client => cases h.incoming.1.symm.trans hincoming
    | server => cases h.incoming.2.symm.trans hincoming
  | requested h =>
    obtain ⟨request, _, _, harrives, hgreets, -⟩ := h.request
    cases role with
    | client => cases h.incoming.symm.trans hincoming
    | server =>
      cases harrives.symm.trans hincoming
      exact hgreets.senderId.trans h.peers.clientId
  | answering h =>
    obtain ⟨response, _, harrives, hgreets⟩ := h.response
    cases role with
    | client =>
      cases harrives.symm.trans hincoming
      exact hgreets.senderId.trans h.peers.serverId
    | server => cases h.incoming.symm.trans hincoming
  | underWay h =>
    cases role with
    | client => exact Conversing.sender h.conversing hincoming
    | server => exact Conversing.sender h.conversing.symm hincoming

variable {role : RastaRole} {self peer : Node} {s : Stack} {t : Session}

/-- The channel has room, has passed on every number below `next`, and takes the PDUs of the
peer. -/
structure CatchesUp (next : ℕ) (node : Node) : Prop where
  room : deferqueueIsfull node.endpoint.channel.deferQ = false
  reached : next ≤ node.endpoint.channel.delivered.length
  addressed : Addressed node.endpoint

/-- The next PDU, or one that came before, arrives alone. -/
theorem CatchesUp.read (h : CatchesUp next self)
    (hreached : Reached (lockstepLayer P ctx) crc role self peer t) (hcrc : crc.crcLen ≤ 4)
    (hpeer : peer.InRange) (hi : i ≤ next) (hsent : i < peer.output.length) (channelId : ℕ)
    (hafter : (self.step P peer (.read channelId [i])).endpoint.con.aborted = false) :
    CatchesUp (max next (i + 1)) (self.step P peer (.read channelId [i])) := by
  obtain ⟨rfl, hinv, hmeshed⟩ := hreached
  obtain ⟨pdu, hpdu⟩ : ∃ pdu, peer.output[i]? = some pdu := ⟨_, List.getElem?_eq_getElem hsent⟩
  have hcopies : peer.copies [i] = [pdu.dataToSend] := by
    simp only [Node.copies, List.filterMap_cons, hpdu, List.filterMap_nil, List.map_cons,
      List.map_nil]
  have hself : (sessionAt role self peer).at role = self.party peer := sessionOf_at role _ _
  have hrunning : self.endpoint.con.aborted = false := by
    have hparty := InProgress.running hinv role
    rw [hself] at hparty
    exact hparty
  have hclean := (lockstepLayer P ctx).clean_self hinv
  have hencoded := hmeshed.peerSends.toEncoded hpeer
  have hsender : i = self.endpoint.channel.delivered.length →
      self.endpoint.channel.associatedId = pdu.packet.senderId.toUInt64 := by
    rintro rfl
    have harrives := Node.party_incoming hpdu
    rw [← hself] at harrives
    have hfrom := InProgress.sender hinv role harrives
    rw [(hencoded.encoded _ pdu hpdu).innerBytes,
      decodePdu_encodePdu P (hencoded.encoded _ pdu hpdu).header, hself] at hfrom
    exact h.addressed.trans (congrArg UInt32.toUInt64 hfrom.symm)
  have hdiagnostics := runChannelDiagnostics_reads self.endpoint channelId
  have hstart := hmeshed.receives.diagnostics channelId
  obtain ⟨reads, hcon⟩ := hdiagnostics.con
  have hend := receiveCopies_singleton (hencoded.framed hcrc hpdu) hrunning channelId
  have hreceived := receivePdu_eq hencoded hcrc hstart.crcType
    (by rw [hcon]; exact hclean.srHashingContext) hpdu channelId []
  rw [List.append_nil] at hreceived
  rw [hreceived] at hend
  obtain ⟨hpassed, hroom⟩ := dispatchPdu_inOrder hstart hencoded.few
    (by rw [hcon]; exact hrunning)
    (by rw [(runChannelDiagnostics_frame self.endpoint channelId).2]; exact h.room) hpdu
    (by rw [hdiagnostics.delivered]; exact hi.trans h.reached)
    (by rw [hdiagnostics.delivered, hdiagnostics.associatedId]; exact hsender) channelId
  rw [← hend, ← hcopies] at hpassed hroom
  have hgrows := receiveCopies_grows hencoded hcrc hmeshed.receives hclean.srHashingContext
    (fun bytes (hbytes : bytes ∈ peer.copies [i]) => mem_copies hbytes) channelId
  exact ⟨hroom hafter, max_le (h.reached.trans hgrows.delivered.length_le) hpassed,
    h.addressed.grows hgrows⟩

theorem Node.own_channel {event : Event} (hsession : StackEvent.inSession (.own event) = true) :
    (self.own P event).endpoint.channel = self.endpoint.channel := by
  rw [Node.own, ownStep_of_not_starts self.endpoint (StackEvent.not_starts hsession)]

theorem Addressed.own {event : Event} (h : Addressed self.endpoint)
    (hsession : StackEvent.inSession (.own event) = true) :
    Addressed (self.own P event).endpoint := by
  have hfixed := (endpointStep_fixed P self.endpoint.con event).remoteId
  rw [Addressed, Node.own_channel hsession]
  exact h.trans (congrArg UInt32.toUInt64 hfixed.symm)

/-- An event of its own leaves the channel alone. -/
theorem CatchesUp.own (h : CatchesUp next self) {event : Event}
    (hsession : StackEvent.inSession (.own event) = true) :
    CatchesUp next (self.own P event) := by
  have hchannel := @Node.own_channel P self event hsession
  refine ⟨?_, ?_, h.addressed.own hsession⟩
  · rw [hchannel]
    exact h.room
  · rw [hchannel]
    exact h.reached

theorem Addressed.opened {event : Event} (h : Addressed endpoint) :
    Addressed (ownStep P endpoint event) := by
  have hfixed := (endpointStep_fixed P endpoint.con event).remoteId
  have hchannel : (ownStep P endpoint event).channel.associatedId =
      endpoint.channel.associatedId := by
    unfold ownStep
    split
    · rfl
    · rfl
  rw [Addressed, hchannel]
  exact h.trans (congrArg UInt32.toUInt64 hfixed.symm)

/-- Nothing changes whose PDUs a channel takes. -/
theorem Layer.addressed_run (L : Layer P ctx) (hcrc : crc.crcLen ≤ 4)
    (hreached : Reached L crc .client s.client s.server t)
    (h : Addressed (s.nodes role).1.endpoint) {events : List (RastaRole × StackEvent)}
    (hok : RunOk (stackStep P) (StackOk P L.permits L.admits) s events) :
    Addressed ((run (stackStep P) s events).nodes role).1.endpoint := by
  induction events generalizing s t with
  | nil => exact h
  | cons event rest ih =>
    obtain ⟨hfirst, hrest⟩ := (runOk_cons (stackStep P)).mp hok
    obtain ⟨_, -, hnext⟩ := L.step_simulated hcrc hreached hfirst
    refine ih hnext ?_ hrest
    obtain ⟨other, event⟩ := event
    by_cases hother : other = role
    · subst hother
      obtain ⟨rfl, hinv, hmeshed⟩ := hreached.at other
      have hrange := (hfirst.inRange other).2
      rw [nodes_self] at hrange ⊢
      cases event with
      | own event => exact h.own hfirst.session
      | read channelId numbers =>
        exact h.grows (receiveCopies_grows (hmeshed.peerSends.toEncoded hrange) hcrc
          hmeshed.receives (L.clean_self hinv).srHashingContext (fun _ hbytes => mem_copies hbytes)
          channelId)
    · rw [nodes_peer s hother]
      exact h

theorem CatchesUp.step (h : CatchesUp next (s.nodes role).1)
    (hreached : Reached (lockstepLayer P ctx) crc .client s.client s.server t)
    (hcrc : crc.crcLen ≤ 4) {event : RastaRole × StackEvent}
    (hok : StackOk P (lockstepLayer P ctx).permits (lockstepLayer P ctx).admits s event)
    {numbers : List ℕ} (hreads : readsAt role [event] = numbers.map fun n => [n])
    (horder : InOrder next numbers) (hsent : ∀ n ∈ numbers, n < (s.nodes role).2.output.length) :
    CatchesUp (nextAfter next numbers) ((stackStep P s event).nodes role).1 := by
  obtain ⟨_, -, hnext⟩ := (lockstepLayer P ctx).step_simulated hcrc hreached hok
  obtain ⟨other, event⟩ := event
  by_cases hother : other = role
  · subst hother
    rw [nodes_self]
    cases event with
    | own event =>
      rw [readsAt_own] at hreads
      obtain rfl : numbers = [] := by simpa [readsAt] using hreads.symm
      exact h.own hok.session
    | read channelId arrived =>
      rw [readsAt_read] at hreads
      obtain ⟨n, rfl, rfl⟩ : ∃ n, numbers = [n] ∧ arrived = [n] := by
        cases numbers with
        | nil => cases hreads
        | cons n rest =>
          obtain ⟨harrived, hrest⟩ := List.cons.inj hreads
          have hnone : rest = [] := by simpa [readsAt] using hrest.symm
          exact ⟨n, by rw [hnone], harrived⟩
      have hpeer := (hok.inRange other).2
      have hafter := hnext.at other
      rw [nodes_self] at hpeer hafter
      have hrunning := InProgress.running hafter.2.1 other
      rw [hafter.1, sessionAt, sessionOf_at] at hrunning
      exact h.read (hreached.at other) hcrc hpeer horder.1 (hsent n List.mem_cons_self) channelId
        hrunning
  · rw [readsAt_other hother] at hreads
    obtain rfl : numbers = [] := by simpa [readsAt] using hreads.symm
    rw [nodes_peer s hother]
    exact h

theorem CatchesUp.run (h : CatchesUp next (s.nodes role).1)
    (hreached : Reached (lockstepLayer P ctx) crc .client s.client s.server t)
    (hcrc : crc.crcLen ≤ 4) {events : List (RastaRole × StackEvent)}
    (hok : RunOk (stackStep P)
      (StackOk P (lockstepLayer P ctx).permits (lockstepLayer P ctx).admits) s events)
    {numbers : List ℕ} (hreads : readsAt role events = numbers.map fun n => [n])
    (horder : InOrder next numbers) (hsent : ∀ n ∈ numbers, n < (s.nodes role).2.output.length) :
    CatchesUp (nextAfter next numbers) ((run (stackStep P) s events).nodes role).1 := by
  induction events generalizing s t next numbers with
  | nil =>
    obtain rfl : numbers = [] := by simpa [readsAt] using hreads.symm
    exact h
  | cons event rest ih =>
    obtain ⟨hfirst, hrest⟩ := (runOk_cons (stackStep P)).mp hok
    obtain ⟨_, -, hnext⟩ := (lockstepLayer P ctx).step_simulated hcrc hreached hfirst
    rw [readsAt_cons] at hreads
    obtain ⟨front, back, rfl, hfront, hback⟩ := List.map_eq_append_iff.mp hreads.symm
    obtain ⟨hbefore, hafter⟩ := (inOrder_append next front back).mp horder
    have hstep := h.step hreached hcrc hfirst hfront.symm hbefore fun n hn =>
      hsent n (List.mem_append_left _ hn)
    rw [nextAfter_append]
    refine ih hstep hnext hrest hback.symm hafter fun n hn => ?_
    have houtput := nodes_output (P := P) s role event
    exact (hsent n (List.mem_append_right _ hn)).trans_le houtput.length_le

/-- The PDU that was missing arrives on both transport channels, and the other one once more. -/
def exampleRepair : List (RastaRole × StackEvent) :=
  [(.server, .read 1 [2]), (.server, .read 0 [2]), (.server, .read 1 [3])]

end CatchingUp

end LibRasta.Redundancy
