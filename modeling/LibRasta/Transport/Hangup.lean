/-
Module: LibRasta/Transport/Hangup.lean
source: src/c/redundancy/rasta_redundancy_channel.c, src/c/redundancy/rasta_red_multiplexer.c, src/c/transport/tcp_base.c, src/c/transport/events.c
digest: What is left when the transport channels have been closed: a client connects none of them again, and a server that closes them before it knows its role ends at the next peer; one that does not keeps accepting.
-/

import LibRasta.Transport.Descriptors

set_option autoImplicit false
set_option relaxedAutoImplicit false

namespace LibRasta.Transport

open LibRasta.Lib
open LibRasta.Util
open LibRasta.Retransmission (RastaRole)

section Closing

variable {part : RastaRole} {mux : RedundancyMux} {c : ℕ} {channel : TransportChannel}

/-- The call closes all channels. -/
def HangsUp (mux : RedundancyMux) : Call → Prop
  | .close => True
  | .closed c =>
    (mux.channels[c]?.any fun channel => channel.receiveEvent.reported mux.kernel .connected) =
        true ∧
      ∀ d ∈ List.range mux.channels.length, d ≠ c → mux.isConnected d = false
  | _ => False

instance (mux : RedundancyMux) : (call : Call) → Decidable (HangsUp mux call)
  | .close => inferInstanceAs (Decidable True)
  | .closed c => inferInstanceAs (Decidable
      ((mux.channels[c]?.any fun channel => channel.receiveEvent.reported mux.kernel .connected) =
          true ∧
        ∀ d ∈ List.range mux.channels.length, d ≠ c → mux.isConnected d = false))
  | .listen | .connect _ | .accept _ _ | .send _ _ | .initConnection _ =>
    inferInstanceAs (Decidable False)

/-- What closing one channel comes to. -/
theorem Sound.closeOne_eq (h : Sound part mux) (hchannel : mux.channels[c]? = some channel) :
    ∃ kernel closed, closed.connected = false ∧
      closed.associatedSocket = channel.associatedSocket ∧
      closeOneChannel mux c =
        if mux.role = .client then
          match channel.associatedSocket with
          | none => .error .pointer
          | some i => .ok { mux with
              kernel := kernel
              channels := mux.channels.set c closed
              sockets := mux.sockets.modify i fun socket => { socket with fileDescriptor := -1 } }
        else .ok { mux with kernel := kernel, channels := mux.channels.set c closed } := by
  cases hon : channel.connected with
  | false =>
    refine ⟨mux.kernel, { channel with receiveEvent := disableFdEvent channel.receiveEvent }, hon,
      rfl, ?_⟩
    exact closeOneChannel_eq hchannel (transportCloseChannel_off hon) hon
  | true =>
    have hheld := (h.channels c channel hchannel).held hon
    refine ⟨mux.kernel.close channel.fileDescriptor,
      { channel with
        fileDescriptor := -1, connected := false
        receiveEvent := disableFdEvent channel.receiveEvent }, rfl, rfl, ?_⟩
    exact closeOneChannel_eq hchannel (transportCloseChannel_on hon hheld) rfl

/-- The socket channel `c` is associated with. -/
def RedundancyMux.association (mux : RedundancyMux) (c : ℕ) : Option ℕ :=
  mux.channels[c]?.bind TransportChannel.associatedSocket

/-- The channels from `k` on as they were, and those before it closed. -/
structure ClosedUpTo (mux : RedundancyMux) (k : ℕ) (mux' : RedundancyMux) : Prop where
  role : mux'.role = mux.role
  length_eq : mux'.channels.length = mux.channels.length
  still : ∀ d, k ≤ d → mux'.channels[d]? = mux.channels[d]?
  off : ∀ d, d < k → mux'.isConnected d = false
  associated : ∀ d, mux'.association d = mux.association d

theorem ClosedUpTo.start (mux : RedundancyMux) : ClosedUpTo mux 0 mux :=
  ⟨rfl, rfl, fun _ _ => rfl, fun _ hd => absurd hd (Nat.not_lt_zero _), fun _ => rfl⟩

theorem ClosedUpTo.exists_channel {start : RedundancyMux} (h : ClosedUpTo start c mux)
    (hc : c < start.channels.length) : ∃ channel, mux.channels[c]? = some channel := by
  rw [← h.length_eq] at hc
  exact ⟨mux.channels[c], List.getElem?_eq_getElem hc⟩

theorem ClosedUpTo.next {start : RedundancyMux} (h : ClosedUpTo start c mux)
    (hchannel : mux.channels[c]? = some channel) {closed : TransportChannel}
    (hoff : closed.connected = false) (hover : closed.associatedSocket = channel.associatedSocket)
    {kernel : Kernel} {sockets : List TransportSocket} :
    ClosedUpTo start (c + 1)
      { mux with
        kernel := kernel, channels := mux.channels.set c closed, sockets := sockets } := by
  have hc := (List.getElem?_eq_some_iff.mp hchannel).1
  obtain ⟨h1, h2, h3, h4, h5⟩ := h
  constructor
  · exact h1
  · simpa using h2
  · intro d hd
    rw [← h3 d (by omega)]
    exact List.getElem?_set_ne (by omega)
  · intro d hd
    by_cases heq : d = c
    · subst heq
      simp [RedundancyMux.isConnected, List.getElem?_set_self hc, hoff]
    · have hbefore := h4 d (by omega)
      rw [RedundancyMux.isConnected] at hbefore ⊢
      rwa [List.getElem?_set_ne (by omega)]
  · intro d
    rw [← h5 d, RedundancyMux.association, RedundancyMux.association]
    by_cases heq : d = c
    · subst heq
      simp [List.getElem?_set_self hc, hchannel, hover]
    · rw [List.getElem?_set_ne (by omega)]

/-- The channels after reading channel `c` has failed. -/
def RedundancyMux.withBroken (mux : RedundancyMux) (c : ℕ) : RedundancyMux :=
  { mux with
    channels := mux.channels.modify c fun channel =>
      { channel with
        connected := false
        receiveEvent := disableFdEvent channel.receiveEvent } }

theorem isConnected_withBroken (mux : RedundancyMux) (c d : ℕ) :
    (mux.withBroken c).isConnected d = if d = c then false else mux.isConnected d := by
  simp only [RedundancyMux.isConnected, RedundancyMux.withBroken, List.getElem?_modify]
  by_cases heq : d = c
  · subst heq
    cases hchannel : mux.channels[d]? with
    | none => simp
    | some channel => simp
  · rw [if_neg heq]
    simp [Ne.symm heq]

theorem association_withBroken (mux : RedundancyMux) (c d : ℕ) :
    (mux.withBroken c).association d = mux.association d := by
  simp only [RedundancyMux.association, RedundancyMux.withBroken, List.getElem?_modify]
  by_cases heq : c = d
  · cases hchannel : mux.channels[d]? with
    | none => simp
    | some channel => simp [heq]
  · simp [heq]

theorem any_connected (mux : RedundancyMux) :
    mux.channels.any TransportChannel.connected =
      (List.range mux.channels.length).any mux.isConnected := by
  rw [Bool.eq_iff_iff, List.any_eq_true, List.any_eq_true]
  constructor
  · rintro ⟨channel, hmem, hon⟩
    obtain ⟨d, hd, rfl⟩ := List.getElem_of_mem hmem
    exact ⟨d, List.mem_range.mpr hd, by
      rw [isConnected_eq (List.getElem?_eq_getElem hd)]
      exact hon⟩
  · rintro ⟨d, hd, hon⟩
    rw [List.mem_range] at hd
    rw [isConnected_eq (List.getElem?_eq_getElem hd)] at hon
    exact ⟨_, List.getElem_mem hd, hon⟩

/-- A reported channel is broken; all are closed if it was the last one. -/
theorem transportStep_closed (mux : RedundancyMux) (c : ℕ) :
    transportStep mux (.closed c) =
      if HangsUp mux (.closed c) then redundancyChannelClose (mux.withBroken c)
      else if (mux.channels[c]?.any fun channel =>
          channel.receiveEvent.reported mux.kernel .connected) = true then .ok (mux.withBroken c)
      else .ok mux := by
  have hlast : ((mux.withBroken c).channels.any TransportChannel.connected = true) ↔
      ¬ ∀ d ∈ List.range mux.channels.length, d ≠ c → mux.isConnected d = false := by
    rw [any_connected, List.any_eq_true]
    have hlength : (mux.withBroken c).channels.length = mux.channels.length :=
      List.length_modify _ _ _
    rw [hlength]
    push Not
    refine exists_congr fun d => and_congr_right fun _ => ?_
    rw [isConnected_withBroken]
    by_cases heq : d = c
    · simp [heq]
    · simp [heq]
  by_cases hreported : (mux.channels[c]?.any fun channel =>
      channel.receiveEvent.reported mux.kernel .connected) = true
  · simp only [transportStep, HangsUp, hreported, if_true, true_and]
    by_cases hall : ∀ d ∈ List.range mux.channels.length, d ≠ c → mux.isConnected d = false
    · rw [if_pos hall]
      exact if_neg fun hany => hlast.mp hany hall
    · rw [if_neg hall]
      exact if_pos (hlast.mpr hall)
  · rw [if_neg fun h => hreported h.1, if_neg hreported]
    exact if_neg hreported

end Closing

section Client

variable {mux : RedundancyMux}

/-- No channel is connected, and no socket has a descriptor to connect one with. -/
structure Down (mux : RedundancyMux) : Prop where
  off : ∀ c, mux.isConnected c = false
  lost : ∀ (i : ℕ) (socket : TransportSocket), mux.sockets[i]? = some socket →
    socket.fileDescriptor = -1

/-- A client that closes its channels loses the descriptors of all sockets. -/
theorem Sound.client_closed_spec (h : Sound .client mux) :
    Outcome
      (fun mux' => Sound .client mux' ∧ Down mux' ∧ ClosedUpTo mux mux.channels.length mux')
      (fun _ => True) (redundancyChannelClose mux) := by
  have hloop : Outcome (fun mux' => Sound .client mux' ∧
        ClosedUpTo mux mux.channels.length mux' ∧
        ∀ (i : ℕ) (socket : TransportSocket), i < mux.channels.length →
          mux'.sockets[i]? = some socket → socket.fileDescriptor = -1)
      (fun _ => True) (redundancyChannelClose mux) := by
    refine Outcome.foldlM_range (p := fun k mux' => Sound .client mux' ∧ ClosedUpTo mux k mux' ∧
      ∀ (i : ℕ) (socket : TransportSocket), i < k →
        mux'.sockets[i]? = some socket → socket.fileDescriptor = -1) ?_
      ⟨h, .start mux, fun _ _ hi => absurd hi (Nat.not_lt_zero _)⟩
    rintro k mux' hk ⟨hmux', hclosed, hlost⟩
    obtain ⟨channel, hchannel⟩ := hclosed.exists_channel hk
    obtain ⟨kernel, closed, hoff, hover, hone⟩ := hmux'.closeOne_eq hchannel
    have hsound := hmux'.closeOne k
    rw [hone, if_pos (hmux'.role rfl)] at hsound ⊢
    cases hassociated : channel.associatedSocket with
    | none => trivial
    | some i =>
      rw [hassociated] at hsound
      obtain rfl : i = k := ((hmux'.channels k channel hchannel).associated i hassociated).2 rfl
      refine ⟨hsound, hclosed.next hchannel hoff hover, ?_⟩
      intro j socket hj hsocket
      rw [getElem?_modify_eq_some] at hsocket
      grind
  refine hloop.mono ?_ fun _ _ => trivial
  rintro mux' ⟨hmux', hclosed, hlost⟩
  refine ⟨hmux', ⟨?_, ?_⟩, hclosed⟩
  · intro c
    by_cases hc : c < mux.channels.length
    · exact hclosed.off c hc
    · rw [RedundancyMux.isConnected,
        List.getElem?_eq_none (by rw [hclosed.length_eq]; exact Nat.le_of_not_lt hc)]
      rfl
  · intro i socket hsocket
    have hi := (List.getElem?_eq_some_iff.mp hsocket).1
    rw [← hmux'.counts, hclosed.length_eq] at hi
    exact hlost i socket hi hsocket

theorem Sound.client_closed (h : Sound .client mux) :
    Outcome (fun mux' => Sound .client mux' ∧ Down mux') (fun _ => True)
      (redundancyChannelClose mux) :=
  h.client_closed_spec.mono (fun _ hmux' => ⟨hmux'.1, hmux'.2.1⟩) fun _ _ => trivial

theorem Down.connectOne (h : Down mux) (i c : ℕ) (dial : Dial) :
    Outcome Down (fun _ => True) (transportConnect mux i c dial) := by
  cases hsocket : mux.sockets[i]? with
  | none =>
    unfold transportConnect
    rw [hsocket]
    trivial
  | some socket =>
    cases hchannel : mux.channels[c]? with
    | none =>
      unfold transportConnect
      rw [hsocket, hchannel]
      trivial
    | some channel =>
      refine (transportConnect_cases hsocket hchannel dial).mono ?_ fun _ _ => trivial
      rintro mux' (rfl | ⟨hcreated, -, -⟩)
      · refine ⟨fun d => ?_, h.lost⟩
        have hd := h.off d
        have hc := (List.getElem?_eq_some_iff.mp hchannel).1
        unfold RedundancyMux.isConnected at hd ⊢
        by_cases heq : d = c
        · subst heq
          simp [List.getElem?_set_self hc]
        · rwa [List.getElem?_set_ne (Ne.symm heq)]
      · rw [h.lost i socket hsocket] at hcreated
        cases hcreated

/-- Reconnecting is up to the next message, which a closed connection does not send. -/
def Call.Sends : Call → Prop
  | .send _ _ => True
  | _ => False

instance : (call : Call) → Decidable call.Sends
  | .send _ _ => inferInstanceAs (Decidable True)
  | .listen | .connect _ | .accept _ _ | .closed _ | .close | .initConnection _ =>
    inferInstanceAs (Decidable False)

theorem Sound.not_reported (h : Sound .client mux) {c : ℕ} (hoff : mux.isConnected c = false) :
    (mux.channels[c]?.any fun channel => channel.receiveEvent.reported mux.kernel .connected) =
      false := by
  cases hchannel : mux.channels[c]? with
  | none => rfl
  | some channel =>
    rw [isConnected_eq hchannel] at hoff
    have hquiet := (h.channels c channel hchannel).quiet hoff
    simp [FdEvent.reported, hquiet]

theorem Sound.down_step (h : Sound .client mux) (hdown : Down mux) {call : Call}
    (hcall : Orderly .client mux call) (hsend : ¬ call.Sends) :
    Outcome (fun mux' => Sound .client mux' ∧ Down mux') (fun _ => True)
      (transportStep mux call) := by
  cases call with
  | listen => cases hcall
  | accept i peer => cases hcall
  | send dials sent => exact absurd trivial hsend
  | connect dials =>
    have hsound := h.step hcall
    have hloop : Outcome Down (fun _ => True) (redundancyChannelConnect mux dials) :=
      Outcome.foldlM (fun _ c hmux => hmux.connectOne c c (dials c)) _ hdown
    simp only [transportStep] at hsound ⊢
    cases hresult : redundancyChannelConnect mux dials with
    | ok mux' => exact ⟨hsound.of_ok hresult, hloop.of_ok hresult⟩
    | error fault => trivial
  | closed c =>
    simp only [transportStep]
    rw [if_neg (by rw [h.not_reported (hdown.off c)]; exact Bool.false_ne_true)]
    exact ⟨h, hdown⟩
  | close => exact h.client_closed
  | initConnection role =>
    have hsound := h.step hcall
    exact ⟨hsound, hdown.off, hdown.lost⟩

theorem Sound.client_hangs_up (h : Sound .client mux) {call : Call} (hcall : HangsUp mux call) :
    Outcome (fun mux' => Sound .client mux' ∧ Down mux') (fun _ => True)
      (transportStep mux call) := by
  cases call with
  | close => exact h.client_closed
  | closed c =>
    rw [transportStep_closed, if_pos hcall]
    exact h.channel_broken.client_closed
  | listen | connect _ | accept _ _ | send _ _ | initConnection _ => cases hcall

theorem down_run {process : Except Fault RedundancyMux} {calls : List Call}
    (h : Outcome (fun mux' => Sound .client mux' ∧ Down mux') (fun _ => True) process)
    (hcalls : RunOk processStep (OrderlyCall .client) process calls)
    (hsend : ∀ call ∈ calls, ¬ call.Sends) :
    Outcome (fun mux' => Sound .client mux' ∧ Down mux') (fun _ => True)
      (run processStep process calls) := by
  induction calls generalizing process with
  | nil => exact h
  | cons call rest ih =>
    obtain ⟨hcall, hrest⟩ := (runOk_cons processStep).mp hcalls
    refine ih ?_ hrest fun later hlater => hsend later (List.mem_cons_of_mem call hlater)
    cases process with
    | ok mux' => exact h.1.down_step h.2 (hcall mux' rfl) (hsend call List.mem_cons_self)
    | error fault => trivial

/-- Once a client has closed its channels, no attempt of it to connect reaches the peer again: the
sockets have lost their descriptors, and only a message gives them new ones. -/
theorem client_stays_down {kernel : Kernel} {portCount : ℕ} {remote : List (Bytes × UInt16)}
    (halloc : redundancyMuxAllocateChannels kernel portCount remote = .ok mux)
    {front back : List Call} {call : Call} {closing : RedundancyMux}
    (hcalls : RunOk processStep (OrderlyCall .client) (.ok mux) (front ++ call :: back))
    (hfront : run processStep (.ok mux) front = .ok closing) (hcall : HangsUp closing call)
    (hback : ∀ later ∈ back, ¬ later.Sends) :
    Outcome (fun mux' => ∀ channel ∈ mux'.channels, channel.connected = false) (fun _ => True)
      (run processStep (.ok mux) (front ++ call :: back)) := by
  obtain ⟨hcallsFront, hcallsBack⟩ := (runOk_append processStep).mp hcalls
  have hstart : Outcome (Sound .client) Fault.External (Except.ok mux) :=
    allocated_sound .client halloc
  have hsound := (run_sound hstart hcallsFront).of_ok hfront
  rw [hfront] at hcallsBack
  rw [run_append, hfront, run_cons]
  have hfinal := down_run (hsound.client_hangs_up hcall) ((runOk_cons processStep).mp hcallsBack).2
    hback
  refine hfinal.mono ?_ fun _ _ => trivial
  rintro mux' ⟨-, hdown⟩ channel hchannel
  obtain ⟨c, hc, rfl⟩ := List.getElem_of_mem hchannel
  rw [← isConnected_eq (List.getElem?_eq_getElem hc)]
  exact hdown.off c

/-- Where the calls lead. -/
def exampleAfter (calls : List Call) : RedundancyMux :=
  (run processStep (.ok exampleMux) calls).toOption.getD exampleMux

/-- Connected, closed, and dialed again in vain. -/
theorem client_stays_down_redial :
    (exampleAfter [.connect fun _ => .established]).isConnected 0 = true ∧
      Outcome (fun mux' => ∀ channel ∈ mux'.channels, channel.connected = false) (fun _ => True)
        (run processStep (.ok exampleMux)
          [.connect fun _ => .established, .close, .connect fun _ => .established]) :=
  have halloc : redundancyMuxAllocateChannels exampleKernel 2 exampleRemote = .ok exampleMux := by
    decide +kernel
  have hfront : run processStep (.ok exampleMux) [.connect fun _ => .established] =
      .ok (exampleAfter [.connect fun _ => .established]) := by decide +kernel
  ⟨by decide +kernel,
    @client_stays_down _ _ _ _ halloc [.connect fun _ => .established]
      [.connect fun _ => .established] .close _ (by decide +kernel) hfront trivial (by decide)⟩

end Client

section Server

variable {mux : RedundancyMux}

/-- A server's sockets are not replaced. -/
structure Ages (mux mux' : RedundancyMux) : Prop where
  length_eq : mux'.sockets.length = mux.sockets.length
  socket : ∀ (i : ℕ) (socket : TransportSocket), mux.sockets[i]? = some socket →
    ∃ socket', mux'.sockets[i]? = some socket' ∧
      (socket.fileDescriptor = -1 → socket'.fileDescriptor = -1) ∧
      (socket.acceptEvent.enabled = true → socket'.acceptEvent.enabled = true)

theorem Ages.of_sockets {mux' : RedundancyMux} (h : mux'.sockets = mux.sockets) : Ages mux mux' :=
  ⟨congrArg List.length h, fun i socket hsocket => ⟨socket, by rw [h]; exact hsocket, id, id⟩⟩

theorem Ages.trans {mux' mux'' : RedundancyMux} (h : Ages mux mux') (h' : Ages mux' mux'') :
    Ages mux mux'' := by
  refine ⟨h'.length_eq.trans h.length_eq, fun i socket hsocket => ?_⟩
  obtain ⟨socket', hsocket', hlost, hon⟩ := h.socket i socket hsocket
  obtain ⟨socket'', hsocket'', hlost', hon'⟩ := h'.socket i socket' hsocket'
  exact ⟨socket'', hsocket'', hlost' ∘ hlost, hon' ∘ hon⟩

/-- What a server's channels are associated with has accepted them. -/
def Answered (mux : RedundancyMux) : Prop :=
  ∀ c i, mux.association c = some i →
    ∃ socket, mux.sockets[i]? = some socket ∧ socket.acceptEvent.enabled = true

theorem Answered.ages {mux' : RedundancyMux} (h : Answered mux) (hages : Ages mux mux')
    (hover : ∀ d, mux'.association d = mux.association d) : Answered mux' := by
  intro c i hassociated
  rw [hover] at hassociated
  obtain ⟨socket, hsocket, hon⟩ := h c i hassociated
  obtain ⟨socket', hsocket', -, hon'⟩ := hages.socket i socket hsocket
  exact ⟨socket', hsocket', hon' hon⟩

/-- What closing the channels does to a server: nothing to its sockets, once it knows its role;
before that, the first channel's socket is lost with the others. -/
structure ServerClosed (mux : RedundancyMux) (k : ℕ) (mux' : RedundancyMux) : Prop where
  closed : ClosedUpTo mux k mux'
  ages : Ages mux mux'
  kept : mux.role = .server → mux'.sockets = mux.sockets
  lost : mux.role = .client → 0 < k →
    ∃ i, mux.association 0 = some i ∧
      ∀ socket, mux'.sockets[i]? = some socket → socket.fileDescriptor = -1

theorem Ages.lose (mux : RedundancyMux) (i : ℕ) (kernel : Kernel)
    (channels : List TransportChannel) :
    Ages mux { mux with
      kernel := kernel, channels := channels
      sockets := mux.sockets.modify i fun socket => { socket with fileDescriptor := -1 } } := by
  refine ⟨List.length_modify _ _ _, fun j socket hsocket => ?_⟩
  by_cases heq : j = i
  · subst heq
    exact ⟨{ socket with fileDescriptor := -1 },
      getElem?_modify_eq_some.mpr (.inl ⟨rfl, socket, hsocket, rfl⟩), fun _ => rfl, id⟩
  · exact ⟨socket, getElem?_modify_eq_some.mpr (.inr ⟨heq, hsocket⟩), id, id⟩

theorem Sound.server_closed (h : Sound .server mux) :
    Outcome (ServerClosed mux mux.channels.length) (fun _ => mux.role = .client)
      (redundancyChannelClose mux) := by
  have hloop : Outcome
      (fun mux' => Sound .server mux' ∧ ServerClosed mux mux.channels.length mux')
      (fun _ => mux.role = .client) (redundancyChannelClose mux) := by
    refine Outcome.foldlM_range (p := fun k mux' => Sound .server mux' ∧ ServerClosed mux k mux') ?_
      ⟨h, .start mux, .of_sockets rfl, fun _ => rfl, fun _ hk => absurd hk (Nat.lt_irrefl 0)⟩
    rintro k mux' hk ⟨hmux', hclosed, hages, hkept, hlost⟩
    obtain ⟨channel, hchannel⟩ := hclosed.exists_channel hk
    obtain ⟨kernel, closed, hoff, hover, hone⟩ := hmux'.closeOne_eq hchannel
    have hsound := hmux'.closeOne k
    have hrole := hclosed.role
    rw [hone] at hsound ⊢
    by_cases hclient : mux'.role = .client
    · rw [if_pos hclient] at hsound ⊢
      cases hassociated : channel.associatedSocket with
      | none => exact hrole.symm.trans hclient
      | some i =>
        rw [hassociated] at hsound
        refine ⟨hsound, hclosed.next hchannel hoff hover, hages.trans (.lose mux' i _ _), ?_, ?_⟩
        · intro hserver
          cases (hrole.trans hserver).symm.trans hclient
        · intro hrole' _
          by_cases hfirst : k = 0
          · subst hfirst
            refine ⟨i, ?_, ?_⟩
            · rw [← hclosed.associated, RedundancyMux.association, hchannel]
              exact hassociated
            · intro socket hsocket
              rw [getElem?_modify_eq_some] at hsocket
              grind
          · obtain ⟨j, hj, hsocketLost⟩ := hlost hrole' (by omega)
            refine ⟨j, hj, fun socket hsocket => ?_⟩
            rw [getElem?_modify_eq_some] at hsocket
            grind
    · rw [if_neg hclient] at hsound ⊢
      refine ⟨hsound, hclosed.next hchannel hoff hover, hages.trans (.of_sockets rfl), hkept, ?_⟩
      intro hrole'
      exact absurd (hrole.trans hrole') hclient
  exact hloop.mono (fun _ hmux' => hmux'.2) fun _ hfault => hfault

/-- No socket of the server is lost. -/
def Held (mux : RedundancyMux) : Prop :=
  ∀ (i : ℕ) (socket : TransportSocket), mux.sockets[i]? = some socket → socket.fileDescriptor ≠ -1

theorem listen_server (mux : RedundancyMux) :
    Outcome
      (fun mux' => Ages mux mux' ∧ mux'.channels = mux.channels ∧ (Held mux → Held mux'))
      (fun fault => fault = .listen) (redundancyMuxListenChannels mux) := by
  refine Outcome.foldlM_range (p := fun _ mux' =>
    Ages mux mux' ∧ mux'.channels = mux.channels ∧ (Held mux → Held mux')) ?_
    ⟨.of_sockets rfl, rfl, id⟩
  rintro k mux' hk ⟨hages, hchannels, hheld⟩
  rw [← hages.length_eq] at hk
  have hsocket : mux'.sockets[k]? = some mux'.sockets[k] := List.getElem?_eq_getElem hk
  have hnext : ∀ kernel, Ages mux' { mux' with
      kernel := kernel
      sockets := mux'.sockets.set k { mux'.sockets[k] with
        acceptEvent := enableFdEvent mux'.sockets[k].acceptEvent } } := by
    intro kernel
    refine ⟨List.length_set, fun j socket hother => ?_⟩
    by_cases heq : j = k
    · subst heq
      rw [hsocket] at hother
      cases hother
      exact ⟨_, List.getElem?_set_self hk, id, fun _ => rfl⟩
    · exact ⟨socket, by rw [List.getElem?_set_ne (Ne.symm heq)]; exact hother, id, id⟩
  have hkeep : ∀ kernel, Held mux → Held { mux' with
      kernel := kernel
      sockets := mux'.sockets.set k { mux'.sockets[k] with
        acceptEvent := enableFdEvent mux'.sockets[k].acceptEvent } } := by
    intro kernel hmux j socket hother
    rw [getElem?_set_eq_some] at hother
    obtain ⟨rfl, -, rfl⟩ | ⟨-, hother⟩ := hother
    · exact hheld hmux j mux'.sockets[j] hsocket
    · exact hheld hmux j socket hother
  unfold transportListen
  rw [hsocket]
  dsimp only
  split
  · exact ⟨hages.trans (hnext _), hchannels, hkeep _⟩
  · exact ⟨hages.trans (hnext _), hchannels, hkeep _⟩
  · rfl

theorem enabled_of_reported {event : FdEvent} {kernel : Kernel} {descriptor : Descriptor}
    (h : event.reported kernel descriptor = true) : event.enabled = true := by
  rw [FdEvent.reported, Bool.and_eq_true] at h
  exact h.1

/-- A reported socket accepts its peer unless it is lost. -/
theorem Sound.accept_server (h : Sound .server mux) {i : ℕ} {socket : TransportSocket}
    (hsocket : mux.sockets[i]? = some socket) (hon : socket.acceptEvent.enabled = true)
    (peer : Option (Bytes × UInt16)) :
    Outcome (fun mux' => mux'.sockets = mux.sockets ∧ (Answered mux → Answered mux'))
      (fun fault => fault = .accept true ∨ fault = .accept false ∧ ¬ Held mux)
      (channelAcceptEvent mux i peer) := by
  have hsound := h.sockets i socket hsocket
  unfold channelAcceptEvent
  rw [hsocket]
  dsimp only
  split
  · split
    · split
      · next c _ =>
        refine ⟨rfl, fun hanswered d j hassociated => ?_⟩
        by_cases heq : d = c ∧ j = i
        · exact ⟨socket, by rw [heq.2]; exact hsocket, hon⟩
        · refine hanswered d j ?_
          rw [← hassociated, RedundancyMux.association, RedundancyMux.association]
          rw [RedundancyMux.association, List.getElem?_modify] at hassociated
          rw [List.getElem?_modify]
          by_cases hdc : c = d
          · cases hchannel : mux.channels[d]? with
            | none => simp
            | some channel =>
              rw [hchannel] at hassociated
              simp [hdc] at hassociated
              exact absurd ⟨hdc.symm, hassociated.symm⟩ heq
          · simp [hdc]
      · exact ⟨rfl, fun hanswered => hanswered⟩
    · exact .inl rfl
  · next hnot =>
    refine .inr ⟨rfl, fun hheld => hnot ?_⟩
    obtain heq | hlost := hsound.own rfl
    · rw [← heq]
      exact (hsound.accepts hon).2
    · exact absurd hlost (hheld i socket hsocket)

/-- A server sends on what is connected. -/
theorem sendOnChannels_server (hrole : mux.role = .server) (dials : ℕ → Dial) (sent : ℕ → Bool) :
    Outcome (fun s : RedundancyMux × List ℕ => s.1 = mux)
      (fun fault => ∃ connected, fault = .send connected) (sendOnChannels mux dials sent) := by
  refine Outcome.foldlM (fun s c hs => ?_) _ rfl
  have hreconnect : reconnect dials s.1 c = .ok mux := by
    unfold reconnect
    rw [hs, hrole]
    simp
  unfold sendOnChannel
  rw [hreconnect]
  dsimp only [bind, Except.bind]
  split
  · rfl
  · split
    · refine Outcome.bind (p := fun _ => True) ?_ fun _ _ => rfl
      unfold tcpSend
      split
      · split
        · trivial
        · exact ⟨true, rfl⟩
      · exact ⟨false, rfl⟩
    · rfl

theorem Sound.server_ages (h : Sound .server mux) {call : Call}
    (hcall : Orderly .server mux call) :
    Outcome (fun mux' => Ages mux mux' ∧ (Answered mux → Answered mux')) (fun _ => True)
      (transportStep mux call) := by
  have hclose : ∀ mux' : RedundancyMux, Sound .server mux' → Ages mux mux' →
      (∀ d, mux'.association d = mux.association d) →
      Outcome (fun mux'' => Ages mux mux'' ∧ (Answered mux → Answered mux'')) (fun _ => True)
        (redundancyChannelClose mux') := by
    intro mux' hmux' hages hover
    refine hmux'.server_closed.mono ?_ fun _ _ => trivial
    rintro mux'' ⟨hclosed, hages', -, -⟩
    have hlater := hages.trans hages'
    exact ⟨hlater, fun hanswered =>
      hanswered.ages hlater fun d => (hclosed.associated d).trans (hover d)⟩
  cases call with
  | listen =>
    refine (listen_server mux).mono ?_ fun _ _ => trivial
    rintro mux' ⟨hages, hchannels, -⟩
    refine ⟨hages, fun hanswered => hanswered.ages hages fun d => ?_⟩
    rw [RedundancyMux.association, RedundancyMux.association, hchannels]
  | connect dials => cases hcall.1
  | accept i peer =>
    simp only [transportStep]
    split
    · next hreported =>
      obtain ⟨socket, hsocket, hon⟩ := (Option.any_eq_true _ _).mp hreported
      refine (h.accept_server hsocket (enabled_of_reported hon) peer).mono ?_ fun _ _ => trivial
      rintro mux' ⟨hsockets, hanswers⟩
      exact ⟨.of_sockets hsockets, hanswers⟩
    · exact ⟨.of_sockets rfl, id⟩
  | closed c =>
    rw [transportStep_closed]
    split
    · exact hclose (mux.withBroken c) h.channel_broken (.of_sockets rfl)
        (association_withBroken mux c)
    · split
      · exact ⟨.of_sockets rfl, fun hanswered =>
          hanswered.ages (.of_sockets rfl) (association_withBroken mux c)⟩
      · exact ⟨.of_sockets rfl, id⟩
  | send dials sent =>
    have hsent := sendOnChannels_server hcall dials sent
    simp only [transportStep]
    cases hresult : sendOnChannels mux dials sent with
    | ok s =>
      have heq : s.1 = mux := hsent.of_ok hresult
      change Ages mux s.1 ∧ (Answered mux → Answered s.1)
      rw [heq]
      exact ⟨.of_sockets rfl, id⟩
    | error fault => trivial
  | close => exact hclose mux h (.of_sockets rfl) fun _ => rfl
  | initConnection role => exact ⟨.of_sockets rfl, fun hanswered => hanswered⟩

/-- Nothing is closed while the server takes itself for a client. -/
def Patient (process : Except Fault RedundancyMux) (call : Call) : Prop :=
  ∀ mux ∈ process.toOption, mux.role = .client → ¬ HangsUp mux call

instance (process : Except Fault RedundancyMux) (call : Call) : Decidable (Patient process call) :=
  inferInstanceAs (Decidable (∀ mux ∈ process.toOption, mux.role = .client → ¬ HangsUp mux call))

/-- The ends of a server for which not even its own sockets are to blame. -/
def Fault.NotLost (fault : Fault) : Prop := fault ≠ .pointer ∧ fault ≠ .accept false

theorem Sound.server_holds (h : Sound .server mux) (hheld : Held mux) {call : Call}
    (hcall : Orderly .server mux call) (hpatient : mux.role = .client → ¬ HangsUp mux call) :
    Outcome Held Fault.NotLost (transportStep mux call) := by
  have hclose : ∀ mux' : RedundancyMux, Sound .server mux' → mux'.role = .server →
      mux'.sockets = mux.sockets → Outcome Held Fault.NotLost (redundancyChannelClose mux') := by
    intro mux' hmux' hserver hsockets
    refine hmux'.server_closed.mono ?_ ?_
    · intro mux'' hmux'' i socket hsocket
      rw [hmux''.kept hserver, hsockets] at hsocket
      exact hheld i socket hsocket
    · intro fault hclient
      cases hserver.symm.trans hclient
  have hrole : HangsUp mux call → mux.role = .server := by
    intro hhang
    cases hmux : mux.role with
    | client => exact absurd hhang (hpatient hmux)
    | server => rfl
  cases call with
  | listen =>
    refine (listen_server mux).mono (fun mux' hmux' => hmux'.2.2 hheld) ?_
    rintro fault rfl
    exact ⟨Fault.noConfusion, Fault.noConfusion⟩
  | connect dials => cases hcall.1
  | accept i peer =>
    simp only [transportStep]
    split
    · next hreported =>
      obtain ⟨socket, hsocket, hon⟩ := (Option.any_eq_true _ _).mp hreported
      refine (h.accept_server hsocket (enabled_of_reported hon) peer).mono ?_ ?_
      · rintro mux' ⟨hsockets, -⟩ j other hother
        rw [hsockets] at hother
        exact hheld j other hother
      · rintro fault (rfl | ⟨-, hlost⟩)
        · exact ⟨Fault.noConfusion, by decide⟩
        · exact absurd hheld hlost
    · exact hheld
  | closed c =>
    rw [transportStep_closed]
    split
    · next hhang =>
      exact hclose (mux.withBroken c) h.channel_broken (hrole hhang) rfl
    · split
      · exact hheld
      · exact hheld
  | send dials sent =>
    have hsent := sendOnChannels_server hcall dials sent
    simp only [transportStep]
    cases hresult : sendOnChannels mux dials sent with
    | ok s =>
      have heq : s.1 = mux := hsent.of_ok hresult
      change Held s.1
      rw [heq]
      exact hheld
    | error fault =>
      obtain ⟨connected, rfl⟩ := hsent.of_error hresult
      exact ⟨Fault.noConfusion, Fault.noConfusion⟩
  | close => exact hclose mux h (hrole trivial) rfl
  | initConnection role => exact hheld

/-- A server that closes nothing before a client has asked for a connection never loses a socket:
what it listens on accepts, to the end of the run. -/
theorem server_keeps_accepting {kernel : Kernel} {portCount : ℕ} {remote : List (Bytes × UInt16)}
    (halloc : redundancyMuxAllocateChannels kernel portCount remote = .ok mux) {calls : List Call}
    (hcalls : RunOk processStep
      (fun process call => OrderlyCall .server process call ∧ Patient process call) (.ok mux)
      calls) :
    Outcome
      (fun mux' => ∀ socket ∈ mux'.sockets, socket.acceptEvent.enabled = true →
        mux'.kernel.descriptor socket.fileDescriptor = some .listening)
      Fault.NotLost (run processStep (.ok mux) calls) := by
  obtain ⟨hsound, hfresh, -⟩ := allocated_spec .server halloc
  have hstart : Outcome (fun mux' => Sound .server mux' ∧ Held mux') Fault.NotLost
      (Except.ok mux) := ⟨hsound, hfresh⟩
  suffices hrun : Outcome (fun mux' => Sound .server mux' ∧ Held mux') Fault.NotLost
      (run processStep (.ok mux) calls) by
    refine hrun.mono ?_ fun _ hfault => hfault
    rintro mux' ⟨hmux', hheld⟩ socket hsocket hon
    obtain ⟨i, hi⟩ := List.getElem?_of_mem hsocket
    obtain hown | hlost := (hmux'.sockets i socket hi).own rfl
    · rw [← hown]
      exact ((hmux'.sockets i socket hi).accepts hon).2
    · exact absurd hlost (hheld i socket hi)
  refine run_invariant processStep ?_ hcalls hstart
  rintro (fault | mux') call h ⟨horderly, hpatient⟩
  · exact h
  · have hnext := h.1.step (horderly mux' rfl)
    have hholds := h.1.server_holds h.2 (horderly mux' rfl) (hpatient mux' rfl)
    change Outcome _ _ (transportStep mux' call)
    cases hresult : transportStep mux' call with
    | ok mux'' => exact ⟨hnext.of_ok hresult, hholds.of_ok hresult⟩
    | error fault => exact hholds.of_error hresult

/-- The peer is accepted, asks for a connection, leaves, and is accepted again. -/
theorem server_keeps_accepting_again :
    Outcome
      (fun mux' => ∀ socket ∈ mux'.sockets, socket.acceptEvent.enabled = true →
        mux'.kernel.descriptor socket.fileDescriptor = some .listening)
      Fault.NotLost
      (run processStep (.ok exampleMux)
        [.listen, .accept 0 (some ([49], 8888)), .initConnection .server, .closed 0,
          .accept 0 (some ([49], 8888))]) :=
  have halloc : redundancyMuxAllocateChannels exampleKernel 2 exampleRemote = .ok exampleMux := by
    decide +kernel
  server_keeps_accepting halloc (by decide +kernel)

theorem server_run {start : RedundancyMux} {process : Except Fault RedundancyMux}
    {calls : List Call}
    (h : Outcome (fun mux' => Sound .server mux' ∧ Ages start mux' ∧ Answered mux')
      (fun _ => True) process)
    (hcalls : RunOk processStep (OrderlyCall .server) process calls) :
    Outcome (fun mux' => Sound .server mux' ∧ Ages start mux' ∧ Answered mux') (fun _ => True)
      (run processStep process calls) := by
  refine run_invariant processStep ?_ hcalls h
  rintro (fault | mux') call h horderly
  · trivial
  · have hnext := h.1.step (horderly mux' rfl)
    have hages := h.1.server_ages (horderly mux' rfl)
    change Outcome _ _ (transportStep mux' call)
    cases hresult : transportStep mux' call with
    | ok mux'' =>
      obtain ⟨hages', hanswers⟩ := hages.of_ok hresult
      exact ⟨hnext.of_ok hresult, h.2.1.trans hages', hanswers h.2.2⟩
    | error fault => trivial

/-- A lost socket is still watched, and the next peer on it ends the process. -/
theorem Sound.accept_lost (h : Sound .server mux) {i : ℕ} {socket : TransportSocket}
    (hsocket : mux.sockets[i]? = some socket) (hon : socket.acceptEvent.enabled = true)
    (hlost : socket.fileDescriptor = -1) (peer : Option (Bytes × UInt16)) :
    transportStep mux (.accept i peer) = .error (.accept false) := by
  have hreported : (mux.sockets[i]?.any fun socket =>
      socket.acceptEvent.reported mux.kernel .listening) = true := by
    rw [hsocket]
    simp [FdEvent.reported, hon, ((h.sockets i socket hsocket).accepts hon).2]
  have hnot : ¬ mux.kernel.descriptor socket.fileDescriptor = some .listening := by
    rw [hlost]
    exact nofun
  simp only [transportStep]
  rw [if_pos hreported]
  unfold channelAcceptEvent
  rw [hsocket]
  exact if_neg hnot

theorem Sound.server_hangs_up (h : Sound .server mux) {call : Call} (hcall : HangsUp mux call) :
    Outcome
      (fun mux' => Ages mux mux' ∧ (mux.role = .client → 0 < mux.channels.length →
        ∃ i, mux.association 0 = some i ∧
          ∀ socket, mux'.sockets[i]? = some socket → socket.fileDescriptor = -1))
      (fun _ => True) (transportStep mux call) := by
  cases call with
  | close =>
    exact h.server_closed.mono (fun mux' hmux' => ⟨hmux'.ages, hmux'.lost⟩) fun _ _ => trivial
  | closed c =>
    rw [transportStep_closed, if_pos hcall]
    refine h.channel_broken.server_closed.mono ?_ fun _ _ => trivial
    rintro mux' ⟨-, hages, -, hlost⟩
    have hbroken : Ages mux (mux.withBroken c) := .of_sockets rfl
    refine ⟨hbroken.trans hages, fun hrole hpos => ?_⟩
    obtain ⟨i, hi, hsockets⟩ := hlost hrole (by rwa [List.length_modify])
    exact ⟨i, (association_withBroken mux c 0).symm.trans hi, hsockets⟩
  | listen | connect _ | accept _ _ | send _ _ | initConnection _ => cases hcall

/-- A server that closes its channels before a client has asked for a connection takes itself for a
client and loses a socket it still listens on: whatever comes then, if it has not ended already,
it ends as soon as a peer turns up there. -/
theorem server_lost {kernel : Kernel} {portCount : ℕ} {remote : List (Bytes × UInt16)}
    (halloc : redundancyMuxAllocateChannels kernel portCount remote = .ok mux)
    (hpeer : mux.channels ≠ []) {front : List Call} {call : Call} {closing : RedundancyMux}
    (hcalls : RunOk processStep (OrderlyCall .server) (.ok mux) (front ++ [call]))
    (hfront : run processStep (.ok mux) front = .ok closing) (hrole : closing.role = .client)
    (hcall : HangsUp closing call) :
    ∃ i, ∀ back, RunOk processStep (OrderlyCall .server) (.ok mux) (front ++ call :: back) →
      Outcome (fun mux' => ∀ peer, transportStep mux' (.accept i peer) = .error (.accept false))
        (fun _ => True) (run processStep (.ok mux) (front ++ call :: back)) := by
  obtain ⟨hsound, -, hnone⟩ := allocated_spec .server halloc
  have hanswered : Answered mux := by
    intro c i hi
    obtain ⟨channel, hchannel, hover⟩ := Option.bind_eq_some_iff.mp hi
    cases (hnone channel (List.mem_of_getElem? hchannel)).symm.trans hover
  have hstart : Outcome (fun mux' => Sound .server mux' ∧ Ages mux mux' ∧ Answered mux')
      (fun _ : Fault => True) (Except.ok mux) := ⟨hsound, .of_sockets rfl, hanswered⟩
  obtain ⟨hcallsFront, -⟩ := (runOk_append processStep).mp hcalls
  obtain ⟨hclosing, hages, hanswers⟩ := (server_run hstart hcallsFront).of_ok hfront
  have hcount : 0 < closing.channels.length := by
    rw [hclosing.counts, hages.length_eq, ← hsound.counts]
    exact List.length_pos_iff.mpr hpeer
  have hlost := hclosing.server_hangs_up hcall
  cases hresult : transportStep closing call with
  | error fault =>
    -- the process has ended at once
    refine ⟨0, fun back _ => ?_⟩
    have hended : ∀ calls, run processStep (.error fault) calls = .error fault := by
      intro calls
      induction calls with
      | nil => rfl
      | cons later rest ih => exact ih
    have hstep : processStep (.ok closing) call = .error fault := hresult
    rw [run_append, hfront, run_cons, hstep, hended]
    trivial
  | ok after =>
    obtain ⟨hagesAfter, hsockets⟩ := hlost.of_ok hresult
    obtain ⟨i, hi, hgone⟩ := hsockets hrole hcount
    obtain ⟨socket, hsocket, hon⟩ := hanswers 0 i hi
    refine ⟨i, fun back hback => ?_⟩
    have hstep : processStep (.ok closing) call = .ok after := hresult
    obtain ⟨-, hcallsBack⟩ := (runOk_append processStep).mp hback
    rw [hfront] at hcallsBack
    obtain ⟨horderly, hcallsBack⟩ := (runOk_cons processStep).mp hcallsBack
    rw [hstep] at hcallsBack
    rw [run_append, hfront, run_cons, hstep]
    have hafter : Outcome (fun mux' => Sound .server mux' ∧ Ages after mux' ∧ Answered mux')
        (fun _ : Fault => True) (Except.ok after) :=
      ⟨(hclosing.step (horderly closing rfl)).of_ok hresult, .of_sockets rfl,
        ((hclosing.server_ages (horderly closing rfl)).of_ok hresult).2 hanswers⟩
    refine (server_run hafter hcallsBack).mono ?_ fun _ _ => trivial
    rintro mux' ⟨hmux', hages', -⟩ peer
    obtain ⟨lost, hlostSocket, -, honAfter⟩ := hagesAfter.socket i socket hsocket
    obtain ⟨last, hlast, hstays, honLast⟩ := hages'.socket i lost hlostSocket
    exact hmux'.accept_lost hlast (honLast (honAfter hon)) (hstays (hgone lost hlostSocket)) peer

/-- Both connections of a peer are accepted, and it leaves without a word. -/
def exampleVisit : List Call :=
  [.listen, .accept 0 (some ([49], 8888)), .accept 1 (some ([49], 8889)), .closed 0]

theorem server_lost_visit :
    (∃ i, ∀ back,
        RunOk processStep (OrderlyCall .server) (.ok exampleMux)
          (exampleVisit ++ .closed 1 :: back) →
        Outcome (fun mux' => ∀ peer, transportStep mux' (.accept i peer) = .error (.accept false))
          (fun _ => True) (run processStep (.ok exampleMux) (exampleVisit ++ .closed 1 :: back))) ∧
      run processStep (.ok exampleMux)
        (exampleVisit ++ [.closed 1, .accept 0 (some ([49], 8888))]) =
          .error (.accept false) :=
  have halloc : redundancyMuxAllocateChannels exampleKernel 2 exampleRemote = .ok exampleMux := by
    decide +kernel
  have hfront : run processStep (.ok exampleMux) exampleVisit =
      .ok (exampleAfter exampleVisit) := by decide +kernel
  ⟨server_lost halloc (by decide) (by decide +kernel) hfront (by decide +kernel)
      (by decide +kernel), by decide +kernel⟩

end Server

end LibRasta.Transport
