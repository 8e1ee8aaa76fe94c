/-
Module: LibRasta/Transport/DatagramRuns.lean
source: src/c/transport/udp_base.c, src/c/transport/events.c, src/c/redundancy/rasta_redundancy_channel.c, src/c/redundancy/rasta_red_multiplexer.c
digest: Whole runs over UDP: the socket an empty datagram silences for good, the sockets a client forgets and cannot connect over again, and the descriptors that stay open.
-/

import LibRasta.Transport.Datagrams
import LibRasta.Transport.Descriptors
import LibRasta.Lib.Outcomes

set_option autoImplicit false
set_option relaxedAutoImplicit false

namespace LibRasta.Transport.Udp

open LibRasta.Lib
open LibRasta.Util
open LibRasta.Retransmission (RastaRole)

section Invariant

/-- What all sockets and channels have in common: the socket watches the descriptor it was created
with, and uses that one or none; a channel is associated with the socket of its own place. -/
structure Sound (mux : RedundancyMux) : Prop where
  counts : mux.channels.length = mux.sockets.length
  created : ∀ (i : ℕ) (socket : TransportSocket), mux.sockets[i]? = some socket →
    mux.kernel.descriptor socket.receiveEvent.fd = some .created
  own : ∀ (i : ℕ) (socket : TransportSocket), mux.sockets[i]? = some socket →
    socket.fileDescriptor = socket.receiveEvent.fd ∨ socket.fileDescriptor = -1
  apart : ∀ (i j : ℕ) (socket other : TransportSocket), mux.sockets[i]? = some socket →
    mux.sockets[j]? = some other → socket.receiveEvent.fd = other.receiveEvent.fd → i = j
  placed : ∀ (c i : ℕ) (channel : TransportChannel), mux.channels[c]? = some channel →
    channel.associatedSocket = some i → i = c

/-- Whether channel `c` is connected. -/
def RedundancyMux.isConnected (mux : RedundancyMux) (c : ℕ) : Bool :=
  (mux.channels[c]?.map TransportChannel.connected).getD false

/-- Socket `i` has no descriptor any more. -/
def RedundancyMux.Lost (mux : RedundancyMux) (i : ℕ) : Prop :=
  mux.sockets[i]?.map TransportSocket.fileDescriptor = some (-1)

/-- The socket without its descriptor. -/
def TransportSocket.forgotten (socket : TransportSocket) : TransportSocket :=
  { socket with fileDescriptor := -1 }

/-- What every call leaves as it is. -/
structure Frame (mux mux' : RedundancyMux) : Prop where
  kernel : mux'.kernel = mux.kernel
  channelCount : mux'.channels.length = mux.channels.length
  watched : mux'.sockets.map (fun socket => socket.receiveEvent.fd) =
    mux.sockets.map fun socket => socket.receiveEvent.fd

theorem Frame.refl (mux : RedundancyMux) : Frame mux mux := ⟨rfl, rfl, rfl⟩

theorem Frame.trans {mux mux' mux'' : RedundancyMux} (h : Frame mux mux') (h' : Frame mux' mux'') :
    Frame mux mux'' :=
  ⟨h'.kernel.trans h.kernel, h'.channelCount.trans h.channelCount, h'.watched.trans h.watched⟩

theorem Frame.socketCount {mux mux' : RedundancyMux} (h : Frame mux mux') :
    mux'.sockets.length = mux.sockets.length := by
  have hlengths := congrArg List.length h.watched
  rwa [List.length_map, List.length_map] at hlengths

/-- Each socket is the one that was there before, up to its own descriptor and its enabling. -/
theorem Frame.socket {mux mux' : RedundancyMux} (h : Frame mux mux') {i : ℕ}
    {socket' : TransportSocket} (hsocket : mux'.sockets[i]? = some socket') :
    ∃ socket, mux.sockets[i]? = some socket ∧
      socket.receiveEvent.fd = socket'.receiveEvent.fd := by
  have hi := congrArg (fun list => list[i]?) h.watched
  simp only [List.getElem?_map, hsocket, Option.map_some] at hi
  obtain ⟨socket, hbefore, hfd⟩ := Option.map_eq_some_iff.mp hi.symm
  exact ⟨socket, hbefore, hfd⟩

theorem isConnected_eq {mux : RedundancyMux} {c : ℕ} {channel : TransportChannel}
    (h : mux.channels[c]? = some channel) : mux.isConnected c = channel.connected := by
  rw [RedundancyMux.isConnected, h]
  rfl

theorem any_connected_iff (mux : RedundancyMux) :
    mux.channels.any TransportChannel.connected = true ↔
      ∃ d < mux.channels.length, mux.isConnected d = true := by
  rw [List.any_eq_true]
  constructor
  · rintro ⟨channel, hmem, hon⟩
    obtain ⟨d, hd, rfl⟩ := List.getElem_of_mem hmem
    exact ⟨d, hd, (isConnected_eq (List.getElem?_eq_getElem hd)).trans hon⟩
  · rintro ⟨d, hd, hon⟩
    exact ⟨_, List.getElem_mem hd, (isConnected_eq (List.getElem?_eq_getElem hd)).symm.trans hon⟩

end Invariant

section Closing

variable {mux : RedundancyMux}

/-- After the channels before `k` were closed. -/
structure ClosedUpTo (mux : RedundancyMux) (k : ℕ) (mux' : RedundancyMux) : Prop where
  channels : mux'.channels = mux.channels
  role : mux'.role = mux.role
  kernel : mux'.kernel = mux.kernel
  sockets : ∀ i, mux'.sockets[i]? =
    if mux.role = .client ∧ i < k ∧ mux.isConnected i = false then
      mux.sockets[i]?.map TransportSocket.forgotten
    else mux.sockets[i]?
  associated : mux.role = .client → ∀ c < k, mux.isConnected c = false →
    mux.channels[c]?.bind TransportChannel.associatedSocket ≠ none

/-- A client closes a channel that is neither connected nor associated with a socket. -/
def Dangling (mux : RedundancyMux) : Prop :=
  mux.role = .client ∧ ∃ c < mux.channels.length, mux.isConnected c = false ∧
    mux.channels[c]?.bind TransportChannel.associatedSocket = none

theorem ClosedUpTo.next {mux' : RedundancyMux} {c : ℕ} (hsound : Sound mux)
    (h : ClosedUpTo mux c mux') (hc : c < mux.channels.length) :
    Outcome (ClosedUpTo mux (c + 1)) (fun fault => fault = .transport .pointer ∧ Dangling mux)
      (closeOneChannel mux' c) := by
  obtain ⟨hchannels, hrole, hkernel, hsockets, hassociated⟩ := h
  obtain ⟨channel, hchannel⟩ : ∃ channel, mux.channels[c]? = some channel :=
    ⟨mux.channels[c], List.getElem?_eq_getElem hc⟩
  have hon := isConnected_eq hchannel
  unfold closeOneChannel
  simp only [hchannels, hchannel, Option.map_some, transportCloseChannel, hrole]
  split
  · next hbroken =>
    cases hassoc : channel.associatedSocket with
    | none =>
      refine ⟨rfl, hbroken.2, c, hc, hon.trans hbroken.1, ?_⟩
      rw [hchannel]
      exact hassoc
    | some i =>
      obtain rfl := hsound.placed c i channel hchannel hassoc
      refine ⟨rfl, rfl, hkernel, ?_, ?_⟩
      · intro j
        rw [List.getElem?_modify, hsockets j]
        grind [TransportSocket.forgotten]
      · intro hclient d hd hoff
        by_cases heq : d = i
        · subst heq
          rw [hchannel]
          simp [hassoc]
        · exact hassociated hclient d (by omega) hoff
  · next hnot =>
    refine ⟨hchannels, hrole, hkernel, ?_, ?_⟩
    · intro j
      rw [hsockets j]
      grind
    · intro hclient d hd hoff
      by_cases heq : d = c
      · subst heq
        exact absurd ⟨hon.symm.trans hoff, hclient⟩ hnot
      · exact hassociated hclient d (by omega) hoff

/-- Closing the channels only costs a client the sockets of those that are not connected. -/
theorem Sound.closeChannels (h : Sound mux) :
    Outcome (ClosedUpTo mux mux.channels.length)
      (fun fault => fault = .transport .pointer ∧ Dangling mux) (redundancyChannelClose mux) := by
  refine Outcome.foldlM_range (p := ClosedUpTo mux) (fun c mux' hc hmux' => hmux'.next h hc) ?_
  refine ⟨rfl, rfl, rfl, ?_, ?_⟩
  · intro i
    rw [if_neg fun hi => absurd hi.2.1 (Nat.not_lt_zero i)]
  · exact fun _ c hc => absurd hc (Nat.not_lt_zero c)

theorem closeChannels_error_iff (h : Sound mux) :
    redundancyChannelClose mux = .error (.transport .pointer) ↔ Dangling mux := by
  have hclose := h.closeChannels
  constructor
  · exact fun hpointer => (hclose.of_error hpointer).2
  · rintro ⟨hclient, c, hc, hoff, hnone⟩
    cases hresult : redundancyChannelClose mux with
    | error fault => rw [(hclose.of_error hresult).1]
    | ok mux' => exact absurd hnone ((hclose.of_ok hresult).associated hclient c hc hoff)

end Closing

end LibRasta.Transport.Udp
