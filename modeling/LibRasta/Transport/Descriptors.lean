/-
Module: LibRasta/Transport/Descriptors.lean
source: src/c/transport/tcp.c, src/c/transport/tcp_base.c, src/c/transport/bsd_utils.c, src/c/transport/events.c, src/c/redundancy/rasta_redundancy_channel.c, src/c/redundancy/rasta_red_multiplexer.c
digest: Whatever the network does and in whatever order the channels are opened, used and closed, a connected channel watches a descriptor of its own that is open, and no descriptor is closed that is not.
-/

import LibRasta.Lib.Outcomes
import LibRasta.Transport.Channels

set_option autoImplicit false
set_option relaxedAutoImplicit false

namespace LibRasta.Transport

open LibRasta.Lib
open LibRasta.Util
open LibRasta.Retransmission (RastaRole)

section Kernel

variable {kernel kernel' : Kernel} {descriptor old : Descriptor} {fd other : ℤ}

theorem descriptor_natCast (n : ℕ) : kernel.descriptor n = kernel.descriptors.lookup n := rfl

theorem nonneg_of_descriptor (h : kernel.descriptor fd = some descriptor) : 0 ≤ fd := by
  cases fd with
  | ofNat n => exact Int.natCast_nonneg n
  | negSucc n => cases h

/-- Only one descriptor has changed. -/
def Kernel.Spares (kernel kernel' : Kernel) (fd : ℤ) : Prop :=
  kernel'.limit = kernel.limit ∧
    ∀ other, other ≠ fd → kernel'.descriptor other = kernel.descriptor other

theorem Kernel.open_spec (h : kernel.open_ descriptor = some (kernel', fd)) :
    kernel.descriptor fd = none ∧ kernel'.descriptor fd = some descriptor ∧ 0 ≤ fd ∧
      kernel.Spares kernel' fd := by
  unfold Kernel.open_ at h
  split at h
  · cases h
    refine ⟨Handles.lookup_lowest, Handles.lookup_give_lowest, Int.natCast_nonneg _, rfl, ?_⟩
    intro other hne
    cases other with
    | ofNat n =>
      apply Handles.lookup_give_of_ne
      intro heq
      exact hne (congrArg Int.ofNat heq)
    | negSucc n => rfl
  · cases h

theorem Kernel.open_inUse (h : kernel.open_ descriptor = some (kernel', fd)) :
    kernel'.descriptors.inUse = kernel.descriptors.inUse + 1 ∧ kernel'.limit = kernel.limit := by
  unfold Kernel.open_ at h
  split at h
  · cases h
    exact ⟨Handles.inUse_give, rfl⟩
  · cases h

/-- There is no descriptor left when as many as there may be are in use. -/
theorem Kernel.open_eq_none_iff :
    kernel.open_ descriptor = none ↔ kernel.limit ≤ kernel.descriptors.inUse := by
  have hiff := Handles.lowest_lt_iff kernel.fits
  unfold Kernel.open_
  split
  · next hlt => simpa using hiff.mp hlt
  · next hnot => simpa using fun hlt => hnot (hiff.mpr hlt)

theorem Kernel.become_spec (h : kernel.descriptor fd = some old) :
    (kernel.become fd descriptor).descriptor fd = some descriptor ∧
      kernel.Spares (kernel.become fd descriptor) fd := by
  cases fd with
  | ofNat n =>
    refine ⟨Handles.lookup_change_self h descriptor, rfl, ?_⟩
    intro other hne
    cases other with
    | ofNat m => exact Handles.lookup_change_of_ne (fun heq => hne (congrArg Int.ofNat heq)) _
    | negSucc m => rfl
  | negSucc n => cases h

theorem Kernel.close_spares (h : kernel.descriptor fd = some old) :
    kernel.Spares (kernel.close fd) fd := by
  cases fd with
  | ofNat n =>
    refine ⟨rfl, ?_⟩
    intro other hne
    cases other with
    | ofNat m => exact Handles.lookup_release_of_ne fun heq => hne (congrArg Int.ofNat heq)
    | negSucc m => rfl
  | negSucc n => cases h

end Kernel

section Invariant

/-- What channel `c` holds. A channel that is not connected is not watched, and a client's is over
the socket of its own place. -/
structure ChannelSound (part : RastaRole) (kernel : Kernel) (sockets c : ℕ)
    (channel : TransportChannel) : Prop where
  held : channel.connected = true →
    kernel.descriptor channel.fileDescriptor = some .connected
  watched : channel.connected = true →
    channel.receiveEvent = { enabled := true, fd := channel.fileDescriptor }
  quiet : channel.connected = false → channel.receiveEvent.enabled = false
  associated : ∀ i, channel.associatedSocket = some i → i < sockets ∧ (part = .client → i = c)

/-- What a socket holds; only a server's are listening. -/
structure SocketSound (part : RastaRole) (kernel : Kernel) (socket : TransportSocket) : Prop where
  held : socket.fileDescriptor ≠ -1 → kernel.descriptor socket.fileDescriptor ≠ none
  accepts : socket.acceptEvent.enabled = true →
    part = .server ∧ kernel.descriptor socket.acceptEvent.fd = some .listening
  own : part = .server →
    socket.acceptEvent.fd = socket.fileDescriptor ∨ socket.fileDescriptor = -1

/-- Channels and sockets hold descriptors of their own; only a client's channel shares one, with the
socket it is associated with. -/
structure Sound (part : RastaRole) (mux : RedundancyMux) : Prop where
  role : part = .client → mux.role = .client
  counts : mux.channels.length = mux.sockets.length
  channels : ∀ (c : ℕ) (channel : TransportChannel), mux.channels[c]? = some channel →
    ChannelSound part mux.kernel mux.sockets.length c channel
  sockets : ∀ (i : ℕ) (socket : TransportSocket), mux.sockets[i]? = some socket →
    SocketSound part mux.kernel socket
  distinct : ∀ (c d : ℕ) (channel other : TransportChannel), mux.channels[c]? = some channel →
    mux.channels[d]? = some other → channel.connected = true → other.connected = true →
      channel.fileDescriptor = other.fileDescriptor → c = d
  apart : ∀ (i j : ℕ) (socket other : TransportSocket), mux.sockets[i]? = some socket →
    mux.sockets[j]? = some other → socket.fileDescriptor ≠ -1 →
      socket.fileDescriptor = other.fileDescriptor → i = j
  shared : ∀ (c i : ℕ) (channel : TransportChannel) (socket : TransportSocket),
    mux.channels[c]? = some channel → mux.sockets[i]? = some socket → channel.connected = true →
      channel.fileDescriptor = socket.fileDescriptor →
        channel.associatedSocket = some i ∧ part = .client

/-- The ends that are none of the program's own making. -/
def Fault.External : Fault → Prop
  | .close | .send false => False
  | _ => True

theorem getElem?_set_eq_some {α : Type} {list : List α} {i j : ℕ} {x y : α} :
    (list.set i x)[j]? = some y ↔
      (j = i ∧ i < list.length ∧ x = y) ∨ (j ≠ i ∧ list[j]? = some y) := by
  rw [List.getElem?_set]
  by_cases heq : i = j
  · by_cases hlt : j < list.length
    · simp [heq, hlt]
    · simp [heq, hlt]
  · simp [heq, Ne.symm heq]

theorem getElem?_modify_eq_some {α : Type} {list : List α} {i j : ℕ} {f : α → α} {y : α} :
    (list.modify i f)[j]? = some y ↔
      (j = i ∧ ∃ x, list[j]? = some x ∧ f x = y) ∨ (j ≠ i ∧ list[j]? = some y) := by
  rw [List.getElem?_modify]
  by_cases heq : i = j
  · simp [heq]
  · simp [heq, Ne.symm heq]

end Invariant

section Steps

variable {part : RastaRole} {mux : RedundancyMux} {c i : ℕ} {channel : TransportChannel}
  {socket : TransportSocket} {kernel : Kernel} {fd : ℤ}

/-- A new descriptor for a socket. -/
theorem Sound.socket_opened (h : Sound .client mux) (hsocket : mux.sockets[i]? = some socket)
    (hopen : mux.kernel.open_ .created = some (kernel, fd)) :
    Sound .client { mux with
      kernel := kernel
      sockets := mux.sockets.set i { socket with fileDescriptor := fd } } := by
  obtain ⟨hfree, hcreated, hpos, -, hspares⟩ := Kernel.open_spec hopen
  obtain ⟨h1, h0, h2, h3, h4, h5, h6⟩ := h
  constructor
  · exact h1
  · simpa using h0
  · intro c channel hchannel
    obtain ⟨a1, a2, a3, a4⟩ := h2 c channel hchannel
    constructor <;> grind
  · intro j other hother
    rw [getElem?_set_eq_some] at hother
    obtain ⟨b1, b2, b3⟩ := h3 i socket hsocket
    constructor <;> grind [SocketSound]
  · grind
  · grind [SocketSound, getElem?_set_eq_some]
  · grind [ChannelSound, getElem?_set_eq_some]

/-- A channel that is not connected takes over the descriptor of a socket. -/
theorem Sound.channel_assigned (h : Sound part mux) (hchannel : mux.channels[c]? = some channel)
    (hoff : channel.connected = false) (hover : i < mux.sockets.length ∧ (part = .client → i = c))
    (fd : ℤ) :
    Sound part { mux with
      channels := mux.channels.set c
        { channel with
          fileDescriptor := fd, associatedSocket := some i, connected := false } } := by
  obtain ⟨h1, h0, h2, h3, h4, h5, h6⟩ := h
  constructor
  · exact h1
  · simpa using h0
  · intro d other hother
    rw [getElem?_set_eq_some] at hother
    constructor <;> grind [ChannelSound]
  · exact h3
  · grind [getElem?_set_eq_some]
  · exact h5
  · grind [getElem?_set_eq_some]

/-- `connect` on the descriptor of a socket that was only created. -/
theorem Sound.channel_connected (h : Sound .client mux) (hchannel : mux.channels[c]? = some channel)
    (hsocket : mux.sockets[c]? = some socket)
    (hcreated : mux.kernel.descriptor socket.fileDescriptor = some .created) :
    Sound .client { mux with
      kernel := mux.kernel.become socket.fileDescriptor .connected
      channels := mux.channels.set c
        { channel with
          fileDescriptor := socket.fileDescriptor, associatedSocket := some c, connected := true
          receiveEvent := { enabled := true, fd := socket.fileDescriptor } } } := by
  have hc := (List.getElem?_eq_some_iff.mp hsocket).1
  obtain ⟨hnow, -, hspares⟩ := @Kernel.become_spec _ .connected _ _ hcreated
  have hpos := nonneg_of_descriptor hcreated
  obtain ⟨h1, h0, h2, h3, h4, h5, h6⟩ := h
  constructor
  · exact h1
  · simpa using h0
  · intro d other hother
    rw [getElem?_set_eq_some] at hother
    constructor <;> grind [ChannelSound]
  · intro j other hother
    obtain ⟨b1, b2, b3⟩ := h3 j other hother
    constructor <;> grind
  · grind [ChannelSound, getElem?_set_eq_some]
  · exact h5
  · grind [ChannelSound, SocketSound, getElem?_set_eq_some]

/-- The accept event of a client's socket is of no account. -/
theorem Sound.accept_moved (h : Sound .client mux) (fd : ℤ) :
    Sound .client { mux with
      sockets := mux.sockets.modify i fun socket =>
        { socket with acceptEvent := { socket.acceptEvent with fd := fd } } } := by
  obtain ⟨h1, h0, h2, h3, h4, h5, h6⟩ := h
  constructor
  · exact h1
  · simpa using h0
  · simpa using h2
  · intro j other hother
    rw [getElem?_modify_eq_some] at hother
    constructor <;> grind [SocketSound]
  · exact h4
  · grind [getElem?_modify_eq_some]
  · grind [getElem?_modify_eq_some]

/-- Reading a channel failed. Its descriptor stays open. -/
theorem Sound.channel_broken (h : Sound part mux) :
    Sound part { mux with
      channels := mux.channels.modify c fun channel =>
        { channel with
          connected := false
          receiveEvent := disableFdEvent channel.receiveEvent } } := by
  obtain ⟨h1, h0, h2, h3, h4, h5, h6⟩ := h
  constructor
  · exact h1
  · simpa using h0
  · intro d other hother
    rw [getElem?_modify_eq_some] at hother
    constructor <;> grind [ChannelSound, disableFdEvent]
  · exact h3
  · grind [getElem?_modify_eq_some]
  · exact h5
  · grind [getElem?_modify_eq_some]

/-- The descriptor of an accepted peer goes to a channel, which may have had another before. -/
theorem Sound.channel_accepted (h : Sound .server mux) (hi : i < mux.sockets.length)
    (hopen : mux.kernel.open_ .connected = some (kernel, fd)) :
    Sound .server { mux with
      kernel := kernel
      channels := mux.channels.modify c fun channel =>
        { channel with
          fileDescriptor := fd
          receiveEvent := { enabled := true, fd := fd }
          connected := true
          associatedSocket := some i } } := by
  obtain ⟨hfree, hnow, hpos, -, hspares⟩ := Kernel.open_spec hopen
  obtain ⟨h1, h0, h2, h3, h4, h5, h6⟩ := h
  constructor
  · exact h1
  · simpa using h0
  · intro d other hother
    rw [getElem?_modify_eq_some] at hother
    constructor <;> grind [ChannelSound]
  · intro j other hother
    obtain ⟨b1, b2, b3⟩ := h3 j other hother
    constructor <;> grind
  · grind [ChannelSound, getElem?_modify_eq_some]
  · exact h5
  · grind [SocketSound, getElem?_modify_eq_some]

/-- The descriptor of a peer no channel is configured for is given back. -/
theorem Sound.peer_rejected (h : Sound part mux)
    (hopen : mux.kernel.open_ .connected = some (kernel, fd)) :
    Sound part { mux with kernel := kernel.close fd } := by
  obtain ⟨hfree, hnow, hpos, -, hspares⟩ := Kernel.open_spec hopen
  obtain ⟨-, hcloses⟩ := Kernel.close_spares hnow
  obtain ⟨h1, h0, h2, h3, h4, h5, h6⟩ := h
  constructor
  · exact h1
  · simpa using h0
  · intro d other hother
    obtain ⟨a1, a2, a3, a4⟩ := h2 d other hother
    constructor <;> grind
  · intro j other hother
    obtain ⟨b1, b2, b3⟩ := h3 j other hother
    constructor <;> grind
  · exact h4
  · exact h5
  · exact h6

/-- A server closes a channel: no socket has its descriptor. -/
theorem Sound.server_channel_closed (h : Sound .server mux)
    (hchannel : mux.channels[c]? = some channel) (hon : channel.connected = true) :
    Sound .server { mux with
      kernel := mux.kernel.close channel.fileDescriptor
      channels := mux.channels.set c
        { channel with
          fileDescriptor := -1, connected := false
          receiveEvent := disableFdEvent channel.receiveEvent } } := by
  have hheld := (h.channels c channel hchannel).held hon
  obtain ⟨-, hcloses⟩ := Kernel.close_spares hheld
  obtain ⟨h1, h0, h2, h3, h4, h5, h6⟩ := h
  constructor
  · exact h1
  · simpa using h0
  · intro d other hother
    rw [getElem?_set_eq_some] at hother
    constructor <;> grind [ChannelSound, disableFdEvent]
  · intro j other hother
    obtain ⟨b1, b2, b3⟩ := h3 j other hother
    constructor <;> grind
  · grind [getElem?_set_eq_some]
  · exact h5
  · grind [getElem?_set_eq_some]

/-- The socket of a channel that is closed in the role of the client is lost. -/
theorem Sound.socket_lost (h : Sound part mux) :
    Sound part { mux with
      sockets := mux.sockets.modify i fun socket => { socket with fileDescriptor := -1 } } := by
  have hheld : ∀ (c : ℕ) (channel : TransportChannel), mux.channels[c]? = some channel →
      channel.connected = true → 0 ≤ channel.fileDescriptor :=
    fun c channel hchannel hon => nonneg_of_descriptor ((h.channels c channel hchannel).held hon)
  obtain ⟨h1, h0, h2, h3, h4, h5, h6⟩ := h
  constructor
  · exact h1
  · simpa using h0
  · simpa using h2
  · intro j other hother
    rw [getElem?_modify_eq_some] at hother
    constructor <;> grind [SocketSound]
  · exact h4
  · grind [getElem?_modify_eq_some]
  · grind [getElem?_modify_eq_some]

/-- A client closes a channel: its socket has the same descriptor and loses it. -/
theorem Sound.client_channel_closed (h : Sound .client mux)
    (hchannel : mux.channels[c]? = some channel) (hon : channel.connected = true)
    (hover : channel.associatedSocket = some i) :
    Sound .client { mux with
      kernel := mux.kernel.close channel.fileDescriptor
      channels := mux.channels.set c
        { channel with
          fileDescriptor := -1, connected := false
          receiveEvent := disableFdEvent channel.receiveEvent }
      sockets := mux.sockets.modify i fun socket => { socket with fileDescriptor := -1 } } := by
  have hheld := (h.channels c channel hchannel).held hon
  obtain ⟨-, hcloses⟩ := Kernel.close_spares hheld
  obtain ⟨h1, h0, h2, h3, h4, h5, h6⟩ := h
  have hpos : ∀ (d : ℕ) (other : TransportChannel), mux.channels[d]? = some other →
      other.connected = true → 0 ≤ other.fileDescriptor :=
    fun d other hother hon => nonneg_of_descriptor ((h2 d other hother).held hon)
  constructor
  · exact h1
  · simpa using h0
  · intro d other hother
    rw [getElem?_set_eq_some] at hother
    constructor <;> grind [ChannelSound, disableFdEvent]
  · intro j other hother
    rw [getElem?_modify_eq_some] at hother
    constructor <;> grind [SocketSound]
  · grind [getElem?_set_eq_some]
  · grind [getElem?_modify_eq_some]
  · grind [getElem?_set_eq_some, getElem?_modify_eq_some]

/-- Closing a channel that is not connected disables its event. -/
theorem Sound.channel_silenced (h : Sound part mux) (hchannel : mux.channels[c]? = some channel)
    (hoff : channel.connected = false) :
    Sound part { mux with
      channels := mux.channels.set c
        { channel with receiveEvent := disableFdEvent channel.receiveEvent } } := by
  obtain ⟨h1, h0, h2, h3, h4, h5, h6⟩ := h
  constructor
  · exact h1
  · simpa using h0
  · intro d other hother
    rw [getElem?_set_eq_some] at hother
    constructor <;> grind [ChannelSound, disableFdEvent]
  · exact h3
  · grind [getElem?_set_eq_some]
  · exact h5
  · grind [getElem?_set_eq_some]

/-- `listen` on the descriptor of a server's socket. -/
theorem Sound.socket_listens (h : Sound .server mux) (hsocket : mux.sockets[i]? = some socket)
    {old : Descriptor} (hopen : mux.kernel.descriptor socket.fileDescriptor = some old)
    (hold : old ≠ .connected) :
    Sound .server { mux with
      kernel := mux.kernel.become socket.fileDescriptor .listening
      sockets := mux.sockets.set i
        { socket with acceptEvent := enableFdEvent socket.acceptEvent } } := by
  obtain ⟨hnow, -, hspares⟩ := @Kernel.become_spec _ .listening _ _ hopen
  have hpos := nonneg_of_descriptor hopen
  obtain ⟨h1, h0, h2, h3, h4, h5, h6⟩ := h
  constructor
  · exact h1
  · simpa using h0
  · intro d other hother
    obtain ⟨a1, a2, a3, a4⟩ := h2 d other hother
    constructor <;> grind
  · intro j other hother
    rw [getElem?_set_eq_some] at hother
    obtain ⟨b1, b2, b3⟩ := h3 i socket hsocket
    constructor <;> grind [SocketSound, enableFdEvent]
  · exact h4
  · grind [getElem?_set_eq_some]
  · grind [getElem?_set_eq_some]

end Steps

section Calls

variable {part : RastaRole} {mux : RedundancyMux}

theorem Sound.listenOne (h : Sound .server mux) (i : ℕ) :
    Outcome (Sound .server) Fault.External (transportListen mux i) := by
  unfold transportListen
  split
  · trivial
  · next socket hsocket =>
    split
    · next hopen => exact h.socket_listens hsocket hopen (by decide)
    · next hopen => exact h.socket_listens hsocket hopen (by decide)
    · trivial

theorem Sound.accept (h : Sound .server mux) (i : ℕ) (peer : Option (Bytes × UInt16)) :
    Outcome (Sound .server) Fault.External (channelAcceptEvent mux i peer) := by
  unfold channelAcceptEvent
  split
  · trivial
  · next socket hsocket =>
    split
    · split
      · next kernel fd ipAddr port hopen =>
        split
        · exact h.channel_accepted (List.getElem?_eq_some_iff.mp hsocket).1 hopen
        · exact h.peer_rejected hopen
      · trivial
    · trivial

theorem transportCloseChannel_on {kernel : Kernel} {channel : TransportChannel} {old : Descriptor}
    (hon : channel.connected = true) (hheld : kernel.descriptor channel.fileDescriptor = some old) :
    transportCloseChannel kernel channel = .ok (kernel.close channel.fileDescriptor,
      { channel with
        fileDescriptor := -1, connected := false
        receiveEvent := disableFdEvent channel.receiveEvent }) := by
  have hpos := nonneg_of_descriptor hheld
  unfold transportCloseChannel bsdClose
  rw [if_pos hon, if_pos hpos, if_neg (by rw [hheld]; exact Option.some_ne_none old)]
  rfl

theorem transportCloseChannel_off {kernel : Kernel} {channel : TransportChannel}
    (hoff : channel.connected = false) :
    transportCloseChannel kernel channel = .ok (kernel,
      { channel with receiveEvent := disableFdEvent channel.receiveEvent }) := by
  unfold transportCloseChannel
  rw [if_neg (by rw [hoff]; exact Bool.false_ne_true)]
  rfl

/-- What closing one channel does. In the role of the client its socket is lost. -/
theorem closeOneChannel_eq {c : ℕ} {channel closed : TransportChannel} {kernel : Kernel}
    (hchannel : mux.channels[c]? = some channel)
    (hclose : transportCloseChannel mux.kernel channel = .ok (kernel, closed))
    (hoff : closed.connected = false) :
    closeOneChannel mux c =
      if mux.role = .client then
        match closed.associatedSocket with
        | none => .error .pointer
        | some i => .ok { mux with
            kernel := kernel
            channels := mux.channels.set c closed
            sockets := mux.sockets.modify i fun socket => { socket with fileDescriptor := -1 } }
      else .ok { mux with kernel := kernel, channels := mux.channels.set c closed } := by
  have hrole : closed.connected = false ∧ mux.role = .client ↔ mux.role = .client :=
    and_iff_right hoff
  unfold closeOneChannel
  rw [hchannel]
  dsimp only
  rw [hclose]
  exact if_congr hrole rfl rfl

theorem Sound.closeOne (h : Sound part mux) (c : ℕ) :
    Outcome (Sound part) Fault.External (closeOneChannel mux c) := by
  cases hchannel : mux.channels[c]? with
  | none =>
    unfold closeOneChannel
    rw [hchannel]
    trivial
  | some channel =>
    cases hon : channel.connected with
    | false =>
      rw [closeOneChannel_eq hchannel (transportCloseChannel_off hon) hon]
      have hsilent := h.channel_silenced hchannel hon
      split
      · split
        · trivial
        · exact hsilent.socket_lost
      · exact hsilent
    | true =>
      have hheld := (h.channels c channel hchannel).held hon
      rw [closeOneChannel_eq hchannel (transportCloseChannel_on hon hheld) rfl]
      split
      · split
        · trivial
        · next hover =>
          cases part with
          | client => exact h.client_channel_closed hchannel hon hover
          | server => exact (h.server_channel_closed hchannel hon).socket_lost
      · next hrole =>
        cases part with
        | client => exact absurd (h.role rfl) hrole
        | server => exact h.server_channel_closed hchannel hon

theorem Sound.closeChannels (h : Sound part mux) :
    Outcome (Sound part) Fault.External (redundancyChannelClose mux) :=
  Outcome.foldlM (fun _ c hmux => hmux.closeOne c) _ h

theorem Sound.broken (h : Sound part mux) (c : ℕ) :
    Outcome (Sound part) Fault.External (channelClosedEvent mux c) := by
  unfold channelClosedEvent handleClosedTransport
  split
  · exact h.channel_broken
  · exact h.channel_broken.closeChannels

/-- What becomes of a channel that is connected over a socket. -/
theorem transportConnect_cases {i c : ℕ} {socket : TransportSocket} {channel : TransportChannel}
    (hsocket : mux.sockets[i]? = some socket) (hchannel : mux.channels[c]? = some channel)
    (dial : Dial) :
    Outcome (fun mux' =>
        mux' = { mux with
          channels := mux.channels.set c
            { channel with
              fileDescriptor := socket.fileDescriptor, associatedSocket := some i
              connected := false } } ∨
        mux.kernel.descriptor socket.fileDescriptor = some .created ∧ dial = .established ∧
          mux' = { mux with
            kernel := mux.kernel.become socket.fileDescriptor .connected
            channels := mux.channels.set c
              { channel with
                fileDescriptor := socket.fileDescriptor, associatedSocket := some i
                connected := true
                receiveEvent := { enabled := true, fd := socket.fileDescriptor } } })
      (fun fault => fault = .inetAton ∧ dial = .invalid) (transportConnect mux i c dial) := by
  unfold transportConnect
  rw [hsocket, hchannel]
  cases dial with
  | invalid => exact ⟨rfl, rfl⟩
  | refused => exact .inl rfl
  | established =>
    by_cases hcreated : mux.kernel.descriptor socket.fileDescriptor = some .created
    · simp only [tcpConnect, if_pos hcreated]
      exact .inr ⟨hcreated, trivial, rfl⟩
    · simp only [tcpConnect, if_neg hcreated]
      exact .inl rfl

theorem isConnected_eq {c : ℕ} {channel : TransportChannel}
    (hchannel : mux.channels[c]? = some channel) :
    mux.isConnected c = channel.connected := by
  rw [RedundancyMux.isConnected, hchannel]
  rfl

theorem isConnected_eq_false (h : ∀ channel ∈ mux.channels, channel.connected = false) (c : ℕ) :
    mux.isConnected c = false := by
  cases hchannel : mux.channels[c]? with
  | none =>
    rw [RedundancyMux.isConnected, hchannel]
    rfl
  | some channel =>
    rw [isConnected_eq hchannel]
    exact h channel (List.mem_of_getElem? hchannel)

theorem Sound.connectOne (h : Sound .client mux) {c : ℕ} (hoff : mux.isConnected c = false)
    (dial : Dial) :
    Outcome (fun mux' => Sound .client mux' ∧ ∀ d, d ≠ c → mux'.channels[d]? = mux.channels[d]?)
      Fault.External (transportConnect mux c c dial) := by
  cases hsocket : mux.sockets[c]? with
  | none =>
    unfold transportConnect
    rw [hsocket]
    trivial
  | some socket =>
    cases hchannel : mux.channels[c]? with
    | none =>
      unfold transportConnect
      rw [hsocket, hchannel]
      trivial
    | some channel =>
      rw [isConnected_eq hchannel] at hoff
      have hover : c < mux.sockets.length ∧ (RastaRole.client = .client → c = c) :=
        ⟨(List.getElem?_eq_some_iff.mp hsocket).1, fun _ => rfl⟩
      refine (transportConnect_cases hsocket hchannel dial).mono ?_ ?_
      · rintro mux' (rfl | ⟨hcreated, -, rfl⟩)
        · exact ⟨h.channel_assigned hchannel hoff hover _, fun d hd => List.getElem?_set_ne hd.symm⟩
        · exact ⟨h.channel_connected hchannel hsocket hcreated,
            fun d hd => List.getElem?_set_ne hd.symm⟩
      · rintro fault ⟨rfl, -⟩
        trivial

/-- The client connects its channels one after the other, if none is connected. -/
theorem Sound.connectChannels (h : Sound .client mux) (hoff : ∀ c, mux.isConnected c = false)
    (dials : ℕ → Dial) :
    Outcome (Sound .client) Fault.External (redundancyChannelConnect mux dials) := by
  have hloop : Outcome (fun mux' : RedundancyMux => Sound .client mux' ∧
        ∀ d, mux.channels.length ≤ d → mux'.channels[d]? = mux.channels[d]?)
      Fault.External (redundancyChannelConnect mux dials) := by
    -- the channels that are still to come are as they were
    refine Outcome.foldlM_range (p := fun k mux' => Sound .client mux' ∧
      ∀ d, k ≤ d → mux'.channels[d]? = mux.channels[d]?) ?_ ⟨h, fun _ _ => rfl⟩
    rintro k mux' hk ⟨hmux', hrest⟩
    have hoff' : mux'.isConnected k = false := by
      rw [RedundancyMux.isConnected, hrest k (Nat.le_refl k)]
      exact hoff k
    refine (hmux'.connectOne hoff' (dials k)).mono ?_ fun _ hfault => hfault
    rintro next ⟨hnext, hothers⟩
    refine ⟨hnext, fun d hd => ?_⟩
    rw [hothers d (by omega), hrest d (by omega)]
  exact hloop.mono (fun _ hmux' => hmux'.1) fun _ hfault => hfault

theorem bsdCreateSocket_opens (kernel : Kernel) :
    Outcome (fun opened => kernel.open_ .created = some opened) Fault.External
      (bsdCreateSocket kernel) := by
  unfold bsdCreateSocket
  split
  · next hopen => exact hopen
  · trivial

theorem Sound.redial (h : Sound .client mux) {c : ℕ} (hoff : mux.isConnected c = false)
    (dial : Dial) :
    Outcome (Sound .client) Fault.External (transportRedial mux c dial) := by
  unfold transportRedial
  split
  · trivial
  · next i hover =>
    obtain ⟨channel, hchannel, hassociated⟩ := Option.bind_eq_some_iff.mp hover
    obtain rfl : i = c := ((h.channels c channel hchannel).associated i hassociated).2 rfl
    split
    · trivial
    · next socket hsocket =>
      refine (bsdCreateSocket_opens mux.kernel).bind ?_
      rintro ⟨kernel, fd⟩ hopen
      refine ((h.socket_opened hsocket hopen).connectOne hoff dial).bind ?_
      rintro mux' ⟨hmux', -⟩
      cases mux'.isConnected i with
      | false => exact hmux'
      | true => exact hmux'.accept_moved fd

/-- A connected channel has a descriptor to send on. -/
theorem Sound.sends (h : Sound part mux) {c : ℕ} {channel : TransportChannel}
    (hchannel : mux.channels[c]? = some channel) (hon : channel.connected = true) (sent : Bool) :
    Outcome (fun _ => True) Fault.External (tcpSend mux.kernel channel sent) := by
  unfold tcpSend
  rw [if_pos ((h.channels c channel hchannel).held hon)]
  cases sent with
  | false => trivial
  | true => trivial

/-- Nobody but the client reconnects. -/
theorem Sound.reconnect (h : Sound part mux) (hrole : mux.role = part) (dials : ℕ → Dial) (c : ℕ) :
    Outcome (fun mux' => Sound part mux' ∧ mux'.role = part) Fault.External
      (reconnect dials mux c) := by
  unfold Transport.reconnect
  split
  · exact ⟨h, hrole⟩
  · next hoff =>
    split
    · next hclient =>
      cases part with
      | client =>
        refine (h.redial (Bool.eq_false_iff.mpr hoff) (dials c)).mono ?_ fun _ hfault => hfault
        exact fun mux' hmux' => ⟨hmux', hmux'.role rfl⟩
      | server => cases hrole.symm.trans hclient
    · exact ⟨h, hrole⟩

theorem Sound.sendOne (h : Sound part mux) (hrole : mux.role = part) (dials : ℕ → Dial)
    (sent : ℕ → Bool) (list : List ℕ) (c : ℕ) :
    Outcome (fun s : RedundancyMux × List ℕ => Sound part s.1 ∧ s.1.role = part) Fault.External
      (sendOnChannel dials sent (mux, list) c) := by
  unfold sendOnChannel
  refine (h.reconnect hrole dials c).bind ?_
  rintro mux' ⟨hmux', hrole'⟩
  split
  · exact ⟨hmux', hrole'⟩
  · next channel hchannel =>
    split
    · next hon =>
      exact (hmux'.sends hchannel hon (sent c)).bind fun _ _ => ⟨hmux', hrole'⟩
    · exact ⟨hmux', hrole'⟩

theorem Sound.sendAll (h : Sound part mux) (hrole : mux.role = part) (dials : ℕ → Dial)
    (sent : ℕ → Bool) :
    Outcome (fun s : RedundancyMux × List ℕ => Sound part s.1 ∧ s.1.role = part) Fault.External
      (sendOnChannels mux dials sent) :=
  Outcome.foldlM (fun s c hs => hs.1.sendOne hs.2 dials sent s.2 c) _ ⟨h, hrole⟩

end Calls

section Runs

variable {part : RastaRole} {mux : RedundancyMux}

/-- What the upper layers of a party ask for. A client connects only while no channel is connected,
and a server sends only once it knows that it is one. -/
def Orderly (part : RastaRole) (mux : RedundancyMux) : Call → Prop
  | .listen => part = .server
  | .accept _ _ => part = .server
  | .connect _ => part = .client ∧ ∀ channel ∈ mux.channels, channel.connected = false
  | .send _ _ => mux.role = part
  | .initConnection role => role = part
  | .closed _ => True
  | .close => True

instance (part : RastaRole) (mux : RedundancyMux) :
    (call : Call) → Decidable (Orderly part mux call)
  | .listen => inferInstanceAs (Decidable (part = .server))
  | .accept _ _ => inferInstanceAs (Decidable (part = .server))
  | .connect _ => inferInstanceAs
      (Decidable (part = .client ∧ ∀ channel ∈ mux.channels, channel.connected = false))
  | .send _ _ => inferInstanceAs (Decidable (mux.role = part))
  | .initConnection role => inferInstanceAs (Decidable (role = part))
  | .closed _ => inferInstanceAs (Decidable True)
  | .close => inferInstanceAs (Decidable True)

/-- While the process lasts, its calls are orderly. -/
def OrderlyCall (part : RastaRole) (process : Except Fault RedundancyMux) (call : Call) : Prop :=
  ∀ mux ∈ process.toOption, Orderly part mux call

instance (part : RastaRole) (process : Except Fault RedundancyMux) (call : Call) :
    Decidable (OrderlyCall part process call) :=
  inferInstanceAs (Decidable (∀ mux ∈ process.toOption, Orderly part mux call))

theorem Sound.step (h : Sound part mux) {call : Call} (hcall : Orderly part mux call) :
    Outcome (Sound part) Fault.External (transportStep mux call) := by
  cases call with
  | listen =>
    cases hcall
    exact Outcome.foldlM (fun _ i hmux => hmux.listenOne i) _ h
  | connect dials =>
    obtain ⟨rfl, hoff⟩ := hcall
    exact h.connectChannels (isConnected_eq_false hoff) dials
  | accept i peer =>
    cases hcall
    simp only [transportStep]
    split
    · exact h.accept i peer
    · exact h
  | closed c =>
    simp only [transportStep]
    split
    · exact h.broken c
    · exact h
  | send dials sent =>
    have hsent := h.sendAll hcall dials sent
    simp only [transportStep]
    cases hresult : sendOnChannels mux dials sent with
    | ok s => exact (hsent.of_ok hresult).1
    | error fault => exact hsent.of_error hresult
  | close => exact h.closeChannels
  | initConnection role =>
    cases hcall
    exact ⟨fun hpart => hpart, h.counts, h.channels, h.sockets, h.distinct, h.apart, h.shared⟩

/-- The sockets while they are created. -/
structure SocketsCreated (part : RastaRole) (count : ℕ) (mux : RedundancyMux) : Prop where
  count_eq : mux.sockets.length = count
  role : mux.role = .client
  fresh : ∀ (i : ℕ) (socket : TransportSocket), mux.sockets[i]? = some socket →
    socket.fileDescriptor ≠ -1
  sockets : ∀ (i : ℕ) (socket : TransportSocket), mux.sockets[i]? = some socket →
    SocketSound part mux.kernel socket
  apart : ∀ (i j : ℕ) (socket other : TransportSocket), mux.sockets[i]? = some socket →
    mux.sockets[j]? = some other → socket.fileDescriptor ≠ -1 →
      socket.fileDescriptor = other.fileDescriptor → i = j

theorem SocketsCreated.createOne {count : ℕ} (h : SocketsCreated part count mux) :
    Outcome (SocketsCreated part (count + 1)) Fault.External (transportCreateSocket mux) := by
  unfold transportCreateSocket
  refine (bsdCreateSocket_opens mux.kernel).bind ?_
  rintro ⟨kernel, fd⟩ hopen
  obtain ⟨hfree, hcreated, hpos, -, hspares⟩ := Kernel.open_spec hopen
  obtain ⟨h1, h2, h0, h3, h4⟩ := h
  constructor
  · simpa using h1
  · exact h2
  · grind
  · intro j other hother
    rw [List.getElem?_append] at hother
    constructor <;> grind [SocketSound]
  · grind [SocketSound]

theorem SocketsCreated.sound (h : SocketsCreated part mux.sockets.length mux)
    {remote : List (Bytes × UInt16)} (hremote : remote.length = mux.sockets.length) :
    Sound part
      { mux with channels := remote.map fun address => transportInit address.1 address.2 } := by
  obtain ⟨-, h2, -, h3, h4⟩ := h
  constructor
  · exact fun _ => h2
  · simpa using hremote
  · intro c channel hchannel
    constructor <;> grind [transportInit]
  · exact h3
  · grind [transportInit]
  · exact h4
  · grind [transportInit]

/-- The sockets are open and no channel is associated with any. -/
theorem allocated_spec (part : RastaRole) {kernel : Kernel} {portCount : ℕ}
    {remote : List (Bytes × UInt16)}
    (h : redundancyMuxAllocateChannels kernel portCount remote = .ok mux) :
    Sound part mux ∧
      (∀ (i : ℕ) (socket : TransportSocket), mux.sockets[i]? = some socket →
        socket.fileDescriptor ≠ -1) ∧
      ∀ channel ∈ mux.channels, channel.associatedSocket = none := by
  have hstart : SocketsCreated part 0
      { channels := [], sockets := [], role := .client, kernel := kernel } := by
    constructor <;> simp
  have hloop := Outcome.foldlM_range (p := SocketsCreated part) (n := portCount)
    (fun _ _ _ hmux' => hmux'.createOne) hstart
  have hall : Outcome
      (fun mux' => Sound part mux' ∧
        (∀ (i : ℕ) (socket : TransportSocket), mux'.sockets[i]? = some socket →
          socket.fileDescriptor ≠ -1) ∧
        ∀ channel ∈ mux'.channels, channel.associatedSocket = none)
      (fun _ => True) (redundancyMuxAllocateChannels kernel portCount remote) := by
    unfold redundancyMuxAllocateChannels
    refine (hloop.mono (fun _ hmux' => hmux') fun _ _ => trivial).bind ?_
    intro mux' hmux'
    split
    · next hremote =>
      have hcount := hmux'.count_eq
      subst hcount
      refine ⟨hmux'.sound hremote, hmux'.fresh, ?_⟩
      intro channel hchannel
      obtain ⟨address, -, rfl⟩ := List.mem_map.mp hchannel
      rfl
    · trivial
  exact hall.of_ok h

theorem allocated_sound (part : RastaRole) {kernel : Kernel} {portCount : ℕ}
    {remote : List (Bytes × UInt16)}
    (h : redundancyMuxAllocateChannels kernel portCount remote = .ok mux) : Sound part mux :=
  (allocated_spec part h).1

/-- Before the sockets are closed one after the other. -/
structure SocketsHeld (mux : RedundancyMux) : Prop where
  held : ∀ (i : ℕ) (socket : TransportSocket), mux.sockets[i]? = some socket →
    socket.fileDescriptor ≠ -1 → mux.kernel.descriptor socket.fileDescriptor ≠ none
  apart : ∀ (i j : ℕ) (socket other : TransportSocket), mux.sockets[i]? = some socket →
    mux.sockets[j]? = some other → socket.fileDescriptor ≠ -1 →
      socket.fileDescriptor = other.fileDescriptor → i = j

theorem SocketsHeld.closeOne (h : SocketsHeld mux) (i : ℕ) :
    Outcome SocketsHeld Fault.External (transportCloseSocket mux i) := by
  unfold transportCloseSocket
  split
  · trivial
  · next socket hsocket =>
    obtain ⟨h1, h2⟩ := h
    by_cases hfd : socket.fileDescriptor = -1
    · rw [if_neg (not_not.mpr hfd)]
      constructor <;> grind [getElem?_set_eq_some]
    · obtain ⟨old, hold⟩ := Option.ne_none_iff_exists'.mp (h1 i socket hsocket hfd)
      have hpos := nonneg_of_descriptor hold
      obtain ⟨-, hcloses⟩ := Kernel.close_spares hold
      have hclose : bsdClose mux.kernel socket.fileDescriptor =
          .ok (mux.kernel.close socket.fileDescriptor) := by
        unfold bsdClose
        rw [if_pos hpos, if_neg (by rw [hold]; exact Option.some_ne_none old)]
      rw [if_pos hfd, hclose]
      constructor
      · intro j other hother
        change (mux.sockets.set i _)[j]? = some other at hother
        rw [getElem?_set_eq_some] at hother
        grind
      · grind [getElem?_set_eq_some]

/-- The sockets can always be closed in the end. -/
theorem Sound.close (h : Sound part mux) :
    Outcome (fun _ => True) Fault.External (redundancyMuxClose mux) := by
  have hsockets : SocketsHeld mux :=
    ⟨fun i socket hsocket => (h.sockets i socket hsocket).held, h.apart⟩
  unfold redundancyMuxClose
  exact (Outcome.foldlM (fun _ i hmux => hmux.closeOne i) _ hsockets).bind fun _ _ => trivial

theorem processStep_sound {process : Except Fault RedundancyMux} {call : Call}
    (h : Outcome (Sound part) Fault.External process) (hcall : OrderlyCall part process call) :
    Outcome (Sound part) Fault.External (processStep process call) := by
  cases process with
  | ok mux => exact Sound.step h (hcall mux rfl)
  | error fault => exact h

theorem run_sound {process : Except Fault RedundancyMux} {calls : List Call}
    (h : Outcome (Sound part) Fault.External process)
    (hcalls : RunOk processStep (OrderlyCall part) process calls) :
    Outcome (Sound part) Fault.External (run processStep process calls) :=
  run_invariant processStep (fun _ _ hprocess hcall => processStep_sound hprocess hcall) hcalls h

/-- A process with its three standard descriptors. -/
def exampleKernel : Kernel where
  descriptors := [some .other, some .other, some .other]
  limit := 8
  fits := by decide

def exampleRemote : List (Bytes × UInt16) := [([49], 8888), ([49], 8889)]

/-- The process after it has allocated two channels to the peer. -/
def exampleMux : RedundancyMux where
  channels := [transportInit [49] 8888, transportInit [49] 8889]
  sockets :=
    [{ fileDescriptor := 3, acceptEvent := { enabled := false, fd := 3 } },
      { fileDescriptor := 4, acceptEvent := { enabled := false, fd := 4 } }]
  role := .client
  kernel :=
    { descriptors := [some .other, some .other, some .other, some .created, some .created]
      limit := 8
      fits := by decide }

/-- One of two channels breaks, is reached again by the next message, and both are closed. -/
def exampleCalls : List Call :=
  [.connect fun _ => .established, .initConnection .client,
    .send (fun _ => .refused) (fun _ => true), .closed 1,
    .send (fun _ => .established) (fun _ => true), .close]

end Runs

end LibRasta.Transport
