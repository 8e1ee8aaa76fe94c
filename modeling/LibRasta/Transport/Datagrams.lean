/-
Module: LibRasta/Transport/Datagrams.lean
source: src/c/transport/udp.c, src/c/transport/udp_base.c, src/c/transport/events.c, src/c/redundancy/rasta_redundancy_channel.c, src/c/redundancy/rasta_red_multiplexer.c
digest: The UDP transport channels of a connection: the sockets they share, the datagrams that mark them connected or broken, and the calls that use and close them.
-/

import LibRasta.Transport.Channels

set_option autoImplicit false
set_option relaxedAutoImplicit false

namespace LibRasta.Transport.Udp

open LibRasta.Lib
open LibRasta.Util
open LibRasta.Retransmission (RastaRole)

/-- `rasta_transport_socket` over UDP; its `id` is its place. -/
structure TransportSocket where
  fileDescriptor : ℤ
  receiveEvent : FdEvent
deriving DecidableEq, Repr

/-- The same as over TCP, with UDP sockets. The receive events of the channels stay disabled. -/
structure RedundancyMux where
  channels : List TransportChannel
  sockets : List TransportSocket
  role : RastaRole
  kernel : Kernel
deriving DecidableEq

/-- How the process can end in these calls. -/
inductive Fault where
  | transport (fault : Transport.Fault)
  -- `abort` after `recvfrom`
  | receive
deriving DecidableEq, Repr

/-- What becomes of a datagram for the peer of a channel. -/
inductive Sendto where
  -- its address is none
  | invalid
  | refused
  | accepted
deriving DecidableEq, Repr

section Translation

/-- `transport_create_socket`. -/
def transportCreateSocket (mux : RedundancyMux) : Except Fault RedundancyMux := do
  let (kernel, fd) ← (bsdCreateSocket mux.kernel).mapError .transport
  let socket := { fileDescriptor := fd, receiveEvent := { enabled := false, fd := fd } }
  pure { mux with kernel := kernel, sockets := mux.sockets ++ [socket] }

/-- The transport part of `redundancy_mux_allocate_channels` and `redundancy_channel_alloc`. -/
def redundancyMuxAllocateChannels (kernel : Kernel) (portCount : ℕ)
    (remote : List (Bytes × UInt16)) : Except Fault RedundancyMux := do
  let start : RedundancyMux := { channels := [], sockets := [], role := .client, kernel := kernel }
  let mux ← (List.range portCount).foldlM (fun mux _ => transportCreateSocket mux) start
  if remote.length = portCount then
    pure { mux with channels := remote.map fun address => transportInit address.1 address.2 }
  else .error (.transport .assertion)

/-- `transport_listen` on socket `i`. -/
def transportListen (mux : RedundancyMux) (i : ℕ) : Except Fault RedundancyMux :=
  match mux.sockets[i]? with
  | none => .error (.transport .pointer)
  | some socket =>
    .ok { mux with
      sockets := mux.sockets.set i
        { socket with receiveEvent := enableFdEvent socket.receiveEvent } }

/-- `redundancy_mux_listen_channels`. -/
def redundancyMuxListenChannels (mux : RedundancyMux) : Except Fault RedundancyMux :=
  (List.range mux.sockets.length).foldlM transportListen mux

/-- `transport_connect` of channel `c` over socket `i`. -/
def transportConnect (mux : RedundancyMux) (i c : ℕ) : Except Fault RedundancyMux :=
  match mux.sockets[i]?, mux.channels[c]? with
  | some socket, some channel =>
    .ok { mux with
      sockets := mux.sockets.set i
        { socket with receiveEvent := enableFdEvent socket.receiveEvent }
      channels := mux.channels.set c
        { channel with
          fileDescriptor := socket.fileDescriptor
          associatedSocket := some i
          connected := true } }
  | _, _ => .error (.transport .pointer)

/-- `redundancy_channel_connect`, up to its result. -/
def redundancyChannelConnect (mux : RedundancyMux) : Except Fault RedundancyMux :=
  (List.range mux.channels.length).foldlM (fun mux c => transportConnect mux c c) mux

/-- Whether `transport_redial` succeeds: it never does. -/
def transportRedial (_channel : TransportChannel) : Bool := false

/-- `udp_send`, through `bsd_send`, where `sent` is what the network makes of it. -/
def udpSend (kernel : Kernel) (channel : TransportChannel) (sent : Sendto) : Except Fault Unit :=
  match sent with
  | .invalid => .error (.transport .inetAton)
  | .refused =>
    .error (.transport (.send (kernel.descriptor channel.fileDescriptor = some .created)))
  | .accepted =>
    if kernel.descriptor channel.fileDescriptor = some .created then .ok ()
    else .error (.transport (.send false))

/-- One pass of the loop of `redundancy_mux_send`, with the channels the PDU was sent on so far. -/
def sendOnChannel (mux : RedundancyMux) (sent : ℕ → Sendto) (done : List ℕ) (c : ℕ) :
    Except Fault (List ℕ) :=
  match mux.channels[c]? with
  | none => .error (.transport .pointer)
  | some channel =>
    if channel.connected ∨ (mux.role = .client ∧ transportRedial channel) then do
      udpSend mux.kernel channel (sent c)
      pure (done ++ [c])
    else pure done

/-- The loop of `redundancy_mux_send` over the transport channels. -/
def sendOnChannels (mux : RedundancyMux) (sent : ℕ → Sendto) : Except Fault (List ℕ) :=
  (List.range mux.channels.length).foldlM (sendOnChannel mux sent) []

/-- `transport_close_channel`. -/
def transportCloseChannel (channel : TransportChannel) : TransportChannel := channel

/-- One pass of the loop of `redundancy_channel_close`. -/
def closeOneChannel (mux : RedundancyMux) (c : ℕ) : Except Fault RedundancyMux :=
  match mux.channels[c]?.map transportCloseChannel with
  | none => .error (.transport .pointer)
  | some channel =>
    if channel.connected = false ∧ mux.role = .client then
      match channel.associatedSocket with
      | none => .error (.transport .pointer)
      | some i =>
        .ok { mux with
          sockets := mux.sockets.modify i fun socket => { socket with fileDescriptor := -1 } }
    else .ok mux

/-- `redundancy_channel_close`. -/
def redundancyChannelClose (mux : RedundancyMux) : Except Fault RedundancyMux :=
  (List.range mux.channels.length).foldlM closeOneChannel mux

/-- `find_channel_by_ip_address`, which looks at the channels only. -/
def findChannelByIpAddress (mux : RedundancyMux) (sender : Bytes × UInt16) : Option ℕ :=
  Transport.findChannelByIpAddress
    { channels := mux.channels, sockets := [], role := mux.role, kernel := mux.kernel }
    sender.1 sender.2

/-- `handle_closed_transport`, as far as the transport channels go. -/
def handleClosedTransport (mux : RedundancyMux) : Except Fault RedundancyMux :=
  if mux.channels.any TransportChannel.connected then .ok mux else redundancyChannelClose mux

/-- The channel after a datagram of its peer was read from a descriptor. -/
def heard (fd : ℤ) (channel : TransportChannel) : TransportChannel :=
  { channel with fileDescriptor := fd, connected := true }

/-- `channel_receive_event` of socket `i`, for a datagram of the given sender and length, up to
`receive_packet`. A length of zero counts as a broken connection. -/
def channelReceiveEvent (mux : RedundancyMux) (i : ℕ) (sender : Bytes × UInt16) (len : ℕ) :
    Except Fault RedundancyMux :=
  match mux.sockets[i]? with
  | none => .error (.transport .pointer)
  | some socket =>
    if mux.kernel.descriptor socket.fileDescriptor = some .created then
      match findChannelByIpAddress mux sender with
      | none => .ok mux
      | some c =>
        if len = 0 then
          handleClosedTransport { mux with
            channels := mux.channels.modify c fun channel =>
              { heard socket.fileDescriptor channel with connected := false }
            sockets := mux.sockets.set i
              { socket with receiveEvent := disableFdEvent socket.receiveEvent } }
        else .ok { mux with channels := mux.channels.modify c (heard socket.fileDescriptor) }
    else .error .receive

/-- `transport_close_socket` on socket `i`. -/
def transportCloseSocket (mux : RedundancyMux) (i : ℕ) : Except Fault RedundancyMux :=
  match mux.sockets[i]? with
  | none => .error (.transport .pointer)
  | some socket => do
    let kernel ← (bsdClose mux.kernel socket.fileDescriptor).mapError .transport
    pure { mux with
      kernel := kernel
      sockets := mux.sockets.set i
        { fileDescriptor := -1, receiveEvent := disableFdEvent socket.receiveEvent } }

/-- `redundancy_mux_close`, which frees the sockets and the channels in the end. -/
def redundancyMuxClose (mux : RedundancyMux) : Except Fault RedundancyMux := do
  let mux ← (List.range mux.sockets.length).foldlM transportCloseSocket mux
  pure { mux with sockets := [], channels := [] }

end Translation

section Runs

/-- What can happen to the transport channels. -/
inductive Call where
  | listen
  | connect
  -- a datagram waits at a socket
  | receive (i : ℕ) (sender : Bytes × UInt16) (len : ℕ)
  | send (sent : ℕ → Sendto)
  | close
  -- `sr_init_connection`
  | initConnection (role : RastaRole)

/-- A datagram at socket `i` is reported. -/
def RedundancyMux.reported (mux : RedundancyMux) (i : ℕ) : Bool :=
  mux.sockets[i]?.any fun socket => socket.receiveEvent.reported mux.kernel .created

/-- One call. Nothing is reported for events that are not enabled. -/
def transportStep (mux : RedundancyMux) : Call → Except Fault RedundancyMux
  | .listen => redundancyMuxListenChannels mux
  | .connect => redundancyChannelConnect mux
  | .receive i sender len =>
    if mux.reported i then channelReceiveEvent mux i sender len else .ok mux
  | .send sent => (sendOnChannels mux sent).map fun _ => mux
  | .close => redundancyChannelClose mux
  | .initConnection role => .ok { mux with role := role }

/-- The process goes on until a call ends it. -/
def processStep (process : Except Fault RedundancyMux) (call : Call) : Except Fault RedundancyMux :=
  process >>= fun mux => transportStep mux call

end Runs

end LibRasta.Transport.Udp
