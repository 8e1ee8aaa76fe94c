/-
Module: LibRasta/Transport/Channels.lean
source: src/c/transport/tcp.c, src/c/transport/tcp_base.c, src/c/transport/transport.c, src/c/transport/bsd_utils.c, src/c/transport/events.c, src/c/redundancy/rasta_redundancy_channel.c, src/c/redundancy/rasta_red_multiplexer.c
digest: The TCP transport channels of a connection with the descriptors they hold, and the calls that open, use and close them.
-/

import LibRasta.Lib.Handles
import LibRasta.Lib.Runs
import LibRasta.Retransmission.Connection

set_option autoImplicit false
set_option relaxedAutoImplicit false

namespace LibRasta.Transport

open LibRasta.Lib
open LibRasta.Util
open LibRasta.Retransmission (RastaRole)

section Kernel

/-- What a descriptor of the process stands for. -/
inductive Descriptor where
  -- a socket after `socket`, and a TCP socket after `listen` and with a peer
  | created
  | listening
  | connected
  -- anything else
  | other
deriving DecidableEq, Repr

/-- The descriptors of the process, no more than the system lets it have. -/
structure Kernel where
  descriptors : Handles Descriptor
  limit : ℕ
  fits : descriptors.length ≤ limit
deriving DecidableEq

/-- What a value of type `int` stands for when it is taken for a descriptor. -/
def Kernel.descriptor (kernel : Kernel) : ℤ → Option Descriptor
  | .ofNat fd => kernel.descriptors.lookup fd
  | .negSucc _ => none

/-- A new descriptor, the lowest one that is free; none if there are too many. -/
def Kernel.open_ (kernel : Kernel) (descriptor : Descriptor) : Option (Kernel × ℤ) :=
  if h : kernel.descriptors.lowest < kernel.limit then
    some ({ descriptors := kernel.descriptors.give descriptor
            limit := kernel.limit
            fits := Handles.length_give_le kernel.fits h },
      (kernel.descriptors.lowest : ℤ))
  else none

def Kernel.become (kernel : Kernel) (fd : ℤ) (descriptor : Descriptor) : Kernel where
  descriptors := kernel.descriptors.change fd.toNat descriptor
  limit := kernel.limit
  fits := Handles.length_change.trans_le kernel.fits

/-- `close` on an open descriptor. -/
def Kernel.close (kernel : Kernel) (fd : ℤ) : Kernel where
  descriptors := kernel.descriptors.release fd.toNat
  limit := kernel.limit
  fits := Handles.length_release.trans_le kernel.fits

end Kernel

/-- `fd_event`, less its callback, its options and its list links. -/
structure FdEvent where
  enabled : Bool
  fd : ℤ
deriving DecidableEq, Repr

/-- `rasta_transport_channel`; its `id` is its place. -/
structure TransportChannel where
  connected : Bool
  receiveEvent : FdEvent
  remoteIpAddress : Bytes
  remotePort : UInt16
  fileDescriptor : ℤ
  -- the place of the socket; nothing stands for `NULL`
  associatedSocket : Option ℕ
deriving DecidableEq, Repr

/-- `rasta_transport_socket`; its `id` is its place. -/
structure TransportSocket where
  fileDescriptor : ℤ
  acceptEvent : FdEvent
deriving DecidableEq, Repr

/-- The transport channels of the redundancy channel, the sockets of its multiplexer, the role of
the connection, and the descriptors of the process. -/
structure RedundancyMux where
  channels : List TransportChannel
  sockets : List TransportSocket
  role : RastaRole
  kernel : Kernel
deriving DecidableEq

/-- How the process can end in these calls. -/
inductive Fault where
  -- `abort` after `socket`, `inet_aton`, `listen`, or a failed `assert`
  | socket
  | inetAton
  | listen
  | assertion
  -- `abort` after `accept` or `send`, on a socket in the right state or not
  | accept (listening : Bool)
  | send (connected : Bool)
  -- `abort` after `close`: the descriptor was not open
  | close
  -- a pointer to a socket that is `NULL`, or points behind the sockets
  | pointer
deriving DecidableEq, Repr

/-- What becomes of an attempt to reach the peer of a channel. -/
inductive Dial where
  -- its address is none
  | invalid
  | refused
  | established
deriving DecidableEq, Repr

section Translation

/-- `bsd_create_socket`. -/
def bsdCreateSocket (kernel : Kernel) : Except Fault (Kernel × ℤ) :=
  match kernel.open_ .created with
  | some opened => .ok opened
  | none => .error .socket

/-- `bsd_close`. -/
def bsdClose (kernel : Kernel) (fd : ℤ) : Except Fault Kernel :=
  if 0 ≤ fd then
    if kernel.descriptor fd = none then .error .close else .ok (kernel.close fd)
  else .ok kernel

def disableFdEvent (event : FdEvent) : FdEvent := { event with enabled := false }

def enableFdEvent (event : FdEvent) : FdEvent := { event with enabled := true }

/-- `transport_create_socket`. -/
def transportCreateSocket (mux : RedundancyMux) : Except Fault RedundancyMux := do
  let (kernel, fd) ← bsdCreateSocket mux.kernel
  let socket := { fileDescriptor := fd, acceptEvent := { enabled := false, fd := fd } }
  pure { mux with kernel := kernel, sockets := mux.sockets ++ [socket] }

/-- `transport_init` on a zeroed channel. -/
def transportInit (host : Bytes) (port : UInt16) : TransportChannel where
  connected := false
  receiveEvent := { enabled := false, fd := 0 }
  remoteIpAddress := host.take 15
  remotePort := port
  fileDescriptor := 0
  associatedSocket := none

/-- The transport part of `redundancy_mux_allocate_channels` and `redundancy_channel_alloc`, for a
number of local addresses and the remote ones. The role of a zeroed connection is the client. -/
def redundancyMuxAllocateChannels (kernel : Kernel) (portCount : ℕ)
    (remote : List (Bytes × UInt16)) : Except Fault RedundancyMux := do
  let start : RedundancyMux := { channels := [], sockets := [], role := .client, kernel := kernel }
  let mux ← (List.range portCount).foldlM (fun mux _ => transportCreateSocket mux) start
  if remote.length = portCount then
    pure { mux with channels := remote.map fun address => transportInit address.1 address.2 }
  else .error .assertion

/-- `transport_listen` on socket `i`. -/
def transportListen (mux : RedundancyMux) (i : ℕ) : Except Fault RedundancyMux :=
  match mux.sockets[i]? with
  | none => .error .pointer
  | some socket =>
    match mux.kernel.descriptor socket.fileDescriptor with
    | some .created | some .listening =>
      .ok { mux with
        kernel := mux.kernel.become socket.fileDescriptor .listening
        sockets := mux.sockets.set i
          { socket with acceptEvent := enableFdEvent socket.acceptEvent } }
    | _ => .error .listen

/-- `redundancy_mux_listen_channels`. -/
def redundancyMuxListenChannels (mux : RedundancyMux) : Except Fault RedundancyMux :=
  (List.range mux.sockets.length).foldlM transportListen mux

/-- `tcp_connect`: `connect` needs a socket that has no peer and does not listen. -/
def tcpConnect (kernel : Kernel) (channel : TransportChannel) (dial : Dial) :
    Except Fault (Kernel × TransportChannel) :=
  match dial with
  | .invalid => .error .inetAton
  | .refused => .ok (kernel, { channel with connected := false })
  | .established =>
    if kernel.descriptor channel.fileDescriptor = some .created then
      .ok (kernel.become channel.fileDescriptor .connected, { channel with connected := true })
    else .ok (kernel, { channel with connected := false })

/-- `transport_connect` of channel `c` over socket `i`. -/
def transportConnect (mux : RedundancyMux) (i c : ℕ) (dial : Dial) : Except Fault RedundancyMux :=
  match mux.sockets[i]?, mux.channels[c]? with
  | some socket, some channel => do
    let channel :=
      { channel with fileDescriptor := socket.fileDescriptor, associatedSocket := some i }
    let (kernel, channel) ← tcpConnect mux.kernel channel dial
    let channel :=
      if channel.connected then
        { channel with receiveEvent := { enabled := true, fd := channel.fileDescriptor } }
      else channel
    pure { mux with kernel := kernel, channels := mux.channels.set c channel }
  | _, _ => .error .pointer

/-- Whether channel `c` is connected. -/
def RedundancyMux.isConnected (mux : RedundancyMux) (c : ℕ) : Bool :=
  (mux.channels[c]?.map TransportChannel.connected).getD false

/-- `redundancy_channel_connect`, up to its result: it succeeds if a channel is connected. -/
def redundancyChannelConnect (mux : RedundancyMux) (dials : ℕ → Dial) :
    Except Fault RedundancyMux :=
  (List.range mux.channels.length).foldlM (fun mux c => transportConnect mux c c (dials c)) mux

/-- `transport_redial`. What `bind` returns is not looked at. -/
def transportRedial (mux : RedundancyMux) (c : ℕ) (dial : Dial) : Except Fault RedundancyMux :=
  match mux.channels[c]?.bind TransportChannel.associatedSocket with
  | none => .error .pointer
  | some i =>
    match mux.sockets[i]? with
    | none => .error .pointer
    | some socket => do
      let (kernel, fd) ← bsdCreateSocket mux.kernel
      let dialed := { mux with
        kernel := kernel
        sockets := mux.sockets.set i { socket with fileDescriptor := fd } }
      let mux ← transportConnect dialed i c dial
      pure (if mux.isConnected c then
          { mux with
            sockets := mux.sockets.modify i fun socket =>
              { socket with acceptEvent := { socket.acceptEvent with fd := fd } } }
        else mux)

/-- `tcp_send`, where `sent` is what the network makes of it. -/
def tcpSend (kernel : Kernel) (channel : TransportChannel) (sent : Bool) : Except Fault Unit :=
  if kernel.descriptor channel.fileDescriptor = some .connected then
    if sent then .ok () else .error (.send true)
  else .error (.send false)

/-- The attempt of `redundancy_mux_send` to connect a channel that is not. -/
def reconnect (dials : ℕ → Dial) (mux : RedundancyMux) (c : ℕ) : Except Fault RedundancyMux :=
  if mux.isConnected c then .ok mux
  else if mux.role = .client then transportRedial mux c (dials c)
  else .ok mux

/-- One pass of the loop of `redundancy_mux_send`, with the channels the PDU was sent on so far. -/
def sendOnChannel (dials : ℕ → Dial) (sent : ℕ → Bool) (s : RedundancyMux × List ℕ) (c : ℕ) :
    Except Fault (RedundancyMux × List ℕ) := do
  let mux ← reconnect dials s.1 c
  match mux.channels[c]? with
  | none => pure (mux, s.2)
  | some channel =>
    if channel.connected then do
      tcpSend mux.kernel channel (sent c)
      pure (mux, s.2 ++ [c])
    else pure (mux, s.2)

/-- The loop of `redundancy_mux_send` over the transport channels. -/
def sendOnChannels (mux : RedundancyMux) (dials : ℕ → Dial) (sent : ℕ → Bool) :
    Except Fault (RedundancyMux × List ℕ) :=
  (List.range mux.channels.length).foldlM (sendOnChannel dials sent) (mux, [])

/-- `transport_close_channel`. -/
def transportCloseChannel (kernel : Kernel) (channel : TransportChannel) :
    Except Fault (Kernel × TransportChannel) := do
  let (kernel, channel) ←
    if channel.connected then do
      let kernel ← bsdClose kernel channel.fileDescriptor
      pure (kernel, { channel with fileDescriptor := -1, connected := false })
    else pure (kernel, channel)
  pure (kernel, { channel with receiveEvent := disableFdEvent channel.receiveEvent })

/-- One pass of the loop of `redundancy_channel_close`. -/
def closeOneChannel (mux : RedundancyMux) (c : ℕ) : Except Fault RedundancyMux :=
  match mux.channels[c]? with
  | none => .error .pointer
  | some channel => do
    let (kernel, channel) ← transportCloseChannel mux.kernel channel
    let mux := { mux with kernel := kernel, channels := mux.channels.set c channel }
    if channel.connected = false ∧ mux.role = .client then
      match channel.associatedSocket with
      | none => .error .pointer
      | some i =>
        pure { mux with
          sockets := mux.sockets.modify i fun socket => { socket with fileDescriptor := -1 } }
    else pure mux

/-- `redundancy_channel_close`. -/
def redundancyChannelClose (mux : RedundancyMux) : Except Fault RedundancyMux :=
  (List.range mux.channels.length).foldlM closeOneChannel mux

/-- `find_channel_by_ip_address`. -/
def findChannelByIpAddress (mux : RedundancyMux) (ipAddr : Bytes) (port : UInt16) : Option ℕ :=
  mux.channels.findIdx? fun channel =>
    strncmpSign 16 channel.remoteIpAddress ipAddr = 0 ∧ channel.remotePort = port

/-- `channel_accept_event` of socket `i`, for the peer `getpeername` finds. -/
def channelAcceptEvent (mux : RedundancyMux) (i : ℕ) (peer : Option (Bytes × UInt16)) :
    Except Fault RedundancyMux :=
  match mux.sockets[i]? with
  | none => .error .pointer
  | some socket =>
    if mux.kernel.descriptor socket.fileDescriptor = some .listening then
      match mux.kernel.open_ .connected, peer with
      | some (kernel, fd), some (ipAddr, port) =>
        match findChannelByIpAddress mux ipAddr port with
        | some c =>
          .ok { mux with
            kernel := kernel
            channels := mux.channels.modify c fun channel =>
              { channel with
                fileDescriptor := fd
                receiveEvent := { enabled := true, fd := fd }
                connected := true
                associatedSocket := some i } }
        | none => .ok { mux with kernel := kernel.close fd }
      | _, _ => .error (.accept true)
    else .error (.accept false)

/-- `handle_closed_transport`, as far as the transport channels go: `sr_closed_connection` closes
them all once none is connected. -/
def handleClosedTransport (mux : RedundancyMux) : Except Fault RedundancyMux :=
  if mux.channels.any TransportChannel.connected then .ok mux else redundancyChannelClose mux

/-- The end of a broken channel in `channel_receive_event`. -/
def channelClosedEvent (mux : RedundancyMux) (c : ℕ) : Except Fault RedundancyMux :=
  handleClosedTransport { mux with
    channels := mux.channels.modify c fun channel =>
      { channel with
        connected := false
        receiveEvent := disableFdEvent channel.receiveEvent } }

/-- `transport_close_socket` on socket `i`. -/
def transportCloseSocket (mux : RedundancyMux) (i : ℕ) : Except Fault RedundancyMux :=
  match mux.sockets[i]? with
  | none => .error .pointer
  | some socket => do
    let kernel ←
      if socket.fileDescriptor ≠ -1 then bsdClose mux.kernel socket.fileDescriptor
      else pure mux.kernel
    pure { mux with
      kernel := kernel
      sockets := mux.sockets.set i
        { fileDescriptor := -1, acceptEvent := disableFdEvent socket.acceptEvent } }

/-- `redundancy_mux_close`, which frees the sockets and the channels in the end. -/
def redundancyMuxClose (mux : RedundancyMux) : Except Fault RedundancyMux := do
  let mux ← (List.range mux.sockets.length).foldlM transportCloseSocket mux
  pure { mux with sockets := [], channels := [] }

end Translation

section Runs

/-- What can happen to the transport channels. -/
inductive Call where
  | listen
  | connect (dials : ℕ → Dial)
  -- a socket is reported to be readable
  | accept (i : ℕ) (peer : Option (Bytes × UInt16))
  -- a channel is reported to be readable, and reading it fails
  | closed (c : ℕ)
  | send (dials : ℕ → Dial) (sent : ℕ → Bool)
  | close
  -- `sr_init_connection`
  | initConnection (role : RastaRole)

/-- The event is enabled, and its descriptor is one that can be readable. -/
def FdEvent.reported (event : FdEvent) (kernel : Kernel) (descriptor : Descriptor) : Bool :=
  event.enabled && decide (kernel.descriptor event.fd = some descriptor)

/-- One call. Nothing is reported for events that are not enabled. -/
def transportStep (mux : RedundancyMux) : Call → Except Fault RedundancyMux
  | .listen => redundancyMuxListenChannels mux
  | .connect dials => redundancyChannelConnect mux dials
  | .accept i peer =>
    if mux.sockets[i]?.any fun socket => socket.acceptEvent.reported mux.kernel .listening then
      channelAcceptEvent mux i peer
    else .ok mux
  | .closed c =>
    if mux.channels[c]?.any fun channel => channel.receiveEvent.reported mux.kernel .connected then
      channelClosedEvent mux c
    else .ok mux
  | .send dials sent => (sendOnChannels mux dials sent).map Prod.fst
  | .close => redundancyChannelClose mux
  | .initConnection role => .ok { mux with role := role }

/-- The process goes on until a call ends it. -/
def processStep (process : Except Fault RedundancyMux) (call : Call) : Except Fault RedundancyMux :=
  process >>= fun mux => transportStep mux call

end Runs

end LibRasta.Transport
