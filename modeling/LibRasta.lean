import LibRasta.Experimental.Authentication
import LibRasta.Experimental.ContextAgreement
import LibRasta.Experimental.KeyExchange
import LibRasta.Experimental.SessionKeys
import LibRasta.Extraction
import LibRasta.Factory
import LibRasta.Lib.Blocks
import LibRasta.Lib.Confinement
import LibRasta.Lib.Crc
import LibRasta.Lib.Cutting
import LibRasta.Lib.Handles
import LibRasta.Lib.LinkedList
import LibRasta.Lib.LittleEndian
import LibRasta.Lib.Lockstep
import LibRasta.Lib.Minimum
import LibRasta.Lib.Outcomes
import LibRasta.Lib.Renumbering
import LibRasta.Lib.Runs
import LibRasta.Lib.Serial
import LibRasta.Lib.Simulation
import LibRasta.Lib.Slots
import LibRasta.Redundancy.BurstErrors
import LibRasta.Redundancy.Channel
import LibRasta.Redundancy.DeferTimeout
import LibRasta.Redundancy.Dispatch
import LibRasta.Redundancy.ExactlyOnce
import LibRasta.Redundancy.Framing
import LibRasta.Redundancy.HashingContext
import LibRasta.Redundancy.Pdu
import LibRasta.Redundancy.Progress
import LibRasta.Redundancy.QueueInvariant
import LibRasta.Redundancy.ReceiveSafety
import LibRasta.Redundancy.RoundTrip
import LibRasta.Redundancy.SafetyCode
import LibRasta.Redundancy.SafetyDigest
import LibRasta.Redundancy.Segmentation
import LibRasta.Redundancy.Stack
import LibRasta.Redundancy.StackDelivery
import LibRasta.Redundancy.StackProgress
import LibRasta.Redundancy.StackRefinement
import LibRasta.Redundancy.Transmission
import LibRasta.Redundancy.TransportDiagnostics
import LibRasta.Redundancy.WrapAround
import LibRasta.Retransmission.Absorption
import LibRasta.Retransmission.Acknowledgement
import LibRasta.Retransmission.Admission
import LibRasta.Retransmission.Alike
import LibRasta.Retransmission.Backpressure
import LibRasta.Retransmission.Checks
import LibRasta.Retransmission.Closing
import LibRasta.Retransmission.Confirmation
import LibRasta.Retransmission.Connection
import LibRasta.Retransmission.Constants
import LibRasta.Retransmission.Control
import LibRasta.Retransmission.Conveyance
import LibRasta.Retransmission.Delivery
import LibRasta.Retransmission.Diagnostics
import LibRasta.Retransmission.Emission
import LibRasta.Retransmission.EndToEnd
import LibRasta.Retransmission.EventSystem
import LibRasta.Retransmission.Events
import LibRasta.Retransmission.Greeting
import LibRasta.Retransmission.Handlers
import LibRasta.Retransmission.Handshake
import LibRasta.Retransmission.Idle
import LibRasta.Retransmission.Isolation
import LibRasta.Retransmission.Lockstep
import LibRasta.Retransmission.LossFree
import LibRasta.Retransmission.Messages
import LibRasta.Retransmission.Numbering
import LibRasta.Retransmission.Pace
import LibRasta.Retransmission.PduSize
import LibRasta.Retransmission.Pipeline
import LibRasta.Retransmission.ReceiveQueue
import LibRasta.Retransmission.Rejection
import LibRasta.Retransmission.Removal
import LibRasta.Retransmission.Resending
import LibRasta.Retransmission.Running
import LibRasta.Retransmission.SafetyRetransmission
import LibRasta.Retransmission.Session
import LibRasta.Retransmission.Subsequence
import LibRasta.Retransmission.Timeliness
import LibRasta.Retransmission.Transitions
import LibRasta.Transport.Channels
import LibRasta.Transport.Descriptors
import LibRasta.Transport.Hangup
import LibRasta.Transport.Sending
import LibRasta.Util.Blake2
import LibRasta.Util.Crc
import LibRasta.Util.CrcSerial
import LibRasta.Util.DeferQueue
import LibRasta.Util.DeferQueueBag
import LibRasta.Util.DeferQueueOrder
import LibRasta.Util.Digests
import LibRasta.Util.ErrorVariable
import LibRasta.Util.EventLists
import LibRasta.Util.Fifo
import LibRasta.Util.FifoNodes
import LibRasta.Util.Hashing
import LibRasta.Util.Md4
import LibRasta.Util.Module
import LibRasta.Util.Packet
import LibRasta.Transport.DatagramRuns
