import DecnetNsp.Wire

/-!
# The connection and the frames it receives

`Conn` is the part of `struct sock` and `struct dn_scp` that the handlers of `dn_nsp_in.c` read
or write, flat. What the handlers hand to the rest of the kernel (messages, callbacks, timers)
is returned as a list of `Event`s in the order the code makes the calls. The receive memory the
socket holds, `sk_rmem_alloc`, and its limit `sk_rcvbuf` are part of the connection, since
`dn_queue_skb` compares them and charges each queued frame's `truesize`. Everything else outside
the file that decides a branch (the socket filter, the protocol's memory scheduling, the transmit
queues) is an `Env` given with each frame, so that every theorem holds whatever it decides.
-/

namespace DecnetNsp

/-- Modelled from the spec: the connection states of §4.2, declared in `dn.h`. `O` (open),
`CR` (connect received) and `CL` (closed) are states no handler of this file enters or tests. -/
inductive DnState where
  | o | cr | dr | drc | cc | ci | nr | nc | cd | rj | run | di | dic | dn | cl | cn
  deriving DecidableEq, Repr

/-- `sk->sk_state`, the states of `tcp_states.h`. -/
inductive TcpState where
  | established | synSent | synRecv | finWait1 | finWait2 | timeWait | close | closeWait
  | lastAck | listen | closing | newSynRecv
  deriving DecidableEq, Repr

/-- `sk->sk_socket->state`. -/
inductive SocketState where
  | free | unconnected | connecting | connected | disconnecting
  deriving DecidableEq, Repr

/-- The function `scp->persist_fxn` points to: `dn_destroy_timer`, which this file installs, or
one installed by the outbound path. -/
inductive PersistFxn where
  | dnDestroyTimer | outbound
  deriving DecidableEq, Repr

/-- The bits of `cb->rt_flags`, set by the routing layer, that this file tests: `DN_RT_F_RTS`,
`DN_RT_F_IE`, and whether the packet type under `DN_RT_PKT_MSK` is `DN_RT_PKT_SHORT`. -/
structure RtFlags where
  rts : Bool
  ie : Bool
  short : Bool
  deriving DecidableEq, Repr

/-- A frame as `dn_nsp_backlog_rcv` receives it: its control block, `skb->data`, and the
`skb->truesize` its buffer was allocated with. The handlers store the segment number in
`cb->segnum` before queueing the frame. -/
structure Skb where
  nspFlags : UInt8
  rtFlags : RtFlags
  srcPort : UInt16
  dstPort : UInt16
  segnum : UInt16
  data : List UInt8
  truesize : Nat
  deriving DecidableEq, Repr

/-- `struct optdata_dn`. A byte copied from past the end of the frame it was captured from is
`none`: its value is whatever the buffer holds there. -/
structure OptdataDn where
  optStatus : UInt16
  optOptl : UInt16
  optData : Fin 16 → Option UInt8

/-- The connection. -/
structure Conn where
  state : DnState
  skState : TcpState
  sockState : SocketState
  dead : Bool
  skErr : Nat
  skShutdown : UInt8
  addrrem : UInt16
  servicesRem : UInt8
  infoRem : UInt8
  segsizeRem : UInt16
  maxWindow : Nat
  persist : Nat
  persistFxn : PersistFxn
  conntimer : Nat
  conndataIn : OptdataDn
  discdataIn : OptdataDn
  numdatRcv : UInt16
  numothRcv : UInt16
  ackrcvDat : UInt16
  ackrcvOth : UInt16
  flowremDat : UInt16
  flowremOth : UInt16
  flowremSw : UInt8
  flowlocSw : UInt8
  otherReport : Nat
  ackdelay : Nat
  nspRxtshift : Nat
  stamp : Nat
  skDrops : Nat
  skRmemAlloc : Nat
  skRcvbuf : Nat
  skReceiveQueue : List Skb
  otherReceiveQueue : List Skb
  skAckBacklog : Nat
  skMaxAckBacklog : Nat

/-- Which sequenced handler accepted a segment. -/
inductive SegKind where
  | data | otherData | linkService
  deriving DecidableEq, Repr

/-- `DN_PEND_IDLE` and `DN_PEND_SW`, the work `dn_nsp_schedule_pending` is asked for. -/
inductive Pend where
  | idle | sw
  deriving DecidableEq, Repr

/-- The calls a handler makes out of this file, in order. `accept` is not a call: it marks the
`seq_add` by which a handler accepts segment `segnum`. -/
inductive Event where
  | stateChange
  | dataReady
  | checkXmitQueue (other : Bool) (ack : UInt16)
  | sendDisc (msgflg : UInt8) (reason : UInt16)
  | returnDisc (msgflg : UInt8) (reason : UInt16)
  | sendDataAck
  | sendOthAck
  | nspOutput
  | schedulePending (what : Pend)
  | logMartian (text : String)
  | dstSet
  | accept (kind : SegKind) (segnum : UInt16)
  deriving DecidableEq, Repr

/-- A message to the peer, as opposed to a callback or timer. -/
def Event.isMessage : Event → Bool
  | .sendDisc .. | .returnDisc .. | .sendDataAck | .sendOthAck | .nspOutput => true
  | _ => false

/-- Process-wide configuration (§9): the sysctls and constants the handlers read. -/
structure Config where
  decnetLogMartians : Bool
  decnetSegbufsize : Int
  dnMaxNspDataHeader : Int
  decnetNoFcMaxCwnd : Nat
  decnetOutgoingTimer : Nat
  hz : Nat

/-- `decnet_segbufsize - (DN_MAX_NSP_DATA_HEADER + 6)`, stored in an `unsigned short`. -/
def Config.segbufSegsize (cfg : Config) : UInt16 :=
  UInt16.ofNat ((cfg.decnetSegbufsize - (cfg.dnMaxNspDataHeader + 6)) % 65536).toNat

/-- `ACKDELAY`. -/
def Config.ackdelay (cfg : Config) : Nat := 3 * cfg.hz

/-- What the collaborators of `dn_queue_skb` answer: `sk_filter` rejects the frame,
`sk_rmem_schedule` finds no memory for it, or both let it through. -/
inductive QueueVerdict where
  | filtered | noRmem | ok
  deriving DecidableEq, Repr

/-- What the collaborators outside this file decide while one frame is handled. -/
structure Env where
  queue : QueueVerdict
  checkXmitQueue : Bool → UInt16 → Bool
  persist : Nat

/-- The segment number an `accept` event records, when `p` selects its handler. -/
def acceptOf (p : SegKind → Bool) : Event → Option UInt16
  | .accept k n => if p k then some n else none
  | _ => none

/-- The segment numbers accepted by the handlers `p` selects, in order. -/
def accepted (p : SegKind → Bool) (evs : List Event) : List UInt16 := evs.filterMap (acceptOf p)

@[simp] theorem accepted_append (p : SegKind → Bool) (a b : List Event) :
    accepted p (a ++ b) = accepted p a ++ accepted p b := List.filterMap_append ..

@[simp] theorem accepted_nil (p : SegKind → Bool) : accepted p [] = [] := rfl

@[simp] theorem accepted_cons (p : SegKind → Bool) (e : Event) (evs : List Event) :
    accepted p (e :: evs) = (acceptOf p e).toList ++ accepted p evs := by
  cases h : acceptOf p e <;> simp [accepted, List.filterMap_cons, h]

end DecnetNsp
