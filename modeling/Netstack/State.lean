import Netstack.Basic
import Mathlib.Logic.Function.Basic

/-!
# Connection state and the process-wide structures

`iostate_t`, the request records, and the process-wide state the handlers share: the
two wait queues, the wait-set, the multiplexer's event table and the `rwbuf` free list.
The server state also carries the client-visible user signals of each data endpoint and a
log of the calls the server makes to the network stack and the kernel, in order. Byte
streams and resource lifetimes are stated over that log.

`iostate.c`, `request_queue.c` and the multiplexer are not among the sources; their
functions are modelled from the spec below, each under a docstring that says so.
-/

namespace Netstack

/-- A state: one `iostate_alloc`, numbered in the order of allocation.  Two states may
have their records at one address, one after the other (`Heap.addr`). -/
abbrev IosId := Nat

/-- The address of an `iostate_t` record: the `(uint64_t)ios` cookie of its wait-set
entry. -/
abbrev IosAddr := Nat

/-- Where the records of the states lie. -/
structure Heap where
  /-- the address of each state's record -/
  addr : IosId → IosAddr
  /-- the state whose record was allocated last at each address: what `(iostate_t*)cookie`
  points to -/
  owner : IosAddr → IosId
  /-- the addresses of the freed records, the most recently freed first -/
  freed : List IosAddr

/-- Before any allocation, each number is its own address. -/
def Heap.init : Heap := ⟨fun i => i, fun a => a, []⟩

/-- `malloc` of the record of state `i`.  The allocator is not among the sources; it is
modelled as a free list of records, which hands out the most recently freed address when
there is one, and otherwise `i`, which no record has had. -/
def Heap.malloc (h : Heap) (i : IosId) : Heap :=
  let a := h.freed.headD i
  ⟨Function.update h.addr i a, Function.update h.owner a i, h.freed.tail⟩

/-- `free` of the record at `a`. -/
def Heap.free (h : Heap) (a : IosAddr) : Heap := { h with freed := a :: h.freed }

def rwbufSize : Nat := 64 * 1024

/-- A pooled `rwbuf_t`: its address and the bytes stored at its start. -/
structure RwBuf where
  addr : Nat
  data : List Byte
  deriving DecidableEq, Repr

structure IOState where
  handleType : HandleType := .none
  sockfd : Int := -1
  dataH : Handle := mxHandleInvalid
  rbuf : Option RwBuf := none
  rlen : Nat := 0
  roff : Nat := 0
  wbuf : Option RwBuf := none
  wlen : Nat := 0
  woff : Nat := 0
  lastErrno : Nat := 0
  watchingSignals : Signals := mxSignalNone
  refcount : Int := 0
  readNetRead : Nat := 0
  readSocketWrite : Nat := 0
  writeSocketRead : Nat := 0
  writeNetWrite : Nat := 0
  deriving DecidableEq, Repr

/-- The RIO op-codes of the handler table, with the three internal pseudo-ops. -/
inductive Op where
  | mxrioOpen | mxrioClose | mxrioConnect | mxrioBind | mxrioListen | mxrioWrite | mxrioRead
  | ioHalfclose | ioSigconnR | ioSigconnW
  deriving DecidableEq, Repr

/-- The ops `handle_request` never answers: they are not RIO requests. -/
def Op.internal : Op → Bool
  | .mxrioRead | .mxrioWrite | .mxrioClose | .ioHalfclose | .ioSigconnR | .ioSigconnW => true
  | _ => false

/-- The part of an `mxrio_msg_t` the handlers read: the payload and the channel an
`OPEN` is answered on. -/
structure Msg where
  datalen : Nat := 0
  data : List Char := []
  handle0 : Handle := mxHandleInvalid
  deriving DecidableEq, Repr

/-- `request_pack(op, rh, msg, ios)`. -/
structure Request where
  op : Op
  ios : IosId
  msg : Msg := {}
  deriving DecidableEq, Repr

def requestPack (op : Op) (ios : IosId) : Request := { op, ios }

/-- A message of a datagram endpoint that holds at least the `mxio_socket_msg_t` header:
the header's `addr` and `addrlen` fields, and the payload that follows the header, so the
message is `MXIO_SOCKET_MSG_HEADER_SIZE + payload.length` bytes long. -/
structure DgramMsg where
  addr : List Byte
  addrlen : Nat
  payload : List Byte
  deriving DecidableEq, Repr

/-- The calls the server makes, recorded in the order it makes them. -/
inductive Call where
  /-- a handler of the table runs for this op and state -/
  | handled (op : Op) (ios : IosId)
  /-- `net_read` on the state's socket returned these bytes (none: end of stream) -/
  | netRead (ios : IosId) (bytes : List Byte)
  /-- `mx_socket_write` took these bytes into the data endpoint -/
  | socketWrite (ios : IosId) (bytes : List Byte)
  /-- `mx_socket_write(MX_SOCKET_HALF_CLOSE)` on the data endpoint -/
  | socketHalfClose (ios : IosId)
  /-- `mx_socket_read` took these bytes out of the data endpoint -/
  | socketRead (ios : IosId) (bytes : List Byte)
  /-- `net_write` accepted these bytes -/
  | netWrite (ios : IosId) (bytes : List Byte)
  /-- `mx_channel_write` put this message into the datagram endpoint -/
  | channelWrite (ios : IosId) (m : DgramMsg)
  /-- `net_sendto` was called with this payload, destination (`none`: `NULL`) and
  address length -/
  | netSendto (ios : IosId) (payload : List Byte) (addr : Option (List Byte)) (addrlen : Nat)
  | netShutdown (ios : IosId) (fd : Int)
  | netClose (ios : IosId) (fd : Int)
  /-- the backend created or accepted this socket -/
  | netSocket (fd : Int)
  | iostateAlloc (ios : IosId)
  | iostateAcquire (ios : IosId)
  | iostateRelease (ios : IosId)
  | handleCreate (h : Handle)
  | handleClose (h : Handle)
  /-- the reply to an `OPEN`, written on the channel the request named (`msg->handle[0]`):
  its status and the handles it carries -/
  | openReply (channel : Handle) (status : Status) (handles : List Handle)
  /-- `send_status`: the `STATUS` reply to any other RIO request -/
  | statusReply (op : Op) (status : Status)
  deriving DecidableEq, Repr

inductive WaitQueue where
  | net
  | socket
  deriving DecidableEq, Repr

/-- The server: every `iostate_t` ever allocated, where its record lies, the process-wide
tables, the user signals asserted on each client endpoint, and the log of calls. -/
structure Sys where
  ios : IosId → IOState
  nextIos : IosId
  heap : Heap
  waitNet : List (Int × Request)
  waitSocket : List (Int × Request)
  /-- the wait-set's entries, by cookie -/
  waitset : IosAddr → Option (Handle × Signals)
  fdEvents : Int → Events
  rwbufHead : List RwBuf
  nextBuf : Nat
  peerSignals : IosId → Signals
  nextHandle : Handle
  log : List Call

namespace Sys

def init : Sys where
  ios _ := {}
  nextIos := 1
  heap := .init
  waitNet := []
  waitSocket := []
  waitset _ := none
  fdEvents _ := eventNone
  rwbufHead := []
  nextBuf := 1
  peerSignals _ := mxSignalNone
  nextHandle := 1
  log := []

def setIos (s : Sys) (i : IosId) (st : IOState) : Sys :=
  { s with ios := Function.update s.ios i st }

def emit (s : Sys) (c : Call) : Sys := { s with log := s.log ++ [c] }

def queue (s : Sys) : WaitQueue → List (Int × Request)
  | .net => s.waitNet
  | .socket => s.waitSocket

def setQueue (s : Sys) : WaitQueue → List (Int × Request) → Sys
  | .net, l => { s with waitNet := l }
  | .socket, l => { s with waitSocket := l }

@[simp] theorem setIos_ios_self (s : Sys) (i : IosId) (st : IOState) :
    (s.setIos i st).ios i = st := Function.update_same _ _ _

@[simp] theorem setIos_ios_ne (s : Sys) {i j : IosId} (st : IOState) (h : j ≠ i) :
    (s.setIos i st).ios j = s.ios j := Function.update_noteq h _ _

@[simp] theorem setIos_self (s : Sys) (i : IosId) : s.setIos i (s.ios i) = s := by
  simp only [setIos, Function.update_eq_self]

@[simp] theorem setIos_log (s : Sys) (i : IosId) (st : IOState) :
    (s.setIos i st).log = s.log := rfl

@[simp] theorem setIos_waitNet (s : Sys) (i : IosId) (st : IOState) :
    (s.setIos i st).waitNet = s.waitNet := rfl

@[simp] theorem setIos_waitSocket (s : Sys) (i : IosId) (st : IOState) :
    (s.setIos i st).waitSocket = s.waitSocket := rfl

@[simp] theorem setIos_peerSignals (s : Sys) (i : IosId) (st : IOState) :
    (s.setIos i st).peerSignals = s.peerSignals := rfl

@[simp] theorem setIos_waitset (s : Sys) (i : IosId) (st : IOState) :
    (s.setIos i st).waitset = s.waitset := rfl

@[simp] theorem setIos_nextIos (s : Sys) (i : IosId) (st : IOState) :
    (s.setIos i st).nextIos = s.nextIos := rfl

@[simp] theorem setIos_heap (s : Sys) (i : IosId) (st : IOState) :
    (s.setIos i st).heap = s.heap := rfl

@[simp] theorem emit_log (s : Sys) (c : Call) : (s.emit c).log = s.log ++ [c] := rfl
@[simp] theorem emit_ios (s : Sys) (c : Call) : (s.emit c).ios = s.ios := rfl
@[simp] theorem emit_waitNet (s : Sys) (c : Call) : (s.emit c).waitNet = s.waitNet := rfl
@[simp] theorem emit_waitSocket (s : Sys) (c : Call) :
    (s.emit c).waitSocket = s.waitSocket := rfl
@[simp] theorem emit_peerSignals (s : Sys) (c : Call) :
    (s.emit c).peerSignals = s.peerSignals := rfl
@[simp] theorem emit_nextIos (s : Sys) (c : Call) : (s.emit c).nextIos = s.nextIos := rfl
@[simp] theorem emit_heap (s : Sys) (c : Call) : (s.emit c).heap = s.heap := rfl

end Sys

/-! ## The buffer pool -/

/-- `get_rwbuf`: pop the free list, or allocate a fresh buffer whose contents are
whatever the allocator left there. -/
def getRwbuf (s : Sys) : Sys × RwBuf :=
  match s.rwbufHead with
  | [] => ({ s with nextBuf := s.nextBuf + 1 }, ⟨s.nextBuf, []⟩)
  | b :: rest => ({ s with rwbufHead := rest }, b)

/-- `put_rwbuf`: push a buffer on the free list; `NULL` is ignored. -/
def putRwbuf (s : Sys) : Option RwBuf → Sys
  | none => s
  | some b => { s with rwbufHead := b :: s.rwbufHead }

@[simp] theorem getRwbuf_ios (s : Sys) : (getRwbuf s).1.ios = s.ios := by
  unfold getRwbuf; split <;> rfl

@[simp] theorem getRwbuf_log (s : Sys) : (getRwbuf s).1.log = s.log := by
  unfold getRwbuf; split <;> rfl

@[simp] theorem putRwbuf_log (s : Sys) (b : Option RwBuf) : (putRwbuf s b).log = s.log := by
  cases b <;> rfl

@[simp] theorem putRwbuf_ios (s : Sys) (b : Option RwBuf) : (putRwbuf s b).ios = s.ios := by
  cases b <;> rfl

@[simp] theorem putRwbuf_nextBuf (s : Sys) (b : Option RwBuf) :
    (putRwbuf s b).nextBuf = s.nextBuf := by
  cases b <;> rfl

@[simp] theorem putRwbuf_nextIos (s : Sys) (b : Option RwBuf) :
    (putRwbuf s b).nextIos = s.nextIos := by
  cases b <;> rfl

@[simp] theorem putRwbuf_heap (s : Sys) (b : Option RwBuf) : (putRwbuf s b).heap = s.heap := by
  cases b <;> rfl

@[simp] theorem putRwbuf_waitset (s : Sys) (b : Option RwBuf) :
    (putRwbuf s b).waitset = s.waitset := by
  cases b <;> rfl

/-! ## Reference counts -/

/-- Modelled from the spec: `iostate_alloc` returns a fresh record holding one
reference, with no socket (`sockfd = -1`) and no data endpoint.  The record is placed by
`Heap.malloc`. -/
def iostateAlloc (s : Sys) : Sys × IosId :=
  let i := s.nextIos
  (({ s with nextIos := i + 1, heap := s.heap.malloc i }.setIos i { refcount := 1 }).emit
    (.iostateAlloc i), i)

theorem iostateAlloc_new (s : Sys) :
    (iostateAlloc s).1.ios (iostateAlloc s).2 = { refcount := 1 } := by
  simp [iostateAlloc]

theorem iostateAlloc_ios_ne (s : Sys) {j : IosId} (h : j ≠ s.nextIos) :
    (iostateAlloc s).1.ios j = s.ios j :=
  Sys.setIos_ios_ne _ _ h

@[simp] theorem iostateAlloc_heap (s : Sys) : (iostateAlloc s).1.heap = s.heap.malloc s.nextIos :=
  rfl

@[simp] theorem iostateAlloc_waitset (s : Sys) : (iostateAlloc s).1.waitset = s.waitset := rfl

/-- A `malloc` right after a `free` takes the freed address. -/
@[simp] theorem Heap.malloc_free_addr (h : Heap) (a : IosAddr) (i : IosId) :
    ((h.free a).malloc i).addr i = a := by
  simp [Heap.malloc, Heap.free]

@[simp] theorem Heap.malloc_free_owner (h : Heap) (a : IosAddr) (i : IosId) :
    ((h.free a).malloc i).owner a = i := by
  simp [Heap.malloc, Heap.free]

/-- Modelled from the spec: `iostate_acquire` takes one more reference. -/
def iostateAcquire (s : Sys) (i : IosId) : Sys :=
  (s.setIos i { s.ios i with refcount := (s.ios i).refcount + 1 }).emit (.iostateAcquire i)

/-- Modelled from the spec: `iostate_release` drops one reference; the release that
brings the count to zero returns the record's buffers to the pool and frees the record, whose
address the next allocation may take.  The freed record keeps what it held, as freed
memory does until it is allocated again.  The count is C's `int`: a release after that one
(a state released more often than it was acquired) takes it below zero and frees nothing a
second time. -/
def iostateRelease (s : Sys) (i : IosId) : Sys :=
  let ios := s.ios i
  let s := (s.setIos i { ios with refcount := ios.refcount - 1 }).emit (.iostateRelease i)
  if ios.refcount - 1 = 0 then
    { putRwbuf (putRwbuf s ios.rbuf) ios.wbuf with heap := s.heap.free (s.heap.addr i) }
  else s

/-- The release that brings the count to zero frees the record's address. -/
theorem iostateRelease_heap_last (s : Sys) {i : IosId} (h : (s.ios i).refcount = 1) :
    (iostateRelease s i).heap = s.heap.free (s.heap.addr i) := by
  simp [iostateRelease, h]

@[simp] theorem iostateRelease_waitset (s : Sys) (i : IosId) :
    (iostateRelease s i).waitset = s.waitset := by
  dsimp only [iostateRelease]; split_ifs <;> simp only [putRwbuf_waitset, Sys.emit, Sys.setIos]

/-! ## Wait queues -/

/-- Modelled from the spec: `wait_queue_put` appends a request under a descriptor. -/
def waitQueuePut (s : Sys) (q : WaitQueue) (fd : Int) (rq : Request) : Sys :=
  s.setQueue q (s.queue q ++ [(fd, rq)])

@[simp] theorem waitQueuePut_log (s : Sys) (q : WaitQueue) (fd : Int) (rq : Request) :
    (waitQueuePut s q fd rq).log = s.log := by cases q <;> rfl

/-- Modelled from the spec: `wait_queue_discard` drops every request kept under a
descriptor. -/
def waitQueueDiscard (s : Sys) (q : WaitQueue) (fd : Int) : Sys :=
  s.setQueue q ((s.queue q).filter fun e => e.1 ≠ fd)

@[simp] theorem waitQueueDiscard_ios (s : Sys) (q : WaitQueue) (fd : Int) :
    (waitQueueDiscard s q fd).ios = s.ios := by cases q <;> rfl

@[simp] theorem waitQueueDiscard_peerSignals (s : Sys) (q : WaitQueue) (fd : Int) :
    (waitQueueDiscard s q fd).peerSignals = s.peerSignals := by cases q <;> rfl

@[simp] theorem waitQueueDiscard_nextIos (s : Sys) (q : WaitQueue) (fd : Int) :
    (waitQueueDiscard s q fd).nextIos = s.nextIos := by cases q <;> rfl

@[simp] theorem waitQueueDiscard_net_waitNet (s : Sys) (fd : Int) :
    (waitQueueDiscard s .net fd).waitNet = s.waitNet.filter fun e => e.1 ≠ fd := rfl

@[simp] theorem waitQueueDiscard_socket_waitNet (s : Sys) (fd : Int) :
    (waitQueueDiscard s .socket fd).waitNet = s.waitNet := rfl

/-- Modelled from the spec: `wait_queue_swap` detaches the requests kept under a
descriptor, in their order. -/
def waitQueueSwap (s : Sys) (q : WaitQueue) (fd : Int) : Sys × List Request :=
  (s.setQueue q ((s.queue q).filter fun e => e.1 ≠ fd),
    ((s.queue q).filter fun e => e.1 = fd).map Prod.snd)

@[simp] theorem waitQueueSwap_ios (s : Sys) (q : WaitQueue) (fd : Int) :
    (waitQueueSwap s q fd).1.ios = s.ios := by cases q <;> rfl

@[simp] theorem waitQueueSwap_peerSignals (s : Sys) (q : WaitQueue) (fd : Int) :
    (waitQueueSwap s q fd).1.peerSignals = s.peerSignals := by cases q <;> rfl

@[simp] theorem waitQueueSwap_nextIos (s : Sys) (q : WaitQueue) (fd : Int) :
    (waitQueueSwap s q fd).1.nextIos = s.nextIos := by cases q <;> rfl

@[simp] theorem waitQueueSwap_net_waitNet (s : Sys) (fd : Int) :
    (waitQueueSwap s .net fd).1.waitNet = s.waitNet.filter fun e => e.1 ≠ fd := rfl

@[simp] theorem waitQueueSwap_net_snd (s : Sys) (fd : Int) :
    (waitQueueSwap s .net fd).2 = (s.waitNet.filter fun e => e.1 = fd).map Prod.snd := rfl

/-! ## The multiplexer's event table -/

/-- Modelled from the spec: `fd_event_set` adds events to a descriptor's mask. -/
def fdEventSet (s : Sys) (fd : Int) (ev : Events) : Sys :=
  let e := s.fdEvents fd
  { s with fdEvents :=
      Function.update s.fdEvents fd ⟨e.read || ev.read, e.write || ev.write, e.except || ev.except⟩ }

/-- Modelled from the spec: `fd_event_clear` removes events from a descriptor's mask. -/
def fdEventClear (s : Sys) (fd : Int) (ev : Events) : Sys :=
  let e := s.fdEvents fd
  { s with fdEvents :=
      Function.update s.fdEvents fd ⟨e.read && !ev.read, e.write && !ev.write, e.except && !ev.except⟩ }

@[simp] theorem fdEventSet_ios (s : Sys) (fd : Int) (ev : Events) :
    (fdEventSet s fd ev).ios = s.ios := rfl
@[simp] theorem fdEventSet_log (s : Sys) (fd : Int) (ev : Events) :
    (fdEventSet s fd ev).log = s.log := rfl
@[simp] theorem fdEventClear_ios (s : Sys) (fd : Int) (ev : Events) :
    (fdEventClear s fd ev).ios = s.ios := rfl
@[simp] theorem fdEventClear_waitNet (s : Sys) (fd : Int) (ev : Events) :
    (fdEventClear s fd ev).waitNet = s.waitNet := rfl
@[simp] theorem fdEventClear_peerSignals (s : Sys) (fd : Int) (ev : Events) :
    (fdEventClear s fd ev).peerSignals = s.peerSignals := rfl
@[simp] theorem fdEventClear_nextIos (s : Sys) (fd : Int) (ev : Events) :
    (fdEventClear s fd ev).nextIos = s.nextIos := rfl

end Netstack
