import Netstack.Dispatch

/-!
# The server as a state machine

Each step of the server is one entry into `handle_request`'s callers: a RIO message on a
state's channel, a socket becoming ready, a round of wait-set results, or the client
closing a RIO channel.  The network stack and the kernel answer every call of a step as
the step's environment says, so a run is any sequence of steps with any answers.

The runs at the end of the module show defects of the handlers. Each one is a short client
session, replayed and checked by evaluation.
-/

namespace Netstack

/-- What can happen next: a RIO message arrives on a state's channel (`0` is the root
channel the service is opened on), a socket becomes ready, the wait-set reports
entries by their cookies, or the client closes a RIO channel. -/
inductive Action where
  | rio (i : IosId) (op : Op) (msg : Msg) (e : Env)
  | netReady (fd : Int) (e : Env)
  | watcher (results : List (IosAddr × Signals)) (e : Env)
  | rioPeerClosed (i : IosId)

/-- Modelled from the spec for the RIO dispatcher: a message is handed to
`handle_request`, and a closed channel gives up the reference the dispatcher holds. -/
def step (s : Sys) : Action → Sys
  | .rio i op msg e => handleRequest e ⟨op, i, msg⟩ mxSignalNone s
  | .netReady fd e => netReady e fd s
  | .watcher results e => handleWatcherScheduleRequest e results s
  | .rioPeerClosed i => iostateRelease s i

def run (s : Sys) (acts : List Action) : Sys := acts.foldl step s

@[simp] theorem run_nil (s : Sys) : run s [] = s := rfl

@[simp] theorem run_cons (s : Sys) (a : Action) (acts : List Action) :
    run s (a :: acts) = run (step s a) acts := rfl

/-! ## Client sessions -/

/-- An `OPEN` of `path`, answered on handle `100`. -/
def openMsg (path : String) : Msg := { datalen := path.length, data := path.toList, handle0 := 100 }

/-- A network stack that gives out descriptor `fd` and accepts every set-up call. -/
def backendOk (fd : Nat) : Backend :=
  { Backend.wouldBlock with
    socket := fun _ _ _ => .ok fd, ioctlFionbio := fun _ => .ok (),
    connect := fun _ _ => .ok (), bind := fun _ _ => .ok (), listen := fun _ _ => .ok () }

/-- A client endpoint holding `bytes` for the server to read. -/
def kernelHolding (bytes : List Byte) : Kernel :=
  { Kernel.ok with socketRead := fun len => .read (bytes.take len) (List.length_take_le _ _) }

/-- A network stack whose socket holds `bytes` for the server to read. -/
def backendHolding (bytes : List Byte) : Backend :=
  { Backend.wouldBlock with read := fun _ len => .ok ⟨bytes.take len, List.length_take_le _ _⟩ }

/-- Open a stream socket (descriptor 3, state 1) and connect it. -/
def connectedStream : List Action :=
  [.rio 0 .mxrioOpen (openMsg "socket/2/1/0") ⟨backendOk 3, Kernel.ok⟩,
    .rio 1 .mxrioConnect {} ⟨backendOk 3, Kernel.ok⟩]

/-! ## Half-close races a pending write -/

/-- The client writes three bytes; the writer takes them but the socket would block; the
client then half-closes its endpoint. -/
def halfCloseDuringWrite : List Action :=
  connectedStream ++
    [.watcher [(1, mxSocketReadable ||| mxSocketWritable)] ⟨Backend.wouldBlock, kernelHolding [1, 2, 3]⟩,
      .watcher [(1, mxSocketWritable ||| mxsioSignalHalfclosed)] ⟨Backend.wouldBlock, Kernel.ok⟩]

set_option maxRecDepth 100000 in
/-- The watcher shuts the socket down for writing while the `WRITE` request still holds
all three client bytes on the net-wait queue: none of them has reached `net_write`. -/
theorem watcher_halfclose_strands_client_bytes :
    let s : Sys := run Sys.init halfCloseDuringWrite
    taken s.log 1 = [1, 2, 3] ∧ sent s.log 1 = [] ∧ Call.netShutdown 1 3 ∈ s.log ∧
      (3, requestPack .mxrioWrite 1) ∈ s.waitNet ∧ (s.ios 1).woff < (s.ios 1).wlen := by
  dsimp only; decide

/-! ## Half-close drops a read's wakeup -/

/-- The socket delivers three bytes; the client's endpoint takes two and is full, so the
`READ` request waits for `WRITABLE`; the client then drains its endpoint and half-closes
it before the watcher runs. -/
def halfCloseDuringRead : List Action :=
  connectedStream ++
    [.netReady 3 ⟨backendHolding [1, 2, 3],
        { Kernel.ok with
          socketWrite := fun bytes =>
            if h : 2 ≤ bytes.length then .wrote 2 (by decide) h else .failed errShouldWait }⟩,
      .watcher [(1, mxSocketWritable ||| mxsioSignalHalfclosed)] ⟨Backend.wouldBlock, Kernel.ok⟩]

set_option maxRecDepth 100000 in
/-- After the watcher's half-close the `READ` request still waits on the client-wait
queue, but `WRITABLE` is no longer watched, so nothing will resume it. -/
theorem watcher_halfclose_loses_read_wakeup :
    let s : Sys := run Sys.init halfCloseDuringRead
    (3, requestPack .mxrioRead 1) ∈ s.waitSocket ∧ (s.ios 1).watchingSignals.writable = false ∧
      0 < (s.ios 1).refcount := by
  dsimp only; decide

/-! ## Closing twice -/

/-- The client closes the data endpoint of a stream socket (the watcher synthesizes a
`CLOSE`), sends `CLOSE` on its RIO channel, and closes that channel. -/
def closeStreamTwice : List Action :=
  [.rio 0 .mxrioOpen (openMsg "socket/2/1/0") ⟨backendOk 3, Kernel.ok⟩,
    .watcher [(1, mxSocketPeerClosed)] ⟨Backend.wouldBlock, Kernel.ok⟩,
    .rio 1 .mxrioClose {} ⟨Backend.wouldBlock, Kernel.ok⟩,
    .rioPeerClosed 1]

/-- A `none` handle is opened, closed, and its RIO channel closed. -/
def closeNone : List Action :=
  [.rio 0 .mxrioOpen (openMsg "none") ⟨Backend.wouldBlock, Kernel.ok⟩,
    .rio 1 .mxrioClose {} ⟨Backend.wouldBlock, Kernel.ok⟩,
    .rioPeerClosed 1]

set_option maxRecDepth 100000 in
/-- `do_close` releases a reference on every `CLOSE`: twice for the stream socket, whose
two references are then released three times, and once for the `none` handle, which
holds only the reference of its RIO channel. -/
theorem doClose_releases_every_close :
    let s : Sys := run Sys.init closeStreamTwice
    let t : Sys := run Sys.init closeNone
    s.log.count (.handled .mxrioClose 1) = 2 ∧
      s.log.count (.iostateAlloc 1) + s.log.count (.iostateAcquire 1) = 2 ∧
      s.log.count (.iostateRelease 1) = 3 ∧
      (t.ios 1).handleType = HandleType.none ∧ t.log.count (.iostateAcquire 1) = 0 ∧
      t.log.count (.iostateRelease 1) = 2 := by
  dsimp only; decide

/-! ## Requests handled after `CLOSE` -/

/-- Both requests of a connected stream socket wait on the client-wait queue, the `WRITE`
first; the watcher reports the endpoint writable, and by the time the `WRITE` reads it the
client has closed it. -/
def closeInWatcherBatch : List Action :=
  connectedStream ++
    [.netReady 3 ⟨backendHolding [1, 2, 3], { Kernel.ok with socketWrite := fun _ => .failed errShouldWait }⟩,
      .watcher [(1, mxSocketWritable)]
        ⟨Backend.wouldBlock, { Kernel.ok with
          socketRead := fun _ => .failed errPeerClosed,
          socketWrite := fun _ => .failed errPeerClosed }⟩]

/-- The client sends `CLOSE` and then closes the data endpoint of a connected stream. -/
def closeThenPeerClosed : List Action :=
  connectedStream ++
    [.rio 1 .mxrioClose {} ⟨Backend.wouldBlock, Kernel.ok⟩,
      .watcher [(1, mxSocketPeerClosed)] ⟨Backend.wouldBlock, Kernel.ok⟩]

set_option maxRecDepth 100000 in
/-- After `do_close` has run, the watcher still hands the `READ` of its detached batch to
`handle_request`, and still synthesizes a `CLOSE` from the wait-set entry. -/
theorem handled_after_close :
    let s : Sys := run Sys.init closeInWatcherBatch
    let t : Sys := run Sys.init closeThenPeerClosed
    Call.handled .mxrioRead 1 ∈ s.log.dropWhile (· ≠ Call.handled .mxrioClose 1) ∧
      Call.handled .mxrioClose 1 ∈ (t.log.dropWhile (· ≠ Call.handled .mxrioClose 1)).drop 1 := by
  dsimp only; decide

/-! ## A connected datagram socket has no reader -/

def connectDgram : List Action :=
  [.rio 0 .mxrioOpen (openMsg "socket/2/2/0") ⟨backendOk 4, Kernel.ok⟩,
    .rio 1 .mxrioConnect {} ⟨backendOk 4, Kernel.ok⟩]

set_option maxRecDepth 100000 in
/-- A successful `CONNECT` on a datagram socket that was never bound leaves no `READ`
request for it on either queue, while a `BIND` would have scheduled one. -/
theorem doConnect_dgram_schedules_no_read :
    let s : Sys := run Sys.init connectDgram
    Call.statusReply .mxrioConnect noError ∈ s.log ∧
      (∀ e ∈ s.waitNet, e.2.op ≠ .mxrioRead) ∧ (∀ e ∈ s.waitSocket, e.2.op ≠ .mxrioRead) ∧
      (4, requestPack .mxrioRead 1) ∈
        (step s (.rio 1 .mxrioBind {} ⟨backendOk 4, Kernel.ok⟩)).waitNet := by
  dsimp only; decide

/-! ## A failed `net_socket` leaks its state -/

set_option maxRecDepth 100000 in
/-- When `net_socket` fails, `do_socket` returns without releasing the state it
allocated: the reply carries the error, and the state keeps its reference for ever. -/
theorem doSocket_leaks_state_on_socket_failure :
    let s : Sys := run Sys.init [.rio 0 .mxrioOpen (openMsg "socket/2/1/0")
      ⟨{ Backend.wouldBlock with socket := fun _ _ _ => .error ⟨enomem, by decide⟩ }, Kernel.ok⟩]
    Call.openReply 100 errNoMemory [] ∈ s.log ∧ s.log.count (.iostateAlloc 1) = 1 ∧
      s.log.count (.iostateRelease 1) = 0 ∧ (s.ios 1).refcount = 1 := by
  dsimp only; decide

/-! ## A freed record's wait-set entry -/

/-- A connected stream socket closed by `CLOSE`: its record keeps the reference of its RIO
channel, and its wait-set entry. -/
def closedStream : List Action :=
  connectedStream ++ [.rio 1 .mxrioClose {} ⟨Backend.wouldBlock, Kernel.ok⟩]

end Netstack
