import Netstack.ReadStream

/-!
# The request handlers

The handlers of `socket_functions.c` other than `OPEN` and the stream read pipeline:
connection set-up (`do_connect`, `do_bind`, `do_listen` and the two pseudo-ops that turn
socket readiness into user signals), `do_close`, `do_halfclose`, the datagram read path
and both write paths, and the `schedule_*` helpers that put a request on a wait queue.

A handler returns `pendingNet` or `pendingSocket` to be suspended; `handle_request`
(`Netstack.Dispatch`) then queues it.  `handle_request_close` runs the `CLOSE` handler
from inside `do_write_stream`; the table sends that op to `do_close` and never replies to
it, so it is `do_close` preceded by its log entry here.
-/

namespace Netstack

/-- `mx_object_signal_peer(ios->data_h, clear, set)`: on success the client end of the
data endpoint has `clear` deasserted and `set` asserted. -/
def mxObjectSignalPeer (k : Kernel) (s : Sys) (i : IosId) (clear set : Signals) : Sys :=
  if k.signalPeer < 0 then s
  else { s with
    peerSignals := Function.update s.peerSignals i ((s.peerSignals i &&& ~~~clear) ||| set) }

section SignalPeer

variable (k : Kernel) (s : Sys) (i : IosId) (clear set : Signals)

@[simp] theorem mxObjectSignalPeer_ios : (mxObjectSignalPeer k s i clear set).ios = s.ios := by
  unfold mxObjectSignalPeer; split_ifs <;> rfl

@[simp] theorem mxObjectSignalPeer_waitNet :
    (mxObjectSignalPeer k s i clear set).waitNet = s.waitNet := by
  unfold mxObjectSignalPeer; split_ifs <;> rfl

@[simp] theorem mxObjectSignalPeer_nextIos :
    (mxObjectSignalPeer k s i clear set).nextIos = s.nextIos := by
  unfold mxObjectSignalPeer; split_ifs <;> rfl

@[simp] theorem mxObjectSignalPeer_nextHandle :
    (mxObjectSignalPeer k s i clear set).nextHandle = s.nextHandle := by
  unfold mxObjectSignalPeer; split_ifs <;> rfl

@[simp] theorem mxObjectSignalPeer_log : (mxObjectSignalPeer k s i clear set).log = s.log := by
  unfold mxObjectSignalPeer; split_ifs <;> rfl

theorem mxObjectSignalPeer_peerSignals_ne {j : IosId} (h : j ≠ i) :
    (mxObjectSignalPeer k s i clear set).peerSignals j = s.peerSignals j := by
  unfold mxObjectSignalPeer; split_ifs <;> simp [Function.update_noteq h]

end SignalPeer

def scheduleSigconnR (s : Sys) (i : IosId) : Sys :=
  let fd := (s.ios i).sockfd
  waitQueuePut (fdEventSet s fd eventRead) .net fd (requestPack .ioSigconnR i)

@[simp] theorem scheduleSigconnR_ios (s : Sys) (i : IosId) :
    (scheduleSigconnR s i).ios = s.ios := rfl

@[simp] theorem scheduleSigconnR_waitNet (s : Sys) (i : IosId) :
    (scheduleSigconnR s i).waitNet = s.waitNet ++ [((s.ios i).sockfd, requestPack .ioSigconnR i)] :=
  rfl

@[simp] theorem scheduleSigconnR_peerSignals (s : Sys) (i : IosId) :
    (scheduleSigconnR s i).peerSignals = s.peerSignals := rfl

@[simp] theorem scheduleSigconnR_nextIos (s : Sys) (i : IosId) :
    (scheduleSigconnR s i).nextIos = s.nextIos := rfl

def scheduleSigconnW (s : Sys) (i : IosId) : Sys :=
  let fd := (s.ios i).sockfd
  waitQueuePut (fdEventSet s fd eventWrite) .net fd (requestPack .ioSigconnW i)

def scheduleR (s : Sys) (i : IosId) : Sys :=
  let fd := (s.ios i).sockfd
  waitQueuePut (fdEventSet s fd eventRead) .net fd (requestPack .mxrioRead i)

def scheduleW (k : Kernel) (s : Sys) (i : IosId) : Sys :=
  let s := socketSignalsSet k s i mxSocketReadable
  waitQueuePut s .socket (s.ios i).sockfd (requestPack .mxrioWrite i)

/-- `schedule_rw`, for connection-oriented states. -/
def scheduleRw (k : Kernel) (s : Sys) (i : IosId) : Sys :=
  let s := if (s.ios i).handleType = .stream
    then mxObjectSignalPeer k s i mxSignalNone mxsioSignalConnected else s
  scheduleW k (scheduleR s i) i

@[simp] theorem scheduleRw_log (k : Kernel) (s : Sys) (i : IosId) :
    (scheduleRw k s i).log = s.log := by
  dsimp only [scheduleRw]
  split_ifs <;> simp [scheduleW, scheduleR]

def doClose (s : Sys) (i : IosId) : Sys × Status :=
  let ios := s.ios i
  let s := if 0 ≤ ios.sockfd then
      let s := fdEventClear (s.emit (.netClose i ios.sockfd)) ios.sockfd eventAll
      let s := waitQueueDiscard (waitQueueDiscard s .net ios.sockfd) .socket ios.sockfd
      s.setIos i { s.ios i with sockfd := -1 }
    else s
  (iostateRelease s i, noError)

/-- `handle_request_close`: the table's `CLOSE` entry is `do_close`, which never suspends
and is never answered. -/
def handleRequestClose (s : Sys) (i : IosId) : Sys :=
  (doClose (s.emit (.handled .mxrioClose i)) i).1

def doHalfclose (k : Kernel) (s : Sys) (i : IosId) : Sys × Status :=
  let s := s.emit (.netShutdown i (s.ios i).sockfd)
  (socketSignalsSet k s i mxSocketPeerClosed, noError)

/-- `handle_request_halfclose`: the table's `IO_HALFCLOSE` entry is `do_halfclose`. -/
def handleRequestHalfclose (k : Kernel) (s : Sys) (i : IosId) : Sys :=
  (doHalfclose k (s.emit (.handled .ioHalfclose i)) i).1

def doConnect (e : Env) (s : Sys) (i : IosId) (msg : Msg) : Sys × Status :=
  let ios := s.ios i
  let errno_ := (e.net.connect ios.sockfd (msg.data.take msg.datalen)).errno
  let s := s.setIos i { ios with lastErrno := errno_ }
  let s := if errno_ = einprogress then scheduleSigconnW s i else s
  if errno_ ≠ 0 then (s, errnoToStatus errno_)
  else (if ios.handleType = .stream then scheduleRw e.kern s i else s, noError)

def doSigconnW (e : Env) (s : Sys) (i : IosId) : Sys × Status :=
  let s := if (s.ios i).handleType = .stream
    then mxObjectSignalPeer e.kern s i mxSignalNone mxsioSignalOutgoing else s
  match e.net.soError (s.ios i).sockfd with
  | .ok val =>
    let s := s.setIos i { s.ios i with lastErrno := val }
    (if val = 0 then scheduleRw e.kern s i else s, noError)
  | .error _ => (s, noError)

def doBind (e : Env) (s : Sys) (i : IosId) (msg : Msg) : Sys × Status :=
  let ios := s.ios i
  let errno_ := (e.net.bind ios.sockfd (msg.data.take msg.datalen)).errno
  let s := s.setIos i { ios with lastErrno := errno_ }
  if errno_ ≠ 0 then (s, errnoToStatus errno_)
  else (if ios.handleType = .dgram then scheduleR s i else s, noError)

/-- `do_listen`; unlike its siblings it leaves `last_errno` alone. -/
def doListen (e : Env) (s : Sys) (i : IosId) (msg : Msg) : Sys × Status :=
  let errno_ := (e.net.listen (s.ios i).sockfd msg.data).errno
  if errno_ ≠ 0 then (s, errnoToStatus errno_)
  else (scheduleSigconnR s i, noError)

def doSigconnR (k : Kernel) (s : Sys) (i : IosId) : Sys × Status :=
  (if (s.ios i).handleType = .stream
    then mxObjectSignalPeer k s i mxSignalNone mxsioSignalIncoming else s, noError)

/-! ## Datagrams -/

/-- `do_read_dgram`: `net_recvfrom` stores the datagram at `m->data`, which is
`MXIO_SOCKET_MSG_HEADER_SIZE` bytes into `rbuf`, and is told it may store `RWBUF_SIZE`
bytes there; the header and the payload then go out as one channel message. -/
def doReadDgram (e : Env) (s : Sys) (i : IosId) : Sys × Status :=
  let (s, b) := readStreamBuf s i
  let ios := s.ios i
  let n := e.net.recvfrom ios.sockfd rwbufSize
  let s := s.setIos i { ios with rbuf := some b, lastErrno := n.errno }
  match n with
  | .error _ =>
    if n.errno = ewouldblock then (fdEventSet s ios.sockfd eventRead, pendingNet)
    else (s, noError)
  | .ok (addr, ⟨payload, _⟩) =>
    let r := e.kern.channelWrite ⟨addr, addr.length, payload⟩
    if r < 0 then (s, r)
    else
      let s := s.emit (.channelWrite i ⟨addr, addr.length, payload⟩)
      (fdEventSet (s.setIos i { s.ios i with rlen := 0, roff := 0 }) ios.sockfd eventRead,
        pendingNet)

def doRead (e : Env) (s : Sys) (i : IosId) : Sys × Status :=
  match (s.ios i).handleType with
  | .stream => doReadStream e s i
  | .dgram => doReadDgram e s i
  | .none => (s, errNotSupported)

/-! ## The outbound stream pipeline -/

/-- The bytes a logged call took from `i`'s data endpoint. -/
def Call.takenFrom (i : IosId) : Call → List Byte
  | .socketRead j bytes => if j = i then bytes else []
  | _ => []

/-- The bytes a logged call wrote to `i`'s socket. -/
def Call.sentFrom (i : IosId) : Call → List Byte
  | .netWrite j bytes => if j = i then bytes else []
  | _ => []

def taken (log : List Call) (i : IosId) : List Byte := log.flatMap (Call.takenFrom i)

def sent (log : List Call) (i : IosId) : List Byte := log.flatMap (Call.sentFrom i)

/-- `wbuf->data[woff, wlen)`: read from the endpoint, not yet written to the socket. -/
def IOState.writePending (ios : IOState) : List Byte :=
  match ios.wbuf with
  | some b => (b.data.drop ios.woff).take (ios.wlen - ios.woff)
  | none => []

/-- The end of `do_write_stream` once the buffer is drained: wait for more client data. -/
def writeStreamDrained (k : Kernel) (s : Sys) (i : IosId) : Sys × Status :=
  let s := s.setIos i { s.ios i with wlen := 0, woff := 0 }
  (socketSignalsSet k s i (mxSocketReadable ||| mxSocketPeerClosed ||| mxsioSignalHalfclosed),
    pendingSocket)

/-- The `while (ios->woff < ios->wlen)` loop of `do_write_stream`; each pass writes at
least one byte, so `wlen - woff` passes always suffice. -/
def writeStreamPush (e : Env) (i : IosId) : Nat → Sys → Sys × Status
  | 0, s => writeStreamDrained e.kern s i
  | fuel + 1, s =>
    let ios := s.ios i
    if ios.woff < ios.wlen then
      match e.net.write ios.sockfd ios.writePending with
      | .error err =>
        let s := s.setIos i { ios with lastErrno := err }
        if (err : Nat) = ewouldblock then (fdEventSet s ios.sockfd eventWrite, pendingNet)
        else (s, noError)
      | .ok ⟨n, _⟩ =>
        writeStreamPush e i fuel ((s.setIos i { ios with
            lastErrno := 0, woff := ios.woff + n, writeNetWrite := ios.writeNetWrite + n }).emit
          (.netWrite i (ios.writePending.take n)))
    else writeStreamDrained e.kern s i

/-- `if (ios->wbuf == NULL) ios->wbuf = get_rwbuf();` -/
def writeStreamBuf (s : Sys) (i : IosId) : Sys × RwBuf :=
  match (s.ios i).wbuf with
  | some b => (s, b)
  | none => getRwbuf s

@[simp] theorem writeStreamBuf_ios (s : Sys) (i : IosId) :
    (writeStreamBuf s i).1.ios = s.ios := by
  unfold writeStreamBuf; split <;> simp

@[simp] theorem writeStreamBuf_log (s : Sys) (i : IosId) :
    (writeStreamBuf s i).1.log = s.log := by
  unfold writeStreamBuf; split <;> simp

def doWriteStream (e : Env) (s : Sys) (i : IosId) (signals : Signals) : Sys × Status :=
  let ios := s.ios i
  if ios.wlen ≤ 0 then
    let (s, b) := writeStreamBuf s i
    let s := s.setIos i { s.ios i with wbuf := some b }
    match e.kern.socketRead rwbufSize with
    | .failed r =>
      if r = errShouldWait then
        if signals &&& mxSocketPeerClosed ≠ mxSignalNone then (handleRequestClose s i, noError)
        else (socketSignalsSet e.kern s i
          (mxSocketReadable ||| mxSocketPeerClosed ||| mxsioSignalHalfclosed), pendingSocket)
      else if r = errPeerClosed then (handleRequestClose s i, noError)
      else
        let r := e.kern.socketWriteHalfClose
        (if r < 0 then s else s.emit (.socketHalfClose i), r)
    | .read bytes _ =>
      let s := s.emit (.socketRead i bytes)
      let ios := s.ios i
      writeStreamPush e i bytes.length (s.setIos i { ios with
        wbuf := some ⟨b.addr, bytes ++ b.data.drop bytes.length⟩, wlen := bytes.length,
        woff := 0, writeSocketRead := ios.writeSocketRead + bytes.length })
  else writeStreamPush e i (ios.wlen - ios.woff) s

/-- `do_write_dgram`: one message from the client's channel, sent with one `net_sendto`
when it carries payload; the `WRITE` request then waits for the channel again. -/
def doWriteDgram (e : Env) (s : Sys) (i : IosId) (signals : Signals) : Sys × Status :=
  let (s, b) := writeStreamBuf s i
  let s := s.setIos i { s.ios i with wbuf := some b }
  let rearm := fun s => (socketSignalsSet e.kern s i (mxSocketReadable ||| mxSocketPeerClosed),
    pendingSocket)
  match e.kern.channelRead with
  | .failed r =>
    if r = errShouldWait then
      if signals &&& mxSocketPeerClosed ≠ mxSignalNone then (handleRequestClose s i, noError)
      else rearm s
    else if r = errPeerClosed then (handleRequestClose s i, noError)
    else (s, r)
  | .short => rearm s
  | .read m =>
    -- `nread > MXIO_SOCKET_MSG_HEADER_SIZE`; a message of the header alone is refused
    if m.payload ≠ [] then
      let addr := if m.addrlen = 0 then none else some m.addr
      let errno_ := (e.net.sendto (s.ios i).sockfd m.payload addr m.addrlen).errno
      rearm ((s.emit (.netSendto i m.payload addr m.addrlen)).setIos i
        { s.ios i with lastErrno := errno_ })
    else rearm s

def doWrite (e : Env) (s : Sys) (i : IosId) (signals : Signals) : Sys × Status :=
  match (s.ios i).handleType with
  | .stream => doWriteStream e s i signals
  | .dgram => doWriteDgram e s i signals
  | .none => (s, errNotSupported)

end Netstack
