import Netstack.Handlers

/-!
# Datagram endpoints

A datagram socket carries one datagram per channel message.  The message is an
`mxio_socket_msg_t`: a header holding the peer's address and its length, then the payload.
`do_read_dgram` builds the message in `rbuf`, with `net_recvfrom` storing the payload at
`m->data`; `do_write_dgram` reads a message into `wbuf` and hands its payload to
`net_sendto`.

The header's size `MXIO_SOCKET_MSG_HEADER_SIZE` comes from `mxio/socket.h`, which is not
among the sources: it is a parameter here, and every result holds for any positive size.
-/

namespace Netstack

/-- `MXIO_SOCKET_MSG_HEADER_SIZE`, the bytes of `mxio_socket_msg_t` before `data`: they hold
the address and its length, so there is at least one. -/
structure MsgHeader where
  size : Nat
  pos : 0 < size

/-- The bytes a message takes in its buffer and on the channel,
`MXIO_SOCKET_MSG_HEADER_SIZE + n` for a payload of `n` bytes. -/
def DgramMsg.wireLength (H : MsgHeader) (m : DgramMsg) : Nat := H.size + m.payload.length

/-! ## The datagrams of a state, read off the log -/

/-- The message a logged call wrote to `i`'s datagram channel. -/
def Call.messageTo (i : IosId) : Call → List DgramMsg
  | .channelWrite j m => if j = i then [m] else []
  | _ => []

/-- The payload, destination and address length of a logged `net_sendto` for `i`. -/
def Call.sendtoFrom (i : IosId) : Call → List (List Byte × Option (List Byte) × Nat)
  | .netSendto j payload addr addrlen => if j = i then [(payload, addr, addrlen)] else []
  | _ => []

def messagesTo (log : List Call) (i : IosId) : List DgramMsg := log.flatMap (Call.messageTo i)

def sendtos (log : List Call) (i : IosId) : List (List Byte × Option (List Byte) × Nat) :=
  log.flatMap (Call.sendtoFrom i)

@[simp] theorem messagesTo_append (log log' : List Call) (i : IosId) :
    messagesTo (log ++ log') i = messagesTo log i ++ messagesTo log' i :=
  List.flatMap_append _ _ _

@[simp] theorem sendtos_append (log log' : List Call) (i : IosId) :
    sendtos (log ++ log') i = sendtos log i ++ sendtos log' i := List.flatMap_append _ _ _

@[simp] theorem messagesTo_singleton (c : Call) (i : IosId) :
    messagesTo [c] i = c.messageTo i := by simp [messagesTo]

@[simp] theorem sendtos_singleton (c : Call) (i : IosId) :
    sendtos [c] i = c.sendtoFrom i := by simp [sendtos]

/-! ## The read side -/

/-- A datagram `net_recvfrom` delivers, when the channel takes it, becomes exactly one
message on the log, with the sender's address, its length and the payload; the `READ`
request then waits on the socket for the next one. -/
theorem doReadDgram_delivers (e : Env) (s : Sys) (i : IosId) (A : List Byte)
    (p : {bytes : List Byte // bytes.length ≤ rwbufSize})
    (hrecv : e.net.recvfrom (s.ios i).sockfd rwbufSize = .ok (A, p))
    (hwrite : 0 ≤ e.kern.channelWrite ⟨A, A.length, p.1⟩) :
    (doReadDgram e s i).1.log = s.log ++ [.channelWrite i ⟨A, A.length, p.1⟩] ∧
      (doReadDgram e s i).2 = pendingNet := by
  obtain ⟨p, hp⟩ := p
  rcases hsb : readStreamBuf s i with ⟨s1, b⟩
  have hios : s1.ios = s.ios := by simpa [hsb] using readStreamBuf_ios s i
  have hlog : s1.log = s.log := by simpa [hsb] using readStreamBuf_log s i
  simp only [doReadDgram, hsb, hios, hrecv, not_lt.mpr hwrite, if_false]
  simp [hlog, Sys.emit]

/-- A network stack whose `net_recvfrom` fills all `len` bytes it is given with a datagram
from `A`, on a kernel whose calls succeed. -/
def fullDatagram (A : List Byte) : Env where
  net := { Backend.wouldBlock with
    recvfrom := fun _ len => .ok (A, ⟨List.replicate len 0, (List.length_replicate len 0).le⟩) }
  kern := Kernel.ok

/-- `do_read_dgram` lets `net_recvfrom` store `RWBUF_SIZE` bytes at `m->data`, which is
`MXIO_SOCKET_MSG_HEADER_SIZE` bytes into the `RWBUF_SIZE` bytes of `rbuf`.  A datagram of
that length is forwarded as one message, as it should be, but the message, header and
payload together, is longer than `rbuf`, whatever the header's size. -/
theorem doReadDgram_overruns_rbuf (H : MsgHeader) (s : Sys) (i : IosId) (A : List Byte) :
    let e : Env := fullDatagram A
    messagesTo (doReadDgram e s i).1.log i =
        messagesTo s.log i ++ [⟨A, A.length, List.replicate rwbufSize 0⟩] ∧
      rwbufSize < DgramMsg.wireLength H ⟨A, A.length, List.replicate rwbufSize 0⟩ := by
  have hdel := doReadDgram_delivers (fullDatagram A) s i A _ rfl (le_refl 0)
  refine ⟨by simp [hdel.1, Call.messageTo], ?_⟩
  have := H.pos
  simp only [DgramMsg.wireLength, List.length_replicate]
  omega

/-! ## The write side -/

/-- A message shorter than the header is dropped: `do_write_dgram` calls nothing and waits
for the channel again. -/
theorem doWriteDgram_short (e : Env) (s : Sys) (i : IosId) (signals : Signals)
    (hread : e.kern.channelRead = .short) :
    ∃ s', s'.log = s.log ∧ doWriteDgram e s i signals =
      (socketSignalsSet e.kern s' i (mxSocketReadable ||| mxSocketPeerClosed), pendingSocket) := by
  rcases hsb : writeStreamBuf s i with ⟨s1, b⟩
  have hlog : s1.log = s.log := by simpa [hsb] using writeStreamBuf_log s i
  simp only [doWriteDgram, hsb, hread]
  exact ⟨_, by simp [hlog], rfl⟩

/-- A message that holds the header is sent with one `net_sendto` of its payload, to `NULL`
when its `addrlen` is zero, when the payload is not empty; then `do_write_dgram` waits for
the channel again. -/
theorem doWriteDgram_read (e : Env) (s : Sys) (i : IosId) (signals : Signals) (m : DgramMsg)
    (hread : e.kern.channelRead = .read m) :
    ∃ s', s'.log = s.log ++ (if m.payload = [] then [] else
        [.netSendto i m.payload (if m.addrlen = 0 then none else some m.addr) m.addrlen]) ∧
      doWriteDgram e s i signals =
        (socketSignalsSet e.kern s' i (mxSocketReadable ||| mxSocketPeerClosed), pendingSocket) := by
  rcases hsb : writeStreamBuf s i with ⟨s1, b⟩
  have hlog : s1.log = s.log := by simpa [hsb] using writeStreamBuf_log s i
  simp only [doWriteDgram, hsb, hread]
  by_cases hp : m.payload = []
  · simp only [hp, ne_eq, not_true_eq_false, if_true, if_false, List.append_nil]
    exact ⟨_, by simp [hlog], rfl⟩
  · simp only [hp, ne_eq, not_false_eq_true, if_true, if_false]
    exact ⟨_, by simp [hlog, Sys.emit], rfl⟩

/-- `do_write_dgram` makes one `net_sendto` for a message it reads, with the message's
payload and its address, or `NULL` when the `addrlen` is zero, but only when the payload is
not empty: `nread > MXIO_SOCKET_MSG_HEADER_SIZE` drops a message of the header alone, a
datagram of zero bytes, as it drops a message shorter than the header.  In each of these
cases the `WRITE` request waits for the channel again, watching `READABLE` once the
wait-set calls succeed. -/
theorem doWriteDgram_drops_empty_datagram (e : Env) (s : Sys) (i : IosId) (signals : Signals) :
    let t : Sys × Status := doWriteDgram e s i signals
    (∀ m, e.kern.channelRead = .read m →
      sendtos t.1.log i = sendtos s.log i ++ if m.payload = [] then [] else
        [(m.payload, if m.addrlen = 0 then none else some m.addr, m.addrlen)]) ∧
    (e.kern.channelRead = .short → sendtos t.1.log i = sendtos s.log i) ∧
    (e.kern.channelRead = .short ∨ (∃ m, e.kern.channelRead = .read m) →
      t.2 = pendingSocket ∧ (e.kern.WaitsetOk → (t.1.ios i).watchingSignals.readable = true)) := by
  refine ⟨fun m hread => ?_, fun hread => ?_, fun h => ?_⟩
  · obtain ⟨s', hlog, he⟩ := doWriteDgram_read e s i signals m hread
    by_cases hp : m.payload = [] <;> simp [he, hlog, hp, Call.sendtoFrom]
  · obtain ⟨s', hlog, he⟩ := doWriteDgram_short e s i signals hread
    simp [he, hlog]
  · obtain ⟨s', he⟩ : ∃ s', doWriteDgram e s i signals =
        (socketSignalsSet e.kern s' i (mxSocketReadable ||| mxSocketPeerClosed), pendingSocket) := by
      rcases h with hread | ⟨m, hread⟩
      exacts [(doWriteDgram_short e s i signals hread).imp fun _ => And.right,
        (doWriteDgram_read e s i signals m hread).imp fun _ => And.right]
    rw [he]
    exact ⟨rfl, fun hk => socketSignalsSet_watches_readable _ hk _ _ _ rfl⟩

end Netstack
