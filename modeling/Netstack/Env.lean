import Netstack.State

/-!
# The network stack and the kernel, as seen by a handler

The handlers call two opaque collaborators: the network stack (`net_*`) and the kernel
(`mx_*`).  Each step of the server receives, for every call it may make, the result that
call returns; nothing else about them is assumed.  What the callers are promised is built
into the result types: a read returns at most the bytes asked for, a successful write takes
at least one and at most all of the offered bytes, and a failed backend call sets a
positive `errno`.
-/

namespace Netstack

/-- The result of `mx_socket_write` offered `len` bytes. -/
inductive SocketWrite (len : Nat) where
  | wrote (n : Nat) (pos : 0 < n) (le : n ≤ len)
  | failed (status : Status)

/-- The result of `mx_socket_read` asked for `len` bytes. -/
inductive SocketRead (len : Nat) where
  | read (bytes : List Byte) (le : bytes.length ≤ len)
  | failed (status : Status)

/-- The result of `mx_channel_read` on a datagram endpoint into `wbuf`: a message shorter
than the `mxio_socket_msg_t` header, a message of `nread` bytes that holds the header
(`nread = MXIO_SOCKET_MSG_HEADER_SIZE + m.payload.length`), or a failure. -/
inductive ChannelRead where
  | short
  | read (m : DgramMsg)
  | failed (status : Status)

/-- `net_if_info_t`: what `net_get_if_info` reports of one interface. -/
structure NetIfInfo where
  name : List Char
  addr : List Byte
  netmask : List Byte
  broadaddr : List Byte
  flags : Nat
  index : Nat
  /-- `hwaddr_len` bytes of `hwaddr` -/
  hwaddr : List Byte
  deriving DecidableEq, Repr

/-- The network-stack calls of the handlers (`net_socket.h`); `net_close` and
`net_shutdown` are also called, but their results are never read. -/
structure Backend where
  socket : Int → Int → Int → NetResult Nat
  ioctlFionbio : Int → NetResult Unit
  connect : Int → List Char → NetResult Unit
  bind : Int → List Char → NetResult Unit
  listen : Int → List Char → NetResult Unit
  accept : Int → NetResult Nat
  read : Int → (len : Nat) → NetResult {bytes : List Byte // bytes.length ≤ len}
  write : Int → (bytes : List Byte) → NetResult {n : Nat // 0 < n ∧ n ≤ bytes.length}
  /-- `net_recvfrom`: the sender's address and the datagram -/
  recvfrom : Int → (len : Nat) → NetResult (List Byte × {bytes : List Byte // bytes.length ≤ len})
  /-- `net_sendto(fd, buf, len, 0, addr, addrlen)` with the destination `none` for `NULL` -/
  sendto : Int → List Byte → Option (List Byte) → Nat → NetResult Nat
  /-- `net_getsockopt(fd, SOL_SOCKET, SO_ERROR, ...)`: the pending socket error -/
  soError : Int → NetResult Nat
  /-- `net_get_if_info(index, &info)`: zero for the last interface, positive before it -/
  getIfInfo : Nat → NetResult (Nat × NetIfInfo)

/-- The kernel calls of the handlers: the data endpoint of the state being served, the
wait-set, and the handle factories of `create_handles`. -/
structure Kernel where
  socketWrite : (bytes : List Byte) → SocketWrite bytes.length
  socketWriteHalfClose : Status
  socketRead : (len : Nat) → SocketRead len
  channelWrite : DgramMsg → Status
  channelRead : ChannelRead
  signalPeer : Status
  /-- `mx_waitset_remove` and `mx_waitset_add`, by cookie -/
  waitsetRemove : IosAddr → Status
  waitsetAdd : IosAddr → Signals → Status
  /-- `mx_channel_create` and `mx_socket_create`, by the first handle they would return -/
  channelCreate : Handle → Status
  socketCreate : Handle → Status
  dispatcherAdd : Status

/-- A network stack on which nothing is ready: every call would block. -/
def Backend.wouldBlock : Backend where
  socket _ _ _ := .error ⟨ewouldblock, by decide⟩
  ioctlFionbio _ := .error ⟨ewouldblock, by decide⟩
  connect _ _ := .error ⟨ewouldblock, by decide⟩
  bind _ _ := .error ⟨ewouldblock, by decide⟩
  listen _ _ := .error ⟨ewouldblock, by decide⟩
  accept _ := .error ⟨ewouldblock, by decide⟩
  read _ _ := .error ⟨ewouldblock, by decide⟩
  write _ _ := .error ⟨ewouldblock, by decide⟩
  recvfrom _ _ := .error ⟨ewouldblock, by decide⟩
  sendto _ _ _ _ := .error ⟨ewouldblock, by decide⟩
  soError _ := .error ⟨ewouldblock, by decide⟩
  getIfInfo _ := .error ⟨ewouldblock, by decide⟩

/-- A kernel whose calls all succeed and whose writes take every offered byte. -/
def Kernel.ok : Kernel where
  socketWrite bytes :=
    if h : 0 < bytes.length then .wrote bytes.length h le_rfl else .failed errShouldWait
  socketWriteHalfClose := noError
  socketRead _ := .failed errShouldWait
  channelWrite _ := noError
  channelRead := .failed errShouldWait
  signalPeer := noError
  waitsetRemove _ := noError
  waitsetAdd _ _ := noError
  channelCreate _ := noError
  socketCreate _ := noError
  dispatcherAdd := noError

/-- Everything one step of the server may ask of its collaborators. -/
structure Env where
  net : Backend
  kern : Kernel

end Netstack
