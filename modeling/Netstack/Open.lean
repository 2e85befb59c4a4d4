import Netstack.Handlers
import Netstack.Parse

/-!
# Opening sockets

An `OPEN` request names a sub-directory: `none`, `socket/<domain>/<type>/<protocol>` or
`accept`.  Each sub-handler allocates an `iostate_t`, obtains a socket from the network
stack (except `none`), and calls `create_handles` for the pair of client endpoints that
`do_open` sends back in its reply.  The reply carries the sub-handler's status and the
first `hcount` of the two client handles.
-/

namespace Netstack

/-- The values `do_open` passes to its sub-handler by pointer: the two client handles of
the reply and how many of them it carries. -/
structure OpenOut where
  peerRioH : Handle := mxHandleInvalid
  peerDataH : Handle := mxHandleInvalid
  hcount : Nat := 0
  deriving DecidableEq, Repr

/-- `mx_channel_create` or `mx_socket_create` answering `r`: on success a fresh pair of
handles. -/
def handlePairCreate (s : Sys) (r : Status) : Sys × Option (Handle × Handle) :=
  if r < 0 then (s, none)
  else
    let h := s.nextHandle
    (({ s with nextHandle := h + 2 }.emit (.handleCreate h)).emit (.handleCreate (h + 1)),
      some (h, h + 1))

@[simp] theorem handlePairCreate_ios (s : Sys) (r : Status) : (handlePairCreate s r).1.ios = s.ios := by
  unfold handlePairCreate; split_ifs <;> rfl

def mxHandleClose (s : Sys) (h : Handle) : Sys :=
  if h = mxHandleInvalid then s else s.emit (.handleClose h)

/-- The data endpoint `create_handles` makes for each kind of state, with the handle
count of the reply: a byte pipe, a message channel, or nothing. -/
def createDataHandles (k : Kernel) (s : Sys) : HandleType → Sys × Status × Option (Handle × Handle) × Nat
  | .stream =>
    let r := k.socketCreate s.nextHandle
    let (s, p) := handlePairCreate s r
    (s, r, p, 2)
  | .dgram =>
    let r := k.channelCreate s.nextHandle
    let (s, p) := handlePairCreate s r
    (s, r, p, 2)
  | .none => (s, noError, some (mxHandleInvalid, mxHandleInvalid), 1)

@[simp] theorem createDataHandles_ios (k : Kernel) (s : Sys) (ht : HandleType) :
    (createDataHandles k s ht).1.ios = s.ios := by
  cases ht <;> simp [createDataHandles]

def createHandles (k : Kernel) (s : Sys) (i : IosId) (out : OpenOut) : Sys × Status × OpenOut :=
  let r := k.channelCreate s.nextHandle
  match handlePairCreate s r with
  | (s, none) => (s, r, out)
  | (s, some (rio0, rio1)) =>
    match createDataHandles k s (s.ios i).handleType with
    | (s, r, none, _) => (mxHandleClose (mxHandleClose s rio0) rio1, r, out)
    | (s, _, some (data0, data1), hcount) =>
      let out := { out with hcount }
      let s := s.setIos i { s.ios i with dataH := data0 }
      let r := k.dispatcherAdd
      if r < 0 then
        let s := s.setIos i { s.ios i with dataH := mxHandleInvalid }
        (mxHandleClose (mxHandleClose (mxHandleClose (mxHandleClose s data0) data1) rio0) rio1,
          r, out)
      else
        let s := if data0 ≠ mxHandleInvalid then iostateAcquire s i else s
        (s, noError, { out with peerRioH := rio1, peerDataH := data1 })

def doNone (k : Kernel) (s : Sys) (out : OpenOut) : Sys × Status × OpenOut :=
  let (s, i) := iostateAlloc s
  let s := s.setIos i { s.ios i with handleType := .none }
  let (s, r, out) := createHandles k s i out
  if r < 0 then (iostateRelease s i, r, out) else (s, noError, out)

/-- The `type` argument of a `socket/...` path, as a kind of state. -/
def socketHandleType (type : Int) : Option HandleType :=
  if type = sockStream then some .stream
  else if type = sockDgram then some .dgram
  else none

/-- The path of an `OPEN`: the payload up to `datalen`, as a C string. -/
def Msg.path (msg : Msg) : List Char := (msg.data.take msg.datalen).takeWhile (· ≠ '\x00')

def doSocket (e : Env) (s : Sys) (msg : Msg) (out : OpenOut) : Sys × Status × OpenOut :=
  match matchSubdir msg.path mxrioSocketDirSocket with
  | none => (s, errInvalidArgs, out)
  | some ptr =>
    match parseSocketArgs ptr with
    | .error _ => (s, errInvalidArgs, out)
    | .ok (domain, type, protocol) =>
      match socketHandleType type with
      | none => (s, errNotSupported, out)
      | some ht =>
        let (s, i) := iostateAlloc s
        let res := e.net.socket domain type protocol
        let sockfd : Int := match res with
          | .ok fd => fd
          | .error _ => -1
        let s := s.setIos i { s.ios i with handleType := ht, sockfd, lastErrno := res.errno }
        let s := match res with
          | .ok fd => s.emit (.netSocket fd)
          | .error _ => s
        if res.errno ≠ 0 then (s, errnoToStatus res.errno, out)
        else
          let errno_ := (e.net.ioctlFionbio sockfd).errno
          let s := s.setIos i { s.ios i with lastErrno := errno_ }
          if errno_ ≠ 0 then (iostateRelease s i, errnoToStatus errno_, out)
          else
            let (s, r, out) := createHandles e.kern s i out
            if r < 0 then (iostateRelease s i, r, out)
            else
              let s := fdEventSet s sockfd eventExcept
              let s := socketSignalsSet e.kern s i (mxSocketPeerClosed ||| mxsioSignalHalfclosed)
              (if ht = .dgram then scheduleW e.kern s i else s, noError, out)

/-- `do_socket` does the same for two `socket/...` paths whose arguments
`parse_socket_args` reads alike. -/
theorem doSocket_congr_args (e : Env) (s : Sys) (out : OpenOut) {m₁ m₂ : Msg} {p₁ p₂ : List Char}
    (h₁ : matchSubdir m₁.path mxrioSocketDirSocket = some p₁)
    (h₂ : matchSubdir m₂.path mxrioSocketDirSocket = some p₂)
    (hp : parseSocketArgs p₁ = parseSocketArgs p₂) :
    doSocket e s m₁ out = doSocket e s m₂ out := by
  simp only [doSocket, h₁, h₂, hp]

/-- `parse_socket_args` reads every path `<d>/<t>/<p>` of the design's grammar as its three
values, but it also succeeds on paths outside the grammar: `strtol` skips leading white
space and takes a `+` sign, and a value outside `int` is cut to its low 32 bits rather than
refused.  `do_socket` then opens the socket of `socket/2/1/0` for each of them. -/
theorem parseSocketArgs_accepts_outside_grammar :
    (∀ a b c : SocketArg,
      parseSocketArgs (socketArgsText a b c) = .ok (a.value, b.value, c.value)) ∧
    (∀ a b c : SocketArg, socketArgsText a b c ≠ " 2/1/0".toList ∧
      socketArgsText a b c ≠ "+2/1/0".toList ∧ socketArgsText a b c ≠ "4294967298/1/0".toList) ∧
    parseSocketArgs " 2/1/0".toList = .ok (2, 1, 0) ∧
    parseSocketArgs "+2/1/0".toList = .ok (2, 1, 0) ∧
    parseSocketArgs "4294967298/1/0".toList = .ok (2, 1, 0) ∧
    ∀ e s out,
      doSocket e s { datalen := 13, data := "socket/ 2/1/0".toList } out =
        doSocket e s { datalen := 12, data := "socket/2/1/0".toList } out ∧
      doSocket e s { datalen := 13, data := "socket/+2/1/0".toList } out =
        doSocket e s { datalen := 12, data := "socket/2/1/0".toList } out ∧
      doSocket e s { datalen := 21, data := "socket/4294967298/1/0".toList } out =
        doSocket e s { datalen := 12, data := "socket/2/1/0".toList } out := by
  refine ⟨parseSocketArgs_socketArgsText, fun a b c => ⟨socketArgsText_ne_cons a b c _ (by decide),
    socketArgsText_ne_cons a b c _ (by decide), fun h => ?_⟩, rfl, rfl, rfl,
    fun e s out => ⟨doSocket_congr_args e s out rfl rfl rfl,
      doSocket_congr_args e s out rfl rfl rfl, doSocket_congr_args e s out rfl rfl rfl⟩⟩
  -- the first segment would be `4294967298`, which is no `int`
  have ht := socketArgsText_takeWhile a b c
  rw [h] at ht
  obtain ⟨neg, digits, hne, hdec, hlo, hhi⟩ := a
  cases neg
  · simp only [SocketArg.text, Bool.false_eq_true, if_false, List.nil_append] at ht
    subst ht
    exact absurd hhi (by decide)
  · simp [SocketArg.text] at ht

/-- `do_accept`, called on the listening state `i`. -/
def doAccept (e : Env) (s : Sys) (i : IosId) (out : OpenOut) : Sys × Status × OpenOut :=
  let ios := s.ios i
  let res := e.net.accept ios.sockfd
  let s := s.setIos i { ios with lastErrno := res.errno }
  match res with
  | .error _ => (s, errnoToStatus res.errno, out)
  | .ok fd =>
    let s := s.emit (.netSocket fd)
    let s := if ios.handleType = .stream
      then mxObjectSignalPeer e.kern s i mxsioSignalIncoming mxSignalNone else s
    let s := scheduleSigconnR s i
    let (s, j) := iostateAlloc s
    let s := s.setIos j { s.ios j with handleType := ios.handleType, sockfd := fd }
    let errno_ := (e.net.ioctlFionbio fd).errno
    let s := s.setIos i { s.ios i with lastErrno := errno_ }
    if errno_ ≠ 0 then (iostateRelease s j, errnoToStatus errno_, out)
    else
      let (s, r, out) := createHandles e.kern s j out
      if r < 0 then (iostateRelease s j, r, out)
      else
        let s := fdEventSet s fd eventExcept
        let s := socketSignalsSet e.kern s j (mxSocketPeerClosed ||| mxsioSignalHalfclosed)
        (scheduleRw e.kern s j, noError, out)

/-- `do_open`: dispatch on the first path segment, send the reply on the channel the
request named, and close that channel. -/
def doOpen (e : Env) (s : Sys) (i : IosId) (msg : Msg) : Sys × Status :=
  let (s, r, out) :=
    if msg.datalen < 1 ∨ 1024 < msg.datalen then (s, errInvalidArgs, ({} : OpenOut))
    else if (matchSubdir msg.path mxrioSocketDirNone).isSome then doNone e.kern s {}
    else if (matchSubdir msg.path mxrioSocketDirSocket).isSome then doSocket e s msg {}
    else if (matchSubdir msg.path mxrioSocketDirAccept).isSome then doAccept e s i {}
    else (s, errInvalidArgs, {})
  let s := s.emit (.openReply msg.handle0 r ([out.peerRioH, out.peerDataH].take out.hcount))
  (mxHandleClose s msg.handle0, noError)

end Netstack
