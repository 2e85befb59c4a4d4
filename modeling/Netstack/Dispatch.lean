import Netstack.Open

/-!
# The operation router and the two readiness sources

`handle_request` runs the handler of a request's op and either queues the request (a
handler that returned `PENDING_NET` or `PENDING_SOCKET`), answers it (a RIO request), or
drops it (an internal pseudo-op).  Requests reach it from three places: the RIO dispatcher,
the net multiplexer when a socket becomes ready, and the handle watcher when a data
endpoint raises a watched signal.  The server is the state machine whose steps are these
three entries and the client closing its RIO channel (`Netstack.Server`).
-/

namespace Netstack

/-- The handler table `do_funcs`. -/
def doFunc (e : Env) (rq : Request) (signals : Signals) (s : Sys) : Sys × Status :=
  match rq.op with
  | .mxrioOpen => doOpen e s rq.ios rq.msg
  | .mxrioClose => doClose s rq.ios
  | .mxrioConnect => doConnect e s rq.ios rq.msg
  | .mxrioBind => doBind e s rq.ios rq.msg
  | .mxrioListen => doListen e s rq.ios rq.msg
  | .mxrioWrite => doWrite e s rq.ios signals
  | .mxrioRead => doRead e s rq.ios
  | .ioHalfclose => doHalfclose e.kern s rq.ios
  | .ioSigconnR => doSigconnR e.kern s rq.ios
  | .ioSigconnW => doSigconnW e s rq.ios

/-- `send_status`: the `STATUS` reply; `OPEN` has already answered on its own channel. -/
def sendStatus (s : Sys) (op : Op) (r : Status) : Sys :=
  if op = .mxrioOpen then s else s.emit (.statusReply op r)

def handleRequest (e : Env) (rq : Request) (signals : Signals) (s : Sys) : Sys :=
  let (s, r) := doFunc e rq signals (s.emit (.handled rq.op rq.ios))
  if r = pendingNet then waitQueuePut s .net (s.ios rq.ios).sockfd rq
  else if r = pendingSocket then waitQueuePut s .socket (s.ios rq.ios).sockfd rq
  else if rq.op.internal then s
  else sendStatus s rq.op r

theorem le_ite_of {p : Prop} [Decidable p] {c a b : Status} (ha : c ≤ a) (hb : c ≤ b) :
    c ≤ if p then a else b := by
  split <;> assumption

/-- `errno_to_status` returns one of the `ERR_` codes, the lowest of which is `ERR_IO`. -/
theorem errIo_le_errnoToStatus (errno_ : Nat) : errIo ≤ errnoToStatus errno_ := by
  unfold errnoToStatus
  repeat' apply le_ite_of
  all_goals decide

/-- The handlers of the RIO ops return `NO_ERROR` or an `ERR_` code, never a pending one:
`handle_request` answers those requests at once. -/
theorem errIo_le_doFunc {e : Env} {s : Sys} (rq : Request) (signals : Signals)
    (hop : rq.op.internal = false) : errIo ≤ (doFunc e rq signals s).2 := by
  have h0 : errIo ≤ noError := by decide
  rcases rq with ⟨op, i, msg⟩
  cases op <;> simp only [Op.internal, Bool.true_eq_false] at hop
  · exact h0
  all_goals
    dsimp only [doFunc, doConnect, doBind, doListen]
    split_ifs <;> first | exact h0 | exact errIo_le_errnoToStatus _

/-- So `handle_request` puts only internal requests on a wait queue. -/
theorem internal_of_pending {e : Env} {s : Sys} (rq : Request) (signals : Signals)
    (hp : (doFunc e rq signals s).2 = pendingNet ∨ (doFunc e rq signals s).2 = pendingSocket) :
    rq.op.internal = true := by
  cases hop : rq.op.internal
  · have hge := errIo_le_doFunc (e := e) (s := s) rq signals hop
    rcases hp with hp | hp <;> rw [hp] at hge <;> exact absurd hge (by decide)
  · rfl

/-- Modelled from the spec: when a descriptor becomes ready, the net multiplexer takes
the requests waiting on it and hands each to `handle_request`. -/
def netReady (e : Env) (fd : Int) (s : Sys) : Sys :=
  let (s, q) := waitQueueSwap s .net fd
  q.foldl (fun s rq => handleRequest e rq mxSignalNone s) s

/-- One result of `handle_watcher_schedule_request`: the state whose entry fired and the
signals observed on its data endpoint. -/
def watcherDispatch (e : Env) (s : Sys) (i : IosId) (satisfied : Signals) : Sys :=
  let watching := (s.ios i).watchingSignals
  let s := socketSignalsClear e.kern s i satisfied
  if satisfied &&& mxSocketPeerClosed ≠ mxSignalNone ∧
      satisfied &&& mxSocketReadable = mxSignalNone then
    handleRequestClose s i
  else if satisfied &&& mxsioSignalHalfclosed ≠ mxSignalNone ∧
      satisfied &&& mxSocketReadable = mxSignalNone then
    handleRequestHalfclose e.kern s i
  else if satisfied &&& watching ≠ mxSignalNone then
    let (s, q) := waitQueueSwap s .socket (s.ios i).sockfd
    q.foldl (fun s rq => handleRequest e rq satisfied s) s
  else s

/-- `handle_watcher_schedule_request` over the results of `mx_waitset_wait`: each result
is a cookie and the signals observed; `(iostate_t*)cookie` is the state whose record lies
at that address now. -/
def handleWatcherScheduleRequest (e : Env) (results : List (IosAddr × Signals)) (s : Sys) :
    Sys :=
  results.foldl (fun s r => watcherDispatch e s (s.heap.owner r.1) r.2) s

end Netstack
