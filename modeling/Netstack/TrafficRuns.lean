import Netstack.Server
import Netstack.Traffic

/-!
# Every run keeps the traffic in order

`Netstack.Traffic` shows what each handler does to the pipelines of the states and to the
RIO conversation.  This module carries that through `OPEN` and its sub-handlers,
`handle_request`, the two readiness sources and the steps of the server, so that it holds
over whole runs: whatever the clients send, whatever the network stack and the kernel
answer, and however the requests of all connections interleave, no state's bytes are lost,
repeated or reordered, in either direction, between its data endpoint and its socket, and
every RIO request is answered exactly once.

The ordering half of P5 is the exception: `do_write_stream` can write the half-close marker
on the data endpoint while inbound bytes still wait in `rbuf`
(`doWriteStream_halfCloses_before_inbound`), and a run reaches that state.

Buffers are values of the state that holds them here, so the results are about the
pipelines; that two states never share a buffer is the pool's concern (`Netstack.Pool`).
-/

namespace Netstack

/-! ## Client handles and `OPEN` -/

section Open

variable {e : Env} {k : Kernel} {i : IosId} {s : Sys} {o : OpenOut} {ρ : RioState}

theorem traffic_handlePairCreate (h : Traffic s ρ) (r : Status) :
    Traffic (handlePairCreate s r).1 ρ := by
  unfold handlePairCreate
  split_ifs
  · exact h
  · exact ((h.of_frame (t := { s with nextHandle := s.nextHandle + 2 }) rfl rfl rfl).emit
      (.handleCreate s.nextHandle) rfl).emit
      (.handleCreate (s.nextHandle + 1)) rfl

theorem traffic_mxHandleClose (h : Traffic s ρ) (hd : Handle) : Traffic (mxHandleClose s hd) ρ := by
  unfold mxHandleClose
  split_ifs
  exacts [h, h.emit (.handleClose hd) rfl]

theorem traffic_createDataHandles (h : Traffic s ρ) (ht : HandleType) :
    Traffic (createDataHandles k s ht).1 ρ := by
  cases ht <;> dsimp only [createDataHandles]
  · exact h
  all_goals exact traffic_handlePairCreate h _

theorem traffic_createHandles (h : Traffic s ρ) : Traffic (createHandles k s i o).1 ρ := by
  have h1 := traffic_handlePairCreate h (k.channelCreate s.nextHandle)
  dsimp only [createHandles]
  split
  · rename_i heq
    simpa [heq] using h1
  · rename_i s1 rio0 rio1 heq
    rw [heq] at h1
    have h2 := traffic_createDataHandles (k := k) h1 (s1.ios i).handleType
    split
    · rename_i heq2
      rw [heq2] at h2
      exact traffic_mxHandleClose (traffic_mxHandleClose h2 _) _
    · rename_i s2 r data0 data1 hcount heq2
      rw [heq2] at h2
      have h3 : Traffic (s2.setIos i { s2.ios i with dataH := data0 }) ρ :=
        h2.setIos_frame (by rfl) (by rfl)
      by_cases hr : k.dispatcherAdd < 0
      · rw [if_pos hr]
        exact traffic_mxHandleClose (traffic_mxHandleClose (traffic_mxHandleClose
          (traffic_mxHandleClose (h3.setIos_frame (by rfl) (by rfl)) _) _) _) _
      · rw [if_neg hr]
        split_ifs
        exacts [traffic_iostateAcquire h3 _, h3]

/-- A fresh state set up as its sub-handler sets it: with its kind, but nothing pending. -/
theorem traffic_iostateAlloc_setIos (h : Traffic s ρ) (r : IOState)
    (hp : r.pipes = ((iostateAlloc s).1.ios (iostateAlloc s).2).pipes) :
    Traffic ((iostateAlloc s).1.setIos (iostateAlloc s).2 r) ρ :=
  (traffic_iostateAlloc h).setIos_kind hp (by rw [iostateAlloc_new]; exact ⟨rfl, rfl⟩)
    (by simp [iostateAlloc])

theorem traffic_doNone (h : Traffic s ρ) : Traffic (doNone k s o).1 ρ := by
  have hnew := traffic_iostateAlloc_setIos h
  dsimp only [doNone]
  generalize iostateAlloc s = p at hnew ⊢
  obtain ⟨s1, n⟩ := p
  dsimp only at hnew ⊢
  have h2 := traffic_createHandles (k := k) (i := n) (o := o)
    (hnew { s1.ios n with handleType := .none } rfl)
  split_ifs
  exacts [traffic_iostateRelease h2 _, h2]

theorem traffic_doSocket (msg : Msg) (h : Traffic s ρ) : Traffic (doSocket e s msg o).1 ρ := by
  unfold doSocket
  split
  · exact h
  split
  · exact h
  split
  · exact h
  rename_i _ _ _ _ d t p _ _ ht _
  have hnew := traffic_iostateAlloc_setIos h
  generalize iostateAlloc s = p at hnew ⊢
  obtain ⟨s1, n⟩ := p
  dsimp only at hnew ⊢
  cases hres : e.net.socket d t p with
  | error err =>
    simp only [NetResult.errno_error]
    rw [if_pos (by simp)]
    exact hnew _ rfl
  | ok fd =>
    simp only [NetResult.errno_ok, ne_eq, not_true_eq_false, if_false]
    have h2 := (hnew { s1.ios n with handleType := ht, sockfd := fd, lastErrno := 0 } rfl).emit
      (.netSocket fd) rfl
    generalize (e.net.ioctlFionbio fd).errno = errno_
    generalize hs3 : Sys.setIos (Sys.emit _ _) n _ = s3
    have h3 : Traffic s3 ρ := by subst hs3; exact h2.setIos_frame (by rfl) (by rfl)
    have h4 := traffic_createHandles (k := e.kern) (i := n) (o := o) h3
    split_ifs
    · exact traffic_iostateRelease h4 _
    · exact traffic_scheduleW (traffic_socketSignalsSet (traffic_fdEventSet h4 _ _) _ _ _)
    · exact traffic_socketSignalsSet (traffic_fdEventSet h4 _ _) _ _ _
    · exact traffic_iostateRelease h3 _

theorem traffic_doAccept (j : IosId) (h : Traffic s ρ) : Traffic (doAccept e s j o).1 ρ := by
  dsimp only [doAccept]
  split
  · exact h.setIos_frame (by rfl) (by rfl)
  rename_i fd _
  generalize hs2 : Sys.emit _ (.netSocket fd) = s2
  have h2 : Traffic s2 ρ := hs2 ▸ (h.setIos_frame (by rfl) (by rfl)).emit _ rfl
  have h3 : Traffic (scheduleSigconnR (if (s.ios j).handleType = .stream
      then mxObjectSignalPeer e.kern s2 j mxsioSignalIncoming mxSignalNone else s2) j) ρ := by
    split_ifs
    exacts [traffic_scheduleSigconnR (traffic_mxObjectSignalPeer h2 _ _ _ _),
      traffic_scheduleSigconnR h2]
  generalize scheduleSigconnR _ j = s3 at h3 ⊢
  have hnew := traffic_iostateAlloc_setIos h3
  generalize iostateAlloc s3 = p at hnew ⊢
  obtain ⟨s4, n⟩ := p
  dsimp only at hnew ⊢
  have h5 := hnew { s4.ios n with handleType := (s.ios j).handleType, sockfd := fd } rfl
  generalize (e.net.ioctlFionbio fd).errno = errno_
  generalize hs6 : Sys.setIos _ j _ = s6
  have h6 : Traffic s6 ρ := by subst hs6; exact h5.setIos_frame (by rfl) (by rfl)
  have h7 := traffic_createHandles (k := e.kern) (i := n) (o := o) h6
  split_ifs
  · exact traffic_iostateRelease h6 _
  · exact traffic_iostateRelease h7 _
  · exact traffic_scheduleRw (traffic_socketSignalsSet (traffic_fdEventSet h7 _ _) _ _ _)

/-- `do_open` answers the `OPEN` that waits, whatever its sub-handler does. -/
theorem traffic_doOpen (j : IosId) (msg : Msg) (h : Traffic s (.awaiting .mxrioOpen)) :
    Traffic (doOpen e s j msg).1 .idle := by
  dsimp only [doOpen]
  refine traffic_mxHandleClose (Traffic.emit_openReply ?_ _ _ _) _
  split_ifs
  exacts [h, traffic_doNone h, traffic_doSocket msg h, traffic_doAccept j h, h]

end Open

/-! ## Requests, readiness and steps -/

section Steps

variable {e : Env} {s : Sys} {ρ : RioState}

/-- Every handler but `do_open` leaves the RIO conversation where it stands. -/
theorem traffic_doFunc (rq : Request) (signals : Signals) (hop : rq.op ≠ .mxrioOpen)
    (h : Traffic s ρ) : Traffic (doFunc e rq signals s).1 ρ := by
  unfold doFunc
  split
  · contradiction
  exacts [traffic_doClose h, traffic_doConnect _ h, traffic_doBind _ h, traffic_doListen _ h,
    traffic_doWrite _ h, traffic_doRead h, traffic_doHalfclose h, traffic_doSigconnR h,
    traffic_doSigconnW h]

/-- `handle_request` answers a RIO request once, and an internal one never. -/
theorem traffic_handleRequest (rq : Request) (signals : Signals) (h : Traffic s .idle) :
    Traffic (handleRequest e rq signals s) .idle := by
  dsimp only [handleRequest]
  cases hop : rq.op.internal
  case false =>
    have h1 := h.emit_request rq.op rq.ios hop
    have hge := errIo_le_doFunc (e := e) (s := s.emit (.handled rq.op rq.ios)) rq signals hop
    rw [if_neg (by rintro h; rw [h] at hge; exact absurd hge (by decide)),
      if_neg (by rintro h; rw [h] at hge; exact absurd hge (by decide)), if_neg Bool.false_ne_true]
    by_cases ho : rq.op = .mxrioOpen
    · have hopen : doFunc e rq signals (s.emit (.handled rq.op rq.ios)) =
          doOpen e (s.emit (.handled rq.op rq.ios)) rq.ios rq.msg := by
        simp [doFunc, ho]
      simp only [sendStatus, if_pos ho, hopen]
      exact traffic_doOpen _ _ (ho ▸ h1)
    · simp only [sendStatus, if_neg ho]
      exact (traffic_doFunc rq signals ho h1).emit_statusReply ho _
  case true =>
    have hne : rq.op ≠ .mxrioOpen := fun he => by simp [he, Op.internal] at hop
    have h1 := traffic_doFunc (e := e) rq signals hne
      (h.emit (.handled rq.op rq.ios) (by simp [Call.quiet, Call.streamOf, Call.rio, hop]))
    split_ifs with _ _ hint
    exacts [traffic_waitQueuePut h1 _ _ _, traffic_waitQueuePut h1 _ _ _, h1, absurd rfl hint]

theorem traffic_foldl_handleRequest (signals : Signals) : ∀ (q : List Request) (s : Sys),
    Traffic s .idle → Traffic (q.foldl (fun s rq => handleRequest e rq signals s) s) .idle
  | [], _, h => h
  | rq :: q, _, h => traffic_foldl_handleRequest signals q _ (traffic_handleRequest rq signals h)

theorem traffic_netReady (fd : Int) (h : Traffic s .idle) : Traffic (netReady e fd s) .idle :=
  traffic_foldl_handleRequest _ _ _ (traffic_waitQueueSwap h .net fd)

theorem traffic_watcherDispatch (j : IosId) (satisfied : Signals) (h : Traffic s .idle) :
    Traffic (watcherDispatch e s j satisfied) .idle := by
  have h1 := traffic_socketSignalsClear h e.kern j satisfied
  dsimp only [watcherDispatch]
  split_ifs
  exacts [traffic_handleRequestClose h1, traffic_handleRequestHalfclose h1,
    traffic_foldl_handleRequest _ _ _ (traffic_waitQueueSwap h1 _ _), h1]

theorem traffic_handleWatcherScheduleRequest : ∀ (results : List (IosAddr × Signals)) (s : Sys),
    Traffic s .idle → Traffic (handleWatcherScheduleRequest e results s) .idle
  | [], _, h => h
  | r :: results, _, h =>
    traffic_handleWatcherScheduleRequest results _ (traffic_watcherDispatch _ r.2 h)

/-- The step lemma: every step of the server keeps its traffic in order. -/
theorem traffic_step (h : Traffic s .idle) (a : Action) : Traffic (step s a) .idle := by
  cases a with
  | rio j op msg e => exact traffic_handleRequest _ _ h
  | netReady fd e => exact traffic_netReady fd h
  | watcher results e => exact traffic_handleWatcherScheduleRequest results s h
  | rioPeerClosed j => exact traffic_iostateRelease h j

/-- The run lemma. -/
theorem traffic_run : ∀ (acts : List Action) (s : Sys), Traffic s .idle → Traffic (run s acts) .idle
  | [], _, h => h
  | a :: acts, _, h => traffic_run acts _ (traffic_step h a)

end Steps

/-- Over every run of the server from its start, whatever the clients send, whatever the
network stack and the kernel answer, and however the requests, readiness events and watcher
rounds of all connections interleave, the write pipeline of every state is exact: the bytes
`net_write` accepted for it, followed by `wbuf->data[woff, wlen)`, are the bytes
`mx_socket_read` took from its data endpoint, so the former are a prefix of the latter, and
its statistics counters agree with the buffer. -/
theorem run_sends_in_order (acts : List Action) (i : IosId) :
    let s : Sys := run Sys.init acts
    WriteInv (s.ios i) s.log i ∧ sent s.log i <+: taken s.log i := by
  have h := (traffic_run acts Sys.init traffic_init).outbound i
  exact ⟨h, _, h.stream⟩

/-- Over every run of the server from its start, in the same sense, the read pipeline of
every state is exact: the bytes `mx_socket_write` put into its data endpoint, followed by
`rbuf->data[roff, rlen)`, are the bytes `net_read` returned from its socket, so the former
are a prefix of the latter; the pending run lies inside the buffer, and the statistics
counters agree with it. -/
theorem run_delivers_in_order (acts : List Action) (i : IosId) :
    let s : Sys := run Sys.init acts
    delivered s.log i ++ (s.ios i).readPending = received s.log i ∧
      delivered s.log i <+: received s.log i ∧
      (s.ios i).roff ≤ (s.ios i).rlen ∧ (s.ios i).rlen ≤ rwbufSize ∧
      (s.ios i).readNetRead + (s.ios i).roff = (s.ios i).readSocketWrite + (s.ios i).rlen := by
  have h := (traffic_run acts Sys.init traffic_init).inbound i
  have hs : delivered (run Sys.init acts).log i ++ ((run Sys.init acts).ios i).readPending =
      received (run Sys.init acts).log i := by simpa using h.stream
  exact ⟨hs, ⟨_, hs⟩, h.roff_le, h.rlen_le, h.counters⟩

/-- An endpoint that takes no bytes: every write would block. -/
def kernelFull : Kernel := { Kernel.ok with socketWrite := fun _ => .failed errShouldWait }

/-- An endpoint whose reads fail with `ERR_IO`. -/
def kernelBroken : Kernel := { Kernel.ok with socketRead := fun _ => .failed errIo }

set_option maxRecDepth 100000 in
/-- Why the inbound pipeline is counted without half-close markers: a connected stream
reads two bytes from its socket that its full endpoint cannot take, and its `WRITE` then
finds the endpoint broken and writes the marker ahead of them. -/
example :
    let s : Sys := run Sys.init (connectedStream ++ [.netReady 3 ⟨backendHolding [7, 8], kernelFull⟩])
    (s.ios 1).readPending = [7, 8] ∧
      (doWriteStream ⟨Backend.wouldBlock, kernelBroken⟩ s 1 mxSignalNone).1.log =
        s.log ++ [.socketHalfClose 1] := by
  decide

end Netstack
