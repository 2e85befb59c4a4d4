import Netstack.Server

/-!
# A listening socket keeps its accept wakeup

After a successful `LISTEN` on a stream state, `do_listen` queues a `SIGCONN_R` request
under its descriptor; when the socket becomes readable, `do_sigconn_r` asserts `INCOMING`
on the client's data endpoint; and `do_accept`, once `net_accept` returns a connection,
deasserts `INCOMING` and queues `SIGCONN_R` again.  So until the state is closed a
`SIGCONN_R` request waits for it or `INCOMING` tells the client to accept.

The proof follows what each part of a step may do to the listening state `i`.  Most
functions only add (`Grows`).  `do_close` of another state removes the requests under that
state's descriptor, which is not `i`'s as long as no other state holds it; `OPEN` creates
states whose descriptors the network stack must not give out twice; `do_accept` on `i`
re-arms what it clears; and the net multiplexer detaches `i`'s request only to hand it to
`do_sigconn_r` in the same step.
-/

namespace Netstack

/-- `i` has a wakeup for incoming connections: `INCOMING` is asserted on its client end,
or a `SIGCONN_R` request for it waits under its descriptor. -/
def Armed (s : Sys) (i : IosId) : Prop :=
  (s.peerSignals i).incoming = true ∨ ((s.ios i).sockfd, requestPack .ioSigconnR i) ∈ s.waitNet

/-- No other state holds `i`'s descriptor. -/
def SoleOwner (s : Sys) (i : IosId) : Prop := ∀ j ≠ i, (s.ios j).sockfd ≠ (s.ios i).sockfd

/-- The collaborators' side towards a state holding `fd`: `mx_object_signal_peer`
succeeds, and the network stack gives out `fd` to no new socket. -/
structure Env.Honest (e : Env) (fd : Int) : Prop where
  signalPeer : 0 ≤ e.kern.signalPeer
  socket : ∀ d t p n, e.net.socket d t p = .ok n → (n : Int) ≠ fd
  accept : ∀ f n, e.net.accept f = .ok n → (n : Int) ≠ fd

theorem Env.Honest.closed {e : Env} {fd : Int} (h : e.Honest fd) : e.Honest (-1) :=
  ⟨h.signalPeer, fun _ _ _ _ _ => by omega, fun _ _ _ => by omega⟩

/-! ## Changes that only add -/

/-- A change that creates no state, moves no descriptor, changes no kind, removes nothing
from the net-wait queue and deasserts no `INCOMING`. -/
structure Grows (s t : Sys) : Prop where
  nextIos : t.nextIos = s.nextIos
  sockfd : ∀ j, (t.ios j).sockfd = (s.ios j).sockfd
  handleType : ∀ j, (t.ios j).handleType = (s.ios j).handleType
  waitNet : s.waitNet ⊆ t.waitNet
  incoming : ∀ j, (s.peerSignals j).incoming = true → (t.peerSignals j).incoming = true

namespace Grows

variable {s t u : Sys}

theorem refl (s : Sys) : Grows s s :=
  ⟨rfl, fun _ => rfl, fun _ => rfl, List.Subset.refl _, fun _ h => h⟩

theorem trans (h₁ : Grows s t) (h₂ : Grows t u) : Grows s u :=
  ⟨h₂.nextIos.trans h₁.nextIos, fun j => (h₂.sockfd j).trans (h₁.sockfd j),
    fun j => (h₂.handleType j).trans (h₁.handleType j), fun _ h => h₂.waitNet (h₁.waitNet h),
    fun j h => h₂.incoming j (h₁.incoming j h)⟩

/-- A change of none of the four parts. -/
theorem of_frame (hn : t.nextIos = s.nextIos) (hios : t.ios = s.ios)
    (hnet : t.waitNet = s.waitNet) (hpeer : t.peerSignals = s.peerSignals) : Grows s t :=
  ⟨hn, fun _ => by rw [hios], fun _ => by rw [hios], fun _ h => hnet ▸ h,
    fun _ h => hpeer ▸ h⟩

end Grows

section Primitives

variable (s : Sys)

theorem grows_emit (c : Call) : Grows s (s.emit c) := .of_frame rfl rfl rfl rfl

theorem grows_setIos {j : IosId} {r : IOState} (h1 : r.sockfd = (s.ios j).sockfd)
    (h2 : r.handleType = (s.ios j).handleType) : Grows s (s.setIos j r) where
  nextIos := rfl
  sockfd k := by by_cases hk : k = j <;> simp [hk, h1]
  handleType k := by by_cases hk : k = j <;> simp [hk, h2]
  waitNet _ h := h
  incoming _ h := h

theorem grows_fdEventSet (fd : Int) (ev : Events) : Grows s (fdEventSet s fd ev) :=
  .of_frame rfl rfl rfl rfl

theorem grows_waitQueuePut (q : WaitQueue) (fd : Int) (rq : Request) :
    Grows s (waitQueuePut s q fd rq) := by
  cases q
  · exact ⟨rfl, fun _ => rfl, fun _ => rfl, List.subset_append_left _ _, fun _ h => h⟩
  · exact .of_frame rfl rfl rfl rfl

theorem grows_waitQueueSwap_socket (fd : Int) : Grows s (waitQueueSwap s .socket fd).1 :=
  .of_frame rfl rfl rfl rfl

theorem grows_getRwbuf : Grows s (getRwbuf s).1 := by
  unfold getRwbuf; split <;> exact .of_frame rfl rfl rfl rfl

theorem grows_putRwbuf (b : Option RwBuf) : Grows s (putRwbuf s b) := by
  cases b <;> exact .of_frame rfl rfl rfl rfl

theorem grows_socketSignalsChange (k : Kernel) (i : IosId) (oldSigs newSigs : Signals) :
    Grows s (socketSignalsChange k s i oldSigs newSigs) := by
  obtain ⟨ws, w, he⟩ := socketSignalsChange_eq k s i oldSigs newSigs
  have hws : Grows s { s with waitset := ws } := .of_frame rfl rfl rfl rfl
  rw [he]
  exact hws.trans (grows_setIos _ (by rfl) (by rfl))

theorem grows_socketSignalsSet (k : Kernel) (i : IosId) (sigs : Signals) :
    Grows s (socketSignalsSet k s i sigs) := by
  dsimp only [socketSignalsSet]
  split_ifs
  · exact .refl s
  · exact grows_socketSignalsChange s k i _ _

theorem grows_socketSignalsClear (k : Kernel) (i : IosId) (sigs : Signals) :
    Grows s (socketSignalsClear k s i sigs) := by
  dsimp only [socketSignalsClear]
  split_ifs
  · exact .refl s
  · exact grows_socketSignalsChange s k i _ _

/-- Signalling the client never deasserts `INCOMING` unless asked to. -/
theorem grows_mxObjectSignalPeer (k : Kernel) (j : IosId) {clear : Signals} (set : Signals)
    (hc : clear.incoming = false) : Grows s (mxObjectSignalPeer k s j clear set) := by
  unfold mxObjectSignalPeer
  split_ifs
  · exact .refl s
  · refine ⟨rfl, fun _ => rfl, fun _ => rfl, fun _ h => h, fun l hl => ?_⟩
    by_cases hlj : l = j
    · subst hlj; simp [hl, hc]
    · simpa [Function.update_noteq hlj] using hl

theorem grows_iostateAcquire (i : IosId) : Grows s (iostateAcquire s i) :=
  (grows_setIos s (by rfl) (by rfl)).trans (grows_emit _ _)

theorem grows_iostateRelease (i : IosId) : Grows s (iostateRelease s i) := by
  have h : Grows s ((s.setIos i { s.ios i with refcount := (s.ios i).refcount - 1 }).emit
      (.iostateRelease i)) := (grows_setIos s (by rfl) (by rfl)).trans (grows_emit _ _)
  dsimp only [iostateRelease]
  split_ifs
  · exact h.trans ((grows_putRwbuf _ _).trans ((grows_putRwbuf _ _).trans (.of_frame rfl rfl rfl rfl)))
  · exact h

end Primitives

/-! ## Handlers that only add -/

section Handlers

variable (s : Sys) (e : Env) (k : Kernel) (i : IosId)

theorem grows_scheduleSigconnR : Grows s (scheduleSigconnR s i) :=
  (grows_fdEventSet _ _ _).trans (grows_waitQueuePut _ _ _ _)

theorem grows_scheduleSigconnW : Grows s (scheduleSigconnW s i) :=
  (grows_fdEventSet _ _ _).trans (grows_waitQueuePut _ _ _ _)

theorem grows_scheduleR : Grows s (scheduleR s i) :=
  (grows_fdEventSet _ _ _).trans (grows_waitQueuePut _ _ _ _)

theorem grows_scheduleW : Grows s (scheduleW k s i) :=
  (grows_socketSignalsSet _ _ _ _).trans (grows_waitQueuePut _ _ _ _)

theorem grows_scheduleRw : Grows s (scheduleRw k s i) := by
  have h : Grows s (if (s.ios i).handleType = .stream
      then mxObjectSignalPeer k s i mxSignalNone mxsioSignalConnected else s) := by
    split_ifs
    · exact grows_mxObjectSignalPeer _ _ _ _ rfl
    · exact .refl s
  exact h.trans ((grows_scheduleR _ _).trans (grows_scheduleW _ _ _))

theorem grows_readStreamDrained : Grows s (readStreamDrained s i).1 :=
  (grows_setIos s (by rfl) (by rfl)).trans (grows_fdEventSet _ _ _)

theorem grows_readStreamPush : ∀ fuel s, Grows s (readStreamPush k i fuel s).1
  | 0, s => grows_readStreamDrained s i
  | fuel + 1, s => by
    simp only [readStreamPush]
    split_ifs
    · cases k.socketWrite (s.ios i).readPending with
      | failed r =>
        dsimp only
        split_ifs
        · exact grows_socketSignalsSet _ _ _ _
        · exact .refl s
      | wrote n _ _ =>
        exact ((grows_setIos s (by rfl) (by rfl)).trans (grows_emit _ _)).trans
          (grows_readStreamPush fuel _)
    · exact grows_readStreamDrained s i

theorem grows_readStreamConnectionClosed : Grows s (readStreamConnectionClosed k s i).1 := by
  dsimp only [readStreamConnectionClosed]
  split_ifs <;> first | exact .refl s | exact grows_emit _ _

theorem grows_readStreamBuf : Grows s (readStreamBuf s i).1 := by
  unfold readStreamBuf; split
  · exact .refl s
  · exact grows_getRwbuf s

theorem grows_doReadStream : Grows s (doReadStream e s i).1 := by
  by_cases h0 : (s.ios i).rlen ≤ 0
  · rcases hsb : readStreamBuf s i with ⟨s1, b⟩
    have h1 : Grows s s1 := by simpa [hsb] using grows_readStreamBuf s i
    have hios : s1.ios = s.ios := by simpa [hsb] using readStreamBuf_ios s i
    simp only [doReadStream, if_pos h0, hsb]
    generalize e.net.read (s.ios i).sockfd rwbufSize = n
    have h2 : Grows s (s1.setIos i { s.ios i with rbuf := some b, lastErrno := n.errno }) :=
      h1.trans (grows_setIos _ (by rw [hios]) (by rw [hios]))
    cases n with
    | error err =>
      dsimp only
      split_ifs
      · exact h2.trans (grows_fdEventSet _ _ _)
      · exact h2.trans (grows_readStreamConnectionClosed _ _ _)
    | ok r =>
      obtain ⟨bytes, _⟩ := r
      dsimp only
      split_ifs
      · exact (h2.trans (grows_emit _ _)).trans (grows_readStreamConnectionClosed _ _ _)
      · exact ((h2.trans (grows_emit _ _)).trans (grows_setIos _ (by rfl) (by rfl))).trans
          (grows_readStreamPush _ _ _ _)
  · simp only [doReadStream, if_neg h0]
    exact grows_readStreamPush _ _ _ _

theorem grows_doReadDgram : Grows s (doReadDgram e s i).1 := by
  unfold doReadDgram
  rcases hsb : readStreamBuf s i with ⟨s1, b⟩
  have h1 : Grows s s1 := by simpa [hsb] using grows_readStreamBuf s i
  dsimp only
  generalize e.net.recvfrom (s1.ios i).sockfd rwbufSize = n
  have h2 : Grows s (s1.setIos i { s1.ios i with rbuf := some b, lastErrno := n.errno }) :=
    h1.trans (grows_setIos _ (by rfl) (by rfl))
  cases n with
  | error err =>
    dsimp only
    split_ifs
    · exact h2.trans (grows_fdEventSet _ _ _)
    · exact h2
  | ok r =>
    obtain ⟨addr, payload, _⟩ := r
    dsimp only
    split_ifs
    · exact h2
    · exact ((h2.trans (grows_emit _ _)).trans (grows_setIos _ (by rfl) (by rfl))).trans
        (grows_fdEventSet _ _ _)

theorem grows_doRead : Grows s (doRead e s i).1 := by
  unfold doRead
  split
  · exact grows_doReadStream s e i
  · exact grows_doReadDgram s e i
  · exact .refl s

theorem grows_writeStreamDrained : Grows s (writeStreamDrained k s i).1 :=
  (grows_setIos s (by rfl) (by rfl)).trans (grows_socketSignalsSet _ _ _ _)

theorem grows_writeStreamPush : ∀ fuel s, Grows s (writeStreamPush e i fuel s).1
  | 0, s => grows_writeStreamDrained s e.kern i
  | fuel + 1, s => by
    simp only [writeStreamPush]
    split_ifs
    · cases e.net.write (s.ios i).sockfd (s.ios i).writePending with
      | error err =>
        dsimp only
        split_ifs
        · exact (grows_setIos s (by rfl) (by rfl)).trans (grows_fdEventSet _ _ _)
        · exact grows_setIos s (by rfl) (by rfl)
      | ok r =>
        obtain ⟨n, _⟩ := r
        exact ((grows_setIos s (by rfl) (by rfl)).trans (grows_emit _ _)).trans
          (grows_writeStreamPush fuel _)
    · exact grows_writeStreamDrained s e.kern i

theorem grows_writeStreamBuf : Grows s (writeStreamBuf s i).1 := by
  unfold writeStreamBuf; split
  · exact .refl s
  · exact grows_getRwbuf s

theorem grows_doHalfclose : Grows s (doHalfclose k s i).1 :=
  (grows_emit _ _).trans (grows_socketSignalsSet _ _ _ _)

theorem grows_handleRequestHalfclose : Grows s (handleRequestHalfclose k s i) :=
  (grows_emit _ _).trans (grows_doHalfclose _ _ _)

theorem grows_doConnect (msg : Msg) : Grows s (doConnect e s i msg).1 := by
  dsimp only [doConnect]
  generalize (e.net.connect (s.ios i).sockfd (msg.data.take msg.datalen)).errno = errno_
  have h1 : Grows s (s.setIos i { s.ios i with lastErrno := errno_ }) :=
    grows_setIos s (by rfl) (by rfl)
  have h2 : Grows s (if errno_ = einprogress
      then scheduleSigconnW (s.setIos i { s.ios i with lastErrno := errno_ }) i
      else s.setIos i { s.ios i with lastErrno := errno_ }) := by
    split_ifs
    · exact h1.trans (grows_scheduleSigconnW _ _)
    · exact h1
  by_cases he : errno_ ≠ 0
  · rw [if_pos he]; exact h2
  · rw [if_neg he]
    by_cases ht : (s.ios i).handleType = .stream
    · rw [if_pos ht]; exact h2.trans (grows_scheduleRw _ _ _)
    · rw [if_neg ht]; exact h2

theorem grows_doSigconnW : Grows s (doSigconnW e s i).1 := by
  dsimp only [doSigconnW]
  generalize hs1 : (if (s.ios i).handleType = .stream
    then mxObjectSignalPeer e.kern s i mxSignalNone mxsioSignalOutgoing else s) = s1
  have h1 : Grows s s1 := by
    subst hs1
    split_ifs
    · exact grows_mxObjectSignalPeer _ _ _ _ rfl
    · exact .refl s
  split
  · dsimp only
    split_ifs
    · exact (h1.trans (grows_setIos _ (by rfl) (by rfl))).trans (grows_scheduleRw _ _ _)
    · exact h1.trans (grows_setIos _ (by rfl) (by rfl))
  · exact h1

theorem grows_doBind (msg : Msg) : Grows s (doBind e s i msg).1 := by
  unfold doBind
  dsimp only
  split_ifs
  · exact grows_setIos s (by rfl) (by rfl)
  · exact (grows_setIos s (by rfl) (by rfl)).trans (grows_scheduleR _ _)
  · exact grows_setIos s (by rfl) (by rfl)

theorem grows_doListen (msg : Msg) : Grows s (doListen e s i msg).1 := by
  unfold doListen
  dsimp only
  split_ifs
  · exact .refl s
  · exact grows_scheduleSigconnR s i

theorem grows_doSigconnR : Grows s (doSigconnR k s i).1 := by
  unfold doSigconnR
  dsimp only
  split_ifs
  · exact grows_mxObjectSignalPeer _ _ _ _ rfl
  · exact .refl s

end Handlers

/-! ## Client handles -/

section Handles

variable (s : Sys) (k : Kernel) (i : IosId)

theorem grows_handlePairCreate (r : Status) : Grows s (handlePairCreate s r).1 := by
  unfold handlePairCreate
  split_ifs
  · exact .refl s
  · exact .of_frame rfl rfl rfl rfl

theorem grows_mxHandleClose (h : Handle) : Grows s (mxHandleClose s h) := by
  unfold mxHandleClose
  split_ifs
  · exact .refl s
  · exact grows_emit _ _

theorem grows_createDataHandles (ht : HandleType) : Grows s (createDataHandles k s ht).1 := by
  cases ht <;> dsimp only [createDataHandles]
  · exact .refl s
  all_goals exact grows_handlePairCreate s _

theorem grows_createHandles (out : OpenOut) : Grows s (createHandles k s i out).1 := by
  have h1 := grows_handlePairCreate s (k.channelCreate s.nextHandle)
  dsimp only [createHandles]
  split
  · rename_i heq
    simpa [heq] using h1
  · rename_i s1 rio0 rio1 heq
    rw [heq] at h1
    have h2 := grows_createDataHandles s1 k (s1.ios i).handleType
    split
    · rename_i heq2
      rw [heq2] at h2
      exact (h1.trans h2).trans ((grows_mxHandleClose _ _).trans (grows_mxHandleClose _ _))
    · rename_i s2 r data0 data1 hcount heq2
      rw [heq2] at h2
      have h3 : Grows s (s2.setIos i { s2.ios i with dataH := data0 }) :=
        (h1.trans h2).trans (grows_setIos _ (by rfl) (by rfl))
      by_cases hr : k.dispatcherAdd < 0
      · rw [if_pos hr]
        exact (h3.trans (grows_setIos _ (by rfl) (by rfl))).trans ((grows_mxHandleClose _ _).trans
          ((grows_mxHandleClose _ _).trans ((grows_mxHandleClose _ _).trans
            (grows_mxHandleClose _ _))))
      · rw [if_neg hr]
        split_ifs
        · exact h3.trans (grows_iostateAcquire _ _)
        · exact h3

end Handles

/-! ## What the listening state needs -/

/-- What a part of a step does to the state `i`: it keeps its kind, keeps its descriptor
or gives it up, and while it holds it stays its sole owner and keeps its wakeup; it
deasserts `INCOMING` on `i`'s client end only if `A` holds, which says what the part did. -/
structure Keeps (i : IosId) (A : Prop) (s t : Sys) : Prop where
  nextIos : s.nextIos ≤ t.nextIos
  handleType : (t.ios i).handleType = (s.ios i).handleType
  sockfd : (t.ios i).sockfd = (s.ios i).sockfd ∨ (t.ios i).sockfd = -1
  listening : 0 ≤ (t.ios i).sockfd → SoleOwner s i → SoleOwner t i ∧ (Armed s i → Armed t i)
  incoming : (s.peerSignals i).incoming = true → (t.peerSignals i).incoming = true ∨ A

section Keeps

variable {i : IosId} {A : Prop} {s t u : Sys}

theorem Grows.keeps (h : Grows s t) (i : IosId) : Keeps i A s t where
  nextIos := h.nextIos.ge
  handleType := h.handleType i
  sockfd := .inl (h.sockfd i)
  listening _ hso := ⟨fun j hj => by rw [h.sockfd, h.sockfd]; exact hso j hj,
    fun ha => ha.imp (h.incoming i) fun hm => by rw [h.sockfd]; exact h.waitNet hm⟩
  incoming hin := .inl (h.incoming i hin)

theorem Keeps.refl (i : IosId) (s : Sys) : Keeps i A s s := (Grows.refl s).keeps i

theorem Keeps.trans (h₁ : Keeps i A s t) (h₂ : Keeps i A t u) : Keeps i A s u := by
  refine ⟨h₁.nextIos.trans h₂.nextIos, by rw [h₂.handleType, h₁.handleType], ?_,
    fun hfd hso => ?_, fun hin => ?_⟩
  · rcases h₂.sockfd with h | h
    · rw [h]; exact h₁.sockfd
    · exact .inr h
  · have hfd' : 0 ≤ (t.ios i).sockfd := by rcases h₂.sockfd with h | h <;> omega
    obtain ⟨hso', harm⟩ := h₁.listening hfd' hso
    obtain ⟨hso'', harm'⟩ := h₂.listening hfd hso'
    exact ⟨hso'', harm' ∘ harm⟩
  · rcases h₁.incoming hin with h | h
    · exact h₂.incoming h
    · exact .inr h

/-- While `i` holds its descriptor, the collaborators keep their side towards it. -/
theorem Keeps.honest {e : Env} (h : Keeps i A s t) (he : e.Honest (s.ios i).sockfd) :
    e.Honest (t.ios i).sockfd := by
  rcases h.sockfd with h | h <;> rw [h]
  · exact he
  · exact he.closed

/-- Setting another state's record keeps `i` if the record does not take `i`'s
descriptor. -/
theorem keeps_setIos_other (s : Sys) (j : IosId) (r : IOState) (hj : j ≠ i)
    (hfd : 0 ≤ (s.ios i).sockfd → r.sockfd ≠ (s.ios i).sockfd) : Keeps i A s (s.setIos j r) where
  nextIos := le_rfl
  handleType := by simp [Ne.symm hj]
  sockfd := .inl (by simp [Ne.symm hj])
  listening hfdi hso := by
    simp only [Sys.setIos_ios_ne _ _ (Ne.symm hj)] at hfdi
    refine ⟨fun k hk => ?_, fun ha => by simpa [Armed, Ne.symm hj] using ha⟩
    by_cases hkj : k = j
    · subst hkj; simpa [Ne.symm hj] using hfd hfdi
    · simpa [hkj, Ne.symm hj] using hso k hk
  incoming hin := .inl hin

theorem keeps_iostateAlloc (hi : i < s.nextIos) : Keeps i A s (iostateAlloc s).1 := by
  have hne : s.nextIos ≠ i := Nat.ne_of_gt hi
  have h0 : Keeps i A s { s with nextIos := s.nextIos + 1, heap := s.heap.malloc s.nextIos } :=
    ⟨Nat.le_succ _, rfl, .inl rfl, fun _ hso => ⟨hso, id⟩, .inl⟩
  have h1 : Keeps i A { s with nextIos := s.nextIos + 1, heap := s.heap.malloc s.nextIos }
      ({ s with nextIos := s.nextIos + 1, heap := s.heap.malloc s.nextIos }.setIos s.nextIos
        { refcount := 1 }) :=
    keeps_setIos_other _ _ _ hne fun hfd h => by simp at hfd h; omega
  exact h0.trans (h1.trans ((grows_emit _ _).keeps i))

/-- `do_close` of any state keeps `i`: it gives up its own descriptor, and the requests it
discards for another state are not under `i`'s descriptor while `i` is its sole owner. -/
theorem keeps_doClose (s : Sys) (j : IosId) : Keeps i A s (doClose s j).1 := by
  dsimp only [doClose]
  refine Keeps.trans ?_ ((grows_iostateRelease _ _).keeps i)
  split_ifs with hfd
  · by_cases hj : j = i
    · subst hj
      exact ⟨le_rfl, by simp, .inr (by simp), fun h => by simp at h, fun h => .inl (by simpa using h)⟩
    · refine ⟨le_rfl, by simp [Ne.symm hj], .inl (by simp [Ne.symm hj]), fun hfdi hso => ?_,
        fun h => .inl (by simpa using h)⟩
      simp only [Sys.setIos_ios_ne _ _ (Ne.symm hj), waitQueueDiscard_ios, fdEventClear_ios,
        Sys.emit_ios] at hfdi ⊢
      refine ⟨fun k hk => ?_, fun ha => ?_⟩
      · by_cases hkj : k = j
        · rw [hkj]; simp [Ne.symm hj]; omega
        · simpa [hkj, Ne.symm hj] using hso k hk
      · simp only [Armed, Sys.setIos_peerSignals, Sys.setIos_waitNet, Sys.setIos_ios_ne _ _ (Ne.symm hj),
          waitQueueDiscard_peerSignals, waitQueueDiscard_socket_waitNet,
          waitQueueDiscard_net_waitNet, waitQueueDiscard_ios, fdEventClear_peerSignals,
          fdEventClear_waitNet, fdEventClear_ios, Sys.emit_peerSignals, Sys.emit_waitNet,
          Sys.emit_ios, List.mem_filter, decide_eq_true_eq] at ha ⊢
        exact ha.imp_right fun hm => ⟨hm, (hso j hj).symm⟩
  · exact Keeps.refl i s

theorem keeps_handleRequestClose (s : Sys) (j : IosId) :
    Keeps i A s (handleRequestClose s j) :=
  ((grows_emit _ _).keeps i).trans (keeps_doClose _ _)

section Writes

variable (e : Env) (s : Sys) (j : IosId) (signals : Signals)

theorem keeps_doWriteStream : Keeps i A s (doWriteStream e s j signals).1 := by
  by_cases h0 : (s.ios j).wlen ≤ 0
  · rcases hsb : writeStreamBuf s j with ⟨s1, b⟩
    have h1 : Grows s s1 := by simpa [hsb] using grows_writeStreamBuf s j
    have h2 : Grows s (s1.setIos j { s1.ios j with wbuf := some b }) :=
      h1.trans (grows_setIos _ (by rfl) (by rfl))
    simp only [doWriteStream, if_pos h0, hsb]
    cases e.kern.socketRead rwbufSize with
    | failed r =>
      dsimp only
      split_ifs
      · exact (h2.keeps i).trans (keeps_handleRequestClose _ _)
      · exact (h2.trans (grows_socketSignalsSet _ _ _ _)).keeps i
      · exact (h2.keeps i).trans (keeps_handleRequestClose _ _)
      · exact h2.keeps i
      · exact (h2.trans (grows_emit _ _)).keeps i
    | read bytes _ =>
      exact (((h2.trans (grows_emit _ _)).trans (grows_setIos _ (by rfl) (by rfl))).trans
        (grows_writeStreamPush _ _ _ _)).keeps i
  · simp only [doWriteStream, if_neg h0]
    exact (grows_writeStreamPush _ _ _ _).keeps i

theorem keeps_doWriteDgram : Keeps i A s (doWriteDgram e s j signals).1 := by
  rcases hsb : writeStreamBuf s j with ⟨s1, b⟩
  have h1 : Grows s s1 := by simpa [hsb] using grows_writeStreamBuf s j
  have h2 : Grows s (s1.setIos j { s1.ios j with wbuf := some b }) :=
    h1.trans (grows_setIos _ (by rfl) (by rfl))
  simp only [doWriteDgram, hsb]
  cases e.kern.channelRead with
  | failed r =>
    dsimp only
    split_ifs
    · exact (h2.keeps i).trans (keeps_handleRequestClose _ _)
    · exact (h2.trans (grows_socketSignalsSet _ _ _ _)).keeps i
    · exact (h2.keeps i).trans (keeps_handleRequestClose _ _)
    · exact h2.keeps i
  | short => exact (h2.trans (grows_socketSignalsSet _ _ _ _)).keeps i
  | read m =>
    dsimp only
    split
    · exact (((h2.trans (grows_emit _ _)).trans (grows_setIos _ (by rfl) (by rfl))).trans
        (grows_socketSignalsSet _ _ _ _)).keeps i
    · exact (h2.trans (grows_socketSignalsSet _ _ _ _)).keeps i

theorem keeps_doWrite : Keeps i A s (doWrite e s j signals).1 := by
  unfold doWrite
  split
  · exact keeps_doWriteStream e s j signals
  · exact keeps_doWriteDgram e s j signals
  · exact Keeps.refl i s

end Writes

section Open

variable (e : Env) (k : Kernel) (s : Sys) (out : OpenOut)

/-- A state allocated and then set up keeps `i`, when the descriptor it is given is not
the one `i` holds. -/
theorem keeps_iostateAlloc_setIos (hi : i < s.nextIos) (r : IOState)
    (hr : 0 ≤ (s.ios i).sockfd → r.sockfd ≠ (s.ios i).sockfd) :
    Keeps i A s ((iostateAlloc s).1.setIos (iostateAlloc s).2 r) := by
  have h1 := keeps_iostateAlloc (i := i) (A := A) hi
  refine h1.trans (keeps_setIos_other _ _ r (Nat.ne_of_gt hi) fun hfd => ?_)
  rcases h1.sockfd with h | h <;> rw [h] at hfd ⊢
  · exact hr hfd
  · omega

theorem keeps_doNone (hi : i < s.nextIos) : Keeps i A s (doNone k s out).1 := by
  have hnew := keeps_iostateAlloc_setIos (A := A) s hi
  have hfresh := iostateAlloc_new s
  dsimp only [doNone]
  generalize iostateAlloc s = p at hnew hfresh ⊢
  obtain ⟨s1, n⟩ := p
  dsimp only at hnew hfresh ⊢
  have h2 := hnew { s1.ios n with handleType := .none } fun _ h => by simp [hfresh] at h; omega
  have h3 := grows_createHandles (s1.setIos n { s1.ios n with handleType := .none }) k n out
  split_ifs
  · exact h2.trans ((h3.trans (grows_iostateRelease _ _)).keeps i)
  · exact h2.trans (h3.keeps i)

theorem keeps_doSocket (msg : Msg) (hi : i < s.nextIos)
    (hfresh : ∀ d t p n, e.net.socket d t p = .ok n → (n : Int) ≠ (s.ios i).sockfd) :
    Keeps i A s (doSocket e s msg out).1 := by
  unfold doSocket
  split
  · exact Keeps.refl i s
  split
  · exact Keeps.refl i s
  split
  · exact Keeps.refl i s
  rename_i _ _ _ _ d t p _ _ ht _
  have hnew := keeps_iostateAlloc_setIos (A := A) s hi
  generalize iostateAlloc s = p at hnew ⊢
  obtain ⟨s1, n⟩ := p
  dsimp only at hnew ⊢
  cases hres : e.net.socket d t p with
  | error err =>
    simp only [NetResult.errno_error]
    rw [if_pos (by simp)]
    exact hnew _ fun hfd h => by simp at h; omega
  | ok fd =>
    simp only [NetResult.errno_ok, ne_eq, not_true_eq_false, if_false]
    have h2 := (hnew { s1.ios n with handleType := ht, sockfd := fd, lastErrno := 0 }
      fun _ => hfresh d t p fd hres).trans ((grows_emit _ (.netSocket fd)).keeps i)
    generalize (e.net.ioctlFionbio fd).errno = errno_
    generalize hs3 : Sys.setIos (Sys.emit _ _) n _ = s3
    have h3 : Keeps i A s s3 := by
      subst hs3; exact h2.trans ((grows_setIos _ (by rfl) (by rfl)).keeps i)
    have h4 := grows_createHandles s3 e.kern n out
    split_ifs
    · exact h3.trans ((h4.trans (grows_iostateRelease _ _)).keeps i)
    · exact h3.trans ((((h4.trans (grows_fdEventSet _ _ _)).trans
        (grows_socketSignalsSet _ _ _ _)).trans (grows_scheduleW _ _ _)).keeps i)
    · exact h3.trans (((h4.trans (grows_fdEventSet _ _ _)).trans
        (grows_socketSignalsSet _ _ _ _)).keeps i)
    · exact h3.trans ((grows_iostateRelease _ _).keeps i)

/-- Queueing `SIGCONN_R` for `j` right after a change of `j`'s client signals keeps `i`:
if `j` is `i`, the request queued is `i`'s wakeup. -/
theorem keeps_scheduleSigconnR_after (u : Sys) (j : IosId) (hios : u.ios = s.ios)
    (hnet : u.waitNet = s.waitNet) (hnext : u.nextIos = s.nextIos)
    (hpeer : j ≠ i → u.peerSignals i = s.peerSignals i) (hA : j = i → A) :
    Keeps i A s (scheduleSigconnR u j) := by
  refine ⟨by simp [hnext], by simp [hios], .inl (by simp [hios]), fun _ hso => ⟨?_, fun ha => ?_⟩,
    fun hin => ?_⟩
  · simpa [SoleOwner, hios] using hso
  · by_cases hj : j = i
    · subst hj; exact .inr (by simp [hios])
    · rcases ha with ha | ha
      · exact .inl (by simpa [hpeer hj] using ha)
      · exact .inr (by simp [hios, hnet, ha])
  · by_cases hj : j = i
    · exact .inr (hA hj)
    · exact .inl (by simpa [hpeer hj] using hin)

/-- `do_accept` deasserts `INCOMING` on its own state only, once `net_accept` returned a
connection. -/
theorem keeps_doAccept (j : IosId) (hi : i < s.nextIos)
    (hfresh : ∀ f n, e.net.accept f = .ok n → (n : Int) ≠ (s.ios i).sockfd)
    (hA : (j = i ∧ ∃ n, e.net.accept (s.ios i).sockfd = .ok n) → A) :
    Keeps i A s (doAccept e s j out).1 := by
  dsimp only [doAccept]
  cases hres : e.net.accept (s.ios j).sockfd with
  | error err => exact (grows_setIos _ (by rfl) (by rfl)).keeps i
  | ok fd =>
    dsimp only
    have h2 : Grows s ((s.setIos j { s.ios j with lastErrno := NetResult.errno (.ok fd) }).emit
        (.netSocket fd)) := (grows_setIos _ (by rfl) (by rfl)).trans (grows_emit _ _)
    generalize Sys.emit _ (.netSocket fd) = s2 at h2 ⊢
    generalize hu : (if (s.ios j).handleType = .stream
      then mxObjectSignalPeer e.kern s2 j mxsioSignalIncoming mxSignalNone else s2) = u
    have hframe : u.ios = s2.ios ∧ u.waitNet = s2.waitNet ∧ u.nextIos = s2.nextIos := by
      subst hu; split_ifs <;> simp
    have h3 : Keeps i A s (scheduleSigconnR u j) := (h2.keeps i).trans
      (keeps_scheduleSigconnR_after s2 u j hframe.1 hframe.2.1 hframe.2.2
        (fun hj => by
          subst hu; split_ifs <;> simp [mxObjectSignalPeer_peerSignals_ne _ _ _ _ _ (Ne.symm hj)])
        fun hj => hA ⟨hj, fd, hj ▸ hres⟩)
    generalize scheduleSigconnR u j = s3 at h3 ⊢
    have hnew := keeps_iostateAlloc_setIos (A := A) s3 (Nat.lt_of_lt_of_le hi h3.nextIos)
    have hfd3 : 0 ≤ (s3.ios i).sockfd → (s3.ios i).sockfd = (s.ios i).sockfd := by
      rcases h3.sockfd with h | h <;> intro hfd <;> omega
    generalize iostateAlloc s3 = p at hnew ⊢
    obtain ⟨s4, n⟩ := p
    dsimp only at hnew ⊢
    have h5 := h3.trans (hnew { s4.ios n with handleType := (s.ios j).handleType, sockfd := fd }
      fun hfd => by rw [hfd3 hfd]; exact hfresh _ fd hres)
    generalize (e.net.ioctlFionbio fd).errno = errno_
    generalize hs6 : Sys.setIos _ j _ = s6
    have h6 : Keeps i A s s6 := by
      subst hs6; exact h5.trans ((grows_setIos _ (by rfl) (by rfl)).keeps i)
    have h7 := grows_createHandles s6 e.kern n out
    split_ifs
    · exact h6.trans ((grows_iostateRelease _ _).keeps i)
    · exact h6.trans ((h7.trans (grows_iostateRelease _ _)).keeps i)
    · exact h6.trans ((((h7.trans (grows_fdEventSet _ _ _)).trans
        (grows_socketSignalsSet _ _ _ _)).trans (grows_scheduleRw _ _ _)).keeps i)

theorem keeps_doOpen (j : IosId) (msg : Msg) (hi : i < s.nextIos)
    (he : e.Honest (s.ios i).sockfd)
    (hA : ((matchSubdir msg.path mxrioSocketDirAccept).isSome ∧ j = i ∧
      ∃ n, e.net.accept (s.ios i).sockfd = .ok n) → A) : Keeps i A s (doOpen e s j msg).1 := by
  dsimp only [doOpen]
  refine Keeps.trans ?_ (((grows_emit _ _).trans (grows_mxHandleClose _ _)).keeps i)
  split_ifs with _ _ _ hacc
  · exact Keeps.refl i s
  · exact keeps_doNone e.kern s {} hi
  · exact keeps_doSocket e s {} msg hi he.socket
  · exact keeps_doAccept e s {} j hi he.accept fun h => hA ⟨hacc, h⟩
  · exact Keeps.refl i s

end Open

end Keeps

/-! ## Whole requests -/

section Requests

variable {i : IosId} {A : Prop} (e : Env) (s : Sys)

theorem grows_sendStatus (op : Op) (r : Status) : Grows s (sendStatus s op r) := by
  unfold sendStatus
  split_ifs
  · exact .refl s
  · exact grows_emit _ _

/-- What a request must be for its handler to deassert `INCOMING` on `i`'s client end: an
`OPEN` of `accept` on `i` whose `net_accept` returned a connection. -/
def AcceptsOn (e : Env) (s : Sys) (i : IosId) (rq : Request) : Prop :=
  rq.op = .mxrioOpen ∧ (matchSubdir rq.msg.path mxrioSocketDirAccept).isSome ∧ rq.ios = i ∧
    ∃ n, e.net.accept (s.ios i).sockfd = .ok n

theorem keeps_doFunc (rq : Request) (signals : Signals) (hi : i < s.nextIos)
    (he : e.Honest (s.ios i).sockfd) (hA : AcceptsOn e s i rq → A) :
    Keeps i A s (doFunc e rq signals s).1 := by
  unfold doFunc
  split
  · rename_i hop
    exact keeps_doOpen e s _ _ hi he fun ⟨hacc, hj, hn⟩ => hA ⟨hop, hacc, hj, hn⟩
  · exact keeps_doClose s _
  · exact (grows_doConnect s e _ _).keeps i
  · exact (grows_doBind s e _ _).keeps i
  · exact (grows_doListen s e _ _).keeps i
  · exact keeps_doWrite e s _ _
  · exact (grows_doRead s e _).keeps i
  · exact (grows_doHalfclose s _ _).keeps i
  · exact (grows_doSigconnR s _ _).keeps i
  · exact (grows_doSigconnW s e _).keeps i

/-- Every request `handle_request` runs keeps the listening state `i`. -/
theorem keeps_handleRequest (rq : Request) (signals : Signals) (hi : i < s.nextIos)
    (he : e.Honest (s.ios i).sockfd) (hA : AcceptsOn e s i rq → A) :
    Keeps i A s (handleRequest e rq signals s) := by
  have h1 := ((grows_emit s (.handled rq.op rq.ios)).keeps i).trans
    (keeps_doFunc e (s.emit (.handled rq.op rq.ios)) rq signals hi he hA)
  dsimp only [handleRequest]
  split_ifs
  · exact h1.trans ((grows_waitQueuePut _ _ _ _).keeps i)
  · exact h1.trans ((grows_waitQueuePut _ _ _ _).keeps i)
  · exact h1
  · exact h1.trans ((grows_sendStatus _ _ _).keeps i)

/-- `do_sigconn_r` on a stream state asserts `INCOMING` when the kernel lets it. -/
theorem handleRequest_sigconnR_incoming (signals : Signals) {j : IosId}
    (hstream : (s.ios j).handleType = .stream) (hk : 0 ≤ e.kern.signalPeer) :
    ((handleRequest e (requestPack .ioSigconnR j) signals s).peerSignals j).incoming = true := by
  simp [handleRequest, doFunc, requestPack, doSigconnR, hstream, mxObjectSignalPeer,
    not_lt.mpr hk, Op.internal, noError, pendingNet, pendingSocket, mxsioSignalIncoming]

/-- `handle_request` deasserts `INCOMING` on `i`'s client end only for an `accept` on `i`
whose `net_accept` returned a connection, and while `i` holds its descriptor it then
leaves `SIGCONN_R` queued under it. -/
theorem handleRequest_clears_incoming (rq : Request) (signals : Signals) (hi : i < s.nextIos)
    (he : e.Honest (s.ios i).sockfd) (hso : SoleOwner s i)
    (hin : (s.peerSignals i).incoming = true)
    (hout : ((handleRequest e rq signals s).peerSignals i).incoming = false) :
    AcceptsOn e s i rq ∧ (0 ≤ ((handleRequest e rq signals s).ios i).sockfd →
      (((handleRequest e rq signals s).ios i).sockfd, requestPack .ioSigconnR i) ∈
        (handleRequest e rq signals s).waitNet) := by
  have hk := keeps_handleRequest e s rq signals hi he (A := AcceptsOn e s i rq) id
  have hcleared : ((handleRequest e rq signals s).peerSignals i).incoming ≠ true := by
    simp [hout]
  exact ⟨(hk.incoming hin).resolve_left hcleared,
    fun hfd => ((hk.listening hfd hso).2 (.inl hin)).resolve_left hcleared⟩

end Requests

/-! ## The readiness sources and the steps -/

section Steps

variable {i : IosId} (e : Env)

theorem keeps_foldl_handleRequest (signals : Signals) :
    ∀ (q : List Request) (s : Sys), i < s.nextIos → e.Honest (s.ios i).sockfd →
      Keeps i True s (q.foldl (fun s rq => handleRequest e rq signals s) s)
  | [], s, _, _ => Keeps.refl i s
  | rq :: q, s, hi, he =>
    have h := keeps_handleRequest e s rq signals hi he fun _ => trivial
    h.trans (keeps_foldl_handleRequest signals q _ (Nat.lt_of_lt_of_le hi h.nextIos) (h.honest he))

/-- A batch holding `i`'s `SIGCONN_R` hands it to `do_sigconn_r`, which asserts `INCOMING`:
whatever the batch does around it, `i` is armed at the end. -/
theorem foldl_handleRequest_armed (signals : Signals) :
    ∀ (q : List Request) (s : Sys), i < s.nextIos → e.Honest (s.ios i).sockfd →
      (s.ios i).handleType = .stream → SoleOwner s i →
      (Armed s i ∨ requestPack .ioSigconnR i ∈ q) →
      0 ≤ ((q.foldl (fun s rq => handleRequest e rq signals s) s).ios i).sockfd →
      Armed (q.foldl (fun s rq => handleRequest e rq signals s) s) i
  | [], _, _, _, _, _, harm, _ => by simpa using harm
  | rq :: q, s, hi, he, hstream, hso, harm, hfd => by
    have h := keeps_handleRequest e s rq signals hi he (A := True) fun _ => trivial
    have hq := keeps_foldl_handleRequest e signals q _ (Nat.lt_of_lt_of_le hi h.nextIos)
      (h.honest he)
    have hfd' : 0 ≤ ((handleRequest e rq signals s).ios i).sockfd := by
      rcases hq.sockfd with h | h <;> simp only [List.foldl_cons] at hfd <;> omega
    obtain ⟨hso', harm'⟩ := h.listening hfd' hso
    refine foldl_handleRequest_armed signals q _ (Nat.lt_of_lt_of_le hi h.nextIos) (h.honest he)
      (h.handleType ▸ hstream) hso' ?_ hfd
    by_cases hrq : rq = requestPack .ioSigconnR i
    · subst hrq
      exact .inl (.inl (handleRequest_sigconnR_incoming e s signals hstream he.signalPeer))
    · rcases harm with harm | harm
      · exact .inl (harm' harm)
      · exact .inr ((List.mem_cons.mp harm).resolve_left (Ne.symm hrq))

/-- The net multiplexer detaches the requests under a ready descriptor; if `i`'s
`SIGCONN_R` is among them, it is handled in the same step. -/
theorem keeps_netReady (s : Sys) (fd : Int) (hi : i < s.nextIos) (he : e.Honest (s.ios i).sockfd)
    (hstream : (s.ios i).handleType = .stream) : Keeps i True s (netReady e fd s) := by
  have hq := keeps_foldl_handleRequest e mxSignalNone (waitQueueSwap s .net fd).2
    (waitQueueSwap s .net fd).1 hi he
  refine ⟨hq.nextIos, hq.handleType, hq.sockfd, fun hfd hso => ⟨(hq.listening hfd hso).1, ?_⟩,
    fun _ => .inr trivial⟩
  intro harm
  refine foldl_handleRequest_armed e mxSignalNone _ _ hi he hstream hso ?_ hfd
  rcases harm with harm | harm
  · exact .inl (.inl harm)
  · by_cases hkey : (s.ios i).sockfd = fd
    · refine .inr (List.mem_map.mpr ⟨_, List.mem_filter.mpr ⟨harm, ?_⟩, rfl⟩)
      simp [hkey]
    · refine .inl (.inr (List.mem_filter.mpr ⟨harm, ?_⟩))
      simpa [Sys.setQueue] using hkey

theorem keeps_watcherDispatch (s : Sys) (j : IosId) (satisfied : Signals) (hi : i < s.nextIos)
    (he : e.Honest (s.ios i).sockfd) : Keeps i True s (watcherDispatch e s j satisfied) := by
  have h1 := grows_socketSignalsClear s e.kern j satisfied
  dsimp only [watcherDispatch]
  split_ifs
  · exact (h1.keeps i).trans (keeps_handleRequestClose _ _)
  · exact (h1.trans (grows_handleRequestHalfclose _ _ _)).keeps i
  · have h2 := h1.trans (grows_waitQueueSwap_socket _ (((socketSignalsClear e.kern s j satisfied).ios j).sockfd))
    exact (h2.keeps i).trans (keeps_foldl_handleRequest e satisfied _ _
      (h2.nextIos ▸ hi) (by rw [h2.sockfd]; exact he))
  · exact h1.keeps i

theorem keeps_handleWatcherScheduleRequest :
    ∀ (results : List (IosAddr × Signals)) (s : Sys), i < s.nextIos → e.Honest (s.ios i).sockfd →
      Keeps i True s (handleWatcherScheduleRequest e results s)
  | [], s, _, _ => Keeps.refl i s
  | r :: results, s, hi, he =>
    have h := keeps_watcherDispatch e s (s.heap.owner r.1) r.2 hi he
    h.trans (keeps_handleWatcherScheduleRequest results _ (Nat.lt_of_lt_of_le hi h.nextIos)
      (h.honest he))

/-- The collaborators of a step keep their side towards a state holding `fd`. -/
def Action.Honest (fd : Int) : Action → Prop
  | .rio _ _ _ e | .netReady _ e | .watcher _ e => e.Honest fd
  | .rioPeerClosed _ => True

theorem keeps_step (s : Sys) (a : Action) (hi : i < s.nextIos)
    (hstream : (s.ios i).handleType = .stream) (he : a.Honest (s.ios i).sockfd) :
    Keeps i True s (step s a) := by
  cases a with
  | rio j op msg e => exact keeps_handleRequest e s _ _ hi he fun _ => trivial
  | netReady fd e => exact keeps_netReady e s fd hi he hstream
  | watcher results e => exact keeps_handleWatcherScheduleRequest e results s hi he
  | rioPeerClosed j => exact (grows_iostateRelease s j).keeps i

end Steps

/-! ## Runs after a `LISTEN` -/

/-- What holds of a listening stream state at every step: it stays allocated and a
stream, and while it holds its descriptor it is the descriptor's sole owner and has a
wakeup armed. -/
structure Listening (s : Sys) (i : IosId) : Prop where
  allocated : i < s.nextIos
  stream : (s.ios i).handleType = .stream
  armed : 0 ≤ (s.ios i).sockfd → SoleOwner s i ∧ Armed s i

/-- Every step of `acts` from `s` keeps the collaborators' side towards `i`. -/
def RunHonest (i : IosId) : Sys → List Action → Prop
  | _, [] => True
  | s, a :: acts => a.Honest (s.ios i).sockfd ∧ RunHonest i (step s a) acts

theorem Listening.step {s : Sys} {i : IosId} {a : Action} (h : Listening s i)
    (he : a.Honest (s.ios i).sockfd) : Listening (step s a) i := by
  have hk := keeps_step s a h.allocated h.stream he
  refine ⟨Nat.lt_of_lt_of_le h.allocated hk.nextIos, hk.handleType ▸ h.stream, fun hfd => ?_⟩
  have hfd' : 0 ≤ (s.ios i).sockfd := by rcases hk.sockfd with h | h <;> omega
  obtain ⟨hso, harm⟩ := h.armed hfd'
  obtain ⟨hso', harm'⟩ := hk.listening hfd hso
  exact ⟨hso', harm' harm⟩

theorem Listening.run {i : IosId} :
    ∀ {s : Sys} (acts : List Action), Listening s i → RunHonest i s acts → Listening (run s acts) i
  | _, [], h, _ => h
  | _, _ :: acts, h, ⟨he, hrun⟩ => Listening.run acts (h.step he) hrun

/-- A successful `LISTEN` queues `SIGCONN_R` under the state's descriptor. -/
theorem step_listen {s : Sys} {i : IosId} {msg : Msg} {e : Env}
    (hlisten : (e.net.listen (s.ios i).sockfd msg.data).errno = 0) :
    step s (.rio i .mxrioListen msg e) =
      sendStatus (scheduleSigconnR (s.emit (.handled .mxrioListen i)) i) .mxrioListen noError := by
  simp [step, handleRequest, doFunc, doListen, hlisten, noError, pendingNet, pendingSocket,
    Op.internal]

/-- After a successful `LISTEN` on a stream state that is the sole owner of its
descriptor, and for every run that follows in which `mx_object_signal_peer` succeeds and
the network stack gives out no descriptor the state holds, every state `t` reached before
the state gives up its descriptor (its `CLOSE`) has a `SIGCONN_R` request for it waiting
under its descriptor, or `INCOMING` asserted on its client end, and the state is still the
sole owner of its descriptor.  The run may interleave any steps: other clients' requests
and closes, socket readiness, wait-set results.  In any such state, every request
`handle_request` runs (on its own or in a batch of a readiness step) deasserts `INCOMING`
only if it is an `accept` on the state for which `net_accept` returned a connection, and
then leaves `SIGCONN_R` queued under the state's descriptor. -/
theorem listen_keeps_accept_wakeup (s : Sys) (i : IosId) (msg : Msg) (e : Env)
    (acts : List Action) (hi : i < s.nextIos) (hstream : (s.ios i).handleType = .stream)
    (hsole : SoleOwner s i) (hlisten : (e.net.listen (s.ios i).sockfd msg.data).errno = 0)
    (hrun : RunHonest i (step s (.rio i .mxrioListen msg e)) acts)
    (hfd : 0 ≤ ((run (step s (.rio i .mxrioListen msg e)) acts).ios i).sockfd) :
    let t : Sys := run (step s (.rio i .mxrioListen msg e)) acts
    Armed t i ∧ SoleOwner t i ∧
      ∀ (u : Sys) (e' : Env) (rq : Request) (signals : Signals), i < u.nextIos →
        e'.Honest (u.ios i).sockfd → SoleOwner u i → (u.peerSignals i).incoming = true →
        ((handleRequest e' rq signals u).peerSignals i).incoming = false →
        AcceptsOn e' u i rq ∧ (0 ≤ ((handleRequest e' rq signals u).ios i).sockfd →
          (((handleRequest e' rq signals u).ios i).sockfd, requestPack .ioSigconnR i) ∈
            (handleRequest e' rq signals u).waitNet) := by
  intro t
  have h0 : Listening (step s (.rio i .mxrioListen msg e)) i := by
    rw [step_listen hlisten]
    have hg := ((grows_emit s (.handled .mxrioListen i)).trans (grows_scheduleSigconnR _ i)).trans
      (grows_sendStatus _ .mxrioListen noError)
    refine ⟨hg.nextIos ▸ hi, hg.handleType i ▸ hstream, fun hfd0 =>
      ⟨((hg.keeps i (A := True)).listening hfd0 hsole).1, .inr ?_⟩⟩
    simp [sendStatus]
  obtain ⟨hso, harm⟩ := (h0.run acts hrun).armed hfd
  exact ⟨harm, hso, fun u e' rq signals hi' he' hso' hin hout =>
    handleRequest_clears_incoming e' u rq signals hi' he' hso' hin hout⟩

/-- A listening stream socket: state 1 holds descriptor 3 and is referenced by its RIO
channel and its data endpoint. -/
def listenerReady : Sys :=
  { Sys.init with nextIos := 2 }.setIos 1 { handleType := .stream, sockfd := 3, refcount := 2 }

/-- A network stack on which `accept` returns descriptor 4. -/
def backendAccepting : Backend :=
  { Backend.wouldBlock with accept := fun _ => .ok 4, ioctlFionbio := fun _ => .ok () }

/-- A connection arrives: descriptor 3 becomes readable, then the client accepts it. -/
def acceptSession : List Action :=
  [.netReady 3 ⟨Backend.wouldBlock, Kernel.ok⟩,
    .rio 1 .mxrioOpen (openMsg "accept") ⟨backendAccepting, Kernel.ok⟩]

theorem listenerReady_soleOwner : SoleOwner listenerReady 1 := fun j hj => by
  simp [listenerReady, hj, Sys.init]

theorem wouldBlock_honest (fd : Int) : Env.Honest ⟨Backend.wouldBlock, Kernel.ok⟩ fd :=
  ⟨by decide, fun _ _ _ _ h => (nomatch h), fun _ _ h => nomatch h⟩

theorem backendAccepting_honest : Env.Honest ⟨backendAccepting, Kernel.ok⟩ 3 :=
  ⟨by decide, fun _ _ _ _ h => (nomatch h), fun _ n h => by cases h; decide⟩

set_option maxRecDepth 100000 in
theorem acceptSession_honest :
    RunHonest 1 (step listenerReady (.rio 1 .mxrioListen {} ⟨backendOk 3, Kernel.ok⟩))
      acceptSession := by
  have hfd : ((step (step listenerReady (.rio 1 .mxrioListen {} ⟨backendOk 3, Kernel.ok⟩))
      (.netReady 3 ⟨Backend.wouldBlock, Kernel.ok⟩)).ios 1).sockfd = 3 := by decide
  exact ⟨wouldBlock_honest _, hfd ▸ backendAccepting_honest, trivial⟩

set_option maxRecDepth 100000 in
theorem acceptSession_keeps_wakeup :
    let t : Sys := run (step listenerReady (.rio 1 .mxrioListen {} ⟨backendOk 3, Kernel.ok⟩))
      acceptSession
    Armed t 1 ∧ SoleOwner t 1 ∧
      ∀ (u : Sys) (e' : Env) (rq : Request) (signals : Signals), 1 < u.nextIos →
        e'.Honest (u.ios 1).sockfd → SoleOwner u 1 → (u.peerSignals 1).incoming = true →
        ((handleRequest e' rq signals u).peerSignals 1).incoming = false →
        AcceptsOn e' u 1 rq ∧ (0 ≤ ((handleRequest e' rq signals u).ios 1).sockfd →
          (((handleRequest e' rq signals u).ios 1).sockfd, requestPack .ioSigconnR 1) ∈
            (handleRequest e' rq signals u).waitNet) :=
  listen_keeps_accept_wakeup listenerReady 1 {} ⟨backendOk 3, Kernel.ok⟩ acceptSession
    (by decide) rfl listenerReady_soleOwner rfl acceptSession_honest (by decide)

end Netstack
