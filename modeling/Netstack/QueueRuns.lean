import Netstack.Listen

/-!
# How requests wait over whole runs

`handle_request` puts a request that would block on one of two wait queues, under the
socket descriptor its state holds, and a readiness event on a descriptor resumes every
request kept under it (`wait_queue_swap`).  This module follows the queues and the
descriptors over every run of the server: each waiting request is one of the internal
operations `handle_request` reschedules, for an allocated state, kept under that state's
current descriptor; and no two states hold the same descriptor that a socket was given.
So an event on such a descriptor resumes the requests of the one state that holds it
(`run_resumes_only_own_requests`).

This rests on what the rest of the system provides: RIO messages arrive, and RIO channels
close, only for allocated states, the wait-set reports only cookies it has an entry for, and
the network stack gives a new socket only a descriptor no state holds.  Records are freed
and their addresses handed out again, so a cookie may point to a state allocated after its
entry was added; it points to an allocated state all the same, which is what the watcher
needs.  `do_close` discards both
queues under the old descriptor before it forgets it.  What it leaves is `-1`, which every
closed state and every state without a socket holds, so the requests any of them leave
waiting share that one key.
-/

namespace Netstack

/-- The network stack gives a new socket, or an accepted connection, only a descriptor
that no state holds. -/
structure Backend.Fresh (net : Backend) (s : Sys) : Prop where
  socket : ∀ d t p n, net.socket d t p = .ok n → ∀ j, (s.ios j).sockfd ≠ n
  accept : ∀ f n, net.accept f = .ok n → ∀ j, (s.ios j).sockfd ≠ n

theorem Backend.Fresh.congr {net : Backend} {s t : Sys} (h : net.Fresh s)
    (hs : ∀ j, (t.ios j).sockfd = (s.ios j).sockfd) : net.Fresh t :=
  ⟨fun d ty p n hn j => hs j ▸ h.socket d ty p n hn j, fun f n hn j => hs j ▸ h.accept f n hn j⟩

/-- The records lie below the next state's number: every allocated state's record and every
freed record lies at an address handed out before, and the state an address points to was
allocated, or, for an address no record has had, is that address's own number. -/
structure Heap.Below (h : Heap) (n : Nat) : Prop where
  addr : ∀ i < n, h.addr i < n
  owner : ∀ c, h.owner c < n ∨ h.owner c = c
  freed : ∀ a ∈ h.freed, a < n

theorem Heap.below_init : Heap.init.Below 1 :=
  ⟨fun _ hi => hi, fun _ => .inr rfl, fun _ h => nomatch h⟩

/-- An address handed out points to an allocated state. -/
theorem Heap.Below.owner_lt {h : Heap} {n : Nat} (hb : h.Below n) {c : IosAddr} (hc : c < n) :
    h.owner c < n :=
  (hb.owner c).elim id fun he => Nat.lt_of_le_of_lt (Nat.le_of_eq he) hc

/-- `malloc` places the new state at a freed address or at its own number. -/
theorem Heap.Below.malloc {h : Heap} {n : Nat} (hb : h.Below n) : (h.malloc n).Below (n + 1) := by
  have ha : h.freed.headD n < n + 1 := by
    cases hf : h.freed with
    | nil => exact Nat.lt_succ_self n
    | cons a _ => exact Nat.lt_succ_of_lt (hb.freed a (by simp [hf]))
  refine ⟨fun i hi => ?_, fun c => ?_,
    fun a ha' => Nat.lt_succ_of_lt (hb.freed a (List.mem_of_mem_tail ha'))⟩
  · by_cases hin : i = n
    · subst hin; simpa [Heap.malloc] using ha
    · simpa [Heap.malloc, hin] using Nat.lt_succ_of_lt (hb.addr i (by omega))
  · by_cases hc : c = h.freed.headD n
    · exact .inl (by simp [Heap.malloc, hc])
    · simp only [Heap.malloc, Function.update_noteq hc]
      exact (hb.owner c).imp_left Nat.lt_succ_of_lt

theorem Heap.Below.free {h : Heap} {n : Nat} (hb : h.Below n) {a : IosAddr} (ha : a < n) :
    (h.free a).Below n :=
  ⟨hb.addr, hb.owner, fun b hb' => (List.mem_cons.mp hb').elim (· ▸ ha) (hb.freed b)⟩

/-- How requests wait, and what carries it from one allocation to the next: the records lie
at addresses handed out, no address beyond them is the cookie of a wait-set entry, each
waiting request is an internal one of an allocated state kept under that state's
descriptor, and no two states hold the same descriptor a socket was given. -/
structure QueueSys (s : Sys) : Prop where
  heap : s.heap.Below s.nextIos
  fresh : ∀ c, s.nextIos ≤ c → s.waitset c = none
  queued : ∀ p ∈ s.waitNet ++ s.waitSocket, p.2.ios < s.nextIos
  keyed : ∀ p ∈ s.waitNet ++ s.waitSocket, p.2.op.internal = true ∧ p.1 = (s.ios p.2.ios).sockfd
  distinct : ∀ i j, i ≠ j → 0 ≤ (s.ios i).sockfd → (s.ios i).sockfd ≠ (s.ios j).sockfd

theorem queueSys_init : QueueSys Sys.init :=
  ⟨Heap.below_init, fun _ _ => rfl, fun _ h => by simp [Sys.init] at h, fun _ h => by simp [Sys.init] at h,
    fun _ _ _ h => absurd h (by simp [Sys.init])⟩

theorem mxWaitsetRemove_waitset_ne (s : Sys) {c d : IosAddr} (h : d ≠ c) (r : Status) :
    (mxWaitsetRemove s c r).waitset d = s.waitset d := by
  unfold mxWaitsetRemove; split <;> simp [Function.update_noteq h]

theorem mxWaitsetAdd_waitset_ne (s : Sys) {c d : IosAddr} (h : d ≠ c) (hd : Handle)
    (sigs : Signals) (r : Status) : (mxWaitsetAdd s c hd sigs r).waitset d = s.waitset d := by
  unfold mxWaitsetAdd; split <;> simp [Function.update_noteq h]

theorem socketSignalsChange_waitset_ne (k : Kernel) (s : Sys) {i : IosId} {c : IosAddr}
    (h : c ≠ s.heap.addr i) (oldSigs newSigs : Signals) :
    (socketSignalsChange k s i oldSigs newSigs).waitset c = s.waitset c := by
  dsimp only [socketSignalsChange]
  split_ifs <;>
    simp only [Sys.setIos_waitset, mxWaitsetRemove_waitset_ne _ h, mxWaitsetAdd_waitset_ne _ h]

theorem setIos_sockfd_frame (s : Sys) {j : IosId} {r : IOState} (hs : r.sockfd = (s.ios j).sockfd)
    (l : IosId) : ((s.setIos j r).ios l).sockfd = (s.ios l).sockfd := by
  by_cases hl : l = j <;> simp [hl, hs]

namespace QueueSys

variable {s t : Sys}

/-- A change of the queues, the records or the number of states that adds no wait-set
entry beyond the allocated states, moves no descriptor and queues nothing new. -/
theorem of_frame (h : QueueSys s) (hn : t.nextIos = s.nextIos) (hh : t.heap = s.heap)
    (hws : ∀ c, s.nextIos ≤ c → t.waitset c = s.waitset c)
    (hs : ∀ j, (t.ios j).sockfd = (s.ios j).sockfd)
    (hq : ∀ p ∈ t.waitNet ++ t.waitSocket, p ∈ s.waitNet ++ s.waitSocket) : QueueSys t :=
  ⟨hh ▸ hn ▸ h.heap, fun c hc => (hws c (hn ▸ hc)).trans (h.fresh c (hn ▸ hc)),
    fun p hp => hn ▸ h.queued p (hq p hp),
    fun p hp => (hs p.2.ios).symm ▸ h.keyed p (hq p hp),
    fun i j hij => by rw [hs i, hs j]; exact h.distinct i j hij⟩

theorem of_eq (h : QueueSys s) (hios : t.ios = s.ios) (hws : t.waitset = s.waitset)
    (hn : t.nextIos = s.nextIos) (hh : t.heap = s.heap) (hnet : t.waitNet = s.waitNet)
    (hsock : t.waitSocket = s.waitSocket) : QueueSys t :=
  h.of_frame hn hh (fun _ _ => by rw [hws]) (fun _ => by rw [hios])
    (fun _ hp => by rwa [hnet, hsock] at hp)

theorem emit (h : QueueSys s) (c : Call) : QueueSys (s.emit c) :=
  h.of_eq rfl rfl rfl rfl rfl rfl

/-- The keys after changing one record whose descriptor stays, or for which no request
waits. -/
theorem keyed_setIos (h : QueueSys s) {j : IosId} {r : IOState}
    (hs : r.sockfd = (s.ios j).sockfd ∨ ∀ p ∈ s.waitNet ++ s.waitSocket, p.2.ios ≠ j) :
    ∀ p ∈ s.waitNet ++ s.waitSocket,
      p.2.op.internal = true ∧ p.1 = ((s.setIos j r).ios p.2.ios).sockfd := by
  intro p hp
  by_cases hpj : p.2.ios = j
  · rcases hs with hs | hs
    · simpa [hpj, hs] using h.keyed p hp
    · exact absurd hpj (hs p hp)
  · simpa [hpj] using h.keyed p hp

/-- Changing a record without touching its descriptor. -/
theorem setIos_frame (h : QueueSys s) {j : IosId} {r : IOState}
    (hs : r.sockfd = (s.ios j).sockfd) : QueueSys (s.setIos j r) :=
  h.of_frame rfl rfl (fun _ _ => rfl) (setIos_sockfd_frame s hs) fun _ hp => hp

/-- Giving a state none of whose requests waits a descriptor that is negative, or that no
other state holds. -/
theorem setIos_sockfd (h : QueueSys s) {j : IosId} {r : IOState}
    (hq : ∀ p ∈ s.waitNet ++ s.waitSocket, p.2.ios ≠ j)
    (hd : r.sockfd < 0 ∨ ∀ l, l ≠ j → (s.ios l).sockfd ≠ r.sockfd) : QueueSys (s.setIos j r) := by
  refine ⟨h.heap, h.fresh, h.queued, h.keyed_setIos (.inr hq), fun a b hab ha => ?_⟩
  by_cases haj : a = j
  · subst haj
    simp only [Sys.setIos_ios_self, Sys.setIos_ios_ne _ _ (Ne.symm hab)] at ha ⊢
    rcases hd with hd | hd
    exacts [absurd ha (not_le.mpr hd), (hd b (Ne.symm hab)).symm]
  · simp only [Sys.setIos_ios_ne _ _ haj] at ha ⊢
    by_cases hbj : b = j
    · subst hbj
      simp only [Sys.setIos_ios_self]
      rcases hd with hd | hd
      exacts [fun he => absurd (he ▸ ha) (not_le.mpr hd), hd a haj]
    · simpa only [Sys.setIos_ios_ne _ _ hbj] using h.distinct a b hab ha

end QueueSys

/-! ## What each function does to the queues and the descriptors -/

section Primitives

variable {s : Sys}

theorem queueSys_fdEventSet (h : QueueSys s) (fd : Int) (ev : Events) :
    QueueSys (fdEventSet s fd ev) := h.of_eq rfl rfl rfl rfl rfl rfl

theorem queueSys_fdEventClear (h : QueueSys s) (fd : Int) (ev : Events) :
    QueueSys (fdEventClear s fd ev) := h.of_eq rfl rfl rfl rfl rfl rfl

theorem queueSys_getRwbuf (h : QueueSys s) : QueueSys (getRwbuf s).1 := by
  unfold getRwbuf; split <;> exact h.of_eq rfl rfl rfl rfl rfl rfl

theorem queueSys_putRwbuf (h : QueueSys s) (b : Option RwBuf) : QueueSys (putRwbuf s b) := by
  cases b <;> exact h.of_eq rfl rfl rfl rfl rfl rfl

theorem queueSys_mxObjectSignalPeer (h : QueueSys s) (k : Kernel) (i : IosId)
    (clear set : Signals) : QueueSys (mxObjectSignalPeer k s i clear set) := by
  unfold mxObjectSignalPeer
  split_ifs
  exacts [h, h.of_eq rfl rfl rfl rfl rfl rfl]

/-- Queueing an internal request of an allocated state under that state's descriptor. -/
theorem queueSys_waitQueuePut (h : QueueSys s) (q : WaitQueue) (fd : Int) (rq : Request)
    (hrq : rq.ios < s.nextIos) (hint : rq.op.internal = true) (hfd : fd = (s.ios rq.ios).sockfd) :
    QueueSys (waitQueuePut s q fd rq) := by
  have hnew : ∀ p, p = (fd, rq) → p.2.ios < s.nextIos ∧
      (p.2.op.internal = true ∧ p.1 = (s.ios p.2.ios).sockfd) := by
    rintro p rfl; exact ⟨hrq, hint, hfd⟩
  have hold : ∀ p ∈ s.waitNet ++ s.waitSocket, p.2.ios < s.nextIos ∧
      (p.2.op.internal = true ∧ p.1 = (s.ios p.2.ios).sockfd) := fun p hp => ⟨h.queued p hp, h.keyed p hp⟩
  have hall : ∀ p ∈ (waitQueuePut s q fd rq).waitNet ++ (waitQueuePut s q fd rq).waitSocket,
      p.2.ios < s.nextIos ∧ (p.2.op.internal = true ∧ p.1 = (s.ios p.2.ios).sockfd) := by
    intro p hp
    cases q <;> simp only [waitQueuePut, Sys.queue, Sys.setQueue, List.mem_append,
      List.mem_singleton] at hp
    · rcases hp with (hp | hp) | hp
      exacts [hold p (List.mem_append_left _ hp), hnew p hp, hold p (List.mem_append_right _ hp)]
    · rcases hp with hp | hp | hp
      exacts [hold p (List.mem_append_left _ hp), hold p (List.mem_append_right _ hp), hnew p hp]
  cases q <;>
    exact ⟨h.heap, h.fresh, fun p hp => (hall p hp).1, fun p hp => (hall p hp).2, h.distinct⟩

theorem queueSys_waitQueueDiscard (h : QueueSys s) (q : WaitQueue) (fd : Int) :
    QueueSys (waitQueueDiscard s q fd) := by
  refine h.of_frame (by simp) (by cases q <;> rfl) (fun _ _ => by cases q <;> rfl) (fun _ => by simp)
    fun p hp => ?_
  cases q <;> simp only [waitQueueDiscard, Sys.queue, Sys.setQueue, List.mem_append,
    List.mem_filter] at hp ⊢
  exacts [hp.imp_left And.left, hp.imp_right And.left]

theorem queueSys_waitQueueSwap (h : QueueSys s) (q : WaitQueue) (fd : Int) :
    QueueSys (waitQueueSwap s q fd).1 := by
  refine h.of_frame (by simp) (by cases q <;> rfl) (fun _ _ => by cases q <;> rfl) (fun _ => by simp)
    fun p hp => ?_
  cases q <;> simp only [waitQueueSwap, Sys.queue, Sys.setQueue, List.mem_append,
    List.mem_filter] at hp ⊢
  exacts [hp.imp_left And.left, hp.imp_right And.left]

/-- What a readiness event resumes: internal requests of allocated states whose
descriptor is the event's. -/
theorem QueueSys.resumed (h : QueueSys s) (q : WaitQueue) (fd : Int) :
    ∀ rq ∈ (waitQueueSwap s q fd).2,
      rq.op.internal = true ∧ rq.ios < s.nextIos ∧ (s.ios rq.ios).sockfd = fd := by
  intro rq hrq
  simp only [waitQueueSwap, List.mem_map, List.mem_filter, decide_eq_true_eq] at hrq
  obtain ⟨p, ⟨hp, hfd⟩, rfl⟩ := hrq
  have hq : p ∈ s.waitNet ++ s.waitSocket := by
    rw [List.mem_append]
    cases q
    exacts [.inl hp, .inr hp]
  obtain ⟨hint, hkey⟩ := h.keyed p hq
  exact ⟨hint, h.queued p hq, hkey.symm.trans hfd⟩

/-- A change of the watched signals of an allocated state touches only that state's
entry, whether the wait-set calls succeed or not. -/
theorem queueSys_socketSignalsChange (h : QueueSys s) {k : Kernel} {i : IosId}
    (hi : i < s.nextIos) (oldSigs newSigs : Signals) :
    QueueSys (socketSignalsChange k s i oldSigs newSigs) := by
  have hg := grows_socketSignalsChange s k i oldSigs newSigs
  refine h.of_frame hg.nextIos (socketSignalsChange_heap k s i _ _) (fun c hc => ?_) hg.sockfd
    fun p hp => ?_
  · exact socketSignalsChange_waitset_ne k s (Nat.ne_of_gt ((h.heap.addr i hi).trans_le hc)) _ _
  · simpa only [socketSignalsChange_waitNet, socketSignalsChange_waitSocket] using hp

theorem queueSys_socketSignalsSet (h : QueueSys s) {k : Kernel} {i : IosId}
    (hi : i < s.nextIos) (sigs : Signals) : QueueSys (socketSignalsSet k s i sigs) := by
  dsimp only [socketSignalsSet]
  split_ifs
  exacts [h, queueSys_socketSignalsChange h hi _ _]

theorem queueSys_socketSignalsClear (h : QueueSys s) {k : Kernel} {i : IosId}
    (hi : i < s.nextIos) (sigs : Signals) : QueueSys (socketSignalsClear k s i sigs) := by
  dsimp only [socketSignalsClear]
  split_ifs
  exacts [h, queueSys_socketSignalsChange h hi _ _]

theorem queueSys_iostateAcquire (h : QueueSys s) (i : IosId) :
    QueueSys (iostateAcquire s i) :=
  (h.setIos_frame (j := i) (r := { s.ios i with refcount := (s.ios i).refcount + 1 }) rfl).emit _

/-- Another placement of the records below the same number. -/
theorem QueueSys.withHeap (h : QueueSys s) {H : Heap} (hH : H.Below s.nextIos) :
    QueueSys { s with heap := H } :=
  ⟨hH, h.fresh, h.queued, h.keyed, h.distinct⟩

/-- The release that frees an allocated state gives back an address handed out. -/
theorem queueSys_iostateRelease (h : QueueSys s) {i : IosId} (hi : i < s.nextIos) :
    QueueSys (iostateRelease s i) := by
  have h1 := (h.setIos_frame (j := i) (r := { s.ios i with refcount := (s.ios i).refcount - 1 })
    rfl).emit (.iostateRelease i)
  dsimp only [iostateRelease]
  split_ifs
  · exact (queueSys_putRwbuf (queueSys_putRwbuf h1 _) _).withHeap
      (by simpa using h.heap.free (h.heap.addr i hi))
  · exact h1

/-- A fresh state has no entry, no descriptor and no waiting request. -/
theorem queueSys_iostateAlloc (h : QueueSys s) : QueueSys (iostateAlloc s).1 := by
  have h1 : QueueSys { s with nextIos := s.nextIos + 1, heap := s.heap.malloc s.nextIos } :=
    ⟨h.heap.malloc, fun c hc => h.fresh c (Nat.le_of_succ_le hc),
      fun p hp => Nat.lt_succ_of_lt (h.queued p hp), h.keyed, h.distinct⟩
  exact (h1.setIos_sockfd (fun p hp => Nat.ne_of_lt (h.queued p hp))
    (.inl (show (-1 : Int) < 0 by decide))).emit _

/-- A fresh state set up by its sub-handler, which gives it a kind and either keeps its
`-1` or gives it a descriptor no state holds. -/
theorem queueSys_iostateAlloc_setIos (h : QueueSys s) (r : IOState)
    (hr : r.sockfd < 0 ∨ ∀ l, (s.ios l).sockfd ≠ r.sockfd) :
    QueueSys ((iostateAlloc s).1.setIos (iostateAlloc s).2 r) :=
  (queueSys_iostateAlloc h).setIos_sockfd (fun p hp => Nat.ne_of_lt (h.queued p hp))
    (hr.imp_right fun hl l hln => by rw [iostateAlloc_ios_ne s hln]; exact hl l)

end Primitives

section Handlers

variable {e : Env} {k : Kernel} {i : IosId} {s : Sys}

@[simp] theorem socketSignalsSet_nextIos (sigs : Signals) :
    (socketSignalsSet k s i sigs).nextIos = s.nextIos :=
  (grows_socketSignalsSet s k i sigs).nextIos

@[simp] theorem socketSignalsClear_nextIos (sigs : Signals) :
    (socketSignalsClear k s i sigs).nextIos = s.nextIos :=
  (grows_socketSignalsClear s k i sigs).nextIos

theorem queueSys_scheduleSigconnR (h : QueueSys s) (hi : i < s.nextIos) :
    QueueSys (scheduleSigconnR s i) :=
  queueSys_waitQueuePut (queueSys_fdEventSet h _ _) _ _ _ hi rfl rfl

theorem queueSys_scheduleSigconnW (h : QueueSys s) (hi : i < s.nextIos) :
    QueueSys (scheduleSigconnW s i) :=
  queueSys_waitQueuePut (queueSys_fdEventSet h _ _) _ _ _ hi rfl rfl

theorem queueSys_scheduleR (h : QueueSys s) (hi : i < s.nextIos) :
    QueueSys (scheduleR s i) :=
  queueSys_waitQueuePut (queueSys_fdEventSet h _ _) _ _ _ hi rfl rfl

theorem queueSys_scheduleW (h : QueueSys s) (hi : i < s.nextIos) :
    QueueSys (scheduleW k s i) :=
  queueSys_waitQueuePut (queueSys_socketSignalsSet h hi _) _ _ _ (by simpa using hi) rfl rfl

theorem queueSys_scheduleRw (h : QueueSys s) (hi : i < s.nextIos) :
    QueueSys (scheduleRw k s i) := by
  unfold scheduleRw
  split_ifs
  · have hi' : i < (mxObjectSignalPeer k s i mxSignalNone mxsioSignalConnected).nextIos := by
      simpa using hi
    exact queueSys_scheduleW (queueSys_scheduleR (queueSys_mxObjectSignalPeer h _ _ _ _) hi') hi'
  · exact queueSys_scheduleW (queueSys_scheduleR h hi) hi

/-- `do_close` discards both queues under the old descriptor before it sets `-1`. -/
theorem queueSys_doClose (h : QueueSys s) (hi : i < s.nextIos) : QueueSys (doClose s i).1 := by
  dsimp only [doClose]
  split_ifs
  · refine queueSys_iostateRelease ?_ (by simpa using hi)
    have h1 := queueSys_waitQueueDiscard (queueSys_waitQueueDiscard (queueSys_fdEventClear
      (h.emit (.netClose i (s.ios i).sockfd)) (s.ios i).sockfd eventAll) .net (s.ios i).sockfd)
      .socket (s.ios i).sockfd
    refine h1.setIos_sockfd (fun p hp hpi => ?_) (.inl (show (-1 : Int) < 0 by decide))
    have hkey := (h1.keyed p hp).2
    simp only [waitQueueDiscard, Sys.queue, Sys.setQueue, List.mem_append, List.mem_filter,
      decide_eq_true_eq] at hp
    simp only [hpi, waitQueueDiscard_ios, fdEventClear_ios, Sys.emit_ios] at hkey
    rcases hp with hp | hp <;> exact hp.2 hkey
  · exact queueSys_iostateRelease h hi

theorem queueSys_handleRequestClose (h : QueueSys s) (hi : i < s.nextIos) :
    QueueSys (handleRequestClose s i) :=
  queueSys_doClose (h.emit _) hi

theorem queueSys_doHalfclose (h : QueueSys s) (hi : i < s.nextIos) :
    QueueSys (doHalfclose k s i).1 :=
  queueSys_socketSignalsSet (h.emit _) hi _

theorem queueSys_handleRequestHalfclose (h : QueueSys s) (hi : i < s.nextIos) :
    QueueSys (handleRequestHalfclose k s i) :=
  queueSys_doHalfclose (h.emit _) hi

theorem queueSys_doConnect (msg : Msg) (h : QueueSys s) (hi : i < s.nextIos) :
    QueueSys (doConnect e s i msg).1 := by
  dsimp only [doConnect]
  generalize (e.net.connect (s.ios i).sockfd (msg.data.take msg.datalen)).errno = errno_
  have h1 : QueueSys (s.setIos i { s.ios i with lastErrno := errno_ }) := h.setIos_frame (by rfl)
  generalize hs2 : (if errno_ = einprogress
      then scheduleSigconnW (s.setIos i { s.ios i with lastErrno := errno_ }) i
      else s.setIos i { s.ios i with lastErrno := errno_ }) = s2
  have h2 : QueueSys s2 ∧ s2.nextIos = s.nextIos := by
    subst hs2
    split_ifs
    exacts [⟨queueSys_scheduleSigconnW h1 hi, rfl⟩, ⟨h1, rfl⟩]
  by_cases he : errno_ ≠ 0
  · rw [if_pos he]; exact h2.1
  · rw [if_neg he]
    by_cases ht : (s.ios i).handleType = .stream
    · rw [if_pos ht]; exact queueSys_scheduleRw h2.1 (h2.2 ▸ hi)
    · rw [if_neg ht]; exact h2.1

theorem queueSys_doSigconnW (h : QueueSys s) (hi : i < s.nextIos) :
    QueueSys (doSigconnW e s i).1 := by
  dsimp only [doSigconnW]
  generalize hs1 : (if (s.ios i).handleType = .stream
    then mxObjectSignalPeer e.kern s i mxSignalNone mxsioSignalOutgoing else s) = s1
  have h1 : QueueSys s1 ∧ s1.nextIos = s.nextIos := by
    subst hs1
    split_ifs
    exacts [⟨queueSys_mxObjectSignalPeer h _ _ _ _, by simp⟩, ⟨h, rfl⟩]
  split
  · dsimp only
    split_ifs
    exacts [queueSys_scheduleRw (h1.1.setIos_frame (by rfl)) (h1.2 ▸ hi), h1.1.setIos_frame (by rfl)]
  · exact h1.1

theorem queueSys_doBind (msg : Msg) (h : QueueSys s) (hi : i < s.nextIos) :
    QueueSys (doBind e s i msg).1 := by
  unfold doBind
  dsimp only
  split_ifs
  exacts [h.setIos_frame (by rfl), queueSys_scheduleR (h.setIos_frame (by rfl)) hi,
    h.setIos_frame (by rfl)]

theorem queueSys_doListen (msg : Msg) (h : QueueSys s) (hi : i < s.nextIos) :
    QueueSys (doListen e s i msg).1 := by
  unfold doListen
  dsimp only
  split_ifs
  exacts [h, queueSys_scheduleSigconnR h hi]

theorem queueSys_doSigconnR (h : QueueSys s) : QueueSys (doSigconnR k s i).1 := by
  unfold doSigconnR
  dsimp only
  split_ifs
  exacts [queueSys_mxObjectSignalPeer h _ _ _ _, h]

/-! ### Reads -/

theorem queueSys_readStreamDrained (h : QueueSys s) : QueueSys (readStreamDrained s i).1 :=
  queueSys_fdEventSet (h.setIos_frame (by rfl)) _ _

theorem queueSys_readStreamPush : ∀ fuel (s : Sys), QueueSys s →
    i < s.nextIos → QueueSys (readStreamPush k i fuel s).1
  | 0, _, h, _ => queueSys_readStreamDrained h
  | fuel + 1, s, h, hi => by
    simp only [readStreamPush]
    split_ifs
    · cases k.socketWrite (s.ios i).readPending with
      | failed r =>
        dsimp only
        split_ifs
        exacts [queueSys_socketSignalsSet h hi _, h]
      | wrote n _ _ =>
        exact queueSys_readStreamPush fuel _ ((h.setIos_frame (by rfl)).emit _) hi
    · exact queueSys_readStreamDrained h

theorem queueSys_readStreamConnectionClosed (h : QueueSys s) :
    QueueSys (readStreamConnectionClosed k s i).1 := by
  dsimp only [readStreamConnectionClosed]
  split_ifs
  exacts [h, h, h.emit _]

theorem queueSys_readStreamBuf (h : QueueSys s) :
    QueueSys (readStreamBuf s i).1 ∧ (readStreamBuf s i).1.nextIos = s.nextIos := by
  unfold readStreamBuf; split
  exacts [⟨h, rfl⟩, ⟨queueSys_getRwbuf h, by unfold getRwbuf; split <;> rfl⟩]

theorem queueSys_doReadStream (h : QueueSys s) (hi : i < s.nextIos) :
    QueueSys (doReadStream e s i).1 := by
  by_cases h0 : (s.ios i).rlen ≤ 0
  · rcases hsb : readStreamBuf s i with ⟨s1, b⟩
    obtain ⟨h1, hn1⟩ : QueueSys s1 ∧ s1.nextIos = s.nextIos := by
      simpa [hsb] using queueSys_readStreamBuf (i := i) h
    have hios : s1.ios = s.ios := by simpa [hsb] using readStreamBuf_ios s i
    simp only [doReadStream, if_pos h0, hsb]
    generalize e.net.read (s.ios i).sockfd rwbufSize = n
    have h2 : QueueSys (s1.setIos i { s.ios i with rbuf := some b, lastErrno := n.errno }) :=
      h1.setIos_frame (by rw [hios])
    cases n with
    | error err =>
      dsimp only
      split_ifs
      exacts [queueSys_fdEventSet h2 _ _, queueSys_readStreamConnectionClosed h2]
    | ok r =>
      obtain ⟨bytes, _⟩ := r
      dsimp only
      split_ifs
      · exact queueSys_readStreamConnectionClosed (h2.emit _)
      · exact queueSys_readStreamPush _ _ ((h2.emit _).setIos_frame (by rfl)) (hn1 ▸ hi)
  · simp only [doReadStream, if_neg h0]
    exact queueSys_readStreamPush _ _ h hi

theorem queueSys_doReadDgram (h : QueueSys s) : QueueSys (doReadDgram e s i).1 := by
  unfold doReadDgram
  rcases hsb : readStreamBuf s i with ⟨s1, b⟩
  have h1 : QueueSys s1 := by simpa [hsb] using (queueSys_readStreamBuf (i := i) h).1
  dsimp only
  generalize e.net.recvfrom (s1.ios i).sockfd rwbufSize = n
  have h2 : QueueSys (s1.setIos i { s1.ios i with rbuf := some b, lastErrno := n.errno }) :=
    h1.setIos_frame (by rfl)
  cases n with
  | error err =>
    dsimp only
    split_ifs
    exacts [queueSys_fdEventSet h2 _ _, h2]
  | ok r =>
    obtain ⟨addr, payload, _⟩ := r
    dsimp only
    split_ifs
    · exact h2
    · exact queueSys_fdEventSet ((h2.emit _).setIos_frame (by rfl)) _ _

theorem queueSys_doRead (h : QueueSys s) (hi : i < s.nextIos) :
    QueueSys (doRead e s i).1 := by
  unfold doRead
  split
  exacts [queueSys_doReadStream h hi, queueSys_doReadDgram h, h]

/-! ### Writes -/

theorem queueSys_writeStreamDrained (h : QueueSys s) (hi : i < s.nextIos) :
    QueueSys (writeStreamDrained k s i).1 :=
  queueSys_socketSignalsSet (h.setIos_frame (by rfl)) hi _

theorem queueSys_writeStreamPush : ∀ fuel (s : Sys), QueueSys s →
    i < s.nextIos → QueueSys (writeStreamPush e i fuel s).1
  | 0, _, h, hi => queueSys_writeStreamDrained h hi
  | fuel + 1, s, h, hi => by
    simp only [writeStreamPush]
    split_ifs
    · cases e.net.write (s.ios i).sockfd (s.ios i).writePending with
      | error err =>
        dsimp only
        split_ifs
        exacts [queueSys_fdEventSet (h.setIos_frame (by rfl)) _ _, h.setIos_frame (by rfl)]
      | ok r =>
        exact queueSys_writeStreamPush fuel _ ((h.setIos_frame (by rfl)).emit _) hi
    · exact queueSys_writeStreamDrained h hi

theorem queueSys_writeStreamBuf (h : QueueSys s) :
    QueueSys (writeStreamBuf s i).1 ∧ (writeStreamBuf s i).1.nextIos = s.nextIos := by
  unfold writeStreamBuf; split
  exacts [⟨h, rfl⟩, ⟨queueSys_getRwbuf h, by unfold getRwbuf; split <;> rfl⟩]

theorem queueSys_doWriteStream (signals : Signals) (h : QueueSys s) (hi : i < s.nextIos) :
    QueueSys (doWriteStream e s i signals).1 := by
  by_cases h0 : (s.ios i).wlen ≤ 0
  · rcases hsb : writeStreamBuf s i with ⟨s1, b⟩
    obtain ⟨h1, hn1⟩ : QueueSys s1 ∧ s1.nextIos = s.nextIos := by
      simpa [hsb] using queueSys_writeStreamBuf (i := i) h
    have h2 : QueueSys (s1.setIos i { s1.ios i with wbuf := some b }) := h1.setIos_frame (by rfl)
    have hi2 : i < (s1.setIos i { s1.ios i with wbuf := some b }).nextIos := hn1 ▸ hi
    simp only [doWriteStream, if_pos h0, hsb]
    cases e.kern.socketRead rwbufSize with
    | failed r =>
      dsimp only
      split_ifs
      exacts [queueSys_handleRequestClose h2 hi2, queueSys_socketSignalsSet h2 hi2 _,
        queueSys_handleRequestClose h2 hi2, h2, h2.emit _]
    | read bytes _ =>
      exact queueSys_writeStreamPush _ _ ((h2.emit _).setIos_frame (by rfl)) hi2
  · simp only [doWriteStream, if_neg h0]
    exact queueSys_writeStreamPush _ _ h hi

theorem queueSys_doWriteDgram (signals : Signals) (h : QueueSys s) (hi : i < s.nextIos) :
    QueueSys (doWriteDgram e s i signals).1 := by
  rcases hsb : writeStreamBuf s i with ⟨s1, b⟩
  obtain ⟨h1, hn1⟩ : QueueSys s1 ∧ s1.nextIos = s.nextIos := by
    simpa [hsb] using queueSys_writeStreamBuf (i := i) h
  have h2 : QueueSys (s1.setIos i { s1.ios i with wbuf := some b }) := h1.setIos_frame (by rfl)
  have hi2 : i < (s1.setIos i { s1.ios i with wbuf := some b }).nextIos := hn1 ▸ hi
  simp only [doWriteDgram, hsb]
  cases e.kern.channelRead with
  | failed r =>
    dsimp only
    split_ifs
    exacts [queueSys_handleRequestClose h2 hi2, queueSys_socketSignalsSet h2 hi2 _,
      queueSys_handleRequestClose h2 hi2, h2]
  | short => exact queueSys_socketSignalsSet h2 hi2 _
  | read m =>
    dsimp only
    by_cases hp : m.payload ≠ []
    · rw [if_pos hp]
      exact queueSys_socketSignalsSet ((h2.emit _).setIos_frame (by rfl)) hi2 _
    · rw [if_neg hp]
      exact queueSys_socketSignalsSet h2 hi2 _

theorem queueSys_doWrite (signals : Signals) (h : QueueSys s) (hi : i < s.nextIos) :
    QueueSys (doWrite e s i signals).1 := by
  unfold doWrite
  split
  exacts [queueSys_doWriteStream signals h hi, queueSys_doWriteDgram signals h hi, h]

end Handlers

/-! ## Client handles and `OPEN` -/

section Open

variable {e : Env} {k : Kernel} {i : IosId} {s : Sys} {o : OpenOut}

@[simp] theorem fdEventSet_nextIos (fd : Int) (ev : Events) : (fdEventSet s fd ev).nextIos = s.nextIos :=
  rfl

@[simp] theorem iostateRelease_nextIos : (iostateRelease s i).nextIos = s.nextIos :=
  (grows_iostateRelease s i).nextIos

@[simp] theorem createHandles_nextIos : (createHandles k s i o).1.nextIos = s.nextIos :=
  (grows_createHandles s k i o).nextIos

@[simp] theorem scheduleW_nextIos : (scheduleW k s i).nextIos = s.nextIos :=
  (grows_scheduleW s k i).nextIos

@[simp] theorem scheduleRw_nextIos : (scheduleRw k s i).nextIos = s.nextIos :=
  (grows_scheduleRw s k i).nextIos

theorem queueSys_handlePairCreate (h : QueueSys s) (r : Status) :
    QueueSys (handlePairCreate s r).1 := by
  unfold handlePairCreate
  split_ifs
  · exact h
  · exact ((h.of_eq (t := { s with nextHandle := s.nextHandle + 2 }) rfl rfl rfl rfl rfl rfl).emit
      _).emit _

theorem queueSys_mxHandleClose (h : QueueSys s) (hd : Handle) :
    QueueSys (mxHandleClose s hd) := by
  unfold mxHandleClose
  split_ifs
  exacts [h, h.emit _]

theorem queueSys_createDataHandles (h : QueueSys s) (ht : HandleType) :
    QueueSys (createDataHandles k s ht).1 := by
  cases ht <;> dsimp only [createDataHandles]
  · exact h
  all_goals exact queueSys_handlePairCreate h _

/-- `create_handles` gives a state its data handle and touches no descriptor. -/
theorem queueSys_createHandles (h : QueueSys s) : QueueSys (createHandles k s i o).1 := by
  have h1 := queueSys_handlePairCreate h (k.channelCreate s.nextHandle)
  dsimp only [createHandles]
  split
  · rename_i heq
    simpa [heq] using h1
  · rename_i s1 rio0 rio1 heq
    rw [heq] at h1
    have h2 := queueSys_createDataHandles (k := k) h1 (s1.ios i).handleType
    split
    · rename_i heq2
      rw [heq2] at h2
      exact queueSys_mxHandleClose (queueSys_mxHandleClose h2 _) _
    · rename_i s2 r data0 data1 hcount heq2
      rw [heq2] at h2
      have h3 : QueueSys (s2.setIos i { s2.ios i with dataH := data0 }) := h2.setIos_frame (by rfl)
      by_cases hr : k.dispatcherAdd < 0
      · rw [if_pos hr]
        exact queueSys_mxHandleClose (queueSys_mxHandleClose (queueSys_mxHandleClose
          (queueSys_mxHandleClose (h3.setIos_frame (by rfl)) _) _) _) _
      · rw [if_neg hr]
        split_ifs
        exacts [queueSys_iostateAcquire h3 _, h3]

theorem queueSys_doNone (h : QueueSys s) :
    QueueSys (doNone k s o).1 ∧ s.nextIos ≤ (doNone k s o).1.nextIos := by
  have hnew := queueSys_iostateAlloc_setIos h
  have hneg : ((iostateAlloc s).1.ios (iostateAlloc s).2).sockfd = -1 := by rw [iostateAlloc_new]
  have hle : s.nextIos ≤ (iostateAlloc s).1.nextIos := Nat.le_succ _
  have hlt : (iostateAlloc s).2 < (iostateAlloc s).1.nextIos := Nat.lt_succ_self _
  dsimp only [doNone]
  generalize iostateAlloc s = p at hnew hneg hle hlt ⊢
  obtain ⟨s1, n⟩ := p
  dsimp only at hnew hneg hle hlt ⊢
  have h2 := queueSys_createHandles (k := k) (o := o) (i := n)
    (hnew { s1.ios n with handleType := .none } (.inl (hneg.trans_lt (show (-1 : Int) < 0 by decide))))
  split_ifs
  exacts [⟨queueSys_iostateRelease h2 (by simpa using hlt), by simpa using hle⟩,
    ⟨h2, by simpa using hle⟩]

/-- A new socket gets `-1` when `net_socket` fails, and otherwise the descriptor it
returned, which no state holds. -/
theorem queueSys_doSocket (msg : Msg) (h : QueueSys s) (hf : e.net.Fresh s) :
    QueueSys (doSocket e s msg o).1 ∧ s.nextIos ≤ (doSocket e s msg o).1.nextIos := by
  unfold doSocket
  split
  · exact ⟨h, le_rfl⟩
  split
  · exact ⟨h, le_rfl⟩
  split
  · exact ⟨h, le_rfl⟩
  rename_i _ _ _ _ d t p _ _ ht _
  have hnew := queueSys_iostateAlloc_setIos h
  have hlt : (iostateAlloc s).2 < (iostateAlloc s).1.nextIos := Nat.lt_succ_self _
  have hle : s.nextIos ≤ (iostateAlloc s).1.nextIos := Nat.le_succ _
  generalize iostateAlloc s = p at hnew hlt hle ⊢
  obtain ⟨s1, n⟩ := p
  dsimp only at hnew hlt hle ⊢
  cases hres : e.net.socket d t p with
  | error err =>
    simp only [NetResult.errno_error]
    rw [if_pos (by simp)]
    exact ⟨hnew _ (.inl (show (-1 : Int) < 0 by decide)), hle⟩
  | ok fd =>
    simp only [NetResult.errno_ok, ne_eq, not_true_eq_false, if_false]
    have h2 := (hnew { s1.ios n with handleType := ht, sockfd := fd, lastErrno := 0 }
      (.inr (hf.socket d t p fd hres))).emit (.netSocket fd)
    generalize (e.net.ioctlFionbio fd).errno = errno_
    generalize hs3 : Sys.setIos (Sys.emit _ _) n _ = s3
    have h3 : QueueSys s3 ∧ s3.nextIos = s1.nextIos := by
      subst hs3; exact ⟨h2.setIos_frame (by rfl), rfl⟩
    obtain ⟨h3, hn3⟩ := h3
    have h4 := queueSys_createHandles (k := e.kern) (o := o) (i := n) h3
    have hlt4 : n < (createHandles e.kern s3 n o).1.nextIos := by simpa [hn3] using hlt
    split_ifs
    · exact ⟨queueSys_iostateRelease h4 hlt4, by simpa [hn3] using hle⟩
    · exact ⟨queueSys_scheduleW (queueSys_socketSignalsSet (queueSys_fdEventSet h4 _ _)
        hlt4 _) (by simpa using hlt4), by simpa [hn3] using hle⟩
    · exact ⟨queueSys_socketSignalsSet (queueSys_fdEventSet h4 _ _) hlt4 _,
        by simpa [hn3] using hle⟩
    · exact ⟨queueSys_iostateRelease h3 (hn3 ▸ hlt), by simpa [hn3] using hle⟩

theorem doAccept_nextIos_le (j : IosId) : s.nextIos ≤ (doAccept e s j o).1.nextIos := by
  dsimp only [doAccept]
  split
  · exact le_rfl
  · generalize hs3 : scheduleSigconnR _ j = s3
    have h3 : s.nextIos ≤ (iostateAlloc s3).1.nextIos := by
      rw [← hs3]; split_ifs <;> simp [iostateAlloc]
    generalize iostateAlloc s3 = p at h3 ⊢
    obtain ⟨s4, n⟩ := p
    dsimp only at h3 ⊢
    split_ifs <;> simpa using h3

/-- The accepted connection's state gets the descriptor `net_accept` returned, which no
state holds; the listener's wakeups move no descriptor. -/
theorem queueSys_doAccept (j : IosId) (h : QueueSys s) (hf : e.net.Fresh s)
    (hj : j < s.nextIos) : QueueSys (doAccept e s j o).1 := by
  dsimp only [doAccept]
  split
  · exact h.setIos_frame (by rfl)
  · rename_i fd hacc
    generalize hs2 : Sys.emit _ (.netSocket fd) = s2
    have h2 : QueueSys s2 ∧ ∀ l, (s2.ios l).sockfd ≠ fd := by
      subst hs2
      refine ⟨(h.setIos_frame (by rfl)).emit _, fun l => ?_⟩
      rw [Sys.emit_ios, setIos_sockfd_frame]
      exacts [hf.accept _ fd hacc l, rfl]
    have hj2 : j < s2.nextIos := hs2 ▸ hj
    generalize hs3 : scheduleSigconnR _ j = s3
    have h3 : QueueSys s3 ∧ ∀ l, (s3.ios l).sockfd ≠ fd := by
      subst hs3
      split_ifs
      · exact ⟨queueSys_scheduleSigconnR (queueSys_mxObjectSignalPeer h2.1 _ _ _ _)
          (by simpa using hj2), by simpa using h2.2⟩
      · exact ⟨queueSys_scheduleSigconnR h2.1 hj2, h2.2⟩
    have hnew := queueSys_iostateAlloc_setIos h3.1
    have hlt : (iostateAlloc s3).2 < (iostateAlloc s3).1.nextIos := Nat.lt_succ_self _
    generalize iostateAlloc s3 = p at hnew hlt ⊢
    obtain ⟨s4, n⟩ := p
    dsimp only at hnew hlt ⊢
    have h5 := hnew { s4.ios n with handleType := (s.ios j).handleType, sockfd := fd } (.inr h3.2)
    generalize (e.net.ioctlFionbio fd).errno = errno_
    generalize hs6 : Sys.setIos _ j _ = s6
    have h6 : QueueSys s6 ∧ n < s6.nextIos := by
      subst hs6; exact ⟨h5.setIos_frame (by rfl), hlt⟩
    obtain ⟨h6, hlt6⟩ := h6
    have h7 := queueSys_createHandles (k := e.kern) (o := o) (i := n) h6
    have hlt7 : n < (createHandles e.kern s6 n o).1.nextIos := by simpa using hlt6
    split_ifs
    · exact queueSys_iostateRelease h6 hlt6
    · exact queueSys_iostateRelease h7 hlt7
    · exact queueSys_scheduleRw (queueSys_socketSignalsSet (queueSys_fdEventSet h7 _ _)
        hlt7 _) (by simpa using hlt7)

theorem queueSys_doOpen (j : IosId) (msg : Msg) (h : QueueSys s) (hf : e.net.Fresh s)
    (hj : j < s.nextIos) :
    QueueSys (doOpen e s j msg).1 ∧ s.nextIos ≤ (doOpen e s j msg).1.nextIos := by
  dsimp only [doOpen]
  have hclose : ∀ t : Sys, QueueSys t ∧ s.nextIos ≤ t.nextIos → ∀ c,
      QueueSys (mxHandleClose (t.emit c) msg.handle0) ∧
        s.nextIos ≤ (mxHandleClose (t.emit c) msg.handle0).nextIos := by
    intro t ht c
    refine ⟨queueSys_mxHandleClose (ht.1.emit c) _, ?_⟩
    unfold mxHandleClose
    split_ifs <;> exact ht.2
  apply hclose
  split_ifs
  exacts [⟨h, le_rfl⟩, queueSys_doNone h, queueSys_doSocket msg h hf,
    ⟨queueSys_doAccept j h hf hj, doAccept_nextIos_le j⟩, ⟨h, le_rfl⟩]

end Open

/-! ## Requests, readiness and steps -/

section Steps

variable {e : Env} {s : Sys}

/-- A handler called for an allocated state, with an honest network stack when it is
`OPEN`'s. -/
theorem queueSys_doFunc (rq : Request) (signals : Signals) (h : QueueSys s)
    (hf : rq.op = .mxrioOpen → e.net.Fresh s) (hi : rq.ios < s.nextIos) :
    QueueSys (doFunc e rq signals s).1 ∧ s.nextIos ≤ (doFunc e rq signals s).1.nextIos := by
  unfold doFunc
  split
  next hop => exact queueSys_doOpen _ _ h (hf hop) hi
  · exact ⟨queueSys_doClose h hi, (keeps_doClose (i := 0) (A := True) s _).nextIos⟩
  · exact ⟨queueSys_doConnect _ h hi, (grows_doConnect s e _ _).nextIos.ge⟩
  · exact ⟨queueSys_doBind _ h hi, (grows_doBind s e _ _).nextIos.ge⟩
  · exact ⟨queueSys_doListen _ h hi, (grows_doListen s e _ _).nextIos.ge⟩
  · exact ⟨queueSys_doWrite _ h hi, (keeps_doWrite (i := 0) (A := True) e s _ _).nextIos⟩
  · exact ⟨queueSys_doRead h hi, (grows_doRead s e _).nextIos.ge⟩
  · exact ⟨queueSys_doHalfclose h hi, (grows_doHalfclose s _ _).nextIos.ge⟩
  · exact ⟨queueSys_doSigconnR h, (grows_doSigconnR s _ _).nextIos.ge⟩
  · exact ⟨queueSys_doSigconnW h hi, (grows_doSigconnW s e _).nextIos.ge⟩

theorem queueSys_sendStatus (op : Op) (r : Status) (h : QueueSys s) :
    QueueSys (sendStatus s op r) := by
  unfold sendStatus
  split_ifs
  exacts [h, h.emit _]

/-- `handle_request` on a request for an allocated state. -/
theorem queueSys_handleRequest (rq : Request) (signals : Signals) (h : QueueSys s)
    (hf : rq.op = .mxrioOpen → e.net.Fresh s) (hi : rq.ios < s.nextIos) :
    QueueSys (handleRequest e rq signals s) ∧ s.nextIos ≤ (handleRequest e rq signals s).nextIos := by
  have h1 := queueSys_doFunc (e := e) rq signals (h.emit (.handled rq.op rq.ios))
    (fun hop => (hf hop).congr fun _ => rfl) hi
  have hi1 := hi.trans_le h1.2
  dsimp only [handleRequest]
  split_ifs with hnet hsock
  · exact ⟨queueSys_waitQueuePut h1.1 _ _ _ hi1 (internal_of_pending rq signals (.inl hnet)) rfl,
      h1.2⟩
  · exact ⟨queueSys_waitQueuePut h1.1 _ _ _ hi1 (internal_of_pending rq signals (.inr hsock)) rfl,
      h1.2⟩
  · exact h1
  · refine ⟨queueSys_sendStatus _ _ h1.1, ?_⟩
    unfold sendStatus
    split_ifs <;> exact h1.2

/-- Resuming requests that the server queued itself, none of which is an `OPEN`. -/
theorem queueSys_foldl_handleRequest (signals : Signals) :
    ∀ (q : List Request) (s : Sys), QueueSys s →
      (∀ rq ∈ q, rq.op.internal = true ∧ rq.ios < s.nextIos) →
      QueueSys (q.foldl (fun s rq => handleRequest e rq signals s) s) ∧
        s.nextIos ≤ (q.foldl (fun s rq => handleRequest e rq signals s) s).nextIos
  | [], _, h, _ => ⟨h, le_rfl⟩
  | rq :: q, _, h, hq =>
    have hrq := hq rq (List.mem_cons_self _ _)
    have h1 := queueSys_handleRequest rq signals h
      (fun hop => absurd hrq.1 (by rw [hop]; decide)) hrq.2
    have h2 := queueSys_foldl_handleRequest signals q _ h1.1
      fun r hr => (hq r (List.mem_cons_of_mem _ hr)).imp_right fun hlt => hlt.trans_le h1.2
    ⟨h2.1, h1.2.trans h2.2⟩

theorem queueSys_netReady (fd : Int) (h : QueueSys s) :
    QueueSys (netReady e fd s) ∧ s.nextIos ≤ (netReady e fd s).nextIos :=
  queueSys_foldl_handleRequest mxSignalNone _ _ (queueSys_waitQueueSwap h .net fd)
    fun rq hrq => (h.resumed .net fd rq hrq).imp_right And.left

theorem queueSys_watcherDispatch (j : IosId) (satisfied : Signals) (h : QueueSys s)
    (hj : j < s.nextIos) :
    QueueSys (watcherDispatch e s j satisfied) ∧
      s.nextIos ≤ (watcherDispatch e s j satisfied).nextIos := by
  have h1 := queueSys_socketSignalsClear (k := e.kern) h hj satisfied
  have hj1 : j < (socketSignalsClear e.kern s j satisfied).nextIos := by simpa using hj
  dsimp only [watcherDispatch]
  split_ifs
  · exact ⟨queueSys_handleRequestClose h1 hj1, by simpa using
      (keeps_handleRequestClose (i := 0) (A := True) (socketSignalsClear e.kern s j satisfied) j).nextIos⟩
  · exact ⟨queueSys_handleRequestHalfclose h1 hj1, by simpa using
      (grows_handleRequestHalfclose (socketSignalsClear e.kern s j satisfied) e.kern j).nextIos.ge⟩
  · have hn1 : (socketSignalsClear e.kern s j satisfied).nextIos = s.nextIos := by simp
    generalize socketSignalsClear e.kern s j satisfied = s1 at h1 hn1 ⊢
    have h2 := queueSys_foldl_handleRequest (e := e) satisfied
      (waitQueueSwap s1 .socket (s1.ios j).sockfd).2 _
      (queueSys_waitQueueSwap h1 .socket (s1.ios j).sockfd)
      fun rq hrq => (h1.resumed .socket _ rq hrq).imp_right And.left
    exact ⟨h2.1, hn1 ▸ h2.2⟩
  · exact ⟨h1, by simp⟩

theorem queueSys_handleWatcherScheduleRequest :
    ∀ (results : List (IosAddr × Signals)) (s : Sys), QueueSys s →
      (∀ r ∈ results, r.1 < s.nextIos) →
      QueueSys (handleWatcherScheduleRequest e results s) ∧
        s.nextIos ≤ (handleWatcherScheduleRequest e results s).nextIos
  | [], _, h, _ => ⟨h, le_rfl⟩
  | r :: results, _, h, hr =>
    have h1 := queueSys_watcherDispatch _ r.2 h (h.heap.owner_lt (hr r (List.mem_cons_self _ _)))
    have h2 := queueSys_handleWatcherScheduleRequest results _ h1.1
      fun r' hr' => (hr r' (List.mem_cons_of_mem _ hr')).trans_le h1.2
    ⟨h2.1, h1.2.trans h2.2⟩

end Steps

/-- What the rest of the system provides to a step: a RIO message arrives on, or the client
closes, the channel of an allocated state, and an `OPEN` finds a network stack that gives
out only descriptors no state holds; the wait-set reports only cookies it has an entry
for. -/
def Action.Admissible (s : Sys) : Action → Prop
  | .rio i op _ e => i < s.nextIos ∧ (op = .mxrioOpen → e.net.Fresh s)
  | .netReady _ _ => True
  | .watcher results _ => ∀ r ∈ results, s.waitset r.1 ≠ none
  | .rioPeerClosed i => i < s.nextIos

/-- Every step of a run is admissible at the state it starts from. -/
def RunAdmissible : Sys → List Action → Prop
  | _, [] => True
  | s, a :: acts => a.Admissible s ∧ RunAdmissible (step s a) acts

/-- The step lemma. -/
theorem queueSys_step {s : Sys} (h : QueueSys s) (a : Action) (ha : a.Admissible s) :
    QueueSys (step s a) := by
  cases a with
  | rio j op msg e => exact (queueSys_handleRequest _ _ h ha.2 ha.1).1
  | netReady fd e => exact (queueSys_netReady fd h).1
  | watcher results e =>
    refine (queueSys_handleWatcherScheduleRequest results s h fun r hr => ?_).1
    by_contra hge
    exact ha r hr (h.fresh _ (Nat.not_lt.mp hge))
  | rioPeerClosed j => exact queueSys_iostateRelease h ha

/-- The run lemma. -/
theorem queueSys_run : ∀ (acts : List Action) (s : Sys), QueueSys s → RunAdmissible s acts →
    QueueSys (run s acts)
  | [], _, h, _ => h
  | a :: acts, _, h, hrun => queueSys_run acts _ (queueSys_step h a hrun.1) hrun.2

/-- The stack of the client sessions, before any state holds a descriptor. -/
theorem backendOk_fresh_init (fd : Nat) : (backendOk fd).Fresh Sys.init :=
  ⟨fun _ _ _ _ h j => by cases h; show (-1 : Int) ≠ fd; omega, fun _ _ h => nomatch h⟩

set_option maxRecDepth 100000 in
theorem halfCloseDuringWrite_admissible : RunAdmissible Sys.init halfCloseDuringWrite :=
  ⟨⟨by decide, fun _ => backendOk_fresh_init 3⟩, ⟨by decide, fun h => nomatch h⟩,
    by dsimp only [Action.Admissible]; decide, by dsimp only [Action.Admissible]; decide, trivial⟩

end Netstack
