import Netstack.Server
import Netstack.Pool

/-!
# The buffer pool over whole runs

`Netstack.Pool` follows `get_rwbuf` and `put_rwbuf` with the holders of the buffers as a
list beside the free list.  In the server the holders are the states: a state holds the
buffers in its `rbuf` and `wbuf` while it is live, that is until the release that brings
its count to zero returns them to the pool.  Read this way the server is a pool
(`Sys.pool`), and every step of the server keeps that pool sound, whatever the clients,
the network stack and the kernel do: no two live states share a buffer, no state holds a
buffer twice, and none of their buffers is on the free list, so `get_rwbuf` never hands
out a buffer a live state holds (`run_keeps_rwbufs_apart`).

A handler that runs for a state after its record was freed (`Netstack.Server` shows the
watcher doing so) may still fill an empty buffer slot of the freed record; that buffer is
then held by no live state and never returns to the pool, which leaves the pool sound.
-/

namespace Netstack

/-- The addresses of the buffers in a state's `rbuf` and `wbuf`. -/
def IOState.bufAddrs (st : IOState) : List Nat :=
  (st.rbuf.map RwBuf.addr).toList ++ (st.wbuf.map RwBuf.addr).toList

/-- The buffers a state holds: its own while it is live, none once its count is down to
zero or below. -/
def IOState.held (st : IOState) : List Nat := if 0 < st.refcount then st.bufAddrs else []

/-- The buffers the allocated states hold. -/
def Sys.liveBufs (s : Sys) : List Nat := (List.range s.nextIos).flatMap fun i => (s.ios i).held

/-- The server read as the pool of `get_rwbuf` and `put_rwbuf`: its free list, and the
buffers its live states hold. -/
def Sys.pool (s : Sys) : Pool := ⟨s, s.liveBufs⟩

theorem IOState.held_congr {r st : IOState} (hr : r.rbuf.map RwBuf.addr = st.rbuf.map RwBuf.addr)
    (hw : r.wbuf.map RwBuf.addr = st.wbuf.map RwBuf.addr) (hc : r.refcount = st.refcount) :
    r.held = st.held := by
  simp only [IOState.held, IOState.bufAddrs, hr, hw, hc]

@[simp] theorem IOState.held_default : ({ refcount := 1 } : IOState).held = [] := rfl

/-- Filling an empty `rbuf` slot adds its buffer to what a live state holds. -/
theorem IOState.held_fill_rbuf {r st : IOState} {b : RwBuf} (hnone : st.rbuf = none)
    (hr : r.rbuf = some b) (hw : r.wbuf = st.wbuf) (hc : r.refcount = st.refcount) :
    r.held = [] ∨ r.held.Perm (b.addr :: st.held) := by
  by_cases hl : 0 < st.refcount
  · right; simp [IOState.held, IOState.bufAddrs, hnone, hr, hw, hc, hl]
  · left; simp [IOState.held, hc, hl]

theorem IOState.held_fill_wbuf {r st : IOState} {b : RwBuf} (hnone : st.wbuf = none)
    (hw : r.wbuf = some b) (hr : r.rbuf = st.rbuf) (hc : r.refcount = st.refcount) :
    r.held = [] ∨ r.held.Perm (b.addr :: st.held) := by
  by_cases hl : 0 < st.refcount
  · right; simp [IOState.held, IOState.bufAddrs, hnone, hr, hw, hc, hl]
  · left; simp [IOState.held, hc, hl]

/-- The buffer discipline: the free list holds no address twice, every state holds its
buffers once, no two states and no state and the free list share an address, and every
address in use is below the next fresh one. -/
structure BufSys (s : Sys) : Prop where
  free_nodup : (s.rwbufHead.map RwBuf.addr).Nodup
  free_lt : ∀ b ∈ s.rwbufHead, b.addr < s.nextBuf
  held_nodup : ∀ i, (s.ios i).held.Nodup
  held_lt : ∀ i, ∀ a ∈ (s.ios i).held, a < s.nextBuf
  held_not_free : ∀ i, ∀ b ∈ s.rwbufHead, b.addr ∉ (s.ios i).held
  apart : ∀ i j, i ≠ j → ∀ a ∈ (s.ios i).held, a ∉ (s.ios j).held

theorem bufSys_init : BufSys Sys.init :=
  ⟨List.nodup_nil, fun _ h => (nomatch h), fun _ => List.nodup_nil, fun _ _ h => (nomatch h),
    fun _ _ h => (nomatch h), fun _ _ _ _ h => (nomatch h)⟩

/-- The refinement: the server's buffer discipline is the soundness of the pool it is read
as, so every fact `Netstack.Pool` proves of a sound pool holds of the server. -/
theorem BufSys.pool_ok {s : Sys} (h : BufSys s) : s.pool.Ok := by
  have hlive : s.liveBufs.Nodup := List.nodup_flatMap.mpr
    ⟨fun i _ => h.held_nodup i, (List.nodup_range _).pairwise_of_forall_ne
      fun i _ j _ hij a hi hj => h.apart i j hij a hi hj⟩
  refine ⟨List.nodup_append.mpr ⟨h.free_nodup, hlive, fun a ha hl => ?_⟩, fun a ha => ?_⟩
  · obtain ⟨b, hb, rfl⟩ := List.mem_map.mp ha
    obtain ⟨i, -, hi⟩ := List.mem_flatMap.mp hl
    exact h.held_not_free i b hb hi
  · rcases List.mem_append.mp ha with ha | ha
    · obtain ⟨b, hb, rfl⟩ := List.mem_map.mp ha
      exact h.free_lt b hb
    · obtain ⟨i, -, hi⟩ := List.mem_flatMap.mp ha
      exact h.held_lt i a hi

namespace BufSys

variable {s t : Sys}

/-- A change that moves no buffer: the free list, the next fresh address and what every
state holds stay. -/
theorem of_frame (h : BufSys s) (hhead : t.rwbufHead = s.rwbufHead)
    (hnext : t.nextBuf = s.nextBuf) (hheld : ∀ j, (t.ios j).held = (s.ios j).held) : BufSys t :=
  ⟨hhead ▸ h.free_nodup, hhead ▸ hnext ▸ h.free_lt, fun i => hheld i ▸ h.held_nodup i,
    fun i => hheld i ▸ hnext ▸ h.held_lt i, fun i => hhead ▸ hheld i ▸ h.held_not_free i,
    fun i j hij => hheld i ▸ hheld j ▸ h.apart i j hij⟩

theorem of_eq (h : BufSys s) (hios : t.ios = s.ios) (hhead : t.rwbufHead = s.rwbufHead)
    (hnext : t.nextBuf = s.nextBuf) : BufSys t :=
  h.of_frame hhead hnext fun _ => by rw [hios]

theorem emit (h : BufSys s) (c : Call) : BufSys (s.emit c) := h.of_eq rfl rfl rfl

/-- Changing a record without changing what it holds. -/
theorem setIos (h : BufSys s) {j : IosId} {r : IOState} (hr : r.held = (s.ios j).held) :
    BufSys (s.setIos j r) :=
  h.of_frame rfl rfl fun k => by by_cases hk : k = j <;> simp [hk, hr]

/-- Changing a record so that it holds nothing. -/
theorem setIos_empty (h : BufSys s) {j : IosId} {r : IOState} (hr : r.held = []) :
    BufSys (s.setIos j r) := by
  refine ⟨h.free_nodup, h.free_lt, fun k => ?_, fun k => ?_, fun k => ?_, fun k l hkl => ?_⟩ <;>
    simp only [Sys.setIos, Function.update_apply]
  · split_ifs
    exacts [hr ▸ List.nodup_nil, h.held_nodup k]
  · split_ifs
    exacts [hr ▸ fun _ h => (nomatch h), h.held_lt k]
  · split_ifs
    exacts [hr ▸ fun _ _ h => (nomatch h), h.held_not_free k]
  · split_ifs with hk hl hl
    · exact absurd (hk.trans hl.symm) hkl
    · exact hr ▸ fun _ h => (nomatch h)
    · exact hr ▸ fun _ _ h => (nomatch h)
    · exact h.apart k l hkl

/-- Giving a record a buffer that no state holds and that is not free, beside what it
held. -/
theorem setIos_fresh (h : BufSys s) {j : IosId} {r : IOState} {a : Nat}
    (hfree : ∀ b ∈ s.rwbufHead, b.addr ≠ a) (hheld : ∀ k, a ∉ (s.ios k).held)
    (hlt : a < s.nextBuf) (hr : r.held = [] ∨ r.held.Perm (a :: (s.ios j).held)) :
    BufSys (s.setIos j r) := by
  rcases hr with hr | hr
  · exact h.setIos_empty hr
  have hmem : ∀ x ∈ r.held, x = a ∨ x ∈ (s.ios j).held := fun x hx =>
    List.mem_cons.mp (hr.subset hx)
  refine ⟨h.free_nodup, h.free_lt, fun k => ?_, fun k => ?_, fun k => ?_, fun k l hkl => ?_⟩ <;>
    simp only [Sys.setIos, Function.update_apply]
  · split_ifs
    exacts [hr.nodup_iff.mpr (List.nodup_cons.mpr ⟨hheld j, h.held_nodup j⟩), h.held_nodup k]
  · split_ifs
    · intro x hx
      rcases hmem x hx with rfl | hx
      exacts [hlt, h.held_lt j x hx]
    · exact h.held_lt k
  · split_ifs
    · intro b hb hx
      rcases hmem _ hx with hx | hx
      exacts [hfree b hb hx, h.held_not_free j b hb hx]
    · exact h.held_not_free k
  · split_ifs with hk hl hl
    · exact absurd (hk.trans hl.symm) hkl
    · intro x hx
      rcases hmem x hx with rfl | hx
      exacts [hheld l, h.apart j l (hk ▸ hkl) x hx]
    · intro x hx hx'
      rcases hmem x hx' with rfl | hx'
      exacts [hheld k hx, h.apart k j (hl ▸ hkl) x hx hx']
    · exact h.apart k l hkl

/-- `get_rwbuf` keeps the discipline, and hands out a buffer that is then neither free nor
held, below the next fresh address. -/
theorem getRwbuf (h : BufSys s) :
    BufSys (getRwbuf s).1 ∧ (∀ b ∈ (getRwbuf s).1.rwbufHead, b.addr ≠ (getRwbuf s).2.addr) ∧
      (∀ k, (getRwbuf s).2.addr ∉ ((getRwbuf s).1.ios k).held) ∧
      (getRwbuf s).2.addr < (getRwbuf s).1.nextBuf := by
  unfold Netstack.getRwbuf
  split
  · -- a fresh buffer, above every address in use
    rename_i hhead
    refine ⟨⟨by simp [hhead], by simp [hhead], h.held_nodup, fun k a ha =>
      Nat.lt_succ_of_lt (h.held_lt k a ha), by simp [hhead], h.apart⟩, by simp [hhead],
      fun k ha => Nat.lt_irrefl _ (h.held_lt k _ ha), Nat.lt_succ_self _⟩
  · -- the head of the free list
    rename_i b rest hhead
    have hnd := h.free_nodup
    rw [hhead, List.map_cons, List.nodup_cons] at hnd
    refine ⟨⟨hnd.2, fun c hc => h.free_lt c (by simp [hhead, hc]), h.held_nodup, h.held_lt,
      fun k c hc => h.held_not_free k c (by simp [hhead, hc]), h.apart⟩,
      fun c hc he => hnd.1 (he ▸ List.mem_map_of_mem _ hc), fun k => h.held_not_free k b (by simp [hhead]),
      h.free_lt b (by simp [hhead])⟩

/-- `put_rwbuf` of `NULL`, or of a buffer that is neither free nor held. -/
theorem putRwbuf (h : BufSys s) (b : Option RwBuf)
    (hfree : ∀ x ∈ b, ∀ c ∈ s.rwbufHead, c.addr ≠ x.addr)
    (hheld : ∀ x ∈ b, ∀ k, x.addr ∉ (s.ios k).held) (hlt : ∀ x ∈ b, x.addr < s.nextBuf) :
    BufSys (Netstack.putRwbuf s b) := by
  cases b with
  | none => exact h
  | some x =>
    have hx : x.addr ∉ s.rwbufHead.map RwBuf.addr := fun hm => by
      obtain ⟨c, hc, he⟩ := List.mem_map.mp hm
      exact hfree x rfl c hc he
    refine ⟨List.nodup_cons.mpr ⟨hx, h.free_nodup⟩, fun c hc => ?_, h.held_nodup, h.held_lt,
      fun k c hc => ?_, h.apart⟩ <;> rcases List.mem_cons.mp hc with rfl | hc
    exacts [hlt c rfl, h.free_lt c hc, hheld c rfl k, h.held_not_free k c hc]

/-- `if (ios->rbuf == NULL) ios->rbuf = get_rwbuf();` and the record that stores the
result. -/
theorem readStreamBuf_setIos (h : BufSys s) (i : IosId) {r : IOState}
    (hr : r.rbuf = some (readStreamBuf s i).2) (hw : r.wbuf = (s.ios i).wbuf)
    (hc : r.refcount = (s.ios i).refcount) : BufSys ((readStreamBuf s i).1.setIos i r) := by
  cases hb : (s.ios i).rbuf with
  | some b =>
    simp only [readStreamBuf, hb] at hr ⊢
    exact h.setIos (IOState.held_congr (by rw [hr, hb]) (by rw [hw]) hc)
  | none =>
    simp only [readStreamBuf, hb] at hr ⊢
    obtain ⟨hg, hfree, hheld, hlt⟩ := h.getRwbuf
    exact hg.setIos_fresh hfree hheld hlt
      (IOState.held_fill_rbuf (by simpa using hb) hr (by simpa using hw) (by simpa using hc))

/-- `if (ios->wbuf == NULL) ios->wbuf = get_rwbuf();` and the record that stores the
result. -/
theorem writeStreamBuf_setIos (h : BufSys s) (i : IosId) {r : IOState}
    (hw : r.wbuf = some (writeStreamBuf s i).2) (hr : r.rbuf = (s.ios i).rbuf)
    (hc : r.refcount = (s.ios i).refcount) : BufSys ((writeStreamBuf s i).1.setIos i r) := by
  cases hb : (s.ios i).wbuf with
  | some b =>
    simp only [writeStreamBuf, hb] at hw ⊢
    exact h.setIos (IOState.held_congr (by rw [hr]) (by rw [hw, hb]) hc)
  | none =>
    simp only [writeStreamBuf, hb] at hw ⊢
    obtain ⟨hg, hfree, hheld, hlt⟩ := h.getRwbuf
    exact hg.setIos_fresh hfree hheld hlt
      (IOState.held_fill_wbuf (by simpa using hb) hw (by simpa using hr) (by simpa using hc))

/-- A reference more for a live state changes nothing it holds. -/
theorem iostateAcquire (h : BufSys s) {i : IosId} (hi : 0 < (s.ios i).refcount) :
    BufSys (Netstack.iostateAcquire s i) := by
  refine (h.setIos ?_).emit _
  simp only [IOState.held]
  split_ifs <;> first | rfl | omega

/-- The release that brings the count to zero moves exactly the record's buffers from
what it holds to the free list; any other release changes nothing held. -/
theorem iostateRelease (h : BufSys s) (i : IosId) : BufSys (Netstack.iostateRelease s i) := by
  dsimp only [Netstack.iostateRelease]
  split_ifs with h0
  · have hlive : (s.ios i).held = (s.ios i).bufAddrs := if_pos (by omega)
    have hr : ∀ x ∈ (s.ios i).rbuf, x.addr ∈ (s.ios i).held := fun x hx => by
      simp [hlive, IOState.bufAddrs, Option.mem_def.mp hx]
    have hw : ∀ x ∈ (s.ios i).wbuf, x.addr ∈ (s.ios i).held := fun x hx => by
      simp [hlive, IOState.bufAddrs, Option.mem_def.mp hx]
    set t := (s.setIos i { s.ios i with refcount := (s.ios i).refcount - 1 }).emit
      (.iostateRelease i) with ht_def
    have ht : BufSys t := (h.setIos_empty (by simp [IOState.held, h0])).emit _
    -- what the others hold is apart from the record's buffers
    have hheld : ∀ a ∈ (s.ios i).held, ∀ k, a ∉ (t.ios k).held := fun a ha k => by
      by_cases hk : k = i
      · simp [ht_def, hk, IOState.held, h0]
      · simpa [ht_def, hk] using h.apart i k (Ne.symm hk) a ha
    have h1 := ht.putRwbuf (s.ios i).rbuf
      (fun x hx c hc he => h.held_not_free i c hc (he ▸ hr x hx))
      (fun x hx => hheld _ (hr x hx)) (fun x hx => h.held_lt i _ (hr x hx))
    have h2 := h1.putRwbuf (s.ios i).wbuf (fun y hy c hc he => ?_)
      (fun y hy k => by simpa using hheld _ (hw y hy) k) (fun y hy => by simpa using h.held_lt i _ (hw y hy))
    · exact h2.of_eq rfl rfl rfl
    -- the `wbuf` is not the `rbuf` just put back, nor a free buffer
    cases hrb : (s.ios i).rbuf with
    | none =>
      simp only [hrb, Netstack.putRwbuf] at hc
      exact h.held_not_free i c hc (he ▸ hw y hy)
    | some x =>
      simp only [hrb, Netstack.putRwbuf, List.mem_cons] at hc
      rcases hc with rfl | hc
      · have hnd := h.held_nodup i
        simp [hlive, IOState.bufAddrs, hrb, Option.mem_def.mp hy, he] at hnd
      · exact h.held_not_free i c hc (he ▸ hw y hy)
  · refine (h.setIos ?_).emit _
    simp only [IOState.held]
    split_ifs <;> first | rfl | omega

/-- A new record holds nothing. -/
theorem iostateAlloc (h : BufSys s) : BufSys (Netstack.iostateAlloc s).1 :=
  ((h.of_eq (t := { s with nextIos := s.nextIos + 1, heap := s.heap.malloc s.nextIos }) rfl rfl
    rfl).setIos_empty IOState.held_default).emit _

end BufSys

/-! ## What each function does to the buffers -/

section Primitives

variable {s : Sys}

theorem bufSys_fdEventSet (h : BufSys s) (fd : Int) (ev : Events) : BufSys (fdEventSet s fd ev) :=
  h.of_eq rfl rfl rfl

theorem bufSys_fdEventClear (h : BufSys s) (fd : Int) (ev : Events) :
    BufSys (fdEventClear s fd ev) :=
  h.of_eq rfl rfl rfl

theorem bufSys_mxObjectSignalPeer (h : BufSys s) (k : Kernel) (i : IosId) (clear set : Signals) :
    BufSys (mxObjectSignalPeer k s i clear set) := by
  unfold mxObjectSignalPeer
  split_ifs
  exacts [h, h.of_eq rfl rfl rfl]

theorem bufSys_waitQueuePut (h : BufSys s) (q : WaitQueue) (fd : Int) (rq : Request) :
    BufSys (waitQueuePut s q fd rq) := by
  cases q <;> exact h.of_eq rfl rfl rfl

theorem bufSys_waitQueueDiscard (h : BufSys s) (q : WaitQueue) (fd : Int) :
    BufSys (waitQueueDiscard s q fd) := by
  cases q <;> exact h.of_eq rfl rfl rfl

theorem bufSys_waitQueueSwap (h : BufSys s) (q : WaitQueue) (fd : Int) :
    BufSys (waitQueueSwap s q fd).1 := by
  cases q <;> exact h.of_eq rfl rfl rfl

theorem bufSys_socketSignalsChange (h : BufSys s) (k : Kernel) (i : IosId)
    (oldSigs newSigs : Signals) : BufSys (socketSignalsChange k s i oldSigs newSigs) := by
  obtain ⟨ws, w, he⟩ := socketSignalsChange_eq k s i oldSigs newSigs
  rw [he]
  exact (h.of_eq (t := { s with waitset := ws }) rfl rfl rfl).setIos (by rfl)

theorem bufSys_socketSignalsSet (h : BufSys s) (k : Kernel) (i : IosId) (sigs : Signals) :
    BufSys (socketSignalsSet k s i sigs) := by
  dsimp only [socketSignalsSet]
  split_ifs
  exacts [h, bufSys_socketSignalsChange h _ _ _ _]

theorem bufSys_socketSignalsClear (h : BufSys s) (k : Kernel) (i : IosId) (sigs : Signals) :
    BufSys (socketSignalsClear k s i sigs) := by
  dsimp only [socketSignalsClear]
  split_ifs
  exacts [h, bufSys_socketSignalsChange h _ _ _ _]

end Primitives

section Handlers

variable {e : Env} {k : Kernel} {i : IosId} {s : Sys}

theorem bufSys_scheduleSigconnR (h : BufSys s) : BufSys (scheduleSigconnR s i) :=
  bufSys_waitQueuePut (bufSys_fdEventSet h _ _) _ _ _

theorem bufSys_scheduleSigconnW (h : BufSys s) : BufSys (scheduleSigconnW s i) :=
  bufSys_waitQueuePut (bufSys_fdEventSet h _ _) _ _ _

theorem bufSys_scheduleR (h : BufSys s) : BufSys (scheduleR s i) :=
  bufSys_waitQueuePut (bufSys_fdEventSet h _ _) _ _ _

theorem bufSys_scheduleW (h : BufSys s) : BufSys (scheduleW k s i) :=
  bufSys_waitQueuePut (bufSys_socketSignalsSet h _ _ _) _ _ _

theorem bufSys_scheduleRw (h : BufSys s) : BufSys (scheduleRw k s i) := by
  unfold scheduleRw
  split_ifs
  exacts [bufSys_scheduleW (bufSys_scheduleR (bufSys_mxObjectSignalPeer h _ _ _ _)),
    bufSys_scheduleW (bufSys_scheduleR h)]

theorem bufSys_doClose (h : BufSys s) : BufSys (doClose s i).1 := by
  dsimp only [doClose]
  refine BufSys.iostateRelease ?_ i
  split_ifs
  exacts [(bufSys_waitQueueDiscard (bufSys_waitQueueDiscard (bufSys_fdEventClear (h.emit _) _ _)
    _ _) _ _).setIos (by rfl), h]

theorem bufSys_handleRequestClose (h : BufSys s) : BufSys (handleRequestClose s i) :=
  bufSys_doClose (h.emit _)

theorem bufSys_doHalfclose (h : BufSys s) : BufSys (doHalfclose k s i).1 :=
  bufSys_socketSignalsSet (h.emit _) _ _ _

theorem bufSys_handleRequestHalfclose (h : BufSys s) : BufSys (handleRequestHalfclose k s i) :=
  bufSys_doHalfclose (h.emit _)

theorem bufSys_doConnect (msg : Msg) (h : BufSys s) : BufSys (doConnect e s i msg).1 := by
  dsimp only [doConnect]
  generalize (e.net.connect (s.ios i).sockfd (msg.data.take msg.datalen)).errno = errno_
  have h1 : BufSys (s.setIos i { s.ios i with lastErrno := errno_ }) := h.setIos (by rfl)
  generalize hs2 : (if errno_ = einprogress
      then scheduleSigconnW (s.setIos i { s.ios i with lastErrno := errno_ }) i
      else s.setIos i { s.ios i with lastErrno := errno_ }) = s2
  have h2 : BufSys s2 := by
    subst hs2
    split_ifs
    exacts [bufSys_scheduleSigconnW h1, h1]
  split_ifs
  exacts [h2, bufSys_scheduleRw h2, h2]

theorem bufSys_doSigconnW (h : BufSys s) : BufSys (doSigconnW e s i).1 := by
  dsimp only [doSigconnW]
  generalize hs1 : (if (s.ios i).handleType = .stream
    then mxObjectSignalPeer e.kern s i mxSignalNone mxsioSignalOutgoing else s) = s1
  have h1 : BufSys s1 := by
    subst hs1
    split_ifs
    exacts [bufSys_mxObjectSignalPeer h _ _ _ _, h]
  split
  · dsimp only
    split_ifs
    exacts [bufSys_scheduleRw (h1.setIos (by rfl)), h1.setIos (by rfl)]
  · exact h1

theorem bufSys_doBind (msg : Msg) (h : BufSys s) : BufSys (doBind e s i msg).1 := by
  unfold doBind
  dsimp only
  split_ifs
  exacts [h.setIos (by rfl), bufSys_scheduleR (h.setIos (by rfl)), h.setIos (by rfl)]

theorem bufSys_doListen (msg : Msg) (h : BufSys s) : BufSys (doListen e s i msg).1 := by
  unfold doListen
  dsimp only
  split_ifs
  exacts [h, bufSys_scheduleSigconnR h]

theorem bufSys_doSigconnR (h : BufSys s) : BufSys (doSigconnR k s i).1 := by
  unfold doSigconnR
  dsimp only
  split_ifs
  exacts [bufSys_mxObjectSignalPeer h _ _ _ _, h]

/-! ### Reads -/

theorem bufSys_readStreamDrained (h : BufSys s) : BufSys (readStreamDrained s i).1 :=
  bufSys_fdEventSet (h.setIos (by rfl)) _ _

theorem bufSys_readStreamPush : ∀ fuel (s : Sys), BufSys s → BufSys (readStreamPush k i fuel s).1
  | 0, _, h => bufSys_readStreamDrained h
  | fuel + 1, s, h => by
    simp only [readStreamPush]
    split_ifs
    · cases k.socketWrite (s.ios i).readPending with
      | failed r =>
        dsimp only
        split_ifs
        exacts [bufSys_socketSignalsSet h _ _ _, h]
      | wrote n _ _ => exact bufSys_readStreamPush fuel _ ((h.setIos (by rfl)).emit _)
    · exact bufSys_readStreamDrained h

theorem bufSys_readStreamConnectionClosed (h : BufSys s) :
    BufSys (readStreamConnectionClosed k s i).1 := by
  dsimp only [readStreamConnectionClosed]
  split_ifs
  exacts [h, h, h.emit _]

/-- A read into the buffer keeps its address. -/
theorem held_refill {st : IOState} {b : RwBuf} (hb : st.rbuf = some b) (d : List Byte)
    (rlen roff read : Nat) :
    ({ st with rbuf := some ⟨b.addr, d⟩, rlen := rlen, roff := roff, readNetRead := read } :
      IOState).held = st.held :=
  IOState.held_congr (by simp [hb]) rfl rfl

theorem bufSys_doReadStream (h : BufSys s) : BufSys (doReadStream e s i).1 := by
  by_cases h0 : (s.ios i).rlen ≤ 0
  · rcases hsb : readStreamBuf s i with ⟨s1, b⟩
    have hios : s1.ios = s.ios := by simpa [hsb] using readStreamBuf_ios s i
    simp only [doReadStream, if_pos h0, hsb]
    generalize e.net.read (s.ios i).sockfd rwbufSize = n
    have h2 : BufSys (s1.setIos i { s.ios i with rbuf := some b, lastErrno := n.errno }) := by
      simpa [hsb] using h.readStreamBuf_setIos i
        (r := { s.ios i with rbuf := some b, lastErrno := n.errno }) (by simp [hsb]) rfl rfl
    cases n with
    | error err =>
      dsimp only
      split_ifs
      exacts [bufSys_fdEventSet h2 _ _, bufSys_readStreamConnectionClosed h2]
    | ok r =>
      obtain ⟨bytes, _⟩ := r
      dsimp only
      split_ifs
      · exact bufSys_readStreamConnectionClosed (h2.emit _)
      · exact bufSys_readStreamPush _ _ ((h2.emit _).setIos (held_refill (by simp) _ _ _ _))
  · simp only [doReadStream, if_neg h0]
    exact bufSys_readStreamPush _ _ h

theorem bufSys_doReadDgram (h : BufSys s) : BufSys (doReadDgram e s i).1 := by
  unfold doReadDgram
  rcases hsb : readStreamBuf s i with ⟨s1, b⟩
  have hios : s1.ios = s.ios := by simpa [hsb] using readStreamBuf_ios s i
  dsimp only
  generalize e.net.recvfrom (s1.ios i).sockfd rwbufSize = n
  have h2 : BufSys (s1.setIos i { s1.ios i with rbuf := some b, lastErrno := n.errno }) := by
    simpa [hsb] using h.readStreamBuf_setIos i
      (r := { s1.ios i with rbuf := some b, lastErrno := n.errno }) (by simp [hsb])
      (by simp [hios]) (by simp [hios])
  cases n with
  | error err =>
    dsimp only
    split_ifs
    exacts [bufSys_fdEventSet h2 _ _, h2]
  | ok r =>
    obtain ⟨addr, payload, _⟩ := r
    dsimp only
    split_ifs
    · exact h2
    · exact bufSys_fdEventSet ((h2.emit _).setIos (by rfl)) _ _

theorem bufSys_doRead (h : BufSys s) : BufSys (doRead e s i).1 := by
  unfold doRead
  split
  exacts [bufSys_doReadStream h, bufSys_doReadDgram h, h]

/-! ### Writes -/

theorem bufSys_writeStreamDrained (h : BufSys s) : BufSys (writeStreamDrained k s i).1 :=
  bufSys_socketSignalsSet (h.setIos (by rfl)) _ _ _

theorem bufSys_writeStreamPush : ∀ fuel (s : Sys), BufSys s → BufSys (writeStreamPush e i fuel s).1
  | 0, _, h => bufSys_writeStreamDrained h
  | fuel + 1, s, h => by
    simp only [writeStreamPush]
    split_ifs
    · cases e.net.write (s.ios i).sockfd (s.ios i).writePending with
      | error err =>
        dsimp only
        split_ifs
        exacts [bufSys_fdEventSet (h.setIos (by rfl)) _ _, h.setIos (by rfl)]
      | ok r => exact bufSys_writeStreamPush fuel _ ((h.setIos (by rfl)).emit _)
    · exact bufSys_writeStreamDrained h

theorem bufSys_writeStreamBuf_setIos (h : BufSys s) :
    BufSys ((writeStreamBuf s i).1.setIos i
      { (writeStreamBuf s i).1.ios i with wbuf := some (writeStreamBuf s i).2 }) :=
  h.writeStreamBuf_setIos i rfl (by simp) (by simp)

/-- Data from the client into the buffer keeps its address. -/
theorem held_refill_wbuf {st : IOState} {b : RwBuf} (hb : st.wbuf = some b) (d : List Byte)
    (wlen woff read : Nat) :
    ({ st with wbuf := some ⟨b.addr, d⟩, wlen := wlen, woff := woff, writeSocketRead := read } :
      IOState).held = st.held :=
  IOState.held_congr rfl (by simp [hb]) rfl

theorem bufSys_doWriteStream (signals : Signals) (h : BufSys s) :
    BufSys (doWriteStream e s i signals).1 := by
  by_cases h0 : (s.ios i).wlen ≤ 0
  · have h2 := bufSys_writeStreamBuf_setIos (i := i) h
    rcases hsb : writeStreamBuf s i with ⟨s1, b⟩
    rw [hsb] at h2
    simp only [doWriteStream, if_pos h0, hsb]
    cases e.kern.socketRead rwbufSize with
    | failed r =>
      dsimp only
      split_ifs
      exacts [bufSys_handleRequestClose h2, bufSys_socketSignalsSet h2 _ _ _,
        bufSys_handleRequestClose h2, h2, h2.emit _]
    | read bytes _ =>
      exact bufSys_writeStreamPush _ _ ((h2.emit _).setIos (held_refill_wbuf (by simp) _ _ _ _))
  · simp only [doWriteStream, if_neg h0]
    exact bufSys_writeStreamPush _ _ h

theorem bufSys_doWriteDgram (signals : Signals) (h : BufSys s) :
    BufSys (doWriteDgram e s i signals).1 := by
  have h2 := bufSys_writeStreamBuf_setIos (i := i) h
  rcases hsb : writeStreamBuf s i with ⟨s1, b⟩
  rw [hsb] at h2
  simp only [doWriteDgram, hsb]
  cases e.kern.channelRead with
  | failed r =>
    dsimp only
    split_ifs
    exacts [bufSys_handleRequestClose h2, bufSys_socketSignalsSet h2 _ _ _,
      bufSys_handleRequestClose h2, h2]
  | short => exact bufSys_socketSignalsSet h2 _ _ _
  | read m =>
    dsimp only
    by_cases hp : m.payload ≠ []
    · rw [if_pos hp]
      exact bufSys_socketSignalsSet ((h2.emit _).setIos (by rfl)) _ _ _
    · rw [if_neg hp]
      exact bufSys_socketSignalsSet h2 _ _ _

theorem bufSys_doWrite (signals : Signals) (h : BufSys s) : BufSys (doWrite e s i signals).1 := by
  unfold doWrite
  split
  exacts [bufSys_doWriteStream signals h, bufSys_doWriteDgram signals h, h]

end Handlers

/-! ## Client handles and `OPEN` -/

section Open

variable {e : Env} {k : Kernel} {i : IosId} {s : Sys} {o : OpenOut}

theorem bufSys_handlePairCreate (h : BufSys s) (r : Status) : BufSys (handlePairCreate s r).1 := by
  unfold handlePairCreate
  split_ifs
  exacts [h, ((h.of_eq (t := { s with nextHandle := s.nextHandle + 2 }) rfl rfl rfl).emit _).emit _]

theorem bufSys_mxHandleClose (h : BufSys s) (hd : Handle) : BufSys (mxHandleClose s hd) := by
  unfold mxHandleClose
  split_ifs
  exacts [h, h.emit _]

theorem bufSys_createDataHandles (h : BufSys s) (ht : HandleType) :
    BufSys (createDataHandles k s ht).1 := by
  cases ht <;> dsimp only [createDataHandles]
  · exact h
  all_goals exact bufSys_handlePairCreate h _

/-- `create_handles` takes its reference for the data endpoint on a live state. -/
theorem bufSys_createHandles (h : BufSys s) (hi : 0 < (s.ios i).refcount) :
    BufSys (createHandles k s i o).1 := by
  have h1 := bufSys_handlePairCreate h (k.channelCreate s.nextHandle)
  dsimp only [createHandles]
  split
  · rename_i heq
    simpa [heq] using h1
  · rename_i s1 rio0 rio1 heq
    have hios1 : s1.ios = s.ios := by simpa [heq] using handlePairCreate_ios s (k.channelCreate s.nextHandle)
    rw [heq] at h1
    have h2 := bufSys_createDataHandles (k := k) h1 (s1.ios i).handleType
    split
    · rename_i heq2
      rw [heq2] at h2
      exact bufSys_mxHandleClose (bufSys_mxHandleClose h2 _) _
    · rename_i s2 r data0 data1 hcount heq2
      have hios2 : s2.ios = s1.ios := by simpa [heq2] using createDataHandles_ios k s1 (s1.ios i).handleType
      rw [heq2] at h2
      have h3 : BufSys (s2.setIos i { s2.ios i with dataH := data0 }) := h2.setIos (by rfl)
      by_cases hr : k.dispatcherAdd < 0
      · rw [if_pos hr]
        exact bufSys_mxHandleClose (bufSys_mxHandleClose (bufSys_mxHandleClose
          (bufSys_mxHandleClose (h3.setIos (by rfl)) _) _) _) _
      · rw [if_neg hr]
        split_ifs
        exacts [h3.iostateAcquire (by simpa [hios2, hios1] using hi), h3]

/-- The fresh state of a sub-handler, with one reference. -/
theorem iostateAlloc_refcount_pos (s : Sys) :
    0 < ((iostateAlloc s).1.ios (iostateAlloc s).2).refcount := by
  rw [iostateAlloc_new]; decide

theorem bufSys_doNone (h : BufSys s) : BufSys (doNone k s o).1 := by
  have hnew := BufSys.iostateAlloc h
  have hr := iostateAlloc_refcount_pos s
  dsimp only [doNone]
  generalize iostateAlloc s = p at hnew hr ⊢
  obtain ⟨s1, n⟩ := p
  dsimp only at hnew hr ⊢
  have h2 := bufSys_createHandles (k := k) (o := o) (i := n)
    (hnew.setIos (r := { s1.ios n with handleType := .none }) (by rfl)) (by simpa using hr)
  split_ifs
  exacts [BufSys.iostateRelease h2 _, h2]

theorem bufSys_doSocket (msg : Msg) (h : BufSys s) : BufSys (doSocket e s msg o).1 := by
  unfold doSocket
  split
  · exact h
  split
  · exact h
  split
  · exact h
  rename_i _ _ _ _ d t p _ _ ht _
  have hnew := BufSys.iostateAlloc h
  have hr := iostateAlloc_refcount_pos s
  generalize iostateAlloc s = p at hnew hr ⊢
  obtain ⟨s1, n⟩ := p
  dsimp only at hnew hr ⊢
  cases e.net.socket d t p with
  | error err =>
    simp only [NetResult.errno_error]
    rw [if_pos (by simp)]
    exact hnew.setIos (by rfl)
  | ok fd =>
    simp only [NetResult.errno_ok, ne_eq, not_true_eq_false, if_false]
    have h2 := (hnew.setIos (r := { s1.ios n with handleType := ht, sockfd := fd, lastErrno := 0 })
      (by rfl)).emit (.netSocket fd)
    generalize (e.net.ioctlFionbio fd).errno = errno_
    generalize hs3 : Sys.setIos (Sys.emit _ _) n _ = s3
    have h3 : BufSys s3 ∧ 0 < (s3.ios n).refcount := by
      subst hs3; exact ⟨h2.setIos (by rfl), by simpa using hr⟩
    have h4 := bufSys_createHandles (k := e.kern) (o := o) h3.1 h3.2
    split_ifs
    · exact BufSys.iostateRelease h4 _
    · exact bufSys_scheduleW (bufSys_socketSignalsSet (bufSys_fdEventSet h4 _ _) _ _ _)
    · exact bufSys_socketSignalsSet (bufSys_fdEventSet h4 _ _) _ _ _
    · exact BufSys.iostateRelease h3.1 _

theorem bufSys_doAccept (j : IosId) (h : BufSys s) : BufSys (doAccept e s j o).1 := by
  dsimp only [doAccept]
  split
  · exact h.setIos (by rfl)
  · rename_i fd hacc
    generalize hs2 : Sys.emit _ (.netSocket fd) = s2
    have h2 : BufSys s2 := by subst hs2; exact (h.setIos (by rfl)).emit _
    generalize hs3 : scheduleSigconnR _ j = s3
    have h3 : BufSys s3 := by
      subst hs3
      split_ifs
      exacts [bufSys_scheduleSigconnR (bufSys_mxObjectSignalPeer h2 _ _ _ _),
        bufSys_scheduleSigconnR h2]
    have hnew := BufSys.iostateAlloc h3
    have hr := iostateAlloc_refcount_pos s3
    generalize iostateAlloc s3 = p at hnew hr ⊢
    obtain ⟨s4, n⟩ := p
    dsimp only at hnew hr ⊢
    have h5 := hnew.setIos (r := { s4.ios n with handleType := (s.ios j).handleType, sockfd := fd })
      (by rfl)
    generalize (e.net.ioctlFionbio fd).errno = errno_
    generalize hs6 : Sys.setIos _ j _ = s6
    have h6 : BufSys s6 ∧ 0 < (s6.ios n).refcount := by
      subst hs6
      refine ⟨h5.setIos (by rfl), ?_⟩
      by_cases hjn : n = j
      · subst hjn; simpa using hr
      · simpa [hjn] using hr
    have h7 := bufSys_createHandles (k := e.kern) (o := o) h6.1 h6.2
    split_ifs
    · exact BufSys.iostateRelease h6.1 _
    · exact BufSys.iostateRelease h7 _
    · exact bufSys_scheduleRw (bufSys_socketSignalsSet (bufSys_fdEventSet h7 _ _) _ _ _)

theorem bufSys_doOpen (j : IosId) (msg : Msg) (h : BufSys s) : BufSys (doOpen e s j msg).1 := by
  dsimp only [doOpen]
  have hclose : ∀ t : Sys, BufSys t → ∀ c, BufSys (mxHandleClose (t.emit c) msg.handle0) :=
    fun t ht c => bufSys_mxHandleClose (ht.emit c) _
  apply hclose
  split_ifs
  exacts [h, bufSys_doNone h, bufSys_doSocket msg h, bufSys_doAccept j h, h]

end Open

/-! ## Requests, readiness and steps -/

section Steps

variable {e : Env} {s : Sys}

theorem bufSys_doFunc (rq : Request) (signals : Signals) (h : BufSys s) :
    BufSys (doFunc e rq signals s).1 := by
  unfold doFunc
  split
  exacts [bufSys_doOpen _ _ h, bufSys_doClose h, bufSys_doConnect _ h, bufSys_doBind _ h,
    bufSys_doListen _ h, bufSys_doWrite _ h, bufSys_doRead h, bufSys_doHalfclose h,
    bufSys_doSigconnR h, bufSys_doSigconnW h]

theorem bufSys_handleRequest (rq : Request) (signals : Signals) (h : BufSys s) :
    BufSys (handleRequest e rq signals s) := by
  have h1 := bufSys_doFunc (e := e) rq signals (h.emit (.handled rq.op rq.ios))
  dsimp only [handleRequest, sendStatus]
  split_ifs
  exacts [bufSys_waitQueuePut h1 _ _ _, bufSys_waitQueuePut h1 _ _ _, h1, h1, h1.emit _]

theorem bufSys_foldl_handleRequest (signals : Signals) : ∀ (q : List Request) (s : Sys),
    BufSys s → BufSys (q.foldl (fun s rq => handleRequest e rq signals s) s)
  | [], _, h => h
  | rq :: q, _, h => bufSys_foldl_handleRequest signals q _ (bufSys_handleRequest rq signals h)

theorem bufSys_netReady (fd : Int) (h : BufSys s) : BufSys (netReady e fd s) :=
  bufSys_foldl_handleRequest _ _ _ (bufSys_waitQueueSwap h .net fd)

theorem bufSys_watcherDispatch (j : IosId) (satisfied : Signals) (h : BufSys s) :
    BufSys (watcherDispatch e s j satisfied) := by
  have h1 := bufSys_socketSignalsClear h e.kern j satisfied
  dsimp only [watcherDispatch]
  split_ifs
  exacts [bufSys_handleRequestClose h1, bufSys_handleRequestHalfclose h1,
    bufSys_foldl_handleRequest _ _ _ (bufSys_waitQueueSwap h1 _ _), h1]

theorem bufSys_handleWatcherScheduleRequest : ∀ (results : List (IosAddr × Signals)) (s : Sys),
    BufSys s → BufSys (handleWatcherScheduleRequest e results s)
  | [], _, h => h
  | r :: results, _, h =>
    bufSys_handleWatcherScheduleRequest results _ (bufSys_watcherDispatch _ r.2 h)

/-- The step lemma: no assumption on the step is needed. -/
theorem bufSys_step (h : BufSys s) (a : Action) : BufSys (step s a) := by
  cases a with
  | rio j op msg e => exact bufSys_handleRequest _ _ h
  | netReady fd e => exact bufSys_netReady fd h
  | watcher results e => exact bufSys_handleWatcherScheduleRequest results s h
  | rioPeerClosed j => exact BufSys.iostateRelease h j

/-- The run lemma. -/
theorem bufSys_run : ∀ (acts : List Action) (s : Sys), BufSys s → BufSys (run s acts)
  | [], _, h => h
  | a :: acts, _, h => bufSys_run acts _ (bufSys_step h a)

end Steps

/-- Over every run of the server from its initial state, whatever the clients send and the
network stack and the kernel answer, the server read as a pool is sound: no two live states
share a buffer, no live state holds one buffer as both its `rbuf` and its `wbuf`, no buffer a
live state holds is on the free list, and `get_rwbuf` hands out a buffer that no live state
holds. -/
theorem run_keeps_rwbufs_apart (acts : List Action) :
    let s : Sys := run Sys.init acts
    s.pool.Ok ∧ (∀ i j, i ≠ j → ∀ a ∈ (s.ios i).held, a ∉ (s.ios j).held) ∧
      (∀ i, (s.ios i).held.Nodup) ∧ (∀ i, ∀ b ∈ s.rwbufHead, b.addr ∉ (s.ios i).held) ∧
      ∀ i, (getRwbuf s).2.addr ∉ (s.ios i).held := by
  have h := bufSys_run acts _ bufSys_init
  exact ⟨h.pool_ok, h.apart, h.held_nodup, h.held_not_free,
    fun i => by simpa using h.getRwbuf.2.2.1 i⟩

end Netstack
