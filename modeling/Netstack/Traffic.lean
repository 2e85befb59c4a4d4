import Netstack.WriteStream

/-!
# The traffic of the whole server

`Netstack.ReadStream` and `Netstack.WriteStream` describe the two pipelines of a stream
connection: `rbuf` between the socket and the client's data endpoint, `wbuf` the other way.
The server runs many handlers on many states in between, and answers RIO requests on the
side, so this module states what it has sent and received so far as one invariant of the
whole server, `Traffic`: the two pipelines of every state are exact, and the RIO
conversation stands where an automaton over the log (`RioState.next`) says.  It then proves
what every function a request, a readiness event or a watcher round runs does to it.  Most
of them move no bytes and answer nothing; each of those is a frame, and its lemma composes
the lemmas of the functions it calls.

The inbound pipeline is counted on the log without its half-close markers, which carry no
bytes: `do_write_stream` writes one when `mx_socket_read` on the endpoint fails, whether
or not inbound bytes still wait in `rbuf` (the example at the end of
`Netstack.TrafficRuns`), so across handlers only the byte half of P5 holds.
-/

namespace Netstack

/-! ## The calls that move stream bytes -/

/-- The state whose stream bytes a logged call moves, if any. -/
def Call.streamOf : Call → Option IosId
  | .netRead i _ | .socketWrite i _ | .socketRead i _ | .netWrite i _ => some i
  | _ => none

theorem Call.bytes_eq_nil {c : Call} {i : IosId} (hc : c.streamOf ≠ some i) :
    c.takenFrom i = [] ∧ c.sentFrom i = [] ∧ c.readFrom i = [] ∧ c.writtenTo i = [] := by
  cases c <;> simp only [Call.takenFrom, Call.sentFrom, Call.readFrom, Call.writtenTo, and_self,
    ite_eq_right_iff, true_and, and_true] <;>
    exact fun h => absurd (congrArg some h) hc

/-- The log without the half-close markers on `i`'s data endpoint. -/
def dropHalfCloses (log : List Call) (i : IosId) : List Call :=
  log.filter fun c => c != .socketHalfClose i

section DropHalfCloses

variable {log : List Call} {i : IosId}

theorem dropHalfCloses_concat_of_ne {c : Call} (hc : c ≠ .socketHalfClose i) :
    dropHalfCloses (log ++ [c]) i = dropHalfCloses log i ++ [c] := by
  simp [dropHalfCloses, hc]

theorem dropHalfCloses_concat_halfClose :
    dropHalfCloses (log ++ [.socketHalfClose i]) i = dropHalfCloses log i := by
  simp [dropHalfCloses]

@[simp] theorem delivered_dropHalfCloses : delivered (dropHalfCloses log i) i = delivered log i := by
  induction log with
  | nil => rfl
  | cons c log ih =>
    by_cases hc : c = .socketHalfClose i
    · simpa [dropHalfCloses, hc, delivered, Call.writtenTo] using ih
    · simpa [dropHalfCloses, hc, delivered] using ih

@[simp] theorem received_dropHalfCloses : received (dropHalfCloses log i) i = received log i := by
  induction log with
  | nil => rfl
  | cons c log ih =>
    by_cases hc : c = .socketHalfClose i
    · simpa [dropHalfCloses, hc, received, Call.readFrom] using ih
    · simpa [dropHalfCloses, hc, received] using ih

theorem halfClosedAfterAll_dropHalfCloses : HalfClosedAfterAll (dropHalfCloses log i) i := by
  intro k hk
  have hmem := List.mem_filter.mp (List.getElem?_mem hk)
  simp at hmem

variable {ios : IOState}

theorem ReadInv.emit_dropped (h : ReadInv ios (dropHalfCloses log i) i) {c : Call}
    (hr : c.readFrom i = []) (hw : c.writtenTo i = []) :
    ReadInv ios (dropHalfCloses (log ++ [c]) i) i := by
  by_cases hc : c = .socketHalfClose i
  · rwa [hc, dropHalfCloses_concat_halfClose]
  · rw [dropHalfCloses_concat_of_ne hc]
    exact h.emit_other hr hw hc

end DropHalfCloses

/-- The fields of the read pipeline. -/
def IOState.readSide (ios : IOState) : Option RwBuf × Nat × Nat × Nat × Nat :=
  (ios.rbuf, ios.rlen, ios.roff, ios.readNetRead, ios.readSocketWrite)

/-- The fields of both pipelines. -/
def IOState.pipes (ios : IOState) :=
  (ios.writeSide, ios.readSide)

theorem ReadInv.congr_side {ios : IOState} {log : List Call} {i : IosId}
    (h : ReadInv ios log i) (ios' : IOState) (hr : ios'.readSide = ios.readSide) :
    ReadInv ios' log i := by
  simp only [IOState.readSide, Prod.mk.injEq] at hr
  exact h.congr ios' hr.1 hr.2.1 hr.2.2.1 hr.2.2.2.1 hr.2.2.2.2

/-! ## The RIO conversation -/

/-- Where the RIO conversation stands: no request waits for its answer, a request with
this op does, or the order was broken (an answer no request asked for, an answer of the
wrong kind, or a request taken up while another still waited). -/
inductive RioState where
  | idle
  | awaiting (op : Op)
  | broken
  deriving DecidableEq, Repr

/-- Whether a logged call is RIO traffic: a request `handle_request` must answer, or an
answer. -/
def Call.rio : Call → Bool
  | .handled op _ => !op.internal
  | .openReply .. | .statusReply .. => true
  | _ => false

/-- One call of the log in the conversation: a request must be answered, `OPEN` by its
reply on its own channel and every other op by a `STATUS` for that op, before the next one
is taken up. -/
def RioState.next (ρ : RioState) (c : Call) : RioState :=
  if c.rio then
    match ρ, c with
    | .idle, .handled op _ => .awaiting op
    | .awaiting .mxrioOpen, .openReply _ _ _ => .idle
    | .awaiting op, .statusReply op' _ => if op' = op ∧ op ≠ .mxrioOpen then .idle else .broken
    | _, _ => .broken
  else ρ

/-- Where the conversation stands after a log. -/
def rioState (log : List Call) : RioState := log.foldl RioState.next .idle

@[simp] theorem rioState_concat (log : List Call) (c : Call) :
    rioState (log ++ [c]) = (rioState log).next c := by
  simp [rioState]

theorem RioState.next_quiet {ρ : RioState} {c : Call} (hc : c.rio = false) : ρ.next c = ρ := by
  unfold RioState.next
  rw [hc, if_neg Bool.false_ne_true]

theorem RioState.foldl_broken (log : List Call) : log.foldl RioState.next .broken = .broken := by
  induction log with
  | nil => rfl
  | cons c log ih =>
    have hc : RioState.broken.next c = .broken := by
      unfold RioState.next; split <;> rfl
    rwa [List.foldl_cons, hc]

/-- A broken conversation stays broken, so one that ends idle was never broken on the way. -/
theorem rioState_take_ne_broken {log : List Call} (h : rioState log = .idle) (k : Nat) :
    rioState (log.take k) ≠ .broken := by
  intro hk
  have hsplit : rioState log = (log.drop k).foldl RioState.next (rioState (log.take k)) := by
    conv_lhs => rw [← List.take_append_drop k log]
    exact List.foldl_append _ _ _ _
  rw [hk, RioState.foldl_broken, h] at hsplit
  exact RioState.noConfusion hsplit

example : rioState [.handled .mxrioConnect 1, .iostateAcquire 1, .statusReply .mxrioConnect 0] = .idle ∧
    rioState [.handled .mxrioConnect 1, .statusReply .mxrioBind 0] = .broken := by
  decide

/-- A call that is neither stream bytes nor RIO traffic. -/
def Call.quiet (c : Call) : Bool := c.streamOf.isNone && !c.rio

/-! ## Every state at once -/

/-- The traffic of the server is in order: every state's two pipelines are exact, only a
stream state holds bytes in them, no state beyond the allocated ones has a kind yet, and the
RIO conversation stands at `ρ`. -/
structure Traffic (s : Sys) (ρ : RioState) : Prop where
  outbound : ∀ i, WriteInv (s.ios i) s.log i
  inbound : ∀ i, ReadInv (s.ios i) (dropHalfCloses s.log i) i
  idle : ∀ i, (s.ios i).handleType ≠ .stream → (s.ios i).wlen = 0 ∧ (s.ios i).rlen = 0
  fresh : ∀ i, s.nextIos ≤ i → (s.ios i).handleType = .none
  rio : rioState s.log = ρ

theorem traffic_init : Traffic Sys.init .idle :=
  ⟨fun _ => ⟨le_rfl, Nat.zero_le _, fun h => absurd h (lt_irrefl 0), rfl, rfl⟩,
    fun i => readInv_init i, fun _ _ => ⟨rfl, rfl⟩, fun _ _ => rfl, rfl⟩

namespace Traffic

variable {s t : Sys} {ρ : RioState}

theorem of_frame (h : Traffic s ρ) (hios : t.ios = s.ios) (hlog : t.log = s.log)
    (hn : t.nextIos = s.nextIos) : Traffic t ρ :=
  ⟨fun i => by rw [hios, hlog]; exact h.outbound i, fun i => by rw [hios, hlog]; exact h.inbound i,
    fun i => by rw [hios]; exact h.idle i, fun i => by rw [hios, hn]; exact h.fresh i,
    by rw [hlog]; exact h.rio⟩

/-- A logged call that moves no stream bytes takes the conversation one call further. -/
theorem emit_next (h : Traffic s ρ) (c : Call)
    (hb : ∀ i, c.takenFrom i = [] ∧ c.sentFrom i = [] ∧ c.readFrom i = [] ∧ c.writtenTo i = []) :
    Traffic (s.emit c) (ρ.next c) :=
  ⟨fun i => (h.outbound i).emit_other (hb i).1 (hb i).2.1,
    fun i => (h.inbound i).emit_dropped (hb i).2.2.1 (hb i).2.2.2, h.idle, h.fresh,
    by simp [h.rio]⟩

theorem emit_silent (h : Traffic s ρ) (c : Call)
    (hb : ∀ i, c.takenFrom i = [] ∧ c.sentFrom i = [] ∧ c.readFrom i = [] ∧ c.writtenTo i = [])
    (hr : c.rio = false) : Traffic (s.emit c) ρ :=
  by simpa only [RioState.next_quiet hr] using h.emit_next c hb

theorem emit (h : Traffic s ρ) (c : Call) (hc : c.quiet = true) : Traffic (s.emit c) ρ := by
  simp only [Call.quiet, Bool.and_eq_true, Option.isNone_iff_eq_none, Bool.not_eq_true'] at hc
  exact h.emit_silent c (fun _ => Call.bytes_eq_nil (by simp [hc.1])) hc.2

/-- A RIO request taken up while none waits. -/
theorem emit_request (h : Traffic s .idle) (op : Op) (i : IosId) (hop : op.internal = false) :
    Traffic (s.emit (.handled op i)) (.awaiting op) := by
  have hn : RioState.idle.next (.handled op i) = .awaiting op := by
    unfold RioState.next
    rw [if_pos (by simp [Call.rio, hop])]
  exact hn ▸ h.emit_next (.handled op i) fun _ => ⟨rfl, rfl, rfl, rfl⟩

/-- The reply to the `OPEN` that waits. -/
theorem emit_openReply (h : Traffic s (.awaiting .mxrioOpen)) (ch : Handle) (r : Status)
    (hs : List Handle) : Traffic (s.emit (.openReply ch r hs)) .idle :=
  h.emit_next (.openReply ch r hs) fun _ => ⟨rfl, rfl, rfl, rfl⟩

/-- The `STATUS` answer to the request that waits, of any op but `OPEN`. -/
theorem emit_statusReply {op : Op} (h : Traffic s (.awaiting op)) (hop : op ≠ .mxrioOpen)
    (r : Status) : Traffic (s.emit (.statusReply op r)) .idle := by
  have hn : (RioState.awaiting op).next (.statusReply op r) = .idle := by
    unfold RioState.next
    rw [if_pos (show (Call.statusReply op r).rio = true from rfl)]
    cases op <;> first | rfl | exact absurd rfl hop
  exact hn ▸ h.emit_next (.statusReply op r) fun _ => ⟨rfl, rfl, rfl, rfl⟩

/-- Changing one record, which keeps its own pipelines, keeps the others. -/
theorem setIos (h : Traffic s ρ) (j : IosId) (r : IOState) (hw : WriteInv r s.log j)
    (hr : ReadInv r (dropHalfCloses s.log j) j)
    (hidle : r.handleType ≠ .stream → r.wlen = 0 ∧ r.rlen = 0)
    (hfresh : s.nextIos ≤ j → r.handleType = .none) : Traffic (s.setIos j r) ρ := by
  refine ⟨fun i => ?_, fun i => ?_, fun i => ?_, fun i hi => ?_, by simpa using h.rio⟩ <;>
    by_cases hij : i = j
  · subst hij; simpa using hw
  · simpa [hij] using h.outbound i
  · subst hij; simpa using hr
  · simpa [hij] using h.inbound i
  · subst hij; simpa using hidle
  · simpa [hij] using h.idle i
  · subst hij; simpa using hfresh hi
  · simpa [hij] using h.fresh i hi

/-- Changing a record without touching its pipelines or its kind. -/
theorem setIos_frame (h : Traffic s ρ) {j : IosId} {r : IOState}
    (hp : r.pipes = (s.ios j).pipes) (ht : r.handleType = (s.ios j).handleType) :
    Traffic (s.setIos j r) ρ := by
  simp only [IOState.pipes, Prod.mk.injEq] at hp
  have hwlen : r.wlen = (s.ios j).wlen := congrArg (fun x => x.2.1) hp.1
  have hrlen : r.rlen = (s.ios j).rlen := congrArg (fun x => x.2.1) hp.2
  exact h.setIos j r ((h.outbound j).congr r hp.1) ((h.inbound j).congr_side r hp.2)
    (fun hne => hwlen ▸ hrlen ▸ h.idle j (ht ▸ hne)) (fun hn => ht.trans (h.fresh j hn))

/-- Changing one record's outbound pipeline only. -/
theorem setIos_out (h : Traffic s ρ) {j : IosId} {r : IOState} (hw : WriteInv r s.log j)
    (hr : r.readSide = (s.ios j).readSide) (ht : r.handleType = (s.ios j).handleType)
    (hidle : r.handleType ≠ .stream → r.wlen = 0) : Traffic (s.setIos j r) ρ :=
  h.setIos j r hw ((h.inbound j).congr_side r hr)
    (fun hne => ⟨hidle hne, (congrArg (fun x => x.2.1) hr).trans (h.idle j (ht ▸ hne)).2⟩)
    (fun hn => ht.trans (h.fresh j hn))

/-- Changing one record's inbound pipeline only. -/
theorem setIos_in (h : Traffic s ρ) {j : IosId} {r : IOState}
    (hr : ReadInv r (dropHalfCloses s.log j) j) (hw : r.writeSide = (s.ios j).writeSide)
    (ht : r.handleType = (s.ios j).handleType) (hidle : r.handleType ≠ .stream → r.rlen = 0) :
    Traffic (s.setIos j r) ρ :=
  h.setIos j r ((h.outbound j).congr r hw) hr
    (fun hne => ⟨(congrArg (fun x => x.2.1) hw).trans (h.idle j (ht ▸ hne)).1, hidle hne⟩)
    (fun hn => ht.trans (h.fresh j hn))

/-- Changing a record whose pipelines are empty, to one of an allocated state's kind. -/
theorem setIos_kind (h : Traffic s ρ) {j : IosId} {r : IOState}
    (hp : r.pipes = (s.ios j).pipes) (h0 : (s.ios j).wlen = 0 ∧ (s.ios j).rlen = 0)
    (hj : j < s.nextIos) : Traffic (s.setIos j r) ρ := by
  simp only [IOState.pipes, Prod.mk.injEq] at hp
  exact h.setIos j r ((h.outbound j).congr r hp.1) ((h.inbound j).congr_side r hp.2)
    (fun _ => ⟨(congrArg (fun x => x.2.1) hp.1).trans h0.1, (congrArg (fun x => x.2.1) hp.2).trans h0.2⟩)
    (fun hn => absurd hj (Nat.not_lt.mpr hn))

/-- Changing one record and logging the call that moved bytes of its stream. -/
theorem setIos_emit (h : Traffic s ρ) (j : IosId) (r : IOState) (c : Call)
    (hc : c.streamOf = some j) (hw : WriteInv r (s.log ++ [c]) j)
    (hr : ReadInv r (dropHalfCloses s.log j ++ [c]) j)
    (hidle : r.handleType ≠ .stream → r.wlen = 0 ∧ r.rlen = 0)
    (hfresh : s.nextIos ≤ j → r.handleType = .none) : Traffic ((s.setIos j r).emit c) ρ := by
  have hne : c ≠ .socketHalfClose j := fun he => by simp [he, Call.streamOf] at hc
  have hb : ∀ i ≠ j, _ := fun i hij => Call.bytes_eq_nil (i := i) (by rw [hc]; simpa using Ne.symm hij)
  have hrio : c.rio = false := by cases c <;> first | rfl | cases hc
  refine ⟨fun i => ?_, fun i => ?_, fun i => ?_, fun i hi => ?_,
    by simp [h.rio, RioState.next_quiet hrio]⟩ <;> by_cases hij : i = j
  · subst hij; simpa using hw
  · simpa [hij] using (h.outbound i).emit_other (hb i hij).1 (hb i hij).2.1
  · subst hij; simpa [dropHalfCloses_concat_of_ne hne] using hr
  · simpa [hij] using (h.inbound i).emit_dropped (hb i hij).2.2.1 (hb i hij).2.2.2
  · subst hij; simpa using hidle
  · simpa [hij] using h.idle i
  · subst hij; simpa using hfresh hi
  · simpa [hij] using h.fresh i hi

/-- A state beyond the allocated ones has nothing pending, so each of its streams is whole. -/
theorem streams_whole (h : Traffic s ρ) {i : IosId} (hi : s.nextIos ≤ i) :
    sent s.log i = taken s.log i ∧ delivered s.log i = received s.log i := by
  obtain ⟨hw0, hr0⟩ := h.idle i (by rw [h.fresh i hi]; decide)
  constructor
  · simpa [writePending_eq_nil (show (s.ios i).wlen ≤ (s.ios i).woff by omega)]
      using (h.outbound i).stream
  · simpa [readPending_eq_nil (show (s.ios i).rlen ≤ (s.ios i).roff by omega)]
      using (h.inbound i).stream

end Traffic

/-! ## What each function does to the traffic -/

section Primitives

variable {s : Sys} {ρ : RioState}

theorem traffic_fdEventSet (h : Traffic s ρ) (fd : Int) (ev : Events) :
    Traffic (fdEventSet s fd ev) ρ := h.of_frame rfl rfl rfl

theorem traffic_fdEventClear (h : Traffic s ρ) (fd : Int) (ev : Events) :
    Traffic (fdEventClear s fd ev) ρ := h.of_frame rfl rfl rfl

theorem traffic_waitQueuePut (h : Traffic s ρ) (q : WaitQueue) (fd : Int) (rq : Request) :
    Traffic (waitQueuePut s q fd rq) ρ := by
  cases q <;> exact h.of_frame rfl rfl rfl

theorem traffic_waitQueueDiscard (h : Traffic s ρ) (q : WaitQueue) (fd : Int) :
    Traffic (waitQueueDiscard s q fd) ρ := by
  cases q <;> exact h.of_frame rfl rfl rfl

theorem traffic_waitQueueSwap (h : Traffic s ρ) (q : WaitQueue) (fd : Int) :
    Traffic (waitQueueSwap s q fd).1 ρ := by
  cases q <;> exact h.of_frame rfl rfl rfl

theorem traffic_getRwbuf (h : Traffic s ρ) : Traffic (getRwbuf s).1 ρ := by
  unfold getRwbuf; split <;> exact h.of_frame rfl rfl rfl

theorem traffic_putRwbuf (h : Traffic s ρ) (b : Option RwBuf) : Traffic (putRwbuf s b) ρ := by
  cases b <;> exact h.of_frame rfl rfl rfl

theorem traffic_socketSignalsChange (h : Traffic s ρ) (k : Kernel) (i : IosId)
    (oldSigs newSigs : Signals) : Traffic (socketSignalsChange k s i oldSigs newSigs) ρ := by
  obtain ⟨ws, w, he⟩ := socketSignalsChange_eq k s i oldSigs newSigs
  rw [he]
  exact (h.of_frame (t := { s with waitset := ws }) rfl rfl rfl).setIos_frame (by rfl) (by rfl)

theorem traffic_socketSignalsSet (h : Traffic s ρ) (k : Kernel) (i : IosId) (sigs : Signals) :
    Traffic (socketSignalsSet k s i sigs) ρ := by
  dsimp only [socketSignalsSet]
  split_ifs
  exacts [h, traffic_socketSignalsChange h _ _ _ _]

theorem traffic_socketSignalsClear (h : Traffic s ρ) (k : Kernel) (i : IosId) (sigs : Signals) :
    Traffic (socketSignalsClear k s i sigs) ρ := by
  dsimp only [socketSignalsClear]
  split_ifs
  exacts [h, traffic_socketSignalsChange h _ _ _ _]

theorem traffic_mxObjectSignalPeer (h : Traffic s ρ) (k : Kernel) (i : IosId)
    (clear set : Signals) : Traffic (mxObjectSignalPeer k s i clear set) ρ := by
  unfold mxObjectSignalPeer
  split_ifs
  exacts [h, h.of_frame rfl rfl rfl]

theorem traffic_iostateAcquire (h : Traffic s ρ) (i : IosId) : Traffic (iostateAcquire s i) ρ :=
  (h.setIos_frame (j := i) (r := { s.ios i with refcount := (s.ios i).refcount + 1 }) rfl rfl).emit
    (.iostateAcquire i) rfl

theorem traffic_iostateRelease (h : Traffic s ρ) (i : IosId) :
    Traffic (iostateRelease s i) ρ := by
  have h1 := (h.setIos_frame (j := i) (r := { s.ios i with refcount := (s.ios i).refcount - 1 })
    rfl rfl).emit (.iostateRelease i) rfl
  dsimp only [iostateRelease]
  split_ifs
  exacts [(traffic_putRwbuf (traffic_putRwbuf h1 _) _).of_frame rfl rfl rfl, h1]

theorem traffic_iostateAlloc (h : Traffic s ρ) : Traffic (iostateAlloc s).1 ρ := by
  obtain ⟨hsent, hdel⟩ := h.streams_whole le_rfl
  have hw : WriteInv { refcount := 1 } (s.log ++ [.iostateAlloc s.nextIos]) s.nextIos :=
    ⟨le_rfl, Nat.zero_le _, fun h => absurd h (lt_irrefl 0), rfl,
      by simpa [IOState.writePending, Call.sentFrom, Call.takenFrom] using hsent⟩
  have hr : ReadInv { refcount := 1 } (dropHalfCloses (s.log ++ [.iostateAlloc s.nextIos]) s.nextIos)
      s.nextIos :=
    ⟨le_rfl, Nat.zero_le _, fun h => absurd h (lt_irrefl 0), rfl,
      by simpa [IOState.readPending, Call.readFrom, Call.writtenTo] using hdel,
      halfClosedAfterAll_dropHalfCloses⟩
  refine ⟨fun i => ?_, fun i => ?_, fun i => ?_, fun i hi => ?_,
    by simp [iostateAlloc, h.rio, RioState.next_quiet (c := .iostateAlloc s.nextIos) rfl]⟩ <;>
    by_cases hij : i = s.nextIos
  · subst hij; simpa [iostateAlloc] using hw
  · simpa [iostateAlloc, hij] using (h.outbound i).emit_other (c := .iostateAlloc s.nextIos) rfl rfl
  · subst hij; simpa [iostateAlloc] using hr
  · simpa [iostateAlloc, hij] using (h.inbound i).emit_dropped (c := .iostateAlloc s.nextIos) rfl rfl
  · subst hij; simp [iostateAlloc]
  · simpa [iostateAlloc, hij] using h.idle i
  · subst hij; simp [iostateAlloc]
  · have hi' : s.nextIos + 1 ≤ i := hi
    simpa [iostateAlloc, hij] using h.fresh i (Nat.le_of_succ_le hi')

end Primitives

section Handlers

variable {e : Env} {k : Kernel} {i : IosId} {s : Sys} {ρ : RioState}

theorem traffic_scheduleSigconnR (h : Traffic s ρ) : Traffic (scheduleSigconnR s i) ρ :=
  traffic_waitQueuePut (traffic_fdEventSet h _ _) _ _ _

theorem traffic_scheduleSigconnW (h : Traffic s ρ) : Traffic (scheduleSigconnW s i) ρ :=
  traffic_waitQueuePut (traffic_fdEventSet h _ _) _ _ _

theorem traffic_scheduleR (h : Traffic s ρ) : Traffic (scheduleR s i) ρ :=
  traffic_waitQueuePut (traffic_fdEventSet h _ _) _ _ _

theorem traffic_scheduleW (h : Traffic s ρ) : Traffic (scheduleW k s i) ρ :=
  traffic_waitQueuePut (traffic_socketSignalsSet h _ _ _) _ _ _

theorem traffic_scheduleRw (h : Traffic s ρ) : Traffic (scheduleRw k s i) ρ := by
  have h1 : Traffic (if (s.ios i).handleType = .stream
      then mxObjectSignalPeer k s i mxSignalNone mxsioSignalConnected else s) ρ := by
    split_ifs
    exacts [traffic_mxObjectSignalPeer h _ _ _ _, h]
  exact traffic_scheduleW (traffic_scheduleR h1)

theorem traffic_doClose (h : Traffic s ρ) : Traffic (doClose s i).1 ρ := by
  dsimp only [doClose]
  refine traffic_iostateRelease ?_ i
  split_ifs
  · exact (traffic_waitQueueDiscard (traffic_waitQueueDiscard (traffic_fdEventClear
      (h.emit (.netClose i (s.ios i).sockfd) rfl) _ _) _ _) _ _).setIos_frame (by rfl) (by rfl)
  · exact h

theorem traffic_handleRequestClose (h : Traffic s ρ) : Traffic (handleRequestClose s i) ρ :=
  traffic_doClose (h.emit (.handled .mxrioClose i) rfl)

theorem traffic_doHalfclose (h : Traffic s ρ) : Traffic (doHalfclose k s i).1 ρ :=
  traffic_socketSignalsSet (h.emit (.netShutdown i (s.ios i).sockfd) rfl) _ _ _

theorem traffic_handleRequestHalfclose (h : Traffic s ρ) :
    Traffic (handleRequestHalfclose k s i) ρ :=
  traffic_doHalfclose (h.emit (.handled .ioHalfclose i) rfl)

theorem traffic_doConnect (msg : Msg) (h : Traffic s ρ) : Traffic (doConnect e s i msg).1 ρ := by
  dsimp only [doConnect]
  generalize (e.net.connect (s.ios i).sockfd (msg.data.take msg.datalen)).errno = errno_
  have h1 : Traffic (s.setIos i { s.ios i with lastErrno := errno_ }) ρ :=
    h.setIos_frame (by rfl) (by rfl)
  have h2 : Traffic (if errno_ = einprogress
      then scheduleSigconnW (s.setIos i { s.ios i with lastErrno := errno_ }) i
      else s.setIos i { s.ios i with lastErrno := errno_ }) ρ := by
    split_ifs
    exacts [traffic_scheduleSigconnW h1, h1]
  by_cases he : errno_ ≠ 0
  · rw [if_pos he]; exact h2
  · rw [if_neg he]
    by_cases ht : (s.ios i).handleType = .stream
    · rw [if_pos ht]; exact traffic_scheduleRw h2
    · rw [if_neg ht]; exact h2

theorem traffic_doSigconnW (h : Traffic s ρ) : Traffic (doSigconnW e s i).1 ρ := by
  dsimp only [doSigconnW]
  generalize hs1 : (if (s.ios i).handleType = .stream
    then mxObjectSignalPeer e.kern s i mxSignalNone mxsioSignalOutgoing else s) = s1
  have h1 : Traffic s1 ρ := by
    subst hs1
    split_ifs
    exacts [traffic_mxObjectSignalPeer h _ _ _ _, h]
  split
  · dsimp only
    split_ifs
    exacts [traffic_scheduleRw (h1.setIos_frame (by rfl) (by rfl)),
      h1.setIos_frame (by rfl) (by rfl)]
  · exact h1

theorem traffic_doBind (msg : Msg) (h : Traffic s ρ) : Traffic (doBind e s i msg).1 ρ := by
  unfold doBind
  dsimp only
  split_ifs
  exacts [h.setIos_frame (by rfl) (by rfl),
    traffic_scheduleR (h.setIos_frame (by rfl) (by rfl)), h.setIos_frame (by rfl) (by rfl)]

theorem traffic_doListen (msg : Msg) (h : Traffic s ρ) : Traffic (doListen e s i msg).1 ρ := by
  unfold doListen
  dsimp only
  split_ifs
  exacts [h, traffic_scheduleSigconnR h]

theorem traffic_doSigconnR (h : Traffic s ρ) : Traffic (doSigconnR k s i).1 ρ := by
  unfold doSigconnR
  dsimp only
  split_ifs
  exacts [traffic_mxObjectSignalPeer h _ _ _ _, h]

/-! ### The inbound pipeline -/

theorem traffic_readStreamDrained (h : Traffic s ρ) (hle : (s.ios i).rlen ≤ (s.ios i).roff) :
    Traffic (readStreamDrained s i).1 ρ :=
  traffic_fdEventSet (h.setIos_in ((h.inbound i).drained hle) (by rfl) rfl (fun _ => rfl)) _ _

/-- The loop of `do_read_stream`, given as many passes as bytes are pending. -/
theorem traffic_readStreamPush : ∀ fuel (s : Sys), Traffic s ρ →
    (s.ios i).rlen - (s.ios i).roff ≤ fuel → Traffic (readStreamPush k i fuel s).1 ρ
  | 0, _, h, hf => traffic_readStreamDrained h (by omega)
  | fuel + 1, s, h, hf => by
    simp only [readStreamPush]
    split_ifs with hlt
    · cases k.socketWrite (s.ios i).readPending with
      | failed r =>
        dsimp only
        split_ifs
        exacts [traffic_socketSignalsSet h _ _ _, h]
      | wrote n hpos hle =>
        refine traffic_readStreamPush fuel _ (h.setIos_emit i _ _ rfl
          (((h.outbound i).congr _ (by rfl)).emit_other rfl rfl) ((h.inbound i).wrote hle)
          (h.idle i) (h.fresh i)) ?_
        simp only [Sys.emit_ios, Sys.setIos_ios_self]
        omega
    · exact traffic_readStreamDrained h (by omega)

theorem traffic_readStreamConnectionClosed (h : Traffic s ρ) :
    Traffic (readStreamConnectionClosed k s i).1 ρ := by
  dsimp only [readStreamConnectionClosed]
  split_ifs
  exacts [h, h, h.emit (.socketHalfClose i) rfl]

theorem traffic_readStreamBuf (h : Traffic s ρ) : Traffic (readStreamBuf s i).1 ρ := by
  unfold readStreamBuf; split
  exacts [h, traffic_getRwbuf h]

/-- `do_read_stream` on a stream state. -/
theorem traffic_doReadStream (h : Traffic s ρ) (hty : (s.ios i).handleType = .stream) :
    Traffic (doReadStream e s i).1 ρ := by
  by_cases h0 : (s.ios i).rlen ≤ 0
  · rcases hsb : readStreamBuf s i with ⟨s1, b⟩
    have h1 : Traffic s1 ρ := by simpa [hsb] using traffic_readStreamBuf (i := i) h
    have hios : s1.ios = s.ios := by simpa [hsb] using readStreamBuf_ios s i
    simp only [doReadStream, if_pos h0, hsb]
    generalize e.net.read (s.ios i).sockfd rwbufSize = n
    have h2 : Traffic (s1.setIos i { s.ios i with rbuf := some b, lastErrno := n.errno }) ρ := by
      have hr := (h1.inbound i).rebuf (by rw [hios]; omega) (some b) n.errno
      rw [hios] at hr
      exact h1.setIos_in hr (by rw [hios]; rfl) (by rw [hios]) (fun hne => absurd hty hne)
    have h02 : ((s1.setIos i { s.ios i with rbuf := some b, lastErrno := n.errno }).ios i).rlen = 0 := by
      simpa using h0
    cases n with
    | error err =>
      dsimp only
      split_ifs
      exacts [traffic_fdEventSet h2 _ _, traffic_readStreamConnectionClosed h2]
    | ok r =>
      obtain ⟨bytes, hlen⟩ := r
      dsimp only
      split_ifs with hnil
      · have hnil : bytes = [] := List.eq_nil_of_length_eq_zero hnil
        subst hnil
        exact traffic_readStreamConnectionClosed
          (h2.emit_silent (.netRead i []) (fun _ => ⟨rfl, rfl, by simp [Call.readFrom], rfl⟩) rfl)
      · exact traffic_readStreamPush _ _ (h2.setIos_emit i _ _ rfl
          (((h2.outbound i).congr _ (by rfl)).emit_other rfl rfl)
          ((h2.inbound i).pulled h02 b bytes hlen)
          (fun hne => absurd (by simpa [hios] using hty) hne) (h2.fresh i))
          (by simp)
  · simp only [doReadStream, if_neg h0]
    exact traffic_readStreamPush _ _ h le_rfl

/-- `do_read_dgram` on a state that is not a stream, whose read pipeline is therefore empty. -/
theorem traffic_doReadDgram (h : Traffic s ρ) (hty : (s.ios i).handleType ≠ .stream) :
    Traffic (doReadDgram e s i).1 ρ := by
  unfold doReadDgram
  rcases hsb : readStreamBuf s i with ⟨s1, b⟩
  have h1 : Traffic s1 ρ := by simpa [hsb] using traffic_readStreamBuf (i := i) h
  have h0 : (s1.ios i).rlen = 0 := by
    rw [show s1.ios = s.ios by simpa [hsb] using readStreamBuf_ios s i]
    exact (h.idle i hty).2
  dsimp only
  generalize e.net.recvfrom (s1.ios i).sockfd rwbufSize = n
  have h2 : Traffic (s1.setIos i { s1.ios i with rbuf := some b, lastErrno := n.errno }) ρ :=
    h1.setIos_in ((h1.inbound i).rebuf h0 _ _) (by rfl) rfl (fun _ => h0)
  cases n with
  | error err =>
    dsimp only
    split_ifs
    exacts [traffic_fdEventSet h2 _ _, h2]
  | ok r =>
    obtain ⟨addr, payload, _⟩ := r
    dsimp only
    split_ifs
    · exact h2
    · have h3 := h2.emit (.channelWrite i ⟨addr, addr.length, payload⟩) rfl
      exact traffic_fdEventSet (h3.setIos_in ((h3.inbound i).drained (by simp [h0])) (by rfl) rfl
        (fun _ => rfl)) _ _

theorem traffic_doRead (h : Traffic s ρ) : Traffic (doRead e s i).1 ρ := by
  unfold doRead
  split
  · rename_i hty
    exact traffic_doReadStream h hty
  · rename_i hty
    exact traffic_doReadDgram h (by rw [hty]; decide)
  · exact h

/-! ### The outbound pipeline -/

theorem traffic_writeStreamDrained (h : Traffic s ρ) (hle : (s.ios i).wlen ≤ (s.ios i).woff) :
    Traffic (writeStreamDrained k s i).1 ρ :=
  traffic_socketSignalsSet (h.setIos_out ((h.outbound i).drained hle) (by rfl) rfl (fun _ => rfl))
    _ _ _

/-- The loop of `do_write_stream`, given as many passes as bytes are pending. -/
theorem traffic_writeStreamPush : ∀ fuel (s : Sys), Traffic s ρ →
    (s.ios i).wlen - (s.ios i).woff ≤ fuel → Traffic (writeStreamPush e i fuel s).1 ρ
  | 0, _, h, hf => traffic_writeStreamDrained h (by omega)
  | fuel + 1, s, h, hf => by
    simp only [writeStreamPush]
    split_ifs with hlt
    · cases e.net.write (s.ios i).sockfd (s.ios i).writePending with
      | error err =>
        dsimp only
        split_ifs
        exacts [traffic_fdEventSet (h.setIos_frame (by rfl) (by rfl)) _ _,
          h.setIos_frame (by rfl) (by rfl)]
      | ok r =>
        obtain ⟨n, hpos, hle⟩ := r
        refine traffic_writeStreamPush fuel _ (h.setIos_emit i _ _ rfl ((h.outbound i).wrote hle)
          (((h.inbound i).congr_side _ (by rfl)).emit_other rfl rfl nofun) (h.idle i) (h.fresh i)) ?_
        simp only [Sys.emit_ios, Sys.setIos_ios_self]
        omega
    · exact traffic_writeStreamDrained h (by omega)

theorem traffic_writeStreamBuf (h : Traffic s ρ) : Traffic (writeStreamBuf s i).1 ρ := by
  unfold writeStreamBuf; split
  exacts [h, traffic_getRwbuf h]

/-- Pointing `wbuf` at the buffer `writeStreamBuf` gives keeps the pipeline: that is the
buffer the state already has, or a fresh one when it has none and so nothing pending. -/
theorem traffic_writeStreamBuf_set (h : Traffic s ρ) :
    Traffic ((writeStreamBuf s i).1.setIos i
      { (writeStreamBuf s i).1.ios i with wbuf := some (writeStreamBuf s i).2 }) ρ := by
  rcases hb : (s.ios i).wbuf with _ | b
  · have h0 : (s.ios i).wlen = 0 := by
      by_contra hne
      obtain ⟨b, hb', _⟩ := (h.outbound i).wbuf_holds (Nat.pos_of_ne_zero hne)
      simp [hb] at hb'
    have h1 := traffic_getRwbuf h
    simp only [writeStreamBuf, hb]
    exact h1.setIos_out ((h1.outbound i).rebuf (by simpa using h0) _) (by rfl) rfl
      (fun _ => by simpa using h0)
  · simp only [writeStreamBuf, hb]
    exact h.setIos_frame (by simp [IOState.pipes, IOState.writeSide, IOState.readSide, hb]) rfl

/-- `do_write_stream` on a stream state. -/
theorem traffic_doWriteStream (signals : Signals) (h : Traffic s ρ)
    (hty : (s.ios i).handleType = .stream) : Traffic (doWriteStream e s i signals).1 ρ := by
  by_cases h0 : (s.ios i).wlen ≤ 0
  · rcases hsb : writeStreamBuf s i with ⟨s1, b⟩
    have h1 : Traffic s1 ρ := by simpa [hsb] using traffic_writeStreamBuf (i := i) h
    have hios : s1.ios = s.ios := by simpa [hsb] using writeStreamBuf_ios s i
    have h01 : (s1.ios i).wlen = 0 := by rw [hios]; omega
    have h2 : Traffic (s1.setIos i { s1.ios i with wbuf := some b }) ρ :=
      h1.setIos_out ((h1.outbound i).rebuf h01 _) (by rfl) rfl (fun _ => h01)
    simp only [doWriteStream, if_pos h0, hsb]
    cases e.kern.socketRead rwbufSize with
    | failed r =>
      dsimp only
      split_ifs
      exacts [traffic_handleRequestClose h2, traffic_socketSignalsSet h2 _ _ _,
        traffic_handleRequestClose h2, h2, h2.emit (.socketHalfClose i) rfl]
    | read bytes hb =>
      refine traffic_writeStreamPush bytes.length _ (h2.setIos_emit i _ _ rfl
        ((h2.outbound i).pulled (by simp [hios]; omega) b bytes hb)
        (((h2.inbound i).congr_side _ (by rfl)).emit_other rfl rfl nofun) ?_ (h2.fresh i)) (by simp)
      intro hne
      exact absurd (by simpa [hios] using hty) hne
  · simp only [doWriteStream, if_neg h0]
    exact traffic_writeStreamPush _ _ h le_rfl

theorem traffic_doWriteDgram (signals : Signals) (h : Traffic s ρ) :
    Traffic (doWriteDgram e s i signals).1 ρ := by
  have h2 := traffic_writeStreamBuf_set (i := i) h
  rcases hsb : writeStreamBuf s i with ⟨s1, b⟩
  simp only [hsb] at h2
  simp only [doWriteDgram, hsb]
  cases e.kern.channelRead with
  | failed r =>
    dsimp only
    split_ifs
    exacts [traffic_handleRequestClose h2, traffic_socketSignalsSet h2 _ _ _,
      traffic_handleRequestClose h2, h2]
  | short => exact traffic_socketSignalsSet h2 _ _ _
  | read m =>
    dsimp only
    by_cases hp : m.payload ≠ []
    · rw [if_pos hp]
      exact traffic_socketSignalsSet ((h2.emit (.netSendto i m.payload
        (if m.addrlen = 0 then none else some m.addr) m.addrlen) rfl).setIos_frame
        (by rfl) (by rfl)) _ _ _
    · rw [if_neg hp]
      exact traffic_socketSignalsSet h2 _ _ _

theorem traffic_doWrite (signals : Signals) (h : Traffic s ρ) :
    Traffic (doWrite e s i signals).1 ρ := by
  unfold doWrite
  split
  · rename_i hty
    exact traffic_doWriteStream signals h hty
  · exact traffic_doWriteDgram signals h
  · exact h

end Handlers

end Netstack
