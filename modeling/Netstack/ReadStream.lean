import Netstack.WaitSet

/-!
# The inbound stream pipeline

`do_read_stream` pulls bytes from the socket into `rbuf` and pushes them into the client's
data endpoint, suspending on whichever side is not ready.  Between invocations the bytes
read but not yet written are `rbuf->data[roff, rlen)`.  This module proves that, whatever
the socket and the endpoint answer, every invocation keeps that pipeline exact: the bytes
written to the endpoint are the bytes read from the socket, in order, with nothing lost or
repeated, and the half-close marker is only written once all of them have gone out (P5 of
the design).
-/

namespace Netstack

/-! ## The two byte streams of a state, read off the log -/

/-- The bytes a logged call read from `i`'s socket. -/
def Call.readFrom (i : IosId) : Call → List Byte
  | .netRead j bytes => if j = i then bytes else []
  | _ => []

/-- The bytes a logged call wrote into `i`'s data endpoint. -/
def Call.writtenTo (i : IosId) : Call → List Byte
  | .socketWrite j bytes => if j = i then bytes else []
  | _ => []

def received (log : List Call) (i : IosId) : List Byte := log.flatMap (Call.readFrom i)

def delivered (log : List Call) (i : IosId) : List Byte := log.flatMap (Call.writtenTo i)

@[simp] theorem received_append (log log' : List Call) (i : IosId) :
    received (log ++ log') i = received log i ++ received log' i := List.flatMap_append _ _ _

@[simp] theorem delivered_append (log log' : List Call) (i : IosId) :
    delivered (log ++ log') i = delivered log i ++ delivered log' i := List.flatMap_append _ _ _

@[simp] theorem received_singleton (c : Call) (i : IosId) :
    received [c] i = c.readFrom i := by simp [received]

@[simp] theorem delivered_singleton (c : Call) (i : IosId) :
    delivered [c] i = c.writtenTo i := by simp [delivered]

/-- Every half-close marker on `i`'s endpoint was written when every byte read from the
socket had already been written to the endpoint. -/
def HalfClosedAfterAll (log : List Call) (i : IosId) : Prop :=
  ∀ k, log[k]? = some (.socketHalfClose i) → delivered (log.take k) i = received (log.take k) i

theorem HalfClosedAfterAll.append {log : List Call} {i : IosId} (h : HalfClosedAfterAll log i)
    {c : Call} (hc : c = .socketHalfClose i → delivered log i = received log i) :
    HalfClosedAfterAll (log ++ [c]) i := by
  intro k hk
  rcases Nat.lt_or_ge k log.length with hlt | hge
  · rw [List.getElem?_append_left hlt] at hk
    rw [List.take_append_of_le_length hlt.le]
    exact h k hk
  · have hkl : k = log.length := by
      have := (List.getElem?_eq_some_iff.mp hk).1
      simp at this; omega
    subst hkl
    rw [List.getElem?_concat_length] at hk
    rw [List.take_left' rfl]
    exact hc (Option.some.inj hk)

/-! ## The pipeline -/

/-- `rbuf->data[roff, rlen)`: read from the socket, not yet written to the endpoint. -/
def IOState.readPending (ios : IOState) : List Byte :=
  match ios.rbuf with
  | some b => (b.data.drop ios.roff).take (ios.rlen - ios.roff)
  | none => []

/-- The read pipeline of `i` is exact: its buffer holds precisely the bytes read and not
yet written, and the statistics counters agree with it. -/
structure ReadInv (ios : IOState) (log : List Call) (i : IosId) : Prop where
  roff_le : ios.roff ≤ ios.rlen
  rlen_le : ios.rlen ≤ rwbufSize
  rbuf_holds : 0 < ios.rlen → ∃ b, ios.rbuf = some b ∧ ios.rlen ≤ b.data.length
  counters : ios.readNetRead + ios.roff = ios.readSocketWrite + ios.rlen
  stream : delivered log i ++ ios.readPending = received log i
  halfClose : HalfClosedAfterAll log i

/-- The end of `do_read_stream` once the buffer is drained: reset it and wait for the
socket to become readable again. -/
def readStreamDrained (s : Sys) (i : IosId) : Sys × Status :=
  let ios := s.ios i
  (fdEventSet (s.setIos i { ios with rlen := 0, roff := 0 }) ios.sockfd eventRead, pendingNet)

/-- The `while (ios->roff < ios->rlen)` loop of `do_read_stream`.  Each pass writes at
least one byte, so `rlen - roff` passes always suffice; `fuel` counts them. -/
def readStreamPush (k : Kernel) (i : IosId) : Nat → Sys → Sys × Status
  | 0, s => readStreamDrained s i
  | fuel + 1, s =>
    let ios := s.ios i
    if ios.roff < ios.rlen then
      match k.socketWrite ios.readPending with
      | .failed r =>
        if r = errShouldWait then (socketSignalsSet k s i mxSocketWritable, pendingSocket)
        else (s, r)
      | .wrote nwritten _ _ =>
        readStreamPush k i fuel
          ((s.setIos i { ios with
              roff := ios.roff + nwritten, readSocketWrite := ios.readSocketWrite + nwritten }).emit
            (.socketWrite i (ios.readPending.take nwritten)))
    else readStreamDrained s i

/-- The `connection_closed` path: write the half-close marker on the data endpoint; an
endpoint whose peer is already gone is not an error. -/
def readStreamConnectionClosed (k : Kernel) (s : Sys) (i : IosId) : Sys × Status :=
  let r := k.socketWriteHalfClose
  if r < 0 then (s, if r ≠ errPeerClosed then r else noError)
  else (s.emit (.socketHalfClose i), noError)

/-- `if (ios->rbuf == NULL) ios->rbuf = get_rwbuf();` -/
def readStreamBuf (s : Sys) (i : IosId) : Sys × RwBuf :=
  match (s.ios i).rbuf with
  | some b => (s, b)
  | none => getRwbuf s

@[simp] theorem readStreamBuf_ios (s : Sys) (i : IosId) : (readStreamBuf s i).1.ios = s.ios := by
  unfold readStreamBuf; split <;> simp

@[simp] theorem readStreamBuf_log (s : Sys) (i : IosId) : (readStreamBuf s i).1.log = s.log := by
  unfold readStreamBuf; split <;> simp

def doReadStream (e : Env) (s : Sys) (i : IosId) : Sys × Status :=
  let ios := s.ios i
  if ios.rlen ≤ 0 then
    let (s, b) := readStreamBuf s i
    let n := e.net.read ios.sockfd rwbufSize
    let s := s.setIos i { ios with rbuf := some b, lastErrno := n.errno }
    match n with
    | .ok ⟨bytes, _⟩ =>
      let s := s.emit (.netRead i bytes)
      if bytes.length = 0 then readStreamConnectionClosed e.kern s i
      else
        let ios := s.ios i
        readStreamPush e.kern i bytes.length
          (s.setIos i { ios with
            rbuf := some ⟨b.addr, bytes ++ b.data.drop bytes.length⟩, rlen := bytes.length,
            roff := 0, readNetRead := ios.readNetRead + bytes.length })
    | .error _ =>
      if n.errno = ewouldblock then (fdEventSet s ios.sockfd eventRead, pendingNet)
      else readStreamConnectionClosed e.kern s i
  else readStreamPush e.kern i (ios.rlen - ios.roff) s

/-! ## One piece of the pipeline at a time -/

section Pieces

variable {ios : IOState} {log : List Call} {i : IosId}

/-- Writing `n` of the pending bytes moves the start of the pending run by `n`. -/
theorem readPending_advance (ios : IOState) (n : Nat) :
    ({ ios with roff := ios.roff + n, readSocketWrite := ios.readSocketWrite + n } :
      IOState).readPending = ios.readPending.drop n := by
  unfold IOState.readPending
  cases ios.rbuf <;> simp [List.drop_take, Nat.sub_sub, Nat.add_comm]

theorem readPending_eq_nil (h : ios.rlen ≤ ios.roff) : ios.readPending = [] := by
  unfold IOState.readPending; split <;> simp [Nat.sub_eq_zero_of_le h]

theorem ReadInv.readPending_length (h : ReadInv ios log i) :
    ios.readPending.length = ios.rlen - ios.roff := by
  rcases Nat.eq_zero_or_pos ios.rlen with h0 | hpos
  · simp [readPending_eq_nil (show ios.rlen ≤ ios.roff by omega), h0]
  · obtain ⟨b, hb, hlen⟩ := h.rbuf_holds hpos
    simp only [IOState.readPending, hb, List.length_take, List.length_drop]
    omega

/-- Fields outside the read pipeline do not matter to it. -/
theorem ReadInv.congr (h : ReadInv ios log i) (ios' : IOState) (hrbuf : ios'.rbuf = ios.rbuf)
    (hrlen : ios'.rlen = ios.rlen) (hroff : ios'.roff = ios.roff)
    (hnet : ios'.readNetRead = ios.readNetRead)
    (hsock : ios'.readSocketWrite = ios.readSocketWrite) : ReadInv ios' log i := by
  have hp : ios'.readPending = ios.readPending := by
    simp only [IOState.readPending, hrbuf, hrlen, hroff]
  exact ⟨hroff ▸ hrlen ▸ h.roff_le, hrlen ▸ h.rlen_le, by rw [hrlen, hrbuf]; exact h.rbuf_holds,
    by rw [hnet, hroff, hsock, hrlen]; exact h.counters, hp ▸ h.stream, h.halfClose⟩

theorem ReadInv.emit_other (h : ReadInv ios log i) {c : Call} (hr : c.readFrom i = [])
    (hw : c.writtenTo i = []) (hc : c ≠ .socketHalfClose i) : ReadInv ios (log ++ [c]) i :=
  ⟨h.roff_le, h.rlen_le, h.rbuf_holds, h.counters, by simp [hr, hw, h.stream],
    h.halfClose.append (fun he => absurd he hc)⟩

theorem ReadInv.drained (h : ReadInv ios log i) (hle : ios.rlen ≤ ios.roff) :
    ReadInv { ios with rlen := 0, roff := 0 } log i := by
  have heq : ios.roff = ios.rlen := le_antisymm h.roff_le hle
  refine ⟨le_rfl, Nat.zero_le _, by simp, by simpa [heq] using h.counters, ?_, h.halfClose⟩
  rw [readPending_eq_nil (le_refl 0), ← h.stream, readPending_eq_nil hle]

theorem ReadInv.wrote (h : ReadInv ios log i) {n : Nat} (hn : n ≤ ios.readPending.length) :
    ReadInv { ios with roff := ios.roff + n, readSocketWrite := ios.readSocketWrite + n }
      (log ++ [.socketWrite i (ios.readPending.take n)]) i := by
  have hlen := h.readPending_length
  have := h.roff_le
  refine ⟨by simp; omega, h.rlen_le, h.rbuf_holds, by simp; have := h.counters; omega, ?_,
    h.halfClose.append (by simp)⟩
  rw [readPending_advance]
  simp [Call.writtenTo, Call.readFrom, ← h.stream]

theorem ReadInv.halfClosed (h : ReadInv ios log i) (h0 : ios.rlen = 0) :
    ReadInv ios (log ++ [.socketHalfClose i]) i :=
  ⟨h.roff_le, h.rlen_le, h.rbuf_holds, h.counters,
    by simpa [Call.writtenTo, Call.readFrom] using h.stream,
    h.halfClose.append fun _ => by simpa [readPending_eq_nil (show ios.rlen ≤ ios.roff by omega)] using h.stream⟩

/-- `net_read` returned `bytes` into an empty buffer whose start they overwrite. -/
theorem ReadInv.pulled (h : ReadInv ios log i) (h0 : ios.rlen = 0) (b : RwBuf)
    (bytes : List Byte) (hb : bytes.length ≤ rwbufSize) :
    ReadInv { ios with
      rbuf := some ⟨b.addr, bytes ++ b.data.drop bytes.length⟩, rlen := bytes.length,
      roff := 0, readNetRead := ios.readNetRead + bytes.length } (log ++ [.netRead i bytes]) i := by
  have hr0 : ios.roff = 0 := by have := h.roff_le; omega
  refine ⟨Nat.zero_le _, hb, fun _ => ⟨_, rfl, by simp⟩, by simp; have := h.counters; omega, ?_,
    h.halfClose.append (by simp)⟩
  have hs := h.stream
  rw [readPending_eq_nil (by omega)] at hs
  simp [IOState.readPending, Call.writtenTo, Call.readFrom, hs]

/-- With nothing pending, the buffer pointer and the errno do not matter. -/
theorem ReadInv.rebuf (h : ReadInv ios log i) (h0 : ios.rlen = 0) (r : Option RwBuf)
    (errno_ : Nat) : ReadInv { ios with rbuf := r, lastErrno := errno_ } log i := by
  have hr0 : ios.roff = 0 := by have := h.roff_le; omega
  refine ⟨h.roff_le, h.rlen_le, fun hp => absurd h0 (by simpa using hp.ne'), h.counters, ?_,
    h.halfClose⟩
  rw [readPending_eq_nil (by simp [h0, hr0]), ← h.stream, readPending_eq_nil (by omega)]

end Pieces

/-! ## Whole invocations -/

section Invocations

variable (k : Kernel) (i : IosId)

theorem readStreamDrained_inv {s : Sys} (h : ReadInv (s.ios i) s.log i)
    (hle : (s.ios i).rlen ≤ (s.ios i).roff) :
    ReadInv ((readStreamDrained s i).1.ios i) (readStreamDrained s i).1.log i := by
  simpa [readStreamDrained] using h.drained hle

theorem readStreamPush_inv : ∀ (fuel : Nat) (s : Sys), ReadInv (s.ios i) s.log i →
    (s.ios i).rlen - (s.ios i).roff ≤ fuel →
    ReadInv ((readStreamPush k i fuel s).1.ios i) (readStreamPush k i fuel s).1.log i
  | 0, s, h, hf => readStreamDrained_inv i h (by omega)
  | fuel + 1, s, h, hf => by
    simp only [readStreamPush]
    split_ifs with hlt
    · cases hw : k.socketWrite (s.ios i).readPending with
      | failed r =>
        dsimp only
        split_ifs
        · obtain ⟨w, hw⟩ := socketSignalsSet_ios_self k s i mxSocketWritable
          simpa [hw] using h.congr { s.ios i with watchingSignals := w } rfl rfl rfl rfl rfl
        · exact h
      | wrote nwritten hpos hle =>
        apply readStreamPush_inv fuel
        · simpa using h.wrote hle
        · simp; omega
    · exact readStreamDrained_inv i h (by omega)

theorem readStreamConnectionClosed_inv {s : Sys} (h : ReadInv (s.ios i) s.log i)
    (h0 : (s.ios i).rlen = 0) :
    ReadInv ((readStreamConnectionClosed k s i).1.ios i)
      (readStreamConnectionClosed k s i).1.log i := by
  dsimp only [readStreamConnectionClosed]
  by_cases hr : k.socketWriteHalfClose < 0
  · simpa [hr] using h
  · simpa [hr] using h.halfClosed h0

/-- One invocation of `do_read_stream`, whatever the socket and the endpoint answer, keeps
the read pipeline exact. -/
theorem doReadStream_inv (e : Env) (s : Sys) (h : ReadInv (s.ios i) s.log i) :
    ReadInv ((doReadStream e s i).1.ios i) (doReadStream e s i).1.log i := by
  rcases Nat.eq_zero_or_pos (s.ios i).rlen with h0 | hpos
  case inr =>
    simpa [doReadStream, Nat.not_le.mpr hpos] using readStreamPush_inv e.kern i _ s h le_rfl
  rcases hsb : readStreamBuf s i with ⟨s1, b⟩
  have hlog : s1.log = s.log := by simpa [hsb] using readStreamBuf_log s i
  simp only [doReadStream, if_pos h0.le, hsb]
  generalize e.net.read (s.ios i).sockfd rwbufSize = n
  have hb1 : ReadInv ((s1.setIos i { s.ios i with rbuf := some b, lastErrno := n.errno }).ios i)
      (s1.setIos i { s.ios i with rbuf := some b, lastErrno := n.errno }).log i := by
    simpa [hlog] using h.rebuf h0 (some b) n.errno
  have h01 : ((s1.setIos i { s.ios i with rbuf := some b, lastErrno := n.errno }).ios i).rlen = 0 := by
    simpa using h0
  cases n with
  | error err =>
    simp only [NetResult.errno_error]
    split_ifs
    · simpa using hb1
    · exact readStreamConnectionClosed_inv e.kern i hb1 h01
  | ok r =>
    obtain ⟨bytes, hlen⟩ := r
    simp only
    split_ifs with hnil
    · have hnil : bytes = [] := List.eq_nil_of_length_eq_zero hnil
      subst hnil
      exact readStreamConnectionClosed_inv e.kern i
        (hb1.emit_other (by simp [Call.readFrom]) (by simp [Call.writtenTo]) (by simp)) h01
    · exact readStreamPush_inv e.kern i bytes.length _
        (by simpa using hb1.pulled h01 b bytes hlen) (by simp)

end Invocations

/-- `do_read_stream` invoked on state `i` once for each of `envs`, in order. -/
def runReadStream (i : IosId) : List Env → Sys → Sys
  | [], s => s
  | e :: envs, s => runReadStream i envs (doReadStream e s i).1

theorem runReadStream_inv (i : IosId) :
    ∀ (envs : List Env) (s : Sys), ReadInv (s.ios i) s.log i →
      ReadInv ((runReadStream i envs s).ios i) (runReadStream i envs s).log i
  | [], _, h => h
  | e :: envs, s, h => runReadStream_inv i envs _ (doReadStream_inv i e s h)

theorem readInv_init (i : IosId) : ReadInv (Sys.init.ios i) Sys.init.log i :=
  ⟨le_rfl, Nat.zero_le _, fun h => absurd h (lt_irrefl 0), rfl, rfl,
    fun _ h => by simp [Sys.init] at h⟩

/-- P5: over any sequence of invocations of `do_read_stream` on a state whose pipeline is
exact, and whatever `net_read` and `mx_socket_write` answer, the pipeline stays exact: the
bytes written to the data endpoint, followed by `rbuf->data[roff, rlen)`, are the bytes
read from the socket, so the former are a prefix of the latter; and every half-close marker
is written after all bytes read have been written. -/
theorem doReadStream_delivers_in_order (envs : List Env) (s : Sys) (i : IosId)
    (h : ReadInv (s.ios i) s.log i) :
    ReadInv ((runReadStream i envs s).ios i) (runReadStream i envs s).log i ∧
      delivered (runReadStream i envs s).log i <+: received (runReadStream i envs s).log i := by
  have hr := runReadStream_inv i envs s h
  exact ⟨hr, ⟨_, hr.stream⟩⟩

/-- The network delivers three bytes, the endpoint takes two and then fills up; on the
next invocation it takes the last one. -/
def readStreamScript : List Env :=
  [⟨{ Backend.wouldBlock with read := fun _ len => .ok ⟨[1, 2, 3].take len, List.length_take_le _ _⟩ },
      { Kernel.ok with
        socketWrite := fun bytes => if h : 2 < bytes.length then .wrote 2 (by decide) h.le
          else .failed errShouldWait }⟩,
    ⟨Backend.wouldBlock, Kernel.ok⟩]

theorem doReadStream_delivers_in_order_script :
    ReadInv (Sys.init.ios 1) Sys.init.log 1 ∧
    ReadInv ((runReadStream 1 readStreamScript Sys.init).ios 1)
        (runReadStream 1 readStreamScript Sys.init).log 1 ∧
      delivered (runReadStream 1 readStreamScript Sys.init).log 1 <+:
        received (runReadStream 1 readStreamScript Sys.init).log 1 :=
  ⟨readInv_init 1, doReadStream_delivers_in_order readStreamScript Sys.init 1 (readInv_init 1)⟩

end Netstack
