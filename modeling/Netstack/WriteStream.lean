import Netstack.Handlers

/-!
# The outbound stream pipeline

`do_write_stream` pulls bytes from the client's data endpoint into `wbuf` and pushes them
into the socket, suspending on whichever side is not ready.  Between invocations the bytes
taken from the endpoint but not yet accepted by `net_write` are `wbuf->data[woff, wlen)`.
The invariant `WriteInv` says that pipeline is exact: the bytes `net_write` accepted are the
bytes `mx_socket_read` took, in order, with nothing lost or repeated, and the statistics
counters agree with the buffer.  This module proves what each piece of the handler does to
it; `Netstack.Traffic` assembles the pieces into whole invocations, for every state at once.
-/

namespace Netstack

@[simp] theorem taken_append (log log' : List Call) (i : IosId) :
    taken (log ++ log') i = taken log i ++ taken log' i := List.flatMap_append _ _ _

@[simp] theorem sent_append (log log' : List Call) (i : IosId) :
    sent (log ++ log') i = sent log i ++ sent log' i := List.flatMap_append _ _ _

@[simp] theorem taken_singleton (c : Call) (i : IosId) : taken [c] i = c.takenFrom i := by
  simp [taken]

@[simp] theorem sent_singleton (c : Call) (i : IosId) : sent [c] i = c.sentFrom i := by
  simp [sent]

/-- The write pipeline of `i` is exact: its buffer holds precisely the bytes taken from the
endpoint and not yet written to the socket, and the statistics counters agree with it. -/
structure WriteInv (ios : IOState) (log : List Call) (i : IosId) : Prop where
  woff_le : ios.woff ≤ ios.wlen
  wlen_le : ios.wlen ≤ rwbufSize
  wbuf_holds : 0 < ios.wlen → ∃ b, ios.wbuf = some b ∧ ios.wlen ≤ b.data.length
  counters : ios.writeSocketRead + ios.woff = ios.writeNetWrite + ios.wlen
  stream : sent log i ++ ios.writePending = taken log i

/-- The fields of the write pipeline. -/
def IOState.writeSide (ios : IOState) : Option RwBuf × Nat × Nat × Nat × Nat :=
  (ios.wbuf, ios.wlen, ios.woff, ios.writeSocketRead, ios.writeNetWrite)

/-! ## One piece of the pipeline at a time -/

section Pieces

variable {ios : IOState} {log : List Call} {i : IosId}

/-- Writing `n` of the pending bytes moves the start of the pending run by `n`. -/
theorem writePending_advance (ios : IOState) (n : Nat) :
    ({ ios with lastErrno := 0, woff := ios.woff + n, writeNetWrite := ios.writeNetWrite + n } :
      IOState).writePending = ios.writePending.drop n := by
  unfold IOState.writePending
  cases ios.wbuf <;> simp [List.drop_take, Nat.sub_sub, Nat.add_comm]

theorem writePending_eq_nil (h : ios.wlen ≤ ios.woff) : ios.writePending = [] := by
  unfold IOState.writePending; split <;> simp [Nat.sub_eq_zero_of_le h]

theorem WriteInv.writePending_length (h : WriteInv ios log i) :
    ios.writePending.length = ios.wlen - ios.woff := by
  rcases Nat.eq_zero_or_pos ios.wlen with h0 | hpos
  · simp [writePending_eq_nil (show ios.wlen ≤ ios.woff by omega), h0]
  · obtain ⟨b, hb, hlen⟩ := h.wbuf_holds hpos
    simp only [IOState.writePending, hb, List.length_take, List.length_drop]
    omega

/-- Fields outside the write pipeline do not matter to it. -/
theorem WriteInv.congr (h : WriteInv ios log i) (ios' : IOState)
    (hw : ios'.writeSide = ios.writeSide) : WriteInv ios' log i := by
  simp only [IOState.writeSide, Prod.mk.injEq] at hw
  obtain ⟨hwbuf, hwlen, hwoff, hsock, hnet⟩ := hw
  have hp : ios'.writePending = ios.writePending := by
    simp only [IOState.writePending, hwbuf, hwlen, hwoff]
  exact ⟨hwoff ▸ hwlen ▸ h.woff_le, hwlen ▸ h.wlen_le, by rw [hwlen, hwbuf]; exact h.wbuf_holds,
    by rw [hsock, hwoff, hnet, hwlen]; exact h.counters, hp ▸ h.stream⟩

theorem WriteInv.emit_other (h : WriteInv ios log i) {c : Call} (ht : c.takenFrom i = [])
    (hs : c.sentFrom i = []) : WriteInv ios (log ++ [c]) i :=
  ⟨h.woff_le, h.wlen_le, h.wbuf_holds, h.counters, by simp [ht, hs, h.stream]⟩

theorem WriteInv.drained (h : WriteInv ios log i) (hle : ios.wlen ≤ ios.woff) :
    WriteInv { ios with wlen := 0, woff := 0 } log i := by
  have heq : ios.woff = ios.wlen := le_antisymm h.woff_le hle
  refine ⟨le_rfl, Nat.zero_le _, by simp, by simpa [heq] using h.counters, ?_⟩
  rw [writePending_eq_nil (le_refl 0), ← h.stream, writePending_eq_nil hle]

theorem WriteInv.wrote (h : WriteInv ios log i) {n : Nat} (hn : n ≤ ios.writePending.length) :
    WriteInv { ios with lastErrno := 0, woff := ios.woff + n, writeNetWrite := ios.writeNetWrite + n }
      (log ++ [.netWrite i (ios.writePending.take n)]) i := by
  have hlen := h.writePending_length
  have := h.woff_le
  refine ⟨by simp; omega, h.wlen_le, h.wbuf_holds, by simp; have := h.counters; omega, ?_⟩
  rw [writePending_advance]
  simp [Call.sentFrom, Call.takenFrom, ← h.stream]

/-- `mx_socket_read` returned `bytes` into an empty buffer whose start they overwrite. -/
theorem WriteInv.pulled (h : WriteInv ios log i) (h0 : ios.wlen = 0) (b : RwBuf)
    (bytes : List Byte) (hb : bytes.length ≤ rwbufSize) :
    WriteInv { ios with
      wbuf := some ⟨b.addr, bytes ++ b.data.drop bytes.length⟩, wlen := bytes.length,
      woff := 0, writeSocketRead := ios.writeSocketRead + bytes.length }
      (log ++ [.socketRead i bytes]) i := by
  have hw0 : ios.woff = 0 := by have := h.woff_le; omega
  refine ⟨Nat.zero_le _, hb, fun _ => ⟨_, rfl, by simp⟩, by simp; have := h.counters; omega, ?_⟩
  have hs := h.stream
  rw [writePending_eq_nil (by omega)] at hs
  simp [IOState.writePending, Call.sentFrom, Call.takenFrom, hs]

/-- With nothing pending, the buffer pointer does not matter. -/
theorem WriteInv.rebuf (h : WriteInv ios log i) (h0 : ios.wlen = 0) (r : Option RwBuf) :
    WriteInv { ios with wbuf := r } log i := by
  have hw0 : ios.woff = 0 := by have := h.woff_le; omega
  refine ⟨h.woff_le, h.wlen_le, fun hp => absurd h0 (by simpa using hp.ne'), h.counters, ?_⟩
  rw [writePending_eq_nil (by simp [h0, hw0]), ← h.stream, writePending_eq_nil (by omega)]

end Pieces

end Netstack
