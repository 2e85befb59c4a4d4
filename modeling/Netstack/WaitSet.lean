import Netstack.Env

/-!
# Watched signals and the wait-set

`socket_signals_set` and `socket_signals_clear` of `handle_watcher.c` keep, for each
`iostate_t`, the signals its data endpoint is watched for (`watching_signals`) and the
wait-set entry whose cookie is the state's address, which the watcher thread blocks on.  The intended
invariant (P1 of the design) is that the entry exists exactly when some signal is
watched, and then watches exactly those signals.

`socket_signals_change` removes the old entry before adding the new one and returns early
when either kernel call fails.  When the removal succeeds and the addition fails, the
entry is gone while `watching_signals` still names the old signals.
-/

namespace Netstack

/-- `mx_waitset_remove(s_waitset, cookie)`: a successful call drops the entry. -/
def mxWaitsetRemove (s : Sys) (cookie : IosAddr) (r : Status) : Sys :=
  if r < 0 then s else { s with waitset := Function.update s.waitset cookie none }

/-- `mx_waitset_add(s_waitset, cookie, h, sigs)`: a successful call installs the entry. -/
def mxWaitsetAdd (s : Sys) (cookie : IosAddr) (h : Handle) (sigs : Signals) (r : Status) :
    Sys :=
  if r < 0 then s else { s with waitset := Function.update s.waitset cookie (some (h, sigs)) }

/-- `socket_signals_change`: the cookie of the entry is `(uint64_t)ios`, the address of the
state's record. -/
def socketSignalsChange (k : Kernel) (s : Sys) (i : IosId) (oldSigs newSigs : Signals) :
    Sys :=
  let c := s.heap.addr i
  if oldSigs ≠ mxSignalNone ∧ k.waitsetRemove c < 0 then s else
  let s := if oldSigs ≠ mxSignalNone then mxWaitsetRemove s c (k.waitsetRemove c) else s
  if newSigs ≠ mxSignalNone ∧ k.waitsetAdd c newSigs < 0 then s else
  let s := if newSigs ≠ mxSignalNone
    then mxWaitsetAdd s c (s.ios i).dataH newSigs (k.waitsetAdd c newSigs) else s
  s.setIos i { s.ios i with watchingSignals := newSigs }

def socketSignalsSet (k : Kernel) (s : Sys) (i : IosId) (sigs : Signals) : Sys :=
  let w := (s.ios i).watchingSignals
  if w &&& sigs = sigs then s else socketSignalsChange k s i w (w ||| sigs)

def socketSignalsClear (k : Kernel) (s : Sys) (i : IosId) (sigs : Signals) : Sys :=
  let w := (s.ios i).watchingSignals
  if w &&& sigs = mxSignalNone then s else socketSignalsChange k s i w (w &&& ~~~sigs)

/-! ## What a signal update leaves unchanged -/

section Frame

variable (k : Kernel) (s : Sys) (i : IosId) (oldSigs newSigs : Signals)

theorem mxWaitsetRemove_frame (c : IosAddr) (r : Status) :
    ∃ ws, mxWaitsetRemove s c r = { s with waitset := ws } := by
  unfold mxWaitsetRemove; split
  exacts [⟨_, rfl⟩, ⟨_, rfl⟩]

theorem mxWaitsetAdd_frame (c : IosAddr) (h : Handle) (sigs : Signals) (r : Status) :
    ∃ ws, mxWaitsetAdd s c h sigs r = { s with waitset := ws } := by
  unfold mxWaitsetAdd; split
  exacts [⟨_, rfl⟩, ⟨_, rfl⟩]

/-- A change touches only the wait-set and the state's watched signals. -/
theorem socketSignalsChange_eq : ∃ ws w, socketSignalsChange k s i oldSigs newSigs =
    ({ s with waitset := ws }).setIos i { s.ios i with watchingSignals := w } := by
  obtain ⟨ws, hws⟩ : ∃ ws, (if oldSigs ≠ mxSignalNone
      then mxWaitsetRemove s (s.heap.addr i) (k.waitsetRemove (s.heap.addr i)) else s) =
        { s with waitset := ws } := by
    split
    exacts [mxWaitsetRemove_frame s _ _, ⟨_, rfl⟩]
  dsimp only [socketSignalsChange]
  rw [hws]
  split
  · exact ⟨_, _, (Sys.setIos_self s i).symm⟩
  split
  · exact ⟨ws, _, (Sys.setIos_self _ i).symm⟩
  split
  · obtain ⟨ws', h⟩ := mxWaitsetAdd_frame { s with waitset := ws } (s.heap.addr i) (s.ios i).dataH
      newSigs (k.waitsetAdd (s.heap.addr i) newSigs)
    exact ⟨ws', newSigs, by dsimp only; rw [h]⟩
  · exact ⟨ws, newSigs, rfl⟩

@[simp] theorem socketSignalsChange_log :
    (socketSignalsChange k s i oldSigs newSigs).log = s.log := by
  obtain ⟨ws, w, he⟩ := socketSignalsChange_eq k s i oldSigs newSigs
  rw [he]; rfl

@[simp] theorem socketSignalsChange_waitNet :
    (socketSignalsChange k s i oldSigs newSigs).waitNet = s.waitNet := by
  obtain ⟨ws, w, he⟩ := socketSignalsChange_eq k s i oldSigs newSigs
  rw [he]; rfl

@[simp] theorem socketSignalsChange_waitSocket :
    (socketSignalsChange k s i oldSigs newSigs).waitSocket = s.waitSocket := by
  obtain ⟨ws, w, he⟩ := socketSignalsChange_eq k s i oldSigs newSigs
  rw [he]; rfl

@[simp] theorem socketSignalsChange_heap :
    (socketSignalsChange k s i oldSigs newSigs).heap = s.heap := by
  obtain ⟨ws, w, he⟩ := socketSignalsChange_eq k s i oldSigs newSigs
  rw [he]; rfl

@[simp] theorem socketSignalsChange_peerSignals :
    (socketSignalsChange k s i oldSigs newSigs).peerSignals = s.peerSignals := by
  obtain ⟨ws, w, he⟩ := socketSignalsChange_eq k s i oldSigs newSigs
  rw [he]; rfl

theorem socketSignalsSet_ios_self (sigs : Signals) :
    ∃ w, (socketSignalsSet k s i sigs).ios i = { s.ios i with watchingSignals := w } := by
  dsimp only [socketSignalsSet]
  split_ifs
  · exact ⟨(s.ios i).watchingSignals, rfl⟩
  · obtain ⟨ws, w, he⟩ := socketSignalsChange_eq k s i (s.ios i).watchingSignals
      ((s.ios i).watchingSignals ||| sigs)
    exact ⟨w, by rw [he]; simp⟩

@[simp] theorem socketSignalsSet_log (sigs : Signals) :
    (socketSignalsSet k s i sigs).log = s.log := by
  dsimp only [socketSignalsSet]; split_ifs <;> simp

end Frame

/-! ## The wait-set invariant -/

/-- P1: the entry whose cookie is the state's address exists exactly when it watches some
signal, and then it watches the data endpoint for exactly those signals. -/
def WaitsetConsistent (s : Sys) (i : IosId) : Prop :=
  match s.waitset (s.heap.addr i) with
  | none => (s.ios i).watchingSignals = mxSignalNone
  | some (h, sigs) => (s.ios i).watchingSignals ≠ mxSignalNone ∧
      h = (s.ios i).dataH ∧ sigs = (s.ios i).watchingSignals

instance (s : Sys) (i : IosId) : Decidable (WaitsetConsistent s i) :=
  match h : s.waitset (s.heap.addr i) with
  | none => decidable_of_iff ((s.ios i).watchingSignals = mxSignalNone)
      (by simp [WaitsetConsistent, h])
  | some (hd, sigs) => decidable_of_iff ((s.ios i).watchingSignals ≠ mxSignalNone ∧
      hd = (s.ios i).dataH ∧ sigs = (s.ios i).watchingSignals) (by simp [WaitsetConsistent, h])

/-- A kernel whose wait-set calls all succeed. -/
def Kernel.WaitsetOk (k : Kernel) : Prop :=
  (∀ i, 0 ≤ k.waitsetRemove i) ∧ ∀ i sigs, 0 ≤ k.waitsetAdd i sigs

/-- When every wait-set call succeeds, a change installs the new signals. -/
theorem socketSignalsChange_watching (k : Kernel) (hk : k.WaitsetOk) (s : Sys) (i : IosId)
    (oldSigs newSigs : Signals) :
    ((socketSignalsChange k s i oldSigs newSigs).ios i).watchingSignals = newSigs := by
  have hr := not_lt.mpr (hk.1 (s.heap.addr i))
  have ha := not_lt.mpr (hk.2 (s.heap.addr i) newSigs)
  simp [socketSignalsChange, hr, ha]

/-- When every wait-set call succeeds, `socket_signals_set` leaves `READABLE` watched
whenever it was asked for. -/
theorem socketSignalsSet_watches_readable (k : Kernel) (hk : k.WaitsetOk) (s : Sys)
    (i : IosId) (sigs : Signals) (h : sigs.readable = true) :
    ((socketSignalsSet k s i sigs).ios i).watchingSignals.readable = true := by
  dsimp only [socketSignalsSet]
  split
  · rename_i hw
    simpa [h] using congrArg Signals.readable hw
  · simp [socketSignalsChange_watching k hk, h]

theorem WaitsetConsistent.waitset_none {s : Sys} {i : IosId} (hc : WaitsetConsistent s i)
    (hw : (s.ios i).watchingSignals = mxSignalNone) : s.waitset (s.heap.addr i) = none := by
  unfold WaitsetConsistent at hc
  split at hc
  · assumption
  · exact absurd hw hc.1

/-- When every wait-set call succeeds, a change from the watched signals keeps P1. -/
theorem socketSignalsChange_consistent (k : Kernel) (hk : k.WaitsetOk) (s : Sys) (i : IosId)
    (newSigs : Signals) (hc : WaitsetConsistent s i) :
    WaitsetConsistent (socketSignalsChange k s i (s.ios i).watchingSignals newSigs) i := by
  have hr := not_lt.mpr (hk.1 (s.heap.addr i))
  have ha := not_lt.mpr (hk.2 (s.heap.addr i) newSigs)
  by_cases hw : (s.ios i).watchingSignals = mxSignalNone
  · have hnone := hc.waitset_none hw
    by_cases hn : newSigs = mxSignalNone <;>
      simp [socketSignalsChange, mxWaitsetAdd, WaitsetConsistent, hw, hn, ha, hnone]
  · by_cases hn : newSigs = mxSignalNone <;>
      simp [socketSignalsChange, mxWaitsetRemove, mxWaitsetAdd, WaitsetConsistent, hw, hn,
        hr, ha]

/-- A watched set of `READABLE`; the entry was installed by a successful set. -/
def watchingReadable : Sys :=
  socketSignalsSet Kernel.ok
    (Sys.init.setIos 1 { handleType := .stream, dataH := 7, refcount := 2 }) 1
    mxSocketReadable

/-- Adding `WRITABLE` to it when the removal succeeds and the addition fails
(`ERR_NO_MEMORY`) leaves no entry while `READABLE` is still recorded as watched. -/
theorem socketSignalsSet_loses_entry :
    WaitsetConsistent watchingReadable 1 ∧
    let s := socketSignalsSet { Kernel.ok with waitsetAdd := fun _ _ => errNoMemory }
      watchingReadable 1 mxSocketWritable
    s.waitset 1 = none ∧ (s.ios 1).watchingSignals = mxSocketReadable := by
  decide

end Netstack
