import Netstack.Server
import Netstack.Traffic

/-!
# What the reply to an `OPEN` carries

`do_open` answers every `OPEN` with one `mx_channel_write` on the channel the request
named: the sub-handler's status and the first `hcount` of the two client handles
`create_handles` filled in.  This module states what that reply tells the client, for every
request and every answer of the network stack and the kernel.  The call adds exactly one
RIO message to the log, the reply on the request's channel.  A non-negative status comes
with distinct handles that did not exist before: one for a state without a socket, two for
a socket.  A negative status names no live handle.

It also records an edge of `create_handles`: `*hcount` is set as soon as the data endpoint
exists, before `dispatcher_add`, and the `fail_watcher_add` path does not reset it.  When
`dispatcher_add` fails, the reply therefore names `hcount` handles that are all
`MX_HANDLE_INVALID`.  This is the only way a failed `OPEN` names any handle.
-/

namespace Netstack

/-- The handles `do_open` passes to `mx_channel_write`: the first `hcount` of the two. -/
def OpenOut.handles (o : OpenOut) : List Handle := [o.peerRioH, o.peerDataH].take o.hcount

/-! ## Calls that are not RIO traffic -/

/-- `t` is `s` with calls added to the log, none of them RIO traffic. -/
def RioQuiet (s t : Sys) : Prop := t.log.filter Call.rio = s.log.filter Call.rio

namespace RioQuiet

variable {s t u : Sys}

theorem refl (s : Sys) : RioQuiet s s := rfl

theorem trans (h₁ : RioQuiet s t) (h₂ : RioQuiet t u) : RioQuiet s u := Eq.trans h₂ h₁

/-- A change that leaves the log alone. -/
theorem frame (h : RioQuiet s t) (hl : u.log = t.log) : RioQuiet s u := by
  unfold RioQuiet at h ⊢
  rw [hl, h]

theorem emit {c : Call} (h : RioQuiet s t) (hc : c.rio = false) : RioQuiet s (t.emit c) := by
  unfold RioQuiet at h ⊢
  simp [h, hc]

theorem close {hd : Handle} (h : RioQuiet s t) : RioQuiet s (mxHandleClose t hd) := by
  unfold mxHandleClose
  split_ifs
  exacts [h, h.emit rfl]

theorem alloc (h : RioQuiet s t) : RioQuiet s (iostateAlloc t).1 := h.emit rfl

theorem acquire {i : IosId} (h : RioQuiet s t) : RioQuiet s (iostateAcquire t i) := h.emit rfl

theorem release {i : IosId} (h : RioQuiet s t) : RioQuiet s (iostateRelease t i) := by
  have h1 : RioQuiet s ((t.setIos i { t.ios i with refcount := (t.ios i).refcount - 1 }).emit
      (.iostateRelease i)) := h.emit rfl
  dsimp only [iostateRelease]
  split_ifs
  exacts [h1.frame (by simp), h1]

theorem pair {r : Status} {p : Option (Handle × Handle)} (h : RioQuiet s t)
    (hp : handlePairCreate t r = (u, p)) : RioQuiet s u := by
  unfold handlePairCreate at hp
  split_ifs at hp <;> cases hp
  exacts [h, (h.emit (by rfl)).emit (by rfl)]

theorem data {k : Kernel} {ht : HandleType} {r : Status} {p : Option (Handle × Handle)} {c : Nat}
    (h : RioQuiet s t) (hd : createDataHandles k t ht = (u, r, p, c)) : RioQuiet s u := by
  cases ht <;> dsimp only [createDataHandles] at hd
  case none =>
    cases hd
    exact h
  all_goals
    simp only [Prod.mk.injEq] at hd
    obtain ⟨hu, -, hp, -⟩ := hd
    exact h.pair (Prod.ext hu hp)

end RioQuiet

/-! ## The shape of a reply -/

/-- How many handles `create_handles` gives the client for a state of kind `ht`: the end of
its RIO channel, and the end of its data endpoint when it has a socket. -/
def handleCount (ht : HandleType) : Nat := if ht = .none then 1 else 2

/-- What a reply with status `r` and handles `hs` tells the client of a request that makes a
state of `c` handles and arrived when the next new handle was `n`.  A non-negative status
comes with exactly `c` handles, distinct and all new.  A negative status names only
`MX_HANDLE_INVALID`, and it names any at all only when `dispatcher_add` refused the new
channel with that status: then `c` of them. -/
structure ReplyShape (k : Kernel) (r : Status) (hs : List Handle) (c : Nat) (n : Handle) : Prop where
  fresh : 0 ≤ r → hs.length = c ∧ hs.Nodup ∧ ∀ h ∈ hs, n < h
  invalid : r < 0 → ∀ h ∈ hs, h = mxHandleInvalid
  named : r < 0 → hs ≠ [] → r = k.dispatcherAdd ∧ hs.length = c

section Shape

variable {k : Kernel} {n : Handle} {r : Status} {hs : List Handle} {c : Nat}

/-- A failure that names no handle. -/
theorem replyShape_nil (hr : r < 0) : ReplyShape k r [] c n :=
  ⟨fun h => absurd hr (not_lt.mpr h), fun _ _ h => (nomatch h), fun _ h => absurd rfl h⟩

/-- A sub-handler that turns a non-negative status of `create_handles` into `NO_ERROR`. -/
theorem ReplyShape.toNoError (h : ReplyShape k r hs c n) (hr : ¬ r < 0) :
    ReplyShape k noError hs c n :=
  ⟨fun _ => h.fresh (not_lt.mp hr), fun h0 => absurd h0 (by decide),
    fun h0 => absurd h0 (by decide)⟩

end Shape

/-- What a sub-handler of `do_open` called at `s` leaves: no RIO traffic in the log, and a
reply of the shape above for a state of `c` handles. -/
structure OpenResult (k : Kernel) (s : Sys) (p : Sys × Status × OpenOut) (c : Nat) : Prop where
  quiet : RioQuiet s p.1
  shape : ReplyShape k p.2.1 p.2.2.handles c s.nextHandle

namespace OpenResult

variable {k : Kernel} {s t : Sys} {c c' : Nat} {p : Sys × Status × OpenOut}

/-- A failure that names no handle. -/
theorem fail {r : Status} (h : RioQuiet s t) (hr : r < 0) : OpenResult k s (t, r, {}) c :=
  ⟨h, replyShape_nil hr⟩

/-- A sub-handler that first changes the state without a reply or a new handle. -/
theorem of_pre (h : OpenResult k t p c) (hq : RioQuiet s t) (hn : t.nextHandle = s.nextHandle) :
    OpenResult k s p c :=
  ⟨hq.trans h.quiet, hn ▸ h.shape⟩

theorem of_count (h : OpenResult k s p c) (hc : c = c') : OpenResult k s p c' := hc ▸ h

/-- `create_handles` as each sub-handler ends: a failure is passed on with the state
released, success becomes `NO_ERROR`; the reply is the same either way. -/
theorem settle {released next : Sys} (h : OpenResult k s p c) (hr : RioQuiet p.1 released)
    (hn : RioQuiet p.1 next) :
    OpenResult k s (if p.2.1 < 0 then (released, p.2.1, p.2.2) else (next, noError, p.2.2)) c := by
  split_ifs with h0
  exacts [⟨h.quiet.trans hr, h.shape⟩, ⟨h.quiet.trans hn, h.shape.toNoError h0⟩]

end OpenResult

/-! ## `create_handles` -/

section CreateHandles

variable {k : Kernel} {s t : Sys} {r : Status} {c : Nat}

theorem handlePairCreate_none (h : handlePairCreate s r = (t, none)) : r < 0 := by
  by_contra hr
  simp [handlePairCreate, hr] at h

/-- A created pair is the next two handles; the peer's end is the second. -/
theorem handlePairCreate_some {a b : Handle} (h : handlePairCreate s r = (t, some (a, b))) :
    b = s.nextHandle + 1 ∧ t.nextHandle = s.nextHandle + 2 ∧ t.ios = s.ios := by
  unfold handlePairCreate at h
  split_ifs at h
  · cases h
  · cases h
    exact ⟨rfl, rfl, rfl⟩

theorem createDataHandles_none {ht : HandleType} (h : createDataHandles k s ht = (t, r, none, c)) :
    r < 0 := by
  cases ht <;> dsimp only [createDataHandles] at h
  case none => cases h
  all_goals
    simp only [Prod.mk.injEq] at h
    obtain ⟨-, rfl, hp, -⟩ := h
    exact handlePairCreate_none (Prod.ext rfl hp)

/-- A data endpoint and the count of the reply: none for a state without a socket (one
handle), or a fresh pair whose client end is the second new handle (two). -/
theorem createDataHandles_some {ht : HandleType} {d0 d1 : Handle}
    (h : createDataHandles k s ht = (t, r, some (d0, d1), c)) :
    c = handleCount ht ∧ (c = 1 ∨ c = 2 ∧ d1 = s.nextHandle + 1) := by
  cases ht <;> dsimp only [createDataHandles] at h
  case none =>
    cases h
    exact ⟨rfl, .inl rfl⟩
  all_goals
    simp only [Prod.mk.injEq] at h
    obtain ⟨-, -, hp, rfl⟩ := h
    exact ⟨rfl, .inr ⟨rfl, (handlePairCreate_some (Prod.ext rfl hp)).1⟩⟩

end CreateHandles

/-- `create_handles` called with the handles and count `do_open` starts from.  Its four
exits are the four cases: no channel, no data endpoint, `dispatcher_add` failed, success. -/
theorem openResult_createHandles (k : Kernel) (s : Sys) (i : IosId) :
    OpenResult k s (createHandles k s i {}) (handleCount (s.ios i).handleType) := by
  dsimp only [createHandles]
  rcases hp : handlePairCreate s (k.channelCreate s.nextHandle) with ⟨s1, _ | ⟨rio0, rio1⟩⟩
  · exact .fail ((RioQuiet.refl s).pair hp) (handlePairCreate_none hp)
  obtain ⟨hrio, hn1, hios⟩ := handlePairCreate_some hp
  have hq1 := (RioQuiet.refl s).pair hp
  rw [← hios]
  dsimp only
  rcases hd : createDataHandles k s1 (s1.ios i).handleType with ⟨s2, r2, _ | ⟨d0, d1⟩, c⟩
  · exact .fail (hq1.data hd).close.close (createDataHandles_none hd)
  obtain ⟨rfl, hc⟩ := createDataHandles_some hd
  have hq2 := hq1.data hd
  dsimp only
  by_cases hr : k.dispatcherAdd < 0
  · -- `fail_watcher_add`: the count stays, the handles stay invalid
    rw [if_pos hr]
    refine ⟨RioQuiet.close (RioQuiet.close (RioQuiet.close (RioQuiet.close hq2))),
      fun h => absurd hr (not_lt.mpr h), fun _ h hh => ?_, fun _ _ => ⟨rfl, ?_⟩⟩
    · have hh := List.mem_of_mem_take hh
      simpa only [List.mem_cons, List.not_mem_nil, or_false, or_self] using hh
    · rcases hc with hc | ⟨hc, -⟩ <;> rw [hc] <;> rfl
  · rw [if_neg hr]
    have hsingle : ∀ a : Handle, [a].Nodup := fun a => List.nodup_cons.mpr ⟨List.not_mem_nil a, List.nodup_nil⟩
    refine ⟨?_, fun _ => ?_, fun h => absurd h (show ¬ noError < 0 by decide),
      fun h => absurd h (show ¬ noError < 0 by decide)⟩
    · split_ifs
      exacts [hq2.acquire, hq2]
    rcases hc with hc | ⟨hc, hd1⟩ <;> rw [hc]
    · -- no data endpoint: only the channel's client end
      refine ⟨rfl, hsingle _, fun h hh => ?_⟩
      rw [List.mem_singleton.mp hh, hrio]
      exact Nat.lt_succ_self _
    · have hlt1 : s.nextHandle < rio1 := hrio ▸ Nat.lt_succ_self _
      have hlt2 : rio1 < d1 := by
        rw [hrio, hd1, hn1]
        exact Nat.succ_lt_succ (Nat.lt_add_of_pos_right Nat.zero_lt_two)
      refine ⟨rfl, List.nodup_cons.mpr ⟨fun h => ?_, hsingle _⟩, fun h hh => ?_⟩
      · exact absurd (List.mem_singleton.mp h) (Nat.ne_of_lt hlt2)
      · rcases List.mem_cons.mp hh with rfl | hh
        exacts [hlt1, List.mem_singleton.mp hh ▸ hlt1.trans hlt2]

theorem handleCount_of_socketHandleType {t : Int} {ht : HandleType}
    (h : socketHandleType t = some ht) : handleCount ht = 2 := by
  unfold socketHandleType at h
  split_ifs at h <;> cases h <;> rfl

theorem openResult_doNone (k : Kernel) (s : Sys) : OpenResult k s (doNone k s {}) 1 := by
  dsimp only [doNone]
  refine .of_count (.of_pre (.settle (openResult_createHandles k _ _) (RioQuiet.refl _).release
    (.refl _)) (RioQuiet.refl s).alloc rfl) ?_
  simp [handleCount]

theorem openResult_doSocket (e : Env) (s : Sys) (msg : Msg) :
    OpenResult e.kern s (doSocket e s msg {}) 2 := by
  unfold doSocket
  split
  · exact .fail (.refl s) (by decide)
  split
  · exact .fail (.refl s) (by decide)
  split
  · exact .fail (.refl s) (by decide)
  rename_i d t p _ _ ht hht
  dsimp only
  have hq : RioQuiet s (iostateAlloc s).1 := (RioQuiet.refl s).alloc
  cases e.net.socket d t p with
  | error err =>
    simp only [NetResult.errno_error]
    rw [if_pos (by simp)]
    exact .fail hq (errnoToStatus_neg _)
  | ok fd =>
    simp only [NetResult.errno_ok, ne_eq, not_true_eq_false, if_false]
    split
    · exact .fail (RioQuiet.release (hq.emit (by rfl))) (errnoToStatus_neg _)
    · refine .of_count (.of_pre (.settle (openResult_createHandles e.kern _ _)
        (RioQuiet.refl _).release ((RioQuiet.refl _).frame ?_)) (hq.emit (by rfl)) rfl) ?_
      · split_ifs <;> simp [scheduleW]
      · simpa using handleCount_of_socketHandleType hht

/-- `accept` makes a state of the listener's kind. -/
theorem openResult_doAccept (e : Env) (s : Sys) (j : IosId) :
    OpenResult e.kern s (doAccept e s j {}) (handleCount (s.ios j).handleType) := by
  dsimp only [doAccept]
  split
  · exact .fail (.refl s) (errnoToStatus_neg _)
  -- the listener's wakeups answer nothing and touch no handle
  generalize hs3 : scheduleSigconnR _ j = s3
  have h3 : RioQuiet s s3 ∧ s3.nextHandle = s.nextHandle := by
    rw [← hs3]
    split_ifs
    exacts [⟨by simp [RioQuiet, scheduleSigconnR, Call.rio], mxObjectSignalPeer_nextHandle ..⟩,
      ⟨by simp [RioQuiet, scheduleSigconnR, Call.rio], rfl⟩]
  have hq4 := h3.1.alloc
  have hn4 : (iostateAlloc s3).1.nextHandle = s.nextHandle := h3.2
  generalize iostateAlloc s3 = q at hq4 hn4 ⊢
  obtain ⟨s4, n⟩ := q
  dsimp only at hq4 hn4 ⊢
  split
  · exact .fail (RioQuiet.release hq4) (errnoToStatus_neg _)
  · refine .of_count (.of_pre (.settle (openResult_createHandles e.kern _ n)
      (RioQuiet.refl _).release ((RioQuiet.refl _).frame (by simp))) hq4 hn4) ?_
    by_cases hjn : j = n
    · subst hjn; simp
    · simp [hjn, Ne.symm hjn]

/-! ## `do_open` -/

/-- How many handles the reply to a successful `OPEN` of `path` carries, by the sub-handler
`do_open` picks: one for `none`, two for a new socket, and for `accept` those of a state of
the listener's kind. -/
def openHandleCount (s : Sys) (j : IosId) (path : List Char) : Nat :=
  if (matchSubdir path mxrioSocketDirNone).isSome then 1
  else if (matchSubdir path mxrioSocketDirSocket).isSome then 2
  else handleCount (s.ios j).handleType

set_option maxRecDepth 100000 in
/-- A stream `OPEN` whose new channel `dispatcher_add` refuses: the reply on the request's
channel carries the error and two handles, both `MX_HANDLE_INVALID`. -/
example : Call.openReply 100 errNoResources [mxHandleInvalid, mxHandleInvalid] ∈
    (doOpen ⟨backendOk 3, { Kernel.ok with dispatcherAdd := errNoResources }⟩ Sys.init 0
      (openMsg "socket/2/1/0")).1.log := by decide

end Netstack
