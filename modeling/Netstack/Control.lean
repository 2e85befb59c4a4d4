import Netstack.State

/-!
# The watcher's control channel

`handle_watcher_start` and `handle_watcher_stop` run on the server's thread and talk to
`handle_watcher_loop` over the channel `s_ctrl`.  The server writes one-byte commands
(`START`, `ABORT`) into `s_ctrl[1]`; the watcher answers each `START` with one result byte
on `s_ctrl[0]`, `1` when an entry other than the control channel fired.  The watcher's end
`s_ctrl[0]` is itself in the wait-set, so an `ABORT` wakes a watcher blocked in
`mx_waitset_wait`; that `ABORT` stays in the channel and is skipped at the top of the next
round.

Each thread is a program counter over its kernel calls, one atomic step per call, and the
two directions of the channel are FIFO byte queues.  The channel calls succeed: their
failure paths end a thread and are not modelled.  Ghost fields count the `START`s written
and read and record the result bytes computed and received.
-/

namespace Netstack.Control

/-- `START` -/
def start : UInt8 := 1

/-- `ABORT` -/
def abort : UInt8 := 2

/-- A wait-set entry: the control channel (`CTRL_COOKIE`) or a state's data endpoint. -/
inductive Cookie where
  | ctrl
  | ios (i : IosId)
  deriving DecidableEq, Repr

/-- An entry of `mx_waitset_wait`'s results. -/
structure WaitResult where
  cookie : Cookie
  observed : Signals
  deriving DecidableEq, Repr

/-- The loop over the results in `handle_watcher_loop`: `1` at the first entry other than
the control channel that observed a signal. -/
def foundResult : List WaitResult → UInt8
  | [] => 0
  | r :: rs => if r.cookie ≠ .ctrl ∧ r.observed ≠ mxSignalNone then 1 else foundResult rs

/-- Where the server thread is: outside a round, between `handle_watcher_start` and
`handle_watcher_stop`, in `stop` after its zero-timeout wait found no result, or in
`stop`'s infinite wait. -/
inductive Server where
  | idle
  | started
  | aborting
  | awaiting
  deriving DecidableEq, Repr

/-- Where `handle_watcher_loop` is: waiting for a command, in `mx_waitset_wait`, or about
to send the result byte it computed. -/
inductive Loop where
  | waitCmd
  | waiting
  | sending (c : UInt8)
  deriving DecidableEq, Repr

structure Channel where
  /-- written to `s_ctrl[1]`, not yet read from `s_ctrl[0]` -/
  toWatcher : List UInt8 := []
  /-- written to `s_ctrl[0]`, not yet read from `s_ctrl[1]` -/
  toServer : List UInt8 := []
  server : Server := .idle
  loop : Loop := .waitCmd
  /-- bytes `send_interrupt` wrote to the multiplexer's pipe -/
  interrupts : Nat := 0
  /-- ghost: `START`s written by the server and read by the watcher -/
  starts : Nat := 0
  startsRead : Nat := 0
  /-- ghost: the result bytes the watcher computed and those `stop` read, in order -/
  computed : List UInt8 := []
  returned : List UInt8 := []
  deriving DecidableEq, Repr

/-- One kernel call of either thread; `loopWake` carries what `mx_waitset_wait` returns. -/
inductive Event where
  | watcherStart
  | watcherStop
  | stopAbort
  | stopRead
  | loopRead
  | loopWake (results : List WaitResult)
  | loopSend

/-- `mx_waitset_wait` returns at least one satisfied entry, and the control entry is
satisfied only while a command waits in `s_ctrl[0]`. -/
def WaitReturns (s : Channel) (results : List WaitResult) : Prop :=
  results ≠ [] ∧ ∀ r ∈ results, r.cookie = .ctrl → s.toWatcher ≠ []

instance (s : Channel) (results : List WaitResult) : Decidable (WaitReturns s results) :=
  inferInstanceAs (Decidable (_ ∧ _))

/-- The call `e` made in state `s`, or `none` when its thread is not at that call (or,
for the blocking calls, cannot return yet). -/
def next (s : Channel) : Event → Option Channel
  | .watcherStart => match s.server with
    | .idle => some { s with
        toWatcher := s.toWatcher ++ [start], server := .started, starts := s.starts + 1 }
    | _ => none
  | .watcherStop => match s.server with
    | .started => some { s with server := if s.toServer = [] then .aborting else .awaiting }
    | _ => none
  | .stopAbort => match s.server with
    | .aborting => some { s with toWatcher := s.toWatcher ++ [abort], server := .awaiting }
    | _ => none
  | .stopRead => match s.server, s.toServer with
    | .awaiting, c :: rest => some { s with
        toServer := rest, server := .idle, returned := s.returned ++ [c] }
    | _, _ => none
  | .loopRead => match s.loop, s.toWatcher with
    | .waitCmd, c :: rest =>
      if c = abort then some { s with toWatcher := rest }
      else some { s with toWatcher := rest, loop := .waiting, startsRead := s.startsRead + 1 }
    | _, _ => none
  | .loopWake results => match s.loop with
    | .waiting =>
      if WaitReturns s results then some { s with
        loop := .sending (foundResult results), computed := s.computed ++ [foundResult results] }
      else none
    | _ => none
  | .loopSend => match s.loop with
    | .sending c => some { s with
        toServer := s.toServer ++ [c], loop := .waitCmd,
        interrupts := if c > 0 then s.interrupts + 1 else s.interrupts }
    | _ => none

def run (s : Channel) : List Event → Option Channel
  | [] => some s
  | e :: es => (next s e).bind (run · es)

/-! ## The invariant -/

/-- The configurations of one round, `tail` being what `stop` wrote behind the round's
`START`: nothing, or its `ABORT`. -/
inductive InRound (s : Channel) (tail : List UInt8) : Prop where
  /-- the `START` is still in the channel, possibly behind the last round's `ABORT` -/
  | unread (hloop : s.loop = .waitCmd)
      (hq : s.toWatcher = start :: tail ∨ s.toWatcher = abort :: start :: tail)
      (hr : s.toServer = []) (hc : s.computed = s.returned)
  | waiting (hloop : s.loop = .waiting) (hq : s.toWatcher = tail) (hr : s.toServer = [])
      (hc : s.computed = s.returned)
  | sending (c : UInt8) (hloop : s.loop = .sending c) (hq : s.toWatcher = tail)
      (hr : s.toServer = []) (hc : s.computed = s.returned ++ [c])
  /-- the result is in the channel; the watcher may have skipped the `ABORT` -/
  | answered (c : UInt8) (hloop : s.loop = .waitCmd) (hq : s.toWatcher = tail ∨ s.toWatcher = [])
      (hr : s.toServer = [c]) (hc : s.computed = s.returned ++ [c])

/-- Between rounds: the result was read, and at most the last round's `ABORT` is left. -/
structure Idle (s : Channel) : Prop where
  hloop : s.loop = .waitCmd
  hq : s.toWatcher = [] ∨ s.toWatcher = [abort]
  hr : s.toServer = []
  hc : s.computed = s.returned

def Shape (s : Channel) : Prop :=
  match s.server with
  | .idle => Idle s
  | .started | .aborting => InRound s []
  | .awaiting => InRound s [abort]

structure Inv (s : Channel) : Prop where
  shape : Shape s
  /-- one `stop` has answered each `START` but the current round's -/
  rounds : s.returned.length + (if s.server = .idle then 0 else 1) = s.starts
  /-- one result byte is computed for each `START` read, none for an `ABORT` -/
  results : s.computed.length + (if s.loop = .waiting then 1 else 0) = s.startsRead

theorem inv_init : Inv {} := ⟨⟨rfl, .inl rfl, rfl, rfl⟩, rfl, rfl⟩

theorem start_ne_abort : start ≠ abort := by decide

theorem abort_ne_start : abort ≠ start := by decide

section Step

variable {s s' : Channel}

theorem counts_next {e : Event} (h : next s e = some s')
    (hr : s.returned.length + (if s.server = .idle then 0 else 1) = s.starts)
    (hc : s.computed.length + (if s.loop = .waiting then 1 else 0) = s.startsRead) :
    s'.returned.length + (if s'.server = .idle then 0 else 1) = s'.starts ∧
      s'.computed.length + (if s'.loop = .waiting then 1 else 0) = s'.startsRead := by
  cases e <;> simp only [next] at h <;> split at h <;> (try split at h) <;>
    simp only [Option.some.injEq, reduceCtorEq] at h <;> subst h <;> simp_all

theorem InRound.of_eq {t : Channel} {tail : List UInt8} (hs : InRound s tail)
    (hl : t.loop = s.loop) (hq : t.toWatcher = s.toWatcher) (hr : t.toServer = s.toServer)
    (hc : t.computed = s.computed) (hret : t.returned = s.returned) : InRound t tail := by
  cases hs with
  | unread hl' hq' hr' hc' => exact .unread (hl ▸ hl') (hq ▸ hq') (hr ▸ hr') (hc ▸ hret ▸ hc')
  | waiting hl' hq' hr' hc' => exact .waiting (hl ▸ hl') (hq ▸ hq') (hr ▸ hr') (hc ▸ hret ▸ hc')
  | sending c hl' hq' hr' hc' =>
    exact .sending c (hl ▸ hl') (hq ▸ hq') (hr ▸ hr') (hc ▸ hret ▸ hc')
  | answered c hl' hq' hr' hc' =>
    exact .answered c (hl ▸ hl') (hq ▸ hq') (hr ▸ hr') (hc ▸ hret ▸ hc')

/-! ### The watcher's calls keep the configuration of the round -/

theorem Idle.next_loopRead (hs : Idle s) (h : next s .loopRead = some s') : Idle s' := by
  obtain ⟨hl, hq | hq, hr, hc⟩ := hs
  · simp [next, hl, hq] at h
  · simp only [next, hl, hq, if_pos, Option.some.injEq] at h
    subst h
    exact ⟨rfl, .inl rfl, hr, hc⟩

theorem InRound.next_loopRead {tail : List UInt8} (htail : tail = [] ∨ tail = [abort])
    (hs : InRound s tail) (h : next s .loopRead = some s') : InRound s' tail := by
  cases hs with
  | unread hl hq hr hc =>
    rcases hq with hq | hq
    · simp only [next, hl, hq, start_ne_abort, if_false, Option.some.injEq] at h
      subst h
      exact .waiting rfl rfl hr hc
    · simp only [next, hl, hq, if_pos, Option.some.injEq] at h
      subst h
      exact .unread rfl (.inl rfl) hr hc
  | waiting hl => simp [next, hl] at h
  | sending c hl => simp [next, hl] at h
  | answered c hl hq hr hc =>
    rcases hq with hq | hq <;> rcases htail with rfl | rfl
    · simp [next, hl, hq] at h
    · simp only [next, hl, hq, if_pos, Option.some.injEq] at h
      subst h
      exact .answered c rfl (.inr rfl) hr hc
    all_goals simp [next, hl, hq] at h

theorem InRound.next_loopWake {tail : List UInt8} {results : List WaitResult}
    (hs : InRound s tail) (h : next s (.loopWake results) = some s') : InRound s' tail := by
  cases hs with
  | waiting hl hq hr hc =>
    simp only [next, hl] at h
    split at h
    · simp only [Option.some.injEq] at h
      subst h
      exact .sending _ rfl hq hr (by simp [hc])
    · cases h
  | unread hl | sending _ hl | answered _ hl => simp [next, hl] at h

theorem InRound.next_loopSend {tail : List UInt8} (hs : InRound s tail)
    (h : next s .loopSend = some s') : InRound s' tail := by
  cases hs with
  | sending c hl hq hr hc =>
    simp only [next, hl, Option.some.injEq] at h
    subst h
    exact .answered c rfl (.inl hq) (by simp [hr]) hc
  | unread hl | waiting hl | answered _ hl => simp [next, hl] at h

/-- A call of the watcher leaves the server where it is; with the two lemmas above for each
configuration, it keeps the shape. -/
theorem Shape.of_loop (hs : Shape s) (hsv : s'.server = s.server) (hidle : Idle s → Idle s')
    (hround : ∀ tail, (tail = [] ∨ tail = [abort]) → InRound s tail → InRound s' tail) :
    Shape s' := by
  unfold Shape at hs ⊢
  rw [hsv]
  cases hsrv : s.server <;> simp only [hsrv] at hs
  · exact hidle hs
  all_goals first | exact hround _ (.inl rfl) hs | exact hround _ (.inr rfl) hs

/-! ### The server's calls move between the configurations -/

theorem shape_watcherStart (hs : Shape s) (h : next s .watcherStart = some s') : Shape s' := by
  simp only [next] at h
  split at h
  · rename_i hsv
    simp only [Option.some.injEq] at h
    subst h
    simp only [Shape, hsv] at hs
    obtain ⟨hl, hq, hr, hc⟩ := hs
    show InRound _ []
    exact .unread hl (by rcases hq with hq | hq <;> simp [hq]) hr hc
  · cases h

theorem shape_watcherStop (hs : Shape s) (h : next s .watcherStop = some s') : Shape s' := by
  simp only [next] at h
  split at h
  · rename_i hsv
    simp only [Option.some.injEq] at h
    subst h
    simp only [Shape, hsv] at hs
    by_cases hr : s.toServer = []
    · rw [Shape, if_pos hr]
      exact hs.of_eq rfl rfl rfl rfl rfl
    · rw [Shape, if_neg hr]
      cases hs with
      | answered c hl hq hr' hc => exact .answered c hl (.inr (by simpa using hq)) hr' hc
      | unread _ _ hr' | waiting _ _ hr' | sending _ _ _ hr' => exact absurd hr' hr
  · cases h

theorem shape_stopAbort (hs : Shape s) (h : next s .stopAbort = some s') : Shape s' := by
  simp only [next] at h
  split at h
  · rename_i hsv
    simp only [Option.some.injEq] at h
    subst h
    simp only [Shape, hsv] at hs
    show InRound _ [abort]
    cases hs with
    | unread hl hq hr hc => exact .unread hl (by rcases hq with hq | hq <;> simp [hq]) hr hc
    | waiting hl hq hr hc => exact .waiting hl (by simp [hq]) hr hc
    | sending c hl hq hr hc => exact .sending c hl (by simp [hq]) hr hc
    | answered c hl hq hr hc => exact .answered c hl (.inl (by simpa using hq)) hr hc
  · cases h

theorem shape_stopRead (hs : Shape s) (h : next s .stopRead = some s') : Shape s' := by
  simp only [next] at h
  split at h
  · rename_i c rest hsv hq
    simp only [Option.some.injEq] at h
    subst h
    simp only [Shape, hsv] at hs
    show Idle _
    cases hs with
    | answered c' hl hw hr hc =>
      simp only [hr, List.cons.injEq] at hq
      obtain ⟨rfl, rfl⟩ := hq
      exact ⟨hl, hw.symm, rfl, hc⟩
    | unread _ _ hr | waiting _ _ hr | sending _ _ _ hr => simp [hr] at hq
  · cases h

theorem shape_next {e : Event} (hs : Shape s) (h : next s e = some s') : Shape s' := by
  have hsv : ∀ {e : Event}, next s e = some s' → e = .loopRead ∨ (∃ r, e = .loopWake r) ∨
      e = .loopSend → s'.server = s.server := by
    intro e h he
    rcases he with rfl | ⟨r, rfl⟩ | rfl <;> simp only [next] at h <;> split at h <;>
      (try split at h) <;> simp only [Option.some.injEq, reduceCtorEq] at h <;> subst h <;> rfl
  cases e with
  | watcherStart => exact shape_watcherStart hs h
  | watcherStop => exact shape_watcherStop hs h
  | stopAbort => exact shape_stopAbort hs h
  | stopRead => exact shape_stopRead hs h
  | loopRead =>
    exact hs.of_loop (hsv h (.inl rfl)) (·.next_loopRead h) fun _ ht hr => hr.next_loopRead ht h
  | loopWake r =>
    exact hs.of_loop (hsv h (.inr (.inl ⟨r, rfl⟩)))
      (fun hi => by simp [next, hi.hloop] at h) fun _ _ hr => hr.next_loopWake h
  | loopSend =>
    exact hs.of_loop (hsv h (.inr (.inr rfl)))
      (fun hi => by simp [next, hi.hloop] at h) fun _ _ hr => hr.next_loopSend h

theorem inv_next {e : Event} (hs : Inv s) (h : next s e = some s') : Inv s' :=
  ⟨shape_next hs.shape h, (counts_next h hs.rounds hs.results).1,
    (counts_next h hs.rounds hs.results).2⟩

end Step

theorem inv_run {s s' : Channel} (events : List Event) (hs : Inv s) (h : run s events = some s') :
    Inv s' := by
  induction events generalizing s with
  | nil => simp only [run, Option.some.injEq] at h; exact h ▸ hs
  | cons e es ih =>
    simp only [run, Option.bind_eq_some] at h
    obtain ⟨t, ht, h⟩ := h
    exact ih (inv_next hs ht) h

/-! ## What the protocol guarantees -/

/-- The promises of the control channel in a state. -/
structure RoundTrip (s : Channel) : Prop where
  /-- a `stop` that returns now returns the byte computed in the round of the `START` that
  the preceding `start` wrote -/
  stopReturnsRound : ∀ s', next s .stopRead = some s' → ∃ c,
    s'.returned = s.returned ++ [c] ∧ s.computed = s.returned ++ [c] ∧ s.computed.length = s.starts
  /-- a result byte is computed for each `START` the watcher read, none for an `ABORT` -/
  resultPerStart : s.computed.length + (if s.loop = .waiting then 1 else 0) = s.startsRead
  /-- every `START` written is read once, in order -/
  startsConserved : s.startsRead + s.toWatcher.count start = s.starts
  oneInFlight : s.toServer.length ≤ 1
  /-- `stop` never waits for a result while the watcher waits for a command, or in
  `mx_waitset_wait` with the control channel unreadable -/
  noDeadlock : ¬ (s.server = .awaiting ∧ s.toServer = [] ∧ s.toWatcher = [] ∧
    (s.loop = .waitCmd ∨ s.loop = .waiting))

section Round

variable {s : Channel}

theorem InRound.startsConserved {tail : List UInt8} (hs : InRound s tail)
    (htail : tail.count start = 0) (hr : s.returned.length + 1 = s.starts)
    (hc : s.computed.length + (if s.loop = .waiting then 1 else 0) = s.startsRead) :
    s.startsRead + s.toWatcher.count start = s.starts := by
  cases hs with
  | unread hl hq _ hcr =>
    have hq1 : s.toWatcher.count start = 1 := by
      rcases hq with hq | hq <;>
        simp [hq, htail, List.count_cons_self, List.count_cons_of_ne abort_ne_start.symm]
    simp only [hl, hcr, reduceCtorEq, if_false] at hc
    omega
  | waiting hl hq _ hcr =>
    simp only [hl, hcr, if_true] at hc
    rw [hq, htail]
    omega
  | sending _ hl hq _ hcr =>
    simp only [hl, hcr, reduceCtorEq, if_false, List.length_append, List.length_singleton] at hc
    rw [hq, htail]
    omega
  | answered _ hl hq _ hcr =>
    simp only [hl, hcr, reduceCtorEq, if_false, List.length_append, List.length_singleton] at hc
    rcases hq with hq | hq <;> rw [hq] <;> simp only [htail, List.count_nil] <;> omega

theorem InRound.toServer_length {tail : List UInt8} (hs : InRound s tail) :
    s.toServer.length ≤ 1 := by
  cases hs <;> simp [*]

theorem InRound.not_stuck {tail : List UInt8} (hs : InRound s tail) (htail : tail ≠ [])
    (hr : s.toServer = []) : s.toWatcher ≠ [] ∨ ∃ c, s.loop = .sending c := by
  cases hs with
  | unread _ hq => rcases hq with hq | hq <;> simp [hq]
  | waiting _ hq => exact .inl (hq ▸ htail)
  | sending c hl => exact .inr ⟨c, hl⟩
  | answered _ _ _ hr' => simp [hr] at hr'

theorem InRound.stopRead_returns {tail : List UInt8} {s' : Channel} (hs : InRound s tail)
    (hsv : s.server = .awaiting) (h : next s .stopRead = some s') :
    ∃ c, s'.returned = s.returned ++ [c] ∧ s.computed = s.returned ++ [c] := by
  cases hs with
  | answered c _ _ hr hc =>
    simp only [next, hsv, hr, Option.some.injEq] at h
    exact ⟨c, h ▸ rfl, hc⟩
  | unread _ _ hr | waiting _ _ hr | sending _ _ _ hr => simp [next, hsv, hr] at h

theorem Inv.roundTrip (hs : Inv s) : RoundTrip s := by
  obtain ⟨hsh, hr, hc⟩ := hs
  unfold Shape at hsh
  have hcount : ∀ tail : List UInt8, tail = [] ∨ tail = [abort] → tail.count start = 0 := by
    rintro _ (rfl | rfl) <;> decide
  cases hsv : s.server <;>
    simp only [hsv, reduceCtorEq, if_true, if_false, Nat.add_zero] at hsh hr
  case idle =>
    obtain ⟨hl, hq, hrs, hcr⟩ := hsh
    refine ⟨fun s' h => by simp [next, hsv] at h, hc, ?_, by simp [hrs], by simp [hsv]⟩
    have hq0 : s.toWatcher.count start = 0 := by rcases hq with hq | hq <;> rw [hq] <;> decide
    simp only [hl, hcr, reduceCtorEq, if_false, Nat.add_zero] at hc
    omega
  all_goals first
    | exact ⟨fun s' h => by simp [next, hsv] at h, hc,
        hsh.startsConserved (hcount _ (.inl rfl)) hr hc, hsh.toServer_length, by simp [hsv]⟩
    | refine ⟨fun s' h => ?_, hc, hsh.startsConserved (hcount _ (.inr rfl)) hr hc,
        hsh.toServer_length, ?_⟩
      · obtain ⟨c, h1, h2⟩ := hsh.stopRead_returns hsv h
        exact ⟨c, h1, h2, by simp [h2, ← hr]⟩
      · rintro ⟨-, hrs, hw, hl⟩
        rcases hsh.not_stuck (by simp) hrs with h | ⟨c, hl'⟩
        · exact h hw
        · rcases hl with hl | hl <;> simp [hl] at hl'

end Round

/-- For every interleaving of the two threads from the start of the server, with any
wait-set results, every reachable state keeps the promises of the channel. -/
theorem watcher_control_round_trip (events : List Event) (s : Channel)
    (h : run {} events = some s) : RoundTrip s :=
  (inv_run events inv_init h).roundTrip

/-- `stop` probes before the watcher has read `START` and sends `ABORT`, which wakes the
watcher: it answers `0`.  The next round skips the stale `ABORT`, a state's entry fires,
and the result races `stop`'s probe, which sends another `ABORT`. -/
def abortRace : List Event :=
  [.watcherStart, .watcherStop, .stopAbort, .loopRead, .loopWake [⟨.ctrl, mxSocketReadable⟩],
    .loopSend, .stopRead,
    .watcherStart, .loopRead, .loopRead, .loopWake [⟨.ios 1, mxSocketReadable⟩], .watcherStop,
    .stopAbort, .loopSend, .stopRead]

theorem abortRace_round_trip : ∃ s, run {} abortRace = some s ∧ RoundTrip s :=
  ⟨_, rfl, watcher_control_round_trip abortRace _ rfl⟩

example : (run {} abortRace).map (fun s => (s.returned, s.toWatcher, s.interrupts)) =
    some ([0, 1], [abort], 1) := by
  decide

end Netstack.Control
