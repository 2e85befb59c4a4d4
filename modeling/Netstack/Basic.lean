import Mathlib.Data.PNat.Defs

/-!
# Status codes, errno values and signal sets

The vocabulary shared by every handler of `socket_functions.c` and `handle_watcher.c`:
kernel statuses (`mx_status_t`), the backend's `errno` values and their translation
`errno_to_status`, and the signal and event masks the handlers arm.

The kernel and C-library headers that give these names their numbers are not among the
sources.  The code only ever tests a status for being negative or for equality with a
named one, and tests a signal mask bit by bit, so the values below are representative
negative codes and the masks are records with one flag per named signal.
-/

namespace Netstack

abbrev Byte := UInt8

/-- A kernel handle; `mxHandleInvalid` is `MX_HANDLE_INVALID`. -/
abbrev Handle := Nat

def mxHandleInvalid : Handle := 0

/-! ## Kernel statuses -/

/-- `mx_status_t`: zero or positive on success, negative on failure. -/
abbrev Status := Int

def noError : Status := 0
def errInternal : Status := -1
def errNotSupported : Status := -2
def errNoMemory : Status := -4
def errNoResources : Status := -5
def errInvalidArgs : Status := -10
def errBadHandle : Status := -11
def errBadState : Status := -20
def errShouldWait : Status := -22
def errTimedOut : Status := -23
def errPeerClosed : Status := -24
def errAccessDenied : Status := -30
def errIo : Status := -40

/-- The two sentinels `socket_functions.c` defines for a handler that suspends. -/
def pendingNet : Status := -99999
def pendingSocket : Status := -99998

/-! ## Backend errno values -/

def eio : Nat := 5
def ebadf : Nat := 9
def ewouldblock : Nat := 11
def enomem : Nat := 12
def eacces : Nat := 13
def einval : Nat := 22
def enobufs : Nat := 105
def einprogress : Nat := 115

/-- A backend call either returns a value or fails and sets a positive `errno`. -/
abbrev NetResult (α : Type) := Except ℕ+ α

/-- `(ret < 0) ? errno : 0`, the idiom every handler uses after a backend call. -/
def NetResult.errno {α : Type} : NetResult α → Nat
  | .error e => e
  | .ok _ => 0

@[simp] theorem NetResult.errno_ok {α : Type} (a : α) :
    NetResult.errno (.ok a : NetResult α) = 0 := rfl

@[simp] theorem NetResult.errno_error {α : Type} (e : ℕ+) :
    NetResult.errno (.error e : NetResult α) = e := rfl

def errnoToStatus (errno_ : Nat) : Status :=
  if errno_ = eacces then errAccessDenied
  else if errno_ = ebadf then errBadHandle
  else if errno_ = einprogress then errShouldWait
  else if errno_ = einval then errInvalidArgs
  else if errno_ = eio then errIo
  else if errno_ = enobufs then errNoResources
  else if errno_ = enomem then errNoMemory
  else if errno_ = ewouldblock then errShouldWait
  else errIo

/-- A choice between two failure statuses is a failure status. -/
theorem ite_lt_zero {p : Prop} [Decidable p] {a b : Status} (ha : a < 0) (hb : b < 0) :
    (if p then a else b) < 0 := by
  split <;> assumption

/-- Every errno maps to a failure status, so a handler that returns
`errnoToStatus errno_` never reports success. -/
theorem errnoToStatus_neg (errno_ : Nat) : errnoToStatus errno_ < 0 := by
  unfold errnoToStatus
  repeat' apply ite_lt_zero
  all_goals decide

/-! ## Signal sets -/

/-- An `mx_signals_t` mask, one flag per signal the handlers read or arm: the object
signals of a socket or channel end, and the user signals of `mxio/socket.h`. -/
structure Signals where
  readable : Bool := false
  writable : Bool := false
  peerClosed : Bool := false
  halfClosed : Bool := false
  incoming : Bool := false
  outgoing : Bool := false
  connected : Bool := false
  deriving DecidableEq, Repr

namespace Signals

/-- Combine two masks flag by flag. -/
def zipWith (f : Bool → Bool → Bool) (a b : Signals) : Signals :=
  ⟨f a.readable b.readable, f a.writable b.writable, f a.peerClosed b.peerClosed,
    f a.halfClosed b.halfClosed, f a.incoming b.incoming, f a.outgoing b.outgoing,
    f a.connected b.connected⟩

instance : AndOp Signals := ⟨zipWith (· && ·)⟩
instance : OrOp Signals := ⟨zipWith (· || ·)⟩
instance : Complement Signals :=
  ⟨fun a => ⟨!a.readable, !a.writable, !a.peerClosed, !a.halfClosed, !a.incoming,
    !a.outgoing, !a.connected⟩⟩

@[simp] theorem and_readable (a b : Signals) :
    (a &&& b).readable = (a.readable && b.readable) := rfl
@[simp] theorem or_readable (a b : Signals) :
    (a ||| b).readable = (a.readable || b.readable) := rfl
@[simp] theorem and_incoming (a b : Signals) :
    (a &&& b).incoming = (a.incoming && b.incoming) := rfl
@[simp] theorem or_incoming (a b : Signals) :
    (a ||| b).incoming = (a.incoming || b.incoming) := rfl
@[simp] theorem complement_incoming (a : Signals) : (~~~a).incoming = !a.incoming := rfl

end Signals

def mxSignalNone : Signals := {}
def mxSocketReadable : Signals := { readable := true }
def mxSocketWritable : Signals := { writable := true }
def mxSocketPeerClosed : Signals := { peerClosed := true }
def mxsioSignalHalfclosed : Signals := { halfClosed := true }
def mxsioSignalIncoming : Signals := { incoming := true }
def mxsioSignalOutgoing : Signals := { outgoing := true }
def mxsioSignalConnected : Signals := { connected := true }

/-! ## Readiness events of the net multiplexer -/

/-- The per-descriptor event mask of `fd_event_set` and `fd_event_clear`. -/
structure Events where
  read : Bool := false
  write : Bool := false
  except : Bool := false
  deriving DecidableEq, Repr

def eventNone : Events := {}
def eventRead : Events := { read := true }
def eventWrite : Events := { write := true }
def eventExcept : Events := { except := true }
def eventAll : Events := { read := true, write := true, except := true }

/-- The three kinds of `iostate_t`, fixed when the state is created. -/
inductive HandleType where
  | none
  | stream
  | dgram
  deriving DecidableEq, Repr

end Netstack
