import Mathlib.Data.List.MinMax
import Mathlib.Order.Nat
import Netstack.Dispatch

/-!
# The op word and the handler table

`handle_request` receives the op of a request as the `uint32_t` word of the RIO message,
read into an `int`.  It refuses the op when `MXRIO_OPNAME(op)`, the low byte of the word, is
at least `NUM_OPS`, and otherwise calls `do_funcs[op]`: the table is indexed by the whole
word.  `do_funcs` is an array of designated initializers, `[MXRIO_OPEN] = do_open` and so
on; the entries no initializer names are `NULL`, and the array ends at its largest index.

The op codes, `NUM_OPS` and `MXRIO_NUM_OPS` are defined in `mxio/remoteio.h` and in the
netstack's own header, which are not among the sources, so they are parameters here, and
`MXRIO_OPNAME` is modelled after the header as the low byte of the word.
-/

namespace Netstack

/-- The handlers `do_funcs` registers. -/
inductive DoFunc where
  | doOpen | doConnect | doBind | doListen | doIoctl | doGetaddrinfo | doGetsockname
  | doGetpeername | doGetsockopt | doSetsockopt | doWrite | doRead | doClose | doHalfclose
  | doSigconnR | doSigconnW
  deriving DecidableEq, Repr

/-- The initializers of `do_funcs`, in the order the source lists them. -/
def DoFunc.all : List DoFunc :=
  [.doOpen, .doConnect, .doBind, .doListen, .doIoctl, .doGetaddrinfo, .doGetsockname,
    .doGetpeername, .doGetsockopt, .doSetsockopt, .doWrite, .doRead, .doClose, .doHalfclose,
    .doSigconnR, .doSigconnW]

theorem DoFunc.mem_all (f : DoFunc) : f ∈ DoFunc.all := by
  cases f <;> decide

/-- The op codes the initializers of `do_funcs` name (`MXRIO_OPEN`, ..., `IO_SIGCONN_W`),
and the two bounds `handle_request` compares the name of an op with. -/
structure OpCodes where
  code : DoFunc → Nat
  /-- `NUM_OPS` -/
  numOps : Nat
  /-- `MXRIO_NUM_OPS` -/
  mxrioNumOps : Nat

/-- The entry of `do_funcs` of each op the model runs. -/
def Op.doFunc : Op → DoFunc
  | .mxrioOpen => .doOpen
  | .mxrioClose => .doClose
  | .mxrioConnect => .doConnect
  | .mxrioBind => .doBind
  | .mxrioListen => .doListen
  | .mxrioWrite => .doWrite
  | .mxrioRead => .doRead
  | .ioHalfclose => .doHalfclose
  | .ioSigconnR => .doSigconnR
  | .ioSigconnW => .doSigconnW

/-- The largest index an initializer of `do_funcs` names. -/
def OpCodes.maxCode (c : OpCodes) : Nat := (DoFunc.all.map c.code).foldr max 0

/-- `do_funcs`: entry `n` is the handler whose op code is `n`, the later initializer when
two name the same index, and `NULL` when none does. -/
def doFuncs (c : OpCodes) : List (Option DoFunc) :=
  (List.range (c.maxCode + 1)).map fun n => DoFunc.all.reverse.find? fun f => c.code f = n

/-- `MXRIO_OPNAME(op)`, a macro of `mxio/remoteio.h`, which is neither in the repository
nor in the spec: assumed to be `op & 0xFF`, the low byte of the word, which
`handle_request` checks against `NUM_OPS` before it indexes `do_funcs` by the whole word. -/
def mxrioOpname (op : Int) : Nat := (op % 256).toNat

/-- The C read `table[op]`: `none` when `op` lies outside the array. -/
def tableRead {α : Type} (table : List α) (op : Int) : Option α :=
  if 0 ≤ op then table[op.toNat]? else none

/-- What `handle_request` does with a request before any handler runs. -/
inductive OpDispatch where
  /-- `func(msg, ios, events, signals)` with the table's entry -/
  | call (f : DoFunc)
  /-- `goto err`: the request is freed, and answered with `ERR_INVALID_ARGS` when
  `invalidArgs` holds -/
  | err (invalidArgs : Bool)
  /-- `do_funcs[op]` is read outside the array -/
  | outOfBounds
  deriving DecidableEq, Repr

/-- The `err:` path: `MXRIO_OPNAME(op) < MXRIO_NUM_OPS` marks a RIO op, which is answered. -/
def handleRequestErr (c : OpCodes) (op : Int) : OpDispatch :=
  .err (decide (mxrioOpname op < c.mxrioNumOps))

/-- The op check and the table lookup of `handle_request`. -/
def handleRequestLookup (c : OpCodes) (op : Int) : OpDispatch :=
  if c.numOps ≤ mxrioOpname op then handleRequestErr c op
  else match tableRead (doFuncs c) op with
    | some (some f) => .call f
    | some none => handleRequestErr c op
    | none => .outOfBounds

@[simp] theorem length_doFuncs (c : OpCodes) : (doFuncs c).length = c.maxCode + 1 := by
  simp [doFuncs]

theorem code_le_maxCode (c : OpCodes) (f : DoFunc) : c.code f ≤ c.maxCode :=
  List.le_max_of_le (List.mem_map_of_mem _ (DoFunc.mem_all f)) le_rfl

theorem tableRead_eq_none {α : Type} (table : List α) (op : Int) :
    tableRead table op = none ↔ op < 0 ∨ table.length ≤ op := by
  unfold tableRead
  split <;> simp [List.getElem?_eq_none_iff] <;> omega

/-- With distinct op codes, the entry of `do_funcs` at an op code is the handler of that
code. -/
theorem doFuncs_code (c : OpCodes) (hinj : Function.Injective c.code) (f : DoFunc) :
    tableRead (doFuncs c) (c.code f) = some (some f) := by
  have hsome : (DoFunc.all.reverse.find? fun g => c.code g = c.code f).isSome :=
    List.find?_isSome.mpr ⟨f, List.mem_reverse.mpr (DoFunc.mem_all f), by simp⟩
  have hfind : DoFunc.all.reverse.find? (fun g => c.code g = c.code f) = some f := by
    obtain ⟨g, hg⟩ := Option.isSome_iff_exists.mp hsome
    have hcode : c.code g = c.code f := by simpa using List.find?_some hg
    rw [hg, hinj hcode]
  have hlt := code_le_maxCode c f
  simp [tableRead, doFuncs, List.getElem?_range (Nat.lt_succ_of_le hlt), hfind, Int.ofNat_zero_le]

theorem DoFunc.toCtorIdx_injective : Function.Injective DoFunc.toCtorIdx := fun a b h => by
  rw [← DoFunc.ofNat_toCtorIdx a, h, DoFunc.ofNat_toCtorIdx]

example : handleRequestLookup ⟨DoFunc.toCtorIdx, 16, 13⟩ (Op.doFunc .mxrioRead).toCtorIdx =
    .call .doRead := by decide

/-- The lookup reads outside `do_funcs` exactly for the ops whose name passes the check
while the whole word lies outside the array. -/
theorem handleRequestLookup_eq_outOfBounds (c : OpCodes) (op : Int) :
    handleRequestLookup c op = .outOfBounds ↔
      mxrioOpname op < c.numOps ∧ (op < 0 ∨ (doFuncs c).length ≤ op) := by
  unfold handleRequestLookup handleRequestErr
  split
  · simp only [reduceCtorEq, false_iff, not_and, not_or, not_lt]
    omega
  · rw [← tableRead_eq_none]
    split <;> simp_all

/-- `handle_request` checks only the low byte of the op word against `NUM_OPS`, but indexes
`do_funcs` with the whole word.  Every op whose low byte passes the check while the word
lies outside the table is read outside `do_funcs` instead of taking the `err` path; the
word `0xFFFFFF00`, `-256` as an `int`, is one of them whatever the op codes. -/
theorem handleRequest_indexes_past_doFuncs (c : OpCodes) (hnum : 0 < c.numOps) :
    (∀ op : Int, handleRequestLookup c op = .outOfBounds ↔
      mxrioOpname op < c.numOps ∧ (op < 0 ∨ (doFuncs c).length ≤ op)) ∧
    handleRequestLookup c (-256) = .outOfBounds :=
  ⟨handleRequestLookup_eq_outOfBounds c,
    (handleRequestLookup_eq_outOfBounds c _).mpr ⟨by simpa [mxrioOpname] using hnum, .inl (by decide)⟩⟩

/-- The op codes by the order of the initializers, sixteen ops of which thirteen are RIO
ops. -/
theorem handleRequest_indexes_past_doFuncs_ctorIdx :
    let c : OpCodes := ⟨DoFunc.toCtorIdx, 16, 13⟩
    0 < c.numOps ∧
      (∀ op : Int, handleRequestLookup c op = .outOfBounds ↔
        mxrioOpname op < c.numOps ∧ (op < 0 ∨ (doFuncs c).length ≤ op)) ∧
      handleRequestLookup c (-256) = .outOfBounds :=
  ⟨by decide, handleRequest_indexes_past_doFuncs _ (by decide)⟩

end Netstack