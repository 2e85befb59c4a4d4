import Mathlib.Data.List.Nodup
import Netstack.State

/-!
# The buffer pool

`get_rwbuf` and `put_rwbuf` keep the free `rwbuf_t`s on a list headed by `rwbuf_head`:
`get_rwbuf` pops the head, or allocates a fresh buffer when the list is empty, and
`put_rwbuf` pushes a buffer back.  Buffers are never freed, so a fresh buffer has an
address no buffer had before.

A caller holds the buffers `get_rwbuf` gave it until it puts them back.  When every
`put_rwbuf` is given `NULL` or a buffer its caller holds, no address is twice on the free
list, none is both free and held, and no two holders hold the same buffer: `get_rwbuf`
never hands out a buffer that is still in use.
-/

namespace Netstack

/-- A call on the pool. -/
inductive PoolCall where
  | get
  | put (bufp : Option RwBuf)
  deriving DecidableEq, Repr

/-- The pool with its holders: the state, and the address of every buffer `get_rwbuf`
handed out and not yet put back, once per holder. -/
structure Pool where
  sys : Sys
  held : List Nat

namespace Pool

/-- One call: `get_rwbuf` hands its buffer to the caller, `put_rwbuf` takes one back. -/
def step (p : Pool) : PoolCall → Pool
  | .get => ⟨(getRwbuf p.sys).1, (getRwbuf p.sys).2.addr :: p.held⟩
  | .put none => ⟨putRwbuf p.sys none, p.held⟩
  | .put (some b) => ⟨putRwbuf p.sys (some b), p.held.erase b.addr⟩

def run (p : Pool) (calls : List PoolCall) : Pool := calls.foldl step p

/-- `put_rwbuf` is given `NULL` or a buffer its caller holds. -/
def Allowed (p : Pool) : PoolCall → Prop
  | .get => True
  | .put none => True
  | .put (some b) => b.addr ∈ p.held

instance (p : Pool) : (c : PoolCall) → Decidable (p.Allowed c)
  | .get => isTrue trivial
  | .put none => isTrue trivial
  | .put (some b) => inferInstanceAs (Decidable (b.addr ∈ p.held))

/-- Every call of a sequence is allowed on the pool it is made on. -/
def AllowedRun : Pool → List PoolCall → Prop
  | _, [] => True
  | p, c :: calls => p.Allowed c ∧ (p.step c).AllowedRun calls

instance decAllowedRun : (p : Pool) → (calls : List PoolCall) → Decidable (p.AllowedRun calls)
  | _, [] => isTrue trivial
  | p, c :: calls =>
    have := decAllowedRun (p.step c) calls
    inferInstanceAs (Decidable (p.Allowed c ∧ (p.step c).AllowedRun calls))

/-- The addresses of the free buffers, then of the held ones. -/
def addrs (p : Pool) : List Nat := p.sys.rwbufHead.map RwBuf.addr ++ p.held

/-- The pool invariant: no address twice among the free and the held buffers, and every
one below the address of the next fresh buffer. -/
structure Ok (p : Pool) : Prop where
  nodup : p.addrs.Nodup
  lt_next : ∀ a ∈ p.addrs, a < p.sys.nextBuf

theorem ok_init : Ok ⟨Sys.init, []⟩ := ⟨List.nodup_nil, fun _ h => by simp [addrs, Sys.init] at h⟩

/-- A pool whose addresses are those of a sound one, with no smaller next address, is sound. -/
theorem Ok.of_perm {p q : Pool} (hp : p.Ok) (hperm : q.addrs.Perm p.addrs)
    (hnext : p.sys.nextBuf ≤ q.sys.nextBuf) : q.Ok :=
  ⟨hperm.nodup_iff.mpr hp.nodup, fun a ha => (hp.lt_next a (hperm.subset ha)).trans_le hnext⟩

/-- The step lemma: an allowed call keeps the invariant. -/
theorem step_ok {p : Pool} (hp : p.Ok) (c : PoolCall) (hc : p.Allowed c) : (p.step c).Ok := by
  cases c with
  | get =>
    rcases hhead : p.sys.rwbufHead with _ | ⟨b, rest⟩
    · -- a fresh buffer, above every address in use
      have hfresh : p.sys.nextBuf ∉ p.held := fun h =>
        Nat.lt_irrefl _ (hp.lt_next _ (List.mem_append_right _ h))
      have hstep : p.step .get =
          ⟨{ p.sys with nextBuf := p.sys.nextBuf + 1 }, p.sys.nextBuf :: p.held⟩ := by
        simp [step, getRwbuf, hhead]
      rw [hstep]
      refine ⟨?_, fun a ha => ?_⟩
      · simpa [addrs, hhead] using ⟨hfresh, by simpa [addrs, hhead] using hp.nodup⟩
      · simp only [addrs, hhead, List.map_nil, List.nil_append, List.mem_cons] at ha
        rcases ha with rfl | ha
        · exact Nat.lt_succ_self _
        · exact Nat.lt_succ_of_lt (hp.lt_next a (by simp [addrs, hhead, ha]))
    · -- the head moves from the free list to the held ones
      refine hp.of_perm ?_ (by simp [step, getRwbuf, hhead])
      simp [step, getRwbuf, addrs, hhead]
  | put bufp =>
    cases bufp with
    | none => simpa [step, putRwbuf] using hp
    | some b =>
      -- the buffer moves from the held ones to the free list
      refine hp.of_perm ?_ le_rfl
      have hheld : (b.addr :: p.held.erase b.addr).Perm p.held := (List.perm_cons_erase hc).symm
      simpa [step, putRwbuf, addrs] using List.perm_middle.symm.trans (hheld.append_left _)

/-- The run lemma: every allowed sequence of calls keeps the invariant. -/
theorem run_ok {p : Pool} (hp : p.Ok) (calls : List PoolCall) (hrun : p.AllowedRun calls) :
    (p.run calls).Ok := by
  induction calls generalizing p with
  | nil => exact hp
  | cons c calls ih => exact ih (step_ok hp c hrun.1) hrun.2

/-- In a sound pool `get_rwbuf` hands out a buffer nobody holds. -/
theorem Ok.getRwbuf_not_held {p : Pool} (hp : p.Ok) : (getRwbuf p.sys).2.addr ∉ p.held := by
  have hdisj := (List.nodup_append.mp hp.nodup).2.2
  rcases hhead : p.sys.rwbufHead with _ | ⟨b, rest⟩
  · intro h
    simp only [getRwbuf, hhead] at h
    exact Nat.lt_irrefl _ (hp.lt_next _ (List.mem_append_right _ h))
  · simp only [getRwbuf, hhead]
    exact hdisj (by simp [hhead])

end Pool

/-- For every sequence of `get_rwbuf` and `put_rwbuf` calls in which `put_rwbuf` is only given
`NULL` or a buffer its caller holds, made on a sound pool such as the initial one: no
buffer is twice on the free list or both free and held, no two holders hold the same
buffer, and the next `get_rwbuf` hands out a buffer nobody holds. -/
theorem rwbufPool_never_aliases (p : Pool) (calls : List PoolCall) (hp : p.Ok)
    (hrun : p.AllowedRun calls) :
    let q : Pool := p.run calls
    (q.sys.rwbufHead.map RwBuf.addr).Nodup ∧ (∀ b ∈ q.sys.rwbufHead, b.addr ∉ q.held) ∧
      q.held.Nodup ∧ (getRwbuf q.sys).2.addr ∉ q.held := by
  have hq := Pool.run_ok hp calls hrun
  obtain ⟨hfree, hheld, hdisj⟩ := List.nodup_append.mp hq.nodup
  exact ⟨hfree, fun b hb => hdisj (List.mem_map_of_mem _ hb), hheld, hq.getRwbuf_not_held⟩

/-- Two connections take a buffer each; the first puts its buffer back, a third takes it. -/
def poolScript : List PoolCall := [.get, .get, .put (some ⟨1, []⟩), .get]

theorem rwbufPool_never_aliases_script :
    let p : Pool := ⟨Sys.init, []⟩
    p.Ok ∧ p.AllowedRun poolScript ∧
      let q : Pool := p.run poolScript
      (q.sys.rwbufHead.map RwBuf.addr).Nodup ∧ (∀ b ∈ q.sys.rwbufHead, b.addr ∉ q.held) ∧
        q.held.Nodup ∧ (getRwbuf q.sys).2.addr ∉ q.held :=
  ⟨Pool.ok_init, by decide, rwbufPool_never_aliases _ _ Pool.ok_init (by decide)⟩

end Netstack
