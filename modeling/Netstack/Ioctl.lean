import Netstack.Env

/-!
# Interface enumeration

The `IOCTL_NETC_GET_IF_INFO` branch of `do_ioctl` answers with a `netc_get_if_info_t`: it
asks `net_get_if_info` for interfaces 0, 1, ... in turn and copies each answer into
`data->info[index]`, until the stack fails, reports its last interface (a return of
zero), or `NETC_IF_INFO_MAX` entries are written.  `data->n_info` is the `index` the loop
stopped at.

`NETC_IF_INFO_MAX`, `NETC_IFNAME_SIZE` and the size of `netc_get_if_info_t` are defined in
`netconfig.h`, which is not among the sources, so they are parameters here.  The other
ioctls of `do_ioctl` are not modelled.
-/

namespace Netstack

/-- The sizes `netconfig.h` fixes. -/
structure Netconfig where
  /-- `NETC_IF_INFO_MAX`, the entries of `data->info` -/
  ifInfoMax : Nat
  /-- `NETC_IFNAME_SIZE`, the characters of an entry's `name` -/
  ifnameSize : Nat
  /-- `sizeof(netc_get_if_info_t)` -/
  getIfInfoSize : Nat
  ifInfoMax_pos : 0 < ifInfoMax

/-- `netc_if_info_t`, one entry of the reply. -/
structure NetcIfInfo where
  name : List Char
  addr : List Byte
  netmask : List Byte
  broadaddr : List Byte
  flags : Nat
  index : Nat
  hwaddrLen : Nat
  hwaddr : List Byte
  deriving DecidableEq, Repr

/-- The copy of an answer into its entry: `strncpy` of at most `NETC_IFNAME_SIZE`
characters of the name, the addresses, flags and index, and the `hwaddr_len` bytes of the
hardware address. -/
def NetIfInfo.toNetc (ifnameSize : Nat) (info : NetIfInfo) : NetcIfInfo where
  name := info.name.take ifnameSize
  addr := info.addr
  netmask := info.netmask
  broadaddr := info.broadaddr
  flags := info.flags
  index := info.index
  hwaddrLen := info.hwaddr.length
  hwaddr := info.hwaddr

/-- The variables of the loop: `index`, the last `ret` with the `errno` a failure left, and
the entries written into `data->info` so far. -/
structure IfInfoLoop where
  index : Nat
  ret : Int
  errno : Nat
  info : List NetcIfInfo

/-- The `for` loop of the branch, with `fuel` iterations left before `index` reaches
`NETC_IF_INFO_MAX`. -/
def getIfInfoLoop (net : Backend) (ifnameSize : Nat) : Nat → IfInfoLoop → IfInfoLoop
  | 0, st => st
  | fuel + 1, st =>
    match net.getIfInfo st.index with
    | .error e => { st with ret := -1, errno := e }
    | .ok (r, info) =>
      let st := { st with ret := r, info := st.info ++ [info.toNetc ifnameSize] }
      -- `if (ret == 0) break;`: this is the last interface
      if r = 0 then st else getIfInfoLoop net ifnameSize fuel { st with index := st.index + 1 }

/-- The reply of the branch: the status, `msg->datalen`, and the `n_info` and `info` of
`data`. -/
structure IfInfoReply where
  status : Status
  datalen : Nat
  nInfo : Nat
  info : List NetcIfInfo
  deriving DecidableEq, Repr

/-- `do_ioctl` on `IOCTL_NETC_GET_IF_INFO`.  The loop starts with `ret = -1`; since
`NETC_IF_INFO_MAX` is positive it runs at least once, so the `errno` it starts with, here
zero, is never read. -/
def doIoctlGetIfInfo (net : Backend) (cfg : Netconfig) : IfInfoReply :=
  let st := getIfInfoLoop net cfg.ifnameSize cfg.ifInfoMax ⟨0, -1, 0, []⟩
  if st.ret < 0 then ⟨errnoToStatus st.errno, 0, 0, st.info⟩
  else ⟨noError, cfg.getIfInfoSize, st.index, st.info⟩

/-- The stack reports the interfaces `ifs`: `net_get_if_info(i)` answers with interface `i`
for every `i` below their number, returning zero for the last and a positive value
before it. -/
def Backend.ReportsIfs (net : Backend) (ifs : List NetIfInfo) : Prop :=
  ∀ i (hi : i < ifs.length), ∃ r, net.getIfInfo i = .ok (r, ifs[i]) ∧ (r = 0 ↔ i + 1 = ifs.length)

section Loop

variable {net : Backend} {ifs : List NetIfInfo} (ifnameSize : Nat)

/-- From an index below the number of interfaces, the loop copies every interface up to
the last or until its iterations run out: it stops on the last interface, whose index it
keeps, or after `fuel` more, and its `ret` is then never negative. -/
theorem getIfInfoLoop_reports (hnet : net.ReportsIfs ifs) (fuel : Nat) (st : IfInfoLoop) (hidx : st.index < ifs.length)
    (hinfo : st.info = (ifs.take st.index).map (NetIfInfo.toNetc ifnameSize))
    (hret : 0 ≤ st.ret ∨ 0 < fuel) :
    let st' := getIfInfoLoop net ifnameSize fuel st
    st'.index = (if ifs.length ≤ st.index + fuel then ifs.length - 1 else st.index + fuel) ∧
      0 ≤ st'.ret ∧ st'.info = (ifs.take (st.index + fuel)).map (NetIfInfo.toNetc ifnameSize) := by
  induction fuel generalizing st with
  | zero =>
    simp only [Nat.lt_irrefl, or_false] at hret
    simp [getIfInfoLoop, hinfo, hret, Nat.not_le.mpr hidx]
  | succ n ih =>
    obtain ⟨r, hr, hlast⟩ := hnet st.index hidx
    have htake : (ifs.take (st.index + 1)).map (NetIfInfo.toNetc ifnameSize) =
        st.info ++ [ifs[st.index].toNetc ifnameSize] := by
      rw [hinfo, ← List.take_concat_get ifs st.index hidx]
      simp only [List.concat_eq_append, List.map_append, List.map_cons, List.map_nil]
    by_cases h0 : r = 0
    · -- `ret == 0`: the loop stops at the last interface
      have hk : st.index + 1 = ifs.length := hlast.mp h0
      simp only [getIfInfoLoop, hr, h0, if_true]
      refine ⟨by rw [if_pos (by omega)]; omega, by simp, ?_⟩
      rw [← htake, List.take_of_length_le (show ifs.length ≤ st.index + 1 by omega),
        List.take_of_length_le (show ifs.length ≤ st.index + (n + 1) by omega)]
    · -- `ret > 0`: on to the next interface
      have hk : st.index + 1 < ifs.length := by
        have := mt hlast.mpr h0; omega
      simp only [getIfInfoLoop, hr, h0, if_false]
      obtain ⟨hi, hr', hinf⟩ := ih { st with ret := r, info := st.info ++ [ifs[st.index].toNetc ifnameSize], index := st.index + 1 } hk
        htake.symm (.inl (Int.ofNat_zero_le r))
      have hn : st.index + 1 + n = st.index + (n + 1) := by omega
      dsimp only at hi hinf
      rw [hn] at hi hinf
      exact ⟨hi, hr', hinf⟩

end Loop

/-- On a stack that reports `k ≥ 1` interfaces, `GET_IF_INFO` succeeds and writes the first
`min k NETC_IF_INFO_MAX` of them into `data->info`, but when every interface fits it
counts one fewer: the loop leaves on the last interface by `break` before `index++`, so
`n_info` is `k - 1`, and `NETC_IF_INFO_MAX` only when there are more interfaces than
entries. -/
theorem doIoctlGetIfInfo_omits_last (cfg : Netconfig) (net : Backend) (ifs : List NetIfInfo)
    (hk : ifs ≠ []) (hnet : net.ReportsIfs ifs) :
    let reply : IfInfoReply := doIoctlGetIfInfo net cfg
    reply.status = noError ∧ reply.datalen = cfg.getIfInfoSize ∧
      reply.nInfo = (if ifs.length ≤ cfg.ifInfoMax then ifs.length - 1 else cfg.ifInfoMax) ∧
      reply.info = (ifs.take cfg.ifInfoMax).map (NetIfInfo.toNetc cfg.ifnameSize) := by
  obtain ⟨hi, hr, hinf⟩ := getIfInfoLoop_reports cfg.ifnameSize hnet cfg.ifInfoMax ⟨0, -1, 0, []⟩
    (List.length_pos.mpr hk) rfl (.inr cfg.ifInfoMax_pos)
  simp only [Nat.zero_add] at hi hinf
  simp [doIoctlGetIfInfo, not_lt.mpr hr, hi, hinf]

/-- The loopback interface alone. -/
def loopbackIf : NetIfInfo := ⟨"lo".toList, [127, 0, 0, 1], [255, 0, 0, 0], [127, 255, 255, 255], 0, 1, []⟩

/-- One interface and four entries: the reply holds the loopback entry but counts none. -/
theorem doIoctlGetIfInfo_omits_loopback :
    let cfg : Netconfig := ⟨4, 16, 4 + 4 * 64, by decide⟩
    let net : Backend := { Backend.wouldBlock with getIfInfo := fun _ => .ok (0, loopbackIf) }
    [loopbackIf] ≠ [] ∧ net.ReportsIfs [loopbackIf] ∧
      (doIoctlGetIfInfo net cfg).status = noError ∧ (doIoctlGetIfInfo net cfg).datalen = cfg.getIfInfoSize ∧
      (doIoctlGetIfInfo net cfg).nInfo = (if [loopbackIf].length ≤ cfg.ifInfoMax then [loopbackIf].length - 1 else cfg.ifInfoMax) ∧
      (doIoctlGetIfInfo net cfg).info = ([loopbackIf].take cfg.ifInfoMax).map (NetIfInfo.toNetc cfg.ifnameSize) :=
  have hnet : Backend.ReportsIfs { Backend.wouldBlock with getIfInfo := fun _ => .ok (0, loopbackIf) } [loopbackIf] := by
    intro i hi
    obtain rfl : i = 0 := by simpa using hi
    exact ⟨0, rfl, by simp⟩
  ⟨List.cons_ne_nil _ _, hnet, doIoctlGetIfInfo_omits_last _ _ _ (List.cons_ne_nil _ _) hnet⟩

example : (doIoctlGetIfInfo { Backend.wouldBlock with getIfInfo := fun _ => .ok (0, loopbackIf) }
    ⟨4, 16, 260, by decide⟩).nInfo = 0 := by decide

end Netstack
