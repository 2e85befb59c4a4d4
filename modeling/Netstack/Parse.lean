import Netstack.Basic

/-!
# Paths of an `OPEN` request

`match_subdir` selects the sub-handler of an `OPEN` from the first segment of its path,
and `parse_socket_args` reads the `<domain>/<type>/<protocol>` triple of a `socket/...`
path with three calls of `strtol`.

`strtol` is the C library's; it is modelled after ISO C (7.22.1.4) as Magenta's musl-based
C library implements it: leading white space and one sign are accepted, a run without
digits converts nothing (the end pointer stays at the start and `errno` becomes
`EINVAL`), and a value outside `long` saturates with `errno = ERANGE`.  The `long` result
is stored in an `int`, which keeps its low 32 bits.
-/

namespace Netstack

def erange : Nat := 34

/-- `isspace` in the C locale. -/
def isSpace (c : Char) : Bool :=
  c = ' ' || c = '\t' || c = '\n' || c = '\x0b' || c = '\x0c' || c = '\r'

/-- `LONG_MAX` of a 64-bit `long`, `2^63 - 1`. -/
def longMax : Int := 9223372036854775807
/-- `LONG_MIN` of a 64-bit `long`, `-2^63`. -/
def longMin : Int := -9223372036854775808

/-- The value of a run of decimal digits. -/
def decimalValue (digits : List Char) : Nat :=
  digits.foldl (fun acc c => acc * 10 + (c.toNat - '0'.toNat)) 0

/-- `strtol(s, &end, 10)`: the value, the text at `end`, and the `errno` it sets (zero
when it leaves `errno` alone). -/
def strtol (s : List Char) : Int × List Char × Nat :=
  let t := s.dropWhile isSpace
  let (neg, t) := match t with
    | '-' :: r => (true, r)
    | '+' :: r => (false, r)
    | r => (false, r)
  let digits := t.takeWhile Char.isDigit
  let rest := t.dropWhile Char.isDigit
  if digits = [] then (0, s, einval)
  else
    let v : Int := if neg then -(decimalValue digits : Int) else decimalValue digits
    if longMax < v then (longMax, rest, erange)
    else if v < longMin then (longMin, rest, erange)
    else (v, rest, 0)

/-- The conversion of a `long` to `int`: the low 32 bits, read as two's complement
(`2^31 = 2147483648`, `2^32 = 4294967296`). -/
def toInt32 (v : Int) : Int := (v + 2147483648) % 4294967296 - 2147483648

def parseSocketArgs (path : List Char) : Except Status (Int × Int × Int) := do
  let (domain, ptr, e1) := strtol path
  if e1 ≠ 0 then throw errInvalidArgs
  let '/' :: ptr := ptr | throw errInvalidArgs
  let (type, ptr, e2) := strtol ptr
  if e2 ≠ 0 then throw errInvalidArgs
  let '/' :: ptr := ptr | throw errInvalidArgs
  let (protocol, ptr, e3) := strtol ptr
  if e3 ≠ 0 then throw errInvalidArgs
  if ptr ≠ [] then throw errInvalidArgs
  return (toInt32 domain, toInt32 type, toInt32 protocol)

/-- `match_subdir(path, name, strlen(name))`: the rest of the path after `name` and its
separator, when `name` is the path's first segment. -/
def matchSubdir (path name : List Char) : Option (List Char) :=
  if name.isPrefixOf path then
    match path.drop name.length with
    | [] => some []
    | '/' :: rest => some rest
    | _ => none
  else none

def mxrioSocketDirNone : List Char := "none".toList
def mxrioSocketDirSocket : List Char := "socket".toList
def mxrioSocketDirAccept : List Char := "accept".toList

/-- `SOCK_STREAM` and `SOCK_DGRAM`, as the paths `socket/2/1/0` and `socket/2/2/0` of the
design use them. -/
def sockStream : Int := 1
def sockDgram : Int := 2

/-! ## The paths of the design's grammar -/

/-- The value of a segment: its digits, negated after a `-`. -/
def signedValue (neg : Bool) (digits : List Char) : Int :=
  if neg then -(decimalValue digits : Int) else decimalValue digits

/-- A segment of a path `socket/<domain>/<type>/<protocol>` as the design describes it: a
nonempty run of ASCII decimal digits, after at most one `-`, whose value is an `int`. -/
structure SocketArg where
  neg : Bool
  digits : List Char
  nonempty : digits ≠ []
  decimal : ∀ c ∈ digits, c.isDigit = true
  inRange : -2147483648 ≤ signedValue neg digits ∧ signedValue neg digits ≤ 2147483647

namespace SocketArg

def text (a : SocketArg) : List Char := (if a.neg then ['-'] else []) ++ a.digits

def value (a : SocketArg) : Int := signedValue a.neg a.digits

/-- The text of a segment starts with `-` or a digit. -/
theorem text_head (a : SocketArg) : ∃ c r, a.text = c :: r ∧ (c = '-' ∨ c.isDigit = true) := by
  obtain ⟨neg, digits, hne, hdec, -⟩ := a
  obtain ⟨d, ds, rfl⟩ := List.exists_cons_of_ne_nil hne
  cases neg
  · exact ⟨d, ds, rfl, .inr (hdec d (List.mem_cons_self d ds))⟩
  · exact ⟨'-', d :: ds, rfl, .inl rfl⟩

theorem slash_not_mem_text (a : SocketArg) : '/' ∉ a.text := by
  intro h
  simp only [text, List.mem_append] at h
  rcases h with h | h
  · split at h <;> simp at h
  · exact absurd (a.decimal '/' h) (by decide)

end SocketArg

/-- The path `<domain>/<type>/<protocol>` of three segments. -/
def socketArgsText (a b c : SocketArg) : List Char := a.text ++ '/' :: (b.text ++ '/' :: c.text)

/-- The first segment of a path is everything before its first `/`. -/
theorem socketArgsText_takeWhile (a b c : SocketArg) :
    (socketArgsText a b c).takeWhile (· ≠ '/') = a.text := by
  have ha : ∀ x ∈ a.text, decide (x ≠ '/') = true := fun x hx => by
    simpa using fun h : x = '/' => a.slash_not_mem_text (h ▸ hx)
  rw [socketArgsText, List.takeWhile_append_of_pos ha]
  simp

/-- A path of the grammar starts with `-` or a digit. -/
theorem socketArgsText_ne_cons (a b c : SocketArg) {x : Char} (r : List Char)
    (hx : ¬(x = '-' ∨ x.isDigit = true)) : socketArgsText a b c ≠ x :: r := by
  obtain ⟨y, t, hy, hc⟩ := a.text_head
  rw [socketArgsText, hy, List.cons_append]
  exact fun h => hx ((List.cons.inj h).1 ▸ hc)

/-! ## `parse_socket_args` on the grammar -/

theorem isSpace_of_isDigit {c : Char} (h : c.isDigit = true) : isSpace c = false := by
  unfold isSpace
  by_contra hs
  simp only [Bool.not_eq_false, Bool.or_eq_true, decide_eq_true_eq] at hs
  rcases hs with ((((rfl | rfl) | rfl) | rfl) | rfl) | rfl <;> revert h <;> decide

/-- A run of digits with no digit after it. -/
theorem takeWhile_isDigit_digits {digits rest : List Char}
    (hdec : ∀ c ∈ digits, c.isDigit = true) (hrest : ∀ c ∈ rest.head?, c.isDigit = false) :
    (digits ++ rest).takeWhile Char.isDigit = digits ∧
      (digits ++ rest).dropWhile Char.isDigit = rest := by
  rw [List.takeWhile_append_of_pos hdec, List.dropWhile_append_of_pos hdec]
  cases rest with
  | nil => simp
  | cons c cs => simp [List.takeWhile_cons, List.dropWhile_cons, hrest c rfl]

theorem head_slash_not_digit (r : List Char) : ∀ c ∈ ('/' :: r).head?, c.isDigit = false := by
  simp only [List.head?_cons, Option.mem_def, Option.some.injEq]
  rintro c rfl
  decide

/-- `strtol` reads a segment as its value, without touching `errno`, and stops right after
it when no digit follows. -/
theorem strtol_socketArg (a : SocketArg) (rest : List Char)
    (hrest : ∀ c ∈ rest.head?, c.isDigit = false) :
    strtol (a.text ++ rest) = (a.value, rest, 0) := by
  obtain ⟨neg, digits, hne, hdec, hlo, hhi⟩ := a
  obtain ⟨d, ds, rfl⟩ := List.exists_cons_of_ne_nil hne
  have hd : d.isDigit = true := hdec d (List.mem_cons_self d ds)
  have htake : (d :: (ds ++ rest)).takeWhile Char.isDigit = d :: ds :=
    (takeWhile_isDigit_digits hdec hrest).1
  have hdrop : (d :: (ds ++ rest)).dropWhile Char.isDigit = rest :=
    (takeWhile_isDigit_digits hdec hrest).2
  have hmax : ¬longMax < signedValue neg (d :: ds) := by unfold longMax; omega
  have hmin : ¬signedValue neg (d :: ds) < longMin := by unfold longMin; omega
  cases neg with
  | true =>
    have hspace : ('-' :: d :: (ds ++ rest)).dropWhile isSpace = '-' :: d :: (ds ++ rest) :=
      List.dropWhile_cons_of_neg (by decide)
    simp only [signedValue, if_true] at hmax hmin
    simp only [SocketArg.text, SocketArg.value, signedValue, if_true, List.cons_append,
      List.nil_append, strtol, hspace]
    simp [htake, hdrop, hmax, hmin]
  | false =>
    have hminus : d ≠ '-' := by rintro rfl; revert hd; decide
    have hplus : d ≠ '+' := by rintro rfl; revert hd; decide
    have hspace : (d :: (ds ++ rest)).dropWhile isSpace = d :: (ds ++ rest) :=
      List.dropWhile_cons_of_neg (by simp [isSpace_of_isDigit hd])
    simp only [signedValue, Bool.false_eq_true, if_false] at hmax hmin
    simp only [SocketArg.text, SocketArg.value, signedValue, Bool.false_eq_true, if_false,
      List.nil_append, List.cons_append, strtol, hspace]
    simp [hminus, hplus, htake, hdrop, hmax, hmin]

/-- The narrowing to `int` keeps every `int`. -/
theorem toInt32_of_int {v : Int} (hlo : -2147483648 ≤ v) (hhi : v ≤ 2147483647) :
    toInt32 v = v := by
  unfold toInt32; omega

@[simp] theorem SocketArg.toInt32_value (a : SocketArg) : toInt32 a.value = a.value :=
  toInt32_of_int a.inRange.1 a.inRange.2

/-- Every path of the grammar is read as its three values. -/
theorem parseSocketArgs_socketArgsText (a b c : SocketArg) :
    parseSocketArgs (socketArgsText a b c) = .ok (a.value, b.value, c.value) := by
  have hc := strtol_socketArg c [] (by simp)
  rw [List.append_nil] at hc
  simp only [parseSocketArgs, socketArgsText, strtol_socketArg a _ (head_slash_not_digit _),
    strtol_socketArg b _ (head_slash_not_digit _), hc]
  simp [bind, Except.bind, pure, Except.pure]

example : parseSocketArgs "2/1/0".toList = .ok (2, 1, 0) := rfl

end Netstack
