/-
Numbers in base 128, low digits first.

Every digit but the last has its high bit set.  A number has at most ten digits and counts
modulo 2 ^ 64, a size at most five; leading zeros are accepted.
-/

namespace RpcStubs.Wire

abbrev Bytes := List UInt8

/-- Read a number of at most so many digits.  Gives the number and what follows it. -/
def readDigits : Nat → Bytes → Option (Nat × Bytes)
  | 0, _ => none
  | _ + 1, [] => none
  | limit + 1, b :: bs =>
    if b.toNat < 128 then some (b.toNat, bs)
    else (readDigits limit bs).map fun (high, rest) => (b.toNat - 128 + 128 * high, rest)

/-- Read a number of 64 bits. -/
def readVarint (bs : Bytes) : Option (Nat × Bytes) :=
  (readDigits 10 bs).map fun (n, rest) => (n % UInt64.size, rest)

/-- Read a count of bytes. -/
def readSize : Bytes → Option (Nat × Bytes) :=
  readDigits 5

def writeVarint (n : Nat) : Bytes :=
  if n < 128 then [UInt8.ofNat n] else UInt8.ofNat (n % 128 + 128) :: writeVarint (n / 128)
termination_by n
decreasing_by omega

theorem length_lt_of_readDigits {limit : Nat} {bs rest : Bytes} {n : Nat}
    (h : readDigits limit bs = some (n, rest)) : rest.length < bs.length := by
  induction limit generalizing bs n with
  | zero => simp [readDigits] at h
  | succ limit ih =>
    cases bs with
    | nil => simp [readDigits] at h
    | cons b bs =>
      rw [readDigits] at h
      split at h
      · simp_all
      · obtain ⟨⟨high, rest'⟩, hr, he⟩ := Option.map_eq_some_iff.1 h
        cases he
        exact Nat.lt_succ_of_lt (ih hr)

theorem length_lt_of_readVarint {bs rest : Bytes} {n : Nat}
    (h : readVarint bs = some (n, rest)) : rest.length < bs.length := by
  obtain ⟨⟨m, rest'⟩, hr, he⟩ := Option.map_eq_some_iff.1 h
  cases he
  exact length_lt_of_readDigits hr

/-- The low 32 bits of a number, signed. -/
def int32 (n : Nat) : Int :=
  Int.bmod n UInt32.size

/-- The 64 bits that stand for a signed number. -/
def bits64 (n : Int) : Nat :=
  (n % UInt64.size).toNat

end RpcStubs.Wire
