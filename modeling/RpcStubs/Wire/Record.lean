/-
Encoded messages as lists of numbered values.

A value is a number, a run of bytes, or a group of values between two marks.  No schema message
uses groups, so that a group is checked for its marks and dropped.  The number of a field is not
zero, but nothing is asked of the numbers inside of a group.
-/
import RpcStubs.Wire.Varint

namespace RpcStubs.Wire

/-- A value as it is encoded, with the marks of groups. -/
inductive Token where
  | varint (n : Nat)
  | fixed64
  | bytes (payload : Bytes)
  | groupStart
  | groupEnd
  | fixed32
deriving DecidableEq, Repr

/-- A value with the number of its field. -/
structure Record where
  number : Nat
  token : Token
deriving DecidableEq, Repr

/-- The next bytes of a given count, and what follows them. -/
def takeBytes (count : Nat) (bs : Bytes) : Option (Bytes × Bytes) :=
  let payload := bs.take count
  if payload.length = count then some (payload, bs.drop count) else none

/-- Read a tag: at most five digits and 32 bits.  Gives the field number and the code of the
value's encoding. -/
def readTag (bs : Bytes) : Option ((Nat × Nat) × Bytes) :=
  match readDigits 5 bs with
  | some (tag, rest) =>
    if tag < UInt32.size then some ((tag / 8, tag % 8), rest) else none
  | none => none

/-- Read the value behind a tag. -/
def readToken (encoding : Nat) (bs : Bytes) : Option (Token × Bytes) :=
  match encoding with
  | 0 => (readVarint bs).map fun (n, rest) => (.varint n, rest)
  | 1 => (takeBytes 8 bs).map fun (_, rest) => (.fixed64, rest)
  | 2 => (readSize bs).bind fun (n, rest) =>
      (takeBytes n rest).map fun (payload, rest) => (.bytes payload, rest)
  | 3 => some (.groupStart, bs)
  | 4 => some (.groupEnd, bs)
  | 5 => (takeBytes 4 bs).map fun (_, rest) => (.fixed32, rest)
  | _ => none

theorem length_le_of_takeBytes {count : Nat} {bs payload rest : Bytes}
    (h : takeBytes count bs = some (payload, rest)) : rest.length ≤ bs.length := by
  simp only [takeBytes] at h
  split at h
  · simp only [Option.some.injEq, Prod.mk.injEq] at h
    rw [← h.2]
    simp
  · simp at h

theorem length_le_of_readToken {encoding : Nat} {bs rest : Bytes} {t : Token}
    (h : readToken encoding bs = some (t, rest)) : rest.length ≤ bs.length := by
  unfold readToken at h
  split at h
  · obtain ⟨⟨n, r⟩, hr, he⟩ := Option.map_eq_some_iff.1 h
    cases he
    exact Nat.le_of_lt (length_lt_of_readVarint hr)
  · obtain ⟨⟨p, r⟩, hr, he⟩ := Option.map_eq_some_iff.1 h
    cases he
    exact length_le_of_takeBytes hr
  · obtain ⟨⟨n, r⟩, hr, hb⟩ := Option.bind_eq_some_iff.1 h
    obtain ⟨⟨p, r'⟩, hp, he⟩ := Option.map_eq_some_iff.1 hb
    cases he
    exact Nat.le_trans (length_le_of_takeBytes hp) (Nat.le_of_lt (length_lt_of_readDigits hr))
  · cases h
    exact Nat.le_refl _
  · cases h
    exact Nat.le_refl _
  · obtain ⟨⟨p, r⟩, hr, he⟩ := Option.map_eq_some_iff.1 h
    cases he
    exact length_le_of_takeBytes hr
  · simp at h

theorem length_lt_of_readTag {bs rest : Bytes} {tag : Nat × Nat}
    (h : readTag bs = some (tag, rest)) : rest.length < bs.length := by
  unfold readTag at h
  split at h
  · next hr =>
    split at h
    · cases h
      exact length_lt_of_readDigits hr
    · simp at h
  · simp at h

/-- The values of encoded data, the marks of groups among them. -/
def readRecords (bs : Bytes) : Option (List Record) :=
  if bs.isEmpty then some []
  else match _ : readTag bs with
    | none => none
    | some ((number, encoding), rest) =>
      match _ : readToken encoding rest with
      | none => none
      | some (token, rest') => (readRecords rest').map (⟨number, token⟩ :: ·)
termination_by bs.length
decreasing_by
  exact Nat.lt_of_le_of_lt (length_le_of_readToken ‹_›) (length_lt_of_readTag ‹_›)

/-- The values outside of groups, if these have field numbers, every group is closed by a mark
with its own number, and fewer than `limit` are open at once.  `opened` are the groups that are
open at the start, the innermost first. -/
def dropGroups (limit : Nat) (opened : List Nat) : List Record → Option (List Record)
  | [] => if opened.isEmpty then some [] else none
  | r :: rs =>
    if opened.isEmpty ∧ r.number = 0 then none
    else match r.token, opened with
      | .groupStart, _ =>
        if opened.length + 1 < limit then dropGroups limit (r.number :: opened) rs else none
      | .groupEnd, number :: outer => if number = r.number then dropGroups limit outer rs else none
      | .groupEnd, [] => none
      | _, [] => (dropGroups limit [] rs).map (r :: ·)
      | _, _ :: _ => dropGroups limit opened rs

/-- The values of an encoded message, in which messages and groups may be nested so deep. -/
def records (limit : Nat) (bs : Bytes) : Option (List Record) :=
  (readRecords bs).bind (dropGroups limit [])

end RpcStubs.Wire
