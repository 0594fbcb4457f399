/-
  RoutingSessions.Handle — the identifiers that discovery gives to endpoints.

  An endpoint is known by sixteen bytes: twelve that name its participant and four
  that name the entity inside it.  Both are written as hexadecimal bytes joined by
  points.  Writing uses two lower-case digits for each byte; reading is lenient:
  white space around the text, a plus sign before a byte, either case, and any
  number of leading zeros.

  Main statement:
    * `length_readParts` — each part that is read becomes one byte, so the number of
      parts decides alone whether the length is right.
-/
import RoutingSessions.Text.Blank
import RoutingSessions.Text.Lines

namespace RoutingSessions

/-! ## Byte strings of a fixed length -/

/-- A string of exactly `n` bytes. -/
structure Octets (n : Nat) where
  toList : List UInt8
  length_eq : toList.length = n
deriving DecidableEq

namespace Octets

theorem toList_injective {n : Nat} {a b : Octets n} (h : a.toList = b.toList) : a = b := by
  cases a; cases b; cases h; rfl

instance {n : Nat} : Ord (Octets n) := ⟨compareOn (·.toList)⟩

instance {n : Nat} : Std.TransOrd (Octets n) :=
  inferInstanceAs (Std.TransCmp (compareOn (fun a : Octets n => a.toList)))

instance {n : Nat} : Std.LawfulEqOrd (Octets n) where
  eq_of_compare h := toList_injective (Std.LawfulEqOrd.eq_of_compare h)

/-- The byte string that repeats `b`. -/
def replicate (n : Nat) (b : UInt8) : Octets n := ⟨List.replicate n b, List.length_replicate⟩

/-- The list as a byte string of length `n`, if it has that length. -/
def ofList? (n : Nat) (l : List UInt8) : Option (Octets n) :=
  if h : l.length = n then some ⟨l, h⟩ else none

/-! ## Writing -/

/-- The lower-case hexadecimal digit of a number below sixteen. -/
def hexDigit (d : Nat) : Char :=
  if d < 10 then Char.ofNat (48 + d) else Char.ofNat (87 + d)

/-- A byte as two hexadecimal digits. -/
def writeByte (b : UInt8) : List Char := [hexDigit (b.toNat / 16), hexDigit (b.toNat % 16)]

/-- The bytes as pairs of hexadecimal digits, joined by points. -/
def write {n : Nat} (o : Octets n) : List Char := joinWith '.' (o.toList.map writeByte)

/-- The written form, as a string. -/
def text {n : Nat} (o : Octets n) : String := String.ofList o.write

/-! ## Reading -/

/-- The value of a hexadecimal digit of either case. -/
def digitValue? (c : Char) : Option Nat :=
  if '0' ≤ c ∧ c ≤ '9' then some (c.toNat - 48)
  else if 'a' ≤ c ∧ c ≤ 'f' then some (c.toNat - 87)
  else if 'A' ≤ c ∧ c ≤ 'F' then some (c.toNat - 55)
  else none

/-- The number that the digits write after those already worth `value`. -/
def numberFrom? (value : Nat) : List Char → Option Nat
  | [] => some value
  | c :: cs =>
    match digitValue? c with
    | some d => numberFrom? (16 * value + d) cs
    | none => none

/-- The number written by one or more hexadecimal digits, after an optional plus sign. -/
def number? : List Char → Option Nat
  | [] => none
  | '+' :: [] => none
  | '+' :: cs => numberFrom? 0 cs
  | cs => numberFrom? 0 cs

/-- The byte that a part of the text writes. -/
def readByte? (part : List Char) : Option UInt8 :=
  match number? part with
  | some v => if v ≤ 255 then some (UInt8.ofNat v) else none
  | none => none

end Octets

/-- Why a text is not a byte string of the length asked for. -/
inductive HandleError where
  /-- The text has `found` parts, not the `expected` number of bytes. -/
  | length (expected found : Nat)
  /-- The first part that writes no byte, as it stands in the text. -/
  | invalidByte (part : String)
deriving DecidableEq

/-- The wording of a handle error. -/
def HandleError.message : HandleError → String
  | .length expected found => s!"expected {expected} bytes, found {found}"
  | .invalidByte part => s!"invalid hex byte '{part}'"

namespace Octets

/-- The bytes that the parts write, or the first part that writes none. -/
def readParts : List (List Char) → Except HandleError (List UInt8)
  | [] => .ok []
  | p :: ps =>
    match readByte? p with
    | none => .error (.invalidByte (String.ofList p))
    | some b =>
      match readParts ps with
      | .ok bs => .ok (b :: bs)
      | .error e => .error e

theorem length_readParts {parts : List (List Char)} {bytes : List UInt8}
    (h : readParts parts = .ok bytes) : bytes.length = parts.length := by
  induction parts generalizing bytes with
  | nil =>
    have : bytes = [] := by simpa [readParts, eq_comm] using h
    simp [this]
  | cons p ps ih =>
    unfold readParts at h
    split at h
    · simp at h
    · split at h
      · rename_i b _ _ bs hbs
        have : bytes = b :: bs := (Except.ok.inj h).symm
        simp [this, ih hbs]
      · simp at h

/-- Reads `n` bytes; the number of parts is looked at before the parts. -/
def read (n : Nat) (s : List Char) : Except HandleError (Octets n) :=
  let parts := pieces '.' (trim s)
  if hn : parts.length = n then
    match hr : readParts parts with
    | .ok bytes => .ok ⟨bytes, (length_readParts hr).trans hn⟩
    | .error e => .error e
  else .error (.length n parts.length)

end Octets

/-! ## Handles -/

/-- The identifier of a participant. -/
abbrev ParticipantId := Octets 12

/-- The identifier of an endpoint. -/
abbrev Handle := Octets 16

namespace Handle

/-- The participant that owns the endpoint. -/
def participant (h : Handle) : ParticipantId :=
  ⟨h.toList.take 12, by rw [List.length_take, h.length_eq]; rfl⟩

/-- The part of the identifier that names the endpoint inside its participant. -/
def entity (h : Handle) : Octets 4 :=
  ⟨h.toList.drop 12, by rw [List.length_drop, h.length_eq]⟩

/-- The handle of entity `e` of participant `p`. -/
def ofParts (p : ParticipantId) (e : Octets 4) : Handle :=
  ⟨p.toList ++ e.toList, by rw [List.length_append, p.length_eq, e.length_eq]⟩

/-- Reads a handle. -/
def read (s : String) : Except HandleError Handle := Octets.read 16 s.toList

/-- The form in which diagnostics show a handle. -/
def debugText (h : Handle) : String := s!"InstanceHandle({h.text})"

end Handle

end RoutingSessions
