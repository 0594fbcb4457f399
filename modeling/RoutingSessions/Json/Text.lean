/-
  RoutingSessions.Json.Text — the texts of JSON, between quotes.

  Reading a text resolves its escapes; half of a surrogate pair alone is an error.
  Passing over a text only looks for its end, so there half a pair is as good as any
  escape.

  Main statements:
    * `length_of_readUnit`, `length_of_readNumericEscape` — an escape takes up text,
      so reading comes to an end.
-/
import RoutingSessions.Document.Node
import RoutingSessions.Handle

namespace RoutingSessions.Json

open RoutingSessions.Document

/-! ## Escapes -/

/-- The character that a short escape stands for. -/
def shortEscape? : Char → Option Char
  | '"' => some '"'
  | '\\' => some '\\'
  | '/' => some '/'
  | 'b' => some '\x08'
  | 'f' => some '\x0c'
  | 'n' => some '\n'
  | 'r' => some '\r'
  | 't' => some '\t'
  | _ => none

/-- The bytes that the text takes in UTF-8. -/
def utf8Size : List Char → Nat
  | [] => 0
  | c :: cs => c.utf8Size + utf8Size cs

/-- The code unit that four hexadecimal digits write, and the text after them. -/
def readUnit (s : List Char) : Except Fault (Nat × List Char) :=
  match s with
  | a :: b :: c :: d :: rest =>
    match Octets.numberFrom? 0 [a, b, c, d] with
    | some n => .ok (n, rest)
    | none => if utf8Size s < 4 then .error .cutShort else .error .malformed
  | s => if utf8Size s < 4 then .error .cutShort else .error .malformed

/-- A code unit that opens a surrogate pair. -/
def isHighSurrogate (n : Nat) : Bool := 0xD800 ≤ n && n ≤ 0xDBFF

/-- A code unit that closes a surrogate pair. -/
def isLowSurrogate (n : Nat) : Bool := 0xDC00 ≤ n && n ≤ 0xDFFF

/-- The character that a numeric escape stands for, and the text after it; `s` begins behind
the letter of the escape. -/
def readNumericEscape (s : List Char) : Except Fault (Char × List Char) :=
  match readUnit s with
  | .error f => .error f
  | .ok (n, rest) =>
    if isLowSurrogate n then .error .malformed
    else if isHighSurrogate n then
      match rest with
      | [] => .error .cutShort
      | ['\\'] => .error .cutShort
      | '\\' :: 'u' :: rest =>
        match readUnit rest with
        | .error f => .error f
        | .ok (m, rest) =>
          if isLowSurrogate m then
            .ok (Char.ofNat ((n - 0xD800) * 0x400 + (m - 0xDC00) + 0x10000), rest)
          else .error .malformed
      | _ => .error .malformed
    else .ok (Char.ofNat n, rest)

theorem length_of_readUnit {s rest : List Char} {n : Nat} (h : readUnit s = .ok (n, rest)) :
    rest.length < s.length := by
  unfold readUnit at h
  split at h
  · split at h
    · obtain ⟨_, rfl⟩ := Prod.mk.inj (Except.ok.inj h)
      simp only [List.length_cons]
      omega
    · split at h <;> cases h
  · split at h <;> cases h

theorem length_of_readNumericEscape {s rest : List Char} {c : Char}
    (h : readNumericEscape s = .ok (c, rest)) : rest.length < s.length := by
  unfold readNumericEscape at h
  split at h
  · cases h
  · rename_i n t hn
    have ht := length_of_readUnit hn
    split at h
    · cases h
    · split at h
      · split at h
        · cases h
        · cases h
        · split at h
          · cases h
          · rename_i m u hu
            have hu := length_of_readUnit hu
            split at h
            · obtain ⟨_, rfl⟩ := Prod.mk.inj (Except.ok.inj h)
              simp only [List.length_cons] at ht
              omega
            · cases h
        · cases h
      · obtain ⟨_, rfl⟩ := Prod.mk.inj (Except.ok.inj h)
        exact ht

/-! ## Whole texts -/

/-- The characters up to the closing quote, and the text after it. -/
def readText (s : List Char) : Except Fault (List Char × List Char) :=
  match s with
  | [] => .error .cutShort
  | '"' :: rest => .ok ([], rest)
  | ['\\'] => .error .cutShort
  | '\\' :: 'u' :: rest =>
    match h : readNumericEscape rest with
    | .error f => .error f
    | .ok (c, after) =>
      have := length_of_readNumericEscape h
      match readText after with
      | .error f => .error f
      | .ok (cs, tail) => .ok (c :: cs, tail)
  | '\\' :: e :: rest =>
    match shortEscape? e with
    | none => .error .malformed
    | some c =>
      match readText rest with
      | .error f => .error f
      | .ok (cs, tail) => .ok (c :: cs, tail)
  | c :: rest =>
    if c.toNat < 0x20 then .error .malformed
    else
      match readText rest with
      | .error f => .error f
      | .ok (cs, tail) => .ok (c :: cs, tail)
termination_by s.length
decreasing_by all_goals (simp_wf; try omega)

/-- The text after the closing quote, with escapes only passed over. -/
def skipText (s : List Char) : Except Fault (List Char) :=
  match s with
  | [] => .error .cutShort
  | '"' :: rest => .ok rest
  | ['\\'] => .error .cutShort
  | '\\' :: 'u' :: rest =>
    match h : readUnit rest with
    | .error f => .error f
    | .ok (_, after) =>
      have := length_of_readUnit h
      skipText after
  | '\\' :: e :: rest =>
    match shortEscape? e with
    | none => .error .malformed
    | some _ => skipText rest
  | c :: rest => if c.toNat < 0x20 then .error .malformed else skipText rest
termination_by s.length
decreasing_by all_goals (simp_wf; try omega)

/-! ## Writing -/

/-- A character as it stands between quotes. -/
def writeChar (c : Char) : List Char :=
  match c with
  | '"' => ['\\', '"']
  | '\\' => ['\\', '\\']
  | '\x08' => ['\\', 'b']
  | '\x0c' => ['\\', 'f']
  | '\n' => ['\\', 'n']
  | '\r' => ['\\', 'r']
  | '\t' => ['\\', 't']
  | c =>
    if c.toNat < 0x20 then
      ['\\', 'u', '0', '0', Octets.hexDigit (c.toNat / 16), Octets.hexDigit (c.toNat % 16)]
    else [c]

/-- A text between quotes. -/
def writeText (s : String) : List Char := '"' :: s.toList.flatMap writeChar ++ ['"']

end RoutingSessions.Json
