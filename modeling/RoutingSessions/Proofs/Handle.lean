/-
  RoutingSessions.Proofs.Handle — which texts name a handle, and what is said of the
  others.

  A part of a handle writes a byte if it is a number in hexadecimal digits, below 256,
  with an optional plus sign before it; leading zeros do not matter, so a byte has no
  end of spellings.  The number of parts is looked at first, and then the parts from
  the left.

  Main statements:
    * `readByte?_eq_some` — the parts that write a byte.
    * `readParts_eq_ok`, `readParts_eq_error` — the first part that writes none decides.
    * `read_append_write` — what is written reads back, with white space around it.
    * `read_exact` — all of this, for every text and every number of bytes.
-/
import Mathlib.Data.List.Forall2
import Mathlib.Data.Nat.Digits.Defs
import RoutingSessions.Handle
import RoutingSessions.Proofs.Text

namespace RoutingSessions

namespace Octets

/-! ## §1. Digits. -/

section Digits

variable {c : Char} {d value n : Nat} {digits : List Char}

/-- The character is the hexadecimal digit of that value, in one of the two cases. -/
def IsDigit (c : Char) (d : Nat) : Prop :=
  "0123456789abcdef".toList[d]? = some c ∨ "0123456789ABCDEF".toList[d]? = some c

theorem digitValue?_of_getElem? : ∀ d < 16,
    ("0123456789abcdef".toList[d]?).bind digitValue? = some d
      ∧ ("0123456789ABCDEF".toList[d]?).bind digitValue? = some d := by
  decide

theorem isDigit_ofNat : ∀ d < 16,
    (d < 10 → IsDigit (Char.ofNat (d + 48)) d)
      ∧ (10 ≤ d → IsDigit (Char.ofNat (d + 87)) d ∧ IsDigit (Char.ofNat (d + 55)) d) := by
  unfold IsDigit
  decide

theorem lt_of_isDigit (h : IsDigit c d) : d < 16 := by
  rcases h with h | h
  · exact (List.getElem?_eq_some_iff.1 h).1
  · exact (List.getElem?_eq_some_iff.1 h).1

theorem digitValue?_eq_some : digitValue? c = some d ↔ IsDigit c d := by
  constructor
  · intro h
    -- the character, counted from the number below its range
    have hchar : ∀ base, base ≤ c.toNat → c.toNat - base = d → c = Char.ofNat (d + base) := by
      intro base hbase hd
      rw [← hd, Nat.sub_add_cancel hbase, Char.ofNat_toNat]
    unfold digitValue? at h
    split at h
    next hc =>
      have hlow : 48 ≤ c.toNat := hc.1
      have hhigh : c.toNat ≤ 57 := hc.2
      have hd := Option.some.inj h
      rw [hchar 48 (by omega) hd]
      exact (isDigit_ofNat d (by omega)).1 (by omega)
    next =>
      split at h
      next hc =>
        have hlow : 97 ≤ c.toNat := hc.1
        have hhigh : c.toNat ≤ 102 := hc.2
        have hd := Option.some.inj h
        rw [hchar 87 (by omega) hd]
        exact ((isDigit_ofNat d (by omega)).2 (by omega)).1
      next =>
        split at h
        next hc =>
          have hlow : 65 ≤ c.toNat := hc.1
          have hhigh : c.toNat ≤ 70 := hc.2
          have hd := Option.some.inj h
          rw [hchar 55 (by omega) hd]
          exact ((isDigit_ofNat d (by omega)).2 (by omega)).2
        next => cases h
  · intro h
    have hvalue := digitValue?_of_getElem? d (lt_of_isDigit h)
    rcases h with h | h
    · rw [h] at hvalue
      exact hvalue.1
    · rw [h] at hvalue
      exact hvalue.2

theorem isDigit_hexDigit : ∀ d < 16, IsDigit (hexDigit d) d := by
  unfold IsDigit
  decide

/-- **What digits are worth** after those read before. -/
theorem numberFrom?_eq_some :
    numberFrom? value digits = some n ↔
      ∃ values, List.Forall₂ IsDigit digits values
        ∧ n = value * 16 ^ digits.length + Nat.ofDigits 16 values.reverse := by
  induction digits generalizing value with
  | nil =>
    constructor
    · intro h
      have hn : value = n := Option.some.inj h
      exact ⟨[], .nil, by simp [hn]⟩
    · intro h
      obtain ⟨values, hvalues, hn⟩ := h
      cases hvalues
      rw [hn]
      simp [numberFrom?]
  | cons c digits ih =>
    -- the digit is worth as much as its place says
    have hplace : ∀ d values, List.Forall₂ IsDigit digits values →
        (16 * value + d) * 16 ^ digits.length + Nat.ofDigits 16 values.reverse
          = value * 16 ^ (digits.length + 1) + Nat.ofDigits 16 (d :: values).reverse := by
      intro d values hvalues
      rw [List.reverse_cons, Nat.ofDigits_append, Nat.ofDigits_singleton, List.length_reverse,
        ← hvalues.length_eq, Nat.pow_succ]
      ring
    unfold numberFrom?
    constructor
    · intro h
      split at h
      next d hd =>
        obtain ⟨values, hvalues, hn⟩ := ih.1 h
        refine ⟨d :: values, .cons (digitValue?_eq_some.1 hd) hvalues, ?_⟩
        rw [hn]
        exact hplace d values hvalues
      next => cases h
    · intro h
      obtain ⟨_, hvalues, hn⟩ := h
      cases hvalues with
      | @cons _ d _ values hd hvalues =>
        rw [digitValue?_eq_some.2 hd]
        apply ih.2
        refine ⟨values, hvalues, ?_⟩
        rw [hn]
        exact (hplace d values hvalues).symm

end Digits

/-! ## §2. Numbers and bytes. -/

section Bytes

variable {part : List Char} {n : Nat} {b : UInt8}

/-- The text writes the number: one or more digits, the most significant first, and perhaps a
plus sign before them. -/
def WritesNumber (part : List Char) (n : Nat) : Prop :=
  ∃ sign digits values, (sign = [] ∨ sign = ['+']) ∧ part = sign ++ digits ∧ digits ≠ []
    ∧ List.Forall₂ IsDigit digits values ∧ n = Nat.ofDigits 16 values.reverse

/-- The text writes the byte. -/
def WritesByte (part : List Char) (b : UInt8) : Prop := WritesNumber part b.toNat

theorem not_isDigit_plus {d : Nat} : ¬IsDigit '+' d := by
  intro h
  cases digitValue?_eq_some.2 h

theorem numberFrom?_zero {digits : List Char} :
    numberFrom? 0 digits = some n ↔
      ∃ values, List.Forall₂ IsDigit digits values ∧ n = Nat.ofDigits 16 values.reverse := by
  rw [numberFrom?_eq_some]
  simp only [Nat.zero_mul, Nat.zero_add]

theorem number?_plus {digits : List Char} (hne : digits ≠ []) :
    number? ('+' :: digits) = numberFrom? 0 digits := by
  cases digits with
  | nil => exact absurd rfl hne
  | cons c digits => rfl

theorem number?_cons {c : Char} {digits : List Char} (hc : c ≠ '+') :
    number? (c :: digits) = numberFrom? 0 (c :: digits) := by
  unfold number?
  split <;> simp_all

theorem number?_eq_some : number? part = some n ↔ WritesNumber part n := by
  constructor
  · intro h
    cases part with
    | nil => cases h
    | cons c digits =>
      by_cases hc : c = '+'
      · subst hc
        have hne : digits ≠ [] := by
          intro hnil
          rw [hnil] at h
          cases h
        rw [number?_plus hne] at h
        obtain ⟨values, hvalues, hn⟩ := numberFrom?_zero.1 h
        exact ⟨['+'], digits, values, .inr rfl, rfl, hne, hvalues, hn⟩
      · rw [number?_cons hc] at h
        obtain ⟨values, hvalues, hn⟩ := numberFrom?_zero.1 h
        exact ⟨[], c :: digits, values, .inl rfl, rfl, List.cons_ne_nil _ _, hvalues, hn⟩
  · intro h
    obtain ⟨sign, digits, values, hsign, rfl, hne, hvalues, hn⟩ := h
    have hnumber : numberFrom? 0 digits = some n := numberFrom?_zero.2 ⟨values, hvalues, hn⟩
    rcases hsign with rfl | rfl
    · cases hvalues with
      | nil => exact absurd rfl hne
      | @cons c _ _ _ hc _ =>
        -- a plus sign is no digit
        have hplus : c ≠ '+' := by
          intro heq
          rw [heq] at hc
          exact not_isDigit_plus hc
        show number? (c :: _) = some n
        rw [number?_cons hplus]
        exact hnumber
    · show number? ('+' :: digits) = some n
      rw [number?_plus hne]
      exact hnumber

/-- **The parts that write a byte.** -/
theorem readByte?_eq_some : readByte? part = some b ↔ WritesByte part b := by
  unfold readByte? WritesByte
  rw [← number?_eq_some]
  constructor
  · intro h
    split at h
    next v hv =>
      split at h
      next hle =>
        have hb : UInt8.ofNat v = b := Option.some.inj h
        have hsame : b.toNat = v := by
          rw [← hb, UInt8.toNat_ofNat']
          omega
        rw [hsame]
        exact hv
      next => cases h
    next => cases h
  · intro h
    have hle : b.toNat ≤ 255 := Nat.le_of_lt_succ b.toNat_lt
    rw [h]
    show (if b.toNat ≤ 255 then some (UInt8.ofNat b.toNat) else none) = some b
    rw [if_pos hle, UInt8.ofNat_toNat]

theorem readByte?_eq_none : readByte? part = none ↔ ∀ b, ¬WritesByte part b := by
  rw [Option.eq_none_iff_forall_ne_some]
  simp only [ne_eq, readByte?_eq_some]

/-- What is written for a byte writes it. -/
theorem writesByte_writeByte (b : UInt8) : WritesByte (writeByte b) b := by
  have hb := b.toNat_lt
  have hhigh : IsDigit (hexDigit (b.toNat / 16)) (b.toNat / 16) := isDigit_hexDigit _ (by omega)
  have hlow : IsDigit (hexDigit (b.toNat % 16)) (b.toNat % 16) := isDigit_hexDigit _ (by omega)
  refine ⟨[], writeByte b, [b.toNat / 16, b.toNat % 16], .inl rfl, rfl, List.cons_ne_nil _ _,
    .cons hhigh (.cons hlow .nil), ?_⟩
  show b.toNat = Nat.ofDigits 16 [b.toNat % 16, b.toNat / 16]
  rw [Nat.ofDigits_cons, Nat.ofDigits_singleton]
  omega

end Bytes

/-! ## §3. Parts. -/

section Parts

variable {parts : List (List Char)} {bytes : List UInt8} {e : HandleError}

theorem readParts_eq_ok : readParts parts = .ok bytes ↔ List.Forall₂ WritesByte parts bytes := by
  induction parts generalizing bytes with
  | nil =>
    rw [List.forall₂_nil_left_iff]
    show Except.ok [] = Except.ok bytes ↔ _
    rw [Except.ok.injEq, eq_comm]
  | cons p parts ih =>
    unfold readParts
    constructor
    · intro h
      split at h
      next => cases h
      next b hb =>
        split at h
        next rest hrest =>
          cases h
          exact .cons (readByte?_eq_some.1 hb) (ih.1 hrest)
        next => cases h
    · intro h
      cases h with
      | cons hb hrest =>
        rw [readByte?_eq_some.2 hb, ih.2 hrest]

/-- **The first part that writes no byte** is what is said of the parts. -/
theorem readParts_eq_error :
    readParts parts = .error e ↔
      ∃ good bad rest, parts = good ++ bad :: rest ∧ (∀ p ∈ good, ∃ b, WritesByte p b)
        ∧ (∀ b, ¬WritesByte bad b) ∧ e = .invalidByte (String.ofList bad) := by
  induction parts with
  | nil =>
    constructor
    · intro h
      cases h
    · intro h
      obtain ⟨good, bad, rest, h, _⟩ := h
      cases good <;> cases h
  | cons p parts ih =>
    unfold readParts
    constructor
    · intro h
      split at h
      next hp =>
        cases h
        refine ⟨[], p, parts, rfl, ?_, readByte?_eq_none.1 hp, rfl⟩
        intro q hq
        cases hq
      next b hb =>
        split at h
        next => cases h
        next e' he =>
          cases h
          obtain ⟨good, bad, rest, rfl, hgood, hbad, rfl⟩ := ih.1 he
          refine ⟨p :: good, bad, rest, rfl, ?_, hbad, rfl⟩
          intro q hq
          cases hq with
          | head => exact ⟨b, readByte?_eq_some.1 hb⟩
          | tail _ hq => exact hgood q hq
    · intro h
      obtain ⟨good, bad, rest, hparts, hgood, hbad, he⟩ := h
      cases good with
      | nil =>
        cases hparts
        rw [readByte?_eq_none.2 hbad, he]
      | cons q good =>
        rw [List.cons_append] at hparts
        obtain ⟨rfl, rfl⟩ := List.cons.inj hparts
        obtain ⟨b, hb⟩ := hgood p (List.mem_cons_self ..)
        have hrest : readParts (good ++ bad :: rest) = .error e := by
          apply ih.2
          refine ⟨good, bad, rest, rfl, ?_, hbad, he⟩
          intro r hr
          exact hgood r (List.mem_cons_of_mem _ hr)
        rw [readByte?_eq_some.2 hb]
        dsimp only
        rw [hrest]

end Parts

/-! ## §4. Whole texts. -/

section Texts

variable {n : Nat} {s lead tail : List Char} {o : Octets n}

theorem read_of_length_ne (h : (pieces '.' (trim s)).length ≠ n) :
    read n s = .error (.length n (pieces '.' (trim s)).length) := by
  unfold read
  exact dif_neg h

theorem read_of_length_eq (h : (pieces '.' (trim s)).length = n) :
    (read n s).map toList = readParts (pieces '.' (trim s)) := by
  unfold read
  simp only
  rw [dif_pos h]
  split
  next bytes hbytes => exact hbytes.symm
  next e he => exact he.symm

/-- **The texts that are read**: as many parts as bytes are asked for, each of which writes one. -/
theorem read_eq_ok :
    read n s = .ok o ↔
      (pieces '.' (trim s)).length = n
        ∧ List.Forall₂ WritesByte (pieces '.' (trim s)) o.toList := by
  by_cases hn : (pieces '.' (trim s)).length = n
  · have hread := read_of_length_eq hn
    rw [← readParts_eq_ok, ← hread]
    constructor
    · intro h
      rw [h]
      exact ⟨hn, rfl⟩
    · intro h
      obtain ⟨_, h⟩ := h
      cases hs : read n s with
      | error e =>
        rw [hs] at h
        cases h
      | ok o' =>
        rw [hs] at h
        rw [toList_injective (Except.ok.inj h)]
  · rw [read_of_length_ne hn]
    constructor
    · intro h
      cases h
    · intro h
      exact absurd h.1 hn

theorem read_eq_error_of_length_eq (hn : (pieces '.' (trim s)).length = n) {e : HandleError}
    (he : readParts (pieces '.' (trim s)) = .error e) : read n s = .error e := by
  have hread := read_of_length_eq hn
  rw [he] at hread
  cases hs : read n s with
  | error e' =>
    rw [hs] at hread
    cases hread
    rfl
  | ok o =>
    rw [hs] at hread
    cases hread

/-! ### What is written -/

theorem isBlank_hexDigit : ∀ d < 16, isBlank (hexDigit d) = false ∧ hexDigit d ≠ '.' := by
  decide

theorem of_mem_writeByte {b : UInt8} {c : Char} (h : c ∈ writeByte b) :
    isBlank c = false ∧ c ≠ '.' := by
  have hb := b.toNat_lt
  unfold writeByte at h
  rw [List.mem_cons, List.mem_singleton] at h
  rcases h with rfl | rfl
  · exact isBlank_hexDigit _ (by omega)
  · exact isBlank_hexDigit _ (by omega)

theorem isBlank_of_mem_write {c : Char} (h : c ∈ o.write) : isBlank c = false := by
  unfold write at h
  rcases mem_joinWith h with rfl | hpart
  · decide
  · obtain ⟨p, hp, hc⟩ := hpart
    obtain ⟨b, _, rfl⟩ := List.mem_map.1 hp
    exact (of_mem_writeByte hc).1

theorem trim_append_write (hlead : ∀ c ∈ lead, isBlank c = true)
    (htail : ∀ c ∈ tail, isBlank c = true) : trim (lead ++ (o.write ++ tail)) = o.write := by
  apply trimsTo_iff.1
  refine ⟨lead, tail, rfl, hlead, htail, ?_, ?_⟩
  · intro c hc
    exact isBlank_of_mem_write (List.mem_of_head? hc)
  · intro c hc
    exact isBlank_of_mem_write (List.mem_of_getLast? hc)

theorem pieces_write (hn : n ≠ 0) : pieces '.' o.write = o.toList.map writeByte := by
  apply cutsInto_iff.1
  refine ⟨?_, ?_, rfl⟩
  · intro hnil
    have hlength := o.length_eq
    rw [List.map_eq_nil_iff.1 hnil] at hlength
    exact hn hlength.symm
  · intro p hp hpoint
    obtain ⟨b, _, rfl⟩ := List.mem_map.1 hp
    exact (of_mem_writeByte hpoint).2 rfl

/-- **What is written reads back**, with any white space around it. -/
theorem read_append_write (hn : n ≠ 0) (hlead : ∀ c ∈ lead, isBlank c = true)
    (htail : ∀ c ∈ tail, isBlank c = true) : read n (lead ++ (o.write ++ tail)) = .ok o := by
  rw [read_eq_ok, trim_append_write hlead htail, pieces_write hn]
  constructor
  · rw [List.length_map, o.length_eq]
  · rw [List.forall₂_map_left_iff, List.forall₂_same]
    intro b _
    exact writesByte_writeByte b

/-! ## §5. Handles. -/

/-- **Byte strings are read exactly.**  What is written for a handle or a participant reads back,
whatever white space is around it.  Any text, without the white space at its ends, is cut into
parts at the points, and is read if there are as many parts as bytes and each part writes its
byte; otherwise a wrong number of parts is what is said of it, and after that the first part that
writes no byte. -/
theorem read_exact :
    (∀ (h : Handle) (lead tail : String), isBlankText lead = true → isBlankText tail = true →
        Handle.read (lead ++ h.text ++ tail) = .ok h)
      ∧ (∀ (p : ParticipantId) (lead tail : String), isBlankText lead = true →
        isBlankText tail = true → read 12 (lead ++ p.text ++ tail).toList = .ok p)
      ∧ ∀ (n : Nat) (s : List Char), ∃ core parts, TrimsTo s core ∧ CutsInto '.' core parts
        ∧ (∀ o : Octets n, read n s = .ok o ↔
            parts.length = n ∧ List.Forall₂ WritesByte parts o.toList)
        ∧ (parts.length ≠ n → read n s = .error (.length n parts.length))
        ∧ (parts.length = n → ∀ good bad rest, parts = good ++ bad :: rest →
            (∀ p ∈ good, ∃ b, WritesByte p b) → (∀ b, ¬WritesByte bad b) →
              read n s = .error (.invalidByte (String.ofList bad))) := by
  have hback : ∀ (n : Nat) (o : Octets n) (lead tail : String), n ≠ 0 → isBlankText lead = true →
      isBlankText tail = true → read n (lead ++ o.text ++ tail).toList = .ok o := by
    intro n o lead tail hn hlead htail
    rw [String.toList_append, String.toList_append, List.append_assoc]
    unfold text
    rw [String.toList_ofList]
    exact read_append_write hn (List.all_eq_true.1 hlead) (List.all_eq_true.1 htail)
  refine ⟨?_, ?_, ?_⟩
  · intro h lead tail hlead htail
    exact hback 16 h lead tail (by decide) hlead htail
  · intro p lead tail hlead htail
    exact hback 12 p lead tail (by decide) hlead htail
  · intro n s
    refine ⟨trim s, pieces '.' (trim s), trimsTo_iff.2 rfl, cutsInto_iff.2 rfl, ?_, ?_, ?_⟩
    · intro o
      exact read_eq_ok
    · exact read_of_length_ne
    · intro hn good bad rest hparts hgood hbad
      apply read_eq_error_of_length_eq hn
      exact readParts_eq_error.2 ⟨good, bad, rest, hparts, hgood, hbad, rfl⟩

/-- A plus sign, leading zeros, either case and white space are read; a plus sign alone is not, and
it is what is said although more is wrong behind it. -/
theorem read_exact_spellings :
    let h : Handle := replicate 16 0xaf
    Handle.read ("\t\u00a0" ++ h.text ++ "\u3000") = .ok h
      ∧ read 2 " +00f.A".toList = .ok ⟨[15, 10], rfl⟩
      ∧ read 2 "1.+.x".toList = .error (.length 2 3)
      ∧ read 3 "1.+.x".toList = .error (.invalidByte "+") := by
  intro h
  have hdotted : ∀ core parts, TrimsTo "1.+.x".toList core → CutsInto '.' core parts →
      parts = [['1'], ['+'], ['x']] := by
    intro core parts htrim hcut
    rw [← cutsInto_iff.1 hcut, ← trimsTo_iff.1 htrim]
    decide
  refine ⟨read_exact.1 h "\t\u00a0" "\u3000" (by decide) (by decide), ?_, ?_, ?_⟩
  · obtain ⟨core, parts, htrim, hcut, hok, _⟩ := read_exact.2.2 2 " +00f.A".toList
    obtain rfl : parts = ["+00f".toList, "A".toList] := by
      rw [← cutsInto_iff.1 hcut, ← trimsTo_iff.1 htrim]
      decide
    have hfifteen : WritesByte "+00f".toList 15 :=
      ⟨['+'], ['0', '0', 'f'], [0, 0, 15], .inr rfl, rfl, List.cons_ne_nil _ _,
        .cons (.inl rfl) (.cons (.inl rfl) (.cons (.inl rfl) .nil)), by decide⟩
    have hten : WritesByte "A".toList 10 :=
      ⟨[], ['A'], [10], .inl rfl, rfl, List.cons_ne_nil _ _, .cons (.inr rfl) .nil, by decide⟩
    exact (hok ⟨[15, 10], rfl⟩).2 ⟨rfl, .cons hfifteen (.cons hten .nil)⟩
  · obtain ⟨core, parts, htrim, hcut, _, hlength, _⟩ := read_exact.2.2 2 "1.+.x".toList
    obtain rfl := hdotted core parts htrim hcut
    exact hlength (by decide)
  · obtain ⟨core, parts, htrim, hcut, _, _, hfault⟩ := read_exact.2.2 3 "1.+.x".toList
    obtain rfl := hdotted core parts htrim hcut
    refine hfault rfl [['1']] ['+'] [['x']] rfl ?_ (readByte?_eq_none.1 (by decide))
    intro p hp
    rw [List.mem_singleton.1 hp]
    exact ⟨1, readByte?_eq_some.1 (by decide)⟩

end Texts

end Octets

end RoutingSessions
