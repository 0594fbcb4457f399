/-
  RoutingSessions.Proofs.Trace — what is read of a trace, and which line is to blame.

  A line is passed over, holds a notification, or cannot be read: because it is no text,
  because the text is not the record that it should be, or because the handle in the
  record is none.  A trace is read if each of its lines is.  Otherwise the first line
  that cannot be read is to blame, under its number among all lines, and whatever
  follows it does not matter.

  Lines that are passed over are counted like all others.  To insert or delete some
  moves the number of the line to blame, and changes nothing else.

  Main statements:
    * `readByteLine_eq_ok_iff`, `readByteLine_eq_error_iff` — one line.
    * `readLines_eq_ok_iff`, `readLines_eq_error_iff` — lines in a row.
    * `readLines_edit` — lines that are passed over, inserted or deleted.
    * `read_up_to_first_fault` — all of it, for the bytes of a trace.
-/
import Mathlib.Data.List.Forall2
import Mathlib.Data.List.ReduceOption
import RoutingSessions.Proofs.Text
import RoutingSessions.Trace

namespace RoutingSessions

/-- The same trouble, in the line with this number. -/
def TraceError.inLine (number : Nat) : TraceError → TraceError
  | .file e => .file e
  | .json _ t => .json number t
  | .handle _ e => .handle number e

namespace Trace

variable {line bad : List UInt8} {lines good : List (List UInt8)} {core : List Char}
  {found : Option Notification} {number : Nat} {e : TraceError}

/-! ## §1. What a line is. -/

/-- The line is text in UTF-8, and this is the text without the white space at its ends. -/
def Says (line : List UInt8) (core : List Char) : Prop :=
  ∃ text : String, text.toUTF8.data.toList = line ∧ TrimsTo text.toList core

/-- Nothing is said, or it is a comment. -/
def Idle (core : List Char) : Prop := core = [] ∨ ∃ comment, core = '#' :: comment

/-- What a line is read as: nothing if it is blank or a comment, and else the notification that
its record describes. -/
inductive Reads (line : List UInt8) : Option Notification → Prop where
  | idle {core : List Char} : Says line core → Idle core → Reads line none
  | entry {core : List Char} {entry : Entry} {handle : Handle} : Says line core → ¬Idle core →
      Json.decode record.read (String.ofList core) = .ok entry →
      Handle.read entry.handle = .ok handle →
      Reads line (some ⟨entry.occurrence,
        ⟨handle, entry.direction, entry.topic, entry.typeName, entry.partitions⟩⟩)

/-- Why the line with this number cannot be read. -/
inductive Fails (line : List UInt8) (number : Nat) : TraceError → Prop where
  | encoding : (∀ text : String, text.toUTF8.data.toList ≠ line) →
      Fails line number (.file .notUtf8)
  | json {core : List Char} {trouble : Document.Trouble} : Says line core → ¬Idle core →
      Json.decode record.read (String.ofList core) = .error trouble →
      Fails line number (.json number trouble)
  | handle {core : List Char} {entry : Entry} {trouble : HandleError} : Says line core →
      ¬Idle core → Json.decode record.read (String.ofList core) = .ok entry →
      Handle.read entry.handle = .error trouble → Fails line number (.handle number trouble)

/-- A line cannot be read for the same reason wherever it stands. -/
theorem Fails.inLine (h : Fails line number e) (number' : Nat) :
    Fails line number' (e.inLine number') := by
  cases h with
  | encoding h => exact .encoding h
  | json hsaid hbusy hread => exact .json hsaid hbusy hread
  | handle hsaid hbusy hread hhandle => exact .handle hsaid hbusy hread hhandle

theorem isIdle_iff : isIdle core = true ↔ Idle core := by
  unfold isIdle Idle
  cases core with
  | nil => simp
  | cons c core => simp

theorem reads_of_isIdle {text : String} (h : isIdle (trim text.toList) = true) :
    Reads text.toUTF8.data.toList none :=
  .idle ⟨text, rfl, trimsTo_trim _⟩ (isIdle_iff.1 h)

/-! ## §2. One line. -/

/-- A line that is text is read as text. -/
theorem readByteLine_of_says (h : Says line core) (number : Nat) :
    ∃ text : String, trim text.toList = core ∧ readByteLine line number = readLine text number := by
  obtain ⟨text, htext, htrim⟩ := h
  refine ⟨text, trimsTo_iff.1 htrim, ?_⟩
  rw [readByteLine, decodeUtf8?_eq_some_iff.2 htext]

/-- A line that holds a record is read as the record says. -/
theorem readByteLine_of_entry {entry : Entry} (hsaid : Says line core) (hbusy : ¬Idle core)
    (hread : Json.decode record.read (String.ofList core) = .ok entry) (number : Nat) :
    readByteLine line number = (notification number entry).map some := by
  obtain ⟨text, rfl, htext⟩ := readByteLine_of_says hsaid number
  rw [htext]
  unfold readLine
  rw [if_neg (mt isIdle_iff.1 hbusy), hread]

theorem readByteLine_of_reads (h : Reads line found) (number : Nat) :
    readByteLine line number = .ok found := by
  cases h with
  | idle hsaid hidle =>
    obtain ⟨text, rfl, htext⟩ := readByteLine_of_says hsaid number
    rw [htext]
    exact if_pos (isIdle_iff.2 hidle)
  | entry hsaid hbusy hread hhandle =>
    rw [readByteLine_of_entry hsaid hbusy hread, notification, hhandle]
    rfl

theorem readByteLine_of_fails (h : Fails line number e) : readByteLine line number = .error e := by
  cases h with
  | encoding hnone =>
    have hdecode : decodeUtf8? line = none := by
      refine Option.eq_none_iff_forall_ne_some.2 fun text htext => ?_
      exact hnone text (decodeUtf8?_eq_some_iff.1 htext)
    rw [readByteLine, hdecode]
  | json hsaid hbusy hread =>
    obtain ⟨text, rfl, htext⟩ := readByteLine_of_says hsaid number
    rw [htext]
    unfold readLine
    rw [if_neg (mt isIdle_iff.1 hbusy), hread]
  | handle hsaid hbusy hread hhandle =>
    rw [readByteLine_of_entry hsaid hbusy hread, notification, hhandle]
    rfl

/-- A line can be read, or there is a reason why not. -/
theorem reads_or_fails (line : List UInt8) (number : Nat) :
    (∃ found, Reads line found) ∨ ∃ e, Fails line number e := by
  by_cases htext : ∃ text : String, text.toUTF8.data.toList = line
  · obtain ⟨text, htext⟩ := htext
    have hsaid : Says line (trim text.toList) := ⟨text, htext, trimsTo_trim _⟩
    by_cases hidle : Idle (trim text.toList)
    · exact .inl ⟨_, .idle hsaid hidle⟩
    · cases hread : Json.decode record.read (String.ofList (trim text.toList)) with
      | error trouble => exact .inr ⟨_, .json hsaid hidle hread⟩
      | ok entry =>
        cases hhandle : Handle.read entry.handle with
        | error trouble => exact .inr ⟨_, .handle hsaid hidle hread hhandle⟩
        | ok handle => exact .inl ⟨_, .entry hsaid hidle hread hhandle⟩
  · exact .inr ⟨_, .encoding fun text h => htext ⟨text, h⟩⟩

/-- **What a line is read as.** -/
theorem readByteLine_eq_ok_iff : readByteLine line number = .ok found ↔ Reads line found := by
  refine ⟨fun h => ?_, fun h => readByteLine_of_reads h number⟩
  rcases reads_or_fails line number with ⟨found', hreads⟩ | ⟨e, hfails⟩
  · rw [readByteLine_of_reads hreads] at h
    rw [← Except.ok.inj h]
    exact hreads
  · rw [readByteLine_of_fails hfails] at h
    cases h

/-- **Why a line cannot be read.** -/
theorem readByteLine_eq_error_iff : readByteLine line number = .error e ↔ Fails line number e := by
  refine ⟨fun h => ?_, readByteLine_of_fails⟩
  rcases reads_or_fails line number with ⟨found, hreads⟩ | ⟨e', hfails⟩
  · rw [readByteLine_of_reads hreads] at h
    cases h
  · rw [readByteLine_of_fails hfails] at h
    rw [← Except.error.inj h]
    exact hfails

/-! ## §3. Lines in a row. -/

theorem readLines_cons_of_reads (h : Reads line found) (number : Nat)
    (lines : List (List UInt8)) :
    readLines number (line :: lines) = (readLines (number + 1) lines).map (found.toList ++ ·) := by
  rw [readLines, readByteLine_of_reads h]
  dsimp only
  cases readLines (number + 1) lines <;> rfl

theorem readLines_cons_of_fails (h : Fails line number e) (lines : List (List UInt8)) :
    readLines number (line :: lines) = .error e := by
  rw [readLines, readByteLine_of_fails h]

/-- If all lines can be read, the notifications are those of the lines that hold one. -/
theorem readLines_of_forall₂ {found : List (Option Notification)}
    (h : List.Forall₂ Reads lines found) (number : Nat) :
    readLines number lines = .ok found.reduceOption := by
  induction h generalizing number with
  | nil => rfl
  | @cons line first lines found hline _ ih =>
    rw [readLines_cons_of_reads hline, ih]
    cases first <;> rfl

/-- Up to the first line that cannot be read nothing goes wrong, and what follows it is not
looked at. -/
theorem readLines_append_of_fails (hgood : ∀ line ∈ good, ∃ found, Reads line found)
    (hbad : Fails bad (number + good.length) e) (rest : List (List UInt8)) :
    readLines number (good ++ bad :: rest) = .error e := by
  induction good generalizing number with
  | nil => exact readLines_cons_of_fails hbad rest
  | cons line good ih =>
    obtain ⟨found, hline⟩ := hgood line (List.mem_cons_self ..)
    have hrest : readLines (number + 1) (good ++ bad :: rest) = .error e := by
      refine ih (fun l hl => hgood l (List.mem_cons_of_mem _ hl)) ?_
      rw [Nat.add_right_comm]
      exact hbad
    rw [List.cons_append, readLines_cons_of_reads hline, hrest]
    rfl

/-- All lines can be read, or there is a first one that cannot. -/
theorem forall₂_reads_or_fails (lines : List (List UInt8)) (number : Nat) :
    (∃ found, List.Forall₂ Reads lines found)
      ∨ ∃ good bad rest e, lines = good ++ bad :: rest
        ∧ (∀ line ∈ good, ∃ found, Reads line found) ∧ Fails bad (number + good.length) e := by
  induction lines generalizing number with
  | nil => exact .inl ⟨[], .nil⟩
  | cons line lines ih =>
    rcases reads_or_fails line number with ⟨first, hline⟩ | ⟨e, hline⟩
    · rcases ih (number + 1) with ⟨found, hlines⟩ | ⟨good, bad, rest, e, rfl, hgood, hbad⟩
      · exact .inl ⟨first :: found, .cons hline hlines⟩
      · rw [Nat.add_right_comm] at hbad
        exact .inr ⟨line :: good, bad, rest, e, rfl,
          List.forall_mem_cons.2 ⟨⟨first, hline⟩, hgood⟩, hbad⟩
    · exact .inr ⟨[], line, lines, e, rfl, by simp, hline⟩

/-- **What lines in a row are read as.** -/
theorem readLines_eq_ok_iff {ns : List Notification} :
    readLines number lines = .ok ns
      ↔ ∃ found, List.Forall₂ Reads lines found ∧ ns = found.reduceOption := by
  constructor
  · intro h
    rcases forall₂_reads_or_fails lines number with
      ⟨found, hlines⟩ | ⟨good, bad, rest, e, rfl, hgood, hbad⟩
    · rw [readLines_of_forall₂ hlines] at h
      exact ⟨found, hlines, (Except.ok.inj h).symm⟩
    · rw [readLines_append_of_fails hgood hbad] at h
      cases h
  · rintro ⟨found, hlines, rfl⟩
    exact readLines_of_forall₂ hlines number

/-- **Which line is to blame**: the first that cannot be read. -/
theorem readLines_eq_error_iff :
    readLines number lines = .error e
      ↔ ∃ good bad rest, lines = good ++ bad :: rest
        ∧ (∀ line ∈ good, ∃ found, Reads line found) ∧ Fails bad (number + good.length) e := by
  constructor
  · intro h
    rcases forall₂_reads_or_fails lines number with
      ⟨found, hlines⟩ | ⟨good, bad, rest, e', rfl, hgood, hbad⟩
    · rw [readLines_of_forall₂ hlines] at h
      cases h
    · rw [readLines_append_of_fails hgood hbad] at h
      obtain rfl := Except.error.inj h
      exact ⟨good, bad, rest, rfl, hgood, hbad⟩
  · rintro ⟨good, bad, rest, rfl, hgood, hbad⟩
    exact readLines_append_of_fails hgood hbad rest

/-! ## §4. Lines that are passed over. -/

/-- What becomes of a line. -/
inductive Edit where
  | keep (line : List UInt8)
  | insert (line : List UInt8)
  | delete (line : List UInt8)
deriving DecidableEq

namespace Edit

/-- The line as it was, if it was there before. -/
def old? : Edit → Option (List UInt8)
  | .keep line => some line
  | .insert _ => none
  | .delete line => some line

/-- The line as it is, if it is there afterwards. -/
def new? : Edit → Option (List UInt8)
  | .keep line => some line
  | .insert line => some line
  | .delete _ => none

/-- Blank lines and comments alone are inserted and deleted. -/
def Harmless : Edit → Prop
  | .keep _ => True
  | .insert line => Reads line none
  | .delete line => Reads line none

end Edit

/-- The lines before the edits. -/
def before (edits : List Edit) : List (List UInt8) := edits.filterMap Edit.old?

/-- The lines after the edits. -/
def after (edits : List Edit) : List (List UInt8) := edits.filterMap Edit.new?

/-- How many lines are inserted. -/
def inserted (edits : List Edit) : Nat := (edits.filter (·.old?.isNone)).length

/-- How many lines are deleted. -/
def deleted (edits : List Edit) : Nat := (edits.filter (·.new?.isNone)).length

variable {edits : List Edit}

theorem length_after_add_deleted (edits : List Edit) :
    (after edits).length + deleted edits = (before edits).length + inserted edits := by
  induction edits with
  | nil => rfl
  | cons edit edits ih =>
    cases edit with
    | keep line =>
      show (after edits).length + 1 + deleted edits = (before edits).length + 1 + inserted edits
      omega
    | insert line =>
      show (after edits).length + 1 + deleted edits = (before edits).length + (inserted edits + 1)
      omega
    | delete line =>
      show (after edits).length + (deleted edits + 1) = (before edits).length + 1 + inserted edits
      omega

/-- A line that is passed over is counted, and leaves no other mark. -/
theorem readLines_cons_of_idle (h : Reads line none) (number : Nat) (lines : List (List UInt8)) :
    readLines number (line :: lines) = readLines (number + 1) lines := by
  rw [readLines_cons_of_reads h]
  cases readLines (number + 1) lines <;> rfl

/-- **Lines that are passed over may be inserted and deleted.**  Either both texts are read, and
hold the same notifications, or in both the same line is to blame, for the same reason, under the
number that it has there. -/
theorem readLines_edit (hedits : ∀ edit ∈ edits, edit.Harmless) (number number' : Nat) :
    (∃ ns, readLines number (before edits) = .ok ns ∧ readLines number' (after edits) = .ok ns)
      ∨ ∃ first bad rest e, edits = first ++ .keep bad :: rest
        ∧ Fails bad (number + (before first).length) e
        ∧ readLines number (before edits) = .error e
        ∧ readLines number' (after edits)
          = .error (e.inLine (number' + (after first).length)) := by
  induction edits generalizing number number' with
  | nil => exact .inl ⟨[], rfl, rfl⟩
  | cons edit edits ih =>
    obtain ⟨hedit, hrest⟩ := List.forall_mem_cons.1 hedits
    cases edit with
    | keep line =>
      rcases reads_or_fails line number with ⟨found, hline⟩ | ⟨e, hline⟩
      · have hold' : readLines number (before (.keep line :: edits))
            = (readLines (number + 1) (before edits)).map (found.toList ++ ·) :=
          readLines_cons_of_reads hline number _
        have hnew' : readLines number' (after (.keep line :: edits))
            = (readLines (number' + 1) (after edits)).map (found.toList ++ ·) :=
          readLines_cons_of_reads hline number' _
        rw [hold', hnew']
        rcases ih hrest (number + 1) (number' + 1) with
          ⟨ns, hold, hnew⟩ | ⟨first, bad, rest, e, rfl, hbad, hold, hnew⟩
        · rw [hold, hnew]
          exact .inl ⟨_, rfl, rfl⟩
        · rw [hold, hnew]
          rw [Nat.add_right_comm] at hbad ⊢
          exact .inr ⟨.keep line :: first, bad, rest, e, rfl, hbad, rfl, rfl⟩
      · exact .inr ⟨[], line, edits, e, rfl, hline, readLines_cons_of_fails hline _,
          readLines_cons_of_fails (hline.inLine number') _⟩
    | insert line =>
      -- the new line moves on the number of what follows it
      have hnew' : readLines number' (after (.insert line :: edits))
          = readLines (number' + 1) (after edits) := readLines_cons_of_idle hedit number' _
      rw [hnew']
      rcases ih hrest number (number' + 1) with
        hboth | ⟨first, bad, rest, e, rfl, hbad, hold, hnew⟩
      · exact .inl hboth
      · rw [Nat.add_right_comm] at hnew
        exact .inr ⟨.insert line :: first, bad, rest, e, rfl, hbad, hold, hnew⟩
    | delete line =>
      have hold' : readLines number (before (.delete line :: edits))
          = readLines (number + 1) (before edits) := readLines_cons_of_idle hedit number _
      rw [hold']
      rcases ih hrest (number + 1) number' with
        hboth | ⟨first, bad, rest, e, rfl, hbad, hold, hnew⟩
      · exact .inl hboth
      · rw [Nat.add_right_comm] at hbad
        exact .inr ⟨.delete line :: first, bad, rest, e, rfl, hbad, hold, hnew⟩

/-! ## §5. Whole traces. -/

/-- **A trace is read up to the first line that cannot be.**  There is one way to cut its bytes into
lines.  If each line can be read, the notifications are those of the lines that are neither blank
nor comments, in order.  Otherwise the first line that cannot be read is to blame, whatever follows
it, and the number that is reported is its number among all lines.  If blank lines and comments are
inserted and deleted, either the same notifications are read as before, or the same line is to
blame for the same reason; its number grows by the lines inserted before it, and shrinks by those
deleted. -/
theorem read_up_to_first_fault (bytes : List UInt8) :
    (∀ lines, CutsIntoLines bytes lines ↔ byteLines bytes = lines)
      ∧ (∀ ns, read bytes = .ok ns
        ↔ ∃ found, List.Forall₂ Reads (byteLines bytes) found ∧ ns = found.reduceOption)
      ∧ (∀ e, read bytes = .error e
        ↔ ∃ good bad rest, byteLines bytes = good ++ bad :: rest
          ∧ (∀ line ∈ good, ∃ found, Reads line found) ∧ Fails bad (good.length + 1) e)
      ∧ ∀ edits bytes', (∀ edit ∈ edits, edit.Harmless) → CutsIntoLines bytes (before edits) →
        CutsIntoLines bytes' (after edits) →
        (∃ ns, read bytes = .ok ns ∧ read bytes' = .ok ns)
          ∨ ∃ first bad rest e, edits = first ++ .keep bad :: rest
            ∧ Fails bad ((before first).length + 1) e
            ∧ read bytes = .error e
            ∧ read bytes' = .error (e.inLine ((after first).length + 1))
            ∧ (after first).length + deleted first = (before first).length + inserted first := by
  refine ⟨fun lines => cutsIntoLines_iff, fun ns => readLines_eq_ok_iff, fun e => ?_,
    fun edits bytes' hedits hcut hcut' => ?_⟩
  · simp only [Nat.add_comm _ 1]
    exact readLines_eq_error_iff
  · unfold read
    rw [cutsIntoLines_iff.1 hcut, cutsIntoLines_iff.1 hcut']
    rcases readLines_edit hedits 1 1 with hboth | ⟨first, bad, rest, e, hfirst, hbad, hold, hnew⟩
    · exact .inl hboth
    · rw [Nat.add_comm] at hbad hnew
      exact .inr ⟨first, bad, rest, e, hfirst, hbad, hold, hnew, length_after_add_deleted first⟩

/-- A comment in front is deleted, and a blank line and a comment come between a line without its
carriage return and one whose handle has too few bytes; the second text ends without a line feed. -/
theorem read_up_to_first_fault_annotated :
    let bytes := fun text : String => text.toUTF8.data.toList
    let short := "[\"lost\", \"1.2\", \"in\", \"Square\", \"Shape\"]"
    let edits : List Edit := [.delete (bytes "# first"), .keep (bytes ""), .insert (bytes " \t"),
      .insert (bytes " # second"), .keep (bytes short), .keep (bytes "oops")]
    let text := bytes ("# first\r\n\n" ++ short ++ "\noops\n")
    let text' := bytes ("\r\n \t\n # second\n" ++ short ++ "\noops")
    (∀ edit ∈ edits, edit.Harmless)
      ∧ CutsIntoLines text (before edits) ∧ CutsIntoLines text' (after edits)
      ∧ read text = .error (.handle 3 (.length 16 2))
      ∧ ∃ first bad rest, edits = first ++ .keep bad :: rest
        ∧ read text' = .error (.handle ((after first).length + 1) (.length 16 2))
        ∧ (after first).length + deleted first = (before first).length + inserted first := by
  intro bytes short edits text text'
  have hcomment : Reads (bytes "# first") none := reads_of_isIdle (by decide +kernel)
  have hblank : Reads (bytes " \t") none := reads_of_isIdle (by decide +kernel)
  have hlater : Reads (bytes " # second") none := reads_of_isIdle (by decide +kernel)
  have hedits : ∀ edit ∈ edits, edit.Harmless := by
    simp [edits, Edit.Harmless, hcomment, hblank, hlater]
  have hcut : CutsIntoLines text (before edits) := cutsIntoLines_iff.2 (by decide +kernel)
  have hcut' : CutsIntoLines text' (after edits) := cutsIntoLines_iff.2 (by decide +kernel)
  have hread : read text = .error (.handle 3 (.length 16 2)) := by decide +kernel
  refine ⟨hedits, hcut, hcut', hread, ?_⟩
  rcases (read_up_to_first_fault text).2.2.2 edits text' hedits hcut hcut' with
    ⟨ns, hok, _⟩ | ⟨first, bad, rest, e, hfirst, _, hold, hnew, hlength⟩
  · rw [hread] at hok
    cases hok
  · obtain rfl := Except.error.inj (hread.symm.trans hold)
    exact ⟨first, bad, rest, hfirst, hnew, hlength⟩

end Trace

end RoutingSessions
