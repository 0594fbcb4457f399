/-
  RoutingSessions.Proofs.Json — what is written as JSON text reads back.

  A text is written character by character, and each character is read back before
  the next one is looked at: by reading, which resolves its escape, and by passing
  over it, which only looks for the closing quote.  A value is read back whatever
  follows it, so lists and records are put together from their parts.

  Main statements:
    * `writeChar_cases` — the three ways in which a character is written.
    * `readText_flatMap`, `skipText_flatMap` — a written text, up to its closing quote.
    * `readsBack_texts`, `readsBack_record` — lists, and records of what is read back.
    * `decode_write` — requests, responses and selections are read back from their
      texts, which therefore differ.
-/
import RoutingSessions.Json.Reader
import RoutingSessions.Json.Writer
import RoutingSessions.Proofs.Handle
import RoutingSessions.Request.Document
import RoutingSessions.Selection.Document

namespace RoutingSessions.Json

open RoutingSessions.Document

/-! ## §1. Characters between quotes. -/

section Characters

variable {c e : Char} {n : Nat} {s rest : List Char}

/-- The character stands for itself between quotes. -/
def IsPlain (c : Char) : Prop := c ≠ '"' ∧ c ≠ '\\' ∧ ¬c.toNat < 0x20

/-- **How a character is written**: behind a backslash, by its number, or as it is. -/
theorem writeChar_cases (c : Char) :
    (∃ e, e ≠ 'u' ∧ shortEscape? e = some c ∧ writeChar c = ['\\', e])
      ∨ (c.toNat < 0x20 ∧ writeChar c
          = ['\\', 'u', '0', '0', Octets.hexDigit (c.toNat / 16), Octets.hexDigit (c.toNat % 16)])
      ∨ (IsPlain c ∧ writeChar c = [c]) := by
  unfold writeChar
  split
  next => exact .inl ⟨'"', by decide, rfl, rfl⟩
  next => exact .inl ⟨'\\', by decide, rfl, rfl⟩
  next => exact .inl ⟨'b', by decide, rfl, rfl⟩
  next => exact .inl ⟨'f', by decide, rfl, rfl⟩
  next => exact .inl ⟨'n', by decide, rfl, rfl⟩
  next => exact .inl ⟨'r', by decide, rfl, rfl⟩
  next => exact .inl ⟨'t', by decide, rfl, rfl⟩
  next hquote hslash _ _ _ _ _ =>
    split
    next hcontrol => exact .inr (.inl ⟨hcontrol, rfl⟩)
    next hcontrol => exact .inr (.inr ⟨⟨hquote, hslash, hcontrol⟩, rfl⟩)

theorem readText_plain (hc : IsPlain c) (s : List Char) :
    readText (c :: s) = (readText s).map fun r => (c :: r.1, r.2) := by
  obtain ⟨hquote, hslash, hcontrol⟩ := hc
  rw [readText]
  · rw [if_neg hcontrol]
    cases readText s <;> rfl
  all_goals simp_all

theorem skipText_plain (hc : IsPlain c) (s : List Char) : skipText (c :: s) = skipText s := by
  obtain ⟨hquote, hslash, hcontrol⟩ := hc
  rw [skipText]
  · rw [if_neg hcontrol]
  all_goals simp_all

theorem readText_short (he : e ≠ 'u') (hc : shortEscape? e = some c) (s : List Char) :
    readText ('\\' :: e :: s) = (readText s).map fun r => (c :: r.1, r.2) := by
  rw [readText]
  · rw [hc]
    cases readText s <;> rfl
  · exact he

theorem skipText_short (he : e ≠ 'u') (hc : shortEscape? e = some c) (s : List Char) :
    skipText ('\\' :: e :: s) = skipText s := by
  rw [skipText]
  · rw [hc]
  · exact he

theorem readText_numeric (h : readNumericEscape s = .ok (c, rest)) :
    readText ('\\' :: 'u' :: s) = (readText rest).map fun r => (c :: r.1, r.2) := by
  rw [readText]
  split
  next f hf => rw [h] at hf; cases hf
  next c' rest' hok =>
    rw [h] at hok
    cases hok
    cases readText rest <;> rfl

theorem skipText_numeric (h : readUnit s = .ok (n, rest)) :
    skipText ('\\' :: 'u' :: s) = skipText rest := by
  rw [skipText]
  split
  next f hf => rw [h] at hf; cases hf
  next n' rest' hok =>
    rw [h] at hok
    cases hok
    rfl

/-- The number of a control character is read back. -/
theorem readUnit_control (hn : n < 0x20) (s : List Char) :
    readUnit ('0' :: '0' :: Octets.hexDigit (n / 16) :: Octets.hexDigit (n % 16) :: s)
      = .ok (n, s) := by
  have hhigh := Octets.isDigit_hexDigit (n / 16) (by omega)
  have hlow := Octets.isDigit_hexDigit (n % 16) (by omega)
  have hnumber : Octets.numberFrom? 0
      ['0', '0', Octets.hexDigit (n / 16), Octets.hexDigit (n % 16)] = some n := by
    apply Octets.numberFrom?_zero.2
    refine ⟨[0, 0, n / 16, n % 16], .cons (.inl rfl) (.cons (.inl rfl) (.cons hhigh
      (.cons hlow .nil))), ?_⟩
    show n = Nat.ofDigits 16 [n % 16, n / 16, 0, 0]
    simp only [Nat.ofDigits_cons, Nat.ofDigits_nil]
    omega
  unfold readUnit
  dsimp only
  rw [hnumber]

theorem readNumericEscape_control (hc : c.toNat < 0x20) (s : List Char) :
    readNumericEscape ('0' :: '0' :: Octets.hexDigit (c.toNat / 16)
      :: Octets.hexDigit (c.toNat % 16) :: s) = .ok (c, s) := by
  have hlow : isLowSurrogate c.toNat = false := by
    unfold isLowSurrogate
    simp only [Bool.and_eq_false_iff, decide_eq_false_iff_not]
    omega
  have hhigh : isHighSurrogate c.toNat = false := by
    unfold isHighSurrogate
    simp only [Bool.and_eq_false_iff, decide_eq_false_iff_not]
    omega
  unfold readNumericEscape
  rw [readUnit_control hc]
  simp only [hlow, hhigh, Char.ofNat_toNat, Bool.false_eq_true, if_false]

/-- **A character is read back before the next one is looked at.** -/
theorem readText_writeChar (c : Char) (s : List Char) :
    readText (writeChar c ++ s) = (readText s).map fun r => (c :: r.1, r.2) := by
  rcases writeChar_cases c with hshort | hcontrol | hplain
  · obtain ⟨e, he, hc, hwrite⟩ := hshort
    rw [hwrite]
    exact readText_short he hc s
  · obtain ⟨hc, hwrite⟩ := hcontrol
    rw [hwrite]
    exact readText_numeric (readNumericEscape_control hc s)
  · obtain ⟨hc, hwrite⟩ := hplain
    rw [hwrite]
    exact readText_plain hc s

theorem skipText_writeChar (c : Char) (s : List Char) :
    skipText (writeChar c ++ s) = skipText s := by
  rcases writeChar_cases c with hshort | hcontrol | hplain
  · obtain ⟨e, he, hc, hwrite⟩ := hshort
    rw [hwrite]
    exact skipText_short he hc s
  · obtain ⟨hc, hwrite⟩ := hcontrol
    rw [hwrite]
    exact skipText_numeric (readUnit_control hc s)
  · obtain ⟨hc, hwrite⟩ := hplain
    rw [hwrite]
    exact skipText_plain hc s

/-- **A written text is read up to its closing quote.** -/
theorem readText_flatMap (cs rest : List Char) :
    readText (cs.flatMap writeChar ++ '"' :: rest) = .ok (cs, rest) := by
  induction cs with
  | nil =>
    show readText ('"' :: rest) = _
    rw [readText]
  | cons c cs ih =>
    rw [List.flatMap_cons, List.append_assoc, readText_writeChar, ih]
    rfl

theorem skipText_flatMap (cs rest : List Char) :
    skipText (cs.flatMap writeChar ++ '"' :: rest) = .ok rest := by
  induction cs with
  | nil =>
    show skipText ('"' :: rest) = _
    rw [skipText]
  | cons c cs ih =>
    rw [List.flatMap_cons, List.append_assoc, skipText_writeChar, ih]

end Characters

/-! ## §2. Values. -/

section Values

variable {fields : List (String × Value)} {fuel : Nat}

/-- The value is read back from its text, whatever follows. -/
def ReadsBack (v : Value) : Prop :=
  ∀ fuel rest, 3 * (writeValue v).length ≤ fuel →
    readNode fuel (writeValue v ++ rest) = (v.node, some rest)

theorem writeText_append (t : String) (rest : List Char) :
    writeText t ++ rest = '"' :: (t.toList.flatMap writeChar ++ '"' :: rest) := by
  unfold writeText
  simp

theorem length_writeText (t : String) : 2 ≤ (writeText t).length := by
  unfold writeText
  simp

theorem readTextNode_flatMap (t : String) (rest : List Char) :
    readTextNode (t.toList.flatMap writeChar ++ '"' :: rest) = (.ofText t, some rest) := by
  unfold readTextNode
  rw [readText_flatMap, skipText_flatMap]
  show (Node.text (.ok (String.ofList t.toList)) none, some rest) = _
  rw [String.ofList_toList]
  rfl

theorem readNode_writeText (t : String) (fuel : Nat) (rest : List Char) :
    readNode (fuel + 1) (writeText t ++ rest) = (.ofText t, some rest) := by
  rw [writeText_append]
  show readTextNode (t.toList.flatMap writeChar ++ '"' :: rest) = _
  exact readTextNode_flatMap t rest

theorem readsBack_text (t : String) : ReadsBack (.text t) := by
  intro fuel rest hfuel
  have hlength := length_writeText t
  have hsucc : 3 * (writeText t).length ≤ fuel := hfuel
  obtain ⟨fuel, rfl⟩ : ∃ k, fuel = k + 1 := ⟨fuel - 1, by omega⟩
  exact readNode_writeText t fuel rest

/-! ### Lists -/

/-- The items of a list behind the first, each behind a comma. -/
def writeMoreTexts (l : List String) : List Char := l.flatMap fun t => ',' :: writeText t

theorem writeTexts_cons (t : String) (l : List String) :
    writeTexts (t :: l) = writeText t ++ writeMoreTexts l := by
  induction l generalizing t with
  | nil => simp [writeTexts, writeMoreTexts]
  | cons u l ih =>
    show writeText t ++ ',' :: writeTexts (u :: l) = _
    rw [ih]
    rfl

theorem readItem_writeText {items : Items} {after : Rest} {t : String} {rest : List Char}
    (h : readItems (fuel + 1) false rest = (items, after)) :
    readItem (fuel + 2) (writeText t ++ rest) = (.item (.ofText t) items, after) := by
  rw [readItem, readNode_writeText]
  show ((Items.item (.ofText t) (readItems (fuel + 1) false rest).1,
    (readItems (fuel + 1) false rest).2) : Items × Rest) = _
  rw [h]

theorem readItems_writeMoreTexts (l : List String) (rest : List Char) :
    ∀ fuel, 3 * (writeMoreTexts l).length + 1 ≤ fuel →
      readItems fuel false (writeMoreTexts l ++ ']' :: rest) = (.ofTexts l, some rest) := by
  induction l with
  | nil =>
    intro fuel hfuel
    obtain ⟨fuel, rfl⟩ : ∃ k, fuel = k + 1 := ⟨fuel - 1, by omega⟩
    rfl
  | cons t l ih =>
    intro fuel hfuel
    have hlength := length_writeText t
    have hcons : writeMoreTexts (t :: l) = ',' :: (writeText t ++ writeMoreTexts l) := rfl
    rw [hcons, List.length_cons, List.length_append] at hfuel
    obtain ⟨fuel, rfl⟩ : ∃ k, fuel = k + 3 := ⟨fuel - 3, by omega⟩
    rw [hcons, List.cons_append, List.append_assoc]
    show readItem (fuel + 2) (writeText t ++ (writeMoreTexts l ++ ']' :: rest)) = _
    exact readItem_writeText (ih (fuel + 1) (by omega))

theorem readsBack_texts (l : List String) : ReadsBack (.texts l) := by
  intro fuel rest hfuel
  have hwrite : writeValue (.texts l) ++ rest = '[' :: (writeTexts l ++ ']' :: rest) := by
    simp [writeValue]
  have hlength : (writeValue (.texts l)).length = (writeTexts l).length + 2 := by
    simp [writeValue]
  rw [hlength] at hfuel
  rw [hwrite]
  obtain ⟨fuel, rfl⟩ : ∃ k, fuel = k + 2 := ⟨fuel - 2, by omega⟩
  have hitems : readItems (fuel + 1) true (writeTexts l ++ ']' :: rest)
      = (.ofTexts l, some rest) := by
    cases l with
    | nil => rfl
    | cons t l =>
      have hquote := length_writeText t
      rw [writeTexts_cons, List.length_append] at hfuel
      rw [writeTexts_cons, List.append_assoc]
      obtain ⟨fuel, rfl⟩ : ∃ k, fuel = k + 2 := ⟨fuel - 2, by omega⟩
      have hmore := readItems_writeMoreTexts l rest (fuel + 1) (by omega)
      have hitem := readItem_writeText (t := t) hmore
      rw [writeText_append] at hitem ⊢
      exact hitem
  show ((Node.list .bracketed (readItems (fuel + 1) true (writeTexts l ++ ']' :: rest)).1,
    (readItems (fuel + 1) true (writeTexts l ++ ']' :: rest)).2) : Node × Rest) = _
  rw [hitems]
  rfl

/-! ### Records -/

/-- A field as it is written. -/
def writeField (f : String × Value) : List Char := writeText f.1 ++ ':' :: writeValue f.2

/-- The fields of a record behind the first, each behind a comma. -/
def writeMoreFields (fields : List (String × Value)) : List Char :=
  fields.flatMap fun f => ',' :: writeField f

theorem writeFields_cons (f : String × Value) (fields : List (String × Value)) :
    writeFields (f :: fields) = writeField f ++ writeMoreFields fields := by
  induction fields generalizing f with
  | nil =>
    obtain ⟨name, v⟩ := f
    simp [writeFields, writeField, writeMoreFields]
  | cons g fields ih =>
    obtain ⟨name, v⟩ := f
    show writeText name ++ ':' :: writeValue v ++ ',' :: writeFields (g :: fields) = _
    rw [ih]
    rfl

theorem writeField_append (f : String × Value) (rest : List Char) :
    writeField f ++ rest
      = '"' :: (f.1.toList.flatMap writeChar ++ '"' :: ':' :: (writeValue f.2 ++ rest)) := by
  unfold writeField
  rw [List.append_assoc, writeText_append]
  rfl

theorem length_writeField (f : String × Value) :
    (writeValue f.2).length + 3 ≤ (writeField f).length := by
  have hname := length_writeText f.1
  unfold writeField
  rw [List.length_append, List.length_cons]
  omega

theorem readEntry_writeField {entries : Entries} {after : Rest} {f : String × Value}
    {rest : List Char} (hf : ReadsBack f.2) (hfuel : 3 * (writeValue f.2).length ≤ fuel)
    (h : readEntries fuel false rest = (entries, after)) :
    readEntry (fuel + 1) (writeField f ++ rest) = (.entry (.ok f.1) f.2.node entries, after) := by
  have hquote : ∀ s, skipSpace ('"' :: s) = '"' :: s := fun _ => rfl
  have hcolon : ∀ s, skipSpace (':' :: s) = ':' :: s := fun _ => rfl
  have hkey : (Except.ok (f.1.toList, ':' :: (writeValue f.2 ++ rest)) :
      Except Fault (List Char × List Char)).map (fun r => String.ofList r.1) = .ok f.1 := by
    show Except.ok (String.ofList f.1.toList) = _
    rw [String.ofList_toList]
  rw [writeField_append, readEntry]
  -- the key is read, and then passed over once more to find what is behind it
  simp only [hquote, readText_flatMap, skipText_flatMap, hcolon, hf fuel rest hfuel, h, hkey]

theorem readEntries_writeMoreFields (rest : List Char) (hfields : ∀ f ∈ fields, ReadsBack f.2) :
    ∀ fuel, 3 * (writeMoreFields fields).length + 1 ≤ fuel →
      readEntries fuel false (writeMoreFields fields ++ '}' :: rest)
        = (Value.entries fields, some rest) := by
  induction fields with
  | nil =>
    intro fuel hfuel
    obtain ⟨fuel, rfl⟩ : ∃ k, fuel = k + 1 := ⟨fuel - 1, by omega⟩
    rfl
  | cons f fields ih =>
    intro fuel hfuel
    have hlength := length_writeField f
    have hcons : writeMoreFields (f :: fields) = ',' :: (writeField f ++ writeMoreFields fields) :=
      rfl
    rw [hcons, List.length_cons, List.length_append] at hfuel
    obtain ⟨fuel, rfl⟩ : ∃ k, fuel = k + 2 := ⟨fuel - 2, by omega⟩
    rw [hcons, List.cons_append, List.append_assoc]
    have hmore := ih (fun g hg => hfields g (List.mem_cons_of_mem _ hg)) fuel (by omega)
    show readEntry (fuel + 1) (writeField f ++ (writeMoreFields fields ++ '}' :: rest)) = _
    rw [readEntry_writeField (hfields f (List.mem_cons_self ..)) (by omega) hmore]
    rfl

/-- **A record is read back** if the values of its fields are. -/
theorem readsBack_record (hfields : ∀ f ∈ fields, ReadsBack f.2) : ReadsBack (.record fields) := by
  intro fuel rest hfuel
  have hwrite : writeValue (.record fields) ++ rest
      = '{' :: (writeFields fields ++ '}' :: rest) := by
    simp [writeValue]
  have hlength : (writeValue (.record fields)).length = (writeFields fields).length + 2 := by
    simp [writeValue]
  rw [hlength] at hfuel
  rw [hwrite]
  obtain ⟨fuel, rfl⟩ : ∃ k, fuel = k + 3 := ⟨fuel - 3, by omega⟩
  have hentries : readEntries (fuel + 2) true (writeFields fields ++ '}' :: rest)
      = (Value.entries fields, some rest) := by
    cases fields with
    | nil => rfl
    | cons f fields =>
      have hfirst := length_writeField f
      rw [writeFields_cons, List.length_append] at hfuel
      rw [writeFields_cons, List.append_assoc]
      have hmore := readEntries_writeMoreFields rest
        (fun g hg => hfields g (List.mem_cons_of_mem _ hg)) fuel (by omega)
      have hentry := readEntry_writeField (hfields f (List.mem_cons_self ..)) (by omega) hmore
      rw [writeField_append] at hentry ⊢
      exact hentry
  show ((Node.table (readEntries (fuel + 2) true (writeFields fields ++ '}' :: rest)).1,
    (readEntries (fuel + 2) true (writeFields fields ++ '}' :: rest)).2) : Node × Rest) = _
  rw [hentries]
  rfl

theorem readsBack_pair {name name' : String} {v v' : Value} (hv : ReadsBack v)
    (hv' : ReadsBack v') : ReadsBack (.record [(name, v), (name', v')]) := by
  apply readsBack_record
  intro f hf
  simp only [List.mem_cons, List.not_mem_nil, or_false] at hf
  rcases hf with rfl | rfl
  · exact hv
  · exact hv'

end Values

/-! ## §3. Documents. -/

section Documents

variable {α : Type} {decoder : Decoder α} {v : Value} {a : α}

theorem readDocument_writeValue (hv : ReadsBack v) :
    readDocument (writeValue v) = (v.node, none) := by
  have hnode := hv (3 * (writeValue v).length + 3) [] (by omega)
  rw [List.append_nil] at hnode
  unfold readDocument
  rw [hnode]
  rfl

/-- **What is read back from its tree is read back from its text.** -/
theorem decode_write_of_node (hv : ReadsBack v)
    (hnode : decoder ⟨.json, nestingLimit⟩ v.node = .ok a) :
    decode decoder (write v) = .ok a := by
  unfold decode write
  rw [String.toList_ofList, readDocument_writeValue hv]
  show (decoder ⟨.json, nestingLimit⟩ v.node >>= fun value => (refuse none >>= fun _ => pure value))
    = _
  rw [hnode]
  rfl

/-- Values that are read back have texts of their own. -/
theorem write_injective {value : α → Value}
    (hback : ∀ a, decode decoder (write (value a)) = .ok a) :
    Function.Injective fun a => write (value a) := by
  intro a b h
  have hsame : write (value a) = write (value b) := h
  have ha := hback a
  rw [hsame, hback b] at ha
  exact (Except.ok.inj ha).symm

end Documents

/-! ## §4. Requests, responses and selections. -/

theorem readsBack_request (r : Request) : ReadsBack r.value := by
  have hoptional : ∀ name text, ∀ f ∈ Request.optionalField name text, ReadsBack f.2 := by
    intro name text f hf
    cases text with
    | none => cases hf
    | some t =>
      rw [List.mem_singleton.1 hf]
      exact readsBack_text t
  apply readsBack_record
  intro f hf
  rw [List.mem_append, List.mem_append] at hf
  rcases hf with (hf | hf) | hf
  · -- the fields that are always there
    simp only [List.mem_cons, List.not_mem_nil, or_false] at hf
    rcases hf with rfl | rfl | rfl <;> exact readsBack_text _
  · exact hoptional "name" r.name f hf
  · exact hoptional "body" r.body f hf

theorem readsBack_response (r : Response) : ReadsBack r.value :=
  readsBack_pair (readsBack_text r.label) (readsBack_text r.message)

theorem readsBack_selection (s : Selection) : ReadsBack s.value := by
  cases s with
  | all =>
    apply readsBack_record
    intro f hf
    rw [List.mem_singleton.1 hf]
    exact readsBack_text "All"
  | only patterns => exact readsBack_pair (readsBack_text "Include") (readsBack_texts patterns)
  | allBut patterns => exact readsBack_pair (readsBack_text "Exclude") (readsBack_texts patterns)
  | pattern p => exact readsBack_pair (readsBack_text "Pattern") (readsBack_text p)

/-- **Requests, responses and selections are read back from their texts.**  This holds whatever
the texts in them are, and whether or not a request has a name or a payload; so different values
never have the same text. -/
theorem decode_write :
    (∀ r : Request, decode Request.read (write r.value) = .ok r)
      ∧ (∀ r : Response, decode Response.read (write r.value) = .ok r)
      ∧ (∀ s : Selection, decode Selection.read (write s.value) = .ok s)
      ∧ (Function.Injective fun r : Request => write r.value)
      ∧ (Function.Injective fun r : Response => write r.value)
      ∧ (Function.Injective fun s : Selection => write s.value) := by
  have hrequest : ∀ r : Request, decode Request.read (write r.value) = .ok r := by
    intro r
    exact decode_write_of_node (readsBack_request r) (Request.read_node _ r)
  have hresponse : ∀ r : Response, decode Response.read (write r.value) = .ok r := by
    intro r
    exact decode_write_of_node (readsBack_response r) (Response.read_node _ r)
  have hselection : ∀ s : Selection, decode Selection.read (write s.value) = .ok s := by
    intro s
    exact decode_write_of_node (readsBack_selection s) (Selection.read_node _ s)
  exact ⟨hrequest, hresponse, hselection, write_injective hrequest, write_injective hresponse,
    write_injective hselection⟩

/-- An empty payload is written, and an absent name is not. -/
example : write (Request.value ⟨.delete, "r", "\"\\\n\x01", none, some ""⟩)
    = "\x7b\"kind\":\"delete\",\"target_router\":\"r\","
      ++ "\"resource\":\"\\\"\\\\\\n\\u0001\",\"body\":\"\"\x7d" := by
  decide +kernel

end RoutingSessions.Json
