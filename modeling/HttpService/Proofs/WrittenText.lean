import HttpService.Json.Printer
import HttpService.Proofs.ReaderRuns
/-! # Reading back a written text

A text is written between quotes with an escape for some of its characters. `Bytes.ofChars` is the
encoding of characters one after the other. Every character that is written comes back as its own
bytes (`textBody_escaped`), so the reader of texts gives back what was written and stops behind the
closing quote (`string_written`). -/
set_option autoImplicit false

namespace HttpService

namespace Bytes

def ofChars (letters : List Char) : Bytes := letters.flatMap String.utf8EncodeChar

@[simp] theorem ofChars_nil : ofChars [] = [] := rfl

@[simp] theorem ofChars_append (first second : List Char) :
    ofChars (first ++ second) = ofChars first ++ ofChars second := by
  simp [ofChars]

theorem ofChars_cons (letter : Char) (rest : List Char) :
    ofChars (letter :: rest) = String.utf8EncodeChar letter ++ ofChars rest := rfl

theorem ofText_eq_ofChars (text : String) : ofText text = ofChars text.toList :=
  ofText_eq_flatMap text

theorem ofText_ofList (letters : List Char) : ofText (String.ofList letters) = ofChars letters := by
  rw [ofText_eq_ofChars, String.toList_ofList]

theorem encodeChar_ascii {letter : Char} (ascii : letter.toNat ≤ 127) :
    String.utf8EncodeChar letter = [code letter] := by
  rw [String.utf8EncodeChar.eq_1]
  exact if_pos ascii

theorem ofChars_cons_ascii {letter : Char} (ascii : letter.toNat ≤ 127) (rest : List Char) :
    ofChars (letter :: rest) = code letter :: ofChars rest := by
  rw [ofChars_cons, encodeChar_ascii ascii]
  rfl

/-- A character beyond ASCII has no ASCII byte in its encoding. -/
theorem le_of_mem_encodeChar {letter : Char} (beyond : 127 < letter.toNat) {byte : UInt8}
    (present : byte ∈ String.utf8EncodeChar letter) : 128 ≤ byte.toNat := by
  have notAscii : ¬ letter.val.toNat ≤ 127 := Nat.not_le.mpr beyond
  rw [String.utf8EncodeChar.eq_1, if_neg notAscii] at present
  split at present
  · simp only [List.mem_cons, List.not_mem_nil, or_false] at present
    rcases present with rfl | rfl <;> simp only [UInt8.toNat_ofNat'] <;> omega
  split at present
  · simp only [List.mem_cons, List.not_mem_nil, or_false] at present
    rcases present with rfl | rfl | rfl <;> simp only [UInt8.toNat_ofNat'] <;> omega
  · simp only [List.mem_cons, List.not_mem_nil, or_false] at present
    rcases present with rfl | rfl | rfl | rfl <;> simp only [UInt8.toNat_ofNat'] <;> omega

end Bytes

namespace Json

open Reader

/-- The bytes that stand for themselves within a text. -/
def Plain (byte : UInt8) : Prop := byte ≠ 34 ∧ byte ≠ 92 ∧ ¬ byte < 32

theorem textBody_plain {bytes : Bytes} (plain : ∀ byte ∈ bytes, Plain byte) (done rest : Bytes) :
    textBody .plain done (bytes ++ rest) = textBody .plain (bytes.reverse ++ done) rest := by
  induction bytes generalizing done with
  | nil => rfl
  | cons byte bytes ih =>
      obtain ⟨noQuote, noBackslash, noControl⟩ := plain byte List.mem_cons_self
      have later := ih (fun other present => plain other (List.mem_cons_of_mem _ present))
      simp only [List.cons_append, textBody, beq_iff_eq, noQuote, noBackslash, noControl, if_false]
      rw [later, List.reverse_cons, List.append_assoc]
      rfl

theorem plain_of_mem_encodeChar {letter : Char} (noQuote : letter ≠ '"') (noBackslash : letter ≠ '\\')
    (noControl : 32 ≤ letter.toNat) {byte : UInt8} (present : byte ∈ String.utf8EncodeChar letter) :
    Plain byte := by
  have differs (other : Char) (different : letter ≠ other) : letter.toNat ≠ other.toNat := by
    intro same
    exact different (Char.ext (UInt32.toNat_inj.mp same))
  have quote : letter.toNat ≠ 34 := differs '"' noQuote
  have backslash : letter.toNat ≠ 92 := differs '\\' noBackslash
  have bounds : byte.toNat ≠ 34 ∧ byte.toNat ≠ 92 ∧ 32 ≤ byte.toNat := by
    rcases Nat.lt_or_ge 127 letter.toNat with beyond | ascii
    · have high := Bytes.le_of_mem_encodeChar beyond present
      omega
    · rw [Bytes.encodeChar_ascii ascii, List.mem_singleton] at present
      have value : byte.toNat = letter.toNat := by
        rw [present, Bytes.code, UInt8.toNat_ofNat']
        omega
      omega
  refine ⟨?_, ?_, ?_⟩
  · rintro rfl
    exact bounds.1 rfl
  · rintro rfl
    exact bounds.2.1 rfl
  · rw [UInt8.lt_iff_toNat_lt]
    exact Nat.not_lt.mpr bounds.2.2

theorem hexValue?_control : ∀ number < 32,
    (Bytes.ofChars (zeroPadded 4 (hexDigits number))).length = 4 ∧
      hexValue? (Bytes.ofChars (zeroPadded 4 (hexDigits number))) = some number := by
  decide

theorem textBody_hex {digits : Bytes} {number : Nat} (four : digits.length = 4)
    (value : hexValue? digits = some number) (small : number < 0xD800) (done rest : Bytes) :
    textBody (.hex [] none) done (digits ++ rest) =
      textBody .plain ((codePointBytes number).reverse ++ done) rest := by
  match digits, four with
  | [a, b, c, d], _ =>
      have complete : completeHex none [a, b, c, d] = .character (codePointBytes number) := by
        have noTrail : (0xDC00 ≤ number && number ≤ 0xDFFF) = false := by
          rw [decide_eq_false (by omega), Bool.false_and]
        have noLead : (0xD800 ≤ number && number ≤ 0xDBFF) = false := by
          rw [decide_eq_false (by omega), Bool.false_and]
        simp only [completeHex, value, noTrail, noLead]
        rfl
      simp [textBody, complete]

theorem codePointBytes_eq (letter : Char) :
    codePointBytes letter.toNat = String.utf8EncodeChar letter := by
  rw [codePointBytes, Char.ofNat_toNat, Bytes.ofText_eq_ofChars, String.toList_singleton]
  exact List.append_nil _

theorem textBody_control {letter : Char} (control : letter.toNat < 32) (done rest : Bytes) :
    textBody .plain done
        (Bytes.ofChars ('\\' :: 'u' :: zeroPadded 4 (hexDigits letter.toNat)) ++ rest) =
      textBody .plain ((String.utf8EncodeChar letter).reverse ++ done) rest := by
  obtain ⟨four, value⟩ := hexValue?_control letter.toNat control
  have digits := textBody_hex four value (by omega) done rest
  rw [codePointBytes_eq] at digits
  rw [← digits, Bytes.ofChars_cons_ascii (by decide), Bytes.ofChars_cons_ascii (by decide)]
  rfl

/-- The written form of a character is read as the bytes of that character. -/
theorem textBody_escaped (letter : Char) (done rest : Bytes) :
    textBody .plain done (Bytes.ofChars (escaped letter) ++ rest) =
      textBody .plain ((String.utf8EncodeChar letter).reverse ++ done) rest := by
  unfold escaped
  split
  case h_8 noQuote noBackslash _ _ _ _ _ =>
    split
    next control => exact textBody_control control done rest
    next printable =>
      have single : Bytes.ofChars [letter] = String.utf8EncodeChar letter := List.append_nil _
      rw [single]
      apply textBody_plain
      intro byte present
      exact plain_of_mem_encodeChar noQuote noBackslash (Nat.not_lt.mp printable) present
  all_goals rfl

theorem textBody_written (letters : List Char) (done rest : Bytes) :
    textBody .plain done (Bytes.ofChars (letters.flatMap escaped) ++ 34 :: rest) =
      (.ok (done.reverse ++ Bytes.ofChars letters), rest) := by
  induction letters generalizing done with
  | nil => simp [textBody]
  | cons letter letters ih =>
      rw [List.flatMap_cons, Bytes.ofChars_append, List.append_assoc, textBody_escaped, ih]
      simp [Bytes.ofChars_cons]

def quotedTail (text : String) : Bytes := Bytes.ofChars (text.toList.flatMap escaped) ++ [34]

theorem ofChars_quoted (text : String) : Bytes.ofChars (quoted text) = 34 :: quotedTail text := by
  rw [quoted, Bytes.ofChars_cons_ascii (by decide), Bytes.ofChars_append]
  rfl

theorem string_written (text : String) (rest : Bytes) :
    string.run (quotedTail text ++ rest) = (.ok text, rest) := by
  have read := textBody_written text.toList [] rest
  rw [List.reverse_nil, List.nil_append, ← Bytes.ofText_eq_ofChars] at read
  simp only [string, quotedTail, List.append_assoc, List.singleton_append, read,
    Bytes.toText?_ofText]

end Json

end HttpService
