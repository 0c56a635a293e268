import HttpService.Proofs.ClaimsReading
import HttpService.Proofs.WrittenNumbers
/-! # Reading back a written value

The entries of a list or an object are written with commas between them. `Gathers` says that a fold
reads written entries one by one, and `Gathers.fold` that it then stops at the end of the frame. With
this a value is read back (`valueWithin_written`, `read_encode`) if its numbers are integers of 64
bits and it is nested no deeper than values are read: `Readable`. -/
set_option autoImplicit false

namespace HttpService.Json

open Reader

def separated : Bool -> List Bytes -> Bytes
  | _, [] => []
  | first, entry :: others => (if first then [] else [44]) ++ entry ++ separated false others

def writtenMember (member : String × Json) : Bytes :=
  34 :: quotedTail member.1 ++ 58 :: Bytes.ofChars (write member.2)

theorem ofChars_comma (first : Bool) :
    Bytes.ofChars (if first then [] else [',']) = if first then [] else [44] := by
  cases first <;> rfl

theorem ofChars_writeItems (first : Bool) (items : List Json) :
    Bytes.ofChars (writeItems first items) =
      separated first (items.map fun item => Bytes.ofChars (write item)) := by
  induction items generalizing first with
  | nil => simp [writeItems, separated]
  | cons item items ih =>
      simp only [writeItems, List.map_cons, separated, Bytes.ofChars_append, ofChars_comma, ih]

theorem ofChars_writeMembers (first : Bool) (members : List (String × Json)) :
    Bytes.ofChars (writeMembers first members) = separated first (members.map writtenMember) := by
  induction members generalizing first with
  | nil => simp [writeMembers, separated]
  | cons member members ih =>
      have colon (rest : List Char) : Bytes.ofChars (':' :: rest) = 58 :: Bytes.ofChars rest :=
        Bytes.ofChars_cons_ascii (by decide) rest
      simp [writeMembers, separated, writtenMember, ofChars_comma, ofChars_quoted, colon, ih]

theorem ofChars_array (items : List Json) :
    Bytes.ofChars (write (.array items)) =
      91 :: (separated true (items.map fun item => Bytes.ofChars (write item)) ++ [93]) := by
  rw [write, Bytes.ofChars_cons_ascii (by decide), Bytes.ofChars_append, ofChars_writeItems]
  rfl

theorem ofChars_object (members : List (String × Json)) :
    Bytes.ofChars (write (.object members)) =
      123 :: (separated true (members.map writtenMember) ++ [125]) := by
  rw [write, Bytes.ofChars_cons_ascii (by decide), Bytes.ofChars_append, ofChars_writeMembers]
  rfl

namespace Reader

theorem past_of_not_blank {byte : UInt8} (noBlank : isBlank byte = false) (rest : Bytes) :
    past (byte :: rest) = byte :: rest := by
  simp [past, noBlank]

/-! ## Written entries -/

section Entries

variable {σ : Type}

inductive Opens (frame : Frame) : Bytes -> Prop where
  | starts {byte : UInt8} {rest : Bytes} (noBlank : isBlank byte = false)
      (noEnd : byte ≠ frame.closing) (quote : frame = .object -> byte = 34) :
      Opens frame (byte :: rest)

theorem opens_quote (frame : Frame) (rest : Bytes) : Opens frame (34 :: rest) := by
  refine .starts (by decide) ?_ fun _ => rfl
  cases frame <;> decide

theorem Opens.hasEntry {frame : Frame} {written : Bytes} (opens : Opens frame written)
    (first : Bool) (rest : Bytes) :
    (hasEntry frame first).run ((if first then [] else [44]) ++ (written ++ rest)) =
      (.ok true, written ++ rest) := by
  cases opens with
  | @starts byte tail noBlank noEnd quote =>
      have start := past_of_not_blank noBlank (tail ++ rest)
      have begins : Begins frame (byte :: (tail ++ rest)) := .at start noEnd quote
      cases first with
      | true => exact (hasEntry_first begins).trans (congrArg _ start)
      | false => exact (hasEntry_next rfl begins).trans (congrArg _ start)

/-- Reading the written entries one by one leads from a first state to a last one. -/
inductive Gathers (frame : Frame) (entry : σ -> Reader σ) : σ -> List Bytes -> σ -> Prop where
  | none {state : σ} : Gathers frame entry state [] state
  | one {state last : σ} {written : Bytes} {others : List Bytes} (next : σ)
      (opens : Opens frame written)
      (read : ∀ rest, Ended rest -> (entry state).run (written ++ rest) = (.ok next, rest))
      (more : Gathers frame entry next others last) : Gathers frame entry state (written :: others) last

theorem ended_separated (frame : Frame) (entries : List Bytes) (rest : Bytes) :
    Ended (separated false entries ++ frame.closing :: rest) := by
  cases entries with
  | nil => cases frame <;> exact ended_cons (by decide) (by decide) (by decide) rest
  | cons entry others => exact ended_cons (by decide) (by decide) (by decide) _

theorem Gathers.fold {frame : Frame} {entry : σ -> Reader σ} {state last : σ} {entries : List Bytes}
    (gathers : Gathers frame entry state entries last) (first : Bool) {fuel : Nat}
    (enough : entries.length < fuel) (rest : Bytes) :
    (foldEntries frame entry fuel first state).run
        (separated first entries ++ frame.closing :: rest) =
      (.ok last, frame.closing :: rest) := by
  induction gathers generalizing first fuel with
  | none =>
      cases fuel with
      | zero => exact absurd enough (Nat.not_lt_zero _)
      | succ fuel =>
          have start : past (frame.closing :: rest) = frame.closing :: rest := by
            cases frame <;> rfl
          simp only [separated, List.nil_append, foldEntries, run_bind, hasEntry_end first start]
          rfl
  | @one state last written others next opens read more ih =>
      cases fuel with
      | zero => exact absurd enough (Nat.not_lt_zero _)
      | succ fuel =>
          have answer := opens.hasEntry first (separated false others ++ frame.closing :: rest)
          -- Behind an entry stands a comma or the bracket, so that a number ends there.
          have step := read _ (ended_separated frame others rest)
          simp only [separated, List.append_assoc, foldEntries, run_bind, answer, if_true, step]
          exact ih false (Nat.lt_of_succ_lt_succ enough)

theorem Opens.length_pos {frame : Frame} {written : Bytes} (opens : Opens frame written) :
    0 < written.length := by
  cases opens with
  | starts noBlank noEnd quote => exact Nat.succ_pos _

theorem length_separated {α : Type} {frame : Frame} {written : α -> Bytes} (first : Bool)
    {items : List α} (opens : ∀ item ∈ items, Opens frame (written item)) :
    items.length ≤ (separated first (items.map written)).length := by
  induction items generalizing first with
  | nil => exact Nat.zero_le _
  | cons item items ih =>
      have some := (opens item List.mem_cons_self).length_pos
      have fewer := ih false fun other present => opens other (List.mem_cons_of_mem _ present)
      simp only [separated, List.map_cons, List.length_cons, List.length_append]
      omega

theorem length_of_mem_separated {α : Type} (written : α -> Bytes) (first : Bool) {items : List α}
    {item : α} (present : item ∈ items) :
    (written item).length ≤ (separated first (items.map written)).length := by
  induction items generalizing first with
  | nil => cases present
  | cons other others ih =>
      simp only [List.map_cons, separated, List.length_append]
      cases present with
      | head => omega
      | tail _ later =>
          have shorter := ih false later
          omega

/-- A frame is closed behind what was read of it. -/
theorem run_closing {α : Type} (frame : Frame) {body : Reader α} {input rest : Bytes} {a : α}
    (read : body.run input = (.ok a, frame.closing :: rest)) :
    (closing body (endOf frame)).run input = (.ok a, rest) := by
  have start : past (frame.closing :: rest) = frame.closing :: rest := by
    cases frame <;> rfl
  simp only [closing, read, endOf_closing start]

/-- Items that are gathered one by one are all gathered, the last one first. -/
theorem fold_written {α : Type} {frame : Frame} {entry : List α -> Reader (List α)}
    {written : α -> Bytes} {items : List α} (opens : ∀ item ∈ items, Opens frame (written item))
    (read : ∀ item ∈ items, ∀ done rest, Ended rest ->
      (entry done).run (written item ++ rest) = (.ok (item :: done), rest))
    {fuel : Nat} (enough : items.length < fuel) (rest : Bytes) :
    (foldEntries frame entry fuel true []).run
        (separated true (items.map written) ++ frame.closing :: rest) =
      (.ok items.reverse, frame.closing :: rest) := by
  have gathers : Gathers frame entry [] (items.map written) (items.reverse ++ []) := by
    generalize [] = done
    clear enough
    induction items generalizing done with
    | nil => exact .none
    | cons item items ih =>
        have more := ih (fun other present => opens other (List.mem_cons_of_mem _ present))
          (fun other present => read other (List.mem_cons_of_mem _ present)) (item :: done)
        rw [List.reverse_cons, List.append_assoc]
        exact .one _ (opens item List.mem_cons_self) (read item List.mem_cons_self done) more
  rw [List.append_nil] at gathers
  exact gathers.fold true (by rwa [List.length_map]) rest

end Entries

end Reader

/-! ## Whole values -/

def Storable : JsonNumber -> Prop
  | .natural value => value < wordCount
  | .negative magnitude => 0 < magnitude ∧ magnitude ≤ twoTo 63
  | .binary _ => False

theorem not_blank_of_digit {byte : UInt8} (digit : Bytes.isDigit byte = true) :
    isBlank byte = false := by
  have differs {other : UInt8} (noDigit : Bytes.isDigit other = false) : (byte == other) = false :=
    digit_ne digit noDigit
  rw [isBlank, differs (by decide), differs (by decide), differs (by decide), differs (by decide)]
  rfl

theorem digits_begin (value : Nat) : ∃ byte tail,
    Bytes.ofChars (Nat.toDigits 10 value) = byte :: tail ∧ Bytes.isDigit byte = true := by
  have all : ∀ letter ∈ Nat.toDigits 10 value, letter.isDigit = true := by
    intro letter present
    exact Nat.isDigit_of_mem_toDigits (by decide) (by decide) present
  obtain ⟨letter, letters, shape⟩ : ∃ letter letters, Nat.toDigits 10 value = letter :: letters :=
    List.exists_cons_of_ne_nil Nat.toDigits_ne_nil
  rw [ofChars_digits all, shape]
  rw [shape] at all
  exact ⟨_, _, rfl, (code_digit (all letter List.mem_cons_self)).2.1⟩

theorem ofChars_negative (magnitude : Nat) :
    Bytes.ofChars (writeNumber (.negative magnitude)) =
      45 :: Bytes.ofChars (Nat.toDigits 10 magnitude) :=
  Bytes.ofChars_cons_ascii (by decide) _

theorem numberAt_written {number : JsonNumber} (storable : Storable number) {rest : Bytes}
    (ended : Ended rest) :
    NumberAt (Bytes.ofChars (writeNumber number) ++ rest) rest number := by
  cases number with
  | natural value =>
      have read := number_written true storable ended
      obtain ⟨byte, tail, shape, digit⟩ := digits_begin value
      rw [shape] at read
      rw [writeNumber, shape]
      exact .unsigned (past_of_not_blank (not_blank_of_digit digit) _) digit read
  | negative magnitude =>
      have fits : magnitude < wordCount := Nat.lt_of_le_of_lt storable.2 (by decide)
      have read := number_written false fits ended
      have positive : magnitude ≠ 0 := Nat.pos_iff_ne_zero.mp storable.1
      have small : ¬ twoTo 63 < magnitude := Nat.not_lt.mpr storable.2
      have same : whole false magnitude = .negative magnitude := by
        simp [whole, positive, small]
      rw [same] at read
      rw [ofChars_negative]
      exact .signed (past_of_not_blank (by decide) _) read
  | binary value => exact storable.elim

/-- The values that are read back, nested in so many levels of lists and objects at most. -/
inductive Readable : Nat -> Json -> Prop where
  | null {levels : Nat} : Readable levels .null
  | bool {levels : Nat} (value : Bool) : Readable levels (.bool value)
  | number {levels : Nat} {value : JsonNumber} (storable : Storable value) :
      Readable levels (.number value)
  | text {levels : Nat} (value : String) : Readable levels (.text value)
  | array {levels : Nat} {items : List Json} (inside : ∀ item ∈ items, Readable levels item) :
      Readable (levels + 1) (.array items)
  | object {levels : Nat} {members : List (String × Json)}
      (inside : ∀ member ∈ members, Readable levels member.2) :
      Readable (levels + 1) (.object members)

theorem opens_written {levels : Nat} {value : Json} (readable : Readable levels value) :
    Opens .list (Bytes.ofChars (write value)) := by
  cases readable with
  | null => exact .starts (by decide) (by decide) nofun
  | bool value => cases value <;> exact .starts (by decide) (by decide) nofun
  | @number levels number storable =>
      cases number with
      | natural value =>
          obtain ⟨byte, tail, shape, digit⟩ := digits_begin value
          rw [write, writeNumber, shape]
          refine .starts (not_blank_of_digit digit) ?_ nofun
          exact beq_eq_false_iff_ne.mp (digit_ne digit (by decide))
      | negative magnitude =>
          rw [write, ofChars_negative]
          exact .starts (by decide) (by decide) nofun
      | binary value => exact storable.elim
  | text value =>
      rw [write, ofChars_quoted]
      exact opens_quote .list _
  | array inside =>
      rw [ofChars_array]
      exact .starts (by decide) (by decide) nofun
  | object inside =>
      rw [ofChars_object]
      exact .starts (by decide) (by decide) nofun

theorem run_valueWithin_number {input after : Bytes} {number : JsonNumber}
    (here : NumberAt input after number) (fuel depth : Nat) :
    (valueWithin (fuel + 1) depth).run input = (.ok (.number number), after) := by
  cases here with
  | signed start read =>
      simp only [valueWithin, run_bind, run_peekPastBlanks, start, List.head?_cons]
      rw [if_neg (by decide), if_neg (by decide), if_neg (by decide), if_pos (by decide),
        run_advance_bind, run_bind, List.tail_cons, read]
      rfl
  | unsigned start digit read =>
      simp only [valueWithin, run_bind, run_peekPastBlanks, start, List.head?_cons]
      rw [digit_ne digit (by decide), digit_ne digit (by decide), digit_ne digit (by decide),
        digit_ne digit (by decide), digit]
      simp only [Bool.false_eq_true, if_false, if_true, run_bind, read]
      rfl

theorem run_valueWithin_list (fuel levels : Nat) (input : Bytes) :
    (valueWithin (fuel + 1) (levels + 2)).run (91 :: input) =
      (closing (do
        let items ← foldItems (fun items => do return (← valueWithin fuel (levels + 1)) :: items)
          (fuel + 1) true []
        return .array items.reverse) (endOf .list)).run input := by
  have deep : ¬ levels + 2 ≤ 1 := by omega
  have start : past (91 :: input) = 91 :: input := rfl
  simp only [valueWithin, run_bind, run_peekPastBlanks, start, List.head?_cons]
  rw [if_neg (by decide), if_neg (by decide), if_neg (by decide), if_neg (by decide),
    if_neg (by decide), if_neg (by decide), if_pos (by decide), if_neg deep, run_advance_bind]
  rfl

theorem run_valueWithin_object (fuel levels : Nat) (input : Bytes) :
    (valueWithin (fuel + 1) (levels + 2)).run (123 :: input) =
      (closing (do
        let members ← foldMembers
          (fun members key => do colon; return (key, ← valueWithin fuel (levels + 1)) :: members)
          (fuel + 1) true []
        return .object members.reverse) (endOf .object)).run input := by
  have deep : ¬ levels + 2 ≤ 1 := by omega
  have start : past (123 :: input) = 123 :: input := rfl
  simp only [valueWithin, run_bind, run_peekPastBlanks, start, List.head?_cons]
  rw [if_neg (by decide), if_neg (by decide), if_neg (by decide), if_neg (by decide),
    if_neg (by decide), if_neg (by decide), if_neg (by decide), if_pos (by decide), if_neg deep,
    run_advance_bind]
  rfl

theorem run_colon_bind {α : Type} (reader : Reader α) (input : Bytes) :
    (do colon; reader : Reader α).run (58 :: input) = reader.run input := rfl

theorem keyed_written {σ : Type} (step : σ -> String -> Reader σ) (state : σ)
    (member : String × Json) (rest : Bytes) :
    (keyed step state).run (writtenMember member ++ rest) =
      (step state member.1).run (58 :: (Bytes.ofChars (write member.2) ++ rest)) := by
  rw [keyed, run_advance_bind, writtenMember, List.cons_append, List.cons_append, List.append_assoc,
    List.tail_cons, run_bind, string_written]
  rfl

theorem list_written {fuel levels : Nat} {items : List Json}
    (opens : ∀ item ∈ items, Opens .list (Bytes.ofChars (write item)))
    (read : ∀ item ∈ items, ∀ rest, Ended rest ->
      (valueWithin fuel (levels + 1)).run (Bytes.ofChars (write item) ++ rest) = (.ok item, rest))
    (enough : items.length ≤ fuel) (rest : Bytes) :
    (valueWithin (fuel + 1) (levels + 2)).run (Bytes.ofChars (write (.array items)) ++ rest) =
      (.ok (.array items), rest) := by
  have step : ∀ item ∈ items, ∀ done rest, Ended rest ->
      (do return (← valueWithin fuel (levels + 1)) :: done : Reader (List Json)).run
        (Bytes.ofChars (write item) ++ rest) = (.ok (item :: done), rest) := by
    intro item present done rest ended
    simp only [run_bind, read item present rest ended]
    rfl
  have folded := fold_written opens step (Nat.lt_succ_of_le enough) rest
  rw [ofChars_array, List.cons_append, List.append_assoc, run_valueWithin_list]
  apply run_closing .list
  rw [run_bind, foldItems_run, List.singleton_append]
  simp only [Frame.closing] at folded ⊢
  rw [folded]
  simp only [List.reverse_reverse]
  rfl

theorem object_written {fuel levels : Nat} {members : List (String × Json)}
    (read : ∀ member ∈ members, ∀ rest, Ended rest ->
      (valueWithin fuel (levels + 1)).run (Bytes.ofChars (write member.2) ++ rest) =
        (.ok member.2, rest))
    (enough : members.length ≤ fuel) (rest : Bytes) :
    (valueWithin (fuel + 1) (levels + 2)).run (Bytes.ofChars (write (.object members)) ++ rest) =
      (.ok (.object members), rest) := by
  have opens : ∀ member ∈ members, Opens .object (writtenMember member) :=
    fun member _ => opens_quote .object _
  have step : ∀ member ∈ members, ∀ done rest, Ended rest ->
      (keyed (fun (done : List (String × Json)) key => do
        colon
        return (key, ← valueWithin fuel (levels + 1)) :: done) done).run
        (writtenMember member ++ rest) = (.ok (member :: done), rest) := by
    intro member present done rest ended
    rw [keyed_written, run_colon_bind, run_bind, read member present rest ended]
    rfl
  have folded := fold_written opens step (Nat.lt_succ_of_le enough) rest
  rw [ofChars_object, List.cons_append, List.append_assoc, run_valueWithin_object]
  apply run_closing .object
  rw [run_bind, foldMembers_run, List.singleton_append]
  simp only [Frame.closing] at folded ⊢
  rw [folded]
  simp only [List.reverse_reverse]
  rfl

theorem valueWithin_written {levels : Nat} {value : Json} (readable : Readable levels value)
    {fuel : Nat} (enough : (Bytes.ofChars (write value)).length < fuel) {rest : Bytes}
    (ended : Ended rest) :
    (valueWithin fuel (levels + 1)).run (Bytes.ofChars (write value) ++ rest) =
      (.ok value, rest) := by
  obtain ⟨fuel, rfl⟩ : ∃ less, fuel = less + 1 := Nat.exists_eq_add_one_of_ne_zero (by omega)
  -- The length of the text bounds both how many entries there are and how deep each of them is.
  induction readable generalizing fuel rest with
  | null => rfl
  | bool value => cases value <;> rfl
  | number storable => exact run_valueWithin_number (numberAt_written storable ended) fuel _
  | text value =>
      have start : past (34 :: (quotedTail value ++ rest)) = 34 :: (quotedTail value ++ rest) := rfl
      simp only [write, ofChars_quoted, List.cons_append, valueWithin, run_bind, run_peekPastBlanks,
        start, List.head?_cons]
      rw [if_neg (by decide), if_neg (by decide), if_neg (by decide), if_neg (by decide),
        if_neg (by decide), if_pos (by decide), run_advance_bind, run_bind, List.tail_cons,
        string_written]
      rfl
  | @array levels items inside ih =>
      rw [ofChars_array, List.length_cons, List.length_append] at enough
      have opens : ∀ item ∈ items, Opens .list (Bytes.ofChars (write item)) :=
        fun item present => opens_written (inside item present)
      have fewer := length_separated true opens
      refine list_written opens ?_ (by omega) rest
      intro item present rest ended
      have shorter := length_of_mem_separated (fun item => Bytes.ofChars (write item)) true present
      match fuel with
      | 0 => omega
      | fuel + 1 => exact ih item present ended fuel (by omega)
  | @object levels members inside ih =>
      rw [ofChars_object, List.length_cons, List.length_append] at enough
      have opens : ∀ member ∈ members, Opens .object (writtenMember member) :=
        fun member _ => opens_quote .object _
      have fewer := length_separated true opens
      refine object_written ?_ (by omega) rest
      intro member present rest ended
      have shorter := length_of_mem_separated writtenMember true present
      simp only [writtenMember, List.length_cons, List.length_append] at shorter
      match fuel with
      | 0 => omega
      | fuel + 1 => exact ih member present ended fuel (by omega)

/-- The text of a value is read as that value. -/
theorem read_encode {value : Json} (readable : Readable (depthLimit - 1) value) :
    Json.read value.encode = .ok value := by
  have read := valueWithin_written readable (Nat.lt_succ_self _) ended_nil
  rw [List.append_nil] at read
  have bytes : value.encode = Bytes.ofChars (write value) := Bytes.ofText_ofList (write value)
  rw [bytes]
  exact all_of_run read

end HttpService.Json
