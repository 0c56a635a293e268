import HttpService.Proofs.ReaderRuns
/-! # What well-formed text spans

`Spans piece input after` says that `input` begins with a well-formed piece of JSON and that `after`
is what follows it. The relation needs no bound on depth or length. Whatever `skip` reads past is a
value in this sense (`spans_skip`), and a piece ends in one place only (`Spans.unique`). -/
set_option autoImplicit false

namespace HttpService.Json.Reader

inductive Frame where
  | list
  | object

namespace Frame

def opening : Frame -> UInt8
  | list => 91
  | object => 123

def closing : Frame -> UInt8
  | list => 93
  | object => 125

theorem closing_ne_comma (frame : Frame) : frame.closing ≠ 44 := by
  cases frame <;> decide

end Frame

/-- The pieces that text is made of. -/
inductive Piece where
  | value
  /-- A colon and a value. -/
  | pair
  /-- A key with its pair. -/
  | member
  /-- What is left between the ends of a frame, with its closing end. -/
  | entries (frame : Frame) (first : Bool)

def Frame.entry : Frame -> Piece
  | .list => .value
  | .object => .member

def scalar? (byte : UInt8) : Option (Reader Unit) :=
  if byte == Bytes.code 'n' then some (ident ['u', 'l', 'l'])
  else if byte == Bytes.code 't' then some (ident ['r', 'u', 'e'])
  else if byte == Bytes.code 'f' then some (ident ['a', 'l', 's', 'e'])
  else if byte == 45 then some skipNumber
  else if Bytes.isDigit byte then some ⟨fun rest => skipNumber.run (byte :: rest)⟩
  else if byte == 34 then some skipString
  else none

theorem digit_ne {byte other : UInt8} (digit : Bytes.isDigit byte = true)
    (noDigit : Bytes.isDigit other = false) : (byte == other) = false := by
  rw [beq_eq_false_iff_ne]
  intro same
  rw [same, noDigit] at digit
  cases digit

theorem scalar?_digit {byte : UInt8} (digit : Bytes.isDigit byte = true) :
    scalar? byte = some ⟨fun rest => skipNumber.run (byte :: rest)⟩ := by
  have noN : (byte == Bytes.code 'n') = false := digit_ne digit (by decide)
  have noT : (byte == Bytes.code 't') = false := digit_ne digit (by decide)
  have noF : (byte == Bytes.code 'f') = false := digit_ne digit (by decide)
  have noSign : (byte == 45) = false := digit_ne digit (by decide)
  simp [scalar?, digit, noN, noT, noF, noSign]

inductive Spans : Piece -> Bytes -> Bytes -> Prop where
  | scalar {input rest after : Bytes} {byte : UInt8} {reader : Reader Unit}
      (start : past input = byte :: rest) (chosen : scalar? byte = some reader)
      (read : reader.run rest = (.ok (), after)) : Spans .value input after
  | group {input rest after : Bytes} (frame : Frame) (start : past input = frame.opening :: rest)
      (inside : Spans (.entries frame true) rest after) : Spans .value input after
  | pair {input rest after : Bytes} (start : past input = 58 :: rest)
      (value : Spans .value rest after) : Spans .pair input after
  | member {input rest between after : Bytes} (start : past input = 34 :: rest)
      (key : skipString.run rest = (.ok (), between)) (pair : Spans .pair between after) :
      Spans .member input after
  | ends {frame : Frame} {first : Bool} {input after : Bytes}
      (start : past input = frame.closing :: after) : Spans (.entries frame first) input after
  | begins {frame : Frame} {input between after : Bytes}
      (entry : Spans frame.entry input between)
      (more : Spans (.entries frame false) between after) : Spans (.entries frame true) input after
  | goesOn {frame : Frame} {input rest between after : Bytes} (start : past input = 44 :: rest)
      (entry : Spans frame.entry rest between)
      (more : Spans (.entries frame false) between after) : Spans (.entries frame false) input after

theorem Spans.congr {piece : Piece} {input other after : Bytes} (spans : Spans piece input after)
    (same : past input = past other) : Spans piece other after := by
  induction spans generalizing other with
  | scalar start chosen read => exact .scalar (same ▸ start) chosen read
  | group frame start inside => exact .group frame (same ▸ start) inside
  | pair start value => exact .pair (same ▸ start) value
  | member start key pair => exact .member (same ▸ start) key pair
  | ends start => exact .ends (same ▸ start)
  | begins entry more ih _ => exact .begins (ih same) more
  | goesOn start entry more => exact .goesOn (same ▸ start) entry more

theorem Spans.of_past {piece : Piece} {input after : Bytes}
    (spans : Spans piece (past input) after) : Spans piece input after :=
  spans.congr (past_past input)

theorem Spans.to_past {piece : Piece} {input after : Bytes} (spans : Spans piece input after) :
    Spans piece (past input) after :=
  spans.congr (past_past input).symm

/-! ## What is read past -/

theorem spans_skipItems {item : Reader Unit}
    (sound : ∀ input after, item.run input = (.ok (), after) -> Spans .value input after)
    (fuel : Nat) (first : Bool) (input after : Bytes)
    (read : (skipItems item fuel first).run input = (.ok (), after)) :
    Spans (.entries .list first) input after := by
  induction fuel generalizing first input with
  | zero => simp [skipItems, run_fail] at read
  | succ fuel ih =>
      simp only [skipItems, run_bind, run_peekPastBlanks] at read
      split at read
      next => simp [run_failPeeked] at read
      next ended =>
        simp only [run_advance, Prod.mk.injEq, true_and] at read
        rw [← read]
        exact .ends (past_eq_of_head? ended)
      next byte _ seen =>
        split at read
        next isFirst =>
          obtain ⟨_, between, itemRead, moreRead⟩ := bind_eq_ok.mp read
          rw [isFirst]
          exact .begins (sound _ _ itemRead).of_past (ih false between moreRead)
        next notFirst =>
          split at read
          next comma =>
            obtain ⟨_, _, advanced, read⟩ := bind_eq_ok.mp read
            obtain ⟨_, between, itemRead, moreRead⟩ := bind_eq_ok.mp read
            simp only [run_advance, Prod.mk.injEq, true_and] at advanced
            rw [← advanced] at itemRead
            simp only [Bool.not_eq_true] at notFirst
            rw [notFirst]
            rw [eq_of_beq comma] at seen
            exact .goesOn (past_eq_of_head? seen) (sound _ _ itemRead)
              (ih false between moreRead)
          next => simp [run_failPeeked] at read

theorem spans_skipMember {item : Reader Unit}
    (sound : ∀ input after, item.run input = (.ok (), after) -> Spans .value input after)
    (input after : Bytes) (read : (skipMember item).run input = (.ok (), after)) :
    Spans .member input after := by
  simp only [skipMember, run_bind, run_peekPastBlanks] at read
  split at read
  next quote =>
    obtain ⟨_, _, advanced, read⟩ := bind_eq_ok.mp read
    obtain ⟨_, between, key, read⟩ := bind_eq_ok.mp read
    simp only [run_advance, Prod.mk.injEq, true_and] at advanced
    rw [← advanced] at key
    obtain ⟨rest, start, itemRead⟩ := colon_inversion read
    exact .member (past_eq_of_head? quote) key (.pair start (sound _ _ itemRead))
  next => simp [run_failPeeked] at read
  next => simp [run_failPeeked] at read

theorem spans_skipMembers {item : Reader Unit}
    (sound : ∀ input after, item.run input = (.ok (), after) -> Spans .value input after)
    (fuel : Nat) (first : Bool) (input after : Bytes)
    (read : (skipMembers item fuel first).run input = (.ok (), after)) :
    Spans (.entries .object first) input after := by
  induction fuel generalizing first input with
  | zero => simp [skipMembers, run_fail] at read
  | succ fuel ih =>
      simp only [skipMembers, run_bind, run_peekPastBlanks] at read
      split at read
      next => simp [run_failPeeked] at read
      next ended =>
        simp only [run_advance, Prod.mk.injEq, true_and] at read
        rw [← read]
        exact .ends (past_eq_of_head? ended)
      next byte _ seen =>
        split at read
        next isFirst =>
          obtain ⟨_, between, memberRead, moreRead⟩ := bind_eq_ok.mp read
          rw [isFirst]
          exact .begins (spans_skipMember sound _ _ memberRead).of_past (ih false between moreRead)
        next notFirst =>
          split at read
          next comma =>
            obtain ⟨_, _, advanced, read⟩ := bind_eq_ok.mp read
            obtain ⟨_, between, memberRead, moreRead⟩ := bind_eq_ok.mp read
            simp only [run_advance, Prod.mk.injEq, true_and] at advanced
            rw [← advanced] at memberRead
            simp only [Bool.not_eq_true] at notFirst
            rw [notFirst]
            rw [eq_of_beq comma] at seen
            exact .goesOn (past_eq_of_head? seen) (spans_skipMember sound _ _ memberRead)
              (ih false between moreRead)
          next => simp [run_failPeeked] at read

theorem spans_skipWithin (fuel : Nat) (input after : Bytes)
    (read : (skipWithin fuel).run input = (.ok (), after)) : Spans .value input after := by
  induction fuel generalizing input after with
  | zero => simp [skipWithin, run_fail] at read
  | succ fuel ih =>
      simp only [skipWithin, run_bind, run_peekPastBlanks] at read
      split at read
      next => simp [run_failPeeked] at read
      next byte seen =>
        have start := past_eq_of_head? seen
        split at read
        next letter =>
          rw [eq_of_beq letter] at start
          exact .scalar start rfl read
        split at read
        next letter =>
          rw [eq_of_beq letter] at start
          exact .scalar start rfl read
        split at read
        next letter =>
          rw [eq_of_beq letter] at start
          exact .scalar start rfl read
        split at read
        next sign =>
          rw [eq_of_beq sign] at start
          exact .scalar start rfl read
        split at read
        next digit =>
          rw [start] at read
          exact .scalar start (scalar?_digit digit) read
        split at read
        next quote =>
          rw [eq_of_beq quote] at start
          exact .scalar start rfl read
        split at read
        next bracket =>
          rw [run_advance_bind] at read
          rw [eq_of_beq bracket] at start
          exact .group .list start (spans_skipItems ih _ _ _ _ read)
        split at read
        next brace =>
          rw [run_advance_bind] at read
          rw [eq_of_beq brace] at start
          exact .group .object start (spans_skipMembers ih _ _ _ _ read)
        next => simp [run_failPeeked] at read

theorem spans_skip (input after : Bytes) (read : skip.run input = (.ok (), after)) :
    Spans .value input after :=
  spans_skipWithin (input.length + 1) input after read

/-! ## Where pieces begin and end -/

/-- No entry of a frame ends here, and none follows. -/
def Stuck (input : Bytes) : Prop :=
  ∀ byte, (past input).head? = some byte -> byte ≠ 44 ∧ byte ≠ 93 ∧ byte ≠ 125

theorem scalar?_starts {byte : UInt8} {reader : Reader Unit} (chosen : scalar? byte = some reader) :
    byte ≠ 44 ∧ byte ≠ 93 ∧ byte ≠ 125 ∧ byte ≠ 91 ∧ byte ≠ 123 := by
  have present : (scalar? byte).isSome = true := by
    rw [chosen]
    rfl
  refine ⟨?_, ?_, ?_, ?_, ?_⟩ <;>
    · intro same
      rw [same] at present
      exact absurd present (by decide)

theorem Spans.starts {piece : Piece} {input after : Bytes} (spans : Spans piece input after)
    (frame : Frame) (isEntry : piece = frame.entry) :
    ∃ byte rest, past input = byte :: rest ∧ byte ≠ 44 ∧ byte ≠ 93 ∧ byte ≠ 125 := by
  cases spans with
  | scalar start chosen read =>
      have starts := scalar?_starts chosen
      exact ⟨_, _, start, starts.1, starts.2.1, starts.2.2.1⟩
  | group frame start inside =>
      refine ⟨_, _, start, ?_⟩
      cases frame <;> decide
  | pair start value => cases frame <;> cases isEntry
  | member start key pair => exact ⟨_, _, start, by decide⟩
  | ends start => cases frame <;> cases isEntry
  | begins entry more => cases frame <;> cases isEntry
  | goesOn start entry more => cases frame <;> cases isEntry

theorem Spans.stuck (frame : Frame) {input after : Bytes}
    (spans : Spans frame.entry input after) : Stuck input := by
  obtain ⟨byte, rest, start, starts⟩ := spans.starts frame rfl
  intro first seen
  simp only [start, List.head?_cons, Option.some.injEq] at seen
  rw [← seen]
  exact starts

theorem Spans.scalar_of {input rest after : Bytes} {byte : UInt8} {reader : Reader Unit}
    (spans : Spans .value input after) (start : past input = byte :: rest)
    (chosen : scalar? byte = some reader) : reader.run rest = (.ok (), after) := by
  cases spans with
  | scalar start' chosen' read =>
      rw [start, List.cons.injEq] at start'
      obtain ⟨rfl, rfl⟩ := start'
      rw [chosen, Option.some.injEq] at chosen'
      rw [chosen']
      exact read
  | group frame start' inside =>
      rw [start, List.cons.injEq] at start'
      have starts := scalar?_starts chosen
      cases frame
      · exact absurd start'.1 starts.2.2.2.1
      · exact absurd start'.1 starts.2.2.2.2

theorem Spans.group_of {input rest after : Bytes} (frame : Frame)
    (spans : Spans .value input after) (start : past input = frame.opening :: rest) :
    Spans (.entries frame true) rest after := by
  cases spans with
  | scalar start' chosen read =>
      rw [start, List.cons.injEq] at start'
      have starts := scalar?_starts chosen
      cases frame
      · exact absurd start'.1.symm starts.2.2.2.1
      · exact absurd start'.1.symm starts.2.2.2.2
  | group frame' start' inside =>
      rw [start, List.cons.injEq] at start'
      obtain ⟨sameOpening, rfl⟩ := start'
      have sameFrame : frame = frame' := by
        cases frame <;> cases frame' <;> first | rfl | cases sameOpening
      rw [sameFrame]
      exact inside

theorem Spans.no_end {frame : Frame} {input after : Bytes} (spans : Spans frame.entry input after)
    (rest : Bytes) : past input ≠ frame.closing :: rest := by
  obtain ⟨byte, tail, start, starts⟩ := spans.starts frame rfl
  rw [start]
  intro ended
  rw [List.cons.injEq] at ended
  cases frame
  · exact starts.2.1 ended.1
  · exact starts.2.2 ended.1

/-- A piece ends in one place. -/
theorem Spans.unique {piece : Piece} {input after other : Bytes} (spans : Spans piece input after)
    (again : Spans piece input other) : after = other := by
  induction spans generalizing other with
  | scalar start chosen read =>
      have same := again.scalar_of start chosen
      rw [read, Prod.mk.injEq] at same
      exact same.2
  | group frame start inside ih => exact ih (again.group_of frame start)
  | pair start value ih =>
      cases again with
      | pair start' value' =>
          rw [start, List.cons.injEq] at start'
          obtain ⟨-, rfl⟩ := start'
          exact ih value'
  | member start key pair ih =>
      cases again with
      | member start' key' pair' =>
          rw [start, List.cons.injEq] at start'
          obtain ⟨-, rfl⟩ := start'
          rw [key, Prod.mk.injEq] at key'
          obtain ⟨-, rfl⟩ := key'
          exact ih pair'
  | ends start =>
      cases again with
      | ends start' =>
          rw [start, List.cons.injEq] at start'
          exact start'.2
      | begins entry more => exact absurd start (entry.no_end _)
      | goesOn start' entry more =>
          rw [start, List.cons.injEq] at start'
          exact absurd start'.1 (Frame.closing_ne_comma _)
  | begins entry more ih ihMore =>
      cases again with
      | ends start' => exact absurd start' (entry.no_end _)
      | begins entry' more' =>
          have same := ih entry'
          subst same
          exact ihMore more'
  | goesOn start entry more ih ihMore =>
      cases again with
      | ends start' =>
          rw [start, List.cons.injEq] at start'
          exact absurd start'.1.symm (Frame.closing_ne_comma _)
      | goesOn start' entry' more' =>
          rw [start, List.cons.injEq] at start'
          obtain ⟨-, rfl⟩ := start'
          have same := ih entry'
          subst same
          exact ihMore more'

/-! ## Whether another entry follows -/

def hasEntry : Frame -> Bool -> Reader Bool
  | .list => hasItem
  | .object => hasMember

theorem hasEntry_end {frame : Frame} {input after : Bytes} (first : Bool)
    (start : past input = frame.closing :: after) :
    (hasEntry frame first).run input = (.ok false, frame.closing :: after) := by
  cases frame
  · simp only [hasEntry, hasItem, run_bind, run_peekPastBlanks, start]
    rfl
  · simp only [hasEntry, hasMember, run_bind, run_peekPastBlanks, start]
    rfl

inductive Begins (frame : Frame) (input : Bytes) : Prop where
  | at {byte : UInt8} {rest : Bytes} (start : past input = byte :: rest)
      (noEnd : byte ≠ frame.closing) (quote : frame = .object -> byte = 34) : Begins frame input

theorem Begins.of_spans {frame : Frame} {input after : Bytes} (spans : Spans frame.entry input after) :
    Begins frame input := by
  cases frame with
  | list =>
      obtain ⟨byte, rest, start, others⟩ := spans.starts .list rfl
      exact .at start others.2.1 fun other => by cases other
  | object =>
      cases spans with
      | member start key pair => exact .at start (by decide) fun _ => rfl

theorem hasEntry_first {frame : Frame} {input : Bytes} (begins : Begins frame input) :
    (hasEntry frame true).run input = (.ok true, past input) := by
  obtain ⟨start, noEnd, quote⟩ := begins
  cases frame with
  | list =>
      simp only [hasEntry, hasItem, run_bind, run_peekPastBlanks, start]
      split
      next ended => cases ended
      next closing => exact absurd (Option.some.inj closing) noEnd
      next => rfl
  | object =>
      simp only [hasEntry, hasMember, run_bind, run_peekPastBlanks, start, quote rfl]
      rfl

theorem hasEntry_next {frame : Frame} {input rest : Bytes} (comma : past input = 44 :: rest)
    (begins : Begins frame rest) :
    (hasEntry frame false).run input = (.ok true, past rest) := by
  obtain ⟨start, noEnd, quote⟩ := begins
  cases frame with
  | list =>
      simp only [hasEntry, hasItem, run_bind, run_peekPastBlanks, comma, List.head?_cons]
      split
      next ended => cases ended
      next closing => simp at closing
      next first _ seen =>
        cases seen
        rw [if_neg (by simp), if_pos (beq_self_eq_true _)]
        simp only [run_bind, run_advance, run_peekPastBlanks, List.tail_cons, start, List.head?_cons]
        split
        next closing => exact absurd (Option.some.inj closing) noEnd
        next => rfl
        next ended => cases ended
  | object =>
      simp only [hasEntry, hasMember, run_bind, run_peekPastBlanks, comma, List.head?_cons]
      split
      next ended => cases ended
      next closing => simp at closing
      next first _ seen =>
        cases seen
        rw [if_neg (by simp), if_pos (beq_self_eq_true _)]
        simp only [run_bind, run_advance, run_peekPastBlanks, List.tail_cons, start, List.head?_cons,
          quote rfl]
        rfl

/-- What the answer to the question says about the input. -/
inductive Answered (frame : Frame) (input : Bytes) : Bool -> Bool -> Bytes -> Prop where
  | ended {first : Bool} {after : Bytes} (start : past input = frame.closing :: after) :
      Answered frame input first false (frame.closing :: after)
  | begun (quote : frame = .object -> (past input).head? = some 34) :
      Answered frame input true true (past input)
  | further {rest : Bytes} (comma : past input = 44 :: rest)
      (quote : frame = .object -> (past rest).head? = some 34) :
      Answered frame input false true (past rest)

theorem answered_of_hasItem {first more : Bool} {input stopped : Bytes}
    (asked : (hasItem first).run input = (.ok more, stopped)) :
    Answered .list input first more stopped := by
  simp only [hasItem, run_bind, run_peekPastBlanks] at asked
  split at asked
  next => simp [run_failPeeked] at asked
  next closing =>
    have start := past_eq_of_head? closing
    simp only [run_pure, Prod.mk.injEq, Except.ok.injEq] at asked
    rw [← asked.1, ← asked.2, start]
    exact .ended start
  next byte _ seen =>
    split at asked
    next isFirst =>
      simp only [run_pure, Prod.mk.injEq, Except.ok.injEq] at asked
      rw [← asked.1, ← asked.2, isFirst]
      exact .begun fun other => by cases other
    next notFirst =>
      split at asked
      next comma =>
        rw [eq_of_beq comma] at seen
        simp only [run_bind, run_advance, run_peekPastBlanks] at asked
        split at asked
        next => simp [run_failPeeked] at asked
        next =>
          simp only [run_pure, Prod.mk.injEq, Except.ok.injEq] at asked
          simp only [Bool.not_eq_true] at notFirst
          rw [← asked.1, ← asked.2, notFirst]
          exact .further (past_eq_of_head? seen) fun other => by cases other
        next => simp [run_failPeeked] at asked
      next => simp [run_failPeeked] at asked

theorem answered_of_hasMember {first more : Bool} {input stopped : Bytes}
    (asked : (hasMember first).run input = (.ok more, stopped)) :
    Answered .object input first more stopped := by
  simp only [hasMember, run_bind, run_peekPastBlanks] at asked
  split at asked
  next => simp [run_failPeeked] at asked
  next closing =>
    have start := past_eq_of_head? closing
    simp only [run_pure, Prod.mk.injEq, Except.ok.injEq] at asked
    rw [← asked.1, ← asked.2, start]
    exact .ended start
  next byte _ seen =>
    split at asked
    next isFirst =>
      split at asked
      next quote =>
        simp only [run_pure, Prod.mk.injEq, Except.ok.injEq] at asked
        rw [← asked.1, ← asked.2, isFirst]
        rw [eq_of_beq quote] at seen
        exact .begun fun _ => seen
      next => simp [run_failPeeked] at asked
    next notFirst =>
      split at asked
      next comma =>
        rw [eq_of_beq comma] at seen
        simp only [run_bind, run_advance, run_peekPastBlanks] at asked
        split at asked
        next quote =>
          simp only [run_pure, Prod.mk.injEq, Except.ok.injEq] at asked
          simp only [Bool.not_eq_true] at notFirst
          rw [← asked.1, ← asked.2, notFirst]
          exact .further (past_eq_of_head? seen) fun _ => quote
        next => simp [run_failPeeked] at asked
        next => simp [run_failPeeked] at asked
        next => simp [run_failPeeked] at asked
      next => simp [run_failPeeked] at asked

theorem answered_of_hasEntry {frame : Frame} {first more : Bool} {input stopped : Bytes}
    (asked : (hasEntry frame first).run input = (.ok more, stopped)) :
    Answered frame input first more stopped := by
  cases frame with
  | list => exact answered_of_hasItem asked
  | object => exact answered_of_hasMember asked

def endOf : Frame -> Reader Unit
  | .list => endItems
  | .object => endMembers

theorem endOf_closing {frame : Frame} {input after : Bytes}
    (start : past input = frame.closing :: after) : (endOf frame).run input = (.ok (), after) := by
  cases frame
  · simp only [endOf, endItems, run_bind, run_peekPastBlanks, start]
    rfl
  · simp only [endOf, endMembers, run_bind, run_peekPastBlanks, start]
    rfl

theorem endOf_inversion {frame : Frame} {input after : Bytes}
    (read : (endOf frame).run input = (.ok (), after)) : past input = frame.closing :: after := by
  cases frame with
  | list =>
      simp only [endOf, endItems, run_bind, run_peekPastBlanks] at read
      split at read
      next bracket =>
        have start := past_eq_of_head? bracket
        simp only [run_advance, Prod.mk.injEq, true_and] at read
        rw [start, read]
        rfl
      next =>
        simp only [run_bind, run_advance, run_peekPastBlanks] at read
        split at read
        next => simp [run_failPeeked] at read
        next => simp [run_failPeeked] at read
      next => simp [run_failPeeked] at read
      next => simp [run_failPeeked] at read
  | object =>
      simp only [endOf, endMembers, run_bind, run_peekPastBlanks] at read
      split at read
      next brace =>
        have start := past_eq_of_head? brace
        simp only [run_advance, Prod.mk.injEq, true_and] at read
        rw [start, read]
        rfl
      next => simp [run_failPeeked] at read
      next => simp [run_failPeeked] at read
      next => simp [run_failPeeked] at read

/-- What is closed was read, and ends. -/
theorem closing_inversion {α : Type} (frame : Frame) {body : Reader α} {input after : Bytes} {a : α}
    (read : (closing body (endOf frame)).run input = (.ok a, after)) :
    ∃ between, body.run input = (.ok a, between) ∧ past between = frame.closing :: after := by
  simp only [closing] at read
  rcases ran : body.run input with ⟨fault | b, between⟩
  · simp [ran] at read
  · simp only [ran] at read
    split at read
    next rest ended =>
      simp only [Prod.mk.injEq, Except.ok.injEq] at read
      rw [read.1, ← read.2]
      exact ⟨between, rfl, endOf_inversion ended⟩
    next => simp at read

/-! ## Folding over the entries of a frame -/

section Folding

variable {σ : Type}

def foldEntries (frame : Frame) (entry : σ -> Reader σ) : Nat -> Bool -> σ -> Reader σ
  | 0, _, _ => fail (match frame with | .list => .eofList | .object => .eofObject)
  | fuel + 1, first, state => do
      if (← hasEntry frame first) then foldEntries frame entry fuel false (← entry state)
      else pure state

def keyed (step : σ -> String -> Reader σ) (state : σ) : Reader σ := do
  advance
  step state (← string)

theorem foldItems_run (step : σ -> Reader σ) (fuel : Nat) (first : Bool) (state : σ)
    (input : Bytes) :
    (foldItems step fuel first state).run input =
      (foldEntries .list step fuel first state).run input := by
  induction fuel generalizing first state input with
  | zero => rfl
  | succ fuel ih =>
      simp only [foldItems, foldEntries, run_bind, hasEntry]
      rcases (hasItem first).run input with ⟨fault | more, stopped⟩
      · rfl
      · cases more with
        | false => rfl
        | true =>
            simp only [if_true, run_bind]
            rcases (step state).run stopped with ⟨fault | next, between⟩
            · rfl
            · exact ih false next between

theorem foldMembers_run (step : σ -> String -> Reader σ) (fuel : Nat) (first : Bool) (state : σ)
    (input : Bytes) :
    (foldMembers step fuel first state).run input =
      (foldEntries .object (keyed step) fuel first state).run input := by
  induction fuel generalizing first state input with
  | zero => rfl
  | succ fuel ih =>
      simp only [foldMembers, foldEntries, run_bind, hasEntry]
      rcases (hasMember first).run input with ⟨fault | more, stopped⟩
      · rfl
      · cases more with
        | false => rfl
        | true =>
            simp only [if_true, run_bind, run_advance, keyed]
            rcases string.run stopped.tail with ⟨fault | key, afterKey⟩
            · rfl
            · simp only
              rcases (step state key).run afterKey with ⟨fault | next, between⟩
              · rfl
              · exact ih false next between

/-- What a fold reads, followed by the end of its frame, is the entries of the frame. -/
theorem spans_foldEntries {frame : Frame} {entry : σ -> Reader σ}
    (sound : ∀ state next input after, past input = input ->
      (entry state).run input = (.ok next, after) -> Spans frame.entry input after)
    {fuel : Nat} {first : Bool} {state last : σ} {input stopped after : Bytes}
    (read : (foldEntries frame entry fuel first state).run input = (.ok last, stopped))
    (closing : past stopped = frame.closing :: after) :
    Spans (.entries frame first) input after := by
  induction fuel generalizing first state input with
  | zero => simp [foldEntries, run_fail] at read
  | succ fuel ih =>
      obtain ⟨more, begun, asked, read⟩ := bind_eq_ok.mp read
      cases answered_of_hasEntry asked with
      | ended start =>
          simp only [Bool.false_eq_true, if_false, run_pure, Prod.mk.injEq] at read
          rw [← read.2, past_cons start] at closing
          rw [List.cons.injEq] at closing
          rw [← closing.2]
          exact .ends start
      | begun =>
          simp only [if_true] at read
          obtain ⟨next, between, entryRead, read⟩ := bind_eq_ok.mp read
          have spans := sound _ _ _ _ (past_past input) entryRead
          exact .begins spans.of_past (ih read)
      | further comma =>
          simp only [if_true] at read
          obtain ⟨next, between, entryRead, read⟩ := bind_eq_ok.mp read
          have spans := sound _ _ _ _ (past_past _) entryRead
          exact .goesOn comma spans.of_past (ih read)

end Folding

end HttpService.Json.Reader
