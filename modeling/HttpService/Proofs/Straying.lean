import HttpService.Json.Typed
import HttpService.Proofs.NumberReading
import HttpService.Proofs.Scanning
import HttpService.Proofs.TextReading
/-! # Where a refused value leaves its reader

A reader that gives up on a well-formed value does not always stand at its end. `Stray` lists the
places where it may stand: at the end, before something that neither ends nor continues the frame
around, before a comma of an object inside the value, or inside a text. `Tracks` says of a reader
that it reads a value to its end or strays in one of these ways; the readers of this library's
values do (`valueWithin_tracks`). -/
set_option autoImplicit false

namespace HttpService.Json.Reader

variable {α σ : Type}

structure Followed (input : Bytes) : Prop where
  more : past input ≠ []
  outside : scan .outside input = true

theorem Followed.of_entries {frame : Frame} {first : Bool} {input after : Bytes}
    (spans : Spans (.entries frame first) input after) (outside : scan .outside after = true) :
    Followed input := by
  refine ⟨?_, spans.scan_outside outside⟩
  intro nothing
  cases spans with
  | ends start => simp [nothing] at start
  | begins entry more =>
      obtain ⟨byte, rest, start, -⟩ := entry.starts frame rfl
      simp [nothing] at start
  | goesOn start entry more => simp [nothing] at start

/-- Between the members of an object that is not the last thing in the text. -/
def Deep (input : Bytes) : Prop :=
  ∃ after, Spans (.entries .object false) input after ∧ Followed after

theorem Deep.to_past {input : Bytes} (deep : Deep input) : Deep (past input) := by
  obtain ⟨after, spans, followed⟩ := deep
  exact ⟨after, spans.to_past, followed⟩

/-- Where a reader may stand that gave up on a value with this end. -/
inductive Stray (after : Bytes) : Bytes -> Prop where
  | home : Stray after after
  | stuck {stopped : Bytes} (stuck : Stuck stopped) : Stray after stopped
  | deep {stopped rest : Bytes} (comma : past stopped = 44 :: rest) (deep : Deep stopped) :
      Stray after stopped
  | inside {stopped : Bytes} (inside : scan .inside stopped = true) : Stray after stopped

inductive Ends (after : Bytes) : Except Fault α × Bytes -> Prop where
  | read (value : α) : Ends after (.ok value, after)
  | gaveUp (fault : Fault) {stopped : Bytes} (stray : Stray after stopped) :
      Ends after (.error fault, stopped)

def Tracks (piece : Piece) (reader : Reader α) : Prop :=
  ∀ input after, Spans piece input after -> Followed after -> Ends after (reader.run input)

theorem Stuck.to_past {input : Bytes} (stuck : Stuck input) : Stuck (past input) := by
  intro byte seen
  rw [past_past] at seen
  exact stuck byte seen

theorem stuck_of_past {input rest : Bytes} {byte : UInt8} (start : past input = byte :: rest)
    (other : byte ≠ 44 ∧ byte ≠ 93 ∧ byte ≠ 125) : Stuck input := by
  intro first seen
  simp only [start, List.head?_cons, Option.some.injEq] at seen
  rw [← seen]
  exact other

theorem Stray.among {after stopped : Bytes} (among : StopsAmongDigits after stopped) :
    Stray after stopped := by
  rcases among with rfl | ⟨byte, rest, rfl, digit⟩
  · exact .home
  · have differs (other : UInt8) (noDigit : Bytes.isDigit other = false) : byte ≠ other := by
      intro same
      rw [same, noDigit] at digit
      simp at digit
    have noBlank : isBlank byte = false := by
      cases blank : isBlank byte with
      | false => rfl
      | true =>
          simp only [isBlank, Bool.or_eq_true, beq_iff_eq] at blank
          rcases blank with ((same | same) | same) | same
          · exact absurd same (differs _ (by decide))
          · exact absurd same (differs _ (by decide))
          · exact absurd same (differs _ (by decide))
          · exact absurd same (differs _ (by decide))
    have start : past (byte :: rest) = byte :: rest := by simp [past, noBlank]
    exact .stuck (stuck_of_past start
      ⟨differs _ (by decide), differs _ (by decide), differs _ (by decide)⟩)

theorem Stray.gaveUp {after stopped : Bytes} (gaveUp : GivesUp after stopped)
    (outside : scan .outside after = true) : Stray after stopped := by
  rcases gaveUp with rfl | skipped
  · exact .home
  · exact .inside (scanFrom_of_skipTextBody skipped outside)

/-! ## The ends of frames -/

theorem takes_endOf (frame : Frame) (input : Bytes) :
    Takes input ((endOf frame).run input).2 := by
  cases frame with
  | list =>
      simp only [endOf, endItems, run_bind, run_peekPastBlanks]
      split
      next closing =>
        have start := past_eq_of_head? closing
        exact .of_past start (by decide) (.refl _)
      next comma =>
        have start := past_eq_of_head? comma
        refine .of_past start (by decide) ?_
        simp only [run_bind, run_advance, run_peekPastBlanks]
        split <;> exact takes_past _
      next => exact takes_past input
      next => exact takes_past input
  | object =>
      simp only [endOf, endMembers, run_bind, run_peekPastBlanks]
      split
      next closing =>
        have start := past_eq_of_head? closing
        exact .of_past start (by decide) (.refl _)
      next => exact takes_past input
      next => exact takes_past input
      next => exact takes_past input

theorem endOf_stuck (frame : Frame) {input : Bytes} (stuck : Stuck input) :
    ((endOf frame).run input).2 = past input := by
  cases frame with
  | list =>
      simp only [endOf, endItems, run_bind, run_peekPastBlanks]
      split
      next closing => exact absurd rfl (stuck 93 closing).2.1
      next comma => exact absurd rfl (stuck 44 comma).1
      next => rfl
      next => rfl
  | object =>
      simp only [endOf, endMembers, run_bind, run_peekPastBlanks]
      split
      next closing => exact absurd rfl (stuck 125 closing).2.2
      next => rfl
      next => rfl
      next => rfl

/-- At a comma the end of a list is one byte too far, and the end of an object stays. -/
theorem endOf_comma {frame : Frame} {input rest : Bytes} (comma : past input = 44 :: rest) :
    ((endOf frame).run input).2 = match frame with
      | .list => past rest
      | .object => past input := by
  cases frame
  · simp only [endOf, endItems, run_bind, run_peekPastBlanks, comma, run_advance,
      List.head?_cons, List.tail_cons]
    split <;> rfl
  · simp only [endOf, endMembers, run_bind, run_peekPastBlanks, comma]
    rfl

theorem Stray.end_entries {frame : Frame} {first : Bool} {input after : Bytes}
    (spans : Spans (.entries frame first) input after) (followed : Followed after) :
    Stray after ((endOf frame).run input).2 := by
  cases spans with
  | ends start =>
      rw [endOf_closing start]
      exact .home
  | begins entry more =>
      rw [endOf_stuck frame (entry.stuck frame)]
      exact .stuck (entry.stuck frame).to_past
  | goesOn comma entry more =>
      rw [endOf_comma comma]
      cases frame with
      | list => exact .stuck (Spans.stuck .list entry).to_past
      | object =>
          have here : Deep input := ⟨after, .goesOn comma entry more, followed⟩
          exact .deep (by rw [past_past]; exact comma) here.to_past

/-- After an entry was given up, its frame is given up too. -/
theorem Stray.end_stray {frame : Frame} {between stopped after : Bytes}
    (stray : Stray between stopped) (more : Spans (.entries frame false) between after)
    (followed : Followed after) : Stray after ((endOf frame).run stopped).2 := by
  cases stray with
  | home => exact .end_entries more followed
  | stuck stuck =>
      rw [endOf_stuck frame stuck]
      exact .stuck stuck.to_past
  | deep comma deep =>
      rw [endOf_comma comma]
      cases frame with
      | list =>
          obtain ⟨_, spans, _⟩ := deep
          cases spans with
          | ends start =>
              rw [comma, List.cons.injEq] at start
              exact absurd start.1 (by decide)
          | goesOn start entry more =>
              rw [comma, List.cons.injEq] at start
              rw [start.2]
              exact .stuck (Spans.stuck .object entry).to_past
      | object => exact .deep (by rw [past_past]; exact comma) deep.to_past
  | inside inside =>
      rw [(takes_endOf frame stopped).scan_inside] at inside
      exact .inside inside

inductive Reads (frame : Frame) (after : Bytes) : Except Fault α × Bytes -> Prop where
  | read (value : α) {stopped : Bytes} (closing : past stopped = frame.closing :: after) :
      Reads frame after (.ok value, stopped)
  | gaveUp (fault : Fault) {stopped : Bytes} (stray : Stray after ((endOf frame).run stopped).2) :
      Reads frame after (.error fault, stopped)

theorem closing_ends {frame : Frame} {after input : Bytes} {body : Reader α}
    (reads : Reads frame after (body.run input)) :
    Ends after ((closing body (endOf frame)).run input) := by
  simp only [closing]
  generalize body.run input = result at reads
  cases reads with
  | read value closing =>
      simp only [endOf_closing closing]
      exact .read value
  | gaveUp fault stray => exact .gaveUp fault stray

theorem Reads.map {β : Type} {frame : Frame} {after input : Bytes} {body : Reader α}
    (reads : Reads frame after (body.run input)) (f : α -> β) :
    Reads frame after ((do return f (← body) : Reader β).run input) := by
  simp only [run_bind]
  generalize body.run input = result at reads
  cases reads with
  | read value closing => exact .read (f value) closing
  | gaveUp fault stray => exact .gaveUp fault stray

/-- A fold over the entries of a frame reads them all or strays, if the reader of one entry does. -/
theorem foldEntries_reads {frame : Frame} {entry : σ -> Reader σ}
    (tracks : ∀ state input after, past input = input -> Spans frame.entry input after ->
      Followed after -> Ends after ((entry state).run input))
    (fuel : Nat) (first : Bool) (state : σ) (input after : Bytes)
    (spans : Spans (.entries frame first) input after) (followed : Followed after) :
    Reads frame after ((foldEntries frame entry fuel first state).run input) := by
  induction fuel generalizing first state input with
  -- Without fuel the fold gives up where it stands, before an entry.
  | zero => exact .gaveUp _ (.end_entries spans followed)
  | succ fuel ih =>
      have onwards (between start : Bytes) (isPast : past start = start)
          (entrySpans : Spans frame.entry start between)
          (more : Spans (.entries frame false) between after) :
          Reads frame after
            ((entry state >>= foldEntries frame entry fuel false).run start) := by
        have ends := tracks state start between isPast entrySpans (.of_entries more followed.outside)
        simp only [run_bind]
        generalize (entry state).run start = result at ends
        cases ends with
        | read next => exact ih false next between more
        | gaveUp fault stray => exact .gaveUp fault (stray.end_stray more followed)
      cases spans with
      | ends start =>
          simp only [foldEntries, run_bind, hasEntry_end first start]
          exact .read state (past_cons start)
      | begins entrySpans more =>
          simp only [foldEntries, run_bind, hasEntry_first (.of_spans entrySpans)]
          exact onwards _ _ (past_past input) entrySpans.to_past more
      | goesOn comma entrySpans more =>
          simp only [foldEntries, run_bind, hasEntry_next comma (.of_spans entrySpans)]
          exact onwards _ _ (past_past _) entrySpans.to_past more

/-! ## Keys and scalars -/

theorem string_ends {input after : Bytes} (skipped : skipString.run input = (.ok (), after))
    (outside : scan .outside after = true) : Ends after (string.run input) := by
  rcases string_strays skipped with ⟨text, read⟩ | ⟨fault, stopped, gaveUp, where'⟩
  · rw [read]
    exact .read text
  · rw [gaveUp]
    exact .gaveUp fault (.gaveUp where' outside)

theorem number_ends {input after : Bytes} (skipped : skipNumber.run input = (.ok (), after))
    (positive : Bool) : Ends after ((number positive).run input) := by
  rcases number_strays skipped positive with ⟨written, read⟩ | ⟨fault, stopped, gaveUp, among⟩
  · rw [read]
    exact .read written
  · rw [gaveUp]
    exact .gaveUp fault (.among among)

theorem Ends.bind {β : Type} {after input : Bytes} {reader : Reader α} {next : α -> Reader β}
    (ends : Ends after (reader.run input)) (later : ∀ value, Ends after ((next value).run after)) :
    Ends after ((reader >>= next).run input) := by
  simp only [run_bind]
  generalize reader.run input = result at ends
  cases ends with
  | read value => exact later value
  | gaveUp fault stray => exact .gaveUp fault stray

theorem Stray.of_ends {after : Bytes} {result : Except Fault α × Bytes} (ends : Ends after result) :
    Stray after result.2 := by
  cases ends with
  | read value => exact .home
  | gaveUp fault stray => exact stray

theorem ends_pure (after : Bytes) (value : α) : Ends after ((pure value : Reader α).run after) :=
  .read value

theorem ends_fail (after : Bytes) (reason : Reason) :
    Ends after ((fail reason : Reader α).run after) := .gaveUp _ .home

theorem keyed_ends {step : σ -> String -> Reader σ} (tracks : ∀ state key, Tracks .pair (step state key))
    (state : σ) (input after : Bytes) (isPast : past input = input)
    (spans : Spans .member input after) (followed : Followed after) :
    Ends after ((keyed step state).run input) := by
  cases spans with
  | member start key pair =>
      rename_i rest between
      rw [isPast] at start
      subst start
      have outside := pair.scan_outside followed.outside
      have reached : (keyed step state).run (34 :: rest) =
          (string >>= step state).run rest := rfl
      rw [reached]
      have ends := string_ends key outside
      simp only [run_bind]
      generalize string.run rest = result at ends
      cases ends with
      | read text => exact tracks state text between after pair followed
      | gaveUp fault stray =>
          refine .gaveUp fault ?_
          cases stray with
          | home =>
              cases pair with
              | pair colon value => exact .stuck (stuck_of_past colon (by decide))
          | stuck stuck => exact .stuck stuck
          | deep comma deep => exact .deep comma deep
          | inside inside => exact .inside inside

theorem colon_ends {reader : Reader α} (tracks : Tracks .value reader) :
    Tracks .pair (do colon; reader) := by
  intro input after spans followed
  cases spans with
  | pair start value =>
      rcases run_colon input with ⟨ran, -⟩ | ⟨-, noColon⟩
      · simp only [run_bind, ran, start, List.tail_cons]
        exact tracks _ _ value followed
      · simp [start] at noColon

theorem foldItems_reads {step : σ -> Reader σ} (tracks : ∀ state, Tracks .value (step state))
    (fuel : Nat) (state : σ) (input after : Bytes)
    (spans : Spans (.entries .list true) input after) (followed : Followed after) :
    Reads .list after ((foldItems step fuel true state).run input) := by
  rw [foldItems_run]
  refine foldEntries_reads ?_ fuel true state input after spans followed
  intro state input after _ spans followed
  exact tracks state input after spans followed

theorem foldMembers_reads {step : σ -> String -> Reader σ}
    (tracks : ∀ state key, Tracks .pair (step state key))
    (fuel : Nat) (state : σ) (input after : Bytes)
    (spans : Spans (.entries .object true) input after) (followed : Followed after) :
    Reads .object after ((foldMembers step fuel true state).run input) := by
  rw [foldMembers_run]
  exact foldEntries_reads (keyed_ends tracks) fuel true state input after spans followed

/-! ## Values -/

theorem valueWithin_tracks (fuel depth : Nat) : Tracks .value (valueWithin fuel depth) := by
  induction fuel generalizing depth with
  | zero =>
      intro input after spans followed
      exact .gaveUp _ (.stuck (Spans.stuck .list spans))
  | succ fuel ih =>
      have item (items : List Json) :
          Tracks .value (do return (← valueWithin fuel (depth - 1)) :: items) := by
        intro input after spans followed
        exact (ih (depth - 1) input after spans followed).bind fun value => ends_pure after _
      have member (members : List (String × Json)) (key : String) :
          Tracks .pair (do
            colon
            return (key, ← valueWithin fuel (depth - 1)) :: members) := by
        apply colon_ends
        intro input after spans followed
        exact (ih (depth - 1) input after spans followed).bind fun value => ends_pure after _
      intro input after spans followed
      obtain ⟨byte, rest, start, others⟩ := spans.starts .list rfl
      have refused : Stuck (byte :: rest) := stuck_of_past (past_cons start) others
      simp only [valueWithin, run_bind, run_peekPastBlanks, start, List.head?_cons]
      split
      next letter =>
        rw [eq_of_beq letter] at start
        rw [run_literal (spans.scalar_of start rfl)]
        exact ends_pure after _
      split
      next letter =>
        rw [eq_of_beq letter] at start
        rw [run_literal (spans.scalar_of start rfl)]
        exact ends_pure after _
      split
      next letter =>
        rw [eq_of_beq letter] at start
        rw [run_literal (spans.scalar_of start rfl)]
        exact ends_pure after _
      split
      next sign =>
        rw [eq_of_beq sign] at start
        have skipped := spans.scalar_of start rfl
        rw [run_advance_bind]
        exact (number_ends skipped false).bind fun written => ends_pure after _
      split
      next digit =>
        have skipped := spans.scalar_of start (scalar?_digit digit)
        exact (number_ends skipped true).bind fun written => ends_pure after _
      split
      next quote =>
        rw [eq_of_beq quote] at start
        have skipped := spans.scalar_of start rfl
        rw [run_advance_bind]
        exact (string_ends skipped followed.outside).bind fun text => ends_pure after _
      split
      next bracket =>
        rw [eq_of_beq bracket] at start
        have inside := spans.group_of .list start
        split
        next => exact .gaveUp _ (.stuck refused)
        next =>
          have reads := foldItems_reads item (fuel + 1) [] rest after inside followed
          rw [run_advance_bind]
          exact closing_ends (reads.map fun items => Json.array items.reverse)
      split
      next brace =>
        rw [eq_of_beq brace] at start
        have inside := spans.group_of .object start
        split
        next => exact .gaveUp _ (.stuck refused)
        next =>
          have reads := foldMembers_reads member (fuel + 1) [] rest after inside followed
          rw [run_advance_bind]
          exact closing_ends (reads.map fun members => Json.object members.reverse)
      next => exact .gaveUp _ (.stuck refused)

/-! ## Values of a wanted shape -/

theorem refuse_ends {input rest after : Bytes} {byte : UInt8} (spans : Spans .value input after)
    (start : past input = byte :: rest) (followed : Followed after) :
    Ends after ((refuse byte : Reader α).run (byte :: rest)) := by
  have refused : Stuck (byte :: rest) := by
    obtain ⟨first, more, start', others⟩ := spans.starts .list rfl
    rw [start, List.cons.injEq] at start'
    rw [← start'.1] at others
    exact stuck_of_past (past_cons start) others
  simp only [refuse]
  split
  next letter =>
    rw [eq_of_beq letter] at start
    rw [run_literal (spans.scalar_of start rfl)]
    exact ends_fail after _
  split
  next letter =>
    rw [eq_of_beq letter] at start
    rw [run_literal (spans.scalar_of start rfl)]
    exact ends_fail after _
  split
  next letter =>
    rw [eq_of_beq letter] at start
    rw [run_literal (spans.scalar_of start rfl)]
    exact ends_fail after _
  split
  next sign =>
    rw [eq_of_beq sign] at start
    have skipped := spans.scalar_of start rfl
    rw [run_advance_bind]
    exact (number_ends skipped false).bind fun _ => ends_fail after _
  split
  next digit =>
    have skipped := spans.scalar_of start (scalar?_digit digit)
    exact (number_ends skipped true).bind fun _ => ends_fail after _
  split
  next quote =>
    rw [eq_of_beq quote] at start
    have skipped := spans.scalar_of start rfl
    rw [run_advance_bind]
    exact (string_ends skipped followed.outside).bind fun _ => ends_fail after _
  split
  next => exact .gaveUp _ (.stuck refused)
  next => exact .gaveUp _ (.stuck refused)

theorem textValue_tracks : Tracks .value textValue := by
  intro input after spans followed
  obtain ⟨byte, rest, start, -⟩ := spans.starts .list rfl
  simp only [textValue, run_bind, run_beginning start]
  split
  next quote =>
    rw [eq_of_beq quote] at start
    have skipped := spans.scalar_of start rfl
    rw [run_advance_bind]
    exact string_ends skipped followed.outside
  next => exact refuse_ends spans start followed

theorem orNull_tracks {reader : Reader α} (tracks : Tracks .value reader) :
    Tracks .value (orNull reader) := by
  intro input after spans followed
  obtain ⟨byte, rest, start, -⟩ := spans.starts .list rfl
  simp only [orNull, run_bind, run_peekPastBlanks, start]
  split
  next null =>
    have letter : byte = Bytes.code 'n' := Option.some.inj null
    rw [letter] at start
    rw [run_literal (spans.scalar_of start rfl)]
    exact ends_pure after _
  next =>
    have ends := tracks (byte :: rest) after (start ▸ spans.to_past) followed
    exact ends.bind fun value => ends_pure after _

theorem closing_fail_ends {frame : Frame} {input after : Bytes}
    (inside : Spans (.entries frame true) input after) (followed : Followed after) :
    Ends after ((closing (fail .mismatch : Reader α) (endOf frame)).run input) :=
  closing_ends (.gaveUp _ (.end_entries inside followed))

end HttpService.Json.Reader
