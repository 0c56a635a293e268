import HttpService.Proofs.Scanning
/-! # What is read past

Every piece that spans takes at least one byte (`Spans.length_lt`), so the bounds of `skip` never run
out on it: `skip` reads past exactly the values that are well formed, `skip_iff_spans`. -/
set_option autoImplicit false

namespace HttpService.Json.Reader

theorem length_past (input : Bytes) : (past input).length ≤ input.length :=
  (List.dropWhile_suffix _).length_le

theorem length_of_past {input rest : Bytes} {byte : UInt8} (start : past input = byte :: rest) :
    rest.length < input.length := by
  have shorter := length_past input
  rw [start, List.length_cons] at shorter
  exact shorter

theorem Takes.length_le {input after : Bytes} (takes : Takes input after) :
    after.length ≤ input.length := by
  obtain ⟨taken, rfl, -⟩ := takes
  rw [List.length_append]
  exact Nat.le_add_left _ _

theorem length_skipTextBody (state : TextState) {input after : Bytes}
    (read : skipTextBody state input = (.ok (), after)) : after.length < input.length := by
  induction input generalizing state with
  | nil => cases state <;> simp [skipTextBody] at read
  | cons byte rest ih =>
      have later (next : TextState) (more : skipTextBody next rest = (.ok (), after)) :
          after.length < (byte :: rest).length :=
        Nat.lt_succ_of_lt (ih next more)
      cases state <;> simp only [skipTextBody] at read
      case plain =>
        split at read
        next =>
          cases read
          exact Nat.lt_succ_self _
        split at read
        next => exact later _ read
        split at read
        next => cases read
        next => exact later _ read
      case escape =>
        split at read
        next => exact later _ read
        split at read
        next => exact later _ read
        next => cases read
      case hex =>
        split at read
        next => exact later _ read
        split at read
        next => exact later _ read
        next => cases read
      case wantBackslash => cases read
      case wantU => cases read

theorem Spans.length_lt {piece : Piece} {input after : Bytes} (spans : Spans piece input after) :
    after.length < input.length := by
  induction spans with
  | scalar start chosen read =>
      have shorter := length_of_past start
      rcases scalar?_cases chosen read with ⟨-, takes⟩ | ⟨-, text⟩
      · exact Nat.lt_of_le_of_lt takes.length_le shorter
      · exact Nat.lt_trans (length_skipTextBody .plain text) shorter
  | group frame start inside ih => exact Nat.lt_trans ih (length_of_past start)
  | pair start value ih => exact Nat.lt_trans ih (length_of_past start)
  | member start key pair ih =>
      have text := length_skipTextBody .plain key
      have shorter := length_of_past start
      omega
  | ends start => exact length_of_past start
  | begins entry more ih ihMore => exact Nat.lt_trans ihMore ih
  | goesOn start entry more ih ihMore =>
      have shorter := length_of_past start
      omega

/-! ## One entry -/

def skipEntry : Frame -> Reader Unit -> Reader Unit
  | .list, item => item
  | .object, item => skipMember item

def skipEntries : Frame -> Reader Unit -> Nat -> Bool -> Reader Unit
  | .list => skipItems
  | .object => skipMembers

theorem skipEntries_end {frame : Frame} {input after : Bytes}
    (start : past input = frame.closing :: after) (item : Reader Unit) (count : Nat) (first : Bool) :
    (skipEntries frame item (count + 1) first).run input = (.ok (), after) := by
  cases frame
  · simp only [skipEntries, skipItems, run_bind, run_peekPastBlanks, start]
    rfl
  · simp only [skipEntries, skipMembers, run_bind, run_peekPastBlanks, start]
    rfl

theorem skipEntries_first {frame : Frame} {input between : Bytes} (begins : Begins frame input)
    {item : Reader Unit} (read : (skipEntry frame item).run (past input) = (.ok (), between))
    (count : Nat) :
    (skipEntries frame item (count + 1) true).run input =
      (skipEntries frame item count false).run between := by
  obtain ⟨start, noEnd, -⟩ := begins
  cases frame with
  | list =>
      simp only [skipEntries, skipItems, run_bind, run_peekPastBlanks]
      simp only [skipEntry] at read
      rw [start] at read ⊢
      split
      next ended => cases ended
      next closing => exact absurd (Option.some.inj closing) noEnd
      next => simp only [if_true, run_bind, read]
  | object =>
      simp only [skipEntries, skipMembers, run_bind, run_peekPastBlanks]
      simp only [skipEntry] at read
      rw [start] at read ⊢
      split
      next ended => cases ended
      next closing => exact absurd (Option.some.inj closing) noEnd
      next => simp only [if_true, run_bind, read]

theorem skipEntries_next {frame : Frame} {input rest between : Bytes}
    (comma : past input = 44 :: rest) {item : Reader Unit}
    (read : (skipEntry frame item).run rest = (.ok (), between)) (count : Nat) :
    (skipEntries frame item (count + 1) false).run input =
      (skipEntries frame item count false).run between := by
  cases frame with
  | list =>
      simp only [skipEntries, skipItems, run_bind, run_peekPastBlanks, comma, List.head?_cons]
      change (do item; skipItems item count false : Reader Unit).run rest = _
      rw [run_bind, show item.run rest = (.ok (), between) from read]
  | object =>
      simp only [skipEntries, skipMembers, run_bind, run_peekPastBlanks, comma, List.head?_cons]
      change (do skipMember item; skipMembers item count false : Reader Unit).run rest = _
      rw [run_bind, show (skipMember item).run rest = (.ok (), between) from read]

/-! ## Values -/

theorem run_skipWithin_scalar {input rest : Bytes} {byte : UInt8} {reader : Reader Unit}
    (start : past input = byte :: rest) (chosen : scalar? byte = some reader) (fuel : Nat) :
    (skipWithin (fuel + 1)).run input = reader.run rest := by
  simp only [scalar?] at chosen
  simp only [skipWithin, run_bind, run_peekPastBlanks, start, List.head?_cons]
  split at chosen
  next letter =>
    cases chosen
    rw [if_pos letter, run_advance_bind, List.tail_cons]
  next noN =>
  split at chosen
  next letter =>
    cases chosen
    rw [if_neg noN, if_pos letter, run_advance_bind, List.tail_cons]
  next noT =>
  split at chosen
  next letter =>
    cases chosen
    rw [if_neg noN, if_neg noT, if_pos letter, run_advance_bind, List.tail_cons]
  next noF =>
  rw [if_neg noN, if_neg noT, if_neg noF]
  split at chosen
  next sign =>
    cases chosen
    rw [if_pos sign, run_advance_bind, List.tail_cons]
  next noSign =>
  split at chosen
  next digit =>
    cases chosen
    rw [if_neg noSign, if_pos digit]
  next noDigit =>
  split at chosen
  next quote =>
    cases chosen
    rw [if_neg noSign, if_neg noDigit, if_pos quote, run_advance_bind, List.tail_cons]
  next => cases chosen

theorem run_skipWithin_group {input rest : Bytes} {frame : Frame}
    (start : past input = frame.opening :: rest) (fuel : Nat) :
    (skipWithin (fuel + 1)).run input =
      (skipEntries frame (skipWithin fuel) (fuel + 1) true).run rest := by
  cases frame with
  | list =>
      simp only [skipWithin, run_bind, run_peekPastBlanks, start, List.head?_cons]
      rfl
  | object =>
      simp only [skipWithin, run_bind, run_peekPastBlanks, start, List.head?_cons]
      rfl

theorem skipEntry_past (frame : Frame) (fuel : Nat) (input : Bytes) :
    (skipEntry frame (skipWithin (fuel + 1))).run (past input) =
      (skipEntry frame (skipWithin (fuel + 1))).run input := by
  cases frame with
  | list => simp only [skipEntry, skipWithin, run_bind, run_peekPastBlanks, past_past]
  | object => simp only [skipEntry, skipMember, run_bind, run_peekPastBlanks, past_past]

/-- The piece is read past, if the bounds are larger than the input. -/
def ReadPast (piece : Piece) (input after : Bytes) : Prop :=
  ∀ fuel, input.length ≤ fuel -> match piece with
    | .value => (skipWithin (fuel + 1)).run input = (.ok (), after)
    | .pair => (do colon; skipWithin (fuel + 1) : Reader Unit).run input = (.ok (), after)
    | .member => (skipMember (skipWithin (fuel + 1))).run input = (.ok (), after)
    | .entries frame first => ∀ count, input.length ≤ count ->
        (skipEntries frame (skipWithin (fuel + 1)) (count + 1) first).run input = (.ok (), after)

theorem ReadPast.entry {frame : Frame} {input after : Bytes}
    (readPast : ReadPast frame.entry input after) {fuel : Nat} (enough : input.length ≤ fuel) :
    (skipEntry frame (skipWithin (fuel + 1))).run input = (.ok (), after) := by
  cases frame with
  | list => exact readPast fuel enough
  | object => exact readPast fuel enough

theorem Spans.readPast {piece : Piece} {input after : Bytes} (spans : Spans piece input after) :
    ReadPast piece input after := by
  induction spans with
  | scalar start chosen read =>
      intro fuel enough
      exact (run_skipWithin_scalar start chosen fuel).trans read
  | group frame start inside ih =>
      intro fuel enough
      -- The bracket that opens the group pays for the level below it.
      have shorter := length_of_past start
      match fuel with
      | fuel + 1 =>
          refine (run_skipWithin_group start (fuel + 1)).trans ?_
          exact ih fuel (by omega) (fuel + 1) (by omega)
      | 0 => omega
  | pair start value ih =>
      intro fuel enough
      have shorter := length_of_past start
      simp only [run_bind, colon, run_peekPastBlanks, start]
      exact ih fuel (by omega)
  | member start key pair ih =>
      intro fuel enough
      have shorter := length_of_past start
      have text := length_skipTextBody .plain key
      simp only [skipMember, run_bind, run_peekPastBlanks, start, List.head?_cons]
      change (do skipString; colon; skipWithin (fuel + 1) : Reader Unit).run _ = _
      rw [run_bind, List.tail_cons, key]
      exact ih fuel (by omega)
  | ends start =>
      intro fuel enough count more
      exact skipEntries_end start _ count _
  | begins entry more ih ihMore =>
      intro fuel enough count many
      have shorter := entry.length_lt
      have read := (skipEntry_past _ fuel _).trans (ih.entry enough)
      refine (skipEntries_first (.of_spans entry) read count).trans ?_
      match count with
      | count + 1 => exact ihMore fuel (by omega) count (by omega)
      | 0 => omega
  | goesOn comma entry more ih ihMore =>
      intro fuel enough count many
      have shorter := entry.length_lt
      have less := length_of_past comma
      have read := ih.entry (Nat.le_trans (Nat.le_of_lt less) enough)
      refine (skipEntries_next comma read count).trans ?_
      match count with
      | count + 1 => exact ihMore fuel (by omega) count (by omega)
      | 0 => omega

/-- The values that are well formed, to any depth, are read past, and nothing else. -/
theorem skip_iff_spans {input after : Bytes} :
    skip.run input = (.ok (), after) ↔ Spans .value input after := by
  constructor
  · exact spans_skip input after
  · intro spans
    exact spans.readPast input.length (Nat.le_refl _)

end HttpService.Json.Reader
