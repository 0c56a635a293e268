import HttpService.Proofs.ReaderRuns
/-! # Reading a text and reading past it

The reader of a text is the stricter one: what it reads, `skipString` reads past, to the same place
(`skipString_of_string`). Where it gives up on a text that can be read past, it stands at the end of
the text or still inside, among plain characters (`string_strays`). -/
set_option autoImplicit false

namespace HttpService.Json.Reader

/-- Where the one that reads past stands while the reader of a text is in a state. It does not know
of surrogate pairs. -/
def skipState : TextState -> TextState
  | .plain => .plain
  | .escape => .escape
  | .hex seen _ => .hex seen none
  | .wantBackslash _ => .plain
  | .wantU _ => .escape

theorem skipTextBody_of_textBody {input after done bytes : Bytes} {state : TextState}
    (read : textBody state done input = (.ok bytes, after)) :
    skipTextBody (skipState state) input = (.ok (), after) := by
  induction input generalizing state done with
  | nil => simp [textBody] at read
  | cons byte rest ih =>
      cases state with
      | plain =>
          simp only [textBody] at read
          simp only [skipState, skipTextBody]
          split at read
          next quote =>
            simp only [Prod.mk.injEq] at read
            rw [if_pos quote, read.2]
          next noQuote =>
            rw [if_neg noQuote]
            split at read
            next backslash =>
              rw [if_pos backslash]
              exact ih read
            next noBackslash =>
              rw [if_neg noBackslash]
              split at read
              next => simp at read
              next noControl =>
                rw [if_neg noControl]
                exact ih read
      | escape =>
          simp only [textBody] at read
          simp only [skipState, skipTextBody]
          split at read
          next unicode =>
            rw [if_pos unicode]
            exact ih read
          next simple =>
            rw [if_neg simple]
            split at read
            next meant known =>
              exact ih read
            next => simp at read
      | hex seen lead =>
          simp only [textBody] at read
          simp only [skipState, skipTextBody]
          split at read
          next short =>
            rw [if_pos short]
            exact ih read
          next complete =>
            rw [if_neg complete]
            simp only [completeHex] at read
            cases written : hexValue? (seen ++ [byte]) with
            | none => simp [written] at read
            | some unit =>
                simp only [written] at read ⊢
                cases lead with
                | none =>
                    simp only at read
                    split at read
                    next => exact ih read
                    next => exact ih read
                    next => simp at read
                | some first =>
                    simp only at read
                    split at read
                    next => exact ih read
                    next => exact ih read
                    next => simp at read
      | wantBackslash lead =>
          simp only [textBody] at read
          simp only [skipState, skipTextBody]
          split at read
          next backslash =>
            rw [eq_of_beq backslash]
            exact ih read
          next => simp at read
      | wantU lead =>
          simp only [textBody] at read
          simp only [skipState, skipTextBody]
          split at read
          next unicode =>
            rw [if_pos unicode]
            exact ih read
          next => simp at read

def GivesUp (after stopped : Bytes) : Prop :=
  stopped = after ∨ skipTextBody .plain stopped = (.ok (), after)

theorem textBody_strays {input after : Bytes} (state : TextState)
    (skipped : skipTextBody (skipState state) input = (.ok (), after)) (done : Bytes) :
    (∃ bytes, textBody state done input = (.ok bytes, after)) ∨
      ∃ fault stopped, textBody state done input = (.error fault, stopped) ∧
        GivesUp after stopped := by
  induction input generalizing state done with
  | nil => cases state <;> simp [skipTextBody] at skipped
  | cons byte rest ih =>
      cases state with
      | plain =>
          simp only [skipState, skipTextBody] at skipped
          simp only [textBody]
          split at skipped
          next quote =>
            simp only [Prod.mk.injEq, true_and] at skipped
            rw [if_pos quote, skipped]
            exact .inl ⟨_, rfl⟩
          next noQuote =>
            rw [if_neg noQuote]
            split at skipped
            next backslash =>
              rw [if_pos backslash]
              exact ih .escape skipped done
            next noBackslash =>
              rw [if_neg noBackslash]
              split at skipped
              next => simp at skipped
              next noControl =>
                rw [if_neg noControl]
                exact ih .plain skipped _
      | escape =>
          simp only [skipState, skipTextBody] at skipped
          simp only [textBody]
          split at skipped
          next unicode =>
            rw [if_pos unicode]
            exact ih (.hex [] none) skipped done
          next simple =>
            rw [if_neg simple]
            split at skipped
            next meant known =>
              exact ih .plain skipped _
            next => simp at skipped
      | hex seen lead =>
          simp only [skipState, skipTextBody] at skipped
          simp only [textBody]
          split at skipped
          next short =>
            rw [if_pos short]
            exact ih (.hex (seen ++ [byte]) lead) skipped done
          next complete =>
            rw [if_neg complete]
            split at skipped
            next unit written =>
              simp only [completeHex, written]
              have refused (reason : Reason) :
                  (∃ bytes, ((.error ⟨reason, rest.length⟩, rest) : Except Fault Bytes × Bytes) =
                      (.ok bytes, after)) ∨
                    ∃ fault stopped, ((.error ⟨reason, rest.length⟩, rest) :
                        Except Fault Bytes × Bytes) = (.error fault, stopped) ∧
                      GivesUp after stopped :=
                .inr ⟨_, _, rfl, .inr skipped⟩
              cases lead with
              | none =>
                  simp only
                  split
                  next => exact ih .plain skipped _
                  next half _ => exact ih (.wantBackslash half) skipped _
                  next => exact refused _
              | some first =>
                  simp only
                  split
                  next => exact ih .plain skipped _
                  next half _ => exact ih (.wantBackslash half) skipped _
                  next => exact refused _
            next => simp at skipped
      | wantBackslash lead =>
          simp only [skipState, skipTextBody] at skipped
          simp only [textBody]
          split at skipped
          next quote =>
            simp only [Prod.mk.injEq, true_and] at skipped
            rw [eq_of_beq quote]
            exact .inr ⟨_, _, rfl, .inl skipped⟩
          next noQuote =>
            split at skipped
            next backslash =>
              rw [if_pos backslash]
              exact ih (.wantU lead) skipped done
            next noBackslash =>
              rw [if_neg noBackslash]
              split at skipped
              next => simp at skipped
              next => exact .inr ⟨_, _, rfl, .inr skipped⟩
      | wantU lead =>
          simp only [skipState, skipTextBody] at skipped
          simp only [textBody]
          split at skipped
          next unicode =>
            rw [if_pos unicode]
            exact ih (.hex [] (some lead)) skipped done
          next simple =>
            rw [if_neg simple]
            split at skipped
            next => exact .inr ⟨_, _, rfl, .inr skipped⟩
            next => simp at skipped

theorem skipString_of_string {input after : Bytes} {text : String}
    (read : string.run input = (.ok text, after)) : skipString.run input = (.ok (), after) := by
  simp only [string] at read
  rcases body : textBody .plain [] input with ⟨fault | bytes, stopped⟩
  · simp [body] at read
  · simp only [body] at read
    split at read
    next =>
      simp only [Prod.mk.injEq] at read
      rw [read.2] at body
      exact skipTextBody_of_textBody body
    next => simp at read

theorem string_strays {input after : Bytes} (skipped : skipString.run input = (.ok (), after)) :
    (∃ text, string.run input = (.ok text, after)) ∨
      ∃ fault stopped, string.run input = (.error fault, stopped) ∧ GivesUp after stopped := by
  simp only [string]
  have start : skipTextBody (skipState .plain) input = (.ok (), after) := skipped
  rcases textBody_strays .plain start [] with ⟨bytes, body⟩ | ⟨fault, stopped, body, gaveUp⟩
  · simp only [body]
    cases Bytes.toText? bytes with
    | some text => exact .inl ⟨text, rfl⟩
    | none => exact .inr ⟨_, _, rfl, .inl rfl⟩
  · rw [body]
    exact .inr ⟨fault, stopped, rfl, gaveUp⟩

end HttpService.Json.Reader
