import HttpService.Proofs.Skipping
import HttpService.Proofs.WholeObjects
/-! # What a whole text holds

A text that is one object has members (`ObjectOf`): each is a key with the bytes from its value on.
A text that is one list has items (`ListOf`). Both are determined by the text. A fold that reads an
object member by member has enough bound for all of them, if each step reads a pair:
`fold_iff_completes`. -/
set_option autoImplicit false

namespace HttpService.Json.Reader

variable {α σ : Type}

def Finds (reader : Reader α) (input : Bytes) (a : α) : Prop :=
  ∃ after, reader.run input = (.ok a, after)

/-! ## Whole texts -/

theorem all_iff {reader : Reader α} {input : Bytes} {a : α} :
    all reader input = .ok a ↔ ∃ rest, reader.run input = (.ok a, rest) ∧ past rest = [] := by
  refine ⟨all_inversion, ?_⟩
  rintro ⟨rest, read, nothing⟩
  simp only [all, run_bind, read, finished, run_peekPastBlanks, nothing]
  rfl

theorem closing_iff (frame : Frame) {body : Reader α} {input after : Bytes} {a : α} :
    (closing body (endOf frame)).run input = (.ok a, after) ↔
      ∃ between, body.run input = (.ok a, between) ∧ past between = frame.closing :: after := by
  refine ⟨closing_inversion frame, ?_⟩
  rintro ⟨between, read, closes⟩
  simp only [closing, read, endOf_closing closes]

/-! ## Objects -/

/-- The members up to the brace that ends the text, each key with the bytes from its value on. -/
inductive Members : Bool -> Bytes -> List (String × Bytes) -> Prop where
  | ends {first : Bool} {input rest : Bytes} (brace : past input = 125 :: rest)
      (nothing : past rest = []) : Members first input []
  | member {first : Bool} {input rest between value after : Bytes} {key : String}
      {others : List (String × Bytes)} (here : KeyAt first input rest)
      (named : string.run rest = (.ok key, between)) (colon : past between = 58 :: value)
      (spans : Spans .value value after) (more : Members false after others) :
      Members first input ((key, value) :: others)

/-- The text is an object with these members, in order. -/
def ObjectOf (text : Bytes) (members : List (String × Bytes)) : Prop :=
  ∃ rest, past text = 123 :: rest ∧ Members true rest members

theorem Members.unique {first : Bool} {input : Bytes} {members others : List (String × Bytes)}
    (here : Members first input members) (again : Members first input others) :
    members = others := by
  induction here generalizing others with
  | ends brace nothing =>
      cases again with
      | ends brace' nothing' => rfl
      | member here' named' colon' spans' more' => exact absurd brace here'.no_brace
  | member here named colon spans more ih =>
      cases again with
      | ends brace' nothing' => exact absurd brace' here.no_brace
      | member here' named' colon' spans' more' =>
          obtain rfl := here.unique here'
          rw [named, Prod.mk.injEq, Except.ok.injEq] at named'
          obtain ⟨rfl, rfl⟩ := named'
          rw [colon, List.cons.injEq] at colon'
          obtain ⟨-, rfl⟩ := colon'
          obtain rfl := spans.unique spans'
          rw [ih more']

theorem ObjectOf.unique {text : Bytes} {members others : List (String × Bytes)}
    (object : ObjectOf text members) (again : ObjectOf text others) : members = others := by
  obtain ⟨rest, start, here⟩ := object
  obtain ⟨rest', start', here'⟩ := again
  rw [start, List.cons.injEq] at start'
  obtain ⟨-, rfl⟩ := start'
  exact here.unique here'

theorem KeyAt.length_lt {first : Bool} {input rest : Bytes} (here : KeyAt first input rest) :
    rest.length < input.length := by
  cases here with
  | first quote => exact length_of_past quote
  | later comma quote => exact Nat.lt_trans (length_of_past quote) (length_of_past comma)

theorem KeyAt.hasMember {first : Bool} {input rest : Bytes} (here : KeyAt first input rest) :
    (hasMember first).run input = (.ok true, 34 :: rest) := by
  have begins {other : Bytes} (quote : past other = 34 :: rest) : Begins .object other :=
    .at quote (by decide) fun _ => rfl
  cases here with
  | first quote => exact (hasEntry_first (begins quote)).trans (congrArg _ quote)
  | later comma quote => exact (hasEntry_next comma (begins quote)).trans (congrArg _ quote)

section Folding

variable {step : σ -> String -> Reader σ}
  (sound : ∀ state key next input after, (step state key).run input = (.ok next, after) ->
    Spans .pair input after)

include sound in
/-- Every member takes some bytes, so a bound that exceeds the input suffices. -/
theorem fold_of_completes {first : Bool} {state last : σ} {input : Bytes}
    (completes : Completes step first state input last) {fuel : Nat} (enough : input.length < fuel) :
    ∃ stopped rest, (foldMembers step fuel first state).run input = (.ok last, stopped) ∧
      past stopped = 125 :: rest ∧ past rest = [] := by
  induction completes generalizing fuel with
  | @ends first state input rest brace nothing =>
      cases fuel with
      | zero => exact absurd enough (Nat.not_lt_zero _)
      | succ fuel =>
          have empty : (hasEntry .object first).run input = (.ok false, Frame.object.closing :: rest) :=
            hasEntry_end first brace
          have none : (hasMember first).run input = (.ok false, 125 :: rest) := empty
          refine ⟨125 :: rest, rest, ?_, past_cons brace, nothing⟩
          simp only [foldMembers, run_bind, none]
          rfl
  | @member first state next last input rest between after key here named stepped more ih =>
      cases fuel with
      | zero => exact absurd enough (Nat.not_lt_zero _)
      | succ fuel =>
          have keyTaken := here.length_lt
          have textTaken : between.length < rest.length :=
            length_skipTextBody .plain (skipString_of_string named)
          have pairTaken := (sound _ _ _ _ _ stepped).length_lt
          have still : after.length < fuel := by omega
          obtain ⟨stopped, ending, folded, closes⟩ := ih still
          refine ⟨stopped, ending, ?_, closes⟩
          simp only [foldMembers, run_bind, here.hasMember, if_true, run_advance, List.tail_cons,
            named, stepped]
          exact folded

include sound in
theorem fold_iff_completes {state last : σ} {input : Bytes} :
    (∃ stopped rest, (foldMembers step (input.length + 1) true state).run input =
        (.ok last, stopped) ∧ past stopped = 125 :: rest ∧ past rest = []) ↔
      Completes step true state input last := by
  constructor
  · rintro ⟨stopped, rest, folded, brace, nothing⟩
    exact completes_of_fold folded brace nothing
  · intro completes
    exact fold_of_completes sound completes (Nat.lt_succ_self _)

end Folding

/-! ## Lists -/

inductive ItemAt : Bool -> Bytes -> Bytes -> Prop where
  | first {input : Bytes} : ItemAt true input input
  | later {input rest : Bytes} (comma : past input = 44 :: rest) : ItemAt false input rest

inductive Items : Bool -> Bytes -> List Bytes -> Prop where
  | ends {first : Bool} {input rest : Bytes} (bracket : past input = 93 :: rest)
      (nothing : past rest = []) : Items first input []
  | item {first : Bool} {input value after : Bytes} {others : List Bytes}
      (here : ItemAt first input value) (spans : Spans .value value after)
      (more : Items false after others) : Items first input (value :: others)

def ListOf (text : Bytes) (items : List Bytes) : Prop :=
  ∃ rest, past text = 91 :: rest ∧ Items true rest items

theorem ItemAt.unique {first : Bool} {input value other : Bytes} (here : ItemAt first input value)
    (again : ItemAt first input other) : value = other := by
  cases here with
  | first =>
      cases again
      rfl
  | later comma =>
      cases again with
      | later comma' =>
          rw [comma, List.cons.injEq] at comma'
          exact comma'.2

theorem ItemAt.no_bracket {first : Bool} {input value after : Bytes}
    (here : ItemAt first input value) (spans : Spans .value value after) (rest : Bytes) :
    past input ≠ 93 :: rest := by
  cases here with
  | first =>
      have entry : Spans Frame.list.entry input after := spans
      exact entry.no_end rest
  | later comma => rw [comma]; simp

theorem Items.unique {first : Bool} {input : Bytes} {items others : List Bytes}
    (here : Items first input items) (again : Items first input others) : items = others := by
  induction here generalizing others with
  | ends bracket nothing =>
      cases again with
      | ends bracket' nothing' => rfl
      | item here' spans' more' => exact absurd bracket (here'.no_bracket spans' _)
  | item here spans more ih =>
      cases again with
      | ends bracket' nothing' => exact absurd bracket' (here.no_bracket spans _)
      | item here' spans' more' =>
          obtain rfl := here.unique here'
          obtain rfl := spans.unique spans'
          rw [ih more']

theorem ListOf.unique {text : Bytes} {items others : List Bytes} (list : ListOf text items)
    (again : ListOf text others) : items = others := by
  obtain ⟨rest, start, here⟩ := list
  obtain ⟨rest', start', here'⟩ := again
  rw [start, List.cons.injEq] at start'
  obtain ⟨-, rfl⟩ := start'
  exact here.unique here'

theorem ObjectOf.not_list {text : Bytes} {members : List (String × Bytes)} {items : List Bytes}
    (object : ObjectOf text members) : ¬ ListOf text items := by
  rintro ⟨rest', start', _⟩
  obtain ⟨rest, start, _⟩ := object
  rw [start, List.cons.injEq] at start'
  exact absurd start'.1 (by decide)

theorem itemOf_iff {item : Reader α} {first : Bool} {input after : Bytes} {a : α}
    (blind : ∀ input, item.run (past input) = item.run input)
    (sound : ∀ input after a, item.run input = (.ok a, after) -> Spans .value input after) :
    (itemOf first item).run input = (.ok a, after) ↔
      ∃ value, ItemAt first input value ∧ item.run value = (.ok a, after) := by
  constructor
  · intro read
    obtain ⟨more, begun, asked, read⟩ := bind_eq_ok.mp read
    cases more with
    | false => simp [run_fail] at read
    | true =>
        simp only [if_true] at read
        cases answered_of_hasItem asked with
        | begun => exact ⟨input, .first, (blind input).symm.trans read⟩
        | further comma => exact ⟨_, .later comma, (blind _).symm.trans read⟩
  · rintro ⟨value, here, read⟩
    have begins : Begins .list value := Begins.of_spans (sound _ _ _ read)
    have asked : (hasItem first).run input = (.ok true, past value) := by
      cases here with
      | first => exact hasEntry_first begins
      | later comma => exact hasEntry_next comma begins
    simp only [itemOf, run_bind, asked, if_true, blind]
    exact read

end HttpService.Json.Reader
