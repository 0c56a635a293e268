import HttpService.Proofs.PayloadAgreement
import HttpService.Proofs.Skipping
import HttpService.Proofs.WrittenValues
/-! # Reading back written claims

The two readings of a token's payload, on a payload that claims were written to. The first gives back
the claims (`Claims.read_encode`). The second finds subject, issuer and time of expiry, unless that
lies before the epoch, and skips the other members: `Registered.read_encode`. -/
set_option autoImplicit false

namespace HttpService

open Json Json.Reader

/-! ## Roles -/

theorem Dictionary.find?_foldl_insert {α : Type} {entries : List (String × α)}
    (sorted : KeysIncrease entries) (table : Dictionary α) (key : String) :
    (entries.foldl (fun table entry => table.insert entry.1 entry.2) table).find? key =
      (valueUnder? entries key).or (table.find? key) := by
  induction entries generalizing table with
  | nil => rfl
  | cons head rest ih =>
      obtain ⟨later, restSorted⟩ := List.pairwise_cons.mp sorted
      rw [List.foldl_cons, ih restSorted, find?_insert, valueUnder?_cons]
      by_cases same : head.1 = key
      · have none : valueUnder? rest key = none := by
          rw [Option.eq_none_iff_forall_ne_some]
          intro value found
          have less := later _ (mem_of_valueUnder? found)
          rw [same] at less
          exact String.lt_irrefl key less
        rw [none, if_pos same, if_pos same]
        rfl
      · rw [if_neg same, if_neg same]

theorem Dictionary.ofList_entries {α : Type} (table : Dictionary α) :
    Dictionary.ofList table.entries = table := by
  apply ext_find?
  intro key
  rw [ofList, find?_foldl_insert table.sorted, find?_empty, Option.or_none]
  rfl

theorem Roles.ofList_names (roles : Roles) : Roles.ofList roles.names = roles := by
  have same : roles.names.map (fun name => (name, ())) = roles.entries := by
    rw [names, Dictionary.keys, List.map_map]
    exact List.map_id'' (fun _ => rfl) roles.entries
  rw [ofList, same, Dictionary.ofList_entries]

namespace Json.Reader

theorem Gathers.foldMembers {σ : Type} {step : σ -> String -> Reader σ} {first last : σ}
    {members : List (String × Json)}
    (gathers : Gathers .object (keyed step) first (members.map writtenMember) last) (rest : Bytes) :
    (Reader.foldMembers step ((separated true (members.map writtenMember) ++ 125 :: rest).length + 1)
        true first).run (separated true (members.map writtenMember) ++ 125 :: rest) =
      (.ok last, 125 :: rest) := by
  have opens : ∀ member ∈ members, Opens .object (writtenMember member) :=
    fun member _ => opens_quote .object _
  have fewer := length_separated true opens
  rw [foldMembers_run]
  apply gathers.fold true
  rw [List.length_map, List.length_append]
  omega

/-! ## Values of a wanted shape -/

theorem textValue_written (text : String) (rest : Bytes) :
    textValue.run (Bytes.ofChars (quoted text) ++ rest) = (.ok text, rest) := by
  rw [ofChars_quoted]
  exact string_written text rest

theorem run_wholeValue {input after : Bytes} {written : JsonNumber}
    (here : NumberAt input after written) {whole : Int} (same : written.toInt? = some whole) :
    wholeValue.run input = (.ok whole, after) := by
  cases here with
  | signed start read =>
      simp only [wholeValue, run_bind, run_beginning start]
      rw [if_pos (by decide), run_advance_bind, run_bind, List.tail_cons, read]
      simp only [same]
      rfl
  | unsigned start digit read =>
      simp only [wholeValue, run_bind, run_beginning start]
      rw [digit_ne digit (by decide), digit]
      simp only [Bool.false_eq_true, if_false, if_true, run_bind, read, same]
      rfl

theorem listOf_written {α : Type} (item : Reader α) {written : α -> Bytes} {items : List α}
    (opens : ∀ value ∈ items, Opens .list (written value))
    (read : ∀ value ∈ items, ∀ rest, Ended rest ->
      item.run (written value ++ rest) = (.ok value, rest)) (rest : Bytes) :
    (listOf item).run (91 :: (separated true (items.map written) ++ 93 :: rest)) =
      (.ok items, rest) := by
  have step : ∀ value ∈ items, ∀ done rest, Ended rest ->
      (do return (← item) :: done : Reader (List α)).run (written value ++ rest) =
        (.ok (value :: done), rest) := by
    intro value present done rest ended
    simp only [run_bind, read value present rest ended]
    rfl
  have start : past (91 :: (separated true (items.map written) ++ 93 :: rest)) =
    91 :: (separated true (items.map written) ++ 93 :: rest) := rfl
  have fewer := length_separated true opens
  have enough : items.length < (separated true (items.map written) ++ 93 :: rest).length + 1 := by
    rw [List.length_append]
    omega
  have folded := fold_written opens step enough rest
  simp only [listOf, run_bind, run_beginning start]
  rw [if_pos (by decide), run_advance_bind, List.tail_cons]
  apply run_closing .list
  simp only [run_bounded, run_bind, foldItems_run]
  simp only [Frame.closing] at folded ⊢
  rw [folded]
  simp only [List.reverse_reverse]
  rfl

end Json.Reader

namespace Claims

/-- The numbers of all points in time are read back. -/
theorem storable_seconds (time : Timestamp) : Storable (.ofInt time.seconds) := by
  obtain ⟨seconds, least, greatest⟩ := time
  cases seconds with
  | ofNat value =>
      have bound : value < wordCount := by
        rw [wordCount]
        simp only [Int.ofNat_eq_natCast] at greatest
        omega
      exact bound
  | negSucc before =>
      have bound : before + 1 ≤ twoTo 63 := by
        have size : twoTo 63 = 9223372036854775808 := by decide
        omega
      exact ⟨Nat.succ_pos before, bound⟩

theorem numberAt_seconds (time : Timestamp) {rest : Bytes} (ended : Ended rest) :
    NumberAt (Bytes.ofChars (write (.int time.seconds)) ++ rest) rest (.ofInt time.seconds) :=
  numberAt_written (storable_seconds time) ended

theorem timeValue_written (time : Timestamp) {rest : Bytes} (ended : Ended rest) :
    timeValue.run (Bytes.ofChars (write (.int time.seconds)) ++ rest) = (.ok time, rest) := by
  have whole := run_wholeValue (numberAt_seconds time ended) (JsonNumber.toInt?_ofInt time.seconds)
  simp only [timeValue, run_bind, whole, Timestamp.ofSeconds?_seconds]
  rfl

theorem rolesValue_written (roles : Roles) (rest : Bytes) :
    rolesValue.run (Bytes.ofChars (write (.array (roles.names.map .text))) ++ rest) =
      (.ok roles, rest) := by
  have opens : ∀ name ∈ roles.names, Opens .list (Bytes.ofChars (quoted name)) := by
    intro name present
    rw [ofChars_quoted]
    exact opens_quote .list _
  have listed := listOf_written textValue opens
    (fun name _ rest _ => textValue_written name rest) rest
  have bytes : Bytes.ofChars (write (.array (roles.names.map .text))) =
      91 :: (separated true (roles.names.map fun name => Bytes.ofChars (quoted name)) ++ [93]) := by
    rw [ofChars_array, List.map_map]
    rfl
  rw [bytes, List.cons_append, List.append_assoc, List.singleton_append, rolesValue, run_bind, listed]
  simp only [Roles.ofList_names]
  rfl

theorem onlyOnce_written {α : Type} {reader : Reader α} {input rest : Bytes} {a : α}
    (read : reader.run input = (.ok a, rest)) :
    (onlyOnce none reader).run (58 :: input) = (.ok (some a), rest) := by
  rw [onlyOnce, if_neg (by simp), run_colon_bind, run_bind, read]
  rfl

def written (claims : Claims) : List (String × Json) :=
  [("sub", .text claims.subject), ("roles", .array (claims.roles.names.map .text)),
    ("iss", .text claims.issuer), ("iat", .int claims.issuedAt.seconds),
    ("exp", .int claims.expiresAt.seconds)]

theorem encode_toJson (claims : Claims) :
    claims.toJson.encode = 123 :: (separated true (claims.written.map writtenMember) ++ [125]) :=
  (Bytes.ofText_ofList (write claims.toJson)).trans (ofChars_object claims.written)

theorem gathers_members (claims : Claims) :
    Gathers .object (keyed member) {} (claims.written.map writtenMember)
      ⟨some claims.subject, some claims.roles, some claims.issuer, some claims.issuedAt,
        some claims.expiresAt⟩ := by
  refine .one ⟨some claims.subject, none, none, none, none⟩
    (opens_quote .object _) ?subject <|
    .one ⟨some claims.subject, some claims.roles, none, none, none⟩
    (opens_quote .object _) ?roles <|
    .one ⟨some claims.subject, some claims.roles, some claims.issuer, none, none⟩
    (opens_quote .object _) ?issuer <|
    .one ⟨some claims.subject, some claims.roles, some claims.issuer, some claims.issuedAt, none⟩
    (opens_quote .object _) ?issuedAt <|
    .one _ (opens_quote .object _) ?expiresAt .none
  all_goals
    intro rest ended
    rw [keyed_written]
  case subject =>
    have once := onlyOnce_written (textValue_written claims.subject rest)
    simp only [member, run_bind, write, once]
    rfl
  case roles =>
    have once := onlyOnce_written (rolesValue_written claims.roles rest)
    simp only [member, run_bind, once]
    rfl
  case issuer =>
    have once := onlyOnce_written (textValue_written claims.issuer rest)
    simp only [member, run_bind, write, once]
    rfl
  case issuedAt =>
    have once := onlyOnce_written (timeValue_written claims.issuedAt ended)
    simp only [member, run_bind, once]
    rfl
  case expiresAt =>
    have once := onlyOnce_written (timeValue_written claims.expiresAt ended)
    simp only [member, run_bind, once]
    rfl

theorem read_encode (claims : Claims) : Claims.read claims.toJson.encode = .ok claims := by
  apply all_of_run
  rw [encode_toJson]
  have folded := (gathers_members claims).foldMembers []
  generalize separated true _ ++ [125] = members at folded ⊢
  change (closing (bounded fun bound => do (← foldMembers member bound true {}).complete)
    (endOf .object)).run members = _
  apply run_closing .object
  rw [run_bounded, run_bind, folded]
  rfl

end Claims

namespace Registered

def expiry (time : Timestamp) : Finding Nat :=
  if 0 ≤ time.seconds then .found time.seconds.toNat else .unreadable

/-- What is noted of written claims. -/
def ofClaims (claims : Claims) : Registered where
  expires := expiry claims.expiresAt
  subject := .found claims.subject
  issuer := .found (.one claims.issuer)

theorem unseen_written {α : Type} (seen : List String) (key : String)
    (new : seen.contains key = false) {reader : Reader (Finding α)} {input rest : Bytes}
    {finding : Finding α} (read : reader.run input = (.ok finding, rest)) :
    (unseen seen key reader).run (58 :: input) = (.ok finding, rest) := by
  rw [unseen, new, if_neg (by simp), run_colon_bind, read]

theorem member_other (key : String) (unkept : key ∉ kept) {input rest : Bytes}
    (skipped : skip.run input = (.ok (), rest)) (state : Registered × List String) :
    (member state key).run (58 :: input) = (.ok (state.1, key :: state.2), rest) := by
  obtain ⟨claims, seen⟩ := state
  simp only [member]
  split
  next => exact absurd (by decide) unkept
  next => exact absurd (by decide) unkept
  next => exact absurd (by decide) unkept
  next => exact absurd (by decide) unkept
  next => exact absurd (by decide) unkept
  next =>
    rw [run_colon_bind, run_bind, skipped]
    rfl

theorem noting_subject (text : String) (rest : Bytes) :
    (noting (orNull textValue)).run (Bytes.ofChars (quoted text) ++ rest) =
      (.ok (.found text), rest) := by
  have read := textValue_written text rest
  rw [ofChars_quoted, List.cons_append] at read ⊢
  have start : past (34 :: (quotedTail text ++ rest)) = 34 :: (quotedTail text ++ rest) := rfl
  have value : (orNull textValue).run (34 :: (quotedTail text ++ rest)) = (.ok (some text), rest) := by
    simp only [orNull, run_bind, run_peekPastBlanks, start, List.head?_cons]
    change (do return some (← textValue) : Reader (Option String)).run _ = _
    rw [run_bind, read]
    rfl
  rw [run_noting, value]
  rfl

theorem noting_issuer (text : String) (rest : Bytes) :
    (noting names).run (Bytes.ofChars (quoted text) ++ rest) = (.ok (.found (.one text)), rest) := by
  rw [run_noting, run_names (textValue_written text rest)]
  rfl

theorem noting_seconds (time : Timestamp) {rest : Bytes} (ended : Ended rest) :
    (noting seconds).run (Bytes.ofChars (write (.int time.seconds)) ++ rest) =
      (.ok (expiry time), rest) := by
  rw [run_noting, run_seconds (Claims.numberAt_seconds time ended), expiry]
  cases whole : time.seconds with
  | ofNat value => rfl
  | negSucc before => rfl

theorem gathers_members (claims : Claims) :
    Gathers .object (keyed member) ({}, []) (claims.written.map writtenMember)
      (ofClaims claims, ["exp", "iat", "iss", "roles", "sub"]) := by
  refine .one ({ subject := .found claims.subject }, ["sub"])
    (opens_quote .object _) ?subject <|
    .one ({ subject := .found claims.subject }, ["roles", "sub"])
    (opens_quote .object _) ?roles <|
    .one ({ subject := .found claims.subject, issuer := .found (.one claims.issuer) },
      ["iss", "roles", "sub"]) (opens_quote .object _) ?issuer <|
    .one ({ subject := .found claims.subject, issuer := .found (.one claims.issuer) },
      ["iat", "iss", "roles", "sub"]) (opens_quote .object _) ?issuedAt <|
    .one _ (opens_quote .object _) ?expiresAt .none
  all_goals
    intro rest ended
    rw [keyed_written]
  case subject =>
    have read := unseen_written [] "sub" (by decide)
      (noting_subject claims.subject rest)
    simp only [member, run_bind, write, read]
    rfl
  case roles =>
    have spans := Claims.spans_rolesValue (Claims.rolesValue_written claims.roles rest)
    exact member_other "roles" (by decide) (skip_iff_spans.mpr spans) _
  case issuer =>
    have read := unseen_written ["roles", "sub"] "iss" (by decide)
      (noting_issuer claims.issuer rest)
    simp only [member, run_bind, write, read]
    rfl
  case issuedAt =>
    have here := Claims.numberAt_seconds claims.issuedAt ended
    exact member_other "iat" (by decide) (skip_iff_spans.mpr here.spans) _
  case expiresAt =>
    have read := unseen_written ["iat", "iss", "roles", "sub"] "exp" (by decide)
      (noting_seconds claims.expiresAt ended)
    simp only [member, run_bind, read]
    rfl

theorem read_encode (claims : Claims) :
    Registered.read claims.toJson.encode = .ok (ofClaims claims) := by
  apply all_of_run
  rw [Claims.encode_toJson]
  have folded := (gathers_members claims).foldMembers []
  generalize separated true _ ++ [125] = members at folded ⊢
  change (closing (bounded fun bound => do return (← foldMembers member bound true ({}, [])).1)
    (endOf .object)).run members = _
  apply run_closing .object
  rw [run_bounded, run_bind, folded]
  rfl

end Registered

end HttpService
