import HttpService.Auth.Verifier
import HttpService.Proofs.Base64Coding
import HttpService.Proofs.PayloadAgreement
/-! # What an accepted token proves

Soundness of `Verifier.authenticate`: who is let in has presented a token of three parts whose
signature, by the key that the store has under the identifier the token names, covers the first two
as they stand, and whose claims are neither expired, nor issued later, nor of another issuer
(`authenticate_sound`). `Verified` lists the checks a token has passed; passing them is all there is
to being accepted (`authenticate_of_verified`), so no other key has a say. -/
set_option autoImplicit false

namespace HttpService

/-! ## Three parts -/

theorem Base64.value?_dot : Base64.value? Base64.url TokenParts.dot = none := by decide

theorem Base64.no_dot_of_decode? (digits : Bytes) {bytes : Bytes}
    (decoded : Base64.decode? Base64.url digits = some bytes) : TokenParts.dot ∉ digits := by
  intro present
  obtain ⟨value, valued⟩ := Base64.valued_of_decode? Base64.url digits decoded _ present
  rw [Base64.value?_dot] at valued
  cases valued

namespace TokenParts

theorem splitLast?_inversion {input before after : Bytes}
    (split : splitLast? input = some (before, after)) : input = before ++ dot :: after := by
  simp only [splitLast?] at split
  split at split
  next shorter =>
    simp only [Option.some.injEq, Prod.mk.injEq] at split
    obtain ⟨rfl, rfl⟩ := split
    have parts := List.takeWhile_append_dropWhile (p := (· != dot)) (l := input.reverse)
    cases remaining : input.reverse.dropWhile (· != dot) with
    | nil =>
        rw [remaining, List.append_nil] at parts
        rw [parts, List.reverse_reverse] at shorter
        omega
    | cons first rest =>
        have isDot : first = dot := by
          have refused := List.head?_dropWhile_not (· != dot) input.reverse
          rw [remaining] at refused
          simpa using refused
        rw [remaining, isDot] at parts
        have mirrored := congrArg List.reverse parts
        rw [List.reverse_append, List.reverse_cons, List.reverse_reverse] at mirrored
        generalize (input.reverse.takeWhile (· != dot)).reverse = after at mirrored
        rw [← mirrored]
        have before : (rest.reverse ++ [dot] ++ after).length - after.length - 1 =
            rest.reverse.length := by
          simp only [List.length_append, List.length_cons, List.length_nil]
          omega
        rw [before, List.append_assoc, List.take_left]
        rfl
  next => cases split

/-- A token has its parts between points. -/
theorem ofToken?_inversion {token : Bytes} {parts : TokenParts}
    (split : ofToken? token = some parts) :
    token = parts.header ++ dot :: parts.payload ++ dot :: parts.signature := by
  simp only [ofToken?, Option.bind_eq_bind, Option.bind_eq_some_iff] at split
  obtain ⟨⟨message, signature⟩, last, ⟨header, payload⟩, first, same⟩ := split
  cases same
  have outer := splitLast?_inversion last
  have inner : message = header ++ dot :: payload := splitLast?_inversion first
  rw [outer, inner]

end TokenParts

namespace Verifier

theorem token?_inversion {header : String} {bytes : Bytes} (found : token? header = some bytes) :
    ∃ token : String, header = "Bearer " ++ token ∧ Bytes.ofText token = bytes ∧ token ≠ "" ∧
      ' ' ∉ token.toList := by
  simp only [token?] at found
  split at found
  next starts =>
    split at found
    next => cases found
    next accepted =>
      rw [Option.some.injEq] at found
      simp only [Bool.or_eq_true, List.isEmpty_iff, List.contains_iff_mem, not_or] at accepted
      obtain ⟨rest, parts⟩ := List.isPrefixOf_iff_prefix.mp starts
      have dropped : (Bytes.ofText header).drop scheme.length = rest := by
        rw [← parts, List.drop_left]
      rw [dropped] at accepted found
      obtain ⟨token, whole, encoded⟩ := Bytes.append_ofText "Bearer " parts.symm
      refine ⟨token, whole, encoded.trans found, ?_, ?_⟩
      · intro empty
        rw [empty] at encoded
        exact accepted.1 encoded.symm
      · intro blank
        have present := Bytes.code_mem_ofText (by decide) blank
        rw [encoded] at present
        exact accepted.2 present
  next => cases found

/-! ## The checks of a token -/

/-- The checks that a header's token passes, with what they come upon. -/
structure Verified (verifier : Verifier) (now : Moment) (token : Bytes) (claims : Claims)
    (parts : TokenParts) (kid : String) (key : PublicKey) (signature payload : Bytes) : Prop where
  split : TokenParts.ofToken? token = some parts
  named : readHeader? parts = some ⟨.rs256, some kid⟩
  stored : verifier.keys.find? kid = some key
  decodes : Base64.decode? Base64.url parts.signature = some signature
  signed : key.verifies parts.message signature = true
  holds : Base64.decode? Base64.url parts.payload = some payload
  checked : verifier.checkPayload now payload = .ok claims
  issued : now.precedes (min verifier.leeway maxSkew) claims.issuedAt.seconds = false

theorem verified_of_authenticate {verifier : Verifier} {now : Moment} {header : String}
    {claims : Claims} (accepted : verifier.authenticate now header = .ok claims) :
    ∃ token parts kid key signature payload, token? header = some token ∧
      Verified verifier now token claims parts kid key signature payload := by
  simp only [authenticate] at accepted
  split at accepted
  next => cases accepted
  rename_i token found
  split at accepted
  next => cases accepted
  rename_i parts split
  split at accepted
  next => cases accepted
  rename_i algorithm kid named
  split at accepted
  next => cases accepted
  rename_i rs256
  split at accepted
  next => cases accepted
  rename_i kid
  split at accepted
  next => cases accepted
  rename_i key stored
  split at accepted
  next => cases accepted
  rename_i signature decodes
  split at accepted
  next => cases accepted
  rename_i signed
  split at accepted
  next => cases accepted
  rename_i payload holds
  rcases checked : verifier.checkPayload now payload with fault | claimed
  · rw [checked] at accepted
    cases accepted
  · rw [checked] at accepted
    have judged : (if now.precedes (min verifier.leeway maxSkew) claimed.issuedAt.seconds then
        throw AuthFault.issuedLater else pure claimed : Except AuthFault Claims) = .ok claims :=
      accepted
    split at judged
    next => cases judged
    next issued =>
      cases judged
      simp only [ne_eq, Decidable.not_not] at rs256
      rw [rs256] at named
      simp only [Bool.not_eq_true, Bool.not_eq_false'] at signed issued
      exact ⟨token, parts, kid, key, signature, payload, found,
        split, named, stored, decodes, signed, holds, checked, issued⟩

/-- The checks are all that is asked of a token. -/
theorem authenticate_of_verified {verifier : Verifier} {now : Moment} {header : String}
    {token : Bytes} {claims : Claims} {parts : TokenParts} {kid : String} {key : PublicKey}
    {signature payload : Bytes} (found : token? header = some token)
    (verified : Verified verifier now token claims parts kid key signature payload) :
    verifier.authenticate now header = .ok claims := by
  simp only [authenticate, found, verified.split, verified.named, verified.stored,
    verified.decodes, verified.signed, verified.holds, verified.checked]
  rw [if_neg (by simp), if_neg (by simp)]
  change (if now.precedes (min verifier.leeway maxSkew) claims.issuedAt.seconds then
    throw AuthFault.issuedLater else pure claims : Except AuthFault Claims) = .ok claims
  rw [verified.issued]
  rfl

/-! ## The claims of an accepted token -/

theorem checkRegistered_inversion {verifier : Verifier} {now : Moment} {registered : Registered}
    (passed : verifier.checkRegistered now registered = .ok ()) :
    ∃ expires issuer, registered.expires = .found expires ∧ registered.issuer = .found issuer ∧
      now.seconds - verifier.leeway ≤ expires ∧
      ∀ name wanted, issuer = .one name -> verifier.issuer = some wanted -> name = wanted := by
  simp only [checkRegistered] at passed
  split at passed
  next expires subject issuer expiresFound subjectFound issuerFound =>
    refine ⟨expires, issuer, expiresFound, issuerFound, ?_⟩
    split at passed
    next => cases passed
    next inTime =>
      refine ⟨Nat.le_trans (sub_le_wordDifference _ _) (Nat.not_lt.mp inTime), ?_⟩
      intro name wanted one set
      rw [set, one] at passed
      cases same : name == wanted with
      | true => exact eq_of_beq same
      | false =>
          simp only [same] at passed
          cases passed
  next => cases passed

theorem checkPayload_inversion {verifier : Verifier} {now : Moment} {payload : Bytes}
    {claims : Claims} (checked : verifier.checkPayload now payload = .ok claims) :
    ∃ registered, Claims.read payload = .ok claims ∧ Registered.read payload = .ok registered ∧
      verifier.checkRegistered now registered = .ok () := by
  simp only [checkPayload] at checked
  split at checked
  next first registered claimed noted =>
    rcases passed : verifier.checkRegistered now registered with fault | _
    · rw [passed] at checked
      cases checked
    · rw [passed] at checked
      cases checked
      exact ⟨registered, claimed, noted, passed⟩
  next => cases checked

/-- The claims of an accepted payload have not expired and name the issuer. -/
theorem checkPayload_sound {verifier : Verifier} {now : Moment} {payload : Bytes} {claims : Claims}
    (checked : verifier.checkPayload now payload = .ok claims) :
    Claims.read payload = .ok claims ∧
      (now.seconds : Int) - verifier.leeway ≤ claims.expiresAt.seconds ∧
      ∀ wanted, verifier.issuer = some wanted -> claims.issuer = wanted := by
  obtain ⟨registered, claimed, noted, passed⟩ := checkPayload_inversion checked
  obtain ⟨expires, issuer, expiresFound, issuerFound, inTime, named⟩ :=
    checkRegistered_inversion passed
  obtain ⟨sameExpiry, sameIssuer⟩ := readings_agree claimed noted expiresFound issuerFound
  refine ⟨claimed, by omega, ?_⟩
  intro wanted set
  exact named claims.issuer wanted sameIssuer set

theorem issued_of_not_precedes {now : Moment} {skew : Nat} {time : Int}
    (issued : now.precedes skew time = false) :
    time * 1000000000 ≤ (now.seconds + skew : Int) * 1000000000 + now.nanoseconds := by
  simp only [Moment.precedes, decide_eq_false_iff_not] at issued
  omega

/-- Soundness of authentication. -/
theorem authenticate_sound {verifier : Verifier} {now : Moment} {header : String} {claims : Claims}
    (accepted : verifier.authenticate now header = .ok claims) :
    ∃ (token : String) (parts : TokenParts) (kid : String) (key : PublicKey)
      (signature payload : Bytes),
      (header = "Bearer " ++ token ∧ token ≠ "" ∧ ' ' ∉ token.toList) ∧
      (Bytes.ofText token =
          parts.header ++ TokenParts.dot :: parts.payload ++ TokenParts.dot :: parts.signature ∧
        TokenParts.dot ∉ parts.header ∧ TokenParts.dot ∉ parts.payload ∧
        TokenParts.dot ∉ parts.signature) ∧
      (∃ decoded, Base64.decode? Base64.url parts.header = some decoded ∧
        TokenHeader.read? decoded = some ⟨.rs256, some kid⟩) ∧
      verifier.keys.find? kid = some key ∧
      (Base64.decode? Base64.url parts.signature = some signature ∧
        key.verifies (parts.header ++ TokenParts.dot :: parts.payload) signature = true) ∧
      (∀ keys : KeyStore, keys.find? kid = some key ->
        { verifier with keys }.authenticate now header = .ok claims) ∧
      (Base64.decode? Base64.url parts.payload = some payload ∧ Claims.read payload = .ok claims) ∧
      (now.seconds : Int) - verifier.leeway ≤ claims.expiresAt.seconds ∧
      claims.issuedAt.seconds * 1000000000 ≤
        (now.seconds + min verifier.leeway 86400 : Int) * 1000000000 + now.nanoseconds ∧
      ∀ issuer, verifier.issuer = some issuer -> claims.issuer = issuer := by
  obtain ⟨bytes, parts, kid, key, signature, payload, found, verified⟩ :=
    verified_of_authenticate accepted
  obtain ⟨token, whole, encoded, notEmpty, noBlank⟩ := token?_inversion found
  obtain ⟨decoded, headerDecodes, headerRead⟩ := Option.bind_eq_some_iff.mp verified.named
  obtain ⟨claimed, inTime, issuer⟩ := checkPayload_sound verified.checked
  have issued := issued_of_not_precedes verified.issued
  refine ⟨token, parts, kid, key, signature, payload, ⟨whole, notEmpty, noBlank⟩, ⟨?_, ?_⟩,
    ⟨decoded, headerDecodes, headerRead⟩, verified.stored, ⟨verified.decodes, verified.signed⟩, ?_,
    ⟨verified.holds, claimed⟩, inTime, ?_, issuer⟩
  · rw [encoded]
    exact TokenParts.ofToken?_inversion verified.split
  · exact ⟨Base64.no_dot_of_decode? _ headerDecodes, Base64.no_dot_of_decode? _ verified.holds,
      Base64.no_dot_of_decode? _ verified.decodes⟩
  · intro keys stored
    exact authenticate_of_verified found { verified with stored, checked := verified.checked }
  · simp only [maxSkew] at issued
    omega

/-! ## A token that is accepted -/

def sampleKeyText : String :=
    "-----BEGIN PUBLIC KEY-----\n" ++
    "MIIBIjANBgkqhkiG9w0BAQEFAAOCAQ8AMIIBCgKCAQEAy/ISHyqNCeFiA3D2VdVn\n" ++
    "jsIF4AwQ0UT76bTMM+N6Wns5j2Vwd8OERUC0Rr3bhQoZK0CAQwXFFLVesP5L8rc9\n" ++
    "k1l/PLagkN9uv7vYAQX7js2BJLTJZ3dU1a85sO5PLhe/jtc2fQFXcV49Tl/w9JLL\n" ++
    "8hERD6CXnZmY6XxeW1V9id84/yT8L3xhHJx7SNoP0qBxHXuQrSxiQhgdDLsIIbuJ\n" ++
    "Bj1d7Z2iQBg7HkwMdCUtw5YPSlat/aCrAsUTcSg2I0xScCudLi3P8iTDwFqjWbx4\n" ++
    "NTTujiwUKyuml2twm6SKmbFNttTO1t27fEPjwRaplr48eMNc2Usbv8Xl8oaDfCRj\n" ++
    "xwIDAQAB\n" ++
    "-----END PUBLIC KEY-----\n"

def sampleVerifier : Verifier where
  keys := ⟨Dictionary.empty.insert "primary"
    ((PublicKey.ofText? (Bytes.ofText sampleKeyText)).getD default)⟩
  issuer := some "ward tests"

def sampleHeader : String :=
    "Bearer eyJ0eXAiOiJKV1QiLCJhbGciOiJSUzI1NiIsImtpZCI6InByaW1hcnkifQ." ++
    "eyJzdWIiOiJ1MSIsInJvbGVzIjpbIlVTRVIiXSwiaXNzIjoid2FyZCB0ZXN0cyIsImlhdCI6MTcwMDAwMDAwMCwiZXhwIjoxNzAwMDAzNjAwfQ." ++
    "YPzsaK43hJDr14bZAt1-6MfR3ZxQ344y-Gt3-8l1NL3NA2-RnNxqBQthSaIZU-3rzHTCSb-iht-UYjea3fOnbJ" ++
    "3ni6rZFQUeSrLNzVlraiBh8ZZND1GMt6CQIG3_xxo3txh0MGzX5wax3G3pGNqcuDR5P2wSG6VoTBfsipuIGyuA" ++
    "1V2mekZMScgcw7wBH0my-R37P4VyY74Jvu6k64AQf0wiu4pQftzh7JXFK1a5C1cSriSqRhI-CQ7A4URu3AlZJ2" ++
    "EMFPo02ONqwgMUvFLHBPzbRvWSA6YkY6tariW9BoFKoSChQsOJ8vto9Eveqm1IOKGOj-q_vyvLpgf8C04qbw"

def sampleClaims : Claims :=
  ⟨"u1", Roles.ofList ["USER"], "ward tests", ⟨1700000000, by decide⟩, ⟨1700003600, by decide⟩⟩

theorem eq_ok_of_toOption {ε α : Type} {outcome : Except ε α} {a : α}
    (present : outcome.toOption = some a) : outcome = .ok a := by
  cases outcome with
  | error fault => cases present
  | ok found =>
      simp only [Except.toOption, Option.some.injEq] at present
      rw [present]

set_option maxRecDepth 100000 in
theorem sample_accepted :
    sampleVerifier.authenticate ⟨1700000000, 0⟩ sampleHeader = .ok sampleClaims := by
  apply eq_ok_of_toOption
  decide +kernel

theorem authenticate_sound_sample :
    sampleVerifier.authenticate ⟨1700000000, 0⟩ sampleHeader = .ok sampleClaims ∧
      ∃ (parts : TokenParts) (kid : String) (key : PublicKey) (signature : Bytes),
        sampleVerifier.keys.find? kid = some key ∧
          key.verifies (parts.header ++ TokenParts.dot :: parts.payload) signature = true := by
  refine ⟨sample_accepted, ?_⟩
  obtain ⟨token, parts, kid, key, signature, payload, _, _, _, stored, ⟨_, signed⟩, _⟩ :=
    authenticate_sound sample_accepted
  exact ⟨parts, kid, key, signature, stored, signed⟩

end Verifier

end HttpService
