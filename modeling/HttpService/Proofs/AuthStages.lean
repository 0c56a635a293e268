import HttpService.Proofs.SignedTokens
/-! # Which check refuses a token

The checks of a token are stages in a fixed order. `Fails` says of each of them when a header does
not pass it, whatever the others say; `decided` that authentication is the first of them to fail. So
what is answered tells no more than the stage: tokens that differ in nothing but their payload, and
are not signed, are refused alike (`authenticate_discloses`).

The stages are those of a verifier whose leeway is not longer than its clock has run. With a longer
one the time of expiry that is asked for lies below zero, where the clock's words end
(`refused_beyond_stages`). -/
set_option autoImplicit false

namespace HttpService

/-! ## Texts, keys and names -/

theorem Bytes.mem_of_code_mem {text : String} {letter : Char} (ascii : letter.toNat ≤ 127)
    (present : code letter ∈ ofText text) : letter ∈ text.toList := by
  rw [ofText_eq_flatMap, List.mem_flatMap] at present
  obtain ⟨other, listed, encoded⟩ := present
  have value : (code letter).toNat = letter.toNat := by
    rw [code, UInt8.toNat_ofNat']
    omega
  rcases Nat.lt_or_ge 127 other.toNat with beyond | small
  · have high := le_of_mem_encodeChar beyond encoded
    omega
  · rw [encodeChar_ascii small, List.mem_singleton] at encoded
    have same : letter.toNat = other.toNat := by
      rw [← value, encoded, code, UInt8.toNat_ofNat']
      omega
    rwa [Char.ext (UInt32.toNat_inj.mp same)]

theorem Bytes.ofText_append (first second : String) :
    ofText (first ++ second) = ofText first ++ ofText second := by
  rw [ofText_eq_ofChars, ofText_eq_ofChars, ofText_eq_ofChars, String.toList_append, ofChars_append]

namespace PublicKey

theorem length_of_verifies {key : PublicKey} {message signature : Bytes}
    (verified : key.verifies message signature = true) :
    key.numbers?.map PublicNumbers.size = some signature.length := by
  simp only [verifies] at verified
  cases known : key.numbers? with
  | none =>
      rw [known] at verified
      cases verified
  | some numbers =>
      rw [known] at verified
      cases padded : paddedDigest? numbers.size message with
      | none =>
          simp only [padded] at verified
          cases verified
      | some digest =>
          simp only [padded, Bool.and_eq_true, decide_eq_true_eq] at verified
          rw [Option.map_some, verified.1.1]

end PublicKey

def Audience.listed : Audience -> List String
  | .one name => [name]
  | .many names => names

/-! ## The stages -/

inductive AuthStage where
  | scheme | tokenHeader | algorithm | kid | keyLookup | signature | payloadShape | requiredClaims
  | expiry | issuer | audience | issuedAt
deriving DecidableEq

namespace AuthStage

def order : List AuthStage :=
  [scheme, tokenHeader, algorithm, kid, keyLookup, signature, payloadShape, requiredClaims, expiry,
    issuer, audience, issuedAt]

def messages : AuthStage -> List String
  | scheme => ["expected authorization header format: Bearer <token>"]
  | tokenHeader => ["malformed token header"]
  | algorithm => Algorithm.all.map fun found => "unsupported signing algorithm " ++ found.name
  | kid => ["token header missing kid"]
  | keyLookup => ["unknown signing key"]
  | signature => ["malformed token", "signature verification failed"]
  | payloadShape => ["malformed token"]
  | requiredClaims => ["token missing required claim"]
  | expiry => ["token expired"]
  | issuer => ["unexpected issuer"]
  | audience => ["token validation failed"]
  | issuedAt => ["token issued in the future"]

theorem mem_order (stage : AuthStage) : stage ∈ order := by
  cases stage <;> decide

end AuthStage

theorem Algorithm.mem_all (algorithm : Algorithm) : algorithm ∈ Algorithm.all := by
  cases algorithm <;> decide

theorem AuthFault.exists_stage (fault : AuthFault) :
    ∃ stage : AuthStage, fault.message ∈ stage.messages := by
  cases fault with
  | scheme => exact ⟨.scheme, .head _⟩
  | header => exact ⟨.tokenHeader, .head _⟩
  | algorithm found => exact ⟨.algorithm, List.mem_map.mpr ⟨found, found.mem_all, rfl⟩⟩
  | noKid => exact ⟨.kid, .head _⟩
  | unknownKey => exact ⟨.keyLookup, .head _⟩
  | signature => exact ⟨.signature, .tail _ (.head _)⟩
  | payload => exact ⟨.payloadShape, .head _⟩
  | missingClaim => exact ⟨.requiredClaims, .head _⟩
  | expired => exact ⟨.expiry, .head _⟩
  | issuer => exact ⟨.issuer, .head _⟩
  | audience => exact ⟨.audience, .head _⟩
  | issuedLater => exact ⟨.issuedAt, .head _⟩

namespace Verifier

def parts? (header : String) : Option TokenParts := (token? header).bind TokenParts.ofToken?

def Holds (parts : TokenParts) (claims : Claims) (registered : Registered) : Prop :=
  ∃ payload, Base64.decode? Base64.url parts.payload = some payload ∧
    Claims.read payload = .ok claims ∧ Registered.read payload = .ok registered

/-- A header does not pass the stage, and this is what is wrong with it. No stage asks whether the
header passes another one, it just needs what is looked at to be there. -/
inductive Fails (verifier : Verifier) (now : Moment) (header : String) :
    AuthStage -> AuthFault -> Prop where
  | scheme (refused : token? header = none) : Fails verifier now header .scheme .scheme
  | tokenHeader {token : Bytes} (found : token? header = some token)
      (unread : (TokenParts.ofToken? token).bind readHeader? = none) :
      Fails verifier now header .tokenHeader .header
  | algorithm {parts : TokenParts} {algorithm : Algorithm} {kid : Option String}
      (presented : parts? header = some parts) (named : readHeader? parts = some ⟨algorithm, kid⟩)
      (other : algorithm ≠ .rs256) : Fails verifier now header .algorithm (.algorithm algorithm)
  | kid {parts : TokenParts} {algorithm : Algorithm} (presented : parts? header = some parts)
      (named : readHeader? parts = some ⟨algorithm, none⟩) : Fails verifier now header .kid .noKid
  | keyLookup {parts : TokenParts} {algorithm : Algorithm} {kid : String}
      (presented : parts? header = some parts)
      (named : readHeader? parts = some ⟨algorithm, some kid⟩)
      (unknown : verifier.keys.find? kid = none) :
      Fails verifier now header .keyLookup .unknownKey
  | undecodable {parts : TokenParts} (presented : parts? header = some parts)
      (unread : Base64.decode? Base64.url parts.signature = none) :
      Fails verifier now header .signature .payload
  | unsigned {parts : TokenParts} {algorithm : Algorithm} {kid : String} {key : PublicKey}
      {signature : Bytes} (presented : parts? header = some parts)
      (named : readHeader? parts = some ⟨algorithm, some kid⟩)
      (stored : verifier.keys.find? kid = some key)
      (decodes : Base64.decode? Base64.url parts.signature = some signature)
      (refused : key.verifies parts.message signature = false) :
      Fails verifier now header .signature .signature
  | payloadShape {parts : TokenParts} (presented : parts? header = some parts)
      (unread : ∀ claims registered, ¬ Holds parts claims registered) :
      Fails verifier now header .payloadShape .payload
  | requiredClaims {parts : TokenParts} {claims : Claims} {registered : Registered}
      (presented : parts? header = some parts) (holds : Holds parts claims registered)
      (missing : ∀ expires subject issuer, ¬ (registered.expires = .found expires ∧
        registered.subject = .found subject ∧ registered.issuer = .found issuer)) :
      Fails verifier now header .requiredClaims .missingClaim
  | expiry {parts : TokenParts} {claims : Claims} {registered : Registered} {expires : Nat}
      (presented : parts? header = some parts) (holds : Holds parts claims registered)
      (found : registered.expires = .found expires)
      (expired : expires + verifier.leeway < now.seconds) :
      Fails verifier now header .expiry .expired
  | issuer {parts : TokenParts} {claims : Claims} {registered : Registered} {issuer : Audience}
      {wanted : String} (presented : parts? header = some parts)
      (holds : Holds parts claims registered) (found : registered.issuer = .found issuer)
      (set : verifier.issuer = some wanted) (other : wanted ∉ issuer.listed) :
      Fails verifier now header .issuer .issuer
  | audience {parts : TokenParts} {claims : Claims} {registered : Registered} {audience : Audience}
      (presented : parts? header = some parts) (holds : Holds parts claims registered)
      (found : registered.audience = .found audience) (named : audience.listed ≠ []) :
      Fails verifier now header .audience .audience
  | issuedAt {parts : TokenParts} {claims : Claims} {registered : Registered}
      (presented : parts? header = some parts) (holds : Holds parts claims registered)
      (later : now.precedes (min verifier.leeway maxSkew) claims.issuedAt.seconds = true) :
      Fails verifier now header .issuedAt .issuedLater

variable {verifier : Verifier} {now : Moment} {header : String} {parts : TokenParts}
  {claims : Claims} {registered : Registered}

def Passes (verifier : Verifier) (now : Moment) (header : String) (stage : AuthStage) : Prop :=
  ∀ fault, ¬ verifier.Fails now header stage fault

/-- The outcome is what the first of the stages to fail comes to, if one fails. -/
inductive Decided (verifier : Verifier) (now : Moment) (header : String) :
    List AuthStage -> Except AuthFault Claims -> Prop where
  | nowhere (claims : Claims) : Decided verifier now header [] (.ok claims)
  | here {stage : AuthStage} {rest : List AuthStage} {fault : AuthFault}
      (fails : verifier.Fails now header stage fault) :
      Decided verifier now header (stage :: rest) (.error fault)
  | past {stage : AuthStage} {rest : List AuthStage} {outcome : Except AuthFault Claims}
      (passes : verifier.Passes now header stage)
      (later : Decided verifier now header rest outcome) :
      Decided verifier now header (stage :: rest) outcome

theorem Holds.unique {first second : Claims} {one other : Registered} (holds : Holds parts first one)
    (again : Holds parts second other) : second = first ∧ other = one := by
  obtain ⟨payload, decodes, claimed, noted⟩ := holds
  obtain ⟨samePayload, sameDecodes, sameClaimed, sameNoted⟩ := again
  cases decodes.symm.trans sameDecodes
  cases claimed.symm.trans sameClaimed
  cases noted.symm.trans sameNoted
  exact ⟨rfl, rfl⟩

theorem Fails.unique {stage : AuthStage} {first second : AuthFault}
    (fails : verifier.Fails now header stage first)
    (again : verifier.Fails now header stage second) : first = second := by
  cases fails with
  | algorithm presented named other =>
      cases again with
      | algorithm samePresented sameNamed sameOther =>
          cases presented.symm.trans samePresented
          cases named.symm.trans sameNamed
          rfl
  | undecodable presented unread =>
      cases again with
      | undecodable _ _ => rfl
      | unsigned samePresented _ _ decodes _ =>
          cases presented.symm.trans samePresented
          cases unread.symm.trans decodes
  | unsigned presented named stored decodes refused =>
      cases again with
      | undecodable samePresented unread =>
          cases presented.symm.trans samePresented
          cases decodes.symm.trans unread
      | unsigned _ _ _ _ _ => rfl
  | _ => cases again; rfl

theorem Fails.mem_messages {stage : AuthStage} {fault : AuthFault}
    (fails : verifier.Fails now header stage fault) : fault.message ∈ stage.messages := by
  cases fails with
  | @algorithm _ algorithm _ _ _ _ => exact List.mem_map.mpr ⟨algorithm, algorithm.mem_all, rfl⟩
  | unsigned _ _ _ _ _ => exact .tail _ (.head _)
  | _ => exact .head _

theorem Decided.error_iff {stages : List AuthStage} {outcome : Except AuthFault Claims}
    (decided : verifier.Decided now header stages outcome) (fault : AuthFault) :
    outcome = .error fault ↔
      ∃ before stage after, stages = before ++ stage :: after ∧
        verifier.Fails now header stage fault ∧
        ∀ earlier ∈ before, verifier.Passes now header earlier := by
  induction decided with
  | nowhere claims => simp
  | @here stage rest found fails =>
      constructor
      · intro same
        cases same
        exact ⟨[], stage, rest, rfl, fails, by simp⟩
      · rintro ⟨before, other, after, parts, failsThere, passes⟩
        cases before with
        | nil =>
            cases parts
            rw [fails.unique failsThere]
        | cons first others =>
            cases parts
            exact absurd fails (passes stage List.mem_cons_self found)
  | @past stage rest outcome passes later ih =>
      rw [ih]
      constructor
      · rintro ⟨before, other, after, rfl, fails, clear⟩
        exact ⟨stage :: before, other, after, rfl, fails, List.forall_mem_cons.mpr ⟨passes, clear⟩⟩
      · rintro ⟨before, other, after, parts, fails, clear⟩
        cases before with
        | nil =>
            cases parts
            exact absurd fails (passes fault)
        | cons first others =>
            cases parts
            exact ⟨others, other, after, rfl, fails, (List.forall_mem_cons.mp clear).2⟩

/-! ## Authentication goes through the stages -/

section Stages

variable (presented : parts? header = some parts)
include presented

theorem parts?_unique {other : TokenParts} (again : parts? header = some other) : parts = other :=
  Option.some.inj (presented.symm.trans again)

section Registered

variable (holds : Holds parts claims registered)
include holds

theorem holds_unique {other : TokenParts} {first : Claims} {second : Registered}
    (again : parts? header = some other) (holdsAgain : Holds other first second) :
    first = claims ∧ second = registered := by
  cases parts?_unique presented again
  exact holds.unique holdsAgain

theorem passes_issuer {issuer : Audience} (found : registered.issuer = .found issuer)
    (listed : ∀ wanted, verifier.issuer = some wanted -> wanted ∈ issuer.listed) :
    verifier.Passes now header .issuer := by
  intro fault fails
  cases fails with
  | issuer again holdsAgain foundAgain set other =>
      obtain ⟨-, rfl⟩ := holds_unique presented holds again holdsAgain
      cases found.symm.trans foundAgain
      exact other (listed _ set)

theorem passes_audience (unnamed : ∀ audience, registered.audience = .found audience ->
      audience.listed = []) : verifier.Passes now header .audience := by
  intro fault fails
  cases fails with
  | audience again holdsAgain found named =>
      obtain ⟨-, rfl⟩ := holds_unique presented holds again holdsAgain
      exact named (unnamed _ found)

theorem decided_audience {rest : List AuthStage} {outcome : Except AuthFault Claims}
    (later : verifier.Decided now header rest outcome) :
    verifier.Decided now header (.audience :: rest)
      ((match registered.audience with
        | .found (.one _) => throw .audience
        | .found (.many (_ :: _)) => throw .audience
        | _ => pure () : Except AuthFault Unit) >>= fun _ => outcome) := by
  split
  next name found => exact .here (.audience presented holds found (List.cons_ne_nil _ _))
  next name names found => exact .here (.audience presented holds found (List.cons_ne_nil _ _))
  next noName noNames =>
    refine .past (passes_audience presented holds ?_) later
    intro audience found
    rcases audience with name | names
    · exact absurd found (noName name)
    · cases names with
      | nil => rfl
      | cons name names => exact absurd found (noNames name names)

theorem decided_registered (leeway : verifier.leeway ≤ now.seconds) {rest : List AuthStage} {outcome : Except AuthFault Claims}
    (later : verifier.Decided now header rest outcome) :
    verifier.Decided now header (.requiredClaims :: .expiry :: .issuer :: .audience :: rest)
      (verifier.checkRegistered now registered >>= fun _ => outcome) := by
  simp only [checkRegistered, wordDifference_of_le leeway]
  split
  next expires subject issuer expiresFound subjectFound issuerFound =>
    refine .past ?_ ?_
    · intro fault fails
      cases fails with
      | requiredClaims again holdsAgain missing =>
          obtain ⟨-, rfl⟩ := holds_unique presented holds again holdsAgain
          exact missing expires subject issuer ⟨expiresFound, subjectFound, issuerFound⟩
    split
    next expired => exact .here (.expiry presented holds expiresFound (by omega))
    next inTime =>
      refine .past ?_ ?_
      · intro fault fails
        cases fails with
        | expiry again holdsAgain found expired =>
            obtain ⟨-, rfl⟩ := holds_unique presented holds again holdsAgain
            cases expiresFound.symm.trans found
            omega
      split
      next unset =>
        refine .past (passes_issuer presented holds issuerFound ?_) ?_
        · intro wanted set
          cases unset.symm.trans set
        · exact decided_audience presented holds later
      next wanted set =>
        by_cases listed : wanted ∈ issuer.listed
        · rw [if_neg]
          · refine .past (passes_issuer presented holds issuerFound ?_)
              (decided_audience presented holds later)
            intro other again
            cases set.symm.trans again
            exact listed
          · cases issuer with
            | one name =>
                cases List.mem_singleton.mp listed
                simp
            | many names => simpa [Audience.listed] using listed
        · rw [if_pos]
          · exact .here (.issuer presented holds issuerFound set listed)
          · cases issuer with
            | one name =>
                have differs : name ≠ wanted := by
                  rintro rfl
                  exact listed (List.mem_singleton_self name)
                simpa using differs
            | many names => simpa [Audience.listed] using listed
  next missing =>
    refine .here (.requiredClaims presented holds ?_)
    rintro expires subject issuer ⟨expiresFound, subjectFound, issuerFound⟩
    exact missing expires subject issuer expiresFound subjectFound issuerFound

end Registered

theorem passes_tokenHeader {head : TokenHeader} (named : readHeader? parts = some head) :
    verifier.Passes now header .tokenHeader := by
  intro fault fails
  cases fails with
  | tokenHeader found unread =>
      obtain ⟨token, sameToken, split⟩ := Option.bind_eq_some_iff.mp presented
      cases found.symm.trans sameToken
      rw [split, Option.bind_some, named] at unread
      cases unread

theorem passes_algorithm {kid : Option String}
    (named : readHeader? parts = some ⟨.rs256, kid⟩) :
    verifier.Passes now header .algorithm := by
  intro fault fails
  cases fails with
  | algorithm again namedAgain other =>
      cases parts?_unique presented again
      cases named.symm.trans namedAgain
      exact other rfl

theorem passes_kid {algorithm : Algorithm} {kid : String}
    (named : readHeader? parts = some ⟨algorithm, some kid⟩) :
    verifier.Passes now header .kid := by
  intro fault fails
  cases fails with
  | kid again namedAgain =>
      cases parts?_unique presented again
      cases named.symm.trans namedAgain

theorem passes_keyLookup {algorithm : Algorithm} {kid : String} {key : PublicKey}
    (named : readHeader? parts = some ⟨algorithm, some kid⟩)
    (stored : verifier.keys.find? kid = some key) : verifier.Passes now header .keyLookup := by
  intro fault fails
  cases fails with
  | keyLookup again namedAgain unknown =>
      cases parts?_unique presented again
      cases named.symm.trans namedAgain
      cases stored.symm.trans unknown

theorem passes_signature {algorithm : Algorithm} {kid : String} {key : PublicKey} {signature : Bytes}
    (named : readHeader? parts = some ⟨algorithm, some kid⟩)
    (stored : verifier.keys.find? kid = some key)
    (decodes : Base64.decode? Base64.url parts.signature = some signature)
    (signed : key.verifies parts.message signature = true) :
    verifier.Passes now header .signature := by
  intro fault fails
  cases fails with
  | undecodable again unread =>
      cases parts?_unique presented again
      cases decodes.symm.trans unread
  | unsigned again namedAgain storedAgain decodesAgain refused =>
      cases parts?_unique presented again
      cases named.symm.trans namedAgain
      cases stored.symm.trans storedAgain
      cases decodes.symm.trans decodesAgain
      cases signed.symm.trans refused

theorem decided_payload (leeway : verifier.leeway ≤ now.seconds) {payload : Bytes}
    (decodes : Base64.decode? Base64.url parts.payload = some payload) {rest : List AuthStage}
    {further : Claims -> Except AuthFault Claims}
    (later : ∀ claims registered, Holds parts claims registered ->
      verifier.Decided now header rest (further claims)) :
    verifier.Decided now header
      (.payloadShape :: .requiredClaims :: .expiry :: .issuer :: .audience :: rest)
      (verifier.checkPayload now payload >>= further) := by
  have bound {claims : Claims} {registered : Registered} (claimed : Claims.read payload = .ok claims)
      (noted : Registered.read payload = .ok registered) : Holds parts claims registered :=
    ⟨payload, decodes, claimed, noted⟩
  simp only [checkPayload]
  split
  next claims registered claimed noted =>
    have holds := bound claimed noted
    refine .past ?_ ?_
    · intro fault fails
      cases fails with
      | payloadShape again unread =>
          cases parts?_unique presented again
          exact unread claims registered holds
    · rw [bind_assoc]
      exact decided_registered presented holds leeway (later claims registered holds)
  next unread =>
    refine .here (.payloadShape presented ?_)
    rintro claims registered ⟨sameBytes, decodesAgain, claimed, noted⟩
    cases decodes.symm.trans decodesAgain
    exact unread claims registered claimed noted

end Stages

/-- Authentication is decided by the first stage that a header does not pass. -/
theorem decided (leeway : verifier.leeway ≤ now.seconds) (header : String) :
    verifier.Decided now header AuthStage.order (verifier.authenticate now header) := by
  simp only [authenticate, AuthStage.order]
  split
  next refused => exact .here (.scheme refused)
  next token found =>
  refine .past ?_ ?_
  · intro fault fails
    cases fails with
    | scheme refused => cases found.symm.trans refused
  split
  next unsplit => exact .here (.tokenHeader found (by rw [unsplit]; rfl))
  next parts split =>
  have presented : parts? header = some parts := by rw [parts?, found, Option.bind_some, split]
  split
  next unread => exact .here (.tokenHeader found (by rw [split]; exact unread))
  next algorithm kid named =>
  refine .past (passes_tokenHeader presented named) ?_
  split
  next other => exact .here (.algorithm presented named other)
  next rs256 =>
  obtain rfl : algorithm = .rs256 := Decidable.not_not.mp rs256
  refine .past (passes_algorithm presented named) ?_
  split
  next => exact .here (.kid presented named)
  next kid =>
  refine .past (passes_kid presented named) ?_
  split
  next unknown => exact .here (.keyLookup presented named unknown)
  next key stored =>
  refine .past (passes_keyLookup presented named stored) ?_
  split
  next unread => exact .here (.undecodable presented unread)
  next signature decodes =>
  split
  next refused =>
    exact .here (.unsigned presented named stored decodes (by simpa using refused))
  next signed =>
  refine .past (passes_signature presented named stored decodes (by simpa using signed)) ?_
  split
  next unread =>
    refine .here (.payloadShape presented ?_)
    rintro claims registered ⟨payload, decodesThere, -⟩
    cases unread.symm.trans decodesThere
  next payload decodes =>
  refine decided_payload presented leeway decodes ?_
  intro claims registered holds
  split
  next later => exact .here (.issuedAt presented holds later)
  next issued =>
  refine .past ?_ (.nowhere claims)
  intro fault fails
  cases fails with
  | issuedAt again holdsAgain later =>
      obtain ⟨rfl, -⟩ := holds_unique presented holds again holdsAgain
      exact issued later

/-! ## Tokens that are not signed -/

def bearer (header payload signature : String) : String :=
  "Bearer " ++ (header ++ "." ++ payload ++ "." ++ signature)

def textParts (header payload signature : String) : TokenParts :=
  ⟨Bytes.ofText header, Bytes.ofText payload, Bytes.ofText signature⟩

/-- The key that is found under the identifier does not verify the signature. -/
def Unsigned (verifier : Verifier) (parts : TokenParts) : Prop :=
  ∀ kid key signature, readHeader? parts = some ⟨.rs256, some kid⟩ ->
    verifier.keys.find? kid = some key ->
    Base64.decode? Base64.url parts.signature = some signature ->
    key.verifies parts.message signature = false

theorem ofText_joined (header payload signature : String) :
    Bytes.ofText (header ++ "." ++ payload ++ "." ++ signature) =
      Bytes.ofText header ++ TokenParts.dot :: Bytes.ofText payload ++
        TokenParts.dot :: Bytes.ofText signature := by
  have dot : Bytes.ofText "." = [TokenParts.dot] := rfl
  simp only [Bytes.ofText_append, dot, List.append_assoc, List.singleton_append]

theorem token?_blank {token : String} (blank : ' ' ∈ token.toList) :
    token? ("Bearer " ++ token) = none := by
  rw [Option.eq_none_iff_forall_ne_some]
  intro bytes found
  obtain ⟨other, same, -, -, noBlank⟩ := token?_inversion found
  rw [String.append_right_inj] at same
  rw [same] at blank
  exact noBlank blank

theorem parts?_bearer {header payload signature : String}
    (noDot : '.' ∉ payload.toList) (lastPlain : '.' ∉ signature.toList)
    (noBlank : ' ' ∉ (header ++ "." ++ payload ++ "." ++ signature).toList) :
    ∃ token, token? (bearer header payload signature) = some token ∧
      TokenParts.ofToken? token = some (textParts header payload signature) := by
  have joined := ofText_joined header payload signature
  refine ⟨_, token?_bearer ?_ ?_, ?_⟩
  · rw [joined]
    simp
  · intro present
    exact noBlank (Bytes.mem_of_code_mem (by decide) present)
  · rw [joined]
    apply TokenParts.ofToken?_joined
    · intro present
      exact noDot (Bytes.mem_of_code_mem (by decide) present)
    · intro present
      exact lastPlain (Bytes.mem_of_code_mem (by decide) present)

/-- What is wrong with a token that is not signed, said by its header and its signature alone. -/
def unsignedFault (verifier : Verifier) (header signature : Bytes) : AuthFault :=
  match (Base64.decode? Base64.url header).bind TokenHeader.read? with
  | none => .header
  | some ⟨algorithm, kid⟩ =>
      if algorithm ≠ .rs256 then .algorithm algorithm
      else match kid with
        | none => .noKid
        | some kid =>
            match verifier.keys.find? kid, Base64.decode? Base64.url signature with
            | none, _ => .unknownKey
            | some _, none => .payload
            | some _, some _ => .signature

theorem authenticate_unsigned {token : Bytes} (found : token? header = some token)
    (split : TokenParts.ofToken? token = some parts) (unsigned : verifier.Unsigned parts) :
    verifier.authenticate now header =
      .error (verifier.unsignedFault parts.header parts.signature) := by
  have sameHeader :
      (Base64.decode? Base64.url parts.header).bind TokenHeader.read? = readHeader? parts := rfl
  simp only [authenticate, found, split, unsignedFault, sameHeader]
  cases named : readHeader? parts with
  | none => rfl
  | some head =>
      obtain ⟨algorithm, kid⟩ := head
      by_cases rs256 : algorithm = .rs256
      · subst rs256
        simp only [ne_eq, not_true_eq_false, if_false]
        cases kid with
        | none => rfl
        | some kid =>
            cases stored : verifier.keys.find? kid with
            | none =>
                simp only [stored]
                rfl
            | some key =>
                cases decodes : Base64.decode? Base64.url parts.signature with
                | none =>
                    simp only [stored]
                    rfl
                | some signature =>
                    have refused := unsigned kid key signature named stored decodes
                    simp only [stored, refused]
                    rfl
      · simp only [ne_eq, rs256, not_false_eq_true, if_true]
        rfl

/-- **What a refusal tells.** Of tokens that have the same header and the same signature, those whose
signature is not that of the key they name are all refused alike, whatever their payloads are. Any
header is refused by the first of the stages that it does not pass, if the leeway is not longer than
the clock has run, and always with one of the few texts for a stage. -/
theorem authenticate_discloses (verifier : Verifier) (now : Moment) :
    (∀ header signature first second : String, '.' ∉ signature.toList ->
      ('.' ∉ first.toList ∧ ' ' ∉ first.toList) -> ('.' ∉ second.toList ∧ ' ' ∉ second.toList) ->
      verifier.Unsigned (textParts header first signature) ->
      verifier.Unsigned (textParts header second signature) ->
      ∃ fault, verifier.authenticate now (bearer header first signature) = .error fault ∧
        verifier.authenticate now (bearer header second signature) = .error fault) ∧
    (verifier.leeway ≤ now.seconds -> ∀ (header : String) (fault : AuthFault),
      verifier.authenticate now header = .error fault ↔
        ∃ before stage after, AuthStage.order = before ++ stage :: after ∧
          verifier.Fails now header stage fault ∧
          ∀ earlier ∈ before, verifier.Passes now header earlier) ∧
    (∀ (header : String) (stage : AuthStage) (fault : AuthFault),
      verifier.Fails now header stage fault -> fault.message ∈ stage.messages) ∧
    ∀ (header : String) (fault : AuthFault), verifier.authenticate now header = .error fault ->
      ∃ stage ∈ AuthStage.order, fault.message ∈ stage.messages := by
  refine ⟨?_, fun within header fault => (decided within header).error_iff fault,
    fun header stage fault fails => fails.mem_messages, ?_⟩
  · intro header signature first second lastPlain firstPlain secondPlain firstUnsigned secondUnsigned
    by_cases blank : ' ' ∈ header.toList ∨ ' ' ∈ signature.toList
    · have refused (payload : String) :
          verifier.authenticate now (bearer header payload signature) = .error .scheme := by
        have none : token? (bearer header payload signature) = none := by
          apply token?_blank
          simp only [String.toList_append, List.mem_append]
          exact blank.elim (fun present => by simp [present]) (fun present => by simp [present])
        simp only [authenticate, none]
        rfl
      exact ⟨.scheme, refused first, refused second⟩
    · have refused (payload : String) (plain : '.' ∉ payload.toList ∧ ' ' ∉ payload.toList)
          (unsigned : verifier.Unsigned (textParts header payload signature)) :
          verifier.authenticate now (bearer header payload signature) =
            .error (verifier.unsignedFault (Bytes.ofText header) (Bytes.ofText signature)) := by
        rw [not_or] at blank
        have noBlank : ' ' ∉ (header ++ "." ++ payload ++ "." ++ signature).toList := by
          simp [blank.1, blank.2, plain.2]
        obtain ⟨token, found, split⟩ := parts?_bearer plain.1 lastPlain noBlank
        exact authenticate_unsigned found split unsigned
      exact ⟨_, refused first firstPlain firstUnsigned, refused second secondPlain secondUnsigned⟩
  · intro header fault refused
    obtain ⟨stage, texts⟩ := fault.exists_stage
    exact ⟨stage, stage.mem_order, texts⟩

def sampleHead : String := "eyJ0eXAiOiJKV1QiLCJhbGciOiJSUzI1NiIsImtpZCI6InByaW1hcnkifQ"

theorem unsigned_short (payload : String) :
    sampleVerifier.Unsigned (textParts sampleHead payload "AAAA") := by
  intro kid key signature named stored decodes
  have head : readHeader? (textParts sampleHead payload "AAAA") =
      some ⟨.rs256, some sampleSigner.kid⟩ := by
    change readHeader? (textParts sampleHead "" "AAAA") = _
    decide +kernel
  have three : Base64.decode? Base64.url (Bytes.ofText "AAAA") = some [0, 0, 0] := by decide
  have size : sampleKey.numbers?.map PublicNumbers.size = some 256 := by decide +kernel
  cases named.symm.trans head
  have sameKey : key = sampleKey := Option.some.inj (stored.symm.trans sample_stored)
  have short : signature = [0, 0, 0] := Option.some.inj (decodes.symm.trans three)
  rw [← Bool.not_eq_true]
  intro verified
  have long := PublicKey.length_of_verifies verified
  rw [sameKey, size, short] at long
  cases long

theorem authenticate_discloses_sample :
    ∃ (fault : AuthFault) (stage : AuthStage),
      sampleVerifier.authenticate ⟨1700000000, 0⟩ (bearer sampleHead "e30" "AAAA") =
        .error fault ∧
      sampleVerifier.authenticate ⟨1700000000, 0⟩ (bearer sampleHead "bnVsbA" "AAAA") =
        .error fault ∧
      sampleVerifier.Fails ⟨1700000000, 0⟩ (bearer sampleHead "e30" "AAAA") stage fault ∧
      fault.message ∈ stage.messages := by
  obtain ⟨alike, first, texts, -⟩ := authenticate_discloses sampleVerifier ⟨1700000000, 0⟩
  obtain ⟨fault, refused, refusedToo⟩ := alike sampleHead "AAAA" "e30" "bnVsbA" (by decide)
    (by decide) (by decide) (unsigned_short "e30") (unsigned_short "bnVsbA")
  obtain ⟨-, stage, -, -, fails, -⟩ := (first (by decide) _ fault).mp refused
  exact ⟨fault, stage, refused, refusedToo, fails, texts _ stage fault fails⟩

/-! ## A token for somebody else -/

def strictVerifier : Verifier := { sampleVerifier with leeway := 0 }

/-- A signed token that names an audience, and that is issued five seconds too late. -/
def lateHeader : String := bearer sampleHead
  ("eyJzdWIiOiJ1MSIsInJvbGVzIjpbIlVTRVIiXSwiaXNzIjoid2FyZCB0ZXN0cyIsImlhdCI6MTcwMDAwMDAwNS" ++
    "wiZXhwIjoxNzAwMDAzNjAwLCJhdWQiOiJ6eiJ9")
  ("S5J2AGUHJmUCNuvnEdIqrvvJ-cKl3ituS3JUQaJ8iz3hT5JbDx2dDXcRTGl1qMqHRVmpnPAWb-tGMy-HSWbWyG" ++
    "GN4FYeJBicAFDSNLMC7EnPqwqeXPXfF9snXRCxnrqflr9GdSnR1sMBbAM3k3PLnsFJ8MmnYtoCR4PwfwfgzG83" ++
    "Zr-CD_17fTjWGLvBSfO3s0lkeiMvg6uq4anNwGyKlo2Mc-IgIGFDVRL2LSwtH2WBx5U6Oni_1dnjXv9rkuhV-E" ++
    "_FoXaO8SGYpA8PYiFX7a1cSwpxj3PB_3DkSxW0GXU28-xrpEXVZbkZhagohy_2d5mmNbqyjpVOeUFSZbSPmQ")

def refusal? (outcome : Except AuthFault Claims) : Option AuthFault :=
  match outcome with
  | .error fault => some fault
  | .ok _ => none

theorem eq_error_of_refusal? {outcome : Except AuthFault Claims} {fault : AuthFault}
    (refused : refusal? outcome = some fault) : outcome = .error fault := by
  cases outcome with
  | ok claims => cases refused
  | error found =>
      cases refused
      rfl

theorem late_time : ((parts? lateHeader).bind fun parts =>
      (Base64.decode? Base64.url parts.payload).bind fun payload =>
        (Claims.read payload).toOption.map fun claims => claims.issuedAt.seconds) =
    some 1700000005 := by
  decide +kernel

theorem late_refused :
    strictVerifier.authenticate ⟨1700000000, 0⟩ lateHeader = .error .audience :=
  eq_error_of_refusal? (by decide +kernel)

/-! ## A leeway longer than the clock has run -/

def wideVerifier : Verifier := { sampleVerifier with leeway := 1700000001 }

theorem wide_refused :
    wideVerifier.authenticate ⟨1700000000, 0⟩ sampleHeader = .error .expired :=
  eq_error_of_refusal? (by decide +kernel)

theorem not_expired_beyond (beyond : now.seconds ≤ verifier.leeway) (stage : AuthStage) :
    ¬ verifier.Fails now header stage .expired := by
  intro fails
  cases fails with
  | expiry presented holds found expired => omega

theorem refused_beyond_stages :
    (strictVerifier.Fails ⟨1700000000, 0⟩ lateHeader .issuedAt .issuedLater ∧
      (∀ stage ∈ AuthStage.order, stage ≠ .audience -> stage ≠ .issuedAt ->
        strictVerifier.Passes ⟨1700000000, 0⟩ lateHeader stage) ∧
      strictVerifier.authenticate ⟨1700000000, 0⟩ lateHeader = .error .audience ∧
      AuthFault.audience.message ≠ AuthFault.issuedLater.message) ∧
    wideVerifier.authenticate ⟨1700000000, 0⟩ sampleHeader = .error .expired ∧
      ∀ stage, ¬ wideVerifier.Fails ⟨1700000000, 0⟩ sampleHeader stage .expired := by
  refine ⟨?_, wide_refused, not_expired_beyond (by decide)⟩
  have within : strictVerifier.leeway ≤ (⟨1700000000, 0⟩ : Moment).seconds := Nat.zero_le _
  obtain ⟨before, stage, after, order, fails, passes⟩ :=
    ((decided within lateHeader).error_iff .audience).mp late_refused
  have failsThere := fails
  cases failsThere with
  | @audience parts claims registered audience presented holds found named =>
      have ⟨payload, decodes, claimed, noted⟩ := holds
      have computed := late_time
      rw [presented, Option.bind_some, decodes, Option.bind_some, claimed] at computed
      have time : claims.issuedAt.seconds = 1700000005 := Option.some.inj computed
      refine ⟨.issuedAt presented holds ?_, ?_, late_refused, by decide⟩
      · rw [time]
        decide
      · -- Behind the stage of the audience there is just that of the time of issue.
        have unlisted : .audience ∉ before := fun listed => passes .audience listed .audience fails
        have earlier : ∀ stage ∈ before, (stage != .audience) = true := by
          intro stage listed
          rw [bne_iff_ne]
          rintro rfl
          exact unlisted listed
        have last := congrArg (List.dropWhile (· != .audience)) order
        rw [List.dropWhile_append_of_pos earlier] at last
        obtain rfl : [.issuedAt] = after := List.tail_eq_of_cons_eq last
        intro stage listed notAudience notIssuedAt
        rw [order] at listed
        simp only [List.mem_append, List.mem_cons, List.not_mem_nil, notAudience, notIssuedAt,
          or_false] at listed
        exact passes stage listed

end Verifier

end HttpService
