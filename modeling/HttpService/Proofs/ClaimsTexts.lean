import HttpService.Proofs.WholeTexts
import HttpService.Proofs.WrittenClaims
/-! # The texts that claims are read from

`Claims.read_iff` says which texts are accepted and as what: an object whose members have each known
key once, but for the roles, which may be missing, or a list of the five values in order. With the
texts that are written (`Claims.read_encode`) this makes a codec: `Claims.codec_faithful`. -/
set_option autoImplicit false

namespace HttpService.Claims

open Json Json.Reader

/-! ## Values -/

theorem beginning_past (input : Bytes) : beginning.run (past input) = beginning.run input := by
  simp only [beginning, run_bind, run_peekPastBlanks, past_past]

theorem textValue_past (input : Bytes) : textValue.run (past input) = textValue.run input := by
  simp only [textValue, run_bind, beginning_past]

theorem timeValue_past (input : Bytes) : timeValue.run (past input) = timeValue.run input := by
  simp only [timeValue, wholeValue, run_bind, beginning_past]

theorem rolesValue_past (input : Bytes) : rolesValue.run (past input) = rolesValue.run input := by
  simp only [rolesValue, listOf, run_bind, beginning_past]

theorem spans_timeValue {input after : Bytes} {time : Timestamp}
    (read : timeValue.run input = (.ok time, after)) : Spans .value input after := by
  obtain ⟨written, here, _⟩ := timeValue_inversion read
  exact here.spans

/-- The readers that find a value where it begins, whatever blanks are before it. -/
structure Wanted {α : Type} (reader : Reader α) : Prop where
  blind : ∀ input, reader.run (past input) = reader.run input
  sound : ∀ input after a, reader.run input = (.ok a, after) -> Spans .value input after

theorem wanted_text : Wanted textValue := ⟨textValue_past, fun _ _ _ => spans_textValue⟩

theorem wanted_time : Wanted timeValue := ⟨timeValue_past, fun _ _ _ => spans_timeValue⟩

theorem wanted_roles : Wanted rolesValue := ⟨rolesValue_past, fun _ _ _ => spans_rolesValue⟩

/-- What is found in a value is read up to the end of the value. -/
theorem Wanted.run_of_finds {α : Type} {reader : Reader α} (wanted : Wanted reader)
    {value after : Bytes} {a : α} (finds : Finds reader value a)
    (spans : Spans .value value after) : reader.run value = (.ok a, after) := by
  obtain ⟨stopped, read⟩ := finds
  rw [read, (wanted.sound _ _ _ read).unique spans]

theorem finds_time {value : Bytes} {time : Timestamp} :
    Finds timeValue value time ↔
      ∃ written after, NumberAt value after written ∧ written.toInt? = some time.seconds := by
  constructor
  · rintro ⟨after, read⟩
    obtain ⟨written, here, same⟩ := timeValue_inversion read
    exact ⟨written, after, here, same⟩
  · rintro ⟨written, after, here, same⟩
    refine ⟨after, ?_⟩
    simp only [timeValue, run_bind, run_wholeValue here same, Timestamp.ofSeconds?_seconds]
    rfl

theorem finds_roles {value : Bytes} {roles : Roles} :
    Finds rolesValue value roles ↔
      ∃ names, Finds (listOf textValue) value names ∧ roles = Roles.ofList names := by
  constructor
  · rintro ⟨after, read⟩
    obtain ⟨names, between, listed, done⟩ := bind_eq_ok.mp read
    cases done
    exact ⟨names, ⟨_, listed⟩, rfl⟩
  · rintro ⟨names, ⟨after, listed⟩, rfl⟩
    refine ⟨after, ?_⟩
    rw [rolesValue, run_bind, listed]
    rfl

/-! ## Members -/

def valuesUnder (key : String) (members : List (String × Bytes)) : List Bytes :=
  (members.filter fun member => member.1 = key).map Prod.snd

theorem valuesUnder_same (key : String) (value : Bytes) (members : List (String × Bytes)) :
    valuesUnder key ((key, value) :: members) = value :: valuesUnder key members := by
  simp [valuesUnder]

theorem valuesUnder_other {key other : String} (differs : other ≠ key) (value : Bytes)
    (members : List (String × Bytes)) :
    valuesUnder key ((other, value) :: members) = valuesUnder key members := by
  simp [valuesUnder, differs]

/-- What reading the values of one key makes of what was found under it: the first value is kept, and
there is no second. -/
inductive Filled {α : Type} (reader : Reader α) : Option α -> List Bytes -> Option α -> Prop where
  | kept {present : Option α} : Filled reader present [] present
  | once {value : Bytes} {a : α} (finds : Finds reader value a) :
      Filled reader none [value] (some a)

theorem filled_cons {α : Type} {reader : Reader α} {present last : Option α} {value : Bytes}
    {values : List Bytes} :
    Filled reader present (value :: values) last ↔
      present = none ∧ ∃ a, Finds reader value a ∧ Filled reader (some a) values last := by
  constructor
  · rintro (_ | finds)
    exact ⟨rfl, _, finds, .kept⟩
  · rintro ⟨rfl, a, finds, _ | _⟩
    exact .once finds

theorem filled_some {α : Type} {reader : Reader α} {values : List Bytes} {a : α} :
    Filled reader none values (some a) ↔ ∃ value, values = [value] ∧ Finds reader value a := by
  constructor
  · rintro (_ | finds)
    exact ⟨_, rfl, finds⟩
  · rintro ⟨value, rfl, finds⟩
    exact .once finds

structure Slot where
  α : Type
  key : String
  reader : Reader α
  get : Partial -> Option α
  set : Partial -> α -> Partial

namespace Slot

def subject : Slot :=
  ⟨String, "sub", textValue, Partial.subject, fun found text => { found with subject := some text }⟩

def roles : Slot :=
  ⟨Roles, "roles", rolesValue, Partial.roles, fun found roles => { found with roles := some roles }⟩

def issuer : Slot :=
  ⟨String, "iss", textValue, Partial.issuer, fun found text => { found with issuer := some text }⟩

def issuedAt : Slot :=
  ⟨Timestamp, "iat", timeValue, Partial.issuedAt,
    fun found time => { found with issuedAt := some time }⟩

def expiresAt : Slot :=
  ⟨Timestamp, "exp", timeValue, Partial.expiresAt,
    fun found time => { found with expiresAt := some time }⟩

inductive Valid : Slot -> Prop where
  | subject : Valid subject
  | roles : Valid roles
  | issuer : Valid issuer
  | issuedAt : Valid issuedAt
  | expiresAt : Valid expiresAt

theorem Valid.wanted {slot : Slot} (valid : Valid slot) : Wanted slot.reader := by
  cases valid with
  | subject => exact wanted_text
  | roles => exact wanted_roles
  | issuer => exact wanted_text
  | issuedAt => exact wanted_time
  | expiresAt => exact wanted_time

theorem Valid.known {slot : Slot} (valid : Valid slot) : slot.key ∈ Claims.known := by
  cases valid <;> decide

theorem exists_slot {key : String} (known : key ∈ Claims.known) :
    ∃ slot, Valid slot ∧ slot.key = key := by
  simp only [Claims.known, List.mem_cons, List.not_mem_nil, or_false] at known
  rcases known with rfl | rfl | rfl | rfl | rfl
  · exact ⟨subject, .subject, rfl⟩
  · exact ⟨roles, .roles, rfl⟩
  · exact ⟨issuer, .issuer, rfl⟩
  · exact ⟨issuedAt, .issuedAt, rfl⟩
  · exact ⟨expiresAt, .expiresAt, rfl⟩

theorem Valid.eq_of_key {slot other : Slot} (valid : Valid slot) (also : Valid other)
    (same : slot.key = other.key) : slot = other := by
  cases valid <;> cases also <;> first | rfl | exact absurd same (by decide)

theorem Valid.get_set {slot : Slot} (valid : Valid slot) (found : Partial) (a : slot.α) :
    slot.get (slot.set found a) = some a := by
  cases valid <;> rfl

theorem Valid.get_set_other {slot other : Slot} (valid : Valid slot) (also : Valid other)
    (differs : slot.key ≠ other.key) (found : Partial) (a : slot.α) :
    other.get (slot.set found a) = other.get found := by
  cases valid <;> cases also <;> first | rfl | exact absurd rfl differs

end Slot

open Slot (Valid)

/-- What reading members makes of what was found before: each slot by itself. -/
def Gathered (found : Partial) (members : List (String × Bytes)) (last : Partial) : Prop :=
  ∀ slot, Valid slot ->
    Filled slot.reader (slot.get found) (valuesUnder slot.key members) (slot.get last)

inductive Adds (found : Partial) (value : Bytes) : String -> Partial -> Prop where
  | filled {slot : Slot} (valid : Valid slot) (new : slot.get found = none) {a : slot.α}
      (finds : Finds slot.reader value a) : Adds found value slot.key (slot.set found a)
  | other {key : String} (unknown : key ∉ known) : Adds found value key found

theorem gathered_nil {found last : Partial} : Gathered found [] last ↔ found = last := by
  constructor
  · intro gathered
    have same {slot : Slot} (valid : Valid slot) : slot.get found = slot.get last := by
      have filled := gathered slot valid
      generalize slot.get found = present at filled ⊢
      generalize slot.get last = final at filled ⊢
      cases filled
      rfl
    have subject : found.subject = last.subject := same .subject
    have roles : found.roles = last.roles := same .roles
    have issuer : found.issuer = last.issuer := same .issuer
    have issuedAt : found.issuedAt = last.issuedAt := same .issuedAt
    have expiresAt : found.expiresAt = last.expiresAt := same .expiresAt
    cases found
    cases last
    simp only at subject roles issuer issuedAt expiresAt
    rw [subject, roles, issuer, issuedAt, expiresAt]
  · rintro rfl slot _
    exact .kept

theorem gathered_cons {found last : Partial} {key : String} {value : Bytes}
    {members : List (String × Bytes)} :
    Gathered found ((key, value) :: members) last ↔
      ∃ next, Adds found value key next ∧ Gathered next members last := by
  constructor
  · intro gathered
    by_cases named : key ∈ known
    · obtain ⟨slot, valid, rfl⟩ := Slot.exists_slot named
      have filled := gathered slot valid
      rw [valuesUnder_same, filled_cons] at filled
      obtain ⟨new, a, finds, rest⟩ := filled
      refine ⟨_, .filled valid new finds, ?_⟩
      -- The head goes to the slot of its key; any other slot sees only what follows.
      intro other also
      by_cases same : slot.key = other.key
      · obtain rfl := valid.eq_of_key also same
        rw [valid.get_set]
        exact rest
      · rw [valid.get_set_other also same]
        have kept := gathered other also
        rwa [valuesUnder_other same] at kept
    · refine ⟨found, .other named, ?_⟩
      intro slot valid
      have differs : key ≠ slot.key := by
        rintro rfl
        exact named valid.known
      have kept := gathered slot valid
      rwa [valuesUnder_other differs] at kept
  · rintro ⟨next, adds, gathered⟩ other also
    have rest := gathered other also
    cases adds with
    | @filled slot valid new a finds =>
        by_cases same : slot.key = other.key
        · obtain rfl := valid.eq_of_key also same
          rw [valid.get_set] at rest
          rw [valuesUnder_same, filled_cons]
          exact ⟨new, a, finds, rest⟩
        · rw [valid.get_set_other also same] at rest
          rwa [valuesUnder_other same]
    | other unknown =>
        have differs : key ≠ other.key := by
          rintro rfl
          exact unknown also.known
        rwa [valuesUnder_other differs]

/-- What was found in a slot that was empty stands under its key, once. -/
theorem Gathered.once {members : List (String × Bytes)} {last : Partial}
    (gathered : Gathered {} members last) {slot : Slot} (valid : Valid slot) {a : slot.α}
    (present : slot.get last = some a) :
    ∃ value, valuesUnder slot.key members = [value] ∧ Finds slot.reader value a := by
  have filled := gathered slot valid
  have empty : slot.get {} = none := by cases valid <;> rfl
  rwa [empty, present, filled_some] at filled

/-! ## Objects -/

theorem onlyOnce_new {α : Type} {reader : Reader α} {input value after : Bytes} {a : α}
    (start : past input = 58 :: value) (read : reader.run value = (.ok a, after)) :
    (onlyOnce none reader).run input = (.ok (some a), after) := by
  rw [onlyOnce, if_neg (by simp)]
  simp only [colon, run_bind, run_peekPastBlanks, start, List.head?_cons, run_advance,
    List.tail_cons, read]
  rfl

theorem member_unknown {found : Partial} {key : String} (unknown : key ∉ known) :
    member found key = do colon; skip; return found := by
  simp only [member]
  split
  next => exact absurd (by decide) unknown
  next => exact absurd (by decide) unknown
  next => exact absurd (by decide) unknown
  next => exact absurd (by decide) unknown
  next => exact absurd (by decide) unknown
  next => rfl

theorem member_slot {slot : Slot} (valid : Valid slot) {found : Partial} {input after : Bytes}
    {a : slot.α}
    (once : (onlyOnce (slot.get found) slot.reader).run input = (.ok (some a), after)) :
    (member found slot.key).run input = (.ok (slot.set found a), after) := by
  cases valid
  all_goals
    simp only [Slot.subject, Slot.roles, Slot.issuer, Slot.issuedAt, Slot.expiresAt] at once ⊢
    simp only [member, run_bind, once]
    rfl

/-- Reading a member reads a colon and a value, and adds the value. -/
theorem member_iff {found next : Partial} {key : String} {input after : Bytes} :
    (member found key).run input = (.ok next, after) ↔
      ∃ value, past input = 58 :: value ∧ Spans .value value after ∧
        Adds found value key next := by
  constructor
  · intro read
    cases stepped_of_member read with
    | subject named new start value =>
        subst named
        exact ⟨_, start, spans_textValue value, .filled .subject new ⟨after, value⟩⟩
    | roles named new start value =>
        subst named
        exact ⟨_, start, spans_rolesValue value, .filled .roles new ⟨after, value⟩⟩
    | issuer named new start value =>
        subst named
        exact ⟨_, start, spans_textValue value, .filled .issuer new ⟨after, value⟩⟩
    | issuedAt named new start value =>
        subst named
        exact ⟨_, start, spans_timeValue value, .filled .issuedAt new ⟨after, value⟩⟩
    | expiresAt named new start value =>
        subst named
        exact ⟨_, start, spans_timeValue value, .filled .expiresAt new ⟨after, value⟩⟩
    | other unknown start skipped => exact ⟨_, start, spans_skip _ _ skipped, .other unknown⟩
  · rintro ⟨value, start, spans, adds⟩
    cases adds with
    | @filled slot valid new a finds =>
        refine member_slot valid ?_
        rw [new]
        exact onlyOnce_new start (valid.wanted.run_of_finds finds spans)
    | other unknown =>
        rw [member_unknown unknown]
        simp only [colon, run_bind, run_peekPastBlanks, start, List.head?_cons, run_advance,
          List.tail_cons, skip_iff_spans.mpr spans]
        rfl

theorem completes_iff {first : Bool} {found last : Partial} {input : Bytes} :
    Completes member first found input last ↔
      ∃ members, Members first input members ∧ Gathered found members last := by
  constructor
  · intro completes
    induction completes with
    | ends brace nothing => exact ⟨[], .ends brace nothing, gathered_nil.mpr rfl⟩
    | member here named stepped more ih =>
        obtain ⟨members, rest, gathered⟩ := ih
        obtain ⟨value, start, spans, adds⟩ := member_iff.mp stepped
        exact ⟨_, .member here named start spans rest, gathered_cons.mpr ⟨_, adds, gathered⟩⟩
  · rintro ⟨members, here, gathered⟩
    induction here generalizing found with
    | ends brace nothing =>
        obtain rfl := gathered_nil.mp gathered
        exact .ends brace nothing
    | member here named colon spans more ih =>
        obtain ⟨next, adds, gathered⟩ := gathered_cons.mp gathered
        exact .member here named (member_iff.mpr ⟨_, colon, spans, adds⟩) (ih gathered)

/-! ## Whole texts -/

theorem complete_iff {found : Partial} {claims : Claims} {input after : Bytes} :
    found.complete.run input = (.ok claims, after) ↔
      (found.subject = some claims.subject ∧ found.issuer = some claims.issuer ∧
        found.issuedAt = some claims.issuedAt ∧ found.expiresAt = some claims.expiresAt ∧
        found.roles.getD .empty = claims.roles) ∧ input = after := by
  constructor
  · intro read
    simp only [Partial.complete] at read
    split at read
    next subject issuer issuedAt expiresAt =>
      cases read
      exact ⟨⟨subject, issuer, issuedAt, expiresAt, rfl⟩, rfl⟩
    next => simp [run_fail] at read
  · rintro ⟨⟨subject, issuer, issuedAt, expiresAt, roles⟩, rfl⟩
    simp only [Partial.complete, subject, issuer, issuedAt, expiresAt, roles]
    rfl

def Whole (value : Bytes) (whole : Int) : Prop :=
  ∃ written after, NumberAt value after written ∧ written.toInt? = some whole

/-- What the members of an object say: each known key once, but for the roles. -/
structure Described (members : List (String × Bytes)) (claims : Claims) : Prop where
  subject : ∃ value, valuesUnder "sub" members = [value] ∧ Finds textValue value claims.subject
  roles : (valuesUnder "roles" members = [] ∧ claims.roles = .empty) ∨
    ∃ value names, valuesUnder "roles" members = [value] ∧
      Finds (listOf textValue) value names ∧ claims.roles = Roles.ofList names
  issuer : ∃ value, valuesUnder "iss" members = [value] ∧ Finds textValue value claims.issuer
  issuedAt : ∃ value, valuesUnder "iat" members = [value] ∧ Whole value claims.issuedAt.seconds
  expiresAt : ∃ value, valuesUnder "exp" members = [value] ∧ Whole value claims.expiresAt.seconds

/-- What the items of a list say: the five values in the order in which they are written. -/
inductive Listed (claims : Claims) : List Bytes -> Prop where
  | five {first second third fourth fifth : Bytes} {names : List String}
      (subject : Finds textValue first claims.subject)
      (listed : Finds (listOf textValue) second names) (roles : claims.roles = Roles.ofList names)
      (issuer : Finds textValue third claims.issuer)
      (issuedAt : Whole fourth claims.issuedAt.seconds)
      (expiresAt : Whole fifth claims.expiresAt.seconds) :
      Listed claims [first, second, third, fourth, fifth]

theorem described_iff {members : List (String × Bytes)} {claims : Claims} :
    Described members claims ↔
      ∃ last : Partial, Gathered {} members last ∧ last.subject = some claims.subject ∧
        last.issuer = some claims.issuer ∧ last.issuedAt = some claims.issuedAt ∧
        last.expiresAt = some claims.expiresAt ∧ last.roles.getD .empty = claims.roles := by
  constructor
  · rintro ⟨subject, roles, issuer, issuedAt, expiresAt⟩
    have gathered (found : Option Roles)
        (filled : Filled rolesValue none (valuesUnder "roles" members) found) :
        Gathered {} members ⟨some claims.subject, found, some claims.issuer, some claims.issuedAt,
          some claims.expiresAt⟩ := by
      intro slot valid
      cases valid with
      | subject => exact filled_some.mpr subject
      | roles => exact filled
      | issuer => exact filled_some.mpr issuer
      | issuedAt =>
          obtain ⟨value, single, whole⟩ := issuedAt
          exact filled_some.mpr ⟨value, single, finds_time.mpr whole⟩
      | expiresAt =>
          obtain ⟨value, single, whole⟩ := expiresAt
          exact filled_some.mpr ⟨value, single, finds_time.mpr whole⟩
    rcases roles with ⟨missing, nobody⟩ | ⟨value, names, single, listed, same⟩
    · refine ⟨_, gathered none ?_, rfl, rfl, rfl, rfl, nobody.symm⟩
      rw [missing]
      exact .kept
    · have found : Finds rolesValue value claims.roles := finds_roles.mpr ⟨names, listed, same⟩
      exact ⟨_, gathered (some claims.roles) (filled_some.mpr ⟨value, single, found⟩), rfl, rfl, rfl,
        rfl, rfl⟩
  · rintro ⟨last, gathered, subject, issuer, issuedAt, expiresAt, roles⟩
    constructor
    case subject => exact gathered.once .subject subject
    case issuer => exact gathered.once .issuer issuer
    case issuedAt =>
      obtain ⟨value, single, found⟩ := gathered.once .issuedAt issuedAt
      exact ⟨value, single, finds_time.mp found⟩
    case expiresAt =>
      obtain ⟨value, single, found⟩ := gathered.once .expiresAt expiresAt
      exact ⟨value, single, finds_time.mp found⟩
    case roles =>
      have filled : Filled rolesValue none (valuesUnder "roles" members) last.roles :=
        gathered _ .roles
      cases found : last.roles with
      | none =>
          rw [found] at filled roles
          generalize valuesUnder "roles" members = values at filled ⊢
          cases filled
          exact .inl ⟨rfl, roles.symm⟩
      | some kept =>
          rw [found] at filled roles
          obtain ⟨value, single, found⟩ := filled_some.mp filled
          obtain ⟨names, listed, same⟩ := finds_roles.mp found
          exact .inr ⟨value, names, single, listed, roles.symm.trans same⟩

theorem items_cons {first : Bool} {input value : Bytes} {others : List Bytes} :
    Items first input (value :: others) ↔
      ∃ after, (ItemAt first input value ∧ Spans .value value after) ∧ Items false after others := by
  constructor
  · rintro (_ | ⟨here, spans, more⟩)
    exact ⟨_, ⟨here, spans⟩, more⟩
  · rintro ⟨after, ⟨here, spans⟩, more⟩
    exact .item here spans more

theorem Wanted.itemOf_iff {α : Type} {reader : Reader α} (wanted : Wanted reader) {first : Bool}
    {input after : Bytes} {a : α} :
    (itemOf first reader).run input = (.ok a, after) ↔
      ∃ value, (ItemAt first input value ∧ Spans .value value after) ∧ Finds reader value a := by
  rw [Reader.itemOf_iff wanted.blind wanted.sound]
  constructor
  · rintro ⟨value, here, read⟩
    exact ⟨value, ⟨here, wanted.sound _ _ _ read⟩, after, read⟩
  · rintro ⟨value, ⟨here, spans⟩, finds⟩
    exact ⟨value, here, wanted.run_of_finds finds spans⟩

theorem listed_iff {input : Bytes} {claims : Claims} :
    (∃ between ending, listed.run input = (.ok claims, between) ∧ past between = 93 :: ending ∧
        past ending = []) ↔
      ∃ items, Items true input items ∧ Listed claims items := by
  constructor
  · rintro ⟨between, ending, read, bracket, nothing⟩
    obtain ⟨subject, after, read₁, read⟩ := bind_eq_ok.mp read
    obtain ⟨roles, after, read₂, read⟩ := bind_eq_ok.mp read
    obtain ⟨issuer, after, read₃, read⟩ := bind_eq_ok.mp read
    obtain ⟨issuedAt, after, read₄, read⟩ := bind_eq_ok.mp read
    obtain ⟨expiresAt, after, read₅, read⟩ := bind_eq_ok.mp read
    cases read
    obtain ⟨first, here₁, found₁⟩ := wanted_text.itemOf_iff.mp read₁
    obtain ⟨second, here₂, found₂⟩ := wanted_roles.itemOf_iff.mp read₂
    obtain ⟨third, here₃, found₃⟩ := wanted_text.itemOf_iff.mp read₃
    obtain ⟨fourth, here₄, found₄⟩ := wanted_time.itemOf_iff.mp read₄
    obtain ⟨fifth, here₅, found₅⟩ := wanted_time.itemOf_iff.mp read₅
    obtain ⟨names, listed, same⟩ := finds_roles.mp found₂
    refine ⟨[first, second, third, fourth, fifth], ?_,
      .five found₁ listed same found₃ (finds_time.mp found₄) (finds_time.mp found₅)⟩
    exact items_cons.mpr ⟨_, here₁, items_cons.mpr ⟨_, here₂, items_cons.mpr ⟨_, here₃,
      items_cons.mpr ⟨_, here₄, items_cons.mpr ⟨_, here₅, .ends bracket nothing⟩⟩⟩⟩⟩
  · rintro ⟨items, here, @⟨first, second, third, fourth, fifth, names, subject, listed, roles,
      issuer, issuedAt, expiresAt⟩⟩
    obtain ⟨after₁, here₁, here⟩ := items_cons.mp here
    obtain ⟨after₂, here₂, here⟩ := items_cons.mp here
    obtain ⟨after₃, here₃, here⟩ := items_cons.mp here
    obtain ⟨after₄, here₄, here⟩ := items_cons.mp here
    obtain ⟨after₅, here₅, here⟩ := items_cons.mp here
    have read₁ := wanted_text.itemOf_iff.mpr ⟨_, here₁, subject⟩
    have read₂ := wanted_roles.itemOf_iff.mpr ⟨_, here₂, finds_roles.mpr ⟨names, listed, roles⟩⟩
    have read₃ := wanted_text.itemOf_iff.mpr ⟨_, here₃, issuer⟩
    have read₄ := wanted_time.itemOf_iff.mpr ⟨_, here₄, finds_time.mpr issuedAt⟩
    have read₅ := wanted_time.itemOf_iff.mpr ⟨_, here₅, finds_time.mpr expiresAt⟩
    cases here with
    | ends bracket nothing =>
        refine ⟨after₅, _, ?_, bracket, nothing⟩
        simp only [Claims.listed, run_bind, read₁, read₂, read₃, read₄, read₅]
        rfl

/-- The texts that are accepted, and as what. -/
theorem read_iff {text : Bytes} {claims : Claims} :
    Claims.read text = .ok claims ↔
      (∃ members, ObjectOf text members ∧ Described members claims) ∨
      (∃ items, ListOf text items ∧ Listed claims items) := by
  constructor
  · intro read
    rcases framed_inversion read with ⟨rest, between, ending, start, read, closes, nothing⟩ |
      ⟨rest, between, ending, start, read, closes, nothing⟩
    · rw [run_bounded] at read
      obtain ⟨last, stopped, folded, read⟩ := bind_eq_ok.mp read
      obtain ⟨complete, rfl⟩ := complete_iff.mp read
      have completes := completes_of_fold folded closes nothing
      obtain ⟨members, here, gathered⟩ := completes_iff.mp completes
      exact .inl ⟨members, ⟨rest, start, here⟩, described_iff.mpr ⟨last, gathered, complete⟩⟩
    · obtain ⟨items, here, listed⟩ := listed_iff.mp ⟨between, ending, read, closes, nothing⟩
      exact .inr ⟨items, ⟨rest, start, here⟩, listed⟩
  · rintro (⟨members, ⟨rest, start, here⟩, described⟩ | ⟨items, ⟨rest, start, here⟩, listed⟩)
    · obtain ⟨last, gathered, complete⟩ := described_iff.mp described
      -- Every member takes some of the text, so the fold ends at the brace and not at its bound.
      obtain ⟨stopped, ending, folded, closes, nothing⟩ :=
        (fold_iff_completes spans_member).mpr (completes_iff.mpr ⟨members, here, gathered⟩)
      refine all_iff.mpr ⟨ending, ?_, nothing⟩
      have body : (bounded fun bound => do
          (← foldMembers member bound true {}).complete : Reader Claims).run rest =
          (.ok claims, stopped) := by
        rw [run_bounded, run_bind, folded]
        exact complete_iff.mpr ⟨complete, rfl⟩
      simp only [reader, run_bind, run_beginning start]
      rw [if_pos (by decide), run_advance_bind, List.tail_cons]
      exact (closing_iff .object).mpr ⟨stopped, body, closes⟩
    · obtain ⟨between, ending, read, closes, nothing⟩ := listed_iff.mpr ⟨items, here, listed⟩
      refine all_iff.mpr ⟨ending, ?_, nothing⟩
      simp only [reader, run_bind, run_beginning start]
      rw [if_neg (by decide), if_pos (by decide), run_advance_bind, List.tail_cons]
      exact (closing_iff .list).mpr ⟨between, read, closes⟩

end HttpService.Claims

namespace HttpService

/-! ## Roles -/

theorem Roles.find?_foldl_insert (names : List String) (roles : Roles) (role : String) :
    ((names.map fun name => (name, ())).foldl
        (fun table entry => table.insert entry.1 entry.2) roles).find? role =
      if role ∈ names then some () else roles.find? role := by
  induction names generalizing roles with
  | nil => simp
  | cons name rest ih =>
      rw [List.map_cons, List.foldl_cons, ih, Dictionary.find?_insert]
      by_cases later : role ∈ rest
      · rw [if_pos later, if_pos (List.mem_cons_of_mem _ later)]
      · simp only [later, if_false, List.mem_cons, or_false, eq_comm]

theorem Roles.find?_ofList (names : List String) (role : String) :
    (Roles.ofList names).find? role = if role ∈ names then some () else none :=
  Roles.find?_foldl_insert names .empty role

/-- Roles are a set. -/
theorem Roles.ofList_eq_iff {names others : List String} :
    Roles.ofList names = Roles.ofList others ↔ ∀ role, role ∈ names ↔ role ∈ others := by
  constructor
  · intro same role
    have found := congrArg (Dictionary.find? · role) same
    simp only [Roles.find?_ofList] at found
    by_cases one : role ∈ names
    · by_cases other : role ∈ others
      · exact iff_of_true one other
      · rw [if_pos one, if_neg other] at found
        cases found
    · by_cases other : role ∈ others
      · rw [if_neg one, if_pos other] at found
        cases found
      · exact iff_of_false one other
  · intro same
    apply Dictionary.ext_find?
    intro role
    simp only [Roles.find?_ofList, same role]

namespace Claims

open Json.Reader

/-! ## The codec -/

def rewrite (text : Bytes) : Except Json.Fault Bytes :=
  (Claims.read text).map fun claims => claims.toJson.encode

theorem encode_injective {claims others : Claims}
    (same : claims.toJson.encode = others.toJson.encode) : claims = others := by
  have read := read_encode claims
  rw [same, read_encode others, Except.ok.injEq] at read
  exact read.symm

theorem refused_of_never {text : Bytes} (never : ∀ claims, Claims.read text ≠ .ok claims) :
    ∃ fault, Claims.read text = .error fault := by
  cases read : Claims.read text with
  | error fault => exact ⟨fault, rfl⟩
  | ok claims => exact absurd read (never claims)

theorem described_of_read {text : Bytes} {members : List (String × Bytes)} {claims : Claims}
    (object : ObjectOf text members) (read : Claims.read text = .ok claims) :
    Described members claims := by
  rcases read_iff.mp read with ⟨members', object', described⟩ | ⟨items, list, _⟩
  · rwa [object.unique object']
  · exact absurd list object.not_list

theorem listed_of_read {text : Bytes} {items : List Bytes} {claims : Claims}
    (list : ListOf text items) (read : Claims.read text = .ok claims) : Listed claims items := by
  rcases read_iff.mp read with ⟨members, object, _⟩ | ⟨items', list', listed⟩
  · exact absurd list object.not_list
  · rwa [list.unique list']

theorem Described.once {members : List (String × Bytes)} {claims : Claims}
    (described : Described members claims) {key : String} (named : key ∈ known) :
    (valuesUnder key members).length ≤ 1 := by
  have single {value : Bytes} (one : valuesUnder key members = [value]) :
      (valuesUnder key members).length ≤ 1 := by
    rw [one]
    exact Nat.le_refl 1
  simp only [known, List.mem_cons, List.not_mem_nil, or_false] at named
  rcases named with rfl | rfl | rfl | rfl | rfl
  · obtain ⟨value, one, _⟩ := described.subject
    exact single one
  · rcases described.roles with ⟨missing, _⟩ | ⟨value, names, one, _⟩
    · rw [missing]
      exact Nat.zero_le 1
    · exact single one
  · obtain ⟨value, one, _⟩ := described.issuer
    exact single one
  · obtain ⟨value, one, _⟩ := described.issuedAt
    exact single one
  · obtain ⟨value, one, _⟩ := described.expiresAt
    exact single one

theorem mem_valuesUnder {key : String} {value : Bytes} {members : List (String × Bytes)}
    (present : (key, value) ∈ members) : value ∈ valuesUnder key members := by
  refine List.mem_map.mpr ⟨(key, value), List.mem_filter.mpr ⟨present, ?_⟩, rfl⟩
  exact decide_eq_true rfl

/-- Every time of an object is a number of seconds that a time has. -/
theorem Described.timed {members : List (String × Bytes)} {claims : Claims}
    (described : Described members claims) {key : String} {value : Bytes}
    (named : key = "iat" ∨ key = "exp") (present : (key, value) ∈ members) :
    ∃ time : Timestamp, Whole value time.seconds := by
  have under := mem_valuesUnder present
  rcases named with rfl | rfl
  · obtain ⟨only, one, whole⟩ := described.issuedAt
    rw [one, List.mem_singleton] at under
    exact ⟨_, under ▸ whole⟩
  · obtain ⟨only, one, whole⟩ := described.expiresAt
    rw [one, List.mem_singleton] at under
    exact ⟨_, under ▸ whole⟩

def Untimely (value : Bytes) : Prop :=
  ∀ whole, Whole value whole -> whole < -8334601228800 ∨ 8210266876799 < whole

theorem Untimely.not_whole {value : Bytes} (untimely : Untimely value) (time : Timestamp) :
    ¬ Whole value time.seconds := by
  intro whole
  have bounds := time.inRange
  have outside := untimely time.seconds whole
  omega

/-- What writing claims and reading them again does. -/
structure Codec : Prop where
  returns : ∀ claims : Claims, Claims.read claims.toJson.encode = .ok claims
  accepts : ∀ text claims, Claims.read text = .ok claims ↔
    (∃ members, ObjectOf text members ∧ Described members claims) ∨
    (∃ items, ListOf text items ∧ Listed claims items)
  settles : ∀ text written, rewrite text = .ok written ->
    Claims.read written = Claims.read text ∧ rewrite written = .ok written
  sameText : ∀ subject names others issuer issuedAt expiresAt,
    (Claims.new subject names issuer issuedAt expiresAt).toJson.encode =
        (Claims.new subject others issuer issuedAt expiresAt).toJson.encode ↔
      ∀ role, role ∈ names ↔ role ∈ others
  repeated : ∀ text members key, ObjectOf text members -> key ∈ known ->
    2 ≤ (valuesUnder key members).length -> ∃ fault, Claims.read text = .error fault
  untimelyMember : ∀ text members key value, ObjectOf text members -> key = "iat" ∨ key = "exp" ->
    (key, value) ∈ members -> Untimely value -> ∃ fault, Claims.read text = .error fault
  untimelyItem : ∀ text items value, ListOf text items -> value ∈ items.drop 3 ->
    Untimely value -> ∃ fault, Claims.read text = .error fault

/-- **Claims are written and read back faithfully**: reading what was written gives the claims back.
A text is accepted just when it is an object that has each known key once, the roles maybe not at all,
whatever the order and the other keys, or a list of the five values; the times are the whole numbers
that stand there. Writing what was read settles the text: the new text is read as the same claims and
written as itself. The text of claims depends on their roles only as a set. A known key twice, or a
time that is no whole number in the range of times, is refused. -/
theorem codec_faithful : Codec where
  returns := read_encode
  accepts := fun _ _ => read_iff
  settles := by
    intro text written rewritten
    simp only [rewrite] at rewritten ⊢
    cases read : Claims.read text with
    | error fault =>
        rw [read] at rewritten
        cases rewritten
    | ok claims =>
        rw [read] at rewritten
        cases rewritten
        rw [read_encode]
        exact ⟨rfl, rfl⟩
  sameText := by
    intro subject names others issuer issuedAt expiresAt
    rw [← Roles.ofList_eq_iff]
    constructor
    · intro same
      exact congrArg Claims.roles (encode_injective same)
    · intro same
      rw [Claims.new, Claims.new, same]
  repeated := by
    intro text members key object named twice
    apply refused_of_never
    intro claims read
    have once := (described_of_read object read).once named
    omega
  untimelyMember := by
    intro text members key value object named present untimely
    apply refused_of_never
    intro claims read
    obtain ⟨time, whole⟩ := (described_of_read object read).timed named present
    exact untimely.not_whole time whole
  untimelyItem := by
    intro text items value list present untimely
    apply refused_of_never
    intro claims read
    cases listed_of_read list read with
    | five subject listed roles issuer issuedAt expiresAt =>
        simp only [List.drop_succ_cons, List.drop_zero, List.mem_cons, List.not_mem_nil,
          or_false] at present
        rcases present with rfl | rfl
        · exact untimely.not_whole _ issuedAt
        · exact untimely.not_whole _ expiresAt

example : (Claims.read (Bytes.ofText
    "\x7b \"exp\": 2, \"iat\": 1, \"other\": [0], \"iss\": \"w\", \"sub\": \"u\" \x7d")).toOption =
      some (.new "u" [] "w" ⟨1, by decide⟩ ⟨2, by decide⟩) := by decide +kernel

example : (rewrite (Bytes.ofText "[\"u\", [\"b\", \"a\", \"b\"], \"w\", 1, 2]")).toOption =
    some (Bytes.ofText
      "\x7b\"sub\":\"u\",\"roles\":[\"a\",\"b\"],\"iss\":\"w\",\"iat\":1,\"exp\":2\x7d") := by
  decide +kernel

end Claims

end HttpService
