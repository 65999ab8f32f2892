import Mathlib.Data.Option.Basic
import Tagging.Proofs.Text.Split
import Tagging.Proofs.Token.Fields
import Tagging.Token.Verifier

/-!
# What a verifier accepts

A token that is accepted is signed under the secret, says so in its header, and is answered by the
user and the roles in its payload. To check the expiry as well only leads to fewer tokens being
accepted: those whose expiry has not passed.
-/

namespace Tagging

open Json (Draft Members)

/-! ### Parts without dots -/

namespace Text.Base64Url

private theorem character_ne_dot (bits : Nat) : character bits ≠ '.' := by
  rw [character, List.getD_eq_getElem?_getD]
  cases found : alphabet[bits]? with
  | none => decide
  | some c =>
    have member : c ∈ alphabet := List.mem_of_getElem? found
    rintro rfl
    exact absurd member (by decide)

private theorem dot_notMem_encode (bytes : List UInt8) : '.' ∉ encode bytes := by
  fun_induction encode bytes with
  | case1 => exact List.not_mem_nil
  | case2 | case3 => simp [Ne.symm (character_ne_dot _)]
  | case4 a b c rest bits ih => simp [Ne.symm (character_ne_dot _), ih]

private theorem dot_notMem_of_decode {text : List Char} {bytes : List UInt8}
    (decoded : decode text = some bytes) : '.' ∉ text := by
  have other {c : Char} {n : Nat} (known : sextet? c = some n) : '.' ≠ c := by
    rintro rfl
    cases known
  fun_induction decode text generalizing bytes with
  | case1 => exact List.not_mem_nil
  | case2 => cases decoded
  | case3 a b =>
    simp only [Option.bind_eq_bind, Option.bind_eq_some_iff] at decoded
    obtain ⟨_, first, _, second, _⟩ := decoded
    simp [other first, other second]
  | case4 a b c =>
    simp only [Option.bind_eq_bind, Option.bind_eq_some_iff] at decoded
    obtain ⟨_, first, _, second, _, third, _⟩ := decoded
    simp [other first, other second, other third]
  | case5 a b c d rest ih =>
    simp only [Option.bind_eq_bind, Option.bind_eq_some_iff] at decoded
    obtain ⟨_, first, _, second, _, third, _, fourth, _, others, _⟩ := decoded
    simp [other first, other second, other third, other fourth, ih others]

end Text.Base64Url

namespace Token

/-! ### The parts of a token -/

/-- A part of a token holds a value: it is the text of the bytes of that value and nothing else. -/
def Holds (part : List Char) (draft : Draft) : Prop :=
  ∃ bytes rest, Text.Base64Url.decode part = some bytes ∧
    Json.take (Text.Utf8.decode bytes) = (draft, rest) ∧ Json.skipSpace rest = []

private theorem Holds.unmarked {part : List Char} {draft : Draft} (holds : Holds part draft) :
    '.' ∉ part := by
  obtain ⟨bytes, _, decoded, _⟩ := holds
  exact Text.Base64Url.dot_notMem_of_decode decoded

/-- A part holds one value at most. -/
theorem Holds.unique {part : List Char} {draft other : Draft} (holds : Holds part draft)
    (also_holds : Holds part other) : draft = other := by
  obtain ⟨bytes, rest, decoded, taken, _⟩ := holds
  obtain ⟨bytes', rest', decoded', taken', _⟩ := also_holds
  obtain rfl : bytes = bytes' := Option.some.inj (decoded.symm.trans decoded')
  exact congrArg Prod.fst (taken.symm.trans taken')

/-- A value is read from an input that holds it and nothing else. -/
theorem readInput_eq_ok_iff {α : Type} {read : Json.Decoder α} {input : Json.Input} {value : α} :
    Json.readInput read input = .ok value ↔
      ∃ draft rest, Json.take input = (draft, rest) ∧ Json.skipSpace rest = [] ∧
        read draft = .ok value := by
  unfold Json.readInput
  obtain ⟨draft, rest⟩ := Json.take input
  simp only [Prod.mk.injEq]
  constructor
  · intro done
    obtain ⟨value, done, ended⟩ := exists_of_bind done
    by_cases nothing : Json.skipSpace rest = []
    · rw [if_pos nothing] at ended
      cases ended
      exact ⟨draft, rest, ⟨rfl, rfl⟩, nothing, done⟩
    · rw [if_neg nothing] at ended
      cases ended
  · rintro ⟨_, _, ⟨rfl, rfl⟩, nothing, done⟩
    rw [done]
    exact if_pos nothing

/-- Content is read from the value that a part holds. -/
theorem content?_eq_some_iff {α : Type} {read : Json.Decoder α} {part : List Char} {value : α} :
    content? read part = some value ↔ ∃ draft, Holds part draft ∧ read draft = .ok value := by
  simp only [content?, Option.bind_eq_bind, Option.bind_eq_some_iff, toOption_eq_some_iff,
    readInput_eq_ok_iff]
  constructor
  · rintro ⟨bytes, decoded, draft, rest, taken, nothing, done⟩
    exact ⟨draft, ⟨bytes, rest, decoded, taken, nothing⟩, done⟩
  · rintro ⟨draft, ⟨bytes, rest, decoded, taken, nothing⟩, done⟩
    exact ⟨bytes, decoded, draft, rest, taken, nothing, done⟩

/-- The parts of a token are what stands before, between and after its last two dots. -/
theorem parts?_eq_some_iff {token head payload signed : List Char} :
    parts? token = some (head, payload, signed) ↔
      token = head ++ '.' :: payload ++ '.' :: signed ∧ '.' ∉ payload ∧ '.' ∉ signed := by
  simp only [parts?, Option.bind_eq_bind, Option.bind_eq_some_iff, Prod.exists,
    Text.splitLast?_eq_some_iff, Option.some.injEq, Prod.mk.injEq]
  constructor
  · rintro ⟨message, _, ⟨rfl, signed⟩, _, _, ⟨rfl, payload⟩, rfl, rfl, rfl⟩
    exact ⟨rfl, payload, signed⟩
  · rintro ⟨rfl, unmarkedPayload, unmarkedSigned⟩
    exact ⟨_, _, ⟨rfl, unmarkedSigned⟩, _, _, ⟨rfl, unmarkedPayload⟩, rfl, rfl, rfl⟩

/-! ### Tokens that are accepted -/

/-- The token is signed under the secret, and its header and its payload are in order. -/
def Signed (secret token : String) (claims : Claims) (said : Terms) : Prop :=
  ∃ head payload first members,
    Text.splitAll '.' token.toList = [head, payload, signature secret (head ++ '.' :: payload)] ∧
      Holds head first ∧ header first = .ok () ∧ Holds payload (.object members) ∧
      Claims.decoder (.object members) = .ok claims ∧ terms (.object members) = .ok said

private theorem splitAll_eq_iff_parts? {token head payload signed : List Char} :
    Text.splitAll '.' token = [head, payload, signed] ↔
      parts? token = some (head, payload, signed) ∧ '.' ∉ head := by
  have joined : ['.'].intercalate [head, payload, signed] =
      head ++ '.' :: payload ++ '.' :: signed := by
    simp only [List.intercalate_cons_cons, List.intercalate_singleton, List.append_assoc,
      List.cons_append, List.nil_append]
  rw [parts?_eq_some_iff, Text.splitAll_eq_iff]
  constructor
  · rintro ⟨_, unmarked, whole⟩
    rw [joined] at whole
    exact ⟨⟨whole.symm, unmarked _ (by simp), unmarked _ (by simp)⟩, unmarked _ (by simp)⟩
  · rintro ⟨⟨rfl, second, third⟩, first⟩
    exact ⟨by simp, by simp [first, second, third], joined⟩

private theorem object_of_terms {draft : Draft} {said : Terms} (read : terms draft = .ok said) :
    ∃ members, draft = .object members := by
  unfold terms at read
  split at read
  · exact ⟨_, rfl⟩
  · cases read

/-- A verifier answers the claims of a token that is signed under the secret and names no audience,
unless it checks the expiry and the token is not current. -/
theorem verify_eq_some_iff {verifier : Verifier} {now : Instant} {token : String}
    {claims : Claims} :
    verifier.verify now token = some claims ↔
      ∃ said, Signed verifier.secret token claims said ∧ said.audience ≠ some true ∧
        (verifier.checksExpiry → said.isCurrent now) := by
  simp only [Verifier.verify, Option.bind_eq_bind, Option.bind_eq_some_iff, Prod.exists,
    content?_eq_some_iff, Option.guard_eq_some', exists_const, Option.some.injEq, Bool.or_eq_true,
    Bool.not_eq_true', ← Bool.not_eq_true, ← imp_iff_not_or]
  constructor
  · rintro ⟨head, payload, signed, parts, _, ⟨first, holdsHead, named⟩, same, _,
      ⟨draft, holds, claimed⟩, said, ⟨draft', also_holds, told⟩, meant, current, rfl⟩
    obtain rfl : draft = draft' := holds.unique also_holds
    obtain ⟨members, rfl⟩ := object_of_terms told
    subst same
    have whole := splitAll_eq_iff_parts?.mpr ⟨parts, holdsHead.unmarked⟩
    exact ⟨said, ⟨head, payload, first, members, whole, holdsHead, named, holds, claimed, told⟩,
      meant, current⟩
  · rintro ⟨said, ⟨head, payload, first, members, whole, holdsHead, named, holds, claimed, told⟩,
      meant, current⟩
    exact ⟨head, payload, _, (splitAll_eq_iff_parts?.mp whole).1, (), ⟨first, holdsHead, named⟩,
      rfl, claims, ⟨_, holds, claimed⟩, said, ⟨_, holds, told⟩, meant, current, rfl⟩

/-- The claims are what a token says that is signed under the secret by HMAC with SHA-256. -/
def Vouched (secret token : String) (claims : Claims) : Prop :=
  ∃ head payload first members,
    Text.splitAll '.' token.toList = [head, payload, Text.Base64Url.encode (Sha256.authenticate
      (Text.Utf8.encode secret) (Text.Utf8.encode (String.ofList (head ++ '.' :: payload))))] ∧
    Holds head first ∧ HeaderNamesHs256 first ∧
    Holds payload (.object members) ∧ claims.Stand members

/-- The payload of a token is an object with these members. -/
def Carries (token : String) (members : Members) : Prop :=
  ∃ head payload signed, Text.splitAll '.' token.toList = [head, payload, signed] ∧
    Holds payload (.object members)

private theorem Signed.vouched {secret token : String} {claims : Claims} {said : Terms}
    (signed : Signed secret token claims said) : Vouched secret token claims := by
  obtain ⟨head, payload, first, members, parts, holdsHead, named, holds, claimed, _⟩ := signed
  exact ⟨head, payload, first, members, parts, holdsHead, names_of_header named, holds,
    Claims.stand_of_decoder claimed⟩

/-- A token carries one object at most. -/
theorem Carries.unique {token : String} {members others : Members}
    (carries : Carries token members) (also_carries : Carries token others) : members = others := by
  obtain ⟨head, payload, signed, parts, holds⟩ := carries
  obtain ⟨head', payload', signed', parts', also_holds⟩ := also_carries
  cases parts.symm.trans parts'
  cases holds.unique also_holds
  rfl

private theorem Signed.takes_expiry {secret token : String} {claims : Claims} {said : Terms}
    (signed : Signed secret token claims said) : ∃ members, Carries token members ∧
      Json.Takes seconds (members.values "exp") said.expiry := by
  obtain ⟨head, payload, first, members, parts, _, _, holds, _, told⟩ := signed
  exact ⟨members, ⟨head, payload, _, parts, holds⟩, Token.takes_expiry told⟩

/-! ### Expiry -/

/-- With an expiry a token is current as long as not more than the leeway has passed since. -/
theorem isCurrent_iff {said : Terms} {now : Instant} :
    said.isCurrent now ↔ ∃ expiry : Nat, said.expiry = some (some expiry) ∧
      now.seconds - leeway ≤ expiry := by
  unfold Terms.isCurrent
  split
  · next expiry held =>
    rw [held]
    simp only [decide_eq_true_eq, Option.some.injEq, exists_eq_left']
    omega
  · next missing =>
    simp only [Bool.false_eq_true, false_iff]
    rintro ⟨expiry, held, _⟩
    exact missing expiry held

private theorem seconds_of_natural {number : Json.Number} {expiry : Nat}
    (natural : number.natural? = some expiry) {read : Option Nat}
    (done : seconds (.number number) = .ok read) : read = some expiry := by
  rw [seconds] at done
  split at done
  · cases done
  · rw [secondsOf, natural] at done
    exact (Except.ok.inj done).symm

/-- The token of a header and a payload, signed under a secret. -/
def sign (secret : String) (head payload : List Char) : String :=
  String.ofList (head ++ '.' :: payload ++ '.' :: signature secret (head ++ '.' :: payload))

private theorem parts?_sign {secret : String} {head payload : List Char}
    (unmarked : '.' ∉ payload) :
    parts? (sign secret head payload).toList =
      some (head, payload, signature secret (head ++ '.' :: payload)) := by
  rw [parts?_eq_some_iff, sign, String.toList_ofList]
  exact ⟨rfl, unmarked, Text.Base64Url.dot_notMem_encode _⟩

private theorem carries_sign {secret : String} {head payload : List Char} {members : Members}
    (unmarked : '.' ∉ head) (holds : Holds payload (.object members)) :
    Carries (sign secret head payload) members :=
  ⟨head, payload, signature secret (head ++ '.' :: payload),
    splitAll_eq_iff_parts?.mpr ⟨parts?_sign holds.unmarked, unmarked⟩, holds⟩

/-- A token that was signed under the secret is signed if its header and its payload are in
order. -/
theorem signed_sign_iff {secret : String} {head payload : List Char} {members : Members}
    {claims : Claims} {said : Terms} (holds : Holds payload (.object members)) :
    Signed secret (sign secret head payload) claims said ↔
      (∃ first, Holds head first ∧ header first = .ok ()) ∧
        Claims.decoder (.object members) = .ok claims ∧ terms (.object members) = .ok said := by
  have parts : parts? (sign secret head payload).toList =
      some (head, payload, signature secret (head ++ '.' :: payload)) :=
    parts?_sign holds.unmarked
  constructor
  · rintro ⟨head', payload', first, members', whole, holdsHead, named, also_holds, claimed, told⟩
    have same := parts.symm.trans (splitAll_eq_iff_parts?.mp whole).1
    cases same
    cases holds.unique also_holds
    exact ⟨⟨first, holdsHead, named⟩, claimed, told⟩
  · rintro ⟨⟨first, holdsHead, named⟩, claimed, told⟩
    exact ⟨head, payload, first, members,
      splitAll_eq_iff_parts?.mpr ⟨parts, holdsHead.unmarked⟩, holdsHead, named, holds, claimed,
      told⟩

/-- Whether a token is accepted, and how it is answered, does not depend on a plain expiry where
that is not checked. -/
theorem verify_sign_iff {secret : String} {now : Instant} {head payload : List Char}
    {members : Members} {claims : Claims} (holds : Holds payload (.object members))
    (plain : HasPlainExpiry members) :
    (⟨secret, false⟩ : Verifier).verify now (sign secret head payload) = some claims ↔
      (∃ first, Holds head first ∧ header first = .ok ()) ∧
        Claims.decoder (.object (members.without "exp")) = .ok claims ∧
        ∃ audience, (terms (.object (members.without "exp"))).map Terms.audience = .ok audience ∧
          audience ≠ some true := by
  rw [verify_eq_some_iff, Claims.decoder_without_expiry plain.whole,
    ← audience_without_expiry plain]
  simp only [signed_sign_iff holds]
  constructor
  · rintro ⟨said, ⟨named, claimed, told⟩, meant, _⟩
    rw [told]
    exact ⟨named, claimed, _, rfl, meant⟩
  · rintro ⟨named, claimed, audience, told, meant⟩
    cases read : terms (.object members) with
    | error fault =>
      rw [read] at told
      cases told
    | ok said =>
      rw [read] at told
      cases told
      exact ⟨said, ⟨named, claimed, rfl⟩, meant, nofun⟩

private theorem Signed.expiry_of_mem {secret token : String} {claims : Claims} {said : Terms}
    {members : Members} {digits : List Char} {expiry : Nat}
    (signed : Signed secret token claims said) (carries : Carries token members)
    (stands : .number ⟨false, digits, none, none⟩ ∈ members.values "exp")
    (whole : Text.decimal? digits = some expiry) (fits : expiry < UInt64.size) :
    said.expiry = some (some expiry) := by
  obtain ⟨members', also_carries, takes⟩ := signed.takes_expiry
  obtain rfl : members = members' := carries.unique also_carries
  have bounded : expiry < Text.wordBound := fits
  have natural : (⟨false, digits, none, none⟩ : Json.Number).natural? = some expiry := by
    simp [Json.Number.natural?, whole, bounded, guard]
  cases read : said.expiry with
  | none =>
    rw [read] at takes
    rw [takes.eq_nil] at stands
    cases stands
  | some held =>
    rw [read] at takes
    obtain ⟨draft, only, done⟩ := takes.eq_singleton
    rw [only, List.mem_singleton] at stands
    subst stands
    rw [seconds_of_natural natural done]

/-- A verifier accepts a token only if it is signed under the secret by HMAC with SHA-256, and
answers what its payload says of the user and the roles. To check the expiry as well only restricts
what is accepted. Without that check neither the time nor a plain expiry makes any difference. With
it a token without an expiry is refused, one that is accepted was accepted before, and one whose
expiry is a whole number is accepted until the leeway has passed since. -/
theorem verify_strict (secret token : String) :
    let lax : Verifier := ⟨secret, false⟩
    let strict : Verifier := ⟨secret, true⟩
    (∀ checks now claims, (⟨secret, checks⟩ : Verifier).verify now token = some claims →
      Vouched secret token claims) ∧
    (∀ now claims, strict.verify now token = some claims → lax.verify now token = some claims) ∧
    (∀ now later, lax.verify now token = lax.verify later token) ∧
    (∀ now head payload other members others,
      Holds payload (.object members) → Holds other (.object others) →
      members.without "exp" = others.without "exp" →
      HasPlainExpiry members → HasPlainExpiry others →
      lax.verify now (sign secret head payload) = lax.verify now (sign secret head other)) ∧
    (∀ now, (∀ members, Carries token members → members.values "exp" = []) →
      strict.verify now token = none) ∧
    (∀ now earlier claims, earlier.seconds ≤ now.seconds →
      strict.verify now token = some claims → strict.verify earlier token = some claims) ∧
    ∀ now members digits expiry, Carries token members →
      .number ⟨false, digits, none, none⟩ ∈ members.values "exp" →
      Text.decimal? digits = some expiry → expiry < UInt64.size →
      ∀ claims, strict.verify now token = some claims ↔
        lax.verify now token = some claims ∧ now.seconds - 60 ≤ expiry := by
  intro lax strict
  refine ⟨fun checks now claims accepted ↦ ?_, fun now claims accepted ↦ ?_, fun now later ↦ ?_,
    fun now head payload other members others holds also_holds same plain also_plain ↦ ?_,
    fun now missing ↦ ?_, fun now earlier claims before accepted ↦ ?_,
    fun now members digits expiry carries stands whole fits claims ↦ ?_⟩
  · obtain ⟨said, signed, _⟩ := verify_eq_some_iff.mp accepted
    exact signed.vouched
  · obtain ⟨said, signed, meant, _⟩ := verify_eq_some_iff.mp accepted
    exact verify_eq_some_iff.mpr ⟨said, signed, meant, nofun⟩
  · apply Option.ext
    intro claims
    rw [verify_eq_some_iff, verify_eq_some_iff]
    simp [lax]
  · apply Option.ext
    intro claims
    rw [verify_sign_iff holds plain, verify_sign_iff also_holds also_plain, same]
  · refine Option.eq_none_iff_forall_ne_some.mpr fun claims accepted ↦ ?_
    obtain ⟨said, signed, _, current⟩ := verify_eq_some_iff.mp accepted
    obtain ⟨expiry, held, _⟩ := isCurrent_iff.mp (current rfl)
    -- The expiry that is checked must stand in the payload, where there is none.
    obtain ⟨members, carries, takes⟩ := signed.takes_expiry
    rw [held, missing members carries] at takes
    cases takes
  · obtain ⟨said, signed, meant, current⟩ := verify_eq_some_iff.mp accepted
    obtain ⟨expiry, held, reaches⟩ := isCurrent_iff.mp (current rfl)
    have still : earlier.seconds - leeway ≤ expiry := by omega
    exact verify_eq_some_iff.mpr
      ⟨said, signed, meant, fun _ ↦ isCurrent_iff.mpr ⟨expiry, held, still⟩⟩
  · rw [verify_eq_some_iff, verify_eq_some_iff]
    constructor
    · rintro ⟨said, signed, meant, current⟩
      obtain ⟨expiry', held, reaches⟩ := isCurrent_iff.mp (current rfl)
      rw [signed.expiry_of_mem carries stands whole fits] at held
      cases held
      exact ⟨⟨said, signed, meant, nofun⟩, reaches⟩
    · rintro ⟨⟨said, signed, meant, _⟩, reaches⟩
      have held := signed.expiry_of_mem carries stands whole fits
      exact ⟨said, signed, meant, fun _ ↦ isCurrent_iff.mpr ⟨expiry, held, reaches⟩⟩

/-- One token is signed without an expiry, another until second 1000. The first is accepted only
where that is not checked, the second up to second 1060 in any case. -/
theorem verify_strict_sixty_seconds :
    let lax : Verifier := ⟨"s3cret", false⟩
    let strict : Verifier := ⟨"s3cret", true⟩
    let time := fun seconds ↦ (Instant.ofSeconds? seconds 0).getD .origin
    let alice : Claims := ⟨"alice", []⟩
    let endless := "eyJhbGciOiJIUzI1NiJ9.eyJzdWIiOiJhbGljZSJ9." ++
      "u39FWNWhm-Q8KkeBRb2mm4HWeTmw2QUz6zEUYtp5P4M"
    let limited := sign "s3cret" "eyJhbGciOiJIUzI1NiJ9".toList
      "eyJzdWIiOiJhbGljZSIsImV4cCI6MTAwMH0".toList
    Vouched "s3cret" limited alice ∧
      lax.verify (time 60) endless = some alice ∧ strict.verify (time 60) endless = none ∧
      lax.verify (time 1061) limited = some alice ∧
      strict.verify (time 1060) limited = some alice ∧
      strict.verify (time 60) limited = some alice ∧
      strict.verify (time 1061) limited = none := by
  intro lax strict time alice endless limited
  let head := "eyJhbGciOiJIUzI1NiJ9".toList
  let members : Members := .member (.ok "sub") (.text (.ok "alice")) .closed
  let number : Json.Number := ⟨false, ['1', '0', '0', '0'], none, none⟩
  let others : Members :=
    .member (.ok "sub") (.text (.ok "alice")) (.member (.ok "exp") (.number number) .closed)
  have holds : Holds "eyJzdWIiOiJhbGljZSJ9".toList (.object members) :=
    ⟨Text.Utf8.encode "\x7b\"sub\":\"alice\"\x7d", [], by decide +kernel, by rfl, by rfl⟩
  have also_holds : Holds "eyJzdWIiOiJhbGljZSIsImV4cCI6MTAwMH0".toList (.object others) :=
    ⟨Text.Utf8.encode "\x7b\"sub\":\"alice\",\"exp\":1000\x7d", [],
      by decide +kernel, by rfl, by rfl⟩
  have signed : sign "s3cret" head "eyJzdWIiOiJhbGljZSJ9".toList = endless := by decide +kernel
  have accepted : lax.verify (time 60) endless = some alice := by decide +kernel
  have unmarked : '.' ∉ head := by decide
  have carries : Carries endless members := signed ▸ carries_sign unmarked holds
  have also_carries : Carries limited others := carries_sign unmarked also_holds
  obtain ⟨_, _, timeless, expiryless, missing, _⟩ := verify_strict "s3cret" endless
  obtain ⟨vouched, _, always, _, _, earlier, until_then⟩ := verify_strict "s3cret" limited
  have plain : HasPlainExpiry others := .inr ⟨_, rfl, number, rfl, rfl, rfl⟩
  have same := expiryless (time 60) head _ _ members others holds also_holds rfl (.inl rfl) plain
  have also_accepted : lax.verify (time 60) limited = some alice := by
    rw [← same, signed]
    exact accepted
  have expires (now : Instant) := until_then now others ['1', '0', '0', '0'] 1000 also_carries
    (by simp [others, Members.values, number]) (by decide) (by decide)
  have last : strict.verify (time 1060) limited = some alice :=
    (expires _ alice).mpr ⟨(always _ (time 60)).trans also_accepted, by decide⟩
  have none_said (members' : Members) (also : Carries endless members') :
      members'.values "exp" = [] := by
    rw [← carries.unique also]
    rfl
  have expired : strict.verify (time 1061) limited = none := by
    refine Option.eq_none_iff_forall_ne_some.mpr fun claims accepted ↦ ?_
    have reaches := ((expires _ claims).mp accepted).2
    exact absurd reaches (by decide)
  refine ⟨vouched false (time 60) alice also_accepted, accepted, missing _ none_said,
    (always _ (time 60)).trans also_accepted, last, earlier _ _ alice (by decide) last, expired⟩

end Token

end Tagging
