import Mathlib.Data.Option.Basic
import Tagging.Http.Identity
import Tagging.Proofs.Text.Blank
import Tagging.Proofs.Text.Split

/-!
# One source of identity

A request speaks for one principal at most, and what it is told by is one source alone: the token,
if there are credentials that can be read, and otherwise, where they are trusted, the headers that
name a user and roles. This holds however tokens are checked.
-/

namespace Tagging.Http

/-! ### Headers -/

namespace Request

/-- The first header with a name, the case of letters aside, has a value. -/
def Sends (request : Request) (name value : String) : Prop :=
  ∃ before header after, request.headers = before ++ header :: after ∧
    header.1.toList.map Char.toLower = name.toList.map Char.toLower ∧
    (∀ other ∈ before, other.1.toList.map Char.toLower ≠ name.toList.map Char.toLower) ∧
    header.2 = value

/-- The first header with a name has a value of which each character is a visible one, a space or a
tab. -/
def Tells (request : Request) (name value : String) : Prop :=
  request.Sends name value ∧ ∀ c ∈ value.toList, (32 ≤ c.toNat ∧ c.toNat < 127) ∨ c = '\t'

variable {request : Request} {name value other : String}

/-- The value that is looked up is that of the first header with the name. -/
theorem header?_eq_some_iff : request.header? name = some value ↔ request.Sends name value := by
  simp only [header?, Sends, Option.map_eq_some_iff, List.find?_eq_some_iff_append,
    decide_eq_true_eq, Bool.not_eq_true', decide_eq_false_iff_not]
  constructor
  · rintro ⟨header, ⟨named, before, after, split, first⟩, given⟩
    exact ⟨before, header, after, split, named, first, given⟩
  · rintro ⟨before, header, after, split, named, first, given⟩
    exact ⟨header, ⟨named, before, after, split, first⟩, given⟩

/-- The value that is read is that of the first header with the name, if it can be read. -/
theorem readable?_eq_some_iff :
    request.readable? name = some value ↔ request.Tells name value := by
  have readable (given : String) : given.toList.all isReadable = true ↔
      ∀ c ∈ given.toList, (32 ≤ c.toNat ∧ c.toNat < 127) ∨ c = '\t' := by
    simp [List.all_eq_true, isReadable]
  have steps : request.readable? name = (request.header? name).bind fun given ↦
      (guard (given.toList.all isReadable = true) : Option Unit).bind fun _ ↦ some given := rfl
  rw [Tells, ← header?_eq_some_iff, ← readable, steps]
  simp only [Option.bind_eq_some_iff, Option.guard_eq_some', Option.some.injEq]
  constructor
  · rintro ⟨given, found, _, all, rfl⟩
    exact ⟨found, all⟩
  · rintro ⟨found, all⟩
    exact ⟨value, found, (), all, rfl⟩

/-- No value is read if there is none that can be read. -/
theorem readable?_eq_none_iff :
    request.readable? name = none ↔ ∀ value, ¬ request.Tells name value := by
  simp only [← readable?_eq_some_iff, Option.eq_none_iff_forall_ne_some]

end Request

/-! ### Tokens and roles -/

/-- A token stands behind the word that announces it. -/
theorem bearer?_eq_some_iff {credentials token : String} :
    bearer? credentials = some token ↔ credentials = "Bearer " ++ token := by
  unfold bearer?
  constructor
  · intro found
    dsimp only at found
    split at found
    · next announced =>
      obtain ⟨rest, whole⟩ := List.isPrefixOf_iff_prefix.mp announced
      obtain rfl := Option.some.inj found
      rw [← String.toList_inj, String.toList_append, ← whole, List.drop_left]
      exact congrArg _ String.toList_ofList.symm
    · cases found
  · rintro rfl
    have announced : "Bearer ".toList.isPrefixOf ("Bearer " ++ token).toList = true := by
      rw [String.toList_append, List.isPrefixOf_iff_prefix]
      exact List.prefix_append ..
    dsimp only
    rw [if_pos announced, String.toList_append, List.drop_left, String.ofList_toList]

/-- The roles that a text lists are its parts between commas, without the white space around them,
as far as anything is left of them. -/
def ListsRoles (text : String) (roles : List String) : Prop :=
  ∃ parts, Text.Joins ',' parts text.toList ∧
    roles = ((parts.map Text.trim).filter (· ≠ [])).map String.ofList

/-- What is read from a text are the roles that it lists. -/
theorem listed_eq_iff {text : String} {roles : List String} :
    listed text = roles ↔ ListsRoles text roles := by
  constructor
  · rintro rfl
    exact ⟨_, Text.splitAll_eq_iff.mp rfl, rfl⟩
  · rintro ⟨parts, joins, rfl⟩
    rw [listed, Text.splitAll_eq_iff.mpr joins]

/-- A role as it stands in a list: a name with spaces around it. -/
structure RoleEntry where
  before : List Char
  name : String
  after : List Char
  spaces : ∀ c ∈ before ++ after, c = ' ' ∨ c = '\t'
  ne_empty : name ≠ ""
  trimmed : Text.trimmed name = name
  unmarked : ',' ∉ name.toList
  readable : ∀ c ∈ name.toList, (32 ≤ c.toNat ∧ c.toNat < 127) ∨ c = '\t'

namespace RoleEntry

/-- The characters of an entry. -/
def text (entry : RoleEntry) : List Char :=
  entry.before ++ entry.name.toList ++ entry.after

/-- The text of a list of entries, with commas between them. -/
def join (entries : List RoleEntry) : String :=
  String.ofList ([','].intercalate (entries.map text))

private theorem trim_text (entry : RoleEntry) : Text.trim entry.text = entry.name.toList := by
  have blank (c : Char) (space : c = ' ' ∨ c = '\t') : Text.isBlank c := by
    obtain rfl | rfl := space <;> decide
  have trimmed : Text.trim entry.name.toList = entry.name.toList :=
    Text.ofList_eq_iff.mp entry.trimmed
  have ends := Text.trims_trim entry.name.toList
  rw [trimmed] at ends
  apply Text.Trims.trim_eq
  refine ⟨⟨entry.before, entry.after, rfl, fun c member ↦ ?_, fun c member ↦ ?_⟩, ends.first,
    ends.last⟩
  · exact blank c (entry.spaces c (List.mem_append_left _ member))
  · exact blank c (entry.spaces c (List.mem_append_right _ member))

private theorem not_mem_text (entry : RoleEntry) : ',' ∉ entry.text := by
  rw [text, List.append_assoc, List.mem_append, List.mem_append, or_left_comm, ← List.mem_append]
  rintro (inName | around)
  · exact entry.unmarked inName
  · obtain other | other := entry.spaces _ around <;> cases other

private theorem joins_join {entries : List RoleEntry} (some : entries ≠ []) :
    Text.Joins ',' (entries.map text) (join entries).toList where
  ne_nil := mt List.map_eq_nil_iff.mp some
  unmarked part member := by
    obtain ⟨entry, _, rfl⟩ := List.mem_map.mp member
    exact entry.not_mem_text
  joined := String.toList_ofList.symm

private theorem listsRoles_join (entries : List RoleEntry) :
    ListsRoles (join entries) (entries.map name) := by
  rw [← listed_eq_iff]
  by_cases none : entries = []
  · rw [none]
    decide
  have names : (entries.map text).map Text.trim = (entries.map name).map String.toList := by
    rw [List.map_map, List.map_map]
    exact List.map_congr_left fun entry _ ↦ entry.trim_text
  have kept : ((entries.map name).map String.toList).filter (· ≠ []) =
      (entries.map name).map String.toList := by
    rw [List.filter_eq_self]
    intro characters member
    obtain ⟨given, named, rfl⟩ := List.mem_map.mp member
    obtain ⟨entry, _, rfl⟩ := List.mem_map.mp named
    exact decide_eq_true (mt String.toList_eq_nil_iff.mp entry.ne_empty)
  have strings : String.ofList ∘ String.toList = id := funext fun _ ↦ String.ofList_toList
  rw [listed, Text.splitAll_eq_iff.mpr (joins_join none), names, kept, List.map_map, strings,
    List.map_id]

private theorem readable_join (entries : List RoleEntry) {c : Char}
    (member : c ∈ (join entries).toList) : (32 ≤ c.toNat ∧ c.toNat < 127) ∨ c = '\t' := by
  by_cases none : entries = []
  · rw [none] at member
    cases member
  obtain rfl | ⟨part, listed, inPart⟩ := (joins_join none).mem member
  · decide
  · obtain ⟨entry, _, rfl⟩ := List.mem_map.mp listed
    rw [text, List.append_assoc, List.mem_append, List.mem_append, or_left_comm,
      ← List.mem_append] at inPart
    obtain inName | around := inPart
    · exact entry.readable c inName
    · obtain rfl | rfl := entry.spaces c around <;> decide

end RoleEntry

/-! ### Sources -/

/-- The principal that a token gives, if there is a way to check tokens. -/
def Settings.ofToken (settings : Settings) (check : Option (String → Option Claims))
    (credentials : String) : Except Refusal Principal :=
  match (bearer? credentials).bind fun token ↦ check.bind fun check ↦ check token with
  | some claims => .ok (settings.principal claims.subject claims.roles)
  | none => .error .unauthorized

/-- The principal that headers name, if they are trusted. -/
def Settings.ofHeaders (settings : Settings) (request : Request) : Except Refusal Principal :=
  if settings.trustsHeaders then
    let user := Text.trimmed ((request.readable? "X-User-Id").getD "")
    if user = "" then .error .unauthorized
    else .ok (settings.principal user (((request.readable? "X-Roles").map listed).getD []))
  else .error .unauthorized

/-- The principal of a request, if there is a way to check tokens. -/
def identifyBy (settings : Settings) (check : Option (String → Option Claims))
    (request : Request) : Except Refusal Principal :=
  match request.readable? "Authorization" with
  | some credentials => settings.ofToken check credentials
  | none => settings.ofHeaders request

/-- The roles that a request names: those that its header lists, or none. -/
def Request.NamesRoles (request : Request) (roles : List String) : Prop :=
  (∃ text, request.Tells "X-Roles" text ∧ ListsRoles text roles) ∨
    (∀ text, ¬ request.Tells "X-Roles" text) ∧ roles = []

/-- The principal for whom a request speaks. -/
inductive Speaks (settings : Settings) (check : Option (String → Option Claims))
    (request : Request) : Principal → Prop where
  /-- With credentials it is the one whom the token names, if there is a way to check it and it is
  accepted. -/
  | token {token : String} {verify : String → Option Claims} {claims : Claims}
    (sent : request.Tells "Authorization" ("Bearer " ++ token)) (configured : check = some verify)
    (accepted : verify token = some claims) :
    Speaks settings check request
      ⟨claims.subject, claims.roles, settings.admins.contains claims.subject⟩
  /-- Without credentials it is the one whom headers name, if they are trusted. -/
  | headers {text : String} {roles : List String}
    (silent : ∀ credentials, ¬ request.Tells "Authorization" credentials)
    (trusted : settings.trustsHeaders = true) (named : request.Tells "X-User-Id" text)
    (visible : Text.trimmed text ≠ "") (acting : request.NamesRoles roles) :
    Speaks settings check request
      ⟨Text.trimmed text, roles, settings.admins.contains (Text.trimmed text)⟩

section

variable {settings : Settings} {check : Option (String → Option Claims)} {request : Request}
  {principal : Principal}

/-- Who makes a request is settled by how the verifier checks tokens at the time. -/
theorem identify_eq (settings : Settings) (verifier : Option Token.Verifier) (now : Instant)
    (request : Request) :
    identify settings verifier now request =
      identifyBy settings (verifier.map fun verifier ↦ verifier.verify now) request := by
  unfold identify identifyBy
  cases request.readable? "Authorization" with
  | none => rfl
  | some credentials =>
    dsimp only [claims?, Settings.ofToken]
    cases bearer? credentials with
    | none => rfl
    | some token => cases verifier <;> rfl

/-- A token gives the principal whom it names, if there is a way to check it and it is accepted. -/
theorem ofToken_eq_ok_iff {credentials : String} :
    settings.ofToken check credentials = .ok principal ↔ ∃ token verify claims,
      credentials = "Bearer " ++ token ∧ check = some verify ∧ verify token = some claims ∧
        settings.principal claims.subject claims.roles = principal := by
  simp only [← bearer?_eq_some_iff, Settings.ofToken]
  cases bearer? credentials with
  | none => simp
  | some token =>
    cases check with
    | none => simp
    | some verify =>
      cases accepted : verify token <;> simp [accepted]

/-- Headers name the roles that are read from them. -/
theorem Request.namesRoles_iff {roles : List String} :
    request.NamesRoles roles ↔
      ((request.readable? "X-Roles").map listed).getD [] = roles := by
  rw [NamesRoles, ← readable?_eq_none_iff]
  simp only [← readable?_eq_some_iff, ← listed_eq_iff]
  cases request.readable? "X-Roles" <;> simp [eq_comm]

/-- Headers give the principal whom they name, if they are trusted. -/
theorem ofHeaders_eq_ok_iff :
    settings.ofHeaders request = .ok principal ↔ settings.trustsHeaders = true ∧
      ∃ text roles, request.Tells "X-User-Id" text ∧ Text.trimmed text ≠ "" ∧
        request.NamesRoles roles ∧
        settings.principal (Text.trimmed text) roles = principal := by
  simp only [← Request.readable?_eq_some_iff, Request.namesRoles_iff, Settings.ofHeaders]
  cases settings.trustsHeaders with
  | false => simp
  | true =>
    cases request.readable? "X-User-Id" with
    | none =>
      have blank : Text.trimmed "" = "" := by decide
      simp [blank]
    | some text =>
      by_cases blank : Text.trimmed text = "" <;> simp [blank]

/-- Who cannot be identified is refused as such. -/
theorem identifyBy_error {refusal : Refusal}
    (failed : identifyBy settings check request = .error refusal) : refusal = .unauthorized := by
  unfold identifyBy at failed
  split at failed
  · unfold Settings.ofToken at failed
    split at failed
    · cases failed
    · exact (Except.error.inj failed).symm
  · unfold Settings.ofHeaders at failed
    split at failed
    · dsimp only at failed
      split at failed
      · exact (Except.error.inj failed).symm
      · cases failed
    · exact (Except.error.inj failed).symm

private theorem identifyBy_of_told {credentials : String}
    (told : request.Tells "Authorization" credentials) :
    identifyBy settings check request = settings.ofToken check credentials := by
  rw [identifyBy, Request.readable?_eq_some_iff.mpr told]

private theorem identifyBy_of_silent
    (silent : ∀ credentials, ¬ request.Tells "Authorization" credentials) :
    identifyBy settings check request = settings.ofHeaders request := by
  rw [identifyBy, Request.readable?_eq_none_iff.mpr silent]

/-- A request is identified as the principal for whom it speaks. -/
theorem identifyBy_eq_ok_iff :
    identifyBy settings check request = .ok principal ↔
      Speaks settings check request principal := by
  constructor
  · intro identified
    by_cases silent : ∀ credentials, ¬ request.Tells "Authorization" credentials
    · rw [identifyBy_of_silent silent] at identified
      obtain ⟨trusted, text, roles, named, visible, acting, rfl⟩ :=
        ofHeaders_eq_ok_iff.mp identified
      exact .headers silent trusted named visible acting
    · obtain ⟨credentials, told⟩ := not_forall_not.mp silent
      rw [identifyBy_of_told told] at identified
      obtain ⟨token, verify, claims, rfl, configured, accepted, rfl⟩ :=
        ofToken_eq_ok_iff.mp identified
      exact .token told configured accepted
  · rintro (⟨told, configured, accepted⟩ | ⟨silent, trusted, named, visible, acting⟩)
    · rw [identifyBy_of_told told]
      exact ofToken_eq_ok_iff.mpr ⟨_, _, _, rfl, configured, accepted, rfl⟩
    · rw [identifyBy_of_silent silent]
      exact ofHeaders_eq_ok_iff.mpr ⟨trusted, _, _, named, visible, acting, rfl⟩

private theorem Speaks.roles_eq {entries : List RoleEntry}
    (speaks : Speaks settings check request principal)
    (silent : ∀ credentials, ¬ request.Tells "Authorization" credentials)
    (sent : request.Sends "X-Roles" (RoleEntry.join entries)) :
    principal.roles = entries.map RoleEntry.name := by
  cases speaks with
  | token told => exact absurd told (silent _)
  | headers _ _ _ _ acting =>
    have told : request.Tells "X-Roles" (RoleEntry.join entries) :=
      ⟨sent, fun c ↦ RoleEntry.readable_join entries⟩
    rw [Request.namesRoles_iff, Request.readable?_eq_some_iff.mpr told] at acting
    exact acting.symm.trans (listed_eq_iff.mpr (RoleEntry.listsRoles_join entries))

private theorem Speaks.superuser_iff (speaks : Speaks settings check request principal) :
    principal.superuser = true ↔ principal.user ∈ settings.admins := by
  cases speaks with
  | token => exact Std.ExtTreeSet.contains_iff_mem
  | headers => exact Std.ExtTreeSet.contains_iff_mem

end

/-- One source alone tells who makes a request. -/
structure OneSource (settings : Settings) (check : Option (String → Option Claims))
    (request : Request) : Prop where
  /-- The request is identified as the principal for whom it speaks. -/
  identified : ∀ principal, identifyBy settings check request = .ok principal ↔
    Speaks settings check request principal
  /-- If it speaks for nobody it is refused. -/
  refused : (∀ principal, ¬ Speaks settings check request principal) ↔
    identifyBy settings check request = .error .unauthorized
  /-- Credentials that can be read decide alone, whatever else is sent and whether or not headers
  are trusted. -/
  credentials : ∀ credentials other trusts, request.Tells "Authorization" credentials →
    other.Tells "Authorization" credentials →
      identifyBy { settings with trustsHeaders := trusts } check other =
        identifyBy settings check request
  /-- Without them nobody is identified unless headers are trusted, and tokens do not matter. -/
  headers : (∀ credentials, ¬ request.Tells "Authorization" credentials) →
    (settings.trustsHeaders = false → identifyBy settings check request = .error .unauthorized) ∧
      ∀ other, identifyBy settings other request = identifyBy settings check request
  /-- Roles that are listed with commas between them and spaces around them arrive as they are. -/
  roles : ∀ entries principal, (∀ credentials, ¬ request.Tells "Authorization" credentials) →
    request.Sends "X-Roles" (RoleEntry.join entries) →
      identifyBy settings check request = .ok principal →
        principal.roles = entries.map RoleEntry.name
  /-- Superusers are the users who are set up as such. -/
  superuser : ∀ principal, identifyBy settings check request = .ok principal →
    (principal.superuser = true ↔ principal.user ∈ settings.admins)

/-- One source alone tells who makes a request, whatever the settings are, however tokens are
checked and whatever else the request sends. The verifier that is set up matters in no other way
than by the tokens that it accepts at the time. -/
theorem identify_oneSource (settings : Settings) (verifier : Option Token.Verifier)
    (now : Instant) (request : Request) :
    identify settings verifier now request =
        identifyBy settings (verifier.map fun verifier ↦ verifier.verify now) request ∧
      ∀ check, OneSource settings check request := by
  refine ⟨identify_eq settings verifier now request, fun check ↦ ?_⟩
  constructor
  case identified => exact fun principal ↦ identifyBy_eq_ok_iff
  case refused =>
    simp only [← identifyBy_eq_ok_iff]
    cases outcome : identifyBy settings check request with
    | ok principal => simp
    | error refusal => simp [identifyBy_error outcome]
  case credentials =>
    intro credentials other trusts told toldOther
    rw [identifyBy_of_told told, identifyBy_of_told toldOther]
    rfl
  case headers =>
    intro silent
    rw [identifyBy_of_silent silent]
    refine ⟨fun distrusted ↦ ?_, fun other ↦ identifyBy_of_silent silent⟩
    rw [Settings.ofHeaders, distrusted]
    rfl
  case roles =>
    intro entries principal silent sent identified
    exact (identifyBy_eq_ok_iff.mp identified).roles_eq silent sent
  case superuser =>
    intro principal identified
    exact (identifyBy_eq_ok_iff.mp identified).superuser_iff

/-- Trusted headers do not make up for a token that nobody can check. -/
example : (identify Settings.default none Instant.origin ⟨"GET", "/tags",
    [("authorization", "Bearer token"), ("x-user-id", "ada")], []⟩).toOption = none := by
  decide +kernel

end Tagging.Http
