import Tagging.Proofs.Http.Transaction
import Tagging.Proofs.Service.Mediation

/-!
# Bodies that are not looked at

Five changes are made from the body of a request. What can be checked without the body is checked
first, and whoever does not pass is answered the same whatever the body is. Only then a body is told
to be wrong, and only a body that is right can name an object of which nothing is told either.
-/

namespace Tagging

/-! ### Checks -/

namespace State

/-- An object exists and a principal may exercise a permission on it. -/
def Permits (state : State) (principal : Principal) (permission : Permission) (object : Object) :
    Prop :=
  state.has object = true ∧ state.grants.allows principal permission (some object) = true

variable {state : State} {principal : Principal} {permission : Permission}

private theorem Permits.authorize {object : Object}
    (permits : state.Permits principal permission object) :
    state.authorize principal permission object = .ok () := by
  rw [State.authorize, if_pos permits.1]
  exact if_pos permits.2

private theorem authorize_of_not_permits {object : Object}
    (denied : ¬ state.Permits principal permission object) :
    state.authorize principal permission object = .error .notFound := by
  unfold authorize
  split
  · next present => exact if_neg fun allowed ↦ denied ⟨present, allowed⟩
  · rfl

private theorem checkPair_of_not_permits {document tag : Uuid}
    (denied : ¬ state.Permits principal permission (.tag tag)) :
    state.checkPair principal permission document tag = .error .notFound := by
  have mediates := state.mediates_checkPair principal permission document tag
  cases held : (Requirement.onEach permission [.document document, .tag tag]).isHeld state.grants
      principal with
  | false => exact mediates.denied held
  | true =>
    -- Whoever may attach the tag is not permitted to only if there is no such tag.
    have allowed := List.all_eq_true.mp held (.tag tag) (by simp)
    have missing : ¬ [Object.document document, .tag tag].all state.has := by
      intro every
      exact denied ⟨List.all_eq_true.mp every (.tag tag) (by simp), allowed⟩
    have settled := mediates.held held
    rwa [absent, if_neg missing] at settled

end State

namespace Http

private theorem Request.decodeBody_error {α : Type} {request : Request} {decode : Json.Decoder α}
    {error : Error} (failed : request.decodeBody decode = .error error) :
    ∃ invalid, error = .validation invalid := by
  unfold decodeBody at failed
  split at failed
  · exact ⟨_, (Except.error.inj failed).symm⟩
  · split at failed
    · exact ⟨_, (Except.error.inj failed).symm⟩
    · split at failed
      · cases failed
      · exact ⟨_, (Except.error.inj failed).symm⟩

namespace Call

variable {α : Type} {call : Call} {decode : Json.Decoder α}

/-! ### The steps before the body -/

/-- Goes on with the body once the caller may exercise a permission on all objects. -/
def withPermission (call : Call) (permission : Permission) (decode : Json.Decoder α)
    (next : α → Reply) : Reply :=
  call.withResult (call.state.authorizeGlobal call.caller permission) fun () ↦
    call.withBody decode next

/-- Goes on with the body once the caller may exercise a permission on the object that is named by a
part of the path. -/
def withPermissionOn (call : Call) (permission : Permission) (object : Uuid → Object)
    (part : String) (decode : Json.Decoder α) (next : Uuid → α → Reply) : Reply :=
  call.withId part fun id ↦
    call.withResult (call.state.authorize call.caller permission (object id)) fun () ↦
      call.withBody decode (next id)

private theorem withBody_of_ok {value : α} {next : α → Reply}
    (read : call.request.decodeBody decode = .ok value) :
    call.withBody decode next = next value := by
  rw [withBody, read]

private theorem withBody_of_unread {next : α → Reply}
    (unread : ¬ ∃ value, call.request.decodeBody decode = .ok value) :
    ∃ invalid, call.withBody decode next = call.fail (.validation invalid) := by
  unfold withBody
  cases read : call.request.decodeBody decode with
  | ok value => exact absurd ⟨value, read⟩ unread
  | error error =>
    obtain ⟨invalid, rfl⟩ := Request.decodeBody_error read
    exact ⟨invalid, rfl⟩

private theorem withPermission_of_denied {permission : Permission} {next : α → Reply}
    (denied : call.state.grants.allows call.caller permission none ≠ true) :
    call.withPermission permission decode next = call.fail .permissionDenied := by
  have refused : call.state.authorizeGlobal call.caller permission = .error .permissionDenied :=
    if_neg denied
  rw [withPermission, refused]
  rfl

private theorem withPermission_of_allowed {permission : Permission} {next : α → Reply}
    (allowed : call.state.grants.allows call.caller permission none = true) :
    call.withPermission permission decode next = call.withBody decode next := by
  have passed : call.state.authorizeGlobal call.caller permission = .ok () := if_pos allowed
  rw [withPermission, passed]
  rfl

private theorem withPermission_of_unread {permission : Permission} {next : α → Reply}
    (allowed : call.state.grants.allows call.caller permission none = true)
    (unread : ¬ ∃ value, call.request.decodeBody decode = .ok value) :
    ∃ invalid, call.withPermission permission decode next = call.fail (.validation invalid) := by
  rw [withPermission_of_allowed allowed]
  exact withBody_of_unread unread

section

variable {permission : Permission} {object : Uuid → Object} {part : String}
  {next : Uuid → α → Reply}

private theorem withPermissionOn_of_denied
    (denied : ¬ ∃ id, idOfPart? part = some id ∧
      call.state.Permits call.caller permission (object id)) :
    call.withPermissionOn permission object part decode next = call.fail .notFound := by
  unfold withPermissionOn withId
  cases named : idOfPart? part with
  | none => rfl
  | some id =>
    dsimp only
    rw [State.authorize_of_not_permits fun permits ↦ denied ⟨id, named, permits⟩]
    rfl

private theorem withPermissionOn_of_permits {id : Uuid} (named : idOfPart? part = some id)
    (permits : call.state.Permits call.caller permission (object id)) :
    call.withPermissionOn permission object part decode next = call.withBody decode (next id) := by
  rw [withPermissionOn, withId, named]
  dsimp only
  rw [permits.authorize]
  rfl

private theorem withPermissionOn_of_unread
    (permits : ∃ id, idOfPart? part = some id ∧
      call.state.Permits call.caller permission (object id))
    (unread : ¬ ∃ value, call.request.decodeBody decode = .ok value) :
    ∃ invalid, call.withPermissionOn permission object part decode next =
      call.fail (.validation invalid) := by
  obtain ⟨id, named, permits⟩ := permits
  rw [withPermissionOn_of_permits named permits]
  exact withBody_of_unread unread

end

end Call

/-! ### Changes from a body -/

/-- A change that is made from the body of a request, with the part of the path that names an
object, if there is one. -/
inductive Intake where
  | createTag
  | createDocument
  | replaceTag (part : String)
  | updateTag (part : String)
  | attachTag (part : String)

namespace Intake

/-- The address at which a change is asked for. -/
def route : Intake → Route
  | createTag => .tags
  | createDocument => .documents
  | replaceTag part | updateTag part => .tag part
  | attachTag part => .documentTags part

/-- The method by which a change is asked for. -/
def method : Intake → Method
  | createTag | createDocument | attachTag _ => .post
  | replaceTag _ => .put
  | updateTag _ => .patch

/-- The caller may make the change, as far as that can be told without the body. -/
def Admits (state : State) (caller : Principal) : Intake → Prop
  | createTag => state.grants.allows caller .tagCreate none = true
  | createDocument => state.grants.allows caller .documentCreate none = true
  | replaceTag part | updateTag part =>
    ∃ id, idOfPart? part = some id ∧ state.Permits caller .tagEdit (.tag id)
  | attachTag part =>
    ∃ id, idOfPart? part = some id ∧ state.Permits caller .tagAttach (.document id)

/-- The error for a caller who may not make the change. -/
def denial : Intake → Error
  | createTag | createDocument => .permissionDenied
  | replaceTag _ | updateTag _ | attachTag _ => .notFound

/-- The status for a caller who may not make the change. -/
def deniedStatus : Intake → Nat
  | createTag | createDocument => 403
  | replaceTag _ | updateTag _ | attachTag _ => 404

/-- What the change is made from can be read from the body. -/
def Reads (request : Request) : Intake → Prop
  | createTag => ∃ tag, request.decodeBody NewTag.decoder = .ok tag
  | createDocument => ∃ label, request.decodeBody newDocumentDecoder = .ok label
  | replaceTag _ | updateTag _ => ∃ patch, request.decodeBody TagPatch.decoder = .ok patch
  | attachTag _ => ∃ tag, request.decodeBody attachmentDecoder = .ok tag

variable {call : Call} {intake : Intake}

private theorem method_mem (intake : Intake) : intake.method ∈ intake.route.methods := by
  cases intake <;> simp [method, route, Route.methods]

private theorem method_name_ne_head (intake : Intake) : intake.method.name ≠ "HEAD" := by
  cases intake <;> simp [method, Method.name]

private theorem route_ne_health (intake : Intake) : intake.route ≠ .health := by
  cases intake <;> simp [route]

private theorem statusOf_denial (intake : Intake) :
    statusOf intake.denial = intake.deniedStatus := by
  cases intake <;> rfl

/-- Whoever may not make a change is refused, whatever the body is. -/
theorem handle_of_denied (denied : ¬ intake.Admits call.state call.caller) :
    handle call intake.route intake.method = call.fail intake.denial := by
  cases intake with
  | createTag => exact Call.withPermission_of_denied denied
  | createDocument => exact Call.withPermission_of_denied denied
  | replaceTag part => exact Call.withPermissionOn_of_denied denied
  | updateTag part => exact Call.withPermissionOn_of_denied denied
  | attachTag part => exact Call.withPermissionOn_of_denied denied

/-- Whoever may make a change is told if the body cannot be read. -/
theorem handle_of_unread (admits : intake.Admits call.state call.caller)
    (unread : ¬ intake.Reads call.request) :
    ∃ invalid, handle call intake.route intake.method = call.fail (.validation invalid) := by
  cases intake with
  | createTag => exact Call.withPermission_of_unread admits unread
  | createDocument => exact Call.withPermission_of_unread admits unread
  | replaceTag part => exact Call.withPermissionOn_of_unread admits unread
  | updateTag part => exact Call.withPermissionOn_of_unread admits unread
  | attachTag part => exact Call.withPermissionOn_of_unread admits unread

/-- A tag that the caller may not attach is answered for like one that is not there. -/
theorem handle_of_not_attachable {part : String} {tag : Uuid}
    (admits : (attachTag part).Admits call.state call.caller)
    (read : call.request.decodeBody attachmentDecoder = .ok tag)
    (denied : ¬ call.state.Permits call.caller .tagAttach (.tag tag)) :
    handle call (attachTag part).route (attachTag part).method = call.fail .notFound := by
  obtain ⟨id, named, permits⟩ := admits
  have refused : call.service.attachTag call.stamp call.caller id tag =
      call.service.refuse .notFound := by
    have hidden : call.service.state.checkPair call.caller .tagAttach id tag = .error .notFound :=
      State.checkPair_of_not_permits denied
    rw [Service.attachTag, hidden]
  refine (Call.withPermissionOn_of_permits named permits).trans ?_
  refine (Call.withBody_of_ok read).trans ?_
  rw [refused]
  rfl

end Intake

/-! ### Requests that differ in the body -/

namespace Request

/-- The header with a name tells something about the body. -/
def describesBody (name : String) : Bool :=
  "content-".toList.isPrefixOf (name.toList.map Char.toLower)

/-- Two requests are the same but for the body and what the headers tell about it. -/
structure SameButBody (request other : Request) : Prop where
  method : other.method = request.method
  target : other.target = request.target
  headers : other.headers.filter (fun header ↦ !describesBody header.1) =
    request.headers.filter (fun header ↦ !describesBody header.1)

variable {request other : Request}

private theorem find?_header_filter {name : String} (about : describesBody name = false)
    (headers : List (String × String)) :
    (headers.filter fun header ↦ !describesBody header.1).find? (fun header ↦
        header.1.toList.map Char.toLower = name.toList.map Char.toLower) =
      headers.find? fun header ↦
        header.1.toList.map Char.toLower = name.toList.map Char.toLower := by
  rw [List.find?_filter]
  congr 1
  funext header
  by_cases same : header.1.toList.map Char.toLower = name.toList.map Char.toLower
  · have apart : describesBody header.1 = false := by
      rw [describesBody, same, ← describesBody, about]
    simp [same, apart]
  · simp [same]

private theorem SameButBody.readable?_eq (same : request.SameButBody other) {name : String}
    (about : describesBody name = false) : other.readable? name = request.readable? name := by
  have found : other.header? name = request.header? name := by
    rw [header?, header?, ← find?_header_filter about, ← find?_header_filter about request.headers,
      same.headers]
  simp only [readable?, found]

private theorem SameButBody.path_eq (same : request.SameButBody other) :
    other.path = request.path := by
  simp only [path, location, same.target]

private theorem SameButBody.identify_eq (same : request.SameButBody other) (settings : Settings)
    (verifier : Option Token.Verifier) (now : Instant) :
    identify settings verifier now other = identify settings verifier now request := by
  have credentials : other.readable? "Authorization" = request.readable? "Authorization" :=
    same.readable?_eq (by decide)
  have user : other.readable? "X-User-Id" = request.readable? "X-User-Id" :=
    same.readable?_eq (by decide)
  have roles : other.readable? "X-Roles" = request.readable? "X-Roles" :=
    same.readable?_eq (by decide)
  simp only [identify, credentials, user, roles]

end Request

/-! ### The interface -/

namespace Api

variable {api : Api} {stamp : Stamp} {caller : Principal} {request : Request} {intake : Intake}

/-- A principal asks for a change that is made from the body of a request. -/
structure Asks (api : Api) (stamp : Stamp) (caller : Principal) (request : Request)
    (intake : Intake) : Prop where
  identified : identify api.settings api.verifier stamp.now request = .ok caller
  method : request.method = intake.method.name
  route : Route.ofPath? request.path = some intake.route

private theorem Asks.of_sameButBody {other : Request} (asks : api.Asks stamp caller request intake)
    (same : request.SameButBody other) : api.Asks stamp caller other intake where
  identified := by rw [same.identify_eq, asks.identified]
  method := by rw [same.method, asks.method]
  route := by rw [same.path_eq, asks.route]

/-- Whoever asks for a change from a body is answered by the handler. -/
theorem Asks.respond_eq (asks : api.Asks stamp caller request intake) {reply : Reply}
    (handled : handle ⟨api, stamp, caller, request⟩ intake.route intake.method = reply) :
    api.respond stamp request = { reply with
      response := { reply.response with
        sharedWithAll := api.sharedWithAll
        keepsBody := false } } := by
  have headed : decide (request.method = "HEAD") = false := by
    rw [asks.method]
    exact decide_eq_false intake.method_name_ne_head
  have served : api.serve stamp request intake.route intake.method = reply := by
    rw [serve, if_neg intake.route_ne_health, asks.identified]
    exact handled
  rw [respond, api.dispatch_served stamp asks.route (.inl asks.method) intake.method_mem, served]
  simp only [headed]

private theorem Asks.respond_of_fail (asks : api.Asks stamp caller request intake) {error : Error}
    (failed : handle ⟨api, stamp, caller, request⟩ intake.route intake.method =
      Call.fail ⟨api, stamp, caller, request⟩ error) :
    (api.respond stamp request).response.status = statusOf error ∧
      (api.respond stamp request).service = api.service := by
  rw [asks.respond_eq failed]
  exact ⟨rfl, rfl⟩

/-- The body of a request matters only for whom it may matter. -/
structure GuardsBody (api : Api) (stamp : Stamp) (caller : Principal) (request : Request)
    (intake : Intake) : Prop where
  /-- Whoever may not make the change is refused: openly if an object would be created, and
  otherwise as if there were no object. Nothing changes, and with any other body the reply is the
  same. -/
  denied : ¬ intake.Admits api.service.state caller →
    (api.respond stamp request).response.status = intake.deniedStatus ∧
      (api.respond stamp request).service = api.service ∧
      ∀ other, request.SameButBody other → api.respond stamp other = api.respond stamp request
  /-- Whoever may make it is told if the body cannot be read, and nothing changes. -/
  unread : intake.Admits api.service.state caller → ¬ intake.Reads request →
    (api.respond stamp request).response.status = 400 ∧
      (api.respond stamp request).service = api.service
  /-- Where a body names the tag to attach, a tag that the caller may not attach is answered for
  like one that is not there, and nothing changes. -/
  unattachable : ∀ part tag, intake = .attachTag part →
    intake.Admits api.service.state caller → request.decodeBody attachmentDecoder = .ok tag →
      ¬ api.service.state.Permits caller .tagAttach (.tag tag) →
        (api.respond stamp request).response.status = 404 ∧
          (api.respond stamp request).service = api.service

/-- The body of a request is looked at only for whoever may make the change that is asked for. -/
theorem respond_guardsBody (asks : api.Asks stamp caller request intake) :
    api.GuardsBody stamp caller request intake where
  denied lacks := by
    have told := asks.respond_of_fail (Intake.handle_of_denied lacks)
    refine ⟨told.1.trans intake.statusOf_denial, told.2, fun other same ↦ ?_⟩
    have again := asks.of_sameButBody same
    rw [asks.respond_eq (Intake.handle_of_denied lacks),
      again.respond_eq (Intake.handle_of_denied lacks)]
    rfl
  unread admits unread := by
    let call : Call := ⟨api, stamp, caller, request⟩
    obtain ⟨invalid, failed⟩ : ∃ invalid, handle call intake.route intake.method =
        call.fail (.validation invalid) :=
      Intake.handle_of_unread admits unread
    exact asks.respond_of_fail failed
  unattachable part tag attaches admits read lacks := by
    subst attaches
    exact asks.respond_of_fail (Intake.handle_of_not_attachable admits read lacks)

/-- Whoever may not change a tag is told that there is none, with a body that cannot be read as with
one that can. -/
theorem respond_guardsBody_patch :
    let stamp : Stamp := { ids := Uuid.ofNat, now := Instant.origin }
    let root : Principal := ⟨"root", [], true⟩
    let service := (Operation.createTag "plans" none).run .inMemory stamp root |>.service
    let api : Api := ⟨service, none, Settings.default, false⟩
    let request : Request := ⟨"PATCH", "/tags/00000000-0000-0000-0000-000000000000",
      [("X-User-Id", "eve")], []⟩
    let other : Request := ⟨"PATCH", "/tags/00000000-0000-0000-0000-000000000000",
      [("Content-Type", "application/json"), ("X-User-Id", "eve")],
      Text.Utf8.encode "\x7b\"label\": \"mine\"\x7d"⟩
    service.state.has (.tag (Uuid.ofNat 0)) = true ∧
      (request.decodeBody TagPatch.decoder).toOption = none ∧
      (other.decodeBody TagPatch.decoder).toOption = some ⟨some "mine", none⟩ ∧
      (api.respond stamp request).response.status = 404 ∧
      api.respond stamp other = api.respond stamp request := by
  intro stamp root service api request other
  let part := "00000000-0000-0000-0000-000000000000"
  let eve : Principal := ⟨"eve", [], false⟩
  have named : (identify api.settings api.verifier stamp.now request).toOption = some eve := by
    decide +kernel
  have identified : identify api.settings api.verifier stamp.now request = .ok eve := by
    cases outcome : identify api.settings api.verifier stamp.now request with
    | error refusal =>
      rw [outcome] at named
      cases named
    | ok caller =>
      rw [outcome] at named
      exact congrArg Except.ok (Option.some.inj named)
  have asks : api.Asks stamp eve request (.updateTag part) :=
    ⟨identified, rfl, by decide +kernel⟩
  have lacks : ¬ (Intake.updateTag part).Admits service.state eve := by
    rintro ⟨id, given, permits⟩
    have known : idOfPart? part = some (Uuid.ofNat 0) := by decide +kernel
    obtain rfl := Option.some.inj (known.symm.trans given)
    have none : service.state.grants.allows eve .tagEdit (some (.tag (Uuid.ofNat 0))) = false := rfl
    rw [permits.2] at none
    cases none
  have same : request.SameButBody other := ⟨rfl, rfl, by decide +kernel⟩
  obtain ⟨told, _, alike⟩ := (Api.respond_guardsBody asks).denied lacks
  exact ⟨by decide +kernel, by decide +kernel, by decide +kernel, told, alike other same⟩

end Api

end Http

end Tagging
