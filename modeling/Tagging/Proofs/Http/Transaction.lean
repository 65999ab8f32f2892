import Tagging.Http.Api
import Tagging.Proofs.Http.Identity
import Tagging.Proofs.Service.Transaction

/-!
# Requests as transactions

A request either changes nothing or makes one change, in the name of the principal who asks, and is
answered accordingly. What the steps of a handler have in common is said once: whatever holds of
every refusal holds of a reply if it holds of how the handler goes on.
-/

namespace Tagging.Http

private theorem le_statusOf (error : Error) : 400 ≤ statusOf error := by
  cases error <;> simp [statusOf]

private theorem Refusal.le_status (refusal : Refusal) : 400 ≤ refusal.response.status := by
  cases refusal with
  | unauthorized => exact Nat.le_add_right 400 1
  | failed error => exact le_statusOf error
  | badAddress part => exact Nat.le_refl 400

private theorem identify_error {settings : Settings} {verifier : Option Token.Verifier}
    {now : Instant} {request : Request} {refusal : Refusal}
    (unknown : identify settings verifier now request = .error refusal) :
    refusal = .unauthorized := by
  rw [identify_eq] at unknown
  exact identifyBy_error unknown

/-- Between two services one change has been made in the name of a principal: it is the last event
of the log, and the last notice of the feed. -/
def OneChange (principal : Principal) (before after : Service) : Prop :=
  ∃ event watchers, event.actor = principal.user ∧
    after.state.events.toList = before.state.events.toList ++ [event] ∧
    after.feed = before.feed.send ⟨event, watchers⟩

namespace Call

/-- The reply leaves the service as it was. -/
def Reads (call : Call) (reply : Reply) : Prop :=
  reply.service = call.service

/-- The reply either refuses, and leaves the service as it was, or tells that a change has been
made. -/
inductive Transacts (call : Call) (reply : Reply) : Prop where
  | refused (status : 400 ≤ reply.response.status) (kept : reply.service = call.service)
  | done (status : reply.response.status < 300)
      (changed : OneChange call.caller call.service reply.service)

section

variable {call : Call} {α : Type}

/-! ### The steps of a handler -/

private theorem refuse_reads (call : Call) (refusal : Refusal) :
    call.Reads (call.refuse refusal) := rfl

/-- A refusal is told as one. -/
theorem refuse_transacts (call : Call) (refusal : Refusal) :
    call.Transacts (call.refuse refusal) :=
  .refused refusal.le_status rfl

private theorem answer_reads (toJson : α → Json) (result : Except Error α) :
    call.Reads (call.answer toJson result) := by
  cases result <;> rfl

/-- An operation that is answered is a transaction. -/
theorem change_transacts (operation : Operation) {response : operation.Value → Response}
    {status : Nat} (told : ∀ value, (response value).status = status) (succeeds : status < 300) :
    call.Transacts (change response (operation.run call.service call.stamp call.caller)) := by
  obtain ⟨error, drawn, failed⟩ | ⟨value, asked, changed, _, does, done⟩ :=
    operation.run_cases call.service call.stamp call.caller
  · rw [failed]
    exact .refused (Refusal.failed error).le_status rfl
  · rw [done]
    refine .done ?_ ⟨_, _, rfl, does.toList_committed call.caller, rfl⟩
    rwa [← told value] at succeeds

section

variable {holds : Reply → Prop} (refused : ∀ refusal, holds (call.refuse refusal))

include refused

/-- What holds of refusals and of how it goes on with a page holds of the whole. -/
theorem withPage_of {next : PageRequest → Reply} (ended : ∀ page, holds (next page)) :
    holds (call.withPage next) := by
  unfold withPage
  cases PageRequest.ofQuery? call.request.query with
  | none => exact refused _
  | some page => exact ended page

/-- What holds of refusals and of how it goes on with an identifier holds of the whole. -/
theorem withId_of {part : String} {next : Uuid → Reply} (ended : ∀ id, holds (next id)) :
    holds (call.withId part next) := by
  unfold withId
  cases idOfPart? part with
  | none => exact refused _
  | some id => exact ended id

/-- What holds of refusals and of how it goes on with a body holds of the whole. -/
theorem withBody_of {decode : Json.Decoder α} {next : α → Reply}
    (ended : ∀ value, holds (next value)) : holds (call.withBody decode next) := by
  unfold withBody
  cases call.request.decodeBody decode with
  | error error => exact refused _
  | ok value => exact ended value

/-- What holds of refusals and of how it goes on with a result holds of the whole. -/
theorem withResult_of {result : Except Error α} {next : α → Reply}
    (ended : ∀ value, holds (next value)) : holds (call.withResult result next) := by
  unfold withResult
  cases result with
  | error error => exact refused _
  | ok value => exact ended value

/-- What holds of refusals and of how it goes on with an object holds of the whole. -/
theorem withObject_of {kind id : String} {next : Object → Reply}
    (ended : ∀ object, holds (next object)) : holds (call.withObject kind id next) := by
  unfold withObject
  split
  · exact withResult_of refused fun kind ↦ ended ⟨kind, _⟩
  · exact refused _

end

end

/-! ### The handlers -/

section

variable (call : Call)

/-- A route is asked with `GET` without any change. -/
theorem handle_reads (route : Route) : call.Reads (handle call route .get) := by
  have refused := call.refuse_reads
  cases route with
  | tags => exact withPage_of refused fun page ↦ answer_reads ..
  | tag id => exact withId_of refused fun id ↦ answer_reads ..
  | tagDocuments id =>
    exact withId_of refused fun id ↦ withPage_of refused fun page ↦
      withResult_of refused fun documents ↦ answer_reads ..
  | documents => exact withPage_of refused fun page ↦ answer_reads ..
  | document id => exact withId_of refused fun id ↦ answer_reads ..
  | documentTags id =>
    exact withId_of refused fun id ↦ withPage_of refused fun page ↦
      withResult_of refused fun tags ↦ answer_reads ..
  | documentTag id tagId =>
    exact withId_of refused fun id ↦ withId_of refused fun tagId ↦ answer_reads ..
  | grants =>
    change call.Reads call.listGrants
    unfold listGrants
    split
    · exact refused _
    · exact withResult_of refused fun kind ↦ withResult_of refused fun grants ↦ answer_reads ..
  | eventStream => rfl
  | events kind id =>
    exact withPage_of refused fun page ↦ withObject_of refused fun object ↦
      withResult_of refused fun events ↦ answer_reads ..
  | latestEvent kind id => exact withObject_of refused fun object ↦ answer_reads ..
  | statistics => exact answer_reads ..
  | statistic slug =>
    change call.Reads (call.getStatistic slug)
    unfold getStatistic
    split
    · exact refused _
    · exact answer_reads ..
  | health => rfl

private theorem createTag_transacts : call.Transacts call.createTag := by
  have refused := call.refuse_transacts
  refine withResult_of refused fun _ ↦ withBody_of refused fun tag ↦ ?_
  exact change_transacts (.createTag tag.label tag.color) (fun _ ↦ rfl) (by decide)

private theorem replaceTag_transacts (id : String) : call.Transacts (call.replaceTag id) := by
  have refused := call.refuse_transacts
  refine withId_of refused fun id ↦ withResult_of refused fun _ ↦ withBody_of refused fun patch ↦ ?_
  exact change_transacts (.replaceTag id patch.label patch.color) (fun _ ↦ rfl) (by decide)

private theorem updateTag_transacts (id : String) : call.Transacts (call.updateTag id) := by
  have refused := call.refuse_transacts
  refine withId_of refused fun id ↦ withResult_of refused fun _ ↦ withBody_of refused fun patch ↦ ?_
  exact change_transacts (.updateTag id patch) (fun _ ↦ rfl) (by decide)

private theorem deleteTag_transacts (id : String) : call.Transacts (call.deleteTag id) :=
  withId_of call.refuse_transacts fun id ↦
    change_transacts (.deleteTag id) (fun _ ↦ rfl) (by decide)

private theorem createDocument_transacts : call.Transacts call.createDocument := by
  have refused := call.refuse_transacts
  refine withResult_of refused fun _ ↦ withBody_of refused fun label ↦ ?_
  exact change_transacts (.createDocument label) (fun _ ↦ rfl) (by decide)

private theorem deleteDocument_transacts (id : String) : call.Transacts (call.deleteDocument id) :=
  withId_of call.refuse_transacts fun id ↦
    change_transacts (.deleteDocument id) (fun _ ↦ rfl) (by decide)

private theorem attachTag_transacts (id : String) : call.Transacts (call.attachTag id) := by
  have refused := call.refuse_transacts
  refine withId_of refused fun id ↦ withResult_of refused fun _ ↦ withBody_of refused fun tag ↦ ?_
  exact change_transacts (.attachTag id tag) (fun _ ↦ rfl) (by decide)

private theorem removeTag_transacts (id tagId : String) :
    call.Transacts (call.removeTag id tagId) := by
  have refused := call.refuse_transacts
  refine withId_of refused fun id ↦ withId_of refused fun tagId ↦ ?_
  exact change_transacts (.removeTag id tagId) (fun _ ↦ rfl) (by decide)

private theorem addGrant_transacts : call.Transacts call.addGrant :=
  withBody_of call.refuse_transacts fun given ↦
    change_transacts (.grant given) (fun _ ↦ rfl) (by decide)

private theorem revokeGrant_transacts : call.Transacts call.revokeGrant :=
  withBody_of call.refuse_transacts fun given ↦
    change_transacts (.revoke given) (fun _ ↦ rfl) (by decide)

/-- What a route knows but `GET` is a transaction. -/
theorem handle_transacts {route : Route} {method : Method} (known : method ∈ route.methods)
    (other : method ≠ .get) : call.Transacts (handle call route method) := by
  cases route with
  | tags =>
    cases method with
    | post => exact call.createTag_transacts
    | _ => simp [Route.methods] at known other
  | tag id =>
    cases method with
    | put => exact call.replaceTag_transacts id
    | patch => exact call.updateTag_transacts id
    | delete => exact call.deleteTag_transacts id
    | _ => simp [Route.methods] at known other
  | documents =>
    cases method with
    | post => exact call.createDocument_transacts
    | _ => simp [Route.methods] at known other
  | document id =>
    cases method with
    | delete => exact call.deleteDocument_transacts id
    | _ => simp [Route.methods] at known other
  | documentTags id =>
    cases method with
    | post => exact call.attachTag_transacts id
    | _ => simp [Route.methods] at known other
  | documentTag id tagId =>
    cases method with
    | delete => exact call.removeTag_transacts id tagId
    | _ => simp [Route.methods] at known other
  | grants =>
    cases method with
    | post => exact call.addGrant_transacts
    | delete => exact call.revokeGrant_transacts
    | _ => simp [Route.methods] at known other
  | _ => exact absurd (List.mem_singleton.mp known) other

end

end Call

/-! ### The interface -/

/-- The request is made with a method. `HEAD` asks for what `GET` does. -/
def Request.Uses (request : Request) (method : Method) : Prop :=
  request.method = method.name ∨ request.method = "HEAD" ∧ method = .get

namespace Api

variable {request : Request} {route : Route} {method : Method}

/-- A request to a route that knows its method is served. -/
theorem dispatch_served (api : Api) (stamp : Stamp)
    (found : Route.ofPath? request.path = some route) (uses : request.Uses method)
    (known : method ∈ route.methods) :
    api.dispatch stamp request = api.serve stamp request route method := by
  have asked : (if request.method = "HEAD" then some .get else Method.ofName? request.method) =
      some method := by
    obtain named | ⟨named, rfl⟩ := uses
    · rw [named]
      cases method <;> decide
    · rw [if_pos named]
  have listed : route.methods.contains method := List.contains_iff_mem.mpr known
  simp only [dispatch, found, asked, Option.filter_some, listed, if_true]

/-- What is replied to a request, made with a method, is a transaction of the principal who asks. -/
structure Transaction (api : Api) (stamp : Stamp) (request : Request) (method : Method)
    (reply : Reply) : Prop where
  /-- Who gives no valid identity is told so, and nothing else happens. -/
  unidentified : ∀ refusal,
    identify api.settings api.verifier stamp.now request = .error refusal →
      reply.response.status = 401 ∧ reply.service = api.service
  /-- What fails changes nothing. -/
  failed : 400 ≤ reply.response.status → reply.service = api.service
  /-- What only asks changes nothing. -/
  asked : method = .get → reply.service = api.service
  /-- What succeeds otherwise makes one change, in the name of the principal. -/
  done : method ≠ .get → 200 ≤ reply.response.status → reply.response.status < 300 →
    ∃ caller, identify api.settings api.verifier stamp.now request = .ok caller ∧
      OneChange caller api.service reply.service

/-- A route serves each of its methods with a transaction, but for the check of health. -/
theorem serve_transaction (api : Api) (stamp : Stamp) (request : Request)
    (known : method ∈ route.methods) (guarded : route ≠ .health) :
    api.Transaction stamp request method (api.serve stamp request route method) := by
  rw [serve, if_neg guarded]
  cases identified : identify api.settings api.verifier stamp.now request with
  | error refusal =>
    obtain rfl := identify_error identified
    change api.Transaction stamp request method (api.reply Refusal.unauthorized.response)
    refine ⟨fun _ _ ↦ ⟨rfl, rfl⟩, fun _ ↦ rfl, fun _ ↦ rfl, fun _ _ succeeds ↦ ?_⟩
    have fails : 400 ≤ (api.reply Refusal.unauthorized.response).response.status :=
      Refusal.le_status .unauthorized
    omega
  | ok caller =>
    let call : Call := ⟨api, stamp, caller, request⟩
    change api.Transaction stamp request method (handle call route method)
    have known_caller : ∀ refusal,
        identify api.settings api.verifier stamp.now request ≠ .error refusal := by
      simp [identified]
    by_cases reads : method = .get
    · subst reads
      have kept : call.Reads (handle call route .get) := call.handle_reads route
      exact ⟨fun refusal unknown ↦ absurd unknown (known_caller refusal), fun _ ↦ kept,
        fun _ ↦ kept, fun other ↦ absurd rfl other⟩
    · refine ⟨fun refusal unknown ↦ absurd unknown (known_caller refusal), fun fails ↦ ?_,
        fun asks ↦ absurd asks reads, fun _ _ succeeds ↦ ⟨caller, identified, ?_⟩⟩
      · cases call.handle_transacts known reads with
        | refused status kept => exact kept
        | done status changed => omega
      · cases call.handle_transacts known reads with
        | refused status kept => omega
        | done status changed => exact changed

/-- A request to any route but the check of health, made with a method that the route knows, is
answered with a transaction. -/
theorem respond_transaction (api : Api) (stamp : Stamp)
    (found : Route.ofPath? request.path = some route) (uses : request.Uses method)
    (known : method ∈ route.methods) (guarded : route ≠ .health) :
    api.Transaction stamp request method (api.respond stamp request) := by
  have served := api.serve_transaction stamp request known guarded
  rw [← api.dispatch_served stamp found uses known] at served
  exact ⟨served.unidentified, served.failed, served.asked, served.done⟩

/-- An administrator deletes a tag: the request succeeds and makes one change in her name. -/
theorem respond_transaction_deletion :
    let stamp : Stamp := { ids := Uuid.ofNat, now := Instant.origin }
    let root : Principal := ⟨"root", [], true⟩
    let service := (Operation.createTag "plans" none).run .inMemory stamp root |>.service
    let api : Api := ⟨service, none, ⟨true, Std.ExtTreeSet.ofList ["root"], 40⟩, false⟩
    let request : Request := ⟨"DELETE", "/tags/00000000-0000-0000-0000-000000000000",
      [("X-User-Id", "root")], []⟩
    (api.respond stamp request).response.status = 204 ∧
      ∃ caller, identify api.settings api.verifier stamp.now request = .ok caller ∧
        OneChange caller service (api.respond stamp request).service := by
  intro stamp root service api request
  have succeeds : (api.respond stamp request).response.status = 204 := by decide +kernel
  have found : Route.ofPath? request.path =
      some (.tag "00000000-0000-0000-0000-000000000000") := by
    decide +kernel
  have uses : request.Uses .delete := .inl rfl
  have transaction := api.respond_transaction stamp found uses (by decide) (by decide)
  refine ⟨succeeds, transaction.done (by decide) ?_ ?_⟩
  · rw [succeeds]
    decide
  · rw [succeeds]
    decide

end Api

end Tagging.Http
