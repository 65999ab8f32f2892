import Tagging.Http.Encoding
import Tagging.Http.Identity
import Tagging.Http.Page
import Tagging.Http.Route
import Tagging.Service.Grants
import Tagging.Service.Tags

/-!
# The web interface

Each request is identified, routed, and answered from the service. Whoever may not make a change
learns nothing of what is wrong with the body of the request: it is only looked at after the check.
-/

namespace Tagging.Http

/-- The service with what the interface needs to know. -/
structure Api where
  service : Service
  verifier : Option Token.Verifier
  settings : Settings
  /-- Scripts of any origin may use the interface. -/
  sharedWithAll : Bool

/-- A response, the service after the request, and how many identifiers were drawn. -/
structure Reply where
  response : Response
  service : Service
  drawn : Nat

/-- What a handler goes by: the interface, what a change draws, the principal and the request. -/
structure Call where
  api : Api
  stamp : Stamp
  caller : Principal
  request : Request

namespace Call

/-- The service that is called. -/
def service (call : Call) : Service :=
  call.api.service

/-- The state of the service that is called. -/
def state (call : Call) : State :=
  call.api.service.state

/-- A reply that leaves the service as it is. -/
def reply (call : Call) (response : Response) : Reply :=
  ⟨response, call.service, 0⟩

/-- A refusal that leaves the service as it is. -/
def refuse (call : Call) (refusal : Refusal) : Reply :=
  call.reply refusal.response

/-- A reply with an error, which leaves the service as it is. -/
def fail (call : Call) (error : Error) : Reply :=
  call.refuse (.failed error)

/-- A reply with a value. -/
def answer {α : Type} (call : Call) (toJson : α → Json) : Except Error α → Reply
  | .ok value => call.reply (.of 200 (.json (toJson value)))
  | .error error => call.fail error

/-- A reply with the page of a list that is asked for. -/
def answerPage {α : Type} (call : Call) (toJson : α → Json) (page : PageRequest)
    (items : List α) : Reply :=
  call.answer (Page.toJson toJson) (Page.of items page call.api.settings.defaultPageSize)

/-- A reply with the outcome of a change. -/
def change {α : Type} (response : α → Response) (outcome : Outcome α) : Reply :=
  match outcome.result with
  | .ok value => ⟨response value, outcome.service, outcome.drawn⟩
  | .error error => ⟨(Refusal.failed error).response, outcome.service, outcome.drawn⟩

/-- The response with a value of JSON. -/
def valueResponse {α : Type} (status : Nat) (toJson : α → Json) (value : α) : Response :=
  .of status (.json (toJson value))

/-- The response to a change after which there is nothing to tell. -/
def doneResponse {α : Type} (_ : α) : Response :=
  .of 204 .empty

/-- Goes on with the page that the query asks for. -/
def withPage (call : Call) (next : PageRequest → Reply) : Reply :=
  match PageRequest.ofQuery? call.request.query with
  | some page => next page
  | none => call.fail (.validation .badQuery)

/-- Goes on with the identifier that a part of the path gives. -/
def withId (call : Call) (part : String) (next : Uuid → Reply) : Reply :=
  match idOfPart? part with
  | some id => next id
  | none => call.fail .notFound

/-- Goes on with the value that the body gives. -/
def withBody {α : Type} (call : Call) (decode : Json.Decoder α) (next : α → Reply) : Reply :=
  match call.request.decodeBody decode with
  | .ok value => next value
  | .error error => call.fail error

/-- Goes on with what was found. -/
def withResult {α : Type} (call : Call) (result : Except Error α) (next : α → Reply) : Reply :=
  match result with
  | .ok value => next value
  | .error error => call.fail error

/-- Goes on with the object that a word and an identifier in the path give. -/
def withObject (call : Call) (kind id : String) (next : Object → Reply) : Reply :=
  match unescapePart? kind, idOfPart? id with
  | some kind, some id => call.withResult (Kind.parse kind) fun kind ↦ next ⟨kind, id⟩
  | _, _ => call.fail .notFound

/-! ### Tags -/

/-- The tags that the caller may view. -/
def listTags (call : Call) : Reply :=
  call.withPage fun page ↦ call.answerPage tagToJson page (call.state.listTags call.caller)

/-- Creates a tag. -/
def createTag (call : Call) : Reply :=
  call.withResult (call.state.authorizeGlobal call.caller .tagCreate) fun () ↦
    call.withBody NewTag.decoder fun tag ↦
      change (valueResponse 201 tagToJson)
        (call.service.createTag call.stamp call.caller tag.label tag.color)

/-- A tag. -/
def getTag (call : Call) (id : String) : Reply :=
  call.withId id fun id ↦ call.answer tagToJson (call.state.getTag call.caller id)

/-- Gives a tag a new label and a new colour. -/
def replaceTag (call : Call) (id : String) : Reply :=
  call.withId id fun id ↦
    call.withResult (call.state.authorize call.caller .tagEdit (.tag id)) fun () ↦
      call.withBody TagPatch.decoder fun patch ↦
        change (valueResponse 200 tagToJson)
          (call.service.replaceTag call.stamp call.caller id patch.label patch.color)

/-- Changes the given fields of a tag. -/
def updateTag (call : Call) (id : String) : Reply :=
  call.withId id fun id ↦
    call.withResult (call.state.authorize call.caller .tagEdit (.tag id)) fun () ↦
      call.withBody TagPatch.decoder fun patch ↦
        change (valueResponse 200 tagToJson)
          (call.service.updateTag call.stamp call.caller id patch)

/-- Deletes a tag. -/
def deleteTag (call : Call) (id : String) : Reply :=
  call.withId id fun id ↦ change doneResponse (call.service.deleteTag call.stamp call.caller id)

/-- The documents of a tag that the caller may view. -/
def tagDocuments (call : Call) (id : String) : Reply :=
  call.withId id fun id ↦ call.withPage fun page ↦
    call.withResult (call.state.tagDocuments call.caller id) fun documents ↦
      call.answerPage documentToJson page documents

/-! ### Documents -/

/-- The documents that the caller may view. -/
def listDocuments (call : Call) : Reply :=
  call.withPage fun page ↦
    call.answerPage documentToJson page (call.state.listDocuments call.caller)

/-- Creates a document. -/
def createDocument (call : Call) : Reply :=
  call.withResult (call.state.authorizeGlobal call.caller .documentCreate) fun () ↦
    call.withBody newDocumentDecoder fun label ↦
      change (valueResponse 201 documentToJson)
        (call.service.createDocument call.stamp call.caller label)

/-- A document. -/
def getDocument (call : Call) (id : String) : Reply :=
  call.withId id fun id ↦ call.answer documentToJson (call.state.getDocument call.caller id)

/-- Deletes a document. -/
def deleteDocument (call : Call) (id : String) : Reply :=
  call.withId id fun id ↦
    change doneResponse (call.service.deleteDocument call.stamp call.caller id)

/-- The tags of a document that the caller may view. -/
def documentTags (call : Call) (id : String) : Reply :=
  call.withId id fun id ↦ call.withPage fun page ↦
    call.withResult (call.state.documentTags call.caller id) fun tags ↦
      call.answerPage tagToJson page tags

/-- Attaches a tag to a document. The tag can only be checked once the body names it. -/
def attachTag (call : Call) (id : String) : Reply :=
  call.withId id fun id ↦
    call.withResult (call.state.authorize call.caller .tagAttach (.document id)) fun () ↦
      call.withBody attachmentDecoder fun tag ↦
        change (valueResponse 201 tagToJson)
          (call.service.attachTag call.stamp call.caller id tag)

/-- A tag of a document. -/
def documentTag (call : Call) (id tagId : String) : Reply :=
  call.withId id fun id ↦ call.withId tagId fun tagId ↦
    call.answer tagToJson (call.state.documentTag call.caller id tagId)

/-- Detaches a tag from a document. -/
def removeTag (call : Call) (id tagId : String) : Reply :=
  call.withId id fun id ↦ call.withId tagId fun tagId ↦
    change doneResponse (call.service.removeTag call.stamp call.caller id tagId)

/-! ### Grants -/

/-- The grants on an object. -/
def listGrants (call : Call) : Reply :=
  match GrantQuery.ofQuery? call.request.query with
  | none => call.fail (.validation .badQuery)
  | some query =>
    call.withResult (Kind.parse query.kind) fun kind ↦
      call.withResult (call.state.grantsFor call.caller ⟨kind, query.id⟩) fun grants ↦
        call.answerPage Grant.toJson query.page grants

/-- Gives a grant on an object. -/
def addGrant (call : Call) : Reply :=
  call.withBody Grant.decoder fun grant ↦
    change (valueResponse 201 Grant.toJson) (call.service.grant call.stamp call.caller grant)

/-- Takes a grant on an object back. -/
def revokeGrant (call : Call) : Reply :=
  call.withBody Grant.decoder fun grant ↦
    change doneResponse (call.service.revoke call.stamp call.caller grant)

/-! ### Events and statistics -/

/-- The events of an object, the newest first. -/
def listEvents (call : Call) (kind id : String) : Reply :=
  call.withPage fun page ↦ call.withObject kind id fun object ↦
    call.withResult (call.state.eventsFor call.caller object) fun events ↦
      call.answerPage Event.toJson page events

/-- The newest event of an object. -/
def latestEvent (call : Call) (kind id : String) : Reply :=
  call.withObject kind id fun object ↦
    call.answer Event.toJson (call.state.latestEvent call.caller object)

/-- The events of objects that the caller may watch, as they happen. -/
def streamEvents (call : Call) : Reply :=
  call.reply (.of 200 (.stream call.caller))

/-- The statistics on offer. -/
def listStatistics (call : Call) : Reply :=
  call.answer (fun offered ↦ .list (offered.map statisticToJson))
    (call.state.statistics call.caller)

/-- A statistic. -/
def getStatistic (call : Call) (slug : String) : Reply :=
  match unescapePart? slug with
  | none => call.refuse (.badAddress "slug")
  | some slug =>
    call.answer Report.toJson (call.state.statistic call.stamp.computed call.caller slug)

end Call

/-- The response to the check of health. -/
def healthResponse : Response :=
  .of 200 (.text "OK")

/-- The reply to a call of a method that the route knows. -/
def handle (call : Call) : Route → Method → Reply
  | .tags, .post => call.createTag
  | .tags, _ => call.listTags
  | .tag id, .put => call.replaceTag id
  | .tag id, .patch => call.updateTag id
  | .tag id, .delete => call.deleteTag id
  | .tag id, _ => call.getTag id
  | .tagDocuments id, _ => call.tagDocuments id
  | .documents, .post => call.createDocument
  | .documents, _ => call.listDocuments
  | .document id, .delete => call.deleteDocument id
  | .document id, _ => call.getDocument id
  | .documentTags id, .post => call.attachTag id
  | .documentTags id, _ => call.documentTags id
  | .documentTag id tagId, .delete => call.removeTag id tagId
  | .documentTag id tagId, _ => call.documentTag id tagId
  | .grants, .post => call.addGrant
  | .grants, .delete => call.revokeGrant
  | .grants, _ => call.listGrants
  | .eventStream, _ => call.streamEvents
  | .events kind id, _ => call.listEvents kind id
  | .latestEvent kind id, _ => call.latestEvent kind id
  | .statistics, _ => call.listStatistics
  | .statistic slug, _ => call.getStatistic slug
  | .health, _ => call.reply healthResponse

namespace Api

/-- A reply that leaves the service as it is. -/
def reply (api : Api) (response : Response) : Reply :=
  ⟨response, api.service, 0⟩

/-- The reply of a route to a method that it knows. Only the check of health is open to all. -/
def serve (api : Api) (stamp : Stamp) (request : Request) (route : Route) (method : Method) :
    Reply :=
  if route = .health then api.reply healthResponse
  else
    match identify api.settings api.verifier stamp.now request with
    | .error refusal => api.reply refusal.response
    | .ok caller => handle ⟨api, stamp, caller, request⟩ route method

/-- The reply of a route to a method that it does not know. With sharing, any address answers a
script that asks what it may do. -/
def decline (api : Api) (request : Request) (route : Option Route) : Reply :=
  let allow := route.map Route.allow
  let status :=
    if api.sharedWithAll && request.method = "OPTIONS" then 200
    else if route.isSome then 405 else 404
  api.reply { Response.of status .empty with allow }

/-- The reply to a request, but for what is added to every response. -/
def dispatch (api : Api) (stamp : Stamp) (request : Request) : Reply :=
  match Route.ofPath? request.path with
  | none => api.decline request none
  | some route =>
    let method := if request.method = "HEAD" then some .get else Method.ofName? request.method
    match method.filter (route.methods.contains ·) with
    | none => api.decline request (some route)
    | some method => api.serve stamp request route method

/-- The reply to a request. To `HEAD` it is the one to `GET` without what stands in its body. -/
def respond (api : Api) (stamp : Stamp) (request : Request) : Reply :=
  let reply := api.dispatch stamp request
  { reply with
    response := { reply.response with
      sharedWithAll := api.sharedWithAll
      keepsBody := request.method = "HEAD" } }

end Api

end Tagging.Http
