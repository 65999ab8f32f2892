import Tagging.Http.Api
import Tagging.Proofs.Service.Hiding

/-!
# Hidden objects at the interface

What a principal is answered does not depend on objects that are hidden from it. Each handler is
looked at twice, as it answers one call in two states that look alike to the caller; the response is
the same. From this it follows for the interface as a whole: changes to a hidden object alter no
response, and a hidden object is answered like one that never was there.
-/

namespace Tagging.Http

/-! ### Pages -/

private theorem page_alike {α : Type} {toJson : α → Json} {items others : List α}
    (same : items.map toJson = others.map toJson) (request : PageRequest) (size : Nat) :
    (Page.of items request size).map (Page.toJson toJson) =
      (Page.of others request size).map (Page.toJson toJson) := by
  have length : items.length = others.length := by
    simpa using congrArg List.length same
  have part : ∀ start count, ((items.drop start).take count).map toJson =
      ((others.drop start).take count).map toJson := by
    intro start count
    rw [List.map_take, List.map_drop, same, List.map_take, List.map_drop]
  simp only [Page.of, length]
  split
  · rfl
  · split
    · rfl
    · simp only [Except.map, Page.toJson, part, List.length_take, List.length_drop, length]

namespace Call

/-- The call as it is made to another service, at another time. -/
def elsewhere (call : Call) (service : Service) (stamp : Stamp) : Call :=
  { call with api := { call.api with service }, stamp }

section

variable {call : Call} {other : Service} {later : Stamp} {α β : Type}

/-! ### The steps of a handler -/

/-- Two results that look alike are answered alike. -/
theorem answer_alike {toJson : α → Json} {one two : Except Error α} {f : α → β}
    (same : one.map f = two.map f)
    (shown : ∀ value value', f value = f value' → toJson value = toJson value') :
    (call.answer toJson one).response =
      ((call.elsewhere other later).answer toJson two).response := by
  obtain ⟨error, rfl, rfl⟩ | ⟨value, value', rfl, rfl, alike⟩ := State.Alike.map_cases same
  · rfl
  · simp only [answer, reply, shown value value' alike]

/-- Two lists of which the same is shown are answered alike. -/
theorem answerPage_alike {toJson : α → Json} {items others : List α}
    (same : items.map toJson = others.map toJson) (page : PageRequest) :
    (call.answerPage toJson page items).response =
      ((call.elsewhere other later).answerPage toJson page others).response :=
  answer_alike (page_alike same page _) fun _ _ same ↦ same

/-- Two outcomes that look alike are answered alike. -/
theorem change_alike {response : α → Response} {one two : Outcome α} {f : α → β}
    (same : one.result.map f = two.result.map f)
    (shown : ∀ value value', f value = f value' → response value = response value') :
    (change response one).response = (change response two).response := by
  unfold change
  obtain ⟨error, left, right⟩ | ⟨value, value', left, right, alike⟩ :=
    State.Alike.map_cases same
  · rw [left, right]
  · rw [left, right]
    exact shown value value' alike

/-- To go on with two results that look alike is answered alike. -/
theorem withResult_alike {one two : Except Error α} {f : α → β} {next next' : α → Reply}
    (same : one.map f = two.map f)
    (ended : ∀ value value', f value = f value' →
      (next value).response = (next' value').response) :
    (call.withResult one next).response =
      ((call.elsewhere other later).withResult two next').response := by
  obtain ⟨error, rfl, rfl⟩ | ⟨value, value', rfl, rfl, alike⟩ := State.Alike.map_cases same
  · rfl
  · exact ended value value' alike

/-- To go on with the page that is asked for is answered alike. -/
theorem withPage_alike {next next' : PageRequest → Reply}
    (ended : ∀ page, (next page).response = (next' page).response) :
    (call.withPage next).response =
      ((call.elsewhere other later).withPage next').response := by
  unfold withPage elsewhere
  cases PageRequest.ofQuery? call.request.query with
  | none => rfl
  | some page => exact ended page

/-- To go on with the identifier in the path is answered alike. -/
theorem withId_alike {next next' : Uuid → Reply} (part : String)
    (ended : ∀ id, (next id).response = (next' id).response) :
    (call.withId part next).response =
      ((call.elsewhere other later).withId part next').response := by
  unfold withId
  cases idOfPart? part with
  | none => rfl
  | some id => exact ended id

/-- To go on with the body is answered alike. -/
theorem withBody_alike {decode : Json.Decoder α} {next next' : α → Reply}
    (ended : ∀ value, (next value).response = (next' value).response) :
    (call.withBody decode next).response =
      ((call.elsewhere other later).withBody decode next').response := by
  unfold withBody elsewhere
  cases call.request.decodeBody decode with
  | error error => rfl
  | ok value => exact ended value

/-- To go on with the object in the path is answered alike. -/
theorem withObject_alike {next next' : Object → Reply} (kind id : String)
    (ended : ∀ object, (next object).response = (next' object).response) :
    (call.withObject kind id next).response =
      ((call.elsewhere other later).withObject kind id next').response := by
  unfold withObject
  split
  · exact withResult_alike (f := fun kind ↦ kind) rfl fun _ _ same ↦ by rw [same, ended]
  · rfl

end

/-! ### What is shown -/

private theorem tagToJson_congr {a b : Tag} (same : a.bare = b.bare) :
    tagToJson a = tagToJson b := by
  change tagToJson a.bare = tagToJson b.bare
  rw [same]

private theorem map_tagToJson {tags others : List Tag}
    (same : tags.map Tag.bare = others.map Tag.bare) :
    tags.map tagToJson = others.map tagToJson := by
  have bare : ∀ tags : List Tag, tags.map tagToJson = (tags.map Tag.bare).map tagToJson := by
    intro tags
    rw [List.map_map]
    rfl
  rw [bare, same, ← bare]

private theorem tagResponse_congr (status : Nat) (a b : Tag) (same : a.bare = b.bare) :
    valueResponse status tagToJson a = valueResponse status tagToJson b := by
  rw [valueResponse, valueResponse, tagToJson_congr same]

/-! ### The handlers -/

section

variable {call : Call} {other : Service} (alike : call.state.Alike call.caller other.state)
  (saves : call.service.saves = other.saves) (later : Stamp)

include alike

private theorem asked (query : Query) :
    (query.answer call.state call.stamp.computed call.caller).map query.shown =
      (query.answer other.state later.computed call.caller).map query.shown :=
  query.answer_alike alike _ _

private theorem listTags_alike :
    call.listTags.response = (call.elsewhere other later).listTags.response :=
  withPage_alike fun _ ↦
    answerPage_alike (map_tagToJson (Except.ok.inj (asked alike later .listTags))) _

private theorem getTag_alike (id : String) :
    (call.getTag id).response = ((call.elsewhere other later).getTag id).response :=
  withId_alike id fun tag ↦
    answer_alike (asked alike later (.getTag tag)) fun _ _ ↦ tagToJson_congr

private theorem tagDocuments_alike (id : String) :
    (call.tagDocuments id).response = ((call.elsewhere other later).tagDocuments id).response := by
  refine withId_alike id fun tag ↦ withPage_alike fun page ↦ ?_
  refine withResult_alike (asked alike later (.tagDocuments tag)) fun documents others same ↦ ?_
  exact answerPage_alike (congrArg (List.map documentToJson) same) page

private theorem listDocuments_alike :
    call.listDocuments.response = (call.elsewhere other later).listDocuments.response := by
  refine withPage_alike fun page ↦ ?_
  have same := Except.ok.inj (asked alike later .listDocuments)
  exact answerPage_alike (congrArg (List.map documentToJson) same) page

private theorem getDocument_alike (id : String) :
    (call.getDocument id).response = ((call.elsewhere other later).getDocument id).response :=
  withId_alike id fun document ↦
    answer_alike (asked alike later (.getDocument document)) fun _ _ ↦ congrArg documentToJson

private theorem documentTags_alike (id : String) :
    (call.documentTags id).response = ((call.elsewhere other later).documentTags id).response := by
  refine withId_alike id fun document ↦ withPage_alike fun page ↦ ?_
  refine withResult_alike (asked alike later (.documentTags document)) fun tags others same ↦ ?_
  exact answerPage_alike (map_tagToJson same) page

private theorem documentTag_alike (id tagId : String) :
    (call.documentTag id tagId).response =
      ((call.elsewhere other later).documentTag id tagId).response :=
  withId_alike id fun document ↦ withId_alike tagId fun tag ↦
    answer_alike (asked alike later (.documentTag document tag)) fun _ _ ↦ tagToJson_congr

private theorem listGrants_alike :
    call.listGrants.response = (call.elsewhere other later).listGrants.response := by
  unfold listGrants elsewhere
  cases GrantQuery.ofQuery? call.request.query with
  | none => rfl
  | some query =>
    refine withResult_alike (f := id) rfl fun kind _ same ↦ ?_
    cases same
    refine withResult_alike (asked alike later (.grantsFor ⟨kind, query.id⟩))
      fun grants others same ↦ ?_
    exact answerPage_alike (congrArg (List.map Grant.toJson) same) query.page

private theorem listEvents_alike (kind id : String) :
    (call.listEvents kind id).response =
      ((call.elsewhere other later).listEvents kind id).response := by
  refine withPage_alike fun page ↦ withObject_alike kind id fun object ↦ ?_
  refine withResult_alike (asked alike later (.eventsFor object)) fun events others same ↦ ?_
  exact answerPage_alike (congrArg (List.map Event.toJson) same) page

private theorem latestEvent_alike (kind id : String) :
    (call.latestEvent kind id).response =
      ((call.elsewhere other later).latestEvent kind id).response :=
  withObject_alike kind id fun object ↦
    answer_alike (asked alike later (.latestEvent object)) fun _ _ ↦ congrArg Event.toJson

private theorem listStatistics_alike :
    call.listStatistics.response = (call.elsewhere other later).listStatistics.response :=
  answer_alike (asked alike later .statistics) fun _ _ same ↦
    congrArg (fun offered : List Statistic ↦ Json.list (offered.map statisticToJson)) same

private theorem getStatistic_alike (slug : String) :
    (call.getStatistic slug).response =
      ((call.elsewhere other later).getStatistic slug).response := by
  unfold getStatistic
  cases unescapePart? slug with
  | none => rfl
  | some slug => exact answer_alike (asked alike later (.statistic slug)) fun _ _ ↦ congrArg _

include saves

private theorem done (operation : Operation) :
    (operation.run call.service call.stamp call.caller).result.map operation.shown =
      (operation.run other later call.caller).result.map operation.shown :=
  operation.result_alike alike saves _ _

private theorem createTag_alike :
    call.createTag.response = (call.elsewhere other later).createTag.response := by
  refine withResult_alike (asked alike later (.authorizeGlobal .tagCreate)) fun _ _ _ ↦ ?_
  refine withBody_alike fun tag ↦ ?_
  exact change_alike (done alike saves later (.createTag tag.label tag.color))
    (tagResponse_congr 201)

private theorem replaceTag_alike (id : String) :
    (call.replaceTag id).response = ((call.elsewhere other later).replaceTag id).response := by
  refine withId_alike id fun tag ↦ ?_
  refine withResult_alike (asked alike later (.authorize .tagEdit (.tag tag))) fun _ _ _ ↦ ?_
  refine withBody_alike fun patch ↦ ?_
  exact change_alike (done alike saves later (.replaceTag tag patch.label patch.color))
    (tagResponse_congr 200)

private theorem updateTag_alike (id : String) :
    (call.updateTag id).response = ((call.elsewhere other later).updateTag id).response := by
  refine withId_alike id fun tag ↦ ?_
  refine withResult_alike (asked alike later (.authorize .tagEdit (.tag tag))) fun _ _ _ ↦ ?_
  refine withBody_alike fun patch ↦ ?_
  exact change_alike (done alike saves later (.updateTag tag patch)) (tagResponse_congr 200)

private theorem deleteTag_alike (id : String) :
    (call.deleteTag id).response = ((call.elsewhere other later).deleteTag id).response :=
  withId_alike id fun tag ↦ change_alike (done alike saves later (.deleteTag tag)) fun _ _ _ ↦ rfl

private theorem createDocument_alike :
    call.createDocument.response = (call.elsewhere other later).createDocument.response := by
  refine withResult_alike (asked alike later (.authorizeGlobal .documentCreate)) fun _ _ _ ↦ ?_
  refine withBody_alike fun label ↦ ?_
  exact change_alike (done alike saves later (.createDocument label)) fun _ _ ↦ congrArg _

private theorem deleteDocument_alike (id : String) :
    (call.deleteDocument id).response =
      ((call.elsewhere other later).deleteDocument id).response :=
  withId_alike id fun document ↦
    change_alike (done alike saves later (.deleteDocument document)) fun _ _ _ ↦ rfl

private theorem attachTag_alike (id : String) :
    (call.attachTag id).response = ((call.elsewhere other later).attachTag id).response := by
  refine withId_alike id fun document ↦ ?_
  refine withResult_alike (asked alike later (.authorize .tagAttach (.document document)))
    fun _ _ _ ↦ ?_
  refine withBody_alike fun tag ↦ ?_
  exact change_alike (done alike saves later (.attachTag document tag)) (tagResponse_congr 201)

private theorem removeTag_alike (id tagId : String) :
    (call.removeTag id tagId).response =
      ((call.elsewhere other later).removeTag id tagId).response :=
  withId_alike id fun document ↦ withId_alike tagId fun tag ↦
    change_alike (done alike saves later (.removeTag document tag)) fun _ _ _ ↦ rfl

private theorem addGrant_alike :
    call.addGrant.response = (call.elsewhere other later).addGrant.response :=
  withBody_alike fun given ↦
    change_alike (done alike saves later (.grant given)) fun _ _ ↦ congrArg _

private theorem revokeGrant_alike :
    call.revokeGrant.response = (call.elsewhere other later).revokeGrant.response :=
  withBody_alike fun given ↦
    change_alike (done alike saves later (.revoke given)) fun _ _ _ ↦ rfl

/-- In states that look alike to the caller each route is answered alike. -/
theorem handle_alike (route : Route) (method : Method) :
    (handle call route method).response =
      (handle (call.elsewhere other later) route method).response := by
  cases route with
  | tags =>
    cases method with
    | post => exact createTag_alike alike saves later
    | _ => exact listTags_alike alike later
  | tag id =>
    cases method with
    | put => exact replaceTag_alike alike saves later id
    | patch => exact updateTag_alike alike saves later id
    | delete => exact deleteTag_alike alike saves later id
    | _ => exact getTag_alike alike later id
  | tagDocuments id => exact tagDocuments_alike alike later id
  | documents =>
    cases method with
    | post => exact createDocument_alike alike saves later
    | _ => exact listDocuments_alike alike later
  | document id =>
    cases method with
    | delete => exact deleteDocument_alike alike saves later id
    | _ => exact getDocument_alike alike later id
  | documentTags id =>
    cases method with
    | post => exact attachTag_alike alike saves later id
    | _ => exact documentTags_alike alike later id
  | documentTag id tagId =>
    cases method with
    | delete => exact removeTag_alike alike saves later id tagId
    | _ => exact documentTag_alike alike later id tagId
  | grants =>
    cases method with
    | post => exact addGrant_alike alike saves later
    | delete => exact revokeGrant_alike alike saves later
    | _ => exact listGrants_alike alike later
  | eventStream => rfl
  | events kind id => exact listEvents_alike alike later kind id
  | latestEvent kind id => exact latestEvent_alike alike later kind id
  | statistics => exact listStatistics_alike alike later
  | statistic slug => exact getStatistic_alike alike later slug
  | health => rfl

end

end Call

/-! ### The interface -/

namespace Api

/-- The same interface to another service. -/
def on (api : Api) (service : Service) : Api :=
  { api with service }

variable {api : Api} {principal : Principal} {object : Object} {request : Request}
  {stamp later : Stamp}

/-- A request is answered alike by services whose states look alike to the principal that makes it.
-/
theorem respond_alike {other : Service}
    (alike : api.service.state.Alike principal other.state)
    (saves : api.service.saves = other.saves)
    (asks : identify api.settings api.verifier stamp.now request = .ok principal)
    (asksLater : identify api.settings api.verifier later.now request = .ok principal) :
    (api.respond stamp request).response = ((api.on other).respond later request).response := by
  have dispatched : (api.dispatch stamp request).response =
      ((api.on other).dispatch later request).response := by
    unfold dispatch
    cases Route.ofPath? request.path with
    | none => rfl
    | some route =>
      simp only
      split
      · rfl
      · next method _ =>
        unfold serve
        split
        · rfl
        · have asksOther : identify (api.on other).settings (api.on other).verifier later.now
              request = .ok principal := asksLater
          rw [asks, asksOther]
          exact @Call.handle_alike ⟨api, stamp, principal, request⟩ other alike saves later
            route method
  exact congrArg (fun response : Response ↦ { response with
    sharedWithAll := api.sharedWithAll
    keepsBody := request.method = "HEAD" }) dispatched

/-- A hidden object is answered for like one that never was there. -/
theorem respond_without (sound : api.service.state.catalog.WellKeyed)
    (hides : api.service.state.grants.Hides principal object)
    (asks : identify api.settings api.verifier stamp.now request = .ok principal)
    (asksLater : identify api.settings api.verifier later.now request = .ok principal) :
    (api.respond stamp request).response =
      ((api.on (api.service.without object)).respond later request).response :=
  respond_alike (State.alike_without sound hides) rfl asks asksLater

/-- Changes to an object do not alter what those are answered to whom it is hidden, whatever they
ask for and whenever they ask: before and after the changes they get the same response, which is
also the one they would get if the object had never been there. Of the events of the changes they
see none. -/
theorem respond_unnoticed (reachable : api.service.state.Reachable)
    (hides : api.service.state.grants.Hides principal object) {notices : List Notice}
    {after : Service} (edited : Service.Edited object api.service notices after)
    (asks : identify api.settings api.verifier stamp.now request = .ok principal)
    (asksLater : identify api.settings api.verifier later.now request = .ok principal) :
    (api.respond stamp request).response = ((api.on after).respond later request).response ∧
      (api.respond stamp request).response =
        ((api.on (api.service.without object)).respond later request).response ∧
      ∀ notice ∈ notices, notice.visibleTo principal = false := by
  have sound := reachable.wellKeyed
  have unnoticed := edited.unnoticed sound hides
  have alike := unnoticed.alike sound hides
  exact ⟨respond_alike alike unnoticed.saves.symm asks asksLater,
    respond_without sound hides asks asksLater, unnoticed.unseen⟩

/-- Who may do nothing with a tag is told that it was not found, both while it is there and after it
has been deleted. -/
theorem respond_unnoticed_deletion :
    let stamp : Stamp := { ids := Uuid.ofNat, now := Instant.origin }
    let root : Principal := ⟨"root", [], true⟩
    let secret := Uuid.ofNat 0
    let service := Service.inMemory.run
      [.perform stamp root (.change (.createTag "secret" none))]
    let after := ((Operation.deleteTag secret).run service stamp root).service
    let api : Api := ⟨service, none, Settings.default, false⟩
    let request : Request := ⟨"GET", "/tags/00000000-0000-0000-0000-000000000000",
      [("X-User-Id", "eve")], []⟩
    (api.respond stamp request).response.status = 404 ∧
      (api.respond stamp request).response = ((api.on after).respond stamp request).response := by
  intro stamp root secret service after api request
  have reachable : service.state.Reachable := ⟨.inMemory, _, rfl, rfl⟩
  have hides : service.state.grants.Hides ⟨"eve", [], false⟩ (.tag secret) := by
    intro permission
    rfl
  have edited : ∃ notice, Service.Edited (.tag secret) service [notice] after :=
    ⟨_, .edit stamp root (.deleteTag secret) _ _ rfl rfl rfl (.none _)⟩
  obtain ⟨notice, edited⟩ := edited
  have named : (identify api.settings api.verifier stamp.now request).toOption =
      some ⟨"eve", [], false⟩ := by
    decide +kernel
  have asks : identify api.settings api.verifier stamp.now request =
      .ok ⟨"eve", [], false⟩ := by
    cases asked : identify api.settings api.verifier stamp.now request with
    | error refusal =>
      rw [asked] at named
      cases named
    | ok caller =>
      rw [asked] at named
      exact congrArg Except.ok (Option.some.inj named)
  have unnoticed := @respond_unnoticed api _ _ request stamp stamp reachable hides _ _ edited asks
    asks
  exact ⟨by decide +kernel, unnoticed.1⟩

end Api

end Tagging.Http
