import Tagging.Proofs.Catalog.Validity
import Tagging.Proofs.Service.Operation
import Tagging.Proofs.Service.Transaction

/-!
# Mediation

Every command requires a permission. Who does not hold it gets the same denial whatever else is
asked for; who holds it gets the first of the faults that stand in the way, and if there are none,
the command succeeds.
-/

namespace Tagging

/-! ### Requirements -/

/-- What a principal must hold to have a command carried out. -/
inductive Requirement where
  /-- A permission on all objects. -/
  | everywhere (permission : Permission)
  /-- A permission on each of some objects. -/
  | onEach (permission : Permission) (objects : List Object)

namespace Requirement

/-- The principal holds what is required. -/
def isHeld (index : GrantIndex) (principal : Principal) : Requirement → Bool
  | .everywhere permission => index.allows principal permission none
  | .onEach permission objects =>
    objects.all fun object ↦ index.allows principal permission (some object)

/-- The error for a principal who does not hold what is required. Objects are hidden. -/
def denial : Requirement → Error
  | .everywhere _ => .permissionDenied
  | .onEach .. => .notFound

end Requirement

/-- What a question requires. Lists are open to all, and leave out what may not be seen. -/
def Query.requirement : Query → Requirement
  | .listTags => .onEach .tagView []
  | .getTag id | .tagDocuments id => .onEach .tagView [.tag id]
  | .listDocuments => .onEach .documentView []
  | .getDocument id => .onEach .documentView [.document id]
  | .documentTags id => .onEach .tagView [.document id]
  | .documentTag document tag => .onEach .tagView [.document document, .tag tag]
  | .authorize permission object => .onEach permission [object]
  | .authorizeGlobal permission => .everywhere permission
  | .grantsFor object => .onEach .aclView [object]
  | .eventsFor object | .latestEvent object => .onEach .eventsView [object]
  | .statistics | .statistic _ => .everywhere .statisticsView

/-- What an operation requires. A grant that names no object cannot be asked for at all. -/
def Operation.requirement : Operation → Option Requirement
  | .createTag .. => some (.everywhere .tagCreate)
  | .replaceTag id .. | .updateTag id _ => some (.onEach .tagEdit [.tag id])
  | .deleteTag id => some (.onEach .tagDelete [.tag id])
  | .createDocument _ => some (.everywhere .documentCreate)
  | .deleteDocument id => some (.onEach .documentDelete [.document id])
  | .attachTag document tag => some (.onEach .tagAttach [.document document, .tag tag])
  | .removeTag document tag => some (.onEach .tagRemove [.document document, .tag tag])
  | .grant given | .revoke given => given.object.map fun object ↦ .onEach .aclEdit [object]

/-- What a command requires. -/
def Command.requirement : Command → Option Requirement
  | .ask query => some query.requirement
  | .change operation => operation.requirement

/-! ### Faults -/

/-- Some of the objects do not exist. -/
def State.absent (state : State) (objects : List Object) : List Error :=
  if objects.all state.has then [] else [.notFound]

/-- What may stand in the way of an answer. -/
def Query.faults (state : State) : Query → List Error
  | .getTag id | .tagDocuments id => state.absent [.tag id]
  | .getDocument id | .documentTags id => state.absent [.document id]
  | .documentTag document tag =>
    state.absent [.document document, .tag tag] ++
      if state.catalog.isAttached tag document then [] else [.notFound]
  | .authorize _ object | .grantsFor object => state.absent [object]
  | .latestEvent object =>
    if state.events.toList.any (·.target = object) then [] else [.notFound]
  | .statistic slug => if Statistic.all.any (·.slug = slug) then [] else [.notFound]
  | .listTags | .listDocuments | .authorizeGlobal _ | .eventsFor _ | .statistics => []

namespace Operation

/-- What an operation may miss: an object, or something that it is to be given. -/
def lacks (state : State) : Operation → List Error
  | .createTag .. | .createDocument _ => []
  | .replaceTag id label _ =>
    state.absent [.tag id] ++ if label.isSome then [] else [.validation .labelMissing]
  | .updateTag id _ | .deleteTag id => state.absent [.tag id]
  | .deleteDocument id => state.absent [.document id]
  | .attachTag document tag | .removeTag document tag =>
    state.absent [.document document, .tag tag]
  | .grant given =>
    state.absent given.object.toList ++
      if Text.trim given.holder.name.toList = [] then [.validation .emptyHolder] else []
  | .revoke given => state.absent given.object.toList

/-- What may be wrong with the change that an operation is to make. -/
def flaws (state : State) : Operation → List Error
  | .createTag label color => labelFaults label ++ colorFaults (color.getD defaultColor)
  | .replaceTag _ label color =>
    labelFaults (label.getD "") ++ colorFaults (color.getD defaultColor)
  | .updateTag _ patch => patch.label.elim [] labelFaults ++ patch.color.elim [] colorFaults
  | .createDocument label => labelFaults label
  | .removeTag document tag =>
    if state.catalog.isAttached tag document then [] else [.notFound]
  | .revoke given => if state.grants.contains given then [] else [.notFound]
  | .deleteTag _ | .deleteDocument _ | .attachTag .. | .grant _ => []

end Operation

/-- The state cannot be saved. -/
def Service.unsaved (service : Service) : List Error :=
  if service.saves then [] else [Disk.outOfReach]

/-- What may stand in the way of a command, in the order in which it is told. -/
def Command.faults (service : Service) : Command → List Error
  | .ask query => query.faults service.state
  | .change operation =>
    operation.lacks service.state ++ operation.flaws service.state ++ service.unsaved

/-! ### Results under a requirement -/

/-- The result is settled by the faults with what is required, and is the denial without it. -/
structure Requirement.Mediates {α : Type} (requirement : Requirement) (index : GrantIndex)
    (principal : Principal) (result : Except Error α) (faults : List Error) : Prop where
  held : requirement.isHeld index principal = true → Settles result faults
  denied : requirement.isHeld index principal = false → result = .error requirement.denial

namespace Requirement.Mediates

variable {α β : Type} {requirement : Requirement} {permission : Permission}
  {objects : List Object} {index : GrantIndex} {principal : Principal} {faults others : List Error}

/-- What comes after a check does not change how it is denied. -/
theorem bind {first : Except Error α} {next : α → Except Error β}
    (begun : requirement.Mediates index principal first faults)
    (ended : ∀ value, first = .ok value → Settles (next value) others) :
    requirement.Mediates index principal (first >>= next) (faults ++ others) where
  held holds := (begun.held holds).bind ended
  denied lacks := by
    rw [begun.denied lacks]
    rfl

/-- A result that has been mapped is denied in the same way. -/
theorem map {result : Except Error α}
    (mediates : requirement.Mediates index principal result faults) (f : α → β) :
    requirement.Mediates index principal (result.map f) faults where
  held holds := (mediates.held holds).map f
  denied lacks := by
    rw [mediates.denied lacks]
    rfl

/-- Where there is a value, what is required was held. -/
theorem held_of_ok {result : Except Error α} {value : α}
    (mediates : requirement.Mediates index principal result faults) (done : result = .ok value) :
    requirement.isHeld index principal = true := by
  cases holds : requirement.isHeld index principal with
  | true => rfl
  | false =>
    have failed := mediates.denied holds
    rw [done] at failed
    cases failed

private theorem bind_ok {first : Except Error α}
    (begun : requirement.Mediates index principal first faults) (next : α → β) :
    requirement.Mediates index principal (first >>= fun value ↦ .ok (next value)) faults := by
  rw [← List.append_nil faults]
  exact begun.bind fun value _ ↦ .ok (next value)

private theorem of_settles {result : Except Error α} (settled : Settles result faults) :
    (Requirement.onEach permission []).Mediates index principal result faults where
  held _ := settled
  denied lacks := by cases lacks

private theorem of_notFound :
    (Requirement.onEach permission objects).Mediates index principal
      (.error .notFound : Except Error α) (.notFound :: faults) where
  held _ := rfl
  denied _ := rfl

/-- Where there is a value, there was no fault. -/
theorem eq_nil {result : Except Error α} {value : α}
    (mediates : requirement.Mediates index principal result faults) (done : result = .ok value) :
    faults = [] :=
  (mediates.held (mediates.held_of_ok done)).eq_nil done

end Requirement.Mediates

namespace State

/-! ### Objects that exist -/

/-- Nothing is absent exactly if each of the objects exists. -/
theorem absent_eq_nil {state : State} {objects : List Object} :
    state.absent objects = [] ↔ ∀ object ∈ objects, state.has object := by
  unfold absent
  rw [← List.all_eq_true]
  split
  · next every => simp [every]
  · next missing => simp [missing]

/-- A tag that exists is found. -/
theorem exists_tag {state : State} {id : Uuid} (present : state.has (.tag id)) :
    ∃ tag, state.catalog.tag? id = some tag :=
  Option.isSome_iff_exists.mp present

/-- A document that exists is found. -/
theorem exists_document {state : State} {id : Uuid} (present : state.has (.document id)) :
    ∃ document, state.catalog.document? id = some document :=
  Option.isSome_iff_exists.mp present

/-! ### Checks -/

variable (state : State) (principal : Principal) (permission : Permission)

/-- A permission on all objects is refused openly. -/
theorem mediates_authorizeGlobal :
    (Requirement.everywhere permission).Mediates state.grants principal
      (state.authorizeGlobal principal permission) [] where
  held holds := ⟨(), if_pos holds⟩
  denied lacks := if_neg (Bool.eq_false_iff.mp lacks)

/-- A permission on an object is refused as if the object did not exist. -/
theorem mediates_check (object : Object) :
    (Requirement.onEach permission [object]).Mediates state.grants principal
      (state.grants.check principal permission (some object) .hide) [] where
  held holds := by
    have allowed : state.grants.allows principal permission (some object) = true := by
      simpa [Requirement.isHeld] using holds
    exact ⟨(), if_pos allowed⟩
  denied lacks := by
    have forbidden : state.grants.allows principal permission (some object) = false := by
      simpa [Requirement.isHeld] using lacks
    simp [GrantIndex.check, forbidden, Denial.error, Requirement.denial]

/-- Whether an object exists is told only to those who hold the permission on it. -/
theorem mediates_authorize (object : Object) :
    (Requirement.onEach permission [object]).Mediates state.grants principal
      (state.authorize principal permission object) (state.absent [object]) := by
  have checked := mediates_check state principal permission object
  cases found : state.has object with
  | false => simpa [authorize, absent, found] using .of_notFound
  | true => simpa [authorize, absent, found] using checked

/-- Whether a tag exists is told only to those who hold the permission on it. -/
theorem mediates_visibleTag (id : Uuid) :
    (Requirement.onEach permission [.tag id]).Mediates state.grants principal
      (state.visibleTag principal permission id) (state.absent [.tag id]) := by
  have checked := mediates_check state principal permission (.tag id)
  cases found : state.catalog.tag? id with
  | none => simpa [visibleTag, absent, has, Object.tag, found] using .of_notFound
  | some tag =>
    simpa [visibleTag, absent, has, Object.tag, found] using checked.bind_ok fun _ ↦ tag

/-- Whether a document exists is told only to those who hold the permission on it. -/
theorem mediates_visibleDocument (id : Uuid) :
    (Requirement.onEach permission [.document id]).Mediates state.grants principal
      (state.visibleDocument principal permission id) (state.absent [.document id]) := by
  have checked := mediates_check state principal permission (.document id)
  cases found : state.catalog.document? id with
  | none => simpa [visibleDocument, absent, has, Object.document, found] using .of_notFound
  | some document =>
    simpa [visibleDocument, absent, has, Object.document, found] using
      checked.bind_ok fun _ ↦ document

/-- Checks on two objects are refused in the same way, whichever of them fails. -/
theorem mediates_checkAll (first second : Object) :
    (Requirement.onEach permission [first, second]).Mediates state.grants principal
      (state.grants.checkAll principal .hide [(permission, first), (permission, second)]) [] := by
  constructor
  · intro holds
    simp only [Requirement.isHeld, List.all_cons, List.all_nil, Bool.and_true,
      Bool.and_eq_true] at holds
    exact ⟨(), by simp [GrantIndex.checkAll, GrantIndex.check, holds, bind, Except.bind]⟩
  · intro lacks
    simp only [Requirement.isHeld, List.all_cons, List.all_nil, Bool.and_true,
      Bool.and_eq_false_iff] at lacks
    cases one : state.grants.allows principal permission (some first) with
    | false => simp [GrantIndex.checkAll, GrantIndex.check, one, Denial.error,
        Requirement.denial, bind, Except.bind]
    | true =>
      have two := lacks.resolve_left (by simp [one])
      simp [GrantIndex.checkAll, GrantIndex.check, one, two, Denial.error,
        Requirement.denial, bind, Except.bind]

/-- Whether a document and a tag exist is told only to those who hold the permission on both. -/
theorem mediates_checkPair (document tag : Uuid) :
    (Requirement.onEach permission [.document document, .tag tag]).Mediates state.grants principal
      (state.checkPair principal permission document tag)
      (state.absent [.document document, .tag tag]) := by
  have checked := mediates_checkAll state principal permission (.document document) (.tag tag)
  cases left : state.catalog.document? document with
  | none => simpa [checkPair, absent, has, Object.document, left] using .of_notFound
  | some record =>
    cases right : state.catalog.tag? tag with
    | none => simpa [checkPair, absent, has, Object.document, Object.tag, left, right] using
        .of_notFound
    | some other =>
      simpa [checkPair, absent, has, Object.document, Object.tag, left, right] using checked

end State

/-! ### Queries -/

private theorem settles_latest (log : EventLog) (object : Object) :
    Settles (match log.latest? object with | some event => .ok event | none => .error .notFound)
      (if log.toList.any (·.target = object) then [] else [.notFound]) := by
  rw [EventLog.latest?_eq, EventLog.forTarget_eq]
  cases history : log.toList.filter (·.target = object) with
  | nil =>
    have none : log.toList.any (·.target = object) = false := by
      rw [List.any_eq_false]
      exact List.filter_eq_nil_iff.mp history
    simp [none, Settles]
  | cons event events =>
    have some : log.toList.any (·.target = object) = true := by
      rw [List.any_eq_true]
      have member : event ∈ log.toList.filter (·.target = object) := by simp [history]
      exact ⟨event, List.mem_filter.mp member⟩
    cases last : (event :: events).reverse with
    | nil => simp at last
    | cons newest others => simp [some, Settles]

private theorem settles_ofSlug (state : State) (now : Instant) (slug : String) :
    Settles (match Statistic.ofSlug? slug with
        | some statistic => .ok (statistic.report state now)
        | none => .error .notFound)
      (if Statistic.all.any (·.slug = slug) then [] else [.notFound]) := by
  have offered : Statistic.all.any (·.slug = slug) =
      (Statistic.all.find? (·.slug = slug)).isSome := by
    rw [Bool.eq_iff_iff, List.find?_isSome, List.any_eq_true]
  rw [Statistic.ofSlug?, offered]
  cases Statistic.all.find? (·.slug = slug) with
  | none => rfl
  | some statistic => exact .ok _

/-- Every question is answered as its requirement and its faults say. -/
theorem Query.mediates_answer (state : State) (now : Instant) (principal : Principal)
    (query : Query) :
    query.requirement.Mediates state.grants principal (query.answer state now principal)
      (query.faults state) := by
  cases query with
  | listTags => exact .of_settles (.ok _)
  | listDocuments => exact .of_settles (.ok _)
  | getTag id => exact state.mediates_visibleTag ..
  | tagDocuments tag => exact (state.mediates_visibleTag ..).bind_ok _
  | getDocument id => exact state.mediates_visibleDocument ..
  | documentTags document => exact (state.mediates_visibleDocument ..).bind_ok _
  | documentTag document tag =>
    refine (state.mediates_checkPair ..).bind fun _ _ ↦ ?_
    cases found : state.catalog.tag? tag with
    | none =>
      have detached : state.catalog.isAttached tag document = false := by
        simp [Catalog.isAttached, found]
      simp only [detached]
      rfl
    | some record => exact .check record .notFound
  | authorize permission object => exact state.mediates_authorize ..
  | authorizeGlobal permission => exact state.mediates_authorizeGlobal ..
  | grantsFor object => exact (state.mediates_authorize ..).bind_ok _
  | eventsFor object => exact (state.mediates_check ..).bind_ok _
  | latestEvent object =>
    exact (state.mediates_check ..).bind fun _ _ ↦ settles_latest state.events object
  | statistics => exact (state.mediates_authorizeGlobal ..).bind_ok _
  | statistic slug =>
    exact (state.mediates_authorizeGlobal ..).bind fun _ _ ↦ settles_ofSlug state now slug

/-! ### Operations -/

namespace Operation

/-- An operation that requires nothing is a grant that names no object. -/
theorem approve_of_requirement_none {state : State} {actor : Principal} {operation : Operation}
    (requires : operation.requirement = none) :
    operation.approve state actor = .error (.validation .objectMissing) := by
  cases operation with
  | grant given =>
    have nameless : given.object = none := by simpa [requirement] using requires
    simp [approve, nameless]
  | revoke given =>
    have nameless : given.object = none := by simpa [requirement] using requires
    simp [approve, nameless]
  | _ => cases requires

/-- An operation is approved as its requirement says, if it misses nothing. -/
theorem mediates_approve (state : State) (actor : Principal) {operation : Operation}
    {requirement : Requirement} (requires : operation.requirement = some requirement) :
    requirement.Mediates state.grants actor (operation.approve state actor)
      (operation.lacks state) := by
  cases operation with
  | createTag label color =>
    cases requires
    exact state.mediates_authorizeGlobal ..
  | replaceTag id label color =>
    cases requires
    exact (state.mediates_visibleTag ..).bind fun _ _ ↦ .check () _
  | updateTag id patch =>
    cases requires
    exact (state.mediates_visibleTag ..).bind_ok _
  | deleteTag id =>
    cases requires
    exact (state.mediates_visibleTag ..).bind_ok _
  | createDocument label =>
    cases requires
    exact state.mediates_authorizeGlobal ..
  | deleteDocument id =>
    cases requires
    exact (state.mediates_visibleDocument ..).bind_ok _
  | attachTag document tag =>
    cases requires
    exact state.mediates_checkPair ..
  | removeTag document tag =>
    cases requires
    exact state.mediates_checkPair ..
  | grant given =>
    obtain ⟨holder, permission, _ | object⟩ := given
    · cases requires
    · cases requires
      refine (state.mediates_authorize ..).bind fun _ _ ↦ ?_
      split
      · rfl
      · exact .ok ()
  | revoke given =>
    obtain ⟨holder, permission, _ | object⟩ := given
    · cases requires
    · cases requires
      exact state.mediates_authorize ..

/-- A change in the catalog yields what the catalog says, with the event that is asked for. -/
theorem result_inCatalog {α : Type} (state : State) (made : Except Error α × Catalog)
    (event : α → Change) :
    (Service.inCatalog state made event).1 = made.1.map fun value ↦ (value, event value) := by
  unfold Service.inCatalog
  cases made.1 <;> rfl

private theorem settles_inCatalog {α : Type} {state : State} {made : Except Error α × Catalog}
    {event : α → Change} {faults : List Error} (settled : Settles made.1 faults) :
    Settles (Service.inCatalog state made event).1 faults := by
  rw [result_inCatalog]
  exact settled.map _

/-- To attach a tag to a document that is there yields the tag with the document. -/
theorem result_attached {catalog : Catalog} {document tag : Uuid} {record : Tag} {paper : Document}
    (found : catalog.document? document = some paper) (stands : catalog.tag? tag = some record) :
    (Service.attached tag (catalog.attach tag document)).1 =
      .ok { record with documents := record.documents.insert document } := by
  simp [Service.attached, Catalog.attach, found, stands]

/-- Once an operation is approved, its change is settled by its flaws. -/
theorem settles_change (stamp : Stamp) {state : State} {operation : Operation}
    {requirement : Requirement} (requires : operation.requirement = some requirement)
    (complete : operation.lacks state = []) :
    Settles (operation.change stamp state).1 (operation.flaws state) := by
  cases operation with
  | createTag label color => exact settles_inCatalog (Catalog.settles_createTag ..)
  | replaceTag id label color =>
    have complete := (List.append_eq_nil_iff.mp complete).1
    have present := State.absent_eq_nil.mp complete _ List.mem_cons_self
    obtain ⟨tag, found⟩ := State.exists_tag present
    exact settles_inCatalog (Catalog.settles_replaceTag _ found ..)
  | updateTag id patch =>
    have present := State.absent_eq_nil.mp complete _ List.mem_cons_self
    obtain ⟨tag, found⟩ := State.exists_tag present
    exact settles_inCatalog (Catalog.settles_updateTag _ found ..)
  | deleteTag id =>
    have present := State.absent_eq_nil.mp complete _ List.mem_cons_self
    obtain ⟨tag, found⟩ := State.exists_tag present
    exact settles_inCatalog ((Catalog.settles_deleteTag _ found).map _)
  | createDocument label => exact settles_inCatalog (Catalog.settles_createDocument ..)
  | deleteDocument id =>
    have present := State.absent_eq_nil.mp complete _ List.mem_cons_self
    obtain ⟨document, found⟩ := State.exists_document present
    exact settles_inCatalog ((Catalog.settles_deleteDocument _ found).map _)
  | attachTag document tag =>
    have present := State.absent_eq_nil.mp complete
    obtain ⟨paper, found⟩ := State.exists_document (present (.document document) (by simp))
    obtain ⟨record, stands⟩ := State.exists_tag (present (.tag tag) (by simp))
    exact settles_inCatalog ⟨_, result_attached found stands⟩
  | removeTag document tag => exact settles_inCatalog (Catalog.settles_remove ..)
  | grant given =>
    obtain ⟨holder, permission, _ | object⟩ := given
    · cases requires
    · exact .ok _
  | revoke given =>
    obtain ⟨holder, permission, _ | object⟩ := given
    · cases requires
    · by_cases given : state.grants.contains ⟨holder, permission, some object⟩
      · simp [change, flaws, GrantIndex.erase, given, Settles]
      · simp [change, flaws, GrantIndex.erase, given, Settles]

end Operation

/-- What is committed is the value of the change, if the state can be saved. -/
theorem Service.result_commit {α : Type} (service : Service) (stamp : Stamp) (actor : Principal)
    (change : State → Except Error (α × Change) × State) :
    (service.commit stamp actor change).result = (do
      let made ← (change service.state).1
      if service.saves then .ok made.1 else .error Disk.outOfReach) := by
  cases made : change service.state with
  | mk result left =>
    cases result with
    | error error => simp [commit, made, bind, Except.bind]
    | ok yielded =>
      cases saved : service.saves with
      | false => rw [commit_of_not_saves made saved]; simp [bind, Except.bind]
      | true => rw [commit_of_saves made saved]; simp [bind, Except.bind]

/-- An operation yields the value of its change, if it is approved and the state can be saved. -/
theorem Operation.result_run (service : Service) (stamp : Stamp) (actor : Principal)
    (operation : Operation) :
    (operation.run service stamp actor).result = (do
      operation.approve service.state actor
      let made ← (operation.change stamp service.state).1
      if service.saves then .ok made.1 else .error Disk.outOfReach) := by
  rw [run_eq]
  cases operation.approve service.state actor with
  | error error => rfl
  | ok _ => exact Service.result_commit ..

/-- Without what a command requires the result is the denial, whatever else is asked for. With it
the first fault is the error, and if there is none the command succeeds. A grant that names no
object is refused before all else. -/
theorem Command.perform_mediated (service : Service) (stamp : Stamp) (principal : Principal)
    (command : Command) :
    let result := (command.perform service stamp principal).result
    match command.requirement with
    | none => result = .error (.validation .objectMissing)
    | some requirement =>
      requirement.Mediates service.state.grants principal result (command.faults service) := by
  cases command with
  | ask query => exact query.mediates_answer ..
  | change operation =>
    simp only [requirement, perform, faults]
    rw [Operation.result_run]
    split
    · next requires =>
      rw [Operation.approve_of_requirement_none requires]
      rfl
    · next _ required requires =>
      have approves := operation.mediates_approve service.state principal requires
      rw [List.append_assoc]
      refine approves.bind fun _ approved ↦ ?_
      have changes := Operation.settles_change stamp requires (approves.eq_nil approved)
      exact changes.bind fun _ _ ↦ .check _ _

end Tagging
