import Tagging.Proofs.Catalog.Patch
import Tagging.Proofs.Service.Lifetime

/-!
# Labels and colours that last

Every operation that stores a label or a colour makes its change through the catalog, which checks
it. So whatever a service lives through, the labels and colours that it keeps, in memory and on its
disk, have the form that is asked for.
-/

namespace Tagging

namespace Operation

/-- The change to the catalog that an operation makes, if it makes one. -/
def edit? (stamp : Stamp) : Operation → Option Catalog.Edit
  | .createTag label color => some (.createTag (stamp.ids 0) stamp.created label color)
  | .replaceTag id label color => some (.replaceTag id (label.getD "") color)
  | .updateTag id patch => some (.updateTag id patch)
  | .deleteTag id => some (.deleteTag id)
  | .createDocument label => some (.createDocument (stamp.ids 0) stamp.created label)
  | .deleteDocument id => some (.deleteDocument id)
  | .attachTag document tag => some (.attach tag document)
  | .removeTag document tag => some (.remove tag document)
  | .grant _ | .revoke _ => none

private theorem catalog_of_change {operation : Operation} {stamp : Stamp} {state changed : State}
    {value : operation.Value} {asked : Change}
    (done : operation.change stamp state = (.ok (value, asked), changed)) :
    changed.catalog =
      (operation.edit? stamp).elim state.catalog fun edit ↦ (edit.onCatalog state.catalog).2 := by
  cases operation with
  | createTag | replaceTag | updateTag | deleteTag | createDocument | deleteDocument | removeTag =>
    have made := inCatalog_made done
    exact (congrArg Prod.snd made).symm
  | attachTag document tag =>
    obtain ⟨new, made⟩ := attach_of_attached (inCatalog_made done)
    exact (congrArg Prod.snd made).symm
  | grant given =>
    cases changed_of_grant done
    rfl
  | revoke given =>
    cases changed_of_revoke done
    rfl

end Operation

/-- Every change to a state leaves its catalog tidy. -/
theorem State.Becomes.tidy {state next : State} (becomes : state.Becomes next)
    (tidy : state.catalog.Tidy) : next.catalog.Tidy := by
  cases becomes with
  | @operation operation stamp actor value asked changed approved made =>
    show changed.catalog.Tidy
    rw [Operation.catalog_of_change made]
    cases operation.edit? stamp with
    | none => exact tidy
    | some edit => exact edit.tidy tidy
  | installation grants => exact tidy

namespace Service

/-- What a service takes as labels and colours, and what it keeps of them. -/
structure KeepsForm (service : Service) : Prop where
  /-- White space is dropped at both ends, and nowhere else. -/
  trims : ∀ text middle, Text.trim text = middle ↔ Text.Trims text middle
  label : ∀ text label, validLabel text = .ok label ↔
    label = Text.trimmed text ∧ 1 ≤ label.length ∧ label.length ≤ 128
  color : ∀ text color, validColor text = .ok color ↔
    color = Text.trimmed text ∧ ColorForm color
  /-- A colour may be told by its bytes, whatever they are. -/
  bytes : ∀ text, ToldInBytes text
  /-- What is taken where no colour is given is one. -/
  default : ColorForm defaultColor
  /-- What a change gives is checked, and stored trimmed. -/
  checks : ∀ (edit : Catalog.Edit) (catalog : Catalog), edit.Checks catalog
  /-- What is kept, in memory and on the disk, has the form that is asked for. -/
  tidy : service.Keeps (·.catalog.Tidy)
  /-- What is kept is accepted again. -/
  again : service.state.catalog.TakesAgain

/-- A service takes the labels and the colours that have the right form once they have been trimmed,
and whatever it has lived through, it keeps no others. -/
theorem live_keepsForm (persistent : Bool) (turns : List Turn) :
    ((fresh persistent).live turns).KeepsForm := by
  have tidy : ((fresh persistent).live turns).Keeps (·.catalog.Tidy) := by
    apply keeps_live Catalog.tidy_empty
    intro state next becomes before
    exact becomes.tidy before
  refine ⟨Text.trim_eq_iff, fun text label ↦ ?_, fun text color ↦ ?_, toldInBytes,
    colorForm_defaultColor, Catalog.Edit.checks, tidy, tidy.state.takesAgain⟩
  · rw [validLabel_eq_ok_iff]
    constructor
    · rintro ⟨form, same⟩
      exact ⟨same, form.nonempty, form.short⟩
    · rintro ⟨rfl, nonempty, short⟩
      exact ⟨⟨Text.trimmed_trimmed text, nonempty, short⟩, rfl⟩
  · rw [validColor_eq_ok_iff]
    exact and_comm

/-- A tag that was given with white space is kept without, and may be stored again as it is. -/
theorem live_keepsForm_trimmed :
    let root : Principal := ⟨"root", [], true⟩
    let stamp : Stamp := { ids := Uuid.ofNat, now := Instant.origin }
    let tag : Tag := ⟨Uuid.ofNat 0, "red", "#ABCDEF", Instant.origin, ∅⟩
    let create : Operation := .createTag "\u3000red\t" (some " #ABCDEF ")
    let service := (fresh false).live [.step (.perform stamp root (.change create))]
    service.state.catalog.tag? tag.id = some tag ∧ LabelForm tag.label ∧ ColorForm tag.color ∧
      service.state.catalog.replaceTag tag.id "red" (some "#ABCDEF") =
        (.ok tag, service.state.catalog) := by
  intro root stamp tag create service
  have stored : service.state.catalog.tag? tag.id = some tag := by rfl
  have keeps : service.KeepsForm := live_keepsForm false _
  exact ⟨stored, keeps.tidy.state.label _ _ stored, keeps.tidy.state.color _ _ stored,
    keeps.again.replaceTag _ _ stored⟩

end Service

end Tagging
