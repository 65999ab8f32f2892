import Tagging.Catalog.Basic

/-!
# Which error wins

Where several things can be wrong at once, it is fixed which of them is told. A list of faults says
so: the first of them is the error, and if there are none, there is a value. For each change to a
catalog such a list is given, as far as the records are there that it needs.
-/

namespace Tagging

/-- A result is settled by a list of faults: the first is the error, and without any there is a
value. -/
def Settles {α : Type} (result : Except Error α) : List Error → Prop
  | [] => ∃ value, result = .ok value
  | fault :: _ => result = .error fault

namespace Settles

variable {α β : Type} {faults others : List Error}

/-- A value settles that there was no fault. -/
theorem ok (value : α) : Settles (.ok value) [] :=
  ⟨value, rfl⟩

/-- Faults of a second step count after those of the first. -/
theorem bind {first : Except Error α} {next : α → Except Error β} (begun : Settles first faults)
    (ended : ∀ value, first = .ok value → Settles (next value) others) :
    Settles (first >>= next) (faults ++ others) := by
  cases faults with
  | nil =>
    obtain ⟨value, done⟩ := begun
    have rest := ended value done
    rw [done]
    exact rest
  | cons fault faults =>
    have failed : first = .error fault := begun
    rw [failed]
    rfl

/-- A single check has a single fault. -/
theorem check {condition : Prop} [Decidable condition] (value : α) (fault : Error) :
    Settles (if condition then .ok value else .error fault)
      (if condition then [] else [fault]) := by
  split
  · exact .ok value
  · rfl

/-- A result that has been mapped has the same faults. -/
theorem map {result : Except Error α} (f : α → β) (settled : Settles result faults) :
    Settles (result.map f) faults := by
  cases faults with
  | nil =>
    obtain ⟨value, done⟩ := settled
    exact ⟨f value, by rw [done]; rfl⟩
  | cons fault faults =>
    have failed : result = .error fault := settled
    rw [failed]
    rfl

/-- Where there is a value, there was no fault. -/
theorem eq_nil {result : Except Error α} {value : α} (settled : Settles result faults)
    (done : result = .ok value) : faults = [] := by
  cases faults with
  | nil => rfl
  | cons fault faults =>
    have failed : result = .error fault := settled
    rw [done] at failed
    cases failed

end Settles

/-! ### Labels and colours -/

/-- What may be wrong with a label. -/
def labelFaults (text : String) : List Error :=
  if Text.trim text.toList = [] then [.validation .emptyLabel]
  else if maxLabelLength < (Text.trim text.toList).length then [.validation .longLabel]
  else []

/-- What may be wrong with a colour. -/
def colorFaults (text : String) : List Error :=
  if isColor (Text.trim text.toList) then []
  else [.validation (.badColor (String.ofList (Text.trim text.toList)))]

/-- A label is valid if nothing is wrong with it. -/
theorem settles_validLabel (text : String) : Settles (validLabel text) (labelFaults text) := by
  by_cases empty : Text.trim text.toList = []
  · simp [validLabel, labelFaults, empty, Settles]
  · by_cases long : maxLabelLength < (Text.trim text.toList).length
    · simp [validLabel, labelFaults, empty, long, Settles]
    · simp [validLabel, labelFaults, empty, long, Settles]

/-- A colour is valid if nothing is wrong with it. -/
theorem settles_validColor (text : String) : Settles (validColor text) (colorFaults text) :=
  .check _ _

/-- Where a text is given, it is checked like any other. -/
theorem settles_mapM {check : String → Except Error String} {faults : String → List Error}
    (settled : ∀ text, Settles (check text) (faults text)) (given : Option String) :
    Settles (given.mapM check) (given.elim [] faults) := by
  cases given with
  | none => exact .ok none
  | some text => exact (settled text).map some

namespace Catalog

variable (catalog : Catalog)

/-! ### What a change yields -/

private theorem result_createTag (id : Uuid) (now : Instant) (label : String)
    (color : Option String) :
    (catalog.createTag id now label color).1 = (do
      let label ← validLabel label
      let color ← validColor (color.getD defaultColor)
      .ok ((catalog.tag? id).getD ⟨id, label, color, now, ∅⟩)) := by
  unfold createTag
  cases validLabel label with
  | error error => rfl
  | ok label =>
    cases validColor (color.getD defaultColor) with
    | error error => rfl
    | ok color => cases found : catalog.tag? id <;> simp [bind, Except.bind]

/-- The tag that is replaced, if the label and the colour are valid. -/
theorem result_replaceTag {id : Uuid} {tag : Tag} (found : catalog.tag? id = some tag)
    (label : String) (color : Option String) :
    (catalog.replaceTag id label color).1 = (do
      let label ← validLabel label
      let color ← validColor (color.getD defaultColor)
      .ok { tag with label, color }) := by
  unfold replaceTag
  cases validLabel label with
  | error error => rfl
  | ok label =>
    cases validColor (color.getD defaultColor) with
    | error error => rfl
    | ok color => simp [found, bind, Except.bind]

/-- The tag that is updated, if what is given is valid. -/
theorem result_updateTag {id : Uuid} {tag : Tag} (found : catalog.tag? id = some tag)
    (patch : TagPatch) :
    (catalog.updateTag id patch).1 = (do
      let label ← patch.label.mapM validLabel
      let color ← patch.color.mapM validColor
      .ok { tag with label := label.getD tag.label, color := color.getD tag.color }) := by
  unfold updateTag
  cases patch.label.mapM validLabel with
  | error error => rfl
  | ok label =>
    cases patch.color.mapM validColor with
    | error error => rfl
    | ok color => simp [found, bind, Except.bind]

private theorem result_createDocument (id : Uuid) (now : Instant) (label : String) :
    (catalog.createDocument id now label).1 = (do
      let label ← validLabel label
      .ok ((catalog.document? id).getD ⟨id, label, now⟩)) := by
  unfold createDocument
  cases validLabel label with
  | error error => rfl
  | ok label => cases found : catalog.document? id <;> simp [bind, Except.bind]

/-- Detaching a tag yields nothing, and fails where it is not attached. -/
theorem result_remove (tag document : Uuid) :
    (catalog.remove tag document).1 =
      if catalog.isAttached tag document then .ok () else .error .notFound := by
  unfold remove isAttached
  cases catalog.tag? tag with
  | none => rfl
  | some record =>
    simp only [Option.any_some]
    split <;> rfl

/-! ### What may be wrong with a change -/

/-- For a new tag the label is checked, then the colour. -/
theorem settles_createTag (id : Uuid) (now : Instant) (label : String) (color : Option String) :
    Settles (catalog.createTag id now label color).1
      (labelFaults label ++ colorFaults (color.getD defaultColor)) := by
  rw [result_createTag, ← List.append_nil (colorFaults _)]
  exact (settles_validLabel _).bind fun _ _ ↦ (settles_validColor _).bind fun _ _ ↦ .ok _

/-- For a tag that is there the label is checked, then the colour. -/
theorem settles_replaceTag {id : Uuid} {tag : Tag} (found : catalog.tag? id = some tag)
    (label : String) (color : Option String) :
    Settles (catalog.replaceTag id label color).1
      (labelFaults label ++ colorFaults (color.getD defaultColor)) := by
  rw [result_replaceTag catalog found, ← List.append_nil (colorFaults _)]
  exact (settles_validLabel _).bind fun _ _ ↦ (settles_validColor _).bind fun _ _ ↦ .ok _

/-- For a tag that is there what is given is checked, the label first. -/
theorem settles_updateTag {id : Uuid} {tag : Tag} (found : catalog.tag? id = some tag)
    (patch : TagPatch) :
    Settles (catalog.updateTag id patch).1
      (patch.label.elim [] labelFaults ++ patch.color.elim [] colorFaults) := by
  rw [result_updateTag catalog found, ← List.append_nil (patch.color.elim _ _)]
  exact (settles_mapM settles_validLabel _).bind fun _ _ ↦
    (settles_mapM settles_validColor _).bind fun _ _ ↦ .ok _

/-- For a new document the label is checked. -/
theorem settles_createDocument (id : Uuid) (now : Instant) (label : String) :
    Settles (catalog.createDocument id now label).1 (labelFaults label) := by
  rw [result_createDocument, ← List.append_nil (labelFaults _)]
  exact (settles_validLabel _).bind fun _ _ ↦ .ok _

/-- A tag that is there can be deleted. -/
theorem settles_deleteTag {id : Uuid} {tag : Tag} (found : catalog.tag? id = some tag) :
    Settles (catalog.deleteTag id).1 [] :=
  ⟨tag, by simp [deleteTag, found]⟩

/-- A document that is there can be deleted. -/
theorem settles_deleteDocument {id : Uuid} {document : Document}
    (found : catalog.document? id = some document) :
    Settles (catalog.deleteDocument id).1 [] :=
  ⟨document, by simp [deleteDocument, found]⟩

/-- A tag can be detached where it is attached. -/
theorem settles_remove (tag document : Uuid) :
    Settles (catalog.remove tag document).1
      (if catalog.isAttached tag document then [] else [.notFound]) := by
  rw [result_remove]
  exact .check _ _

end Catalog

end Tagging
