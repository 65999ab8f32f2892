import Tagging.Proofs.Catalog.Fields
import Tagging.Proofs.Catalog.Refinement

/-!
# What changes give

Every change to a catalog that gives a label or a colour asks the same of it, the label first, and
stores it without the white space around it. So every label and every colour in a catalog has the
form that is asked for, whatever changes have been made to it.
-/

namespace Tagging

/-! ### Faults and given texts -/

namespace Settles

/-- The error of a result is the first of its faults. -/
theorem eq_error_iff {α : Type} {result : Except Error α} {faults : List Error}
    (settled : Settles result faults) (error : Error) :
    result = .error error ↔ faults.head? = some error := by
  cases faults with
  | nil =>
    obtain ⟨value, rfl⟩ := settled
    exact iff_of_false nofun nofun
  | cons fault faults =>
    have failed : result = .error fault := settled
    simp [failed]

private theorem yield {α β : Type} {result : Except Error α} {faults : List Error}
    (settled : Settles result faults) (f : α → β) :
    Settles (result >>= fun value ↦ .ok (f value)) faults := by
  rw [← List.append_nil faults]
  exact settled.bind fun value _ ↦ .ok (f value)

end Settles

/-- A text that is given must have the right form once it has been trimmed, and is taken so. -/
theorem mapM_eq_ok_iff {check : String → Except Error String} {Form : String → Prop}
    (check_iff : ∀ text taken, check text = .ok taken ↔ Form taken ∧ taken = Text.trimmed text)
    {given taken : Option String} :
    given.mapM check = .ok taken ↔
      (∀ text ∈ given, Form (Text.trimmed text)) ∧ taken = given.map Text.trimmed := by
  cases given with
  | none => simp [pure, Except.pure, eq_comm]
  | some text =>
    rw [Option.mapM_some]
    cases valid : check text with
    | error error =>
      refine iff_of_false nofun fun ⟨fits, _⟩ ↦ ?_
      have accepted := (check_iff text _).mpr ⟨fits text rfl, rfl⟩
      cases valid.symm.trans accepted
    | ok value =>
      obtain ⟨form, rfl⟩ := (check_iff text value).mp valid
      constructor
      · rintro ⟨⟩
        refine ⟨?_, rfl⟩
        rintro _ ⟨⟩
        exact form
      · rintro ⟨_, rfl⟩
        rfl

private theorem getD_map_of_mem {given : Option String} {text : String} (member : text ∈ given)
    (former : String) : (given.map Text.trimmed).getD former = Text.trimmed text := by
  rw [Option.mem_def.mp member, Option.map_some, Option.getD_some]

private theorem getD_map_induction {property : String → Prop} {given : Option String}
    {former : String} (before : property former)
    (taken : ∀ text ∈ given, property (Text.trimmed text)) :
    property ((given.map Text.trimmed).getD former) := by
  cases given with
  | none => exact before
  | some text => exact taken text rfl

namespace Catalog

/-- What is wrong where an entry is looked for. -/
def Relational.absent {α : Type} (entry : Option α) : List Error :=
  if entry.isSome then [] else [.notFound]

private theorem Relational.eq_notFound_of_mem_absent {α : Type} {entry : Option α} {error : Error}
    (member : error ∈ absent entry) : error = .notFound := by
  unfold absent at member
  split at member
  · cases member
  · exact List.mem_singleton.mp member

private theorem Relational.settles_found {α : Type} (entry : Option α) :
    Settles (found entry) (absent entry) := by
  cases entry with
  | none => rfl
  | some entry => exact .ok entry

namespace Edit

/-- The text that a change gives as a label. -/
def label? : Edit → Option String
  | .createTag _ _ label _ | .replaceTag _ label _ | .createDocument _ _ label => some label
  | .updateTag _ patch => patch.label
  | _ => none

/-- The text that a change gives as a colour: the default one where a tag must have one. -/
def color? : Edit → Option String
  | .createTag _ _ _ color | .replaceTag _ _ color => some (color.getD defaultColor)
  | .updateTag _ patch => patch.color
  | _ => none

/-- What is wrong with what a change is to be made to. -/
def lacks (model : Relational) : Edit → List Error
  | .createTag .. | .createDocument .. => []
  | .replaceTag id .. | .updateTag id _ | .deleteTag id => Relational.absent (model.tags id)
  | .deleteDocument id => Relational.absent (model.documents id)
  | .attach tag document =>
    Relational.absent (model.documents document) ++ Relational.absent (model.tags tag)
  | .remove tag document => if model.attached tag document then [] else [.notFound]

private theorem eq_notFound_of_mem_lacks {model : Relational} {edit : Edit} {error : Error}
    (member : error ∈ edit.lacks model) : error = .notFound := by
  cases edit with
  | createTag | createDocument => cases member
  | replaceTag | updateTag | deleteTag | deleteDocument =>
    exact Relational.eq_notFound_of_mem_absent member
  | attach =>
    obtain paper | entry := List.mem_append.mp member
    · exact Relational.eq_notFound_of_mem_absent paper
    · exact Relational.eq_notFound_of_mem_absent entry
  | remove =>
    simp only [lacks] at member
    split at member
    · cases member
    · exact List.mem_singleton.mp member

/-- Of a change the label is checked, then the colour, and only then what it is to be made to. -/
theorem settles_make (edit : Edit) (model : Relational) :
    Settles (model.make edit) (edit.label?.elim [] labelFaults ++
      (edit.color?.elim [] colorFaults ++ edit.lacks model)) := by
  have found {α : Type} (entry : Option α) := Relational.settles_found entry
  cases edit with
  | createTag id now label color =>
    exact (settles_validLabel _).bind fun _ _ ↦ (settles_validColor _).bind fun _ _ ↦ .ok _
  | replaceTag id label color =>
    exact (settles_validLabel _).bind fun _ _ ↦ (settles_validColor _).bind fun _ _ ↦
      (found _).yield _
  | updateTag id patch =>
    exact (settles_mapM settles_validLabel _).bind fun _ _ ↦
      (settles_mapM settles_validColor _).bind fun _ _ ↦ (found _).yield _
  | deleteTag id => exact (found _).yield _
  | createDocument id now label => exact (settles_validLabel _).bind fun _ _ ↦ .ok _
  | deleteDocument id => exact (found _).yield _
  | attach tag document => exact (found _).bind fun _ _ ↦ (found _).yield _
  | remove tag document => exact .check _ _

/-- What a change gives as a label is one, once it has been trimmed. -/
def LabelFits (edit : Edit) : Prop :=
  ∀ text ∈ edit.label?, LabelForm (Text.trimmed text)

/-- What a change gives as a colour is one, once it has been trimmed. -/
def ColorFits (edit : Edit) : Prop :=
  ∀ text ∈ edit.color?, ColorForm (Text.trimmed text)

/-- What a change tells is an error exactly if it has failed with it. -/
theorem told_eq_error_iff {α : Type} (answer : α → Answer) (made : Except Error α × Catalog)
    (error : Error) : (told answer made).1 = .error error ↔ made.1 = .error error := by
  unfold told
  cases made.1 <;> simp [Except.map]

/-- A change is refused for what it gives. -/
def Refused (edit : Edit) (catalog : Catalog) (cause : Invalid) : Prop :=
  (edit.onCatalog catalog).1 = .error (.validation cause)

section

variable {edit : Edit} {catalog : Catalog}

/-- A change fails on a catalog with the error with which it fails on the tables. -/
theorem onCatalog_eq_error_iff (error : Error) :
    (edit.onCatalog catalog).1 = .error error ↔ catalog.view.make edit = .error error := by
  have answer : (edit.onCatalog catalog).1 = (edit.onModel catalog.view).1 :=
    congrArg Prod.fst (edit.agrees catalog)
  rw [answer, onModel]
  cases catalog.view.make edit with
  | ok made => simp
  | error other => simp

private theorem make_of_onCatalog {answer : Answer}
    (done : (edit.onCatalog catalog).1 = .ok answer) :
    catalog.view.make edit = .ok (answer, (edit.onCatalog catalog).2.view) := by
  have agrees : ((edit.onCatalog catalog).1, (edit.onCatalog catalog).2.view) =
    edit.onModel catalog.view := edit.agrees catalog
  rw [done, onModel] at agrees
  cases made : catalog.view.make edit with
  | ok pair =>
    rw [made] at agrees
    obtain ⟨told, left⟩ := Prod.mk.inj agrees
    rw [left, Except.ok.inj told]
  | error error =>
    rw [made] at agrees
    cases congrArg Prod.fst agrees

private theorem label_cases (edit : Edit) :
    edit.LabelFits ∧ edit.label?.elim [] labelFaults = [] ∨
      ¬ edit.LabelFits ∧ ∃ cause ∈ [Invalid.emptyLabel, .longLabel],
        edit.label?.elim [] labelFaults = [.validation cause] := by
  unfold LabelFits
  cases edit.label? with
  | none => exact .inl ⟨nofun, rfl⟩
  | some text => simpa using labelFaults_cases text

private theorem color_cases (edit : Edit) :
    edit.ColorFits ∧ edit.color?.elim [] colorFaults = [] ∨
      ¬ edit.ColorFits ∧ ∃ text,
        edit.color?.elim [] colorFaults = [.validation (.badColor text)] := by
  unfold ColorFits
  cases edit.color? with
  | none => exact .inl ⟨nofun, rfl⟩
  | some text =>
    obtain ⟨form, none⟩ | ⟨form, fault⟩ := colorFaults_cases text
    · exact .inl ⟨fun _ given ↦ Option.mem_some.mp given ▸ form, none⟩
    · exact .inr ⟨fun fits ↦ form (fits text rfl), _, fault⟩

private theorem refused_cases (edit : Edit) (catalog : Catalog) :
    (¬ edit.LabelFits ∧ ∃ cause ∈ [Invalid.emptyLabel, .longLabel],
      ∀ other, edit.Refused catalog other ↔ other = cause) ∨
    (edit.LabelFits ∧ ¬ edit.ColorFits ∧ ∃ text,
      ∀ other, edit.Refused catalog other ↔ other = .badColor text) ∨
    (edit.LabelFits ∧ edit.ColorFits ∧ ∀ cause, ¬ edit.Refused catalog cause) := by
  have refused (cause : Invalid) := (onCatalog_eq_error_iff (.validation cause)).trans
    ((edit.settles_make catalog.view).eq_error_iff _)
  obtain ⟨fits, label⟩ | ⟨fits, cause, short, label⟩ := edit.label_cases
  · obtain ⟨fits', color⟩ | ⟨fits', text, color⟩ := edit.color_cases
    · refine .inr (.inr ⟨fits, fits', fun cause failed ↦ ?_⟩)
      -- What is left to be wrong is that something is missing, which is no such cause.
      have first := (refused cause).mp failed
      rw [label, color, List.nil_append, List.nil_append] at first
      cases eq_notFound_of_mem_lacks (List.mem_of_head? first)
    · refine .inr (.inl ⟨fits, fits', text, fun other ↦ (refused other).trans ?_⟩)
      rw [label, color]
      simp [eq_comm]
  · refine .inl ⟨fits, cause, short, fun other ↦ (refused other).trans ?_⟩
    rw [label]
    simp [eq_comm]

end

/-! ### What a change stores -/

/-- The texts are those that the change gives, trimmed. -/
structure Gives (edit : Edit) (label color : String) : Prop where
  label : ∀ text ∈ edit.label?, label = Text.trimmed text
  color : ∀ text ∈ edit.color?, color = Text.trimmed text

/-- What a change gives is stored trimmed. A creation under an identifier that is in use stores
nothing. -/
def Stores (before after : Catalog) (edit : Edit) : Prop :=
  match edit with
  | .createTag id .. => before.tag? id = none →
    ∃ tag, after.tag? id = some tag ∧ edit.Gives tag.label tag.color
  | .replaceTag id .. | .updateTag id _ =>
    ∃ tag, after.tag? id = some tag ∧ edit.Gives tag.label tag.color
  | .createDocument id _ label => before.document? id = none →
    ∃ document, after.document? id = some document ∧ document.label = Text.trimmed label
  | _ => True

private theorem exists_tag_of_putTag {after : Catalog} {model : Relational} {id : Uuid}
    {entry : TagEntry} (left : after.view = model.putTag id entry) :
    ∃ tag, after.tag? id = some tag ∧ tag.label = entry.label ∧ tag.color = entry.color := by
  have stored : (after.tag? id).map Tag.entry = some entry := by
    change after.view.tags id = some entry
    rw [left]
    exact if_pos rfl
  obtain ⟨tag, found, rfl⟩ := Option.map_eq_some_iff.mp stored
  exact ⟨tag, found, rfl, rfl⟩

private theorem document?_of_putDocument {after : Catalog} {model : Relational} {id : Uuid}
    {document : Document} (left : after.view = model.putDocument id document) :
    after.document? id = some document := by
  change after.view.documents id = some document
  rw [left]
  exact if_pos rfl

private theorem Gives.of_valid {edit : Edit} {text given label color : String}
    (named : edit.label? = some text) (coloured : edit.color? = some given)
    (valid : validLabel text = .ok label) (valid' : validColor given = .ok color) :
    edit.Gives label color where
  label other same := by
    cases named.symm.trans same
    exact ((validLabel_eq_ok_iff text label).mp valid).2
  color other same := by
    cases coloured.symm.trans same
    exact ((validColor_eq_ok_iff given color).mp valid').2

private theorem stores_of_onCatalog {edit : Edit} {catalog : Catalog} {answer : Answer}
    (done : (edit.onCatalog catalog).1 = .ok answer) :
    edit.Stores catalog (edit.onCatalog catalog).2 := by
  have made := make_of_onCatalog done
  cases edit with
  | createTag id now text given =>
    intro absent
    obtain ⟨label, valid, made⟩ := exists_of_bind made
    obtain ⟨color, valid', made⟩ := exists_of_bind made
    obtain ⟨tag, found, same, same'⟩ :=
      exists_tag_of_putTag (congrArg Prod.snd (Except.ok.inj made)).symm
    rw [view_tags_none absent] at same same'
    refine ⟨tag, found, ?_⟩
    rw [same, same']
    exact .of_valid rfl rfl valid valid'
  | replaceTag id text given =>
    obtain ⟨label, valid, made⟩ := exists_of_bind made
    obtain ⟨color, valid', made⟩ := exists_of_bind made
    obtain ⟨entry, _, made⟩ := exists_of_bind made
    obtain ⟨tag, found, same, same'⟩ :=
      exists_tag_of_putTag (congrArg Prod.snd (Except.ok.inj made)).symm
    refine ⟨tag, found, ?_⟩
    rw [same, same']
    exact .of_valid rfl rfl valid valid'
  | updateTag id patch =>
    obtain ⟨label, valid, made⟩ := exists_of_bind made
    obtain ⟨color, valid', made⟩ := exists_of_bind made
    obtain ⟨entry, _, made⟩ := exists_of_bind made
    obtain ⟨tag, found, same, same'⟩ :=
      exists_tag_of_putTag (congrArg Prod.snd (Except.ok.inj made)).symm
    obtain ⟨_, rfl⟩ := (mapM_eq_ok_iff validLabel_eq_ok_iff).mp valid
    obtain ⟨_, rfl⟩ := (mapM_eq_ok_iff validColor_eq_ok_iff).mp valid'
    refine ⟨tag, found, fun text given ↦ ?_, fun text given ↦ ?_⟩
    · exact same.trans (getD_map_of_mem given entry.label)
    · exact same'.trans (getD_map_of_mem given entry.color)
  | createDocument id now text =>
    intro absent
    obtain ⟨label, valid, made⟩ := exists_of_bind made
    have found := document?_of_putDocument (congrArg Prod.snd (Except.ok.inj made)).symm
    have none : catalog.view.documents id = none := absent
    rw [none, Option.getD_none] at found
    exact ⟨_, found, ((validLabel_eq_ok_iff text label).mp valid).2⟩
  | _ => exact trivial

/-- What a change gives is checked: it is refused for its label exactly if that does not fit, and
with a label that fits for its colour exactly if that does not. What is taken is stored trimmed. -/
structure Checks (edit : Edit) (catalog : Catalog) : Prop where
  label : (¬ edit.Refused catalog .emptyLabel ∧ ¬ edit.Refused catalog .longLabel) ↔ edit.LabelFits
  color : edit.LabelFits → ((∀ text, ¬ edit.Refused catalog (.badColor text)) ↔ edit.ColorFits)
  both : (∀ cause, ¬ edit.Refused catalog cause) ↔ edit.LabelFits ∧ edit.ColorFits
  stores : ∀ answer, (edit.onCatalog catalog).1 = .ok answer →
    edit.Stores catalog (edit.onCatalog catalog).2

/-- Every change checks what it gives. -/
theorem checks (edit : Edit) (catalog : Catalog) : edit.Checks catalog := by
  obtain ⟨misfit, cause, short, refused⟩ | ⟨fits, misfit, text, refused⟩ | ⟨fits, fits', refused⟩ :=
    edit.refused_cases catalog
  · have told : edit.Refused catalog cause := (refused cause).mpr rfl
    refine ⟨iff_of_false ?_ misfit, fun fits ↦ absurd fits misfit, iff_of_false ?_ ?_,
      fun _ ↦ stores_of_onCatalog⟩
    · rintro ⟨nonempty, fitting⟩
      obtain rfl | rfl : cause = .emptyLabel ∨ cause = .longLabel := by simpa using short
      · exact nonempty told
      · exact fitting told
    · exact fun accepted ↦ accepted cause told
    · exact fun both ↦ misfit both.1
  · have told : edit.Refused catalog (.badColor text) := (refused _).mpr rfl
    have nothing_else (cause : Invalid) (other : cause ≠ .badColor text) :
        ¬ edit.Refused catalog cause := fun failed ↦ other ((refused cause).mp failed)
    refine ⟨iff_of_true ?_ fits, fun _ ↦ iff_of_false ?_ misfit, iff_of_false ?_ ?_,
      fun _ ↦ stores_of_onCatalog⟩
    · exact ⟨nothing_else _ nofun, nothing_else _ nofun⟩
    · exact fun accepted ↦ accepted text told
    · exact fun accepted ↦ accepted _ told
    · exact fun both ↦ misfit both.2
  · refine ⟨iff_of_true ?_ fits, fun _ ↦ iff_of_true ?_ fits', iff_of_true refused ⟨fits, fits'⟩,
      fun _ ↦ stores_of_onCatalog⟩
    · exact ⟨refused _, refused _⟩
    · exact fun _ ↦ refused _

end Edit

/-! ### Catalogs of valid records -/

/-- Every label and every colour in the tables has the form that is asked for. -/
structure Relational.Tidy (model : Relational) : Prop where
  label : ∀ id entry, model.tags id = some entry → LabelForm entry.label
  color : ∀ id entry, model.tags id = some entry → ColorForm entry.color
  document : ∀ id document, model.documents id = some document → LabelForm document.label

/-- Every label and every colour in the catalog has the form that is asked for. -/
structure Tidy (catalog : Catalog) : Prop where
  label : ∀ id tag, catalog.tag? id = some tag → LabelForm tag.label
  color : ∀ id tag, catalog.tag? id = some tag → ColorForm tag.color
  document : ∀ id document, catalog.document? id = some document → LabelForm document.label

/-- In an empty catalog nothing is stored. -/
theorem tidy_empty : Tidy ∅ :=
  ⟨by simp, by simp, by simp⟩

/-- A catalog is tidy if its tables are. -/
theorem tidy_view_iff (catalog : Catalog) : catalog.view.Tidy ↔ catalog.Tidy := by
  constructor
  · intro tidy
    exact ⟨fun id tag found ↦ tidy.label id tag.entry (view_tags found),
      fun id tag found ↦ tidy.color id tag.entry (view_tags found), tidy.document⟩
  · intro tidy
    refine ⟨fun id entry present ↦ ?_, fun id entry present ↦ ?_, tidy.document⟩
    all_goals obtain ⟨tag, found, rfl⟩ := Option.map_eq_some_iff.mp present
    · exact tidy.label id tag found
    · exact tidy.color id tag found

namespace Relational

section

variable {model left : Relational}

private theorem Tidy.putTag (tidy : model.Tidy) (id : Uuid) {entry : TagEntry}
    (label : LabelForm entry.label) (color : ColorForm entry.color) :
    (model.putTag id entry).Tidy := by
  refine ⟨fun other present found ↦ ?_, fun other present found ↦ ?_, tidy.document⟩
  all_goals
    simp only [Relational.putTag] at found
    split at found
  · cases found
    exact label
  · exact tidy.label other present found
  · cases found
    exact color
  · exact tidy.color other present found

private theorem Tidy.putDocument (tidy : model.Tidy) (id : Uuid) {document : Document}
    (label : LabelForm document.label) : (model.putDocument id document).Tidy := by
  refine ⟨tidy.label, tidy.color, fun other present found ↦ ?_⟩
  simp only [Relational.putDocument] at found
  split at found
  · cases found
    exact label
  · exact tidy.document other present found

private theorem Tidy.drop (tidy : model.Tidy)
    (tags : ∀ id entry, left.tags id = some entry → model.tags id = some entry)
    (documents : ∀ id document, left.documents id = some document →
      model.documents id = some document) : left.Tidy :=
  ⟨fun id entry found ↦ tidy.label id entry (tags id entry found),
    fun id entry found ↦ tidy.color id entry (tags id entry found),
    fun id document found ↦ tidy.document id document (documents id document found)⟩

/-- A change leaves the tables tidy. -/
theorem Tidy.make {edit : Edit} {answer : Edit.Answer} (tidy : model.Tidy)
    (made : model.make edit = .ok (answer, left)) : left.Tidy := by
  have label (text taken : String) (valid : validLabel text = .ok taken) : LabelForm taken :=
    ((validLabel_eq_ok_iff text taken).mp valid).1
  have color (text taken : String) (valid : validColor text = .ok taken) : ColorForm taken :=
    ((validColor_eq_ok_iff text taken).mp valid).1
  cases edit with
  | createTag id now text given =>
    obtain ⟨_, valid, made⟩ := exists_of_bind made
    obtain ⟨_, valid', made⟩ := exists_of_bind made
    cases made
    -- Under an identifier that is in use the tag stays, whatever is given.
    cases present : model.tags id with
    | none => exact tidy.putTag id (label _ _ valid) (color _ _ valid')
    | some entry => exact tidy.putTag id (tidy.label id entry present) (tidy.color id entry present)
  | replaceTag id text given =>
    obtain ⟨_, valid, made⟩ := exists_of_bind made
    obtain ⟨_, valid', made⟩ := exists_of_bind made
    obtain ⟨_, _, made⟩ := exists_of_bind made
    cases made
    exact tidy.putTag id (label _ _ valid) (color _ _ valid')
  | updateTag id patch =>
    obtain ⟨_, valid, made⟩ := exists_of_bind made
    obtain ⟨_, valid', made⟩ := exists_of_bind made
    obtain ⟨entry, there, made⟩ := exists_of_bind made
    cases made
    have present := eq_some_of_found there
    obtain ⟨fits, rfl⟩ := (mapM_eq_ok_iff validLabel_eq_ok_iff).mp valid
    obtain ⟨fits', rfl⟩ := (mapM_eq_ok_iff validColor_eq_ok_iff).mp valid'
    exact tidy.putTag id (getD_map_induction (tidy.label id entry present) fits)
      (getD_map_induction (tidy.color id entry present) fits')
  | deleteTag id =>
    obtain ⟨_, _, made⟩ := exists_of_bind made
    cases made
    refine tidy.drop (fun other entry found ↦ ?_) fun _ _ found ↦ found
    exact (Option.ite_none_left_eq_some.mp found).2
  | createDocument id now text =>
    obtain ⟨_, valid, made⟩ := exists_of_bind made
    cases made
    cases present : model.documents id with
    | none => exact tidy.putDocument id (label _ _ valid)
    | some document => exact tidy.putDocument id (tidy.document id document present)
  | deleteDocument id =>
    obtain ⟨_, _, made⟩ := exists_of_bind made
    cases made
    refine tidy.drop (fun _ _ found ↦ found) fun other document found ↦ ?_
    exact (Option.ite_none_left_eq_some.mp found).2
  | attach tag document =>
    obtain ⟨_, _, made⟩ := exists_of_bind made
    obtain ⟨_, _, made⟩ := exists_of_bind made
    cases made
    exact tidy.drop (fun _ _ found ↦ found) fun _ _ found ↦ found
  | remove tag document =>
    simp only [Relational.make] at made
    split at made
    · cases made
      exact tidy.drop (fun _ _ found ↦ found) fun _ _ found ↦ found
    · cases made

end

end Relational

/-- A change leaves the catalog tidy, whether it goes well or not. -/
theorem Edit.tidy {catalog : Catalog} (tidy : catalog.Tidy) (edit : Edit) :
    (edit.onCatalog catalog).2.Tidy := by
  have after : (edit.onCatalog catalog).2.view = (edit.onModel catalog.view).2 :=
    congrArg Prod.snd (edit.agrees catalog)
  rw [← tidy_view_iff] at tidy ⊢
  rw [after, onModel]
  split
  · next made => exact tidy.make made
  · exact tidy

end Catalog

end Tagging
