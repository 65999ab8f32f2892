import Tagging.Proofs.Catalog.Amendment
import Tagging.Proofs.Catalog.Checking

/-!
# Patches

A patch is checked as a whole before anything is written, so that a tag gets all that the patch
gives or nothing. To replace a tag is to patch both of its fields, and two patches one after the
other are one that gives what either gives, the later one first.
-/

namespace Tagging

/-! ### Patches and their merging -/

namespace TagPatch

/-- What a patch gives is a label and a colour, once it has been trimmed. -/
structure Valid (patch : TagPatch) : Prop where
  label : ∀ text ∈ patch.label, LabelForm (Text.trimmed text)
  color : ∀ text ∈ patch.color, ColorForm (Text.trimmed text)

/-- The patch that gives what either of two gives, the later one first. -/
def merge (earlier later : TagPatch) : TagPatch :=
  ⟨later.label.or earlier.label, later.color.or earlier.color⟩

/-- A patch merged with itself is the same patch. -/
theorem merge_self (patch : TagPatch) : patch.merge patch = patch := by
  simp [merge]

private theorem forall_mem_or {property : String → Prop} {later earlier : Option String}
    (first : ∀ text ∈ later, property text) (second : ∀ text ∈ earlier, property text) :
    ∀ text ∈ later.or earlier, property text := by
  cases later with
  | none => exact second
  | some text => exact first

/-- Valid patches are merged into a valid one. -/
theorem Valid.merge {earlier later : TagPatch} (valid : earlier.Valid) (valid' : later.Valid) :
    (earlier.merge later).Valid :=
  ⟨forall_mem_or valid'.label valid.label, forall_mem_or valid'.color valid.color⟩

end TagPatch

/-- A tag with the fields that a patch gives, trimmed. -/
def Tag.patched (tag : Tag) (patch : TagPatch) : Tag :=
  tag.relabel (patch.label.map Text.trimmed) (patch.color.map Text.trimmed)

/-- A tag patched twice is patched with the merged patch. -/
theorem Tag.patched_merge (tag : Tag) (earlier later : TagPatch) :
    tag.patched (earlier.merge later) = (tag.patched earlier).patched later := by
  have last (first second : Option String) (former : String) :
      ((second.or first).map Text.trimmed).getD former =
        (second.map Text.trimmed).getD ((first.map Text.trimmed).getD former) := by
    cases second <;> rfl
  simp only [patched, relabel, TagPatch.merge, last]

namespace Catalog

variable (catalog : Catalog) (id : Uuid)

/-! ### What comes of a patch -/

private theorem updateTag_of_valid {patch : TagPatch} (valid : patch.Valid) :
    catalog.updateTag id patch =
      match catalog.tag? id with
      | none => (.error .notFound, catalog)
      | some tag => (.ok (tag.patched patch), catalog.putTag id (tag.patched patch)) := by
  have label := (mapM_eq_ok_iff validLabel_eq_ok_iff).mpr ⟨valid.label, rfl⟩
  have color := (mapM_eq_ok_iff validColor_eq_ok_iff).mpr ⟨valid.color, rfl⟩
  rw [updateTag, label, color]
  rfl

private theorem exists_updateTag_of_not_valid {patch : TagPatch} (invalid : ¬ patch.Valid) :
    ∃ cause, catalog.updateTag id patch = (.error (.validation cause), catalog) := by
  have refused : ∃ cause, (Edit.updateTag id patch).Refused catalog cause := by
    by_contra accepted
    have fits := ((Edit.updateTag id patch).checks catalog).both.mp (not_exists.mp accepted)
    exact invalid ⟨fits.1, fits.2⟩
  obtain ⟨cause, told⟩ := refused
  have failed := (Edit.told_eq_error_iff _ _ _).mp told
  exact ⟨cause, Prod.ext failed ((catalog.confined_updateTag id patch).unchanged _ failed)⟩

private theorem updateTag_of_absent {patch : TagPatch} (valid : patch.Valid)
    (absent : catalog.tag? id = none) :
    catalog.updateTag id patch = (.error .notFound, catalog) := by
  rw [updateTag_of_valid catalog id valid, absent]

private theorem updateTag_of_found {patch : TagPatch} (valid : patch.Valid) {tag : Tag}
    (found : catalog.tag? id = some tag) :
    catalog.updateTag id patch =
      (.ok (tag.patched patch), catalog.putTag id (tag.patched patch)) := by
  rw [updateTag_of_valid catalog id valid, found]

private theorem updateTag_cases (patch : TagPatch) :
    (¬ patch.Valid ∧ ∃ cause, catalog.updateTag id patch = (.error (.validation cause), catalog)) ∨
    (patch.Valid ∧ catalog.tag? id = none ∧
      catalog.updateTag id patch = (.error .notFound, catalog)) ∨
    (patch.Valid ∧ ∃ tag, catalog.tag? id = some tag ∧
      catalog.updateTag id patch =
        (.ok (tag.patched patch), catalog.putTag id (tag.patched patch))) := by
  by_cases valid : patch.Valid
  · cases found : catalog.tag? id with
    | none => exact .inr (.inl ⟨valid, rfl, catalog.updateTag_of_absent id valid found⟩)
    | some tag => exact .inr (.inr ⟨valid, tag, rfl, catalog.updateTag_of_found id valid found⟩)
  · exact .inl ⟨valid, catalog.exists_updateTag_of_not_valid id valid⟩

/-- To replace a tag is to patch its label and its colour, the default one if none is given. -/
theorem replaceTag_eq_updateTag (label : String) (color : Option String) :
    catalog.replaceTag id label color =
      catalog.updateTag id ⟨some label, some (color.getD defaultColor)⟩ := by
  rw [replaceTag, updateTag, Option.mapM_some, Option.mapM_some]
  cases validLabel label with
  | error error => rfl
  | ok label => cases validColor (color.getD defaultColor) <;> rfl

/-! ### What is stored again -/

/-- What is stored in a catalog is accepted again, and stays as it is. -/
structure TakesAgain (catalog : Catalog) : Prop where
  updateTag : ∀ id tag, catalog.tag? id = some tag → ∀ patch : TagPatch,
    (∀ text ∈ patch.label, text = tag.label) → (∀ text ∈ patch.color, text = tag.color) →
    catalog.updateTag id patch = (.ok tag, catalog)
  replaceTag : ∀ id tag, catalog.tag? id = some tag →
    catalog.replaceTag id tag.label (some tag.color) = (.ok tag, catalog)
  createTag : ∀ id tag, catalog.tag? id = some tag → ∀ other now, catalog.tag? other = none →
    catalog.createTag other now tag.label (some tag.color) =
      (.ok ⟨other, tag.label, tag.color, now, ∅⟩,
        catalog.putTag other ⟨other, tag.label, tag.color, now, ∅⟩)
  createDocument : ∀ id document, catalog.document? id = some document →
    ∀ other now, catalog.document? other = none →
    catalog.createDocument other now document.label =
      (.ok ⟨other, document.label, now⟩, catalog.putDocument other ⟨other, document.label, now⟩)

/-- A tag in a tidy catalog takes a patch that gives its own fields, and stays as it is. -/
theorem Tidy.updateTag_self {catalog : Catalog} (tidy : catalog.Tidy) {id : Uuid} {tag : Tag}
    (found : catalog.tag? id = some tag) {patch : TagPatch}
    (label : ∀ text ∈ patch.label, text = tag.label)
    (color : ∀ text ∈ patch.color, text = tag.color) :
    catalog.updateTag id patch = (.ok tag, catalog) := by
  have labelForm := tidy.label id tag found
  have colorForm := tidy.color id tag found
  have valid : patch.Valid := by
    refine ⟨fun text given ↦ ?_, fun text given ↦ ?_⟩
    · rw [label text given, labelForm.trimmed]
      exact labelForm
    · rw [color text given, colorForm.trimmed_eq]
      exact colorForm
  have own (given : Option String) (field : String) (same : ∀ text ∈ given, text = field)
      (trimmed : Text.trimmed field = field) : (given.map Text.trimmed).getD field = field := by
    cases given with
    | none => rfl
    | some text => rw [same text rfl, Option.map_some, trimmed, Option.getD_some]
  have same : tag.patched patch = tag := by
    rw [Tag.patched, Tag.relabel, own _ _ label labelForm.trimmed,
      own _ _ color colorForm.trimmed_eq]
  rw [updateTag_of_found catalog id valid found, same, putTag_self found]

/-- In a tidy catalog whatever is stored is accepted again. -/
theorem Tidy.takesAgain {catalog : Catalog} (tidy : catalog.Tidy) : catalog.TakesAgain where
  updateTag id tag found patch := tidy.updateTag_self found
  replaceTag id tag found := by
    rw [replaceTag_eq_updateTag]
    refine tidy.updateTag_self found ?_ ?_
    · rintro _ ⟨⟩
      rfl
    · rintro _ ⟨⟩
      rfl
  createTag id tag found other now absent := by
    rw [Catalog.createTag, (tidy.label id tag found).validLabel_eq, Option.getD_some,
      (tidy.color id tag found).validColor_eq, absent]
  createDocument id document found other now absent := by
    rw [Catalog.createDocument, (tidy.document id document found).validLabel_eq, absent]

/-! ### The laws of patches -/

/-- Of valid patches the later one may be made after the earlier one, or both at once. -/
theorem updateTag_updateTag {earlier later : TagPatch} (valid : earlier.Valid)
    (valid' : later.Valid) :
    (catalog.updateTag id earlier).2.updateTag id later =
      catalog.updateTag id (earlier.merge later) := by
  have both := valid.merge valid'
  cases found : catalog.tag? id with
  | none =>
    rw [updateTag_of_absent _ _ both found, updateTag_of_absent _ _ valid found,
      updateTag_of_absent _ _ valid' found]
  | some tag =>
    have stands : (catalog.putTag id (tag.patched earlier)).tag? id =
        some (tag.patched earlier) := by
      rw [tag?_putTag, if_pos rfl]
    rw [updateTag_of_found _ _ both found, updateTag_of_found _ _ valid found,
      updateTag_of_found _ _ valid' stands, Tag.patched_merge, putTag_putTag]

/-- What patches make of a tag. -/
structure Patches : Prop where
  /-- To replace a tag is to patch both of its fields. -/
  replace : ∀ label color,
    catalog.replaceTag id label color =
      catalog.updateTag id ⟨some label, some (color.getD defaultColor)⟩
  succeeds : ∀ patch, (∃ tag, (catalog.updateTag id patch).1 = .ok tag) ↔
    patch.Valid ∧ (catalog.tag? id).isSome
  /-- Only what is given changes, and only in one tag. -/
  changes : ∀ patch tag left, catalog.updateTag id patch = (.ok tag, left) →
    ∃ before, catalog.tag? id = some before ∧
      tag = { before with
        label := (patch.label.map Text.trimmed).getD before.label
        color := (patch.color.map Text.trimmed).getD before.color } ∧
      left.tag? id = some tag ∧ catalog.SameBut (.tag id) left
  refused : ∀ patch, ¬ patch.Valid → ∃ cause,
    catalog.updateTag id patch = (.error (.validation cause), catalog)
  fails : ∀ patch error, (catalog.updateTag id patch).1 = .error error →
    (catalog.updateTag id patch).2 = catalog
  again : ∀ patch,
    (catalog.updateTag id patch).2.updateTag id patch = catalog.updateTag id patch
  merge : ∀ earlier later, earlier.Valid → later.Valid →
    (catalog.updateTag id earlier).2.updateTag id later =
      catalog.updateTag id (earlier.merge later)

/-- Patches obey their laws in every catalog, whatever they give. -/
theorem patches : Patches catalog id where
  replace := catalog.replaceTag_eq_updateTag id
  succeeds patch := by
    obtain ⟨invalid, cause, refused⟩ | ⟨valid, absent, refused⟩ | ⟨valid, tag, found, done⟩ :=
      catalog.updateTag_cases id patch
    · refine iff_of_false ?_ fun accepted ↦ invalid accepted.1
      simp [refused]
    · simp [refused, absent]
    · exact iff_of_true ⟨_, congrArg Prod.fst done⟩ ⟨valid, by rw [found]; rfl⟩
  changes patch tag left made := by
    obtain ⟨_, cause, refused⟩ | ⟨_, _, refused⟩ | ⟨_, before, found, done⟩ :=
      catalog.updateTag_cases id patch
    · cases refused.symm.trans made
    · cases refused.symm.trans made
    · cases done.symm.trans made
      refine ⟨before, found, rfl, ?_, .of_without (catalog.without_putTag id _)⟩
      rw [tag?_putTag, if_pos rfl]
  refused patch := catalog.exists_updateTag_of_not_valid id
  fails patch := (catalog.confined_updateTag id patch).unchanged
  again patch := by
    by_cases valid : patch.Valid
    · rw [catalog.updateTag_updateTag id valid valid, TagPatch.merge_self]
    · obtain ⟨cause, refused⟩ := catalog.exists_updateTag_of_not_valid id valid
      rw [refused]
      exact refused
  merge earlier later := catalog.updateTag_updateTag id

/-- A tag gets a label and then a colour, or both at once. -/
theorem patches_blue :
    let id := Uuid.ofNat 1
    let tag : Tag := ⟨id, "red", defaultColor, Instant.origin, ∅⟩
    let label : TagPatch := ⟨some " blue\u3000", none⟩
    let color : TagPatch := ⟨none, some "#0000ff "⟩
    let catalog := Catalog.putTag ∅ id tag
    label.Valid ∧ color.Valid ∧
      (catalog.updateTag id label).2.updateTag id color =
        (.ok { tag with label := "blue", color := "#0000ff" },
          catalog.putTag id { tag with label := "blue", color := "#0000ff" }) := by
  intro id tag label color catalog
  have valid : label.Valid := by
    refine ⟨?_, nofun⟩
    rintro _ ⟨⟩
    exact ⟨by decide, by decide, by decide⟩
  have valid' : color.Valid := by
    refine ⟨nofun, ?_⟩
    rintro _ ⟨⟩
    exact (isColor_toList_iff _).mp (by decide)
  have both := (patches catalog id).merge label color valid valid'
  refine ⟨valid, valid', both.trans ?_⟩
  rfl

end Catalog

end Tagging
