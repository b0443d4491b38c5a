import MessageCard.Proofs.ReportAccounting

/-! Pruned documents.  Pruning takes out of a document whatever left no node in its compilation:
entries of the body and of the columns of sets, and the header.
-/

namespace MessageCard

open Json

-----------------------------------------------------------------------------------------
-- Pruning
-----------------------------------------------------------------------------------------

/-- The fields with another value in the first field of a name. -/
def Json.setField (name : String) (value : Json) : Fields → Fields
  | [] => []
  | (key, old) :: rest =>
      if key = name then (key, value) :: rest else (key, old) :: setField name value rest

/-- The field that is set has the new value, if it was there, by induction over the fields. -/
theorem field?_setField_self (name : String) (value : Json) (fields : Fields)
    : field? (setField name value fields) name = (field? fields name).map fun _ => value := by
  induction fields with
  | nil => rfl
  | cons first rest ih =>
      rcases first with ⟨key, old⟩
      by_cases same : key = name
      · simp [setField, field?, same]
      · have other : (name == key) = false := by simpa using Ne.symm same
        simp only [field?] at ih
        simp only [setField, same, if_false, field?, List.lookup_cons, other, ih]

/-- Fields of other names keep their values, by induction over the fields. -/
theorem field?_setField_of_ne {name other : String} (different : other ≠ name) (value : Json)
    (fields : Fields)
    : field? (setField name value fields) other = field? fields other := by
  induction fields with
  | nil => rfl
  | cons first rest ih =>
      rcases first with ⟨key, old⟩
      simp only [field?] at ih
      by_cases same : key = name
      · have skipped : (other == key) = false := by simpa [same] using different
        simp only [setField, same, if_true, field?, List.lookup_cons]
        rw [← same, skipped]
      · simp only [setField, same, if_false, field?, List.lookup_cons, ih]

mutual

/-- The entry without what left no node in it: the columns of a set are pruned. -/
def Setting.pruneEntry (setting : Setting) (path : Path) (level : Nat) (entry : Json) : Json :=
  match entry with
  | .object fields =>
      match ((field? fields "tag").bind string?).bind ElementTag.ofName?,
        _found : field? fields "columns" with
      | some .columnSet, some (.array columns) =>
          .object (setField "columns"
            (.array (setting.pruneColumns (path.field "columns") level 0 columns)) fields)
      | _, _ => .object fields
  | other => other
termination_by sizeOf entry
decreasing_by exact sizeOf_lt_of_items _found

/-- The columns, pruned where they stand from an index on. -/
def Setting.pruneColumns (setting : Setting) (path : Path) (level index : Nat)
    : List Json → List Json
  | [] => []
  | column :: rest =>
      setting.pruneColumn (path.item index) level column
        :: setting.pruneColumns path level (index + 1) rest
termination_by columns => sizeOf columns
decreasing_by all_goals simp only [List.cons.sizeOf_spec]; omega

/-- The column with its entries pruned, if it has any. -/
def Setting.pruneColumn (setting : Setting) (path : Path) (level : Nat) (column : Json)
    : Json :=
  match column with
  | .object fields =>
      match found : field? fields "elements" with
      | some (.array entries) =>
          .object (setField "elements"
            (.array (setting.pruneEntries (path.field "elements") (level + 1) 0 entries))
            fields)
      | _ => .object fields
  | other => other
termination_by sizeOf column
decreasing_by exact sizeOf_lt_of_items found

/-- The entries that yield nodes where they stand from an index on, each of them pruned. -/
def Setting.pruneEntries (setting : Setting) (path : Path) (level index : Nat)
    : List Json → List Json
  | [] => []
  | entry :: rest =>
      match setting.yield? (path.item index) level entry with
      | some _ =>
          setting.pruneEntry (path.item index) level entry
            :: setting.pruneEntries path level (index + 1) rest
      | none => setting.pruneEntries path level (index + 1) rest
termination_by entries => sizeOf entries
decreasing_by all_goals simp only [List.cons.sizeOf_spec]; omega

end

/-- The document without what left no node in its compilation: a header without a node is left
out, and a body that is no array becomes an empty one.
-/
def Document.prune (document : Document) (options : Options) : Document where
  config := document.config
  header := document.header.filter fun header =>
    ((Header.ofJson header).compile (document.setting options)).result?.isSome
  elements := some (.array ((document.setting options).pruneEntries Path.body 1 0
    ((document.elements.bind array?).getD [])))
  sourceId := document.sourceId

variable {setting : Setting} {path : Path} {level : Nat}

/-- A set with an array of columns is pruned column by column. -/
theorem pruneEntry_of_columns {fields : Fields} {columns : List Json}
    (named : field? fields "tag" = some (.string ElementTag.columnSet.name))
    (listed : field? fields "columns" = some (.array columns))
    : setting.pruneEntry path level (.object fields)
      = .object (setField "columns"
          (.array (setting.pruneColumns (path.field "columns") level 0 columns)) fields) := by
  rw [Setting.pruneEntry]
  split
  · rename_i again
    cases listed.symm.trans again
    rfl
  · rename_i excluded
    exact (excluded columns (elementTag_found_iff.mpr named) listed).elim

/-- An element with any other tag stays as it is. -/
theorem pruneEntry_of_tag {fields : Fields} {tag : ElementTag} (single : tag ≠ .columnSet)
    (named : field? fields "tag" = some (.string tag.name))
    : setting.pruneEntry path level (.object fields) = .object fields := by
  rw [Setting.pruneEntry]
  split
  · rename_i isSet _
    cases (elementTag_found_iff.mpr named).symm.trans isSet
    exact (single rfl).elim
  · rfl

/-- The entries of a pruned column are its pruned entries. -/
theorem columnEntries?_pruneColumn {column : Json} {entries : List Json}
    (shaped : column.columnEntries? = some entries)
    : (setting.pruneColumn path level column).columnEntries?
      = some (setting.pruneEntries (path.field "elements") (level + 1) 0 entries) := by
  cases column with
  | object fields =>
      rw [Setting.pruneColumn]
      split
      · rename_i inner found
        obtain rfl : inner = entries := by simpa [columnEntries?, found] using shaped
        simp only [columnEntries?, field?_setField_self, found, Option.map_some]
      · rename_i excluded
        have none : entries = [] := by
          simp only [columnEntries?] at shaped
          split at shaped <;> simp_all
        rw [shaped, none, Setting.pruneEntries]
  | _ => cases shaped

end MessageCard
