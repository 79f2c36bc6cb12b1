import MetricLayer.Proofs.Fault
import MetricLayer.Store.Relational
import MetricLayer.Value.JsonText

/-!
# Rows of records

A record may be kept in more than one row. A cell that was never set stands for its default, an
empty schema for none, and an aggregation is known in letters of either case. Filter values and
the mappings of links are JSON, or in old rows bare texts. Whichever row a record is kept in, the
record is read from it.
-/
namespace MetricLayer

/-! ### Cells -/

/-- The cells for a value with a default. -/
inductive IsCell {α : Type} (default : α) : α → Option α → Prop
  | set (v : α) : IsCell default v (some v)
  | unset : IsCell default default none

/-- The cells for a value kept as JSON. -/
inductive IsJsonCell : Value → Option String → Prop
  | encoded {v : Value} {s : String} (h : Json.read s = .ok v) : IsJsonCell v (some s)
  | unset : IsJsonCell .null none
  | bare {s : String} (h : Json.read s = .error .malformed) : IsJsonCell (.str s) (some s)

/-- The cells for the name of a schema. -/
inductive IsSchemaCell : Option String → Option String → Prop
  | same (name : Option String) : IsSchemaCell name name
  | empty : IsSchemaCell none (some "")

/-- Whether a value is read back from the text it is written as. -/
def Json.ReadsBack (v : Value) : Prop := Json.read (Json.write v) = .ok v

lemma Json.ReadsBack.isJsonCell {v : Value} (h : Json.ReadsBack v) :
    IsJsonCell v (some (Json.write v)) :=
  .encoded h

lemma IsCell.read {α : Type} {default v : α} {cell : Option α} (h : IsCell default v cell) :
    cell.getD default = v := by
  cases h <;> rfl

lemma IsJsonCell.read {v : Value} {cell : Option String} (h : IsJsonCell v cell) :
    storedValue cell = .ok v := by
  cases h with
  | encoded h => rw [storedValue, h]
  | unset => rfl
  | bare h => rw [storedValue, h]

lemma IsSchemaCell.read {name cell : Option String} (h : IsSchemaCell name cell) :
    cell.filter (!·.isEmpty) = name.filter (!·.isEmpty) := by
  cases h <;> rfl

/-! ### Rows -/

/-- The mapping of a link as it is kept. -/
def DrillTarget.stored (t : DrillTarget) : Value :=
  Value.record (t.mapping.map fun e => (e.1, .str e.2))

/-- The rows of a connection. -/
structure Connection.IsRow (c row : Connection) : Prop where
  schema : IsSchemaCell c.selectedDb row.selectedDb
  fields : row = { c with selectedDb := row.selectedDb }

/-- The rows of a fact. -/
structure Fact.IsRow (f : Fact) (row : FactRow) : Prop where
  aggregation : Text.upper row.aggregation = f.aggregation.name
  fields : row = ⟨f.id, f.connectionId, f.name, f.table, f.column, row.aggregation⟩

/-- The row of a report without its parts. -/
def Report.row (x : Report) : ReportRow :=
  ⟨x.id, x.ownerId, x.connectionId, x.name, x.description, x.table⟩

/-- The rows of a column of a report. -/
structure ReportColumn.IsRow (c : ReportColumn) (row : ReportColumnRow) : Prop where
  column : row.column = c.column
  label : row.label = c.label
  dataType : row.dataType = c.dataType
  visible : IsCell false c.visible row.visible
  order : IsCell 0 c.order row.order

/-- The rows of a filter of a report. -/
structure ReportFilter.IsRow (f : ReportFilter) (row : ReportFilterRow) : Prop where
  column : row.column = f.column
  operator : row.operator = f.operator
  value : IsJsonCell f.value row.value
  editable : IsCell false f.editable row.editable
  order : IsCell 0 f.order row.order

/-- The rows of a link. One that maps nothing may have any mapping that counts as none. -/
structure DrillTarget.IsRow (t : DrillTarget) (row : DrillRow) : Prop where
  target : row.targetId = t.reportId
  label : row.label = t.label
  mapping : IsJsonCell t.stored row.mapping ∨
    t.mapping = [] ∧ ∃ v, v.isFalsy ∧ IsJsonCell v row.mapping

/-! ### Reading rows -/

lemma Connection.IsRow.sessionSchema? {c row : Connection} (h : c.IsRow row) :
    row.sessionSchema? = c.sessionSchema? :=
  h.schema.read

/-- A schema that has a name is the one that sessions are set to. -/
lemma Connection.sessionSchema?_of_ne {c : Connection} (h : c.selectedDb ≠ some "") :
    c.sessionSchema? = c.selectedDb := by
  unfold Connection.sessionSchema?
  cases hdb : c.selectedDb with
  | none => rfl
  | some name =>
    rw [hdb] at h
    simpa [Option.filter] using fun hempty => h (by rw [hempty])

lemma Aggregation.ofName?_name (a : Aggregation) : ofName? a.name = some a := by
  cases a <;> rfl

lemma Fact.IsRow.read {f : Fact} {row : FactRow} (h : f.IsRow row) : row.read = .ok f := by
  have hcheck : Aggregation.check (.str row.aggregation) = .passed f.aggregation := by
    simp only [Aggregation.check, h.aggregation, Aggregation.ofName?_name]
  unfold FactRow.read
  rw [hcheck, h.fields]
  rfl

lemma ReportColumn.IsRow.read {c : ReportColumn} {row : ReportColumnRow} (h : c.IsRow row) :
    row.read = c := by
  rw [ReportColumnRow.read, h.column, h.label, h.dataType, h.visible.read, h.order.read]

lemma ReportFilter.IsRow.read {f : ReportFilter} {row : ReportFilterRow} (h : f.IsRow row) :
    row.read = .ok f := by
  rw [ReportFilterRow.read, h.value.read, h.column, h.operator, h.editable.read, h.order.read]
  rfl

lemma entries_texts (es : List (String × String)) :
    Check.entries Check.string (es.map fun e => (Value.str e.1, Value.str e.2)) = .passed es := by
  induction es with
  | nil => rfl
  | cons e es ih =>
    rw [List.map_cons, Check.entries, ih]
    rfl

lemma DrillTarget.stored_eq (t : DrillTarget) :
    t.stored = .map (t.mapping.map fun e => (.str e.1, .str e.2)) := by
  rw [stored, Value.record, List.map_map]
  rfl

lemma DrillTarget.IsRow.read {t : DrillTarget} {row : DrillRow} (h : t.IsRow row) :
    row.read = .ok t := by
  obtain ⟨v, hvalue, hmapping⟩ : ∃ v, storedValue row.mapping = .ok v ∧
      Check.mapping Check.string (if v.isFalsy then .map [] else v) = .passed t.mapping := by
    rcases h.mapping with hcell | ⟨hnone, v, hfalsy, hcell⟩
    · refine ⟨t.stored, hcell.read, ?_⟩
      have hstored : (if t.stored.isFalsy then .map [] else t.stored) = t.stored := by
        rw [t.stored_eq]
        cases t.mapping <;> rfl
      rw [hstored, t.stored_eq]
      exact entries_texts _
    · refine ⟨v, hcell.read, ?_⟩
      rw [if_pos hfalsy, hnone]
      rfl
  unfold DrillRow.read
  rw [hvalue, h.target, h.label]
  show ((Check.mapping Check.string (if v.isFalsy then .map [] else v)).under
    (.key "mapping")).orFault >>= _ = _
  rw [hmapping]
  rfl

end MetricLayer
