import MetricLayer.Proofs.Store.Held

/-!
# Tables of a content

What is kept in memory can be kept in tables: each record in one row with every cell set, the
parts of reports numbered from one, and values that are kept as JSON as they are written. The
tables hold the content if JSON that is written is read back.
-/
namespace MetricLayer

/-! ### Rows as they are written -/

def Fact.row (f : Fact) : FactRow :=
  ⟨f.id, f.connectionId, f.name, f.table, f.column, f.aggregation.name⟩

def ReportColumn.row (c : ReportColumn) (id reportId : Int) : ReportColumnRow :=
  ⟨id, reportId, c.column, c.label, c.dataType, some c.visible, some c.order⟩

def ReportFilter.row (f : ReportFilter) (id reportId : Int) : ReportFilterRow :=
  ⟨id, reportId, f.column, f.operator, some (Json.write f.value), some f.editable, some f.order⟩

def DrillTarget.row (t : DrillTarget) (id reportId : Int) : DrillRow :=
  ⟨id, reportId, t.reportId, some (Json.write t.stored), t.label⟩

lemma Aggregation.upper_name (a : Aggregation) : Text.upper a.name = a.name := by
  cases a <;> decide +kernel

namespace Memory

/-- Parts of the reports, each with the id of its report. -/
def partsOf {α : Type} (m : Memory) (parts : Report → List α) : List (Int × α) :=
  m.reports.flatMap fun x => (parts x).map (x.id, ·)

/-- A table of parts of the reports, numbered from one. -/
def partRows {α β : Type} (m : Memory) (parts : Report → List α) (row : α → Int → Int → β) :
    List β :=
  ((m.partsOf parts).zipIdx 1).map fun e => row e.1.2 e.2 e.1.1

/-- The tables of a content. -/
def tables (m : Memory) : Relational where
  connections := m.connections
  facts := m.facts.map Fact.row
  dimensions := m.dimensions
  mappings := m.mappings
  kpis := m.kpis
  reports := m.reports.map Report.row
  reportColumns := m.partRows (·.columns) ReportColumn.row
  reportFilters := m.partRows (·.filters) ReportFilter.row
  drills := m.partRows (·.drillTargets) DrillTarget.row

/-- The values that are kept as JSON are read back from it. -/
structure ReadsBack (m : Memory) : Prop where
  filters : ∀ x ∈ m.reports, ∀ f ∈ x.filters, Json.ReadsBack f.value
  drills : ∀ x ∈ m.reports, ∀ t ∈ x.drillTargets, Json.ReadsBack t.stored

section
variable {m : Memory} {x : Report} {α β : Type} {parts : Report → List α}
  {row : α → Int → Int → β} {id reportId : β → Int}

/-- The parts of one report among those of all. -/
lemma Ordered.filter_partsOf (hm : m.Ordered) (hx : x ∈ m.reports) :
    (m.partsOf parts).filter (·.1 == x.id) = (parts x).map (x.id, ·) := by
  have hreports : m.reports.filter (·.id == x.id) = [x] :=
    filter_key_eq_singleton (nodup_of_ascending hm.reports) hx
  have hparts : ∀ reports : List Report,
      (reports.flatMap fun y => (parts y).map (y.id, ·)).filter (·.1 == x.id) =
        (reports.filter (·.id == x.id)).flatMap fun y => (parts y).map (y.id, ·) := by
    intro reports
    induction reports with
    | nil => rfl
    | cons y reports ih =>
      rw [List.flatMap_cons, List.filter_append, ih, List.filter_map, List.filter_cons]
      cases hy : y.id == x.id <;> simp [Function.comp_def, hy]
  rw [partsOf, hparts, hreports, List.flatMap_singleton]

/-- The rows of the parts of a report are in the order of their ids. -/
lemma Ordered.sortById_partRows (hm : m.Ordered) (hx : x ∈ m.reports)
    (hid : ∀ c i j, id (row c i j) = i) (hreport : ∀ c i j, reportId (row c i j) = j) :
    List.Forall₂ (fun c b => ∃ i, b = row c i x.id) (parts x)
      (sortById id ((m.partRows parts row).filter (reportId · == x.id))) := by
  have hascending : (m.partRows parts row).Pairwise fun a b => id a < id b := by
    have hnumbers : (((m.partsOf parts).zipIdx 1).map Prod.snd).Pairwise (· < ·) := by
      rw [List.zipIdx_map_snd]
      exact List.pairwise_lt_range' 1
    rw [partRows, List.pairwise_map]
    refine (List.pairwise_map.mp hnumbers).imp fun hlt => ?_
    rw [hid, hid]
    exact Int.ofNat_lt.mpr hlt
  let mine := ((m.partsOf parts).zipIdx 1).filter (·.1.1 == x.id)
  have hrows : (m.partRows parts row).filter (reportId · == x.id) =
      mine.map fun e => row e.1.2 e.2 e.1.1 := by
    rw [partRows, List.filter_map]
    simp only [Function.comp_def, hreport]
    rfl
  have hmine : mine.map Prod.fst = (parts x).map (x.id, ·) := by
    rw [← hm.filter_partsOf hx, ← List.zipIdx_map_fst 1 (m.partsOf parts)]
    rw [List.filter_map]
    rfl
  rw [sortById_of_ascending (hascending.filter _), hrows, List.forall₂_map_right_iff]
  rw [← List.forall₂_eq_eq_eq, List.forall₂_map_left_iff, List.forall₂_map_right_iff] at hmine
  refine hmine.flip.imp fun c e he => ⟨e.2, ?_⟩
  have hpart : e.1 = (x.id, c) := he
  rw [hpart]

/-- The tables of a content hold it. -/
theorem Ordered.holds_tables (hm : m.Ordered) (hread : m.ReadsBack) : m.tables.Holds m where
  connections := ⟨_, List.forall₂_same.mpr fun _ _ => ⟨.same _, rfl⟩, .refl _⟩
  facts := by
    refine ⟨_, List.forall₂_map_right_iff.mpr (List.forall₂_same.mpr fun f _ => ?_), .refl _⟩
    exact ⟨f.aggregation.upper_name, rfl⟩
  dimensions := .refl _
  kpis := .refl _
  mappings := .refl _
  reports := .refl _
  columns x hx := by
    refine (hm.sortById_partRows hx (fun _ _ _ => rfl) fun _ _ _ => rfl).imp ?_
    rintro c _ ⟨i, rfl⟩
    exact ⟨rfl, rfl, rfl, .set _, .set _⟩
  filters x hx := by
    have hrows : List.Forall₂ (fun f b => ∃ i, b = ReportFilter.row f i x.id) x.filters
        (sortById (·.id) (m.tables.reportFilters.filter (·.reportId == x.id))) :=
      hm.sortById_partRows hx (fun _ _ _ => rfl) fun _ _ _ => rfl
    refine ((List.forall₂_and_left _ _).mpr ⟨hread.filters x hx, hrows⟩).imp ?_
    rintro f _ ⟨hf, i, rfl⟩
    exact ⟨rfl, rfl, hf.isJsonCell, .set _, .set _⟩
  drills x hx := by
    have hrows : List.Forall₂ (fun t b => ∃ i, b = DrillTarget.row t i x.id) x.drillTargets
        (sortById (·.id) (m.tables.drills.filter (·.reportId == x.id))) :=
      hm.sortById_partRows hx (fun _ _ _ => rfl) fun _ _ _ => rfl
    refine ((List.forall₂_and_left _ _).mpr ⟨hread.drills x hx, hrows⟩).imp ?_
    rintro t _ ⟨ht, i, rfl⟩
    exact ⟨rfl, rfl, .inl ht.isJsonCell⟩

lemma isSome_of_mem_partRows {order : β → Option Int}
    (horder : ∀ c i j, (order (row c i j)).isSome) {b : β} (hb : b ∈ m.partRows parts row) :
    (order b).isSome := by
  obtain ⟨e, _, rfl⟩ := List.mem_map.mp hb
  exact horder _ _ _

/-- Every number in the tables of a content is set, and ties are in the order of the ids. -/
theorem tiesById_tables (m : Memory) : m.tables.TiesById where
  columns _ := Arrangement.tiesById_byId fun _ hb =>
    isSome_of_mem_partRows (fun _ _ _ => rfl) (List.mem_of_mem_filter hb)
  filters _ := Arrangement.tiesById_byId fun _ hb =>
    isSome_of_mem_partRows (fun _ _ _ => rfl) (List.mem_of_mem_filter hb)

end

end Memory

end MetricLayer
