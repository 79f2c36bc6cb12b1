import MetricLayer.Proofs.Store.Cells
import MetricLayer.Proofs.Store.Connection

/-!
# Content held by both kinds of store

What is kept in memory can be kept in the rows of tables, which may be listed in any order. Both
stores then hold the same of every connection, and they go on to do so when a mapping is stored
in both. A report is read from tables with its parts in another order. If columns and filters of
one number come in the order in which they were added, that order does not matter.
-/
namespace MetricLayer

/-! ### Contents -/

/-- Ids ascend in the order of the records, those of mappings from one without gaps, and a pair
is mapped once. -/
structure Memory.Ordered (m : Memory) : Prop where
  connections : m.connections.Pairwise fun a b => a.id < b.id
  facts : m.facts.Pairwise fun a b => a.id < b.id
  dimensions : m.dimensions.Pairwise fun a b => a.id < b.id
  kpis : m.kpis.Pairwise fun a b => a.id < b.id
  reports : m.reports.Pairwise fun a b => a.id < b.id
  mappings : m.mappings.map (·.id) =
    (List.range m.mappings.length).map fun n : Nat => some (n + 1 : Int)
  pairs : (m.mappings.map Mapping.pair).Nodup

/-- Rows of records in any order. -/
def RowsOf {α β : Type} (IsRow : α → β → Prop) (records : List α) (rows : List β) : Prop :=
  ∃ listed, List.Forall₂ IsRow records listed ∧ listed.Perm rows

/-- The tables hold the records that are kept in memory. The parts of a report are in the order
of the ids of their rows. -/
structure Relational.Holds (r : Relational) (m : Memory) : Prop where
  connections : RowsOf Connection.IsRow m.connections r.connections
  facts : RowsOf Fact.IsRow m.facts r.facts
  dimensions : r.dimensions.Perm m.dimensions
  kpis : r.kpis.Perm m.kpis
  mappings : r.mappings.Perm m.mappings
  reports : r.reports.Perm (m.reports.map Report.row)
  columns : ∀ x ∈ m.reports, List.Forall₂ ReportColumn.IsRow x.columns
    (sortById (·.id) (r.reportColumns.filter (·.reportId == x.id)))
  filters : ∀ x ∈ m.reports, List.Forall₂ ReportFilter.IsRow x.filters
    (sortById (·.id) (r.reportFilters.filter (·.reportId == x.id)))
  drills : ∀ x ∈ m.reports, List.Forall₂ DrillTarget.IsRow x.drillTargets
    (sortById (·.id) (r.drills.filter (·.reportId == x.id)))

/-- Whether a database puts rows of one number in the order of their ids. A row without a number
counts as one of nought. -/
def Arrangement.TiesById {α : Type} {order : α → Option Int} (a : Arrangement α order)
    (id : α → Int) (rows : List α) : Prop :=
  ∀ n, (a.arrange rows).filter (fun row => (order row).getD 0 == n) =
    (sortById id rows).filter fun row => (order row).getD 0 == n

/-- The database puts columns and filters of a report that have one number in the order of their
ids. -/
structure Relational.TiesById (r : Relational) : Prop where
  columns (id : Int) : r.columnOrder.TiesById (·.id) (r.reportColumns.filter (·.reportId == id))
  filters (id : Int) : r.filterOrder.TiesById (·.id) (r.reportFilters.filter (·.reportId == id))

/-! ### Rows in the order of their ids -/

section
variable {α β : Type} {key : α → Int} {xs rows : List α}

lemma nodup_of_ascending (h : xs.Pairwise fun a b => key a < key b) : (xs.map key).Nodup :=
  List.pairwise_map.mpr (h.imp fun hlt => Int.ne_of_lt hlt)

/-- Rows are put in the order of the records that they are a permutation of. -/
lemma sortById_of_perm (hperm : rows.Perm xs) (hxs : xs.Pairwise fun a b => key a < key b) :
    sortById key rows = xs := by
  have hrows : (sortById key rows).Perm xs := (List.mergeSort_perm _ _).trans hperm
  have hordered := (Plan.stablyOrdered_mergeSort key rows).ordered
  have hascending : xs.Pairwise fun a b => key a ≤ key b := hxs.imp Int.le_of_lt
  refine hrows.eq_of_pairwise ?_ hordered hascending
  intro a b ha hb hab hba
  exact List.inj_on_of_nodup_map (nodup_of_ascending hxs) (hrows.mem_iff.mp ha) hb
    (Int.le_antisymm hab hba)

lemma sortById_of_ascending (h : xs.Pairwise fun a b => key a < key b) : sortById key xs = xs :=
  sortById_of_perm (.refl _) h

/-- What rows say of their records, listed beside these. -/
lemma map_eq_of_forall₂ {γ : Type} {R : α → β → Prop} {f : α → γ} {g : β → γ} {ys : List β}
    (h : List.Forall₂ R xs ys) (hR : ∀ x y, R x y → g y = f x) : ys.map g = xs.map f := by
  rw [← List.forall₂_eq_eq_eq, List.forall₂_map_left_iff, List.forall₂_map_right_iff]
  exact (h.imp hR).flip

end

/-! ### Ties -/

section
variable {α : Type} {order : α → Option Int} {a : Arrangement α order} {id : α → Int}
  {rows : List α}

lemma Arrangement.perm_sortById (a : Arrangement α order) (id : α → Int) (rows : List α) :
    (a.arrange rows).Perm (sortById id rows) :=
  (a.perm rows).trans (List.mergeSort_perm _ _).symm

/-- There are no ties among rows of different numbers. -/
lemma Arrangement.tiesById_of_nodup (h : (rows.map fun row => (order row).getD 0).Nodup) :
    a.TiesById id rows := by
  intro n
  have hall : ∀ xs : List α, xs.Pairwise fun _ _ => True :=
    fun _ => List.pairwise_of_forall fun _ _ => trivial
  refine List.Perm.eq_of_pairwise ?_ (hall _) (hall _) ((a.perm_sortById id rows).filter _)
  intro x y hx hy _ _
  obtain ⟨hx, hxn⟩ := List.mem_filter.mp hx
  obtain ⟨hy, hyn⟩ := List.mem_filter.mp hy
  refine List.inj_on_of_nodup_map h ((a.perm rows).mem_iff.mp hx) (List.mem_mergeSort.mp hy) ?_
  rw [beq_iff_eq] at hxn hyn
  exact hxn.trans hyn.symm

/-- Rows that all have a number are put in the order of these numbers. -/
lemma sortByOrder_of_isSome (h : ∀ row ∈ rows, (order row).isSome) :
    sortByOrder order rows = sortById (fun row => (order row).getD 0) rows := by
  let number : α → Int := fun row => (order row).getD 0
  have hnumber : ∀ row ∈ rows, order row = some (number row) := by
    intro row hrow
    obtain ⟨n, hn⟩ := Option.isSome_iff_exists.mp (h row hrow)
    show order row = some ((order row).getD 0)
    rw [hn, Option.getD_some]
  have hmap := List.map_mergeSort (f := fun x => x) (r := fun x y => precedes (order x) (order y))
    (s := fun x y => decide (number x ≤ number y)) (l := rows) fun x hx y hy => by
      rw [hnumber x hx, hnumber y hy]
      rfl
  rw [List.map_id', List.map_id'] at hmap
  exact hmap

/-- Rows that all have a number are put in the order of the numbers and then of the ids. -/
lemma Arrangement.tiesById_byId (h : ∀ row ∈ rows, (order row).isSome) :
    (byId id : Arrangement α order).TiesById id rows := by
  intro n
  have hall : ∀ row ∈ sortById id rows, (order row).isSome := fun row hrow =>
    h row (List.mem_mergeSort.mp hrow)
  show (sortByOrder order (sortById id rows)).filter (fun row => (order row).getD 0 == n) = _
  rw [sortByOrder_of_isSome hall]
  exact (Plan.stablyOrdered_mergeSort (fun row => (order row).getD 0) _).stable n

variable {β : Type} {read : α → Except Fault β} {number : β → Int} {parts : List β}

/-- Rows that can all be read can be read in any order. -/
lemma Arrangement.exists_read (a : Arrangement α order)
    (h : (sortById id rows).mapM read = .ok parts) :
    ∃ parts', (a.arrange rows).mapM read = .ok parts' ∧ parts'.Perm parts := by
  obtain ⟨parts', hread, hperm⟩ :=
    List.perm_comp_forall₂ (a.perm_sortById id rows) (mapM_eq_ok h)
  exact ⟨parts', mapM_of_forall₂ hread, hperm⟩

/-- Where ties are in the order of the ids, parts that are put in order after they are read do
not depend on the order in which they are read. -/
lemma Arrangement.TiesById.sortById_read {parts' : List β} (hties : a.TiesById id rows)
    (hnumber : ∀ row x, read row = .ok x → (order row).getD 0 = number x)
    (h : (sortById id rows).mapM read = .ok parts)
    (h' : (a.arrange rows).mapM read = .ok parts') :
    sortById number parts' = sortById number parts := by
  have hall := Plan.stablyOrdered_mergeSort number parts
  have hall' := Plan.stablyOrdered_mergeSort number parts'
  refine eq_of_ordered hall'.ordered hall.ordered fun n => ?_
  -- The rows of one number are the same in both orders, and so is what is read from them.
  have hkey : ∀ row x, read row = .ok x → ((order row).getD 0 == n) = (number x == n) :=
    fun row x hx => by rw [hnumber row x hx]
  have hsome := mapM_filter h hkey
  have hsome' := mapM_filter h' hkey
  rw [hties n, hsome] at hsome'
  rw [sortById, sortById, hall'.stable, hall.stable, Except.ok.inj hsome']

end

/-! ### Lookups -/

/-- The numbers of mappings ascend. -/
lemma Memory.Ordered.ascending {m : Memory} (hm : m.Ordered) :
    m.mappings.Pairwise fun a b => a.id.getD 0 < b.id.getD 0 := by
  have hids : (m.mappings.map (·.id)).Pairwise fun a b => a.getD 0 < b.getD 0 := by
    rw [hm.mappings, List.pairwise_map]
    exact List.pairwise_lt_range.imp fun hlt => by simpa using hlt
  exact (List.pairwise_map (f := fun x : Mapping => x.id)).mp hids

lemma Memory.Ordered.keyed {m : Memory} (hm : m.Ordered) : (Store.memory m).Keyed :=
  ⟨nodup_of_ascending hm.facts, nodup_of_ascending hm.dimensions⟩

namespace Relational.Holds

variable {r : Relational} {m : Memory}

/-- The rows of facts in the order of their ids say what the facts say. -/
lemma map_facts {γ : Type} (h : r.Holds m) (hm : m.Ordered) {f : Fact → γ} {g : FactRow → γ}
    (hrow : ∀ x row, Fact.IsRow x row → g row = f x) :
    (sortById (·.id) r.facts).map g = m.facts.map f := by
  obtain ⟨listed, hlisted, hperm⟩ := h.facts
  have hids : listed.map (·.id) = m.facts.map (·.id) :=
    map_eq_of_forall₂ hlisted fun x row hrow => by rw [hrow.fields]
  have hascending : listed.Pairwise fun a b => a.id < b.id := by
    rw [← List.pairwise_map (f := FactRow.id) (R := (· < ·)), hids, List.pairwise_map]
    exact hm.facts
  rw [sortById_of_perm hperm.symm hascending]
  exact map_eq_of_forall₂ hlisted hrow

lemma keyed (h : r.Holds m) (hm : m.Ordered) : (Store.relational r).Keyed := by
  refine ⟨?_, (h.dimensions.map _).nodup_iff.mpr (nodup_of_ascending hm.dimensions)⟩
  have hids : (sortById (·.id) r.facts).map (·.id) = m.facts.map (·.id) :=
    h.map_facts hm fun x row hrow => by rw [hrow.fields]
  rw [← ((List.mergeSort_perm r.facts _).map FactRow.id).nodup_iff]
  show ((sortById (·.id) r.facts).map (·.id)).Nodup
  rw [hids]
  exact nodup_of_ascending hm.facts

lemma factRecords (h : r.Holds m) (hm : m.Ordered) (k : Int) :
    (Store.relational r).factRecords k = (Store.memory m).factRecords k := by
  have hrows : (sortById (·.id) r.facts).map (fun row => (row.connectionId, row.id, row.read)) =
      m.facts.map fun f => (f.connectionId, f.id, .ok f) := by
    refine h.map_facts hm fun f row hrow => ?_
    rw [hrow.read, hrow.fields]
  have hon := congrArg (fun xs => (xs.filter (·.1 == k)).map (·.2)) hrows
  simp only [List.filter_map, List.map_map] at hon
  show (sortById (·.id) (r.facts.filter (·.connectionId == k))).map _ =
    (m.facts.filter (·.connectionId == k)).map _
  rw [sortById_filter]
  exact hon

lemma dimensionsOn (h : r.Holds m) (hm : m.Ordered) (k : Int) :
    (Store.relational r).dimensionsOn k = (Store.memory m).dimensionsOn k := by
  show sortById (·.id) (r.dimensions.filter (·.connectionId == k)) = _
  rw [sortById_filter, sortById_of_perm h.dimensions hm.dimensions]
  rfl

lemma kpi? (h : r.Holds m) (hm : m.Ordered) (k id : Int) :
    (Store.relational r).kpi? k id = (Store.memory m).kpi? k id := by
  have hids := nodup_of_ascending hm.kpis
  show r.kpis.find? _ = (m.kpis.find? (·.id == id)).filter (·.connectionId == k)
  rw [← find?_key_perm hids h.kpis, ← find?_filter_key ((h.kpis.map _).nodup_iff.mpr hids),
    List.find?_filter]
  refine congrArg (List.find? · r.kpis) (funext fun x => Bool.eq_iff_iff.mpr ?_)
  simp [and_comm]

lemma mappings_eq (h : r.Holds m) (hm : m.Ordered) :
    (Store.relational r).mappings = m.mappings :=
  sortById_of_perm h.mappings hm.ascending

/-- Both stores answer lookups on every connection alike. -/
theorem agree (h : r.Holds m) (hm : m.Ordered) (k : Int) :
    Store.Agree k (.memory m) (.relational r) where
  factsOn := by rw [Store.factsOn_eq, Store.factsOn_eq, h.factRecords hm]
  factsOf ids hids := by
    rw [Store.factsOf_eq (h.keyed hm) _ hids, Store.factsOf_eq hm.keyed _ hids,
      h.factRecords hm]
  dimension? := by
    funext id
    rw [Store.dimension?_eq (h.keyed hm), Store.dimension?_eq hm.keyed, h.dimensionsOn hm]
  kpi? := funext (h.kpi? hm k)

lemma mappingsOf (h : r.Holds m) (hm : m.Ordered) (fs : List Int) (ds : Option (List Int)) :
    (Store.relational r).mappingsOf fs ds = (Store.memory m).mappingsOf fs ds := by
  rw [Store.mappingsOf_eq, Store.mappingsOf_eq, h.mappings_eq hm]
  rfl

/-- A connection is found in both stores, but for a schema without a name. -/
lemma connection? (h : r.Holds m) (hm : m.Ordered) {id : Int}
    (hschema : ∀ c, m.connection? id = some c → c.selectedDb ≠ some "") :
    r.connection? id = m.connection? id := by
  obtain ⟨listed, hlisted, hperm⟩ := h.connections
  let named : Connection → Connection := fun c => { c with selectedDb := c.sessionSchema? }
  have hnamed : listed.map named = m.connections.map named :=
    map_eq_of_forall₂ hlisted fun c row hrow => by
      show { row with selectedDb := row.sessionSchema? } = named c
      rw [hrow.sessionSchema?, hrow.fields]
  have hids : (listed.map (·.id)).Nodup := by
    have hsame : listed.map (·.id) = m.connections.map (·.id) :=
      map_eq_of_forall₂ hlisted fun c row hrow => by rw [hrow.fields]
    rw [hsame]
    exact nodup_of_ascending hm.connections
  have hfound : r.connection? id = (m.connection? id).map named := by
    have hrow : r.connections.find? (·.id == id) = listed.find? (·.id == id) :=
      find?_key_perm hids hperm.symm id
    have hboth := congrArg (List.find? (·.id == id)) hnamed
    simp only [List.find?_map] at hboth
    rw [Relational.connection?, hrow]
    exact hboth
  rw [hfound]
  cases hc : m.connection? id with
  | none => rfl
  | some c =>
    show some { c with selectedDb := c.sessionSchema? } = some c
    rw [c.sessionSchema?_of_ne (hschema c hc)]

end Relational.Holds

/-! ### Reports -/

/-- A report with its columns and filters in their order, without its links. -/
def Report.arranged (x : Report) : Report :=
  { x with
    columns := sortById (·.order) x.columns
    filters := sortById (·.order) x.filters
    drillTargets := [] }

/-- Reports that differ in the order of their parts only, whose columns and filters of one number
are in the same order. -/
structure Report.Alike (x y : Report) : Prop where
  arranged : x.arranged = y.arranged
  drills : x.drillTargets.Perm y.drillTargets

namespace Relational.Holds

variable {r : Relational} {m : Memory} {x : Report}

lemma read_columns (h : r.Holds m) (hties : r.TiesById) (hx : x ∈ m.reports) :
    sortById (·.order) ((r.columnOrder.arrange (r.reportColumns.filter
      (·.reportId == x.id))).map ReportColumnRow.read) = sortById (·.order) x.columns := by
  let read : ReportColumnRow → Except Fault ReportColumn := fun row => pure row.read
  have hread : (sortById (·.id) (r.reportColumns.filter (·.reportId == x.id))).mapM read =
      .ok x.columns := by
    refine mapM_of_forall₂ ((h.columns x hx).imp fun c row hrow => ?_).flip
    exact congrArg Except.ok hrow.read
  have harranged : (r.columnOrder.arrange (r.reportColumns.filter (·.reportId == x.id))).mapM
      read = .ok ((r.columnOrder.arrange (r.reportColumns.filter
        (·.reportId == x.id))).map ReportColumnRow.read) := List.mapM_pure
  refine (hties.columns x.id).sortById_read ?_ hread harranged
  intro row c hc
  rw [← Except.ok.inj hc]
  rfl

lemma read_filters (h : r.Holds m) (hties : r.TiesById) (hx : x ∈ m.reports) :
    ∃ filters, (r.filterOrder.arrange (r.reportFilters.filter
        (·.reportId == x.id))).mapM ReportFilterRow.read = .ok filters ∧
      sortById (·.order) filters = sortById (·.order) x.filters := by
  have hread : (sortById (·.id) (r.reportFilters.filter (·.reportId == x.id))).mapM
      ReportFilterRow.read = .ok x.filters :=
    mapM_of_forall₂ ((h.filters x hx).imp fun _ _ hrow => hrow.read).flip
  obtain ⟨filters, hfilters, -⟩ := r.filterOrder.exists_read hread
  refine ⟨filters, hfilters, (hties.filters x.id).sortById_read ?_ hread hfilters⟩
  intro row f hf
  obtain ⟨v, -, hv⟩ := bind_eq_ok hf
  rw [← Except.ok.inj hv]

lemma read_drills (h : r.Holds m) (hx : x ∈ m.reports) :
    ∃ drills, (r.drillOrder.arrange (r.drills.filter
        (·.reportId == x.id))).mapM DrillRow.read = .ok drills ∧ drills.Perm x.drillTargets :=
  r.drillOrder.exists_read
    (mapM_of_forall₂ ((h.drills x hx).imp fun _ _ hrow => hrow.read).flip)

/-- A report is read as it is in memory, but for the order of its parts. -/
theorem report? (h : r.Holds m) (hm : m.Ordered) (hties : r.TiesById) (id : Int) :
    ∃ found, r.report? id = .ok found ∧ Option.Rel Report.Alike found (m.report? id) := by
  have hfound : r.reports.find? (·.id == id) = (m.report? id).map Report.row := by
    have hids : ((m.reports.map Report.row).map (·.id)).Nodup := by
      rw [List.map_map]
      exact nodup_of_ascending hm.reports
    rw [find?_key_perm hids h.reports, List.find?_map]
    rfl
  unfold Relational.report?
  rw [hfound]
  cases hx : m.report? id with
  | none => exact ⟨none, rfl, .none⟩
  | some x =>
    have hmem : x ∈ m.reports := List.mem_of_find?_eq_some hx
    have hid : x.id = id := by simpa using List.find?_some hx
    subst hid
    obtain ⟨filters, hfilters, hsorted⟩ := h.read_filters hties hmem
    obtain ⟨drills, hdrills, hperm⟩ := h.read_drills hmem
    simp only [Option.map_some, hfilters, hdrills]
    refine ⟨_, rfl, .some ⟨?_, hperm⟩⟩
    unfold Report.arranged
    dsimp only
    rw [h.read_columns hties hmem, hsorted]
    rfl

end Relational.Holds

/-! ### Storing a mapping -/

/-- After the ids from one to a number, the next id is the number after it. -/
lemma nextId_of_perm {ids : List Int} {n : Nat}
    (h : ids.Perm ((List.range n).map fun k : Nat => (k + 1 : Int))) :
    Relational.nextId ids = n + 1 := by
  cases ids with
  | nil =>
    have hlength := h.length_eq
    simp only [List.length_nil, List.length_map, List.length_range] at hlength
    rw [← hlength]
    rfl
  | cons id ids =>
    have hmem : ∀ i, i ∈ id :: ids ↔ ∃ k < n, (k + 1 : Int) = i := by
      intro i
      rw [h.mem_iff]
      simp
    have hpos : 0 < n := by
      obtain ⟨k, hk, _⟩ := (hmem id).mp List.mem_cons_self
      omega
    have hmax : (id :: ids).max? = some (n : Int) := by
      rw [List.max?_eq_some_iff]
      refine ⟨(hmem n).mpr ⟨n - 1, by omega, by omega⟩, fun i hi => ?_⟩
      obtain ⟨k, hk, rfl⟩ := (hmem i).mp hi
      omega
    rw [List.max?_cons'] at hmax
    rw [Relational.nextId, Option.some.inj hmax]

section
variable {r : Relational} {m : Memory} {x : Mapping}

/-- A mapping of a new pair takes the number after the last one. -/
lemma Memory.Ordered.withMore (hm : m.Ordered)
    (hnew : m.mappings.any (·.pair == x.pair) = false) :
    (m.withMore [{ x with id := some (m.mappings.length + 1) }]).Ordered where
  connections := hm.connections
  facts := hm.facts
  dimensions := hm.dimensions
  kpis := hm.kpis
  reports := hm.reports
  mappings := by
    rw [Memory.withMore, List.map_append, hm.mappings, List.length_append, List.length_singleton,
      List.range_succ, List.map_append]
    rfl
  pairs := Store.nodup_pair_append hm.pairs hnew rfl

lemma Relational.Holds.withMore (h : r.Holds m) (ys : List Mapping) :
    (r.withMore ys).Holds (m.withMore ys) :=
  { h with mappings := h.mappings.append_right ys }

lemma Relational.TiesById.withMore (h : r.TiesById) (ys : List Mapping) :
    (r.withMore ys).TiesById :=
  ⟨h.columns, h.filters⟩

/-- A mapping of a new pair is stored alike in both stores, which go on to hold the same. -/
theorem Relational.Holds.addMappings (h : r.Holds m) (hm : m.Ordered)
    (hnew : ∀ y ∈ m.mappings, y.pair ≠ x.pair) :
    ∃ y, y.pair = x.pair ∧
      (Store.memory m).addMappings [x] = (.ok [y], .memory (m.withMore [y])) ∧
      (Store.relational r).addMappings [x] = (.ok [y], .relational (r.withMore [y])) ∧
      (m.withMore [y]).Ordered := by
  have hany : m.mappings.any (·.pair == x.pair) = false := Store.any_pair_eq_false hnew
  have hany' : r.mappings.any (·.pair == x.pair) = false :=
    Store.any_pair_eq_false fun y hy => hnew y (h.mappings.mem_iff.mp hy)
  have hids : m.mappings.filterMap (·.id) =
      (List.range m.mappings.length).map fun k : Nat => (k + 1 : Int) := by
    have hsome := congrArg (List.filterMap id) hm.mappings
    simpa [List.filterMap_map, Function.comp_def] using hsome
  have hnext : Relational.nextId (r.mappings.filterMap (·.id)) = m.mappings.length + 1 :=
    nextId_of_perm (hids ▸ h.mappings.filterMap _)
  refine ⟨{ x with id := some (m.mappings.length + 1) }, rfl, ?_, ?_, hm.withMore hany⟩
  · simp only [Store.addMappings, Memory.addMappings, Memory.addMapping, hany]
    rfl
  · simp only [Store.addMappings, Relational.addMappings, Relational.storeAll,
      Relational.addMapping, hany', hnext, Bool.false_eq_true, if_false, bind, Except.bind]
    rfl

end

end MetricLayer
