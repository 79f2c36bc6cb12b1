import MetricLayer.Proofs.Compile.Median
import MetricLayer.Proofs.Compile.Reference
import MetricLayer.Proofs.Service.Lookup
import MetricLayer.Service.Semantic

/-!
# Queries that are refused

A query that is refused before it looks anything up leaves the service as it was: no pool is
taken or made, no statement is sent, and the metadata stay the same.
-/
namespace MetricLayer.Service
open Compile Store

/-! ### Runs that end early -/

/-- Runs a query. -/
def runQuery (a : Asker) : MeasureQuery → ServiceM QueryResult
  | .facts q => runFactQuery a q
  | .kpi q => runKpiQuery a q

section
variable {a : Asker} {w : World} {c : Connection} {m : MeasureQuery}

/-- With the connection at hand, a query is drafted and then run. -/
lemma runQuery_eq (hc : (connectionFor a.connectionId a.user w).1 = .ok c) (m : MeasureQuery) :
    runQuery a m w =
      (lift (m.draft w.settings w.store c) >>= fun d => runDraft a d) w := by
  have hconnection : connectionFor a.connectionId a.user w = (.ok c, w) :=
    Prod.ext hc (Still.connectionFor _ _ w)
  cases m with
  | facts q =>
    show (connectionFor a.connectionId a.user >>= _) w = _
    rw [run_bind, hconnection]
    rfl
  | kpi q =>
    show (connectionFor a.connectionId a.user >>= _) w = _
    rw [run_bind, hconnection]
    rfl

/-- A query without a draft leaves the world as it is. -/
theorem runQuery_of_error (hc : (connectionFor a.connectionId a.user w).1 = .ok c) {x : Fault}
    (h : m.draft w.settings w.store c = .error x) : runQuery a m w = (.error x, w) := by
  rw [runQuery_eq hc, h]
  rfl

/-- A draft that cannot be completed leaves the world as the lookups of its tables do. -/
theorem runQuery_of_complete_error (hc : (connectionFor a.connectionId a.user w).1 = .ok c)
    {d : Draft} (h : m.draft w.settings w.store c = .ok d) {tables : List String}
    (hneeded : d.needed = tables) {columns : Join.Columns}
    (hcolumns : (freshLookups (columnsFor a tables) w).1 = .ok columns) {x : Fault}
    (hx : d.complete (freshLookups (columnsFor a tables) w).2.settings (some columns) =
      .error x) :
    runQuery a m w = (.error x, (freshLookups (columnsFor a tables) w).2) := by
  rw [runQuery_eq hc, h]
  show runDraft a d w = _
  unfold runDraft
  rw [hneeded, run_bind, hcolumns]
  show (lift (d.complete (freshLookups (columnsFor a tables) w).2.settings _) >>= _) _ = _
  rw [hx]
  rfl

end

/-! ### References -/

/-- A query is refused: with every catalog it compiles to the same fault, it looks up no table,
and a run of it leaves the world as it is. -/
structure Refused (settings : Setup) (store : Store) (c : Connection) (m : MeasureQuery)
    (x : Fault) : Prop where
  compile : ∀ catalog, m.compile settings store c catalog = .error x
  lookups : m.lookups settings store c = []
  run : ∀ (a : Asker) (w : World), w.settings = settings → w.store = store →
    (connectionFor a.connectionId a.user w).1 = .ok c → runQuery a m w = (.error x, w)

/-- A query without a draft is refused. -/
lemma refused_of_draft {settings : Setup} {store : Store} {c : Connection} {m : MeasureQuery}
    {x : Fault} (h : m.draft settings store c = .error x) : Refused settings store c m x where
  compile catalog := by
    rw [MeasureQuery.compile_eq, h]
    rfl
  lookups := by rw [MeasureQuery.lookups, h]
  run a w hsettings hstore hc := by
    subst hsettings hstore
    exact runQuery_of_error hc h

/-- References are checked before anything is looked up. A query for facts whose rows can be
read fails for an undefined reference exactly if one of its facts, selected dimensions and
filtered dimensions is not defined on the connection, and is then refused for the first of them.
If one of the rows cannot be read, the query is refused for that row. A query for a derived
metric is refused if the metric, a fact in its expression or a dimension is not defined. -/
theorem references_checked (settings : Setup) (s : Store) (c : Connection) (d : Dialect)
    (hdialect : Dialect.ofName c.dialect = .ok d) (hs : s.Distinct) :
    (∀ q : FactQuery, s.Readable c.id q.factIds →
      (∀ catalog, (∃ kind ref detail, facts settings s c q catalog =
          .error (.failure (.invalidReference kind ref detail))) ↔
        ∃ r ∈ q.references, s.defines c.id r = false) ∧
      ∀ r, s.firstUndefined c.id q.references = some r →
        Refused settings s c (.facts q) (r.undefinedOn c.id)) ∧
    (∀ q : FactQuery, ¬ s.Readable c.id q.factIds →
      ∃ id ∈ q.factIds, ∃ x, (id, .error x) ∈ s.factRecords c.id ∧
        Refused settings s c (.facts q) x) ∧
    (∀ q : KpiQuery, q.kpiId ∉ (s.kpisOn c.id).map (·.id) →
      Refused settings s c (.kpi q) (undefinedOn "KPI" q.kpiId c.id)) ∧
    ∀ q : KpiQuery, Unfounded s c.id q → ∃ x, Refused settings s c (.kpi q) x := by
  refine ⟨fun q hread => ⟨?_, fun r hr => ?_⟩, fun q hunread => ?_, fun q h => ?_, fun q h => ?_⟩
  · exact invalidReference_iff hdialect hs.keyed hread settings
  · exact refused_of_draft (m := .facts q) (draftFacts_undefined hdialect hs.keyed hread hr)
  · obtain ⟨id, hid, x, hrecord, hx⟩ := draftFacts_unread hdialect hs.keyed hunread
    exact ⟨id, hid, x, hrecord, refused_of_draft (m := .facts q) hx⟩
  · exact refused_of_draft (m := .kpi q) (draftKpi_undefined hdialect hs h settings)
  · obtain ⟨x, hx⟩ := draftKpi_unfounded hs h settings
    exact ⟨x, refused_of_draft (m := .kpi q) hx⟩

def salesConnection : Connection := ⟨1, none, "shop", "postgres", "db", 5432, "shop", "u", "p",
  none, none, none⟩

/-- Sales by region, a margin on them, and a metric that mentions no fact. -/
def sales : Store := .memory {
  connections := [salesConnection]
  facts := [⟨1, 1, "Sales", "orders", "amount", .sum⟩]
  dimensions := [⟨1, 1, "Region", "regions", "name"⟩]
  kpis := [⟨1, 1, "Margin", "Sales * 0.2", none⟩, ⟨2, 1, "One", "1", none⟩] }

/-- Returns by an aggregate that is none of the known ones. -/
def returns : Store := .relational {
  facts := [⟨1, 1, "Returns", "returns", "amount", "mode"⟩] }

lemma not_readable_returns : ¬ returns.Readable 1 [1, 2] := by
  intro h
  obtain ⟨f, hf⟩ := h (1, FactRow.read ⟨1, 1, "Returns", "returns", "amount", "mode"⟩)
    (by simp [returns, factRecords, sortById]) (by decide)
  cases hf

/-- Sales filtered by dimensions that do not exist are refused for the first of them. So are
returns, a metric that does not exist, one that mentions no fact, and a margin by a dimension
that does not exist. -/
theorem references_checked_sales :
    (sales.Readable 1 [1, 1] ∧
      Refused {} sales salesConnection
        (.facts ⟨[1, 1], [1], none, [⟨8, .int 1⟩, ⟨7, .int 1⟩]⟩) (undefinedOn "dimension" 8 1)) ∧
    (∃ x, Refused {} returns salesConnection (.facts ⟨[1, 2], [], none, []⟩) x) ∧
    Refused {} sales salesConnection (.kpi ⟨3, [], []⟩) (undefinedOn "KPI" 3 1) ∧
    (∃ x, Refused {} sales salesConnection (.kpi ⟨2, [1], []⟩) x) ∧
    (∃ x, Refused {} sales salesConnection (.kpi ⟨1, [7], []⟩) x) ∧
    runQuery ⟨1, none⟩ (.facts ⟨[1, 1], [1], none, [⟨8, .int 1⟩, ⟨7, .int 1⟩]⟩)
      { store := sales } = (.error (undefinedOn "dimension" 8 1), { store := sales }) := by
  have hsales : sales.Distinct := ⟨⟨by decide, by decide⟩, by decide, by decide⟩
  have hreturns : returns.Distinct :=
    ⟨⟨by decide, by decide⟩, by decide, (returns.mappings_perm.map _).nodup_iff.mpr (by decide)⟩
  obtain ⟨hfacts, -, hkpi, hunfounded⟩ :=
    references_checked {} sales salesConnection .postgres rfl hsales
  obtain ⟨-, hunread, -, -⟩ :=
    references_checked {} returns salesConnection .postgres rfl hreturns
  have hread : sales.Readable 1 [1, 1] := by
    rintro record hrecord -
    obtain rfl := List.mem_singleton.mp hrecord
    exact ⟨_, rfl⟩
  have hunmentioned : ∀ id f, (id, .ok f) ∈ sales.factRecords 1 →
      ¬ Kpi.Mentions none ['1'] (Text.lower f.name).toList := by
    rintro id f hrecord ⟨front, rest, after, htext, hafter, -, -⟩
    obtain ⟨-, hf⟩ := Prod.mk.inj (List.mem_singleton.mp hrecord)
    obtain rfl := Except.ok.inj hf
    rcases List.cons_eq_append_iff.mp htext with ⟨-, rfl⟩ | ⟨_, -, hrest⟩
    · cases hafter
    · obtain ⟨-, rfl⟩ := List.append_eq_nil_iff.mp hrest.symm
      cases hafter
  have hrefused := (hfacts ⟨[1, 1], [1], none, [⟨8, .int 1⟩, ⟨7, .int 1⟩]⟩ hread).2
    (.dimension 8) (by decide)
  refine ⟨⟨hread, hrefused⟩, ?_, hkpi _ (by decide), hunfounded _ ?_, hunfounded _ ?_, ?_⟩
  · obtain ⟨_, _, x, _, hx⟩ := hunread ⟨[1, 2], [], none, []⟩ not_readable_returns
    exact ⟨x, hx⟩
  · exact .expression (k := ⟨2, 1, "One", "1", none⟩) (by decide) rfl hunmentioned
  · exact .dimension (r := .dimension 7) (by decide) (by decide)
  · exact hrefused.run ⟨1, none⟩ { store := sales } rfl rfl rfl

/-- Fact 2 does not exist, but the fault is about the aggregate of fact 1. -/
theorem references_unread :
    (∃ r ∈ (⟨[1, 2], [], none, []⟩ : FactQuery).references, returns.defines 1 r = false) ∧
      ∀ catalog, ¬ ∃ kind ref detail,
        Compile.facts {} returns salesConnection ⟨[1, 2], [], none, []⟩ catalog =
          .error (.failure (.invalidReference kind ref detail)) := by
  refine ⟨⟨.fact 2, by decide, ?_⟩, ?_⟩
  · simp [defines, factIdsOn, returns, factRecords, sortById]
  · rintro catalog ⟨kind, ref, detail, hfacts⟩
    have hread : returns.factsOf 1 [1, 2] =
        .error (.invalid [⟨[.key "aggregate_function"], .enumeration⟩]) := by
      show List.mapM FactRow.read (sortById (·.id) [_]) >>= _ = _
      rw [sortById, List.mergeSort_singleton]
      rfl
    unfold Compile.facts draftFacts at hfacts
    change (returns.factsOf 1 [1, 2] >>= _) >>= _ = _ at hfacts
    rw [hread] at hfacts
    cases hfacts

/-! ### Medians -/

/-- A query that needs no columns is refused if its draft cannot be completed. -/
lemma refused_of_complete {settings : Setup} {store : Store} {c : Connection}
    {m : MeasureQuery} {d : Draft} {x : Fault} (h : m.draft settings store c = .ok d)
    (hneeded : d.needed = []) (hx : d.complete settings (some []) = .error x) :
    Refused settings store c m x where
  compile catalog := by
    rw [MeasureQuery.compile_of_draft h, Draft.plan_of_needed_nil hneeded]
    exact hx
  lookups := by
    rw [MeasureQuery.lookups, h]
    exact hneeded
  run a w hsettings hstore hc := by
    subst hsettings hstore
    exact runQuery_of_complete_error hc h hneeded rfl hx

/-- On a MySQL connection a query that is measured by a median, and would be valid with the
other engine, fails for the median. A query for a derived metric looks nothing up before that; a
query for facts looks up the tables that it needs all the same, and is refused only if it needs
none. -/
theorem median_refused (settings : Setup) (store : Store) (c : Connection)
    (catalog : Option (String → List String)) (m : MeasureQuery)
    (hmysql : c.dialect = Dialect.mysql.name)
    (hvalid : ∃ out, m.compile settings store (c.on .postgres) catalog = .ok out)
    (hmedian : m.MeasuredBy settings store (c.on .postgres) catalog .median) :
    m.compile settings store c catalog =
        .error (.failure (.unsupportedAggregate "MEDIAN" "mysql")) ∧
      (∀ q, m = .kpi q → m.lookups settings store c = []) ∧
      (∀ q, m = .facts q →
        m.lookups settings store c = m.lookups settings store (c.on .postgres)) ∧
      (m.lookups settings store c = [] →
        Refused settings store c m (.failure (.unsupportedAggregate "MEDIAN" "mysql"))) := by
  obtain ⟨out, hout⟩ := hvalid
  obtain ⟨d, join, hdraft, hjoin, hmedian⟩ := hmedian
  have hon : c.on .mysql = c := by rw [Connection.on, ← hmysql]
  cases m with
  | facts q =>
    have hmysqldraft := draftFacts_on hdraft .mysql
    rw [hon] at hmysqldraft
    have hlookups : (MeasureQuery.facts q).lookups settings store c = d.needed := by
      rw [MeasureQuery.lookups, MeasureQuery.draft, hmysqldraft]
      rfl
    rw [MeasureQuery.compile_eq, hdraft] at hout
    have hrefused := complete_median (draftFacts_ok_iff.mp hdraft).measured hjoin hout hmedian
    refine ⟨?_, fun _ hkpi => ?_, fun _ _ => ?_, fun hnone => ?_⟩
    · rw [MeasureQuery.compile_eq, MeasureQuery.draft, hmysqldraft]
      exact hrefused
    · cases hkpi
    · rw [hlookups, MeasureQuery.lookups, hdraft]
    · rw [hlookups] at hnone
      have hplan := Draft.plan_of_needed_nil hnone catalog
      refine refused_of_complete (m := .facts q) hmysqldraft hnone ?_
      change (d.plan (d.known catalog) >>= _) = _ at hrefused
      rw [hplan] at hrefused
      exact hrefused
  | kpi q =>
    have hkpi := draftKpi_median hdraft hmedian
    rw [hon] at hkpi
    have hrefused := refused_of_draft (m := .kpi q) hkpi
    refine ⟨hrefused.compile catalog, fun _ _ => hrefused.lookups, fun _ hfacts => ?_,
      fun _ => hrefused⟩
    cases hfacts

def callConnection : Connection := ⟨1, none, "calls", "mysql", "db", 3306, "calls", "u", "p",
  none, none, none⟩

def callDuration : Fact := ⟨1, 1, "Duration", "calls", "seconds", .median⟩

def callRegion : Dimension := ⟨1, 1, "Region", "regions", "name"⟩

/-- The columns of calls and of the regions they come from. -/
def callColumns (table : String) : List String :=
  if table == "calls" then ["region_id", "line", "seconds"]
  else if table == "regions" then ["region_id", "name"]
  else []

/-- The duration of calls by their line and by regions, which they are not mapped to. -/
def calls : World where
  store := .memory {
    connections := [callConnection]
    facts := [callDuration]
    dimensions := [callRegion, ⟨2, 1, "Line", "calls", "line"⟩]
    kpis := [⟨1, 1, "Minutes", "Duration / 60", none⟩] }
  settings := { validateSql := false }
  target := { columns := fun _ _ t => .ok (callColumns t) }

/-- The duration of calls by region. -/
def durationByRegion : MeasureQuery := .facts ⟨[1], [1], none, []⟩

lemma needed_calls : Join.neededTables [callDuration] [callRegion] [] = ["calls", "regions"] := by
  have hsorted : (["calls", "regions"].mergeSort fun s t => s ≤ t) = ["calls", "regions"] := by
    simp [List.mergeSort, List.MergeSort.Internal.splitInTwo]
  exact hsorted

lemma known_calls {d : Draft} (hfacts : d.facts = [callDuration])
    (hdimensions : d.dimensions = [callRegion]) (hmappings : d.mappings = []) :
    d.known (some callColumns) =
      some [("calls", callColumns "calls"), ("regions", callColumns "regions")] := by
  rw [Draft.known, Draft.needed, hfacts, hdimensions, hmappings, needed_calls]
  rfl

/-- The median duration of calls in minutes. -/
def minutes : Kpi.Expansion where
  sql := "PERCENTILE_CONT(0.5) WITHIN GROUP (ORDER BY \"calls\".\"seconds\") / 60"
  facts := [callDuration]

lemma draft_minutes :
    (MeasureQuery.kpi ⟨1, [1], []⟩).draft calls.settings calls.store
        (callConnection.on .postgres) =
      .ok ⟨.postgres, [callDuration], [callRegion], [], .kpi "Minutes" minutes, [1], []⟩ := by
  have hexpand : Kpi.expand .postgres false "Duration / 60" [callDuration] = .ok minutes := by
    decide +kernel
  show draftKpi calls.settings calls.store (callConnection.on .postgres) ⟨1, [1], []⟩ = _
  unfold draftKpi
  change Kpi.expand .postgres false "Duration / 60" [callDuration] >>= _ = _
  rw [hexpand]
  rfl

/-- The median of calls by their line, and the minutes by region, are refused before anything is
looked up. -/
theorem median_refused_calls :
    Refused calls.settings calls.store callConnection (.facts ⟨[1], [2], none, []⟩)
        (.failure (.unsupportedAggregate "MEDIAN" "mysql")) ∧
      Refused calls.settings calls.store callConnection (.kpi ⟨1, [1], []⟩)
        (.failure (.unsupportedAggregate "MEDIAN" "mysql")) ∧
      runQuery ⟨1, none⟩ (.kpi ⟨1, [1], []⟩) calls =
        (.error (.failure (.unsupportedAggregate "MEDIAN" "mysql")), calls) := by
  obtain ⟨-, -, -, hline⟩ := median_refused calls.settings calls.store callConnection none
    (.facts ⟨[1], [2], none, []⟩) rfl ⟨_, rfl⟩ ⟨_, _, rfl, rfl, by decide⟩
  have hlookups : (MeasureQuery.facts ⟨[1], [2], none, []⟩).lookups calls.settings calls.store
      callConnection = [] := List.mergeSort_nil
  have hvalid : ∃ out, (MeasureQuery.kpi ⟨1, [1], []⟩).compile calls.settings calls.store
      (callConnection.on .postgres) (some callColumns) = .ok out := by
    rw [MeasureQuery.compile_of_draft draft_minutes, known_calls rfl rfl rfl]
    exact ⟨_, rfl⟩
  have hmedian : (MeasureQuery.kpi ⟨1, [1], []⟩).MeasuredBy calls.settings calls.store
      (callConnection.on .postgres) (some callColumns) .median :=
    ⟨_, _, draft_minutes, by rw [known_calls rfl rfl rfl]; rfl, by decide⟩
  obtain ⟨-, hnone, -, hminutes⟩ := median_refused calls.settings calls.store callConnection
    (some callColumns) (.kpi ⟨1, [1], []⟩) rfl hvalid hmedian
  have hrefused := hminutes (hnone _ rfl)
  exact ⟨hline hlookups, hrefused, hrefused.run ⟨1, none⟩ calls rfl rfl rfl⟩

/-- The columns of calls and regions are looked up on a new pool. -/
lemma looked_calls : (freshLookups (columnsFor ⟨1, none⟩ ["calls", "regions"]) calls).1 =
    .ok [("calls", callColumns "calls"), ("regions", callColumns "regions")] := by
  decide +kernel

/-- The median of calls by region is refused only after a pool is made and the columns of calls
and regions are looked up. -/
theorem median_looks_up :
    (∃ out, durationByRegion.compile calls.settings calls.store (callConnection.on .postgres)
        (some callColumns) = .ok out) ∧
      durationByRegion.MeasuredBy calls.settings calls.store (callConnection.on .postgres)
        (some callColumns) .median ∧
      durationByRegion.lookups calls.settings calls.store callConnection = ["calls", "regions"] ∧
      ∃ w, runQuery ⟨1, none⟩ durationByRegion calls =
          (.error (.failure (.unsupportedAggregate "MEDIAN" "mysql")), w) ∧
        w.pools.length = 1 ∧ w.sent.length = 3 := by
  have hdraft : ∀ d, durationByRegion.draft calls.settings calls.store (callConnection.on d) =
      .ok ⟨d, [callDuration], [callRegion], [], .facts none, [1], []⟩ := by
    rintro (_ | _) <;> rfl
  have hmysql := hdraft .mysql
  change durationByRegion.draft calls.settings calls.store callConnection = _ at hmysql
  refine ⟨?_, ⟨_, _, hdraft .postgres, by rw [known_calls rfl rfl rfl]; rfl, by decide⟩, ?_, ?_⟩
  · rw [durationByRegion.compile_of_draft (hdraft .postgres), known_calls rfl rfl rfl]
    exact ⟨_, rfl⟩
  · rw [MeasureQuery.lookups, hmysql]
    exact needed_calls
  · have hrefused : ∀ settings, Draft.complete settings
        ⟨.mysql, [callDuration], [callRegion], [], .facts none, [1], []⟩
        (some [("calls", callColumns "calls"), ("regions", callColumns "regions")]) =
          .error (.failure (.unsupportedAggregate "MEDIAN" "mysql")) := fun _ => rfl
    exact ⟨_, runQuery_of_complete_error rfl hmysql needed_calls looked_calls (hrefused _),
      by decide +kernel, by decide +kernel⟩

end MetricLayer.Service
