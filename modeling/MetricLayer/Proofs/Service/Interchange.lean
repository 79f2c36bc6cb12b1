import Mathlib.Data.List.Permutation
import MetricLayer.Proofs.Compile.Query
import MetricLayer.Proofs.Plan.Report
import MetricLayer.Proofs.Service.Abreast

/-!
# Stores of both kinds are interchangeable

A store in memory and tables that hold the same content answer every request alike: queries and
reports are compiled to the same statement or fail in the same way, and the same mappings are
inferred and stored. For reports this takes a database that returns columns and filters of one
number in the order in which they were added.
-/
namespace MetricLayer
open Store

/-! ### Reports -/

lemma sortById_sortById {α : Type} (key : α → Int) (xs : List α) :
    sortById key (sortById key xs) = sortById key xs := by
  have hall := Plan.stablyOrdered_mergeSort key xs
  have htwice := Plan.stablyOrdered_mergeSort key (sortById key xs)
  exact eq_of_ordered htwice.ordered hall.ordered htwice.stable

namespace Plan

lemma knownColumn_arranged (x : Report) (key : Value) :
    knownColumn x.arranged key = knownColumn x key := by
  have hknown : ∀ s, x.arranged.knownColumns.contains s = x.knownColumns.contains s := by
    intro s
    simp [Report.knownColumns, Report.arranged, sortById]
  cases key with
  | str s =>
    unfold knownColumn
    simp only [hknown]
    rfl
  | _ => rfl

lemma givenFilters_arranged (x : Report) (runtime : List (Value × Value)) :
    givenFilters x.arranged runtime = givenFilters x runtime := by
  induction runtime with
  | nil => rfl
  | cons e rest ih =>
    obtain ⟨k, v⟩ := e
    rw [givenFilters, givenFilters, ih, knownColumn_arranged]

lemma visibleColumns_arranged (x : Report) : x.arranged.visibleColumns = x.visibleColumns := by
  show sortById (·.order) ((sortById (·.order) x.columns).filter (·.visible)) =
    sortById (·.order) (x.columns.filter (·.visible))
  rw [sortById_filter, sortById_filter, sortById_sortById]

lemma applicable_arranged (x : Report) (overrides : List (String × Value)) :
    applicable x.arranged overrides = applicable x overrides := by
  show (sortById (·.order) (sortById (·.order) x.filters)).filter _ = _
  rw [sortById_sortById]
  rfl

/-- A report is planned alike when its columns and filters are in their order. -/
theorem report_arranged (x : Report) (runtime : List (Value × Value)) :
    Plan.report x.arranged runtime = Plan.report x runtime := by
  unfold Plan.report
  simp only [givenFilters_arranged, visibleColumns_arranged, applicable_arranged]
  rfl

/-- Reports that differ in the order of their parts are planned alike. -/
theorem report_of_alike {x y : Report} (h : x.Alike y) (runtime : List (Value × Value)) :
    Plan.report x runtime = Plan.report y runtime := by
  rw [← report_arranged x, h.arranged, report_arranged]

end Plan

/-! ### Requests -/

/-- Compiles a query with whatever is answered about the tables that it needs. -/
def MeasureQuery.compileBy (settings : Setup) (store : Store) (c : Connection)
    (answer : List String → Except Fault (Option Join.Columns)) (q : MeasureQuery) :
    Except Fault Compiled := do
  let d ← q.draft settings store c
  d.complete settings (← answer d.needed)

/-- Compiles a report of a store, if there is one. -/
def Store.compileReport (s : Store) (settings : Setup) (id : Int) (dialect : String)
    (runtime : List (Value × Value)) : Except Fault (Option Compiled) := do
  match ← s.report? id with
  | none => return none
  | some x => return some (← Compile.report settings x dialect runtime)

namespace Relational.Holds

variable {r : Relational} {m : Memory}

/-- A query has the same draft from both stores, or fails alike. -/
theorem draft (h : r.Holds m) (hm : m.Ordered) (settings : Setup) (c : Connection)
    (q : MeasureQuery) :
    q.draft settings (.relational r) c = q.draft settings (.memory m) c := by
  cases hdraft : q.draft settings (.memory m) c with
  | error x => exact draft_error_of_agree (h.agree hm c.id) hdraft
  | ok d =>
    have hremapped : d.remapped (.relational r) = d := by
      rw [Draft.remapped, h.mappingsOf hm, ← (drafted_of_ok hdraft).mappings]
    rw [draft_of_agree (h.agree hm c.id) hdraft, hremapped]

/-- A report of both stores compiles alike. -/
theorem compileReport (h : r.Holds m) (hm : m.Ordered) (hties : r.TiesById) (settings : Setup)
    (id : Int) (dialect : String) (runtime : List (Value × Value)) :
    (Store.relational r).compileReport settings id dialect runtime =
      (Store.memory m).compileReport settings id dialect runtime := by
  obtain ⟨found, hfound, halike⟩ := h.report? hm hties id
  unfold Store.compileReport
  show (r.report? id >>= _) = ((.ok (m.report? id) : Except Fault (Option Report)) >>= _)
  rw [hfound]
  generalize m.report? id = kept at halike ⊢
  cases halike with
  | none => rfl
  | @some x y halike =>
    have hcompile : Compile.report settings x dialect runtime =
        Compile.report settings y dialect runtime := by
      rw [Compile.report, Compile.report, Plan.report_of_alike halike]
    exact congrArg (· >>= fun out => .ok (some out)) hcompile

end Relational.Holds

namespace Service

/-- A store in memory and tables that hold the same content are interchangeable. Every query has
the same outcome, whatever is answered about the tables that it needs, and so has every report.
The mappings of a connection are inferred with the same result whatever the lookups give, if
both go to the same pool, and are stored alike; the stores then hold the same content again. -/
theorem stores_interchangeable {m : Memory} {r : Relational} (hm : m.Ordered) (h : r.Holds m)
    (hties : r.TiesById) :
    (∀ settings c q catalog, MeasureQuery.compile settings (.relational r) c catalog q =
      MeasureQuery.compile settings (.memory m) c catalog q) ∧
    (∀ settings c q answer, MeasureQuery.compileBy settings (.relational r) c answer q =
      MeasureQuery.compileBy settings (.memory m) c answer q) ∧
    (∀ settings id dialect runtime,
      (Store.relational r).compileReport settings id dialect runtime =
        (Store.memory m).compileReport settings id dialect runtime) ∧
    ∀ (a : Asker) (u : Session), u.world.store = .memory m →
      (u.memo.pool.isSome ∨
        ∀ c, m.connection? a.connectionId = some c → c.selectedDb ≠ some "") →
      let v : Session := { u with world := { u.world with store := .relational r } }
      (autoMapPairs a v).1 = (autoMapPairs a u).1 ∧
        ∃ ys, (autoMapPairs a u).2.world.store = .memory (m.withMore ys) ∧
          (autoMapPairs a v).2.world.store = .relational (r.withMore ys) ∧
          (m.withMore ys).Ordered ∧ (r.withMore ys).Holds (m.withMore ys) ∧
          (r.withMore ys).TiesById := by
  refine ⟨fun settings c q catalog => ?_, fun settings c q answer => ?_,
    h.compileReport hm hties, fun a u hstore hpool => ?_⟩
  · rw [MeasureQuery.compile_eq, MeasureQuery.compile_eq, h.draft hm]
  · rw [MeasureQuery.compileBy, MeasureQuery.compileBy, h.draft hm]
  · have htwin : Twin a m r u { u with world := { u.world with store := .relational r } } :=
      ⟨hm, h, hstore, rfl, hpool.imp_right (h.connection? hm)⟩
    obtain ⟨hresult, ys, hafter⟩ := htwin.autoMapPairs
    refine ⟨hresult, ys, hafter.abreast.store, ?_, hafter.ordered, hafter.held,
      hties.withMore ys⟩
    rw [hafter.abreast.other]

def marketConnection : Connection := ⟨1, none, "market", "postgres", "db", 5432, "market", "u",
  "p", none, none, none⟩

/-- The revenue of orders by region, their lines that are not mapped yet, and a report. -/
def market : Memory where
  connections := [marketConnection]
  facts := [⟨1, 1, "Revenue", "orders", "amount", .sum⟩, ⟨2, 1, "Lines", "orders", "id", .count⟩]
  dimensions := [⟨1, 1, "Region", "regions", "name"⟩]
  kpis := [⟨1, 1, "Tax", "Revenue * 0.2", none⟩, ⟨2, 1, "Gross", "Revenue", none⟩]
  reports := [⟨1, 1, none, "Open orders", none, "orders",
    [⟨"id", none, none, true, 1⟩, ⟨"note", none, none, false, 0⟩, ⟨"status", none, none, true, 1⟩],
    [⟨"status", "=", .str "open", false, 0⟩], [⟨1, [("id", "id")], none⟩, ⟨1, [], none⟩]⟩]
  mappings := [⟨some 1, 1, 1, "regions", "region_id", "id"⟩]

/-- The same in tables, some of whose rows are in another order. The value of the filter is a bare
text, and some cells were never set. -/
def marketTables : Relational where
  connections := [{ marketConnection with selectedDb := some "" }]
  facts := [⟨2, 1, "Lines", "orders", "id", "count"⟩, ⟨1, 1, "Revenue", "orders", "amount", "SUM"⟩]
  dimensions := [⟨1, 1, "Region", "regions", "name"⟩]
  kpis := [⟨2, 1, "Gross", "Revenue", none⟩, ⟨1, 1, "Tax", "Revenue * 0.2", none⟩]
  reports := [⟨1, none, 1, "Open orders", none, "orders"⟩]
  reportColumns := [⟨1, 1, "id", none, none, some true, some 1⟩,
    ⟨2, 1, "note", none, none, none, some 0⟩, ⟨3, 1, "status", none, none, some true, some 1⟩]
  reportFilters := [⟨1, 1, "status", "=", some "open", none, none⟩]
  drills := [⟨1, 1, 1, some "\x7b\"id\": \"id\"\x7d", none⟩, ⟨2, 1, 1, none, none⟩]
  mappings := [⟨some 1, 1, 1, "regions", "region_id", "id"⟩]

lemma ordered_market : market.Ordered where
  connections := by simp [market]
  facts := by simp [market]
  dimensions := by simp [market]
  kpis := by simp [market]
  reports := by simp [market]
  mappings := rfl
  pairs := by decide

lemma read_open : Json.read "open" = .error .malformed := by
  have hread : Json.readOnly "open".toList = .error .malformed := rfl
  rw [Json.read, hread]
  rfl

lemma read_link : Json.read "\x7b\"id\": \"id\"\x7d" = .ok (.map [(.str "id", .str "id")]) := by
  have htext : "\x7b\"id\": \"id\"\x7d".toList =
      ['\x7b', '"', 'i', 'd', '"', ':', ' ', '"', 'i', 'd', '"', '\x7d'] := rfl
  have hread : Json.readOnly
      ['\x7b', '"', 'i', 'd', '"', ':', ' ', '"', 'i', 'd', '"', '\x7d'] =
      .ok (.map [(.str "id", .str "id")]) := by cbv
  unfold Json.read
  rw [htext]
  dsimp only
  rw [hread]
  rfl

lemma holds_market : marketTables.Holds market where
  connections := ⟨marketTables.connections, .cons ⟨.empty, rfl⟩ .nil, .refl _⟩
  facts := ⟨_, .cons ⟨rfl, rfl⟩ (.cons ⟨rfl, rfl⟩ .nil), .swap _ _ _⟩
  dimensions := .refl _
  kpis := .swap _ _ _
  mappings := .refl _
  reports := .refl _
  columns x hx := by
    obtain rfl := List.mem_singleton.mp hx
    rw [sortById_of_ascending (by simp [marketTables])]
    exact .cons ⟨rfl, rfl, rfl, .set _, .set _⟩ (.cons ⟨rfl, rfl, rfl, .unset, .set _⟩
      (.cons ⟨rfl, rfl, rfl, .set _, .set _⟩ .nil))
  filters x hx := by
    obtain rfl := List.mem_singleton.mp hx
    rw [sortById_of_ascending (by simp [marketTables])]
    exact .cons ⟨rfl, rfl, .bare read_open, .unset, .unset⟩ .nil
  drills x hx := by
    obtain rfl := List.mem_singleton.mp hx
    rw [sortById_of_ascending (by simp [marketTables])]
    exact .cons ⟨rfl, rfl, .inl (.encoded read_link)⟩
      (.cons ⟨rfl, rfl, .inr ⟨rfl, .null, rfl, .unset⟩⟩ .nil)

/-- Two columns have one number, and no two filters. -/
lemma tiesById_market : marketTables.TiesById where
  columns id := by
    refine Arrangement.tiesById_byId fun row hrow => ?_
    have hmem := List.mem_of_mem_filter hrow
    simp only [marketTables, List.mem_cons, List.not_mem_nil, or_false] at hmem
    rcases hmem with rfl | rfl | rfl <;> rfl
  filters id := by
    refine Arrangement.tiesById_of_nodup ?_
    exact ((List.nodup_singleton _).sublist (List.filter_sublist.map _))

/-- Orders and regions have a column in common. -/
def marketColumns (table : String) : List String :=
  if table == "regions" then ["region_id", "name"] else ["id", "region_id"]

def marketSession : Session where
  world := {
    store := .memory market
    target := { columns := fun _ _ t => .ok (marketColumns t) } }

lemma tablesOf_market : tablesOf market.facts market.dimensions = ["orders", "regions"] := by
  have hsorted : (["orders", "regions"].mergeSort fun s t => s ≤ t) = ["orders", "regions"] := by
    simp [List.mergeSort, List.MergeSort.Internal.splitInTwo]
  exact hsorted

/-- The lines are mapped to their regions. -/
lemma mapped_market : (autoMapPairs ⟨1, none⟩ marketSession).1 =
    .ok ⟨[⟨some 2, 2, 1, "regions", "region_id", "region_id"⟩], 1, []⟩ := by
  have hall : autoMapPairs ⟨1, none⟩ marketSession =
      mapAll ⟨1, none⟩ market.facts market.dimensions [(1, 1)] marketSession :=
    autoMapPairs_eq rfl rfl
  rw [hall, mapAll, tablesOf_market]
  decide +kernel

/-- The open orders are reported alike from memory and from tables, and their lines are mapped
to regions under the same id. -/
theorem stores_interchangeable_market :
    market.Ordered ∧ marketTables.Holds market ∧ marketTables.TiesById ∧
      (Store.relational marketTables).compileReport {} 1 "postgres" [] =
        (Store.memory market).compileReport {} 1 "postgres" [] ∧
      (autoMapPairs ⟨1, none⟩ { marketSession with
        world := { marketSession.world with store := .relational marketTables } }).1 =
          .ok ⟨[⟨some 2, 2, 1, "regions", "region_id", "region_id"⟩], 1, []⟩ := by
  obtain ⟨-, -, hreport, hmapped⟩ :=
    stores_interchangeable ordered_market holds_market tiesById_market
  have hschema : ∀ c, market.connection? 1 = some c → c.selectedDb ≠ some "" := by
    intro c hc
    obtain rfl := Option.some.inj hc
    decide
  obtain ⟨hresult, -⟩ := hmapped ⟨1, none⟩ marketSession rfl (.inr hschema)
  exact ⟨ordered_market, holds_market, tiesById_market, hreport {} 1 "postgres" [],
    hresult.trans mapped_market⟩

end Service

end MetricLayer
