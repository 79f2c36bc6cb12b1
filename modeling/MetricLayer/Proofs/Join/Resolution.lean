import Mathlib.Data.List.Basic
import MetricLayer.Join.Resolve

/-!
# Resolved joins

A resolved plan starts from the table of the first fact, and holds the edge of every pair that
is joined over one.
-/
namespace MetricLayer.Join

/-- What a resolved plan is. -/
lemma resolve_ok {fs : List Fact} {dimensions : List Dimension} {mappings : List Mapping}
    {columns : Option Columns} {join : JoinPlan}
    (h : resolve fs dimensions mappings columns = .ok join) :
    ∃ f rest warnings, fs = f :: rest ∧
      join = planOf f.table warnings
        (resolutions fs dimensions mappings (columns.getD [])) := by
  cases fs with
  | nil => cases h
  | cons f rest => exact ⟨f, rest, _, rfl, (Except.ok.inj h).symm⟩

lemma base_eq {fs : List Fact} {dimensions : List Dimension} {mappings : List Mapping}
    {columns : Option Columns} {join : JoinPlan}
    (h : resolve fs dimensions mappings columns = .ok join) :
    fs.head?.map (·.table) = some join.base := by
  obtain ⟨_, _, _, rfl, rfl⟩ := resolve_ok h
  rfl

/-- Any facts can be resolved. -/
lemma exists_resolve {fs : List Fact} (h : fs ≠ []) (dimensions : List Dimension)
    (mappings : List Mapping) (columns : Option Columns) :
    ∃ join, resolve fs dimensions mappings columns = .ok join := by
  cases fs with
  | nil => exact absurd rfl h
  | cons f fs => exact ⟨_, rfl⟩

lemma mem_links_of_pair {fs : List Fact} {dimensions : List Dimension}
    {mappings : List Mapping} {columns : Option Columns} {join : JoinPlan}
    (h : resolve fs dimensions mappings columns = .ok join) {f : Fact} (hf : f ∈ fs)
    {d : Dimension} (hd : d ∈ dimensions) {e : JoinEdge}
    (he : (pair mappings (columns.getD []) f d).edge? = some e) : e ∈ join.links := by
  obtain ⟨_, _, _, _, rfl⟩ := resolve_ok h
  simp only [planOf, resolutions, Resolution.links, List.mem_flatMap, List.mem_map,
    List.mem_filterMap]
  exact ⟨_, ⟨d, hd, rfl⟩, (f, pair mappings (columns.getD []) f d),
    List.mem_map_of_mem hf, he⟩

/-- The mapping of a pair is the last one listed for it. -/
lemma mappingOf_eq_some_iff {mappings : List Mapping} {factId dimensionId : Int} {m : Mapping} :
    mappingOf mappings factId dimensionId = some m ↔
      ∃ before after, mappings = before ++ m :: after ∧ m.pair = (factId, dimensionId) ∧
        ∀ n ∈ after, n.pair ≠ (factId, dimensionId) := by
  change mappings.reverse.find? (·.pair == (factId, dimensionId)) = some m ↔ _
  rw [List.find?_eq_some_iff_append]
  constructor
  · rintro ⟨hm, later, earlier, hmappings, hlater⟩
    refine ⟨earlier.reverse, later.reverse, ?_, by simpa using hm, ?_⟩
    · simpa using congrArg List.reverse hmappings
    · intro n hn
      simpa using hlater n (List.mem_reverse.mp hn)
  · rintro ⟨before, after, rfl, hm, hafter⟩
    refine ⟨by simpa using hm, after.reverse, before.reverse, by simp, ?_⟩
    intro n hn
    simpa using hafter n (List.mem_reverse.mp hn)

lemma mappingOf_eq_none_iff {mappings : List Mapping} {factId dimensionId : Int} :
    mappingOf mappings factId dimensionId = none ↔
      ∀ m ∈ mappings, m.pair ≠ (factId, dimensionId) := by
  change mappings.reverse.find? (·.pair == (factId, dimensionId)) = none ↔ _
  rw [List.find?_eq_none]
  simp

/-- The edge of an explicit mapping. -/
def mappedEdge (f : Fact) (m : Mapping) : JoinEdge :=
  ⟨m.joinTable, m.dimensionColumn, f.table, m.factColumn⟩

lemma pair_mapped {mappings : List Mapping} {columns : Columns} {f : Fact} {d : Dimension}
    {m : Mapping} (h : mappingOf mappings f.id d.id = some m) :
    pair mappings columns f d = .joined (some (mappedEdge f m)) m.joinTable d.column := by
  simp [pair, h, mappedEdge]

/-! ### Where dimensions are read from -/

/-- The resolution of one dimension, with all facts in order. -/
def resolution (fs : List Fact) (mappings : List Mapping) (columns : Columns) (d : Dimension) :
    Resolution :=
  ⟨d, fs.map fun f => (f, pair mappings columns f d)⟩

lemma resolutions_eq (fs : List Fact) (dimensions : List Dimension) (mappings : List Mapping)
    (columns : Columns) :
    resolutions fs dimensions mappings columns =
      dimensions.map (resolution fs mappings columns) := rfl

lemma joined_resolution (fs : List Fact) (mappings : List Mapping) (columns : Columns)
    (d : Dimension) :
    (resolution fs mappings columns d).joined =
      fs.filterMap fun f => (pair mappings columns f d).display?.map fun p => (f, p) := by
  simp only [Resolution.joined, resolution, List.filterMap_map]
  rfl

lemma dimension_of_resolved? {r : Resolution} {s : ResolvedDimension}
    (h : r.resolved? = some s) : s.dimension = r.dimension := by
  unfold Resolution.resolved? at h
  split at h
  · cases h
  · rw [← Option.some.inj h]

/-- Whether none of the facts can be joined to a dimension. -/
def unjoined (fs : List Fact) (mappings : List Mapping) (columns : Columns) (d : Dimension) :
    Bool :=
  (resolution fs mappings columns d).joined.isEmpty

lemma resolved?_isNone (r : Resolution) : r.resolved?.isNone = r.joined.isEmpty := by
  unfold Resolution.resolved?
  cases r.joined <;> rfl

/-- The dropped dimensions of a plan are those that no fact can be joined to. -/
lemma dropped_eq {fs : List Fact} {dimensions : List Dimension} {mappings : List Mapping}
    {columns : Option Columns} {join : JoinPlan}
    (h : resolve fs dimensions mappings columns = .ok join) :
    join.dropped = dimensions.filter (unjoined fs mappings (columns.getD [])) := by
  obtain ⟨_, _, _, _, rfl⟩ := resolve_ok h
  simp only [planOf, resolutions_eq, List.filter_map, List.map_map]
  exact List.map_id _

/-- The resolved dimensions of a plan are the others, in their order. -/
lemma dimensions_eq {fs : List Fact} {dimensions : List Dimension} {mappings : List Mapping}
    {columns : Option Columns} {join : JoinPlan}
    (h : resolve fs dimensions mappings columns = .ok join) :
    join.dimensions.map (·.dimension) =
      dimensions.filter fun d => !unjoined fs mappings (columns.getD []) d := by
  obtain ⟨_, _, _, _, rfl⟩ := resolve_ok h
  clear h
  simp only [planOf, resolutions_eq]
  induction dimensions with
  | nil => rfl
  | cons d dimensions ih =>
    have hnone := resolved?_isNone (resolution fs mappings (columns.getD []) d)
    rw [List.map_cons, List.filterMap_cons, List.filter_cons, unjoined, ← hnone]
    cases hr : (resolution fs mappings (columns.getD []) d).resolved? with
    | none => exact ih
    | some r => simpa [dimension_of_resolved? hr, resolution] using ih

lemma droppedWarning_mem {fs : List Fact} {dimensions : List Dimension}
    {mappings : List Mapping} {columns : Option Columns} {join : JoinPlan}
    (h : resolve fs dimensions mappings columns = .ok join) {d : Dimension}
    (hd : d ∈ join.dropped) : droppedWarning d ∈ join.warnings := by
  rw [dropped_eq h, List.mem_filter] at hd
  obtain ⟨_, _, _, _, rfl⟩ := resolve_ok h
  refine List.mem_append_right _ (List.mem_flatMap.mpr
    ⟨resolution fs mappings (columns.getD []) d, List.mem_map_of_mem hd.1, ?_⟩)
  have hjoined : (resolution fs mappings (columns.getD []) d).joined.isEmpty = true := hd.2
  refine List.mem_append_right _ ?_
  rw [if_pos hjoined]
  exact List.mem_singleton_self _

/-- A pair is joined over an edge between the table that the dimension is read from and the
table of the fact, or the dimension is read from the table of the fact. -/
lemma pair_cases (mappings : List Mapping) (columns : Columns) (f : Fact) (d : Dimension) :
    (∃ w, pair mappings columns f d = .apart w) ∨
      pair mappings columns f d = .joined none f.table d.column ∨
      ∃ e : JoinEdge, e.factTable = f.table ∧
        pair mappings columns f d = .joined (some e) e.table d.column := by
  unfold pair inferred
  cases mappingOf mappings f.id d.id with
  | some m => exact .inr (.inr ⟨_, rfl, rfl⟩)
  | none =>
    by_cases htable : d.table = f.table
    · simp [htable]
    by_cases hempty : (columns.of d.table).isEmpty
    · simp [htable, hempty]
    by_cases hcolumn : d.column ∈ columns.of d.table
    · cases hcommon : commonColumn (columns.of f.table) (columns.of d.table) with
      | none => simp [htable, hempty, hcolumn, hcommon]
      | some c =>
        refine .inr (.inr ⟨⟨d.table, c, f.table, c⟩, rfl, ?_⟩)
        simp [htable, hempty, hcolumn, hcommon]
    · simp [htable, hempty, hcolumn]

/-- The first of the facts that a dimension can be joined to, and the table that it reads the
dimension from. -/
structure FirstJoined (fs : List Fact) (mappings : List Mapping) (columns : Columns)
    (d : Dimension) (f : Fact) (table : String) : Prop where
  joined : (pair mappings columns f d).display? = some (table, d.column)
  first : ∃ before after, fs = before ++ f :: after ∧
    ∀ g ∈ before, (pair mappings columns g d).display? = none

/-- The first fact that a dimension can be joined to decides where it is read. -/
lemma resolved?_of_first {fs : List Fact} {mappings : List Mapping} {columns : Columns}
    {d : Dimension} {f : Fact} {table : String}
    (h : FirstJoined fs mappings columns d f table) :
    ∃ ids, (resolution fs mappings columns d).resolved? = some ⟨d, table, d.column, ids⟩ := by
  obtain ⟨before, after, rfl, hbefore⟩ := h.first
  have hnone : before.filterMap (fun g =>
      (pair mappings columns g d).display?.map fun p => (g, p)) = [] := by
    rw [List.filterMap_eq_nil_iff]
    intro g hg
    rw [hbefore g hg]
    rfl
  have hjoined := joined_resolution (before ++ f :: after) mappings columns d
  rw [List.filterMap_append, hnone, List.nil_append, List.filterMap_cons, h.joined] at hjoined
  simp only [Option.map_some] at hjoined
  unfold Resolution.resolved?
  rw [hjoined]
  exact ⟨_, rfl⟩

lemma mem_dimensions_iff {fs : List Fact} {dimensions : List Dimension}
    {mappings : List Mapping} {columns : Option Columns} {join : JoinPlan}
    (h : resolve fs dimensions mappings columns = .ok join) {r : ResolvedDimension} :
    r ∈ join.dimensions ↔
      ∃ d ∈ dimensions, (resolution fs mappings (columns.getD []) d).resolved? = some r := by
  obtain ⟨_, _, _, _, rfl⟩ := resolve_ok h
  simp [planOf, resolutions_eq, List.mem_filterMap]

/-! ### What a plan depends on -/

/-- The edges over which the facts are joined to one dimension. -/
def linksOf (fs : List Fact) (mappings : List Mapping) (columns : Columns) (d : Dimension) :
    List JoinEdge :=
  fs.filterMap fun f => (pair mappings columns f d).edge?

/-- The join tree of a plan is made of the edges of its dimensions. -/
lemma links_eq {fs : List Fact} {dimensions : List Dimension} {mappings : List Mapping}
    {columns : Option Columns} {join : JoinPlan}
    (h : resolve fs dimensions mappings columns = .ok join) :
    join.links = dimensions.flatMap (linksOf fs mappings (columns.getD [])) ∧
      join.edges = JoinEdge.distinct join.links := by
  obtain ⟨_, _, _, _, rfl⟩ := resolve_ok h
  refine ⟨?_, rfl⟩
  simp only [planOf, resolutions_eq, List.flatMap_map]
  refine List.flatMap_congr fun d _ => ?_
  simp only [Resolution.links, resolution, List.filterMap_map]
  rfl

/-- The outcome of a pair depends on its mapping and, if columns are needed, on the columns of
its two tables. -/
lemma pair_congr {mappings mappings' : List Mapping} {columns columns' : Columns} {f : Fact}
    {d : Dimension} (hm : mappingOf mappings' f.id d.id = mappingOf mappings f.id d.id)
    (hc : needsColumns mappings f d = true →
      columns'.of f.table = columns.of f.table ∧ columns'.of d.table = columns.of d.table) :
    pair mappings' columns' f d = pair mappings columns f d := by
  unfold pair
  rw [hm]
  cases hmapping : mappingOf mappings f.id d.id with
  | some m => rfl
  | none =>
    by_cases htable : d.table = f.table
    · simp [htable]
    · obtain ⟨hf, hd⟩ := hc (by simp [needsColumns, hmapping, htable])
      simp [htable, inferred, hf, hd]

/-- A plan depends on the outcomes of its pairs, and on whether columns that are needed are
missing. -/
lemma resolve_congr_of_missing {fs : List Fact} {dimensions : List Dimension}
    {mappings mappings' : List Mapping} {columns columns' : Option Columns}
    (hmissing : (columns'.isNone && !(neededTables fs dimensions mappings').isEmpty) =
      (columns.isNone && !(neededTables fs dimensions mappings).isEmpty))
    (h : ∀ f ∈ fs, ∀ d ∈ dimensions,
      pair mappings' (columns'.getD []) f d = pair mappings (columns.getD []) f d) :
    resolve fs dimensions mappings' columns' = resolve fs dimensions mappings columns := by
  cases fs with
  | nil => rfl
  | cons f fs =>
    have hres : resolutions (f :: fs) dimensions mappings' (columns'.getD []) =
        resolutions (f :: fs) dimensions mappings (columns.getD []) :=
      List.map_congr_left fun d hd => congrArg (Resolution.mk d)
        (List.map_congr_left fun g hg => by rw [h g hg d hd])
    simp only [resolve, hmissing, hres]

/-- With a catalog, a plan depends on the outcomes of its pairs only. -/
lemma resolve_congr {fs : List Fact} {dimensions : List Dimension}
    {mappings mappings' : List Mapping} {columns columns' : Columns}
    (h : ∀ f ∈ fs, ∀ d ∈ dimensions, pair mappings' columns' f d = pair mappings columns f d) :
    resolve fs dimensions mappings' (some columns') =
      resolve fs dimensions mappings (some columns) :=
  resolve_congr_of_missing rfl h

/-- The tables that are needed depend on which pairs need columns. -/
lemma neededTables_congr {fs : List Fact} {dimensions : List Dimension}
    {mappings mappings' : List Mapping}
    (h : ∀ f ∈ fs, ∀ d ∈ dimensions, needsColumns mappings' f d = needsColumns mappings f d) :
    neededTables fs dimensions mappings' = neededTables fs dimensions mappings := by
  unfold neededTables
  have htables : ∀ d ∈ dimensions, fs.filter (needsColumns mappings' · d) =
      fs.filter (needsColumns mappings · d) :=
    fun d hd => List.filter_congr fun f hf => h f hf d hd
  rw [List.flatMap_congr fun d hd => by rw [htables d hd]]

/-- Looked-up columns are those of the catalog. -/
lemma of_map (g : String → List String) {tables : List String} {t : String} (ht : t ∈ tables) :
    Columns.of (tables.map fun t => (t, g t)) t = g t := by
  have hfound : ((tables.map fun t => (t, g t)).find? (·.1 == t)).isSome :=
    List.find?_isSome.mpr ⟨(t, g t), List.mem_map_of_mem ht, by simp⟩
  obtain ⟨e, he⟩ := Option.isSome_iff_exists.mp hfound
  obtain ⟨u, _, rfl⟩ := List.mem_map.mp (List.mem_of_find?_eq_some he)
  obtain rfl : u = t := by simpa using List.find?_some he
  rw [Columns.of, he]
  rfl

/-- The tables of a pair that needs columns are looked up. -/
lemma mem_neededTables {fs : List Fact} {dimensions : List Dimension} {mappings : List Mapping}
    {f : Fact} (hf : f ∈ fs) {d : Dimension} (hd : d ∈ dimensions)
    (hneeds : needsColumns mappings f d = true) :
    f.table ∈ neededTables fs dimensions mappings ∧
      d.table ∈ neededTables fs dimensions mappings := by
  simp only [neededTables, List.mem_mergeSort, List.mem_eraseDups, List.mem_flatMap,
    List.mem_filter]
  exact ⟨⟨d, hd, f, ⟨hf, hneeds⟩, by simp⟩, ⟨d, hd, f, ⟨hf, hneeds⟩, by simp⟩⟩

end MetricLayer.Join
