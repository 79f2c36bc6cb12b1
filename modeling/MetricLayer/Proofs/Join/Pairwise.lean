import Mathlib.Data.String.Basic
import MetricLayer.Proofs.Join.Resolution
import MetricLayer.Proofs.Keyed

/-!
# Plans pair by pair

A pair of a fact and a dimension is resolved by its last mapping; else by being on one table;
else by the first column that the tables share in the catalog. The plan is put together from
the pairs, although the columns of all tables that pairs need are looked up at once beforehand:
the tables looked up are exactly those of pairs without a mapping and on different tables.
-/
namespace MetricLayer.Join

/-- What a pair is resolved to: the edge to join over, if one is needed, and the table that the
dimension is read from. -/
structure Place where
  edge : Option JoinEdge
  table : String
  deriving DecidableEq, Repr

/-- No mapping is listed for a pair. -/
def Unmapped (mappings : List Mapping) (f : Fact) (d : Dimension) : Prop :=
  ∀ m ∈ mappings, m.pair ≠ (f.id, d.id)

/-- How one pair is resolved, with the columns of tables as a catalog knows them, if there is
one. -/
inductive Resolves (catalog : Option (String → List String)) (mappings : List Mapping)
    (f : Fact) (d : Dimension) : Place → Prop
  /-- By the last mapping listed for the pair. -/
  | mapped {before after : List Mapping} {m : Mapping} (listed : mappings = before ++ m :: after)
      (pair : m.pair = (f.id, d.id)) (last : Unmapped after f d) :
      Resolves catalog mappings f d ⟨some (mappedEdge f m), m.joinTable⟩
  /-- By being on one table. -/
  | shared (unmapped : Unmapped mappings f d) (table : d.table = f.table) :
      Resolves catalog mappings f d ⟨none, f.table⟩
  /-- By the first column of the fact's table that the dimension's table has too. -/
  | inferred {columns : String → List String} {before after : List String} {c : String}
      (unmapped : Unmapped mappings f d) (table : d.table ≠ f.table)
      (known : catalog = some columns) (column : d.column ∈ columns d.table)
      (listed : columns f.table = before ++ c :: after) (common : c ∈ columns d.table)
      (first : ∀ b ∈ before, b ∉ columns d.table) :
      Resolves catalog mappings f d ⟨some ⟨d.table, c, f.table, c⟩, d.table⟩

/-- The place of one pair, by direct lookups. -/
def placeOf (catalog : Option (String → List String)) (mappings : List Mapping) (f : Fact)
    (d : Dimension) : Option Place :=
  match mappingOf mappings f.id d.id with
  | some m => some ⟨some (mappedEdge f m), m.joinTable⟩
  | none =>
    if d.table = f.table then some ⟨none, f.table⟩
    else
      match catalog with
      | none => none
      | some columns =>
        if d.column ∈ columns d.table then
          (commonColumn (columns f.table) (columns d.table)).map fun c =>
            ⟨some ⟨d.table, c, f.table, c⟩, d.table⟩
        else none

/-- The warning for a pair without a mapping and on different tables, if the catalog knows the
dimension's table but not its column. -/
def columnWarning? (catalog : Option (String → List String)) (mappings : List Mapping)
    (f : Fact) (d : Dimension) : Option String :=
  match catalog with
  | none => none
  | some columns =>
    if needsColumns mappings f d ∧ columns d.table ≠ [] ∧ d.column ∉ columns d.table then
      some ("Column '" ++ d.column ++ "' of dimension '" ++ d.name ++ "' not found in table '" ++
        d.table ++ "'")
    else none

section

variable {catalog : Option (String → List String)} {fs : List Fact} {dimensions : List Dimension}
  {mappings : List Mapping} {f : Fact} {d : Dimension}

lemma needsColumns_iff :
    needsColumns mappings f d = true ↔ Unmapped mappings f d ∧ d.table ≠ f.table := by
  simp [needsColumns, Unmapped, ← mappingOf_eq_none_iff]

/-- The first column of the fact's table that the dimension's table has too. -/
lemma commonColumn_eq_some_iff {factColumns dimensionColumns : List String} {c : String} :
    commonColumn factColumns dimensionColumns = some c ↔
      ∃ before after, factColumns = before ++ c :: after ∧ c ∈ dimensionColumns ∧
        ∀ b ∈ before, b ∉ dimensionColumns := by
  rw [commonColumn, List.find?_eq_some_iff_append]
  constructor
  · rintro ⟨hc, before, after, hlisted, hfirst⟩
    exact ⟨before, after, hlisted, by simpa using hc, by simpa using hfirst⟩
  · rintro ⟨before, after, hlisted, hc, hfirst⟩
    exact ⟨by simpa using hc, before, after, hlisted, by simpa using hfirst⟩

/-- The place of a pair is the one that it is resolved to. -/
theorem placeOf_eq_some_iff {p : Place} :
    placeOf catalog mappings f d = some p ↔ Resolves catalog mappings f d p := by
  unfold placeOf
  constructor
  · intro h
    cases hm : mappingOf mappings f.id d.id with
    | some m =>
      rw [hm] at h
      obtain rfl := Option.some.inj h
      obtain ⟨before, after, hlisted, hpair, hlast⟩ := mappingOf_eq_some_iff.mp hm
      exact .mapped hlisted hpair hlast
    | none =>
      have hunmapped : Unmapped mappings f d := mappingOf_eq_none_iff.mp hm
      rw [hm] at h
      dsimp only at h
      split at h
      · rename_i htable
        obtain rfl := Option.some.inj h
        exact .shared hunmapped htable
      · rename_i htable
        split at h
        · cases h
        · rename_i columns
          split at h
          · rename_i hcolumn
            obtain ⟨c, hc, rfl⟩ := Option.map_eq_some_iff.mp h
            obtain ⟨before, after, hlisted, hcommon, hfirst⟩ := commonColumn_eq_some_iff.mp hc
            exact .inferred hunmapped htable rfl hcolumn hlisted hcommon hfirst
          · cases h
  · intro h
    cases h with
    | mapped listed pair last =>
      rw [mappingOf_eq_some_iff.mpr ⟨_, _, listed, pair, last⟩]
    | shared unmapped table =>
      rw [mappingOf_eq_none_iff.mpr unmapped]
      simp [table]
    | inferred unmapped table known column listed common first =>
      rw [mappingOf_eq_none_iff.mpr unmapped, known]
      simp [table, column, commonColumn_eq_some_iff.mpr ⟨_, _, listed, common, first⟩]

/-! ### Looking up beforehand -/

/-- The columns of the tables that pairs need, as the catalog knows them. -/
def lookedUp (catalog : Option (String → List String)) (fs : List Fact)
    (dimensions : List Dimension) (mappings : List Mapping) : Option Columns :=
  catalog.map fun columns => (neededTables fs dimensions mappings).map fun t => (t, columns t)

/-- The tables that are looked up are those of the pairs without a mapping and on different
tables. -/
theorem mem_neededTables_iff {t : String} :
    t ∈ neededTables fs dimensions mappings ↔
      ∃ d ∈ dimensions, ∃ f ∈ fs, (Unmapped mappings f d ∧ d.table ≠ f.table) ∧
        (t = f.table ∨ t = d.table) := by
  simp only [neededTables, List.mem_mergeSort, List.mem_eraseDups, List.mem_flatMap,
    List.mem_filter, needsColumns_iff, List.mem_cons, List.not_mem_nil, or_false, and_assoc]

/-- Each table is looked up once, in alphabetical order. -/
theorem neededTables_ascending (fs : List Fact) (dimensions : List Dimension)
    (mappings : List Mapping) : (neededTables fs dimensions mappings).Pairwise (· < ·) := by
  have hsorted : (neededTables fs dimensions mappings).Pairwise (· ≤ ·) := by
    refine (List.pairwise_mergeSort ?_ ?_ _).imp fun h => of_decide_eq_true h
    · intro s t u hst htu
      exact decide_eq_true (le_trans (of_decide_eq_true hst) (of_decide_eq_true htu))
    · intro s t
      simpa using le_total s t
  have hnodup : (neededTables fs dimensions mappings).Nodup :=
    (List.mergeSort_perm _ _).nodup_iff.mpr (nodup_eraseDups _)
  exact (hsorted.and hnodup).imp fun h => lt_of_le_of_ne h.1 h.2

/-- A pair whose tables were looked up has the outcome of direct lookups. -/
lemma pair_lookedUp (hf : f ∈ fs) (hd : d ∈ dimensions) :
    pair mappings ((lookedUp catalog fs dimensions mappings).getD []) f d =
      match placeOf catalog mappings f d with
      | some p => .joined p.edge p.table d.column
      | none => .apart (columnWarning? catalog mappings f d) := by
  unfold pair placeOf
  cases hm : mappingOf mappings f.id d.id with
  | some m => rfl
  | none =>
    by_cases htable : d.table = f.table
    · simp [htable]
    have hneeds : needsColumns mappings f d = true :=
      needsColumns_iff.mpr ⟨mappingOf_eq_none_iff.mp hm, htable⟩
    cases catalog with
    | none => simp [htable, inferred, lookedUp, Columns.of, columnWarning?]
    | some columns =>
      obtain ⟨hftable, hdtable⟩ := mem_neededTables hf hd hneeds
      simp only [lookedUp, Option.map_some, Option.getD_some, inferred, of_map columns hftable,
        of_map columns hdtable, beq_iff_eq, htable, if_false, columnWarning?, hneeds]
      by_cases hempty : columns d.table = []
      · simp [hempty]
      by_cases hcolumn : d.column ∈ columns d.table
      · cases commonColumn (columns f.table) (columns d.table) <;> simp [hempty, hcolumn]
      · simp [hempty, hcolumn]

lemma display?_lookedUp (hf : f ∈ fs) (hd : d ∈ dimensions) :
    (pair mappings ((lookedUp catalog fs dimensions mappings).getD []) f d).display? =
      (placeOf catalog mappings f d).map fun p => (p.table, d.column) := by
  rw [pair_lookedUp hf hd]
  cases placeOf catalog mappings f d <;> rfl

lemma edge?_lookedUp (hf : f ∈ fs) (hd : d ∈ dimensions) :
    (pair mappings ((lookedUp catalog fs dimensions mappings).getD []) f d).edge? =
      (placeOf catalog mappings f d).bind (·.edge) := by
  rw [pair_lookedUp hf hd]
  cases placeOf catalog mappings f d <;> rfl

/-- A pair that is resolved warns of nothing. -/
lemma columnWarning?_of_placeOf {p : Place} (h : placeOf catalog mappings f d = some p) :
    columnWarning? catalog mappings f d = none := by
  unfold columnWarning?
  cases catalog with
  | none => rfl
  | some columns =>
    refine if_neg fun hwarns => ?_
    obtain ⟨hunmapped, htable⟩ := needsColumns_iff.mp hwarns.1
    simp [placeOf, mappingOf_eq_none_iff.mpr hunmapped, htable, hwarns.2.2] at h

lemma warning?_lookedUp (hf : f ∈ fs) (hd : d ∈ dimensions) :
    (pair mappings ((lookedUp catalog fs dimensions mappings).getD []) f d).warning? =
      columnWarning? catalog mappings f d := by
  rw [pair_lookedUp hf hd]
  cases hp : placeOf catalog mappings f d with
  | none => rfl
  | some p => exact (columnWarning?_of_placeOf hp).symm

/-! ### Dimensions -/

lemma map_filter_isSome {α β γ : Type} (place : α → Option β) (g : α → γ) (xs : List α) :
    (xs.filter fun x => (place x).isSome).map g =
      xs.filterMap fun x => (place x).map fun _ => g x := by
  induction xs with
  | nil => rfl
  | cons x xs ih => cases hx : place x <;> simp [hx, ih]

/-- The facts that a dimension is joined to are those whose pair is resolved. -/
lemma joined_lookedUp (hd : d ∈ dimensions) :
    (resolution fs mappings ((lookedUp catalog fs dimensions mappings).getD []) d).joined =
      fs.filterMap fun f =>
        (placeOf catalog mappings f d).map fun p => (f, p.table, d.column) := by
  rw [joined_resolution]
  refine List.filterMap_congr fun f hf => ?_
  rw [display?_lookedUp hf hd, Option.map_map]
  rfl

lemma unjoined_lookedUp (hd : d ∈ dimensions) :
    unjoined fs mappings ((lookedUp catalog fs dimensions mappings).getD []) d =
      fs.all fun f => (placeOf catalog mappings f d).isNone := by
  rw [unjoined, joined_lookedUp hd, Bool.eq_iff_iff, List.isEmpty_iff,
    List.filterMap_eq_nil_iff, List.all_eq_true]
  simp

/-- A resolved dimension lists the facts that it is joined to, and is read where the first of
them reads it. -/
lemma Resolution.resolved?_ok {r : Resolution} {s : ResolvedDimension}
    (h : r.resolved? = some s) :
    s.dimension = r.dimension ∧ s.factIds = r.joined.map (·.1.id) ∧
      r.joined.head?.map (·.2) = some (s.table, s.column) := by
  unfold Resolution.resolved? at h
  split at h
  · cases h
  · rename_i hjoined
    obtain rfl := Option.some.inj h
    rw [hjoined]
    exact ⟨rfl, rfl, rfl⟩

end

/-! ### The plan -/

/-- A plan that is put together from the places of its pairs. -/
structure MadePairwise (catalog : Option (String → List String)) (fs : List Fact)
    (dimensions : List Dimension) (mappings : List Mapping) (join : JoinPlan) : Prop where
  /-- The table of the first fact. -/
  base : fs.head?.map (·.table) = some join.base
  /-- The dimensions that some fact resolves, in their order. -/
  kept : join.dimensions.map (·.dimension) =
    dimensions.filter fun d => fs.any fun f => (placeOf catalog mappings f d).isSome
  /-- The dimensions that no fact resolves, in their order. -/
  dropped : join.dropped =
    dimensions.filter fun d => fs.all fun f => (placeOf catalog mappings f d).isNone
  /-- The facts that resolve a dimension, in their order. -/
  factIds : ∀ r ∈ join.dimensions, r.factIds =
    (fs.filter fun f => (placeOf catalog mappings f r.dimension).isSome).map (·.id)
  /-- A dimension is read where the first fact that resolves it reads it. -/
  display : ∀ r ∈ join.dimensions,
    (fs.findSome? fun f => placeOf catalog mappings f r.dimension).map (·.table) = some r.table ∧
      r.column = r.dimension.column
  /-- The edges of all pairs, dimension by dimension. -/
  links : join.links = dimensions.flatMap fun d =>
    fs.filterMap fun f => (placeOf catalog mappings f d).bind (·.edge)
  /-- The first edge of every key. -/
  edges : join.edges = join.links.eraseDupsBy fun e e' => e'.key == e.key
  /-- The missing catalog, then for each dimension the columns that tables lack and whether it
  is dropped. -/
  warnings : join.warnings =
    (if catalog.isNone ∧ neededTables fs dimensions mappings ≠ [] then [noCatalogWarning]
      else []) ++
      dimensions.flatMap fun d => fs.filterMap (columnWarning? catalog mappings · d) ++
        if fs.all fun f => (placeOf catalog mappings f d).isNone then [droppedWarning d] else []

lemma warnings_lookedUp {catalog : Option (String → List String)} {fs : List Fact}
    {dimensions : List Dimension} {mappings : List Mapping} {d : Dimension}
    (hd : d ∈ dimensions) :
    (resolution fs mappings ((lookedUp catalog fs dimensions mappings).getD []) d).warnings =
      fs.filterMap (columnWarning? catalog mappings · d) ++
        if fs.all fun f => (placeOf catalog mappings f d).isNone then [droppedWarning d]
        else [] := by
  have hpairs : (resolution fs mappings ((lookedUp catalog fs dimensions mappings).getD [])
      d).outcomes.filterMap (·.2.warning?) =
        fs.filterMap (columnWarning? catalog mappings · d) := by
    rw [resolution, List.filterMap_map]
    exact List.filterMap_congr fun f hf => warning?_lookedUp hf hd
  rw [Resolution.warnings, hpairs, ← unjoined_lookedUp hd]
  rfl

/-- What the resolver makes of facts and dimensions is put together from the places of the
pairs. -/
theorem madePairwise_of_resolve {catalog : Option (String → List String)} {fs : List Fact}
    {dimensions : List Dimension} {mappings : List Mapping} {join : JoinPlan}
    (h : resolve fs dimensions mappings (lookedUp catalog fs dimensions mappings) = .ok join) :
    MadePairwise catalog fs dimensions mappings join where
  base := base_eq h
  kept := by
    rw [dimensions_eq h]
    refine List.filter_congr fun d hd => ?_
    rw [unjoined_lookedUp hd, List.not_all_eq_any_not]
    simp
  dropped := by
    rw [dropped_eq h]
    exact List.filter_congr fun d hd => unjoined_lookedUp hd
  factIds := by
    intro r hr
    obtain ⟨d, hd, hresolved⟩ := (mem_dimensions_iff h).mp hr
    obtain ⟨hdim, hids, _⟩ := Resolution.resolved?_ok hresolved
    rw [hids, hdim, joined_lookedUp hd, List.map_filterMap, map_filter_isSome]
    simp only [Option.map_map]
    rfl
  display := by
    intro r hr
    obtain ⟨d, hd, hresolved⟩ := (mem_dimensions_iff h).mp hr
    obtain ⟨hdim, _, hhead⟩ := Resolution.resolved?_ok hresolved
    have hplace : (fs.findSome? fun f => placeOf catalog mappings f d).map
        (fun p => (p.table, d.column)) = some (r.table, r.column) := by
      rw [← hhead, joined_lookedUp hd, List.head?_filterMap, List.map_findSome?,
        List.map_findSome?]
      simp only [Function.comp_def, Option.map_map]
    obtain ⟨p, hp, hread⟩ := Option.map_eq_some_iff.mp hplace
    obtain ⟨htable, hcolumn⟩ := Prod.mk.inj hread
    have hdim : r.dimension = d := hdim
    rw [hdim, hp]
    exact ⟨congrArg some htable, hcolumn.symm⟩
  links := by
    rw [(links_eq h).1]
    refine List.flatMap_congr fun d hd => ?_
    exact List.filterMap_congr fun f hf => edge?_lookedUp hf hd
  edges := by
    rw [(links_eq h).2]
    exact foldl_keepFirst JoinEdge.key join.links
  warnings := by
    cases fs with
    | nil => cases h
    | cons f fs =>
      obtain rfl := Except.ok.inj h
      have hmissing : (lookedUp catalog (f :: fs) dimensions mappings).isNone =
          catalog.isNone := Option.isNone_map
      simp only [planOf, resolutions_eq, List.flatMap_map, hmissing]
      congr 1
      · simp
      · exact List.flatMap_congr fun d hd => warnings_lookedUp hd

/-- Facts and dimensions are resolved pair by pair, with the columns as the catalog knows them,
and the catalog is asked for the tables of unmapped pairs on different tables only. -/
theorem resolve_pairwise (f : Fact) (fs : List Fact) (dimensions : List Dimension)
    (mappings : List Mapping) (catalog : Option (String → List String)) :
    (∃ join, resolve (f :: fs) dimensions mappings
        (catalog.map fun columns =>
          (neededTables (f :: fs) dimensions mappings).map fun t => (t, columns t)) = .ok join ∧
      MadePairwise catalog (f :: fs) dimensions mappings join) ∧
      (∀ g d p, placeOf catalog mappings g d = some p ↔ Resolves catalog mappings g d p) ∧
      (neededTables (f :: fs) dimensions mappings).Pairwise (· < ·) ∧
      ∀ t, t ∈ neededTables (f :: fs) dimensions mappings ↔
        ∃ d ∈ dimensions, ∃ g ∈ f :: fs, (Unmapped mappings g d ∧ d.table ≠ g.table) ∧
          (t = g.table ∨ t = d.table) := by
  obtain ⟨join, hjoin⟩ := exists_resolve (List.cons_ne_nil f fs) dimensions mappings
    (lookedUp catalog (f :: fs) dimensions mappings)
  exact ⟨⟨join, hjoin, madePairwise_of_resolve hjoin⟩, fun _ _ _ => placeOf_eq_some_iff,
    neededTables_ascending _ _ _, fun _ => mem_neededTables_iff⟩

end MetricLayer.Join
