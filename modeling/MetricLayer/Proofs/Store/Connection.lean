import MetricLayer.Proofs.Store.Distinct

/-!
# The records of a connection

What a store holds of one connection: its facts, dimensions and derived metrics, and the
mappings between them. Where ids are told apart, a lookup on a connection reads no other
records.
-/
namespace MetricLayer.Store

/-! ### Facts -/

/-- The facts of a connection by their ids, as far as they can be read, in the order in which
the store lists them. -/
def factRecords (s : Store) (connectionId : Int) : List (Int × Except Fault Fact) :=
  match s with
  | memory m => (m.factsOn connectionId).map fun f => (f.id, .ok f)
  | relational r => (sortById (·.id) (r.facts.filter (·.connectionId == connectionId))).map
      fun row => (row.id, row.read)

/-- The ids of the facts of a connection, whether or not they can be read. -/
def factIdsOn (s : Store) (connectionId : Int) : List Int :=
  (s.factRecords connectionId).map (·.1)

/-- Facts with some ids can be read, as far as they are on a connection. -/
def Readable (s : Store) (connectionId : Int) (ids : List Int) : Prop :=
  ∀ record ∈ s.factRecords connectionId, record.1 ∈ ids → ∃ f, record.2 = .ok f

variable {s : Store} {connectionId : Int} {ids : List Int}

lemma id_of_factRecords {id : Int} {f : Fact} (h : (id, .ok f) ∈ s.factRecords connectionId) :
    f.id = id := by
  cases s with
  | memory m =>
    obtain ⟨g, _, heq⟩ := List.mem_map.mp h
    obtain ⟨rfl, hok⟩ := Prod.mk.inj heq
    rw [Except.ok.inj hok]
  | relational r =>
    obtain ⟨row, _, heq⟩ := List.mem_map.mp h
    obtain ⟨rfl, hread⟩ := Prod.mk.inj heq
    exact (FactRow.read_ok hread).1

lemma factsOn_eq (s : Store) (connectionId : Int) :
    s.factsOn connectionId = (s.factRecords connectionId).mapM (·.2) := by
  cases s with
  | memory m =>
    rw [factRecords, List.mapM_map]
    exact (mapM_ok _).symm
  | relational r =>
    rw [factRecords, List.mapM_map]
    rfl

/-- A fact that cannot be read is one of the connection. -/
lemma factsOn_error {e : Fault} (h : s.factsOn connectionId = .error e) :
    ∃ id, (id, .error e) ∈ s.factRecords connectionId := by
  rw [factsOn_eq] at h
  obtain ⟨⟨id, r⟩, hrecord, rfl⟩ := mapM_eq_error h
  exact ⟨id, hrecord⟩

/-- The facts of given ids are found among those of the connection. -/
lemma factsOf_eq (hkeyed : s.Keyed) (connectionId : Int) (hids : ids.Nodup) :
    s.factsOf connectionId ids =
      ((s.factRecords connectionId).filter fun record => ids.contains record.1).mapM (·.2) >>=
        fun found => .ok (ids.filterMap fun id => found.find? (·.id == id)) := by
  cases s with
  | memory m =>
    rw [factRecords, List.filter_map, List.mapM_map]
    show _ = (List.mapM (fun f => (.ok f : Except Fault Fact)) _ >>= _)
    rw [mapM_ok]
    refine congrArg Except.ok ?_
    rw [Memory.factsOf, List.filter_filterMap, Memory.factsOn, List.filter_filter]
    refine List.filterMap_congr fun id hid => ?_
    rw [find?_filter_key hkeyed.1]
    cases hf : m.facts.find? (·.id == id) with
    | none => rfl
    | some f =>
      have hfid : f.id = id := by simpa using List.find?_some hf
      simp [Option.filter, hfid, hid]
  | relational r =>
    have hrows : sortById (·.id) (r.facts.filter fun f =>
          f.connectionId == connectionId && ids.contains f.id) =
        (sortById (·.id) (r.facts.filter (·.connectionId == connectionId))).filter
          fun row => ids.contains row.id := by
      simp only [← sortById_filter, List.filter_filter, Bool.and_comm]
    show (List.mapM FactRow.read _ >>= _) = _
    rw [hrows, eraseDups_of_nodup hids, factRecords, List.filter_map, List.mapM_map]
    rfl

/-- A fact that cannot be read is one of those that are asked for. -/
lemma factsOf_error (hkeyed : s.Keyed) (hids : ids.Nodup) {e : Fault}
    (h : s.factsOf connectionId ids = .error e) :
    ∃ id ∈ ids, (id, .error e) ∈ s.factRecords connectionId := by
  rw [factsOf_eq hkeyed connectionId hids] at h
  rcases bind_eq_error h with h | ⟨_, _, h⟩
  · obtain ⟨⟨id, r⟩, hrecord, rfl⟩ := mapM_eq_error h
    obtain ⟨hmem, hid⟩ := List.mem_filter.mp hrecord
    exact ⟨id, by simpa using hid, hmem⟩
  · cases h

/-- Facts are found if all of them can be read. -/
lemma readable_iff (hkeyed : s.Keyed) (hids : ids.Nodup) :
    s.Readable connectionId ids ↔ ∃ fs, s.factsOf connectionId ids = .ok fs := by
  constructor
  · intro h
    cases hfs : s.factsOf connectionId ids with
    | ok fs => exact ⟨fs, rfl⟩
    | error e =>
      obtain ⟨id, hid, hrecord⟩ := factsOf_error hkeyed hids hfs
      obtain ⟨f, hf⟩ := h _ hrecord hid
      cases hf
  · rintro ⟨fs, hfs⟩ record hrecord hid
    rw [factsOf_eq hkeyed connectionId hids] at hfs
    obtain ⟨found, hfound, _⟩ := bind_eq_ok hfs
    obtain ⟨f, _, hf⟩ := exists_of_mapM hfound
      (List.mem_filter.mpr ⟨hrecord, List.contains_iff_mem.mpr hid⟩)
    exact ⟨f, hf⟩

lemma readable_eraseDups (s : Store) (connectionId : Int) (ids : List Int) :
    s.Readable connectionId ids.eraseDups ↔ s.Readable connectionId ids := by
  simp only [Readable, List.mem_eraseDups]

/-- Of the ids that are asked for, those of the connection are found. -/
lemma mem_factsOf (hkeyed : s.Keyed) (hids : ids.Nodup) {fs : List Fact}
    (h : s.factsOf connectionId ids = .ok fs) {id : Int} (hid : id ∈ ids) :
    id ∈ fs.map (·.id) ↔ id ∈ s.factIdsOn connectionId := by
  rw [factsOf_eq hkeyed connectionId hids] at h
  obtain ⟨found, hfound, h⟩ := bind_eq_ok h
  obtain rfl := Except.ok.inj h
  have hids' : id ∈ (ids.filterMap fun id => found.find? (·.id == id)).map (·.id) ↔
      id ∈ found.map (·.id) := by
    constructor
    · intro hin
      obtain ⟨f, hf, rfl⟩ := List.mem_map.mp hin
      obtain ⟨_, _, hf⟩ := List.mem_filterMap.mp hf
      exact List.mem_map_of_mem (List.mem_of_find?_eq_some hf)
    · intro hin
      obtain ⟨f, hf, hfid⟩ := List.mem_map.mp hin
      obtain ⟨g, hg⟩ := Option.isSome_iff_exists.mp
        (List.find?_isSome (p := (·.id == id)).mpr ⟨f, hf, by simpa using hfid⟩)
      have hgid : g.id = id := by simpa using List.find?_some hg
      exact List.mem_map.mpr ⟨g, List.mem_filterMap.mpr ⟨id, hid, hg⟩, hgid⟩
  rw [hids']
  constructor
  · intro hin
    obtain ⟨f, hf, rfl⟩ := List.mem_map.mp hin
    obtain ⟨⟨i, r⟩, hrecord, rfl⟩ := (mem_mapM_iff hfound).mp hf
    have hmem := (List.mem_filter.mp hrecord).1
    rw [id_of_factRecords hmem]
    exact List.mem_map_of_mem (f := Prod.fst) hmem
  · intro hin
    obtain ⟨⟨i, r⟩, hmem, rfl⟩ := List.mem_map.mp hin
    obtain ⟨f, hf, rfl⟩ := exists_of_mapM hfound
      (List.mem_filter.mpr ⟨hmem, List.contains_iff_mem.mpr hid⟩)
    exact List.mem_map.mpr ⟨f, hf, id_of_factRecords hmem⟩

/-- Where all facts of a connection can be read, each of them is found by its id. -/
lemma factsOf_singleton (hkeyed : s.Keyed) {all : List Fact}
    (hall : s.factsOn connectionId = .ok all) {f : Fact} (hf : f ∈ all) :
    s.factsOf connectionId [f.id] = .ok [f] := by
  have hread : s.Readable connectionId [f.id] := by
    intro record hrecord _
    rw [factsOn_eq] at hall
    obtain ⟨g, _, hg⟩ := exists_of_mapM hall hrecord
    exact ⟨g, hg⟩
  obtain ⟨fs, hfs⟩ := (readable_iff hkeyed (List.nodup_singleton _)).mp hread
  have hsame : ∀ g ∈ fs, g.id = f.id → g = f := fun g hg hid =>
    List.inj_on_of_nodup_map (hkeyed.facts hall) (factsOf_subset hfs hall g hg) hf hid
  have hid : f.id ∈ s.factIdsOn connectionId := by
    rw [factsOn_eq] at hall
    obtain ⟨⟨id, r⟩, hrecord, rfl⟩ := (mem_mapM_iff hall).mp hf
    rw [id_of_factRecords hrecord]
    exact List.mem_map_of_mem (f := Prod.fst) hrecord
  have hfound := (mem_factsOf hkeyed (List.nodup_singleton _) hfs List.mem_cons_self).mpr hid
  obtain ⟨look, rfl, hlook⟩ := factsOf_ok (List.nodup_singleton _) hfs
  rw [hfs]
  cases hg : look f.id with
  | none => simp [hg] at hfound
  | some g =>
    rw [List.filterMap_cons, hg, List.filterMap_nil,
      hsame g (by simp [hg]) (hlook _ _ hg)]

/-! ### Dimensions and derived metrics -/

/-- The dimension of an id is found among those of the connection. -/
lemma dimension?_eq (hkeyed : s.Keyed) (connectionId id : Int) :
    s.dimension? connectionId id = (s.dimensionsOn connectionId).find? (·.id == id) := by
  cases s with
  | memory m => exact (find?_filter_key hkeyed.2 _ _).symm
  | relational r =>
    have hrows : ((r.dimensions.filter (·.connectionId == connectionId)).map (·.id)).Nodup :=
      (List.filter_sublist.map _).nodup hkeyed.2
    ext x
    rw [dimension?, dimensionsOn, Relational.dimensionsOn, find?_key_iff hrows,
      find?_key_iff (nodup_sortById hkeyed.2 _), sortById, List.mem_mergeSort]

/-- The ids of the dimensions of a connection. -/
def dimensionIdsOn (s : Store) (connectionId : Int) : List Int :=
  (s.dimensionsOn connectionId).map (·.id)

/-- The derived metrics of a connection. -/
def kpisOn (s : Store) (connectionId : Int) : List Kpi :=
  s.kpis.filter (·.connectionId == connectionId)

/-- The derived metric of an id is found among those of the connection. -/
lemma kpi?_eq (hdistinct : s.Distinct) (connectionId id : Int) :
    s.kpi? connectionId id = (s.kpisOn connectionId).find? (·.id == id) := by
  cases s with
  | memory m => exact (find?_filter_key hdistinct.kpis _ _).symm
  | relational r =>
    rw [kpisOn, List.find?_filter]
    refine congrArg (List.find? · r.kpis) (funext fun k => Bool.eq_iff_iff.mpr ?_)
    simp [and_comm]

/-! ### Mappings -/

/-- Whether a mapping is between a fact and a dimension of a connection. -/
def isOn (s : Store) (connectionId : Int) (m : Mapping) : Bool :=
  (s.factIdsOn connectionId).contains m.factId &&
    (s.dimensionIdsOn connectionId).contains m.dimensionId

lemma isOn_congr {s' : Store} (hfacts : s'.factRecords connectionId = s.factRecords connectionId)
    (hdimensions : s'.dimensionsOn connectionId = s.dimensionsOn connectionId) :
    s'.isOn connectionId = s.isOn connectionId := by
  funext m
  rw [isOn, isOn, factIdsOn, factIdsOn, dimensionIdsOn, dimensionIdsOn, hfacts, hdimensions]

/-- The mappings between the facts and the dimensions of a connection, without their ids. -/
def mappingsOn (s : Store) (connectionId : Int) : List Mapping :=
  (s.mappings.filter (s.isOn connectionId)).map Mapping.unnumbered

/-- The mapping of a pair is found among those of the connection. -/
lemma mappingOf_eq_iff (hdistinct : s.Distinct) {factId dimensionId : Int}
    (hf : factId ∈ s.factIdsOn connectionId) (hx : dimensionId ∈ s.dimensionIdsOn connectionId)
    {x : Mapping} :
    (Join.mappingOf s.mappings factId dimensionId).map Mapping.unnumbered = some x ↔
      x ∈ s.mappingsOn connectionId ∧ x.pair = (factId, dimensionId) := by
  have hfind : ∀ m, Join.mappingOf s.mappings factId dimensionId = some m ↔
      m ∈ s.mappings ∧ m.pair = (factId, dimensionId) :=
    fun m => find?_reverse_key_iff hdistinct.pairs (k := (factId, dimensionId))
  rw [Option.map_eq_some_iff, mappingsOn, List.mem_map]
  constructor
  · rintro ⟨m, hm, rfl⟩
    obtain ⟨hmem, hpair⟩ := (hfind m).mp hm
    obtain ⟨rfl, rfl⟩ := Prod.mk.inj hpair
    exact ⟨⟨m, List.mem_filter.mpr ⟨hmem, by simp [isOn, hf, hx]⟩, rfl⟩, rfl⟩
  · rintro ⟨⟨m, hm, rfl⟩, hpair⟩
    exact ⟨m, (hfind m).mpr ⟨(List.mem_filter.mp hm).1, hpair⟩, rfl⟩

/-! ### Stores that hold the same of a connection -/

/-- Two stores list the same facts, dimensions and derived metrics of a connection in the same
order, and hold the same mappings between them. -/
structure SameOn (connectionId : Int) (s s' : Store) : Prop where
  facts : s'.factRecords connectionId = s.factRecords connectionId
  dimensions : s'.dimensionsOn connectionId = s.dimensionsOn connectionId
  kpis : s'.kpisOn connectionId = s.kpisOn connectionId
  mappings : ∀ m, m ∈ s'.mappingsOn connectionId ↔ m ∈ s.mappingsOn connectionId

namespace SameOn

variable {s' : Store}

/-- Stores that hold the same of a connection agree on it. -/
theorem agree (h : SameOn connectionId s s') (hs : s.Distinct) (hs' : s'.Distinct) :
    Agree connectionId s s' where
  factsOn := by rw [factsOn_eq, factsOn_eq, h.facts]
  factsOf ids hids := by rw [factsOf_eq hs.keyed _ hids, factsOf_eq hs'.keyed _ hids, h.facts]
  dimension? := by
    funext id
    rw [dimension?_eq hs.keyed, dimension?_eq hs'.keyed, h.dimensions]
  kpi? := by
    funext id
    rw [kpi?_eq hs, kpi?_eq hs', h.kpis]

/-- A pair of the connection has the same mapping in both stores, up to its id. -/
theorem mappingOf (h : SameOn connectionId s s') (hs : s.Distinct) (hs' : s'.Distinct)
    {factId dimensionId : Int} (hf : factId ∈ s.factIdsOn connectionId)
    (hx : dimensionId ∈ s.dimensionIdsOn connectionId) :
    (Join.mappingOf s'.mappings factId dimensionId).map Mapping.unnumbered =
      (Join.mappingOf s.mappings factId dimensionId).map Mapping.unnumbered := by
  have hf' : factId ∈ s'.factIdsOn connectionId := by rwa [factIdsOn, h.facts]
  have hx' : dimensionId ∈ s'.dimensionIdsOn connectionId := by
    rwa [dimensionIdsOn, h.dimensions]
  ext x
  rw [mappingOf_eq_iff hs hf hx, mappingOf_eq_iff hs' hf' hx', h.mappings]

end SameOn

/-! ### Stores with the records of one connection -/

/-- A store without the facts, dimensions and derived metrics of other connections, and without
the mappings that involve them. -/
def only (s : Store) (connectionId : Int) : Store :=
  match s with
  | memory m => memory { m with
      facts := m.facts.filter (·.connectionId == connectionId)
      dimensions := m.dimensions.filter (·.connectionId == connectionId)
      kpis := m.kpis.filter (·.connectionId == connectionId)
      mappings := m.mappings.filter (s.isOn connectionId) }
  | relational r => relational { r with
      facts := r.facts.filter (·.connectionId == connectionId)
      dimensions := r.dimensions.filter (·.connectionId == connectionId)
      kpis := r.kpis.filter (·.connectionId == connectionId)
      mappings := r.mappings.filter (s.isOn connectionId) }

lemma mappings_only (s : Store) (connectionId : Int) :
    (s.only connectionId).mappings = s.mappings.filter (s.isOn connectionId) := by
  cases s with
  | memory m => rfl
  | relational r => exact sortById_filter _ _ _

lemma kpis_only (s : Store) (connectionId : Int) :
    (s.only connectionId).kpis = s.kpisOn connectionId := by
  cases s <;> rfl

theorem Distinct.only (h : s.Distinct) (connectionId : Int) :
    (s.only connectionId).Distinct := by
  refine ⟨?_, ?_, ?_⟩
  · cases s with
    | memory m =>
      exact ⟨(List.filter_sublist.map _).nodup h.keyed.1,
        (List.filter_sublist.map _).nodup h.keyed.2⟩
    | relational r =>
      exact ⟨(List.filter_sublist.map _).nodup h.keyed.1,
        (List.filter_sublist.map _).nodup h.keyed.2⟩
  · rw [kpis_only]
    exact (List.filter_sublist.map _).nodup h.kpis
  · rw [mappings_only]
    exact (List.filter_sublist.map _).nodup h.pairs

/-- A store holds the same of a connection without the records of other connections. -/
theorem sameOn_only (s : Store) (connectionId : Int) :
    SameOn connectionId s (s.only connectionId) := by
  have hfacts : (s.only connectionId).factRecords connectionId = s.factRecords connectionId := by
    cases s <;> simp [Store.only, factRecords, Memory.factsOn]
  have hdimensions :
      (s.only connectionId).dimensionsOn connectionId = s.dimensionsOn connectionId := by
    cases s <;> simp [Store.only, dimensionsOn, Memory.dimensionsOn, Relational.dimensionsOn]
  refine ⟨hfacts, hdimensions, by simp [kpisOn, kpis_only], fun x => ?_⟩
  rw [mappingsOn, mappingsOn, isOn_congr hfacts hdimensions, mappings_only, List.filter_filter]
  simp only [Bool.and_self]

/-- Such a store has no records of other connections. -/
lemma only_elsewhere (s : Store) {connectionId k : Int} (hk : k ≠ connectionId) :
    (s.only connectionId).factIdsOn k = [] ∧ (s.only connectionId).dimensionsOn k = [] ∧
      (s.only connectionId).kpisOn k = [] := by
  have hnone : ∀ {α : Type} (connection : α → Int) (xs : List α),
      (xs.filter (connection · == connectionId)).filter (connection · == k) = [] := by
    intro α connection xs
    rw [List.filter_filter, List.filter_eq_nil_iff]
    intro x _
    simp only [Bool.and_eq_true, beq_iff_eq, not_and]
    rintro rfl rfl
    exact hk rfl
  cases s with
  | memory m =>
    exact ⟨congrArg _ (congrArg _ (hnone _ _)), hnone _ _, hnone _ _⟩
  | relational r =>
    simp [only, factIdsOn, factRecords, dimensionsOn, Relational.dimensionsOn, kpisOn, kpis,
      hnone, sortById]

end MetricLayer.Store
