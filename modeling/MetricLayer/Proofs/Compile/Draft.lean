import MetricLayer.Compile
import MetricLayer.Proofs.Join.Resolution
import MetricLayer.Proofs.Store.Records

/-!
# Drafts

A request has a draft exactly if its dialect is known, the records it needs can be read, and
every id in it is defined on the connection. The draft holds the record of every id, each once
and in the order in which the request names them.
-/
namespace MetricLayer

/-- The columns of the tables that a draft needs, if there is a catalog. -/
def Draft.known (d : Draft) (catalog : Option (String → List String)) : Option Join.Columns :=
  catalog.map fun columns => d.needed.map fun t => (t, columns t)

/-- The columns of a table in a catalog, none if there is no catalog. -/
def columnsIn (catalog : Option (String → List String)) (table : String) : List String :=
  (catalog.map fun columns => columns table).getD []

lemma Draft.known_of {d : Draft} {t : String} (ht : t ∈ d.needed)
    (catalog : Option (String → List String)) :
    ((d.known catalog).getD []).of t = columnsIn catalog t := by
  cases catalog with
  | none => rfl
  | some columns => exact Join.of_map columns ht

/-- In drafts that have a fact, a dimension and their mapping in common, the pair has the same
outcome, whatever else is looked up. -/
lemma Draft.pair_congr {d d' : Draft} {f : Fact} {x : Dimension}
    (hf : f ∈ d.facts) (hf' : f ∈ d'.facts) (hx : x ∈ d.dimensions) (hx' : x ∈ d'.dimensions)
    (hm : Join.mappingOf d'.mappings f.id x.id = Join.mappingOf d.mappings f.id x.id)
    (catalog : Option (String → List String)) :
    Join.pair d'.mappings ((d'.known catalog).getD []) f x =
      Join.pair d.mappings ((d.known catalog).getD []) f x := by
  refine Join.pair_congr hm fun hneeds => ?_
  have hneeds' : Join.needsColumns d'.mappings f x = true := by
    simpa only [Join.needsColumns, hm] using hneeds
  obtain ⟨hft, hxt⟩ := Join.mem_neededTables hf hx hneeds
  obtain ⟨hft', hxt'⟩ := Join.mem_neededTables hf' hx' hneeds'
  exact ⟨(known_of hft' catalog).trans (known_of hft catalog).symm,
    (known_of hxt' catalog).trans (known_of hxt catalog).symm⟩

/-- A draft that needs no columns is planned alike with every catalog. -/
lemma Draft.plan_of_needed_nil {d : Draft} (h : d.needed = [])
    (catalog : Option (String → List String)) :
    d.plan (d.known catalog) = d.plan (some []) := by
  cases catalog with
  | none =>
    have hmissing : (Join.neededTables d.facts d.dimensions d.mappings).isEmpty = true :=
      List.isEmpty_iff.mpr h
    exact congrArg (· >>= _) (Join.resolve_congr_of_missing (by rw [hmissing]; rfl)
      fun _ _ _ _ => rfl)
  | some columns =>
    have hknown : d.known (some columns) = some [] := by
      rw [known, h]
      rfl
    rw [hknown]

namespace Compile

/-- The text and the parameters of a request that compiles. -/
def outline (r : Except Fault Compiled) : Option (String × List String) :=
  r.toOption.map fun c => (c.sql, c.params.map (·.1))

lemma exists_of_outline {r : Except Fault Compiled} {sql : String} {keys : List String}
    (h : outline r = some (sql, keys)) :
    ∃ c, r = .ok c ∧ c.sql = sql ∧ c.params.map (·.1) = keys := by
  cases r with
  | error x => cases h
  | ok c =>
    cases h
    exact ⟨c, rfl, rfl, rfl⟩

lemma requireAll_ok_iff {kind : String} {connectionId : Int} {ids found : List Int} :
    requireAll kind connectionId ids found = .ok () ↔ ∀ id ∈ ids, id ∈ found := by
  unfold requireAll
  split
  · rename_i id hid
    have hmem := List.mem_of_find?_eq_some hid
    have hnot := List.find?_some hid
    simp only [reduceCtorEq, false_iff, not_forall]
    exact ⟨id, hmem, by simpa using hnot⟩
  · rename_i hnone
    simpa using hnone

/-- Every dimension that is selected or filtered is loaded, each once. -/
structure Loaded (store : Store) (connectionId : Int) (selected : List Int)
    (filters : List Filter) (ds : List Dimension) : Prop where
  records : ds = (dimensionIds selected filters).filterMap (store.dimension? connectionId)
  ids : ds.map (·.id) = dimensionIds selected filters

lemma dimensionIds_nodup (selected : List Int) (filters : List Filter) :
    (dimensionIds selected filters).Nodup :=
  nodup_eraseDups _

lemma Loaded.mem_iff {store : Store} {connectionId : Int} {selected : List Int}
    {filters : List Filter} {ds : List Dimension}
    (h : Loaded store connectionId selected filters ds) {x : Dimension} :
    x ∈ ds ↔ x.id ∈ dimensionIds selected filters ∧
      store.dimension? connectionId x.id = some x := by
  rw [h.records, List.mem_filterMap]
  constructor
  · rintro ⟨id, hid, hx⟩
    obtain rfl := Store.id_of_dimension? hx
    exact ⟨hid, hx⟩
  · rintro ⟨hid, hx⟩
    exact ⟨x.id, hid, hx⟩

/-- Where all dimensions of a query are defined, those of a smaller query are. -/
lemma Loaded.subset {store : Store} {connectionId : Int} {selected : List Int}
    {filters filters' : List Filter} {ds : List Dimension}
    (h : Loaded store connectionId selected filters ds) (hsub : filters' ⊆ filters) :
    Loaded store connectionId selected filters'
      ((dimensionIds selected filters').filterMap (store.dimension? connectionId)) := by
  refine ⟨rfl, map_key_filterMap (fun _ _ => Store.id_of_dimension?) fun id hid => ?_⟩
  have hin : id ∈ dimensionIds selected filters := by
    simp only [dimensionIds, List.mem_eraseDups, List.mem_append, List.mem_map] at hid ⊢
    exact hid.imp_right fun ⟨f, hf, heq⟩ => ⟨f, hsub hf, heq⟩
  rw [← h.ids] at hin
  obtain ⟨x, hx, rfl⟩ := List.mem_map.mp hin
  exact List.mem_map_of_mem (List.mem_filterMap.mpr ⟨x.id, hid, (h.mem_iff.mp hx).2⟩)

lemma loadDimensions_ok_iff {store : Store} {connectionId : Int} {selected : List Int}
    {filters : List Filter} {ds : List Dimension} :
    loadDimensions store connectionId selected filters = .ok ds ↔
      Loaded store connectionId selected filters ds := by
  have heq := store.dimensionsOf_eq connectionId (dimensionIds_nodup selected filters)
  constructor
  · intro h
    obtain ⟨_, hfound, h⟩ := bind_eq_ok h
    obtain rfl := Except.ok.inj h
    refine ⟨heq, ?_⟩
    have hall := requireAll_ok_iff.mp hfound
    rw [heq] at hall ⊢
    exact map_key_filterMap (fun _ _ => Store.id_of_dimension?) hall
  · rintro ⟨hrecords, hids⟩
    rw [← heq] at hrecords
    subst hrecords
    have hfound : requireAll "dimension" connectionId (dimensionIds selected filters)
        ((store.dimensionsOf connectionId (dimensionIds selected filters)).map (·.id)) =
          .ok () := by
      rw [requireAll_ok_iff, hids]
      exact fun id hid => hid
    unfold loadDimensions
    simp only [hfound]
    rfl

/-- What the draft of a fact query holds. -/
structure DraftsFacts (store : Store) (c : Connection) (q : FactQuery) (d : Draft) : Prop where
  dialect : Dialect.ofName c.dialect = .ok d.dialect
  facts : store.factsOf c.id q.factIds.eraseDups = .ok d.facts
  factIds : d.facts.map (·.id) = q.factIds.eraseDups
  dimensions : Loaded store c.id q.dimensionIds q.filters d.dimensions
  mappings : d.mappings =
    store.mappingsOf q.factIds.eraseDups (some (d.dimensions.map (·.id)))
  measured : d.measured = .facts q.aggregation
  selected : d.selected = q.dimensionIds
  filters : d.filters = q.filters

theorem draftFacts_ok_iff {store : Store} {c : Connection} {q : FactQuery} {d : Draft} :
    draftFacts store c q = .ok d ↔ DraftsFacts store c q d := by
  constructor
  · intro h
    obtain ⟨dialect, hdialect, h⟩ := bind_eq_ok h
    obtain ⟨fs, hfs, h⟩ := bind_eq_ok h
    obtain ⟨_, hfound, h⟩ := bind_eq_ok h
    obtain ⟨ds, hds, h⟩ := bind_eq_ok h
    obtain rfl := Except.ok.inj h
    have hids : fs.map (·.id) = q.factIds.eraseDups := by
      obtain ⟨look, rfl, hlook⟩ := Store.factsOf_ok (nodup_eraseDups _) hfs
      exact map_key_filterMap hlook (requireAll_ok_iff.mp hfound)
    exact ⟨hdialect, hfs, hids, loadDimensions_ok_iff.mp hds, rfl, rfl, rfl, rfl⟩
  · intro h
    obtain ⟨dialect, fs, ds, ms, measured, selected, filters⟩ := d
    obtain ⟨hdialect, hfs, hids, hds, hmappings, hmeasured, hselected, hfilters⟩ := h
    simp only at hdialect hfs hids hds hmappings hmeasured hselected hfilters
    subst hmappings hmeasured hselected hfilters
    have hfound : requireAll "fact" c.id q.factIds.eraseDups (fs.map (·.id)) = .ok () := by
      rw [requireAll_ok_iff, hids]
      exact fun id hid => hid
    unfold draftFacts
    simp only [hdialect, hfs, hfound, loadDimensions_ok_iff.mpr hds, bind, Except.bind]
    rfl

end Compile
end MetricLayer
