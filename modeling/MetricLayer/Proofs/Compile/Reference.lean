import Mathlib.Data.List.Find
import MetricLayer.Proofs.Compile.Accounted
import MetricLayer.Proofs.Compile.Query
import MetricLayer.Proofs.Store.Connection

/-!
# References are checked first

A query for facts is refused if one of its references is not defined on the connection, and the
fault names the first of them: facts come before dimensions, and selected dimensions before
those of filters. Once all references are defined, no later failure is about a reference.
-/
namespace MetricLayer

/-- What a query refers to by an id. -/
inductive Reference where
  | fact (id : Int)
  | dimension (id : Int)
  deriving DecidableEq, Repr

namespace Reference

def kind : Reference → String
  | fact _ => "fact"
  | dimension _ => "dimension"

def id : Reference → Int
  | fact id => id
  | dimension id => id

/-- The failure for a reference that is not defined on a connection. -/
def undefinedOn (r : Reference) (connectionId : Int) : Fault :=
  Compile.undefinedOn r.kind r.id connectionId

end Reference

/-- Whether a reference is defined on a connection. -/
def Store.defines (s : Store) (connectionId : Int) : Reference → Bool
  | .fact id => (s.factIdsOn connectionId).contains id
  | .dimension id => (s.dimensionIdsOn connectionId).contains id

/-- The first reference that is not defined on a connection. -/
def Store.firstUndefined (s : Store) (connectionId : Int) (rs : List Reference) :
    Option Reference :=
  rs.find? fun r => !s.defines connectionId r

/-- The dimensions that a query refers to: the selected ones, then those of filters. -/
def dimensionReferences (selected : List Int) (filters : List Filter) : List Reference :=
  (selected ++ filters.map (·.dimensionId)).map .dimension

/-- What a query for facts refers to: its facts, then its dimensions. -/
def FactQuery.references (q : FactQuery) : List Reference :=
  q.factIds.map .fact ++ dimensionReferences q.dimensionIds q.filters

namespace Compile
open Store

variable {s : Store} {c : Connection}

/-! ### Requirements -/

/-- Requires references to be defined: the first that is not is reported. -/
def requireDefined (s : Store) (connectionId : Int) (rs : List Reference) : Except Fault Unit :=
  match s.firstUndefined connectionId rs with
  | some r => .error (r.undefinedOn connectionId)
  | none => .ok ()

lemma requireDefined_append (connectionId : Int) (rs rs' : List Reference) :
    requireDefined s connectionId (rs ++ rs') =
      requireDefined s connectionId rs >>= fun _ => requireDefined s connectionId rs' := by
  unfold requireDefined firstUndefined
  rw [List.find?_append]
  cases rs.find? fun r => !s.defines connectionId r <;> rfl

/-- To find every id is to have it defined, if those that are defined are found. -/
lemma requireAll_eq {connectionId : Int} {ids found : List Int} {kind : String}
    (of : Int → Reference)
    (hof : ∀ id, (of id).undefinedOn connectionId = undefinedOn kind id connectionId)
    (hfound : ∀ id ∈ ids, found.contains id = s.defines connectionId (of id)) :
    requireAll kind connectionId ids.eraseDups found =
      requireDefined s connectionId (ids.map of) := by
  have hfind : ids.find? (fun id => !found.contains id) =
      ids.find? fun id => !s.defines connectionId (of id) :=
    List.find?_congr fun id hid => by rw [hfound id hid]
  have hmap : s.firstUndefined connectionId (ids.map of) =
      (ids.find? fun id => !s.defines connectionId (of id)).map of := List.find?_map
  unfold requireAll requireDefined
  rw [find?_eraseDups, hfind, hmap]
  cases ids.find? fun id => !s.defines connectionId (of id) with
  | none => rfl
  | some id => exact congrArg Except.error (hof id).symm

/-- Dimensions are loaded once all of them are defined. -/
lemma loadDimensions_eq (hs : s.Keyed) (connectionId : Int) (selected : List Int)
    (filters : List Filter) :
    loadDimensions s connectionId selected filters =
      requireDefined s connectionId (dimensionReferences selected filters) >>= fun _ =>
        .ok (s.dimensionsOf connectionId (dimensionIds selected filters)) := by
  have hfound : ∀ id ∈ selected ++ filters.map (·.dimensionId),
      ((s.dimensionsOf connectionId (dimensionIds selected filters)).map (·.id)).contains id =
        s.defines connectionId (.dimension id) := by
    intro id hid
    rw [Bool.eq_iff_iff, List.contains_iff_mem, defines, List.contains_iff_mem, dimensionIdsOn,
      dimensionsOf_eq _ _ (dimensionIds_nodup selected filters)]
    simp only [List.mem_map, List.mem_filterMap]
    constructor
    · rintro ⟨x, ⟨i, _, hx⟩, rfl⟩
      exact ⟨x, dimension?_mem hx, rfl⟩
    · rintro ⟨x, hx, rfl⟩
      refine ⟨x, ⟨x.id, List.mem_eraseDups.mpr hid, ?_⟩, rfl⟩
      rw [dimension?_eq hs, find?_key_iff (hs.dimensions connectionId)]
      exact ⟨hx, rfl⟩
  rw [dimensionReferences, ← requireAll_eq .dimension (fun _ => rfl) hfound]
  rfl

/-! ### Queries for facts -/

/-- A query for facts has a draft once its facts are read and its references defined. -/
lemma draftFacts_eq {d : Dialect} (hdialect : Dialect.ofName c.dialect = .ok d) (hs : s.Keyed)
    {q : FactQuery} (hread : s.Readable c.id q.factIds) :
    ∃ draft, draftFacts s c q =
      requireDefined s c.id q.references >>= fun _ => .ok draft := by
  rw [← readable_eraseDups] at hread
  obtain ⟨fs, hfs⟩ := (readable_iff hs (nodup_eraseDups _)).mp hread
  have hfound : ∀ id ∈ q.factIds, (fs.map (·.id)).contains id = s.defines c.id (.fact id) := by
    intro id hid
    rw [Bool.eq_iff_iff, List.contains_iff_mem, defines, List.contains_iff_mem]
    exact mem_factsOf hs (nodup_eraseDups _) hfs (List.mem_eraseDups.mpr hid)
  refine ⟨⟨d, fs, s.dimensionsOf c.id (dimensionIds q.dimensionIds q.filters),
    s.mappingsOf q.factIds.eraseDups (some ((s.dimensionsOf c.id
      (dimensionIds q.dimensionIds q.filters)).map (·.id))),
    .facts q.aggregation, q.dimensionIds, q.filters⟩, ?_⟩
  unfold draftFacts
  dsimp only
  rw [hdialect, hfs, loadDimensions_eq hs, FactQuery.references, requireDefined_append]
  show (requireAll "fact" c.id q.factIds.eraseDups (fs.map (·.id)) >>= fun _ => _) = _
  rw [requireAll_eq .fact (fun _ => rfl) hfound]
  cases requireDefined s c.id (q.factIds.map .fact) with
  | error x => rfl
  | ok _ => cases requireDefined s c.id (dimensionReferences q.dimensionIds q.filters) <;> rfl

/-- The first reference that is not defined is reported. -/
lemma draftFacts_undefined {d : Dialect} (hdialect : Dialect.ofName c.dialect = .ok d)
    (hs : s.Keyed) {q : FactQuery} (hread : s.Readable c.id q.factIds) {r : Reference}
    (hr : s.firstUndefined c.id q.references = some r) :
    draftFacts s c q = .error (r.undefinedOn c.id) := by
  obtain ⟨draft, hdraft⟩ := draftFacts_eq hdialect hs hread
  rw [hdraft, requireDefined, hr]
  rfl

/-- A fact that cannot be read is reported, whatever else is not defined. -/
lemma draftFacts_unread {d : Dialect} (hdialect : Dialect.ofName c.dialect = .ok d)
    (hs : s.Keyed) {q : FactQuery} (hunread : ¬ s.Readable c.id q.factIds) :
    ∃ id ∈ q.factIds, ∃ x, (id, .error x) ∈ s.factRecords c.id ∧ draftFacts s c q = .error x := by
  rw [← readable_eraseDups, readable_iff hs (nodup_eraseDups _)] at hunread
  cases hfs : s.factsOf c.id q.factIds.eraseDups with
  | ok fs => exact absurd ⟨fs, hfs⟩ hunread
  | error x =>
    obtain ⟨id, hid, hrecord⟩ := factsOf_error hs (nodup_eraseDups _) hfs
    refine ⟨id, List.mem_eraseDups.mp hid, x, hrecord, ?_⟩
    unfold draftFacts
    dsimp only
    rw [hdialect, hfs]
    rfl

/-- Once a query has a draft, no failure is about a reference. -/
lemma not_invalidReference {settings : Setup} {q : FactQuery} {draft : Draft}
    (hdraft : draftFacts s c q = .ok draft) (catalog : Option (String → List String))
    (kind ref : String) (detail : Option String) :
    facts settings s c q catalog ≠ .error (.failure (.invalidReference kind ref detail)) := by
  have h := draftFacts_ok_iff.mp hdraft
  intro hfailed
  cases hfs : draft.facts with
  | nil =>
    rw [facts, hdraft] at hfailed
    change (Join.resolve draft.facts _ _ _ >>= _) >>= _ = _ at hfailed
    rw [hfs] at hfailed
    cases hfailed
  | cons f rest =>
    obtain ⟨join, hjoin⟩ := Join.exists_resolve (hfs ▸ List.cons_ne_nil f rest) draft.dimensions
      draft.mappings (draft.known catalog)
    rw [facts_eq_of_draft h hjoin, Plan.facts_eq] at hfailed
    split at hfailed
    · cases hfailed
    · cases render_fault hfailed

/-- A query for facts that can be read fails for a reference exactly if one is not defined. -/
theorem invalidReference_iff {d : Dialect} (hdialect : Dialect.ofName c.dialect = .ok d)
    (hs : s.Keyed) {q : FactQuery} (hread : s.Readable c.id q.factIds) (settings : Setup)
    (catalog : Option (String → List String)) :
    (∃ kind ref detail, facts settings s c q catalog =
        .error (.failure (.invalidReference kind ref detail))) ↔
      ∃ r ∈ q.references, s.defines c.id r = false := by
  cases hr : s.firstUndefined c.id q.references with
  | none =>
    obtain ⟨draft, hdraft⟩ := draftFacts_eq hdialect hs hread
    rw [requireDefined, hr] at hdraft
    constructor
    · rintro ⟨kind, ref, detail, hfailed⟩
      exact absurd hfailed (not_invalidReference hdraft catalog kind ref detail)
    · rintro ⟨r, hmem, hnot⟩
      have hdefined := List.find?_eq_none.mp hr r hmem
      simp [hnot] at hdefined
  | some r =>
    have hfailed : facts settings s c q catalog = .error (r.undefinedOn c.id) := by
      rw [facts, draftFacts_undefined hdialect hs hread hr]
      rfl
    refine ⟨fun _ => ⟨r, List.mem_of_find?_eq_some hr, ?_⟩, fun _ => ⟨_, _, _, hfailed⟩⟩
    simpa using List.find?_some hr

/-! ### Queries for derived metrics -/

/-- What a query for a derived metric may lack: the metric itself, a fact that its expression
mentions, or a dimension. -/
inductive Unfounded (s : Store) (connectionId : Int) (q : KpiQuery) : Prop
  | kpi (h : q.kpiId ∉ (s.kpisOn connectionId).map (·.id))
  | expression {k : Kpi} (hk : k ∈ s.kpisOn connectionId) (hid : k.id = q.kpiId)
    (h : ∀ id f, (id, .ok f) ∈ s.factRecords connectionId →
      ¬ Kpi.Mentions none k.expression.toList (Text.lower f.name).toList)
  | dimension {r : Reference} (hr : r ∈ dimensionReferences q.dimensionIds q.filters)
    (h : s.defines connectionId r = false)

lemma kpi?_iff (hs : s.Distinct) {connectionId id : Int} {k : Kpi} :
    s.kpi? connectionId id = some k ↔ k ∈ s.kpisOn connectionId ∧ k.id = id := by
  rw [kpi?_eq hs]
  exact find?_key_iff ((List.filter_sublist.map _).nodup hs.kpis)

/-- A derived metric that is not defined is reported by its id. -/
lemma draftKpi_undefined {d : Dialect} (hdialect : Dialect.ofName c.dialect = .ok d)
    (hs : s.Distinct) {q : KpiQuery} (h : q.kpiId ∉ (s.kpisOn c.id).map (·.id))
    (settings : Setup) :
    draftKpi settings s c q = .error (undefinedOn "KPI" q.kpiId c.id) := by
  have hnone : s.kpi? c.id q.kpiId = none := by
    rw [Option.eq_none_iff_forall_ne_some]
    intro k hk
    obtain ⟨hmem, hid⟩ := (kpi?_iff hs).mp hk
    exact h (List.mem_map.mpr ⟨k, hmem, hid⟩)
  unfold draftKpi
  rw [hdialect, hnone]
  rfl

/-- A query for a derived metric that lacks something has no draft. -/
theorem draftKpi_unfounded (hs : s.Distinct) {q : KpiQuery} (h : Unfounded s c.id q)
    (settings : Setup) : ∃ x, draftKpi settings s c q = .error x := by
  cases hdraft : draftKpi settings s c q with
  | error x => exact ⟨x, rfl⟩
  | ok draft =>
    exfalso
    obtain ⟨k, all, e, _, hk, hall, he, hds, _⟩ := draftKpi_ok hdraft
    obtain ⟨hkmem, hkid⟩ := (kpi?_iff hs).mp hk
    cases h with
    | kpi h => exact h (List.mem_map.mpr ⟨k, hkmem, hkid⟩)
    | @expression k' hk' hid h =>
      obtain rfl : k' = k := Option.some.inj (((kpi?_iff hs).mpr ⟨hk', hid⟩).symm.trans hk)
      rw [factsOn_eq] at hall
      have hunmentioned : ∀ f ∈ all,
          ¬ Kpi.Mentions none k'.expression.toList (Text.lower f.name).toList := by
        intro f hf
        obtain ⟨⟨id, r⟩, hrecord, rfl⟩ := (mem_mapM_iff hall).mp hf
        exact h id f hrecord
      have hrefused := Kpi.expand_unmentioned hunmentioned draft.dialect settings.sumOnly
      rw [hrefused] at he
      cases he
    | @dimension r hr h =>
      have hload := loadDimensions_ok_iff.mpr hds
      rw [loadDimensions_eq hs.keyed] at hload
      obtain ⟨_, hrequired, _⟩ := bind_eq_ok hload
      unfold requireDefined at hrequired
      split at hrequired
      · cases hrequired
      · rename_i hnone
        have hdefined := List.find?_eq_none.mp hnone r hr
        simp [h] at hdefined

end Compile
end MetricLayer
