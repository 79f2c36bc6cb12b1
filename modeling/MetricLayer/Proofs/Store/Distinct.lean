import MetricLayer.Proofs.Store.Built

/-!
# Stores without repetitions

The records of a store are told apart by their ids, and its mappings by the pairs they join.
Whatever is added to a store leaves them apart.
-/
namespace MetricLayer.Store

def kpis : Store → List Kpi
  | memory m => m.kpis
  | relational r => r.kpis

/-- No two facts, dimensions or derived metrics of a store share an id, and no two mappings a
pair. -/
structure Distinct (s : Store) : Prop where
  keyed : s.Keyed
  kpis : (s.kpis.map (·.id)).Nodup
  pairs : (s.mappings.map Mapping.pair).Nodup

lemma kpis_withMappings (s : Store) (ms : List Mapping) : (s.withMappings ms).kpis = s.kpis := by
  cases s <;> rfl

/-- A mapping of a pair that is not mapped yet leaves pairs apart. -/
lemma nodup_pair_append {ms : List Mapping} {x y : Mapping} (h : (ms.map Mapping.pair).Nodup)
    (hnew : ms.any (·.pair == x.pair) = false) (hy : y.pair = x.pair) :
    ((ms ++ [y]).map Mapping.pair).Nodup := by
  refine nodup_map_concat h fun hin => ?_
  rw [hy] at hin
  obtain ⟨m, hm, heq⟩ := List.mem_map.mp hin
  have hnot := List.any_eq_false.mp hnew m hm
  exact hnot (by simpa using heq)

/-- Pairs stay apart when mappings are stored, whether or not all of them are. -/
lemma pairs_addMappings {s : Store} (xs : List Mapping) (h : s.taken.Nodup) :
    (s.addMappings xs).2.taken.Nodup := by
  obtain ⟨ys, hys, hfits⟩ := exists_numbered s xs
  rw [hys, taken_withMore, pairs_numbered]
  exact nodup_of_fits h hfits

/-- A row of any table leaves the ids of derived metrics, and the pairs of mappings, apart. -/
lemma Inserted.apart {r r' : Relational} (h : Inserted r r')
    (hapart : (r.kpis.map (·.id)).Nodup ∧ (r.mappings.map Mapping.pair).Nodup) :
    (r'.kpis.map (·.id)).Nodup ∧ (r'.mappings.map Mapping.pair).Nodup := by
  cases h with
  | kpi hid => exact ⟨nodup_map_concat hapart.1 hid, hapart.2⟩
  | mapping _ _ hpair => exact ⟨hapart.1, nodup_map_concat hapart.2 hpair⟩
  | _ => exact hapart

lemma Built.apart {s : Store} (h : s.Built) :
    (s.kpis.map (·.id)).Nodup ∧ (s.storedMappings.map Mapping.pair).Nodup := by
  induction h with
  | memory | relational => exact ⟨List.nodup_nil, List.nodup_nil⟩
  | connection _ _ ih | fact _ _ ih | dimension _ _ ih | report _ _ ih => exact ih
  | kpi k _ ih => exact ⟨nodup_putById ih.1 k, ih.2⟩
  | row htable hrow _ ih => exact (inserted_of_row htable hrow).apart ih
  | @mappings s xs _ ih =>
    refine ⟨?_, pairs_addMappings xs ih.2⟩
    obtain ⟨ms, hms⟩ := exists_addMappings s xs
    rw [hms, kpis_withMappings]
    exact ih.1

/-- However a store is built, its records are told apart by their ids, and mappings by their
pairs. -/
theorem Built.distinct {s : Store} (h : s.Built) : s.Distinct :=
  ⟨h.keyed, h.apart.1, (s.mappings_perm.map _).nodup_iff.mpr h.apart.2⟩

end MetricLayer.Store
