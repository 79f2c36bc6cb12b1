import MetricLayer.Proofs.Store.Records
import MetricLayer.Proofs.Store.Stored
import MetricLayer.Store.Row

/-!
# Stores that are built

A store begins empty and grows by records that are added to it, in memory or row by row. However
it is built, its facts have different ids, and so have its dimensions.
-/
namespace MetricLayer.Store

/-! ### Records in memory -/

lemma map_id_putById {α : Type} (id : α → Int) (records : List α) (a : α) :
    (putById id records a).map id =
      if id a ∈ records.map id then records.map id else records.map id ++ [id a] := by
  induction records with
  | nil => rfl
  | cons r records ih =>
    rw [putById]
    by_cases hid : id r = id a
    · simp [hid]
    · have hne : ¬ id a = id r := fun heq => hid heq.symm
      simp only [beq_iff_eq, hid, if_false, List.map_cons, ih, List.mem_cons, hne, false_or]
      split <;> rfl

/-- A record takes the place of the one with its id. -/
lemma nodup_putById {α : Type} {id : α → Int} {records : List α} (h : (records.map id).Nodup)
    (a : α) : ((putById id records a).map id).Nodup := by
  rw [map_id_putById]
  split
  · exact h
  · rename_i hnew
    rw [← List.concat_eq_append]
    exact h.concat hnew

section
variable {α : Type} {id : α → Int} {records : List α} {a : α}

/-- A record with a new id comes last. -/
lemma putById_of_notMem (h : id a ∉ records.map id) : putById id records a = records ++ [a] := by
  induction records with
  | nil => rfl
  | cons r rest ih =>
    rw [List.map_cons, List.mem_cons, not_or] at h
    have hne : (id r == id a) = false := by simpa using Ne.symm h.1
    rw [putById, hne, if_neg Bool.false_ne_true, ih h.2, List.cons_append]

lemma mem_of_mem_putById {b : α} (h : b ∈ putById id records a) : b ∈ records ∨ b = a := by
  induction records with
  | nil => exact .inr (List.mem_singleton.mp h)
  | cons r rest ih =>
    rw [putById] at h
    split at h
    · have hmem : b = a ∨ b ∈ rest := List.mem_cons.mp h
      rw [List.mem_cons]
      tauto
    · have hmem : b = r ∨ b ∈ putById id rest a := List.mem_cons.mp h
      rw [List.mem_cons]
      tauto

/-- The record that was put is found under its id, the others under theirs. -/
lemma find?_putById (k : Int) : (putById id records a).find? (id · == k) =
    if id a = k then some a else records.find? (id · == k) := by
  induction records with
  | nil => by_cases hk : id a = k <;> simp [putById, hk]
  | cons r rest ih =>
    rw [putById]
    by_cases hr : id r = id a
    · by_cases hk : id a = k <;> simp [hr, hk]
    · have hput : (id r == id a) = false := by simpa using hr
      rw [hput, if_neg Bool.false_ne_true]
      by_cases hk : id r = k
      · have hne : id a ≠ k := fun heq => hr (hk.trans heq.symm)
        simp [hk, hne]
      · simp [hk, ih]

/-- Records with ids of their own are kept in the order they are put. -/
lemma foldl_putById_of_nodup {as : List α} (h : ((records ++ as).map id).Nodup) :
    as.foldl (putById id) records = records ++ as := by
  induction as generalizing records with
  | nil => exact (List.append_nil records).symm
  | cons a as ih =>
    rw [List.append_cons] at h
    have hnew : id a ∉ records.map id := by
      rw [List.map_append, List.map_append] at h
      exact fun hmem => (List.nodup_append.mp (List.nodup_append.mp h).1).2.2 _ hmem _
        List.mem_cons_self rfl
    rw [List.foldl_cons, putById_of_notMem hnew, ih h, List.append_assoc, List.singleton_append]

lemma nodup_foldl_putById (h : (records.map id).Nodup) (as : List α) :
    ((as.foldl (putById id) records).map id).Nodup := by
  induction as generalizing records with
  | nil => exact h
  | cons a as ih => exact ih (nodup_putById h a)

lemma mem_of_mem_foldl_putById {as : List α} {b : α} (h : b ∈ as.foldl (putById id) records) :
    b ∈ records ∨ b ∈ as := by
  induction as generalizing records with
  | nil => exact .inl h
  | cons a as ih =>
    rcases ih h with hput | hlater
    · rcases mem_of_mem_putById hput with hold | rfl
      · exact .inl hold
      · exact .inr List.mem_cons_self
    · exact .inr (List.mem_cons_of_mem _ hlater)

/-- Of the records that are put under one id, the last is found. -/
lemma find?_foldl_putById (as : List α) (k : Int) :
    (as.foldl (putById id) records).find? (id · == k) =
      (as.reverse.find? (id · == k)).or (records.find? (id · == k)) := by
  induction as generalizing records with
  | nil => rfl
  | cons a as ih =>
    rw [List.foldl_cons, ih, find?_putById, List.reverse_cons, List.find?_append, Option.or_assoc]
    congr 1
    by_cases hk : id a = k <;> simp [hk]

end

/-! ### Rows -/

/-- The id of a new row is not taken. -/
lemma newId_ok {row : Relational.Row} {taken : List Int} {id : Int}
    (h : Relational.newId row taken = .ok id) : id ∉ taken := by
  obtain ⟨given, _, h⟩ := bind_eq_ok h
  dsimp only at h
  split at h
  · cases h
  · rename_i hfree
    obtain rfl := Except.ok.inj h
    simpa using hfree

/-- What a row adds to tables: a record to one of them under a new id. The name of a connection
and the pair of a mapping are new as well. -/
inductive Inserted (r : Relational) : Relational → Prop
  | connection {c : Connection} (hid : c.id ∉ r.connections.map (·.id))
    (hname : c.name ∉ r.connections.map (·.name)) :
    Inserted r { r with connections := r.connections ++ [c] }
  | fact {f : FactRow} (hid : f.id ∉ r.facts.map (·.id)) :
    Inserted r { r with facts := r.facts ++ [f] }
  | dimension {d : Dimension} (hid : d.id ∉ r.dimensions.map (·.id)) :
    Inserted r { r with dimensions := r.dimensions ++ [d] }
  | mapping {x : Mapping} {n : Int} (hn : x.id = some n) (hid : n ∉ r.mappings.filterMap (·.id))
    (hpair : x.pair ∉ r.mappings.map Mapping.pair) :
    Inserted r { r with mappings := r.mappings ++ [x] }
  | kpi {k : Kpi} (hid : k.id ∉ r.kpis.map (·.id)) : Inserted r { r with kpis := r.kpis ++ [k] }
  | report {x : ReportRow} (hid : x.id ∉ r.reports.map (·.id)) :
    Inserted r { r with reports := r.reports ++ [x] }
  | reportColumn {c : ReportColumnRow} (hid : c.id ∉ r.reportColumns.map (·.id)) :
    Inserted r { r with reportColumns := r.reportColumns ++ [c] }
  | reportFilter {f : ReportFilterRow} (hid : f.id ∉ r.reportFilters.map (·.id)) :
    Inserted r { r with reportFilters := r.reportFilters ++ [f] }
  | drill {d : DrillRow} (hid : d.id ∉ r.drills.map (·.id)) :
    Inserted r { r with drills := r.drills ++ [d] }

/-- A row of any table is inserted this way. -/
lemma inserted_of_row {r r' : Relational} {row : Relational.Row} {name : String}
    {insert : Relational → Relational.Row → Except Fault Relational}
    (hname : (name, insert) ∈ Relational.tables) (h : insert r row = .ok r') : Inserted r r' := by
  simp only [Relational.tables, List.mem_cons, Prod.mk.injEq, List.not_mem_nil, or_false] at hname
  rcases hname with ⟨-, rfl⟩ | ⟨-, rfl⟩ | ⟨-, rfl⟩ | ⟨-, rfl⟩ | ⟨-, rfl⟩ | ⟨-, rfl⟩ | ⟨-, rfl⟩ |
    ⟨-, rfl⟩ | ⟨-, rfl⟩
  all_goals
    obtain ⟨id, hid, h⟩ := bind_eq_ok h
    have hfree := newId_ok hid
    repeat obtain ⟨_, _, h⟩ := bind_eq_ok h
  -- The rows of connections and of mappings have one more constraint.
  case inl =>
    dsimp only at h
    split at h
    · cases h
    · rename_i hnew
      cases h
      exact .connection hfree (by simpa using hnew)
  case inr.inr.inr.inl =>
    dsimp only at h
    split at h
    · cases h
    · rename_i hnew
      cases h
      exact .mapping rfl hfree (by simpa using hnew)
  all_goals cases h
  case inr.inl => exact .fact hfree
  case inr.inr.inl => exact .dimension hfree
  case inr.inr.inr.inr.inl => exact .kpi hfree
  case inr.inr.inr.inr.inr.inl => exact .report hfree
  case inr.inr.inr.inr.inr.inr.inl => exact .reportColumn hfree
  case inr.inr.inr.inr.inr.inr.inr.inl => exact .reportFilter hfree
  case inr.inr.inr.inr.inr.inr.inr.inr => exact .drill hfree

/-- A row of any table leaves the ids of facts, and of dimensions, apart. -/
lemma Inserted.keyed {r r' : Relational} (h : Inserted r r') (hkeyed : (relational r).Keyed) :
    (relational r').Keyed := by
  cases h with
  | fact hid => exact ⟨nodup_map_concat hkeyed.1 hid, hkeyed.2⟩
  | dimension hid => exact ⟨hkeyed.1, nodup_map_concat hkeyed.2 hid⟩
  | _ => exact hkeyed

/-! ### Mappings -/

/-- Whether or not all of them are stored, mappings are the only records that are added. -/
lemma exists_addMappings (s : Store) (xs : List Mapping) :
    ∃ ms, (s.addMappings xs).2 = s.withMappings ms := by
  obtain ⟨ys, hys, _⟩ := exists_numbered s xs
  exact ⟨_, hys.trans (withMore_eq s _)⟩

lemma keyed_withMappings {s : Store} (h : s.Keyed) (ms : List Mapping) :
    (s.withMappings ms).Keyed := by
  cases s <;> exact h

/-! ### Stores -/

/-- The stores that are built from nothing. -/
inductive Built : Store → Prop
  | memory : Built (.memory {})
  | relational : Built (.relational {})
  | connection {m : Memory} (c : Connection) (h : Built (.memory m)) :
    Built (.memory (m.addConnection c))
  | fact {m : Memory} (f : Fact) (h : Built (.memory m)) : Built (.memory (m.addFact f))
  | dimension {m : Memory} (d : Dimension) (h : Built (.memory m)) :
    Built (.memory (m.addDimension d))
  | kpi {m : Memory} (k : Kpi) (h : Built (.memory m)) : Built (.memory (m.addKpi k))
  | report {m : Memory} (x : Report) (h : Built (.memory m)) : Built (.memory (m.addReport x))
  | row {r r' : Relational} {table : String}
    {insert : Relational → Relational.Row → Except Fault Relational} {row : Relational.Row}
    (htable : (table, insert) ∈ Relational.tables) (hrow : insert r row = .ok r')
    (h : Built (.relational r)) : Built (.relational r')
  | mappings {s : Store} (xs : List Mapping) (h : Built s) : Built (s.addMappings xs).2

/-- However a store is built, its facts have different ids, and so have its dimensions. -/
theorem Built.keyed {s : Store} (h : s.Built) : s.Keyed := by
  induction h with
  | memory | relational => exact ⟨List.nodup_nil, List.nodup_nil⟩
  | connection _ _ ih | kpi _ _ ih | report _ _ ih => exact ih
  | fact f _ ih => exact ⟨nodup_putById ih.1 f, ih.2⟩
  | dimension d _ ih => exact ⟨ih.1, nodup_putById ih.2 d⟩
  | row htable hrow _ ih => exact (inserted_of_row htable hrow).keyed ih
  | mappings xs _ ih =>
    obtain ⟨ms, hms⟩ := exists_addMappings _ xs
    rw [hms]
    exact keyed_withMappings ih ms

end MetricLayer.Store
