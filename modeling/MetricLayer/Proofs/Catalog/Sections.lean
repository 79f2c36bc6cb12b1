import MetricLayer.Catalog.Build
import MetricLayer.Proofs.Store.Batch

/-!
# The sections of a catalog that is built

A catalog is built only if every entry of every section passes its checks. The records of a
section are what its entries give, in their order, and the store holds these records, except that
a connection is displaced by a later one of its id.
-/
namespace MetricLayer.Catalog

variable {α : Type}

/-! ### Entries -/

lemma checkItem_ok {check : Value → Checked α} {path : String} {v : Value} {a : α}
    (h : checkItem check path v = .ok a) : check v = .passed a := by
  cases v with
  | map es =>
    unfold checkItem at h
    simp only at h
    split at h
    · rename_i b hb
      rw [hb, Except.ok.inj h]
    · cases h
  | _ => cases h

/-- The connection that an entry describes, once the password it names is put in place. -/
def Describes (env : List (String × String)) (v : Value) (c : Connection) : Prop :=
  ∃ path v', withPassword env path v = .ok v' ∧ Connection.check v' = .passed c

lemma connectionsFrom_ok {env : List (String × String)} {i : Nat} {vs : List Value}
    {cs : List Connection} (h : connectionsFrom env i vs = .ok cs) :
    List.Forall₂ (Describes env) vs cs := by
  induction vs generalizing i cs with
  | nil =>
    cases h
    exact .nil
  | cons v vs ih =>
    obtain ⟨v', hv', h⟩ := bind_eq_ok h
    obtain ⟨c, hc, h⟩ := bind_eq_ok h
    obtain ⟨rest, hrest, h⟩ := bind_eq_ok h
    cases h
    exact .cons ⟨_, v', hv', checkItem_ok hc⟩ (ih hrest)

/-! ### Records of a kind -/

/-- An item whose key is not among those before it keeps the keys apart. -/
lemma apart_cons {β : Type} {key : α → β} {a : α} {before as : List α}
    (hbefore : key a ∉ before.map key)
    (h : ((a :: before).map key).Disjoint (as.map key) ∧ (as.map key).Nodup) :
    (before.map key).Disjoint ((a :: as).map key) ∧ ((a :: as).map key).Nodup := by
  rw [List.map_cons, List.disjoint_cons_left] at h
  rw [List.map_cons, List.disjoint_cons_right, List.nodup_cons]
  exact ⟨⟨hbefore, h.1.2⟩, h.1.1, h.2⟩

namespace Kind

variable {k : Kind α} {known : List Int} {before : List α} {path : String} {a : α}

/-- A record that is admitted belongs to a known connection, and its id and its name differ from
those of the records before it. -/
lemma admit_ok (h : k.admit known before path a = .ok ()) :
    k.connectionId a ∈ known ∧ k.id a ∉ before.map k.id ∧ k.key a ∉ before.map k.key := by
  unfold Kind.admit at h
  split at h
  · cases h
  rename_i hknown
  split at h
  · cases h
  rename_i hid
  split at h
  · cases h
  rename_i hkey
  refine ⟨by simpa using hknown, ?_, ?_⟩
  · simpa using hid
  · simpa using hkey

/-- Records that are admitted after others: what the entries give, each of a known connection,
with ids and names of their own. -/
structure Admitted (k : Kind α) (known : List Int) (before : List α) (vs : List Value)
    (as : List α) : Prop where
  checked : List.Forall₂ (fun v a => k.check v = .passed a) vs as
  owned : ∀ a ∈ as, k.connectionId a ∈ known
  ids : (before.map k.id).Disjoint (as.map k.id) ∧ (as.map k.id).Nodup
  keys : (before.map k.key).Disjoint (as.map k.key) ∧ (as.map k.key).Nodup

lemma itemsFrom_ok {i : Nat} {vs : List Value} {as : List α}
    (h : k.itemsFrom known before i vs = .ok as) : k.Admitted known before vs as := by
  induction vs generalizing before i as with
  | nil =>
    cases h
    exact ⟨.nil, by simp, by simp, by simp⟩
  | cons v vs ih =>
    obtain ⟨a, ha, h⟩ := bind_eq_ok h
    obtain ⟨_, hadmit, h⟩ := bind_eq_ok h
    obtain ⟨rest, hrest, h⟩ := bind_eq_ok h
    cases h
    obtain ⟨hknown, hid, hkey⟩ := admit_ok hadmit
    have hafter := ih hrest
    exact {
      checked := .cons (checkItem_ok ha) hafter.checked
      owned := List.forall_mem_cons.mpr ⟨hknown, hafter.owned⟩
      ids := apart_cons hid hafter.ids
      keys := apart_cons hkey hafter.keys }

end Kind

/-! ### Mappings and links -/

section
variable {facts : List Fact} {dimensions : List Dimension} {before : List Mapping}

/-- Whether a mapping joins a fact and a dimension of one connection. -/
def Joins (facts : List Fact) (dimensions : List Dimension) (x : Mapping) : Prop :=
  ∃ f ∈ facts, ∃ d ∈ dimensions, f.id = x.factId ∧ d.id = x.dimensionId ∧
    f.connectionId = d.connectionId

lemma admitMapping_ok {path : String} {x : Mapping}
    (h : admitMapping facts dimensions before path x = .ok ()) :
    Joins facts dimensions x ∧ x.pair ∉ before.map Mapping.pair := by
  unfold admitMapping at h
  split at h
  · cases h
  · cases h
  · rename_i f d hf hd
    split at h
    · cases h
    rename_i hsame
    split at h
    · cases h
    rename_i hnew
    refine ⟨⟨f, List.mem_of_find?_eq_some hf, d, List.mem_of_find?_eq_some hd, ?_, ?_, ?_⟩, ?_⟩
    · simpa using List.find?_some hf
    · simpa using List.find?_some hd
    · simpa using hsame
    · simpa using hnew

/-- Mappings that are admitted after others: what the entries give, each of a pair of its own. -/
structure Mapped (facts : List Fact) (dimensions : List Dimension) (before : List Mapping)
    (vs : List Value) (xs : List Mapping) : Prop where
  checked : List.Forall₂ (fun v x => Mapping.check v = .passed x) vs xs
  joins : ∀ x ∈ xs, Joins facts dimensions x
  pairs : (before.map Mapping.pair).Disjoint (xs.map Mapping.pair) ∧
    (xs.map Mapping.pair).Nodup

lemma mappingsFrom_ok {i : Nat} {vs : List Value} {xs : List Mapping}
    (h : mappingsFrom facts dimensions before i vs = .ok xs) :
    Mapped facts dimensions before vs xs := by
  induction vs generalizing before i xs with
  | nil =>
    cases h
    exact ⟨.nil, by simp, by simp⟩
  | cons v vs ih =>
    obtain ⟨x, hx, h⟩ := bind_eq_ok h
    obtain ⟨_, hadmit, h⟩ := bind_eq_ok h
    obtain ⟨rest, hrest, h⟩ := bind_eq_ok h
    cases h
    obtain ⟨hjoins, hnew⟩ := admitMapping_ok hadmit
    have hafter := ih hrest
    exact {
      checked := .cons (checkItem_ok hx) hafter.checked
      joins := List.forall_mem_cons.mpr ⟨hjoins, hafter.joins⟩
      pairs := apart_cons hnew hafter.pairs }

end

/-- Every link leads to a report that is there. -/
lemma checkLinks_ok {all reports : List Report} (h : checkLinks all reports = .ok ()) :
    ∀ r ∈ reports, ∀ t ∈ r.drillTargets, ∃ s ∈ all, s.id = t.reportId := by
  induction reports with
  | nil => simp
  | cons r rest ih =>
    unfold checkLinks at h
    split at h
    · cases h
    · rename_i hstray
      refine List.forall_mem_cons.mpr ⟨fun t ht => ?_, ih h⟩
      have hthere := List.find?_eq_none.mp hstray t ht
      simpa using hthere

/-! ### The catalog as a whole -/

/-- The records that a section gives, one for each of its entries. -/
def Gives (data : List (Value × Value)) (name : String) (reads : Value → α → Prop)
    (as : List α) : Prop :=
  ∃ vs, sectionOf data name = .ok vs ∧ List.Forall₂ reads vs as

/-- The records of a section: what its entries give, each of a known connection, with ids of
their own and names of their own on their connections. -/
structure Kind.Section (k : Kind α) (data : List (Value × Value)) (known : List Int)
    (as : List α) : Prop where
  entries : Gives data k.sectionName (fun v a => k.check v = .passed a) as
  owned : ∀ a ∈ as, k.connectionId a ∈ known
  ids : (as.map k.id).Nodup
  keys : (as.map k.key).Nodup

lemma Kind.read_ok {k : Kind α} {data : List (Value × Value)} {known : List Int} {as : List α}
    (h : k.read data known = .ok as) : k.Section data known as := by
  obtain ⟨vs, hvs, h⟩ := bind_eq_ok h
  have hall := itemsFrom_ok h
  exact ⟨⟨vs, hvs, hall.checked⟩, hall.owned, hall.ids.2, hall.keys.2⟩

/-- The records of a catalog, in the order of its entries. -/
structure Content where
  connections : List Connection
  facts : List Fact
  dimensions : List Dimension
  kpis : List Kpi
  reports : List Report
  mappings : List Mapping

namespace Content

/-- The entries of a catalog pass their checks and give these records. -/
structure IsOf (env : List (String × String)) (data : List (Value × Value)) (c : Content) :
    Prop where
  connections : Gives data "connections" (Describes env) c.connections
  facts : factKind.Section data (c.connections.map (·.id)) c.facts
  dimensions : dimensionKind.Section data (c.connections.map (·.id)) c.dimensions
  kpis : kpiKind.Section data (c.connections.map (·.id)) c.kpis
  reports : reportKind.Section data (c.connections.map (·.id)) c.reports
  mappings : Gives data "mappings" (fun v x => Mapping.check v = .passed x) c.mappings
  joins : ∀ x ∈ c.mappings, Joins c.facts c.dimensions x
  pairs : (c.mappings.map Mapping.pair).Nodup
  links : ∀ r ∈ c.reports, ∀ t ∈ r.drillTargets, ∃ s ∈ c.reports, s.id = t.reportId

/-- The store of these records: a connection is displaced by a later one of its id, and the
mappings are numbered. -/
def memory (c : Content) : Memory where
  connections := c.connections.foldl (putById (·.id)) []
  facts := c.facts
  dimensions := c.dimensions
  kpis := c.kpis
  reports := c.reports
  mappings := Store.numbered 1 c.mappings

/-- Numbers leave the pairs of mappings as they are. -/
lemma IsOf.pairs_memory {env : List (String × String)} {data : List (Value × Value)}
    {c : Content} (h : c.IsOf env data) : (c.memory.mappings.map Mapping.pair).Nodup := by
  rw [memory, Store.pairs_numbered]
  exact h.pairs

/-- Of the connections with one id, the last is kept. -/
lemma connection?_memory (c : Content) (id : Int) :
    c.memory.connection? id = c.connections.reverse.find? (·.id == id) := by
  have hlast : (c.connections.foldl (putById (·.id)) []).find? (·.id == id) =
      (c.connections.reverse.find? (·.id == id)).or none :=
    Store.find?_foldl_putById c.connections id
  rwa [Option.or_none] at hlast

end Content

/-- Records with ids of their own that are put one after another are the records of their kind. -/
lemma foldl_put {add : Memory → α → Memory} {id : α → Int} {as : List α}
    (records : List α → Memory) (hadd : ∀ bs a, add (records bs) a = records (putById id bs a))
    (hids : (as.map id).Nodup) : as.foldl add (records []) = records as := by
  rw [List.foldl_hom records hadd, Store.foldl_putById_of_nodup hids, List.nil_append]

/-- The records of a catalog in a store that was empty, without the mappings. -/
lemma foldl_put_all (connections : List Connection) {facts : List Fact}
    {dimensions : List Dimension} {kpis : List Kpi} {reports : List Report}
    (hfacts : (facts.map (·.id)).Nodup) (hdimensions : (dimensions.map (·.id)).Nodup)
    (hkpis : (kpis.map (·.id)).Nodup) (hreports : (reports.map (·.id)).Nodup) :
    reports.foldl Memory.addReport (kpis.foldl Memory.addKpi (dimensions.foldl
      Memory.addDimension (facts.foldl Memory.addFact (connections.foldl Memory.addConnection
        {})))) =
      ⟨connections.foldl (putById (·.id)) [], facts, dimensions, kpis, reports, []⟩ := by
  have hc : connections.foldl Memory.addConnection {} =
      ⟨connections.foldl (putById (·.id)) [], [], [], [], [], []⟩ :=
    List.foldl_hom (fun cs => Memory.mk cs [] [] [] [] []) fun _ _ => rfl
  rw [hc]
  generalize connections.foldl (putById (·.id)) [] = cs
  have hf : facts.foldl Memory.addFact ⟨cs, [], [], [], [], []⟩ = ⟨cs, facts, [], [], [], []⟩ :=
    foldl_put (fun fs => Memory.mk cs fs [] [] [] []) (fun _ _ => rfl) hfacts
  have hd : dimensions.foldl Memory.addDimension ⟨cs, facts, [], [], [], []⟩ =
      ⟨cs, facts, dimensions, [], [], []⟩ :=
    foldl_put (fun ds => Memory.mk cs facts ds [] [] []) (fun _ _ => rfl) hdimensions
  have hk : kpis.foldl Memory.addKpi ⟨cs, facts, dimensions, [], [], []⟩ =
      ⟨cs, facts, dimensions, kpis, [], []⟩ :=
    foldl_put (fun ks => Memory.mk cs facts dimensions ks [] []) (fun _ _ => rfl) hkpis
  rw [hf, hd, hk]
  exact foldl_put (fun rs => Memory.mk cs facts dimensions kpis rs []) (fun _ _ => rfl) hreports

/-- Mappings of different pairs are stored under the numbers from one on. -/
lemma addMappings_eq {m : Memory} {xs : List Mapping} (hempty : m.mappings = [])
    (hpairs : (xs.map Mapping.pair).Nodup) : m.addMappings xs =
      (.ok (Store.numbered 1 xs), { m with mappings := Store.numbered 1 xs }) := by
  have htaken : (Store.memory m).taken = [] := by
    rw [Store.taken, Store.storedMappings, hempty, List.map_nil]
  have hfits : ¬ Store.Clash (Store.memory m).taken xs := by
    rw [htaken]
    simpa [Store.Clash] using hpairs
  have hnext : (Store.memory m).nextNumber = 1 := by
    rw [Store.nextNumber, hempty]
    rfl
  have hall := Store.addMappings_of_fits hfits
  rw [hnext] at hall
  have hstored := congrArg Prod.fst hall
  have hstore := Store.memory.inj (congrArg Prod.snd hall)
  refine Prod.ext hstored (hstore.trans ?_)
  rw [Memory.withMore, hempty, List.nil_append]

/-- A catalog that is built has records that pass all checks, and its store is made of them. -/
lemma build_ok {env : List (String × String)} {data : List (Value × Value)} {m : Memory}
    (h : build env data = .ok m) : ∃ c : Content, c.IsOf env data ∧ m = c.memory := by
  obtain ⟨vs, hvs, h⟩ := bind_eq_ok h
  obtain ⟨connections, hconnections, h⟩ := bind_eq_ok h
  obtain ⟨facts, hfacts, h⟩ := bind_eq_ok h
  obtain ⟨dimensions, hdimensions, h⟩ := bind_eq_ok h
  obtain ⟨kpis, hkpis, h⟩ := bind_eq_ok h
  obtain ⟨reports, hreports, h⟩ := bind_eq_ok h
  obtain ⟨ws, hws, h⟩ := bind_eq_ok h
  obtain ⟨mappings, hmappings, h⟩ := bind_eq_ok h
  obtain ⟨_, hlinks, h⟩ := bind_eq_ok h
  have hmapped := mappingsFrom_ok hmappings
  have hof : Content.IsOf env data ⟨connections, facts, dimensions, kpis, reports, mappings⟩ := {
    connections := ⟨vs, hvs, connectionsFrom_ok hconnections⟩
    facts := Kind.read_ok hfacts
    dimensions := Kind.read_ok hdimensions
    kpis := Kind.read_ok hkpis
    reports := Kind.read_ok hreports
    mappings := ⟨ws, hws, hmapped.checked⟩
    joins := hmapped.joins
    pairs := hmapped.pairs.2
    links := checkLinks_ok hlinks }
  refine ⟨_, hof, ?_⟩
  dsimp only at h
  rw [foldl_put_all connections hof.facts.ids hof.dimensions.ids hof.kpis.ids hof.reports.ids,
    addMappings_eq rfl hof.pairs] at h
  exact (Except.ok.inj h).symm

end MetricLayer.Catalog
