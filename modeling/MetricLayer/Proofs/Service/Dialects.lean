import MetricLayer.Proofs.Service.Guarded

/-!
# The dialects of pools

A pool keeps the connection it was made for, and the dialect of that connection, until all pools
are disposed. A request is compiled in the dialect that the connection has by then. So a query is
sent in the dialect of its pool exactly if the metadata still name the dialect that the pool was
made with.
-/
namespace MetricLayer.Service
open Store

/-! ### Where pools come from -/

/-- Every pool was made, at some time of the history, for the connection that the metadata had
under its id at that time. -/
lemma made_of_runAll {start : World} (hstart : start.pools = []) (steps : List ServiceStep)
    {id : Int} {p : Pool} (hp : pool? (ServiceStep.runAll start steps) id = some p) :
    ∃ before after, steps = before ++ after ∧
      MadeFor (ServiceStep.runAll start before).store id p := by
  induction steps using List.reverseRecOn with
  | nil =>
    change pool? start id = _ at hp
    rw [pool?, hstart] at hp
    cases hp
  | append_singleton steps step ih =>
    rw [ServiceStep.runAll_concat] at hp
    rcases (ServiceStep.effect _ step).pool_cases hp with hp | hmade
    · obtain ⟨before, after, rfl, hmade⟩ := ih hp
      exact ⟨before, after ++ [step], List.append_assoc _ _ _, hmade⟩
    · exact ⟨steps, [step], rfl, hmade⟩

/-! ### Queries and their pools -/

/-- A query is compiled in the dialect of a connection as the metadata have it, and sent through a
pool in the dialect of the connection that the pool was made for. -/
structure Speaks (w : World) (id : Int) (c : Compiled) (p : Pool) (e : Event) (now : Connection) :
    Prop where
  row : w.store.connection? id = some now
  compiled : Dialect.ofName now.dialect = .ok c.dialect
  pool : Dialect.ofName p.connection.dialect = .ok e.dialect

lemma name_of_ofName {s : String} {d : Dialect} (h : Dialect.ofName s = .ok d) : d.name = s := by
  unfold Dialect.ofName at h
  split at h
  · rename_i found hfound
    obtain rfl := Except.ok.inj h
    simpa using List.find?_some hfound
  · cases h

/-- The two dialects are the same exactly if both rows of the connection name the same one. -/
lemma Speaks.dialect_iff {w : World} {id : Int} {c : Compiled} {p : Pool} {e : Event}
    {now : Connection} (h : Speaks w id c p e now) :
    c.dialect = e.dialect ↔ now.dialect = p.connection.dialect := by
  have hcompiled := name_of_ofName h.compiled
  have hpool := name_of_ofName h.pool
  constructor
  · intro heq
    rw [← hcompiled, ← hpool, heq]
  · intro heq
    have hsame := h.compiled
    rw [heq, h.pool] at hsame
    exact (Except.ok.inj hsame).symm

/-- The metadata keep the dialect of every connection that has a pool. -/
def KeepsDialects (start : World) (steps : List ServiceStep) : Prop :=
  ∀ before s after, steps = before ++ .pool (.replace s) :: after →
    ∀ id p now, pool? (ServiceStep.runAll start before) id = some p →
      s.connection? id = some now → now.dialect = p.connection.dialect

/-- Every connection with a pool has the dialect that it had when the pool was made. -/
def Agreed (w : World) : Prop :=
  ∀ id p now, pool? w id = some p → w.store.connection? id = some now →
    now.dialect = p.connection.dialect

lemma Agreed.step {w : World} (h : Agreed w) {step : ServiceStep}
    (hreplace : ∀ s, step = .pool (.replace s) → ∀ id p now, pool? w id = some p →
      s.connection? id = some now → now.dialect = p.connection.dialect) :
    Agreed (step.run w) := by
  intro id p now hp hnow
  have heffect := ServiceStep.effect w step
  rcases heffect.connections with hrows | ⟨s, hstep, hstore, hpools⟩
  · rw [hrows] at hnow
    rcases heffect.pool_cases hp with hold | hmade
    · exact h id p now hold hnow
    · rw [Option.some.inj (hnow.symm.trans hmade.row)]
  · rw [hstore] at hnow
    rw [pool?, hpools] at hp
    exact hreplace s hstep id p now hp hnow

lemma agreed_of_runAll {start : World} (hstart : start.pools = []) {steps : List ServiceStep}
    (h : KeepsDialects start steps) : Agreed (ServiceStep.runAll start steps) := by
  induction steps using List.reverseRecOn with
  | nil =>
    intro id p now hp
    change pool? start id = _ at hp
    rw [pool?, hstart] at hp
    cases hp
  | append_singleton steps step ih =>
    rw [ServiceStep.runAll_concat]
    refine (ih fun before s after heq => h before s (after ++ [step]) ?_).step ?_
    · rw [heq, List.append_assoc]
      rfl
    · rintro s rfl
      exact h steps s [] rfl

/-- The query of a request is in the dialect that the metadata name for its connection, and is
sent through the pool of that connection, in the dialect of the connection at the time when the
pool was made. So both are the same exactly if the dialect of the connection is the same now as
it was then. They are the same throughout a history in which no connection that has a pool gets
another dialect. -/
theorem query_dialect {start : World} (hstart : start.pools = []) (steps : List ServiceStep)
    (user : Option Int) (q : Request) :
    let w := ServiceStep.runAll start steps
    ∃ r w' before last, q.run user w = (r, w') ∧ Sends user q w w' r before last ∧
      ∀ e ∈ last, ∃ id c p now, Queries user q w w' id c p e ∧ Speaks w id c p e now ∧
        (c.dialect = e.dialect ↔ now.dialect = p.connection.dialect) ∧
        (∃ earlier later, steps = earlier ++ later ∧
          MadeFor (ServiceStep.runAll start earlier).store id p) ∧
        (KeepsDialects start steps → c.dialect = e.dialect) := by
  intro w
  obtain ⟨r, w', hrun, hserved⟩ := served user q w
  obtain ⟨before, last, hsends⟩ := hserved.sends
  refine ⟨r, w', before, last, hrun, hsends, fun e he => ?_⟩
  obtain ⟨id, c, p, hquery⟩ := hsends.query e he
  obtain ⟨step, hprepare, hcompiled⟩ := hquery.compiled
  obtain ⟨now, hrow, hdialect⟩ := (prepares hprepare w).spoken _ hcompiled
  obtain ⟨k, hkeeps⟩ := hserved.keeps
  have hmade : ∃ earlier later, steps = earlier ++ later ∧
      MadeFor (ServiceStep.runAll start earlier).store id p := by
    rcases hkeeps.pool_cases hquery.pool with hold | ⟨-, hnew⟩
    · exact made_of_runAll hstart steps hold
    · exact ⟨steps, [], (List.append_nil _).symm, hnew⟩
  have hspeaks : Speaks w id c p e now := by
    obtain ⟨_, _, _, hpool⟩ := hmade
    exact ⟨hrow, hdialect, hquery.dialect ▸ hpool.dialect⟩
  refine ⟨id, c, p, now, hquery, hspeaks, hspeaks.dialect_iff, hmade, fun h => ?_⟩
  rw [hspeaks.dialect_iff]
  rcases hkeeps.pool_cases hquery.pool with hold | ⟨-, hnew⟩
  · exact agreed_of_runAll hstart h id p now hold hrow
  · rw [Option.some.inj (hrow.symm.trans hnew.row)]

/-- The till is moved to another host after a request. -/
def moved : List ServiceStep :=
  [.serve none takings, .pool (.replace (tillStore "db2" "postgres"))]

/-- The pool of the till, made by its first request. -/
def tillPool : Pool := ⟨tillRow "db" "postgres", 0, .postgres⟩

lemma pools_takings : (ServiceStep.runAll till [.serve none takings]).pools = [(1, tillPool)] := by
  decide +kernel

lemma connection_tillStore {host dialect : String} {id : Int} {now : Connection}
    (h : (tillStore host dialect).connection? id = some now) : id = 1 ∧ now.dialect = dialect := by
  have hfound : List.find? (·.id == id) [tillRow host dialect] = some now := h
  have hid : now.id = id := by simpa using List.find?_some hfound
  obtain rfl := List.mem_singleton.mp (List.mem_of_find?_eq_some hfound)
  exact ⟨hid.symm, rfl⟩

lemma keepsDialects_moved : KeepsDialects till moved := by
  intro before s after hsteps id p now hp hnow
  rcases before with _ | ⟨first, _ | ⟨second, before⟩⟩
  · simp [moved] at hsteps
  · simp only [moved, List.cons_append, List.nil_append, List.cons.injEq, ServiceStep.pool.injEq,
      PoolStep.replace.injEq] at hsteps
    obtain ⟨rfl, rfl, -⟩ := hsteps
    rw [pool?, pools_takings] at hp
    obtain ⟨e, he, rfl⟩ := Option.map_eq_some_iff.mp hp
    obtain rfl := List.mem_singleton.mp (List.mem_of_find?_eq_some he)
    exact (connection_tillStore hnow).2
  · simp [moved] at hsteps

/-- The till that was moved is queried in the dialect of its pool, which was made before. -/
theorem query_dialect_moved :
    till.pools = [] ∧ KeepsDialects till moved ∧
      ∃ w' e id c p, (takings.run none (ServiceStep.runAll till moved)).2 = w' ∧ e ∈ w'.sent ∧
        Queries none takings (ServiceStep.runAll till moved) w' id c p e ∧
        c.dialect = e.dialect := by
  have hpools : till.pools = [] := rfl
  have hresult : isResult (takings.run none (ServiceStep.runAll till moved)).1 = true := by
    decide +kernel
  obtain ⟨r, w', before, last, hrun, hsends, hlast⟩ := query_dialect hpools moved none takings
  rw [hrun] at hresult
  obtain ⟨e, he, hsent⟩ := hsends.exists_query hresult
  obtain ⟨id, c, p, now, hquery, -, -, -, hkept⟩ := hlast e he
  exact ⟨hpools, keepsDialects_moved, w', e, id, c, p, congrArg Prod.snd hrun, hsent, hquery,
    hkept keepsDialects_moved⟩

/-- The till is moved to another engine after a request. -/
def converted : List ServiceStep :=
  [.serve none takings, .pool (.replace (tillStore "db" "mysql"))]

/-- The till that was moved to another engine is queried in the dialect of the new one through
the pool of the old one, and the guard lets the query through. -/
theorem query_in_other_dialect :
    till.pools = [] ∧ till.guarded = true ∧
      ∃ w' e id c p, (takings.run none (ServiceStep.runAll till converted)).2 = w' ∧
        e ∈ w'.sent ∧ Queries none takings (ServiceStep.runAll till converted) w' id c p e ∧
        c.dialect = .mysql ∧ e.dialect = .postgres := by
  obtain ⟨r, w', hrun, hserved⟩ := served none takings (ServiceStep.runAll till converted)
  obtain ⟨before, last, hsends⟩ := hserved.sends
  have hresult : isResult (takings.run none (ServiceStep.runAll till converted)).1 = true := by
    decide +kernel
  rw [hrun] at hresult
  obtain ⟨e, he, hsent⟩ := hsends.exists_query hresult
  obtain ⟨id, c, p, hquery⟩ := hsends.query e he
  obtain ⟨step, hstep, hcompiled⟩ := hquery.compiled
  obtain rfl := Option.some.inj hstep
  obtain ⟨now, hnow, hdialect⟩ := (prepares_query _ _ _).spoken _ hcompiled
  have hrow : (tillStore "db" "mysql").connection? id = some now := hnow
  obtain ⟨rfl, hname⟩ := connection_tillStore hrow
  have hpool : pool? (ServiceStep.runAll till converted) 1 = some tillPool := by
    change ((ServiceStep.runAll till [.serve none takings]).pools.find? _).map _ = _
    rw [pools_takings]
    rfl
  refine ⟨rfl, rfl, w', e, 1, c, p, congrArg Prod.snd hrun, hsent, hquery, ?_, ?_⟩
  · rw [hname] at hdialect
    exact (Except.ok.inj hdialect).symm
  · obtain ⟨k, hkeeps⟩ := hserved.keeps
    rw [hquery.dialect]
    rcases hkeeps.pool_cases hquery.pool with hold | ⟨hnone, -⟩
    · rw [← Option.some.inj (hpool.symm.trans hold)]
      rfl
    · cases hpool.symm.trans hnone

end MetricLayer.Service
