import MetricLayer.Proofs.Service.Effects

/-!
# How a request is served

A query, a report and a link between reports are compiled first. What they are compiled to is
then run on the pool of its connection, where it is sent if it passes the guard. The other
requests send no query at all.
-/
namespace MetricLayer.Service
open Store

/-! ### Compiling -/

/-- What a request is compiled to, and the connection that it is for. -/
structure Prepared where
  connectionId : Int
  compiled : Compiled

/-- Runs what a request is compiled to. -/
def Prepared.run (user : Option Int) (p : Prepared) : ServiceM QueryResult :=
  executeCompiled ⟨p.connectionId, user⟩ p.compiled

/-- Compiles a query, with the columns that are looked up for it. -/
def prepareQuery (a : Asker) (m : MeasureQuery) : ServiceM Prepared := do
  let c ← connectionFor a.connectionId a.user
  let w ← view id
  let d ← lift (m.draft w.settings w.store c)
  let columns ← freshLookups (columnsFor a d.needed)
  let settings ← view (·.settings)
  return ⟨a.connectionId, ← lift (d.complete settings (some columns))⟩

/-- Compiles a report. -/
def prepareReport (id : Int) (runtime : List (Value × Value)) (user : Option Int) :
    ServiceM Prepared := do
  let r ← getReport id
  let c ← connectionFor r.connectionId user
  let settings ← view (·.settings)
  return ⟨r.connectionId, ← lift (Compile.report settings r c.dialect runtime)⟩

/-- Compiles the target of a link between reports. -/
def prepareDrill (id targetId : Int) (row : List (Value × Value)) (user : Option Int) :
    ServiceM Prepared := do
  let r ← getReport id
  match r.drillTargets.find? (·.reportId == targetId) with
  | none =>
    throw (.failure (.invalidReference "drill target" (toString targetId)
      (some ("not linked from report '" ++ r.name ++ "'"))))
  | some link => prepareReport targetId (drillFilters link row) user

/-- How a request is compiled, if it is one for a query result. -/
def Request.prepare (user : Option Int) : Request → Option (ServiceM Prepared)
  | query id m => some (prepareQuery ⟨id, user⟩ m)
  | report id runtime => some (prepareReport id runtime user)
  | drillThrough id targetId row => some (prepareDrill id targetId row user)
  | autoMap _ | tables _ | describeTable .. | drillConfig _ => none

section
variable {w : World} {user : Option Int}

lemma runQuery_eq_prepare (a : Asker) (m : MeasureQuery) :
    runQuery a m = prepareQuery a m >>= Prepared.run a.user := by
  funext w
  unfold prepareQuery
  rw [bind_assoc]
  cases hc : (connectionFor a.connectionId a.user w).1 with
  | error x =>
    have hconnection : connectionFor a.connectionId a.user w = (.error x, w) :=
      Prod.ext hc (Still.connectionFor _ _ w)
    rw [run_bind_error hconnection]
    cases m <;> exact run_bind_error hconnection
  | ok c =>
    have hconnection : connectionFor a.connectionId a.user w = (.ok c, w) :=
      Prod.ext hc (Still.connectionFor _ _ w)
    have hworld : view id w = (.ok w, w) := rfl
    rw [runQuery_eq hc, run_bind_ok hconnection, bind_assoc, run_bind_ok hworld, bind_assoc]
    simp only [runDraft, bind_assoc, pure_bind]
    rfl

lemma runReport_eq_prepare (id : Int) (runtime : List (Value × Value)) (user : Option Int) :
    runReport id runtime user = prepareReport id runtime user >>= Prepared.run user := by
  simp only [runReport, prepareReport, bind_assoc, pure_bind]
  rfl

lemma drillThrough_eq_prepare (id targetId : Int) (row : List (Value × Value))
    (user : Option Int) :
    drillThrough id targetId row user =
      prepareDrill id targetId row user >>= Prepared.run user := by
  unfold drillThrough prepareDrill
  rw [bind_assoc]
  congr 1
  funext r
  cases r.drillTargets.find? (·.reportId == targetId) with
  | none => rfl
  | some link => exact runReport_eq_prepare ..

/-- A request for a query result runs what it is compiled to. -/
lemma Request.run_of_prepare {q : Request} {step : ServiceM Prepared}
    (h : q.prepare user = some step) :
    q.run user = step >>= fun p => Answer.result <$> p.run user := by
  cases q with
  | query id m =>
    obtain rfl := Option.some.inj h
    simp only [Request.run, runQuery_eq_prepare, bind_assoc, map_eq_pure_bind]
  | report id runtime =>
    obtain rfl := Option.some.inj h
    simp only [Request.run, runReport_eq_prepare, bind_assoc, map_eq_pure_bind]
  | drillThrough id targetId row =>
    obtain rfl := Option.some.inj h
    simp only [Request.run, drillThrough_eq_prepare, bind_assoc, map_eq_pure_bind]
  | autoMap id => cases h
  | tables id => cases h
  | describeTable id table => cases h
  | drillConfig id => cases h

end

/-! ### Sending -/

/-- The result of a statement that is sent. -/
def answered (c : Compiled) : Except QueryError (List Row) → Except Fault QueryResult
  | .ok rows => .ok ⟨c, rows⟩
  | .error e => .error (.failure (.executionFailed c.sql (failureReason e)))

/-- The world once the query of a request is sent on a pool and answered. -/
def World.after (w : World) (p : Pool) (c : Compiled) : World :=
  w.exchanged ⟨p.engine, p.dialect, .query c.sql c.params⟩

/-- While the guard is on, a statement passes it in the dialect of a pool. -/
def Cleared (w : World) (c : Compiled) (p : Pool) : Prop :=
  w.guarded = true → Sql.ensureSelect w.settings.parser c.sql p.dialect.name = .ok ()

lemma Keeps.cleared_iff {id : Int} {w w' : World} {c : Compiled} {p : Pool}
    (h : Keeps id w w') : Cleared w' c p ↔ Cleared w c p := by
  rw [Cleared, Cleared, h.guarded, h.settings]

/-- What becomes of a statement that is to run on the pool of a connection. It is sent only if
there is a pool, and if it passes the guard in the dialect of the pool. -/
inductive Executed (id : Int) (c : Compiled) (w : World) :
    Except Fault QueryResult → World → Prop
  | unsent {x : Fault} {w' : World} (goes : Goes id w w') : Executed id c w (.error x) w'
  | sent {w' : World} {p : Pool} (goes : Goes id w w') (pool : pool? w' id = some p)
    (guard : Cleared w c p) :
    Executed id c w (answered c (w'.target.query w'.tick c.sql c.params)) (w'.after p c)

section
variable {id : Int} {c : Compiled} {w w' : World} {p : Pool}

/-- A statement that is run with a connection of a pool. -/
def leased (p : Pool) (c : Compiled) : ServiceM (List Row) :=
  lease p do
    send p.engine p.dialect (.query c.sql c.params)
    match ← ask fun t tick => t.query tick c.sql c.params with
    | .ok rows => return rows
    | .error e => throw (.failure (.executionFailed c.sql (failureReason e)))

lemma executed_of_leased (hgoes : Goes id w w') (hpool : pool? w' id = some p)
    (hguard : Cleared w c p) :
    ∃ r w'', (leased p c >>= fun rows => pure ⟨c, rows⟩ : ServiceM QueryResult) w' = (r, w'') ∧
      Executed id c w r w'' := by
  have hrun := lease_sends p (.query c.sql c.params)
    (fun t tick => t.query tick c.sql c.params)
    (k := fun r => match r with
      | .ok rows => pure rows
      | .error e => throw (.failure (.executionFailed c.sql (failureReason e))))
    (f := fun r => r.mapError fun e => .failure (.executionFailed c.sql (failureReason e)))
    (fun r _ => by cases r <;> rfl) w'
  have htaken : Goes id w (w'.taken p.engine p.connection p.dialect) :=
    hgoes.trans (.taken (.inl hpool))
  cases hconnect : w'.target.connect w'.tick with
  | some e =>
    rw [hconnect] at hrun
    exact ⟨_, _, run_bind_error hrun, .unsent htaken⟩
  | none =>
    rw [hconnect] at hrun
    have hsent := Executed.sent htaken hpool hguard
    change Executed id c w (answered c (w'.target.query (w'.tick + 1) c.sql c.params)) _ at hsent
    cases hanswer : w'.target.query (w'.tick + 1) c.sql c.params with
    | ok rows =>
      rw [hanswer] at hrun hsent
      exact ⟨_, _, run_bind_ok hrun, hsent⟩
    | error e =>
      rw [hanswer] at hrun hsent
      exact ⟨_, _, run_bind_error hrun, hsent⟩

lemma execute_eq (p : Pool) (c : Compiled) (w : World) :
    execute p c.sql c.params w =
      if w.guarded then
        (lift (Sql.ensureSelect w.settings.parser c.sql p.dialect.name) >>= fun _ => leased p c) w
      else leased p c w := by
  have hguarded : view (·.guarded) w = (.ok w.guarded, w) := rfl
  unfold execute
  rw [run_bind_ok hguarded]
  cases w.guarded <;> rfl

/-- What becomes of a compiled request. -/
theorem executed (a : Asker) (c : Compiled) (w : World) :
    ∃ r w', executeCompiled a c w = (r, w') ∧ Executed a.connectionId c w r w' := by
  have hgoes := Moves.acquire a.connectionId a.user w
  unfold executeCompiled
  cases hp : (acquire a.connectionId a.user w).1 with
  | error x => exact ⟨_, _, run_bind_error (Prod.ext hp rfl), .unsent hgoes⟩
  | ok p =>
    have hpool := pool?_acquire (Prod.ext hp rfl)
    rw [run_bind_ok (Prod.ext hp rfl)]
    have hrun := execute_eq p c (acquire a.connectionId a.user w).2
    cases hguarded : (acquire a.connectionId a.user w).2.guarded with
    | false =>
      rw [hguarded] at hrun
      rw [run_bind, hrun]
      refine executed_of_leased hgoes hpool fun h => ?_
      cases (hgoes.guarded.symm.trans hguarded).symm.trans h
    | true =>
      rw [hguarded] at hrun
      rw [run_bind, hrun]
      rw [hgoes.settings]
      cases hselect : Sql.ensureSelect w.settings.parser c.sql p.dialect.name with
      | error x => exact ⟨_, _, rfl, .unsent hgoes⟩
      | ok _ => exact executed_of_leased hgoes hpool fun _ => hselect

end

/-! ### Requests -/

/-- A compiled statement is in the dialect of the connection that the store has for it. -/
def Spoken (s : Store) (p : Prepared) : Prop :=
  ∃ c, s.connection? p.connectionId = some c ∧
    Dialect.ofName c.dialect = .ok p.compiled.dialect

/-- What a request does while it is compiled: it sends no query, and what it is compiled to is in
the dialect of its connection. -/
structure Prepares (w : World) (step : ServiceM Prepared) : Prop where
  goes : ∃ id, Goes id w (step w).2 ∧ ∀ p, (step w).1 = .ok p → p.connectionId = id
  spoken : ∀ p, (step w).1 = .ok p → Spoken w.store p

lemma draft_dialect {settings : Setup} {store : Store} {c : Connection} {m : MeasureQuery}
    {d : Draft} (h : m.draft settings store c = .ok d) :
    Dialect.ofName c.dialect = .ok d.dialect := by
  cases m with
  | facts q => exact (Compile.draftFacts_ok_iff.mp h).dialect
  | kpi q =>
    obtain ⟨_, _, _, hdialect, -⟩ := Compile.draftKpi_ok h
    exact hdialect

lemma render_dialect {settings : Setup} {plan : QueryPlan} {d : Dialect} {c : Compiled}
    (h : Compile.render settings plan d = .ok c) : c.dialect = d := by
  obtain ⟨sql, _, h⟩ := bind_eq_ok h
  obtain rfl := Except.ok.inj h
  rfl

lemma Still.getReport (id : Int) : Still (Service.getReport id) := by
  refine .bind (fun _ => rfl) fun s => .bind (fun _ => rfl) fun found => ?_
  cases found with
  | none => exact fun _ => rfl
  | some r => exact fun _ => rfl

namespace Moves

variable {id : Int} {user : Option Int}

lemma connectionFor (k : Int) (user : Option Int) :
    Moves id (Service.connectionFor k user) := .still (.connectionFor k user)

lemma getReport (k : Int) : Moves id (Service.getReport k) := .still (.getReport k)

theorem prepareQuery (a : Asker) (m : MeasureQuery) :
    Moves a.connectionId (Service.prepareQuery a m) := by
  refine .bind (connectionFor _ _) fun c => .bind (.view _) fun w => .bind (.lift _) fun d => ?_
  refine .bind (Looks.columnsFor a _).fresh fun columns => .bind (.view _) fun settings => ?_
  exact .bind (.lift _) fun c => .still fun _ => rfl

theorem prepareReport (k : Int) (runtime : List (Value × Value)) (user : Option Int) :
    Moves id (Service.prepareReport k runtime user) := by
  refine .bind (getReport k) fun r => .bind (connectionFor _ _) fun c => .bind (.view _) ?_
  exact fun settings => .bind (.lift _) fun c => .still fun _ => rfl

theorem prepareDrill (k targetId : Int) (row : List (Value × Value)) (user : Option Int) :
    Moves id (Service.prepareDrill k targetId row user) := by
  refine .bind (getReport k) fun r => ?_
  split
  · exact .lift (.error _)
  · exact prepareReport _ _ _

end Moves

section
variable {w : World} {user : Option Int}

lemma prepares_query (a : Asker) (m : MeasureQuery) (w : World) :
    Prepares w (prepareQuery a m) := by
  have hprepared : ∀ p, (prepareQuery a m w).1 = .ok p →
      p.connectionId = a.connectionId ∧ Spoken w.store p := by
    intro p hp
    obtain ⟨c, w', hc, hrest⟩ := run_bind_inv hp
    have hw : w' = w := (congrArg Prod.snd hc).symm.trans (Still.connectionFor _ _ w)
    rw [hw] at hrest
    have hworld : view id w = (.ok w, w) := rfl
    rw [run_bind_ok hworld] at hrest
    obtain ⟨d, _, hd, hrest⟩ := run_bind_inv hrest
    obtain ⟨columns, _, -, hrest⟩ := run_bind_inv hrest
    obtain ⟨settings, _, -, hrest⟩ := run_bind_inv hrest
    obtain ⟨compiled, _, hcompiled, hrest⟩ := run_bind_inv hrest
    obtain rfl := Except.ok.inj hrest
    obtain ⟨plan, -, hrender⟩ := bind_eq_ok (Prod.mk.inj hcompiled).1
    refine ⟨rfl, c, connectionFor_ok (congrArg Prod.fst hc), ?_⟩
    rw [render_dialect hrender]
    exact draft_dialect (Prod.mk.inj hd).1
  exact ⟨⟨a.connectionId, Moves.prepareQuery a m w, fun p hp => (hprepared p hp).1⟩,
    fun p hp => (hprepared p hp).2⟩

/-- A step that does the same as one for any connection. -/
lemma prepares_of_moves {step : ServiceM Prepared} (hmoves : ∀ id, Moves id step)
    (h : ∀ p, (step w).1 = .ok p → Spoken w.store p) : Prepares w step := by
  refine ⟨?_, h⟩
  cases hp : (step w).1 with
  | error x => exact ⟨0, hmoves 0 w, fun p hp' => by cases hp'⟩
  | ok p => exact ⟨p.connectionId, hmoves _ w, fun p' hp' => by rw [Except.ok.inj hp']⟩

lemma spoken_report {id : Int} {runtime : List (Value × Value)} {p : Prepared}
    (h : (prepareReport id runtime user w).1 = .ok p) : Spoken w.store p := by
  obtain ⟨r, w', hr, hrest⟩ := run_bind_inv h
  have hw : w' = w := (congrArg Prod.snd hr).symm.trans (Still.getReport id w)
  rw [hw] at hrest
  obtain ⟨c, w', hc, hrest⟩ := run_bind_inv hrest
  obtain ⟨settings, _, -, hrest⟩ := run_bind_inv hrest
  obtain ⟨compiled, _, hcompiled, hrest⟩ := run_bind_inv hrest
  obtain rfl := Except.ok.inj hrest
  obtain ⟨d, hd, hcompiled⟩ := bind_eq_ok (Prod.mk.inj hcompiled).1
  obtain ⟨plan, -, hrender⟩ := bind_eq_ok hcompiled
  refine ⟨c, connectionFor_ok (congrArg Prod.fst hc), ?_⟩
  rw [render_dialect hrender]
  exact hd

lemma spoken_drill {id targetId : Int} {row : List (Value × Value)} {p : Prepared}
    (h : (prepareDrill id targetId row user w).1 = .ok p) : Spoken w.store p := by
  obtain ⟨r, w', hr, hrest⟩ := run_bind_inv h
  have hw : w' = w := (congrArg Prod.snd hr).symm.trans (Still.getReport id w)
  rw [hw] at hrest
  cases hlink : r.drillTargets.find? (·.reportId == targetId) with
  | none =>
    rw [hlink] at hrest
    cases hrest
  | some link =>
    rw [hlink] at hrest
    exact spoken_report hrest

/-- Every request for a query result is compiled in the dialect of its connection, and sends no
query before that. -/
theorem prepares {q : Request} {step : ServiceM Prepared} (h : q.prepare user = some step)
    (w : World) : Prepares w step := by
  cases q with
  | query id m =>
    obtain rfl := Option.some.inj h
    exact prepares_query ⟨id, user⟩ m w
  | report id runtime =>
    obtain rfl := Option.some.inj h
    exact prepares_of_moves (fun _ => .prepareReport _ _ _) fun _ => spoken_report
  | drillThrough id targetId row =>
    obtain rfl := Option.some.inj h
    exact prepares_of_moves (fun _ => .prepareDrill _ _ _ _) fun _ => spoken_drill
  | autoMap id => cases h
  | tables id => cases h
  | describeTable id table => cases h
  | drillConfig id => cases h

end

/-- What becomes of a request: it sends no query and gives no query result, or it sends the query
that it is compiled to, on the pool of its connection, after it passed the guard. -/
inductive Served (user : Option Int) (q : Request) (w : World) : Except Fault Answer → World → Prop
  | unsent {id : Int} {r : Except Fault Answer} {w' : World} (goes : Goes id w w')
    (result : ∀ out, r ≠ .ok (.result out)) : Served user q w r w'
  | sent {step : ServiceM Prepared} {id : Int} {c : Compiled} {p : Pool} {w₁ w₂ : World}
    (prepare : q.prepare user = some step) (prepared : step w = (.ok ⟨id, c⟩, w₁))
    (goes : Goes id w w₂) (pool : pool? w₂ id = some p)
    (guard : Cleared w c p) :
    Served user q w ((answered c (w₂.target.query w₂.tick c.sql c.params)).map .result)
      (w₂.after p c)

section
variable {w : World} {user : Option Int}

/-- Steps that a request that is not for a query result consists of. -/
lemma served_unsent {α : Type} {x : ServiceM α} {f : α → Answer} {q : Request} (id : Int)
    (hrun : q.run user = f <$> x) (hx : Moves id x) (hf : ∀ a out, f a ≠ .result out) :
    ∃ r w', q.run user w = (r, w') ∧ Served user q w r w' := by
  rw [hrun, map_eq_pure_bind]
  have hgoes := Moves.bind hx (fun a => .still fun _ => rfl : ∀ a, Moves id (pure (f a))) w
  refine ⟨_, _, rfl, .unsent hgoes ?_⟩
  intro out hout
  obtain ⟨a, _, _, ha⟩ := run_bind_inv hout
  exact hf a out (Except.ok.inj ha)

/-- Every request is served in this way. -/
theorem served (user : Option Int) (q : Request) (w : World) :
    ∃ r w', q.run user w = (r, w') ∧ Served user q w r w' := by
  cases hprepare : q.prepare user with
  | some step =>
    obtain ⟨⟨id, hgoes, hid⟩, -⟩ := prepares hprepare w
    rw [Request.run_of_prepare hprepare]
    cases hstep : (step w).1 with
    | error x =>
      have hrun : step w = (.error x, (step w).2) := Prod.ext hstep rfl
      exact ⟨_, _, run_bind_error hrun, .unsent hgoes fun _ h => by cases h⟩
    | ok p =>
      have hrun : step w = (.ok p, (step w).2) := Prod.ext hstep rfl
      obtain ⟨r, w', hexecuted, hcase⟩ := executed ⟨p.connectionId, user⟩ p.compiled (step w).2
      obtain rfl := hid p hstep
      rw [run_bind_ok hrun, map_eq_pure_bind]
      cases hcase with
      | unsent hafter =>
        exact ⟨_, _, run_bind_error hexecuted, .unsent (hgoes.trans hafter) fun _ h => by cases h⟩
      | @sent w₂ pool hafter hpool hguard =>
        have hsent := Served.sent hprepare hrun (hgoes.trans hafter) hpool
          (hgoes.cleared_iff.mp hguard)
        refine ⟨_, _, ?_, hsent⟩
        rw [run_bind, Prepared.run, hexecuted]
        cases w₂.target.query w₂.tick p.compiled.sql p.compiled.params <;> rfl
  | none =>
    cases q with
    | query id m => cases hprepare
    | report id runtime => cases hprepare
    | drillThrough id targetId row => cases hprepare
    | autoMap id =>
      refine served_unsent id (f := .mapped) rfl (.bind (.connectionFor _ _) fun _ => ?_) ?_
      · exact (Looks.autoMapPairs ⟨id, user⟩).fresh
      · intro a out h
        cases h
    | tables id =>
      refine served_unsent id (f := .names) rfl (.bind (.connectionFor _ _) fun _ => ?_) ?_
      · exact (Looks.listTables ⟨id, user⟩).fresh
      · intro a out h
        cases h
    | describeTable id table =>
      refine served_unsent id (f := .names) rfl (.bind (.connectionFor _ _) fun _ => ?_) ?_
      · refine .bind (Looks.columns ⟨id, user⟩ table).fresh fun names => ?_
        split
        · exact .bind (.lift (.error _)) fun _ => .still fun _ => rfl
        · exact .still fun _ => rfl
      · intro a out h
        cases h
    | drillConfig id =>
      refine served_unsent 0 (f := .links) rfl (.bind (.getReport id) fun r => ?_) ?_
      · exact .bind (.connectionFor _ _) fun _ => .still fun _ => rfl
      · intro a out h
        cases h

end

end MetricLayer.Service
