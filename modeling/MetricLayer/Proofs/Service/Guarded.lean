import MetricLayer.Proofs.Service.History

/-!
# What reaches a database

While the guard is on, a request sends at most one query. It is the statement that the request is
compiled to, with its parameters, and it passed the guard in the dialect of the pool that it is
sent through. Everything else that is sent is the first statement of a pool, the one that sets the
schema of a connection just opened, or a statement for the catalog.
-/
namespace MetricLayer.Service

/-! ### The statements of a request -/

/-- The query of a request: the statement that it is compiled to, through the pool of its
connection, after it passed the guard. -/
structure Queries (user : Option Int) (q : Request) (w w' : World) (id : Int) (c : Compiled)
    (p : Pool) (e : Event) : Prop where
  compiled : ∃ step, q.prepare user = some step ∧ (step w).1 = .ok ⟨id, c⟩
  pool : pool? w' id = some p
  engine : e.engine = p.engine
  dialect : e.dialect = p.dialect
  statement : e.statement = .query c.sql c.params
  guard : Cleared w c p

/-- What a request sends: routine statements of one connection and then at most one query, which
is sent only if the request compiles to it and the guard lets it through. A result is that of the
query that is sent. -/
structure Sends (user : Option Int) (q : Request) (w w' : World) (r : Except Fault Answer)
    (before : List Event) (last : Option Event) : Prop where
  sent : w'.sent = w.sent ++ (before ++ last.toList)
  routine : ∃ id, ∀ e ∈ before, ∃ p, Asks id w w' e p
  query : ∀ e ∈ last, ∃ id c p, Queries user q w w' id c p e
  uncompiled : ∀ step x, q.prepare user = some step → (step w).1 = .error x → last = none
  refused : ∀ step id c p, q.prepare user = some step → (step w).1 = .ok ⟨id, c⟩ →
    pool? w' id = some p → ¬ Cleared w c p → last = none
  result : ∀ out, r = .ok (.result out) → ∃ e ∈ last,
    e.statement = .query out.compiled.sql out.compiled.params

section
variable {user : Option Int} {q : Request} {w w' : World} {r : Except Fault Answer}

lemma answered_ok {c : Compiled} {answer : Except QueryError (List Row)} {out : QueryResult}
    (h : (answered c answer).map Answer.result = .ok (.result out)) : out.compiled = c := by
  cases answer with
  | ok rows =>
    obtain rfl := Answer.result.inj (Except.ok.inj h)
    rfl
  | error e => cases h

/-- What a request that is served sends. -/
theorem Served.sends (h : Served user q w r w') :
    ∃ before last, Sends user q w w' r before last := by
  cases h with
  | @unsent id _ _ goes result =>
    obtain ⟨new, hsent, hroutine⟩ := goes.sent
    refine ⟨new, none, ?_, ⟨id, hroutine⟩, ?_, fun _ _ _ _ => rfl,
      fun _ _ _ _ _ _ _ _ => rfl, fun out hout => absurd hout (result out)⟩
    · simpa using hsent
    · intro e he
      cases he
  | @sent step id c p w₁ w₂ prepare prepared goes pool guard =>
    obtain ⟨new, hsent, hroutine⟩ := goes.sent
    have hcompiled : (step w).1 = .ok ⟨id, c⟩ := congrArg Prod.fst prepared
    have hquery : Queries user q w (w₂.after p c) id c p
        ⟨p.engine, p.dialect, .query c.sql c.params⟩ :=
      ⟨⟨step, prepare, hcompiled⟩, pool, rfl, rfl, rfl, guard⟩
    refine ⟨new, some ⟨p.engine, p.dialect, .query c.sql c.params⟩, ?_, ⟨id, ?_⟩, ?_, ?_, ?_, ?_⟩
    · rw [World.after, World.exchanged, hsent, Option.toList_some, List.append_assoc]
    · intro e he
      obtain ⟨p', hasks⟩ := hroutine e he
      exact ⟨p', hasks.pool, hasks.engine, hasks.dialect, hasks.statement, fun schema hs =>
        (hasks.opened schema hs).mono_right (Nat.le_add_right ..)⟩
    · intro e he
      obtain rfl := Option.some.inj he
      exact ⟨id, c, p, hquery⟩
    · intro step' x hprepare hx
      obtain rfl := Option.some.inj (prepare.symm.trans hprepare)
      cases hcompiled.symm.trans hx
    · intro step' id' c' p' hprepare hprepared hpool hrefused
      obtain rfl := Option.some.inj (prepare.symm.trans hprepare)
      obtain ⟨rfl, rfl⟩ := Prepared.mk.inj (Except.ok.inj (hcompiled.symm.trans hprepared))
      obtain rfl := Option.some.inj (pool.symm.trans hpool)
      exact absurd guard hrefused
    · intro out hout
      rw [answered_ok hout]
      exact ⟨_, rfl, rfl⟩

/-- Whether a request was answered with a query result. -/
def isResult : Except Fault Answer → Bool
  | .ok (.result _) => true
  | _ => false

lemma exists_result (h : isResult r = true) : ∃ out, r = .ok (.result out) := by
  cases r with
  | error x => cases h
  | ok answer =>
    cases answer with
    | result out => exact ⟨out, rfl⟩
    | mapped r => cases h
    | names ns => cases h
    | links ts => cases h

namespace Sends

variable {before : List Event} {last : Option Event}

lemma mem_sent (h : Sends user q w w' r before last) {e : Event} (he : e ∈ last) :
    e ∈ w'.sent := by
  rw [h.sent]
  exact List.mem_append_right _ (List.mem_append_right _ (Option.mem_toList.mpr he))

/-- A request that is answered with a query result has sent its query. -/
lemma exists_query (h : Sends user q w w' r before last) (hresult : isResult r = true) :
    ∃ e, e ∈ last ∧ e ∈ w'.sent := by
  obtain ⟨out, hout⟩ := exists_result hresult
  obtain ⟨e, he, -⟩ := h.result out hout
  exact ⟨e, he, h.mem_sent he⟩

end Sends

end

/-! ### The texts of a history -/

/-- What a text can be that reaches a database with an event of a step. -/
inductive Permitted (w : World) (step : ServiceStep) (p : Pool) (e : Event) : String → Prop
  | probe (statement : e.statement = .probe) : Permitted w step p e "SELECT 1"
  | session {schema : String} (statement : e.statement = .session schema)
    (own : p.schema = some schema) (opened : Opens w (step.run w)) :
    Permitted w step p e (p.dialect.defaultSchemaSql schema)
  | columns {table : String} (statement : e.statement = .columns p.schema table) :
    Permitted w step p e p.dialect.columnsSql
  | tables (statement : e.statement = .tables p.schema) : Permitted w step p e p.dialect.tablesSql
  | query {user : Option Int} {q : Request} {id : Int} {c : Compiled}
    (serves : step = .serve user q) (query : Queries user q w (step.run w) id c p e)
    (guard : Sql.ensureSelect w.settings.parser c.sql p.dialect.name = .ok ()) :
    Permitted w step p e c.sql

/-- An event of a step brings a permitted text to a database, through the pool of a connection or
one that was tried for it. -/
structure Reaches (w : World) (step : ServiceStep) (e : Event) (p : Pool) : Prop where
  pool : ∃ id, pool? (step.run w) id = some p ∨ MadeFor w.store id p
  engine : e.engine = p.engine
  dialect : e.dialect = p.dialect
  text : Permitted w step p e (e.statement.sql p.dialect)

section
variable {w : World} {step : ServiceStep} {e : Event} {p : Pool}

lemma Asks.reaches {id : Int} (h : Asks id w (step.run w) e p) : Reaches w step e p := by
  refine ⟨⟨id, h.pool⟩, h.engine, h.dialect, ?_⟩
  have hroutine := h.statement
  have hopened := h.opened
  generalize hs : e.statement = s at hroutine hopened ⊢
  cases hroutine with
  | probe => exact .probe hs
  | session own => exact .session hs own (hopened _ rfl)
  | columns table => exact .columns hs
  | tables => exact .tables hs

lemma Queries.reaches {user : Option Int} {q : Request} {id : Int} {c : Compiled}
    (h : Queries user q w (ServiceStep.run w (.serve user q)) id c p e)
    (hguarded : w.guarded = true) : Reaches w (.serve user q) e p := by
  refine ⟨⟨id, .inl h.pool⟩, h.engine, h.dialect, ?_⟩
  rw [h.statement]
  exact .query rfl h (h.guard hguarded)

/-- The events of a step are added to those that were sent before, and all of them are
permitted while the guard is on. -/
lemma sent_step (hguarded : w.guarded = true) (step : ServiceStep) :
    ∃ new, (step.run w).sent = w.sent ++ new ∧ ∀ e ∈ new, ∃ p, Reaches w step e p := by
  cases step with
  | serve user q =>
    obtain ⟨r, w', hrun, hserved⟩ := served user q w
    obtain ⟨before, last, hsends⟩ := hserved.sends
    obtain rfl : ServiceStep.run w (.serve user q) = w' := congrArg Prod.snd hrun
    refine ⟨_, hsends.sent, fun e he => ?_⟩
    rcases List.mem_append.mp he with he | he
    · obtain ⟨id, hroutine⟩ := hsends.routine
      obtain ⟨p, hasks⟩ := hroutine e he
      exact ⟨p, hasks.reaches⟩
    · obtain ⟨id, c, p, hquery⟩ := hsends.query e (Option.mem_toList.mp he)
      exact ⟨p, hquery.reaches hguarded⟩
  | pool step =>
    cases step with
    | acquire id user =>
      obtain ⟨new, hsent, hasks⟩ := (Moves.acquire id user w).sent
      refine ⟨new, hsent, fun e he => ?_⟩
      obtain ⟨p, hp⟩ := hasks e he
      exact ⟨p, Asks.reaches hp⟩
    | replace s => exact ⟨[], (List.append_nil _).symm, fun _ he => by cases he⟩
    | dispose => exact ⟨[], (List.append_nil _).symm, fun _ he => by cases he⟩
  | answer t => exact ⟨[], (List.append_nil _).symm, fun _ he => by cases he⟩

end

/-- Every event of a history was sent by one of its steps. -/
lemma sent_runAll {start : World} (hguarded : start.guarded = true) (steps : List ServiceStep)
    {e : Event} (he : e ∈ (ServiceStep.runAll start steps).sent) :
    e ∈ start.sent ∨ ∃ before step after p, steps = before ++ step :: after ∧
      Reaches (ServiceStep.runAll start before) step e p := by
  induction steps generalizing start with
  | nil => exact .inl he
  | cons step steps ih =>
    obtain ⟨new, hsent, hnew⟩ := sent_step hguarded step
    rcases ih ((ServiceStep.effect start step).guarded.trans hguarded) he with
      he | ⟨before, step', after, p, rfl, hreaches⟩
    · rw [hsent] at he
      rcases List.mem_append.mp he with he | he
      · exact .inl he
      · obtain ⟨p, hreaches⟩ := hnew e he
        exact .inr ⟨[], step, steps, p, rfl, hreaches⟩
    · exact .inr ⟨step :: before, step', after, p, rfl, hreaches⟩

/-- While the guard is on, whatever reaches a database over a history is the first statement of a
pool, the one that sets the schema of a new connection, a statement for the catalog, or the query
of the request that is served then. A request sends at most one query, with the parameters that
it is compiled to and after it passed the guard in the dialect of its pool; it sends none if it
is not compiled or does not pass; and a result carries the text and the parameters that were
sent. -/
theorem statements_guarded {start : World} (hguarded : start.guarded = true)
    (steps : List ServiceStep) :
    let w := ServiceStep.runAll start steps
    (∀ e ∈ w.sent, e ∈ start.sent ∨ ∃ before step after p, steps = before ++ step :: after ∧
      Reaches (ServiceStep.runAll start before) step e p) ∧
    w.guarded = true ∧
    ∀ user q, ∃ r w' before last, q.run user w = (r, w') ∧ Sends user q w w' r before last := by
  intro w
  refine ⟨fun e he => sent_runAll hguarded steps he,
    (ServiceStep.runAll_guarded start steps).trans hguarded, fun user q => ?_⟩
  obtain ⟨r, w', hrun, hserved⟩ := served user q w
  obtain ⟨before, last, hsends⟩ := hserved.sends
  exact ⟨r, w', before, last, hrun, hsends⟩

/-- A connection with a default schema. -/
def tillRow (host dialect : String) : Connection :=
  ⟨1, none, "till", dialect, host, 5432, "shop", "u", "p", some "sales", none, none⟩

/-- Takings, on one connection. -/
def tillStore (host dialect : String) : Store := .memory {
  connections := [tillRow host dialect]
  facts := [⟨1, 1, "Takings", "receipts", "amount", .sum⟩] }

def till : World where
  store := tillStore "db" "postgres"
  settings := { validateSql := false }
  target := {
    opened := fun tick => if tick = 1 then 1 else 0
    query := fun _ _ _ => .ok [[("Takings", .int 10)]] }

def takings : Request := .query 1 (.facts ⟨[1], [], none, []⟩)

/-- The first connection sets its schema. All that is sent is permitted, and the takings are the
result of the last statement. -/
theorem statements_guarded_till :
    till.guarded = true ∧
      (takings.run none till).2.sent.map (fun e => e.statement.sql e.dialect) =
        ["SET search_path TO \"sales\"", "SELECT 1",
          "SELECT SUM(\"receipts\".\"amount\") AS \"Takings\"\nFROM \"receipts\""] ∧
      (∀ e ∈ (takings.run none till).2.sent, ∃ p, Reaches till (.serve none takings) e p) ∧
      ∃ out, (takings.run none till).1 = .ok (.result out) ∧
        ∃ e ∈ (takings.run none till).2.sent,
          e.statement = .query out.compiled.sql out.compiled.params := by
  have hguarded : till.guarded = true := rfl
  have hresult : isResult (takings.run none till).1 = true := by decide +kernel
  obtain ⟨hevents, -, -⟩ := statements_guarded hguarded [.serve none takings]
  obtain ⟨-, -, hrequests⟩ := statements_guarded hguarded []
  obtain ⟨out, hout⟩ := exists_result hresult
  obtain ⟨r, w', before, last, hrun, hsends⟩ := hrequests none takings
  change takings.run none till = (r, w') at hrun
  refine ⟨hguarded, by decide +kernel, fun e he => ?_, out, hout, ?_⟩
  · rcases hevents e he with hin | ⟨earlier, step, after, p, hsteps, hreaches⟩
    · cases hin
    · cases earlier with
      | nil =>
        obtain ⟨rfl, -⟩ := List.cons.inj hsteps
        exact ⟨p, hreaches⟩
      | cons first earlier => simp at hsteps
  · obtain ⟨e, he, hstatement⟩ := hsends.result out ((congrArg Prod.fst hrun).symm.trans hout)
    rw [hrun]
    exact ⟨e, hsends.mem_sent he, hstatement⟩

end MetricLayer.Service
