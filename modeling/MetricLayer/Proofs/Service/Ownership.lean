import MetricLayer.Proofs.Service.Query

/-!
# Connections of other users

A connection that is owned is used by its owner only. Every request is refused that reaches the
connection of another user, whichever way it gets there and whatever pools are there, and the
world stays as it is. A link between reports is followed without asking whose connection the
report is on that the link belongs to.
-/
namespace MetricLayer.Store

/-- Whether a connection belongs to someone else than a user. -/
def ForeignTo (s : Store) (id user : Int) : Prop :=
  ∃ c owner, s.connection? id = some c ∧ c.ownerId = some owner ∧ owner ≠ user

/-- The connection of a report, whether the rest of the report can be read or not. -/
def reportConnection? (s : Store) (id : Int) : Option Int :=
  match s with
  | memory m => (m.report? id).map (·.connectionId)
  | relational r => (r.reports.find? (·.id == id)).map (·.connectionId)

/-- Whether a report has a link to another one, whether they can be read or not. -/
def hasLink (s : Store) (id target : Int) : Bool :=
  match s with
  | memory m => (m.report? id).any (·.drillTargets.any (·.reportId == target))
  | relational r => (r.reports.find? (·.id == id)).isSome &&
      r.drills.any fun d => d.reportId == id && d.targetId == target

lemma DrillRow.read_ok {row : DrillRow} {t : DrillTarget} (h : row.read = .ok t) :
    t.reportId = row.targetId := by
  obtain ⟨_, _, h⟩ := bind_eq_ok h
  obtain ⟨_, _, h⟩ := bind_eq_ok h
  obtain rfl := Except.ok.inj h
  rfl

section
variable {s : Store} {id : Int}

/-- A report that does not exist has no connection and no links. -/
lemma of_report?_none (h : s.report? id = .ok none) :
    s.reportConnection? id = none ∧ ∀ target, s.hasLink id target = false := by
  cases s with
  | memory m =>
    have hnone := Except.ok.inj h
    rw [reportConnection?, hnone]
    refine ⟨rfl, fun target => ?_⟩
    rw [hasLink, hnone]
    rfl
  | relational r =>
    change r.report? id = _ at h
    unfold Relational.report? at h
    cases hrow : r.reports.find? (·.id == id) with
    | none => simp [reportConnection?, hasLink, hrow]
    | some row =>
      rw [hrow] at h
      obtain ⟨_, _, h⟩ := bind_eq_ok h
      obtain ⟨_, _, h⟩ := bind_eq_ok h
      cases h

/-- A report that can be read has the connection and the links of its rows. -/
lemma of_report? {r : Report} (h : s.report? id = .ok (some r)) :
    s.reportConnection? id = some r.connectionId ∧
      ∀ target, s.hasLink id target = r.drillTargets.any (·.reportId == target) := by
  cases s with
  | memory m =>
    have hsome := Except.ok.inj h
    rw [reportConnection?, hsome]
    refine ⟨rfl, fun target => ?_⟩
    rw [hasLink, hsome]
    rfl
  | relational rel =>
    change rel.report? id = _ at h
    unfold Relational.report? at h
    cases hrow : rel.reports.find? (·.id == id) with
    | none =>
      rw [hrow] at h
      cases h
    | some row =>
      rw [hrow] at h
      obtain ⟨_, _, h⟩ := bind_eq_ok h
      obtain ⟨drills, hdrills, h⟩ := bind_eq_ok h
      obtain rfl := Option.some.inj (Except.ok.inj h)
      rw [reportConnection?, hrow]
      refine ⟨rfl, fun target => Bool.eq_iff_iff.mpr ?_⟩
      simp only [hasLink, hrow, Option.isSome_some, Bool.true_and, List.any_eq_true,
        Bool.and_eq_true, beq_iff_eq]
      constructor
      · rintro ⟨d, hd, hid, htarget⟩
        have hrows : d ∈ rel.drillOrder.arrange (rel.drills.filter (·.reportId == id)) := by
          simpa [(rel.drillOrder.perm _).mem_iff, hid] using hd
        obtain ⟨t, ht, hread⟩ := exists_of_mapM hdrills hrows
        exact ⟨t, ht, (DrillRow.read_ok hread).trans htarget⟩
      · rintro ⟨t, ht, htarget⟩
        obtain ⟨d, hd, hread⟩ := (mem_mapM_iff hdrills).mp ht
        obtain ⟨hd, hid⟩ : d ∈ rel.drills ∧ d.reportId = id := by
          simpa [(rel.drillOrder.perm _).mem_iff] using hd
        exact ⟨d, hd, hid, (DrillRow.read_ok hread).symm.trans htarget⟩

end

end MetricLayer.Store

namespace MetricLayer.Service
open Store

/-! ### Requests -/

/-- What callers can ask the service for. -/
inductive Request where
  | query (connectionId : Int) (m : MeasureQuery)
  | autoMap (connectionId : Int)
  | tables (connectionId : Int)
  | describeTable (connectionId : Int) (table : String)
  | report (id : Int) (runtime : List (Value × Value))
  | drillConfig (id : Int)
  | drillThrough (id targetId : Int) (row : List (Value × Value))

/-- What callers are answered with. -/
inductive Answer where
  | result (r : QueryResult)
  | mapped (r : AutoMapResult)
  | names (ns : List String)
  | links (ts : List DrillTarget)

namespace Request

/-- Serves a request of a user. -/
def run (user : Option Int) : Request → ServiceM Answer
  | query id m => do return .result (← runQuery ⟨id, user⟩ m)
  | autoMap id => do return .mapped (← Service.autoMap ⟨id, user⟩)
  | tables id => do return .names (← Service.tables ⟨id, user⟩)
  | describeTable id table => do return .names (← Service.describeTable ⟨id, user⟩ table)
  | report id runtime => do return .result (← runReport id runtime user)
  | drillConfig id => do return .links (← Service.drillConfig id user)
  | drillThrough id targetId row => do
    return .result (← Service.drillThrough id targetId row user)

/-- The connection that a request reaches: its own one, that of its report, or that of the report
it is linked to. -/
def uses (s : Store) : Request → Option Int
  | query id _ | autoMap id | tables id | describeTable id _ => some id
  | report id _ | drillConfig id => s.reportConnection? id
  | drillThrough id targetId _ =>
    if s.hasLink id targetId then s.reportConnection? targetId else none

/-- The reports that a request reads. -/
def reports : Request → List Int
  | query .. | autoMap _ | tables _ | describeTable .. => []
  | report id _ | drillConfig id => [id]
  | drillThrough id targetId _ => [id, targetId]

end Request

/-! ### Requests that are refused -/

section
variable {w : World} {id user : Int} {r : Report}

lemma connectionFor_foreign (h : w.store.ForeignTo id user) :
    connectionFor id (some user) w = (.error (.failure (.unauthorizedConnection id)), w) := by
  obtain ⟨c, owner, hc, howner, hne⟩ := h
  have hfound : view (·.store.connection? id) w = (.ok (some c), w) := by rw [view, hc]
  unfold connectionFor
  rw [run_bind_ok hfound]
  simp only [howner, beq_iff_eq, hne, if_false]
  rfl

lemma getReport_ok (h : w.store.report? id = .ok (some r)) : getReport id w = (.ok r, w) := by
  have hread : lift (w.store.report? id) w = (.ok (some r), w) :=
    congrArg (fun found => (found, w)) h
  show (lift (w.store.report? id) >>= _) w = _
  rw [run_bind_ok hread]
  rfl

lemma getReport_none (h : w.store.report? id = .ok none) :
    getReport id w = (.error (.failure (.invalidReference "report" (toString id) none)), w) := by
  have hread : lift (w.store.report? id) w = (.ok none, w) :=
    congrArg (fun found => (found, w)) h
  show (lift (w.store.report? id) >>= _) w = _
  rw [run_bind_ok hread]
  rfl

lemma getReport_error {x : Fault} (h : w.store.report? id = .error x) :
    getReport id w = (.error x, w) := by
  have hread : lift (w.store.report? id) w = (.error x, w) :=
    congrArg (fun found => (found, w)) h
  show (lift (w.store.report? id) >>= _) w = _
  rw [run_bind_error hread]

lemma runReport_foreign (hr : w.store.report? id = .ok (some r))
    (h : w.store.ForeignTo r.connectionId user) (runtime : List (Value × Value)) :
    runReport id runtime (some user) w =
      (.error (.failure (.unauthorizedConnection r.connectionId)), w) := by
  unfold runReport
  rw [run_bind_ok (getReport_ok hr), run_bind_error (connectionFor_foreign h)]

/-- Without a link, a report is not drilled into. -/
lemma drillThrough_unlinked {targetId : Int} (hr : w.store.report? id = .ok (some r))
    (hlink : w.store.hasLink id targetId = false) (row : List (Value × Value))
    (user : Option Int) :
    drillThrough id targetId row user w =
      (.error (.failure (.invalidReference "drill target" (toString targetId)
        (some ("not linked from report '" ++ r.name ++ "'")))), w) := by
  rw [(of_report? hr).2, List.any_eq_false] at hlink
  have hnone : r.drillTargets.find? (·.reportId == targetId) = none :=
    List.find?_eq_none.mpr hlink
  unfold drillThrough
  rw [run_bind_ok (getReport_ok hr), hnone]
  rfl

/-- With a link, the report that is drilled into is run. -/
lemma drillThrough_linked {targetId : Int} (hr : w.store.report? id = .ok (some r))
    (hlink : w.store.hasLink id targetId = true) (row : List (Value × Value)) :
    ∃ link ∈ r.drillTargets, link.reportId = targetId ∧ ∀ user,
      drillThrough id targetId row user w = runReport targetId (drillFilters link row) user w := by
  rw [(of_report? hr).2, List.any_eq_true, ← List.find?_isSome] at hlink
  obtain ⟨link, hfound⟩ := Option.isSome_iff_exists.mp hlink
  refine ⟨link, List.mem_of_find?_eq_some hfound, by simpa using List.find?_some hfound,
    fun user => ?_⟩
  unfold drillThrough
  rw [run_bind_ok (getReport_ok hr), hfound]

/-- A request is refused as unauthorized, or because a report that it reads cannot be read. -/
inductive Denied (s : Store) (id : Int) (reports : List Int) : Fault → Prop
  | unauthorized (hread : ∀ k ∈ reports, ∃ r, s.report? k = .ok r) :
    Denied s id reports (.failure (.unauthorizedConnection id))
  | unread {k : Int} {x : Fault} (hk : k ∈ reports) (hx : s.report? k = .error x) :
    Denied s id reports x

lemma Denied.of_read {s : Store} {reports : List Int} {x : Fault} (h : Denied s id reports x)
    (hread : ∀ k ∈ reports, ∃ r, s.report? k = .ok r) :
    x = .failure (.unauthorizedConnection id) := by
  cases h with
  | unauthorized _ => rfl
  | unread hk hx =>
    obtain ⟨r, hr⟩ := hread _ hk
    cases hr.symm.trans hx

/-- The connection of a report that is read is the one that is asked about. -/
lemma report_cases {s : Store} {k : Int} (h : s.reportConnection? k = some id) :
    (∃ r, s.report? k = .ok (some r) ∧ r.connectionId = id) ∨ ∃ x, s.report? k = .error x := by
  cases hr : s.report? k with
  | error x => exact .inr ⟨x, rfl⟩
  | ok found =>
    cases found with
    | none => cases (of_report?_none hr).1.symm.trans h
    | some r => exact .inl ⟨r, rfl, Option.some.inj ((of_report? hr).1.symm.trans h)⟩

/-- A report on the connection of another user is not run. -/
lemma runReport_denied {k : Int} (hconnection : w.store.reportConnection? k = some id)
    (hforeign : w.store.ForeignTo id user) (runtime : List (Value × Value)) :
    ∃ x, Denied w.store id [k] x ∧ runReport k runtime (some user) w = (.error x, w) := by
  rcases report_cases hconnection with ⟨r, hr, rfl⟩ | ⟨x, hx⟩
  · refine ⟨_, .unauthorized fun k' hk => ?_, runReport_foreign hr hforeign runtime⟩
    obtain rfl := List.mem_singleton.mp hk
    exact ⟨_, hr⟩
  · exact ⟨x, .unread List.mem_cons_self hx, run_bind_error (getReport_error hx)⟩

lemma drillConfig_denied {k : Int} (hconnection : w.store.reportConnection? k = some id)
    (hforeign : w.store.ForeignTo id user) :
    ∃ x, Denied w.store id [k] x ∧ drillConfig k (some user) w = (.error x, w) := by
  unfold drillConfig
  rcases report_cases hconnection with ⟨r, hr, rfl⟩ | ⟨x, hx⟩
  · refine ⟨_, .unauthorized fun k' hk => ?_, ?_⟩
    · obtain rfl := List.mem_singleton.mp hk
      exact ⟨_, hr⟩
    · rw [run_bind_ok (getReport_ok hr), run_bind_error (connectionFor_foreign hforeign)]
  · exact ⟨x, .unread List.mem_cons_self hx, run_bind_error (getReport_error hx)⟩

lemma drillThrough_denied {k targetId : Int} (hlink : w.store.hasLink k targetId = true)
    (hconnection : w.store.reportConnection? targetId = some id)
    (hforeign : w.store.ForeignTo id user) (row : List (Value × Value)) :
    ∃ x, Denied w.store id [k, targetId] x ∧
      drillThrough k targetId row (some user) w = (.error x, w) := by
  cases hk : w.store.report? k with
  | error x => exact ⟨x, .unread List.mem_cons_self hk, run_bind_error (getReport_error hk)⟩
  | ok found =>
    cases found with
    | none => cases ((of_report?_none hk).2 targetId).symm.trans hlink
    | some r =>
      obtain ⟨link, -, -, hdrill⟩ := drillThrough_linked hk hlink row
      obtain ⟨x, hdenied, hrun⟩ := runReport_denied hconnection hforeign (drillFilters link row)
      refine ⟨x, ?_, (hdrill _).trans hrun⟩
      cases hdenied with
      | unauthorized hread =>
        refine .unauthorized fun k' hk' => ?_
        rcases List.mem_cons.mp hk' with rfl | hk'
        · exact ⟨_, hk⟩
        · exact hread k' hk'
      | unread hmem hx => exact .unread (List.mem_cons_of_mem _ hmem) hx

/-- A request that reaches the connection of another user fails and leaves the world as it is,
whatever pools there are. It fails as unauthorized if the reports that it reads can be read, as
they can from memory; otherwise it fails as one of them does. -/
theorem foreign_refused {q : Request} (huses : q.uses w.store = some id)
    (hforeign : w.store.ForeignTo id user) :
    (∃ x, Denied w.store id q.reports x ∧ q.run (some user) w = (.error x, w)) ∧
    ((∀ k ∈ q.reports, ∃ r, w.store.report? k = .ok r) →
      q.run (some user) w = (.error (.failure (.unauthorizedConnection id)), w)) ∧
    (∀ m, w.store = .memory m →
      q.run (some user) w = (.error (.failure (.unauthorizedConnection id)), w)) := by
  have hdenied : ∃ x, Denied w.store id q.reports x ∧ q.run (some user) w = (.error x, w) := by
    have hunauthorized : Denied w.store id [] (.failure (.unauthorizedConnection id)) :=
      .unauthorized fun _ hk => absurd hk List.not_mem_nil
    cases q with
    | query k m =>
      obtain rfl := Option.some.inj huses
      have hrun : runQuery ⟨k, some user⟩ m w =
          (.error (.failure (.unauthorizedConnection k)), w) := by
        cases m <;> exact run_bind_error (connectionFor_foreign hforeign)
      exact ⟨_, hunauthorized, run_bind_error hrun⟩
    | autoMap k =>
      obtain rfl := Option.some.inj huses
      exact ⟨_, hunauthorized,
        run_bind_error (run_bind_error (connectionFor_foreign hforeign))⟩
    | tables k =>
      obtain rfl := Option.some.inj huses
      exact ⟨_, hunauthorized,
        run_bind_error (run_bind_error (connectionFor_foreign hforeign))⟩
    | describeTable k table =>
      obtain rfl := Option.some.inj huses
      exact ⟨_, hunauthorized,
        run_bind_error (run_bind_error (connectionFor_foreign hforeign))⟩
    | report k runtime =>
      obtain ⟨x, hdenied, hrun⟩ := runReport_denied huses hforeign runtime
      exact ⟨x, hdenied, run_bind_error hrun⟩
    | drillConfig k =>
      obtain ⟨x, hdenied, hrun⟩ := drillConfig_denied huses hforeign
      exact ⟨x, hdenied, run_bind_error hrun⟩
    | drillThrough k targetId row =>
      obtain ⟨hlink, hconnection⟩ : w.store.hasLink k targetId = true ∧
          w.store.reportConnection? targetId = some id := by
        simpa [Request.uses] using huses
      obtain ⟨x, hdenied, hrun⟩ := drillThrough_denied hlink hconnection hforeign row
      exact ⟨x, hdenied, run_bind_error hrun⟩
  have hread : (∀ k ∈ q.reports, ∃ r, w.store.report? k = .ok r) →
      q.run (some user) w = (.error (.failure (.unauthorizedConnection id)), w) := by
    intro hread
    obtain ⟨x, hx, hrun⟩ := hdenied
    rw [hrun, hx.of_read hread]
  refine ⟨hdenied, hread, fun m hm => hread fun k _ => ⟨m.report? k, ?_⟩⟩
  rw [hm]
  rfl

end

def staffReport : Report := ⟨2, 2, none, "Staff", none, "staff", [⟨"name", none, none, true, 0⟩],
  [], [⟨1, [("name", "name")], none⟩]⟩

/-- Salaries of user 7 and the staff of user 8, each with a report that links to the other. -/
def payroll : World where
  store := .memory {
    connections := [
      ⟨1, some 7, "payroll", "postgres", "db", 5432, "payroll", "u", "p", none, none, none⟩,
      ⟨2, some 8, "staff", "postgres", "db", 5432, "staff", "u", "p", none, none, none⟩]
    reports := [
      ⟨1, 1, none, "Salaries", none, "salaries", [⟨"name", none, none, true, 0⟩], [],
        [⟨2, [("name", "name")], none⟩]⟩,
      staffReport] }
  settings := { validateSql := false }
  guarded := false
  target := { query := fun _ _ _ => .ok [[("name", .str "Ann")]] }

lemma payroll_foreign : payroll.store.ForeignTo 1 8 := ⟨_, 7, rfl, rfl, by decide⟩

/-- User 8 may not run the salaries of user 7, nor drill into them from the staff, even when
there is a pool for them. -/
theorem foreign_refused_salaries :
    (pool? (acquire 1 (some 7) payroll).2 1).isSome ∧
      Request.run (some 8) (.report 1 []) (acquire 1 (some 7) payroll).2 =
        (.error (.failure (.unauthorizedConnection 1)), (acquire 1 (some 7) payroll).2) ∧
      Request.run (some 8) (.drillThrough 2 1 [(.str "name", .str "Ann")]) payroll =
        (.error (.failure (.unauthorizedConnection 1)), payroll) := by
  have hstore : (acquire 1 (some 7) payroll).2.store = payroll.store :=
    (Quiet.acquire 1 (some 7) payroll).1
  have huses : Request.uses (acquire 1 (some 7) payroll).2.store (.report 1 []) = some 1 := by
    rw [hstore]
    rfl
  have hforeign : (acquire 1 (some 7) payroll).2.store.ForeignTo 1 8 := by
    rw [hstore]
    exact payroll_foreign
  obtain ⟨-, -, hreport⟩ := foreign_refused huses hforeign
  obtain ⟨-, -, hdrill⟩ := foreign_refused
    (q := .drillThrough 2 1 [(.str "name", .str "Ann")]) (w := payroll) rfl payroll_foreign
  exact ⟨rfl, hreport _ hstore, hdrill _ rfl⟩

/-- Salaries with a link whose mapping is stored as a list. -/
def unreadPayroll : World where
  store := .relational {
    connections := [
      ⟨1, some 7, "payroll", "postgres", "db", 5432, "payroll", "u", "p", none, none, none⟩]
    reports := [⟨1, some 7, 1, "Salaries", none, "salaries"⟩]
    drills := [⟨1, 1, 2, some "[1]", none⟩] }

/-- A link that cannot be read is reported to a user who may not use the connection. -/
theorem foreign_unread :
    Request.uses unreadPayroll.store (.report 1 []) = some 1 ∧
      unreadPayroll.store.ForeignTo 1 8 ∧
      Request.run (some 8) (.report 1 []) unreadPayroll =
        (.error (.invalid [⟨[.key "mapping"], .dictType⟩]), unreadPayroll) := by
  have hread : unreadPayroll.store.report? 1 =
      .error (.invalid [⟨[.key "mapping"], .dictType⟩]) := by
    simp only [report?, unreadPayroll, Relational.report?, BEq.rfl, List.find?_cons_of_pos,
      List.filter_nil, List.filter_cons_of_pos, Arrangement.arrange_nil,
      Arrangement.arrange_singleton, List.mapM_nil, List.mapM_cons]
    rfl
  exact ⟨rfl, ⟨_, 7, rfl, rfl, by decide⟩, run_bind_error (run_bind_error (getReport_error hread))⟩

/-! ### Links -/

section
variable {w : World} {id user : Int} {r : Report}

/-- A connection of nobody else is found as it is without a user. -/
lemma connectionFor_allowed (h : ¬ w.store.ForeignTo id user) :
    connectionFor id (some user) w = connectionFor id none w := by
  have hfound : view (·.store.connection? id) w = (.ok (w.store.connection? id), w) := rfl
  unfold connectionFor
  rw [run_bind_ok hfound, run_bind_ok hfound]
  cases hc : w.store.connection? id with
  | none => rfl
  | some c =>
    cases howner : c.ownerId with
    | none => simp only [howner]
    | some owner =>
      have hsame : owner = user := by
        by_contra hne
        exact h ⟨c, owner, hc, howner, hne⟩
      simp only [howner, hsame, beq_self_eq_true, if_true]

lemma executeCompiled_allowed (h : ¬ w.store.ForeignTo id user) (c : Compiled) :
    executeCompiled ⟨id, some user⟩ c w = executeCompiled ⟨id, none⟩ c w := by
  have hacquire : acquire id (some user) w = acquire id none w := by
    unfold acquire
    rw [run_bind, run_bind, connectionFor_allowed h]
  unfold executeCompiled
  rw [run_bind, run_bind, hacquire]

/-- A report on a connection of nobody else runs as it does without a user. -/
lemma runReport_allowed (h : ∀ k, w.store.reportConnection? id = some k →
    ¬ w.store.ForeignTo k user) (runtime : List (Value × Value)) :
    runReport id runtime (some user) w = runReport id runtime none w := by
  unfold runReport
  cases hread : w.store.report? id with
  | error x => rw [run_bind_error (getReport_error hread), run_bind_error (getReport_error hread)]
  | ok found =>
    cases found with
    | none =>
      rw [run_bind_error (getReport_none hread), run_bind_error (getReport_none hread)]
    | some r =>
      have hown := h r.connectionId (of_report? hread).1
      rw [run_bind_ok (getReport_ok hread), run_bind_ok (getReport_ok hread), run_bind, run_bind,
        connectionFor_allowed hown]
      cases hc : (connectionFor r.connectionId none w).1 with
      | error x => rfl
      | ok c =>
        have hsettings : view (·.settings) w = (.ok w.settings, w) := rfl
        rw [Still.connectionFor r.connectionId none w]
        simp only [ExceptT.bindCont]
        rw [run_bind_ok hsettings, run_bind_ok hsettings, run_bind, run_bind]
        cases Compile.report w.settings r c.dialect runtime with
        | error x => rfl
        | ok compiled => exact executeCompiled_allowed hown compiled

/-- Drilling into a report depends on whose connection the target is on, and not on whose the
report is on that has the link. Without a link, the failure tells the name of the report. With a
link to a connection of another user the request is refused and the world stays as it is; with
any other link it is served as it is without a user. -/
theorem drillThrough_by_target (hr : w.store.report? id = .ok (some r)) (targetId : Int)
    (row : List (Value × Value)) :
    (w.store.hasLink id targetId = false →
      drillThrough id targetId row (some user) w =
        (.error (.failure (.invalidReference "drill target" (toString targetId)
          (some ("not linked from report '" ++ r.name ++ "'")))), w)) ∧
    (∀ k, w.store.hasLink id targetId = true → w.store.reportConnection? targetId = some k →
      w.store.ForeignTo k user →
        ∃ x, Denied w.store k [id, targetId] x ∧
          drillThrough id targetId row (some user) w = (.error x, w)) ∧
    (w.store.hasLink id targetId = true →
      (∀ k, w.store.reportConnection? targetId = some k → ¬ w.store.ForeignTo k user) →
        drillThrough id targetId row (some user) w = drillThrough id targetId row none w) := by
  refine ⟨fun hlink => drillThrough_unlinked hr hlink row _,
    fun k hlink hk hforeign => drillThrough_denied hlink hk hforeign row, fun hlink hown => ?_⟩
  obtain ⟨link, -, -, hdrill⟩ := drillThrough_linked hr hlink row
  rw [hdrill, hdrill, runReport_allowed hown]

end

/-- User 7 may not drill from the salaries into the staff of user 8. -/
theorem drillThrough_by_target_salaries :
    payroll.store.hasLink 1 2 = true ∧ payroll.store.reportConnection? 2 = some 2 ∧
      payroll.store.ForeignTo 2 7 ∧
      ∃ x, Denied payroll.store 2 [1, 2] x ∧
        drillThrough 1 2 [(.str "name", .str "Ann")] (some 7) payroll = (.error x, payroll) := by
  have hforeign : payroll.store.ForeignTo 2 7 := ⟨_, 8, rfl, rfl, by decide⟩
  have hread : ∃ r, payroll.store.report? 1 = .ok (some r) := ⟨_, rfl⟩
  obtain ⟨r, hr⟩ := hread
  obtain ⟨-, hrefused, -⟩ := drillThrough_by_target hr 2 [(.str "name", .str "Ann")]
  exact ⟨rfl, rfl, hforeign, hrefused 2 rfl rfl hforeign⟩

lemma staff_compiles : ∃ c,
    Compile.report payroll.settings staffReport "postgres" [(.str "name", .str "Ann")] = .ok c := by
  cases h : Compile.report payroll.settings staffReport "postgres" [(.str "name", .str "Ann")] with
  | ok c => exact ⟨c, rfl⟩
  | error x =>
    have hok : (Compile.report payroll.settings staffReport "postgres"
      [(.str "name", .str "Ann")]).isOk = true := by decide +kernel
    rw [h] at hok
    cases hok

/-- User 8 may not use the connection of the salaries, but learns the name of the report from a
link that it does not have, and drills from it into the staff. -/
theorem drillThrough_discloses :
    payroll.store.reportConnection? 1 = some 1 ∧ payroll.store.ForeignTo 1 8 ∧
      drillThrough 1 3 [] (some 8) payroll =
        (.error (.failure (.invalidReference "drill target" "3"
          (some "not linked from report 'Salaries'"))), payroll) ∧
      ∃ out w, drillThrough 1 2 [(.str "name", .str "Ann")] (some 8) payroll = (.ok out, w) ∧
        out.rows = [[("name", .str "Ann")]] := by
  refine ⟨rfl, payroll_foreign, rfl, ?_⟩
  obtain ⟨c, hc⟩ := staff_compiles
  have hreport : drillThrough 1 2 [(.str "name", .str "Ann")] (some 8) payroll =
      (lift (Compile.report payroll.settings staffReport "postgres"
        [(.str "name", .str "Ann")]) >>= fun c => executeCompiled ⟨2, some 8⟩ c) payroll := rfl
  rw [hreport, hc]
  exact ⟨⟨c, [[("name", .str "Ann")]]⟩, _, rfl, rfl⟩

end MetricLayer.Service
