import MetricLayer.Proofs.Plan.Report
import MetricLayer.Proofs.Service.Ownership
import MetricLayer.Proofs.Service.Served
import MetricLayer.Proofs.Sql.Builder

/-!
# Filtering by a clicked row

A link between reports says which columns of a row filter which columns of the report it leads to.
So the statement that is run there restricts every such column to the value in the row, unless the
value is blank or the link names the column again; the filters that are locked restrict it as
well, and nothing else in the row matters.
-/
namespace MetricLayer.Plan
open Sql

/-! ### Constraints of a plan -/

/-- A plan is restricted by a constraint: the condition of its statement is a conjunction with the
condition of the constraint in it, and the parameters there are bound to the values that the
constraint compares with. -/
def Imposes (p : QueryPlan) (c : Constraint) : Prop :=
  ∃ es n, p.statement.condition = conjunction es ∧ c.test.condition c.expr n ∈ es ∧
    ∀ i v, c.test.values[i]? = some v → p.params[n + i]? = some (paramName (n + i), v)

section
variable {r : Report} {sorted : List ReportFilter} {runtime : List (Value × Value)} {p : QueryPlan}
  {stored : List (ReportFilter × Test)} {given : List (String × Value)}

lemma Restricts.imposes (h : Restricts r sorted runtime p stored given) {c : Constraint}
    (hc : c ∈ restrictions stored given) : Imposes p c := by
  obtain ⟨before, after, hsplit⟩ := List.append_of_mem hc
  have hcondition := h.condition
  have hparams := h.params
  rw [hsplit] at hcondition hparams
  rw [conditions_append] at hcondition
  refine ⟨_, (boundValues before).length, hcondition, ?_, ?_⟩
  · rw [Nat.zero_add, conditions]
    exact List.mem_append_right _ (List.mem_cons_self ..)
  · intro i v hv
    have hvalues : (boundValues (before ++ c :: after))[(boundValues before).length + i]? =
        some v := by
      rw [boundValues_append, List.getElem?_append_right (Nat.le_add_right ..),
        Nat.add_sub_cancel_left, boundValues, List.flatMap_cons]
      exact List.getElem?_append_left (List.getElem?_eq_some_iff.1 hv).1 ▸ hv
    rw [hparams, List.getElem?_mapIdx, hvalues]
    rfl

/-- A value that is given for a run restricts its column. -/
lemma Restricts.imposes_given (h : Restricts r sorted runtime p stored given) {column : String}
    {v : Value} (hmem : (Value.str column, v) ∈ runtime) (hv : isBlankValue v = false) :
    Imposes p (givenConstraint (column, v)) := by
  rw [h.runtime_eq] at hmem
  obtain ⟨g, hg, heq⟩ := List.mem_map.1 hmem
  obtain ⟨hcolumn, hvalue⟩ := Prod.mk.inj heq
  have hgiven : (column, v) ∈ present given := by
    refine List.mem_filter.2 ⟨?_, by simp [hv]⟩
    rwa [← Value.str.inj hcolumn, ← hvalue]
  exact h.imposes (List.mem_append_right _ (List.mem_map_of_mem hgiven))

/-- A filter that is locked and has a value restricts every run. -/
lemma Restricts.imposes_locked (h : Restricts r (sortedFilters r) runtime p stored given)
    {f : ReportFilter} (hf : f ∈ r.filters) (hlocked : f.editable = false)
    (hvalue : isBlankValue f.value = false) :
    ∃ t, Test.ofStored f = .ok t ∧ Imposes p (storedConstraint (f, t)) := by
  have hmem : f ∈ stored.map (·.1) := by
    rw [h.stored_eq]
    exact List.mem_filter.2 ⟨List.mem_mergeSort.2 hf, by simp [applies, hlocked, hvalue]⟩
  obtain ⟨s, hs, rfl⟩ := List.mem_map.1 hmem
  exact ⟨s.2, (h.tests s hs).1, h.imposes (List.mem_append_left _ (List.mem_map_of_mem hs))⟩

end
end MetricLayer.Plan

namespace MetricLayer.Service
open Plan

/-! ### Filters of a link -/

lemma alike_str {k : Value} {s : String} (h : k.alike (.str s) = true) : k = .str s := by
  cases k <;> simp_all [Value.alike, Value.number?]

lemma mem_put (es : List (Value × Value)) (s : String) (v : Value) :
    (.str s, v) ∈ Value.put es (.str s) v := by
  induction es with
  | nil => exact List.mem_singleton_self _
  | cons e es ih =>
    obtain ⟨k, u⟩ := e
    rw [Value.put]
    split
    · rename_i hk
      rw [alike_str hk]
      exact List.mem_cons_self ..
    · exact List.mem_cons_of_mem _ ih

/-- An entry stays unless another value is put under its key. -/
lemma mem_put_of_mem {es : List (Value × Value)} {e : Value × Value} (he : e ∈ es) {s : String}
    {v : Value} (h : e.1 = .str s → v = e.2) : e ∈ Value.put es (.str s) v := by
  induction es with
  | nil => cases he
  | cons d es ih =>
    obtain ⟨k, u⟩ := d
    rw [Value.put]
    split
    · rename_i hk
      cases he with
      | head =>
        rw [h (alike_str hk)]
        exact List.mem_cons_self ..
      | tail _ he => exact List.mem_cons_of_mem _ he
    · cases he with
      | head => exact List.mem_cons_self ..
      | tail _ he => exact List.mem_cons_of_mem _ (ih he)

/-- The pairs of a link that a row has a value for, as filters. -/
def pairFilters (mapping : List (String × String)) (row : List (Value × Value)) :
    List (String × Value) :=
  mapping.filterMap fun e => (Value.get? row e.1).map fun v => (e.2, v)

/-- Filters by name, one after the other. -/
def putFilters (es : List (Value × Value)) (fs : List (String × Value)) : List (Value × Value) :=
  fs.foldl (fun es f => Value.put es (.str f.1) f.2) es

lemma drillFilters_eq (link : DrillTarget) (row : List (Value × Value)) :
    drillFilters link row = putFilters [] (pairFilters link.mapping row) := by
  have hpairs : (pairFilters link.mapping row).map (fun f => (Value.str f.1, f.2)) =
      link.mapping.filterMap fun e => (Value.get? row e.1).map fun v => (Value.str e.2, v) := by
    rw [pairFilters, List.map_filterMap]
    simp only [Option.map_map]
    rfl
  have hfilters : drillFilters link row =
      ((pairFilters link.mapping row).map fun f => (Value.str f.1, f.2)).foldl
        (fun es e => Value.put es e.1 e.2) [] := by
    rw [hpairs]
    rfl
  rw [hfilters, List.foldl_map, putFilters]

lemma mem_putFilters {es : List (Value × Value)} {s : String} {v : Value}
    (he : (.str s, v) ∈ es) {fs : List (String × Value)} (h : ∀ f ∈ fs, f.1 = s → f.2 = v) :
    (.str s, v) ∈ putFilters es fs := by
  induction fs generalizing es with
  | nil => exact he
  | cons f fs ih =>
    simp only [List.mem_cons, forall_eq_or_imp] at h
    refine ih (mem_put_of_mem he fun hs => h.1 (Value.str.inj hs).symm) h.2

/-- A pair of a link filters by the value in the row, unless a later pair filters the same column
by another value. -/
lemma mem_drillFilters {link : DrillTarget} {row : List (Value × Value)}
    {before after : List (String × String)} {source column : String} {v : Value}
    (hmapping : link.mapping = before ++ (source, column) :: after)
    (hv : Value.get? row source = some v)
    (hafter : ∀ e ∈ after, e.2 = column → ∀ u, Value.get? row e.1 = some u → u = v) :
    (.str column, v) ∈ drillFilters link row := by
  have hpairs : pairFilters link.mapping row =
      pairFilters before row ++ (column, v) :: pairFilters after row := by
    simp [pairFilters, hmapping, hv]
  rw [drillFilters_eq, hpairs, putFilters, List.foldl_append]
  refine mem_putFilters (mem_put _ column v) ?_
  intro f hf hcolumn
  obtain ⟨e, he, hf⟩ := List.mem_filterMap.1 hf
  obtain ⟨u, hu, rfl⟩ := Option.map_eq_some_iff.1 hf
  exact hafter e he hcolumn u hu

/-- Only the columns of a row that the link names matter. -/
lemma drillFilters_congr {link : DrillTarget} {row row' : List (Value × Value)}
    (h : ∀ e ∈ link.mapping, Value.get? row' e.1 = Value.get? row e.1) :
    drillFilters link row' = drillFilters link row := by
  have hpairs : pairFilters link.mapping row' = pairFilters link.mapping row :=
    List.filterMap_congr fun e he => by rw [h e he]
  rw [drillFilters_eq, drillFilters_eq, hpairs]

/-! ### Runs -/

section
variable {w w' : World} {id targetId : Int} {row : List (Value × Value)} {user : Option Int}
  {out : QueryResult}

/-- The run of a report that a link leads to: the plan of the report with the filters of the link,
and the statement that was sent for it. -/
structure Drilled (w : World) (id targetId : Int) (row : List (Value × Value)) (out : QueryResult)
    (w' : World) (d : DrillTarget) (r : Report) (p : QueryPlan) : Prop where
  link : ∃ parent, w.store.report? id = .ok (some parent) ∧
    parent.drillTargets.find? (·.reportId == targetId) = some d
  target : w.store.report? targetId = .ok (some r)
  plan : Plan.report r (drillFilters d row) = .ok p
  text : p.statement.render out.compiled.dialect = .ok out.compiled.sql
  params : out.compiled.params = p.params
  names : (p.params.map (·.1)).Nodup
  sent : ∃ before, ∃ pool : Pool, w'.sent = before ++
    [⟨pool.engine, pool.dialect, .query out.compiled.sql out.compiled.params⟩]

lemma getReport_inv {r : Report} (h : getReport id w = (.ok r, w')) :
    w.store.report? id = .ok (some r) ∧ w' = w := by
  cases hr : w.store.report? id with
  | error x =>
    rw [getReport_error hr] at h
    cases h
  | ok found =>
    cases found with
    | none =>
      rw [getReport_none hr] at h
      cases h
    | some r' =>
      rw [getReport_ok hr] at h
      cases h
      exact ⟨rfl, rfl⟩

/-- The stages of a link that is followed. -/
lemma prepareDrill_ok {prepared : Prepared}
    (h : prepareDrill id targetId row user w = (.ok prepared, w')) :
    ∃ r link target p, w.store.report? id = .ok (some r) ∧
      r.drillTargets.find? (·.reportId == targetId) = some link ∧
      w.store.report? targetId = .ok (some target) ∧
      Plan.report target (drillFilters link row) = .ok p ∧
      p.statement.render prepared.compiled.dialect = .ok prepared.compiled.sql ∧
      prepared.compiled.params = p.params := by
  obtain ⟨r, w₁, hr, hlinked⟩ := run_bind_inv (congrArg Prod.fst h)
  obtain ⟨hr, rfl⟩ := getReport_inv hr
  cases hlink : r.drillTargets.find? (·.reportId == targetId) with
  | none =>
    rw [hlink] at hlinked
    cases hlinked
  | some link =>
    rw [hlink] at hlinked
    obtain ⟨target, w₂, htarget, hallowed⟩ := run_bind_inv hlinked
    obtain ⟨htarget, rfl⟩ := getReport_inv htarget
    obtain ⟨c, _, -, hsettings⟩ := run_bind_inv hallowed
    obtain ⟨settings, _, -, hcompiles⟩ := run_bind_inv hsettings
    obtain ⟨compiled, _, hcompiled, hprepared⟩ := run_bind_inv hcompiles
    obtain rfl := Except.ok.inj hprepared
    obtain ⟨d, -, hplan⟩ := bind_eq_ok (Prod.mk.inj hcompiled).1
    obtain ⟨p, hp, hrender⟩ := bind_eq_ok hplan
    obtain ⟨sql, hsql, hrender⟩ := bind_eq_ok hrender
    obtain rfl := Except.ok.inj hrender
    exact ⟨r, link, target, p, hr, hlink, htarget, hp, hsql, rfl⟩

/-- What is compiled for a request that succeeds is what was sent last. -/
lemma run_prepared {prepared : Prepared} (h : prepared.run user w = (.ok out, w')) :
    out.compiled = prepared.compiled ∧ ∃ before, ∃ pool : Pool, w'.sent = before ++
      [⟨pool.engine, pool.dialect, .query out.compiled.sql out.compiled.params⟩] := by
  obtain ⟨r, w₁, hrun, hexecuted⟩ := executed ⟨prepared.connectionId, user⟩ prepared.compiled w
  have heq : (r, w₁) = (.ok out, w') := hrun.symm.trans h
  obtain ⟨hr, rfl⟩ := Prod.mk.inj heq
  cases hexecuted with
  | unsent _ => cases hr
  | @sent w₂ pool _ _ _ =>
    cases hanswer :
      w₂.target.query w₂.tick prepared.compiled.sql prepared.compiled.params with
    | error e =>
      rw [hanswer] at hr
      cases hr
    | ok rows =>
      rw [hanswer] at hr
      obtain rfl := Except.ok.inj hr
      exact ⟨rfl, w₂.sent, pool, rfl⟩

/-- A link that is followed with success runs the report it leads to, restricted by the row: for
every pair of the link whose source column has a value in the row that is not blank, and unless a
later pair gives the column of the filter another value, the condition tests that column against
the value. The filters of the report that are locked and have a value restrict it as well, and two
rows that agree on the source columns of the link give the same run. -/
theorem drillThrough_filtered (h : drillThrough id targetId row user w = (.ok out, w')) :
    ∃ link target p, Drilled w id targetId row out w' link target p ∧
      (∀ before source column after v, link.mapping = before ++ (source, column) :: after →
        Value.get? row source = some v → isBlankValue v = false →
        (∀ e ∈ after, e.2 = column → ∀ u, Value.get? row e.1 = some u → u = v) →
        Imposes p (givenConstraint (column, v))) ∧
      (∀ f ∈ target.filters, f.editable = false → isBlankValue f.value = false →
        ∃ t, Test.ofStored f = .ok t ∧ Imposes p (storedConstraint (f, t))) ∧
      ∀ row', (∀ e ∈ link.mapping, Value.get? row' e.1 = Value.get? row e.1) →
        drillThrough id targetId row' user w = (.ok out, w') := by
  have hdrill := h
  rw [drillThrough_eq_prepare] at hdrill
  cases hstep : (prepareDrill id targetId row user w).1 with
  | error x =>
    rw [run_bind_error (Prod.ext hstep rfl)] at hdrill
    cases hdrill
  | ok prepared =>
    have hprepare : prepareDrill id targetId row user w =
        (.ok prepared, (prepareDrill id targetId row user w).2) := Prod.ext hstep rfl
    rw [run_bind_ok hprepare] at hdrill
    obtain ⟨parent, link, target, p, hparent, hlink, htarget, hp, htext, hparams⟩ :=
      prepareDrill_ok hprepare
    obtain ⟨hcompiled, hsent⟩ := run_prepared hdrill
    obtain ⟨stored, given, hrestricts, -⟩ := report_ok hp
    refine ⟨link, target, p, ⟨⟨parent, hparent, hlink⟩, htarget, hp, ?_, ?_, ?_, hsent⟩, ?_, ?_, ?_⟩
    · rw [hcompiled]
      exact htext
    · rw [hcompiled]
      exact hparams
    · rw [hrestricts.params]
      exact Sql.nodup_paramNames _
    · intro before source column after v hmapping hv hblank hafter
      exact hrestricts.imposes_given (mem_drillFilters hmapping hv hafter) hblank
    · intro f hf hlocked hvalue
      exact hrestricts.imposes_locked hf hlocked hvalue
    · intro row' hrow
      rw [← h]
      unfold drillThrough
      rw [run_bind_ok (getReport_ok hparent), run_bind_ok (getReport_ok hparent), hlink]
      dsimp only
      rw [drillFilters_congr hrow]

end

/-- The staff named Ann, from a row of the salaries. -/
theorem drillThrough_filtered_staff : ∃ out w link target p,
    drillThrough 1 2 [(.str "name", .str "Ann")] (some 8) payroll = (.ok out, w) ∧
      Drilled payroll 1 2 [(.str "name", .str "Ann")] out w link target p ∧
      Imposes p (givenConstraint ("name", .str "Ann")) := by
  obtain ⟨c, hc⟩ := staff_compiles
  have hrun : ∃ out w, drillThrough 1 2 [(.str "name", .str "Ann")] (some 8) payroll =
      (.ok out, w) := by
    have hreport : drillThrough 1 2 [(.str "name", .str "Ann")] (some 8) payroll =
        (lift (Compile.report payroll.settings staffReport "postgres"
          [(.str "name", .str "Ann")]) >>= fun c => executeCompiled ⟨2, some 8⟩ c) payroll := rfl
    rw [hreport, hc]
    exact ⟨_, _, rfl⟩
  obtain ⟨out, w, hrun⟩ := hrun
  obtain ⟨link, target, p, hdrilled, hpairs, -⟩ := drillThrough_filtered hrun
  have hmapping : link.mapping = [] ++ ("name", "name") :: [] := by
    obtain ⟨parent, hparent, hlink⟩ := hdrilled.link
    cases hparent
    cases hlink
    rfl
  exact ⟨out, w, link, target, p, hrun, hdrilled,
    hpairs [] "name" "name" [] (.str "Ann") hmapping rfl rfl (by simp)⟩

lemma outline_staff_null : Compile.outline (Compile.report payroll.settings staffReport "postgres"
    [(.str "name", .null)]) = some ("SELECT \"name\"\nFROM \"staff\"", []) := by
  decide +kernel

/-- A row without a name is linked to the staff by its name, and leads to all of the staff. -/
theorem drillThrough_null :
    (∃ parent, payroll.store.report? 1 = .ok (some parent) ∧
      parent.drillTargets = [⟨2, [("name", "name")], none⟩]) ∧
    ∃ out w, drillThrough 1 2 [(.str "name", .null)] (some 8) payroll = (.ok out, w) ∧
      out.compiled.sql = "SELECT \"name\"\nFROM \"staff\"" ∧
      out.compiled.params.map (·.1) = [] := by
  refine ⟨⟨_, rfl, rfl⟩, ?_⟩
  obtain ⟨c, hc, hsql, hkeys⟩ := Compile.exists_of_outline outline_staff_null
  have hreport : drillThrough 1 2 [(.str "name", .null)] (some 8) payroll =
      (lift (Compile.report payroll.settings staffReport "postgres" [(.str "name", .null)]) >>=
        fun c => executeCompiled ⟨2, some 8⟩ c) payroll := rfl
  rw [hreport, hc]
  exact ⟨⟨c, [[("name", .str "Ann")]]⟩, _, rfl, hsql, hkeys⟩

end MetricLayer.Service
