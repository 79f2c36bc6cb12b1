import Mathlib.Data.List.Induction
import Mathlib.Data.List.Nodup
import MetricLayer.Proofs.Keyed
import MetricLayer.Proofs.Plan.Condition
import MetricLayer.Proofs.Sql.Readable
import MetricLayer.Proofs.Sql.Spelling

/-!
# What the use of a builder comes to

A builder that was used in any way holds what its steps added, in order. A statement that was
taken from it on the way has all columns, joins and groups of the end, and the table, condition
and limit of the time when it was taken.
-/
namespace MetricLayer.Sql
open Plan (conjunction)

/-! ### What single steps add -/

namespace Step

/-- The columns that a step adds. -/
@[simp] def columns : Step → List Expr
  | .select es => es
  | .selectAs e label => [.aliased e label]
  | _ => []

/-- The joins that a step adds. -/
@[simp] def joins : Step → List Join
  | .join j => [j]
  | _ => []

/-- The expressions that a step groups by. -/
@[simp] def grouped : Step → List Expr
  | .groupBy es => es
  | _ => []

/-- The values that a step binds. -/
@[simp] def bound : Step → List Value
  | .bind v => [v]
  | .restrictTo _ v => [v]
  | _ => []

/-- The conditions that a step adds after `n` values are bound. -/
@[simp] def conditions (n : Nat) : Step → List Expr
  | .restrict e => [e]
  | .restrictTo e v => [equality e (.param (paramName n) v)]
  | _ => []

/-- The table that a step sets. -/
@[simp] def source? : Step → Option Source
  | .source s => some s
  | _ => none

/-- Whether a step takes a statement. -/
def isBuild : Step → Bool
  | .build => true
  | _ => false

/-- The limit that a step sets, which may be that there is none. -/
@[simp] def limit? : Step → Option (Option Int)
  | .limit n => some n
  | _ => none

end Step

/-- The conditions of steps, with parameters numbered on from `n`. -/
def conditionsFrom (n : Nat) : List Step → List Expr
  | [] => []
  | t :: ts => t.conditions n ++ conditionsFrom (n + t.bound.length) ts

lemma conditionsFrom_concat (n : Nat) (steps : List Step) (t : Step) :
    conditionsFrom n (steps ++ [t]) =
      conditionsFrom n steps ++ t.conditions (n + (steps.flatMap Step.bound).length) := by
  induction steps generalizing n with
  | nil => simp [conditionsFrom]
  | cons u steps ih => simp [conditionsFrom, ih, Nat.add_assoc]

/-! ### Builders -/

/-- The builder that steps come to. -/
def Builder.ofSteps (steps : List Step) : Builder where
  columns := steps.flatMap Step.columns
  source := (steps.filterMap Step.source?).getLast?
  joins := steps.flatMap Step.joins
  condition := conjunction (conditionsFrom 0 steps)
  groups := (steps.flatMap Step.grouped).eraseDupsBy Expr.alike
  limit := (steps.filterMap Step.limit?).getLast?.join
  values := steps.flatMap Step.bound

/-- Grouping by more expressions adds those that are not alike an earlier one. -/
lemma groups_groupBy (b : Builder) {grouped : List Expr}
    (h : b.groups = grouped.eraseDupsBy Expr.alike) (es : List Expr) :
    b.groupBy es = { b with groups := (grouped ++ es).eraseDupsBy Expr.alike } := by
  induction es generalizing b grouped with
  | nil => simp [Builder.groupBy, ← h]
  | cons e es ih =>
    have hone : b.groupOn e = { b with groups := (grouped ++ [e]).eraseDupsBy Expr.alike } := by
      rw [Builder.groupOn, eraseDupsBy_concat, ← h]
      split <;> rfl
    have hgroups : (b.groupOn e).groups = (grouped ++ [e]).eraseDupsBy Expr.alike := by rw [hone]
    have hstep : b.groupBy (e :: es) = (b.groupOn e).groupBy es := rfl
    rw [hstep, ih _ hgroups]
    simp [hone]

lemma condition_restrict (b : Builder) {es : List Expr} (h : b.condition = conjunction es)
    (e : Expr) : b.restrict e = { b with condition := conjunction (es ++ [e]) } := by
  cases hes : conjunction es <;>
    simp [Builder.restrict, Plan.conjunction_concat, h, hes]

namespace Session

lemma run_concat (s : Session) (steps : List Step) (t : Step) :
    s.run (steps ++ [t]) = ((s.run steps).step t).2 := List.foldl_concat ..

lemma run_append (s : Session) (steps more : List Step) :
    s.run (steps ++ more) = (s.run steps).run more := List.foldl_append ..

/-- One step takes a builder that earlier steps came to where these and the step come to. -/
lemma builder_step {s : Session} {steps : List Step} (h : s.builder = .ofSteps steps)
    (t : Step) : (s.step t).2.builder = .ofSteps (steps ++ [t]) := by
  have hgroups : s.builder.groups = (steps.flatMap Step.grouped).eraseDupsBy Expr.alike := by
    rw [h]
    rfl
  have hcondition : s.builder.condition = conjunction (conditionsFrom 0 steps) := by
    rw [h]
    rfl
  cases t with
  | groupBy es =>
    have hstep : (s.step (.groupBy es)).2.builder = s.builder.groupBy es := rfl
    rw [hstep, groups_groupBy s.builder hgroups, h]
    simp [Builder.ofSteps, conditionsFrom_concat]
  | restrict e =>
    have hstep : (s.step (.restrict e)).2.builder = s.builder.restrict e := rfl
    rw [hstep, condition_restrict s.builder hcondition, h]
    simp [Builder.ofSteps, conditionsFrom_concat]
  | restrictTo e v =>
    have hstep : (s.step (.restrictTo e v)).2.builder =
        (s.builder.bind v).2.restrict (equality e (s.builder.bind v).1) := rfl
    rw [hstep, condition_restrict (s.builder.bind v).2 hcondition, h]
    simp [Builder.ofSteps, Builder.bind, conditionsFrom_concat]
  | _ =>
    simp [step, h, Builder.ofSteps, Builder.select, Builder.selectAs, Builder.fromTable,
      Builder.join, Builder.limitTo, Builder.bind, conditionsFrom_concat]

/-- The builder of a session is the one that its steps come to. -/
theorem builder_run (steps : List Step) :
    (({} : Session).run steps).builder = .ofSteps steps := by
  induction steps using List.reverseRecOn with
  | nil => rfl
  | append_singleton steps t ih =>
    rw [run_concat]
    exact builder_step ih t

/-- Statements that are taken stay taken, each under its number. -/
lemma taken_run (s : Session) (steps : List Step) :
    ∃ more, (s.run steps).taken = s.taken ++ more := by
  induction steps generalizing s with
  | nil => exact ⟨[], (List.append_nil _).symm⟩
  | cons t steps ih =>
    obtain ⟨more, hmore⟩ := ih (s.step t).2
    have hstep : ∃ one, (s.step t).2.taken = s.taken ++ one := by
      cases t with
      | build => exact ⟨[s.builder.cut], rfl⟩
      | _ => exact ⟨[], (List.append_nil _).symm⟩
    obtain ⟨one, hone⟩ := hstep
    refine ⟨one ++ more, ?_⟩
    rw [← List.append_assoc, ← hone]
    exact hmore

/-- A statement keeps the number that the step answers which takes it, and the parts that are
fixed then. -/
lemma taken_build (s : Session) (after : List Step) :
    (s.run (.build :: after)).taken[s.taken.length]? = some s.builder.cut := by
  obtain ⟨more, hmore⟩ := taken_run (s.step .build).2 after
  have hrun : s.run (.build :: after) = (s.step .build).2.run after := rfl
  have htaken : (s.step .build).2.taken = s.taken ++ [s.builder.cut] := rfl
  rw [hrun, hmore, htaken, List.append_assoc, List.getElem?_append_right (Nat.le_refl _)]
  simp

lemma length_taken (s : Session) (steps : List Step) :
    (s.run steps).taken.length = s.taken.length + steps.countP Step.isBuild := by
  induction steps generalizing s with
  | nil => rfl
  | cons t steps ih =>
    have hrun : s.run (t :: steps) = (s.step t).2.run steps := rfl
    rw [hrun, ih, List.countP_cons]
    cases t with
    | build => simp [step, Step.isBuild, Nat.add_assoc, Nat.add_comm 1]
    | _ => simp [step, Step.isBuild]

end Session

/-! ### Equality of expressions -/

namespace Expr

mutual

/-- The values of parameters do not count for equality. -/
theorem alike_unbound : ∀ e f : Expr, e.unbound.alike f.unbound = e.alike f
  | .aliased e _, f => by
    cases f with
    | aliased f _ => simp only [unbound, alike, alike_unbound e f]
    | _ => simp only [unbound, alike]
  | .call _ xs _, f => by
    cases f with
    | call _ ys _ => simp only [unbound, alike, allAlike_unbound xs ys]
    | _ => simp only [unbound, alike]
  | .binary a _ b, f => by
    cases f with
    | binary c _ d => simp only [unbound, alike, alike_unbound a c, alike_unbound b d]
    | _ => simp only [unbound, alike]
  | .inList e xs _, f => by
    cases f with
    | inList f ys _ => simp only [unbound, alike, alike_unbound e f, allAlike_unbound xs ys]
    | _ => simp only [unbound, alike]
  | .constant _, f | .param _ _, f | .star _, f | .column _ _, f | .raw _, f | .source _, f => by
    cases f <;> simp only [unbound, alike]

theorem allAlike_unbound :
    ∀ es fs : List Expr, allAlike (unboundAll es) (unboundAll fs) = allAlike es fs
  | [], [] | [], _ :: _ | _ :: _, [] => by simp only [unboundAll, allAlike]
  | e :: es, f :: fs => by
    simp only [unboundAll, allAlike, alike_unbound e f, allAlike_unbound es fs]

end

end Expr

/-! ### Whole sessions -/

/-- The statement that steps come to which is taken after some of them. -/
def Select.ofSteps (steps before : List Step) : Select where
  columns := steps.flatMap Step.columns
  source := (before.filterMap Step.source?).getLast?
  joins := steps.flatMap Step.joins
  condition := conjunction (conditionsFrom 0 before)
  groups := (steps.flatMap Step.grouped).eraseDupsBy Expr.alike
  limit := (before.filterMap Step.limit?).getLast?.join

lemma paramName_injective : Function.Injective paramName := by
  intro m n h
  have hreadable : Readable [] (fun n s => s = ":" ++ paramName n) id :=
    paramName_readable (by simp)
  exact (hreadable rfl rfl (ends_nil _) (ends_nil _)
    (congrArg (fun s => (":" ++ s).toList ++ []) h)).1

/-- The names that values are numbered by. -/
lemma paramNames_eq (vs : List Value) : (vs.mapIdx fun i v => (paramName i, v)).map (·.1) =
    (List.range vs.length).map paramName :=
  List.ext_getElem (by simp) fun i _ _ => by simp

/-- The names of numbered parameters differ. -/
lemma nodup_paramNames (vs : List Value) :
    ((vs.mapIdx fun i v => (paramName i, v)).map (·.1)).Nodup := by
  rw [paramNames_eq]
  exact List.nodup_range.map paramName_injective

/-- However a builder is used, its parameters are numbered in the order of binding, each bound to
its own value, and writing into a copy of them changes nothing. A statement that is taken keeps
its number; at the end it has all columns and joins that were added and the first of each alike
expressions that were grouped by, whatever values these bind, and its table, condition and limit
are those of the time when it was taken. -/
theorem run_closed (steps : List Step) :
    let s := ({} : Session).run steps
    s.builder.params = (steps.flatMap Step.bound).mapIdx (fun i v => (paramName i, v)) ∧
    (s.builder.params.map (·.1)).Nodup ∧
    (∀ before v after, steps = before ++ .bind v :: after →
      ∃ i, ((({} : Session).run before).step (.bind v)).1 = .name (paramName i) ∧
        s.builder.params[i]? = some (paramName i, v)) ∧
    (∀ before key v after, steps = before ++ .amendCopy key v :: after →
      s = ({} : Session).run (before ++ after)) ∧
    (∀ before after, steps = before ++ .build :: after →
      ∃ k, ((({} : Session).run before).step .build).1 = .index k ∧
        s.statements[k]? = some (.ofSteps steps before)) ∧
    s.statements.length = steps.countP Step.isBuild ∧
    ∀ e f : Expr, e.unbound.alike f.unbound = e.alike f := by
  intro s
  have hbuilder : s.builder = .ofSteps steps := Session.builder_run steps
  have hparams : s.builder.params =
      (steps.flatMap Step.bound).mapIdx fun i v => (paramName i, v) := by
    rw [hbuilder]
    rfl
  refine ⟨hparams, ?_, ?_, ?_, ?_, ?_, Expr.alike_unbound⟩
  · rw [hparams]
    exact nodup_paramNames _
  · rintro before v after rfl
    have hbound : (({} : Session).run before).builder.values = before.flatMap Step.bound := by
      rw [Session.builder_run]
      rfl
    refine ⟨(before.flatMap Step.bound).length, ?_, ?_⟩
    · rw [← hbound]
      rfl
    · rw [hparams]
      simp
  · rintro before key v after rfl
    change Session.run {} _ = _
    rw [Session.run_append, Session.run_append]
    rfl
  · rintro before after rfl
    refine ⟨_, rfl, ?_⟩
    have htaken : s.taken[(({} : Session).run before).taken.length]? =
        some (Builder.ofSteps before).cut := by
      rw [← Session.builder_run before, ← Session.taken_build _ after, ← Session.run_append]
    rw [Session.statements, List.getElem?_map, htaken, hbuilder]
    rfl
  · rw [Session.statements, List.length_map, Session.length_taken]
    exact Nat.zero_add _

/-- A statement on orders is taken while only their tenant is fixed. -/
def openOrders : List Step := [
  .select [.column "region" none], .source ⟨"orders", none⟩,
  .restrictTo (.column "tenant" none) (.int 7), .groupBy [.param "p0" (.int 7)]]

/-- Later the number of orders, a state, groups and a limit are added. -/
def countedOrders : List Step := [
  .amendCopy "p0" (.int 8), .selectAs (.call "COUNT" [.column "id" none] false) "orders",
  .bind (.str "open"), .restrict (equality (.column "state" none) (.param "p1" (.str "open"))),
  .groupBy [.column "region" none, .param "p0" .null], .limit (some 10), .build]

/-- The first statement has the columns and groups of the second, and no condition on the state
and no limit. -/
theorem run_closed_orders :
    let steps := openOrders ++ .build :: countedOrders
    let s := ({} : Session).run steps
    s.builder.params = [("p0", .int 7), ("p1", .str "open")] ∧
    (∃ i, .name "p1" = Reply.name (paramName i) ∧
      s.builder.params[i]? = some (paramName i, .str "open")) ∧
    s = ({} : Session).run (openOrders ++ .build :: countedOrders.tail) ∧
    s.statements.length = 2 ∧
    (∃ first, s.statements[0]? = some first ∧ first.render .postgres = .ok
      ("SELECT \"region\", COUNT(\"id\") AS \"orders\"\nFROM \"orders\"\n" ++
        "WHERE (\"tenant\" = :p0)\nGROUP BY :p0, \"region\"")) ∧
    ∃ second, s.statements[1]? = some second ∧ second.render .postgres = .ok
      ("SELECT \"region\", COUNT(\"id\") AS \"orders\"\nFROM \"orders\"\n" ++
        "WHERE ((\"tenant\" = :p0) AND (\"state\" = :p1))\nGROUP BY :p0, \"region\"\n" ++
        "LIMIT 10") := by
  obtain ⟨hparams, -, hbind, hamend, hbuild, hcount, -⟩ :=
    run_closed (openOrders ++ .build :: countedOrders)
  obtain ⟨i, hi, hfirst⟩ := hbuild openOrders countedOrders rfl
  obtain ⟨j, hj, hsecond⟩ := hbuild (openOrders ++ .build :: countedOrders.dropLast) [] rfl
  obtain rfl : 0 = i := Reply.index.inj hi
  obtain rfl : 1 = j := Reply.index.inj hj
  have hcopy := hamend (openOrders ++ [.build]) "p0" (.int 8) countedOrders.tail rfl
  rw [List.append_assoc, List.singleton_append] at hcopy
  exact ⟨hparams, hbind (openOrders ++ .build :: countedOrders.take 2) (.str "open") _ rfl, hcopy,
    hcount, ⟨_, hfirst, by decide +kernel⟩, ⟨_, hsecond, by decide +kernel⟩⟩

end MetricLayer.Sql
