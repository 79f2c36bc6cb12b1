import MetricLayer.Proofs.Keyed
import MetricLayer.Proofs.Service.Consulted

/-!
# Lookups are remembered

The lookups of a request go on, call after call, whatever fails in between. A success is
remembered and a failure is not: a pool is asked for until there is one, and a table until it is
found, even with no columns. Only a call that fails for another table may leave it out.
-/
namespace MetricLayer.Service

variable {σ : Type}

/-- A call for the columns of one table or of several. -/
inductive LookupCall where
  | columns (table : String)
  | columnsFor (tables : List String)

namespace LookupCall

/-- The tables of a call, each once. -/
def tables : LookupCall → List String
  | .columns t => [t]
  | .columnsFor ts => ts.eraseDups

/-- Makes a call, which answers the columns of tables. -/
def run (src : Supplier σ) : LookupCall → ExceptT Fault (StateM (Remembering σ)) Join.Columns
  | .columns t => do return [(t, ← src.lookup t)]
  | .columnsFor ts => src.lookupAll ts

/-- A call of an asker. -/
def ask (a : Asker) : LookupCall → LookupM Join.Columns
  | .columns t => do return [(t, ← Service.columns a t)]
  | .columnsFor ts => Service.columnsFor a ts

lemma records_run (a : Asker) (c : LookupCall) :
    Records (c.run (Supplier.ofAsker a).recorded) (c.ask a) := by
  cases c with
  | columns t => exact .bind (.lookup a t) fun names => fun _ => rfl
  | columnsFor ts => exact .lookupAll a ts

lemma nodup_tables (c : LookupCall) : c.tables.Nodup := by
  cases c with
  | columns t => exact List.nodup_singleton t
  | columnsFor ts => exact nodup_eraseDups ts

end LookupCall

/-- A call, what it consulted, its answer, and the state that it left. -/
structure Turn (σ : Type) where
  call : LookupCall
  log : List Consultation
  answer : Except Fault Join.Columns
  state : σ

/-- Calls of one request, one after the other. What a call consulted is what the record has more
after it. -/
def turns (src : Supplier σ) :
    List LookupCall → Remembering (σ × List Consultation) → List (Turn σ)
  | [], _ => []
  | c :: cs, s =>
    ⟨c, (c.run src.recorded s).2.state.2.drop s.state.2.length, (c.run src.recorded s).1,
      (c.run src.recorded s).2.state.1⟩ :: turns src cs (c.run src.recorded s).2

/-- What the calls of an asker answer, one after the other, and the worlds that they leave. -/
def asked (a : Asker) : List LookupCall → Session → List (Except Fault Join.Columns × World)
  | [], _ => []
  | c :: cs, s => ((c.ask a s).1, (c.ask a s).2.world) :: asked a cs (c.ask a s).2

/-- What turns consulted. -/
def consulted (ts : List (Turn σ)) : List Consultation := ts.flatMap (·.log)

/-! ### One call -/

/-- After a log, a call is answered. A call for several tables takes a pool before it looks any of
them up. -/
inductive Answered (log : List Consultation) :
    LookupCall → List Consultation → Except Fault Join.Columns → Prop
  | nothing {c : LookupCall} (tables : c.tables = []) : Answered log c [] (.ok [])
  | one {c : LookupCall} {t : String} (tables : c.tables = [t]) {new : List Consultation}
    {r : Except Fault (List String)} (looked : Looked log t new r) :
    Answered log c new (r.map fun names => [(t, names)])
  | unpooled {c : LookupCall} (tables : c.tables ≠ []) {new : List Consultation} {x : Fault}
    (taken : Taken log new (.error x)) : Answered log c new (.error x)
  | several {c : LookupCall} (tables : c.tables ≠ []) {new more : List Consultation} {p : Pool}
    (taken : Taken log new (.ok p)) {r : Except Fault Join.Columns}
    (looked : LookedEach (log ++ new) c.tables more r) : Answered log c (new ++ more) r

section
variable {src : Supplier σ} {log : List Consultation}

lemma consulting_one {c : LookupCall} {t : String} (h : c.tables = [t]) :
    Consulting log (do return [(t, ← src.recorded.lookup t)]) (Answered log c) := by
  refine (consulting_lookup t).bind (fun new x hlooked => .one h hlooked) ?_
  intro new names hlooked
  refine .pure ?_
  rw [List.append_nil]
  exact .one h hlooked

lemma consulting_run (c : LookupCall) :
    Consulting log (c.run src.recorded) (Answered log c) := by
  cases c with
  | columns t => exact consulting_one rfl
  | columnsFor ts =>
    show Consulting log (src.recorded.lookupAll ts) _
    have htables : (LookupCall.columnsFor ts).tables = ts.eraseDups := rfl
    unfold Supplier.lookupAll
    cases hts : ts.eraseDups with
    | nil => exact .pure (.nothing (htables.trans hts))
    | cons t rest =>
      rw [hts] at htables
      cases rest with
      | nil => exact consulting_one htables
      | cons u rest =>
        have hne : (LookupCall.columnsFor ts).tables ≠ [] := by simp [htables]
        refine consulting_lookupPool.bind (fun new x htaken => .unpooled hne htaken) ?_
        intro new p htaken
        exact (consulting_lookupEach _).mono fun more r heach =>
          .several hne htaken (htables ▸ heach)

end

/-! ### What a call consults and answers -/

/-- No consultation was needless, and queries were made on the pool that was given. -/
structure Orderly (log : List Consultation) : Prop where
  once : log.Pairwise fun e e' => ¬ e.Settles e'
  supplied : ∀ before p t r after, log = before ++ .columns p t r :: after → pooled before = some p

namespace Orderly

variable {log : List Consultation}

lemma nil : Orderly [] where
  once := .nil
  supplied before _ _ _ _ h := by cases before <;> cases h

/-- One more consultation is in order if no earlier one settles it and a query has its pool. -/
lemma concat (h : Orderly log) {e : Consultation} (hsettles : ∀ d ∈ log, ¬ d.Settles e)
    (hpool : ∀ p t r, e = .columns p t r → pooled log = some p) : Orderly (log ++ [e]) where
  once := by
    refine List.pairwise_append.2 ⟨h.once, List.pairwise_singleton .., fun d hd e' he' => ?_⟩
    obtain rfl := List.mem_singleton.1 he'
    exact hsettles d hd
  supplied before p t r after hsplit := by
    obtain rfl | ⟨init, last, rfl⟩ := List.eq_nil_or_concat after
    · obtain ⟨rfl, hlast⟩ := List.append_inj' hsplit rfl
      exact hpool p t r (List.cons.inj hlast).1
    · rw [List.concat_eq_append, ← List.cons_append, ← List.append_assoc] at hsplit
      exact h.supplied before p t r init (List.append_inj' hsplit rfl).1

lemma pool (h : Orderly log) (hnone : pooled log = none) (r : Except Fault Pool) :
    Orderly (log ++ [.pool r]) := by
  refine h.concat (fun e he hsettles => ?_) fun _ _ _ heq => by cases heq
  have he := List.findSome?_eq_none_iff.1 hnone e he
  match e with
  | .pool (.ok _) => cases he
  | .pool (.error _) => exact hsettles
  | .columns .. => simp [Consultation.Settles] at hsettles

lemma columns {t : String} {p : Pool} (h : Orderly log) (hnone : firstFound log t = none)
    (hp : pooled log = some p) (r : Except Fault (List String)) :
    Orderly (log ++ [.columns p t r]) := by
  refine h.concat (fun e he hsettles => ?_) fun q _ _ heq => ?_
  · have he := List.findSome?_eq_none_iff.1 hnone e he
    match e with
    | .columns _ u (.ok names) =>
      have hut : u = t := hsettles
      simp [Consultation.found?, hut] at he
    | .columns _ _ (.error _) => exact hsettles
    | .pool _ => simp [Consultation.Settles] at hsettles
  · obtain ⟨rfl, -, -⟩ := Consultation.columns.inj heq
    exact hp

end Orderly

namespace Taken

variable {log new : List Consultation}

lemma orderly {r : Except Fault Pool} (h : Taken log new r) (hlog : Orderly log) :
    Orderly (log ++ new) := by
  cases h with
  | known _ => rwa [List.append_nil]
  | asked hnone _ => exact hlog.pool hnone r

lemma pooled {p : Pool} (h : Taken log new (.ok p)) : Service.pooled (log ++ new) = some p := by
  cases h with
  | known h => rwa [List.append_nil]
  | asked hnone _ =>
    rw [Service.pooled, List.findSome?_append, ← Service.pooled, hnone]
    rfl

lemma fault {x : Fault} (h : Taken log new (.error x)) :
    Service.pooled log = none ∧ new = [.pool (.error x)] := by
  cases h with
  | asked hnone => exact ⟨hnone, rfl⟩

/-- A pool that is known is not asked for. -/
lemma of_pooled {p : Pool} {r : Except Fault Pool} (h : Taken log new r)
    (hp : Service.pooled log = some p) : new = [] ∧ r = .ok p := by
  cases h with
  | known h =>
    rw [hp] at h
    exact ⟨rfl, congrArg Except.ok (Option.some.inj h).symm⟩
  | asked hnone _ =>
    rw [hp] at hnone
    cases hnone

lemma filter_isFor {r : Except Fault Pool} (h : Taken log new r) (table : String) :
    new.filter (·.isFor table) = [] := by
  cases h with
  | known | asked => rfl

/-- Where a pool is taken, no table is found. -/
lemma firstFound {r : Except Fault Pool} (h : Taken log new r) (table : String) :
    Service.firstFound (log ++ new) table = Service.firstFound log table := by
  rw [Service.firstFound, List.findSome?_append, ← Service.firstFound]
  cases h with
  | known | asked => exact Option.or_none

end Taken

namespace Looked

variable {log new : List Consultation} {t : String} {r : Except Fault (List String)}

lemma orderly (h : Looked log t new r) (hlog : Orderly log) : Orderly (log ++ new) := by
  cases h with
  | known _ => rwa [List.append_nil]
  | unpooled _ taken => exact taken.orderly hlog
  | asked hnone taken _ =>
    rw [← List.append_assoc]
    exact (taken.orderly hlog).columns ((taken.firstFound t).trans hnone) taken.pooled r

lemma found {names : List String} (h : Looked log t new (.ok names)) :
    firstFound (log ++ new) t = some names := by
  cases h with
  | known h => rwa [List.append_nil]
  | asked hnone taken _ =>
    rw [← List.append_assoc, firstFound, List.findSome?_append, ← firstFound, taken.firstFound,
      hnone]
    simp [Consultation.found?]

lemma fault {x : Fault} (h : Looked log t new (.error x)) : ∃ e ∈ new, e.fault? = some x := by
  cases h with
  | unpooled _ taken => exact ⟨.pool (.error x), by simp [taken.fault.2], rfl⟩
  | @asked _ p _ _ _ => exact ⟨.columns p t (.error x), by simp, rfl⟩

/-- A table that was not found yet is asked for, unless there is no pool. -/
lemma retried (h : Looked log t new r) (hnone : firstFound log t = none) :
    (pooled log = none ∧ ∃ x, new = [.pool (.error x)] ∧ r = .error x) ∨
      ∃ p, new.filter (·.isFor t) = [.columns p t r] := by
  cases h with
  | known h =>
    rw [hnone] at h
    cases h
  | unpooled _ taken => exact .inl ⟨taken.fault.1, _, taken.fault.2, rfl⟩
  | @asked new p _ taken _ =>
    refine .inr ⟨p, ?_⟩
    rw [List.filter_append, taken.filter_isFor]
    simp [Consultation.isFor]

/-- With a pool that is known, what is consulted is a query for the table if anything. -/
lemma of_pooled {p : Pool} (h : Looked log t new r) (hp : pooled log = some p) :
    (firstFound log t ≠ none ∧ new = []) ∨ new = [.columns p t r] := by
  cases h with
  | known h => exact .inl ⟨by simp [h], rfl⟩
  | unpooled _ taken => exact absurd (taken.of_pooled hp).2 (by simp)
  | asked _ taken _ =>
    obtain ⟨rfl, hr⟩ := taken.of_pooled hp
    obtain rfl := Except.ok.inj hr
    exact .inr rfl

/-- With a pool that is known, what fails is the query for the table. -/
lemma asked_of_error {p : Pool} {x : Fault} (h : Looked log t new (.error x))
    (hp : pooled log = some p) : new = [.columns p t (.error x)] := by
  cases h with
  | unpooled _ taken => exact absurd (taken.of_pooled hp).2 (by simp)
  | asked _ taken _ =>
    obtain ⟨rfl, hq⟩ := taken.of_pooled hp
    obtain rfl := Except.ok.inj hq
    rfl

/-- With a pool that is known, a table that was not found yet is asked for. -/
lemma asks {p : Pool} (h : Looked log t new r) (hp : pooled log = some p)
    (hnone : firstFound log t = none) : new = [.columns p t r] :=
  (h.of_pooled hp).resolve_left fun hfound => hfound.1 hnone

/-- With a pool that is known, other tables are not asked for. -/
lemma filter_isFor {p : Pool} {u : String} (h : Looked log t new r) (hp : pooled log = some p)
    (hne : t ≠ u) : new.filter (·.isFor u) = [] := by
  obtain ⟨-, rfl⟩ | rfl := h.of_pooled hp
  · rfl
  · simp [Consultation.isFor, hne]

/-- With a pool that is known, no other table is found. -/
lemma firstFound_ne {p : Pool} {u : String} (h : Looked log t new r) (hp : pooled log = some p)
    (hne : t ≠ u) : firstFound (log ++ new) u = firstFound log u := by
  rw [firstFound, List.findSome?_append, ← firstFound]
  obtain ⟨-, rfl⟩ | rfl := h.of_pooled hp
  · exact Option.or_none
  · cases r <;> simp [Consultation.found?, hne]

end Looked

namespace LookedBegun

variable {log new : List Consultation} {ts : List String} {p : Pool} {t : String}

lemma orderly (h : LookedBegun log ts new) (hlog : Orderly log) : Orderly (log ++ new) := by
  induction h with
  | nil log => rwa [List.append_nil]
  | cons first _ ih =>
    rw [← List.append_assoc]
    exact ih (first.orderly hlog)

/-- With a pool that is known, tables that are not among those looked up are not asked for. -/
lemma filter_isFor (h : LookedBegun log ts new) (hp : pooled log = some p) (ht : t ∉ ts) :
    new.filter (·.isFor t) = [] := by
  induction h with
  | nil log => rfl
  | @cons log new more u us r first _ ih =>
    rw [List.mem_cons, not_or] at ht
    rw [List.filter_append, ih (pooled_append hp new) ht.2, List.append_nil]
    exact first.filter_isFor hp (Ne.symm ht.1)

/-- With a pool that is known, a table that was not found yet is asked for once. -/
lemma retried (h : LookedBegun log ts new) (hp : pooled log = some p) (hnodup : ts.Nodup)
    (ht : t ∈ ts) (hnone : firstFound log t = none) :
    ∃ r, new.filter (·.isFor t) = [.columns p t r] := by
  induction h with
  | nil log => cases ht
  | @cons log new more u us r first rest ih =>
    obtain ⟨hu, hus⟩ := List.nodup_cons.1 hnodup
    have hp' := pooled_append hp new
    rw [List.filter_append]
    by_cases hut : u = t
    · subst hut
      rw [rest.filter_isFor hp' hu, List.append_nil, first.asks hp hnone]
      exact ⟨r, by simp [Consultation.isFor]⟩
    · have ht' : t ∈ us := (List.mem_cons.1 ht).resolve_left (Ne.symm hut)
      rw [first.filter_isFor hp hut, List.nil_append]
      exact ih hp' hus ht' ((first.firstFound_ne hp hut).trans hnone)

end LookedBegun

/-- Behind a table that fails, another one is left out: it is not asked for, and the answer is the
failure of the query before it. -/
def LeftBehind (ts : List String) (new : List Consultation) (t : String)
    (r : Except Fault Join.Columns) : Prop :=
  new.filter (·.isFor t) = [] ∧
    ∃ u x p, [u, t].Sublist ts ∧ .columns p u (.error x) ∈ new ∧ r = .error x

namespace LookedEach

variable {log new : List Consultation} {ts : List String} {r : Except Fault Join.Columns}
  {p : Pool} {t : String}

lemma orderly (h : LookedEach log ts new r) (hlog : Orderly log) : Orderly (log ++ new) := by
  induction h with
  | nil log => rwa [List.append_nil]
  | given first _ ih =>
    rw [← List.append_assoc]
    exact ih (first.orderly hlog)
  | failed first _ rest =>
    rw [← List.append_assoc]
    exact rest.orderly (first.orderly hlog)

lemma found {found : Join.Columns} (h : LookedEach log ts new r) (hr : r = .ok found) :
    found.map (·.1) = ts ∧ ∀ e ∈ found, firstFound (log ++ new) e.1 = some e.2 := by
  induction h generalizing found with
  | nil log =>
    obtain rfl := Except.ok.inj hr
    simp
  | @given log new more t ts names r first _ ih =>
    cases r with
    | error x => cases hr
    | ok rest =>
      obtain rfl := Except.ok.inj hr
      obtain ⟨hkeys, hfound⟩ := ih rfl
      rw [← List.append_assoc]
      refine ⟨by rw [List.map_cons, hkeys], List.forall_mem_cons.mpr ⟨?_, hfound⟩⟩
      exact firstFound_append first.found more
  | failed => cases hr

lemma fault {x : Fault} (h : LookedEach log ts new r) (hr : r = .error x) :
    ∃ e ∈ new, e.fault? = some x := by
  induction h with
  | nil log => cases hr
  | @given log new more t ts names r _ _ ih =>
    cases r with
    | ok rest => cases hr
    | error y =>
      obtain ⟨e, he, hx⟩ := ih hr
      exact ⟨e, List.mem_append_right _ he, hx⟩
  | failed first _ _ =>
    obtain rfl := Except.error.inj hr
    obtain ⟨e, he, hx⟩ := first.fault
    exact ⟨e, List.mem_append_left _ he, hx⟩

/-- With a pool that is known, tables that are not among those looked up are not asked for. -/
lemma filter_isFor (h : LookedEach log ts new r) (hp : pooled log = some p) (ht : t ∉ ts) :
    new.filter (·.isFor t) = [] := by
  induction h with
  | nil log => rfl
  | @given log new more u us names r first _ ih =>
    rw [List.mem_cons, not_or] at ht
    rw [List.filter_append, ih (pooled_append hp new) ht.2, List.append_nil]
    exact first.filter_isFor hp (Ne.symm ht.1)
  | @failed log new more u us begun x first hsome rest =>
    rw [List.mem_cons, not_or] at ht
    rw [List.filter_append, first.filter_isFor hp (Ne.symm ht.1), List.nil_append]
    exact rest.filter_isFor (pooled_append hp new) fun hmem => ht.2 (hsome.subset hmem)

/-- With a pool that is known, a table that was not found yet is asked for once, or left behind. -/
lemma retried (h : LookedEach log ts new r) (hp : pooled log = some p) (hnodup : ts.Nodup)
    (ht : t ∈ ts) (hnone : firstFound log t = none) :
    (∃ q, new.filter (·.isFor t) = [.columns p t q]) ∨ LeftBehind ts new t r := by
  induction h with
  | nil log => cases ht
  | @given log new more u us names r first rest ih =>
    obtain ⟨hu, hus⟩ := List.nodup_cons.1 hnodup
    have hp' := pooled_append hp new
    by_cases hut : u = t
    · subst hut
      rw [List.filter_append, rest.filter_isFor hp' hu, List.append_nil, first.asks hp hnone]
      exact .inl ⟨.ok names, by simp [Consultation.isFor]⟩
    · have ht' : t ∈ us := (List.mem_cons.1 ht).resolve_left (Ne.symm hut)
      have hskip := first.filter_isFor hp hut
      have hnone' := (first.firstFound_ne hp hut).trans hnone
      rw [List.filter_append, hskip, List.nil_append]
      refine (ih hp' hus ht' hnone').imp_right ?_
      rintro ⟨hnot, v, x, q, hbefore, hfailed, rfl⟩
      refine ⟨by rw [List.filter_append, hskip, hnot]; rfl, v, x, q, hbefore.cons u, ?_, rfl⟩
      exact List.mem_append_right _ hfailed
  | @failed log new more u us begun x first hsome rest =>
    obtain ⟨hu, hus⟩ := List.nodup_cons.1 hnodup
    have hp' := pooled_append hp new
    by_cases hut : u = t
    · subst hut
      have hnot : more.filter (·.isFor u) = [] :=
        rest.filter_isFor hp' fun hmem => hu (hsome.subset hmem)
      rw [List.filter_append, hnot, List.append_nil, first.asks hp hnone]
      exact .inl ⟨.error x, by simp [Consultation.isFor]⟩
    · have ht' : t ∈ us := (List.mem_cons.1 ht).resolve_left (Ne.symm hut)
      have hskip := first.filter_isFor hp hut
      have hnone' := (first.firstFound_ne hp hut).trans hnone
      by_cases hbegun : t ∈ begun
      · rw [List.filter_append, hskip, List.nil_append]
        exact .inl (rest.retried hp' (hus.sublist hsome) hbegun hnone')
      · refine .inr ⟨?_, u, x, p, (List.singleton_sublist.2 ht').cons_cons u, ?_, rfl⟩
        · rw [List.filter_append, hskip, rest.filter_isFor hp' hbegun]
          rfl
        · simp [first.asked_of_error hp]

end LookedEach

namespace Answered

variable {log new : List Consultation} {c : LookupCall}

lemma orderly {r : Except Fault Join.Columns} (h : Answered log c new r) (hlog : Orderly log) :
    Orderly (log ++ new) := by
  cases h with
  | nothing _ => rwa [List.append_nil]
  | one _ looked => exact looked.orderly hlog
  | unpooled _ taken => exact taken.orderly hlog
  | several _ taken looked =>
    rw [← List.append_assoc]
    exact looked.orderly (taken.orderly hlog)

lemma found {found : Join.Columns} (h : Answered log c new (.ok found)) :
    found.map (·.1) = c.tables ∧ ∀ e ∈ found, firstFound (log ++ new) e.1 = some e.2 := by
  generalize hr : Except.ok found = r at h
  cases h with
  | nothing htables =>
    obtain rfl := Except.ok.inj hr
    exact ⟨htables.symm, by simp⟩
  | @one t htables _ r looked =>
    cases r with
    | error x => cases hr
    | ok names =>
      obtain rfl := Except.ok.inj hr
      exact ⟨htables.symm, by simpa using looked.found⟩
  | unpooled _ _ => cases hr
  | several _ taken looked =>
    rw [← List.append_assoc]
    exact looked.found hr.symm

lemma fault {x : Fault} (h : Answered log c new (.error x)) : ∃ e ∈ new, e.fault? = some x := by
  generalize hr : Except.error x = r at h
  cases h with
  | nothing _ => cases hr
  | @one t _ _ r looked =>
    cases r with
    | error y =>
      obtain rfl := Except.error.inj hr
      exact looked.fault
    | ok names => cases hr
  | unpooled _ taken =>
    obtain rfl := Except.error.inj hr
    exact ⟨.pool (.error x), by simp [taken.fault.2], rfl⟩
  | several _ _ looked =>
    obtain ⟨e, he, hx⟩ := looked.fault hr.symm
    exact ⟨e, List.mem_append_right _ he, hx⟩

lemma retried {r : Except Fault Join.Columns} (h : Answered log c new r) {t : String}
    (ht : t ∈ c.tables) (hnone : firstFound log t = none) :
    (pooled log = none ∧ ∃ x, new = [.pool (.error x)] ∧ r = .error x) ∨
      (∃ p q, new.filter (·.isFor t) = [.columns p t q]) ∨ LeftBehind c.tables new t r := by
  cases h with
  | nothing htables =>
    rw [htables] at ht
    cases ht
  | @one u htables _ q looked =>
    rw [htables, List.mem_singleton] at ht
    subst ht
    obtain ⟨hpool, x, hnew, rfl⟩ | ⟨p, hp⟩ := looked.retried hnone
    · exact .inl ⟨hpool, x, hnew, rfl⟩
    · exact .inr (.inl ⟨p, q, hp⟩)
  | unpooled _ taken => exact .inl ⟨taken.fault.1, _, taken.fault.2, rfl⟩
  | @several _ new more p taken r looked =>
    have hnone' := (taken.firstFound t).trans hnone
    rw [List.filter_append, taken.filter_isFor, List.nil_append]
    refine .inr ((looked.retried taken.pooled c.nodup_tables ht hnone').imp ?_ ?_)
    · exact fun hasked => ⟨p, hasked⟩
    · rintro ⟨hnot, u, x, q, hbefore, hfailed, rfl⟩
      refine ⟨?_, u, x, q, hbefore, List.mem_append_right _ hfailed, rfl⟩
      rw [List.filter_append, taken.filter_isFor, hnot]
      rfl

lemma idle {r : Except Fault Join.Columns} (h : Answered log c new r) (hc : c.tables = []) :
    new = [] ∧ r = .ok [] := by
  cases h with
  | nothing _ => exact ⟨rfl, rfl⟩
  | one htables _ => exact absurd (hc.symm.trans htables) (by simp)
  | unpooled hne _ => exact absurd hc hne
  | several hne _ _ => exact absurd hc hne

end Answered

/-! ### Calls one after the other -/

/-- After a log, every turn is answered by what was consulted up to it. -/
inductive AnsweredEach : List Consultation → List (Turn σ) → Prop
  | nil (log : List Consultation) : AnsweredEach log []
  | cons {log : List Consultation} {t : Turn σ} {ts : List (Turn σ)}
    (first : Answered log t.call t.log t.answer) (rest : AnsweredEach (log ++ t.log) ts) :
    AnsweredEach log (t :: ts)

namespace AnsweredEach

variable {log : List Consultation} {ts : List (Turn σ)}

lemma orderly (h : AnsweredEach log ts) (hlog : Orderly log) :
    Orderly (log ++ consulted ts) := by
  induction h with
  | nil log => rwa [consulted, List.flatMap_nil, List.append_nil]
  | cons first _ ih =>
    rw [consulted, List.flatMap_cons, ← List.append_assoc]
    exact ih (first.orderly hlog)

lemma split {before after : List (Turn σ)} {t : Turn σ}
    (h : AnsweredEach log (before ++ t :: after)) :
    Answered (log ++ consulted before) t.call t.log t.answer := by
  induction before generalizing log with
  | nil =>
    cases h with
    | cons first _ => rwa [consulted, List.flatMap_nil, List.append_nil]
  | cons b before ih =>
    cases h with
    | cons _ rest =>
      rw [consulted, List.flatMap_cons, ← List.append_assoc]
      exact ih rest

end AnsweredEach

lemma turns_answered (src : Supplier σ) (cs : List LookupCall) {log : List Consultation}
    {s : Remembering (σ × List Consultation)} (hlog : s.state.2 = log)
    (hs : Recalls log s.memo) : AnsweredEach log (turns src cs s) := by
  induction cs generalizing log s with
  | nil => exact .nil log
  | cons c cs ih =>
    have hconsulting : Consulting log (c.run src.recorded) (Answered log c) := consulting_run c
    obtain ⟨new, hnew, hlog', hrecalls⟩ := hconsulting s hlog hs
    have hdrop : (c.run src.recorded s).2.state.2.drop s.state.2.length = new := by
      rw [hlog', hlog, List.drop_left]
    rw [turns, hdrop]
    exact .cons hnew (ih hlog' hrecalls)

lemma map_call_turns (src : Supplier σ) (cs : List LookupCall)
    (s : Remembering (σ × List Consultation)) : (turns src cs s).map (·.call) = cs := by
  induction cs generalizing s with
  | nil => rfl
  | cons c cs ih => rw [turns, List.map_cons, ih]

/-- The record of an asker's calls tells what they answer and do. -/
lemma map_asked_turns (a : Asker) (cs : List LookupCall)
    (s : Remembering (World × List Consultation)) :
    (turns (.ofAsker a) cs s).map (fun t => (t.answer, t.state)) = asked a cs s.session := by
  induction cs generalizing s with
  | nil => rfl
  | cons c cs ih =>
    rw [turns, List.map_cons, ih, asked, c.records_run a s]
    rfl

/-- Turns in which successes are remembered and failures are not. -/
structure Memoized (ts : List (Turn σ)) : Prop where
  /-- Every list of columns is the first one that was found for its table. -/
  first : ∀ t ∈ ts, ∀ found, t.answer = .ok found →
    ∀ e ∈ found, firstFound (consulted ts) e.1 = some e.2
  /-- Once a pool was given no pool is asked for, and once a table was found it is not asked for,
  however many columns it has. -/
  once : (consulted ts).Pairwise fun e e' => ¬ e.Settles e'
  /-- Every query, also one that failed, was made on the pool that was given before it. -/
  supplied : ∀ before p table r after, consulted ts = before ++ .columns p table r :: after →
    pooled before = some p
  /-- A table that was not found by earlier calls is asked for once, unless there is no pool: none
  was given before, and asking for one fails; or unless it is left behind: the call fails with the
  failure of the query for a table before it. -/
  retried : ∀ before t after, ts = before ++ t :: after → ∀ table ∈ t.call.tables,
    firstFound (consulted before) table = none →
      (pooled (consulted before) = none ∧
        ∃ x, t.log = [.pool (.error x)] ∧ t.answer = .error x) ∨
        (∃ p r, t.log.filter (·.isFor table) = [.columns p table r]) ∨
        LeftBehind t.call.tables t.log table t.answer
  /-- A call that fails has failed anew. -/
  fault : ∀ t ∈ ts, ∀ x, t.answer = .error x → ∃ e ∈ t.log, e.fault? = some x
  /-- The tables of an answer are those of the call, each once, as they first occur. -/
  tables : ∀ t ∈ ts, ∀ found, t.answer = .ok found → found.map (·.1) = t.call.tables
  /-- A call for no table consults nothing. -/
  idle : ∀ t ∈ ts, t.call.tables = [] → t.log = [] ∧ t.answer = .ok []

lemma AnsweredEach.memoized {ts : List (Turn σ)} (h : AnsweredEach [] ts) : Memoized ts where
  first t ht found hanswer e he := by
    obtain ⟨before, after, rfl⟩ := List.append_of_mem ht
    have hfound := (hanswer ▸ h.split).found.2 e he
    rw [consulted, List.flatMap_append, List.flatMap_cons, ← List.append_assoc]
    exact firstFound_append hfound _
  once := (h.orderly .nil).once
  supplied := (h.orderly .nil).supplied
  retried before t after hts table htable hnone := by
    subst hts
    exact h.split.retried htable hnone
  fault t ht x hanswer := by
    obtain ⟨before, after, rfl⟩ := List.append_of_mem ht
    exact (hanswer ▸ h.split).fault
  tables t ht found hanswer := by
    obtain ⟨before, after, rfl⟩ := List.append_of_mem ht
    exact (hanswer ▸ h.split).found.1
  idle t ht htables := by
    obtain ⟨before, after, rfl⟩ := List.append_of_mem ht
    exact h.split.idle htables

/-- Whatever supplies pools and columns, and whenever it fails, the lookups of a request are
memoized, call after call. The calls of an asker are calls like that: they give the same answers
and leave the same worlds with its pool and its catalog queries as the supplier. -/
theorem lookups_memoized :
    (∀ {σ : Type} (src : Supplier σ) (start : σ) (calls : List LookupCall),
      (turns src calls ⟨(start, []), {}⟩).map (·.call) = calls ∧
        Memoized (turns src calls ⟨(start, []), {}⟩)) ∧
    ∀ (a : Asker) (w : World) (calls : List LookupCall),
      (turns (.ofAsker a) calls ⟨(w, []), {}⟩).map (fun t => (t.answer, t.state)) =
        asked a calls ⟨w, {}⟩ := by
  refine ⟨fun {σ} src start calls => ⟨map_call_turns src calls _, ?_⟩, fun a w calls => ?_⟩
  · have hanswered : AnsweredEach [] (turns src calls ⟨(start, []), {}⟩) :=
      turns_answered src calls rfl ⟨rfl, fun _ => rfl⟩
    exact hanswered.memoized
  · exact map_asked_turns a calls ⟨(w, []), {}⟩

/-- A connection whose database answers no query for columns. Of lookups that go side by side, only
one is begun at a time. -/
def harbor : World where
  store := .memory { connections := [⟨1, none, "harbor", "postgres", "db", 5432, "harbor", "u", "p",
    none, none, none⟩] }
  target := {
    columns := fun _ _ _ => .error .operational
    begun := fun _ _ => false }

/-- The query for the visits fails. The next call for them, which has its pool and is for the orders
first, sends no query for the visits. -/
theorem query_dropped :
    let ts := turns (.ofAsker ⟨1, none⟩) [.columns "visits", .columnsFor ["orders", "visits"]]
      ⟨(harbor, []), {}⟩
    ts.map (fun t => t.log.countP (·.isFor "visits")) = [1, 0] ∧
      firstFound (consulted ts) "visits" = none ∧ (pooled (consulted (ts.take 1))).isSome := by
  decide +kernel

end MetricLayer.Service
