import Mathlib
import MetricLayer.Catalog.Load
import MetricLayer.Proofs.Catalog.Sections

/-!
# Faults of catalogs

Loading a catalog ends with a fault of catalogs, with two exceptions: a key of the root and the
name of an environment variable are taken for texts whatever they are, and an integer with too
many digits cannot be written into the message about its record.
-/
namespace MetricLayer.Catalog

variable {α β : Type} {mistyped overlong : Prop}

/-- The faults of loading a catalog: its own, and two others, each for its reason. -/
inductive KnownFault (mistyped overlong : Prop) : Fault → Prop
  | catalog (flaw : CatalogFlaw) : KnownFault mistyped overlong (.catalog flaw)
  | mistyped (reason : mistyped) : KnownFault mistyped overlong .illTyped
  | overlong (reason : overlong) : KnownFault mistyped overlong unwritten

/-- A computation that fails with these faults only. -/
def FailsOnly (mistyped overlong : Prop) (x : Except Fault α) : Prop :=
  ∀ e, x = .error e → KnownFault mistyped overlong e

namespace FailsOnly

lemma ok (a : α) : FailsOnly mistyped overlong (.ok a) := by
  rintro _ ⟨⟩

lemma flaw (flaw : CatalogFlaw) :
    FailsOnly mistyped overlong (.error (.catalog flaw) : Except Fault α) := by
  rintro _ ⟨⟩
  exact .catalog flaw

lemma bind {x : Except Fault α} {f : α → Except Fault β} (hx : FailsOnly mistyped overlong x)
    (hf : ∀ a, x = .ok a → FailsOnly mistyped overlong (f a)) :
    FailsOnly mistyped overlong (x >>= f) := by
  intro e h
  rcases bind_eq_error h with h | ⟨a, ha, h⟩
  · exact hx e h
  · exact hf a ha e h

/-- The reasons may be weakened. -/
lemma imp {mistyped' overlong' : Prop} {x : Except Fault α} (h : FailsOnly mistyped overlong x)
    (hm : mistyped → mistyped') (ho : overlong → overlong') :
    FailsOnly mistyped' overlong' x := by
  intro e he
  cases h e he with
  | catalog flaw => exact .catalog flaw
  | mistyped reason => exact .mistyped (hm reason)
  | overlong reason => exact .overlong (ho reason)

lemma imp_mistyped {mistyped' : Prop} {x : Except Fault α} (h : FailsOnly mistyped overlong x)
    (hm : mistyped → mistyped') : FailsOnly mistyped' overlong x := h.imp hm id

lemma imp_overlong {overlong' : Prop} {x : Except Fault α} (h : FailsOnly mistyped overlong x)
    (ho : overlong → overlong') : FailsOnly mistyped overlong' x := h.imp id ho

end FailsOnly

/-! ### Keys of the root -/

/-- Whether a value is a text. -/
def IsText (v : Value) : Prop := ∃ s, v = .str s

lemma keyNames?_eq_none {keys : List Value} :
    keyNames? keys = none ↔ ∃ k ∈ keys, ¬ IsText k := by
  unfold keyNames?
  induction keys with
  | nil => simp
  | cons k keys ih =>
    rw [List.mapM_cons, List.exists_mem_cons_iff, ← ih]
    cases k with
    | str s =>
      have htext : IsText (.str s) := ⟨s, rfl⟩
      simpa [htext] using Option.eq_none_iff_forall_ne_some.symm
    | _ => simp [IsText]

/-- A key that is no text names no section, and it cannot be written. -/
lemma checkSections_of_key {data : List (Value × Value)} {k : Value}
    (hk : k ∈ data.map (·.1)) (htext : ¬ IsText k) : checkSections data = .error .illTyped := by
  unfold checkSections
  dsimp only
  split
  · rename_i hnone
    have hsection := List.filter_eq_nil_iff.mp hnone k hk
    cases k with
    | str s => exact absurd ⟨s, rfl⟩ htext
    | _ => exact absurd rfl hsection
  · rw [keyNames?_eq_none.mpr]
    refine ⟨k, List.mem_filter.mpr ⟨hk, ?_⟩, htext⟩
    cases k with
    | str s => exact absurd ⟨s, rfl⟩ htext
    | _ => rfl

lemma checkSections_fails (data : List (Value × Value)) :
    FailsOnly (∃ k ∈ data.map (·.1), ¬ IsText k) overlong (checkSections data) := by
  by_cases h : ∃ k ∈ data.map (·.1), ¬ IsText k
  · obtain ⟨k, hk, htext⟩ := h
    rw [checkSections_of_key hk htext]
    rintro _ ⟨⟩
    exact .mistyped ⟨k, hk, htext⟩
  · unfold checkSections
    dsimp only
    split
    · exact .ok _
    · split
      · exact .flaw _
      · rename_i hnone
        obtain ⟨k, hk, htext⟩ := keyNames?_eq_none.mp hnone
        exact absurd ⟨k, List.mem_of_mem_filter hk, htext⟩ h

/-! ### Entries -/

lemma sectionOf_fails (data : List (Value × Value)) (name : String) :
    FailsOnly mistyped overlong (sectionOf data name) := by
  unfold sectionOf
  split
  · exact .ok _
  · split
    · exact .ok _
    · split
      · exact .ok _
      · exact .flaw _

lemma checkItem_fails (check : Value → Checked α) (path : String) (v : Value) :
    FailsOnly mistyped overlong (checkItem check path v) := by
  unfold checkItem
  split
  · split
    · exact .ok _
    · exact .flaw _
  · exact .flaw _

/-- An entry that names an environment variable by something that is no text. -/
def NamesNoText (v : Value) : Prop :=
  ∃ es w, v = .map es ∧ Value.get? es "password_env" = some w ∧ ¬ IsText w

lemma withPassword_of_namesNoText {env : List (String × String)} {path : String} {v : Value}
    (h : NamesNoText v) : withPassword env path v = .error .illTyped := by
  obtain ⟨es, w, rfl, hw, htext⟩ := h
  simp only [withPassword, hw]
  cases w with
  | str s => exact absurd ⟨s, rfl⟩ htext
  | _ => rfl

lemma withPassword_fails (env : List (String × String)) (path : String) (v : Value) :
    FailsOnly (NamesNoText v) overlong (withPassword env path v) := by
  unfold withPassword
  split
  · rename_i es
    split
    · exact .ok _
    · split
      · exact .ok _
      · exact .flaw _
    · rename_i w htext hw
      rintro _ ⟨⟩
      exact .mistyped ⟨es, w, rfl, hw, fun ⟨s, hs⟩ => htext s hs⟩
  · exact .ok _

/-- An entry of the connections whose environment variable is no text, behind entries that are
in order. -/
def Misnamed (env : List (String × String)) (i : Nat) (vs : List Value) : Prop :=
  ∃ before v after cs, vs = before ++ v :: after ∧ connectionsFrom env i before = .ok cs ∧
    NamesNoText v

/-- Behind an entry that is in order, the others decide. -/
lemma connectionsFrom_cons {env : List (String × String)} {i : Nat} {v v' : Value}
    {vs : List Value} {c : Connection} (hv : withPassword env (itemPath "connections" i) v = .ok v')
    (hc : checkItem Connection.check (itemPath "connections" i) v' = .ok c) :
    connectionsFrom env i (v :: vs) = (connectionsFrom env (i + 1) vs).map (c :: ·) := by
  rw [connectionsFrom, hv]
  show (checkItem Connection.check (itemPath "connections" i) v' >>= _) = _
  rw [hc]
  cases connectionsFrom env (i + 1) vs <;> rfl

lemma connectionsFrom_fails (env : List (String × String)) (i : Nat) (vs : List Value) :
    FailsOnly (Misnamed env i vs) overlong (connectionsFrom env i vs) := by
  induction vs generalizing i with
  | nil => exact .ok _
  | cons v vs ih =>
    refine .bind ((withPassword_fails env _ v).imp_mistyped fun h => ?_) fun v' hv' => ?_
    · exact ⟨[], v, vs, [], rfl, rfl, h⟩
    · refine .bind (checkItem_fails _ _ v') fun c hc => ?_
      refine .bind ((ih (i + 1)).imp_mistyped ?_) fun cs _ => .ok _
      rintro ⟨before, w, after, cs, rfl, hbefore, hw⟩
      refine ⟨v :: before, w, after, c :: cs, rfl, ?_, hw⟩
      rw [connectionsFrom_cons hv' hc, hbefore]
      rfl

lemma connectionsFrom_of_misnamed {env : List (String × String)} {i : Nat} {vs : List Value}
    (h : Misnamed env i vs) : connectionsFrom env i vs = .error .illTyped := by
  obtain ⟨before, v, after, cs, rfl, hbefore, hv⟩ := h
  induction before generalizing i cs with
  | nil =>
    rw [List.nil_append, connectionsFrom, withPassword_of_namesNoText hv]
    rfl
  | cons b before ih =>
    obtain ⟨b', hb', h⟩ := bind_eq_ok hbefore
    obtain ⟨c, hc, h⟩ := bind_eq_ok h
    obtain ⟨rest, hrest, _⟩ := bind_eq_ok h
    rw [List.cons_append, connectionsFrom_cons hb' hc, ih rest hrest]
    rfl

/-! ### Integers in messages -/

lemma flawNaming_fails {ids named : List Int} (hids : ids ⊆ named) (path message : String) :
    FailsOnly mistyped (∃ i ∈ named, isOverlong i = true)
      (.error (flawNaming ids path message) : Except Fault α) := by
  unfold flawNaming
  split
  · rename_i hlong
    obtain ⟨i, hi, hlong⟩ := List.any_eq_true.mp hlong
    rintro _ ⟨⟩
    exact .overlong ⟨i, hids hi, hlong⟩
  · exact .flaw _

/-- An entry that gives a record with one of certain integers having too many digits. -/
def NamesOverlong (check : Value → Checked α) (named : α → List Int) (vs : List Value) : Prop :=
  ∃ v ∈ vs, ∃ a, check v = .passed a ∧ ∃ i ∈ named a, isOverlong i = true

lemma NamesOverlong.tail {check : Value → Checked α} {named : α → List Int} {v : Value}
    {vs : List Value} (h : NamesOverlong check named vs) : NamesOverlong check named (v :: vs) := by
  obtain ⟨w, hw, h⟩ := h
  exact ⟨w, List.mem_cons_of_mem _ hw, h⟩

/-- The integers that messages about a record of a kind name. -/
def Kind.named (k : Kind α) (a : α) : List Int := [k.id a, k.connectionId a]

lemma Kind.admit_fails (k : Kind α) (known : List Int) (before : List α) (path : String) (a : α) :
    FailsOnly mistyped (∃ i ∈ k.named a, isOverlong i = true) <|
      k.admit known before path a := by
  unfold Kind.admit
  split
  · exact flawNaming_fails (by simp [Kind.named]) _ _
  · split
    · exact flawNaming_fails (by simp [Kind.named]) _ _
    · split
      · exact .flaw _
      · exact .ok _

lemma Kind.itemsFrom_fails (k : Kind α) (known : List Int) (before : List α) (i : Nat)
    (vs : List Value) : FailsOnly mistyped (NamesOverlong k.check k.named vs)
      (k.itemsFrom known before i vs) := by
  induction vs generalizing before i with
  | nil => exact .ok _
  | cons v vs ih =>
    refine .bind (checkItem_fails _ _ v) fun a ha => ?_
    refine .bind ((k.admit_fails known before _ a).imp_overlong fun h => ?_) fun _ _ => ?_
    · exact ⟨v, List.mem_cons_self, a, checkItem_ok ha, h⟩
    · exact .bind ((ih (a :: before) (i + 1)).imp_overlong .tail) fun _ _ => .ok _

/-- The integers that messages about a mapping name. -/
def namedByMapping (x : Mapping) : List Int := [x.factId, x.dimensionId]

lemma admitMapping_fails (facts : List Fact) (dimensions : List Dimension)
    (before : List Mapping) (path : String) (x : Mapping) :
    FailsOnly mistyped (∃ i ∈ namedByMapping x, isOverlong i = true)
      (admitMapping facts dimensions before path x) := by
  unfold admitMapping
  split
  · exact flawNaming_fails (by simp [namedByMapping]) _ _
  · exact flawNaming_fails (by simp [namedByMapping]) _ _
  · split
    · exact .flaw _
    · split
      · exact flawNaming_fails (by simp [namedByMapping]) _ _
      · exact .ok _

lemma mappingsFrom_fails (facts : List Fact) (dimensions : List Dimension)
    (before : List Mapping) (i : Nat) (vs : List Value) :
    FailsOnly mistyped (NamesOverlong Mapping.check namedByMapping vs)
      (mappingsFrom facts dimensions before i vs) := by
  induction vs generalizing before i with
  | nil => exact .ok _
  | cons v vs ih =>
    refine .bind (checkItem_fails _ _ v) fun x hx => ?_
    refine .bind ((admitMapping_fails facts dimensions before _ x).imp_overlong fun h => ?_)
      fun _ _ => ?_
    · exact ⟨v, List.mem_cons_self, x, checkItem_ok hx, h⟩
    · exact .bind ((ih (x :: before) (i + 1)).imp_overlong .tail) fun _ _ => .ok _

/-- The integers that messages about a report and its links name. -/
def namedByReport (r : Report) : List Int :=
  r.id :: r.connectionId :: r.drillTargets.map (·.reportId)

lemma checkLinks_fails (all reports : List Report) :
    FailsOnly mistyped (∃ r ∈ reports, ∃ i ∈ namedByReport r, isOverlong i = true)
      (checkLinks all reports) := by
  induction reports with
  | nil => exact .ok _
  | cons r rest ih =>
    unfold checkLinks
    split
    · rename_i t ht
      have hmem : t ∈ r.drillTargets := List.mem_of_find?_eq_some ht
      have hids : [r.id, t.reportId] ⊆ namedByReport r := by
        simpa [namedByReport] using .inr (.inr ⟨t, hmem, rfl⟩)
      refine (flawNaming_fails hids _ _).imp_overlong fun h => ?_
      exact ⟨r, List.mem_cons_self, h⟩
    · refine ih.imp_overlong ?_
      rintro ⟨s, hs, h⟩
      exact ⟨s, List.mem_cons_of_mem _ hs, h⟩

/-! ### The catalog as a whole -/

/-- What is taken for a text although it is none: a key of the root, or the name of the
environment variable of a connection. -/
inductive Mistyped (env : List (String × String)) (data : List (Value × Value)) : Prop
  | key {k : Value} (hk : k ∈ data.map (·.1)) (htext : ¬ IsText k)
  | environment {vs : List Value} (hkeys : checkSections data = .ok ())
      (hvs : sectionOf data "connections" = .ok vs) (hname : Misnamed env 0 vs)

/-- Some record of a section has too many digits in an integer that messages name. -/
def Overlong (data : List (Value × Value)) (name : String) (check : Value → Checked α)
    (named : α → List Int) : Prop :=
  ∃ vs, sectionOf data name = .ok vs ∧ NamesOverlong check named vs

/-- Some record of a catalog has too many digits in an integer that messages name. -/
inductive HasOverlong (data : List (Value × Value)) : Prop
  | fact (h : Overlong data "facts" Fact.check factKind.named)
  | dimension (h : Overlong data "dimensions" Dimension.check dimensionKind.named)
  | kpi (h : Overlong data "kpis" Kpi.check kpiKind.named)
  | report (h : Overlong data "reports" Report.check namedByReport)
  | mapping (h : Overlong data "mappings" Mapping.check namedByMapping)

lemma Overlong.mono {data : List (Value × Value)} {name : String} {check : Value → Checked α}
    {named named' : α → List Int} (h : Overlong data name check named)
    (hsub : ∀ a, named a ⊆ named' a) : Overlong data name check named' := by
  obtain ⟨vs, hvs, v, hv, a, ha, i, hi, hlong⟩ := h
  exact ⟨vs, hvs, v, hv, a, ha, i, hsub a hi, hlong⟩

lemma Kind.read_fails (k : Kind α) (data : List (Value × Value)) (known : List Int) :
    FailsOnly mistyped (Overlong data k.sectionName k.check k.named) (k.read data known) :=
  .bind (sectionOf_fails data k.sectionName) fun vs hvs =>
    (k.itemsFrom_fails known [] 0 vs).imp_overlong fun h => ⟨vs, hvs, h⟩

/-- A report among those that the entries of a section give. -/
lemma overlong_of_report {data : List (Value × Value)} {reports : List Report}
    (hgives : Gives data "reports" (fun v r => Report.check v = .passed r) reports)
    (h : ∃ r ∈ reports, ∃ i ∈ namedByReport r, isOverlong i = true) :
    Overlong data "reports" Report.check namedByReport := by
  obtain ⟨vs, hvs, hall⟩ := hgives
  obtain ⟨r, hr, h⟩ := h
  obtain ⟨v, hv, hcheck⟩ := exists_of_forall₂ hall hr
  exact ⟨vs, hvs, v, hv, r, hcheck, h⟩

lemma build_fails (env : List (String × String)) {data : List (Value × Value)}
    (hkeys : checkSections data = .ok ()) :
    FailsOnly (Mistyped env data) (HasOverlong data) (build env data) := by
  refine .bind (sectionOf_fails data _) fun vs hvs => ?_
  refine .bind ((connectionsFrom_fails env 0 vs).imp_mistyped fun h => ?_) fun connections _ => ?_
  · exact .environment hkeys hvs h
  refine .bind ((factKind.read_fails data _).imp_overlong .fact) fun facts hfacts => ?_
  refine .bind ((dimensionKind.read_fails data _).imp_overlong .dimension)
    fun dimensions hdimensions => ?_
  refine .bind ((kpiKind.read_fails data _).imp_overlong .kpi) fun kpis hkpis => ?_
  refine .bind ((reportKind.read_fails data _).imp_overlong fun h => ?_) fun reports hreports => ?_
  · exact .report (Overlong.mono h fun r => by simp [Kind.named, reportKind, namedByReport])
  refine .bind (sectionOf_fails data _) fun ws hws => ?_
  refine .bind ((mappingsFrom_fails facts dimensions [] 0 ws).imp_overlong fun h => ?_)
    fun mappings hmappings => ?_
  · exact .mapping ⟨ws, hws, h⟩
  refine .bind ((checkLinks_fails reports reports).imp_overlong fun h => ?_) fun _ _ => ?_
  · exact .report (overlong_of_report (Kind.read_ok hreports).entries h)
  -- The mappings have different pairs, so the empty store takes them all.
  dsimp only
  rw [foldl_put_all connections (Kind.read_ok hfacts).ids (Kind.read_ok hdimensions).ids
    (Kind.read_ok hkpis).ids (Kind.read_ok hreports).ids,
    addMappings_eq rfl (mappingsFrom_ok hmappings).pairs.2]
  exact .ok _

/-! ### Documents -/

/-- A text within the limits is read as a mapping. -/
structure ReadsAs (s : String) (data : List (Value × Value)) : Prop where
  text : checkText s = .ok ()
  read : Yaml.Document.read maxLevels s = .ok ⟨.map data, false⟩
  nodes : checkNodes maxNodes (.map data) = .ok ()

lemma checkText_fails (s : String) : FailsOnly mistyped overlong (checkText s) := by
  unfold checkText
  split
  · exact .flaw _
  · split
    · exact .flaw _
    · exact .ok _

lemma checkNodes_fails (limit : Int) (v : Value) :
    FailsOnly mistyped overlong (checkNodes limit v) := by
  unfold checkNodes
  split
  · exact .ok _
  · exact .flaw _

/-- A text that is read as a mapping is checked and built. -/
lemma load_of_readsAs (env : List (String × String)) {s : String} {data : List (Value × Value)}
    (h : ReadsAs s data) : load env s = (checkSections data >>= fun _ => build env data) := by
  unfold load
  rw [h.text, h.read]
  show (checkNodes maxNodes (.map data) >>= _) = _
  rw [h.nodes]
  rfl

/-- Whether half of a pair of code units is escaped in a text. -/
def escapesHalf : List Char → Bool
  | [] => false
  | [_] => false
  | c :: e :: cs =>
    c == '\\' && ((Yaml.codeLength? e).bind (Yaml.code? · cs)).any Yaml.isHalf ||
      escapesHalf (e :: cs)

/-- The reader gives the value of a text, or finds it malformed. Texts that escape halves of
pairs are left aside: values hold whole characters only, and no environment variable has a name
with such a half in it. -/
structure ReadsOrMalformed (s : String) : Prop where
  whole : escapesHalf s.toList = false
  flaw : ∀ flaw, Yaml.Document.read maxLevels s = .error flaw → flaw = .malformed

lemma load_fails (env : List (String × String)) {s : String} (hread : ReadsOrMalformed s) :
    FailsOnly (∃ data, ReadsAs s data ∧ Mistyped env data)
      (∃ data, ReadsAs s data ∧ HasOverlong data) (load env s) := by
  refine .bind (checkText_fails s) fun _ htext => ?_
  cases hdocument : Yaml.Document.read maxLevels s with
  | error flaw =>
    rw [hread.flaw flaw hdocument]
    exact .flaw _
  | ok document =>
    obtain ⟨value, endless⟩ := document
    cases value with
    | map data =>
      cases endless with
      | true => exact .flaw _
      | false =>
        show FailsOnly _ _ (checkNodes maxNodes (.map data) >>= _)
        refine .bind (checkNodes_fails maxNodes (.map data)) fun _ hnodes => ?_
        have hreads : ReadsAs s data := ⟨htext, hdocument, hnodes⟩
        refine .bind ((checkSections_fails data).imp_mistyped ?_) fun _ hkeys => ?_
        · rintro ⟨k, hk, hnone⟩
          exact ⟨data, hreads, .key hk hnone⟩
        · exact (build_fails env hkeys).imp (fun h => ⟨data, hreads, h⟩) fun h => ⟨data, hreads, h⟩
    | null =>
      cases endless with
      | true => exact .flaw _
      | false => exact .ok _
    | _ => exact .flaw _

/-- What is no text ends the loading of a catalog. -/
lemma load_of_mistyped {env : List (String × String)} {s : String} {data : List (Value × Value)}
    (hreads : ReadsAs s data) (h : Mistyped env data) : load env s = .error .illTyped := by
  rw [load_of_readsAs env hreads]
  cases h with
  | key hk htext =>
    rw [checkSections_of_key hk htext]
    rfl
  | environment hkeys hvs hname =>
    rw [hkeys]
    show (sectionOf data "connections" >>= _) = _
    rw [hvs]
    show (connectionsFrom env 0 _ >>= _) = _
    rw [connectionsFrom_of_misnamed hname]
    rfl

/-- Loading a catalog whose text can be read, or is malformed, ends with a fault of catalogs,
unless something is taken for a text that is none or an integer is too long to be written. What
is no text always ends it. -/
theorem load_fails_only (env : List (String × String)) {s : String} (hread : ReadsOrMalformed s) :
    (∀ e, load env s = .error e → KnownFault (∃ data, ReadsAs s data ∧ Mistyped env data)
      (∃ data, ReadsAs s data ∧ HasOverlong data) e) ∧
    (load env s = .error .illTyped ↔ ∃ data, ReadsAs s data ∧ Mistyped env data) := by
  have hfails := load_fails env hread
  refine ⟨hfails, fun h => ?_, fun ⟨data, hreads, h⟩ => load_of_mistyped hreads h⟩
  cases hfails _ h with
  | mistyped reason => exact reason

/-- A catalog whose only key is a number. -/
lemma read_number :
    Yaml.Document.read maxLevels "1:" = .ok ⟨.map [(.int 1, .null)], false⟩ := by
  cbv

theorem load_fails_only_number : ReadsOrMalformed "1:" ∧ load [] "1:" = .error .illTyped := by
  have hread : ReadsOrMalformed "1:" := by
    refine ⟨by decide, fun flaw h => ?_⟩
    rw [read_number] at h
    cases h
  have hreads : ReadsAs "1:" [(.int 1, .null)] := ⟨by cbv, read_number, by cbv⟩
  have hkey : ¬ IsText (.int 1) := by
    rintro ⟨s, hs⟩
    cases hs
  exact ⟨hread, (load_fails_only [] hread).2.mpr
    ⟨_, hreads, .key (List.mem_map_of_mem List.mem_cons_self) hkey⟩⟩

/-- The loading of a catalog that can be read ends with no fault of catalogs. -/
theorem key_escapes : (∃ document, Yaml.Document.read maxLevels "1:" = .ok document) ∧
    ∃ e, load [] "1:" = .error e ∧ ∀ flaw, e ≠ .catalog flaw := by
  refine ⟨⟨_, read_number⟩, .illTyped, ?_, nofun⟩
  cbv

end MetricLayer.Catalog
