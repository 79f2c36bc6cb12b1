import Mathlib
import MetricLayer.Catalog.Load

/-!
# The number of nodes

A value is a node, and so are the items of its lists and the values of its mappings. A visit takes
the values that wait one by one, in any order, and lets those inside them wait in turn. However it
goes on, it takes each node once; so the limit is exceeded exactly if there are more nodes.
-/
namespace MetricLayer.Catalog

mutual

/-- The nodes of a value: the value itself, and those of the values directly inside it. -/
def countNodes : Value → Nat
  | .list vs => countAll vs + 1
  | .map es => countEntries es + 1
  | _ => 1

/-- The nodes of several values. -/
def countAll : List Value → Nat
  | [] => 0
  | v :: vs => countNodes v + countAll vs

/-- The nodes of the values of a mapping. -/
def countEntries : List (Value × Value) → Nat
  | [] => 0
  | (_, v) :: es => countNodes v + countEntries es

end

lemma countEntries_eq (es : List (Value × Value)) : countEntries es = countAll (es.map (·.2)) := by
  induction es with
  | nil => rfl
  | cons e es ih => rw [countEntries, List.map_cons, countAll, ih]

lemma countNodes_eq (v : Value) : countNodes v = countAll (parts v) + 1 := by
  cases v with
  | map es => rw [countNodes, countEntries_eq, parts]
  | _ => rfl

lemma countAll_append (vs ws : List Value) : countAll (vs ++ ws) = countAll vs + countAll ws := by
  induction vs with
  | nil => exact (Nat.zero_add _).symm
  | cons v vs ih => rw [List.cons_append, countAll, countAll, ih, Nat.add_assoc]

lemma countAll_perm {vs ws : List Value} (h : vs.Perm ws) : countAll vs = countAll ws := by
  induction h with
  | nil => rfl
  | cons v _ ih => rw [countAll, countAll, ih]
  | swap v w vs =>
    simp only [countAll]
    omega
  | trans _ _ ih ih' => exact ih.trans ih'

/-- Values that wait are within the limit exactly if all their nodes are. -/
lemma isWithin_iff (limit : Nat) (rest : List Value) :
    isWithin limit rest = true ↔ countAll rest ≤ limit := by
  induction limit generalizing rest with
  | zero =>
    cases rest with
    | nil => simp [isWithin, countAll]
    | cons v rest =>
      simp only [isWithin, countAll, countNodes_eq]
      exact ⟨nofun, fun h => by omega⟩
  | succ limit ih =>
    cases rest with
    | nil => simp [isWithin, countAll]
    | cons v rest =>
      rw [isWithin, ih, countAll_append, countAll, countNodes_eq]
      omega

/-! ### Visits in any order -/

/-- A visit: how many nodes were taken, and the values that wait. -/
structure Visit where
  count : Nat
  waiting : List Value

/-- A visit goes on: one of the values that wait is taken, unless that exceeds the limit, and those
directly inside it wait beside the others. -/
inductive Visit.Step (limit : Int) : Visit → Visit → Prop
  | take {count : Nat} {before rest after : List Value} {v : Value}
    (hpick : before.Perm (v :: rest)) (hlimit : (count : Int) + 1 ≤ limit)
    (hafter : after.Perm (parts v ++ rest)) : Step limit ⟨count, before⟩ ⟨count + 1, after⟩

/-- The visits that begin with a value. -/
abbrev Visit.From (limit : Int) (v : Value) : Visit → Prop :=
  Relation.ReflTransGen (Visit.Step limit) ⟨0, [v]⟩

namespace Visit

variable {limit : Int} {v : Value} {s t : Visit}

/-- What was taken and what is left make up the same nodes. -/
lemma Step.total (h : Step limit s t) :
    t.count + countAll t.waiting = s.count + countAll s.waiting := by
  cases h with
  | take hpick _ hafter =>
    simp only [countAll_perm hpick, countAll_perm hafter, countAll_append, countAll, countNodes_eq]
    omega

lemma Step.count_eq (h : Step limit s t) : t.count = s.count + 1 := by
  cases h with
  | take => rfl

lemma Step.count_le (h : Step limit s t) : (t.count : Int) ≤ limit := by
  cases h with
  | take _ hlimit _ => exact_mod_cast hlimit

lemma From.total (h : From limit v s) : s.count + countAll s.waiting = countNodes v := by
  induction h with
  | refl => simp [countAll]
  | tail _ hstep ih => rw [hstep.total, ih]

lemma From.count_le (h : From limit v s) : s.count = 0 ∨ (s.count : Int) ≤ limit := by
  cases h with
  | refl => exact .inl rfl
  | tail _ hstep => exact .inr hstep.count_le

/-- A visit that cannot go on has taken all nodes, or the next one would exceed the limit. -/
lemma From.done_iff (h : From limit v s) (hlast : ∀ t, ¬ Step limit s t) :
    s.waiting = [] ↔ (countNodes v : Int) ≤ limit := by
  have htotal := h.total
  constructor
  · intro hnone
    rw [hnone, countAll] at htotal
    have hone := countNodes_eq v
    rcases h.count_le with hzero | hle <;> omega
  · intro hle
    cases hw : s.waiting with
    | nil => rfl
    | cons w rest =>
      rw [hw, countAll, countNodes_eq] at htotal
      have hlimit : (s.count : Int) + 1 ≤ limit := by omega
      exact absurd (Step.take (.of_eq hw) hlimit (.refl _)) (hlast _)

/-- No visit goes on forever. -/
lemma not_endless (f : Nat → Visit) (hfirst : f 0 = ⟨0, [v]⟩) :
    ¬ ∀ n, Step limit (f n) (f (n + 1)) := by
  intro hsteps
  have hreached : ∀ n, From limit v (f n) ∧ (f n).count = n := by
    intro n
    induction n with
    | zero => exact ⟨hfirst ▸ .refl, by rw [hfirst]⟩
    | succ n ih => exact ⟨ih.1.tail (hsteps n), by rw [(hsteps n).count_eq, ih.2]⟩
  obtain ⟨hfrom, hcount⟩ := hreached (countNodes v + 1)
  have htotal := hfrom.total
  omega

end Visit

/-! ### The limit -/

lemma checkNodes_eq (limit : Int) (v : Value) :
    checkNodes limit v =
      if (countNodes v : Int) ≤ limit then .ok () else .error (tooManyNodes limit) := by
  have hpositive := countNodes_eq v
  have hwithin : isWithin limit.toNat [v] = true ↔ (countNodes v : Int) ≤ limit := by
    rw [isWithin_iff, countAll, countAll]
    omega
  rw [checkNodes]
  exact if_congr hwithin rfl rfl

/-- The number of nodes of a document, which is infinite if the document goes on inside itself. -/
def documentNodes (d : Yaml.Document) : ℕ∞ := if d.endless then ⊤ else countNodes d.value

/-- A document whose root is a mapping is built exactly if its nodes are within the limit. -/
lemma load_of_nodes (env : List (String × String)) {s : String} {d : Yaml.Document}
    {data : List (Value × Value)} (htext : checkText s = .ok ())
    (hread : Yaml.Document.read maxLevels s = .ok d) (hdata : d.value = .map data) :
    (documentNodes d ≤ maxNodes → load env s = (checkSections data >>= fun _ => build env data)) ∧
    (maxNodes < documentNodes d → load env s = .error (tooManyNodes maxNodes)) := by
  obtain ⟨value, endless⟩ := d
  obtain rfl : value = .map data := hdata
  unfold load
  rw [htext, hread]
  cases endless with
  | true => exact ⟨fun hle => absurd hle (by simp [documentNodes]), fun _ => rfl⟩
  | false =>
    have hnodes : documentNodes ⟨.map data, false⟩ = countNodes (.map data) := rfl
    rw [hnodes, Nat.cast_le, Nat.cast_lt]
    constructor
    · intro hle
      show (checkNodes maxNodes (.map data) >>= _) = _
      rw [checkNodes_eq, if_pos (by exact_mod_cast hle)]
      rfl
    · intro hlt
      show (checkNodes maxNodes (.map data) >>= _) = _
      rw [checkNodes_eq, if_neg (by exact_mod_cast Nat.not_le.mpr hlt)]
      rfl

/-- The limit is exact for every value and every integer. The check refuses a value exactly if it
has more nodes; visits that take the nodes in any order end, after no more steps than there are
nodes, and those that cannot go on have nothing left exactly if the check accepts. So a document
with a mapping at its root is built exactly if its nodes are within the limit, and one that goes
on inside itself is refused. -/
theorem nodes_limited (limit : Int) (v : Value) :
    checkNodes limit v =
      (if (countNodes v : Int) ≤ limit then .ok () else .error (tooManyNodes limit)) ∧
    (∀ s, Visit.From limit v s → s.count ≤ countNodes v ∧
      ((∀ t, ¬ Visit.Step limit s t) → (s.waiting = [] ↔ (countNodes v : Int) ≤ limit))) ∧
    (∀ f : Nat → Visit, f 0 = ⟨0, [v]⟩ → ¬ ∀ n, Visit.Step limit (f n) (f (n + 1))) ∧
    (∀ env s d data, checkText s = .ok () → Yaml.Document.read maxLevels s = .ok d →
      d.value = .map data →
      (documentNodes d ≤ maxNodes → load env s = (checkSections data >>= fun _ => build env data)) ∧
      (maxNodes < documentNodes d → load env s = .error (tooManyNodes maxNodes))) := by
  refine ⟨checkNodes_eq limit v, fun s hs => ⟨?_, hs.done_iff⟩, Visit.not_endless,
    fun env _ _ _ => load_of_nodes env⟩
  have htotal := hs.total
  omega

/-- A mapping to itself. -/
lemma read_endless :
    Yaml.Document.read maxLevels "&- {a: *-}" = .ok ⟨.map [(.str "a", .null)], true⟩ := by
  cbv

theorem nodes_limited_facts :
    checkNodes 3 (.map [(.str "facts", .list [.int 1, .int 2])]) = .error (tooManyNodes 3) ∧
    checkNodes 4 (.map [(.str "facts", .list [.int 1, .int 2])]) = .ok () ∧
    Visit.From 3 (.list [.null, .bool true]) ⟨2, [.null]⟩ ∧
    (Visit.mk 2 [.null]).count ≤ countNodes (.list [.null, .bool true]) ∧
    load [] "&- {a: *-}" = .error (tooManyNodes maxNodes) := by
  have hfrom : Visit.From 3 (.list [.null, .bool true]) ⟨2, [.null]⟩ :=
    .tail (.tail .refl (.take (.refl _) (by decide) (.refl _)))
      (.take (.swap _ _ _) (by decide) (.refl _))
  obtain ⟨hthree, -, -, hload⟩ := nodes_limited 3 (.map [(.str "facts", .list [.int 1, .int 2])])
  obtain ⟨hfour, -⟩ := nodes_limited 4 (.map [(.str "facts", .list [.int 1, .int 2])])
  obtain ⟨-, hvisits, -⟩ := nodes_limited 3 (.list [.null, .bool true])
  refine ⟨hthree.trans (if_neg (by decide)), hfour.trans (if_pos (by decide)), hfrom,
    (hvisits _ hfrom).1, ?_⟩
  exact (hload [] _ _ _ rfl read_endless rfl).2 (by simp [documentNodes])

end MetricLayer.Catalog
