import MetricLayer.Proofs.Yaml.Anchors
import MetricLayer.Yaml.Node

/-!
# The anchors of a reading

A reader only looks at tokens and takes them. So the anchors that it notes on its way to the root
of a document are anchors it has met.
-/
namespace MetricLayer.Yaml

variable {text : List Char}

/-! ### Looking twice -/

namespace Layout

variable {l l' : Layout} {t : Token}

lemma dropStaleKeys_ok (h : l.dropStaleKeys = .ok l') :
    l'.waiting = l.waiting ∧ l'.done = l.done ∧ l'.dropStaleKeys = .ok l' := by
  unfold dropStaleKeys at h
  split at h
  · rename_i hfresh
    cases h
    exact ⟨rfl, rfl, if_pos hfresh⟩
  · split at h <;> cases h
    refine ⟨rfl, rfl, if_pos ?_⟩
    simp

/-- Where the first token is settled, no more tokens are found. -/
lemma settle_of_settled {fuel : Nat} (h : settle fuel l = .ok l') (n : Nat) :
    settle (n + 1) l' = .ok l' := by
  induction fuel generalizing l with
  | zero => cases h
  | succ fuel ih =>
    unfold settle at h
    split at h
    · rename_i hdone
      cases h
      rw [settle, if_pos hdone]
    · rename_i hgoes
      split at h
      · split at h
        · exact ih h
        · cases h
      · rename_i hwaiting
        split at h
        · cases h
        · rename_i l₁ hdrop
          split at h
          · split at h
            · exact ih h
            · cases h
          · rename_i hsettled
            cases h
            -- The keys that are left are fresh, so they are dropped once only.
            obtain ⟨hsame, hdone, hagain⟩ := dropStaleKeys_ok hdrop
            rw [settle, if_neg (by rwa [hdone]), if_neg (by rwa [hsame]), hagain]
            exact if_neg hsettled

/-- To look at the next token again changes nothing. -/
lemma peek_again (h : l.peek = .ok (t, l')) : l'.peek = .ok (t, l') := by
  unfold peek at h ⊢
  obtain ⟨l₁, hsettle, h⟩ := bind_eq_ok h
  obtain rfl : l₁ = l' := by split at h <;> cases h <;> rfl
  rw [settle_of_settled hsettle (l₁.size + 1)]
  exact h

/-- A layout stands between two tokens of a text: the anchors among its tokens are met there. -/
def IsBetween (text : List Char) (l : Layout) : Prop :=
  ∀ n name, Mark.anchor name ∈ l.marks n → MeetsAnchor text name

lemma isBetween_start (text : List Char) : (start text).IsBetween text :=
  fun n _ hmem => ⟨n, hmem⟩

lemma IsBetween.peek (h : l.IsBetween text) (hpeek : l.peek = .ok (t, l')) :
    l'.IsBetween text := by
  intro n name hmem
  cases n with
  | zero => cases hmem
  | succ n =>
    refine h (n + 1) name ?_
    rw [marks, peek_again hpeek] at hmem
    rwa [marks, hpeek]

lemma IsBetween.mark (h : l.IsBetween text) (hpeek : l.peek = .ok (t, l')) {name : String}
    (hname : t.mark = .anchor name) : MeetsAnchor text name := by
  refine h 1 name ?_
  rw [marks, hpeek, ← hname]
  exact List.mem_cons_self

lemma IsBetween.drop (h : l.IsBetween text) (hpeek : l.peek = .ok (t, l')) :
    l'.drop.IsBetween text := by
  intro n name hmem
  refine h (n + 1) name ?_
  rw [marks, hpeek]
  exact List.mem_cons_of_mem _ hmem

end Layout

/-! ### Steps of a reading -/

/-- A reading of a text so far: the anchors that it has noted are ones it has met. -/
structure Reading.Met (text : List Char) (r : Reading) : Prop where
  layout : r.layout.IsBetween text
  anchors : ∀ a ∈ r.anchors, MeetsAnchor text a.name

/-- A reading that has looked at the next token. -/
structure Reading.Looked (text : List Char) (r : Reading) : Prop extends r.Met text where
  token : ∃ t, r.layout.peek = .ok (t, r.layout)

/-- A step of a reading notes only anchors it has met, and what it gives is in `Q`. -/
def ReadM.Meets {α : Type} (text : List Char) (m : ReadM α) (Q : α → Prop := fun _ => True) :
    Prop :=
  ∀ r a r', r.Met text → m r = .ok (a, r') → r'.Met text ∧ Q a

/-- The same for a step behind a look at the next token. -/
def ReadM.MeetsNext {α : Type} (text : List Char) (m : ReadM α) (Q : α → Prop := fun _ => True) :
    Prop :=
  ∀ r a r', r.Looked text → m r = .ok (a, r') → r'.Met text ∧ Q a

namespace ReadM

variable {α β : Type} {m : ReadM α} {f : α → ReadM β} {Q : α → Prop} {R : β → Prop}

lemma Meets.pure {a : α} (h : Q a) : (Pure.pure a : ReadM α).Meets text Q := by
  intro r b r' hr hrun
  cases hrun
  exact ⟨hr, h⟩

lemma Meets.bind (h : m.Meets text Q) (hf : ∀ a, Q a → (f a).Meets text R) :
    (m >>= f).Meets text R := by
  intro r b r' hr hrun
  obtain ⟨⟨a, r₁⟩, hm, hrun⟩ := bind_eq_ok hrun
  obtain ⟨hr₁, ha⟩ := h r a r₁ hr hm
  exact hf a ha r₁ b r' hr₁ hrun

lemma Meets.next (h : m.Meets text Q) : m.MeetsNext text Q :=
  fun r a r' hr => h r a r' hr.toMet

lemma MeetsNext.pure {a : α} (h : Q a) : (Pure.pure a : ReadM α).MeetsNext text Q :=
  (Meets.pure h).next

lemma MeetsNext.bind (h : m.MeetsNext text Q) (hf : ∀ a, Q a → (f a).Meets text R) :
    (m >>= f).MeetsNext text R := by
  intro r b r' hr hrun
  obtain ⟨⟨a, r₁⟩, hm, hrun⟩ := bind_eq_ok hrun
  obtain ⟨hr₁, ha⟩ := h r a r₁ hr hm
  exact hf a ha r₁ b r' hr₁ hrun

lemma meets_malformed : (malformed : ReadM α).Meets text Q := by
  intro r a r' _ hrun
  cases hrun

lemma meets_throw {e : Flaw} : (throw e : ReadM α).Meets text Q := by
  intro r a r' _ hrun
  cases hrun

lemma meets_mapM {o : Option α} (h : ∀ a, o = some a → (f a).Meets text) :
    (o.mapM f).Meets text := by
  cases o with
  | none => exact .pure trivial
  | some a => exact (h a rfl).bind fun _ _ => .pure trivial

/-- What is known is looked at. -/
lemma meets_get : (get : ReadM Reading).Meets text := by
  intro r a r' hr hrun
  cases hrun
  exact ⟨hr, trivial⟩

lemma next_get {g : Reading → ReadM β} (h : ∀ r, (g r).MeetsNext text R) :
    (get >>= g).MeetsNext text R :=
  fun r b r' hr hrun => h r r b r' hr hrun

lemma meets_modify {g : Reading → Reading} (hg : ∀ r : Reading, r.Met text → (g r).Met text) :
    (modify g : ReadM Unit).Meets text := by
  intro r a r' hr hrun
  cases hrun
  exact ⟨hg r hr, trivial⟩

/-- The next token is looked at; an anchor is met by that. -/
lemma meets_look {f : Token → ReadM β}
    (hf : ∀ t, (∀ name, t.mark = .anchor name → MeetsAnchor text name) →
      (f t).MeetsNext text R) : (peek >>= f).Meets text R := by
  intro r b r' hr hrun
  obtain ⟨⟨t, r₁⟩, hpeek, hrun⟩ := bind_eq_ok hrun
  unfold peek at hpeek
  split at hpeek <;> cases hpeek
  rename_i layout hlook
  have hlooked : Reading.Looked text { r with layout } :=
    { layout := hr.layout.peek hlook, anchors := hr.anchors, token := ⟨t, Layout.peek_again hlook⟩ }
  exact hf t (fun name => hr.layout.mark hlook) _ b r' hlooked hrun

lemma meets_lookMark {f : Mark → ReadM β}
    (hf : ∀ m, (∀ name, m = .anchor name → MeetsAnchor text name) → (f m).MeetsNext text R) :
    (peekMark >>= f).Meets text R := by
  unfold peekMark
  rw [bind_assoc]
  exact meets_look fun t ht => hf t.mark ht

/-- The token that was looked at is taken. -/
lemma meets_drop : drop.MeetsNext text := by
  intro r u r' hr hrun
  cases hrun
  obtain ⟨t, htoken⟩ := hr.token
  exact ⟨⟨hr.layout.drop htoken, hr.anchors⟩, trivial⟩

lemma meets_isOlder : isOlder.Meets text :=
  meets_get.bind fun _ _ => .pure trivial

lemma meets_expect (m : Mark) : (expect m).Meets text := by
  refine meets_lookMark fun m' _ => ?_
  split
  · exact meets_drop
  · exact meets_malformed.next

lemma meets_aliased (name : String) : (aliased name).Meets text := by
  refine meets_get.bind fun r _ => ?_
  split
  · exact meets_malformed
  · exact .pure trivial

/-- An anchor that was met is noted. -/
lemma meets_openAnchor {name : String} (h : MeetsAnchor text name) :
    (openAnchor name).Meets text := by
  refine meets_get.bind fun r _ => ?_
  dsimp only
  refine .bind (Q := fun _ => True) (meets_modify fun r' hr => ⟨hr.layout, fun a ha => ?_⟩)
    fun _ _ => .pure trivial
  rcases List.mem_cons.mp ha with rfl | ha
  · exact h
  · exact hr.anchors a ha

lemma meets_closeAnchor (number : Nat) (n : Node) : (closeAnchor number n).Meets text := by
  refine meets_modify fun r hr => ⟨hr.layout, fun a ha => ?_⟩
  obtain ⟨b, hb, rfl⟩ := List.mem_map.mp ha
  have hname : (if b.number == number then { b with node := some n } else b).name = b.name := by
    split <;> rfl
  rw [hname]
  exact hr.anchors b hb

lemma meets_tagName (t : WrittenTag) : (tagName t).Meets text := by
  unfold tagName
  split
  · exact .pure trivial
  · refine meets_get.bind fun r _ => ?_
    split
    · exact .pure trivial
    · exact meets_malformed

lemma meets_plainTag (s : String) : (plainTag s).Meets text := by
  refine meets_get.bind fun r _ => ?_
  dsimp only
  split
  · exact .pure trivial
  · split
    · exact .pure trivial
    · exact meets_throw

lemma meets_tagOr {p : Properties} {implied : ReadM Tag} (h : implied.Meets text) :
    (p.tagOr implied).Meets text := by
  unfold Properties.tagOr
  split
  · exact h
  · split
    · exact h
    · exact .pure trivial

lemma meets_scalarTag (p : Properties) (s : String) (plain : Bool) :
    (scalarTag p s plain).Meets text := by
  unfold scalarTag
  split
  · exact meets_tagOr (meets_plainTag s)
  · exact .pure trivial

lemma meets_emptyNode (levels : Nat) : (emptyNode levels).Meets text := by
  unfold emptyNode
  split
  · exact meets_malformed
  · exact (meets_plainTag "").bind fun _ _ => .pure trivial

lemma meets_readAnchor :
    readAnchor.Meets text fun anchor => ∀ name, anchor = some name → MeetsAnchor text name := by
  refine meets_lookMark fun m hm => ?_
  split
  · rename_i name
    refine meets_drop.bind fun _ _ => .pure fun found hfound => ?_
    obtain rfl := Option.some.inj hfound
    exact hm _ rfl
  · exact .pure fun _ hfound => by cases hfound

lemma meets_readTagName : readTagName.Meets text := by
  refine meets_lookMark fun m _ => ?_
  split
  · exact meets_drop.bind fun _ _ => .pure trivial
  · exact .pure trivial

lemma meets_readProperties :
    readProperties.Meets text fun p => ∀ name, p.anchor = some name → MeetsAnchor text name := by
  refine meets_readAnchor.bind fun first hfirst => meets_readTagName.bind fun tag _ => ?_
  have hlast : ∀ anchor : Option String, (∀ name, anchor = some name → MeetsAnchor text name) →
      (do return { anchor, tag := ← tag.mapM tagName } : ReadM Properties).Meets text
        fun p => ∀ name, p.anchor = some name → MeetsAnchor text name :=
    fun anchor hanchor => (meets_mapM fun t _ => meets_tagName t).bind fun _ _ => .pure hanchor
  dsimp only
  split
  · exact meets_readAnchor.bind hlast
  · exact hlast first hfirst

end ReadM

open ReadM

/-! ### Nodes -/

/-- The readers of nodes with a given fuel note only anchors they have met. -/
structure Reads (text : List Char) (fuel : Nat) : Prop where
  node (block indentless : Bool) (levels : Nat) :
    (readNode block indentless fuel levels).Meets text
  content (block indentless : Bool) (p : Properties) (levels : Nat) :
    (readContent block indentless p fuel levels).Meets text
  blockItems (indentless : Bool) (acc : List Node) (levels : Nat) :
    (readBlockItems indentless acc fuel levels).Meets text
  blockPart (levels : Nat) : (readBlockPart fuel levels).Meets text
  blockValue (levels : Nat) : (readBlockValue fuel levels).Meets text
  blockEntries (acc : List (Node × Node)) (levels : Nat) :
    (readBlockEntries acc fuel levels).Meets text
  flowPart (close : Mark) (isKey : Bool) (levels : Nat) :
    (readFlowPart close isKey fuel levels).Meets text
  flowValue (close : Mark) (levels : Nat) : (readFlowValue close fuel levels).Meets text
  flowItems (first : Bool) (acc : List Node) (levels : Nat) :
    (readFlowItems first acc fuel levels).Meets text
  flowEntries (first : Bool) (acc : List (Node × Node)) (levels : Nat) :
    (readFlowEntries first acc fuel levels).Meets text

variable {text : List Char} {fuel : Nat}

lemma Reads.zero (text : List Char) : Reads text 0 where
  node _ _ _ := meets_malformed
  content _ _ _ _ := meets_malformed
  blockItems _ _ _ := meets_malformed
  blockPart _ := meets_malformed
  blockValue _ := meets_malformed
  blockEntries _ _ := meets_malformed
  flowPart _ _ _ := meets_malformed
  flowValue _ _ := meets_malformed
  flowItems _ _ _ := meets_malformed
  flowEntries _ _ _ := meets_malformed

namespace Reads

lemma readNode (h : Reads text fuel) (block indentless : Bool) (levels : Nat) :
    (readNode block indentless (fuel + 1) levels).Meets text := by
  unfold Yaml.readNode
  refine meets_lookMark fun m _ => ?_
  split
  · exact meets_drop.bind fun _ _ => meets_aliased _
  · refine Meets.next (meets_readProperties.bind fun p hp => ?_)
    split
    · exact meets_malformed
    · refine (meets_mapM fun name hname => meets_openAnchor (hp name hname)).bind fun number _ => ?_
      refine (h.content block indentless p (levels - 1)).bind fun n _ => ?_
      split
      · exact (meets_closeAnchor _ n).bind fun _ _ => .pure trivial
      · exact .pure trivial

lemma readContent (h : Reads text fuel) (block indentless : Bool) (p : Properties) (levels : Nat) :
    (readContent block indentless p (fuel + 1) levels).Meets text := by
  unfold Yaml.readContent
  have hitems : ∀ indentless, (do
      return .sequence (← p.tagOr (pure .sequence)) (← readBlockItems indentless [] fuel levels) :
        ReadM Node).Meets text := fun indentless =>
    (meets_tagOr (.pure trivial)).bind fun _ _ => (h.blockItems indentless [] levels).bind
      fun _ _ => .pure trivial
  refine meets_lookMark fun m _ => ?_
  split
  · exact meets_drop.bind fun _ _ => (meets_scalarTag p _ _).bind fun _ _ => .pure trivial
  · exact meets_drop.bind fun _ _ => (meets_tagOr (.pure trivial)).bind fun _ _ =>
      (h.flowItems true [] levels).bind fun _ _ => .pure trivial
  · exact meets_drop.bind fun _ _ => (meets_tagOr (.pure trivial)).bind fun _ _ =>
      (h.flowEntries true [] levels).bind fun _ _ => .pure trivial
  · split
    · exact (hitems true).next
    · split
      · exact meets_drop.bind fun _ _ => hitems false
      · split
        · exact meets_drop.bind fun _ _ => (meets_tagOr (.pure trivial)).bind fun _ _ =>
            (h.blockEntries [] levels).bind fun _ _ => .pure trivial
        · split
          · exact meets_malformed.next
          · exact Meets.next ((meets_tagOr (meets_plainTag "")).bind fun _ _ => .pure trivial)

lemma readBlockItems (h : Reads text fuel) (indentless : Bool) (acc : List Node) (levels : Nat) :
    (readBlockItems indentless acc (fuel + 1) levels).Meets text := by
  unfold Yaml.readBlockItems
  refine meets_lookMark fun m _ => ?_
  split
  · refine meets_drop.bind fun _ _ => meets_lookMark fun m' _ => ?_
    split
    · exact ((meets_emptyNode levels).bind fun _ _ => h.blockItems indentless _ levels).next
    · exact ((h.node true false levels).bind fun _ _ => h.blockItems indentless _ levels).next
  · split
    · exact .pure trivial
    · exact meets_drop.bind fun _ _ => .pure trivial
  · split
    · exact .pure trivial
    · exact meets_malformed.next

lemma readBlockPart (h : Reads text fuel) (levels : Nat) :
    (readBlockPart (fuel + 1) levels).Meets text := by
  unfold Yaml.readBlockPart
  refine meets_lookMark fun m _ => ?_
  split
  · exact (meets_emptyNode levels).next
  · exact (h.node true true levels).next

lemma readBlockValue (h : Reads text fuel) (levels : Nat) :
    (readBlockValue (fuel + 1) levels).Meets text := by
  unfold Yaml.readBlockValue
  refine meets_lookMark fun m _ => ?_
  split
  · exact meets_drop.bind fun _ _ => h.blockPart levels
  · exact (meets_emptyNode levels).next

lemma readBlockEntries (h : Reads text fuel) (acc : List (Node × Node)) (levels : Nat) :
    (readBlockEntries acc (fuel + 1) levels).Meets text := by
  unfold Yaml.readBlockEntries
  refine meets_lookMark fun m _ => ?_
  split
  · exact meets_drop.bind fun _ _ => (h.blockPart levels).bind fun _ _ =>
      (h.blockValue levels).bind fun _ _ => h.blockEntries _ levels
  · refine Meets.next (meets_isOlder.bind fun older _ => ?_)
    split
    · exact meets_malformed
    · exact (meets_emptyNode levels).bind fun _ _ =>
        (h.blockValue levels).bind fun _ _ => h.blockEntries _ levels
  · exact meets_drop.bind fun _ _ => .pure trivial
  · exact meets_malformed.next

lemma readFlowPart (h : Reads text fuel) (close : Mark) (isKey : Bool) (levels : Nat) :
    (readFlowPart close isKey (fuel + 1) levels).Meets text := by
  unfold Yaml.readFlowPart
  refine meets_lookMark fun m _ => ?_
  split
  · exact (meets_emptyNode levels).next
  · exact (h.node false false levels).next

lemma readFlowValue (h : Reads text fuel) (close : Mark) (levels : Nat) :
    (readFlowValue close (fuel + 1) levels).Meets text := by
  unfold Yaml.readFlowValue
  refine meets_lookMark fun m _ => ?_
  split
  · exact meets_drop.bind fun _ _ => h.flowPart close false levels
  · exact (meets_emptyNode levels).next

lemma readFlowItems (h : Reads text fuel) (first : Bool) (acc : List Node) (levels : Nat) :
    (readFlowItems first acc (fuel + 1) levels).Meets text := by
  unfold Yaml.readFlowItems
  refine meets_lookMark fun m _ => ?_
  split
  · exact meets_drop.bind fun _ _ => .pure trivial
  · extract_lets item
    have hitem : ∀ u, (item u).Meets text := by
      intro u
      refine meets_lookMark fun m' _ => ?_
      split
      · split
        · exact meets_malformed.next
        · exact meets_drop.bind fun _ _ => (h.flowPart .flowSequenceEnd true _).bind fun _ _ =>
            (h.flowValue .flowSequenceEnd _).bind fun _ _ => h.flowItems false _ levels
      · exact meets_drop.bind fun _ _ => .pure trivial
      · exact ((h.node false false levels).bind fun _ _ => h.flowItems false _ levels).next
    split
    · exact ((meets_expect .flowEntry).bind fun u _ => hitem u).next
    · exact (hitem ()).next

lemma readFlowEntries (h : Reads text fuel) (first : Bool) (acc : List (Node × Node))
    (levels : Nat) : (readFlowEntries first acc (fuel + 1) levels).Meets text := by
  unfold Yaml.readFlowEntries
  refine meets_lookMark fun m _ => ?_
  split
  · exact meets_drop.bind fun _ _ => .pure trivial
  · extract_lets entry
    have hentry : ∀ u, (entry u).Meets text := by
      intro u
      refine meets_lookMark fun m' _ => ?_
      split
      · exact meets_drop.bind fun _ _ => (h.flowPart .flowMappingEnd true levels).bind fun _ _ =>
          (h.flowValue .flowMappingEnd levels).bind fun _ _ => h.flowEntries false _ levels
      · refine Meets.next (meets_isOlder.bind fun older _ => ?_)
        split
        · exact meets_malformed
        · exact (meets_emptyNode levels).bind fun _ _ =>
            (h.flowValue .flowMappingEnd levels).bind fun _ _ => h.flowEntries false _ levels
      · exact meets_drop.bind fun _ _ => .pure trivial
      · exact Meets.next ((h.node false false levels).bind fun _ _ =>
          (meets_emptyNode levels).bind fun _ _ => h.flowEntries false _ levels)
    split
    · exact ((meets_expect .flowEntry).bind fun u _ => hentry u).next
    · exact (hentry ()).next

lemma succ (h : Reads text fuel) : Reads text (fuel + 1) where
  node := h.readNode
  content := h.readContent
  blockItems := h.readBlockItems
  blockPart := h.readBlockPart
  blockValue := h.readBlockValue
  blockEntries := h.readBlockEntries
  flowPart := h.readFlowPart
  flowValue := h.readFlowValue
  flowItems := h.readFlowItems
  flowEntries := h.readFlowEntries

/-- Each reader of a node calls the others with less fuel. -/
lemma all (text : List Char) (fuel : Nat) : Reads text fuel := by
  induction fuel with
  | zero => exact .zero text
  | succ fuel ih => exact ih.succ

end Reads

/-! ### Documents -/

lemma meets_readDirectives (versioned : Bool) (fuel : Nat) :
    (readDirectives versioned fuel).Meets text := by
  induction fuel generalizing versioned with
  | zero => exact meets_malformed
  | succ fuel ih =>
    unfold readDirectives
    refine meets_lookMark fun m _ => ?_
    split
    · split
      · exact meets_malformed.next
      · exact meets_drop.bind fun _ _ => ih true
    · refine next_get fun r => ?_
      split
      · exact meets_malformed.next
      · exact meets_drop.bind fun _ _ => .bind (Q := fun _ => True)
          (meets_modify fun r' hr => ⟨hr.layout, hr.anchors⟩) fun _ _ => ih versioned
    · exact meets_drop.bind fun _ _ => ih versioned
    · exact .pure trivial

lemma meets_dropDocumentEnds (fuel : Nat) : (dropDocumentEnds fuel).Meets text := by
  induction fuel with
  | zero => exact meets_malformed
  | succ fuel ih =>
    unfold dropDocumentEnds
    refine meets_lookMark fun m _ => ?_
    split
    · exact meets_drop.bind fun _ _ => ih
    · exact .pure trivial

lemma meets_readEnd (fuel : Nat) : (readEnd fuel).Meets text := by
  unfold readEnd
  refine meets_look fun t _ => ?_
  extract_lets finish
  have hfinish : ∀ u, (finish u).Meets text := fun u => meets_expect .streamEnd
  split
  · refine meets_drop.bind fun _ _ => meets_look fun after _ => ?_
    split
    · exact Meets.next (.bind (Q := fun _ => True) meets_malformed fun u _ => hfinish u)
    · refine Meets.next (meets_isOlder.bind fun older _ => ?_)
      split
      · exact (meets_dropDocumentEnds fuel).bind fun u _ => hfinish u
      · exact hfinish ()
  · exact (hfinish ()).next

lemma meets_readRoot (maxLevels fuel : Nat) : (readRoot maxLevels fuel).Meets text := by
  unfold readRoot
  have hnode := (Reads.all text fuel).node true false maxLevels
  have hend : ∀ n : Node, (do readEnd fuel; return some n : ReadM (Option Node)).Meets text :=
    fun n => (meets_readEnd fuel).bind fun _ _ => .pure trivial
  refine meets_lookMark fun m _ => ?_
  split
  · exact .pure trivial
  case h_2 | h_3 =>
    refine Meets.next ((meets_readDirectives false fuel).bind fun _ _ =>
      (meets_expect .documentStart).bind fun _ _ => meets_lookMark fun m' _ => ?_)
    dsimp only
    split
    case h_5 => exact (hnode.bind fun n _ => hend n).next
    all_goals exact ((meets_emptyNode maxLevels).bind fun n _ => hend n).next
  · exact (hnode.bind fun n _ => hend n).next

/-- Every anchor that is noted when the root of a text is read was met in the text. -/
theorem met_of_readRoot {maxLevels fuel : Nat} {root : Option Node} {r : Reading}
    (h : readRoot maxLevels fuel { layout := .start text } = .ok (root, r)) :
    ∀ a ∈ r.anchors, MeetsAnchor text a.name :=
  (meets_readRoot maxLevels fuel _ _ _ ⟨Layout.isBetween_start text, fun _ ha => by cases ha⟩
    h).1.anchors

end MetricLayer.Yaml
