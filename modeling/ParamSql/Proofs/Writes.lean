import ParamSql.Proofs.Twin

namespace ParamSql

open Marked

variable {σ : Type}

namespace Scope.Clean

variable {s : Scope σ} {I : σ → Prop} (hs : s.Clean I)

include hs

theorem between (column low high : String) :
    s.platform.between column low high = column ++ " BETWEEN " ++ low ++ " AND " ++ high := by
  obtain ⟨d, hd⟩ := hs.platform
  unfold Scope.platform
  rw [hd]
  rfl

theorem negation (sql : String) : s.platform.negation sql = "NOT (" ++ sql ++ ")" := by
  obtain ⟨d, hd⟩ := hs.platform
  unfold Scope.platform
  rw [hd]
  rfl

theorem nullCheck (negated : Bool) {column : String} (h : Plain column) :
    Plain (s.nullCheck negated column) := by
  obtain ⟨d, hd⟩ := hs.platform
  unfold Scope.nullCheck Scope.platform
  rw [hd]
  cases negated <;> exact h.append (by decide)

theorem operatorSql (operator : Operator) : Plain (s.operatorSql operator) := by
  obtain ⟨d, hd⟩ := hs.platform
  unfold Scope.operatorSql Scope.platform
  rw [hd]
  cases d <;> cases operator <;> decide

end Scope.Clean

/-- A rendered condition, and the same with its values inline. -/
structure PieceShows (piece : Piece) (inlined : InlinePiece) : Prop where
  glue : piece.glue = inlined.glue
  text : Shows piece.text inlined.text
  isGroup : piece.isGroup = inlined.isGroup

namespace InlinePiece

theorem glued_shows {xs : List (Glue × String)} {ys : List (Glue × Marked)}
    (h : List.Forall₂ (fun x y => x.1 = y.1 ∧ Shows x.2 y.2) xs ys) :
    Shows (Piece.glued xs) (glued ys) := by
  induction h with
  | nil => exact ⟨rfl, List.not_mem_nil⟩
  | @cons x y _ _ hxy _ ih =>
    obtain ⟨g, text⟩ := x
    obtain ⟨_, inlined⟩ := y
    obtain ⟨rfl, htext⟩ := hxy
    have hglue : Plain g.sql := by cases g <;> decide
    exact ((((Shows.lit (by decide)).append (.lit hglue)).append (.lit (by decide))).append
      htext).append ih

theorem chain_shows {xs : List (Glue × String)} {ys : List (Glue × Marked)}
    (h : List.Forall₂ (fun x y => x.1 = y.1 ∧ Shows x.2 y.2) xs ys) :
    Shows (Piece.chain xs) (chain ys) := by
  cases h with
  | nil => exact ⟨rfl, List.not_mem_nil⟩
  | cons hxy hrest => exact hxy.2.append (glued_shows hrest)

theorem joined_shows {ps : List Piece} {ms : List InlinePiece}
    (h : List.Forall₂ PieceShows ps ms) : Shows (Piece.joined ps) (joined ms) := by
  unfold Piece.joined joined
  simp only [h.length_eq]
  apply chain_shows
  rw [List.forall₂_map_left_iff, List.forall₂_map_right_iff]
  generalize decide (ms.length ≤ 1) = alone
  induction h with
  | nil => exact .nil
  | @cons piece inlined _ _ hpiece _ ih =>
    have hempty : (piece.text != "") = !inlined.text.isEmpty := by
      rw [Bool.eq_iff_iff]
      simp [hpiece.text.isEmpty_iff]
    rw [List.filter_cons, List.filter_cons, hempty]
    split
    · refine .cons ⟨hpiece.glue, ?_⟩ ih
      unfold Piece.shown shown
      rw [hpiece.isGroup]
      split
      · exact hpiece.text.between (by decide) (by decide)
      · exact hpiece.text
    · exact ih

theorem values_chain (ys : List (Glue × Marked)) :
    (chain ys).values = ys.flatMap fun y => y.2.values := by
  have hglued : ∀ ys : List (Glue × Marked),
      (glued ys).values = ys.flatMap fun y => y.2.values := by
    intro ys
    induction ys with
    | nil => rfl
    | cons y ys ih => simp [glued, ih]
  cases ys with
  | nil => rfl
  | cons y ys => simp [chain, hglued]

theorem values_joined (ms : List InlinePiece) :
    (joined ms).values = ms.flatMap fun m => m.text.values := by
  unfold joined
  simp only
  generalize decide (ms.length ≤ 1) = alone
  rw [values_chain, List.flatMap_map]
  induction ms with
  | nil => rfl
  | cons m ms ih =>
    have hshown : (m.shown alone).values = m.text.values := by
      unfold shown
      split <;> simp
    rw [List.filter_cons]
    split
    · rw [List.flatMap_cons, List.flatMap_cons, ih, hshown]
    · rename_i hempty
      rw [List.flatMap_cons, ih]
      simp only [Bool.not_eq_true, Bool.not_eq_false', List.isEmpty_iff] at hempty
      rw [hempty, values_nil, List.nil_append]

end InlinePiece

/-- A scope of plain names in which nested queries are written as with their values inline. -/
structure Inline.Faithful (s : Inline σ) (I : σ → Prop) : Prop where
  scope : s.toScope.Clean I
  query {q : Query} (base : List Scalar) : q.Clean →
    Lockstep True (Progress.Twin I base) (s.toScope.query q) (s.query q) (Writes I base)

def Inline.spread (s : Inline σ) (subject : Subject) (operator : Operator) (token : String) :
    Value → Render σ Marked
  | .list items => s.expanded subject operator token items
  | value => s.single subject (s.operatorSql operator) value

namespace Inline.Faithful

variable {s : Inline σ} {I : σ → Prop} {base : List Scalar}

section Subject

variable (h : s.Faithful I) {subject : Subject} (hsubject : Plain subject.column)

include h hsubject

omit h in
theorem single {operator : String} (hoperator : Plain operator) (v : Value) :
    Lockstep True (Progress.Twin I base) (s.toScope.single subject operator v)
      (s.single subject operator v) (Writes I base) := by
  refine (Scope.Clean.bind _ _ _).bind fun _ x => .writes ?_ (by simp)
  have hsplit : subject.column ++ " " ++ operator ++ " ?" =
      subject.column ++ " " ++ operator ++ " " ++ "?" := by
    rw [show " ?" = " " ++ "?" from rfl, ← String.append_assoc]
  rw [hsplit]
  refine Shows.append (.lit ?_) (.one x)
  exact ((hsubject.append (by decide)).append hoperator).append (by decide)

theorem expanded (operator : Operator) (token : String) (items : List Value) :
    Lockstep True (Progress.Twin I base) (s.toScope.expanded subject operator token items)
      (s.expanded subject operator token items) (Writes I base) := by
  rw [Scope.expanded_eq, Inline.expanded]
  split
  · exact .throw fun _ => rfl
  · refine (Lockstep.mapTexts (fun v _ _ => single hsubject (h.scope.operatorSql operator) v)
      base).nextBound fun parts texts hparts => ?_
    have hsep : Plain (if operator.isNegative = true then " AND " else " OR ") := by
      split <;> decide
    have hjoin := Shows.join hsep hparts
    by_cases hmany : 1 < items.length
    · simp only [if_pos hmany]
      exact .writes (hjoin.between (by decide) (by decide)) (by simp)
    · simp only [if_neg hmany]
      exact .writes hjoin (by simp)

omit h hsubject in
theorem places {vs : List Value} {xs : List Scalar} (hlength : xs.length = vs.length) :
    Shows (",".intercalate (vs.map fun _ => "?")) (join "," (xs.map one)) := by
  apply Shows.join (by decide)
  rw [List.forall₂_map_left_iff, List.forall₂_map_right_iff]
  exact List.forall₂_iff_get.2 ⟨hlength.symm, fun _ _ _ => .one _⟩

theorem membership (negated : Bool) (items : List Value) :
    Lockstep True (Progress.Twin I base) (s.toScope.membership subject negated items)
      (s.membership subject negated items) (Writes I base) := by
  have htest := Shows.lit (h.scope.nullCheck negated hsubject)
  unfold Scope.membership Inline.membership
  simp only
  split
  · exact .writes htest (by simp)
  · apply (Scope.Clean.bindAll _ _ _ base).nextBound (V := id)
    intro _ xs hlength
    have hkeyword : Plain (if negated = true then " NOT IN (" else " IN (") := by split <;> decide
    have hglue : Plain (if negated = true then " AND " else " OR ") := by split <;> decide
    have htext := ((Shows.lit (hsubject.append hkeyword)).append (places hlength)).append
      (.lit (s := ")") (by decide))
    cases hnull : items.any Value.isNull with
    | true =>
      simp only [if_true]
      refine .writes (((htext.between (by decide) hglue).append htest).append (.lit (by decide))) ?_
      simp
    | false => exact .writes htext (by simp)

omit h hsubject in
theorem range_of_not_list {token : String} {v : Value} (hv : v.isList = false) :
    s.range subject token v = do
      let y ← s.scalarFor subject v
      return lit (subject.column ++ " BETWEEN 0 AND ") ++ one y := by
  cases v with
  | list => simp [Value.isList] at hv
  | _ => rfl

theorem range (token : String) (v : Value) :
    Lockstep True (Progress.Twin I base) (s.toScope.range subject token v)
      (s.range subject token v) (Writes I base) := by
  have hbetween : Plain (subject.column ++ " BETWEEN ") := hsubject.append (by decide)
  cases hv : v.isList with
  | false =>
    rw [Scope.range_of_not_list hv, range_of_not_list hv]
    refine (Scope.Clean.bind _ _ _).bind fun _ y => .writes ?_ (by simp)
    have hjoined : subject.column ++ " BETWEEN " ++ "0" ++ " AND " ++ "?" =
        subject.column ++ " BETWEEN 0 AND " ++ "?" := by
      simp only [String.append_assoc]
      rfl
    rw [h.scope.between, hjoined]
    exact Shows.append (.lit (hsubject.append (by decide))) (.one y)
  | true =>
    obtain ⟨vs, rfl⟩ := Value.eq_list hv
    match vs with
    | [low, high] =>
      apply (Scope.Clean.bind _ _ _).bind
      intro _ x
      refine (Scope.Clean.bind _ _ _).bind fun _ y => .writes ?_ (by simp)
      rw [h.scope.between]
      exact (((Shows.lit hbetween).append (.one x)).append (.lit (by decide))).append (.one y)
    | [] => exact .throw fun _ => rfl
    | [_] => exact .throw fun _ => rfl
    | _ :: _ :: _ :: _ => exact .throw fun _ => rfl

theorem equality (negated : Bool) (v : Value) :
    Lockstep True (Progress.Twin I base) (s.toScope.equality subject negated v)
      (s.equality subject negated v) (Writes I base) := by
  have hoperator : Plain (if negated = true then "!=" else "=") := by split <;> decide
  have hsingle : Lockstep True (Progress.Twin I base)
      (s.toScope.single subject (if negated = true then "!=" else "=") v)
      (s.single subject (if negated = true then "!=" else "=") v) (Writes I base) :=
    single hsubject hoperator v
  cases v with
  | list items => exact h.membership hsubject negated items
  | null => exact .writes (.lit (h.scope.nullCheck negated hsubject)) (by simp)
  | _ => exact hsingle

theorem plain (operator : Operator) (token : String) (v : Value) :
    Lockstep True (Progress.Twin I base) (s.toScope.plain subject operator token v)
      (s.plain subject operator token v) (Writes I base) := by
  have hexpanded (items : List Value) :
      Lockstep True (Progress.Twin I base) (s.toScope.expanded subject operator token items)
        (s.expanded subject operator token items) (Writes I base) :=
    h.expanded hsubject operator token items
  have hsingle : Lockstep True (Progress.Twin I base)
      (s.toScope.single subject (s.operatorSql operator) v)
      (s.single subject (s.operatorSql operator) v) (Writes I base) :=
    single hsubject (h.scope.operatorSql operator) v
  have hcompared : Lockstep True (Progress.Twin I base)
      (s.toScope.spread subject operator token v) (s.spread subject operator token v)
      (Writes I base) := by
    cases v with
    | list items => exact hexpanded items
    | _ => exact hsingle
  cases operator with
  | equal => exact h.equality hsubject false v
  | notEqual => exact h.equality hsubject true v
  | oneOf => exact h.membership hsubject false v.items
  | noneOf => exact h.membership hsubject true v.items
  | between => exact h.range hsubject token v
  | notBetween =>
    apply (h.range hsubject token v).nextBound
    intro sql text htext
    rw [h.scope.negation]
    exact .writes (htext.between (by decide) (by decide)) (by simp)
  | _ => exact hcompared

omit hsubject in
theorem verbatim {column : String} (hcolumn : Plain column) (operator : Operator) (token : String)
    {rhs : String} {text : Marked} (htext : Shows rhs text) {now : List Scalar}
    (hnow : now = base ++ text.values) :
    Lockstep True (Progress.Twin I now) (Render.lift (s.toScope.verbatim column operator token rhs))
      (Render.lift (s.verbatim column operator token text)) (Writes I base) := by
  have hhead : Plain (column ++ " " ++ s.operatorSql operator ++ " ") :=
    ((hcolumn.append (by decide)).append (h.scope.operatorSql operator)).append (by decide)
  have hwrites := Lockstep.writes (I := I) ((Shows.lit hhead).append htext)
    (show now = base ++ _ from hnow.trans (by simp))
  cases operator with
  | between => exact .throw fun _ => rfl
  | notBetween => exact .throw fun _ => rfl
  | _ => exact hwrites

omit hsubject in
theorem compared {c : Comparison Query} (hc : c.Clean Query.Clean) :
    Lockstep True (Progress.Twin I base) (s.toScope.compared c) (s.compared c)
      (Writes I base) := by
  obtain ⟨column, token, operand, converted⟩ := c
  obtain ⟨hcolumn, hoperand⟩ := hc
  apply (h.scope.column hcolumn).nextTwin
  intro field hfield
  refine (Progress.Twin.lift (C := fun _ => True) fun _ _ => trivial).nextTwin
    fun operator _ => ?_
  cases hoperand with
  | value v => exact h.plain hfield operator token v
  | query hq =>
    apply (h.query base hq).nextBound
    intro sql text htext
    exact h.verbatim hfield operator token (htext.between (by decide) (by decide)) (by simp)
  | fragment hf =>
    apply (h.scope.fragment hf).nextTwin
    intro sql hsql
    exact h.verbatim hfield operator token (.lit hsql) (by simp)
  | transformer _ _ => exact .throw fun _ => rfl

omit hsubject in
theorem comparison {c : Comparison Query} (hc : c.Clean Query.Clean) :
    Lockstep True (Progress.Twin I base) (s.toScope.comparison c) (s.comparison c)
      (Writes I base) :=
  (h.scope.transformed hc).nextTwin fun _ hd => h.compared hd

end Subject

theorem pieces_cons (s : Inline σ) (n : Nat) (outermost : Bool) (first : Condition Query)
    (rest : List (Condition Query)) :
    s.pieces (n + 1) outermost (first :: rest) = do
      let c ← s.resolveCondition first
      let text ← (match c with
        | .comparison _ c => s.comparison c
        | .group _ members => InlinePiece.joined <$> s.pieces n false members
        | .fragment _ f => lit <$> s.fragment f : Render σ Marked)
      let added ← Scope.takenBy outermost
      let others ← s.pieces n outermost (rest ++ added)
      return ⟨c.glue, text, Scope.isGroup c⟩ :: others := by
  rw [pieces]
  congr 1
  funext c
  cases c <;> rfl

abbrev WritesPieces (I : σ → Prop) (base : List Scalar) (ps : List Piece) (ms : List InlinePiece)
    (p q : Progress σ) : Prop :=
  List.Forall₂ PieceShows ps ms ∧
    Progress.Twin I (base ++ ms.flatMap fun m => m.text.values) p q

theorem joined {f : Render σ (List Piece)} {g : Render σ (List InlinePiece)}
    {pre : Progress σ → Progress σ → Prop} (h : Lockstep True pre f g (WritesPieces I base)) :
    Lockstep True pre (Piece.joined <$> f) (InlinePiece.joined <$> g) (Writes I base) := by
  rw [map_eq_pure_bind, map_eq_pure_bind]
  exact h.nextBound fun ps ms hpieces =>
    .writes (InlinePiece.joined_shows hpieces) (by rw [InlinePiece.values_joined])

theorem pieces (h : s.Faithful I) (n : Nat) (outermost : Bool) {cs : List (Condition Query)}
    (hcs : ∀ c ∈ cs, c.Clean Query.Clean) (base : List Scalar) :
    Lockstep True (Progress.Twin I base) (s.toScope.pieces n outermost cs)
      (s.pieces n outermost cs) (WritesPieces I base) := by
  induction n generalizing outermost cs base with
  | zero =>
    cases cs with
    | nil => exact .pure fun _ _ hpq => ⟨.nil, by rwa [List.flatMap_nil, List.append_nil]⟩
    | cons c cs => exact .throw fun _ => rfl
  | succ n ih =>
    cases cs with
    | nil => exact .pure fun _ _ hpq => ⟨.nil, by rwa [List.flatMap_nil, List.append_nil]⟩
    | cons first rest =>
      rw [List.forall_mem_cons] at hcs
      rw [Scope.pieces_cons, pieces_cons]
      apply (h.scope.resolveCondition hcs.1).nextTwin
      intro c hc
      have htext : Lockstep True (Progress.Twin I base) (s.toScope.pieceText n c)
          (match c with
            | .comparison _ c => s.comparison c
            | .group _ members => InlinePiece.joined <$> s.pieces n false members
            | .fragment _ f => lit <$> s.fragment f) (Writes I base) := by
        cases hc with
        | comparison g hc => exact h.comparison hc
        | group g hmembers => exact joined (ih false hmembers base)
        | fragment g hf => exact .litWrites (h.scope.fragment hf)
      apply htext.nextBound
      intro sql text hshows
      apply (Scope.Clean.takenBy outermost).nextTwin
      intro added hadded
      refine (ih outermost (List.forall_mem_append.2 ⟨hcs.2, hadded⟩) _).nextBound
        fun ps ms hpieces => .pure fun p q hpq => ⟨.cons ⟨rfl, hshows, rfl⟩ hpieces, ?_⟩
      rw [List.flatMap_cons, ← List.append_assoc]
      exact hpq

theorem conditions (h : s.Faithful I) {cs : List (Condition Query)}
    (hcs : ∀ c ∈ cs, c.Clean Query.Clean) :
    Lockstep True (Progress.Twin I base) (s.toScope.conditions cs) (s.conditions cs)
      (Writes I base) :=
  joined (h.pieces _ true hcs base)

theorem conditionsAfter (h : s.Faithful I) {keyword : String} (hkeyword : Plain keyword)
    {cs : List (Condition Query)} (hcs : ∀ c ∈ cs, c.Clean Query.Clean) :
    Lockstep True (Progress.Twin I base) (s.toScope.conditionsAfter keyword cs)
      (s.conditionsAfter keyword cs) (Writes I base) := by
  apply (h.conditions hcs).nextBound
  intro sql text htext
  by_cases hempty : text = []
  · rw [if_pos (htext.isEmpty_iff.2 hempty), hempty]
    exact .writes (m := []) ⟨rfl, List.not_mem_nil⟩ rfl
  · rw [if_neg (fun hsql => hempty (htext.isEmpty_iff.1 hsql)),
      if_neg (fun htrue => hempty (List.isEmpty_iff.1 htrue))]
    exact .writes ((Shows.lit hkeyword).append htext) (by simp)

end Inline.Faithful

end ParamSql
