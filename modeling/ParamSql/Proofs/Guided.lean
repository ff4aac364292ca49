import ParamSql.Compile.Mutation
import ParamSql.Proofs.Steady

namespace ParamSql

variable {σ : Type}

/-- The steps that tables are rendered by keep the relation `P` of progress. -/
structure Scope.Seated (s : Scope σ) (strict : Prop) (G : Query → Query → Prop)
    (P : Progress σ → Progress σ → Prop) : Prop where
  query {q r : Query} : G q r → Lockstep strict P (s.query q) (s.query r) (Same P)
  table {t u : TableRef Query} : TableRef.Alike G t u →
    Lockstep strict P (s.resolveTable t) (s.resolveTable u) (Ends (TableRef.Alike G) P)

/-- The steps that statements are rendered by keep the relation `P` of progress: those of
comparisons and tables, and those in which the resolver gives conditions and joins. -/
structure Scope.Guided (s : Scope σ) (strict : Prop) (W : Value → Value → Prop)
    (G : Query → Query → Prop) (P : Progress σ → Progress σ → Prop) : Prop
    extends s.Steady strict W G P, s.Seated strict G P where
  condition {c d : Condition Query} : Condition.Alike strict W G c d →
    Lockstep strict P (s.resolveCondition c) (s.resolveCondition d)
      (Ends (Condition.Alike strict W G) P)
  pending : Lockstep strict P Scope.takePending Scope.takePending
    (Ends (List.Forall₂ (Condition.Alike strict W G)) P)
  joins : Lockstep strict P s.impliedJoins s.impliedJoins
    (Ends (List.Forall₂ (Join.Alike strict W G)) P)
  projected {q r : Query} : G q r → s.projectedColumns? q = s.projectedColumns? r

section

variable {Q : Type} {strict : Prop} {W : Value → Value → Prop} {G : Q → Q → Prop}

theorem Condition.Alike.glue_eq {c d : Condition Q} (h : Condition.Alike strict W G c d) :
    c.glue = d.glue := by
  cases h <;> rfl

mutual

theorem Condition.Alike.size_eq : ∀ {c d : Condition Q}, Condition.Alike strict W G c d →
    c.size = d.size
  | _, _, .comparison _ _ => rfl
  | _, _, .group _ h => congrArg (1 + ·) (Condition.Alike.sizes_eq h)
  | _, _, .fragment _ _ => rfl

theorem Condition.Alike.sizes_eq : ∀ {cs ds : List (Condition Q)},
    List.Forall₂ (Condition.Alike strict W G) cs ds → Condition.sizes cs = Condition.sizes ds
  | _, _, .nil => rfl
  | _, _, .cons h hs => congrArg₂ (· + ·) (Condition.Alike.size_eq h) (Condition.Alike.sizes_eq hs)

end

theorem TableRef.Alike.key_eq {t u : TableRef Q} (h : TableRef.Alike G t u) : t.key? = u.key? := by
  obtain ⟨source, label⟩ := t
  obtain ⟨source', _⟩ := u
  obtain ⟨hsource, rfl⟩ := h
  cases hsource <;> rfl

end

theorem forall₂_unseen {α : Type} {R : α → α → Prop} {key? : α → Option String}
    (hkey : ∀ a b, R a b → key? a = key? b) {as bs : List α} (h : List.Forall₂ R as bs)
    (seen : List String) : List.Forall₂ R (unseen key? seen as) (unseen key? seen bs) := by
  induction h generalizing seen with
  | nil => exact .nil
  | cons hab _ ih =>
    simp only [unseen, hkey _ _ hab]
    split
    · exact .cons hab (ih _)
    · split
      · exact ih _
      · exact .cons hab (ih _)

namespace Scope

/-- The text of a condition, as a piece of its list has it. -/
def pieceText (s : Scope σ) (n : Nat) : Condition Query → Render σ String
  | .comparison _ c => s.comparison c
  | .group _ members => Piece.joined <$> s.pieces n false members
  | .fragment _ f => s.fragment f

/-- Whether a condition is a group. -/
def isGroup : Condition Query → Bool
  | .group _ _ => true
  | _ => false

/-- The conditions that a list takes over: those that wait, if it is the outermost. -/
def takenBy (outermost : Bool) : Render σ (List (Condition Query)) :=
  if outermost then takePending else pure []

theorem pieces_cons (s : Scope σ) (n : Nat) (outermost : Bool) (first : Condition Query)
    (rest : List (Condition Query)) :
    s.pieces (n + 1) outermost (first :: rest) = do
      let c ← s.resolveCondition first
      let text ← s.pieceText n c
      let added ← takenBy outermost
      let others ← s.pieces n outermost (rest ++ added)
      return ⟨c.glue, text, isGroup c⟩ :: others := by
  rw [pieces]
  congr 1
  funext c
  cases c <;> cases outermost <;> rfl

end Scope

theorem mem_of_mem_unseen {α : Type} {key? : α → Option String} {seen : List String} {as : List α}
    {a : α} (h : a ∈ unseen key? seen as) : a ∈ as := by
  induction as generalizing seen with
  | nil => exact h
  | cons first rest ih =>
    rw [unseen] at h
    split at h
    · exact List.mem_cons.2 ((List.mem_cons.1 h).imp id ih)
    · split at h
      · exact List.mem_cons_of_mem _ (ih h)
      · exact List.mem_cons.2 ((List.mem_cons.1 h).imp id ih)

namespace Scope.Seated

variable {s : Scope σ} {strict : Prop} {G : Query → Query → Prop}
  {P : Progress σ → Progress σ → Prop} (h : s.Seated strict G P)

include h

theorem source {t u : TableSource Query} (htu : TableSource.Alike G t u) :
    Lockstep strict P (s.source t) (s.source u) (Same P) := by
  cases htu with
  | name _ => exact .ends rfl
  | query hq => exact (h.query hq).nextSame fun _ => .ends rfl

theorem tableText {t u : TableRef Query} (htu : TableRef.Alike G t u) :
    Lockstep strict P (s.table t) (s.table u) (Same P) :=
  (h.table htu).next fun _ _ hab => (h.source hab.source).nextSame fun _ =>
    .ends (by rw [hab.label])

theorem tablesClause {ts us : List (TableRef Query)}
    (htus : List.Forall₂ (TableRef.Alike G) ts us) :
    Lockstep strict P (s.tablesClause ts) (s.tablesClause us) (Same P) := by
  have hempty : ts.isEmpty = us.isEmpty := forall₂_isEmpty htus
  unfold Scope.tablesClause
  rw [hempty]
  split
  · exact .ends rfl
  · refine (Lockstep.mapM (S := Eq) (forall₂_unseen (fun _ _ htu => htu.key_eq) htus _)
      fun _ _ => h.tableText).next fun xs ys hxy => ?_
    rw [List.forall₂_eq_eq_eq] at hxy
    exact .ends (by rw [hxy])

end Scope.Seated

namespace Scope.Guided

variable {s : Scope σ} {strict : Prop} {W : Value → Value → Prop} {G : Query → Query → Prop}
  {P : Progress σ → Progress σ → Prop} (h : s.Guided strict W G P)

include h

theorem pieces (n : Nat) (outermost : Bool) {cs ds : List (Condition Query)}
    (hcs : List.Forall₂ (Condition.Alike strict W G) cs ds) :
    Lockstep strict P (s.pieces n outermost cs) (s.pieces n outermost ds) (Same P) := by
  induction n generalizing outermost cs ds with
  | zero =>
    cases hcs with
    | nil => exact .ends rfl
    | cons _ _ => exact .throw fun _ => rfl
  | succ n ih =>
    cases hcs with
    | nil => exact .ends rfl
    | cons hc hrest =>
      rw [pieces_cons, pieces_cons]
      apply (h.condition hc).next
      intro c d hcd
      have htext : Lockstep strict P (s.pieceText n c) (s.pieceText n d) (Same P) := by
        cases hcd with
        | comparison g hcd => exact h.comparison hcd
        | group g hms => exact .map ((ih false hms).mono (fun _ _ => id) fun _ _ _ _ h =>
            ⟨congrArg Piece.joined h.1, h.2⟩)
        | fragment g f => exact h.fragment f
      have hadded : Lockstep strict P (takenBy outermost) (takenBy outermost)
          (Ends (List.Forall₂ (Condition.Alike strict W G)) P) := by
        cases outermost with
        | true => exact h.pending
        | false => exact .ends .nil
      have hgroup : isGroup c = isGroup d := by cases hcd <;> rfl
      refine htext.nextSame fun text => hadded.next fun as bs habs => ?_
      refine (ih outermost (List.rel_append hrest habs)).nextSame fun others => .ends ?_
      rw [hcd.glue_eq, hgroup]

theorem conditions {cs ds : List (Condition Query)}
    (hcs : List.Forall₂ (Condition.Alike strict W G) cs ds) :
    Lockstep strict P (s.conditions cs) (s.conditions ds) (Same P) := by
  unfold Scope.conditions
  rw [Condition.Alike.sizes_eq hcs]
  exact .map ((h.pieces _ true hcs).mono (fun _ _ => id) fun _ _ _ _ h =>
    ⟨congrArg Piece.joined h.1, h.2⟩)

theorem conditionsAfter (keyword : String) {cs ds : List (Condition Query)}
    (hcs : List.Forall₂ (Condition.Alike strict W G) cs ds) :
    Lockstep strict P (s.conditionsAfter keyword cs) (s.conditionsAfter keyword ds) (Same P) :=
  (h.conditions hcs).nextSame fun _ => .ends rfl

theorem aggregateColumn (distinct : Bool) (a : Aggregate) :
    Lockstep strict P (s.aggregateColumn distinct a) (s.aggregateColumn distinct a) (Same P) := by
  unfold Scope.aggregateColumn
  split
  · exact .ends rfl
  · exact (h.column _).nextSame fun _ => .ends rfl

theorem projection (p : Projection) :
    Lockstep strict P (s.projection p) (s.projection p) (Same P) := by
  obtain ⟨column, label⟩ := p
  cases column with
  | name name =>
    exact (h.column name).nextSame fun _ => .ends rfl
  | fragment f => exact (h.fragment f).nextSame fun _ => .ends rfl

theorem rootTable : Lockstep strict P s.root s.root (Same P) :=
  (h.note _).next fun _ _ _ _ _ hpq => .ok ⟨h.root hpq, hpq⟩

theorem star : Lockstep strict P s.star s.star (Same P) := by
  apply h.rootTable.nextSame
  intro table
  cases table <;> exact .ends rfl

theorem columnsClause {c d : Select Query} (hcd : Select.Alike strict W G c d) :
    Lockstep strict P (s.columnsClause c) (s.columnsClause d) (Same P) := by
  unfold Scope.columnsClause
  rw [hcd.columns, hcd.aggregate, hcd.distinct]
  cases d.aggregate with
  | some a => exact (h.aggregateColumn _ a).nextSame fun _ => .ends rfl
  | none =>
    simp only
    split
    · exact h.star.nextSame fun _ => .ends rfl
    · have hparts := Lockstep.mapSame h.projection d.columns
      exact Lockstep.nextSame (.map (hparts.mono (fun _ _ => id)
        fun _ _ _ _ hxy => ⟨congrArg _ hxy.1, hxy.2⟩)) fun _ => .ends rfl

theorem join {j k : Join Query} (hjk : Join.Alike strict W G j k) :
    Lockstep strict P (s.join j) (s.join k) (Same P) :=
  (h.toSeated.tableText hjk.table).nextSame fun _ => (h.conditionsAfter _ hjk.on).nextSame fun _ =>
    .ends (by rw [hjk.kind])

theorem joinsClause {c d : Select Query} (hcd : Select.Alike strict W G c d) :
    Lockstep strict P (s.joinsClause c) (s.joinsClause d) (Same P) := by
  apply h.joins.next
  intro js ks hjks
  have hseen : c.tables.filterMap TableRef.key? = d.tables.filterMap TableRef.key? := by
    have htables := hcd.tables
    revert htables
    generalize c.tables = ts, d.tables = us
    intro htus
    induction htus with
    | nil => rfl
    | cons htu _ ih => rw [List.filterMap_cons, List.filterMap_cons, htu.key_eq, ih]
  simp only [hseen]
  refine (Lockstep.mapM (S := Eq) (forall₂_unseen (fun _ _ hjk => hjk.table.key_eq)
    (List.rel_append hcd.joins hjks) _) fun _ _ => h.join).next fun xs ys hxy => ?_
  rw [List.forall₂_eq_eq_eq] at hxy
  exact .ends (by rw [hxy])

theorem groupsClause (groups : List String) :
    Lockstep strict P (s.groupsClause groups) (s.groupsClause groups) (Same P) := by
  unfold Scope.groupsClause
  split
  · exact .ends rfl
  · exact (Lockstep.mapSame h.column _).nextSame fun _ => .ends rfl

theorem order (o : Order) : Lockstep strict P (s.order o) (s.order o) (Same P) :=
  (h.column _).nextSame fun _ => .ends rfl

theorem ordersClause (orders : List Order) :
    Lockstep strict P (s.ordersClause orders) (s.ordersClause orders) (Same P) := by
  unfold Scope.ordersClause
  split
  · exact .ends rfl
  · exact (Lockstep.mapSame h.order _).nextSame fun _ => .ends rfl

theorem target (kind : StatementKind) {t u : Option (TableRef Query)}
    (htu : Option.Rel (TableRef.Alike G) t u) :
    Lockstep strict P (s.target kind t) (s.target kind u) (Same P) := by
  cases htu with
  | none => exact .throw fun _ => rfl
  | some htu =>
    apply (h.table htu).next
    intro a b hab
    obtain ⟨source, label⟩ := a
    obtain ⟨source', label'⟩ := b
    cases hab.source with
    | name name =>
      simp only
      split
      · exact .throw fun _ => rfl
      · exact .ends rfl
    | query _ => exact .throw fun _ => rfl

theorem assigned (type : Option TypeName) (converted : Bool) {o p : Operand Query}
    (hop : Operand.Settled strict W G o p) :
    Lockstep strict P (s.assigned type converted o) (s.assigned type converted p) (Same P) := by
  cases hop with
  | value hv => exact (h.bind _ _ hv.whole).next fun _ _ _ => .ends rfl
  | query hq => exact (h.query hq).nextSame fun _ => .ends rfl
  | fragment f => exact h.fragment f
  | transformer _ => exact .throw fun _ => rfl

theorem assignment {a b : Assignment Query} (hab : Assignment.Alike strict W G a b) :
    Lockstep strict P (s.assignment a) (s.assignment b) (Same P) := by
  obtain ⟨column, operand, type⟩ := a
  obtain ⟨_, operand', _⟩ := b
  obtain ⟨rfl, hoperand, rfl⟩ := hab
  apply (h.field column type).nextSame
  intro field
  cases hoperand with
  | value hv => exact (h.assigned _ _ (.value hv)).nextSame fun _ => .ends rfl
  | query hq => exact (h.assigned _ _ (.query hq)).nextSame fun _ => .ends rfl
  | fragment f => exact (h.assigned _ _ (.fragment f)).nextSame fun _ => .ends rfl
  | transformer hf =>
    exact (h.ask _ (hf column "=" s.platform)).next fun t u htu =>
      (h.assigned _ _ htu.operand).nextSame fun _ => .ends rfl

theorem insertRows {a b : InsertSource Query} (hab : InsertSource.Alike strict W G a b) :
    Lockstep strict P (s.insertRows a) (s.insertRows b) (Same P) := by
  cases hab with
  | @assignments as bs hassigned =>
    have hempty : as.isEmpty = bs.isEmpty := forall₂_isEmpty hassigned
    simp only [Scope.insertRows, hempty]
    split
    · exact .ends rfl
    · apply (Lockstep.mapM (S := Eq) hassigned fun _ _ => h.assignment).next
      intro xs ys hxy
      rw [List.forall₂_eq_eq_eq] at hxy
      exact .ends (by rw [hxy])
  | query hq => exact (h.query hq).nextSame fun _ => .ends (by rw [h.projected hq])

theorem insert {a b : Insert Query} (hab : Insert.Alike strict W G a b) :
    Lockstep strict P (s.insert a) (s.insert b) (Same P) :=
  (h.target _ hab.table).nextSame fun _ => (h.insertRows hab.source).nextSame fun _ =>
    .ends (by simp only [Scope.insertVerb, hab.ignore, hab.replace])

theorem update {a b : Update Query} (hab : Update.Alike strict W G a b) :
    Lockstep strict P (s.update a) (s.update b) (Same P) := by
  apply (h.target _ hab.table).nextSame
  intro table
  have hempty : a.assignments.isEmpty = b.assignments.isEmpty :=
    forall₂_isEmpty hab.assignments
  simp only [hempty]
  split
  · exact .throw fun _ => rfl
  · apply (Lockstep.mapM (S := Eq) hab.assignments fun _ _ => h.assignment).next
    intro xs ys hxy
    rw [List.forall₂_eq_eq_eq] at hxy
    exact (h.conditionsAfter _ hab.filters).nextSame fun _ => .ends (by rw [hxy])

theorem delete {a b : Delete Query} (hab : Delete.Alike strict W G a b) :
    Lockstep strict P (s.delete a) (s.delete b) (Same P) :=
  (h.target _ hab.table).nextSame fun _ => (h.conditionsAfter _ hab.filters).nextSame fun _ =>
    .ends rfl

end Scope.Guided

end ParamSql
