import ParamSql.Proofs.Fill
import ParamSql.Statement.Like

namespace ParamSql

section Mono

variable {Q : Type} {strict : Prop} {W : Value → Value → Prop} {G G' : Q → Q → Prop}

theorem Operand.Settled.mono (h : ∀ q r, G q r → G' q r) {o p : Operand Q}
    (ho : Operand.Settled strict W G o p) : Operand.Settled strict W G' o p := by
  cases ho with
  | value hv => exact .value hv
  | query hq => exact .query (h _ _ hq)
  | fragment f => exact .fragment f
  | transformer hf => exact .transformer hf

theorem Operand.Alike.mono (h : ∀ q r, G q r → G' q r) {o p : Operand Q}
    (ho : Operand.Alike strict W G o p) : Operand.Alike strict W G' o p := by
  cases ho with
  | value hv => exact .value hv
  | query hq => exact .query (h _ _ hq)
  | fragment f => exact .fragment f
  | transformer hf =>
    refine .transformer fun column operator platform => ?_
    exact (hf column operator platform).mono fun _ _ ht =>
      ⟨ht.column, ht.operator, ht.operand.mono h⟩

mutual

theorem Condition.Alike.mono (h : ∀ q r, G q r → G' q r) : ∀ {c d : Condition Q},
    Condition.Alike strict W G c d → Condition.Alike strict W G' c d
  | _, _, .comparison g hc =>
    .comparison g ⟨hc.column, hc.operator, hc.operand.mono h, hc.converted⟩
  | _, _, .group g hcs => .group g (Condition.Alike.monos h hcs)
  | _, _, .fragment g f => .fragment g f

theorem Condition.Alike.monos (h : ∀ q r, G q r → G' q r) : ∀ {cs ds : List (Condition Q)},
    List.Forall₂ (Condition.Alike strict W G) cs ds →
      List.Forall₂ (Condition.Alike strict W G') cs ds
  | _, _, .nil => .nil
  | _, _, .cons hc hcs => .cons (Condition.Alike.mono h hc) (Condition.Alike.monos h hcs)

end

variable (h : ∀ q r, G q r → G' q r)

include h

theorem TableRef.Alike.mono {t u : TableRef Q} (htu : TableRef.Alike G t u) :
    TableRef.Alike G' t u := by
  obtain ⟨source, label⟩ := t
  obtain ⟨source', label'⟩ := u
  obtain ⟨hsource, hlabel⟩ := htu
  refine ⟨?_, hlabel⟩
  cases hsource with
  | name s => exact .name s
  | query hq => exact .query (h _ _ hq)

theorem Join.Alike.mono {j k : Join Q} (hjk : Join.Alike strict W G j k) :
    Join.Alike strict W G' j k :=
  ⟨hjk.kind, hjk.table.mono h, Condition.Alike.monos h hjk.on⟩

theorem Select.Alike.mono {s t : Select Q} (hst : Select.Alike strict W G s t) :
    Select.Alike strict W G' s t where
  columns := hst.columns
  aggregate := hst.aggregate
  distinct := hst.distinct
  tables := hst.tables.imp fun _ _ => TableRef.Alike.mono h
  joins := hst.joins.imp fun _ _ => Join.Alike.mono h
  filters := Condition.Alike.monos h hst.filters
  groups := hst.groups
  having := Condition.Alike.monos h hst.having
  orders := hst.orders
  limit := hst.limit
  offset := hst.offset
  lock := hst.lock

theorem Assignment.Alike.mono {a b : Assignment Q} (hab : Assignment.Alike strict W G a b) :
    Assignment.Alike strict W G' a b :=
  ⟨hab.column, hab.operand.mono h, hab.type⟩

theorem TableRef.Alike.option_mono {t u : Option (TableRef Q)}
    (htu : Option.Rel (TableRef.Alike G) t u) : Option.Rel (TableRef.Alike G') t u := by
  cases htu with
  | none => exact .none
  | some htu => exact .some (htu.mono h)

theorem Statement.Alike.mono {s t : Statement Q} (hst : Statement.Alike strict W G s t) :
    Statement.Alike strict W G' s t := by
  cases hst with
  | select hst => exact .select (hst.mono h)
  | insert hst =>
    refine .insert ⟨TableRef.Alike.option_mono h hst.table, ?_, hst.ignore, hst.replace⟩
    have hsource := hst.source
    revert hsource
    generalize Insert.source _ = a, Insert.source _ = b
    intro hsource
    cases hsource with
    | assignments hab => exact .assignments (hab.imp fun _ _ => Assignment.Alike.mono h)
    | query hq => exact .query (h _ _ hq)
  | update hst =>
    exact .update ⟨TableRef.Alike.option_mono h hst.table,
      hst.assignments.imp fun _ _ => Assignment.Alike.mono h, Condition.Alike.monos h hst.filters⟩
  | delete hst =>
    exact .delete ⟨TableRef.Alike.option_mono h hst.table, Condition.Alike.monos h hst.filters⟩

end Mono

/-- Statements whose values have the same shape, whatever they are. -/
abbrev Statement.Shaped (G : Query → Query → Prop) : Statement Query → Statement Query → Prop :=
  Statement.Alike False (fun _ _ => True) G

/-- Caches that keep the same texts, whatever their bindings. -/
structure Cache.SameTexts (x y : Cache) : Prop where
  slots (clause : Clause) : (x.slot clause).fragment = (y.slot clause).fragment
  compiled : x.compiled = y.compiled

/-- Queries of one shape that keep the same texts; the queries nested in them are related by `G`. -/
structure Query.ShapedBy (G : Query → Query → Prop) (q r : Query) : Prop where
  statement : Statement.Shaped G q.statement r.statement
  connection : q.connection = r.connection
  quoted : q.quoted = r.quoted
  cache : q.cache.SameTexts r.cache

/-- Queries of one shape, together with the queries nested in them at all depths. -/
def Query.Shaped (q r : Query) : Prop :=
  ∃ G : Query → Query → Prop, G q r ∧ ∀ a b, G a b → a.ShapedBy G b

theorem Query.Shaped.unfold {q r : Query} (h : q.Shaped r) : q.ShapedBy Query.Shaped r := by
  obtain ⟨G, hqr, hG⟩ := h
  obtain ⟨hstatement, hconnection, hquoted, hcache⟩ := hG q r hqr
  exact ⟨hstatement.mono fun a b hab => ⟨G, hab, hG⟩, hconnection, hquoted, hcache⟩

theorem Query.Shaped.fold {q r : Query} (h : q.ShapedBy Query.Shaped r) : q.Shaped r := by
  refine ⟨fun a b => a.ShapedBy Query.Shaped b, h, fun a b hab => ?_⟩
  exact ⟨hab.statement.mono fun _ _ hshaped => hshaped.unfold, hab.connection, hab.quoted,
    hab.cache⟩

theorem Cache.SameTexts.isMissing {x y : Cache} (h : x.SameTexts y) (clause : Clause) :
    x.isMissing clause = y.isMissing clause := by
  rw [Cache.isMissing, Cache.isMissing, h.slots]

theorem Like.operand_alike {Q : Type} {G : Q → Q → Prop} {l m : Like}
    (hterms : l.terms.length = m.terms.length) (hnegated : l.negated = m.negated) :
    Operand.Alike False (fun _ _ => True) G l.operand m.operand := by
  have hitems (ss ts : List String) (hlength : ss.length = ts.length) :
      List.Forall₂ (fun a b : Value => True ∧ a.isNull = b.isNull)
        (ss.map fun term => .text (l.patternOf term))
        (ts.map fun term => .text (m.patternOf term)) := by
    rw [List.forall₂_map_left_iff, List.forall₂_map_right_iff]
    exact List.forall₂_iff_get.2 ⟨hlength, fun _ _ _ => ⟨trivial, rfl⟩⟩
  have hpatterns : Value.Alike (fun _ _ => True) l.patterns m.patterns := by
    have hlist (ss ts : List String) (hlength : ss.length = ts.length) :
        Value.Alike (fun _ _ => True) (.list (ss.map fun term => .text (l.patternOf term)))
          (.list (ts.map fun term => .text (m.patternOf term))) :=
      ⟨trivial, rfl, rfl, hitems ss ts hlength⟩
    unfold Like.patterns
    revert hterms
    match l.terms, m.terms with
    | [], [] => exact hlist [] []
    | [s], [t] => exact fun _ => ⟨trivial, rfl, rfl, .cons ⟨trivial, rfl⟩ .nil⟩
    | s :: s' :: ss, t :: t' :: ts => exact hlist _ _
    | [], _ :: _ => exact nofun
    | _ :: _, [] => exact nofun
    | [_], _ :: _ :: _ => exact nofun
    | _ :: _ :: _, [_] => exact nofun
  have hnegative (operator : String) : l.isNegativeUnder operator = m.isNegativeUnder operator := by
    rw [Like.isNegativeUnder, Like.isNegativeUnder, hnegated]
  refine .transformer fun column operator platform => .ok ⟨rfl, ?_, .value hpatterns⟩
  rw [hnegative]

end ParamSql
