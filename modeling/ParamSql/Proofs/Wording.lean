import ParamSql.Platform.Dialect
import ParamSql.Proofs.Alike

namespace ParamSql

namespace Dialect

/-- A text without the quotes of identifiers. -/
def bare (d : Dialect) (sql : String) : String :=
  String.ofList (sql.toList.filter (· ≠ d.identifierQuote))

variable (d : Dialect)

theorem bare_append (a b : String) : d.bare (a ++ b) = d.bare a ++ d.bare b := by
  rw [bare, String.toList_append, List.filter_append, String.ofList_append]
  rfl

theorem bare_intercalate (sep : String) {as bs : List String}
    (h : List.Forall₂ (fun a b => d.bare a = d.bare b) as bs) :
    d.bare (sep.intercalate as) = d.bare (sep.intercalate bs) := by
  induction h with
  | nil => rfl
  | cons hab hrest ih =>
    cases hrest with
    | nil => rw [String.intercalate_singleton, String.intercalate_singleton, hab]
    | cons _ _ =>
      rw [String.intercalate_cons_cons, String.intercalate_cons_cons, bare_append, bare_append,
        bare_append, bare_append, hab, ih]

theorem bare_quoteIdentifier (name : String) : d.bare (d.quoteIdentifier name) = d.bare name := by
  have hdoubled (cs : List Char) :
      (Text.doubled (· = d.identifierQuote) cs).filter (· ≠ d.identifierQuote) =
        cs.filter (· ≠ d.identifierQuote) := by
    induction cs with
    | nil => rfl
    | cons c rest ih =>
      by_cases hc : c = d.identifierQuote <;> simpa [Text.doubled, hc] using ih
  rw [bare, bare, quoteIdentifier, String.toList_ofList, Text.delimited, List.cons_append,
    List.filter_cons_of_neg (by simp), List.filter_append, hdoubled,
    List.filter_cons_of_neg (by simp), List.filter_nil, List.append_nil]

/-- Quoted or not, a name has the same characters but for the quotes. -/
theorem bare_quoteName (quoted : Bool) (name : String) :
    d.bare (d.platform.quoteName quoted name) = d.bare name := by
  cases quoted with
  | false => rfl
  | true =>
    have hsegments : List.Forall₂ (fun a b => d.bare a = d.bare b)
        ((Text.segments '.' name).map d.platform.quoteSegment) (Text.segments '.' name) := by
      rw [List.forall₂_map_left_iff, List.forall₂_same]
      intro segment _
      unfold Platform.quoteSegment
      split
      · rfl
      · exact d.bare_quoteIdentifier segment
    have hjoined := d.bare_intercalate "." hsegments
    rwa [show (".".intercalate (Text.segments '.' name)) = name from
      Text.intercalate_segments '.' name] at hjoined

end Dialect

/-- Two ways to word statements, side by side. -/
structure Wording where
  left : Dialect
  right : Dialect
  /-- Whether names are quoted, on the left and on the right. -/
  quoting : Bool → Bool → Prop
  /-- The columns that fields of a name may stand for. -/
  columns : String → String → Prop
  /-- Whether the texts are compared at all. -/
  compared : Prop
  same : compared → left = right

namespace Wording

/-- One dialect, with any settings of quoting. -/
def requoted (d : Dialect) (columns : String → String → Prop) : Wording :=
  ⟨d, d, fun _ _ => True, columns, True, fun _ => rfl⟩

/-- Two dialects, with the same settings of quoting. Their texts are not compared. -/
def translated (d d' : Dialect) : Wording :=
  ⟨d, d', Eq, fun _ _ => True, False, False.elim⟩

variable (w : Wording)

/-- Texts that differ at most in the quotes of identifiers. -/
def Text (a b : String) : Prop :=
  w.compared → w.left.bare a = w.left.bare b

/-- Texts that differ at most in the quotes of identifiers, and are both empty or neither is. -/
def Piece (a b : String) : Prop :=
  w.Text a b ∧ (w.compared → (a = "" ↔ b = ""))

/-- Texts that differ at most in the quotes of identifiers, neither of them empty. -/
def Solid (a b : String) : Prop :=
  w.Text a b ∧ a ≠ "" ∧ b ≠ ""

variable {w}

theorem Text.refl (a : String) : w.Text a a :=
  fun _ => rfl

theorem Text.append {a b a' b' : String} (h : w.Text a b) (h' : w.Text a' b') :
    w.Text (a ++ a') (b ++ b') := by
  intro hw
  rw [Dialect.bare_append, Dialect.bare_append, h hw, h' hw]

theorem Text.after (a : String) {b c : String} (h : w.Text b c) : w.Text (a ++ b) (a ++ c) :=
  (refl a).append h

theorem Text.before {a b : String} (h : w.Text a b) (c : String) : w.Text (a ++ c) (b ++ c) :=
  h.append (refl c)

theorem Text.intercalate (sep : String) {as bs : List String} (h : List.Forall₂ w.Text as bs) :
    w.Text (sep.intercalate as) (sep.intercalate bs) :=
  fun hw => Dialect.bare_intercalate _ sep (h.imp fun _ _ hab => hab hw)

theorem Text.word (f : Dialect → String) : w.Text (f w.left) (f w.right) :=
  fun hw => by rw [← w.same hw]

theorem Text.quoted (quoted quoted' : Bool) (name : String) :
    w.Text (w.left.platform.quoteName quoted name) (w.right.platform.quoteName quoted' name) := by
  intro hw
  rw [← w.same hw, Dialect.bare_quoteName, Dialect.bare_quoteName]

theorem Text.limited {a b : String} (h : w.Text a b) (limit offset : Option UInt64) :
    w.Text (w.left.platform.limited a limit offset) (w.right.platform.limited b limit offset) := by
  have htail (d : Dialect) (sql : String) :
      d.platform.limited sql limit offset = sql ++ d.limited "" limit offset := by
    simp only [Dialect.platform, Dialect.limited, String.empty_append, String.append_assoc]
  rw [htail, htail]
  exact h.append (.word fun d => d.limited "" limit offset)

theorem Piece.refl (a : String) : w.Piece a a :=
  ⟨.refl a, fun _ => .rfl⟩

theorem Solid.piece {a b : String} (h : w.Solid a b) : w.Piece a b :=
  ⟨h.1, fun _ => ⟨fun ha => absurd ha h.2.1, fun hb => absurd hb h.2.2⟩⟩

theorem Solid.append {a b a' b' : String} (h : w.Solid a b) (h' : w.Text a' b') :
    w.Solid (a ++ a') (b ++ b') := by
  refine ⟨h.1.append h', ?_, ?_⟩
  · exact fun hempty => h.2.1 (String.append_eq_empty_iff.1 hempty).1
  · exact fun hempty => h.2.2 (String.append_eq_empty_iff.1 hempty).1

theorem Text.solid {a b : String} (h : w.Text a b) (word : String) (hword : word ≠ "") :
    w.Solid (a ++ word) (b ++ word) := by
  refine ⟨h.before word, ?_, ?_⟩
  · exact fun hempty => hword (String.append_eq_empty_iff.1 hempty).2
  · exact fun hempty => hword (String.append_eq_empty_iff.1 hempty).2

theorem Solid.intercalate (sep : String) {as bs : List String} (h : List.Forall₂ w.Solid as bs)
    (hne : as ≠ []) : w.Solid (sep.intercalate as) (sep.intercalate bs) := by
  induction h with
  | nil => exact absurd rfl hne
  | cons hab hrest ih =>
    cases hrest with
    | nil =>
      rw [String.intercalate_singleton, String.intercalate_singleton]
      exact hab
    | cons _ _ =>
      rw [String.intercalate_cons_cons, String.intercalate_cons_cons]
      exact (hab.append (.refl sep)).append (ih (List.cons_ne_nil _ _)).1

end Wording

/-- Fragments that ask for the same and, answered in either wording, end with texts in the relation
`E` or for the same cause. -/
inductive Fragment.Reworded (w : Wording) (E : String → String → Prop) : Fragment → Fragment → Prop
  | text {a b : String} (h : E a b) : Reworded w E (.text a) (.text b)
  | fail (error : CompileError) : Reworded w E (.fail error) (.fail error)
  | column (name : String) {next next' : String → Fragment}
    (h : ∀ column quoted quoted', w.columns name column → w.quoting quoted quoted' →
      Reworded w E (next (w.left.platform.quoteName quoted column))
        (next' (w.right.platform.quoteName quoted' column))) :
    Reworded w E (.column name next) (.column name next')
  | root {next next' : Option String → Fragment}
    (h : ∀ table, Reworded w E (next table) (next' table)) : Reworded w E (.root next) (.root next')
  | look {next next' : Surroundings → Fragment}
    (h : ∀ quoted quoted', w.quoting quoted quoted' →
      Reworded w E (next ⟨w.left.platform, w.left.platform.quoteName quoted⟩)
        (next' ⟨w.right.platform, w.right.platform.quoteName quoted'⟩)) :
    Reworded w E (.look next) (.look next')

section

variable {Q : Type} (w : Wording) (G : Q → Q → Prop)

abbrev Transform (Q : Type) : Type :=
  String → String → Platform → Except CompileError (Transformed (Operand Q))

/-- Operands reworded, with transformers in the relation `T`. -/
inductive Operand.Reworded (T : Transform Q → Transform Q → Prop) : Operand Q → Operand Q → Prop
  | value (v : Value) : Reworded T (.value v) (.value v)
  | query {q r : Q} (h : G q r) : Reworded T (.query q) (.query r)
  | fragment {f f' : Fragment} (h : f.Reworded w w.Text f') :
    Reworded T (.fragment f) (.fragment f')
  | transformer {f g : Transform Q} (h : T f g) : Reworded T (.transformer f) (.transformer g)

/-- Comparisons reworded by transformers. One more transformer is refused, whatever it is. -/
structure Transformed.Reworded (t u : Transformed (Operand Q)) : Prop where
  column : t.column = u.column
  operator : t.operator = u.operator
  operand : Operand.Reworded w G (fun _ _ => True) t.operand u.operand

def Transform.Reworded (f g : Transform Q) : Prop :=
  ∀ column operator, Answers True (Transformed.Reworded w G)
    (f column operator w.left.platform) (g column operator w.right.platform)

structure Comparison.Reworded (T : Transform Q → Transform Q → Prop) (c d : Comparison Q) :
    Prop where
  column : c.column = d.column
  operator : c.operator = d.operator
  operand : Operand.Reworded w G T c.operand d.operand
  converted : c.converted = d.converted

/-- Conditions reworded, at all depths. Empty ones vanish, so fragments among them have to come to
texts of which both are empty or neither is. -/
inductive Condition.Reworded : Condition Q → Condition Q → Prop
  | comparison (g : Glue) {c d : Comparison Q}
    (h : Comparison.Reworded w G (Transform.Reworded w G) c d) :
    Reworded (.comparison g c) (.comparison g d)
  | group (g : Glue) {cs ds : List (Condition Q)} (h : List.Forall₂ Reworded cs ds) :
    Reworded (.group g cs) (.group g ds)
  | fragment (g : Glue) {f f' : Fragment} (h : f.Reworded w w.Piece f') :
    Reworded (.fragment g f) (.fragment g f')

structure Join.Reworded (j k : Join Q) : Prop where
  kind : j.kind = k.kind
  table : TableRef.Alike G j.table k.table
  on : List.Forall₂ (Condition.Reworded w G) j.on k.on

inductive Column.Reworded : Column → Column → Prop
  | name (s : String) : Reworded (.name s) (.name s)
  | fragment {f f' : Fragment} (h : f.Reworded w w.Text f') : Reworded (.fragment f) (.fragment f')

structure Projection.Reworded (p q : Projection) : Prop where
  column : Column.Reworded w p.column q.column
  label : p.label = q.label

structure Select.Reworded (s t : Select Q) : Prop where
  columns : List.Forall₂ (Projection.Reworded w) s.columns t.columns
  aggregate : s.aggregate = t.aggregate
  distinct : s.distinct = t.distinct
  tables : List.Forall₂ (TableRef.Alike G) s.tables t.tables
  joins : List.Forall₂ (Join.Reworded w G) s.joins t.joins
  filters : List.Forall₂ (Condition.Reworded w G) s.filters t.filters
  groups : s.groups = t.groups
  having : List.Forall₂ (Condition.Reworded w G) s.having t.having
  orders : s.orders = t.orders
  limit : s.limit = t.limit
  offset : s.offset = t.offset
  lock : s.lock = t.lock

structure Assignment.Reworded (a b : Assignment Q) : Prop where
  column : a.column = b.column
  operand : Operand.Reworded w G (Transform.Reworded w G) a.operand b.operand
  type : a.type = b.type

inductive InsertSource.Reworded : InsertSource Q → InsertSource Q → Prop
  | assignments {as bs : List (Assignment Q)}
    (h : List.Forall₂ (Assignment.Reworded w G) as bs) :
    Reworded (.assignments as) (.assignments bs)
  | query {q r : Q} (h : G q r) : Reworded (.query q) (.query r)

structure Insert.Reworded (s t : Insert Q) : Prop where
  table : Option.Rel (TableRef.Alike G) s.table t.table
  source : InsertSource.Reworded w G s.source t.source
  ignore : s.ignore = t.ignore
  replace : s.replace = t.replace

structure Update.Reworded (s t : Update Q) : Prop where
  table : Option.Rel (TableRef.Alike G) s.table t.table
  assignments : List.Forall₂ (Assignment.Reworded w G) s.assignments t.assignments
  filters : List.Forall₂ (Condition.Reworded w G) s.filters t.filters

structure Delete.Reworded (s t : Delete Q) : Prop where
  table : Option.Rel (TableRef.Alike G) s.table t.table
  filters : List.Forall₂ (Condition.Reworded w G) s.filters t.filters

inductive Statement.Reworded : Statement Q → Statement Q → Prop
  | select {s t : Select Q} (h : Select.Reworded w G s t) : Reworded (.select s) (.select t)
  | insert {s t : Insert Q} (h : Insert.Reworded w G s t) : Reworded (.insert s) (.insert t)
  | update {s t : Update Q} (h : Update.Reworded w G s t) : Reworded (.update s) (.update t)
  | delete {s t : Delete Q} (h : Delete.Reworded w G s t) : Reworded (.delete s) (.delete t)

end

end ParamSql
