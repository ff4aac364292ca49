import Mathlib
import ParamSql.Compile.Run
import ParamSql.Proofs.Along
import ParamSql.Proofs.Mapped

namespace ParamSql

variable {σ : Type}

/-- The columns of a SELECT are explicit and each goes by a name, of which the last segment
counts. -/
structure Select.Fills {Q : Type} (select : Select Q) (names : List String) : Prop where
  explicit : select.columns ≠ []
  aggregate : select.aggregate = none
  names : List.Forall₂ (fun column name =>
    column.outputName?.map (Text.lastSegment '.') = some name) select.columns names

/-- The resolver gives a field the column of its name. -/
def Resolver.Keeps (r : Resolver σ) (name : String) : Prop :=
  ∀ {type x field y}, r.field name type x = .ok field y → field.name = name

theorem Dialect.quoteName_eq_star {d : Dialect} {quoted : Bool} {name : String}
    (h : d.platform.quoteName quoted name = "*") : name = "*" := by
  have hname : ".".intercalate (Text.segments '.' name) = name := Text.intercalate_segments '.' name
  cases quoted with
  | false => exact h
  | true =>
    change ".".intercalate ((Text.segments '.' name).map d.platform.quoteSegment) = "*" at h
    revert h hname
    cases Text.segments '.' name with
    | nil =>
      intro _ h
      exact absurd h (by simp)
    | cons first rest =>
      cases rest with
      | nil =>
        intro hname h
        rw [List.map_cons, List.map_nil, String.intercalate_singleton, Platform.quoteSegment] at h
        split at h
        · rename_i hstar
          rw [← hname, hstar, String.intercalate_singleton]
        · -- The text begins with a quote.
          have hchars := congrArg String.toList h
          cases d <;> simp [Dialect.platform, Dialect.quoteIdentifier, Text.delimited,
            Dialect.identifierQuote] at hchars
      | cons second rest =>
        intro _ h
        have hdot : '.' ∈ ("*" : String).toList := by
          rw [← h]
          simp [String.intercalate_cons_cons]
        simp at hdot

theorem Resolver.declared_keeps (columns : List (String × TypeName)) (name : String) :
    (declared columns).Keeps name := by
  rintro type x field y ⟨⟩
  rfl

namespace Scope

variable {s : Scope σ} {insert : Insert Query} {p r : Progress σ} {sql : String}

section Query

variable {q : Query} {select : Select Query} (hselect : q.statement = .select select)

include hselect

/-- The columns of a result are listed if and only if they all go by a name. -/
theorem projectedColumns?_eq_some_iff {columns : List String} :
    s.projectedColumns? q = some columns ↔
      ∃ names, select.Fills names ∧ columns = names.map s.quote := by
  have hnames : ((select.columns.mapM Projection.outputName?).map fun outputs =>
        outputs.map fun name => s.quote (Text.lastSegment '.' name)) =
      (select.columns.mapM fun column : Projection =>
        column.outputName?.map (Text.lastSegment '.')).map (List.map s.quote) := by
    rw [map_mapM, map_mapM]
    simp only [Option.map_map]
    rfl
  rw [projectedColumns?, hselect]
  simp only [hnames]
  split
  · rename_i hnone
    refine ⟨nofun, ?_⟩
    rintro ⟨names, hfills, _⟩
    simp [hfills.explicit, hfills.aggregate] at hnone
  · rename_i hsome
    rw [Bool.or_eq_true, not_or, List.isEmpty_iff, Bool.not_eq_true, Option.isSome_eq_false_iff,
      Option.isNone_iff_eq_none] at hsome
    rw [Option.map_eq_some_iff]
    constructor
    · rintro ⟨names, hnames, rfl⟩
      exact ⟨names, ⟨hsome.1, hsome.2, mapM_eq_some_iff.1 hnames⟩, rfl⟩
    · rintro ⟨names, hfills, rfl⟩
      exact ⟨names, mapM_eq_some_iff.2 hfills.names, rfl⟩

end Query

theorem insert_of_query {q : Query} (hsource : insert.source = .query q)
    (h : s.insert insert p = .ok sql r) :
    ∃ table p₁ rows, s.target .insert insert.table p = .ok table p₁ ∧ s.query q p₁ = .ok rows r ∧
      sql = s.insertVerb insert ++ " INTO " ++ table ++
        (((s.projectedColumns? q).map columnList).getD "" ++ " " ++ rows) := by
  rw [Scope.insert, hsource] at h
  obtain ⟨table, p₁, htable, h⟩ := ok_of_bind h
  obtain ⟨text, p₂, htext, h⟩ := ok_of_bind h
  obtain ⟨rows, p₃, hrows, htext⟩ := ok_of_bind htext
  cases h
  cases htext
  exact ⟨table, p₁, rows, htable, hrows, rfl⟩

theorem insert_of_assignments {items : List (Assignment Query)}
    (hsource : insert.source = .assignments items) (hitems : items ≠ [])
    (h : s.insert insert p = .ok sql r) :
    ∃ table p₁ pairs, s.target .insert insert.table p = .ok table p₁ ∧
      items.mapM s.assignment p₁ = .ok pairs r ∧
      sql = s.insertVerb insert ++ " INTO " ++ table ++
        (columnList (pairs.map (·.1)) ++ " VALUES" ++ columnList (pairs.map (·.2))) := by
  rw [Scope.insert, hsource] at h
  obtain ⟨table, p₁, htable, h⟩ := ok_of_bind h
  obtain ⟨text, p₂, htext, h⟩ := ok_of_bind h
  rw [insertRows, if_neg (by simpa using hitems)] at htext
  obtain ⟨pairs, p₃, hpairs, htext⟩ := ok_of_bind htext
  cases h
  cases htext
  exact ⟨table, p₁, pairs, htable, hpairs, rfl⟩

theorem fst_of_assignment {a : Assignment Query} {pair : String × String}
    (hkeeps : s.compiler.resolver.Keeps a.column) (h : s.assignment a p = .ok pair r) :
    pair.1 = s.quote a.column := by
  obtain ⟨field, p₁, hfield, h⟩ := ok_of_bind h
  have hfst : pair.1 = s.quote field.name := by
    cases hoperand : a.operand with
    | transformer transform =>
      rw [hoperand] at h
      obtain ⟨_, _, _, h⟩ := ok_of_bind h
      obtain ⟨_, _, _, h⟩ := ok_of_bind h
      cases h
      rfl
    | _ =>
      rw [hoperand] at h
      obtain ⟨_, _, _, h⟩ := ok_of_bind h
      cases h
      rfl
  rw [Render.consult_eq] at hfield
  cases hhook : s.compiler.resolver.field a.column a.type p.state with
  | error e y =>
    rw [hhook] at hfield
    cases hfield
  | ok found y =>
    rw [hhook] at hfield
    cases hfield
    rw [hfst, hkeeps hhook]

/-- Where the resolver keeps the names of the columns, assignments list them. -/
theorem insert_of_kept {items : List (Assignment Query)}
    (hsource : insert.source = .assignments items) (hitems : items ≠ [])
    (hkeeps : ∀ a ∈ items, s.compiler.resolver.Keeps a.column) (h : s.insert insert p = .ok sql r) :
    ∃ table p₁ values, s.target .insert insert.table p = .ok table p₁ ∧
      sql = s.insertVerb insert ++ " INTO " ++ table ++
        (columnList (items.map fun a => s.quote a.column) ++ " VALUES" ++ columnList values) := by
  obtain ⟨table, p₁, pairs, htable, hpairs, rfl⟩ := insert_of_assignments hsource hitems h
  have hcolumns : pairs.map (·.1) = items.map fun a => s.quote a.column := by
    have hruns := forall₂_of_mapM hpairs
    clear hpairs hitems hsource h
    induction hruns with
    | nil => rfl
    | cons hrun _ ih =>
      obtain ⟨x, y, hrun⟩ := hrun
      rw [List.forall_mem_cons] at hkeeps
      rw [List.map_cons, List.map_cons, fst_of_assignment hkeeps.1 hrun, ih hkeeps.2]
  exact ⟨table, p₁, pairs.map (·.2), htable, by rw [hcolumns]⟩

/-- An INSERT from a SELECT is rendered after its table and the SELECT. If the columns of the
SELECT are explicit, there is no aggregate and each column goes by a name, their last segments are
listed, quoted; otherwise none are. Where the resolver keeps these names the list is that of any
INSERT into the same table that assigns to them, and if none of them is the star the star is not
listed on any of the dialects. -/
theorem insert_fills {q : Query} {select : Select Query} (hsource : insert.source = .query q)
    (hselect : q.statement = .select select) (h : s.insert insert p = .ok sql r) :
    ∃ table p₁ rows, s.target .insert insert.table p = .ok table p₁ ∧ s.query q p₁ = .ok rows r ∧
      (∀ names, select.Fills names →
        sql = s.insertVerb insert ++ " INTO " ++ table ++
          (columnList (names.map s.quote) ++ " " ++ rows) ∧
        ((∀ name ∈ names, s.compiler.resolver.Keeps name) →
          ∀ items sql' r', items.map (·.column) = names →
            s.insert { insert with source := .assignments items } p = .ok sql' r' →
              ∃ values, sql' = s.insertVerb insert ++ " INTO " ++ table ++
                (columnList (names.map s.quote) ++ " VALUES" ++ columnList values)) ∧
        ((∃ d : Dialect, s.platform = d.platform) → (∀ name ∈ names, name ≠ "*") →
          "*" ∉ names.map s.quote)) ∧
      ((∀ names, ¬ select.Fills names) →
        sql = s.insertVerb insert ++ " INTO " ++ table ++ (" " ++ rows)) := by
  obtain ⟨table, p₁, rows, htable, hrows, hsql⟩ := insert_of_query hsource h
  refine ⟨table, p₁, rows, htable, hrows, fun names hfills => ⟨?_, ?_, ?_⟩, fun hnone => ?_⟩
  · rw [hsql, (projectedColumns?_eq_some_iff hselect).2 ⟨names, hfills, rfl⟩]
    rfl
  · rintro hkeeps items sql' r' rfl hsql'
    have hitems : items ≠ [] := by
      rintro rfl
      exact hfills.explicit (List.forall₂_nil_right_iff.1 hfills.names)
    obtain ⟨table', p₂, values, htable', hvalues⟩ :=
      insert_of_kept rfl hitems (fun a ha => hkeeps a.column (List.mem_map_of_mem ha)) hsql'
    cases htable.symm.trans htable'
    refine ⟨values, ?_⟩
    rw [hvalues, List.map_map]
    rfl
  · rintro ⟨d, hd⟩ hstar hmem
    obtain ⟨name, hname, hquote⟩ := List.mem_map.1 hmem
    rw [quote, hd] at hquote
    exact hstar name hname (Dialect.quoteName_eq_star hquote)
  · cases hcolumns : s.projectedColumns? q with
    | none =>
      rw [hsql, hcolumns]
      rfl
    | some columns =>
      obtain ⟨names, hfills, _⟩ := (projectedColumns?_eq_some_iff hselect).1 hcolumns
      exact absurd hfills (hnone names)

end Scope

/-- The resolver that gives some names other columns. -/
def Resolver.renaming (columns : List (String × String)) : Resolver Unit where
  start := ()
  field name type := pure ⟨(columns.lookup name).getD name, type⟩

/-- Books with some of their columns. -/
def Select.books (columns : List Projection) : Select Query :=
  { columns, tables := [.table "books"] }

def Insert.archive (source : InsertSource Query) : Insert Query :=
  { table := some (.table "archive"), source }

def Insert.archiveBooks (columns : List Projection) : Insert Query :=
  .archive (.query (.ofStatement (.select (.books columns))))

namespace Scope

def archive : Scope (Option String) :=
  (Compiler.ofDialect .mysql).scope (Query.empty .insert)

def renamed : Scope Unit :=
  { Compiler.ofDialect .mysql with resolver := .renaming [("title", "book_title")] }.scope
    (Query.empty .insert)

/-- A column goes by what follows its dot, another by its label. -/
theorem insert_fills_authored :
    ∃ r, archive.insert (.archiveBooks [.named "books.title", ⟨.name "author", some "writer"⟩])
        ⟨none, [], [], []⟩ =
      .ok "INSERT INTO archive (title, writer) SELECT books.title, author AS writer FROM books" r ∧
    ∀ items sql' r', items.map (·.column) = ["title", "writer"] →
      archive.insert (.archive (.assignments items)) ⟨none, [], [], []⟩ = .ok sql' r' →
        ∃ values, sql' = "INSERT INTO archive (title, writer) VALUES" ++ columnList values := by
  have htext : (archive.insert
      (.archiveBooks [.named "books.title", ⟨.name "author", some "writer"⟩])).run'
        ⟨none, [], [], []⟩ = some
      "INSERT INTO archive (title, writer) SELECT books.title, author AS writer FROM books" := by
    cbv
  have htarget : (archive.target .insert (some (.table "archive"))).run' ⟨none, [], [], []⟩ =
      some "archive" := by cbv
  have hfills : (Select.books [.named "books.title", ⟨.name "author", some "writer"⟩]).Fills
      ["title", "writer"] := by
    refine ⟨List.cons_ne_nil _ _, rfl, .cons ?_ (.cons ?_ .nil)⟩ <;> cbv
  have hstart : archive.insertVerb
        (.archiveBooks [.named "books.title", ⟨.name "author", some "writer"⟩]) ++
      " INTO " ++ "archive" ++ (columnList (["title", "writer"].map archive.quote) ++ " VALUES") =
        "INSERT INTO archive (title, writer) VALUES" := by cbv
  obtain ⟨r, hr⟩ := ok_of_run' htext
  refine ⟨r, hr, fun items sql' r' hitems hsql' => ?_⟩
  obtain ⟨table, p₁, rows, htable, _, hnames, _⟩ := insert_fills rfl rfl hr
  obtain ⟨p₂, htable'⟩ := ok_of_run' htarget
  cases htable.symm.trans htable'
  obtain ⟨_, hassigned, _⟩ := hnames _ hfills
  obtain ⟨values, hvalues⟩ := hassigned (fun name _ => Resolver.declared_keeps [] name)
    items sql' r' hitems hsql'
  exact ⟨values, by rw [hvalues, ← String.append_assoc, hstart]⟩

/-- The resolver gives the titles another column. It is asked for it where they are selected and
where they are assigned to, but not where they are listed. And where all columns of a table are
selected, the star is listed. -/
theorem insert_titles_ne :
    (∃ r, (renamed.insert (.archiveBooks [.named "title"]) ⟨(), [], [], []⟩ =
        .ok "INSERT INTO archive (title) SELECT book_title FROM books" r)) ∧
      (∃ r, (renamed.insert (.archive (.assignments [⟨"title", .value (.text "Emma"), none⟩]))
        ⟨(), [], [], []⟩ = .ok "INSERT INTO archive (book_title) VALUES (?)" r)) ∧
      ∃ r, archive.insert (.archiveBooks [.named "books.*"]) ⟨none, [], [], []⟩ =
        .ok "INSERT INTO archive (*) SELECT books.* FROM books" r :=
  ⟨ok_of_run' (by cbv), ok_of_run' (by cbv), ok_of_run' (by cbv)⟩

end Scope

end ParamSql
