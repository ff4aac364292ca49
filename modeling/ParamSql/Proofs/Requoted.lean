import ParamSql.Proofs.Placement
import ParamSql.Proofs.RewordedCompiled
import ParamSql.Statement.Like

namespace ParamSql

variable {σ : Type}

namespace Platform

theorem quoteName_ne_empty (d : Dialect) (name : String) : d.platform.quoteName true name ≠ "" := by
  have hsegment (segment : String) : d.platform.quoteSegment segment ≠ "" := by
    unfold quoteSegment
    split
    · rename_i hstar
      rw [hstar]
      decide
    · intro hempty
      have hlist := congrArg String.toList hempty
      change (String.ofList (Text.delimited _ _ _)).toList = _ at hlist
      rw [String.toList_ofList] at hlist
      cases hlist
  rw [quoteName, if_pos rfl, Text.segments]
  cases hcut : Text.cut '.' name.toList with
  | nil => exact absurd hcut (Text.cut_ne_nil _ _)
  | cons first rest =>
    cases rest with
    | nil =>
      rw [List.map_cons, List.map_nil, List.map_cons, List.map_nil, String.intercalate_singleton]
      exact hsegment _
    | cons second rest =>
      rw [List.map_cons, List.map_cons, List.map_cons, List.map_cons,
        String.intercalate_cons_cons]
      simp

end Platform

namespace Fragment

variable {w : Wording} {name : String} {function : Option String}

theorem ofColumn_reworded :
    (ofColumn name function).Reworded w w.Text (ofColumn name function) := by
  refine .column name fun column quoted quoted' _ _ => ?_
  have hcolumn := Wording.Text.quoted (w := w) quoted quoted' column
  cases function with
  | none => exact .text hcolumn
  | some f => exact .text ((hcolumn.after _).before _)

/-- A reference to an attribute is a condition that is there in either wording, unless the attribute
may stand for a column of the empty name. -/
theorem ofColumn_piece (hname : ∀ column, w.columns name column → column ≠ "") :
    (ofColumn name function).Reworded w w.Piece (ofColumn name function) := by
  refine .column name fun column quoted quoted' hcolumn _ => ?_
  have htext := Wording.Text.quoted (w := w) quoted quoted' column
  have hne (d : Dialect) (quoted : Bool) : d.platform.quoteName quoted column ≠ "" := by
    cases quoted with
    | false => exact hname column hcolumn
    | true => exact Platform.quoteName_ne_empty d column
  have hsolid : w.Solid (w.left.platform.quoteName quoted column)
      (w.right.platform.quoteName quoted' column) := ⟨htext, hne _ _, hne _ _⟩
  cases function with
  | none => exact .text hsolid.piece
  | some f => exact .text ((htext.after _).solid _ (by decide)).piece

end Fragment

theorem Like.operand_reworded {Q : Type} {w : Wording} {G : Q → Q → Prop} (l : Like) :
    Operand.Reworded w G (Transform.Reworded w G) l.operand l.operand :=
  .transformer fun _ _ => .ok ⟨rfl, rfl, .value _⟩

namespace Compiler

variable {c : Compiler σ} {d : Dialect} {columns : String → String → Prop}
  {G : Query → Query → Prop} {S : σ → σ → Prop} {q r : Query}

/-- Queries that are the same but for the settings of quoting, their own and those of the queries
nested in them, are compiled to the same text but for the quotes of identifiers, with the same
bindings, or both fail for the same cause. -/
theorem bare_eq_of_requoted (hd : c.platform = d.platform)
    (hooks : c.resolver.Rewords (.requoted d columns) G S)
    (hG : ∀ q r, G q r → q.Reworded (.requoted d columns) G r)
    (h : q.Reworded (.requoted d columns) G r) :
    Answers True (fun x y => d.bare x.sql = d.bare y.sql ∧ x.bindings = y.bindings)
      (c.compile q).result (c.compile r).result := by
  have hc : Rewords (.requoted d columns) G S c c :=
    ⟨hd, hd, rfl, rfl, rfl, rfl, hooks, fun hqr => hG _ _ hqr, .inl rfl⟩
  exact (compile_reworded hc h).mono fun _ _ hxy => ⟨hxy.1 trivial, hxy.2⟩

/-- The authors of articles with stars. -/
def starredAuthors (quoted : Bool) : Query :=
  { Query.valuesOf "articles.author_id" "articles" none
      [.compare "stars" ">" (.value (.integer 3))] with quoted := quoted }

/-- The active authors of articles with stars, by their names. -/
def activeAuthors (outer inner : Bool) : Query :=
  { Query.ofStatement (.select
      { columns := [⟨.name "u.name", some "author"⟩]
        tables := [⟨.name "users", some "u"⟩]
        filters := [.compare "u.id" "in" (.query (starredAuthors inner)),
          .fragment .and (.ofColumn "u.active" none)] }) with quoted := outer }

/-- The nested query, with any two settings of quoting. -/
def StarredRequoted (q r : Query) : Prop :=
  ∃ quoted quoted', q = starredAuthors quoted ∧ r = starredAuthors quoted'

/-- A field stands for the column of its own name. -/
def ownColumn (name column : String) : Prop :=
  column = name

theorem starredAuthors_reworded (G : Query → Query → Prop) (quoted quoted' : Bool) :
    (starredAuthors quoted).Reworded (.requoted .mysql ownColumn) G (starredAuthors quoted') where
  statement := by
    refine .select ⟨.cons ⟨.name _, rfl⟩ .nil, rfl, rfl, .cons ⟨.name _, rfl⟩ .nil, .nil, ?_, rfl,
      .nil, rfl, rfl, rfl, rfl⟩
    exact .cons (.comparison .and ⟨rfl, rfl, .value _, rfl⟩) .nil
  connection := rfl
  quoting := trivial
  fresh := ⟨rfl, rfl⟩

theorem activeAuthors_reworded (outer inner outer' inner' : Bool) :
    (activeAuthors outer inner).Reworded (.requoted .mysql ownColumn) StarredRequoted
      (activeAuthors outer' inner') where
  statement := by
    refine .select ⟨.cons ⟨.name _, rfl⟩ .nil, rfl, rfl, .cons ⟨.name _, rfl⟩ .nil, .nil, ?_, rfl,
      .nil, rfl, rfl, rfl, rfl⟩
    refine .cons (.comparison .and ⟨rfl, rfl, .query ⟨_, _, rfl, rfl⟩, rfl⟩)
      (.cons (.fragment .and (Fragment.ofColumn_piece ?_)) .nil)
    rintro column rfl
    decide
  connection := rfl
  quoting := trivial
  fresh := ⟨rfl, rfl⟩

set_option maxRecDepth 2000 in
theorem bare_eq_of_requoted_authors :
    ((ofDialect .mysql).compile (activeAuthors true false)).result =
        .ok ⟨"SELECT `u`.`name` AS `author` FROM `users` `u` WHERE `u`.`id` IN " ++
          "(SELECT articles.author_id FROM articles WHERE stars > ?) AND `u`.`active`",
          [.integer 3]⟩ ∧
      ((ofDialect .mysql).compile (activeAuthors false true)).result =
        .ok ⟨"SELECT u.name AS author FROM users u WHERE u.id IN (SELECT " ++
          "`articles`.`author_id` FROM `articles` WHERE `stars` > ?) AND u.active",
          [.integer 3]⟩ ∧
      Answers True
        (fun x y => Dialect.mysql.bare x.sql = Dialect.mysql.bare y.sql ∧ x.bindings = y.bindings)
        ((ofDialect .mysql).compile (activeAuthors true false)).result
        ((ofDialect .mysql).compile (activeAuthors false true)).result := by
  have hhooks : (Resolver.declared []).Rewords (.requoted .mysql ownColumn) StarredRequoted Eq :=
    Resolver.declared_rewords (fun _ => rfl) []
  refine ⟨by cbv, by cbv, bare_eq_of_requoted rfl hhooks ?_ (activeAuthors_reworded _ _ _ _)⟩
  rintro q r ⟨quoted, quoted', rfl, rfl⟩
  exact starredAuthors_reworded _ _ _

/-- Users, with a raw expression for a condition. -/
def usersWhere (f : Fragment) (quoted : Bool) : Query :=
  { Query.ofStatement (.select { tables := [.table "users"], filters := [.fragment .and f] }) with
    quoted := quoted }

/-- Where quoting is seen: by the reference to an attribute of the empty name, and by an expression
that looks at how a column is quoted. -/
theorem bare_usersWhere_ne :
    (∃ x y, ((ofDialect .mysql).compile (usersWhere (.ofColumn "" none) false)).result = .ok x ∧
        ((ofDialect .mysql).compile (usersWhere (.ofColumn "" none) true)).result = .ok y ∧
        Dialect.mysql.bare x.sql ≠ Dialect.mysql.bare y.sql) ∧
      ∃ x y, ((ofDialect .mysql).compile (usersWhere
          (.column "id" fun sql => .text (if sql = "id" then "1" else "0")) false)).result =
          .ok x ∧
        ((ofDialect .mysql).compile (usersWhere
          (.column "id" fun sql => .text (if sql = "id" then "1" else "0")) true)).result =
          .ok y ∧
        Dialect.mysql.bare x.sql ≠ Dialect.mysql.bare y.sql := by
  refine ⟨⟨⟨"SELECT users.* FROM users", []⟩, ⟨"SELECT `users`.* FROM `users` WHERE ``", []⟩,
    by cbv, by cbv, ?_⟩, ⟨⟨"SELECT users.* FROM users WHERE 1", []⟩,
    ⟨"SELECT `users`.* FROM `users` WHERE 0", []⟩, by cbv, by cbv, ?_⟩⟩
  · decide +kernel
  · decide +kernel

end Compiler

end ParamSql
