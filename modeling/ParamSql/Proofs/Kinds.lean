import ParamSql.Proofs.Mapped

namespace ParamSql

/-- The kinds of scalars other than the null. -/
inductive ScalarKind
  | bool
  | integer
  | float
  | text
  | bytes
  deriving DecidableEq, Repr

namespace Scalar

/-- The kind of a scalar. The null has none. -/
def kind? : Scalar → Option ScalarKind
  | null => none
  | bool _ => some .bool
  | integer _ => some .integer
  | float _ => some .float
  | text _ => some .text
  | bytes _ => some .bytes

theorem isNull_of_kind {x : Scalar} {k : ScalarKind} (h : x.kind? = some k) : x.isNull = false := by
  cases x with
  | null => cases h
  | _ => rfl

theorem isNull_value (x : Scalar) : x.value.isNull = x.isNull := by
  cases x <;> rfl

theorem isList_value (x : Scalar) : x.value.isList = false := by
  cases x <;> rfl

end Scalar

namespace BuiltinType

/-- The kind of the scalars that a type makes. -/
def kind : BuiltinType → ScalarKind
  | integer => .integer
  | float => .float
  | boolean => .bool
  | binary => .bytes
  | string | decimal | datetime | date | time | json | list => .text

theorem exists_of_map {ε α β : Type} {answer : Except ε α} {f : α → β} {b : β}
    (h : answer.map f = .ok b) : ∃ a, b = f a := by
  cases answer with
  | ok a => exact ⟨a, (Except.ok.inj h).symm⟩
  | error e => cases h

/-- What a type makes of a value other than the null is of the kind of the type. -/
theorem kind_convert {t : BuiltinType} {v : Value} {x : Scalar} (h : t.convert v = .ok x) :
    x.kind? = some t.kind := by
  cases t with
  | integer =>
    cases v with
    | float y =>
      simp only [convert, integerScalar] at h
      split at h <;> cases h
      rfl
    | text s =>
      simp only [convert, integerScalar] at h
      split at h <;> cases h
      rfl
    | _ => cases h <;> rfl
  | float =>
    cases v with
    | text s =>
      simp only [convert, floatScalar] at h
      split at h <;> cases h
      rfl
    | _ => cases h <;> rfl
  | boolean =>
    cases v with
    | text s =>
      simp only [convert, booleanScalar] at h
      split at h <;> cases h
      rfl
    | _ => cases h <;> rfl
  | list =>
    cases v with
    | list items =>
      obtain ⟨texts, rfl⟩ := exists_of_map h
      rfl
    | _ => cases h <;> rfl
  | string | decimal | datetime | date | time | json | binary => cases v <;> cases h <;> rfl

theorem scalar_eq_convert {t : BuiltinType} {v : Value} (h : v ≠ .null) :
    t.scalar v = t.convert v := by
  cases v with
  | null => exact absurd rfl h
  | _ => rfl

/-- A scalar made by a type is null if and only if the value is. -/
theorem isNull_scalar {t : BuiltinType} {v : Value} {x : Scalar} (h : t.scalar v = .ok x) :
    x.isNull = v.isNull := by
  rw [scalar] at h
  split at h
  · rename_i hv
    cases h
    exact hv.symm
  · rename_i hv
    rw [Scalar.isNull_of_kind (kind_convert h), Bool.eq_false_iff.2 hv]

theorem convert_value {t : BuiltinType} (ht : t ≠ json) {x : Scalar} (hx : x.kind? = some t.kind) :
    t.convert x.value = .ok x := by
  cases t with
  | json => exact absurd rfl ht
  | _ => cases x <;> first | rfl | cases hx

/-- What a type has made of a value, it makes of that scalar again. -/
theorem scalar_value {t : BuiltinType} (ht : t ≠ json) {v : Value} {x : Scalar}
    (h : t.scalar v = .ok x) : t.scalar x.value = .ok x := by
  rw [scalar] at h
  split at h
  · cases h
    rfl
  · have hkind := kind_convert h
    have hnull : x.value.isNull = false := by rw [x.isNull_value, Scalar.isNull_of_kind hkind]
    rw [scalar, hnull]
    exact convert_value ht hkind

/-- A type makes the null of the null alone and scalars of its own kind of all other values, and
unless its scalars are documents, it takes them unchanged. -/
theorem scalar_stable {t : BuiltinType} {v : Value} {x : Scalar} (h : t.scalar v = .ok x) :
    (x = .null ↔ v = .null) ∧ (v ≠ .null → x.kind? = some t.kind) ∧
      (t ≠ json → t.scalar x.value = .ok x) := by
  cases v with
  | null =>
    cases h
    exact ⟨iff_of_true rfl rfl, fun hv => absurd rfl hv, fun _ => rfl⟩
  | _ =>
    have hkind : x.kind? = some t.kind := kind_convert h
    have hx : x ≠ .null := by
      rintro rfl
      cases hkind
    exact ⟨iff_of_false hx nofun, fun _ => hkind, fun ht => scalar_value ht h⟩

/-- Text with a number in it is made an integer, which stays one. -/
theorem scalar_stable_integer :
    integer.scalar (.text " +42\n") = .ok (.integer 42) ∧
      (Scalar.integer 42).kind? = some integer.kind ∧
      integer.scalar (.integer 42) = .ok (.integer 42) := by
  have hread : integer.scalar (.text " +42\n") = .ok (.integer 42) := rfl
  obtain ⟨_, hkind, hagain⟩ := scalar_stable hread
  exact ⟨hread, hkind nofun, hagain nofun⟩

/-- The text of a document is no document: it is written again, with quotes. -/
example : json.scalar (.bool true) = .ok (.text "true") ∧
    json.scalar (.text "true") = .ok (.text "\"true\"") := by
  cbv

end BuiltinType

theorem Value.isNull_infer {v : Value} {x : Scalar} (h : v.infer = .ok x) :
    x.isNull = v.isNull := by
  cases v <;> cases h <;> rfl

theorem Value.isNull_scalar? {v : Value} {x : Scalar} (h : v.scalar? = some x) :
    x.isNull = v.isNull := by
  cases v <;> cases h <;> rfl

namespace TypeRegistry

theorem get?_builtins {name : String} {convert : ValueType}
    (h : builtins.get? name = some convert) : ∃ t : BuiltinType, convert = t.scalar := by
  have hentries (names : List (String × BuiltinType)) (types : TypeRegistry)
      (htypes : ∀ entry ∈ types.entries, ∃ t : BuiltinType, entry.2 = t.scalar) :
      ∀ entry ∈ (names.foldl (fun types entry => types.register entry.1 entry.2.scalar)
        types).entries, ∃ t : BuiltinType, entry.2 = t.scalar := by
    induction names generalizing types with
    | nil => exact htypes
    | cons first rest ih => exact ih _ (List.forall_mem_cons.2 ⟨⟨first.2, rfl⟩, htypes⟩)
  obtain ⟨entry, hentry, rfl⟩ := Option.map_eq_some_iff.1 h
  exact hentries builtinNames empty nofun entry (List.mem_of_find?_eq_some hentry)

/-- No built-in conversion makes a null of another value, nor another scalar of the null. -/
theorem isNull_scalar {declared : Option TypeName} {v : Value} {x : Scalar}
    (h : builtins.scalar declared v = .ok x) : x.isNull = v.isNull := by
  cases declared with
  | none => exact v.isNull_infer h
  | some t =>
    change builtins.scalarOf t v = .ok x at h
    cases hget : builtins.get? t.name with
    | none =>
      rw [scalarOf, hget] at h
      cases h
    | some convert =>
      obtain ⟨b, rfl⟩ := get?_builtins hget
      rcases t.items_or_whole v with ⟨hlist, items, rfl⟩ | hwhole
      · rw [scalarOf_list hget hlist] at h
        obtain ⟨values, -, h⟩ := exists_of_bind h
        exact BuiltinType.isNull_scalar (t := .list) (v := .list values) h
      · rw [scalarOf_of_some hget hwhole] at h
        exact BuiltinType.isNull_scalar h

end TypeRegistry

end ParamSql
