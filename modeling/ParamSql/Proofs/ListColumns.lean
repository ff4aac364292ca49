import Mathlib
import ParamSql.Proofs.Kinds
import ParamSql.Proofs.Mapped

namespace ParamSql

theorem length_intercalate_comma (texts : List String) :
    (",".intercalate texts).length = (texts.map fun text => text.length + 1).sum - 1 := by
  induction texts with
  | nil => simp
  | cons text rest ih =>
    cases rest with
    | nil => simp
    | cons next rest =>
      have hcomma : ",".length = 1 := rfl
      rw [String.intercalate_cons_cons, String.length_append, String.length_append, ih, hcomma]
      simp only [List.map_cons, List.sum_cons]
      omega

namespace Scalar

/-- What a list of scalars is stored as. -/
def joined (xs : List Scalar) : Scalar :=
  .text (",".intercalate (xs.map display))

/-- The scalars of a list other than the nulls. -/
def present (xs : List Scalar) : List Scalar :=
  xs.filter fun x => !x.isNull

/-- The room that the texts of scalars take, with a comma for each. -/
def room (xs : List Scalar) : Nat :=
  (xs.map fun x => x.display.length + 1).sum

theorem room_present (xs : List Scalar) :
    room (present xs) + 5 * xs.countP isNull = room xs := by
  induction xs with
  | nil => rfl
  | cons x xs ih =>
    have hroom : room (x :: xs) = x.display.length + 1 + room xs := rfl
    rw [hroom]
    cases x with
    | null =>
      have hnull : display null = "NULL" := rfl
      have hlength : "NULL".length = 4 := rfl
      have hpresent : present (null :: xs) = present xs := rfl
      rw [hpresent, hnull, hlength, List.countP_cons_of_pos rfl]
      omega
    | _ =>
      rw [List.countP_cons_of_neg Bool.false_ne_true, ← ih]
      exact Nat.add_assoc ..

theorem present_eq_self {xs : List Scalar} : present xs = xs ↔ ∀ x ∈ xs, x.isNull = false := by
  simp only [present, List.filter_eq_self, Bool.not_eq_true']

theorem present_present (xs : List Scalar) : present (present xs) = present xs := by
  simp only [present, List.filter_filter, Bool.and_self]

/-- Only lists without nulls are stored as they are stored without their nulls. -/
theorem joined_present_iff (xs : List Scalar) :
    joined xs = joined (present xs) ↔ ∀ x ∈ xs, x.isNull = false := by
  constructor
  · intro h
    have hlength : room xs - 1 = room (present xs) - 1 := by
      have htexts := congrArg String.length (Scalar.text.inj h)
      rwa [length_intercalate_comma, length_intercalate_comma, List.map_map, List.map_map] at htexts
    have hroom := room_present xs
    have hnone : xs.countP isNull = 0 := by omega
    exact fun x hx => Bool.eq_false_iff.2 (List.countP_eq_zero.1 hnone x hx)
  · intro h
    rw [present_eq_self.2 h]

end Scalar

/-- The values of a list other than the nulls. -/
def Value.present (items : List Value) : List Value :=
  items.filter fun item => !item.isNull

/-- A conversion makes the null of the null, and of nothing else. -/
structure ValueType.KeepsNull (convert : ValueType) : Prop where
  null : convert .null = .ok .null
  isNull : ∀ {v x}, convert v = .ok x → x.isNull = v.isNull

theorem Value.infer_keepsNull : ValueType.KeepsNull Value.infer :=
  ⟨rfl, isNull_infer⟩

theorem BuiltinType.scalar_keepsNull (t : BuiltinType) : ValueType.KeepsNull t.scalar :=
  ⟨rfl, isNull_scalar⟩

theorem ValueType.KeepsNull.mapM_present {convert : ValueType} (h : KeepsNull convert)
    (items : List Value) :
    (Value.present items).mapM convert = (items.mapM convert).map Scalar.present := by
  refine mapM_filter (fun v x hx => ?_) (fun v hv => ?_) items
  · rw [h.isNull hx]
  · cases v with
    | null => exact ⟨.null, h.null⟩
    | _ => cases hv

theorem ValueType.KeepsNull.forall_isNull {convert : ValueType} (h : KeepsNull convert)
    {items : List Value} {xs : List Scalar} (hxs : items.mapM convert = .ok xs) :
    (∀ x ∈ xs, x.isNull = false) ↔ ∀ item ∈ items, item.isNull = false := by
  have hscalars := mapM_eq_ok_iff.1 hxs
  constructor
  · intro hall item hitem
    obtain ⟨x, hx, hscalar⟩ := forall₂_exists hscalars.flip hitem
    rw [← h.isNull hscalar, hall x hx]
  · intro hall x hx
    obtain ⟨item, hitem, hscalar⟩ := forall₂_exists hscalars hx
    rw [h.isNull hscalar, hall item hitem]

namespace BuiltinType

theorem itemTexts_text (texts : List String) : itemTexts (texts.map .text) = .ok texts := by
  induction texts with
  | nil => rfl
  | cons text rest ih =>
    rw [List.map_cons, itemTexts, ih]
    rfl

theorem itemTexts_eq (items : List Value) :
    itemTexts items =
      (items.mapM Value.infer).map fun xs => (Scalar.present xs).map Scalar.display := by
  induction items with
  | nil => rfl
  | cons item rest ih =>
    rw [itemTexts, List.mapM_cons, ih]
    cases item.infer with
    | error e => rfl
    | ok x =>
      cases rest.mapM Value.infer with
      | error e => rfl
      | ok xs => cases x <;> rfl

theorem list_scalar (items : List Value) :
    list.scalar (.list items) =
      (items.mapM Value.infer).map fun xs => Scalar.joined (Scalar.present xs) := by
  change (itemTexts items).map _ = _
  rw [itemTexts_eq]
  cases items.mapM Value.infer <;> rfl

theorem list_scalar_present (items : List Value) :
    list.scalar (.list items) = list.scalar (.list (Value.present items)) := by
  rw [list_scalar, list_scalar, Value.infer_keepsNull.mapM_present]
  cases items.mapM Value.infer with
  | error e => rfl
  | ok xs =>
    change Except.ok (Scalar.joined (Scalar.present xs)) = .ok (Scalar.joined (Scalar.present _))
    rw [Scalar.present_present]

theorem list_scalar_texts (xs : List Scalar) :
    list.scalar (.list (xs.map fun x => .text x.display)) = .ok (Scalar.joined xs) := by
  have htexts := itemTexts_text (xs.map Scalar.display)
  rw [List.map_map] at htexts
  exact congrArg (Except.map _) htexts

end BuiltinType

namespace TypeRegistry

theorem scalar_list {types : TypeRegistry} {name : String} {convert : ValueType}
    (hname : types.get? name = some convert) (items : List Value) :
    types.scalar (some ⟨name, true⟩) (.list items) = (items.mapM convert).map Scalar.joined := by
  rw [scalar, scalarOf_list hname rfl, itemValues_eq]
  cases items.mapM convert with
  | error e => rfl
  | ok xs => exact BuiltinType.list_scalar_texts xs

/-- A list column is stored as it is without its nulls if and only if it has none, or is not
stored. -/
theorem scalar_list_present_iff {types : TypeRegistry} {name : String} {convert : ValueType}
    (hname : types.get? name = some convert) (hnull : convert.KeepsNull) (items : List Value) :
    types.scalar (some ⟨name, true⟩) (.list items) =
        types.scalar (some ⟨name, true⟩) (.list (Value.present items)) ↔
      (∀ item ∈ items, item.isNull = false) ∨ ∃ item ∈ items, ∃ e, convert item = .error e := by
  rw [scalar_list hname, scalar_list hname, hnull.mapM_present]
  cases hitems : items.mapM convert with
  | error e =>
    obtain ⟨before, item, after, rfl, _, he⟩ := mapM_eq_error_iff.1 hitems
    exact iff_of_true rfl (.inr ⟨item, List.mem_append_cons_self, e, he⟩)
  | ok xs =>
    have hstored : ¬∃ item ∈ items, ∃ e, convert item = .error e := by
      rintro ⟨item, hitem, e, he⟩
      obtain ⟨x, _, hx⟩ := forall₂_exists (mapM_eq_ok_iff.1 hitems).flip hitem
      rw [he] at hx
      cases hx
    rw [or_iff_left hstored, ← hnull.forall_isNull hitems, ← Scalar.joined_present_iff]
    exact iff_of_eq (Except.ok.injEq ..)

/-- A column of a built-in type stores a list as it does without the nulls if and only if there is
none, or the list cannot be stored. The list type stores every list as it does without the nulls. -/
theorem scalar_withoutNulls {name : String} {t : BuiltinType}
    (hname : builtins.get? name = some t.scalar) (items : List Value) :
    (builtins.scalar (some ⟨name, true⟩) (.list items) =
        builtins.scalar (some ⟨name, true⟩) (.list (Value.present items)) ↔
      (∀ item ∈ items, item.isNull = false) ∨ ∃ item ∈ items, ∃ e, t.scalar item = .error e) ∧
    BuiltinType.list.scalar (.list items) =
      BuiltinType.list.scalar (.list (Value.present items)) :=
  ⟨scalar_list_present_iff hname t.scalar_keepsNull items, BuiltinType.list_scalar_present items⟩

/-- Texts are all stored, so a null among them shows. -/
theorem scalar_withoutNulls_texts :
    builtins.get? "string" = some BuiltinType.string.scalar ∧
      builtins.scalar (some ⟨"string", true⟩) (.list [.text "NULL", .null]) ≠
        builtins.scalar (some ⟨"string", true⟩) (.list [.text "NULL"]) := by
  have hname : builtins.get? "string" = some BuiltinType.string.scalar := by cbv
  refine ⟨hname, fun h => ?_⟩
  rcases (scalar_withoutNulls hname [.text "NULL", .null]).1.1 h with hnone | ⟨item, hitem, e, he⟩
  · exact Bool.noConfusion (hnone .null (by simp))
  · simp only [List.mem_cons, List.not_mem_nil, or_false] at hitem
    obtain rfl | rfl := hitem <;> cases he

/-- A null among integers is stored as a word, and in a column of texts as that word would be. -/
theorem scalar_withNull_ne :
    builtins.scalar (some (.ofText "integer[]")) (.list [.integer 1, .null, .integer 2]) ≠
        builtins.scalar (some (.ofText "integer[]"))
          (.list (Value.present [.integer 1, .null, .integer 2])) ∧
      builtins.scalar (some (.ofText "integer[]")) (.list [.integer 1, .null, .integer 2]) =
        .ok (.text "1,NULL,2") ∧
      BuiltinType.list.scalar (.list [.integer 1, .null, .integer 2]) = .ok (.text "1,2") ∧
      builtins.scalar (some (.ofText "string[]")) (.list [.null]) =
        builtins.scalar (some (.ofText "string[]")) (.list [.text "NULL"]) := by
  have hkept : builtins.scalar (some (.ofText "integer[]"))
      (.list [.integer 1, .null, .integer 2]) = .ok (.text "1,NULL,2") := by cbv
  have hpresent : builtins.scalar (some (.ofText "integer[]"))
      (.list (Value.present [.integer 1, .null, .integer 2])) = .ok (.text "1,2") := by cbv
  refine ⟨?_, hkept, by cbv, by cbv⟩
  rw [hkept, hpresent]
  simp

end TypeRegistry

end ParamSql
