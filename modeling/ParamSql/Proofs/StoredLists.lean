import Mathlib
import ParamSql.Proofs.ListColumns

namespace ParamSql

/-- A text that can be told apart in a list of texts. -/
structure IsWord (s : String) : Prop where
  ne_empty : s ≠ ""
  comma_not_mem : ',' ∉ s.toList

theorem toList_intercalate_comma (texts : List String) :
    (",".intercalate texts).toList = [','].intercalate (texts.map String.toList) :=
  String.toList_intercalate

theorem intercalate_comma_ne_empty {text : String} {rest : List String} (h : IsWord text) :
    ",".intercalate (text :: rest) ≠ "" := by
  intro hempty
  apply h.ne_empty
  cases rest with
  | nil => rwa [String.intercalate_singleton] at hempty
  | cons next rest =>
    rw [String.intercalate_cons_cons, String.append_assoc, String.append_eq_empty_iff] at hempty
    exact hempty.1

theorem splitOn_intercalate_comma {texts : List String} (h : ∀ text ∈ texts, IsWord text)
    (hne : texts ≠ []) :
    (",".intercalate texts).toList.splitOn ',' = texts.map String.toList := by
  rw [toList_intercalate_comma]
  apply List.splitOn_intercalate
  · intro chars hchars
    obtain ⟨text, htext, rfl⟩ := List.mem_map.1 hchars
    exact (h text htext).comma_not_mem
  · rwa [ne_eq, List.map_eq_nil_iff]

theorem intercalate_comma_inj {texts others : List String} (htexts : ∀ text ∈ texts, IsWord text)
    (hothers : ∀ text ∈ others, IsWord text) :
    ",".intercalate texts = ",".intercalate others ↔ texts = others := by
  constructor
  · intro h
    cases texts with
    | nil =>
      cases others with
      | nil => rfl
      | cons other rest =>
        exact absurd h.symm (intercalate_comma_ne_empty (hothers other List.mem_cons_self))
    | cons text texts =>
      have hne : others ≠ [] := by
        rintro rfl
        exact intercalate_comma_ne_empty (htexts text List.mem_cons_self) h
      have hread := splitOn_intercalate_comma htexts (List.cons_ne_nil text texts)
      rw [h, splitOn_intercalate_comma hothers hne] at hread
      exact List.map_injective_iff.2 (fun _ _ => String.toList_inj.1) hread.symm
  · exact congrArg _

theorem map_eq_map_iff_of_forall {α β γ : Type} {p : α → Prop} {f : α → β} {g : α → γ}
    (h : ∀ a b, p a → p b → (f a = f b ↔ g a = g b)) {as bs : List α} (has : ∀ a ∈ as, p a)
    (hbs : ∀ b ∈ bs, p b) : as.map f = bs.map f ↔ as.map g = bs.map g := by
  induction as generalizing bs with
  | nil =>
    cases bs with
    | nil => exact iff_of_true rfl rfl
    | cons b bs => exact iff_of_false nofun nofun
  | cons a as ih =>
    cases bs with
    | nil => exact iff_of_false nofun nofun
    | cons b bs =>
      rw [List.forall_mem_cons] at has hbs
      rw [List.map_cons, List.map_cons, List.map_cons, List.map_cons, List.cons.injEq,
        List.cons.injEq, h a b has.1 hbs.1, ih has.2 hbs.2]

/-- The kinds of items that are stored without being confused with their neighbours. -/
inductive ItemKind
  | bool
  | integer
  | word
  | bytes
  deriving DecidableEq, Repr

namespace ItemKind

/-- The values of a kind. -/
inductive Has : ItemKind → Value → Prop
  | bool (b : Bool) : Has bool (.bool b)
  | integer (n : Int64) : Has integer (.integer n)
  | word {s : String} (h : IsWord s) : Has word (.text s)
  | bytes (b : List UInt8) : Has bytes (.bytes b)

/-- The type of columns for a kind. -/
def type : ItemKind → BuiltinType
  | bool => .boolean
  | integer => .integer
  | word => .string
  | bytes => .binary

end ItemKind

/-- What the text of a list keeps of an item: of bytes their number, of all else everything. -/
def Value.kept : Value → Value
  | .bytes b => .bytes (List.replicate b.length 0)
  | v => v

namespace Scalar

theorem display_integer (n : Int64) : (integer n).display = n.toInt.repr :=
  rfl

theorem display_bytes (b : List UInt8) :
    (bytes b).display = "<" ++ b.length.repr ++ " bytes>" :=
  rfl

theorem comma_not_mem_repr (n : Nat) : ',' ∉ n.repr.toList := by
  intro h
  rw [Nat.toList_repr] at h
  exact absurd (Nat.isDigit_of_mem_toDigits (by decide) (by decide) h) (by decide)

theorem isWord_repr (n : Nat) : IsWord n.repr where
  ne_empty := Nat.repr_ne_empty
  comma_not_mem := comma_not_mem_repr n

theorem isWord_integer (n : Int) : IsWord n.repr := by
  cases n with
  | ofNat n => exact isWord_repr n
  | negSucc n =>
    have hrepr : (Int.negSucc n).repr = "-" ++ n.succ.repr := rfl
    rw [hrepr]
    constructor
    · intro h
      rw [String.append_eq_empty_iff] at h
      exact absurd h.1 (by decide)
    · rw [String.toList_append, List.mem_append, not_or]
      exact ⟨by decide, comma_not_mem_repr n.succ⟩

theorem isWord_bytes (b : List UInt8) : IsWord (bytes b).display := by
  rw [display_bytes]
  constructor
  · intro h
    rw [String.append_assoc, String.append_eq_empty_iff] at h
    exact absurd h.1 (by decide)
  · rw [String.toList_append, String.toList_append, List.mem_append, List.mem_append, not_or,
      not_or]
    exact ⟨⟨by decide, comma_not_mem_repr b.length⟩, by decide⟩

theorem isWord_display {k : ItemKind} {x : Scalar} (h : k.Has x.value) : IsWord x.display := by
  cases x with
  | bool b => cases b <;> exact ⟨by decide, by decide⟩
  | integer n => exact isWord_integer n.toInt
  | text s =>
    cases h with
    | word hs => exact hs
  | bytes b => exact isWord_bytes b
  | _ => cases h

/-- Two scalars of a kind have the same text if and only if what is kept of them is the same. -/
theorem display_eq_iff {k : ItemKind} {x y : Scalar} (hx : k.Has x.value) (hy : k.Has y.value) :
    x.display = y.display ↔ x.value.kept = y.value.kept := by
  cases x with
  | bool b =>
    cases y with
    | bool c =>
      change _ ↔ Value.bool b = .bool c
      rw [Value.bool.injEq]
      cases b <;> cases c <;> decide
    | _ => cases hx; cases hy
  | integer m =>
    cases y with
    | integer n =>
      rw [display_integer, display_integer, Int.repr_inj, Int64.toInt_inj]
      exact (iff_of_eq (Value.integer.injEq m n)).symm
    | _ => cases hx; cases hy
  | text s =>
    cases y with
    | text t => exact (iff_of_eq (Value.text.injEq s t)).symm
    | _ => cases hx; cases hy
  | bytes b =>
    cases y with
    | bytes c =>
      rw [display_bytes, display_bytes, String.append_left_inj, String.append_right_inj,
        Nat.repr_inj]
      change _ ↔ Value.bytes _ = .bytes _
      rw [Value.bytes.injEq, List.replicate_left_inj]
    | _ => cases hx; cases hy
  | _ => cases hx

end Scalar

namespace ItemKind

variable {k : ItemKind}

theorem Has.isNull_eq {x : Scalar} (h : k.Has x.value) : x.isNull = false := by
  cases x with
  | null => cases h
  | _ => rfl

theorem Has.scalar {v : Value} (h : k.Has v) :
    ∃ x : Scalar, x.value = v ∧ v.infer = .ok x ∧ k.type.scalar v = .ok x := by
  cases h with
  | bool b => exact ⟨.bool b, rfl, rfl, rfl⟩
  | integer n => exact ⟨.integer n, rfl, rfl, rfl⟩
  | @word s => exact ⟨.text s, rfl, rfl, rfl⟩
  | bytes b => exact ⟨.bytes b, rfl, rfl, rfl⟩

theorem exists_scalars {items : List Value} (h : ∀ v ∈ items, k.Has v) :
    ∃ xs : List Scalar, xs.map Scalar.value = items ∧ items.mapM Value.infer = .ok xs ∧
      items.mapM k.type.scalar = .ok xs := by
  induction items with
  | nil => exact ⟨[], rfl, rfl, rfl⟩
  | cons v items ih =>
    rw [List.forall_mem_cons] at h
    obtain ⟨x, hvalue, hinfer, htype⟩ := h.1.scalar
    obtain ⟨xs, hvalues, hinfers, htypes⟩ := ih h.2
    refine ⟨x :: xs, by rw [List.map_cons, hvalue, hvalues], ?_, ?_⟩
    · rw [List.mapM_cons, hinfer, hinfers]
      rfl
    · rw [List.mapM_cons, htype, htypes]
      rfl

theorem Has.kept_eq {v : Value} (h : k.Has v) (hk : k ≠ .bytes) : v.kept = v := by
  cases h with
  | bytes b => exact absurd rfl hk
  | _ => rfl

theorem joined_eq_iff {xs ys : List Scalar} (hxs : ∀ x ∈ xs, k.Has x.value)
    (hys : ∀ y ∈ ys, k.Has y.value) :
    Scalar.joined xs = Scalar.joined ys ↔
      (xs.map Scalar.value).map Value.kept = (ys.map Scalar.value).map Value.kept := by
  have hwords {zs : List Scalar} (hzs : ∀ z ∈ zs, k.Has z.value) :
      ∀ text ∈ zs.map Scalar.display, IsWord text :=
    List.forall_mem_map.2 fun z hz => Scalar.isWord_display (hzs z hz)
  rw [Scalar.joined, Scalar.joined, Scalar.text.injEq,
    intercalate_comma_inj (hwords hxs) (hwords hys), List.map_map, List.map_map]
  exact map_eq_map_iff_of_forall (p := fun x => k.Has x.value)
    (fun x y => Scalar.display_eq_iff) hxs hys

/-- The list type and the columns of a kind store the items of the kind as the same text. -/
theorem stored_joined {name : String}
    (hname : TypeRegistry.builtins.get? name = some k.type.scalar) {items : List Value}
    (hitems : ∀ v ∈ items, k.Has v) :
    ∃ xs : List Scalar, xs.map Scalar.value = items ∧
      BuiltinType.list.scalar (.list items) = .ok (Scalar.joined xs) ∧
      TypeRegistry.builtins.scalar (some ⟨name, true⟩) (.list items) = .ok (Scalar.joined xs) := by
  obtain ⟨xs, hvalues, hinfer, htype⟩ := exists_scalars hitems
  have hpresent : Scalar.present xs = xs := by
    rw [Scalar.present_eq_self]
    intro x hx
    apply Has.isNull_eq (k := k)
    exact hitems x.value (hvalues ▸ List.mem_map_of_mem hx)
  refine ⟨xs, hvalues, ?_, ?_⟩
  · rw [BuiltinType.list_scalar, hinfer]
    exact congrArg (fun xs => Except.ok (Scalar.joined xs)) hpresent
  · rw [TypeRegistry.scalar_list hname, htype]
    rfl

end ItemKind

namespace TypeRegistry

/-- Lists of a kind are always stored, by the list type and in columns of the kind. Two of them are
stored alike if and only if what is kept of their items is the same: if and only if they are equal,
unless the items are bytes. -/
theorem stored_eq_iff {k : ItemKind} {name : String}
    (hname : builtins.get? name = some k.type.scalar) {items others : List Value}
    (hitems : ∀ v ∈ items, k.Has v) (hothers : ∀ v ∈ others, k.Has v) :
    ∀ store ∈ [BuiltinType.list.scalar, builtins.scalar (some ⟨name, true⟩)],
      (∃ text, store (.list items) = .ok (.text text)) ∧
      (store (.list items) = store (.list others) ↔
        items.map Value.kept = others.map Value.kept) ∧
      (k ≠ .bytes → (store (.list items) = store (.list others) ↔ items = others)) := by
  obtain ⟨xs, rfl, hlist, hcolumn⟩ := ItemKind.stored_joined hname hitems
  obtain ⟨ys, rfl, hlist', hcolumn'⟩ := ItemKind.stored_joined hname hothers
  rw [List.forall_mem_map] at hitems hothers
  have hkept (hk : k ≠ .bytes) {zs : List Scalar} (hzs : ∀ z ∈ zs, k.Has z.value) :
      (zs.map Scalar.value).map Value.kept = zs.map Scalar.value := by
    rw [List.map_map]
    exact List.map_congr_left fun z hz => (hzs z hz).kept_eq hk
  intro store hstore
  have hstored : store (.list (xs.map Scalar.value)) = .ok (Scalar.joined xs) ∧
      store (.list (ys.map Scalar.value)) = .ok (Scalar.joined ys) := by
    rcases List.mem_pair.1 hstore with rfl | rfl
    · exact ⟨hlist, hlist'⟩
    · exact ⟨hcolumn, hcolumn'⟩
  rw [hstored.1, hstored.2, Except.ok.injEq, ItemKind.joined_eq_iff hitems hothers]
  refine ⟨⟨_, rfl⟩, Iff.rfl, fun hk => ?_⟩
  rw [hkept hk hitems, hkept hk hothers]

/-- The word for the null is a word like others, and a blank is part of a word. -/
theorem stored_eq_iff_words :
    builtins.get? "string" = some ItemKind.word.type.scalar ∧
      ItemKind.word.Has (.text "a b") ∧
      builtins.scalar (some ⟨"string", true⟩) (.list [.text "NULL", .text "a b"]) ≠
        builtins.scalar (some ⟨"string", true⟩) (.list [.text "a b", .text "NULL"]) := by
  have hname : builtins.get? "string" = some ItemKind.word.type.scalar := by cbv
  have hnull : ItemKind.word.Has (.text "NULL") := .word ⟨by decide, by decide⟩
  have hwords : ItemKind.word.Has (.text "a b") := .word ⟨by decide, by decide⟩
  refine ⟨hname, hwords, fun h => ?_⟩
  have hboth {v w : Value} (hv : ItemKind.word.Has v) (hw : ItemKind.word.Has w) :
      ∀ u ∈ [v, w], ItemKind.word.Has u :=
    List.forall_mem_cons.2 ⟨hv, List.forall_mem_singleton.2 hw⟩
  have hcolumn := stored_eq_iff hname (hboth hnull hwords) (hboth hwords hnull) _
    (List.mem_cons_of_mem _ List.mem_cons_self)
  have hsame := (hcolumn.2.2 ItemKind.noConfusion).1 h
  rw [List.cons.injEq, Value.text.injEq] at hsame
  exact absurd hsame.1 (by decide)

/-- One byte is stored like another. -/
theorem bytes_stored_alike :
    BuiltinType.list.scalar (.list [.bytes [0x61]]) = .ok (.text "<1 bytes>") ∧
      BuiltinType.list.scalar (.list [.bytes [0x62]]) = .ok (.text "<1 bytes>") ∧
      builtins.scalar (some (.ofText "binary[]")) (.list [.bytes [0x61]]) =
        .ok (.text "<1 bytes>") ∧
      builtins.scalar (some (.ofText "binary[]")) (.list [.bytes [0x62]]) =
        .ok (.text "<1 bytes>") ∧
      Value.list [.bytes [0x61]] ≠ .list [.bytes [0x62]] := by
  refine ⟨by cbv, by cbv, by cbv, by cbv, fun h => ?_⟩
  cases h

end TypeRegistry

end ParamSql
