import Mathlib
import ParamSql.Proofs.Kinds

namespace ParamSql

namespace Decimal

/-- Whether a double is a number. -/
def IsFinite (x : Float) : Prop :=
  ∃ negative significand exponent, exact x = .finite negative significand exponent

end Decimal

namespace Json

def Number.IsFinite : Number → Prop
  | .real x => Decimal.IsFinite x
  | .natural _ | .negative _ => True

mutual

/-- Whether all numbers outside the objects of a document are finite. In documents that have been
read, all numbers are. -/
def IsFinite : Json → Prop
  | .number n => n.IsFinite
  | .array items => AreFinite items
  | .null | .bool _ | .string _ | .object _ => True

def AreFinite : List Json → Prop
  | [] => True
  | item :: rest => IsFinite item ∧ AreFinite rest

end

mutual

/-- How many numbers outside the objects of a document are naturals beyond the integers of 64 bits
with sign. -/
def oversized : Json → Nat
  | .number (.natural n) => if n.toNat < Nat.pow 2 63 then 0 else 1
  | .array items => oversizedItems items
  | .null | .bool _ | .number _ | .string _ | .object _ => 0

def oversizedItems : List Json → Nat
  | [] => 0
  | item :: rest => oversized item + oversizedItems rest

end

/-- Whether a character stands in the text of a double or of what is no number, but never in that
of an integer. -/
def isMark (c : Char) : Bool :=
  c = '.' || c = 'e' || c = 'n'

/-- The number of such characters in a text. -/
def marks (s : String) : Nat :=
  s.toList.countP isMark

theorem marks_append (s t : String) : marks (s ++ t) = marks s + marks t := by
  rw [marks, String.toList_append, List.countP_append]
  rfl

theorem marks_intercalate (texts : List String) :
    marks (",".intercalate texts) = (texts.map marks).sum := by
  induction texts with
  | nil => rfl
  | cons first rest ih =>
    cases rest with
    | nil => rw [String.intercalate_singleton, List.map_singleton, List.sum_singleton]
    | cons second rest =>
      have hcomma : marks "," = 0 := rfl
      rw [String.intercalate_cons_cons, marks_append, marks_append, ih, hcomma, Nat.add_zero]
      rfl

theorem marks_array (items : List Json) :
    marks (text (.array items)) = ((texts items).map marks).sum := by
  have hopen : marks "[" = 0 := rfl
  have hclose : marks "]" = 0 := rfl
  rw [text, marks_append, marks_append, marks_intercalate, hopen, hclose]
  omega

theorem marks_repr (n : Nat) : marks (toString n) = 0 := by
  apply List.countP_eq_zero.2
  intro c hc hmark
  rw [Nat.toString_eq_repr, Nat.toList_repr] at hc
  have hdigit := Nat.isDigit_of_mem_toDigits (by decide) (by decide) hc
  simp only [isMark, Bool.or_eq_true, decide_eq_true_eq] at hmark
  obtain (rfl | rfl) | rfl := hmark <;> cases hdigit

theorem one_le_marks {s : String} {c : Char} (hc : c ∈ s.toList) (hmark : isMark c) :
    1 ≤ marks s :=
  List.countP_pos_iff.2 ⟨c, hc, hmark⟩

theorem point_mem_positionalText (digits : List Char) (places : Int) :
    '.' ∈ layout.positionalText digits places := by
  rw [Decimal.Layout.positionalText]
  split
  · simp
  · split
    · simp [layout]
    · simp

theorem e_mem_scientificText (digits : List Char) (exponent : Int) :
    'e' ∈ layout.scientificText digits exponent := by
  rw [Decimal.Layout.scientificText]
  simp

theorem exists_mark_sizeText (significand : Nat) (exponent : Int) :
    ∃ c ∈ layout.sizeText significand exponent, isMark c := by
  rw [Decimal.Layout.sizeText]
  split
  · exact ⟨'.', point_mem_positionalText _ _, rfl⟩
  · exact ⟨'e', e_mem_scientificText _ _, rfl⟩

theorem one_le_marks_real (x : Float) : 1 ≤ marks (layout.text x) := by
  rw [Decimal.Layout.text]
  split
  · exact one_le_marks (c := 'n') (by decide) rfl
  · rw [marks_append]
    have hnull : 1 ≤ marks layout.infinite := one_le_marks (c := 'n') (by decide) rfl
    omega
  · rename_i significand exponent _
    rw [marks_append]
    have hsize : 1 ≤ marks (if significand = 0 then (if layout.pointed then "0.0" else "0")
        else String.ofList (layout.sizeText significand exponent)) := by
      split
      · exact one_le_marks (c := '.') (by decide) rfl
      · obtain ⟨c, hc, hmark⟩ := exists_mark_sizeText significand exponent
        exact one_le_marks (by rwa [String.toList_ofList]) hmark
    omega

/-- The text of the document that an imported value is written as. -/
def importedText (d : Json) : String :=
  (Value.ofJson d).toJson.text

theorem text_ofInt64 (n : Int64) : (Number.ofInt64 n).text = toString n.toInt := by
  rw [Number.ofInt64]
  split
  · rfl
  · rename_i hn
    have hlt : n.toInt < 2 ^ 63 := n.toInt_lt
    have hsize : n.toInt.toNat < UInt64.size := by
      rw [UInt64.size]
      omega
    have htext : toString ((n.toInt.toNat : Nat) : Int) = toString n.toInt := by
      rw [Int.toNat_of_nonneg (by omega)]
    rw [Number.text, UInt64.toNat_ofNat_of_lt' hsize, ← htext]
    rfl

theorem importedText_natural {n : UInt64} (h : n.toNat < Nat.pow 2 63) :
    importedText (.number (.natural n)) = text (.number (.natural n)) := by
  have hvalue : Value.ofJson (.number (.natural n)) = .integer (Int64.ofInt n.toNat) := by
    rw [Value.ofJson, if_pos h]
  have hint : (Int64.ofInt n.toNat).toInt = n.toNat :=
    Int64.toInt_ofInt_of_le (by omega) (by exact_mod_cast h)
  rw [importedText, hvalue, Value.toJson, text, text_ofInt64, hint]
  rfl

theorem importedText_negative (n : Int64) :
    importedText (.number (.negative n)) = text (.number (.negative n)) :=
  text_ofInt64 n

theorem importedText_real {x : Float} (h : Decimal.IsFinite x) :
    importedText (.number (.real x)) = text (.number (.real x)) := by
  obtain ⟨negative, significand, exponent, h⟩ := h
  rw [importedText, Value.ofJson, Value.toJson, h]

theorem one_le_marks_importedText {n : UInt64} (h : ¬n.toNat < Nat.pow 2 63) :
    1 ≤ marks (importedText (.number (.natural n))) := by
  rw [importedText, Value.ofJson, if_neg h, Value.toJson]
  split
  · exact one_le_marks_real _
  · exact one_le_marks (c := 'n') (by decide) rfl
  · exact one_le_marks (c := 'n') (by decide) rfl

/-- Every oversized natural adds to the characters that only doubles have, and nothing takes one of
them away. -/
structure Imported (d : Json) : Prop where
  text_eq : d.oversized = 0 → importedText d = d.text
  marks_le : marks d.text + d.oversized ≤ marks (importedText d)

theorem Imported.of_eq {d : Json} (htext : importedText d = d.text) (hnone : d.oversized = 0) :
    Imported d where
  text_eq _ := htext
  marks_le := by rw [htext, hnone, Nat.add_zero]

theorem imported_natural (n : UInt64) : Imported (.number (.natural n)) := by
  by_cases hn : n.toNat < Nat.pow 2 63
  · exact .of_eq (importedText_natural hn) (if_pos hn)
  · have hone : oversized (.number (.natural n)) = 1 := if_neg hn
    have hnatural : marks (text (.number (.natural n))) = 0 := marks_repr n.toNat
    have hdouble := one_le_marks_importedText hn
    constructor
    · intro hnone
      omega
    · omega

theorem importedText_array (items : List Json) : importedText (.array items) =
    text (.array (Value.toJsonItems (Value.ofJsonItems items))) :=
  rfl

theorem importedTexts_cons (item : Json) (rest : List Json) :
    texts (Value.toJsonItems (Value.ofJsonItems (item :: rest))) =
      importedText item :: texts (Value.toJsonItems (Value.ofJsonItems rest)) :=
  rfl

mutual

theorem imported : ∀ {d : Json}, d.IsFinite → Imported d
  | .null, _ => .of_eq rfl rfl
  | .bool _, _ => .of_eq rfl rfl
  | .number (.natural n), _ => imported_natural n
  | .number (.negative n), _ => .of_eq (importedText_negative n) rfl
  | .number (.real _), h => .of_eq (importedText_real h) rfl
  | .string _, _ => .of_eq rfl rfl
  | .object _, _ => .of_eq rfl rfl
  | .array items, h => by
    obtain ⟨hsame, hmarks⟩ := importedItems h
    constructor
    · intro hnone
      rw [importedText_array, text, text, hsame hnone]
    · rw [importedText_array, marks_array, marks_array]
      exact hmarks

theorem importedItems : ∀ {items : List Json}, AreFinite items →
    (oversizedItems items = 0 →
      texts (Value.toJsonItems (Value.ofJsonItems items)) = texts items) ∧
      ((texts items).map marks).sum + oversizedItems items ≤
        ((texts (Value.toJsonItems (Value.ofJsonItems items))).map marks).sum
  | [], _ => ⟨fun _ => rfl, Nat.le_refl 0⟩
  | item :: rest, h => by
    obtain ⟨hsame, hmarks⟩ := imported h.1
    obtain ⟨hsames, hrest⟩ := importedItems h.2
    rw [importedTexts_cons, texts, oversizedItems, List.map_cons, List.map_cons, List.sum_cons,
      List.sum_cons]
    constructor
    · intro hnone
      rw [hsame (by omega), hsames (by omega)]
    · omega

end

/-- A document is imported with its text if and only if no natural in it becomes a double. -/
theorem importedText_eq_iff {d : Json} (h : d.IsFinite) :
    importedText d = d.text ↔ d.oversized = 0 := by
  have himported := imported h
  constructor
  · intro htext
    have hmarks := himported.marks_le
    rw [htext] at hmarks
    omega
  · exact himported.text_eq

/-- An array in which the largest integer stands beside an object with a larger one. -/
def numbered : Json :=
  .array [.number (.natural 9223372036854775807), .null,
    .object [("id", .number (.natural 9223372036854775808))]]

end Json

namespace BuiltinType

theorem ofJson_ne_null {d : Json} (h : d ≠ .null) : Value.ofJson d ≠ .null := by
  cases d with
  | null => exact absurd rfl h
  | number n =>
    cases n with
    | natural n =>
      rw [Value.ofJson]
      split <;> nofun
    | negative n => exact nofun
    | real x => exact nofun
  | bool b => exact nofun
  | string s => exact nofun
  | array items => exact nofun
  | object members => exact nofun

theorem json_scalar {v : Value} (h : v ≠ .null) : json.scalar v = .ok (.text v.toJson.text) :=
  scalar_eq_convert h

/-- A document other than the null is imported without loss, seen by the type of documents, if and
only if it has no natural outside its objects that is beyond the integers of 64 bits with sign. -/
theorem json_ofJson_iff {d : Json} (hd : d ≠ .null) (hfinite : d.IsFinite) :
    json.scalar (.ofJson d) = json.scalar (.json d) ↔ d.oversized = 0 := by
  have hjson : Value.json d ≠ .null := nofun
  rw [json_scalar (ofJson_ne_null hd), json_scalar hjson, Except.ok.injEq, Scalar.text.injEq]
  exact Json.importedText_eq_iff hfinite

theorem json_ofJson_numbered :
    Json.numbered ≠ .null ∧ Json.numbered.IsFinite ∧
      json.scalar (.ofJson Json.numbered) = json.scalar (.json Json.numbered) := by
  have hnull : Json.numbered ≠ .null := nofun
  have hfinite : Json.numbered.IsFinite := ⟨trivial, trivial, trivial, trivial⟩
  exact ⟨hnull, hfinite, (json_ofJson_iff hnull hfinite).2 (by decide)⟩

/-- The largest natural of a document loses its last digits. -/
theorem json_ofJson_largest_ne :
    json.scalar (.json (.number (.natural 18446744073709551615))) =
        .ok (.text "18446744073709551615") ∧
      json.scalar (.ofJson (.number (.natural 18446744073709551615))) =
        .ok (.text "1.8446744073709552e+19") := by
  have hnull : Json.number (.natural 18446744073709551615) ≠ .null := nofun
  have htext : Json.importedText (.number (.natural 18446744073709551615)) =
      "1.8446744073709552e+19" := by
    decide +kernel
  constructor
  · cbv
  · rw [json_scalar (ofJson_ne_null hnull)]
    exact congrArg (fun s => Except.ok (Scalar.text s)) htext

end BuiltinType

end ParamSql
