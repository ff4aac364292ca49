import Mathlib
import ParamSql.Calendar

namespace ParamSql

/-- The bytes of a text. -/
def Text.bytes (s : String) : List UInt8 :=
  s.toUTF8.data.toList

namespace Text

def IsAscii (cs : List Char) : Prop :=
  ∀ c ∈ cs, c.toNat < 128

theorem IsAscii.append {cs ds : List Char} (hcs : IsAscii cs) (hds : IsAscii ds) :
    IsAscii (cs ++ ds) :=
  List.forall_mem_append.2 ⟨hcs, hds⟩

theorem bytes_ofList {cs : List Char} (h : IsAscii cs) :
    bytes (String.ofList cs) = cs.map fun c => UInt8.ofNat c.toNat := by
  rw [bytes, String.toUTF8, String.toByteArray_ofList, List.utf8Encode,
    List.toList_data_toByteArray]
  induction cs with
  | nil => rfl
  | cons c cs ih =>
    obtain ⟨hc, hcs⟩ := List.forall_mem_cons.1 h
    have hone : String.utf8EncodeChar c = [UInt8.ofNat c.toNat] := if_pos (Nat.le_of_lt_succ hc)
    rw [List.flatMap_cons, hone, ih hcs, List.map_cons]
    rfl

theorem bytes_lt {cs ds : List Char} (hcs : IsAscii cs) (hds : IsAscii ds) (h : cs < ds) :
    bytes (String.ofList cs) < bytes (String.ofList ds) := by
  rw [bytes_ofList hcs, bytes_ofList hds]
  have hlex : List.Lex (· < ·) cs ds := h
  change List.Lex (· < ·) _ _
  induction hlex with
  | nil => exact .nil
  | @rel c _ d _ hcd =>
    have hc : c.toNat < 128 := hcs c List.mem_cons_self
    have hd : d.toNat < 128 := hds d List.mem_cons_self
    apply List.Lex.rel
    change UInt8.ofNat c.toNat < UInt8.ofNat d.toNat
    rw [UInt8.lt_iff_toNat_lt, UInt8.toNat_ofNat_of_lt' (Nat.lt_trans hc (by decide)),
      UInt8.toNat_ofNat_of_lt' (Nat.lt_trans hd (by decide))]
    exact hcd
  | cons hrest ih =>
    exact .cons (ih (List.forall_mem_cons.1 hcs).2 (List.forall_mem_cons.1 hds).2 hrest)

end Text

theorem append_lt_append {xs ys : List Char} (hlength : xs.length = ys.length) (h : xs < ys)
    (us vs : List Char) : xs ++ us < ys ++ vs := by
  have hlex : List.Lex (· < ·) xs ys := h
  change List.Lex (· < ·) (xs ++ us) (ys ++ vs)
  induction hlex with
  | nil => cases hlength
  | rel hab => exact .rel hab
  | cons hrest ih => exact .cons (ih (Nat.succ.inj hlength) hrest)

section

variable {α β γ δ : Type} {p : α → Prop} {write write' : α → List Char} {key : α → β}
  {key' : α → γ}

/-- Texts that sort by a key: they are equally long, and ordered as their keys are. -/
structure SortsBy [LT β] (p : α → Prop) (write : α → List Char) (key : α → β) : Prop where
  isAscii : ∀ {a}, p a → Text.IsAscii (write a)
  length_eq : ∀ {a b}, p a → p b → (write a).length = (write b).length
  eq_of_eq : ∀ {a b}, p a → p b → key a = key b → write a = write b
  lt_of_lt : ∀ {a b}, p a → p b → key a < key b → write a < write b

/-- Two texts with a separator between them sort by the first key, and then by the second. -/
theorem SortsBy.beside [LT β] [LT γ] (h : SortsBy p write key) (h' : SortsBy p write' key')
    {c : Char} (hc : c.toNat < 128) :
    SortsBy p (fun a => write a ++ c :: write' a) fun a => toLex (key a, key' a) where
  isAscii ha := (h.isAscii ha).append (List.forall_mem_cons.2 ⟨hc, h'.isAscii ha⟩)
  length_eq ha hb := by
    rw [List.length_append, List.length_append, List.length_cons, List.length_cons,
      h.length_eq ha hb, h'.length_eq ha hb]
  eq_of_eq ha hb hkeys := by
    have hboth := Prod.mk.inj (toLex_inj.1 hkeys)
    rw [h.eq_of_eq ha hb hboth.1, h'.eq_of_eq ha hb hboth.2]
  lt_of_lt ha hb hkeys := by
    rcases Prod.Lex.toLex_lt_toLex.1 hkeys with hkey | ⟨hkey, hkey'⟩
    · exact append_lt_append (h.length_eq ha hb) (h.lt_of_lt ha hb hkey) _ _
    · rw [h.eq_of_eq ha hb hkey]
      exact List.append_left_lt (List.Lex.cons (h'.lt_of_lt ha hb hkey'))

theorem SortsBy.comap [LT β] (h : SortsBy p write key) (f : δ → α) :
    SortsBy (p ∘ f) (write ∘ f) (key ∘ f) where
  isAscii ha := h.isAscii ha
  length_eq ha hb := h.length_eq ha hb
  eq_of_eq ha hb := h.eq_of_eq ha hb
  lt_of_lt ha hb := h.lt_of_lt ha hb

theorem SortsBy.append [LT β] (h : SortsBy p write key) {cs : List Char} (hcs : Text.IsAscii cs) :
    SortsBy p (fun a => write a ++ cs) key where
  isAscii ha := (h.isAscii ha).append hcs
  length_eq ha hb := by rw [List.length_append, List.length_append, h.length_eq ha hb]
  eq_of_eq ha hb hkeys := by rw [h.eq_of_eq ha hb hkeys]
  lt_of_lt ha hb hkeys := append_lt_append (h.length_eq ha hb) (h.lt_of_lt ha hb hkeys) cs cs

theorem SortsBy.rekey [LinearOrder β] [Preorder γ] (h : SortsBy p write key)
    (hlt : ∀ {a b}, key a < key b → key' a < key' b)
    (heq : ∀ {a b}, key a = key b → key' a = key' b) : SortsBy p write key' where
  isAscii := h.isAscii
  length_eq := h.length_eq
  eq_of_eq {a b} ha hb hkeys := by
    rcases lt_trichotomy (key a) (key b) with hab | hab | hab
    · exact absurd hkeys (hlt hab).ne
    · exact h.eq_of_eq ha hb hab
    · exact absurd hkeys (hlt hab).ne'
  lt_of_lt {a b} ha hb hkeys := by
    rcases lt_trichotomy (key a) (key b) with hab | hab | hab
    · exact h.lt_of_lt ha hb hab
    · exact absurd (heq hab) hkeys.ne
    · exact absurd (hlt hab) hkeys.asymm

theorem SortsBy.eq_iff [LinearOrder β] (h : SortsBy p write key) {a b : α} (ha : p a) (hb : p b) :
    write a = write b ↔ key a = key b := by
  constructor
  · intro hwrite
    rcases lt_trichotomy (key a) (key b) with hlt | heq | hlt
    · exact absurd (h.lt_of_lt ha hb hlt) (hwrite ▸ List.lt_irrefl _)
    · exact heq
    · exact absurd (h.lt_of_lt hb ha hlt) (hwrite ▸ List.lt_irrefl _)
  · exact h.eq_of_eq ha hb

/-- The bytes of two texts are ordered as their keys are. -/
theorem SortsBy.bytes_le [LinearOrder β] (h : SortsBy p write key) {a b : α} (ha : p a) (hb : p b)
    (hle : key a ≤ key b) :
    Text.bytes (String.ofList (write a)) ≤ Text.bytes (String.ofList (write b)) := by
  rcases hle.lt_or_eq with hlt | heq
  · exact List.le_of_lt (Text.bytes_lt (h.isAscii ha) (h.isAscii hb) (h.lt_of_lt ha hb hlt))
  · rw [h.eq_of_eq ha hb heq]
    exact List.le_refl _

end

namespace Calendar

theorem padded_succ {width : Nat} (hwidth : 0 < width) (n : Nat) :
    padded (width + 1) n = padded width (n / 10) ++ [Nat.digitChar (n % 10)] := by
  rw [padded, padded]
  by_cases hn : n < 10
  · rw [Nat.toDigits_of_lt_base hn, Nat.div_eq_of_lt hn, Nat.mod_eq_of_lt hn]
    have hzero : Nat.toDigits 10 0 = ['0'] := rfl
    have hone : List.replicate (width - 1) '0' ++ ['0'] = List.replicate width '0' := by
      rw [← List.replicate_succ', Nat.sub_add_cancel hwidth]
    rw [hzero, List.length_singleton, List.length_singleton, hone]
    rfl
  · have hdigits := Nat.toDigits_of_base_le (b := 10) (by decide) (Nat.le_of_not_lt hn)
    rw [hdigits, List.length_append, List.length_singleton, Nat.add_sub_add_right,
      List.append_assoc]

theorem length_padded {width n : Nat} (hwidth : 0 < width) (hn : n < 10 ^ width) :
    (padded width n).length = width := by
  have hdigits : (Nat.toDigits 10 n).length ≤ width :=
    (Nat.length_toDigits_le_iff (by decide) hwidth).2 hn
  rw [padded]
  simp only [List.length_append, List.length_replicate]
  omega

theorem isAscii_padded (width n : Nat) : Text.IsAscii (padded width n) := by
  apply Text.IsAscii.append
  · intro c hc
    rw [List.eq_of_mem_replicate hc]
    decide
  · intro c hc
    have hdigit := Nat.isDigit_of_mem_toDigits (by decide) (by decide) hc
    have hnine := (Char.isDigit_iff_toNat.1 hdigit).2
    exact Nat.lt_of_le_of_lt hnine (by decide)

theorem digitChar_lt : ∀ n < 10, ∀ m < n, Nat.digitChar m < Nat.digitChar n := by
  decide

theorem padded_lt {width m n : Nat} (hwidth : 0 < width) (hn : n < 10 ^ width) (h : m < n) :
    padded width m < padded width n := by
  induction width, hwidth using Nat.le_induction generalizing m n with
  | base =>
    have hm : m < 10 := by omega
    have hone : ∀ k < 10, padded 1 k = [Nat.digitChar k] := by decide
    rw [hone m hm, hone n hn]
    exact .rel (digitChar_lt n hn m h)
  | succ width hwidth ih =>
    rw [padded_succ hwidth, padded_succ hwidth]
    have hn' : n / 10 < 10 ^ width := by omega
    have hm' : m / 10 < 10 ^ width := by omega
    by_cases htens : m / 10 < n / 10
    · apply append_lt_append _ (ih hn' htens)
      rw [length_padded hwidth hm', length_padded hwidth hn']
    · have hsame : m / 10 = n / 10 := by omega
      rw [hsame]
      apply List.append_left_lt
      exact .rel (digitChar_lt _ (by omega) _ (by omega))

end Calendar

theorem SortsBy.padded {α : Type} {p : α → Prop} {width : Nat} (hwidth : 0 < width) {f : α → Nat}
    (hf : ∀ {a}, p a → f a < 10 ^ width) :
    SortsBy p (fun a => Calendar.padded width (f a)) f where
  isAscii _ := Calendar.isAscii_padded _ _
  length_eq ha hb := by
    rw [Calendar.length_padded hwidth (hf ha), Calendar.length_padded hwidth (hf hb)]
  eq_of_eq _ _ hkeys := congrArg (Calendar.padded width) hkeys
  lt_of_lt _ hb hkeys := Calendar.padded_lt hwidth (hf hb) hkeys

end ParamSql
