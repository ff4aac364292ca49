import ParamSql.Proofs.Lockstep
import ParamSql.Value

namespace ParamSql

/-- A character, or a value in the place of a placeholder. -/
inductive Mark
  | char (c : Char)
  | value (x : Scalar)
  deriving DecidableEq, Repr

/-- Text with its values inline. -/
abbrev Marked := List Mark

/-- A text in which no placeholder stands. -/
def Plain (s : String) : Prop :=
  '?' ∉ s.toList

instance : DecidablePred Plain := fun s => inferInstanceAs (Decidable (¬ '?' ∈ s.toList))

theorem Plain.append {s t : String} (hs : Plain s) (ht : Plain t) : Plain (s ++ t) := by
  rw [Plain, String.toList_append, List.mem_append, not_or]
  exact ⟨hs, ht⟩

theorem Plain.intercalate {sep : String} (hsep : Plain sep) {ss : List String}
    (h : ∀ s ∈ ss, Plain s) : Plain (sep.intercalate ss) := by
  induction ss with
  | nil => rw [String.intercalate_nil]; decide
  | cons s rest ih =>
    cases rest with
    | nil =>
      rw [String.intercalate_singleton]
      exact h s (List.mem_cons_self ..)
    | cons t rest =>
      rw [String.intercalate_cons_cons]
      exact ((h s (List.mem_cons_self ..)).append hsep).append
        (ih fun u hu => h u (List.mem_cons_of_mem _ hu))

namespace Marked

def lit (s : String) : Marked :=
  s.toList.map .char

def one (x : Scalar) : Marked :=
  [.value x]

/-- The characters, with a placeholder for each value. -/
def text (m : Marked) : List Char :=
  m.map fun
    | .char c => c
    | .value _ => '?'

def values (m : Marked) : List Scalar :=
  m.filterMap fun
    | .char _ => none
    | .value x => some x

/-- Texts one after the other, with a separator between them. -/
def join (sep : String) : List Marked → Marked
  | [] => []
  | [m] => m
  | m :: n :: rest => m ++ lit sep ++ join sep (n :: rest)

/-- The values in the places of the placeholders, as far as there are any. -/
def tag : List Char → List Scalar → Marked
  | [], _ => []
  | '?' :: cs, x :: xs => .value x :: tag cs xs
  | c :: cs, xs => .char c :: tag cs xs

theorem text_append (m n : Marked) : text (m ++ n) = text m ++ text n :=
  List.map_append

@[simp] theorem values_append (m n : Marked) : values (m ++ n) = values m ++ values n :=
  List.filterMap_append

theorem text_lit (s : String) : text (lit s) = s.toList := by
  rw [text, lit, List.map_map]
  exact List.map_id _

@[simp] theorem values_one (x : Scalar) : values (one x) = [x] :=
  List.filterMap_cons_some rfl

@[simp] theorem values_nil : values [] = [] :=
  rfl

@[simp] theorem values_lit (s : String) : values (lit s) = [] := by
  rw [values, lit, List.filterMap_map]
  exact List.filterMap_eq_nil_iff.2 fun _ _ => rfl

@[simp] theorem values_join (sep : String) (ms : List Marked) :
    values (join sep ms) = ms.flatMap values := by
  induction ms with
  | nil => rfl
  | cons m rest ih =>
    cases rest with
    | nil => simp [join]
    | cons n rest =>
      rw [join, values_append, values_append, values_lit, ih, List.append_nil]
      rfl

@[simp] theorem flatMap_values_one (xs : List Scalar) : (xs.map one).flatMap values = xs := by
  rw [List.flatMap_map]
  exact List.flatMap_singleton' xs

theorem tag_cons {c : Char} (h : c ≠ '?') (cs : List Char) (xs : List Scalar) :
    tag (c :: cs) xs = .char c :: tag cs xs := by
  rw [tag]
  exact fun _ _ _ hchar => h hchar

/-- Where the only placeholders are those of values, there are as many placeholders as values, and
the values belong in their places in order. -/
theorem tag_text {m : Marked} (h : .char '?' ∉ m) :
    m.text.count '?' = m.values.length ∧ tag m.text m.values = m := by
  induction m with
  | nil => exact ⟨rfl, rfl⟩
  | cons mark m ih =>
    rw [List.mem_cons, not_or] at h
    obtain ⟨hcount, htag⟩ := ih h.2
    cases mark with
    | value x =>
      refine ⟨?_, congrArg (Mark.value x :: ·) htag⟩
      change ('?' :: text m).count '?' = (values m).length + 1
      rw [List.count_cons_self, hcount]
    | char c =>
      have hc : c ≠ '?' := fun heq => h.1 (by rw [heq])
      constructor
      · change (c :: text m).count '?' = (values m).length
        rw [List.count_cons_of_ne hc, hcount]
      · change tag (c :: text m) (values m) = .char c :: m
        rw [tag_cons hc, htag]

theorem tag_of_count {cs : List Char} {xs : List Scalar} (h : cs.count '?' = xs.length) :
    (tag cs xs).text = cs ∧ (tag cs xs).values = xs ∧ .char '?' ∉ tag cs xs := by
  induction cs generalizing xs with
  | nil =>
    obtain rfl := List.length_eq_zero_iff.1 h.symm
    exact ⟨rfl, rfl, List.not_mem_nil⟩
  | cons c cs ih =>
    by_cases hc : c = '?'
    · subst hc
      rw [List.count_cons_self] at h
      obtain ⟨x, xs, rfl⟩ := List.exists_cons_of_length_eq_add_one h.symm
      obtain ⟨htext, hvalues, hclean⟩ := ih (show cs.count '?' = xs.length from Nat.succ.inj h)
      refine ⟨congrArg ('?' :: ·) htext, congrArg (x :: ·) hvalues, ?_⟩
      rw [tag, List.mem_cons, not_or]
      exact ⟨nofun, hclean⟩
    · rw [List.count_cons_of_ne hc] at h
      obtain ⟨htext, hvalues, hclean⟩ := ih h
      rw [tag_cons hc]
      refine ⟨congrArg (c :: ·) htext, hvalues, ?_⟩
      rw [List.mem_cons, not_or]
      exact ⟨fun heq => hc (Mark.char.inj heq).symm, hclean⟩

end Marked

/-- A text as which marked text is shown, with no placeholder but for values. -/
structure Shows (s : String) (m : Marked) : Prop where
  text : s.toList = m.text
  clean : .char '?' ∉ m

namespace Shows

theorem lit {s : String} (h : Plain s) : Shows s (Marked.lit s) where
  text := (Marked.text_lit s).symm
  clean hmem := by
    obtain ⟨c, hc, heq⟩ := List.mem_map.1 hmem
    exact h (Mark.char.inj heq ▸ hc)

theorem one (x : Scalar) : Shows "?" (Marked.one x) :=
  ⟨rfl, by simp [Marked.one]⟩

theorem append {s t : String} {m n : Marked} (hs : Shows s m) (ht : Shows t n) :
    Shows (s ++ t) (m ++ n) where
  text := by rw [String.toList_append, Marked.text_append, hs.text, ht.text]
  clean hmem := (List.mem_append.1 hmem).elim hs.clean ht.clean

theorem between {a b s : String} {m : Marked} (h : Shows s m) (ha : Plain a) (hb : Plain b) :
    Shows (a ++ s ++ b) (Marked.lit a ++ m ++ Marked.lit b) :=
  ((lit ha).append h).append (lit hb)

theorem join {sep : String} (hsep : Plain sep) {ss : List String} {ms : List Marked}
    (h : List.Forall₂ Shows ss ms) : Shows (sep.intercalate ss) (Marked.join sep ms) := by
  induction h with
  | nil => exact ⟨rfl, List.not_mem_nil⟩
  | @cons s m _ _ hsm hrest ih =>
    cases hrest with
    | nil =>
      rw [String.intercalate_singleton]
      exact hsm
    | cons _ _ =>
      rw [String.intercalate_cons_cons]
      exact (hsm.append (.lit hsep)).append ih

theorem isEmpty_iff {s : String} {m : Marked} (h : Shows s m) : s = "" ↔ m = [] := by
  rw [← String.toList_eq_nil_iff, h.text, Marked.text, List.map_eq_nil_iff]

theorem tag {s : String} {m : Marked} (h : Shows s m) :
    s.toList.count '?' = m.values.length ∧ Marked.tag s.toList m.values = m := by
  rw [h.text]
  exact Marked.tag_text h.clean

end Shows

end ParamSql
