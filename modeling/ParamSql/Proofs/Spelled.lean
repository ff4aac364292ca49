import ParamSql.Compile.Interpolation
import ParamSql.Proofs.Marked

namespace ParamSql

/-- A text without placeholders and quotes. -/
def Ordinary (s : String) : Prop :=
  ∀ c ∈ s.toList, c ≠ '?' ∧ Interpolation.isQuote c = false

instance : DecidablePred Ordinary := fun s =>
  List.decidableBAll (fun c => c ≠ '?' ∧ Interpolation.isQuote c = false) s.toList

namespace Dialect

variable (d : Dialect)

theorem isQuote_identifierQuote : Interpolation.isQuote d.identifierQuote = true := by
  cases d <;> rfl

theorem identifierQuote_ne : d.identifierQuote ≠ '?' ∧ d.identifierQuote ≠ literalQuote := by
  cases d <;> decide

theorem toList_quoteIdentifier (s : String) :
    (d.quoteIdentifier s).toList =
      Text.delimited d.identifierQuote (· = d.identifierQuote) s.toList :=
  String.toList_ofList

end Dialect

namespace Marked

/-- Ordinary characters, quoted names and values. -/
inductive Spelled : Marked → Prop
  | nil : Spelled []
  | char {c : Char} {m : Marked} (hc : c ≠ '?') (hquote : Interpolation.isQuote c = false)
    (h : Spelled m) : Spelled (.char c :: m)
  | name (d : Dialect) (s : String) {m : Marked} (h : Spelled m) :
    Spelled (lit (d.quoteIdentifier s) ++ m)
  | value (x : Scalar) {m : Marked} (h : Spelled m) : Spelled (.value x :: m)

/-- The characters, with a literal in the place of each value. -/
def written (literal : Scalar → List Char) (m : Marked) : List Char :=
  m.flatMap fun
    | .char c => [c]
    | .value x => literal x

variable {literal : Scalar → List Char} {m n : Marked}

theorem written_append : written literal (m ++ n) = written literal m ++ written literal n :=
  List.flatMap_append

theorem written_lit (s : String) : written literal (lit s) = s.toList := by
  rw [written, lit, List.flatMap_map]
  exact List.flatMap_singleton' _

theorem Spelled.append (hm : m.Spelled) (hn : n.Spelled) : (m ++ n).Spelled := by
  induction hm with
  | nil => exact hn
  | char hc hquote _ ih => exact .char hc hquote ih
  | name d s _ ih =>
    rw [List.append_assoc]
    exact .name d s ih
  | value x _ ih => exact .value x ih

theorem spelled_lit {s : String} (h : Ordinary s) : (lit s).Spelled := by
  unfold Ordinary at h
  rw [lit]
  revert h
  induction s.toList with
  | nil => exact fun _ => .nil
  | cons c cs ih =>
    intro h
    rw [List.forall_mem_cons] at h
    exact .char h.1.1 h.1.2 (ih h.2)

theorem spelled_name (d : Dialect) (s : String) : (lit (d.quoteIdentifier s)).Spelled := by
  have hname := Spelled.name d s .nil
  rwa [List.append_nil] at hname

theorem eq_of_written (htext : m.text = n.text) (hvalues : m.values = n.values)
    (hwritten : m.written (fun _ => ['!']) = n.written fun _ => ['!']) : m = n := by
  induction m generalizing n with
  | nil =>
    cases n with
    | nil => rfl
    | cons y n => exact nomatch htext
  | cons x m ih =>
    cases n with
    | nil => exact nomatch htext
    | cons y n =>
      obtain ⟨hchar, hrest⟩ := List.cons.inj htext
      cases x with
      | char c =>
        cases y with
        | char c' =>
          obtain rfl : c = c' := hchar
          exact congrArg _ (ih hrest hvalues (List.cons.inj hwritten).2)
        | value x =>
          obtain rfl : c = '?' := hchar
          exact nomatch (List.cons.inj hwritten).1
      | value x =>
        cases y with
        | char c =>
          obtain rfl : '?' = c := hchar
          exact nomatch (List.cons.inj hwritten).1
        | value y =>
          obtain ⟨rfl, hothers⟩ := List.cons.inj hvalues
          exact congrArg _ (ih hrest hothers (List.cons.inj hwritten).2)

end Marked

namespace Interpolation

variable {literal : Scalar → List Char} {xs : List Scalar}

theorem scan_none {c : Char} (hc : c ≠ '?') (rest : List Char) :
    scan literal none xs (c :: rest) =
      c :: scan literal (if isQuote c then some c else none) xs rest := by
  rw [scan]
  · rfl
  · intro _ _ hopened
    exact nomatch hopened
  · intro _ _ _ _ hplace
    exact hc hplace

theorem scan_some {q : Char} (hq : isQuote q = true) (hliteral : q ≠ Dialect.literalQuote) (c : Char)
    (rest : List Char) :
    scan literal (some q) xs (c :: rest) =
      c :: scan literal (if c = q then none else some q) xs rest := by
  rw [scan]
  · by_cases hc : c = q
    · simp [hc, hq, toggle]
    · simp [hc, toggle, Ne.symm hc]
  · intro _ _ hopened
    exact absurd (Option.some.inj hopened) hliteral
  · intro _ _ hopened
    exact nomatch hopened

theorem scan_doubled {q : Char} (hq : isQuote q = true) (hliteral : q ≠ Dialect.literalQuote)
    (hplace : q ≠ '?') (cs rest : List Char) :
    scan literal (some q) xs (Text.doubled (· = q) cs ++ q :: rest) =
      Text.doubled (· = q) cs ++ q :: scan literal none xs rest := by
  induction cs with
  | nil =>
    change scan literal (some q) xs (q :: rest) = q :: _
    rw [scan_some hq hliteral, if_pos rfl]
  | cons c cs ih =>
    by_cases hc : c = q
    · subst hc
      have hdoubled : Text.doubled (· = c) (c :: cs) = c :: c :: Text.doubled (· = c) cs := by
        simp [Text.doubled]
      rw [hdoubled]
      simp only [List.cons_append]
      rw [scan_some hq hliteral, if_pos rfl, scan_none hplace, if_pos hq, ih]
    · have hdoubled : Text.doubled (· = q) (c :: cs) = c :: Text.doubled (· = q) cs := by
        simp [Text.doubled, hc]
      rw [hdoubled, List.cons_append, List.cons_append, scan_some hq hliteral, if_neg hc, ih]

theorem scan_name (d : Dialect) (s : String) (rest : List Char) :
    scan literal none xs ((d.quoteIdentifier s).toList ++ rest) =
      (d.quoteIdentifier s).toList ++ scan literal none xs rest := by
  obtain ⟨hplace, hliteral⟩ := d.identifierQuote_ne
  have hquote := d.isQuote_identifierQuote
  rw [d.toList_quoteIdentifier, Text.delimited]
  simp only [List.cons_append, List.append_assoc, List.nil_append]
  rw [scan_none hplace, if_pos hquote, scan_doubled hquote hliteral hplace]

/-- Of spelled text the reader finds the placeholders of values, each with its value, and copies
the rest. -/
theorem scan_spelled {m : Marked} (h : m.Spelled) :
    scan literal none m.values m.text = m.written literal := by
  induction h with
  | nil => rfl
  | @char c m hc hquote _ ih =>
    change scan literal none m.values (c :: m.text) = c :: m.written literal
    rw [scan_none hc, hquote, if_neg Bool.false_ne_true, ih]
  | @name d s m _ ih =>
    rw [Marked.values_append, Marked.values_lit, Marked.text_append, Marked.text_lit,
      List.nil_append, scan_name, ih, Marked.written_append, Marked.written_lit]
  | @value x m _ ih =>
    change scan literal none (x :: m.values) ('?' :: m.text) = literal x ++ m.written literal
    rw [scan, ih]

end Interpolation

/-- Spelled text tells where its values stand. -/
theorem Marked.Spelled.unique {m n : Marked} (hm : m.Spelled) (hn : n.Spelled)
    (htext : m.text = n.text) (hvalues : m.values = n.values) : m = n := by
  apply eq_of_written htext hvalues
  rw [← Interpolation.scan_spelled hm, ← Interpolation.scan_spelled hn, htext, hvalues]

/-- A text that is spelled with the given values in the places of its placeholders. -/
def Spelling (sql : String) (xs : List Scalar) : Prop :=
  ∃ m : Marked, m.Spelled ∧ sql.toList = m.text ∧ xs = m.values

/-- A text that is spelled without values. -/
def Quiet (s : String) : Prop :=
  Spelling s []

/-- Results, each in a relation to its values, and the values of all in order. -/
inductive Each {α : Type} (R : α → List Scalar → Prop) : List α → List Scalar → Prop
  | nil : Each R [] []
  | cons {a : α} {as : List α} {xs ys : List Scalar} (ha : R a xs) (has : Each R as ys) :
    Each R (a :: as) (xs ++ ys)

namespace Each

variable {α β : Type} {R : α → List Scalar → Prop} {as : List α} {xs : List Scalar}

theorem map {S : β → List Scalar → Prop} {f : α → β} (h : Each R as xs)
    (hf : ∀ a xs, R a xs → S (f a) xs) : Each S (as.map f) xs := by
  induction h with
  | nil => exact .nil
  | cons ha _ ih => exact .cons (hf _ _ ha) ih

theorem filter {p : α → Bool} (h : Each R as xs) (hp : ∀ a xs, R a xs → p a = false → xs = []) :
    Each R (as.filter p) xs := by
  induction h with
  | nil => exact .nil
  | @cons a _ xs _ ha _ ih =>
    rw [List.filter_cons]
    split
    · exact .cons ha ih
    · rename_i hnot
      rw [hp a xs ha (Bool.eq_false_iff.2 hnot), List.nil_append]
      exact ih

end Each

namespace Spelling

variable {s t : String} {xs ys : List Scalar}

theorem one (x : Scalar) : Spelling "?" [x] :=
  ⟨Marked.one x, .value x .nil, rfl, rfl⟩

theorem append (hs : Spelling s xs) (ht : Spelling t ys) : Spelling (s ++ t) (xs ++ ys) := by
  obtain ⟨m, hm, hsm, rfl⟩ := hs
  obtain ⟨n, hn, htn, rfl⟩ := ht
  refine ⟨m ++ n, hm.append hn, ?_, (Marked.values_append m n).symm⟩
  rw [String.toList_append, Marked.text_append, hsm, htn]

theorem before (hs : Spelling s xs) (ht : Quiet t) : Spelling (s ++ t) xs := by
  have happend := hs.append ht
  rwa [List.append_nil] at happend

theorem behind (ht : Spelling t xs) (hs : Quiet s) : Spelling (s ++ t) xs :=
  Spelling.append hs ht

theorem between {a b : String} (h : Spelling s xs) (ha : Quiet a) (hb : Quiet b) :
    Spelling (a ++ s ++ b) xs :=
  (h.behind ha).before hb

theorem values_eq_nil (h : Spelling "" xs) : xs = [] := by
  obtain ⟨m, _, htext, rfl⟩ := h
  rw [show m = [] from List.map_eq_nil_iff.1 htext.symm]
  rfl

end Spelling

namespace Quiet

variable {s t : String}

theorem word (h : Ordinary s) : Quiet s :=
  ⟨Marked.lit s, Marked.spelled_lit h, (Marked.text_lit s).symm, (Marked.values_lit s).symm⟩

theorem empty : Quiet "" := .word (by decide)

theorem space : Quiet " " := .word (by decide)

theorem comma : Quiet ", " := .word (by decide)

theorem name (d : Dialect) (s : String) : Quiet (d.quoteIdentifier s) :=
  ⟨Marked.lit _, Marked.spelled_name d s, (Marked.text_lit _).symm, (Marked.values_lit _).symm⟩

theorem append (hs : Quiet s) (ht : Quiet t) : Quiet (s ++ t) :=
  Spelling.append hs ht

theorem toString (n : Nat) : Quiet (toString n) := by
  apply word
  intro c hc
  rw [Nat.toString_eq_repr, Nat.toList_repr] at hc
  have hdigit := Nat.isDigit_of_mem_toDigits (by decide) (by decide) hc
  constructor
  · rintro rfl
    exact absurd hdigit (by decide)
  · rw [Bool.eq_false_iff]
    intro hquote
    simp only [Interpolation.isQuote, Bool.or_eq_true, decide_eq_true_eq] at hquote
    rcases hquote with (rfl | rfl) | rfl <;> exact absurd hdigit (by decide)

end Quiet

theorem Spelling.parenthesized {s : String} {xs : List Scalar} (h : Spelling s xs) :
    Spelling ("(" ++ s ++ ")") xs :=
  h.between (.word (by decide)) (.word (by decide))

theorem Each.intercalate {ss : List String} {xs : List Scalar} {sep : String}
    (h : Each Spelling ss xs) (hsep : Quiet sep) : Spelling (sep.intercalate ss) xs := by
  induction h with
  | nil =>
    rw [String.intercalate_nil]
    exact Quiet.empty
  | cons ha has ih =>
    cases has with
    | nil =>
      rw [String.intercalate_singleton, List.append_nil]
      exact ha
    | cons _ _ =>
      rw [String.intercalate_cons_cons]
      exact (ha.before hsep).append ih

theorem Quiet.intercalate {ss : List String} {sep : String} (hsep : Quiet sep)
    (h : ∀ s ∈ ss, Quiet s) : Quiet (sep.intercalate ss) := by
  have heach : Each Spelling ss [] := by
    induction ss with
    | nil => exact .nil
    | cons s ss ih =>
      rw [List.forall_mem_cons] at h
      exact .cons h.1 (ih h.2)
  exact heach.intercalate hsep

end ParamSql
