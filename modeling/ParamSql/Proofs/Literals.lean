import Mathlib
import ParamSql.Proofs.Spelled

namespace ParamSql

/-- The number of backslashes that a text ends in, where `n` stand in front of it. -/
def Text.backslashes (n : Nat) (cs : List Char) : Nat :=
  cs.foldl (fun n c => if c = '\\' then n + 1 else 0) n

/-- Where `n` backslashes stand in front of a text, there is an even number of them in front of
each of its quotes and at its end. -/
def Text.Paired (n : Nat) (cs : List Char) : Prop :=
  ∀ before after, cs = before ++ after → (∀ c ∈ after.head?, c = Dialect.literalQuote) →
    Even (Text.backslashes n before)

/-- The reader of placeholders copies a text, takes no value for it and goes on outside of
quotes. -/
def Dialect.Passes (d : Dialect) (text : String) : Prop :=
  ∀ xs rest, Interpolation.scan (fun x => (d.quoteLiteral x).toList) none xs (text.toList ++ rest) =
    text.toList ++ Interpolation.scan (fun x => (d.quoteLiteral x).toList) none xs rest

namespace Text

variable {n : Nat} {c : Char} {cs : List Char}

theorem paired_nil : Paired n [] ↔ Even n := by
  constructor
  · exact fun h => h [] [] rfl nofun
  · intro h before after hsplit _
    rw [(List.append_eq_nil_iff.1 hsplit.symm).1]
    exact h

theorem paired_cons : Paired n (c :: cs) ↔
    (c = Dialect.literalQuote → Even n) ∧ Paired (if c = '\\' then n + 1 else 0) cs := by
  constructor
  · intro h
    refine ⟨fun hc => h [] (c :: cs) rfl (by simpa using hc), fun before after hsplit hafter => ?_⟩
    exact h (c :: before) after (congrArg _ hsplit) hafter
  · rintro ⟨hquote, hrest⟩ before after hsplit hafter
    cases before with
    | nil =>
      obtain rfl : c :: cs = after := hsplit
      exact hquote (hafter c rfl)
    | cons b before =>
      obtain ⟨rfl, rfl⟩ := List.cons.inj hsplit
      exact hrest before after rfl hafter

/-- What is kept back of some backslashes by one who takes them in pairs. -/
def unpaired (n : Nat) : List Char :=
  if Even n then [] else ['\\']

theorem unpaired_even (h : Even n) : unpaired n = [] := if_pos h

theorem unpaired_odd (h : ¬ Even n) : unpaired n = ['\\'] := if_neg h

theorem doubled_quote :
    doubled (· = Dialect.literalQuote) (Dialect.literalQuote :: cs) =
      Dialect.literalQuote :: Dialect.literalQuote :: doubled (· = Dialect.literalQuote) cs := by
  rw [doubled, if_pos (decide_eq_true rfl)]

theorem doubled_other (hc : c ≠ Dialect.literalQuote) :
    doubled (· = Dialect.literalQuote) (c :: cs) = c :: doubled (· = Dialect.literalQuote) cs := by
  rw [doubled, if_neg (by simpa using hc)]

end Text

namespace Interpolation

open Dialect (literalQuote)

variable {literal : Scalar → List Char} {xs : List Scalar}

theorem scan_escape (c : Char) (rest : List Char) :
    scan literal (some literalQuote) xs ('\\' :: c :: rest) =
      '\\' :: c :: scan literal (some literalQuote) xs rest := by
  change scan literal (some '\x27') xs _ = _
  rw [scan]
  rfl

theorem scan_literal {c : Char} (hc : c ≠ '\\') (rest : List Char) :
    scan literal (some literalQuote) xs (c :: rest) =
      c :: scan literal (if c = literalQuote then none else some literalQuote) xs rest := by
  rw [scan]
  · by_cases hquote : c = literalQuote
    · simp [hquote, toggle, isQuote, literalQuote]
    · simp [toggle, hquote, Ne.symm hquote]
  · intro _ _ _ hslash
    exact absurd hslash hc
  · intro _ _ hopened
    cases hopened

theorem scan_quotes (rest : List Char) :
    scan literal (some literalQuote) xs (literalQuote :: literalQuote :: rest) =
      literalQuote :: literalQuote :: scan literal (some literalQuote) xs rest := by
  rw [scan_literal (by decide), if_pos rfl, scan_none (by decide), if_pos (by decide)]

theorem scan_plain {c : Char} (hslash : c ≠ '\\') (hquote : c ≠ literalQuote)
    (rest : List Char) :
    scan literal (some literalQuote) xs (c :: rest) =
      c :: scan literal (some literalQuote) xs rest := by
  rw [scan_literal hslash, if_neg hquote]

theorem scan_opening (rest : List Char) :
    scan literal none xs (literalQuote :: rest) =
      literalQuote :: scan literal (some literalQuote) xs rest := by
  rw [scan_none (by decide), if_pos (by decide)]

theorem scan_closing (rest : List Char) :
    scan literal (some literalQuote) xs (literalQuote :: rest) =
      literalQuote :: scan literal none xs rest := by
  rw [scan_literal (by decide), if_pos rfl]

theorem scan_doubled_special (cs rest : List Char) :
    scan literal (some literalQuote) xs
        (Text.doubled Dialect.mysql.isLiteralSpecial cs ++ literalQuote :: rest) =
      Text.doubled Dialect.mysql.isLiteralSpecial cs ++
        literalQuote :: scan literal none xs rest := by
  induction cs with
  | nil => exact scan_closing rest
  | cons c cs ih =>
    by_cases hquote : c = literalQuote
    · rw [Text.doubled, hquote, if_pos (by decide), List.cons_append, List.cons_append, scan_quotes,
        ih]
      rfl
    · by_cases hslash : c = '\\'
      · rw [Text.doubled, hslash, if_pos (by decide), List.cons_append, List.cons_append,
          scan_escape, ih]
        rfl
      · rw [Text.doubled, if_neg (by simp [Dialect.isLiteralSpecial, hquote, hslash]),
          List.cons_append, scan_plain hslash hquote, ih]
        rfl

variable (literal xs)

theorem exists_taken (n : Nat) {c : Char} (hquote : c ≠ literalQuote) :
    ∃ taken, ∀ rest,
      Text.unpaired n ++ c :: rest =
        taken ++ (Text.unpaired (if c = '\\' then n + 1 else 0) ++ rest) ∧
      scan literal (some literalQuote) xs (Text.unpaired n ++ c :: rest) =
        taken ++ scan literal (some literalQuote) xs
          (Text.unpaired (if c = '\\' then n + 1 else 0) ++ rest) := by
  by_cases heven : Even n
  · rw [Text.unpaired_even heven]
    by_cases hslash : c = '\\'
    · rw [if_pos hslash, hslash, Text.unpaired_odd (Nat.even_add_one.not_left.2 heven)]
      exact ⟨[], fun rest => ⟨rfl, rfl⟩⟩
    · rw [if_neg hslash, Text.unpaired_even Even.zero]
      exact ⟨[c], fun rest => ⟨rfl, scan_plain hslash hquote rest⟩⟩
  · rw [Text.unpaired_odd heven]
    have hzero : Text.unpaired (if c = '\\' then n + 1 else 0) = [] := by
      split
      · exact Text.unpaired_even (Nat.even_add_one.2 heven)
      · exact Text.unpaired_even Even.zero
    rw [hzero]
    exact ⟨['\\', c], fun rest => ⟨rfl, scan_escape c rest⟩⟩

/-- Behind some backslashes a literal with paired backslashes is copied up to its closing quote. -/
theorem scan_paired {n : Nat} {cs : List Char} (h : Text.Paired n cs) (rest : List Char) :
    scan literal (some literalQuote) xs
        (Text.unpaired n ++ (Text.doubled (· = literalQuote) cs ++ literalQuote :: rest)) =
      Text.unpaired n ++ (Text.doubled (· = literalQuote) cs ++
        literalQuote :: scan literal none xs rest) := by
  induction cs generalizing n with
  | nil =>
    rw [Text.unpaired_even (Text.paired_nil.1 h)]
    exact scan_closing rest
  | cons c cs ih =>
    obtain ⟨heven, h⟩ := Text.paired_cons.1 h
    have hrest := ih h
    by_cases hquote : c = literalQuote
    · rw [hquote, if_neg (by decide), Text.unpaired_even Even.zero, List.nil_append,
        List.nil_append] at hrest
      rw [Text.unpaired_even (heven hquote), hquote, Text.doubled_quote]
      simp only [List.nil_append, List.cons_append, scan_quotes, hrest]
    · obtain ⟨taken, htaken⟩ := exists_taken literal xs n hquote
      rw [Text.doubled_other hquote, List.cons_append, List.cons_append, (htaken _).2, hrest,
        (htaken _).1]

theorem scan_place (rest : List Char) :
    ∃ front, scan literal none xs ('?' :: rest) = front ++ scan literal none xs.tail rest := by
  cases xs with
  | nil => exact ⟨['?'], by simp [scan, isQuote]⟩
  | cons x xs => exact ⟨literal x, by rw [scan, List.tail_cons]⟩

/-- Outside of the literal the reader goes astray: the quotes that are left are doubled but for the
last, which opens a literal unless it is within a quoted identifier. -/
theorem scan_astray (opened : Option Char)
    (hopened : ∀ q ∈ opened, isQuote q = true ∧ q ≠ literalQuote) (cs : List Char) :
    ∃ out, scan literal opened xs (Text.doubled (· = literalQuote) cs ++ [literalQuote, '?']) =
      out ++ ['?'] := by
  induction cs generalizing opened xs with
  | nil =>
    refine ⟨[literalQuote], ?_⟩
    change scan literal opened xs [literalQuote, '?'] = _
    cases opened with
    | none =>
      rw [scan_opening]
      rfl
    | some q =>
      obtain ⟨hq, hliteral⟩ := hopened q rfl
      have hplace : '?' ≠ q := by
        rintro rfl
        cases hq
      rw [scan_some hq hliteral, if_neg hliteral.symm, scan_some hq hliteral, if_neg hplace, scan]
      rfl
  | cons c cs ih =>
    by_cases hquote : c = literalQuote
    · subst hquote
      obtain ⟨out, hout⟩ := ih xs _ hopened
      refine ⟨literalQuote :: literalQuote :: out, ?_⟩
      rw [Text.doubled_quote]
      simp only [List.cons_append]
      cases opened with
      | none => rw [scan_opening, scan_closing, hout]
      | some q =>
        obtain ⟨hq, hliteral⟩ := hopened q rfl
        rw [scan_some hq hliteral, if_neg hliteral.symm, scan_some hq hliteral,
          if_neg hliteral.symm, hout]
    · rw [Text.doubled_other hquote, List.cons_append]
      cases opened with
      | none =>
        by_cases hplace : c = '?'
        · subst hplace
          obtain ⟨out, hout⟩ := ih xs.tail _ hopened
          obtain ⟨front, hfront⟩ := scan_place literal xs
            (Text.doubled (· = literalQuote) cs ++ [literalQuote, '?'])
          exact ⟨front ++ out, by rw [hfront, hout, List.append_assoc]⟩
        · have hnext : ∀ q ∈ (if isQuote c then some c else none), isQuote q = true ∧
              q ≠ literalQuote := by
            intro q hq
            split at hq
            · cases hq
              exact ⟨‹_›, hquote⟩
            · cases hq
          obtain ⟨out, hout⟩ := ih xs _ hnext
          exact ⟨c :: out, by rw [scan_none hplace, hout]; rfl⟩
      | some q =>
        obtain ⟨hq, hliteral⟩ := hopened q rfl
        have hnext : ∀ r ∈ (if c = q then none else some q), isQuote r = true ∧
            r ≠ literalQuote := by
          intro r hr
          split at hr
          · cases hr
          · cases hr
            exact ⟨hq, hliteral⟩
        obtain ⟨out, hout⟩ := ih xs _ hnext
        exact ⟨c :: out, by rw [scan_some hq hliteral, hout]; rfl⟩

/-- A literal without paired backslashes hides a placeholder behind it. -/
theorem scan_not_paired {n : Nat} {cs : List Char} (h : ¬ Text.Paired n cs) :
    ∃ out, scan literal (some literalQuote) xs (Text.unpaired n ++
      (Text.doubled (· = literalQuote) cs ++ [literalQuote, '?'])) = out ++ ['?'] := by
  induction cs generalizing n with
  | nil =>
    rw [Text.paired_nil] at h
    rw [Text.unpaired_odd h]
    exact ⟨['\\', literalQuote], rfl⟩
  | cons c cs ih =>
    by_cases hquote : c = literalQuote
    · subst hquote
      rw [Text.doubled_quote]
      by_cases heven : Even n
      · rw [Text.paired_cons, if_neg (by decide), not_and] at h
        obtain ⟨out, hout⟩ := ih (h fun _ => heven)
        rw [Text.unpaired_even Even.zero] at hout
        refine ⟨literalQuote :: literalQuote :: out, ?_⟩
        rw [Text.unpaired_even heven]
        simp only [List.nil_append, List.cons_append, scan_quotes] at hout ⊢
        rw [hout]
      · -- The backslash takes one of the two quotes, and the other ends the literal.
        obtain ⟨out, hout⟩ := scan_astray literal xs none nofun cs
        refine ⟨'\\' :: literalQuote :: literalQuote :: out, ?_⟩
        rw [Text.unpaired_odd heven]
        simp only [List.nil_append, List.cons_append, scan_escape, scan_closing, hout]
    · rw [Text.paired_cons, not_and] at h
      obtain ⟨out, hout⟩ := ih (h fun hc => absurd hc hquote)
      obtain ⟨taken, htaken⟩ := exists_taken literal xs n hquote
      refine ⟨taken ++ out, ?_⟩
      rw [Text.doubled_other hquote, List.cons_append, (htaken _).2, hout, List.append_assoc]

end Interpolation

namespace Dialect

open Interpolation

variable {d : Dialect}

theorem quoteLiteral_append (d : Dialect) (s : String) (rest : List Char) :
    (d.quoteLiteral (.text s)).toList ++ rest =
      literalQuote :: (Text.doubled d.isLiteralSpecial s.toList ++ literalQuote :: rest) := by
  have hliteral : (d.quoteLiteral (.text s)).toList =
      Text.delimited literalQuote d.isLiteralSpecial s.toList := String.toList_ofList
  rw [hliteral, Text.delimited, List.append_assoc, List.cons_append]
  rfl

theorem isLiteralSpecial_eq (h : d ≠ mysql) : d.isLiteralSpecial = (· = literalQuote) := by
  funext c
  simp [isLiteralSpecial, h]

theorem passes_mysql (s : String) : mysql.Passes (mysql.quoteLiteral (.text s)) := by
  intro xs rest
  rw [quoteLiteral_append, quoteLiteral_append, scan_opening, scan_doubled_special]

theorem passes_of_paired (hd : d ≠ mysql) {s : String} (h : Text.Paired 0 s.toList) :
    d.Passes (d.quoteLiteral (.text s)) := by
  intro xs rest
  have hscan := scan_paired (fun x => (d.quoteLiteral x).toList) xs h rest
  rw [Text.unpaired_even Even.zero, List.nil_append, List.nil_append] at hscan
  rw [quoteLiteral_append, quoteLiteral_append, isLiteralSpecial_eq hd, scan_opening, hscan]

theorem paired_of_passes (hd : d ≠ mysql) {s : String}
    (h : d.Passes (d.quoteLiteral (.text s))) : Text.Paired 0 s.toList := by
  by_contra hpaired
  obtain ⟨out, hout⟩ := scan_not_paired (fun x => (d.quoteLiteral x).toList) [.null] hpaired
  rw [Text.unpaired_even Even.zero, List.nil_append] at hout
  have hplace := h [.null] ['?']
  rw [quoteLiteral_append, isLiteralSpecial_eq hd, scan_opening, hout] at hplace
  -- One text ends in the placeholder, the other in what would be written for it.
  have hnull : scan (fun x => (d.quoteLiteral x).toList) none [.null] ['?'] =
      ['N', 'U', 'L'] ++ ['L'] := by
    rw [scan, scan, quoteLiteral]
    decide
  have hlast := congrArg List.getLast? hplace
  rw [hnull, ← List.append_assoc, ← List.cons_append, List.getLast?_concat,
    List.getLast?_concat] at hlast
  exact absurd hlast (by decide)

/-- The literal of a text is passed over if backslashes escape on the dialect, and otherwise if and
only if in the text an even number of backslashes stands in front of each quote and at the end. -/
theorem passes_quoteLiteral_iff (d : Dialect) (s : String) :
    d.Passes (d.quoteLiteral (.text s)) ↔ d = mysql ∨ Text.Paired 0 s.toList := by
  by_cases hd : d = mysql
  · subst hd
    exact iff_of_true (passes_mysql s) (.inl rfl)
  · rw [or_iff_right hd]
    exact ⟨paired_of_passes hd, passes_of_paired hd⟩

end Dialect

/-- The files in a folder whose name is written into a condition, with an id that is bound. -/
def filesIn (d : Dialect) (folder : String) : Query :=
  .ofStatement (.select
    { tables := [.table "files"]
      filters := [.fragment .and (.text ("folder = " ++ d.quoteLiteral (.text folder))),
        .compare "id" "=" (.value (.integer 5))] })

/-- On a dialect without escapes a backslash at the end of a literal hides a placeholder behind it,
which a literal of a dialect with escapes never does. -/
theorem sqlite_hides_placeholder :
    ¬ Dialect.sqlite.Passes (Dialect.sqlite.quoteLiteral (.text "C:\\")) ∧
      (Compiler.ofDialect .sqlite).quote (.text "C:\\") =
        .ok (Dialect.sqlite.quoteLiteral (.text "C:\\")) ∧
      ((Compiler.ofDialect .sqlite).interpolate (filesIn .sqlite "C:\\")).result =
        .ok "SELECT files.* FROM files WHERE folder = 'C:\\' AND id = ?" ∧
      ((Compiler.ofDialect .mysql).interpolate (filesIn .mysql "C:\\")).result =
        .ok "SELECT files.* FROM files WHERE folder = 'C:\\\\' AND id = 5" := by
  refine ⟨?_, rfl, by cbv, by cbv⟩
  intro h
  exact absurd (h [.null] ['?']) (by decide)

end ParamSql
