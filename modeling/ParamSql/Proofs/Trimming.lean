import Mathlib
import ParamSql.Text.Basic

namespace ParamSql.Text

/-- No blank stands at the front. -/
def Flush (cs : List Char) : Prop :=
  ∀ c ∈ cs.head?, ¬isBlank c

theorem flush_nil : Flush [] :=
  nofun

theorem flush_cons {c : Char} {cs : List Char} : Flush (c :: cs) ↔ ¬isBlank c :=
  ⟨fun h => h c rfl, fun h _ hc => Option.some.inj hc ▸ h⟩

theorem Flush.of_forall {cs : List Char} (h : ∀ c ∈ cs, ¬isBlank c) : Flush cs :=
  fun c hc => h c (List.mem_of_mem_head? hc)

theorem Flush.start {cs start : List Char} (h : Flush cs) (hstart : start <+: cs) :
    Flush start := by
  obtain ⟨rest, rfl⟩ := hstart
  cases start with
  | nil => exact flush_nil
  | cons c start => exact flush_cons.2 (flush_cons.1 h)

theorem flush_dropWhile (cs : List Char) : Flush (cs.dropWhile isBlank) := by
  induction cs with
  | nil => exact flush_nil
  | cons c cs ih =>
    by_cases hc : isBlank c
    · rw [List.dropWhile_cons_of_pos hc]
      exact ih
    · rw [List.dropWhile_cons_of_neg hc]
      exact flush_cons.2 hc

theorem Flush.dropWhile_eq {cs : List Char} (h : Flush cs) : cs.dropWhile isBlank = cs := by
  cases cs with
  | nil => rfl
  | cons c cs => rw [List.dropWhile_cons_of_neg (flush_cons.1 h)]

/-- What is trimmed has a blank neither at its front nor at its end. -/
theorem flush_trimChars (cs : List Char) :
    Flush (trimChars cs) ∧ Flush (trimChars cs).reverse := by
  constructor
  · apply (flush_dropWhile cs).start
    rw [trimChars, trimEnd, ← List.reverse_suffix, List.reverse_reverse]
    exact List.dropWhile_suffix _
  · rw [trimChars, trimEnd, List.reverse_reverse]
    exact flush_dropWhile _

theorem exists_dropWhile_isBlank (cs : List Char) :
    ∃ before, (∀ c ∈ before, isBlank c) ∧ cs = before ++ cs.dropWhile isBlank :=
  ⟨cs.takeWhile isBlank, fun _ => List.mem_takeWhile_imp, List.takeWhile_append_dropWhile.symm⟩

theorem exists_trimChars (cs : List Char) : ∃ before after, cs = before ++ trimChars cs ++ after ∧
    (∀ c ∈ before, isBlank c) ∧ ∀ c ∈ after, isBlank c := by
  obtain ⟨before, hbefore, hcs⟩ := exists_dropWhile_isBlank cs
  obtain ⟨after, hafter, hrest⟩ := exists_dropWhile_isBlank (cs.dropWhile isBlank).reverse
  refine ⟨before, after.reverse, ?_, hbefore, fun c hc => hafter c (List.mem_reverse.1 hc)⟩
  have hend : cs.dropWhile isBlank = trimChars cs ++ after.reverse := by
    rw [trimChars, trimEnd, ← List.reverse_append, ← hrest, List.reverse_reverse]
  rw [List.append_assoc, ← hend]
  exact hcs

theorem trimEnd_append {core after : List Char} (hcore : Flush core.reverse)
    (hafter : ∀ c ∈ after, isBlank c) : trimEnd (core ++ after) = core := by
  rw [trimEnd, List.reverse_append, List.dropWhile_append_of_pos, hcore.dropWhile_eq,
    List.reverse_reverse]
  exact fun c hc => hafter c (List.mem_reverse.1 hc)

theorem trimChars_append {before core after : List Char} (hbefore : ∀ c ∈ before, isBlank c)
    (hfront : Flush core) (hend : Flush core.reverse) (hafter : ∀ c ∈ after, isBlank c) :
    trimChars (before ++ core ++ after) = core := by
  rw [trimChars, List.append_assoc, List.dropWhile_append_of_pos hbefore]
  cases core with
  | nil =>
    rw [List.nil_append, List.dropWhile_eq_nil_iff.2 hafter]
    rfl
  | cons c core =>
    rw [List.cons_append, List.dropWhile_cons_of_neg (flush_cons.1 hfront)]
    exact trimEnd_append hend hafter

theorem trimChars_eq_self {cs : List Char} (hfront : Flush cs) (hend : Flush cs.reverse) :
    trimChars cs = cs := by
  have h := @trimChars_append [] cs [] nofun hfront hend nofun
  rwa [List.nil_append, List.append_nil] at h

theorem not_isBlank_of_isAlpha {c : Char} (h : c.isAlpha) : ¬isBlank c := by
  have hblanks : ∀ n ∈ blanks, n < 65 ∨ 122 < n := by decide
  intro hc
  have hrange := hblanks c.toNat (List.contains_iff_mem.1 hc)
  simp only [Char.isAlpha, Char.isUpper, Char.isLower, Bool.or_eq_true, Bool.and_eq_true,
    decide_eq_true_eq, ge_iff_le, UInt32.le_iff_toNat_le] at h
  change (65 ≤ c.toNat ∧ c.toNat ≤ 90) ∨ 97 ≤ c.toNat ∧ c.toNat ≤ 122 at h
  omega

theorem eq_of_toLower_eq {c d : Char} (hd : d.isAlpha = false) (h : c.toLower = d) : c = d := by
  by_cases hc : c.isUpper
  · rw [← h, Char.isAlpha_toLower_eq_isAlpha, Char.isAlpha, hc] at hd
    cases hd
  · rw [← h, Char.toLower_eq_of_not_isUpper (by simpa using hc)]

theorem isBlank_toLower (c : Char) : isBlank c.toLower = isBlank c := by
  by_cases hc : c.isUpper
  · have halpha : c.isAlpha := by rw [Char.isAlpha, hc]; rfl
    rw [Bool.eq_false_iff.2 (not_isBlank_of_isAlpha halpha), Bool.eq_false_iff]
    exact not_isBlank_of_isAlpha ((Char.isAlpha_toLower_eq_isAlpha c).trans halpha)
  · rw [Char.toLower_eq_of_not_isUpper (by simpa using hc)]

theorem Flush.lowered {cs : List Char} (h : Flush cs) : Flush (cs.map Char.toLower) := by
  cases cs with
  | nil => exact flush_nil
  | cons c cs =>
    rw [List.map_cons, flush_cons, isBlank_toLower]
    exact flush_cons.1 h

end ParamSql.Text
