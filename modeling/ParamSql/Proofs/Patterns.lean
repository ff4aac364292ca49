import Mathlib.Data.List.Infix
import ParamSql.Statement.Like

namespace ParamSql

namespace Pattern

/-- The subjects that a pattern matches. -/
inductive Matches : List Char → List Char → Prop
  | nil : Matches [] []
  | any (skipped : List Char) {pattern subject : List Char} (h : Matches pattern subject) :
    Matches ('%' :: pattern) (skipped ++ subject)
  | one (c : Char) {pattern subject : List Char} (h : Matches pattern subject) :
    Matches ('_' :: pattern) (c :: subject)
  | escaped (c : Char) {pattern subject : List Char} (h : Matches pattern subject) :
    Matches ('\\' :: c :: pattern) (c :: subject)
  | char {c : Char} (hany : c ≠ '%') (hone : c ≠ '_') (hescape : c ≠ '\\')
    {pattern subject : List Char} (h : Matches pattern subject) :
    Matches (c :: pattern) (c :: subject)

variable {c : Char} {pattern subject : List Char}

theorem matches_nil : Matches [] subject ↔ subject = [] := by
  constructor
  · intro h
    cases h
    rfl
  · rintro rfl
    exact .nil

theorem matches_any : Matches ('%' :: pattern) subject ↔ ∃ rest, rest <:+ subject ∧
    Matches pattern rest := by
  constructor
  · intro h
    cases h with
    | any skipped h => exact ⟨_, List.suffix_append .., h⟩
    | char hany => exact absurd rfl hany
  · rintro ⟨rest, ⟨skipped, rfl⟩, h⟩
    exact .any skipped h

theorem matches_one : Matches ('_' :: pattern) subject ↔ ∃ c rest, subject = c :: rest ∧
    Matches pattern rest := by
  constructor
  · intro h
    cases h with
    | one c h => exact ⟨c, _, rfl, h⟩
    | char _ hone => exact absurd rfl hone
  · rintro ⟨c, rest, rfl, h⟩
    exact .one c h

theorem matches_escaped : Matches ('\\' :: c :: pattern) subject ↔ ∃ rest, subject = c :: rest ∧
    Matches pattern rest := by
  constructor
  · intro h
    cases h with
    | escaped c h => exact ⟨_, rfl, h⟩
    | char _ _ hescape => exact absurd rfl hescape
  · rintro ⟨rest, rfl, h⟩
    exact .escaped c h

theorem matches_char (hany : c ≠ '%') (hone : c ≠ '_') (hescape : c ≠ '\\') :
    Matches (c :: pattern) subject ↔ ∃ rest, subject = c :: rest ∧ Matches pattern rest := by
  constructor
  · intro h
    cases h with
    | any => exact absurd rfl hany
    | one => exact absurd rfl hone
    | escaped => exact absurd rfl hescape
    | char _ _ _ h => exact ⟨_, rfl, h⟩
  · rintro ⟨rest, rfl, h⟩
    exact .char hany hone hescape h

/-- Tries the pattern on the subject, behind a `%` on all its ends. A lone backslash at the end of
a pattern matches nothing. -/
def isMatch : List Char → List Char → Bool
  | [], subject => subject.isEmpty
  | ['\\'], _ => false
  | '\\' :: c :: pattern, subject =>
    match subject with
    | [] => false
    | x :: rest => x = c && isMatch pattern rest
  | c :: pattern, subject =>
    if c = '%' then subject.tails.any fun rest => isMatch pattern rest
    else
      match subject with
      | [] => false
      | x :: rest => (c = '_' || x = c) && isMatch pattern rest

theorem isMatch_iff (pattern subject : List Char) :
    isMatch pattern subject = true ↔ Matches pattern subject := by
  fun_induction isMatch pattern subject with
  | case1 subject => rw [List.isEmpty_iff, matches_nil]
  | case2 subject =>
    refine iff_of_false nofun fun h => ?_
    cases h with
    | char _ _ hescape => exact hescape rfl
  | case3 c pattern =>
    rw [matches_escaped]
    exact iff_of_false nofun nofun
  | case4 c pattern x rest ih =>
    rw [Bool.and_eq_true, decide_eq_true_iff, ih, matches_escaped]
    constructor
    · rintro ⟨rfl, h⟩
      exact ⟨rest, rfl, h⟩
    · rintro ⟨_, hsubject, h⟩
      obtain ⟨rfl, rfl⟩ := List.cons.inj hsubject
      exact ⟨rfl, h⟩
  | case5 pattern subject _ _ ih =>
    rw [List.any_eq_true, matches_any]
    simp only [List.mem_tails, ih]
  | case6 c pattern hlone hpair hany =>
    refine iff_of_false nofun fun h => ?_
    generalize hsubject : ([] : List Char) = subject at h
    cases h with
    | any => exact hany rfl
    | _ => cases hsubject
  | case7 c pattern hlone hpair hany x rest ih =>
    have hescape : c ≠ '\\' := by
      intro hc
      cases pattern with
      | nil => exact hlone hc rfl
      | cons e pattern => exact hpair e pattern hc rfl
    rw [Bool.and_eq_true, Bool.or_eq_true, decide_eq_true_iff, decide_eq_true_iff, ih]
    by_cases hone : c = '_'
    · rw [hone, matches_one]
      constructor
      · exact fun h => ⟨x, rest, rfl, h.2⟩
      · rintro ⟨_, _, hsubject, h⟩
        obtain ⟨rfl, rfl⟩ := List.cons.inj hsubject
        exact ⟨.inl rfl, h⟩
    · rw [or_iff_right hone, matches_char hany hone hescape]
      constructor
      · rintro ⟨rfl, h⟩
        exact ⟨rest, rfl, h⟩
      · rintro ⟨_, hsubject, h⟩
        obtain ⟨rfl, rfl⟩ := List.cons.inj hsubject
        exact ⟨rfl, h⟩

instance (pattern subject : List Char) : Decidable (Matches pattern subject) :=
  decidable_of_iff _ (isMatch_iff pattern subject)

/-- An escaped term in front of a pattern stands for itself. -/
theorem matches_escape (term : List Char) :
    Matches (Like.escape term ++ pattern) subject ↔ ∃ rest, subject = term ++ rest ∧
      Matches pattern rest := by
  induction term generalizing subject with
  | nil =>
    constructor
    · exact fun h => ⟨subject, rfl, h⟩
    · rintro ⟨_, rfl, h⟩
      exact h
  | cons c term ih =>
    have hfirst : Matches (Like.escape (c :: term) ++ pattern) subject ↔
        ∃ rest, subject = c :: rest ∧ Matches (Like.escape term ++ pattern) rest := by
      cases hspecial : Like.isSpecial c with
      | true =>
        rw [Like.escape, if_pos hspecial]
        exact matches_escaped
      | false =>
        have hplain : (c ≠ '%' ∧ c ≠ '_') ∧ c ≠ '\\' := by
          simpa [Like.isSpecial] using hspecial
        rw [Like.escape, hspecial]
        exact matches_char hplain.1.1 hplain.1.2 hplain.2
    rw [hfirst]
    constructor
    · rintro ⟨_, rfl, h⟩
      obtain ⟨rest, rfl, hrest⟩ := ih.1 h
      exact ⟨rest, rfl, hrest⟩
    · rintro ⟨rest, rfl, h⟩
      exact ⟨term ++ rest, rfl, ih.2 ⟨rest, rfl, h⟩⟩

theorem matches_all : Matches ['%'] subject := by
  rw [← List.append_nil subject]
  exact .any subject .nil

theorem matches_before_all (term : List Char) :
    Matches (Like.escape term ++ ['%']) subject ↔ term <+: subject := by
  rw [matches_escape]
  constructor
  · rintro ⟨rest, rfl, _⟩
    exact List.prefix_append ..
  · rintro ⟨rest, rfl⟩
    exact ⟨rest, rfl, matches_all⟩

theorem matches_all_before (term : List Char) :
    Matches ('%' :: Like.escape term) subject ↔ term <:+ subject := by
  have hterm (rest : List Char) : Matches (Like.escape term) rest ↔ rest = term := by
    rw [← List.append_nil (Like.escape term), matches_escape]
    simp only [matches_nil, exists_eq_right, List.append_nil]
  rw [matches_any]
  simp only [hterm, exists_eq_right]

theorem matches_between_all (term : List Char) :
    Matches ('%' :: (Like.escape term ++ ['%'])) subject ↔ term <:+: subject := by
  rw [matches_any, List.infix_iff_prefix_suffix]
  simp only [matches_before_all]
  exact exists_congr fun _ => and_comm

end Pattern

namespace Like

/-- The search is for one pattern, which matches the subject. -/
def Matches (l : Like) (subject : String) : Prop :=
  ∃ pattern : String, l.patterns = .text pattern ∧ Pattern.Matches pattern.toList subject.toList

variable {term subject : String}

theorem matches_single {l : Like} (h : l.terms = [term]) :
    l.Matches subject ↔ Pattern.Matches (l.patternOf term).toList subject.toList := by
  have hpatterns : l.patterns = .text (l.patternOf term) := by
    rw [patterns, h]
  constructor
  · rintro ⟨pattern, hpattern, hmatches⟩
    cases hpatterns.symm.trans hpattern
    exact hmatches
  · exact fun h => ⟨_, hpatterns, h⟩

theorem toList_patternOf {l : Like} (h : l.literal = true) (term : String) :
    (l.patternOf term).toList = l.before.toList ++ (escape term.toList ++ l.after.toList) := by
  rw [patternOf, if_pos h, String.toList_append, String.toList_append, String.toList_ofList,
    List.append_assoc]

theorem matches_startsWith :
    (startsWith term).Matches subject ↔ term.toList <+: subject.toList := by
  have hwritten : ((startsWith term).patternOf term).toList = escape term.toList ++ ['%'] := by
    rw [toList_patternOf rfl]
    simp [startsWith]
  rw [matches_single rfl, hwritten, Pattern.matches_before_all]

theorem matches_endsWith : (endsWith term).Matches subject ↔ term.toList <:+ subject.toList := by
  have hwritten : ((endsWith term).patternOf term).toList = '%' :: escape term.toList := by
    rw [toList_patternOf rfl]
    simp [endsWith]
  rw [matches_single rfl, hwritten, Pattern.matches_all_before]

theorem toList_patternOf_anywhere (terms : List String) (term : String) :
    ((containsAny terms).patternOf term).toList = '%' :: (escape term.toList ++ ['%']) := by
  rw [toList_patternOf rfl]
  simp [containsAny]

theorem matches_contains : (contains term).Matches subject ↔ term.toList <:+: subject.toList := by
  rw [matches_single rfl, ← Pattern.matches_between_all, ← toList_patternOf_anywhere [term]]
  rfl

end Like

end ParamSql
