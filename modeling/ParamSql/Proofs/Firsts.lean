import Mathlib.Data.List.Infix
import Mathlib.Data.List.Nodup
import ParamSql.Compile.Select

namespace ParamSql

variable {α : Type} {key? : α → Option String}

/-- An entry is new if it has no key, or one that was not seen and that no entry in front of it
has. -/
def IsNew (key? : α → Option String) (seen : List String) (before : List α) (a : α) : Prop :=
  ∀ key ∈ key? a, key ∉ seen ∧ ∀ b ∈ before, key? b ≠ some key

instance (seen : List String) (before : List α) (a : α) : Decidable (IsNew key? seen before a) :=
  inferInstanceAs (Decidable (∀ key ∈ key? a, key ∉ seen ∧ ∀ b ∈ before, key? b ≠ some key))

/-- The entries that are new behind those in front of them. -/
def firsts (key? : α → Option String) (seen : List String) (entries : List α) : List α :=
  ((entries.zip entries.inits).filter fun x => IsNew key? seen x.2 x.1).map Prod.fst

variable {seen seen' : List String}

theorem isNew_of_none {before : List α} {a : α} (h : key? a = none) : IsNew key? seen before a := by
  intro key hkey
  rw [h] at hkey
  cases hkey

theorem isNew_cons {first : α} {before : List α} {a : α} :
    IsNew key? seen (first :: before) a ↔ IsNew key? ((key? first).toList ++ seen) before a := by
  simp only [IsNew, List.forall_mem_cons, List.mem_append, Option.mem_toList, not_or,
    Option.mem_def]
  exact forall₂_congr fun key _ => by tauto

theorem firsts_cons (first : α) (rest : List α) :
    firsts key? seen (first :: rest) =
      (if IsNew key? seen [] first then [first] else []) ++
        firsts key? ((key? first).toList ++ seen) rest := by
  rw [firsts, List.inits_cons, List.zip_cons_cons, List.zip_map_right, List.filter_cons,
    List.filter_map]
  simp only [Function.comp_def, Prod.map_fst, Prod.map_snd, id_eq, isNew_cons, decide_eq_true_eq]
  have hfst : Prod.fst ∘ Prod.map id (first :: ·) = (Prod.fst : α × List α → α) := rfl
  split <;> simp only [List.map_cons, List.map_map, hfst, firsts] <;> rfl

theorem firsts_congr (h : ∀ key, key ∈ seen ↔ key ∈ seen') (entries : List α) :
    firsts key? seen entries = firsts key? seen' entries := by
  have hnew (x : α × List α) : IsNew key? seen x.2 x.1 ↔ IsNew key? seen' x.2 x.1 := by
    simp only [IsNew, h]
  simp only [firsts, hnew]

/-- What is left by going through the entries. -/
theorem unseen_eq_firsts (seen : List String) (entries : List α) :
    unseen key? seen entries = firsts key? seen entries := by
  induction entries generalizing seen with
  | nil => rfl
  | cons first rest ih =>
    rw [firsts_cons, unseen]
    cases hkey : key? first with
    | none =>
      rw [ih, if_pos (isNew_of_none hkey)]
      rfl
    | some key =>
      have hnew : IsNew key? seen [] first ↔ key ∉ seen := by
        simp [IsNew, hkey]
      simp only [hnew, List.contains_iff_mem, ih]
      by_cases hseen : key ∈ seen
      · rw [if_pos hseen, if_neg (not_not_intro hseen)]
        exact firsts_congr (by simp [hseen]) rest
      · rw [if_neg hseen, if_pos hseen]
        rfl

theorem firsts_sublist (seen : List String) (entries : List α) :
    (firsts key? seen entries).Sublist entries := by
  induction entries generalizing seen with
  | nil => exact .slnil
  | cons first rest ih =>
    rw [firsts_cons]
    split
    · exact (ih _).cons_cons first
    · exact (ih _).cons first

theorem firsts_eq_nil {entries : List α} : firsts key? [] entries = [] ↔ entries = [] := by
  cases entries with
  | nil => simp [firsts]
  | cons first rest =>
    have hnew : IsNew key? [] [] first := fun _ _ => ⟨List.not_mem_nil, nofun⟩
    simp [firsts_cons, hnew]

theorem unseen_congr (h : ∀ key, key ∈ seen ↔ key ∈ seen') (entries : List α) :
    unseen key? seen entries = unseen key? seen' entries := by
  rw [unseen_eq_firsts, unseen_eq_firsts, firsts_congr h]

theorem unseen_unseen_append (seen : List String) (entries others : List α) :
    unseen key? seen (unseen key? seen entries ++ others) = unseen key? seen (entries ++ others) := by
  induction entries generalizing seen with
  | nil => rfl
  | cons first rest ih =>
    rw [List.cons_append, unseen, unseen]
    cases hkey : key? first with
    | none => simp only [List.cons_append, unseen, hkey, ih]
    | some key =>
      simp only
      split
      · exact ih seen
      · rename_i hseen
        simp only [List.cons_append, unseen, hkey, if_neg hseen, ih]

theorem unseen_unseen (seen : List String) (entries : List α) :
    unseen key? seen (unseen key? seen entries) = unseen key? seen entries := by
  have happend := @unseen_unseen_append _ key? seen entries []
  rwa [List.append_nil, List.append_nil] at happend

theorem mem_keys_unseen {key : String} {entries : List α} :
    key ∈ (unseen key? seen entries).filterMap key? ↔
      key ∉ seen ∧ key ∈ entries.filterMap key? := by
  induction entries generalizing seen with
  | nil => simp [unseen]
  | cons first rest ih =>
    rw [unseen]
    cases hkey : key? first with
    | none => simp only [List.filterMap_cons, hkey, ih]
    | some other =>
      simp only [List.contains_iff_mem]
      split
      · rename_i hseen
        rw [ih, List.filterMap_cons, hkey, List.mem_cons]
        refine and_congr_right fun hnot => (or_iff_right ?_).symm
        rintro rfl
        exact hnot hseen
      · rename_i hseen
        rw [List.filterMap_cons, hkey, List.filterMap_cons, hkey, List.mem_cons, ih, List.mem_cons,
          List.mem_cons]
        by_cases hother : key = other
        · simp [hother, hseen]
        · simp [hother]

theorem nodup_keys_unseen (seen : List String) (entries : List α) :
    ((unseen key? seen entries).filterMap key?).Nodup := by
  induction entries generalizing seen with
  | nil => exact List.nodup_nil
  | cons first rest ih =>
    rw [unseen]
    cases hkey : key? first with
    | none =>
      simp only [List.filterMap_cons, hkey]
      exact ih seen
    | some key =>
      simp only
      split
      · exact ih seen
      · rw [List.filterMap_cons, hkey]
        refine List.nodup_cons.2 ⟨fun hmem => ?_, ih _⟩
        exact (mem_keys_unseen.1 hmem).1 (List.mem_cons_self ..)

end ParamSql
