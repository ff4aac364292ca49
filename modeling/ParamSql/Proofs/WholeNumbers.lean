import ParamSql.Proofs.Doubles
import ParamSql.Proofs.Kinds
import ParamSql.Proofs.Mapped
import ParamSql.Proofs.Trimming

namespace ParamSql

namespace Decimal

/-- A digit from zero to nine, in ASCII. -/
def IsDigit (c : Char) : Prop :=
  '0' ≤ c ∧ c ≤ '9'

instance (c : Char) : Decidable (IsDigit c) :=
  inferInstanceAs (Decidable ('0' ≤ c ∧ c ≤ '9'))

/-- The natural that digits stand for, the first of them counting most. -/
def naturalOf (digits : List Char) : Nat :=
  Nat.ofDigits 10 (digits.reverse.map fun c => c.toNat - '0'.toNat)

/-- An integer in decimal: an optional sign, then one or more digits. -/
inductive Spells : List Char → Int → Prop
  | bare {digits : List Char} (hne : digits ≠ []) (h : ∀ c ∈ digits, IsDigit c) :
    Spells digits (naturalOf digits)
  | plus {digits : List Char} (hne : digits ≠ []) (h : ∀ c ∈ digits, IsDigit c) :
    Spells ('+' :: digits) (naturalOf digits)
  | minus {digits : List Char} (hne : digits ≠ []) (h : ∀ c ∈ digits, IsDigit c) :
    Spells ('-' :: digits) (-naturalOf digits)

theorem naturalOf_cons (c : Char) (digits : List Char) :
    naturalOf (c :: digits) = (c.toNat - '0'.toNat) * 10 ^ digits.length + naturalOf digits := by
  rw [naturalOf, List.reverse_cons, List.map_append, Nat.ofDigits_append, List.map_singleton,
    Nat.ofDigits_singleton, List.length_map, List.length_reverse, naturalOf]
  ring

theorem digit?_of_isDigit {c : Char} (h : IsDigit c) : digit? c = some (c.toNat - '0'.toNat) := by
  rw [digit?, if_pos]
  rw [Bool.and_eq_true, decide_eq_true_eq, decide_eq_true_eq]
  exact h

theorem digit?_of_not_isDigit {c : Char} (h : ¬IsDigit c) : digit? c = none := by
  rw [digit?, if_neg]
  rwa [Bool.and_eq_true, decide_eq_true_eq, decide_eq_true_eq]

theorem readNat_eq_ok_iff {limit : Nat} {overflow : IntegerFault} {n m : Nat} {cs : List Char}
    (hn : n ≤ limit) :
    readNat limit overflow n cs = .ok m ↔
      (∀ c ∈ cs, IsDigit c) ∧ m = n * 10 ^ cs.length + naturalOf cs ∧ m ≤ limit := by
  induction cs generalizing n with
  | nil =>
    rw [readNat, Except.ok.injEq]
    constructor
    · rintro rfl
      exact ⟨nofun, by simp [naturalOf], hn⟩
    · rintro ⟨-, rfl, -⟩
      simp [naturalOf]
  | cons c cs ih =>
    rw [readNat, List.forall_mem_cons, List.length_cons, naturalOf_cons]
    by_cases hc : IsDigit c
    · rw [digit?_of_isDigit hc]
      dsimp only
      have hvalue : n * 10 ^ (cs.length + 1) + ((c.toNat - '0'.toNat) * 10 ^ cs.length + naturalOf cs) =
          (10 * n + (c.toNat - '0'.toNat)) * 10 ^ cs.length + naturalOf cs := by
        ring
      rw [hvalue]
      split
      · rename_i hlimit
        have hlarge : 10 * n + (c.toNat - '0'.toNat) ≤
            (10 * n + (c.toNat - '0'.toNat)) * 10 ^ cs.length :=
          Nat.le_mul_of_pos_right _ (by positivity)
        refine iff_of_false nofun ?_
        rintro ⟨-, rfl, hm⟩
        omega
      · rename_i hlimit
        rw [ih (by omega), and_iff_right hc]
    · rw [digit?_of_not_isDigit hc]
      exact iff_of_false nofun fun h => hc h.1.1

theorem readDigits_eq_ok_iff {limit : Nat} {overflow : IntegerFault} {m : Nat} {cs : List Char} :
    readDigits limit overflow cs = .ok m ↔
      cs ≠ [] ∧ (∀ c ∈ cs, IsDigit c) ∧ m = naturalOf cs ∧ m ≤ limit := by
  cases cs with
  | nil => exact iff_of_false nofun fun h => h.1 rfl
  | cons c cs =>
    rw [readDigits, readNat_eq_ok_iff (Nat.zero_le limit), Nat.zero_mul, Nat.zero_add]
    exact (and_iff_right (List.cons_ne_nil c cs)).symm

theorem readInteger_minus (rest : List Char) : readInteger ('-' :: rest) =
    (readDigits (Nat.pow 2 63) .tooSmall rest).map fun n : Nat => -(n : Int) := by
  rw [readInteger]
  cases readDigits (Nat.pow 2 63) .tooSmall rest <;> rfl

theorem readInteger_plus (rest : List Char) : readInteger ('+' :: rest) =
    (readDigits (Nat.pow 2 63 - 1) .tooLarge rest).map fun n : Nat => (n : Int) := by
  rw [readInteger]
  cases readDigits (Nat.pow 2 63 - 1) .tooLarge rest <;> rfl

theorem readInteger_bare {c : Char} (hminus : c ≠ '-') (hplus : c ≠ '+') (rest : List Char) :
    readInteger (c :: rest) =
      (readDigits (Nat.pow 2 63 - 1) .tooLarge (c :: rest)).map fun n : Nat => (n : Int) := by
  rw [readInteger.eq_4 (c :: rest) nofun (fun _ h => hminus (List.cons.inj h).1)
    fun _ h => hplus (List.cons.inj h).1]
  cases readDigits (Nat.pow 2 63 - 1) .tooLarge (c :: rest) <;> rfl

/-- A text is read as an integer if and only if it spells that integer in decimal, and 64 bits with
sign hold it. -/
theorem readInteger_eq_ok_iff {cs : List Char} {n : Int} :
    readInteger cs = .ok n ↔ Spells cs n ∧ -2 ^ 63 ≤ n ∧ n < 2 ^ 63 := by
  have hpow : Nat.pow 2 63 = 2 ^ 63 := rfl
  constructor
  · intro h
    cases cs with
    | nil => cases h
    | cons c rest =>
      by_cases hminus : c = '-'
      · rw [hminus, readInteger_minus, map_eq_ok_iff] at h
        obtain ⟨m, hm, rfl⟩ := h
        obtain ⟨hne, hdigits, rfl, hle⟩ := readDigits_eq_ok_iff.1 hm
        rw [hminus]
        exact ⟨.minus hne hdigits, by omega, by omega⟩
      · by_cases hplus : c = '+'
        · rw [hplus, readInteger_plus, map_eq_ok_iff] at h
          obtain ⟨m, hm, rfl⟩ := h
          obtain ⟨hne, hdigits, rfl, hle⟩ := readDigits_eq_ok_iff.1 hm
          rw [hplus]
          exact ⟨.plus hne hdigits, by omega, by omega⟩
        · rw [readInteger_bare hminus hplus, map_eq_ok_iff] at h
          obtain ⟨m, hm, rfl⟩ := h
          obtain ⟨hne, hdigits, rfl, hle⟩ := readDigits_eq_ok_iff.1 hm
          exact ⟨.bare hne hdigits, by omega, by omega⟩
  · rintro ⟨hspells, hlow, hhigh⟩
    cases hspells with
    | minus hne hdigits =>
      rw [readInteger_minus, map_eq_ok_iff]
      exact ⟨_, readDigits_eq_ok_iff.2 ⟨hne, hdigits, rfl, by omega⟩, rfl⟩
    | plus hne hdigits =>
      rw [readInteger_plus, map_eq_ok_iff]
      exact ⟨_, readDigits_eq_ok_iff.2 ⟨hne, hdigits, rfl, by omega⟩, rfl⟩
    | bare hne hdigits =>
      obtain ⟨c, rest, rfl⟩ := List.exists_cons_of_ne_nil hne
      have hsign {sign : Char} (hsign : ¬IsDigit sign) : c ≠ sign := by
        rintro rfl
        exact hsign (hdigits c List.mem_cons_self)
      rw [readInteger_bare (hsign (by decide)) (hsign (by decide)), map_eq_ok_iff]
      exact ⟨_, readDigits_eq_ok_iff.2 ⟨hne, hdigits, rfl, by omega⟩, rfl⟩

theorem Spells.unique {cs : List Char} {m n : Int} (hm : Spells cs m) (hn : Spells cs n) :
    m = n := by
  have hsign {sign : Char} (hsign : ¬IsDigit sign) {digits : List Char}
      (h : ∀ c ∈ sign :: digits, IsDigit c) : False :=
    hsign (h sign List.mem_cons_self)
  cases hm with
  | bare _ h =>
    cases hn with
    | bare => rfl
    | plus => exact (hsign (by decide) h).elim
    | minus => exact (hsign (by decide) h).elim
  | plus =>
    cases hn with
    | bare _ h => exact (hsign (by decide) h).elim
    | plus => rfl
  | minus =>
    cases hn with
    | bare _ h => exact (hsign (by decide) h).elim
    | minus => rfl

theorem Spells.not_isBlank {cs : List Char} {n : Int} (h : Spells cs n) :
    ∀ c ∈ cs, ¬Text.isBlank c := by
  have hdigit {c : Char} (hc : IsDigit c) : ¬Text.isBlank c := by
    intro hblank
    have hlow : 48 ≤ c.toNat := hc.1
    have hhigh : c.toNat ≤ 57 := hc.2
    rw [Text.isBlank, List.contains_iff_mem] at hblank
    simp only [Text.blanks, List.mem_cons, List.not_mem_nil, or_false] at hblank
    omega
  cases h with
  | bare _ hdigits => exact fun c hc => hdigit (hdigits c hc)
  | plus _ hdigits =>
    exact List.forall_mem_cons.2 ⟨by decide, fun c hc => hdigit (hdigits c hc)⟩
  | minus _ hdigits =>
    exact List.forall_mem_cons.2 ⟨by decide, fun c hc => hdigit (hdigits c hc)⟩

end Decimal

namespace Value

/-- The number that a value is or spells: integers, booleans as zero and one, doubles that are
numbers, and text with a decimal integer between blanks. -/
inductive Denotes : Value → ℚ → Prop
  | integer (n : Int64) : Denotes (.integer n) n.toInt
  | bool (b : Bool) : Denotes (.bool b) b.toNat
  | float {x : Float} {q : ℚ} (h : Decimal.number? x = some q) : Denotes (.float x) q
  | text {s : String} {before written after : List Char} {n : Int}
    (hs : s.toList = before ++ written ++ after) (hbefore : ∀ c ∈ before, Text.isBlank c)
    (hafter : ∀ c ∈ after, Text.isBlank c) (h : Decimal.Spells written n) : Denotes (.text s) n

theorem denotes_text_iff {s : String} {q : ℚ} :
    (Value.text s).Denotes q ↔ ∃ n : Int, Decimal.Spells (Text.trimChars s.toList) n ∧ q = n := by
  constructor
  · intro h
    cases h with
    | @text _ before written after n hs hbefore hafter h =>
      have hend : ∀ c ∈ written.reverse, ¬Text.isBlank c :=
        fun c hc => h.not_isBlank c (List.mem_reverse.1 hc)
      rw [hs, Text.trimChars_append hbefore (.of_forall h.not_isBlank) (.of_forall hend) hafter]
      exact ⟨n, h, rfl⟩
  · rintro ⟨n, h, rfl⟩
    obtain ⟨before, after, hs, hbefore, hafter⟩ := Text.exists_trimChars s.toList
    exact .text hs hbefore hafter h

theorem Denotes.unique {v : Value} {q r : ℚ} (hq : v.Denotes q) (hr : v.Denotes r) : q = r := by
  cases hq with
  | integer n =>
    cases hr
    rfl
  | bool b =>
    cases hr
    rfl
  | float hq =>
    cases hr with
    | float hr => exact Option.some_inj.1 (hq.symm.trans hr)
  | text hs hbefore hafter h =>
    obtain ⟨m, hm, hq⟩ := denotes_text_iff.1 (.text hs hbefore hafter h)
    obtain ⟨n, hn, rfl⟩ := denotes_text_iff.1 hr
    rw [hq, hm.unique hn]

end Value

namespace BuiltinType

theorem integerOfFloat_eq_ok_iff {x : Float} {n : Int64} :
    integerOfFloat x = .ok n ↔ (Value.float x).Denotes n.toInt := by
  have hdenotes : (Value.float x).Denotes n.toInt ↔ Decimal.integral? x = some n.toInt := by
    rw [Decimal.integral?_eq_some_iff]
    exact ⟨fun | .float h => h, .float⟩
  rw [hdenotes, integerOfFloat]
  cases Decimal.integral? x with
  | none => exact iff_of_false nofun nofun
  | some m =>
    dsimp only
    have hlow : -2 ^ 63 ≤ n.toInt := n.le_toInt
    have hhigh : n.toInt < 2 ^ 63 := n.toInt_lt
    have hpow : (Nat.pow 2 63 : Nat) = 2 ^ 63 := rfl
    rw [Option.some.injEq]
    split
    · rename_i hrange
      rw [Bool.or_eq_true, decide_eq_true_eq, decide_eq_true_eq] at hrange
      refine iff_of_false nofun ?_
      omega
    · rename_i hrange
      rw [Bool.or_eq_true, decide_eq_true_eq, decide_eq_true_eq] at hrange
      rw [Except.ok.injEq, ← Int64.toInt_inj, Int64.toInt_ofInt_of_le (by omega) (by omega)]

/-- The type of integers makes an integer of a value if and only if it is the number that the value
denotes. -/
theorem integer_scalar_eq_ok_iff {v : Value} {n : Int64} :
    integer.scalar v = .ok (.integer n) ↔ v.Denotes n.toInt := by
  cases v with
  | integer m =>
    change Except.ok (Scalar.integer m) = .ok (.integer n) ↔ _
    rw [Except.ok.injEq, Scalar.integer.injEq]
    constructor
    · rintro rfl
      exact .integer m
    · intro h
      have hsame := h.unique (.integer m)
      rw [Int.cast_inj, Int64.toInt_inj] at hsame
      exact hsame.symm
  | bool b =>
    have hb : ((if b then 1 else 0 : Int64)).toInt = b.toNat := by cases b <;> rfl
    change Except.ok (Scalar.integer (if b then 1 else 0)) = .ok (.integer n) ↔ _
    rw [Except.ok.injEq, Scalar.integer.injEq]
    constructor
    · rintro rfl
      rw [hb]
      exact .bool b
    · intro h
      have hsame := h.unique (.bool b)
      rw [← Int.cast_natCast, ← hb, Int.cast_inj, Int64.toInt_inj] at hsame
      exact hsame.symm
  | float x =>
    rw [← integerOfFloat_eq_ok_iff]
    change integerScalar (.float x) = _ ↔ _
    rw [integerScalar]
    cases integerOfFloat x with
    | ok m => rw [Except.ok.injEq, Scalar.integer.injEq, Except.ok.injEq]
    | error fault => constructor <;> intro h <;> cases h
  | text s =>
    have hdenotes : (Value.text s).Denotes n.toInt ↔
        Decimal.readInteger (Text.trimChars s.toList) = .ok n.toInt := by
      rw [Decimal.readInteger_eq_ok_iff, and_iff_left ⟨n.le_toInt, n.toInt_lt⟩,
        Value.denotes_text_iff]
      simp only [Int.cast_inj, exists_eq_right']
    rw [hdenotes]
    change integerScalar (.text s) = _ ↔ _
    rw [integerScalar]
    cases hread : Decimal.readInteger (Text.trimChars s.toList) with
    | ok m =>
      obtain ⟨_, hlow, hhigh⟩ := Decimal.readInteger_eq_ok_iff.1 hread
      rw [Except.ok.injEq, Scalar.integer.injEq, Except.ok.injEq, ← Int64.toInt_inj,
        Int64.toInt_ofInt_of_le hlow hhigh]
    | error fault => constructor <;> intro h <;> cases h
  | null | moment | date | bytes | json | list => constructor <;> intro h <;> cases h

theorem integer_scalar_eq_error {v : Value} {e : CompileError}
    (h : integer.scalar v = .error e) : ∃ fault, e = .conversion integer.name fault := by
  cases v with
  | null | bool | integer => cases h
  | float x =>
    change integerScalar (.float x) = _ at h
    rw [integerScalar] at h
    cases hfloat : integerOfFloat x with
    | ok n =>
      rw [hfloat] at h
      cases h
    | error fault =>
      rw [hfloat] at h
      exact ⟨fault, (Except.error.inj h).symm⟩
  | text s =>
    change integerScalar (.text s) = _ at h
    rw [integerScalar] at h
    cases hread : Decimal.readInteger (Text.trimChars s.toList) with
    | ok n =>
      rw [hread] at h
      cases h
    | error fault =>
      rw [hread] at h
      exact ⟨.integerText fault, (Except.error.inj h).symm⟩
  | _ => exact ⟨_, (Except.error.inj h).symm⟩

/-- An integer is made of a value if it is the one number that the value denotes, and of every value
that denotes an integer of 64 bits with sign. All other values are refused, the null apart. -/
theorem integer_scalar_exact (v : Value) :
    (∀ n : Int64, integer.scalar v = .ok (.integer n) → ∀ q, v.Denotes q ↔ q = n.toInt) ∧
      (∀ n : Int, -2 ^ 63 ≤ n → n ≤ 2 ^ 63 - 1 → v.Denotes n →
        integer.scalar v = .ok (.integer (Int64.ofInt n))) ∧
      (v ≠ .null → (¬∃ n : Int, -2 ^ 63 ≤ n ∧ n ≤ 2 ^ 63 - 1 ∧ v.Denotes n) →
        ∃ fault, integer.scalar v = .error (.conversion integer.name fault)) := by
  refine ⟨fun n h q => ?_, fun n hlow hhigh h => ?_, fun hv hnone => ?_⟩
  · have hn := integer_scalar_eq_ok_iff.1 h
    exact ⟨fun hq => hq.unique hn, fun hq => hq ▸ hn⟩
  · rw [integer_scalar_eq_ok_iff, Int64.toInt_ofInt_of_le hlow (by omega)]
    exact h
  · cases hscalar : integer.scalar v with
    | error e =>
      obtain ⟨fault, rfl⟩ := integer_scalar_eq_error hscalar
      exact ⟨fault, rfl⟩
    | ok x =>
      obtain ⟨n, rfl⟩ : ∃ n, x = .integer n := by
        rw [scalar_eq_convert hv] at hscalar
        have hkind := kind_convert hscalar
        cases x with
        | integer n => exact ⟨n, rfl⟩
        | _ => cases hkind
      have hhigh : n.toInt < 2 ^ 63 := n.toInt_lt
      exact absurd ⟨n.toInt, n.le_toInt, by omega, integer_scalar_eq_ok_iff.1 hscalar⟩ hnone

end BuiltinType

end ParamSql
