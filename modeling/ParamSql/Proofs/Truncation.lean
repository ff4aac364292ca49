import ParamSql.Log

namespace ParamSql.Log

/-- A start of a text that takes at most so many bytes of UTF-8, and the longest of them. -/
structure IsLongestStart (room : Nat) (sql shown : String) : Prop where
  start : shown.toList <+: sql.toList
  fits : shown.utf8ByteSize ≤ room
  longest {other : String} : other.toList <+: sql.toList → other.utf8ByteSize ≤ room →
    other.toList <+: shown.toList

/-- The search back from a byte of a text ends at a place between two characters, so many steps
before it, and passes no such place. -/
structure Searched (sql : String) (i : Nat) (place : sql.Pos) (steps : Nat) : Prop where
  between : place.offset.IsValid sql
  ends : place.offset.byteIdx + steps = i
  passed {j : Nat} : j < steps → ¬(String.Pos.Raw.mk (i - j)).IsValid sql

theorem exists_searched (sql : String) (i : Nat) :
    ∃ steps, Searched sql i (boundary sql i) steps := by
  induction i with
  | zero => exact ⟨0, sql.startPos.isValid, rfl, nofun⟩
  | succ i ih =>
    by_cases h : (String.Pos.Raw.mk (i + 1)).IsValid sql
    · rw [boundary, dif_pos h]
      exact ⟨0, h, rfl, nofun⟩
    · rw [boundary, dif_neg h]
      obtain ⟨steps, hbetween, hends, hpassed⟩ := ih
      refine ⟨steps + 1, hbetween, by omega, fun {j} hj => ?_⟩
      cases j with
      | zero => exact h
      | succ j =>
        rw [Nat.add_sub_add_right]
        exact hpassed (by omega)

/-- What stands before a place in a text. -/
def before {sql : String} (place : sql.Pos) : String :=
  (sql.sliceTo place).copy

variable {sql : String} {i steps : Nat} {place : sql.Pos}

theorem utf8ByteSize_before (place : sql.Pos) :
    (before place).utf8ByteSize = place.offset.byteIdx := by
  rw [before, String.Slice.utf8ByteSize_copy, String.utf8ByteSize_sliceTo]

theorem exists_behind (place : sql.Pos) : ∃ rest, sql = before place ++ rest :=
  ⟨_, String.sliceTo_append_sliceFrom.symm⟩

theorem Searched.le_of_append (h : Searched sql i place steps) {front rest : String}
    (hsql : sql = front ++ rest) (hfront : front.utf8ByteSize ≤ i) :
    front.utf8ByteSize ≤ place.offset.byteIdx := by
  apply Nat.le_of_not_lt
  intro hlt
  have hends := h.ends
  have hpassed := h.passed (show i - front.utf8ByteSize < steps by omega)
  rw [Nat.sub_sub_self hfront] at hpassed
  exact hpassed (String.Pos.Raw.isValid_iff_exists_append.2 ⟨front, rest, hsql, rfl⟩)

/-- From a byte of the text the search takes three steps at most: it begins inside of the character
that it ends in front of. -/
theorem Searched.steps_le (h : Searched sql i place steps) (hi : i ≤ sql.utf8ByteSize) :
    steps ≤ 3 := by
  have hends := h.ends
  have hbefore := utf8ByteSize_before place
  obtain ⟨rest, hsql⟩ := exists_behind place
  have hsize := congrArg String.utf8ByteSize hsql
  rw [String.utf8ByteSize_append] at hsize
  cases hrest : rest.toList with
  | nil =>
    rw [String.toList_eq_nil_iff.1 hrest, String.utf8ByteSize_empty] at hsize
    omega
  | cons c cs =>
    have hnext : sql = before place ++ String.singleton c ++ String.ofList cs := by
      rw [String.append_assoc, ← String.ofList_cons, ← hrest, String.ofList_toList]
      exact hsql
    have hback := h.le_of_append hnext
    rw [String.utf8ByteSize_append, String.utf8ByteSize_singleton] at hback
    have hpos := c.utf8Size_pos
    have hfour := c.utf8Size_le_four
    omega

theorem prefix_of_utf8ByteSize_le {short long : List Char} {cs : List Char} (hshort : short <+: cs)
    (hlong : long <+: cs)
    (h : (String.ofList short).utf8ByteSize ≤ (String.ofList long).utf8ByteSize) :
    short <+: long := by
  rcases List.prefix_or_prefix_of_prefix hshort hlong with hstart | ⟨more, rfl⟩
  · exact hstart
  · rw [String.ofList_append, String.utf8ByteSize_append] at h
    have hmore : String.ofList more = "" := String.utf8ByteSize_eq_zero_iff.1 (by omega)
    obtain rfl : more = [] := String.ofList_eq_empty_iff.1 hmore
    exact ⟨[], by rw [List.append_nil, List.append_nil]⟩

/-- What stands before the place where the search ends is the longest start with room. -/
theorem Searched.isLongestStart (h : Searched sql i place steps) :
    IsLongestStart i sql (before place) := by
  have hends := h.ends
  have hbefore := utf8ByteSize_before place
  obtain ⟨rest, hsql⟩ := exists_behind place
  have hstart : (before place).toList <+: sql.toList :=
    ⟨rest.toList, by rw [← String.toList_append, ← hsql]⟩
  refine ⟨hstart, by omega, fun {other} hother hfits => ?_⟩
  apply prefix_of_utf8ByteSize_le hother hstart
  obtain ⟨more, hmore⟩ := hother
  have hotherSql : sql = other ++ String.ofList more := by
    rw [← String.toList_inj, String.toList_append, String.toList_ofList, hmore]
  have hle := h.le_of_append hotherSql hfits
  rw [String.ofList_toList, String.ofList_toList]
  omega

/-- A text of a thousand bytes at most is shown as it is. Of a longer one the longest start of whole
characters with that many bytes is shown, and three points; the search for its end goes back three
steps at most. -/
theorem truncate_longest (sql : String) :
    (sql.utf8ByteSize ≤ 1000 → truncate sql = sql) ∧
      (1000 < sql.utf8ByteSize →
        (∃ steps ≤ 3, Searched sql 1000 (boundary sql 1000) steps) ∧
          IsLongestStart 1000 sql (before (boundary sql 1000)) ∧
          truncate sql = before (boundary sql 1000) ++ "...") := by
  refine ⟨fun h => if_pos h, fun h => ?_⟩
  obtain ⟨steps, hsearched⟩ := exists_searched sql 1000
  exact ⟨⟨steps, hsearched.steps_le (Nat.le_of_lt h), hsearched⟩, hsearched.isLongestStart,
    if_neg (Nat.not_le.2 h)⟩

theorem IsLongestStart.unique {room : Nat} {shown other : String}
    (h : IsLongestStart room sql shown) (hother : IsLongestStart room sql other) : shown = other := by
  rw [← String.toList_inj]
  have hle := (h.longest hother.start hother.fits).length_le
  exact (hother.longest h.start h.fits).eq_of_length_le hle

theorem isLongestStart_of_next {room : Nat} {front rest : List Char} {c : Char}
    (hfits : (String.ofList front).utf8ByteSize ≤ room)
    (hnext : room < (String.ofList front).utf8ByteSize + c.utf8Size) :
    IsLongestStart room (String.ofList (front ++ c :: rest)) (String.ofList front) := by
  refine ⟨?_, hfits, fun {other} hother hroom => ?_⟩
  · rw [String.toList_ofList, String.toList_ofList]
    exact List.prefix_append _ _
  · rw [String.toList_ofList] at hother ⊢
    rcases List.prefix_or_prefix_of_prefix hother (List.prefix_append front (c :: rest)) with
      hshort | ⟨more, hmore⟩
    · exact hshort
    · cases more with
      | nil =>
        exact ⟨[], by rw [← hmore, List.append_nil, List.append_nil]⟩
      | cons d more =>
        rw [← hmore, List.prefix_append_right_inj, List.cons_prefix_cons] at hother
        obtain ⟨rfl, _⟩ := hother
        rw [← String.ofList_toList (s := other), ← hmore, String.ofList_append, String.ofList_cons,
          String.utf8ByteSize_append, String.utf8ByteSize_append,
          String.utf8ByteSize_singleton] at hroom
        omega

theorem utf8ByteSize_letters (n : Nat) :
    (String.ofList (List.replicate n 'x')).utf8ByteSize = n := by
  induction n with
  | zero => rfl
  | succ n ih =>
    rw [List.replicate_succ, String.ofList_cons, String.utf8ByteSize_append, ih,
      String.utf8ByteSize_singleton, Nat.add_comm]
    rfl

/-- A text whose last character takes the bytes from the 998th to the 1001st. -/
def straddling : String :=
  String.ofList (List.replicate 997 'x' ++ ['😀'])

/-- The search goes back over the three bytes of the last character that there is room for. -/
theorem truncate_longest_straddling :
    "SELECT 1".utf8ByteSize ≤ 1000 ∧ truncate "SELECT 1" = "SELECT 1" ∧
      1000 < straddling.utf8ByteSize ∧ Searched straddling 1000 (boundary straddling 1000) 3 ∧
      truncate straddling = String.ofList (List.replicate 997 'x') ++ "..." := by
  have hshort : "SELECT 1".utf8ByteSize ≤ 1000 := by decide
  have hletters := utf8ByteSize_letters 997
  have hlast : (String.ofList ['😀']).utf8ByteSize = 4 := rfl
  have hsize : straddling.utf8ByteSize = 997 + 4 := by
    unfold straddling
    rw [String.ofList_append, String.utf8ByteSize_append, hletters, hlast]
  have hlong : 1000 < straddling.utf8ByteSize := by omega
  obtain ⟨⟨steps, _, hsearched⟩, hlongest, htruncate⟩ := (truncate_longest straddling).2 hlong
  have hnext : 1000 < (String.ofList (List.replicate 997 'x')).utf8ByteSize + '😀'.utf8Size := by
    rw [show '😀'.utf8Size = 4 from rfl]
    omega
  have hbefore : before (boundary straddling 1000) = String.ofList (List.replicate 997 'x') :=
    hlongest.unique (isLongestStart_of_next (by omega) hnext)
  have hends := hsearched.ends
  rw [← utf8ByteSize_before, hbefore, hletters] at hends
  obtain rfl : steps = 3 := by omega
  rw [hbefore] at htruncate
  exact ⟨hshort, (truncate_longest "SELECT 1").1 hshort, hlong, hsearched, htruncate⟩

end ParamSql.Log
