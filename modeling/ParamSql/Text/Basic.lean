namespace ParamSql.Text

def lower (s : String) : String :=
  s.map Char.toLower

def upper (s : String) : String :=
  s.map Char.toUpper

/-- Whether two texts differ in the case of ASCII letters at most. -/
def sameWord (s t : String) : Bool :=
  lower s == lower t

/-- The code points of Unicode with the property `White_Space`. -/
def blanks : List Nat :=
  [0x09, 0x0A, 0x0B, 0x0C, 0x0D, 0x20, 0x85, 0xA0, 0x1680,
   0x2000, 0x2001, 0x2002, 0x2003, 0x2004, 0x2005, 0x2006, 0x2007, 0x2008, 0x2009, 0x200A,
   0x2028, 0x2029, 0x202F, 0x205F, 0x3000]

def isBlank (c : Char) : Bool :=
  blanks.contains c.toNat

def trimEnd (cs : List Char) : List Char :=
  (cs.reverse.dropWhile isBlank).reverse

def trimChars (cs : List Char) : List Char :=
  trimEnd (cs.dropWhile isBlank)

def trim (s : String) : String :=
  String.ofList (trimChars s.toList)

/-- The characters with every one that `p` picks written twice. -/
def doubled (p : Char → Bool) : List Char → List Char
  | [] => []
  | c :: rest => if p c then c :: c :: doubled p rest else c :: doubled p rest

/-- The characters between two delimiters, with those that `p` picks written twice. -/
def delimited (delimiter : Char) (p : Char → Bool) (cs : List Char) : List Char :=
  delimiter :: doubled p cs ++ [delimiter]

/-- The stretches between the separators, from first to last; there is always at least one. -/
def cut (sep : Char) : List Char → List (List Char)
  | [] => [[]]
  | c :: rest =>
    if c = sep then
      [] :: cut sep rest
    else
      match cut sep rest with
      | [] => [[c]]
      | segment :: segments => (c :: segment) :: segments

def segments (sep : Char) (s : String) : List String :=
  (cut sep s.toList).map String.ofList

theorem cut_ne_nil (sep : Char) (cs : List Char) : cut sep cs ≠ [] := by
  cases cs with
  | nil => simp [cut]
  | cons c rest =>
    by_cases h : c = sep
    · simp [cut, h]
    · simp only [cut, h, if_false]
      split <;> simp

theorem intercalate_cut (sep : Char) (cs : List Char) :
    [sep].intercalate (cut sep cs) = cs := by
  induction cs with
  | nil => rfl
  | cons c rest ih =>
    simp only [cut]
    split
    · rename_i hc
      rw [List.intercalate_cons_of_ne_nil (cut_ne_nil sep rest), ih, hc]
      rfl
    · revert ih
      cases cut sep rest with
      | nil => exact fun ih => by rw [← ih]; rfl
      | cons segment segments =>
        intro ih
        rw [← ih]
        cases segments <;> simp

theorem intercalate_segments (sep : Char) (s : String) :
    (String.singleton sep).intercalate (segments sep s) = s := by
  rw [← String.toList_inj, String.toList_intercalate, segments, List.map_map]
  have hsame : String.toList ∘ String.ofList = id := by
    funext cs
    exact String.toList_ofList
  rw [hsame, List.map_id, String.toList_singleton, intercalate_cut]

def lastSegment (sep : Char) (s : String) : String :=
  ((segments sep s).getLast?).getD ""

end ParamSql.Text
