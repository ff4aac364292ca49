import Mathlib
import ParamSql.Proofs.Spelled

namespace ParamSql

namespace Dialect

/-- What may stand between two delimiters, and what it stands for. -/
inductive Inner (d : Dialect) : List Char → List Char → Prop
  | nil : d.Inner [] []
  | char {c : Char} {written cs : List Char} (hc : c ≠ d.identifierQuote) (h : d.Inner written cs) :
    d.Inner (c :: written) (c :: cs)
  | delimiter {written cs : List Char} (h : d.Inner written cs) :
    d.Inner (d.identifierQuote :: d.identifierQuote :: written) (d.identifierQuote :: cs)

/-- A token of a name, and the segment that it stands for. -/
inductive Token (d : Dialect) : String → String → Prop
  | star : d.Token "*" "*"
  | quoted {written cs : List Char} (h : d.Inner written cs) :
    d.Token (String.ofList (d.identifierQuote :: written ++ [d.identifierQuote])) (String.ofList cs)

end Dialect

/-- Where a reader of names is, with what it has read of a segment. -/
inductive Place
  | front
  | inside (segment : List Char)
  /-- Behind a delimiter that closes the token, unless it is doubled. -/
  | closing (segment : List Char)
  | behind (segment : List Char)

namespace Dialect

/-- The segments that a text is read as from a place on, or nothing if it is no name. -/
def readFrom (d : Dialect) : Place → List Char → Option (List (List Char))
  | .front, [] | .inside _, [] => none
  | .closing segment, [] | .behind segment, [] => some [segment]
  | .front, c :: rest =>
    if c = d.identifierQuote then d.readFrom (.inside []) rest
    else if c = '*' then d.readFrom (.behind ['*']) rest
    else none
  | .inside segment, c :: rest =>
    if c = d.identifierQuote then d.readFrom (.closing segment) rest
    else d.readFrom (.inside (segment ++ [c])) rest
  | .closing segment, c :: rest =>
    if c = d.identifierQuote then d.readFrom (.inside (segment ++ [c])) rest
    else if c = '.' then (d.readFrom .front rest).map (segment :: ·)
    else none
  | .behind segment, c :: rest =>
    if c = '.' then (d.readFrom .front rest).map (segment :: ·) else none

/-- The segments of a quoted name, if the text is one. -/
def readName? (d : Dialect) (s : String) : Option (List String) :=
  (d.readFrom .front s.toList).map (List.map String.ofList)

variable {d : Dialect}

theorem identifierQuote_ne_dot (d : Dialect) : '.' ≠ d.identifierQuote := by
  cases d <;> decide

theorem inner_doubled (d : Dialect) (cs : List Char) :
    d.Inner (Text.doubled (· = d.identifierQuote) cs) cs := by
  induction cs with
  | nil => exact .nil
  | cons c cs ih =>
    by_cases hc : c = d.identifierQuote
    · rw [Text.doubled, if_pos (decide_eq_true hc), hc]
      exact .delimiter ih
    · rw [Text.doubled, if_neg (by simpa using hc)]
      exact .char hc ih

theorem token_quoteSegment (d : Dialect) (segment : String) :
    d.Token (d.platform.quoteSegment segment) segment := by
  rw [Platform.quoteSegment]
  split
  · rename_i hstar
    rw [hstar]
    exact .star
  · have hquoted := Token.quoted (d.inner_doubled segment.toList)
    rw [String.ofList_toList] at hquoted
    exact hquoted

/-- The reader comes through what stands between two delimiters: a doubled one takes it out and in
again. -/
theorem readFrom_inner {written cs : List Char} (h : d.Inner written cs) (segment rest : List Char) :
    d.readFrom (.inside segment) (written ++ d.identifierQuote :: rest) =
      d.readFrom (.closing (segment ++ cs)) rest := by
  induction h generalizing segment with
  | nil => rw [List.nil_append, readFrom, if_pos rfl, List.append_nil]
  | char hc _ ih => rw [List.cons_append, readFrom, if_neg hc, ih, List.append_assoc]; rfl
  | delimiter _ ih =>
    rw [List.cons_append, List.cons_append, readFrom, if_pos rfl, readFrom, if_pos rfl, ih,
      List.append_assoc]
    rfl

theorem readFrom_token {token segment : String} (h : d.Token token segment) :
    d.readFrom .front token.toList = some [segment.toList] ∧
      ∀ rest, d.readFrom .front (token.toList ++ '.' :: rest) =
        (d.readFrom .front rest).map (segment.toList :: ·) := by
  cases h with
  | star =>
    have hstar : '*' ≠ d.identifierQuote := by cases d <;> decide
    have hread (rest : List Char) : d.readFrom .front ('*' :: rest) =
        d.readFrom (.behind ['*']) rest := by
      rw [readFrom, if_neg hstar, if_pos rfl]
    refine ⟨hread [], fun rest => (hread _).trans ?_⟩
    change d.readFrom (.behind ['*']) ('.' :: rest) = _
    rw [readFrom, if_pos rfl]
    rfl
  | @quoted written cs h =>
    have hread (rest : List Char) : d.readFrom .front
        (d.identifierQuote :: written ++ [d.identifierQuote] ++ rest) =
          d.readFrom (.closing cs) rest := by
      rw [List.append_assoc, List.cons_append, readFrom, if_pos rfl]
      exact readFrom_inner h [] rest
    simp only [String.toList_ofList]
    refine ⟨?_, fun rest => ?_⟩
    · have hend := hread []
      rw [List.append_nil] at hend
      rw [hend, readFrom]
    · rw [hread, readFrom, if_neg d.identifierQuote_ne_dot, if_pos rfl]

theorem readFrom_tokens {tokens segments : List String} (h : List.Forall₂ d.Token tokens segments)
    (hne : tokens ≠ []) :
    d.readFrom .front (".".intercalate tokens).toList = some (segments.map String.toList) := by
  induction h with
  | nil => exact absurd rfl hne
  | @cons token segment tokens segments htoken htokens ih =>
    obtain ⟨hlast, hdot⟩ := readFrom_token htoken
    cases htokens with
    | nil =>
      rw [String.intercalate_singleton, hlast]
      rfl
    | @cons next _ others _ _ _ =>
      have hrest := hdot (".".intercalate (next :: others)).toList
      rw [ih (List.cons_ne_nil _ _)] at hrest
      rw [String.intercalate_cons_cons, String.toList_append, String.toList_append,
        List.append_assoc]
      exact hrest

/-- A text is made up of tokens for one list of segments only. -/
theorem segments_unique {tokens segments tokens' segments' : List String}
    (h : List.Forall₂ d.Token tokens segments) (hne : tokens ≠ [])
    (h' : List.Forall₂ d.Token tokens' segments')
    (htext : ".".intercalate tokens = ".".intercalate tokens') : segments' = segments := by
  have hread := readFrom_tokens h hne
  rw [htext] at hread
  have hne' : tokens' ≠ [] := by
    rintro rfl
    rw [String.intercalate_nil] at hread
    cases hread
  rw [readFrom_tokens h' hne'] at hread
  exact List.map_injective_iff.2 (fun _ _ => String.toList_inj.1) (Option.some.inj hread)

/-- A name is quoted to tokens with dots between them. The text is made up of tokens for no other
segments, these are what it is read as, and they make up the name; so names that are quoted alike
are the same. -/
theorem readName_quoteName (d : Dialect) :
    (∀ name, ∃ tokens segments : List String, List.Forall₂ d.Token tokens segments ∧
      d.platform.quoteName true name = ".".intercalate tokens ∧
      (∀ tokens' segments', List.Forall₂ d.Token tokens' segments' →
        d.platform.quoteName true name = ".".intercalate tokens' → segments' = segments) ∧
      d.readName? (d.platform.quoteName true name) = some segments ∧
      ".".intercalate segments = name) ∧
    Function.Injective (d.platform.quoteName true) := by
  have htokens (name : String) : List.Forall₂ d.Token
      ((Text.segments '.' name).map d.platform.quoteSegment) (Text.segments '.' name) := by
    rw [List.forall₂_map_left_iff, List.forall₂_same]
    exact fun segment _ => d.token_quoteSegment segment
  have hne (name : String) : (Text.segments '.' name).map d.platform.quoteSegment ≠ [] := by
    rw [Text.segments]
    simp [Text.cut_ne_nil]
  have hread (name : String) : d.readName? (d.platform.quoteName true name) =
      some (Text.segments '.' name) := by
    change (d.readFrom .front (".".intercalate _).toList).map _ = _
    rw [readFrom_tokens (htokens name) (hne name), Option.map_some, List.map_map]
    simp [Function.comp_def]
  have hname (name : String) : ".".intercalate (Text.segments '.' name) = name :=
    Text.intercalate_segments '.' name
  refine ⟨fun name => ?_, fun name other hsame => ?_⟩
  · exact ⟨_, _, htokens name, rfl,
      fun _ _ h' htext => segments_unique (htokens name) (hne name) h' htext, hread name, hname name⟩
  · have hsegments : Text.segments '.' name = Text.segments '.' other := by
      rw [← Option.some_inj, ← hread name, ← hread other, hsame]
    rw [← hname name, hsegments, hname other]

/-- Empty segments, a star that is no segment of its own, and a delimiter next to a dot. -/
example : mysql.readName? (mysql.platform.quoteName true "a\x60..b*.*") =
    some ["a\x60", "", "b*", "*"] := by
  cbv

end Dialect

end ParamSql
