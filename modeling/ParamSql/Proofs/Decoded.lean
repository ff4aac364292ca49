import ParamSql.Proofs.Literals

namespace ParamSql

namespace Text

/-- What a backslash and the character behind it stand for where backslashes escape. In front of a
wildcard of patterns the backslash stays. -/
def unescaped (c : Char) : List Char :=
  match c with
  | '0' => ['\x00']
  | 'b' => ['\x08']
  | 'n' => ['\n']
  | 'r' => ['\r']
  | 't' => ['\t']
  | 'Z' => ['\x1A']
  | '%' => ['\\', '%']
  | '_' => ['\\', '_']
  | c => [c]

/-- The number of a hexadecimal digit, in either case. -/
def hexValue? (c : Char) : Option Nat :=
  if '0' ≤ c ∧ c ≤ '9' then some (c.toNat - '0'.toNat)
  else if 'a' ≤ c ∧ c ≤ 'f' then some (c.toNat - 'a'.toNat + 10)
  else if 'A' ≤ c ∧ c ≤ 'F' then some (c.toNat - 'A'.toNat + 10)
  else none

/-- The bytes that pairs of hexadecimal digits stand for, the first of two counting sixteen
times. -/
def hexBytes? : List Char → Option (List UInt8)
  | [] => some []
  | [_] => none
  | high :: low :: rest =>
    match hexValue? high, hexValue? low, hexBytes? rest with
    | some m, some n, some bytes => some (UInt8.ofNat (16 * m + n) :: bytes)
    | _, _, _ => none

theorem hexValue_digitChar : ∀ n < 16, hexValue? (Nat.digitChar n) = some n := by decide

theorem hexBytes_written (bytes : List UInt8) :
    hexBytes? (bytes.flatMap Dialect.byteHex) = some bytes := by
  induction bytes with
  | nil => rfl
  | cons b bytes ih =>
    have hb : b.toNat < 256 := b.toNat_lt
    have hhigh := hexValue_digitChar (b.toNat / 16) (by omega)
    have hlow := hexValue_digitChar (b.toNat % 16) (by omega)
    have hbyte : UInt8.ofNat (16 * (b.toNat / 16) + b.toNat % 16) = b := by
      rw [Nat.div_add_mod, UInt8.ofNat_toNat]
    rw [List.flatMap_cons, Dialect.byteHex, List.cons_append, List.cons_append, List.nil_append,
      hexBytes?, hhigh, hlow, ih]
    exact congrArg (some <| · :: bytes) hbyte

theorem ne_quote_of_hexBytes {digits : List Char} {bytes : List UInt8}
    (h : hexBytes? digits = some bytes) : ∀ c ∈ digits, c ≠ Dialect.literalQuote := by
  fun_induction hexBytes? digits generalizing bytes with
  | case1 => exact nofun
  | case2 => cases h
  | case3 high low rest m n bytes hrest hlow hhigh ih =>
    have hquote {c : Char} {n : Nat} (hc : hexValue? c = some n) : c ≠ Dialect.literalQuote := by
      rintro rfl
      cases hc
    rw [List.forall_mem_cons, List.forall_mem_cons]
    exact ⟨hquote hhigh, hquote hlow, ih hrest⟩
  | case4 => cases h

end Text

namespace Dialect

/-- What may stand between the quotes of a string literal, and what it stands for. -/
inductive Body (d : Dialect) : List Char → List Char → Prop
  | nil : d.Body [] []
  | char {c : Char} {written cs : List Char} (hquote : c ≠ literalQuote)
    (hslash : c = '\\' → d ≠ mysql) (h : d.Body written cs) : d.Body (c :: written) (c :: cs)
  | quote {written cs : List Char} (h : d.Body written cs) :
    d.Body (literalQuote :: literalQuote :: written) (literalQuote :: cs)
  | escape (c : Char) {written cs : List Char} (hd : d = mysql) (h : d.Body written cs) :
    d.Body ('\\' :: c :: written) (Text.unescaped c ++ cs)

/-- A complete string literal, and the characters that it stands for. -/
inductive StringLiteral (d : Dialect) : List Char → List Char → Prop
  | quoted {written cs : List Char} (h : d.Body written cs) :
    d.StringLiteral (literalQuote :: (written ++ [literalQuote])) cs

/-- A complete literal of bytes, and the bytes. One dialect has no such literals: it reads bytes
from a string. -/
inductive BytesLiteral : Dialect → List Char → List UInt8 → Prop
  | hex {d : Dialect} {digits : List Char} {bytes : List UInt8} (hd : d ≠ postgres)
    (h : Text.hexBytes? digits = some bytes) :
    BytesLiteral d ('X' :: literalQuote :: (digits ++ [literalQuote])) bytes
  | string {literal digits : List Char} {bytes : List UInt8}
    (hliteral : postgres.StringLiteral literal ('\\' :: 'x' :: digits))
    (h : Text.hexBytes? digits = some bytes) : BytesLiteral postgres literal bytes

/-- Reads a string literal from behind its opening quote: what it stands for, and what follows. -/
def readBody? (d : Dialect) : List Char → Option (List Char × List Char)
  | [] => none
  | [c] => if c = literalQuote then some ([], []) else none
  | c :: next :: rest =>
    if c = literalQuote then
      if next = literalQuote then (d.readBody? rest).map (Prod.map (literalQuote :: ·) id)
      else some ([], next :: rest)
    else if c = '\\' ∧ d = mysql then
      (d.readBody? rest).map (Prod.map (Text.unescaped next ++ ·) id)
    else (d.readBody? (next :: rest)).map (Prod.map (c :: ·) id)

/-- Reads a string literal off the front of a text. -/
def readString? (d : Dialect) : List Char → Option (List Char × List Char)
  | [] => none
  | c :: rest => if c = literalQuote then d.readBody? rest else none

/-- Reads a literal of bytes off the front of a text. -/
def readBytes? (d : Dialect) (text : List Char) : Option (List UInt8 × List Char) :=
  match d with
  | mysql | sqlite =>
    match text with
    | 'X' :: c :: rest =>
      match c == literalQuote, rest.dropWhile (· != literalQuote) with
      | true, _ :: after => (Text.hexBytes? (rest.takeWhile (· != literalQuote))).map (·, after)
      | _, _ => none
    | _ => none
  | postgres =>
    match d.readString? text with
    | some ('\\' :: 'x' :: digits, rest) => (Text.hexBytes? digits).map (·, rest)
    | _ => none

end Dialect

/-- A text is a literal for a value and ends as one at its last character: before anything but a
quote, which would go on with it, it is what a reader takes off the front, and the only literal
there. -/
structure Decodes {α : Type} (Literal : List Char → α → Prop)
    (read? : List Char → Option (α × List Char)) (text : List Char) (value : α) : Prop where
  literal : Literal text value
  reads : ∀ rest, rest.head? ≠ some Dialect.literalQuote → read? (text ++ rest) = some (value, rest)
  alone : ∀ rest literal other after, rest.head? ≠ some Dialect.literalQuote →
    text ++ rest = literal ++ after → Literal literal other →
    after.head? ≠ some Dialect.literalQuote → literal = text ∧ other = value

/-- Where a reader finds every literal at the front of a text, no two of them stand there. -/
theorem decodes_of_reads {α : Type} {Literal : List Char → α → Prop}
    {read? : List Char → Option (α × List Char)}
    (hread : ∀ {text value rest}, Literal text value → rest.head? ≠ some Dialect.literalQuote →
      read? (text ++ rest) = some (value, rest)) {text : List Char} {value : α}
    (h : Literal text value) : Decodes Literal read? text value where
  literal := h
  reads _ hrest := hread h hrest
  alone rest literal other after hrest htext hother hafter := by
    have hsame := hread h hrest
    rw [htext, hread hother hafter, Option.some.injEq, Prod.mk.injEq] at hsame
    obtain ⟨hvalue, hrest⟩ := hsame
    rw [hrest] at htext
    exact ⟨(List.append_cancel_right htext).symm, hvalue⟩

namespace Dialect

variable {d : Dialect} {rest : List Char}

theorem body_doubled (d : Dialect) (cs : List Char) :
    d.Body (Text.doubled d.isLiteralSpecial cs) cs := by
  induction cs with
  | nil => exact .nil
  | cons c cs ih =>
    by_cases hquote : c = literalQuote
    · subst hquote
      have hspecial : d.isLiteralSpecial literalQuote = true := rfl
      rw [Text.doubled, if_pos hspecial]
      exact .quote ih
    · by_cases hslash : c = '\\' ∧ d = mysql
      · obtain ⟨rfl, hd⟩ := hslash
        rw [Text.doubled, if_pos (by rw [isLiteralSpecial, hd]; rfl)]
        exact .escape '\\' hd ih
      · have hspecial : d.isLiteralSpecial c = false := by
          simpa [isLiteralSpecial, hquote] using hslash
        rw [Text.doubled, hspecial]
        exact .char hquote (fun hc hd => hslash ⟨hc, hd⟩) ih

/-- The reader comes through what stands between two quotes. -/
theorem readBody_body {written cs : List Char} (h : d.Body written cs)
    (hrest : rest.head? ≠ some literalQuote) :
    d.readBody? (written ++ literalQuote :: rest) = some (cs, rest) := by
  induction h with
  | nil =>
    cases rest with
    | nil => rfl
    | cons c rest =>
      have hc : c ≠ literalQuote := fun h => hrest (congrArg some h)
      rw [List.nil_append, readBody?, if_pos rfl, if_neg hc]
  | @char c written cs hquote hslash _ ih =>
    obtain ⟨next, more, hmore⟩ : ∃ next more, written ++ literalQuote :: rest = next :: more :=
      List.exists_cons_of_ne_nil (List.append_ne_nil_of_right_ne_nil _ (List.cons_ne_nil _ _))
    rw [hmore] at ih
    rw [List.cons_append, hmore, readBody?, if_neg hquote, if_neg fun h => hslash h.1 h.2, ih]
    rfl
  | quote _ ih =>
    rw [List.cons_append, List.cons_append, readBody?, if_pos rfl, if_pos rfl, ih]
    rfl
  | escape c hd _ ih =>
    have hslash : '\\' ≠ literalQuote := by decide
    rw [List.cons_append, List.cons_append, readBody?, if_neg hslash, if_pos ⟨rfl, hd⟩, ih]
    rfl

theorem readString_literal {literal cs : List Char} (h : d.StringLiteral literal cs)
    (hrest : rest.head? ≠ some literalQuote) :
    d.readString? (literal ++ rest) = some (cs, rest) := by
  obtain ⟨hbody⟩ := h
  rw [List.cons_append, List.append_assoc, readString?, if_pos rfl]
  exact readBody_body hbody hrest

theorem readBytes_literal {literal : List Char} {bytes : List UInt8}
    (h : d.BytesLiteral literal bytes) (hrest : rest.head? ≠ some literalQuote) :
    d.readBytes? (literal ++ rest) = some (bytes, rest) := by
  cases h with
  | @hex d digits bytes hd h =>
    have hdigits : ∀ c ∈ digits, (c != literalQuote) = true := fun c hc =>
      bne_iff_ne.2 (Text.ne_quote_of_hexBytes h c hc)
    have htake : (digits ++ literalQuote :: rest).takeWhile (· != literalQuote) = digits := by
      rw [List.takeWhile_append_of_pos hdigits, List.takeWhile_cons]
      exact List.append_nil digits
    have hdrop : (digits ++ literalQuote :: rest).dropWhile (· != literalQuote) =
        literalQuote :: rest := by
      rw [List.dropWhile_append_of_pos hdigits, List.dropWhile_cons]
      rfl
    rw [List.cons_append, List.cons_append, List.append_assoc, List.cons_append, List.nil_append]
    cases d with
    | postgres => exact absurd rfl hd
    | _ =>
      rw [readBytes?, hdrop, htake, h]
      rfl
  | string hliteral h =>
    rw [readBytes?, readString_literal hliteral hrest]
    exact congrArg (Option.map (·, rest)) h

theorem stringLiteral_quoteLiteral (d : Dialect) (s : String) :
    d.StringLiteral (d.quoteLiteral (.text s)).toList s.toList := by
  have hquoted := d.quoteLiteral_append s []
  rw [List.append_nil] at hquoted
  rw [hquoted]
  exact .quoted (d.body_doubled s.toList)

theorem bytesLiteral_quoteLiteral (d : Dialect) (bytes : List UInt8) :
    d.BytesLiteral (d.quoteLiteral (.bytes bytes)).toList bytes := by
  have hbytes := Text.hexBytes_written bytes
  have htext (front : String) : (front ++ String.ofList (bytes.flatMap byteHex) ++ "'").toList =
      front.toList ++ (bytes.flatMap byteHex ++ [literalQuote]) := by
    rw [String.toList_append, String.toList_append, String.toList_ofList, List.append_assoc]
    rfl
  cases d with
  | postgres =>
    have hplain : ∀ cs : List Char, (∀ c ∈ cs, c ≠ literalQuote) → postgres.Body cs cs := by
      intro cs hcs
      induction cs with
      | nil => exact .nil
      | cons c cs ih =>
        rw [List.forall_mem_cons] at hcs
        exact .char hcs.1 (fun _ => nofun) (ih hcs.2)
    have hbody := hplain ('\\' :: 'x' :: bytes.flatMap byteHex) (by
      rw [List.forall_mem_cons, List.forall_mem_cons]
      exact ⟨by decide, by decide, Text.ne_quote_of_hexBytes hbytes⟩)
    change BytesLiteral _ ("'\\x" ++ _ ++ "'").toList _
    rw [htext]
    exact .string (.quoted hbody) hbytes
  | _ =>
    change BytesLiteral _ ("X'" ++ _ ++ "'").toList _
    rw [htext]
    exact .hex nofun hbytes

/-- The literal of a text is a string literal that stands for the text, and the literal of bytes is
one of bytes that stands for them; both end at their last character, and nowhere before it. -/
theorem quoteLiteral_decodes (d : Dialect) :
    (∀ s : String,
        Decodes d.StringLiteral d.readString? (d.quoteLiteral (.text s)).toList s.toList) ∧
      ∀ bytes : List UInt8,
        Decodes d.BytesLiteral d.readBytes? (d.quoteLiteral (.bytes bytes)).toList bytes := by
  constructor
  · intro s
    exact decodes_of_reads readString_literal (d.stringLiteral_quoteLiteral s)
  · intro bytes
    exact decodes_of_reads readBytes_literal (d.bytesLiteral_quoteLiteral bytes)

/-- A backslash in front of a quote, and a text that looks like the end of a literal. -/
example : mysql.readString? "'\\\\'' OR 1=1 -- ' AND".toList =
    some ("\\' OR 1=1 -- ".toList, " AND".toList) := by
  cbv

end Dialect

end ParamSql
