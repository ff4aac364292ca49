import ParamSql.Value
import ParamSql.Proofs.Trimming

namespace ParamSql.TypeName

/-- A name as reading gives it: in lower case, with no blank at its front and, unless lists of it
are meant, no blank and no `[]` at its end. -/
structure Settled (t : TypeName) : Prop where
  lower : Text.lower t.name = t.name
  front : Text.Flush t.name.toList
  ending : t.isList = false → Text.Flush t.name.toList.reverse ∧ ¬['[', ']'] <:+ t.name.toList

theorem listBase?_eq_some_iff {cs base : List Char} :
    listBase? cs = some base ↔ cs = base ++ ['[', ']'] := by
  constructor
  · intro h
    unfold listBase? at h
    split at h
    · rename_i rest hcs
      cases h
      rw [← List.reverse_reverse cs, hcs]
      simp
    · cases h
  · rintro rfl
    simp [listBase?]

theorem listBase?_eq_none_iff {cs : List Char} :
    listBase? cs = none ↔ ¬['[', ']'] <:+ cs := by
  rw [Option.eq_none_iff_forall_ne_some]
  constructor
  · rintro h ⟨base, rfl⟩
    exact h base (listBase?_eq_some_iff.2 rfl)
  · rintro h base hbase
    exact h ⟨base, (listBase?_eq_some_iff.1 hbase).symm⟩

theorem toList_lower (cs : List Char) :
    (Text.lower (String.ofList cs)).toList = cs.map Char.toLower := by
  rw [Text.lower, String.toList_map, String.toList_ofList]

theorem lower_lower (s : String) : Text.lower (Text.lower s) = Text.lower s := by
  rw [← String.toList_inj, Text.lower, Text.lower, String.toList_map, String.toList_map,
    List.map_map]
  congr 1
  funext c
  exact Char.toLower_toLower_eq_toLower c

theorem suffix_of_suffix_lower {cs : List Char} (h : ['[', ']'] <:+ cs.map Char.toLower) :
    ['[', ']'] <:+ cs := by
  obtain ⟨base, h⟩ := h
  obtain ⟨before, after, rfl, rfl, hafter⟩ := List.map_eq_append_iff.1 h.symm
  obtain ⟨x, rest, rfl, hx, hrest⟩ := List.map_eq_cons_iff.1 hafter
  obtain ⟨y, rest, rfl, hy, hrest⟩ := List.map_eq_cons_iff.1 hrest
  rw [List.map_eq_nil_iff.1 hrest, Text.eq_of_toLower_eq (by decide) hx,
    Text.eq_of_toLower_eq (by decide) hy]
  exact List.suffix_append _ _

theorem ofText_of_some {s : String} {base : List Char}
    (h : listBase? (Text.trimChars s.toList) = some base) :
    ofText s = ⟨Text.lower (String.ofList base), true⟩ := by
  simp only [ofText, h]

theorem ofText_of_none {s : String} (h : listBase? (Text.trimChars s.toList) = none) :
    ofText s = ⟨Text.lower (String.ofList (Text.trimChars s.toList)), false⟩ := by
  simp only [ofText, h]

theorem settled_ofText (s : String) : (ofText s).Settled := by
  obtain ⟨hfront, hend⟩ := Text.flush_trimChars s.toList
  cases hbase : listBase? (Text.trimChars s.toList) with
  | some base =>
    rw [ofText_of_some hbase]
    rw [listBase?_eq_some_iff.1 hbase] at hfront
    refine ⟨lower_lower _, ?_, nofun⟩
    rw [toList_lower]
    exact (hfront.start (List.prefix_append _ _)).lowered
  | none =>
    rw [ofText_of_none hbase]
    refine ⟨lower_lower _, ?_, fun _ => ⟨?_, ?_⟩⟩
    · rw [toList_lower]
      exact hfront.lowered
    · rw [toList_lower, ← List.map_reverse]
      exact hend.lowered
    · rw [toList_lower]
      exact fun h => listBase?_eq_none_iff.1 hbase (suffix_of_suffix_lower h)

theorem Settled.read_text {t : TypeName} (h : t.Settled) : ofText t.text = t := by
  obtain ⟨name, isList⟩ := t
  have hlower : Text.lower (String.ofList name.toList) = name := by
    rw [String.ofList_toList]
    exact h.lower
  cases isList with
  | true =>
    have htext : (text ⟨name, true⟩).toList = name.toList ++ ['[', ']'] := String.toList_append
    have hfront : Text.Flush (name.toList ++ ['[', ']']) := by
      cases hcs : name.toList with
      | nil => exact Text.flush_cons.2 (by decide)
      | cons c cs =>
        have hname := h.front
        rw [hcs] at hname
        exact Text.flush_cons.2 (Text.flush_cons.1 hname)
    have hend : Text.Flush (name.toList ++ ['[', ']']).reverse := by
      rw [List.reverse_append]
      exact Text.flush_cons.2 (by decide)
    have hbase : listBase? (Text.trimChars (text ⟨name, true⟩).toList) = some name.toList := by
      rw [htext, Text.trimChars_eq_self hfront hend]
      exact listBase?_eq_some_iff.2 rfl
    rw [ofText_of_some hbase, hlower]
  | false =>
    obtain ⟨hend, hsuffix⟩ := h.ending rfl
    have htrim : Text.trimChars (text ⟨name, false⟩).toList = name.toList :=
      Text.trimChars_eq_self h.front hend
    have hbase : listBase? (Text.trimChars (text ⟨name, false⟩).toList) = none := by
      rw [htrim]
      exact listBase?_eq_none_iff.2 hsuffix
    rw [ofText_of_none hbase, htrim, hlower]

/-- What is read from a text is read again from its own text; and the types that are read from their
own text are those with a settled name. -/
theorem ofText_text :
    (∀ s, ofText (ofText s).text = ofText s) ∧ ∀ t : TypeName, ofText t.text = t ↔ t.Settled := by
  refine ⟨fun s => (settled_ofText s).read_text, fun t => ⟨fun h => ?_, Settled.read_text⟩⟩
  rw [← h]
  exact settled_ofText t.text

end ParamSql.TypeName
