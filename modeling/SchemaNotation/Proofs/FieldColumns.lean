import SchemaNotation.Proofs.ReadFields
import SchemaNotation.Proofs.ConstraintGroups
import SchemaNotation.Render.Format

/-! The columns of a field line.

A field line is laid out in columns: the sigils and names padded to the name width, then `: `
and the type padded to the type width, then, for a field with constraints, the constraint
groups from the constraint column on, and last the comment. Padding always leaves one space at
least, and trailing blanks are dropped before the constraint column and at the end of the line.
The printed form of a read type never ends in a blank (`Respelled.last_not_blank`), so the
padding of the type column is always dropped again. `Style.fieldLines_columns` says that the line
of a read field is `Style.columns`, in which the type width plays no part, for all widths,
negative ones included, up to the widest column that can be allocated. A wider column makes the
line fail, the type column too (`Style.fieldLines_type_width_overflow`). -/

namespace SchemaNotation

open Notation Text

theorem ofList_replicate_blank (n : Nat) :
    ∀ c ∈ (String.ofList (List.replicate n ' ')).toList, isBlank c = true := by
  intro c hc
  rw [String.toList_ofList, List.mem_replicate] at hc
  rw [hc.2]
  rfl

theorem last_append_of_last {s t : String} {c : Char} (h : c ∈ t.toList.getLast?) :
    c ∈ (s ++ t).toList.getLast? := by
  rw [String.toList_append, List.getLast?_append, Option.mem_def.1 h]
  rfl

theorem trimEnd_append_blanks {s b : String} (hs : ∀ c ∈ s.toList.getLast?, isBlank c = false)
    (hb : ∀ c ∈ b.toList, isBlank c = true) : trimEnd (s ++ b) = s := by
  have hdrop : (b.toList.reverse.dropWhile isBlank).isEmpty = true := by
    rw [List.isEmpty_iff, List.dropWhile_eq_nil_iff]
    exact fun c hc => hb c (List.mem_reverse.1 hc)
  have hkeep : dropBlanks s.toList.reverse = s.toList.reverse :=
    dropBlanks_eq_self (by rwa [List.head?_reverse])
  rw [trimEnd, String.toList_append, List.reverse_append, dropBlanks, List.dropWhile_append,
    if_pos hdrop, ← dropBlanks, hkeep, List.reverse_reverse, String.ofList_toList]

theorem trimEnd_of_last {s : String} {c : Char} (hc : c ∈ s.toList.getLast?)
    (hb : isBlank c = false) : trimEnd s = s := by
  have h := trimEnd_append_blanks (s := s) (b := "") (fun d hd => by
    rw [Option.mem_unique hd hc]
    exact hb) (fun _ h => nomatch h)
  rwa [String.append_empty] at h

theorem intercalate_last {sep : String} {c : Char} :
    ∀ {l : List String}, l ≠ [] → (∀ x ∈ l, c ∈ x.toList.getLast?) →
      c ∈ (sep.intercalate l).toList.getLast?
  | [x], _, h => by
    rw [String.intercalate_singleton]
    exact h x List.mem_cons_self
  | x :: y :: l, _, h => by
    rw [String.intercalate_cons_cons]
    exact last_append_of_last
      (intercalate_last (List.cons_ne_nil y l) fun z hz => h z (List.mem_cons_of_mem x hz))

/-- The printed form of a type read from a text is not empty and ends in a character that is not
a blank. -/
theorem Notation.Respelled.last_not_blank {text : String} {t : DataType} (h : Respelled text t) :
    ∃ c ∈ t.render.toList.getLast?, isBlank c = false := by
  -- an empty printed form would not read back: the reader refuses an empty type
  have hne : t.render.toList ≠ [] := by
    intro h0
    have hempty : t.render = "" := String.toList_inj.1 h0
    have hr := h.reads 1 none (by rw [hempty]; decide)
    rw [hempty] at hr
    cases hr
  obtain ⟨c, hc⟩ := Option.ne_none_iff_exists'.1 (mt List.getLast?_eq_none_iff.1 hne)
  have htrim : trimList t.render.toList = t.render.toList := by
    have := congrArg String.toList h.trimmed
    rwa [trim, String.toList_ofList] at this
  refine ⟨c, hc, ?_⟩
  exact trimList_last t.render.toList c (by rw [htrim]; exact hc)

theorem readField_type_last {text : String} {line : Option Nat} {f : Field}
    (h : readField text line = .ok f) : ∃ c ∈ f.type.render.toList.getLast?, isBlank c = false := by
  obtain ⟨typeText, ht⟩ := readField_type h
  exact (readTypeWith_respelled ht).last_not_blank

namespace Style

theorem pad_eq_append (text : String) (width : Int) :
    pad text width =
      text ++ String.ofList (List.replicate ((max width (text.length + 1)).toNat - text.length) ' ') := by
  unfold pad
  split
  · have hone : (max width (text.length + 1)).toNat - text.length = 1 := by omega
    rw [hone]
    rfl
  · have hwide : max width (text.length + 1) = width := by omega
    rw [hwide]

/-- A padded text is as wide as its column, or one wider than the text when the text fills the
column already. -/
theorem length_pad (text : String) (width : Int) :
    ((pad text width).length : Int) = max width (text.length + 1) := by
  rw [pad_eq_append, String.length_append, String.length_ofList, List.length_replicate]
  omega

/-- The line a field's columns give: the sigils and names padded to the name column, `: ` and
the printed type; for a field with constraints, padding to the constraint column and the groups,
each in brackets, separated by spaces; and last the comment, when there is one and comments are
kept. -/
def columns (st : Style) (f : Field) : String :=
  let typed := pad (String.ofList (f.sigils.map Sigil.symbol) ++ " " ++ f.displayName) st.nameWidth ++
    ": " ++ f.type.render
  (if f.constraints.isEmpty then typed
  else pad typed st.constraintColumn ++
    " ".intercalate ((constraintGroups f.constraints).map fun g => "[" ++ g ++ "]")) ++
    st.comment f.comment

theorem bracketed_groups_last {cs : List Constraint} (h : cs.isEmpty = false) :
    ']' ∈ (" ".intercalate ((constraintGroups cs).map fun g => "[" ++ g ++ "]")).toList.getLast? := by
  have hne : constraintGroups cs ≠ [] := by
    rw [constraintGroups_eq_splitBy, ne_eq, List.map_eq_nil_iff, ← ne_eq, List.splitBy_ne_nil]
    simpa using h
  refine intercalate_last (by simpa using hne) fun x hx => ?_
  obtain ⟨g, -, rfl⟩ := List.mem_map.1 hx
  exact last_append_of_last (s := "[" ++ g) rfl

theorem fieldLine_eq_columns {f : Field} (hT : ∃ c ∈ f.type.render.toList.getLast?, isBlank c = false)
    (st : Style) : st.fieldLine f = st.columns f := by
  obtain ⟨c, hc, hcb⟩ := hT
  have htyped (head : String) : trimEnd (pad head st.nameWidth ++ pad (": " ++ f.type.render) st.typeWidth) =
      pad head st.nameWidth ++ ": " ++ f.type.render := by
    rw [pad_eq_append (": " ++ f.type.render), ← String.append_assoc, ← String.append_assoc]
    refine trimEnd_append_blanks (fun d hd => ?_) (ofList_replicate_blank _)
    rw [Option.mem_unique hd (last_append_of_last hc)]
    exact hcb
  unfold fieldLine columns
  cases hcs : f.constraints.isEmpty
  · simp only [htyped, Bool.false_eq_true, ↓reduceIte]
    rw [trimEnd_of_last (last_append_of_last (bracketed_groups_last hcs)) (by decide)]
  · simp only [htyped, ↓reduceIte]

theorem ofWidth?_eq_none {width : Int} (h : width ≤ memoryLimit) : LayoutFault.ofWidth? width = none := by
  unfold LayoutFault.ofWidth?
  have hmax : ¬maxPadWidth < width := by
    unfold maxPadWidth
    unfold memoryLimit at h
    omega
  rw [if_neg hmax, if_neg (not_lt.2 h)]

theorem faultOn?_eq_none {st : Style} {f : Field} (hname : st.nameWidth ≤ memoryLimit)
    (htype : st.typeWidth ≤ memoryLimit)
    (hcol : f.constraints ≠ [] → st.constraintColumn ≤ memoryLimit) : st.faultOn? f = none := by
  unfold faultOn?
  rw [ofWidth?_eq_none hname, ofWidth?_eq_none htype]
  cases hcs : f.constraints.isEmpty
  · have hne : f.constraints ≠ [] := by simpa using hcs
    simp only [Bool.false_eq_true, ↓reduceIte]
    exact ofWidth?_eq_none (hcol hne)
  · rfl

theorem fieldLines_eq_columns {f : Field}
    (hT : ∃ c ∈ f.type.render.toList.getLast?, isBlank c = false) {st : Style}
    (hname : st.nameWidth ≤ memoryLimit) (htype : st.typeWidth ≤ memoryLimit)
    (hcol : f.constraints ≠ [] → st.constraintColumn ≤ memoryLimit) :
    st.fieldLines [f] = .ok [st.columns f] := by
  unfold fieldLines
  rw [List.findSome?_singleton, faultOn?_eq_none hname htype hcol, List.map_singleton,
    fieldLine_eq_columns hT]

/-- The line of a read field, for any widths up to the widest column that can be allocated, zero
and negative ones included: the sigils and names padded to the name column, `: ` and the type,
then for a field with constraints padding to the constraint column and the bracketed groups,
and last the comment. The type width plays no part. -/
theorem fieldLines_columns {text : String} {line : Option Nat} {f : Field}
    (h : readField text line = .ok f) (st : Style) (hname : st.nameWidth ≤ memoryLimit)
    (htype : st.typeWidth ≤ memoryLimit)
    (hcol : f.constraints ≠ [] → st.constraintColumn ≤ memoryLimit) :
    st.fieldLines [f] = .ok [st.columns f] ∧
      ∀ w ≤ memoryLimit, { st with typeWidth := w }.fieldLines [f] = st.fieldLines [f] := by
  have hT := readField_type_last h
  refine ⟨fieldLines_eq_columns hT hname htype hcol, fun w hw => ?_⟩
  have hw' : ({ st with typeWidth := w } : Style).fieldLines [f] =
      .ok [({ st with typeWidth := w } : Style).columns f] := fieldLines_eq_columns hT hname hw hcol
  rw [hw', fieldLines_eq_columns hT hname htype hcol]
  rfl

/-- A line with two constraint groups and a comment, at a negative name width, a zero type
width and a constraint column inside the text. -/
theorem fieldLines_columns_keys :
    ∃ f, readField "* id, key : JSON [PK] [FK:User.id] # primary" none = .ok f ∧
      ({ nameWidth := -3, typeWidth := 0, constraintColumn := 5 } : Style).fieldLines [f] =
        .ok ["* id, key : JSON [PK,FK:User.id] # primary"] := by
  obtain ⟨f, hf, hcols⟩ := exists_ok_of_any
    (x := readField "* id, key : JSON [PK] [FK:User.id] # primary" none) (p := fun f =>
      ({ nameWidth := -3, typeWidth := 0, constraintColumn := 5 } : Style).columns f ==
        "* id, key : JSON [PK,FK:User.id] # primary") (by decide +kernel)
  refine ⟨f, hf, ?_⟩
  rw [(fieldLines_columns hf _ (by decide) (by decide) fun _ => by decide).1, eq_of_beq hcols]

/-- A type width past the largest machine-sized length makes every field line fail, although
the type column leaves no trace on a line. -/
theorem fieldLines_tooWide {st : Style} {f : Field} {fs : List Field}
    (hname : st.nameWidth ≤ memoryLimit) (htype : maxPadWidth < st.typeWidth) :
    st.fieldLines (f :: fs) = .error .tooWide := by
  have hfault : st.faultOn? f = some .tooWide := by
    unfold faultOn? LayoutFault.ofWidth?
    rw [← LayoutFault.ofWidth?, ofWidth?_eq_none hname, if_pos htype]
  unfold fieldLines
  simp only [List.findSome?_cons, hfault]

theorem fieldLines_type_width_overflow :
    ∃ f, readField "* id : JSON" none = .ok f ∧
      ({ typeWidth := 9223372036854775808 } : Style).fieldLines [f] = .error .tooWide := by
  obtain ⟨f, hf, -⟩ := exists_ok_of_any (p := fun _ => true)
    (x := readField "* id : JSON" none) (by decide +kernel)
  exact ⟨f, hf, fieldLines_tooWide (by decide) (by decide)⟩

end Style

end SchemaNotation
