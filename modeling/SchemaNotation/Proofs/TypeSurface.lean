import SchemaNotation.Proofs.NumberSpelling

/-! The surface tests of the type reader.

`readTypeWith` sorts a text by its surface: a leading `Array<`, a leading `JSON` with a brace
after it, a parenthesis, a square bracket; and it takes a type apart with `parametricParts?`,
`collectionParts?` and `objectBody?`. Here is what each of these makes of a text it accepts,
as a decomposition of the text's characters, and what each makes of the printed form of a type.
A name of identifier characters and dots followed by `(` or `[` is neither an array nor an
object to the reader, and the parts of a printed type come back as they were printed. -/

namespace SchemaNotation.Notation

open Text

section Characters

theorem isIdentChar_code {c : Char} (h : isIdentChar c = true) :
    (48 ≤ c.toNat ∧ c.toNat ≤ 57) ∨ (65 ≤ c.toNat ∧ c.toNat ≤ 90) ∨
      (97 ≤ c.toNat ∧ c.toNat ≤ 122) ∨ c.toNat = 95 := by
  simp only [isIdentChar, Char.isAlphanum, Char.isAlpha, Char.isUpper, Char.isLower,
    Char.isDigit, Bool.or_eq_true, Bool.and_eq_true, decide_eq_true_eq, beq_iff_eq,
    ge_iff_le, UInt32.le_iff_toNat_le] at h
  simp only [Char.toNat]
  rcases h with ((⟨h1, h2⟩ | ⟨h1, h2⟩) | ⟨h1, h2⟩) | rfl
  · exact .inr (.inl ⟨h1, h2⟩)
  · exact .inr (.inr (.inl ⟨h1, h2⟩))
  · exact .inl ⟨h1, h2⟩
  · exact .inr (.inr (.inr rfl))

theorem isIdentChar_of_isIdentStart {c : Char} (h : isIdentStart c = true) :
    isIdentChar c = true := by
  simp only [isIdentStart, isIdentChar, Char.isAlphanum, Bool.or_eq_true] at h ⊢
  rcases h with h | h
  · exact .inl (.inl h)
  · exact .inr h

theorem nameChar_plain {c : Char} (h : (isIdentChar c || c == '.') = true) :
    Neutral c ∧ isBlank c = false := by
  have hc : (48 ≤ c.toNat ∧ c.toNat ≤ 57) ∨ (65 ≤ c.toNat ∧ c.toNat ≤ 90) ∨
      (97 ≤ c.toNat ∧ c.toNat ≤ 122) ∨ c.toNat = 95 ∨ c.toNat = 46 := by
    rcases Bool.or_eq_true_iff.1 h with h | h
    · rcases isIdentChar_code h with h | h | h | h
      · exact .inl h
      · exact .inr (.inl h)
      · exact .inr (.inr (.inl h))
      · exact .inr (.inr (.inr (.inl h)))
    · rw [beq_iff_eq.1 h]
      exact .inr (.inr (.inr (.inr rfl)))
  refine ⟨neutral_of_code (by omega), ?_⟩
  simp only [isBlank, Bool.or_eq_false_iff, Bool.and_eq_false_iff, decide_eq_false_iff_not,
    beq_eq_false_iff_ne]
  omega

theorem takeWhile_dropWhile_append {p : Char → Bool} {w t : List Char} {x : Char}
    (hw : ∀ c ∈ w, p c = true) (hx : p x = false) :
    (w ++ x :: t).takeWhile p = w ∧ (w ++ x :: t).dropWhile p = x :: t := by
  induction w with
  | nil => simp [hx]
  | cons c w ih =>
    have hc := hw c List.mem_cons_self
    obtain ⟨ht, hd⟩ := ih fun d hd => hw d (List.mem_cons_of_mem c hd)
    simp [hc, ht, hd]

end Characters

section Guards

theorem prefix_append_cons {pat w more : List Char} {k : Char} (h : pat <+: w ++ k :: more) :
    pat <+: w ∨ k ∈ pat := by
  obtain ⟨t, ht⟩ := h
  rcases List.append_eq_append_iff.1 ht with ⟨a', rfl, -⟩ | ⟨c', rfl, hc⟩
  · exact .inl (List.prefix_append _ _)
  · cases c' with
    | nil => exact .inl (by simp)
    | cons x c' =>
      simp only [List.cons_append, List.cons.injEq] at hc
      exact .inr (by simp [hc.1])

theorem endsWith_iff {s pat : String} : s.endsWith pat = true ↔ pat.toList <:+ s.toList := by
  rw [← String.endsWith_toSlice, String.Slice.endsWith_string_iff]
  simp

theorem isEmpty_of_toList {s : String} {c : Char} {cs : List Char} (hs : s.toList = c :: cs) :
    s.isEmpty = false := by
  rw [Bool.eq_false_iff]
  intro he
  rw [String.isEmpty_iff.1 he] at hs
  cases hs

theorem beq_json_of_mem {s : String} {c : Char} (hc : c ∈ s.toList) (hn : c ∉ "JSON".toList) :
    (s == "JSON") = false := by
  rw [beq_eq_false_iff_ne]
  rintro rfl
  exact hn hc

theorem named_guards {s : String} {w more : List Char} {k : Char}
    (hs : s.toList = w ++ k :: more) (hw : ∀ c ∈ w, (isIdentChar c || c == '.') = true)
    (hk : k = '(' ∨ k = '[') :
    s.isEmpty = false ∧ s.startsWith "Array<" = false ∧ (s == "JSON") = false ∧
      (s.startsWith "JSON" && (trimStart (dropChars s 4)).startsWith "\x7b") = false ∧
      s.contains k = true := by
  have hmem : k ∈ s.toList := by
    rw [hs]
    simp
  have hbad : ∀ y ∈ w, y ≠ '<' ∧ y ≠ '\x7b' := fun y hy => by
    have ho := (nameChar_plain (hw y hy)).1.2.1
    constructor <;> (rintro rfl; simp [isOpener] at ho)
  refine ⟨Bool.eq_false_iff.2 fun he => ?_, Bool.eq_false_iff.2 fun ha => ?_,
    beq_json_of_mem hmem (by rcases hk with rfl | rfl <;> decide), ?_,
    by rw [String.contains_char_eq]; simpa using hmem⟩
  · rw [String.isEmpty_iff.1 he] at hmem
    simp at hmem
  · rw [String.startsWith_string_iff, hs] at ha
    rcases prefix_append_cons ha with hp | hp
    · exact (hbad '<' (hp.subset (by decide))).1 rfl
    · rcases hk with rfl | rfl <;> revert hp <;> decide
  · cases hj : s.startsWith "JSON"
    · rfl
    rw [String.startsWith_string_iff, hs] at hj
    rcases prefix_append_cons hj with ⟨u, rfl⟩ | hp
    · have hdrop : (dropChars s 4).toList = u ++ k :: more := by
        simp [dropChars, hs]
      have hhead : ∀ y ∈ (u ++ k :: more).head?, isBlank y = false ∧ y ≠ '\x7b' := by
        intro y hy
        cases u with
        | nil =>
          simp only [List.nil_append, List.head?_cons, Option.mem_def, Option.some.injEq] at hy
          subst hy
          rcases hk with rfl | rfl <;> decide
        | cons x u =>
          simp only [List.cons_append, List.head?_cons, Option.mem_def, Option.some.injEq] at hy
          rw [← hy]
          have hxw : x ∈ "JSON".toList ++ x :: u := by simp
          exact ⟨(nameChar_plain (hw x hxw)).2, (hbad x hxw).2⟩
      have htrim : (trimStart (dropChars s 4)).toList = u ++ k :: more := by
        rw [trimStart, String.toList_ofList, hdrop,
          dropBlanks_eq_self fun y hy => (hhead y hy).1]
      simp only [Bool.true_and]
      rw [Bool.eq_false_iff]
      intro hb
      rw [String.startsWith_string_iff, htrim] at hb
      obtain ⟨t, ht⟩ := hb
      have hy : (u ++ k :: more).head? = some '\x7b' := by
        rw [← ht]
        rfl
      exact (hhead '\x7b' hy).2 rfl
    · exfalso
      rcases hk with rfl | rfl <;> revert hp <;> decide

theorem array_guards {s : String} {r : List Char} (hs : s.toList = "Array<".toList ++ r ++ ['>']) :
    s.isEmpty = false ∧ s.startsWith "Array<" = true ∧ s.endsWith ">" = true ∧
      (s.toList.drop 6).dropLast = r := by
  refine ⟨isEmpty_of_toList (c := 'A') (by rw [hs]; rfl), ?_, ?_, ?_⟩
  · rw [String.startsWith_string_iff, hs, List.append_assoc]
    exact List.prefix_append _ _
  · rw [endsWith_iff, hs]
    exact List.suffix_append _ _
  · rw [hs]
    simp

theorem object_guards {s : String} {b : List Char}
    (hs : s.toList = "JSON\x7b".toList ++ b ++ ['\x7d']) :
    s.isEmpty = false ∧ s.startsWith "Array<" = false ∧ (s == "JSON") = false ∧
      (s.startsWith "JSON" && (trimStart (dropChars s 4)).startsWith "\x7b") = true ∧
      objectBody? s = some (String.ofList b) := by
  have hdrop : s.toList.drop 4 = '\x7b' :: (b ++ ['\x7d']) := by
    rw [hs]
    rfl
  refine ⟨isEmpty_of_toList (c := 'J') (by rw [hs]; rfl), ?_, ?_, ?_, ?_⟩
  · rw [Bool.eq_false_iff, ne_eq, String.startsWith_string_iff, hs]
    simp
  · rw [beq_eq_false_iff_ne]
    rintro rfl
    simp at hs
  · have hj : s.startsWith "JSON" = true := by
      rw [String.startsWith_string_iff, hs]
      exact ⟨_, rfl⟩
    have hb : (trimStart (dropChars s 4)).startsWith "\x7b" = true := by
      simp only [String.startsWith_string_iff, trimStart, dropChars, String.toList_ofList]
      rw [hdrop, dropBlanks_eq_self (by simp; decide)]
      exact ⟨_, rfl⟩
    rw [hj, hb]
    rfl
  · unfold objectBody?
    rw [hdrop, dropBlanks_eq_self (by simp; decide)]
    simp

end Guards

section Parts

/-- A name as `parametricParts?` cuts it: an identifier start, then identifier characters and
dots. -/
def TypeName (cs : List Char) : Prop :=
  ∃ c w, cs = c :: w ∧ isIdentStart c = true ∧ ∀ x ∈ w, (isIdentChar x || x == '.') = true

theorem TypeName.plain {cs : List Char} (h : TypeName cs) :
    ∀ x ∈ cs, (isIdentChar x || x == '.') = true := by
  obtain ⟨c, w, rfl, hc, hw⟩ := h
  intro x hx
  rcases List.mem_cons.1 hx with rfl | hx
  · simp [isIdentChar_of_isIdentStart hc]
  · exact hw x hx

theorem parametricParts?_some {expr name body : String}
    (h : parametricParts? expr = some (name, body)) :
    ∃ blanks, expr.toList = name.toList ++ blanks ++ '(' :: body.toList ++ [')'] ∧
      TypeName name.toList ∧ ∀ c ∈ blanks, isBlank c = true := by
  unfold parametricParts? at h
  split at h
  next c rest hcs =>
    split at h
    next hstart =>
      simp only at h
      split at h
      next body' hdb =>
        split at h
        next hlast =>
          simp only [Option.some.injEq, Prod.mk.injEq] at h
          obtain ⟨rfl, rfl⟩ := h
          have hne : body' ≠ [] := by rintro rfl; simp at hlast
          have hbody : body'.dropLast ++ [')'] = body' := by
            have := List.dropLast_concat_getLast hne
            rwa [(List.getLast_eq_iff_getLast?_eq_some hne).2 (beq_iff_eq.1 hlast)] at this
          refine ⟨(rest.dropWhile fun d => isIdentChar d || d == '.').takeWhile isBlank, ?_,
            ⟨c, rest.takeWhile fun d => isIdentChar d || d == '.', by simp, hstart,
              fun x hx => by simpa using List.mem_takeWhile_imp hx⟩,
            fun x hx => List.mem_takeWhile_imp hx⟩
          have hsplit := List.takeWhile_append_dropWhile (p := isBlank)
            (l := rest.dropWhile fun d => isIdentChar d || d == '.')
          rw [show (rest.dropWhile fun d => isIdentChar d || d == '.').dropWhile isBlank =
            dropBlanks (rest.dropWhile fun d => isIdentChar d || d == '.') from rfl,
            hdb, ← hbody] at hsplit
          rw [hcs]
          simp only [String.toList_ofList, List.cons_append, List.append_assoc, List.cons.injEq,
            true_and]
          conv => lhs; rw [← List.takeWhile_append_dropWhile
            (p := fun d => isIdentChar d || d == '.') (l := rest)]
          generalize rest.dropWhile (fun d => isIdentChar d || d == '.') = D at hsplit ⊢
          conv => lhs; rw [← hsplit]
        next => cases h
      next => cases h
    next => cases h
  next => cases h

theorem parametricParts?_print {s : String} {name body : List Char} (hn : TypeName name)
    (hs : s.toList = name ++ '(' :: body ++ [')']) :
    parametricParts? s = some (String.ofList name, String.ofList body) := by
  obtain ⟨c, w, rfl, hc, hw⟩ := hn
  obtain ⟨ht, hd⟩ := takeWhile_dropWhile_append (t := body ++ [')']) hw
    (show (isIdentChar '(' || '(' == '.') = false by decide)
  unfold parametricParts?
  rw [hs]
  simp only [List.cons_append, hc, ↓reduceIte, List.append_assoc, List.cons_append] at ht hd ⊢
  rw [ht, hd, dropBlanks_eq_self (by simp; decide)]
  simp

theorem collectionParts?_some {expr entity bounds : String}
    (h : collectionParts? expr = some (entity, bounds)) :
    expr.toList = entity.toList ++ '[' :: bounds.toList ++ [']'] ∧
      isIdentList entity.toList = true ∧ '\n' ∉ bounds.toList := by
  unfold collectionParts? at h
  split at h
  next name body hlead =>
    split at h
    next hcheck =>
      simp only [Option.some.injEq, Prod.mk.injEq] at h
      obtain ⟨rfl, rfl⟩ := h
      simp only [Bool.and_eq_true, beq_iff_eq, Bool.not_eq_true'] at hcheck
      have hne : body ≠ [] := by rintro rfl; simp at hcheck
      have hbody : body.dropLast ++ [']'] = body := by
        have := List.dropLast_concat_getLast hne
        rwa [(List.getLast_eq_iff_getLast?_eq_some hne).2 hcheck.1] at this
      unfold leadingIdent? at hlead
      split at hlead
      next c rest hcs =>
        split at hlead
        next hstart =>
          simp only [Option.some.injEq, Prod.mk.injEq] at hlead
          obtain ⟨rfl, hrest⟩ := hlead
          refine ⟨?_, ?_, by simpa using hcheck.2⟩
          · rw [hcs]
            simp only [String.toList_ofList, List.cons_append, List.append_assoc, List.cons.injEq,
              true_and]
            conv => lhs; rw [← List.takeWhile_append_dropWhile (p := isIdentChar) (l := rest)]
            rw [hrest, ← hbody]
            simp
          · simp only [String.toList_ofList, isIdentList, hstart, Bool.true_and, List.all_eq_true]
            exact fun x hx => List.mem_takeWhile_imp hx
        next => cases hlead
      next => cases hlead
    next => cases h
  next => cases h

theorem collectionParts?_print {s : String} {entity bounds : List Char}
    (he : isIdentList entity = true) (hb : '\n' ∉ bounds)
    (hs : s.toList = entity ++ '[' :: bounds ++ [']']) :
    collectionParts? s = some (String.ofList entity, String.ofList bounds) := by
  obtain ⟨c, w, rfl⟩ : ∃ c w, entity = c :: w := by
    cases entity with
    | nil => simp [isIdentList] at he
    | cons c w => exact ⟨c, w, rfl⟩
  simp only [isIdentList, Bool.and_eq_true, List.all_eq_true] at he
  obtain ⟨ht, hd⟩ := takeWhile_dropWhile_append (t := bounds ++ [']']) he.2
    (show isIdentChar '[' = false by decide)
  unfold collectionParts? leadingIdent?
  rw [hs]
  simp only [List.cons_append, he.1, ↓reduceIte, List.append_assoc] at ht hd ⊢
  rw [ht, hd]
  simp [hb]

theorem objectBody?_some {expr body : String} (h : objectBody? expr = some body) :
    ∃ blanks, expr.toList.drop 4 = blanks ++ '\x7b' :: body.toList ++ ['\x7d'] ∧
      ∀ c ∈ blanks, isBlank c = true := by
  unfold objectBody? at h
  split at h
  next rest hdb =>
    split at h
    next hlast =>
      simp only [Option.some.injEq] at h
      subst h
      have hne : rest ≠ [] := by rintro rfl; simp at hlast
      have hrest : rest.dropLast ++ ['\x7d'] = rest := by
        have := List.dropLast_concat_getLast hne
        rwa [(List.getLast_eq_iff_getLast?_eq_some hne).2 (beq_iff_eq.1 hlast)] at this
      refine ⟨(expr.toList.drop 4).takeWhile isBlank, ?_, fun x hx => List.mem_takeWhile_imp hx⟩
      conv => lhs; rw [← List.takeWhile_append_dropWhile (p := isBlank) (l := expr.toList.drop 4)]
      rw [show (expr.toList.drop 4).dropWhile isBlank = dropBlanks (expr.toList.drop 4) from rfl,
        hdb, ← hrest]
      simp
    next => cases h
  next => cases h

end Parts

end SchemaNotation.Notation
