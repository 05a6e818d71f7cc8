import SchemaNotation.Proofs.TypeSpelling

/-! Where an inline comment is cut, and the constraint groups before it.

`commentFrom` looks for a `#` right after a space at bracket depth zero. It counts the brackets
of all four kinds and ignores quotation marks, while the constraint groups are delimited by
`groupFrom`, which counts square brackets only and skips quoted text. The two agree on every
group whose text balances: reading a balanced group, `commentFrom` stays inside brackets and
comes out at the depth it went in at, so it never cuts the group (`commentFrom_group`). A text
read without a cut composes with what follows it (`commentFrom_append_of_none`).

So a field's remainder `T [g₁] … [gₖ] # c`, with `T` balanced and with no marker of its own and
every group balanced, is cut at the marker before `c` (`splitComment_groups`). A group whose text
does not balance, as `DEFAULT:"["` with its quoted bracket, keeps the marker after it inside
brackets, and the comment is lost (`splitComment_quoted_bracket`). -/

namespace SchemaNotation.Notation

open Text

/-- The bracket depth `commentFrom` reaches after `cs`, from `depth`, when it cuts nothing there. -/
def commentDepth : List Char → Nat → Nat
  | [], depth => depth
  | c :: rest, depth =>
    commentDepth rest
      (if isOpener c then depth + 1 else if isCloser c && depth > 0 then depth - 1 else depth)

/-- The constraint groups of a field line as they stand after its type, each after a space. -/
def groupsText (gs : List String) : String := String.join (gs.map fun g => " [" ++ g ++ "]")

theorem commentFrom_append_of_none {cs : List Char} {before : List Char} {depth : Nat}
    (h : commentFrom cs before depth = none) (rest : List Char) :
    commentFrom (cs ++ rest) before depth =
      commentFrom rest (cs.reverse ++ before) (commentDepth cs depth) := by
  induction cs generalizing before depth with
  | nil => rfl
  | cons c cs ih =>
    simp only [commentFrom] at h
    simp only [List.cons_append, commentFrom, commentDepth, List.reverse_cons,
      List.append_assoc]
    split_ifs at h ⊢ <;> simp_all

section Balanced

theorem owedStep_cases {owed o : List Char} {c : Char} (h : owedStep owed c = some o) :
    (isOpener c = true ∧ o = closerOf c :: owed) ∨
      (isOpener c = false ∧ isCloser c = true ∧ ∃ d, owed = d :: o) ∨
      (isOpener c = false ∧ isCloser c = false ∧ o = owed) := by
  simp only [owedStep] at h
  by_cases ho : isOpener c = true
  · simp only [ho, ↓reduceIte, Option.some.injEq] at h
    exact .inl ⟨ho, h.symm⟩
  · by_cases hc : isCloser c = true
    · simp only [ho, hc, Bool.false_eq_true, ↓reduceIte] at h
      cases owed with
      | nil => cases h
      | cons d more =>
        simp only [beq_iff_eq] at h
        split_ifs at h
        cases h
        exact .inr (.inl ⟨by simpa using ho, hc, d, rfl⟩)
    · simp only [ho, hc, Bool.false_eq_true, ↓reduceIte, Option.some.injEq] at h
      exact .inr (.inr ⟨by simpa using ho, by simpa using hc, h.symm⟩)

theorem commentDepth_of_owedAfter (depth : Nat) :
    ∀ {cs : List Char} {owed owed' : List Char}, owedAfter cs owed = some owed' →
      commentDepth cs (depth + owed.length) = depth + owed'.length
  | [], _, _, h => by cases h; rfl
  | c :: cs, owed, owed', h => by
    simp only [owedAfter] at h
    cases hs : owedStep owed c with
    | none => rw [hs] at h; cases h
    | some o =>
      rw [hs, Option.bind_some] at h
      rw [commentDepth, ← commentDepth_of_owedAfter depth h]
      congr 1
      rcases owedStep_cases hs with ⟨ho, rfl⟩ | ⟨ho, hc, d, rfl⟩ | ⟨ho, hc, rfl⟩
      · simp only [ho, ↓reduceIte, List.length_cons]
        omega
      · rw [if_neg (by simp [ho]), if_pos (by simp [hc])]
        simp only [List.length_cons]
        omega
      · simp [ho, hc]

theorem commentFrom_of_owedAfter (depth : Nat) :
    ∀ (before : List Char) {cs : List Char} {owed owed' : List Char},
      owedAfter cs owed = some owed' → commentFrom cs before (depth + 1 + owed.length) = none
  | _, [], _, _, _ => rfl
  | before, c :: cs, owed, owed', h => by
    simp only [owedAfter] at h
    cases hs : owedStep owed c with
    | none => rw [hs] at h; cases h
    | some o =>
      rw [hs, Option.bind_some] at h
      have ih := commentFrom_of_owedAfter depth (c :: before) h
      rcases owedStep_cases hs with ⟨ho, rfl⟩ | ⟨ho, hc, d, rfl⟩ | ⟨ho, hc, rfl⟩
      · rw [commentFrom, if_pos ho]
        convert ih using 2
        simp only [List.length_cons]
        omega
      · rw [commentFrom, if_neg (by simp [ho]), if_pos (by simp [hc])]
        convert ih using 2
        simp only [List.length_cons]
        omega
      · -- no bracket: the depth stays above zero, so a `#` is no marker
        rw [commentFrom, if_neg (by simp [ho]), if_neg (by simp [hc]), if_neg (by simp)]
        exact ih

end Balanced

/-- `commentFrom` passes over a bracketed group whose text balances, and comes out at the depth
it went in at: the group is never cut. -/
theorem commentFrom_group {g : String} (hg : balanced g = true) (rest before : List Char)
    (depth : Nat) :
    commentFrom ('[' :: (g.toList ++ ']' :: rest)) before depth =
      commentFrom rest (']' :: g.toList.reverse ++ '[' :: before) depth := by
  have howed : owedAfter g.toList [] = some [] := (balancedFrom_iff _ _).1 hg
  have hinner := commentFrom_of_owedAfter depth ('[' :: before) howed
  have hdepth := commentDepth_of_owedAfter (depth + 1) howed
  simp only [List.length_nil, Nat.add_zero] at hinner hdepth
  have hopen : isOpener '[' = true := rfl
  rw [commentFrom, if_pos hopen, commentFrom_append_of_none hinner, hdepth]
  have hclose : isOpener ']' = false ∧ isCloser ']' = true := ⟨rfl, rfl⟩
  simp [commentFrom, hclose]

theorem commentFrom_groupsText {gs : List String} (hgs : ∀ g ∈ gs, balanced g = true)
    (rest before : List Char) :
    commentFrom ((groupsText gs).toList ++ rest) before 0 =
      commentFrom rest ((groupsText gs).toList.reverse ++ before) 0 := by
  induction gs generalizing before with
  | nil => simp [groupsText]
  | cons g gs ih =>
    have hspace : commentFrom (' ' :: ('[' :: (g.toList ++ ']' :: ((groupsText gs).toList ++ rest))))
        before 0 = commentFrom ('[' :: (g.toList ++ ']' :: ((groupsText gs).toList ++ rest)))
          (' ' :: before) 0 := by
      simp [commentFrom, isOpener, isCloser]
    have hg := commentFrom_group (hgs g List.mem_cons_self) ((groupsText gs).toList ++ rest)
      (' ' :: before) 0
    have htext : (groupsText (g :: gs)).toList =
        ' ' :: '[' :: (g.toList ++ ']' :: (groupsText gs).toList) := by
      simp [groupsText, String.toList_append]
    rw [htext]
    simp only [List.cons_append, List.append_assoc]
    rw [hspace, hg, ih fun g' hg' => hgs g' (List.mem_cons_of_mem g hg')]
    simp

theorem commentFrom_groups {T c : String} {gs : List String} (hT : balanced T = true)
    (hTcut : commentFrom T.toList [] 0 = none) (hgs : ∀ g ∈ gs, balanced g = true) :
    commentFrom (T ++ groupsText gs ++ " # " ++ c).toList [] 0 =
      some ((T ++ groupsText gs).toList, (" " ++ c).toList) := by
  have hdepth := commentDepth_of_owedAfter 0 ((balancedFrom_iff _ _).1 hT)
  simp only [List.length_nil, Nat.add_zero] at hdepth
  have htext : (T ++ groupsText gs ++ " # " ++ c).toList =
      T.toList ++ ((groupsText gs).toList ++ ' ' :: '#' :: ' ' :: c.toList) := by
    simp [String.toList_append]
  rw [htext, commentFrom_append_of_none hTcut, hdepth, commentFrom_groupsText hgs]
  have hspace : isOpener ' ' = false ∧ isCloser ' ' = false := ⟨rfl, rfl⟩
  have hhash : isOpener '#' = false ∧ isCloser '#' = false := ⟨rfl, rfl⟩
  simp [commentFrom, hspace, hhash, String.toList_append]

/-- The two readings of a field's remainder `T [g₁] … [gₖ] # c` agree on its constraint groups
when the text of each group balances. No group is cut by the comment marker, whatever quotes it
holds, wherever it stands; and when the type is balanced with no marker of its own, `c` is the
comment. -/
theorem splitComment_groups (T c : String) (gs : List String) (hgs : ∀ g ∈ gs, balanced g = true) :
    (∀ g ∈ gs, ∀ (rest before : List Char) (depth : Nat),
      commentFrom ('[' :: (g.toList ++ ']' :: rest)) before depth =
        commentFrom rest (']' :: g.toList.reverse ++ '[' :: before) depth) ∧
    (balanced T = true → commentFrom T.toList [] 0 = none →
      splitComment (T ++ groupsText gs ++ " # " ++ c) =
        (trimEnd (T ++ groupsText gs), some (trim c))) := by
  refine ⟨fun g hg rest before depth => commentFrom_group (hgs g hg) rest before depth,
    fun hT hTcut => ?_⟩
  rw [splitComment, commentFrom_groups hT hTcut hgs]
  simp only [String.ofList_toList, trim_blank_append c blank_space]

theorem splitComment_groups_quoted_hash :
    (∀ g ∈ ["DEFAULT:\"a #1\"", "UNIQUE"], balanced g = true) ∧
      balanced "String" = true ∧ commentFrom "String".toList [] 0 = none ∧
      splitComment ("String" ++ groupsText ["DEFAULT:\"a #1\"", "UNIQUE"] ++ " # " ++ "n") =
        (trimEnd ("String" ++ groupsText ["DEFAULT:\"a #1\"", "UNIQUE"]), some (trim "n")) := by
  have hgs : ∀ g ∈ ["DEFAULT:\"a #1\"", "UNIQUE"], balanced g = true := by decide
  have hT : balanced "String" = true := by decide
  have hTcut : commentFrom "String".toList [] 0 = none := by decide
  exact ⟨hgs, hT, hTcut, (splitComment_groups "String" "n" _ hgs).2 hT hTcut⟩

/-- A quoted bracket in a group: `groupFrom` closes the group at the bracket after the quotation,
but `commentFrom` counts the quoted one and is still inside brackets at the marker, so the line
has no comment. -/
theorem splitComment_quoted_bracket :
    groupFrom "DEFAULT:\"[\"] # c".toList 1 none [] =
        some ("DEFAULT:\"[\"".toList, " # c".toList) ∧
      splitComment "String [DEFAULT:\"[\"] # c" = ("String [DEFAULT:\"[\"] # c", none) := by
  decide

end SchemaNotation.Notation
