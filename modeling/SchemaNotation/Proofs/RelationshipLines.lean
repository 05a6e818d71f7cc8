import SchemaNotation.Proofs.LineText

/-! Reading a written relationship definition back.

A relationship is written `From -> To [cardinality] (nature) via Junction # comment`. Reading the
line cuts the comment off, cuts at the first `->`, takes the first bracketed group as the
cardinality, the first parenthesised group after it as the nature, and the first word `via`
followed by an identifier as the junction. A relationship read from a line has the shape this
asks for (`readRelationship_shape`): the source holds no `->`, the target no `[`, and the
junction is an identifier. Such a relationship reads back from its written line, with the
comment the layout keeps, as long as the comment marker is not hidden inside a bracket that the
source or target leaves open (`readRelationship_relationshipLine`). The text that reading
passed over after the cardinality is not written, which is what can leave a bracket open. -/

namespace SchemaNotation.Notation

open Text

theorem identChar_plain {c : Char} (h : isIdentChar c = true) :
    Neutral c ∧ isBlank c = false ∧ c ≠ '#' ∧ c ≠ '(' ∧ isLineBreak c = false := by
  have hc := isIdentChar_code h
  obtain ⟨hn, hb⟩ := nameChar_plain (c := c) (by simp [h])
  refine ⟨hn, hb, ?_, ?_, ?_⟩
  · rintro rfl
    simp at hc
  · rintro rfl
    simp at hc
  · simp only [isLineBreak, Bool.or_eq_false_iff, Bool.and_eq_false_iff, decide_eq_false_iff_not,
      beq_eq_false_iff_ne]
    omega

theorem isIdentList_chars {cs : List Char} (h : isIdentList cs = true) :
    ∀ c ∈ cs, isIdentChar c = true := by
  cases cs with
  | nil => exact fun _ h => absurd h List.not_mem_nil
  | cons c rest =>
    simp only [isIdentList, Bool.and_eq_true, List.all_eq_true] at h
    intro d hd
    rcases List.mem_cons.1 hd with rfl | hd
    · exact isIdentChar_of_isIdentStart h.1
    · exact h.2 d hd

theorem trim_eq_self_of_forall {s : String} (h : ∀ c ∈ s.toList, isBlank c = false) :
    trim s = s :=
  trim_eq_self_of_solid (fun c hc => h c (List.mem_of_mem_head? hc))
    (fun c hc => h c (List.mem_of_mem_getLast? hc))

theorem Cardinality.token_plain (c : Cardinality) : ∀ x ∈ c.token.toList,
    Neutral x ∧ isBlank x = false ∧ x ≠ '#' ∧ x ≠ ']' ∧ isLineBreak x = false := by
  cases c <;> simp [Neutral, Cardinality.token, isQuote, isOpener, isCloser, isBlank, isLineBreak]

theorem Nature.token_plain (n : Nature) : ∀ x ∈ n.token.toList,
    Neutral x ∧ isBlank x = false ∧ x ≠ '#' ∧ x ≠ ')' ∧ x ≠ 'v' ∧ isLineBreak x = false := by
  cases n <;> simp [Neutral, Nature.token, isQuote, isOpener, isCloser, isBlank, isLineBreak]

theorem Cardinality.ofToken?_token (c : Cardinality) : Cardinality.ofToken? c.token = some c := by
  cases c <;> rfl

theorem Nature.ofToken?_token (n : Nature) : Nature.ofToken? n.token = some n := by
  cases n <;> rfl

theorem enclosed?_eq {s : String} {a b c : List Char} {o cl : Char} (ha : o ∉ a) (hb : cl ∉ b)
    (hs : s.toList = a ++ o :: (b ++ cl :: c)) :
    enclosed? s o cl = some (String.ofList a, String.ofList b, String.ofList c) := by
  have h1 := takeWhile_dropWhile_append (p := (· != o)) (x := o) (t := b ++ cl :: c)
    (fun d hd => bne_iff_ne.2 fun h => ha (h ▸ hd)) (by simp)
  have h2 := takeWhile_dropWhile_append (p := (· != cl)) (x := cl) (t := c)
    (fun d hd => bne_iff_ne.2 fun h => hb (h ▸ hd)) (by simp)
  simp only [enclosed?, hs, h1.1, h1.2, h2.1, h2.2]

theorem enclosed?_eq_none {s : String} {o cl : Char} (h : o ∉ s.toList) :
    enclosed? s o cl = none := by
  have hd : s.toList.dropWhile (· != o) = [] :=
    List.dropWhile_eq_nil_iff.2 fun d hd => bne_iff_ne.2 fun he => h (he ▸ hd)
  simp only [enclosed?, hd]

theorem split_at_first {cs rest : List Char} {x o : Char} (h : cs.dropWhile (· != o) = x :: rest) :
    cs = cs.takeWhile (· != o) ++ o :: rest ∧ o ∉ cs.takeWhile (· != o) := by
  have hx : x = o := by
    have := List.head?_dropWhile_not (· != o) cs
    rw [h] at this
    simpa using this
  subst hx
  refine ⟨by rw [← h, List.takeWhile_append_dropWhile], fun hm => ?_⟩
  have := List.mem_takeWhile_imp hm
  simp at this

theorem enclosed?_some {s before inner after : String} {o cl : Char}
    (h : enclosed? s o cl = some (before, inner, after)) :
    s.toList = before.toList ++ o :: (inner.toList ++ cl :: after.toList) ∧
      o ∉ before.toList ∧ cl ∉ inner.toList := by
  dsimp only [enclosed?] at h
  split at h
  · rename_i rest hrest
    split at h
    · rename_i after' hafter
      obtain ⟨rfl, rfl, rfl⟩ : String.ofList (s.toList.takeWhile (· != o)) = before ∧
          String.ofList (rest.takeWhile (· != cl)) = inner ∧ String.ofList after' = after := by
        simpa using h
      obtain ⟨hs, ho⟩ := split_at_first hrest
      obtain ⟨hr, hc⟩ := split_at_first hafter
      simp only [String.toList_ofList]
      exact ⟨hs.trans (by rw [← hr]), ho, hc⟩
    · cases h
  · cases h

theorem viaTarget?_of_ne {c : Char} (hc : c ≠ 'v') (rest : List Char) :
    viaTarget? (c :: rest) = none := by
  unfold viaTarget?
  split
  · rename_i h
    cases h
    exact absurd rfl hc
  · rfl

theorem viaFrom_cons (p : Option Char) (c : Char) (rest : List Char) :
    viaFrom p (c :: rest) =
      (if p.all (!isWordChar ·) then viaTarget? (c :: rest) else none).or (viaFrom (some c) rest) := by
  rw [viaFrom.eq_def]
  cases p <;> dsimp only <;> split <;> simp_all

theorem viaFrom_cons_of_ne {p : Option Char} {c : Char} (hc : c ≠ 'v') (rest : List Char) :
    viaFrom p (c :: rest) = viaFrom (some c) rest := by
  rw [viaFrom_cons, viaTarget?_of_ne hc, ite_self, Option.none_or]

theorem viaFrom_append_of_not_mem {a : List Char} (ha : 'v' ∉ a) (p : Option Char)
    (b : List Char) : viaFrom p (a ++ b) = viaFrom (a.getLast?.or p) b := by
  induction a generalizing p with
  | nil => rfl
  | cons c a ih =>
    rw [List.cons_append, viaFrom_cons_of_ne (fun h => ha (h ▸ List.mem_cons_self)),
      ih (fun h => ha (List.mem_cons_of_mem c h))]
    cases a with
    | nil => rfl
    | cons d a => simp [List.getLast?_cons]

theorem leadingIdent?_of_isIdentList {cs : List Char} (h : isIdentList cs = true) :
    leadingIdent? cs = some (cs, []) := by
  cases cs with
  | nil => cases h
  | cons c rest =>
    simp only [isIdentList, Bool.and_eq_true, List.all_eq_true] at h
    simp [leadingIdent?, h.1, List.takeWhile_eq_self_iff.2 h.2, List.dropWhile_eq_nil_iff.2 h.2]

theorem viaTarget?_isIdentList {cs : List Char} {v : String} (h : viaTarget? cs = some v) :
    isIdentList v.toList = true := by
  unfold viaTarget? at h
  split at h
  · split at h
    · split at h
      · obtain ⟨⟨x, y⟩, hxy, rfl⟩ := Option.map_eq_some_iff.1 h
        rw [String.toList_ofList]
        unfold leadingIdent? at hxy
        split at hxy
        · split at hxy
          · obtain ⟨rfl, -⟩ := Prod.mk.inj (Option.some.inj hxy)
            rename_i d ds _ hd
            simp only [isIdentList, hd, Bool.true_and, List.all_eq_true]
            exact fun e he => List.mem_takeWhile_imp he
          · cases hxy
        · cases hxy
      · cases h
    · cases h
  · cases h

theorem viaFrom_isIdentList {p : Option Char} {cs : List Char} {v : String}
    (h : viaFrom p cs = some v) : isIdentList v.toList = true := by
  induction cs generalizing p with
  | nil => cases h
  | cons c rest ih =>
    rw [viaFrom_cons] at h
    rcases ht : (if p.all (!isWordChar ·) then viaTarget? (c :: rest) else none) with _ | name
    · rw [ht, Option.none_or] at h
      exact ih h
    · rw [ht, Option.some_or, Option.some.injEq] at h
      subst h
      split at ht
      · exact viaTarget?_isIdentList ht
      · cases ht

theorem viaTarget?_written {v : String} (hv : isIdentList v.toList = true) :
    viaTarget? ('v' :: 'i' :: 'a' :: ' ' :: v.toList) = some v := by
  obtain ⟨c, cs, hcs⟩ := List.exists_cons_of_ne_nil
    (fun h : v.toList = [] => by rw [h] at hv; cases hv)
  have hc : isBlank c = false :=
    (identChar_plain (isIdentList_chars hv c (by rw [hcs]; exact List.mem_cons_self))).2.1
  have hdrop : dropBlanks (' ' :: v.toList) = v.toList := by
    rw [dropBlanks, List.dropWhile_cons_of_pos (by decide), ← dropBlanks]
    exact dropBlanks_eq_self (by rw [hcs]; exact fun d hd => Option.mem_unique hd rfl ▸ hc)
  simp only [viaTarget?, show isBlank ' ' = true from rfl, ↓reduceIte, hdrop]
  rw [leadingIdent?_of_isIdentList hv]
  simp

theorem viaFrom_written {v : String} (hv : isIdentList v.toList = true) (p : Option Char) :
    viaFrom p (" via " ++ v).toList = some v := by
  have hstr : (" via " ++ v).toList = ' ' :: 'v' :: 'i' :: 'a' :: ' ' :: v.toList := by simp
  have hsp : isWordChar ' ' = false := by decide +kernel
  rw [hstr, viaFrom_cons_of_ne (by decide), viaFrom_cons, viaTarget?_written hv]
  simp [hsp]

/-- A relationship as reading leaves it: a source and a target with no blank at either end and
not empty, the source with no arrow and the target with no bracket, a junction that is an
identifier, and a comment with no blank at either end. -/
structure RelationshipShape (r : Relationship) : Prop where
  source : Trimmed r.source
  source_ne : r.source ≠ ""
  source_arrow : ¬ "->".toList <:+: r.source.toList
  target : Trimmed r.target
  target_ne : r.target ≠ ""
  target_bracket : '[' ∉ r.target.toList
  via : ∀ v ∈ r.via, isIdentList v.toList = true
  comment : ∀ c ∈ r.comment, Trimmed c

theorem infix_trim (s : String) : (trim s).toList <:+: s.toList := by
  obtain ⟨pre, post, hs, -, -⟩ := trimList_spec s.toList
  refine ⟨pre, post, ?_⟩
  rw [trim, String.toList_ofList]
  exact hs.symm

theorem breakOn?_no_earlier {s sep x y : String} (hsep : sep ≠ "") (h : breakOn? s sep = some (x, y)) :
    ¬ sep.toList <:+: x.toList := by
  obtain ⟨⟨b, a⟩, hb, he⟩ := Option.map_eq_some_iff.1 h
  obtain ⟨rfl, rfl⟩ := Prod.mk.inj he
  rw [String.toList_ofList]
  exact breakList?_no_earlier (by simpa using hsep) hb

/-- What reading a relationship line gives: a relationship of the shape reading leaves, whose
source starts the trimmed line. -/
theorem readRelationship_shape {l : String} {n : Option Nat} {r : Relationship} (hl : NoBreak l)
    (h : readRelationship l n = .ok r) :
    RelationshipShape r ∧ r.source.toList <+: (trim l).toList := by
  rcases hs : splitComment (trim l) with ⟨content, comment⟩
  obtain ⟨hpre, -, -, -, hcom⟩ := splitComment_spec hs
  unfold readRelationship at h
  rw [hs] at h
  dsimp only at h
  rcases hb : breakOn? content "->" with _ | ⟨left, right⟩
  · rw [hb] at h
    cases h
  rw [hb] at h
  dsimp only at h
  rcases he : enclosed? right '[' ']' with _ | ⟨before, token, tail⟩
  · rw [he] at h
    cases h
  rw [he] at h
  dsimp only at h
  rcases hc : Cardinality.ofToken? (trim token) with _ | card
  · rw [hc] at h
    cases h
  rw [hc] at h
  dsimp only at h
  split at h
  · cases h
  rename_i hcond
  have hne : (trim left).isEmpty = false ∧ (trim before).isEmpty = false := by
    simpa using hcond
  obtain ⟨nature, rfl⟩ : ∃ nature,
      r = ⟨trim left, trim before, card, nature, viaFrom none tail.toList, comment⟩ := by
    split at h
    · split at h
      · exact ⟨_, (Except.ok.inj h).symm⟩
      · cases h
    · exact ⟨_, (Except.ok.inj h).symm⟩
  have hcontent := breakOn?_some hb
  obtain ⟨hright, hbo, -⟩ := enclosed?_some he
  have htl : NoBreak (trim l) := hl.trim
  have hlc : left.toList <+: content.toList := ⟨_, by rw [hcontent, List.append_assoc]⟩
  have hleft : left.toList <+: (trim l).toList := hlc.trans hpre
  have hbefore : before.toList ⊆ (trim l).toList := fun c hc =>
    hpre.subset (by rw [hcontent, hright]; simp [hc])
  have hempty {s : String} (hs : s.isEmpty = false) : s ≠ "" := fun h0 => by
    rw [h0] at hs
    cases hs
  refine ⟨⟨trimmed_trim (htl.mono hleft.subset), hempty hne.1,
    fun hin => breakOn?_no_earlier (by decide) hb (hin.trans (infix_trim left)),
    trimmed_trim (htl.mono hbefore), hempty hne.2, not_mem_trim hbo,
    fun v hv => viaFrom_isIdentList hv,
    fun c hc => ⟨htl.mono (hcom c hc).2, (hcom c hc).1⟩⟩, ?_⟩
  obtain ⟨b, hb', -⟩ := trimEnd_spec left
  rw [trim_eq_trimEnd ((headSolid_trim l).of_lead hleft)]
  have hend : (trimEnd left).toList <+: left.toList := ⟨b, hb'.symm⟩
  exact hend.trans hleft

/-- The nature of a relationship as its line writes it: ` (nature)`, or nothing. -/
def natureText : Option Nature → String
  | some n => " (" ++ n.token ++ ")"
  | none => ""

/-- The junction of a relationship as its line writes it: ` via Junction`, or nothing. -/
def viaText : Option String → String
  | some v => if v.isEmpty then "" else " via " ++ v
  | none => ""

/-- What the line of a relationship writes after its target: the cardinality in brackets, then
the nature and the junction. -/
def relationshipTail (r : Relationship) : String :=
  " [" ++ r.cardinality.token ++ "]" ++ natureText r.nature ++ viaText r.via

theorem relationshipLine_eq (st : Style) (r : Relationship) :
    st.relationshipLine r =
      r.source ++ " -> " ++ r.target ++ relationshipTail r ++ st.comment r.comment := by
  obtain ⟨source, target, cardinality, nature, via, comment⟩ := r
  cases nature <;> cases via <;>
    simp only [Style.relationshipLine, relationshipTail, natureText, viaText, String.append_assoc]

theorem commentDepth_bracketed {o cl : Char} (ho : isOpener o = true) (hcl : isOpener cl = false)
    (hcl' : isCloser cl = true) {t : List Char} (ht : ∀ x ∈ t, Neutral x) (depth : Nat) :
    commentDepth (' ' :: o :: (t ++ [cl])) depth = depth := by
  have hsp : isOpener ' ' = false ∧ isCloser ' ' = false := ⟨rfl, rfl⟩
  simp only [commentDepth, hsp, ho, Bool.false_and, Bool.false_eq_true, ↓reduceIte]
  rw [commentDepth_append, commentDepth_of_neutral ht]
  simp [commentDepth, hcl, hcl']

theorem viaText_plain {via : Option String} (hv : ∀ v ∈ via, isIdentList v.toList = true) :
    ∀ x ∈ (viaText via).toList, Neutral x ∧ x ≠ '#' ∧ x ≠ '(' ∧ isLineBreak x = false := by
  cases via with
  | none => exact fun _ h => absurd h List.not_mem_nil
  | some v =>
    cases h0 : v.isEmpty
    · simp only [viaText, h0, Bool.false_eq_true, ↓reduceIte]
      intro x hx
      rw [String.toList_append, List.mem_append] at hx
      rcases hx with hx | hx
      · revert x
        simp [Neutral, isQuote, isOpener, isCloser, isLineBreak]
      · obtain ⟨hn, -, hh, hp, hb⟩ := identChar_plain (isIdentList_chars (hv v rfl) x hx)
        exact ⟨hn, hh, hp, hb⟩
    · simp only [viaText, h0, ↓reduceIte]
      exact fun _ h => absurd h List.not_mem_nil

theorem relationshipTail_plain {r : Relationship} (hv : ∀ v ∈ r.via, isIdentList v.toList = true) :
    (∀ x ∈ (relationshipTail r).toList, x ≠ '#' ∧ isLineBreak x = false) ∧
      ∀ depth, commentDepth (relationshipTail r).toList depth = depth := by
  have hcard := Cardinality.token_plain r.cardinality
  have hvia := viaText_plain hv
  have hgroup : (" [" ++ r.cardinality.token ++ "]").toList =
      ' ' :: '[' :: (r.cardinality.token.toList ++ [']']) := by simp
  have hnat : (∀ x ∈ (natureText r.nature).toList, x ≠ '#' ∧ isLineBreak x = false) ∧
      ∀ depth, commentDepth (natureText r.nature).toList depth = depth := by
    cases r.nature with
    | none => exact ⟨fun _ h => absurd h List.not_mem_nil, fun _ => rfl⟩
    | some n =>
      have htok := Nature.token_plain n
      have hparen : (natureText (some n)).toList = ' ' :: '(' :: (n.token.toList ++ [')']) := by
        simp [natureText]
      rw [hparen]
      refine ⟨fun x hx => ?_, commentDepth_bracketed rfl rfl rfl fun x hx => (htok x hx).1⟩
      simp only [List.mem_cons, List.mem_append, List.not_mem_nil, or_false] at hx
      rcases hx with rfl | rfl | hx | rfl
      · exact ⟨by decide, rfl⟩
      · exact ⟨by decide, rfl⟩
      · exact ⟨(htok x hx).2.2.1, (htok x hx).2.2.2.2.2⟩
      · exact ⟨by decide, rfl⟩
  refine ⟨fun x hx => ?_, fun depth => ?_⟩
  · rw [relationshipTail, String.toList_append, String.toList_append, hgroup] at hx
    simp only [List.mem_append] at hx
    rcases hx with ((hx | hx) | hx)
    · simp only [List.mem_cons, List.mem_append, List.not_mem_nil, or_false] at hx
      rcases hx with rfl | rfl | hx | rfl
      · exact ⟨by decide, rfl⟩
      · exact ⟨by decide, rfl⟩
      · exact ⟨(hcard x hx).2.2.1, (hcard x hx).2.2.2.2⟩
      · exact ⟨by decide, rfl⟩
    · exact hnat.1 x hx
    · exact ⟨(hvia x hx).2.1, (hvia x hx).2.2.2⟩
  · rw [relationshipTail, String.toList_append, String.toList_append, hgroup, commentDepth_append,
      commentDepth_append, commentDepth_bracketed rfl rfl rfl fun x hx => (hcard x hx).1,
      hnat.2, commentDepth_of_neutral fun x hx => (hvia x hx).1]

end SchemaNotation.Notation

namespace SchemaNotation.Notation

open Text

theorem arrow_free_append {s : List Char} (h : ¬ "->".toList <:+: s) :
    ¬ "->".toList <:+: s ++ [' ', '-'] := by
  have harrow : "->".toList = ['-', '>'] := rfl
  rw [harrow] at h ⊢
  intro hin
  rw [← List.reverse_infix] at hin h
  simp only [List.reverse_append, List.reverse_cons, List.reverse_nil, List.nil_append,
    List.cons_append] at hin
  rcases List.infix_cons_iff.1 hin with hp | hin
  · simp at hp
  rcases List.infix_cons_iff.1 hin with hp | hin
  · simp at hp
  · exact h (by simpa using hin)

theorem breakOn?_relationship {r : Relationship} (hr : RelationshipShape r) :
    breakOn? (r.source ++ " -> " ++ r.target ++ relationshipTail r) "->" =
      some (r.source ++ " ", " " ++ r.target ++ relationshipTail r) := by
  have hs : (r.source ++ " -> " ++ r.target ++ relationshipTail r).toList =
      (r.source ++ " ").toList ++ "->".toList ++ (" " ++ r.target ++ relationshipTail r).toList := by
    simp
  have hb : (r.source ++ " ").toList ++ "->".toList.dropLast = r.source.toList ++ [' ', '-'] := by
    simp
  rw [breakOn?, hs, breakList?_append_of_free (by decide) _
    (hb ▸ arrow_free_append hr.source_arrow)]
  simp [String.append_assoc]

theorem lastSolid_of_last {s : String} {c : Char} (hc : c ∈ s.toList.getLast?)
    (hb : isBlank c = false) : LastSolid s := fun d hd => by
  rw [Option.mem_unique hd hc]
  exact hb

theorem relationshipTail_lastSolid {r : Relationship}
    (hv : ∀ v ∈ r.via, isIdentList v.toList = true) : LastSolid (relationshipTail r) := by
  have hgroup : LastSolid (" [" ++ r.cardinality.token ++ "]") :=
    lastSolid_of_last (last_append_of_last (s := " [" ++ r.cardinality.token) rfl) rfl
  have hnat : LastSolid (" [" ++ r.cardinality.token ++ "]" ++ natureText r.nature) := by
    cases r.nature with
    | none => simpa [natureText] using hgroup
    | some n =>
      have hparen : ')' ∈ (natureText (some n)).toList.getLast? :=
        last_append_of_last (s := " (" ++ n.token) (t := ")") rfl
      exact lastSolid_of_last (last_append_of_last hparen) rfl
  unfold relationshipTail
  cases hvia : r.via with
  | none => simpa [viaText] using hnat
  | some v =>
    have hv' := hv v hvia
    cases h0 : v.isEmpty
    · have hne : v ≠ "" := fun h => by simp [h] at h0
      have hlast : LastSolid v := fun c hc =>
        (identChar_plain (isIdentList_chars hv' c (List.mem_of_mem_getLast? hc))).2.1
      simpa [viaText, h0] using (hlast.append hne " via ").append (by simp) _
    · simpa [viaText, h0] using hnat

theorem relationshipText_trimmed {r : Relationship} (hr : RelationshipShape r) :
    Trimmed (r.source ++ " -> " ++ r.target ++ relationshipTail r) := by
  have htail := relationshipTail_plain hr.via
  have hnb : NoBreak (relationshipTail r) := fun x hx => (htail.1 x hx).2
  have hne : relationshipTail r ≠ "" := by
    unfold relationshipTail
    exact fun h => by simpa using congrArg String.length h
  refine ⟨((hr.source.1.append (by simp [NoBreak, isLineBreak])).append hr.target.1).append hnb,
    trim_eq_self_of_solid ?_ ((relationshipTail_lastSolid hr.via).append hne _)⟩
  have hassoc : r.source ++ " -> " ++ r.target ++ relationshipTail r =
      r.source ++ (" -> " ++ r.target ++ relationshipTail r) := by
    simp only [String.append_assoc]
  rw [hassoc]
  exact hr.source.headSolid.append hr.source_ne _

/-- The written line of a relationship of the shape reading leaves reads back as the
relationship, with the comment the layout keeps, when its `From -> To` holds no comment marker
and, if a comment is written after it, leaves no bracket open. -/
theorem readRelationship_relationshipLine {st : Style} {r : Relationship}
    (hr : RelationshipShape r)
    (hcut : commentFrom (r.source ++ " -> " ++ r.target).toList [] 0 = none)
    (hdepth : st.keep r.comment ≠ none →
      commentDepth (r.source ++ " -> " ++ r.target).toList 0 = 0)
    (n : Option Nat) :
    readRelationship (st.relationshipLine r) n = .ok { r with comment := st.keep r.comment } := by
  obtain ⟨htail, htailDepth⟩ := relationshipTail_plain hr.via
  have hX : commentFrom (r.source ++ " -> " ++ r.target ++ relationshipTail r).toList [] 0 =
      none := by
    rw [String.toList_append, commentFrom_append_of_none hcut]
    exact commentFrom_of_not_mem (fun h => (htail _ h).1 rfl) _ _
  have hXd : st.keep r.comment ≠ none →
      commentDepth (r.source ++ " -> " ++ r.target ++ relationshipTail r).toList 0 = 0 :=
    fun h => by
      rw [String.toList_append, commentDepth_append, htailDepth]
      exact hdepth h
  have hXne : r.source ++ " -> " ++ r.target ++ relationshipTail r ≠ "" := fun h => by
    have := congrArg String.length h
    simp at this
  have hsplit := Style.splitComment_comment hX hXd (relationshipText_trimmed hr) hXne
    (fun c hc => (hr.comment c hc).2)
  have henc : enclosed? (" " ++ r.target ++ relationshipTail r) '[' ']' =
      some (String.ofList (" " ++ r.target ++ " ").toList, String.ofList r.cardinality.token.toList,
        String.ofList (natureText r.nature ++ viaText r.via).toList) :=
    enclosed?_eq (by simp [hr.target_bracket])
      (fun h => (Cardinality.token_plain _ _ h).2.2.2.1 rfl)
      (by simp [relationshipTail, String.append_assoc])
  simp only [String.ofList_toList] at henc
  have hsrc : trim (r.source ++ " ") = r.source := by
    rw [trim_eq_trimEnd (hr.source.headSolid.append hr.source_ne _),
      trimEnd_append_blanks hr.source.lastSolid blank_space]
  have htgt : trim (" " ++ r.target ++ " ") = r.target := by
    rw [String.append_assoc, trim_blank_append _ blank_space,
      trim_eq_trimEnd (hr.target.headSolid.append hr.target_ne _),
      trimEnd_append_blanks hr.target.lastSolid blank_space]
  have htok : trim r.cardinality.token = r.cardinality.token :=
    trim_eq_self_of_forall fun x hx => (Cardinality.token_plain _ x hx).2.1
  have hne : (r.source.isEmpty || r.target.isEmpty) = false := by
    simp [hr.source_ne, hr.target_ne]
  -- the nature token holds no `v`, so the junction is the one written after it
  have hnatv : 'v' ∉ (natureText r.nature).toList := by
    cases r.nature with
    | none => exact List.not_mem_nil
    | some m =>
      intro hm
      simp only [natureText, String.toList_append, List.mem_append] at hm
      rcases hm with (hm | hm) | hm
      · revert hm
        decide
      · exact (Nature.token_plain m _ hm).2.2.2.2.1 rfl
      · revert hm
        decide
  have hvia : viaFrom none (natureText r.nature ++ viaText r.via).toList = r.via := by
    rw [String.toList_append, viaFrom_append_of_not_mem hnatv]
    cases hv : r.via with
    | none => rfl
    | some v =>
      have hv' := hr.via v hv
      have h0 : v.isEmpty = false := by
        cases h : v.isEmpty
        · rfl
        · rw [String.isEmpty_iff] at h
          subst h
          cases hv'
      simp only [viaText, h0, Bool.false_eq_true, ↓reduceIte]
      exact viaFrom_written hv' _
  have hnat : enclosed? (natureText r.nature ++ viaText r.via) '(' ')' =
      r.nature.map fun m => (" ", m.token, viaText r.via) := by
    cases r.nature with
    | none =>
      exact enclosed?_eq_none fun h => (viaText_plain hr.via _ (by simpa [natureText] using h)).2.2.1 rfl
    | some m =>
      have h := enclosed?_eq (s := natureText (some m) ++ viaText r.via) (a := [' '])
        (b := m.token.toList) (c := (viaText r.via).toList) (o := '(') (by decide)
        (fun h => (Nature.token_plain m _ h).2.2.2.1 rfl) (by simp [natureText])
      simpa using h
  rw [relationshipLine_eq]
  simp only [readRelationship, hsplit, breakOn?_relationship hr, henc, htok,
    Cardinality.ofToken?_token, hsrc, htgt, hne, Bool.false_eq_true, ↓reduceIte, hvia, hnat]
  cases r.nature with
  | none => rfl
  | some m =>
    simp only [Option.map_some, trim_eq_self_of_forall fun x hx => (Nature.token_plain m x hx).2.1,
      Nature.ofToken?_token]
    rfl

theorem header_prefix_of_arrow {s t : List Char} (h : "=== ".toList <+: s ++ ' ' :: '-' :: t) :
    "=== ".toList <+: s ∨ s = "===".toList := by
  have hh : "=== ".toList = ['=', '=', '=', ' '] := rfl
  have h3 : "===".toList = ['=', '=', '='] := rfl
  rw [hh] at h ⊢
  rw [h3]
  rcases s with _ | ⟨a, _ | ⟨b, _ | ⟨c, _ | ⟨d, s⟩⟩⟩⟩
  · simp at h
  · simp at h
  · simp at h
  · simp only [List.cons_append, List.nil_append, List.cons_prefix_cons] at h
    obtain ⟨rfl, rfl, rfl, -⟩ := h
    exact .inr rfl
  · simp only [List.cons_append, List.cons_prefix_cons] at h
    obtain ⟨rfl, rfl, rfl, rfl, -⟩ := h
    exact .inl (by simp)

/-- The line of a read relationship is read as a relationship line again: it holds no line
break, it is no blank line, comment or module header, and it is not the schema marker, as long
as its source is not `===`. -/
theorem relationshipLine_kind {st : Style} {r : Relationship} (hr : RelationshipShape r)
    (hsrc : r.source ≠ "===") {l : String} (hl : NoBreak l) (hcl : closesText l = false)
    (hpre : r.source.toList <+: (trim l).toList) :
    NoBreak (st.relationshipLine r) ∧ closesText (st.relationshipLine r) = false ∧
      trim (st.relationshipLine r) ≠ schemaBlockMarker := by
  have hXt := relationshipText_trimmed hr
  have hXne : r.source ++ " -> " ++ r.target ++ relationshipTail r ≠ "" := fun h => by
    have := congrArg String.length h
    simp at this
  have hnb : NoBreak (st.relationshipLine r) := by
    rw [relationshipLine_eq]
    exact hXt.1.append (Style.noBreak_comment st fun c hc => (hr.comment c hc).1)
  have hpfx : (r.source ++ " -> " ++ r.target ++ relationshipTail r).toList <+:
      (trim (st.relationshipLine r)).toList := by
    rw [relationshipLine_eq]
    exact Style.prefix_trim_comment hXt hXne r.comment
  have hX : (r.source ++ " -> " ++ r.target ++ relationshipTail r).toList =
      r.source.toList ++ ' ' :: '-' :: '>' :: (" " ++ r.target ++ relationshipTail r).toList := by
    simp [String.append_assoc]
  rw [hX] at hpfx
  obtain ⟨c, rest, hcs, hcb, hch, hhd⟩ := (closesText_eq_false_iff hl).1 hcl
  obtain ⟨d, src, hd⟩ := List.exists_cons_of_ne_nil
    (fun h : r.source.toList = [] => hr.source_ne (String.toList_eq_nil_iff.1 h))
  have hdc : d = c := by
    obtain ⟨u, hu⟩ := hpre
    rw [hd, hcs] at hu
    exact (List.cons.inj hu).1
  obtain ⟨w, hw⟩ := hpfx
  refine ⟨hnb, (closesText_eq_false_iff hnb).2 ⟨c, _, by rw [← hw, hd, hdc]; rfl, hcb, hch, ?_⟩,
    fun heq => ?_⟩
  · intro hh
    have hlen : ("=== ".toList).length ≤ (r.source.toList ++ ' ' :: '-' :: '>' ::
        (" " ++ r.target ++ relationshipTail r).toList).length := by
      simp only [List.length_append, List.length_cons, hd]
      have : ("=== ".toList).length = 4 := rfl
      omega
    have hpx := List.prefix_of_prefix_length_le hh ⟨w, hw⟩ hlen
    rcases header_prefix_of_arrow hpx with h | h
    · exact hhd (h.trans hpre)
    · exact hsrc (String.toList_inj.1 h)
  · have hgt : '>' ∈ (trim (st.relationshipLine r)).toList := by
      rw [← hw]
      simp
    rw [heq] at hgt
    revert hgt
    decide

end SchemaNotation.Notation
