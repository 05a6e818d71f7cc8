import Mathlib.Data.List.TakeWhile
import SchemaNotation.Proofs.LineAgreement

/-! Readers given lines that agree up to line `N` answer the same, when the answer read from
the first lines was decided by line `N`. Each reader takes one line at a time and decides from
it, and those that stop free text look at most one line further, which `StartsFirm` keeps
within line `N`. -/

namespace SchemaNotation.Notation

open Text Leaves

variable {N : Nat}

section Names

theorem trimList_cons {cs : List Char} (h : ∃ c ∈ cs, isBlank c = false) :
    ∃ c rest, trimList cs = c :: rest ∧ isBlank c = false := by
  have hd : cs.dropWhile isBlank ≠ [] := by
    obtain ⟨c, hc, hb⟩ := h
    intro h0
    have := List.dropWhile_eq_nil_iff.1 h0 c hc
    rw [hb] at this
    exact Bool.false_ne_true this
  have hdb := List.head_dropWhile_not isBlank hd
  obtain ⟨d, ds, hds⟩ := List.exists_cons_of_ne_nil hd
  simp only [hds, List.head_cons] at hdb
  have hlast : ∃ ys, (ds.reverse ++ [d]).dropWhile isBlank = ys ++ [d] := by
    rw [List.dropWhile_append]
    split
    · exact ⟨[], by simp [List.dropWhile, hdb]⟩
    · exact ⟨_, rfl⟩
  obtain ⟨ys, hys⟩ := hlast
  refine ⟨d, ys.reverse, ?_, hdb⟩
  simp only [trimList, dropBlanks, hds, List.reverse_cons, hys, List.reverse_append,
    List.reverse_cons, List.reverse_nil, List.nil_append, List.singleton_append]

theorem trimEnd_isEmpty {s : String} {c : Char} {cs : List Char} (hs : s.toList = c :: cs)
    (hc : isBlank c = false) : (trimEnd s).isEmpty = false := by
  have hd : dropBlanks s.toList.reverse ≠ [] := by
    intro h0
    have := List.dropWhile_eq_nil_iff.1 h0 c (by simp [hs])
    rw [hc] at this
    exact Bool.false_ne_true this
  simp only [trimEnd]
  cases he : (String.ofList (dropBlanks s.toList.reverse).reverse).isEmpty
  · rfl
  · have := congrArg String.toList (String.isEmpty_iff.1 he)
    simp only [String.toList_ofList, String.toList_empty, List.reverse_eq_nil_iff] at this
    exact absurd this hd

theorem commentFrom_content {cs before : List Char} {depth : Nat} {content comment : List Char}
    (h : commentFrom cs before depth = some (content, comment)) :
    ∃ read, ' ' :: content.reverse = read ++ before := by
  fun_induction commentFrom cs before depth
  case case1 => cases h
  case case2 c _ _ _ _ ih | case3 c _ _ _ _ _ ih | case5 c _ _ _ _ _ _ ih =>
    obtain ⟨read, hr⟩ := ih h
    exact ⟨read ++ [c], by rw [hr, List.append_assoc, List.singleton_append]⟩
  case case4 before _ _ _ hfound =>
    simp only [Option.some.injEq, Prod.mk.injEq] at h
    obtain ⟨rfl, rfl⟩ := h
    obtain ⟨b, rfl⟩ : ∃ b, before = ' ' :: b := by
      cases before with
      | nil => simp at hfound
      | cons x b =>
        simp only [Bool.and_eq_true, beq_iff_eq, List.head?_cons, Option.some.injEq] at hfound
        exact ⟨b, by rw [hfound.2]⟩
    exact ⟨[], by simp⟩

theorem commentFrom_first {c : Char} {cs content comment : List Char} (hc : isBlank c = false)
    (h : commentFrom (c :: cs) [] 0 = some (content, comment)) : ∃ more, content = c :: more := by
  have hstep : ∃ depth, commentFrom cs [c] depth = some (content, comment) := by
    simp only [commentFrom] at h
    split at h
    · exact ⟨_, h⟩
    · split at h
      · exact ⟨_, h⟩
      · split at h
        · simp at *
        · exact ⟨_, h⟩
  obtain ⟨depth, hd⟩ := hstep
  obtain ⟨read, hr⟩ := commentFrom_content hd
  match read, hr with
  | [], hr =>
    simp only [List.nil_append, List.cons.injEq] at hr
    rw [← hr.1] at hc
    exact absurd hc (by decide)
  | _ :: read, hr =>
    simp only [List.cons_append, List.cons.injEq] at hr
    refine ⟨read.reverse, ?_⟩
    rw [← List.reverse_reverse content, hr.2]
    simp

theorem entityName_isEmpty {l : String} (hb : isBlankLine l = false) :
    (splitComment (trim l)).1.isEmpty = false := by
  have hex : ∃ c ∈ l.toList, isBlank c = false := by
    simpa [isBlankLine, isBlankText, List.all_eq_false] using hb
  obtain ⟨c, rest, htrim, hc⟩ := trimList_cons hex
  have ht : (trim l).toList = c :: rest := by
    simp only [trim, String.toList_ofList, htrim]
  simp only [splitComment, ht]
  split
  · rename_i content comment hcut
    obtain ⟨more, rfl⟩ := commentFrom_first hc hcut
    exact trimEnd_isEmpty String.toList_ofList hc
  · exact trimEnd_isEmpty ht hc

end Names

section Lines

variable {γ : Type} [Leaves γ]

theorem Agree.cons_of_settled {x : Nat × String} {rest ls' : Lines} {r : Parse γ}
    (ha : Ascending (x :: rest)) (h : Agree N (x :: rest) ls') (hw : Within (x :: rest) r)
    (hs : Settled N r) : ∃ rest', ls' = x :: rest' ∧ Agree N rest rest' ∧ x.1 ≤ N := by
  have hx := startsBy_cons.1 (hs.startsBy ha hw)
  obtain ⟨rest', rfl, hr⟩ := h.cons_inv hx
  exact ⟨rest', rfl, hr, hx⟩

theorem not_settled_nil {r : Parse γ} (hw : Within [] r) (hs : Settled N r) : False :=
  startsBy_nil (hs.startsBy List.Pairwise.nil hw)

end Lines

theorem skipBlank_agree {ls ls' : Lines} (ha : Ascending ls) (h : Agree N ls ls')
    (hs : StartsBy N (skipBlank ls)) : Agree N (skipBlank ls) (skipBlank ls') := by
  induction ls generalizing ls' with
  | nil => exact absurd hs startsBy_nil
  | cons x rest ih =>
    obtain ⟨rest', rfl, hr⟩ :=
      h.cons_inv (startsBy_cons.1 (startsBy_of_suffix ha (skipBlank_suffix _) hs))
    simp only [skipBlank, List.dropWhile_cons] at hs ⊢
    by_cases hb : isBlankLine x.2 = true
    · simp only [hb, ↓reduceIte] at hs ⊢
      exact ih ha.tail hr hs
    · simp only [hb, Bool.false_eq_true, ↓reduceIte] at hs ⊢
      exact Agree.cons (startsBy_cons.1 hs) hr

theorem skipNotes_agree {ls ls' : Lines} (ha : Ascending ls) (h : Agree N ls ls')
    (hs : StartsBy N (skipNotes ls).2) : Like N (skipNotes ls) (skipNotes ls') := by
  induction ls generalizing ls' with
  | nil => exact absurd hs startsBy_nil
  | cons x rest ih =>
    obtain ⟨rest', rfl, hr⟩ :=
      h.cons_inv (startsBy_cons.1 (startsBy_of_suffix ha (skipNotes_suffix _) hs))
    obtain ⟨n, l⟩ := x
    simp only [skipNotes] at hs ⊢
    by_cases hb : isBlankLine l = true
    · simp only [hb, ↓reduceIte] at hs ⊢
      exact ih ha.tail hr hs
    · by_cases hc : isCommentLine l = true
      · simp only [hb, hc, Bool.false_eq_true, ↓reduceIte] at hs ⊢
        obtain ⟨hnotes, hafter⟩ := ih ha.tail hr hs
        exact ⟨congrArg (commentText l :: ·) hnotes, hafter⟩
      · simp only [hb, hc, Bool.false_eq_true, ↓reduceIte] at hs ⊢
        exact ⟨rfl, Agree.cons (startsBy_cons.1 hs) hr⟩

theorem readModuleList_agree {ls ls' : Lines} (ha : Ascending ls) (h : Agree N ls ls')
    (hs : StartsBy N (readModuleList ls).2) : Like N (readModuleList ls) (readModuleList ls') := by
  induction ls generalizing ls' with
  | nil => exact absurd hs startsBy_nil
  | cons x rest ih =>
    obtain ⟨rest', rfl, hr⟩ :=
      h.cons_inv (startsBy_cons.1 (startsBy_of_suffix ha (readModuleList_suffix _) hs))
    obtain ⟨n, l⟩ := x
    simp only [readModuleList] at hs ⊢
    by_cases hm : (trim l).startsWith "+" = true
    · simp only [hm, ↓reduceIte] at hs ⊢
      obtain ⟨hnames, hafter⟩ := ih ha.tail hr hs
      exact ⟨by rw [hnames], hafter⟩
    · by_cases hb : (isBlankLine l || isCommentLine l) = true
      · simp only [hm, hb, Bool.false_eq_true, ↓reduceIte] at hs ⊢
        exact ih ha.tail hr hs
      · simp only [hm, hb, Bool.false_eq_true, ↓reduceIte] at hs ⊢
        exact ⟨rfl, Agree.cons (startsBy_cons.1 hs) hr⟩

theorem readFeatureLines_agree {ls ls' : Lines} (ha : Ascending ls) (h : Agree N ls ls')
    (hs : StartsFirm N (readFeatureLines ls).2) :
    Like N (readFeatureLines ls) (readFeatureLines ls') := by
  induction ls generalizing ls' with
  | nil => exact absurd hs startsFirm_nil
  | cons x rest ih =>
    have hf := startsFirm_of_suffix ha (readFeatureLines_suffix _) hs
    obtain ⟨hn, hnext⟩ := startsFirm_cons.1 hf
    obtain ⟨rest', rfl, hr⟩ := h.cons_inv hn
    obtain ⟨n, l⟩ := x
    simp only [readFeatureLines] at hs ⊢
    by_cases hc : closesText l = true
    · have hc' : (isBlankLine l || isCommentLine l || isModuleHeader l) = true := hc
      simp only [hc', Bool.true_or, ↓reduceIte] at hs ⊢
      exact ⟨rfl, Agree.cons hn hr⟩
    · have hc' : (isBlankLine l || isCommentLine l || isModuleHeader l) = false := by
        simpa [closesText] using hc
      have hb : StartsBy N rest := hnext.resolve_left hc
      obtain ⟨y, more, rfl⟩ := hb.exists_cons
      obtain ⟨more', rfl, _⟩ := hr.cons_inv (startsBy_cons.1 hb)
      by_cases hsep : isSeparatorRow y.2 = true
      · simp only [hc', hsep, Bool.false_or, ↓reduceIte] at hs ⊢
        exact ⟨rfl, Agree.cons hn hr⟩
      · simp only [hc', hsep, Bool.false_or, Bool.false_eq_true, ↓reduceIte] at hs ⊢
        obtain ⟨hcontent, hafter⟩ := ih ha.tail hr hs
        exact ⟨congrArg (trim l :: ·) hcontent, hafter⟩

theorem frontMatterFrom_same (start : Nat) {ls ls' : Lines} (m : Metadata) (ha : Ascending ls)
    (h : Agree N ls ls') (hs : Settled N (frontMatterFrom start ls m)) :
    Same N (frontMatterFrom start ls m) (frontMatterFrom start ls' m) := by
  induction ls generalizing ls' m with
  | nil => exact (not_settled_nil (frontMatterFrom_within start [] m) hs).elim
  | cons x rest ih =>
    obtain ⟨rest', rfl, hr, -⟩ := h.cons_of_settled ha (frontMatterFrom_within _ _ _) hs
    obtain ⟨n, l⟩ := x
    simp only [frontMatterFrom] at hs ⊢
    by_cases hmark : (trim l == frontMatterMarker) = true
    · simp only [hmark, ↓reduceIte] at hs ⊢
      exact Same.pure ⟨rfl, hr⟩
    · by_cases he : (trim l).isEmpty = true
      · simp only [hmark, he, Bool.false_eq_true, ↓reduceIte] at hs ⊢
        exact ih m ha.tail hr hs
      · simp only [hmark, he, Bool.false_eq_true, ↓reduceIte] at hs ⊢
        cases hk : breakOn? (trim l) ":" with
        | some kv =>
          simp only [hk] at hs ⊢
          exact ih _ ha.tail hr hs
        | none =>
          simp only [hk] at hs ⊢
          exact ih _ ha.tail hr hs

theorem readFrontMatter_same {ls ls' : Lines} (ha : Ascending ls) (h : Agree N ls ls')
    (hs : Settled N (readFrontMatter ls)) : Same N (readFrontMatter ls) (readFrontMatter ls') := by
  match ls, ha, h, hs with
  | [], _, _, hs => exact (not_settled_nil (readFrontMatter_within []) hs).elim
  | (n, l) :: rest, ha, h, hs =>
    obtain ⟨rest', rfl, hr, hn⟩ := h.cons_of_settled ha (readFrontMatter_within _) hs
    simp only [readFrontMatter] at hs ⊢
    by_cases hm : (trim l == frontMatterMarker) = true
    · simp only [hm, ↓reduceIte] at hs ⊢
      exact frontMatterFrom_same n _ ha.tail hr hs
    · simp only [hm, Bool.false_eq_true, ↓reduceIte]
      exact Same.pure ⟨rfl, Agree.cons hn hr⟩

theorem readHeader_same {ls ls' : Lines} (ha : Ascending ls) (h : Agree N ls ls')
    (hs : Settled N (readHeader ls)) : Same N (readHeader ls) (readHeader ls') := by
  match ls, ha, h, hs with
  | [], _, _, hs => exact (not_settled_nil (readHeader_within []) hs).elim
  | (n, l) :: rest, ha, h, hs =>
    obtain ⟨rest', rfl, hr, hn⟩ := h.cons_of_settled ha (readHeader_within _) hs
    simp only [readHeader]
    split
    · split
      · exact Same.pure ⟨rfl, hr⟩
      · exact same_error.2 rfl
    · exact Same.pure ⟨rfl, Agree.cons hn hr⟩

theorem relationshipsFrom_same {ls ls' : Lines} (ha : Ascending ls) (h : Agree N ls ls')
    (hs : Settled N (relationshipsFrom ls)) :
    Same N (relationshipsFrom ls) (relationshipsFrom ls') := by
  induction ls generalizing ls' with
  | nil => exact (not_settled_nil (relationshipsFrom_within []) hs).elim
  | cons x rest ih =>
    obtain ⟨rest', rfl, hr, hn⟩ := h.cons_of_settled ha (relationshipsFrom_within _) hs
    obtain ⟨n, l⟩ := x
    simp only [relationshipsFrom] at hs ⊢
    by_cases hb : (isBlankLine l || isCommentLine l) = true
    · simp only [hb, ↓reduceIte] at hs ⊢
      exact ih ha.tail hr hs
    · by_cases hstop : (trim l == schemaBlockMarker || isModuleHeader l) = true
      · simp only [hb, hstop, Bool.false_eq_true, ↓reduceIte]
        exact Same.pure ⟨rfl, Agree.cons hn hr⟩
      · simp only [hb, hstop, Bool.false_eq_true, ↓reduceIte] at hs ⊢
        refine Same.line_bind fun r hrel => ?_
        have hmore := (hs.bind_ok hrel).of_bind ha.tail (relationshipsFrom_within rest)
          fun _ _ => within_pure (List.suffix_refl _)
        refine Same.bind (ih ha.tail hr hmore) fun _ _ _ _ hlike => ?_
        obtain ⟨hv, hl⟩ := hlike
        exact Same.pure ⟨by rw [hv], hl⟩

theorem readFields_same {ls ls' : Lines} (ha : Ascending ls) (h : Agree N ls ls')
    (hs : Settled N (readFields ls)) : Same N (readFields ls) (readFields ls') := by
  induction ls generalizing ls' with
  | nil => exact (not_settled_nil (readFields_within []) hs).elim
  | cons x rest ih =>
    obtain ⟨rest', rfl, hr, hn⟩ := h.cons_of_settled ha (readFields_within _) hs
    obtain ⟨n, l⟩ := x
    simp only [readFields] at hs ⊢
    cases hc : (trim l).toList with
    | nil => exact Same.pure ⟨rfl, Agree.cons hn hr⟩
    | cons c cs =>
      simp only [hc] at hs ⊢
      by_cases hsig : (Sigil.ofChar? c).isSome = true
      · simp only [hsig, ↓reduceIte] at hs ⊢
        refine Same.line_bind fun f hf => ?_
        have hmore := (hs.bind_ok hf).of_bind ha.tail (readFields_within rest)
          fun _ _ => within_pure (List.suffix_refl _)
        refine Same.bind (ih ha.tail hr hmore) fun _ _ _ _ hlike => ?_
        obtain ⟨hv, hl⟩ := hlike
        exact Same.pure ⟨by rw [hv], hl⟩
      · simp only [hsig, Bool.false_eq_true, ↓reduceIte]
        exact Same.pure ⟨rfl, Agree.cons hn hr⟩

theorem readLinkSection_same {ls ls' : Lines} (ha : Ascending ls) (h : Agree N ls ls')
    (hs : Settled N (readLinkSection ls)) : Same N (readLinkSection ls) (readLinkSection ls') := by
  induction ls generalizing ls' with
  | nil => exact (not_settled_nil (readLinkSection_within []) hs).elim
  | cons x rest ih =>
    obtain ⟨rest', rfl, hr, hn⟩ := h.cons_of_settled ha (readLinkSection_within _) hs
    obtain ⟨n, l⟩ := x
    simp only [readLinkSection] at hs ⊢
    by_cases hnote : (trim l).startsWith noteMarker = true
    · simp only [hnote, ↓reduceIte] at hs ⊢
      have hmore := hs.of_bind ha.tail (readLinkSection_within rest)
        fun _ _ => within_pure (List.suffix_refl _)
      refine Same.bind (ih ha.tail hr hmore) fun _ _ _ _ hlike => ?_
      obtain ⟨hv, hl⟩ := hlike
      exact Same.pure ⟨by rw [hv], hl⟩
    · by_cases hlink : (trim l).startsWith "## " = true
      · simp only [hnote, hlink, Bool.false_eq_true, ↓reduceIte] at hs ⊢
        refine Same.line_bind fun link hlk => ?_
        have hmore := (hs.bind_ok hlk).of_bind ha.tail (readLinkSection_within rest)
          fun _ _ => within_pure (List.suffix_refl _)
        refine Same.bind (ih ha.tail hr hmore) fun _ _ _ _ hlike => ?_
        obtain ⟨hv, hl⟩ := hlike
        exact Same.pure ⟨by rw [hv], hl⟩
      · simp only [hnote, hlink, Bool.false_eq_true, ↓reduceIte]
        exact Same.pure ⟨rfl, Agree.cons hn hr⟩

theorem readTrailing_startsFirm {fuel : Nat} {ls : Lines} (ha : Ascending ls)
    (hs : Decided N (readTrailing fuel ls)) : StartsFirm N ls := by
  cases fuel with
  | zero => exact decided_ok.1 hs
  | succ fuel =>
    match ls, ha, hs with
    | [], _, hs => exact absurd (decided_ok.1 hs) startsFirm_nil
    | (n, l) :: rest, ha, hs =>
      simp only [readTrailing] at hs
      by_cases hlink : (trim l == linkSectionMarker) = true
      · simp only [hlink, ↓reduceIte] at hs
        exact startsFirm_cons_of_startsBy ha (hs.settled.startsBy ha.tail
          (within_bind (readLinkSection_within rest) fun a _ =>
            within_bind (readTrailing_within _ a.2) fun _ _ => within_pure (List.suffix_refl _)))
      · by_cases hfeat : ((trim l).startsWith "# " && !(trim l).startsWith "## ") = true
        · simp only [hlink, hfeat, Bool.false_eq_true, ↓reduceIte] at hs
          exact startsFirm_cons_of_startsBy ha (hs.settled.startsBy ha.tail
            (within_bind ((readTrailing_within _ _).mono (readFeatureLines_suffix rest))
              fun _ _ => within_pure (List.suffix_refl _)))
        · simp only [hlink, hfeat, Bool.false_eq_true, ↓reduceIte] at hs
          exact decided_ok.1 hs

theorem readTrailing_same {fuel fuel' : Nat} {ls ls' : Lines} (hfuel : ls.length ≤ fuel)
    (hfuel' : ls'.length ≤ fuel') (ha : Ascending ls) (h : Agree N ls ls')
    (hs : Decided N (readTrailing fuel ls)) :
    Same N (readTrailing fuel ls) (readTrailing fuel' ls') := by
  induction fuel generalizing fuel' ls ls' with
  | zero =>
    obtain rfl : ls = [] := List.eq_nil_of_length_eq_zero (by omega)
    exact absurd (decided_ok.1 hs) startsFirm_nil
  | succ fuel ih =>
    match ls, ha, h, hs, hfuel with
    | [], _, _, hs, _ => exact absurd (decided_ok.1 hs) startsFirm_nil
    | (n, l) :: rest, ha, h, hs, hfuel =>
      obtain ⟨rest', rfl, hr, hn⟩ := h.cons_of_settled ha (readTrailing_within _ _) hs.settled
      obtain ⟨fuel', rfl⟩ : ∃ f, fuel' = f + 1 := ⟨fuel' - 1, by simp at hfuel'; omega⟩
      simp only [List.length_cons] at hfuel hfuel'
      simp only [readTrailing] at hs ⊢
      by_cases hlink : (trim l == linkSectionMarker) = true
      · simp only [hlink, ↓reduceIte] at hs ⊢
        have hsec := hs.settled.of_bind ha.tail (readLinkSection_within rest) fun a _ =>
          within_bind (readTrailing_within _ a.2) fun _ _ => within_pure (List.suffix_refl _)
        refine Same.bind (readLinkSection_same ha.tail hr hsec) fun a a' hq hq' hlike => ?_
        obtain ⟨hv, hl⟩ := hlike
        have hlen : a.2.length ≤ rest.length := ((readLinkSection_within rest).2 a hq).length_le
        have hlen' : a'.2.length ≤ rest'.length :=
          ((readLinkSection_within rest').2 a' hq').length_le
        have hdec := Decided.of_bind_pure (hs.bind_ok hq) fun _ => rfl
        refine Same.bind (ih (by omega) (by omega)
          (ha.tail.of_suffix ((readLinkSection_within rest).2 a hq)) hl hdec)
          fun _ _ _ _ hlike => ?_
        obtain ⟨hv', hl'⟩ := hlike
        exact Same.pure ⟨by rw [hv, hv'], hl'⟩
      · by_cases hfeat : ((trim l).startsWith "# " && !(trim l).startsWith "## ") = true
        · simp only [hlink, hfeat, Bool.false_eq_true, ↓reduceIte] at hs ⊢
          have hdec := Decided.of_bind_pure hs fun _ => rfl
          have hsuf := readFeatureLines_suffix rest
          obtain ⟨hcontent, hafter⟩ := readFeatureLines_agree ha.tail hr
            (readTrailing_startsFirm (ha.tail.of_suffix hsuf) hdec)
          rw [← hcontent]
          have hlen := hsuf.length_le
          have hlen' := (readFeatureLines_suffix rest').length_le
          refine Same.bind (ih (by omega) (by omega) (ha.tail.of_suffix hsuf) hafter hdec)
            fun _ _ _ _ hlike => ?_
          obtain ⟨hv, hl⟩ := hlike
          exact Same.pure ⟨hv, by rw [hl.1], hl.2⟩
        · simp only [hlink, hfeat, Bool.false_eq_true, ↓reduceIte]
          exact Same.pure ⟨rfl, rfl, Agree.cons hn hr⟩

theorem entityBody_same {more more' : Lines}
    {g : List Field × Lines → List LinkSection × List Feature × Lines → Entity}
    (ha : Ascending more) (h : Agree N more more')
    (hs : Decided N (readFields more >>= fun a =>
      readTrailing a.2.length a.2 >>= fun b => pure (g a b, b.2.2)))
    (hg : ∀ a a' b b', a.1 = a'.1 → b.1 = b'.1 → b.2.1 = b'.2.1 → g a b = g a' b') :
    Same N (readFields more >>= fun a => readTrailing a.2.length a.2 >>= fun b => pure (g a b, b.2.2))
      (readFields more' >>= fun a =>
        readTrailing a.2.length a.2 >>= fun b => pure (g a b, b.2.2)) := by
  have hfields := hs.settled.of_bind ha (readFields_within more) fun a _ =>
    within_bind (readTrailing_within _ a.2) fun _ _ => within_pure (List.suffix_refl _)
  refine Same.bind (readFields_same ha h hfields) fun a a' hq _ hlike => ?_
  obtain ⟨hv, hl⟩ := hlike
  have hdec := Decided.of_bind_pure (hs.bind_ok hq) fun _ => rfl
  refine Same.bind (readTrailing_same le_rfl le_rfl
    (ha.of_suffix ((readFields_within more).2 a hq)) hl hdec) fun b b' _ _ hlike => ?_
  obtain ⟨hv', hv'', hl'⟩ := hlike
  exact Same.pure ⟨hg a a' b b' hv hv' hv'', hl'⟩

theorem readEntity_same (endLine endLine' : Nat) {n : Nat} {l : String} {rest rest' : Lines}
    (ha : Ascending ((n, l) :: rest)) (h : Agree N rest rest')
    (hs : Decided N (readEntity endLine n l rest)) :
    Same N (readEntity endLine n l rest) (readEntity endLine' n l rest') := by
  cases hname : (splitComment (trim l)).1.isEmpty
  · have hw := readEntity_within_rest endLine n l rest hname
    have hb := hs.settled.startsBy ha.tail hw
    cases rest with
    | nil => exact absurd hb startsBy_nil
    | cons y more =>
    obtain ⟨more', rfl, hm, -⟩ := h.cons_of_settled ha.tail hw hs.settled
    obtain ⟨m, sep⟩ := y
    have hasc : Ascending more := ha.tail.tail
    simp only [readEntity, hname, pure_bind, Bool.false_eq_true, ↓reduceIte] at hs ⊢
    by_cases hstd : isStandardSeparator sep = true
    · simp only [hstd, ↓reduceIte] at hs ⊢
      exact entityBody_same hasc hm hs fun _ _ _ _ h1 h2 h3 => by rw [h1, h2, h3]
    · by_cases hemb : isEmbeddedSeparator sep = true
      · simp only [hstd, hemb, Bool.false_eq_true, ↓reduceIte] at hs ⊢
        exact entityBody_same hasc hm hs fun _ _ _ _ h1 h2 h3 => by rw [h1, h2, h3]
      · simp only [hstd, hemb, Bool.false_eq_true, ↓reduceIte]
        exact same_error.2 rfl
  · simp only [readEntity, hname, ↓reduceIte]
    exact same_error.2 rfl

theorem readEntities_startsFirm {endLine fuel : Nat} {ls : Lines} (ha : Ascending ls)
    (hs : Decided N (readEntities endLine fuel ls)) : StartsFirm N ls := by
  cases fuel with
  | zero => exact decided_ok.1 hs
  | succ fuel =>
    have hw := readEntities_succ_within endLine fuel ls
    have hsuf := skipNotes_suffix ls
    simp only [readEntities] at hs hw
    revert hs hw
    rcases hsn : (skipNotes ls).2 with _ | ⟨⟨n, l⟩, rest⟩
    · intro hs _
      exact absurd (decided_ok.1 hs) startsFirm_nil
    · intro hs hw
      rw [hsn] at hsuf
      have hasc := ha.of_suffix hsuf
      refine startsFirm_of_suffix ha hsuf ?_
      by_cases hh : isModuleHeader l = true
      · simp only [hh, ↓reduceIte] at hs
        exact decided_ok.1 hs
      · simp only [hh, Bool.false_eq_true, ↓reduceIte] at hs hw
        cases hname : (splitComment (trim l)).1.isEmpty
        · exact startsFirm_cons_of_startsBy hasc (hs.settled.startsBy hasc.tail
            (within_bind (readEntity_within_rest endLine n l rest hname) fun a _ =>
              within_bind (readEntities_within _ _ a.2) fun _ _ => within_pure (List.suffix_refl _)))
        · have hb : isBlankLine l = true := by
            cases hb : isBlankLine l
            · rw [entityName_isEmpty hb] at hname
              cases hname
            · rfl
          have hn := startsBy_cons.1 (hs.settled.startsBy hasc hw)
          exact startsFirm_cons.2 ⟨hn, .inl (by simp [closesText, hb])⟩

theorem readEntities_closed {endLine fuel : Nat} {ls : Lines} (hfuel : ls.length < fuel)
    {a : List Entity × Lines} (hr : readEntities endLine fuel ls = .ok a) :
    ∀ x ∈ a.2.head?, closesText x.2 = true := by
  induction fuel generalizing ls a with
  | zero => omega
  | succ fuel ih =>
    have hsuf := skipNotes_suffix ls
    simp only [readEntities] at hr
    revert hr
    rcases hsn : (skipNotes ls).2 with _ | ⟨⟨n, l⟩, rest⟩
    · intro hr x hx
      simp only [pure, Except.pure, Except.ok.injEq] at hr
      subst hr
      cases hx
    · intro hr x hx
      rw [hsn] at hsuf
      by_cases hh : isModuleHeader l = true
      · simp only [hh, ↓reduceIte, pure, Except.pure, Except.ok.injEq] at hr
        subst hr
        simp only [List.head?_cons, Option.mem_def, Option.some.injEq] at hx
        subst hx
        simp [closesText, hh]
      · simp only [hh, Bool.false_eq_true, ↓reduceIte] at hr
        obtain ⟨e, he, hr⟩ := bind_eq_ok hr
        obtain ⟨b, hb, hr⟩ := bind_eq_ok hr
        simp only [pure, Except.pure, Except.ok.injEq] at hr
        subst hr
        have hlen := (readEntity_ok_suffix he).length_le
        have hlen' := hsuf.length_le
        simp only [List.length_cons] at hlen'
        exact ih (by omega) hb x hx

theorem readEntities_same (endLine endLine' : Nat) {fuel fuel' : Nat} {ls ls' : Lines}
    (hfuel : ls.length < fuel) (hfuel' : ls'.length < fuel') (ha : Ascending ls)
    (h : Agree N ls ls') (hs : Decided N (readEntities endLine fuel ls)) :
    Same N (readEntities endLine fuel ls) (readEntities endLine' fuel' ls') := by
  induction fuel generalizing fuel' ls ls' with
  | zero => omega
  | succ fuel ih =>
    obtain ⟨fuel', rfl⟩ : ∃ f, fuel' = f + 1 := ⟨fuel' - 1, by omega⟩
    have hsn := hs.settled.startsBy (ha.of_suffix (skipNotes_suffix ls))
      (readEntities_succ_within endLine fuel ls)
    have hag := (skipNotes_agree ha h hsn).2
    have hasc := ha.of_suffix (skipNotes_suffix ls)
    have hsuf' := skipNotes_suffix ls'
    have hsuf := skipNotes_suffix ls
    simp only [readEntities] at hs ⊢
    generalize (skipNotes ls).2 = sl at hs hag hasc hsn hsuf ⊢
    generalize (skipNotes ls').2 = sl' at hag hsuf' ⊢
    obtain ⟨⟨n, l⟩, rest, rfl⟩ := hsn.exists_cons
    obtain ⟨rest', rfl, hr⟩ := hag.cons_inv (startsBy_cons.1 hsn)
    by_cases hh : isModuleHeader l = true
    · simp only [hh, ↓reduceIte]
      exact Same.pure ⟨rfl, Agree.cons (startsBy_cons.1 hsn) hr⟩
    · simp only [hh, Bool.false_eq_true, ↓reduceIte] at hs ⊢
      have hent := hs.of_bind fun a hq hd =>
        readEntities_startsFirm (hasc.tail.of_suffix (readEntity_ok_suffix hq))
          (Decided.of_bind_pure hd fun _ => rfl)
      refine Same.bind (readEntity_same endLine endLine' hasc hr hent)
        fun a a' hq hq' hlike => ?_
      obtain ⟨hv, hl⟩ := hlike
      have hlen := (readEntity_ok_suffix hq).length_le
      have hlen' := (readEntity_ok_suffix hq').length_le
      have hl1 := hsuf.length_le
      have hl2 := hsuf'.length_le
      simp only [List.length_cons] at hl1 hl2
      refine Same.bind (ih (by omega) (by omega)
        (hasc.tail.of_suffix (readEntity_ok_suffix hq)) hl
        (Decided.of_bind_pure (hs.bind_ok hq) fun _ => rfl)) fun _ _ _ _ hlike => ?_
      obtain ⟨hv', hl'⟩ := hlike
      exact Same.pure ⟨by rw [hv, hv'], hl'⟩

end SchemaNotation.Notation
