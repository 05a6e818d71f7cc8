import SchemaNotation.Proofs.ReaderAgreement

/-! The first fault of a document. Reading stops at the first line it cannot read, and what it
reports then depends on the lines up to that one only: a text that starts with the same lines
fails in the same way, with the same message and line, whatever follows. -/

namespace SchemaNotation.Notation

open Text Leaves

variable {N : Nat}

/-- Two runs of readers that record milestones, the same up to line `N`: the same outcome up to
that line, and the same milestones. -/
def SameRun {γ : Type} [Leaves γ] (N : Nat) (p p' : Parse γ × Array Milestone) : Prop :=
  Same N p.1 p'.1 ∧ p.2 = p'.2

section Runs

variable {α γ δ : Type} [Leaves γ] [Leaves δ]

theorem SameRun.bind {x x' : ReadM γ} {f f' : γ → ReadM δ} {σ : Array Milestone}
    (hx : SameRun N (x.run.run σ) (x'.run.run σ))
    (hf : ∀ a a' σ', x.run.run σ = (.ok a, σ') → x'.run.run σ = (.ok a', σ') → Like N a a' →
      SameRun N ((f a).run.run σ') ((f' a').run.run σ')) :
    SameRun N ((x >>= f).run.run σ) ((x' >>= f').run.run σ) := by
  rw [run_bind, run_bind]
  obtain ⟨hsame, hσ⟩ := hx
  rcases hq' : x'.run.run σ with ⟨r', σ₂⟩
  rcases hq : x.run.run σ with ⟨_ | a, σ₁⟩
  · rw [hq, hq'] at hsame hσ
    simp only at hsame hσ
    subst hσ
    rw [same_error.1 hsame]
    exact ⟨same_error.2 rfl, rfl⟩
  · rw [hq, hq'] at hsame hσ
    simp only at hsame hσ
    subst hσ
    obtain ⟨a', rfl, hlike⟩ := same_ok.1 hsame
    exact hf a a' σ₁ hq hq' hlike

theorem SameRun.fromParse {p p' : Parse γ} {σ : Array Milestone} (h : Same N p p') :
    SameRun N ((fromParse p).run.run σ) ((fromParse p').run.run σ) :=
  ⟨h, rfl⟩

theorem SameRun.pure {a a' : γ} {σ : Array Milestone} (h : Like N a a') :
    SameRun N ((pure a : ReadM γ).run.run σ) ((pure a' : ReadM γ).run.run σ) :=
  ⟨Same.pure h, rfl⟩

theorem Settled.run_bind_ok {x : ReadM α} {f : α → ReadM γ} {σ σ' : Array Milestone} {a : α}
    (hs : Settled N ((x >>= f).run.run σ).1) (hx : x.run.run σ = (.ok a, σ')) :
    Settled N ((f a).run.run σ').1 := by
  rw [run_bind, hx] at hs
  exact hs

theorem Settled.of_run_bind {ls : Lines} {x : ReadM γ} {f : γ → ReadM δ} {σ : Array Milestone}
    (hs : Settled N ((x >>= f).run.run σ).1) (ha : Ascending ls) (hw : Within ls (x.run.run σ).1)
    (hf : ∀ a σ', x.run.run σ = (.ok a, σ') → Within (left a) ((f a).run.run σ').1) :
    Settled N (x.run.run σ).1 := by
  rcases hq : x.run.run σ with ⟨_ | a, σ'⟩
  · rw [run_bind, hq] at hs
    exact settled_error.2 (settled_error.1 hs)
  · rw [hq] at hw
    have hsa := hs.run_bind_ok hq
    exact settled_ok.2 (hsa.startsBy (ha.of_suffix (within_ok.1 hw)) (hf a σ' hq))

end Runs

theorem readRelationshipBlock_same {ls ls' : Lines} (ha : Ascending ls) (h : Agree N ls ls')
    (σ : Array Milestone) (hs : Settled N ((readRelationshipBlock ls).run.run σ).1) :
    SameRun N ((readRelationshipBlock ls).run.run σ) ((readRelationshipBlock ls').run.run σ) := by
  match ls, ha, h, hs with
  | [], _, _, hs => exact (not_settled_nil (readRelationshipBlock_within [] σ) hs).elim
  | (n, l) :: rest, ha, h, hs =>
    obtain ⟨rest', rfl, hr, hn⟩ := h.cons_of_settled ha (readRelationshipBlock_within _ σ) hs
    simp only [readRelationshipBlock] at hs ⊢
    by_cases hm : (trim l == relationshipBlockMarker) = true
    · simp only [hm, ↓reduceIte] at hs ⊢
      have hrel := hs.of_run_bind ha.tail (relationshipsFrom_within rest) fun a σ' _ => by
        rw [run_reach_bind]
        exact within_pure (List.suffix_refl _)
      refine SameRun.bind (SameRun.fromParse (relationshipsFrom_same ha.tail hr hrel))
        fun a a' σ' _ _ hlike => ?_
      obtain ⟨hv, hl⟩ := hlike
      rw [run_reach_bind, run_reach_bind, hv]
      exact SameRun.pure ⟨rfl, hl⟩
    · simp only [hm, Bool.false_eq_true, ↓reduceIte]
      exact SameRun.pure ⟨rfl, Agree.cons hn hr⟩

theorem description_like {n : Nat} {c : String} {more more' : Lines} (hr : Agree N more more')
    (hf : StartsFirm N ((n, c) :: more)) :
    Like N (if isDescription c (more.head?.map Prod.snd) = true then (some (trim c), more)
        else (none, (n, c) :: more))
      (if isDescription c (more'.head?.map Prod.snd) = true then (some (trim c), more')
        else (none, (n, c) :: more')) := by
  obtain ⟨hn, hnext⟩ := startsFirm_cons.1 hf
  have hd : isDescription c (more'.head?.map Prod.snd) =
      isDescription c (more.head?.map Prod.snd) := by
    rcases hnext with hc | hb
    · simp only [closesText] at hc
      simp [isDescription, hc]
    · rw [hr.head?_eq hb]
  rw [hd]
  split
  · exact ⟨rfl, hr⟩
  · exact ⟨rfl, Agree.cons hn hr⟩

theorem readSection_same (endLine endLine' : Nat) (l : String) {rest rest' : Lines}
    (ha : Ascending rest) (h : Agree N rest rest') (σ : Array Milestone)
    (hs : Settled N ((readSection endLine l rest).run.run σ).1) :
    SameRun N ((readSection endLine l rest).run.run σ) ((readSection endLine' l rest').run.run σ) := by
  have hsb := skipBlank_suffix rest
  simp only [readSection] at hs ⊢
  rcases hb : skipBlank rest with _ | ⟨⟨n, c⟩, more⟩
  · simp only [hb] at hs
    exact absurd (settled_ok.1 hs) startsBy_nil
  · simp only [hb] at hs ⊢
    rw [hb] at hsb
    have hasc : Ascending ((n, c) :: more) := ha.of_suffix hsb
    generalize hd : (if isDescription c (more.head?.map Prod.snd) = true then (some (trim c), more)
      else (none, (n, c) :: more)) = d at hs ⊢
    have hdsuf : d.2 <:+ (n, c) :: more := by
      rw [← hd]
      split
      · exact List.suffix_cons _ _
      · exact List.suffix_refl _
    have hent := hs.of_run_bind (hasc.of_suffix hdsuf) (readEntities_within _ _ d.2)
      fun a σ' _ => by
        rw [run_reach_bind]
        exact within_pure (List.suffix_refl _)
    have hdec := hent.decided fun a hq => readEntities_closed (Nat.lt_succ_self _) hq
    have hfirm : StartsFirm N ((n, c) :: more) := by
      have hfd := readEntities_startsFirm (hasc.of_suffix hdsuf) hdec
      rw [← hd] at hfd
      split at hfd
      · exact startsFirm_cons_of_startsBy hasc hfd.startsBy
      · exact hfd
    have hag := skipBlank_agree ha h (hb ▸ hfirm.startsBy)
    rw [hb] at hag
    obtain ⟨more', hb', hr⟩ := hag.cons_inv (startsFirm_cons.1 hfirm).1
    rw [hb']
    simp only
    have hlike := description_like hr hfirm
    rw [hd] at hlike
    generalize (if isDescription c (more'.head?.map Prod.snd) = true then (some (trim c), more')
      else (none, (n, c) :: more')) = d' at hlike ⊢
    obtain ⟨hv, hl⟩ := hlike
    refine SameRun.bind (SameRun.fromParse (readEntities_same endLine endLine'
      (Nat.lt_succ_self _) (Nat.lt_succ_self _) (hasc.of_suffix hdsuf) hl hdec))
      fun a a' σ' _ _ hlike => ?_
    obtain ⟨hv', hl'⟩ := hlike
    rw [run_reach_bind, run_reach_bind, hv', hv]
    exact SameRun.pure ⟨rfl, hl'⟩

theorem readSections_same (endLine endLine' : Nat) {fuel fuel' : Nat} {ls ls' : Lines}
    (hfuel : ls.length < fuel) (hfuel' : ls'.length < fuel') (ha : Ascending ls)
    (h : Agree N ls ls') (σ : Array Milestone)
    (hs : Settled N ((readSections endLine fuel ls).run.run σ).1) :
    SameRun N ((readSections endLine fuel ls).run.run σ)
      ((readSections endLine' fuel' ls').run.run σ) := by
  induction fuel generalizing fuel' ls ls' σ with
  | zero => omega
  | succ fuel ih =>
    obtain ⟨fuel', rfl⟩ : ∃ f, fuel' = f + 1 := ⟨fuel' - 1, by omega⟩
    have hsn := hs.startsBy (ha.of_suffix (skipNotes_suffix ls))
      (readSections_succ_within endLine fuel ls σ)
    have hag := (skipNotes_agree ha h hsn).2
    have hasc := ha.of_suffix (skipNotes_suffix ls)
    have hsuf := skipNotes_suffix ls
    have hsuf' := skipNotes_suffix ls'
    simp only [readSections] at hs ⊢
    generalize (skipNotes ls).2 = sl at hs hag hasc hsn hsuf ⊢
    generalize (skipNotes ls').2 = sl' at hag hsuf' ⊢
    obtain ⟨⟨n, l⟩, rest, rfl⟩ := hsn.exists_cons
    obtain ⟨rest', rfl, hr⟩ := hag.cons_inv (startsBy_cons.1 hsn)
    by_cases hh : isModuleHeader l = true
    · simp only [hh, ↓reduceIte] at hs ⊢
      have hsec := hs.of_run_bind hasc.tail (readSection_within endLine l rest σ)
        fun a σ' _ => within_run_bind (readSections_within endLine fuel a.2 σ') fun _ _ _ =>
          within_pure (List.suffix_refl _)
      refine SameRun.bind (readSection_same endLine endLine' l hasc.tail hr σ hsec)
        fun a a' σ' hq hq' hlike => ?_
      obtain ⟨hv, hl⟩ := hlike
      have hw : a.2 <:+ rest := (readSection_within endLine l rest σ).2 a (by rw [hq])
      have hw' : a'.2 <:+ rest' := (readSection_within endLine' l rest' σ).2 a' (by rw [hq'])
      have hl1 := hsuf.length_le
      have hl2 := hsuf'.length_le
      have hl3 := hw.length_le
      have hl4 := hw'.length_le
      simp only [List.length_cons] at hl1 hl2
      have hmore := (hs.run_bind_ok hq).of_run_bind (hasc.tail.of_suffix hw)
        (readSections_within endLine fuel a.2 σ') fun _ _ _ => within_pure (List.suffix_refl _)
      refine SameRun.bind (ih (by omega) (by omega) (hasc.tail.of_suffix hw) hl σ' hmore)
        fun _ _ _ _ _ hlike => ?_
      obtain ⟨hv', hl'⟩ := hlike
      exact SameRun.pure ⟨by rw [hv, hv'], hl'⟩
    · simp only [hh, Bool.false_eq_true, ↓reduceIte]
      exact SameRun.pure ⟨rfl, Agree.cons (startsBy_cons.1 hsn) hr⟩

theorem readSchema_same (endLine endLine' : Nat) {ls ls' : Lines} (ha : Ascending ls)
    (h : Agree N ls ls') (σ : Array Milestone)
    (hs : Settled N ((readSchema endLine ls).run.run σ).1) :
    SameRun N ((readSchema endLine ls).run.run σ) ((readSchema endLine' ls').run.run σ) := by
  match ls, ha, h, hs with
  | [], _, _, hs => exact (not_settled_nil (readSchema_within endLine [] σ) hs).elim
  | (n, l) :: rest, ha, h, hs =>
    obtain ⟨rest', rfl, hr, -⟩ := h.cons_of_settled ha (readSchema_within endLine _ σ) hs
    simp only [readSchema] at hs ⊢
    by_cases hm : (trim l != schemaBlockMarker) = true
    · simp only [hm, ↓reduceIte]
      exact ⟨same_error.2 rfl, rfl⟩
    · simp only [hm, Bool.false_eq_true, ↓reduceIte] at hs ⊢
      have hasc := ha.tail.of_suffix (readModuleList_suffix rest)
      have hsec := hs.of_run_bind hasc (readSections_within endLine _ _ σ) fun _ _ _ =>
        within_pure (List.suffix_refl _)
      have hml := hsec.startsBy hasc (readSections_within endLine _ _ σ)
      obtain ⟨hmods, hag⟩ := readModuleList_agree ha.tail hr hml
      rw [← hmods]
      refine SameRun.bind (readSections_same endLine endLine' (Nat.lt_succ_self _)
        (Nat.lt_succ_self _) hasc hag σ hsec) fun _ _ _ _ _ hlike => ?_
      obtain ⟨hv, hl⟩ := hlike
      exact SameRun.pure ⟨by rw [hv], hl⟩

/-- Reading with `x` from the lines `ls`, against reading with `x'` from lines that agree with
them up to line `N`: each fault of `x` other than a missing line names a line of `ls`, and one
found by line `N` is the fault of `x'` too. -/
def FaultsAgree {β : Type} (N : Nat) (ls : Lines) (x x' : ReadM β) (σ : Array Milestone) :
    Prop :=
  ∀ e, (x.run.run σ).1 = .error e → e.fault.kind ≠ .endOfInput →
    (∃ y ∈ ls, e.line = some y.1) ∧ (FaultBy N e → (x'.run.run σ).1 = .error e)

section Faults

variable {β γ : Type} [Leaves γ]

theorem FaultsAgree.mono {ls ls' : Lines} {x x' : ReadM β} {σ : Array Milestone}
    (h : FaultsAgree N ls x x' σ) (hs : ls <:+ ls') : FaultsAgree N ls' x x' σ := by
  intro e he hk
  obtain ⟨⟨y, hy, hye⟩, hsame⟩ := h e he hk
  exact ⟨⟨y, hs.subset hy, hye⟩, hsame⟩

-- A first step that agrees once settled, followed by steps whose faults agree: the fault of the
-- whole is found either by the first step, which is then settled, or on a line the first step
-- left, which it then left by line `N`.
theorem FaultsAgree.bind {ls : Lines} {x x' : ReadM γ} {f f' : γ → ReadM β}
    {σ : Array Milestone} (ha : Ascending ls) (hw : Within ls (x.run.run σ).1)
    (hx : Settled N (x.run.run σ).1 → SameRun N (x.run.run σ) (x'.run.run σ))
    (hf : ∀ a a' σ', x.run.run σ = (.ok a, σ') → Like N a a' →
      FaultsAgree N (left a) (f a) (f' a') σ') :
    FaultsAgree N ls (x >>= f) (x' >>= f') σ := by
  intro e he hk
  rw [run_bind] at he ⊢
  rcases hq : x.run.run σ with ⟨_ | a, σ₁⟩
  · rw [hq] at he hw
    simp only [Except.error.injEq] at he
    subst he
    refine ⟨within_error.1 hw hk, fun hby => ?_⟩
    obtain ⟨hsame, hσ⟩ := hx (by rw [hq]; exact settled_error.2 hby)
    rw [hq] at hsame hσ
    rcases hq' : x'.run.run σ with ⟨r', σ₂⟩
    rw [hq'] at hsame hσ
    simp only at hsame hσ
    rw [same_error.1 hsame]
  · rw [hq] at he hw
    have hsuf := within_ok.1 hw
    have hasc := ha.of_suffix hsuf
    obtain ⟨⟨y, hy, hye⟩, -⟩ := hf a a σ₁ hq (like_refl N a hasc) e he hk
    refine ⟨⟨y, hsuf.subset hy, hye⟩, fun hby => ?_⟩
    -- the fault is on a line left by `x`, so `x` had decided by line `N`
    obtain ⟨-, M, hM, hMN⟩ := hby
    rw [hye, Option.some.injEq] at hM
    obtain ⟨hsame, hσ⟩ := hx (by rw [hq]; exact settled_ok.2 (startsBy_of_mem hasc hy (hM ▸ hMN)))
    rw [hq] at hsame hσ
    rcases hq' : x'.run.run σ with ⟨r', σ₂⟩
    rw [hq'] at hsame hσ
    simp only at hsame hσ
    subst hσ
    obtain ⟨a', rfl, hlike⟩ := same_ok.1 hsame
    exact (hf a a' σ₁ hq hlike e he hk).2 ⟨hk, M, hM ▸ hye, hMN⟩

theorem FaultsAgree.after_notes {ls ls' : Lines} (x x' : Lines → ReadM γ) {f f' : γ → ReadM β}
    {σ : Array Milestone} (ha : Ascending ls) (h : Agree N ls ls')
    (hw : ∀ ls, Within ls ((x ls).run.run σ).1)
    (hx : ∀ ls ls', Ascending ls → Agree N ls ls' → Settled N ((x ls).run.run σ).1 →
      SameRun N ((x ls).run.run σ) ((x' ls').run.run σ))
    (hf : ∀ a a' σ', (x (skipNotes ls).2).run.run σ = (.ok a, σ') → Like N a a' →
      FaultsAgree N (left a) (f a) (f' a') σ') :
    FaultsAgree N ls (x (skipNotes ls).2 >>= f) (x' (skipNotes ls').2 >>= f') σ := by
  have hasc := ha.of_suffix (skipNotes_suffix ls)
  refine (FaultsAgree.bind hasc (hw _) (fun hs => ?_) hf).mono (skipNotes_suffix ls)
  exact hx _ _ hasc (skipNotes_agree ha h (hs.startsBy hasc (hw _))).2 hs

theorem left_suffix_of_run {ls : Lines} {x : ReadM γ} {σ σ' : Array Milestone} {a : γ}
    (hw : Within ls (x.run.run σ).1) (hq : x.run.run σ = (.ok a, σ')) : left a <:+ ls := by
  rw [hq] at hw
  exact within_ok.1 hw

end Faults

section Numbering

/-- Lines numbered from `k + 1` on. -/
def numberFrom (k : Nat) (xs : List String) : Lines := (xs.zipIdx k).map fun p => (p.2 + 1, p.1)

theorem numberLines_eq (text : String) : numberLines text = numberFrom 0 (Text.lines text) := rfl

@[simp] theorem numberFrom_nil (k : Nat) : numberFrom k [] = [] := rfl

@[simp] theorem numberFrom_cons (k : Nat) (x : String) (xs : List String) :
    numberFrom k (x :: xs) = (k + 1, x) :: numberFrom (k + 1) xs := rfl

theorem mem_numberFrom {k : Nat} {xs : List String} {y : Nat × String} (hy : y ∈ numberFrom k xs) :
    k < y.1 ∧ y.1 ≤ k + xs.length := by
  induction xs generalizing k with
  | nil => cases hy
  | cons x xs ih =>
    rcases List.mem_cons.1 hy with rfl | hy
    · simp
    · have := ih hy
      simp only [List.length_cons]
      omega

theorem numberFrom_ascending (k : Nat) (xs : List String) : Ascending (numberFrom k xs) := by
  induction xs generalizing k with
  | nil => exact List.Pairwise.nil
  | cons x xs ih =>
    exact List.pairwise_cons.2 ⟨fun y hy => (mem_numberFrom hy).1, ih (k + 1)⟩

theorem numberFrom_agree {N k : Nat} {xs ys : List String} (h : ys.take (N - k) = xs.take (N - k)) :
    Agree N (numberFrom k xs) (numberFrom k ys) := by
  induction xs generalizing ys k with
  | nil =>
    by_cases hk : N ≤ k
    · exact .beyond (fun _ hy => nomatch hy) fun y hy => by have := (mem_numberFrom hy).1; omega
    · have h' : ys.take (N - k) = [] := by simpa using h
      obtain rfl : ys = [] := (List.take_eq_nil_iff.1 h').resolve_left (by omega)
      exact .beyond (fun _ hy => nomatch hy) (fun _ hy => nomatch hy)
  | cons x xs ih =>
    by_cases hk : N ≤ k
    · exact .beyond (fun y hy => by have := (mem_numberFrom hy).1; omega)
        fun y hy => by have := (mem_numberFrom hy).1; omega
    · obtain ⟨m, hm⟩ : ∃ m, N - k = m + 1 := ⟨N - k - 1, by omega⟩
      rw [hm] at h
      cases ys with
      | nil => simp at h
      | cons y ys =>
        simp only [List.take_succ_cons, List.cons.injEq] at h
        obtain ⟨rfl, h⟩ := h
        exact .cons (by simp; omega) (ih (by rw [show N - (k + 1) = m by omega]; exact h))

end Numbering

/-- A document is read up to its first fault: from lines that agree with its own up to the line
of that fault, reading meets the same fault, whatever the number of lines. -/
theorem readDocument_faultsAgree {t t' : String} (ha : Ascending (numberLines t))
    (h : Agree N (numberLines t) (numberLines t')) (σ : Array Milestone) :
    FaultsAgree N (numberLines t) (readDocument t) (readDocument t') σ := by
  simp only [readDocument]
  have hasc := ha.of_suffix (skipBlank_suffix _)
  refine (FaultsAgree.bind hasc (readFrontMatter_within _) (fun hs => SameRun.fromParse
    (readFrontMatter_same hasc (skipBlank_agree ha h (hs.startsBy hasc (readFrontMatter_within _)))
      hs)) ?_).mono (skipBlank_suffix _)
  intro a₁ a₁' σ₁ hq₁ hlike₁
  have ha₁ := hasc.of_suffix (left_suffix_of_run (readFrontMatter_within _) hq₁)
  refine FaultsAgree.after_notes (fun ls => fromParse (readHeader ls))
    (fun ls => fromParse (readHeader ls)) ha₁ hlike₁.2 (fun ls => readHeader_within ls)
    (fun _ _ ha h hs => SameRun.fromParse (readHeader_same ha h hs)) ?_
  intro a₂ a₂' σ₂ hq₂ hlike₂
  have ha₂ := (ha₁.of_suffix (skipNotes_suffix _)).of_suffix
    (left_suffix_of_run (readHeader_within _) hq₂)
  refine FaultsAgree.after_notes readRelationshipBlock readRelationshipBlock ha₂ hlike₂.2
    (fun ls => readRelationshipBlock_within ls σ₂)
    (fun _ _ ha h hs => readRelationshipBlock_same ha h σ₂ hs) ?_
  intro a₃ a₃' σ₃ hq₃ hlike₃
  have ha₃ := (ha₂.of_suffix (skipNotes_suffix _)).of_suffix
    (left_suffix_of_run (readRelationshipBlock_within _ σ₂) hq₃)
  refine FaultsAgree.after_notes (readSchema _) (readSchema _) ha₃ hlike₃.2
    (fun ls => readSchema_within _ ls σ₃)
    (fun _ _ ha h hs => readSchema_same _ _ ha h σ₃ hs) ?_
  intro a₄ a₄' σ₄ hq₄ hlike₄
  have ha₄ : Ascending a₄.2 := (ha₃.of_suffix (skipNotes_suffix _)).of_suffix
    (left_suffix_of_run (readSchema_within _ _ σ₃) hq₄)
  have hsuf := skipNotes_suffix a₄.2
  intro e he hk
  revert he
  rcases hs₄ : (skipNotes a₄.2).2 with _ | ⟨⟨n, l⟩, more⟩
  · intro he
    rw [run_reach_bind] at he
    cases he
  · intro he
    simp only [run_throw, Except.error.injEq] at he
    subst he
    rw [hs₄] at hsuf
    refine ⟨⟨(n, l), hsuf.subset List.mem_cons_self, rfl⟩, fun hby => ?_⟩
    obtain ⟨-, M, hM, hMN⟩ := hby
    simp only [Option.some.injEq] at hM
    subst hM
    have hag := (skipNotes_agree ha₄ hlike₄.2 (by rw [hs₄]; exact startsBy_cons.2 hMN)).2
    rw [hs₄] at hag
    obtain ⟨more', hs₄', -⟩ := hag.cons_inv hMN
    rw [hs₄']
    rfl

end SchemaNotation.Notation

namespace SchemaNotation.Document

open Notation

/-- A text that fails to read, for a reason other than ending too soon, fails on one of its
lines, and every text with the same lines up to that one fails the same way: the same fault,
message and line, whatever follows. -/
theorem read_error_determined_by_prefix {t : String} {e : ParseError} (he : read t = .error e)
    (hk : e.fault.kind ≠ .endOfInput) :
    ∃ N, e.line = some N ∧ 1 ≤ N ∧ N ≤ (Text.lines t).length ∧
      ∀ t', (Text.lines t').take N = (Text.lines t).take N → read t' = .error e := by
  have ha : Ascending (numberLines t) := by
    rw [numberLines_eq]
    exact numberFrom_ascending 0 _
  obtain ⟨⟨y, hy, hye⟩, -⟩ :=
    readDocument_faultsAgree ha (Agree.refl ha : Agree 0 _ _) #[] e he hk
  have hb := mem_numberFrom hy
  refine ⟨y.1, hye, by omega, by omega, fun t' ht => ?_⟩
  have hag : Agree y.1 (numberLines t) (numberLines t') := by
    rw [numberLines_eq, numberLines_eq]
    exact numberFrom_agree (by simpa using ht)
  exact (readDocument_faultsAgree ha hag #[] e he hk).2 ⟨hk, y.1, hye, le_rfl⟩

theorem eq_error_of_check {α : Type} {r : Parse α} {e : ParseError}
    (h : (match r with | .error e' => decide (e' = e) | .ok _ => false) = true) :
    r = .error e := by
  cases r with
  | error e' =>
    simp only [decide_eq_true_eq] at h
    rw [h]
  | ok _ => cases h

theorem read_error_determined_by_prefix_header :
    read "@x" = .error ⟨.headerExtension, some 1⟩ ∧
      ∃ N, (some 1 : Option Nat) = some N ∧ 1 ≤ N ∧ N ≤ (Text.lines "@x").length ∧
        ∀ t', (Text.lines t').take N = (Text.lines "@x").take N →
          read t' = .error ⟨.headerExtension, some 1⟩ := by
  have he : read "@x" = .error ⟨.headerExtension, some 1⟩ := eq_error_of_check (by decide +kernel)
  exact ⟨he, read_error_determined_by_prefix he (by decide)⟩

end SchemaNotation.Document
