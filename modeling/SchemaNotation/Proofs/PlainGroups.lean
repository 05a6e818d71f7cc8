import SchemaNotation.Proofs.LineText
import SchemaNotation.Proofs.ConstraintGroups

/-! Constraint texts that every reading of brackets sees alike.

Three readings look at the brackets of a constraint group: `splitTopLevel` counts brackets of
every kind outside quotations, `commentFrom` counts them all and ignores quotations, and
`groupFrom` counts square brackets outside quotations. On a text whose brackets balance and
whose quotations close and hold no bracket (`Plain`), all three follow the closers still due
(`owedAfter`): the scan of `splitTopLevel` their number (`scan_of_runs`), `groupFrom` the number
of square ones among them (`groupFrom_of_runs`). So a plain group ends at the bracket that closes
it (`groupFrom_plain`), and every top-level part of a plain text closes (`closes_of_plain`).

A read constraint is spelt by closed items as soon as the top-level parts of its printed form
close (`spelt_of_readConstraintList_pieces`): only the last item of a group may be open, and it
then leaves the printed form open too. So the printed groups of read constraints with plain
printed forms are plain and read back as the constraints (`constraintGroups_plain`). -/

namespace SchemaNotation.Notation

open Text

/-- One character of a reading of quotations: the mark of the quotation open after it, or `none`
when it is a bracket inside a quotation. -/
def quoteStep : Option Char → Char → Option (Option Char)
  | none, c => some (if isQuote c then some c else none)
  | some q, c =>
    if c == q then some none
    else if isOpener c || isCloser c then none
    else some (some q)

/-- The quotation open after `cs`, or `none` if a bracket stands inside a quotation in `cs`. -/
def quoteAfter : List Char → Option Char → Option (Option Char)
  | [], q => some q
  | c :: cs, q => (quoteStep q c).bind (quoteAfter cs)

theorem quoteAfter_append (a b : List Char) (q : Option Char) :
    quoteAfter (a ++ b) q = (quoteAfter a q).bind (quoteAfter b) := by
  induction a generalizing q with
  | nil => rfl
  | cons c a ih =>
    simp only [List.cons_append, quoteAfter]
    cases quoteStep q c with
    | none => rfl
    | some q' => exact ih q'

/-- A text whose brackets balance and whose quotations close and hold no bracket. -/
def Plain (s : String) : Prop := balanced s = true ∧ quoteAfter s.toList none = some none

instance : DecidablePred Plain := fun _ => inferInstanceAs (Decidable (_ ∧ _))

theorem quote_not_bracket {c : Char} (h : isQuote c = true) :
    isOpener c = false ∧ isCloser c = false := by
  simp only [isQuote, Bool.or_eq_true, beq_iff_eq] at h
  rcases h with rfl | rfl <;> exact ⟨rfl, rfl⟩

theorem owedStep_closer {owed o : List Char} {c d : Char} (ho : isOpener c = false)
    (hc : isCloser c = true) (h : owedStep (d :: o) c = some owed) : d = c ∧ owed = o := by
  simp only [owedStep, ho, hc, Bool.false_eq_true, ↓reduceIte] at h
  split at h
  · rename_i hd
    exact ⟨by simpa using hd, (Option.some.inj h).symm⟩
  · cases h

theorem owedStep_of_not_bracket {c : Char} (ho : isOpener c = false) (hc : isCloser c = false)
    (owed : List Char) : owedStep owed c = some owed := by
  simp [owedStep, ho, hc]

theorem quoteStep_some {q : Option Char} {q0 : Char} {c : Char} (hq0 : isQuote q0 = true)
    (h : quoteStep (some q0) c = some q) :
    isOpener c = false ∧ isCloser c = false ∧ q = if c == q0 then none else some q0 := by
  simp only [quoteStep] at h
  by_cases hc : c = q0
  · subst hc
    simp only [beq_self_eq_true, ↓reduceIte, Option.some.injEq] at h
    exact ⟨(quote_not_bracket hq0).1, (quote_not_bracket hq0).2, by simp [h]⟩
  · have hne : (c == q0) = false := beq_eq_false_iff_ne.2 hc
    simp only [hne, Bool.false_eq_true, ↓reduceIte] at h
    split at h
    · cases h
    · rename_i hb
      simp only [Bool.or_eq_true, not_or, Bool.not_eq_true] at hb
      exact ⟨hb.1, hb.2, by simp [hne, (Option.some.inj h).symm]⟩

theorem quoteStep_quote {q q' : Option Char} {c : Char} (hq : ∀ x ∈ q, isQuote x = true)
    (h : quoteStep q c = some q') : ∀ x ∈ q', isQuote x = true := by
  cases q with
  | none =>
    simp only [quoteStep, Option.some.injEq] at h
    subst h
    intro x hx
    split at hx
    · cases hx
      assumption
    · cases hx
  | some q0 =>
    obtain ⟨-, -, rfl⟩ := quoteStep_some (hq q0 rfl) h
    intro x hx
    split at hx
    · cases hx
    · cases hx
      exact hq q0 rfl

theorem scanStep_of_steps {owed o : List Char} {q q' : Option Char} {c : Char}
    (hq : QuoteOk (owed.length, q)) (ho : owedStep owed c = some o)
    (hq' : quoteStep q c = some q') :
    scanStep "," (owed.length, q) c = none ∨
      scanStep "," (owed.length, q) c = some (o.length, q') := by
  cases q with
  | some q0 =>
    obtain ⟨hop, hcl, rfl⟩ := quoteStep_some (hq q0 rfl) hq'
    rw [owedStep_of_not_bracket hop hcl] at ho
    cases ho
    exact .inr (by simp [scanStep])
  | none =>
    simp only [quoteStep, Option.some.injEq] at hq'
    subst hq'
    by_cases hqc : isQuote c = true
    · obtain ⟨hop, hcl⟩ := quote_not_bracket hqc
      rw [owedStep_of_not_bracket hop hcl] at ho
      cases ho
      exact .inr (by simp [scanStep, hqc])
    · rcases owedStep_cases ho with ⟨hop, rfl⟩ | ⟨hop, hcl, d, rfl⟩ | ⟨hop, hcl, rfl⟩
      · exact .inr (by simp [scanStep, hqc, hop])
      · exact .inr (by simp [scanStep, hqc, hop, hcl])
      · simp only [scanStep, hqc, hop, hcl, Bool.false_eq_true, ↓reduceIte, Bool.false_and]
        split
        · exact .inl rfl
        · exact .inr rfl

/-- Over a text whose quotations hold no bracket, the scan of `splitTopLevel` counts the closers
still due, up to a separator at the top level. -/
theorem scan_of_runs : ∀ {cs owed o : List Char} {q q' : Option Char},
    QuoteOk (owed.length, q) → owedAfter cs owed = some o → quoteAfter cs q = some q' →
    scan "," cs (owed.length, q) = none ∨ scan "," cs (owed.length, q) = some (o.length, q')
  | [], _, _, _, _, _, ho, hq' => by
    cases ho
    cases hq'
    exact .inr rfl
  | c :: cs, owed, o, q, q', hq, ho, hq' => by
    obtain ⟨o1, ho1, ho⟩ := Option.bind_eq_some_iff.1 ho
    obtain ⟨q1, hq1, hq'⟩ := Option.bind_eq_some_iff.1 hq'
    simp only [scan]
    rcases scanStep_of_steps hq ho1 hq1 with h | h
    · exact .inl (by rw [h]; rfl)
    · rw [h, Option.bind_some]
      exact scan_of_runs (scanStep_quoteOk hq h) ho hq'

theorem groupFrom_of_steps {owed o : List Char} {q q' : Option Char} {c : Char}
    (hq : ∀ x ∈ q, isQuote x = true) (ho : owedStep owed c = some o)
    (hq' : quoteStep q c = some q') (rest acc : List Char) :
    groupFrom (c :: rest) (1 + owed.count ']') q acc =
      groupFrom rest (1 + o.count ']') q' (c :: acc) := by
  cases q with
  | some q0 =>
    obtain ⟨hop, hcl, rfl⟩ := quoteStep_some (hq q0 rfl) hq'
    rw [owedStep_of_not_bracket hop hcl] at ho
    cases ho
    rfl
  | none =>
    simp only [quoteStep, Option.some.injEq] at hq'
    subst hq'
    by_cases hqc : isQuote c = true
    · obtain ⟨hop, hcl⟩ := quote_not_bracket hqc
      rw [owedStep_of_not_bracket hop hcl] at ho
      cases ho
      simp [groupFrom, hqc]
    · rcases owedStep_cases ho with ⟨hop, rfl⟩ | ⟨hop, hcl, d, rfl⟩ | ⟨hop, hcl, rfl⟩
      · simp only [isOpener, Bool.or_eq_true, beq_iff_eq] at hop
        rcases hop with ((rfl | rfl) | rfl) | rfl <;> simp [groupFrom, closerOf, isQuote, Nat.add_assoc]
      · obtain ⟨rfl, -⟩ := owedStep_closer hop hcl ho
        simp only [isCloser, Bool.or_eq_true, beq_iff_eq] at hcl
        rcases hcl with ((rfl | rfl) | rfl) | rfl <;> simp [groupFrom, isQuote, Nat.add_comm]
      · have h1 : c ≠ '[' := by rintro rfl; cases hop
        have h2 : c ≠ ']' := by rintro rfl; cases hcl
        simp [groupFrom, hqc, h1, h2]

/-- Over a text whose quotations hold no bracket, `groupFrom` counts the square closers still
due, one above them. -/
theorem groupFrom_of_runs {cs : List Char} :
    ∀ {owed o : List Char} {q q' : Option Char}, (∀ x ∈ q, isQuote x = true) →
      owedAfter cs owed = some o → quoteAfter cs q = some q' → ∀ rest acc,
      groupFrom (cs ++ rest) (1 + owed.count ']') q acc =
        groupFrom rest (1 + o.count ']') q' (cs.reverse ++ acc) := by
  induction cs with
  | nil =>
    intro owed o q q' _ ho hq' rest acc
    cases ho
    cases hq'
    rfl
  | cons c cs ih =>
    intro owed o q q' hq ho hq' rest acc
    obtain ⟨o1, ho1, ho⟩ := Option.bind_eq_some_iff.1 ho
    obtain ⟨q1, hq1, hq'⟩ := Option.bind_eq_some_iff.1 hq'
    rw [List.cons_append, groupFrom_of_steps hq ho1 hq1, ih (quoteStep_quote hq hq1) ho hq']
    simp

/-- A plain group ends at the bracket that closes it. -/
theorem groupFrom_plain {g : String} (hg : Plain g) (rest : List Char) :
    groupFrom (g.toList ++ ']' :: rest) 1 none [] = some (g.toList, rest) := by
  have howed : owedAfter g.toList [] = some [] := (balancedFrom_iff _ _).1 hg.1
  have h := groupFrom_of_runs (by simp) howed hg.2 (']' :: rest) []
  simp only [List.count_nil, Nat.add_zero, List.append_nil] at h
  rw [h]
  simp [groupFrom, isQuote]

theorem Plain.append_comma {a b : String} (ha : Plain a) (hb : Plain b) : Plain (a ++ "," ++ b) := by
  have hoa : owedAfter a.toList [] = some [] := (balancedFrom_iff _ _).1 ha.1
  have hob : owedAfter b.toList [] = some [] := (balancedFrom_iff _ _).1 hb.1
  refine ⟨(balancedFrom_iff _ _).2 ?_, ?_⟩
  · simp [owedAfter_append, hoa, hob, owedAfter, owedStep, isOpener, isCloser]
  · simp [quoteAfter_append, ha.2, hb.2, quoteAfter, quoteStep, isQuote]

theorem Plain.intercalate : ∀ {ps : List String}, ps ≠ [] → (∀ p ∈ ps, Plain p) →
    Plain (",".intercalate ps)
  | [], h, _ => absurd rfl h
  | [p], _, h => by simpa using h p List.mem_cons_self
  | p :: q :: ps, _, h => by
    rw [String.intercalate_cons_cons]
    exact (h p List.mem_cons_self).append_comma
      (Plain.intercalate (List.cons_ne_nil q ps) fun x hx => h x (List.mem_cons_of_mem p hx))

theorem Plain.of_closes {p r : String} (hp : Closes p) (h : Plain (p ++ "," ++ r)) : Plain r := by
  obtain ⟨hb, hq⟩ := h
  have htext : (p ++ "," ++ r).toList = p.toList ++ ',' :: r.toList := by simp
  rw [balanced, balancedFrom_iff, htext, owedAfter_append] at hb
  rw [htext, quoteAfter_append] at hq
  obtain ⟨o, ho, hb⟩ := Option.bind_eq_some_iff.1 hb
  obtain ⟨q, hq1, hq⟩ := Option.bind_eq_some_iff.1 hq
  -- the scan of `splitTopLevel` comes back to the top level after `p`: nothing is due there
  have hscan := scan_of_runs quoteOk_start ho hq1
  rw [show ([] : List Char).length = 0 from rfl, show scan "," p.toList (0, none) = some (0, none)
    from hp] at hscan
  obtain ⟨ho0, rfl⟩ : 0 = o.length ∧ none = q := by simpa using hscan
  obtain rfl := List.eq_nil_of_length_eq_zero ho0.symm
  refine ⟨(balancedFrom_iff _ _).2 ?_, ?_⟩
  · simpa [owedAfter, owedStep, isOpener, isCloser] using hb
  · simpa [quoteAfter, quoteStep, isQuote] using hq

theorem closes_of_parts : ∀ {ps : List String}, Parts "," ps → Plain (",".intercalate ps) →
    ∀ p ∈ ps, Closes p
  | _, .last (p := p) hp, h => by
    intro x hx
    obtain rfl := List.mem_singleton.1 hx
    have hscan := scan_of_runs quoteOk_start ((balancedFrom_iff _ _).1 h.1) (by simpa using h.2)
    simp only [List.length_nil] at hscan
    exact hscan.resolve_left hp
  | p :: ps, .cons hp hps, h => by
    obtain ⟨p', ps', rfl⟩ := List.exists_cons_of_ne_nil hps.ne_nil
    rw [String.intercalate_cons_cons] at h
    intro x hx
    rcases List.mem_cons.1 hx with rfl | hx
    · exact hp
    · exact closes_of_parts hps (h.of_closes hp) x hx

/-- Every top-level part of a plain text closes the brackets and quotations it opens. -/
theorem closes_of_plain {s : String} (h : Plain s) : ∀ p ∈ splitTopLevel s ",", Closes p := by
  obtain ⟨hparts, hjoin⟩ := splitTopLevel_parts s ","
  rw [← hjoin] at h
  exact closes_of_parts hparts h

theorem Parts.eq_append_last {ps : List String} (h : Parts "," ps) :
    ∃ init last, ps = init ++ [last] ∧ (∀ x ∈ init, Closes x) ∧
      scan "," last.toList (0, none) ≠ none := by
  induction h with
  | last hp => exact ⟨[], _, rfl, by simp, hp⟩
  | @cons p ps hp _ ih =>
    obtain ⟨init, last, rfl, hinit, hlast⟩ := ih
    refine ⟨p :: init, last, rfl, fun x hx => ?_, hlast⟩
    rcases List.mem_cons.1 hx with rfl | hx
    · exact hp
    · exact hinit x hx

theorem parts_of_init_last : ∀ {init : List String} {last : String}, (∀ x ∈ init, Closes x) →
    scan "," last.toList (0, none) ≠ none → Parts "," (init ++ [last])
  | [], _, _, hl => .last hl
  | x :: _, _, hi, hl =>
    .cons (hi x List.mem_cons_self) (parts_of_init_last (fun y hy => hi y (List.mem_cons_of_mem x hy)) hl)

theorem takeItem_eq_cons (done : List Constraint) (item : String) :
    ∃ c tl, takeItem done item = c :: tl ∧ ∀ d ∈ tl, d ∈ done := by
  cases done with
  | nil => exact ⟨_, [], rfl, fun _ h => nomatch h⟩
  | cons p rest =>
    simp only [takeItem]
    split
    · exact ⟨_, _, rfl, fun _ h => h⟩
    · exact ⟨_, _, rfl, fun d h => List.mem_cons_of_mem p h⟩

theorem closes_of_takeItem {done : List Constraint} {item : String} (hdone : ∀ c ∈ done, Spelt c)
    (hlast : scan "," item.toList (0, none) ≠ none) {c : Constraint} {tl : List Constraint}
    (ht : takeItem done item = c :: tl) (hc : ∀ p ∈ splitTopLevel c.render ",", Closes p) :
    Closes item := by
  have halike := alike_render_itemConstraint item
  have hopen (hc : ∀ p ∈ splitTopLevel (itemConstraint item).render ",", Closes p) :
      Closes item := by
    have hone : splitTopLevel (",".intercalate [(itemConstraint item).render]) "," =
        [(itemConstraint item).render] :=
      splitTopLevel_intercalate (.last (by rwa [halike.scan_start]))
    rw [String.intercalate_singleton] at hone
    have h := hc (itemConstraint item).render (by simp [hone])
    rwa [Closes, halike.scan_start] at h
  cases done with
  | nil =>
    cases ht
    exact hopen hc
  | cons p rest =>
    simp only [takeItem] at ht
    split at ht
    · cases ht
      exact hopen hc
    · rename_i hop
      cases ht
      obtain ⟨ps, hps⟩ := hdone p List.mem_cons_self
      have hrender : (absorb p item).render = ",".intercalate (ps ++ [item]) := by
        rw [render_absorb (by simpa using hop), hps.render,
          String.intercalate_append_of_ne_nil hps.ne_nil (List.cons_ne_nil _ _)]
        simp
      have hsplit : splitTopLevel (absorb p item).render "," = ps ++ [item] := by
        rw [hrender]
        exact splitTopLevel_intercalate
          (parts_of_init_last (fun x hx => (hps.pieces x hx).closes) hlast)
      exact hc item (by simp [hsplit])

/-- A constraint read from a group is spelt by closed items as soon as the top-level parts of its
printed form all close. -/
theorem spelt_of_readConstraintList_pieces {group : String} {line : Option Nat}
    {L : List Constraint} (h : readConstraintList group line = .ok L) :
    ∀ c ∈ L, (∀ p ∈ splitTopLevel c.render ",", Closes p) → Spelt c := by
  obtain ⟨-, done, hfold, rfl⟩ := readConstraintList_eq_ok.1 h
  obtain ⟨init, last, hitems, hinit, hlast⟩ := (splitTopLevel_parts group ",").1.eq_append_last
  rw [hitems, List.foldlM_append] at hfold
  obtain ⟨mid, hmid, hend⟩ := bind_eq_ok hfold
  have hspelt := foldlM_addItem_spelt hinit hmid fun _ h => nomatch h
  have hstep : addItem group line mid last = .ok done := by simpa using hend
  obtain ⟨hacc, rfl⟩ := addItem_eq_ok.1 hstep
  have hlast' : scan "," (trim last).toList (0, none) ≠ none := by
    rwa [(alike_trim last).scan_start]
  obtain ⟨x, tl, ht, htl⟩ := takeItem_eq_cons mid (trim last)
  intro c hc hpieces
  rw [List.mem_reverse, ht] at hc
  rcases List.mem_cons.1 hc with rfl | hc
  · have hclose := closes_of_takeItem hspelt hlast' ht hpieces
    exact spelt_takeItem hclose (trim_trim last) hacc hspelt c (by simp [ht])
  · exact hspelt c (htl c hc)

theorem spelt_of_flatMapM_pieces {line : Option Nat} :
    ∀ {groups : List String} {cs : List Constraint},
      groups.flatMapM (readConstraintList · line) = .ok cs →
      ∀ c ∈ cs, (∀ p ∈ splitTopLevel c.render ",", Closes p) → Spelt c
  | [], cs, h => by
    cases h
    intro c hc
    cases hc
  | g :: groups, cs, h => by
    obtain ⟨L, L', hL, hL', rfl⟩ := flatMapM_cons_eq_ok h
    intro c hc
    rcases List.mem_append.1 hc with hc | hc
    · exact spelt_of_readConstraintList_pieces hL c hc
    · exact spelt_of_flatMapM_pieces hL' c hc

/-- The printed groups of read constraints whose printed forms are plain are plain, and read back
as the constraints. -/
theorem constraintGroups_plain {groups : List String} {line : Option Nat} {cs : List Constraint}
    (h : groups.flatMapM (readConstraintList · line) = .ok cs)
    (hplain : ∀ c ∈ cs, Plain c.render) (line' : Option Nat) :
    (Style.constraintGroups cs).flatMapM (readConstraintList · line') = .ok cs ∧
      ∀ g ∈ Style.constraintGroups cs, Plain g := by
  have hspelt : ∀ c ∈ cs, Spelt c := fun c hc =>
    spelt_of_flatMapM_pieces h c hc (closes_of_plain (hplain c hc))
  have hmem {G : List Constraint} (hG : G ∈ cs.splitBy opensAfter) {c : Constraint}
      (hc : c ∈ G) : c ∈ cs :=
    List.flatten_splitBy opensAfter cs ▸ List.mem_flatten.2 ⟨G, hG, hc⟩
  rw [constraintGroups_eq_splitBy]
  refine ⟨?_, ?_⟩
  · have hgroups : ∀ G ∈ cs.splitBy opensAfter,
        readConstraintList (joinGroup G) line' = .ok G := by
      intro G hG
      obtain ⟨pss, hpss⟩ := exists_forall₂_spelled fun c hc => hspelt c (hmem hG hc)
      exact readConstraintList_joinGroup hpss (List.ne_nil_of_mem_splitBy hG)
        (List.isChain_of_mem_splitBy hG)
    rw [flatMapM_map_eq_ok hgroups, List.flatten_splitBy]
  · intro g hg
    obtain ⟨G, hG, rfl⟩ := List.mem_map.1 hg
    refine Plain.intercalate (by simpa using List.ne_nil_of_mem_splitBy hG) fun p hp => ?_
    obtain ⟨c, hc, rfl⟩ := List.mem_map.1 hp
    exact hplain c (hmem hG hc)

end SchemaNotation.Notation
