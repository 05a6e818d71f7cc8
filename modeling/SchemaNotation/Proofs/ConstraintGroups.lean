import SchemaNotation.Proofs.ConstraintItems

/-! The printed constraint groups of a field read back as its constraints.

The printer writes a field's constraints in groups, each the printed constraints joined by
commas (`joinGroup`), a new group only where a constraint would not open one of its own after the
one before it: `Style.constraintGroups` is `List.splitBy` on `opensAfter`
(`constraintGroups_eq_splitBy`). Read back, a group of spelt constraints gives them exactly when
each opens a constraint of its own after the one before (`readConstraintList_joinGroup`); at the
first that does not, it goes on with the value of the one before, which then differs from the
constraint that was printed (`foldlM_addItem_of_not_isChain`).

So when every item of every group closes the brackets and quotations it opens, the printed groups
read back as the constraints, and no split of them into fewer groups does
(`constraintGroups_read_back`). An item that leaves a bracket open cannot share a group:
`DEFAULT:(` then swallows the constraint printed after it (`constraintGroups_open_bracket`). -/

namespace SchemaNotation.Notation

open Text

/-- A group of constraints as the printer writes it. -/
def joinGroup (g : List Constraint) : String := ",".intercalate (g.map Constraint.render)

theorem intercalate_flatten (sep : String) :
    ∀ {pss : List (List String)}, (∀ ps ∈ pss, ps ≠ []) →
      sep.intercalate (pss.map sep.intercalate) = sep.intercalate pss.flatten
  | [], _ => rfl
  | [ps], _ => by simp
  | ps :: qs :: pss, h => by
    have hps := h ps List.mem_cons_self
    have hrest : ∀ ps ∈ qs :: pss, ps ≠ [] := fun p hp => h p (List.mem_cons_of_mem _ hp)
    have hflat : (qs :: pss).flatten ≠ [] := by
      rw [List.flatten_cons]
      exact List.append_ne_nil_of_left_ne_nil (hrest qs List.mem_cons_self) _
    rw [List.flatten_cons, String.intercalate_append_of_ne_nil hps hflat, List.map_cons,
      String.intercalate_cons_of_ne_nil (by simp), intercalate_flatten sep hrest]

theorem parts_of_closes : ∀ {ps : List String}, ps ≠ [] → (∀ x ∈ ps, Closes x) → Parts "," ps
  | [], h, _ => absurd rfl h
  | [x], _, hc => .last (by rw [hc x List.mem_cons_self]; exact Option.some_ne_none _)
  | x :: y :: ps, _, hc =>
    .cons (hc x List.mem_cons_self)
      (parts_of_closes (List.cons_ne_nil y ps) fun z hz => hc z (List.mem_cons_of_mem x hz))

theorem isBlankText_intercalate {x : String} (hx : ClosedItem x) (rest : List String) :
    isBlankText (",".intercalate (x :: rest)) = false := by
  have hhead := trimList_head x.toList
  rw [trimList_of_trim hx.trim_eq] at hhead
  have hne : x.toList ≠ [] := by simpa using hx.ne_empty
  obtain ⟨c, cs, hcs⟩ := List.exists_cons_of_ne_nil hne
  refine isBlankText_eq_false_iff.2 ⟨c, ?_, hhead c (by simp [hcs])⟩
  cases rest with
  | nil => simp [hcs]
  | cons y rest => simp [hcs]

theorem exists_forall₂_spelled : ∀ {G : List Constraint}, (∀ c ∈ G, Spelt c) →
    ∃ pss, List.Forall₂ Spelled G pss
  | [], _ => ⟨[], .nil⟩
  | c :: G, h => by
    obtain ⟨ps, hps⟩ := h c List.mem_cons_self
    obtain ⟨pss, hpss⟩ := exists_forall₂_spelled fun d hd => h d (List.mem_cons_of_mem c hd)
    exact ⟨ps :: pss, .cons hps hpss⟩

section Spellings

variable {G : List Constraint} {pss : List (List String)}

theorem joinGroup_eq (hG : List.Forall₂ Spelled G pss) :
    joinGroup G = ",".intercalate pss.flatten := by
  have hmap : G.map Constraint.render = pss.map (",".intercalate ·) := by
    induction hG with
    | nil => rfl
    | cons hcps _ ih => rw [List.map_cons, List.map_cons, ih, hcps.render]
  have hne : ∀ ps ∈ pss, ps ≠ [] :=
    forall_mem_of_forall₂ (fun _ _ h => Spelled.ne_nil h) hG
  rw [joinGroup, hmap, intercalate_flatten "," hne]

theorem closedItem_flatten (hG : List.Forall₂ Spelled G pss) :
    ∀ x ∈ pss.flatten, ClosedItem x := by
  intro x hx
  obtain ⟨ps, hps, hx⟩ := List.mem_flatten.1 hx
  exact forall_mem_of_forall₂ (S := fun ps => ∀ x ∈ ps, ClosedItem x) (fun _ _ h => h.pieces) hG
    ps hps x hx

theorem splitTopLevel_joinGroup (hG : List.Forall₂ Spelled G pss) (hne : G ≠ []) :
    isBlankText (joinGroup G) = false ∧ splitTopLevel (joinGroup G) "," = pss.flatten := by
  obtain ⟨c, G', rfl⟩ := List.exists_cons_of_ne_nil hne
  obtain ⟨ps, pss', rfl, hc⟩ : ∃ ps pss', pss = ps :: pss' ∧ Spelled c ps := by
    cases hG with
    | cons hc _ => exact ⟨_, _, rfl, hc⟩
  obtain ⟨x, tl, hx⟩ := List.exists_cons_of_ne_nil hc.ne_nil
  have hflat : (ps :: pss').flatten = x :: (tl ++ pss'.flatten) := by simp [hx]
  have hitems := closedItem_flatten hG
  rw [joinGroup_eq hG]
  refine ⟨?_, ?_⟩
  · rw [hflat]
    exact isBlankText_intercalate (hitems x (by simp [hflat])) _
  · exact splitTopLevel_intercalate
      (parts_of_closes (by simp [hflat]) fun x hx => (hitems x hx).closes)

end Spellings

section Reading

variable {group : String} {line : Option Nat}

theorem foldlM_addItem_chain : ∀ {G : List Constraint} {pss : List (List String)}
    {s : List Constraint}, List.Forall₂ Spelled G pss →
    G.IsChain (fun p c => opensAfter p c = true) →
    (∀ p ∈ s.head?, ∀ c ∈ G.head?, opensAfter p c = true) →
    pss.flatten.foldlM (addItem group line) s = .ok (G.reverse ++ s)
  | _, _, _, .nil, _, _ => rfl
  | c :: G, ps :: pss, st, .cons hc hG, hchain, hst => by
    rw [List.flatten_cons, List.foldlM_append,
      hc.foldlM_addItem group line fun p hp => hst p hp c rfl]
    have hrest := foldlM_addItem_chain (s := c :: st) hG hchain.tail
      fun p hp d hd => by
        cases hp
        exact (List.isChain_cons.1 hchain).1 d hd
    change pss.flatten.foldlM (addItem group line) (c :: st) = _
    simpa using hrest

/-- A printed group of spelt constraints, each of which opens one of its own after the one
before it, reads back as these constraints. -/
theorem readConstraintList_joinGroup {G : List Constraint} {pss : List (List String)}
    (hG : List.Forall₂ Spelled G pss) (hne : G ≠ [])
    (hchain : G.IsChain (fun p c => opensAfter p c = true)) :
    readConstraintList (joinGroup G) line = .ok G := by
  obtain ⟨hblank, hsplit⟩ := splitTopLevel_joinGroup hG hne
  refine readConstraintList_eq_ok.2 ⟨hblank, _, ?_, List.reverse_reverse _⟩
  rw [hsplit, foldlM_addItem_chain (s := []) hG hchain (by simp), List.append_nil]

theorem takeItem_keeps {T S : List Constraint} {x : Constraint} {v : String}
    (hx : ∃ w, x.value = some (v ++ "," ++ w)) (item : String) :
    ∃ T' x', takeItem (T ++ x :: S) item = T' ++ x' :: S ∧
      ∃ w, x'.value = some (v ++ "," ++ w) := by
  cases T with
  | nil =>
    simp only [List.nil_append, takeItem]
    split
    · exact ⟨[itemConstraint item], x, rfl, hx⟩
    · obtain ⟨w, hw⟩ := hx
      exact ⟨[], absorb x item, rfl, w ++ "," ++ item, by simp [absorb, hw, String.append_assoc]⟩
  | cons t T =>
    simp only [List.cons_append, takeItem]
    split
    · exact ⟨itemConstraint item :: t :: T, x, rfl, hx⟩
    · exact ⟨absorb t item :: T, x, rfl, hx⟩

theorem foldlM_addItem_keeps {S : List Constraint} {v : String} :
    ∀ {items : List String} {T : List Constraint} {x : Constraint} {done : List Constraint},
      (∃ w, x.value = some (v ++ "," ++ w)) →
      items.foldlM (addItem group line) (T ++ x :: S) = .ok done →
      ∃ T' x', done = T' ++ x' :: S ∧ ∃ w, x'.value = some (v ++ "," ++ w)
  | [], T, x, done, hx, h => by
    cases h
    exact ⟨T, x, rfl, hx⟩
  | raw :: items, T, x, done, hx, h => by
    rw [List.foldlM_cons] at h
    obtain ⟨d, hd, hrest⟩ := bind_eq_ok h
    obtain ⟨-, rfl⟩ := addItem_eq_ok.1 hd
    obtain ⟨T', x', htake, hx'⟩ := takeItem_keeps (S := S) hx (trim raw)
    rw [htake] at hrest
    exact foldlM_addItem_keeps hx' hrest

theorem ne_of_value_eq_append {x x' : Constraint} {v w : String} (hx : x.value = some v)
    (hx' : x'.value = some (v ++ "," ++ w)) : x' ≠ x := by
  rintro rfl
  have hlen := congrArg String.length (Option.some.inj (hx.symm.trans hx'))
  have hcomma : ",".length = 1 := rfl
  rw [String.length_append, String.length_append, hcomma] at hlen
  omega

/-- A printed group in which some constraint does not open one of its own after the one before
reads back with that one changed. -/
theorem foldlM_addItem_of_not_isChain : ∀ {G : List Constraint} {pss : List (List String)}
    {s done : List Constraint}, List.Forall₂ Spelled G pss →
    ¬ G.IsChain (fun p c => opensAfter p c = true) →
    (∀ p ∈ s.head?, ∀ c ∈ G.head?, opensAfter p c = true) →
    pss.flatten.foldlM (addItem group line) s = .ok done →
    ∃ A x x' B B', G = A ++ x :: B ∧ done.reverse = s.reverse ++ A ++ x' :: B' ∧ x' ≠ x
  | [], _, _, _, _, hchain, _, _ => absurd List.IsChain.nil hchain
  | [c], _, _, _, _, hchain, _, _ => absurd (List.IsChain.singleton c) hchain
  | c :: c' :: G, ps :: ps' :: pss, st, done, .cons hc (.cons hc' hG), hchain, hst, h => by
    rw [List.flatten_cons, List.foldlM_append,
      hc.foldlM_addItem group line fun p hp => hst p hp c rfl] at h
    change (ps' :: pss).flatten.foldlM (addItem group line) (c :: st) = _ at h
    by_cases hcc : opensAfter c c' = true
    · have hnot : ¬ (c' :: G).IsChain (fun p c => opensAfter p c = true) := fun hg =>
        hchain (List.isChain_cons_cons.2 ⟨hcc, hg⟩)
      obtain ⟨A, x, x', B, B', hG', hdone, hne⟩ :=
        foldlM_addItem_of_not_isChain (.cons hc' hG) hnot
          (fun p hp d hd => by cases hp; cases hd; exact hcc) h
      exact ⟨c :: A, x, x', B, B', by simp [hG'], by simp [hdone], hne⟩
    · obtain ⟨hd, tl, rfl, hfirst⟩ := hc'.addItem_first
      rw [List.flatten_cons, List.cons_append, List.foldlM_cons,
        hfirst group line c st (by simpa using hcc)] at h
      obtain ⟨v, hv⟩ := Option.isSome_iff_exists.1
        (isSome_of_opensConstraint_eq_false (show opensAfter c c' = false by simpa using hcc))
      change (tl ++ pss.flatten).foldlM (addItem group line) ([] ++ absorb c hd :: st) = _ at h
      obtain ⟨T', x', hdone, w, hw⟩ :=
        foldlM_addItem_keeps (v := v) ⟨hd, by simp [absorb, hv]⟩ h
      exact ⟨[], c, x', c' :: G, T'.reverse, rfl, by simp [hdone], ne_of_value_eq_append hv hw⟩

end Reading

section Runs

variable {α : Type} {r : α → α → Bool}

theorem foldl_groups_eq_loop {step : List (List α) → α → List (List α)}
    (hstep : ∀ p g more c, step ((p :: g) :: more) c =
      if r p c then (c :: p :: g) :: more else [c] :: (p :: g) :: more) :
    ∀ (l : List α) (a : α) (g : List α) (gs : List (List α)),
      (l.foldl step ((a :: g) :: gs.map List.reverse)).reverse.map List.reverse =
        List.splitBy.loop r l a g gs
  | [], a, g, gs => by simp [List.splitBy.loop]
  | b :: l, a, g, gs => by
    rw [List.foldl_cons, hstep, List.splitBy.loop]
    cases hr : r a b
    · simpa using foldl_groups_eq_loop hstep l b [] ((a :: g).reverse :: gs)
    · simpa using foldl_groups_eq_loop hstep l b (a :: g) gs

theorem length_splitBy_append_le {l m : List α} (hl : l.IsChain fun x y => r x y = true) :
    ((l ++ m).splitBy r).length ≤ (m.splitBy r).length + 1 := by
  rcases eq_or_ne l [] with rfl | hl0
  · simp
  rcases eq_or_ne m [] with rfl | hm0
  · simp [List.splitBy_of_isChain hl0 hl]
  by_cases hbreak : ∀ x ∈ l.getLast?, ∀ y ∈ m.head?, r x y = false
  · simp [List.splitBy_append hbreak, List.splitBy_of_isChain hl0 hl]
  · obtain ⟨H, rest, hsplit⟩ :=
      List.exists_cons_of_ne_nil (List.splitBy_ne_nil.2 hm0 : m.splitBy r ≠ [])
    have hH : H ≠ [] := List.ne_nil_of_mem_splitBy (hsplit ▸ List.mem_cons_self)
    have hm : m = H ++ rest.flatten := by
      rw [← List.flatten_splitBy r m, hsplit, List.flatten_cons]
    have hjoin : ∀ x ∈ l.getLast?, ∀ y ∈ H.head?, r x y = true := by
      intro x hx y hy
      simp only [not_forall, Bool.not_eq_false] at hbreak
      obtain ⟨x', hx', y', hy', hr⟩ := hbreak
      rw [hm, List.head?_append_of_ne_nil _ hH] at hy'
      rwa [Option.mem_unique hx hx', Option.mem_unique hy hy']
    have hruns := List.isChain_cons.1 (hsplit ▸ List.isChain_getLast_head_splitBy r m)
    have hsplit' : (l ++ m).splitBy r = (l ++ H) :: rest := by
      refine List.splitBy_eq_iff.2 ⟨by simp [hm], ?_, ?_, ?_⟩
      · have := hsplit ▸ List.nil_notMem_splitBy r m
        simp_all
      · intro G hG
        rcases List.mem_cons.1 hG with rfl | hG
        · exact hl.append (List.isChain_of_mem_splitBy (hsplit ▸ List.mem_cons_self)) hjoin
        · exact List.isChain_of_mem_splitBy (hsplit ▸ List.mem_cons_of_mem H hG)
      · refine List.isChain_cons.2 ⟨fun y hy => ?_, hruns.2⟩
        obtain ⟨ha, hb, hr⟩ := hruns.1 y hy
        exact ⟨by simp [hH], hb, by rwa [List.getLast_append_of_ne_nil _ ha]⟩
    simp [hsplit', hsplit]

theorem length_splitBy_flatten_le :
    ∀ {P : List (List α)}, (∀ G ∈ P, G.IsChain fun x y => r x y = true) →
      (P.flatten.splitBy r).length ≤ P.length
  | [], _ => by simp
  | G :: P, h => by
    have hG := length_splitBy_append_le (m := P.flatten) (h G List.mem_cons_self)
    have ih := length_splitBy_flatten_le fun G' hG' => h G' (List.mem_cons_of_mem G hG')
    rw [List.flatten_cons, List.length_cons]
    omega

end Runs

/-- The printer starts a new group exactly where a constraint would not open one of its own after
the one before it. -/
theorem constraintGroups_eq_splitBy (cs : List Constraint) :
    Style.constraintGroups cs = (cs.splitBy opensAfter).map joinGroup := by
  cases cs with
  | nil => rfl
  | cons c cs =>
    -- the groups are built last first, each of them last first, as by the loop of `splitBy`
    have hloop (step : List (List Constraint) → Constraint → List (List Constraint))
        (hstep : ∀ p g more d, step ((p :: g) :: more) d =
          if opensAfter p d then (d :: p :: g) :: more else [d] :: (p :: g) :: more) :
        ((cs.foldl step [[c]]).reverse.map fun g =>
            ",".intercalate (g.reverse.map Constraint.render)) =
          ((c :: cs).splitBy opensAfter).map joinGroup := by
      have h := foldl_groups_eq_loop hstep cs c [] []
      rw [List.map_nil] at h
      rw [List.splitBy, ← h, List.map_map]
      rfl
    rw [Style.constraintGroups, List.foldl_cons]
    exact hloop _ fun _ _ _ _ => rfl

theorem chains_of_read_back {line : Option Nat} : ∀ {P : List (List Constraint)},
    (∀ c ∈ P.flatten, Spelt c) →
    (P.map joinGroup).flatMapM (readConstraintList · line) = .ok P.flatten →
    ∀ G ∈ P, G.IsChain (fun p c => opensAfter p c = true)
  | [], _, _ => by simp
  | G :: P, hs, h => by
    obtain ⟨L, L', hL, hL', hsum⟩ := flatMapM_cons_eq_ok h
    obtain ⟨pss, hG⟩ := exists_forall₂_spelled (G := G) fun c hc =>
      hs c (by rw [List.flatten_cons]; exact List.mem_append_left _ hc)
    have hne : G ≠ [] := by
      rintro rfl
      simp [joinGroup, readConstraintList_eq_ok, isBlankText] at hL
    have hchain : G.IsChain (fun p c => opensAfter p c = true) := by
      -- a break inside the group would change the constraint before it
      by_contra hnot
      obtain ⟨-, done, hfold, hrev⟩ := readConstraintList_eq_ok.1 hL
      rw [(splitTopLevel_joinGroup hG hne).2] at hfold
      obtain ⟨A, x, x', B, B', rfl, hdone, hxx⟩ :=
        foldlM_addItem_of_not_isChain (s := []) hG hnot (by simp) hfold
      rw [← hrev, hdone] at hsum
      simp only [List.reverse_nil, List.nil_append, List.flatten_cons, List.append_assoc,
        List.cons_append, List.append_cancel_left_eq, List.cons.injEq] at hsum
      exact hxx hsum.1
    have hLG : L = G := Except.ok.inj (hL.symm.trans (readConstraintList_joinGroup hG hne hchain))
    subst hLG
    rw [List.flatten_cons, List.append_cancel_left_eq] at hsum
    intro G' hG'
    rcases List.mem_cons.1 hG' with rfl | hG'
    · exact hchain
    · refine chains_of_read_back (fun c hc => hs c ?_) (hsum ▸ hL') G' hG'
      rw [List.flatten_cons]
      exact List.mem_append_right _ hc

/-- When every item of every group closes the brackets and quotations it opens, the printed groups
of the constraints read back as the constraints, and no split of the constraints into fewer
groups, printed the same way, does. -/
theorem constraintGroups_read_back {groups : List String} {line : Option Nat}
    {cs : List Constraint} (h : groups.flatMapM (readConstraintList · line) = .ok cs)
    (hclosed : ∀ g ∈ groups, ∀ item ∈ splitTopLevel g ",",
      scan "," item.toList (0, none) = some (0, none)) :
    (Style.constraintGroups cs).flatMapM (readConstraintList · line) = .ok cs ∧
      ∀ parts : List (List Constraint), parts.flatten = cs →
        (parts.map fun g => ",".intercalate (g.map Constraint.render)).flatMapM
          (readConstraintList · line) = .ok cs →
        (Style.constraintGroups cs).length ≤ parts.length := by
  have hspelt : ∀ c ∈ cs, Spelt c := spelt_of_flatMapM h hclosed
  rw [constraintGroups_eq_splitBy]
  refine ⟨?_, fun parts hflat hread => ?_⟩
  · have hgroups : ∀ G ∈ cs.splitBy opensAfter,
        readConstraintList (joinGroup G) line = .ok G := by
      intro G hG
      obtain ⟨pss, hpss⟩ := exists_forall₂_spelled fun c hc =>
        hspelt c (List.flatten_splitBy opensAfter cs ▸ List.mem_flatten.2 ⟨G, hG, hc⟩)
      exact readConstraintList_joinGroup hpss (List.ne_nil_of_mem_splitBy hG)
        (List.isChain_of_mem_splitBy hG)
    rw [flatMapM_map_eq_ok hgroups, List.flatten_splitBy]
  · subst hflat
    rw [List.length_map]
    exact length_splitBy_flatten_le (chains_of_read_back hspelt hread)

theorem constraintGroups_read_back_enum :
    ["ENUM:a, b", "PK"].flatMapM (readConstraintList · none) =
        .ok [⟨"ENUM", some "a,b"⟩, ⟨"PK", none⟩] ∧
      (∀ g ∈ ["ENUM:a, b", "PK"], ∀ item ∈ splitTopLevel g ",",
        scan "," item.toList (0, none) = some (0, none)) ∧
      ((Style.constraintGroups [⟨"ENUM", some "a,b"⟩, ⟨"PK", none⟩]).flatMapM
          (readConstraintList · none) = .ok [⟨"ENUM", some "a,b"⟩, ⟨"PK", none⟩] ∧
        ∀ parts : List (List Constraint), parts.flatten = [⟨"ENUM", some "a,b"⟩, ⟨"PK", none⟩] →
          (parts.map fun g => ",".intercalate (g.map Constraint.render)).flatMapM
            (readConstraintList · none) = .ok [⟨"ENUM", some "a,b"⟩, ⟨"PK", none⟩] →
          (Style.constraintGroups [⟨"ENUM", some "a,b"⟩, ⟨"PK", none⟩]).length ≤
            parts.length) := by
  have h : ["ENUM:a, b", "PK"].flatMapM (readConstraintList · none) =
      .ok [⟨"ENUM", some "a,b"⟩, ⟨"PK", none⟩] := by decide +kernel
  have hclosed : ∀ g ∈ ["ENUM:a, b", "PK"], ∀ item ∈ splitTopLevel g ",",
      scan "," item.toList (0, none) = some (0, none) := by decide
  exact ⟨h, hclosed, constraintGroups_read_back h hclosed⟩

/-- A value that leaves a bracket open takes in the constraint printed after it in its group. -/
theorem constraintGroups_open_bracket :
    ["DEFAULT:(", "PK"].flatMapM (readConstraintList · none) =
        .ok [⟨"DEFAULT", some "("⟩, ⟨"PK", none⟩] ∧
      Style.constraintGroups [⟨"DEFAULT", some "("⟩, ⟨"PK", none⟩] = ["DEFAULT:(,PK"] ∧
      ["DEFAULT:(,PK"].flatMapM (readConstraintList · none) =
        .ok [⟨"DEFAULT", some "(,PK"⟩] := by
  decide +kernel

end SchemaNotation.Notation
