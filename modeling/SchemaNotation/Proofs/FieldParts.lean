import SchemaNotation.Proofs.PlainGroups

/-! What a field line is read into.

`readField_shape` says what every field read from a line with no line break is made of
(`FieldShape`): at least one sigil; names that are trimmed, not empty and hold no comma or colon,
the first not starting with a sigil; a type whose printed form reads back as it; constraints read
from the constraint groups; and a trimmed comment, none of them with a line break. It rests on
`readTypeWith_noBreak`, by which the printed form of a type read from a text with no line break
has none either, and on `groupsFrom_chars`, by which taking the constraint groups out of a text
leaves a type text and groups made only of the text's characters and blanks. -/

namespace SchemaNotation.Notation

open Text

theorem NoBreak.intercalate {sep : String} (hsep : NoBreak sep) :
    ∀ {l : List String}, (∀ x ∈ l, NoBreak x) → NoBreak (sep.intercalate l)
  | [], _ => fun _ h => nomatch h
  | [x], h => by simpa using h x List.mem_cons_self
  | x :: y :: l, h => by
    rw [String.intercalate_cons_cons]
    exact ((h x List.mem_cons_self).append hsep).append
      (NoBreak.intercalate hsep fun z hz => h z (List.mem_cons_of_mem x hz))

theorem subset_intercalate {sep x : String} : ∀ {l : List String}, x ∈ l →
    x.toList ⊆ (sep.intercalate l).toList
  | [y], h => by
    rw [List.mem_singleton.1 h, String.intercalate_singleton]
    exact fun _ h => h
  | y :: z :: l, h => by
    rw [String.intercalate_cons_cons, String.toList_append, String.toList_append]
    rcases List.mem_cons.1 h with rfl | h
    · exact fun c hc => List.mem_append_left _ (List.mem_append_left _ hc)
    · exact fun c hc => List.mem_append_right _ (subset_intercalate h hc)

theorem subset_of_mem_splitTopLevel {s sep p : String} (h : p ∈ splitTopLevel s sep) :
    p.toList ⊆ s.toList := by
  have hjoin := (splitTopLevel_parts s sep).2
  rw [← hjoin]
  exact subset_intercalate h

instance : DecidablePred NoBreak := fun _ => inferInstanceAs (Decidable (∀ c ∈ _, _))

theorem Multiplicity.noBreak_render (m : Multiplicity) : NoBreak m.render := by
  intro c hc
  rcases render_chars m c hc with rfl | rfl | rfl | hd
  · rfl
  · rfl
  · rfl
  · have h := Char.isDigit_iff_toNat.1 hd
    simp only [Char.reduceToNat] at h
    simp only [isLineBreak, Bool.or_eq_false_iff, Bool.and_eq_false_iff, decide_eq_false_iff_not,
      beq_eq_false_iff_ne]
    omega

theorem forall_mem_of_forall₂_mem {α β : Type} {R : α → β → Prop} {S : β → Prop} :
    ∀ {l : List α} {l' : List β}, List.Forall₂ R l l' → (∀ x ∈ l, ∀ y, R x y → S y) →
      ∀ y ∈ l', S y
  | _, _, .nil, _ => fun _ h => nomatch h
  | x :: _, y :: _, .cons hxy hrest, hS => by
    intro z hz
    rcases List.mem_cons.1 hz with rfl | hz
    · exact hS x List.mem_cons_self z hxy
    · exact forall_mem_of_forall₂_mem hrest (fun x' hx' => hS x' (List.mem_cons_of_mem x hx')) z hz

/-- The printed form of a type read from a text with no line break has none either. -/
theorem readTypeWith_noBreak {line : Option Nat} :
    ∀ {fuel : Nat} {text : String} {t : DataType}, readTypeWith fuel text line = .ok t →
      NoBreak text → NoBreak t.render
  | 0, _, _, h, _ => by cases h
  | fuel + 1, text, t, h, hl => by
    have hexpr : NoBreak (trim text) := hl.trim
    simp only [readTypeWith] at h
    generalize trim text = expr at h hexpr
    repeat' split at h
    all_goals try simp only [throw, throwThe, MonadExceptOf.throw, pure, Except.pure, reduceCtorEq,
      Except.ok.injEq] at h
    · obtain ⟨u, hu, rfl⟩ := map_eq_ok h
      have hinner : NoBreak (String.ofList ((expr.toList.drop 6).dropLast)) := hexpr.mono
        fun c hc => List.mem_of_mem_drop (List.mem_of_mem_dropLast (by simpa using hc))
      exact ((by simp [NoBreak, isLineBreak] : NoBreak "Array<").append
        (readTypeWith_noBreak hu hinner)).append (by simp [NoBreak, isLineBreak])
    · subst h
      simp [NoBreak, isLineBreak, DataType.render]
    · rename_i body hbody _
      obtain ⟨props, hp, rfl⟩ := map_eq_ok h
      obtain ⟨blanks, hdrop, -⟩ := objectBody?_some hbody
      have hb : NoBreak body := hexpr.mono fun c hc => List.mem_of_mem_drop (l := expr.toList)
        (i := 4) (by rw [hdrop]; simp [hc])
      rcases readProperties_eq_ok.1 hp with ⟨-, rfl⟩ | ⟨-, hall⟩
      · simp [NoBreak, isLineBreak, DataType.render]
      · have hprops : ∀ p ∈ props, NoBreak (p.1 ++ ": " ++ p.2.render) :=
          forall_mem_of_forall₂_mem hall fun item hitem p hread => by
            obtain ⟨name, typeText, hsplit, -, -, htype, hname⟩ := hread.parts
            have hi : NoBreak item := hb.mono (subset_of_mem_splitTopLevel hitem)
            have hn : NoBreak name := hi.mono fun c hc => by rw [hsplit]; simp [hc]
            have ht : NoBreak typeText := hi.mono fun c hc => by rw [hsplit]; simp [hc]
            rw [hname]
            exact (hn.trim.append (by simp [NoBreak, isLineBreak])).append
              (readTypeWith_noBreak htype ht)
        cases props with
        | nil => simp [NoBreak, isLineBreak, DataType.render]
        | cons p ps =>
          simp only [DataType.render, renderProperties_eq_map]
          refine ((by simp [NoBreak, isLineBreak] : NoBreak "JSON\x7b").append
            (NoBreak.intercalate (by simp [NoBreak, isLineBreak]) ?_)).append
            (by simp [NoBreak, isLineBreak])
          intro x hx
          obtain ⟨q, hq, rfl⟩ := List.mem_map.1 hx
          exact hprops q hq
    · rename_i name body hparts _ _
      subst h
      obtain ⟨blanks, hsplit, -, -⟩ := parametricParts?_some hparts
      have hn : NoBreak name := hexpr.mono fun c hc => by rw [hsplit]; simp [hc]
      exact ((hn.append (by simp [NoBreak, isLineBreak])).append
        (NoBreak.intercalate (by simp [NoBreak, isLineBreak]) (by simp))).append
        (by simp [NoBreak, isLineBreak])
    · rename_i name body hparts _ _
      subst h
      obtain ⟨blanks, hsplit, -, -⟩ := parametricParts?_some hparts
      have hn : NoBreak name := hexpr.mono fun c hc => by rw [hsplit]; simp [hc]
      have hb : NoBreak body := hexpr.mono fun c hc => by rw [hsplit]; simp [hc]
      have hparams : ∀ x ∈ (splitTopLevel (trim body) ",").map trim, NoBreak x := by
        intro x hx
        obtain ⟨y, hy, rfl⟩ := List.mem_map.1 hx
        exact (hb.trim.mono (subset_of_mem_splitTopLevel hy)).trim
      exact ((hn.append (by simp [NoBreak, isLineBreak])).append
        (NoBreak.intercalate (by simp [NoBreak, isLineBreak]) hparams)).append
        (by simp [NoBreak, isLineBreak])
    · rename_i name bounds hparts
      obtain ⟨m, -, rfl⟩ := map_eq_ok h
      obtain ⟨hsplit, -, -⟩ := collectionParts?_some hparts
      have hn : NoBreak name := hexpr.mono fun c hc => by rw [hsplit]; simp [hc]
      exact ((hn.append (by simp [NoBreak, isLineBreak])).append (Multiplicity.noBreak_render m)).append
        (by simp [NoBreak, isLineBreak])
    · subst h
      exact hexpr

theorem groupFrom_eq_some : ∀ {cs : List Char} {depth : Nat} {q : Option Char} {acc content after : List Char},
    groupFrom cs depth q acc = some (content, after) → acc.reverse ++ cs = content ++ ']' :: after
  | [], _, _, _, _, _, h => by cases h
  | c :: cs, depth, some q, acc, content, after, h => by
    simp only [groupFrom] at h
    simpa using groupFrom_eq_some h
  | c :: cs, depth, none, acc, content, after, h => by
    simp only [groupFrom] at h
    split_ifs at h with h1 h2 h3 h4
    · simpa using groupFrom_eq_some h
    · simpa using groupFrom_eq_some h
    · cases h
      simp at h3
      simp [h3]
    · simpa using groupFrom_eq_some h
    · simpa using groupFrom_eq_some h

/-- Whether a bracket right after `previous` is attached to a name. -/
def attachedAfter : Option Char → Bool
  | some p => isAlnum p || p == '_'
  | none => false

theorem groupsFrom_cons (line : Option Nat) (c : Char) (rest : List Char) (p : Option Char)
    (depth : Nat) (kept : List Char) (groups : List String) :
    groupsFrom line (c :: rest) p depth kept groups =
      if c == '[' && depth == 0 then
        match groupFrom rest 1 none [] with
        | none => throw ⟨.unclosedGroup, line⟩
        | some (content, after) =>
          if attachedAfter p && Text.contains (String.ofList content) ".." then
            groupsFrom line after (some ']') depth ((c :: content ++ [']']).reverse ++ kept) groups
          else groupsFrom line after (some ']') depth (' ' :: kept) (String.ofList content :: groups)
      else if isOpener c then groupsFrom line rest (some c) (depth + 1) (c :: kept) groups
      else if isCloser c then
        if depth == 0 then throw ⟨.unexpectedCloser c, line⟩
        else groupsFrom line rest (some c) (depth - 1) (c :: kept) groups
      else groupsFrom line rest (some c) depth (c :: kept) groups := by
  conv_lhs => rw [groupsFrom.eq_def]
  dsimp only
  split_ifs with hc
  · split
    · rename_i heq
      simp [heq]
    · rename_i content after heq
      cases p <;> simp [heq, attachedAfter]
  all_goals rfl

section Chars

variable {Q : Char → Prop}

/-- The type text kept and the groups taken out hold only characters of the text read, and
blanks. -/
theorem groupsFrom_chars (hQ : Q ' ') (line : Option Nat) (cs : List Char) (p : Option Char)
    (depth : Nat) (kept : List Char) (groups : List String) :
    ∀ {kept' : List Char} {groups' : List String},
      groupsFrom line cs p depth kept groups = .ok (kept', groups') →
      (∀ c ∈ cs, Q c) → (∀ c ∈ kept, Q c) → (∀ g ∈ groups, ∀ c ∈ g.toList, Q c) →
      (∀ c ∈ kept', Q c) ∧ ∀ g ∈ groups', ∀ c ∈ g.toList, Q c := by
  induction cs, p, depth, kept, groups using groupsFrom.induct with
  | case1 p depth kept groups hd =>
    intro kept' groups' h
    simp [groupsFrom, hd] at h
  | case2 p depth kept groups hd =>
    intro kept' groups' h _ hk hg
    simp only [bne_iff_ne, ne_eq, Decidable.not_not] at hd
    subst hd
    simp only [groupsFrom, bne_self_eq_false, Bool.false_eq_true, ↓reduceIte, pure, Except.pure,
      Except.ok.injEq, Prod.mk.injEq] at h
    obtain ⟨rfl, rfl⟩ := h
    exact ⟨hk, hg⟩
  | case3 c rest p depth kept groups hc hnone =>
    intro kept' groups' h
    simp [groupsFrom_cons, hc, hnone, throw, throwThe, MonadExceptOf.throw] at h
  | case4 c rest p depth kept groups hc content after hgf _ attached hatt =>
    rename_i ih
    intro kept' groups' h hcs hk hg
    replace hatt : (attachedAfter p && contains (String.ofList content) "..") = true := hatt
    rw [groupsFrom_cons, if_pos hc, hgf] at h
    dsimp only at h
    rw [if_pos hatt] at h
    have hrest : rest = content ++ ']' :: after := by simpa using groupFrom_eq_some hgf
    have hcs' : ∀ x ∈ rest, Q x := fun x hx => hcs x (List.mem_cons_of_mem c hx)
    have hgroup : ∀ x ∈ c :: content ++ [']'], Q x := fun x hx => hcs x (by
      rw [hrest, ← List.cons_append, List.mem_append] at *
      rcases hx with hx | hx
      · exact .inl hx
      · exact .inr (by simp_all))
    refine ih h (fun x hx => hcs' x (by rw [hrest]; simp [hx])) (fun x hx => ?_) hg
    rcases List.mem_append.1 hx with hx | hx
    · exact hgroup x (List.mem_reverse.1 hx)
    · exact hk x hx
  | case5 c rest p depth kept groups hc content after hgf _ attached hatt =>
    rename_i ih
    intro kept' groups' h hcs hk hg
    replace hatt : ¬(attachedAfter p && contains (String.ofList content) "..") = true := hatt
    rw [groupsFrom_cons, if_pos hc, hgf] at h
    dsimp only at h
    rw [if_neg hatt] at h
    have hrest : rest = content ++ ']' :: after := by simpa using groupFrom_eq_some hgf
    have hcs' : ∀ x ∈ rest, Q x := fun x hx => hcs x (List.mem_cons_of_mem c hx)
    refine ih h (fun x hx => hcs' x (by rw [hrest]; simp [hx])) (fun x hx => ?_) (fun g hg' => ?_)
    · rcases List.mem_cons.1 hx with rfl | hx
      · exact hQ
      · exact hk x hx
    · rcases List.mem_cons.1 hg' with rfl | hg'
      · intro x hx
        exact hcs' x (by rw [hrest]; simp [by simpa using hx])
      · exact hg g hg'
  | case6 c rest p depth kept groups hc hop ih =>
    intro kept' groups' h hcs hk hg
    rw [groupsFrom_cons, if_neg hc, if_pos hop] at h
    refine ih h (fun x hx => hcs x (List.mem_cons_of_mem c hx)) (fun x hx => ?_) hg
    rcases List.mem_cons.1 hx with rfl | hx
    · exact hcs _ List.mem_cons_self
    · exact hk x hx
  | case7 c rest p depth kept groups hc hop hcl hd =>
    intro kept' groups' h
    rw [groupsFrom_cons, if_neg hc, if_neg hop, if_pos hcl, if_pos hd] at h
    cases h
  | case8 c rest p depth kept groups hc hop hcl hd ih =>
    intro kept' groups' h hcs hk hg
    rw [groupsFrom_cons, if_neg hc, if_neg hop, if_pos hcl, if_neg hd] at h
    refine ih h (fun x hx => hcs x (List.mem_cons_of_mem c hx)) (fun x hx => ?_) hg
    rcases List.mem_cons.1 hx with rfl | hx
    · exact hcs _ List.mem_cons_self
    · exact hk x hx
  | case9 c rest p depth kept groups hc hop hcl ih =>
    intro kept' groups' h hcs hk hg
    rw [groupsFrom_cons, if_neg hc, if_neg hop, if_neg hcl] at h
    refine ih h (fun x hx => hcs x (List.mem_cons_of_mem c hx)) (fun x hx => ?_) hg
    rcases List.mem_cons.1 hx with rfl | hx
    · exact hcs _ List.mem_cons_self
    · exact hk x hx

theorem trim_chars {s : String} (h : ∀ c ∈ s.toList, Q c) : ∀ c ∈ (trim s).toList, Q c :=
  fun c hc => h c (trim_subset s hc)

theorem append_chars {a b : String} (ha : ∀ c ∈ a.toList, Q c) (hb : ∀ c ∈ b.toList, Q c) :
    ∀ c ∈ (a ++ b).toList, Q c := by
  intro c hc
  rw [String.toList_append, List.mem_append] at hc
  exact hc.elim (ha c) (hb c)

theorem singleton_chars {x : Char} (hx : Q x) : ∀ c ∈ (String.singleton x).toList, Q c := by
  intro c hc
  rw [String.toList_singleton, List.mem_singleton] at hc
  exact hc ▸ hx

theorem itemConstraint_chars {item : String} (hQ : Q ':') (h : ∀ c ∈ item.toList, Q c) :
    ∀ c ∈ (itemConstraint item).render.toList, Q c := by
  obtain ⟨name, value, hname, hvalue, hparts, hv⟩ : ∃ name value : String,
      (∀ c ∈ name.toList, Q c) ∧ (∀ c ∈ value.toList, Q c) ∧
        (itemParts item).1 = trim name ∧ (itemParts item).2.2 = value := by
    cases hb : breakOn? item ":" with
    | none => exact ⟨item, "", h, by simp, by simp [itemParts, hb]⟩
    | some nv =>
      obtain ⟨n, v⟩ := nv
      have hitem := breakOn?_some hb
      refine ⟨n, v, fun c hc => h c ?_, fun c hc => h c ?_, by simp [itemParts, hb]⟩
      · rw [hitem]; simp [hc]
      · rw [hitem]; simp [hc]
  by_cases he : (trim value).isEmpty = true
  · have hc : itemConstraint item = ⟨trim name, none⟩ := by
      simp [itemConstraint, hparts, hv, he]
    rw [hc]
    exact trim_chars hname
  · have hc : itemConstraint item = ⟨trim name, some (trim value)⟩ := by
      simp [itemConstraint, hparts, hv, he]
    rw [hc]
    exact append_chars (append_chars (trim_chars hname) (singleton_chars hQ)) (trim_chars hvalue)

theorem absorb_chars {p : Constraint} {item : String} (hcolon : Q ':') (hcomma : Q ',')
    (hp : ∀ c ∈ p.render.toList, Q c) (h : ∀ c ∈ item.toList, Q c) :
    ∀ c ∈ (absorb p item).render.toList, Q c := by
  obtain ⟨hname, hvalue⟩ : (∀ c ∈ p.name.toList, Q c) ∧ ∀ c ∈ (p.value.getD "").toList, Q c := by
    cases hv : p.value with
    | none =>
      rw [Constraint.render, hv] at hp
      exact ⟨hp, by simp⟩
    | some v =>
      rw [Constraint.render, hv] at hp
      exact ⟨fun c hc => hp c (by simp [hc]), fun c hc => hp c (by simp_all)⟩
  have hrender : (absorb p item).render = p.name ++ ":" ++ (p.value.getD "" ++ "," ++ item) := rfl
  rw [hrender]
  exact append_chars (append_chars hname (singleton_chars hcolon))
    (append_chars (append_chars hvalue (singleton_chars hcomma)) h)

theorem readConstraintList_chars {group : String} {line : Option Nat} {L : List Constraint}
    (hcolon : Q ':') (hcomma : Q ',') (h : readConstraintList group line = .ok L)
    (hg : ∀ c ∈ group.toList, Q c) : ∀ c ∈ L, ∀ x ∈ c.render.toList, Q x := by
  obtain ⟨-, done, hfold, rfl⟩ := readConstraintList_eq_ok.1 h
  have hitems : ∀ item ∈ splitTopLevel group ",", ∀ c ∈ item.toList, Q c :=
    fun item hitem c hc => hg c (subset_of_mem_splitTopLevel hitem hc)
  suffices hrun : ∀ (items : List String) (st st' : List Constraint),
      (∀ item ∈ items, ∀ c ∈ item.toList, Q c) → (∀ c ∈ st, ∀ x ∈ c.render.toList, Q x) →
      items.foldlM (addItem group line) st = .ok st' → ∀ c ∈ st', ∀ x ∈ c.render.toList, Q x by
    intro c hc
    exact hrun _ [] done hitems (fun _ h => nomatch h) hfold c (List.mem_reverse.1 hc)
  intro items
  induction items with
  | nil =>
    intro st st' _ hst h
    cases h
    exact hst
  | cons raw items ih =>
    intro st st' hitems hst h
    rw [List.foldlM_cons] at h
    obtain ⟨mid, hmid, hrest⟩ := bind_eq_ok h
    obtain ⟨-, rfl⟩ := addItem_eq_ok.1 hmid
    refine ih _ _ (fun item hi => hitems item (List.mem_cons_of_mem raw hi)) ?_ hrest
    have hraw := trim_chars (hitems raw List.mem_cons_self)
    cases st with
    | nil =>
      intro c hc
      rw [takeItem, List.mem_singleton] at hc
      exact hc ▸ itemConstraint_chars hcolon hraw
    | cons p rest =>
      intro c hc
      simp only [takeItem] at hc
      split at hc
      · rcases List.mem_cons.1 hc with rfl | hc
        · exact itemConstraint_chars hcolon hraw
        · exact hst c hc
      · rcases List.mem_cons.1 hc with rfl | hc
        · exact absorb_chars hcolon hcomma (hst p List.mem_cons_self) hraw
        · exact hst c (List.mem_cons_of_mem p hc)

theorem flatMapM_readConstraintList_chars {line : Option Nat} (hcolon : Q ':') (hcomma : Q ',') :
    ∀ {groups : List String} {cs : List Constraint},
      groups.flatMapM (readConstraintList · line) = .ok cs →
      (∀ g ∈ groups, ∀ c ∈ g.toList, Q c) → ∀ c ∈ cs, ∀ x ∈ c.render.toList, Q x
  | [], cs, h, _ => by
    cases h
    intro c hc
    cases hc
  | g :: groups, cs, h, hg => by
    obtain ⟨L, L', hL, hL', rfl⟩ := flatMapM_cons_eq_ok h
    intro c hc
    rcases List.mem_append.1 hc with hc | hc
    · exact readConstraintList_chars hcolon hcomma hL (hg g List.mem_cons_self) c hc
    · exact flatMapM_readConstraintList_chars hcolon hcomma hL'
        (fun g' hg' => hg g' (List.mem_cons_of_mem g hg')) c hc

end Chars

theorem sigilsFrom_rest : ∀ {cs : List Char} {acc sigils : List Sigil} {r : List Char},
    sigilsFrom cs acc = (sigils, r) → sigils ≠ [] →
      r <:+ cs ∧ ∀ d ∈ (dropBlanks r).head?, Sigil.ofChar? d = none
  | [], acc, sigils, r, h, _ => by
    simp only [sigilsFrom, Prod.mk.injEq] at h
    obtain ⟨-, rfl⟩ := h
    exact ⟨List.suffix_refl _, fun _ h => nomatch h⟩
  | c :: rest, acc, sigils, r, h, hne => by
    simp only [sigilsFrom] at h
    split_ifs at h with hb
    · obtain ⟨hc, hacc⟩ := Bool.and_eq_true_iff.1 hb
      have hdrop : dropBlanks (c :: rest) = dropBlanks rest :=
        List.dropWhile_cons_of_pos (by simpa using hc)
      split at h
      · rename_i d more hd
        split_ifs at h with hs
        · obtain ⟨hsuf, hhead⟩ := sigilsFrom_rest h hne
          exact ⟨hsuf.trans (List.suffix_cons c rest), hhead⟩
        · obtain ⟨-, rfl⟩ := Prod.mk.inj h
          refine ⟨List.suffix_refl _, fun d' hd' => ?_⟩
          rw [hdrop, hd] at hd'
          cases hd'
          simpa using hs
      · rename_i hd
        obtain ⟨-, rfl⟩ := Prod.mk.inj h
        refine ⟨List.suffix_refl _, fun d' hd' => ?_⟩
        rw [hdrop, hd] at hd'
        cases hd'
    · split at h
      · obtain ⟨hsuf, hhead⟩ := sigilsFrom_rest h hne
        exact ⟨hsuf.trans (List.suffix_cons c rest), hhead⟩
      · rename_i hs
        obtain ⟨rfl, rfl⟩ := Prod.mk.inj h
        have hacc : acc.isEmpty = false := by
          cases acc with
          | nil => exact absurd rfl hne
          | cons _ _ => rfl
        have hc : isBlank c = false := by simpa [hacc] using hb
        refine ⟨List.suffix_refl _, fun d hd => ?_⟩
        rw [dropBlanks, List.dropWhile_cons_of_neg (by simp [hc])] at hd
        cases hd
        exact hs

theorem readSigils_eq_ok {text : String} {line : Option Nat} {sigils : List Sigil} {rest : String}
    (h : readSigils text line = .ok (sigils, rest)) :
    ∃ r, sigilsFrom (trimList text.toList) [] = (sigils, r) ∧ sigils ≠ [] ∧
      rest = trim (String.ofList r) := by
  unfold readSigils at h
  split at h
  · cases h
  · rename_i s r hne hs
    simp only [pure, Except.pure, Except.ok.injEq, Prod.mk.injEq] at h
    obtain ⟨rfl, rfl⟩ := h
    exact ⟨r, hs, hne, rfl⟩

theorem readField_eq_ok {text : String} {line : Option Nat} {f : Field}
    (h : readField text line = .ok f) :
    ∃ rest namesPart remainder content typeText groups,
      readSigils text line = .ok (f.sigils, rest) ∧
      breakOn? rest ":" = some (namesPart, remainder) ∧
      f.names = (namesPart.toList.splitOn ',').map (fun cs => trim (String.ofList cs)) ∧
      f.names.any (·.isEmpty) = false ∧
      splitComment (trim remainder) = (content, f.comment) ∧
      extractGroups content line = .ok (typeText, groups) ∧
      typeText.isEmpty = false ∧
      groups.flatMapM (readConstraintList · line) = .ok f.constraints ∧
      readType typeText line = .ok f.type := by
  simp only [readField, bind, Except.bind, pure, Except.pure, throw, throwThe,
    MonadExceptOf.throw] at h
  split at h
  · cases h
  · rename_i p hsig
    split at h
    · rename_i namesPart remainder hbreak
      split at h
      · cases h
      · rename_i hnames
        split at h
        · cases h
        · rename_i q hgroups
          split at h
          · cases h
          · rename_i htype
            split at h
            · cases h
            · rename_i cs hcs
              split at h
              · cases h
              · rename_i t ht
                cases h
                refine ⟨p.2, namesPart, remainder, (splitComment (trim remainder)).1, q.1, q.2, ?_,
                  hbreak, rfl, by simpa using hnames, Prod.mk.eta.symm, ?_, by simpa using htype,
                  hcs, ht⟩
                · rw [Prod.mk.eta]
                  exact hsig
                · rw [Prod.mk.eta]
                  exact hgroups
    · cases h

theorem extractGroups_eq_ok {content typeText : String} {groups : List String}
    {line : Option Nat} (h : extractGroups content line = .ok (typeText, groups)) :
    ∃ kept gs, groupsFrom line content.toList none 0 [] [] = .ok (kept, gs) ∧
      typeText = trim (String.ofList kept.reverse) ∧ groups = gs.reverse := by
  obtain ⟨⟨kept, gs⟩, hrun, hret⟩ := bind_eq_ok h
  simp only [pure, Except.pure, Except.ok.injEq, Prod.mk.injEq] at hret
  exact ⟨kept, gs, hrun, hret.1.symm, hret.2.symm⟩

theorem mem_splitOn {a : Char} : ∀ {xs l : List Char}, l ∈ xs.splitOn a → a ∉ l ∧ l ⊆ xs
  | [], l, h => by
    rw [List.splitOn_nil, List.mem_singleton] at h
    subst h
    exact ⟨List.not_mem_nil, List.nil_subset _⟩
  | x :: xs, l, h => by
    rw [List.splitOn_cons_eq_if_modifyHead] at h
    obtain ⟨l0, ls, hsplit⟩ := List.exists_cons_of_ne_nil (List.splitOn_ne_nil a xs)
    have hrest (l' : List Char) (hl' : l' ∈ xs.splitOn a) : a ∉ l' ∧ l' ⊆ xs := mem_splitOn hl'
    split at h
    · rcases List.mem_cons.1 h with rfl | h
      · exact ⟨List.not_mem_nil, List.nil_subset _⟩
      · exact ⟨(hrest l h).1, List.Subset.trans (hrest l h).2 (List.subset_cons_self x xs)⟩
    · rename_i hx
      rw [hsplit, List.modifyHead_cons] at h
      rcases List.mem_cons.1 h with rfl | h
      · have h0 := hrest l0 (by rw [hsplit]; exact List.mem_cons_self)
        refine ⟨fun hmem => ?_, List.cons_subset_cons x h0.2⟩
        rcases List.mem_cons.1 hmem with rfl | hmem
        · simp at hx
        · exact h0.1 hmem
      · have hl := hrest l (by rw [hsplit]; exact List.mem_cons_of_mem l0 h)
        exact ⟨hl.1, List.Subset.trans hl.2 (List.subset_cons_self x xs)⟩

theorem head_splitOn_lead {a : Char} : ∀ {xs l : List Char}, l ∈ (xs.splitOn a).head? → l <+: xs
  | [], l, h => by
    rw [List.splitOn_nil] at h
    cases h
    exact List.nil_prefix
  | x :: xs, l, h => by
    rw [List.splitOn_cons_eq_if_modifyHead] at h
    obtain ⟨l0, ls, hsplit⟩ := List.exists_cons_of_ne_nil (List.splitOn_ne_nil a xs)
    split at h
    · cases h
      exact List.nil_prefix
    · rw [hsplit, List.modifyHead_cons] at h
      cases h
      exact List.cons_prefix_cons.2 ⟨rfl, head_splitOn_lead (by rw [hsplit]; rfl)⟩

theorem head?_of_lead {l₁ l₂ : List Char} (h : l₁ <+: l₂) : ∀ c ∈ l₁.head?, c ∈ l₂.head? := by
  obtain ⟨t, rfl⟩ := h
  intro c hc
  cases l₁ with
  | nil => cases hc
  | cons d ds => exact hc

theorem trim_head? (s : String) : ∀ c ∈ (trim s).toList.head?, c ∈ (dropBlanks s.toList).head? := by
  rw [trim, String.toList_ofList]
  exact head?_of_lead (List.rdropWhile_prefix _ _)

/-- What a read field is made of, as far as writing it again goes: sigils; names that are
trimmed, not empty, with no comma and no colon, the first not starting with a sigil; a type
that its printed form reads back as; constraints read from groups; a trimmed comment; and no line
break in any of them. -/
structure FieldShape (f : Field) : Prop where
  sigils_ne : f.sigils ≠ []
  names_ne : f.names ≠ []
  names : ∀ x ∈ f.names, Trimmed x ∧ x ≠ "" ∧ ',' ∉ x.toList ∧ ':' ∉ x.toList
  first_name : ∀ x ∈ f.names.head?, ∀ c ∈ x.toList.head?, Sigil.ofChar? c = none
  type : Respelled f.type.render f.type
  type_noBreak : NoBreak f.type.render
  constraints : ∃ (groups : List String) (line : Option Nat),
    groups.flatMapM (readConstraintList · line) = .ok f.constraints
  constraints_noBreak : ∀ c ∈ f.constraints, NoBreak c.render
  comment : ∀ c ∈ f.comment, Trimmed c

theorem readField_shape {l : String} {n : Option Nat} {f : Field} (hl : NoBreak l)
    (h : readField l n = .ok f) : FieldShape f := by
  obtain ⟨rest, namesPart, remainder, content, typeText, groups, hsig, hbreak, hnames, hany,
    hsplit, hext, hT, hcs, htype⟩ := readField_eq_ok h
  obtain ⟨r, hsf, hne, hrest⟩ := readSigils_eq_ok hsig
  obtain ⟨hsuf, hhead⟩ := sigilsFrom_rest hsf hne
  -- every part is cut from the line, so none holds a line break
  have hr : NoBreak (String.ofList r) := hl.mono fun c hc => by
    obtain ⟨pre, post, hcs, -, -⟩ := trimList_spec l.toList
    rw [String.toList_ofList] at hc
    rw [hcs]
    exact List.mem_append_left _ (List.mem_append_right _ (hsuf.subset hc))
  have hrestText := breakOn?_some hbreak
  have hrestNB : NoBreak rest := hrest ▸ hr.trim
  have hnp : NoBreak namesPart := hrestNB.mono fun c hc => by rw [hrestText]; simp [hc]
  have hrem : NoBreak remainder := hrestNB.mono fun c hc => by rw [hrestText]; simp [hc]
  obtain ⟨hcontent, -, -, -, hcomment⟩ := splitComment_spec hsplit
  have hcontentNB : NoBreak content := hrem.trim.mono hcontent.subset
  obtain ⟨kept, gs, hrun, rfl, rfl⟩ := extractGroups_eq_ok hext
  obtain ⟨hkept, hgs⟩ := groupsFrom_chars (Q := fun c => isLineBreak c = false) rfl n _ _ _ _ _
    hrun hcontentNB (fun _ h => nomatch h) (fun _ h => nomatch h)
  have htypeText : NoBreak (trim (String.ofList kept.reverse)) :=
    NoBreak.trim fun c hc => hkept c (by simpa using hc)
  have hcolon : ':' ∉ namesPart.toList := by
    obtain ⟨⟨b, a⟩, hb, he⟩ := Option.map_eq_some_iff.1 hbreak
    obtain ⟨rfl, rfl⟩ := Prod.mk.inj he
    rw [String.toList_ofList]
    exact breakList?_single hb
  rw [hnames] at hany
  refine ⟨hne, ?_, ?_, ?_, ?_, readTypeWith_noBreak htype htypeText, ⟨gs.reverse, n, hcs⟩, ?_, ?_⟩
  · rw [hnames]
    simp [List.splitOn_ne_nil]
  · rw [hnames]
    intro x hx
    obtain ⟨piece, hpiece, rfl⟩ := List.mem_map.1 hx
    obtain ⟨hcomma, hsub⟩ := mem_splitOn hpiece
    have hpNB : NoBreak (String.ofList piece) := hnp.mono fun c hc => hsub (by simpa using hc)
    refine ⟨trimmed_trim hpNB, fun h0 => ?_, fun hc => hcomma ?_, fun hc => hcolon ?_⟩
    · have := List.any_eq_false.1 hany _ hx
      simp [h0] at this
    · simpa using trim_subset _ hc
    · exact hsub (by simpa using trim_subset _ hc)
  · rw [hnames]
    intro x hx c hc
    obtain ⟨piece, hpiece, rfl⟩ : ∃ piece ∈ (namesPart.toList.splitOn ',').head?,
        trim (String.ofList piece) = x := by
      rw [List.head?_map] at hx
      obtain ⟨piece, hpiece, rfl⟩ := Option.map_eq_some_iff.1 hx
      exact ⟨piece, hpiece, rfl⟩
    have hpre : piece <+: rest.toList :=
      (head_splitOn_lead hpiece).trans (by rw [hrestText]; simp)
    have hc1 := trim_head? _ c hc
    rw [String.toList_ofList] at hc1
    have hsolid := trimList_head r
    have hpc : c ∈ piece.head? := by
      cases piece with
      | nil => cases hc1
      | cons d ds =>
        have hd := head?_of_lead hpre d rfl
        rw [hrest, trim, String.toList_ofList, String.toList_ofList] at hd
        rw [dropBlanks, List.dropWhile_cons_of_neg (by simp [hsolid d hd])] at hc1
        exact hc1
    have hrc := head?_of_lead hpre c hpc
    rw [hrest] at hrc
    exact hhead c (by simpa using trim_head? _ c hrc)
  · exact ⟨Alike.refl _, (readTypeWith_respelled htype).trimmed, (readTypeWith_respelled htype).reads⟩
  · exact flatMapM_readConstraintList_chars (Q := fun c => isLineBreak c = false) rfl rfl hcs
      fun g hg c hc => hgs g (List.mem_reverse.1 hg) c hc
  · intro x hx
    obtain ⟨htrim, hsub⟩ := hcomment x hx
    exact ⟨hrem.trim.mono hsub, htrim⟩

end SchemaNotation.Notation
