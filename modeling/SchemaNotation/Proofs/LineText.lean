import SchemaNotation.Proofs.ReadForms
import SchemaNotation.Proofs.InlineComment
import SchemaNotation.Proofs.FieldColumns

/-! The texts of written lines, as reading takes them apart again.

A written line is built by joining texts: a name, a separator, a value, and last an inline
comment ` # c` when comments are kept. Reading trims the line, cuts the comment off at the first
`#` after a space outside brackets, and cuts what is left at separators such as `->` or `:`.
This module says when each of these steps gives back the joined parts: trimming leaves a text
alone whose ends are no blanks (`trim_eq_self_of_solid`); the comment is cut at the marker
written before it when the text before it has no marker and closes its brackets
(`splitComment_written`); and a text is cut at a separator written after a part that holds no
occurrence of it (`breakList?_append_of_free`). -/

namespace SchemaNotation.Notation

open Text

/-- A text whose first character, if any, is no blank. -/
def HeadSolid (s : String) : Prop := ∀ c ∈ s.toList.head?, isBlank c = false

/-- A text whose last character, if any, is no blank. -/
def LastSolid (s : String) : Prop := ∀ c ∈ s.toList.getLast?, isBlank c = false

theorem trim_eq_self_of_solid {s : String} (hh : HeadSolid s) (hl : LastSolid s) : trim s = s := by
  rw [trim, trimList_eq_self hh hl, String.ofList_toList]

theorem HeadSolid.append {a : String} (h : HeadSolid a) (ha : a ≠ "") (b : String) :
    HeadSolid (a ++ b) := by
  obtain ⟨c, cs, hcs⟩ := List.exists_cons_of_ne_nil (mt String.toList_eq_nil_iff.1 ha)
  intro d hd
  rw [String.toList_append, hcs, List.cons_append, List.head?_cons, Option.mem_def,
    Option.some.injEq] at hd
  exact h d (by rw [hcs, ← hd]; rfl)

theorem LastSolid.append {b : String} (h : LastSolid b) (hb : b ≠ "") (a : String) :
    LastSolid (a ++ b) := by
  obtain ⟨c, hc⟩ := Option.ne_none_iff_exists'.1
    (mt List.getLast?_eq_none_iff.1 (mt String.toList_eq_nil_iff.1 hb))
  intro d hd
  rw [Option.mem_unique hd (last_append_of_last hc)]
  exact h c hc

theorem headSolid_trim (s : String) : HeadSolid (trim s) := by
  intro c hc
  rw [trim, String.toList_ofList] at hc
  exact trimList_head _ c hc

theorem lastSolid_trim (s : String) : LastSolid (trim s) := by
  intro c hc
  rw [trim, String.toList_ofList] at hc
  exact trimList_last _ c hc

theorem Trimmed.headSolid {s : String} (h : Trimmed s) : HeadSolid s := h.2 ▸ headSolid_trim s

theorem Trimmed.lastSolid {s : String} (h : Trimmed s) : LastSolid s := h.2 ▸ lastSolid_trim s

theorem trimEnd_eq_self {s : String} (h : LastSolid s) : trimEnd s = s := by
  have := trimEnd_append_blanks (b := "") h (fun _ h => absurd h List.not_mem_nil)
  rwa [String.append_empty] at this

theorem trim_eq_trimEnd {s : String} (h : HeadSolid s) : trim s = trimEnd s := by
  rw [trim, trimEnd, trimList, dropBlanks_eq_self h, dropBlanks]

theorem prefix_trimEnd_append {X : String} (hX : LastSolid X) (y : String) :
    X.toList <+: (trimEnd (X ++ y)).toList := by
  have hX' : dropBlanks X.toList.reverse = X.toList.reverse :=
    dropBlanks_eq_self (by rw [List.head?_reverse]; exact hX)
  rw [trimEnd, String.toList_ofList, String.toList_append, List.reverse_append, dropBlanks,
    List.dropWhile_append]
  split
  · rw [← dropBlanks, hX', List.reverse_reverse]
  · rw [List.reverse_append, List.reverse_reverse]
    exact List.prefix_append _ _

theorem HeadSolid.of_lead {a s : String} (hs : HeadSolid s) (h : a.toList <+: s.toList) :
    HeadSolid a := by
  obtain ⟨t, ht⟩ := h
  intro c hc
  rcases ha : a.toList with _ | ⟨x, xs⟩
  · rw [ha] at hc
    cases hc
  · rw [ha] at hc ht
    exact hs c (by rw [← ht]; exact hc)

theorem NoBreak.append {a b : String} (ha : NoBreak a) (hb : NoBreak b) : NoBreak (a ++ b) := by
  intro c hc
  rw [String.toList_append, List.mem_append] at hc
  exact hc.elim (ha c) (hb c)

theorem commentFrom_prefix_eq_none {a b before : List Char} {depth : Nat}
    (h : commentFrom (a ++ b) before depth = none) : commentFrom a before depth = none := by
  induction a generalizing before depth with
  | nil => rfl
  | cons c a ih =>
    simp only [List.cons_append, commentFrom] at h ⊢
    split_ifs at h ⊢ <;> exact ih h

theorem commentFrom_marker {X : List Char} (hX : commentFrom X [] 0 = none)
    (hd : commentDepth X 0 = 0) (rest : List Char) :
    commentFrom (X ++ ' ' :: '#' :: rest) [] 0 = some (X, rest) := by
  rw [commentFrom_append_of_none hX, hd]
  simp [commentFrom, isOpener, isCloser]

theorem splitComment_of_none {X : String} (hX : commentFrom X.toList [] 0 = none)
    (hl : LastSolid X) : splitComment X = (X, none) := by
  rw [splitComment, hX, trimEnd_eq_self hl]

/-- A text written with a comment after it, ` # c`, is cut back into the text and the comment
when the text has no marker of its own and closes the brackets it opens. The line is trimmed
first, so an empty comment leaves `#` last. -/
theorem splitComment_written {X c : String} (hX : commentFrom X.toList [] 0 = none)
    (hd : commentDepth X.toList 0 = 0) (hh : HeadSolid X) (hl : LastSolid X) (hne : X ≠ "")
    (hc : trim c = c) : splitComment (trim (X ++ " # " ++ c)) = (X, some c) := by
  have htrim : (trim (X ++ " # " ++ c)).toList =
      X.toList ++ ' ' :: '#' :: (if c = "" then "" else " " ++ c).toList := by
    rw [trim_eq_trimEnd ((hh.append hne _).append (by simp) _)]
    by_cases hc0 : c = ""
    · subst hc0
      rw [if_pos rfl, String.append_empty, show X ++ " # " = (X ++ " #") ++ " " by
        rw [String.append_assoc]; rfl, trimEnd_append_blanks (fun d hd => ?_) blank_space]
      · simp
      · rw [Option.mem_unique hd (last_append_of_last (s := X) (t := " #") rfl)]
        rfl
    · rw [if_neg hc0, trimEnd_eq_self]
      · simp
      · exact (hc ▸ lastSolid_trim c).append hc0 _
  have hcomment : trim (if c = "" then "" else " " ++ c) = c := by
    by_cases hc0 : c = ""
    · subst hc0
      rfl
    · rw [if_neg hc0, trim_blank_append c blank_space, hc]
  rw [splitComment, htrim, commentFrom_marker hX hd]
  simp only [String.ofList_toList, trimEnd_eq_self hl, hcomment]

theorem trimEnd_spec (s : String) :
    ∃ b, s.toList = (trimEnd s).toList ++ b ∧ ∀ c ∈ b, isBlank c = true := by
  refine ⟨(s.toList.reverse.takeWhile isBlank).reverse, ?_,
    fun c hc => List.mem_takeWhile_imp (List.mem_reverse.1 hc)⟩
  rw [trimEnd, String.toList_ofList, dropBlanks, ← List.reverse_append,
    List.takeWhile_append_dropWhile, List.reverse_reverse]

theorem lastSolid_trimEnd (s : String) : LastSolid (trimEnd s) := by
  intro c hc
  rw [trimEnd, String.toList_ofList, List.getLast?_reverse] at hc
  have hnot := List.head?_dropWhile_not isBlank s.toList.reverse
  rw [show s.toList.reverse.dropWhile isBlank = dropBlanks s.toList.reverse from rfl,
    Option.mem_def.1 hc] at hnot
  exact hnot

theorem commentDepth_append (a b : List Char) (depth : Nat) :
    commentDepth (a ++ b) depth = commentDepth b (commentDepth a depth) := by
  induction a generalizing depth with
  | nil => rfl
  | cons c a ih => exact ih _

theorem commentDepth_of_neutral {cs : List Char} (h : ∀ c ∈ cs, Neutral c) (depth : Nat) :
    commentDepth cs depth = depth := by
  induction cs with
  | nil => rfl
  | cons c cs ih =>
    obtain ⟨-, ho, hc, -⟩ := h c List.mem_cons_self
    rw [commentDepth, if_neg (by simp [ho]), if_neg (by simp [hc])]
    exact ih fun d hd => h d (List.mem_cons_of_mem c hd)

theorem commentFrom_of_not_mem {cs : List Char} (h : '#' ∉ cs) (before : List Char)
    (depth : Nat) : commentFrom cs before depth = none := by
  induction cs generalizing before depth with
  | nil => rfl
  | cons c cs ih =>
    have hc : (c == '#') = false := beq_eq_false_iff_ne.2 fun hc => h (hc ▸ List.mem_cons_self)
    have ih' := fun b d => ih (fun hm => h (List.mem_cons_of_mem c hm)) b d
    simp only [commentFrom, hc, Bool.false_and, Bool.false_eq_true, ↓reduceIte, ih', ite_self]

theorem commentFrom_eq_some {a r : List Char} : ∀ {cs before : List Char} {depth : Nat},
    commentFrom cs before depth = some (a, r) →
    ∃ m, cs = m ++ '#' :: r ∧ commentFrom m before depth = none ∧ commentDepth m depth = 0 ∧
      (m.reverse ++ before).head? = some ' ' ∧ a = (m.reverse ++ before).tail.reverse
  | [], _, _, h => by cases h
  | c :: rest, before, depth, h => by
    have step : ∀ {d : Nat}, commentFrom rest (c :: before) d = some (a, r) →
        (∀ m, commentFrom (c :: m) before depth = commentFrom m (c :: before) d) →
        (∀ m, commentDepth (c :: m) depth = commentDepth m d) →
        ∃ m, c :: rest = m ++ '#' :: r ∧ commentFrom m before depth = none ∧
          commentDepth m depth = 0 ∧ (m.reverse ++ before).head? = some ' ' ∧
          a = (m.reverse ++ before).tail.reverse := by
      intro d hrest hcut hdepth
      obtain ⟨m, rfl, hm, hd, hh, ha⟩ := commentFrom_eq_some hrest
      refine ⟨c :: m, rfl, (hcut m).trans hm, (hdepth m).trans hd, ?_, ?_⟩
      · simpa only [List.reverse_cons, List.append_assoc, List.singleton_append] using hh
      · simpa only [List.reverse_cons, List.append_assoc, List.singleton_append] using ha
    unfold commentFrom at h
    split_ifs at h with ho hc hm
    · exact step h (fun m => by rw [commentFrom, if_pos ho])
        (fun m => by rw [commentDepth, if_pos ho])
    · exact step h (fun m => by rw [commentFrom, if_neg ho, if_pos hc])
        (fun m => by rw [commentDepth, if_neg ho, if_pos (by simpa using hc)])
    · obtain ⟨rfl, rfl⟩ := Prod.mk.inj (Option.some.inj h)
      simp only [Bool.and_eq_true, beq_iff_eq] at hm
      obtain ⟨⟨rfl, hd⟩, hh⟩ := hm
      exact ⟨[], rfl, rfl, hd, hh, rfl⟩
    · exact step h (fun m => by rw [commentFrom, if_neg ho, if_neg hc, if_neg hm])
        (fun m => by rw [commentDepth, if_neg ho, if_neg (by simpa using hc)])

theorem commentFrom_cut {cs a r : List Char} (h : commentFrom cs [] 0 = some (a, r)) :
    cs = a ++ ' ' :: '#' :: r ∧ commentFrom a [] 0 = none ∧ commentDepth a 0 = 0 := by
  obtain ⟨m, rfl, hm, hd, hh, rfl⟩ := commentFrom_eq_some h
  rcases List.eq_nil_or_concat m with rfl | ⟨m', x, rfl⟩
  · cases hh
  · rw [List.concat_eq_append] at hm hd hh ⊢
    have hx : x = ' ' := by simpa using hh
    subst hx
    have ha : ((m' ++ [' ']).reverse ++ []).tail.reverse = m' := by simp
    have hsp : ∀ c ∈ [' '], Neutral c := by simpa using neutral_of_isBlank (c := ' ') rfl
    rw [ha]
    refine ⟨by simp, commentFrom_prefix_eq_none hm, ?_⟩
    rwa [commentDepth_append, commentDepth_of_neutral hsp] at hd

theorem trim_subset (s : String) : (trim s).toList ⊆ s.toList := by
  obtain ⟨pre, post, hs, -, -⟩ := trimList_spec s.toList
  intro c hc
  rw [trim, String.toList_ofList] at hc
  rw [hs]
  exact List.mem_append_left _ (List.mem_append_right _ hc)

theorem blanks_neutral {b : List Char} (h : ∀ c ∈ b, isBlank c = true) : ∀ c ∈ b, Neutral c :=
  fun c hc => neutral_of_isBlank (h c hc)

theorem splitComment_spec {s x : String} {c : Option String} (h : splitComment s = (x, c)) :
    x.toList <+: s.toList ∧ LastSolid x ∧ commentFrom x.toList [] 0 = none ∧
      (c ≠ none → commentDepth x.toList 0 = 0) ∧ ∀ y ∈ c, trim y = y ∧ y.toList ⊆ s.toList := by
  unfold splitComment at h
  rcases hcut : commentFrom s.toList [] 0 with _ | ⟨a, r⟩
  · rw [hcut] at h
    obtain ⟨rfl, rfl⟩ := Prod.mk.inj h
    obtain ⟨b, hb, -⟩ := trimEnd_spec s
    rw [hb] at hcut
    exact ⟨⟨b, hb.symm⟩, lastSolid_trimEnd s, commentFrom_prefix_eq_none hcut,
      fun h => absurd rfl h, fun y hy => absurd hy (Option.not_mem_none _)⟩
  · rw [hcut] at h
    obtain ⟨rfl, rfl⟩ := Prod.mk.inj h
    obtain ⟨hs, ha, hd⟩ := commentFrom_cut hcut
    obtain ⟨b, hb, hblank⟩ := trimEnd_spec (String.ofList a)
    rw [String.toList_ofList] at hb
    refine ⟨⟨b ++ ' ' :: '#' :: r, by rw [hs, ← List.append_assoc, ← hb]⟩, lastSolid_trimEnd _,
      commentFrom_prefix_eq_none (hb ▸ ha), fun _ => ?_, fun y hy => ?_⟩
    · rwa [hb, commentDepth_append, commentDepth_of_neutral (blanks_neutral hblank)] at hd
    · rw [Option.mem_def, Option.some.injEq] at hy
      subst hy
      refine ⟨trim_trim _, fun d hd => ?_⟩
      have hd' := trim_subset _ hd
      rw [String.toList_ofList] at hd'
      rw [hs]
      simp [hd']

theorem breakList?_no_earlier {sep cs b a : List Char} (hsep : sep ≠ [])
    (h : breakList? sep cs = some (b, a)) : ¬ sep <:+: b := by
  induction cs generalizing b a with
  | nil =>
    simp only [breakList?] at h
    split at h
    · rename_i he
      exact absurd (List.isEmpty_iff.1 he) hsep
    · cases h
  | cons c rest ih =>
    simp only [breakList?] at h
    split at h
    · obtain ⟨rfl, -⟩ := Prod.mk.inj (Option.some.inj h)
      intro hin
      exact hsep (List.eq_nil_of_infix_nil hin)
    · rename_i hnot
      obtain ⟨⟨b', a'⟩, hb, he⟩ := Option.map_eq_some_iff.1 h
      obtain ⟨rfl, rfl⟩ := Prod.mk.inj he
      have hrest := breakList?_some hb
      intro hin
      rcases List.infix_cons_iff.1 hin with hpre | hin
      · -- an occurrence at the start would have been found first
        refine hnot (List.isPrefixOf_iff_prefix.2 (hpre.trans ?_))
        rw [hrest]
        exact ⟨sep ++ a', by simp⟩
      · exact ih hb hin

/-- A separator written after a part that holds no occurrence of it, not even one running into
the separator, is the first occurrence. -/
theorem breakList?_append_of_free {sep b : List Char} (hsep : sep ≠ []) (a : List Char)
    (h : ¬ sep <:+: b ++ sep.dropLast) : breakList? sep (b ++ sep ++ a) = some (b, a) := by
  induction b with
  | nil =>
    obtain ⟨s, ss, rfl⟩ := List.exists_cons_of_ne_nil hsep
    simp [breakList?, List.isPrefixOf_iff_prefix]
  | cons c b ih =>
    have hnot : sep.isPrefixOf (c :: (b ++ sep ++ a)) = false := by
      rw [Bool.eq_false_iff]
      intro hpre
      have hlen : sep.length ≤ (c :: (b ++ sep.dropLast)).length := by
        simp only [List.length_cons, List.length_append, List.length_dropLast]
        have := List.length_pos_iff.2 hsep
        omega
      have hfull : c :: (b ++ sep.dropLast) <+: c :: (b ++ sep ++ a) := by
        rw [← List.dropLast_append_getLast hsep]
        simp
      exact h (List.prefix_of_prefix_length_le (List.isPrefixOf_iff_prefix.1 hpre) hfull hlen
        |>.isInfix)
    simp only [List.cons_append, breakList?, hnot, Bool.false_eq_true, ↓reduceIte]
    rw [ih fun hin => h (List.infix_cons hin)]
    rfl

theorem isModuleHeader_of_marker {l : String} (hl : NoBreak l)
    (h : "=== ".toList <+: (trim l).toList) : isModuleHeader l = true := by
  obtain ⟨t, ht⟩ := h
  have hsub : ∀ x ∈ t, x ∈ l.toList := fun x hx =>
    trim_subset l (by rw [← ht]; simp [hx])
  have hname : ∀ x ∈ (dropBlanks ((dropBlanks (' ' :: t)).reverse.dropWhile (· == '='))).reverse,
      x ∈ ' ' :: t := by
    intro x hx
    rw [List.mem_reverse] at hx
    have h1 := (List.dropWhile_suffix _).subset hx
    have h2 := List.mem_reverse.1 ((List.dropWhile_suffix _).subset h1)
    exact (List.dropWhile_suffix _).subset h2
  have hbreak : ((dropBlanks ((dropBlanks (' ' :: t)).reverse.dropWhile (· == '='))).reverse.contains
      '\n') = false := by
    rw [Bool.eq_false_iff]
    intro hc
    rcases List.mem_cons.1 (hname _ (List.contains_iff_mem.1 hc)) with h | h
    · cases h
    · have := hl _ (hsub _ h)
      simp [isLineBreak] at this
  have hs : (trim l).toList = '=' :: '=' :: '=' :: ' ' :: t := by rw [← ht]; rfl
  simp only [isModuleHeader, String.startsWith_string_iff.2 ⟨t, ht⟩, Bool.true_and, headerName?,
    hs, show isBlank ' ' = true from rfl, ↓reduceIte, hbreak, Bool.false_eq_true, Option.isSome_some]

theorem closesText_eq_false_iff {l : String} (hl : NoBreak l) :
    closesText l = false ↔ ∃ c rest, (trim l).toList = c :: rest ∧ isBlank c = false ∧
      c ≠ '#' ∧ ¬ "=== ".toList <+: (trim l).toList := by
  constructor
  · intro h
    simp only [closesText, Bool.or_eq_false_iff] at h
    obtain ⟨⟨hblank, hcomment⟩, hheader⟩ := h
    rcases hcs : (trim l).toList with _ | ⟨c, rest⟩
    · have hall := blanks_of_trim_isEmpty (s := l) (by simp [String.isEmpty_iff, ← String.toList_inj, hcs])
      simp only [isBlankLine, isBlankText, Bool.eq_false_iff, ne_eq, List.all_eq_true] at hblank
      exact absurd hall hblank
    · refine ⟨c, rest, rfl, ?_, ?_, fun hp => ?_⟩
      · have ht : trimList l.toList = c :: rest := by rw [← hcs, trim, String.toList_ofList]
        exact trimList_head _ c (by rw [ht]; rfl)
      · rintro rfl
        simp [isCommentLine, hcs] at hcomment
      · rw [← hcs] at hp
        rw [isModuleHeader_of_marker hl hp] at hheader
        cases hheader
  · rintro ⟨c, rest, hcs, hc, hhash, hhead⟩
    have hmem : c ∈ l.toList := trim_subset l (by rw [hcs]; exact List.mem_cons_self)
    simp only [closesText, isBlankLine, isBlankText, isCommentLine, isModuleHeader,
      Bool.or_eq_false_iff, Bool.and_eq_false_iff]
    refine ⟨⟨?_, ?_⟩, .inl ?_⟩
    · rw [Bool.eq_false_iff, ne_eq, List.all_eq_true]
      exact fun hall => absurd (hall c hmem) (by simp [hc])
    · rw [Bool.eq_false_iff, ne_eq, String.startsWith_string_iff, hcs]
      simpa using hhash.symm
    · rw [Bool.eq_false_iff, ne_eq, String.startsWith_string_iff]
      exact hhead

end SchemaNotation.Notation

namespace SchemaNotation.Style

open Notation Text

/-- A comment as a layout keeps it: not at all when comments are left out. -/
def keep (st : Style) (c : Option String) : Option String := if st.includeComments then c else none

theorem comment_eq_keep (st : Style) (c : Option String) :
    st.comment c = match st.keep c with
      | some x => " # " ++ x
      | none => "" := by
  cases c <;> by_cases h : st.includeComments <;> simp [comment, keep, h]

theorem splitComment_comment {st : Style} {X : String} {c : Option String}
    (hX : commentFrom X.toList [] 0 = none)
    (hd : st.keep c ≠ none → commentDepth X.toList 0 = 0) (hX' : Trimmed X) (hne : X ≠ "")
    (hc : ∀ x ∈ c, trim x = x) : splitComment (trim (X ++ st.comment c)) = (X, st.keep c) := by
  rw [comment_eq_keep]
  rcases hk : st.keep c with _ | x
  · rw [String.append_empty, hX'.2]
    exact splitComment_of_none hX hX'.lastSolid
  · have hx : x ∈ c := by
      unfold keep at hk
      split at hk
      · exact hk
      · cases hk
    rw [← String.append_assoc]
    exact splitComment_written hX (hd (by simp [hk])) hX'.headSolid hX'.lastSolid hne (hc x hx)

theorem prefix_trim_comment {st : Style} {X : String} (hX : Trimmed X) (hne : X ≠ "")
    (c : Option String) : X.toList <+: (trim (X ++ st.comment c)).toList := by
  rw [trim_eq_trimEnd (hX.headSolid.append hne _)]
  exact prefix_trimEnd_append hX.lastSolid _

theorem noBreak_comment (st : Style) {c : Option String} (hc : ∀ x ∈ c, NoBreak x) :
    NoBreak (st.comment c) := by
  cases c with
  | none => exact fun _ h => absurd h List.not_mem_nil
  | some x =>
    by_cases h : st.includeComments
    · simp only [comment, h, ↓reduceIte]
      exact NoBreak.append (by simp [NoBreak, isLineBreak] : NoBreak " # ") (hc x rfl)
    · simp only [comment, h, Bool.false_eq_true, ↓reduceIte]
      exact fun _ h => absurd h List.not_mem_nil

end SchemaNotation.Style
