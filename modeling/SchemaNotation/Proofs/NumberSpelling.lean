import Mathlib
import SchemaNotation.Notation.TypeExpr
import SchemaNotation.Proofs.TopLevel

/-! Whole numbers and multiplicities read back from their printed form.

`toString` writes a whole number in ASCII digits, after a `-` when it is negative, and
`readInt?` reads that text back as long as it has at most `maxDigits` digits, which holds of
every number that `readInt?` itself has read. A multiplicity printed as `min..max` or `min..*`
reads back into the same bounds. Neither the text a multiplicity is read from nor its printed
form holds a quote, a bracket or a comma, so both look alike to `splitTopLevel` and
`balanced`. -/

namespace SchemaNotation.Text

open Notation

section Digits

theorem findIn_mem {α : Type} [Span α] (xs : Array α) (n lo hi : Nat) {x : α}
    (h : Span.findIn xs n lo hi = some x) : x ∈ xs := by
  induction lo, hi using Span.findIn.induct xs n with
  | case1 lo hi hlt hnone => rw [Span.findIn, dif_pos hlt, hnone] at h; cases h
  | case2 lo hi hlt y hy hn ih =>
    rw [Span.findIn, dif_pos hlt, hy] at h; simp only [hn] at h; exact ih h
  | case3 lo hi hlt y hy hn hl ih =>
    rw [Span.findIn, dif_pos hlt, hy] at h; simp only [hn, hl] at h; exact ih h
  | case4 lo hi hlt y hy hn hl =>
    rw [Span.findIn, dif_pos hlt, hy] at h
    simp only [hn, hl, if_false, Option.some.injEq] at h
    subst h
    exact Array.mem_of_getElem? hy
  | case5 lo hi hge => rw [Span.findIn, dif_neg hge] at h; cases h

theorem decimalValue?_code {c : Char} {d : Nat} (h : decimalValue? c = some d) :
    (48 ≤ c.toNat ∧ c.toNat ≤ 57) ∨ 1632 ≤ c.toNat := by
  unfold decimalValue? at h
  cases hz : Span.find? decimalZeros c.toNat with
  | none => rw [hz] at h; cases h
  | some z =>
    have hm := Span.mem_find? decimalZeros c.toNat hz
    have hall : ∀ z ∈ decimalZeros.toList, z = 48 ∨ 1632 ≤ z := by decide
    have hz' := hall z (Array.mem_toList_iff.2 (findIn_mem _ _ _ _ hz))
    simp only [Span.first, Span.last, id] at hm
    omega

theorem isDigit_code {c : Char} (h : c.isDigit = true) : 48 ≤ c.toNat ∧ c.toNat ≤ 57 := by
  simp only [Char.isDigit, Bool.and_eq_true, decide_eq_true_eq] at h
  exact ⟨UInt32.le_iff_toNat_le.1 h.1, UInt32.le_iff_toNat_le.1 h.2⟩

theorem decimalValue?_isDigit {c : Char} (h : c.isDigit = true) :
    decimalValue? c = some (c.toNat - 48) := by
  have hascii : ∀ k < 10, Span.find? decimalZeros (48 + k) = some 48 := by decide +kernel
  have hc := isDigit_code h
  unfold decimalValue?
  rw [show c.toNat = 48 + (c.toNat - 48) by omega, hascii _ (by omega)]
  simp

theorem readDigits_of_isDigit : ∀ {l : List Char} {acc count : Nat} {b : Bool},
    (∀ c ∈ l, c.isDigit = true) → (l ≠ [] ∨ b = true) →
    readDigits l acc count b = some (Nat.ofDigitChars 10 l acc, count + l.length)
  | [], acc, count, b, _, hb => by
    have hb : b = true := by simpa using hb
    simp [readDigits, hb]
  | c :: l, acc, count, b, hd, _ => by
    have hc := hd c List.mem_cons_self
    have hu : c ≠ '_' := by
      rintro rfl
      simp at hc
    rw [readDigits, if_neg hu, decimalValue?_isDigit hc]
    simp only
    rw [readDigits_of_isDigit (fun x hx => hd x (List.mem_cons_of_mem c hx)) (Or.inr rfl),
      Nat.ofDigitChars_cons]
    simp only [List.length_cons, Char.reduceToNat, Option.some.injEq, Prod.mk.injEq]
    constructor
    · rw [Nat.mul_comm]
    · omega

theorem readDigits_toDigits (n : Nat) :
    readDigits (Nat.toDigits 10 n) 0 0 false = some (n, (Nat.toDigits 10 n).length) := by
  rw [readDigits_of_isDigit (fun c hc => Nat.isDigit_of_mem_toDigits (b := 10) (by decide) (by decide) hc)
    (Or.inl Nat.toDigits_ne_nil), Nat.ofDigitChars_toDigits (by decide) (by decide)]
  simp

theorem readDigits_some : ∀ {l : List Char} {acc count : Nat} {b : Bool} {v k : Nat},
    readDigits l acc count b = some (v, k) →
    (∀ c ∈ l, c = '_' ∨ ∃ d, decimalValue? c = some d) ∧ count ≤ k ∧
      v < (acc + 1) * 10 ^ (k - count)
  | [], acc, count, b, v, k, h => by
    cases b <;> simp only [readDigits, Bool.false_eq_true, ↓reduceIte, reduceCtorEq,
      Option.some.injEq, Prod.mk.injEq] at h
    obtain ⟨rfl, rfl⟩ := h
    simp
  | c :: l, acc, count, b, v, k, h => by
    rw [readDigits] at h
    by_cases hu : c = '_'
    · rw [if_pos hu] at h
      cases b
      · cases h
      · obtain ⟨hl, hk, hv⟩ := readDigits_some h
        refine ⟨fun x hx => ?_, hk, hv⟩
        rcases List.mem_cons.1 hx with rfl | hx
        · exact .inl hu
        · exact hl x hx
    · rw [if_neg hu] at h
      cases hd : decimalValue? c with
      | none => rw [hd] at h; cases h
      | some d =>
        rw [hd] at h
        obtain ⟨hl, hk, hv⟩ := readDigits_some h
        have hd10 := decimalValue?_lt_ten hd
        refine ⟨fun x hx => ?_, by omega, ?_⟩
        · rcases List.mem_cons.1 hx with rfl | hx
          · exact .inr ⟨d, hd⟩
          · exact hl x hx
        · calc v < (acc * 10 + d + 1) * 10 ^ (k - (count + 1)) := hv
            _ ≤ (acc + 1) * 10 * 10 ^ (k - (count + 1)) := Nat.mul_le_mul_right _ (by omega)
            _ = (acc + 1) * 10 ^ (k - count) := by
              rw [Nat.mul_assoc, ← Nat.pow_succ']
              congr 2
              omega

end Digits

section Numbers

theorem toString_int_chars (i : Int) :
    ∀ c ∈ (toString i).toList, c = '-' ∨ c.isDigit = true := by
  have hdigit (n : Nat) : ∀ c ∈ (toString n).toList, c.isDigit = true := fun c hc =>
    Nat.isDigit_of_mem_toDigits (b := 10) (by decide) (by decide) (by simpa using hc)
  cases i with
  | ofNat n => exact fun c hc => .inr (hdigit n c hc)
  | negSucc n =>
    intro c hc
    change c ∈ ("-" ++ toString (n + 1)).toList at hc
    rw [String.toList_append] at hc
    rcases List.mem_append.1 hc with h | h
    · exact .inl (by simpa using h)
    · exact .inr (hdigit (n + 1) c h)

theorem isBlank_of_isDigit {c : Char} (h : c.isDigit = true) : isBlank c = false := by
  have := isDigit_code h
  simp only [isBlank, Bool.or_eq_false_iff, Bool.and_eq_false_iff, decide_eq_false_iff_not,
    beq_eq_false_iff_ne]
  omega

theorem trimList_of_no_blank {cs : List Char} (h : ∀ c ∈ cs, isBlank c = false) :
    trimList cs = cs :=
  trimList_eq_self (fun c hc => h c (List.mem_of_mem_head? hc))
    (fun c hc => h c (List.mem_of_mem_getLast? hc))

theorem trim_of_no_blank {s : String} (h : ∀ c ∈ s.toList, isBlank c = false) : trim s = s := by
  rw [trim, trimList_of_no_blank h, String.ofList_toList]

theorem toString_int_no_blank (i : Int) : ∀ c ∈ (toString i).toList, isBlank c = false :=
  fun c hc => (toString_int_chars i c hc).elim (fun h => h ▸ rfl) isBlank_of_isDigit

theorem readInt?_toString {i : Int} (h : i.natAbs < 10 ^ maxDigits) :
    readInt? (toString i) = some i := by
  have hlen (n : Nat) (hn : n < 10 ^ maxDigits) : (Nat.toDigits 10 n).length ≤ maxDigits :=
    (Nat.length_toDigits_le_iff (by decide) (by decide)).2 hn
  have hfirst (n : Nat) : ∃ d ds, Nat.toDigits 10 n = d :: ds ∧ d.isDigit = true := by
    obtain ⟨d, ds, hds⟩ := List.exists_cons_of_ne_nil (Nat.toDigits_ne_nil (n := n) (b := 10))
    exact ⟨d, ds, hds, Nat.isDigit_of_mem_toDigits (b := 10) (by decide) (by decide)
      (by rw [hds]; exact List.mem_cons_self)⟩
  unfold readInt?
  rw [trimList_of_no_blank (toString_int_no_blank i)]
  cases i with
  | ofNat n =>
    obtain ⟨d, ds, hds, hd⟩ := hfirst n
    have hs : (toString (Int.ofNat n)).toList = d :: ds := by
      rw [← hds]
      exact Nat.toList_repr
    have hsign : d ≠ '-' ∧ d ≠ '+' := by
      constructor <;> (rintro rfl; simp at hd)
    rw [hs]
    split
    next negative digits heq =>
      split at heq <;> simp_all
      rw [← hds, readDigits_toDigits]
      simp [hlen n h]
  | negSucc n =>
    have hs : (toString (Int.negSucc n)).toList = '-' :: Nat.toDigits 10 (n + 1) := by
      change ("-" ++ toString (n + 1)).toList = _
      simp
    rw [hs]
    simp only [readDigits_toDigits, hlen (n + 1) h, ↓reduceIte, Option.some.injEq]
    rfl

theorem readInt?_some {s : String} {i : Int} (h : readInt? s = some i) :
    i.natAbs < 10 ^ maxDigits ∧
      ∀ c ∈ trimList s.toList, c = '-' ∨ c = '+' ∨ c = '_' ∨ ∃ d, decimalValue? c = some d := by
  unfold readInt? at h
  split at h
  next negative digits hsign =>
    split at h
    next v k hd =>
      split at h
      next hk =>
        obtain ⟨hl, -, hv⟩ := readDigits_some hd
        simp only [Nat.zero_add, Nat.one_mul, Nat.sub_zero] at hv
        have hi : i.natAbs = v := by
          cases negative <;> simp only [Bool.false_eq_true, ↓reduceIte, Option.some.injEq] at h <;>
            (subst h; simp)
        refine ⟨hi ▸ lt_of_lt_of_le hv (Nat.pow_le_pow_right (by decide) hk), ?_⟩
        intro c hc
        split at hsign
        next _ rest hs =>
          obtain ⟨-, rfl⟩ := Prod.mk.inj hsign
          rw [hs] at hc
          rcases List.mem_cons.1 hc with rfl | hc
          · exact .inl rfl
          · exact .inr (.inr (hl c hc))
        next _ rest hs =>
          obtain ⟨-, rfl⟩ := Prod.mk.inj hsign
          rw [hs] at hc
          rcases List.mem_cons.1 hc with rfl | hc
          · exact .inr (.inl rfl)
          · exact .inr (.inr (hl c hc))
        next =>
          obtain ⟨-, hdigits⟩ := Prod.mk.inj hsign
          exact .inr (.inr (hl c (hdigits ▸ hc)))
      next => cases h
    next => cases h

end Numbers

section Search

theorem breakList?_some {sep : List Char} : ∀ {cs before after : List Char},
    breakList? sep cs = some (before, after) → cs = before ++ sep ++ after
  | [], before, after, h => by
    simp only [breakList?] at h
    split at h
    next hs =>
      cases h
      simp [List.isEmpty_iff.1 hs]
    next => cases h
  | c :: rest, before, after, h => by
    simp only [breakList?] at h
    split at h
    next hp =>
      cases h
      obtain ⟨t, ht⟩ := List.isPrefixOf_iff_prefix.1 hp
      rw [← ht]
      simp
    next =>
      obtain ⟨⟨b, a⟩, hb, he⟩ := Option.map_eq_some_iff.1 h
      simp only [Prod.mk.injEq] at he
      obtain ⟨rfl, rfl⟩ := he
      rw [breakList?_some hb]
      simp

theorem breakList?_single {k : Char} : ∀ {cs before after : List Char},
    breakList? [k] cs = some (before, after) → k ∉ before
  | [], before, after, h => by simp [breakList?] at h
  | c :: rest, before, after, h => by
    simp only [breakList?] at h
    split at h
    next => cases h; simp
    next hp =>
      obtain ⟨⟨b, a⟩, hb, he⟩ := Option.map_eq_some_iff.1 h
      simp only [Prod.mk.injEq] at he
      obtain ⟨rfl, rfl⟩ := he
      have hck : c ≠ k := by
        rintro rfl
        simp at hp
      simpa [Ne.symm hck] using breakList?_single hb

theorem breakList?_append {k : Char} {sep : List Char} : ∀ {before : List Char} (after : List Char),
    k ∉ before → breakList? (k :: sep) (before ++ (k :: sep) ++ after) = some (before, after)
  | [], after, _ => by
    simp [breakList?, List.isPrefixOf_iff_prefix]
  | c :: before, after, h => by
    have hck : c ≠ k := fun hc => h (hc ▸ List.mem_cons_self)
    have hnot : (k :: sep).isPrefixOf (c :: (before ++ k :: sep ++ after)) = false := by
      simp [List.isPrefixOf, Ne.symm hck]
    simp only [List.cons_append, breakList?, hnot, Bool.false_eq_true, ↓reduceIte]
    rw [breakList?_append after (fun hk => h (List.mem_cons_of_mem c hk))]
    rfl

theorem breakOn?_some {s sep x y : String} (h : breakOn? s sep = some (x, y)) :
    s.toList = x.toList ++ sep.toList ++ y.toList := by
  obtain ⟨⟨b, a⟩, hb, he⟩ := Option.map_eq_some_iff.1 h
  simp only [Prod.mk.injEq] at he
  obtain ⟨rfl, rfl⟩ := he
  simpa using breakList?_some hb

end Search

end SchemaNotation.Text

namespace SchemaNotation.Notation

open Text

theorem code_of_structural {c : Char}
    (h : (isQuote c || isOpener c || isCloser c || c == ',') = true) :
    c.toNat = 34 ∨ c.toNat = 39 ∨ c.toNat = 40 ∨ c.toNat = 41 ∨ c.toNat = 44 ∨ c.toNat = 60 ∨
      c.toNat = 62 ∨ c.toNat = 91 ∨ c.toNat = 93 ∨ c.toNat = 123 ∨ c.toNat = 125 := by
  simp only [isQuote, isOpener, isCloser, Bool.or_eq_true, beq_iff_eq] at h
  rcases h with ((((rfl | rfl) | ((rfl | rfl) | rfl) | rfl) | ((rfl | rfl) | rfl) | rfl) | rfl) <;>
    simp

theorem neutral_of_code {c : Char}
    (h : ¬ (c.toNat = 34 ∨ c.toNat = 39 ∨ c.toNat = 40 ∨ c.toNat = 41 ∨ c.toNat = 44 ∨
      c.toNat = 60 ∨ c.toNat = 62 ∨ c.toNat = 91 ∨ c.toNat = 93 ∨ c.toNat = 123 ∨
      c.toNat = 125)) : Neutral c := by
  refine ⟨Bool.eq_false_iff.2 fun hq => h (code_of_structural (by simp [hq])),
    Bool.eq_false_iff.2 fun ho => h (code_of_structural (by simp [ho])),
    Bool.eq_false_iff.2 fun hc => h (code_of_structural (by simp [hc])),
    fun hc => h (code_of_structural (by simp [hc]))⟩

theorem neutral_of_numeral {c : Char}
    (h : c = '-' ∨ c = '+' ∨ c = '_' ∨ ∃ d, decimalValue? c = some d) : Neutral c := by
  rcases h with rfl | rfl | rfl | ⟨d, hd⟩
  · exact ⟨rfl, rfl, rfl, by decide⟩
  · exact ⟨rfl, rfl, rfl, by decide⟩
  · exact ⟨rfl, rfl, rfl, by decide⟩
  · have := decimalValue?_code hd
    exact neutral_of_code (by omega)

theorem alike_nil_of_readInt? {s : String} {i : Int} (h : readInt? s = some i) :
    Alike s.toList [] :=
  (alike_trimList s.toList).symm.trans
    (alike_nil_of_neutral fun c hc => neutral_of_numeral ((readInt?_some h).2 c hc))

theorem render_chars (m : Multiplicity) :
    ∀ c ∈ m.render.toList, c = '-' ∨ c = '.' ∨ c = '*' ∨ c.isDigit = true := by
  have hint (i : Int) : ∀ c ∈ (toString i).toList, c = '-' ∨ c = '.' ∨ c = '*' ∨ c.isDigit :=
    fun c hc => (toString_int_chars i c hc).elim .inl fun h => .inr (.inr (.inr h))
  intro c hc
  simp only [Multiplicity.render, String.toList_append, List.mem_append] at hc
  rcases hc with (hc | hc) | hc
  · exact hint _ c hc
  · exact .inr (.inl (by simpa using hc))
  · cases hm : m.max with
    | some n => rw [hm] at hc; exact hint n c hc
    | none => rw [hm] at hc; exact .inr (.inr (.inl (by simpa using hc)))

theorem alike_nil_render (m : Multiplicity) : Alike m.render.toList [] :=
  alike_nil_of_neutral fun c hc => by
    rcases render_chars m c hc with rfl | rfl | rfl | hd
    · exact ⟨rfl, rfl, rfl, by decide⟩
    · exact ⟨rfl, rfl, rfl, by decide⟩
    · exact ⟨rfl, rfl, rfl, by decide⟩
    · have := isDigit_code hd
      exact neutral_of_code (by omega)

theorem Alike.append_nil {a b : List Char} (ha : Alike a []) (hb : Alike b []) :
    Alike (a ++ b) [] := by
  simpa using ha.append hb

theorem alike_nil_of_trim {s : String} (h : Alike (trim s).toList []) : Alike s.toList [] :=
  (alike_trimList s.toList).symm.trans (by simpa [trim] using h)

theorem alike_nil_dots : Alike ("..").toList [] :=
  alike_nil_of_neutral fun c hc => by
    simp only [show ("..").toList = ['.', '.'] from rfl, List.mem_cons, List.not_mem_nil,
      or_false, or_self] at hc
    subst hc
    exact ⟨rfl, rfl, rfl, by decide⟩

theorem readMultiplicity_ok {text : String} {line : Option Nat} {m : Multiplicity}
    (h : readMultiplicity text line = .ok m) :
    m.min.natAbs < 10 ^ Text.maxDigits ∧ (∀ n, m.max = some n → n.natAbs < 10 ^ Text.maxDigits) ∧
      Alike text.toList [] := by
  unfold readMultiplicity at h
  split at h
  next => cases h
  next lower upper hb =>
    split at h
    next => cases h
    next least hl =>
      have hlower : Alike lower.toList [] := alike_nil_of_trim (alike_nil_of_readInt? hl)
      have htext (hu : Alike upper.toList []) : Alike text.toList [] := by
        refine alike_nil_of_trim ?_
        rw [breakOn?_some hb]
        exact (hlower.append_nil alike_nil_dots).append_nil hu
      split at h
      next hstar =>
        cases h
        have hu : Alike (trim upper).toList [] := by
          rw [beq_iff_eq.1 hstar]
          exact alike_nil_of_neutral fun c hc => by
            simp only [show ("*").toList = ['*'] from rfl, List.mem_singleton] at hc
            subst hc
            exact ⟨rfl, rfl, rfl, by decide⟩
        exact ⟨(readInt?_some hl).1, (fun n hn => by cases hn), htext (alike_nil_of_trim hu)⟩
      next =>
        split at h
        next most hm =>
          cases h
          refine ⟨(readInt?_some hl).1, fun n hn => ?_, htext (alike_nil_of_trim
            (alike_nil_of_readInt? hm))⟩
          cases hn
          exact (readInt?_some hm).1
        next => cases h

theorem readMultiplicity_render {m : Multiplicity} (hmin : m.min.natAbs < 10 ^ Text.maxDigits)
    (hmax : ∀ n, m.max = some n → n.natAbs < 10 ^ Text.maxDigits) (line : Option Nat) :
    readMultiplicity m.render line = .ok m := by
  obtain ⟨lo, hi⟩ := m
  have hnb : ∀ c ∈ (Multiplicity.render ⟨lo, hi⟩).toList, isBlank c = false := fun c hc => by
    rcases render_chars _ c hc with rfl | rfl | rfl | hd
    · rfl
    · rfl
    · rfl
    · exact isBlank_of_isDigit hd
  -- the first `..` is the one after the lower bound, which holds no dot
  have hsplit (upper : String) : breakOn? (toString lo ++ ".." ++ upper) ".." =
      some (toString lo, upper) := by
    have hdot : '.' ∉ (toString lo).toList := fun hc => by
      rcases toString_int_chars lo '.' hc with h | h
      · cases h
      · cases h
    simp only [breakOn?, String.toList_append, show ("..").toList = ['.', '.'] from rfl]
    rw [breakList?_append _ hdot]
    simp
  unfold readMultiplicity
  rw [trim_of_no_blank hnb]
  cases hi with
  | none =>
    simp only [Multiplicity.render, hsplit, trim_of_no_blank (toString_int_no_blank lo),
      readInt?_toString hmin]
    rfl
  | some n =>
    have hstar : (toString n == "*") = false := by
      rw [beq_eq_false_iff_ne]
      intro hs
      have hc : '*' ∈ (toString n).toList := by rw [hs]; exact List.mem_singleton_self _
      rcases toString_int_chars n '*' hc with h | h
      · cases h
      · cases h
    simp only [Multiplicity.render, hsplit, trim_of_no_blank (toString_int_no_blank lo),
      trim_of_no_blank (toString_int_no_blank n), readInt?_toString hmin,
      readInt?_toString (hmax n rfl), hstar]
    rfl

end SchemaNotation.Notation
