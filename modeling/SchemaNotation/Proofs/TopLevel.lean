import Mathlib.Data.List.DropRight
import Mathlib.Data.List.Forall2
import Mathlib.Data.List.TakeWhile
import SchemaNotation.Notation.Nesting

/-! What `splitTopLevel` and `balanced` see of a text.

Both read a text from left to right. `splitFrom` keeps the open brackets and the open
quotation and cuts at a separator outside both; `balancedFrom` keeps the closers still due.
`scan` and `owedAfter` are these two readings without the parts they build, so that a text
can be cut into pieces and each piece judged by its effect alone. Two texts are `Alike` when
both readings, from every state, end in the same state after either: splitting and the balance
check cannot tell them apart. Blanks, and every character other than quotes, brackets and
commas, leave both readings where they were; so does an empty pair of braces. -/

namespace SchemaNotation.Notation

open Text

/-- One character of the reading of `splitFrom sep`: `none` when it is a separator at the top
level. -/
def scanStep (sep : String) : Nat × Option Char → Char → Option (Nat × Option Char)
  | (depth, some q), c => some (depth, if c == q then none else some q)
  | (depth, none), c =>
    if isQuote c then some (depth, some c)
    else if isOpener c then some (depth + 1, none)
    else if isCloser c && depth > 0 then some (depth - 1, none)
    else if c.toString == sep && depth == 0 then none
    else some (depth, none)

/-- The state of the reading of `splitFrom sep` after `cs`, or `none` if a separator stands at
the top level in `cs`. -/
def scan (sep : String) : List Char → Nat × Option Char → Option (Nat × Option Char)
  | [], st => some st
  | c :: cs, st => (scanStep sep st c).bind (scan sep cs)

/-- A state of the reading whose open quotation, if any, was opened by a quote mark. -/
def QuoteOk (st : Nat × Option Char) : Prop := ∀ q, st.2 = some q → isQuote q = true

section Scan

variable {sep : String}

@[simp] theorem scan_nil (st : Nat × Option Char) : scan sep [] st = some st := rfl

theorem scan_append (a b : List Char) (st : Nat × Option Char) :
    scan sep (a ++ b) st = (scan sep a st).bind (scan sep b) := by
  induction a generalizing st with
  | nil => rfl
  | cons c a ih =>
    simp only [List.cons_append, scan]
    cases scanStep sep st c with
    | none => rfl
    | some st' => exact ih st'

theorem quoteOk_start : QuoteOk (0, none) := fun _ h => nomatch h

theorem scanStep_quoteOk {st st' : Nat × Option Char} {c : Char} (hst : QuoteOk st)
    (h : scanStep sep st c = some st') : QuoteOk st' := by
  obtain ⟨depth, _ | q⟩ := st
  · simp only [scanStep] at h
    by_cases hq : isQuote c = true
    · simp only [hq, ↓reduceIte, Option.some.injEq] at h
      subst h
      intro q hq'
      cases hq'
      exact hq
    · simp only [hq, Bool.false_eq_true, ↓reduceIte] at h
      split_ifs at h <;> (cases h; exact fun _ h => nomatch h)
  · simp only [scanStep, Option.some.injEq] at h
    subst h
    intro q' hq'
    split_ifs at hq'
    cases hq'
    exact hst q rfl

theorem scan_quoteOk {st st' : Nat × Option Char} (hst : QuoteOk st) :
    ∀ {cs : List Char}, scan sep cs st = some st' → QuoteOk st' := by
  intro cs
  induction cs generalizing st with
  | nil => intro h; cases h; exact hst
  | cons c cs ih =>
    intro h
    simp only [scan] at h
    cases hs : scanStep sep st c with
    | none => rw [hs] at h; cases h
    | some st'' =>
      rw [hs] at h
      exact ih (scanStep_quoteOk hst hs) h

theorem splitFrom_cons_of_step {depth : Nat} {q : Option Char} {c : Char}
    {st : Nat × Option Char} (h : scanStep sep (depth, q) c = some st) (rest part : List Char)
    (done : List String) :
    splitFrom sep (c :: rest) depth q part done = splitFrom sep rest st.1 st.2 (c :: part) done := by
  cases q with
  | some q =>
    simp only [scanStep, Option.some.injEq] at h
    subst h
    rfl
  | none =>
    simp only [scanStep] at h
    simp only [splitFrom]
    split_ifs at h ⊢ <;> cases h <;> rfl

theorem splitFrom_cons_of_cut {depth : Nat} {q : Option Char} {c : Char}
    (h : scanStep sep (depth, q) c = none) (rest part : List Char) (done : List String) :
    splitFrom sep (c :: rest) depth q part done =
      splitFrom sep rest 0 none [] (String.ofList part.reverse :: done) ∧ c.toString = sep := by
  cases q with
  | some q => simp [scanStep] at h
  | none =>
    simp only [scanStep] at h
    split_ifs at h with h1 h2 h3 h4
    simp only [Bool.and_eq_true, beq_iff_eq] at h4
    obtain ⟨hsep, rfl⟩ := h4
    rw [Char.toString_eq_singleton] at hsep
    simp [splitFrom, h1, h2, hsep]

theorem splitFrom_append_of_scan {cs : List Char} :
    ∀ {depth : Nat} {q : Option Char} {st : Nat × Option Char} (rest part : List Char)
      (done : List String), scan sep cs (depth, q) = some st →
      splitFrom sep (cs ++ rest) depth q part done =
        splitFrom sep rest st.1 st.2 (cs.reverse ++ part) done := by
  induction cs with
  | nil => intro depth q st rest part done h; cases h; rfl
  | cons c cs ih =>
    intro depth q st rest part done h
    simp only [scan] at h
    cases hs : scanStep sep (depth, q) c with
    | none => rw [hs] at h; cases h
    | some st' =>
      rw [hs] at h
      rw [List.cons_append, splitFrom_cons_of_step hs, ih rest (c :: part) done h]
      simp

end Scan

/-- The parts of a text between separators, as `splitFrom` leaves them: every part but the last
is followed by a separator, so it takes the scan from the top level back to the top level;
the last part holds no separator at the top level. -/
inductive Parts (sep : String) : List String → Prop
  | last {p : String} (hp : scan sep p.toList (0, none) ≠ none) : Parts sep [p]
  | cons {p : String} {ps : List String} (hp : scan sep p.toList (0, none) = some (0, none))
      (hps : Parts sep ps) : Parts sep (p :: ps)

theorem Parts.ne_nil {sep : String} {ps : List String} (h : Parts sep ps) : ps ≠ [] := by
  cases h <;> simp

theorem splitFrom_parts (sep : String) (cs part : List Char) (depth : Nat) (q : Option Char)
    (done : List String) (h : scan sep part.reverse (0, none) = some (depth, q)) :
    ∃ ps, splitFrom sep cs depth q part done = done.reverse ++ ps ∧ Parts sep ps ∧
      (sep.intercalate ps).toList = part.reverse ++ cs := by
  induction cs generalizing depth q part done with
  | nil =>
    refine ⟨[String.ofList part.reverse], by simp [splitFrom], .last ?_, by simp⟩
    simp [h]
  | cons c cs ih =>
    have hpart (st : Nat × Option Char) (hs : scanStep sep (depth, q) c = some st) :
        scan sep (c :: part).reverse (0, none) = some st := by
      simp [scan_append, h, scan, hs]
    cases hs : scanStep sep (depth, q) c with
    | some st =>
      obtain ⟨ps, hsplit, hparts, hjoin⟩ := ih (c :: part) st.1 st.2 done (hpart st hs)
      refine ⟨ps, ?_, hparts, by simp [hjoin]⟩
      rw [splitFrom_cons_of_step hs, hsplit]
    | none =>
      obtain ⟨hsplit, hsep⟩ := splitFrom_cons_of_cut hs cs part done
      -- a cut happens only at the top level, outside any quotation
      have hq : q = none ∧ depth = 0 := by
        cases q with
        | some q => simp [scanStep] at hs
        | none =>
          simp only [scanStep] at hs
          split_ifs at hs with h1 h2 h3 h4
          simp only [Bool.and_eq_true, beq_iff_eq] at h4
          exact ⟨rfl, h4.2⟩
      obtain ⟨rfl, rfl⟩ := hq
      obtain ⟨ps, hrest, hparts, hjoin⟩ :=
        ih [] 0 none (String.ofList part.reverse :: done) rfl
      refine ⟨String.ofList part.reverse :: ps, ?_, .cons (by simpa using h) hparts, ?_⟩
      · rw [hsplit, hrest]
        simp
      · obtain ⟨p', ps', rfl⟩ := List.exists_cons_of_ne_nil hparts.ne_nil
        rw [String.intercalate_cons_cons, String.toList_append, String.toList_append, hjoin,
          ← hsep]
        simp

theorem splitTopLevel_parts (s sep : String) :
    Parts sep (splitTopLevel s sep) ∧ sep.intercalate (splitTopLevel s sep) = s := by
  obtain ⟨ps, hsplit, hparts, hjoin⟩ := splitFrom_parts sep s.toList [] 0 none [] rfl
  simp only [splitTopLevel, hsplit, List.reverse_nil, List.nil_append]
  exact ⟨hparts, String.toList_inj.1 (by simpa using hjoin)⟩

theorem splitTopLevel_intercalate {ps : List String} (h : Parts "," ps) :
    splitTopLevel (",".intercalate ps) "," = ps := by
  suffices hs : ∀ done, splitFrom "," (",".intercalate ps).toList 0 none [] done =
      done.reverse ++ ps by
    have h := hs []
    simp only [List.reverse_nil, List.nil_append] at h
    exact h
  induction h with
  | last hp =>
    intro done
    obtain ⟨st, hst⟩ := Option.ne_none_iff_exists'.1 hp
    have := splitFrom_append_of_scan [] [] done hst
    simp only [List.append_nil] at this
    simp [this, splitFrom]
  | @cons p ps hp hps ih =>
    intro done
    obtain ⟨p', ps', rfl⟩ := List.exists_cons_of_ne_nil hps.ne_nil
    have hcut : scanStep "," (0, none) ',' = none := by decide
    rw [String.intercalate_cons_cons, String.toList_append, String.toList_append,
      List.append_assoc, splitFrom_append_of_scan _ [] done hp]
    simp only [List.append_nil, show (",").toList = [','] from rfl, List.cons_append,
      List.nil_append]
    rw [(splitFrom_cons_of_cut hcut _ _ _).1, List.reverse_reverse, String.ofList_toList, ih]
    simp

/-- One character of the reading of `balancedFrom`: the closers still due after it, or `none`
once a closer does not match. -/
def owedStep (owed : List Char) (c : Char) : Option (List Char) :=
  if isOpener c then some (closerOf c :: owed)
  else if isCloser c then
    match owed with
    | d :: more => if d == c then some more else none
    | [] => none
  else some owed

/-- The closers still due after `cs`, or `none` if a closer in `cs` does not match. -/
def owedAfter : List Char → List Char → Option (List Char)
  | [], owed => some owed
  | c :: cs, owed => (owedStep owed c).bind (owedAfter cs)

theorem owedAfter_append (a b owed : List Char) :
    owedAfter (a ++ b) owed = (owedAfter a owed).bind (owedAfter b) := by
  induction a generalizing owed with
  | nil => rfl
  | cons c a ih =>
    simp only [List.cons_append, owedAfter]
    cases owedStep owed c with
    | none => rfl
    | some owed' => exact ih owed'

theorem balancedFrom_iff (cs owed : List Char) :
    balancedFrom cs owed = true ↔ owedAfter cs owed = some [] := by
  induction cs generalizing owed with
  | nil => simp [balancedFrom, owedAfter]
  | cons c cs ih =>
    simp only [balancedFrom, owedAfter, owedStep]
    by_cases ho : isOpener c = true
    · simp only [ho, ↓reduceIte, Option.bind_some, ih]
    · by_cases hc : isCloser c = true
      · simp only [ho, hc, Bool.false_eq_true, ↓reduceIte]
        cases owed with
        | nil => simp
        | cons d more =>
          by_cases hd : (d == c) = true
          · simp [hd, ih]
          · simp [hd]
      · simp [ho, hc, ih]

/-- Two texts that neither the reading of `splitFrom ","` nor that of `balancedFrom` tells
apart. -/
structure Alike (a b : List Char) : Prop where
  scan_eq : ∀ st, QuoteOk st → scan "," a st = scan "," b st
  owed_eq : ∀ owed, owedAfter a owed = owedAfter b owed

namespace Alike

variable {a b c a' b' : List Char}

@[refl] theorem refl (a : List Char) : Alike a a := ⟨fun _ _ => rfl, fun _ => rfl⟩

@[symm] theorem symm (h : Alike a b) : Alike b a :=
  ⟨fun st hst => (h.scan_eq st hst).symm, fun owed => (h.owed_eq owed).symm⟩

@[trans] theorem trans (h : Alike a b) (h' : Alike b c) : Alike a c :=
  ⟨fun st hst => (h.scan_eq st hst).trans (h'.scan_eq st hst),
    fun owed => (h.owed_eq owed).trans (h'.owed_eq owed)⟩

theorem append (ha : Alike a a') (hb : Alike b b') : Alike (a ++ b) (a' ++ b') := by
  constructor
  · intro st hst
    rw [scan_append, scan_append, ← ha.scan_eq st hst]
    cases h : scan "," a st with
    | none => rfl
    | some st' => exact hb.scan_eq st' (scan_quoteOk hst h)
  · intro owed
    rw [owedAfter_append, owedAfter_append, ha.owed_eq]
    cases owedAfter a' owed with
    | none => rfl
    | some owed' => exact hb.owed_eq owed'

theorem cons (x : Char) (h : Alike a b) : Alike (x :: a) (x :: b) :=
  (refl [x]).append h

theorem balanced_eq (h : Alike a b) : balancedFrom a [] = balancedFrom b [] := by
  rw [Bool.eq_iff_iff, balancedFrom_iff, balancedFrom_iff, h.owed_eq]

theorem scan_start (h : Alike a b) : scan "," a (0, none) = scan "," b (0, none) :=
  h.scan_eq _ quoteOk_start

end Alike

/-- A character that neither reading notices: no quote, bracket or comma. -/
def Neutral (c : Char) : Prop :=
  isQuote c = false ∧ isOpener c = false ∧ isCloser c = false ∧ c ≠ ','

theorem scanStep_neutral {c : Char} (hc : Neutral c) {st : Nat × Option Char} (hst : QuoteOk st) :
    scanStep "," st c = some st := by
  obtain ⟨hq, ho, hcl, hcomma⟩ := hc
  obtain ⟨depth, _ | q⟩ := st
  · have hsep : String.singleton c ≠ "," := fun h =>
      hcomma (String.singleton_inj.1 (h.trans (show "," = String.singleton ',' from rfl)))
    simp [scanStep, hq, ho, hcl, hsep]
  · have hne : (c == q) = false := by
      have := hst q rfl
      simp only [beq_eq_false_iff_ne]
      rintro rfl
      rw [hq] at this
      cases this
    simp [scanStep, hne]

theorem alike_nil_of_neutral : ∀ {a : List Char}, (∀ c ∈ a, Neutral c) → Alike a []
  | [], _ => Alike.refl []
  | c :: a, h => by
    have hc := h c List.mem_cons_self
    have ih := alike_nil_of_neutral fun x hx => h x (List.mem_cons_of_mem c hx)
    constructor
    · intro st hst
      simp only [scan, scanStep_neutral hc hst, Option.bind_some]
      exact ih.scan_eq st hst
    · intro owed
      have hstep : owedStep owed c = some owed := by
        simp [owedStep, hc.2.1, hc.2.2.1]
      simp only [owedAfter, hstep, Option.bind_some]
      exact ih.owed_eq owed

theorem neutral_of_isBlank {c : Char} (h : isBlank c = true) : Neutral c := by
  refine ⟨?_, ?_, ?_, ?_⟩
  · cases hq : isQuote c
    · rfl
    · simp only [isQuote, Bool.or_eq_true, beq_iff_eq] at hq
      rcases hq with rfl | rfl <;> simp [isBlank] at h
  · cases ho : isOpener c
    · rfl
    · simp only [isOpener, Bool.or_eq_true, beq_iff_eq] at ho
      rcases ho with ((rfl | rfl) | rfl) | rfl <;> simp [isBlank] at h
  · cases hc : isCloser c
    · rfl
    · simp only [isCloser, Bool.or_eq_true, beq_iff_eq] at hc
      rcases hc with ((rfl | rfl) | rfl) | rfl <;> simp [isBlank] at h
  · rintro rfl
    simp [isBlank] at h

theorem alike_blanks {a : List Char} (h : ∀ c ∈ a, isBlank c = true) : Alike a [] :=
  alike_nil_of_neutral fun c hc => neutral_of_isBlank (h c hc)

theorem trimList_spec (cs : List Char) :
    ∃ pre post, cs = pre ++ trimList cs ++ post ∧ (∀ c ∈ pre, isBlank c = true) ∧
      ∀ c ∈ post, isBlank c = true := by
  let d := cs.dropWhile isBlank
  have hd : trimList cs ++ (d.reverse.takeWhile isBlank).reverse = d := by
    simp only [trimList, dropBlanks]
    rw [← List.reverse_append, List.takeWhile_append_dropWhile, List.reverse_reverse]
  refine ⟨cs.takeWhile isBlank, (d.reverse.takeWhile isBlank).reverse, ?_,
    fun c hc => List.mem_takeWhile_imp hc, fun c hc => ?_⟩
  · rw [List.append_assoc, hd]
    exact List.takeWhile_append_dropWhile.symm
  · exact List.mem_takeWhile_imp (List.mem_reverse.1 hc)

theorem dropBlanks_eq_self {cs : List Char} (h : ∀ c ∈ cs.head?, isBlank c = false) :
    dropBlanks cs = cs := by
  cases cs with
  | nil => rfl
  | cons c cs => exact List.dropWhile_cons_of_neg (by simp [h c rfl])

theorem trimList_eq_self {cs : List Char} (hh : ∀ c ∈ cs.head?, isBlank c = false)
    (hl : ∀ c ∈ cs.getLast?, isBlank c = false) : trimList cs = cs := by
  rw [trimList, dropBlanks_eq_self hh, dropBlanks_eq_self (by rwa [List.head?_reverse]),
    List.reverse_reverse]

theorem trimList_head (cs : List Char) : ∀ c ∈ (trimList cs).head?, isBlank c = false := by
  intro c hc
  obtain ⟨rest, hrest⟩ : (dropBlanks cs).rdropWhile isBlank <+: dropBlanks cs :=
    List.rdropWhile_prefix _ _
  have hd : (dropBlanks cs).head? = some c := by
    rw [← hrest]
    change (trimList cs ++ rest).head? = some c
    simp [List.head?_append, Option.mem_def.1 hc]
  have hnot := List.head?_dropWhile_not isBlank cs
  rw [show cs.dropWhile isBlank = dropBlanks cs from rfl, hd] at hnot
  exact hnot

theorem trimList_last (cs : List Char) : ∀ c ∈ (trimList cs).getLast?, isBlank c = false := by
  intro c hc
  have hne : trimList cs ≠ [] := by
    rintro h
    simp [h] at hc
  have hnot := List.rdropWhile_last_not (p := isBlank) (l := dropBlanks cs) hne
  rw [List.getLast?_eq_some_getLast hne, Option.mem_def, Option.some.injEq] at hc
  change ¬isBlank ((trimList cs).getLast hne) = true at hnot
  rw [hc] at hnot
  simpa using hnot

theorem trimList_trimList (cs : List Char) : trimList (trimList cs) = trimList cs :=
  trimList_eq_self (trimList_head cs) (trimList_last cs)

theorem alike_trimList (cs : List Char) : Alike (trimList cs) cs := by
  obtain ⟨pre, post, hcs, hpre, hpost⟩ := trimList_spec cs
  conv => rhs; rw [hcs]
  have h := ((alike_blanks hpre).append (Alike.refl (trimList cs))).append (alike_blanks hpost)
  simpa using h.symm

theorem alike_braces : Alike ['{', '}'] [] := by
  constructor
  · rintro ⟨depth, _ | q⟩ hst
    · simp [scan, scanStep, isQuote, isOpener, isCloser]
    · have hq := hst q rfl
      have h1 : '{' ≠ q := by rintro rfl; simp [isQuote] at hq
      have h2 : '}' ≠ q := by rintro rfl; simp [isQuote] at hq
      simp [scan, scanStep, h1, h2]
  · intro owed
    simp [owedAfter, owedStep, isOpener, isCloser, closerOf]

theorem Parts.of_alike {ps qs : List String} (h : Parts "," ps)
    (hq : List.Forall₂ (fun p q => Alike p.toList q.toList) ps qs) : Parts "," qs := by
  induction h generalizing qs with
  | last hp =>
    cases hq with
    | cons hpq hrest =>
      cases hrest
      exact .last (by rwa [← hpq.scan_start])
  | cons hp hps ih =>
    cases hq with
    | cons hpq hrest => exact .cons (by rwa [← hpq.scan_start]) (ih hrest)

theorem alike_intercalate {sep : String} {ps qs : List String}
    (h : List.Forall₂ (fun p q => Alike p.toList q.toList) ps qs) :
    Alike (sep.intercalate ps).toList (sep.intercalate qs).toList := by
  induction h with
  | nil => exact Alike.refl _
  | @cons p q ps qs hpq hrest ih =>
    cases hrest with
    | nil => simpa using hpq
    | cons hpq' hrest' =>
      rw [String.intercalate_cons_cons, String.intercalate_cons_cons]
      simp only [String.toList_append]
      exact (hpq.append (Alike.refl _)).append ih

end SchemaNotation.Notation
