import SchemaNotation.Notation.Reader
import SchemaNotation.Proofs.LineFaults

/-! Lists of numbered lines that agree up to a line number, and what a reader of a document
has decided by that line. A reader works on the lines left to read and answers a fault or a
value with the lines it leaves; `Within` says that its faults name lines it was given and that
the lines it leaves are a suffix of them. -/

namespace SchemaNotation.Notation

open Text

/-- Two lists of numbered lines agree on every line numbered `N` or less. -/
inductive Agree (N : Nat) : Lines → Lines → Prop
  | beyond {ls ls' : Lines} : (∀ x ∈ ls, N < x.1) → (∀ x ∈ ls', N < x.1) → Agree N ls ls'
  | cons {x : Nat × String} {ls ls' : Lines} :
      x.1 ≤ N → Agree N ls ls' → Agree N (x :: ls) (x :: ls')

/-- Lines numbered in increasing order, as the lines of a document are. -/
def Ascending (ls : Lines) : Prop := ls.Pairwise (fun x y => x.1 < y.1)

theorem Ascending.tail {x : Nat × String} {ls : Lines} (ha : Ascending (x :: ls)) : Ascending ls :=
  (List.pairwise_cons.1 ha).2

theorem Ascending.head_le {x y : Nat × String} {ls : Lines} (ha : Ascending (x :: ls))
    (hy : y ∈ x :: ls) : x.1 ≤ y.1 := by
  rcases List.mem_cons.1 hy with rfl | hy
  · exact Nat.le_refl _
  · exact Nat.le_of_lt ((List.pairwise_cons.1 ha).1 y hy)

theorem Agree.refl {N : Nat} {ls : Lines} (ha : Ascending ls) : Agree N ls ls := by
  induction ls with
  | nil => exact .beyond (fun _ h => nomatch h) (fun _ h => nomatch h)
  | cons x rest ih =>
    by_cases hx : x.1 ≤ N
    · exact .cons hx (ih ha.tail)
    · have hall : ∀ y ∈ x :: rest, N < y.1 := fun y hy => by
        have := ha.head_le hy
        omega
      exact .beyond hall hall

/-- The lines start with one numbered `N` or less. -/
def StartsBy (N : Nat) (ls : Lines) : Prop := ∃ x ∈ ls.head?, x.1 ≤ N

/-- A line that ends a block of free text whatever line follows it. -/
def closesText (l : String) : Bool := isBlankLine l || isCommentLine l || isModuleHeader l

/-- The lines start by line `N`, and a reader that looks at the line after the first one to
decide where free text ends does not look past line `N`: the first line ends free text by
itself, or the second is numbered `N` or less. -/
def StartsFirm (N : Nat) (ls : Lines) : Prop :=
  ∃ x ∈ ls.head?, x.1 ≤ N ∧ (closesText x.2 = true ∨ StartsBy N ls.tail)

/-- What a reader answers with: the lines it leaves to read, after the values it read. -/
class Leaves (γ : Type) where
  /-- The lines left to read. -/
  left : γ → Lines
  /-- The same values, with lines left to read that agree up to line `N`. -/
  Like : Nat → γ → γ → Prop
  /-- A value that leaves ascending lines is like itself. -/
  like_refl : ∀ N a, Ascending (left a) → Like N a a

instance : Leaves Lines := ⟨id, Agree, fun _ _ ha => Agree.refl ha⟩

instance {α γ : Type} [Leaves γ] : Leaves (α × γ) :=
  ⟨fun a => Leaves.left a.2, fun N a b => a.1 = b.1 ∧ Leaves.Like N a.2 b.2,
    fun N a ha => ⟨rfl, Leaves.like_refl N a.2 ha⟩⟩

open Leaves

/-- The outcome of reading `ls`: a fault other than a missing line names one of the lines, and
the lines left to read are a suffix of them. -/
def Within {γ : Type} [Leaves γ] (ls : Lines) (r : Parse γ) : Prop :=
  (∀ e, r = .error e → e.fault.kind ≠ .endOfInput → ∃ x ∈ ls, e.line = some x.1) ∧
    ∀ a, r = .ok a → left a <:+ ls

/-- A fault found on line `N` or before, other than a missing line. -/
def FaultBy (N : Nat) (e : ParseError) : Prop :=
  e.fault.kind ≠ .endOfInput ∧ ∃ M, e.line = some M ∧ M ≤ N

/-- An outcome decided by line `N`: a fault found by line `N`, or lines left to read that start
by line `N`. -/
def Settled {γ : Type} [Leaves γ] (N : Nat) (r : Parse γ) : Prop :=
  (∀ e, r = .error e → FaultBy N e) ∧ ∀ a, r = .ok a → StartsBy N (left a)

/-- An outcome decided by line `N` even for a reader that goes on looking one line ahead. -/
def Decided {γ : Type} [Leaves γ] (N : Nat) (r : Parse γ) : Prop :=
  (∀ e, r = .error e → FaultBy N e) ∧ ∀ a, r = .ok a → StartsFirm N (left a)

/-- Two outcomes that are the same up to line `N`: the same fault, or the same values with lines
left to read that agree up to line `N`. -/
def Same {γ : Type} [Leaves γ] (N : Nat) (r r' : Parse γ) : Prop :=
  (∀ e, r = .error e → r' = .error e) ∧ ∀ a, r = .ok a → ∃ a', r' = .ok a' ∧ Like N a a'

section Outcomes

variable {α γ : Type} [Leaves γ] {N : Nat} {ls : Lines} {a : γ} {e : ParseError}

@[simp] theorem left_lines (ls : Lines) : left ls = ls := rfl

@[simp] theorem left_pair (v : α) (c : γ) : left (v, c) = left c := rfl

@[simp] theorem like_lines {ls ls' : Lines} : Like N ls ls' ↔ Agree N ls ls' := Iff.rfl

@[simp] theorem like_pair {v v' : α} {c c' : γ} : Like N (v, c) (v', c') ↔ v = v' ∧ Like N c c' :=
  Iff.rfl

@[simp] theorem startsBy_nil : ¬ StartsBy N [] := by simp [StartsBy]

@[simp] theorem startsBy_cons {x : Nat × String} : StartsBy N (x :: ls) ↔ x.1 ≤ N := by
  simp [StartsBy]

theorem StartsBy.exists_cons (h : StartsBy N ls) : ∃ x rest, ls = x :: rest := by
  cases ls with
  | nil => exact absurd h startsBy_nil
  | cons x rest => exact ⟨x, rest, rfl⟩

@[simp] theorem startsFirm_nil : ¬ StartsFirm N [] := by simp [StartsFirm]

@[simp] theorem startsFirm_cons {x : Nat × String} :
    StartsFirm N (x :: ls) ↔ x.1 ≤ N ∧ (closesText x.2 = true ∨ StartsBy N ls) := by
  simp [StartsFirm]

theorem StartsFirm.startsBy (h : StartsFirm N ls) : StartsBy N ls := by
  obtain ⟨x, hx, hN, _⟩ := h
  exact ⟨x, hx, hN⟩

@[simp] theorem within_error : Within ls (.error e : Parse γ) ↔
    (e.fault.kind ≠ .endOfInput → ∃ x ∈ ls, e.line = some x.1) := by
  simp [Within]

@[simp] theorem within_ok : Within ls (.ok a) ↔ left a <:+ ls := by
  simp [Within]

@[simp] theorem settled_error : Settled N (.error e : Parse γ) ↔ FaultBy N e := by
  simp [Settled]

@[simp] theorem settled_ok : Settled N (.ok a) ↔ StartsBy N (left a) := by
  simp [Settled]

@[simp] theorem decided_error : Decided N (.error e : Parse γ) ↔ FaultBy N e := by
  simp [Decided]

@[simp] theorem decided_ok : Decided N (.ok a) ↔ StartsFirm N (left a) := by
  simp [Decided]

@[simp] theorem same_error {r' : Parse γ} : Same N (.error e) r' ↔ r' = .error e := by
  simp [Same]

@[simp] theorem same_ok {r' : Parse γ} : Same N (.ok a) r' ↔ ∃ a', r' = .ok a' ∧ Like N a a' := by
  simp [Same]

theorem Decided.settled {r : Parse γ} (h : Decided N r) : Settled N r :=
  ⟨h.1, fun a hr => (h.2 a hr).startsBy⟩

theorem Settled.decided {r : Parse γ} (hs : Settled N r)
    (hc : ∀ a, r = .ok a → ∀ x ∈ (left a).head?, closesText x.2 = true) : Decided N r := by
  refine ⟨hs.1, fun a hr => ?_⟩
  obtain ⟨x, hx, hxN⟩ := hs.2 a hr
  exact ⟨x, hx, hxN, .inl (hc a hr x hx)⟩

end Outcomes

section Agreement

variable {N : Nat}

theorem Agree.cons_inv {x : Nat × String} {ls ls' : Lines} (h : Agree N (x :: ls) ls')
    (hx : x.1 ≤ N) : ∃ rest', ls' = x :: rest' ∧ Agree N ls rest' := by
  cases h with
  | beyond hl _ => exact absurd (hl x List.mem_cons_self) (by omega)
  | cons _ h => exact ⟨_, rfl, h⟩

theorem Agree.head?_eq {ls ls' : Lines} (h : Agree N ls ls') (hs : StartsBy N ls) :
    ls'.head? = ls.head? := by
  match ls, hs with
  | x :: ls, hs =>
    obtain ⟨rest', rfl, _⟩ := h.cons_inv (startsBy_cons.1 hs)
    rfl

theorem Ascending.of_suffix {ls ls' : Lines} (h : ls <:+ ls') (ha : Ascending ls') :
    Ascending ls :=
  List.Pairwise.sublist h.sublist ha

theorem startsBy_of_mem {ls : Lines} {y : Nat × String} (ha : Ascending ls) (hy : y ∈ ls)
    (hN : y.1 ≤ N) : StartsBy N ls := by
  match ls, ha with
  | x :: ls, ha => exact startsBy_cons.2 (Nat.le_trans (ha.head_le hy) hN)

theorem startsBy_of_suffix {ls rest : Lines} (ha : Ascending ls) (h : rest <:+ ls)
    (hs : StartsBy N rest) : StartsBy N ls := by
  obtain ⟨x, hx, hN⟩ := hs
  exact startsBy_of_mem ha (h.subset (List.mem_of_mem_head? hx)) hN

theorem startsFirm_cons_of_startsBy {x : Nat × String} {rest : Lines} (ha : Ascending (x :: rest))
    (h : StartsBy N rest) : StartsFirm N (x :: rest) := by
  obtain ⟨y, hy, hyN⟩ := h
  have hxy := ha.head_le (List.mem_cons_of_mem x (List.mem_of_mem_head? hy))
  exact startsFirm_cons.2 ⟨by omega, .inr ⟨y, hy, hyN⟩⟩

theorem startsFirm_of_suffix {ls rest : Lines} (ha : Ascending ls) (h : rest <:+ ls)
    (hs : StartsFirm N rest) : StartsFirm N ls := by
  match ls, ha with
  | [] , _ => exact absurd (List.eq_nil_of_suffix_nil h ▸ hs) startsFirm_nil
  | x :: ls, ha =>
    rcases List.suffix_cons_iff.1 h with rfl | h
    · exact hs
    · exact startsFirm_cons_of_startsBy ha (startsBy_of_suffix ha.tail h hs.startsBy)

theorem Settled.startsBy {γ : Type} [Leaves γ] {ls : Lines} {r : Parse γ} (hs : Settled N r)
    (ha : Ascending ls) (hw : Within ls r) : StartsBy N ls := by
  cases hr : r with
  | error e =>
    obtain ⟨hk, M, hM, hMN⟩ := hs.1 e hr
    obtain ⟨x, hx, hxe⟩ := hw.1 e hr hk
    rw [hM, Option.some.injEq] at hxe
    exact startsBy_of_mem ha hx (hxe ▸ hMN)
  | ok a => exact startsBy_of_suffix ha (hw.2 a hr) (hs.2 a hr)

end Agreement

section Consumed

variable {α γ δ : Type} [Leaves γ] [Leaves δ]

theorem Within.mono {ls ls' : Lines} {r : Parse γ} (h : ls <:+ ls') (hw : Within ls r) :
    Within ls' r := by
  refine ⟨fun e he hk => ?_, fun a hr => (hw.2 a hr).trans h⟩
  obtain ⟨x, hx, hxe⟩ := hw.1 e he hk
  exact ⟨x, h.subset hx, hxe⟩

theorem Within.cons {ls : Lines} {x : Nat × String} {r : Parse γ} (hw : Within ls r) :
    Within (x :: ls) r :=
  hw.mono (List.suffix_cons _ _)

theorem within_pure {ls : Lines} {a : γ} (h : left a <:+ ls) : Within ls (pure a : Parse γ) :=
  within_ok.2 h

theorem within_throw {ls : Lines} {n : Nat} {l : String} (hx : (n, l) ∈ ls) (f : Fault) :
    Within ls (throw ⟨f, some n⟩ : Parse γ) :=
  within_error.2 fun _ => ⟨(n, l), hx, rfl⟩

theorem within_throw_end {ls : Lines} {f : Fault} (hf : f.kind = .endOfInput)
    (line : Option Nat) : Within ls (throw ⟨f, line⟩ : Parse γ) :=
  within_error.2 fun hk => absurd hf hk

theorem within_throw_bind {ls : Lines} {n : Nat} {l : String} (hx : (n, l) ∈ ls) (f : Fault)
    (g : α → Parse γ) : Within ls (throw ⟨f, some n⟩ >>= g) :=
  within_throw hx f

theorem within_throw_end_bind {ls : Lines} {f : Fault} (hf : f.kind = .endOfInput)
    (line : Option Nat) (g : α → Parse γ) : Within ls (throw ⟨f, line⟩ >>= g) :=
  within_throw_end hf line

theorem within_bind {ls : Lines} {r : Parse γ} {f : γ → Parse δ} (hr : Within ls r)
    (hf : ∀ a, r = .ok a → Within (left a) (f a)) : Within ls (r >>= f) := by
  cases hq : r with
  | error e => exact within_error.2 (hr.1 e hq)
  | ok a => exact (hf a hq).mono (hr.2 a hq)

theorem within_line_bind {ls : Lines} {n : Nat} {l : String} {p : Parse α} {f : α → Parse γ}
    (hx : (n, l) ∈ ls) (hp : FaultsOn (some n) p) (hf : ∀ a, p = .ok a → Within ls (f a)) :
    Within ls (p >>= f) := by
  cases hq : p with
  | error e => exact within_error.2 fun _ => ⟨(n, l), hx, hp e hq⟩
  | ok a => exact hf a hq

end Consumed

section Steps

/-! How outcomes compose: a reader that reads with `r` and goes on with `f` agrees with one
that reads with `r'` and goes on with `f'` when each step does, and it has decided by line `N`
only if its first step has. -/

variable {α γ δ : Type} [Leaves γ] [Leaves δ] {N : Nat}

theorem bind_eq_ok {β : Type} {p : Parse α} {f : α → Parse β} {b : β} (h : (p >>= f) = .ok b) :
    ∃ a, p = .ok a ∧ f a = .ok b := by
  cases hp : p with
  | error e =>
    rw [hp] at h
    cases h
  | ok a =>
    rw [hp] at h
    exact ⟨a, rfl, h⟩

theorem Same.bind {r r' : Parse γ} {f f' : γ → Parse δ} (hr : Same N r r')
    (hf : ∀ a a', r = .ok a → r' = .ok a' → Like N a a' → Same N (f a) (f' a')) :
    Same N (r >>= f) (r' >>= f') := by
  cases hq : r with
  | error e =>
    rw [hr.1 e hq]
    exact same_error.2 rfl
  | ok a =>
    obtain ⟨a', hr', hlike⟩ := hr.2 a hq
    rw [hr']
    exact hf a a' hq hr' hlike

theorem Same.line_bind {p : Parse α} {f f' : α → Parse γ}
    (hf : ∀ a, p = .ok a → Same N (f a) (f' a)) : Same N (p >>= f) (p >>= f') := by
  cases hq : p with
  | error e => exact same_error.2 rfl
  | ok a => exact hf a hq

theorem Same.pure {a a' : γ} (h : Like N a a') : Same N (pure a) (pure a' : Parse γ) :=
  same_ok.2 ⟨a', rfl, h⟩

theorem Settled.bind_ok {r : Parse α} {f : α → Parse γ} {a : α} (hs : Settled N (r >>= f))
    (hr : r = .ok a) : Settled N (f a) := by
  rw [hr] at hs
  exact hs

theorem Decided.bind_ok {r : Parse α} {f : α → Parse γ} {a : α} (hs : Decided N (r >>= f))
    (hr : r = .ok a) : Decided N (f a) := by
  rw [hr] at hs
  exact hs

theorem Settled.of_bind {ls : Lines} {r : Parse γ} {f : γ → Parse δ} (hs : Settled N (r >>= f))
    (ha : Ascending ls) (hw : Within ls r) (hf : ∀ a, r = .ok a → Within (left a) (f a)) :
    Settled N r := by
  cases hq : r with
  | error e =>
    rw [hq] at hs
    exact settled_error.2 (settled_error.1 hs)
  | ok a =>
    have hsa := hs.bind_ok hq
    exact settled_ok.2 (hsa.startsBy (ha.of_suffix (hw.2 a hq)) (hf a hq))

theorem Decided.of_bind {r : Parse γ} {f : γ → Parse δ} (hs : Decided N (r >>= f))
    (hf : ∀ a, r = .ok a → Decided N (f a) → StartsFirm N (left a)) : Decided N r := by
  cases hq : r with
  | error e =>
    rw [hq] at hs
    exact decided_error.2 (decided_error.1 hs)
  | ok a => exact decided_ok.2 (hf a hq (hs.bind_ok hq))

theorem Decided.of_bind_pure {r : Parse γ} {g : γ → δ} (hs : Decided N (r >>= fun b => pure (g b)))
    (hg : ∀ b, left (g b) = left b) : Decided N r :=
  hs.of_bind fun b _ hb => hg b ▸ decided_ok.1 hb

end Steps

theorem skipNotes_suffix (ls : Lines) : (skipNotes ls).2 <:+ ls := by
  induction ls with
  | nil => exact List.suffix_refl _
  | cons x rest ih =>
    obtain ⟨n, l⟩ := x
    simp only [skipNotes]
    split
    · exact ih.trans (List.suffix_cons _ _)
    · split
      · exact ih.trans (List.suffix_cons _ _)
      · exact List.suffix_refl _

theorem readModuleList_suffix (ls : Lines) : (readModuleList ls).2 <:+ ls := by
  induction ls with
  | nil => exact List.suffix_refl _
  | cons x rest ih =>
    obtain ⟨n, l⟩ := x
    simp only [readModuleList]
    split
    · exact ih.trans (List.suffix_cons _ _)
    · split
      · exact ih.trans (List.suffix_cons _ _)
      · exact List.suffix_refl _

theorem readFeatureLines_suffix (ls : Lines) : (readFeatureLines ls).2 <:+ ls := by
  fun_induction readFeatureLines ls with
  | case1 => exact List.suffix_refl _
  | case2 => exact List.suffix_refl _
  | case3 n l rest _ _ _ after h ih =>
    rw [h] at ih
    exact ih.trans (List.suffix_cons _ _)

theorem frontMatterFrom_within (start : Nat) (ls : Lines) (m : Metadata) :
    Within ls (frontMatterFrom start ls m) := by
  fun_induction frontMatterFrom start ls m
  case case1 => exact within_throw_end rfl _
  case case2 => exact within_pure (List.suffix_cons _ _)
  case case3 ih | case4 ih | case5 ih => exact ih.cons

theorem readFrontMatter_within : ∀ ls : Lines, Within ls (readFrontMatter ls)
  | [] => within_pure (List.suffix_refl _)
  | (n, l) :: rest => by
    simp only [readFrontMatter]
    split
    · exact (frontMatterFrom_within n rest _).cons
    · exact within_pure (List.suffix_refl _)

theorem readHeader_within : ∀ ls : Lines, Within ls (readHeader ls)
  | [] => within_pure (List.suffix_refl _)
  | (n, l) :: rest => by
    simp only [readHeader]
    split
    · split
      · exact within_pure (List.suffix_cons _ _)
      · exact within_throw List.mem_cons_self _
    · exact within_pure (List.suffix_refl _)

theorem relationshipsFrom_within (ls : Lines) : Within ls (relationshipsFrom ls) := by
  induction ls with
  | nil => exact within_pure (List.suffix_refl _)
  | cons x rest ih =>
    obtain ⟨n, l⟩ := x
    simp only [relationshipsFrom]
    split
    · exact ih.cons
    · split
      · exact within_pure (List.suffix_refl _)
      · exact within_line_bind List.mem_cons_self (readRelationship_faultsOn l (some n)) fun _ _ =>
          within_bind ih.cons fun _ _ => within_pure (List.suffix_refl _)

theorem readFields_within (ls : Lines) : Within ls (readFields ls) := by
  induction ls with
  | nil => exact within_pure (List.suffix_refl _)
  | cons x rest ih =>
    obtain ⟨n, l⟩ := x
    simp only [readFields]
    split
    · split
      · exact within_line_bind List.mem_cons_self (readField_faultsOn l (some n)) fun _ _ =>
          within_bind ih.cons fun _ _ => within_pure (List.suffix_refl _)
      · exact within_pure (List.suffix_refl _)
    · exact within_pure (List.suffix_refl _)

theorem readLinkSection_within (ls : Lines) : Within ls (readLinkSection ls) := by
  induction ls with
  | nil => exact within_pure (List.suffix_refl _)
  | cons x rest ih =>
    obtain ⟨n, l⟩ := x
    simp only [readLinkSection]
    split
    · exact within_bind ih.cons fun _ _ => within_pure (List.suffix_refl _)
    · split
      · exact within_line_bind List.mem_cons_self (readLink_faultsOn _ (some n)) fun _ _ =>
          within_bind ih.cons fun _ _ => within_pure (List.suffix_refl _)
      · exact within_pure (List.suffix_refl _)

theorem readTrailing_within (fuel : Nat) (ls : Lines) : Within ls (readTrailing fuel ls) := by
  induction fuel generalizing ls with
  | zero => exact within_pure (List.suffix_refl _)
  | succ fuel ih =>
    match ls with
    | [] => exact within_pure (List.suffix_refl _)
    | (n, l) :: rest =>
      simp only [readTrailing]
      split
      · exact within_bind (readLinkSection_within rest).cons fun a _ =>
          within_bind (ih a.2) fun _ _ => within_pure (List.suffix_refl _)
      · split
        · exact within_bind ((ih _).mono ((readFeatureLines_suffix rest).trans (List.suffix_cons _ _)))
            fun _ _ => within_pure (List.suffix_refl _)
        · exact within_pure (List.suffix_refl _)

theorem readEntity_within_rest (endLine n : Nat) (l : String) (rest : Lines)
    (hname : (splitComment (trim l)).1.isEmpty = false) :
    Within rest (readEntity endLine n l rest) := by
  simp only [readEntity, hname, pure_bind, Bool.false_eq_true, ↓reduceIte]
  match rest with
  | [] => exact within_throw_end_bind rfl _ _
  | (m, sep) :: more =>
    have hmore : more <:+ (m, sep) :: more := List.suffix_cons _ _
    simp only
    split
    · exact within_bind ((readFields_within more).mono hmore) fun a _ =>
        within_bind (readTrailing_within _ a.2) fun _ _ => within_pure (List.suffix_refl _)
    · split
      · exact within_bind ((readFields_within more).mono hmore) fun a _ =>
          within_bind (readTrailing_within _ a.2) fun _ _ => within_pure (List.suffix_refl _)
      · exact within_throw_bind List.mem_cons_self _ _

theorem readEntity_within (endLine n : Nat) (l : String) (rest : Lines) :
    Within ((n, l) :: rest) (readEntity endLine n l rest) := by
  cases hname : (splitComment (trim l)).1.isEmpty
  · exact (readEntity_within_rest endLine n l rest hname).cons
  · simp only [readEntity, hname, ↓reduceIte]
    exact within_throw_bind List.mem_cons_self _ _

theorem skipBlank_suffix (ls : Lines) : skipBlank ls <:+ ls :=
  List.dropWhile_suffix _

theorem readEntity_ok_suffix {endLine n : Nat} {l : String} {rest : Lines} {a : Entity × Lines}
    (h : readEntity endLine n l rest = .ok a) : a.2 <:+ rest := by
  cases hname : (splitComment (trim l)).1.isEmpty
  · exact (readEntity_within_rest endLine n l rest hname).2 a h
  · simp only [readEntity, hname, ↓reduceIte] at h
    cases h

theorem readEntities_within (endLine fuel : Nat) (ls : Lines) :
    Within ls (readEntities endLine fuel ls) := by
  induction fuel generalizing ls with
  | zero => exact within_pure (List.suffix_refl _)
  | succ fuel ih =>
    simp only [readEntities]
    split
    · exact within_pure List.nil_suffix
    · rename_i n l rest h
      have hs : (n, l) :: rest <:+ ls := h ▸ skipNotes_suffix ls
      split
      · exact within_pure hs
      · exact within_bind ((readEntity_within endLine n l rest).mono hs) fun a _ =>
          within_bind (ih a.2) fun _ _ => within_pure (List.suffix_refl _)

theorem readEntities_succ_within (endLine fuel : Nat) (ls : Lines) :
    Within (skipNotes ls).2 (readEntities endLine (fuel + 1) ls) := by
  simp only [readEntities]
  split
  · exact within_pure List.nil_suffix
  · rename_i n l rest h
    split
    · exact within_pure (h ▸ List.suffix_refl _)
    · exact h ▸ within_bind (readEntity_within endLine n l rest) fun a _ =>
        within_bind (readEntities_within endLine fuel a.2) fun _ _ =>
          within_pure (List.suffix_refl _)

section Milestones

/-! Readers that record milestones. What they answer does not depend on the milestones recorded
before, which they only extend. -/

variable {α β γ δ : Type} [Leaves γ] [Leaves δ]

theorem run_bind (x : ReadM α) (f : α → ReadM β) (σ : Array Milestone) :
    (x >>= f).run.run σ = match x.run.run σ with
      | (.ok a, σ') => (f a).run.run σ'
      | (.error e, σ') => (.error e, σ') := by
  simp only [ExceptT.run_bind, StateT.run_bind]
  rcases x.run.run σ with ⟨_ | a, σ'⟩ <;> rfl

@[simp] theorem run_fromParse (p : Parse α) (σ : Array Milestone) :
    (fromParse p).run.run σ = (p, σ) := rfl

@[simp] theorem run_pure (a : α) (σ : Array Milestone) :
    (pure a : ReadM α).run.run σ = (.ok a, σ) := rfl

@[simp] theorem run_throw (e : ParseError) (σ : Array Milestone) :
    (throw e : ReadM α).run.run σ = (.error e, σ) := rfl

theorem run_reach_bind (m : Milestone) (f : Unit → ReadM α) (σ : Array Milestone) :
    (reach m >>= f).run.run σ = (f ()).run.run (σ.push m) := rfl

theorem within_run_bind {ls : Lines} {x : ReadM γ} {f : γ → ReadM δ} {σ : Array Milestone}
    (hx : Within ls (x.run.run σ).1)
    (hf : ∀ a σ', x.run.run σ = (.ok a, σ') → Within (left a) ((f a).run.run σ').1) :
    Within ls ((x >>= f).run.run σ).1 := by
  rw [run_bind]
  rcases h : x.run.run σ with ⟨_ | a, σ'⟩
  · rw [h] at hx
    exact within_error.2 (within_error.1 hx)
  · rw [h] at hx
    exact (hf a σ' h).mono (within_ok.1 hx)

end Milestones

theorem readRelationshipBlock_within (ls : Lines) (σ : Array Milestone) :
    Within ls ((readRelationshipBlock ls).run.run σ).1 := by
  match ls with
  | [] => exact within_pure (List.suffix_refl _)
  | (n, l) :: rest =>
    simp only [readRelationshipBlock]
    split
    · refine within_run_bind (relationshipsFrom_within rest).cons fun a σ' _ => ?_
      rw [run_reach_bind]
      exact within_pure (List.suffix_refl _)
    · exact within_pure (List.suffix_refl _)

theorem readSection_within (endLine : Nat) (l : String) (rest : Lines) (σ : Array Milestone) :
    Within rest ((readSection endLine l rest).run.run σ).1 := by
  simp only [readSection]
  split
  · rename_i n c more h
    have hs : (n, c) :: more <:+ rest := h ▸ skipBlank_suffix rest
    split
    · refine within_run_bind ((readEntities_within endLine _ more).mono
        ((List.suffix_cons _ _).trans hs)) fun a σ' _ => ?_
      rw [run_reach_bind]
      exact within_pure (List.suffix_refl _)
    · refine within_run_bind ((readEntities_within endLine _ _).mono hs) fun a σ' _ => ?_
      rw [run_reach_bind]
      exact within_pure (List.suffix_refl _)
  · refine within_run_bind ((readEntities_within endLine _ []).mono List.nil_suffix)
      fun a σ' _ => ?_
    rw [run_reach_bind]
    exact within_pure (List.suffix_refl _)

theorem readSections_within (endLine fuel : Nat) (ls : Lines) (σ : Array Milestone) :
    Within ls ((readSections endLine fuel ls).run.run σ).1 := by
  induction fuel generalizing ls σ with
  | zero => exact within_pure (List.suffix_refl _)
  | succ fuel ih =>
    simp only [readSections]
    split
    · exact within_pure List.nil_suffix
    · rename_i n l rest h
      have hs : (n, l) :: rest <:+ ls := h ▸ skipNotes_suffix ls
      split
      · refine within_run_bind ((readSection_within endLine l rest σ).mono
          ((List.suffix_cons _ _).trans hs)) fun a σ' _ => ?_
        exact within_run_bind (ih a.2 σ') fun _ _ _ => within_pure (List.suffix_refl _)
      · exact within_pure hs

theorem readSections_succ_within (endLine fuel : Nat) (ls : Lines) (σ : Array Milestone) :
    Within (skipNotes ls).2 ((readSections endLine (fuel + 1) ls).run.run σ).1 := by
  simp only [readSections]
  split
  · exact within_pure List.nil_suffix
  · rename_i n l rest h
    rw [h]
    split
    · refine within_run_bind (readSection_within endLine l rest σ).cons fun a σ' _ => ?_
      exact within_run_bind (readSections_within endLine fuel a.2 σ') fun _ _ _ =>
        within_pure (List.suffix_refl _)
    · exact within_pure (List.suffix_refl _)

theorem readSchema_within (endLine : Nat) (ls : Lines) (σ : Array Milestone) :
    Within ls ((readSchema endLine ls).run.run σ).1 := by
  match ls with
  | [] => exact within_throw_end rfl _
  | (n, l) :: rest =>
    simp only [readSchema]
    split
    · exact within_throw List.mem_cons_self _
    · refine within_run_bind ((readSections_within endLine _ _ σ).mono
        ((readModuleList_suffix rest).trans (List.suffix_cons _ _))) fun _ _ _ => ?_
      exact within_pure (List.suffix_refl _)

end SchemaNotation.Notation
