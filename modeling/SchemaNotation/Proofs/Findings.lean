import SchemaNotation.Check.Report

/-! How findings combine, and what a pass reports.

Findings form a monoid under `++`, so a pass over items is its items' findings in order:
`concatMap_cons` and `withEarlier_cons` unfold one item. `ofKind k` keeps the errors of kind `k`,
in order. `KindsIn ks` bounds the kinds a pass can report and `NoWarning p` says that no warning
passes a test `p`. `Reports ss p` says what a pass reports, its texts aside: the kind and place of
each of its errors, in order, and no warning passing `p`; it is stated once for each pass, and the
kinds, the errors of a kind and the bound on warnings all follow from it. -/

namespace SchemaNotation

/-- Where an error points: the entity, the field and the offending value it names. -/
def Issue.place (i : Issue) : Option String × Option String × Option String :=
  (i.entity, i.field, i.target)

/-- What an error reports, its text aside: its kind and where it points. -/
def Issue.summary (i : Issue) : IssueKind × Option String × Option String × Option String :=
  (i.kind, i.place)

namespace Findings

@[ext] theorem ext {a b : Findings} (he : a.errors = b.errors) (hw : a.warnings = b.warnings) :
    a = b := by
  cases a
  cases b
  simp_all

@[simp] theorem errors_append (a b : Findings) : (a ++ b).errors = a.errors ++ b.errors := rfl

@[simp] theorem warnings_append (a b : Findings) : (a ++ b).warnings = a.warnings ++ b.warnings :=
  rfl

@[simp] theorem errors_none : Findings.none.errors = [] := rfl

@[simp] theorem warnings_none : Findings.none.warnings = [] := rfl

@[simp] theorem errors_warn (w : String) : (warn w).errors = [] := rfl

@[simp] theorem errors_error (i : Issue) : (error i).errors = [i] := rfl

@[simp] theorem none_append (a : Findings) : Findings.none ++ a = a := by
  ext <;> simp

@[simp] theorem append_none (a : Findings) : a ++ Findings.none = a := by
  ext <;> simp

theorem append_assoc (a b c : Findings) : a ++ b ++ c = a ++ (b ++ c) := by
  ext <;> simp

section Passes

variable {α : Type}

@[simp] theorem concatMap_nil (f : α → Findings) : concatMap [] f = Findings.none := rfl

theorem foldl_append_eq (xs : List α) (f : α → Findings) (acc : Findings) :
    xs.foldl (fun acc x => acc ++ f x) acc = acc ++ concatMap xs f := by
  induction xs generalizing acc with
  | nil => simp
  | cons x xs ih =>
    simp only [concatMap, List.foldl_cons, none_append] at ih ⊢
    rw [ih, ih (f x), append_assoc]

@[simp] theorem concatMap_cons (x : α) (xs : List α) (f : α → Findings) :
    concatMap (x :: xs) f = f x ++ concatMap xs f := by
  simp only [concatMap, List.foldl_cons, none_append]
  exact foldl_append_eq xs f (f x)

@[simp] theorem withEarlier_nil (f : List α → α → Findings) : withEarlier [] f = Findings.none :=
  rfl

theorem foldl_withEarlier (xs : List α) (f : List α → α → Findings) (pre : List α)
    (acc : Findings) :
    (xs.foldl (fun (acc : List α × Findings) x => (acc.1 ++ [x], acc.2 ++ f acc.1 x))
        (pre, acc)).2 =
      acc ++ withEarlier xs (fun before => f (pre ++ before)) := by
  induction xs generalizing f pre acc with
  | nil => simp [withEarlier]
  | cons x xs ih =>
    simp only [withEarlier, List.foldl_cons, List.nil_append, none_append] at ih ⊢
    rw [ih, ih (fun before => f (pre ++ before)) [x] (f (pre ++ []) x), append_assoc]
    simp [List.append_assoc]

@[simp] theorem withEarlier_cons (x : α) (xs : List α) (f : List α → α → Findings) :
    withEarlier (x :: xs) f = f [] x ++ withEarlier xs (fun before => f (x :: before)) := by
  rw [withEarlier, List.foldl_cons]
  exact foldl_withEarlier xs f [x] _ |>.trans (by simp)

end Passes

/-- The errors of kind `k`, in the order found. -/
def ofKind (k : IssueKind) (F : Findings) : List Issue := F.errors.filter (·.kind = k)

section Kinds

variable {α : Type} {k : IssueKind}

@[simp] theorem ofKind_append (a b : Findings) : (a ++ b).ofKind k = a.ofKind k ++ b.ofKind k := by
  simp [ofKind]

@[simp] theorem ofKind_none : Findings.none.ofKind k = [] := rfl

@[simp] theorem ofKind_warn (w : String) : (warn w).ofKind k = [] := rfl

@[simp] theorem ofKind_error (i : Issue) :
    (error i).ofKind k = if i.kind = k then [i] else [] := by
  by_cases h : i.kind = k <;> simp [ofKind, h]

@[simp] theorem ofKind_ite (c : Prop) [Decidable c] (a b : Findings) :
    (if c then a else b).ofKind k = if c then a.ofKind k else b.ofKind k :=
  apply_ite _ _ _ _

@[simp] theorem errors_ite (c : Prop) [Decidable c] (a b : Findings) :
    (if c then a else b).errors = if c then a.errors else b.errors :=
  apply_ite _ _ _ _

theorem ofKind_eq_nil_of_errors {F : Findings} (h : F.errors = []) : F.ofKind k = [] := by
  simp [ofKind, h]

theorem ofKind_concatMap (xs : List α) (f : α → Findings) :
    (concatMap xs f).ofKind k = xs.flatMap fun x => (f x).ofKind k := by
  induction xs with
  | nil => rfl
  | cons x xs ih => simp [ih]

theorem errors_concatMap (xs : List α) (f : α → Findings) :
    (concatMap xs f).errors = xs.flatMap fun x => (f x).errors := by
  induction xs with
  | nil => rfl
  | cons x xs ih => simp [ih]

theorem warnings_concatMap (xs : List α) (f : α → Findings) :
    (concatMap xs f).warnings = xs.flatMap fun x => (f x).warnings := by
  induction xs with
  | nil => rfl
  | cons x xs ih => simp [ih]

theorem ofKind_withEarlier (xs : List α) {f : List α → α → Findings} {g : α → List Issue}
    (h : ∀ before x, (f before x).ofKind k = g x) :
    (withEarlier xs f).ofKind k = xs.flatMap g := by
  induction xs generalizing f with
  | nil => rfl
  | cons x xs ih => simp [h, ih fun before => h (x :: before)]

theorem ofKind_withEarlier_eq_nil (xs : List α) {f : List α → α → Findings}
    (h : ∀ before x, (f before x).ofKind k = []) : (withEarlier xs f).ofKind k = [] := by
  rw [ofKind_withEarlier xs (g := fun _ => []) h]
  exact List.flatMap_eq_nil_iff.mpr fun _ _ => rfl

end Kinds

/-- Every error found is of one of the kinds `ks`. -/
def KindsIn (ks : List IssueKind) (F : Findings) : Prop := ∀ i ∈ F.errors, i.kind ∈ ks

section KindsIn

variable {α : Type} {ks : List IssueKind}

@[simp] theorem kindsIn_append {a b : Findings} :
    (a ++ b).KindsIn ks ↔ a.KindsIn ks ∧ b.KindsIn ks := by
  simp [KindsIn, or_imp, forall_and]

@[simp] theorem kindsIn_none : Findings.none.KindsIn ks := fun _ h => nomatch h

@[simp] theorem kindsIn_warn (w : String) : (warn w).KindsIn ks := fun _ h => nomatch h

@[simp] theorem kindsIn_error (i : Issue) : (error i).KindsIn ks ↔ i.kind ∈ ks := by
  simp [KindsIn, error]

@[simp] theorem kindsIn_ite (c : Prop) [Decidable c] (a b : Findings) :
    (if c then a else b).KindsIn ks ↔ (c → a.KindsIn ks) ∧ (¬c → b.KindsIn ks) := by
  by_cases h : c <;> simp [h]

theorem kindsIn_withEarlier {xs : List α} {f : List α → α → Findings}
    (h : ∀ before x, (f before x).KindsIn ks) : (withEarlier xs f).KindsIn ks := by
  induction xs generalizing f with
  | nil => exact kindsIn_none
  | cons x xs ih =>
    rw [withEarlier_cons]
    exact kindsIn_append.mpr ⟨h [] x, ih fun before => h (x :: before)⟩

theorem KindsIn.mono {F : Findings} {ks' : List IssueKind} (h : F.KindsIn ks) (hks : ks ⊆ ks') :
    F.KindsIn ks' :=
  fun i hi => hks (h i hi)

theorem ofKind_eq_nil_of_kindsIn {F : Findings} (h : F.KindsIn ks) {k : IssueKind} (hk : k ∉ ks) :
    F.ofKind k = [] :=
  List.filter_eq_nil_iff.mpr fun i hi hik => hk (of_decide_eq_true hik ▸ h i hi)

end KindsIn

/-- No warning found passes the test `p`. -/
def NoWarning (p : String → Bool) (F : Findings) : Prop := ∀ w ∈ F.warnings, p w = false

section NoWarning

variable {α : Type} {p : String → Bool}

@[simp] theorem noWarning_append {a b : Findings} :
    (a ++ b).NoWarning p ↔ a.NoWarning p ∧ b.NoWarning p := by
  simp [NoWarning, or_imp, forall_and]

@[simp] theorem noWarning_none : Findings.none.NoWarning p := by simp [NoWarning]

@[simp] theorem noWarning_error (i : Issue) : (error i).NoWarning p := by simp [NoWarning, error]

@[simp] theorem noWarning_warn (w : String) : (warn w).NoWarning p ↔ p w = false := by
  simp [NoWarning, warn]

@[simp] theorem noWarning_ite (c : Prop) [Decidable c] (a b : Findings) :
    (if c then a else b).NoWarning p ↔ (c → a.NoWarning p) ∧ (¬c → b.NoWarning p) := by
  by_cases h : c <;> simp [h]

theorem noWarning_withEarlier {xs : List α} {f : List α → α → Findings}
    (h : ∀ before x, (f before x).NoWarning p) : (withEarlier xs f).NoWarning p := by
  induction xs generalizing f with
  | nil => exact noWarning_none
  | cons x xs ih =>
    rw [withEarlier_cons]
    exact noWarning_append.mpr ⟨h [] x, ih fun before => h (x :: before)⟩

theorem NoWarning.filter_eq_nil {F : Findings} (h : F.NoWarning p) : F.warnings.filter p = [] :=
  List.filter_eq_nil_iff.mpr fun w hw hpw => Bool.false_ne_true ((h w hw).symm.trans hpw)

end NoWarning

/-- What a pass reports, the texts of its errors aside: the kind and place of each of its errors,
in order (`ss`), and no warning that passes the test `p`. -/
structure Reports (ss : List (IssueKind × Option String × Option String × Option String))
    (p : String → Bool) (F : Findings) : Prop where
  summaries : F.errors.map Issue.summary = ss
  noWarning : F.NoWarning p

section Reports

variable {α : Type} {p : String → Bool} {F a b : Findings}
  {ss ss' : List (IssueKind × Option String × Option String × Option String)}

theorem reports_iff : F.Reports ss p ↔ F.errors.map Issue.summary = ss ∧ F.NoWarning p :=
  ⟨fun h => ⟨h.summaries, h.noWarning⟩, fun h => ⟨h.1, h.2⟩⟩

theorem reports_none : Findings.none.Reports [] p := ⟨rfl, noWarning_none⟩

theorem reports_error (i : Issue) : (error i).Reports [i.summary] p := ⟨rfl, noWarning_error i⟩

theorem reports_warn {w : String} (h : p w = false) : (warn w).Reports [] p :=
  ⟨rfl, (noWarning_warn w).mpr h⟩

@[simp] theorem reports_none_iff : Findings.none.Reports ss p ↔ ss = [] :=
  ⟨fun h => h.summaries.symm, fun h => h ▸ reports_none⟩

@[simp] theorem reports_warn_iff {w : String} : (warn w).Reports ss p ↔ ss = [] ∧ p w = false :=
  ⟨fun h => ⟨h.summaries.symm, h.noWarning w List.mem_cons_self⟩, fun h => h.1 ▸ reports_warn h.2⟩

theorem Reports.of_eq (h : F.Reports ss p) (hss : ss = ss') : F.Reports ss' p := hss ▸ h

theorem Reports.append (ha : a.Reports ss p) (hb : b.Reports ss' p) :
    (a ++ b).Reports (ss ++ ss') p :=
  ⟨by rw [errors_append, List.map_append, ha.summaries, hb.summaries],
    noWarning_append.mpr ⟨ha.noWarning, hb.noWarning⟩⟩

theorem Reports.append_nil (ha : a.Reports [] p) (hb : b.Reports [] p) : (a ++ b).Reports [] p :=
  ha.append hb

theorem reports_ite (c : Prop) [Decidable c] (ha : c → a.Reports ss p) (hb : ¬c → b.Reports ss' p) :
    (if c then a else b).Reports (if c then ss else ss') p := by
  by_cases h : c
  · rw [if_pos h, if_pos h]
    exact ha h
  · rw [if_neg h, if_neg h]
    exact hb h

theorem reports_concatMap {xs : List α} {f : α → Findings}
    {g : α → List (IssueKind × Option String × Option String × Option String)}
    (h : ∀ x ∈ xs, (f x).Reports (g x) p) : (concatMap xs f).Reports (xs.flatMap g) p := by
  induction xs with
  | nil => exact reports_none
  | cons x xs ih =>
    rw [concatMap_cons, List.flatMap_cons]
    exact (h x List.mem_cons_self).append (ih fun y hy => h y (List.mem_cons_of_mem x hy))

theorem reports_concatMap_nil {xs : List α} {f : α → Findings}
    (h : ∀ x ∈ xs, (f x).Reports [] p) : (concatMap xs f).Reports [] p :=
  (reports_concatMap h).of_eq (List.flatMap_eq_nil_iff.mpr fun _ _ => rfl)

theorem reports_withEarlier {xs : List α} {f : List α → α → Findings}
    {g : α → List (IssueKind × Option String × Option String × Option String)}
    (h : ∀ before x, (f before x).Reports (g x) p) : (withEarlier xs f).Reports (xs.flatMap g) p := by
  induction xs generalizing f with
  | nil => exact reports_none
  | cons x xs ih =>
    rw [withEarlier_cons, List.flatMap_cons]
    exact (h [] x).append (ih fun before => h (x :: before))

theorem Reports.kindsIn (h : F.Reports ss p) {ks : List IssueKind} (hks : ∀ x ∈ ss, x.1 ∈ ks) :
    F.KindsIn ks :=
  fun i hi => hks i.summary (h.summaries ▸ List.mem_map_of_mem hi)

theorem Reports.errors_eq_nil (h : F.Reports [] p) : F.errors = [] :=
  List.map_eq_nil_iff.mp h.summaries

theorem Reports.ofKind_place (h : F.Reports ss p) (k : IssueKind) :
    (F.ofKind k).map Issue.place = (ss.filter fun x => x.1 = k).map Prod.snd := by
  rw [← h.summaries, List.filter_map, List.map_map, ofKind]
  rfl

theorem Reports.ofKind_target (h : F.Reports ss p) (k : IssueKind) :
    (F.ofKind k).map Issue.target = (ss.filter fun x => x.1 = k).map fun x => x.2.2.2 := by
  have hplace := congrArg (List.map fun x => x.2.2) (h.ofKind_place k)
  simpa [List.map_map, Function.comp_def, Issue.place] using hplace

theorem Reports.ofKind_eq_nil (h : F.Reports ss p) {k : IssueKind} (hk : ∀ x ∈ ss, x.1 ≠ k) :
    F.ofKind k = [] := by
  have hplace := h.ofKind_place k
  rw [List.filter_eq_nil_iff.mpr fun x hx => by simpa using hk x hx, List.map_nil] at hplace
  exact List.map_eq_nil_iff.mp hplace

end Reports

end Findings

end SchemaNotation
