import SchemaNotation.Render.Format
import SchemaNotation.Proofs.TypeSpelling

/-! How the items of a constraint group are read, and what a read constraint is made of.

`addItem` takes one item of a group: an item that opens a constraint of its own pushes it, any
other goes on with the value of the constraint before it (`takeItem`, `addItem_eq_ok`). Whether
it opens one depends on its name, on whether it has a value, and on the constraint before it, so
a constraint `c` written right after `p` opens one of its own exactly when `opensAfter p c`.

A constraint read from items that close every bracket and quotation they open is `Spelt`: its
printed form is the printed form of the constraint its first item opened, followed by the items
that went on with its value. Read again from any state in which it opens a constraint of its
own, that text gives the same constraint (`Spelled.foldlM_addItem`); after a constraint it does
not open one of its own after, its first piece goes on with that constraint's value
(`Spelled.addItem_first`). Every constraint of a read group is spelt so
(`spelt_of_readConstraintList`). -/

namespace SchemaNotation.Notation

open Text

section Texts

@[simp] theorem trim_empty : trim "" = "" := rfl

theorem alike_trim (s : String) : Alike (trim s).toList s.toList := by
  rw [trim, String.toList_ofList]
  exact alike_trimList _

theorem trimList_of_trim {s : String} (h : trim s = s) : trimList s.toList = s.toList := by
  simpa [trim] using congrArg String.toList h

theorem trim_append_eq_self {a b : String} (m : String) (ha : trim a = a) (hb : trim b = b)
    (ha0 : a ≠ "") (hb0 : b ≠ "") : trim (a ++ m ++ b) = a ++ m ++ b := by
  have hhead := trimList_head a.toList
  have hlast := trimList_last b.toList
  rw [trimList_of_trim ha] at hhead
  rw [trimList_of_trim hb] at hlast
  have ha' : a.toList ≠ [] := by simpa using ha0
  have hb' : b.toList ≠ [] := by simpa using hb0
  rw [trim, trimList_eq_self, String.ofList_toList]
  · simpa [List.head?_append, List.head?_eq_none_iff, ha'] using hhead
  · rw [String.toList_append, List.getLast?_append_of_ne_nil _ hb']
    exact hlast

theorem blanks_of_trim_isEmpty {s : String} (h : (trim s).isEmpty = true) :
    ∀ c ∈ s.toList, isBlank c = true := by
  obtain ⟨pre, post, hs, hpre, hpost⟩ := trimList_spec s.toList
  have hnil : trimList s.toList = [] := by
    simpa [trim, String.isEmpty_iff] using h
  intro c hc
  rw [hs, hnil] at hc
  simp only [List.append_nil, List.mem_append] at hc
  exact hc.elim (hpre c) (hpost c)

theorem not_mem_trim {s : String} {k : Char} (h : k ∉ s.toList) : k ∉ (trim s).toList := by
  obtain ⟨pre, post, hs, -, -⟩ := trimList_spec s.toList
  intro hk
  rw [trim, String.toList_ofList] at hk
  rw [hs] at h
  simp [hk] at h

theorem breakList?_eq_none {k : Char} : ∀ {cs : List Char}, k ∉ cs → breakList? [k] cs = none
  | [], _ => rfl
  | c :: rest, h => by
    have hck : k ≠ c := fun hc => h (hc ▸ List.mem_cons_self)
    simp [breakList?, hck, breakList?_eq_none fun hk => h (List.mem_cons_of_mem c hk)]

theorem not_mem_of_breakList?_eq_none {k : Char} :
    ∀ {cs : List Char}, breakList? [k] cs = none → k ∉ cs
  | [], _ => List.not_mem_nil
  | c :: rest, h => by
    have hck : k ≠ c := by
      rintro rfl
      simp [breakList?] at h
    have hrest : breakList? [k] rest = none := by simpa [breakList?, hck] using h
    simp [hck, not_mem_of_breakList?_eq_none hrest]

theorem breakOn?_colon_of_not_mem {s : String} (h : ':' ∉ s.toList) : breakOn? s ":" = none := by
  simp [breakOn?, show (":" : String).toList = [':'] from rfl, breakList?_eq_none h]

theorem breakOn?_colon_append {n v : String} (h : ':' ∉ n.toList) :
    breakOn? (n ++ ":" ++ v) ":" = some (n, v) := by
  have hs : (n ++ ":" ++ v).toList = n.toList ++ [':'] ++ v.toList := by simp
  rw [breakOn?, hs, show (":" : String).toList = [':'] from rfl, breakList?_append _ h]
  simp

theorem neutral_colon : Neutral ':' := ⟨rfl, rfl, rfl, by decide⟩

end Texts

/-- The name of an item, whether it has a value, and the text of the value, as `addItem` takes
them: the text before the first colon, trimmed, and the text after it. -/
def itemParts (item : String) : String × Bool × String :=
  match breakOn? item ":" with
  | some (name, value) => (trim name, true, value)
  | none => (trim item, false, "")

/-- The constraint an item opens. A value that is blank once trimmed is no value. -/
def itemConstraint (item : String) : Constraint :=
  ⟨(itemParts item).1,
    if (trim (itemParts item).2.2).isEmpty then none else some (trim (itemParts item).2.2)⟩

/-- Whether an item opens a constraint of its own after `p`. -/
def opensItem (item : String) (p : Constraint) : Bool :=
  opensConstraint (itemParts item).1 (itemParts item).2.1 (some p)

/-- Whether `c`, written right after `p` in one group, opens a constraint of its own. -/
def opensAfter (p c : Constraint) : Bool := opensConstraint c.name c.value.isSome (some p)

/-- The constraint `p` with an item added to its value. -/
def absorb (p : Constraint) (item : String) : Constraint :=
  { p with value := some (p.value.getD "" ++ "," ++ item) }

/-- What `addItem` makes of an item it accepts, the constraints read so far last first. -/
def takeItem (done : List Constraint) (item : String) : List Constraint :=
  match done with
  | p :: rest => if opensItem item p then itemConstraint item :: done else absorb p item :: rest
  | [] => [itemConstraint item]

/-- Whether `addItem` accepts a trimmed item: it is not empty, and a constraint it opens has a
name. -/
def Accepts (done : List Constraint) (item : String) : Prop :=
  item.isEmpty = false ∧
    ((∀ p ∈ done.head?, opensItem item p = true) → (itemParts item).1.isEmpty = false)

theorem addItem_eq_ok {group : String} {line : Option Nat} {done done' : List Constraint}
    {raw : String} :
    addItem group line done raw = .ok done' ↔
      Accepts done (trim raw) ∧ takeItem done (trim raw) = done' := by
  simp only [addItem, bind, Except.bind, pure, Except.pure, throw, throwThe,
    MonadExceptOf.throw]
  by_cases he : (trim raw).isEmpty = true
  · simp [he, Accepts]
  · simp only [he, Bool.false_eq_true, ↓reduceIte, Accepts, true_and]
    cases hb : breakOn? (trim raw) ":" <;> rcases done with _ | ⟨p, rest⟩ <;>
      simp only [takeItem, opensItem, itemParts, itemConstraint, hb, absorb] <;>
      split_ifs <;> simp_all

theorem readConstraintList_eq_ok {group : String} {line : Option Nat} {cs : List Constraint} :
    readConstraintList group line = .ok cs ↔ isBlankText group = false ∧
      ∃ done, (splitTopLevel group ",").foldlM (addItem group line) [] = .ok done ∧
        done.reverse = cs := by
  simp only [readConstraintList, bind, Except.bind, pure, Except.pure, throw, throwThe,
    MonadExceptOf.throw]
  cases hb : isBlankText group
  · simp only [Bool.false_eq_true, ↓reduceIte, true_and]
    cases (splitTopLevel group ",").foldlM (addItem group line) [] <;> simp
  · simp

theorem isSome_of_opensConstraint_eq_false {name : String} {hasValue : Bool} {p : Constraint}
    (h : opensConstraint name hasValue (some p) = false) : p.value.isSome = true := by
  simp only [opensConstraint, Bool.or_eq_false_iff] at h
  simpa [Option.isNone_iff_eq_none, ← Option.ne_none_iff_isSome] using h.1.1

theorem render_absorb {p : Constraint} {item : String} (h : opensItem item p = false) :
    (absorb p item).render = p.render ++ "," ++ item := by
  obtain ⟨v, hv⟩ := Option.isSome_iff_exists.1 (isSome_of_opensConstraint_eq_false h)
  simp [absorb, Constraint.render, hv, String.append_assoc]

theorem opensAfter_absorb {p : Constraint} {item : String} (h : opensItem item p = false)
    (q : Constraint) : opensAfter q (absorb p item) = opensAfter q p := by
  simp [opensAfter, absorb, isSome_of_opensConstraint_eq_false h]

/-- A constraint as an item opens it: a name with no colon, not empty and with no blanks at its
ends, and a value, if any, not empty and with no blanks at its ends. -/
structure Formed (c : Constraint) : Prop where
  name_colon : ':' ∉ c.name.toList
  name_trim : trim c.name = c.name
  name_ne : c.name ≠ ""
  value_trim : ∀ v, c.value = some v → trim v = v ∧ v ≠ ""

theorem formed_itemConstraint {item : String} (h : (itemParts item).1.isEmpty = false) :
    Formed (itemConstraint item) := by
  obtain ⟨name, value, hname, hparts, hvalue⟩ : ∃ name value, ':' ∉ name.toList ∧
      (itemParts item).1 = trim name ∧ (itemParts item).2.2 = value := by
    cases hb : breakOn? item ":" with
    | none =>
      refine ⟨item, "", not_mem_of_breakList?_eq_none ?_, by simp [itemParts, hb]⟩
      simpa [breakOn?] using hb
    | some nv =>
      obtain ⟨n, v⟩ := nv
      obtain ⟨⟨b, a⟩, hba, he⟩ := Option.map_eq_some_iff.1 hb
      simp only [Prod.mk.injEq] at he
      obtain ⟨rfl, rfl⟩ := he
      refine ⟨String.ofList b, String.ofList a, ?_, by simp [itemParts, hb]⟩
      rw [String.toList_ofList]
      exact breakList?_single hba
  rw [hparts] at h
  simp only [itemConstraint, hparts, hvalue]
  refine ⟨not_mem_trim hname, trim_trim name, by simpa using h, fun v hv => ?_⟩
  split_ifs at hv with hempty
  cases hv
  exact ⟨trim_trim _, by simpa using hempty⟩

theorem alike_render_itemConstraint (item : String) :
    Alike (itemConstraint item).render.toList item.toList := by
  cases hb : breakOn? item ":" with
  | none =>
    simpa [itemConstraint, itemParts, hb, Constraint.render] using alike_trim item
  | some nv =>
    obtain ⟨n, v⟩ := nv
    have hitem : item.toList = n.toList ++ ':' :: v.toList := by simpa using breakOn?_some hb
    rw [hitem]
    by_cases hv : (trim v).isEmpty = true
    · have hblank : Alike (':' :: v.toList) [] := alike_nil_of_neutral fun c hc => by
        rcases List.mem_cons.1 hc with rfl | hc
        · exact neutral_colon
        · exact neutral_of_isBlank (blanks_of_trim_isEmpty hv c hc)
      simpa [itemConstraint, itemParts, hb, hv, Constraint.render] using
        (alike_trim n).append hblank.symm
    · simpa [itemConstraint, itemParts, hb, hv, Constraint.render] using
        (alike_trim n).append ((Alike.refl [':']).append (alike_trim v))

section Formed

variable {c : Constraint} (hc : Formed c)
include hc

theorem itemParts_render : itemParts c.render = (c.name, c.value.isSome, c.value.getD "") := by
  cases hv : c.value with
  | none =>
    simp [Constraint.render, hv, itemParts, breakOn?_colon_of_not_mem hc.name_colon, hc.name_trim]
  | some v =>
    simp [Constraint.render, hv, itemParts, breakOn?_colon_append hc.name_colon, hc.name_trim]

theorem itemConstraint_render : itemConstraint c.render = c := by
  obtain ⟨name, value⟩ := c
  cases value with
  | none => simp [itemConstraint, itemParts_render hc]
  | some v =>
    obtain ⟨htrim, hne⟩ := hc.value_trim v rfl
    simp [itemConstraint, itemParts_render hc, htrim, hne]

theorem opensItem_render (p : Constraint) : opensItem c.render p = opensAfter p c := by
  simp [opensItem, opensAfter, itemParts_render hc]

theorem trim_render : trim c.render = c.render := by
  cases hv : c.value with
  | none => simpa [Constraint.render, hv] using hc.name_trim
  | some v =>
    obtain ⟨htrim, hne⟩ := hc.value_trim v hv
    simpa [Constraint.render, hv] using trim_append_eq_self ":" hc.name_trim htrim hc.name_ne hne

theorem render_isEmpty : c.render.isEmpty = false := by
  have := hc.name_ne
  cases hv : c.value <;> simp_all [Constraint.render]

theorem addItem_render (group : String) (line : Option Nat) (st : List Constraint) :
    addItem group line st c.render = .ok (takeItem st c.render) := by
  refine addItem_eq_ok.2 ⟨⟨by rw [trim_render hc]; exact render_isEmpty hc, fun _ => ?_⟩, ?_⟩
  · simpa [trim_render hc, itemParts_render hc] using hc.name_ne
  · rw [trim_render hc]

end Formed

/-- A text that the reading of `splitTopLevel` takes from the top level back to the top level:
it closes every bracket and quotation it opens, and has no separator outside them. -/
def Closes (x : String) : Prop := scan "," x.toList (0, none) = some (0, none)

/-- An item of a group as `addItem` takes it whole: closed, not empty, and with no blanks at its
ends. -/
structure ClosedItem (x : String) : Prop where
  closes : Closes x
  trim_eq : trim x = x
  ne_empty : x.isEmpty = false

theorem closedItem_trim {raw : String} (h : Closes raw) (hne : (trim raw).isEmpty = false) :
    ClosedItem (trim raw) := by
  refine ⟨?_, trim_trim raw, hne⟩
  rw [Closes, (alike_trim raw).scan_start]
  exact h

/-- Items that each go on with the value of the constraint before them, taking `p` to `c`. -/
inductive Grows : Constraint → List String → Constraint → Prop
  | nil (p : Constraint) : Grows p [] p
  | cons {p c : Constraint} {item : String} {items : List String} :
      opensItem item p = false → Grows (absorb p item) items c → Grows p (item :: items) c

namespace Grows

variable {p c : Constraint} {items : List String}

theorem snoc (h : Grows p items c) {item : String} (hi : opensItem item c = false) :
    Grows p (items ++ [item]) (absorb c item) := by
  induction h with
  | nil p => exact .cons hi (.nil _)
  | cons hp _ ih => exact .cons hp (ih hi)

theorem render (h : Grows p items c) : c.render = ",".intercalate (p.render :: items) := by
  induction h with
  | nil p => simp
  | cons hp _ ih => rw [ih, render_absorb hp]; simp

theorem opensAfter (h : Grows p items c) (q : Constraint) :
    Notation.opensAfter q c = Notation.opensAfter q p := by
  induction h with
  | nil p => rfl
  | cons hp _ ih => rw [ih, opensAfter_absorb hp]

theorem foldlM_addItem (h : Grows p items c) (hitems : ∀ x ∈ items, ClosedItem x)
    (group : String) (line : Option Nat) (st : List Constraint) :
    items.foldlM (addItem group line) (p :: st) = .ok (c :: st) := by
  induction h with
  | nil p => rfl
  | @cons p c item items hp _ ih =>
    have hitem := hitems item List.mem_cons_self
    have hstep : addItem group line (p :: st) item = .ok (absorb p item :: st) := by
      refine addItem_eq_ok.2 ⟨⟨by rw [hitem.trim_eq]; exact hitem.ne_empty, fun hop => ?_⟩, ?_⟩
      · simp [hitem.trim_eq, hp] at hop
      · simp [takeItem, hitem.trim_eq, hp]
    rw [List.foldlM_cons, hstep]
    exact ih fun x hx => hitems x (List.mem_cons_of_mem item hx)

end Grows

/-- How the items of a group spell a constraint: the printed form of the constraint its first
item opens, then the items that go on with its value, each of them a closed item. -/
structure Spelled (c : Constraint) (ps : List String) : Prop where
  pieces : ∀ x ∈ ps, ClosedItem x
  grows : ∃ c0 items, ps = c0.render :: items ∧ Formed c0 ∧ Grows c0 items c

/-- A constraint that some items spell. -/
def Spelt (c : Constraint) : Prop := ∃ ps, Spelled c ps

namespace Spelled

variable {c : Constraint} {ps : List String}

theorem render (h : Spelled c ps) : c.render = ",".intercalate ps := by
  obtain ⟨c0, items, rfl, -, hg⟩ := h.grows
  exact hg.render

theorem ne_nil (h : Spelled c ps) : ps ≠ [] := by
  obtain ⟨c0, items, rfl, -, -⟩ := h.grows
  exact List.cons_ne_nil _ _

/-- First in a group, or after a constraint it opens one of its own after, a spelling reads as
its constraint. -/
theorem foldlM_addItem (h : Spelled c ps) (group : String) (line : Option Nat)
    {st : List Constraint} (hst : ∀ p ∈ st.head?, opensAfter p c = true) :
    ps.foldlM (addItem group line) st = .ok (c :: st) := by
  obtain ⟨c0, items, rfl, hc0, hg⟩ := h.grows
  have hfirst : takeItem st c0.render = c0 :: st := by
    rcases st with _ | ⟨p, rest⟩
    · simp [takeItem, itemConstraint_render hc0]
    · have hop : opensItem c0.render p = true := by
        rw [opensItem_render hc0, ← hg.opensAfter]
        exact hst p rfl
      simp [takeItem, hop, itemConstraint_render hc0]
  rw [List.foldlM_cons, addItem_render hc0, hfirst]
  exact hg.foldlM_addItem (fun x hx => h.pieces x (List.mem_cons_of_mem _ hx)) group line st

/-- After a constraint it does not open one of its own after, the first piece of a spelling goes
on with that constraint's value. -/
theorem addItem_first (h : Spelled c ps) : ∃ hd tl, ps = hd :: tl ∧
    ∀ group line p st, opensAfter p c = false →
      addItem group line (p :: st) hd = .ok (absorb p hd :: st) := by
  obtain ⟨c0, items, rfl, hc0, hg⟩ := h.grows
  refine ⟨c0.render, items, rfl, fun group line p st hop => ?_⟩
  have hop' : opensItem c0.render p = false := by
    rw [opensItem_render hc0, ← hg.opensAfter]
    exact hop
  rw [addItem_render hc0]
  simp [takeItem, hop']

end Spelled

theorem spelt_itemConstraint {item : String} (hi : Closes item)
    (hname : (itemParts item).1.isEmpty = false) : Spelt (itemConstraint item) := by
  have hc := formed_itemConstraint hname
  have hitem : ClosedItem (itemConstraint item).render := by
    refine ⟨?_, trim_render hc, render_isEmpty hc⟩
    rw [Closes, (alike_render_itemConstraint item).scan_start]
    exact hi
  refine ⟨[(itemConstraint item).render], ⟨fun x hx => ?_, _, [], rfl, hc, .nil _⟩⟩
  rw [List.mem_singleton.1 hx]
  exact hitem

theorem Spelt.absorb {p : Constraint} {item : String} (h : Spelt p) (hi : ClosedItem item)
    (hop : opensItem item p = false) : Spelt (absorb p item) := by
  obtain ⟨ps, hps⟩ := h
  obtain ⟨c0, items, rfl, hc0, hg⟩ := hps.grows
  refine ⟨c0.render :: (items ++ [item]), ⟨fun x hx => ?_, c0, _, rfl, hc0, hg.snoc hop⟩⟩
  rw [← List.cons_append, List.mem_append, List.mem_singleton] at hx
  rcases hx with hx | rfl
  · exact hps.pieces x hx
  · exact hi

theorem spelt_takeItem {done : List Constraint} {item : String} (hi : Closes item)
    (htrim : trim item = item) (hacc : Accepts done item) (hdone : ∀ c ∈ done, Spelt c) :
    ∀ c ∈ takeItem done item, Spelt c := by
  obtain ⟨hne, hname⟩ := hacc
  cases done with
  | nil =>
    intro c hc
    rw [takeItem, List.mem_singleton] at hc
    exact hc ▸ spelt_itemConstraint hi (hname fun _ h => nomatch h)
  | cons p rest =>
    by_cases hop : opensItem item p = true
    · intro c hc
      rw [takeItem, if_pos hop, List.mem_cons] at hc
      rcases hc with rfl | hc
      · exact spelt_itemConstraint hi (hname fun q hq => by cases hq; exact hop)
      · exact hdone c hc
    · intro c hc
      rw [takeItem, if_neg hop, List.mem_cons] at hc
      rcases hc with rfl | hc
      · exact (hdone p List.mem_cons_self).absorb ⟨hi, htrim, hne⟩ (by simpa using hop)
      · exact hdone c (List.mem_cons_of_mem p hc)

theorem foldlM_addItem_spelt {group : String} {line : Option Nat} :
    ∀ {items : List String} {done done' : List Constraint}, (∀ x ∈ items, Closes x) →
      items.foldlM (addItem group line) done = .ok done' → (∀ c ∈ done, Spelt c) →
      ∀ c ∈ done', Spelt c
  | [], done, done', _, h, hdone => by
    cases h
    exact hdone
  | raw :: items, done, done', hitems, h, hdone => by
    rw [List.foldlM_cons] at h
    obtain ⟨d, hd, hrest⟩ := bind_eq_ok h
    obtain ⟨hacc, rfl⟩ := addItem_eq_ok.1 hd
    have hclose : Closes (trim raw) :=
      (closedItem_trim (hitems raw List.mem_cons_self) hacc.1).closes
    exact foldlM_addItem_spelt (fun x hx => hitems x (List.mem_cons_of_mem raw hx)) hrest
      (spelt_takeItem hclose (trim_trim raw) hacc hdone)

theorem spelt_of_readConstraintList {group : String} {line : Option Nat} {L : List Constraint}
    (h : readConstraintList group line = .ok L)
    (hclosed : ∀ item ∈ splitTopLevel group ",", Closes item) : ∀ c ∈ L, Spelt c := by
  obtain ⟨-, done, hfold, rfl⟩ := readConstraintList_eq_ok.1 h
  intro c hc
  exact foldlM_addItem_spelt hclosed hfold (fun _ h => nomatch h) c (List.mem_reverse.1 hc)

section Runs

variable {α β ε : Type}

theorem flatMapM_cons_eq_ok {f : α → Except ε (List β)} {a : α} {l : List α} {r : List β}
    (h : (a :: l).flatMapM f = .ok r) :
    ∃ x y, f a = .ok x ∧ l.flatMapM f = .ok y ∧ x ++ y = r := by
  rw [List.flatMapM_cons] at h
  cases hx : f a with
  | error e => rw [hx] at h; cases h
  | ok x =>
    cases hy : l.flatMapM f with
    | error e => rw [hx, hy] at h; cases h
    | ok y =>
      rw [hx, hy] at h
      exact ⟨x, y, rfl, rfl, Except.ok.inj h⟩

theorem flatMapM_map_eq_ok {f : α → Except ε (List β)} {g : List β → α} :
    ∀ {P : List (List β)}, (∀ G ∈ P, f (g G) = .ok G) → (P.map g).flatMapM f = .ok P.flatten
  | [], _ => rfl
  | G :: P, h => by
    rw [List.map_cons, List.flatMapM_cons, h G List.mem_cons_self,
      flatMapM_map_eq_ok fun G' hG' => h G' (List.mem_cons_of_mem G hG')]
    rfl

end Runs

theorem spelt_of_flatMapM {line : Option Nat} : ∀ {groups : List String} {cs : List Constraint},
    groups.flatMapM (readConstraintList · line) = .ok cs →
    (∀ g ∈ groups, ∀ item ∈ splitTopLevel g ",", Closes item) → ∀ c ∈ cs, Spelt c
  | [], cs, h, _ => by
    cases h
    intro c hc
    cases hc
  | g :: groups, cs, h, hclosed => by
    obtain ⟨L, L', hL, hL', rfl⟩ := flatMapM_cons_eq_ok h
    intro c hc
    rcases List.mem_append.1 hc with hc | hc
    · exact spelt_of_readConstraintList hL (hclosed g List.mem_cons_self) c hc
    · exact spelt_of_flatMapM hL' (fun g' hg' => hclosed g' (List.mem_cons_of_mem g hg')) c hc

end SchemaNotation.Notation
