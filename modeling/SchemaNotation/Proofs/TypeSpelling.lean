import SchemaNotation.Proofs.LineAgreement
import SchemaNotation.Proofs.TypeSurface

/-! The printed form of a type reads back as the type.

Reading a type expression and printing the result normalises the text: blanks go, `JSON {}`
becomes `JSON`, parameters are joined by `,` and properties by `, `, and bounds are printed in
plain decimal. None of this changes what the reader makes of the text. The argument runs over
the fuel of `readTypeWith`, carrying `Respelled`: the text and the printed form of its type agree
on the top-level commas and on the nesting of brackets, the printed form has no blanks at its
ends, and it reads back as the type with any fuel above its length. -/

namespace SchemaNotation.Notation

open Text

section Monad

variable {α β ε : Type}

theorem map_eq_ok {f : α → β} {x : Except ε α} {b : β} (h : f <$> x = .ok b) :
    ∃ a, x = .ok a ∧ f a = b := by
  cases x with
  | error e => cases h
  | ok a => exact ⟨a, rfl, Except.ok.inj h⟩

theorem exists_ok_of_any {x : Except ε α} {p : α → Bool} (h : x.toOption.any p = true) :
    ∃ a, x = .ok a ∧ p a = true := by
  cases x with
  | error e => cases h
  | ok a => exact ⟨a, rfl, h⟩

theorem mapM_eq_ok_of_forall₂ {f : α → Except ε β} {xs : List α} {ys : List β}
    (h : List.Forall₂ (fun x y => f x = .ok y) xs ys) : xs.mapM f = .ok ys := by
  induction h with
  | nil => rfl
  | cons hxy _ ih => rw [List.mapM_cons, hxy, ih]; rfl

theorem forall₂_of_mapM_eq_ok {f : α → Except ε β} :
    ∀ {xs : List α} {ys : List β}, xs.mapM f = .ok ys → List.Forall₂ (fun x y => f x = .ok y) xs ys
  | [], ys, h => by
    cases h
    exact .nil
  | x :: xs, ys, h => by
    rw [List.mapM_cons] at h
    cases hx : f x with
    | error e => rw [hx] at h; cases h
    | ok y =>
      cases hr : xs.mapM f with
      | error e => rw [hx, hr] at h; cases h
      | ok zs =>
        rw [hx, hr] at h
        cases h
        exact .cons hx (forall₂_of_mapM_eq_ok hr)

theorem forall_mem_of_forall₂ {R : α → β → Prop} {S : β → Prop} (hS : ∀ x y, R x y → S y) :
    ∀ {xs : List α} {ys : List β}, List.Forall₂ R xs ys → ∀ y ∈ ys, S y
  | _, _, .nil => fun _ hy => nomatch hy
  | _, _, .cons hxy hrest => fun y hy => by
    rcases List.mem_cons.1 hy with rfl | hy
    · exact hS _ _ hxy
    · exact forall_mem_of_forall₂ hS hrest y hy

theorem mapM_eq_ok_iff {f : α → Except ε β} {xs : List α} {ys : List β} :
    xs.mapM f = .ok ys ↔ List.Forall₂ (fun x y => f x = .ok y) xs ys :=
  ⟨forall₂_of_mapM_eq_ok, mapM_eq_ok_of_forall₂⟩

end Monad

section Trim

theorem trim_trim (s : String) : trim (trim s) = trim s := by
  rw [trim, trim, String.toList_ofList, trimList_trimList]

theorem trim_eq_self {s : String} {c d : Char} {m : List Char} (hs : s.toList = c :: (m ++ [d]))
    (hc : isBlank c = false) (hd : isBlank d = false) : trim s = s := by
  have hl : ∀ x ∈ s.toList.getLast?, isBlank x = false := by
    rw [hs, ← List.cons_append, List.getLast?_concat]
    simpa using hd
  rw [trim, trimList_eq_self (by simpa [hs] using hc) hl, String.ofList_toList]

theorem dropBlanks_blank_append {pre : List Char} (cs : List Char) (h : ∀ c ∈ pre, isBlank c = true) :
    dropBlanks (pre ++ cs) = dropBlanks cs := by
  induction pre with
  | nil => rfl
  | cons c pre ih =>
    rw [List.cons_append, dropBlanks, List.dropWhile_cons_of_pos (h c List.mem_cons_self)]
    exact ih fun d hd => h d (List.mem_cons_of_mem c hd)

theorem trim_blank_append {pre : String} (s : String) (h : ∀ c ∈ pre.toList, isBlank c = true) :
    trim (pre ++ s) = trim s := by
  rw [trim, trim, String.toList_append, trimList, trimList, dropBlanks_blank_append _ h]

theorem mem_trim_of_not_blank {s : String} {c : Char} (hc : c ∈ s.toList) (hb : isBlank c = false) :
    c ∈ (trim s).toList := by
  obtain ⟨pre, post, hs, hpre, hpost⟩ := trimList_spec s.toList
  rw [trim, String.toList_ofList]
  rw [hs] at hc
  simp only [List.mem_append] at hc
  rcases hc with (hc | hc) | hc
  · rw [hpre c hc] at hb; cases hb
  · exact hc
  · rw [hpost c hc] at hb; cases hb

theorem isBlankText_eq_false_iff {s : String} : isBlankText s = false ↔ ∃ c ∈ s.toList, isBlank c = false := by
  simp [isBlankText, List.all_eq_false]

theorem space_blank : ∀ c ∈ [' '], isBlank c = true := by
  intro c hc
  rw [List.mem_singleton.1 hc]
  rfl

theorem blank_space : ∀ c ∈ (" " : String).toList, isBlank c = true := space_blank

theorem blank_empty : ∀ c ∈ ("" : String).toList, isBlank c = true := by
  intro c hc
  simp at hc

theorem readTypeWith_trim (fuel : Nat) (text : String) (line : Option Nat) :
    readTypeWith (fuel + 1) (trim text) line = readTypeWith (fuel + 1) text line := by
  rw [readTypeWith, readTypeWith, trim_trim]

end Trim

/-- A text and the type read from it, as the type's printed form keeps them: the two agree on
the top-level commas and on the nesting of brackets, the printed form has no blanks at its ends,
and it reads back as the type. -/
structure Respelled (text : String) (t : DataType) : Prop where
  alike : Alike text.toList t.render.toList
  trimmed : trim t.render = t.render
  reads : ∀ fuel line, t.render.length < fuel → readTypeWith fuel t.render line = .ok t

theorem Respelled.of_trim {text : String} {t : DataType} (h : Respelled (trim text) t) :
    Respelled text t := by
  have ha := h.alike
  rw [trim, String.toList_ofList] at ha
  exact ⟨(alike_trimList text.toList).symm.trans ha, h.trimmed, h.reads⟩

theorem Respelled.reads_padded {text : String} {t : DataType} (h : Respelled text t) {pre : String}
    (hpre : ∀ c ∈ pre.toList, isBlank c = true) {fuel : Nat} (hlt : t.render.length < fuel)
    (line : Option Nat) : readTypeWith fuel (pre ++ t.render) line = .ok t := by
  obtain ⟨fuel, rfl⟩ : ∃ f, fuel = f + 1 := ⟨fuel - 1, by omega⟩
  rw [← readTypeWith_trim, trim_blank_append _ hpre, h.trimmed]
  exact h.reads _ line hlt

section Printing

theorem renderProperties_eq_map (ps : List (String × DataType)) :
    DataType.renderProperties ps = ps.map fun p => p.1 ++ ": " ++ p.2.render := by
  induction ps with
  | nil => rfl
  | cons p ps ih =>
    obtain ⟨n, t⟩ := p
    rw [DataType.renderProperties, ih, List.map_cons]

theorem intercalate_comma_space (q : String) (qs : List String) :
    ", ".intercalate (q :: qs) = ",".intercalate (q :: qs.map (" " ++ ·)) := by
  induction qs generalizing q with
  | nil => rfl
  | cons r qs ih =>
    rw [String.intercalate_cons_cons, ih, List.map_cons, String.intercalate_cons_cons,
      String.intercalate_cons_append, String.append_assoc, String.append_assoc]
    congr 1

theorem length_le_intercalate (sep : String) {q : String} :
    ∀ {qs : List String}, q ∈ qs → q.length ≤ (sep.intercalate qs).length
  | [_], hq => by
    rw [List.mem_singleton.1 hq, String.intercalate_singleton]
  | x :: y :: rest, hq => by
    rw [String.intercalate_cons_cons, String.length_append, String.length_append]
    rcases List.mem_cons.1 hq with rfl | hq
    · omega
    · have := length_le_intercalate sep hq
      omega

theorem render_json_cons (p : String × DataType) (ps : List (String × DataType)) :
    (DataType.json (p :: ps)).render =
      "JSON\x7b" ++ ",".intercalate ((p.1 ++ ": " ++ p.2.render) ::
        ps.map fun p => " " ++ (p.1 ++ ": " ++ p.2.render)) ++ "\x7d" := by
  rw [DataType.render, renderProperties_eq_map, List.map_cons, intercalate_comma_space, List.map_map]
  rfl

theorem render_length_lt_of_mem {ps : List (String × DataType)} {p : String × DataType}
    (hp : p ∈ ps) : p.2.render.length < (DataType.json ps).render.length := by
  obtain ⟨q, qs, rfl⟩ := List.exists_cons_of_ne_nil (List.ne_nil_of_mem hp)
  have hmem : p.1 ++ ": " ++ p.2.render ∈ DataType.renderProperties (q :: qs) := by
    rw [renderProperties_eq_map]
    exact List.mem_map_of_mem hp
  have hle := length_le_intercalate ", " hmem
  have hsep : ": ".length = 2 := rfl
  rw [DataType.render]
  simp only [String.length_append] at hle ⊢
  omega

end Printing

section Properties

/-- How the reader takes one property `name: type` of an object apart. -/
def PropertyRead (readOne : String → Parse DataType) (item : String) (prop : String × DataType) :
    Prop :=
  ∃ name typeText, breakOn? item ":" = some (name, typeText) ∧ isBlankText name = false ∧
    readOne typeText = .ok prop.2 ∧ prop.1 = trim name

variable {readOne : String → Parse DataType}

theorem readProperties_eq_ok {body : String} {line : Option Nat} {props : List (String × DataType)} :
    readProperties readOne body line = .ok props ↔
      (isBlankText body = true ∧ props = []) ∨
      (isBlankText body = false ∧ List.Forall₂ (PropertyRead readOne) (splitTopLevel body ",") props) := by
  unfold readProperties
  cases hb : isBlankText body
  · simp only [Bool.false_eq_true, ↓reduceIte, false_and, true_and, false_or, mapM_eq_ok_iff]
    constructor
    · refine fun h => h.imp fun item prop hp => ?_
      split at hp
      next name typeText hbrk =>
        split at hp
        next => cases hp
        next hname =>
          obtain ⟨t, ht, hprop⟩ := bind_eq_ok hp
          cases hprop
          exact ⟨name, typeText, hbrk, by simpa using hname, ht, rfl⟩
      next => cases hp
    · refine fun h => h.imp fun item prop hp => ?_
      obtain ⟨name, typeText, hbrk, hname, ht, hprop⟩ := hp
      obtain ⟨n, t⟩ := prop
      simp only at ht hprop
      subst hprop
      simp [hbrk, hname, ht, bind, Except.bind, pure, Except.pure]
  · simp only [↓reduceIte, true_and, Bool.true_eq_false, false_and, or_false]
    constructor
    · intro h
      cases h
      rfl
    · rintro rfl
      rfl

theorem PropertyRead.parts {item : String} {prop : String × DataType} (h : PropertyRead readOne item prop) :
    ∃ name typeText, item.toList = name.toList ++ ':' :: typeText.toList ∧ ':' ∉ name.toList ∧
      isBlankText name = false ∧ readOne typeText = .ok prop.2 ∧ prop.1 = trim name := by
  obtain ⟨name, typeText, hbrk, hname, ht, hprop⟩ := h
  have hcolon : ':' ∉ name.toList := by
    obtain ⟨⟨b, a⟩, hb, he⟩ := Option.map_eq_some_iff.1 hbrk
    simp only [Prod.mk.injEq] at he
    obtain ⟨rfl, rfl⟩ := he
    rw [show (":" : String).toList = [':'] from rfl] at hb
    rw [String.toList_ofList]
    exact breakList?_single hb
  exact ⟨name, typeText, by simpa using breakOn?_some hbrk, hcolon, hname, ht, hprop⟩

theorem PropertyRead.name {item : String} {prop : String × DataType} (h : PropertyRead readOne item prop) :
    ':' ∉ prop.1.toList ∧ isBlankText prop.1 = false ∧ trim prop.1 = prop.1 := by
  obtain ⟨name, typeText, -, hcolon, hname, -, hprop⟩ := h.parts
  rw [hprop]
  refine ⟨fun hc => hcolon ?_, ?_, trim_trim name⟩
  · obtain ⟨pre, post, hs, -, -⟩ := trimList_spec name.toList
    rw [trim, String.toList_ofList] at hc
    rw [hs]
    simp [hc]
  · obtain ⟨c, hc, hcb⟩ := isBlankText_eq_false_iff.1 hname
    exact isBlankText_eq_false_iff.2 ⟨c, mem_trim_of_not_blank hc hcb, hcb⟩

theorem PropertyRead.alike {item : String} {prop : String × DataType} (h : PropertyRead readOne item prop)
    (hr : ∀ typeText, readOne typeText = .ok prop.2 → Alike typeText.toList prop.2.render.toList)
    (pre : String) (hpre : ∀ c ∈ pre.toList, isBlank c = true) :
    Alike item.toList (pre ++ (prop.1 ++ ": " ++ prop.2.render)).toList := by
  obtain ⟨name, typeText, hitem, -, -, ht, hprop⟩ := h.parts
  have hname : Alike name.toList (pre ++ prop.1).toList := by
    have htrim : Alike (trim name).toList name.toList := by
      rw [trim, String.toList_ofList]
      exact alike_trimList _
    rw [hprop, String.toList_append]
    simpa using (alike_blanks hpre).symm.append htrim.symm
  have htype : Alike (':' :: typeText.toList) (':' :: ' ' :: prop.2.render.toList) :=
    Alike.cons ':' ((hr typeText ht).trans
      (by simpa using (alike_blanks space_blank).symm.append (Alike.refl _)))
  rw [hitem]
  have hprint : (pre ++ (prop.1 ++ ": " ++ prop.2.render)).toList =
      (pre ++ prop.1).toList ++ ':' :: ' ' :: prop.2.render.toList := by
    simp [String.toList_append]
  rw [hprint]
  exact hname.append htype

theorem propertyRead_print (pre : String) {n : String} {t : DataType} (hpre : ∀ c ∈ pre.toList, isBlank c = true)
    (hn : ':' ∉ n.toList ∧ isBlankText n = false ∧ trim n = n)
    (hread : readOne (" " ++ t.render) = .ok t) :
    PropertyRead readOne (pre ++ (n ++ ": " ++ t.render)) (n, t) := by
  obtain ⟨hcolon, hblank, htrim⟩ := hn
  have hbefore : ':' ∉ (pre ++ n).toList := by
    rw [String.toList_append, List.mem_append, not_or]
    refine ⟨fun hc => ?_, hcolon⟩
    have := hpre ':' hc
    revert this
    decide
  have hbrk : breakOn? (pre ++ (n ++ ": " ++ t.render)) ":" = some (pre ++ n, " " ++ t.render) := by
    have hs : (pre ++ (n ++ ": " ++ t.render)).toList =
        (pre ++ n).toList ++ [':'] ++ (" " ++ t.render).toList := by
      simp [String.toList_append]
    rw [breakOn?, hs, show (":" : String).toList = [':'] from rfl, breakList?_append _ hbefore]
    simp
  refine ⟨pre ++ n, " " ++ t.render, hbrk, ?_, hread, ?_⟩
  · obtain ⟨c, hc, hcb⟩ := isBlankText_eq_false_iff.1 hblank
    exact isBlankText_eq_false_iff.2 ⟨c, by simp [String.toList_append, hc], hcb⟩
  · rw [trim_blank_append _ hpre, htrim]

end Properties

section Parameters

/-- The parameters the reader takes from the text between the parentheses of a parametric
type. -/
def paramList (body : String) : List String :=
  if (trim body).isEmpty then [] else (splitTopLevel (trim body) ",").map trim

theorem intercalate_trim_ends : ∀ ps : List String,
    (∀ c ∈ (",".intercalate (ps.map trim)).toList.head?, isBlank c = false) ∧
      ∀ c ∈ (",".intercalate (ps.map trim)).toList.getLast?, isBlank c = false
  | [] => by simp
  | [p] => by
    rw [List.map_singleton, String.intercalate_singleton, trim, String.toList_ofList]
    exact ⟨trimList_head _, trimList_last _⟩
  | p :: q :: rest => by
    obtain ⟨-, hlast⟩ := intercalate_trim_ends (q :: rest)
    rw [List.map_cons] at hlast
    have hp := trimList_head p.toList
    rw [List.map_cons, List.map_cons, String.intercalate_cons_cons, String.toList_append,
      String.toList_append, show (",".toList) = [','] from rfl]
    constructor
    · intro c hc
      rw [trim, String.toList_ofList] at hc
      cases ht : trimList p.toList with
      | nil =>
        rw [ht] at hc
        simp only [List.nil_append, List.cons_append, List.head?_cons, Option.mem_def,
          Option.some.injEq] at hc
        rw [← hc]
        decide
      | cons x xs =>
        rw [ht] at hc hp
        simp only [List.cons_append, List.head?_cons, Option.mem_def, Option.some.injEq] at hc
        exact hc ▸ hp x rfl
    · intro c hc
      rw [List.getLast?_append] at hc
      cases hl : (",".intercalate (trim q :: List.map trim rest)).toList.getLast? with
      | none =>
        rw [hl, Option.none_or, List.getLast?_concat] at hc
        simp only [Option.mem_def, Option.some.injEq] at hc
        rw [← hc]
        decide
      | some x =>
        rw [hl] at hc
        simp only [Option.some_or, Option.mem_def, Option.some.injEq] at hc
        exact hc ▸ hlast x hl

theorem trim_intercalate_trim (ps : List String) :
    trim (",".intercalate (ps.map trim)) = ",".intercalate (ps.map trim) := by
  obtain ⟨hh, hl⟩ := intercalate_trim_ends ps
  rw [trim, trimList_eq_self hh hl, String.ofList_toList]

theorem forall₂_alike_trim (ps : List String) :
    List.Forall₂ (fun p q => Alike p.toList q.toList) ps (ps.map trim) := by
  rw [List.forall₂_map_right_iff, List.forall₂_same]
  intro p _
  rw [trim, String.toList_ofList]
  exact (alike_trimList _).symm

theorem alike_paramList (body : String) :
    Alike body.toList (",".intercalate (paramList body)).toList := by
  have hbody : Alike body.toList (trim body).toList := by
    rw [trim, String.toList_ofList]
    exact (alike_trimList _).symm
  unfold paramList
  split
  next hempty =>
    rw [String.isEmpty_iff.1 hempty] at hbody
    exact hbody
  next =>
    have hjoin : Alike (",".intercalate (splitTopLevel (trim body) ",")).toList
        (",".intercalate ((splitTopLevel (trim body) ",").map trim)).toList :=
      alike_intercalate (forall₂_alike_trim _)
    rw [(splitTopLevel_parts _ _).2] at hjoin
    exact hbody.trans hjoin

theorem paramList_intercalate (body : String) :
    paramList (",".intercalate (paramList body)) = paramList body := by
  by_cases hB : (trim body).isEmpty = true
  · have h0 : paramList body = [] := by rw [paramList, if_pos hB]
    rw [h0, String.intercalate_nil, paramList, if_pos (by decide)]
  · have h1 : paramList body = (splitTopLevel (trim body) ",").map trim := by
      rw [paramList, if_neg hB]
    have hparts := splitTopLevel_parts (trim body) ","
    have hsplit : splitTopLevel (",".intercalate ((splitTopLevel (trim body) ",").map trim)) "," =
        (splitTopLevel (trim body) ",").map trim :=
      splitTopLevel_intercalate (Parts.of_alike hparts.1 (forall₂_alike_trim _))
    have hne : (",".intercalate ((splitTopLevel (trim body) ",").map trim)).isEmpty = false := by
      rw [Bool.eq_false_iff, ne_eq, String.isEmpty_iff]
      intro h0
      obtain ⟨p, rest, hpr⟩ := List.exists_cons_of_ne_nil hparts.1.ne_nil
      rw [hpr] at h0 hparts
      cases rest with
      | nil =>
        rw [String.intercalate_singleton] at hparts
        rw [List.map_singleton, String.intercalate_singleton, hparts.2, trim_trim] at h0
        exact hB (String.isEmpty_iff.2 h0)
      | cons q rest =>
        have hlen := congrArg String.length h0
        rw [List.map_cons, List.map_cons, String.intercalate_cons_cons, String.length_append,
          String.length_append] at hlen
        have hcomma : (",").length = 1 := rfl
        simp only [hcomma, String.length_empty] at hlen
        omega
    rw [h1, paramList, trim_intercalate_trim, if_neg (by rw [hne]; decide), hsplit, List.map_map]
    exact List.map_congr_left fun p _ => trim_trim p

end Parameters

section Branches

theorem Alike.balanced {a b : String} (h : Alike a.toList b.toList) (hb : balanced a = true) :
    balanced b = true := by
  rw [Notation.balanced, ← h.balanced_eq]
  exact hb

/-! Each branch of `readTypeWith` that gives a type, taken on the trimmed text `expr`. -/

theorem respelled_simple {expr : String} (hexpr : trim expr = expr) (h1 : expr.isEmpty = false)
    (h2 : expr.startsWith "Array<" = false) (h3 : (expr == "JSON") = false)
    (h4 : (expr.startsWith "JSON" && (trimStart (dropChars expr 4)).startsWith "\x7b") = false)
    (h5 : expr.contains '(' = false) (h6 : expr.contains '[' = false)
    (h7 : hasBracket expr = false) : Respelled expr (.simple expr) where
  alike := Alike.refl _
  trimmed := hexpr
  reads fuel line hlt := by
    obtain ⟨fuel, rfl⟩ : ∃ f, fuel = f + 1 := ⟨fuel - 1, by omega⟩
    simp only [DataType.render, readTypeWith, hexpr, h1, h2, h3, h4, h5, h6, h7,
      Bool.false_eq_true, ↓reduceIte]
    rfl

theorem respelled_json_nil : Respelled "JSON" (.json []) where
  alike := Alike.refl _
  trimmed := trim_eq_self (c := 'J') (m := ['S', 'O']) (d := 'N') rfl (by decide) (by decide)
  reads fuel line hlt := by
    obtain ⟨fuel, rfl⟩ : ∃ f, fuel = f + 1 := ⟨fuel - 1, by omega⟩
    have htrim : trim "JSON" = "JSON" :=
      trim_eq_self (c := 'J') (m := ['S', 'O']) (d := 'N') rfl (by decide) (by decide)
    have h1 : "JSON".isEmpty = false := isEmpty_of_toList (c := 'J') rfl
    have h2 : "JSON".startsWith "Array<" = false := by
      rw [Bool.eq_false_iff, ne_eq, String.startsWith_string_iff]
      decide
    simp only [DataType.render, readTypeWith, htrim, h1, h2, beq_self_eq_true, Bool.false_eq_true,
      ↓reduceIte]
    rfl

theorem array_parts {expr : String} (hs : expr.startsWith "Array<" = true)
    (he : expr.endsWith ">" = true) :
    expr.toList = "Array<".toList ++ (expr.toList.drop 6).dropLast ++ ['>'] := by
  obtain ⟨r, hr⟩ := String.startsWith_string_iff.1 hs
  obtain ⟨u, hu⟩ := endsWith_iff.1 he
  have hd : expr.toList.drop 6 = r := by
    rw [← hr]
    rfl
  -- the text ends with `>`, which `Array<` does not, so `>` closes the rest `r`
  have hlast : ("Array<".toList ++ r).getLast? = some '>' := by
    rw [hr, ← hu]
    simp
  have hne : r ≠ [] := by
    rintro rfl
    revert hlast
    decide
  rw [List.getLast?_append_of_ne_nil _ hne] at hlast
  have hr' := List.dropLast_concat_getLast hne
  rw [(List.getLast_eq_iff_getLast?_eq_some hne).2 hlast] at hr'
  rw [hd, ← hr, List.append_assoc, hr']

theorem respelled_array {expr : String} {u : DataType} (hs : expr.startsWith "Array<" = true)
    (he : expr.endsWith ">" = true) (hb : balanced expr = true)
    (hu : Respelled (String.ofList ((expr.toList.drop 6).dropLast)) u) :
    Respelled expr (.array u) := by
  have hrender : (DataType.array u).render.toList = "Array<".toList ++ u.render.toList ++ ['>'] := by
    rw [DataType.render, String.toList_append, String.toList_append]
    rfl
  have halike : Alike expr.toList (DataType.array u).render.toList := by
    have hinner := hu.alike
    rw [String.toList_ofList] at hinner
    rw [array_parts hs he, hrender]
    exact ((Alike.refl _).append hinner).append (Alike.refl _)
  have htrim : trim (DataType.array u).render = (DataType.array u).render :=
    trim_eq_self (c := 'A') (m := "rray<".toList ++ u.render.toList) (d := '>')
      (by rw [hrender]; rfl) (by decide) (by decide)
  refine ⟨halike, htrim, fun fuel line hlt => ?_⟩
  obtain ⟨fuel, rfl⟩ : ∃ f, fuel = f + 1 := ⟨fuel - 1, by omega⟩
  obtain ⟨h1, h2, h3, h4⟩ := array_guards hrender
  have hb' : balanced (DataType.array u).render = true := halike.balanced hb
  have hlen : u.render.length < fuel := by
    have := congrArg List.length hrender
    have h6 : "Array<".toList.length = 6 := rfl
    simp only [List.length_append, String.length_toList, h6, List.length_singleton] at this
    omega
  simp only [readTypeWith, htrim, h1, h2, h3, h4, hb', Bool.not_true, Bool.false_or,
    Bool.false_eq_true, ↓reduceIte, String.ofList_toList, hu.reads fuel line hlen]
  rfl

theorem object_parts {expr body : String} (hj : expr.startsWith "JSON" = true)
    (hbody : objectBody? expr = some body) :
    ∃ blanks, expr.toList = "JSON".toList ++ (blanks ++ '\x7b' :: body.toList ++ ['\x7d']) ∧
      ∀ c ∈ blanks, isBlank c = true := by
  obtain ⟨r, hr⟩ := String.startsWith_string_iff.1 hj
  obtain ⟨blanks, hdrop, hblanks⟩ := objectBody?_some hbody
  have hd : expr.toList.drop 4 = r := by
    rw [← hr]
    rfl
  rw [hd] at hdrop
  exact ⟨blanks, by rw [← hr, hdrop], hblanks⟩

theorem alike_json_of_blank {expr body : String} (hj : expr.startsWith "JSON" = true)
    (hbody : objectBody? expr = some body) (hblank : isBlankText body = true) :
    Alike expr.toList "JSON".toList := by
  obtain ⟨blanks, hexpr, hblanks⟩ := object_parts hj hbody
  have hb : ∀ c ∈ body.toList, isBlank c = true := List.all_eq_true.1 hblank
  have hbraces : Alike ('\x7b' :: (body.toList ++ ['\x7d'])) [] :=
    (Alike.cons '\x7b' (by simpa using (alike_blanks hb).append (Alike.refl ['\x7d']))).trans
      alike_braces
  have htail : Alike (blanks ++ '\x7b' :: body.toList ++ ['\x7d']) [] := by
    simpa using (alike_blanks hblanks).append_nil hbraces
  rw [hexpr]
  simpa using (Alike.refl "JSON".toList).append htail

theorem respelled_object {fuel : Nat} {line : Option Nat} {expr body : String}
    {props : List (String × DataType)}
    (ih : ∀ {text : String} {t : DataType}, readTypeWith fuel text line = .ok t → Respelled text t)
    (hj : expr.startsWith "JSON" = true) (hbody : objectBody? expr = some body)
    (hb : balanced expr = true)
    (hread : readProperties (readTypeWith fuel · line) body line = .ok props) :
    Respelled expr (.json props) := by
  rcases readProperties_eq_ok.1 hread with ⟨hblank, rfl⟩ | ⟨-, hF⟩
  · exact ⟨(alike_json_of_blank hj hbody hblank).trans respelled_json_nil.alike,
      respelled_json_nil.trimmed, respelled_json_nil.reads⟩
  have hR : List.Forall₂ (fun item prop => PropertyRead (readTypeWith fuel · line) item prop ∧
      ∀ typeText, readTypeWith fuel typeText line = .ok prop.2 → Respelled typeText prop.2)
      (splitTopLevel body ",") props :=
    hF.imp fun _ _ h => ⟨h, fun _ ht => ih ht⟩
  have hprops : ∀ q ∈ props, (':' ∉ q.1.toList ∧ isBlankText q.1 = false ∧ trim q.1 = q.1) ∧
      ∃ typeText, Respelled typeText q.2 :=
    forall_mem_of_forall₂ (fun item q h => by
      obtain ⟨name, typeText, -, -, -, ht, -⟩ := h.1.parts
      exact ⟨h.1.name, typeText, h.2 typeText ht⟩) hR
  obtain ⟨item, items, hitems⟩ :=
    List.exists_cons_of_ne_nil (splitTopLevel_parts body ",").1.ne_nil
  rw [hitems] at hR
  obtain ⟨p, ps, hfirst, hrest, rfl⟩ := List.forall₂_cons_left_iff.1 hR
  let Q := (p.1 ++ ": " ++ p.2.render) :: ps.map fun p => " " ++ (p.1 ++ ": " ++ p.2.render)
  have hA : List.Forall₂ (fun a b => Alike a.toList b.toList) (item :: items) Q := by
    refine .cons ?_ (List.forall₂_map_right_iff.2 (hrest.imp fun _ q h =>
      h.1.alike (fun tt ht => (h.2 tt ht).alike) " " blank_space))
    simpa using hfirst.1.alike (fun tt ht => (hfirst.2 tt ht).alike) "" blank_empty
  have hsplit : splitTopLevel (",".intercalate Q) "," = Q :=
    splitTopLevel_intercalate (Parts.of_alike (hitems ▸ (splitTopLevel_parts body ",").1) hA)
  have hbodyA : Alike body.toList (",".intercalate Q).toList := by
    have h : Alike (",".intercalate (item :: items)).toList (",".intercalate Q).toList :=
      alike_intercalate hA
    rwa [← hitems, (splitTopLevel_parts body ",").2] at h
  have hrender : (DataType.json (p :: ps)).render.toList =
      "JSON\x7b".toList ++ (",".intercalate Q).toList ++ ['\x7d'] := by
    rw [render_json_cons, String.toList_append, String.toList_append]
    rfl
  have halike : Alike expr.toList (DataType.json (p :: ps)).render.toList := by
    obtain ⟨blanks, hexpr, hblanks⟩ := object_parts hj hbody
    rw [hexpr, hrender]
    have h := (Alike.refl "JSON".toList).append
      (((alike_blanks hblanks).append (Alike.cons '\x7b' hbodyA)).append (Alike.refl ['\x7d']))
    simpa using h
  have htrim : trim (DataType.json (p :: ps)).render = (DataType.json (p :: ps)).render :=
    trim_eq_self (c := 'J') (m := "SON\x7b".toList ++ (",".intercalate Q).toList) (d := '\x7d')
      (by rw [hrender]; rfl) (by decide) (by decide)
  refine ⟨halike, htrim, fun fuel' line' hlt => ?_⟩
  obtain ⟨fuel', rfl⟩ : ∃ f, fuel' = f + 1 := ⟨fuel' - 1, by omega⟩
  obtain ⟨g1, g2, g3, g4, g5⟩ := object_guards hrender
  have hb' : balanced (DataType.json (p :: ps)).render = true := halike.balanced hb
  have hprint : ∀ q ∈ p :: ps, ∀ pre : String, (∀ c ∈ pre.toList, isBlank c = true) →
      PropertyRead (readTypeWith fuel' · line') (pre ++ (q.1 ++ ": " ++ q.2.render)) q := by
    intro q hq pre hpre
    obtain ⟨hname, typeText, hq2⟩ := hprops q hq
    have hlen := render_length_lt_of_mem hq
    exact propertyRead_print pre hpre hname (hq2.reads_padded blank_space (by omega) line')
  have hQ : List.Forall₂ (PropertyRead (readTypeWith fuel' · line')) Q (p :: ps) := by
    refine .cons (by simpa using hprint p List.mem_cons_self "" blank_empty) ?_
    rw [List.forall₂_map_left_iff, List.forall₂_same]
    exact fun q hq => hprint q (List.mem_cons_of_mem p hq) " " blank_space
  have hcolon : isBlankText (",".intercalate Q) = false := by
    refine isBlankText_eq_false_iff.2 ⟨':', ?_, by decide⟩
    cases ps <;> simp [Q, String.intercalate_cons_cons, String.toList_append]
  have hprops' : readProperties (readTypeWith fuel' · line') (",".intercalate Q) line' =
      .ok (p :: ps) :=
    readProperties_eq_ok.2 (.inr ⟨hcolon, by rw [hsplit]; exact hQ⟩)
  simp only [readTypeWith, htrim, g1, g2, g3, g4, g5, hb', Bool.false_eq_true, ↓reduceIte,
    String.ofList_toList, hprops']
  rfl

theorem respelled_parametric {expr name body : String}
    (hp : parametricParts? expr = some (name, body)) (hb : balanced expr = true) :
    Respelled expr (.parametric name (paramList body)) := by
  obtain ⟨blanks, hexpr, hname, hblanks⟩ := parametricParts?_some hp
  have hrender : (DataType.parametric name (paramList body)).render.toList =
      name.toList ++ '(' :: (",".intercalate (paramList body)).toList ++ [')'] := by
    rw [DataType.render]
    simp [String.toList_append]
  have halike : Alike expr.toList (DataType.parametric name (paramList body)).render.toList := by
    rw [hexpr, hrender]
    have h := ((Alike.refl name.toList).append ((alike_blanks hblanks).append
      (Alike.cons '(' (alike_paramList body)))).append (Alike.refl [')'])
    simpa using h
  obtain ⟨c, w, hcw, hc, -⟩ := id hname
  have htrim : trim (DataType.parametric name (paramList body)).render =
      (DataType.parametric name (paramList body)).render :=
    trim_eq_self (c := c) (m := w ++ '(' :: (",".intercalate (paramList body)).toList) (d := ')')
      (by rw [hrender, hcw]; simp)
      (nameChar_plain (by simp [isIdentChar_of_isIdentStart hc])).2 (by decide)
  refine ⟨halike, htrim, fun fuel line hlt => ?_⟩
  obtain ⟨fuel, rfl⟩ : ∃ f, fuel = f + 1 := ⟨fuel - 1, by omega⟩
  obtain ⟨g1, g2, g3, g4, g5⟩ := named_guards (show _ = name.toList ++ '(' ::
    ((",".intercalate (paramList body)).toList ++ [')']) by rw [hrender]; simp) hname.plain (.inl rfl)
  have g6 := parametricParts?_print hname (by rw [hrender])
  have hb' : balanced (DataType.parametric name (paramList body)).render = true := halike.balanced hb
  have hparams : (if (trim (",".intercalate (paramList body))).isEmpty = true then [] else
      (splitTopLevel (trim (",".intercalate (paramList body))) ",").map trim) = paramList body :=
    paramList_intercalate body
  simp only [readTypeWith, htrim, g1, g2, g3, g4, g5, g6, hb', String.ofList_toList,
    Bool.false_eq_true, ↓reduceIte, hparams]
  rfl

theorem respelled_collection {expr entity bounds : String} {bnd : Multiplicity} {line : Option Nat}
    (hc : collectionParts? expr = some (entity, bounds)) (hm : readMultiplicity bounds line = .ok bnd) :
    Respelled expr (.collection entity bnd) := by
  obtain ⟨hexpr, hent, -⟩ := collectionParts?_some hc
  obtain ⟨hmin, hmax, hbounds⟩ := readMultiplicity_ok hm
  have hrender : (DataType.collection entity bnd).render.toList =
      entity.toList ++ '[' :: bnd.render.toList ++ [']'] := by
    rw [DataType.render]
    simp [String.toList_append]
  have halike : Alike expr.toList (DataType.collection entity bnd).render.toList := by
    rw [hexpr, hrender]
    exact ((Alike.refl _).append
      (Alike.cons '[' (hbounds.trans (alike_nil_render bnd).symm))).append (Alike.refl _)
  obtain ⟨c, w, hcw⟩ : ∃ c w, entity.toList = c :: w := by
    cases h : entity.toList with
    | nil => rw [h] at hent; cases hent
    | cons c w => exact ⟨c, w, rfl⟩
  have hname : ∀ x ∈ entity.toList, (isIdentChar x || x == '.') = true := by
    rw [hcw] at hent ⊢
    simp only [isIdentList, Bool.and_eq_true, List.all_eq_true] at hent
    intro x hx
    rcases List.mem_cons.1 hx with rfl | hx
    · simp [isIdentChar_of_isIdentStart hent.1]
    · simp [hent.2 x hx]
  have hmark : ∀ x ∈ bnd.render.toList, x ≠ '(' ∧ x ≠ '\n' := by
    intro x hx
    rcases render_chars bnd x hx with rfl | rfl | rfl | hd
    · decide
    · decide
    · decide
    · constructor <;> (rintro rfl; revert hd; decide)
  have htrim : trim (DataType.collection entity bnd).render = (DataType.collection entity bnd).render :=
    trim_eq_self (c := c) (m := w ++ '[' :: bnd.render.toList) (d := ']')
      (by rw [hrender, hcw]; simp)
      (nameChar_plain (hname c (by simp [hcw]))).2 (by decide)
  refine ⟨halike, htrim, fun fuel line hlt => ?_⟩
  obtain ⟨fuel, rfl⟩ : ∃ f, fuel = f + 1 := ⟨fuel - 1, by omega⟩
  obtain ⟨g1, g2, g3, g4, g6⟩ := named_guards
    (show _ = entity.toList ++ '[' :: (bnd.render.toList ++ [']']) by rw [hrender]; simp)
    hname (.inr rfl)
  have g5 : (DataType.collection entity bnd).render.contains '(' = false := by
    rw [String.contains_char_eq, decide_eq_false_iff_not, hrender]
    simp only [List.mem_append, List.mem_cons, not_or]
    refine ⟨⟨fun h => ?_, by decide, fun h => (hmark '(' h).1 rfl⟩, by decide⟩
    have := (nameChar_plain (hname '(' h)).1.2.1
    revert this
    decide
  have g7 := collectionParts?_print hent (fun h => (hmark '\n' h).2 rfl) hrender
  simp only [readTypeWith, htrim, g1, g2, g3, g4, g5, g6, g7, String.ofList_toList,
    readMultiplicity_render hmin hmax, Bool.false_eq_true, ↓reduceIte]
  rfl

end Branches

section Reading

/-- Every type read from a text is respelled by its printed form. The induction is on the fuel;
the cases follow the tests of `readTypeWith` in their order, each throwing or handing over to
its branch lemma. -/
theorem readTypeWith_respelled {line : Option Nat} :
    ∀ {fuel : Nat} {text : String} {t : DataType}, readTypeWith fuel text line = .ok t →
      Respelled text t
  | 0, _, _, h => by cases h
  | fuel + 1, text, t, h => by
    apply Respelled.of_trim
    have hexpr := trim_trim text
    simp only [readTypeWith] at h
    generalize trim text = expr at h hexpr
    cases h1 : expr.isEmpty
    case true =>
      simp only [h1, ↓reduceIte] at h
      cases h
    simp only [h1, Bool.false_eq_true, ↓reduceIte] at h
    cases h2 : expr.startsWith "Array<"
    case true =>
      simp only [h2, ↓reduceIte] at h
      cases he : expr.endsWith ">" <;> cases hb : balanced expr <;>
        simp only [he, hb, Bool.not_true, Bool.not_false, Bool.or_self, Bool.or_true,
          Bool.true_or, Bool.false_eq_true, ↓reduceIte] at h
      · cases h
      · cases h
      · cases h
      obtain ⟨u, hu, rfl⟩ := map_eq_ok h
      exact respelled_array h2 he hb (readTypeWith_respelled hu)
    simp only [h2, Bool.false_eq_true, ↓reduceIte] at h
    cases h3 : expr == "JSON"
    case true =>
      simp only [h3, ↓reduceIte] at h
      cases h
      rw [beq_iff_eq.1 h3]
      exact respelled_json_nil
    simp only [h3, Bool.false_eq_true, ↓reduceIte] at h
    cases h4 : (expr.startsWith "JSON" && (trimStart (dropChars expr 4)).startsWith "\x7b")
    case true =>
      simp only [h4, ↓reduceIte] at h
      cases hbody : objectBody? expr with
      | none => simp only [hbody] at h; cases h
      | some body =>
        cases hb : balanced expr <;> simp only [hbody, hb, Bool.false_eq_true, ↓reduceIte] at h
        · cases h
        obtain ⟨props, hprops, rfl⟩ := map_eq_ok h
        exact respelled_object (fun h' => readTypeWith_respelled h') (Bool.and_eq_true_iff.1 h4).1
          hbody hb hprops
    simp only [h4, Bool.false_eq_true, ↓reduceIte] at h
    cases h5 : expr.contains '('
    case true =>
      simp only [h5, ↓reduceIte] at h
      cases hp : parametricParts? expr with
      | none => simp only [hp] at h; cases h
      | some parts =>
        obtain ⟨name, body⟩ := parts
        cases hb : balanced expr <;> simp only [hp, hb, Bool.false_eq_true, ↓reduceIte] at h
        · cases h
        cases h
        exact respelled_parametric hp hb
    simp only [h5, Bool.false_eq_true, ↓reduceIte] at h
    cases h6 : expr.contains '['
    case true =>
      simp only [h6, ↓reduceIte] at h
      cases hc : collectionParts? expr with
      | none => simp only [hc] at h; cases h
      | some parts =>
        obtain ⟨entity, bounds⟩ := parts
        simp only [hc] at h
        obtain ⟨bnd, hm, rfl⟩ := map_eq_ok h
        exact respelled_collection hc hm
    simp only [h6, Bool.false_eq_true, ↓reduceIte] at h
    cases h7 : hasBracket expr
    case true =>
      simp only [h7, ↓reduceIte] at h
      cases h
    simp only [h7, Bool.false_eq_true, ↓reduceIte] at h
    cases h
    exact respelled_simple hexpr h1 h2 h3 h4 h5 h6 h7

/-- Reading the printed form of a type read from a text gives the type back: reading the text
and then the printed form of what it gives is reading the text. -/
theorem readType_render_readType (s : String) (line line' : Option Nat) :
    (readType s line >>= fun t => readType t.render line') = readType s line := by
  cases h : readType s line with
  | error e => rfl
  | ok t =>
    rw [readType] at h
    simp only [bind, Except.bind]
    rw [readType]
    exact (readTypeWith_respelled h).reads (t.render.length + 1) line' (Nat.lt_succ_self _)

end Reading

end SchemaNotation.Notation
