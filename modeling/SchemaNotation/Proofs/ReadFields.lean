import SchemaNotation.Proofs.TypeSpelling
import SchemaNotation.Proofs.TypeReferences

/-! The fields of a read document.

Every field of every entity of a read document is one that `readField` read from a line
(`Document.fieldsRead_of_read`): the readers of entities, module sections and the schema only
gather the fields their lines give. So what holds of each field line read holds of a whole
document. In particular no type read refers to an embedded entity: the reader makes bare names,
and only resolution turns them into references (`Document.embeddedEntities_of_read`). -/

namespace SchemaNotation.Notation

open Text

section Runs

variable {α β : Type}

theorem run_bind_eq_ok {x : ReadM α} {f : α → ReadM β} {σ σ'' : Array Milestone} {b : β}
    (h : (x >>= f).run.run σ = (.ok b, σ'')) :
    ∃ a σ', x.run.run σ = (.ok a, σ') ∧ (f a).run.run σ' = (.ok b, σ'') := by
  rw [run_bind] at h
  rcases hx : x.run.run σ with ⟨_ | a, σ'⟩
  · rw [hx] at h
    cases h
  · rw [hx] at h
    exact ⟨a, σ', rfl, h⟩

theorem eq_of_run_pure {a b : α} {σ σ' : Array Milestone}
    (h : (pure a : ReadM α).run.run σ = (.ok b, σ')) : a = b :=
  Except.ok.inj (Prod.mk.inj h).1

theorem run_throw_ne_ok (e : ParseError) {b : α} {σ σ' : Array Milestone} :
    (throw e : ReadM α).run.run σ ≠ (.ok b, σ') := by
  rw [run_throw]
  intro h
  cases (Prod.mk.inj h).1

end Runs

theorem embeddedEntities_readTypeWith {line : Option Nat} {fuel : Nat} {text : String}
    {t : DataType} (h : readTypeWith fuel text line = .ok t) : t.embeddedEntities = [] := by
  induction fuel generalizing text t with
  | zero => cases h
  | succ fuel ih =>
    simp only [readTypeWith] at h
    repeat' split at h
    -- the branches that throw are refuted, and those that make a leaf fix `t`
    all_goals try simp only [throw, throwThe, MonadExceptOf.throw, pure, Except.pure, reduceCtorEq,
      Except.ok.injEq] at h
    · obtain ⟨u, hu, rfl⟩ := map_eq_ok h
      rw [DataType.embeddedEntities]
      exact ih hu
    · rw [← h]
      rfl
    · obtain ⟨props, hp, rfl⟩ := map_eq_ok h
      simp only [DataType.embeddedEntities, DataType.propertyEmbeddedEntities_eq_flatMap,
        List.flatMap_eq_nil_iff]
      rcases readProperties_eq_ok.1 hp with ⟨-, rfl⟩ | ⟨-, hall⟩
      · simp
      · refine forall_mem_of_forall₂ (fun _ p hp => ?_) hall
        obtain ⟨_, _, _, _, hread, _⟩ := hp
        exact ih hread
    · rw [← h]
      rfl
    · rw [← h]
      rfl
    · obtain ⟨m, -, rfl⟩ := map_eq_ok h
      rfl
    · rw [← h]
      rfl

theorem readField_type {text : String} {line : Option Nat} {f : Field}
    (h : readField text line = .ok f) : ∃ typeText, readType typeText line = .ok f.type := by
  simp only [readField, bind, Except.bind, pure, Except.pure, throw, throwThe,
    MonadExceptOf.throw] at h
  split at h
  · cases h
  · split at h
    · split at h
      · cases h
      · split at h
        · cases h
        · split at h
          · cases h
          · split at h
            · cases h
            · split at h
              · cases h
              · rename_i t ht
                cases h
                exact ⟨_, ht⟩
    · cases h

/-- A field that reading one line gives. -/
def FieldRead (f : Field) : Prop := ∃ text line, readField text line = .ok f

/-- Every field of every entity among `es` was read from a line. -/
def FieldsRead (es : List Entity) : Prop := ∀ e ∈ es, ∀ f ∈ e.fields, FieldRead f

theorem FieldRead.embeddedEntities {f : Field} (h : FieldRead f) :
    f.type.embeddedEntities = [] := by
  obtain ⟨text, line, hf⟩ := h
  obtain ⟨typeText, ht⟩ := readField_type hf
  exact embeddedEntities_readTypeWith ht

theorem FieldsRead.nil : FieldsRead [] := fun _ he => nomatch he

theorem FieldsRead.cons {e : Entity} {es : List Entity} (he : ∀ f ∈ e.fields, FieldRead f)
    (hes : FieldsRead es) : FieldsRead (e :: es) := by
  intro x hx
  rcases List.mem_cons.1 hx with rfl | hx
  · exact he
  · exact hes x hx

theorem FieldsRead.append {es es' : List Entity} (h : FieldsRead es) (h' : FieldsRead es') :
    FieldsRead (es ++ es') := by
  intro x hx
  rcases List.mem_append.1 hx with hx | hx
  · exact h x hx
  · exact h' x hx

theorem readFields_fieldRead {ls : Lines} {fs : List Field} {rest : Lines}
    (h : readFields ls = .ok (fs, rest)) : ∀ f ∈ fs, FieldRead f := by
  induction ls generalizing fs rest with
  | nil =>
    cases h
    exact fun _ hf => nomatch hf
  | cons x more ih =>
    obtain ⟨n, l⟩ := x
    simp only [readFields] at h
    split at h
    · split at h
      · obtain ⟨f, hf, h⟩ := bind_eq_ok h
        obtain ⟨⟨fs', after⟩, hmore, h⟩ := bind_eq_ok h
        obtain ⟨rfl, -⟩ := Prod.mk.inj (Except.ok.inj h)
        intro x hx
        rcases List.mem_cons.1 hx with rfl | hx
        · exact ⟨l, some n, hf⟩
        · exact ih hmore x hx
      · obtain ⟨rfl, -⟩ := Prod.mk.inj (Except.ok.inj h)
        exact fun _ hf => nomatch hf
    · obtain ⟨rfl, -⟩ := Prod.mk.inj (Except.ok.inj h)
      exact fun _ hf => nomatch hf

theorem entityBody_fieldRead {more rest : Lines} {e : Entity}
    {g : List Field × Lines → List LinkSection × List Feature × Lines → Entity}
    (hg : ∀ a b, (g a b).fields = a.1)
    (h : (readFields more >>= fun a =>
      readTrailing a.2.length a.2 >>= fun b => pure (g a b, b.2.2)) = .ok (e, rest)) :
    ∀ f ∈ e.fields, FieldRead f := by
  obtain ⟨a, ha, h⟩ := bind_eq_ok h
  obtain ⟨b, -, h⟩ := bind_eq_ok h
  cases h
  rw [hg]
  exact readFields_fieldRead ha

theorem readEntity_fieldRead {endLine n : Nat} {l : String} {rest rest' : Lines} {e : Entity}
    (h : readEntity endLine n l rest = .ok (e, rest')) : ∀ f ∈ e.fields, FieldRead f := by
  cases hname : (splitComment (trim l)).1.isEmpty
  case true =>
    simp only [readEntity, hname, ↓reduceIte] at h
    obtain ⟨_, h, -⟩ := bind_eq_ok h
    cases h
  cases rest with
  | nil =>
    simp only [readEntity, hname, pure_bind, Bool.false_eq_true, ↓reduceIte] at h
    obtain ⟨_, h, -⟩ := bind_eq_ok h
    cases h
  | cons y more =>
    obtain ⟨m, sep⟩ := y
    simp only [readEntity, hname, pure_bind, Bool.false_eq_true, ↓reduceIte] at h
    by_cases hstd : isStandardSeparator sep = true
    · simp only [hstd, ↓reduceIte] at h
      exact entityBody_fieldRead (fun _ _ => rfl) h
    · by_cases hemb : isEmbeddedSeparator sep = true
      · simp only [hstd, hemb, Bool.false_eq_true, ↓reduceIte] at h
        exact entityBody_fieldRead (fun _ _ => rfl) h
      · simp only [hstd, hemb, Bool.false_eq_true, ↓reduceIte] at h
        obtain ⟨_, h, -⟩ := bind_eq_ok h
        cases h

theorem readEntities_fieldsRead {endLine : Nat} :
    ∀ {fuel : Nat} {ls : Lines} {es : List Entity} {rest : Lines},
      readEntities endLine fuel ls = .ok (es, rest) → FieldsRead es
  | 0, _, _, _, h => by
    cases h
    exact FieldsRead.nil
  | fuel + 1, ls, es, rest, h => by
    simp only [readEntities] at h
    split at h
    · cases h
      exact FieldsRead.nil
    · split at h
      · cases h
        exact FieldsRead.nil
      · obtain ⟨⟨e, after⟩, he, h⟩ := bind_eq_ok h
        obtain ⟨⟨es', after'⟩, hmore, h⟩ := bind_eq_ok h
        cases h
        exact FieldsRead.cons (readEntity_fieldRead he) (readEntities_fieldsRead hmore)

theorem fromParse_eq_ok {α : Type} {p : Parse α} {a : α} {σ σ' : Array Milestone}
    (h : (fromParse p).run.run σ = (.ok a, σ')) : p = .ok a := by
  rw [run_fromParse] at h
  cases h
  rfl

theorem readSection_fieldsRead {endLine : Nat} {l : String} {rest rest' : Lines}
    {sec : ModuleSection} {σ σ' : Array Milestone}
    (h : (readSection endLine l rest).run.run σ = (.ok (sec, rest'), σ')) :
    FieldsRead sec.entities := by
  simp only [readSection] at h
  obtain ⟨⟨es, after⟩, σ₁, hes, h⟩ := run_bind_eq_ok h
  rw [run_reach_bind] at h
  obtain ⟨hsec, -⟩ := Prod.mk.inj (eq_of_run_pure h)
  rw [← hsec]
  exact readEntities_fieldsRead (fromParse_eq_ok hes)

theorem readSections_fieldsRead {endLine fuel : Nat} {ls : Lines} {secs : List ModuleSection}
    {rest : Lines} {σ σ' : Array Milestone}
    (h : (readSections endLine fuel ls).run.run σ = (.ok (secs, rest), σ')) :
    FieldsRead (secs.flatMap ModuleSection.entities) := by
  induction fuel generalizing ls secs rest σ σ' with
  | zero =>
    rw [readSections] at h
    obtain ⟨rfl, -⟩ := Prod.mk.inj (eq_of_run_pure h)
    exact FieldsRead.nil
  | succ fuel ih =>
    simp only [readSections] at h
    split at h
    · obtain ⟨rfl, -⟩ := Prod.mk.inj (eq_of_run_pure h)
      exact FieldsRead.nil
    · split at h
      · obtain ⟨⟨sec, after⟩, σ₁, hsec, h⟩ := run_bind_eq_ok h
        obtain ⟨⟨secs', after'⟩, σ₂, hmore, h⟩ := run_bind_eq_ok h
        obtain ⟨rfl, -⟩ := Prod.mk.inj (eq_of_run_pure h)
        exact (readSection_fieldsRead hsec).append (ih hmore)
      · obtain ⟨rfl, -⟩ := Prod.mk.inj (eq_of_run_pure h)
        exact FieldsRead.nil

theorem readSchema_fieldsRead {endLine : Nat} {ls rest : Lines} {schema : Schema}
    {σ σ' : Array Milestone} (h : (readSchema endLine ls).run.run σ = (.ok (schema, rest), σ')) :
    FieldsRead (schema.sections.flatMap ModuleSection.entities) := by
  cases ls with
  | nil =>
    rw [readSchema] at h
    exact absurd h (run_throw_ne_ok _)
  | cons x more =>
    simp only [readSchema] at h
    split at h
    · exact absurd h (run_throw_ne_ok _)
    · obtain ⟨⟨secs, after⟩, σ₁, hsecs, h⟩ := run_bind_eq_ok h
      obtain ⟨hschema, -⟩ := Prod.mk.inj (eq_of_run_pure h)
      rw [← hschema]
      exact readSections_fieldsRead hsecs

theorem readDocument_fieldsRead {text : String} {d : Document} {σ σ' : Array Milestone}
    (h : (readDocument text).run.run σ = (.ok d, σ')) : FieldsRead d.entities := by
  simp only [readDocument] at h
  obtain ⟨_, _, -, h⟩ := run_bind_eq_ok h
  obtain ⟨_, _, -, h⟩ := run_bind_eq_ok h
  obtain ⟨_, _, -, h⟩ := run_bind_eq_ok h
  obtain ⟨⟨schema, after⟩, _, hschema, h⟩ := run_bind_eq_ok h
  split at h
  · exact absurd h (run_throw_ne_ok _)
  · rw [run_reach_bind] at h
    rw [← eq_of_run_pure h]
    exact readSchema_fieldsRead hschema

end SchemaNotation.Notation

namespace SchemaNotation.Document

open Notation

/-- Every field of a read document was read from one of its lines. -/
theorem fieldsRead_of_read {text : String} {d : Document} (h : read text = .ok d) :
    FieldsRead d.entities := by
  rcases hr : (readDocument text).run.run #[] with ⟨r, σ⟩
  rw [read, readTraced, hr] at h
  subst h
  exact readDocument_fieldsRead hr

/-- A read document refers to no embedded entity in the type of any field. -/
theorem embeddedEntities_of_read {text : String} {d : Document} (h : read text = .ok d) :
    ∀ e ∈ d.entities, ∀ f ∈ e.fields, f.type.embeddedEntities = [] :=
  fun e he f hf => (fieldsRead_of_read h e he f hf).embeddedEntities

end SchemaNotation.Document
