import SchemaNotation.Proofs.ReadFields
import SchemaNotation.Proofs.FirstFault
import SchemaNotation.Proofs.ConstraintGroups

/-! The shapes reading gives the parts of a document.

Reading takes every part of a document from lines of its text, and no line holds a line break.
So each text it keeps has no line break, and each is cut from a line in a known way: a note or a
comment is trimmed, a front matter has each key once with no colon in it, an entity's name and
comment are what `splitComment` makes of its name line, and each field, link and relationship
was read from a line of its own. `Document.formed_of_read` collects these facts for a whole
document; writing a document back relies on them. -/

namespace SchemaNotation.Notation

open Text Leaves

/-- A text with no line break, as every line of a text is. -/
def NoBreak (s : String) : Prop := ∀ c ∈ s.toList, isLineBreak c = false

theorem NoBreak.mono {s t : String} (hs : NoBreak s) (h : t.toList ⊆ s.toList) : NoBreak t :=
  fun c hc => hs c (h hc)

theorem NoBreak.trim {s : String} (hs : NoBreak s) : NoBreak (trim s) := by
  obtain ⟨pre, post, hcs, -, -⟩ := trimList_spec s.toList
  refine hs.mono fun c hc => ?_
  rw [Text.trim, String.toList_ofList] at hc
  rw [hcs]
  exact List.mem_append_left _ (List.mem_append_right _ hc)

theorem NoBreak.dropChars {s : String} (hs : NoBreak s) (k : Nat) : NoBreak (dropChars s k) :=
  hs.mono fun c hc => by
    rw [Text.dropChars, String.toList_ofList] at hc
    exact List.mem_of_mem_drop hc

theorem linesFrom_break_append {cs : List Char} (hcs : ∀ c ∈ cs, isLineBreak c = false)
    (acc rest : List Char) :
    linesFrom (cs ++ '\n' :: rest) acc = String.ofList (cs.reverse ++ acc).reverse :: linesFrom rest [] := by
  induction cs generalizing acc with
  | nil => simp [linesFrom, isLineBreak]
  | cons c cs ih =>
    have hc : isLineBreak c = false := hcs c List.mem_cons_self
    have hr : c ≠ '\r' := by rintro rfl; cases hc
    rw [List.cons_append, linesFrom.eq_3 _ _ _ (by simp [hr]), if_neg (by simp [hc]),
      ih (fun d hd => hcs d (List.mem_cons_of_mem c hd))]
    simp

/-- The lines of a text written line by line, each line ended by a line feed, are the lines
written. -/
theorem lines_join {ls : List String} (hne : ls ≠ []) (h : ∀ l ∈ ls, NoBreak l) :
    Text.lines ("\n".intercalate ls ++ "\n") = ls := by
  induction ls with
  | nil => exact absurd rfl hne
  | cons l ls ih =>
    cases ls with
    | nil =>
      have hl := linesFrom_break_append (h l List.mem_cons_self) [] []
      simp only [List.reverse_append, List.reverse_nil, List.nil_append, List.reverse_reverse,
        String.ofList_toList] at hl
      rw [String.intercalate_singleton, Text.lines, String.toList_append,
        show ("\n" : String).toList = ['\n'] from rfl, hl]
      rfl
    | cons l' ls =>
      have hl := linesFrom_break_append (h l List.mem_cons_self) []
        ("\n".intercalate (l' :: ls) ++ "\n").toList
      simp only [List.reverse_append, List.reverse_nil, List.nil_append, List.reverse_reverse,
        String.ofList_toList] at hl
      rw [String.intercalate_cons_cons, Text.lines, String.append_assoc, String.append_assoc,
        String.toList_append, String.toList_append, show ("\n" : String).toList = ['\n'] from rfl,
        List.singleton_append, hl, ← Text.lines,
        ih (List.cons_ne_nil _ _) fun x hx => h x (List.mem_cons_of_mem l hx)]

theorem noBreak_of_mem_linesFrom {cs acc : List Char} (hacc : ∀ c ∈ acc, isLineBreak c = false)
    {l : String} (hl : l ∈ linesFrom cs acc) : NoBreak l := by
  -- the line being read holds no break, and each line ends where a break is read
  have hdone : ∀ {acc : List Char}, (∀ c ∈ acc, isLineBreak c = false) →
      NoBreak (String.ofList acc.reverse) := fun hacc c hc => hacc c (by simpa using hc)
  fun_induction linesFrom cs acc with
  | case1 => cases hl
  | case2 acc _ => exact List.mem_singleton.1 hl ▸ hdone hacc
  | case3 rest acc ih =>
    rcases List.mem_cons.1 hl with rfl | hl
    · exact hdone hacc
    · exact ih (fun _ h => absurd h List.not_mem_nil) hl
  | case4 c rest acc _ _ ih =>
    rcases List.mem_cons.1 hl with rfl | hl
    · exact hdone hacc
    · exact ih (fun _ h => absurd h List.not_mem_nil) hl
  | case5 c rest acc _ hbreak ih =>
    refine ih (fun d hd => ?_) hl
    rcases List.mem_cons.1 hd with rfl | hd
    · simpa using hbreak
    · exact hacc d hd

theorem noBreak_of_mem_lines {s l : String} (hl : l ∈ Text.lines s) : NoBreak l :=
  noBreak_of_mem_linesFrom (by simp) hl

/-- Lines none of which holds a line break, as the lines of a text are. -/
def Unbroken (ls : Lines) : Prop := ∀ x ∈ ls, NoBreak x.2

theorem Unbroken.suffix {ls ls' : Lines} (h : Unbroken ls) (hs : ls' <:+ ls) : Unbroken ls' :=
  fun x hx => h x (hs.subset hx)

theorem Unbroken.head {x : Nat × String} {ls : Lines} (h : Unbroken (x :: ls)) : NoBreak x.2 :=
  h x List.mem_cons_self

theorem Unbroken.tail {x : Nat × String} {ls : Lines} (h : Unbroken (x :: ls)) : Unbroken ls :=
  fun y hy => h y (List.mem_cons_of_mem x hy)

/-- A text as a line of a document leaves it: no line break, and no blank at either end. -/
def Trimmed (s : String) : Prop := NoBreak s ∧ trim s = s

theorem trimmed_trim {s : String} (hs : NoBreak s) : Trimmed (trim s) := ⟨hs.trim, trim_trim s⟩

/-- A value that `read` took from a line of its own, the line holding no line break. -/
def LineRead {α : Type} (read : String → Option Nat → Parse α) (a : α) : Prop :=
  ∃ l n, NoBreak l ∧ read l n = .ok a

/-- A relationship read from a line of the definitions block, which is no blank line, no
comment and no module header. -/
def RelationshipRead (r : Relationship) : Prop :=
  ∃ l n, NoBreak l ∧ closesText l = false ∧ readRelationship l n = .ok r

/-- A front matter as reading forms it: each key once, no key holding a colon, and keys and
values trimmed. -/
structure MetadataFormed (m : Metadata) : Prop where
  nodup : (m.entries.map Prod.fst).Nodup
  entry : ∀ e ∈ m.entries, Trimmed e.1 ∧ Trimmed e.2 ∧ ':' ∉ e.1.toList

/-- A feature section as reading forms it: a title line `# title`, and lines of text, trimmed,
none of which ends free text and none but the first a separator row. -/
structure FeatureFormed (ft : Feature) : Prop where
  title : ∃ s, Trimmed s ∧ s.startsWith "# " = true ∧ ft.title = trim (dropChars s 2)
  content : ∀ x ∈ ft.content, Trimmed x ∧ closesText x = false
  content_tail : ∀ x ∈ ft.content.tail, isSeparatorRow x = false

/-- An entity as reading forms it: its name and comment from a name line, and its fields, links
and notes and feature sections each from lines of their own. -/
structure EntityFormed (e : Entity) : Prop where
  nameLine : ∃ l, NoBreak l ∧ closesText l = false ∧ splitComment (trim l) = (e.name, e.comment)
  name_ne : e.name.isEmpty = false
  fields : ∀ f ∈ e.fields, LineRead readField f
  notes : ∀ s ∈ e.linkSections, ∀ t ∈ s.notes, Trimmed t
  links : ∀ s ∈ e.linkSections, ∀ k ∈ s.links, LineRead readLink k
  features : ∀ ft ∈ e.features, FeatureFormed ft

/-- A module section as reading forms it. -/
structure SectionFormed (s : ModuleSection) : Prop where
  name : ∃ l, NoBreak l ∧ headerName? l = some s.name
  description : ∀ x ∈ s.description, Trimmed x ∧ closesText x = false
  entities : ∀ e ∈ s.entities, EntityFormed e

end SchemaNotation.Notation

namespace SchemaNotation.Document

open Notation Text

/-- A document as reading forms it: every part taken from lines with no line break, in the
shape its reader gives it. -/
structure Formed (d : Document) : Prop where
  metadata : MetadataFormed d.metadata
  header : ∀ f ∈ d.header, NoBreak f
  comments : ∀ c ∈ d.comments, Trimmed c
  relationships : ∀ r ∈ d.relationshipList, RelationshipRead r
  modules : ∀ m ∈ d.schema.modules, ∃ x, NoBreak x ∧ m = trim (splitComment (trim x)).1
  sections : ∀ s ∈ d.schema.sections, SectionFormed s

end SchemaNotation.Document

namespace SchemaNotation.Notation

open Text Leaves

theorem MetadataFormed.empty : MetadataFormed .empty := ⟨List.nodup_nil, fun _ h => absurd h List.not_mem_nil⟩

theorem MetadataFormed.insert {m : Metadata} {k v : String} (hm : MetadataFormed m)
    (hk : Trimmed k) (hv : Trimmed v) (hc : ':' ∉ k.toList) : MetadataFormed (m.insert k v) := by
  unfold Metadata.insert
  split
  · refine ⟨?_, fun e he => ?_⟩
    · rw [List.map_map]
      convert hm.nodup using 1
      refine List.map_congr_left fun x _ => ?_
      obtain ⟨a, b⟩ := x
      simp only [Function.comp_apply]
      split <;> rfl
    · obtain ⟨⟨a, b⟩, hx, rfl⟩ := List.mem_map.1 he
      obtain ⟨ha, hb, hac⟩ := hm.entry _ hx
      by_cases hak : a = k
      · subst hak
        simpa using ⟨hk, hv, hc⟩
      · simpa [hak] using ⟨ha, hb, hac⟩
  · rename_i hnew
    refine ⟨?_, fun e he => ?_⟩
    · rw [List.map_append, List.nodup_append]
      refine ⟨hm.nodup, List.nodup_singleton _, fun a ha b hb => ?_⟩
      rw [List.mem_singleton.1 hb]
      rintro rfl
      obtain ⟨x, hx, rfl⟩ := List.mem_map.1 ha
      exact hnew (List.any_eq_true.2 ⟨x, hx, by simp⟩)
    · rcases List.mem_append.1 he with he | he
      · exact hm.entry e he
      · rw [List.mem_singleton.1 he]
        exact ⟨hk, hv, hc⟩

theorem trimmed_empty : Trimmed "" := ⟨(fun _ h => absurd h List.not_mem_nil), rfl⟩

theorem frontMatterFrom_formed {start : Nat} {ls : Lines} {m m' : Metadata} {rest : Lines}
    (hu : Unbroken ls) (hm : MetadataFormed m) (h : frontMatterFrom start ls m = .ok (m', rest)) :
    MetadataFormed m' := by
  induction ls generalizing m with
  | nil => cases h
  | cons x ls ih =>
    obtain ⟨n, l⟩ := x
    have hs : NoBreak (trim l) := hu.head.trim
    simp only [frontMatterFrom] at h
    split at h
    · obtain ⟨rfl, -⟩ := Prod.mk.inj (Except.ok.inj h)
      exact hm
    · split at h
      · exact ih hu.tail hm h
      · split at h
        · rename_i key value hbrk
          have hsplit := breakOn?_some hbrk
          have hkey : ':' ∉ key.toList := by
            obtain ⟨⟨b, a⟩, hb, he⟩ := Option.map_eq_some_iff.1 hbrk
            simp only [Prod.mk.injEq] at he
            obtain ⟨rfl, rfl⟩ := he
            rw [show (":" : String).toList = [':'] from rfl] at hb
            simpa using breakList?_single hb
          have hsub : key.toList ⊆ (trim l).toList ∧ value.toList ⊆ (trim l).toList := by
            rw [hsplit]
            exact ⟨fun c hc => by simp [hc], fun c hc => by simp [hc]⟩
          exact ih hu.tail (hm.insert (trimmed_trim (hs.mono hsub.1))
            (trimmed_trim (hs.mono hsub.2)) (not_mem_trim hkey)) h
        · rename_i hbrk
          have hcolon : ':' ∉ (trim l).toList := by
            refine not_mem_of_breakList?_eq_none ?_
            simpa [breakOn?, show (":" : String).toList = [':'] from rfl] using hbrk
          exact ih hu.tail (hm.insert ⟨hs, trim_trim l⟩ trimmed_empty hcolon) h

theorem readFrontMatter_formed {ls rest : Lines} {m : Metadata} (hu : Unbroken ls)
    (h : readFrontMatter ls = .ok (m, rest)) : MetadataFormed m := by
  cases ls with
  | nil =>
    obtain ⟨rfl, -⟩ := Prod.mk.inj (Except.ok.inj h)
    exact MetadataFormed.empty
  | cons x ls =>
    obtain ⟨n, l⟩ := x
    simp only [readFrontMatter] at h
    split at h
    · exact frontMatterFrom_formed hu.tail MetadataFormed.empty h
    · obtain ⟨rfl, -⟩ := Prod.mk.inj (Except.ok.inj h)
      exact MetadataFormed.empty

theorem readHeader_formed {ls rest : Lines} {header : Option String} (hu : Unbroken ls)
    (h : readHeader ls = .ok (header, rest)) : ∀ f ∈ header, NoBreak f := by
  cases ls with
  | nil =>
    obtain ⟨rfl, -⟩ := Prod.mk.inj (Except.ok.inj h)
    exact fun _ h => absurd h (Option.not_mem_none _)
  | cons x ls =>
    obtain ⟨n, l⟩ := x
    simp only [readHeader] at h
    split at h
    · split at h
      · obtain ⟨rfl, -⟩ := Prod.mk.inj (Except.ok.inj h)
        intro f hf
        rw [Option.mem_def, Option.some.injEq] at hf
        subst hf
        refine hu.head.trim.mono fun c hc => ?_
        rw [String.toList_ofList] at hc
        exact List.mem_of_mem_drop (List.mem_of_mem_take hc)
      · cases h
    · obtain ⟨rfl, -⟩ := Prod.mk.inj (Except.ok.inj h)
      exact fun _ h => absurd h (Option.not_mem_none _)

theorem skipNotes_formed {ls : Lines} (hu : Unbroken ls) : ∀ c ∈ (skipNotes ls).1, Trimmed c := by
  induction ls with
  | nil => exact fun _ h => absurd h List.not_mem_nil
  | cons x ls ih =>
    obtain ⟨n, l⟩ := x
    simp only [skipNotes]
    split
    · exact ih hu.tail
    · split
      · intro c hc
        rcases List.mem_cons.1 hc with rfl | hc
        · exact trimmed_trim ((hu.head.trim).dropChars 1)
        · exact ih hu.tail c hc
      · exact fun _ h => absurd h List.not_mem_nil

theorem relationshipsFrom_formed {ls rest : Lines} {rs : List Relationship} (hu : Unbroken ls)
    (h : relationshipsFrom ls = .ok (rs, rest)) : ∀ r ∈ rs, RelationshipRead r := by
  induction ls generalizing rs rest with
  | nil =>
    obtain ⟨rfl, -⟩ := Prod.mk.inj (Except.ok.inj h)
    exact fun _ h => absurd h List.not_mem_nil
  | cons x ls ih =>
    obtain ⟨n, l⟩ := x
    simp only [relationshipsFrom] at h
    split at h
    · exact ih hu.tail h
    · rename_i hnote
      split at h
      · obtain ⟨rfl, -⟩ := Prod.mk.inj (Except.ok.inj h)
        exact fun _ h => absurd h List.not_mem_nil
      · rename_i hstop
        obtain ⟨r, hr, h⟩ := bind_eq_ok h
        obtain ⟨⟨more, after⟩, hmore, h⟩ := bind_eq_ok h
        obtain ⟨rfl, -⟩ := Prod.mk.inj (Except.ok.inj h)
        intro x hx
        rcases List.mem_cons.1 hx with rfl | hx
        · refine ⟨l, some n, hu.head, ?_, hr⟩
          simp only [Bool.or_eq_true, not_or] at hnote hstop
          simp [closesText, hnote.1, hnote.2, hstop.2]
        · exact ih hu.tail hmore x hx

theorem readRelationshipBlock_formed {ls rest : Lines} {rs : Option (List Relationship)}
    {σ σ' : Array Milestone} (hu : Unbroken ls)
    (h : (readRelationshipBlock ls).run.run σ = (.ok (rs, rest), σ')) :
    ∀ r ∈ rs.getD [], RelationshipRead r := by
  cases ls with
  | nil =>
    obtain ⟨rfl, -⟩ := Prod.mk.inj (eq_of_run_pure h)
    exact fun _ h => absurd h List.not_mem_nil
  | cons x ls =>
    obtain ⟨n, l⟩ := x
    simp only [readRelationshipBlock] at h
    split at h
    · obtain ⟨⟨rs', after⟩, σ₁, hrs, h⟩ := run_bind_eq_ok h
      rw [run_reach_bind] at h
      obtain ⟨rfl, -⟩ := Prod.mk.inj (eq_of_run_pure h)
      exact relationshipsFrom_formed hu.tail (fromParse_eq_ok hrs)
    · obtain ⟨rfl, -⟩ := Prod.mk.inj (eq_of_run_pure h)
      exact fun _ h => absurd h List.not_mem_nil

theorem readModuleList_formed {ls : Lines} (hu : Unbroken ls) :
    ∀ m ∈ (readModuleList ls).1, ∃ x, NoBreak x ∧ m = trim (splitComment (trim x)).1 := by
  induction ls with
  | nil => exact fun _ h => absurd h List.not_mem_nil
  | cons x ls ih =>
    obtain ⟨n, l⟩ := x
    simp only [readModuleList]
    split
    · intro m hm
      rcases List.mem_cons.1 hm with rfl | hm
      · exact ⟨_, (hu.head.trim).dropChars 1, rfl⟩
      · exact ih hu.tail m hm
    · split
      · exact ih hu.tail
      · exact fun _ h => absurd h List.not_mem_nil

theorem readFields_formed {ls rest : Lines} {fs : List Field} (hu : Unbroken ls)
    (h : readFields ls = .ok (fs, rest)) : ∀ f ∈ fs, LineRead readField f := by
  induction ls generalizing fs rest with
  | nil =>
    obtain ⟨rfl, -⟩ := Prod.mk.inj (Except.ok.inj h)
    exact fun _ h => absurd h List.not_mem_nil
  | cons x ls ih =>
    obtain ⟨n, l⟩ := x
    simp only [readFields] at h
    split at h
    · split at h
      · obtain ⟨f, hf, h⟩ := bind_eq_ok h
        obtain ⟨⟨more, after⟩, hmore, h⟩ := bind_eq_ok h
        obtain ⟨rfl, -⟩ := Prod.mk.inj (Except.ok.inj h)
        intro x hx
        rcases List.mem_cons.1 hx with rfl | hx
        · exact ⟨l, some n, hu.head, hf⟩
        · exact ih hu.tail hmore x hx
      · obtain ⟨rfl, -⟩ := Prod.mk.inj (Except.ok.inj h)
        exact fun _ h => absurd h List.not_mem_nil
    · obtain ⟨rfl, -⟩ := Prod.mk.inj (Except.ok.inj h)
      exact fun _ h => absurd h List.not_mem_nil

/-- What a relationship section is made of: notes, trimmed, and links each read from a line. -/
def LinkSectionFormed (sec : LinkSection) : Prop :=
  (∀ t ∈ sec.notes, Trimmed t) ∧ ∀ k ∈ sec.links, LineRead readLink k

theorem readLinkSection_formed {ls rest : Lines} {sec : LinkSection} (hu : Unbroken ls)
    (h : readLinkSection ls = .ok (sec, rest)) : LinkSectionFormed sec := by
  induction ls generalizing sec rest with
  | nil =>
    obtain ⟨rfl, -⟩ := Prod.mk.inj (Except.ok.inj h)
    exact ⟨(fun _ h => absurd h List.not_mem_nil), fun _ h => absurd h List.not_mem_nil⟩
  | cons x ls ih =>
    obtain ⟨n, l⟩ := x
    simp only [readLinkSection] at h
    split at h
    · obtain ⟨⟨sec', after⟩, hsec, h⟩ := bind_eq_ok h
      obtain ⟨rfl, -⟩ := Prod.mk.inj (Except.ok.inj h)
      obtain ⟨hnotes, hlinks⟩ := ih hu.tail hsec
      refine ⟨fun t ht => ?_, hlinks⟩
      rcases List.mem_cons.1 ht with rfl | ht
      · exact trimmed_trim ((hu.head.trim).dropChars _)
      · exact hnotes t ht
    · split at h
      · obtain ⟨k, hk, h⟩ := bind_eq_ok h
        obtain ⟨⟨sec', after⟩, hsec, h⟩ := bind_eq_ok h
        obtain ⟨rfl, -⟩ := Prod.mk.inj (Except.ok.inj h)
        obtain ⟨hnotes, hlinks⟩ := ih hu.tail hsec
        refine ⟨hnotes, fun x hx => ?_⟩
        rcases List.mem_cons.1 hx with rfl | hx
        · exact ⟨_, some n, hu.head.trim, hk⟩
        · exact hlinks x hx
      · obtain ⟨rfl, -⟩ := Prod.mk.inj (Except.ok.inj h)
        exact ⟨(fun _ h => absurd h List.not_mem_nil), fun _ h => absurd h List.not_mem_nil⟩

theorem isBlankText_trim (s : String) : isBlankText (trim s) = isBlankText s := by
  obtain ⟨pre, post, hs, hpre, hpost⟩ := trimList_spec s.toList
  unfold isBlankText
  rw [Text.trim, String.toList_ofList]
  conv => rhs; rw [hs]
  simp only [List.all_append, List.all_eq_true.2 hpre, List.all_eq_true.2 hpost, Bool.true_and,
    Bool.and_true]

theorem closesText_trim (l : String) : closesText (trim l) = closesText l := by
  simp only [closesText, isBlankLine, isBlankText_trim, isCommentLine, isModuleHeader, headerName?,
    trim_trim]

theorem isSeparatorRow_trim (l : String) : isSeparatorRow (trim l) = isSeparatorRow l := by
  simp only [isSeparatorRow, isStandardSeparator, isEmbeddedSeparator, trim_trim]

/-- The lines of text of a feature section, as reading takes them. -/
def FeatureLines (content : List String) : Prop :=
  (∀ x ∈ content, Trimmed x ∧ closesText x = false) ∧ ∀ x ∈ content.tail, isSeparatorRow x = false

theorem readFeatureLines_cons (n : Nat) (l : String) (ls : Lines) :
    readFeatureLines ((n, l) :: ls) =
      if closesText l = true ∨ ∃ y ∈ ls.head?, isSeparatorRow y.2 = true then ([], (n, l) :: ls)
      else (trim l :: (readFeatureLines ls).1, (readFeatureLines ls).2) := by
  cases ls with
  | nil => simp only [readFeatureLines, closesText, List.head?_nil, Option.mem_def,
      reduceCtorEq, false_and, exists_false, or_false, Bool.or_false]
  | cons y more =>
    obtain ⟨m, l'⟩ := y
    simp only [readFeatureLines, closesText, List.head?_cons, Option.mem_def, Option.some.injEq,
      exists_eq_left', Bool.or_eq_true, or_assoc]

theorem readFeatureLines_formed {ls : Lines} (hu : Unbroken ls) :
    FeatureLines (readFeatureLines ls).1 ∧
      ∀ x ∈ (readFeatureLines ls).1.head?, ∃ y ∈ ls.head?, x = trim y.2 := by
  induction ls with
  | nil => exact ⟨⟨(fun _ h => absurd h List.not_mem_nil), (fun _ h => absurd h List.not_mem_nil)⟩, (fun _ h => absurd h (Option.not_mem_none _))⟩
  | cons x ls ih =>
    obtain ⟨n, l⟩ := x
    obtain ⟨⟨hcontent, htail⟩, hhead⟩ := ih hu.tail
    rw [readFeatureLines_cons]
    split
    · exact ⟨⟨(fun _ h => absurd h List.not_mem_nil), (fun _ h => absurd h List.not_mem_nil)⟩, (fun _ h => absurd h (Option.not_mem_none _))⟩
    · rename_i hstop
      rw [not_or, Bool.not_eq_true] at hstop
      refine ⟨⟨fun x hx => ?_, fun x hx => ?_⟩, fun x hx => ⟨(n, l), rfl, ?_⟩⟩
      · rcases List.mem_cons.1 hx with rfl | hx
        · exact ⟨trimmed_trim hu.head, by rw [closesText_trim]; exact hstop.1⟩
        · exact hcontent x hx
      · rw [List.tail_cons] at hx
        obtain ⟨y, ys, hys⟩ := List.exists_cons_of_ne_nil (List.ne_nil_of_mem hx)
        rw [hys] at hx htail hhead
        rcases List.mem_cons.1 hx with rfl | hx
        · obtain ⟨z, hz, rfl⟩ := hhead x rfl
          rw [isSeparatorRow_trim]
          simpa using fun h => hstop.2 ⟨z, hz, h⟩
        · exact htail x hx
      · simpa using hx.symm

/-- What the sections below an entity's fields are made of. -/
def TrailingFormed (secs : List LinkSection) (fts : List Feature) : Prop :=
  (∀ s ∈ secs, LinkSectionFormed s) ∧ ∀ ft ∈ fts, FeatureFormed ft

theorem readTrailing_formed {fuel : Nat} {ls : Lines} {secs : List LinkSection}
    {fts : List Feature} {rest : Lines} (hu : Unbroken ls)
    (h : readTrailing fuel ls = .ok (secs, fts, rest)) : TrailingFormed secs fts := by
  induction fuel generalizing ls secs fts rest with
  | zero =>
    obtain ⟨rfl, h'⟩ := Prod.mk.inj (Except.ok.inj h)
    obtain ⟨rfl, -⟩ := Prod.mk.inj h'
    exact ⟨(fun _ h => absurd h List.not_mem_nil), fun _ h => absurd h List.not_mem_nil⟩
  | succ fuel ih =>
    cases ls with
    | nil =>
      obtain ⟨rfl, h'⟩ := Prod.mk.inj (Except.ok.inj h)
      obtain ⟨rfl, -⟩ := Prod.mk.inj h'
      exact ⟨(fun _ h => absurd h List.not_mem_nil), fun _ h => absurd h List.not_mem_nil⟩
    | cons x ls =>
      obtain ⟨n, l⟩ := x
      simp only [readTrailing] at h
      split at h
      · obtain ⟨⟨sec, after⟩, hsec, h⟩ := bind_eq_ok h
        obtain ⟨⟨secs', fts', after'⟩, hmore, h⟩ := bind_eq_ok h
        obtain ⟨rfl, h'⟩ := Prod.mk.inj (Except.ok.inj h)
        obtain ⟨rfl, -⟩ := Prod.mk.inj h'
        have hafter : Unbroken after := hu.tail.suffix ((readLinkSection_within ls).2 _ hsec)
        obtain ⟨hs, hf⟩ := ih hafter hmore
        refine ⟨fun s hs' => ?_, hf⟩
        rcases List.mem_cons.1 hs' with rfl | hs'
        · exact readLinkSection_formed hu.tail hsec
        · exact hs s hs'
      · split at h
        · rename_i htitle
          rcases hr : readFeatureLines ls with ⟨content, after⟩
          have hlines := (readFeatureLines_formed hu.tail).1
          have hafter : Unbroken after := by
            have := readFeatureLines_suffix ls
            rw [hr] at this
            exact hu.tail.suffix this
          rw [hr] at hlines h
          obtain ⟨⟨secs', fts', after'⟩, hmore, h⟩ := bind_eq_ok h
          obtain ⟨rfl, h'⟩ := Prod.mk.inj (Except.ok.inj h)
          obtain ⟨rfl, -⟩ := Prod.mk.inj h'
          obtain ⟨hs, hf⟩ := ih hafter hmore
          refine ⟨hs, fun ft hft => ?_⟩
          rcases List.mem_cons.1 hft with rfl | hft
          · simp only [Bool.and_eq_true] at htitle
            exact ⟨⟨trim l, trimmed_trim hu.head, htitle.1, rfl⟩, hlines.1, hlines.2⟩
          · exact hf ft hft
        · obtain ⟨rfl, h'⟩ := Prod.mk.inj (Except.ok.inj h)
          obtain ⟨rfl, -⟩ := Prod.mk.inj h'
          exact ⟨(fun _ h => absurd h List.not_mem_nil), fun _ h => absurd h List.not_mem_nil⟩

theorem entityFormed_of_parts {name : String} {comment : Option String} {kind : EntityKind}
    {more after rest : Lines} {fs : List Field} {secs : List LinkSection} {fts : List Feature}
    (hline : ∃ l, NoBreak l ∧ closesText l = false ∧ splitComment (trim l) = (name, comment))
    (hname : name.isEmpty = false) (hu : Unbroken more) (hfs : readFields more = .ok (fs, after))
    (htr : readTrailing after.length after = .ok (secs, fts, rest)) :
    EntityFormed ⟨name, kind, fs, secs, fts, comment⟩ := by
  have hafter : Unbroken after := hu.suffix ((readFields_within more).2 _ hfs)
  obtain ⟨hsecs, hfts⟩ := readTrailing_formed hafter htr
  exact ⟨hline, hname, readFields_formed hu hfs, fun s hs => (hsecs s hs).1,
    fun s hs => (hsecs s hs).2, hfts⟩

theorem readEntity_formed {endLine n : Nat} {l : String} {rest rest' : Lines} {e : Entity}
    (hl : NoBreak l) (hc : closesText l = false) (hu : Unbroken rest)
    (h : readEntity endLine n l rest = .ok (e, rest')) : EntityFormed e := by
  have hline : ∃ l', NoBreak l' ∧ closesText l' = false ∧ splitComment (trim l') =
      ((splitComment (trim l)).1, (splitComment (trim l)).2) :=
    ⟨l, hl, hc, (Prod.eta (splitComment (trim l))).symm⟩
  cases hname : (splitComment (trim l)).1.isEmpty
  case true =>
    simp only [readEntity, hname, ↓reduceIte] at h
    obtain ⟨_, h, -⟩ := bind_eq_ok h
    cases h
  cases rest with
  | nil =>
    simp only [readEntity, hname, pure_bind, Bool.false_eq_true, ↓reduceIte] at h
    obtain ⟨_, h, -⟩ := bind_eq_ok h
    cases h
  | cons y more =>
    obtain ⟨m, sep⟩ := y
    simp only [readEntity, hname, pure_bind, Bool.false_eq_true, ↓reduceIte] at h
    split at h
    · obtain ⟨⟨fs, after⟩, hfs, h⟩ := bind_eq_ok h
      obtain ⟨⟨secs, fts, after'⟩, htr, h⟩ := bind_eq_ok h
      obtain ⟨rfl, -⟩ := Prod.mk.inj (Except.ok.inj h)
      exact entityFormed_of_parts hline hname hu.tail hfs htr
    · split at h
      · obtain ⟨⟨fs, after⟩, hfs, h⟩ := bind_eq_ok h
        obtain ⟨⟨secs, fts, after'⟩, htr, h⟩ := bind_eq_ok h
        obtain ⟨rfl, -⟩ := Prod.mk.inj (Except.ok.inj h)
        exact entityFormed_of_parts hline hname hu.tail hfs htr
      · obtain ⟨_, h, -⟩ := bind_eq_ok h
        cases h

theorem skipNotes_head {ls rest : Lines} {n : Nat} {l : String}
    (h : (skipNotes ls).2 = (n, l) :: rest) : isBlankLine l = false ∧ isCommentLine l = false := by
  induction ls with
  | nil => cases h
  | cons x more ih =>
    obtain ⟨m, l'⟩ := x
    simp only [skipNotes] at h
    split at h
    · exact ih h
    · split at h
      · exact ih h
      · rename_i hb hcm
        obtain ⟨-, rfl⟩ := Prod.mk.inj (List.cons.inj h).1
        exact ⟨Bool.eq_false_iff.2 hb, Bool.eq_false_iff.2 hcm⟩

theorem readEntities_formed {endLine fuel : Nat} {ls : Lines} {es : List Entity} {rest : Lines}
    (hu : Unbroken ls) (h : readEntities endLine fuel ls = .ok (es, rest)) :
    ∀ e ∈ es, EntityFormed e := by
  induction fuel generalizing ls es rest with
  | zero =>
    obtain ⟨rfl, -⟩ := Prod.mk.inj (Except.ok.inj h)
    exact fun _ h => absurd h List.not_mem_nil
  | succ fuel ih =>
    simp only [readEntities] at h
    split at h
    · obtain ⟨rfl, -⟩ := Prod.mk.inj (Except.ok.inj h)
      exact fun _ h => absurd h List.not_mem_nil
    · rename_i n l more hskip
      have hu' : Unbroken ((n, l) :: more) := hu.suffix (hskip ▸ skipNotes_suffix ls)
      split at h
      · obtain ⟨rfl, -⟩ := Prod.mk.inj (Except.ok.inj h)
        exact fun _ h => absurd h List.not_mem_nil
      · rename_i hhead
        obtain ⟨⟨e, after⟩, he, h⟩ := bind_eq_ok h
        obtain ⟨⟨es', after'⟩, hmore, h⟩ := bind_eq_ok h
        obtain ⟨rfl, -⟩ := Prod.mk.inj (Except.ok.inj h)
        have hc : closesText l = false := by
          obtain ⟨hb, hcm⟩ := skipNotes_head hskip
          simp [closesText, hb, hcm, hhead]
        have hafter : Unbroken after := hu'.tail.suffix (readEntity_ok_suffix he)
        intro x hx
        rcases List.mem_cons.1 hx with rfl | hx
        · exact readEntity_formed hu'.head hc hu'.tail he
        · exact ih hafter hmore x hx

theorem headerName?_of_isModuleHeader {l : String} (h : isModuleHeader l = true) :
    headerName? l = some (moduleName l) := by
  simp only [isModuleHeader, Bool.and_eq_true, Option.isSome_iff_exists] at h
  obtain ⟨-, name, hname⟩ := h
  rw [moduleName, hname]
  rfl

theorem readSection_formed {endLine : Nat} {l : String} {rest rest' : Lines}
    {sec : ModuleSection} {σ σ' : Array Milestone} (hl : NoBreak l) (hh : isModuleHeader l = true)
    (hu : Unbroken rest) (h : (readSection endLine l rest).run.run σ = (.ok (sec, rest'), σ')) :
    SectionFormed sec := by
  have hname : ∃ l', NoBreak l' ∧ headerName? l' = some (moduleName l) :=
    ⟨l, hl, headerName?_of_isModuleHeader hh⟩
  have hu' : Unbroken (skipBlank rest) := hu.suffix (skipBlank_suffix rest)
  simp only [readSection] at h
  generalize skipBlank rest = ls at h hu'
  generalize moduleName l = name at h hname
  cases ls with
  | nil =>
    obtain ⟨⟨es, after⟩, σ₁, hes, h⟩ := run_bind_eq_ok h
    rw [run_reach_bind] at h
    obtain ⟨rfl, -⟩ := Prod.mk.inj (eq_of_run_pure h)
    exact ⟨hname, (fun _ h => absurd h (Option.not_mem_none _)), readEntities_formed hu' (fromParse_eq_ok hes)⟩
  | cons x more =>
    obtain ⟨n, c⟩ := x
    dsimp only at h
    split at h
    · rename_i hdesc
      obtain ⟨⟨es, after⟩, σ₁, hes, h⟩ := run_bind_eq_ok h
      rw [run_reach_bind] at h
      obtain ⟨rfl, -⟩ := Prod.mk.inj (eq_of_run_pure h)
      have hc : closesText c = false := by
        simp only [isDescription, Bool.and_eq_true, Bool.not_eq_true'] at hdesc
        exact hdesc.1
      refine ⟨hname, fun x hx => ?_, readEntities_formed hu'.tail (fromParse_eq_ok hes)⟩
      rw [Option.mem_def, Option.some.injEq] at hx
      subst hx
      exact ⟨trimmed_trim hu'.head, by rw [closesText_trim]; exact hc⟩
    · obtain ⟨⟨es, after⟩, σ₁, hes, h⟩ := run_bind_eq_ok h
      rw [run_reach_bind] at h
      obtain ⟨rfl, -⟩ := Prod.mk.inj (eq_of_run_pure h)
      exact ⟨hname, (fun _ h => absurd h (Option.not_mem_none _)), readEntities_formed hu' (fromParse_eq_ok hes)⟩

theorem readSections_formed {endLine fuel : Nat} {ls : Lines} {secs : List ModuleSection}
    {rest : Lines} {σ σ' : Array Milestone} (hu : Unbroken ls)
    (h : (readSections endLine fuel ls).run.run σ = (.ok (secs, rest), σ')) :
    ∀ s ∈ secs, SectionFormed s := by
  induction fuel generalizing ls secs rest σ σ' with
  | zero =>
    rw [readSections] at h
    obtain ⟨rfl, -⟩ := Prod.mk.inj (eq_of_run_pure h)
    exact fun _ h => absurd h List.not_mem_nil
  | succ fuel ih =>
    simp only [readSections] at h
    split at h
    · obtain ⟨rfl, -⟩ := Prod.mk.inj (eq_of_run_pure h)
      exact fun _ h => absurd h List.not_mem_nil
    · rename_i n l more hskip
      have hu' : Unbroken ((n, l) :: more) := hu.suffix (hskip ▸ skipNotes_suffix ls)
      split at h
      · rename_i hh
        obtain ⟨⟨sec, after⟩, σ₁, hsec, h⟩ := run_bind_eq_ok h
        obtain ⟨⟨secs', after'⟩, σ₂, hmore, h⟩ := run_bind_eq_ok h
        obtain ⟨rfl, -⟩ := Prod.mk.inj (eq_of_run_pure h)
        have hafter : Unbroken after := hu'.tail.suffix ((readSection_within endLine l more σ).2 (sec, after) (by rw [hsec]))
        intro s hs
        rcases List.mem_cons.1 hs with rfl | hs
        · exact readSection_formed hu'.head hh hu'.tail hsec
        · exact ih hafter hmore s hs
      · obtain ⟨rfl, -⟩ := Prod.mk.inj (eq_of_run_pure h)
        exact fun _ h => absurd h List.not_mem_nil

theorem readSchema_formed {endLine : Nat} {ls rest : Lines} {schema : Schema}
    {σ σ' : Array Milestone} (hu : Unbroken ls)
    (h : (readSchema endLine ls).run.run σ = (.ok (schema, rest), σ')) :
    (∀ m ∈ schema.modules, ∃ x, NoBreak x ∧ m = trim (splitComment (trim x)).1) ∧
      ∀ s ∈ schema.sections, SectionFormed s := by
  cases ls with
  | nil =>
    rw [readSchema] at h
    exact absurd h (run_throw_ne_ok _)
  | cons x more =>
    simp only [readSchema] at h
    split at h
    · exact absurd h (run_throw_ne_ok _)
    · obtain ⟨⟨secs, after⟩, σ₁, hsecs, h⟩ := run_bind_eq_ok h
      obtain ⟨rfl, -⟩ := Prod.mk.inj (eq_of_run_pure h)
      exact ⟨readModuleList_formed hu.tail,
        readSections_formed (hu.tail.suffix (readModuleList_suffix more)) hsecs⟩

theorem readDocument_formed {text : String} {d : Document} {σ σ' : Array Milestone}
    (hu : Unbroken (numberLines text)) (h : (readDocument text).run.run σ = (.ok d, σ')) :
    d.Formed := by
  simp only [readDocument] at h
  generalize numberLines text = ls at h hu
  obtain ⟨⟨metadata, ls₁⟩, σ₁, hmeta, h⟩ := run_bind_eq_ok h
  have hmeta' := fromParse_eq_ok hmeta
  have hu₁ : Unbroken ls₁ :=
    hu.suffix (((readFrontMatter_within _).2 _ hmeta').trans (skipBlank_suffix ls))
  obtain ⟨⟨header, ls₂⟩, σ₂, hhead, h⟩ := run_bind_eq_ok h
  have hhead' := fromParse_eq_ok hhead
  have hu₂ : Unbroken (skipNotes ls₁).2 := hu₁.suffix (skipNotes_suffix ls₁)
  have hu₃ : Unbroken ls₂ := hu₂.suffix ((readHeader_within _).2 _ hhead')
  have hu₄ : Unbroken (skipNotes ls₂).2 := hu₃.suffix (skipNotes_suffix ls₂)
  obtain ⟨⟨rels, ls₃⟩, σ₃, hrels, h⟩ := run_bind_eq_ok h
  have hu₅ : Unbroken ls₃ :=
    hu₄.suffix ((readRelationshipBlock_within _ σ₂).2 (rels, ls₃) (by rw [hrels]))
  have hu₆ : Unbroken (skipNotes ls₃).2 := hu₅.suffix (skipNotes_suffix ls₃)
  obtain ⟨⟨schema, ls₄⟩, σ₄, hschema, h⟩ := run_bind_eq_ok h
  split at h
  · exact absurd h (run_throw_ne_ok _)
  · rw [run_reach_bind] at h
    obtain ⟨hmods, hsecs⟩ := readSchema_formed hu₆ hschema
    rw [← eq_of_run_pure h]
    refine ⟨readFrontMatter_formed (hu.suffix (skipBlank_suffix ls)) hmeta',
      readHeader_formed hu₂ hhead', fun c hc => ?_, readRelationshipBlock_formed hu₄ hrels,
      hmods, hsecs⟩
    rcases List.mem_append.1 hc with hc | hc
    · rcases List.mem_append.1 hc with hc | hc
      · exact skipNotes_formed hu₁ c hc
      · exact skipNotes_formed hu₃ c hc
    · exact skipNotes_formed hu₅ c hc

end SchemaNotation.Notation

namespace SchemaNotation.Document

open Notation

theorem unbroken_numberLines (text : String) : Unbroken (numberLines text) := by
  intro x hx
  obtain ⟨⟨l, i⟩, hmem, rfl⟩ := List.mem_map.1 hx
  exact noBreak_of_mem_lines (List.mem_of_getElem? (List.mem_zipIdx_iff_getElem?.1 hmem))

/-- Every part of a read document is taken from lines of the text in the shape reading gives. -/
theorem formed_of_read {text : String} {d : Document} (h : read text = .ok d) : d.Formed := by
  rcases hr : (readDocument text).run.run #[] with ⟨r, σ⟩
  rw [read, readTraced, hr] at h
  subst h
  exact readDocument_formed (unbroken_numberLines text) hr

end SchemaNotation.Document
