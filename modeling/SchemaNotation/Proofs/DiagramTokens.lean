import SchemaNotation.Proofs.ReadFields
import SchemaNotation.Render.Diagram

/-! Identifiers, labels and entity blocks of a diagram.

Every name a diagram shows as an identifier goes through `Diagram.sanitize`: each run of
characters other than ASCII letters, digits and the underscore becomes one underscore,
underscores at the ends go, and what is left empty becomes `unnamed`. So every entity
identifier, field identifier, type token and end of an edge is a `Diagram.Identifier`: not
empty, of ASCII letters, digits and underscores, with no underscore at either end, and
`sanitize` leaves such a text as it is. Type tokens stay identifiers through the `Array_`
prefixes of arrays and collections. Every quoted label holds no double quote.

An entity block lists its fields up to the field limit, as a slice does (a negative limit counts
back from the end), and adds a truncation line exactly when the entity has more fields than the
limit. That line counts the length less the limit: for a limit of zero or more, the fields not
listed; for a negative limit more than that (`Document.diagram_negative_limit`).
`Document.diagram_tokens` puts this together over the lines of a diagram. -/

namespace SchemaNotation

namespace Diagram

/-- A diagram identifier: not empty, made of ASCII letters, digits and underscores, with no
underscore at either end. -/
def Identifier (s : String) : Prop :=
  s.toList ≠ [] ∧ (∀ c ∈ s.toList, c.isAlphanum = true ∨ c = '_') ∧
    s.toList.head? ≠ some '_' ∧ s.toList.getLast? ≠ some '_'

theorem isSafe_iff {c : Char} : isSafe c = true ↔ c.isAlphanum = true ∨ c = '_' := by
  simp [isSafe]

/-- Whether a text is a diagram identifier, as a test. -/
def isIdentifier (s : String) : Bool :=
  !s.toList.isEmpty && s.toList.all isSafe && s.toList.head?.all (· != '_') &&
    s.toList.getLast?.all (· != '_')

theorem isIdentifier_iff {s : String} : isIdentifier s = true ↔ Identifier s := by
  simp only [isIdentifier, Identifier, Bool.and_eq_true, Bool.not_eq_true', List.isEmpty_eq_false_iff,
    List.all_eq_true, isSafe_iff]
  cases s.toList.head? <;> cases s.toList.getLast? <;> simp [and_assoc]

instance : DecidablePred Identifier := fun _ => decidable_of_iff _ isIdentifier_iff

example : Identifier "Array_User_id" ∧ ¬Identifier "_id" ∧ ¬Identifier "a-b" ∧ ¬Identifier "" := by
  decide

theorem collapse_safe : ∀ (cs : List Char) (b : Bool), ∀ c ∈ collapse cs b, isSafe c = true
  | [], _ => fun _ h => nomatch h
  | d :: rest, b => by
    intro c hc
    unfold collapse at hc
    split at hc
    · rcases List.mem_cons.1 hc with rfl | hc
      · assumption
      · exact collapse_safe rest false c hc
    · split at hc
      · exact collapse_safe rest true c hc
      · rcases List.mem_cons.1 hc with rfl | hc
        · rfl
        · exact collapse_safe rest true c hc

theorem collapse_of_safe : ∀ {cs : List Char} (b : Bool), (∀ c ∈ cs, isSafe c = true) →
    collapse cs b = cs
  | [], _, _ => rfl
  | d :: rest, _, h => by
    rw [collapse, if_pos (h d List.mem_cons_self),
      collapse_of_safe false fun c hc => h c (List.mem_cons_of_mem d hc)]

/-- The characters left after dropping underscores at both ends. -/
def trimUnderscores (cs : List Char) : List Char :=
  (cs.dropWhile (· == '_')).rdropWhile (· == '_')

theorem sanitize_eq (name : String) :
    sanitize name =
      if (trimUnderscores (collapse name.toList false)).isEmpty then "unnamed"
      else String.ofList (trimUnderscores (collapse name.toList false)) := rfl

theorem mem_of_mem_trimUnderscores {cs : List Char} {c : Char} (h : c ∈ trimUnderscores cs) :
    c ∈ cs :=
  (List.dropWhile_suffix _).sublist.subset ((List.rdropWhile_prefix _ _).sublist.subset h)

theorem trimUnderscores_head (cs : List Char) : (trimUnderscores cs).head? ≠ some '_' := by
  intro h
  obtain ⟨rest, hrest⟩ := List.rdropWhile_prefix (· == '_') (cs.dropWhile (· == '_'))
  have hd : (cs.dropWhile (· == '_')).head? = some '_' := by
    rw [← hrest, List.head?_append]
    change ((trimUnderscores cs).head?.or rest.head?) = some '_'
    rw [h]
    rfl
  have hnot := List.head?_dropWhile_not (· == '_') cs
  rw [hd] at hnot
  simp at hnot

theorem trimUnderscores_last (cs : List Char) : (trimUnderscores cs).getLast? ≠ some '_' := by
  intro h
  have hne : trimUnderscores cs ≠ [] := by
    rintro h0
    rw [h0] at h
    cases h
  have hnot := List.rdropWhile_last_not (· == '_') (cs.dropWhile (· == '_')) hne
  rw [List.getLast?_eq_some_getLast hne, Option.some.injEq] at h
  change ¬((trimUnderscores cs).getLast hne == '_') = true at hnot
  rw [h] at hnot
  exact hnot rfl

theorem trimUnderscores_eq_self {cs : List Char} (hh : cs.head? ≠ some '_')
    (hl : cs.getLast? ≠ some '_') : trimUnderscores cs = cs := by
  have hdrop : cs.dropWhile (· == '_') = cs := by
    cases cs with
    | nil => rfl
    | cons c rest =>
      refine List.dropWhile_cons_of_neg ?_
      simpa using hh
  rw [trimUnderscores, hdrop, List.rdropWhile_eq_self_iff]
  intro hne hlast
  rw [List.getLast?_eq_some_getLast hne] at hl
  exact hl (by rw [beq_iff_eq.1 hlast])

theorem sanitize_identifier (name : String) : Identifier (sanitize name) := by
  rw [sanitize_eq]
  split
  · decide
  · rename_i hne
    refine ⟨?_, fun c hc => ?_, ?_, ?_⟩ <;> rw [String.toList_ofList] at *
    · simpa using hne
    · exact isSafe_iff.1 (collapse_safe _ _ c (mem_of_mem_trimUnderscores hc))
    · exact trimUnderscores_head _
    · exact trimUnderscores_last _

theorem sanitize_of_identifier {s : String} (h : Identifier s) : sanitize s = s := by
  obtain ⟨hne, hsafe, hhead, hlast⟩ := h
  have hc : collapse s.toList false = s.toList :=
    collapse_of_safe false fun c hc => isSafe_iff.2 (hsafe c hc)
  rw [sanitize_eq, hc, trimUnderscores_eq_self hhead hlast, if_neg (by simpa using hne),
    String.ofList_toList]

theorem Identifier.array {s : String} (h : Identifier s) : Identifier ("Array_" ++ s) := by
  obtain ⟨hne, hsafe, -, hlast⟩ := h
  have hprefix : "Array_".toList.all isSafe = true := by decide
  refine ⟨by simp, fun c hc => ?_, by simp, ?_⟩
  · rw [String.toList_append, List.mem_append] at hc
    exact hc.elim (fun hc => isSafe_iff.1 (List.all_eq_true.1 hprefix c hc)) (hsafe c)
  · rwa [String.toList_append, List.getLast?_append_of_ne_nil _ hne]

theorem typeName_identifier (t : DataType) : Identifier (typeName t) := by
  cases t with
  | simple name => exact sanitize_identifier name
  | parametric name params => exact sanitize_identifier ("_".intercalate (name :: params))
  | array inner =>
    rw [typeName]
    exact (typeName_identifier inner).array
  | json _ =>
    rw [typeName]
    decide
  | collection entity _ => exact (sanitize_identifier entity).array
  | embedded entity => exact sanitize_identifier entity

/-- A quoted label: a text between two double quotes, with no double quote inside. -/
def QuotedLabel (q : String) : Prop := ∃ l, q = "\"" ++ l ++ "\"" ∧ '"' ∉ l.toList

theorem quote_label (s : String) : QuotedLabel (quote s) := by
  refine ⟨_, rfl, ?_⟩
  rw [String.toList_map, List.mem_map]
  rintro ⟨c, -, hc⟩
  split at hc
  · cases hc
  · rename_i hne
    exact hne (by rw [hc]; rfl)

theorem quotedLabel_of {l : String} (h : '"' ∉ l.toList) : QuotedLabel ("\"" ++ l ++ "\"") :=
  ⟨l, rfl, h⟩

theorem not_mem_intercalate {sep : String} {c : Char} (hsep : c ∉ sep.toList) :
    ∀ {l : List String}, (∀ x ∈ l, c ∉ x.toList) → c ∉ (sep.intercalate l).toList
  | [], _ => nofun
  | [x], h => by
    rw [String.intercalate_singleton]
    exact h x List.mem_cons_self
  | x :: y :: l, h => by
    rw [String.intercalate_cons_cons, String.toList_append, String.toList_append]
    simp only [List.mem_append, not_or]
    exact ⟨⟨h x List.mem_cons_self, hsep⟩,
      not_mem_intercalate hsep fun z hz => h z (List.mem_cons_of_mem x hz)⟩

/-- The keys of a diagram: `PK`, `FK` and `UK`. -/
def IsKey (k : String) : Prop := k = "PK" ∨ k = "FK" ∨ k = "UK"

theorem keyOf?_isKey {name k : String} (h : keyOf? name = some k) : IsKey k := by
  unfold keyOf? at h
  split at h <;> cases h
  · exact .inl rfl
  · exact .inr (.inl rfl)
  · exact .inr (.inr rfl)
  · exact .inr (.inr rfl)

theorem IsKey.no_quote {k : String} (h : IsKey k) : '"' ∉ k.toList := by
  rcases h with rfl | rfl | rfl <;> decide

theorem foldl_addConstraint_keys :
    ∀ (cs : List Constraint) (acc : List String × List String), (∀ k ∈ acc.1, IsKey k) →
      ∀ k ∈ (cs.foldl addConstraint acc).1, IsKey k
  | [], _, h => h
  | c :: cs, acc, h => by
    refine foldl_addConstraint_keys cs _ fun k hk => ?_
    unfold addConstraint at hk
    split at hk
    · rename_i key hkey
      split at hk
      · exact h k hk
      · rcases List.mem_append.1 hk with hk | hk
        · exact h k hk
        · rw [List.mem_singleton.1 hk]
          exact keyOf?_isKey hkey
    · exact h k hk

/-- The attribute line of a field: its type token and its identifier, both identifiers, then
text with no double quote for its keys, and at most one quoted label, at the end. -/
def AttributeOf (f : Field) (line : String) : Prop :=
  ∃ ty keys label, line = ty ++ " " ++ sanitize f.name ++ keys ++ label ∧ Identifier ty ∧
    Identifier (sanitize f.name) ∧ '"' ∉ keys.toList ∧
    (label = "" ∨ ∃ q, label = " " ++ q ∧ QuotedLabel q)

theorem attributeLine_of (st : DiagramStyle) (f : Field) : AttributeOf f (attributeLine st f) := by
  have hty : Identifier (if st.includeTypes then typeName f.type else "String") := by
    split
    · exact typeName_identifier f.type
    · decide
  unfold attributeLine
  cases hc : st.includeConstraints
  · refine ⟨_, "", "", ?_, hty, sanitize_identifier f.name, nofun, .inl rfl⟩
    simp [String.intercalate_cons_cons, String.intercalate_singleton]
  · simp only [Bool.not_true, Bool.false_eq_true, ↓reduceIte]
    generalize hsorted : f.constraints.foldl addConstraint _ = sorted
    have hkeys : ∀ k ∈ sorted.1, IsKey k :=
      hsorted ▸ foldl_addConstraint_keys f.constraints _ nofun
    have hnokeys : '"' ∉ (",".intercalate sorted.1).toList :=
      not_mem_intercalate (by decide) fun k hk => (hkeys k hk).no_quote
    refine ⟨_, if sorted.1.isEmpty then "" else " " ++ ",".intercalate sorted.1,
      if sorted.2.isEmpty then "" else " " ++ quote (", ".intercalate sorted.2), ?_, hty,
      sanitize_identifier f.name, ?_, ?_⟩
    · cases sorted.1.isEmpty <;> cases sorted.2.isEmpty <;>
        simp [String.intercalate_cons_cons, String.intercalate_singleton, String.append_assoc]
    · split
      · exact nofun
      · simpa using hnokeys
    · split
      · exact .inl rfl
      · exact .inr ⟨_, rfl, quote_label _⟩

/-- The edge line of a relationship: the identifiers of its two ends around its arrow, then its
quoted label. -/
def EdgeOf (r : Relationship) (line : String) : Prop :=
  ∃ q, line = "    " ++ sanitize r.source ++ " " ++ arrow r.cardinality ++ " " ++
      sanitize r.target ++ " : " ++ q ∧
    Identifier (sanitize r.source) ∧ Identifier (sanitize r.target) ∧ QuotedLabel q

theorem edgeLine_of (r : Relationship) : EdgeOf r (edgeLine r) :=
  ⟨_, rfl, sanitize_identifier _, sanitize_identifier _, quote_label _⟩

/-- Where a slice of `n` items up to `m` stops: at `m` within `0..n`, a negative `m` counting
back from the end. -/
def sliceStop (n : Nat) (m : Int) : Nat := if 0 ≤ m then min n m.toNat else (n + m).toNat

theorem upTo_eq_take {α : Type} (xs : List α) (m : Int) :
    upTo xs m = xs.take (sliceStop xs.length m) := by
  unfold upTo sliceStop
  split
  · rw [List.take_eq_take_min, Nat.min_comm]
  · congr 1
    omega

/-- The block of an entity: its identifier opening it, comment lines, the attribute line of each
field of the slice up to the field limit, a truncation line exactly when the entity has more
fields than the limit, and the closing brace. The truncation line's label counts the length less
the limit, which for a limit of zero or more is the number of fields not listed. -/
def BlockOf (st : DiagramStyle) (e : Entity) (lines : List String) : Prop :=
  Identifier (sanitize e.name) ∧ (∀ f ∈ e.fields, AttributeOf f (attributeLine st f)) ∧
  ∃ comments truncation,
    lines = ("    " ++ sanitize e.name ++ " \x7b") :: comments ++
      (e.fields.take (sliceStop e.fields.length st.maxFields)).map
        (fun f => "        " ++ attributeLine st f) ++
      truncation ++ ["    \x7d"] ∧
    (∀ l ∈ comments, ∃ c, l = "        %% " ++ c) ∧
    (truncation ≠ [] ↔ st.maxFields < e.fields.length) ∧
    ∀ l ∈ truncation, ∃ (n : Int) (q : String),
      l = "        String truncated_fields " ++ q ∧ QuotedLabel q ∧
      q = "\"... and " ++ toString n ++ " more fields\"" ∧ n = e.fields.length - st.maxFields ∧
      (0 ≤ st.maxFields → n + sliceStop e.fields.length st.maxFields = e.fields.length)

theorem truncation_label (n : Int) : '"' ∉ ("... and " ++ toString n ++ " more fields").toList := by
  intro h
  simp only [String.toList_append, List.mem_append] at h
  rcases h with (h | h) | h
  · revert h
    decide
  · rcases Text.toString_int_chars n _ h with h | h
    · cases h
    · revert h
      decide
  · revert h
    decide

theorem truncation_line (x : String) :
    "        String truncated_fields \"... and " ++ x ++ " more fields\"" =
      "        String truncated_fields " ++ ("\"... and " ++ x ++ " more fields\"") := by
  have hsplit : ("        String truncated_fields \"... and " : String) =
      "        String truncated_fields " ++ "\"... and " := by decide
  rw [hsplit]
  simp only [String.append_assoc]

theorem truncation_quotedLabel (n : Int) :
    QuotedLabel ("\"... and " ++ toString n ++ " more fields\"") := by
  have hopen : ("\"... and " : String) = "\"" ++ "... and " := by decide
  have hclose : (" more fields\"" : String) = " more fields" ++ "\"" := by decide
  rw [hopen, hclose]
  simpa only [String.append_assoc] using quotedLabel_of (truncation_label n)

theorem entityLines_block (st : DiagramStyle) (e : Entity) : BlockOf st e (entityLines st e) := by
  refine ⟨sanitize_identifier _, fun f _ => attributeLine_of st f, ?_⟩
  rw [entityLines, upTo_eq_take]
  refine ⟨_, _, rfl, ?_, ?_, ?_⟩
  · split
    · split
      · intro l hl
        rw [List.mem_singleton.1 hl]
        exact ⟨_, rfl⟩
      · simp
    · simp
  · split
    · exact ⟨fun _ => by assumption, fun _ => List.cons_ne_nil _ _⟩
    · exact ⟨fun h => absurd rfl h, fun h => absurd h (by assumption)⟩
  · split
    · rename_i hlt
      intro l hl
      rw [List.mem_singleton.1 hl]
      refine ⟨_, _, truncation_line _, truncation_quotedLabel _, rfl, rfl, fun hm => ?_⟩
      unfold sliceStop
      rw [if_pos hm]
      omega
    · simp

end Diagram

namespace Document

theorem diagram_lines (d : Document) (st : DiagramStyle) :
    ∃ pre post, d.diagram st =
        "\n".intercalate (pre ++ d.resolve.entities.flatMap (Diagram.entityLines st) ++ post) ++ "\n" ∧
      (∀ l ∈ pre, l = st.theme.directive ∨ l = "erDiagram" ∨ ∃ c, l = "    %% " ++ c) ∧
      (∀ l ∈ post, l = "" ∨ (∃ c, l = "    %% " ++ c) ∨
        ∃ r ∈ d.relationshipList, l = Diagram.edgeLine r) := by
  refine ⟨_, _, rfl, fun l hl => ?_, fun l hl => ?_⟩
  · rcases List.mem_append.1 hl with hl | hl
    · rcases List.mem_pair.1 hl with rfl | rfl
      · exact .inl rfl
      · exact .inr (.inl rfl)
    · split at hl
      · split at hl
        · rw [List.mem_singleton.1 hl]
          have hsplit : ("    %% Generated from: " : String) = "    %% " ++ "Generated from: " := by
            decide
          exact .inr (.inr ⟨_, by rw [hsplit, String.append_assoc]⟩)
        · cases hl
      · cases hl
  · rw [← relationshipList_resolve]
    split at hl
    · cases hl
    · rcases List.mem_append.1 hl with hl | hl
      · rcases List.mem_pair.1 hl with rfl | rfl
        · exact .inl rfl
        · exact .inr (.inl ⟨"Relationships", by decide⟩)
      · obtain ⟨r, hr, rfl⟩ := List.mem_map.1 hl
        exact .inr (.inr ⟨r, hr, rfl⟩)

/-- The diagram of any document under any options, whatever its field limit: its lines are
the directive, `erDiagram` and comments, then the block of each entity, then blank, comment and
edge lines. Each block opens with the entity's identifier and lists the attribute lines of the
slice of its fields up to the limit, each naming a type token and the field by identifiers; a
truncation line follows exactly when there are more fields than the limit, counting the length
less the limit, which for a limit of zero or more is the number of fields left out. Each edge
joins the identifiers of its ends. Every quoted label holds no double quote, and `sanitize`
leaves every identifier as it is. -/
theorem diagram_tokens (d : Document) (st : DiagramStyle) :
    (∃ pre post, d.diagram st =
        "\n".intercalate (pre ++ d.resolve.entities.flatMap (Diagram.entityLines st) ++ post) ++ "\n" ∧
      (∀ l ∈ pre, l = st.theme.directive ∨ l = "erDiagram" ∨ ∃ c, l = "    %% " ++ c) ∧
      (∀ l ∈ post, l = "" ∨ (∃ c, l = "    %% " ++ c) ∨
        ∃ r ∈ d.relationshipList, l = Diagram.edgeLine r)) ∧
    (∀ e ∈ d.resolve.entities, Diagram.BlockOf st e (Diagram.entityLines st e)) ∧
    (∀ r ∈ d.relationshipList, Diagram.EdgeOf r (Diagram.edgeLine r)) ∧
    ∀ s, Diagram.Identifier s → Diagram.sanitize s = s :=
  ⟨diagram_lines d st, fun e _ => Diagram.entityLines_block st e, fun r _ => Diagram.edgeLine_of r,
    fun _ => Diagram.sanitize_of_identifier⟩

/-- A negative field limit: the one field of the entity is left out, yet the truncation line
counts two. -/
theorem diagram_negative_limit :
    ∃ d, read "=== DATABASE SCHEMA ===\n=== M ===\nE\n==========\n* id : JSON\n" = .ok d ∧
      d.entities.map (·.fields.length) = [1] ∧
      d.diagram { maxFields := -1 } =
        "%%\x7binit: \x7b'theme':'default'\x7d\x7d%%\nerDiagram\n    E \x7b\n" ++
          "        String truncated_fields \"... and 2 more fields\"\n    \x7d\n" := by
  obtain ⟨d, hd, hcheck⟩ := Notation.exists_ok_of_any
    (x := read "=== DATABASE SCHEMA ===\n=== M ===\nE\n==========\n* id : JSON\n")
    (p := fun d => d.entities.map (·.fields.length) == [1] &&
      d.diagram { maxFields := -1 } ==
        "%%\x7binit: \x7b'theme':'default'\x7d\x7d%%\nerDiagram\n    E \x7b\n" ++
          "        String truncated_fields \"... and 2 more fields\"\n    \x7d\n")
    (by decide +kernel)
  rw [Bool.and_eq_true, beq_iff_eq, beq_iff_eq] at hcheck
  exact ⟨d, hd, hcheck⟩

end Document

end SchemaNotation
