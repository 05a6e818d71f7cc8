import SchemaNotation.Proofs.Findings
import SchemaNotation.Proofs.InheritanceCycles
import SchemaNotation.Proofs.Resolution
import SchemaNotation.Proofs.TypeSurface

/-! What each pass of validation reports.

Each pass is opened once, in a `Reports` lemma that gives the kind and place of each of its errors
in order and shows that none of its warnings has the form of the advice on foreign keys
(`isUnlinkedKeyMessage`), which the cross-reference pass alone gives. The header and complexity
passes report no error; the relationship pass the distinct unknown entities each relationship
names, then the inheritance cycles; the type pass, node by node in pre-order, a parametric type
that breaks its shape (`BreaksShape`), an unknown entity and each rule a multiplicity breaks; the
constraint pass a constraint without the value it needs, a foreign key not of the form
`Entity.field` and one to an unknown entity. The structure pass is made of four such pieces. The
kinds of each pass follow, so the errors of a kind one pass alone reports are that pass's
(`Document.validate_ofKind_typeCheck`, `Document.validate_ofKind_structure`). -/

namespace SchemaNotation

open Notation

/-- The advice that the foreign key `v` of field `f` of entity `e` has no relationship behind it. -/
def unlinkedKeyMessage (e : Entity) (f : Field) (v : String) : String :=
  "Foreign key " ++ e.name ++ "." ++ f.name ++ " -> " ++ v ++
    " has no matching relationship definition"

/-- Whether a warning has the form of that advice. -/
def isUnlinkedKeyMessage (w : String) : Bool :=
  w.startsWith "Foreign key " && w.endsWith " has no matching relationship definition"

section Form

variable {p w : String}

theorem prefix_toList_append (p s : String) : p.toList <+: (p ++ s).toList := by
  rw [String.toList_append]
  exact List.prefix_append _ _

theorem suffix_toList_append (s p : String) : p.toList <:+ (s ++ p).toList := by
  rw [String.toList_append]
  exact List.suffix_append _ _

theorem startsWith_append (p s : String) : (p ++ s).startsWith p = true :=
  String.startsWith_string_iff.mpr (prefix_toList_append p s)

theorem endsWith_append (s p : String) : (s ++ p).endsWith p = true :=
  endsWith_iff.mpr (suffix_toList_append s p)

theorem isUnlinkedKeyMessage_unlinkedKeyMessage (e : Entity) (f : Field) (v : String) :
    isUnlinkedKeyMessage (unlinkedKeyMessage e f v) = true := by
  have hmsg : unlinkedKeyMessage e f v = "Foreign key " ++
      (e.name ++ "." ++ f.name ++ " -> " ++ v ++ " has no matching relationship definition") := by
    unfold unlinkedKeyMessage
    simp only [String.append_assoc]
  have hstart : (unlinkedKeyMessage e f v).startsWith "Foreign key " = true :=
    hmsg ▸ startsWith_append _ _
  have hend :
      (unlinkedKeyMessage e f v).endsWith " has no matching relationship definition" = true :=
    endsWith_append _ _
  exact Bool.and_eq_true_iff.mpr ⟨hstart, hend⟩

theorem isUnlinkedKeyMessage_of_opening (hw : p.toList <+: w.toList)
    (hp : ¬p.toList <+: "Foreign key ".toList ∧ ¬"Foreign key ".toList <+: p.toList) :
    isUnlinkedKeyMessage w = false := by
  have hstart : w.startsWith "Foreign key " = false := by
    rw [Bool.eq_false_iff, ne_eq, String.startsWith_string_iff]
    intro hkey
    rcases List.prefix_or_prefix_of_prefix hkey hw with h | h
    · exact hp.2 h
    · exact hp.1 h
  simp [isUnlinkedKeyMessage, hstart]

theorem isUnlinkedKeyMessage_of_closing (hw : p.toList <:+ w.toList)
    (hp : ¬p.toList <:+ " has no matching relationship definition".toList ∧
      ¬" has no matching relationship definition".toList <:+ p.toList) :
    isUnlinkedKeyMessage w = false := by
  have hend : w.endsWith " has no matching relationship definition" = false := by
    rw [Bool.eq_false_iff, ne_eq, endsWith_iff]
    intro hclose
    rcases List.suffix_or_suffix_of_suffix hclose hw with h | h
    · exact hp.2 h
    · exact hp.1 h
  simp [isUnlinkedKeyMessage, hend]

theorem isUnlinkedKeyMessage_append (s : String)
    (hp : ¬p.toList <+: "Foreign key ".toList ∧ ¬"Foreign key ".toList <+: p.toList) :
    isUnlinkedKeyMessage (p ++ s) = false :=
  isUnlinkedKeyMessage_of_opening (prefix_toList_append p s) hp

end Form

/-- The foreign key of a field: the value of its first `FK` constraint, with the entity it names
when it reads as `Entity.field`. -/
def Field.foreignKey? (f : Field) : Option (String × String) :=
  (f.constraint? "FK").bind fun c => c.value.bind fun v =>
    (qualifiedName? (Text.trim v)).map fun q => (v, q.1)

/-- The entities a relationship names: its source, its target, and its junction when it has
one. -/
def Relationship.namedEntities (r : Relationship) : List String :=
  [r.source, r.target] ++ match r.via with
    | some v => if v.isEmpty then [] else [v]
    | none => []

theorem foldl_distinct_unknown (known : String → Bool) :
    ∀ (names acc : List String),
      names.foldl (fun acc n => if known n || acc.contains n then acc else acc ++ [n]) acc =
        acc ++ (names.filter fun n => !known n && !acc.contains n).eraseDups
  | [], acc => by simp
  | n :: names, acc => by
    rw [List.foldl_cons]
    by_cases hn : (known n || acc.contains n) = true
    · rw [if_pos hn, foldl_distinct_unknown known names acc,
        List.filter_cons_of_neg (by rw [← Bool.not_or, hn]; decide)]
    · rw [if_neg hn, foldl_distinct_unknown known names (acc ++ [n]),
        List.filter_cons_of_pos (by rw [← Bool.not_or, Bool.eq_false_iff.mpr hn]; rfl),
        List.eraseDups_cons, List.filter_filter, List.append_assoc, List.singleton_append]
      have hkeep : names.filter (fun m => !known m && !(acc ++ [n]).contains m) =
          names.filter (fun m => !m == n && (!known m && !acc.contains m)) :=
        List.filter_congr fun m _ => by
          simp only [List.contains_append, List.contains_cons, List.contains_nil, Bool.or_false,
            Bool.not_or]
          cases m == n <;> simp
      rw [hkeep]

/-- Whether the parameters of a parametric type break the shape its name asks for: `String`,
`VarChar` and `Char` take exactly one whole number, `Decimal` and `Numeric` exactly two, and
`Enum` at least one value that is not empty. Other names ask for no shape. A whole number is a
text `Text.readInt?` reads. -/
def BreaksShape (name : String) (params : List String) : Prop :=
  (name ∈ ["String", "VarChar", "Char"] ∧
      ¬(params.length = 1 ∧ ∀ p ∈ params, (Text.readInt? p).isSome)) ∨
    (name ∈ ["Decimal", "Numeric"] ∧
      ¬(params.length = 2 ∧ ∀ p ∈ params, (Text.readInt? p).isSome)) ∨
    (name = "Enum" ∧ ∀ p ∈ params, p = "")

instance (name : String) (params : List String) : Decidable (BreaksShape name params) :=
  instDecidableOr

/-- How many rules of a multiplicity it breaks: the minimum is negative, and there is a maximum
below the minimum. -/
def Multiplicity.brokenRules (m : Multiplicity) : Nat :=
  (if m.min < 0 then 1 else 0) + (if m.max.any (· < m.min) then 1 else 0)

/-- The name and parameters of a parametric node. -/
def TypeNode.parametric? : TypeNode → Option (String × List String)
  | .parametric name params => some (name, params)
  | _ => none

/-- The entity and multiplicity of a collection node. -/
def TypeNode.collection? : TypeNode → Option (String × Multiplicity)
  | .collection entity bounds => some (entity, bounds)
  | _ => none

/-- The entity a node refers to: the members of a collection, or an embedded entity. -/
def TypeNode.entity? : TypeNode → Option String
  | .collection entity _ => some entity
  | .embedded entity => some entity
  | _ => none

instance : LawfulBEq Sigil where
  eq_of_beq {a b} := by cases a <;> cases b <;> decide
  rfl {a} := by cases a <;> rfl

namespace Scope

section Pieces

variable (e : Entity) (f : Field)

/-- The place of a field's error about its type `name(params)`. -/
def typePlace (name : String) (params : List String) :
    Option String × Option String × Option String :=
  (some e.name, some f.displayName, some (DataType.parametric name params).render)

/-- The place of a field's error about a multiplicity. -/
def boundsPlace (m : Multiplicity) : Option String × Option String × Option String :=
  (some e.name, some f.displayName, some m.render)

/-- The error of a duplicate field name. -/
def duplicateField (n : String) : Issue :=
  ⟨.duplicateFieldName, "'" ++ n ++ "' in entity '" ++ e.name ++ "'", some e.name, some n, none⟩

/-- The error of a name of a field met before: in the fields before it, or among its own names
before it (`same`). -/
def nameCheck (before : List Field) (same : List String) (n : String) : Findings :=
  if (before.flatMap Field.names ++ same).contains n then .error (duplicateField e n) else .none

/-- What the structure pass finds within one field, given the fields before it: each of its
names met before, and its sigils. -/
def fieldStructure (before : List Field) (f : Field) : Findings :=
  Findings.withEarlier f.names (nameCheck e before) ++ sigilFindings e f

/-- The error of an entity whose name is among the names before it. -/
def nameStructure (earlier : List String) : Findings :=
  if earlier.contains e.name then .error ⟨.duplicateEntityName, e.name, some e.name, none, none⟩
  else .none

/-- The error of an entity without a key field. -/
def keyStructure : Findings :=
  if e.keyFields.isEmpty then
    .error ⟨.missingPrimaryKey, "entity '" ++ e.name ++ "' has no field with a PK constraint",
      some e.name, none, none⟩
  else .none

theorem entityStructure_eq (earlier : List String) :
    entityStructure earlier e =
      nameStructure e earlier ++ Findings.withEarlier e.fields (fieldStructure e) ++
        keyStructure e := rfl

end Pieces

variable (s : Scope)

/-- What one node of a field's type reports by itself, the types within it aside: a parametric
type that breaks its shape, an entity that does not exist, and each rule its multiplicity
breaks. -/
def nodeSummaries (e : Entity) (f : Field) (u : DataType) :
    List (IssueKind × Option String × Option String × Option String) :=
  ((u.node.parametric?.toList.filter fun q => decide (BreaksShape q.1 q.2)).map fun q =>
    (.invalidDataType, typePlace e f q.1 q.2)) ++
  ((u.node.entity?.toList.filter fun n => !s.hasEntity n).map fun n =>
    (.missingRequiredEntity, some e.name, some f.displayName, some n)) ++
  ((u.node.collection?.toList.flatMap fun c => List.replicate c.2.brokenRules (boundsPlace e f c.2)).map
    fun pl => (.invalidCardinality, pl))

/-- What a foreign key constraint reports: that it has no value, that its value is not of the
form `Entity.field`, or that the entity it names does not exist. -/
def keySummaries (e : Entity) (f : Field) (c : Constraint) :
    List (IssueKind × Option String × Option String × Option String) :=
  (if c.value = none then [(.invalidConstraint, some e.name, some f.displayName, some c.render)]
    else []) ++
  ((c.value.filter fun v => (qualifiedName? (Text.trim v)).isNone).toList.map fun v =>
    (.invalidForeignKey, some e.name, some f.displayName, some v)) ++
  (((c.value.bind fun v => qualifiedName? (Text.trim v)).map Prod.fst).toList.filter
    fun n => (s.entity? n).isNone).map fun n =>
      (.missingRequiredEntity, some e.name, some f.displayName, some n)

/-- What a constraint reports: a foreign key reports as one, and `DEFAULT` and `ENUM` need a
value. -/
def constraintSummaries (e : Entity) (f : Field) (c : Constraint) :
    List (IssueKind × Option String × Option String × Option String) :=
  (if c.key = "FK" then s.keySummaries e f c else []) ++
  (if (c.key = "DEFAULT" ∨ c.key = "ENUM") ∧ c.value = none then
    [(.invalidConstraint, some e.name, some f.displayName, some c.name)]
  else [])

/-- The advice the key-link pass gives on field `f` of entity `e`: on its foreign key when that
names another entity of the scope that no pair of `linked` joins to `e`. -/
def keyAdvice (linked : List (String × String)) (e : Entity) (f : Field) : Option String :=
  (f.foreignKey?.filter fun k => s.hasEntity k.2 && k.2 != e.name && !linked.contains (e.name, k.2)).map
    fun k => unlinkedKeyMessage e f k.1

theorem headerFindings_reports : s.headerFindings.Reports [] isUnlinkedKeyMessage := by
  unfold headerFindings
  split
  · exact Findings.reports_warn (isUnlinkedKeyMessage_of_opening (List.prefix_refl _) (by decide))
  · split
    · exact Findings.reports_warn (isUnlinkedKeyMessage_of_opening (List.prefix_refl _) (by decide))
    · split
      · exact Findings.reports_none
      · exact Findings.reports_warn (by simp [String.append_assoc, isUnlinkedKeyMessage_append])

theorem complexityFindings_reports (r : Rules) :
    (s.complexityFindings r).Reports [] isUnlinkedKeyMessage := by
  refine Findings.reports_concatMap_nil fun e _ =>
    ((Findings.Reports.append_nil ?_ (Findings.reports_concatMap_nil fun f _ =>
      Findings.Reports.append_nil ?_ ?_)).append_nil (Findings.reports_concatMap_nil fun q _ => ?_))
  all_goals
    repeat' split
    all_goals simp [String.append_assoc, isUnlinkedKeyMessage_append]

theorem keyLinkFindings_eq (linked : List (String × String)) (e : Entity) (f : Field) :
    s.keyLinkFindings linked e f = { warnings := (s.keyAdvice linked e f).toList } := by
  unfold keyLinkFindings keyAdvice Field.foreignKey?
  cases hc : f.constraint? "FK" with
  | none => rfl
  | some c =>
    obtain ⟨name, value⟩ := c
    cases value with
    | none => rfl
    | some v =>
      cases hq : qualifiedName? (Text.trim v) with
      | none => simp [hq, Findings.none]
      | some q =>
        obtain ⟨x, y⟩ := q
        by_cases hx : s.hasEntity x = true <;> by_cases he : x = e.name <;>
          by_cases hl : (e.name, x) ∈ linked <;>
          simp [hq, hx, he, hl, Option.filter, Findings.none, Findings.warn, unlinkedKeyMessage]

theorem keyLinksFindings_eq : s.keyLinksFindings =
    { warnings := if s.document.relationshipList = [] then [] else
        s.document.entities.flatMap fun e => e.fields.flatMap fun f =>
          (s.keyAdvice (linkedPairs s.document.relationshipList) e f).toList } := by
  unfold keyLinksFindings
  split
  · rename_i hrs
    simp [hrs, Findings.none]
  · rename_i hrs
    apply Findings.ext
    · simp [Findings.errors_concatMap, keyLinkFindings_eq]
    · rw [if_neg hrs]
      simp [Findings.warnings_concatMap, keyLinkFindings_eq]

theorem crossReferenceFindings_split : ∃ a b : Findings,
    s.crossReferenceFindings = a ++ s.keyLinksFindings ++ b ∧
      a.Reports [] isUnlinkedKeyMessage ∧ b.Reports [] isUnlinkedKeyMessage := by
  refine ⟨_, _, rfl, Findings.Reports.append (Findings.reports_concatMap_nil fun n _ => ?_)
    (Findings.reports_concatMap_nil fun n _ => ?_),
    Findings.reports_concatMap_nil fun e _ => Findings.reports_concatMap_nil fun l _ =>
      Findings.reports_concatMap_nil fun n _ => ?_⟩
  all_goals
    split
    · exact Findings.reports_none
    · exact Findings.reports_warn (by simp [String.append_assoc, isUnlinkedKeyMessage_append])

theorem crossReferenceFindings_errors : s.crossReferenceFindings.errors = [] := by
  obtain ⟨a, b, hs, ha, hb⟩ := s.crossReferenceFindings_split
  rw [hs, Findings.errors_append, Findings.errors_append, ha.errors_eq_nil, hb.errors_eq_nil,
    keyLinksFindings_eq]
  rfl

/-- The relationship pass reports, for each relationship, each distinct entity it names that does
not exist, then the inheritance cycles. -/
theorem relationshipFindings_reports :
    s.relationshipFindings.Reports
      ((s.document.relationshipList.flatMap fun r =>
          (r.namedEntities.filter (!s.hasEntity ·)).eraseDups.map fun n =>
            (.missingRequiredEntity, none, none, some n)) ++
        (Inheritance.cycles s.document.relationshipList).map Issue.summary)
      isUnlinkedKeyMessage := by
  unfold relationshipFindings
  rw [Document.relationshipList]
  cases s.document.relationships with
  | none =>
    exact (Findings.reports_warn
      (isUnlinkedKeyMessage_of_opening (List.prefix_refl _) (by decide))).of_eq rfl
  | some rs =>
    refine Findings.Reports.append (Findings.reports_concatMap fun r _ => ?_)
      ⟨rfl, by simp [Findings.NoWarning]⟩
    dsimp only
    refine (((Findings.reports_concatMap fun n _ => Findings.reports_error _).append
      (?_ : Findings.Reports [] _ _)).append (?_ : Findings.Reports [] _ _)).of_eq ?_
    · split
      · split <;> simp [String.append_assoc, isUnlinkedKeyMessage_append]
      · simp
    · split <;> simp [String.append_assoc, isUnlinkedKeyMessage_append]
    · rw [foldl_distinct_unknown]
      cases hv : r.via <;>
        simp [Relationship.namedEntities, hv, Issue.summary, Issue.place, ← List.map_eq_flatMap]

section Structure

variable (e : Entity)

theorem sigilFindings_reports (f : Field) :
    (sigilFindings e f).Reports
      (if Sigil.required ∈ f.sigils ∧ Sigil.optional ∈ f.sigils then
        [(.invalidFieldPrefix, some e.name, some f.displayName,
          some (String.ofList (f.sigils.map Sigil.symbol)))]
      else []) isUnlinkedKeyMessage := by
  rw [Findings.reports_iff]
  by_cases hr : Sigil.required ∈ f.sigils <;> by_cases ho : Sigil.optional ∈ f.sigils <;>
    simp [sigilFindings, hr, ho, Issue.summary, Issue.place, String.append_assoc,
      isUnlinkedKeyMessage_append]

theorem nameCheck_reports (before : List Field) (same : List String) (n : String) :
    (nameCheck e before same n).Reports
      (if n ∈ before.flatMap Field.names ++ same then [(.duplicateFieldName, some e.name, some n, none)]
      else []) isUnlinkedKeyMessage := by
  rw [Findings.reports_iff]
  by_cases h : n ∈ before.flatMap Field.names ++ same <;>
    simp [nameCheck, h, duplicateField, Issue.summary, Issue.place]

theorem nameStructure_reports (earlier : List String) :
    (nameStructure e earlier).Reports
      (if e.name ∈ earlier then [(.duplicateEntityName, some e.name, none, none)] else [])
      isUnlinkedKeyMessage := by
  rw [Findings.reports_iff]
  by_cases h : e.name ∈ earlier <;> simp [nameStructure, h, Issue.summary, Issue.place]

theorem keyStructure_reports :
    (keyStructure e).Reports
      (if e.keyFields.isEmpty then [(.missingPrimaryKey, some e.name, none, none)] else [])
      isUnlinkedKeyMessage := by
  rw [Findings.reports_iff]
  by_cases h : e.keyFields.isEmpty <;> simp [keyStructure, h, Issue.summary, Issue.place]

theorem fieldStructure_kinds (before : List Field) (f : Field) :
    (fieldStructure e before f).KindsIn [.duplicateFieldName, .invalidFieldPrefix] :=
  Findings.kindsIn_append.mpr
    ⟨Findings.kindsIn_withEarlier fun same n =>
      (nameCheck_reports e before same n).kindsIn (by split <;> simp),
      (sigilFindings_reports e f).kindsIn (by split <;> simp)⟩

theorem entityStructure_kinds (earlier : List String) :
    (entityStructure earlier e).KindsIn
      [.duplicateEntityName, .duplicateFieldName, .invalidFieldPrefix, .missingPrimaryKey] := by
  rw [entityStructure_eq]
  refine Findings.kindsIn_append.mpr ⟨Findings.kindsIn_append.mpr
    ⟨(nameStructure_reports e earlier).kindsIn (by split <;> simp),
      Findings.kindsIn_withEarlier fun before f => (fieldStructure_kinds e before f).mono ?_⟩,
    (keyStructure_reports e).kindsIn (by split <;> simp)⟩
  simp

theorem entityStructure_noUnlinkedKey (earlier : List String) :
    (entityStructure earlier e).NoWarning isUnlinkedKeyMessage := by
  rw [entityStructure_eq]
  exact Findings.noWarning_append.mpr ⟨Findings.noWarning_append.mpr
    ⟨(nameStructure_reports e earlier).noWarning,
      Findings.noWarning_withEarlier fun before f => Findings.noWarning_append.mpr
        ⟨Findings.noWarning_withEarlier fun same n => (nameCheck_reports e before same n).noWarning,
          (sigilFindings_reports e f).noWarning⟩⟩,
    (keyStructure_reports e).noWarning⟩

end Structure

theorem structureFindings_kinds :
    s.structureFindings.KindsIn
      [.duplicateEntityName, .duplicateFieldName, .invalidFieldPrefix, .missingPrimaryKey] :=
  Findings.kindsIn_withEarlier fun _ e => entityStructure_kinds e _

theorem structureFindings_noUnlinkedKey : s.structureFindings.NoWarning isUnlinkedKeyMessage :=
  Findings.noWarning_withEarlier fun _ e => entityStructure_noUnlinkedKey e _

section Types

variable (e : Entity) (f : Field) (place : String)

theorem parametricFindings_single {name : String} (params : List String)
    (hS : name ∈ ["String", "VarChar", "Char"]) :
    (parametricFindings e f name params place).Reports
      (if BreaksShape name params then [(.invalidDataType, typePlace e f name params)] else [])
      isUnlinkedKeyMessage := by
  have hS' : name = "String" ∨ name = "VarChar" ∨ name = "Char" := by simpa using hS
  have hB : BreaksShape name params ↔
      ¬(params.length = 1 ∧ ∀ p ∈ params, (Text.readInt? p).isSome) := by
    rcases hS' with rfl | rfl | rfl <;> simp [BreaksShape]
  have hcS : ["String", "VarChar", "Char"].contains name = true := by simpa using hS
  have hk : ["String", "VarChar", "Char", "Decimal", "Numeric", "Enum"].contains name = true := by
    rcases hS' with rfl | rfl | rfl <;> rfl
  simp only [parametricFindings, hcS, hk, if_true, Bool.not_true, Bool.false_eq_true, if_false]
  rw [if_congr hB rfl rfl, Findings.reports_iff]
  rcases params with _ | ⟨p, _ | ⟨q, rest⟩⟩
  · simp [typePlace, Issue.summary, Issue.place, DataType.render]
  · by_cases hp : (Text.readInt? p).isSome
    · simp [isWholeNumber, hp]
    · simp [isWholeNumber, hp, typePlace, Issue.summary, Issue.place, DataType.render]
  · simp [typePlace, Issue.summary, Issue.place, DataType.render]

theorem parametricFindings_pair {name : String} (params : List String)
    (hD : name ∈ ["Decimal", "Numeric"]) :
    (parametricFindings e f name params place).Reports
      (if BreaksShape name params then [(.invalidDataType, typePlace e f name params)] else [])
      isUnlinkedKeyMessage := by
  have hD' : name = "Decimal" ∨ name = "Numeric" := by simpa using hD
  have hB : BreaksShape name params ↔
      ¬(params.length = 2 ∧ ∀ p ∈ params, (Text.readInt? p).isSome) := by
    rcases hD' with rfl | rfl <;> simp [BreaksShape]
  have hcS : ["String", "VarChar", "Char"].contains name = false := by
    rcases hD' with rfl | rfl <;> rfl
  have hcD : ["Decimal", "Numeric"].contains name = true := by simpa using hD
  have hk : ["String", "VarChar", "Char", "Decimal", "Numeric", "Enum"].contains name = true := by
    rcases hD' with rfl | rfl <;> rfl
  have hw : (params.length == 2 && params.all isWholeNumber) =
      decide (params.length = 2 ∧ ∀ p ∈ params, (Text.readInt? p).isSome) :=
    Bool.eq_iff_iff.mpr (by simp [isWholeNumber, List.all_eq_true])
  simp only [parametricFindings, hcS, hcD, hk, if_true, Bool.not_true, Bool.false_eq_true, if_false]
  rw [if_congr hB rfl rfl, hw]
  by_cases hwhole : params.length = 2 ∧ ∀ p ∈ params, (Text.readInt? p).isSome
  · rw [if_pos (decide_eq_true hwhole), if_neg (not_not_intro hwhole)]
    exact Findings.reports_none
  · rw [if_neg (mt of_decide_eq_true hwhole), if_pos hwhole]
    exact (Findings.reports_error _).of_eq (by simp [typePlace, Issue.summary, Issue.place, DataType.render])

theorem parametricFindings_enum (params : List String) :
    (parametricFindings e f "Enum" params place).Reports
      (if BreaksShape "Enum" params then [(.invalidDataType, typePlace e f "Enum" params)] else [])
      isUnlinkedKeyMessage := by
  have hB : BreaksShape "Enum" params ↔ ∀ p ∈ params, p = "" := by simp [BreaksShape]
  have hvalue : params.any (!·.isEmpty) = !decide (∀ p ∈ params, p = "") :=
    Bool.eq_iff_iff.mpr (by simp [List.any_eq_true])
  simp only [parametricFindings]
  rw [if_congr hB rfl rfl, hvalue]
  by_cases hv : ∀ p ∈ params, p = ""
  · rw [decide_eq_true hv, if_pos hv]
    exact (Findings.reports_error _).of_eq (by simp [typePlace, Issue.summary, Issue.place, DataType.render])
  · rw [decide_eq_false hv, if_neg hv]
    exact Findings.reports_none

theorem parametricFindings_unshaped {name : String} (params : List String)
    (hS : name ∉ ["String", "VarChar", "Char"]) (hD : name ∉ ["Decimal", "Numeric"])
    (hE : name ≠ "Enum") :
    (parametricFindings e f name params place).Reports [] isUnlinkedKeyMessage := by
  have hk : ["String", "VarChar", "Char", "Decimal", "Numeric", "Enum"].contains name = false := by
    simp only [List.mem_cons, List.not_mem_nil, or_false, not_or] at hS hD
    simp [hS, hD, hE]
  simp only [parametricFindings, hk, Bool.not_false, ↓reduceIte]
  simp [String.append_assoc, isUnlinkedKeyMessage_append]

theorem parametricFindings_reports (name : String) (params : List String) :
    (parametricFindings e f name params place).Reports
      (if BreaksShape name params then [(.invalidDataType, typePlace e f name params)] else [])
      isUnlinkedKeyMessage := by
  by_cases hS : name ∈ ["String", "VarChar", "Char"]
  · exact parametricFindings_single e f place params hS
  by_cases hD : name ∈ ["Decimal", "Numeric"]
  · exact parametricFindings_pair e f place params hD
  by_cases hE : name = "Enum"
  · subst hE
    exact parametricFindings_enum e f place params
  · have hb : ¬BreaksShape name params := by simp [BreaksShape, hS, hD, hE]
    rw [if_neg hb]
    exact parametricFindings_unshaped e f place params hS hD hE

theorem multiplicityFindings_reports (entity : String) (m : Multiplicity) :
    (multiplicityFindings e f entity m).Reports
      (List.replicate m.brokenRules (.invalidCardinality, boundsPlace e f m)) isUnlinkedKeyMessage := by
  rw [Findings.reports_iff]
  unfold multiplicityFindings Multiplicity.brokenRules
  cases hmax : m.max with
  | none =>
    by_cases hmin : m.min < 0 <;> simp [hmin, boundsPlace, Issue.summary, Issue.place]
  | some most =>
    by_cases hmin : m.min < 0 <;> by_cases hlt : most < m.min <;>
      simp [hmin, hlt, boundsPlace, Issue.summary, Issue.place, List.replicate]

@[simp] theorem nodeSummaries_simple (name : String) : s.nodeSummaries e f (.simple name) = [] := rfl

@[simp] theorem nodeSummaries_parametric (name : String) (params : List String) :
    s.nodeSummaries e f (.parametric name params) =
      if BreaksShape name params then [(.invalidDataType, typePlace e f name params)] else [] := by
  by_cases h : BreaksShape name params <;>
    simp [nodeSummaries, h, DataType.node, TypeNode.parametric?, TypeNode.entity?,
      TypeNode.collection?]

@[simp] theorem nodeSummaries_array (inner : DataType) : s.nodeSummaries e f (.array inner) = [] :=
  rfl

@[simp] theorem nodeSummaries_json (props : List (String × DataType)) :
    s.nodeSummaries e f (.json props) = [] := rfl

@[simp] theorem nodeSummaries_collection (entity : String) (m : Multiplicity) :
    s.nodeSummaries e f (.collection entity m) =
      (if s.hasEntity entity then []
        else [(.missingRequiredEntity, some e.name, some f.displayName, some entity)]) ++
      List.replicate m.brokenRules (.invalidCardinality, boundsPlace e f m) := by
  cases h : s.hasEntity entity <;>
    simp [nodeSummaries, h, DataType.node, TypeNode.parametric?, TypeNode.entity?,
      TypeNode.collection?]

@[simp] theorem nodeSummaries_embedded (entity : String) :
    s.nodeSummaries e f (.embedded entity) =
      if s.hasEntity entity then []
      else [(.missingRequiredEntity, some e.name, some f.displayName, some entity)] := by
  cases h : s.hasEntity entity <;>
    simp [nodeSummaries, h, DataType.node, TypeNode.parametric?, TypeNode.entity?,
      TypeNode.collection?]

mutual
/-- The type pass reports what each node of the type reports by itself, in pre-order. -/
theorem typeFindings_reports :
    ∀ t : DataType, (s.typeFindings e f place t).Reports (t.nodes.flatMap (s.nodeSummaries e f))
      isUnlinkedKeyMessage
  | .simple name => by
    simp only [typeFindings]
    split
    · simp [DataType.nodes]
    · split <;> simp [String.append_assoc, isUnlinkedKeyMessage_append, DataType.nodes]
  | .parametric name params =>
    (parametricFindings_reports e f place name params).of_eq (by simp [DataType.nodes])
  | .array inner => (typeFindings_reports inner).of_eq (by simp [DataType.nodes])
  | .json props => (propertyFindings_reports [] props).of_eq (by simp [DataType.nodes])
  | .collection entity m =>
    ((Findings.reports_ite _ (fun _ => Findings.reports_none) (fun _ => Findings.reports_error _)).append
      (multiplicityFindings_reports e f entity m)).of_eq (by
        cases h : s.hasEntity entity <;> simp [h, DataType.nodes, Issue.summary, Issue.place])
  | .embedded entity =>
    (Findings.reports_ite _ (fun _ => Findings.reports_none) (fun _ => Findings.reports_error _)).of_eq (by
      cases h : s.hasEntity entity <;> simp [h, DataType.nodes, Issue.summary, Issue.place])

theorem propertyFindings_reports : ∀ (seen : List String) (props : List (String × DataType)),
    (s.propertyFindings e f place seen props).Reports
      ((DataType.propertyNodes props).flatMap (s.nodeSummaries e f)) isUnlinkedKeyMessage
  | _, [] => by simp [propertyFindings, DataType.propertyNodes]
  | seen, (name, t) :: rest => by
    have hdup : (if seen.contains name then
        Findings.warn ("Duplicate JSON property '" ++ name ++ "' in " ++ place)
      else Findings.none).Reports [] isUnlinkedKeyMessage := by
      split <;> simp [String.append_assoc, isUnlinkedKeyMessage_append]
    exact ((hdup.append (typeFindings_reports t)).append
      (propertyFindings_reports (seen ++ [name]) rest)).of_eq (by simp [DataType.propertyNodes])
end

theorem foreignKeyFindings_reports (c : Constraint) :
    (s.foreignKeyFindings e f c).Reports (s.keySummaries e f c) isUnlinkedKeyMessage := by
  rw [Findings.reports_iff]
  unfold foreignKeyFindings keySummaries
  cases hv : c.value with
  | none => simp [Issue.summary, Issue.place]
  | some v =>
    cases hq : qualifiedName? (Text.trim v) with
    | none => simp [hq, Option.filter, Issue.summary, Issue.place]
    | some q =>
      obtain ⟨entity, field⟩ := q
      cases ht : s.entity? entity with
      | none => simp [hq, ht, Option.filter, missingEntity, Issue.summary, Issue.place]
      | some target =>
        by_cases hf : field ∈ target.fieldNames
        · simp [hq, ht, hf, Option.filter]
        · simp [hq, ht, hf, Option.filter]
          exact isUnlinkedKeyMessage_of_closing (suffix_toList_append _ "'") (by decide)

theorem constraintFindings_reports (c : Constraint) :
    (s.constraintFindings e f c).Reports (s.constraintSummaries e f c) isUnlinkedKeyMessage := by
  unfold constraintFindings
  split
  next _ hpk =>
    rw [Findings.reports_iff]
    split <;> simp [constraintSummaries, hpk, String.append_assoc, isUnlinkedKeyMessage_append]
  next _ hfk =>
    exact (s.foreignKeyFindings_reports e f c).of_eq (by simp [constraintSummaries, hfk])
  next _ hdef =>
    rw [Findings.reports_iff]
    cases hv : c.value <;> simp [constraintSummaries, hdef, hv, Issue.summary, Issue.place]
  next _ henum =>
    rw [Findings.reports_iff]
    cases hv : c.value <;> simp [constraintSummaries, henum, hv, Issue.summary, Issue.place]
  next _ hpk hfk hdef henum =>
    rw [Findings.reports_iff]
    simp only [imp_false] at hpk hfk hdef henum
    split <;> simp [constraintSummaries, hfk, hdef, henum, String.append_assoc,
      isUnlinkedKeyMessage_append]

end Types

theorem typeCheckFindings_reports :
    s.typeCheckFindings.Reports
      (s.document.entities.flatMap fun e => e.fields.flatMap fun f =>
        f.type.nodes.flatMap (s.nodeSummaries e f)) isUnlinkedKeyMessage :=
  Findings.reports_concatMap fun e _ => Findings.reports_concatMap fun f _ =>
    s.typeFindings_reports e f _ f.type

theorem constraintCheckFindings_reports :
    s.constraintCheckFindings.Reports
      (s.document.entities.flatMap fun e => e.fields.flatMap fun f =>
        f.constraints.flatMap (s.constraintSummaries e f)) isUnlinkedKeyMessage := by
  refine Findings.reports_concatMap fun e _ => Findings.reports_concatMap fun f _ =>
    Findings.reports_withEarlier fun before c => ?_
  have hdup : (if (before.map Constraint.key).contains c.key then
      Findings.warn ("Duplicate constraint '" ++ c.name ++ "' for field '" ++ f.displayName ++
        "' in entity '" ++ e.name ++ "'")
    else Findings.none).Reports [] isUnlinkedKeyMessage := by
    split <;> simp [String.append_assoc, isUnlinkedKeyMessage_append]
  exact hdup.append (s.constraintFindings_reports e f c)

/-- The kinds the type pass reports. -/
def typeKinds : List IssueKind := [.invalidDataType, .invalidCardinality, .missingRequiredEntity]

theorem relationshipFindings_kinds :
    s.relationshipFindings.KindsIn [.missingRequiredEntity, .circularReference] := by
  refine s.relationshipFindings_reports.kindsIn fun x hx => ?_
  obtain ⟨cs, _, hcs, -⟩ := Inheritance.cycles_inv s.document.relationshipList
  rw [hcs] at hx
  simp only [List.mem_append, List.mem_flatMap, List.mem_map] at hx
  rcases hx with ⟨r, -, n, -, rfl⟩ | ⟨i, ⟨c, -, rfl⟩, rfl⟩
  · simp
  · simp [Inheritance.report, Issue.summary]

theorem typeCheckFindings_kinds : s.typeCheckFindings.KindsIn typeKinds := by
  refine s.typeCheckFindings_reports.kindsIn fun x hx => ?_
  simp only [List.mem_flatMap, nodeSummaries, List.mem_append, List.mem_map,
    List.mem_replicate] at hx
  obtain ⟨e, -, f, -, u, -, hx⟩ := hx
  rcases hx with (⟨q, -, rfl⟩ | ⟨n, -, rfl⟩) | ⟨c, -, -, rfl⟩ <;> simp [typeKinds]

theorem constraintCheckFindings_kinds :
    s.constraintCheckFindings.KindsIn
      [.invalidConstraint, .invalidForeignKey, .missingRequiredEntity] := by
  refine s.constraintCheckFindings_reports.kindsIn fun x hx => ?_
  simp only [List.mem_flatMap] at hx
  obtain ⟨e, -, f, -, c, -, hx⟩ := hx
  simp [constraintSummaries, keySummaries] at hx
  rcases hx with ⟨-, ⟨-, rfl⟩ | ⟨a, -, rfl⟩ | ⟨a, -, rfl⟩⟩ | ⟨-, rfl⟩ <;> simp

end Scope

namespace Document

variable (d : Document) (r : Rules)

/-- The errors of validation are those of the relationship, structure, type and constraint passes,
in that order: the header, complexity and cross-reference passes only give advice. -/
theorem validate_ofKind (k : IssueKind) :
    (d.validate r).ofKind k =
      (Scope.ofDocument d).relationshipFindings.ofKind k ++
        (Scope.ofDocument d).structureFindings.ofKind k ++
        (Scope.ofDocument d).typeCheckFindings.ofKind k ++
        (Scope.ofDocument d).constraintCheckFindings.ofKind k := by
  simp only [validate, Findings.ofKind_append,
    Findings.ofKind_eq_nil_of_errors (Scope.headerFindings_reports _).errors_eq_nil,
    Findings.ofKind_eq_nil_of_errors (Scope.complexityFindings_reports _ r).errors_eq_nil,
    Findings.ofKind_eq_nil_of_errors (Scope.crossReferenceFindings_errors _),
    List.nil_append, List.append_nil]

/-- The errors of a kind that only the type pass reports are the type pass's. -/
theorem validate_ofKind_typeCheck {k : IssueKind}
    (hk : k = .invalidDataType ∨ k = .invalidCardinality) :
    (d.validate r).ofKind k = (Scope.ofDocument d).typeCheckFindings.ofKind k := by
  have hrel : k ∉ [IssueKind.missingRequiredEntity, .circularReference] := by
    rcases hk with rfl | rfl <;> simp
  have hstruct : k ∉ [IssueKind.duplicateEntityName, .duplicateFieldName, .invalidFieldPrefix,
      .missingPrimaryKey] := by
    rcases hk with rfl | rfl <;> simp
  have hcons : k ∉ [IssueKind.invalidConstraint, .invalidForeignKey, .missingRequiredEntity] := by
    rcases hk with rfl | rfl <;> simp
  rw [validate_ofKind, Findings.ofKind_eq_nil_of_kindsIn (Scope.relationshipFindings_kinds _) hrel,
    Findings.ofKind_eq_nil_of_kindsIn (Scope.structureFindings_kinds _) hstruct,
    Findings.ofKind_eq_nil_of_kindsIn (Scope.constraintCheckFindings_kinds _) hcons,
    List.nil_append, List.nil_append, List.append_nil]

/-- The errors of a kind that only the structure pass reports are the structure pass's. -/
theorem validate_ofKind_structure {k : IssueKind}
    (hk : k ∈ [IssueKind.duplicateEntityName, .duplicateFieldName, .invalidFieldPrefix,
      .missingPrimaryKey]) :
    (d.validate r).ofKind k = (Scope.ofDocument d).structureFindings.ofKind k := by
  simp only [List.mem_cons, List.not_mem_nil, or_false] at hk
  have hrel : k ∉ [IssueKind.missingRequiredEntity, .circularReference] := by
    rcases hk with rfl | rfl | rfl | rfl <;> simp
  have htype : k ∉ Scope.typeKinds := by
    rcases hk with rfl | rfl | rfl | rfl <;> simp [Scope.typeKinds]
  have hcons : k ∉ [IssueKind.invalidConstraint, .invalidForeignKey, .missingRequiredEntity] := by
    rcases hk with rfl | rfl | rfl | rfl <;> simp
  rw [validate_ofKind, Findings.ofKind_eq_nil_of_kindsIn (Scope.relationshipFindings_kinds _) hrel,
    Findings.ofKind_eq_nil_of_kindsIn (Scope.typeCheckFindings_kinds _) htype,
    Findings.ofKind_eq_nil_of_kindsIn (Scope.constraintCheckFindings_kinds _) hcons,
    List.nil_append, List.append_nil, List.append_nil]

end Document

end SchemaNotation
