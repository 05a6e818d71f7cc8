import SchemaNotation.Check.Issue

/-! Checks of the declared relationships.

Every entity a relationship names, the junction included, must exist; each missing name is
reported once per relationship. A nature that does not suit the cardinality draws a warning, and
so does a many-to-many relationship without a junction. Inheritance must not run in a cycle: a
depth-first search over the inheritance edges, from each source in the order sources first
appear, reports every edge that leads back to an entity on the current path, with the cycle
that edge closes. -/

namespace SchemaNotation

/-- The natures that suit a cardinality. -/
def Cardinality.suitableNatures : Cardinality → List Nature
  | .oneToOne | .oneToMany => [.composition, .aggregation, .association, .dependency]
  | .manyToMany => [.association, .aggregation]
  | .inheritance => [.inheritance]
  | .composition => [.composition]
  | .aggregation => [.aggregation]

namespace Inheritance

/-- The graph with the edge of a relationship added: its target goes last among the targets of
its source, and a new source goes last among the sources. -/
def addEdge (g : List (String × List String)) (r : Relationship) : List (String × List String) :=
  if g.any (·.1 == r.source) then
    g.map fun (s, ts) => if s == r.source then (s, ts ++ [r.target]) else (s, ts)
  else g ++ [(r.source, [r.target])]

/-- The inheritance graph: each source with its targets, sources in order of first appearance. -/
def graph (rs : List Relationship) : List (String × List String) :=
  (rs.filter (·.cardinality == .inheritance)).foldl addEdge []

/-- The targets of an entity in the graph. -/
def targets (g : List (String × List String)) (name : String) : List String :=
  (g.lookup name).getD []

/-- An entity on the search path, with the targets still to follow from it. -/
structure Frame where
  node : String
  pending : List String

/-- The cycle closed by an edge back to `back`, given the path from the root. -/
def cycleText (path : List String) (back : String) : String :=
  " -> ".intercalate (path.dropWhile (· != back) ++ [back])

/-- The error for an edge that closes a cycle. -/
def cycleIssue (path : List String) (back : String) : Issue :=
  { kind := .circularReference,
    detail := "Inheritance cycle detected involving " ++ back ++ ": " ++ cycleText path back,
    entity := some back }

theorem nodup_eraseDups : (l : List String) → l.eraseDups.Nodup
  | [] => List.nodup_nil
  | a :: l => by
    rw [List.eraseDups_cons]
    have : (l.filter fun b => !b == a).length < l.length + 1 :=
      Nat.lt_add_one_of_le (List.length_filter_le _ l)
    refine List.nodup_cons.mpr ⟨?_, nodup_eraseDups _⟩
    simp [List.mem_eraseDups]
termination_by l => l.length

theorem targets_subset (g : List (String × List String)) (n : String) :
    targets g n ⊆ g.flatMap Prod.snd := by
  intro x hx
  induction g with
  | nil => simp [targets] at hx
  | cons p g ih =>
    obtain ⟨s, ts⟩ := p
    simp only [targets, List.lookup_cons] at hx ih
    simp only [List.flatMap_cons, List.mem_append]
    by_cases h : (n == s) = true
    · simp [h] at hx; exact .inl hx
    · simp [h] at hx; exact .inr (ih hx)

/-- The entities the search may still enter: targets of the graph or of a pending edge that are
not reached yet, each counted once. -/
def unreached (g : List (String × List String)) (frames : List Frame) (visited : List String) :
    List String :=
  (g.flatMap Prod.snd ++ frames.flatMap Frame.pending).eraseDups.filter (!visited.contains ·)

/-- The edges still to follow and the entities still to leave. -/
def work : List Frame → Nat
  | [] => 0
  | fr :: frames => fr.pending.length + 1 + work frames

theorem unreached_length_le {g : List (String × List String)} {frames frames' : List Frame}
    {visited : List String}
    (h : frames'.flatMap Frame.pending ⊆ g.flatMap Prod.snd ++ frames.flatMap Frame.pending) :
    (unreached g frames' visited).length ≤ (unreached g frames visited).length := by
  apply List.Nodup.length_le_of_subset ((nodup_eraseDups _).filter _)
  intro x hx
  simp only [unreached, List.mem_filter, List.mem_eraseDups, List.mem_append] at hx ⊢
  refine ⟨?_, hx.2⟩
  rcases hx.1 with hx1 | hx1
  · exact .inl hx1
  · simpa using h hx1

/-- Entering a pending target that was not reached leaves one entity fewer to enter. -/
theorem unreached_length_lt {g : List (String × List String)} {frames frames' : List Frame}
    {visited : List String} {n : String}
    (h : frames'.flatMap Frame.pending ⊆ g.flatMap Prod.snd ++ frames.flatMap Frame.pending)
    (hn : n ∈ frames.flatMap Frame.pending) (hv : ¬visited.contains n = true) :
    (unreached g frames' (visited ++ [n])).length < (unreached g frames visited).length := by
  have hnd : (unreached g frames visited).Nodup := (nodup_eraseDups _).filter _
  have hmem : n ∈ unreached g frames visited := by
    have : n ∉ visited := by simpa using hv
    simp [unreached, List.mem_eraseDups, hn, this]
  have hsub : unreached g frames' (visited ++ [n]) ⊆ (unreached g frames visited).erase n := by
    intro x hx
    rw [hnd.mem_erase_iff]
    simp only [unreached, List.mem_filter, List.mem_eraseDups, List.mem_append,
      List.contains_append, Bool.not_or, Bool.and_eq_true] at hx ⊢
    refine ⟨?_, ?_, hx.2.1⟩
    · rintro rfl; simp at hx
    · rcases hx.1 with hx1 | hx1
      · exact .inl hx1
      · simpa using h hx1
  have hnd' : (unreached g frames' (visited ++ [n])).Nodup := (nodup_eraseDups _).filter _
  have hle := hnd'.length_le_of_subset hsub
  rw [List.length_erase_of_mem hmem] at hle
  have hpos := List.length_pos_of_mem hmem
  omega

theorem lex_of_le_of_lt {a a' b b' : Nat} (ha : a' ≤ a) (hb : b' < b) :
    Prod.Lex (· < ·) (· < ·) (a', b') (a, b) := by
  rcases Nat.lt_or_eq_of_le ha with h | rfl
  · exact .left _ _ h
  · exact .right _ hb

theorem work_cons (fr : Frame) (frames : List Frame) :
    work (fr :: frames) = fr.pending.length + 1 + work frames := rfl

/-- The depth-first search from the stack `frames`, the path with its last entity first, where
`visited` holds the entities reached so far. Returns the entities reached and the errors found,
in order. Each step enters an entity not reached before, or follows an edge or leaves an entity
without entering one, so the search ends. -/
def search (g : List (String × List String)) :
    List Frame → List String → List Issue → List String × List Issue
  | [], visited, found => (visited, found)
  | ⟨_, []⟩ :: frames, visited, found => search g frames visited found
  | ⟨node, n :: more⟩ :: frames, visited, found =>
    let frames := ⟨node, more⟩ :: frames
    let path := (frames.map Frame.node).reverse
    if path.contains n then search g frames visited (found ++ [cycleIssue path n])
    else if visited.contains n then search g frames visited found
    else search g (⟨n, targets g n⟩ :: frames) (visited ++ [n]) found
termination_by frames visited => ((unreached g frames visited).length, work frames)
decreasing_by
  · refine lex_of_le_of_lt (unreached_length_le ?_) (by simp [work_cons])
    intro x hx; simp [hx]
  · refine lex_of_le_of_lt (unreached_length_le ?_) (by simp [work_cons])
    intro x hx; simp at hx ⊢; grind
  · refine lex_of_le_of_lt (unreached_length_le ?_) (by simp [work_cons])
    intro x hx; simp at hx ⊢; grind
  · refine .left _ _ (unreached_length_lt ?_ (by simp) ‹_›)
    intro x hx
    simp only [List.flatMap_cons, List.mem_append] at hx ⊢
    rcases hx with hx | hx | hx
    · exact .inl (targets_subset g n hx)
    · simp [hx]
    · simp [hx]

/-- The search from a source, unless an earlier search reached it; `acc` holds the entities
reached and the errors found so far. -/
def searchFrom (g : List (String × List String)) (acc : List String × List Issue) (root : String) :
    List String × List Issue :=
  if acc.1.contains root then acc
  else search g [⟨root, targets g root⟩] (acc.1 ++ [root]) acc.2

/-- The cycle errors of the inheritance edges among the relationships. -/
def cycles (rs : List Relationship) : List Issue :=
  let g := graph rs
  ((g.map Prod.fst).foldl (searchFrom g) ([], [])).2

end Inheritance

/-- The findings of the relationship checks. -/
def Scope.relationshipFindings (s : Scope) : Findings :=
  match s.document.relationships with
  | none => .warn "No relationship definitions found"
  | some rs =>
    Findings.concatMap rs (fun r =>
      let label := r.label
      let named := [r.source, r.target] ++ (match r.via with
        | some v => if v.isEmpty then [] else [v]
        | none => [])
      let missing := named.foldl
        (fun acc n => if s.hasEntity n || acc.contains n then acc else acc ++ [n]) []
      Findings.concatMap missing
        (fun n => Scope.missingEntity n ("relationship " ++ label) none none) ++
      (match r.nature with
        | some n =>
          if r.cardinality.suitableNatures.contains n then .none
          else .warn ("Relationship " ++ label ++ " has unusual nature '" ++ n.token ++ "'")
        | none => .none) ++
      (if r.cardinality == .manyToMany && r.via.isNone then
        .warn ("Many-to-many relationship without via entity: " ++ r.source ++ " -> " ++ r.target)
      else .none)) ++
    { errors := Inheritance.cycles rs }

end SchemaNotation
