import Mathlib.Data.List.Chain
import Mathlib.Data.List.Rotate
import Mathlib.Logic.Relation
import SchemaNotation.Check.Relationships

/-! Inheritance cycles.

The depth-first search of `Inheritance.cycles` reports exactly the cycles of the inheritance
edges. It reports an error if and only if the edges run in a cycle; every error names a simple
cycle, each entity joined to the next by an edge and none met twice before the walk returns; and
when no edge is declared twice, no cycle is reported twice, not even from another of its
entities. The search ends on every input: `search` is defined by well-founded recursion.

The proof follows the search one step at a time with the invariant `Inv`: the path is a chain of
edges through entities reached once each, every pending list is what is left of the targets of
its entity, and every error found closes a simple cycle of entities reached. While no error is
found, the entities the search has left are closed under edges and lie on no cycle: that is the
classical argument that a search without back edges certifies a graph without cycles. -/

namespace SchemaNotation.Inheritance

open scoped List

/-- `u` inherits from `v`: a relationship of cardinality inheritance runs from `u` to `v`. -/
def InheritsFrom (rs : List Relationship) (u v : String) : Prop :=
  ∃ r ∈ rs, r.cardinality = .inheritance ∧ r.source = u ∧ r.target = v

/-- The declared inheritance edges, one for each relationship. -/
def inheritanceEdges (rs : List Relationship) : List (String × String) :=
  (rs.filter (·.cardinality == .inheritance)).map fun r => (r.source, r.target)

/-- A simple cycle `v -> p₁ -> ... -> pₖ -> v`: consecutive entities are joined by edges, and no
entity is met twice before the walk returns to `v`. -/
def IsCycle (edge : String → String → Prop) (c : String × List String) : Prop :=
  (c.1 :: c.2 ++ [c.1]).IsChain edge ∧ (c.1 :: c.2).Nodup

/-- The error that reports the cycle `v -> p₁ -> ... -> pₖ -> v`. -/
def report (c : String × List String) : Issue :=
  { kind := .circularReference,
    detail := "Inheritance cycle detected involving " ++ c.1 ++ ": " ++
      " -> ".intercalate (c.1 :: c.2 ++ [c.1]),
    entity := some c.1 }

/-- An edge of a graph: `v` is among the targets of `u`. -/
def Edge (g : List (String × List String)) (u v : String) : Prop := v ∈ targets g u

section Graph

theorem beq_inheritance_iff {c : Cardinality} : (c == .inheritance) = true ↔ c = .inheritance := by
  cases c <;> decide

theorem lookup_map_of_fst {f : String × List String → String × List String}
    (hf : ∀ p, (f p).1 = p.1) (g : List (String × List String)) (u : String) :
    (g.map f).lookup u = (g.lookup u).map fun ts => (f (u, ts)).2 := by
  induction g with
  | nil => rfl
  | cons p g ih =>
    obtain ⟨s, ts⟩ := p
    have hfs : f (s, ts) = (s, (f (s, ts)).2) := Prod.ext (hf _) rfl
    by_cases hs : u = s
    · subst hs
      rw [List.map_cons, hfs, List.lookup_cons_self, List.lookup_cons_self]
      rfl
    · have hne : (u == s) = false := by simpa using hs
      rw [List.map_cons, hfs, List.lookup_cons, List.lookup_cons, hne]
      exact ih

theorem targets_addEdge (g : List (String × List String)) (r : Relationship) (u : String) :
    targets (addEdge g r) u = targets g u ++ if r.source = u then [r.target] else [] := by
  unfold addEdge targets
  split
  · rename_i hany
    rw [lookup_map_of_fst (by rintro ⟨s, ts⟩; dsimp only; split <;> rfl)]
    by_cases hu : r.source = u
    · have hsome : (g.lookup u).isSome := by
        obtain ⟨p, hp, hps⟩ := List.any_eq_true.mp hany
        exact List.lookup_isSome_iff.mpr ⟨p, hp, by simp_all⟩
      obtain ⟨ts, hts⟩ := Option.isSome_iff_exists.mp hsome
      simp [hts, hu]
    · have hne : (u == r.source) = false := beq_eq_false_iff_ne.mpr (Ne.symm hu)
      cases g.lookup u <;> simp [hu, hne]
  · rename_i hany
    rw [List.lookup_append]
    simp only [List.lookup_cons, List.lookup_nil]
    by_cases hu : r.source = u
    · have hnone : g.lookup u = none := by
        refine List.lookup_eq_none_iff.mpr fun p hp => ?_
        simp only [List.any_eq_true, beq_iff_eq, not_exists, not_and] at hany
        have hp' := hany p hp
        rw [bne_iff_ne]
        rintro rfl
        exact hp' hu.symm
      simp [hnone, hu]
    · have hne : (u == r.source) = false := beq_eq_false_iff_ne.mpr (Ne.symm hu)
      cases g.lookup u <;> simp [hu, hne]

theorem targets_foldl_addEdge (rs : List Relationship) (g : List (String × List String))
    (u : String) :
    targets (rs.foldl addEdge g) u = targets g u ++ ((rs.filter (·.source == u)).map (·.target)) := by
  induction rs generalizing g with
  | nil => simp
  | cons r rs ih =>
    rw [List.foldl_cons, ih, targets_addEdge]
    by_cases hu : r.source = u <;> simp [hu]

theorem targets_graph (rs : List Relationship) (u : String) :
    targets (graph rs) u =
      (((rs.filter (·.cardinality == .inheritance)).filter (·.source == u)).map (·.target)) := by
  rw [graph, targets_foldl_addEdge]
  simp [targets]

theorem edge_graph_iff {rs : List Relationship} {u v : String} :
    Edge (graph rs) u v ↔ InheritsFrom rs u v := by
  simp only [Edge, targets_graph, List.mem_map, List.mem_filter, beq_iff_eq, beq_inheritance_iff,
    InheritsFrom]
  constructor
  · rintro ⟨r, ⟨⟨hr, hc⟩, hs⟩, rfl⟩
    exact ⟨r, hr, hc, hs, rfl⟩
  · rintro ⟨r, hr, hc, hs, rfl⟩
    exact ⟨r, ⟨⟨hr, hc⟩, hs⟩, rfl⟩

theorem mem_sources_of_edge {g : List (String × List String)} {u v : String} (h : Edge g u v) :
    u ∈ g.map Prod.fst := by
  have hsome : (g.lookup u).isSome := by
    cases hl : g.lookup u with
    | none => simp [Edge, targets, hl] at h
    | some ts => rfl
  obtain ⟨p, hp, hu⟩ := List.lookup_isSome_iff.mp hsome
  exact List.mem_map.mpr ⟨p, hp, (beq_iff_eq.mp hu).symm⟩

theorem targets_graph_nodup {rs : List Relationship} (h : (inheritanceEdges rs).Nodup)
    (u : String) : (targets (graph rs) u).Nodup := by
  rw [targets_graph]
  set l := (rs.filter (·.cardinality == .inheritance)).filter (·.source == u)
  have hpairs : (l.map fun r => (r.source, r.target)).Nodup :=
    h.sublist (List.filter_sublist.map _)
  have hmap : l.map (·.target) = (l.map fun r => (r.source, r.target)).map Prod.snd := by
    simp
  rw [hmap]
  refine hpairs.map_on ?_
  intro x hx y hy hxy
  obtain ⟨a, ha, rfl⟩ := List.mem_map.mp hx
  obtain ⟨b, hb, rfl⟩ := List.mem_map.mp hy
  have hsa : a.source = u := by simpa [l] using (List.mem_filter.mp ha).2
  have hsb : b.source = u := by simpa [l] using (List.mem_filter.mp hb).2
  simp_all

end Graph

section Search

variable {g : List (String × List String)}

/-- The search path, from the root to the entity searched. -/
def pathOf (frames : List Frame) : List String := (frames.map Frame.node).reverse

@[simp] theorem pathOf_nil : pathOf [] = [] := rfl

@[simp] theorem pathOf_cons (fr : Frame) (frames : List Frame) :
    pathOf (fr :: frames) = pathOf frames ++ [fr.node] := by
  simp [pathOf]

/-- An entity the search has left: reached, and off the path. -/
def Finished (frames : List Frame) (visited : List String) (d : String) : Prop :=
  d ∈ visited ∧ d ∉ pathOf frames

/-- Every target of the entity of a frame is pending, or done, or the entity of the frame above
(`above`; none for the top frame). -/
def Covered (g : List (String × List String)) (done : String → Prop) :
    Option String → List Frame → Prop
  | _, [] => True
  | above, fr :: rest =>
    (∀ t ∈ targets g fr.node, t ∈ fr.pending ∨ done t ∨ above = some t) ∧
      Covered g done (some fr.node) rest

/-- The entity whose edge back to the first one closes a cycle. -/
def closing (c : String × List String) : String := (c.1 :: c.2).getLast (List.cons_ne_nil _ _)

/-- The cycle closed by an edge back to `n`, which is on the path. -/
def closedBy (path : List String) (n : String) : String × List String :=
  (n, (path.dropWhile (· != n)).tail)

/-- What holds of the search before and after every step. `cs` lists the cycles of the errors
found. The fields after `found_cycle` say that no reported edge can be reported again (when
no entity has a target twice), and that while nothing is found the finished entities are closed
under edges and lie on no cycle. -/
structure Inv (g : List (String × List String)) (frames : List Frame) (visited : List String)
    (cs : List (String × List String)) : Prop where
  nodup : visited.Nodup
  path_sublist : pathOf frames <+ visited
  path_chain : (pathOf frames).IsChain (Edge g)
  pending_suffix : ∀ fr ∈ frames, fr.pending <:+ targets g fr.node
  found_cycle : ∀ c ∈ cs, IsCycle (Edge g) c ∧ (c.1 :: c.2) <+ visited
  closing_pending : (∀ u, (targets g u).Nodup) →
    ∀ c ∈ cs, ∀ fr ∈ frames, fr.node = closing c → c.1 ∉ fr.pending
  closing_nodup : (∀ u, (targets g u).Nodup) → (cs.map fun c => (closing c, c.1)).Nodup
  finished_closed : cs = [] →
    ∀ d, Finished frames visited d → ∀ t ∈ targets g d, Finished frames visited t
  finished_acyclic : cs = [] →
    ∀ d, Finished frames visited d → ¬Relation.TransGen (Edge g) d d
  covered : cs = [] → Covered g (Finished frames visited) none frames

theorem Covered.mono {done done' : String → Prop} (h : ∀ t, done t → done' t) :
    ∀ {above : Option String} {frames : List Frame},
      Covered g done above frames → Covered g done' above frames
  | _, [], _ => trivial
  | _, _ :: _, ⟨htop, hrest⟩ =>
    ⟨fun t ht => (htop t ht).imp_right (Or.imp_left (h t)), Covered.mono h hrest⟩

theorem Covered.release {done done' : String → Prop} {u : String} {rest : List Frame}
    (hc : Covered g done (some u) rest) (h : ∀ t, done t → done' t) (hu : done' u) :
    Covered g done' none rest := by
  cases rest with
  | nil => trivial
  | cons fr rest =>
    obtain ⟨htop, hrest⟩ := hc
    refine ⟨fun t ht => ?_, hrest.mono h⟩
    rcases htop t ht with hp | hd | hab
    · exact .inl hp
    · exact .inr (.inl (h t hd))
    · cases hab; exact .inr (.inl hu)

theorem finished_of_reach {frames : List Frame} {visited : List String}
    (hclosed : ∀ d, Finished frames visited d → ∀ t ∈ targets g d, Finished frames visited t)
    {d x : String} (hd : Finished frames visited d) (hx : Relation.ReflTransGen (Edge g) d x) :
    Finished frames visited x := by
  induction hx with
  | refl => exact hd
  | tail _ hyz ih => exact hclosed _ ih _ hyz

theorem dropWhile_bne_of_mem {path : List String} {n : String} (h : n ∈ path) :
    path.dropWhile (· != n) = n :: (path.dropWhile (· != n)).tail := by
  induction path with
  | nil => simp at h
  | cons x path ih =>
    by_cases hx : x = n
    · subst hx; simp
    · have hne : (x != n) = true := bne_iff_ne.mpr hx
      simp only [List.dropWhile_cons, hne, if_true]
      exact ih (by simpa [Ne.symm hx] using h)

theorem cycleIssue_eq_report {path : List String} {n : String} (h : n ∈ path) :
    cycleIssue path n = report (closedBy path n) := by
  simp only [cycleIssue, cycleText, report, closedBy]
  rw [dropWhile_bne_of_mem h]
  rfl

namespace Inv

variable {frames : List Frame} {visited : List String} {cs : List (String × List String)}

theorem path_nodup (I : Inv g frames visited cs) : (pathOf frames).Nodup :=
  I.nodup.sublist I.path_sublist

theorem closing_mem_visited (I : Inv g frames visited cs) {c : String × List String}
    (hc : c ∈ cs) : closing c ∈ visited :=
  (I.found_cycle c hc).2.subset (List.getLast_mem _)

theorem pop {fr : Frame} {rest : List Frame} (I : Inv g (fr :: rest) visited cs)
    (hp : fr.pending = []) : Inv g rest visited cs := by
  have hpath := pathOf_cons fr rest
  have hoff : fr.node ∉ pathOf rest := by
    have hnd := I.path_nodup
    rw [hpath, List.nodup_append] at hnd
    exact fun h => hnd.2.2 _ h _ (List.mem_singleton_self _) rfl
  have hvis : fr.node ∈ visited := I.path_sublist.subset (by simp)
  have hfin : ∀ d, Finished rest visited d ↔ Finished (fr :: rest) visited d ∨ d = fr.node := by
    intro d
    simp only [Finished, pathOf_cons, List.mem_append, List.mem_singleton, not_or]
    constructor
    · rintro ⟨hv, hr⟩
      by_cases hd : d = fr.node
      · exact .inr hd
      · exact .inl ⟨hv, hr, hd⟩
    · rintro (⟨hv, hr, -⟩ | rfl)
      · exact ⟨hv, hr⟩
      · exact ⟨hvis, hoff⟩
  have hdone : cs = [] → ∀ t ∈ targets g fr.node, Finished (fr :: rest) visited t := by
    intro h0 t ht
    rcases (I.covered h0).1 t ht with h | h | h
    · simp [hp] at h
    · exact h
    · cases h
  refine ⟨I.nodup, (List.sublist_append_left _ _).trans (hpath ▸ I.path_sublist),
    (hpath ▸ I.path_chain).left_of_append,
    fun f hf => I.pending_suffix f (List.mem_cons_of_mem _ hf), I.found_cycle,
    fun hd c hc f hf => I.closing_pending hd c hc f (List.mem_cons_of_mem _ hf),
    I.closing_nodup, ?_, ?_, ?_⟩
  · intro h0 d hd t ht
    rcases (hfin d).1 hd with hd | rfl
    · exact (hfin t).2 (.inl (I.finished_closed h0 d hd t ht))
    · exact (hfin t).2 (.inl (hdone h0 t ht))
  · intro h0 d hd hcyc
    rcases (hfin d).1 hd with hd | rfl
    · exact I.finished_acyclic h0 d hd hcyc
    · -- a cycle through the entity left would leave it through a finished target
      obtain ⟨t, ht, hreach⟩ := Relation.TransGen.head'_iff.mp hcyc
      exact (finished_of_reach (I.finished_closed h0) (hdone h0 t ht) hreach).2 (by simp)
  · intro h0
    exact (I.covered h0).2.release (fun t h => (hfin t).2 (.inl h)) ((hfin _).2 (.inr rfl))

theorem pending_suffix_follow {fr : Frame} {rest : List Frame} {n : String}
    {more : List String} (I : Inv g (fr :: rest) visited cs) (hp : fr.pending = n :: more) :
    ∀ f ∈ (⟨fr.node, more⟩ :: rest : List Frame), f.pending <:+ targets g f.node := by
  intro f hf
  rcases List.mem_cons.mp hf with rfl | hf
  · exact (List.suffix_cons n more).trans (hp ▸ I.pending_suffix fr List.mem_cons_self)
  · exact I.pending_suffix f (List.mem_cons_of_mem _ hf)

theorem closing_pending_follow {fr : Frame} {rest : List Frame} {n : String}
    {more : List String} (I : Inv g (fr :: rest) visited cs) (hp : fr.pending = n :: more)
    (hd : ∀ u, (targets g u).Nodup) :
    ∀ c ∈ cs, ∀ f ∈ (⟨fr.node, more⟩ :: rest : List Frame), f.node = closing c → c.1 ∉ f.pending := by
  intro c hc f hf hfc
  rcases List.mem_cons.mp hf with rfl | hf
  · have h := I.closing_pending hd c hc fr List.mem_cons_self hfc
    rw [hp] at h
    exact fun hm => h (List.mem_cons_of_mem _ hm)
  · exact I.closing_pending hd c hc f (List.mem_cons_of_mem _ hf) hfc

theorem isCycle_closedBy {path : List String} {u n : String}
    (hchain : (path ++ [u]).IsChain (Edge g)) (hnd : (path ++ [u]).Nodup) (hn : n ∈ path ++ [u])
    (hedge : Edge g u n) :
    IsCycle (Edge g) (closedBy (path ++ [u]) n) ∧ closing (closedBy (path ++ [u]) n) = u ∧
      ((closedBy (path ++ [u]) n).1 :: (closedBy (path ++ [u]) n).2) <:+ path ++ [u] := by
  set c := closedBy (path ++ [u]) n
  have hdrop : c.1 :: c.2 = (path ++ [u]).dropWhile (· != n) := (dropWhile_bne_of_mem hn).symm
  obtain ⟨pre, hpre⟩ : c.1 :: c.2 <:+ path ++ [u] := hdrop ▸ List.dropWhile_suffix _
  have hlast : closing c = u := by
    have h := congrArg List.getLast? hpre
    rw [List.getLast?_append, List.getLast?_append, List.getLast?_singleton,
      List.getLast?_eq_some_getLast (List.cons_ne_nil _ _)] at h
    simpa [closing] using h
  refine ⟨⟨?_, hnd.sublist (List.IsSuffix.sublist ⟨pre, hpre⟩)⟩, hlast, ⟨pre, hpre⟩⟩
  refine (hchain.suffix ⟨pre, hpre⟩).append (List.isChain_singleton _) ?_
  intro x hx y hy
  rw [List.getLast?_eq_some_getLast (List.cons_ne_nil _ _), Option.mem_def,
    Option.some.injEq] at hx
  rw [List.head?_cons, Option.mem_def, Option.some.injEq] at hy
  rw [← hx, ← hy]
  show Edge g (closing c) n
  rw [hlast]
  exact hedge

/-- An edge back to an entity on the path reports the cycle it closes. -/
theorem back {fr : Frame} {rest : List Frame} {n : String} {more : List String}
    (I : Inv g (fr :: rest) visited cs) (hp : fr.pending = n :: more)
    (hn : n ∈ pathOf (fr :: rest)) :
    Inv g (⟨fr.node, more⟩ :: rest) visited (cs ++ [closedBy (pathOf (fr :: rest)) n]) := by
  have hsame : pathOf (⟨fr.node, more⟩ :: rest) = pathOf (fr :: rest) := by simp
  have hedge : Edge g fr.node n := (I.pending_suffix fr List.mem_cons_self).subset (by simp [hp])
  have hpath := pathOf_cons fr rest
  obtain ⟨hcyc, hlast, hsuf⟩ := isCycle_closedBy (hpath ▸ I.path_chain) (hpath ▸ I.path_nodup)
    (hpath ▸ hn) hedge
  rw [← hpath] at hcyc hlast hsuf
  have hoff : fr.node ∉ pathOf rest := by
    have hnd := I.path_nodup
    rw [hpath, List.nodup_append] at hnd
    exact fun h => hnd.2.2 _ h _ (List.mem_singleton_self _) rfl
  refine ⟨I.nodup, hsame ▸ I.path_sublist, hsame ▸ I.path_chain, I.pending_suffix_follow hp,
    ?_, ?_, ?_, by simp, by simp, by simp⟩
  · intro c hc
    rcases List.mem_append.mp hc with hc | hc
    · exact I.found_cycle c hc
    · rw [List.mem_singleton.mp hc]
      exact ⟨hcyc, hsuf.sublist.trans I.path_sublist⟩
  · intro hd c hc f hf hfc
    rcases List.mem_append.mp hc with hc | hc
    · exact I.closing_pending_follow hp hd c hc f hf hfc
    · rw [List.mem_singleton.mp hc] at hfc ⊢
      rcases List.mem_cons.mp hf with rfl | hf
      · have hnd := (hd fr.node).sublist (I.pending_suffix fr List.mem_cons_self).sublist
        rw [hp] at hnd
        exact (List.nodup_cons.mp hnd).1
      · have hmem : f.node ∈ pathOf rest := by
          simpa [pathOf] using ⟨f, hf, rfl⟩
        rw [hfc, hlast] at hmem
        exact absurd hmem hoff
  · intro hd
    rw [List.map_append, List.nodup_append]
    refine ⟨I.closing_nodup hd, List.nodup_singleton _, ?_⟩
    intro x hx y hy hxy
    rw [List.mem_singleton.mp hy] at hxy
    obtain ⟨c, hc, rfl⟩ := List.mem_map.mp hx
    simp only [Prod.mk.injEq] at hxy
    have h := I.closing_pending hd c hc fr List.mem_cons_self (hxy.1.trans hlast).symm
    rw [hp, hxy.2] at h
    exact h List.mem_cons_self

theorem skip {fr : Frame} {rest : List Frame} {n : String} {more : List String}
    (I : Inv g (fr :: rest) visited cs) (hp : fr.pending = n :: more)
    (hn : n ∉ pathOf (fr :: rest)) (hv : n ∈ visited) :
    Inv g (⟨fr.node, more⟩ :: rest) visited cs := by
  have hsame : pathOf (⟨fr.node, more⟩ :: rest) = pathOf (fr :: rest) := by simp
  have hfin : Finished (⟨fr.node, more⟩ :: rest) visited = Finished (fr :: rest) visited := by
    funext d; simp only [Finished, hsame]
  refine ⟨I.nodup, hsame ▸ I.path_sublist, hsame ▸ I.path_chain, I.pending_suffix_follow hp,
    I.found_cycle, I.closing_pending_follow hp, I.closing_nodup, hfin ▸ I.finished_closed,
    hfin ▸ I.finished_acyclic, ?_⟩
  intro h0
  obtain ⟨htop, hrest⟩ := I.covered h0
  rw [hfin]
  refine ⟨fun t ht => ?_, hrest⟩
  rcases htop t ht with h | h | h
  · rw [hp] at h
    rcases List.mem_cons.mp h with rfl | h
    · exact .inr (.inl ⟨hv, hn⟩)
    · exact .inl h
  · exact .inr (.inl h)
  · exact .inr (.inr h)

theorem enter {fr : Frame} {rest : List Frame} {n : String} {more : List String}
    (I : Inv g (fr :: rest) visited cs) (hp : fr.pending = n :: more)
    (hn : n ∉ pathOf (fr :: rest)) (hv : n ∉ visited) :
    Inv g (⟨n, targets g n⟩ :: ⟨fr.node, more⟩ :: rest) (visited ++ [n]) cs := by
  have hpath : pathOf (⟨n, targets g n⟩ :: ⟨fr.node, more⟩ :: rest) = pathOf (fr :: rest) ++ [n] := by
    simp
  have hedge : Edge g fr.node n := (I.pending_suffix fr List.mem_cons_self).subset (by simp [hp])
  have hfin : Finished (⟨n, targets g n⟩ :: ⟨fr.node, more⟩ :: rest) (visited ++ [n]) =
      Finished (fr :: rest) visited := by
    funext d
    simp only [Finished, hpath, List.mem_append, List.mem_singleton, not_or, eq_iff_iff]
    constructor
    · rintro ⟨hd | rfl, hp', hdn⟩
      · exact ⟨hd, hp'⟩
      · exact absurd rfl hdn
    · rintro ⟨hd, hp'⟩
      exact ⟨.inl hd, hp', fun h => hv (h ▸ hd)⟩
  refine ⟨?_, ?_, ?_, ?_, ?_, ?_, I.closing_nodup, hfin ▸ I.finished_closed,
    hfin ▸ I.finished_acyclic, ?_⟩
  · exact List.nodup_append.mpr ⟨I.nodup, List.nodup_singleton _,
      fun x hx y hy hxy => hv (List.mem_singleton.mp hy ▸ hxy ▸ hx)⟩
  · exact hpath ▸ I.path_sublist.append (List.Sublist.refl [n])
  · rw [hpath]
    refine I.path_chain.append (List.isChain_singleton _) ?_
    intro x hx y hy
    rw [pathOf_cons, List.getLast?_append, List.getLast?_singleton, Option.some_or,
      Option.mem_def, Option.some.injEq] at hx
    rw [List.head?_cons, Option.mem_def, Option.some.injEq] at hy
    rw [← hx, ← hy]
    exact hedge
  · intro f hf
    rcases List.mem_cons.mp hf with rfl | hf
    · exact List.suffix_refl _
    · exact I.pending_suffix_follow hp f hf
  · exact fun c hc => ⟨(I.found_cycle c hc).1,
      (I.found_cycle c hc).2.trans (List.sublist_append_left _ _)⟩
  · intro hd c hc f hf hfc
    rcases List.mem_cons.mp hf with rfl | hf
    · have hmem := I.closing_mem_visited hc
      rw [← hfc] at hmem
      exact absurd hmem hv
    · exact I.closing_pending_follow hp hd c hc f hf hfc
  · intro h0
    obtain ⟨htop, hrest⟩ := I.covered h0
    rw [hfin]
    refine ⟨fun t ht => .inl ht, fun t ht => ?_, hrest⟩
    rcases htop t ht with h | h | h
    · rw [hp] at h
      rcases List.mem_cons.mp h with rfl | h
      · exact .inr (.inr rfl)
      · exact .inl h
    · exact .inr (.inl h)
    · cases h

theorem start {root : String} (I : Inv g [] visited cs) (hv : root ∉ visited) :
    Inv g [⟨root, targets g root⟩] (visited ++ [root]) cs := by
  have hfin : Finished [⟨root, targets g root⟩] (visited ++ [root]) = Finished [] visited := by
    funext d
    simp only [Finished, pathOf_cons, pathOf_nil, List.nil_append, List.mem_append,
      List.mem_singleton, List.not_mem_nil, not_false_eq_true, and_true, eq_iff_iff]
    constructor
    · rintro ⟨hd | rfl, hdn⟩
      · exact hd
      · exact absurd rfl hdn
    · exact fun hd => ⟨.inl hd, fun h => hv (h ▸ hd)⟩
  refine ⟨?_, ?_, by simp, ?_, ?_, ?_, I.closing_nodup, hfin ▸ I.finished_closed,
    hfin ▸ I.finished_acyclic, ?_⟩
  · exact List.nodup_append.mpr ⟨I.nodup, List.nodup_singleton _,
      fun x hx y hy hxy => hv (List.mem_singleton.mp hy ▸ hxy ▸ hx)⟩
  · simp
  · simp
  · exact fun c hc => ⟨(I.found_cycle c hc).1,
      (I.found_cycle c hc).2.trans (List.sublist_append_left _ _)⟩
  · intro hd c hc f hf hfc
    rw [List.mem_singleton.mp hf] at hfc
    have hmem := I.closing_mem_visited hc
    rw [← hfc] at hmem
    exact absurd hmem hv
  · exact fun _ => ⟨fun t ht => .inl ht, trivial⟩

end Inv

/-- A whole search keeps the invariant and ends with the path empty: every error it adds reports
a cycle, and it loses no entity reached before. -/
theorem search_inv {frames : List Frame} {visited : List String} {found : List Issue}
    {cs : List (String × List String)} (hfound : found = cs.map report)
    (I : Inv g frames visited cs) :
    ∃ cs', (search g frames visited found).2 = cs'.map report ∧
      Inv g [] (search g frames visited found).1 cs' ∧ visited ⊆ (search g frames visited found).1 := by
  fun_induction search g frames visited found generalizing cs with
  | case1 visited found => exact ⟨cs, hfound, I, List.Subset.refl _⟩
  | case2 node frames visited found ih => exact ih hfound (I.pop rfl)
  | case3 node n more frames visited found frames' path hc =>
    rename_i ih
    have hpath : path = pathOf (⟨node, n :: more⟩ :: frames) := by simp [path, frames', pathOf]
    have hn : n ∈ pathOf (⟨node, n :: more⟩ :: frames) := by simpa [hpath] using hc
    refine ih ?_ (I.back rfl hn)
    rw [hfound, List.map_append, hpath, cycleIssue_eq_report hn]
    rfl
  | case4 node n more frames visited found frames' path hc hv =>
    rename_i ih
    have hpath : path = pathOf (⟨node, n :: more⟩ :: frames) := by simp [path, frames', pathOf]
    exact ih hfound (I.skip rfl (by simpa [hpath] using hc) (by simpa using hv))
  | case5 node n more frames visited found frames' path hc hv =>
    rename_i ih
    have hpath : path = pathOf (⟨node, n :: more⟩ :: frames) := by simp [path, frames', pathOf]
    obtain ⟨cs', hcs, I', hsub⟩ :=
      ih hfound (I.enter rfl (by simpa [hpath] using hc) (by simpa using hv))
    exact ⟨cs', hcs, I', fun x hx => hsub (List.mem_append_left _ hx)⟩

theorem Inv.init : Inv g [] [] [] :=
  ⟨List.nodup_nil, List.Sublist.slnil, List.IsChain.nil, by simp, by simp, by simp, by simp,
    by simp [Finished], by simp [Finished], fun _ => trivial⟩

theorem foldl_searchFrom_inv (roots : List String) :
    ∀ {acc : List String × List Issue} {cs : List (String × List String)},
      acc.2 = cs.map report → Inv g [] acc.1 cs →
      ∃ cs', (roots.foldl (searchFrom g) acc).2 = cs'.map report ∧
        Inv g [] (roots.foldl (searchFrom g) acc).1 cs' ∧
        acc.1 ⊆ (roots.foldl (searchFrom g) acc).1 ∧
        ∀ x ∈ roots, x ∈ (roots.foldl (searchFrom g) acc).1 := by
  induction roots with
  | nil => exact fun hfound I => ⟨_, hfound, I, List.Subset.refl _, by simp⟩
  | cons root roots ih =>
    intro acc cs hfound I
    obtain ⟨cs₁, hfound₁, I₁, hsub₁, hroot⟩ : ∃ cs₁, (searchFrom g acc root).2 = cs₁.map report ∧
        Inv g [] (searchFrom g acc root).1 cs₁ ∧ acc.1 ⊆ (searchFrom g acc root).1 ∧
        root ∈ (searchFrom g acc root).1 := by
      unfold searchFrom
      split
      · rename_i hr
        exact ⟨cs, hfound, I, List.Subset.refl _, by simpa using hr⟩
      · rename_i hr
        obtain ⟨cs₁, h1, h2, h3⟩ := search_inv hfound (I.start (by simpa using hr))
        exact ⟨cs₁, h1, h2, fun x hx => h3 (List.mem_append_left _ hx), h3 (by simp)⟩
    obtain ⟨cs', hfound', I', hsub', hall⟩ := ih hfound₁ I₁
    refine ⟨cs', hfound', I', fun x hx => hsub' (hsub₁ hx), ?_⟩
    intro x hx
    rcases List.mem_cons.mp hx with rfl | hx
    · exact hsub' hroot
    · exact hall x hx

/-- After all searches the errors report cycles, and every source was reached. -/
theorem cycles_inv (rs : List Relationship) :
    ∃ cs visited, cycles rs = cs.map report ∧ Inv (graph rs) [] visited cs ∧
      ∀ x ∈ (graph rs).map Prod.fst, x ∈ visited := by
  have hstart : (([], []) : List String × List Issue).2 = ([] : List (String × List String)).map report :=
    rfl
  obtain ⟨cs, hcs, I, -, hall⟩ :=
    foldl_searchFrom_inv (g := graph rs) ((graph rs).map Prod.fst) hstart Inv.init
  exact ⟨cs, _, hcs, I, hall⟩

end Search

section Cycles

theorem edge_graph_eq (rs : List Relationship) : Edge (graph rs) = InheritsFrom rs := by
  funext u v
  exact propext edge_graph_iff

theorem transGen_of_isChain {R : String → String → Prop} :
    ∀ {a b : String} {l : List String}, (a :: l ++ [b]).IsChain R → Relation.TransGen R a b
  | _, _, [], h => .single (List.isChain_pair.mp h)
  | _, _, x :: l, h => by
    simp only [List.cons_append, List.isChain_cons_cons] at h
    exact .head h.1 (transGen_of_isChain h.2)

theorem sublist_eq_of_perm {l₁ l₂ : List String} :
    ∀ {L : List String}, l₁ <+ L → l₂ <+ L → L.Nodup → l₁.Perm l₂ → l₁ = l₂
  | [], h₁, h₂, _, _ => by rw [List.sublist_nil.mp h₁, List.sublist_nil.mp h₂]
  | a :: L, h₁, h₂, hnd, hp => by
    have ha : a ∉ L := (List.nodup_cons.mp hnd).1
    rcases List.sublist_cons_iff.mp h₁ with s₁ | ⟨r₁, rfl, s₁⟩ <;>
      rcases List.sublist_cons_iff.mp h₂ with s₂ | ⟨r₂, rfl, s₂⟩
    · exact sublist_eq_of_perm s₁ s₂ (List.nodup_cons.mp hnd).2 hp
    · exact absurd (s₁.subset (hp.symm.subset List.mem_cons_self)) ha
    · exact absurd (s₂.subset (hp.subset List.mem_cons_self)) ha
    · rw [sublist_eq_of_perm s₁ s₂ (List.nodup_cons.mp hnd).2 hp.cons_inv]

theorem pairwise_not_rotated {cs : List (String × List String)} {visited : List String}
    (hnd : visited.Nodup) (hsub : ∀ c ∈ cs, (c.1 :: c.2) <+ visited)
    (hclose : (cs.map fun c => (closing c, c.1)).Nodup) :
    cs.Pairwise fun c c' => ¬(c.1 :: c.2) ~r (c'.1 :: c'.2) := by
  refine (List.pairwise_map.mp hclose).imp_of_mem ?_
  intro c c' hc hc' hne hrot
  have heq := sublist_eq_of_perm (hsub c hc) (hsub c' hc') hnd hrot.perm
  obtain ⟨h1, h2⟩ := List.cons.inj heq
  have : c = c' := Prod.ext h1 h2
  subst this
  exact hne rfl

/-- The errors of the inheritance check report exactly the simple cycles of inheritance. Each
error names a simple cycle, from the entity it names back to that entity; there is an error if
and only if the inheritance edges run in a cycle; and when no edge is declared twice, no two
errors report the same cycle, even from different entities of it, so a graph with exactly one
simple cycle draws exactly one error. -/
theorem cycles_report_simple_cycles (rs : List Relationship) :
    ∃ cs : List (String × List String), cycles rs = cs.map report ∧
      (∀ c ∈ cs, IsCycle (InheritsFrom rs) c) ∧
      (cycles rs ≠ [] ↔ ∃ v, Relation.TransGen (InheritsFrom rs) v v) ∧
      ((inheritanceEdges rs).Nodup →
        cs.Pairwise (fun c c' => ¬(c.1 :: c.2) ~r (c'.1 :: c'.2)) ∧
        ∀ c₀, IsCycle (InheritsFrom rs) c₀ →
          (∀ c, IsCycle (InheritsFrom rs) c → (c.1 :: c.2) ~r (c₀.1 :: c₀.2)) →
          (cycles rs).length = 1) := by
  obtain ⟨cs, visited, hcs, I, hall⟩ := cycles_inv rs
  have hcyc : ∀ c ∈ cs, IsCycle (InheritsFrom rs) c := fun c hc =>
    edge_graph_eq rs ▸ (I.found_cycle c hc).1
  have hsome : cs ≠ [] ↔ ∃ v, Relation.TransGen (InheritsFrom rs) v v := by
    constructor
    · intro hne
      obtain ⟨c, hc⟩ := List.exists_mem_of_ne_nil cs hne
      exact ⟨c.1, transGen_of_isChain (hcyc c hc).1⟩
    · -- with no error found, every entity reached is finished and on no cycle
      rintro ⟨v, hv⟩ h0
      rw [← edge_graph_eq] at hv
      obtain ⟨t, ht, -⟩ := Relation.TransGen.head'_iff.mp hv
      have hvis := hall v (mem_sources_of_edge ht)
      exact I.finished_acyclic h0 v ⟨hvis, by simp⟩ hv
  have hnot := fun hd => pairwise_not_rotated I.nodup (fun c hc => (I.found_cycle c hc).2)
    (I.closing_nodup hd)
  refine ⟨cs, hcs, hcyc, by rw [hcs, Ne, List.map_eq_nil_iff, ← Ne, hsome], fun hedges => ?_⟩
  have hpair := hnot (targets_graph_nodup hedges)
  refine ⟨hpair, fun c₀ hc₀ honly => ?_⟩
  have hne : cs ≠ [] := hsome.mpr ⟨c₀.1, transGen_of_isChain hc₀.1⟩
  rw [hcs, List.length_map]
  match cs, hne, hpair with
  | [_], _, _ => rfl
  | c :: c' :: _, _, hp =>
    exact absurd ((honly c (hcyc c (by simp))).trans (honly c' (hcyc c' (by simp))).symm)
      ((List.pairwise_cons.mp hp).1 c' List.mem_cons_self)

end Cycles

end SchemaNotation.Inheritance
