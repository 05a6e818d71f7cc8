import Mathlib
import SchemaNotation.Render.Statistics

/-! Usage counts, and the statistics of a document.

A tally built by adding weighted names holds each name once, in the order names first appear,
with the sum of its weights (`Tally.entries_foldl_add`). Sorting it most used first is stable:
the names used equally often keep the order of the tally (`Tally.filter_mostCommon`), so a
usage counter lists names most used first and breaks ties by first use (`Tally.counts_tally`).
`Document.statistics_counts` puts the statistics of a document together: the entity totals
agree with each other and with the module counts, where sections that share a name add up, and
each usage counter counts the labels met walking the fields of the document. -/

namespace SchemaNotation

open scoped List

namespace Tally

/-- The total weight a list of weighted names gives one name. -/
def weight (ps : List (String × Nat)) (n : String) : Nat :=
  ((ps.filter (·.1 = n)).map Prod.snd).sum

/-- Each name of a list of weighted names once, in the order names first appear, with its total
weight. -/
def summed (ps : List (String × Nat)) : List (String × Nat) :=
  (ps.map Prod.fst).eraseDups.map fun n => (n, weight ps n)

@[simp] theorem weight_nil (n : String) : weight [] n = 0 := rfl

theorem weight_cons (p : String × Nat) (ps : List (String × Nat)) (n : String) :
    weight (p :: ps) n = (if p.1 = n then p.2 else 0) + weight ps n := by
  by_cases h : p.1 = n <;> simp [weight, h]

theorem weight_append_singleton (ps : List (String × Nat)) (n m : String) (k : Nat) :
    weight (ps ++ [(n, k)]) m = weight ps m + if n = m then k else 0 := by
  by_cases h : n = m <;> simp [weight, h]

theorem weight_eq_zero {ps : List (String × Nat)} {n : String} (h : n ∉ ps.map Prod.fst) :
    weight ps n = 0 := by
  have hnil : ps.filter (·.1 = n) = [] := List.filter_eq_nil_iff.mpr fun p hp hpn =>
    h (List.mem_map.mpr ⟨p, hp, of_decide_eq_true hpn⟩)
  simp [weight, hnil]

theorem weight_map_one (ns : List String) (n : String) :
    weight (ns.map fun m => (m, 1)) n = ns.count n := by
  induction ns with
  | nil => rfl
  | cons m ns ih =>
    rw [List.map_cons, weight_cons, ih, List.count_cons]
    by_cases h : m = n <;> simp [h, Nat.add_comm]

theorem sum_map_ite_of_mem {K : List String} (hK : K.Nodup) {n : String} (hn : n ∈ K) (k : Nat) :
    (K.map fun m => if n = m then k else 0).sum = k := by
  induction K with
  | nil => cases hn
  | cons a K ih =>
    obtain ⟨ha, hK⟩ := List.nodup_cons.mp hK
    by_cases h : n = a
    · subst h
      have hrest : (K.map fun m => if n = m then k else 0).sum = 0 :=
        List.sum_eq_zero fun x hx => by
          obtain ⟨m, hm, rfl⟩ := List.mem_map.mp hx
          exact if_neg fun (h : n = m) => ha (h ▸ hm)
      simp [hrest]
    · simp [h, ih hK ((List.mem_cons.mp hn).resolve_left h)]

theorem sum_map_weight {K : List String} (hK : K.Nodup) :
    ∀ {ps : List (String × Nat)}, (∀ p ∈ ps, p.1 ∈ K) →
      (K.map (weight ps)).sum = (ps.map Prod.snd).sum
  | [], _ => by
    have hzero : weight [] = fun _ => 0 := rfl
    simp [hzero]
  | p :: ps, hps => by
    have hrest := sum_map_weight hK fun q hq => hps q (List.mem_cons_of_mem p hq)
    have hcons : weight (p :: ps) = fun m => (if p.1 = m then p.2 else 0) + weight ps m :=
      funext (weight_cons p ps)
    rw [hcons, List.sum_map_add, hrest, sum_map_ite_of_mem hK (hps p List.mem_cons_self),
      List.map_cons, List.sum_cons]

theorem pairwise_idxOf_eraseDups (ns : List String) :
    ns.eraseDups.Pairwise fun a b => ns.idxOf a < ns.idxOf b := by
  induction ns using List.reverseRecOn with
  | nil => simp
  | append_singleton ns x ih =>
    have hkeep : ∀ a ∈ ns.eraseDups, (ns ++ [x]).idxOf a = ns.idxOf a := fun a ha =>
      List.idxOf_append_of_mem (List.mem_eraseDups.mp ha)
    have hbefore : ns.eraseDups.Pairwise fun a b => (ns ++ [x]).idxOf a < (ns ++ [x]).idxOf b :=
      ih.imp_of_mem fun ha hb hab => by rwa [hkeep _ ha, hkeep _ hb]
    rw [List.eraseDups_append]
    by_cases hx : x ∈ ns
    · have hnil : [x].removeAll ns = [] := by simp [List.removeAll, hx]
      rwa [hnil, List.eraseDups_nil, List.append_nil]
    · have hone : [x].removeAll ns = [x] := by simp [List.removeAll, hx]
      rw [hone, List.eraseDups_cons, List.filter_nil, List.eraseDups_nil]
      refine List.pairwise_append.mpr ⟨hbefore, List.pairwise_singleton _ _, fun a ha b hb => ?_⟩
      rw [List.mem_singleton.mp hb, hkeep a ha, List.idxOf_append_of_notMem hx]
      have : ns.idxOf a < ns.length := List.idxOf_lt_length_of_mem (List.mem_eraseDups.mp ha)
      simp only [List.idxOf_cons_self]
      omega

theorem nodup_eraseDups' (ns : List String) : ns.eraseDups.Nodup :=
  (pairwise_idxOf_eraseDups ns).imp fun hlt hab => Nat.ne_of_lt hlt (congrArg ns.idxOf hab)

theorem any_summed (ps : List (String × Nat)) (n : String) :
    (summed ps).any (·.1 == n) = decide (n ∈ ps.map Prod.fst) := by
  rw [Bool.eq_iff_iff, List.any_eq_true, decide_eq_true_iff, ← List.mem_eraseDups]
  simp [summed]

theorem add_summed (ps : List (String × Nat)) (n : String) (k : Nat) :
    (Tally.mk (summed ps)).add n k = ⟨summed (ps ++ [(n, k)])⟩ := by
  have hkeys : (ps ++ [(n, k)]).map Prod.fst = ps.map Prod.fst ++ [n] := by simp
  rw [add, any_summed]
  by_cases hn : n ∈ ps.map Prod.fst
  · have hnil : [n].removeAll (ps.map Prod.fst) = [] := by simp [List.removeAll, hn]
    rw [if_pos (decide_eq_true hn)]
    simp only [summed, hkeys, List.eraseDups_append, hnil, List.eraseDups_nil, List.append_nil,
      List.map_map, Tally.mk.injEq]
    refine List.map_congr_left fun m _ => ?_
    by_cases hm : n = m
    · simp [weight_append_singleton, hm]
    · simp [weight_append_singleton, hm, Ne.symm hm]
  · have hone : [n].removeAll (ps.map Prod.fst) = [n] := by simp [List.removeAll, hn]
    rw [if_neg (by simpa using hn)]
    simp only [summed, hkeys, List.eraseDups_append, hone, List.eraseDups_cons, List.filter_nil,
      List.eraseDups_nil, List.map_append, List.map_cons, List.map_nil, Tally.mk.injEq,
      weight_append_singleton, if_true, weight_eq_zero hn, Nat.zero_add]
    congr 1
    refine List.map_congr_left fun m hm => ?_
    have hmn : n ≠ m := fun h => hn (List.mem_eraseDups.mp (h ▸ hm))
    simp [hmn]

/-- A tally built from weighted names holds each name once, in the order names first appear,
with the sum of its weights. -/
theorem entries_foldl_add (ps : List (String × Nat)) :
    (ps.foldl (fun t p => t.add p.1 p.2) Tally.empty).entries = summed ps := by
  suffices h : ∀ pre, (ps.foldl (fun t p => t.add p.1 p.2) (Tally.mk (summed pre))).entries =
      summed (pre ++ ps) from h []
  induction ps with
  | nil => simp
  | cons p ps ih =>
    intro pre
    rw [List.foldl_cons, add_summed, ih, List.append_assoc, List.singleton_append]

theorem sum_summed (ps : List (String × Nat)) :
    ((summed ps).map Prod.snd).sum = (ps.map Prod.snd).sum := by
  rw [summed, List.map_map]
  exact sum_map_weight (nodup_eraseDups' _) fun p hp =>
    List.mem_eraseDups.mpr (List.mem_map_of_mem hp)

theorem usesFirst_trans (a b c : String × Nat) (hab : decide (b.2 ≤ a.2) = true)
    (hbc : decide (c.2 ≤ b.2) = true) : decide (c.2 ≤ a.2) = true := by
  simp only [decide_eq_true_eq] at hab hbc ⊢
  omega

theorem usesFirst_total (a b : String × Nat) :
    (decide (b.2 ≤ a.2) || decide (a.2 ≤ b.2)) = true := by
  simpa using Nat.le_total b.2 a.2

theorem pairwise_mostCommon (t : Tally) : t.mostCommon.Pairwise fun a b => b.2 ≤ a.2 :=
  (List.pairwise_mergeSort usesFirst_trans usesFirst_total t.entries).imp of_decide_eq_true

/-- Sorting most used first keeps names used equally often in the order of the tally. -/
theorem filter_mostCommon (t : Tally) (c : Nat) :
    t.mostCommon.filter (·.2 = c) = t.entries.filter (·.2 = c) := by
  have hsame : (t.entries.filter (·.2 = c)).Pairwise fun a b => decide (b.2 ≤ a.2) := by
    refine List.pairwise_filter.mpr (List.pairwise_of_forall_mem_list fun a _ b _ ha hb => ?_)
    simp only [decide_eq_true_eq] at ha hb ⊢
    omega
  have hsub : t.entries.filter (·.2 = c) <+ t.mostCommon :=
    List.sublist_mergeSort usesFirst_trans usesFirst_total hsame List.filter_sublist
  have hsub' : t.entries.filter (·.2 = c) <+ t.mostCommon.filter (·.2 = c) := by
    simpa using hsub.filter (·.2 = c)
  have hlen : (t.mostCommon.filter (·.2 = c)).length = (t.entries.filter (·.2 = c)).length :=
    ((List.mergeSort_perm _ _).filter _).length_eq
  exact (hsub'.eq_of_length hlen.symm).symm

/-- `counts` counts the uses of the names of `ns`: each name used appears once with the number of
its uses, most used first, and names used equally often in the order of their first use. -/
structure Counts (ns : List String) (counts : List (String × Nat)) : Prop where
  nodup : (counts.map Prod.fst).Nodup
  mem_iff : ∀ n, n ∈ counts.map Prod.fst ↔ n ∈ ns
  count_eq : ∀ p ∈ counts, p.2 = ns.count p.1
  ordered : counts.Pairwise fun a b => b.2 < a.2 ∨ (a.2 = b.2 ∧ ns.idxOf a.1 < ns.idxOf b.1)

/-- The tally of a list of names, most used first, counts its names. -/
theorem counts_tally (ns : List String) :
    Counts ns (ns.foldl (fun t n => t.add n 1) Tally.empty).mostCommon := by
  set t := ns.foldl (fun t n => t.add n 1) Tally.empty
  have hentries : t.entries = ns.eraseDups.map fun n => (n, ns.count n) := by
    have h := entries_foldl_add (ns.map fun n => (n, 1))
    rw [List.foldl_map] at h
    simp only [t, h, summed, List.map_map, Function.comp_def, List.map_id', weight_map_one]
  have hperm : t.mostCommon.Perm t.entries := List.mergeSort_perm _ _
  have hfirst : t.entries.Pairwise fun a b => ns.idxOf a.1 < ns.idxOf b.1 := by
    rw [hentries, List.pairwise_map]
    exact pairwise_idxOf_eraseDups ns
  refine ⟨?_, fun n => ?_, fun p hp => ?_, ?_⟩
  · rw [(hperm.map Prod.fst).nodup_iff, hentries, List.map_map]
    simpa [Function.comp_def] using nodup_eraseDups' ns
  · rw [(hperm.map Prod.fst).mem_iff, hentries, List.map_map]
    simp [Function.comp_def]
  · obtain ⟨m, -, rfl⟩ := List.mem_map.mp (hentries ▸ hperm.mem_iff.mp hp)
    rfl
  · -- ties are broken by the tally's order, which is the order of first use
    refine List.pairwise_of_forall_sublist fun {a b} hab => ?_
    have hle := List.pairwise_iff_forall_sublist.mp (pairwise_mostCommon t) hab
    rcases Nat.lt_or_eq_of_le hle with hlt | heq
    · exact .inl hlt
    · refine .inr ⟨heq.symm, ?_⟩
      have hpair : [a, b] <+ t.mostCommon.filter (·.2 = a.2) := by
        simpa [heq] using hab.filter (·.2 = a.2)
      rw [filter_mostCommon] at hpair
      exact List.pairwise_iff_forall_sublist.mp hfirst (hpair.trans List.filter_sublist)

end Tally

namespace Document

variable (d : Document)

/-- The labels under which the types of a document's fields are counted, field by field. -/
def typeLabels : List String :=
  d.entities.flatMap fun e => e.fields.flatMap fun f => f.type.usageNames

/-- The constraint names of a document's fields, as written, field by field. -/
def constraintNames : List String :=
  d.entities.flatMap fun e => e.fields.flatMap fun f => f.constraints.map Constraint.name

/-- The sigil characters of a document's fields, field by field. -/
def sigilSymbols : List String :=
  d.entities.flatMap fun e => e.fields.flatMap fun f => f.sigils.map (·.symbol.toString)

/-- The number of entities in the sections of a given name. -/
def sectionEntityCount (name : String) : Nat :=
  ((d.schema.sections.filter (·.name = name)).map (·.entities.length)).sum

theorem modules_eq_summed :
    d.statistics.modules =
      Tally.summed (d.schema.sections.map fun s => (s.name, s.entities.length)) := by
  have h := Tally.entries_foldl_add (d.schema.sections.map fun s => (s.name, s.entities.length))
  rw [List.foldl_map] at h
  simp only [statistics, h]

theorem modules_statistics :
    d.statistics.modules = (d.schema.sections.map ModuleSection.name).eraseDups.map
      fun n => (n, d.sectionEntityCount n) := by
  simp only [modules_eq_summed, Tally.summed, List.map_map, Function.comp_def, sectionEntityCount,
    Tally.weight, List.filter_map]

theorem sum_modules_statistics :
    (d.statistics.modules.map Prod.snd).sum = d.entities.length := by
  simp only [modules_eq_summed, Tally.sum_summed, List.map_map, Function.comp_def, entities,
    List.length_flatMap]

/-- The statistics of a document agree with it: the entity totals agree with each other and with
the module counts, where sections that share a name add up; the field total counts every field;
and each usage counter counts its labels, most used first, ties in the order of first use. -/
theorem statistics_counts :
    d.statistics.totalEntities = d.statistics.standardEntities + d.statistics.embeddedEntities ∧
    d.statistics.totalEntities = d.entities.length ∧
    d.statistics.totalEntities = (d.statistics.modules.map Prod.snd).sum ∧
    d.statistics.modules = (d.schema.sections.map ModuleSection.name).eraseDups.map
      (fun n => (n, d.sectionEntityCount n)) ∧
    d.statistics.totalFields = (d.entities.map fun e => e.fields.length).sum ∧
    Tally.Counts d.typeLabels d.statistics.dataTypes ∧
    Tally.Counts d.constraintNames d.statistics.constraints ∧
    Tally.Counts d.sigilSymbols d.statistics.sigils := by
  refine ⟨?_, rfl, (d.sum_modules_statistics).symm, d.modules_statistics, ?_, ?_, ?_, ?_⟩
  · simpa [statistics, Nat.add_comm] using
      List.length_eq_length_filter_add (l := d.entities) Entity.isEmbedded
  · simp [statistics, List.length_flatMap]
  · simpa [statistics, typeLabels, List.flatMap_assoc] using Tally.counts_tally d.typeLabels
  · simpa [statistics, constraintNames, List.flatMap_assoc] using
      Tally.counts_tally d.constraintNames
  · simpa [statistics, sigilSymbols, List.flatMap_assoc] using Tally.counts_tally d.sigilSymbols

end Document

end SchemaNotation
