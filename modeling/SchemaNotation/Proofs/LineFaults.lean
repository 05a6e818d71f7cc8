import SchemaNotation.Notation.FieldLine
import SchemaNotation.Notation.RelationshipLine

/-! Faults found in one line name that line. Every reader of a single line takes the number of
the line it reads and passes it, unchanged, to each fault it raises: those of the sigils, the
constraint groups, the type expression and its multiplicities, and those of relationship and
link lines. -/

namespace SchemaNotation.Notation

open Text

/-- Every fault that a reading step may raise is found on `line`. -/
def FaultsOn {α : Type} (line : Option Nat) (p : Parse α) : Prop :=
  ∀ e, p = .error e → e.line = line

section Combinators

variable {α β : Type} {line : Option Nat}

theorem FaultsOn.bind {p : Parse α} {f : α → Parse β} (hp : FaultsOn line p)
    (hf : ∀ a, FaultsOn line (f a)) : FaultsOn line (p >>= f) := by
  intro e h
  cases hq : p with
  | error e' => rw [hq] at h; cases h; exact hp _ hq
  | ok a => rw [hq] at h; exact hf a e h

theorem FaultsOn.map {p : Parse α} (f : α → β) (hp : FaultsOn line p) :
    FaultsOn line (f <$> p) := by
  intro e h
  cases hq : p with
  | error e' => rw [hq] at h; cases h; exact hp _ hq
  | ok a => rw [hq] at h; cases h

theorem faultsOn_mapM {f : α → Parse β} :
    ∀ {as : List α}, (∀ a ∈ as, FaultsOn line (f a)) → FaultsOn line (as.mapM f)
  | [], _ => by intro e h; cases h
  | a :: as, h => by
    rw [List.mapM_cons]
    exact (h a List.mem_cons_self).bind fun b =>
      (faultsOn_mapM fun x hx => h x (List.mem_cons_of_mem a hx)).bind fun bs => by
        intro e h; cases h

theorem faultsOn_foldlM {f : β → α → Parse β} (hf : ∀ b a, FaultsOn line (f b a)) :
    ∀ (as : List α) (b : β), FaultsOn line (as.foldlM f b)
  | [], b => by intro e h; cases h
  | a :: as, b => by
    rw [List.foldlM_cons]
    exact (hf b a).bind fun b' => faultsOn_foldlM hf as b'

theorem faultsOn_flatMapM {f : α → Parse (List β)} (hf : ∀ a, FaultsOn line (f a))
    (as : List α) : FaultsOn line (as.flatMapM f) := by
  suffices h : ∀ acc, FaultsOn line (List.flatMapM.loop f as acc) from h []
  induction as with
  | nil => intro acc e h; cases h
  | cons a as ih =>
    intro acc
    simp only [List.flatMapM.loop]
    exact (hf a).bind fun bs => ih (bs :: acc)

end Combinators

theorem readSigils_faultsOn (text : String) (line : Option Nat) :
    FaultsOn line (readSigils text line) := by
  intro e h
  simp only [readSigils, pure, Except.pure, throw, throwThe, MonadExceptOf.throw] at h
  split at h
  · cases h; rfl
  · cases h

theorem addItem_faultsOn (group : String) (line : Option Nat) (done : List Constraint)
    (raw : String) : FaultsOn line (addItem group line done raw) := by
  intro e h
  simp only [addItem, bind, Except.bind, pure, Except.pure, throw, throwThe,
    MonadExceptOf.throw] at h
  repeat' split at h
  all_goals simp only [reduceCtorEq, Except.error.injEq] at h
  all_goals (subst h; rfl)

theorem readConstraintList_faultsOn (group : String) (line : Option Nat) :
    FaultsOn line (readConstraintList group line) := by
  intro e h
  simp only [readConstraintList, bind, Except.bind, pure, Except.pure, throw, throwThe,
    MonadExceptOf.throw] at h
  split at h
  · cases h; rfl
  · split at h
    next e' hf =>
      cases h
      exact faultsOn_foldlM (addItem_faultsOn group line) _ _ _ hf
    next => cases h

theorem groupsFrom_faultsOn (line : Option Nat) (cs : List Char) (previous : Option Char)
    (depth : Nat) (kept : List Char) (groups : List String) :
    FaultsOn line (groupsFrom line cs previous depth kept groups) := by
  intro e h
  fun_induction groupsFrom line cs previous depth kept groups
  case case2 => cases h
  case case1 | case3 | case7 => cases h; rfl
  case case4 ih | case5 ih | case6 ih | case8 ih | case9 ih => exact ih h

theorem extractGroups_faultsOn (text : String) (line : Option Nat) :
    FaultsOn line (extractGroups text line) :=
  (groupsFrom_faultsOn line _ none 0 [] []).bind fun _ => by intro e h; cases h

theorem readMultiplicity_faultsOn (text : String) (line : Option Nat) :
    FaultsOn line (readMultiplicity text line) := by
  intro e h
  simp only [readMultiplicity, pure, Except.pure, throw, throwThe, MonadExceptOf.throw] at h
  repeat' split at h
  all_goals simp only [reduceCtorEq, Except.error.injEq] at h
  all_goals (subst h; rfl)

theorem readProperties_faultsOn {readOne : String → Parse DataType} {line : Option Nat}
    (hone : ∀ s, FaultsOn line (readOne s)) (body : String) :
    FaultsOn line (readProperties readOne body line) := by
  unfold readProperties
  split
  · intro e h; cases h
  · refine faultsOn_mapM fun item _ => ?_
    split
    · split
      · intro e h; cases h; rfl
      · exact (hone _).bind fun _ => by intro e h; cases h
    · intro e h; cases h; rfl

theorem readTypeWith_faultsOn (fuel : Nat) (text : String) (line : Option Nat) :
    FaultsOn line (readTypeWith fuel text line) := by
  induction fuel generalizing text with
  | zero => intro e h; cases h; rfl
  | succ fuel ih =>
    have hthrow : ∀ f : Fault, FaultsOn line (throw ⟨f, line⟩ : Parse DataType) :=
      fun f e h => by cases h; rfl
    have hpure : ∀ t : DataType, FaultsOn line (pure t : Parse DataType) :=
      fun t e h => by cases h
    unfold readTypeWith
    simp only
    split
    · exact hthrow _
    split
    · split
      · exact hthrow _
      · exact (ih _).map _
    split
    · exact hpure _
    split
    · split
      · split
        · exact (readProperties_faultsOn (fun s => ih s) _).map _
        · exact hthrow _
      · exact hthrow _
    split
    · split
      · split
        · exact hpure _
        · exact hthrow _
      · exact hthrow _
    split
    · split
      · exact (readMultiplicity_faultsOn _ _).map _
      · exact hthrow _
    split
    · exact hthrow _
    · exact hpure _

theorem readType_faultsOn (text : String) (line : Option Nat) :
    FaultsOn line (readType text line) :=
  readTypeWith_faultsOn _ text line

theorem readField_faultsOn (text : String) (line : Option Nat) :
    FaultsOn line (readField text line) := by
  intro e h
  simp only [readField, bind, Except.bind, pure, Except.pure, throw, throwThe,
    MonadExceptOf.throw] at h
  split at h
  next e' hs => cases h; exact readSigils_faultsOn text line _ hs
  next v _ =>
    split at h
    next namesPart remainder _ =>
      split at h
      · cases h; rfl
      · split at h
        next e' hg => cases h; exact extractGroups_faultsOn _ line _ hg
        next g _ =>
          split at h
          · cases h; rfl
          · split at h
            next e' hc =>
              cases h
              exact faultsOn_flatMapM (readConstraintList_faultsOn · line) _ _ hc
            next =>
              split at h
              next e' ht => cases h; exact readType_faultsOn _ line _ ht
              next => cases h
    next => cases h; rfl

theorem readRelationship_faultsOn (text : String) (line : Option Nat) :
    FaultsOn line (readRelationship text line) := by
  intro e h
  simp only [readRelationship, bind, Except.bind, pure, Except.pure, throw, throwThe,
    MonadExceptOf.throw] at h
  repeat' split at h
  all_goals simp only [reduceCtorEq, Except.error.injEq] at h
  all_goals (subst h; rfl)

theorem readLink_faultsOn (text : String) (line : Option Nat) :
    FaultsOn line (readLink text line) := by
  intro e h
  unfold readLink at h
  simp only at h
  split at h
  · cases h
  · cases h; rfl

end SchemaNotation.Notation
