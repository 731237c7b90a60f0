/-
  ArgProcessor/Proofs/ArgumentList/Insertion.lean
  ===============================================
  **Declaring arguments one after the other.**

  A declaration gives back what was found under its name, changes what is found under that name
  alone, and leaves every other argument at its place (`declare_isStep`).  A run of declarations
  (`declareAll`) therefore ends in a list that holds the last argument declared under each name,
  in the order of the first declarations, and that no later declaration puts into another order
  (`declareAll_holds`).
-/
import ArgProcessor.Proofs.ArgumentList.Declarations

namespace ArgProcessor

/-! ### Replacing in place -/

theorem find?_upsert (a : Argument) (l : List Argument) (name : String) :
    (upsert a l).find? (·.name == name) =
      if a.name = name then some a else l.find? (·.name == name) := by
  induction l with
  | nil => by_cases h : a.name = name <;> simp [upsert, h]
  | cons b rest ih =>
    simp only [upsert]
    split
    · next hb => by_cases h : a.name = name <;> simp [hb, h]
    · next hb =>
      by_cases hname : b.name = name
      · have h : ¬a.name = name := fun e => hb (hname.trans e.symm)
        simp [hname, h]
      · rw [List.find?_cons_of_neg (by simpa using hname), ih,
          List.find?_cons_of_neg (by simpa using hname)]

theorem fst_exchange (a : Argument) (l : List Argument) :
    (exchange a l).1 = l.find? (·.name == a.name) := by
  induction l with
  | nil => rfl
  | cons b rest ih =>
    simp only [exchange]
    split
    · next hb => rw [List.find?_cons_of_pos (by simpa using hb)]
    · next hb => rw [List.find?_cons_of_neg (by simpa using hb), ih]

theorem length_upsert (a : Argument) (l : List Argument) :
    (upsert a l).length =
      l.length + if l.find? (·.name == a.name) = none then 1 else 0 := by
  induction l with
  | nil => rfl
  | cons b rest ih =>
    simp only [upsert]
    split
    · next hb =>
      rw [List.find?_cons_of_pos (by simpa using hb)]
      rfl
    · next hb =>
      rw [List.find?_cons_of_neg (by simpa using hb), List.length_cons, ih, List.length_cons,
        Nat.add_right_comm]

theorem upsert_of_not_mem {a : Argument} {l : List Argument} (h : a.name ∉ l.map (·.name)) :
    upsert a l = l ++ [a] := by
  induction l with
  | nil => rfl
  | cons b rest ih =>
    rw [List.map_cons, List.mem_cons, not_or] at h
    rw [upsert, if_neg (Ne.symm h.1), ih h.2, List.cons_append]

/-- An argument stands where the one of its name stood. -/
theorem upsert_of_find? {a b : Argument} {l : List Argument}
    (h : l.find? (·.name == a.name) = some b) :
    ∃ before after, l = before ++ b :: after ∧ upsert a l = before ++ a :: after := by
  induction l with
  | nil => contradiction
  | cons c rest ih =>
    by_cases hc : c.name = a.name
    · rw [List.find?_cons_of_pos (by simpa using hc), Option.some.injEq] at h
      subst h
      exact ⟨[], rest, rfl, by rw [upsert, if_pos hc, List.nil_append]⟩
    · rw [List.find?_cons_of_neg (by simpa using hc)] at h
      obtain ⟨before, after, rfl, hrest⟩ := ih h
      exact ⟨c :: before, after, rfl, by rw [upsert, if_neg hc, hrest, List.cons_append]⟩

namespace ArgumentList

/-! ### One declaration -/

@[simp] theorem fst_declare (s : ArgumentList) (a : Argument) :
    (s.declare a).1 = s.get? a.name :=
  fst_exchange a s.arguments

@[simp] theorem snd_declare (s : ArgumentList) (a : Argument) : (s.declare a).2 = s.insert a := by
  simp only [declare, insert, snd_exchange]

theorem get?_insert (s : ArgumentList) (a : Argument) (name : String) :
    (s.insert a).get? name = if a.name = name then some a else s.get? name :=
  find?_upsert a s.arguments name

theorem arguments_insert_of_get?_eq_none {s : ArgumentList} {a : Argument}
    (h : s.get? a.name = none) : (s.insert a).arguments = s.arguments ++ [a] := by
  rw [arguments_insert]
  apply upsert_of_not_mem
  intro hmem
  obtain ⟨b, hb, hname⟩ := List.mem_map.1 hmem
  exact List.find?_eq_none.1 h b hb (beq_iff_eq.2 hname)

theorem names_prefix_insert (s : ArgumentList) (a : Argument) : s.names <+: (s.insert a).names := by
  rw [names, names, arguments_insert, names_upsert]
  split
  · exact List.prefix_rfl
  · exact List.prefix_append _ _

theorem mem_arguments_iff (s : ArgumentList) (a : Argument) :
    a ∈ s.arguments ↔ s.get? a.name = some a := by
  constructor
  · intro ha
    obtain ⟨b, hb⟩ : ∃ b, s.get? a.name = some b := by
      rw [← Option.isSome_iff_exists, get?, List.find?_isSome]
      exact ⟨a, ha, beq_self_eq_true _⟩
    have hname : b.name = a.name := by simpa using List.find?_some hb
    rw [hb, List.inj_on_of_nodup_map s.nodup (List.mem_of_find?_eq_some hb) ha hname]
  · exact fun h => List.mem_of_find?_eq_some h

/-- What declaring `a` in the list `s` does: it gives back `replaced` and leaves `t`. -/
structure IsStep (s : ArgumentList) (a : Argument) (replaced : Option Argument)
    (t : ArgumentList) : Prop where
  replaced_eq : replaced = s.get? a.name
  size_eq : t.size = s.size + if replaced = none then 1 else 0
  get?_self : t.get? a.name = some a
  get?_of_ne : ∀ name, name ≠ a.name → t.get? name = s.get? name
  names_stay : s.names <+: t.names
  overrides_eq : t.overrides = s.overrides

theorem declare_isStep (s : ArgumentList) (a : Argument) :
    IsStep s a (s.declare a).1 (s.declare a).2 := by
  rw [fst_declare, snd_declare]
  constructor
  case replaced_eq => rfl
  case size_eq => exact length_upsert a s.arguments
  case get?_self => rw [get?_insert, if_pos rfl]
  case get?_of_ne => exact fun name hne => by rw [get?_insert, if_neg hne.symm]
  case names_stay => exact names_prefix_insert s a
  case overrides_eq => rfl

/-! ### Runs of declarations -/

/-- Declares arguments one after the other and gives back what each of them replaced. -/
def declareAll (s : ArgumentList) : List Argument → List (Option Argument) × ArgumentList
  | [] => ([], s)
  | a :: rest =>
    let declared := s.declare a
    let later := declared.2.declareAll rest
    (declared.1 :: later.1, later.2)

theorem length_fst_declareAll (s : ArgumentList) (l : List Argument) :
    (s.declareAll l).1.length = l.length := by
  induction l generalizing s with
  | nil => rfl
  | cons a l ih => rw [declareAll, List.length_cons, ih, List.length_cons]

theorem declareAll_append (s : ArgumentList) (l m : List Argument) :
    s.declareAll (l ++ m) =
      ((s.declareAll l).1 ++ ((s.declareAll l).2.declareAll m).1,
        ((s.declareAll l).2.declareAll m).2) := by
  induction l generalizing s with
  | nil => rfl
  | cons a l ih => simp only [List.cons_append, declareAll, ih]

theorem snd_declareAll (s : ArgumentList) (l : List Argument) :
    (s.declareAll l).2 = l.foldl insert s := by
  induction l generalizing s with
  | nil => rfl
  | cons a l ih => rw [declareAll, ih, snd_declare, List.foldl_cons]

theorem names_prefix_declareAll (s : ArgumentList) (l : List Argument) :
    s.names <+: (s.declareAll l).2.names := by
  induction l generalizing s with
  | nil => exact List.prefix_rfl
  | cons a l ih => exact (declare_isStep s a).names_stay.trans (ih _)

theorem getElem?_fst_declareAll (s : ArgumentList) (l : List Argument) (a : Argument)
    (rest : List Argument) :
    (s.declareAll (l ++ a :: rest)).1[l.length]? = some ((s.declareAll l).2.declare a).1 := by
  have hlength := length_fst_declareAll s l
  rw [declareAll_append, List.getElem?_append_right (Nat.le_of_eq hlength), hlength, Nat.sub_self]
  rfl

/-! ### What a run leaves -/

/-- The list holds the last argument of each name among those declared, in the order in which the
    names first occur. -/
structure Holds (s : ArgumentList) (declared : List Argument) : Prop where
  nodup : s.names.Nodup
  names_eq : s.names = (declared.map (·.name)).eraseDups
  get?_eq : ∀ name, s.get? name = declared.findRev? (·.name == name)
  mem_iff : ∀ a, a ∈ s.arguments ↔ s.get? a.name = some a

theorem get?_ofArguments (l : List Argument) (name : String) :
    (ofArguments l).get? name = l.findRev? (·.name == name) := by
  induction l using List.reverseRecOn with
  | nil => rfl
  | append_singleton l a ih =>
    rw [List.findRev?_eq_find?_reverse] at ih ⊢
    rw [ofArguments_concat, get?_insert, ih, List.reverse_concat, List.find?_cons]
    by_cases h : a.name = name
    · rw [if_pos h, beq_iff_eq.2 h]
    · rw [if_neg h, beq_false_of_ne h]

theorem holds_ofArguments (l : List Argument) : (ofArguments l).Holds l where
  nodup := (ofArguments l).nodup
  names_eq := names_ofArguments l
  get?_eq := get?_ofArguments l
  mem_iff := mem_arguments_iff (ofArguments l)

theorem arguments_ofArguments_of_nodup {l : List Argument} (h : (l.map (·.name)).Nodup) :
    (ofArguments l).arguments = l := by
  induction l using List.reverseRecOn with
  | nil => rfl
  | append_singleton l a ih =>
    -- the last name is new, so its argument goes to the end
    rw [List.map_append, List.map_singleton, ← List.concat_eq_append, List.nodup_concat] at h
    rw [ofArguments_concat, arguments_insert, ih h.2, upsert_of_not_mem h.1]

/-- **A run of declarations leaves the last argument of each name, at the place of the first.**
    Each declaration of the run is a step, no later one moves a name, and declaring the arguments
    that are left gives them again. -/
theorem declareAll_holds (l : List Argument) :
    (empty.declareAll l).2.Holds l ∧
      (∀ a rest, ∃ replaced,
        (empty.declareAll (l ++ a :: rest)).1[l.length]? = some replaced ∧
          IsStep (empty.declareAll l).2 a replaced (empty.declareAll (l ++ [a])).2) ∧
      (∀ rest, (empty.declareAll l).2.names <+: (empty.declareAll (l ++ rest)).2.names) ∧
      ofArguments l = (empty.declareAll l).2 ∧
      (ofArguments (empty.declareAll l).2.arguments).arguments =
        (empty.declareAll l).2.arguments := by
  have hrun : (empty.declareAll l).2 = ofArguments l := snd_declareAll empty l
  refine ⟨hrun ▸ holds_ofArguments l, fun a rest => ?_, fun rest => ?_, hrun.symm, ?_⟩
  · have hstep : (empty.declareAll (l ++ [a])).2 = ((empty.declareAll l).2.declare a).2 := by
      rw [declareAll_append]
      rfl
    exact ⟨_, getElem?_fst_declareAll empty l a rest, hstep ▸ declare_isStep _ a⟩
  · rw [declareAll_append]
    exact names_prefix_declareAll _ rest
  · exact arguments_ofArguments_of_nodup (empty.declareAll l).2.nodup

/-- A name declared a second time answers with the first argument and keeps its place. -/
example :
    let run := empty.declareAll
      [⟨"out", "file", true, true, false, false⟩, ⟨"v", "flag", false, false, false, false⟩,
        ⟨"out", "string", false, false, false, false⟩]
    run.1 = [none, none, some ⟨"out", "file", true, true, false, false⟩] ∧
      run.2.arguments =
        [⟨"out", "string", false, false, false, false⟩,
          ⟨"v", "flag", false, false, false, false⟩] := by
  decide

end ArgumentList

end ArgProcessor
