/-
  ArgProcessor/Proofs/ArgumentList/Declarations.lean
  ==================================================
  **What is left of a sequence of declarations.**

  Declaring arguments one after the other leaves one of each name: the names come in the order in
  which they first occur, and each is carried by the last argument declared under it
  (`arguments_ofArguments`).
-/
import Mathlib.Data.List.Induction
import Mathlib.Data.List.Nodup
import ArgProcessor.ArgumentList.Basic

namespace ArgProcessor

/-- The last argument declared under each name, in the order in which the names first occur. -/
def lastDeclarations (l : List Argument) : List Argument :=
  (l.map (·.name)).eraseDups.filterMap fun name => l.findRev? (·.name == name)

/-! ### Members of an updated list -/

theorem mem_upsert_self (a : Argument) (l : List Argument) : a ∈ upsert a l := by
  induction l with
  | nil => exact List.mem_singleton_self a
  | cons b rest ih =>
    simp only [upsert]
    split
    · exact List.mem_cons_self
    · exact List.mem_cons_of_mem _ ih

theorem mem_of_mem_upsert {a b : Argument} {l : List Argument} (h : b ∈ upsert a l) :
    b = a ∨ b ∈ l := by
  induction l with
  | nil => exact Or.inl (List.mem_singleton.1 h)
  | cons c rest ih =>
    simp only [upsert] at h
    split at h
    · rcases List.mem_cons.1 h with rfl | h
      · exact Or.inl rfl
      · exact Or.inr (List.mem_cons_of_mem _ h)
    · rcases List.mem_cons.1 h with rfl | h
      · exact Or.inr List.mem_cons_self
      · exact (ih h).imp_right (List.mem_cons_of_mem _)

theorem eq_of_mem_upsert {a b : Argument} {l : List Argument} (hl : (l.map (·.name)).Nodup)
    (h : b ∈ upsert a l) (hname : b.name = a.name) : b = a :=
  List.inj_on_of_nodup_map (nodup_upsert hl) h (mem_upsert_self a l) hname

namespace ArgumentList

/-! ### Declaring one more argument -/

theorem ofArguments_concat (l : List Argument) (a : Argument) :
    ofArguments (l ++ [a]) = (ofArguments l).insert a := by
  simp [ofArguments]

theorem names_ofArguments (l : List Argument) :
    (ofArguments l).names = (l.map (·.name)).eraseDups := by
  induction l using List.reverseRecOn with
  | nil => rfl
  | append_singleton l a ih =>
    rw [names] at ih
    rw [ofArguments_concat, names, arguments_insert, names_upsert, ih, List.map_append,
      List.eraseDups_append, List.map_singleton, List.cons_removeAll, List.nil_removeAll]
    by_cases h : a.name ∈ l.map (·.name)
    · rw [if_pos (List.mem_eraseDups.2 h), List.contains_iff_mem.2 h]
      simp
    · rw [if_neg (fun hm => h (List.mem_eraseDups.1 hm)), if_pos (by simpa using h)]
      rfl

/-- Each argument of the list is the last one declared under its name. -/
theorem findRev?_of_mem_ofArguments {l : List Argument} {b : Argument}
    (h : b ∈ (ofArguments l).arguments) : l.findRev? (·.name == b.name) = some b := by
  induction l using List.reverseRecOn with
  | nil => exact absurd h List.not_mem_nil
  | append_singleton l a ih =>
    rw [ofArguments_concat, arguments_insert] at h
    rw [List.findRev?_eq_find?_reverse, List.reverse_concat, List.find?_cons]
    by_cases hname : a.name = b.name
    · obtain rfl := eq_of_mem_upsert (ofArguments l).nodup h hname.symm
      rw [beq_self_eq_true]
    · rw [beq_false_of_ne hname, ← List.findRev?_eq_find?_reverse]
      have hne : b ≠ a := fun e => hname (congrArg Argument.name e).symm
      exact ih ((mem_of_mem_upsert h).resolve_left hne)

/-- **The last declaration of each name is left, at the place of the first one.** -/
theorem arguments_ofArguments (l : List Argument) :
    (ofArguments l).arguments = lastDeclarations l := by
  have hnames := names_ofArguments l
  rw [names] at hnames
  have hlast : ∀ b ∈ (ofArguments l).arguments,
      ((fun name => l.findRev? (·.name == name)) ∘ Argument.name) b = some b :=
    fun b hb => findRev?_of_mem_ofArguments hb
  rw [lastDeclarations, ← hnames, List.filterMap_map, List.filterMap_congr hlast,
    List.filterMap_some]

end ArgumentList

end ArgProcessor
