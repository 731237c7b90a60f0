/-
  ArgProcessor/ArgumentList/Basic.lean
  ====================================
  **Argument lists**: the arguments of a program in the order of their declaration.

  A name declares one argument.  Declaring it again replaces the argument and keeps its place
  (`upsert`), so the names stay distinct (`nodup_upsert`) and a new one goes to the end
  (`names_upsert`).  Who wants to know which argument was replaced gets it back (`exchange`).  A
  list also remembers which rows of its source replaced an earlier one.
-/
import ArgProcessor.Argument.Basic

namespace ArgProcessor

/-- A row that declares a name again, with the line of the first declaration. -/
structure Override where
  name : String
  firstLine : Nat
  line : Nat
deriving DecidableEq, Repr

/-! ### Replacing in place -/

/-- Puts `a` in the place of the argument of its name, or at the end. -/
def upsert (a : Argument) : List Argument → List Argument
  | [] => [a]
  | b :: rest => if b.name = a.name then a :: rest else b :: upsert a rest

theorem names_upsert (a : Argument) (l : List Argument) :
    (upsert a l).map (·.name) =
      if a.name ∈ l.map (·.name) then l.map (·.name) else l.map (·.name) ++ [a.name] := by
  induction l with
  | nil => rfl
  | cons b rest ih =>
    by_cases h : b.name = a.name
    · simp [upsert, h]
    · have h' : ¬a.name = b.name := fun e => h e.symm
      simp only [upsert, if_neg h, List.map_cons, ih, List.mem_cons, h', false_or]
      split <;> rfl

theorem nodup_upsert {a : Argument} {l : List Argument} (h : (l.map (·.name)).Nodup) :
    ((upsert a l).map (·.name)).Nodup := by
  rw [names_upsert]
  split
  · exact h
  · next hn =>
    refine List.nodup_append.2 ⟨h, by simp, ?_⟩
    intro x hx y hy
    rw [List.mem_singleton.1 hy]
    intro e
    exact hn (e ▸ hx)

/-- Puts `a` in the place of the argument of its name, which is given back, or at the end. -/
def exchange (a : Argument) : List Argument → Option Argument × List Argument
  | [] => (none, [a])
  | b :: rest =>
    if b.name = a.name then (some b, a :: rest)
    else
      let (replaced, others) := exchange a rest
      (replaced, b :: others)

/-- Exchanging leaves the list that replacing leaves. -/
theorem snd_exchange (a : Argument) (l : List Argument) : (exchange a l).2 = upsert a l := by
  induction l with
  | nil => rfl
  | cons b rest ih =>
    simp only [exchange, upsert]
    split
    · rfl
    · rw [ih]

/-! ### Lists of arguments -/

/-- Arguments with distinct names, in the order of their first declaration. -/
structure ArgumentList where
  arguments : List Argument
  overrides : List Override
  nodup : (arguments.map (·.name)).Nodup

namespace ArgumentList

def empty : ArgumentList := ⟨[], [], by simp⟩

/-- Declares an argument; the recorded overrides stay as they are. -/
def insert (s : ArgumentList) (a : Argument) : ArgumentList :=
  ⟨upsert a s.arguments, s.overrides, nodup_upsert s.nodup⟩

/-- Declares an argument and gives back the one that it replaced. -/
def declare (s : ArgumentList) (a : Argument) : Option Argument × ArgumentList :=
  let exchanged := exchange a s.arguments
  (exchanged.1, ⟨exchanged.2, s.overrides, snd_exchange a s.arguments ▸ nodup_upsert s.nodup⟩)

def get? (s : ArgumentList) (name : String) : Option Argument :=
  s.arguments.find? (·.name == name)

def names (s : ArgumentList) : List String := s.arguments.map (·.name)

def size (s : ArgumentList) : Nat := s.arguments.length

/-- The list that declares the given arguments one after the other. -/
def ofArguments (l : List Argument) : ArgumentList := l.foldl insert empty

@[simp] theorem arguments_insert (s : ArgumentList) (a : Argument) :
    (s.insert a).arguments = upsert a s.arguments := rfl

end ArgumentList

end ArgProcessor
