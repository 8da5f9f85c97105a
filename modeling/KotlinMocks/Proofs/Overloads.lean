import KotlinMocks.Emit.MemberPlan
import Mathlib.Data.List.FinRange

/-!
# Overload names

Before field names are made unique, a function is named after itself when no other function
of the list shares its name, and otherwise after itself and the simple type names of its
parameters (`save_User_Boolean`). `disambiguate` counts the names over the whole list and then
names each function, so the name a function gets depends on the names of the list as a
multiset, never on where the function stands: `overloadField` gives it from the name counts
alone (`disambiguate_eq_map`), the counts do not change when the list is reordered, and so
`disambiguate` commutes with every permutation of its input (`overload_names_follow_counts`).
-/

namespace KotlinMocks

/-- The field name of `f` among functions named `names`: its own name when it occurs once
there, else its name followed by `_` and the simple type name of each parameter, in order. -/
def overloadField (names : List String) (f : Function) : String :=
  if names.count f.name = 1 then f.name
  else f.name ++ String.join (f.parameters.map fun p => "_" ++ p.type.simpleName)

/-- Name counts that agree give the same field names. -/
theorem overloadField_of_perm {names names' : List String} (reordered : names.Perm names') :
    overloadField names = overloadField names' := by
  funext f
  simp only [overloadField, reordered.count_eq]

/-- The functions of a list sharing a name with one of them are counted by its name. -/
theorem countP_name_eq_count (fs : List Function) (name : String) :
    fs.countP (·.name == name) = (fs.map (·.name)).count name := by
  rw [List.count, List.countP_map]
  rfl

/-- `disambiguate` names every function of the list by the name counts of the list. -/
theorem disambiguate_eq_map (fs : List Function) :
    disambiguate fs = fs.map (overloadField (fs.map (·.name))) := by
  unfold disambiguate
  refine List.map_congr_left fun f member => ?_
  -- the function itself is among those named like it, so "more than one" is "not exactly one"
  have present : 0 < (fs.map (·.name)).count f.name :=
    List.count_pos_iff.mpr (List.mem_map_of_mem member)
  rw [countP_name_eq_count, overloadField]
  by_cases once : (fs.map (·.name)).count f.name = 1
  · simp [once]
  · have shared : (fs.map (·.name)).count f.name > 1 := by omega
    simp [once, shared, Function.overloadName]

/-- Reordering a list of functions reorders their names with it: each function keeps the name
the original list gives it. -/
theorem disambiguate_of_perm {fs gs : List Function} (reordered : fs.Perm gs) :
    disambiguate gs = gs.map (overloadField (fs.map (·.name))) := by
  rw [disambiguate_eq_map, overloadField_of_perm (reordered.map _).symm]

theorem length_disambiguate (fs : List Function) : (disambiguate fs).length = fs.length := by
  simp [disambiguate]

/-- The field names before uniqueness: a function whose name occurs once in the list keeps it,
any other gets `_` and the simple type name of each parameter after its name, in declaration
order (nothing for a function without parameters); and naming the functions of a list in any
order `σ` names each function as the list does, so the names come out in the order `σ`. -/
theorem overload_names_follow_counts (fs : List Function) :
    disambiguate fs = fs.map (fun f =>
      if (fs.map (·.name)).count f.name = 1 then f.name
      else f.name ++ String.join (f.parameters.map fun p => "_" ++ p.type.simpleName)) ∧
    ∀ σ : Equiv.Perm (Fin fs.length),
      disambiguate (List.ofFn (fs.get ∘ σ)) =
        List.ofFn ((disambiguate fs).get ∘ Fin.cast (length_disambiguate fs).symm ∘ σ) := by
  refine ⟨disambiguate_eq_map fs, fun σ => ?_⟩
  have reordered : fs.Perm (List.ofFn (fs.get ∘ σ)) := by
    simpa using (σ.ofFn_comp_perm fs.get).symm
  rw [disambiguate_of_perm reordered, List.map_ofFn]
  congr 1
  funext i
  simp [disambiguate_eq_map]

example :
    disambiguate [Function.open "save" [.named "user" (.ofClass "p.User")] .unit,
        Function.open "save" [.named "user" (.ofClass "p.User"), .named "force" (.ofClass "kotlin.Boolean")]
          .unit,
        Function.open "load" [.named "id" (.ofClass "kotlin.Long")] .unit] =
      ["save_User", "save_User_Boolean", "load"] := by
  decide

end KotlinMocks
