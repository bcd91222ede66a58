import Postral.Lib.Check

/-! # Errors and strings of the services -/

namespace Postral

/-- What a service throws: the exception class and its message. -/
inductive HttpError where
  | badRequest (message : String)
  | conflict (message : String)
  | forbidden (message : String)
  | notFound (message : String)
  /-- A plain `Error`, or a database error. -/
  | internal (message : String)
  deriving DecidableEq, Repr

/-- `EntityNotFoundError` of `findOneOrFail`. -/
def entityNotFound (entity : String) : HttpError := .internal s!"Could not find any entity of type {entity}"

/-- `Boolean(value)` of an optional string. -/
def truthy : Option String → Bool
  | none => false
  | some s => s ≠ ""

/-- White space of `String.prototype.trim`. -/
def isTrimmed (c : Char) : Bool :=
  c.toNat ∈ [9, 10, 11, 12, 13, 32, 160, 5760, 8232, 8233, 8239, 8287, 12288, 65279] ∨
    (8192 ≤ c.toNat ∧ c.toNat ≤ 8202)

/-- `!s.trim()`. -/
def isBlank (s : String) : Bool := s.toList.all isTrimmed

/-- `s.length`: the UTF-16 code units. -/
def utf16Length (s : String) : Nat := (s.toList.map fun c => if c.toNat < 65536 then 1 else 2).sum

/-- `[...new Set(values)]`. -/
def uniqueValues (values : List String) : List String :=
  values.foldl (fun seen value => if value ∈ seen then seen else seen ++ [value]) []

theorem uniqueValues_nodup (values : List String) : (uniqueValues values).Nodup := by
  unfold uniqueValues
  apply List.foldlRecOn (motive := List.Nodup) values _ List.nodup_nil
  intro seen hseen value _
  split <;> rename_i hmem
  · exact hseen
  · rw [List.nodup_append_comm]
    simpa using ⟨hmem, hseen⟩

theorem uniqueValues_of_nodup {values : List String} (h : values.Nodup) : uniqueValues values = values := by
  have hfold : ∀ seen : List String, (seen ++ values).Nodup →
      values.foldl (fun seen value => if value ∈ seen then seen else seen ++ [value]) seen = seen ++ values := by
    clear h
    induction values with
    | nil => simp
    | cons value values ih =>
      intro seen hseen
      have hmem : value ∉ seen := fun hvalue => by
        simpa using List.disjoint_of_nodup_append hseen hvalue
      rw [List.foldl_cons, if_neg hmem, ih _ (by simpa using hseen), List.append_assoc, List.singleton_append]
  exact hfold [] h

end Postral
