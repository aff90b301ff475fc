import Charting.Options.Tree

/-!
# Merging option trees

Objects merge key by key, to any depth: known keys stay in place and new ones follow in their own
order. Any other value of the source replaces what it meets.
-/

namespace Charting

namespace OptionTree

mutual
/-- The target with the source laid over it. -/
def merge (target : OptionTree) : OptionTree → OptionTree
  | .obj source =>
    match target with
    | .obj fields => .obj (mergeFields fields source)
    | _ => .obj source
  | source => source

/-- Lays the fields of the source over those of the target, one after another. -/
def mergeFields (target : OptionMap) : List (String × OptionTree) → OptionMap
  | [] => target
  | (key, value) :: rest =>
    mergeFields
      (Entries.update key (fun | some existing => existing.merge value | none => value) target)
      rest
end

variable {target source : OptionMap}

@[simp] theorem obj_merge_obj :
    (OptionTree.obj target).merge (.obj source) = .obj (mergeFields target source) := by
  rw [merge]

@[simp] theorem mergeFields_nil : mergeFields target [] = target := by rw [mergeFields]

theorem mergeFields_cons {key : String} {value : OptionTree} :
    mergeFields target ((key, value) :: source) =
      mergeFields
        (Entries.update key (fun | some existing => existing.merge value | none => value) target)
        source := by
  rw [mergeFields]

/-- Lays the source over the target if it is an object, and otherwise leaves the target. -/
def mergeObject (target source : OptionTree) : OptionTree :=
  match source with
  | .obj fields => target.merge (.obj fields)
  | _ => target

end OptionTree

end Charting
