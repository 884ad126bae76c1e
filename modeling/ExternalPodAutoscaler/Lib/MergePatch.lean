/-
Merge patches of documents.

A merge patch that is an object sets the fields it names, and removes those it names with `null`;
one that is not an object replaces the document.  `get_mergePatch` says which field a document has
after a patch.
-/
import ExternalPodAutoscaler.Lib.Json
import Mathlib.Data.List.Basic
import Mathlib.Data.List.Lookmap
import Mathlib.Data.List.Nodup

namespace ExternalPodAutoscaler.Lib

namespace Json

/-- The fields of an object; other values have none. -/
def fields : Json → List (String × Json)
  | obj fields => fields
  | _ => []

/-- The field of a name. -/
def get (j : Json) (name : String) : Option Json := j.fields.lookup name

/-- The fields without those of a name. -/
def removeField (name : String) (fields : List (String × Json)) : List (String × Json) :=
  fields.filter fun f => f.1 ≠ name

/-- The fields with one set. -/
def setField (name : String) (value : Json) (fields : List (String × Json)) :
    List (String × Json) :=
  (name, value) :: removeField name fields

mutual

/-- The document after a merge patch. -/
def mergePatch (target : Json) : Json → Json
  | obj fields => obj (mergeFields target.fields fields)
  | patch => patch
termination_by structural patch => patch

/-- The fields of a document after the fields of a patch. -/
def mergeFields (target : List (String × Json)) : List (String × Json) → List (String × Json)
  | [] => target
  | (name, value) :: rest =>
    match value with
    | null => mergeFields (removeField name target) rest
    | value =>
      mergeFields (setField name (mergePatch ((target.lookup name).getD null) value) target) rest
termination_by structural patch => patch

end

/-- What a field becomes by the value that a patch has for it. -/
def mergeField (old : Option Json) : Option Json → Option Json
  | none => old
  | some null => none
  | some value => some (mergePatch (old.getD null) value)

variable {name name' : String} {value : Json} {target fields : List (String × Json)}

lemma lookup_removeField : (removeField name target).lookup name' =
    if name' = name then none else target.lookup name' := by
  induction target with
  | nil => simp [removeField]
  | cons f target ih =>
      obtain ⟨key, old⟩ := f
      rw [removeField] at ih ⊢
      by_cases hkey : key = name
      · subst hkey
        rw [List.filter_cons_of_neg (by simp), ih, List.lookup_cons]
        by_cases hname : name' = key
        · simp [hname]
        · have hbeq : (name' == key) = false := beq_eq_false_iff_ne.2 hname
          simp [hname, hbeq]
      · rw [List.filter_cons_of_pos (by simpa using hkey), List.lookup_cons, ih, List.lookup_cons]
        by_cases hname : name' = key
        · subst hname
          simp [hkey]
        · have hbeq : (name' == key) = false := beq_eq_false_iff_ne.2 hname
          simp [hbeq]

lemma lookup_setField : (setField name value target).lookup name' =
    if name' = name then some value else target.lookup name' := by
  rw [setField, List.lookup_cons, lookup_removeField]
  by_cases hname : name' = name
  · simp [hname]
  · have hbeq : (name' == name) = false := beq_eq_false_iff_ne.2 hname
    simp [hname, hbeq]

/-- One field of a patch changes the field of its name. -/
lemma exists_mergeFields_cons (name : String) (value : Json)
    (target fields : List (String × Json)) :
    ∃ target', mergeFields target ((name, value) :: fields) = mergeFields target' fields ∧
      ∀ name', target'.lookup name' =
        if name' = name then mergeField (target.lookup name) (some value)
        else target.lookup name' := by
  cases value with
  | null => exact ⟨_, rfl, fun name' => lookup_removeField⟩
  | bool b => exact ⟨_, rfl, fun name' => lookup_setField⟩
  | int n => exact ⟨_, rfl, fun name' => lookup_setField⟩
  | float x => exact ⟨_, rfl, fun name' => lookup_setField⟩
  | str s => exact ⟨_, rfl, fun name' => lookup_setField⟩
  | arr elems => exact ⟨_, rfl, fun name' => lookup_setField⟩
  | obj fields' => exact ⟨_, rfl, fun name' => lookup_setField⟩

/-- Only the fields that the patch names change. -/
lemma lookup_mergeFields (hnodup : (fields.map Prod.fst).Nodup) :
    (mergeFields target fields).lookup name =
      mergeField (target.lookup name) (fields.lookup name) := by
  induction fields generalizing target with
  | nil => rfl
  | cons f fields ih =>
      obtain ⟨key, value⟩ := f
      rw [List.map_cons, List.nodup_cons] at hnodup
      obtain ⟨target', hstep, hlookup⟩ := exists_mergeFields_cons key value target fields
      rw [hstep, ih hnodup.2, hlookup, List.lookup_cons]
      by_cases hname : name = key
      · subst hname
        have hnone : fields.lookup name = none := by
          rw [List.lookup_eq_none_iff]
          intro f hf
          rw [bne_iff_ne]
          rintro rfl
          exact hnodup.1 (List.mem_map.2 ⟨f, hf, rfl⟩)
        rw [hnone, if_pos rfl, beq_self_eq_true]
        rfl
      · have hbeq : (name == key) = false := beq_eq_false_iff_ne.2 hname
        rw [if_neg hname, hbeq]

/-- **What a merge patch does.** A field of the document after a patch with distinct names is
what the value of the patch for it makes of the field before. -/
theorem get_mergePatch (hnodup : (fields.map Prod.fst).Nodup) (j : Json) :
    (mergePatch j (obj fields)).get name = mergeField (j.get name) (fields.lookup name) :=
  lookup_mergeFields hnodup

end Json

end ExternalPodAutoscaler.Lib
