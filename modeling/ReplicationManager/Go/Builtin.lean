import Mathlib.Data.List.AList

namespace ReplicationManager.Go

-- A Go slice is `nil` or a header over a backing list, which may be empty.
-- `len` and `range` cannot tell `nil` from `[]T{}`; only `== nil` can.
inductive GoSlice (α : Type) where
  | nil
  | make (elems : List α)
  deriving DecidableEq, Repr

namespace GoSlice

variable {α : Type}

def toList : GoSlice α → List α
  | nil => []
  | make elems => elems

-- Writing through the elements keeps the slice header, so a nil slice stays nil.
def setElems : GoSlice α → List α → GoSlice α
  | nil, _ => nil
  | make _, elems => make elems

def map {β : Type} (f : α → β) : GoSlice α → GoSlice β
  | nil => nil
  | make elems => make (elems.map f)

-- `append(s, x)`: the result is never nil, whatever `s` was.
def append (s : GoSlice α) (x : α) : GoSlice α := make (s.toList ++ [x])

@[simp] theorem toList_nil : (nil : GoSlice α).toList = [] := rfl

@[simp] theorem toList_make (elems : List α) : (make elems).toList = elems := rfl

theorem toList_setElems (s : GoSlice α) (elems : List α)
    (hlen : elems.length = s.toList.length) : (s.setElems elems).toList = elems := by
  cases s with
  | nil => exact (List.eq_nil_of_length_eq_zero hlen).symm
  | make _ => rfl

@[simp] theorem setElems_toList (s : GoSlice α) : s.setElems s.toList = s := by
  cases s <;> rfl

@[simp] theorem setElems_setElems (s : GoSlice α) (elems elems' : List α) :
    (s.setElems elems).setElems elems' = s.setElems elems' := by
  cases s <;> rfl

@[simp] theorem toList_map {β : Type} (f : α → β) (s : GoSlice α) :
    (s.map f).toList = s.toList.map f := by
  cases s <;> rfl

-- Rewriting the elements into ones that look the same through `f` leaves the slice the
-- same through `f`.
theorem map_setElems {β : Type} (f : α → β) (s : GoSlice α) {elems : List α}
    (h : elems.map f = s.toList.map f) : (s.setElems elems).map f = s.map f := by
  cases s with
  | nil => rfl
  | make _ => exact congrArg make h

-- A loop appending one element per item leaves a nil slice nil only when it has no item.
theorem foldl_append {β : Type} (f : β → α) :
    ∀ (l : List β) (s : GoSlice α),
      l.foldl (fun acc x => acc.append (f x)) s = if l.isEmpty then s else make (s.toList ++ l.map f)
  | [], _ => rfl
  | x :: xs, s => by
      rw [List.foldl_cons, foldl_append f xs]
      cases xs <;> simp [append]

end GoSlice

-- `m[k]` on a Go `map[string]string`: a missing key reads as the zero value "".
def mapIndex (m : AList (fun _ : String => String)) (k : String) : String :=
  (m.lookup k).getD ""

theorem mapIndex_of_mem {m : AList (fun _ : String => String)} {k v : String}
    (h : (⟨k, v⟩ : Σ _ : String, String) ∈ m.entries) : mapIndex m k = v := by
  rw [mapIndex, Option.mem_def.mp (AList.mem_lookup_iff.mpr h)]
  rfl

-- A loop whose body may panic (a panic is `.error ()`): it panics exactly when the body
-- panics on some element, as long as whether it does never depends on what the loop has
-- built so far.
theorem foldlM_eq_error_iff {α β : Type} (step : β → α → Except Unit β) (fails : α → Prop)
    (hfails : ∀ acc x, step acc x = .error () ↔ fails x) :
    ∀ (l : List α) (acc : β), l.foldlM step acc = .error () ↔ ∃ x ∈ l, fails x
  | [], acc => by simp [pure, Except.pure]
  | x :: xs, acc => by
      rw [List.foldlM_cons]
      cases h : step acc x with
      | error e => simp [bind, Except.bind, (hfails acc x).mp h]
      | ok b =>
          have hx : ¬ fails x := fun hx => by simp [(hfails acc x).mpr hx] at h
          simp [bind, Except.bind, foldlM_eq_error_iff step fails hfails xs b, hx]

-- A loop whose body does not panic on the list runs as the pure fold.
theorem foldlM_eq_ok {α β : Type} (step : β → α → Except Unit β) (next : β → α → β) :
    ∀ (l : List α) (acc : β), (∀ acc, ∀ x ∈ l, step acc x = .ok (next acc x)) →
      l.foldlM step acc = .ok (l.foldl next acc)
  | [], _, _ => rfl
  | x :: xs, acc, h => by
      rw [List.foldlM_cons, h acc x (List.mem_cons_self x xs)]
      exact foldlM_eq_ok step next xs _ fun acc y hy => h acc y (List.mem_cons_of_mem x hy)

end ReplicationManager.Go
